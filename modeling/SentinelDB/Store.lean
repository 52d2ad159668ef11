import SentinelDB.History
import Mathlib.Data.List.AList

/-!
# The version map

`KVStore::store`, an `std::unordered_map` from keys to histories, as an association
list. The map's iteration order is unspecified in C++; the model iterates in list
order, and nothing proved here depends on the order.
-/

namespace SentinelDB

set_option autoImplicit false

/-- `std::unordered_map<std::string, std::vector<Version>>`. -/
abbrev Store := AList fun _ : String => List Version

namespace Store

/-- `store[key].emplace_back(v)`: the entry is created when the key is absent. -/
def emplaceBack (s : Store) (key : String) (v : Version) : Store :=
  s.insert key ((s.lookup key).getD [] ++ [v])

/-- The store side of `KVStore::applyRetention(key)`; absent keys and empty histories stay. -/
def applyRetention (s : Store) (policy : RetentionPolicy) (now : Int) (key : String) : Store :=
  match s.lookup key with
  | none => s
  | some [] => s
  | some versions => s.insert key (retain policy now versions)

/-- Rewrite every history in place, as the loop of `setRetentionPolicy` does. -/
def mapHistories (f : String → List Version → List Version) (s : Store) : Store :=
  ⟨s.entries.map fun e => ⟨e.1, f e.1 e.2⟩, by
    show (List.map Sigma.fst _).Nodup
    rw [List.map_map]
    exact s.nodupKeys⟩

/-- `KVStore::getAllData`: the latest value of every key that has a version. -/
def getAllData (s : Store) : List (String × String) :=
  s.entries.filterMap fun e => e.2.getLast?.map fun v => (e.1, v.value)

/-- Values stored under `key`. -/
def history (s : Store) (key : String) : List Version := (s.lookup key).getD []

theorem lookup_emplaceBack (s : Store) (key k : String) (v : Version) :
    (s.emplaceBack key v).lookup k =
      if k = key then some ((s.lookup key).getD [] ++ [v]) else s.lookup k := by
  unfold emplaceBack
  split
  · subst k; exact AList.lookup_insert s
  · exact AList.lookup_insert_ne ‹_›

theorem lookup_applyRetention (s : Store) (policy : RetentionPolicy) (now : Int) (key k : String) :
    (s.applyRetention policy now key).lookup k =
      if k = key then (s.lookup key).map (retain policy now) else s.lookup k := by
  unfold applyRetention
  split
  · rename_i h
    split
    · rename_i hk; rw [hk, h]; rfl
    · rfl
  · rename_i h
    split
    · rename_i hk; subst hk; simp [h]
    · rfl
  · rename_i hlook
    split
    · rename_i hk; rw [hk, hlook, AList.lookup_insert]; rfl
    · exact AList.lookup_insert_ne ‹_›

theorem lookup_erase (s : Store) (key k : String) :
    (s.erase key).lookup k = if k = key then none else s.lookup k := by
  split
  · rename_i hk; rw [hk]; exact AList.lookup_erase key s
  · exact AList.lookup_erase_ne ‹_›

theorem dlookup_map (f : String → List Version → List Version)
    (es : List (Sigma fun _ : String => List Version)) (k : String) :
    (es.map fun e => (⟨e.1, f e.1 e.2⟩ : Sigma fun _ : String => List Version)).dlookup k =
      (es.dlookup k).map (f k) := by
  induction es with
  | nil => rfl
  | cons e es ih =>
    obtain ⟨k', vs⟩ := e
    by_cases h : k = k'
    · subst h; simp [List.dlookup_cons_eq]
    · dsimp only [List.map_cons]
      rw [List.dlookup_cons_ne _ _ h, List.dlookup_cons_ne _ _ h, ih]

@[simp] theorem lookup_mapHistories (f : String → List Version → List Version) (s : Store) (k : String) :
    (s.mapHistories f).lookup k = (s.lookup k).map (f k) :=
  dlookup_map f s.entries k

theorem mem_getAllData {s : Store} {k v : String} :
    (k, v) ∈ s.getAllData ↔ ∃ h w, s.lookup k = some h ∧ h.getLast? = some w ∧ w.value = v := by
  simp only [getAllData, List.mem_filterMap, Option.map_eq_some', Prod.mk.injEq]
  constructor
  · rintro ⟨e, he, w, hw, rfl, rfl⟩
    exact ⟨e.2, w, AList.mem_lookup_iff.mpr he, hw, rfl⟩
  · rintro ⟨h, w, hk, hw, rfl⟩
    exact ⟨⟨k, h⟩, AList.mem_lookup_iff.mp hk, w, hw, rfl, rfl⟩

end Store

end SentinelDB
