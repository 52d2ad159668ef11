import SentinelDB.Ordering

/-!
# Explaining a time-travel lookup

`explainGetAtTime` rescans a history with a loop of its own, which tracks the index it
selects and moves each superseded selection into `skippedVersions`. Like the scan of
`getAtTime` it stops at the first version later than the query, so in every history,
ordered or not, it selects the last version of the leading run at or before the query,
whose value `getAtTime` returns, and skips the rest of that run. Over a history in clock
order every version after the selected one is later than the query, as the reasoning's
"Excluded" count says.
-/

namespace SentinelDB

set_option autoImplicit false

/-- `ExplainResult`. -/
structure ExplainResult where
  found : Bool := false
  key : String := ""
  queryTimestamp : Int := 0
  selectedVersion : Option Version := none
  reasoning : String := ""
  skippedVersions : List Version := []
  totalVersions : Nat := 0
  deriving DecidableEq, Repr

/-- The loop of `KVStore::explainGetAtTime`: the superseded versions so far and the
selected index with its version, up to the first version later than `T`. -/
def explainScan (T : Int) :
    List Version → Nat → List Version → Option (Nat × Version) → List Version × Option (Nat × Version)
  | [], _, skipped, selected => (skipped, selected)
  | v :: vs, i, skipped, selected =>
    if v.timestamp ≤ T then explainScan T vs (i + 1) (skipped ++ (selected.map Prod.snd).toList) (some (i, v))
    else (skipped, selected)

/-- `KVStore::explainGetAtTime`. -/
def KVStore.explainGetAtTime (kv : KVStore) (key : String) (timestamp : Int) : ExplainResult :=
  let result : ExplainResult := { key := key, queryTimestamp := timestamp }
  match kv.store.lookup key with
  | none | some [] => { result with reasoning := "Key not found in database" }
  | some versions =>
    let totalVersions := versions.length
    let (skippedVersions, selected) := explainScan timestamp versions 0 [] none
    match selected with
    | some (selectedIndex, selectedVersion) =>
      let versionsAfter := totalVersions - selectedIndex - 1
      { result with
        found := true, selectedVersion := some selectedVersion, skippedVersions := skippedVersions,
        totalVersions := totalVersions,
        reasoning := "Selected version at index " ++ toString selectedIndex ++ " (0-based) out of " ++
          toString totalVersions ++ " total versions. " ++
          "This is the most recent version at or before the query timestamp." ++
          (if skippedVersions.isEmpty then ""
          else " Skipped " ++ toString skippedVersions.length ++
            " older version(s) that were also valid but superseded.") ++
          (if versionsAfter > 0 then
            " Excluded " ++ toString versionsAfter ++ " version(s) that occurred after the query timestamp."
          else "") }
    | none =>
      { result with
        skippedVersions := skippedVersions, totalVersions := totalVersions,
        reasoning := "No version found at or before the query timestamp. All " ++ toString totalVersions ++
          " version(s) occurred after the query time." }

/-! ### The two scans -/

section Scans

variable (T : Int)

/-- The leading run of versions at or before `T`, where both scans stop. -/
def runAtOrBefore (vs : List Version) : List Version := vs.takeWhile fun v => decide (v.timestamp ≤ T)

theorem runAtOrBefore_cons (v : Version) (vs : List Version) :
    runAtOrBefore T (v :: vs) = if v.timestamp ≤ T then v :: runAtOrBefore T vs else [] := by
  simp [runAtOrBefore, List.takeWhile_cons]

theorem dropLast_runAtOrBefore (vs : List Version) :
    (runAtOrBefore T vs).dropLast = vs.take ((runAtOrBefore T vs).length - 1) := by
  obtain ⟨n, hn⟩ : ∃ n, runAtOrBefore T vs = vs.take n :=
    ⟨_, List.prefix_iff_eq_take.mp (List.takeWhile_prefix _)⟩
  rw [hn, List.dropLast_eq_take, List.take_take, List.length_take, Nat.min_eq_left (by omega)]

theorem scanAtTime_eq_run (vs : List Version) (result : Option String) :
    scanAtTime T vs result = ((runAtOrBefore T vs).getLast?.map Version.value).or result := by
  induction vs generalizing result with
  | nil => rfl
  | cons v vs ih =>
    by_cases hv : v.timestamp ≤ T
    · rw [scanAtTime, if_pos hv, runAtOrBefore_cons, if_pos hv, ih, List.getLast?_cons]
      cases (runAtOrBefore T vs).getLast? <;> rfl
    · rw [scanAtTime, if_neg hv, runAtOrBefore_cons, if_neg hv]
      rfl

theorem explainScan_eq (vs : List Version) (i : Nat) (skipped : List Version) (selected : Option (Nat × Version)) :
    explainScan T vs i skipped selected =
      match (runAtOrBefore T vs).getLast? with
      | none => (skipped, selected)
      | some v => (skipped ++ (selected.map Prod.snd).toList ++ (runAtOrBefore T vs).dropLast,
          some (i + (runAtOrBefore T vs).length - 1, v)) := by
  induction vs generalizing i skipped selected with
  | nil => rfl
  | cons v vs ih =>
    by_cases hv : v.timestamp ≤ T
    · rw [explainScan, if_pos hv, ih, runAtOrBefore_cons, if_pos hv]
      cases hrun : runAtOrBefore T vs with
      | nil => simp
      | cons w ws =>
        rw [List.getLast?_cons_cons, List.getLast?_eq_getLast _ (List.cons_ne_nil w ws), List.dropLast_cons₂]
        simp only [Option.map_some', Option.toList_some, List.append_assoc, List.singleton_append,
          List.length_cons, Prod.mk.injEq, Option.some.injEq, true_and, and_true]
        omega
    · rw [explainScan, if_neg hv, runAtOrBefore_cons, if_neg hv]
      rfl

theorem lt_of_mem_drop_run {vs : List Version} (h : Chronological vs) {w : Version}
    (hw : w ∈ vs.drop (runAtOrBefore T vs).length) : T < w.timestamp := by
  induction vs with
  | nil => simp at hw
  | cons v vs ih =>
    obtain ⟨hv, hvs⟩ := List.pairwise_cons.mp h
    rw [runAtOrBefore_cons] at hw
    split at hw
    · exact ih hvs hw
    · rename_i hgt
      rcases List.mem_cons.mp hw with rfl | hw
      · omega
      · have := hv w hw; omega

end Scans

theorem KVStore.getAtTime_eq_run (kv : KVStore) (key : String) (T : Int) :
    kv.getAtTime key T = (runAtOrBefore T (kv.getHistory key)).getLast?.map Version.value := by
  unfold KVStore.getAtTime KVStore.getHistory Store.history
  cases kv.store.lookup key with
  | none => rfl
  | some vs =>
    cases vs with
    | nil => rfl
    | cons v vs =>
      show scanAtTime T (v :: vs) none = (runAtOrBefore T (v :: vs)).getLast?.map Version.value
      rw [scanAtTime_eq_run, Option.or_none]

/-- What `explainGetAtTime` reports, read off the history: the last version of the leading
run, every version counted, and the others of the run skipped. -/
theorem KVStore.explainGetAtTime_fields (kv : KVStore) (key : String) (T : Int) :
    (kv.explainGetAtTime key T).selectedVersion = (runAtOrBefore T (kv.getHistory key)).getLast? ∧
    (kv.explainGetAtTime key T).found = (runAtOrBefore T (kv.getHistory key)).getLast?.isSome ∧
    (kv.explainGetAtTime key T).totalVersions = (kv.getHistory key).length ∧
    (kv.explainGetAtTime key T).skippedVersions = (runAtOrBefore T (kv.getHistory key)).dropLast := by
  unfold KVStore.explainGetAtTime KVStore.getHistory Store.history
  cases kv.store.lookup key with
  | none => exact ⟨rfl, rfl, rfl, rfl⟩
  | some vs =>
    cases vs with
    | nil => exact ⟨rfl, rfl, rfl, rfl⟩
    | cons v vs =>
      dsimp only [Option.getD_some]
      rw [explainScan_eq]
      cases hlast : (runAtOrBefore T (v :: vs)).getLast? with
      | none => exact ⟨rfl, rfl, rfl, by rw [List.getLast?_eq_none_iff.mp hlast]; rfl⟩
      | some w => exact ⟨rfl, rfl, rfl, by simp⟩

/-- `explainGetAtTime` selects the version whose value `getAtTime` returns, counts every version
and skips those before it; over an ordered history that is the last at or before `T`. -/
theorem explain_agrees_with_getAtTime (kv : KVStore) (key : String) (T : Int) :
    let h := kv.getHistory key
    let e := kv.explainGetAtTime key T
    e.found = (kv.getAtTime key T).isSome ∧
    e.selectedVersion.map Version.value = kv.getAtTime key T ∧
    e.selectedVersion = (runAtOrBefore T h).getLast? ∧
    e.totalVersions = h.length ∧
    e.skippedVersions = h.take ((runAtOrBefore T h).length - 1) ∧
    (Chronological h →
      kv.getAtTime key T = lastAtOrBefore T h ∧ ∀ v ∈ h.drop (runAtOrBefore T h).length, T < v.timestamp) := by
  obtain ⟨hsel, hfound, htotal, hskip⟩ := kv.explainGetAtTime_fields key T
  intro h e
  rw [KVStore.getAtTime_eq_run]
  exact ⟨by rw [hfound, Option.isSome_map'], by rw [hsel], hsel, htotal, by rw [hskip, dropLast_runAtOrBefore],
    fun hc => ⟨(KVStore.getAtTime_eq_run kv key T).symm.trans (KVStore.getAtTime_eq_lastAtOrBefore hc T),
      fun v hv => lt_of_mem_drop_run T hc hv⟩⟩

end SentinelDB
