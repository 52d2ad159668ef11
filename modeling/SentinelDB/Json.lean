import SentinelDB.Simulation
import SentinelDB.GuardCommands

/-!
# Request bodies: `parseSimpleJSON` over a flat object

`parseSimpleJSON` reads every HTTP body. It toggles at each `"`, takes the text between
an entry's first pair of quotes as its key and between the second pair as its value, and
tells a key from a value by whether the key read so far is empty. It does not unescape.

Over the flat object `{"k1":"v1",...}`, each string escaped by `escapeJSON`
(`flatJSONObject`), the scan returns the entries, newest first, so that every key looks
up its value (`parseSimpleJSON_flatJSONObject`), provided every key is non-empty and no
key or value holds a character `escapeJSON` rewrites. Otherwise the round trip fails: the
`"` of an escaped quote ends the string, the backslashes `escapeJSON` adds stay in the
text, and the value of an empty key is read as the next key.
-/

namespace SentinelDB

set_option autoImplicit false

/-- The characters `escapeJSON` copies as they are. -/
def jsonPlain (c : Char) : Bool :=
  !(c = '\x22' || c = '\\' || c = '\x08' || c = '\x0c' || c = '\n' || c = '\r' || c = '\t')

/-- One entry `"key":"value"` of a flat JSON object, both strings escaped by `escapeJSON`. -/
def entryJSON (e : String × String) : String :=
  "\x22" ++ escapeJSON e.1 ++ "\x22:\x22" ++ escapeJSON e.2 ++ "\x22"

/-- The flat JSON object listing the entries, as the specification describes a body. -/
def flatJSONObject (m : List (String × String)) : String :=
  "\x7b" ++ ",".intercalate (m.map entryJSON) ++ "\x7d"

def JsonScan.between (result : List (String × String)) : JsonScan := { result := result }

/-! ### Escaping -/

theorem escapeJSON_of_plain {s : String} (h : ∀ c ∈ s.data, jsonPlain c = true) : escapeJSON s = s := by
  obtain ⟨cs⟩ := s
  apply String.ext
  simp only [escapeJSON, String.data_join, List.map_map]
  induction cs with
  | nil => rfl
  | cons c cs ih =>
    have hc := h c (List.mem_cons_self c cs)
    simp only [jsonPlain, Bool.not_eq_true', Bool.or_eq_false_iff, decide_eq_false_iff_not] at hc
    obtain ⟨⟨⟨⟨⟨⟨h1, h2⟩, h3⟩, h4⟩, h5⟩, h6⟩, h7⟩ := hc
    simp only [List.map_cons, Function.comp, List.flatten_cons, if_neg h1, if_neg h2, if_neg h3, if_neg h4,
      if_neg h5, if_neg h6, if_neg h7]
    rw [ih fun c' h' => h c' (List.mem_cons_of_mem c h')]
    rfl

/-! ### The scan -/

theorem foldl_step_outside {s : JsonScan} (hs : s.inQuotes = false) {cs : List Char} (hcs : '\x22' ∉ cs) :
    cs.foldl JsonScan.step s = s := by
  induction cs with
  | nil => rfl
  | cons c cs ih =>
    have hc : c ≠ '\x22' := fun h => hcs (h ▸ List.mem_cons_self c cs)
    rw [List.foldl_cons, show JsonScan.step s c = s by simp [JsonScan.step, hc, hs]]
    exact ih fun h => hcs (List.mem_cons_of_mem c h)

theorem foldl_step_key {s : JsonScan} (hq : s.inQuotes = true) (hk : s.inKey = true) {cs : List Char}
    (hcs : '\x22' ∉ cs) : cs.foldl JsonScan.step s = { s with key := ⟨s.key.data ++ cs⟩ } := by
  induction cs generalizing s with
  | nil => cases s; simp
  | cons c cs ih =>
    have hc : c ≠ '\x22' := fun h => hcs (h ▸ List.mem_cons_self c cs)
    rw [List.foldl_cons, show JsonScan.step s c = { s with key := s.key.push c } by simp [JsonScan.step, hc, hq, hk],
      ih (s := { s with key := s.key.push c }) hq hk fun h => hcs (List.mem_cons_of_mem c h)]
    simp

theorem foldl_step_value {s : JsonScan} (hq : s.inQuotes = true) (hk : s.inKey = false) (hv : s.inValue = true)
    {cs : List Char} (hcs : '\x22' ∉ cs) : cs.foldl JsonScan.step s = { s with value := ⟨s.value.data ++ cs⟩ } := by
  induction cs generalizing s with
  | nil => cases s; simp
  | cons c cs ih =>
    have hc : c ≠ '\x22' := fun h => hcs (h ▸ List.mem_cons_self c cs)
    rw [List.foldl_cons,
      show JsonScan.step s c = { s with value := s.value.push c } by simp [JsonScan.step, hc, hq, hk, hv],
      ih (s := { s with value := s.value.push c }) hq hk hv fun h => hcs (List.mem_cons_of_mem c h)]
    simp

theorem quote_not_mem_of_plain {s : String} (h : ∀ c ∈ s.data, jsonPlain c = true) : '\x22' ∉ s.data :=
  fun hm => absurd (h _ hm) (by decide)

theorem foldl_entryJSON (acc : List (String × String)) (k v : String) (hk : k ≠ "")
    (hkp : ∀ c ∈ k.data, jsonPlain c = true) (hvp : ∀ c ∈ v.data, jsonPlain c = true) :
    (entryJSON (k, v)).data.foldl JsonScan.step (JsonScan.between acc) = JsonScan.between ((k, v) :: acc) := by
  have hdata : (entryJSON (k, v)).data =
      ['\x22'] ++ k.data ++ ['\x22', ':', '\x22'] ++ v.data ++ ['\x22'] := by
    simp only [entryJSON, escapeJSON_of_plain hkp, escapeJSON_of_plain hvp, String.data_append]
  have hkE : k.isEmpty = false := Bool.eq_false_iff.mpr fun h => hk ((String.isEmpty_iff k).mp h)
  rw [hdata, List.foldl_append, List.foldl_append, List.foldl_append, List.foldl_append]
  have h1 : (['\x22'] : List Char).foldl JsonScan.step (JsonScan.between acc) =
      { inQuotes := true, inKey := true, result := acc } := rfl
  rw [h1, foldl_step_key rfl rfl (quote_not_mem_of_plain hkp)]
  have h2 : (['\x22', ':', '\x22'] : List Char).foldl JsonScan.step
      { inQuotes := true, inKey := true, key := ⟨"".data ++ k.data⟩, result := acc } =
      { inQuotes := true, inValue := true, key := k, result := acc } := by
    simp [JsonScan.step, hkE]
  rw [h2, foldl_step_value rfl rfl rfl (quote_not_mem_of_plain hvp)]
  rfl

theorem intercalate_go_data (acc sep : String) (es : List String) :
    (String.intercalate.go acc sep es).data = acc.data ++ (es.map fun e => sep.data ++ e.data).flatten := by
  induction es generalizing acc with
  | nil => simp [String.intercalate.go]
  | cons e es ih => rw [intercalate_go_cons, ih]; simp

theorem foldl_entries (m : List (String × String)) (hne : ∀ e ∈ m, e.1 ≠ "")
    (hplain : ∀ e ∈ m, (∀ c ∈ e.1.data, jsonPlain c = true) ∧ ∀ c ∈ e.2.data, jsonPlain c = true)
    (acc : List (String × String)) :
    ((m.map entryJSON).map fun e => ",".data ++ e.data).flatten.foldl JsonScan.step (JsonScan.between acc) =
      JsonScan.between (m.reverse ++ acc) := by
  induction m generalizing acc with
  | nil => rfl
  | cons e es ih =>
    obtain ⟨k, v⟩ := e
    simp only [List.map_cons, List.flatten_cons, List.foldl_append]
    rw [@foldl_step_outside _ rfl ",".data (by decide), foldl_entryJSON acc k v (hne _ (List.mem_cons_self _ _))
      (hplain _ (List.mem_cons_self _ _)).1 (hplain _ (List.mem_cons_self _ _)).2,
      ih (fun e he => hne e (List.mem_cons_of_mem _ he)) (fun e he => hplain e (List.mem_cons_of_mem _ he))]
    simp

theorem lookup_reverse {m : List (String × String)} (h : (m.map Prod.fst).Nodup) (k : String) :
    m.reverse.lookup k = m.lookup k := by
  induction m with
  | nil => rfl
  | cons e es ih =>
    obtain ⟨k', v'⟩ := e
    obtain ⟨he, hes⟩ := List.nodup_cons.mp h
    rw [List.reverse_cons, List.lookup_append, ih hes]
    by_cases hk : k = k'
    · subst hk
      have hnone : es.lookup k = none :=
        List.lookup_eq_none_iff.mpr fun p hp => bne_iff_ne.mpr fun h => he (by simp only [h]; exact List.mem_map_of_mem _ hp)
      simp [hnone]
    · simp [List.lookup_cons, beq_false_of_ne hk]

/-- `parseSimpleJSON` reads back a flat object of distinct non-empty keys and plain strings,
newest entry first, and every key finds its own value. -/
theorem parseSimpleJSON_flatJSONObject (m : List (String × String)) (hkeys : (m.map Prod.fst).Nodup)
    (hne : ∀ e ∈ m, e.1 ≠ "")
    (hplain : ∀ e ∈ m, (∀ c ∈ e.1.data, jsonPlain c = true) ∧ ∀ c ∈ e.2.data, jsonPlain c = true) :
    parseSimpleJSON (flatJSONObject m) = m.reverse ∧
      ∀ k, (parseSimpleJSON (flatJSONObject m)).lookup k = m.lookup k := by
  have hparse : parseSimpleJSON (flatJSONObject m) = m.reverse := by
    cases m with
    | nil => rfl
    | cons e es =>
      obtain ⟨k, v⟩ := e
      have hdata : (flatJSONObject ((k, v) :: es)).data = ['\x7b'] ++ (entryJSON (k, v)).data ++
          ((es.map entryJSON).map fun e => ",".data ++ e.data).flatten ++ ['\x7d'] := by
        simp only [flatJSONObject, List.map_cons, String.intercalate, String.data_append, intercalate_go_data]
        rfl
      unfold parseSimpleJSON
      rw [hdata, List.foldl_append, List.foldl_append, List.foldl_append,
        show (['\x7b'] : List Char).foldl JsonScan.step {} = JsonScan.between [] from rfl,
        foldl_entryJSON [] k v (hne _ (List.mem_cons_self _ _)) (hplain _ (List.mem_cons_self _ _)).1
          (hplain _ (List.mem_cons_self _ _)).2,
        foldl_entries es (fun e he => hne e (List.mem_cons_of_mem _ he))
          (fun e he => hplain e (List.mem_cons_of_mem _ he)),
        foldl_step_outside rfl (by decide)]
      simp [JsonScan.between]
  exact ⟨hparse, fun k => hparse ▸ lookup_reverse hkeys k⟩

/-- The body `POST /set` expects reads back as written. -/
theorem parseSimpleJSON_flatJSONObject_at_set :
    ([("key", "user"), ("value", "alice")].map Prod.fst).Nodup ∧
    (∀ e ∈ [("key", "user"), ("value", "alice")], e.1 ≠ "") ∧
    (∀ e ∈ [("key", "user"), ("value", "alice")],
      (∀ c ∈ e.1.data, jsonPlain c = true) ∧ ∀ c ∈ e.2.data, jsonPlain c = true) ∧
    parseSimpleJSON (flatJSONObject [("key", "user"), ("value", "alice")]) =
      [("key", "user"), ("value", "alice")].reverse ∧
    ∀ k, (parseSimpleJSON (flatJSONObject [("key", "user"), ("value", "alice")])).lookup k =
      [("key", "user"), ("value", "alice")].lookup k :=
  have h1 : ([("key", "user"), ("value", "alice")].map Prod.fst).Nodup := by decide
  have h2 : ∀ e ∈ [("key", "user"), ("value", "alice")], e.1 ≠ "" := by decide
  have h3 : ∀ e ∈ [("key", "user"), ("value", "alice")],
      (∀ c ∈ e.1.data, jsonPlain c = true) ∧ ∀ c ∈ e.2.data, jsonPlain c = true := by decide
  ⟨h1, h2, h3, parseSimpleJSON_flatJSONObject _ h1 h2 h3⟩

/-- A value holding a quote is cut at the escaped quote, a backslash comes back doubled,
and an empty key takes no value. -/
theorem escaped_strings_not_read_back :
    parseSimpleJSON (flatJSONObject [("k", "a\x22b")]) = [("k", "a\\")] ∧
    parseSimpleJSON (flatJSONObject [("k", "a\\b")]) = [("k", "a\\\\b")] ∧
    parseSimpleJSON (flatJSONObject [("", "v")]) = [] := by
  decide

end SentinelDB
