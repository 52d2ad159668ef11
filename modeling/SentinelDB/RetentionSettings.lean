import SentinelDB.Http
import SentinelDB.Json

/-!
# Retention settings in the two drivers

`CONFIG RETENTION LAST <value>` in the CLI and `POST /config/retention` with the mode
`LAST <value>` end in the same `setRetentionPolicy` call, but they read the value
differently: the CLI tests the time suffix `s` on the value as typed, the server on the
value upper-cased. Upper-casing never changes what `std::stoi` reads whole, since a text
read whole is blanks, a sign and digits (`intChar_of_parsePositive`), which upper-casing
leaves alone, and no upper-cased letter is one of them (`intChar_toUpper`).

So the two drivers leave the engine in the same state for every value but one that ends
in a capital `S`: the CLI refuses `LAST 5S`, the server reads it as `LAST 5s`
(`retention_settings_agree`).
-/

namespace SentinelDB

set_option autoImplicit false

/-! ### Characters -/

/-- The characters of a text `std::stoi` reads whole: blanks, signs and digits. -/
def intChar (c : Char) : Bool := isSpace c || c == '-' || c == '+' || c.isDigit

theorem toNat_toUpper (c : Char) :
    c.toUpper.toNat = if 97 ≤ c.toNat ∧ c.toNat ≤ 122 then c.toNat - 32 else c.toNat := by
  show (if 97 ≤ c.toNat ∧ c.toNat ≤ 122 then Char.ofNat (c.toNat - 32) else c).toNat = _
  by_cases h : 97 ≤ c.toNat ∧ c.toNat ≤ 122
  · rw [if_pos h, if_pos h, Char.ofNat, dif_pos (Or.inl (by omega))]
    rfl
  · rw [if_neg h, if_neg h]

theorem toUpper_eq_self {c : Char} (h : ¬(97 ≤ c.toNat ∧ c.toNat ≤ 122)) : c.toUpper = c := by
  show (if 97 ≤ c.toNat ∧ c.toNat ≤ 122 then Char.ofNat (c.toNat - 32) else c) = c
  rw [if_neg h]

theorem intChar_of_letter {c : Char} (h0 : 65 ≤ c.toNat) (h1 : c.toNat ≤ 122) : intChar c = false := by
  have hne (d : Char) (hd : d.toNat < 65) : (c == d) = false :=
    beq_false_of_ne fun h => by subst h; omega
  have hdigit : c.isDigit = false := Bool.eq_false_iff.mpr fun h => by
    simp only [Char.isDigit, Bool.and_eq_true, decide_eq_true_eq] at h
    have := UInt32.toNat_le_of_le (m := 57) (by decide) h.2
    exact absurd h0 (by change ¬65 ≤ c.val.toNat; omega)
  simp only [intChar, isSpace, hne ' ' (by decide), hne '\t' (by decide), hne '\n' (by decide),
    hne '\x0b' (by decide), hne '\x0c' (by decide), hne '\r' (by decide), hne '-' (by decide),
    hne '+' (by decide), hdigit, Bool.or_self]

theorem intChar_toUpper (c : Char) : intChar c.toUpper = intChar c := by
  by_cases h : 97 ≤ c.toNat ∧ c.toNat ≤ 122
  · have hu := toNat_toUpper c
    rw [if_pos h] at hu
    rw [intChar_of_letter (by omega) (by omega), intChar_of_letter (by omega) (by omega)]
  · rw [toUpper_eq_self h]

theorem eq_of_toUpper_eq_S {c : Char} (h : c.toUpper = 'S') : c = 's' ∨ c = 'S' := by
  by_cases hl : 97 ≤ c.toNat ∧ c.toNat ≤ 122
  · have hu := toNat_toUpper c
    rw [if_pos hl, h] at hu
    have hc := Char.ofNat_toNat c
    rw [show c.toNat = 115 by rw [show 'S'.toNat = 83 from rfl] at hu; omega] at hc
    exact .inl hc.symm
  · exact .inr ((toUpper_eq_self hl).symm.trans h)

theorem toUpper_append (s t : String) : toUpper (s ++ t) = toUpper s ++ toUpper t :=
  String.ext (by simp [toUpper, String.data_append])

theorem toUpper_of_intChar {s : String} (h : ∀ c ∈ s.data, intChar c = true) : toUpper s = s := by
  refine String.ext ((List.map_congr_left fun c hc => toUpper_eq_self fun hl => ?_).trans (List.map_id _))
  have := h c hc
  rw [intChar_of_letter (by omega) hl.2] at this
  exact Bool.false_ne_true this

/-! ### Reading a whole positive number -/

theorem intChar_of_stoiPos {s : String} {v : Int} (h : stoiPos s = .ok (v, s.length)) :
    ∀ c ∈ s.data, intChar c = true := by
  unfold stoiPos stoSignedPos at h
  rcases hs : scanInteger s.data with _ | ⟨n, rest⟩ <;> rw [hs] at h
  · cases h
  · obtain ⟨blanks, sign, digits, hcs, hb, hsign, hne, hd, -, -⟩ := scanInteger_eq_some_iff.mp hs
    have hlen : s.data.length - rest.length = s.length := by
      dsimp only at h
      split_ifs at h
      exact (Prod.mk.inj (Except.ok.inj h)).2
    have hdl := List.length_pos.mpr hne
    have hrest : rest = [] := by
      rw [← List.length_eq_zero]
      have : s.data.length = blanks.length + sign.length + digits.length + rest.length := by
        rw [hcs]; simp only [List.length_append]
      simp only [String.length] at hlen
      omega
    intro c hc
    rw [hcs, hrest, List.append_nil] at hc
    rcases List.mem_append.mp hc with hc | hc
    · rcases List.mem_append.mp hc with hc | hc
      · simp [intChar, hb c hc]
      · rcases hsign with rfl | rfl | rfl <;> simp_all [intChar]
    · simp [intChar, hd c hc]

theorem intChar_of_parsePositive {ε : Type} {thrown : StdError → ε} {invalid notPositive : ε} {s : String}
    {v : Int} (h : parsePositive thrown invalid notPositive s = .ok v) : ∀ c ∈ s.data, intChar c = true := by
  unfold parsePositive at h
  rcases hs : stoiPos s with _ | ⟨n, pos⟩ <;> rw [hs] at h
  · cases h
  · dsimp only at h
    by_cases hpos : pos = s.length
    · exact intChar_of_stoiPos (hpos ▸ hs)
    · rw [if_pos hpos] at h
      cases h

theorem parsePositive_toOption {ε ε' : Type} (thrown : StdError → ε) (invalid notPositive : ε)
    (thrown' : StdError → ε') (invalid' notPositive' : ε') (s : String) :
    (parsePositive thrown invalid notPositive s).toOption = (parsePositive thrown' invalid' notPositive' s).toOption := by
  unfold parsePositive
  rcases stoiPos s with _ | ⟨v, pos⟩
  · rfl
  · dsimp only
    split_ifs <;> rfl

theorem parsePositive_toOption_eq_none {ε : Type} {thrown : StdError → ε} {invalid notPositive : ε}
    {s : String} (h : ¬∀ c ∈ s.data, intChar c = true) :
    (parsePositive thrown invalid notPositive s).toOption = none := by
  cases hp : parsePositive thrown invalid notPositive s with
  | error => rfl
  | ok v => exact absurd (intChar_of_parsePositive hp) h

theorem parsePositive_toUpper {ε ε' : Type} (thrown : StdError → ε) (invalid notPositive : ε)
    (thrown' : StdError → ε') (invalid' notPositive' : ε') (s : String) :
    (parsePositive thrown invalid notPositive (toUpper s)).toOption =
      (parsePositive thrown' invalid' notPositive' s).toOption := by
  by_cases h : ∀ c ∈ s.data, intChar c = true
  · rw [toUpper_of_intChar h]
    exact parsePositive_toOption _ _ _ _ _ _ s
  · rw [parsePositive_toOption_eq_none h, parsePositive_toOption_eq_none fun hu => h fun c hc => by
      simpa only [intChar_toUpper] using hu c.toUpper (List.mem_map_of_mem _ hc)]

theorem toOption_map {ε α β : Type} (f : α → β) (e : Except ε α) : (e.map f).toOption = e.toOption.map f := by
  cases e <;> rfl

/-! ### The two drivers -/

theorem parse_configRetentionLast {x : String} (hx : IsToken x) :
    CommandParser.parse ("CONFIG RETENTION LAST " ++ x) = { type := .config, args := ["RETENTION", "LAST", x] } := by
  have hdata : ("CONFIG RETENTION LAST " ++ x).data =
      "CONFIG".data ++ ' ' :: ("RETENTION".data ++ ' ' :: ("LAST".data ++ ' ' :: x.data)) :=
    String.data_append _ _
  rw [@CommandParser.parse_of_tokenize _ "CONFIG" _ (by rw [CommandParser.tokenize, hdata,
      CommandParser.splitWords_sep (by decide), CommandParser.splitWords_sep (by decide),
      CommandParser.splitWords_sep (by decide), CommandParser.splitWords_last hx]) (by decide) (by decide),
    show CommandParser.getCommandType "CONFIG" = .config by decide]

/-- The engine after `CONFIG RETENTION LAST <value>`: the policy `parseRetention` reads,
set, or the engine as it was. -/
theorem handleConfig_last (clock : Readings) (kv : KVStore) {x : String} (hx : IsToken x) :
    (RedisLikeCLI.handleConfig clock kv (CommandParser.parse ("CONFIG RETENTION LAST " ++ x))).1 =
      ((RedisLikeCLI.parseRetention ["RETENTION", "LAST", x]).toOption.map Prod.fst).elim kv
        (kv.setRetentionPolicy · clock.pruneAt) := by
  rw [parse_configRetentionLast hx]
  unfold RedisLikeCLI.handleConfig
  dsimp only
  rw [if_neg (by simp), if_neg (c := toUpper (["RETENTION", "LAST", x].getD 0 "") ≠ "RETENTION")
    (not_not.mpr (show toUpper "RETENTION" = "RETENTION" by decide))]
  cases RedisLikeCLI.parseRetention ["RETENTION", "LAST", x] <;> rfl

theorem parseSimpleJSON_single {k v : String} (hk : k ≠ "") (hkp : ∀ c ∈ k.data, jsonPlain c = true)
    (hvp : ∀ c ∈ v.data, jsonPlain c = true) : parseSimpleJSON (flatJSONObject [(k, v)]) = [(k, v)] := by
  have hdata : (flatJSONObject [(k, v)]).data = ['\x7b'] ++ (entryJSON (k, v)).data ++ ['\x7d'] := by
    simp only [flatJSONObject, List.map_cons, List.map_nil, String.intercalate, String.data_append,
      intercalate_go_data, List.flatten_nil, List.append_nil]
  unfold parseSimpleJSON
  rw [hdata, List.foldl_append, List.foldl_append,
    show (['\x7b'] : List Char).foldl JsonScan.step {} = JsonScan.between [] from rfl,
    foldl_entryJSON [] k v hk hkp hvp, foldl_step_outside rfl (by decide)]
  rfl

/-- The engine after `POST /config/retention` with the mode `LAST <value>`: the policy
`retentionOfMode` reads from the upper-cased mode, set, or the engine as it was. -/
theorem configureRetention_last (clock : Readings) (kv : KVStore) {x : String}
    (hplain : ∀ c ∈ x.data, jsonPlain c = true) :
    (HttpServer.configureRetention clock kv (flatJSONObject [("mode", "LAST " ++ x)])).1 =
      ((HttpServer.retentionOfMode ("LAST " ++ toUpper x)).toOption.map Prod.fst).elim kv
        (kv.setRetentionPolicy · clock.pruneAt) := by
  have hmode : ∀ c ∈ ("LAST " ++ x).data, jsonPlain c = true := by
    simp only [String.data_append, List.mem_append]
    rintro c (hc | hc)
    · revert c
      decide
    · exact hplain c hc
  unfold HttpServer.configureRetention
  rw [parseSimpleJSON_single (by decide) (by decide) hmode,
    show [("mode", "LAST " ++ x)].lookup "mode" = some ("LAST " ++ x) from rfl]
  dsimp only
  rw [toUpper_append, show toUpper "LAST " = "LAST " by decide]
  cases HttpServer.retentionOfMode ("LAST " ++ toUpper x) <;> rfl

/-! ### The policy a `LAST` value names -/

/-- The policy `LAST <value>` names: seconds when `value` ends in `suffix`, else a count. -/
def lastPolicy (suffix : Char) (value : String) : Option RetentionPolicy :=
  if value.data.getLast? = some suffix then
    if (⟨value.data.dropLast⟩ : String) = "" then none
    else (parsePositive (fun _ => ()) () () ⟨value.data.dropLast⟩).toOption.map (RetentionPolicy.make .lastT)
  else (parsePositive (fun _ => ()) () () value).toOption.map (RetentionPolicy.make .lastN)

theorem parseRetention_last (x : String) :
    (RedisLikeCLI.parseRetention ["RETENTION", "LAST", x]).toOption.map Prod.fst = lastPolicy 's' x := by
  unfold RedisLikeCLI.parseRetention lastPolicy
  dsimp only
  rw [if_neg (c := toUpper (["RETENTION", "LAST", x].getD 1 "") = "FULL") (show ¬toUpper "LAST" = "FULL" by decide),
    if_pos (c := toUpper (["RETENTION", "LAST", x].getD 1 "") = "LAST") (show toUpper "LAST" = "LAST" by decide),
    if_neg (by simp), show ["RETENTION", "LAST", x].getD 2 "" = x from rfl]
  split_ifs <;> first
    | rfl
    | rw [toOption_map, Option.map_map, parsePositive_toOption _ _ _ (fun _ => ()) () ()]; rfl

theorem retentionOfMode_last (x : String) :
    (HttpServer.retentionOfMode ("LAST " ++ x)).toOption.map Prod.fst = lastPolicy 'S' x := by
  have hpre : "LAST ".data.isPrefixOf ("LAST " ++ x).data = true := by
    rw [String.data_append]
    exact List.isPrefixOf_iff_prefix.mpr (List.prefix_append _ _)
  have hrest : ("LAST " ++ x).data.drop 5 = x.data := by
    rw [String.data_append]
    rfl
  unfold HttpServer.retentionOfMode lastPolicy
  rw [if_neg fun h => absurd (h ▸ hpre) (by decide), if_pos hpre]
  dsimp only
  rw [hrest]
  split_ifs <;> first
    | rfl
    | rw [toOption_map, Option.map_map, parsePositive_toOption _ _ _ (fun _ => ()) () ()]; rfl

theorem toUpper_eq_empty {s : String} : toUpper s = "" ↔ s = "" := by
  simp only [String.ext_iff, toUpper, List.map_eq_nil_iff]

theorem lastPolicy_toUpper {x : String} (hS : x.data.getLast? ≠ some 'S') :
    lastPolicy 'S' (toUpper x) = lastPolicy 's' x := by
  have hlast : (toUpper x).data.getLast? = x.data.getLast?.map Char.toUpper := List.getLast?_map _ _
  have hdrop : (⟨(toUpper x).data.dropLast⟩ : String) = toUpper ⟨x.data.dropLast⟩ :=
    String.ext (List.map_dropLast _ _).symm
  have hcount : (parsePositive (fun _ => ()) () () (toUpper x)).toOption =
      (parsePositive (fun _ => ()) () () x).toOption := parsePositive_toUpper _ _ _ _ _ _ x
  unfold lastPolicy
  rw [hlast, hdrop, hcount]
  rcases hx : x.data.getLast? with _ | c
  · rfl
  · rw [Option.map_some']
    by_cases hc : c = 's'
    · subst hc
      rw [if_pos (show some ('s'.toUpper) = some 'S' by decide), if_pos rfl]
      simp only [toUpper_eq_empty, parsePositive_toUpper _ _ _ (fun _ => ()) () ()]
    · have hcS : c ≠ 'S' := fun h => hS (h ▸ hx)
      rw [if_neg fun h => (eq_of_toUpper_eq_S (Option.some.inj h)).elim hc hcS,
        if_neg fun h => hc (Option.some.inj h)]

theorem lastPolicy_s_of_S (y : String) : lastPolicy 's' (y ++ "S") = none := by
  have hdata : (y ++ "S").data = y.data ++ ['S'] := String.data_append _ _
  unfold lastPolicy
  rw [hdata, List.getLast?_concat, if_neg (by decide), parsePositive_toOption_eq_none fun h =>
    absurd (h 'S' (hdata ▸ List.mem_append_right _ (List.mem_singleton_self _))) (by decide)]
  rfl

/-! ### The two drivers agree -/

/-- `CONFIG RETENTION LAST <value>` and `POST /config/retention` agree unless the value ends in
`S`, which the CLI refuses and the server reads as seconds. -/
theorem retention_settings_agree (clock : Readings) (kv : KVStore) {x : String} (hx : IsToken x)
    (hplain : ∀ c ∈ x.data, jsonPlain c = true) :
    (x.data.getLast? ≠ some 'S' →
      (RedisLikeCLI.handleConfig clock kv (CommandParser.parse ("CONFIG RETENTION LAST " ++ x))).1 =
        (HttpServer.configureRetention clock kv (flatJSONObject [("mode", "LAST " ++ x)])).1) ∧
    ∀ y, x = y ++ "S" →
      (RedisLikeCLI.handleConfig clock kv (CommandParser.parse ("CONFIG RETENTION LAST " ++ x))).1 = kv ∧
      (HttpServer.configureRetention clock kv (flatJSONObject [("mode", "LAST " ++ x)])).1 =
        (RedisLikeCLI.handleConfig clock kv (CommandParser.parse ("CONFIG RETENTION LAST " ++ (y ++ "s")))).1 := by
  refine ⟨fun hS => ?_, fun y hy => ?_⟩
  · rw [handleConfig_last clock kv hx, configureRetention_last clock kv hplain, parseRetention_last,
      retentionOfMode_last, lastPolicy_toUpper hS]
  · subst hy
    have hdata : (y ++ "s").data = y.data ++ ['s'] := String.data_append _ _
    have hy : IsToken (y ++ "s") := by
      refine ⟨fun h => by simpa [hdata] using congrArg String.data h, fun c hc => ?_⟩
      rcases List.mem_append.mp (hdata ▸ hc) with hc | hc
      · exact hx.2 c (by rw [String.data_append]; exact List.mem_append_left _ hc)
      · rw [List.mem_singleton.mp hc]
        decide
    have hupper : toUpper (y ++ "S") = toUpper (y ++ "s") := by
      rw [toUpper_append, toUpper_append, show toUpper "S" = toUpper "s" by decide]
    have hlast : (y ++ "s").data.getLast? ≠ some 'S' := by
      rw [hdata, List.getLast?_concat]
      decide
    rw [handleConfig_last clock kv hx, configureRetention_last clock kv hplain, handleConfig_last clock kv hy,
      parseRetention_last, parseRetention_last, retentionOfMode_last, lastPolicy_s_of_S, hupper,
      lastPolicy_toUpper hlast]
    exact ⟨rfl, rfl⟩

/-- The value `5S`: the CLI refuses it, the server reads five seconds. -/
theorem retention_settings_agree_at_five_seconds :
    IsToken "5S" ∧ (∀ c ∈ "5S".data, jsonPlain c = true) ∧
    (("5S".data.getLast? ≠ some 'S' →
      (RedisLikeCLI.handleConfig (.single ⟨0, by decide, by decide⟩) (KVStore.create {})
          (CommandParser.parse ("CONFIG RETENTION LAST " ++ "5S"))).1 =
        (HttpServer.configureRetention (.single ⟨0, by decide, by decide⟩) (KVStore.create {})
          (flatJSONObject [("mode", "LAST " ++ "5S")])).1) ∧
    ∀ y, "5S" = y ++ "S" →
      (RedisLikeCLI.handleConfig (.single ⟨0, by decide, by decide⟩) (KVStore.create {})
          (CommandParser.parse ("CONFIG RETENTION LAST " ++ "5S"))).1 = KVStore.create {} ∧
      (HttpServer.configureRetention (.single ⟨0, by decide, by decide⟩) (KVStore.create {})
          (flatJSONObject [("mode", "LAST " ++ "5S")])).1 =
        (RedisLikeCLI.handleConfig (.single ⟨0, by decide, by decide⟩) (KVStore.create {})
          (CommandParser.parse ("CONFIG RETENTION LAST " ++ (y ++ "s")))).1) :=
  ⟨by decide, by decide, retention_settings_agree _ _ (by decide) (by decide)⟩

end SentinelDB
