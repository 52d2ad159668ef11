import SentinelDB.GuardCommands

/-!
# What a counter-offer offers

A guard counter-offers only values it produced for the one at hand: a range guard the
nearer bound and a value a quarter of the way in, a length guard the value padded or
truncated, an enum guard allowed values. Every alternative passes the guard that
offered it when the guard's bounds are consistent, and every guard the handlers build
offers something whenever it counter-offers, so `SAFE_DEFAULT`'s "no safe alternatives"
rejection is never taken and it decides as `DEV_FRIENDLY` does. With several guards on
one key an alternative of one guard can fail another.
-/

namespace SentinelDB

set_option autoImplicit false

/-- Bounds under which every alternative a guard offers passes it: an `int` range whose width
does not overflow, and length bounds that admit four fifths of the maximum. -/
def Guard.Consistent (g : Guard) : Prop :=
  match g.kind with
  | .rangeInt lo hi => -2 ^ 31 ≤ lo ∧ lo ≤ hi ∧ hi < 2 ^ 31 ∧ hi - lo < 2 ^ 31
  | .enum _ => True
  | .length lo hi => lo ≤ hi ∧ (5 < hi → lo ≤ wrapSize (hi * 4) / 5)

instance (g : Guard) : Decidable g.Consistent :=
  match g with
  | ⟨_, _, _, .rangeInt _ _⟩ => inferInstanceAs (Decidable (_ ∧ _))
  | ⟨_, _, _, .enum _⟩ => inferInstanceAs (Decidable True)
  | ⟨_, _, _, .length _ _⟩ => inferInstanceAs (Decidable (_ ∧ _))

theorem stoi_toString {n : Int} (h1 : -2 ^ 31 ≤ n) (h2 : n < 2 ^ 31) : stoi (toString n) = .ok n := by
  unfold stoi stoiPos stoSignedPos
  rw [scanInteger_toString]
  dsimp only
  rw [if_pos ⟨h1, h2⟩]
  rfl

/-! ### Range guards -/

namespace Guard

theorem rangeEvaluate_counterOffer {lo hi : Int} {value : String}
    (h : (rangeEvaluate lo hi value).1 = .counterOffer) : ∃ v, stoi value = .ok v ∧ (v < lo ∨ hi < v) := by
  unfold rangeEvaluate at h
  split at h
  · rename_i v hv
    split_ifs at h with hin
    exact ⟨v, hv, by omega⟩
  · cases h

theorem rangeEvaluate_accept {lo hi n : Int} (h1 : -2 ^ 31 ≤ n) (h2 : n < 2 ^ 31) (hlo : lo ≤ n)
    (hhi : n ≤ hi) : (rangeEvaluate lo hi (toString n)).1 = .accept := by
  simp [rangeEvaluate, stoi_toString h1 h2, hlo, hhi]

theorem rangeAlternatives_ne_nil {lo hi v : Int} {value : String} (hv : stoi value = .ok v)
    (hout : v < lo ∨ hi < v) : rangeAlternatives lo hi value ≠ [] := by
  unfold rangeAlternatives
  rw [hv]
  dsimp only
  split_ifs <;> simp
  omega

theorem rangeAlternatives_within {lo hi v : Int} {value : String}
    (hc : -2 ^ 31 ≤ lo ∧ lo ≤ hi ∧ hi < 2 ^ 31 ∧ hi - lo < 2 ^ 31) (hv : stoi value = .ok v)
    {a : Alternative} (ha : a ∈ rangeAlternatives lo hi value) :
    ∃ n, a.value = toString n ∧ lo ≤ n ∧ n ≤ hi := by
  obtain ⟨h1, h2, h3, h4⟩ := hc
  have hwrap : ∀ x : Int, -2 ^ 31 ≤ x → x < 2 ^ 31 → wrapInt x = x := fun x hx1 hx2 => by
    unfold wrapInt; omega
  have hq : (wrapInt (hi - lo)).tdiv 4 = (hi - lo) / 4 := by
    rw [hwrap _ (by omega) h4, Int.tdiv_eq_ediv (by omega) (by decide)]
  have hcons : lo ≤ wrapInt (lo + (wrapInt (hi - lo)).tdiv 4) ∧
      wrapInt (lo + (wrapInt (hi - lo)).tdiv 4) ≤ hi ∧
      lo ≤ wrapInt (hi - (wrapInt (hi - lo)).tdiv 4) ∧ wrapInt (hi - (wrapInt (hi - lo)).tdiv 4) ≤ hi := by
    rw [hq, hwrap (lo + (hi - lo) / 4) (by omega) (by omega), hwrap (hi - (hi - lo) / 4) (by omega) (by omega)]
    omega
  unfold rangeAlternatives at ha
  rw [hv] at ha
  dsimp only at ha
  have hmid : ∀ {x : Alternative}, a ∈ (if hi > lo then [x] else []) → a = x := fun h => by
    by_cases hg : hi > lo
    · rw [if_pos hg] at h; exact List.mem_singleton.mp h
    · rw [if_neg hg] at h; cases h
  by_cases hl : v < lo
  · rw [if_pos hl] at ha
    rcases List.mem_cons.mp ha with rfl | ha
    · exact ⟨lo, rfl, le_rfl, h2⟩
    · rw [hmid ha]; exact ⟨_, rfl, hcons.1, hcons.2.1⟩
  · rw [if_neg hl] at ha
    by_cases hh : v > hi
    · rw [if_pos hh] at ha
      rcases List.mem_cons.mp ha with rfl | ha
      · exact ⟨hi, rfl, h2, le_rfl⟩
      · rw [hmid ha]; exact ⟨_, rfl, hcons.2.2⟩
    · rw [if_neg hh] at ha; cases ha

/-! ### Length guards -/

theorem lengthEvaluate_counterOffer {lo hi : Nat} {value : String}
    (h : (lengthEvaluate lo hi value).1 = .counterOffer) : value.length < lo ∨ hi < value.length := by
  unfold lengthEvaluate at h
  dsimp only at h
  split_ifs at h with hin
  omega

theorem lengthEvaluate_accept {lo hi : Nat} {s : String} (hlo : lo ≤ s.length) (hhi : s.length ≤ hi) :
    (lengthEvaluate lo hi s).1 = .accept := by
  simp [lengthEvaluate, hlo, hhi]

theorem lengthAlternatives_ne_nil {lo hi : Nat} {value : String}
    (h : value.length < lo ∨ hi < value.length) : lengthAlternatives lo hi value ≠ [] := by
  unfold lengthAlternatives
  dsimp only
  split_ifs <;> simp
  omega

theorem lengthAlternatives_within {lo hi : Nat} {value : String}
    (hc : lo ≤ hi ∧ (5 < hi → lo ≤ wrapSize (hi * 4) / 5)) {a : Alternative}
    (ha : a ∈ lengthAlternatives lo hi value) : lo ≤ a.value.length ∧ a.value.length ≤ hi := by
  have hm : wrapSize (hi * 4) / 5 ≤ hi := by
    have := Nat.mod_le (hi * 4) (2 ^ 64)
    unfold wrapSize; omega
  have hd : value.data.length = value.length := rfl
  unfold lengthAlternatives at ha
  dsimp only at ha
  by_cases hshort : value.length < lo
  · rw [if_pos hshort, List.mem_singleton] at ha
    subst ha
    simp only [String.length_append, String.length_mk, List.length_replicate]
    omega
  · rw [if_neg hshort] at ha
    by_cases hlong : value.length > hi
    · rw [if_pos hlong] at ha
      rcases List.mem_cons.mp ha with rfl | ha
      · simp only [String.length_mk, List.length_take, hd]
        omega
      · by_cases h5 : hi > 5
        · rw [if_pos h5, List.mem_singleton] at ha
          subst ha
          simp only [String.length_mk, List.length_take, hd]
          have := hc.2 h5
          omega
        · rw [if_neg h5] at ha; cases ha
    · rw [if_neg hlong] at ha; cases ha

/-! ### Enum guards -/

theorem mem_similarValues {lowerProposed : String} {collected : List Alternative}
    {allowedValues : List String} {a : Alternative}
    (h : a ∈ similarValues lowerProposed collected allowedValues) :
    a ∈ collected ∨ a.value ∈ allowedValues := by
  induction allowedValues generalizing collected with
  | nil => exact .inl h
  | cons x xs ih =>
    rcases ih h with h | h
    · dsimp only at h
      split at h
      · rcases List.mem_append.mp h with h | h
        · exact .inl h
        · rw [List.mem_singleton.mp h]; exact .inr (List.mem_cons_self x xs)
      · exact .inl h
    · exact .inr (List.mem_cons_of_mem x h)

theorem mem_enumAlternatives {allowedValues : List String} {value : String} {a : Alternative}
    (ha : a ∈ enumAlternatives allowedValues value) : a.value ∈ allowedValues := by
  unfold enumAlternatives at ha
  dsimp only at ha
  split at ha
  · obtain ⟨x, hx, rfl⟩ := List.mem_map.mp ha
    exact List.mem_of_mem_take hx
  · rcases mem_similarValues ha with h | h
    · obtain ⟨x, hx, rfl⟩ := List.mem_map.mp h
      exact (List.mem_filter.mp hx).1
    · exact h

theorem enumAlternatives_ne_nil {allowedValues : List String} (h : allowedValues ≠ []) (value : String) :
    enumAlternatives allowedValues value ≠ [] := by
  unfold enumAlternatives
  dsimp only
  split
  · simpa using h
  · simp_all

theorem enumEvaluate_accept {allowedValues : List String} {s : String} (h : s ∈ allowedValues) :
    (enumEvaluate allowedValues s).1 = .accept := by
  simp [enumEvaluate, h]

/-! ### Any guard -/

theorem generateAlternatives_ne_nil {g : Guard} (hg : g.WellFormed) {value : String}
    (h : (g.evaluate value).1 = .counterOffer) : g.generateAlternatives value ≠ [] := by
  rcases g with ⟨name, key, enabled, kind⟩
  cases kind with
  | rangeInt lo hi =>
    obtain ⟨v, hv, hout⟩ := rangeEvaluate_counterOffer h
    exact rangeAlternatives_ne_nil hv hout
  | enum allowedValues => exact enumAlternatives_ne_nil hg value
  | length lo hi => exact lengthAlternatives_ne_nil (lengthEvaluate_counterOffer h)

/-- Every alternative a consistent guard offers passes that guard. -/
theorem evaluate_alternative {g : Guard} (hc : g.Consistent) {value : String}
    (h : (g.evaluate value).1 = .counterOffer) {a : Alternative} (ha : a ∈ g.generateAlternatives value) :
    (g.evaluate a.value).1 = .accept := by
  rcases g with ⟨name, key, enabled, kind⟩
  cases kind with
  | rangeInt lo hi =>
    obtain ⟨v, hv, -⟩ := rangeEvaluate_counterOffer h
    obtain ⟨n, hn, hlo, hhi⟩ := rangeAlternatives_within hc hv ha
    rw [hn]
    exact rangeEvaluate_accept (by have := hc.1; omega) (by have := hc.2.2.1; omega) hlo hhi
  | enum allowedValues => exact enumEvaluate_accept (mem_enumAlternatives ha)
  | length lo hi =>
    obtain ⟨hlo, hhi⟩ := lengthAlternatives_within hc ha
    exact lengthEvaluate_accept hlo hhi

end Guard

/-! ### Simulated writes -/

theorem mem_getGuardsForKey {guards : List Guard} {key : String} {g : Guard}
    (h : g ∈ getGuardsForKey guards key) : g ∈ guards :=
  (List.mem_filter.mp h).1

theorem mem_simulateWrite_alternatives {guards : List Guard} {key value : String} {a : Alternative}
    (h : a ∈ (simulateWrite guards key value).alternatives) :
    ∃ g ∈ getGuardsForKey guards key, (g.evaluate value).1 = .counterOffer ∧ a ∈ g.generateAlternatives value := by
  unfold simulateWrite at h
  split at h
  · cases h
  · rcases mem_evaluateGuards_alternatives rfl h with h | h
    · cases h
    · exact h

theorem simulateWrite_alternatives_ne_nil {guards : List Guard} (hg : ∀ g ∈ guards, g.WellFormed)
    (key value : String) (h : (simulateWrite guards key value).result = .counterOffer) :
    (simulateWrite guards key value).alternatives ≠ [] := by
  unfold simulateWrite at h ⊢
  split at h
  · cases h
  · exact evaluateGuards_alternatives_ne_nil
      (fun g hga => Guard.generateAlternatives_ne_nil (hg g (mem_getGuardsForKey hga)))
      (fun h0 => Bool.noConfusion h0) rfl h

theorem simulateWrite_single {guards : List Guard} {key : String} {g : Guard}
    (hone : getGuardsForKey guards key = [g]) {value : String} (h : (g.evaluate value).1 = .accept) :
    (simulateWrite guards key value).result = .accept := by
  rcases hge : g.evaluate value with ⟨r, reason⟩
  rw [hge] at h
  subst h
  simp only [simulateWrite, hone, evaluateGuards, hge]
  rfl

/-! ### Counter-offers -/

/-- Every alternative of a counter-offer comes from an applicable guard and passes it when its
bounds are consistent; `proposeSet` accepts it when that guard is the only one. -/
theorem counterOffer_alternatives_pass (kv : KVStore) (key value : String) {a : Alternative}
    (ha : a ∈ (kv.proposeSet key value).alternatives) :
    ∃ g ∈ getGuardsForKey kv.guards key, (g.evaluate value).1 = .counterOffer ∧
      a ∈ g.generateAlternatives value ∧
      (g.Consistent → (g.evaluate a.value).1 = .accept ∧
        (getGuardsForKey kv.guards key = [g] → (kv.proposeSet key a.value).result = .accept)) := by
  obtain ⟨g, hg, hco, hmem⟩ :=
    mem_simulateWrite_alternatives (applyDecisionPolicy_alternatives_sub _ _ a ha)
  refine ⟨g, hg, hco, hmem, fun hc => ?_⟩
  have hacc := Guard.evaluate_alternative hc hco hmem
  exact ⟨hacc, fun hone => (applyDecisionPolicy_result_accept _ _).mpr (simulateWrite_single hone hacc)⟩

/-- A range guard `[0, 100]` registered by `GUARD ADD`. -/
theorem counterOffer_alternatives_pass_at_score :
    let kv := (RedisLikeCLI.handleGuard (KVStore.create {})
      (CommandParser.parse "GUARD ADD RANGE_INT r score 0 100")).1
    (⟨"100", "Maximum allowed value (proposed 150 is too high)"⟩ : Alternative) ∈
        (kv.proposeSet "score" "150").alternatives ∧
    ∃ g ∈ getGuardsForKey kv.guards "score", (g.evaluate "150").1 = .counterOffer ∧
      (⟨"100", "Maximum allowed value (proposed 150 is too high)"⟩ : Alternative) ∈ g.generateAlternatives "150" ∧
      (g.Consistent → (g.evaluate "100").1 = .accept ∧
        (getGuardsForKey kv.guards "score" = [g] → (kv.proposeSet "score" "100").result = .accept)) :=
  have ha : (⟨"100", "Maximum allowed value (proposed 150 is too high)"⟩ : Alternative) ∈
      ((RedisLikeCLI.handleGuard (KVStore.create {})
        (CommandParser.parse "GUARD ADD RANGE_INT r score 0 100")).1.proposeSet "score" "150").alternatives := by
    decide
  ⟨ha, counterOffer_alternatives_pass _ "score" "150" ha⟩

/-- A range guard `[0, 100]` and a length guard `[5, 10]` on `score`: `150` draws the
counter-offer `100`, which the length guard counter-offers in turn. -/
theorem offered_value_fails_other_guard :
    ∃ kv : KVStore, GuardsBuilt kv.guards ∧ (kv.proposeSet "score" "150").result = .counterOffer ∧
      ∃ a ∈ (kv.proposeSet "score" "150").alternatives, (kv.proposeSet "score" a.value).result ≠ .accept :=
  ⟨_, @GuardsBuilt.cli (RedisLikeCLI.handleGuard (KVStore.create {})
      (CommandParser.parse "GUARD ADD RANGE_INT r score 0 100")).1 "GUARD ADD LENGTH l score 5 10"
      (by decide) (@GuardsBuilt.cli (KVStore.create {}) "GUARD ADD RANGE_INT r score 0 100" (by decide) .nil),
    by decide, ⟨"100", "Maximum allowed value (proposed 150 is too high)"⟩, by decide, by decide⟩

/-- Over guard lists the handlers build a counter-offer always has an alternative, so
`SAFE_DEFAULT` and `DEV_FRIENDLY` answer alike. -/
theorem built_guards_always_offer {kv : KVStore} (hb : GuardsBuilt kv.guards) (key value : String) :
    ((kv.proposeSet key value).result = .counterOffer → (kv.proposeSet key value).alternatives ≠ []) ∧
    ((kv.setDecisionPolicy .safeDefault).proposeSet key value).result =
      ((kv.setDecisionPolicy .devFriendly).proposeSet key value).result ∧
    ((kv.setDecisionPolicy .safeDefault).proposeSet key value).alternatives =
      ((kv.setDecisionPolicy .devFriendly).proposeSet key value).alternatives ∧
    ((kv.setDecisionPolicy .safeDefault).proposeSet key value).triggeredGuards =
      ((kv.setDecisionPolicy .devFriendly).proposeSet key value).triggeredGuards := by
  have hsim := simulateWrite_alternatives_ne_nil hb.wellFormed key value
  obtain ⟨hr, ha, ht, -⟩ := applyDecisionPolicy_safeDefault_devFriendly _ hsim
  refine ⟨fun h => ?_, hr, ha, ht⟩
  rw [KVStore.proposeSet, applyDecisionPolicy_counterOffer_alternatives _ _ h]
  exact hsim (applyDecisionPolicy_counterOffer _ _ h)

theorem built_guards_always_offer_at_color :
    let kv := (RedisLikeCLI.handleGuard (KVStore.create {})
      (CommandParser.parse "GUARD ADD ENUM e color red,green")).1
    GuardsBuilt kv.guards ∧
    ((kv.proposeSet "color" "blue").result = .counterOffer → (kv.proposeSet "color" "blue").alternatives ≠ []) ∧
    ((kv.setDecisionPolicy .safeDefault).proposeSet "color" "blue").result =
      ((kv.setDecisionPolicy .devFriendly).proposeSet "color" "blue").result ∧
    ((kv.setDecisionPolicy .safeDefault).proposeSet "color" "blue").alternatives =
      ((kv.setDecisionPolicy .devFriendly).proposeSet "color" "blue").alternatives ∧
    ((kv.setDecisionPolicy .safeDefault).proposeSet "color" "blue").triggeredGuards =
      ((kv.setDecisionPolicy .devFriendly).proposeSet "color" "blue").triggeredGuards :=
  have hb := @GuardsBuilt.cli (KVStore.create {}) "GUARD ADD ENUM e color red,green" (by decide) .nil
  ⟨hb, built_guards_always_offer hb "color" "blue"⟩

end SentinelDB
