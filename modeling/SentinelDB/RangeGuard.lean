import SentinelDB.Negotiation

/-!
# Range guards: what `std::stoi` reads, and the width of a range

`RangeIntGuard::evaluate` reads the proposed value with `std::stoi`, which takes the
integer at the front of the text after leading blanks, in the syntax of `strtol`, and
throws only when there is none or when it does not fit an `int`; the guard rejects
exactly then. So `"50abc"` is read as `50`, and a literal beyond `int` is rejected,
not counter-offered.

`generateAlternatives` computes `maxValue - minValue` in `int`. The handlers accept any
`int` bounds, and when the width exceeds `INT_MAX` that subtraction overflows and the
conservative alternative lands outside the range.
-/

namespace SentinelDB

set_option autoImplicit false

/-- `cs` begins with an integer in the base-10 syntax of `strtol`: blanks, an optional
sign and a maximal run of digits, followed by `rest`; `n` is its value. -/
def ReadsInteger (cs : List Char) (n : Int) (rest : List Char) : Prop :=
  ∃ blanks sign digits : List Char, cs = blanks ++ sign ++ digits ++ rest ∧
    (∀ c ∈ blanks, isSpace c = true) ∧ (sign = [] ∨ sign = ['-'] ∨ sign = ['+']) ∧
    digits ≠ [] ∧ (∀ c ∈ digits, c.isDigit = true) ∧ (∀ c ∈ rest.head?, c.isDigit = false) ∧
    n = if sign = ['-'] then -(digitsValue digits : Int) else digitsValue digits

/-! ### The integer scanner -/

section Scanner

variable {α : Type} {p : α → Bool}

theorem takeWhile_of_head_false {l : List α} (h : ∀ c ∈ l.head?, p c = false) : l.takeWhile p = [] := by
  cases l with
  | nil => rfl
  | cons c l => simp [List.takeWhile_cons, h c rfl]

theorem dropWhile_of_head_false {l : List α} (h : ∀ c ∈ l.head?, p c = false) : l.dropWhile p = l := by
  cases l with
  | nil => rfl
  | cons c l => simp [List.dropWhile_cons, h c rfl]

end Scanner

theorem scanDigits_eq_some_iff {cs rest : List Char} {m : Nat} :
    scanDigits cs = some (m, rest) ↔
      ∃ digits, cs = digits ++ rest ∧ digits ≠ [] ∧ (∀ c ∈ digits, c.isDigit = true) ∧
        (∀ c ∈ rest.head?, c.isDigit = false) ∧ m = digitsValue digits := by
  constructor
  · intro h
    unfold scanDigits at h
    cases hds : cs.takeWhile Char.isDigit with
    | nil => rw [hds] at h; cases h
    | cons d ds =>
      rw [hds] at h
      simp only [Option.some.injEq, Prod.mk.injEq] at h
      obtain ⟨rfl, rfl⟩ := h
      refine ⟨d :: ds, ?_, List.cons_ne_nil d ds, fun c hc => List.mem_takeWhile_imp (hds ▸ hc), ?_, rfl⟩
      · rw [← hds, List.takeWhile_append_dropWhile]
      · have := List.head?_dropWhile_not Char.isDigit cs
        intro c hc
        rw [hc] at this
        exact this
  · rintro ⟨digits, rfl, hne, hdig, hrest, rfl⟩
    unfold scanDigits
    rw [List.takeWhile_append_of_pos hdig, takeWhile_of_head_false hrest, List.append_nil,
      List.dropWhile_append_of_pos hdig, dropWhile_of_head_false hrest]
    cases digits with
    | nil => exact absurd rfl hne
    | cons d ds => rfl

theorem scanInteger_eq_some_iff {cs rest : List Char} {n : Int} :
    scanInteger cs = some (n, rest) ↔ ReadsInteger cs n rest := by
  have hsplit := List.takeWhile_append_dropWhile isSpace cs
  have hblank : ∀ c ∈ cs.takeWhile isSpace, isSpace c = true := fun c hc => List.mem_takeWhile_imp hc
  constructor
  · intro h
    unfold scanInteger at h
    split at h
    · rename_i r hr
      obtain ⟨⟨m, rest'⟩, hm, he⟩ := Option.map_eq_some'.mp h
      cases he
      obtain ⟨digits, rfl, hne, hdig, hrest, rfl⟩ := scanDigits_eq_some_iff.mp hm
      exact ⟨_, ['-'], digits, hsplit.symm.trans (by rw [hr]; simp), hblank, .inr (.inl rfl), hne, hdig,
        hrest, (if_pos rfl).symm⟩
    · rename_i r hr
      obtain ⟨⟨m, rest'⟩, hm, he⟩ := Option.map_eq_some'.mp h
      cases he
      obtain ⟨digits, rfl, hne, hdig, hrest, rfl⟩ := scanDigits_eq_some_iff.mp hm
      exact ⟨_, ['+'], digits, hsplit.symm.trans (by rw [hr]; simp), hblank, .inr (.inr rfl), hne, hdig,
        hrest, (if_neg (by decide)).symm⟩
    · obtain ⟨⟨m, rest'⟩, hm, he⟩ := Option.map_eq_some'.mp h
      cases he
      obtain ⟨digits, hd, hne, hdig, hrest, rfl⟩ := scanDigits_eq_some_iff.mp hm
      exact ⟨_, [], digits, hsplit.symm.trans (by rw [hd]; simp), hblank, .inl rfl, hne, hdig, hrest,
        (if_neg (by decide)).symm⟩
  · rintro ⟨blanks, sign, digits, rfl, hb, hsign, hne, hdig, hrest, rfl⟩
    obtain ⟨d, ds, rfl⟩ := List.exists_cons_of_ne_nil hne
    have hd : d.isDigit = true := hdig d (List.mem_cons_self d ds)
    have hscan : scanDigits (d :: (ds ++ rest)) = some (digitsValue (d :: ds), rest) :=
      scanDigits_eq_some_iff.mpr ⟨_, rfl, hne, hdig, hrest, rfl⟩
    have hdrop : ∀ s : List Char, (∀ c ∈ s.head?, isSpace c = false) →
        (blanks ++ s).dropWhile isSpace = s := fun s hs => by
      rw [List.dropWhile_append_of_pos hb, dropWhile_of_head_false hs]
    unfold scanInteger
    rcases hsign with rfl | rfl | rfl
    · have hne' : d ≠ '-' ∧ d ≠ '+' := by
        constructor <;> rintro rfl <;> exact absurd hd (by decide)
      rw [List.append_nil, List.append_assoc, hdrop _ (by simpa using isSpace_of_isDigit hd), List.cons_append]
      split
      · rename_i heq; exact absurd (List.cons.inj heq).1 hne'.1
      · rename_i heq; exact absurd (List.cons.inj heq).1 hne'.2
      · rw [hscan]; rfl
    all_goals
      rw [List.append_assoc, List.append_assoc, hdrop _ fun _ h => by cases h; rfl]
      simp only [List.cons_append, List.nil_append, hscan]
      rfl

theorem stoi_eq_ok_iff {s : String} {n : Int} :
    stoi s = .ok n ↔ ∃ rest, ReadsInteger s.data n rest ∧ -2 ^ 31 ≤ n ∧ n < 2 ^ 31 := by
  simp only [← scanInteger_eq_some_iff]
  unfold stoi stoiPos stoSignedPos
  rcases h : scanInteger s.data with _ | ⟨v, rest⟩
  · simp [Except.map]
  · dsimp only
    split_ifs with hin
    · simp only [Except.map, Except.ok.injEq, Option.some.injEq, Prod.mk.injEq]
      exact ⟨fun h => ⟨rest, ⟨h, rfl⟩, h ▸ hin⟩, fun ⟨_, ⟨h, _⟩, _⟩ => h⟩
    · simp only [Except.map, Option.some.injEq, Prod.mk.injEq, reduceCtorEq, false_iff, not_exists, not_and]
      rintro _ ⟨rfl, -⟩ h1 h2
      exact hin ⟨h1, h2⟩

/-! ### The verdict -/

/-- A range guard rejects exactly the values with no `int` at their front; for the
others, the integer `std::stoi` reads decides between `ACCEPT` and `COUNTER_OFFER`. -/
theorem rangeEvaluate_reads_leading_integer (lo hi : Int) (v : String) :
    ((Guard.rangeEvaluate lo hi v).1 = .accept ↔
      ∃ n rest, ReadsInteger v.data n rest ∧ -2 ^ 31 ≤ n ∧ n < 2 ^ 31 ∧ lo ≤ n ∧ n ≤ hi) ∧
    ((Guard.rangeEvaluate lo hi v).1 = .counterOffer ↔
      ∃ n rest, ReadsInteger v.data n rest ∧ -2 ^ 31 ≤ n ∧ n < 2 ^ 31 ∧ ¬(lo ≤ n ∧ n ≤ hi)) ∧
    ((Guard.rangeEvaluate lo hi v).1 = .reject ↔
      ∀ n rest, ReadsInteger v.data n rest → ¬(-2 ^ 31 ≤ n ∧ n < 2 ^ 31)) := by
  unfold Guard.rangeEvaluate
  cases h : stoi v with
  | ok n =>
    obtain ⟨rest, hr, hint⟩ := stoi_eq_ok_iff.mp h
    have huniq : ∀ n' rest', ReadsInteger v.data n' rest' → -2 ^ 31 ≤ n' ∧ n' < 2 ^ 31 → n' = n :=
      fun n' rest' hr' hint' => by
        have := h.symm.trans (stoi_eq_ok_iff.mpr ⟨rest', hr', hint'⟩)
        cases this; rfl
    dsimp only
    split_ifs with hin
    · refine ⟨iff_of_true rfl ⟨n, rest, hr, hint.1, hint.2, hin⟩, iff_of_false (by decide) ?_,
        iff_of_false (by decide) fun hall => hall n rest hr hint⟩
      rintro ⟨n', rest', hr', h1, h2, hout⟩
      exact hout (huniq n' rest' hr' ⟨h1, h2⟩ ▸ hin)
    · refine ⟨iff_of_false (by decide) ?_, iff_of_true rfl ⟨n, rest, hr, hint.1, hint.2, hin⟩,
        iff_of_false (by decide) fun hall => hall n rest hr hint⟩
      rintro ⟨n', rest', hr', h1, h2, hin'⟩
      exact hin (huniq n' rest' hr' ⟨h1, h2⟩ ▸ hin')
  | error e =>
    have hnone : ∀ n rest, ReadsInteger v.data n rest → ¬(-2 ^ 31 ≤ n ∧ n < 2 ^ 31) :=
      fun n rest hr hint => by
        have := h.symm.trans (stoi_eq_ok_iff.mpr ⟨rest, hr, hint⟩)
        cases this
    dsimp only
    exact ⟨iff_of_false (by decide) fun ⟨n, rest, hr, h1, h2, _⟩ => hnone n rest hr ⟨h1, h2⟩,
      iff_of_false (by decide) fun ⟨n, rest, hr, h1, h2, _⟩ => hnone n rest hr ⟨h1, h2⟩,
      iff_of_true rfl hnone⟩

/-- `"50abc"` is no decimal literal, yet `std::stoi` reads `50` and the guard accepts it;
`"3000000000"` is one, outside `int`, and the guard rejects it. -/
theorem stoi_reads_prefix_rejects_wide :
    (Guard.rangeEvaluate 0 100 "50abc").1 = .accept ∧ (Guard.rangeEvaluate 0 100 "3000000000").1 = .reject := by
  decide

/-! ### The width of a range -/

/-- A range wider than `INT_MAX` overflows `maxValue - minValue`, and its counter-offer for
`2100000000` is `2073741824`, above the maximum. -/
theorem wide_range_alternative_overflows :
    (RedisLikeCLI.handleGuard (KVStore.create {})
        (CommandParser.parse "GUARD ADD RANGE_INT wide k -2000000000 2000000000")).1.guards =
      [⟨"wide", "k", true, .rangeInt (-2000000000) 2000000000⟩] ∧
    2 ^ 31 ≤ (2000000000 : Int) - -2000000000 ∧
    ((RedisLikeCLI.handleGuard (KVStore.create {})
        (CommandParser.parse "GUARD ADD RANGE_INT wide k -2000000000 2000000000")).1.proposeSet
        "k" "2100000000").alternatives.map Alternative.value = ["2000000000", "2073741824"] := by
  decide

end SentinelDB
