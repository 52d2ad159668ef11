import SentinelDB.Evaluation
import Mathlib.Data.String.Basic

/-!
# The guard loop against the specification's fold

The specification describes `simulateWrite` declaratively over the enabled guards that
apply to the key, in registration order: the first rejecting guard decides; otherwise the
counter-offering guards' reasons are joined by `"; "` and their alternatives merged, the
first occurrence of each value kept. `simulateWriteSpec` states that, and the loop of
`simulateWrite` computes it (`simulateWrite_eq_spec`), with one difference from the
specification's words: a rejection's triggered guards also name the guards that
counter-offered before it, since the loop has already pushed their names.
-/

namespace SentinelDB

set_option autoImplicit false

/-- The entries of `alts` whose value is neither in `seen` nor taken earlier. -/
def firstOccurrences (seen : List String) : List Alternative → List Alternative
  | [] => []
  | a :: as =>
    if a.value ∈ seen then firstOccurrences seen as
    else a :: firstOccurrences (seen ++ [a.value]) as

/-- The guards that counter-offer the value before the first rejection, in order. -/
def counterOffering (value : String) (gs : List Guard) : List Guard :=
  (gs.takeWhile fun g => (g.evaluate value).1 != .reject).filter
    fun g => (g.evaluate value).1 == .counterOffer

/-- `simulateWrite` as the specification describes it. -/
def simulateWriteSpec (guards : List Guard) (key value : String) : WriteEvaluation :=
  let applicable := getGuardsForKey guards key
  let offers := counterOffering value applicable
  if applicable = [] then { key := key, proposedValue := value, reason := "No guards defined for this key" }
  else
    match applicable.find? fun g => (g.evaluate value).1 == .reject with
    | some g =>
      { key := key, proposedValue := value, result := .reject, reason := (g.evaluate value).2,
        triggeredGuards := offers.map Guard.name ++ [g.name] }
    | none =>
      if offers = [] then { key := key, proposedValue := value, reason := "All guards passed" }
      else
        { key := key, proposedValue := value, result := .counterOffer,
          reason := "; ".intercalate (offers.map fun g => (g.evaluate value).2),
          alternatives := firstOccurrences [] (offers.flatMap fun g => g.generateAlternatives value),
          triggeredGuards := offers.map Guard.name }

/-! ### Merging alternatives -/

theorem collectAlternatives_eq (collected alts : List Alternative) :
    collectAlternatives collected alts =
      collected ++ firstOccurrences (collected.map Alternative.value) alts := by
  induction alts generalizing collected with
  | nil => exact (List.append_nil collected).symm
  | cons b bs ih =>
    have hany : (collected.any fun e => e.value == b.value) = decide (b.value ∈ collected.map Alternative.value) := by
      rw [Bool.eq_iff_iff]
      simp only [List.any_eq_true, beq_iff_eq, decide_eq_true_eq, List.mem_map]
    simp only [collectAlternatives, List.foldl_cons] at ih ⊢
    rw [hany, firstOccurrences]
    by_cases hb : b.value ∈ collected.map Alternative.value
    · rw [decide_eq_true hb, if_pos rfl, if_pos hb, ih]
    · rw [decide_eq_false hb, if_neg Bool.false_ne_true, if_neg hb, ih]
      simp only [List.map_append, List.map_cons, List.map_nil, List.append_assoc, List.singleton_append]

theorem firstOccurrences_distinct (seen : List String) (alts : List Alternative) :
    (firstOccurrences seen alts).Pairwise (fun a b => a.value ≠ b.value) ∧
      ∀ a ∈ firstOccurrences seen alts, a.value ∉ seen := by
  induction alts generalizing seen with
  | nil => simp [firstOccurrences]
  | cons b bs ih =>
    rw [firstOccurrences]
    split
    · exact ih seen
    · rename_i hb
      obtain ⟨hpair, hfresh⟩ := ih (seen ++ [b.value])
      refine ⟨List.pairwise_cons.mpr ⟨fun a ha h => hfresh a ha (by simp [h]), hpair⟩, ?_⟩
      rintro a (_ | ⟨_, ha⟩)
      · exact hb
      · exact fun h => hfresh a ha (List.mem_append_left _ h)

/-! ### Reasons -/

theorem append_ne_empty {s : String} (h : s ≠ "") (t : String) : s ++ t ≠ "" := fun h0 => by
  have hd := congrArg String.data h0
  rw [String.data_append] at hd
  exact h (String.ext (List.append_eq_nil.mp hd).1)

theorem evaluate_reason_ne_empty (g : Guard) (value : String) : (g.evaluate value).2 ≠ "" := by
  rcases g with ⟨name, key, enabled, kind⟩
  cases kind with
  | rangeInt lo hi =>
    simp only [Guard.evaluate, Guard.rangeEvaluate, String.append_assoc]
    split
    · split <;> exact append_ne_empty (by decide) _
    · decide
  | enum allowed =>
    simp only [Guard.evaluate, Guard.enumEvaluate, String.append_assoc]
    split
    · decide
    · exact append_ne_empty (by decide) _
  | length lo hi =>
    simp only [Guard.evaluate, Guard.lengthEvaluate, String.append_assoc]
    split <;> exact append_ne_empty (by decide) _

theorem intercalate_go_cons (acc sep r : String) (rs : List String) :
    String.intercalate.go acc sep (r :: rs) = String.intercalate.go (acc ++ sep ++ r) sep rs := rfl

theorem foldl_reason_eq_go (rs : List String) (hrs : ∀ r ∈ rs, r ≠ "") {acc : String} (hacc : acc ≠ "") :
    rs.foldl (fun acc r => if acc.isEmpty then r else acc ++ "; " ++ r) acc =
      String.intercalate.go acc "; " rs := by
  induction rs generalizing acc with
  | nil => rfl
  | cons r rs ih =>
    have hne : acc.isEmpty = false := Bool.eq_false_iff.mpr fun h => hacc ((String.isEmpty_iff acc).mp h)
    simp only [List.foldl_cons, hne, Bool.false_eq_true, ↓reduceIte]
    exact ih (fun r' h' => hrs r' (List.mem_cons_of_mem r h')) (append_ne_empty (append_ne_empty hacc _) r)

theorem foldl_reason_eq_intercalate (rs : List String) (hrs : ∀ r ∈ rs, r ≠ "") :
    rs.foldl (fun acc r => if acc.isEmpty then r else acc ++ "; " ++ r) "" = "; ".intercalate rs := by
  cases rs with
  | nil => rfl
  | cons r rs =>
    rw [List.foldl_cons, if_pos (show "".isEmpty = true from rfl)]
    exact foldl_reason_eq_go rs (fun r' h' => hrs r' (List.mem_cons_of_mem r h')) (hrs r (List.mem_cons_self r rs))

/-! ### The loop -/

/-- The guard loop from any point: the first rejection decides, otherwise the
counter-offers are merged into what was collected. -/
theorem evaluateGuards_eq (value : String) (gs : List Guard) (allAccepted : Bool)
    (collected : List Alternative) (e : WriteEvaluation) :
    evaluateGuards value gs allAccepted collected e =
      match gs.find? fun g => (g.evaluate value).1 == .reject with
      | some g =>
        { e with
          result := .reject, reason := (g.evaluate value).2,
          triggeredGuards := e.triggeredGuards ++ (counterOffering value gs).map Guard.name ++ [g.name] }
      | none =>
        if allAccepted ∧ counterOffering value gs = [] then { e with reason := "All guards passed" }
        else
          { e with
            result := .counterOffer,
            reason := ((counterOffering value gs).map fun g => (g.evaluate value).2).foldl
              (fun acc r => if acc.isEmpty then r else acc ++ "; " ++ r) e.reason,
            alternatives := collectAlternatives collected
              ((counterOffering value gs).flatMap fun g => g.generateAlternatives value),
            triggeredGuards := e.triggeredGuards ++ (counterOffering value gs).map Guard.name } := by
  induction gs generalizing allAccepted collected e with
  | nil => cases allAccepted <;> simp [evaluateGuards, counterOffering, collectAlternatives]
  | cons g gs ih =>
    rcases hv : g.evaluate value with ⟨verdict, r⟩
    cases verdict with
    | reject => simp [evaluateGuards, counterOffering, hv, List.find?_cons, List.takeWhile_cons]
    | accept =>
      have hfind : (g :: gs).find? (fun g => (g.evaluate value).1 == .reject) =
          gs.find? fun g => (g.evaluate value).1 == .reject := by
        simp [List.find?_cons, hv]
      have hco : counterOffering value (g :: gs) = counterOffering value gs := by
        simp [counterOffering, hv, List.takeWhile_cons]
      simp only [evaluateGuards, hv]
      rw [ih, hfind, hco]
    | counterOffer =>
      have hfind : (g :: gs).find? (fun g => (g.evaluate value).1 == .reject) =
          gs.find? fun g => (g.evaluate value).1 == .reject := by
        simp [List.find?_cons, hv]
      have hco : counterOffering value (g :: gs) = g :: counterOffering value gs := by
        simp [counterOffering, hv, List.takeWhile_cons]
      simp only [evaluateGuards, hv]
      rw [ih, hfind, hco]
      split
      · simp
      · simp [hv, collectAlternatives, List.foldl_append]

/-- `simulateWrite` computes the specification's fold. -/
theorem simulateWrite_eq_spec (guards : List Guard) (key value : String) :
    simulateWrite guards key value = simulateWriteSpec guards key value := by
  unfold simulateWrite simulateWriteSpec
  cases h : getGuardsForKey guards key with
  | nil => rfl
  | cons g gs =>
    dsimp only
    rw [evaluateGuards_eq]
    simp only [reduceCtorEq, if_false, true_and, collectAlternatives_eq, List.map_nil, List.nil_append]
    split
    · rfl
    · split
      · rfl
      · rw [foldl_reason_eq_intercalate _ fun r hr => by
          obtain ⟨g', -, rfl⟩ := List.mem_map.mp hr
          exact evaluate_reason_ne_empty g' value]

/-- `simulateWrite` is the specification's fold, a rejection also naming the earlier
counter-offers, and no two of its alternatives share a value. -/
theorem simulateWrite_follows_fold (guards : List Guard) (key value : String) :
    simulateWrite guards key value = simulateWriteSpec guards key value ∧
      (simulateWrite guards key value).alternatives.Pairwise fun a b => a.value ≠ b.value := by
  refine ⟨simulateWrite_eq_spec guards key value, ?_⟩
  rw [simulateWrite_eq_spec]
  unfold simulateWriteSpec
  dsimp only
  split
  · exact List.Pairwise.nil
  · split
    · exact List.Pairwise.nil
    · split
      · exact List.Pairwise.nil
      · exact (firstOccurrences_distinct [] _).1

/-- A length guard that counter-offers `"abc"`, registered before a range guard that
rejects it: the rejection names both guards. -/
theorem counterOffer_named_in_rejection :
    let guards : List Guard := [⟨"len", "k", true, .length 1 2⟩, ⟨"range", "k", true, .rangeInt 0 100⟩]
    (simulateWrite guards "k" "abc").result = .reject ∧
      (simulateWrite guards "k" "abc").triggeredGuards = ["len", "range"] := by
  decide

end SentinelDB
