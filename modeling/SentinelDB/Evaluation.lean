import SentinelDB.KVStore

/-!
# Write negotiation

`simulateWrite` runs the enabled guards that apply to a key in registration order,
stops at the first rejection and otherwise collects counter-offers;
`applyDecisionPolicy` turns the outcome into the final verdict. Neither touches the
store or the WAL.
-/

namespace SentinelDB

set_option autoImplicit false

structure WriteEvaluation where
  result : GuardResult := .accept
  key : String := ""
  proposedValue : String := ""
  reason : String := ""
  alternatives : List Alternative := []
  triggeredGuards : List String := []
  appliedPolicy : DecisionPolicy := .safeDefault
  policyReasoning : String := ""
  deriving DecidableEq, Repr

/-- `KVStore::getGuardsForKey`. -/
def getGuardsForKey (guards : List Guard) (key : String) : List Guard :=
  guards.filter fun g => g.enabled && g.appliesTo key

/-- The de-duplicating append of `simulateWrite`: values already collected are skipped. -/
def collectAlternatives (collected alts : List Alternative) : List Alternative :=
  alts.foldl (fun acc alt => if acc.any (fun e => e.value == alt.value) then acc else acc ++ [alt])
    collected

/-- The guard loop of `simulateWrite`, with its `allAccepted` flag and collected alternatives. -/
def evaluateGuards (value : String) :
    List Guard → Bool → List Alternative → WriteEvaluation → WriteEvaluation
  | [], allAccepted, collected, e =>
    if allAccepted then { e with reason := "All guards passed" }
    else { e with result := .counterOffer, alternatives := collected }
  | g :: gs, allAccepted, collected, e =>
    match g.evaluate value with
    | (.reject, guardReason) =>
      { e with result := .reject, triggeredGuards := e.triggeredGuards ++ [g.name], reason := guardReason }
    | (.counterOffer, guardReason) =>
      evaluateGuards value gs false (collectAlternatives collected (g.generateAlternatives value))
        { e with
          triggeredGuards := e.triggeredGuards ++ [g.name]
          reason := if e.reason.isEmpty then guardReason else e.reason ++ "; " ++ guardReason }
    | (.accept, _) => evaluateGuards value gs allAccepted collected e

/-- `KVStore::simulateWrite`. -/
def simulateWrite (guards : List Guard) (key value : String) : WriteEvaluation :=
  match getGuardsForKey guards key with
  | [] => { key := key, proposedValue := value, reason := "No guards defined for this key" }
  | applicable => evaluateGuards value applicable true [] { key := key, proposedValue := value }

/-- `KVStore::applyDecisionPolicy`. -/
def applyDecisionPolicy (decisionPolicy : DecisionPolicy) (evaluation : WriteEvaluation) :
    WriteEvaluation :=
  let e := { evaluation with appliedPolicy := decisionPolicy }
  if e.result = .accept then { e with policyReasoning := "No policy applied - all guards passed" }
  else
    match decisionPolicy with
    | .strict =>
      if e.result = .counterOffer then
        { e with
          result := .reject
          policyReasoning := "Rejected under STRICT policy due to guard violation"
          alternatives := [] }
      else { e with policyReasoning := "Rejected under STRICT policy due to guard violation" }
    | .devFriendly =>
      if e.result = .reject then
        { e with policyReasoning := "Rejected under DEV_FRIENDLY policy - value cannot be salvaged" }
      else if e.result = .counterOffer then
        { e with policyReasoning := "Counter-offer under DEV_FRIENDLY policy - showing alternatives" }
      else e
    | .safeDefault =>
      if e.result = .counterOffer then
        if e.alternatives.isEmpty then
          { e with
            result := .reject
            policyReasoning := "Rejected under SAFE_DEFAULT policy - no safe alternatives available" }
        else
          { e with
            policyReasoning := "Counter-offer under SAFE_DEFAULT policy - safe alternatives available" }
      else if e.result = .reject then
        { e with policyReasoning := "Rejected under SAFE_DEFAULT policy - critical violation" }
      else e

/-- `KVStore::proposeSet`: simulate, then apply the current decision policy. -/
def KVStore.proposeSet (kv : KVStore) (key value : String) : WriteEvaluation :=
  applyDecisionPolicy kv.decisionPolicy (simulateWrite kv.guards key value)

/-! ### Collected alternatives -/

theorem mem_collectAlternatives {collected alts : List Alternative} {a : Alternative}
    (h : a ∈ collectAlternatives collected alts) : a ∈ collected ∨ a ∈ alts := by
  induction alts generalizing collected with
  | nil => exact .inl h
  | cons b bs ih =>
    simp only [collectAlternatives, List.foldl_cons] at h
    rcases ih h with h | h
    · split at h
      · exact .inl h
      · rcases List.mem_append.mp h with h | h
        · exact .inl h
        · exact .inr (List.mem_cons.mpr (.inl (List.mem_singleton.mp h)))
    · exact .inr (List.mem_cons_of_mem b h)

theorem collectAlternatives_ne_nil {collected alts : List Alternative}
    (h : collected ≠ [] ∨ alts ≠ []) : collectAlternatives collected alts ≠ [] := by
  induction alts generalizing collected with
  | nil => simpa using h
  | cons b bs ih =>
    simp only [collectAlternatives, List.foldl_cons]
    apply ih
    left
    split
    · rename_i hany
      obtain ⟨e, he, -⟩ := List.any_eq_true.mp hany
      exact List.ne_nil_of_mem he
    · simp

/-! ### The guard loop -/

theorem mem_evaluateGuards_alternatives {value : String} {gs : List Guard} {allAccepted : Bool}
    {collected : List Alternative} {e : WriteEvaluation} {a : Alternative}
    (he : e.alternatives = []) (h : a ∈ (evaluateGuards value gs allAccepted collected e).alternatives) :
    a ∈ collected ∨ ∃ g ∈ gs, (g.evaluate value).1 = .counterOffer ∧ a ∈ g.generateAlternatives value := by
  induction gs generalizing allAccepted collected e with
  | nil =>
    simp only [evaluateGuards] at h
    split at h
    · simp [he] at h
    · exact .inl h
  | cons g gs ih =>
    simp only [evaluateGuards] at h
    split at h
    · simp [he] at h
    · rename_i r hr
      rcases ih (by exact he) h with h | ⟨g', hg', h⟩
      · rcases mem_collectAlternatives h with h | h
        · exact .inl h
        · exact .inr ⟨g, List.mem_cons_self g gs, by rw [hr], h⟩
      · exact .inr ⟨g', List.mem_cons_of_mem g hg', h⟩
    · rcases ih he h with h | ⟨g', hg', h⟩
      · exact .inl h
      · exact .inr ⟨g', List.mem_cons_of_mem g hg', h⟩

theorem evaluateGuards_alternatives_ne_nil {value : String} {gs : List Guard} {allAccepted : Bool}
    {collected : List Alternative} {e : WriteEvaluation}
    (hgs : ∀ g ∈ gs, (g.evaluate value).1 = .counterOffer → g.generateAlternatives value ≠ [])
    (hflag : allAccepted = false → collected ≠ []) (he : e.result = .accept)
    (h : (evaluateGuards value gs allAccepted collected e).result = .counterOffer) :
    (evaluateGuards value gs allAccepted collected e).alternatives ≠ [] := by
  induction gs generalizing allAccepted collected e with
  | nil =>
    simp only [evaluateGuards] at h ⊢
    split
    · rename_i hacc; simp [hacc, he] at h
    · rename_i hacc; simpa using hflag (by simpa using hacc)
  | cons g gs ih =>
    have hrest : ∀ g ∈ gs, (g.evaluate value).1 = .counterOffer → g.generateAlternatives value ≠ [] :=
      fun g' hg' => hgs g' (List.mem_cons_of_mem g hg')
    simp only [evaluateGuards] at h ⊢
    split
    · rename_i hr; simp only [hr] at h; simp at h
    · rename_i r hr
      simp only [hr] at h
      exact ih hrest (fun _ => collectAlternatives_ne_nil
        (.inr (hgs g (List.mem_cons_self g gs) (by rw [hr])))) he h
    · rename_i r hr
      simp only [hr] at h
      exact ih hrest hflag he h

/-! ### Decision policies -/

theorem applyDecisionPolicy_safeDefault_devFriendly (e : WriteEvaluation)
    (h : e.result = .counterOffer → e.alternatives ≠ []) :
    (applyDecisionPolicy .safeDefault e).result = (applyDecisionPolicy .devFriendly e).result ∧
    (applyDecisionPolicy .safeDefault e).alternatives =
      (applyDecisionPolicy .devFriendly e).alternatives ∧
    (applyDecisionPolicy .safeDefault e).triggeredGuards =
      (applyDecisionPolicy .devFriendly e).triggeredGuards ∧
    (applyDecisionPolicy .safeDefault e).reason = (applyDecisionPolicy .devFriendly e).reason := by
  rcases e with ⟨result, key, proposedValue, reason, alternatives, triggered, applied, reasoning⟩
  cases result <;> simp_all [applyDecisionPolicy]

theorem applyDecisionPolicy_result_accept (p : DecisionPolicy) (e : WriteEvaluation) :
    (applyDecisionPolicy p e).result = .accept ↔ e.result = .accept := by
  rcases e with ⟨result, key, proposedValue, reason, alternatives, triggered, applied, reasoning⟩
  cases result <;> cases p <;> simp [applyDecisionPolicy]
  split <;> simp

theorem applyDecisionPolicy_alternatives_sub (p : DecisionPolicy) (e : WriteEvaluation) :
    ∀ a ∈ (applyDecisionPolicy p e).alternatives, a ∈ e.alternatives := by
  rcases e with ⟨result, key, proposedValue, reason, alternatives, triggered, applied, reasoning⟩
  cases result <;> cases p <;> simp [applyDecisionPolicy]
  split <;> simp

theorem applyDecisionPolicy_counterOffer_alternatives (p : DecisionPolicy) (e : WriteEvaluation)
    (h : (applyDecisionPolicy p e).result = .counterOffer) :
    (applyDecisionPolicy p e).alternatives = e.alternatives := by
  rcases e with ⟨result, key, proposedValue, reason, alternatives, triggered, applied, reasoning⟩
  cases result <;> cases p <;> simp_all [applyDecisionPolicy]
  split <;> simp_all

theorem applyDecisionPolicy_counterOffer (p : DecisionPolicy) (e : WriteEvaluation)
    (h : (applyDecisionPolicy p e).result = .counterOffer) : e.result = .counterOffer := by
  rcases e with ⟨result, key, proposedValue, reason, alternatives, triggered, applied, reasoning⟩
  cases result <;> cases p <;> simp_all [applyDecisionPolicy]

end SentinelDB
