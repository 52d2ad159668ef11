import SentinelDB.Timestamps
import SentinelDB.Explain

/-!
# The CLI's commands

`RedisLikeCLI::executeCommand` and the handlers it dispatches to, with the text each
prints. The handlers that only read the engine return their text alone; the others
return the engine after the command as well. No handler of the model throws: `std::stoi`
and `std::stoll` are caught where they are called, and `KVStore::set`, `del` and
`createSnapshot` always succeed, so the `catch` clauses of `executeCommand` print nothing.

`executeCommand_error`: a command whose reply is an error, one starting with `(error)`,
leaves the engine exactly as it was. Every handler checks its arguments before it calls a
mutator, and prints an error only on those paths.
-/

namespace SentinelDB

set_option autoImplicit false

/-- A reply that reports a failure: it starts with `(error)`. -/
def IsErrorReply (reply : String) : Prop := "(error)".data <+: reply.data

instance : DecidablePred IsErrorReply := fun reply =>
  inferInstanceAs (Decidable ("(error)".data <+: reply.data))

/-- `std::stoi(s, &pos)` read whole into a positive value, else refused with the texts given. -/
def parsePositive {ε : Type} (thrown : StdError → ε) (invalid notPositive : ε) (s : String) :
    Except ε Int :=
  match stoiPos s with
  | .error e => .error (thrown e)
  | .ok (v, pos) =>
    if pos ≠ s.length then .error invalid
    else if v ≤ 0 then .error notPositive
    else .ok v

/-- The descriptions `POLICY GET` and `GET /policy` give of each policy. -/
def policyDescription : DecisionPolicy → String
  | .devFriendly => "Always negotiate guard violations when alternatives exist"
  | .safeDefault => "Negotiate low-risk violations (with alternatives), reject high-risk (no alternatives)"
  | .strict => "Reject all guard violations without negotiation"

namespace RedisLikeCLI

/-- `handleSet`: `KVStore::set` reads the clock at `clock.now`, and again for retention. -/
def handleSet (clock : Readings) (kv : KVStore) (cmd : Command) : KVStore × String :=
  match cmd.args with
  | key :: value :: _ => (kv.set key value clock.now (clock.pruneAt key), "OK\n")
  | _ => (kv, "(error) ERR wrong number of arguments for \x27SET\x27 command\n")

/-- `handleGet`. -/
def handleGet (kv : KVStore) (cmd : Command) : String :=
  match cmd.args with
  | [] => "(error) ERR wrong number of arguments for \x27GET\x27 command\n"
  | key :: _ =>
    match kv.get key with
    | some value => "\x22" ++ value ++ "\x22\n"
    | none => "(nil)\n"

/-- `handleDel`. -/
def handleDel (kv : KVStore) (cmd : Command) : KVStore × String :=
  match cmd.args with
  | [] => (kv, "(error) ERR wrong number of arguments for \x27DEL\x27 command\n")
  | key :: _ =>
    match kv.del key with
    | (.ok, kv') => (kv', "(integer) 1\n")
    | (_, kv') => (kv', "(integer) 0\n")

/-- `handleGetAt`. -/
def handleGetAt (cal : Calendar) (kv : KVStore) (cmd : Command) : String :=
  match cmd.args with
  | key :: timestampStr :: _ =>
    match parseTimestamp cal timestampStr with
    | none =>
      "(error) ERR invalid timestamp format. Use epoch milliseconds or \x27YYYY-MM-DD HH:MM:SS\x27\n"
    | some timestamp =>
      match kv.getAtTime key timestamp with
      | some value => "\x22" ++ value ++ "\x22\n"
      | none => "(nil)\n"
  | _ => "(error) ERR wrong number of arguments for \x27GET AT\x27 command\n"

/-- `handleHistory`. -/
def handleHistory (cal : Calendar) (kv : KVStore) (cmd : Command) : String :=
  match cmd.args with
  | [] => "(error) ERR wrong number of arguments for \x27HISTORY\x27 command\n"
  | key :: _ =>
    let history := kv.getHistory key
    if history.isEmpty then "(empty array)\n"
    else
      toString history.length ++ " version(s):\n" ++
        String.join (history.enum.map fun (i, version) =>
          toString (i + 1) ++ ") [" ++ formatTimestamp cal version.timestamp ++ "] \x22" ++
            version.value ++ "\x22\n")

/-- The structured output of `handleExplain`. -/
def explainReport (cal : Calendar) (result : ExplainResult) : String :=
  "\n========== EXPLAIN GET AT ==========\n" ++
  "Query:     GET \x22" ++ result.key ++ "\x22 AT " ++ formatTimestamp cal result.queryTimestamp ++ "\n" ++
  "Status:    " ++ (if result.found then "FOUND" else "NOT FOUND") ++ "\n" ++
  "Total Versions: " ++ toString result.totalVersions ++ "\n" ++ "\n" ++
  (match result.found, result.selectedVersion with
    | true, some selected =>
      "Selected Version:\n" ++ "  Timestamp: " ++ formatTimestamp cal selected.timestamp ++ "\n" ++
        "  Value:     \x22" ++ selected.value ++ "\x22\n" ++ "\n"
    | _, _ => "") ++
  "Reasoning:\n  " ++ result.reasoning ++ "\n" ++
  (if result.skippedVersions.isEmpty then ""
  else
    "\nSkipped Versions (superseded by selected version):\n" ++
      String.join (result.skippedVersions.enum.map fun (i, version) =>
        "  " ++ toString (i + 1) ++ ") [" ++ formatTimestamp cal version.timestamp ++ "] \x22" ++
          version.value ++ "\x22\n")) ++
  "====================================\n\n"

/-- `handleExplain`. -/
def handleExplain (cal : Calendar) (kv : KVStore) (cmd : Command) : String :=
  match cmd.args with
  | key :: timestampStr :: _ =>
    match parseTimestamp cal timestampStr with
    | none =>
      "(error) ERR invalid timestamp format. Use epoch milliseconds or \x27YYYY-MM-DD HH:MM:SS\x27\n"
    | some timestamp => explainReport cal (kv.explainGetAtTime key timestamp)
  | _ =>
    "(error) ERR wrong number of arguments for \x27EXPLAIN\x27 command\n" ++
      "Usage: EXPLAIN GET <key> AT <timestamp>\n"

/-- The mode parsing of `handleConfig`: the policy and the confirmation, or the error printed. -/
def parseRetention (args : List String) : Except String (RetentionPolicy × String) :=
  let modeStr := toUpper (args.getD 1 "")
  if modeStr = "FULL" then .ok ({}, "OK - Retention policy set to FULL (keep all versions)\n")
  else if modeStr = "LAST" then
    if args.length < 3 then
      .error ("(error) ERR LAST requires a value parameter\n" ++
        "Usage: CONFIG RETENTION LAST <N> for count, or CONFIG RETENTION LAST <T>s for time\n")
    else
      let valueStr := args.getD 2 ""
      if valueStr.data.getLast? = some 's' then
        let secondsStr : String := ⟨valueStr.data.dropLast⟩
        if secondsStr = "" then .error "(error) ERR invalid format, expected number before \x27s\x27\n"
        else
          (parsePositive (fun _ => "(error) ERR invalid seconds value\n") "(error) ERR invalid seconds value\n"
              "(error) ERR seconds must be positive\n" secondsStr).map fun seconds =>
            (RetentionPolicy.make .lastT seconds, "OK - Retention policy set to LAST " ++ toString seconds ++
              "s (keep versions from last " ++ toString seconds ++ " seconds)\n")
      else
        (parsePositive (fun _ => "(error) ERR invalid count value\n") "(error) ERR invalid count value\n"
            "(error) ERR count must be positive\n" valueStr).map fun count =>
          (RetentionPolicy.make .lastN count, "OK - Retention policy set to LAST " ++ toString count ++
            " (keep last " ++ toString count ++ " versions)\n")
  else
    .error ("(error) ERR unknown retention mode \x27" ++ args.getD 1 "" ++ "\x27\n" ++
      "Valid modes: FULL, LAST <N>, LAST <T>s\n")

/-- `handleConfig`: every error is printed before `setRetentionPolicy` is reached. -/
def handleConfig (clock : Readings) (kv : KVStore) (cmd : Command) : KVStore × String :=
  if cmd.args.length < 2 then
    (kv, "(error) ERR wrong number of arguments for \x27CONFIG\x27 command\n" ++
      "Usage: CONFIG RETENTION FULL | CONFIG RETENTION LAST <N> | CONFIG RETENTION LAST <T>s\n")
  else if toUpper (cmd.args.getD 0 "") ≠ "RETENTION" then
    (kv, "(error) ERR unknown CONFIG subcommand \x27" ++ cmd.args.getD 0 "" ++ "\x27\n")
  else
    match parseRetention cmd.args with
    | .ok (policy, message) => (kv.setRetentionPolicy policy clock.pruneAt, message)
    | .error message => (kv, message)

/-- The names `handlePropose` prints for each outcome, with their marks. -/
def resultLine : GuardResult → String
  | .accept => "Result:    ACCEPT ✓\n"
  | .reject => "Result:    REJECT ✗\n"
  | .counterOffer => "Result:    COUNTER_OFFER ⚠\n"

/-- The evaluation `handlePropose` prints. -/
def proposalReport (key value : String) (evaluation : WriteEvaluation) : String :=
  let triggered :=
    if evaluation.triggeredGuards.isEmpty then ""
    else "Triggered: " ++ ", ".intercalate evaluation.triggeredGuards ++ "\n"
  "\n========== WRITE EVALUATION ==========\n" ++
  "Proposal:  SET \x22" ++ key ++ "\x22 \x22" ++ value ++ "\x22\n" ++
  resultLine evaluation.result ++ "Reason:    " ++ evaluation.reason ++ "\n" ++
  (match evaluation.result with
    | .accept => "\nThe write is safe to commit. Use: SET " ++ key ++ " " ++ value ++ "\n"
    | .reject => triggered ++ "\nThis write cannot be performed.\n"
    | .counterOffer =>
      triggered ++
        if evaluation.alternatives.isEmpty then ""
        else
          "\nSafe Alternatives:\n" ++
            String.join (evaluation.alternatives.enum.map fun (i, alt) =>
              "  " ++ toString (i + 1) ++ ") \x22" ++ alt.value ++ "\x22\n" ++
                "     → " ++ alt.explanation ++ "\n")) ++
  "======================================\n\n"

/-- `handlePropose`: `proposeSet` only evaluates. -/
def handlePropose (kv : KVStore) (cmd : Command) : String :=
  match cmd.args with
  | operation :: key :: rest =>
    if toUpper operation ≠ "SET" then "(error) ERR PROPOSE currently only supports SET operation\n"
    else
      match rest with
      | value :: _ => proposalReport key value (kv.proposeSet key value)
      | [] => "(error) ERR PROPOSE SET requires key and value\n"
  | _ =>
    "(error) ERR wrong number of arguments for \x27PROPOSE\x27 command\n" ++
      "Usage: PROPOSE SET key value\n"

/-- `handlePolicy`. -/
def handlePolicy (kv : KVStore) (cmd : Command) : KVStore × String :=
  match cmd.args with
  | [] =>
    (kv, "(error) ERR wrong number of arguments for \x27POLICY\x27 command\n" ++ "Usage:\n" ++
      "  POLICY GET - Display current decision policy\n" ++
      "  POLICY SET <policy> - Set decision policy (DEV_FRIENDLY, SAFE_DEFAULT, STRICT)\n")
  | sub :: rest =>
    let subcommand := toUpper sub
    if subcommand = "GET" then
      (kv, "Current decision policy: " ++ kv.decisionPolicy.name ++ "\n" ++
        "Description: " ++ policyDescription kv.decisionPolicy ++ "\n")
    else if subcommand = "SET" then
      match rest with
      | [] =>
        (kv, "(error) ERR POLICY SET requires policy name\n" ++
          "Available policies: DEV_FRIENDLY, SAFE_DEFAULT, STRICT\n")
      | name :: _ =>
        let policyStr := toUpper name
        match DecisionPolicy.ofName? policyStr with
        | some newPolicy => (kv.setDecisionPolicy newPolicy, "OK - Decision policy set to " ++ policyStr ++ "\n")
        | none =>
          (kv, "(error) ERR unknown policy \x27" ++ policyStr ++ "\x27\n" ++
            "Available policies: DEV_FRIENDLY, SAFE_DEFAULT, STRICT\n")
    else
      (kv, "(error) ERR unknown POLICY subcommand \x27" ++ subcommand ++ "\x27\n" ++ "Available: GET, SET\n")

/-- `handleExit`; it also ends the loop of `run`. -/
def handleExit : String := "Goodbye!\n"

/-- What `handleSnapshot` prints: the lines of `clearLog` and `createSnapshot`, then `OK`. -/
def snapshotReply (kv : KVStore) : String :=
  "WAL log cleared\n" ++ "Snapshot created with " ++ toString kv.getAllData.length ++ " keys\n" ++ "OK\n"

/-- `RedisLikeCLI::executeCommand` with its clock readings: the engine after and what it prints. -/
def executeCommand (cal : Calendar) (clock : Readings) (kv : KVStore) (cmd : Command) : KVStore × String :=
  match cmd.type with
  | .set => handleSet clock kv cmd
  | .get => (kv, handleGet kv cmd)
  | .getAt => (kv, handleGetAt cal kv cmd)
  | .history => (kv, handleHistory cal kv cmd)
  | .explain => (kv, handleExplain cal kv cmd)
  | .del => handleDel kv cmd
  | .snapshot => (handleSnapshot kv, snapshotReply kv)
  | .config => handleConfig clock kv cmd
  | .propose => (kv, handlePropose kv cmd)
  | .guard => handleGuard kv cmd
  | .policy => handlePolicy kv cmd
  | .exit => (kv, handleExit)
  | .invalid => (kv, "(error) ERR unknown command\n")

end RedisLikeCLI

/-! ### Replies that report an error -/

theorem IsErrorReply.head {reply : String} (h : IsErrorReply reply) : reply.data.head? = some '(' := by
  obtain ⟨t, ht⟩ := h
  rw [← ht]
  rfl

theorem not_isErrorReply_of_head {reply : String} {c : Char} (h : reply.data.head? = some c)
    (hc : c ≠ '(') : ¬IsErrorReply reply :=
  fun he => hc (Option.some.inj (h.symm.trans he.head))

namespace RedisLikeCLI

/-- A command leaves the engine as it was, or makes one call on its arguments and confirms it. -/
def Outcome (clock : Readings) (kv : KVStore) (args : List String) (result : KVStore × String) : Prop :=
  result.1 = kv ∨ ∃ c : Call, c.Fields (· ∈ args) ∧ result.1 = c.run clock.now clock.pruneAt kv ∧ ¬IsErrorReply result.2

theorem Outcome.error {clock : Readings} {kv : KVStore} {args : List String} {result : KVStore × String}
    (h : Outcome clock kv args result) (he : IsErrorReply result.2) : result.1 = kv :=
  h.resolve_right fun ⟨_, _, _, hne⟩ => hne he

theorem exists_of_map_eq_ok {ε α β : Type} {f : α → β} {e : Except ε α} {b : β} (h : e.map f = .ok b) :
    ∃ a, f a = b := by
  cases e with
  | error => cases h
  | ok a => exact ⟨a, Except.ok.inj h⟩

theorem parseRetention_ok {args : List String} {policy : RetentionPolicy} {message : String}
    (h : parseRetention args = .ok (policy, message)) : message.data.head? = some 'O' := by
  unfold parseRetention at h
  dsimp only at h
  by_cases hfull : toUpper (args.getD 1 "") = "FULL"
  · rw [if_pos hfull] at h
    cases h; rfl
  rw [if_neg hfull] at h
  by_cases hlast : toUpper (args.getD 1 "") = "LAST"
  · rw [if_pos hlast] at h
    by_cases hlen : args.length < 3
    · rw [if_pos hlen] at h; cases h
    rw [if_neg hlen] at h
    by_cases hs : (args.getD 2 "").data.getLast? = some 's'
    · rw [if_pos hs] at h
      by_cases hempty : (⟨(args.getD 2 "").data.dropLast⟩ : String) = ""
      · rw [if_pos hempty] at h; cases h
      rw [if_neg hempty] at h
      obtain ⟨_, hr⟩ := exists_of_map_eq_ok h
      obtain ⟨-, rfl⟩ := Prod.mk.inj hr
      rfl
    · rw [if_neg hs] at h
      obtain ⟨_, hr⟩ := exists_of_map_eq_ok h
      obtain ⟨-, rfl⟩ := Prod.mk.inj hr
      rfl
  · rw [if_neg hlast] at h; cases h

/-! ### One lemma per handler that can change the engine -/

theorem handleSet_outcome (clock : Readings) (kv : KVStore) (cmd : Command) :
    Outcome clock kv cmd.args (handleSet clock kv cmd) := by
  obtain ⟨type, _ | ⟨key, _ | ⟨value, rest⟩⟩⟩ := cmd
  · exact .inl rfl
  · exact .inl rfl
  · exact .inr ⟨.set key value, ⟨.head _, .tail _ (.head _)⟩, rfl, show ¬IsErrorReply "OK\n" by decide⟩

theorem handleDel_outcome (clock : Readings) (kv : KVStore) (cmd : Command) :
    Outcome clock kv cmd.args (handleDel kv cmd) := by
  obtain ⟨type, _ | ⟨key, rest⟩⟩ := cmd
  · exact .inl rfl
  · refine .inr ⟨.del key, .head _, ?_⟩
    unfold handleDel
    dsimp only
    cases hd : kv.del key with
    | mk status kv' =>
      rw [Call.run_del, hd]
      cases status
      · exact ⟨rfl, show ¬IsErrorReply "(integer) 1\n" by decide⟩
      all_goals exact ⟨rfl, show ¬IsErrorReply "(integer) 0\n" by decide⟩

theorem handleConfig_outcome (clock : Readings) (kv : KVStore) (cmd : Command) :
    Outcome clock kv cmd.args (handleConfig clock kv cmd) := by
  unfold handleConfig
  split_ifs
  · exact .inl rfl
  · exact .inl rfl
  · split
    · rename_i policy _ hok
      exact .inr ⟨.setRetentionPolicy policy, trivial, rfl,
        not_isErrorReply_of_head (parseRetention_ok hok) (by decide)⟩
    · exact .inl rfl

theorem handleGuard_outcome (clock : Readings) (kv : KVStore) (cmd : Command) :
    Outcome clock kv cmd.args (handleGuard kv cmd) := by
  rcases handleGuard_cases kv cmd with hkv | ⟨g, message, hok, heq⟩ | ⟨name, kv', hrm, heq⟩
  · exact .inl hkv
  · rw [heq]
    exact .inr ⟨.addGuard g, trivial, rfl, not_isErrorReply_of_head (addGuardCommand_ok hok).1 (by decide)⟩
  · rw [heq]
    exact .inr ⟨.removeGuard name, trivial, by rw [Call.run_removeGuard, hrm],
      not_isErrorReply_of_head rfl (by decide)⟩

theorem handlePolicy_outcome (clock : Readings) (kv : KVStore) (cmd : Command) :
    Outcome clock kv cmd.args (handlePolicy kv cmd) := by
  obtain ⟨type, _ | ⟨sub, rest⟩⟩ := cmd
  · exact .inl rfl
  · unfold handlePolicy
    dsimp only
    split_ifs
    · exact .inl rfl
    · rcases rest with _ | ⟨name, rest⟩
      · exact .inl rfl
      · dsimp only
        cases DecisionPolicy.ofName? (toUpper name) with
        | none => exact .inl rfl
        | some policy =>
          exact .inr ⟨.setDecisionPolicy policy, trivial, rfl, not_isErrorReply_of_head rfl (by decide)⟩
    · exact .inl rfl

/-- Every command leaves the engine as it was, or makes one engine call and confirms it. -/
theorem executeCommand_outcome (cal : Calendar) (clock : Readings) (kv : KVStore) (cmd : Command) :
    Outcome clock kv cmd.args (executeCommand cal clock kv cmd) := by
  unfold executeCommand
  generalize cmd.type = type
  cases type with
  | set => exact handleSet_outcome clock kv cmd
  | del => exact handleDel_outcome clock kv cmd
  | snapshot => exact .inr ⟨.snapshot, trivial, rfl, not_isErrorReply_of_head rfl (by decide)⟩
  | config => exact handleConfig_outcome clock kv cmd
  | guard => exact handleGuard_outcome clock kv cmd
  | policy => exact handlePolicy_outcome clock kv cmd
  | get | getAt | history | explain | propose | exit | invalid => exact .inl rfl

/-- A command answered with an error leaves the engine and its files exactly as they were. -/
theorem executeCommand_error (cal : Calendar) (clock : Readings) (kv : KVStore) (cmd : Command)
    (h : IsErrorReply (executeCommand cal clock kv cmd).2) : (executeCommand cal clock kv cmd).1 = kv :=
  (executeCommand_outcome cal clock kv cmd).error h

/-! ### Sessions -/

/-- `RedisLikeCLI::run` after recovery, each line with its readings: the final engine and the
replies. The banner and the prompts are left out. -/
def run (cal : Calendar) (kv : KVStore) : List (Readings × String) → KVStore × List String
  | [] => (kv, ["\nExiting...\n"])
  | (clock, input) :: inputs =>
    if input = "" then run cal kv inputs
    else
      let cmd := CommandParser.parse input
      let result := executeCommand cal clock kv cmd
      if cmd.type = .exit then (result.1, [result.2])
      else (run cal result.1 inputs).map id (result.2 :: ·)

end RedisLikeCLI

theorem Call.fields_isToken {c : Call} {args : List String} (hc : c.Fields (· ∈ args))
    (hargs : ∀ a ∈ args, IsToken a) : c.Fields IsToken := by
  cases c with
  | set key value => exact ⟨hargs _ hc.1, hargs _ hc.2⟩
  | del key => exact hargs _ hc
  | setRetentionPolicy _ | setDecisionPolicy _ | postPolicy _ | snapshot | addGuard _ | removeGuard _ =>
    trivial

section Sessions

variable {allowed : Event → Prop}

theorem Reachable.executeCommand
    (hallowed : ∀ c now pruneAt, c.Fields IsToken → allowed (.call c now pruneAt))
    {kv : KVStore} {t : Int} (hr : Reachable allowed kv t) (cal : Calendar) {clock : Readings}
    (hnow : t ≤ clock.now.ns) (input : String) :
    ∃ t' ≤ clock.now.ns, Reachable allowed (RedisLikeCLI.executeCommand cal clock kv (CommandParser.parse input)).1 t' := by
  by_cases hread : (CommandParser.parse input).type = .getAt ∨ (CommandParser.parse input).type = .explain
  · have hkv : (RedisLikeCLI.executeCommand cal clock kv (CommandParser.parse input)).1 = kv := by
      unfold RedisLikeCLI.executeCommand
      rcases hread with h | h <;> rw [h]
    exact ⟨t, hnow, by rw [hkv]; exact hr⟩
  · push_neg at hread
    rcases RedisLikeCLI.executeCommand_outcome cal clock kv (CommandParser.parse input) with
      hkv | ⟨c, hc, hrun, -⟩
    · exact ⟨t, hnow, by rw [hkv]; exact hr⟩
    · have hwords := Call.fields_isToken hc fun a ha => CommandParser.isToken_arg hread.1 hread.2 ha
      exact ⟨clock.now.ns, le_rfl, hrun ▸ hr.callAt c clock (hallowed c _ _ hwords) hnow⟩

/-- Every engine a CLI session reaches is reachable, so the invariants of runs hold along it. -/
theorem cli_sessions_reach_engine_states
    (hallowed : ∀ c now pruneAt, c.Fields IsToken → allowed (.call c now pruneAt))
    {kv : KVStore} {t : Int} (hr : Reachable allowed kv t) (cal : Calendar)
    (inputs : List (Readings × String)) (hclock : List.Chain (· ≤ ·) t (inputs.map fun i => i.1.now.ns)) :
    ∃ t', Reachable allowed (RedisLikeCLI.run cal kv inputs).1 t' := by
  induction inputs generalizing kv t with
  | nil => exact ⟨t, hr⟩
  | cons i inputs ih =>
    obtain ⟨clock, input⟩ := i
    obtain ⟨hnow, hrest⟩ := List.chain_cons.mp hclock
    unfold RedisLikeCLI.run
    dsimp only
    split_ifs
    · exact ih hr (List.Chain'.imp_head (fun h => hnow.trans h) hrest)
    all_goals
      obtain ⟨t', ht', hr'⟩ := Reachable.executeCommand hallowed hr cal hnow input
    · exact ⟨t', hr'⟩
    · exact ih hr' (List.Chain'.imp_head (fun h => ht'.trans h) hrest)

/-- A CLI session after a run that wrote `k`: it writes `j` and deletes `k`. -/
theorem cli_sessions_reach_engine_states_after_writes :
    let t : Nat → TimePoint := fun i => ⟨1000000 * (i % 10 : Nat), by omega, by omega⟩
    let kv := Driver.cli.recover ((Driver.cli.recover {} (.constant (t 0))).set "k" "a" (t 1) (t 1)).wal
      (.constant (t 2))
    let inputs : List (Readings × String) :=
      [(⟨t 3, fun _ => t 4, fun _ => by simp [t]⟩, "SET j v"), (.single (t 5), "DEL k")]
    (∀ c now pruneAt, c.Fields IsToken → WordRun (.call c now pruneAt)) ∧ Reachable WordRun kv (t 2).ns ∧
    List.Chain (· ≤ ·) (t 2).ns (inputs.map fun i => i.1.now.ns) ∧
    ∃ t', Reachable WordRun (RedisLikeCLI.run ⟨fun _ => ({}, none), fun _ _ => -1, fun _ => ""⟩ kv inputs).1 t' := by
  intro t kv inputs
  have hallowed : ∀ c now pruneAt, c.Fields IsToken → WordRun (.call c now pruneAt) := fun _ _ _ h => h
  have hr : Reachable WordRun kv (t 2).ns :=
    ((Reachable.start .cli (t 0) trivial).call (.set "k" "a") (t 1) (by decide) (by simp [t])).restart .cli
      (t 2) trivial (by simp [t])
  have hclock : List.Chain (· ≤ ·) (t 2).ns (inputs.map fun i => i.1.now.ns) :=
    .cons (by simp [t]) (.cons (by simp [t, Readings.single]) .nil)
  exact ⟨hallowed, hr, hclock, cli_sessions_reach_engine_states hallowed hr _ _ hclock⟩

end Sessions

end SentinelDB
