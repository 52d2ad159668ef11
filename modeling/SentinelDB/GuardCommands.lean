import SentinelDB.Evaluation
import SentinelDB.CommandParser
import Mathlib.Data.List.GetD

/-!
# Registering guards

The two ways a guard list is built: the CLI's `GUARD` command and the HTTP server's
`POST /guards`, with the texts each prints or returns. Both build range guards from
`stoi` bounds, length guards from `stoul` bounds, and enum guards from a comma-separated
list; the HTTP server trims and drops empty entries and refuses an empty list, the CLI
keeps every `getline` piece of a word, of which there is at least one.
-/

namespace SentinelDB

set_option autoImplicit false

def StdError.what : StdError → String
  | .invalidArgument what => what
  | .outOfRange what => what

/-- What a handler can build: an enum guard allows at least one value. -/
def Guard.WellFormed (g : Guard) : Prop :=
  match g.kind with
  | .enum allowedValues => allowedValues ≠ []
  | _ => True

instance (g : Guard) : Decidable g.WellFormed :=
  match g with
  | ⟨_, _, _, .enum allowedValues⟩ => inferInstanceAs (Decidable (allowedValues ≠ []))
  | ⟨_, _, _, .rangeInt _ _⟩ | ⟨_, _, _, .length _ _⟩ => inferInstanceAs (Decidable True)

/-- `GUARD REMOVE` of a name just added succeeds, giving back the list as it was when the name
was new; when it was not, the older guard of that name is the one removed. -/
theorem removeGuard_after_addGuard (kv : KVStore) (g : Guard) :
    ((kv.addGuard g).removeGuard g.name).1 = true ∧
    ((kv.addGuard g).removeGuard g.name).2 =
      if kv.guards.any (fun h => h.name == g.name) then (kv.removeGuard g.name).2.addGuard g else kv := by
  have hg : [g].any (fun h => h.name == g.name) = true := by simp
  unfold KVStore.removeGuard KVStore.addGuard
  rw [if_pos (by rw [List.any_append, hg, Bool.or_true]), List.eraseP_append]
  refine ⟨rfl, ?_⟩
  by_cases hany : kv.guards.any (fun h => h.name == g.name)
  · rw [if_pos hany, if_pos hany, if_pos hany]
  · rw [if_neg hany, if_neg hany, List.eraseP_cons_of_pos (by simp), List.append_nil]

namespace RedisLikeCLI

/-- The listing `GUARD LIST` prints. -/
def listGuards (guards : List Guard) : String :=
  if guards.isEmpty then "No guards defined\n"
  else
    toString guards.length ++ " guard(s) defined:\n" ++
      String.join (guards.enum.map fun (i, g) =>
        toString (i + 1) ++ ") " ++ g.name ++ " (key: " ++ g.key ++ ")\n" ++
        "   " ++ g.describe ++ "\n" ++
        "   Status: " ++ (if g.enabled then "enabled" else "disabled") ++ "\n")

/-- The `try` block of `GUARD ADD <type> <name> <key_pattern> <params...>`: the guard
and the confirmation, or the error printed, a caught `std::sto*` exception included. -/
def addGuardCommand (args : List String) (type name keyPattern : String) : Except String (Guard × String) :=
  let failed : StdError → String := fun e => "(error) ERR failed to create guard: " ++ e.what ++ "\n"
  if type = "RANGE_INT" ∨ type = "RANGE" then
    if args.length < 6 then .error "(error) ERR RANGE_INT requires: name key min max\n"
    else do
      let min ← (stoi (args.getD 4 "")).mapError failed
      let max ← (stoi (args.getD 5 "")).mapError failed
      pure (⟨name, keyPattern, true, .rangeInt min max⟩,
        "OK - Added range guard \x27" ++ name ++ "\x27 for key pattern \x27" ++ keyPattern ++
          "\x27: [" ++ toString min ++ ", " ++ toString max ++ "]\n")
  else if type = "ENUM" then
    if args.length < 5 then .error "(error) ERR ENUM requires: name key values\n"
    else
      let values := getlines ',' (args.getD 4 "").data []
      pure (⟨name, keyPattern, true, .enum values⟩,
        "OK - Added enum guard \x27" ++ name ++ "\x27 for key pattern \x27" ++ keyPattern ++
          "\x27 with " ++ toString values.length ++ " allowed values\n")
  else if type = "LENGTH" then
    if args.length < 6 then .error "(error) ERR LENGTH requires: name key min max\n"
    else do
      let min ← (stoul (args.getD 4 "")).mapError failed
      let max ← (stoul (args.getD 5 "")).mapError failed
      pure (⟨name, keyPattern, true, .length min max⟩,
        "OK - Added length guard \x27" ++ name ++ "\x27 for key pattern \x27" ++ keyPattern ++
          "\x27: [" ++ toString min ++ ", " ++ toString max ++ "] characters\n")
  else
    .error ("(error) ERR unknown guard type \x27" ++ type ++ "\x27\n" ++
      "Available types: RANGE_INT, ENUM, LENGTH\n")

/-- `RedisLikeCLI::handleGuard`: the engine after the command, and what it prints. -/
def handleGuard (kv : KVStore) (cmd : Command) : KVStore × String :=
  match cmd.args with
  | [] =>
    (kv, "(error) ERR wrong number of arguments for \x27GUARD\x27 command\n" ++ "Usage:\n" ++
      "  GUARD ADD <type> <name> <key_pattern> <params...>\n" ++ "  GUARD LIST\n" ++
      "  GUARD REMOVE <name>\n")
  | sub :: _ =>
    let subcommand := toUpper sub
    if subcommand = "LIST" then (kv, listGuards kv.guards)
    else if subcommand = "ADD" then
      if cmd.args.length < 4 then (kv, "(error) ERR insufficient arguments for GUARD ADD\n")
      else
        match addGuardCommand cmd.args (toUpper (cmd.args.getD 1 "")) (cmd.args.getD 2 "")
            (cmd.args.getD 3 "") with
        | .ok (guard, message) => (kv.addGuard guard, message)
        | .error message => (kv, message)
    else if subcommand = "REMOVE" then
      if cmd.args.length < 2 then (kv, "(error) ERR GUARD REMOVE requires guard name\n")
      else
        let name := cmd.args.getD 1 ""
        match kv.removeGuard name with
        | (true, kv') => (kv', "OK - Removed guard \x27" ++ name ++ "\x27\n")
        | (false, kv') => (kv', "(error) ERR guard \x27" ++ name ++ "\x27 not found\n")
    else
      (kv, "(error) ERR unknown GUARD subcommand \x27" ++ subcommand ++ "\x27\n" ++
        "Available: ADD, LIST, REMOVE\n")

end RedisLikeCLI

/-! ### HTTP -/

/-- The state of the `parseSimpleJSON` scan. The map is an association list, newest
entry first: `find` and `operator[]` read the newest. -/
structure JsonScan where
  inQuotes : Bool := false
  inKey : Bool := false
  inValue : Bool := false
  key : String := ""
  value : String := ""
  result : List (String × String) := []

/-- One character of the `parseSimpleJSON` loop; `'\x22'` is the double quote. -/
def JsonScan.step (s : JsonScan) (c : Char) : JsonScan :=
  if c = '\x22' then
    let inQuotes := !s.inQuotes
    if !inQuotes && s.inKey then { s with inQuotes := inQuotes, inKey := false }
    else if !inQuotes && s.inValue then
      { s with inQuotes := inQuotes, result := (s.key, s.value) :: s.result, key := "", value := "",
               inValue := false }
    else if inQuotes && !s.inKey && !s.inValue then
      if s.key.isEmpty then { s with inQuotes := inQuotes, inKey := true }
      else { s with inQuotes := inQuotes, inValue := true }
    else { s with inQuotes := inQuotes }
  else if s.inQuotes then
    if s.inKey then { s with key := s.key.push c }
    else if s.inValue then { s with value := s.value.push c }
    else s
  else s

/-- `parseSimpleJSON`. -/
def parseSimpleJSON (json : String) : List (String × String) :=
  (json.data.foldl JsonScan.step {}).result

/-- `escapeJSON`. -/
def escapeJSON (str : String) : String :=
  String.join (str.data.map fun c =>
    if c = '\x22' then "\\\x22"
    else if c = '\\' then "\\\\"
    else if c = '\x08' then "\\b"
    else if c = '\x0c' then "\\f"
    else if c = '\n' then "\\n"
    else if c = '\r' then "\\r"
    else if c = '\t' then "\\t"
    else c.toString)

/-- The blanks `POST /guards` trims from each enum entry. -/
def isTrimmed (c : Char) : Bool := c = ' ' ∨ c = '\t' ∨ c = '\n' ∨ c = '\r'

/-- `value.erase(0, value.find_first_not_of(blanks))`, then
`value.erase(value.find_last_not_of(blanks) + 1)`. -/
def trimBlanks (value : String) : String :=
  ⟨((value.data.dropWhile isTrimmed).reverse.dropWhile isTrimmed).reverse⟩

structure Response where
  status : Nat
  content : String
  deriving DecidableEq, Repr

namespace HttpServer

/-- The `catch` clauses of `POST /guards` for the `std::sto*` exceptions. -/
def numericError : StdError → Response
  | .invalidArgument what =>
    ⟨400, "\x7b\x22error\x22:\x22Invalid numeric value: " ++ escapeJSON what ++ "\x22\x7d"⟩
  | .outOfRange what =>
    ⟨400, "\x7b\x22error\x22:\x22Numeric value out of range: " ++ escapeJSON what ++ "\x22\x7d"⟩

/-- The entries of the `values` field: comma-separated, trimmed, empty ones dropped. -/
def enumValues (valuesStr : String) : List String :=
  ((getlines ',' valuesStr.data []).map trimBlanks).filter fun v => !v.isEmpty

/-- The type dispatch of `POST /guards`: the guard and its description, or the refusal. -/
def guardOfParams (params : List (String × String)) (type name keyPattern : String) :
    Except Response (Guard × String) :=
  if type = "RANGE_INT" ∨ type = "RANGE" then
    match params.lookup "min", params.lookup "max" with
    | some minStr, some maxStr => do
      let min ← (stoi minStr).mapError numericError
      let max ← (stoi maxStr).mapError numericError
      pure (⟨name, keyPattern, true, .rangeInt min max⟩,
        "RANGE_INT [" ++ toString min ++ ", " ++ toString max ++ "]")
    | _, _ => .error ⟨400,
      "\x7b\x22error\x22:\x22RANGE_INT requires \x27min\x27 and \x27max\x27 fields\x22\x7d"⟩
  else if type = "ENUM" then
    match params.lookup "values" with
    | some valuesStr =>
      let values := enumValues valuesStr
      if values.isEmpty then .error ⟨400, "\x7b\x22error\x22:\x22ENUM requires at least one value\x22\x7d"⟩
      else pure (⟨name, keyPattern, true, .enum values⟩, "ENUM with " ++ toString values.length ++ " value(s)")
    | none => .error ⟨400, "\x7b\x22error\x22:\x22ENUM requires \x27values\x27 field " ++
      "(comma-separated string or JSON array)\x22\x7d"⟩
  else if type = "LENGTH" then
    match params.lookup "min", params.lookup "max" with
    | some minStr, some maxStr => do
      let min ← (stoul minStr).mapError numericError
      let max ← (stoul maxStr).mapError numericError
      pure (⟨name, keyPattern, true, .length min max⟩,
        "LENGTH [" ++ toString min ++ ", " ++ toString max ++ "] characters")
    | _, _ => .error ⟨400,
      "\x7b\x22error\x22:\x22LENGTH requires \x27min\x27 and \x27max\x27 fields\x22\x7d"⟩
  else .error ⟨400, "\x7b\x22error\x22:\x22Invalid guard type. Use RANGE_INT, ENUM, or LENGTH\x22\x7d"⟩

/-- The `POST /guards` handler. -/
def postGuards (kv : KVStore) (body : String) : KVStore × Response :=
  let params := parseSimpleJSON body
  match params.lookup "type", params.lookup "name", params.lookup "keyPattern" with
  | some type, some name, some keyPattern =>
    let type := toUpper type
    match guardOfParams params type name keyPattern with
    | .ok (guard, description) =>
      (kv.addGuard guard, ⟨200,
        "\x7b\x22status\x22:\x22ok\x22,\x22message\x22:\x22Guard \x27" ++ escapeJSON name ++
          "\x27 added successfully\x22,\x22guard\x22:\x7b" ++
          "\x22name\x22:\x22" ++ escapeJSON name ++ "\x22," ++
          "\x22type\x22:\x22" ++ escapeJSON type ++ "\x22," ++
          "\x22keyPattern\x22:\x22" ++ escapeJSON keyPattern ++ "\x22," ++
          "\x22description\x22:\x22" ++ escapeJSON description ++ "\x22\x7d\x7d"⟩)
    | .error response => (kv, response)
  | _, _, _ =>
    (kv, ⟨400, "\x7b\x22error\x22:\x22Missing required fields: type, name, keyPattern\x22\x7d"⟩)

end HttpServer

/-! ### What the handlers build -/

theorem ne_nil_of_ne_empty {s : String} (h : s ≠ "") : s.data ≠ [] :=
  fun h0 => h (congrArg String.mk h0)

namespace RedisLikeCLI

theorem addGuardCommand_inv {args : List String} {type name keyPattern : String} {g : Guard}
    {message : String} (h : addGuardCommand args type name keyPattern = .ok (g, message)) :
    g.key = keyPattern ∧ 5 ≤ args.length ∧ message.data.head? = some 'O' ∧
      ∀ vs, g.kind = .enum vs → vs = getlines ',' (args.getD 4 "").data [] := by
  unfold addGuardCommand at h
  by_cases hrange : type = "RANGE_INT" ∨ type = "RANGE"
  · rw [if_pos hrange] at h
    by_cases hlen : args.length < 6
    · rw [if_pos hlen] at h; cases h
    rw [if_neg hlen] at h
    revert h
    cases stoi (args.getD 4 "") <;> cases stoi (args.getD 5 "") <;> rintro ⟨⟩
    exact ⟨rfl, by omega, rfl, fun _ h => by cases h⟩
  rw [if_neg hrange] at h
  by_cases henum : type = "ENUM"
  · rw [if_pos henum] at h
    by_cases hlen : args.length < 5
    · rw [if_pos hlen] at h; cases h
    rw [if_neg hlen] at h
    cases h
    exact ⟨rfl, by omega, rfl, fun _ h => by cases h; rfl⟩
  rw [if_neg henum] at h
  by_cases hlength : type = "LENGTH"
  · rw [if_pos hlength] at h
    by_cases hlen : args.length < 6
    · rw [if_pos hlen] at h; cases h
    rw [if_neg hlen] at h
    revert h
    cases stoul (args.getD 4 "") <;> cases stoul (args.getD 5 "") <;> rintro ⟨⟩
    exact ⟨rfl, by omega, rfl, fun _ h => by cases h⟩
  rw [if_neg hlength] at h
  cases h

theorem addGuardCommand_ok {args : List String} {type name keyPattern : String} {g : Guard}
    {message : String} (h : addGuardCommand args type name keyPattern = .ok (g, message)) :
    message.data.head? = some 'O' ∧ ((∀ a ∈ args, a ≠ "") → g.WellFormed) := by
  obtain ⟨-, hlen, hmsg, henum⟩ := addGuardCommand_inv h
  refine ⟨hmsg, fun hargs => ?_⟩
  unfold Guard.WellFormed
  split
  · rename_i vs hk
    have h4 : args.getD 4 "" ∈ args :=
      List.getD_eq_getElem args "" (show 4 < args.length by omega) ▸ List.getElem_mem _
    rw [henum vs hk]
    exact getlines_ne_nil _ _ _ (.inl (ne_nil_of_ne_empty (hargs _ h4)))
  · trivial

/-- A `GUARD` command adds the guard `GUARD ADD` built, removes one by name, or does nothing. -/
theorem handleGuard_cases (kv : KVStore) (cmd : Command) :
    (handleGuard kv cmd).1 = kv ∨
    (∃ g message, addGuardCommand cmd.args (toUpper (cmd.args.getD 1 "")) (cmd.args.getD 2 "")
        (cmd.args.getD 3 "") = .ok (g, message) ∧ handleGuard kv cmd = (kv.addGuard g, message)) ∨
    ∃ name kv', kv.removeGuard name = (true, kv') ∧
      handleGuard kv cmd = (kv', "OK - Removed guard \x27" ++ name ++ "\x27\n") := by
  generalize hr : handleGuard kv cmd = r
  unfold handleGuard at hr
  split at hr
  · exact .inl (by rw [← hr])
  rename_i sub _ _
  dsimp only at hr
  by_cases hlist : toUpper sub = "LIST"
  · rw [if_pos hlist] at hr; exact .inl (by rw [← hr])
  rw [if_neg hlist] at hr
  by_cases hadd : toUpper sub = "ADD"
  · rw [if_pos hadd] at hr
    by_cases hlen : cmd.args.length < 4
    · rw [if_pos hlen] at hr; exact .inl (by rw [← hr])
    rw [if_neg hlen] at hr
    split at hr
    · exact .inr (.inl ⟨_, _, ‹_›, hr.symm⟩)
    · exact .inl (by rw [← hr])
  rw [if_neg hadd] at hr
  by_cases hremove : toUpper sub = "REMOVE"
  · rw [if_pos hremove] at hr
    by_cases hlen : cmd.args.length < 2
    · rw [if_pos hlen] at hr; exact .inl (by rw [← hr])
    rw [if_neg hlen] at hr
    split at hr
    · exact .inr (.inr ⟨_, _, ‹_›, hr.symm⟩)
    · rename_i kv' hrm
      unfold KVStore.removeGuard at hrm
      split at hrm <;> cases hrm
      exact .inl (by rw [← hr])
  rw [if_neg hremove] at hr
  exact .inl (by rw [← hr])

end RedisLikeCLI

namespace HttpServer

theorem numericError_status (e : StdError) : (numericError e).status = 400 := by
  cases e <;> rfl

theorem guardOfParams_spec (params : List (String × String)) (type name keyPattern : String) :
    match guardOfParams params type name keyPattern with
    | .ok (g, _) => g.WellFormed
    | .error r => r.status = 400 := by
  generalize hres : guardOfParams params type name keyPattern = res
  unfold guardOfParams at hres
  dsimp only at hres
  by_cases hrange : type = "RANGE_INT" ∨ type = "RANGE"
  · rw [if_pos hrange] at hres
    split at hres
    · rename_i minStr maxStr _ _
      revert hres
      cases stoi minStr <;> cases stoi maxStr <;> rintro rfl
      all_goals first | trivial | exact numericError_status _
    · rw [← hres]
  rw [if_neg hrange] at hres
  by_cases henum : type = "ENUM"
  · rw [if_pos henum] at hres
    split at hres
    · rename_i valuesStr _
      by_cases hempty : (enumValues valuesStr).isEmpty = true
      · rw [if_pos hempty] at hres; rw [← hres]
      · rw [if_neg hempty] at hres; rw [← hres]
        exact fun h0 => hempty (by rw [h0]; rfl)
    · rw [← hres]
  rw [if_neg henum] at hres
  by_cases hlength : type = "LENGTH"
  · rw [if_pos hlength] at hres
    split at hres
    · rename_i minStr maxStr _ _
      revert hres
      cases stoul minStr <;> cases stoul maxStr <;> rintro rfl
      all_goals first | trivial | exact numericError_status _
    · rw [← hres]
  rw [if_neg hlength] at hres
  rw [← hres]

/-- `POST /guards` answers 400 and changes nothing, or 200 and adds one well-formed guard. -/
theorem postGuards_cases (kv : KVStore) (body : String) :
    ((postGuards kv body).2.status = 400 ∧ (postGuards kv body).1 = kv) ∨
    ((postGuards kv body).2.status = 200 ∧ ∃ g, g.WellFormed ∧ (postGuards kv body).1 = kv.addGuard g) := by
  unfold postGuards
  dsimp only
  split
  · rename_i type name keyPattern _ _ _
    have hspec := guardOfParams_spec (parseSimpleJSON body) (toUpper type) name keyPattern
    split
    · rename_i heq
      rw [heq] at hspec
      exact .inr ⟨rfl, _, hspec, rfl⟩
    · rename_i heq
      rw [heq] at hspec
      exact .inl ⟨hspec, rfl⟩
  · exact .inl ⟨rfl, rfl⟩

end HttpServer

/-- The guard lists CLI `GUARD` commands and `POST /guards` requests build from an empty one. -/
inductive GuardsBuilt : List Guard → Prop
  | nil : GuardsBuilt []
  | cli {kv : KVStore} (line : String) : (CommandParser.parse line).type = .guard →
      GuardsBuilt kv.guards → GuardsBuilt (RedisLikeCLI.handleGuard kv (CommandParser.parse line)).1.guards
  | http {kv : KVStore} (body : String) :
      GuardsBuilt kv.guards → GuardsBuilt (HttpServer.postGuards kv body).1.guards

theorem KVStore.mem_removeGuard {kv : KVStore} {name : String} {g : Guard}
    (h : g ∈ (kv.removeGuard name).2.guards) : g ∈ kv.guards := by
  unfold KVStore.removeGuard at h
  split at h
  · exact List.mem_of_mem_eraseP h
  · exact h

theorem mem_addGuard {kv : KVStore} {g g' : Guard} (h : g' ∈ (kv.addGuard g).guards) :
    g' ∈ kv.guards ∨ g' = g := by
  simpa [KVStore.addGuard] using h

/-- Every guard the handlers build is well formed. -/
theorem GuardsBuilt.wellFormed {guards : List Guard} (h : GuardsBuilt guards) : ∀ g ∈ guards, g.WellFormed := by
  induction h with
  | nil => simp
  | @cli kv line htype _ ih =>
    have hargs : ∀ a ∈ (CommandParser.parse line).args, a ≠ "" := fun a ha =>
      (CommandParser.isToken_arg (by rw [htype]; decide) (by rw [htype]; decide) ha).1
    rcases RedisLikeCLI.handleGuard_cases kv (CommandParser.parse line) with
      hkv | ⟨g, message, hok, heq⟩ | ⟨name, kv', hrm, heq⟩
    · rw [hkv]; exact ih
    · rw [heq]
      intro g' hg'
      rcases mem_addGuard hg' with hg' | rfl
      · exact ih g' hg'
      · exact (RedisLikeCLI.addGuardCommand_ok hok).2 hargs
    · rw [heq]
      exact fun g' hg' => ih g' (KVStore.mem_removeGuard (by rw [hrm]; exact hg'))
  | @http kv body _ ih =>
    rcases HttpServer.postGuards_cases kv body with ⟨-, hkv⟩ | ⟨-, g, hg, heq⟩
    · rw [hkv]; exact ih
    · rw [heq]
      intro g' hg'
      rcases mem_addGuard hg' with hg' | rfl
      · exact ih g' hg'
      · exact hg

end SentinelDB
