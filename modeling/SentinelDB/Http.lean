import SentinelDB.Cli

/-!
# The HTTP routes

The handlers the HTTP server registers, one `Request` constructor per route, with the
status and the body each answers. `GET` routes read the query parameters, `POST` routes
a flat JSON body through `parseSimpleJSON`; a parameter given twice is read as the first
query parameter and the last JSON field, as `get_param_value` and `std::map` do. A request
that no route matches is answered by the HTTP library and never reaches the engine.

As in the CLI, nothing a handler calls throws in the model (`std::stoi` in
`POST /config/retention` is the one call that can, and its `catch` answers 400), so the
`catch` clauses that answer 500 are never reached.

`handle_outcome`: a request leaves the engine as it was or makes one engine call and is
answered 200. `failed_requests_change_nothing` puts it together with the CLI's
`executeCommand_outcome`: no error reply of either driver comes with a change.
-/

namespace SentinelDB

set_option autoImplicit false

/-- The requests the server has a handler for, with what each handler reads. -/
inductive HttpServer.Request where
  | health
  | set (body : String)
  | get (params : List (String × String))
  | getAt (params : List (String × String))
  | history (params : List (String × String))
  | explain (params : List (String × String))
  | propose (body : String)
  | getGuards
  | postGuards (body : String)
  | configRetention (body : String)
  | getPolicy
  | postPolicy (body : String)
  deriving DecidableEq, Repr

namespace HttpServer

/-- The body `{"error":"<message>"}` of the refusals with a fixed message. -/
def errorJSON (message : String) : String := "\x7b\x22error\x22:\x22" ++ message ++ "\x22\x7d"

/-- The `catch (const std::exception& e)` clause of the routes that answer 400. -/
def invalidRequest (e : StdError) : Response := ⟨400, errorJSON ("Invalid request: " ++ escapeJSON e.what)⟩

/-- One version as `/history` and `/explain` list it. -/
def versionJSON (cal : Calendar) (v : Version) : String :=
  "\x7b\x22timestamp\x22:\x22" ++ escapeJSON (formatTimestamp cal v.timestamp) ++
    "\x22,\x22value\x22:\x22" ++ escapeJSON v.value ++ "\x22\x7d"

/-- `GET /health`. -/
def health : Response := ⟨200, "\x7b\x22status\x22:\x22ok\x22\x7d"⟩

/-- `POST /set`. `KVStore::set` always returns `OK`, so the 500 answer is never given. -/
def setKey (clock : Readings) (kv : KVStore) (body : String) : KVStore × Response :=
  let params := parseSimpleJSON body
  match params.lookup "key", params.lookup "value" with
  | some key, some value =>
    (kv.set key value clock.now (clock.pruneAt key), ⟨200, "\x7b\x22status\x22:\x22ok\x22,\x22message\x22:\x22Key \x27" ++
      escapeJSON key ++ "\x27 set successfully\x22\x7d"⟩)
  | _, _ => (kv, ⟨400, errorJSON "Missing \x27key\x27 or \x27value\x27 parameter"⟩)

/-- `GET /get?key=<key>`. -/
def getValue (kv : KVStore) (params : List (String × String)) : Response :=
  match params.lookup "key" with
  | none => ⟨400, errorJSON "Missing \x27key\x27 parameter"⟩
  | some key =>
    match kv.get key with
    | some value =>
      ⟨200, "\x7b\x22key\x22:\x22" ++ escapeJSON key ++ "\x22,\x22value\x22:\x22" ++ escapeJSON value ++
        "\x22\x7d"⟩
    | none => ⟨404, "\x7b\x22error\x22:\x22Key not found\x22,\x22key\x22:\x22" ++ escapeJSON key ++ "\x22\x7d"⟩

/-- `GET /getAt?key=<key>&timestamp=<timestamp>`. -/
def getValueAt (cal : Calendar) (kv : KVStore) (params : List (String × String)) : Response :=
  match params.lookup "key", params.lookup "timestamp" with
  | some key, some timestampStr =>
    match kv.getAtTime key (parseTimestamp cal timestampStr) with
    | some value =>
      ⟨200, "\x7b\x22key\x22:\x22" ++ escapeJSON key ++ "\x22,\x22value\x22:\x22" ++ escapeJSON value ++
        "\x22,\x22timestamp\x22:\x22" ++ escapeJSON timestampStr ++ "\x22\x7d"⟩
    | none =>
      ⟨404, "\x7b\x22error\x22:\x22No version found at or before timestamp\x22,\x22key\x22:\x22" ++
        escapeJSON key ++ "\x22,\x22timestamp\x22:\x22" ++ escapeJSON timestampStr ++ "\x22\x7d"⟩
  | _, _ => ⟨400, errorJSON "Missing \x27key\x27 or \x27timestamp\x27 parameter"⟩

/-- `GET /history?key=<key>`. -/
def getHistory (cal : Calendar) (kv : KVStore) (params : List (String × String)) : Response :=
  match params.lookup "key" with
  | none => ⟨400, errorJSON "Missing \x27key\x27 parameter"⟩
  | some key =>
    ⟨200, "\x7b\x22key\x22:\x22" ++ escapeJSON key ++ "\x22,\x22versions\x22:[" ++
      ",".intercalate ((kv.getHistory key).map (versionJSON cal)) ++ "]\x7d"⟩

/-- `GET /explain?key=<key>&timestamp=<timestamp>`. -/
def explainQuery (cal : Calendar) (kv : KVStore) (params : List (String × String)) : Response :=
  match params.lookup "key", params.lookup "timestamp" with
  | some key, some timestampStr =>
    let result := kv.explainGetAtTime key (parseTimestamp cal timestampStr)
    ⟨200, "\x7b\x22query\x22:\x7b\x22key\x22:\x22" ++ escapeJSON result.key ++ "\x22,\x22timestamp\x22:\x22" ++
      escapeJSON (formatTimestamp cal result.queryTimestamp) ++ "\x22\x7d," ++
      "\x22found\x22:" ++ (if result.found then "true" else "false") ++ "," ++
      "\x22totalVersions\x22:" ++ toString result.totalVersions ++ "," ++
      (match result.found, result.selectedVersion with
        | true, some selected => "\x22selectedVersion\x22:" ++ versionJSON cal selected ++ ","
        | _, _ => "\x22selectedVersion\x22:null,") ++
      "\x22reasoning\x22:\x22" ++ escapeJSON result.reasoning ++ "\x22," ++
      "\x22skippedVersions\x22:[" ++ ",".intercalate (result.skippedVersions.map (versionJSON cal)) ++ "]\x7d"⟩
  | _, _ => ⟨400, errorJSON "Missing \x27key\x27 or \x27timestamp\x27 parameter"⟩

/-- The name `POST /propose` gives an outcome. -/
def resultName : GuardResult → String
  | .accept => "ACCEPT"
  | .reject => "REJECT"
  | .counterOffer => "COUNTER_OFFER"

/-- `POST /propose`: `proposeSet` only evaluates. -/
def proposeWrite (kv : KVStore) (body : String) : Response :=
  let params := parseSimpleJSON body
  match params.lookup "key", params.lookup "value" with
  | some key, some value =>
    let evaluation := kv.proposeSet key value
    ⟨200, "\x7b\x22proposal\x22:\x7b\x22key\x22:\x22" ++ escapeJSON key ++ "\x22,\x22value\x22:\x22" ++
      escapeJSON value ++ "\x22\x7d," ++
      "\x22result\x22:\x22" ++ resultName evaluation.result ++ "\x22," ++
      "\x22reason\x22:\x22" ++ escapeJSON evaluation.reason ++ "\x22," ++
      "\x22triggeredGuards\x22:[" ++
        ",".intercalate (evaluation.triggeredGuards.map fun g => "\x22" ++ escapeJSON g ++ "\x22") ++ "]," ++
      "\x22alternatives\x22:[" ++
        ",".intercalate (evaluation.alternatives.map fun alt =>
          "\x7b\x22value\x22:\x22" ++ escapeJSON alt.value ++ "\x22,\x22explanation\x22:\x22" ++
            escapeJSON alt.explanation ++ "\x22\x7d") ++ "]\x7d"⟩
  | _, _ => ⟨400, errorJSON "Missing \x27key\x27 or \x27value\x27 parameter"⟩

/-- `GET /guards`. -/
def listGuards (kv : KVStore) : Response :=
  ⟨200, "\x7b\x22guards\x22:[" ++
    ",".intercalate (kv.guards.map fun g =>
      "\x7b\x22name\x22:\x22" ++ escapeJSON g.name ++ "\x22,\x22keyPattern\x22:\x22" ++ escapeJSON g.key ++
        "\x22,\x22description\x22:\x22" ++ escapeJSON g.describe ++
        "\x22,\x22enabled\x22:" ++ (if g.enabled then "true" else "false") ++ "\x7d") ++ "]\x7d"⟩

/-- The mode parsing of `POST /config/retention`: the time suffix is tested after upper-casing,
and a `std::stoi` exception reaches the route's `catch`. -/
def retentionOfMode (modeStr : String) : Except Response (RetentionPolicy × String) :=
  if modeStr = "FULL" then .ok ({}, "FULL (keep all versions)")
  else if "LAST ".data.isPrefixOf modeStr.data then
    let rest := modeStr.data.drop 5
    if rest.getLast? = some 'S' then
      let rest : String := ⟨rest.dropLast⟩
      if rest = "" then .error ⟨400, errorJSON "Invalid format, expected number before \x27s\x27"⟩
      else
        (parsePositive invalidRequest ⟨400, errorJSON "Invalid seconds value"⟩
            ⟨400, errorJSON "Seconds must be positive"⟩ rest).map fun seconds =>
          (RetentionPolicy.make .lastT seconds, "LAST " ++ toString seconds ++
            "s (keep versions from last " ++ toString seconds ++ " seconds)")
    else
      (parsePositive invalidRequest ⟨400, errorJSON "Invalid count value"⟩
          ⟨400, errorJSON "Count must be positive"⟩ ⟨rest⟩).map fun count =>
        (RetentionPolicy.make .lastN count, "LAST " ++ toString count ++ " (keep last " ++ toString count ++
          " versions)")
  else .error ⟨400, errorJSON "Invalid mode. Use \x27FULL\x27, \x27LAST N\x27, or \x27LAST Ts\x27"⟩

/-- `POST /config/retention`. -/
def configureRetention (clock : Readings) (kv : KVStore) (body : String) : KVStore × Response :=
  match (parseSimpleJSON body).lookup "mode" with
  | none => (kv, ⟨400, errorJSON "Missing \x27mode\x27 parameter"⟩)
  | some mode =>
    match retentionOfMode (toUpper mode) with
    | .ok (policy, description) =>
      (kv.setRetentionPolicy policy clock.pruneAt, ⟨200, "\x7b\x22status\x22:\x22ok\x22,\x22message\x22:\x22Retention policy set to " ++
        escapeJSON description ++ "\x22\x7d"⟩)
    | .error response => (kv, response)

/-- `GET /policy`. -/
def getPolicy (kv : KVStore) : Response :=
  ⟨200, "\x7b\x22activePolicy\x22:\x22" ++ kv.decisionPolicy.name ++ "\x22,\x22description\x22:\x22" ++
    escapeJSON (policyDescription kv.decisionPolicy) ++ "\x22\x7d"⟩

/-- `POST /policy`: `setDecisionPolicy`, then the second `POLICY SET` record of `postPolicy`. -/
def setPolicy (kv : KVStore) (body : String) : KVStore × Response :=
  match (parseSimpleJSON body).lookup "policy" with
  | none => (kv, ⟨400, errorJSON "Missing \x27policy\x27 parameter"⟩)
  | some policy =>
    let policyStr := toUpper policy
    match DecisionPolicy.ofName? policyStr with
    | some newPolicy =>
      (postPolicy kv newPolicy, ⟨200, "\x7b\x22status\x22:\x22ok\x22,\x22activePolicy\x22:\x22" ++ policyStr ++ "\x22\x7d"⟩)
    | none => (kv, ⟨400, errorJSON "Invalid policy. Use DEV_FRIENDLY, SAFE_DEFAULT, or STRICT"⟩)

/-- The server with its handler's clock readings: the engine after the request and the answer. -/
def handle (cal : Calendar) (clock : Readings) (kv : KVStore) : Request → KVStore × Response
  | .health => (kv, health)
  | .set body => setKey clock kv body
  | .get params => (kv, getValue kv params)
  | .getAt params => (kv, getValueAt cal kv params)
  | .history params => (kv, getHistory cal kv params)
  | .explain params => (kv, explainQuery cal kv params)
  | .propose body => (kv, proposeWrite kv body)
  | .getGuards => (kv, listGuards kv)
  | .postGuards body => postGuards kv body
  | .configRetention body => configureRetention clock kv body
  | .getPolicy => (kv, getPolicy kv)
  | .postPolicy body => setPolicy kv body

/-! ### What a request can do -/

/-- A request leaves the engine as it was, or makes one engine call and is answered 200. -/
def Outcome (clock : Readings) (kv : KVStore) (result : KVStore × Response) : Prop :=
  result.1 = kv ∨ ∃ c : Call, result.1 = c.run clock.now clock.pruneAt kv ∧ result.2.status = 200

theorem setKey_outcome (clock : Readings) (kv : KVStore) (body : String) :
    Outcome clock kv (setKey clock kv body) := by
  unfold setKey
  dsimp only
  split
  · exact .inr ⟨.set _ _, rfl, rfl⟩
  · exact .inl rfl

theorem postGuards_outcome (clock : Readings) (kv : KVStore) (body : String) :
    Outcome clock kv (postGuards kv body) := by
  rcases postGuards_cases kv body with ⟨-, hkv⟩ | ⟨h200, g, -, hg⟩
  · exact .inl hkv
  · exact .inr ⟨.addGuard g, hg, h200⟩

theorem configureRetention_outcome (clock : Readings) (kv : KVStore) (body : String) :
    Outcome clock kv (configureRetention clock kv body) := by
  unfold configureRetention
  split
  · exact .inl rfl
  · split
    · exact .inr ⟨.setRetentionPolicy _, rfl, rfl⟩
    · exact .inl rfl

theorem setPolicy_outcome (clock : Readings) (kv : KVStore) (body : String) :
    Outcome clock kv (setPolicy kv body) := by
  unfold setPolicy
  split
  · exact .inl rfl
  · dsimp only
    split
    · exact .inr ⟨.postPolicy _, rfl, rfl⟩
    · exact .inl rfl

/-- Every request leaves the engine as it was, or makes one engine call and is answered 200. -/
theorem handle_outcome (cal : Calendar) (clock : Readings) (kv : KVStore) (req : Request) :
    Outcome clock kv (handle cal clock kv req) := by
  cases req with
  | set body => exact setKey_outcome clock kv body
  | postGuards body => exact postGuards_outcome clock kv body
  | configRetention body => exact configureRetention_outcome clock kv body
  | postPolicy body => exact setPolicy_outcome clock kv body
  | health | get | getAt | history | explain | propose | getGuards | getPolicy => exact .inl rfl

/-- Modelled from the spec: the requests reach the engine one at a time, each with the
clock readings its handler takes. The engine at the end and the answers. -/
def serve (cal : Calendar) (kv : KVStore) : List (Readings × Request) → KVStore × List Response
  | [] => (kv, [])
  | (clock, req) :: reqs =>
    let result := handle cal clock kv req
    (serve cal result.1 reqs).map id (result.2 :: ·)

end HttpServer

/-- Every engine an HTTP session reaches, with a clock that never goes back, is reachable by
engine runs, so the invariants of such runs hold along HTTP sessions. -/
theorem http_sessions_reach_engine_states {allowed : Event → Prop}
    (hallowed : ∀ c now pruneAt, allowed (.call c now pruneAt))
    {kv : KVStore} {t : Int} (hr : Reachable allowed kv t) (cal : Calendar)
    (reqs : List (Readings × HttpServer.Request)) (hclock : List.Chain (· ≤ ·) t (reqs.map fun r => r.1.now.ns)) :
    ∃ t', Reachable allowed (HttpServer.serve cal kv reqs).1 t' := by
  induction reqs generalizing kv t with
  | nil => exact ⟨t, hr⟩
  | cons r reqs ih =>
    obtain ⟨clock, req⟩ := r
    obtain ⟨hnow, hrest⟩ := List.chain_cons.mp hclock
    rcases HttpServer.handle_outcome cal clock kv req with hkv | ⟨c, hrun, -⟩
    · exact ih (by rw [hkv]; exact hr) (List.Chain'.imp_head (fun h => hnow.trans h) hrest)
    · exact ih (hrun ▸ hr.callAt c clock (hallowed c _ _) hnow) hrest

/-- A session of the server after a CLI run that wrote `k`: `POST /set` of `j`, with
retention read a millisecond later, then `GET /get`. -/
theorem http_sessions_reach_engine_states_after_writes :
    let t : Nat → TimePoint := fun i => ⟨1000000 * (i % 10 : Nat), by omega, by omega⟩
    let kv := Driver.http.recover ((Driver.cli.recover {} (.constant (t 0))).set "k" "a" (t 1) (t 1)).wal
      (.constant (t 2))
    let reqs : List (Readings × HttpServer.Request) :=
      [(⟨t 3, fun _ => t 4, fun _ => by simp [t]⟩, .set "\x7b\x22key\x22:\x22j\x22,\x22value\x22:\x22v\x22\x7d"),
        (.single (t 5), .get [("key", "k")])]
    (∀ c now pruneAt, (fun _ : Event => True) (.call c now pruneAt)) ∧ Reachable (fun _ => True) kv (t 2).ns ∧
    List.Chain (· ≤ ·) (t 2).ns (reqs.map fun r => r.1.now.ns) ∧
    ∃ t', Reachable (fun _ => True) (HttpServer.serve ⟨fun _ => ({}, none), fun _ _ => -1, fun _ => ""⟩ kv reqs).1 t' := by
  intro t kv reqs
  have hallowed : ∀ c now pruneAt, (fun _ : Event => True) (.call c now pruneAt) := fun _ _ _ => trivial
  have hr : Reachable (fun _ => True) kv (t 2).ns :=
    ((Reachable.start .cli (t 0) trivial).call (.set "k" "a") (t 1) trivial (by simp [t])).restart .http
      (t 2) trivial (by simp [t])
  have hclock : List.Chain (· ≤ ·) (t 2).ns (reqs.map fun r => r.1.now.ns) :=
    .cons (by simp [t]) (.cons (by simp [t, Readings.single]) .nil)
  exact ⟨hallowed, hr, hclock, http_sessions_reach_engine_states hallowed hr _ _ hclock⟩

/-- A CLI `(error)` reply and an HTTP 4xx answer leave the engine and its files as they were. -/
theorem failed_requests_change_nothing (cal : Calendar) (clock : Readings) (kv : KVStore) :
    (∀ cmd : Command, IsErrorReply (RedisLikeCLI.executeCommand cal clock kv cmd).2 →
      (RedisLikeCLI.executeCommand cal clock kv cmd).1 = kv) ∧
    ∀ req : HttpServer.Request, 400 ≤ (HttpServer.handle cal clock kv req).2.status →
      (HttpServer.handle cal clock kv req).2.status < 500 → (HttpServer.handle cal clock kv req).1 = kv := by
  refine ⟨fun cmd h => (RedisLikeCLI.executeCommand_outcome cal clock kv cmd).error h, fun req h4 _ => ?_⟩
  rcases HttpServer.handle_outcome cal clock kv req with hkv | ⟨_, _, h200⟩
  · exact hkv
  · omega

set_option maxRecDepth 4000 in
/-- `CONFIG RETENTION LAST 0` and the mode `LAST 0` are both refused, the engine unchanged. -/
theorem failed_requests_change_nothing_at_last_zero :
    IsErrorReply (RedisLikeCLI.executeCommand ⟨fun _ => ({}, none), fun _ _ => -1, fun _ => ""⟩
        (.single ⟨0, by decide, by decide⟩) (KVStore.create {}) (CommandParser.parse "CONFIG RETENTION LAST 0")).2 ∧
    (RedisLikeCLI.executeCommand ⟨fun _ => ({}, none), fun _ _ => -1, fun _ => ""⟩
        (.single ⟨0, by decide, by decide⟩) (KVStore.create {}) (CommandParser.parse "CONFIG RETENTION LAST 0")).1 =
      KVStore.create {} ∧
    (HttpServer.handle ⟨fun _ => ({}, none), fun _ _ => -1, fun _ => ""⟩ (.single ⟨0, by decide, by decide⟩)
        (KVStore.create {}) (.configRetention "\x7b\x22mode\x22:\x22LAST 0\x22\x7d")).2.status = 400 ∧
    (HttpServer.handle ⟨fun _ => ({}, none), fun _ _ => -1, fun _ => ""⟩ (.single ⟨0, by decide, by decide⟩)
        (KVStore.create {}) (.configRetention "\x7b\x22mode\x22:\x22LAST 0\x22\x7d")).1 = KVStore.create {} :=
  ⟨by decide, (failed_requests_change_nothing _ _ _).1 _ (by decide), by decide,
    (failed_requests_change_nothing _ _ _).2 _ (by decide) (by decide)⟩

end SentinelDB
