import SentinelDB.Recovery

/-!
# The engine's records, read back

`LogEntry` is what `logSet`, `logDel` and `logPolicy` append, as data, and `record`
its line in the file; `snapshotLines` is what `createSnapshot` writes. Every such line
reads back as itself, and each replay loop of both mains performs on it the
operation it encodes, provided keys and values are words.
-/

namespace SentinelDB

set_option autoImplicit false

/-- One record of the log, before it is written. -/
inductive LogEntry where
  | set (key value : String) (timestamp : TimePoint)
  | del (key : String)
  | policy (p : DecisionPolicy)

namespace LogEntry

/-- The line the `WAL` writer appends for the entry. -/
def record : LogEntry → String
  | set key value timestamp => WAL.setRecord key value timestamp.ns
  | del key => WAL.delRecord key
  | policy p => WAL.policyRecord p.name

def Fields (P : String → Prop) : LogEntry → Prop
  | set key value _ => P key ∧ P value
  | del key => P key
  | policy _ => True

/-- The operation the entry encodes, as the data phase of a replay performs it. -/
def replay (now : TimePoint) (kv : KVStore) : LogEntry → KVStore
  | set key value timestamp => kv.setAtTime key value (truncMillis timestamp.ns) now
  | del key => (kv.del key).2
  | policy _ => kv

def policy? : LogEntry → Option DecisionPolicy
  | policy p => some p
  | _ => none

theorem Fields.mono {P Q : String → Prop} (hPQ : ∀ s, P s → Q s) {e : LogEntry}
    (h : e.Fields P) : e.Fields Q := by
  cases e with
  | set key value t => exact ⟨hPQ _ h.1, hPQ _ h.2⟩
  | del key => exact hPQ _ h
  | policy p => trivial

theorem record_line {e : LogEntry} (h : e.Fields NoNewline) : NoNewline e.record ∧ e.record ≠ "" := by
  have hne : ∀ (r : String) (rest : List Char), r.data = "SET".data ++ rest ∨
      r.data = "DEL".data ++ rest ∨ r.data = "POLICY".data ++ rest → r ≠ "" := by
    rintro r rest (h | h | h) rfl <;> simp at h
  cases e with
  | set key value t =>
    refine ⟨?_, hne _ _ (.inl (setRecord_data key value t.ns))⟩
    simp only [NoNewline, record, setRecord_data, List.mem_append, List.mem_cons, not_or]
    exact ⟨by decide, by decide, h.1, by decide, h.2, by decide, (isToken_toString _).noNewline⟩
  | del key =>
    refine ⟨?_, hne _ _ (.inr (.inl (delRecord_data key)))⟩
    simp only [NoNewline, record, delRecord_data, List.mem_append, List.mem_cons, not_or]
    exact ⟨by decide, by decide, h⟩
  | policy p =>
    refine ⟨?_, hne _ _ (.inr (.inr (policyRecord_data p.name)))⟩
    simp only [NoNewline, record, policyRecord_data, List.mem_append, List.mem_cons, not_or]
    exact ⟨by decide, by decide, by decide, by decide, (isToken_name p).noNewline⟩

theorem readLines_records {es : List LogEntry} (h : ∀ e ∈ es, e.Fields NoNewline) :
    WAL.readLines (es.map record) = es.map record :=
  WAL.readLines_of_lines fun r hr => by
    obtain ⟨e, he, rfl⟩ := List.mem_map.mp hr
    exact record_line (h e he)

theorem replayDataLine_record {e : LogEntry} (h : e.Fields IsToken) (now : TimePoint) (kv : KVStore) :
    replayDataLine now kv e.record = e.replay now kv := by
  cases e with
  | set key value t => exact replayDataLine_setRecord h.1 h.2 t now kv
  | del key => exact replayDataLine_delRecord h now kv
  | policy p => exact replayDataLine_policyRecord p now kv

theorem decodePolicyLine_record (e : LogEntry) : decodePolicyLine e.record = e.policy? := by
  cases e with
  | set key value t =>
    show decodePolicyLine ⟨(WAL.setRecord key value t.ns).data⟩ = none
    rw [setRecord_data]; exact decodePolicyLine_SET _
  | del key =>
    show decodePolicyLine ⟨(WAL.delRecord key).data⟩ = none
    rw [delRecord_data]; exact decodePolicyLine_DEL _
  | policy p => exact decodePolicyLine_policyRecord p

end LogEntry

/-! ### Snapshot lines -/

/-- The lines `createSnapshot` writes for a policy and the store's data. -/
def snapshotLines (p : DecisionPolicy) (data : List (String × String)) : List String :=
  WAL.policyRecord p.name :: data.map fun kv => WAL.snapshotRecord kv.1 kv.2

theorem createSnapshot_snapshot (data : List (String × String)) (p : DecisionPolicy) :
    (WAL.createSnapshot data p.name).snapshot = snapshotLines p data := by
  cases p <;> rfl

theorem snapshotLines_lines {p : DecisionPolicy} {data : List (String × String)}
    (h : ∀ x ∈ data, NoNewline x.1 ∧ NoNewline x.2) :
    WAL.readLines (snapshotLines p data) = snapshotLines p data := by
  refine WAL.readLines_of_lines fun r hr => ?_
  rcases List.mem_cons.mp hr with rfl | hr
  · exact @LogEntry.record_line (.policy p) trivial
  · obtain ⟨x, hx, rfl⟩ := List.mem_map.mp hr
    refine ⟨?_, fun h0 => by simpa [snapshotRecord_data] using congrArg String.data h0⟩
    simp only [NoNewline, snapshotRecord_data, List.mem_append, List.mem_cons, not_or]
    exact ⟨by decide, by decide, (h x hx).1, by decide, (h x hx).2⟩

theorem tokenize_policyRecord (p : DecisionPolicy) :
    CommandParser.tokenize (WAL.policyRecord p.name) = ["POLICY", "SET", p.name] := by
  rw [CommandParser.tokenize, policyRecord_data, CommandParser.splitWords_sep isToken_POLICY,
    CommandParser.splitWords_sep isToken_SET, CommandParser.splitWords_last (isToken_name p)]

theorem parse_policyRecord (p : DecisionPolicy) :
    CommandParser.parse (WAL.policyRecord p.name) = { type := .policy, args := ["SET", p.name] } := by
  rw [CommandParser.parse_of_tokenize (tokenize_policyRecord p) (by decide) (by decide),
    show CommandParser.getCommandType "POLICY" = .policy by decide]

theorem parse_snapshotRecord (key value : String) :
    CommandParser.parse (WAL.snapshotRecord key value) =
      { type := .set, args := CommandParser.splitWords (key.data ++ ' ' :: value.data) [] } := by
  refine @CommandParser.parse_of_tokenize _ "SET" _ ?_ (by decide) (by decide)
  rw [CommandParser.tokenize, snapshotRecord_data, CommandParser.splitWords_sep isToken_SET]

theorem splitWords_pair {key value : String} (hk : IsToken key) (hv : IsToken value) :
    CommandParser.splitWords (key.data ++ ' ' :: value.data) [] = [key, value] := by
  rw [CommandParser.splitWords_sep hk, CommandParser.splitWords_last hv]

namespace CliMain

variable (now : TimePoint) (kv : KVStore) (p : DecisionPolicy)

theorem loadSnapshotPolicy_policyRecord : loadSnapshotPolicy kv (WAL.policyRecord p.name) = kv.setDecisionPolicy p := by
  simp [loadSnapshotPolicy, parse_policyRecord]

theorem loadSnapshotPolicy_snapshotRecord (key value : String) :
    loadSnapshotPolicy kv (WAL.snapshotRecord key value) = kv := by
  simp [loadSnapshotPolicy, parse_snapshotRecord]

theorem loadSnapshotData_policyRecord : loadSnapshotData now kv (WAL.policyRecord p.name) = kv := by
  simp [loadSnapshotData, parse_policyRecord]

theorem loadSnapshotData_snapshotRecord {key value : String} (hk : IsToken key) (hv : IsToken value) :
    loadSnapshotData now kv (WAL.snapshotRecord key value) = kv.setAtTime key value now.ns now := by
  simp [loadSnapshotData, parse_snapshotRecord, splitWords_pair hk hv]

end CliMain

namespace HttpServer

variable (now : TimePoint) (kv : KVStore) (p : DecisionPolicy)

theorem replaySnapshotLine_policyRecord :
    replaySnapshotLine now kv (WAL.policyRecord p.name) = kv.setDecisionPolicy p := by
  have h := decodePolicyLine_policyRecord p
  simp only [replaySnapshotLine, policyRecord_data, readWord_first isToken_POLICY] at h ⊢
  simp [h]

theorem replaySnapshotLine_snapshotRecord {key value : String} (hk : IsToken key) (hv : IsToken value) :
    replaySnapshotLine now kv (WAL.snapshotRecord key value) = kv.setAtTime key value now.ns now := by
  simp only [replaySnapshotLine, snapshotRecord_data, readWord_first isToken_SET, readWord_sep hk,
    readWord_last hv]
  rfl

end HttpServer

/-! ### Every record, through every loop -/

/-- Every record written with word keys and values reads back as itself, and each replay loop
performs on it the operation it encodes or leaves it alone. -/
theorem records_replay_as_written {key value : String} (hk : IsToken key) (hv : IsToken value)
    (w : WAL) (t now : TimePoint) (p : DecisionPolicy) {data : List (String × String)}
    (hdata : ∀ x ∈ data, IsToken x.1 ∧ IsToken x.2) (kv : KVStore) :
    (w.logSet key value t.ns).readLog = w.readLog ++ [WAL.setRecord key value t.ns] ∧
    (w.logDel key).readLog = w.readLog ++ [WAL.delRecord key] ∧
    (w.logPolicy p.name).readLog = w.readLog ++ [WAL.policyRecord p.name] ∧
    (WAL.createSnapshot data p.name).readSnapshot = snapshotLines p data ∧
    replayDataLine now kv (WAL.setRecord key value t.ns) = kv.setAtTime key value (truncMillis t.ns) now ∧
    replayDataLine now kv (WAL.delRecord key) = (kv.del key).2 ∧
    replayDataLine now kv (WAL.policyRecord p.name) = kv ∧
    CliMain.replayPolicyLine kv (WAL.setRecord key value t.ns) = kv ∧
    CliMain.replayPolicyLine kv (WAL.delRecord key) = kv ∧
    CliMain.replayPolicyLine kv (WAL.policyRecord p.name) = (kv.setWalEnabled false).setDecisionPolicy p ∧
    HttpServer.replayPolicyLine kv (WAL.setRecord key value t.ns) = kv ∧
    HttpServer.replayPolicyLine kv (WAL.delRecord key) = kv ∧
    HttpServer.replayPolicyLine kv (WAL.policyRecord p.name) = kv.setDecisionPolicy p ∧
    CliMain.loadSnapshotPolicy kv (WAL.policyRecord p.name) = kv.setDecisionPolicy p ∧
    CliMain.loadSnapshotPolicy kv (WAL.snapshotRecord key value) = kv ∧
    CliMain.loadSnapshotData now kv (WAL.policyRecord p.name) = kv ∧
    CliMain.loadSnapshotData now kv (WAL.snapshotRecord key value) = kv.setAtTime key value now.ns now ∧
    HttpServer.replaySnapshotLine now kv (WAL.policyRecord p.name) = kv.setDecisionPolicy p ∧
    HttpServer.replaySnapshotLine now kv (WAL.snapshotRecord key value) =
      kv.setAtTime key value now.ns now := by
  have hline : ∀ e : LogEntry, e.Fields IsToken → WAL.readLines [e.record] = [e.record] := fun e he =>
    have h := LogEntry.record_line (he.mono fun _ h => h.noNewline)
    WAL.readLines_single h.1 h.2
  have hset : decodePolicyLine (WAL.setRecord key value t.ns) = none :=
    LogEntry.decodePolicyLine_record (.set key value t)
  have hdel : decodePolicyLine (WAL.delRecord key) = none := LogEntry.decodePolicyLine_record (.del key)
  refine ⟨(WAL.readLines_append _ _).trans (congrArg _ (hline (.set key value t) ⟨hk, hv⟩)),
    (WAL.readLines_append _ _).trans (congrArg _ (hline (.del key) hk)),
    (WAL.readLines_append _ _).trans (congrArg _ (hline (.policy p) trivial)),
    ?_, replayDataLine_setRecord hk hv t now kv, replayDataLine_delRecord hk now kv,
    replayDataLine_policyRecord p now kv, ?_, ?_, ?_, ?_, ?_, ?_,
    CliMain.loadSnapshotPolicy_policyRecord kv p, CliMain.loadSnapshotPolicy_snapshotRecord kv key value,
    CliMain.loadSnapshotData_policyRecord now kv p, CliMain.loadSnapshotData_snapshotRecord now kv hk hv,
    HttpServer.replaySnapshotLine_policyRecord now kv p,
    HttpServer.replaySnapshotLine_snapshotRecord now kv hk hv⟩
  · rw [WAL.readSnapshot, createSnapshot_snapshot]
    exact snapshotLines_lines fun x hx => ⟨(hdata x hx).1.noNewline, (hdata x hx).2.noNewline⟩
  all_goals simp only [CliMain.replayPolicyLine, HttpServer.replayPolicyLine, hset, hdel,
    decodePolicyLine_policyRecord]

theorem records_replay_as_written_at_k_v :
    let key := "k"; let value := "v"; let w : WAL := {}
    let t : TimePoint := ⟨1500000, by decide, by decide⟩; let now := t
    let p := DecisionPolicy.strict; let data := [("k", "v")]; let kv := KVStore.create {}
    IsToken key ∧ IsToken value ∧ (∀ x ∈ data, IsToken x.1 ∧ IsToken x.2) ∧
    (w.logSet key value t.ns).readLog = w.readLog ++ [WAL.setRecord key value t.ns] ∧
    (w.logDel key).readLog = w.readLog ++ [WAL.delRecord key] ∧
    (w.logPolicy p.name).readLog = w.readLog ++ [WAL.policyRecord p.name] ∧
    (WAL.createSnapshot data p.name).readSnapshot = snapshotLines p data ∧
    replayDataLine now kv (WAL.setRecord key value t.ns) = kv.setAtTime key value (truncMillis t.ns) now ∧
    replayDataLine now kv (WAL.delRecord key) = (kv.del key).2 ∧
    replayDataLine now kv (WAL.policyRecord p.name) = kv ∧
    CliMain.replayPolicyLine kv (WAL.setRecord key value t.ns) = kv ∧
    CliMain.replayPolicyLine kv (WAL.delRecord key) = kv ∧
    CliMain.replayPolicyLine kv (WAL.policyRecord p.name) = (kv.setWalEnabled false).setDecisionPolicy p ∧
    HttpServer.replayPolicyLine kv (WAL.setRecord key value t.ns) = kv ∧
    HttpServer.replayPolicyLine kv (WAL.delRecord key) = kv ∧
    HttpServer.replayPolicyLine kv (WAL.policyRecord p.name) = kv.setDecisionPolicy p ∧
    CliMain.loadSnapshotPolicy kv (WAL.policyRecord p.name) = kv.setDecisionPolicy p ∧
    CliMain.loadSnapshotPolicy kv (WAL.snapshotRecord key value) = kv ∧
    CliMain.loadSnapshotData now kv (WAL.policyRecord p.name) = kv ∧
    CliMain.loadSnapshotData now kv (WAL.snapshotRecord key value) = kv.setAtTime key value now.ns now ∧
    HttpServer.replaySnapshotLine now kv (WAL.policyRecord p.name) = kv.setDecisionPolicy p ∧
    HttpServer.replaySnapshotLine now kv (WAL.snapshotRecord key value) =
      kv.setAtTime key value now.ns now :=
  ⟨by decide, by decide, by decide,
    records_replay_as_written (by decide) (by decide) {} _ _ .strict (by decide) _⟩

/-- An empty value, which `POST /set` stores, does not come back from the log: the
timestamp is read as the value and the restart clock as the timestamp. -/
theorem empty_value_replays_as_timestamp :
    (replayDataLine ⟨10000000000, by decide, by decide⟩ (KVStore.create {})
      (WAL.setRecord "k" "" 5000000)).getHistory "k" = [⟨10000000000, "5"⟩] ∧
    ((KVStore.create {}).setAtTime "k" "" (truncMillis 5000000)
      ⟨10000000000, by decide, by decide⟩).getHistory "k" = [⟨5000000, ""⟩] :=
  ⟨by decide, by decide⟩

end SentinelDB
