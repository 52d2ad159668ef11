import SentinelDB.KVStore
import SentinelDB.CommandParser

/-!
# Recovery

The start-up code of both mains: load the snapshot, then replay the WAL in two
phases, policy records first and data records second, with logging switched off.
The CLI decodes snapshot lines with `CommandParser::parse` and stamps them with one
clock reading; the HTTP server decodes every line with `istringstream >>` and reads the
clock for each snapshot line. Both mains share the text of the WAL data phase, which
reads the clock for a `SET` record without a timestamp.
-/

namespace SentinelDB

set_option autoImplicit false

/-- The readings of `system_clock::now()` a recovery takes: the CLI's one for the snapshot, the
server's one per snapshot line, and either main's one per log line. -/
structure RecoveryClock where
  snapshotTime : TimePoint
  snapshotLine : Nat → TimePoint
  logLine : Nat → TimePoint

/-- A recovery whose every reading is `now`. -/
def RecoveryClock.constant (now : TimePoint) : RecoveryClock := ⟨now, fun _ => now, fun _ => now⟩

/-- A loop over the lines of a file in which line `i` reads the clock at `clock i`. -/
def foldLines (step : TimePoint → KVStore → String → KVStore) :
    (Nat → TimePoint) → KVStore → List String → KVStore
  | _, kv, [] => kv
  | clock, kv, line :: lines => foldLines step (fun i => clock (i + 1)) (step (clock 0) kv line) lines

section FoldLines

variable (step : TimePoint → KVStore → String → KVStore)

@[simp] theorem foldLines_nil (clock : Nat → TimePoint) (kv : KVStore) : foldLines step clock kv [] = kv := rfl

@[simp] theorem foldLines_cons (clock : Nat → TimePoint) (kv : KVStore) (line : String) (lines : List String) :
    foldLines step clock kv (line :: lines) = foldLines step (fun i => clock (i + 1)) (step (clock 0) kv line) lines :=
  rfl

theorem foldLines_keeps {Q : KVStore → Prop} (h : ∀ t kv line, Q kv → Q (step t kv line))
    (lines : List String) : ∀ (clock : Nat → TimePoint) {kv : KVStore}, Q kv → Q (foldLines step clock kv lines) := by
  induction lines with
  | nil => exact fun _ _ hkv => hkv
  | cons line lines ih => exact fun clock kv hkv => ih _ (h _ kv line hkv)

theorem foldLines_preserves {γ : Type} (g : KVStore → γ) (h : ∀ t kv line, g (step t kv line) = g kv)
    (lines : List String) : ∀ (clock : Nat → TimePoint) (kv : KVStore), g (foldLines step clock kv lines) = g kv := by
  induction lines with
  | nil => exact fun _ _ => rfl
  | cons line lines ih => exact fun clock kv => (ih _ _).trans (h _ kv line)

theorem foldLines_const (t : TimePoint) (lines : List String) :
    ∀ kv, foldLines step (fun _ => t) kv lines = lines.foldl (step t) kv := by
  induction lines with
  | nil => exact fun _ => rfl
  | cons line lines ih => exact fun kv => ih _

theorem foldLines_eq_foldl {g : KVStore → String → KVStore} {P : KVStore → Prop} (lines : List String)
    (hstep : ∀ t kv line, line ∈ lines → P kv → step t kv line = g kv line)
    (hP : ∀ kv line, line ∈ lines → P kv → P (g kv line)) :
    ∀ (clock : Nat → TimePoint) {kv : KVStore}, P kv → foldLines step clock kv lines = lines.foldl g kv := by
  induction lines with
  | nil => exact fun _ _ _ => rfl
  | cons line lines ih =>
    intro clock kv hkv
    have hl := List.mem_cons_self line lines
    rw [foldLines_cons, List.foldl_cons, hstep _ kv line hl hkv]
    exact ih (fun t kv l hl' => hstep t kv l (List.mem_cons_of_mem _ hl'))
      (fun kv l hl' => hP kv l (List.mem_cons_of_mem _ hl')) _ (hP kv line hl hkv)

end FoldLines

/-- The `POLICY SET <name>` test of the replay loops: `iss >> cmdType`, then
`iss >> subCmd >> policyName`. -/
def decodePolicyLine (cmdLine : String) : Option DecisionPolicy :=
  let (cmdType, iss) := readWord (some cmdLine.data)
  if cmdType = "POLICY" then
    let (subCmd, iss) := readWord iss
    let (policyName, _) := readWord iss
    if subCmd = "SET" then DecisionPolicy.ofName? policyName else none
  else none

/-- Phase 2 of the WAL replay, one line; the text is the same in both mains. A `SET`
record without a readable timestamp is stamped with the clock. -/
def replayDataLine (now : TimePoint) (kv : KVStore) (cmdLine : String) : KVStore :=
  let (cmdType, iss) := readWord (some cmdLine.data)
  if cmdType = "SET" then
    let (key, iss) := readWord iss
    let (value, iss) := readWord iss
    match readLongLong iss with
    | some timestampMs => kv.setAtTime key value (fromMillis timestampMs) now
    | none => kv.setAtTime key value now.ns now
  else if cmdType = "DEL" then
    let (key, _) := readWord iss
    if key = "" then kv else (kv.del key).2
  else kv

namespace CliMain

/-- Phase 1 of the CLI's WAL replay, one line. -/
def replayPolicyLine (kv : KVStore) (cmdLine : String) : KVStore :=
  match decodePolicyLine cmdLine with
  | some policy => (kv.setWalEnabled false).setDecisionPolicy policy
  | none => kv

/-- First snapshot pass, one line: `POLICY SET <name>` through the command parser. -/
def loadSnapshotPolicy (kv : KVStore) (cmdLine : String) : KVStore :=
  let cmd := CommandParser.parse cmdLine
  if cmd.type = .policy ∧ 2 ≤ cmd.args.length ∧ cmd.args.getD 0 "" = "SET" then
    match DecisionPolicy.ofName? (cmd.args.getD 1 "") with
    | some policy => kv.setDecisionPolicy policy
    | none => kv
  else kv

/-- Second snapshot pass, one line: every `SET key value` at the one `snapshotTime`. -/
def loadSnapshotData (now : TimePoint) (kv : KVStore) (cmdLine : String) : KVStore :=
  let cmd := CommandParser.parse cmdLine
  if cmd.type = .set ∧ 2 ≤ cmd.args.length then
    kv.setAtTime (cmd.args.getD 0 "") (cmd.args.getD 1 "") now.ns now
  else kv

/-- The snapshot block of the CLI `main`. -/
def loadSnapshot (now : TimePoint) (kv : KVStore) (snapshotCommands : List String) : KVStore :=
  if snapshotCommands = [] then kv
  else
    (snapshotCommands.foldl (loadSnapshotData now)
      (snapshotCommands.foldl loadSnapshotPolicy (kv.setWalEnabled false))).setWalEnabled true

/-- The WAL block of the CLI `main`. -/
def replayWal (clock : Nat → TimePoint) (kv : KVStore) (commands : List String) : KVStore :=
  if commands = [] then kv
  else
    (foldLines replayDataLine clock
      (commands.foldl replayPolicyLine (kv.setWalEnabled false)) commands).setWalEnabled true

/-- Recovery in the CLI `main`, with the WAL initialised. -/
def recover (wal : WAL) (clock : RecoveryClock) : KVStore :=
  replayWal clock.logLine (loadSnapshot clock.snapshotTime (KVStore.create wal) wal.readSnapshot) wal.readLog

end CliMain

namespace HttpServer

/-- Phase 1 of the HTTP server's WAL replay, one line. -/
def replayPolicyLine (kv : KVStore) (cmdLine : String) : KVStore :=
  match decodePolicyLine cmdLine with
  | some policy => kv.setDecisionPolicy policy
  | none => kv

/-- The HTTP server's snapshot loop, one line. -/
def replaySnapshotLine (now : TimePoint) (kv : KVStore) (cmdLine : String) : KVStore :=
  let (cmdType, iss) := readWord (some cmdLine.data)
  if cmdType = "POLICY" then
    match decodePolicyLine cmdLine with
    | some policy => kv.setDecisionPolicy policy
    | none => kv
  else if cmdType = "SET" then
    let (key, iss) := readWord iss
    let (value, _) := readWord iss
    kv.setAtTime key value now.ns now
  else kv

/-- The WAL block of the HTTP `main`. -/
def replayWal (clock : Nat → TimePoint) (kv : KVStore) (commands : List String) : KVStore :=
  if commands = [] then kv
  else foldLines replayDataLine clock (commands.foldl replayPolicyLine kv) commands

/-- Recovery in the HTTP `main` started with `--wal`. -/
def recover (wal : WAL) (clock : RecoveryClock) : KVStore :=
  (replayWal clock.logLine (foldLines replaySnapshotLine clock.snapshotLine
    ((KVStore.create wal).setWalEnabled false) wal.readSnapshot) wal.readLog).setWalEnabled true

end HttpServer

/-- The two programs that open the engine on a WAL path. -/
inductive Driver where
  | cli
  | http
  deriving DecidableEq, Repr

def Driver.recover : Driver → WAL → RecoveryClock → KVStore
  | .cli => CliMain.recover
  | .http => HttpServer.recover

/-! ### Reading the engine's records back -/

theorem scanInteger_blank (cs : List Char) : scanInteger (' ' :: cs) = scanInteger cs := by
  simp [scanInteger, isSpace]

theorem readLongLong_toString {v : Int} (h : -2 ^ 63 ≤ v ∧ v < 2 ^ 63) :
    readLongLong (some (' ' :: (toString v).data)) = some v := by
  simp only [readLongLong, readSigned, scanInteger_blank, scanInteger_toString, if_pos h]

theorem toMillis_range (t : TimePoint) : -2 ^ 63 ≤ toMillis t.ns ∧ toMillis t.ns < 2 ^ 63 := by
  have := t.ge_min; have := t.lt_max
  rw [toMillis_eq]; split <;> omega

theorem isToken_SET : IsToken "SET" := by decide
theorem isToken_DEL : IsToken "DEL" := by decide
theorem isToken_POLICY : IsToken "POLICY" := by decide
theorem isToken_name (p : DecisionPolicy) : IsToken p.name := by cases p <;> decide

theorem setRecord_data (key value : String) (t : Int) :
    (WAL.setRecord key value t).data =
      "SET".data ++ ' ' :: (key.data ++ ' ' :: (value.data ++ ' ' :: (toString (toMillis t)).data)) := by
  simp [WAL.setRecord]

theorem snapshotRecord_data (key value : String) :
    (WAL.snapshotRecord key value).data = "SET".data ++ ' ' :: (key.data ++ ' ' :: value.data) := by
  simp [WAL.snapshotRecord]

theorem delRecord_data (key : String) : (WAL.delRecord key).data = "DEL".data ++ ' ' :: key.data := by
  simp [WAL.delRecord]

theorem policyRecord_data (name : String) :
    (WAL.policyRecord name).data = "POLICY".data ++ ' ' :: ("SET".data ++ ' ' :: name.data) := by
  simp [WAL.policyRecord]

theorem decodePolicyLine_SET (rest : List Char) : decodePolicyLine ⟨"SET".data ++ ' ' :: rest⟩ = none := by
  simp only [decodePolicyLine, readWord_first isToken_SET]
  rfl

theorem decodePolicyLine_DEL (rest : List Char) : decodePolicyLine ⟨"DEL".data ++ ' ' :: rest⟩ = none := by
  simp only [decodePolicyLine, readWord_first isToken_DEL]
  rfl

theorem decodePolicyLine_policyRecord (p : DecisionPolicy) :
    decodePolicyLine (WAL.policyRecord p.name) = some p := by
  simp only [decodePolicyLine, policyRecord_data, readWord_first isToken_POLICY,
    readWord_sep isToken_SET, readWord_last (isToken_name p)]
  simp

theorem replayDataLine_setRecord {key value : String} (hk : IsToken key) (hv : IsToken value)
    (t : TimePoint) (now : TimePoint) (kv : KVStore) :
    replayDataLine now kv (WAL.setRecord key value t.ns) = kv.setAtTime key value (truncMillis t.ns) now := by
  unfold replayDataLine
  rw [setRecord_data, readWord_first isToken_SET]
  dsimp only
  rw [if_pos rfl, readWord_sep hk]
  dsimp only
  rw [readWord_sep hv]
  dsimp only
  rw [readLongLong_toString (toMillis_range t)]
  rfl

theorem replayDataLine_delRecord {key : String} (hk : IsToken key) (now : TimePoint) (kv : KVStore) :
    replayDataLine now kv (WAL.delRecord key) = (kv.del key).2 := by
  simp only [replayDataLine, delRecord_data, readWord_first isToken_DEL, readWord_last hk]
  simp [hk.1]

theorem replayDataLine_policyRecord (p : DecisionPolicy) (now : TimePoint) (kv : KVStore) :
    replayDataLine now kv (WAL.policyRecord p.name) = kv := by
  simp only [replayDataLine, policyRecord_data, readWord_first isToken_POLICY]
  rfl

end SentinelDB
