import SentinelDB.Replay

/-!
# What a recovery builds

Both mains build the engine from four operations only: `setAtTime` with the default
retention, `del` and `setDecisionPolicy` with logging off, and `setWalEnabled`. A property
those operations keep therefore holds after every recovery, whatever the files hold
(`Driver.recover_stable`). For files the engine wrote (`WalContents`) the store and the
policy a recovery builds are computed entry by entry.
-/

namespace SentinelDB

set_option autoImplicit false

/-! ### What one line of a recovery can do -/

theorem replayDataLine_cases (now : TimePoint) (kv : KVStore) (line : String) :
    replayDataLine now kv line = kv ∨
    (∃ key value ts, NoNewline key ∧ NoNewline value ∧
      replayDataLine now kv line = kv.setAtTime key value ts now) ∨
    ∃ key, replayDataLine now kv line = (kv.del key).2 := by
  unfold replayDataLine
  split
  next _ cmdType iss _ =>
  by_cases hset : cmdType = "SET"
  · rw [if_pos hset]
    split
    next _ key rest h2 =>
    split
    next _ value _ h3 =>
    have hk : NoNewline key := by simpa [h2] using readWord_noNewline iss
    have hv : NoNewline value := by simpa [h3] using readWord_noNewline rest
    split <;> exact .inr (.inl ⟨key, value, _, hk, hv, rfl⟩)
  · rw [if_neg hset]
    by_cases hdel : cmdType = "DEL"
    · rw [if_pos hdel]
      split
      next _ key _ _ =>
      by_cases hempty : key = ""
      · rw [if_pos hempty]
        exact .inl rfl
      · rw [if_neg hempty]
        exact .inr (.inr ⟨key, rfl⟩)
    · rw [if_neg hdel]
      exact .inl rfl

namespace CliMain

theorem replayPolicyLine_cases (kv : KVStore) (line : String) :
    replayPolicyLine kv line = kv ∨
      ∃ p, replayPolicyLine kv line = (kv.setWalEnabled false).setDecisionPolicy p := by
  unfold replayPolicyLine
  split
  · exact .inr ⟨_, rfl⟩
  · exact .inl rfl

theorem loadSnapshotPolicy_cases (kv : KVStore) (line : String) :
    loadSnapshotPolicy kv line = kv ∨ ∃ p, loadSnapshotPolicy kv line = kv.setDecisionPolicy p := by
  dsimp only [loadSnapshotPolicy]
  split
  · split
    · exact .inr ⟨_, rfl⟩
    · exact .inl rfl
  · exact .inl rfl

theorem loadSnapshotData_cases (now : TimePoint) (kv : KVStore) (line : String) :
    loadSnapshotData now kv line = kv ∨ ∃ key value, NoNewline key ∧ NoNewline value ∧
      loadSnapshotData now kv line = kv.setAtTime key value now.ns now := by
  dsimp only [loadSnapshotData]
  split
  next h => exact .inr ⟨_, _, CommandParser.noNewline_arg_of_set h.1 0,
    CommandParser.noNewline_arg_of_set h.1 1, rfl⟩
  · exact .inl rfl

end CliMain

namespace HttpServer

theorem replayPolicyLine_cases (kv : KVStore) (line : String) :
    replayPolicyLine kv line = kv ∨ ∃ p, replayPolicyLine kv line = kv.setDecisionPolicy p := by
  unfold replayPolicyLine
  split
  · exact .inr ⟨_, rfl⟩
  · exact .inl rfl

theorem replaySnapshotLine_cases (now : TimePoint) (kv : KVStore) (line : String) :
    replaySnapshotLine now kv line = kv ∨
    (∃ p, replaySnapshotLine now kv line = kv.setDecisionPolicy p) ∨
    ∃ key value, NoNewline key ∧ NoNewline value ∧
      replaySnapshotLine now kv line = kv.setAtTime key value now.ns now := by
  unfold replaySnapshotLine
  split
  next _ cmdType iss _ =>
  by_cases hpolicy : cmdType = "POLICY"
  · rw [if_pos hpolicy]
    split
    · exact .inr (.inl ⟨_, rfl⟩)
    · exact .inl rfl
  · rw [if_neg hpolicy]
    by_cases hset : cmdType = "SET"
    · rw [if_pos hset]
      split
      next _ key rest h2 =>
      split
      next _ value _ h3 =>
      have hk : NoNewline key := by simpa [h2] using readWord_noNewline iss
      have hv : NoNewline value := by simpa [h3] using readWord_noNewline rest
      exact .inr (.inr ⟨key, value, hk, hv, rfl⟩)
    · rw [if_neg hset]
      exact .inl rfl

theorem replaySnapshotLine_retentionPolicy (now : TimePoint) (kv : KVStore) (line : String) :
    (replaySnapshotLine now kv line).retentionPolicy = kv.retentionPolicy := by
  rcases replaySnapshotLine_cases now kv line with he | ⟨p, he⟩ | ⟨_, _, _, _, he⟩ <;> rw [he] <;> rfl

theorem replaySnapshotLine_snapshotRecord_decisionPolicy (now : TimePoint) (kv : KVStore)
    (key value : String) :
    (replaySnapshotLine now kv (WAL.snapshotRecord key value)).decisionPolicy = kv.decisionPolicy := by
  unfold replaySnapshotLine
  rw [snapshotRecord_data, readWord_first isToken_SET]
  dsimp only
  rw [if_neg (by decide), if_pos rfl]
  rfl

end HttpServer

/-! ### Properties every recovery keeps -/

/-- The fields a recovery leaves as it found them, with logging `enabled` or not. -/
structure Replaying (w : WAL) (enabled : Bool) (kv : KVStore) : Prop where
  wal : kv.wal = w
  walEnabled : kv.walEnabled = enabled
  retentionPolicy : kv.retentionPolicy = {}

/-- A property of the engine state that every operation of a recovery keeps. -/
structure ReplayStable (Q : KVStore → Prop) : Prop where
  setAtTime : ∀ (kv : KVStore) (key value : String) (ts : Int) (now : TimePoint),
    kv.retentionPolicy = {} → NoNewline key → NoNewline value → Q kv → Q (kv.setAtTime key value ts now)
  del : ∀ (kv : KVStore) (key : String), kv.walEnabled = false → Q kv → Q (kv.del key).2
  setDecisionPolicy : ∀ (kv : KVStore) (p : DecisionPolicy),
    kv.walEnabled = false → Q kv → Q (kv.setDecisionPolicy p)
  setWalEnabled : ∀ (kv : KVStore) (b : Bool), Q kv → Q (kv.setWalEnabled b)

section Stable

variable {Q : KVStore → Prop} (hQ : ReplayStable Q) {w : WAL}

theorem Replaying.foldl {f : KVStore → String → KVStore}
    (hf : ∀ kv line, Replaying w false kv ∧ Q kv → Replaying w false (f kv line) ∧ Q (f kv line))
    (lines : List String) {kv : KVStore} (h : Replaying w false kv ∧ Q kv) :
    Replaying w false (lines.foldl f kv) ∧ Q (lines.foldl f kv) :=
  List.foldlRecOn lines f kv h fun kv' h' line _ => hf kv' line h'

include hQ

theorem ReplayStable.setWalEnabled' {kv : KVStore} {e : Bool} (h : Replaying w e kv ∧ Q kv) (b : Bool) :
    Replaying w b (kv.setWalEnabled b) ∧ Q (kv.setWalEnabled b) :=
  ⟨⟨h.1.wal, rfl, h.1.retentionPolicy⟩, hQ.setWalEnabled kv b h.2⟩

theorem ReplayStable.setAtTime' {kv : KVStore} (h : Replaying w false kv ∧ Q kv) {key value : String}
    (hk : NoNewline key) (hv : NoNewline value) (ts : Int) (now : TimePoint) :
    Replaying w false (kv.setAtTime key value ts now) ∧ Q (kv.setAtTime key value ts now) :=
  ⟨⟨h.1.wal, h.1.walEnabled, h.1.retentionPolicy⟩,
    hQ.setAtTime kv key value ts now h.1.retentionPolicy hk hv h.2⟩

theorem ReplayStable.del' {kv : KVStore} (h : Replaying w false kv ∧ Q kv) (key : String) :
    Replaying w false (kv.del key).2 ∧ Q (kv.del key).2 :=
  ⟨⟨by simp [KVStore.del_wal, h.1.walEnabled, h.1.wal], by simp [h.1.walEnabled],
    by simp [h.1.retentionPolicy]⟩, hQ.del kv key h.1.walEnabled h.2⟩

theorem ReplayStable.setDecisionPolicy' {kv : KVStore} (h : Replaying w false kv ∧ Q kv)
    (p : DecisionPolicy) :
    Replaying w false (kv.setDecisionPolicy p) ∧ Q (kv.setDecisionPolicy p) :=
  ⟨⟨by simp [h.1.walEnabled, h.1.wal], h.1.walEnabled, h.1.retentionPolicy⟩,
    hQ.setDecisionPolicy kv p h.1.walEnabled h.2⟩

theorem ReplayStable.replayDataLine (now : TimePoint) (kv : KVStore) (line : String)
    (h : Replaying w false kv ∧ Q kv) :
    Replaying w false (replayDataLine now kv line) ∧ Q (replayDataLine now kv line) := by
  rcases replayDataLine_cases now kv line with he | ⟨key, value, ts, hk, hv, he⟩ | ⟨key, he⟩ <;>
    rw [he]
  · exact h
  · exact hQ.setAtTime' h hk hv ts now
  · exact hQ.del' h key

theorem ReplayStable.cliReplayWal (clock : Nat → TimePoint) (kv : KVStore) (lines : List String)
    (h : Replaying w true kv ∧ Q kv) :
    Replaying w true (CliMain.replayWal clock kv lines) ∧ Q (CliMain.replayWal clock kv lines) := by
  unfold CliMain.replayWal
  split
  · exact h
  · refine hQ.setWalEnabled' (foldLines_keeps _ hQ.replayDataLine _ clock (Replaying.foldl (fun kv line h => ?_) _
      (hQ.setWalEnabled' h false))) true
    rcases CliMain.replayPolicyLine_cases kv line with he | ⟨p, he⟩ <;> rw [he]
    · exact h
    · exact hQ.setDecisionPolicy' (hQ.setWalEnabled' h false) p

theorem ReplayStable.cliLoadSnapshot (now : TimePoint) (kv : KVStore) (lines : List String)
    (h : Replaying w true kv ∧ Q kv) :
    Replaying w true (CliMain.loadSnapshot now kv lines) ∧ Q (CliMain.loadSnapshot now kv lines) := by
  unfold CliMain.loadSnapshot
  split
  · exact h
  · refine hQ.setWalEnabled' (Replaying.foldl (fun kv line h => ?_) _ (Replaying.foldl (fun kv line h => ?_) _
      (hQ.setWalEnabled' h false))) true
    · rcases CliMain.loadSnapshotData_cases now kv line with he | ⟨key, value, hk, hv, he⟩ <;> rw [he]
      · exact h
      · exact hQ.setAtTime' h hk hv _ now
    · rcases CliMain.loadSnapshotPolicy_cases kv line with he | ⟨p, he⟩ <;> rw [he]
      · exact h
      · exact hQ.setDecisionPolicy' h p

theorem ReplayStable.httpRecover (clock : RecoveryClock) (h0 : Q (KVStore.create w)) :
    Replaying w true (HttpServer.recover w clock) ∧ Q (HttpServer.recover w clock) := by
  have hstart : Replaying w false ((KVStore.create w).setWalEnabled false) ∧
      Q ((KVStore.create w).setWalEnabled false) := ⟨⟨rfl, rfl, rfl⟩, hQ.setWalEnabled _ false h0⟩
  have hsnap := foldLines_keeps HttpServer.replaySnapshotLine (Q := fun kv => Replaying w false kv ∧ Q kv)
    (fun now kv line h => by
      rcases HttpServer.replaySnapshotLine_cases now kv line with
        he | ⟨p, he⟩ | ⟨key, value, hk, hv, he⟩ <;> rw [he]
      · exact h
      · exact hQ.setDecisionPolicy' h p
      · exact hQ.setAtTime' h hk hv _ now) w.readSnapshot clock.snapshotLine hstart
  refine hQ.setWalEnabled' (e := false) ?_ true
  unfold HttpServer.replayWal
  split
  · exact hsnap
  · refine foldLines_keeps _ hQ.replayDataLine _ _ (Replaying.foldl (fun kv line h => ?_) _ hsnap)
    rcases HttpServer.replayPolicyLine_cases kv line with he | ⟨p, he⟩ <;> rw [he]
    · exact h
    · exact hQ.setDecisionPolicy' h p

/-- Every recovery ends with logging on, the files untouched and the default retention,
and keeps every property its operations keep. -/
theorem Driver.recover_stable (d : Driver) (clock : RecoveryClock) (h0 : Q (KVStore.create w)) :
    Replaying w true (d.recover w clock) ∧ Q (d.recover w clock) := by
  cases d with
  | cli => exact hQ.cliReplayWal _ _ _ (hQ.cliLoadSnapshot _ _ _ ⟨⟨rfl, rfl, rfl⟩, h0⟩)
  | http => exact hQ.httpRecover clock h0

end Stable

theorem replayStable_true : ReplayStable fun _ => True :=
  ⟨fun _ _ _ _ _ _ _ _ h => h, fun _ _ _ h => h, fun _ _ _ h => h, fun _ _ h => h⟩

theorem Driver.recover_replaying (d : Driver) (w : WAL) (clock : RecoveryClock) :
    Replaying w true (d.recover w clock) :=
  (Driver.recover_stable replayStable_true d clock trivial).1

/-! ### Files the engine wrote -/

def appendHistory (k key : String) (v : Version) (h : Option (List Version)) : Option (List Version) :=
  if k = key then some (h.getD [] ++ [v]) else h

/-- What replaying the entry does to the history of `k`, under the default retention. -/
def LogEntry.replayHistory (k : String) (h : Option (List Version)) : LogEntry → Option (List Version)
  | .set key value t => appendHistory k key ⟨truncMillis t.ns, value⟩ h
  | .del key => if k = key then none else h
  | .policy _ => h

/-- The history of `k` once snapshot pairs are loaded, the `i`-th stamped `stamp i`. -/
def loadHistory (k : String) :
    List (String × String) → (Nat → Int) → Option (List Version) → Option (List Version)
  | [], _, h => h
  | x :: xs, stamp, h => loadHistory k xs (fun i => stamp (i + 1)) (appendHistory k x.1 ⟨stamp 0, x.2⟩ h)

/-- The files of a WAL path as the engine writes them: the snapshot of a policy and of
one value per key, if one was taken, and the entries logged since. -/
structure WalContents where
  snapshot : Option (DecisionPolicy × List (String × String))
  log : List LogEntry

namespace WalContents

def files (c : WalContents) : WAL where
  log := c.log.map LogEntry.record
  snapshot := match c.snapshot with
    | none => []
    | some s => snapshotLines s.1 s.2

def Fields (P : String → Prop) (c : WalContents) : Prop :=
  (∀ e ∈ c.log, e.Fields P) ∧ ∀ s ∈ c.snapshot, ∀ x ∈ s.2, P x.1 ∧ P x.2

/-- The policy a recovery selects: the last `POLICY SET` entry, else the snapshot's. -/
def policy (c : WalContents) : DecisionPolicy :=
  c.log.foldl (fun p e => e.policy?.getD p) ((c.snapshot.map Prod.fst).getD .safeDefault)

/-- The history of `k` a recovery builds: the snapshot's `i`-th value stamped `stamp i`,
then every logged entry. -/
def history (c : WalContents) (stamp : Nat → Int) (k : String) : Option (List Version) :=
  c.log.foldl (LogEntry.replayHistory k) (loadHistory k ((c.snapshot.map Prod.snd).getD []) stamp none)

theorem readLog_files {c : WalContents} (hc : c.Fields NoNewline) :
    c.files.readLog = c.log.map LogEntry.record :=
  LogEntry.readLines_records hc.1

theorem readSnapshot_files {c : WalContents} (hc : c.Fields NoNewline) :
    c.files.readSnapshot = c.files.snapshot := by
  unfold WAL.readSnapshot files
  cases hs : c.snapshot with
  | none => rfl
  | some s => exact snapshotLines_lines (hc.2 s hs)

end WalContents

/-! ### The store a recovery builds -/

section Lookup

variable (now : TimePoint) (k : String)

theorem setAtTime_lookup_default {kv : KVStore} (h : kv.retentionPolicy = {}) (key value : String)
    (ts : Int) : (kv.setAtTime key value ts now).store.lookup k =
      appendHistory k key ⟨ts, value⟩ (kv.store.lookup k) := by
  rw [KVStore.setAtTime_lookup, h, retain_default, appendHistory]
  split
  · subst k; rfl
  · rfl

theorem LogEntry.replay_retentionPolicy (kv : KVStore) (e : LogEntry) :
    (e.replay now kv).retentionPolicy = kv.retentionPolicy := by
  cases e <;> simp [LogEntry.replay]

theorem LogEntry.replay_lookup {kv : KVStore} (h : kv.retentionPolicy = {}) (e : LogEntry) :
    (e.replay now kv).store.lookup k = e.replayHistory k (kv.store.lookup k) := by
  cases e with
  | set key value t => exact setAtTime_lookup_default now k h key value _
  | del key => exact KVStore.del_lookup kv key k
  | policy p => rfl

theorem replayDataLine_records_lookup {es : List LogEntry} (hes : ∀ e ∈ es, e.Fields IsToken)
    (clock : Nat → TimePoint) {kv : KVStore} (h : kv.retentionPolicy = {}) :
    (foldLines replayDataLine clock kv (es.map LogEntry.record)).store.lookup k =
      es.foldl (LogEntry.replayHistory k) (kv.store.lookup k) := by
  induction es generalizing clock kv with
  | nil => rfl
  | cons e es ih =>
    have he := hes e (List.mem_cons_self e es)
    rw [List.map_cons, foldLines_cons, List.foldl_cons, LogEntry.replayDataLine_record he,
      ih (fun e' h' => hes e' (List.mem_cons_of_mem e h')) _
        ((LogEntry.replay_retentionPolicy (clock 0) kv e).trans h),
      LogEntry.replay_lookup (clock 0) k h]

theorem loadPairs_lookup (data : List (String × String)) {kv : KVStore} (h : kv.retentionPolicy = {}) :
    (data.foldl (fun kv x => kv.setAtTime x.1 x.2 now.ns now) kv).store.lookup k =
      loadHistory k data (fun _ => now.ns) (kv.store.lookup k) := by
  induction data generalizing kv with
  | nil => rfl
  | cons x data ih =>
    rw [List.foldl_cons, ih (show (kv.setAtTime x.1 x.2 now.ns now).retentionPolicy = {} from h),
      setAtTime_lookup_default now k h]
    rfl

theorem foldLines_snapshotRecords_lookup {data : List (String × String)}
    (hdata : ∀ x ∈ data, IsToken x.1 ∧ IsToken x.2) (clock : Nat → TimePoint) {kv : KVStore}
    (h : kv.retentionPolicy = {}) :
    (foldLines HttpServer.replaySnapshotLine clock kv
      (data.map fun x => WAL.snapshotRecord x.1 x.2)).store.lookup k =
      loadHistory k data (fun i => (clock i).ns) (kv.store.lookup k) := by
  induction data generalizing clock kv with
  | nil => rfl
  | cons x data ih =>
    have hx := hdata x (List.mem_cons_self x data)
    rw [List.map_cons, foldLines_cons, HttpServer.replaySnapshotLine_snapshotRecord _ _ hx.1 hx.2,
      ih (fun y hy => hdata y (List.mem_cons_of_mem x hy)) _
        (show (kv.setAtTime x.1 x.2 (clock 0).ns (clock 0)).retentionPolicy = {} from h),
      setAtTime_lookup_default _ k h]
    rfl

end Lookup

/-! ### The two phases of the WAL block -/

/-- The policy the `POLICY SET` lines select, in order, starting from `p`. -/
def policyOf (lines : List String) (p : DecisionPolicy) : DecisionPolicy :=
  lines.foldl (fun p line => (decodePolicyLine line).getD p) p

theorem foldl_keeps {α β γ : Type} (g : α → γ) {step : α → β → α} (h : ∀ a b, g (step a b) = g a) :
    ∀ (l : List β) (a : α), g (l.foldl step a) = g a
  | [], _ => rfl
  | b :: l, a => (foldl_keeps g h l (step a b)).trans (h a b)

section Phases

variable (now : TimePoint)

theorem replayDataLine_decisionPolicy (kv : KVStore) (line : String) :
    (replayDataLine now kv line).decisionPolicy = kv.decisionPolicy := by
  rcases replayDataLine_cases now kv line with he | ⟨_, _, _, _, _, he⟩ | ⟨_, he⟩ <;> rw [he] <;> simp

namespace CliMain

theorem replayPolicyLine_decisionPolicy (kv : KVStore) (line : String) :
    (replayPolicyLine kv line).decisionPolicy = (decodePolicyLine line).getD kv.decisionPolicy := by
  unfold replayPolicyLine; split <;> simp_all

theorem replayPolicyLine_data (kv : KVStore) (line : String) :
    ((replayPolicyLine kv line).store, (replayPolicyLine kv line).retentionPolicy) =
      (kv.store, kv.retentionPolicy) := by
  rcases replayPolicyLine_cases kv line with he | ⟨p, he⟩ <;> simp [he]

theorem foldl_replayPolicyLine_decisionPolicy (lines : List String) (kv : KVStore) :
    (lines.foldl replayPolicyLine kv).decisionPolicy = policyOf lines kv.decisionPolicy := by
  induction lines generalizing kv with
  | nil => rfl
  | cons l ls ih => rw [List.foldl_cons, ih, replayPolicyLine_decisionPolicy]; rfl

theorem replayWal_decisionPolicy (clock : Nat → TimePoint) (kv : KVStore) (lines : List String) :
    (replayWal clock kv lines).decisionPolicy = policyOf lines kv.decisionPolicy := by
  unfold replayWal
  split
  · subst_vars; rfl
  · rw [KVStore.setWalEnabled_decisionPolicy, foldLines_preserves _ _ replayDataLine_decisionPolicy,
      foldl_replayPolicyLine_decisionPolicy]
    rfl

theorem replayWal_lookup {es : List LogEntry} (hes : ∀ e ∈ es, e.Fields IsToken) (clock : Nat → TimePoint)
    {kv : KVStore} (h : kv.retentionPolicy = {}) (k : String) :
    (replayWal clock kv (es.map LogEntry.record)).store.lookup k =
      es.foldl (LogEntry.replayHistory k) (kv.store.lookup k) := by
  unfold replayWal
  split
  · rename_i h0; rw [List.map_eq_nil_iff.mp h0]; rfl
  · have hp := foldl_keeps (fun kv => (kv.store, kv.retentionPolicy)) replayPolicyLine_data
      (es.map LogEntry.record) (kv.setWalEnabled false)
    simp only [Prod.mk.injEq] at hp
    rw [KVStore.setWalEnabled_store, replayDataLine_records_lookup k hes clock (hp.2.trans h), hp.1]
    rfl

theorem foldl_loadSnapshotPolicy_snapshotLines (p : DecisionPolicy) (data : List (String × String))
    (kv : KVStore) : (snapshotLines p data).foldl loadSnapshotPolicy kv = kv.setDecisionPolicy p := by
  rw [snapshotLines, List.foldl_cons, loadSnapshotPolicy_policyRecord, List.foldl_map]
  refine List.foldl_fixed' (fun x => ?_) data
  exact loadSnapshotPolicy_snapshotRecord _ x.1 x.2

theorem loadSnapshotData_decisionPolicy (kv : KVStore) (line : String) :
    (loadSnapshotData now kv line).decisionPolicy = kv.decisionPolicy := by
  rcases loadSnapshotData_cases now kv line with he | ⟨_, _, _, _, he⟩ <;> simp [he]

theorem loadSnapshot_snapshotLines_decisionPolicy (p : DecisionPolicy) (data : List (String × String))
    (kv : KVStore) : (loadSnapshot now kv (snapshotLines p data)).decisionPolicy = p := by
  have hne : snapshotLines p data ≠ [] := List.cons_ne_nil _ _
  rw [loadSnapshot, if_neg hne, KVStore.setWalEnabled_decisionPolicy,
    foldl_keeps _ (loadSnapshotData_decisionPolicy now), foldl_loadSnapshotPolicy_snapshotLines]
  rfl

theorem foldl_loadSnapshotData_snapshotLines {p : DecisionPolicy} {data : List (String × String)}
    (hdata : ∀ x ∈ data, IsToken x.1 ∧ IsToken x.2) (kv : KVStore) :
    (snapshotLines p data).foldl (loadSnapshotData now) kv =
      data.foldl (fun kv x => kv.setAtTime x.1 x.2 now.ns now) kv := by
  rw [snapshotLines, List.foldl_cons, loadSnapshotData_policyRecord, List.foldl_map]
  refine List.foldl_ext _ _ _ fun kv x hx => ?_
  exact loadSnapshotData_snapshotRecord now kv (hdata x hx).1 (hdata x hx).2

theorem loadSnapshot_snapshotLines_lookup {p : DecisionPolicy} {data : List (String × String)}
    (hdata : ∀ x ∈ data, IsToken x.1 ∧ IsToken x.2) {kv : KVStore} (h : kv.retentionPolicy = {})
    (k : String) : (loadSnapshot now kv (snapshotLines p data)).store.lookup k =
      loadHistory k data (fun _ => now.ns) (kv.store.lookup k) := by
  have hne : snapshotLines p data ≠ [] := List.cons_ne_nil _ _
  rw [loadSnapshot, if_neg hne, KVStore.setWalEnabled_store,
    foldl_loadSnapshotData_snapshotLines now hdata, foldl_loadSnapshotPolicy_snapshotLines,
    loadPairs_lookup now k data (show ((kv.setWalEnabled false).setDecisionPolicy p).retentionPolicy = {} from h)]
  rfl

end CliMain

namespace HttpServer

theorem replayPolicyLine_decisionPolicy (kv : KVStore) (line : String) :
    (replayPolicyLine kv line).decisionPolicy = (decodePolicyLine line).getD kv.decisionPolicy := by
  unfold replayPolicyLine; split <;> simp_all

theorem replayPolicyLine_data (kv : KVStore) (line : String) :
    ((replayPolicyLine kv line).store, (replayPolicyLine kv line).retentionPolicy) =
      (kv.store, kv.retentionPolicy) := by
  rcases replayPolicyLine_cases kv line with he | ⟨p, he⟩ <;> simp [he]

theorem replayWal_decisionPolicy (clock : Nat → TimePoint) (kv : KVStore) (lines : List String) :
    (replayWal clock kv lines).decisionPolicy = policyOf lines kv.decisionPolicy := by
  unfold replayWal
  split
  · subst_vars; rfl
  · rw [foldLines_preserves _ _ replayDataLine_decisionPolicy]
    clear * -
    induction lines generalizing kv with
    | nil => rfl
    | cons l ls ih => rw [List.foldl_cons, ih, replayPolicyLine_decisionPolicy]; rfl

theorem replayWal_lookup {es : List LogEntry} (hes : ∀ e ∈ es, e.Fields IsToken) (clock : Nat → TimePoint)
    {kv : KVStore} (h : kv.retentionPolicy = {}) (k : String) :
    (replayWal clock kv (es.map LogEntry.record)).store.lookup k =
      es.foldl (LogEntry.replayHistory k) (kv.store.lookup k) := by
  unfold replayWal
  split
  · rename_i h0; rw [List.map_eq_nil_iff.mp h0]; rfl
  · have hp := foldl_keeps (fun kv => (kv.store, kv.retentionPolicy)) replayPolicyLine_data
      (es.map LogEntry.record) kv
    simp only [Prod.mk.injEq] at hp
    rw [replayDataLine_records_lookup k hes clock (hp.2.trans h), hp.1]

theorem foldLines_snapshotRecords_decisionPolicy (data : List (String × String)) :
    ∀ (clock : Nat → TimePoint) (kv : KVStore),
      (foldLines replaySnapshotLine clock kv (data.map fun x => WAL.snapshotRecord x.1 x.2)).decisionPolicy =
        kv.decisionPolicy := by
  induction data with
  | nil => exact fun _ _ => rfl
  | cons x data ih =>
    intro clock kv
    rw [List.map_cons, foldLines_cons, ih, replaySnapshotLine_snapshotRecord_decisionPolicy]

theorem foldLines_snapshotLines_decisionPolicy (clock : Nat → TimePoint) (p : DecisionPolicy)
    (data : List (String × String)) (kv : KVStore) :
    (foldLines replaySnapshotLine clock kv (snapshotLines p data)).decisionPolicy = p := by
  rw [snapshotLines, foldLines_cons, replaySnapshotLine_policyRecord, foldLines_snapshotRecords_decisionPolicy]
  rfl

theorem foldLines_snapshotLines_lookup {p : DecisionPolicy} {data : List (String × String)}
    (hdata : ∀ x ∈ data, IsToken x.1 ∧ IsToken x.2) (clock : Nat → TimePoint) {kv : KVStore}
    (h : kv.retentionPolicy = {}) (k : String) :
    (foldLines replaySnapshotLine clock kv (snapshotLines p data)).store.lookup k =
      loadHistory k data (fun i => (clock (i + 1)).ns) (kv.store.lookup k) := by
  rw [snapshotLines, foldLines_cons, replaySnapshotLine_policyRecord,
    foldLines_snapshotRecords_lookup k hdata _ (show (kv.setDecisionPolicy p).retentionPolicy = {} from h)]
  rfl

end HttpServer

end Phases

/-! ### Recovery from files the engine wrote -/

/-- The stamp each main gives the snapshot's `i`-th value: the CLI its one `snapshotTime`,
the HTTP server the reading of that value's line, which follows the policy line. -/
def Driver.snapshotStamp : Driver → RecoveryClock → Nat → Int
  | .cli, clock, _ => clock.snapshotTime.ns
  | .http, clock, i => (clock.snapshotLine (i + 1)).ns

namespace WalContents

variable {c : WalContents}

/-- Both mains select the policy of the last `POLICY SET` entry, else the snapshot's. -/
theorem recover_decisionPolicy (hc : c.Fields NoNewline) (d : Driver) (clock : RecoveryClock) :
    (d.recover c.files clock).decisionPolicy = c.policy := by
  have hlog : c.files.readLog = c.log.map LogEntry.record := readLog_files hc
  have hpol : policyOf (c.log.map LogEntry.record) = c.log.foldl fun p e => e.policy?.getD p := by
    funext p
    rw [policyOf, List.foldl_map]
    simp only [LogEntry.decodePolicyLine_record]
  have hsnap := readSnapshot_files hc
  cases d with
  | cli =>
    rw [Driver.recover, CliMain.recover, CliMain.replayWal_decisionPolicy, hlog, hpol, hsnap, policy]
    congr 1
    unfold files
    cases c.snapshot with
    | none => rfl
    | some s => exact CliMain.loadSnapshot_snapshotLines_decisionPolicy _ s.1 s.2 _
  | http =>
    rw [Driver.recover, HttpServer.recover, KVStore.setWalEnabled_decisionPolicy,
      HttpServer.replayWal_decisionPolicy, hlog, hpol, hsnap, policy]
    congr 1
    unfold files
    cases c.snapshot with
    | none => rfl
    | some s => exact HttpServer.foldLines_snapshotLines_decisionPolicy _ s.1 s.2 _

/-- Both mains rebuild every key's history from the snapshot, with their stamps, and the log. -/
theorem recover_lookup (hc : c.Fields IsToken) (d : Driver) (clock : RecoveryClock) (k : String) :
    (d.recover c.files clock).store.lookup k = c.history (d.snapshotStamp clock) k := by
  have hnl : c.Fields NoNewline :=
    ⟨fun e he => (hc.1 e he).mono fun _ h => h.noNewline,
      fun s hs x hx => ⟨(hc.2 s hs x hx).1.noNewline, (hc.2 s hs x hx).2.noNewline⟩⟩
  have hlog : c.files.readLog = c.log.map LogEntry.record := readLog_files hnl
  have hsnap := readSnapshot_files hnl
  cases d with
  | cli =>
    have hload := (replayStable_true.cliLoadSnapshot clock.snapshotTime (KVStore.create c.files)
      c.files.readSnapshot ⟨⟨rfl, rfl, rfl⟩, trivial⟩).1
    rw [Driver.recover, CliMain.recover, hlog, CliMain.replayWal_lookup hc.1 _ hload.retentionPolicy,
      history]
    congr 1
    rw [hsnap]
    unfold files
    cases hs : c.snapshot with
    | none => rfl
    | some s => exact CliMain.loadSnapshot_snapshotLines_lookup _ (hc.2 s hs) rfl k
  | http =>
    rw [Driver.recover, HttpServer.recover, KVStore.setWalEnabled_store, hlog,
      HttpServer.replayWal_lookup hc.1 _ ?_ k, history]
    · congr 1
      rw [hsnap]
      unfold files
      cases hs : c.snapshot with
      | none => rfl
      | some s => exact HttpServer.foldLines_snapshotLines_lookup (hc.2 s hs) _ rfl k
    · exact foldLines_preserves _ KVStore.retentionPolicy HttpServer.replaySnapshotLine_retentionPolicy _ _ _

end WalContents

end SentinelDB
