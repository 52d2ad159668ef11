import SentinelDB.Restart

/-!
# The engine over many runs

A run opens the engine on a WAL path with one of the two mains, which recovers it, and
then makes engine calls through the CLI or the HTTP server. Only the files carry over
from one run to the next. `Reachable allowed` holds of every state such runs reach when
each event satisfies `allowed` and clock readings never decrease.

A call reads the clock once for its stamp and, for each key `applyRetention` prunes,
once more; a recovery reads it for the snapshot and for log lines without a stamp.
-/

namespace SentinelDB

set_option autoImplicit false

namespace HttpServer

/-- `POST /policy`: `setDecisionPolicy`, which logs the change, then `wal->logPolicy` again. -/
def postPolicy (kv : KVStore) (policy : DecisionPolicy) : KVStore :=
  { kv.setDecisionPolicy policy with wal := (kv.setDecisionPolicy policy).wal.logPolicy policy.name }

end HttpServer

namespace RedisLikeCLI

/-- `handleSnapshot`: snapshot the current values and policy, which truncates the log. -/
def handleSnapshot (kv : KVStore) : KVStore :=
  { kv with wal := WAL.createSnapshot kv.getAllData kv.decisionPolicy.name }

end RedisLikeCLI

/-- The engine calls the CLI and the HTTP server make. -/
inductive Call where
  | set (key value : String)
  | del (key : String)
  | setRetentionPolicy (policy : RetentionPolicy)
  | setDecisionPolicy (policy : DecisionPolicy)
  | postPolicy (policy : DecisionPolicy)
  | snapshot
  | addGuard (guard : Guard)
  | removeGuard (name : String)

namespace Call

/-- The call made with first clock reading `now`; `pruneAt k` is the reading
`applyRetention` takes for key `k`. -/
def run (now : TimePoint) (pruneAt : String → TimePoint) (kv : KVStore) : Call → KVStore
  | set key value => kv.set key value now (pruneAt key)
  | del key => (kv.del key).2
  | setRetentionPolicy policy => kv.setRetentionPolicy policy pruneAt
  | setDecisionPolicy policy => kv.setDecisionPolicy policy
  | postPolicy policy => HttpServer.postPolicy kv policy
  | snapshot => RedisLikeCLI.handleSnapshot kv
  | addGuard guard => kv.addGuard guard
  | removeGuard name => (kv.removeGuard name).2

def Fields (P : String → Prop) : Call → Prop
  | set key value => P key ∧ P value
  | del key => P key
  | _ => True

/-- The call prunes by time: `setRetentionPolicy(LastT(s))` with `s > 0`. -/
def PrunesByTime : Call → Prop
  | setRetentionPolicy policy => policy.mode = .lastT ∧ 0 < policy.seconds
  | _ => False

instance (P : String → Prop) [DecidablePred P] : DecidablePred (Fields P) := fun c =>
  match c with
  | set _ _ => inferInstanceAs (Decidable (_ ∧ _))
  | del _ => inferInstanceAs (Decidable (P _))
  | setRetentionPolicy _ | setDecisionPolicy _ | postPolicy _ | snapshot | addGuard _ | removeGuard _ =>
    inferInstanceAs (Decidable True)

instance : DecidablePred PrunesByTime := fun c =>
  match c with
  | setRetentionPolicy _ => inferInstanceAs (Decidable (_ ∧ _))
  | set _ _ | del _ | setDecisionPolicy _ | postPolicy _ | snapshot | addGuard _ | removeGuard _ =>
    inferInstanceAs (Decidable False)

end Call

/-- The clock readings of one engine call: `now` for the version a `set` writes, then
`pruneAt k`, not earlier, where `applyRetention` prunes key `k`. -/
structure Readings where
  now : TimePoint
  pruneAt : String → TimePoint
  now_le_pruneAt (k : String) : now.ns ≤ (pruneAt k).ns

def Readings.single (now : TimePoint) : Readings := ⟨now, fun _ => now, fun _ => le_rfl⟩

/-- A restart by one of the mains, whose readings end at `now`, or an engine call. -/
inductive Event where
  | restart (driver : Driver) (clock : RecoveryClock) (now : TimePoint)
  | call (c : Call) (now : TimePoint) (pruneAt : String → TimePoint)

/-- Every reading of the recovery lies between `lo` and `hi`. -/
structure RecoveryClock.Within (clock : RecoveryClock) (lo hi : Int) : Prop where
  snapshotTime : lo ≤ clock.snapshotTime.ns ∧ clock.snapshotTime.ns ≤ hi
  snapshotLine (i : Nat) : lo ≤ (clock.snapshotLine i).ns ∧ (clock.snapshotLine i).ns ≤ hi
  logLine (i : Nat) : lo ≤ (clock.logLine i).ns ∧ (clock.logLine i).ns ≤ hi

theorem RecoveryClock.constant_within {lo : Int} {now : TimePoint} (h : lo ≤ now.ns) :
    (constant now).Within lo now.ns :=
  ⟨⟨h, le_rfl⟩, fun _ => ⟨h, le_rfl⟩, fun _ => ⟨h, le_rfl⟩⟩

namespace Event

def now : Event → TimePoint
  | restart _ _ now => now
  | call _ now _ => now

/-- The event reads the clock no earlier than `t`: a call's readings for retention
follow its first one, and a recovery's readings lie between `t` and its `now`. -/
def ReadsFrom (t : Int) : Event → Prop
  | restart _ clock now => clock.Within t now.ns
  | call _ now pruneAt => t ≤ now.ns ∧ ∀ k, now.ns ≤ (pruneAt k).ns

/-- A restart keeps only the files; a call acts on the running engine. -/
def apply (kv : KVStore) : Event → KVStore
  | restart driver clock _ => driver.recover kv.wal clock
  | call c now pruneAt => c.run now pruneAt kv

theorem ReadsFrom.le_now {t : Int} {e : Event} (h : e.ReadsFrom t) : t ≤ e.now.ns := by
  cases e with
  | restart _ _ _ => exact h.snapshotTime.1.trans h.snapshotTime.2
  | call _ _ _ => exact h.1

end Event

/-- The states runs reach when every event satisfies `allowed`, with the last clock
reading. The first run recovers from empty files. -/
inductive Reachable (allowed : Event → Prop) : KVStore → Int → Prop
  | boot (driver : Driver) (clock : RecoveryClock) (now : TimePoint) (lo : Int) :
      allowed (.restart driver clock now) → clock.Within lo now.ns →
        Reachable allowed (driver.recover {} clock) now.ns
  | step {kv : KVStore} {t : Int} (e : Event) :
      Reachable allowed kv t → allowed e → e.ReadsFrom t → Reachable allowed (e.apply kv) e.now.ns

/-- An invariant of every reachable state, from the first recovery and one event. -/
theorem Reachable.invariant {allowed : Event → Prop} (Inv : KVStore → Int → Prop)
    (hboot : ∀ driver clock now lo, allowed (.restart driver clock now) → clock.Within lo now.ns →
      Inv (driver.recover {} clock) now.ns)
    (hstep : ∀ kv t e, Inv kv t → allowed e → e.ReadsFrom t → Inv (e.apply kv) e.now.ns)
    {kv : KVStore} {t : Int} (h : Reachable allowed kv t) : Inv kv t := by
  induction h with
  | boot driver clock now lo ha hc => exact hboot driver clock now lo ha hc
  | step e _ ha ht ih => exact hstep _ _ e ih ha ht

section Runs

variable {allowed : Event → Prop} {kv : KVStore} {t : Int}

theorem Reachable.start (d : Driver) (now : TimePoint) (ha : allowed (.restart d (.constant now) now)) :
    Reachable allowed (d.recover {} (.constant now)) now.ns :=
  .boot d _ now now.ns ha (RecoveryClock.constant_within le_rfl)

theorem Reachable.callAt (hr : Reachable allowed kv t) (c : Call) (r : Readings)
    (ha : allowed (.call c r.now r.pruneAt)) (ht : t ≤ r.now.ns) :
    Reachable allowed (c.run r.now r.pruneAt kv) r.now.ns :=
  .step (.call c r.now r.pruneAt) hr ha ⟨ht, r.now_le_pruneAt⟩

theorem Reachable.call (hr : Reachable allowed kv t) (c : Call) (now : TimePoint)
    (ha : allowed (.call c now fun _ => now)) (ht : t ≤ now.ns) :
    Reachable allowed (c.run now (fun _ => now) kv) now.ns :=
  hr.callAt c (.single now) ha ht

theorem Reachable.restart (hr : Reachable allowed kv t) (d : Driver) (now : TimePoint)
    (ha : allowed (.restart d (.constant now) now)) (ht : t ≤ now.ns) :
    Reachable allowed (d.recover kv.wal (.constant now)) now.ns :=
  .step (.restart d (.constant now) now) hr ha (RecoveryClock.constant_within ht)

end Runs

namespace Call

variable (now : TimePoint) (pruneAt : String → TimePoint) (kv : KVStore)

@[simp] theorem run_set (key value : String) :
    (set key value).run now pruneAt kv = kv.set key value now (pruneAt key) := rfl
@[simp] theorem run_del (key : String) : (del key).run now pruneAt kv = (kv.del key).2 := rfl
@[simp] theorem run_setRetentionPolicy (policy : RetentionPolicy) :
    (setRetentionPolicy policy).run now pruneAt kv = kv.setRetentionPolicy policy pruneAt := rfl
@[simp] theorem run_setDecisionPolicy (policy : DecisionPolicy) :
    (setDecisionPolicy policy).run now pruneAt kv = kv.setDecisionPolicy policy := rfl
@[simp] theorem run_postPolicy (policy : DecisionPolicy) :
    (postPolicy policy).run now pruneAt kv = HttpServer.postPolicy kv policy := rfl
@[simp] theorem run_snapshot : snapshot.run now pruneAt kv = RedisLikeCLI.handleSnapshot kv := rfl
@[simp] theorem run_addGuard (g : Guard) : (addGuard g).run now pruneAt kv = kv.addGuard g := rfl
@[simp] theorem run_removeGuard (name : String) :
    (removeGuard name).run now pruneAt kv = (kv.removeGuard name).2 := rfl

end Call

section
variable (kv : KVStore) (p : DecisionPolicy)

@[simp] theorem postPolicy_store : (HttpServer.postPolicy kv p).store = kv.store := rfl
@[simp] theorem postPolicy_walEnabled : (HttpServer.postPolicy kv p).walEnabled = kv.walEnabled := rfl
@[simp] theorem postPolicy_retentionPolicy :
    (HttpServer.postPolicy kv p).retentionPolicy = kv.retentionPolicy := rfl
@[simp] theorem postPolicy_decisionPolicy : (HttpServer.postPolicy kv p).decisionPolicy = p := rfl
@[simp] theorem postPolicy_wal : (HttpServer.postPolicy kv p).wal =
    ((kv.setDecisionPolicy p).wal).logPolicy p.name := rfl

@[simp] theorem handleSnapshot_store : (RedisLikeCLI.handleSnapshot kv).store = kv.store := rfl
@[simp] theorem handleSnapshot_walEnabled :
    (RedisLikeCLI.handleSnapshot kv).walEnabled = kv.walEnabled := rfl
@[simp] theorem handleSnapshot_retentionPolicy :
    (RedisLikeCLI.handleSnapshot kv).retentionPolicy = kv.retentionPolicy := rfl
@[simp] theorem handleSnapshot_decisionPolicy :
    (RedisLikeCLI.handleSnapshot kv).decisionPolicy = kv.decisionPolicy := rfl
@[simp] theorem handleSnapshot_wal : (RedisLikeCLI.handleSnapshot kv).wal =
    WAL.createSnapshot kv.getAllData kv.decisionPolicy.name := rfl

end

@[simp] theorem Event.apply_restart (kv : KVStore) (driver : Driver) (clock : RecoveryClock) (now : TimePoint) :
    (Event.restart driver clock now).apply kv = driver.recover kv.wal clock := rfl
@[simp] theorem Event.apply_call (kv : KVStore) (c : Call) (now : TimePoint) (pruneAt : String → TimePoint) :
    (Event.call c now pruneAt).apply kv = c.run now pruneAt kv := rfl

theorem Call.run_walEnabled (c : Call) (now : TimePoint) (pruneAt : String → TimePoint) (kv : KVStore) :
    (c.run now pruneAt kv).walEnabled = kv.walEnabled := by
  cases c <;> simp

/-- Logging is on in every reachable state. -/
theorem Reachable.walEnabled {allowed : Event → Prop} {kv : KVStore} {t : Int}
    (h : Reachable allowed kv t) : kv.walEnabled = true := by
  refine Reachable.invariant (fun kv _ => kv.walEnabled = true)
    (fun d clock _ _ _ _ => (d.recover_replaying {} clock).walEnabled) (fun kv t e hkv _ _ => ?_) h
  cases e with
  | restart d clock _ => exact (d.recover_replaying kv.wal clock).walEnabled
  | call c now pruneAt => exact (c.run_walEnabled now pruneAt kv).trans hkv

/-- Recovery replays with logging off, so restarts in a row end where the last one alone does. -/
theorem repeated_restarts_recover_once (kv : KVStore) (restarts : List (Driver × RecoveryClock × TimePoint))
    (d : Driver) (clock : RecoveryClock) (now : TimePoint) :
    (restarts ++ [(d, clock, now)]).foldl (fun kv r => (Event.restart r.1 r.2.1 r.2.2).apply kv) kv =
      d.recover kv.wal clock := by
  induction restarts generalizing kv with
  | nil => rfl
  | cons r restarts ih =>
    rw [List.cons_append, List.foldl_cons, ih, Event.apply_restart, (r.1.recover_replaying kv.wal r.2.1).wal]

/-! ### The files a run writes

Every call writes to the files what `Call.logged` says, as entries: the concrete WAL of
a running engine stays the encoding of its contents. -/

namespace WalContents

def append (c : WalContents) (e : LogEntry) : WalContents := ⟨c.snapshot, c.log ++ [e]⟩

variable (c : WalContents) (e : LogEntry)

theorem files_append : (c.append e).files = { c.files with log := c.files.log ++ [e.record] } := by
  simp [append, files]

theorem policy_append : (c.append e).policy = e.policy?.getD c.policy := by
  simp [append, policy, List.foldl_append]

theorem history_append (stamp : Nat → Int) (k : String) :
    (c.append e).history stamp k = e.replayHistory k (c.history stamp k) := by
  simp [append, history, List.foldl_append]

theorem Fields.append {P : String → Prop} {c : WalContents} (hc : c.Fields P) {e : LogEntry}
    (he : e.Fields P) : (c.append e).Fields P :=
  ⟨fun e' h => (List.mem_append.mp h).elim (hc.1 e') fun h => (List.mem_singleton.mp h) ▸ he, hc.2⟩

end WalContents

def StoreFields (P : String → Prop) (kv : KVStore) : Prop :=
  ∀ k vs, kv.store.lookup k = some vs → P k ∧ ∀ v ∈ vs, P v.value

theorem StoreFields.setAtTime {P : String → Prop} {kv : KVStore} (h : StoreFields P kv) {key value : String}
    (hk : P key) (hv : P value) (ts : Int) (now : TimePoint) :
    StoreFields P (kv.setAtTime key value ts now) := by
  intro k vs hvs
  rw [KVStore.setAtTime_lookup] at hvs
  split at hvs
  · cases hvs
    refine ⟨‹k = key› ▸ hk, fun v hv' => ?_⟩
    rcases List.mem_append.mp ((retain_suffix _ _ _).subset hv') with hv' | hv'
    · rw [Store.history] at hv'
      cases hl : kv.store.lookup key with
      | none => simp [hl] at hv'
      | some vs' => rw [hl] at hv'; exact (h key vs' hl).2 v hv'
    · simp only [List.mem_singleton] at hv'; exact hv' ▸ hv
  · exact h k vs hvs

theorem StoreFields.del {P : String → Prop} {kv : KVStore} (h : StoreFields P kv) (key : String) :
    StoreFields P (kv.del key).2 := by
  intro k vs hvs
  rw [KVStore.del_lookup] at hvs
  split at hvs
  · cases hvs
  · exact h k vs hvs

theorem StoreFields.setRetentionPolicy {P : String → Prop} {kv : KVStore} (h : StoreFields P kv)
    (policy : RetentionPolicy) (pruneAt : String → TimePoint) :
    StoreFields P (kv.setRetentionPolicy policy pruneAt) := by
  intro k vs hvs
  rw [KVStore.setRetentionPolicy_lookup, Option.map_eq_some'] at hvs
  obtain ⟨vs, hk, rfl⟩ := hvs
  exact ⟨(h k vs hk).1, fun v hv => (h k vs hk).2 v ((retain_suffix _ _ _).subset hv)⟩

theorem Call.run_storeFields {P : String → Prop} {kv : KVStore} (h : StoreFields P kv) {c : Call}
    (hc : c.Fields P) (now : TimePoint) (pruneAt : String → TimePoint) : StoreFields P (c.run now pruneAt kv) := by
  cases c with
  | set key value =>
    exact StoreFields.setAtTime (show StoreFields P { kv with wal := _ } from h) hc.1 hc.2 now.ns (pruneAt key)
  | del key => exact h.del key
  | setRetentionPolicy policy => exact h.setRetentionPolicy policy pruneAt
  | removeGuard name => simpa [StoreFields] using h
  | setDecisionPolicy _ | postPolicy _ | snapshot | addGuard _ => exact h

theorem replayStable_storeFields : ReplayStable (StoreFields NoNewline) where
  setAtTime _ _ _ _ _ _ hk hv h := h.setAtTime hk hv _ _
  del _ key _ h := h.del key
  setDecisionPolicy _ _ _ h := h
  setWalEnabled _ _ h := h

def Call.logged (now : TimePoint) (kv : KVStore) (c : WalContents) : Call → WalContents
  | .set key value => c.append (.set key value now)
  | .del key => if key ∈ kv.store then c.append (.del key) else c
  | .setDecisionPolicy policy => c.append (.policy policy)
  | .postPolicy policy => (c.append (.policy policy)).append (.policy policy)
  | .snapshot => ⟨some (kv.decisionPolicy, kv.getAllData), []⟩
  | .setRetentionPolicy _ | .addGuard _ | .removeGuard _ => c

section Logged

variable {kv : KVStore} {c : WalContents} (call : Call) (now : TimePoint) (pruneAt : String → TimePoint)

theorem Call.run_wal (hw : kv.walEnabled = true) (hc : kv.wal = c.files) :
    (call.run now pruneAt kv).wal = (call.logged now kv c).files := by
  cases call with
  | set key value => simp [Call.logged, WalContents.files_append, hw, hc, WAL.logSet, LogEntry.record]
  | del key =>
    by_cases hk : key ∈ kv.store <;>
      simp [Call.logged, KVStore.del_wal, WalContents.files_append, hw, hc, hk, WAL.logDel, LogEntry.record]
  | setDecisionPolicy _ | postPolicy _ =>
    simp [Call.logged, WalContents.files_append, hw, hc, WAL.logPolicy, LogEntry.record]
  | snapshot =>
    simp only [Call.run_snapshot, handleSnapshot_wal, Call.logged, WalContents.files]
    rw [← createSnapshot_snapshot]
    rfl
  | setRetentionPolicy _ | addGuard _ | removeGuard _ => simpa using hc

theorem Call.run_decisionPolicy (hp : kv.decisionPolicy = c.policy) :
    (call.run now pruneAt kv).decisionPolicy = (call.logged now kv c).policy := by
  cases call with
  | del key =>
    by_cases hk : key ∈ kv.store <;>
      simp [Call.logged, WalContents.policy_append, LogEntry.policy?, hk, hp]
  | snapshot => simp [Call.logged, WalContents.policy]
  | _ => simp [Call.logged, WalContents.policy_append, LogEntry.policy?, hp]

theorem Call.logged_fields {P : String → Prop} (hc : c.Fields P) (hcall : call.Fields P)
    (hstore : StoreFields P kv) : (call.logged now kv c).Fields P := by
  cases call with
  | set key value => exact hc.append hcall
  | del key =>
    simp only [Call.logged]
    split
    · exact hc.append hcall
    · exact hc
  | setDecisionPolicy p => exact hc.append (show (LogEntry.policy p).Fields P from trivial)
  | postPolicy p =>
    have hp : (LogEntry.policy p).Fields P := trivial
    exact (hc.append hp).append hp
  | snapshot =>
    refine ⟨fun e he => by simp [Call.logged] at he, fun s hs x hx => ?_⟩
    simp only [Call.logged, Option.mem_def, Option.some.injEq] at hs
    subst hs
    obtain ⟨vs, v, hvs, hv, hx2⟩ := Store.mem_getAllData.mp hx
    have := hstore x.1 vs hvs
    exact ⟨this.1, hx2 ▸ this.2 v (List.mem_of_getLast?_eq_some hv)⟩
  | setRetentionPolicy _ | addGuard _ | removeGuard _ => exact hc

end Logged

end SentinelDB
