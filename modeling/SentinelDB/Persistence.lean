import SentinelDB.Engine

/-!
# What a restart rebuilds

Without snapshots and under `FULL` retention the log holds every write, so a recovery
rebuilds every history, with each timestamp cut to the whole millisecond the log
records. With snapshots and any retention, `get` survives a restart for every key that
still has a version or is absent; a key whose versions time-based retention removed
comes back.
-/

namespace SentinelDB

set_option autoImplicit false

/-- A version as the log keeps it: its timestamp cut to whole milliseconds. -/
def Version.logged (v : Version) : Version := ⟨truncMillis v.timestamp, v.value⟩

@[simp] theorem Version.logged_logged (v : Version) : v.logged.logged = v.logged := by
  simp [Version.logged, truncMillis]

@[simp] theorem Version.logged_value (v : Version) : v.logged.value = v.value := rfl

/-- Calls that keep the log complete: no `SNAPSHOT`, and retention only set to `FULL`. -/
def Call.KeepsLog : Call → Prop
  | .snapshot => False
  | .setRetentionPolicy policy => policy.mode = .full
  | _ => True

instance : DecidablePred Call.KeepsLog := fun c =>
  match c with
  | .snapshot => inferInstanceAs (Decidable False)
  | .setRetentionPolicy _ => inferInstanceAs (Decidable (_ = _))
  | .set _ _ | .del _ | .setDecisionPolicy _ | .postPolicy _ | .addGuard _ | .removeGuard _ =>
    inferInstanceAs (Decidable True)

/-- Runs of word keys and values that never take a snapshot or prune. -/
def LogKeepingRun : Event → Prop
  | .call c _ _ => c.Fields IsToken ∧ c.KeepsLog
  | .restart _ _ _ => True

instance : DecidablePred LogKeepingRun := fun e =>
  match e with
  | .call c _ _ => inferInstanceAs (Decidable (c.Fields IsToken ∧ c.KeepsLog))
  | .restart _ _ _ => inferInstanceAs (Decidable True)

theorem Call.logged_snapshot_of_keepsLog {c : Call} (hc : c.KeepsLog) (now : TimePoint) (kv : KVStore)
    (w : WalContents) : (c.logged now kv w).snapshot = w.snapshot := by
  cases c with
  | snapshot => exact absurd hc id
  | del key => simp only [Call.logged]; split <;> rfl
  | _ => rfl

/-- The log mirrors the store: replaying it rebuilds every history, cut to milliseconds. -/
structure MirrorInv (kv : KVStore) : Prop where
  walEnabled : kv.walEnabled = true
  retention : kv.retentionPolicy.mode = .full
  store : StoreFields IsToken kv
  files : ∃ c : WalContents, c.snapshot = none ∧ kv.wal = c.files ∧ c.Fields IsToken ∧
    ∀ stamp k, c.history stamp k = (kv.store.lookup k).map (List.map Version.logged)

theorem retain_full {policy : RetentionPolicy} (h : policy.mode = .full) (now : Int) (vs : List Version) :
    retain policy now vs = vs := by
  simp [retain, h]

theorem mirrorInv_recover (d : Driver) {kv : KVStore} (h : MirrorInv kv) (clock : RecoveryClock) :
    MirrorInv (d.recover kv.wal clock) := by
  obtain ⟨c, hs, hw, hc, hh⟩ := h.files
  have hr := d.recover_replaying kv.wal clock
  have hl : ∀ k, (d.recover kv.wal clock).store.lookup k = (kv.store.lookup k).map (List.map Version.logged) :=
    fun k => by rw [hw, c.recover_lookup hc d clock k, hh]
  refine ⟨hr.walEnabled, by rw [hr.retentionPolicy], fun k vs hk => ?_, c, hs, hr.wal.trans hw, hc,
    fun stamp k => ?_⟩
  · rw [hl, Option.map_eq_some'] at hk
    obtain ⟨vs, hvs, rfl⟩ := hk
    refine ⟨(h.store k vs hvs).1, fun v hv => ?_⟩
    obtain ⟨w, hw, rfl⟩ := List.mem_map.mp hv
    exact (h.store k vs hvs).2 w hw
  · rw [hl, hh, Option.map_map]
    congr 1
    funext vs
    simp

theorem mirrorInv_call {kv : KVStore} (h : MirrorInv kv) {call : Call} (hf : call.Fields IsToken)
    (hk : call.KeepsLog) (now : TimePoint) (pruneAt : String → TimePoint) : MirrorInv (call.run now pruneAt kv) := by
  obtain ⟨c, hs, hw, hc, hh⟩ := h.files
  refine ⟨(call.run_walEnabled now pruneAt kv).trans h.walEnabled, ?_, Call.run_storeFields h.store hf now pruneAt,
    call.logged now kv c, (Call.logged_snapshot_of_keepsLog hk now kv c).trans hs,
    call.run_wal now pruneAt h.walEnabled hw, call.logged_fields now hc hf h.store, fun stamp k => ?_⟩
  · cases call <;> simp [h.retention]
    exact hk
  · cases call with
    | set key value =>
      rw [Call.logged, WalContents.history_append, hh, Call.run_set, KVStore.set_lookup,
        retain_full h.retention]
      simp only [LogEntry.replayHistory, appendHistory, Store.history]
      split
      · subst k; cases kv.store.lookup key <;> simp [Version.logged]
      · rfl
    | del key =>
      rw [Call.run_del, KVStore.del_lookup]
      by_cases hkey : key ∈ kv.store
      · rw [Call.logged, if_pos hkey, WalContents.history_append, hh]
        simp only [LogEntry.replayHistory]
        split <;> rfl
      · rw [Call.logged, if_neg hkey, hh]
        split
        · subst k; rw [AList.lookup_eq_none.mpr hkey]
        · rfl
    | setRetentionPolicy policy =>
      rw [Call.logged, hh, Call.run_setRetentionPolicy, KVStore.setRetentionPolicy_lookup]
      congr 1
      cases kv.store.lookup k <;> simp [retain_full hk]
    | setDecisionPolicy p => rw [Call.logged, WalContents.history_append, hh]; rfl
    | postPolicy p => rw [Call.logged, WalContents.history_append, WalContents.history_append, hh]; rfl
    | snapshot => exact absurd hk id
    | addGuard g => rw [Call.logged, hh]; rfl
    | removeGuard name => rw [Call.logged, hh, Call.run_removeGuard, KVStore.removeGuard_store]

theorem Reachable.mirrorInv {kv : KVStore} {t : Int} (hr : Reachable LogKeepingRun kv t) : MirrorInv kv := by
  refine Reachable.invariant (fun kv _ => MirrorInv kv) (fun d clock _ _ _ _ => ?_)
    (fun kv _ e h he _ => ?_) hr
  · have h0 : MirrorInv { wal := {} } :=
      ⟨rfl, rfl, fun k vs h => by simp at h, ⟨none, []⟩, rfl, rfl, ⟨by simp, by simp⟩,
        fun stamp k => by simp [WalContents.history, loadHistory]⟩
    exact mirrorInv_recover d h0 clock
  · cases e with
    | restart d clock _ => exact mirrorInv_recover d h clock
    | call c now pruneAt => exact mirrorInv_call h he.1 he.2 now pruneAt

/-- Without `SNAPSHOT` or pruning a restart rebuilds every history cut to milliseconds, so
`getAtTime` at a whole millisecond changes only where a version lies inside the next one. -/
theorem restart_rebuilds_histories {kv : KVStore} {t : Int} (hr : Reachable LogKeepingRun kv t)
    (d : Driver) (clock : RecoveryClock) :
    (∀ k, (d.recover kv.wal clock).store.lookup k = (kv.store.lookup k).map (List.map Version.logged)) ∧
    ∀ k T, T % 1000000 = 0 →
      (∀ v ∈ kv.store.history k, ¬ (T < v.timestamp ∧ v.timestamp < T + 1000000)) →
      (d.recover kv.wal clock).getAtTime k T = kv.getAtTime k T := by
  obtain ⟨c, -, hw, hc, hh⟩ := hr.mirrorInv.files
  have hl : ∀ k, (d.recover kv.wal clock).store.lookup k =
      (kv.store.lookup k).map (List.map Version.logged) := fun k => by
    rw [hw, c.recover_lookup hc d clock k, hh]
  refine ⟨hl, fun k T hT hout => ?_⟩
  unfold KVStore.getAtTime
  rw [hl k]
  rcases hk : kv.store.lookup k with _ | _ | ⟨v, vs⟩
  · rfl
  · rfl
  · show scanAtTime T ((v :: vs).map fun w => ⟨truncMillis w.timestamp, w.value⟩) none = _
    exact scanAtTime_congr truncMillis
      (fun w hw => truncMillis_le_iff hT (hout w (by simpa [Store.history, hk] using hw))) none

/-- A write at 2.5 s, a server restart, two writes and a delete, then a CLI restart. -/
theorem restart_rebuilds_histories_after_writes :
    let t : Nat → TimePoint := fun i => ⟨500000000 * (i % 20 : Nat), by omega, by omega⟩
    let kv := (((Driver.http.recover ((Driver.cli.recover {} (.constant (t 1))).set "a" "1" (t 5) (t 5)).wal
      (.constant (t 6))).set "b" "2" (t 7) (t 7)).set "a" "3" (t 8) (t 8)).del "b" |>.2
    Reachable LogKeepingRun kv (t 8).ns ∧
    (∀ k, (Driver.cli.recover kv.wal (.constant (t 9))).store.lookup k =
      (kv.store.lookup k).map (List.map Version.logged)) ∧
    ∀ k T, T % 1000000 = 0 →
      (∀ v ∈ kv.store.history k, ¬ (T < v.timestamp ∧ v.timestamp < T + 1000000)) →
      (Driver.cli.recover kv.wal (.constant (t 9))).getAtTime k T = kv.getAtTime k T := by
  intro t kv
  have hr : Reachable LogKeepingRun kv (t 8).ns :=
    (((((Reachable.start .cli (t 1) trivial).call (.set "a" "1") (t 5) (by decide) (by simp [t])).restart .http
      (t 6) trivial (by simp [t])).call (.set "b" "2") (t 7) (by decide) (by simp [t])).call (.set "a" "3") (t 8)
      (by decide) (by simp [t])).call (.del "b") (t 8) (by decide) le_rfl
  exact ⟨hr, restart_rebuilds_histories hr .cli _⟩

/-- A write at 1.5 ms is logged as 1 ms: after a restart `getAtTime` at 1 ms sees it,
where before the restart it did not. -/
theorem sub_millisecond_write_moves_back :
    ∃ kv t, Reachable LogKeepingRun kv t ∧ kv.getAtTime "k" 1000000 = none ∧
      (Driver.cli.recover kv.wal (.constant ⟨2000000, by decide, by decide⟩)).getAtTime "k" 1000000 = some "v" :=
  ⟨_, _, (Reachable.start .cli ⟨0, by decide, by decide⟩ trivial).call (.set "k" "v")
    ⟨1500000, by decide, by decide⟩ (by decide) (by decide), by decide, by decide⟩

/-! ### `get` across a restart -/

/-- The value `get` reads from a history. -/
def latestValue (h : Option (List Version)) : Option String :=
  h.bind fun vs => vs.getLast?.map Version.value

theorem KVStore.get_eq_latestValue (kv : KVStore) (k : String) :
    kv.get k = latestValue (kv.store.lookup k) := rfl

def LogEntry.valueOf (k : String) (o : Option String) : LogEntry → Option String
  | .set key value _ => if k = key then some value else o
  | .del key => if k = key then none else o
  | .policy _ => o

/-- The value a recovery gives `k`: the last write, the snapshot's value, or none. -/
def WalContents.value (c : WalContents) (k : String) : Option String :=
  c.log.foldl (LogEntry.valueOf k)
    (((c.snapshot.map Prod.snd).getD []).foldl (fun o x => if k = x.1 then some x.2 else o) none)

theorem latestValue_appendHistory (k key : String) (v : Version) (h : Option (List Version)) :
    latestValue (appendHistory k key v h) = if k = key then some v.value else latestValue h := by
  unfold appendHistory
  split <;> simp [latestValue]

theorem latestValue_replayHistory (k : String) (h : Option (List Version)) (e : LogEntry) :
    latestValue (e.replayHistory k h) = e.valueOf k (latestValue h) := by
  cases e with
  | set key value t => exact latestValue_appendHistory k key _ h
  | del key => simp only [LogEntry.replayHistory, LogEntry.valueOf]; split <;> rfl
  | policy p => rfl

theorem latestValue_loadHistory (k : String) (data : List (String × String)) :
    ∀ (stamp : Nat → Int) (h : Option (List Version)), latestValue (loadHistory k data stamp h) =
      data.foldl (fun o x => if k = x.1 then some x.2 else o) (latestValue h) := by
  induction data with
  | nil => exact fun _ _ => rfl
  | cons x data ih => intro stamp h; rw [loadHistory, ih, latestValue_appendHistory]; rfl

theorem WalContents.latestValue_history (c : WalContents) (stamp : Nat → Int) (k : String) :
    latestValue (c.history stamp k) = c.value k := by
  have hlog : ∀ (es : List LogEntry) h, latestValue (es.foldl (LogEntry.replayHistory k) h) =
      es.foldl (LogEntry.valueOf k) (latestValue h) := by
    intro es
    induction es with
    | nil => exact fun _ => rfl
    | cons e es ih => intro h; rw [List.foldl_cons, ih, latestValue_replayHistory]; rfl
  rw [history, hlog, latestValue_loadHistory]
  rfl

theorem getAllData_value (s : Store) (k : String) :
    s.getAllData.foldl (fun o x => if k = x.1 then some x.2 else o) none = latestValue (s.lookup k) := by
  suffices h : ∀ (l : List (Sigma fun _ : String => List Version)) (o : Option String), l.NodupKeys →
      (l.filterMap fun e => e.2.getLast?.map fun v => (e.1, v.value)).foldl
        (fun o x => if k = x.1 then some x.2 else o) o = (latestValue (l.dlookup k)).or o from
    (h s.entries none s.nodupKeys).trans Option.or_none
  intro l
  induction l with
  | nil => intro o _; rfl
  | cons e l ih =>
    obtain ⟨k', vs⟩ := e
    intro o hl
    obtain ⟨hk', hnd⟩ := List.nodupKeys_cons.mp hl
    by_cases hk : k = k'
    · subst hk
      rw [List.dlookup_cons_eq]
      cases hv : vs.getLast? with
      | none => simp [hv, ih o hnd, List.dlookup_eq_none.mpr hk', latestValue]
      | some v => simp [hv, ih _ hnd, List.dlookup_eq_none.mpr hk', latestValue]
    · rw [List.dlookup_cons_ne _ _ hk]
      cases hv : vs.getLast? with
      | none => simp [hv, ih o hnd]
      | some v => simp [hv, hk, ih o hnd]

theorem WalContents.value_append (c : WalContents) (e : LogEntry) (k : String) :
    (c.append e).value k = e.valueOf k (c.value k) := by
  simp [append, value, List.foldl_append]

def HistoryFields (P : String → Prop) (k : String) (h : Option (List Version)) : Prop :=
  ∀ vs, h = some vs → P k ∧ ∀ v ∈ vs, P v.value

theorem HistoryFields.append {P : String → Prop} {k : String} {h : Option (List Version)}
    (hh : HistoryFields P k h) {key : String} {v : Version} (hk : P key) (hv : P v.value) :
    HistoryFields P k (appendHistory k key v h) := by
  intro vs hvs
  unfold appendHistory at hvs
  split at hvs
  · cases hvs
    refine ⟨‹k = key› ▸ hk, fun w hw => ?_⟩
    rcases List.mem_append.mp hw with hw | hw
    · cases hh' : h with
      | none => simp [hh'] at hw
      | some ws => rw [hh'] at hw; exact (hh ws hh').2 w hw
    · rw [List.mem_singleton.mp hw]; exact hv
  · exact hh vs hvs

theorem WalContents.history_fields {P : String → Prop} {c : WalContents} (hc : c.Fields P)
    (stamp : Nat → Int) (k : String) : HistoryFields P k (c.history stamp k) := by
  have hlog : ∀ es : List LogEntry, (∀ e ∈ es, e.Fields P) → ∀ h, HistoryFields P k h →
      HistoryFields P k (es.foldl (LogEntry.replayHistory k) h) := by
    intro es hes
    induction es with
    | nil => exact fun _ h => h
    | cons e es ih =>
      intro h hh
      refine ih (fun e' he' => hes e' (List.mem_cons_of_mem e he')) _ ?_
      have he := hes e (List.mem_cons_self e es)
      cases e with
      | set key value t => exact hh.append he.1 he.2
      | del key =>
        simp only [LogEntry.replayHistory]
        split
        · exact fun _ h => by cases h
        · exact hh
      | policy p => exact hh
  have hsnap : ∀ data : List (String × String), (∀ x ∈ data, P x.1 ∧ P x.2) → ∀ stamp h,
      HistoryFields P k h → HistoryFields P k (loadHistory k data stamp h) := by
    intro data hdata
    induction data with
    | nil => exact fun _ _ h => h
    | cons x data ih =>
      intro stamp h hh
      exact ih (fun y hy => hdata y (List.mem_cons_of_mem x hy)) _ _
        (hh.append (hdata x (List.mem_cons_self x data)).1 (hdata x (List.mem_cons_self x data)).2)
  refine hlog c.log hc.1 _ (hsnap _ ?_ stamp none fun _ h => by cases h)
  cases hs : c.snapshot with
  | none => simp
  | some s => exact hc.2 s hs

/-- `get` agrees with the files on every key that has a version or is absent. -/
structure GetInv (kv : KVStore) : Prop where
  walEnabled : kv.walEnabled = true
  store : StoreFields IsToken kv
  files : ∃ c : WalContents, kv.wal = c.files ∧ c.Fields IsToken ∧
    ∀ k, kv.store.lookup k ≠ some [] → kv.get k = c.value k

theorem getInv_recover (d : Driver) {c : WalContents} (hc : c.Fields IsToken) (clock : RecoveryClock) :
    GetInv (d.recover c.files clock) := by
  have hr := d.recover_replaying c.files clock
  have hl := c.recover_lookup hc d clock
  refine ⟨hr.walEnabled, fun k vs hk => c.history_fields hc _ k vs ((hl k).symm.trans hk),
    c, hr.wal, hc, fun k _ => ?_⟩
  rw [KVStore.get_eq_latestValue, hl, c.latestValue_history]

theorem retain_getLast? {policy : RetentionPolicy} {now : Int} {vs : List Version}
    (h : retain policy now vs ≠ []) : (retain policy now vs).getLast? = vs.getLast? := by
  have hs := retain_suffix policy now vs
  rw [List.getLast?_eq_getLast _ h, List.getLast?_eq_getLast _ (hs.ne_nil h), hs.getLast h]

theorem getInv_call {kv : KVStore} (h : GetInv kv) {call : Call} (hf : call.Fields IsToken)
    (now : TimePoint) (pruneAt : String → TimePoint) : GetInv (call.run now pruneAt kv) := by
  obtain ⟨c, hw, hc, hv⟩ := h.files
  refine ⟨(call.run_walEnabled now pruneAt kv).trans h.walEnabled, Call.run_storeFields h.store hf now pruneAt,
    call.logged now kv c, call.run_wal now pruneAt h.walEnabled hw, call.logged_fields now hc hf h.store,
    fun k hk => ?_⟩
  cases call with
  | set key value =>
    rw [Call.run_set, KVStore.set_lookup] at hk
    rw [Call.logged, WalContents.value_append, KVStore.get_eq_latestValue, Call.run_set,
      KVStore.set_lookup]
    simp only [LogEntry.valueOf]
    by_cases hkk : k = key
    · rw [if_pos hkk] at hk
      rw [if_pos hkk, if_pos hkk, latestValue, Option.some_bind, retain_getLast? fun h0 => hk (by rw [h0]),
        List.getLast?_concat]
      rfl
    · rw [if_neg hkk] at hk ⊢
      rw [if_neg hkk]
      exact hv k hk
  | del key =>
    rw [Call.run_del, KVStore.del_lookup] at hk
    rw [KVStore.get_eq_latestValue, Call.run_del, KVStore.del_lookup]
    by_cases hkk : k = key
    · subst hkk
      rw [if_pos rfl]
      by_cases hkey : k ∈ kv.store
      · rw [Call.logged, if_pos hkey, WalContents.value_append]
        simp [LogEntry.valueOf, latestValue]
      · rw [Call.logged, if_neg hkey, ← hv k (by rw [AList.lookup_eq_none.mpr hkey]; simp),
          KVStore.get_eq_latestValue, AList.lookup_eq_none.mpr hkey]
    · rw [if_neg hkk] at hk ⊢
      simp only [Call.logged]
      split
      · rw [WalContents.value_append]
        simp only [LogEntry.valueOf, if_neg hkk]
        exact hv k hk
      · exact hv k hk
  | setRetentionPolicy policy =>
    rw [Call.logged, ← hv k ?_]
    · rw [KVStore.get_eq_latestValue, KVStore.get_eq_latestValue, Call.run_setRetentionPolicy,
        KVStore.setRetentionPolicy_lookup] at *
      cases hl : kv.store.lookup k with
      | none => rfl
      | some vs =>
        rw [hl] at hk
        simp only [Option.map_some', latestValue, Option.some_bind] at hk ⊢
        rw [retain_getLast? fun h0 => hk (by rw [h0])]
    · intro h0
      rw [Call.run_setRetentionPolicy, KVStore.setRetentionPolicy_lookup, h0] at hk
      exact hk (by simp)
  | setDecisionPolicy p => rw [Call.logged, WalContents.value_append]; exact hv k hk
  | postPolicy p =>
    rw [Call.logged, WalContents.value_append, WalContents.value_append]; exact hv k hk
  | snapshot =>
    rw [Call.run_snapshot, KVStore.get_eq_latestValue, handleSnapshot_store, Call.logged,
      WalContents.value, ← getAllData_value]
    rfl
  | addGuard g => exact hv k hk
  | removeGuard name =>
    rw [Call.run_removeGuard, KVStore.get_eq_latestValue, KVStore.removeGuard_store] at *
    exact hv k hk

/-- Runs whose keys and values are words, as the CLI tokenizer yields them. -/
def WordRun : Event → Prop
  | .call c _ _ => c.Fields IsToken
  | .restart _ _ _ => True

instance : DecidablePred WordRun := fun e =>
  match e with
  | .call c _ _ => inferInstanceAs (Decidable (c.Fields IsToken))
  | .restart _ _ _ => inferInstanceAs (Decidable True)

theorem Reachable.getInv {kv : KVStore} {t : Int} (hr : Reachable WordRun kv t) : GetInv kv :=
  Reachable.invariant (fun kv _ => GetInv kv)
    (fun d clock _ _ _ _ =>
      getInv_recover d (show WalContents.Fields IsToken ⟨none, []⟩ from ⟨by simp, by simp⟩) clock)
    (fun kv _ e h he _ => by
      cases e with
      | restart d clock _ =>
        obtain ⟨c, hw, hc, -⟩ := h.files
        rw [Event.apply_restart, hw]
        exact getInv_recover d hc clock
      | call c now pruneAt => exact getInv_call h he now pruneAt) hr

/-- With word keys and values a restart by either main keeps `get` of every key that has a
version or is absent. -/
theorem restart_preserves_get {kv : KVStore} {t : Int} (hr : Reachable WordRun kv t) (d : Driver)
    (clock : RecoveryClock) {k : String} (hk : kv.store.lookup k ≠ some []) :
    (d.recover kv.wal clock).get k = kv.get k := by
  obtain ⟨c, hw, hc, hv⟩ := hr.getInv.files
  rw [hv k hk, hw, KVStore.get_eq_latestValue, c.recover_lookup hc d clock k, c.latestValue_history]

/-- Two writes to `k`, `SNAPSHOT`, a write to `j` and `LAST 1`, then the server
restarts: `k` keeps the value the snapshot holds. -/
theorem restart_preserves_get_after_snapshot :
    let t : Nat → TimePoint := fun i => ⟨1000000000 * (i % 10 : Nat), by omega, by omega⟩
    let kv := Driver.http.recover ((RedisLikeCLI.handleSnapshot
      (((Driver.cli.recover {} (.constant (t 1))).set "k" "a" (t 2) (t 2)).set "k" "b" (t 3) (t 3))).set
      "j" "c" (t 4) (t 4) |>.setRetentionPolicy ⟨.lastN, 1, 0⟩ (fun _ => t 5)).wal (.constant (t 6))
    Reachable WordRun kv (t 6).ns ∧ kv.store.lookup "k" ≠ some [] ∧
    (Driver.cli.recover kv.wal (.constant (t 7))).get "k" = kv.get "k" := by
  intro t kv
  have hr : Reachable WordRun kv (t 6).ns :=
    (((((Reachable.start .cli (t 1) trivial).call (.set "k" "a") (t 2) (by decide) (by simp [t])).call
      (.set "k" "b") (t 3) (by decide) (by simp [t])).call .snapshot (t 3) trivial le_rfl).call (.set "j" "c")
      (t 4) (by decide) (by simp [t])).call (.setRetentionPolicy ⟨.lastN, 1, 0⟩) (t 5) trivial
      (by simp [t]) |>.restart .http (t 6) trivial (by simp [t])
  have hk : kv.store.lookup "k" ≠ some [] := by decide
  exact ⟨hr, hk, restart_preserves_get hr .cli _ hk⟩

/-- `LAST 1s` two seconds after the only write empties the key's history, so `get`
finds nothing; the `SET` record stays in the log, and the restart brings the value back. -/
theorem pruned_key_returns_after_restart :
    ∃ kv t, Reachable WordRun kv t ∧ kv.get "k" = none ∧
      (Driver.cli.recover kv.wal (.constant ⟨3000000000, by decide, by decide⟩)).get "k" = some "v" :=
  ⟨_, _, ((Reachable.start .cli ⟨0, by decide, by decide⟩ trivial).call (.set "k" "v") ⟨0, by decide, by decide⟩
    (by decide) le_rfl).call (.setRetentionPolicy ⟨.lastT, 0, 1⟩) ⟨2000000000, by decide, by decide⟩ trivial
    (by decide), by decide, by decide⟩

end SentinelDB
