import SentinelDB.Ordering

/-!
# No version after the clock

A version is stamped with the clock reading of its `set`, with a reading the recovery
takes when it loads the value from the snapshot, or with its logged reading cut to whole
milliseconds when it is replayed from the log. The cut truncates toward zero, which moves
a reading after the epoch back.

Over runs of word keys and values whose clock starts after the epoch every version is at
or before the last clock reading, through every call, `SNAPSHOT` and retention change
included, and every restart (`versions_not_after_clock`); so `getAtTime` at that reading
or later is `get`, and right after `set(k, v)` both return `v`, unless `applyRetention`
reads the clock more than `s` seconds after the write under `LAST s`. A value with a
blank, which `POST /set` accepts, is replayed as a shorter value and a timestamp of its
own, which can lie in the future (`spaced_value_and_stall_escape_clock`).
-/

namespace SentinelDB

set_option autoImplicit false

/-- Runs with word keys and values whose clock starts after the epoch. -/
def ClockRun : Event → Prop
  | .call c _ _ => c.Fields IsToken
  | .restart _ _ now => 0 ≤ now.ns

instance : DecidablePred ClockRun := fun e =>
  match e with
  | .call c _ _ => inferInstanceAs (Decidable (c.Fields IsToken))
  | .restart _ _ now => inferInstanceAs (Decidable (0 ≤ now.ns))

/-- Runs whose clock starts after the epoch, with any keys and values. -/
def AfterEpoch (e : Event) : Prop := 0 ≤ e.now.ns

instance : DecidablePred AfterEpoch := fun e => inferInstanceAs (Decidable (0 ≤ e.now.ns))

def NotAfter (t : Int) (kv : KVStore) : Prop := ∀ k, ∀ v ∈ kv.store.history k, v.timestamp ≤ t

def LogBounded (t : Int) (log : List LogEntry) : Prop := ∀ e ∈ log, ∀ s ∈ e.time?, 0 ≤ s ∧ s ≤ t

/-! ### Lookups below the clock -/

theorem scanAtTime_of_le {T : Int} {vs : List Version} (h : ∀ v ∈ vs, v.timestamp ≤ T) (result : Option String) :
    scanAtTime T vs result = (vs.getLast?.map Version.value).or result := by
  induction vs generalizing result with
  | nil => rfl
  | cons v vs ih =>
    rw [scanAtTime, if_pos (h v (List.mem_cons_self v vs)), ih fun w hw => h w (List.mem_cons_of_mem v hw),
      List.getLast?_cons]
    cases vs.getLast? <;> rfl

theorem KVStore.getAtTime_eq_get {kv : KVStore} {k : String} {T : Int}
    (h : ∀ v ∈ kv.store.history k, v.timestamp ≤ T) : kv.getAtTime k T = kv.get k := by
  unfold KVStore.getAtTime KVStore.get
  rw [Store.history] at h
  rcases hl : kv.store.lookup k with _ | _ | ⟨v, vs⟩
  · rfl
  · rfl
  · rw [hl, Option.getD_some] at h
    show scanAtTime T (v :: vs) none = (v :: vs).getLast?.map Version.value
    rw [scanAtTime_of_le h, Option.or_none]

/-! ### Calls -/

theorem NotAfter.mono {t u : Int} {kv : KVStore} (h : NotAfter t kv) (htu : t ≤ u) : NotAfter u kv :=
  fun k v hv => (h k v hv).trans htu

theorem LogBounded.mono {t u : Int} {log : List LogEntry} (h : LogBounded t log) (htu : t ≤ u) :
    LogBounded u log :=
  fun e he s hs => ⟨(h e he s hs).1, (h e he s hs).2.trans htu⟩

theorem Call.run_notAfter {kv : KVStore} {t : Int} (h : NotAfter t kv) (call : Call) {now : TimePoint}
    (pruneAt : String → TimePoint) (ht : t ≤ now.ns) : NotAfter now.ns (call.run now pruneAt kv) := by
  cases call with
  | set key value =>
    intro k v hv
    rw [Call.run_set, KVStore.set_history] at hv
    split at hv
    · rcases List.mem_append.mp ((retain_suffix _ _ _).subset hv) with hv | hv
      · exact (h key v hv).trans ht
      · rw [List.mem_singleton.mp hv]
    · exact (h k v hv).trans ht
  | del key =>
    intro k v hv
    rw [Call.run_del, Store.history, KVStore.del_lookup] at hv
    split at hv
    · cases hv
    · exact (h k v hv).trans ht
  | setRetentionPolicy policy =>
    intro k v hv
    rw [Call.run_setRetentionPolicy, KVStore.setRetentionPolicy_history] at hv
    exact (h k v ((retain_suffix _ _ _).subset hv)).trans ht
  | removeGuard name =>
    rw [Call.run_removeGuard]
    exact fun k v hv => (h k v (by rwa [KVStore.removeGuard_store] at hv)).trans ht
  | setDecisionPolicy _ | postPolicy _ | snapshot | addGuard _ => exact h.mono ht

theorem Call.logged_bounded {t : Int} {c : WalContents} (hlog : LogBounded t c.log) (h0 : 0 ≤ t) {call : Call}
    (hf : call.Fields IsToken) {now : TimePoint} (ht : t ≤ now.ns) (kv : KVStore) :
    LogBounded now.ns (call.logged now kv c).log := by
  cases hs : call.isSnapshot
  · obtain ⟨snapshot, log⟩ := c
    obtain ⟨es, hes, hnew⟩ := Call.logged_append hf hs now kv snapshot log
    rw [hes]
    intro e he s hs
    rcases List.mem_append.mp he with he | he
    · exact hlog.mono ht e he s hs
    · rw [(hnew e he).2 s hs]
      exact ⟨h0.trans ht, le_rfl⟩
  · cases call <;> simp only [Call.isSnapshot, reduceCtorEq] at hs
    intro e he
    cases he

/-! ### Recovery -/

theorem loadHistory_le (k : String) {u : Int} (xs : List (String × String)) :
    ∀ (stamp : Nat → Int), (∀ i, stamp i ≤ u) → ∀ h : Option (List Version), (∀ v ∈ h.getD [], v.timestamp ≤ u) →
      ∀ v ∈ (loadHistory k xs stamp h).getD [], v.timestamp ≤ u := by
  induction xs with
  | nil => exact fun _ _ _ hh => hh
  | cons x xs ih =>
    refine fun stamp hs h hh => ih _ (fun i => hs (i + 1)) _ fun v hv => ?_
    dsimp only [appendHistory] at hv
    split at hv
    · rcases List.mem_append.mp hv with hv | hv
      · exact hh v hv
      · rw [List.mem_singleton.mp hv]; exact hs 0
    · exact hh v hv

theorem Driver.snapshotStamp_le (d : Driver) {clock : RecoveryClock} {lo hi : Int} (h : clock.Within lo hi)
    (i : Nat) : d.snapshotStamp clock i ≤ hi := by
  cases d with
  | cli => exact h.snapshotTime.2
  | http => exact (h.snapshotLine (i + 1)).2

theorem recover_notAfter (d : Driver) {c : WalContents} (hc : c.Fields IsToken) {t : Int}
    (hlog : LogBounded t c.log) {clock : RecoveryClock} {lo : Int} {now : TimePoint} (hclock : clock.Within lo now.ns)
    (ht : t ≤ now.ns) : NotAfter now.ns (d.recover c.files clock) := by
  intro k v hv
  rw [Store.history, WalContents.recover_lookup hc d clock k] at hv
  rcases List.mem_append.mp ((foldl_replayHistory_sublist k c.log _).subset hv) with hv | hv
  · exact loadHistory_le k _ _ (d.snapshotStamp_le hclock) none (fun v hv => nomatch hv) v hv
  · obtain ⟨e, he, hve⟩ := List.mem_filterMap.mp hv
    obtain ⟨s, hs, hvs⟩ := LogEntry.timestamp_of_versionOf hve
    rw [hvs]
    exact (truncMillis_le (hlog e he s hs).1).trans ((hlog.mono ht e he s hs).2)

/-! ### Every reachable state -/

/-- The files are the engine's encoding of word writes at readings up to `t`, which is
not before the epoch, and no version is after `t`. -/
structure ClockInv (kv : KVStore) (t : Int) : Prop where
  walEnabled : kv.walEnabled = true
  clock : 0 ≤ t
  store : StoreFields IsToken kv
  files : ∃ c : WalContents, kv.wal = c.files ∧ c.Fields IsToken ∧ LogBounded t c.log
  notAfter : NotAfter t kv

theorem clockInv_recover (d : Driver) {c : WalContents} (hc : c.Fields IsToken) {t : Int}
    (hlog : LogBounded t c.log) (h0 : 0 ≤ t) {clock : RecoveryClock} {lo : Int} {now : TimePoint}
    (hclock : clock.Within lo now.ns) (ht : t ≤ now.ns) : ClockInv (d.recover c.files clock) now.ns := by
  have hr := d.recover_replaying c.files clock
  have hl := c.recover_lookup hc d clock
  exact ⟨hr.walEnabled, h0.trans ht, fun k vs hk => c.history_fields hc _ k vs ((hl k).symm.trans hk),
    ⟨c, hr.wal, hc, hlog.mono ht⟩,
    recover_notAfter d hc hlog hclock ht⟩

theorem clockInv_call {kv : KVStore} {t : Int} (h : ClockInv kv t) {call : Call} (hf : call.Fields IsToken)
    {now : TimePoint} (pruneAt : String → TimePoint) (ht : t ≤ now.ns) : ClockInv (call.run now pruneAt kv) now.ns := by
  obtain ⟨c, hw, hc, hlog⟩ := h.files
  exact ⟨(call.run_walEnabled now pruneAt kv).trans h.walEnabled, h.clock.trans ht,
    Call.run_storeFields h.store hf now pruneAt,
    ⟨call.logged now kv c, call.run_wal now pruneAt h.walEnabled hw, call.logged_fields now hc hf h.store,
      Call.logged_bounded hlog h.clock hf ht kv⟩, Call.run_notAfter h.notAfter call pruneAt ht⟩

theorem Reachable.clockInv {kv : KVStore} {t : Int} (hr : Reachable ClockRun kv t) : ClockInv kv t :=
  Reachable.invariant ClockInv
    (fun d _ now _ h0 hclock => clockInv_recover d
      (show WalContents.Fields IsToken ⟨none, []⟩ from ⟨by simp, by simp⟩) (fun e he => nomatch he) h0 hclock le_rfl)
    (fun kv t e h he ht => by
      cases e with
      | restart d clock now =>
        obtain ⟨c, hw, hc, hlog⟩ := h.files
        rw [Event.apply_restart, hw]
        exact clockInv_recover d hc hlog h.clock ht ht.le_now
      | call c now pruneAt => exact clockInv_call h he pruneAt ht.1) hr

/-- The value `set` writes is the last version of its key, unless `LAST s` prunes at a
reading more than `s` seconds after the write. -/
theorem KVStore.get_set (kv : KVStore) (key value : String) (now pruneAt : TimePoint)
    (hstall : kv.retentionPolicy.mode = .lastT → 0 < kv.retentionPolicy.seconds →
      cutoff pruneAt.ns kv.retentionPolicy.seconds ≤ now.ns) :
    (kv.set key value now pruneAt).get key = some value := by
  have hlast := getLast?_retain (List.getLast?_concat (kv.store.history key) : _ = some ⟨now.ns, value⟩) hstall
  rw [KVStore.get_eq_latestValue, KVStore.set_lookup, if_pos rfl, latestValue, Option.some_bind, hlast]
  rfl

/-- No version is later than the last clock reading, so `getAtTime` from then on reads `get`,
and right after `set(k, v)` both read `v` unless retention prunes over `s` seconds later. -/
theorem versions_not_after_clock {kv : KVStore} {t : Int} (hr : Reachable ClockRun kv t) :
    (∀ k, ∀ v ∈ kv.store.history k, v.timestamp ≤ t) ∧
    (∀ (k : String) (T : Int), t ≤ T → kv.getAtTime k T = kv.get k) ∧
    ∀ (key value : String) (now pruneAt : TimePoint), t ≤ now.ns →
      (kv.retentionPolicy.mode = .lastT → 0 < kv.retentionPolicy.seconds →
        cutoff pruneAt.ns kv.retentionPolicy.seconds ≤ now.ns) →
      (kv.set key value now pruneAt).getAtTime key now.ns = some value ∧
        (kv.set key value now pruneAt).get key = some value := by
  have h := hr.clockInv.notAfter
  refine ⟨h, fun k T hT => KVStore.getAtTime_eq_get fun v hv => (h k v hv).trans hT,
    fun key value now pruneAt ht hstall => ?_⟩
  have hset := Call.run_notAfter h (.set key value) (fun _ => pruneAt) ht
  rw [Call.run_set] at hset
  rw [KVStore.getAtTime_eq_get (hset key), KVStore.get_set _ _ _ _ _ hstall]
  exact ⟨rfl, rfl⟩

/-- A write, `SNAPSHOT`, a second write, a restart by the server that restamps the
snapshot's value, `LAST 10s` and a write pruned a second after its stamp. -/
theorem versions_not_after_clock_after_snapshot :
    let t : Nat → TimePoint := fun i => ⟨1000000000 * (i % 10 : Nat), by omega, by omega⟩
    let kv := (Driver.http.recover ((RedisLikeCLI.handleSnapshot (((Driver.cli.recover {} (.constant (t 1))).set
      "k" "a" (t 2) (t 2)))).set "k" "b" (t 4) (t 4)).wal (.constant (t 5))).setRetentionPolicy ⟨.lastT, 0, 10⟩
      (fun _ => t 6) |>.set "j" "c" (t 7) (t 8)
    Reachable ClockRun kv (t 7).ns ∧
    (∀ k, ∀ v ∈ kv.store.history k, v.timestamp ≤ (t 7).ns) ∧
    (∀ (k : String) (T : Int), (t 7).ns ≤ T → kv.getAtTime k T = kv.get k) ∧
    ∀ (key value : String) (now pruneAt : TimePoint), (t 7).ns ≤ now.ns →
      (kv.retentionPolicy.mode = .lastT → 0 < kv.retentionPolicy.seconds →
        cutoff pruneAt.ns kv.retentionPolicy.seconds ≤ now.ns) →
      (kv.set key value now pruneAt).getAtTime key now.ns = some value ∧
        (kv.set key value now pruneAt).get key = some value := by
  intro t kv
  have hr : Reachable ClockRun kv (t 7).ns :=
    .step (.call (.set "j" "c") (t 7) fun _ => t 8)
      (((((Reachable.start .cli (t 1) (by decide)).call (.set "k" "a") (t 2) (by decide) (by simp [t])).call
        .snapshot (t 3) trivial (by simp [t])).call (.set "k" "b") (t 4) (by decide) (by simp [t])).restart .http
        (t 5) (by decide) (by simp [t]) |>.call (.setRetentionPolicy ⟨.lastT, 0, 10⟩) (t 6) trivial (by simp [t]))
      (by decide) ⟨by simp [t], fun _ => by simp [t]⟩
  exact ⟨hr, versions_not_after_clock hr⟩

/-- A value `a 9000000000000` replays after a restart stamped in 2255, after the clock; and
a `set` pruned two seconds late under `LAST 1s` leaves `get` with nothing. -/
theorem spaced_value_and_stall_escape_clock :
    (∃ kv, Reachable AfterEpoch kv 1000000000 ∧
      kv.store.history "k" = [⟨9000000000000000000, "a"⟩] ∧
      kv.getAtTime "k" 1000000000 = none ∧ kv.get "k" = some "a") ∧
    ∃ kv, Reachable AfterEpoch kv 0 ∧
      let now : TimePoint := ⟨1000000000, by decide, by decide⟩
      let pruneAt : TimePoint := ⟨3000000000, by decide, by decide⟩
      Reachable AfterEpoch (kv.set "k" "v" now pruneAt) now.ns ∧
        (kv.set "k" "v" now pruneAt).get "k" = none ∧ (kv.set "k" "v" now pruneAt).getAtTime "k" now.ns = none := by
  refine ⟨⟨_, ((Reachable.start .cli ⟨0, by decide, by decide⟩ (by decide)).call (.set "k" "a 9000000000000")
    ⟨1000000000, by decide, by decide⟩ (by decide) (by decide)).restart .cli ⟨1000000000, by decide, by decide⟩
    (by decide) le_rfl, by decide, by decide, by decide⟩, ?_⟩
  have hr : Reachable AfterEpoch _ 0 := (Reachable.start .cli ⟨0, by decide, by decide⟩ (by decide)).call
    (.setRetentionPolicy ⟨.lastT, 0, 1⟩) ⟨0, by decide, by decide⟩ (by decide) le_rfl
  exact ⟨_, hr, .step (.call (.set "k" "v") _ fun _ => _) hr (by decide)
    ⟨by decide, fun _ => show (1000000000 : Int) ≤ 3000000000 by decide⟩,
    by decide, by decide⟩

end SentinelDB
