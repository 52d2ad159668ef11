import SentinelDB.Persistence

/-!
# Histories in clock order

Within one process `set` stamps each version with a clock reading no earlier than the
last one, and the log keeps the writes in that order, cut to whole milliseconds, which
keeps order; a recovery that only replays the log rebuilds every history in order.
A snapshot breaks this: a recovery stamps its values with the restart time, and the
writes logged after it, replayed behind them, are older.

Where every history is in order, `getAtTime` returns the last version at or before the
query, and time-based pruning, which only drops the leading expired versions, leaves
none older than the cutoff.
-/

namespace SentinelDB

set_option autoImplicit false

def Call.isSnapshot : Call → Bool
  | .snapshot => true
  | _ => false

/-- Runs of word keys and values without `SNAPSHOT`, at clock readings after the epoch. -/
def SortedRun : Event → Prop
  | .call c _ _ => c.Fields IsToken ∧ c.isSnapshot = false
  | .restart _ _ now => 0 ≤ now.ns

instance : DecidablePred SortedRun := fun e =>
  match e with
  | .call c _ _ => inferInstanceAs (Decidable (c.Fields IsToken ∧ c.isSnapshot = false))
  | .restart _ _ now => inferInstanceAs (Decidable (0 ≤ now.ns))

/-- A history in clock order, with no version later than `t`. -/
def HistoryInOrder (t : Int) (vs : List Version) : Prop :=
  Chronological vs ∧ ∀ v ∈ vs, v.timestamp ≤ t

theorem HistoryInOrder.mono {t u : Int} {vs : List Version} (h : HistoryInOrder t vs) (htu : t ≤ u) :
    HistoryInOrder u vs :=
  ⟨h.1, fun v hv => (h.2 v hv).trans htu⟩

theorem HistoryInOrder.retain {t : Int} {vs : List Version} (h : HistoryInOrder t vs)
    (policy : RetentionPolicy) (now : Int) : HistoryInOrder t (retain policy now vs) :=
  ⟨h.1.retain policy now, fun v hv => h.2 v ((retain_suffix policy now vs).subset hv)⟩

theorem HistoryInOrder.append {t u : Int} {vs : List Version} (h : HistoryInOrder t vs) (htu : t ≤ u)
    (value : String) : HistoryInOrder u (vs ++ [⟨u, value⟩]) := by
  refine ⟨List.pairwise_append.mpr ⟨h.1, List.pairwise_singleton _ _, fun a ha b hb => ?_⟩,
    fun v hv => ?_⟩
  · rw [List.mem_singleton.mp hb]
    exact (h.2 a ha).trans htu
  · rcases List.mem_append.mp hv with hv | hv
    · exact (h.2 v hv).trans htu
    · rw [List.mem_singleton.mp hv]

/-! ### The log in clock order -/

def LogEntry.time? : LogEntry → Option Int
  | .set _ _ timestamp => some timestamp.ns
  | _ => none

def LogEntry.versionOf (k : String) : LogEntry → Option Version
  | .set key value timestamp => if k = key then some ⟨truncMillis timestamp.ns, value⟩ else none
  | _ => none

/-- The writes of the log are in clock order, at readings in `[0, t]`. -/
def LogInOrder (t : Int) (log : List LogEntry) : Prop :=
  log.Pairwise (fun a b => ∀ s ∈ a.time?, ∀ s' ∈ b.time?, s ≤ s') ∧
    ∀ e ∈ log, ∀ s ∈ e.time?, 0 ≤ s ∧ s ≤ t

theorem LogEntry.timestamp_of_versionOf {k : String} {e : LogEntry} {v : Version}
    (h : v ∈ e.versionOf k) : ∃ s ∈ e.time?, v.timestamp = truncMillis s := by
  cases e with
  | set key value timestamp =>
    simp only [versionOf] at h
    split at h
    · cases h
      exact ⟨_, rfl, rfl⟩
    · cases h
  | del _ | policy _ => cases h

theorem foldl_replayHistory_sublist (k : String) (log : List LogEntry) (h : Option (List Version)) :
    List.Sublist ((log.foldl (LogEntry.replayHistory k) h).getD [])
      (h.getD [] ++ log.filterMap (LogEntry.versionOf k)) := by
  induction log generalizing h with
  | nil => simp
  | cons e log ih =>
    refine (ih _).trans ?_
    cases e with
    | set key value timestamp =>
      simp only [LogEntry.replayHistory, appendHistory, LogEntry.versionOf, List.filterMap_cons]
      split <;> simp
    | del key =>
      simp only [LogEntry.replayHistory, LogEntry.versionOf, List.filterMap_cons]
      split
      · exact List.sublist_append_right _ _
      · exact List.Sublist.refl _
    | policy p => exact List.Sublist.refl _

theorem LogInOrder.chronological {t : Int} {log : List LogEntry} (h : LogInOrder t log) (k : String) :
    Chronological (log.filterMap (LogEntry.versionOf k)) := by
  refine List.pairwise_filterMap.mpr (h.1.imp fun hab v hv w hw => ?_)
  obtain ⟨s, hs, hvs⟩ := LogEntry.timestamp_of_versionOf hv
  obtain ⟨s', hs', hws⟩ := LogEntry.timestamp_of_versionOf hw
  rw [hvs, hws]
  exact truncMillis_mono (hab s hs s' hs')

/-- A recovery from a log in clock order rebuilds every history in order, with no
version later than the last write. -/
theorem LogInOrder.history {t : Int} {log : List LogEntry} (h : LogInOrder t log)
    (stamp : Nat → Int) (k : String) : HistoryInOrder t ((WalContents.history ⟨none, log⟩ stamp k).getD []) := by
  have hsub : List.Sublist ((WalContents.history ⟨none, log⟩ stamp k).getD [])
      (log.filterMap (LogEntry.versionOf k)) :=
    foldl_replayHistory_sublist k log none
  refine ⟨(h.chronological k).sublist hsub, fun v hv => ?_⟩
  obtain ⟨e, he, hve⟩ := List.mem_filterMap.mp (hsub.subset hv)
  obtain ⟨s, hs, hvs⟩ := LogEntry.timestamp_of_versionOf hve
  have := h.2 e he s hs
  exact hvs ▸ (truncMillis_le this.1).trans this.2

theorem LogInOrder.mono {t u : Int} {log : List LogEntry} (h : LogInOrder t log) (htu : t ≤ u) :
    LogInOrder u log :=
  ⟨h.1, fun e he s hs => ⟨(h.2 e he s hs).1, (h.2 e he s hs).2.trans htu⟩⟩

theorem LogInOrder.append {t u : Int} {log es : List LogEntry} (h : LogInOrder t log) (ht : 0 ≤ t)
    (hes : ∀ e ∈ es, ∀ s ∈ e.time?, s = u) (htu : t ≤ u) : LogInOrder u (log ++ es) := by
  refine ⟨List.pairwise_append.mpr ⟨h.1, List.pairwise_of_forall_mem_list fun a ha b hb s hs s' hs' => ?_,
    fun a ha b hb s hs s' hs' => ?_⟩, fun e he s hs => ?_⟩
  · rw [hes a ha s hs, hes b hb s' hs']
  · rw [hes b hb s' hs']
    exact (h.2 a ha s hs).2.trans htu
  · rcases List.mem_append.mp he with he | he
    · exact (h.mono htu).2 e he s hs
    · rw [hes e he s hs]
      exact ⟨ht.trans htu, le_rfl⟩

/-! ### Calls -/

theorem KVStore.setAtTime_history (kv : KVStore) (key value : String) (ts : Int) (now : TimePoint) (k : String) :
    (kv.setAtTime key value ts now).store.history k =
      if k = key then retain kv.retentionPolicy now.ns (kv.store.history key ++ [⟨ts, value⟩])
      else kv.store.history k := by
  rw [Store.history, KVStore.setAtTime_lookup]
  split <;> rfl

theorem KVStore.set_history (kv : KVStore) (key value : String) (now pruneAt : TimePoint) (k : String) :
    (kv.set key value now pruneAt).store.history k =
      if k = key then retain kv.retentionPolicy pruneAt.ns (kv.store.history key ++ [⟨now.ns, value⟩])
      else kv.store.history k :=
  KVStore.setAtTime_history _ key value now.ns pruneAt k

theorem KVStore.setRetentionPolicy_history (kv : KVStore) (policy : RetentionPolicy) (pruneAt : String → TimePoint)
    (k : String) :
    (kv.setRetentionPolicy policy pruneAt).store.history k = retain policy (pruneAt k).ns (kv.store.history k) := by
  rw [Store.history, Store.history, KVStore.setRetentionPolicy_lookup]
  cases kv.store.lookup k <;> simp

/-- Every call keeps the histories in order, the new version of a `set` last. -/
theorem Call.run_historyInOrder {kv : KVStore} {t : Int} (h : ∀ k, HistoryInOrder t (kv.store.history k))
    (call : Call) {now : TimePoint} (pruneAt : String → TimePoint) (ht : t ≤ now.ns) (k : String) :
    HistoryInOrder now.ns ((call.run now pruneAt kv).store.history k) := by
  cases call with
  | set key value =>
    rw [Call.run_set, KVStore.set_history]
    split
    · exact ((h key).append ht value).retain _ _
    · exact (h k).mono ht
  | del key =>
    rw [Call.run_del, Store.history, KVStore.del_lookup]
    split
    · exact ⟨List.Pairwise.nil, fun v hv => nomatch hv⟩
    · exact (h k).mono ht
  | setRetentionPolicy policy =>
    rw [Call.run_setRetentionPolicy, KVStore.setRetentionPolicy_history]
    exact ((h k).mono ht).retain _ _
  | removeGuard name => rw [Call.run_removeGuard, KVStore.removeGuard_store]; exact (h k).mono ht
  | setDecisionPolicy _ | postPolicy _ | snapshot | addGuard _ => exact (h k).mono ht

theorem Call.logged_append {P : String → Prop} {call : Call} (hf : call.Fields P)
    (hs : call.isSnapshot = false) (now : TimePoint) (kv : KVStore)
    (snapshot : Option (DecisionPolicy × List (String × String))) (log : List LogEntry) :
    ∃ es : List LogEntry, call.logged now kv ⟨snapshot, log⟩ = ⟨snapshot, log ++ es⟩ ∧
      ∀ e ∈ es, e.Fields P ∧ ∀ s ∈ e.time?, s = now.ns := by
  cases call with
  | set key value =>
    refine ⟨[.set key value now], rfl, ?_⟩
    simp only [List.mem_singleton, forall_eq]
    exact ⟨hf, fun s hs => (Option.some.inj hs).symm⟩
  | del key =>
    by_cases hk : key ∈ kv.store
    · refine ⟨[.del key], by rw [Call.logged, if_pos hk]; rfl, ?_⟩
      simp only [List.mem_singleton, forall_eq]
      exact ⟨hf, fun s hs => nomatch hs⟩
    · exact ⟨[], by rw [Call.logged, if_neg hk, List.append_nil], by simp⟩
  | setDecisionPolicy p => exact ⟨[.policy p], rfl, by simp [LogEntry.Fields, LogEntry.time?]⟩
  | postPolicy p => exact ⟨[.policy p, .policy p], by simp [Call.logged, WalContents.append],
      by simp [LogEntry.Fields, LogEntry.time?]⟩
  | snapshot => exact absurd hs Bool.noConfusion
  | setRetentionPolicy _ | addGuard _ | removeGuard _ =>
    exact ⟨[], by rw [List.append_nil]; rfl, by simp⟩

/-! ### Every reachable state -/

/-- Histories and log in clock order, up to the last clock reading; the files are a log
of word writes with no snapshot. -/
structure OrderInv (kv : KVStore) (t : Int) : Prop where
  walEnabled : kv.walEnabled = true
  clock : 0 ≤ t
  files : ∃ log : List LogEntry, kv.wal = (⟨none, log⟩ : WalContents).files ∧
    (⟨none, log⟩ : WalContents).Fields IsToken ∧ LogInOrder t log
  store : ∀ k, HistoryInOrder t (kv.store.history k)

theorem orderInv_recover (d : Driver) {t : Int} {log : List LogEntry}
    (hc : (⟨none, log⟩ : WalContents).Fields IsToken) (hlog : LogInOrder t log) (h0 : 0 ≤ t)
    (clock : RecoveryClock) {now : TimePoint} (ht : t ≤ now.ns) :
    OrderInv (d.recover (⟨none, log⟩ : WalContents).files clock) now.ns := by
  have hr := d.recover_replaying (⟨none, log⟩ : WalContents).files clock
  refine ⟨hr.walEnabled, h0.trans ht, ⟨log, hr.wal, hc, hlog.mono ht⟩, fun k => ?_⟩
  rw [Store.history, WalContents.recover_lookup hc d clock k]
  exact (hlog.history _ k).mono ht

theorem orderInv_call {kv : KVStore} {t : Int} (h : OrderInv kv t) {call : Call}
    (hf : call.Fields IsToken) (hs : call.isSnapshot = false) {now : TimePoint} (pruneAt : String → TimePoint)
    (ht : t ≤ now.ns) : OrderInv (call.run now pruneAt kv) now.ns := by
  obtain ⟨log, hw, hc, hlog⟩ := h.files
  obtain ⟨es, hes, hnew⟩ := Call.logged_append hf hs now kv none log
  refine ⟨(call.run_walEnabled now pruneAt kv).trans h.walEnabled, h.clock.trans ht,
    ⟨log ++ es, by rw [call.run_wal now pruneAt h.walEnabled hw, hes], ⟨fun e he => ?_, hc.2⟩,
      hlog.append h.clock (fun e he => (hnew e he).2) ht⟩, call.run_historyInOrder h.store pruneAt ht⟩
  rcases List.mem_append.mp he with he | he
  · exact hc.1 e he
  · exact (hnew e he).1

theorem Reachable.orderInv {kv : KVStore} {t : Int} (hr : Reachable SortedRun kv t) : OrderInv kv t :=
  Reachable.invariant OrderInv
    (fun d clock now _ h0 _ => orderInv_recover d
      (show WalContents.Fields IsToken ⟨none, []⟩ from ⟨by simp, by simp⟩) ⟨List.Pairwise.nil, by simp⟩ h0 clock le_rfl)
    (fun kv t e h he ht => by
      cases e with
      | restart d clock now =>
        obtain ⟨log, hw, hc, hlog⟩ := h.files
        rw [Event.apply_restart, hw]
        exact orderInv_recover d hc hlog h.clock clock ht.le_now
      | call c now pruneAt => exact orderInv_call h he.1 he.2 pruneAt ht.1) hr

/-! ### Lookups and pruning over histories in order -/

theorem KVStore.getAtTime_eq_lastAtOrBefore {kv : KVStore} {k : String}
    (h : Chronological (kv.store.history k)) (T : Int) :
    kv.getAtTime k T = lastAtOrBefore T (kv.store.history k) := by
  unfold KVStore.getAtTime
  rw [Store.history] at h ⊢
  rcases hl : kv.store.lookup k with _ | _ | ⟨v, vs⟩
  · rfl
  · rfl
  · rw [hl] at h
    exact (scanAtTime_eq_of_chronological h none).trans Option.or_none

theorem cutoff_le_of_mem_retain {vs : List Version} (h : Chronological vs) {policy : RetentionPolicy}
    {now : Int} (hmode : policy.mode = .lastT) (hs : 0 < policy.seconds) {v : Version}
    (hv : v ∈ retain policy now vs) : cutoff now policy.seconds ≤ v.timestamp :=
  cutoff_le_of_mem_dropWhile h (retain_lastT policy now vs hmode hs ▸ hv)

/-- Without `SNAPSHOT`, every history stays in clock order through calls and restarts, so
`getAtTime` returns the last version at or before the query. -/
theorem histories_stay_chronological {kv : KVStore} {t : Int} (hr : Reachable SortedRun kv t)
    (k : String) :
    Chronological (kv.store.history k) ∧ ∀ T, kv.getAtTime k T = lastAtOrBefore T (kv.store.history k) :=
  have h := (hr.orderInv.store k).1
  ⟨h, KVStore.getAtTime_eq_lastAtOrBefore h⟩

/-- Two writes, a restart by the server, a third write and `LAST 10s`. -/
theorem histories_stay_chronological_after_restart :
    let t : Nat → TimePoint := fun i => ⟨1000000000 * (i % 10 : Nat), by omega, by omega⟩
    let kv := (((Driver.http.recover (((Driver.cli.recover {} (.constant (t 1))).set "k" "a" (t 2) (t 2)).set
      "k" "b" (t 3) (t 3)).wal (.constant (t 4))).set "k" "c" (t 5) (t 5)).setRetentionPolicy ⟨.lastT, 0, 10⟩
      (fun _ => t 6))
    Reachable SortedRun kv (t 6).ns ∧ Chronological (kv.store.history "k") ∧
      ∀ T, kv.getAtTime "k" T = lastAtOrBefore T (kv.store.history "k") := by
  intro t kv
  have hr : Reachable SortedRun kv (t 6).ns :=
    (((((Reachable.start .cli (t 1) (by decide)).call (.set "k" "a") (t 2) (by decide) (by simp [t])).call
      (.set "k" "b") (t 3) (by decide) (by simp [t])).restart .http (t 4) (by decide) (by simp [t])).call
      (.set "k" "c") (t 5) (by decide) (by simp [t])).call (.setRetentionPolicy ⟨.lastT, 0, 10⟩) (t 6)
      (by decide) (by simp [t])
  exact ⟨hr, histories_stay_chronological hr "k"⟩

/-- Retention, whatever its policy and clock readings, keeps a suffix of each history it
prunes, in order: of the history with the new version for `setAtTime` and `set`. -/
theorem retention_keeps_suffix (kv : KVStore) :
    (∀ (policy : RetentionPolicy) (pruneAt : String → TimePoint) (k : String),
      (kv.setRetentionPolicy policy pruneAt).store.history k <:+ kv.store.history k) ∧
    (∀ (key value : String) (ts : Int) (now : TimePoint),
      (kv.setAtTime key value ts now).store.history key <:+ kv.store.history key ++ [⟨ts, value⟩]) ∧
    ∀ (key value : String) (now pruneAt : TimePoint),
      (kv.set key value now pruneAt).store.history key <:+ kv.store.history key ++ [⟨now.ns, value⟩] := by
  refine ⟨fun policy pruneAt k => ?_, fun key value ts now => ?_, fun key value now pruneAt => ?_⟩
  · rw [KVStore.setRetentionPolicy_history]
    exact retain_suffix _ _ _
  · rw [KVStore.setAtTime_history, if_pos rfl]
    exact retain_suffix _ _ _
  · rw [KVStore.set_history, if_pos rfl]
    exact retain_suffix _ _ _

/-- Without `SNAPSHOT`, `LastT(s)` leaves no version older than `s` seconds before the reading
it prunes at, both when `setRetentionPolicy` sets it and when a `set` runs under it. -/
theorem lastT_prunes_expired {kv : KVStore} {t : Int} (hr : Reachable SortedRun kv t) :
    (∀ (policy : RetentionPolicy) (pruneAt : String → TimePoint) (k : String),
      policy.mode = .lastT → 0 < policy.seconds →
        ∀ v ∈ (kv.setRetentionPolicy policy pruneAt).store.history k,
          cutoff (pruneAt k).ns policy.seconds ≤ v.timestamp) ∧
    ∀ (key value : String) (now pruneAt : TimePoint), t ≤ now.ns →
      kv.retentionPolicy.mode = .lastT → 0 < kv.retentionPolicy.seconds →
        ∀ v ∈ (kv.set key value now pruneAt).store.history key,
          cutoff pruneAt.ns kv.retentionPolicy.seconds ≤ v.timestamp := by
  have h := hr.orderInv
  refine ⟨fun policy pruneAt k hm hs v hv => ?_, fun key value now pruneAt ht hm hs v hv => ?_⟩
  · rw [KVStore.setRetentionPolicy_history] at hv
    exact cutoff_le_of_mem_retain (h.store k).1 hm hs hv
  · rw [KVStore.set_history, if_pos rfl] at hv
    exact cutoff_le_of_mem_retain ((h.store key).append ht value).1 hm hs hv

/-- Two writes, a restart by the server, `LAST 10s` and a third write. -/
theorem lastT_prunes_expired_after_restart :
    let t : Nat → TimePoint := fun i => ⟨1000000000 * (i % 10 : Nat), by omega, by omega⟩
    let kv := ((Driver.http.recover (((Driver.cli.recover {} (.constant (t 1))).set "k" "a" (t 2) (t 2)).set
      "k" "b" (t 3) (t 3)).wal (.constant (t 4))).setRetentionPolicy ⟨.lastT, 0, 10⟩ (fun _ => t 5)).set
      "k" "c" (t 6) (t 7)
    Reachable SortedRun kv (t 6).ns ∧
    (∀ (policy : RetentionPolicy) (pruneAt : String → TimePoint) (k : String),
      policy.mode = .lastT → 0 < policy.seconds →
        ∀ v ∈ (kv.setRetentionPolicy policy pruneAt).store.history k,
          cutoff (pruneAt k).ns policy.seconds ≤ v.timestamp) ∧
    ∀ (key value : String) (now pruneAt : TimePoint), (t 6).ns ≤ now.ns →
      kv.retentionPolicy.mode = .lastT → 0 < kv.retentionPolicy.seconds →
        ∀ v ∈ (kv.set key value now pruneAt).store.history key,
          cutoff pruneAt.ns kv.retentionPolicy.seconds ≤ v.timestamp := by
  intro t kv
  have hr : Reachable SortedRun kv (t 6).ns :=
    .step (.call (.set "k" "c") (t 6) fun _ => t 7)
      ((((Reachable.start .cli (t 1) (by decide)).call (.set "k" "a") (t 2) (by decide) (by simp [t])).call
        (.set "k" "b") (t 3) (by decide) (by simp [t])).restart .http (t 4) (by decide) (by simp [t]) |>.call
        (.setRetentionPolicy ⟨.lastT, 0, 10⟩) (t 5) (by decide) (by simp [t]))
      (by decide) ⟨by simp [t], fun _ => by simp [t]⟩
  exact ⟨hr, lastT_prunes_expired hr⟩

/-! ### A snapshot breaks the order -/

/-- `SET k a`, `SNAPSHOT`, `SET k b` one millisecond later, and a restart at 2 s: the
snapshot's `a` is stamped 2 s, and `b`, replayed behind it, keeps its logged 1 ms. -/
theorem snapshot_then_write_reorders :
    ∃ kv, Reachable WordRun kv 2000000000 ∧
      kv.store.lookup "k" = some [⟨2000000000, "a"⟩, ⟨1000000, "b"⟩] :=
  ⟨_, ((((Reachable.start .cli ⟨0, by decide, by decide⟩ trivial).call (.set "k" "a") ⟨0, by decide, by decide⟩
    (by decide) le_rfl).call .snapshot ⟨0, by decide, by decide⟩ trivial le_rfl).call (.set "k" "b")
    ⟨1000000, by decide, by decide⟩ (by decide) (by decide)).restart .cli ⟨2000000000, by decide, by decide⟩
    trivial (by decide), by decide⟩

/-- After the reordering restart, `getAtTime k 1ms` stops at the 2 s version and misses
`b`, the last version at or before 1 ms. -/
theorem snapshot_breaks_chronology :
    ∃ kv t, Reachable WordRun kv t ∧ ¬ Chronological (kv.store.history "k") ∧
      kv.getAtTime "k" 1000000 = none ∧ lastAtOrBefore 1000000 (kv.store.history "k") = some "b" :=
  have ⟨kv, hr, hl⟩ := snapshot_then_write_reorders
  ⟨kv, _, hr, by rw [Store.history, hl]; decide, by rw [KVStore.getAtTime, hl]; decide,
    by rw [Store.history, hl]; decide⟩

/-- After the reordering restart, `LAST 1s` at 2 s keeps `b`, stamped 1 ms, below the 1 s
cutoff: pruning stops at the first version, which is recent. -/
theorem snapshot_escapes_lastT :
    ∃ kv t, Reachable WordRun kv t ∧
      ⟨1000000, "b"⟩ ∈ (kv.setRetentionPolicy ⟨.lastT, 0, 1⟩
        fun _ => ⟨2000000000, by decide, by decide⟩).store.history "k" ∧
      1000000 < cutoff 2000000000 1 :=
  have ⟨kv, hr, hl⟩ := snapshot_then_write_reorders
  ⟨kv, _, hr, by rw [KVStore.setRetentionPolicy_history, Store.history, hl]; decide, by decide⟩

end SentinelDB
