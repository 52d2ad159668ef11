import SentinelDB.Engine

/-!
# Retention over whole runs

Count-based retention bounds every history in every reachable state. Time-based
retention is the only way a key stays in the map with no version: in runs that never
switch it on, `exists`, `get`, `size` and `del` agree.
-/

namespace SentinelDB

set_option autoImplicit false

/-! ### Count-based retention -/

theorem retain_lastN_suffix {policy : RetentionPolicy} (hmode : policy.mode = .lastN)
    (hn : 0 < policy.count) (now : Int) (vs : List Version) :
    retain policy now vs <:+ vs ∧ (retain policy now vs).length = min policy.count.toNat vs.length := by
  rw [retain_lastN policy now vs hmode hn]
  exact ⟨List.drop_suffix _ vs, by simp only [List.length_drop]; omega⟩

/-- Under `LastN(n)` every history has at most `n` versions. -/
def LastNBound (kv : KVStore) : Prop :=
  kv.retentionPolicy.mode = .lastN → 0 < kv.retentionPolicy.count →
    ∀ k vs, kv.store.lookup k = some vs → vs.length ≤ kv.retentionPolicy.count.toNat

theorem lastNBound_setAtTime {kv : KVStore} (h : LastNBound kv) (key value : String) (ts : Int)
    (now : TimePoint) : LastNBound (kv.setAtTime key value ts now) := by
  intro hmode hn k vs hk
  simp only [KVStore.setAtTime_retentionPolicy] at hmode hn ⊢
  rw [KVStore.setAtTime_lookup] at hk
  split at hk
  · cases hk
    have := (retain_lastN_suffix hmode hn now.ns (kv.store.history key ++ [⟨ts, value⟩])).2
    omega
  · exact h hmode hn k vs hk

theorem lastNBound_step {kv : KVStore} (h : LastNBound kv) (e : Event) : LastNBound (e.apply kv) := by
  cases e with
  | restart d clock _ =>
    intro hmode
    rw [Event.apply_restart, (d.recover_replaying kv.wal clock).retentionPolicy] at hmode
    cases hmode
  | call c now pruneAt =>
    show LastNBound (c.run now pruneAt kv)
    cases c with
    | set key value => exact lastNBound_setAtTime h key value now.ns (pruneAt key)
    | del key =>
      intro hmode hn k vs hk
      simp only [Call.run_del, KVStore.del_retentionPolicy] at hmode hn hk ⊢
      rw [KVStore.del_lookup] at hk
      split at hk
      · cases hk
      · exact h hmode hn k vs hk
    | setRetentionPolicy policy =>
      intro hmode hn k vs hk
      simp only [Call.run_setRetentionPolicy, KVStore.setRetentionPolicy_retentionPolicy] at hmode hn ⊢
      rw [Call.run_setRetentionPolicy, KVStore.setRetentionPolicy_lookup, Option.map_eq_some'] at hk
      obtain ⟨vs, -, rfl⟩ := hk
      have := (retain_lastN_suffix hmode hn (pruneAt k).ns vs).2
      omega
    | setDecisionPolicy _ | postPolicy _ | snapshot | addGuard _ => exact h
    | removeGuard name =>
      intro hmode hn k vs hk
      simp only [Call.run_removeGuard, KVStore.removeGuard_retentionPolicy,
        KVStore.removeGuard_store] at hmode hn hk ⊢
      exact h hmode hn k vs hk

theorem Reachable.lastNBound {allowed : Event → Prop} {kv : KVStore} {t : Int}
    (hr : Reachable allowed kv t) : LastNBound kv :=
  Reachable.invariant (fun kv _ => LastNBound kv)
    (fun d clock _ _ _ _ hmode => by rw [(d.recover_replaying {} clock).retentionPolicy] at hmode; cases hmode)
    (fun _ _ e h _ _ => lastNBound_step h e) hr

/-- Under `LastN(n)`, `n ≥ 1`, no key has more than `n` versions, and `set`, `setAtTime` and
`setRetentionPolicy` keep the last `min(n, |h|)` versions of each history `h`. -/
theorem lastN_keeps_last_versions {kv : KVStore} {t : Int} (hr : Reachable (fun _ => True) kv t) :
    (kv.retentionPolicy.mode = .lastN → 0 < kv.retentionPolicy.count →
      ∀ k vs, kv.store.lookup k = some vs → vs.length ≤ kv.retentionPolicy.count.toNat) ∧
    (kv.retentionPolicy.mode = .lastN → 0 < kv.retentionPolicy.count →
      ∀ (key value : String) (ts : Int) (now : TimePoint),
        let h := kv.store.history key ++ [⟨ts, value⟩]
        ∃ vs, (kv.setAtTime key value ts now).store.lookup key = some vs ∧
          vs <:+ h ∧ vs.length = min kv.retentionPolicy.count.toNat h.length) ∧
    (kv.retentionPolicy.mode = .lastN → 0 < kv.retentionPolicy.count →
      ∀ (key value : String) (now pruneAt : TimePoint),
        let h := kv.store.history key ++ [⟨now.ns, value⟩]
        ∃ vs, (kv.set key value now pruneAt).store.lookup key = some vs ∧
          vs <:+ h ∧ vs.length = min kv.retentionPolicy.count.toNat h.length) ∧
    (∀ (policy : RetentionPolicy) (pruneAt : String → TimePoint), policy.mode = .lastN → 0 < policy.count →
      ∀ k vs, kv.store.lookup k = some vs →
        ∃ vs', (kv.setRetentionPolicy policy pruneAt).store.lookup k = some vs' ∧
          vs' <:+ vs ∧ vs'.length = min policy.count.toNat vs.length) := by
  refine ⟨hr.lastNBound, fun hmode hn key value ts now => ?_, fun hmode hn key value now pruneAt => ?_,
    fun policy pruneAt hmode hn k vs hk => ?_⟩
  · rw [KVStore.setAtTime_lookup, if_pos rfl]
    exact ⟨_, rfl, retain_lastN_suffix hmode hn now.ns _⟩
  · rw [KVStore.set_lookup, if_pos rfl]
    exact ⟨_, rfl, retain_lastN_suffix hmode hn pruneAt.ns _⟩
  · rw [KVStore.setRetentionPolicy_lookup, hk]
    exact ⟨_, rfl, retain_lastN_suffix hmode hn (pruneAt k).ns vs⟩

/-- Three writes to one key, `LAST 2` and a fourth write: the run ends under `LastN(2)`
with two versions of the key. -/
theorem lastN_keeps_last_versions_after_writes :
    let t : Nat → TimePoint := fun i => ⟨1000000000 * (i % 10 : Nat), by omega, by omega⟩
    let kv := ((((Driver.cli.recover {} (.constant (t 1))).set "k" "a" (t 2) (t 2)).set "k" "b" (t 3) (t 3)).set
      "k" "c" (t 4) (t 4)).setRetentionPolicy ⟨.lastN, 2, 0⟩ (fun _ => t 5) |>.set "k" "d" (t 6) (t 6)
    Reachable (fun _ => True) kv (t 6).ns ∧
    (kv.retentionPolicy.mode = .lastN → 0 < kv.retentionPolicy.count →
      ∀ k vs, kv.store.lookup k = some vs → vs.length ≤ kv.retentionPolicy.count.toNat) ∧
    (kv.retentionPolicy.mode = .lastN → 0 < kv.retentionPolicy.count →
      ∀ (key value : String) (ts : Int) (now : TimePoint),
        let h := kv.store.history key ++ [⟨ts, value⟩]
        ∃ vs, (kv.setAtTime key value ts now).store.lookup key = some vs ∧
          vs <:+ h ∧ vs.length = min kv.retentionPolicy.count.toNat h.length) ∧
    (kv.retentionPolicy.mode = .lastN → 0 < kv.retentionPolicy.count →
      ∀ (key value : String) (now pruneAt : TimePoint),
        let h := kv.store.history key ++ [⟨now.ns, value⟩]
        ∃ vs, (kv.set key value now pruneAt).store.lookup key = some vs ∧
          vs <:+ h ∧ vs.length = min kv.retentionPolicy.count.toNat h.length) ∧
    (∀ (policy : RetentionPolicy) (pruneAt : String → TimePoint), policy.mode = .lastN → 0 < policy.count →
      ∀ k vs, kv.store.lookup k = some vs →
        ∃ vs', (kv.setRetentionPolicy policy pruneAt).store.lookup k = some vs' ∧
          vs' <:+ vs ∧ vs'.length = min policy.count.toNat vs.length) := by
  intro t kv
  have hr : Reachable (fun _ => True) kv (t 6).ns :=
    (((((Reachable.start .cli (t 1) trivial).call (.set "k" "a") (t 2) trivial (by simp [t])).call
      (.set "k" "b") (t 3) trivial (by simp [t])).call (.set "k" "c") (t 4) trivial (by simp [t])).call
      (.setRetentionPolicy ⟨.lastN, 2, 0⟩) (t 5) trivial (by simp [t])).call (.set "k" "d") (t 6) trivial
      (by simp [t])
  exact ⟨hr, lastN_keeps_last_versions hr⟩

/-! ### Keys without versions -/

/-- Runs that never switch on time-based retention. -/
def NoTimeRetention : Event → Prop
  | .call c _ _ => ¬ c.PrunesByTime
  | .restart _ _ _ => True

instance : DecidablePred NoTimeRetention := fun e =>
  match e with
  | .call c _ _ => inferInstanceAs (Decidable (¬ c.PrunesByTime))
  | .restart _ _ _ => inferInstanceAs (Decidable True)

/-- A policy that is not `LastT(s)` with `s > 0`. -/
def RetentionPolicy.KeepsLast (policy : RetentionPolicy) : Prop :=
  ¬ (policy.mode = .lastT ∧ 0 < policy.seconds)

theorem retain_ne_nil {policy : RetentionPolicy} (hp : policy.KeepsLast) (now : Int)
    {vs : List Version} (hvs : vs ≠ []) : retain policy now vs ≠ [] := by
  unfold retain
  split
  · exact hvs
  · split
    · simp only [ne_eq, List.drop_eq_nil_iff]; omega
    · exact hvs
  · rename_i hmode
    split
    · exact absurd ⟨hmode, ‹_›⟩ hp
    · exact hvs

/-- Every key in the map has a version, and retention cannot take the last one away. -/
structure NoEmptyHistory (kv : KVStore) : Prop where
  histories : ∀ k, kv.store.lookup k ≠ some []
  retention : kv.retentionPolicy.KeepsLast

theorem noEmptyHistory_setAtTime {kv : KVStore} (h : NoEmptyHistory kv) (key value : String) (ts : Int)
    (now : TimePoint) : NoEmptyHistory (kv.setAtTime key value ts now) := by
  refine ⟨fun k => ?_, h.retention⟩
  rw [KVStore.setAtTime_lookup]
  split
  · simpa using retain_ne_nil h.retention now.ns (by simp)
  · exact h.histories k

theorem del_lookup_ne_nil {kv : KVStore} (h : ∀ k, kv.store.lookup k ≠ some []) (key k : String) :
    (kv.del key).2.store.lookup k ≠ some [] := by
  rw [KVStore.del_lookup]
  split
  · simp
  · exact h k

theorem replayStable_noEmptyHistories : ReplayStable fun kv => ∀ k, kv.store.lookup k ≠ some [] where
  setAtTime kv key value ts now hret _ _ h :=
    (noEmptyHistory_setAtTime ⟨h, by rw [hret]; simp [RetentionPolicy.KeepsLast]⟩ key value ts now).histories
  del _ key _ h := del_lookup_ne_nil h key
  setDecisionPolicy _ _ _ h := h
  setWalEnabled _ _ h := h

theorem noEmptyHistory_recover (d : Driver) (w : WAL) (clock : RecoveryClock) :
    NoEmptyHistory (d.recover w clock) :=
  ⟨(Driver.recover_stable replayStable_noEmptyHistories d clock (by simp [KVStore.create])).2,
    by rw [(d.recover_replaying w clock).retentionPolicy]; simp [RetentionPolicy.KeepsLast]⟩

theorem noEmptyHistory_step {kv : KVStore} (h : NoEmptyHistory kv) {e : Event} (he : NoTimeRetention e) :
    NoEmptyHistory (e.apply kv) := by
  cases e with
  | restart d clock _ => exact noEmptyHistory_recover d kv.wal clock
  | call c now pruneAt =>
    show NoEmptyHistory (c.run now pruneAt kv)
    cases c with
    | set key value =>
      refine noEmptyHistory_setAtTime ?_ key value now.ns (pruneAt key)
      exact ⟨h.histories, h.retention⟩
    | del key => exact ⟨del_lookup_ne_nil h.histories key, by simpa using h.retention⟩
    | setRetentionPolicy policy =>
      refine ⟨fun k hk => ?_, he⟩
      rw [Call.run_setRetentionPolicy, KVStore.setRetentionPolicy_lookup, Option.map_eq_some'] at hk
      obtain ⟨vs, hvs, hnil⟩ := hk
      exact retain_ne_nil he (pruneAt k).ns (fun h0 => h.histories k (h0 ▸ hvs)) hnil
    | setDecisionPolicy _ | postPolicy _ | snapshot | addGuard _ => exact ⟨h.histories, h.retention⟩
    | removeGuard name => exact ⟨by simpa using h.histories, by simpa using h.retention⟩

theorem Reachable.noEmptyHistory {kv : KVStore} {t : Int} (hr : Reachable NoTimeRetention kv t) :
    NoEmptyHistory kv :=
  Reachable.invariant (fun kv _ => NoEmptyHistory kv) (fun d clock _ _ _ _ => noEmptyHistory_recover d {} clock)
    (fun _ _ _ h he _ => noEmptyHistory_step h he) hr

theorem get_isSome_iff_mem {kv : KVStore} (h : ∀ k, kv.store.lookup k ≠ some []) (k : String) :
    (kv.get k).isSome ↔ k ∈ kv.store := by
  rw [← AList.lookup_isSome, KVStore.get]
  cases hk : kv.store.lookup k with
  | none => simp
  | some vs =>
    obtain ⟨pre, v, rfl⟩ := List.eq_nil_or_concat vs |>.resolve_left fun h0 => h k (h0 ▸ hk)
    simp

/-- Without time-based retention every key in the map has a version, so `exists`, `size` and
`del` agree with `get`. -/
theorem keys_in_map_have_versions {kv : KVStore} {t : Int} (hr : Reachable NoTimeRetention kv t) :
    (∀ k, kv.store.lookup k ≠ some []) ∧
    (∀ k, kv.«exists» k = true ↔ (kv.get k).isSome) ∧
    kv.size = (kv.store.keys.filter fun k => (kv.get k).isSome).length ∧
    ∀ k, (kv.del k).1 = .ok → (kv.get k).isSome ∧ (kv.del k).2.wal = kv.wal.logDel k := by
  have h := hr.noEmptyHistory.histories
  refine ⟨h, fun k => ?_, ?_, fun k hdel => ?_⟩
  · simp [KVStore.exists, get_isSome_iff_mem h]
  · rw [List.filter_eq_self.mpr fun k hk => by simpa [get_isSome_iff_mem h] using hk]
    simp [KVStore.size, AList.keys, List.keys]
  · have hk : k ∈ kv.store := by
      by_contra hk
      simp [KVStore.del, hk] at hdel
    exact ⟨(get_isSome_iff_mem h k).mpr hk, by simp [KVStore.del_wal, hk, hr.walEnabled]⟩

/-- Two writes, a delete, `LAST 1` and a restart by the server: one key is left with
one version and the deleted key is gone. -/
theorem keys_in_map_have_versions_after_restart :
    let t : Nat → TimePoint := fun i => ⟨1000000000 * (i % 10 : Nat), by omega, by omega⟩
    let kv := Driver.http.recover
      (((((Driver.cli.recover {} (.constant (t 1))).set "a" "1" (t 2) (t 2)).set "b" "2" (t 3) (t 3)).del "a").2.setRetentionPolicy
        ⟨.lastN, 1, 0⟩ (fun _ => t 4)).wal (.constant (t 5))
    Reachable NoTimeRetention kv (t 5).ns ∧
    (∀ k, kv.store.lookup k ≠ some []) ∧
    (∀ k, kv.«exists» k = true ↔ (kv.get k).isSome) ∧
    kv.size = (kv.store.keys.filter fun k => (kv.get k).isSome).length ∧
    ∀ k, (kv.del k).1 = .ok → (kv.get k).isSome ∧ (kv.del k).2.wal = kv.wal.logDel k := by
  intro t kv
  have hr : Reachable NoTimeRetention kv (t 5).ns :=
    (((((Reachable.start .cli (t 1) trivial).call (.set "a" "1") (t 2) (by decide) (by simp [t])).call
      (.set "b" "2") (t 3) (by decide) (by simp [t])).call (.del "a") (t 3) (by decide) le_rfl).call
      (.setRetentionPolicy ⟨.lastN, 1, 0⟩) (t 4) (by decide) (by simp [t])).restart .http (t 5) trivial
      (by simp [t])
  exact ⟨hr, keys_in_map_have_versions hr⟩

/-- `LastT(1s)` applied two seconds after the only write empties the key's history and
leaves the key in the map: `exists` holds while `get` finds nothing. -/
theorem lastT_leaves_key_without_version :
    ∃ kv t, Reachable (fun _ => True) kv t ∧ kv.«exists» "k" = true ∧ kv.get "k" = none :=
  ⟨_, _, (((Reachable.start .cli ⟨0, by decide, by decide⟩ trivial).call (.set "k" "v")
    ⟨0, by decide, by decide⟩ trivial le_rfl).call (.setRetentionPolicy ⟨.lastT, 0, 1⟩)
    ⟨2000000000, by decide, by decide⟩ trivial (by decide)), by decide, by decide⟩

end SentinelDB
