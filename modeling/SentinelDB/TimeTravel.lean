import SentinelDB.Ordering

/-!
# Engine calls and the past

`GET ... AT T` reads a key's history at an instant `T`. An engine call stamps what it
writes with its own clock reading `now`, so at an instant before `now` what it can change
is only what it does to the versions already there.

`Call.run_history` says that once: a call leaves a key's history alone, empties it (a
`DEL` of the key), or cuts it to a suffix by the retention policy in force after the
call, after appending the new version of a `SET` of the key.

With retention `FULL` no call but a `DEL` of the key changes an answer of
`getAtTime k T` at an instant before its clock reading, in every engine state, snapshots
and unordered histories included (`full_retention_keeps_the_past`). Under every retention
policy, in the states that runs without `SNAPSHOT` reach, whose histories are in clock
order, a call can make such an answer `nil` but never another value
(`calls_only_forget_the_past`): pruning drops a prefix, and over a suffix the last version
at or before `T` is the whole history's one or none. Restarts are not calls: the replay
moves a write back to its millisecond and a snapshot restamps its values, so the past is
stable within one process.
-/

namespace SentinelDB

set_option autoImplicit false

/-! ### Scans over histories -/

theorem KVStore.getAtTime_eq_scan (kv : KVStore) (k : String) (T : Int) :
    kv.getAtTime k T = scanAtTime T (kv.store.history k) none := by
  unfold KVStore.getAtTime
  rw [Store.history]
  rcases kv.store.lookup k with _ | _ | ⟨v, vs⟩ <;> rfl

theorem scanAtTime_append_later {T : Int} {v : Version} (hv : T < v.timestamp) (vs : List Version)
    (result : Option String) : scanAtTime T (vs ++ [v]) result = scanAtTime T vs result := by
  induction vs generalizing result with
  | nil => simp [scanAtTime, not_le.mpr hv]
  | cons w vs ih =>
    simp only [List.cons_append, scanAtTime]
    split
    · exact ih _
    · rfl

theorem lastAtOrBefore_append_later {T : Int} {vs extra : List Version}
    (h : ∀ v ∈ extra, T < v.timestamp) : lastAtOrBefore T (vs ++ extra) = lastAtOrBefore T vs := by
  have hnone : extra.filter (fun v => decide (v.timestamp ≤ T)) = [] :=
    List.filter_eq_nil_iff.mpr fun v hv => by simpa using h v hv
  unfold lastAtOrBefore
  rw [List.filter_append, hnone, List.append_nil]

theorem lastAtOrBefore_of_suffix {T : Int} {s l : List Version} (h : s <:+ l) :
    lastAtOrBefore T s = lastAtOrBefore T l ∨ lastAtOrBefore T s = none := by
  obtain ⟨p, rfl⟩ := h
  unfold lastAtOrBefore
  rw [List.filter_append, List.getLast?_append]
  cases (s.filter fun v => decide (v.timestamp ≤ T)).getLast? with
  | none => exact .inr rfl
  | some w => exact .inl rfl

/-! ### One call -/

/-- What a call does to one key's history: nothing, empty it, or append to it and cut a suffix. -/
theorem Call.run_history (c : Call) (now : TimePoint) (pruneAt : String → TimePoint) (kv : KVStore) (k : String) :
    (c.run now pruneAt kv).store.history k = kv.store.history k ∨
    (c = .del k ∧ (c.run now pruneAt kv).store.history k = []) ∨
    (c.run now pruneAt kv).store.history k =
      retain (c.run now pruneAt kv).retentionPolicy (pruneAt k).ns (kv.store.history k) ∨
    ∃ value, (c.run now pruneAt kv).store.history k =
      retain (c.run now pruneAt kv).retentionPolicy (pruneAt k).ns (kv.store.history k ++ [⟨now.ns, value⟩]) := by
  cases c with
  | set key value =>
    rw [Call.run_set, KVStore.set_history, KVStore.set_retentionPolicy]
    by_cases hk : k = key
    · subst hk
      exact .inr (.inr (.inr ⟨value, if_pos rfl⟩))
    · exact .inl (if_neg hk)
  | del key =>
    rw [Call.run_del, Store.history, KVStore.del_lookup]
    by_cases hk : k = key
    · subst hk
      exact .inr (.inl ⟨rfl, by rw [if_pos rfl]; rfl⟩)
    · exact .inl (by rw [if_neg hk]; rfl)
  | setRetentionPolicy policy =>
    rw [Call.run_setRetentionPolicy, KVStore.setRetentionPolicy_history, KVStore.setRetentionPolicy_retentionPolicy]
    exact .inr (.inr (.inl rfl))
  | removeGuard name => exact .inl (by rw [Call.run_removeGuard, KVStore.removeGuard_store])
  | setDecisionPolicy _ | postPolicy _ | snapshot | addGuard _ => exact .inl rfl

/-! ### The past under engine calls -/

/-- Under `FULL`, every call but a `DEL` of `k` keeps `getAtTime k T` before its reading. -/
theorem full_retention_keeps_the_past (kv : KVStore) (c : Call) (now : TimePoint) (pruneAt : String → TimePoint)
    (k : String) {T : Int} (hT : T < now.ns) (hfull : (c.run now pruneAt kv).retentionPolicy.mode = .full)
    (hdel : c ≠ .del k) : (c.run now pruneAt kv).getAtTime k T = kv.getAtTime k T := by
  rw [KVStore.getAtTime_eq_scan, KVStore.getAtTime_eq_scan]
  rcases Call.run_history c now pruneAt kv k with h | ⟨rfl, -⟩ | h | ⟨value, h⟩
  · rw [h]
  · exact absurd rfl hdel
  · rw [h, retain_full hfull]
  · rw [h, retain_full hfull, scanAtTime_append_later hT]

/-- `SET k b` at 2 ms after `SET k a` at 1 ms: the answer at 1.5 ms stays `a`. -/
theorem full_retention_keeps_the_past_after_set :
    let t : Nat → TimePoint := fun i => ⟨1000000 * (i % 10 : Nat), by omega, by omega⟩
    let kv := (KVStore.create {}).set "k" "a" (t 1) (t 1)
    (1500000 : Int) < (t 2).ns ∧ ((Call.set "k" "b").run (t 2) (fun _ => t 3) kv).retentionPolicy.mode = .full ∧
    Call.set "k" "b" ≠ .del "k" ∧
    ((Call.set "k" "b").run (t 2) (fun _ => t 3) kv).getAtTime "k" 1500000 = kv.getAtTime "k" 1500000 :=
  ⟨by decide, rfl, Call.noConfusion,
    full_retention_keeps_the_past _ _ _ _ _ (by decide) rfl Call.noConfusion⟩

/-- Without `SNAPSHOT`, a call changes an answer of `getAtTime k T` before its reading only to
`nil`, by a `DEL` or by pruning. -/
theorem calls_only_forget_the_past {kv : KVStore} {t : Int} (hr : Reachable SortedRun kv t) (c : Call)
    {now : TimePoint} (pruneAt : String → TimePoint) (ht : t ≤ now.ns) (k : String) {T : Int} (hT : T < now.ns) :
    (c.run now pruneAt kv).getAtTime k T = kv.getAtTime k T ∨ (c.run now pruneAt kv).getAtTime k T = none := by
  have hin := hr.orderInv.store
  rw [KVStore.getAtTime_eq_lastAtOrBefore (Call.run_historyInOrder hin c pruneAt ht k).1,
    KVStore.getAtTime_eq_lastAtOrBefore (hin k).1]
  rcases Call.run_history c now pruneAt kv k with h | ⟨-, h⟩ | h | ⟨value, h⟩ <;> rw [h]
  · exact .inl rfl
  · exact .inr rfl
  · exact lastAtOrBefore_of_suffix (retain_suffix _ _ _)
  · rw [← @lastAtOrBefore_append_later T (kv.store.history k) [⟨now.ns, value⟩] (by simpa using hT)]
    exact lastAtOrBefore_of_suffix (retain_suffix _ _ _)

/-- A CLI run that writes `k` at 1 ms and restarts, then `DEL k` at 2 ms. -/
theorem calls_only_forget_the_past_after_del :
    let t : Nat → TimePoint := fun i => ⟨1000000 * (i % 10 : Nat), by omega, by omega⟩
    let kv := Driver.http.recover ((Driver.cli.recover {} (.constant (t 0))).set "k" "a" (t 1) (t 1)).wal
      (.constant (t 1))
    Reachable SortedRun kv (t 1).ns ∧ (t 1).ns ≤ (t 2).ns ∧ (1500000 : Int) < (t 2).ns ∧
    (((Call.del "k").run (t 2) (fun _ => t 2) kv).getAtTime "k" 1500000 = kv.getAtTime "k" 1500000 ∨
      ((Call.del "k").run (t 2) (fun _ => t 2) kv).getAtTime "k" 1500000 = none) := by
  intro t kv
  have hr : Reachable SortedRun kv (t 1).ns :=
    ((Reachable.start .cli (t 0) (by decide)).call (.set "k" "a") (t 1) (by decide) (by simp [t])).restart .http
      (t 1) (by decide) le_rfl
  exact ⟨hr, by simp [t], by simp [t], calls_only_forget_the_past hr _ _ (by simp [t]) "k" (by simp [t])⟩

end SentinelDB
