import SentinelDB.Engine

/-!
# The decision policy across restarts

The policy a recovery selects is the last `POLICY SET` line of the snapshot followed by
the log, and every call keeps the running policy equal to that line of its files, as long
as no key or value holds a newline: `readLog` splits the file at newlines, so a value
can smuggle in a line of its own.
-/

namespace SentinelDB

set_option autoImplicit false

/-- Runs whose keys and values fit on one line. -/
def OneLineFields : Event → Prop
  | .call c _ _ => c.Fields NoNewline
  | .restart _ _ _ => True

instance : DecidablePred OneLineFields := fun e =>
  match e with
  | .call c _ _ => inferInstanceAs (Decidable (c.Fields NoNewline))
  | .restart _ _ _ => inferInstanceAs (Decidable True)

theorem decodePolicyLine_snapshotRecord (key value : String) :
    decodePolicyLine (WAL.snapshotRecord key value) = none := by
  show decodePolicyLine ⟨(WAL.snapshotRecord key value).data⟩ = none
  rw [snapshotRecord_data]
  exact decodePolicyLine_SET _

theorem policyOf_snapshotLines (p : DecisionPolicy) (data : List (String × String)) (p₀ : DecisionPolicy) :
    policyOf (snapshotLines p data) p₀ = p := by
  rw [snapshotLines, policyOf, List.foldl_cons, decodePolicyLine_policyRecord, List.foldl_map]
  exact List.foldl_fixed' (fun x => by rw [decodePolicyLine_snapshotRecord]; rfl) data

theorem policyOf_records (es : List LogEntry) (p : DecisionPolicy) :
    policyOf (es.map LogEntry.record) p = es.foldl (fun p e => e.policy?.getD p) p := by
  rw [policyOf, List.foldl_map]
  simp only [LogEntry.decodePolicyLine_record]

theorem WalContents.policy_eq_policyOf {c : WalContents} (hc : c.Fields NoNewline) :
    c.policy = policyOf (c.files.readSnapshot ++ c.files.readLog) .safeDefault := by
  rw [policyOf, List.foldl_append, ← policyOf, ← policyOf, readLog_files hc, readSnapshot_files hc,
    policyOf_records, policy]
  congr 1
  rcases c with ⟨_ | ⟨p, data⟩, log⟩
  · rfl
  · exact (policyOf_snapshotLines p data _).symm

/-- The running policy is the one the files select. -/
structure PolicyInv (kv : KVStore) : Prop where
  walEnabled : kv.walEnabled = true
  files : ∃ c : WalContents, kv.wal = c.files ∧ c.Fields NoNewline ∧ kv.decisionPolicy = c.policy
  store : StoreFields NoNewline kv

theorem policyInv_recover (d : Driver) {c : WalContents} (hc : c.Fields NoNewline) (clock : RecoveryClock) :
    PolicyInv (d.recover c.files clock) :=
  have hr := Driver.recover_stable replayStable_storeFields d clock (fun k vs h => by simp [KVStore.create] at h)
  ⟨hr.1.walEnabled, ⟨c, hr.1.wal, hc, c.recover_decisionPolicy hc d clock⟩, hr.2⟩

theorem policyInv_step {kv : KVStore} (h : PolicyInv kv) {e : Event} (he : OneLineFields e) :
    PolicyInv (e.apply kv) := by
  obtain ⟨c, hw, hc, hp⟩ := h.files
  cases e with
  | restart d clock _ => rw [Event.apply_restart, hw]; exact policyInv_recover d hc clock
  | call call now pruneAt =>
    exact ⟨(call.run_walEnabled now pruneAt kv).trans h.walEnabled,
      ⟨_, call.run_wal now pruneAt h.walEnabled hw, call.logged_fields now hc he h.store,
        call.run_decisionPolicy now pruneAt hp⟩, Call.run_storeFields h.store he now pruneAt⟩

theorem Reachable.policyInv {kv : KVStore} {t : Int} (hr : Reachable OneLineFields kv t) : PolicyInv kv :=
  Reachable.invariant (fun kv _ => PolicyInv kv)
    (fun d clock _ _ _ _ => policyInv_recover d
      (show WalContents.Fields NoNewline ⟨none, []⟩ from ⟨by simp, by simp⟩) clock)
    (fun _ _ _ h he _ => policyInv_step h he) hr

/-- The policy is always the last `POLICY SET` line of the files, else `SAFE_DEFAULT`, so a
restart by either main restores it. -/
theorem policy_survives_restart {kv : KVStore} {t : Int} (hr : Reachable OneLineFields kv t) :
    kv.decisionPolicy = policyOf (kv.wal.readSnapshot ++ kv.wal.readLog) .safeDefault ∧
    ∀ (d : Driver) (clock : RecoveryClock), (d.recover kv.wal clock).decisionPolicy = kv.decisionPolicy := by
  obtain ⟨c, hw, hc, hp⟩ := hr.policyInv.files
  refine ⟨by rw [hp, hw, c.policy_eq_policyOf hc], fun d clock => ?_⟩
  rw [hw, c.recover_decisionPolicy hc d clock, hp]

/-- `POLICY SET STRICT`, a write, `SNAPSHOT`, a restart by the server and
`POST /policy DEV_FRIENDLY`: the run ends under the policy the server set. -/
theorem policy_survives_restart_after_snapshot :
    let t : Nat → TimePoint := fun i => ⟨1000000000 * (i % 10 : Nat), by omega, by omega⟩
    let kv := HttpServer.postPolicy (Driver.http.recover
      (RedisLikeCLI.handleSnapshot (((Driver.cli.recover {} (.constant (t 1))).setDecisionPolicy .strict).set
        "k" "v" (t 3) (t 3))).wal (.constant (t 5))) .devFriendly
    Reachable OneLineFields kv (t 6).ns ∧
    kv.decisionPolicy = policyOf (kv.wal.readSnapshot ++ kv.wal.readLog) .safeDefault ∧
    ∀ (d : Driver) (clock : RecoveryClock), (d.recover kv.wal clock).decisionPolicy = kv.decisionPolicy := by
  intro t kv
  have hr : Reachable OneLineFields kv (t 6).ns :=
    (((((Reachable.start .cli (t 1) trivial).call (.setDecisionPolicy .strict) (t 2) trivial (by simp [t])).call
      (.set "k" "v") (t 3) (by decide) (by simp [t])).call .snapshot (t 4) trivial (by simp [t])).restart .http
      (t 5) trivial (by simp [t])).call (.postPolicy .devFriendly) (t 6) trivial (by simp [t])
  exact ⟨hr, policy_survives_restart hr⟩

/-- A key with a newline, which `POST /set` accepts, writes a `POLICY SET STRICT` line
of its own to the log: the next HTTP recovery switches to `STRICT`, which no one set. -/
theorem newline_key_sets_policy :
    ∃ kv t, Reachable (fun _ => True) kv t ∧ kv.decisionPolicy = .safeDefault ∧
      (Driver.http.recover kv.wal (.constant ⟨1, by decide, by decide⟩)).decisionPolicy = .strict :=
  ⟨_, _, (Reachable.start .http ⟨0, by decide, by decide⟩ trivial).call (.set "a\nPOLICY SET STRICT" "v")
    ⟨0, by decide, by decide⟩ trivial le_rfl, by decide, by decide⟩

end SentinelDB
