import SentinelDB.Store
import SentinelDB.Wal

/-!
# The engine state and its mutators

`KVStore` with its WAL files. Every mutator receives the clock readings it takes:
`set` reads `system_clock::now()` for the new version and `applyRetention` reads it again
after the WAL write, for each key it prunes.
-/

namespace SentinelDB

set_option autoImplicit false

inductive Status where
  | ok
  | notFound
  | error
  deriving DecidableEq, Repr

structure KVStore where
  store : Store := ∅
  wal : WAL
  walEnabled : Bool := true
  retentionPolicy : RetentionPolicy := {}
  guards : List Guard := []
  decisionPolicy : DecisionPolicy := .safeDefault

namespace KVStore

/-- `KVStore(walPtr)`. -/
def create (wal : WAL) : KVStore := { wal := wal }

/-- `KVStore::setAtTime`: append without logging, then apply retention. -/
def setAtTime (kv : KVStore) (key value : String) (timestamp : Int) (now : TimePoint) : KVStore :=
  { kv with
    store := (kv.store.emplaceBack key ⟨timestamp, value⟩).applyRetention kv.retentionPolicy now.ns key }

/-- `KVStore::set`: log first when enabled, then append a version stamped `now`;
`applyRetention` reads the clock again, at `pruneAt`. -/
def set (kv : KVStore) (key value : String) (now pruneAt : TimePoint) : KVStore :=
  ({ kv with wal := if kv.walEnabled then kv.wal.logSet key value now.ns else kv.wal }).setAtTime
    key value now.ns pruneAt

/-- `KVStore::get`: the latest version's value. -/
def get (kv : KVStore) (key : String) : Option String :=
  (kv.store.lookup key).bind fun versions => versions.getLast?.map Version.value

/-- `KVStore::del`: drop every version; `NOT_FOUND` when the key is absent. -/
def del (kv : KVStore) (key : String) : Status × KVStore :=
  if key ∈ kv.store then
    (.ok, { kv with
      wal := if kv.walEnabled then kv.wal.logDel key else kv.wal
      store := kv.store.erase key })
  else (.notFound, kv)

/-- `KVStore::getAtTime`. -/
def getAtTime (kv : KVStore) (key : String) (timestamp : Int) : Option String :=
  match kv.store.lookup key with
  | none => none
  | some [] => none
  | some versions => scanAtTime timestamp versions none

/-- `KVStore::getHistory`. -/
def getHistory (kv : KVStore) (key : String) : List Version := kv.store.history key

/-- `KVStore::exists`: the key has an entry, possibly with no version. -/
def «exists» (kv : KVStore) (key : String) : Bool := decide (key ∈ kv.store)

/-- `KVStore::size`: the number of entries. -/
def size (kv : KVStore) : Nat := kv.store.entries.length

def getAllData (kv : KVStore) : List (String × String) := kv.store.getAllData

def setWalEnabled (kv : KVStore) (enabled : Bool) : KVStore := { kv with walEnabled := enabled }

/-- `KVStore::setRetentionPolicy`: store the policy and prune every non-empty history;
`applyRetention` reads the clock for the key `k` at `pruneAt k`. -/
def setRetentionPolicy (kv : KVStore) (policy : RetentionPolicy) (pruneAt : String → TimePoint) : KVStore :=
  { kv with
    retentionPolicy := policy
    store := kv.store.mapHistories fun k versions =>
      if versions.isEmpty then versions else retain policy (pruneAt k).ns versions }

/-- `KVStore::setDecisionPolicy`: switch, then log `POLICY SET <name>` when enabled. -/
def setDecisionPolicy (kv : KVStore) (policy : DecisionPolicy) : KVStore :=
  { kv with
    decisionPolicy := policy
    wal := if kv.walEnabled then kv.wal.logPolicy policy.name else kv.wal }

def addGuard (kv : KVStore) (guard : Guard) : KVStore := { kv with guards := kv.guards ++ [guard] }

/-- `KVStore::removeGuard`: erase the first guard with that name. -/
def removeGuard (kv : KVStore) (name : String) : Bool × KVStore :=
  if kv.guards.any (fun g => g.name == name) then
    (true, { kv with guards := kv.guards.eraseP fun g => g.name == name })
  else (false, kv)

/-! ### Frame and effect lemmas -/

section
variable (kv : KVStore) (key value : String) (ts : Int) (now pruneAt : TimePoint)

@[simp] theorem setAtTime_wal : (kv.setAtTime key value ts now).wal = kv.wal := rfl
@[simp] theorem setAtTime_walEnabled : (kv.setAtTime key value ts now).walEnabled = kv.walEnabled := rfl
@[simp] theorem setAtTime_retentionPolicy :
    (kv.setAtTime key value ts now).retentionPolicy = kv.retentionPolicy := rfl
@[simp] theorem setAtTime_decisionPolicy :
    (kv.setAtTime key value ts now).decisionPolicy = kv.decisionPolicy := rfl
@[simp] theorem setAtTime_guards : (kv.setAtTime key value ts now).guards = kv.guards := rfl

theorem setAtTime_lookup (k : String) :
    (kv.setAtTime key value ts now).store.lookup k =
      if k = key then some (retain kv.retentionPolicy now.ns (kv.store.history key ++ [⟨ts, value⟩]))
      else kv.store.lookup k := by
  simp only [setAtTime, Store.lookup_applyRetention, Store.lookup_emplaceBack, Store.history]
  split <;> simp_all

@[simp] theorem set_wal : (kv.set key value now pruneAt).wal =
    if kv.walEnabled then kv.wal.logSet key value now.ns else kv.wal := rfl
@[simp] theorem set_walEnabled : (kv.set key value now pruneAt).walEnabled = kv.walEnabled := rfl
@[simp] theorem set_retentionPolicy :
    (kv.set key value now pruneAt).retentionPolicy = kv.retentionPolicy := rfl
@[simp] theorem set_decisionPolicy :
    (kv.set key value now pruneAt).decisionPolicy = kv.decisionPolicy := rfl

theorem set_lookup (k : String) :
    (kv.set key value now pruneAt).store.lookup k =
      if k = key then some (retain kv.retentionPolicy pruneAt.ns (kv.store.history key ++ [⟨now.ns, value⟩]))
      else kv.store.lookup k :=
  setAtTime_lookup _ key value now.ns pruneAt k

@[simp] theorem setWalEnabled_store (b : Bool) : (kv.setWalEnabled b).store = kv.store := rfl
@[simp] theorem setWalEnabled_wal (b : Bool) : (kv.setWalEnabled b).wal = kv.wal := rfl
@[simp] theorem setWalEnabled_walEnabled (b : Bool) : (kv.setWalEnabled b).walEnabled = b := rfl
@[simp] theorem setWalEnabled_retentionPolicy (b : Bool) :
    (kv.setWalEnabled b).retentionPolicy = kv.retentionPolicy := rfl
@[simp] theorem setWalEnabled_decisionPolicy (b : Bool) :
    (kv.setWalEnabled b).decisionPolicy = kv.decisionPolicy := rfl

variable (p : DecisionPolicy)

@[simp] theorem setDecisionPolicy_store : (kv.setDecisionPolicy p).store = kv.store := rfl
@[simp] theorem setDecisionPolicy_decisionPolicy : (kv.setDecisionPolicy p).decisionPolicy = p := rfl
@[simp] theorem setDecisionPolicy_walEnabled :
    (kv.setDecisionPolicy p).walEnabled = kv.walEnabled := rfl
@[simp] theorem setDecisionPolicy_retentionPolicy :
    (kv.setDecisionPolicy p).retentionPolicy = kv.retentionPolicy := rfl
@[simp] theorem setDecisionPolicy_wal : (kv.setDecisionPolicy p).wal =
    if kv.walEnabled then kv.wal.logPolicy p.name else kv.wal := rfl

end

section
variable (kv : KVStore) (key : String)

@[simp] theorem del_walEnabled : (kv.del key).2.walEnabled = kv.walEnabled := by
  unfold del; split <;> rfl
@[simp] theorem del_retentionPolicy : (kv.del key).2.retentionPolicy = kv.retentionPolicy := by
  unfold del; split <;> rfl
@[simp] theorem del_decisionPolicy : (kv.del key).2.decisionPolicy = kv.decisionPolicy := by
  unfold del; split <;> rfl

theorem del_lookup (k : String) :
    (kv.del key).2.store.lookup k = if k = key then none else kv.store.lookup k := by
  unfold del
  split
  · exact Store.lookup_erase _ _ _
  · rename_i h
    split
    · rename_i hk; subst hk; exact AList.lookup_eq_none.mpr h
    · rfl

theorem del_wal : (kv.del key).2.wal =
    if key ∈ kv.store ∧ kv.walEnabled then kv.wal.logDel key else kv.wal := by
  unfold del; split <;> simp_all

end

section
variable (kv : KVStore) (policy : RetentionPolicy) (pruneAt : String → TimePoint)

@[simp] theorem setRetentionPolicy_wal : (kv.setRetentionPolicy policy pruneAt).wal = kv.wal := rfl
@[simp] theorem setRetentionPolicy_walEnabled :
    (kv.setRetentionPolicy policy pruneAt).walEnabled = kv.walEnabled := rfl
@[simp] theorem setRetentionPolicy_decisionPolicy :
    (kv.setRetentionPolicy policy pruneAt).decisionPolicy = kv.decisionPolicy := rfl
@[simp] theorem setRetentionPolicy_retentionPolicy :
    (kv.setRetentionPolicy policy pruneAt).retentionPolicy = policy := rfl

theorem setRetentionPolicy_lookup (k : String) :
    (kv.setRetentionPolicy policy pruneAt).store.lookup k =
      (kv.store.lookup k).map (retain policy (pruneAt k).ns) := by
  simp only [setRetentionPolicy, Store.lookup_mapHistories]
  cases kv.store.lookup k with
  | none => rfl
  | some vs => cases vs <;> simp

end

section
variable (kv : KVStore) (g : Guard) (name : String)

@[simp] theorem addGuard_store : (kv.addGuard g).store = kv.store := rfl
@[simp] theorem addGuard_wal : (kv.addGuard g).wal = kv.wal := rfl
@[simp] theorem addGuard_walEnabled : (kv.addGuard g).walEnabled = kv.walEnabled := rfl
@[simp] theorem addGuard_retentionPolicy : (kv.addGuard g).retentionPolicy = kv.retentionPolicy := rfl
@[simp] theorem addGuard_decisionPolicy : (kv.addGuard g).decisionPolicy = kv.decisionPolicy := rfl

@[simp] theorem removeGuard_store : (kv.removeGuard name).2.store = kv.store := by
  unfold removeGuard; split <;> rfl
@[simp] theorem removeGuard_wal : (kv.removeGuard name).2.wal = kv.wal := by
  unfold removeGuard; split <;> rfl
@[simp] theorem removeGuard_walEnabled : (kv.removeGuard name).2.walEnabled = kv.walEnabled := by
  unfold removeGuard; split <;> rfl
@[simp] theorem removeGuard_retentionPolicy :
    (kv.removeGuard name).2.retentionPolicy = kv.retentionPolicy := by
  unfold removeGuard; split <;> rfl
@[simp] theorem removeGuard_decisionPolicy :
    (kv.removeGuard name).2.decisionPolicy = kv.decisionPolicy := by
  unfold removeGuard; split <;> rfl

end

end KVStore

end SentinelDB
