import SentinelDB.History
import SentinelDB.Guard

/-!
# WAL and snapshot files

A `WAL` object owns the log file and the sibling `snapshot.db`. Both are modelled by
the records written to them, in order; in the file each record is followed by a
newline, and reading a file back splits it with `std::getline` and drops empty lines.
I/O never fails in the model.
-/

namespace SentinelDB

set_option autoImplicit false

/-- The name `KVStore::setDecisionPolicy` and `handleSnapshot` write for a policy. -/
def DecisionPolicy.name : DecisionPolicy → String
  | .devFriendly => "DEV_FRIENDLY"
  | .safeDefault => "SAFE_DEFAULT"
  | .strict => "STRICT"

/-- The name test both replay loops apply to a `POLICY SET` record. -/
def DecisionPolicy.ofName? (policyName : String) : Option DecisionPolicy :=
  if policyName = "DEV_FRIENDLY" then some .devFriendly
  else if policyName = "SAFE_DEFAULT" then some .safeDefault
  else if policyName = "STRICT" then some .strict
  else none

@[simp] theorem DecisionPolicy.ofName?_name (p : DecisionPolicy) : DecisionPolicy.ofName? p.name = some p := by
  cases p <;> decide

/-- `std::string::find_last_of(set)`: the index of the last character in `set`, or `npos`. -/
def findLastOf (set : List Char) : List Char → Option Nat
  | [] => none
  | c :: cs =>
    match findLastOf set cs with
    | some i => some (i + 1)
    | none => if c ∈ set then some 0 else none

theorem findLastOf_append_cons (set l : List Char) {c : Char} (hc : c ∈ set) {r : List Char}
    (hr : findLastOf set r = none) : findLastOf set (l ++ c :: r) = some l.length := by
  induction l with
  | nil => simp only [List.nil_append, findLastOf, hr, if_pos hc, List.length_nil]
  | cons x l ih =>
    rw [List.cons_append, findLastOf, ih]
    rfl

/-- The snapshot path `WAL::WAL` derives from the WAL path: `snapshot.db` in the WAL's
directory, the part of the path before its last `/` or `\`. -/
def snapshotPath (walPath : String) : String :=
  match findLastOf ['/', '\\'] walPath.data with
  | some lastSlash => ⟨walPath.data.take lastSlash⟩ ++ "/snapshot.db"
  | none => "snapshot.db"

/-- The snapshot is a file of its own unless the WAL file is itself named `snapshot.db`. -/
theorem snapshotPath_eq_walPath_iff (walPath : String) :
    snapshotPath walPath = walPath ↔ walPath = "snapshot.db" ∨ ∃ dir, walPath = dir ++ "/snapshot.db" := by
  constructor
  · unfold snapshotPath
    split
    · exact fun h => .inr ⟨_, h.symm⟩
    · exact fun h => .inl h.symm
  · rintro (rfl | ⟨dir, rfl⟩)
    · rfl
    · have hdata : (dir ++ "/snapshot.db").data = dir.data ++ '/' :: "snapshot.db".data := String.data_append _ _
      unfold snapshotPath
      rw [hdata, findLastOf_append_cons _ _ (by decide) (by decide)]
      dsimp only
      rw [List.take_left]

/-- The files of one WAL path, log and snapshot; a missing snapshot reads as an empty one. -/
structure WAL where
  log : List String := []
  snapshot : List String := []
  deriving DecidableEq, Repr

namespace WAL

/-- The bytes of a file holding `records`. -/
def contents (records : List String) : List Char := (records.map fun r => r.data ++ ['\n']).flatten

/-- The loop of `readLog` and `readSnapshot`: every non-empty line of the file. -/
def readLines (records : List String) : List String :=
  (getlines '\n' (contents records) []).filter fun line => line ≠ ""

def readLog (w : WAL) : List String := readLines w.log

def readSnapshot (w : WAL) : List String := readLines w.snapshot

/-- The record `WAL::logSet` appends: `SET key value epochMs`. -/
def setRecord (key value : String) (timestamp : Int) : String :=
  "SET " ++ key ++ " " ++ value ++ " " ++ toString (toMillis timestamp)

/-- The record `WAL::logDel` appends. -/
def delRecord (key : String) : String := "DEL " ++ key

/-- The record `WAL::logPolicy` appends, also the first line of a snapshot. -/
def policyRecord (policyName : String) : String := "POLICY SET " ++ policyName

/-- A snapshot line for one key: `SET key value`, without timestamp. -/
def snapshotRecord (key value : String) : String := "SET " ++ key ++ " " ++ value

def logSet (w : WAL) (key value : String) (timestamp : Int) : WAL :=
  { w with log := w.log ++ [setRecord key value timestamp] }

def logDel (w : WAL) (key : String) : WAL := { w with log := w.log ++ [delRecord key] }

def logPolicy (w : WAL) (policyName : String) : WAL :=
  { w with log := w.log ++ [policyRecord policyName] }

/-- `WAL::createSnapshot`: rewrite the snapshot, then `clearLog` truncates the log. -/
def createSnapshot (data : List (String × String)) (currentPolicy : String) : WAL :=
  { snapshot := (if currentPolicy.isEmpty then [] else [policyRecord currentPolicy]) ++
      data.map fun kv => snapshotRecord kv.1 kv.2
    log := [] }

/-! ### Reading records back -/

theorem getlines_append_delim_split (d : Char) (cs rest piece : List Char) :
    getlines d (cs ++ d :: rest) piece = getlines d (cs ++ [d]) piece ++ getlines d rest [] := by
  induction cs generalizing piece with
  | nil => simp [getlines]
  | cons c cs ih =>
    simp only [List.cons_append, getlines, List.append_eq]
    split
    · rw [ih []]; rfl
    · exact ih (c :: piece)

theorem readLines_cons (r : String) (rs : List String) :
    readLines (r :: rs) = readLines [r] ++ readLines rs := by
  have h := getlines_append_delim_split '\n' r.data (contents rs) []
  simp only [readLines, contents, List.map_cons, List.flatten_cons, List.map_nil, List.flatten_nil,
    List.append_nil, List.append_assoc, List.singleton_append] at h ⊢
  rw [h, List.filter_append]

theorem readLines_append (rs ss : List String) :
    readLines (rs ++ ss) = readLines rs ++ readLines ss := by
  induction rs with
  | nil => rfl
  | cons r rs ih => rw [List.cons_append, readLines_cons, ih, readLines_cons r rs, List.append_assoc]

theorem readLines_single {r : String} (hr : NoNewline r) (hne : r ≠ "") : readLines [r] = [r] := by
  have h := getlines_append_delim '\n' r.data [] [] hr
  simp [readLines, contents, h, getlines, hne]

theorem readLines_of_lines {rs : List String} (h : ∀ r ∈ rs, NoNewline r ∧ r ≠ "") :
    readLines rs = rs := by
  induction rs with
  | nil => rfl
  | cons r rs ih =>
    rw [readLines_cons, readLines_single (h r (List.mem_cons_self r rs)).1
      (h r (List.mem_cons_self r rs)).2, ih fun s hs => h s (List.mem_cons_of_mem r hs)]
    rfl

end WAL

end SentinelDB
