import SentinelDB.Restart

/-!
# The two recoveries against each other

The CLI loads the snapshot in two passes through `CommandParser::parse`, which reads the
command word in any case and wants two arguments for `SET`; the HTTP server loads it in one
pass with `istringstream >>`, which matches `SET` and `POLICY` literally and reads a
missing value as `""`. The WAL phases differ only in when logging is switched off.

On a snapshot whose lines both decoders read alike (`SnapshotLineAgrees`: a command word
that spells `SET` or `POLICY` in some case is written in capitals, and a `SET` has a key
and a value) the two recoveries build the same engine (`recoveries_agree`): each line of
the server's pass does what the CLI's policy pass and data pass do to it
(`replaySnapshotLine_eq_passes`), and the two passes commute (`foldl_two_passes`).
Otherwise they part: `set k v` is a write for the CLI and nothing for the server.
-/

namespace SentinelDB

set_option autoImplicit false

/-- The snapshot lines that both decoders read alike: a command word that spells `SET` or
`POLICY` in some case is written in capitals, and a `SET` has a key and a value. -/
def SnapshotLineAgrees (line : String) : Prop :=
  let tokens := CommandParser.tokenize line
  (toUpper (tokens.headD "") = "SET" → tokens.headD "" = "SET" ∧ 3 ≤ tokens.length) ∧
    (toUpper (tokens.headD "") = "POLICY" → tokens.headD "" = "POLICY")

instance : DecidablePred SnapshotLineAgrees := fun _ => inferInstanceAs (Decidable (_ ∧ _))

/-! ### The stream and the tokenizer -/

/-- The words `>>` extracts from a stream, one after another. -/
def streamWords : Option (List Char) → List String
  | none => []
  | some cs => CommandParser.splitWords cs []

namespace CommandParser

theorem splitWords_blanks {pre : List Char} (h : ∀ c ∈ pre, isSpace c = true) (cs : List Char) :
    splitWords (pre ++ cs) [] = splitWords cs [] := by
  induction pre with
  | nil => rfl
  | cons c pre ih =>
    rw [List.cons_append, splitWords, if_pos (h c (List.mem_cons_self c pre)), if_pos rfl]
    exact ih fun x hx => h x (List.mem_cons_of_mem c hx)

theorem splitWords_word_end {word cs : List Char} (hword : word ≠ [])
    (hcs : ∀ c ∈ cs.head?, isSpace c = true) :
    splitWords cs word = ⟨word.reverse⟩ :: splitWords cs [] := by
  cases cs with
  | nil => simp [splitWords, hword]
  | cons c cs => simp [splitWords, hcs c rfl, hword]

end CommandParser

theorem readWord_streamWords (x : Option (List Char)) :
    (readWord x).1 = (streamWords x).headD "" ∧ streamWords (readWord x).2 = (streamWords x).tail := by
  cases x with
  | none => exact ⟨rfl, rfl⟩
  | some cs =>
    have hsplit : streamWords (some cs) = CommandParser.splitWords (cs.dropWhile isSpace) [] := by
      conv_lhs => rw [streamWords, ← List.takeWhile_append_dropWhile isSpace cs]
      exact CommandParser.splitWords_blanks (fun c hc => List.mem_takeWhile_imp hc) _
    have hfirst := List.head?_dropWhile_not isSpace cs
    rw [hsplit]
    cases hd : cs.dropWhile isSpace with
    | nil =>
      rw [show readWord (some cs) = ("", none) by simp only [readWord, hd]]
      exact ⟨rfl, rfl⟩
    | cons c rest =>
      rw [hd] at hfirst
      have hc : isSpace c = false := by simpa using hfirst
      have hend : ∀ b ∈ (rest.dropWhile fun x => !isSpace x).head?, isSpace b = true := by
        have := List.head?_dropWhile_not (fun x => !isSpace x) rest
        intro b hb
        rw [hb] at this
        simpa using this
      have hword : ∀ x ∈ rest.takeWhile (fun x => !isSpace x), isSpace x = false := fun x hx => by
        simpa using List.mem_takeWhile_imp hx
      have hwords : CommandParser.splitWords (c :: rest) [] = ⟨c :: rest.takeWhile fun x => !isSpace x⟩ ::
          CommandParser.splitWords (rest.dropWhile fun x => !isSpace x) [] := by
        conv_lhs => rw [CommandParser.splitWords, if_neg (by simp [hc]),
          ← List.takeWhile_append_dropWhile (fun x => !isSpace x) rest]
        rw [CommandParser.splitWords_append_of_blank_free hword, CommandParser.splitWords_word_end (by simp) hend]
        simp
      rw [show readWord (some cs) = (⟨c :: rest.takeWhile fun x => !isSpace x⟩,
          some (rest.dropWhile fun x => !isSpace x)) by simp only [readWord, hd], hwords]
      exact ⟨rfl, rfl⟩

/-! ### One snapshot line -/

theorem getCommandType_set {w : String} (h : CommandParser.getCommandType w = .set) : toUpper w = "SET" := by
  simp only [CommandParser.getCommandType, ite_eq_iff, reduceCtorEq, and_false, false_or, or_false, and_true] at h
  exact h

theorem getCommandType_policy {w : String} (h : CommandParser.getCommandType w = .policy) :
    toUpper w = "POLICY" := by
  simp only [CommandParser.getCommandType, ite_eq_iff, reduceCtorEq, and_false, false_or, or_false, and_true] at h
  exact h.2.2.2.2.2.2.2.2.2

theorem parse_type_cases (input : String) :
    (CommandParser.parse input).type = .getAt ∨ (CommandParser.parse input).type = .explain ∨
      (CommandParser.parse input).type = CommandParser.getCommandType ((CommandParser.tokenize input).getD 0 "") := by
  unfold CommandParser.parse
  dsimp only
  split_ifs with h0
  · rw [h0]; exact .inr (.inr rfl)
  all_goals simp

theorem parse_type_ne_set {input : String}
    (h : toUpper ((CommandParser.tokenize input).getD 0 "") ≠ "SET") : (CommandParser.parse input).type ≠ .set := by
  rcases parse_type_cases input with he | he | he <;> rw [he]
  · decide
  · decide
  · exact fun hs => h (getCommandType_set hs)

theorem parse_type_ne_policy {input : String}
    (h : toUpper ((CommandParser.tokenize input).getD 0 "") ≠ "POLICY") :
    (CommandParser.parse input).type ≠ .policy := by
  rcases parse_type_cases input with he | he | he <;> rw [he]
  · decide
  · decide
  · exact fun hs => h (getCommandType_policy hs)

@[simp] theorem DecisionPolicy.ofName?_empty : DecisionPolicy.ofName? "" = none := by decide

theorem decodePolicyLine_eq (line : String) :
    decodePolicyLine line =
      match CommandParser.tokenize line with
      | "POLICY" :: "SET" :: name :: _ => DecisionPolicy.ofName? name
      | _ => none := by
  obtain ⟨h1, h2⟩ := readWord_streamWords (some line.data)
  obtain ⟨h3, h4⟩ := readWord_streamWords (readWord (some line.data)).2
  obtain ⟨h5, -⟩ := readWord_streamWords (readWord (readWord (some line.data)).2).2
  unfold decodePolicyLine
  simp only [h5, h4, h3, h2, h1]
  change _ = match streamWords (some line.data) with
    | "POLICY" :: "SET" :: name :: _ => DecisionPolicy.ofName? name
    | _ => none
  clear h1 h2 h3 h4 h5
  rcases streamWords (some line.data) with _ | ⟨w, _ | ⟨s, _ | ⟨n, rest⟩⟩⟩ <;>
    simp [DecisionPolicy.ofName?_empty]
  split_ifs <;> simp_all

namespace CliMain

theorem loadSnapshotPolicy_of_ne {line : String} (h : (CommandParser.parse line).type ≠ .policy) (kv : KVStore) :
    loadSnapshotPolicy kv line = kv := by
  unfold loadSnapshotPolicy
  dsimp only
  rw [if_neg fun h' => h h'.1]

theorem loadSnapshotData_of_ne {line : String} (h : (CommandParser.parse line).type ≠ .set) (now : TimePoint)
    (kv : KVStore) : loadSnapshotData now kv line = kv := by
  unfold loadSnapshotData
  dsimp only
  rw [if_neg fun h' => h h'.1]

theorem loadSnapshot_passes_commute (now : TimePoint) (kv : KVStore) (x y : String) :
    loadSnapshotData now (loadSnapshotPolicy kv x) y = loadSnapshotPolicy (loadSnapshotData now kv y) x := by
  unfold loadSnapshotData loadSnapshotPolicy
  dsimp only
  split_ifs <;> (try split) <;> rfl

end CliMain

/-- Each line of the server's snapshot pass does what the CLI's two passes do to it. -/
theorem replaySnapshotLine_eq_passes (now : TimePoint) (kv : KVStore) {line : String}
    (h : SnapshotLineAgrees line) :
    HttpServer.replaySnapshotLine now kv line =
      CliMain.loadSnapshotData now (CliMain.loadSnapshotPolicy kv line) line := by
  obtain ⟨h1, h2⟩ := readWord_streamWords (some line.data)
  obtain ⟨h3, h4⟩ := readWord_streamWords (readWord (some line.data)).2
  obtain ⟨h5, -⟩ := readWord_streamWords (readWord (readWord (some line.data)).2).2
  unfold HttpServer.replaySnapshotLine
  simp only [h5, h4, h3, h2, h1, show streamWords (some line.data) = CommandParser.tokenize line from rfl]
  clear h1 h2 h3 h4 h5
  unfold SnapshotLineAgrees at h
  rcases ht : CommandParser.tokenize line with _ | ⟨w, rest⟩
  · have hset := parse_type_ne_set (by rw [ht]; decide : toUpper ((CommandParser.tokenize line).getD 0 "") ≠ "SET")
    have hpol := parse_type_ne_policy
      (by rw [ht]; decide : toUpper ((CommandParser.tokenize line).getD 0 "") ≠ "POLICY")
    simp [CliMain.loadSnapshotPolicy_of_ne hpol, CliMain.loadSnapshotData_of_ne hset]
  rw [ht] at h
  by_cases hs : toUpper w = "SET"
  · obtain ⟨rfl, hlen⟩ := h.1 hs
    obtain ⟨a, b, rest, rfl⟩ : ∃ a b r, rest = a :: b :: r := by
      rcases rest with _ | ⟨a, _ | ⟨b, r⟩⟩
      · simp at hlen
      · simp at hlen
      · exact ⟨a, b, r, rfl⟩
    have hparse := CommandParser.parse_of_tokenize ht (by decide) (by decide)
    have hty : CommandParser.getCommandType "SET" = .set := by decide
    rw [CliMain.loadSnapshotPolicy_of_ne (by rw [hparse, hty]; nofun)]
    unfold CliMain.loadSnapshotData
    simp only [hparse, hty, List.headD_cons, List.tail_cons, if_true, true_and]
    rw [if_neg (by decide), if_pos (show 2 ≤ (a :: b :: rest).length from Nat.le_add_left 2 rest.length)]
    rfl
  by_cases hp : toUpper w = "POLICY"
  · obtain rfl := h.2 hp
    have hparse := CommandParser.parse_of_tokenize ht (by decide) (by decide)
    have hty : CommandParser.getCommandType "POLICY" = .policy := by decide
    rw [CliMain.loadSnapshotData_of_ne (by rw [hparse, hty]; simp : (CommandParser.parse line).type ≠ .set),
      decodePolicyLine_eq, ht]
    simp only [CliMain.loadSnapshotPolicy, hparse, hty]
    rcases rest with _ | ⟨a, _ | ⟨b, r⟩⟩
    · simp
    · simp
    · by_cases ha : a = "SET"
      · subst ha; simp
      · simp [ha]
  · have hw1 : w ≠ "POLICY" := fun hw => hp (by rw [hw]; decide)
    have hw2 : w ≠ "SET" := fun hw => hs (by rw [hw]; decide)
    have hset := parse_type_ne_set (by rw [ht]; exact hs : toUpper ((CommandParser.tokenize line).getD 0 "") ≠ "SET")
    have hpol := parse_type_ne_policy
      (by rw [ht]; exact hp : toUpper ((CommandParser.tokenize line).getD 0 "") ≠ "POLICY")
    simp [CliMain.loadSnapshotPolicy_of_ne hpol, CliMain.loadSnapshotData_of_ne hset, hw1, hw2]

/-! ### Two passes against one -/

section Passes

variable {α β : Type} (f g : β → α → β) (hcomm : ∀ b x y, g (f b x) y = f (g b y) x)
include hcomm

theorem foldl_comm_step (y : α) (xs : List α) (b : β) : g (xs.foldl f b) y = xs.foldl f (g b y) := by
  induction xs generalizing b with
  | nil => rfl
  | cons x xs ih => rw [List.foldl_cons, ih, hcomm, List.foldl_cons]

theorem foldl_two_passes (xs : List α) (b : β) :
    xs.foldl (fun b x => g (f b x) x) b = xs.foldl g (xs.foldl f b) := by
  induction xs generalizing b with
  | nil => rfl
  | cons x xs ih => rw [List.foldl_cons, ih, List.foldl_cons, List.foldl_cons, foldl_comm_step f g hcomm]

end Passes

/-! ### Logging during the replay -/

theorem foldl_walEnabled {f : KVStore → String → KVStore} (hf : ∀ kv line, (f kv line).walEnabled = kv.walEnabled)
    (lines : List String) (kv : KVStore) : (lines.foldl f kv).walEnabled = kv.walEnabled := by
  induction lines generalizing kv with
  | nil => rfl
  | cons line lines ih => rw [List.foldl_cons, ih, hf]

theorem setWalEnabled_of_walEnabled {kv : KVStore} {b : Bool} (h : kv.walEnabled = b) : kv.setWalEnabled b = kv := by
  cases kv
  cases h
  rfl

theorem CliMain.loadSnapshotPolicy_walEnabled (kv : KVStore) (line : String) :
    (CliMain.loadSnapshotPolicy kv line).walEnabled = kv.walEnabled := by
  rcases CliMain.loadSnapshotPolicy_cases kv line with he | ⟨p, he⟩ <;> rw [he]
  rfl

theorem CliMain.loadSnapshotData_walEnabled (now : TimePoint) (kv : KVStore) (line : String) :
    (CliMain.loadSnapshotData now kv line).walEnabled = kv.walEnabled := by
  rcases CliMain.loadSnapshotData_cases now kv line with he | ⟨_, _, _, _, he⟩ <;> rw [he]
  rfl

theorem HttpServer.replayPolicyLine_walEnabled (kv : KVStore) (line : String) :
    (HttpServer.replayPolicyLine kv line).walEnabled = kv.walEnabled := by
  rcases HttpServer.replayPolicyLine_cases kv line with he | ⟨p, he⟩ <;> rw [he]
  rfl

theorem foldl_replayPolicyLine {kv : KVStore} (h : kv.walEnabled = false) (lines : List String) :
    lines.foldl CliMain.replayPolicyLine kv = lines.foldl HttpServer.replayPolicyLine kv := by
  induction lines generalizing kv with
  | nil => rfl
  | cons line lines ih =>
    have hstep : CliMain.replayPolicyLine kv line = HttpServer.replayPolicyLine kv line := by
      unfold CliMain.replayPolicyLine HttpServer.replayPolicyLine
      rw [setWalEnabled_of_walEnabled h]
    rw [List.foldl_cons, List.foldl_cons, hstep,
      ih (by rw [HttpServer.replayPolicyLine_walEnabled, h])]

/-- From a state with logging off, the CLI's WAL block, entered with logging on, ends where
the server's does once it switches logging back on. -/
theorem cliReplayWal_eq {S : KVStore} (hS : S.walEnabled = false) (clock : Nat → TimePoint) (lines : List String) :
    CliMain.replayWal clock (S.setWalEnabled true) lines = (HttpServer.replayWal clock S lines).setWalEnabled true := by
  unfold CliMain.replayWal HttpServer.replayWal
  split
  · rfl
  · rw [show (S.setWalEnabled true).setWalEnabled false = S from setWalEnabled_of_walEnabled hS,
      foldl_replayPolicyLine hS]

/-- Read at one clock, the two recoveries build the same engine. -/
theorem recover_constant_eq (wal : WAL) (h : ∀ line ∈ wal.readSnapshot, SnapshotLineAgrees line)
    (now : TimePoint) : CliMain.recover wal (.constant now) = HttpServer.recover wal (.constant now) := by
  have hsnap : wal.readSnapshot.foldl (HttpServer.replaySnapshotLine now) ((KVStore.create wal).setWalEnabled false) =
      wal.readSnapshot.foldl (CliMain.loadSnapshotData now)
        (wal.readSnapshot.foldl CliMain.loadSnapshotPolicy ((KVStore.create wal).setWalEnabled false)) := by
    rw [← foldl_two_passes _ _ (CliMain.loadSnapshot_passes_commute now)]
    exact List.foldl_ext _ _ _ fun kv line hl => replaySnapshotLine_eq_passes now kv (h line hl)
  have hS : (wal.readSnapshot.foldl (CliMain.loadSnapshotData now)
      (wal.readSnapshot.foldl CliMain.loadSnapshotPolicy ((KVStore.create wal).setWalEnabled false))).walEnabled =
        false := by
    rw [foldl_walEnabled (CliMain.loadSnapshotData_walEnabled now), foldl_walEnabled CliMain.loadSnapshotPolicy_walEnabled]
    rfl
  unfold CliMain.recover HttpServer.recover CliMain.loadSnapshot
  rw [RecoveryClock.constant, foldLines_const, hsnap, ← cliReplayWal_eq hS]
  split
  · next hnil => rw [hnil]; rfl
  · rfl

/-! ### Recoveries up to the stamps

Recovery runs under `FULL`, where a clock reading only stamps the version it writes: two
recoveries of one file that read the clock differently hold the same values. -/

/-- Two engines under `FULL` with the same decision policy and, key by key, the same
values in the same order; only the stamps may differ. -/
structure SameValues (kv₁ kv₂ : KVStore) : Prop where
  decisionPolicy : kv₁.decisionPolicy = kv₂.decisionPolicy
  full₁ : kv₁.retentionPolicy = {}
  full₂ : kv₂.retentionPolicy = {}
  values (k : String) :
    (kv₁.store.lookup k).map (List.map Version.value) = (kv₂.store.lookup k).map (List.map Version.value)

theorem KVStore.get_eq_values (kv : KVStore) (k : String) :
    kv.get k = ((kv.store.lookup k).map (List.map Version.value)).bind List.getLast? := by
  unfold KVStore.get
  cases kv.store.lookup k <;> simp [List.getLast?_map]

namespace SameValues

variable {kv₁ kv₂ kv₃ : KVStore}

theorem trans (h : SameValues kv₁ kv₂) (h' : SameValues kv₂ kv₃) : SameValues kv₁ kv₃ :=
  ⟨h.decisionPolicy.trans h'.decisionPolicy, h.full₁, h'.full₂, fun k => (h.values k).trans (h'.values k)⟩

theorem get (h : SameValues kv₁ kv₂) (k : String) : kv₁.get k = kv₂.get k := by
  rw [KVStore.get_eq_values, KVStore.get_eq_values, h.values]

theorem setAtTime (h : SameValues kv₁ kv₂) (key value : String) (ts₁ ts₂ : Int) (n₁ n₂ : TimePoint) :
    SameValues (kv₁.setAtTime key value ts₁ n₁) (kv₂.setAtTime key value ts₂ n₂) := by
  refine ⟨h.decisionPolicy, h.full₁, h.full₂, fun k => ?_⟩
  rw [setAtTime_lookup_default n₁ k h.full₁, setAtTime_lookup_default n₂ k h.full₂, appendHistory, appendHistory]
  split
  · next hk =>
    subst hk
    have := h.values k
    rcases h₁ : kv₁.store.lookup k <;> rcases h₂ : kv₂.store.lookup k <;> simp_all
  · exact h.values k

theorem del (h : SameValues kv₁ kv₂) (key : String) : SameValues (kv₁.del key).2 (kv₂.del key).2 := by
  refine ⟨by simp [h.decisionPolicy], by simp [h.full₁], by simp [h.full₂], fun k => ?_⟩
  rw [KVStore.del_lookup, KVStore.del_lookup]
  split
  · rfl
  · exact h.values k

theorem setDecisionPolicy (h : SameValues kv₁ kv₂) (p : DecisionPolicy) :
    SameValues (kv₁.setDecisionPolicy p) (kv₂.setDecisionPolicy p) :=
  ⟨rfl, h.full₁, h.full₂, h.values⟩

theorem setWalEnabled (h : SameValues kv₁ kv₂) (b₁ b₂ : Bool) :
    SameValues (kv₁.setWalEnabled b₁) (kv₂.setWalEnabled b₂) :=
  ⟨h.decisionPolicy, h.full₁, h.full₂, h.values⟩

/-! Every line of either main, read at two clocks. -/

theorem replayDataLine (h : SameValues kv₁ kv₂) (t₁ t₂ : TimePoint) (line : String) :
    SameValues (SentinelDB.replayDataLine t₁ kv₁ line) (SentinelDB.replayDataLine t₂ kv₂ line) := by
  unfold SentinelDB.replayDataLine
  repeat' split
  all_goals first | exact h | exact h.del _ | exact h.setAtTime _ _ _ _ _ _

theorem replaySnapshotLine (h : SameValues kv₁ kv₂) (t₁ t₂ : TimePoint) (line : String) :
    SameValues (HttpServer.replaySnapshotLine t₁ kv₁ line) (HttpServer.replaySnapshotLine t₂ kv₂ line) := by
  unfold HttpServer.replaySnapshotLine
  repeat' split
  all_goals first | exact h | exact h.setDecisionPolicy _ | exact h.setAtTime _ _ _ _ _ _

theorem loadSnapshotData (h : SameValues kv₁ kv₂) (t₁ t₂ : TimePoint) (line : String) :
    SameValues (CliMain.loadSnapshotData t₁ kv₁ line) (CliMain.loadSnapshotData t₂ kv₂ line) := by
  unfold CliMain.loadSnapshotData
  dsimp only
  split_ifs
  · exact h.setAtTime _ _ _ _ _ _
  · exact h

theorem loadSnapshotPolicy (h : SameValues kv₁ kv₂) (line : String) :
    SameValues (CliMain.loadSnapshotPolicy kv₁ line) (CliMain.loadSnapshotPolicy kv₂ line) := by
  unfold CliMain.loadSnapshotPolicy
  dsimp only
  split_ifs
  · split
    · exact h.setDecisionPolicy _
    · exact h
  · exact h

theorem cliReplayPolicyLine (h : SameValues kv₁ kv₂) (line : String) :
    SameValues (CliMain.replayPolicyLine kv₁ line) (CliMain.replayPolicyLine kv₂ line) := by
  unfold CliMain.replayPolicyLine
  split
  · exact (h.setWalEnabled false false).setDecisionPolicy _
  · exact h

theorem httpReplayPolicyLine (h : SameValues kv₁ kv₂) (line : String) :
    SameValues (HttpServer.replayPolicyLine kv₁ line) (HttpServer.replayPolicyLine kv₂ line) := by
  unfold HttpServer.replayPolicyLine
  split
  · exact h.setDecisionPolicy _
  · exact h

/-! The loops. -/

theorem foldl {f g : KVStore → String → KVStore}
    (hfg : ∀ {kv₁ kv₂ : KVStore} line, SameValues kv₁ kv₂ → SameValues (f kv₁ line) (g kv₂ line))
    (lines : List String) : ∀ {kv₁ kv₂ : KVStore}, SameValues kv₁ kv₂ →
      SameValues (lines.foldl f kv₁) (lines.foldl g kv₂) := by
  induction lines with
  | nil => exact fun h => h
  | cons line lines ih => exact fun h => ih (hfg line h)

theorem foldLines {step : TimePoint → KVStore → String → KVStore}
    (hstep : ∀ {kv₁ kv₂ : KVStore} t₁ t₂ line, SameValues kv₁ kv₂ →
      SameValues (step t₁ kv₁ line) (step t₂ kv₂ line))
    (lines : List String) : ∀ (c₁ c₂ : Nat → TimePoint) {kv₁ kv₂ : KVStore}, SameValues kv₁ kv₂ →
      SameValues (SentinelDB.foldLines step c₁ kv₁ lines) (SentinelDB.foldLines step c₂ kv₂ lines) := by
  induction lines with
  | nil => exact fun _ _ _ _ h => h
  | cons line lines ih => exact fun c₁ c₂ _ _ h => ih _ _ (hstep (c₁ 0) (c₂ 0) line h)

theorem cliReplayWal (h : SameValues kv₁ kv₂) (c₁ c₂ : Nat → TimePoint) (lines : List String) :
    SameValues (CliMain.replayWal c₁ kv₁ lines) (CliMain.replayWal c₂ kv₂ lines) := by
  unfold CliMain.replayWal
  split
  · exact h
  · exact (foldLines (fun t₁ t₂ line h => h.replayDataLine t₁ t₂ line) lines c₁ c₂
      (foldl (fun line h => h.cliReplayPolicyLine line) lines (h.setWalEnabled false false))).setWalEnabled true true

theorem httpReplayWal (h : SameValues kv₁ kv₂) (c₁ c₂ : Nat → TimePoint) (lines : List String) :
    SameValues (HttpServer.replayWal c₁ kv₁ lines) (HttpServer.replayWal c₂ kv₂ lines) := by
  unfold HttpServer.replayWal
  split
  · exact h
  · exact foldLines (fun t₁ t₂ line h => h.replayDataLine t₁ t₂ line) lines c₁ c₂
      (foldl (fun line h => h.httpReplayPolicyLine line) lines h)

theorem create (wal : WAL) : SameValues (KVStore.create wal) (KVStore.create wal) :=
  ⟨rfl, rfl, rfl, fun _ => rfl⟩

end SameValues

theorem CliMain.recover_sameValues (wal : WAL) (clock₁ clock₂ : RecoveryClock) :
    SameValues (CliMain.recover wal clock₁) (CliMain.recover wal clock₂) := by
  refine SameValues.cliReplayWal ?_ _ _ _
  unfold CliMain.loadSnapshot
  split
  · exact .create wal
  · exact (SameValues.foldl (fun line h => h.loadSnapshotData clock₁.snapshotTime clock₂.snapshotTime line) _
      (SameValues.foldl (fun line h => h.loadSnapshotPolicy line) _
        ((SameValues.create wal).setWalEnabled false false))).setWalEnabled true true

theorem HttpServer.recover_sameValues (wal : WAL) (clock₁ clock₂ : RecoveryClock) :
    SameValues (HttpServer.recover wal clock₁) (HttpServer.recover wal clock₂) :=
  (SameValues.httpReplayWal (SameValues.foldLines (fun t₁ t₂ line h => h.replaySnapshotLine t₁ t₂ line) _ _ _
    ((SameValues.create wal).setWalEnabled false false)) _ _ _).setWalEnabled true true

/-- The CLI and the HTTP server, at any clock readings, recover the same policy and values from
every snapshot whose lines both decoders read alike. -/
theorem recoveries_agree (wal : WAL) (h : ∀ line ∈ wal.readSnapshot, SnapshotLineAgrees line)
    (clock₁ clock₂ : RecoveryClock) :
    (CliMain.recover wal clock₁).decisionPolicy = (HttpServer.recover wal clock₂).decisionPolicy ∧
      ∀ k, (CliMain.recover wal clock₁).get k = (HttpServer.recover wal clock₂).get k := by
  have hsame : SameValues (CliMain.recover wal clock₁) (HttpServer.recover wal clock₂) := by
    have hcli := CliMain.recover_sameValues wal clock₁ (.constant clock₁.snapshotTime)
    rw [recover_constant_eq wal h] at hcli
    exact hcli.trans (HttpServer.recover_sameValues wal _ clock₂)
  exact ⟨hsame.decisionPolicy, hsame.get⟩

/-- A snapshot holding a well-formed line and the WAL's records agrees, the CLI reading
the clock once and the server line by line. -/
theorem recoveries_agree_at_policy :
    let wal : WAL := { snapshot := ["POLICY SET STRICT", "SET k v"], log := ["SET k w 5", "DEL j", "SET j u"] }
    let clock₁ : RecoveryClock := .constant ⟨7000000, by decide, by decide⟩
    let clock₂ : RecoveryClock := ⟨⟨8000000, by decide, by decide⟩, fun i => ⟨9000000 + (i % 1000 : Nat), by omega, by omega⟩,
      fun i => ⟨9500000 + (i % 1000 : Nat), by omega, by omega⟩⟩
    (∀ line ∈ wal.readSnapshot, SnapshotLineAgrees line) ∧
      ((CliMain.recover wal clock₁).decisionPolicy = (HttpServer.recover wal clock₂).decisionPolicy ∧
        ∀ k, (CliMain.recover wal clock₁).get k = (HttpServer.recover wal clock₂).get k) :=
  have h : ∀ line ∈ WAL.readSnapshot
      { snapshot := ["POLICY SET STRICT", "SET k v"], log := ["SET k w 5", "DEL j", "SET j u"] },
      SnapshotLineAgrees line := by decide
  ⟨h, recoveries_agree _ h _ _⟩

/-- The CLI writes `set k v` of the snapshot and the server skips it; the server writes
`SET k` with an empty value and the CLI skips it. -/
theorem snapshot_case_and_arity_diverge :
    let clock : RecoveryClock := .constant ⟨0, by decide, by decide⟩
    (CliMain.recover { snapshot := ["set k v"] } clock).get "k" = some "v" ∧
      (HttpServer.recover { snapshot := ["set k v"] } clock).get "k" = none ∧
      (CliMain.recover { snapshot := ["SET k"] } clock).get "k" = none ∧
      (HttpServer.recover { snapshot := ["SET k"] } clock).get "k" = some "" := by
  decide

end SentinelDB
