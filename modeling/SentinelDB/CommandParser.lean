import SentinelDB.Text

/-!
# The CLI command parser

`CommandParser::parse`: whitespace tokens, a case-insensitive command word, and the
two special forms `GET key AT timestamp` and `EXPLAIN GET key AT timestamp` whose
timestamp tokens are joined back with single spaces. The CLI main also decodes
snapshot lines with it.
-/

namespace SentinelDB

set_option autoImplicit false

inductive CommandType where
  | set | get | getAt | history | explain | del | snapshot | config | propose | guard | policy
  | exit | invalid
  deriving DecidableEq, Repr

structure Command where
  type : CommandType := .invalid
  args : List String := []
  deriving DecidableEq, Repr

namespace CommandParser

/-- Repeated `iss >> token`, with `word` the reversed characters of the run being read. -/
def splitWords : List Char → List Char → List String
  | [], word => if word = [] then [] else [⟨word.reverse⟩]
  | c :: cs, word =>
    if isSpace c then (if word = [] then splitWords cs [] else ⟨word.reverse⟩ :: splitWords cs [])
    else splitWords cs (c :: word)

/-- `CommandParser::tokenize`. -/
def tokenize (input : String) : List String := splitWords input.data []

/-- `CommandParser::getCommandType`. -/
def getCommandType (cmd : String) : CommandType :=
  let upper := toUpper cmd
  if upper = "SET" then .set
  else if upper = "GET" then .get
  else if upper = "DEL" then .del
  else if upper = "HISTORY" then .history
  else if upper = "SNAPSHOT" then .snapshot
  else if upper = "CONFIG" then .config
  else if upper = "EXPLAIN" then .explain
  else if upper = "PROPOSE" then .propose
  else if upper = "GUARD" then .guard
  else if upper = "POLICY" then .policy
  else if upper = "EXIT" ∨ upper = "QUIT" then .exit
  else .invalid

/-- `CommandParser::parse`. -/
def parse (input : String) : Command :=
  let tokens := tokenize input
  if tokens = [] then { type := .invalid }
  else if 4 ≤ tokens.length ∧ getCommandType (tokens.getD 0 "") = .get ∧
      toUpper (tokens.getD 2 "") = "AT" then
    { type := .getAt, args := [tokens.getD 1 "", " ".intercalate (tokens.drop 3)] }
  else if 5 ≤ tokens.length ∧ getCommandType (tokens.getD 0 "") = .explain ∧
      toUpper (tokens.getD 1 "") = "GET" ∧ toUpper (tokens.getD 3 "") = "AT" then
    { type := .explain, args := [tokens.getD 2 "", " ".intercalate (tokens.drop 4)] }
  else { type := getCommandType (tokens.getD 0 ""), args := tokens.drop 1 }

/-! ### Tokens -/

theorem splitWords_append_of_blank_free {cs : List Char} (hcs : ∀ c ∈ cs, isSpace c = false)
    (word rest : List Char) : splitWords (cs ++ rest) word = splitWords rest (cs.reverse ++ word) := by
  induction cs generalizing word with
  | nil => rfl
  | cons c cs ih =>
    have hc := hcs c (List.mem_cons_self c cs)
    simp only [List.cons_append, splitWords, hc, Bool.false_eq_true, ↓reduceIte, List.append_eq]
    rw [ih (fun x hx => hcs x (List.mem_cons_of_mem c hx))]
    simp

theorem splitWords_token_append {w : String} (hw : IsToken w) (word rest : List Char) :
    splitWords (w.data ++ rest) word = splitWords rest (w.data.reverse ++ word) :=
  splitWords_append_of_blank_free hw.2 word rest

theorem splitWords_sep {w : String} (hw : IsToken w) (rest : List Char) :
    splitWords (w.data ++ ' ' :: rest) [] = w :: splitWords rest [] := by
  have hne : w.data.reverse ≠ [] := by
    simpa [List.reverse_eq_nil_iff] using fun h => hw.1 (String.ext h)
  rw [splitWords_token_append hw, List.append_nil]
  simp [splitWords, isSpace, hne]

theorem splitWords_last {w : String} (hw : IsToken w) : splitWords w.data [] = [w] := by
  have hne : w.data.reverse ≠ [] := by
    simpa [List.reverse_eq_nil_iff] using fun h => hw.1 (String.ext h)
  have h := splitWords_token_append hw [] []
  simp only [List.append_nil] at h
  rw [h]
  simp [splitWords, hne]

theorem mem_splitWords {cs word : List Char} {s : String} (hword : ∀ c ∈ word, isSpace c = false)
    (h : s ∈ splitWords cs word) : IsToken s := by
  induction cs generalizing word with
  | nil =>
    simp only [splitWords] at h
    split at h
    · simp at h
    · rename_i hne
      simp only [List.mem_singleton] at h
      subst h
      exact ⟨fun h' => hne (List.reverse_eq_nil_iff.mp (congrArg String.data h')),
        fun c hc => hword c (List.mem_reverse.mp hc)⟩
  | cons c cs ih =>
    simp only [splitWords] at h
    split at h
    · split at h
      · exact ih (by simp) h
      · rename_i hne
        rcases List.mem_cons.mp h with rfl | h
        · exact ⟨fun h' => hne (List.reverse_eq_nil_iff.mp (congrArg String.data h')),
            fun c hc => hword c (List.mem_reverse.mp hc)⟩
        · exact ih (by simp) h
    · rename_i hc
      refine ih (fun x hx => ?_) h
      rcases List.mem_cons.mp hx with rfl | hx
      · simpa using hc
      · exact hword x hx

theorem mem_tokenize {input s : String} (h : s ∈ tokenize input) : IsToken s :=
  mem_splitWords (by simp) h

theorem parse_of_tokenize {input w : String} {rest : List String} (h : tokenize input = w :: rest)
    (hget : getCommandType w ≠ .get) (hexplain : getCommandType w ≠ .explain) :
    parse input = { type := getCommandType w, args := rest } := by
  simp [parse, h, hget, hexplain]

/-- Every command but the time-travel forms has the words after the first as arguments. -/
theorem parse_args {input : String} (hget : (parse input).type ≠ .getAt)
    (hexplain : (parse input).type ≠ .explain) : (parse input).args = (tokenize input).drop 1 := by
  simp only [parse] at hget hexplain ⊢
  split_ifs at hget hexplain ⊢ with hnil
  · rw [hnil]; rfl
  · exact absurd rfl hget
  · exact absurd rfl hexplain
  · rfl

theorem parse_args_of_set {input : String} (h : (parse input).type = .set) :
    (parse input).args = (tokenize input).drop 1 :=
  parse_args (by rw [h]; decide) (by rw [h]; decide)

theorem isToken_arg {input : String} (hget : (parse input).type ≠ .getAt)
    (hexplain : (parse input).type ≠ .explain) {a : String} (ha : a ∈ (parse input).args) : IsToken a :=
  mem_tokenize (List.mem_of_mem_drop (parse_args hget hexplain ▸ ha))

theorem noNewline_arg_of_set {input : String} (h : (parse input).type = .set) (i : Nat) :
    NoNewline ((parse input).args.getD i "") := by
  rw [parse_args_of_set h, List.getD_eq_getElem?_getD]
  cases hi : ((tokenize input).drop 1)[i]? with
  | none => simp [NoNewline]
  | some s => exact (mem_tokenize (List.mem_of_mem_drop (List.getElem?_mem hi))).noNewline

end CommandParser

end SentinelDB
