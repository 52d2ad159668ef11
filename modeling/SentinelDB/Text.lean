import Mathlib.Data.List.Basic
import Mathlib.Tactic.IntervalCases

/-!
# Text primitives of the C++ runtime

The library behaviour the engine's line formats rest on: `std::isspace` in the C
locale, `istream >> std::string`, `istream >> long long`, `std::getline`,
`std::stoi`, `std::stoul` and `std::to_string`. Streams are character lists;
a failed stream is `none`, and every later extraction from it fails too.
-/

namespace SentinelDB

set_option autoImplicit false

/-- `std::isspace` in the C locale. -/
def isSpace (c : Char) : Bool :=
  c == ' ' || c == '\t' || c == '\n' || c == '\x0b' || c == '\x0c' || c == '\r'

/-- A word as the whitespace tokenizers produce it: non-empty, without blanks. -/
def IsToken (s : String) : Prop := s ≠ "" ∧ ∀ c ∈ s.data, isSpace c = false

instance : DecidablePred IsToken := fun _ => inferInstanceAs (Decidable (_ ∧ _))

/-- Text that fits on one line of a line-oriented file. -/
def NoNewline (s : String) : Prop := '\n' ∉ s.data

instance : DecidablePred NoNewline := fun _ => inferInstanceAs (Decidable (_ ∉ _))

/-- `is >> str`: skip blanks, then take the longest run of non-blanks. At the end of
the input the extraction fails and leaves `str` empty. -/
def readWord : Option (List Char) → String × Option (List Char)
  | none => ("", none)
  | some cs =>
    match cs.dropWhile isSpace with
    | [] => ("", none)
    | c :: rest => (⟨c :: rest.takeWhile (fun x => !isSpace x)⟩,
        some (rest.dropWhile (fun x => !isSpace x)))

def digitsValue (ds : List Char) : Nat :=
  ds.foldl (fun n c => 10 * n + (c.toNat - '0'.toNat)) 0

/-- One or more decimal digits at the front of `cs`, with the unread rest. -/
def scanDigits (cs : List Char) : Option (Nat × List Char) :=
  match cs.takeWhile Char.isDigit with
  | [] => none
  | ds => some (digitsValue ds, cs.dropWhile Char.isDigit)

/-- The base-10 syntax `strtol`, `strtoul` and `num_get` share: leading blanks, an
optional sign and at least one digit. Returns the exact value and the unread rest. -/
def scanInteger (cs : List Char) : Option (Int × List Char) :=
  match cs.dropWhile isSpace with
  | '-' :: r => (scanDigits r).map fun p => (-(p.1 : Int), p.2)
  | '+' :: r => (scanDigits r).map fun p => ((p.1 : Int), p.2)
  | r => (scanDigits r).map fun p => ((p.1 : Int), p.2)

/-- `is >> n` into a signed type whose values are `[lo, hi)`: `none` when the extraction
fails, also when the literal lies outside the type. -/
def readSigned (lo hi : Int) : Option (List Char) → Option Int
  | none => none
  | some cs =>
    match scanInteger cs with
    | some (v, _) => if lo ≤ v ∧ v < hi then some v else none
    | none => none

/-- `is >> n` for a `long long n`. -/
def readLongLong (iss : Option (List Char)) : Option Int := readSigned (-2 ^ 63) (2 ^ 63) iss

/-- `is >> n` for an `int n`. -/
def readInt (iss : Option (List Char)) : Option Int := readSigned (-2 ^ 31) (2 ^ 31) iss

/-- The exceptions of the `std::sto*` family; the payload is `what()`. -/
inductive StdError where
  | invalidArgument (what : String)
  | outOfRange (what : String)
  deriving DecidableEq, Repr

/-- `std::sto*(s, &pos)` into a signed type whose values are `[lo, hi)`: the value and
the count of characters read; `what` names the function in the exceptions. -/
def stoSignedPos (what : String) (lo hi : Int) (s : String) : Except StdError (Int × Nat) :=
  match scanInteger s.data with
  | none => .error (.invalidArgument what)
  | some (v, rest) =>
    if lo ≤ v ∧ v < hi then .ok (v, s.data.length - rest.length)
    else .error (.outOfRange what)

/-- `std::stoi(s, &pos)`. -/
def stoiPos (s : String) : Except StdError (Int × Nat) := stoSignedPos "stoi" (-2 ^ 31) (2 ^ 31) s

/-- `std::stoll(s, &pos)`. -/
def stollPos (s : String) : Except StdError (Int × Nat) := stoSignedPos "stoll" (-2 ^ 63) (2 ^ 63) s

/-- `std::stoi(s)`. -/
def stoi (s : String) : Except StdError Int := (stoiPos s).map Prod.fst

/-- `std::stoul(s)`: `strtoul` negates a leading minus modulo `2^64`. -/
def stoul (s : String) : Except StdError Nat :=
  match scanInteger s.data with
  | none => .error (.invalidArgument "stoul")
  | some (v, _) => if v.natAbs < 2 ^ 64 then .ok (v % 2 ^ 64).toNat else .error (.outOfRange "stoul")

/-- The pieces `while (std::getline(is, piece, delim))` collects, `piece` held reversed; the
end of input ends only a non-empty piece. -/
def getlines (delim : Char) : List Char → List Char → List String
  | [], piece => if piece.isEmpty then [] else [⟨piece.reverse⟩]
  | c :: cs, piece =>
    if c = delim then ⟨piece.reverse⟩ :: getlines delim cs [] else getlines delim cs (c :: piece)

/-- `std::transform(s, ::toupper)` in the C locale. -/
def toUpper (s : String) : String := ⟨s.data.map Char.toUpper⟩

/-- `std::transform(s, ::tolower)` in the C locale. -/
def toLower (s : String) : String := ⟨s.data.map Char.toLower⟩

/-- `hay.find(needle) != std::string::npos`. -/
def hasSubstring (hay needle : List Char) : Bool :=
  match hay with
  | [] => needle.isEmpty
  | c :: cs => needle.isPrefixOf (c :: cs) || hasSubstring cs needle

/-! ### Extraction lemmas -/

theorem readWord_token_append {w : String} (hw : IsToken w) (pre rest : List Char)
    (hpre : ∀ c ∈ pre, isSpace c = true) (hrest : ∀ c ∈ rest.head?, isSpace c = true) :
    readWord (some (pre ++ w.data ++ rest)) = (w, some rest) := by
  obtain ⟨hne, hblank⟩ := hw
  obtain ⟨cs⟩ := w
  cases cs with
  | nil => exact absurd rfl hne
  | cons c cs =>
    have hc : isSpace c = false := hblank c (List.mem_cons_self c cs)
    have hcs : ∀ x ∈ cs, (!isSpace x) = true := fun x hx => by
      simpa using hblank x (List.mem_cons_of_mem c hx)
    have hstop : rest.takeWhile (fun x => !isSpace x) = [] ∧
        rest.dropWhile (fun x => !isSpace x) = rest := by
      cases rest with
      | nil => simp
      | cons r rs => simp [List.takeWhile_cons, List.dropWhile_cons, hrest r rfl]
    simp only [readWord, List.append_assoc, List.dropWhile_append_of_pos hpre, List.cons_append,
      List.dropWhile_cons, hc, Bool.false_eq_true, ↓reduceIte, List.takeWhile_append_of_pos hcs,
      List.dropWhile_append_of_pos hcs, hstop, List.append_nil]

theorem readWord_sep {w : String} (hw : IsToken w) (rest : List Char) :
    readWord (some (' ' :: (w.data ++ ' ' :: rest))) = (w, some (' ' :: rest)) := by
  simpa using readWord_token_append hw [' '] (' ' :: rest) (by simp [isSpace]) (by simp [isSpace])

theorem readWord_last {w : String} (hw : IsToken w) :
    readWord (some (' ' :: w.data)) = (w, some []) := by
  simpa using readWord_token_append hw [' '] [] (by simp [isSpace]) (by simp)

theorem readWord_first {w : String} (hw : IsToken w) (rest : List Char) :
    readWord (some (w.data ++ ' ' :: rest)) = (w, some (' ' :: rest)) := by
  simpa using readWord_token_append hw [] (' ' :: rest) (by simp) (by simp [isSpace])

@[simp] theorem readWord_none : readWord none = ("", none) := rfl

theorem readWord_noNewline (x : Option (List Char)) : NoNewline (readWord x).1 := by
  suffices h : ∀ c ∈ (readWord x).1.data, isSpace c = false from fun hn => absurd (h _ hn) (by decide)
  cases x with
  | none => simp
  | some cs =>
    cases h : cs.dropWhile isSpace with
    | nil => simp [readWord, h]
    | cons c rest =>
      have hc := List.head_dropWhile_not isSpace cs (by simp [h])
      simp only [h, List.head_cons] at hc
      simp only [readWord, h, List.mem_cons]
      rintro x (rfl | hx)
      · simpa using hc
      · simpa using List.mem_takeWhile_imp hx

/-! ### Decimal round trip -/

theorem toDigitsCore_succ (fuel n : Nat) (ds : List Char) :
    Nat.toDigitsCore 10 (fuel + 1) n ds =
      if n / 10 = 0 then Nat.digitChar (n % 10) :: ds
      else Nat.toDigitsCore 10 fuel (n / 10) (Nat.digitChar (n % 10) :: ds) :=
  rfl

theorem toDigitsCore_append (fuel n : Nat) (ds : List Char) :
    Nat.toDigitsCore 10 fuel n ds = Nat.toDigitsCore 10 fuel n [] ++ ds := by
  induction fuel generalizing n ds with
  | zero => rfl
  | succ fuel ih =>
    simp only [toDigitsCore_succ]
    split
    · rfl
    · rw [ih, ih (n / 10) [_]]
      simp

theorem digitChar_spec {d : Nat} (hd : d < 10) :
    (Nat.digitChar d).isDigit = true ∧ (Nat.digitChar d).toNat - '0'.toNat = d := by
  interval_cases d <;> decide

theorem toDigitsCore_spec (fuel n : Nat) (hn : n < fuel) :
    (∀ c ∈ Nat.toDigitsCore 10 fuel n [], c.isDigit = true) ∧
      digitsValue (Nat.toDigitsCore 10 fuel n []) = n ∧ Nat.toDigitsCore 10 fuel n [] ≠ [] := by
  induction fuel generalizing n with
  | zero => omega
  | succ fuel ih =>
    have hd := digitChar_spec (Nat.mod_lt n (by decide : 10 > 0))
    rw [toDigitsCore_succ]
    split
    · rename_i h0
      refine ⟨by simpa using hd.1, ?_, by simp⟩
      simp only [digitsValue, List.foldl_cons, List.foldl_nil, hd.2]
      omega
    · rename_i h0
      obtain ⟨hdig, hval, -⟩ := ih (n / 10) (by omega)
      rw [toDigitsCore_append]
      refine ⟨fun c hc => ?_, ?_, by simp⟩
      · rcases List.mem_append.mp hc with hc | hc
        · exact hdig c hc
        · simp only [List.mem_singleton] at hc; exact hc ▸ hd.1
      · simp only [digitsValue, List.foldl_append] at hval ⊢
        simp only [hval, List.foldl_cons, List.foldl_nil, hd.2]
        omega

theorem toDigits_spec (n : Nat) :
    (∀ c ∈ Nat.toDigits 10 n, c.isDigit = true) ∧ digitsValue (Nat.toDigits 10 n) = n ∧
      Nat.toDigits 10 n ≠ [] :=
  toDigitsCore_spec (n + 1) n (Nat.lt_succ_self n)

theorem scanDigits_toDigits (n : Nat) : scanDigits (Nat.toDigits 10 n) = some (n, []) := by
  obtain ⟨hdig, hval, hne⟩ := toDigits_spec n
  have htake : (Nat.toDigits 10 n).takeWhile Char.isDigit = Nat.toDigits 10 n :=
    List.takeWhile_eq_self_iff.mpr hdig
  have hdrop : (Nat.toDigits 10 n).dropWhile Char.isDigit = [] :=
    List.dropWhile_eq_nil_iff.mpr hdig
  unfold scanDigits
  rw [htake]
  split
  · exact absurd ‹_› hne
  · simp [hval, hdrop]

theorem toDigits_head_not_sign (n : Nat) :
    ∃ c r, Nat.toDigits 10 n = c :: r ∧ c.isDigit = true := by
  obtain ⟨hdig, -, hne⟩ := toDigits_spec n
  obtain ⟨c, r, h⟩ := List.exists_cons_of_ne_nil hne
  exact ⟨c, r, h, hdig c (h ▸ List.mem_cons_self c r)⟩

theorem isSpace_of_isDigit {c : Char} (hc : c.isDigit = true) : isSpace c = false := by
  simp only [Char.isDigit, Bool.and_eq_true, decide_eq_true_eq] at hc
  simp only [isSpace, Bool.or_eq_false_iff, beq_eq_false_iff_ne, ne_eq]
  refine ⟨⟨⟨⟨⟨?_, ?_⟩, ?_⟩, ?_⟩, ?_⟩, ?_⟩ <;> intro h <;> subst h <;> simp_all

theorem isToken_toString (v : Int) : IsToken (toString v) := by
  obtain ⟨hdig, -, hne⟩ := toDigits_spec v.natAbs
  cases v with
  | ofNat n =>
    have hs : (toString (Int.ofNat n)).data = Nat.toDigits 10 n := rfl
    exact ⟨fun h => hne (by simpa [hs] using congrArg String.data h),
      fun c hc => isSpace_of_isDigit (hdig c (by simpa [hs] using hc))⟩
  | negSucc n =>
    have hs : (toString (Int.negSucc n)).data = '-' :: Nat.toDigits 10 (n + 1) := rfl
    refine ⟨fun h => by simpa [hs] using congrArg String.data h, fun c hc => ?_⟩
    rw [hs] at hc
    rcases List.mem_cons.mp hc with rfl | hc
    · decide
    · exact isSpace_of_isDigit (hdig c hc)

theorem IsToken.noNewline {s : String} (h : IsToken s) : NoNewline s := fun hn =>
  absurd (h.2 _ hn) (by decide)

theorem scanInteger_toString (v : Int) : scanInteger (toString v).data = some (v, []) := by
  cases v with
  | ofNat n =>
    obtain ⟨c, r, hcr, hc⟩ := toDigits_head_not_sign n
    have hs : (toString (Int.ofNat n)).data = Nat.toDigits 10 n := rfl
    rw [hs, hcr]
    have hsign : c ≠ '-' ∧ c ≠ '+' := by
      constructor <;> intro h <;> subst h <;> simp_all [Char.isDigit]
    simp only [scanInteger, List.dropWhile_cons, isSpace_of_isDigit hc, Bool.false_eq_true, ↓reduceIte]
    split
    · rename_i heq; exact absurd (List.cons.inj heq).1 hsign.1
    · rename_i heq; exact absurd (List.cons.inj heq).1 hsign.2
    · rw [← hcr, scanDigits_toDigits]; rfl
  | negSucc n =>
    have hs : (toString (Int.negSucc n)).data = '-' :: Nat.toDigits 10 (n + 1) := rfl
    rw [hs]
    simp [scanInteger, isSpace, scanDigits_toDigits, Int.negSucc_eq]

/-! ### `getline` lemmas -/

theorem getlines_append_delim (d : Char) (cs rest piece : List Char) (hcs : d ∉ cs) :
    getlines d (cs ++ d :: rest) piece = ⟨piece.reverse ++ cs⟩ :: getlines d rest [] := by
  induction cs generalizing piece with
  | nil => simp [getlines]
  | cons c cs ih =>
    have hc : c ≠ d := fun h => hcs (h ▸ List.mem_cons_self c cs)
    show getlines d (c :: (cs ++ d :: rest)) piece = _
    rw [getlines, if_neg hc, ih (c :: piece) (fun h => hcs (List.mem_cons_of_mem c h))]
    simp

theorem getlines_ne_nil (d : Char) (cs piece : List Char) (h : cs ≠ [] ∨ piece ≠ []) :
    getlines d cs piece ≠ [] := by
  induction cs generalizing piece with
  | nil => simp_all [getlines]
  | cons c cs ih =>
    simp only [getlines]
    split
    · simp
    · exact ih (c :: piece) (.inr (List.cons_ne_nil c piece))

end SentinelDB
