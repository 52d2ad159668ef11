import SentinelDB.Text

/-!
# Guards

The three guard classes of `guard.h` as one tagged union, with each kind's
`evaluate` and `generateAlternatives` as the C++ computes them, texts included.
`int` arithmetic wraps in two's complement and `size_t` arithmetic modulo `2^64`;
a `std::string` is the `String` whose characters are its bytes.
-/

namespace SentinelDB

set_option autoImplicit false

inductive DecisionPolicy where
  | devFriendly
  | safeDefault
  | strict
  deriving DecidableEq, Repr

inductive GuardResult where
  | accept
  | reject
  | counterOffer
  deriving DecidableEq, Repr

structure Alternative where
  value : String
  explanation : String
  deriving DecidableEq, Repr

inductive GuardKind where
  | rangeInt (minValue maxValue : Int)
  | enum (allowedValues : List String)
  | length (minLength maxLength : Nat)
  deriving DecidableEq, Repr

structure Guard where
  name : String
  key : String
  enabled : Bool := true
  kind : GuardKind
  deriving DecidableEq, Repr

/-- Signed 32-bit `int` arithmetic. Overflow is undefined in C++; the compiled code wraps. -/
def wrapInt (x : Int) : Int := (x + 2 ^ 31) % 2 ^ 32 - 2 ^ 31

/-- `size_t` arithmetic. -/
def wrapSize (x : Nat) : Nat := x % 2 ^ 64

namespace Guard

/-- `Guard::appliesTo`. `key.back()` on an empty pattern is undefined behaviour; the
model reads it as a character other than `*`. -/
def appliesTo (g : Guard) (targetKey : String) : Bool :=
  if g.key = "*" then true
  else if g.key = targetKey then true
  else if g.key.data.getLast? = some '*' then g.key.data.dropLast.isPrefixOf targetKey.data
  else false

/-- `RangeIntGuard::evaluate`: the verdict and the reason it writes back. -/
def rangeEvaluate (minValue maxValue : Int) (proposedValue : String) : GuardResult × String :=
  match stoi proposedValue with
  | .ok value =>
    if value ≥ minValue ∧ value ≤ maxValue then
      (.accept, "Value within acceptable range [" ++ toString minValue ++ ", " ++
        toString maxValue ++ "]")
    else
      (.counterOffer, "Value " ++ toString value ++ " outside acceptable range [" ++
        toString minValue ++ ", " ++ toString maxValue ++ "]")
  | .error _ => (.reject, "Value is not a valid integer")

/-- `RangeIntGuard::generateAlternatives`. -/
def rangeAlternatives (minValue maxValue : Int) (proposedValue : String) : List Alternative :=
  match stoi proposedValue with
  | .ok value =>
    if value < minValue then
      ⟨toString minValue, "Minimum allowed value (proposed " ++ toString value ++ " is too low)"⟩ ::
        if maxValue > minValue then
          [⟨toString (wrapInt (minValue + (wrapInt (maxValue - minValue)).tdiv 4)),
            "Conservative value within range"⟩]
        else []
    else if value > maxValue then
      ⟨toString maxValue, "Maximum allowed value (proposed " ++ toString value ++ " is too high)"⟩ ::
        if maxValue > minValue then
          [⟨toString (wrapInt (maxValue - (wrapInt (maxValue - minValue)).tdiv 4)),
            "Conservative value within range"⟩]
        else []
    else []
  | .error _ =>
    [⟨toString minValue, "Minimum allowed value"⟩,
      ⟨toString ((wrapInt (minValue + maxValue)).tdiv 2), "Midpoint value"⟩,
      ⟨toString maxValue, "Maximum allowed value"⟩]

/-- The listing `EnumGuard` prints: `'a', 'b'`. -/
def quotedList (values : List String) : String :=
  ", ".intercalate (values.map fun v => "\x27" ++ v ++ "\x27")

/-- `EnumGuard::evaluate`. -/
def enumEvaluate (allowedValues : List String) (proposedValue : String) : GuardResult × String :=
  if proposedValue ∈ allowedValues then (.accept, "Value is in allowed set")
  else
    (.counterOffer, "Value \x27" ++ proposedValue ++ "\x27 not in allowed set: \x7b" ++
      quotedList allowedValues ++ "\x7d")

/-- The second loop of `EnumGuard::generateAlternatives`: similar allowed values, each once. -/
def similarValues (lowerProposed : String) (collected : List Alternative)
    (allowedValues : List String) : List Alternative :=
  allowedValues.foldl (fun alts allowed =>
    if (hasSubstring (toLower allowed).data lowerProposed.data ||
        hasSubstring lowerProposed.data (toLower allowed).data) &&
        !(alts.any fun alt => alt.value == allowed) then
      alts ++ [⟨allowed, "Similar to proposed value"⟩]
    else alts) collected

/-- `EnumGuard::generateAlternatives`. -/
def enumAlternatives (allowedValues : List String) (proposedValue : String) : List Alternative :=
  let lowerProposed := toLower proposedValue
  let caseMatches := (allowedValues.filter fun a => toLower a == lowerProposed).map
    fun a => (⟨a, "Case-corrected version of proposed value"⟩ : Alternative)
  let alternatives := similarValues lowerProposed caseMatches allowedValues
  if alternatives.isEmpty then (allowedValues.take 3).map fun a => ⟨a, "Allowed value"⟩
  else alternatives

/-- `LengthGuard::evaluate`. -/
def lengthEvaluate (minLength maxLength : Nat) (proposedValue : String) : GuardResult × String :=
  let len := proposedValue.length
  if len ≥ minLength ∧ len ≤ maxLength then
    (.accept, "Length " ++ toString len ++ " within acceptable range [" ++ toString minLength ++
      ", " ++ toString maxLength ++ "]")
  else
    (.counterOffer, "Length " ++ toString len ++ " outside acceptable range [" ++
      toString minLength ++ ", " ++ toString maxLength ++ "]")

/-- `LengthGuard::generateAlternatives`. -/
def lengthAlternatives (minLength maxLength : Nat) (proposedValue : String) : List Alternative :=
  let len := proposedValue.length
  if len < minLength then
    [⟨proposedValue ++ ⟨List.replicate (minLength - len) '*'⟩,
      "Padded to minimum length " ++ toString minLength⟩]
  else if len > maxLength then
    ⟨⟨proposedValue.data.take maxLength⟩, "Truncated to maximum length " ++ toString maxLength⟩ ::
      if maxLength > 5 then
        [⟨⟨proposedValue.data.take (wrapSize (maxLength * 4) / 5)⟩,
          "Truncated to " ++ toString (wrapSize (maxLength * 4) / 5) ++
            " characters (safer margin)"⟩]
      else []
  else []

/-- `Guard::evaluate`, dispatched on the guard's class. -/
def evaluate (g : Guard) (proposedValue : String) : GuardResult × String :=
  match g.kind with
  | .rangeInt lo hi => rangeEvaluate lo hi proposedValue
  | .enum allowed => enumEvaluate allowed proposedValue
  | .length lo hi => lengthEvaluate lo hi proposedValue

/-- `Guard::generateAlternatives`, dispatched on the guard's class. -/
def generateAlternatives (g : Guard) (proposedValue : String) : List Alternative :=
  match g.kind with
  | .rangeInt lo hi => rangeAlternatives lo hi proposedValue
  | .enum allowed => enumAlternatives allowed proposedValue
  | .length lo hi => lengthAlternatives lo hi proposedValue

/-- `Guard::describe`. -/
def describe (g : Guard) : String :=
  match g.kind with
  | .rangeInt lo hi => "Integer range: [" ++ toString lo ++ ", " ++ toString hi ++ "]"
  | .enum allowed => "Allowed values: \x7b" ++ quotedList allowed ++ "\x7d"
  | .length lo hi => "String length: [" ++ toString lo ++ ", " ++ toString hi ++ "] characters"

end Guard

end SentinelDB
