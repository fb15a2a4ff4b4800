import ShaderBuild.Toml.Reading

namespace ShaderBuild.Toml

/-!
# Digits

Readers of digits: as many as there are with underscores between them, or an exact
number of them.
-/

/-- The value of a digit in a radix. -/
def digit? (radix : Nat) (c : Char) : Option Nat :=
  let value? :=
    if c.isDigit then some (c.toNat - '0'.toNat)
    else if 'a' ≤ c && c ≤ 'f' then some (c.toNat - 'a'.toNat + 10)
    else if 'A' ≤ c && c ≤ 'F' then some (c.toNat - 'A'.toNat + 10)
    else none
  value?.filter (· < radix)

/-- Whether a character is a digit in a radix. -/
def isDigitIn (radix : Nat) (c : Char) : Bool :=
  (digit? radix c).isSome

/-- The number that digits denote. -/
def digitsValue (radix : Nat) (digits : List Char) : Nat :=
  digits.foldl (fun value c => value * radix + (digit? radix c).getD 0) 0

/-- Stop at a place where a digit has to be. -/
def digitMissing (place : List Char) : Reading α :=
  committed (expecting ["digit"] (stopAt place))

/--
Digits with single underscores between them. The result is without underscores; an
underscore has to be followed by a digit.
-/
def moreDigits (radix : Nat) : List Char → Reading (Parsed (List Char))
  | [] => .ok ([], [])
  | '_' :: [] => digitMissing []
  | '_' :: c :: rest =>
      if isDigitIn radix c then
        (moreDigits radix rest).map fun (digits, rest) => (c :: digits, rest)
      else
        digitMissing (c :: rest)
  | c :: rest =>
      if isDigitIn radix c then
        (moreDigits radix rest).map fun (digits, rest) => (c :: digits, rest)
      else
        .ok ([], c :: rest)

/-- At least one digit, with single underscores between digits. -/
def digits (radix : Nat) : List Char → Reading (Parsed (List Char))
  | c :: rest =>
      if isDigitIn radix c then
        (moreDigits radix rest).map fun (digits, rest) => (c :: digits, rest)
      else
        stopAt (c :: rest)
  | [] => stopAt []

/-- An exact number of decimal digits. -/
def fixedDigits (count : Nat) (text : List Char) : Reading (Parsed Nat) :=
  let digits := text.take count
  if digits.length = count && digits.all Char.isDigit then
    .ok (digitsValue 10 digits, text.drop count)
  else
    stopAt text

/-- An exact number of decimal digits for a number between two bounds. -/
def boundedDigits (count low high : Nat) (text : List Char) : Reading (Parsed Nat) := do
  let (value, rest) ← fixedDigits count text
  if low ≤ value && value ≤ high then
    return (value, rest)
  else
    stopAt text { cause := some .outOfRange }

end ShaderBuild.Toml
