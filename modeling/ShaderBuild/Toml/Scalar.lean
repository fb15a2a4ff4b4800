import ShaderBuild.BinaryFloat
import ShaderBuild.Toml.Moment
import ShaderBuild.Toml.Quotation

namespace ShaderBuild.Toml

/-!
# Scalars

Strings, numbers, truth values, dates and times. What starts like a number is read
as a date or time, else as a float, else as an integer.
-/

/-- A value that has no values inside. -/
inductive Scalar where
  | string (text : String)
  | integer (value : Int)
  | float (value : Binary64)
  | boolean (value : Bool)
  /-- A date, a time or both, in the notation with a capital T between them. -/
  | moment (text : String)
  deriving Repr

/-- What kind of value a scalar is. -/
def Scalar.kind : Scalar → String
  | .string _ => "string"
  | .integer _ => "integer"
  | .float _ => "float"
  | .boolean _ => "boolean"
  | .moment _ => "datetime"

/-! ### Numbers -/

/-- The sign a number starts with, and whether it is negative. -/
def sign : List Char → Bool × List Char
  | '-' :: rest => (true, rest)
  | '+' :: rest => (false, rest)
  | text => (false, text)

/-- Decimal digits without leading zeros. -/
def wholeDigits (text : List Char) : Reading (Parsed (List Char)) :=
  labelled "integer" <|
    match text with
    | '0' :: rest => .ok (['0'], rest)
    | text => digits 10 text

/-- An integer that starts at a place; its digits may denote too much. -/
def integerAt (place : List Char) (value : Int) : Reading Scalar :=
  let limit : Int := (1 <<< 63 : Nat)
  if value < -limit then
    committed (stopAt place { cause := some .numberTooSmall })
  else if limit ≤ value then
    committed (stopAt place { cause := some .numberTooLarge })
  else
    .ok (.integer value)

/-- A radix other than ten. -/
structure Radix where
  base : Nat
  /-- What integers with it are called. -/
  label : String

/-- The radix that a letter after a zero announces. -/
def radix? : Char → Option Radix
  | 'x' => some ⟨16, "hexadecimal integer"⟩
  | 'o' => some ⟨8, "octal integer"⟩
  | 'b' => some ⟨2, "binary integer"⟩
  | _ => none

/-- A decimal integer. -/
def decimalInteger (text : List Char) : Reading (Parsed Scalar) := do
  let (negative, rest) := sign text
  let (digits, rest) ← wholeDigits rest
  let magnitude : Int := digitsValue 10 digits
  return (← integerAt text (if negative then -magnitude else magnitude), rest)

/-- An integer. -/
def integer (text : List Char) : Reading (Parsed Scalar) :=
  match text with
  | '0' :: c :: rest =>
      match radix? c with
      | some radix => do
          let (digits, rest) ← committed (labelled radix.label (digits radix.base rest))
          return (← integerAt text (digitsValue radix.base digits), rest)
      | none => decimalInteger text
  | _ => decimalInteger text

/-- The exponent that a letter announces; none if there is no such letter. -/
def exponent? : List Char → Reading (Option (Int × List Char))
  | c :: rest =>
      if c = 'e' || c = 'E' then do
        let (negative, rest) := sign rest
        let (digits, rest) ← committed (digits 10 rest)
        let magnitude : Int := digitsValue 10 digits
        return some (if negative then -magnitude else magnitude, rest)
      else
        .ok none
  | [] => .ok none

/-- The digits after a point; none if there is no point. -/
def fractionDigits : List Char → Reading (Parsed (List Char))
  | '.' :: rest => committed (expecting ["digit"] (digits 10 rest))
  | rest => .ok ([], rest)

/-- A float with a fraction, an exponent or both; it may be too large only if it is negative. -/
def decimalFloat (text : List Char) : Reading (Parsed Scalar) :=
  labelled "floating-point number" do
    let (negative, rest) := sign text
    let (whole, rest) ← wholeDigits rest
    let (fraction, rest) ← fractionDigits rest
    let exponent ← exponent? rest
    if fraction = [] && exponent.isNone then
      stopAt rest
    let (exponent, rest) := exponent.getD (0, rest)
    let value : Binary64 := .ofDecimal negative (digitsValue 10 (whole ++ fraction))
      (exponent - fraction.length)
    if value = .infinite false then
      committed (stopAt text)
    return (.float value, rest)

/-- An infinity or what is no number. -/
def specialFloat (text : List Char) : Reading (Parsed Scalar) :=
  let (negative, rest) := sign text
  match rest with
  | 'i' :: 'n' :: 'f' :: rest => .ok (.float (.infinite negative), rest)
  | 'n' :: 'a' :: 'n' :: rest => .ok (.float .nan, rest)
  | _ => stopAt text

/-- A number, a date or a time. -/
def numberOrMoment (text : List Char) : Reading (Parsed Scalar) :=
  let moment := (moment text).map fun (text, rest) => (Scalar.moment text, rest)
  orElse moment (orElse (decimalFloat text) (orElse (specialFloat text) (integer text)))

/-! ### Words -/

/-- What could have been meant by a value that starts like none. -/
def quotesExpected (reading : Reading (Parsed Scalar)) : Reading (Parsed Scalar) :=
  expecting ["`\"`", "`'`"] (labelled "string" reading)

/-- A truth value; what starts like one is one. -/
def truthValue (value : Bool) (text : List Char) : Reading (Parsed Scalar) := do
  return (.boolean value, ← committed (expect (toString value).toList text))

/-- A scalar. -/
def scalar (text : List Char) : Reading (Parsed Scalar) :=
  match text with
  | [] => stopAt []
  | c :: _ =>
      if (quotation? c).isSome then
        (anyString text).map fun (string, rest) => (.string string, rest)
      else if c = '+' || c = '-' || c.isDigit then
        numberOrMoment text
      else if c = '_' then
        stopAt text { label := some "integer", expected := ["leading digit"] }
      else if c = '.' then
        stopAt text { label := some "floating-point number", expected := ["leading digit"] }
      else if c = 't' then
        quotesExpected (truthValue true text)
      else if c = 'f' then
        quotesExpected (truthValue false text)
      else
        quotesExpected (specialFloat text)

end ShaderBuild.Toml
