namespace ShaderBuild

/-!
# Binary floating-point numbers

Numbers with a mantissa of a fixed size, read from decimal notation by rounding to
the nearest one, ties to the even mantissa, and written with the fewest decimal
digits that read back as the same number. All arithmetic is on exact integers.
-/

/-- A format of floating-point numbers. -/
structure FloatFormat where
  /-- How many bits a mantissa has. -/
  precision : Nat
  /-- Least exponent of a mantissa. -/
  leastExponent : Int
  /-- Greatest exponent of a mantissa with all its bits. -/
  greatestExponent : Int
  deriving Repr, DecidableEq

namespace FloatFormat

/-- Numbers of 32 bits. -/
def single : FloatFormat := ⟨24, -149, 104⟩

/-- Numbers of 64 bits. -/
def double : FloatFormat := ⟨53, -1074, 971⟩

/-- A place above which no finite number has a digit. -/
def highestPlace (format : FloatFormat) : Int :=
  (format.greatestExponent + format.precision) / 3 + 1

/-- How many places from the highest one on may hold the last digit of a number. -/
def placeCount (format : FloatFormat) : Nat :=
  (format.highestPlace - format.leastExponent / 3 + 1).toNat

end FloatFormat

/-- A number of a format. -/
inductive BinaryFloat (format : FloatFormat) where
  /-- The number `mantissa * 2 ^ exponent`, or its opposite. -/
  | finite (negative : Bool) (mantissa : Nat) (exponent : Int)
  | infinite (negative : Bool)
  | nan
  deriving Repr, DecidableEq

/-- A number of 32 bits. -/
abbrev Binary32 := BinaryFloat .single

/-- A number of 64 bits. -/
abbrev Binary64 := BinaryFloat .double

namespace BinaryFloat

variable {format : FloatFormat}

/-- The quotient rounded to the nearest integer, a tie to the even one. -/
def roundQuotient (numerator denominator : Nat) : Nat :=
  let quotient := numerator / denominator
  let twice := 2 * (numerator % denominator)
  if twice < denominator || (twice = denominator && quotient % 2 = 0) then quotient
  else quotient + 1

/-- A power whose exponent is an integer; a negative one counts as zero. -/
def power (base : Nat) (exponent : Int) : Nat :=
  Nat.pow base exponent.toNat

/-- The number nearest to a positive quotient. -/
def ofQuotient (negative : Bool) (numerator denominator : Nat) : BinaryFloat format :=
  let guess : Int := numerator.log2 - denominator.log2
  let magnitude :=
    if denominator * power 2 guess ≤ numerator * power 2 (-guess) then guess else guess - 1
  let exponent := max (magnitude - (format.precision - 1)) format.leastExponent
  let mantissa := roundQuotient (numerator * power 2 (-exponent)) (denominator * power 2 exponent)
  let (mantissa, exponent) :=
    if mantissa = power 2 format.precision then (power 2 (format.precision - 1), exponent + 1)
    else (mantissa, exponent)
  if exponent > format.greatestExponent then .infinite negative
  else .finite negative mantissa exponent

/-- The number nearest to a quotient; one by zero is infinite, or no number if it is 0 / 0. -/
def ofRatio (numerator : Int) (denominator : Int) : BinaryFloat format :=
  let negative := (numerator < 0) != (denominator < 0)
  match numerator.natAbs, denominator.natAbs with
  | 0, 0 => .nan
  | 0, _ => .finite negative 0 format.leastExponent
  | _, 0 => .infinite negative
  | numerator, denominator => ofQuotient negative numerator denominator

/-- A finite number as a quotient. -/
def ratio? : BinaryFloat format → Option (Int × Int)
  | .finite negative mantissa exponent =>
      let magnitude : Int := mantissa * power 2 exponent
      some (if negative then -magnitude else magnitude, power 2 (-exponent))
  | .infinite _ | .nan => none

/-- The number nearest to `digits * 10 ^ exponent`. -/
def ofDecimal (negative : Bool) (digits : Nat) (exponent : Int) : BinaryFloat format :=
  let size := (Nat.toDigits 10 digits).length + exponent
  if digits = 0 || size < -400 then .finite negative 0 format.leastExponent
  else if size > 400 then .infinite negative
  else ofQuotient negative (digits * power 10 exponent) (power 10 (-exponent))

/--
The multiple of `10 ^ place` nearest to `mantissa * 2 ^ exponent` among those that
read back as it, as a factor; none if no multiple does. The numbers that read back
reach half way to the neighbours, and include the ends if the mantissa is even.
-/
def multiple? (format : FloatFormat) (mantissa : Nat) (exponent place : Int) : Option Nat :=
  let quarter := power 2 (exponent - 2) * power 10 (-place)
  let grid := power 10 place * power 2 (2 - exponent)
  let value := 4 * mantissa * quarter
  let isLowest := mantissa = power 2 (format.precision - 1) && exponent > format.leastExponent
  let lowest := value - (if isLowest then quarter else 2 * quarter)
  let highest := value + 2 * quarter
  let reads (point : Nat) : Bool :=
    if mantissa % 2 = 0 then lowest ≤ point && point ≤ highest
    else lowest < point && point < highest
  let floor := value / grid
  match reads (floor * grid), reads ((floor + 1) * grid) with
  | true, true => if 2 * (value - floor * grid) < grid then some floor else some (floor + 1)
  | true, false => some floor
  | false, true => some (floor + 1)
  | false, false => none

/-- The fewest digits that read back as a positive number, and the place of the last one. -/
def shortest? (format : FloatFormat) (mantissa : Nat) (exponent : Int) : Option (Nat × Int) :=
  (List.range format.placeCount).findSome? fun index =>
    let place : Int := format.highestPlace - (index : Nat)
    (multiple? format mantissa exponent place).map (·, place)

/-- Decimal notation of `digits * 10 ^ place`, with at least one digit on both sides. -/
def positional (digits : Nat) (place : Int) : String :=
  let text := Nat.toDigits 10 digits
  if place ≥ 0 then
    String.ofList (text ++ List.replicate place.toNat '0') ++ ".0"
  else
    let fraction := (-place).toNat
    let text := List.replicate (fraction + 1 - text.length) '0' ++ text
    String.ofList (text.take (text.length - fraction)) ++ "." ++
      String.ofList (text.drop (text.length - fraction))

/-- Notation of `digits * 10 ^ place` with one digit before the point and an exponent. -/
def scientific (digits : Nat) (place : Int) : String :=
  let text := Nat.toDigits 10 digits
  let fraction := if text.length > 1 then "." ++ String.ofList text.tail else ""
  String.ofList (text.take 1) ++ fraction ++ "e" ++ toString (place + (text.length - 1 : Nat))

/-- A number written by a notation for positive numbers. -/
def written (notate : Nat → Int → String) : BinaryFloat format → String
  | .nan => "NaN"
  | .infinite negative => (if negative then "-" else "") ++ "inf"
  | .finite negative mantissa exponent =>
      let digits :=
        if mantissa = 0 then "0.0"
        else
          match shortest? format mantissa exponent with
          | some (digits, place) => notate digits place
          | none => "0.0"
      (if negative then "-" else "") ++ digits

/-- A number in decimal notation, always with a point if it is finite. -/
def text (number : BinaryFloat format) : String :=
  number.written positional

/-- The powers of ten from the least to below the greatest that are written with a point alone. -/
def positionalRange : Int × Int := (-4, 16)

/-- A number with an exponent if it is very large or very small. -/
def compactText (number : BinaryFloat format) : String :=
  number.written fun digits place =>
    let magnitude : Int := place + ((Nat.toDigits 10 digits).length - 1 : Nat)
    if positionalRange.1 ≤ magnitude && magnitude < positionalRange.2 then
      positional digits place
    else
      scientific digits place

/-! ### Changes of format -/

/-- The number with the other sign. -/
def opposite : BinaryFloat format → BinaryFloat format
  | finite negative mantissa exponent => finite (!negative) mantissa exponent
  | infinite negative => infinite (!negative)
  | nan => nan

/-- The nearest number of another format. -/
def toFormat (target : FloatFormat) : BinaryFloat format → BinaryFloat target
  | finite negative 0 _ => finite negative 0 target.leastExponent
  | finite negative mantissa exponent =>
      ofQuotient negative (mantissa * power 2 exponent) (power 2 (-exponent))
  | infinite negative => infinite negative
  | nan => nan

/-- The whole part of a number, or the end of a range that it lies beyond; zero for no number. -/
def wholeWithin (least greatest : Int) : BinaryFloat format → Int
  | finite negative mantissa exponent =>
      let magnitude : Int := mantissa * power 2 exponent / power 2 (-exponent)
      max least (min greatest (if negative then -magnitude else magnitude))
  | infinite negative => if negative then least else greatest
  | nan => 0

/-- Whether a number is zero, of either sign. -/
def isZero : BinaryFloat format → Bool
  | finite _ mantissa _ => mantissa = 0
  | infinite _ | nan => false

/-! ### Words of 32 bits -/

/-- The bits of a number: its sign, an exponent counted from the least one, and a mantissa. -/
def toWord : Binary32 → UInt32
  | finite negative mantissa exponent =>
      .ofNat ((if negative then 1 <<< 31 else 0) + (exponent + 149).toNat <<< 23 + mantissa)
  | infinite negative => if negative then 0xff800000 else 0x7f800000
  | nan => 0x7fc00000

/-- The number that has some bits. -/
def ofWord (bits : UInt32) : Binary32 :=
  let negative := bits ≥ 0x80000000
  let biased : Nat := bits.toNat >>> 23 % (1 <<< 8)
  let mantissa : Nat := bits.toNat % (1 <<< 23)
  if biased = (1 <<< 8) - 1 then
    if mantissa = 0 then infinite negative else nan
  else if biased = 0 then finite negative mantissa (-149)
  else finite negative ((1 <<< 23) + mantissa) ((biased : Int) - 150)

/-- What a function on machine numbers makes of a number. -/
def viaMachine (compute : Float32 → Float32) (number : Binary32) : Binary32 :=
  ofWord (compute (.ofBits (toWord number))).toBits

/-- What a function on machine numbers makes of two numbers. -/
def viaMachine2 (compute : Float32 → Float32 → Float32) (first second : Binary32) : Binary32 :=
  viaMachine (compute (.ofBits (toWord first))) second

end BinaryFloat

end ShaderBuild
