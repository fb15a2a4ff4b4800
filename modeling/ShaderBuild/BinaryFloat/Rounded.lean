import ShaderBuild.BinaryFloat

namespace ShaderBuild.BinaryFloat

/-!
# Rounded arithmetic

Every operation gives the number nearest to its exact result. A zero has a sign: a
product, a quotient and a remainder of zero keep the one that the rule of signs gives
them, and a sum of zero is negative only if both of its parts are.
-/

variable {format : FloatFormat}

/-- Whether the sign of a number is a minus. -/
def isNegative : BinaryFloat format → Bool
  | finite negative _ _ | infinite negative => negative
  | nan => false

/-- The zero of a sign. -/
def signedZero (negative : Bool) : BinaryFloat format :=
  finite negative 0 format.leastExponent

/-- The number nearest to a quotient of which the divisor is not zero, and a zero of a sign. -/
def ofExact (negativeZero : Bool) (numerator denominator : Int) : BinaryFloat format :=
  if numerator = 0 then signedZero negativeZero else ofRatio numerator denominator

/-- The sum of two numbers. -/
def add (first second : BinaryFloat format) : BinaryFloat format :=
  match first.ratio?, second.ratio? with
  | some (firstTop, firstBottom), some (secondTop, secondBottom) =>
      ofExact (first.isNegative && second.isNegative)
        (firstTop * secondBottom + secondTop * firstBottom) (firstBottom * secondBottom)
  | some _, none => second
  | none, some _ => first
  | none, none => if first = second then first else nan

/-- The difference of two numbers. -/
def subtract (first second : BinaryFloat format) : BinaryFloat format :=
  first.add second.opposite

/-- The product of two numbers. -/
def multiply (first second : BinaryFloat format) : BinaryFloat format :=
  let negative := first.isNegative != second.isNegative
  match first.ratio?, second.ratio? with
  | some (firstTop, firstBottom), some (secondTop, secondBottom) =>
      ofExact negative (firstTop * secondTop) (firstBottom * secondBottom)
  | _, _ =>
      if first = nan || second = nan || first.isZero || second.isZero then nan
      else infinite negative

/-- The quotient of two numbers. -/
def divide (first second : BinaryFloat format) : BinaryFloat format :=
  let negative := first.isNegative != second.isNegative
  match first.ratio?, second.ratio? with
  | some (firstTop, firstBottom), some (secondTop, secondBottom) =>
      if secondTop = 0 then if firstTop = 0 then nan else infinite negative
      else ofExact negative (firstTop * secondBottom) (secondTop * firstBottom)
  | some _, none => if second = nan then nan else signedZero negative
  | none, some _ => if first = nan then nan else infinite negative
  | none, none => nan

/-- The remainder of a division whose quotient is cut off to a whole number. -/
def remainder (first second : BinaryFloat format) : BinaryFloat format :=
  match first.ratio?, second.ratio? with
  | some (firstTop, firstBottom), some (secondTop, secondBottom) =>
      if secondTop = 0 then nan
      else
        ofExact first.isNegative
          ((firstTop * secondBottom).tmod (secondTop * firstBottom)) (firstBottom * secondBottom)
  | some _, none => if second = nan then nan else first
  | none, _ => nan

/-- The sum of a product and a number, which is rounded only once. -/
def multiplyAdd (first second addend : BinaryFloat format) : BinaryFloat format :=
  match first.ratio?, second.ratio?, addend.ratio? with
  | some (firstTop, firstBottom), some (secondTop, secondBottom), some (top, bottom) =>
      let negative := (first.isNegative != second.isNegative) && addend.isNegative
      ofExact negative
        (firstTop * secondTop * bottom + top * (firstBottom * secondBottom))
        (firstBottom * secondBottom * bottom)
  | some _, some _, none => addend
  | _, _, _ => (first.multiply second).add addend

end ShaderBuild.BinaryFloat
