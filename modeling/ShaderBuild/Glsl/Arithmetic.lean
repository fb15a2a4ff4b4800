import ShaderBuild.BinaryFloat.Rounded
import ShaderBuild.Glsl.EvaluationFault
import ShaderBuild.Glsl.Literal
import ShaderBuild.Glsl.MathFunction
import ShaderBuild.Glsl.Operator

namespace ShaderBuild.Glsl

/-!
# Arithmetic

What operators and mathematical functions make of known single values. Signed
numbers never wrap around where a sum, a difference, a product or a quotient of them
is out of range; numbers with a fraction are rounded to 32 bits after each step.
Doubles are never computed with.
-/

/-- The outcome of computing with known values. -/
abbrev Evaluated (α : Type) := Except EvaluationFault α

/-- A number that can be written down, so neither infinite nor no number. -/
def checkFloat {format : FloatFormat} : BinaryFloat format → Evaluated Unit
  | .finite _ _ _ => .ok ()
  | .infinite _ => .error .infinite
  | .nan => .error .notNumber

/-- A value that can be written down. -/
def Literal.check : Literal → Evaluated Unit
  | .float value => checkFloat value
  | .double value => checkFloat value
  | .bool _ | .int _ | .uint _ => .ok ()

namespace UnaryOperator

/-- What an operator makes of a known value. -/
def apply (operator : UnaryOperator) (operand : Literal) : Evaluated Literal :=
  match operator, operand with
  | negate, .int value => .ok (.wrapInt (-value))
  | negate, .float value => .ok (.float value.opposite)
  | logicalNot, .bool value => .ok (.bool !value)
  | bitwiseNot, .int value => .ok (.wrapInt (-value - 1))
  | bitwiseNot, .uint value => .ok (.wrapUint (-(value : Int) - 1))
  | _, _ => .error .wrongOperand

end UnaryOperator

namespace BinaryOperator

/-- Whether the outcome of a comparison is what an operator tests, if it compares. -/
def tests? (operator : BinaryOperator) (isSame : Bool) (order : Option Ordering) : Option Bool :=
  match operator with
  | equal => some isSame
  | notEqual => some !isSame
  | less => some (order = some .lt)
  | lessEqual => some (order = some .lt || order = some .eq)
  | greater => some (order = some .gt)
  | greaterEqual => some (order = some .gt || order = some .eq)
  | _ => none

/-- Whether two values are equal; zeros of both signs are, values of different kinds are not. -/
def isSame (left right : Literal) : Bool :=
  left.kind = right.kind && left.compare? right = some .eq

/-- A result of a named operation on signed numbers, if it is in range. -/
def signed (operation : String) (value : Int) : Evaluated Literal :=
  if signedRange.1 ≤ value && value ≤ signedRange.2 then .ok (.int value)
  else .error (.overflow operation)

/-- A result of a named operation on unsigned numbers, if it is in range. -/
def unsigned (operation : String) (value : Int) : Evaluated Literal :=
  if 0 ≤ value && value ≤ greatestUnsigned then .ok (.uint value.toNat)
  else .error (.overflow operation)

/-- The bits of a whole number. -/
def bits (value : Int) : Nat :=
  (value % wordCount).toNat

/-- What an operator on bits makes of those of two whole numbers, if it is one. -/
def onBits? (operator : BinaryOperator) (left right : Nat) : Option Nat :=
  match operator with
  | and => some (left &&& right)
  | exclusiveOr => some (left ^^^ right)
  | inclusiveOr => some (left ||| right)
  | _ => none

/-- How many places numbers can be shifted by are too many. -/
def shiftLimit : Nat := 32

/-- What an operator makes of two signed numbers. -/
def onInts (operator : BinaryOperator) (left right : Int) : Evaluated Literal :=
  match operator with
  | add => signed "addition" (left + right)
  | subtract => signed "subtraction" (left - right)
  | multiply => signed "multiplication" (left * right)
  | divide =>
      if right = 0 then .error .divisionByZero else signed "division" (left.tdiv right)
  | modulo =>
      if right = 0 then .error .remainderByZero
      else do
        discard (signed "remainder" (left.tdiv right))
        return .int (left.tmod right)
  | operator =>
      match operator.onBits? (bits left) (bits right) with
      | some value => .ok (.wrapInt value)
      | none => .error .wrongOperands

/-- What an operator makes of two unsigned numbers. -/
def onUints (operator : BinaryOperator) (left right : Nat) : Evaluated Literal :=
  match operator with
  | add => unsigned "addition" (left + right)
  | subtract => unsigned "subtraction" ((left : Int) - right)
  | multiply => unsigned "multiplication" (left * right)
  | divide => if right = 0 then .error .divisionByZero else .ok (.uint (left / right))
  | modulo => if right = 0 then .error .remainderByZero else .ok (.uint (left % right))
  | shiftLeft =>
      if right ≥ shiftLimit then .error .shiftTooFar else .ok (.wrapUint (left <<< right : Nat))
  | shiftRight =>
      if right ≥ shiftLimit then .error .shiftTooFar else .ok (.uint (left >>> right))
  | operator =>
      match operator.onBits? left right with
      | some value => .ok (.uint value)
      | none => .error .wrongOperands

/-- What a shift makes of a signed number. -/
def onShifted (operator : BinaryOperator) (left : Int) (right : Nat) : Evaluated Literal :=
  match operator with
  | shiftLeft =>
      if right ≥ shiftLimit then .error .shiftTooFar else .ok (.wrapInt (left * (1 <<< right : Nat)))
  | shiftRight =>
      if right ≥ shiftLimit then .error .shiftTooFar else .ok (.int (left.fdiv (1 <<< right : Nat)))
  | _ => .error .wrongOperands

/-- What an operator makes of two numbers with a fraction. -/
def onFloats (operator : BinaryOperator) (left right : Binary32) : Evaluated Literal :=
  match operator with
  | add => .ok (.float (left.add right))
  | subtract => .ok (.float (left.subtract right))
  | multiply => .ok (.float (left.multiply right))
  | divide => .ok (.float (left.divide right))
  | modulo => .ok (.float (left.remainder right))
  | _ => .error .wrongOperands

/-- What an operator makes of two known values. -/
def apply (operator : BinaryOperator) (left right : Literal) : Evaluated Literal :=
  match operator.tests? (isSame left right) (left.compare? right) with
  | some outcome => .ok (.bool outcome)
  | none =>
      match left, right with
      | .int left, .int right => operator.onInts left right
      | .int left, .uint right => operator.onShifted left right
      | .uint left, .uint right => operator.onUints left right
      | .float left, .float right => operator.onFloats left right
      | .bool left, .bool right =>
          match operator with
          | logicalAnd => .ok (.bool (left && right))
          | logicalOr => .ok (.bool (left || right))
          | _ => .error .wrongOperands
      | _, _ => .error .wrongOperands

end BinaryOperator

namespace MathFunction

/-! ### Functions of numbers with a fraction -/

/-- The nearest whole number, of two the even one. -/
def roundToEven : Binary32 → Binary32
  | .finite negative mantissa exponent =>
      let magnitude :=
        BinaryFloat.roundQuotient (mantissa * BinaryFloat.power 2 exponent)
          (BinaryFloat.power 2 (-exponent))
      let rounded : Binary32 := .ofRatio magnitude 1
      if negative then rounded.opposite else rounded
  | other => other

/-- A number without its fraction. -/
def withoutFraction (value : Float32) : Float32 :=
  if value < 0 then value.ceil else value.floor

/-- A number without its sign. -/
def magnitude : Binary32 → Binary32
  | .finite _ mantissa exponent => .finite false mantissa exponent
  | .infinite _ => .infinite false
  | .nan => .nan

/-- One with the sign of a number. -/
def signOf : Binary32 → Binary32
  | .finite negative _ _ | .infinite negative => .ofRatio (if negative then -1 else 1) 1
  | .nan => .nan

/-- A degree in radians: the nearest number to the half turn, divided and rounded. -/
def degree : Binary32 :=
  (BinaryFloat.ofDecimal false 314159265358979323846 (-20)).divide (.ofRatio 180 1)

/-- A radian in degrees. -/
def radian : Binary32 :=
  .ofDecimal false 572957795130823208768 (-19)

/-- What a function makes of a number with a fraction, if it is of one such number. -/
def ofFloat? (function : MathFunction) (value : Binary32) : Option Binary32 :=
  match function with
  | cos => some (value.viaMachine Float32.cos)
  | cosh => some (value.viaMachine Float32.cosh)
  | sin => some (value.viaMachine Float32.sin)
  | sinh => some (value.viaMachine Float32.sinh)
  | tan => some (value.viaMachine Float32.tan)
  | tanh => some (value.viaMachine Float32.tanh)
  | acos => some (value.viaMachine Float32.acos)
  | asin => some (value.viaMachine Float32.asin)
  | atan => some (value.viaMachine Float32.atan)
  | asinh => some (value.viaMachine Float32.asinh)
  | acosh => some (value.viaMachine Float32.acosh)
  | atanh => some (value.viaMachine Float32.atanh)
  | radians => some (value.multiply degree)
  | degrees => some (value.multiply radian)
  | ceil => some (value.viaMachine Float32.ceil)
  | floor => some (value.viaMachine Float32.floor)
  | round => some (roundToEven value)
  | fract => some (value.viaMachine fun value => value - value.floor)
  | trunc => some (value.viaMachine withoutFraction)
  | exp => some (value.viaMachine Float32.exp)
  | exp2 => some (value.viaMachine Float32.exp2)
  | log => some (value.viaMachine Float32.log)
  | log2 => some (value.viaMachine Float32.log2)
  | sqrt => some (value.viaMachine Float32.sqrt)
  | inverseSqrt => some (value.viaMachine fun value => 1 / value.sqrt)
  | abs => some (magnitude value)
  | sign => some (signOf value)
  | _ => none

/-- What a function makes of two numbers with a fraction; of equal ones the second counts. -/
def ofFloats? (function : MathFunction) (first second : Binary32) : Option Binary32 :=
  match function with
  | pow => some (BinaryFloat.viaMachine2 Float32.pow first second)
  | min => some (if Literal.compareFloats? first second = some .lt then first else second)
  | max => some (if Literal.compareFloats? first second = some .gt then first else second)
  | step =>
      let isBeyond := Literal.compareFloats? first second ≠ some .gt
      some (.ofRatio (if isBeyond then 1 else 0) 1)
  | _ => none

/-! ### Functions of whole numbers -/

/-- The bits of a word, the least one first. -/
def wordBits (value : Int) : List Bool :=
  (List.range 32).map fun place => (BinaryOperator.bits value).testBit place

/-- The word that has some bits, the least one first. -/
def ofWordBits (bits : List Bool) : Nat :=
  bits.foldr (fun bit others => bit.toNat + 2 * others) 0

/-- What a function makes of a whole number, if it is of one such number. -/
def ofWhole? (function : MathFunction) (isSigned : Bool) (value : Int) : Option Int :=
  match function with
  | countOneBits => some ((wordBits value).count true)
  | reverseBits => some (ofWordBits (wordBits value).reverse)
  | abs => some value.natAbs
  | sign => if isSigned then some value.sign else none
  | _ => none

/-! ### Known arguments -/

/-- Whether a function is ever computed before a run. -/
def isComputed : MathFunction → Bool
  | abs | min | max | clamp | cos | cosh | sin | sinh | tan | tanh | acos | asin | atan
  | asinh | acosh | atanh | radians | degrees | ceil | floor | round | fract | trunc | exp
  | exp2 | log | log2 | pow | sign | fma | step | sqrt | inverseSqrt | countOneBits
  | reverseBits => true
  | _ => false

/-- A function's value if there is one. -/
def orWrong (wrap : α → Literal) : Option α → Evaluated Literal
  | some value => .ok (wrap value)
  | none => .error .wrongArgument

/-- A number brought into bounds. -/
def bounded (value low high : Literal) : Evaluated Literal :=
  if low.kind ≠ value.kind || high.kind ≠ value.kind || value.kind = .bool ||
      value.kind = .double then
    .error .wrongArgument
  else if low.compare? high = some .gt then .error .reversedBounds
  else if value.compare? low = some .lt then .ok low
  else if value.compare? high = some .gt then .ok high
  else .ok value

/-- What a function makes of known single values. -/
def apply (function : MathFunction) (arguments : List Literal) : Evaluated Literal :=
  match arguments with
  | [.float value] => orWrong .float (function.ofFloat? value)
  | [.int value] => orWrong .wrapInt (function.ofWhole? true value)
  | [.uint value] => orWrong .wrapUint (function.ofWhole? false value)
  | [.float first, .float second] => orWrong .float (function.ofFloats? first second)
  | [.int first, .int second] =>
      match function with
      | min => .ok (.int (Min.min first second))
      | max => .ok (.int (Max.max first second))
      | _ => .error .wrongArgument
  | [.uint first, .uint second] =>
      match function with
      | min => .ok (.uint (Min.min first second))
      | max => .ok (.uint (Max.max first second))
      | _ => .error .wrongArgument
  | [first, second, third] =>
      match function, first, second, third with
      | clamp, value, low, high => bounded value low high
      | fma, .float first, .float second, .float addend =>
          .ok (.float (first.multiplyAdd second addend))
      | _, _, _, _ => .error .wrongArgument
  | _ => .error .wrongArgument

end MathFunction

end ShaderBuild.Glsl
