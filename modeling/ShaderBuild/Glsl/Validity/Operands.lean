import ShaderBuild.Glsl.Typing

namespace ShaderBuild.Glsl

/-!
# Operands

What the operands of operators and the arguments of functions may be made of.
-/

namespace Form

/-- The size of a vector, if it is one, and the kind, of a vector or a single value. -/
def lanes? : Form → Option (Option Nat × Scalar)
  | .single kind => some (none, kind)
  | .vector size kind => some (some size, kind)
  | _ => none

/-- Whether a form is a vector or a single value of a kind that is accepted. -/
def isLanesOf (accepts : Scalar → Bool) (form : Form) : Bool :=
  form.lanes?.any fun (_, kind) => accepts kind

/-- Whether a form is a vector of a kind that is accepted. -/
def isVectorOf (accepts : Scalar → Bool) : Form → Bool
  | .vector _ kind => accepts kind
  | _ => false

/-- Whether a form is a single value of a kind that is accepted. -/
def isSingleOf (accepts : Scalar → Bool) : Form → Bool
  | .single kind => accepts kind
  | _ => false

/-- Whether a form has as many numbers as coordinates of some size, of an accepted kind. -/
def isCoordinateOf (size : Nat) (accepts : Scalar → Bool) : Form → Bool
  | .single kind => size = 1 && accepts kind
  | .vector found kind => found = size && accepts kind
  | _ => false

end Form

/-- Whether values of a kind are numbers. -/
def Scalar.isNumeric (kind : Scalar) : Bool :=
  kind ≠ .bool

/-! ### Operators -/

/-- Whether an operator can be applied to a value. -/
def UnaryOperator.accepts (operator : UnaryOperator) (operand : Form) : Bool :=
  operand.kind?.any fun kind =>
    match operator with
    | .negate => kind.isReal || kind = .int
    | .logicalNot => kind = .bool
    | .bitwiseNot => kind.isWhole

/-- Whether two values have a product. -/
def productFits : Form → Form → Bool
  | .single left, .single right | .single left, .vector _ right
  | .vector _ left, .single right | .single left, .matrix _ _ right
  | .matrix _ _ left, .single right => left = right
  | .vector leftSize left, .vector rightSize right => leftSize = rightSize && left = right
  | .matrix columns _ left, .vector size right => columns = size && left = right
  | .vector size left, .matrix _ rows right => size = rows && left = right
  | .matrix columns _ left, .matrix _ rows right => columns = rows && left = right
  | _, _ => false

/-- Whether a value can be shifted by another one. -/
def shiftFits (value distance : Form) : Bool :=
  match value.lanes?, distance.lanes? with
  | some (size, kind), some (distanceSize, distanceKind) =>
      kind.isWhole && distanceKind = .uint && size = distanceSize
  | _, _ => false

/-- Whether a form is a matrix. -/
def Form.isMatrix : Form → Bool
  | .matrix _ _ _ => true
  | _ => false

/-- Whether an operator can be applied to two values. -/
def BinaryOperator.accepts (operator : BinaryOperator) (left right : Form) : Bool :=
  match operator with
  | .add | .subtract => (left.isLanesOf (·.isNumeric) || left.isMatrix) && left = right
  | .multiply => left.kind?.any (·.isNumeric) && productFits left right
  | .equal | .notEqual => left.isSized && left = right
  | .divide | .modulo | .less | .lessEqual | .greater | .greaterEqual =>
      left.isLanesOf (·.isNumeric) && left = right
  | .logicalAnd | .logicalOr => left.isLanesOf (· = .bool) && left = right
  | .and | .inclusiveOr => left.isLanesOf (!·.isReal) && left = right
  | .exclusiveOr => left.isLanesOf (·.isWhole) && left = right
  | .shiftLeft | .shiftRight => shiftFits left right

/-- Whether a condition can select between two values. -/
def selectionFits (condition accepted rejected : Form) : Bool :=
  accepted = rejected &&
    match condition.lanes?, accepted.lanes? with
    | some (none, .bool), some _ => true
    | some (some size, .bool), some (found, _) => found = some size
    | _, _ => false

/-! ### Arguments of functions -/

/-- Why a function does not take its arguments. -/
inductive ArgumentFault where
  | count
  /-- An argument of a wrong type, by the index that is reported and its own. -/
  | wrong (reported index : Nat)
  deriving Repr, DecidableEq

namespace MathFunction

/-- Accept an argument, by its index, or not. -/
def expect (index : Nat) (isGood : Bool) : Except ArgumentFault Unit :=
  if isGood then .ok () else .error (.wrong index index)

/-- Check arguments of which the first has to be accepted and the others have to be alike. -/
def checkAlike (count : Nat) (accepts : Form → Bool) (arguments : List Form) :
    Except ArgumentFault Unit := do
  match arguments with
  | first :: others =>
      if others.length + 1 ≠ count then throw .count
      expect 0 (accepts first)
      match others.findIdx? (· ≠ first) with
      | some index => throw (.wrong (index + 1) (index + 1))
      | none => return
  | [] => throw .count

/-- Check two arguments, of which the second is an exponent for each number of the first. -/
def checkExponent : List Form → Except ArgumentFault Unit
  | [value, exponent] => do
      expect 0 (value.isLanesOf (·.isReal))
      expect 1 (exponent.isLanesOf (· = .int) &&
        exponent.lanes?.map (·.1) = value.lanes?.map (·.1))
  | _ => throw .count

/-- Check two arguments alike and a third that is accepted. -/
def checkPairAnd (accepts : Form → Bool) (acceptsThird : Form → Form → Bool) :
    List Form → Except ArgumentFault Unit
  | [first, second, third] => do
      checkAlike 2 accepts [first, second]
      expect 2 (acceptsThird first third)
  | _ => throw .count

/-- Check a whole number with the start and the length of a range of its bits. -/
def checkBits : List Form → Except ArgumentFault Unit
  | [value, start, count] => do
      expect 0 (value.isLanesOf (·.isWhole))
      if !start.isSingleOf (· = .uint) then throw (.wrong 2 1)
      expect 2 (count.isSingleOf (· = .uint))
  | _ => throw .count

/-- Check two whole numbers alike with the start and the length of a range of their bits. -/
def checkInsertion : List Form → Except ArgumentFault Unit
  | [value, inserted, start, count] => do
      checkAlike 2 (·.isLanesOf (·.isWhole)) [value, inserted]
      expect 2 (start.isSingleOf (· = .uint))
      if !count.isSingleOf (· = .uint) then throw (.wrong 2 3)
  | _ => throw .count

/-- Check that a function takes some arguments. -/
def check (function : MathFunction) : List Form → Except ArgumentFault Unit :=
  match function with
  | .abs => checkAlike 1 (·.isLanesOf (·.isNumeric))
  | .min | .max => checkAlike 2 (·.isLanesOf (·.isNumeric))
  | .clamp => checkAlike 3 (·.isLanesOf (·.isNumeric))
  | .cos | .cosh | .sin | .sinh | .tan | .tanh | .acos | .asin | .atan | .asinh | .acosh
  | .atanh | .radians | .degrees | .ceil | .floor | .round | .fract | .trunc | .exp | .exp2
  | .log | .log2 | .length | .sqrt | .inverseSqrt => checkAlike 1 (·.isLanesOf (·.isReal))
  | .sign => checkAlike 1 (·.isLanesOf fun kind => kind.isReal || kind = .int)
  | .atan2 | .pow | .distance | .step => checkAlike 2 (·.isLanesOf (·.isReal))
  | .ldexp => checkExponent
  | .dot => checkAlike 2 (·.isVectorOf (·.isNumeric))
  | .outer | .cross | .reflect => checkAlike 2 (·.isVectorOf (·.isReal))
  | .refract =>
      checkPairAnd (·.isVectorOf (·.isReal)) fun first third =>
        third.isSingleOf (some · = first.kind?)
  | .normalize => checkAlike 1 (·.isVectorOf (·.isReal))
  | .faceForward | .fma | .smoothStep => checkAlike 3 (·.isLanesOf (·.isReal))
  | .mix =>
      checkPairAnd (·.isLanesOf (·.isReal)) fun first third =>
        third.isSingleOf (some · = first.kind?) || third = first
  | .inverse | .determinant =>
      checkAlike 1 fun
        | .matrix columns rows _ => columns = rows
        | _ => false
  | .transpose => checkAlike 1 (·.isMatrix)
  | .countOneBits | .reverseBits | .lowestBit | .highestBit =>
      checkAlike 1 (·.isLanesOf (·.isWhole))
  | .extractBits => checkBits
  | .insertBits => checkInsertion
  | .pack2x16Snorm | .pack2x16Unorm | .pack2x16Float =>
      checkAlike 1 fun form => form.isVectorOf (·.isReal) && form.isCoordinateOf 2 (·.isReal)
  | .pack4x8Snorm | .pack4x8Unorm =>
      checkAlike 1 fun form => form.isVectorOf (·.isReal) && form.isCoordinateOf 4 (·.isReal)
  | .unpack4x8Snorm | .unpack4x8Unorm | .unpack2x16Snorm | .unpack2x16Unorm
  | .unpack2x16Float => checkAlike 1 (·.isSingleOf (· = .uint))

end MathFunction

end ShaderBuild.Glsl
