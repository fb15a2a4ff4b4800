import ShaderBuild.BinaryFloat
import ShaderBuild.Glsl.Type

namespace ShaderBuild.Glsl

/-!
# Literals

The single values that are known before a run. Whole numbers have 32 bits, and a
signed one is kept in the range of its kind.
-/

/-- A known single value. -/
inductive Literal where
  | bool (value : Bool)
  | int (value : Int)
  | uint (value : Nat)
  | float (value : Binary32)
  | double (value : Binary64)
  deriving Repr, DecidableEq, Inhabited

/-- How many whole numbers of a kind there are. -/
def wordCount : Int := (1 <<< 32 : Nat)

/-- The least and the greatest signed whole number. -/
def signedRange : Int × Int := (-(wordCount / 2), wordCount / 2 - 1)

/-- The greatest unsigned whole number. -/
def greatestUnsigned : Int := wordCount - 1

namespace Literal

/-- The kind of a value. -/
def kind : Literal → Scalar
  | bool _ => .bool
  | int _ => .int
  | uint _ => .uint
  | float _ => .float
  | double _ => .double

/-- The signed number with the last 32 bits of a number. -/
def wrapInt (value : Int) : Literal :=
  int (value.bmod wordCount.toNat)

/-- The unsigned number with the last 32 bits of a number. -/
def wrapUint (value : Int) : Literal :=
  uint (value % wordCount).toNat

/-- A small number as a value of a kind; as a truth value, whether it is not zero. -/
def ofNat (kind : Scalar) (value : Nat) : Literal :=
  match kind with
  | .bool => bool (value ≠ 0)
  | .int => int value
  | .uint => uint value
  | .float => float (.ofRatio value 1)
  | .double => double (.ofRatio value 1)

/-- The zero of a kind. -/
def zero (kind : Scalar) : Literal :=
  ofNat kind 0

/-- The one of a kind. -/
def one (kind : Scalar) : Literal :=
  ofNat kind 1

/-- How reports show a value. -/
def report : Literal → String
  | bool value => "Bool(" ++ toString value ++ ")"
  | int value => s!"I32({value})"
  | uint value => s!"U32({value})"
  | float value => "F32(" ++ value.compactText ++ ")"
  | double value => "F64(" ++ value.compactText ++ ")"

/-- The whole number that a value is. -/
def whole? : Literal → Option Int
  | int value => some value
  | uint value => some value
  | bool _ | float _ | double _ => none

/-! ### Changes of kind -/

/-- A whole number as a value of a kind. -/
def ofWhole (kind : Scalar) (value : Int) : Literal :=
  match kind with
  | .bool => bool (value ≠ 0)
  | .int => wrapInt value
  | .uint => wrapUint value
  | .float => float (.ofRatio value 1)
  | .double => double (.ofRatio value 1)

/-- A number with a fraction as a value of a kind; what is out of range goes to its end. -/
def ofFloat (kind : Scalar) (value : Binary32) : Literal :=
  match kind with
  | .bool => bool !value.isZero
  | .int => int (value.wholeWithin signedRange.1 signedRange.2)
  | .uint => uint (value.wholeWithin 0 greatestUnsigned).toNat
  | .float => float value
  | .double => double (value.toFormat .double)

/-- A value as one of another kind; a double becomes nothing else. -/
def cast? (kind : Scalar) : Literal → Option Literal
  | bool value => some (ofNat kind value.toNat)
  | int value => some (ofWhole kind value)
  | uint value => some (ofWhole kind value)
  | float value => some (ofFloat kind value)
  | double value => if kind = .double then some (double value) else none

/-! ### Order -/

/-- The place of a kind among those of values that are compared. -/
def kindOrder : Literal → Nat
  | double _ => 0
  | float _ => 1
  | uint _ => 2
  | int _ => 3
  | bool _ => 4

/-- How two numbers with a fraction compare; numbers that are none compare with nothing. -/
def compareFloats? {format : FloatFormat} (left right : BinaryFloat format) : Option Ordering :=
  match left, right with
  | .nan, _ | _, .nan => none
  | .infinite first, .infinite second => some (compare second.toNat first.toNat)
  | .infinite negative, _ => some (if negative then .lt else .gt)
  | _, .infinite negative => some (if negative then .gt else .lt)
  | left, right =>
      match left.ratio?, right.ratio? with
      | some (leftTop, leftBottom), some (rightTop, rightBottom) =>
          some (compare (leftTop * rightBottom) (rightTop * leftBottom))
      | _, _ => none

/-- How two values compare; values of different kinds are in the order of the kinds. -/
def compare? (left right : Literal) : Option Ordering :=
  match left, right with
  | bool left, bool right => some (compare left.toNat right.toNat)
  | int left, int right => some (compare left right)
  | uint left, uint right => some (compare left right)
  | float left, float right => compareFloats? left right
  | double left, double right => compareFloats? left right
  | left, right => some (compare left.kindOrder right.kindOrder)

end Literal

end ShaderBuild.Glsl
