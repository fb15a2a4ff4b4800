namespace ShaderBuild.Glsl

/-!
# Operators

The operators of expressions, how they are written and what reports call them.
-/

/-- An operator in front of its operand. -/
inductive UnaryOperator where
  | negate | logicalNot | bitwiseNot
  deriving Repr, DecidableEq

namespace UnaryOperator

/-- The operator that a mark in front of an operand denotes, if it changes the operand. -/
def ofMark? : String → Option UnaryOperator
  | "-" => some negate
  | "!" => some logicalNot
  | "~" => some bitwiseNot
  | _ => none

/-- What reports call an operator. -/
def report : UnaryOperator → String
  | negate => "Negate"
  | logicalNot => "LogicalNot"
  | bitwiseNot => "BitwiseNot"

end UnaryOperator

/-- An operator between two operands. -/
inductive BinaryOperator where
  | add | subtract | multiply | divide | modulo
  | equal | notEqual | less | lessEqual | greater | greaterEqual
  | and | exclusiveOr | inclusiveOr | logicalAnd | logicalOr | shiftLeft | shiftRight
  deriving Repr, DecidableEq

namespace BinaryOperator

/-- The marks between two operands, what they denote and how tightly they bind. -/
def marks : List (String × BinaryOperator × Nat) := [
  ("||", logicalOr, 1), ("^^", notEqual, 2), ("&&", logicalAnd, 3), ("|", inclusiveOr, 4),
  ("^", exclusiveOr, 5), ("&", and, 6), ("==", equal, 7), ("!=", notEqual, 7), ("<", less, 8),
  (">", greater, 8), ("<=", lessEqual, 8), (">=", greaterEqual, 8), ("<<", shiftLeft, 9),
  (">>", shiftRight, 9), ("+", add, 10), ("-", subtract, 10), ("*", multiply, 11),
  ("/", divide, 11), ("%", modulo, 11)]

/-- The marks that assign, with the operator that is applied to the two sides first. -/
def assignmentMarks : List (String × Option BinaryOperator) := [
  ("=", none), ("+=", some add), ("-=", some subtract), ("*=", some multiply),
  ("/=", some divide), ("%=", some modulo), ("<<=", some shiftLeft), (">>=", some shiftRight),
  ("&=", some and), ("^=", some exclusiveOr), ("|=", some inclusiveOr)]

/-- What reports call an operator. -/
def report : BinaryOperator → String
  | add => "Add"
  | subtract => "Subtract"
  | multiply => "Multiply"
  | divide => "Divide"
  | modulo => "Modulo"
  | equal => "Equal"
  | notEqual => "NotEqual"
  | less => "Less"
  | lessEqual => "LessEqual"
  | greater => "Greater"
  | greaterEqual => "GreaterEqual"
  | and => "And"
  | exclusiveOr => "ExclusiveOr"
  | inclusiveOr => "InclusiveOr"
  | logicalAnd => "LogicalAnd"
  | logicalOr => "LogicalOr"
  | shiftLeft => "ShiftLeft"
  | shiftRight => "ShiftRight"

/-- Whether an operator compares its operands for equality. -/
def testsEquality (operator : BinaryOperator) : Bool :=
  operator = equal || operator = notEqual

/-- Whether an operator compares its operands. -/
def compares : BinaryOperator → Bool
  | equal | notEqual | less | lessEqual | greater | greaterEqual => true
  | _ => false

/-- Whether an operator shifts its first operand. -/
def shifts (operator : BinaryOperator) : Bool :=
  operator = shiftLeft || operator = shiftRight

/-- Whether a single value before a vector is repeated for each of its numbers. -/
def spreadsLeft : BinaryOperator → Bool
  | add | subtract | divide | and | exclusiveOr | inclusiveOr => true
  | _ => false

/-- Whether a single value behind a vector is repeated for each of its numbers. -/
def spreadsRight (operator : BinaryOperator) : Bool :=
  operator.spreadsLeft || operator.shifts

end BinaryOperator

end ShaderBuild.Glsl
