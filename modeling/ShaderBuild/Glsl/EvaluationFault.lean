namespace ShaderBuild.Glsl

/-!
# Faults of evaluation

Why a value cannot be computed before a run, and how reports put it.
-/

/-- Why a value cannot be computed before a run. -/
inductive EvaluationFault where
  /-- An access into something without elements. -/
  | accessedBase
  /-- An access beyond the last element. -/
  | accessedIndex
  /-- An access at something that is no unsigned number. -/
  | accessedIndexKind
  /-- The length of an array of open size. -/
  | openLength
  /-- The length of something that is no array. -/
  | lengthOfOther
  /-- A change of kind that there is none for, with what is changed and the kind. -/
  | wrongCast (subject target : String)
  | wrongOperand
  | wrongOperands
  | wrongArgument
  /-- Bounds of which the lower one is greater. -/
  | reversedBounds
  /-- A vector of equal components that are no single values. -/
  | spreadOther
  /-- Components taken from something that is no vector. -/
  | swizzledOther
  /-- Components that a vector does not have. -/
  | swizzledBeyond
  /-- A zero of a type that has none. -/
  | noZero
  /-- An operand that is known only in a run. -/
  | notConstant
  /-- A function that is never computed before a run. -/
  | notComputed (function : String)
  /-- A result of the named operation that has more than 32 bits. -/
  | overflow (operation : String)
  | divisionByZero
  | remainderByZero
  | shiftTooFar
  | infinite
  | notNumber
  /-- A value that only a run has, where all has to be constant. -/
  | needsRun
  deriving Repr, DecidableEq

namespace EvaluationFault

/-- What reports call a fault. -/
def report : EvaluationFault → String
  | accessedBase => "Cannot access the type"
  | accessedIndex => "Cannot access at the index"
  | accessedIndexKind => "Cannot access with index of type"
  | openLength => "Constants cannot get the array length of a dynamically sized array"
  | lengthOfOther => "Cannot get the array length of a non array type"
  | wrongCast subject target =>
      "Cannot cast scalar components of expression `" ++ subject ++ "` to type `" ++
        target ++ "`"
  | wrongOperand => "Cannot apply the unary op to the argument"
  | wrongOperands => "Cannot apply the binary op to the arguments"
  | wrongArgument => "Cannot apply math function to type"
  | reversedBounds =>
      "value of `low` is greater than `high` for clamp built-in function"
  | spreadOther => "Splat is defined only on scalar values"
  | swizzledOther => "Can only swizzle vector constants"
  | swizzledBeyond => "swizzle component not present in source expression"
  | noZero => "Type is not constructible"
  | notConstant => "Subexpression(s) are not constant"
  | notComputed function =>
      "Not implemented as constant expression: " ++ function ++ " built-in function"
  | overflow operation => operation ++ " operation overflowed"
  | divisionByZero => "Division by zero"
  | remainderByZero => "Remainder by zero"
  | shiftTooFar => "RHS of shift operation is greater than or equal to 32"
  | infinite => "Float literal is infinite"
  | notNumber => "Float literal is NaN"
  | needsRun => "Unexpected runtime-expression"

/-- Whether a run may compute what cannot be computed before it. -/
def isLeftToRun : EvaluationFault → Bool
  | notComputed _ | wrongOperands => true
  | _ => false

end EvaluationFault

end ShaderBuild.Glsl
