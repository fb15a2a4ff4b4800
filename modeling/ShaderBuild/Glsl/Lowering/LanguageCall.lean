import ShaderBuild.Glsl.Lowering.ImageAccess

namespace ShaderBuild.Glsl.Reader

/-!
# Calls of the language's own functions

The nodes that a call of such a function stands for. Most of them are read from
nowhere in particular, as they have no part of the shader's text to themselves.
-/

/-- An argument of a call, spread over a vector of a size. -/
def spreadArgument (size : Option Nat) (arguments : List NodeId) (index : Nat) (span : Span) :
    Reader (List NodeId) := do
  let argument ← spread size (← argumentAt arguments index) span
  return arguments.set index argument

/-- Call a function of numbers. -/
def callMath (function : MathFunction) (arguments : List NodeId) : Reader NodeId :=
  addNode (.math function arguments) .nowhere

/-- An argument of a call as an unsigned number. -/
def unsignedArgument (arguments : List NodeId) (index : Nat) : Reader NodeId := do
  convert .uint (← argumentAt arguments index) .nowhere

/-- The rest of a division to the floor. -/
def callModulo (size : Option Nat) (arguments : List NodeId) (span : Span) : Reader NodeId := do
  let arguments ← spreadArgument size arguments 1 span
  let dividend ← argumentAt arguments 0
  let divisor ← argumentAt arguments 1
  let quotient ← addNode (.binary .divide dividend divisor) .nowhere
  let whole ← callMath .floor [quotient]
  let multiple ← addNode (.binary .multiply whole divisor) .nowhere
  addNode (.binary .subtract dividend multiple) .nowhere

/-- Call a function of the language's own; the result is its value, if it has one. -/
def callLanguage (function : LanguageFunction) (arguments : List NodeId) (span : Span) :
    Reader (Option NodeId) := do
  match function with
  | .imageStore =>
      callStore arguments span
      return none
  | .barrier =>
      flushNodes
      perform .barrier
      return none
  | function => return some (← value function)
where
  /-- The value of a call that has one. -/
  value : LanguageFunction → Reader NodeId
    | .combine compares => do
        let image ← argumentAt arguments 0
        if compares then
          useAsDepth image span
        pairSampler image (← argumentAt arguments 1)
        return image
    | .sample projects hasOffset compares level =>
        callSample projects hasOffset compares level arguments span
    | .imageSize isArrayed => callSize isArrayed arguments span
    | .imageLoad isMulti => callLoad isMulti arguments span
    | .math function => callMath function arguments
    | .lowestUnsignedBit => do convert .int (← callMath .lowestBit arguments) .nowhere
    | .highestUnsignedBit => do convert .int (← callMath .highestBit arguments) .nowhere
    | .extractBits => do
        let offset ← unsignedArgument arguments 1
        let count ← unsignedArgument arguments 2
        callMath .extractBits [← argumentAt arguments 0, offset, count]
    | .insertBits => do
        let offset ← unsignedArgument arguments 2
        let count ← unsignedArgument arguments 3
        callMath .insertBits (arguments.take 2 ++ [offset, count])
    | .relational function => do
        addNode (.relational function (← argumentAt arguments 0)) .nowhere
    | .unary operator => do addNode (.unary operator (← argumentAt arguments 0)) .nowhere
    | .binary operator => do
        addNode (.binary operator (← argumentAt arguments 0) (← argumentAt arguments 1)) .nowhere
    | .modulo size => callModulo size arguments span
    | .spread function size index => do
        callMath function (← spreadArgument size arguments index span)
    | .choose => do
        addNode
          (.select (← argumentAt arguments 2) (← argumentAt arguments 1)
            (← argumentAt arguments 0))
          .nowhere
    | .bound size => do
        let arguments ← spreadArgument size arguments 1 span
        callMath .clamp (← spreadArgument size arguments 2 span)
    | .reinterpret kind => do
        addNode (.reinterpret kind (← argumentAt arguments 0)) .nowhere
    | .derivative => do addNode (.derivative (← argumentAt arguments 0)) .nowhere
    | .smoothStep size => do
        let arguments ← spreadArgument size arguments 0 span
        callMath .smoothStep (← spreadArgument size arguments 1 span)
    | .imageStore | .barrier => breakDown "internal error: entered unreachable code"

end ShaderBuild.Glsl.Reader
