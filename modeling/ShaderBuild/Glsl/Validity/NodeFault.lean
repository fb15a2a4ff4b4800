import ShaderBuild.Glsl.Validity.Composition

namespace ShaderBuild.Glsl

/-!
# Faults of nodes

Why a node of a function is invalid, and how reports put it.
-/

/-- Why a node is invalid. -/
inductive NodeFault where
  /-- A use of a node that is not computed on every way to it. -/
  | notInScope
  | typing (fault : TypeFault)
  | accessedBase (base : NodeId)
  | accessedWith (index : NodeId)
  | negativeIndex (base : NodeId)
  | outOfBounds (base : NodeId) (index : Nat)
  | indexNotConstant (base : NodeId)
  | zero (type : TypeId)
  | composition (fault : CompositionFault)
  | swizzle (component size : Nat)
  | load (pointer : NodeId)
  | arrayLength (array : NodeId)
  | unary (operator : UnaryOperator) (operand : NodeId)
  | binary (operator : BinaryOperator) (left right : NodeId)
  | selection
  | booleanVector (argument : NodeId)
  | realArgument (argument : NodeId)
  | derivative
  | cast
  | argumentCount (function : MathFunction)
  | argumentType (function : MathFunction) (index : Nat) (argument : NodeId)
  | notGlobal
  | notGlobalOrArgument
  | notImage (type : TypeId)
  | imageClass (use : ImageClass)
  | arrayIndexMisplaced
  | otherIndexMisplaced
  | arrayIndex (index : NodeId)
  | otherIndex (index : NodeId)
  | coordinate (dimension : ImageDimension) (coordinate : NodeId)
  | comparison (use : ImageClass) (compares hasReference : Bool)
  | offset (dimension : ImageDimension) (offset : NodeId)
  | reference (reference : NodeId)
  | referenceLevel
  | exactLevel (level : NodeId)
  | bias (bias : NodeId)
  | gradient (dimension : ImageDimension) (gradient : NodeId)
  deriving Repr, DecidableEq

namespace NodeFault

/-- What reports call a component of a vector. -/
def componentReport : Nat → String
  | 0 => "X"
  | 1 => "Y"
  | 2 => "Z"
  | _ => "W"

/-- What reports call a fault. -/
def report : NodeFault → String
  | .notInScope =>
      "Used by a statement before it was introduced into the scope by any of the " ++
        "dominating blocks"
  | .typing fault => "Type resolution failed: " ++ fault.report
  | .accessedBase base =>
      "Base type " ++ entryReport base ++ " is not compatible with this expression"
  | .accessedWith index => "Accessing with index " ++ entryReport index ++ " can't be done"
  | .negativeIndex base =>
      "Accessing " ++ entryReport base ++ " via a negative index is invalid"
  | .outOfBounds base index =>
      s!"Accessing index {index} is out of " ++ entryReport base ++ " bounds"
  | .indexNotConstant base =>
      "The expression " ++ entryReport base ++ " may only be indexed by a constant"
  | .zero type =>
      "Cannot construct zero value of " ++ entryReport type ++
        " because it is not a constructible type"
  | .composition fault => fault.report
  | .swizzle component size =>
      "Swizzle component " ++ componentReport component ++ " is outside of vector size " ++
        sizeReport size
  | .load pointer => "Loading of " ++ entryReport pointer ++ " can't be done"
  | .arrayLength array => "Array length of " ++ entryReport array ++ " can't be done"
  | .unary operator operand =>
      "Operation " ++ operator.report ++ " can't work with " ++ entryReport operand
  | .binary operator left right =>
      "Operation " ++ operator.report ++ " can't work with " ++ entryReport left ++ " and " ++
        entryReport right
  | .selection => "Selecting is not possible"
  | .booleanVector argument =>
      "Relational argument " ++ entryReport argument ++ " is not a boolean vector"
  | .realArgument argument =>
      "Relational argument " ++ entryReport argument ++ " is not a float"
  | .derivative => "Derivatives can only be taken from scalar and vector floats"
  | .cast => "Unable to cast"
  | .argumentCount function => "Invalid argument count for " ++ function.report
  | .argumentType function index argument =>
      s!"Argument [{index}] to " ++ function.report ++ " as expression " ++
        entryReport argument ++ " has an invalid type."
  | .notGlobal => "Not a global variable"
  | .notGlobalOrArgument => "Not a global variable or a function argument"
  | .notImage type => "Needs to be an image instead of " ++ entryReport type
  | .imageClass use => "Unable to operate on image class " ++ use.report
  | .arrayIndexMisplaced => "Image array index parameter is misplaced"
  | .otherIndexMisplaced => "Inappropriate sample or level-of-detail index for texel access"
  | .arrayIndex index =>
      "Image array index type of " ++ entryReport index ++ " is not an integer scalar"
  | .otherIndex index =>
      "Image sample or level-of-detail index's type of " ++ entryReport index ++
        " is not an integer scalar"
  | .coordinate dimension found =>
      "Image coordinate type of " ++ entryReport found ++ " does not match dimension " ++
        dimension.report
  | .comparison use compares hasReference =>
      "Comparison sampling mismatch: image has class " ++ use.report ++
        s!", but the sampler is comparison={compares}, and the reference was " ++
        s!"provided={hasReference}"
  | .offset dimension found =>
      "Sample offset constant " ++ entryReport found ++
        " doesn't match the image dimension " ++ dimension.report
  | .reference found =>
      "Depth reference " ++ entryReport found ++ " is not a scalar float"
  | .referenceLevel => "Depth sample level can only be Auto or Zero"
  | .exactLevel level =>
      "Sample level (exact) type " ++ entryReport level ++ " is not a scalar float"
  | .bias found => "Sample level (bias) type " ++ entryReport found ++ " is not a scalar float"
  | .gradient dimension found =>
      "Sample level (gradient) of " ++ entryReport found ++
        " doesn't match the image dimension " ++ dimension.report

end NodeFault

end ShaderBuild.Glsl
