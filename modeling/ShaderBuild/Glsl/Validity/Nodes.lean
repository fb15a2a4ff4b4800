import ShaderBuild.Glsl.Validity.Images

namespace ShaderBuild.Glsl

/-!
# Validity of nodes

What each node of a function asks of the nodes that it refers to, beyond that its own
type follows from theirs.
-/

namespace Form

/-- How many elements a value has, if that is known. -/
def elementCount? : Form → Option Nat
  | .vector size _ => some size
  | .matrix columns _ _ => some columns
  | .array _ size _ => size
  | _ => none

/-- How many indices there are into a value that has parts. -/
def indexCount? : Form → Option Nat
  | .array _ none _ => some greatestUnsigned.toNat
  | .record members _ => some members.length
  | form => form.elementCount?

end Form

namespace TypeTable

/-- What the values at a place are made of, for a form that is one of places. -/
def pointee? (types : TypeTable) : Form → Option Form
  | .pointer base _ => some (types.form base)
  | .partPointer (some size) kind _ => some (.vector size kind)
  | .partPointer none kind _ => some (.single kind)
  | _ => none

/-- What a value, or the values at a place, are made of. -/
def valueForm (types : TypeTable) (form : Form) : Form :=
  (types.pointee? form).getD form

end TypeTable

namespace FunctionSite

variable (site : FunctionSite)

/-! ### Accesses -/

/-- Whether only constants can be indices, for something that has elements. -/
def restrictsIndex? : Form → Option Bool
  | .vector _ _ | .pointer _ _ | .partPointer (some _) _ _ => some false
  | .matrix _ _ _ | .array _ _ _ => some true
  | _ => none

/-- Whether a node is an index that is known before a run. -/
def isConstantIndex : Node → Bool
  | .literal _ | .zero _ | .constant _ => true
  | _ => false

/-- Check an index that is known before a run. -/
def checkKnownIndex (base : NodeId) (count : Nat) (index : Literal) :
    Except NodeFault Unit := do
  match index.whole? with
  | some value =>
      if value < 0 then throw (.negativeIndex base)
      if value ≥ count then throw (.outOfBounds base value.toNat)
  | none => return

/-- Check an access at the index that a node is. -/
def checkAccess (base index : NodeId) : Except NodeFault Unit := do
  let form := site.form base
  match restrictsIndex? form with
  | none => throw (.accessedBase base)
  | some isRestricted =>
      if !(site.form index).isSingleOf (·.isWhole) then
        throw (.accessedWith index)
      let nodes := site.function.nodes
      if isRestricted && !(nodes[index]?).any isConstantIndex then
        throw (.indexNotConstant base)
      let program := site.typed.program
      let count := (program.types.valueForm form).elementCount?
      match count, program.literalAt? { nodes := nodes } index with
      | some count, some literal => checkKnownIndex base count literal
      | _, _ => return

/-- Check an access at an index that is part of the node. -/
def checkAccessIndex (base : NodeId) (index : Nat) : Except NodeFault Unit :=
  match (site.typed.program.types.valueForm (site.form base)).indexCount? with
  | none => .error (.accessedBase base)
  | some count => if index ≥ count then .error (.outOfBounds base count) else .ok ()

/-- Check a load. -/
def checkLoad (pointer : NodeId) : Except NodeFault Unit :=
  match site.form pointer with
  | .pointer base _ =>
      if (site.typed.factsOf base).has [.sized, .data] then .ok () else .error (.load pointer)
  | .partPointer _ _ _ => .ok ()
  | _ => .error (.load pointer)

/-- Check a question about the length of an array, which has to be open. -/
def checkArrayLength (array : NodeId) : Except NodeFault Unit :=
  match site.form array with
  | .pointer base _ =>
      match site.typed.form base with
      | .array _ none _ => .ok ()
      | _ => .error (.arrayLength array)
  | _ => .error (.arrayLength array)

/-! ### Nodes -/

/-- Accept a node, or not. -/
def require (isGood : Bool) (fault : NodeFault) : Except NodeFault Unit :=
  if isGood then .ok () else .error fault

/-- Check the components that are taken from a vector. -/
def checkSwizzle (vector : NodeId) (pattern : List Nat) : Except NodeFault Unit :=
  match site.form vector with
  | .vector size _ =>
      match pattern.find? (· ≥ size) with
      | some component => .error (.swizzle component size)
      | none => .ok ()
  | _ => .ok ()

/-- Check the arguments of a function of numbers. -/
def checkMath (function : MathFunction) (arguments : List NodeId) : Except NodeFault Unit :=
  match function.check (formsAt site.forms arguments) with
  | .ok () => .ok ()
  | .error .count => .error (.argumentCount function)
  | .error (.wrong reported index) =>
      .error (.argumentType function reported ((arguments[index]?).getD 0))

/-- Check the argument of a test. -/
def checkRelational (function : RelationalFunction) (argument : NodeId) :
    Except NodeFault Unit :=
  match function with
  | .all | .any => require ((site.form argument).isVectorOf (· = .bool)) (.booleanVector argument)
  | .isNan | .isInfinite =>
      require ((site.form argument).isLanesOf (·.isReal)) (.realArgument argument)

/-- Check a node. -/
def checkNode : Node → Except NodeFault Unit
  | .literal _ | .constant _ | .splat _ _ | .argument _ | .globalVariable _
  | .localVariable _ | .callResult _ => .ok ()
  | .zero type => require ((site.typed.factsOf type).has [.constructible]) (.zero type)
  | .compose type parts =>
      (site.typed.program.types.checkComposition type (formsAt site.forms parts)).mapError
        .composition
  | .access base index => site.checkAccess base index
  | .accessIndex base index => site.checkAccessIndex base index
  | .swizzle vector pattern => site.checkSwizzle vector pattern
  | .load pointer => site.checkLoad pointer
  | .sample sample => site.checkSample sample
  | .texel texel => site.checkTexel texel
  | .query image query => site.checkQuery image query
  | .unary operator operand =>
      require (operator.accepts (site.form operand)) (.unary operator operand)
  | .binary operator left right =>
      require (operator.accepts (site.form left) (site.form right)) (.binary operator left right)
  | .select condition accepted rejected =>
      require
        (selectionFits (site.form condition) (site.form accepted) (site.form rejected))
        .selection
  | .derivative value => require ((site.form value).isLanesOf (·.isReal)) .derivative
  | .relational function argument => site.checkRelational function argument
  | .math function arguments => site.checkMath function arguments
  | .cast _ value | .reinterpret _ value => require (site.form value).kind?.isSome .cast
  | .arrayLength array => site.checkArrayLength array

end FunctionSite

/-- Whether a node asks about neighbouring fragments, which only their stage has. -/
def Node.isForFragments : Node → Bool
  | sample taken =>
      match taken.level with
      | .automatic | .bias _ => true
      | _ => false
  | derivative _ => true
  | _ => false

end ShaderBuild.Glsl
