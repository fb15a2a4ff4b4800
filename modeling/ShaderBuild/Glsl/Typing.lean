import ShaderBuild.Glsl.Program

namespace ShaderBuild.Glsl

/-!
# Typing

The type of a node follows from its operator and from the types of the nodes that it
refers to, which come before it. A type is either an entry of the program's table or
just a form, which need not be in the table.
-/

/-- The type of a node. -/
inductive Resolution where
  | entry (type : TypeId)
  | plain (form : Form)
  deriving Repr, DecidableEq, Inhabited

/-- What a type is made of. -/
def Resolution.within (types : TypeTable) : Resolution → Form
  | entry type => types.form type
  | plain form => form

/-! ### Faults -/

/-- Why a node has no type. -/
inductive TypeFault where
  | outOfBounds (node : NodeId) (index : Nat)
  | invalidAccess (node : NodeId) (indexed : Bool)
  | invalidSubAccess (type : TypeId) (indexed : Bool)
  | invalidScalar (node : NodeId)
  | invalidVector (node : NodeId)
  | invalidPointer (node : NodeId)
  | invalidImage (node : NodeId)
  | noResult
  | incompatible (operands : String)
  | noArgument (index : Nat)
  /-- A reference to a node that has no type yet, with the number of those that have. -/
  | untyped (count : Nat) (node : NodeId)
  deriving Repr, DecidableEq

namespace TypeFault

/-- How the reader of a shader reports a fault. -/
def shown : TypeFault → String
  | outOfBounds node index =>
      "OutOfBoundsIndex \x7b expr: " ++ entryReport node ++ s!", index: {index} \x7d"
  | invalidAccess node indexed =>
      "InvalidAccess \x7b expr: " ++ entryReport node ++ s!", indexed: {indexed} \x7d"
  | invalidSubAccess type indexed =>
      "InvalidSubAccess \x7b ty: " ++ entryReport type ++ s!", indexed: {indexed} \x7d"
  | invalidScalar node => "InvalidScalar(" ++ entryReport node ++ ")"
  | invalidVector node => "InvalidVector(" ++ entryReport node ++ ")"
  | invalidPointer node => "InvalidPointer(" ++ entryReport node ++ ")"
  | invalidImage node => "InvalidImage(" ++ entryReport node ++ ")"
  | noResult => "FunctionReturnsVoid"
  | incompatible operands => "IncompatibleOperands(" ++ Text.quoted operands ++ ")"
  | noArgument index => s!"FunctionArgumentNotFound({index})"
  | untyped _ _ => ""

/-- How the report on an invalid program puts a fault. -/
def report : TypeFault → String
  | outOfBounds node index =>
      s!"Index {index} is out of bounds for expression " ++ entryReport node
  | invalidAccess node indexed =>
      "Invalid access into expression " ++ entryReport node ++ s!", indexed: {indexed}"
  | invalidSubAccess type indexed =>
      "Invalid sub-access into type " ++ entryReport type ++ s!", indexed: {indexed}"
  | invalidScalar node => "Invalid scalar " ++ entryReport node
  | invalidVector node => "Invalid vector " ++ entryReport node
  | invalidPointer node => "Invalid pointer " ++ entryReport node
  | invalidImage node => "Invalid image " ++ entryReport node
  | noResult => "Function without return type"
  | incompatible operands => "Incompatible operands: " ++ operands
  | noArgument index => s!"Function argument {index} doesn't exist"
  | untyped _ _ => ""

/-- The report of an engine that looks for something that is not there. -/
def outOfRange (count index : Nat) : String :=
  s!"index out of bounds: the len is {count} but the index is {index}"

end TypeFault

/-! ### Typing of nodes -/

/-- What the types of a function's nodes depend on beside the nodes. -/
structure Surroundings where
  program : Program
  locals : Array LocalVariable := #[]
  arguments : List Argument := []

/-- The type that an operation on operands has, or why there is none. -/
abbrev Typed := Except TypeFault Resolution

namespace Surroundings

variable (around : Surroundings)

/-- The types of a program. -/
def types : TypeTable :=
  around.program.types

/-- The type of a node that is typed. -/
def past (found : Array Resolution) (node : NodeId) : Typed :=
  match found[node]? with
  | some resolution => .ok resolution
  | none => .error (.untyped found.size node)

/-- What the type of a node that is typed is made of. -/
def pastForm (found : Array Resolution) (node : NodeId) : Except TypeFault Form :=
  (past found node).map (·.within around.types)

/-- The type of what a pointer leads to when it is indexed. -/
def accessThrough (type : TypeId) (space : AddressSpace) : Typed :=
  match around.types.form type with
  | .array base _ _ => .ok (.plain (.pointer base space))
  | .vector _ kind => .ok (.plain (.partPointer none kind space))
  | .matrix _ rows kind => .ok (.plain (.partPointer (some rows) kind space))
  | _ => .error (.invalidSubAccess type false)

/-- The type of an access at an index that a run computes. -/
def access (base : NodeId) : Form → Typed
  | .array element _ _ => .ok (.entry element)
  | .matrix _ rows kind => .ok (.plain (.vector rows kind))
  | .vector _ kind => .ok (.plain (.single kind))
  | .partPointer (some _) kind space => .ok (.plain (.partPointer none kind space))
  | .pointer type space => around.accessThrough type space
  | _ => .error (.invalidAccess base false)

/-- A type, unless an index is beyond a limit. -/
def within (base : NodeId) (index limit : Nat) (resolution : Resolution) : Typed :=
  if index < limit then .ok resolution else .error (.outOfBounds base index)

/-- The type of what a pointer leads to at a known index. -/
def accessIndexThrough (base : NodeId) (index : Nat) (type : TypeId) (space : AddressSpace) :
    Typed :=
  match around.types.form type with
  | .array element _ _ => .ok (.plain (.pointer element space))
  | .vector size kind => within base index size (.plain (.partPointer none kind space))
  | .matrix columns rows kind =>
      within base index columns (.plain (.partPointer (some rows) kind space))
  | .record members _ =>
      match members[index]? with
      | some member => .ok (.plain (.pointer member.type space))
      | none => .error (.outOfBounds base index)
  | _ => .error (.invalidSubAccess type true)

/-- The type of an access at a known index. -/
def accessIndex (base : NodeId) (index : Nat) : Form → Typed
  | .vector size kind => within base index size (.plain (.single kind))
  | .matrix columns rows kind => within base index columns (.plain (.vector rows kind))
  | .array element _ _ => .ok (.entry element)
  | .record members _ =>
      match members[index]? with
      | some member => .ok (.entry member.type)
      | none => .error (.outOfBounds base index)
  | .partPointer (some size) kind space =>
      within base index size (.plain (.partPointer none kind space))
  | .pointer type space => around.accessIndexThrough base index type space
  | _ => .error (.invalidAccess base true)

/-- The type of what is loaded from a place. -/
def load (pointer : NodeId) : Form → Typed
  | .pointer base _ => .ok (.entry base)
  | .partPointer (some size) kind _ => .ok (.plain (.vector size kind))
  | .partPointer none kind _ => .ok (.plain (.single kind))
  | _ => .error (.invalidPointer pointer)

/-- The type of what is found in an image. -/
def texel (image : NodeId) : Form → Typed
  | .image _ _ (.sampled kind _) | .image _ _ (.storage _ kind _) =>
      .ok (.plain (.vector 4 kind))
  | .image _ _ (.depth _) => .ok (.plain (.single .float))
  | _ => .error (.invalidImage image)

/-- The type of the size of an image. -/
def imageSize (image : NodeId) : Form → Typed
  | .image .line _ _ => .ok (.plain (.single .uint))
  | .image .plane _ _ | .image .cube _ _ => .ok (.plain (.vector 2 .uint))
  | .image .solid _ _ => .ok (.plain (.vector 3 .uint))
  | _ => .error (.invalidImage image)

/-- The type of a product. -/
def product (left right : Resolution) : Typed :=
  match left.within around.types, right.within around.types with
  | .matrix _ rows kind, .matrix columns _ _ => .ok (.plain (.matrix columns rows kind))
  | .matrix _ rows kind, .vector _ _ => .ok (.plain (.vector rows kind))
  | .vector _ _, .matrix columns _ kind => .ok (.plain (.vector columns kind))
  | .single _, _ => .ok right
  | _, .single _ => .ok left
  | .vector _ _, .vector _ _ => .ok left
  | leftForm, rightForm => .error (.incompatible (leftForm.report ++ " * " ++ rightForm.report))

/-- The type of a comparison or of a logical combination. -/
def truth (operator : BinaryOperator) : Form → Typed
  | .single _ => .ok (.plain (.single .bool))
  | .vector size _ => .ok (.plain (.vector size .bool))
  | other => .error (.incompatible (operator.report ++ "(" ++ other.report ++ ", _)"))

/-- The type of what an operator makes of two operands. -/
def binary (found : Array Resolution) (operator : BinaryOperator) (left right : NodeId) : Typed := do
  match operator with
  | .multiply => around.product (← past found left) (← past found right)
  | .logicalAnd | .logicalOr => truth operator (← around.pastForm found left)
  | operator =>
      if operator.compares then truth operator (← around.pastForm found left)
      else past found left

/-- The type of a test. -/
def relational (function : RelationalFunction) (argument : Except TypeFault Form) : Typed := do
  match function with
  | .all | .any => return .plain (.single .bool)
  | function =>
      match ← argument with
      | .single _ => return .plain (.single .bool)
      | .vector size _ => return .plain (.vector size .bool)
      | other => .error (.incompatible (function.report ++ "(" ++ other.report ++ ")"))

/-- The fault of a function whose first argument is of a wrong type. -/
def wrongArgument (function : MathFunction) (argument : Form) (others : String) : TypeFault :=
  .incompatible (function.report ++ "(" ++ argument.report ++ others ++ ")")

/-- The type of what a function makes of its arguments. -/
def math (found : Array Resolution) (function : MathFunction) (arguments : List NodeId) : Typed := do
  let first ← past found (arguments.headD 0)
  let form := first.within around.types
  match function with
  | .dot =>
      match form with
      | .vector _ kind => return .plain (.single kind)
      | form => .error (wrongArgument function form ", _")
  | .outer =>
      match arguments with
      | [_, second] =>
          match form, ← around.pastForm found second with
          | .vector columns kind, .vector rows _ => return .plain (.matrix columns rows kind)
          | form, second => .error (wrongArgument function form (", " ++ second.report))
      | _ => .error (.incompatible (function.report ++ "(_, None)"))
  | .distance | .length =>
      match form with
      | .single kind | .vector _ kind => return .plain (.single kind)
      | form => .error (wrongArgument function form "")
  | .transpose =>
      match form with
      | .matrix columns rows kind => return .plain (.matrix rows columns kind)
      | form => .error (wrongArgument function form "")
  | .inverse =>
      match form with
      | .matrix columns rows _ =>
          if columns = rows then return .plain form else .error (wrongArgument function form "")
      | form => .error (wrongArgument function form "")
  | .determinant =>
      match form with
      | .matrix _ _ kind => return .plain (.single kind)
      | form => .error (wrongArgument function form "")
  | .countOneBits | .reverseBits | .extractBits | .insertBits | .lowestBit | .highestBit =>
      match form with
      | .single kind | .vector _ kind =>
          if kind.isWhole then return .plain form else .error (wrongArgument function form "")
      | form => .error (wrongArgument function form "")
  | .pack4x8Snorm | .pack4x8Unorm | .pack2x16Snorm | .pack2x16Unorm | .pack2x16Float =>
      return .plain (.single .uint)
  | .unpack4x8Snorm | .unpack4x8Unorm => return .plain (.vector 4 .float)
  | .unpack2x16Snorm | .unpack2x16Unorm | .unpack2x16Float => return .plain (.vector 2 .float)
  | _ => return first

/-- The type of a value as one of another kind. -/
def cast (kind : Scalar) : Form → Typed
  | .single _ => .ok (.plain (.single kind))
  | .vector size _ => .ok (.plain (.vector size kind))
  | .matrix columns rows former =>
      .ok (.plain (.matrix columns rows (if kind.isReal then kind else former)))
  | other => .error (.incompatible (kind.kindReport ++ "(" ++ other.report ++ ")"))

/-- The type of a node, given the types of those before it. -/
def resolve (found : Array Resolution) : Node → Typed
  | .literal value => .ok (.plain (.single value.kind))
  | .constant number => .ok (.entry (((around.program.constants[number]?).map (·.type)).getD 0))
  | .zero type | .compose type _ => .ok (.entry type)
  | .access base _ => do around.access base (← around.pastForm found base)
  | .accessIndex base index => do around.accessIndex base index (← around.pastForm found base)
  | .splat size value => do
      match ← around.pastForm found value with
      | .single kind => return .plain (.vector size kind)
      | _ => .error (.invalidScalar value)
  | .swizzle vector pattern => do
      match ← around.pastForm found vector with
      | .vector _ kind => return .plain (.vector pattern.length kind)
      | _ => .error (.invalidVector vector)
  | .argument index =>
      match around.arguments[index]? with
      | some argument => .ok (.entry argument.type)
      | none => .error (.noArgument index)
  | .globalVariable number =>
      match around.program.globals[number]? with
      | some found =>
          if found.space = .handle then .ok (.entry found.type)
          else .ok (.plain (.pointer found.type found.space))
      | none => .ok default
  | .localVariable number =>
      match around.locals[number]? with
      | some found => .ok (.plain (.pointer found.type .call))
      | none => .ok default
  | .load pointer => do load pointer (← around.pastForm found pointer)
  | .sample sample => do texel sample.image (← around.pastForm found sample.image)
  | .texel element => do texel element.image (← around.pastForm found element.image)
  | .query image (.size _) => do imageSize image (← around.pastForm found image)
  | .query _ .layerCount => .ok (.plain (.single .uint))
  | .unary _ operand => past found operand
  | .binary operator left right => around.binary found operator left right
  | .select _ accepted _ => past found accepted
  | .derivative value => past found value
  | .relational function argument => relational function (around.pastForm found argument)
  | .math function arguments => around.math found function arguments
  | .cast kind value => do cast kind (← around.pastForm found value)
  | .reinterpret kind value => do cast kind (← around.pastForm found value)
  | .callResult function =>
      match (around.program.functions[function]?).bind (·.result) with
      | some result => .ok (.entry result.type)
      | none => .error .noResult
  | .arrayLength _ => .ok (.plain (.single .uint))

/-- The types found for the nodes from one on, up to the first that has none. -/
def resolveFrom (nodes : Array Node) (found : Array Resolution) :
    Array Resolution × Option (NodeId × TypeFault) :=
  go found (nodes.extract found.size nodes.size).toList
where
  /-- Resolve nodes one after the other. -/
  go (found : Array Resolution) : List Node → Array Resolution × Option (NodeId × TypeFault)
    | [] => (found, none)
    | node :: others =>
        match around.resolve found node with
        | .ok resolution => go (found.push resolution) others
        | .error fault => (found, some (found.size, fault))

end Surroundings

end ShaderBuild.Glsl
