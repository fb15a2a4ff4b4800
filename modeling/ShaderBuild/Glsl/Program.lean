import ShaderBuild.Glsl.BuiltinVariable
import ShaderBuild.Glsl.Node

namespace ShaderBuild.Glsl

/-!
# Programs

What a shader means: its types, constants, variables and functions, and the entry
point that a pipeline stage runs. Everything in a program is referred to by its
number.
-/

/-- How values between the corners of a shape are found. -/
inductive Interpolation where
  | perspective | linear | flat
  deriving Repr, DecidableEq

/-- Where in a pixel values are found. -/
inductive Sampling where
  | center | centroid | sample
  deriving Repr, DecidableEq

/-- What an entry point exchanges a value for. -/
inductive Binding where
  | builtin (builtin : BuiltinVariable)
  | location (location : Nat) (interpolation : Option Interpolation)
      (sampling : Option Sampling)
  deriving Repr, DecidableEq

/-- A variable of a function. -/
structure LocalVariable where
  name : Option String
  type : TypeId
  initial : Option NodeId
  deriving Repr, DecidableEq

/-- An argument of a function; that of an entry point has a binding. -/
structure Argument where
  name : Option String
  type : TypeId
  binding : Option Binding := none
  deriving Repr, DecidableEq

/-- The result of a function. -/
structure FunctionResult where
  type : TypeId
  /-- The bindings of an entry point's result, or of its members. -/
  bindings : List Binding := []
  deriving Repr, DecidableEq

/-- A function. -/
structure Function where
  name : String
  arguments : List Argument
  result : Option FunctionResult
  locals : Array LocalVariable
  nodes : Array Node
  body : List Statement
  deriving Inhabited

/-- A variable outside functions. -/
structure GlobalVariable where
  name : Option String
  space : AddressSpace
  /-- The set and the number of the resource that the variable is bound to. -/
  resource : Option (Nat × Nat) := none
  type : TypeId
  /-- Number of a constant node of the program. -/
  initial : Option NodeId := none
  deriving Repr, DecidableEq

/-- A constant outside functions. -/
structure GlobalConstant where
  name : Option String
  type : TypeId
  /-- Number of a constant node of the program. -/
  initial : NodeId
  deriving Repr, DecidableEq

/-- What a pipeline stage runs. -/
structure EntryPoint where
  stage : ShaderStage
  /-- Whether the depth of fragments is tested before a run. -/
  testsDepthFirst : Bool
  /-- How many invocations a work group has in each direction. -/
  workgroupSize : List Nat
  function : Function

/-- A program. -/
structure Program where
  types : TypeTable := #[]
  /-- The constant nodes outside functions. -/
  values : Pool := {}
  constants : Array GlobalConstant := #[]
  globals : Array GlobalVariable := #[]
  /-- Where the names of the variables outside functions are read from. -/
  globalSpans : Array Span := #[]
  constantSpans : Array Span := #[]
  functions : Array Function := #[]
  entry : Option EntryPoint := none

namespace Program

/-- What a type is made of. -/
def form (program : Program) (type : TypeId) : Form :=
  program.types.form type

/-- The literal that a constant node stands for, through a constant or a zero. -/
def literalAt? (program : Program) (pool : Pool) (node : NodeId) : Option Literal :=
  match pool.node node with
  | .constant number => (program.constants[number]?).bind fun constant =>
      plain? (program.values.node constant.initial)
  | node => plain? node
where
  /-- The literal that a node is or that its zero is. -/
  plain? : Node → Option Literal
    | .literal value => some value
    | .zero type =>
        match program.form type with
        | .single kind => some (.zero kind)
        | _ => none
    | _ => none

end Program

end ShaderBuild.Glsl
