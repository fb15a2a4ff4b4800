import ShaderBuild.Glsl.Literal
import ShaderBuild.Glsl.MathFunction
import ShaderBuild.Glsl.Operator
import ShaderBuild.Glsl.Span

namespace ShaderBuild.Glsl

/-!
# Nodes and statements

A function computes with nodes, each of which stands for one value or one place. A
node refers to others by their numbers in the function. Statements say when nodes are
computed, and do everything that has an effect.
-/

/-- Number of a node in a function. -/
abbrev NodeId := Nat

/-! ### Nodes -/

/-- A test of a value's parts. -/
inductive RelationalFunction where
  | all | any | isNan | isInfinite
  deriving Repr, DecidableEq

/-- What reports call a test. -/
def RelationalFunction.report : RelationalFunction → String
  | all => "All"
  | any => "Any"
  | isNan => "IsNan"
  | isInfinite => "IsInf"

/-- How the level of detail of a sample is chosen. -/
inductive SampleLevel where
  | automatic
  | zero
  | exact (level : NodeId)
  | bias (bias : NodeId)
  | gradient (first second : NodeId)
  deriving Repr, DecidableEq

/-- A sample taken from an image. -/
structure Sample where
  image : NodeId
  sampler : NodeId
  coordinate : NodeId
  arrayIndex : Option NodeId := none
  /-- Number of a constant node of the program. -/
  offset : Option NodeId := none
  level : SampleLevel := .automatic
  reference : Option NodeId := none
  deriving Repr, DecidableEq

/-- A single element loaded from an image. -/
structure Texel where
  image : NodeId
  coordinate : NodeId
  arrayIndex : Option NodeId := none
  sample : Option NodeId := none
  level : Option NodeId := none
  deriving Repr, DecidableEq

/-- A question about an image. -/
inductive ImageQuery where
  | size (level : Option NodeId)
  | layerCount
  deriving Repr, DecidableEq

/-- A value or a place. -/
inductive Node where
  | literal (value : Literal)
  /-- A constant of the program. -/
  | constant (number : Nat)
  | zero (type : TypeId)
  | compose (type : TypeId) (components : List NodeId)
  | access (base index : NodeId)
  | accessIndex (base : NodeId) (index : Nat)
  | splat (size : Nat) (value : NodeId)
  /-- Components of a vector by their indices. -/
  | swizzle (vector : NodeId) (pattern : List Nat)
  | argument (index : Nat)
  | globalVariable (number : Nat)
  | localVariable (number : Nat)
  | load (pointer : NodeId)
  | sample (sample : Sample)
  | texel (texel : Texel)
  | query (image : NodeId) (query : ImageQuery)
  | unary (operator : UnaryOperator) (operand : NodeId)
  | binary (operator : BinaryOperator) (left right : NodeId)
  | select (condition accepted rejected : NodeId)
  | derivative (value : NodeId)
  | relational (function : RelationalFunction) (argument : NodeId)
  | math (function : MathFunction) (arguments : List NodeId)
  /-- A value as one of another kind. -/
  | cast (kind : Scalar) (value : NodeId)
  /-- The bits of a value as those of one of another kind. -/
  | reinterpret (kind : Scalar) (value : NodeId)
  | callResult (function : Nat)
  | arrayLength (array : NodeId)
  deriving Repr, DecidableEq, Inhabited

namespace Node

/-- Whether a node never has to be computed by a statement. -/
def isStatic : Node → Bool
  | literal _ | constant _ | zero _ | argument _ | globalVariable _ | localVariable _ => true
  | _ => false

/-- How reports list numbers of nodes. -/
def listReport (nodes : List NodeId) : String :=
  "[" ++ ", ".intercalate (nodes.map entryReport) ++ "]"

/-- How reports show a node that is known before a run. -/
def report : Node → String
  | literal value => "Literal(" ++ value.report ++ ")"
  | zero type => "ZeroValue(" ++ entryReport type ++ ")"
  | constant number => "Constant(" ++ entryReport number ++ ")"
  | splat size value =>
      "Splat \x7b size: " ++ sizeReport size ++ ", value: " ++ entryReport value ++ " \x7d"
  | compose type components =>
      "Compose \x7b ty: " ++ entryReport type ++ ", components: " ++ listReport components ++
        " \x7d"
  | _ => ""

end Node

/-! ### Statements -/

/-- What a case of a switch stands for; nothing but all other values for the default. -/
inductive CaseLabel where
  | int (value : Int)
  | uint (value : Nat)
  | otherwise
  deriving Repr, DecidableEq

/-- How reports show a label. -/
def CaseLabel.report : CaseLabel → String
  | int value => s!"I32({value})"
  | uint value => s!"U32({value})"
  | otherwise => "Default"

mutual

/-- A statement. -/
inductive Statement where
  /-- Computes the nodes from one number to before another. -/
  | emit (first stop : NodeId)
  | block (body : List Statement)
  | choice (condition : NodeId) (accepted rejected : List Statement)
  | switch (selector : NodeId) (cases : List Case)
  /-- Runs a body over and over, and the second block between two rounds. -/
  | loop (body continuing : List Statement)
  /-- Leaves a loop or a switch. -/
  | leave
  /-- Goes on with the next round of a loop. -/
  | again
  | return (value : Option NodeId)
  | discard
  | barrier
  | store (pointer value : NodeId)
  | imageStore (image coordinate : NodeId) (arrayIndex : Option NodeId) (value : NodeId)
  | call (function : Nat) (arguments : List NodeId) (result : Option NodeId)

/-- A case of a switch. -/
inductive Case where
  | mk (label : CaseLabel) (body : List Statement) (fallsThrough : Bool)

end

instance : Inhabited Statement := ⟨.leave⟩

namespace Case

/-- What a case stands for. -/
def label : Case → CaseLabel
  | mk label _ _ => label

/-- What a case does. -/
def body : Case → List Statement
  | mk _ body _ => body

/-- Whether control goes on to the next case. -/
def fallsThrough : Case → Bool
  | mk _ _ fallsThrough => fallsThrough

end Case

/-! ### Pools -/

/-- The nodes of a function, or the constant nodes of a program, in their order. -/
structure Pool where
  nodes : Array Node := #[]
  spans : Array Span := #[]
  /-- For each node whether its value is known before a run. -/
  known : Array Bool := #[]
  deriving Inhabited

namespace Pool

/-- How many nodes there are. -/
def size (pool : Pool) : Nat :=
  pool.nodes.size

/-- The node of a number. -/
def node (pool : Pool) (id : NodeId) : Node :=
  (pool.nodes[id]?).getD (.literal (.bool false))

/-- Where a node is read from. -/
def span (pool : Pool) (id : NodeId) : Span :=
  (pool.spans[id]?).getD .nowhere

/-- Whether the value of a node is known before a run. -/
def isKnown (pool : Pool) (id : NodeId) : Bool :=
  (pool.known[id]?).getD false

/-- The pool with one more node; its number is the former size. -/
def push (pool : Pool) (node : Node) (span : Span) (isKnown : Bool) : Pool :=
  ⟨pool.nodes.push node, pool.spans.push span, pool.known.push isKnown⟩

/-- Whether the value of a new node is known before a run, given the pool of its operands. -/
def knows (pool : Pool) : Node → Bool
  | .literal _ | .constant _ | .zero _ => true
  | .compose _ components => components.all pool.isKnown
  | .splat _ value | .accessIndex value _ | .swizzle value _ | .unary _ value
  | .relational _ value | .cast _ value | .reinterpret _ value | .arrayLength value =>
      pool.isKnown value
  | .access base index => pool.isKnown base && pool.isKnown index
  | .binary _ left right => pool.isKnown left && pool.isKnown right
  | .select condition accepted rejected =>
      pool.isKnown condition && pool.isKnown accepted && pool.isKnown rejected
  | .math _ arguments => arguments.all pool.isKnown
  | _ => false

end Pool

end ShaderBuild.Glsl
