import ShaderBuild.Glsl.Reader

namespace ShaderBuild.Glsl.Reader

/-!
# Conversions

How values become values of other kinds and sizes: by themselves where a value of a
lower kind meets one of a higher kind, and by force in constructors. Also how known
values of a function become constants of the program.
-/

/-- The kind of the numbers that a value, or what a place holds, consists of. -/
def componentsOf (value : NodeId) (span : Span) : Reader (Option Scalar) := do
  return (← formOf value span).components?

/-- A value as one of another kind. -/
def convert (kind : Scalar) (value : NodeId) (span : Span) : Reader NodeId :=
  addNode (.cast kind value) span

/-- A value as one of another kind, if it becomes one by itself. -/
def convertRising (kind : Scalar) (value : NodeId) (span : Span) : Reader NodeId := do
  match kind.rank?, (← componentsOf value span).bind Scalar.rank? with
  | some target, some given => if target > given then convert kind value span else return value
  | _, _ => return value

/-- A value as one of another kind, unless it is one. -/
def convertAlways (kind : Scalar) (value : NodeId) (span : Span) : Reader NodeId := do
  match ← componentsOf value span with
  | some given => if given ≠ kind then convert kind value span else return value
  | none => return value

/-- A value that becomes part of one of a form. -/
def convertToForm (form : Form) (value : NodeId) (span : Span) : Reader NodeId := do
  match form.components? with
  | some kind => convertRising kind value span
  | none => return value

/-- The higher of two kinds, each with what tells whether it is the kind of the other value. -/
def higherKind? (left right : Option Scalar) : Option (Ordering × Scalar × Scalar) := do
  let leftKind ← left
  let rightKind ← right
  return (compare (← leftKind.rank?) (← rightKind.rank?), leftKind, rightKind)

/-- Two values, of which that of the lower kind becomes one of the higher kind. -/
def convertPair (left : NodeId) (leftSpan : Span) (right : NodeId) (rightSpan : Span) :
    Reader (NodeId × NodeId) := do
  let leftKind ← componentsOf left leftSpan
  let rightKind ← componentsOf right rightSpan
  match higherKind? leftKind rightKind with
  | some (.lt, _, kind) => return (← convert kind left leftSpan, right)
  | some (.gt, kind, _) => return (left, ← convert kind right rightSpan)
  | _ => return (left, right)

/-- A single value as a vector of a size, if a size is given; other values as they are. -/
def spread (size : Option Nat) (value : NodeId) (span : Span) : Reader NodeId := do
  match ← formOf value span, size with
  | .single _, some size => addNode (.splat size value) span
  | _, _ => return value

/-- The first components of a vector. -/
def resize (size : Nat) (vector : NodeId) (span : Span) : Reader NodeId :=
  addNode (.swizzle vector (List.range size)) span

/-! ### Constants of the program -/

/-- Add a constant node to the program. -/
def addConstantNode (node : Node) (span : Span) : Reader NodeId := do
  let id := (← program).values.size
  modifyProgram fun program => { program with values := program.values.push node span true }
  return id

/-- Add a node of the draft to the constants of the program. -/
def liftNode (id : NodeId) : Nat → Reader NodeId
  | 0 => refuse .nowhere "Expression is not const-expression"
  | depth + 1 => do
      let pool := (← draft).pool
      let span := pool.span id
      match pool.node id with
      | .literal value => addConstantNode (.literal value) span
      | .constant number => addConstantNode (.constant number) span
      | .zero type => addConstantNode (.zero type) span
      | .compose type components =>
          let components ← components.mapM fun part => liftNode part depth
          addConstantNode (.compose type components) span
      | .splat size value => do
          let value ← liftNode value depth
          addConstantNode (.splat size value) span
      | _ => refuse span "Expression is not const-expression"

/-- Add a known value of the draft to the constants of the program. -/
def liftConstant (id : NodeId) : Reader NodeId := do
  liftNode id ((← draft).pool.size + 1)

end ShaderBuild.Glsl.Reader
