import ShaderBuild.Glsl.Arithmetic
import ShaderBuild.Glsl.Program
import ShaderBuild.Glsl.Typing

namespace ShaderBuild.Glsl

/-!
# Folding

Adding a node to a pool. If the operands of the node are known before a run, what is
added is not the node but its value; the parts of the value are nodes, too, and are
added before it. Nodes that a run computes are computed by a statement, which covers
the nodes added since the last one; a node that is no part of such a range, like a
literal, interrupts it.
-/

/-- Where nodes are added. -/
structure Workplace where
  types : TypeTable
  /-- The nodes so far. -/
  pool : Pool
  /-- The first of the nodes that no statement computes yet, if nodes are to be computed. -/
  pending : Option NodeId := none
  body : Array Statement := #[]

/-- What folding looks up. -/
structure FoldingContext where
  constants : Array GlobalConstant
  /-- The constant nodes of the program, for a function; a program has no others. -/
  values : Option Pool

/-- Why folding ends. -/
inductive FoldingStop where
  | fault (fault : EvaluationFault)
  /-- The engine itself fails, with a message. -/
  | breakdown (message : String)

/-- A step of folding; nodes that were added before it fails stay. -/
abbrev Folding := ReaderT FoldingContext (ExceptT FoldingStop (StateM Workplace))

namespace Folding

/-- End with a fault. -/
def fail (fault : EvaluationFault) : Folding α :=
  throw (.fault fault)

/-- The value of a computation on known values. -/
def lift : Evaluated α → Folding α
  | .ok value => return value
  | .error fault => fail fault

/-- The node of a number. -/
def node (id : NodeId) : Folding Node := do
  return (← get).pool.node id

/-- The number of a type in the table, where it is put if it is new. -/
def typeOf (form : Form) : Folding TypeId := do
  let place ← get
  let (types, type) := place.types.insert { form := form }
  set { place with types := types }
  return type

/-- What a type is made of. -/
def formOf (type : TypeId) : Folding Form := do
  return (← get).types.form type

/-! ### Adding nodes -/

/-- Have the nodes that are still to be computed be computed by a statement. -/
def closePending (place : Workplace) : Workplace :=
  match place.pending with
  | some first =>
      let body :=
        if first = place.pool.size then place.body
        else place.body.push (.emit first place.pool.size)
      { place with pending := none, body := body }
  | none => place

/-- Start to gather nodes that are to be computed. -/
def openPending (place : Workplace) : Workplace :=
  { place with pending := some place.pool.size }

/-- Add a node as it is. -/
def append (node : Node) (span : Span) (isKnown : Bool) : Folding NodeId := do
  let interrupts := (← read).values.isSome && node.isStatic && (← get).pending.isSome
  if interrupts then modify closePending
  let id := (← get).pool.size
  modify fun place => { place with pool := place.pool.push node span isKnown }
  if interrupts then modify openPending
  return id

/-- Add a node whose value is known. -/
def register (node : Node) (span : Span) : Folding NodeId := do
  match node with
  | .literal value => lift value.check
  | _ => pure ()
  append node span true

/-- Add a copy of a constant node of the program, with all that it consists of. -/
def copy (values : Pool) (id : NodeId) : Nat → Folding NodeId
  | 0 => fail .notConstant
  | depth + 1 => do
      let span := values.span id
      match values.node id with
      | .compose type components =>
          register (.compose type (← components.mapM fun part => copy values part depth)) span
      | .splat size value => register (.splat size (← copy values value depth)) span
      | .literal value => register (.literal value) span
      | .constant number => register (.constant number) span
      | .zero type => register (.zero type) span
      | _ => fail .notConstant

/-- The node of a known operand, behind a constant if it is one. -/
def operand (id : NodeId) : Folding NodeId := do
  match ← node id with
  | .constant number =>
      let initial := (((← read).constants[number]?).map (·.initial)).getD 0
      match (← read).values with
      | some values => copy values initial (values.size + 1)
      | none => return initial
  | _ =>
      if (← get).pool.isKnown id then return id else fail .notConstant

/-! ### Zeros and equal components -/

/-- Add the zero of a type, part for part. -/
def expandZero (type : TypeId) (span : Span) : Nat → Folding NodeId
  | 0 => fail .noZero
  | depth + 1 => do
      match ← formOf type with
      | .single kind => register (.literal (.zero kind)) span
      | .vector size kind =>
          let part ← expandZero (← typeOf (.single kind)) span depth
          register (.compose type (List.replicate size part)) span
      | .matrix columns rows kind =>
          let part ← expandZero (← typeOf (.vector rows kind)) span depth
          register (.compose type (List.replicate columns part)) span
      | .array base (some size) _ =>
          let part ← expandZero base span depth
          register (.compose type (List.replicate size part)) span
      | .record members _ =>
          let parts ← members.mapM fun member => expandZero member.type span depth
          register (.compose type parts) span
      | _ => fail .noZero

/-- How deeply values are nested at most. -/
def depth : Folding Nat := do
  let place ← get
  return place.pool.size + place.types.size + 8

/-- A node, or the parts of the zero that it is. -/
def withoutZero (id : NodeId) (span : Span) : Folding NodeId := do
  match ← node id with
  | .zero type => expandZero type span (← depth)
  | _ => return id

/-- A vector of equal components, part for part. -/
def expandSplat (size : Nat) (value : NodeId) (span : Span) : Folding NodeId := do
  match ← node value with
  | .literal literal =>
      let type ← typeOf (.vector size literal.kind)
      register (.compose type (List.replicate size value)) span
  | .zero type =>
      match ← formOf type with
      | .single kind => register (.zero (← typeOf (.vector size kind))) span
      | _ => fail .spreadOther
  | _ => fail .spreadOther

/-- A node, or the parts of the zero or of the equal components that it is. -/
def withoutShorthand (id : NodeId) (span : Span) : Folding NodeId := do
  match ← node id with
  | .splat size value => expandSplat size value span
  | _ => withoutZero id span

/-- The parts of a composed value; vectors that a vector is made of count for theirs. -/
def parts (type : TypeId) (components : List NodeId) : Folding (List NodeId) := do
  match ← formOf type with
  | .vector size _ =>
      let pool := (← get).pool
      let flat (id : NodeId) : List NodeId :=
        match pool.node id with
        | .compose _ inner => inner
        | _ => [id]
      return ((components.flatMap flat).flatMap flat).take size
  | _ => return components

/-! ### Accesses -/

/-- The types of the parts of a value, if there are as many as its type says. -/
def partType? : Form → Nat → Option (Nat × (Form ⊕ TypeId))
  | .vector size kind, _ => some (size, .inl (.single kind))
  | .matrix columns rows kind, _ => some (columns, .inl (.vector rows kind))
  | .array base (some size) _, _ => some (size, .inr base)
  | .record members _, index =>
      some (members.length, .inr (((members[index]?).map (·.type)).getD 0))
  | _, _ => none

/-- A part of a known value. -/
def access (base : NodeId) (index : Nat) (span : Span) : Folding NodeId := do
  match ← node base with
  | .zero type =>
      match partType? (← formOf type) index with
      | none => fail .accessedBase
      | some (size, part) =>
          if index ≥ size then fail .accessedBase
          let type ← match part with
            | .inl form => typeOf form
            | .inr type => pure type
          register (.zero type) span
  | .splat size value => if index ≥ size then fail .accessedBase else return value
  | .compose type components =>
      if (partType? (← formOf type) index).isNone then fail .accessedBase
      match (← parts type components)[index]? with
      | some part => return part
      | none => fail .accessedIndex
  | _ => fail .accessedBase

/-- The index that a known node is; only unsigned numbers are one. -/
def indexOf (id : NodeId) : Folding Nat := do
  match ← node id with
  | .literal (.uint index) => return index
  | .zero type =>
      if (← formOf type) = .single .uint then return 0 else fail .accessedIndexKind
  | _ => fail .accessedIndexKind

/-- Components of a known vector. -/
def swizzle (vector : NodeId) (pattern : List Nat) (span : Span) : Folding NodeId := do
  let target (type : TypeId) : Folding TypeId := do
    match ← formOf type with
    | .vector _ kind => typeOf (.vector pattern.length kind)
    | _ => fail .swizzledOther
  match ← node vector with
  | .zero type => register (.zero (← target type)) span
  | .splat _ value => register (.splat pattern.length value) span
  | .compose type components =>
      let type' ← target type
      let found := (← parts type components).take 4
      let chosen ← pattern.mapM fun index =>
        match found[index]? with
        | some part => pure part
        | none => fail .swizzledBeyond
      register (.compose type' chosen) span
  | _ => fail .swizzledOther

/-- The length of a known array. -/
def arrayLength (array : NodeId) (span : Span) : Folding NodeId := do
  match ← node array with
  | .zero type | .compose type _ =>
      match ← formOf type with
      | .array _ (some size) _ => register (.literal (.uint size)) span
      | .array _ none _ => fail .openLength
      | _ => fail .lengthOfOther
  | _ => fail .lengthOfOther

/-! ### Operators -/

/-- A known value as one of another kind. -/
def cast (kind : Scalar) (id : NodeId) (span : Span) : Nat → Folding NodeId
  | 0 => fail .wrongOperand
  | depth + 1 => do
      let id ← withoutZero id span
      let refused (node : Node) : Folding NodeId :=
        fail (.wrongCast (entryReport id ++ " " ++ node.report) kind.report)
      match ← node id with
      | .literal value =>
          match value.cast? kind with
          | some value => register (.literal value) span
          | none => refused (.literal value)
      | .compose type components =>
          let target? : Option Form := match ← formOf type with
            | .vector size _ => some (.vector size kind)
            | .matrix columns rows _ => some (.matrix columns rows kind)
            | _ => none
          match target? with
          | none => refused (.compose type components)
          | some target =>
              let components ← components.mapM fun part => cast kind part span depth
              register (.compose (← typeOf target) components) span
      | .splat size value =>
          let valueSpan := (← get).pool.span value
          register (.splat size (← cast kind value valueSpan depth)) span
      | other => refused other

/-- What an operator makes of a known value. -/
def unary (operator : UnaryOperator) (id : NodeId) (span : Span) : Nat → Folding NodeId
  | 0 => fail .wrongOperand
  | depth + 1 => do
      match ← node (← withoutShorthand id span) with
      | .literal value => register (.literal (← lift (operator.apply value))) span
      | .compose type components =>
          match ← formOf type with
          | .vector _ _ | .matrix _ _ _ => pure ()
          | _ => fail .wrongOperand
          let components ← components.mapM fun part => unary operator part span depth
          register (.compose type components) span
      | _ => fail .wrongOperand

/-- What an operator makes of two known values. -/
def binary (operator : BinaryOperator) (left right : NodeId) (span : Span) :
    Nat → Folding NodeId
  | 0 => fail .wrongOperands
  | depth + 1 => do
      let left ← withoutShorthand left span
      let right ← withoutShorthand right span
      match ← node left, ← node right with
      | .literal leftValue, .literal rightValue =>
          register (.literal (← lift (operator.apply leftValue rightValue))) span
      | .compose type components, .literal _ =>
          let components ← components.mapM fun part => binary operator part right span depth
          register (.compose type components) span
      | .literal _, .compose type components =>
          let components ← components.mapM fun part => binary operator left part span depth
          register (.compose type components) span
      | .compose leftType leftComponents, .compose rightType rightComponents =>
          let pairs := (← parts leftType leftComponents).zip (← parts rightType rightComponents)
          match ← formOf leftType, ← formOf rightType with
          | .vector leftSize _, .vector rightSize _ =>
              if leftSize ≠ rightSize then fail .wrongOperands
              let type ← if operator.compares then typeOf (.vector leftSize .bool)
                else pure leftType
              let components ← pairs.mapM fun (first, second) =>
                binary operator first second span depth
              register (.compose type components) span
          | _, _ => fail .wrongOperands
      | _, _ => fail .wrongOperands

/-! ### Functions -/

/-- The literals that nodes are, if all are. -/
def literals? (nodes : List Node) : Option (List Literal) :=
  nodes.mapM fun
    | .literal value => some value
    | _ => none

/-- The component of a vector at an index. -/
def component (components : List NodeId) (index : Nat) : Folding NodeId :=
  match components[index]? with
  | some part => return part
  | none => throw (.breakdown (TypeFault.outOfRange components.length index))

/-- What a function makes of known values, component for component. -/
def math (function : MathFunction) (arguments : List NodeId) (span : Span) : Nat → Folding NodeId
  | 0 => fail .wrongArgument
  | depth + 1 => do
      let arguments ← arguments.mapM (withoutShorthand · span)
      let nodes ← arguments.mapM node
      match literals? nodes, nodes with
      | some values, _ => register (.literal (← lift (function.apply values))) span
      | none, .compose type _ :: _ =>
          match ← formOf type with
          | .vector size kind =>
              let groups ← nodes.mapM fun
                | .compose otherType components => do
                    if (← formOf otherType) ≠ .vector size kind then fail .wrongArgument
                    parts otherType components
                | _ => fail .wrongArgument
              let components ← (List.range size).mapM fun index => do
                math function (← groups.mapM (component · index)) span depth
              register (.compose type components) span
          | _ => fail .wrongArgument
      | _, _ => fail .wrongArgument

/-! ### Folding nodes -/

/-- The nodes that decide whether the value of a node is known before a run. -/
def deciders : Node → List NodeId
  | .compose _ components => components
  | .splat _ value | .accessIndex value _ | .swizzle value _ | .unary _ value
  | .relational _ value | .cast _ value | .reinterpret _ value | .arrayLength value => [value]
  | .access base index => [base, index]
  | .binary _ left right => [left, right]
  | .select condition accepted rejected => [condition, accepted, rejected]
  | .math _ arguments => arguments
  | _ => []

/-- Add the value of a node of which all operands are known. -/
def fold (node : Node) (span : Span) : Folding NodeId := do
  match node with
  | .constant number =>
      match (← read).values with
      | some _ => register node span
      | none => return (((← read).constants[number]?).map (·.initial)).getD 0
  | .compose type components =>
      register (.compose type (← components.mapM operand)) span
  | .splat size value => register (.splat size (← operand value)) span
  | .accessIndex base index => access (← operand base) index span
  | .access base index =>
      let base ← operand base
      let index ← operand index
      access base (← indexOf index) span
  | .swizzle vector pattern => swizzle (← operand vector) pattern span
  | .unary operator value =>
      let value ← operand value
      unary operator value span (← depth)
  | .binary operator left right =>
      let left ← operand left
      let right ← operand right
      binary operator left right span (← depth)
  | .math function arguments =>
      let arguments ← arguments.mapM operand
      if !function.isComputed then fail (.notComputed function.report)
      math function arguments span (← depth)
  | .cast kind value =>
      let value ← operand value
      cast kind value span (← depth)
  | .reinterpret _ value =>
      discard (operand value)
      fail (.notComputed "bitcast")
  | .select _ _ _ => fail (.notComputed "select")
  | .relational function _ => fail (.notComputed function.report)
  | .arrayLength array => arrayLength (← operand array) span
  | node => register node span

/--
Add a node, or its value if that is known before a run. A function computes in a run
what is not known before; elsewhere everything has to be known.
-/
def add (node : Node) (span : Span) : Folding NodeId := do
  let pool := (← get).pool
  match (deciders node).find? (· ≥ pool.size) with
  | some id => throw (.breakdown (TypeFault.outOfRange pool.size id))
  | none =>
      let inFunction := (← read).values.isSome
      if pool.knows node then
        tryCatch (fold node span) fun
          | .fault fault =>
              if inFunction && fault.isLeftToRun then append node span false else fail fault
          | .breakdown message => throw (.breakdown message)
      else if inFunction then append node span false
      else fail .needsRun

end Folding

end ShaderBuild.Glsl
