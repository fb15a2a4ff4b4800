import ShaderBuild.Glsl.Lowering.Call
import ShaderBuild.Glsl.Lowering.Construction
import ShaderBuild.Glsl.Lowering.Field

namespace ShaderBuild.Glsl.Reader

/-!
# Evaluation

The nodes and statements that an expression stands for, according to what its value is
for. The arguments of a function are evaluated once to choose the function and once
more to be handed over.
-/

/-- The value of an expression that has to have one. -/
def needed (span : Span) : Option NodeId → Reader NodeId
  | some node => return node
  | none => refuse span "Expression returns void"

/-- End because an expression is assigned to that has no place. -/
def forbidTarget (position : Position) (expression : Expression) : Reader Unit :=
  if position = .target then
    refuse expression.span (expression.report ++ " cannot be in the left hand side")
  else return

/-- The index that a node is, if it is known. -/
def knownIndex? (index : NodeId) : Reader (Option Nat) := do
  discard (draftNode index)
  match (← program).literalAt? (← draft).pool index with
  | some (.uint value) => return some value
  | some (.int value) => return if 0 ≤ value then some value.toNat else none
  | _ => return none

/-! ### Names -/

/-- The value of a name whose parts are taken at an index that may be known. -/
def baseOfName (meaning : VariableReference) (isKnown : Bool) : Reader NodeId := do
  match meaning.constant, isKnown with
  | some (constant, type), false =>
      let initial ← addNode (.constant constant) .nowhere
      addLocal none type (some initial) .nowhere
  | _, _ => return meaning.node

/-- The value of a name. -/
def valueOfName (meaning : VariableReference) (span : Span) : Reader NodeId := do
  if meaning.isPlace then addNode (.load meaning.node) span
  else
    match (← draft).isConstant, meaning.constant with
    | true, some (constant, _) => addNode (.constant constant) span
    | _, _ => return meaning.node

/-- What a name stands for. -/
def evaluateName (position : Position) (meaning : VariableReference) (span : Span) :
    Reader NodeId := do
  match position with
  | .target =>
      if !meaning.isMutable then
        note span "Variable cannot be used in LHS position"
      return meaning.node
  | .base isKnown => baseOfName meaning isKnown
  | .value => valueOfName meaning span

/-! ### Parts of other expressions -/

/-- An element of a value; an index that is known is part of the node. -/
def takeElement (position : Position) (base index : NodeId) (known : Option Nat) (span : Span) :
    Reader NodeId := do
  let part ←
    match known with
    | some index => addNode (.accessIndex base index) span
    | none => addNode (.access base index) span
  if position = .value then
    let form ← formOf part span
    loadFor position form.space?.isSome part span
  else return part

/-- Store a value at a place, in the kind of what is there. -/
def assignTo (target value : PlacedValue) (span : Span) : Reader NodeId := do
  let form ←
    match ← formOf target.1 target.2 with
    | .pointer base _ => formOfType base
    | form => pure form
  let value ← convertToForm form value.1 value.2
  storeTo target.1 value span
  return value

/-- A branch of a conditional expression: its statements and its value. -/
structure Branch where
  body : List Statement
  value : PlacedValue

/-- The branch with its value as one of another kind. -/
def Branch.convert (kind : Scalar) (branch : Branch) : Reader Branch := do
  let (body, value) ←
    inBlockFrom branch.body (Reader.convert kind branch.value.1 branch.value.2)
  return ⟨body, (value, branch.value.2)⟩

/-- Two branches whose values have been made alike. -/
def convertBranches (accepted rejected : Branch) : Reader (Branch × Branch) := do
  let acceptedKind ← componentsOf accepted.value.1 accepted.value.2
  let rejectedKind ← componentsOf rejected.value.1 rejected.value.2
  match higherKind? acceptedKind rejectedKind with
  | some (.lt, _, kind) => return (← accepted.convert kind, rejected)
  | some (.gt, kind, _) => return (accepted, ← rejected.convert kind)
  | _ => return (accepted, rejected)

/-- Choose one of two branches; its value is kept in a variable. -/
def chooseBranch (condition : NodeId) (accepted rejected : Branch) (span : Span) :
    Reader NodeId := do
  let (accepted, rejected) ← convertBranches accepted rejected
  let type ← typeOf accepted.value.1 accepted.value.2
  let place ← addLocal none type none span
  perform
    (.choice condition (accepted.body ++ [.store place accepted.value.1])
      (rejected.body ++ [.store place rejected.value.1]))
  addNode (.load place) span

/-- The length of an array. -/
def lengthOf (array : NodeId) (span : Span) : Reader NodeId := do
  match ← formOf array span with
  | .array _ (some size) _ =>
      let length ← addNode (.literal (.uint size)) span
      convertAlways .int length span
  | _ =>
      let length ← addNode (.arrayLength array) span
      convert .int length span

/-! ### Expressions -/

mutual

/-- What an expression comes to; none if it is a call without a value. -/
def evaluate? (position : Position) : Expression → Reader (Option NodeId)
  | .literal tag value => do
      forbidTarget position (.literal tag value)
      return some (← addNode (.literal value) tag.span)
  | .named tag meaning => do
      return some (← evaluateName position meaning tag.span)
  | .access tag base index => do
      let indexNode ← needed index.span (← evaluate? .value index)
      let known ← if position = .target then pure none else knownIndex? indexNode
      let baseNode ← needed base.span (← evaluate? (position.ofBase known.isSome) base)
      return some (← takeElement position baseNode indexNode known tag.span)
  | .field tag base name => do
      let baseNode ← needed base.span (← evaluate? position base)
      return some (← takeField position baseNode name tag.span)
  | .unary tag operator operand => do
      forbidTarget position (.unary tag operator operand)
      let value ← needed operand.span (← evaluate? .value operand)
      return some (← addNode (.unary operator value) tag.span)
  | .binary tag operator left right => do
      forbidTarget position (.binary tag operator left right)
      let leftNode ← needed left.span (← evaluate? .value left)
      let rightNode ← needed right.span (← evaluate? .value right)
      return some
        (← applyBinary operator (leftNode, left.span) (rightNode, right.span) tag.span)
  | .conditional tag condition accepted rejected => do
      forbidTarget position (.conditional tag condition accepted rejected)
      let test ← needed condition.span (← evaluate? .value condition)
      let (acceptedBody, acceptedNode) ← inBlock do
        needed accepted.span (← evaluate? position accepted)
      let (rejectedBody, rejectedNode) ← inBlock do
        needed rejected.span (← evaluate? position rejected)
      return some
        (← chooseBranch test ⟨acceptedBody, (acceptedNode, accepted.span)⟩
          ⟨rejectedBody, (rejectedNode, rejected.span)⟩ tag.span)
  | .assign tag target value => do
      forbidTarget position (.assign tag target value)
      let place ← needed target.span (← evaluate? .target target)
      let valueNode ← needed value.span (← evaluate? .value value)
      return some (← assignTo (place, target.span) (valueNode, value.span) tag.span)
  | .step tag operator givesEarlier operand => do
      forbidTarget position (.step tag operator givesEarlier operand)
      let place ← needed operand.span (← evaluate? .target operand)
      return some (← countAt operator givesEarlier place tag.span)
  | .call tag callee arguments => do
      forbidTarget position (.call tag callee arguments)
      let values ← evaluateAll arguments
      match callee with
      | .constructor type => return some (← construct type values tag.span)
      | .function name =>
          let overload ← chooseOverload name values tag.span
          let (passed, writes) ← passAll arguments (Trial.ofOverload overload values
            (values.map fun _ => .none))
          callOverload overload passed writes tag.span
  | .method tag base name arguments => do
      forbidTarget position (.method tag base name arguments)
      let values ← evaluateAll arguments
      if name ≠ "length" then
        refuse tag.span ("unknown method '" ++ name ++ "'")
      if values ≠ [] then
        note tag.span ".length() doesn't take any arguments"
      let array ← needed base.span (← evaluate? position base)
      return some (← lengthOf array tag.span)

/-- What expressions come to, each of which has to have a value. -/
def evaluateAll : List Expression → Reader (List PlacedValue)
  | [] => return []
  | expression :: others => do
      let value ← needed expression.span (← evaluate? .value expression)
      return (value, expression.span) :: (← evaluateAll others)

/-- Hand arguments over; the result also holds what is to be written back. -/
def passAll : List Expression → List Trial → Reader (List NodeId × List WriteBack)
  | expression :: others, trial :: trials => do
      let isWritten := trial.info.use.isWritten
      let position := if isWritten then Position.target else .value
      let found ← needed expression.span (← evaluate? position expression)
      let argument := (found, expression.span)
      let (passed, writes) ←
        if isWritten then passPlace trial argument
        else pure (← passValue trial argument, [])
      let (otherPassed, otherWrites) ← passAll others trials
      return (passed :: otherPassed, writes ++ otherWrites)
  | _, _ => return ([], [])

end

/-- The value of an expression, which has to have one. -/
def evaluate (position : Position) (expression : Expression) : Reader PlacedValue := do
  return (← needed expression.span (← evaluate? position expression), expression.span)

end ShaderBuild.Glsl.Reader
