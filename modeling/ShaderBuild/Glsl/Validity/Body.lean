import ShaderBuild.Glsl.Validity.FunctionFault
import ShaderBuild.Glsl.Validity.Nodes

namespace ShaderBuild.Glsl

/-!
# Validity of bodies

What statements ask for: the values that they use have been computed on every way to
them, within the block that they are in, and have the right types; control leaves only
what it is in; and nothing follows a statement that control does not get past.
-/

/-- What a statement may do with control, by what it is in. -/
structure Abilities where
  canReturn : Bool := false
  canLeave : Bool := false
  canGoOn : Bool := false

/-- What is known where a statement starts or ends. -/
structure Flow where
  /-- For each node whether it can be used. -/
  visible : Array Bool
  /-- Whether control does not get there. -/
  isFinished : Bool := false
  /-- Whether something so far can only be done for fragments. -/
  isForFragments : Bool := false

namespace Flow

/-- Whether a node can be used. -/
def sees (flow : Flow) (node : NodeId) : Bool :=
  (flow.visible[node]?).getD false

/-- The flow with a node that can be used, if it could not before. -/
def reveal? (flow : Flow) (node : NodeId) : Option Flow :=
  if flow.sees node then none
  else some { flow with visible := flow.visible.setIfInBounds node true }

/-- The flow behind a block inside of which another one is reached. -/
def after (flow inner : Flow) : Flow :=
  { flow with isForFragments := inner.isForFragments }

/-- The flow at a place that control gets to. -/
def reached (flow : Flow) : Flow :=
  { flow with isFinished := false }

end Flow

/-- A function whose body is looked at. -/
structure BodySite extends FunctionSite where
  /-- For each function before this one whether it is only for fragments. -/
  limited : Array Bool

namespace BodySite

variable (site : BodySite)

/-! ### Values -/

/-- Check that a node can be used. -/
def checkScope (flow : Flow) (node : NodeId) : Except NodeFault Unit :=
  if flow.sees node then .ok () else .error .notInScope

/-- What the value of a node is made of, if it can be used. -/
def visibleForm (flow : Flow) (node : NodeId) : Except FunctionFault Form := do
  (checkScope flow node).mapError (.node node)
  return site.form node

/-- Whether two forms are the same, however pointers say what they lead to. -/
def agree (first second : Form) : Bool :=
  site.typed.program.types.agree first second

/-- Let nodes from one on be used, as many as there are. -/
def emit (flow : Flow) (first : NodeId) : Nat → Except FunctionFault Flow
  | 0 => .ok flow
  | count + 1 =>
      match flow.reveal? first with
      | some flow => emit flow (first + 1) count
      | none => .error (.nodeInScope first)

/-! ### Stores -/

/-- Check that a node is a part of a variable or of what an argument leads to. -/
def checkPlace (node : NodeId) : Nat → Except FunctionFault Unit
  | 0 => .error (.storePlace node)
  | steps + 1 =>
      match site.function.nodes[node]? with
      | some (.access base _) | some (.accessIndex base _) => checkPlace base steps
      | some (.localVariable _) | some (.globalVariable _) | some (.argument _) => .ok ()
      | _ => .error (.storePlace node)

/-- Check a store. -/
def checkStore (flow : Flow) (pointer value : NodeId) : Except FunctionFault Unit := do
  site.checkPlace pointer (pointer + 1)
  let form ← site.visibleForm flow value
  if form.isHandle then
    throw (.storedValue value)
  let place := site.form pointer
  if site.typed.program.types.pointee? place ≠ some form then
    throw (.storedType pointer value)
  if !place.space?.all (·.canStore) then
    throw (.storePlace pointer)

/-- Check a store to an image. -/
def checkImageStore (flow : Flow) (image coordinate : NodeId) (arrayIndex : Option NodeId)
    (value : NodeId) : Except FunctionFault Unit := do
  let expected ← (site.toFunctionSite.checkImageStore image coordinate arrayIndex).mapError
    .imageStore
  for node in coordinate :: arrayIndex.toList do
    discard (site.visibleForm flow node)
  if (← site.visibleForm flow value) ≠ expected then
    throw (.storedValue value)

/-! ### Calls -/

/-- Check an argument of a call. -/
def checkArgument (flow : Flow) (index : Nat) (parameter : Argument) (argument : NodeId) :
    Except CallFault Unit := do
  (checkScope flow argument).mapError (.argument index)
  if !site.agree (site.form argument) (site.typed.form parameter.type) then
    throw (.argumentType index argument parameter.type)

/-- Whether a node is the result of a call of a function that has one. -/
def isResult (callee : Function) (number : Nat) (result : NodeId) : Bool :=
  callee.result.isSome && site.function.nodes[result]? = some (.callResult number)

/-- The flow behind a call. -/
def checkCall (flow : Flow) (number : Nat) (arguments : List NodeId) (result : Option NodeId) :
    Except CallFault Flow := do
  let callee := (site.typed.program.functions[number]?).getD default
  let required := callee.arguments.length
  if required ≠ arguments.length then
    throw (.count required arguments.length)
  let indexed := (List.range required).zip (callee.arguments.zip arguments)
  for (index, parameter, argument) in indexed do
    site.checkArgument flow index parameter argument
  let isLimited := (site.limited[number]?).getD false
  let flow := { flow with isForFragments := flow.isForFragments || isLimited }
  match result with
  | some result =>
      match flow.reveal? result with
      | none => throw (.resultInScope result)
      | some flow => if site.isResult callee number result then return flow else throw .result
  | none => if callee.result.isSome then throw .result else return flow

/-! ### Switches -/

/-- Whether a label suits the kind of what selects a case. -/
def labelFits (kind : Scalar) : CaseLabel → Bool
  | .int _ => kind = .int
  | .uint _ => kind = .uint
  | .otherwise => true

/-- Check the labels of a switch, each against those before it. -/
def checkLabels (kind : Scalar) (earlier : List CaseLabel) :
    List CaseLabel → Except FunctionFault Unit
  | [] => if earlier.contains .otherwise then .ok () else .error .noDefault
  | label :: labels =>
      if !labelFits kind label then .error .caseKind
      else if earlier.contains label then
        .error (if label = .otherwise then .repeatedDefault else .repeatedCase label)
      else checkLabels kind (label :: earlier) labels

/-- Check the form and the labels of a switch. -/
def checkCases (flow : Flow) (selector : NodeId) (cases : List Case) :
    Except FunctionFault Unit := do
  match (← site.visibleForm flow selector).kind? with
  | some kind =>
      if !kind.isWhole then
        throw (.selector selector)
      checkLabels kind [] (cases.map (·.label))
      if (cases.getLast?).any (·.fallsThrough) then
        throw .openLastCase
  | none => throw (.selector selector)

/-! ### Statements -/

/-- Check a return. -/
def checkReturn (abilities : Abilities) (flow : Flow) (value : Option NodeId) :
    Except FunctionFault Unit := do
  if !abilities.canReturn then
    throw .returnInContinuing
  let form ← value.mapM (site.visibleForm flow)
  match form, site.function.result with
  | none, none => return
  | some form, some result =>
      if !site.agree form (site.typed.form result.type) then throw (.returnedValue value)
  | _, _ => throw (.returnedValue value)

mutual

/-- The flow behind a statement. -/
def checkStatement (abilities : Abilities) (flow : Flow) :
    Statement → Except FunctionFault Flow
  | .emit first stop => emit flow first (stop - first)
  | .block body => do
      let inner ← checkStatements abilities flow body
      return { flow.after inner with isFinished := inner.isFinished }
  | .choice condition accepted rejected => do
      if (← site.visibleForm flow condition) ≠ .single .bool then
        throw (.condition condition)
      let inner ← checkStatements abilities flow accepted
      let inner ← checkStatements abilities (flow.after inner) rejected
      return flow.after inner
  | .switch selector cases => do
      site.checkCases flow selector cases
      checkCaseBodies { abilities with canLeave := true } flow cases
  | .loop body continuing => do
      let inner ← checkStatements { abilities with canLeave := true, canGoOn := true } flow body
      let inner ← checkStatements {} inner.reached continuing
      return flow.after inner
  | .leave =>
      if abilities.canLeave then .ok { flow with isFinished := true } else .error .leaveOutside
  | .again =>
      if abilities.canGoOn then .ok { flow with isFinished := true } else .error .againOutside
  | .return value => do
      site.checkReturn abilities flow value
      return { flow with isFinished := true }
  | .discard => .ok { flow with isFinished := true, isForFragments := true }
  | .barrier => .error .barrier
  | .store pointer value => do
      site.checkStore flow pointer value
      return flow
  | .imageStore image coordinate arrayIndex value => do
      site.checkImageStore flow image coordinate arrayIndex value
      return flow
  | .call number arguments result =>
      (site.checkCall flow number arguments result).mapError (.call number)

/-- The flow behind statements. -/
def checkStatements (abilities : Abilities) (flow : Flow) :
    List Statement → Except FunctionFault Flow
  | [] => .ok flow
  | statement :: statements => do
      if flow.isFinished then
        throw .unreachable
      checkStatements abilities (← checkStatement abilities flow statement) statements

/-- The flow behind the cases of a switch. -/
def checkCaseBodies (abilities : Abilities) (flow : Flow) :
    List Case → Except FunctionFault Flow
  | [] => .ok flow
  | .mk _ body _ :: cases => do
      let inner ← checkStatements abilities flow body
      checkCaseBodies abilities (flow.after inner) cases

end

end BodySite

end ShaderBuild.Glsl
