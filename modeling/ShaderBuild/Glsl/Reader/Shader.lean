import ShaderBuild.Glsl.Reader.Statement

namespace ShaderBuild.Glsl

/-!
# Reading whole shaders

A shader is a sequence of declarations. The function of a certain name becomes its
entry point: what runs for it stores the inputs in their variables, gives the variables
outside functions their values, calls the function and puts the outputs together. An
input or an output that is an array or a structure is exchanged part for part.
-/

namespace Reader

/-- The name of the function that an entry point runs. -/
def entryName : String := "main"

/-! ### Declarations -/

/-- Read declarations to the end of the shader. -/
def declarations : Nat → Reader Unit
  | 0 => outOfSteps
  | steps + 1 => do
      match ← peek? with
      | none => return
      | some _ =>
          if !(← declaration? ⟨true, false⟩ steps) then
            let placed ← next
            let isLatest := (← get).version = 460
            if placed.lexeme ≠ .mark ";" || !isLatest then
              unexpected ((if isLatest then ["Semicolon"] else []) ++ ["end of file"]) placed
          declarations steps

/-! ### Parts of the interface -/

/-- A part of a variable of the interface: what a pointer leads to, and what for. -/
structure InterfacePart where
  name : Option String
  pointer : NodeId
  type : TypeId
  binding : Binding

/-- Add a node to the entry point as it is. -/
def appendNode (node : Node) : Reader NodeId := do
  let id := (← draft).pool.size
  modifyDraft fun draft => { draft with pool := draft.pool.push node .nowhere false }
  return id

/-- Add a node to the entry point that a statement computes. -/
def appendComputed (node : Node) : Reader NodeId := do
  let id ← appendNode node
  perform (.emit id (id + 1))
  return id

/-- The binding of a part at a location. -/
def partBinding (location : Nat) (form : Form) : Binding :=
  .location location (usualInterpolation? form) none

/-- Go on to the location behind those of some parts, which must be a word of 32 bits too. -/
def passLocations (first count : Nat) : Reader Unit :=
  discard (sizeOf "add" (first + count))

/--
Visit the parts that a variable is exchanged in, in their order; a variable of the
language's own has no others than itself.
-/
def visitParts (visit : InterfacePart → Reader α) (part : InterfacePart) :
    Nat → Reader (List α)
  | 0 => return []
  | depth + 1 => do
      match ← formOfType part.type, part.binding with
      | .array _ (some _) _, .builtin _ | .record _ _, .builtin _ => return []
      | .array base (some size) _, .location first _ _ => do
          passLocations first size
          let form ← formOfType base
          let visited ← (List.range size).mapM fun index => do
            let pointer ← appendComputed (.accessIndex part.pointer index)
            visitParts visit ⟨part.name, pointer, base, partBinding (first + index) form⟩ depth
          return visited.flatten
      | .record members _, .location first _ _ => do
          passLocations first members.length
          let visited ← (members.zip (List.range members.length)).mapM fun (member, index) => do
            let pointer ← appendComputed (.accessIndex part.pointer index)
            let binding := partBinding (first + index) (← formOfType member.type)
            visitParts visit ⟨member.name, pointer, member.type, binding⟩ depth
          return visited.flatten
      | _, _ => return [← visit part]

/-- Visit the parts that a variable of the interface is exchanged in. -/
def visitInterface (visit : InterfacePart → Reader α) (found : InterfaceVariable) :
    Reader (List α) := do
  let pointer ← appendNode (.globalVariable found.number)
  let program ← program
  let type := ((program.globals[found.number]?).map (·.type)).getD 0
  visitParts visit ⟨found.name, pointer, type, found.binding⟩ (program.types.size + 1)

/-! ### Entry points -/

/-- Take an argument for a part and store it. -/
def takeInput (part : InterfacePart) : Reader Unit := do
  let index := (← draft).arguments.length
  let argument : Argument := { name := part.name, type := part.type, binding := some part.binding }
  modifyDraft fun draft => { draft with arguments := draft.arguments ++ [argument] }
  let value ← appendNode (.argument index)
  perform (.store part.pointer value)

/-- The members for parts that follow each other from an offset on, and where they end. -/
def outputMembers (types : TypeTable) (offset : Nat) : List InterfacePart → List Member × Nat
  | [] => ([], offset)
  | part :: parts =>
      let (members, stop) := outputMembers types (offset + (types.form part.type).size) parts
      ({ name := part.name, type := part.type, offset := offset } :: members, stop)

/-- The type of values with some parts. -/
def outputForm (parts : List InterfacePart) : Reader Form := do
  let (members, span) := outputMembers (← program).types 0 parts
  return .record members span

/-- Load the parts of the outputs and return them together, if there are any. -/
def returnOutputs (outputs : List InterfaceVariable) : Reader (Option FunctionResult) := do
  let found ← outputs.mapM (visitInterface fun part => do
    return (part, ← appendComputed (.load part.pointer)))
  match found.flatten with
  | [] =>
      perform (.return none)
      return none
  | found =>
      let type ← typeOfForm (← outputForm (found.map (·.1)))
      let value ← appendComputed (.compose type (found.map (·.2)))
      perform (.return (some value))
      return some { type := type, bindings := found.map (·.1.binding) }

/-- Add the entry point that runs a function; what is read outside functions is part of it. -/
def addEntryPoint (stage : ShaderStage) (function : Nat) : Reader Unit := do
  let state ← get
  let setup := state.draft.body
  let (inputs, outputs) := state.interface.toList.partition (!·.isOutput)
  modifyDraft fun draft => { draft with body := #[], arguments := [] }
  for input in inputs do
    discard (visitInterface takeInput input)
  modifyDraft fun draft => { draft with body := draft.body ++ setup }
  perform (.call function [] none)
  let result ← returnOutputs outputs
  let draft ← draft
  modifyProgram fun program =>
    { program with
      entry := some
        { stage := stage
          testsDepthFirst := state.testsDepthFirst
          workgroupSize := state.workgroupSize
          function :=
            { name := entryName
              arguments := draft.arguments
              result := result
              locals := #[]
              nodes := draft.pool.nodes
              body := draft.body.toList } } }

/-- The number of a function, if an entry point can run it. -/
def runnable? (overload : Overload) : Option Nat :=
  match overload.kind with
  | .call number => if overload.isDefined && overload.parameters = [] then some number else none
  | .language _ => none

/-- Read a shader, which must have a function for its entry point. -/
def shader (stage : ShaderStage) (steps : Nat) : Reader Program := do
  gatherNodes
  declarations steps
  let group := ((← get).functions.lookup entryName).getD {}
  match group.overloads.findSome? runnable? with
  | none => refuse .nowhere "Missing entry point"
  | some function =>
      addEntryPoint stage function
      program

end Reader

/-- Why a shader means no program. -/
inductive Rejection where
  | problems (problems : List EngineDiagnostic)
  /-- The engine itself fails, with a message. -/
  | breakdown (message : String)

/-- The program that a preprocessed shader means for a stage. -/
def Program.ofItems (stage : ShaderStage) (items : List Item) : Except Rejection Program :=
  match (Reader.shader stage (Reader.stepLimit items)).run.run { rest := items } with
  | (.ok program, state) =>
      if state.problems = [] then .ok program else .error (.problems state.problems.reverse)
  | (.error (.problem problem), state) =>
      .error (.problems (state.problems.reverse ++ [problem]))
  | (.error (.breakdown message), _) => .error (.breakdown message)

end ShaderBuild.Glsl
