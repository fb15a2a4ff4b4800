import ShaderBuild.Glsl.Expression
import ShaderBuild.Glsl.Folding
import ShaderBuild.Glsl.Overload
import ShaderBuild.Glsl.Preprocessed
import ShaderBuild.Glsl.Word

namespace ShaderBuild.Glsl

/-!
# Reading shaders

A shader is read from its parts in one go, while the program that it means is put
together. Some problems are noted and passed over; the first of any other kind ends
the reading.

What is read inside of a function adds to a draft of it. Constant expressions are read
with drafts of their own, but their nodes belong to the program.
-/

/-! ### Names -/

/-- What a name that is declared outside functions stands for. -/
inductive GlobalMeaning where
  | whole (number : Nat)
  /-- A member of a block. -/
  | member (number index : Nat)
  | constant (number : Nat) (type : TypeId)
  deriving Repr, DecidableEq

/-- A name that is declared outside functions. -/
structure GlobalName where
  name : String
  meaning : GlobalMeaning
  /-- Number of the variable in the interface of the entry point. -/
  interface : Option Nat := none
  isMutable : Bool
  deriving Repr, DecidableEq

/-- A variable through which an entry point communicates. -/
structure InterfaceVariable where
  name : Option String
  binding : Binding
  /-- Number of the variable outside functions. -/
  number : Nat
  isOutput : Bool
  deriving Repr, DecidableEq

/-! ### State -/

/-- What is known of the function, or of the code outside functions, that is being read. -/
structure Draft where
  pool : Pool := {}
  /-- The first of the nodes that no statement computes yet. -/
  pending : Option NodeId := none
  body : Array Statement := #[]
  locals : Array LocalVariable := #[]
  arguments : List Argument := []
  parameters : List TypeId := []
  infos : List ParameterInfo := []
  /-- The names in scope, innermost scope first. -/
  scopes : List (List (String × VariableReference)) := [[]]
  /-- The samplers that images are used with. -/
  samplers : List (NodeId × NodeId) := []
  typing : Array Resolution := #[]
  /-- The types of the constant nodes of the program. -/
  constantTyping : Array Resolution := #[]
  /-- Whether all that is read has to be constant. -/
  isConstant : Bool := false
  /-- How many expressions the statement that is read has so far. -/
  expressionCount : Nat := 0
  deriving Inhabited

/-- Where the reading of a shader stands. -/
structure ReaderState where
  /-- What is left to read. -/
  rest : List Item
  /-- Where the lexeme read last stands. -/
  last : Span := .nowhere
  /-- The problems noted so far, the last one first. -/
  problems : List EngineDiagnostic := []
  /-- The version of the language that was asked for. -/
  version : Nat := 440
  program : Program := {}
  /-- The names of structures. -/
  typeNames : List (String × TypeId) := []
  functions : List (String × FunctionGroup) := []
  /-- The names declared outside functions, the last one last. -/
  globalNames : Array GlobalName := #[]
  interface : Array InterfaceVariable := #[]
  /-- Whether the depth of fragments is to be tested before a run. -/
  testsDepthFirst : Bool := false
  workgroupSize : List Nat := [0, 0, 0]
  draft : Draft := {}

/-- A step of reading: it goes on in a new state or ends. -/
abbrev Reader := ExceptT Halt (StateM ReaderState)

namespace Reader

/-- Note a problem and go on. -/
def note (span : Span) (message : String) : Reader Unit :=
  modify fun state => { state with problems := span.problem message :: state.problems }

/-- End with a problem. -/
def refuse (span : Span) (message : String) : Reader α :=
  throw (.problem (span.problem message))

/-- End because the engine fails. -/
def breakDown (message : String) : Reader α :=
  throw (.breakdown message)

/-! ### Lexemes -/

/-- Where a lexeme stands. -/
def spanOf (placed : PlacedLexeme) : Span :=
  ⟨placed.offset, placed.stop⟩

/-- What follows the notices of directives, and the state after taking note of those. -/
def settle (state : ReaderState) : List Item → ReaderState
  | .notice (.version number) :: rest => settle { state with version := number } rest
  | .notice (.problem problem) :: rest =>
      settle { state with problems := problem :: state.problems } rest
  | rest => { state with rest := rest }

/-- The next lexeme, which stays to be read; none at the end. -/
def peek? : Reader (Option PlacedLexeme) := do
  modify fun state => settle state state.rest
  match (← get).rest with
  | .lexeme placed :: _ => return some placed
  | .breakdown message :: _ => breakDown message
  | _ => return none

/-- End because the shader ends too early. -/
def endOfFile : Reader α := do
  refuse (← get).last "Unexpected end of file"

/-- The next lexeme, which stays to be read, in its place. -/
def peekPlaced : Reader PlacedLexeme := do
  match ← peek? with
  | some placed => return placed
  | none => endOfFile

/-- The next lexeme, which stays to be read. -/
def peek : Reader Lexeme := do
  return (← peekPlaced).lexeme

/-- Read the next lexeme. -/
def next : Reader PlacedLexeme := do
  let placed ← peekPlaced
  modify fun state => { state with rest := state.rest.tail, last := spanOf placed }
  return placed

/-- Take back a lexeme that was read. -/
def putBack (placed : PlacedLexeme) : Reader Unit :=
  modify fun state => { state with rest := .lexeme placed :: state.rest }

/-- Alternatives in words. -/
def alternatives : List String → String
  | [] => ""
  | [only] => only
  | [first, last] => first ++ " or " ++ last
  | first :: others => first ++ ", " ++ alternatives others

/-- End with a lexeme that stands where others are expected. -/
def unexpected (expected : List String) (placed : PlacedLexeme) : Reader α :=
  refuse (spanOf placed)
    ("Expected " ++ alternatives expected ++ ", found " ++ placed.lexeme.report)

/-- Read the lexeme that must follow; the result is its place. -/
def expect (lexeme : Lexeme) : Reader Span := do
  let placed ← next
  if placed.lexeme ≠ lexeme then
    unexpected [lexeme.report] placed
  return spanOf placed

/-- Whether a lexeme follows. -/
def follows (lexeme : Lexeme) : Reader Bool := do
  return (← peek?).any (·.lexeme = lexeme)

/-- Read a lexeme if it follows; the result is its place. -/
def skip? (lexeme : Lexeme) : Reader (Option Span) := do
  if ← follows lexeme then
    return some (spanOf (← next))
  return none

/-- Read a lexeme if it follows. -/
def skip (lexeme : Lexeme) : Reader Bool := do
  return (← skip? lexeme).isSome

/-- Whether a lexeme is an identifier, which is no word of the language. -/
def isIdentifier : Lexeme → Bool
  | .word name => !isKeyword name && !isTypeName name
  | _ => false

/-- Read an identifier; the result is its name and its place. -/
def identifier : Reader (String × Span) := do
  let placed ← next
  if isIdentifier placed.lexeme then return (placed.lexeme.name, spanOf placed)
  unexpected ["identifier"] placed

/-- Whether a type follows. -/
def typeFollows : Reader Bool := do
  match ← peek? with
  | some ⟨.word name, _, _, _, _, _⟩ =>
      return name = "void" || name = "struct" || isTypeName name ||
        (← get).typeNames.any (·.1 = name)
  | _ => return false

/-- Whether a qualifier follows. -/
def qualifierFollows : Reader Bool := do
  match ← peek? with
  | some ⟨.word name, _, _, _, _, _⟩ => return isQualifier name
  | _ => return false

/-- The steps that reading is given: more than nesting can need. -/
def stepLimit (items : List Item) : Nat :=
  32 * (items.length + 1)

/-- The end of a reading that has used up its steps. -/
def outOfSteps : Reader α :=
  throw (.problem ⟨none, "Unexpected end of file"⟩)

/-! ### Programs and drafts -/

/-- The program so far. -/
def program : Reader Program := do
  return (← get).program

/-- Change the program. -/
def modifyProgram (change : Program → Program) : Reader Unit :=
  modify fun state => { state with program := change state.program }

/-- The draft of what is being read. -/
def draft : Reader Draft := do
  return (← get).draft

/-- Change the draft of what is being read. -/
def modifyDraft (change : Draft → Draft) : Reader Unit :=
  modify fun state => { state with draft := change state.draft }

/-- What a type is made of. -/
def formOfType (type : TypeId) : Reader Form := do
  return (← program).form type

/-- The number of a type, which is put in the table if it is new. -/
def insertType (type : NamedType) : Reader TypeId := do
  let program ← program
  let (types, id) := program.types.insert type
  modifyProgram fun program => { program with types := types }
  return id

/-- The number of a type without a name. -/
def typeOfForm (form : Form) : Reader TypeId :=
  insertType { form := form }

/-! ### Nodes -/

/-- Where new nodes go. -/
def workplace (state : ReaderState) : Workplace :=
  if state.draft.isConstant then
    { types := state.program.types, pool := state.program.values }
  else
    { types := state.program.types
      pool := state.draft.pool
      pending := state.draft.pending
      body := state.draft.body }

/-- The state after work at the place where new nodes go. -/
def putWorkplace (state : ReaderState) (place : Workplace) : ReaderState :=
  let program := { state.program with types := place.types }
  if state.draft.isConstant then
    { state with program := { program with values := place.pool } }
  else
    { state with
      program := program
      draft :=
        { state.draft with pool := place.pool, pending := place.pending, body := place.body } }

/-- Add a node, or its value if that is known. -/
def addNode (node : Node) (span : Span) : Reader NodeId := do
  let state ← get
  let context : FoldingContext :=
    { constants := state.program.constants
      values := if state.draft.isConstant then none else some state.program.values }
  let (outcome, place) := (((Folding.add node span).run context).run).run (workplace state)
  set (putWorkplace state place)
  match outcome with
  | .ok id => return id
  | .error (.fault fault) => refuse span fault.report
  | .error (.breakdown message) => breakDown message

/-- The nodes among which those that are added are. -/
def currentPool : Reader Pool := do
  let state ← get
  return if state.draft.isConstant then state.program.values else state.draft.pool

/-- The node of a number, as the draft has it. -/
def draftNode (id : NodeId) : Reader Node := do
  let pool := (← draft).pool
  match pool.nodes[id]? with
  | some node => return node
  | none => breakDown (TypeFault.outOfRange pool.size id)

/-! ### Types of nodes -/

/-- What the types of nodes depend on. -/
def surroundings (state : ReaderState) : Surroundings :=
  { program := state.program
    locals := state.draft.locals
    arguments := state.draft.arguments }

/-- The types found so far for the nodes among which those that are added are. -/
def currentTyping : Reader (Array Resolution) := do
  let draft ← draft
  return if draft.isConstant then draft.constantTyping else draft.typing

/-- Keep the types of nodes. -/
def setTyping (found : Array Resolution) : Reader Unit :=
  modifyDraft fun draft =>
    if draft.isConstant then { draft with constantTyping := found }
    else { draft with typing := found }

/-- End because a node has no type. -/
def refuseType (span : Span) : TypeFault → Reader α
  | .untyped count node => breakDown (TypeFault.outOfRange count node)
  | fault => refuse span ("Can't resolve type: " ++ fault.shown)

/-- Find the types of all nodes if that of one is not known. -/
def resolveTo (id : NodeId) (span : Span) : Reader Unit := do
  let found ← currentTyping
  if found.size ≤ id then
    let pool ← currentPool
    let (found, fault) := (surroundings (← get)).resolveFrom pool.nodes found
    setTyping found
    match fault with
    | some (_, fault) => refuseType span fault
    | none => pure ()

/-- The type of a node, if it is known. -/
def knownResolution (id : NodeId) : Reader Resolution := do
  let found ← currentTyping
  match found[id]? with
  | some resolution => return resolution
  | none => breakDown (TypeFault.outOfRange found.size id)

/-- What the type of a node is made of, if it is known. -/
def knownForm (id : NodeId) : Reader Form := do
  return (← knownResolution id).within (← program).types

/-- What the type of a node is made of. -/
def formOf (id : NodeId) (span : Span) : Reader Form := do
  resolveTo id span
  knownForm id

/-- The number of the type of a node. -/
def typeOf (id : NodeId) (span : Span) : Reader TypeId := do
  resolveTo id span
  match ← knownResolution id with
  | .entry type => return type
  | .plain form => typeOfForm form

/-- Find the type of a node anew. -/
def resolveAgain (id : NodeId) (span : Span) : Reader Unit := do
  let found ← currentTyping
  if found.size ≤ id then resolveTo id span
  else
    match (surroundings (← get)).resolve found ((← currentPool).node id) with
    | .ok resolution => setTyping (found.setIfInBounds id resolution)
    | .error fault => refuseType span fault

/-! ### Statements -/

/-- Have the nodes that are still to be computed be computed by a statement. -/
def finishNodes : Reader Unit :=
  modifyDraft fun draft =>
    match draft.pending with
    | some first =>
        let body :=
          if first = draft.pool.size then draft.body
          else draft.body.push (.emit first draft.pool.size)
        { draft with pending := none, body := body }
    | none => draft

/-- Start to gather nodes that are to be computed. -/
def gatherNodes : Reader Unit :=
  modifyDraft fun draft => { draft with pending := some draft.pool.size }

/-- Have the nodes so far be computed by a statement and go on gathering. -/
def flushNodes : Reader Unit := do
  finishNodes
  gatherNodes

/-- Add a statement. -/
def perform (statement : Statement) : Reader Unit :=
  modifyDraft fun draft => { draft with body := draft.body.push statement }

/-- Read something that goes behind other statements; the result also holds them all. -/
def inBlockFrom (first : List Statement) (read : Reader α) : Reader (List Statement × α) := do
  flushNodes
  let outer := (← draft).body
  modifyDraft fun draft => { draft with body := first.toArray }
  let result ← read
  flushNodes
  let inner := (← draft).body
  modifyDraft fun draft => { draft with body := outer }
  return (inner.toList, result)

/-- Read something with a block of its own; the result also holds the block. -/
def inBlock (read : Reader α) : Reader (List Statement × α) :=
  inBlockFrom [] read

/-! ### Names -/

/-- The first meaning that a name has in scope. -/
def lookUp? (name : String) : Reader (Option VariableReference) := do
  return (← draft).scopes.findSome? (·.lookup name)

/-- Add a name to the innermost scope; the result says whether it was new there. -/
def declare (name : String) (meaning : VariableReference) : Reader Bool := do
  let scopes := (← draft).scopes
  let scope := scopes.headD []
  modifyDraft fun draft => { draft with scopes := ((name, meaning) :: scope) :: scopes.tail }
  return !scope.any (·.1 = name)

/-- Add a name to the outermost scope. -/
def declareOutermost (name : String) (meaning : VariableReference) : Reader Unit :=
  modifyDraft fun draft =>
    { draft with
      scopes := draft.scopes.dropLast ++ [(name, meaning) :: draft.scopes.getLastD []] }

/-- Read something in a scope of its own. -/
def inScope (read : Reader α) : Reader α := do
  modifyDraft fun draft => { draft with scopes := [] :: draft.scopes }
  let result ← read
  modifyDraft fun draft => { draft with scopes := draft.scopes.tail }
  return result

/-- Where the name of a variable outside functions is read from. -/
def globalSpan (number : Nat) : Reader Span := do
  return ((← program).globalSpans[number]?).getD .nowhere

/-- Whether a member of a block is a place; one of open size is not loaded as a whole. -/
def memberIsPlace (number index : Nat) : Reader Bool := do
  let program ← program
  match (program.globals[number]?).map fun found => program.form found.type with
  | some (.record members _) =>
      match (members[index]?).map fun member => program.form member.type with
      | some (.array _ none _) => return false
      | _ => return true
  | _ => return true

/-- Give a name declared outside functions a meaning in the draft. -/
def addGlobalName (added : GlobalName) : Reader Unit := do
  let meaning : VariableReference ←
    match added.meaning with
    | .whole number => do
        let node ← addNode (.globalVariable number) (← globalSpan number)
        let isHandle := ((← program).globals[number]?).any (·.space = .handle)
        pure { node := node, isPlace := !isHandle, isMutable := added.isMutable }
    | .member number index => do
        let span ← globalSpan number
        let base ← addNode (.globalVariable number) span
        let node ← addNode (.accessIndex base index) span
        let isPlace ← memberIsPlace number index
        pure { node := node, isPlace := isPlace, isMutable := added.isMutable }
    | .constant number type => do
        let span := ((← program).constantSpans[number]?).getD .nowhere
        let node ← addNode (.constant number) span
        pure
          { node := node
            isPlace := false
            isMutable := added.isMutable
            constant := some (number, type) }
  discard (declare added.name { meaning with interface := added.interface })

/-- Read something with a draft of its own; the result also holds the draft. -/
def inDraft (isConstant : Bool) (read : Reader α) : Reader (α × Draft) := do
  let outer ← draft
  modifyDraft fun _ => {}
  gatherNodes
  for added in (← get).globalNames do
    addGlobalName added
  modifyDraft fun draft => { draft with isConstant := isConstant }
  let result ← read
  let inner ← draft
  modifyDraft fun _ => outer
  return (result, inner)

/-- Add a variable outside functions; the result is its number. -/
def addGlobalVariable (added : GlobalVariable) (span : Span) : Reader Nat := do
  let number := (← program).globals.size
  modifyProgram fun program =>
    { program with
      globals := program.globals.push added
      globalSpans := program.globalSpans.push span }
  return number

/-- Add a variable to the interface of entry points; the result is its number there. -/
def addInterface (added : InterfaceVariable) : Reader Nat := do
  let number := (← get).interface.size
  modify fun state => { state with interface := state.interface.push added }
  return number

/-- Declare a variable of the language's own. -/
def addBuiltin (builtin : BuiltinVariable) (span : Span) : Reader VariableReference := do
  let form ← if builtin.isArray then
      pure (Form.array (← typeOfForm builtin.form) none 4)
    else pure builtin.form
  let type ← typeOfForm form
  let number ← addGlobalVariable { name := some builtin.name, space := .run, type := type } span
  let interface ← addInterface
    { name := none
      binding := .builtin builtin
      number := number
      isOutput := builtin.isOutput }
  let isMutable := builtin.isOutput
  modify fun state =>
    { state with
      globalNames := state.globalNames.push
        { name := builtin.name
          meaning := .whole number
          interface := some interface
          isMutable := isMutable } }
  let node ← addNode (.globalVariable number) span
  let meaning : VariableReference :=
    { node := node, isPlace := true, isMutable := isMutable, interface := some interface }
  declareOutermost builtin.name meaning
  return meaning

/-- Look up a variable; one of the language's own is declared by its first use. -/
def findVariable? (name : String) (span : Span) : Reader (Option VariableReference) := do
  match ← lookUp? name with
  | some meaning => return some meaning
  | none =>
      match BuiltinVariable.find? name with
      | some builtin => return some (← addBuiltin builtin span)
      | none => return none

end Reader

end ShaderBuild.Glsl
