import ShaderBuild.Glsl.Reader.Declaration

namespace ShaderBuild.Glsl

/-!
# Functions of shaders

Parameters, and what the declaration or the definition of a function adds to the
program. Where control reaches the end of a function, it returns.
-/

/-! ### Returning at the end -/

mutual

/-- Statements with a return wherever control reaches their end. -/
def returnAtEnd : List Statement → List Statement
  | [] => [.return none]
  | [last] => returnBehind last
  | first :: second :: others => first :: returnAtEnd (second :: others)

/-- A last statement with a return wherever control reaches its end. -/
def returnBehind : Statement → List Statement
  | .block body => [.block (returnAtEnd body)]
  | .choice condition accepted rejected =>
      [.choice condition (returnAtEnd accepted) (returnAtEnd rejected)]
  | .switch selector cases => [.switch selector (returnInCases cases)]
  | .emit first stop => [.emit first stop]
  | .leave => [.leave]
  | .again => [.again]
  | .return value => [.return value]
  | .discard => [.discard]
  | other => [other, .return none]

/-- Cases with a return wherever control reaches the end of one. -/
def returnInCases : List Case → List Case
  | [] => []
  | .mk label body fallsThrough :: cases =>
      .mk label (if fallsThrough then body else returnAtEnd body) fallsThrough ::
        returnInCases cases

end

namespace Reader

/-! ### Parameters -/

/-- What a word says that a function does with a parameter. -/
def useOfWord? : String → Option ParameterUse
  | "in" => some .input
  | "out" => some .output
  | "inout" => some .both
  | "const" => some .constant
  | _ => none

/-- Read what a function does with a parameter, if it is said. -/
def parameterUse? : Reader (Option ParameterUse) := do
  match (← peek?).map PlacedLexeme.lexeme with
  | some (Lexeme.word name) =>
      let use := useOfWord? name
      if use.isSome then
        discard next
      return use
  | _ => return none

/-- The node that stands for an argument, by its name in the function. -/
def nameArgument (name : String) (span : Span) (index : Nat) (type : TypeId)
    (use : ParameterUse) : Reader Unit := do
  let argument ← addNode (.argument index) span
  let isOpaque := (← formOfType type).isHandle
  let isMutable := use ≠ .constant && !isOpaque
  let meaning : VariableReference ←
    if isMutable && !use.isWritten then
      let node ← addLocal (some name) type none span
      flushNodes
      perform (.store node argument)
      pure { node := node, isPlace := true, isMutable := true }
    else
      pure { node := argument, isPlace := use.isWritten, isMutable := isMutable }
  discard (declare name meaning)

/-- Add a parameter to the function that is read. -/
def addParameter (name : Option (String × Span)) (type : TypeId) (use : ParameterUse) :
    Reader Unit := do
  let index := (← draft).arguments.length
  let argumentType ←
    if use.isWritten then typeOfForm (.pointer type .call) else pure type
  modifyDraft fun draft =>
    { draft with
      parameters := draft.parameters ++ [type]
      arguments := draft.arguments ++ [{ name := name.map (·.1), type := argumentType }]
      infos := draft.infos ++ [{ use := use }] }
  match name with
  | none => pure ()
  | some (name, span) => nameArgument name span index type use

/-- Read parameters; a last one without a name is none. -/
def parameters : Nat → Reader Unit
  | 0 => outOfSteps
  | steps + 1 => do
      let use ← parameterUse?
      if use.isNone && !(← typeFollows) then
        return
      let use := use.getD .input
      let (type, _) ← type steps
      match ← peek with
      | .mark "," =>
          discard next
          addParameter none type use
          parameters steps
      | lexeme =>
          if !isIdentifier lexeme then
            return
          let (name, span) ← identifier
          let (type, span) ← dimensions type span steps
          addParameter (some (name, span)) type use
          if ← skip (.mark ",") then
            parameters steps

/-- Read the parameters of a function after the bracket before them. -/
def parameterList (steps : Nat) : Reader Unit := do
  if !(← skip (.word "void")) then
    parameters steps

/-! ### Functions -/

/-- The number of a function that is added to the program. -/
def appendFunction (function : Function) : Reader Nat := do
  let number := (← program).functions.size
  modifyProgram fun program =>
    { program with functions := program.functions.push function }
  return number

/-- Whether a function has parameters of the same types as the one that is read. -/
def hasParameters (types : TypeTable) (parameters : List TypeId) (overload : Overload) : Bool :=
  overload.parameters.map types.form = parameters.map types.form

/-- The functions of a name beside that of a draft, and which of them has its parameters. -/
def groupOfDraft (name : String) (read : Draft) : Reader (FunctionGroup × Option Nat) := do
  let forms ← read.parameters.mapM formOfType
  let group ← functionGroup name (.ofForms forms)
  let types := (← program).types
  return (group, group.overloads.findIdx? (hasParameters types read.parameters))

/-- The function of a draft. -/
def Draft.function (read : Draft) (name : String) (result : Option TypeId) : Function :=
  { name := name
    arguments := read.arguments
    result := result.map fun type => { type := type }
    locals := read.locals
    nodes := read.pool.nodes
    body := returnAtEnd read.body.toList }

/-- One of the functions of a name, read as a draft. -/
def Draft.overload (read : Draft) (number : Nat) (isDefined isVoid : Bool) : Overload :=
  { parameters := read.parameters
    infos := read.infos
    kind := .call number
    isDefined := isDefined
    isInternal := false
    isVoid := isVoid }

/-- Add a function that is declared without a body. -/
def addPrototype (name : String) (result : Option TypeId) (span : Span) (read : Draft) :
    Reader Unit := do
  let (group, earlier) ← groupOfDraft name read
  match earlier with
  | some _ => note span "Prototype already defined"
  | none =>
      let number ← appendFunction
        { name := name
          arguments := read.arguments
          result := result.map fun type => { type := type }
          locals := #[]
          nodes := #[]
          body := [] }
      let added := Draft.overload read number false result.isNone
      setFunctionGroup name { group with overloads := group.overloads ++ [added] }

/-- The number of a function that takes the place of one declared before. -/
def placeFunction (function : Function) : FunctionKind → Reader Nat
  | .call number => do
      modifyProgram fun program =>
        { program with functions := program.functions.setIfInBounds number function }
      return number
  | .language _ => appendFunction function

/-- Add a function with its body. -/
def addFunction (name : String) (result : Option TypeId) (span : Span) (read : Draft) :
    Reader Unit := do
  let (group, earlier) ← groupOfDraft name read
  let function := Draft.function read name result
  match earlier with
  | none =>
      let number ← appendFunction function
      let added := Draft.overload read number true result.isNone
      setFunctionGroup name { group with overloads := group.overloads ++ [added] }
  | some index =>
      match group.overloads[index]? with
      | none => pure ()
      | some overload =>
          if overload.isDefined then
            note span "Function already defined"
          else
            let number ← placeFunction function overload.kind
            let changed : Overload :=
              { overload with infos := read.infos, kind := .call number, isDefined := true }
            setFunctionGroup name { group with overloads := group.overloads.set index changed }

end Reader

end ShaderBuild.Glsl
