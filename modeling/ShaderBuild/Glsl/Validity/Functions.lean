import ShaderBuild.Glsl.Validity.Body
import ShaderBuild.Glsl.Validity.Usage

namespace ShaderBuild.Glsl

/-!
# Validity of functions

A function is looked at after those before it, which are the ones that it may call:
first the types of its nodes and what it uses, then its variables, arguments and
result, then what each node asks for, and last its body.
-/

/-- What is known of a valid function. -/
structure FunctionFacts where
  usage : Usage
  /-- Whether it does something that can only be done for fragments. -/
  isForFragments : Bool
  deriving Inhabited

/-- Why looking at a function ends. -/
inductive FunctionStop where
  | fault (fault : FunctionFault)
  /-- The engine itself fails, with a message. -/
  | breakdown (message : String)

/-- A program of which the types and what is declared outside functions are valid. -/
structure OuterSite where
  typed : TypedProgram
  /-- What the values of the program's constant nodes are made of. -/
  values : Array Form
  /-- What is known of the functions so far. -/
  known : Array FunctionFacts := #[]

/-- The stop that a fault of a usage amounts to. -/
def UsageFault.stop : UsageFault → FunctionStop
  | noSource id => .fault (.node id .notGlobalOrArgument)
  | unknownCallee count function => .breakdown (TypeFault.outOfRange count function)

namespace OuterSite

variable (site : OuterSite)

/-! ### Types of nodes -/

/-- The first node that cannot be used as it is or has no type, and why. -/
def firstFault (function : Function) (untyped : Option (NodeId × TypeFault)) :
    Option FunctionFault :=
  let unsourced := function.nodes.findIdx? fun node => !node.hasSources function.nodes
  match unsourced, untyped with
  | none, none => none
  | some id, none => some (.node id .notGlobalOrArgument)
  | none, some (id, fault) => some (.node id (.typing fault))
  | some first, some (second, fault) =>
      if first ≤ second then some (.node first .notGlobalOrArgument)
      else some (.node second (.typing fault))

/-- A function with the types of its nodes, if all have one. -/
def functionSite (function : Function) : Except FunctionFault FunctionSite :=
  let program := site.typed.program
  let around : Surroundings := ⟨program, function.locals, function.arguments⟩
  let (found, untyped) := around.resolveFrom function.nodes #[]
  match firstFault function untyped with
  | some fault => .error fault
  | none => .ok ⟨site.typed, function, found.map (·.within program.types), site.values⟩

/-! ### Declarations -/

/-- Check a variable of a function. -/
def checkLocal (inner : FunctionSite) (found : LocalVariable) : Except LocalFault Unit := do
  if !(site.typed.factsOf found.type).has [.constructible] then
    throw (.type found.type)
  match found.initial with
  | none => return
  | some initial =>
      let types := site.typed.program.types
      if !types.agree (types.form found.type) (inner.form initial) then
        throw .initialType

/-- Check an argument of a function. -/
def checkArgument (index : Nat) (argument : Argument) : Except FunctionFault Unit := do
  let name := argument.name.getD ""
  match (site.typed.form argument.type).space? with
  | none | some .call | some .run => pure ()
  | some space => throw (.argumentSpace name index space)
  if !(site.typed.factsOf argument.type).has [.passed] then
    throw (.argumentType name index)

/-- Check what a function declares. -/
def checkDeclarations (inner : FunctionSite) : Except FunctionFault Unit := do
  let function := inner.function
  for (number, found) in (List.range function.locals.size).zip function.locals.toList do
    (site.checkLocal inner found).mapError (.localVariable number (found.name.getD ""))
  for (index, argument) in (List.range function.arguments.length).zip function.arguments do
    site.checkArgument index argument
  match function.result with
  | none => return
  | some result =>
      if !(site.typed.factsOf result.type).has [.constructible] then
        throw .resultType

/-! ### Functions -/

/-- Check the nodes and the body of a function; whether it is only for fragments. -/
def checkCode (inner : FunctionSite) : Except FunctionFault Bool := do
  let nodes := inner.function.nodes.toList
  let limited := site.known.map (·.isForFragments)
  for (id, node) in (List.range nodes.length).zip nodes do
    (inner.checkNode node).mapError (.node id)
  let isLimited (node : Node) : Bool :=
    match node with
    | .callResult number => (limited[number]?).getD false
    | node => node.isForFragments
  let body : BodySite := { inner with limited := limited }
  let start : Flow := {
    visible := inner.function.nodes.map Node.isStatic
    isForFragments := nodes.any isLimited }
  let flow ← body.checkStatements { canReturn := true } start inner.function.body
  return flow.isForFragments

/-- What is known of a function, if it is valid. -/
def checkFunction (function : Function) : Except FunctionStop FunctionFacts := do
  let globalCount := site.typed.program.globals.size
  let inner ← (site.functionSite function).mapError .fault
  let usage ←
    (Usage.ofFunction (site.known.map (·.usage)) globalCount function).mapError (·.stop)
  (site.checkDeclarations inner).mapError .fault
  let isForFragments ← (site.checkCode inner).mapError .fault
  return ⟨usage, isForFragments⟩

end OuterSite

end ShaderBuild.Glsl
