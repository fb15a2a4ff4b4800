import ShaderBuild.Glsl.Halt
import ShaderBuild.Glsl.Validity.Entry

namespace ShaderBuild.Glsl

/-!
# Validity of programs

A program is valid if what it refers to is there, its types, constants, variables and
functions are valid, each given those before it, and its entry point suits the stage.
-/

/-- Why a program is invalid. -/
inductive ProgramFault where
  | missingLocal (number : Nat)
  | laterFunction (function callee : Nat)
  | type (type : TypeId) (name : String) (problem : TypeProblem)
  | value (node : NodeId) (fault : ConstantNodeFault)
  | constant (number : Nat) (name : String) (fault : ConstantFault)
  | global (number : Nat) (name : String) (fault : GlobalFault)
  | function (number : Nat) (name : String) (fault : FunctionFault)
  | entry (name : String) (stage : ShaderStage) (fault : EntryFault)
  deriving Repr, DecidableEq

namespace ProgramFault

/-- How reports put that a named thing is invalid. -/
def namedReport (kind : String) (number : Nat) (name cause : String) : String :=
  kind ++ " " ++ entryReport number ++ " '" ++ name ++ "' is invalid: " ++ cause

/-- What reports call a fault. -/
def report : ProgramFault → String
  | .missingLocal number =>
      s!"Handle {number} of naga::LocalVariable is either not present, or inaccessible yet"
  | .laterFunction number callee =>
      entryReport number ++ " of kind \"naga::Function\" depends on " ++ entryReport callee ++
        " of kind naga::Function, which has not been processed yet"
  | .type number name problem => namedReport "Type" number name problem.report
  | .value node fault =>
      "Constant expression " ++ entryReport node ++ " is invalid: " ++ fault.report
  | .constant number name fault => namedReport "Constant" number name fault.report
  | .global number name fault => namedReport "Global variable" number name fault.report
  | .function number name fault => namedReport "Function" number name fault.report
  | .entry name stage fault =>
      "Entry point " ++ name ++ " at " ++ stageReport stage ++ " is invalid: " ++ fault.report

end ProgramFault

/-- Why looking at a program ends. -/
inductive ProgramStop where
  | fault (fault : ProgramFault)
  /-- The engine itself fails, with a message. -/
  | breakdown (message : String)

namespace Program

variable (program : Program)

/-! ### References -/

/-- The first reference of a function to a variable of its own or to a function that is not there. -/
def missing? (function : Function) (number : Option Nat) : Option ProgramFault :=
  function.nodes.toList.findSome? fun
    | .localVariable found =>
        if found < function.locals.size then none else some (.missingLocal found)
    | .callResult callee =>
        match number with
        | some number => if callee < number then none else some (.laterFunction number callee)
        | none => none
    | _ => none

/-- Check that all that functions refer to is there. -/
def checkReferences : Except ProgramFault Unit := do
  let functions := program.functions.toList
  for (number, function) in (List.range functions.length).zip functions do
    match missing? function (some number) with
    | some fault => throw fault
    | none => pure ()
  match program.entry.bind fun entry => missing? entry.function none with
  | some fault => throw fault
  | none => return

/-! ### What is declared outside functions -/

/-- The program with what is known of it outside functions, if that is valid. -/
def checkOuter : Except ProgramFault OuterSite := do
  let nameOf (number : Nat) : String := ((program.types[number]?).bind (·.name)).getD ""
  let facts ← program.types.facts.mapError fun (type, problem) => .type type (nameOf type) problem
  let typed : TypedProgram := ⟨program, facts⟩
  let values ← program.valueForms.mapError fun (node, fault) => .value node fault
  let nodes := program.values.nodes.toList
  for (id, node) in (List.range nodes.length).zip nodes do
    (typed.checkValue values node).mapError (.value id)
  let constants := program.constants.toList
  for (number, constant) in (List.range constants.length).zip constants do
    (typed.checkConstant values constant).mapError (.constant number (constant.name.getD ""))
  let globals := program.globals.toList
  for (number, global) in (List.range globals.length).zip globals do
    (typed.checkGlobal values global).mapError (.global number (global.name.getD ""))
  return { typed := typed, values := values }

/-! ### Functions -/

/-- A function that is known beside those before it, if it is valid. -/
def addFacts (site : OuterSite) (function : Function) : Except ProgramStop OuterSite :=
  match site.checkFunction function with
  | .ok facts => .ok { site with known := site.known.push facts }
  | .error (.fault fault) => .error (.fault (.function site.known.size function.name fault))
  | .error (.breakdown message) => .error (.breakdown message)

/-- Check a program whose entry point is reported by a name. -/
def check (entryName : String) : Except ProgramStop Unit := do
  program.checkReferences.mapError .fault
  if !program.types.hasSizes then
    throw (.breakdown (Halt.overflowMessage "multiply"))
  let outer ← program.checkOuter.mapError .fault
  let site ← program.functions.toList.foldlM addFacts outer
  match program.entry with
  | none => return
  | some entry =>
      (site.checkEntry entry).mapError fun
        | .fault fault => .fault (.entry entryName entry.stage fault)
        | .breakdown message => .breakdown message

end Program

end ShaderBuild.Glsl
