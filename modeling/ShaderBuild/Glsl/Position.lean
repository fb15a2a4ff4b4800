import ShaderBuild.Glsl.Program

namespace ShaderBuild.Glsl

/-!
# Positions of vertices

The entry point of a vertex stage has to hand on a position. One that hands on nothing
is given a position of zeros.
-/

mutual

/-- A statement in which returns without a value return one. -/
def Statement.returning (value : NodeId) : Statement → Statement
  | .return none => .return (some value)
  | .block body => .block (returningAll value body)
  | .choice condition accepted rejected =>
      .choice condition (returningAll value accepted) (returningAll value rejected)
  | .switch selector cases => .switch selector (returningCases value cases)
  | .loop body continuing => .loop (returningAll value body) (returningAll value continuing)
  | other => other

/-- Statements in which returns without a value return one. -/
def returningAll (value : NodeId) : List Statement → List Statement
  | [] => []
  | first :: others => first.returning value :: returningAll value others

/-- Cases in which returns without a value return one. -/
def returningCases (value : NodeId) : List Case → List Case
  | [] => []
  | .mk label body fallsThrough :: cases =>
      .mk label (returningAll value body) fallsThrough :: returningCases value cases

end

/-- Whether statements end with a return. -/
def endsWithReturn (body : List Statement) : Bool :=
  match body.getLast? with
  | some (.return _) => true
  | _ => false

namespace Program

/-- The position, as an entry point hands it on. -/
def positionBindings : List Binding :=
  ((BuiltinVariable.outputs.find? (·.isPosition)).map Binding.builtin).toList

/-- A function with a zero of a type for its result, which is the position. -/
def positionFunction (type : TypeId) (function : Function) : Function :=
  let position := function.nodes.size
  let body := returningAll position function.body
  { function with
    nodes := function.nodes.push (.zero type)
    result := some { type := type, bindings := positionBindings }
    body := if endsWithReturn body then body else body ++ [.return (some position)] }

/-- The program, of which an entry point for vertices hands something on. -/
def withPosition (program : Program) : Program :=
  match program.entry with
  | some entry =>
      if entry.stage = .vertex && entry.function.result.isNone then
        let (types, type) := program.types.insert { form := .vector 4 .float }
        let function := positionFunction type entry.function
        { program with types := types, entry := some { entry with function := function } }
      else program
  | none => program

end Program

end ShaderBuild.Glsl
