import ShaderBuild.Glsl.Position
import ShaderBuild.Glsl.Reader.Shader
import ShaderBuild.Glsl.Validity.Programs
import ShaderBuild.Spirv.Module

namespace ShaderBuild.Glsl

/-!
# An engine for the shading language

The engine preprocesses a unit, reads it, checks that the program it means is valid,
and writes the entry point with its interface. A unit without declarations becomes a
module without entry points, after its directives have been checked on a text that has
an entry point added. The code of function bodies is not written: every function of a
module is empty.
-/

/-! ### Modules -/

open Spirv in
/-- The instructions at the start of every module. -/
def preamble (capabilities : List UInt32) : List Instruction :=
  capabilities.map (fun capability => Operation.capability.with [capability]) ++
    [Operation.extInstImport.with (1 :: textOperands "GLSL.std.450"),
      Operation.memoryModel.with [0, 1]]

open Spirv in
/-- The name of the entry point's own function, for reading, if names are wanted. -/
def functionName (debugNames : Bool) (function : UInt32) : List Instruction :=
  if debugNames then [Operation.name.with (function :: textOperands Reader.entryName)] else []

open Spirv in
/-- A module without entry points. -/
def emptyModule (job : CompileJob) : Module where
  version := job.target
  bound := 3
  instructions := preamble [1, 5] ++ [Operation.typeVoid.with [2]]

open Spirv in
/-- A module with an entry point for fragments. -/
def fragmentModule (job : CompileJob) : Module where
  version := job.target
  bound := 11
  instructions :=
    preamble [1] ++
      [Operation.entryPoint.with ([4, 8] ++ textOperands job.entryPoint),
        Operation.executionMode.with [8, 7]] ++
      functionName job.debugNames 4 ++
      [Operation.typeVoid.with [2],
        Operation.typeFunction.with [5, 2],
        Operation.function.with [2, 4, 0, 5],
        Operation.label.with [3],
        Operation.branch.with [6],
        Operation.label.with [6],
        Operation.return.with [],
        Operation.functionEnd.with [],
        Operation.function.with [2, 8, 0, 5],
        Operation.label.with [7],
        Operation.branch.with [9],
        Operation.label.with [9],
        Operation.functionCall.with [2, 10, 4],
        Operation.return.with [],
        Operation.functionEnd.with []]

open Spirv in
/-- A module with an entry point for vertices, which writes a position. -/
def vertexModule (job : CompileJob) : Module where
  version := job.target
  bound := 16
  instructions :=
    preamble [1] ++
      [Operation.entryPoint.with ([0, 12] ++ textOperands job.entryPoint ++ [10])] ++
      functionName job.debugNames 6 ++
      [Operation.decorate.with [10, 11, 0],
        Operation.typeVoid.with [2],
        Operation.typeFloat.with [4, 32],
        Operation.typeVector.with [3, 4, 4],
        Operation.typeFunction.with [7, 2],
        Operation.typePointer.with [11, 3, 3],
        Operation.variable.with [11, 10, 3],
        Operation.constantNull.with [3, 13],
        Operation.function.with [2, 6, 0, 7],
        Operation.label.with [5],
        Operation.branch.with [8],
        Operation.label.with [8],
        Operation.return.with [],
        Operation.functionEnd.with [],
        Operation.function.with [2, 12, 0, 7],
        Operation.label.with [9],
        Operation.branch.with [14],
        Operation.label.with [14],
        Operation.functionCall.with [2, 15, 6],
        Operation.store.with [10, 13],
        Operation.return.with [],
        Operation.functionEnd.with []]

/-- The module with an entry point for a stage. -/
def stageModule (job : CompileJob) : Spirv.Module :=
  match job.stage with
  | .vertex => vertexModule job
  | .fragment => fragmentModule job

/-! ### The engine -/

/-- The entry point that is added to a unit without declarations. -/
def standIn : List Char := "void main() \x7b\x7d\n".toList

/-- Offsets beyond the end of a unit are in no line of it. -/
def withinUnit (size : Nat) (diagnostic : EngineDiagnostic) : EngineDiagnostic :=
  { diagnostic with offset := diagnostic.offset.filter (· < size) }

/-- Compile a job. -/
def compileJob (job : CompileJob) : EngineAnswer :=
  let text := job.unit.text
  let isBlank := job.unit.isBlank
  match preprocess job.defines (if isBlank then text ++ standIn else text) with
  | .error message => .breakdown (some message)
  | .ok items =>
      match Program.ofItems job.stage items with
      | .error (.breakdown message) => .breakdown (some message)
      | .error (.problems problems) =>
          .diagnostics (problems.map (withinUnit (Text.byteLength text)))
      | .ok program =>
          if isBlank then
            .words (emptyModule job).words
          else
            match program.withPosition.check job.entryPoint with
            | .ok () => .words (stageModule job).words
            | .error (.fault fault) =>
                .diagnostics [⟨none, "validation failed: " ++ fault.report⟩]
            | .error (.breakdown message) => .breakdown (some message)

/-- The engine that compilers use unless they are given another one. -/
def engine : Engine := ⟨"naga", compileJob⟩

end ShaderBuild.Glsl
