import ShaderBuild.Compiler
import ShaderBuild.FileTree
import ShaderBuild.Report
import ShaderBuild.Toml.Decode

namespace ShaderBuild

/-!
# Faults of the command line

Every way in which a command fails, and the report of each.
-/

/-- The report of a configuration that no compiler can honour. -/
def ConfigFault.report : ConfigFault → Report
  | .unsupportedTarget version =>
      .mk ("unsupported SPIR-V target version " ++ version.text) "GLINT-INIT-001"
        (some "Target a SPIR-V version between 1.0 and 1.6") [] []
  | .invalidIncludeDepth =>
      .mk "include depth limit must be at least 1" "GLINT-INIT-002" none [] []

/-- Why a compiler configuration cannot be loaded. -/
inductive ConfigLoadFault where
  | unusable (fault : ConfigFault)
  | unreadable (path : String) (fault : FileFault)
  | malformed (fault : Toml.Fault)

/-- The report of a configuration that cannot be loaded. -/
def ConfigLoadFault.report : ConfigLoadFault → Report
  | .unusable fault => fault.report
  | .unreadable path fault =>
      .mk ("failed to read compiler configuration " ++ path) "GLINT-INIT-003"
        (some "Check that the configuration file exists and is readable")
        [fault.message, fault.message] []
  | .malformed fault =>
      .mk ("invalid compiler configuration: " ++ fault.report) "GLINT-INIT-004"
        (some "Check the configuration syntax and value types") [fault.report] []

namespace CompilerConfig

/-- The configuration that a TOML document holds; it must be one that can be honoured. -/
def ofToml (text : List Char) : Except ConfigLoadFault CompilerConfig :=
  match Toml.decode Toml.Value.toCompilerConfig text with
  | .error fault => .error (.malformed fault)
  | .ok config =>
      match config.fault? with
      | some fault => .error (.unusable fault)
      | none => .ok config

/-- The configuration in a file. -/
def load (tree : FileTree) (path : String) : Except ConfigLoadFault CompilerConfig :=
  match tree.readText path with
  | .error fault => .error (.unreadable path fault)
  | .ok text => ofToml text

end CompilerConfig

/-- What a command was doing with a file. -/
inductive FileOperation where
  | readingProject
  | readingShader
  | creatingDirectory
  | writingBinary
  deriving Repr, DecidableEq

/-- An operation in words. -/
def FileOperation.words : FileOperation → String
  | .readingProject => "reading project file"
  | .readingShader => "reading shader"
  | .creatingDirectory => "creating output directory"
  | .writingBinary => "writing SPIR-V"

/-- Why a command fails, or one of its inputs does. -/
inductive CommandFault where
  | file (operation : FileOperation) (path : String) (fault : FileFault)
  | project (path : String) (fault : Toml.Fault)
  | config (fault : ConfigFault)
  | unknownStage (path : String)
  | outputWithManyInputs
  | invalidDefine (text : String)
  | compileFailed (path : String) (diagnostics : List Diagnostic)
  | buildFailed (failed total : Nat)
  /-- A file was not found; the candidates are empty if there was nowhere to search. -/
  | notFound (name : String) (candidates : List String)
  deriving Repr, DecidableEq

/-- The report of a problem in a shader. -/
def Diagnostic.report (diagnostic : Diagnostic) : Report :=
  .mk diagnostic.render Diagnostic.code none [] []

/-- The report of a fault. -/
def CommandFault.report : CommandFault → Report
  | .file operation path fault =>
      .mk (s!"I/O error while {operation.words}: {path}") "glint::cli::io_error" none
        [fault.message] []
  | .project path fault =>
      .mk ("invalid project configuration " ++ path) "glint::cli::config_error"
        (some "See the [compiler], [include] and [defines] tables of glint.toml")
        [fault.report] []
  | .config fault => fault.report
  | .unknownStage path =>
      .mk ("cannot tell the shader stage of " ++ path) "glint::cli::unknown_stage"
        (some "Pass --stage vertex|fragment or use a .vert or .frag extension") [] []
  | .outputWithManyInputs =>
      .mk "--output can only be used with a single input file"
        "glint::cli::output_with_many_inputs" none [] []
  | .invalidDefine text =>
      .mk (s!"invalid macro definition '{text}'") "glint::cli::invalid_define"
        (some "Use NAME or NAME=VALUE") [] []
  | .compileFailed path diagnostics =>
      .mk ("failed to compile " ++ path) "glint::cli::compile_failed" none []
        (diagnostics.map Diagnostic.report)
  | .buildFailed failed total =>
      .mk (s!"{failed} of {total} shaders failed to compile") "glint::cli::build_failed" none
        [] []
  | .notFound name candidates =>
      .mk (s!"no readable file named '{name}' on the search path") "glint::cli::not_found"
        (if candidates = [] then none
          else some ("Searched: " ++ ", ".intercalate candidates)) [] []

end ShaderBuild
