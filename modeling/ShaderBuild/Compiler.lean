import ShaderBuild.CompilerConfig
import ShaderBuild.Expansion
import ShaderBuild.ShaderModule
import ShaderBuild.ShaderStage
import ShaderBuild.Text.Quoted

namespace ShaderBuild

/-!
# Compilers

A compiler is a configuration and an engine. Compiling a source expands its
includes, hands the expanded unit to the engine once, and turns whatever comes of
that into a module: diagnostics of the engine are located through the unit, and
an engine that breaks down fails the one module.
-/

/-- Everything an engine is given for one compilation. -/
structure CompileJob where
  unit : ExpandedUnit
  stage : ShaderStage
  /-- Name of the module's entry point. -/
  entryPoint : String
  /-- Macros for the engine's preprocessor. -/
  defines : List (String × String)
  target : SpirvVersion
  debugNames : Bool
  deriving Repr, DecidableEq

/-- A problem that an engine reports. -/
structure EngineDiagnostic where
  /-- Byte offset into the unit's text, if the engine knows one. -/
  offset : Option Nat
  message : String
  deriving Repr, DecidableEq

/-- What an engine makes of a job. -/
inductive EngineAnswer where
  | words (words : List UInt32)
  | diagnostics (diagnostics : List EngineDiagnostic)
  /-- The engine broke down, with a message if it could leave one. -/
  | breakdown (message : Option String)
  deriving Repr, DecidableEq

/-- What turns expanded shaders into SPIR-V. -/
structure Engine where
  name : String
  compile : CompileJob → EngineAnswer

/-- Settings of one compilation. -/
structure CompileOptions where
  /-- Name of the root source, in diagnostics and for relative includes. -/
  sourceName : Option String := none
  resolver : Option Resolver := none
  defines : List (String × String) := []

namespace CompileOptions

/-- The name of a source that was given none. -/
def defaultSource : String := "shader"

/-- Name of the root source. -/
def source (options : CompileOptions) : String :=
  options.sourceName.getD defaultSource

/-- A pair of texts, for reading. -/
def describePair (pair : String × String) : String :=
  "(" ++ Text.quoted pair.1 ++ ", " ++ Text.quoted pair.2 ++ ")"

/-- The options on one line, for reading. -/
def describe (options : CompileOptions) : String :=
  "CompileOptions \x7b source_name: " ++ Text.quoted options.source ++
    ", includer: " ++ toString options.resolver.isSome ++
    ", defines: [" ++ ", ".intercalate (options.defines.map describePair) ++ "] \x7d"

end CompileOptions

/-- A compilation: the jobs the engine was given and the module made. -/
structure Compilation where
  jobs : List CompileJob
  module : ShaderModule

/-- A compiler with a configuration that it can honour. -/
structure Compiler where
  config : CompilerConfig
  engine : Engine
  valid : config.fault? = none

namespace Compiler

/-- A compiler for a configuration, or why there is none. -/
def create (config : CompilerConfig) (engine : Engine) : Except ConfigFault Compiler :=
  match h : config.fault? with
  | none => .ok ⟨config, engine, h⟩
  | some fault => .error fault

/-- The entry point of a compilation that names none. -/
def defaultEntryPoint : String := "main"

/-- The module made of an engine's answer. -/
def conclude (source : String) (unit : ExpandedUnit) : EngineAnswer → ShaderModule
  | .words words => .binary words
  | .diagnostics diagnostics =>
      .ofDiagnostics source
        (diagnostics.map fun diagnostic => unit.diagnosticAt diagnostic.offset diagnostic.message)
  | .breakdown message =>
      .failure source ("internal compiler error: " ++ message.getD "unknown panic")

/-- What expansion is given for a compilation. -/
def expansionSettings (compiler : Compiler) (options : CompileOptions) : ExpansionSettings :=
  ⟨options.resolver, compiler.config.maxIncludeDepth, options.defines⟩

/-- The job that the engine is given for a unit. -/
def job
    (compiler : Compiler) (unit : ExpandedUnit) (stage : ShaderStage)
    (entryPoint : String) (options : CompileOptions) :
    CompileJob where
  unit := unit
  stage := stage
  entryPoint := if entryPoint = "" then defaultEntryPoint else entryPoint
  defines := options.defines
  target := compiler.config.spirvVersion
  debugNames := compiler.config.debugNames

/-- Compile a text, with a record of what the engine was asked. -/
def compilation
    (compiler : Compiler) (content : List Char) (stage : ShaderStage)
    (entryPoint : String) (options : CompileOptions) :
    Compilation :=
  match ExpandedUnit.expand (compiler.expansionSettings options) options.source content with
  | .error diagnostic => ⟨[], .ofDiagnostics options.source [diagnostic]⟩
  | .ok unit =>
      let job := compiler.job unit stage entryPoint options
      ⟨[job], conclude options.source unit (compiler.engine.compile job)⟩

/-- Compile bytes, with a record of what the engine was asked. -/
def bytesCompilation
    (compiler : Compiler) (content : List UInt8) (stage : ShaderStage)
    (entryPoint : String) (options : CompileOptions) :
    Compilation :=
  match Text.decode content with
  | .ok text => compiler.compilation text stage entryPoint options
  | .error fault =>
      ⟨[], .failure options.source ("source text is not valid UTF-8: " ++ fault.message)⟩

/-- Compile a text. -/
def compile
    (compiler : Compiler) (content : List Char) (stage : ShaderStage)
    (entryPoint : String) (options : CompileOptions) :
    ShaderModule :=
  (compiler.compilation content stage entryPoint options).module

/-- Compile bytes; those that are not UTF-8 make a failed module. -/
def compileBytes
    (compiler : Compiler) (content : List UInt8) (stage : ShaderStage)
    (entryPoint : String) (options : CompileOptions) :
    ShaderModule :=
  (compiler.bytesCompilation content stage entryPoint options).module

/-- The compiler on one line, for reading. -/
def describe (compiler : Compiler) : String :=
  let config := compiler.config
  let version := config.spirvVersion
  "Compiler \x7b config: CompilerConfig \x7b spirv_version: SpirvVersion \x7b " ++
    s!"major: {version.major.toNat}, minor: {version.minor.toNat}" ++
    s!" \x7d, debug_names: {config.debugNames}, max_include_depth: {config.maxIncludeDepth}" ++
    " \x7d, engine: " ++ Text.quoted compiler.engine.name ++ " \x7d"

end Compiler

end ShaderBuild
