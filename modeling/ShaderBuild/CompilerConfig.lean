import ShaderBuild.SpirvVersion

namespace ShaderBuild

/-!
# Compiler configurations
-/

/-- What is fixed for the lifetime of a compiler. -/
structure CompilerConfig where
  /-- The version that module headers carry. -/
  spirvVersion : SpirvVersion := ⟨1, 0⟩
  /-- Whether modules name their functions and variables. -/
  debugNames : Bool := false
  /-- Deepest nesting of included files. -/
  maxIncludeDepth : Nat := 32
  deriving Repr, DecidableEq

/-- Why no compiler can honour a configuration. -/
inductive ConfigFault where
  | unsupportedTarget (version : SpirvVersion)
  | invalidIncludeDepth
  deriving Repr, DecidableEq

namespace CompilerConfig

/-- Highest minor version that can be targeted. -/
def highestMinor : UInt8 := 6

/-- The fault of a configuration; the version is looked at first. -/
def fault? (config : CompilerConfig) : Option ConfigFault :=
  if config.spirvVersion.major ≠ 1 || highestMinor < config.spirvVersion.minor then
    some (.unsupportedTarget config.spirvVersion)
  else if config.maxIncludeDepth = 0 then
    some .invalidIncludeDepth
  else
    none

/-- A configuration that a compiler can honour. -/
def validate (config : CompilerConfig) : Except ConfigFault CompilerConfig :=
  match config.fault? with
  | some fault => .error fault
  | none => .ok config

/-- The configuration as a TOML document. -/
def toToml (config : CompilerConfig) : String :=
  "spirv_version = \"" ++ config.spirvVersion.text ++ "\"\n" ++
    s!"debug_names = {config.debugNames}\n" ++
    s!"max_include_depth = {config.maxIncludeDepth}\n"

end CompilerConfig

end ShaderBuild
