import ShaderBuild.Compiler

namespace ShaderBuild.Glsl

/-!
# Early ends

Why the reading of a directive or of a shader ends before its time.
-/

/-- Why a reading ends early. -/
inductive Halt where
  | problem (problem : EngineDiagnostic)
  /-- The engine itself fails, with a message. -/
  | breakdown (message : String)
  deriving Repr, DecidableEq

namespace Halt

/-- The message of an engine whose arithmetic leaves the numbers of a fixed size. -/
def overflowMessage (operation : String) : String :=
  "attempt to " ++ operation ++ " with overflow"

end Halt

end ShaderBuild.Glsl
