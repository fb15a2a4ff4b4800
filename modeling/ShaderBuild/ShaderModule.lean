import ShaderBuild.Diagnostic

namespace ShaderBuild

/-!
# Shader modules

The result of one compilation: a SPIR-V binary, or at least one diagnostic.
-/

/-- The result of a compilation. -/
inductive ShaderModule where
  /-- The words of a binary. -/
  | binary (words : List UInt32)
  /-- The problems found, in order. -/
  | failed (first : Diagnostic) (others : List Diagnostic)
  deriving Repr, DecidableEq

namespace ShaderModule

/-- The message of a failure that came without one. -/
def noDiagnostic : String :=
  "compilation failed without a diagnostic"

/-- A failed module; an empty list of diagnostics is replaced by a general one. -/
def ofDiagnostics (source : String) : List Diagnostic → ShaderModule
  | [] => .failed ⟨source, none, noDiagnostic⟩ []
  | first :: others => .failed first others

/-- A failed module with one problem that has no line. -/
def failure (source message : String) : ShaderModule :=
  .failed ⟨source, none, message⟩ []

/-- Whether there is a binary. -/
def success : ShaderModule → Bool
  | .binary _ => true
  | .failed _ _ => false

/-- The words of the binary, none for a failed module. -/
def words : ShaderModule → List UInt32
  | .binary words => words
  | .failed _ _ => []

/-- The problems, none for a binary. -/
def diagnostics : ShaderModule → List Diagnostic
  | .binary _ => []
  | .failed first others => first :: others

/-- The binary, or else the problems. -/
def toExcept : ShaderModule → Except (List Diagnostic) (List UInt32)
  | .binary words => .ok words
  | .failed first others => .error (first :: others)

/-- Size of the binary in bytes. -/
def byteSize (module : ShaderModule) : Nat :=
  4 * module.words.length

/-- The bytes of a word, the lowest first. -/
def wordBytes (word : UInt32) : List UInt8 :=
  [word.toUInt8, (word >>> 8).toUInt8, (word >>> 16).toUInt8, (word >>> 24).toUInt8]

/-- The binary as bytes. -/
def bytes (module : ShaderModule) : List UInt8 :=
  module.words.flatMap wordBytes

/-- The problems, one on a line; empty for a binary. -/
def message (module : ShaderModule) : String :=
  String.join (module.diagnostics.map fun diagnostic => diagnostic.render ++ "\n")

end ShaderModule

end ShaderBuild
