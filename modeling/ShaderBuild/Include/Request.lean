import ShaderBuild.Directive

namespace ShaderBuild

/-!
# Include requests

What expansion asks of a resolver, what it gets, and every way in which an
include can fail.
-/

/-- A lookup of one included file. -/
structure IncludeRequest where
  /-- The name between the delimiters. -/
  target : String
  kind : IncludeKind
  /-- Name of the source that holds the directive. -/
  requestingSource : String
  /-- Nesting of the included file; 1 for an include of the root source. -/
  depth : Nat
  deriving Repr, DecidableEq

/-- A resolved include. -/
structure IncludedSource where
  /-- The name for diagnostics, and for relative includes of the source itself. -/
  name : String
  content : List Char
  deriving Repr, DecidableEq

/-- Why an include fails. -/
inductive IncludeFault where
  /-- No candidate was readable. -/
  | notFound (target : String) (searched : List String)
  /-- The file was found and could not be read as text. -/
  | unreadable (path : String) (reason : String)
  /-- The directive cannot be understood. -/
  | malformed (fault : IncludeLineFault)
  /-- Nothing was given that resolves includes. -/
  | noResolver (target : String)
  /-- The file would be nested too deep. -/
  | tooDeep (target : String) (limit : Nat)
  deriving Repr, DecidableEq

namespace IncludeFault

/-- The report of a failed include. -/
def message : IncludeFault → String
  | .notFound target _ => s!"cannot find or open include file '{target}'"
  | .unreadable path reason => s!"error reading include file '{path}': {reason}"
  | .malformed fault => s!"malformed #include directive: {fault.message}"
  | .noResolver target => s!"#include '{target}' requires an include resolver"
  | .tooDeep target limit =>
      s!"include depth limit of {limit} exceeded while including '{target}'"

/-- The code of a failure. -/
def code : IncludeFault → String
  | .notFound .. => "INCLUDE-001"
  | .unreadable .. => "INCLUDE-002"
  | .malformed .. => "INCLUDE-003"
  | .noResolver .. => "INCLUDE-004"
  | .tooDeep .. => "INCLUDE-005"

/-- What may be done about a failure. -/
def help : IncludeFault → String
  | .notFound .. => "Add the directory containing the file to the include search path"
  | .unreadable .. => "Check file permissions and ensure the file is valid UTF-8 text"
  | .malformed .. => "Write the directive as #include \"file\" or #include <file>"
  | .noResolver .. => "Configure include search directories for this compilation"
  | .tooDeep .. => "Check for files that include each other"

end IncludeFault

/-- A resolver answers each request with a source or a failure. -/
structure Resolver where
  resolve : IncludeRequest → Except IncludeFault IncludedSource

end ShaderBuild
