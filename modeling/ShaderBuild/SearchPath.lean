import ShaderBuild.FileTree

namespace ShaderBuild

/-!
# Search paths

A search path is an ordered list of bases. A file is looked up by joining each
base with its name, whatever the name looks like, and taking the first candidate
that can be opened for reading.
-/

/-- The path to try for a name below a base; the empty base leaves the name as it is. -/
def candidate (base name : String) : String :=
  if base = "" then name
  else if base.toList.getLast? = some '/' then base ++ name
  else base ++ "/" ++ name

/-- Bases in the order in which they are tried. -/
structure SearchPath where
  bases : List String
  deriving Repr, DecidableEq

namespace SearchPath

/-- Every path that a search for a name may try, in order. -/
def candidates (search : SearchPath) (name : String) : List String :=
  search.bases.map (candidate · name)

/-- The first candidate that names a readable file; the empty name is never found. -/
def find? (search : SearchPath) (tree : FileTree) (name : String) : Option String :=
  if name = "" then none else (search.candidates name).find? tree.isReadable

end SearchPath

end ShaderBuild
