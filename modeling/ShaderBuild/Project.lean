import ShaderBuild.Fault

namespace ShaderBuild

/-!
# Projects

A project file sets up the compiler, the include search path and the macros of the
shaders below its directory. It is looked for from a shader's directory upwards.
How its text is decoded is left to a decoder, which a command is given.
-/

/-- Macros by name, in some order; no name has two. -/
structure DefineTable where
  entries : List (String × String)
  distinct : (entries.map (·.1)).Nodup
  deriving Repr, DecidableEq

namespace DefineTable

/-- No macro. -/
def empty : DefineTable := ⟨[], List.nodup_nil⟩

/-- A table with a macro, in place of any other of its name. -/
def insert (table : DefineTable) (define : String × String) : DefineTable where
  entries := table.entries.filter (·.1 ≠ define.1) ++ [define]
  distinct := by
    rw [List.map_append, List.map_singleton, List.nodup_append]
    refine ⟨table.distinct.sublist (List.filter_sublist.map _), by simp, ?_⟩
    intro name member other isAdded sameName
    obtain ⟨kept, isKept, rfl⟩ := List.mem_map.mp member
    have differs : kept.1 ≠ define.1 := of_decide_eq_true (List.mem_filter.mp isKept).2
    exact differs (sameName.trans (List.mem_singleton.mp isAdded))

/-- The table of macros that are given one after the other. -/
def ofList (defines : List (String × String)) : DefineTable :=
  defines.foldl insert empty

end DefineTable

/-- What a project file says. -/
structure ProjectConfig where
  compiler : CompilerConfig := {}
  /-- Directories of the include search path. -/
  includePaths : List String := []
  defines : DefineTable := .empty
  deriving Repr, DecidableEq

namespace ProjectConfig

/-- Name of the project file. -/
def fileName : String := "glint.toml"

/-- The fields of the section on includes, which is a list of paths. -/
def includeFields : List (Toml.Field (List String)) := [
  ⟨"paths", fun _ value => value.toTexts⟩]

/-- The sections of a project file. -/
def fields : List (Toml.Field ProjectConfig) := [
  ⟨"compiler", fun project value => do
    return { project with compiler := ← value.toCompilerConfig }⟩,
  ⟨"include", fun project value => do
    return { project with
      includePaths := ← value.toRecord "IncludeSection" includeFields [] }⟩,
  ⟨"defines", fun project value => do
    return { project with defines := .ofList (← value.toTextMap) }⟩]

/-- What a TOML document says, with its paths as they are written. -/
def ofToml (text : List Char) : Except Toml.Fault ProjectConfig :=
  Toml.decode (Toml.Value.toRecord "ProjectConfig" fields {}) text

/-- What tells a project, or why there is none, from the text of its file. -/
abbrev Decoder := List Char → Except Toml.Fault ProjectConfig

/-- An include directory, taken from the directory that holds the project file. -/
def rebase (base directory : String) : String :=
  if base = "" then directory else Path.join base directory

/-- The project file at a path. -/
def load (tree : FileTree) (path : String) (decode : Decoder := ofToml) :
    Except CommandFault ProjectConfig :=
  match tree.readText path with
  | .error fault => .error (.file .readingProject path fault)
  | .ok text =>
      match decode text with
      | .error fault => .error (.project path fault)
      | .ok project =>
          let base := (Path.parent? path).getD ""
          .ok { project with includePaths := project.includePaths.map (rebase base) }

/-- The directory to start the search for a project file from. -/
def searchStart (tree : FileTree) (path : String) : String :=
  let directory := if tree.isDirectory path then path else (Path.parent? path).getD path
  let directory := if directory = "" then "." else directory
  (tree.canonical? directory).getD directory

/-- The nearest directory, from a path upwards, that holds a project file. -/
def root? (tree : FileTree) (path : String) : Option String :=
  (Path.withParents (searchStart tree path)).find? fun directory =>
    tree.isFile (Path.join directory fileName)

/-- The nearest project file, or the project without one. -/
def discover (tree : FileTree) (path : String) (decode : Decoder := ofToml) :
    Except CommandFault ProjectConfig :=
  match root? tree path with
  | some directory => load tree (Path.join directory fileName) decode
  | none => .ok {}

/-- The macros in ascending order of their names. -/
def sortedDefines (project : ProjectConfig) : List (String × String) :=
  project.defines.entries.mergeSort fun first second =>
    first.1 < second.1 || (first.1 = second.1 && first.2 ≤ second.2)

end ProjectConfig

end ShaderBuild
