import ShaderBuild.CommandLine.Arguments
import ShaderBuild.Glsl.Engine

/-!
# The program

The tool as a program: it reads the files that a run may need into a tree, runs the
tool on the tree, prints what it says, and writes back the files that are new or
changed. Those are the files below the working directory, the project files above
it, and whatever the arguments and the project file name elsewhere.
-/

namespace ShaderBuild.Program

/-- The location of an absolute path. -/
def locationOf (path : String) : Location :=
  (FileTree.pathNames path).foldl FileTree.step []

/-- Deepest nesting of directories that is read. -/
def deepest : Nat := 64

/--
Read what a location holds, and everything below it, into a tree. What may not be
opened is locked there.
-/
def readInto (tree : FileTree) (location : Location) : Nat → IO FileTree
  | 0 => return tree
  | levels + 1 => do
      let path := (← IO.currentDir) / FileTree.absolutePath location
      if ← path.isDir then
        let mut tree := tree.put location .directory
        try
          for entry in ← path.readDir do
            tree ← readInto tree (location ++ [entry.fileName]) levels
          return tree
        catch _ =>
          return tree.lock location
      else if ← path.pathExists then
        try
          return tree.put location (.file (← IO.FS.readBinFile path).toList)
        catch _ =>
          return (tree.put location (.file [])).lock location
      else
        return tree

/-- The places that an argument may name, whether or not an option is joined to it. -/
def namedPlaces (argument : String) : List String :=
  argument :: String.ofList (argument.toList.drop 2) ::
    match Text.splitAround? '=' argument.toList with
    | some (_, value) => [String.ofList value]
    | none => []

/-- Read a place that lies outside the working directory into a tree. -/
def readOutside (tree : FileTree) (place : String) : IO FileTree := do
  let location := (FileTree.pathNames place).foldl FileTree.step (tree.start place)
  if place = "" || tree.workingDirectory.isPrefixOf location ||
      location.isPrefixOf tree.workingDirectory then
    return tree
  let above := (List.range location.length).map (location.take ·)
  let tree := above.foldl
    (fun tree location =>
      if (tree.entry? location).isSome then tree else tree.put location .directory) tree
  readInto tree location deepest

/-- The include paths of the project that a command belongs to. -/
def projectPlaces (tree : FileTree) : Command → List String
  | .compile arguments _ | .check arguments =>
      match Session.project tree arguments ProjectConfig.ofToml with
      | .ok project => project.includePaths
      | .error _ => []
  | .find _ _ => []

/-- The files that a run with some arguments may need. -/
def readTree (arguments : List String) : IO FileTree := do
  let here := locationOf (← IO.currentDir).toString
  let mut tree ← readInto (FileTree.empty here) here deepest
  for length in List.range here.length do
    tree ← readInto tree (here.take length ++ [ProjectConfig.fileName]) 1
  for place in arguments.flatMap namedPlaces do
    tree ← readOutside tree place
  match CommandLine.parse arguments with
  | .ok command =>
      for place in projectPlaces tree command do
        tree ← readOutside tree place
  | .error _ => pure ()
  return tree

/-- Write the directories and files in which one tree differs from another. -/
def writeChanges (before after : FileTree) : IO Unit := do
  for (location, entry) in after.entries do
    if before.entry? location ≠ some entry then
      let path := (← IO.currentDir) / FileTree.absolutePath location
      match entry with
      | .directory => IO.FS.createDirAll path
      | .file content => IO.FS.writeBinFile path ⟨content.toArray⟩

end ShaderBuild.Program

/-- Run the tool on the files of the system. -/
def main (arguments : List String) : IO UInt32 := do
  let tree ← ShaderBuild.Program.readTree arguments
  let outcome :=
    ShaderBuild.CommandLine.run ShaderBuild.Glsl.engine tree arguments
      ShaderBuild.ProjectConfig.ofToml
  ShaderBuild.Program.writeChanges tree outcome.tree
  IO.print outcome.output
  IO.eprint outcome.errors
  return UInt32.ofNat outcome.status
