import ShaderBuild.Path
import ShaderBuild.Text.Utf8

namespace ShaderBuild

/-!
# File trees

A tree of directories and regular files, without links, and a working directory.
What a path names is found by following its names from the root or the working
directory. A file may be there and yet not be readable, when its permissions forbid
it. Every failure is one that the operating system reports.
-/

/-- The names that lead from the root to a file or directory. -/
abbrev Location := List String

/-- What a location holds. -/
inductive FileEntry where
  | file (content : List UInt8)
  | directory
  deriving Repr, DecidableEq

/-- Why an operation on files fails. -/
inductive FileFault where
  | notFound
  | permissionDenied
  | exists
  | notDirectory
  | isDirectory
  | nameTooLong
  | nulInPath
  | notUtf8
  /-- A directory and everything above it is missing. -/
  | nowhere
  deriving Repr, DecidableEq

/-- The report of a failed operation. -/
def FileFault.message : FileFault → String
  | .notFound => "No such file or directory (os error 2)"
  | .permissionDenied => "Permission denied (os error 13)"
  | .exists => "File exists (os error 17)"
  | .notDirectory => "Not a directory (os error 20)"
  | .isDirectory => "Is a directory (os error 21)"
  | .nameTooLong => "File name too long (os error 36)"
  | .nulInPath => "file name contained an unexpected NUL byte"
  | .notUtf8 => "stream did not contain valid UTF-8"
  | .nowhere => "failed to create whole tree"

/-- Directories and files by location, and the directory relative paths start from. -/
structure FileTree where
  /-- Every file and directory below the root. -/
  entries : List (Location × FileEntry)
  /-- Where relative paths start. -/
  workingDirectory : Location
  /-- The files and directories that may not be opened for reading. -/
  unreadable : List Location := []

namespace FileTree

/-- What a location holds; the root is a directory. -/
def entry? (tree : FileTree) (location : Location) : Option FileEntry :=
  if location = [] then
    some .directory
  else
    (tree.entries.find? (·.1 = location)).map (·.2)

/-- The tree in which a location holds an entry. -/
def put (tree : FileTree) (location : Location) (entry : FileEntry) : FileTree :=
  { tree with
    entries := tree.entries.filter (·.1 ≠ location) ++ [(location, entry)] }

/-- The tree without a location and everything below it. -/
def remove (tree : FileTree) (location : Location) : FileTree :=
  { tree with
    entries := tree.entries.filter fun entry => !location.isPrefixOf entry.1
    unreadable := tree.unreadable.filter fun locked => !location.isPrefixOf locked }

/-- The tree in which a location may not be opened for reading. -/
def lock (tree : FileTree) (location : Location) : FileTree :=
  { tree with unreadable := location :: tree.unreadable }

/-! ### Following a path -/

/-- Longest name of a file, in bytes. -/
def nameLimit : Nat := 255

/-- Shortest path that is too long, in bytes. -/
def pathLimit : Nat := 4096

/-- The place that a name leads to from a directory; nothing need be there. -/
def step (location : Location) (name : String) : Location :=
  if name = "." then location
  else if name = ".." then location.dropLast
  else location ++ [name]

/-- Check that a location is a directory. -/
def checkDirectory (tree : FileTree) (location : Location) : Except FileFault Unit :=
  match tree.entry? location with
  | none => .error .notFound
  | some (.file _) => .error .notDirectory
  | some .directory => .ok ()

/-- Check that a name can be looked up in a directory. -/
def checkLength (name : String) : Except FileFault Unit :=
  if name.utf8ByteSize > nameLimit then .error .nameTooLong else .ok ()

/-- Check that a location is a directory in which a name can be looked up. -/
def checkName (tree : FileTree) (location : Location) (name : String) :
    Except FileFault Unit := do
  tree.checkDirectory location
  checkLength name

/-- Follow names from a location; every step must arrive at something. -/
def follow (tree : FileTree) (location : Location) : List String → Except FileFault Location
  | [] => .ok location
  | name :: others => do
      tree.checkName location name
      let next := step location name
      match tree.entry? next with
      | none => .error .notFound
      | some _ => tree.follow next others

/-- The names in a path. -/
def pathNames (path : String) : List String :=
  ((Path.segments path.toList).filter (· ≠ [])).map String.ofList

/-- Whether a path can only name a directory because it ends in a slash. -/
def endsInSlash (path : String) : Bool :=
  path.toList.getLast? = some '/'

/-- Where a path starts. -/
def start (tree : FileTree) (path : String) : Location :=
  if Path.isAbsolute path then [] else tree.workingDirectory

/-- Check a path's text before anything is looked up. -/
def checkPath (path : String) : Except FileFault Unit :=
  if path.toList.contains '\x00' then .error .nulInPath
  else if path = "" then .error .notFound
  else if path.utf8ByteSize ≥ pathLimit then .error .nameTooLong
  else .ok ()

/-- The location that a path names. -/
def locate (tree : FileTree) (path : String) : Except FileFault Location := do
  checkPath path
  let names := pathNames path
  tree.follow (tree.start path) (if endsInSlash path then names ++ ["."] else names)

/-- What a path names. -/
def lookup (tree : FileTree) (path : String) : Except FileFault FileEntry := do
  let location ← tree.locate path
  match tree.entry? location with
  | some entry => .ok entry
  | none => .error .notFound

/-- Whether a path names a regular file, be it readable or not. -/
def isFile (tree : FileTree) (path : String) : Bool :=
  match tree.lookup path with
  | .ok (.file _) => true
  | _ => false

/-- Whether a path names a directory. -/
def isDirectory (tree : FileTree) (path : String) : Bool :=
  match tree.lookup path with
  | .ok .directory => true
  | _ => false

/-- The path of a location. -/
def absolutePath (location : Location) : String :=
  "/" ++ String.intercalate "/" location

/-- The absolute path of what a path names, without `.` and `..`. -/
def canonical? (tree : FileTree) (path : String) : Option String :=
  match tree.locate path with
  | .ok location => some (absolutePath location)
  | .error _ => none

/-! ### Reading -/

/-- What a path names, once it is open for reading; a directory can be opened, too. -/
def openEntry (tree : FileTree) (path : String) : Except FileFault FileEntry := do
  let location ← tree.locate path
  if location ∈ tree.unreadable then .error .permissionDenied
  else tree.lookup path

/-- Whether a path names a file that can be opened for reading. -/
def isReadable (tree : FileTree) (path : String) : Bool :=
  match tree.openEntry path with
  | .ok (.file _) => true
  | _ => false

/-- The bytes of the file that a path names. -/
def read (tree : FileTree) (path : String) : Except FileFault (List UInt8) := do
  match ← tree.openEntry path with
  | .file content => .ok content
  | .directory => .error .isDirectory

/-- The text of the file that a path names. -/
def readText (tree : FileTree) (path : String) : Except FileFault (List Char) := do
  let content ← tree.read path
  match Text.decode content with
  | .ok text => .ok text
  | .error _ => .error .notUtf8

/-! ### Writing -/

/-- What became of a change: the tree after it, and the fault that ended it, if any. -/
structure Change where
  tree : FileTree
  fault : Option FileFault

/--
The directory and the last name of the path of something to be made; the name is
`none` if it is one that every directory has.
-/
def destination (tree : FileTree) (path : String) :
    Except FileFault (Location × Option String) := do
  checkPath path
  let names := pathNames path
  match names.getLast? with
  | none => .ok ([], none)
  | some name => do
      let directory ← tree.follow (tree.start path) names.dropLast
      tree.checkDirectory directory
      if name = "." || name = ".." then .ok (directory, none)
      else .ok (directory, some name)

/-- Make a directory whose parent exists. -/
def makeDirectory (tree : FileTree) (path : String) : Except FileFault FileTree := do
  match ← tree.destination path with
  | (_, none) => .error .exists
  | (directory, some name) => do
      checkLength name
      match tree.entry? (directory ++ [name]) with
      | some _ => .error .exists
      | none => .ok (tree.put (directory ++ [name]) .directory)

/--
Make a directory and whatever is missing above it; `parents` are the directories
above the path, innermost first. Nothing fails where there is a directory already.
-/
def makeDirectoriesBelow (tree : FileTree) (path : String) : List String → Change
  | [] =>
      if path = "" then ⟨tree, none⟩
      else
        match tree.makeDirectory path with
        | .ok tree => ⟨tree, none⟩
        | .error .notFound => ⟨tree, some .nowhere⟩
        | .error fault => ⟨tree, if tree.isDirectory path then none else some fault⟩
  | parent :: others =>
      if path = "" then ⟨tree, none⟩
      else
        match tree.makeDirectory path with
        | .ok tree => ⟨tree, none⟩
        | .error .notFound =>
            match tree.makeDirectoriesBelow parent others with
            | ⟨tree, some fault⟩ => ⟨tree, some fault⟩
            | ⟨tree, none⟩ =>
                match tree.makeDirectory path with
                | .ok tree => ⟨tree, none⟩
                | .error fault => ⟨tree, if tree.isDirectory path then none else some fault⟩
        | .error fault => ⟨tree, if tree.isDirectory path then none else some fault⟩

/-- Make a directory and whatever is missing above it. -/
def makeDirectories (tree : FileTree) (path : String) : Change :=
  tree.makeDirectoriesBelow path (Path.parents path)

/-- Write a file in an existing directory, over any file of its name. -/
def write (tree : FileTree) (path : String) (content : List UInt8) :
    Except FileFault FileTree := do
  match ← tree.destination path with
  | (_, none) => .error .isDirectory
  | (directory, some name) =>
      if endsInSlash path then .error .isDirectory
      else do
        checkLength name
        match tree.entry? (directory ++ [name]) with
        | some .directory => .error .isDirectory
        | _ => .ok (tree.put (directory ++ [name]) (.file content))

/-! ### Whole trees -/

/-- The tree that holds an empty working directory and the directories above it. -/
def empty (workingDirectory : Location) : FileTree :=
  { entries := (List.range workingDirectory.length).map fun length =>
      (workingDirectory.take (length + 1), .directory)
    workingDirectory }

/-- Add a file or directory and whatever is missing above it. -/
def add (tree : FileTree) (path : String) : FileEntry → FileTree
  | .directory => (tree.makeDirectories path).tree
  | .file content =>
      let tree := (tree.makeDirectories ((Path.parent? path).getD "")).tree
      match tree.write path content with
      | .ok tree => tree
      | .error _ => tree

/-- What lies below the working directory, by names relative to it. -/
def listing (tree : FileTree) : List (Location × FileEntry) :=
  tree.entries.filterMap fun entry =>
    if tree.workingDirectory.isPrefixOf entry.1 && entry.1 ≠ tree.workingDirectory then
      some (entry.1.drop tree.workingDirectory.length, entry.2)
    else
      none

end FileTree

end ShaderBuild
