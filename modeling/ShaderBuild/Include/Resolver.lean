import ShaderBuild.Include.Request
import ShaderBuild.SearchPath

namespace ShaderBuild

/-!
# Two resolvers

Included sources come from a fixed collection, by name, or from a file tree, along
a search path. A relative include of a file is first looked up in the directory
of the requesting source.
-/

/-- Sources by name. -/
structure SourceCollection where
  sources : List (String × List Char)

namespace SourceCollection

/-- No source. -/
def empty : SourceCollection := ⟨[]⟩

/-- Register a source, in place of any other of its name. -/
def insert
    (collection : SourceCollection) (name : String) (content : List Char) :
    SourceCollection :=
  ⟨(name, content) :: collection.sources.filter (·.1 ≠ name)⟩

/-- Register sources one after the other. -/
def ofList (sources : List (String × List Char)) : SourceCollection :=
  sources.foldl (fun collection source => collection.insert source.1 source.2) empty

/-- The source of a name. -/
def find? (collection : SourceCollection) (name : String) : Option (List Char) :=
  (collection.sources.find? (·.1 = name)).map (·.2)

/-- How many sources are registered. -/
def size (collection : SourceCollection) : Nat :=
  collection.sources.length

/-- The resolver that matches names exactly, whatever the kind of include. -/
def resolver (collection : SourceCollection) : Resolver where
  resolve request :=
    match collection.find? request.target with
    | some content => .ok ⟨request.target, content⟩
    | none => .error (.notFound request.target [])

end SourceCollection

namespace SearchPath

/-- The path beside the requesting source, for a relative include of a relative name. -/
def sibling? (request : IncludeRequest) : Option String :=
  if request.kind = .relative && !Path.isAbsolute request.target then
    some (candidate ((Path.parent? request.requestingSource).getD "") request.target)
  else
    none

/-- Every path that a request tries when none is readable, in order. -/
def includeCandidates (search : SearchPath) (request : IncludeRequest) : List String :=
  (sibling? request).toList ++ search.candidates request.target

/-- The readable file that answers a request. -/
def locateInclude?
    (search : SearchPath) (tree : FileTree) (request : IncludeRequest) :
    Option String :=
  match (sibling? request).filter tree.isReadable with
  | some path => some path
  | none => search.find? tree request.target

/-- The resolver that looks files up in a tree. -/
def resolver (search : SearchPath) (tree : FileTree) : Resolver where
  resolve request :=
    match search.locateInclude? tree request with
    | none => .error (.notFound request.target (search.includeCandidates request))
    | some path =>
        match tree.readText path with
        | .ok content => .ok ⟨path, content⟩
        | .error fault => .error (.unreadable path fault.message)

end SearchPath

end ShaderBuild
