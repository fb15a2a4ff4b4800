import ShaderBuild.Include.Resolver
import ShaderBuild.Project

namespace ShaderBuild

/-!
# Sessions

A session is a compiler with what the command line and the project say about the
shaders it is to compile. Values from the command line come first on the search
path and override the project's macros.
-/

/-- What the command line says about the shaders to compile. -/
structure ShaderArguments where
  files : List String
  stage : Option ShaderStage := none
  entryPoint : String := "main"
  includeDirectories : List String := []
  defines : List String := []
  /-- A project file to use instead of the one that would be found. -/
  config : Option String := none

/-- A compiler and the settings of its compilations. -/
structure Session where
  compiler : Compiler
  search : SearchPath
  defines : List (String × String)
  stage : Option ShaderStage
  entryPoint : String

namespace Session

/-- A name that a macro may have. -/
def isMacroName (name : List Char) : Bool :=
  match name with
  | [] => false
  | first :: others =>
      (first.isAlpha || first = '_') && others.all Condition.isIdentifierChar

/-- A macro written as a name with or without a value; without one it is 1. -/
def parseDefine (text : String) : Except CommandFault (String × String) :=
  let (name, value) :=
    match Text.splitAround? '=' text.toList with
    | some (name, value) => (name, String.ofList value)
    | none => (text.toList, "1")
  if isMacroName name then .ok (String.ofList name, value)
  else .error (.invalidDefine text)

/-- Add a macro at the end, in place of any other of its name. -/
def addDefine (defines : List (String × String)) (define : String × String) :
    List (String × String) :=
  defines.filter (·.1 ≠ define.1) ++ [define]

/-- Add the macros of the command line to those of the project. -/
def mergeDefines (defines : List (String × String)) (texts : List String) :
    Except CommandFault (List (String × String)) :=
  texts.foldlM (fun defines text => addDefine defines <$> parseDefine text) defines

/-- The project that arguments belong to. -/
def project
    (tree : FileTree) (arguments : ShaderArguments)
    (decode : ProjectConfig.Decoder := ProjectConfig.ofToml) :
    Except CommandFault ProjectConfig :=
  match arguments.config, arguments.files with
  | some path, _ => ProjectConfig.load tree path decode
  | none, first :: _ => ProjectConfig.discover tree first decode
  | none, [] => .ok {}

/-- Set up a session with an engine. -/
def prepare
    (engine : Engine) (tree : FileTree) (arguments : ShaderArguments)
    (decode : ProjectConfig.Decoder := ProjectConfig.ofToml) :
    Except CommandFault Session := do
  let project ← project tree arguments decode
  let defines ← mergeDefines project.sortedDefines arguments.defines
  match Compiler.create project.compiler engine with
  | .error fault => .error (.config fault)
  | .ok compiler =>
      .ok ⟨compiler, ⟨arguments.includeDirectories ++ project.includePaths⟩, defines,
        arguments.stage, arguments.entryPoint⟩

/-- The stage of a file: the given one, or what its extension tells. -/
def stageOf (session : Session) (path : String) : Except CommandFault ShaderStage :=
  match session.stage <|> ShaderStage.ofPath? path with
  | some stage => .ok stage
  | none => .error (.unknownStage path)

/-- Compile a file; problems in the shader come back as a failed module. -/
def compileFile (session : Session) (tree : FileTree) (path : String) :
    Except CommandFault ShaderModule := do
  let stage ← session.stageOf path
  match tree.readText path with
  | .error fault => .error (.file .readingShader path fault)
  | .ok content =>
      .ok (session.compiler.compile content stage session.entryPoint
        { sourceName := some path
          resolver := some (session.search.resolver tree)
          defines := session.defines })

/-- The binary module made of a file, or why there is none. -/
def build (session : Session) (tree : FileTree) (path : String) :
    Except CommandFault ShaderModule := do
  let module ← session.compileFile tree path
  if module.success then .ok module
  else .error (.compileFailed path module.diagnostics)

end Session

/-! ### Output files -/

/-- Where the binary of a file goes when nothing else is said. -/
def defaultOutput (path : String) : String :=
  path ++ ".spv"

/-- The tree after an attempt to write a binary, and why it failed, if it did. -/
structure BinaryWritten where
  tree : FileTree
  fault : Option CommandFault

/-- Write a binary, and make the directories above it that are missing. -/
def writeBinary (tree : FileTree) (path : String) (content : List UInt8) : BinaryWritten :=
  let parent := (Path.parent? path).getD ""
  match tree.makeDirectories parent with
  | ⟨tree, some fault⟩ => ⟨tree, some (.file .creatingDirectory parent fault)⟩
  | ⟨tree, none⟩ =>
      match tree.write path content with
      | .ok tree => ⟨tree, none⟩
      | .error fault => ⟨tree, some (.file .writingBinary path fault)⟩

end ShaderBuild
