import ShaderBuild.Session

namespace ShaderBuild

/-!
# Commands

What the tool can be asked to do. A command reads a file tree and leaves one behind,
with lines to print and faults to report. The faults of single inputs do not stop a
command; they make it fail at its end.
-/

/-- What the tool is asked to do. -/
inductive Command where
  /-- Write the binary of every file. -/
  | compile (arguments : ShaderArguments) (output : Option String)
  /-- Compile every file and write nothing. -/
  | check (arguments : ShaderArguments)
  /-- Look a file up on a search path. -/
  | find (name : String) (directories : List String)

/-- What a command leaves behind. -/
structure CommandOutcome where
  tree : FileTree
  /-- Lines for the standard output. -/
  lines : List String
  /-- The faults of single inputs, in order. -/
  reported : List CommandFault
  /-- The fault that the command ends with. -/
  fault : Option CommandFault

/-- The fault of a command over inputs of which some failed. -/
def buildFault? (failed total : Nat) : Option CommandFault :=
  if failed = 0 then none else some (.buildFailed failed total)

namespace Command

/-- The line that says an input is in order. -/
def approval (path : String) : String :=
  "ok: " ++ path

/-- The line at the end of a successful compilation of some files. -/
def summaryLine (total : Nat) : String :=
  s!"Compiled {total} shader" ++ (if total = 1 then "" else "s")

/-- Compile every file and write nothing. -/
def runCheck
    (engine : Engine) (tree : FileTree) (arguments : ShaderArguments)
    (decode : ProjectConfig.Decoder := ProjectConfig.ofToml) :
    CommandOutcome :=
  match Session.prepare engine tree arguments decode with
  | .error fault => ⟨tree, [], [], some fault⟩
  | .ok session =>
      let results := arguments.files.map fun path => (path, session.build tree path)
      let lines := results.filterMap fun (path, result) =>
        match result with
        | .ok _ => some (approval path)
        | .error _ => none
      let reported := results.filterMap fun (_, result) =>
        match result with
        | .ok _ => none
        | .error fault => some fault
      ⟨tree, lines, reported, buildFault? reported.length arguments.files.length⟩

/-- Compile a file and write its binary, to the given place or beside the file. -/
def compileFile (session : Session) (output : Option String) (tree : FileTree) (path : String) :
    BinaryWritten :=
  match session.build tree path with
  | .error fault => ⟨tree, some fault⟩
  | .ok module => writeBinary tree (output.getD (defaultOutput path)) module.bytes

/-- Compile files in order; the result is the tree after them and the faults met. -/
def compileFiles (session : Session) (output : Option String) (tree : FileTree) :
    List String → FileTree × List CommandFault
  | [] => (tree, [])
  | path :: others =>
      let written := compileFile session output tree path
      let (tree, faults) := compileFiles session output written.tree others
      (tree, written.fault.toList ++ faults)

/-- Write the binary of every file; an output is for a single file only. -/
def runCompile
    (engine : Engine) (tree : FileTree) (arguments : ShaderArguments) (output : Option String)
    (decode : ProjectConfig.Decoder := ProjectConfig.ofToml) :
    CommandOutcome :=
  if output.isSome && arguments.files.length > 1 then
    ⟨tree, [], [], some .outputWithManyInputs⟩
  else
    match Session.prepare engine tree arguments decode with
    | .error fault => ⟨tree, [], [], some fault⟩
    | .ok session =>
        let (tree, faults) := compileFiles session output tree arguments.files
        let total := arguments.files.length
        ⟨tree, if faults = [] then [summaryLine total] else [], faults,
          buildFault? faults.length total⟩

/-- The search path of a look-up; without directories the name is tried as it is. -/
def findPath (directories : List String) : SearchPath :=
  ⟨if directories = [] then [""] else directories⟩

/-- Look a file up on a search path. -/
def runFind (tree : FileTree) (name : String) (directories : List String) : CommandOutcome :=
  let search := findPath directories
  match search.find? tree name with
  | some path => ⟨tree, [path], [], none⟩
  | none => ⟨tree, [], [], some (.notFound name (search.candidates name))⟩

/-- Carry out a command. -/
def run
    (command : Command) (engine : Engine) (tree : FileTree)
    (decode : ProjectConfig.Decoder := ProjectConfig.ofToml) :
    CommandOutcome :=
  match command with
  | .compile arguments output => runCompile engine tree arguments output decode
  | .check arguments => runCheck engine tree arguments decode
  | .find name directories => runFind tree name directories

end Command

namespace CommandOutcome

/-- What a command prints. -/
def output (outcome : CommandOutcome) : String :=
  String.join (outcome.lines.map (· ++ "\n"))

/-- What a command reports: the faults of single inputs, then its own. -/
def errors (outcome : CommandOutcome) : String :=
  String.join (outcome.reported.map fun fault => fault.report.render ++ "\n") ++
    match outcome.fault with
    | some fault => "Error: " ++ fault.report.render ++ "\n"
    | none => ""

/-- The status that a command ends with. -/
def status (outcome : CommandOutcome) : Nat :=
  if outcome.fault.isSome then 1 else 0

end CommandOutcome

end ShaderBuild
