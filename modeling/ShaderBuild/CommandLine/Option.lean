import ShaderBuild.Session

namespace ShaderBuild.CommandLine

/-!
# Options of the command line

Which options each command has, and how usage texts show them.
-/

/-- What an option sets or asks for. -/
inductive OptionKey where
  | stage | entry | includeDirectory | define | config | output
  | verbose | quiet | help | version
  deriving Repr, DecidableEq

/-- How often an option may be given, and what it takes. -/
inductive OptionForm where
  /-- Takes a value, once. -/
  | single (value : String)
  /-- Takes a value each time. -/
  | many (value : String)
  /-- Takes no value and counts. -/
  | count
  /-- Takes no value and ends the reading. -/
  | request
  deriving Repr, DecidableEq

/-- An option. -/
structure OptionSpec where
  key : OptionKey
  short : Option Char
  long : String
  form : OptionForm
  help : String
  deriving Repr, DecidableEq

/-- The name of the value that an option takes. -/
def OptionSpec.value? (option : OptionSpec) : Option String :=
  match option.form with
  | .single value | .many value => some value
  | .count | .request => none

/-- What follows an option's name in texts. -/
def OptionForm.suffix : OptionForm → String
  | .single value | .many value => " <" ++ value ++ ">"
  | .count => "..."
  | .request => ""

/-- An option in messages. -/
def OptionSpec.display (option : OptionSpec) : String :=
  "--" ++ option.long ++ option.form.suffix

/-- What stands on the command line without an option before it. -/
structure PositionalSpec where
  name : String
  /-- Whether there may be several. -/
  many : Bool
  help : String
  deriving Repr, DecidableEq

/-- A positional argument in messages. -/
def PositionalSpec.display (positional : PositionalSpec) : String :=
  "<" ++ positional.name ++ ">" ++ (if positional.many then "..." else "")

/-- The commands by name. -/
inductive CommandName where
  | compile | check | find
  deriving Repr, DecidableEq

/-- Every command, in the order in which usage texts list them. -/
def CommandName.all : List CommandName := [.compile, .check, .find]

/-- How a command is written. -/
def CommandName.text : CommandName → String
  | .compile => "compile"
  | .check => "check"
  | .find => "find"

/-- The command of a name. -/
def CommandName.ofText? (text : String) : Option CommandName :=
  CommandName.all.find? (·.text = text)

/-! ### Options -/

/-- The option that asks for help. -/
def helpOption : OptionSpec := ⟨.help, some 'h', "help", .request, "Print help"⟩

/-- The option that asks for the version. -/
def versionOption : OptionSpec := ⟨.version, some 'V', "version", .request, "Print version"⟩

/-- The option for more log output. -/
def verboseOption : OptionSpec :=
  ⟨.verbose, some 'v', "verbose", .count, "Increase logging verbosity"⟩

/-- The option for less log output. -/
def quietOption : OptionSpec :=
  ⟨.quiet, some 'q', "quiet", .count, "Decrease logging verbosity"⟩

/-- The options before a command. -/
def generalOptions : List OptionSpec := [verboseOption, quietOption, helpOption, versionOption]

/-- The options of commands that compile, without those that all commands have. -/
def shaderOptions : List OptionSpec := [
  ⟨.stage, some 's', "stage", .single "STAGE",
    "Shader stage; inferred from .vert/.frag when omitted"⟩,
  verboseOption,
  ⟨.entry, some 'e', "entry", .single "NAME", "Entry point name [default: main]"⟩,
  quietOption,
  ⟨.includeDirectory, some 'I', "include", .many "DIR",
    "Add a directory to the include search path"⟩,
  ⟨.define, some 'D', "define", .many "NAME[=VALUE]", "Define a preprocessor macro"⟩,
  ⟨.config, none, "config", .single "PATH",
    "Project file to use instead of searching for glint.toml"⟩]

/-- The option that says where to write a binary. -/
def outputOption : OptionSpec :=
  ⟨.output, some 'o', "output", .single "OUT",
    "Output file (defaults to the input path with .spv appended)"⟩

namespace CommandName

/-- The options of a command. -/
def options : CommandName → List OptionSpec
  | .compile => shaderOptions ++ [outputOption, helpOption]
  | .check => shaderOptions ++ [helpOption]
  | .find => [
      ⟨.includeDirectory, some 'I', "include", .many "DIR", "Directory to search, in order"⟩,
      verboseOption, quietOption, helpOption]

/-- What a command takes without an option before it. -/
def positional : CommandName → PositionalSpec
  | .compile | .check => ⟨"FILES", true, "Shader source files"⟩
  | .find => ⟨"NAME", false, "File name to look up"⟩

/-- What a command does, in words. -/
def about : CommandName → String
  | .compile => "Compile shaders to SPIR-V binaries"
  | .check => "Compile shaders and report errors without writing output"
  | .find => "Print where a file resolves on the include search path"

end CommandName

/-! ### Usage texts -/

/-- The name of the tool. -/
def toolName : String := "glint"

/-- The version of the tool. -/
def toolVersion : String := "0.1.0"

/-- What the tool does, in words. -/
def about : String := "Compile GLSL shaders to SPIR-V"

/-- How an option is written, short and long. -/
def OptionSpec.spelling (option : OptionSpec) : String :=
  (match option.short with
    | some c => "-" ++ String.singleton c ++ ", "
    | none => "    ") ++ option.display

/-- Rows of two columns. -/
def table (rows : List (String × String)) : String :=
  let width := (rows.map (·.1.length)).foldl max 0
  String.join (rows.map fun (first, second) =>
    "  " ++ first ++ String.ofList (List.replicate (width - first.length + 2) ' ') ++ second ++
      "\n")

/-- The table of options. -/
def optionTable (options : List OptionSpec) : String :=
  "\nOptions:\n" ++ table (options.map fun option => (option.spelling, option.help))

/-- The command that asks for help. -/
def helpTopic : String := "help"

/-- What that command does, in words. -/
def helpAbout : String := "Print this message or the help of the given subcommand(s)"

/-- The help for the command that asks for help. -/
def helpHelp : String :=
  helpAbout ++ "\n\nUsage: " ++ toolName ++ " " ++ helpTopic ++ " [COMMAND]...\n\nArguments:\n" ++
    table [("[COMMAND]...", "Print help for the subcommand(s)")]

/-- The help for the tool. -/
def generalHelp : String :=
  about ++ "\n\nUsage: " ++ toolName ++ " [OPTIONS] <COMMAND>\n\nCommands:\n" ++
    table (CommandName.all.map (fun name => (name.text, name.about)) ++
      [(helpTopic, helpAbout)]) ++
    optionTable generalOptions

/-- The help for a command. -/
def CommandName.help (name : CommandName) : String :=
  let positional := name.positional
  name.about ++ "\n\nUsage: " ++ toolName ++ " " ++ name.text ++ " [OPTIONS] " ++
    positional.display ++ "\n\nArguments:\n" ++ table [(positional.display, positional.help)] ++
    optionTable name.options

end ShaderBuild.CommandLine
