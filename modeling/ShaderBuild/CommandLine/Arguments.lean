import ShaderBuild.Command
import ShaderBuild.CommandLine.Option

namespace ShaderBuild.CommandLine

/-!
# Reading the command line

Arguments are read from left to right. A value is checked when the next option or
the end of the arguments shows that it is complete, so that an argument which makes
no sense at all is reported before a bad value in front of it.
-/

/-- Why arguments cannot be used. -/
inductive UsageFault where
  | unknownArgument (text : String)
  | unknownCommand (text : String)
  | noCommand
  /-- An option or argument, as it is displayed, lacks a value. -/
  | missingValue (argument : String)
  | invalidValue (value argument reason : String)
  /-- A value for an option that takes none. -/
  | unneededValue (value argument : String)
  | repeated (argument : String)
  | conflict (first second : String)
  | missingArguments
  deriving Repr, DecidableEq

/-- The message of a fault. -/
def UsageFault.message : UsageFault → String
  | .unknownArgument text => s!"unexpected argument '{text}' found"
  | .unknownCommand text => s!"unrecognized subcommand '{text}'"
  | .noCommand => s!"'{toolName}' requires a subcommand but one was not provided"
  | .missingValue argument => s!"a value is required for '{argument}' but none was supplied"
  | .invalidValue value argument reason =>
      s!"invalid value '{value}' for '{argument}': {reason}"
  | .unneededValue value argument =>
      s!"unexpected value '{value}' for '{argument}' found; no more were expected"
  | .repeated argument => s!"the argument '{argument}' cannot be used multiple times"
  | .conflict first second =>
      s!"the argument '{first}' cannot be used with '{second}'"
  | .missingArguments => "the following required arguments were not provided:"

/-- Why reading ends before there is a command to carry out. -/
inductive Interruption where
  | fault (fault : UsageFault)
  /-- A text was asked for. -/
  | text (text : String)
  /-- Nothing was asked for. -/
  | nothing
  deriving Repr, DecidableEq

/-- What the arguments of one command have set so far. -/
structure Settings where
  positionals : List String := []
  stage : Option ShaderStage := none
  entry : Option String := none
  includeDirectories : List String := []
  defines : List String := []
  config : Option String := none
  output : Option String := none
  /-- The counting options given, the one given last at the end. -/
  counted : List OptionKey := []

/-- What a value belongs to. -/
inductive Target where
  | option (option : OptionSpec)
  | positional (positional : PositionalSpec)

/-- Where reading stands between two arguments. -/
structure ReadState where
  settings : Settings := {}
  /-- Values that are not checked yet, and what they belong to. -/
  pending : Option (Target × List String) := none
  /-- Whether the pending option still waits for its value. -/
  awaiting : Bool := false
  /-- Whether only positional arguments follow. -/
  trailing : Bool := false

/-- Whether an option that may be given once has been given. -/
def Settings.isGiven (settings : Settings) : OptionKey → Bool
  | .stage => settings.stage.isSome
  | .entry => settings.entry.isSome
  | .config => settings.config.isSome
  | .output => settings.output.isSome
  | _ => false

/-- A path, which must not be empty. -/
def pathValue (argument value : String) : Except Interruption String :=
  if value = "" then .error (.fault (.missingValue argument)) else .ok value

/-- Set an option to a value. -/
def Settings.set (settings : Settings) (option : OptionSpec) (value : String) :
    Except Interruption Settings := do
  match option.key with
  | .stage =>
      match ShaderStage.ofName value with
      | .ok stage => return { settings with stage := some stage }
      | .error name =>
          throw (.fault (.invalidValue value option.display (ShaderStage.unknownName name)))
  | .entry => return { settings with entry := some value }
  | .includeDirectory =>
      return { settings with includeDirectories := settings.includeDirectories ++ [value] }
  | .define => return { settings with defines := settings.defines ++ [value] }
  | .config => return { settings with config := some (← pathValue option.display value) }
  | .output => return { settings with output := some (← pathValue option.display value) }
  | .verbose | .quiet | .help | .version => return settings

/-- Take the values of an option. -/
def Settings.take (settings : Settings) (option : OptionSpec) (values : List String) :
    Except Interruption Settings :=
  match values, option.form with
  | [], _ => .error (.fault (.missingValue option.display))
  | value :: _, .single _ =>
      if settings.isGiven option.key then .error (.fault (.repeated option.display))
      else settings.set option value
  | value :: _, _ => settings.set option value

/-- Take positional values; files are paths, a name may be empty. -/
def Settings.addPositionals (settings : Settings) (positional : PositionalSpec)
    (values : List String) : Except Interruption Settings := do
  if positional.many then
    let paths ← values.mapM (pathValue positional.display)
    return { settings with positionals := settings.positionals ++ paths }
  else
    return { settings with positionals := settings.positionals ++ values }

namespace ReadState

/-- Check the pending values. -/
def settle (state : ReadState) : Except Interruption ReadState := do
  match state.pending with
  | none => return state
  | some (.option option, values) =>
      return { state with
        settings := ← state.settings.take option values, pending := none, awaiting := false }
  | some (.positional positional, values) =>
      return { state with
        settings := ← state.settings.addPositionals positional values, pending := none }

/-- Read an option without a value; `help` is the text for the option that asks for it. -/
def flag (state : ReadState) (help : String) (option : OptionSpec) :
    Except Interruption ReadState := do
  let state ← state.settle
  match option.key with
  | .help => throw (.text help)
  | .version => throw (.text (toolName ++ " " ++ toolVersion ++ "\n"))
  | key =>
      let counted := state.settings.counted.filter (· ≠ key) ++ [key]
      return { state with settings := { state.settings with counted } }

/-- Read an option that takes a value, which may be attached to it. -/
def valued (state : ReadState) (option : OptionSpec) (attached : Option String) :
    Except Interruption ReadState := do
  let state ← state.settle
  match attached with
  | some value => return { state with settings := ← state.settings.take option [value] }
  | none => return { state with pending := some (.option option, []), awaiting := true }

/-- Read an argument that starts with two dashes, without them. -/
def long (state : ReadState) (options : List OptionSpec) (help : String) (text : List Char) :
    Except Interruption ReadState :=
  let (name, attached) :=
    match Text.splitAround? '=' text with
    | some (name, value) => (String.ofList name, some (String.ofList value))
    | none => (String.ofList text, none)
  match options.find? (·.long = name) with
  | none => .error (.fault (.unknownArgument ("--" ++ name)))
  | some option =>
      match option.value?, attached with
      | some _, attached => state.valued option attached
      | none, some value => .error (.fault (.unneededValue value option.display))
      | none, none => state.flag help option

/-- What is attached to a short option; an equals sign before it does not count. -/
def attachment (text : List Char) : Option String :=
  match text with
  | [] => none
  | '=' :: value => some (String.ofList value)
  | value => some (String.ofList value)

/-- Read the letters of an argument that starts with one dash. -/
def short (state : ReadState) (options : List OptionSpec) (help : String) :
    List Char → Except Interruption ReadState
  | [] => .ok state
  | c :: rest =>
      match options.find? (·.short = some c) with
      | none => .error (.fault (.unknownArgument ("-" ++ String.singleton c)))
      | some option =>
          match option.value? with
          | some _ => state.valued option (attachment rest)
          | none => do
              let state ← state.flag help option
              state.short options help rest

/--
Read an argument that is an option, a value that an option waits for, or the end of
options; none if it is something else.
-/
def dashed? (state : ReadState) (options : List OptionSpec) (help argument : String) :
    Except Interruption (Option ReadState) := do
  if state.trailing then
    return none
  match argument.toList with
  | ['-', '-'] => return some { state with trailing := true }
  | '-' :: '-' :: text => return some (← state.long options help text)
  | '-' :: c :: text => return some (← state.short options help (c :: text))
  | _ =>
      match state.pending, state.awaiting with
      | some (target, values), true =>
          return some { state with pending := some (target, values ++ [argument]),
                                   awaiting := false }
      | _, _ => return none

/-- Read a positional argument. -/
def positional (state : ReadState) (spec : PositionalSpec) (argument : String) :
    Except Interruption ReadState := do
  if spec.many then
    match state.pending with
    | some (.positional _, values) =>
        return { state with pending := some (.positional spec, values ++ [argument]) }
    | _ =>
        let state ← state.settle
        return { state with pending := some (.positional spec, [argument]) }
  else
    match state.pending, state.settings.positionals with
    | some (.positional _, _), _ | _, _ :: _ =>
        throw (.fault (.unknownArgument argument))
    | _, [] =>
        let state ← state.settle
        return { state with pending := some (.positional spec, [argument]) }

end ReadState

/-- Whether the counting options contradict each other, and which one comes first. -/
def checkCounted (settings : Settings) : Except Interruption Unit :=
  match settings.counted with
  | .verbose :: .quiet :: _ =>
      .error (.fault (.conflict verboseOption.display quietOption.display))
  | .quiet :: .verbose :: _ =>
      .error (.fault (.conflict quietOption.display verboseOption.display))
  | _ => .ok ()

/-- Read the arguments of a command. -/
def readArguments (name : CommandName) (state : ReadState) :
    List String → Except Interruption Settings
  | [] => do
      let state ← state.settle
      checkCounted state.settings
      if state.settings.positionals = [] then
        throw (.fault .missingArguments)
      return state.settings
  | argument :: others => do
      match ← state.dashed? name.options name.help argument with
      | some state => readArguments name state others
      | none => readArguments name (← state.positional name.positional argument) others

/-- What settings say about the shaders to compile. -/
def Settings.shaderArguments (settings : Settings) : ShaderArguments where
  files := settings.positionals
  stage := settings.stage
  entryPoint := settings.entry.getD Compiler.defaultEntryPoint
  includeDirectories := settings.includeDirectories
  defines := settings.defines
  config := settings.config

/-- The command that settings describe. -/
def Settings.command (settings : Settings) : CommandName → Command
  | .compile => .compile settings.shaderArguments settings.output
  | .check => .check settings.shaderArguments
  | .find => .find (settings.positionals.headD "") settings.includeDirectories

/-- The help for a topic. -/
def topicHelp? (topic : String) : Option String :=
  if topic = helpTopic then some helpHelp else (CommandName.ofText? topic).map CommandName.help

/-- The help that is asked for by name. -/
def helpFor : List String → Interruption
  | [] => .text generalHelp
  | topic :: others =>
      match topicHelp? topic, others with
      | some help, [] => .text help
      | some _, other :: _ => .fault (.unknownCommand other)
      | none, _ => .fault (.unknownCommand topic)

/-- Read the arguments before a command, and then those of the command. -/
def readCommand (state : ReadState) : List String → Except Interruption Command
  | [] => do
      if state.settings.counted = [] then
        throw .nothing
      throw (.fault .noCommand)
  | argument :: others => do
      match CommandName.ofText? argument, state.trailing with
      | some name, false =>
          let settings ← readArguments name {} others
          checkCounted state.settings
          return settings.command name
      | some _, true => throw (.fault (.unknownArgument argument))
      | none, _ =>
          if argument = helpTopic then
            throw (if state.trailing then .fault (.unknownArgument argument) else helpFor others)
          match ← state.dashed? generalOptions generalHelp argument with
          | some state => readCommand state others
          | none => throw (.fault (.unknownCommand argument))

/-- The command that arguments describe. -/
def parse (arguments : List String) : Except Interruption Command :=
  readCommand {} arguments

/-! ### The tool -/

/-- What the tool leaves behind. -/
structure ToolOutcome where
  tree : FileTree
  status : Nat
  output : String
  errors : String

/-- The text that reports a usage fault. -/
def UsageFault.render (fault : UsageFault) : String :=
  "error: " ++ fault.message ++ "\n\nFor more information, try '--help'.\n"

/-- Run the tool with arguments on a file tree. -/
def run
    (engine : Engine) (tree : FileTree) (arguments : List String)
    (decode : ProjectConfig.Decoder := ProjectConfig.ofToml) :
    ToolOutcome :=
  match parse arguments with
  | .ok command =>
      let outcome := command.run engine tree decode
      ⟨outcome.tree, outcome.status, outcome.output, outcome.errors⟩
  | .error (.fault fault) => ⟨tree, 2, "", fault.render⟩
  | .error (.text text) => ⟨tree, 0, text, ""⟩
  | .error .nothing => ⟨tree, 2, "", generalHelp⟩

end ShaderBuild.CommandLine
