import ShaderBuild.Glsl.IntegerExpression

namespace ShaderBuild.Glsl

/-!
# Live text

The pieces of a shader that are still to be read, with what the directives so far
have brought about: definitions, and groups of which some lines are skipped. Each
step takes one piece, or one directive with what belongs to it. A directive that is
at fault leaves the pieces of its line that it has not read.
-/

/-- A group of lines between a condition and its end. -/
structure LineGroup where
  /-- Offset of the directive that opened the group. -/
  start : Nat
  /-- Whether a branch so far was read, or none may be. -/
  taken : Bool
  hasElse : Bool := false
  /-- Whether the lines around the group are skipped. -/
  insideSkipped : Bool
  deriving Repr, DecidableEq

/-- The pieces that are left, and what holds for them. -/
structure LiveText where
  rest : List Scanned
  definitions : Definitions
  /-- The open groups, innermost first. -/
  groups : List LineGroup := []
  /-- Whether the pieces are skipped. -/
  skipping : Bool := false
  /-- Whether a lexeme has been read or a directive carried out. -/
  begun : Bool := false
  /-- How much greater a line's number is than its place in the text. -/
  lineShift : Int := 0

/-- The versions of the language that shaders may ask for. -/
def languageVersions : List Nat := [440, 450, 460]

/-- A step of reading a directive. -/
abbrev DirectiveReader := ExceptT Halt (StateM LiveText)

namespace DirectiveReader

/-- End with a problem. -/
def refuse (problem : EngineDiagnostic) : DirectiveReader α :=
  throw (.problem problem)

/-- Read the next lexeme of a directive at an offset; a text's end is a line's end. -/
def next (origin : Nat) : DirectiveReader PlacedLexeme := do
  let text ← get
  match text.rest with
  | [] => return ⟨.lineEnd, origin, origin, 0, false, false⟩
  | .lexeme placed :: rest =>
      set { text with rest := rest }
      return placed
  | .fault fault :: rest =>
      set { text with rest := rest }
      refuse fault.problem

/-- Read a name; the result also holds its offset. -/
def name (origin : Nat) : DirectiveReader (String × Nat) := do
  let placed ← next origin
  match placed.lexeme with
  | .word name => return (name, placed.offset)
  | _ => refuse placed.problem

/-- Read the end of a line. -/
def endOfLine (origin : Nat) : DirectiveReader Unit := do
  let placed ← next origin
  if placed.lexeme ≠ .lineEnd then
    refuse placed.problem

/-- The pieces up to the end of a line, or the problem met before it, and what follows. -/
def splitLine : List Scanned → Except EngineDiagnostic (List PlacedLexeme) × List Scanned
  | [] => (.ok [], [])
  | .fault fault :: rest => (.error fault.problem, rest)
  | .lexeme placed :: rest =>
      if placed.lexeme = .lineEnd then
        (.ok [], rest)
      else if placed.lexeme = .mark "#" then
        (.error placed.problem, rest)
      else
        let (line, rest) := splitLine rest
        (line.map (placed :: ·), rest)

/-- Read a line to its end. -/
def line : DirectiveReader (List PlacedLexeme) := do
  let text ← get
  let (line, rest) := splitLine text.rest
  set { text with rest := rest }
  match line with
  | .ok line => return line
  | .error problem => refuse problem

/-- Change what holds for the pieces that follow. -/
def change (change : LiveText → LiveText) : DirectiveReader Unit :=
  modify change

/-! ### Definitions -/

/-- Read the names of parameters after the first one. -/
def moreParameters (origin : Nat) (names : List String) : Nat → DirectiveReader (List String)
  | 0 => return names
  | limit + 1 => do
      let placed ← next origin
      match placed.lexeme with
      | .mark ")" => return names
      | .mark "," =>
          let parameter ← next origin
          match parameter.lexeme with
          | .word name =>
              if names.contains name then
                refuse (PreprocessingFault.duplicateParameter.problem parameter.offset)
              moreParameters origin (names ++ [name]) limit
          | _ => refuse parameter.problem
      | _ => refuse placed.problem

/-- Read the names of parameters up to the closing bracket. -/
def parameters (origin : Nat) : DirectiveReader (List String) := do
  let placed ← next origin
  match placed.lexeme with
  | .mark ")" => return []
  | .word name => moreParameters origin [name] (← get).rest.length
  | _ => refuse placed.problem

/-- Read the rest of a body that starts with a lexeme. -/
def bodyFrom (first : PlacedLexeme) : DirectiveReader (List PlacedLexeme) := do
  match first.lexeme with
  | .lineEnd => return []
  | .mark "#" => refuse first.problem
  | _ => return first :: (← line)

/-- Carry out a definition; a name that is defined already keeps what it stands for. -/
def define (origin : Nat) : DirectiveReader Unit := do
  let (name, offset) ← name origin
  let first ← next origin
  let definition : Definition ←
    if first.lexeme = .mark "(" && !first.afterBlank then
      let parameters ← parameters origin
      pure ⟨name, some parameters, ← bodyFrom (← next origin)⟩
    else
      pure ⟨name, none, ← bodyFrom first⟩
  match (← get).definitions.find? name with
  | some other =>
      if !definition.agrees other then
        refuse (PreprocessingFault.redefinition.problem offset)
  | none =>
      change fun text => { text with definitions := text.definitions.define definition }

/-- Take away a definition. -/
def undefine (origin : Nat) : DirectiveReader Unit := do
  let (name, _) ← name origin
  change fun text => { text with definitions := text.definitions.without name }
  endOfLine origin

/-! ### Groups -/

/-- Open a group whose first branch is read if a condition holds. -/
def openGroup (origin : Nat) (condition : Bool) : DirectiveReader Unit :=
  change fun text => { text with
    groups := ⟨origin, condition, false, false⟩ :: text.groups
    skipping := !condition }

/-- Open a group by a condition, which skipped text does not work out. -/
def openGroupIf (origin : Nat) (condition : DirectiveReader Bool) : DirectiveReader Unit := do
  if (← get).skipping then
    change fun text => { text with groups := ⟨origin, true, false, true⟩ :: text.groups }
  else
    openGroup origin (← condition)

/-- Read the line of an expression. -/
def expressionLine : DirectiveReader PieceList := do
  let line ← line
  return ⟨line.map .lexeme, (← get).definitions⟩

/-- Read a condition to the end of its line. -/
def condition (origin : Nat) : DirectiveReader Bool := do
  let line ← expressionLine
  liftExcept (ExpressionContext.holds ⟨origin, false⟩ line)

/-- Read a name to the end of its line; whether it is defined. -/
def isDefined (origin : Nat) : DirectiveReader Bool := do
  let (name, _) ← name origin
  endOfLine origin
  return ((← get).definitions.find? name).isSome

/-- Whether all branches of the innermost group are skipped. -/
def isInSkipped : DirectiveReader Bool := do
  return (← get).groups.head?.any (·.insideSkipped)

/--
Go on to a branch with a condition of its own, which is skipped until the condition
holds. If an earlier branch was read, the condition is skipped, too.
-/
def elif (origin : Nat) : DirectiveReader Unit := do
  change fun text => { text with skipping := true }
  match (← get).groups with
  | [] => refuse (PreprocessingFault.elifOutsideGroup.problem origin)
  | group :: outer =>
      if group.hasElse then
        refuse (PreprocessingFault.elifAfterElse.problem origin)
      if !group.taken then
        let value ← condition origin
        change fun text => { text with
          groups := { group with taken := value } :: outer
          skipping := !value }

/-- Go on to the last branch of a group. -/
def otherwise (origin : Nat) : DirectiveReader Unit := do
  endOfLine origin
  match (← get).groups with
  | [] => refuse (PreprocessingFault.elseOutsideGroup.problem origin)
  | group :: outer =>
      if group.hasElse then
        refuse (PreprocessingFault.secondElse.problem origin)
      change fun text => { text with
        groups := { group with hasElse := true } :: outer
        skipping := group.taken }

/-- Close a group. What follows on the line is looked at if the group is not skipped as a whole. -/
def closeGroup (origin : Nat) : DirectiveReader Unit := do
  match (← get).groups with
  | [] => refuse (PreprocessingFault.endifOutsideGroup.problem origin)
  | group :: outer =>
      change fun text => { text with groups := outer, skipping := group.insideSkipped }
      if !group.insideSkipped then
        endOfLine origin

/-! ### Settings -/

/-- Give the line of a directive a number, from which the lines after it are counted. -/
def renumber (origin physical : Nat) : DirectiveReader Unit := do
  let line ← expressionLine
  let number ← liftExcept (ExpressionContext.lineNumber ⟨origin, true⟩ line)
  change fun text => { text with lineShift := (number : Int) - physical }

/-- What is told of what follows the number of a version: a profile. -/
def profileNotices : List PlacedLexeme → List Notice
  | [] => []
  | profile :: rest =>
      let asked :=
        match profile.lexeme with
        | .word name =>
            if name = "core" then []
            else [.problem ⟨some profile.offset, "Invalid profile: " ++ name⟩]
        | _ => [.problem profile.problem]
      asked ++ (rest.take 1).map fun extra => .problem extra.problem

/-- What is told of a line that asks for a version and, perhaps, a profile. -/
def versionNotices (origin : Nat) (line : List PlacedLexeme) : List Notice :=
  match line with
  | [] => [.problem ((PreprocessingFault.unexpected .lineEnd).problem origin)]
  | placed :: rest =>
      let asked : Notice :=
        match placed.lexeme with
        | .integer number _ =>
            if number ∈ languageVersions then .version number
            else .problem ⟨some placed.offset, s!"Invalid version: {number}"⟩
        | _ => .problem placed.problem
      asked :: profileNotices rest

/-- Ask for a version of the language, which has to come before anything else. -/
def version (origin : Nat) : DirectiveReader (List Notice) := do
  let line ← line
  let late :=
    if (← get).begun then
      [Notice.problem ⟨some origin, "#version must occur first in shader"⟩]
    else
      []
  return late ++ versionNotices origin line

/-- What may be asked of an extension. -/
def extensionBehaviours : List String := ["require", "enable", "warn", "disable"]

/-- What is told of a place on a line where a lexeme of some kind has to stand. -/
def slotNotices (origin : Nat) (accept : Lexeme → Bool) : Option PlacedLexeme → List Notice
  | none => [.problem ((PreprocessingFault.unexpected .lineEnd).problem origin)]
  | some placed => if accept placed.lexeme then [] else [.problem placed.problem]

/-- Whether a lexeme is a word. -/
def isWord : Lexeme → Bool
  | .word _ => true
  | _ => false

/-- Ask for an extension: its name, a colon, and how much it is wanted; it changes nothing. -/
def extension (origin : Nat) : DirectiveReader (List Notice) := do
  let pieces ← line
  let name := slotNotices origin isWord pieces[0]?
  let colon := slotNotices origin (· = .mark ":") pieces[1]?
  let behaviour := slotNotices origin
    (fun lexeme => extensionBehaviours.any (lexeme = .word ·)) pieces[2]?
  let extra := pieces[3]?.toList.map fun placed => Notice.problem placed.problem
  return name ++ colon ++ behaviour ++ extra

/-! ### Directives -/

/--
Carry out a directive that skipped text passes over; the result is what it tells whoever
reads the shader, if it tells something.
-/
def live (word : String) (origin physical : Nat) : DirectiveReader (Option (List Notice)) :=
  match word with
  | "define" => do
      define origin
      return none
  | "undef" => do
      undefine origin
      return none
  | "version" => return some (← version origin)
  | "extension" => return some (← extension origin)
  | "pragma" => do
      discard line
      return some []
  | "line" => do
      renumber origin physical
      return none
  | "error" => refuse (PreprocessingFault.errorDirective.problem origin)
  | _ => refuse (PreprocessingFault.unknownDirective.problem origin)

/-- Carry out a directive after its number sign. -/
def directive (sign : PlacedLexeme) : DirectiveReader (Option (List Notice)) := do
  let placed ← next sign.offset
  let origin := placed.offset
  match placed.lexeme with
  | .word "if" =>
      openGroupIf origin (condition origin)
      return none
  | .word "ifdef" =>
      openGroupIf origin (isDefined origin)
      return none
  | .word "ifndef" =>
      openGroupIf origin (return !(← isDefined origin))
      return none
  | .word "elif" =>
      if !(← isInSkipped) then
        elif origin
      return none
  | .word "else" =>
      if !(← isInSkipped) then
        otherwise origin
      return none
  | .word "endif" =>
      closeGroup origin
      return none
  | .word word =>
      if (← get).skipping then return none else live word origin placed.line
  | _ => if (← get).skipping then return none else refuse placed.problem

end DirectiveReader

namespace LiveText

/-- Carry out a directive. -/
def carryOut (text : LiveText) (sign : PlacedLexeme) : Step × LiveText :=
  match (DirectiveReader.directive sign).run.run text with
  | (.ok (some notices), text) => (.piece (.directive notices) sign.line, { text with begun := true })
  | (.ok none, text) => (.pause, { text with begun := true })
  | (.error halt, text) => (.halt halt, text)

/-- What the next step comes upon, and what is left; none at the end. -/
def step? (text : LiveText) : Option (Step × LiveText) :=
  match text.rest with
  | [] => none
  | .fault fault :: rest => some (.halt (.problem fault.problem), { text with rest := rest })
  | .lexeme placed :: rest =>
      let text := { text with rest := rest }
      if placed.lexeme = .mark "#" && placed.startsLine then
        some (text.carryOut placed)
      else if text.skipping || placed.lexeme = .lineEnd then
        some (.pause, text)
      else if placed.lexeme = .mark "#" then
        some (.halt (.problem placed.problem), text)
      else
        some (.piece (.lexeme placed) placed.line, { text with begun := true })

instance : PieceSource LiveText where
  step? := step?
  definitions text := text.definitions
  lineNumber text line := line + text.lineShift

end LiveText

end ShaderBuild.Glsl
