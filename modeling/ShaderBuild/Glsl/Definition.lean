import ShaderBuild.Glsl.PreprocessingFault

namespace ShaderBuild.Glsl

/-!
# Macro definitions

A defined name is replaced by its lexemes wherever it stands, and they in turn are
replaced by what the names among them stand for. While its own replacement is read,
a name stands for itself, so a replacement always ends. A function-like macro is
replaced only where arguments follow it, which may reach beyond the replacement that
its name comes from.
-/

/-- What a name is defined to be. -/
structure Definition where
  name : String
  /-- The names of the arguments of a function-like macro. -/
  parameters : Option (List String)
  body : List PlacedLexeme
  deriving Repr, DecidableEq

/-- Whether two definitions say the same, wherever they stand. -/
def Definition.agrees (first second : Definition) : Bool :=
  first.parameters = second.parameters &&
    first.body.map (·.lexeme) = second.body.map (·.lexeme)

/-- Definitions, at most one for a name. -/
abbrev Definitions := List Definition

namespace Definitions

/-- The definition of a name. -/
def find? (definitions : Definitions) (name : String) : Option Definition :=
  List.find? (·.name = name) definitions

/-- The definitions without a name. -/
def without (definitions : Definitions) (name : String) : Definitions :=
  definitions.filter (·.name ≠ name)

/-- Define a name, in place of any other definition of it. -/
def define (definitions : Definitions) (definition : Definition) : Definitions :=
  definition :: definitions.without definition.name

end Definitions

/-! ### Pieces -/

/-- What a directive tells whoever reads the shader. -/
inductive Notice where
  /-- The version of the language that the shader asks for. -/
  | version (number : Nat)
  | problem (diagnostic : EngineDiagnostic)
  deriving Repr, DecidableEq

/-- A piece of a text whose conditions are worked out. -/
inductive Piece where
  | lexeme (placed : PlacedLexeme)
  /-- A directive that is no matter of the text's own. -/
  | directive (notices : List Notice)
  deriving Repr, DecidableEq

/-- The lexeme that a piece is, if it is one. -/
def Piece.lexeme? : Piece → Option Lexeme
  | .lexeme placed => some placed.lexeme
  | .directive _ => none

/-! ### Arguments -/

/--
The arguments between the brackets of a call. `depth` counts the inner brackets that
are open, and `argument` holds the current argument so far.
-/
def splitArguments (depth : Nat) (argument : List Piece) : List Piece → List (List Piece)
  | [] => [argument]
  | next :: rest =>
      match next.lexeme?, depth with
      | some (.mark ","), 0 => argument :: splitArguments 0 [] rest
      | some (.mark ")"), depth => splitArguments (depth - 1) (argument ++ [next]) rest
      | some (.mark "("), depth => splitArguments (depth + 1) (argument ++ [next]) rest
      | _, depth => splitArguments depth (argument ++ [next]) rest

/-- Why arguments do not fit parameters; no parameter fits one empty argument. -/
def misfit? (parameters : List String) (arguments : List (List Piece)) :
    Option PreprocessingFault :=
  if parameters = [] && arguments = [[]] then none
  else if arguments.length < parameters.length then some .tooFewArguments
  else if arguments.length > parameters.length then some .tooManyArguments
  else none

/-- A body in which arguments stand for parameters; nothing stands at the ends of an argument. -/
def substitute (parameters : List String) (arguments : List (List Piece))
    (body : List PlacedLexeme) : List (Option Piece) :=
  body.flatMap fun placed =>
    match placed.lexeme with
    | .word name =>
        match parameters.idxOf? name with
        | some index => none :: (arguments.getD index []).map some ++ [none]
        | none => [some (.lexeme placed)]
    | _ => [some (.lexeme placed)]

end ShaderBuild.Glsl
