import ShaderBuild.Glsl.Halt
import ShaderBuild.Glsl.Lexeme

namespace ShaderBuild.Glsl

/-!
# Faults of preprocessing

What may be wrong with a directive, with the integer expression in one, or with the
use of a macro, and how reports speak of it.
-/

/-! ### Lexemes in reports -/

/-- How reports show a whole number of so many bits. -/
def integerReport (value : Nat) (signed : Bool) (width : Nat) : String :=
  "Integer \x7b value: " ++ s!"{value}, signed: {signed}, width: {width} \x7d"

/-- How reports show a number with a point or an exponent. -/
def floatReport (value : Binary32) : String :=
  "Float \x7b value: " ++ value.compactText ++ ", width: 32 \x7d"

/-- How reports on directives speak of a lexeme. -/
def Lexeme.pieceReport : Lexeme → String
  | .word name => "Ident(" ++ Text.quoted name ++ ")"
  | .integer value signed => "Integer(" ++ integerReport value signed 32 ++ ")"
  | .float value => "Float(" ++ floatReport value ++ ")"
  | .mark spelling =>
      "Punct(" ++ ((marks.lookup spelling).map (·.2)).getD spelling ++ ")"
  | .lineEnd => "NewLine"

/-! ### Faults -/

/-- What is wrong with a directive or with the use of a macro. -/
inductive PreprocessingFault where
  | lexical (fault : LexicalFault)
  /-- A lexeme where another one or the end of the line has to stand. -/
  | unexpected (lexeme : Lexeme)
  /-- The end of an expression or of the text where more has to follow. -/
  | unexpectedEnd
  | tooFewArguments
  | tooManyArguments
  /-- Two parameters of one name. -/
  | duplicateParameter
  /-- Another definition of a name that is defined. -/
  | redefinition
  | unknownDirective
  | errorDirective
  | elifOutsideGroup
  | elseOutsideGroup
  | endifOutsideGroup
  | elifAfterElse
  | secondElse
  | unfinishedGroup
  | lineOutOfRange
  /-- A name that counts as zero, where the end of an expression has to be. -/
  | unexpectedZero
  | divisionByZero
  /-- A result that does not have 64 bits, or a shift by more bits than there are. -/
  | overflow
  deriving Repr, DecidableEq

namespace PreprocessingFault

/-- What reports call a fault. -/
def report : PreprocessingFault → String
  | .lexical fault => fault.report
  | .unexpected .lineEnd => "UnexpectedNewLine"
  | .unexpected (.mark "#") => "UnexpectedHash"
  | .unexpected lexeme => "UnexpectedToken(" ++ lexeme.pieceReport ++ ")"
  | .unexpectedEnd => "UnexpectedEndOfInput"
  | .tooFewArguments => "TooFewDefineArguments"
  | .tooManyArguments => "TooManyDefineArguments"
  | .duplicateParameter => "DuplicateParameter"
  | .redefinition => "DefineRedefined"
  | .unknownDirective => "UnknownDirective"
  | .errorDirective => "ErrorDirective"
  | .elifOutsideGroup => "ElifOutsideOfBlock"
  | .elseOutsideGroup => "ElseOutsideOfBlock"
  | .endifOutsideGroup => "EndifOutsideOfBlock"
  | .elifAfterElse => "ElifAfterElse"
  | .secondElse => "MoreThanOneElse"
  | .unfinishedGroup => "UnfinishedBlock"
  | .lineOutOfRange => "LineOverflow"
  | .unexpectedZero => "UnexpectedToken(Integer(" ++ integerReport 0 true 64 ++ "))"
  | .divisionByZero => "DivisionByZero"
  | .overflow => "IntegerOverflow"

/-- The problem of a fault at an offset. -/
def problem (fault : PreprocessingFault) (offset : Nat) : EngineDiagnostic :=
  ⟨some offset, fault.report⟩

end PreprocessingFault

/-- The problem of a piece of a text that is no lexeme; its place is not reported. -/
def LexicalFault.problem (fault : LexicalFault) : EngineDiagnostic :=
  ⟨none, fault.report⟩

/-- The problem of a lexeme that must not stand where it stands. -/
def PlacedLexeme.problem (placed : PlacedLexeme) : EngineDiagnostic :=
  (PreprocessingFault.unexpected placed.lexeme).problem placed.offset

end ShaderBuild.Glsl
