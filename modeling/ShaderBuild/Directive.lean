import ShaderBuild.Text.Alphanumeric
import ShaderBuild.Text.Lines
import ShaderBuild.Text.Space

namespace ShaderBuild

/-!
# Directives

The directives that steer include expansion, read from a line of code that holds
no comment. Any other line, whether a directive or not, is none of them.
-/

/-- How the name of an included file is written. -/
inductive IncludeKind where
  /-- In double quotes: looked up beside the including source first. -/
  | relative
  /-- In angle brackets: looked up on the search path only. -/
  | standard
  deriving Repr, DecidableEq

/-- Why an `#include` line cannot be understood. -/
inductive IncludeLineFault where
  | noDelimiter
  | unclosed (delimiter : Char)
  | emptyName
  | trailing (text : List Char)
  deriving Repr, DecidableEq

/-- The report of a malformed `#include` line. -/
def IncludeLineFault.message : IncludeLineFault → String
  | .noDelimiter => "expected \"file\" or <file>"
  | .unclosed delimiter => "missing closing '" ++ String.singleton delimiter ++ "'"
  | .emptyName => "empty file name"
  | .trailing text => "unexpected text after file name: " ++ String.ofList text

/-- A directive that expansion acts upon, with the text after its keyword. -/
inductive Directive where
  | includeFile (kind : IncludeKind) (target : String)
  | malformedInclude (fault : IncludeLineFault)
  /-- The `#extension` line that would enable includes in the compiler. -/
  | includeExtension
  | define (body : List Char)
  | undef (body : List Char)
  | ifCondition (condition : List Char)
  | ifDefined (body : List Char)
  | ifNotDefined (body : List Char)
  | elifCondition (condition : List Char)
  | otherwise
  | endIf
  | error (text : List Char)
  deriving Repr, DecidableEq

namespace Directive

/-- What follows the `#` that a line starts with. -/
def body? (code : List Char) : Option (List Char) :=
  match Text.trimStart code with
  | '#' :: rest => some (Text.trimStart rest)
  | _ => none

/-- The kind of an include and the character that closes its file name. -/
def opening? : Char → Option (IncludeKind × Char)
  | '"' => some (.relative, '"')
  | '<' => some (.standard, '>')
  | _ => none

/-- Read what follows `#include` and white space. -/
def parseInclude (rest : List Char) : Directive :=
  match rest with
  | [] => .malformedInclude .noDelimiter
  | c :: rest =>
      match opening? c with
      | none => .malformedInclude .noDelimiter
      | some (kind, delimiter) =>
          match Text.splitAround? delimiter rest with
          | none => .malformedInclude (.unclosed delimiter)
          | some ([], _) => .malformedInclude .emptyName
          | some (target, after) =>
              match Text.trim after with
              | [] => .includeFile kind (String.ofList target)
              | '/' :: '/' :: _ => .includeFile kind (String.ofList target)
              | text => .malformedInclude (.trailing text)

/-- Extensions that enable `#include`. -/
def includeExtensions : List String :=
  ["GL_GOOGLE_include_directive", "GL_ARB_shading_language_include"]

/-- Read what follows `#extension`; only the extensions for includes matter. -/
def parseExtension? (rest : List Char) : Option Directive :=
  let name := (Text.trimStart rest).takeWhile fun c => !(Text.isSpace c || c = ':')
  if String.ofList name ∈ includeExtensions then some .includeExtension else none

/-- The directive on a line of code. -/
def parse? (code : List Char) : Option Directive :=
  (body? code).bind fun body =>
    let rest := body.dropWhile Text.isWordChar
    match String.ofList (body.takeWhile Text.isWordChar) with
    | "include" => some (parseInclude (Text.trimStart rest))
    | "extension" => parseExtension? rest
    | "define" => some (.define rest)
    | "undef" => some (.undef rest)
    | "if" => some (.ifCondition rest)
    | "ifdef" => some (.ifDefined rest)
    | "ifndef" => some (.ifNotDefined rest)
    | "elif" => some (.elifCondition rest)
    | "else" => some .otherwise
    | "endif" => some .endIf
    | "error" => some (.error (Text.trim rest))
    | _ => none

/-- Whether a line of code is a `#version` directive. -/
def isVersion (code : List Char) : Bool :=
  match body? code with
  | some body => String.ofList (body.takeWhile Text.isWordChar) = "version"
  | none => false

end Directive

end ShaderBuild
