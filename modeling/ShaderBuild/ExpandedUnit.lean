import ShaderBuild.Diagnostic
import ShaderBuild.Text.Lines
import ShaderBuild.Text.Space
import ShaderBuild.Text.Utf8

namespace ShaderBuild

/-!
# Expanded units

The text that a compiler sees after include expansion, line by line, with the
source and line that each of its lines came from. Offsets into the text count
bytes of its UTF-8 encoding.
-/

/-- A line of a source. -/
structure Origin where
  source : String
  line : Nat
  deriving Repr, DecidableEq

/--
The number of the line at a position counted from 1. Numbers have 32 bits, and the
largest one stands for all lines that lie further down.
-/
def lineNumber (position : Nat) : Nat :=
  min position 0xffffffff

/-- A line of expanded text; one that stands in no source has no origin. -/
structure ExpandedLine where
  text : List Char
  origin : Option Origin
  deriving Repr, DecidableEq

/-- Expanded text and the sources it was put together from. -/
structure ExpandedUnit where
  /-- Name of the root source. -/
  root : String
  lines : List ExpandedLine
  /-- Names of the sources, each once, the root first. -/
  sources : List String
  deriving Repr, DecidableEq

namespace ExpandedUnit

/-- The expanded text. -/
def text (unit : ExpandedUnit) : List Char :=
  Text.unlines (unit.lines.map (·.text))

/-- Bytes that a line takes up in the text, with its line feed. -/
def lineLength (line : ExpandedLine) : Nat :=
  Text.byteLength line.text + 1

/-- The offsets at which lines start, when the first one starts at `offset`. -/
def startsFrom (offset : Nat) : List ExpandedLine → List Nat
  | [] => []
  | line :: others => offset :: startsFrom (offset + lineLength line) others

/-- The offset of every line. -/
def lineStarts (unit : ExpandedUnit) : List Nat :=
  startsFrom 0 unit.lines

/--
The line that holds the byte `offset` bytes after the start of the first one. The
end of the text belongs to the last line, and nothing lies beyond it.
-/
def lineAt? (offset : Nat) : List ExpandedLine → Option ExpandedLine
  | [] => none
  | line :: others =>
      if offset < lineLength line then
        some line
      else
        match others with
        | [] => if offset = lineLength line then some line else none
        | _ => lineAt? (offset - lineLength line) others

/-- Where the line that holds a byte came from. -/
def locate (unit : ExpandedUnit) (offset : Nat) : Option Origin :=
  (lineAt? offset unit.lines).bind (·.origin)

/-- A diagnostic for an offset; without an origin it names the root source alone. -/
def diagnosticAt
    (unit : ExpandedUnit) (offset : Option Nat) (message : String) :
    Diagnostic :=
  match offset.bind unit.locate with
  | some origin => ⟨origin.source, some origin.line, message⟩
  | none => ⟨unit.root, none, message⟩

/-! ### Blank units -/

/-- Where a scan for declarations stands. -/
inductive Scan where
  /-- Between tokens; `atLineStart` if only blanks precede on the line. -/
  | between (atLineStart : Bool)
  /-- In a directive or line comment. -/
  | restOfLine
  /-- In a block comment, perhaps just after a star. -/
  | block (afterStar : Bool) (atLineStart : Bool)
  deriving Repr, DecidableEq

/-- Whether the rest of a text holds only white space, comments and directives. -/
def isBlankFrom : Scan → List Char → Bool
  | _, [] => true
  | .between _, '\n' :: rest => isBlankFrom (.between true) rest
  | .between _, '/' :: '/' :: rest => isBlankFrom .restOfLine rest
  | .between atLineStart, '/' :: '*' :: rest => isBlankFrom (.block false atLineStart) rest
  | .between atLineStart, c :: rest =>
      if Text.isSpace c then isBlankFrom (.between atLineStart) rest
      else if c = '#' && atLineStart then isBlankFrom .restOfLine rest
      else false
  | .restOfLine, '\n' :: rest => isBlankFrom (.between true) rest
  | .restOfLine, _ :: rest => isBlankFrom .restOfLine rest
  | .block _ _, '\n' :: rest => isBlankFrom (.block false true) rest
  | .block true atLineStart, '/' :: rest => isBlankFrom (.between atLineStart) rest
  | .block _ atLineStart, c :: rest => isBlankFrom (.block (c = '*') atLineStart) rest

/-- A unit without declarations: white space, comments and directives only. -/
def isBlank (unit : ExpandedUnit) : Bool :=
  isBlankFrom (.between true) unit.text

end ExpandedUnit

end ShaderBuild
