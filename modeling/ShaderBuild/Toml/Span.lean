import ShaderBuild.Text.Lines
import ShaderBuild.Text.Utf8

namespace ShaderBuild.Toml

/-!
# Spans

A place in a document is the text from there to the end, and a span lies between two
places. It is shown by its line and column, the line itself, and marks below it.
-/

/-- A part of a document. -/
structure Span where
  /-- The text from the first character of the part on. -/
  start : List Char
  /-- The text after the part. -/
  stop : List Char
  deriving Repr, DecidableEq

/-- What follows the last line feed of a text. -/
def lastLine (text : List Char) : List Char :=
  (text.reverse.takeWhile (· ≠ '\n')).reverse

/-- A place by its line and its column, both from zero on. -/
structure Position where
  line : Nat
  column : Nat
  deriving Repr, DecidableEq

/--
The position of a place. The column counts the characters before it on its line, or
their bytes if the character at the place has several. The end of a document is one
column after its last character, even if that is a line feed.
-/
def Position.of (document place : List Char) : Position :=
  match document, place with
  | [], _ => ⟨0, 0⟩
  | _, [] =>
      let before := document.dropLast
      ⟨before.count '\n', (lastLine before).length + 1⟩
  | _, c :: _ =>
      let before := document.take (document.length - place.length)
      let line := lastLine before
      ⟨before.count '\n', if c.utf8Size = 1 then line.length else Text.byteLength line⟩

namespace Span

/-- The character at a place; nothing at the end. -/
def character (place : List Char) : Span :=
  ⟨place, place.drop 1⟩

/-- The part from the start of one part to the end of another. -/
def through (first last : Span) : Span :=
  ⟨first.start, last.stop⟩

/-- The characters of a part. -/
def text (span : Span) : List Char :=
  span.start.take (span.start.length - span.stop.length)

/-- How many marks show a part: its bytes as far as the line goes, and at least one. -/
def markCount (span : Span) (line : List Char) (column : Nat) : Nat :=
  max 1 (min (Text.byteLength span.text) (Text.byteLength line - column))

/-- The position of a part, its first line, and marks below it. -/
def excerpt (document : List Char) (span : Span) : String :=
  let position := Position.of document span.start
  let line := ((Text.fragments document)[position.line]?).getD []
  let number := toString (position.line + 1)
  let margin := String.ofList (List.replicate (number.length + 1) ' ')
  let indentation := String.ofList (List.replicate (position.column + 1) ' ')
  let marks := String.ofList (List.replicate (span.markCount line position.column) '^')
  s!"TOML parse error at line {number}, column {position.column + 1}\n" ++
    s!"{margin}|\n{number} | {String.ofList line}\n{margin}|{indentation}{marks}\n"

end Span

end ShaderBuild.Toml
