namespace ShaderBuild.Comment

/-!
# Comments, line by line

A scan reads one line and is told whether the line starts inside a block comment.
It leaves the line's code, in which every comment has become one space, and says
whether a block comment is still open at the line's end. Comment marks between
double quotes are code; a quotation ends with its line at the latest.
-/

/-- Where a scan stands. -/
inductive Place where
  /-- In code. -/
  | code
  /-- In a quotation. -/
  | quotation
  /-- In a block comment. -/
  | block
  deriving Repr, DecidableEq

/-- The code on the rest of a line, and whether a block comment is open after it. -/
def scan : Place → List Char → List Char × Bool
  | .block, [] => ([], true)
  | .block, '*' :: '/' :: rest => scan .code rest
  | .block, _ :: rest => scan .block rest
  | .code, [] => ([], false)
  | .code, '/' :: '/' :: _ => ([], false)
  | .code, '/' :: '*' :: rest => (scan .block rest).map (' ' :: ·) id
  | .code, '"' :: rest => (scan .quotation rest).map ('"' :: ·) id
  | .code, c :: rest => (scan .code rest).map (c :: ·) id
  | .quotation, [] => ([], false)
  | .quotation, '"' :: rest => (scan .code rest).map ('"' :: ·) id
  | .quotation, c :: rest => (scan .quotation rest).map (c :: ·) id

/-- The code of a line that starts inside a block comment or outside of one. -/
def strip (inside : Bool) (line : List Char) : List Char :=
  (scan (if inside then .block else .code) line).1

/-- Whether a block comment is open after a line. -/
def isOpenAfter (inside : Bool) (line : List Char) : Bool :=
  (scan (if inside then .block else .code) line).2

/--
The line that stands in for a consumed one: it opens a block comment if the
consumed line left one open, and is empty otherwise.
-/
def placeholder (inside : Bool) : List Char :=
  if inside then ['/', '*'] else []

end ShaderBuild.Comment
