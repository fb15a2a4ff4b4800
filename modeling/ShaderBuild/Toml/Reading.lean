import ShaderBuild.Toml.Span

namespace ShaderBuild.Toml

/-!
# Readings

A reader takes the text from a place on and gives what it has read and the text
after it, or it fails at a place. A failure may be given up for another reading of
the same text unless it is final. What is wrong is said by whoever knows: the reader
that stopped, and those around it.
-/

/-- What is wrong with a part that can be read. -/
inductive Cause where
  | outOfRange
  | numberTooLarge
  | numberTooSmall
  | tooDeep
  /-- A key that is there already, with the path of its table if that is known. -/
  | duplicateKey (key : String) (table : Option (List String))
  /-- A path of keys that leads into a value of some kind, which is no table. -/
  | extendedValue (path : List String) (kind : String)
  deriving Repr, DecidableEq

/-- A cause in words. -/
def Cause.message : Cause → String
  | .outOfRange => "value is out of range"
  | .numberTooLarge => "number too large to fit in target type"
  | .numberTooSmall => "number too small to fit in target type"
  | .tooDeep => "recursion limit exceeded"
  | .duplicateKey key none => s!"duplicate key `{key}`"
  | .duplicateKey key (some []) => s!"duplicate key `{key}` in document root"
  | .duplicateKey key (some table) =>
      s!"duplicate key `{key}` in table `" ++ ".".intercalate table ++ "`"
  | .extendedValue path kind =>
      "dotted key `" ++ ".".intercalate path ++
        s!"` attempted to extend non-table type ({kind})"

/-- What is said of a place where reading stops. -/
structure Complaint where
  /-- What was being read. -/
  label : Option String := none
  /-- What could have stood there. -/
  expected : List String := []
  cause : Option Cause := none
  deriving Repr, DecidableEq

/-- A complaint in words. -/
def Complaint.message (complaint : Complaint) : String :=
  let label := complaint.label.map ("invalid " ++ ·)
  let expected :=
    if complaint.expected = [] then none
    else some ("expected " ++ ", ".intercalate complaint.expected)
  let cause := complaint.cause.map Cause.message
  "\n".intercalate (label.toList ++ expected.toList ++ cause.toList)

/-- Why and where reading stops. -/
structure Failure where
  /-- The text from the place on. -/
  place : List Char
  complaint : Complaint
  /-- Whether nothing else may be tried. -/
  isFinal : Bool
  deriving Repr, DecidableEq

/-- What reading comes to. -/
abbrev Reading := Except Failure

/-- What is read from a text, and the text after it. -/
abbrev Parsed (α : Type) := α × List Char

/-- Stop at a place. -/
def stopAt (place : List Char) (complaint : Complaint := {}) : Reading α :=
  .error ⟨place, complaint, false⟩

/-- Name what is being read; a name that is already given stays. -/
def labelled (name : String) (reading : Reading α) : Reading α :=
  reading.mapError fun failure =>
    { failure with complaint.label := failure.complaint.label <|> some name }

/-- Add what could have stood where reading stops. -/
def expecting (expected : List String) (reading : Reading α) : Reading α :=
  reading.mapError fun failure =>
    { failure with complaint.expected := failure.complaint.expected ++ expected }

/-- Let nothing else be tried. -/
def committed (reading : Reading α) : Reading α :=
  reading.mapError fun failure => { failure with isFinal := true }

/-- What is read, or nothing if reading fails and something else may be tried. -/
def optional (reading : Reading α) : Reading (Option α) :=
  match reading with
  | .ok result => .ok (some result)
  | .error failure => if failure.isFinal then .error failure else .ok none

/-- What is read first, or else what is read second. -/
def orElse (first second : Reading α) : Reading α := do
  match ← optional first with
  | some result => .ok result
  | none => second

/-! ### Characters -/

/-- Blanks within a line. -/
def isBlank (c : Char) : Bool :=
  c = ' ' || c = '\t'

/-- Drop the blanks a text starts with. -/
def skipBlanks (text : List Char) : List Char :=
  text.dropWhile isBlank

/-- Characters that may stand in comments and strings: no control characters but the tab. -/
def isVisible (c : Char) : Bool :=
  c = '\t' || (0x20 ≤ c.toNat && c.toNat ≠ 0x7f)

/-- The text after a line feed, with or without a carriage return before it. -/
def newline? : List Char → Option (List Char)
  | '\n' :: rest => some rest
  | '\r' :: '\n' :: rest => some rest
  | _ => none

/-- The text after given characters. -/
def expect (expected text : List Char) : Reading (List Char) :=
  if expected.isPrefixOf text then .ok (text.drop expected.length) else stopAt text

end ShaderBuild.Toml
