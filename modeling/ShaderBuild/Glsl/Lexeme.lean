import ShaderBuild.BinaryFloat
import ShaderBuild.Condition.Token
import ShaderBuild.Text.Identifier
import ShaderBuild.Text.Quoted

namespace ShaderBuild.Glsl

/-!
# Lexemes of shaders

A shader's text is cut into words, numbers, marks and line ends. Comments count as
blanks, and a backslash before a line's end joins the line to the next one. A text
that no lexeme fits is passed over with a fault in its place. Every lexeme keeps
the byte offsets at which it starts and ends, and the line on which it starts.
-/

/-! ### Marks -/

/-- The marks, with the names they have in reports on syntax and on directives. -/
def marks : List (String × String × String) := [
  ("<<=", "LeftShiftAssign", "LeftShiftAssign"), (">>=", "RightShiftAssign", "RightShiftAssign"),
  ("+=", "AddAssign", "AddAssign"), ("-=", "SubAssign", "SubAssign"),
  ("*=", "MulAssign", "MulAssign"), ("/=", "DivAssign", "DivAssign"),
  ("%=", "ModAssign", "ModAssign"), ("&=", "AndAssign", "AndAssign"),
  ("^=", "XorAssign", "XorAssign"), ("|=", "OrAssign", "OrAssign"),
  ("++", "Increment", "Increment"), ("--", "Decrement", "Decrement"),
  ("||", "LogicalOr", "LogicalOr"), ("&&", "LogicalAnd", "LogicalAnd"),
  ("^^", "LogicalXor", "LogicalXor"), ("<=", "LessEqual", "LessEqual"),
  (">=", "GreaterEqual", "GreaterEqual"), ("==", "Equal", "EqualEqual"),
  ("!=", "NotEqual", "NotEqual"), ("<<", "LeftShift", "LeftShift"),
  (">>", "RightShift", "RightShift"), ("\x7b", "LeftBrace", "LeftBrace"),
  ("\x7d", "RightBrace", "RightBrace"), ("(", "LeftParen", "LeftParen"),
  (")", "RightParen", "RightParen"), ("[", "LeftBracket", "LeftBracket"),
  ("]", "RightBracket", "RightBracket"), ("<", "LeftAngle", "LeftAngle"),
  (">", "RightAngle", "RightAngle"), (",", "Comma", "Comma"), (";", "Semicolon", "Semicolon"),
  (":", "Colon", "Colon"), (".", "Dot", "Dot"), ("!", "Bang", "Bang"), ("-", "Dash", "Minus"),
  ("~", "Tilde", "Tilde"), ("+", "Plus", "Plus"), ("*", "Star", "Star"), ("/", "Slash", "Slash"),
  ("%", "Percent", "Percent"), ("|", "VerticalBar", "Pipe"), ("^", "Caret", "Caret"),
  ("&", "Ampersand", "Ampersand"), ("?", "Question", "Question"), ("=", "Assign", "Equal"),
  ("#", "Hash", "Hash")]

/-- The mark that a text starts with; in the list, longer ones precede their beginnings. -/
def mark? (text : List Char) : Option String :=
  (marks.map (·.1)).find? (·.toList.isPrefixOf text)

/-! ### Lexemes -/

/-- A piece of a shader's text. -/
inductive Lexeme where
  /-- An identifier or a keyword. -/
  | word (name : String)
  /-- A whole number; a suffix makes it unsigned. -/
  | integer (value : Nat) (signed : Bool)
  | float (value : Binary32)
  /-- An operator or a bracket, by its spelling. -/
  | mark (spelling : String)
  /-- The end of a line. -/
  | lineEnd
  deriving Repr, DecidableEq

/-- The name that a word is; the empty text for other lexemes. -/
def Lexeme.name : Lexeme → String
  | .word name => name
  | _ => ""

/-- Why a text is no lexeme. -/
inductive LexicalFault where
  | strayCharacter
  /-- A whole number of more than 64 bits, or a digit that its radix does not have. -/
  | badInteger
  | badFloat
  /-- The suffix of a number of 16 bits. -/
  | narrowNumber
  /-- The suffix of a number of 64 bits. -/
  | wideNumber
  deriving Repr, DecidableEq

/-- What reports call a fault. -/
def LexicalFault.report : LexicalFault → String
  | .strayCharacter => "UnexpectedCharacter"
  | .badInteger => "IntegerOverflow"
  | .badFloat => "FloatParsingError"
  | .narrowNumber => "NotSupported16BitLiteral"
  | .wideNumber => "NotSupported64BitLiteral"

/-- A lexeme in its place. -/
structure PlacedLexeme where
  lexeme : Lexeme
  /-- Byte offset at which the lexeme starts. -/
  offset : Nat
  /-- Byte offset at which the lexeme ends. -/
  stop : Nat
  /-- Number of the line on which the lexeme starts. -/
  line : Nat
  /-- Whether something blank precedes the lexeme. -/
  afterBlank : Bool
  /-- Whether nothing but blanks precedes the lexeme on its line. -/
  startsLine : Bool
  deriving Repr, DecidableEq

/-- What a piece of a text turns out to be. -/
inductive Scanned where
  | lexeme (placed : PlacedLexeme)
  /-- A piece that is no lexeme. -/
  | fault (fault : LexicalFault)
  deriving Repr, DecidableEq

/-! ### Characters -/

/-- A character of a text, the byte offsets at which it starts and ends, and its line. -/
structure PlacedChar where
  offset : Nat
  stop : Nat
  line : Nat
  char : Char
  deriving Repr, DecidableEq

/-- A place in a text: a byte offset and a line. -/
structure Place where
  offset : Nat
  line : Nat
  deriving Repr, DecidableEq

/-- The place so many bytes further on the same line. -/
def Place.advance (place : Place) (bytes : Nat) : Place :=
  { place with offset := place.offset + bytes }

/-- The place after so many bytes that end a line. -/
def Place.nextLine (place : Place) (bytes : Nat) : Place :=
  ⟨place.offset + bytes, place.line + 1⟩

/--
The characters of a text at a place. A carriage return and a line feed end a line,
alone or together, and each way becomes a line feed. Lines that a backslash joins
become one; the character after them starts at `start`, where the one before them ends.
-/
def placeFrom (start place : Place) : List Char → List PlacedChar
  | [] => []
  | '\\' :: '\r' :: '\n' :: rest | '\\' :: '\n' :: '\r' :: rest =>
      placeFrom start (place.nextLine 3) rest
  | '\\' :: '\r' :: rest | '\\' :: '\n' :: rest => placeFrom start (place.nextLine 2) rest
  | '\r' :: '\n' :: rest | '\n' :: '\r' :: rest =>
      ⟨start.offset, place.offset + 2, start.line, '\n'⟩ ::
        placeFrom (place.nextLine 2) (place.nextLine 2) rest
  | '\r' :: rest | '\n' :: rest =>
      ⟨start.offset, place.offset + 1, start.line, '\n'⟩ ::
        placeFrom (place.nextLine 1) (place.nextLine 1) rest
  | c :: rest =>
      let after := place.advance c.utf8Size
      ⟨start.offset, after.offset, start.line, c⟩ :: placeFrom after after rest

/-- What follows the end of a block comment. -/
def afterComment : List PlacedChar → List PlacedChar
  | [] => []
  | ⟨_, _, _, '*'⟩ :: ⟨_, _, _, '/'⟩ :: rest => rest
  | _ :: rest => afterComment rest

theorem length_afterComment_le (text : List PlacedChar) :
    (afterComment text).length ≤ text.length := by
  fun_induction afterComment text with
  | case1 => exact Nat.le_refl 0
  | case2 => simp only [List.length_cons]; omega
  | case3 => simp only [List.length_cons]; omega

/-- A text in which a space stands for each comment. -/
def blankComments : List PlacedChar → List PlacedChar
  | [] => []
  | ⟨offset, stop, line, '/'⟩ :: ⟨_, _, _, '/'⟩ :: rest =>
      ⟨offset, stop, line, ' '⟩ :: blankComments (rest.dropWhile (·.char ≠ '\n'))
  | ⟨offset, stop, line, '/'⟩ :: ⟨_, _, _, '*'⟩ :: rest =>
      ⟨offset, stop, line, ' '⟩ :: blankComments (afterComment rest)
  | placed :: rest => placed :: blankComments rest
termination_by text => text.length
decreasing_by
  · have shorter := (List.dropWhile_suffix (l := rest) (·.char ≠ '\n')).length_le
    simp only [List.length_cons]
    omega
  · have shorter := length_afterComment_le rest
    simp only [List.length_cons]
    omega
  · simp

/-- A blank that does not end a line. -/
def isBlank (c : Char) : Bool :=
  c = ' ' || c = '\t' || c = '\x0b' || c = '\x0c'

/-! ### Numbers -/

/-- What a text starts with, and how many characters it takes. -/
structure Scan where
  found : Except LexicalFault Lexeme
  length : Nat

/-- The number that digits of a radix denote, if there are any and it has at most 64 bits. -/
def wholeNumber? (radix : Nat) (digits : List Char) : Option Nat :=
  if digits = [] then none else (Condition.digitsValue? radix digits).filter (· < 1 <<< 64)

/--
A whole number of so many characters. Its sign's suffix belongs to it; a suffix for
another width stays unread, and is what is wrong before the digits are looked at.
-/
def scanInteger (radix : Nat) (digits : List Char) (length : Nat) (rest : List Char) : Scan :=
  let (signed, length, rest) :=
    match rest with
    | 'u' :: rest | 'U' :: rest => (false, length + 1, rest)
    | rest => (true, length, rest)
  match rest with
  | 'l' :: _ | 'L' :: _ => ⟨.error .wideNumber, length⟩
  | 's' :: _ | 'S' :: _ => ⟨.error .narrowNumber, length⟩
  | _ =>
      match wholeNumber? radix digits with
      | none => ⟨.error .badInteger, length⟩
      | some value => ⟨.ok (.integer value signed), length⟩

/-- The sign that a text may start with: whether it is negative, and its length. -/
def exponentSign : List Char → Bool × Nat
  | '-' :: _ => (true, 1)
  | '+' :: _ => (false, 1)
  | _ => (false, 0)

/-- The number that digits around a point and an exponent denote; no digits denote zero. -/
def realNumber? (whole fraction : List Char) (exponent : Option Int) : Option Binary32 := do
  let digits ← Condition.digitsValue? 10 (whole ++ fraction)
  return .ofDecimal false digits ((← exponent) - fraction.length)

/-- A number with a point or an exponent, of which so many characters precede `rest`. -/
def scanExponent (whole fraction : List Char) (length : Nat) (rest : List Char) : Scan :=
  let (exponent, length, rest) : Option Int × Nat × List Char :=
    match rest with
    | 'e' :: rest | 'E' :: rest =>
        let (negative, signLength) := exponentSign rest
        let (digits, after) := (rest.drop signLength).span (·.isDigit)
        let magnitude := (Condition.digitsValue? 10 digits).getD 0
        (if digits = [] then none else some (if negative then -(magnitude : Int) else magnitude),
          length + 1 + signLength + digits.length, after)
    | rest => (some 0, length, rest)
  match rest with
  | 'l' :: _ | 'L' :: _ => ⟨.error .wideNumber, length⟩
  | 'h' :: _ | 'H' :: _ => ⟨.error .narrowNumber, length⟩
  | rest =>
      let length :=
        match rest with
        | 'f' :: _ | 'F' :: _ => length + 1
        | _ => length
      match realNumber? whole fraction exponent with
      | none => ⟨.error .badFloat, length⟩
      | some value => ⟨.ok (.float value), length⟩

/-- A number of digits of a radix, of which so many characters precede `rest`. -/
def scanDigits (radix : Nat) (whole : List Char) (length : Nat) (rest : List Char) : Scan :=
  match rest with
  | '.' :: rest =>
      let (fraction, after) := rest.span (·.isDigit)
      scanExponent whole fraction (length + 1 + fraction.length) after
  | 'e' :: _ | 'E' :: _ => scanExponent whole [] length rest
  | _ => scanInteger radix whole length rest

/--
A number, of which the text starts with a digit or with a point and a digit. A point
makes a number in base ten even of digits to base 16.
-/
def scanNumber : List Char → Scan
  | '0' :: 'x' :: rest | '0' :: 'X' :: rest =>
      let (digits, after) := rest.span fun c => (Condition.digitValue? 16 c).isSome
      scanDigits 16 digits (2 + digits.length) after
  | text =>
      let (whole, after) := text.span (·.isDigit)
      scanDigits (if whole.head? = some '0' then 8 else 10) whole whole.length after

/-- Whether a text starts with a number. -/
def startsNumber : List Char → Bool
  | '.' :: c :: _ => c.isDigit
  | c :: _ => c.isDigit
  | [] => false

/-! ### Cutting a text -/

/-- How many characters a stray one takes with it, itself included. -/
def strayLength : Nat := 3

/-- What a text starts with that is neither blank nor the end of a line. -/
def scanOne (text : List Char) : Scan :=
  match text with
  | [] => ⟨.error .strayCharacter, 0⟩
  | c :: rest =>
      if Text.startsIdentifier c || c = '_' then
        let others := rest.takeWhile Text.continuesIdentifier
        ⟨.ok (.word (String.ofList (c :: others))), 1 + others.length⟩
      else if startsNumber text then
        scanNumber text
      else
        match mark? text with
        | some spelling => ⟨.ok (.mark spelling), spelling.length⟩
        | none => ⟨.error .strayCharacter, strayLength⟩

/--
Cut a text with its characters' places into pieces, given what precedes it on its
line.
-/
def cut (afterBlank startsLine : Bool) : List Char → List PlacedChar → List Scanned
  | c :: rest, place :: places =>
      if c = '\n' then
        .lexeme ⟨.lineEnd, place.offset, place.stop, place.line, afterBlank, startsLine⟩ ::
          cut false true rest places
      else if isBlank c then
        cut true startsLine rest places
      else
        let scan := scanOne (c :: rest)
        let stop := (((place :: places)[scan.length - 1]?).getD place).stop
        let piece : Scanned :=
          match scan.found with
          | .ok lexeme => .lexeme ⟨lexeme, place.offset, stop, place.line, afterBlank, startsLine⟩
          | .error fault => .fault fault
        piece :: cut false false (rest.drop (scan.length - 1)) (places.drop (scan.length - 1))
  | _, _ => []
termination_by chars => chars.length
decreasing_by
  · simp
  · simp
  · simp only [List.length_cons, List.length_drop]; omega

/-- The pieces of a text. -/
def scan (text : List Char) : List Scanned :=
  let placed := blankComments (placeFrom ⟨0, 1⟩ ⟨0, 1⟩ text)
  cut false true (placed.map (·.char)) placed

end ShaderBuild.Glsl
