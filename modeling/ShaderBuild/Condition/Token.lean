import ShaderBuild.Text.Space

namespace ShaderBuild.Condition

/-!
# Tokens of a condition

The text after `#if` is cut into words, marks and gaps; words become numbers and
identifiers, and marks become parentheses and the longest operators that fit.
A text with any other mark, or with a malformed number, has no tokens at all.
-/

/-- A character of an identifier or number: an ASCII letter, digit or underscore. -/
def isIdentifierChar (c : Char) : Bool :=
  c.isAlphanum || c = '_'

/-- The operator signs of conditions. -/
inductive Operator where
  | oror | andand | equal | notEqual | atMost | atLeast | shiftLeft | shiftRight
  | plus | minus | times | slash | percent | less | greater
  | ampersand | bar | caret | bang | tilde
  deriving Repr, DecidableEq

/-- How an operator is written. -/
def Operator.sign : Operator → List Char
  | .oror => ['|', '|']
  | .andand => ['&', '&']
  | .equal => ['=', '=']
  | .notEqual => ['!', '=']
  | .atMost => ['<', '=']
  | .atLeast => ['>', '=']
  | .shiftLeft => ['<', '<']
  | .shiftRight => ['>', '>']
  | .plus => ['+']
  | .minus => ['-']
  | .times => ['*']
  | .slash => ['/']
  | .percent => ['%']
  | .less => ['<']
  | .greater => ['>']
  | .ampersand => ['&']
  | .bar => ['|']
  | .caret => ['^']
  | .bang => ['!']
  | .tilde => ['~']

/-- A token of a condition. -/
inductive Token where
  | number (value : Int64)
  | identifier (name : String)
  | operator (sign : Operator)
  | openParen
  | closeParen
  deriving Repr, DecidableEq

/-- The operator written with two marks, if there is one. -/
def Operator.ofMarks? : Char → Char → Option Operator
  | '|', '|' => some .oror
  | '&', '&' => some .andand
  | '=', '=' => some .equal
  | '!', '=' => some .notEqual
  | '<', '=' => some .atMost
  | '>', '=' => some .atLeast
  | '<', '<' => some .shiftLeft
  | '>', '>' => some .shiftRight
  | _, _ => none

/-- The token written with one mark, if there is one. -/
def Token.ofMark? : Char → Option Token
  | '(' => some .openParen
  | ')' => some .closeParen
  | '+' => some (.operator .plus)
  | '-' => some (.operator .minus)
  | '*' => some (.operator .times)
  | '/' => some (.operator .slash)
  | '%' => some (.operator .percent)
  | '<' => some (.operator .less)
  | '>' => some (.operator .greater)
  | '&' => some (.operator .ampersand)
  | '|' => some (.operator .bar)
  | '^' => some (.operator .caret)
  | '!' => some (.operator .bang)
  | '~' => some (.operator .tilde)
  | _ => none

/-- The value of a digit in a radix of at most sixteen. -/
def digitValue? (radix : Nat) (c : Char) : Option Nat :=
  let code := c.toNat
  let value? :=
    if '0'.toNat ≤ code && code ≤ '9'.toNat then some (code - '0'.toNat)
    else if 'a'.toNat ≤ code && code ≤ 'f'.toNat then some (code - 'a'.toNat + 10)
    else if 'A'.toNat ≤ code && code ≤ 'F'.toNat then some (code - 'A'.toNat + 10)
    else none
  value?.filter (· < radix)

/-- The number that digits denote; `none` if one of them is no digit of the radix. -/
def digitsValue? (radix : Nat) (digits : List Char) : Option Nat :=
  digits.foldlM (fun value c => (value * radix + ·) <$> digitValue? radix c) 0

/-- The digits of a literal and their radix, without the unsigned suffix. -/
def literalDigits (word : List Char) : Nat × List Char :=
  match (word.reverse.dropWhile fun c => c = 'u' || c = 'U').reverse with
  | '0' :: 'x' :: digits => (16, digits)
  | '0' :: 'X' :: digits => (16, digits)
  | '0' :: c :: digits => (8, c :: digits)
  | digits => (10, digits)

/-- The value of a number: at least one digit, and below `2 ^ 63`. -/
def literalValue? (word : List Char) : Option Int64 :=
  match literalDigits word with
  | (_, []) => none
  | (radix, digits) =>
      match digitsValue? radix digits with
      | some value => if value < 1 <<< 63 then some (Int64.ofNat value) else none
      | none => none

/-- The token of a word: a number if it starts with a digit, else an identifier. -/
def Token.ofWord? (word : List Char) : Option Token :=
  match word with
  | c :: _ =>
      if c.isDigit then
        .number <$> literalValue? word
      else
        some (.identifier (String.ofList word))
  | [] => none

/-- A text before its marks are joined to operators. -/
inductive Piece where
  /-- A longest run of identifier characters. -/
  | word (chars : List Char)
  /-- A character that is neither white space nor part of a word. -/
  | mark (c : Char)
  /-- White space. -/
  | gap
  deriving Repr, DecidableEq

/-- Put a character in front of the pieces of the text that follows it. -/
def Piece.push (c : Char) (pieces : List Piece) : List Piece :=
  if isIdentifierChar c then
    match pieces with
    | .word chars :: others => .word (c :: chars) :: others
    | _ => .word [c] :: pieces
  else if Text.isSpace c then
    .gap :: pieces
  else
    .mark c :: pieces

/-- The pieces of a text. -/
def Piece.ofText (text : List Char) : List Piece :=
  text.foldr Piece.push []

/-- The tokens of pieces; the first of two marks joins the second if they form an operator. -/
def Token.ofPieces? : List Piece → Option (List Token)
  | [] => some []
  | .gap :: others => ofPieces? others
  | .word chars :: others => do
      let token ← Token.ofWord? chars
      (token :: ·) <$> ofPieces? others
  | .mark first :: .mark second :: others =>
      match Operator.ofMarks? first second with
      | some sign => (.operator sign :: ·) <$> ofPieces? others
      | none => do
          let token ← Token.ofMark? first
          (token :: ·) <$> ofPieces? (.mark second :: others)
  | .mark c :: others => do
      let token ← Token.ofMark? c
      (token :: ·) <$> ofPieces? others

/-- The tokens of a condition's text. -/
def tokenize? (text : List Char) : Option (List Token) :=
  Token.ofPieces? (Piece.ofText text)

end ShaderBuild.Condition
