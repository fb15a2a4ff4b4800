import ShaderBuild.Condition.Token

namespace ShaderBuild.Condition

/-!
# Conditions as expressions

A condition is parsed by precedence climbing into a tree of unary and binary
operations over numbers, identifiers and `defined` tests. Its value is a signed
64-bit number, or unknown.
-/

/-- Operations on one value. -/
inductive UnaryOp where
  | not | complement | negate | keep
  deriving Repr, DecidableEq

/-- Operations on two values. -/
inductive BinaryOp where
  | or | and | bitOr | bitXor | bitAnd | equal | notEqual
  | less | greater | atMost | atLeast
  | shiftLeft | shiftRight | add | subtract | multiply | divide | remainder
  deriving Repr, DecidableEq

/-- An expression. -/
inductive Expr where
  | number (value : Int64)
  | identifier (name : String)
  | defined (name : String)
  | unary (op : UnaryOp) (operand : Expr)
  | binary (op : BinaryOp) (left right : Expr)
  deriving Repr, DecidableEq

/-- The operation an operator stands for in front of its operand. -/
def Operator.unary? : Operator → Option UnaryOp
  | .bang => some .not
  | .tilde => some .complement
  | .minus => some .negate
  | .plus => some .keep
  | _ => none

/-- The operation an operator stands for between two operands. -/
def Operator.binary? : Operator → Option BinaryOp
  | .oror => some .or
  | .andand => some .and
  | .bar => some .bitOr
  | .caret => some .bitXor
  | .ampersand => some .bitAnd
  | .equal => some .equal
  | .notEqual => some .notEqual
  | .less => some .less
  | .greater => some .greater
  | .atMost => some .atMost
  | .atLeast => some .atLeast
  | .shiftLeft => some .shiftLeft
  | .shiftRight => some .shiftRight
  | .plus => some .add
  | .minus => some .subtract
  | .times => some .multiply
  | .slash => some .divide
  | .percent => some .remainder
  | .bang => none
  | .tilde => none

/-- How tightly an operation binds; each level groups to the left. -/
def BinaryOp.precedence : BinaryOp → Nat
  | .or => 1
  | .and => 2
  | .bitOr => 3
  | .bitXor => 4
  | .bitAnd => 5
  | .equal | .notEqual => 6
  | .less | .greater | .atMost | .atLeast => 7
  | .shiftLeft | .shiftRight => 8
  | .add | .subtract => 9
  | .multiply | .divide | .remainder => 10

/-! ### Parsing -/

namespace Expr

mutual

/-- Parse one operand: a number, a name, a `defined` test, a group or a unary operation. -/
def operand : Nat → List Token → Option (Expr × List Token)
  | 0, _ => none
  | _ + 1, [] => none
  | fuel + 1, token :: rest =>
      match token with
      | .number value => some (.number value, rest)
      | .closeParen => none
      | .openParen =>
          match expression fuel 0 rest with
          | some (inner, .closeParen :: rest) => some (inner, rest)
          | _ => none
      | .operator operator =>
          match operator.unary?, operand fuel rest with
          | some op, some (inner, rest) => some (.unary op inner, rest)
          | _, _ => none
      | .identifier name =>
          if name = "defined" then
            match rest with
            | .identifier name :: rest => some (.defined name, rest)
            | .openParen :: .identifier name :: .closeParen :: rest =>
                some (.defined name, rest)
            | _ => none
          else
            some (.identifier name, rest)

/-- Parse an operand and the operations after it that bind tighter than `level`. -/
def expression : Nat → Nat → List Token → Option (Expr × List Token)
  | 0, _, _ => none
  | fuel + 1, level, tokens =>
      match operand fuel tokens with
      | some (left, rest) => climb fuel level left rest
      | none => none

/-- Extend a left operand by the operations after it that bind tighter than `level`. -/
def climb : Nat → Nat → Expr → List Token → Option (Expr × List Token)
  | 0, _, _, _ => none
  | fuel + 1, level, left, tokens =>
      match tokens with
      | .operator operator :: rest =>
          match operator.binary? with
          | some op =>
              if op.precedence ≤ level then
                some (left, tokens)
              else
                match expression fuel op.precedence rest with
                | some (right, rest) => climb fuel level (.binary op left right) rest
                | none => none
          | none => some (left, tokens)
      | _ => some (left, tokens)

end

/-- Each token takes at most three steps of the parser, and the end of the list one more. -/
def enoughFuel (tokens : List Token) : Nat :=
  3 * tokens.length + 3

/-- The expression that all the tokens together denote. -/
def ofTokens? (tokens : List Token) : Option Expr :=
  match expression (enoughFuel tokens) 0 tokens with
  | some (expr, []) => some expr
  | _ => none

/-- The expression that a condition's text denotes. -/
def ofText? (text : List Char) : Option Expr :=
  (tokenize? text).bind ofTokens?

end Expr

/-! ### Values -/

/-- A truth value as a number. -/
def truth (value : Bool) : Int64 :=
  if value then 1 else 0

/-- The result of an operation on a known value. -/
def UnaryOp.apply : UnaryOp → Int64 → Int64
  | .not, value => truth (value = 0)
  | .complement, value => ~~~value
  | .negate, value => -value
  | .keep, value => value

/-- A shift count: any number from 0 to `2 ^ 32 - 1`, taken modulo 64. -/
def shiftCount? (count : Int64) : Option Int64 :=
  if 0 ≤ count.toInt && count.toInt < (1 <<< 32 : Nat) then
    some (Int64.ofInt (count.toInt % 64))
  else
    none

/-- A divisor for which a quotient and a remainder exist. -/
def divides (dividend divisor : Int64) : Bool :=
  divisor != 0 && !(dividend = Int64.minValue && divisor = -1)

/-- The result of an operation on two known values, if it has one. -/
def BinaryOp.apply (op : BinaryOp) (a b : Int64) : Option Int64 :=
  match op with
  | .or => some (truth (a != 0 || b != 0))
  | .and => some (truth (a != 0 && b != 0))
  | .bitOr => some (a ||| b)
  | .bitXor => some (a ^^^ b)
  | .bitAnd => some (a &&& b)
  | .equal => some (truth (a = b))
  | .notEqual => some (truth (a != b))
  | .less => some (truth (a < b))
  | .greater => some (truth (b < a))
  | .atMost => some (truth (a ≤ b))
  | .atLeast => some (truth (b ≤ a))
  | .shiftLeft => (a <<< ·) <$> shiftCount? b
  | .shiftRight => (a >>> ·) <$> shiftCount? b
  | .add => some (a + b)
  | .subtract => some (a - b)
  | .multiply => some (a * b)
  | .divide => if divides a b then some (a / b) else none
  | .remainder => if divides a b then some (a % b) else none

/--
The result of an operation on values that may be unknown. It is unknown too,
unless one side alone decides a logical operation.
-/
def BinaryOp.combine (op : BinaryOp) (left right : Option Int64) : Option Int64 :=
  match left, right with
  | some a, some b => op.apply a b
  | some a, none | none, some a =>
      match op with
      | .or => if a != 0 then some 1 else none
      | .and => if a = 0 then some 0 else none
      | _ => none
  | none, none => none

/-- What the names in an expression stand for, as far as it is known. -/
structure Environment where
  /-- The number an identifier stands for. -/
  value : String → Option Int64
  /-- Whether a macro is defined. -/
  defined : String → Option Bool

/-- The value of an expression. -/
def Expr.value (environment : Environment) : Expr → Option Int64
  | .number value => some value
  | .identifier name => environment.value name
  | .defined name => truth <$> environment.defined name
  | .unary op operand => op.apply <$> operand.value environment
  | .binary op left right =>
      op.combine (left.value environment) (right.value environment)

end ShaderBuild.Condition
