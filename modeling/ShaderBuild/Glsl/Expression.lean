import ShaderBuild.Glsl.Node
import ShaderBuild.Glsl.Span

namespace ShaderBuild.Glsl

/-!
# Expressions

Expressions as they are written, with the variables they name already looked up. The
expressions of a statement are numbered in the order in which they are complete;
reports show an expression with the numbers of its parts.
-/

/-- What a name stands for in the function that is read. -/
structure VariableReference where
  /-- The node that stands for the name. -/
  node : NodeId
  /-- Whether the node is a place whose content is the value. -/
  isPlace : Bool
  /-- Whether expressions may assign to the name. -/
  isMutable : Bool
  /-- The constant outside functions that the name stands for, with its type. -/
  constant : Option (Nat × TypeId) := none
  /-- Number of the variable in the interface of the entry point. -/
  interface : Option Nat := none
  deriving Repr, DecidableEq

/-- What is called. -/
inductive Callee where
  | constructor (type : TypeId)
  | function (name : String)
  deriving Repr, DecidableEq

/-- How reports show what is called. -/
def Callee.report : Callee → String
  | constructor type => "TypeConstructor(" ++ entryReport type ++ ")"
  | function name => "Function(" ++ Text.quoted name ++ ")"

/-- The number of an expression and where it is read from. -/
structure Tag where
  number : Nat
  span : Span
  deriving Repr, DecidableEq

/-- An expression. -/
inductive Expression where
  | literal (tag : Tag) (value : Literal)
  | named (tag : Tag) (meaning : VariableReference)
  | access (tag : Tag) (base index : Expression)
  | field (tag : Tag) (base : Expression) (name : String)
  | unary (tag : Tag) (operator : UnaryOperator) (operand : Expression)
  | binary (tag : Tag) (operator : BinaryOperator) (left right : Expression)
  | conditional (tag : Tag) (condition accepted rejected : Expression)
  | assign (tag : Tag) (target value : Expression)
  /-- Counting up or down by one; the value is the one before or the one after. -/
  | step (tag : Tag) (operator : BinaryOperator) (givesEarlier : Bool) (operand : Expression)
  | call (tag : Tag) (callee : Callee) (arguments : List Expression)
  | method (tag : Tag) (base : Expression) (name : String) (arguments : List Expression)
  deriving Repr

namespace Expression

/-- The number and the place of an expression. -/
def tag : Expression → Tag
  | literal tag _ | named tag _ | access tag _ _ | field tag _ _ | unary tag _ _
  | binary tag _ _ _ | conditional tag _ _ _ | assign tag _ _ | step tag _ _ _
  | call tag _ _ | method tag _ _ _ => tag

/-- Where an expression is read from. -/
def span (expression : Expression) : Span :=
  expression.tag.span

/-- How reports refer to an expression. -/
def reference (expression : Expression) : String :=
  entryReport expression.tag.number

/-- How reports refer to a list of expressions. -/
def references (expressions : List Expression) : String :=
  "[" ++ ", ".intercalate (expressions.map reference) ++ "]"

/-- What reports say an expression is. -/
def kindReport : Expression → String
  | literal _ value => "Literal(" ++ value.report ++ ")"
  | named _ _ => "Variable"
  | access _ base index =>
      "Access \x7b base: " ++ base.reference ++ ", index: " ++ index.reference ++ " \x7d"
  | field _ base name =>
      "Select \x7b base: " ++ base.reference ++ ", field: " ++ Text.quoted name ++ " \x7d"
  | unary _ operator operand =>
      "Unary \x7b op: " ++ operator.report ++ ", expr: " ++ operand.reference ++ " \x7d"
  | binary _ operator left right =>
      "Binary \x7b left: " ++ left.reference ++ ", op: " ++ operator.report ++ ", right: " ++
        right.reference ++ " \x7d"
  | conditional _ condition accepted rejected =>
      "Conditional \x7b condition: " ++ condition.reference ++ ", accept: " ++
        accepted.reference ++ ", reject: " ++ rejected.reference ++ " \x7d"
  | assign _ target value =>
      "Assign \x7b tgt: " ++ target.reference ++ ", value: " ++ value.reference ++ " \x7d"
  | step _ operator givesEarlier operand =>
      "PrePostfix \x7b op: " ++ operator.report ++ ", postfix: " ++ toString givesEarlier ++
        ", expr: " ++ operand.reference ++ " \x7d"
  | call _ callee arguments =>
      "Call(FunctionCall \x7b kind: " ++ callee.report ++ ", args: " ++ references arguments ++
        " \x7d)"
  | method _ base name arguments =>
      "Method \x7b expr: " ++ base.reference ++ ", name: " ++ Text.quoted name ++ ", args: " ++
        references arguments ++ " \x7d"

/-- How reports show an expression. -/
def report (expression : Expression) : String :=
  "HirExpr \x7b kind: " ++ expression.kindReport ++ ", meta: " ++ expression.span.report ++
    " \x7d"

end Expression

end ShaderBuild.Glsl
