import ShaderBuild.Condition.Expr
import ShaderBuild.Glsl.Replacement

namespace ShaderBuild.Glsl

/-!
# Integer expressions in directives

The expressions of conditions and of line numbers are worked out as they are read,
in signed 64-bit arithmetic that must not overflow. Names are replaced, save the
operands of tests for a definition; a name that does not stand for anything counts
as zero. The end of a replacement, or of an argument in it, looks like the end of the
expression to whoever asks first: operators of a level end there, and an operand is
missing there.
-/

/-! ### Operations -/

/-- The word that begins a test for a definition. -/
def testWord : String := "defined"

/-- The operators between two operands, level by level, those that bind tightest last. -/
def operatorLevels : List (List (String × Condition.BinaryOp)) := [
  [("||", .or)], [("&&", .and)], [("|", .bitOr)], [("^", .bitXor)], [("&", .bitAnd)],
  [("==", .equal), ("!=", .notEqual)],
  [("<", .less), (">", .greater), ("<=", .atMost), (">=", .atLeast)],
  [("<<", .shiftLeft), (">>", .shiftRight)], [("+", .add), ("-", .subtract)],
  [("*", .multiply), ("/", .divide), ("%", .remainder)]]

/-- The operators in front of an operand. -/
def unaryOperators : List (String × Condition.UnaryOp) := [
  ("+", .keep), ("-", .negate), ("!", .not), ("~", .complement)]

/-- A number, if it has 64 bits. -/
def ranged64 (value : Int) : Except PreprocessingFault Int64 :=
  if (Int64.ofInt value).toInt = value then .ok (.ofInt value) else .error .overflow

/-- The result of an operation; one that there is none of counts as a division by zero. -/
def operate (op : Condition.BinaryOp) (left right : Int64) : Except PreprocessingFault Int64 :=
  match op with
  | .add => ranged64 (left.toInt + right.toInt)
  | .subtract => ranged64 (left.toInt - right.toInt)
  | .multiply => ranged64 (left.toInt * right.toInt)
  | .divide => if Condition.divides left right then .ok (left / right) else .error .divisionByZero
  | .remainder =>
      if Condition.divides left right then .ok (left % right) else .error .divisionByZero
  | .shiftLeft => if isShift then .ok (left <<< right) else .error .overflow
  | .shiftRight => if isShift then .ok (left >>> right) else .error .overflow
  | op => .ok ((op.apply left right).getD 0)
where
  isShift : Bool := 0 ≤ right.toInt && right.toInt < 64

/-- The result of an operation on one value; the least one has no opposite. -/
def operateOne (op : Condition.UnaryOp) (operand : Int64) : Except Halt Int64 :=
  if op = .negate && operand = Int64.minValue then
    .error (.breakdown (Halt.overflowMessage "negate"))
  else .ok (op.apply operand)

/-! ### Lexemes -/

/-- What an expression is read with. -/
structure ExpressionContext where
  /-- Offset of the directive that holds the expression. -/
  origin : Nat
  /-- Whether a name that stands for nothing is a fault. -/
  strict : Bool

/-- A part of an expression. -/
inductive Term where
  | lexeme (placed : PlacedLexeme)
  /-- A name that stands for nothing and counts as zero. -/
  | zero (placed : PlacedLexeme)

/-- The problem of a part that must not stand where it stands. -/
def Term.problem : Term → EngineDiagnostic
  | .lexeme placed => placed.problem
  | .zero placed => PreprocessingFault.unexpectedZero.problem placed.offset

/-- Where the reading of an expression stands. -/
structure ExpressionState where
  /-- What is left of the directive's line. -/
  text : Unfolding PieceList
  /-- The next part, if it has been looked at. -/
  seen : Option Term := none

/-- A step of reading an expression. -/
abbrev ExpressionReader := StateT ExpressionState (Except Halt)

namespace ExpressionReader

/-- End with a fault of the directive. -/
def fail (context : ExpressionContext) (fault : PreprocessingFault) : ExpressionReader α :=
  throw (.problem (fault.problem context.origin))

/-- The lexeme that a step comes upon, if it comes upon one. -/
def take? : Option (Step × Unfolding PieceList) → ExpressionReader (Option PlacedLexeme)
  | none => return none
  | some (step, text) => do
      modify fun state => { state with text := text }
      match step with
      | .piece (.lexeme placed) _ => return some placed
      | .halt halt => throw halt
      | _ => return none

/-- The next lexeme as it is written, which has to be there. -/
def written (context : ExpressionContext) : ExpressionReader PlacedLexeme := do
  match ← take? (← get).text.written? with
  | some placed => return placed
  | none => fail context .unexpectedEnd

/-- The next part after names are replaced. -/
def replaced? (context : ExpressionContext) (steps : Nat) : ExpressionReader (Option Term) := do
  match ← take? ((← get).text.advance steps) with
  | none => return none
  | some placed =>
      match placed.lexeme with
      | .word name =>
          if context.strict || name = testWord then return some (.lexeme placed)
          else return some (.zero placed)
      | _ => return some (.lexeme placed)

/-- The next part, which stays to be read. -/
def peek? (context : ExpressionContext) (steps : Nat) : ExpressionReader (Option Term) := do
  match (← get).seen with
  | some term => return some term
  | none =>
      let term ← replaced? context steps
      modify fun state => { state with seen := term }
      return term

/-- Read the next part. -/
def next (context : ExpressionContext) (steps : Nat) : ExpressionReader Term := do
  match ← peek? context steps with
  | some term =>
      modify fun state => { state with seen := none }
      return term
  | none => fail context .unexpectedEnd

/-! ### Reading -/

/-- End with a part that must not stand where it stands. -/
def refuse (problem : EngineDiagnostic) : ExpressionReader α :=
  throw (.problem problem)

/-- Whether a name is defined, as a number. -/
def defined (name : String) : ExpressionReader Int64 := do
  return Condition.truth ((← get).text.source.definitions.find? name).isSome

/-- Read the operand of a test for a definition; in brackets, only the name is not replaced. -/
def test (context : ExpressionContext) (steps : Nat) : ExpressionReader Int64 := do
  let placed ← written context
  match placed.lexeme with
  | .word name => defined name
  | .mark "(" =>
      let operand ← written context
      match operand.lexeme with
      | .word name =>
          match ← next context steps with
          | .lexeme ⟨.mark ")", _, _, _, _, _⟩ => defined name
          | term => refuse term.problem
      | _ => refuse operand.problem
  | _ => refuse placed.problem

mutual

/-- Read an operand with the operators before it. -/
def operand (context : ExpressionContext) : Nat → ExpressionReader Int64
  | 0 => fail context .unexpectedEnd
  | steps + 1 => do
      match ← next context steps with
      | .zero _ => return 0
      | .lexeme placed =>
          match placed.lexeme with
          | .integer value _ => return Int64.ofNat value
          | .mark "(" =>
              let value ← operations context operatorLevels steps
              match ← next context steps with
              | .lexeme ⟨.mark ")", _, _, _, _, _⟩ => return value
              | term => refuse term.problem
          | .mark sign =>
              match unaryOperators.lookup sign with
              | some op => operateOne op (← operand context steps)
              | none => refuse placed.problem
          | .word _ => if context.strict then refuse placed.problem else test context steps
          | _ => refuse placed.problem

/-- Read operands and the operations on them, level by level. -/
def operations (context : ExpressionContext) (levels : List (List (String × Condition.BinaryOp))) :
    Nat → ExpressionReader Int64
  | 0 => fail context .unexpectedEnd
  | steps + 1 => do
      match levels with
      | [] => operand context steps
      | level :: tighter =>
          let left ← operations context tighter steps
          operationsAfter context level tighter left steps

/-- Carry out the operations of a level on a left operand. -/
def operationsAfter (context : ExpressionContext) (level : List (String × Condition.BinaryOp))
    (tighter : List (List (String × Condition.BinaryOp))) (left : Int64) :
    Nat → ExpressionReader Int64
  | 0 => fail context .unexpectedEnd
  | steps + 1 => do
      match ← peek? context steps with
      | some (.lexeme ⟨.mark sign, _, _, _, _, _⟩) =>
          match level.lookup sign with
          | some op =>
              discard (next context steps)
              let right ← operations context tighter steps
              match operate op left right with
              | .ok value => operationsAfter context level tighter value steps
              | .error fault => fail context fault
          | none => return left
      | _ => return left

end

/-- Make sure that nothing follows. -/
def finish (context : ExpressionContext) (steps : Nat) : ExpressionReader Unit := do
  match ← peek? context steps with
  | some term => refuse term.problem
  | none => return

/-- Read something from the line of a directive, given a number of steps that suffices. -/
def onLine (line : PieceList) (read : Nat → ExpressionReader α) : Except Halt α :=
  let lexemes :=
    line.definitions.foldl (fun total found => total + found.body.length) line.pieces.length
  ((read (replacementBound lexemes line.definitions.length)).run { text := ⟨line, []⟩ }).map (·.1)

end ExpressionReader

namespace ExpressionContext

/-- Whether the condition of a directive holds. -/
def holds (context : ExpressionContext) (line : PieceList) : Except Halt Bool :=
  ExpressionReader.onLine line fun steps => do
    let value ← ExpressionReader.operations context operatorLevels steps
    ExpressionReader.finish context steps
    return value != 0

/-- The line number that a directive gives, a number of a text aside. -/
def lineNumber (context : ExpressionContext) (line : PieceList) : Except Halt Nat :=
  ExpressionReader.onLine line fun steps => do
    let number ← ExpressionReader.operations context operatorLevels steps
    if (← ExpressionReader.peek? context steps).isSome then
      discard (ExpressionReader.operations context operatorLevels steps)
    ExpressionReader.finish context steps
    if 0 ≤ number.toInt && number.toInt < (1 <<< 32 : Nat) then
      return number.toInt.toNat
    else
      ExpressionReader.fail context .lineOutOfRange

end ExpressionContext

end ShaderBuild.Glsl
