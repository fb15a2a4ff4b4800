import ShaderBuild.Glsl.Lowering.Evaluation
import ShaderBuild.Glsl.Reader.Placement

namespace ShaderBuild.Glsl.Reader

/-!
# Reading expressions and types

Expressions as they are written, and types. The two are read together, as the size of
an array is an expression and an expression may name a type.
-/

/-! ### Parts of expressions -/

/-- Number the expression that has been read. -/
def tagged (span : Span) : Reader Tag := do
  let number := (← draft).expressionCount
  modifyDraft fun draft => { draft with expressionCount := number + 1 }
  return ⟨number, span⟩

/-- Number the expressions that follow from the start. -/
def restartNumbers : Reader Unit :=
  modifyDraft fun draft => { draft with expressionCount := 0 }

/-- The problem of a lexeme that begins no expression. -/
def noExpression (placed : PlacedLexeme) : Reader α :=
  unexpected ["LeftParen", "integer literal", "float literal", "bool literal"] placed

/-- The literal that a lexeme is, if it is one. -/
def literal? : Lexeme → Option Literal
  | .integer value true => some (.wrapInt value)
  | .integer value false => some (.wrapUint value)
  | .float value => some (.float value)
  | .word "true" => some (.bool true)
  | .word "false" => some (.bool false)
  | _ => none

/-- Read something constant; what is known of the code around it stays as it is. -/
def asConstant (read : Reader α) : Reader α := do
  let outer ← draft
  tryCatch (do return (← inDraft true read).1) fun halt => do
    modifyDraft fun _ => outer
    throw halt

/-- The number that a constant node is. -/
def sizeOfConstant (node : NodeId) (span : Span) : Reader Nat := do
  let program ← program
  match program.literalAt? program.values node with
  | some (.uint value) => return value
  | some (.int value) =>
      if value < 0 then refuse span "int constant overflows" else return value.toNat
  | _ => refuse span "Expected a uint constant"

/-- The number of the type of arrays of a type, for which all types so far have to have sizes. -/
def arrayType (base : TypeId) (size : Option Nat) : Reader TypeId := do
  let types := (← program).types
  if !types.hasSizes then
    breakDown (Halt.overflowMessage "multiply")
  typeOfForm (.array base size (types.stride base))

/-- The number of a type of arrays for as many arguments as there are, if its size is open. -/
def closeArray (type : TypeId) (count : Nat) (span : Span) : Reader TypeId := do
  match ← formOfType type with
  | .array base none stride =>
      if count = 0 then
        refuse span "There must be at least one argument"
      typeOfForm (.array base (some count) stride)
  | _ => return type

/-- What a callee of a name is: a structure's constructor or a function. -/
def calleeOf (name : String) : Reader Callee := do
  match (← get).typeNames.lookup name with
  | some type => return .constructor type
  | none => return .function name

/-- An expression with an operator between two others. -/
def binaryExpression (operator : BinaryOperator) (left right : Expression) :
    Reader Expression := do
  return .binary (← tagged (left.span.join right.span)) operator left right

/-! ### Expressions and types -/

mutual

/-- Read an expression; of several with commas between, the last one counts. -/
def expression : Nat → Reader Expression
  | 0 => outOfSteps
  | steps + 1 => do
      let first ← assignment steps
      if (← peek) = .mark "," then
        discard next
        expression steps
      else
        return first

/-- Read an expression without a comma outside brackets. -/
def assignment : Nat → Reader Expression
  | 0 => outOfSteps
  | steps + 1 => do
      let target ← unary steps
      match ← peek with
      | .mark sign =>
          match BinaryOperator.assignmentMarks.lookup sign with
          | some operator =>
              discard next
              let right ← assignment steps
              let value ←
                match operator with
                | some operator => binaryExpression operator target right
                | none => pure right
              return .assign (← tagged (target.span.join right.span)) target value
          | none => conditional steps target
      | _ => conditional steps target

/-- Read the operators and the branches that follow an operand, if they do. -/
def conditional : Nat → Expression → Reader Expression
  | 0, _ => outOfSteps
  | steps + 1, first => do
      let condition ← binary steps 0 first
      if (← peek) = .mark "?" then
        discard next
        let accepted ← expression steps
        discard (expect (.mark ":"))
        let rejected ← assignment steps
        return .conditional (← tagged (condition.span.join rejected.span)) condition accepted
          rejected
      return condition

/-- Read the operators after an operand that bind tighter than a level, and their operands. -/
def binary : Nat → Nat → Expression → Reader Expression
  | 0, _, _ => outOfSteps
  | steps + 1, level, left => do
      match ← peek with
      | .mark sign =>
          match BinaryOperator.marks.lookup sign with
          | some (operator, tightness) =>
              if tightness ≤ level then return left
              discard next
              let right ← binary steps tightness (← unary steps)
              binary steps level (← binaryExpression operator left right)
          | none => return left
      | _ => return left

/-- Read an operand with the operators before it. -/
def unary : Nat → Reader Expression
  | 0 => outOfSteps
  | steps + 1 => do
      let placed ← peekPlaced
      match placed.lexeme with
      | .mark "+" =>
          discard next
          unary steps
      | .mark "++" =>
          discard next
          let operand ← unary steps
          return .step (← tagged (spanOf placed)) .add false operand
      | .mark "--" =>
          discard next
          let operand ← unary steps
          return .step (← tagged (spanOf placed)) .subtract false operand
      | .mark sign =>
          match UnaryOperator.ofMark? sign with
          | some operator =>
              discard next
              let operand ← unary steps
              return .unary (← tagged ((spanOf placed).join operand.span)) operator operand
          | none => operand steps
      | _ => operand steps

/-- Read an operand with the operators after it. -/
def operand : Nat → Reader Expression
  | 0 => outOfSteps
  | steps + 1 => do
      if ← typeFollows then
        let (type, span) ← type steps
        discard (expect (.mark "("))
        let (values, stop) ← arguments steps
        let span := span.join stop
        let type ← closeArray type values.length span
        accessors steps (.call (← tagged span) (.constructor type) values)
      else
        let placed ← next
        if isIdentifier placed.lexeme then
          accessors steps (← named placed steps)
        else if placed.lexeme = .mark "(" then
          let inner ← expression steps
          discard (expect (.mark ")"))
          accessors steps inner
        else
          match literal? placed.lexeme with
          | some literal => accessors steps (.literal (← tagged (spanOf placed)) literal)
          | none => noExpression placed

/-- Read what begins with an identifier: a call or a variable. -/
def named (placed : PlacedLexeme) : Nat → Reader Expression
  | 0 => outOfSteps
  | steps + 1 => do
      let name := placed.lexeme.name
      let span := spanOf placed
      if ← skip (.mark "(") then
        let (values, stop) ← arguments steps
        let callee ← calleeOf name
        return .call (← tagged (span.join stop)) callee values
      else
        match ← findVariable? name span with
        | some meaning => return .named (← tagged span) meaning
        | none => refuse span ("Unknown variable: " ++ name)

/-- Read the operators after an operand: indices, fields, methods and counting. -/
def accessors : Nat → Expression → Reader Expression
  | 0, _ => outOfSteps
  | steps + 1, base => do
      let placed ← peekPlaced
      let span := spanOf placed
      match placed.lexeme with
      | .mark "[" =>
          discard next
          let index ← expression steps
          let stop ← expect (.mark "]")
          accessors steps (.access (← tagged (span.join stop)) base index)
      | .mark "." =>
          discard next
          let (name, stop) ← identifier
          if ← skip (.mark "(") then
            let (values, stop) ← arguments steps
            accessors steps (.method (← tagged (span.join stop)) base name values)
          else
            accessors steps (.field (← tagged (span.join stop)) base name)
      | .mark "++" =>
          discard next
          accessors steps (.step (← tagged span) .add true base)
      | .mark "--" =>
          discard next
          accessors steps (.step (← tagged span) .subtract true base)
      | _ => return base

/-- Read the arguments of a call after its bracket; the result also holds the closing one. -/
def arguments : Nat → Reader (List Expression × Span)
  | 0 => outOfSteps
  | steps + 1 => do
      match ← skip? (.mark ")") with
      | some stop => return ([], stop)
      | none => moreArguments steps

/-- Read at least one argument and the bracket after the last one. -/
def moreArguments : Nat → Reader (List Expression × Span)
  | 0 => outOfSteps
  | steps + 1 => do
      let first ← assignment steps
      let placed ← next
      match placed.lexeme with
      | .mark "," =>
          let (others, stop) ← moreArguments steps
          return (first :: others, stop)
      | .mark ")" => return ([first], spanOf placed)
      | _ => unexpected ["Comma", "RightParen"] placed

/-- Read a constant expression; the result is its node among the constants. -/
def constant : Nat → Reader PlacedValue
  | 0 => outOfSteps
  | steps + 1 =>
      asConstant do
        let found ← conditional steps (← unary steps)
        evaluate .value found

/-- Read a constant number. -/
def constantNumber : Nat → Reader (Nat × Span)
  | 0 => outOfSteps
  | steps + 1 => do
      let (node, span) ← constant steps
      return (← sizeOfConstant node span, span)

/-- Read sizes of arrays of a type, if there are; the result is the type and its place. -/
def dimensions (type : TypeId) (span : Span) : Nat → Reader (TypeId × Span)
  | 0 => outOfSteps
  | steps + 1 => do
      match ← skip? (.mark "[") with
      | none => return (type, span)
      | some _ =>
          let (size, stop) ←
            match ← skip? (.mark "]") with
            | some stop => pure (none, stop)
            | none =>
                let (size, place) ← constantNumber steps
                if size = 0 then
                  refuse place "Array size must be greater than zero"
                pure (some size, ← expect (.mark "]"))
          let (element, span) ← dimensions type (span.join stop) steps
          return (← arrayType element size, span)

/-- Read a type; the result is its number, which void has none of, and its place. -/
def typeOrVoid : Nat → Reader (Option TypeId × Span)
  | 0 => outOfSteps
  | steps + 1 => do
      let placed ← next
      let span := spanOf placed
      match placed.lexeme with
      | .word "void" => return (none, span)
      | .word "struct" =>
          let type ← recordType steps
          let (type, span) ← dimensions type span steps
          return (some type, span)
      | lexeme =>
          let name := lexeme.name
          let type ←
            if isTypeName name then
              typeOfForm ((typeForm? name).getD (.single .bool))
            else if isIdentifier lexeme then
              match (← get).typeNames.lookup name with
              | some type => pure type
              | none => refuse span ("Unknown type: " ++ name)
            else unexpected ["Void", "Struct", "a type"] placed
          let (type, span) ← dimensions type span steps
          return (some type, span)

/-- Read a structure after its keyword. -/
def recordType : Nat → Reader TypeId
  | 0 => outOfSteps
  | steps + 1 => do
      let (name, _) ← identifier
      discard (expect (.mark "\x7b"))
      let found ← members .aligned {} steps
      discard (expect (.mark "\x7d"))
      let type ← insertType { name := some name, form := .record found.members (← found.span) }
      modify fun state => { state with typeNames := (name, type) :: state.typeNames }
      return type

/-- Read a type that something has; the result is its number and its place. -/
def type : Nat → Reader (TypeId × Span)
  | 0 => outOfSteps
  | steps + 1 => do
      match ← typeOrVoid steps with
      | (some type, span) => return (type, span)
      | (none, span) => refuse span "Type can't be void"

/-- Read members, of which there are some, up to a closing brace. -/
def members (rule : PlacementRule) (found : PlacedMembers) : Nat → Reader PlacedMembers
  | 0 => outOfSteps
  | steps + 1 => do
      let (type, span) ← type steps
      let found ← memberNames rule found type span steps
      discard (expect (.mark ";"))
      if (← peek) = .mark "\x7d" then
        return found
      members rule found steps

/-- Read the names of members of one type. -/
def memberNames (rule : PlacementRule) (found : PlacedMembers) (base : TypeId) (span : Span) :
    Nat → Reader PlacedMembers
  | 0 => outOfSteps
  | steps + 1 => do
      let (name, nameSpan) ← identifier
      let (type, span) ← dimensions base span steps
      let span := span.join nameSpan
      let found ← placeMember rule found name type span
      if ← skip (.mark ",") then
        memberNames rule found base span steps
      else return found

end

/-! ### Statements of one expression -/

/-- Read an expression and evaluate it, which need not have a value. -/
def effect (steps : Nat) : Reader Unit := do
  restartNumbers
  let found ← expression steps
  discard (evaluate? .value found)

/-- Read an expression, which has a value, and then something else before it is evaluated. -/
def valueThen (steps : Nat) (rest : Reader Unit) : Reader PlacedValue := do
  restartNumbers
  let found ← expression steps
  rest
  evaluate .value found

/-- Read an expression and evaluate it. -/
def value (steps : Nat) : Reader PlacedValue :=
  valueThen steps (pure ())

end ShaderBuild.Glsl.Reader
