import ShaderBuild.Glsl.Reader.FunctionDefinition

namespace ShaderBuild.Glsl.Reader

/-!
# Reading statements

Statements and the declarations of functions, which consist of them. What follows a
jump in its block is read, but is no part of the program.
-/

/-- How many statements the block that is read has so far. -/
def statementCount : Reader Nat := do
  return (← draft).body.size

/-- The first of two ends of a block, if there is one. -/
def firstEnd (earlier : Option Nat) (later : Nat) : Option Nat :=
  some (earlier.getD later)

/-- Leave out the statements of the block that is read from an end on. -/
def cutBody (stop : Option Nat) : Reader Unit :=
  match stop with
  | some stop => modifyDraft fun draft => { draft with body := draft.body.take stop }
  | none => return

/-- Add a jump; the result is the end of the block, at the first jump in it. -/
def jump (statement : Statement) (earlier : Option Nat) : Reader (Option Nat) := do
  perform statement
  return firstEnd earlier (← statementCount)

/-- Leave the loop that is read unless a condition holds. -/
def leaveUnless (condition : NodeId) (span : Span) : Reader Unit := do
  let isOver ← addNode (.unary .logicalNot condition) span
  flushNodes
  perform (.choice isOver [.leave] [])

/-- Whether a declaration follows in a function; a type before a bracket begins an expression. -/
def declarationFollows : Reader Bool := do
  if ← qualifierFollows then
    return true
  if ← typeFollows then
    let placed ← next
    let after ← peek
    putBack placed
    return after ≠ .mark "("
  return false

/-! ### Cases of a switch -/

/-- The label that a constant is for a selector. -/
def label (isUnsigned : Bool) (value : PlacedValue) : Reader CaseLabel := do
  let program ← program
  match program.literalAt? program.values value.1 with
  | some (.int value) => return if isUnsigned then .uint (value % wordCount).toNat else .int value
  | some (.uint value) => return .uint value
  | _ =>
      note value.2 "Case values can only be integers"
      return .int 0

/-- The end of a case, of which a break at the end is no part; also whether it falls through. -/
def caseEnd (body : Array Statement) (stop : Option Nat) : Option Nat × Bool :=
  match stop with
  | none => (none, true)
  | some stop =>
      match body[stop - 1]? with
      | some .leave => (some (stop - 1), false)
      | _ => (some stop, true)

/-- The cases of a switch, of which the last has statements and does not fall through. -/
def closeCases (cases : List Case) (span : Span) : Reader (List Case) := do
  match cases.getLast? with
  | none => return []
  | some (.mk label body fallsThrough) =>
      if body.isEmpty && fallsThrough then
        note span "last case/default label must be followed by statements"
      return cases.dropLast ++ [.mk label body false]

/-- The cases of a switch with one for all other values. -/
def withDefault (cases : List Case) : List Case :=
  if cases.any (·.label = .otherwise) then cases else cases ++ [.mk .otherwise [] false]

/-! ### Statements -/

mutual

/--
Read a declaration if one follows: of variables, of a type or of a function. The
result says whether one followed.
-/
def declaration? (site : DeclarationSite) : Nat → Reader Bool
  | 0 => outOfSteps
  | steps + 1 => do
      if !((← qualifierFollows) || (← typeFollows)) then
        if ← skip (.word "precision") then
          precision steps
          return true
        return false
      let qualifiers ← qualifiersFrom {} steps
      if !(← typeFollows) then
        untyped qualifiers steps
        return true
      let (type, span) ← typeOrVoid steps
      let placed ← next
      if isIdentifier placed.lexeme && (← peek) = .mark "(" then
        discard next
        function site.isGlobal type span placed.lexeme.name steps
        return true
      match type with
      | none => note span "Declaration cannot have void type"
      | some type =>
          putBack placed
          discard (skip (.mark ","))
          declarators site qualifiers type steps
      return true

/-- Read a function after the bracket that opens its parameters. -/
def function (isGlobal : Bool) (result : Option TypeId) (span : Span) (name : String) :
    Nat → Reader Unit
  | 0 => outOfSteps
  | steps + 1 => do
      let ((stop, isDefined), read) ← inDraft false (functionRest isGlobal steps)
      let span := span.join stop
      if isDefined then addFunction name result span read
      else addPrototype name result span read

/-- Read a function's parameters and what follows them; the result says whether it has a body. -/
def functionRest (isGlobal : Bool) : Nat → Reader (Span × Bool)
  | 0 => outOfSteps
  | steps + 1 => do
      parameterList steps
      let stop ← expect (.mark ")")
      let placed ← next
      match placed.lexeme, isGlobal with
      | .mark ";", _ => return (stop, false)
      | .mark "\x7b", true =>
          discard (compound false none steps)
          return (stop, true)
      | _, true => unexpected ["LeftBrace", "Semicolon"] placed
      | _, false => unexpected ["Semicolon"] placed

/--
Read statements up to a closing brace, in a scope of their own. The result is the end
of the block, if there is a jump in it.
-/
def compound (inLoop : Bool) (stop : Option Nat) : Nat → Reader (Option Nat)
  | 0 => outOfSteps
  | steps + 1 =>
      inScope do
        let stop ← statements inLoop stop steps
        cutBody stop
        return stop

/-- Read statements up to a closing brace. -/
def statements (inLoop : Bool) (stop : Option Nat) : Nat → Reader (Option Nat)
  | 0 => outOfSteps
  | steps + 1 => do
      if ← skip (.mark "\x7d") then
        return stop
      let stop ← statement inLoop stop steps
      statements inLoop stop steps

/-- Read the cases of a switch up to its closing brace; the result also holds its place. -/
def cases (inLoop isUnsigned : Bool) : Nat → Reader (List Case × Span)
  | 0 => outOfSteps
  | steps + 1 => do
      let placed ← next
      match placed.lexeme with
      | .mark "\x7d" => return ([], spanOf placed)
      | .word "case" =>
          let value ← constant steps
          labelled inLoop isUnsigned (← label isUnsigned value) steps
      | .word "default" => labelled inLoop isUnsigned .otherwise steps
      | _ => unexpected ["Case", "Default", "RightBrace"] placed

/-- Read the statements of a case after its label, and the cases that follow. -/
def labelled (inLoop isUnsigned : Bool) (label : CaseLabel) : Nat → Reader (List Case × Span)
  | 0 => outOfSteps
  | steps + 1 => do
      discard (expect (.mark ":"))
      let (body, fallsThrough) ← inBlock do
        let stop ← caseStatements inLoop none steps
        let (stop, fallsThrough) := caseEnd (← draft).body stop
        cutBody stop
        return fallsThrough
      let (others, stop) ← cases inLoop isUnsigned steps
      return (.mk label body fallsThrough :: others, stop)

/-- Read statements up to the next case. -/
def caseStatements (inLoop : Bool) (stop : Option Nat) : Nat → Reader (Option Nat)
  | 0 => outOfSteps
  | steps + 1 => do
      match ← peek with
      | .word "case" | .word "default" | .mark "\x7d" => return stop
      | _ =>
          let stop ← statement inLoop stop steps
          caseStatements inLoop stop steps

/-- Read a statement; the result is the end of the block that it is in, if there is a jump. -/
def statement (inLoop : Bool) (stop : Option Nat) : Nat → Reader (Option Nat)
  | 0 => outOfSteps
  | steps + 1 => do
      if ← declarationFollows then
        discard (declaration? ⟨false, inLoop⟩ steps)
        return stop
      match ← peek with
      | .word "continue" =>
          discard next
          let stop ← jump .again stop
          discard (expect (.mark ";"))
          return stop
      | .word "break" =>
          discard next
          let stop ← jump .leave stop
          discard (expect (.mark ";"))
          return stop
      | .word "discard" =>
          discard next
          let stop ← jump .discard stop
          discard (expect (.mark ";"))
          return stop
      | .word "return" =>
          discard next
          let result ←
            if ← skip (.mark ";") then pure none
            else do
              let (result, _) ← valueThen steps (discard (expect (.mark ";")))
              pure (some result)
          flushNodes
          jump (.return result) stop
      | .word "if" =>
          discard next
          choice inLoop steps
          return stop
      | .word "switch" =>
          let placed ← next
          switch inLoop (spanOf placed) steps
          return stop
      | .word "while" =>
          discard next
          whileLoop steps
          return stop
      | .word "do" =>
          discard next
          doLoop steps
          return stop
      | .word "for" =>
          discard next
          inScope (forLoop steps)
          return stop
      | .mark "\x7b" =>
          discard next
          let (body, inner) ← inBlock (compound inLoop none steps)
          perform (.block body)
          if inner.isNone then return stop
          return firstEnd stop (← statementCount)
      | .mark ";" =>
          discard next
          return stop
      | _ =>
          effect steps
          discard (expect (.mark ";"))
          return stop

/-- Read a choice after its keyword. -/
def choice (inLoop : Bool) : Nat → Reader Unit
  | 0 => outOfSteps
  | steps + 1 => do
      discard (expect (.mark "("))
      let (condition, _) ← value steps
      discard (expect (.mark ")"))
      let (accepted, _) ← inBlock (statement inLoop none steps)
      let (rejected, _) ← inBlock do
        if ← skip (.word "else") then
          discard (statement inLoop none steps)
      perform (.choice condition accepted rejected)

/-- Read a switch after its keyword. -/
def switch (inLoop : Bool) (span : Span) : Nat → Reader Unit
  | 0 => outOfSteps
  | steps + 1 => do
      discard (expect (.mark "("))
      let (selector, selectorSpan) ← value steps
      let isUnsigned := (← formOf selector selectorSpan).kind? = some .uint
      discard (expect (.mark ")"))
      flushNodes
      discard (expect (.mark "\x7b"))
      let (found, stop) ← cases inLoop isUnsigned steps
      let found ← closeCases found (span.join stop)
      perform (.switch selector (withDefault found))

/-- Read a loop whose condition comes first, after its keyword. -/
def whileLoop : Nat → Reader Unit
  | 0 => outOfSteps
  | steps + 1 => do
      let (body, _) ← inBlock do
        discard (expect (.mark "("))
        let (condition, span) ← valueThen steps (discard (expect (.mark ")")))
        leaveUnless condition span
        discard (statement true none steps)
      perform (.loop body [])

/-- Read a loop whose condition comes last, after its keyword. -/
def doLoop : Nat → Reader Unit
  | 0 => outOfSteps
  | steps + 1 => do
      let (body, _) ← inBlock do
        let stop ← statement true none steps
        discard (expect (.word "while"))
        discard (expect (.mark "("))
        let (condition, span) ← valueThen steps (discard (expect (.mark ")")))
        leaveUnless condition span
        cutBody stop
      perform (.loop body [])

/-- Read a loop with a start, a condition and an advance, after its keyword. -/
def forLoop : Nat → Reader Unit
  | 0 => outOfSteps
  | steps + 1 => do
      discard (expect (.mark "("))
      forStart steps
      let (test, _) ← inBlock (forTest steps)
      let (advance, _) ← inBlock do
        if (← peek) ≠ .mark ")" then
          effect steps
      discard (expect (.mark ")"))
      let (body, _) ← inBlockFrom test (statement true none steps)
      perform (.loop body advance)

/-- Read what a loop starts with, up to the semicolon. -/
def forStart : Nat → Reader Unit
  | 0 => outOfSteps
  | steps + 1 => do
      if ← skip (.mark ";") then
        return
      if (← typeFollows) || (← qualifierFollows) then
        discard (declaration? ⟨false, false⟩ steps)
      else
        effect steps
        discard (expect (.mark ";"))

/-- Read the condition of a loop, up to the semicolon. -/
def forTest : Nat → Reader Unit
  | 0 => outOfSteps
  | steps + 1 => do
      if ← skip (.mark ";") then
        return
      let (condition, span) ←
        if (← typeFollows) || (← qualifierFollows) then declaredCondition steps
        else value steps
      leaveUnless condition span
      discard (expect (.mark ";"))

/-- Read a condition that is kept in a variable. -/
def declaredCondition : Nat → Reader PlacedValue
  | 0 => outOfSteps
  | steps + 1 => do
      let qualifiers ← qualifiersFrom {} steps
      let (type, span) ← type steps
      let (name, _) ← identifier
      discard (expect (.mark "="))
      let (value, stop) ← initializer type steps
      let place ← declareLocal qualifiers
        { name := some name, span := span.join stop, type := type }
      flushNodes
      perform (.store place value)
      return (value, stop)

end

end ShaderBuild.Glsl.Reader
