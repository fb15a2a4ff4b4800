import ShaderBuild.Condition.Expr

namespace ShaderBuild.Condition

/-!
# The grammar of conditions

`Phrase` says which expression tokens denote, by the rules of precedence and without
a parser. A name may have a replacement text; then it stands for what that text
denotes at the same place, so the text has to bind as tightly as its place demands.
Where no name has a text, the parser finds exactly what the grammar allows.
-/

/-- The replacement texts of names. -/
abbrev Definitions := String → Option (List Char)

/-- No name is replaced. -/
def Definitions.none : Definitions := fun _ => Option.none

/-- No operation between two operands binds tighter than this level. -/
def tightest : Nat := 10

/--
The tokens denote an expression whose operations outside parentheses bind tighter
than `level`, when texts are put in place of names at most `nesting` deep.
-/
inductive Phrase (texts : Definitions) :
    (nesting level : Nat) → List Token → Expr → Prop where
  | number {nesting level : Nat} {value : Int64} :
      Phrase texts nesting level [.number value] (.number value)
  | name
      {nesting level : Nat} {name : String}
      (isName : name ≠ "defined")
      (noText : texts name = none) :
      Phrase texts nesting level [.identifier name] (.identifier name)
  | replaced
      {nesting level : Nat} {name : String} {text : List Char} {body : List Token}
      {expr : Expr}
      (isName : name ≠ "defined")
      (hasText : texts name = some text)
      (hasTokens : tokenize? text = some body)
      (denotes : Phrase texts nesting level body expr) :
      Phrase texts (nesting + 1) level [.identifier name] expr
  | test {nesting level : Nat} {name : String} :
      Phrase texts nesting level
        [.identifier "defined", .identifier name] (.defined name)
  | testGroup {nesting level : Nat} {name : String} :
      Phrase texts nesting level
        [.identifier "defined", .openParen, .identifier name, .closeParen] (.defined name)
  | group
      {nesting level : Nat} {tokens : List Token} {expr : Expr}
      (inside : Phrase texts nesting 0 tokens expr) :
      Phrase texts nesting level (.openParen :: (tokens ++ [.closeParen])) expr
  | unary
      {nesting level : Nat} {sign : Operator} {op : UnaryOp} {tokens : List Token}
      {expr : Expr}
      (isUnary : sign.unary? = some op)
      (operand : Phrase texts nesting tightest tokens expr) :
      Phrase texts nesting level (.operator sign :: tokens) (.unary op expr)
  | binary
      {nesting level : Nat} {sign : Operator} {op : BinaryOp} {lefts rights : List Token}
      {left right : Expr}
      (isBinary : sign.binary? = some op)
      (binds : level < op.precedence)
      (leftOperand : Phrase texts nesting (op.precedence - 1) lefts left)
      (rightOperand : Phrase texts nesting op.precedence rights right) :
      Phrase texts nesting level
        (lefts ++ .operator sign :: rights) (.binary op left right)

theorem BinaryOp.precedence_pos (op : BinaryOp) : 0 < op.precedence := by
  cases op <;> decide

theorem BinaryOp.precedence_le_tightest (op : BinaryOp) : op.precedence ≤ tightest := by
  cases op <;> decide

namespace Phrase

variable {texts : Definitions} {nesting level : Nat} {tokens : List Token} {expr : Expr}

/-- What denotes an expression denotes it wherever operations may bind less tightly. -/
theorem loosen
    {looser : Nat}
    (phrase : Phrase texts nesting level tokens expr)
    (isLooser : looser ≤ level) :
    Phrase texts nesting looser tokens expr := by
  induction phrase with
  | number =>
      exact .number
  | name isName noText =>
      exact .name isName noText
  | replaced isName hasText hasTokens denotes inductionHypothesis =>
      exact .replaced isName hasText hasTokens (inductionHypothesis isLooser)
  | test =>
      exact .test
  | testGroup =>
      exact .testGroup
  | group inside _ =>
      exact .group inside
  | unary isUnary operand _ =>
      exact .unary isUnary operand
  | binary isBinary binds leftOperand rightOperand _ _ =>
      exact .binary isBinary (Nat.lt_of_le_of_lt isLooser binds) leftOperand rightOperand

theorem tokens_ne_nil (phrase : Phrase texts nesting level tokens expr) : tokens ≠ [] := by
  induction phrase with
  | binary =>
      simp
  | _ =>
      exact List.cons_ne_nil _ _

end Phrase

/-- No operation that binds tighter than `level` comes first. -/
def EndsAt (level : Nat) (tokens : List Token) : Prop :=
  ∀ sign op others,
    tokens = .operator sign :: others → sign.binary? = some op → op.precedence ≤ level

namespace EndsAt

variable {level : Nat} {tokens : List Token}

theorem nil (level : Nat) : EndsAt level [] := by
  intro sign op others isCons
  cases isCons

theorem closeParen (level : Nat) (tokens : List Token) :
    EndsAt level (.closeParen :: tokens) := by
  intro sign op others isCons
  cases isCons

theorem mono
    {tighter : Nat}
    (ends : EndsAt level tokens)
    (isTighter : level ≤ tighter) :
    EndsAt tighter tokens :=
  fun sign op others isCons isBinary =>
    Nat.le_trans (ends sign op others isCons isBinary) isTighter

theorem operator
    {sign : Operator}
    {op : BinaryOp}
    (isBinary : sign.binary? = some op)
    (weak : op.precedence ≤ level)
    (others : List Token) :
    EndsAt level (.operator sign :: others) := by
  intro sign' op' others' isCons isBinary'
  cases isCons
  rw [isBinary] at isBinary'
  cases isBinary'
  exact weak

end EndsAt

namespace Expr

/-! ### Steps of the parser -/

/-- How an operand is read off the front of some tokens, with `fuel` for what is inside. -/
inductive ReadsOperand (fuel : Nat) : List Token → Expr → List Token → Prop where
  | number {value : Int64} {rest : List Token} :
      ReadsOperand fuel (.number value :: rest) (.number value) rest
  | name
      {name : String} {rest : List Token}
      (isName : name ≠ "defined") :
      ReadsOperand fuel (.identifier name :: rest) (.identifier name) rest
  | test {name : String} {rest : List Token} :
      ReadsOperand fuel
        (.identifier "defined" :: .identifier name :: rest) (.defined name) rest
  | testGroup {name : String} {rest : List Token} :
      ReadsOperand fuel
        (.identifier "defined" :: .openParen :: .identifier name :: .closeParen :: rest)
        (.defined name) rest
  | group
      {tokens rest : List Token} {expr : Expr}
      (inside : expression fuel 0 tokens = some (expr, .closeParen :: rest)) :
      ReadsOperand fuel (.openParen :: tokens) expr rest
  | unary
      {sign : Operator} {op : UnaryOp} {tokens rest : List Token} {expr : Expr}
      (isUnary : sign.unary? = some op)
      (reads : operand fuel tokens = some (expr, rest)) :
      ReadsOperand fuel (.operator sign :: tokens) (.unary op expr) rest

section

variable
  {fuel level : Nat} {sign : Operator} {op : BinaryOp} {expr left : Expr}
  {tokens rest : List Token}

theorem operand_eq_some_iff :
    operand (fuel + 1) tokens = some (expr, rest) ↔ ReadsOperand fuel tokens expr rest := by
  constructor
  · intro reads
    cases tokens with
    | nil =>
        cases reads
    | cons token tokens =>
        cases token with
        | number value =>
            cases reads
            exact .number
        | closeParen =>
            cases reads
        | openParen =>
            simp only [operand] at reads
            split at reads
            · rename_i inside
              cases reads
              exact .group inside
            · cases reads
        | operator sign =>
            simp only [operand] at reads
            split at reads
            · rename_i isUnary readsInner
              cases reads
              exact .unary isUnary readsInner
            · cases reads
        | identifier name =>
            simp only [operand] at reads
            split at reads
            · rename_i isTest
              subst isTest
              split at reads
              · cases reads
                exact .test
              · cases reads
                exact .testGroup
              · cases reads
            · rename_i isName
              cases reads
              exact .name isName
  · intro reads
    cases reads with
    | number | test | testGroup =>
        rfl
    | name isName =>
        simp [operand, isName]
    | group inside =>
        simp [operand, inside]
    | unary isUnary reads =>
        simp [operand, isUnary, reads]

theorem expression_eq_some_iff {found : Expr × List Token} :
    expression (fuel + 1) level tokens = some found ↔
      ∃ left others,
        operand fuel tokens = some (left, others) ∧ climb fuel level left others = some found := by
  rw [expression]
  cases reads : operand fuel tokens with
  | none =>
      simp
  | some first =>
      constructor
      · intro climbs
        exact ⟨first.1, first.2, rfl, climbs⟩
      · rintro ⟨left, others, isFirst, climbs⟩
        cases isFirst
        exact climbs

/-- Operations that do not bind tightly enough are left. -/
theorem climb_of_endsAt (ends : EndsAt level tokens) :
    climb (fuel + 1) level left tokens = some (left, tokens) := by
  unfold climb
  split
  · rename_i sign others
    split
    · rename_i op isBinary
      rw [if_pos (ends sign op others rfl isBinary)]
    · rfl
  · rfl

/-- An operation that binds tightly enough takes the operand on its left. -/
theorem climb_eq_some_iff
    {found : Expr × List Token}
    (isBinary : sign.binary? = some op)
    (binds : level < op.precedence) :
    climb (fuel + 1) level left (.operator sign :: tokens) = some found ↔
      ∃ right others,
        expression fuel op.precedence tokens = some (right, others) ∧
          climb fuel level (.binary op left right) others = some found := by
  simp only [climb, isBinary, if_neg (Nat.not_le_of_lt binds)]
  cases reads : expression fuel op.precedence tokens with
  | none =>
      simp
  | some first =>
      constructor
      · intro climbs
        exact ⟨first.1, first.2, rfl, climbs⟩
      · rintro ⟨right, others, isFirst, climbs⟩
        cases isFirst
        exact climbs

theorem endsAt_or_binds (level : Nat) (tokens : List Token) :
    EndsAt level tokens ∨
      ∃ sign op others,
        tokens = .operator sign :: others ∧ sign.binary? = some op ∧ level < op.precedence := by
  by_cases ends : EndsAt level tokens
  · exact .inl ends
  · simp only [EndsAt, Classical.not_forall, Nat.not_le] at ends
    obtain ⟨sign, op, others, isCons, isBinary, binds⟩ := ends
    exact .inr ⟨sign, op, others, isCons, isBinary, binds⟩

end

/-- What the parser finds with some fuel it finds with more. -/
theorem more_fuel (fuel : Nat) :
    (∀ {more tokens expr rest}, fuel ≤ more →
        operand fuel tokens = some (expr, rest) → operand more tokens = some (expr, rest)) ∧
      (∀ {more level tokens expr rest}, fuel ≤ more →
        expression fuel level tokens = some (expr, rest) →
          expression more level tokens = some (expr, rest)) ∧
      ∀ {more level left tokens expr rest}, fuel ≤ more →
        climb fuel level left tokens = some (expr, rest) →
          climb more level left tokens = some (expr, rest) := by
  induction fuel with
  | zero =>
      refine ⟨fun _ finds => ?_, fun _ finds => ?_, fun _ finds => ?_⟩
      · cases finds
      · cases finds
      · cases finds
  | succ fuel inductionHypothesis =>
      obtain ⟨operandMore, expressionMore, climbMore⟩ := inductionHypothesis
      have step {more : Nat} (enough : fuel + 1 ≤ more) :
          ∃ less, more = less + 1 ∧ fuel ≤ less :=
        ⟨more - 1, by omega, by omega⟩
      refine ⟨?_, ?_, ?_⟩
      · intro more tokens expr rest enough finds
        obtain ⟨more, rfl, below⟩ := step enough
        rw [operand_eq_some_iff] at finds ⊢
        cases finds with
        | number =>
            exact .number
        | name isName =>
            exact .name isName
        | test =>
            exact .test
        | testGroup =>
            exact .testGroup
        | group inside =>
            exact .group (expressionMore below inside)
        | unary isUnary reads =>
            exact .unary isUnary (operandMore below reads)
      · intro more level tokens expr rest enough finds
        obtain ⟨more, rfl, below⟩ := step enough
        obtain ⟨left, others, reads, climbs⟩ := expression_eq_some_iff.mp finds
        exact expression_eq_some_iff.mpr
          ⟨left, others, operandMore below reads, climbMore below climbs⟩
      · intro more level left tokens expr rest enough finds
        obtain ⟨more, rfl, below⟩ := step enough
        rcases endsAt_or_binds level tokens with
          ends | ⟨sign, op, others, rfl, isBinary, binds⟩
        · rw [climb_of_endsAt ends] at finds ⊢
          exact finds
        · obtain ⟨right, others, reads, climbs⟩ := (climb_eq_some_iff isBinary binds).mp finds
          exact (climb_eq_some_iff isBinary binds).mpr
            ⟨right, others, expressionMore below reads, climbMore below climbs⟩

/-! ### The parser finds what the grammar allows -/

/-- The tokens are read as one operand, whatever follows them. -/
def IsOperand (tokens : List Token) (expr : Expr) : Prop :=
  ∀ {fuel} rest, 3 * tokens.length ≤ fuel + 2 → operand fuel (tokens ++ rest) = some (expr, rest)

/--
The tokens are read as a left operand, whatever follows them but an operation that
would take a part of them.
-/
def IsLeftOperand (level : Nat) (tokens : List Token) (expr : Expr) : Prop :=
  ∀ {looser fuel rest others found},
    looser ≤ level → EndsAt (level + 1) rest →
      climb fuel looser expr rest = some (found, others) →
        expression (fuel + 3 * tokens.length) looser (tokens ++ rest) = some (found, others)

theorem IsOperand.isLeftOperand
    {tokens : List Token}
    {expr : Expr}
    (isOperand : IsOperand tokens expr)
    (nonempty : tokens ≠ [])
    (level : Nat) :
    IsLeftOperand level tokens expr := by
  intro looser fuel rest others found _ _ climbs
  have someTokens : 0 < tokens.length := List.length_pos_iff.mpr nonempty
  obtain ⟨less, isLess⟩ : ∃ less, fuel + 3 * tokens.length = less + 1 :=
    ⟨fuel + 3 * tokens.length - 1, by omega⟩
  rw [isLess]
  exact expression_eq_some_iff.mpr
    ⟨expr, rest, isOperand rest (by omega), (more_fuel fuel).2.2 (by omega) climbs⟩

/-- What is read as a left operand is an expression by itself. -/
theorem expression_of_isLeftOperand
    {level fuel : Nat}
    {tokens rest : List Token}
    {expr : Expr}
    (isLeft : IsLeftOperand level tokens expr)
    (ends : EndsAt level rest)
    (enough : 3 * tokens.length < fuel) :
    expression fuel level (tokens ++ rest) = some (expr, rest) := by
  have climbs : climb 1 level expr rest = some (expr, rest) := climb_of_endsAt ends
  have reads := isLeft (Nat.le_refl level) (ends.mono (Nat.le_succ level)) climbs
  exact (more_fuel _).2.1 (by omega) reads

theorem isOperand_of_reads
    {tokens : List Token}
    {expr : Expr}
    (nonempty : tokens ≠ [])
    (reads :
      ∀ {fuel} rest, 3 * tokens.length ≤ fuel + 3 →
        ReadsOperand fuel (tokens ++ rest) expr rest) :
    IsOperand tokens expr := by
  intro fuel rest enough
  have someTokens : 0 < tokens.length := List.length_pos_iff.mpr nonempty
  obtain ⟨less, rfl⟩ : ∃ less, fuel = less + 1 := ⟨fuel - 1, by omega⟩
  exact operand_eq_some_iff.mpr (reads rest enough)

/-- The parser reads a phrase as a left operand, and as an operand if nothing binds tighter. -/
theorem reads_phrase
    {nesting level : Nat}
    {tokens : List Token}
    {expr : Expr}
    (phrase : Phrase .none nesting level tokens expr) :
    IsLeftOperand level tokens expr ∧ (tightest ≤ level → IsOperand tokens expr) := by
  have both {level : Nat} {tokens : List Token} {expr : Expr}
      (phrase : Phrase .none nesting level tokens expr)
      (isOperand : IsOperand tokens expr) :
      IsLeftOperand level tokens expr ∧ (tightest ≤ level → IsOperand tokens expr) :=
    ⟨isOperand.isLeftOperand phrase.tokens_ne_nil level, fun _ => isOperand⟩
  induction phrase with
  | number =>
      exact both .number (isOperand_of_reads (by simp) fun rest _ => .number)
  | name isName noText =>
      exact both (.name isName noText) (isOperand_of_reads (by simp) fun rest _ => .name isName)
  | replaced isName hasText =>
      cases hasText
  | test =>
      exact both .test (isOperand_of_reads (by simp) fun rest _ => .test)
  | testGroup =>
      exact both .testGroup (isOperand_of_reads (by simp) fun rest _ => .testGroup)
  | @group nesting level tokens expr inside inductionHypothesis =>
      refine both (.group inside) (isOperand_of_reads (by simp) fun {fuel} rest enough => ?_)
      simp only [List.length_cons, List.length_append] at enough
      rw [List.cons_append, List.append_assoc]
      exact .group (expression_of_isLeftOperand (inductionHypothesis both).1
        (.closeParen 0 rest) (by omega))
  | unary isUnary operand inductionHypothesis =>
      refine both (.unary isUnary operand)
        (isOperand_of_reads (by simp) fun {fuel} rest enough => ?_)
      simp only [List.length_cons] at enough
      exact .unary isUnary ((inductionHypothesis both).2 (Nat.le_refl _) rest (by omega))
  | @binary nesting level sign op lefts rights left right isBinary binds leftOperand
      rightOperand leftHypothesis rightHypothesis =>
      have positive := op.precedence_pos
      refine ⟨?_, fun isTightest => ?_⟩
      · intro looser fuel rest others found isLooser ends climbs
        have rightReads :
            expression (fuel + 2 + 3 * rights.length) op.precedence (rights ++ rest) =
              some (right, rest) :=
          expression_of_isLeftOperand (rightHypothesis both).1 (ends.mono binds) (by omega)
        have climbsOn :
            climb (fuel + 2 + 3 * rights.length + 1) looser left
                (.operator sign :: (rights ++ rest)) = some (found, others) :=
          (climb_eq_some_iff isBinary (Nat.lt_of_le_of_lt isLooser binds)).mpr
            ⟨right, rest, rightReads, (more_fuel _).2.2 (by omega) climbs⟩
        have reads :=
          (leftHypothesis both).1 (Nat.le_trans isLooser (Nat.le_sub_one_of_lt binds))
            (.operator isBinary (by omega) _) climbsOn
        rw [List.append_assoc, List.cons_append]
        exact (more_fuel _).2.1
          (by simp only [List.length_append, List.length_cons]; omega) reads
      · have weak := op.precedence_le_tightest
        omega

/-- A phrase is an expression. -/
theorem ofTokens?_of_phrase
    {nesting : Nat}
    {tokens : List Token}
    {expr : Expr}
    (phrase : Phrase .none nesting 0 tokens expr) :
    ofTokens? tokens = some expr := by
  have reads : expression (enoughFuel tokens) 0 (tokens ++ []) = some (expr, []) :=
    expression_of_isLeftOperand (reads_phrase phrase).1 (.nil 0)
      (by simp only [enoughFuel]; omega)
  rw [List.append_nil] at reads
  simp only [ofTokens?, reads]

/-! ### The grammar allows what the parser finds -/

/--
What the parser reads is a phrase, and the tokens behind it leave it alone. A left
operand has to be one for the operation that takes it next.
-/
theorem phrase_of_reads (fuel : Nat) :
    (∀ {tokens expr rest}, operand fuel tokens = some (expr, rest) →
        ∃ front, tokens = front ++ rest ∧ ∀ level, Phrase .none 0 level front expr) ∧
      (∀ {level tokens expr rest}, expression fuel level tokens = some (expr, rest) →
        ∃ front, tokens = front ++ rest ∧ Phrase .none 0 level front expr ∧
          EndsAt level rest) ∧
      ∀ {level left lefts tokens expr rest}, climb fuel level left tokens = some (expr, rest) →
        (∀ looser, looser ≤ level ∨ ¬EndsAt looser tokens → Phrase .none 0 looser lefts left) →
          ∃ front, tokens = front ++ rest ∧ Phrase .none 0 level (lefts ++ front) expr ∧
            EndsAt level rest := by
  induction fuel with
  | zero =>
      refine ⟨fun reads => ?_, fun reads => ?_, fun climbs => ?_⟩
      · cases reads
      · cases reads
      · cases climbs
  | succ fuel inductionHypothesis =>
      obtain ⟨ofOperand, ofExpression, ofClimb⟩ := inductionHypothesis
      refine ⟨?_, ?_, ?_⟩
      · intro tokens expr rest reads
        cases operand_eq_some_iff.mp reads with
        | number =>
            exact ⟨[_], rfl, fun _ => .number⟩
        | name isName =>
            exact ⟨[_], rfl, fun _ => .name isName rfl⟩
        | test =>
            exact ⟨[_, _], rfl, fun _ => .test⟩
        | testGroup =>
            exact ⟨[_, _, _, _], rfl, fun _ => .testGroup⟩
        | group inside =>
            obtain ⟨front, rfl, phrase, -⟩ := ofExpression inside
            exact ⟨.openParen :: (front ++ [.closeParen]), by simp, fun _ => .group phrase⟩
        | unary isUnary readsInner =>
            obtain ⟨front, rfl, phrase⟩ := ofOperand readsInner
            exact ⟨_ :: front, rfl, fun _ => .unary isUnary (phrase tightest)⟩
      · intro level tokens expr rest reads
        obtain ⟨left, others, readsLeft, climbs⟩ := expression_eq_some_iff.mp reads
        obtain ⟨lefts, rfl, leftPhrase⟩ := ofOperand readsLeft
        obtain ⟨front, rfl, phrase, ends⟩ := ofClimb climbs fun looser _ => leftPhrase looser
        exact ⟨lefts ++ front, by rw [List.append_assoc], phrase, ends⟩
      · intro level left lefts tokens expr rest climbs leftPhrase
        rcases endsAt_or_binds level tokens with
          ends | ⟨sign, op, others, rfl, isBinary, binds⟩
        · rw [climb_of_endsAt ends] at climbs
          cases climbs
          refine ⟨[], rfl, ?_, ends⟩
          rw [List.append_nil]
          exact leftPhrase level (.inl (Nat.le_refl level))
        · obtain ⟨right, others, readsRight, climbsOn⟩ :=
            (climb_eq_some_iff isBinary binds).mp climbs
          obtain ⟨rights, rfl, rightPhrase, rightEnds⟩ := ofExpression readsRight
          have positive := op.precedence_pos
          have takesLeft : ¬EndsAt (op.precedence - 1) (.operator sign :: (rights ++ others)) := by
            intro ends
            have weak := ends sign op _ rfl isBinary
            omega
          have leftOperand := leftPhrase (op.precedence - 1) (.inr takesLeft)
          obtain ⟨front, rfl, phrase, ends⟩ :=
            @ofClimb level (.binary op left right) (lefts ++ .operator sign :: rights)
              others expr rest climbsOn fun looser isLooser => by
                refine .binary isBinary ?_ leftOperand rightPhrase
                rcases isLooser with isLooser | takes
                · exact Nat.lt_of_le_of_lt isLooser binds
                · exact Nat.lt_of_not_le fun isTighter => takes (rightEnds.mono isTighter)
          exact ⟨.operator sign :: (rights ++ front), by simp, by simpa using phrase, ends⟩

/-- The parser accepts the tokens that the grammar gives an expression, and finds it. -/
theorem ofTokens?_eq_some_iff
    {tokens : List Token}
    {expr : Expr} :
    ofTokens? tokens = some expr ↔ Phrase .none 0 0 tokens expr := by
  constructor
  · intro isExpression
    unfold ofTokens? at isExpression
    split at isExpression
    · rename_i reads
      cases isExpression
      obtain ⟨front, rfl, phrase, -⟩ := (phrase_of_reads _).2.1 reads
      rwa [List.append_nil]
    · cases isExpression
  · exact ofTokens?_of_phrase

end Expr

end ShaderBuild.Condition
