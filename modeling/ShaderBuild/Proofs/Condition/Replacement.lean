import Mathlib.Control.Monad.Basic
import ShaderBuild.Expansion
import ShaderBuild.Include.Resolver
import ShaderBuild.Proofs.Condition.Grammar
import ShaderBuild.Proofs.Knowledge

namespace ShaderBuild

/-!
# Evaluation of macros against replacement

A compiler replaces the macros of a condition by their texts, token by token and
without parentheses, before it looks for operations. `MacroTable.evaluate` looks for
operations first and gives each macro the value of its text. Both come to the same
expression if the texts bind as tightly as their places demand, as single operands
always do. A text that binds less tightly is taken apart by replacement, but not by
evaluation.
-/

namespace Condition

/--
Replacing names by their texts, over and over and from the left, makes the second
tokens of the first. A name that is tested with `defined` stays.
-/
inductive Replaces (texts : Definitions) : List Token → List Token → Prop where
  | done : Replaces texts [] []
  | test
      {name : String} {rest replaced : List Token}
      (others : Replaces texts rest replaced) :
      Replaces texts
        (.identifier "defined" :: .identifier name :: rest)
        (.identifier "defined" :: .identifier name :: replaced)
  | testGroup
      {name : String} {rest replaced : List Token}
      (others : Replaces texts rest replaced) :
      Replaces texts
        (.identifier "defined" :: .openParen :: .identifier name :: .closeParen :: rest)
        (.identifier "defined" :: .openParen :: .identifier name :: .closeParen :: replaced)
  | text
      {name : String} {text : List Char} {body rest replaced : List Token}
      (isName : name ≠ "defined")
      (hasText : texts name = some text)
      (hasTokens : tokenize? text = some body)
      (others : Replaces texts (body ++ rest) replaced) :
      Replaces texts (.identifier name :: rest) replaced
  | name
      {name : String} {rest replaced : List Token}
      (isName : name ≠ "defined")
      (noText : texts name = none)
      (others : Replaces texts rest replaced) :
      Replaces texts (.identifier name :: rest) (.identifier name :: replaced)
  | other
      {token : Token} {rest replaced : List Token}
      (notName : ∀ name, token ≠ .identifier name)
      (others : Replaces texts rest replaced) :
      Replaces texts (token :: rest) (token :: replaced)

/-- There is one result of replacement at most. -/
theorem Replaces.unique
    {texts : Definitions}
    {tokens replaced replaced' : List Token}
    (first : Replaces texts tokens replaced)
    (second : Replaces texts tokens replaced') :
    replaced = replaced' := by
  induction first generalizing replaced' with
  | done =>
      cases second
      rfl
  | test others inductionHypothesis =>
      cases second with
      | test others' =>
          rw [inductionHypothesis others']
      | text isName =>
          exact absurd rfl isName
      | name isName =>
          exact absurd rfl isName
      | other notName =>
          exact absurd rfl (notName _)
  | testGroup others inductionHypothesis =>
      cases second with
      | testGroup others' =>
          rw [inductionHypothesis others']
      | text isName =>
          exact absurd rfl isName
      | name isName =>
          exact absurd rfl isName
      | other notName =>
          exact absurd rfl (notName _)
  | text isName hasText hasTokens others inductionHypothesis =>
      cases second with
      | test | testGroup =>
          exact absurd rfl isName
      | text isName' hasText' hasTokens' others' =>
          rw [hasText] at hasText'
          cases hasText'
          rw [hasTokens] at hasTokens'
          cases hasTokens'
          exact inductionHypothesis others'
      | name isName' noText =>
          rw [hasText] at noText
          cases noText
      | other notName =>
          exact absurd rfl (notName _)
  | name isName noText others inductionHypothesis =>
      cases second with
      | test | testGroup =>
          exact absurd rfl isName
      | text isName' hasText =>
          rw [hasText] at noText
          cases noText
      | name isName' noText' others' =>
          rw [inductionHypothesis others']
      | other notName =>
          exact absurd rfl (notName _)
  | other notName others inductionHypothesis =>
      cases second with
      | test | testGroup | text | name =>
          exact absurd rfl (notName _)
      | other notName' others' =>
          rw [inductionHypothesis others']

/--
A phrase denotes the same after replacement. What stands behind it is replaced as if
it stood alone.
-/
theorem Phrase.replaces
    {texts : Definitions}
    {nesting level : Nat}
    {tokens : List Token}
    {expr : Expr}
    (phrase : Phrase texts nesting level tokens expr) :
    ∃ replaced,
      Phrase .none 0 level replaced expr ∧
        ∀ {rest others}, Replaces texts rest others →
          Replaces texts (tokens ++ rest) (replaced ++ others) := by
  induction phrase with
  | @number nesting level value =>
      exact ⟨[.number value], .number, fun others => .other (by simp) others⟩
  | @name nesting level name isName noText =>
      exact ⟨[.identifier name], .name isName rfl, fun others => .name isName noText others⟩
  | replaced isName hasText hasTokens denotes inductionHypothesis =>
      obtain ⟨replaced, phrase, replaces⟩ := inductionHypothesis
      exact ⟨replaced, phrase, fun others => .text isName hasText hasTokens (replaces others)⟩
  | test =>
      exact ⟨_, .test, fun others => .test others⟩
  | testGroup =>
      exact ⟨_, .testGroup, fun others => .testGroup others⟩
  | group inside inductionHypothesis =>
      obtain ⟨replaced, phrase, replaces⟩ := inductionHypothesis
      refine ⟨_, .group phrase, fun {rest others} behind => ?_⟩
      have closes : Replaces texts (.closeParen :: rest) (.closeParen :: others) :=
        .other (by simp) behind
      have opens :
          Replaces texts (.openParen :: (_ ++ .closeParen :: rest))
            (.openParen :: (replaced ++ .closeParen :: others)) :=
        .other (by simp) (replaces closes)
      simpa using opens
  | unary isUnary operand inductionHypothesis =>
      obtain ⟨replaced, phrase, replaces⟩ := inductionHypothesis
      exact ⟨_, .unary isUnary phrase, fun others => .other (by simp) (replaces others)⟩
  | @binary nesting level sign op lefts rights left right isBinary binds leftOperand
      rightOperand leftHypothesis rightHypothesis =>
      obtain ⟨lefts', leftPhrase, leftReplaces⟩ := leftHypothesis
      obtain ⟨rights', rightPhrase, rightReplaces⟩ := rightHypothesis
      refine ⟨_, .binary isBinary binds leftPhrase rightPhrase, fun {rest others} behind => ?_⟩
      have onRight :
          Replaces texts (.operator sign :: (rights ++ rest))
            (.operator sign :: (rights' ++ others)) :=
        .other (by simp) (rightReplaces behind)
      simpa using leftReplaces onRight

/-- The names that an expression takes for numbers. -/
def Expr.names : Expr → List String
  | .number _ => []
  | .identifier name => [name]
  | .defined _ => []
  | .unary _ operand => operand.names
  | .binary _ left right => left.names ++ right.names

/-- Nothing is known about any name. -/
def Environment.unknown : Environment :=
  ⟨fun _ => none, fun _ => none⟩

end Condition

open Condition

namespace MacroTable

/-- The names that a compiler replaces, with their texts. -/
def texts (table : MacroTable) : Definitions := fun name =>
  match table.lookup name with
  | some (.object text) => some text
  | _ => none

/--
What the names that are left after replacement stand for. The compiler knows the
macros that it predefines; any other name that no line defines is zero.
-/
def afterReplacement (table : MacroTable) (predefined : Environment) : Environment where
  value name :=
    match table.lookup name with
    | some _ => none
    | none => if isPredefined name then predefined.value name else some 0
  defined name :=
    match table.lookup name with
    | some .unknown => none
    | some _ => some true
    | none => if isPredefined name then predefined.defined name else some false

/-- After replacement the text of a condition denotes an expression. -/
def Denotes (table : MacroTable) (condition : List Char) (expr : Expr) : Prop :=
  ∃ tokens replaced,
    tokenize? condition = some tokens ∧ Replaces table.texts tokens replaced ∧
      Phrase .none 0 0 replaced expr

/-- After replacement a condition holds or does not. -/
def Preprocesses
    (table : MacroTable) (predefined : Environment) (condition : List Char)
    (holds : Bool) : Prop :=
  ∃ expr,
    table.Denotes condition expr ∧
      (expr.value (table.afterReplacement predefined)).map (· != 0) = some holds

/-- Each macro that a condition uses binds as tightly as its place demands. -/
def Fits (table : MacroTable) (condition : List Char) : Prop :=
  ∃ tokens expr,
    tokenize? condition = some tokens ∧ Phrase table.texts nestingLimit 0 tokens expr

/-- The text of a name is one operand, with texts in it nested no deeper than the limit. -/
def HasOperandText (table : MacroTable) (name : String) : Prop :=
  ∀ text, table.texts name = some text →
    ∃ body expr,
      tokenize? text = some body ∧ Phrase table.texts (nestingLimit - 1) tightest body expr

/-- Each macro that a condition takes for a number has one operand as its text. -/
def UsesOperandTexts (table : MacroTable) (condition : List Char) : Prop :=
  ∀ written, Expr.ofText? condition = some written →
    ∀ name ∈ written.names, table.HasOperandText name

variable {table : MacroTable} {condition : List Char}

theorem Denotes.unique
    {expr expr' : Expr}
    (first : table.Denotes condition expr)
    (second : table.Denotes condition expr') :
    expr = expr' := by
  obtain ⟨tokens, replaced, hasTokens, replaces, phrase⟩ := first
  obtain ⟨tokens', replaced', hasTokens', replaces', phrase'⟩ := second
  rw [hasTokens] at hasTokens'
  cases hasTokens'
  rw [← replaces.unique replaces', ← Expr.ofTokens?_eq_some_iff,
    Expr.ofTokens?_eq_some_iff.mpr phrase] at phrase'
  exact Option.some.inj phrase'

theorem Preprocesses.unique
    {predefined : Environment}
    {holds holds' : Bool}
    (first : table.Preprocesses predefined condition holds)
    (second : table.Preprocesses predefined condition holds') :
    holds = holds' := by
  obtain ⟨expr, denotes, isValue⟩ := first
  obtain ⟨expr', denotes', isValue'⟩ := second
  rw [← denotes.unique denotes', isValue] at isValue'
  exact Option.some.inj isValue'

/-! ### What evaluation sees -/

/-- What names stand for while texts may be evaluated at most `levels` deep. -/
def environment (table : MacroTable) (levels : Nat) : Environment where
  value name :=
    match table.lookup name with
    | some (.object []) => none
    | some (.object text) => table.valueOf levels text
    | some _ => none
    | none => if isPredefined name then none else some 0
  defined := table.isNameDefined

theorem valueOf_succ (table : MacroTable) (levels : Nat) (text : List Char) :
    table.valueOf (levels + 1) text =
      (Expr.ofText? text).bind fun expr => expr.value (table.environment levels) := rfl

/-- Where no text may be evaluated, no more is known than after replacement. -/
theorem environment_zero (table : MacroTable) :
    table.environment 0 = table.afterReplacement .unknown := by
  rw [Environment.mk.injEq]
  constructor
  · funext name
    cases isDefined : table.lookup name with
    | none =>
        simp [environment, afterReplacement, Environment.unknown, isDefined]
    | some state =>
        cases state with
        | object text =>
            cases text <;> simp [environment, afterReplacement, isDefined, valueOf]
        | function | unknown =>
            simp [environment, afterReplacement, isDefined]
  · funext name
    simp only [environment, afterReplacement, isNameDefined]
    cases table.lookup name with
    | none =>
        simp [Environment.unknown]
    | some state =>
        rfl

/-- What is known after replacement is known to every compiler. -/
theorem afterReplacement_coarser (table : MacroTable) (predefined : Environment) :
    (table.afterReplacement .unknown).Coarser (table.afterReplacement predefined) := by
  constructor
  all_goals
    intro name
    simp only [afterReplacement]
    cases table.lookup name with
    | none =>
        cases isPredefined name with
        | true =>
            exact .none _
        | false =>
            exact .refl _
    | some state =>
        cases state <;> exact .refl _

theorem value_environment_of_noText
    {name : String}
    (noText : table.texts name = none)
    (levels : Nat) :
    (table.environment levels).value name = (table.environment 0).value name := by
  unfold texts at noText
  simp only [environment]
  cases isDefined : table.lookup name with
  | none =>
      rfl
  | some state =>
      cases state with
      | object text =>
          simp [isDefined] at noText
      | function | unknown =>
          rfl

theorem value_environment_of_text
    {name : String}
    {text : List Char}
    (hasText : table.texts name = some text)
    (nonempty : text ≠ [])
    (levels : Nat) :
    (table.environment levels).value name = table.valueOf levels text := by
  have isObject : table.lookup name = some (.object text) := by
    unfold texts at hasText
    split at hasText
    · rename_i isObject
      cases hasText
      exact isObject
    · cases hasText
  simp only [environment, isObject]

/-- A text that is a phrase has the value of the expression that the parser finds in it. -/
theorem valueOf_of_phrase
    {level levels : Nat}
    {text : List Char}
    {body : List Token}
    {written : Expr}
    (hasTokens : tokenize? text = some body)
    (phrase : Phrase .none 0 level body written) :
    table.valueOf (levels + 1) text = written.value (table.environment levels) := by
  have parses := Expr.ofTokens?_of_phrase (phrase.loosen (Nat.zero_le level))
  rw [valueOf_succ, Expr.ofText?, hasTokens, Option.bind_some, parses, Option.bind_some]

theorem ne_nil_of_phrase
    {texts : Definitions}
    {nesting level : Nat}
    {text : List Char}
    {body : List Token}
    {expr : Expr}
    (hasTokens : tokenize? text = some body)
    (phrase : Phrase texts nesting level body expr) :
    text ≠ [] := by
  rintro rfl
  cases hasTokens
  exact phrase.tokens_ne_nil rfl

/--
The tokens of a phrase are also an expression with names for macros. If as many
texts may be evaluated as the phrase puts into one another, the names have the values
of their texts, and the expression has the value of the phrase.
-/
theorem exists_written
    {nesting level : Nat}
    {tokens : List Token}
    {expr : Expr}
    (phrase : Phrase table.texts nesting level tokens expr) :
    ∃ written,
      Phrase .none 0 level tokens written ∧
        ∀ levels, nesting ≤ levels →
          written.value (table.environment levels) = expr.value (table.environment 0) := by
  induction phrase with
  | number =>
      exact ⟨_, .number, fun _ _ => rfl⟩
  | name isName noText =>
      exact ⟨_, .name isName rfl, fun levels _ => value_environment_of_noText noText levels⟩
  | @replaced nesting level name text body expr isName hasText hasTokens denotes
      inductionHypothesis =>
      obtain ⟨written, phrase, sameValue⟩ := inductionHypothesis
      refine ⟨_, .name isName rfl, fun levels enough => ?_⟩
      obtain ⟨below, rfl⟩ : ∃ below, levels = below + 1 := ⟨levels - 1, by omega⟩
      calc
        (Expr.identifier name).value (table.environment (below + 1))
            = table.valueOf (below + 1) text :=
          value_environment_of_text hasText (ne_nil_of_phrase hasTokens phrase) _
        _ = written.value (table.environment below) := valueOf_of_phrase hasTokens phrase
        _ = expr.value (table.environment 0) :=
          sameValue below (Nat.le_of_succ_le_succ enough)
  | test =>
      exact ⟨_, .test, fun _ _ => rfl⟩
  | testGroup =>
      exact ⟨_, .testGroup, fun _ _ => rfl⟩
  | group inside inductionHypothesis =>
      obtain ⟨written, phrase, sameValue⟩ := inductionHypothesis
      exact ⟨written, .group phrase, sameValue⟩
  | unary isUnary operand inductionHypothesis =>
      obtain ⟨written, phrase, sameValue⟩ := inductionHypothesis
      refine ⟨_, .unary isUnary phrase, fun levels enough => ?_⟩
      rw [Expr.value, Expr.value, sameValue levels enough]
  | binary isBinary binds leftOperand rightOperand leftHypothesis rightHypothesis =>
      obtain ⟨left, leftPhrase, sameLeft⟩ := leftHypothesis
      obtain ⟨right, rightPhrase, sameRight⟩ := rightHypothesis
      refine ⟨_, .binary isBinary binds leftPhrase rightPhrase, fun levels enough => ?_⟩
      rw [Expr.value, Expr.value, sameLeft levels enough, sameRight levels enough]

/-! ### Evaluation agrees with replacement -/

/-- A condition whose macros fit is evaluated as the expression it denotes after replacement. -/
theorem denotes_of_fits (fits : table.Fits condition) :
    ∃ expr,
      table.Denotes condition expr ∧
        table.evaluate condition =
          (expr.value (table.afterReplacement .unknown)).map (· != 0) := by
  obtain ⟨tokens, expr, hasTokens, phrase⟩ := fits
  obtain ⟨replaced, replacedPhrase, replaces⟩ := phrase.replaces
  obtain ⟨written, writtenPhrase, sameValue⟩ := exists_written phrase
  refine ⟨expr, ⟨tokens, replaced, hasTokens, ?_, replacedPhrase⟩, ?_⟩
  · have all := replaces .done
    rwa [List.append_nil, List.append_nil] at all
  · rw [evaluate, valueOf_of_phrase hasTokens writtenPhrase,
      sameValue nestingLimit (Nat.le_refl _), environment_zero]

/-- An operand fits every place. -/
theorem exists_phrase_of_operandTexts
    {nesting level : Nat}
    {tokens : List Token}
    {written : Expr}
    (phrase : Phrase .none nesting level tokens written)
    (operands : ∀ name ∈ written.names, table.HasOperandText name)
    (notTighter : level ≤ tightest) :
    ∃ expr, Phrase table.texts nestingLimit level tokens expr := by
  induction phrase with
  | number =>
      exact ⟨_, .number⟩
  | @name nesting level name isName _ =>
      cases hasText : table.texts name with
      | none =>
          exact ⟨_, .name isName hasText⟩
      | some text =>
          obtain ⟨body, expr, hasTokens, operand⟩ :=
            operands name List.mem_cons_self text hasText
          exact ⟨expr, .replaced isName hasText hasTokens (operand.loosen notTighter)⟩
  | replaced isName hasText =>
      cases hasText
  | test =>
      exact ⟨_, .test⟩
  | testGroup =>
      exact ⟨_, .testGroup⟩
  | group inside inductionHypothesis =>
      obtain ⟨expr, phrase⟩ := inductionHypothesis operands (Nat.zero_le _)
      exact ⟨expr, .group phrase⟩
  | unary isUnary operand inductionHypothesis =>
      obtain ⟨expr, phrase⟩ := inductionHypothesis operands (Nat.le_refl _)
      exact ⟨_, .unary isUnary phrase⟩
  | @binary nesting level sign op lefts rights left right isBinary binds leftOperand
      rightOperand leftHypothesis rightHypothesis =>
      have notTightest := op.precedence_le_tightest
      obtain ⟨leftExpr, leftPhrase⟩ :=
        leftHypothesis (fun name member => operands name (List.mem_append_left _ member))
          (by omega)
      obtain ⟨rightExpr, rightPhrase⟩ :=
        rightHypothesis (fun name member => operands name (List.mem_append_right _ member))
          notTightest
      exact ⟨_, .binary isBinary binds leftPhrase rightPhrase⟩

theorem fits_of_operandTexts
    {holds : Bool}
    (operands : table.UsesOperandTexts condition)
    (evaluates : table.evaluate condition = some holds) :
    table.Fits condition := by
  obtain ⟨value, isValue, -⟩ := Option.map_eq_some_iff.mp evaluates
  rw [valueOf_succ] at isValue
  obtain ⟨written, parses, -⟩ := Option.bind_eq_some_iff.mp isValue
  have operandsOfWritten := operands written parses
  obtain ⟨tokens, hasTokens, isExpression⟩ := Option.bind_eq_some_iff.mp parses
  obtain ⟨expr, phrase⟩ :=
    exists_phrase_of_operandTexts (Expr.ofTokens?_eq_some_iff.mp isExpression)
      operandsOfWritten (Nat.zero_le _)
  exact ⟨tokens, expr, hasTokens, phrase⟩

/--
Where the texts of macros bind as tightly as their places demand, a condition is
evaluated as the expression that replacement makes of it, and what evaluation answers
is right for every compiler. An answer is also right if each macro that the condition
takes for a number has one operand as its text.
-/
theorem evaluate_agrees_with_replacement
    (table : MacroTable) (condition : List Char) :
    (table.Fits condition →
      (∃ expr,
        table.Denotes condition expr ∧
          table.evaluate condition =
            (expr.value (table.afterReplacement .unknown)).map (· != 0)) ∧
        ∀ predefined holds,
          table.evaluate condition = some holds →
            table.Preprocesses predefined condition holds) ∧
      (table.UsesOperandTexts condition →
        ∀ predefined holds,
          table.evaluate condition = some holds →
            table.Preprocesses predefined condition holds) := by
  have agrees (fits : table.Fits condition) (predefined : Environment) (holds : Bool)
      (evaluates : table.evaluate condition = some holds) :
      table.Preprocesses predefined condition holds := by
    obtain ⟨expr, denotes, isValue⟩ := denotes_of_fits fits
    refine ⟨expr, denotes, ?_⟩
    have finer := expr.value_coarser (table.afterReplacement_coarser predefined)
    exact finer.map (· != 0) holds (isValue.symm.trans evaluates)
  refine ⟨fun fits => ⟨denotes_of_fits fits, agrees fits⟩, fun operands => ?_⟩
  intro predefined holds evaluates
  exact agrees (fits_of_operandTexts operands evaluates) predefined holds evaluates

/-- A sum that is compared fits its place; a sum in parentheses fits every place. -/
theorem evaluate_agrees_with_replacement_sums :
    let table := ofDefines [("TWO", "(1 + 1)"), ("SUM", "1 + TWO"), ("GUARD", "")]
    let sum := "SUM == 3".toList
    let product := "defined GUARD && TWO * 3 == 6".toList
    (table.Fits sum ∧ table.Preprocesses .unknown sum true) ∧
      table.UsesOperandTexts product ∧ table.Preprocesses .unknown product true := by
  intro table sum product
  have two {nesting level : Nat} :
      Phrase table.texts nesting level
        (.openParen :: ([.number 1] ++ .operator .plus :: [.number 1] ++ [.closeParen]))
        (.binary .add (.number 1) (.number 1)) :=
    .group (.binary rfl (by decide) .number .number)
  have added :
      Phrase table.texts 15 5
        ([.number 1] ++ .operator .plus :: [.identifier "TWO"])
        (.binary .add (.number 1) (.binary .add (.number 1) (.number 1))) :=
    .binary rfl (by decide) .number (.replaced (by decide) rfl (by decide) two)
  have compared :
      Phrase table.texts nestingLimit 0
        ([.identifier "SUM"] ++ .operator .equal :: [.number 3])
        (.binary .equal
          (.binary .add (.number 1) (.binary .add (.number 1) (.number 1))) (.number 3)) :=
    .binary rfl (by decide) (.replaced (by decide) rfl (by decide) added) .number
  have fits : table.Fits sum :=
    ⟨_, _, by decide +kernel, compared⟩
  have operands : table.UsesOperandTexts product := by
    have parses :
        Expr.ofText? product =
          some (.binary .and (.defined "GUARD")
            (.binary .equal (.binary .multiply (.identifier "TWO") (.number 3)) (.number 6))) := by
      decide +kernel
    intro written isWritten name member text hasText
    rw [parses] at isWritten
    cases isWritten
    have isTwo : name = "TWO" := List.mem_singleton.mp member
    subst isTwo
    cases hasText
    exact ⟨_, _, by decide +kernel, two⟩
  obtain ⟨agrees, -⟩ := evaluate_agrees_with_replacement table sum
  obtain ⟨-, always⟩ := evaluate_agrees_with_replacement table product
  exact ⟨⟨fits, (agrees fits).2 .unknown true (by decide +kernel)⟩,
    operands, always operands .unknown true (by decide +kernel)⟩

/--
A text that binds less tightly than its place demands. Replacement makes `1 + 1 * 2`
of the condition, which is 3, and evaluation multiplies the sum. An expansion leaves
out an include whose branch a compiler takes.
-/
theorem evaluate_differs_from_replacement :
    let table := MacroTable.empty.define " SUM 1 + 1".toList .live
    let condition := " SUM * 2 == 3".toList
    let settings : ExpansionSettings :=
      ⟨some (SourceCollection.ofList [("a", "float a;\n".toList)]).resolver, 4, []⟩
    let content :=
      "#version 450\n#define SUM 1 + 1\n#if SUM * 2 == 3\n#include \"a\"\n#endif\n".toList
    table.evaluate condition = some false ∧
      table.Preprocesses .unknown condition true ∧
        ¬table.Preprocesses .unknown condition false ∧
          (settings.expand "main" content).requests = [] := by
  intro table condition settings content
  have replaces :
      Replaces table.texts
        [.identifier "SUM", .operator .times, .number 2, .operator .equal, .number 3]
        [.number 1, .operator .plus, .number 1, .operator .times, .number 2,
          .operator .equal, .number 3] := by
    have hasText : table.texts "SUM" = some "1 + 1".toList := by
      decide +kernel
    have hasTokens :
        tokenize? "1 + 1".toList = some [.number 1, .operator .plus, .number 1] := by
      decide +kernel
    refine .text (by decide) hasText hasTokens ?_
    exact .other (by simp) <| .other (by simp) <| .other (by simp) <| .other (by simp) <|
      .other (by simp) <| .other (by simp) <| .other (by simp) .done
  have holds : table.Preprocesses .unknown condition true :=
    ⟨.binary .equal
        (.binary .add (.number 1) (.binary .multiply (.number 1) (.number 2))) (.number 3),
      ⟨_, _, by decide +kernel, replaces,
        Expr.ofTokens?_eq_some_iff.mp (by decide +kernel)⟩,
      by decide +kernel⟩
  refine ⟨by decide +kernel, holds, fun fails => ?_, by decide +kernel⟩
  exact Bool.noConfusion (holds.unique fails)

end MacroTable

end ShaderBuild
