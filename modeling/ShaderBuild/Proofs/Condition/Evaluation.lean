import Mathlib.Data.Nat.Digits.Lemmas
import ShaderBuild.Proofs.Condition.Arithmetic
import ShaderBuild.Proofs.Condition.Replacement
import ShaderBuild.Proofs.Condition.Spelling

namespace ShaderBuild

/-!
# What conditions evaluate to

A text prints an expression if it spells tokens that denote it by the rules of
precedence. A condition that prints an expression has the truth value that the
expression means, and a condition that prints none has no truth value. Every
expression over numbers and names that can be written is printed by some text.
-/

namespace Condition

/-- The text spells the expression, with parentheses at least where precedence needs them. -/
def Prints (text : List Char) (expr : Expr) : Prop :=
  ∃ tokens, Spells text tokens ∧ Phrase .none 0 0 tokens expr

/-- A text denotes the expression that it prints, and no other one. -/
theorem Expr.ofText?_eq_some_iff {text : List Char} {expr : Expr} :
    ofText? text = some expr ↔ Prints text expr := by
  rw [ofText?, Option.bind_eq_some_iff]
  simp only [tokenize?_eq_some_iff, ofTokens?_eq_some_iff]
  rfl

/-! ### What can be printed -/

/-- Numbers have no sign, and names are words; `defined` is no identifier. -/
def Expr.IsWritable : Expr → Prop
  | .number value => 0 ≤ value.toInt
  | .identifier name => IsName name.toList ∧ name ≠ "defined"
  | .defined name => IsName name.toList
  | .unary _ operand => operand.IsWritable
  | .binary _ left right => left.IsWritable ∧ right.IsWritable

/-- A token that some text spells. -/
def Token.IsWritable : Token → Prop
  | .number value => 0 ≤ value.toInt
  | .identifier name => IsName name.toList
  | _ => True

theorem Literal.toInt_nonneg {word : List Char} {value : Int64} (literal : Literal word value) :
    0 ≤ value.toInt := by
  obtain ⟨-, -, -, -, fits⟩ := literal
  rw [Int64.toInt_ofNat_of_lt fits]
  exact Int.natCast_nonneg _

theorem Spells.isWritable
    {text : List Char} {tokens : List Token}
    (spells : Spells text tokens) :
    ∀ token ∈ tokens, token.IsWritable := by
  induction spells with
  | nil =>
      simp
  | space isSpace rest inductionHypothesis =>
      exact inductionHypothesis
  | number literal ends rest inductionHypothesis =>
      exact List.forall_mem_cons.mpr ⟨literal.toInt_nonneg, inductionHypothesis⟩
  | identifier isName ends rest inductionHypothesis =>
      refine List.forall_mem_cons.mpr ⟨?_, inductionHypothesis⟩
      rw [Token.IsWritable, String.toList_ofList]
      exact isName
  | operator ends rest inductionHypothesis =>
      exact List.forall_mem_cons.mpr ⟨trivial, inductionHypothesis⟩
  | openParen rest inductionHypothesis | closeParen rest inductionHypothesis =>
      exact List.forall_mem_cons.mpr ⟨trivial, inductionHypothesis⟩

theorem Phrase.isWritable
    {nesting level : Nat} {tokens : List Token} {expr : Expr}
    (phrase : Phrase .none nesting level tokens expr)
    (tokensWritable : ∀ token ∈ tokens, token.IsWritable) :
    expr.IsWritable := by
  induction phrase with
  | number =>
      exact tokensWritable _ List.mem_cons_self
  | name isName noText =>
      exact ⟨tokensWritable _ List.mem_cons_self, isName⟩
  | replaced isName hasText hasTokens denotes inductionHypothesis =>
      cases hasText
  | test =>
      exact tokensWritable (.identifier _) (by simp)
  | testGroup =>
      exact tokensWritable (.identifier _) (by simp)
  | group inside inductionHypothesis =>
      exact inductionHypothesis fun token member => tokensWritable token (by simp [member])
  | unary isUnary operand inductionHypothesis =>
      exact inductionHypothesis fun token member =>
        tokensWritable token (List.mem_cons_of_mem _ member)
  | binary isBinary binds leftOperand rightOperand leftHypothesis rightHypothesis =>
      exact ⟨leftHypothesis fun token member => tokensWritable token (by simp [member]),
        rightHypothesis fun token member => tokensWritable token (by simp [member])⟩

/-! ### Printing -/

theorem EndsWord.append_space {text : List Char} (ends : EndsWord text) (others : List Char) :
    EndsWord (text ++ ' ' :: others) := by
  intro c rest goesOn
  cases text with
  | nil =>
      cases goesOn
      decide
  | cons first tail =>
      exact ends c tail (by rw [(List.cons.inj goesOn).1])

theorem EndsOperator.append_space
    {sign : Operator} {text : List Char}
    (ends : EndsOperator sign text) (others : List Char) :
    EndsOperator sign (text ++ ' ' :: others) := by
  intro longer c rest goesOn isLonger
  cases text with
  | nil =>
      cases goesOn
      have member : ' ' ∈ longer.sign := by simp [isLonger]
      exact absurd (longer.isMark_of_mem_sign ' ' member).noSpace (by decide)
  | cons first tail =>
      exact ends longer c tail (by rw [(List.cons.inj goesOn).1]) isLonger

/-- A space keeps what is before it apart from what is after it. -/
theorem Spells.spaced
    {first second : List Char} {tokens others : List Token}
    (before : Spells first tokens)
    (after : Spells second others) :
    Spells (first ++ ' ' :: second) (tokens ++ others) := by
  induction before with
  | nil =>
      exact .space (by decide) after
  | space isSpace rest inductionHypothesis =>
      exact .space isSpace inductionHypothesis
  | number literal ends rest inductionHypothesis =>
      rw [List.append_assoc]
      exact .number literal (ends.append_space second) inductionHypothesis
  | identifier isName ends rest inductionHypothesis =>
      rw [List.append_assoc]
      exact .identifier isName (ends.append_space second) inductionHypothesis
  | operator ends rest inductionHypothesis =>
      rw [List.append_assoc]
      exact .operator (ends.append_space second) inductionHypothesis
  | openParen rest inductionHypothesis =>
      exact .openParen inductionHypothesis
  | closeParen rest inductionHypothesis =>
      exact .closeParen inductionHypothesis

theorem endsWord_nil : EndsWord [] := by
  rintro c others ⟨⟩

/-- Every number without a sign is written in hexadecimal digits. -/
theorem exists_literal {value : Int64} (noSign : 0 ≤ value.toInt) :
    ∃ word, Literal word value := by
  obtain ⟨number, isNumber⟩ := Int.eq_ofNat_of_zero_le noSign
  have fits : number < 2 ^ 63 := by
    have high := value.toInt_lt
    omega
  have isValue : Int64.ofNat number = value := by
    rw [← Int64.toInt_inj, Int64.toInt_ofNat_of_lt fits, isNumber]
  have numeral :
      Numeral 16 ('0' :: (Nat.digits 16 number).reverse.map Nat.digitChar) number := by
    refine ⟨0 :: (Nat.digits 16 number).reverse, .cons ⟨by decide, .inl rfl⟩ ?_, ?_⟩
    · rw [List.forall₂_map_left_iff, List.forall₂_same]
      intro digit member
      exact ⟨Nat.digits_lt_base (by decide) (List.mem_reverse.mp member), .inl rfl⟩
    · rw [List.reverse_cons, List.reverse_reverse, Nat.ofDigits_append_zero,
        Nat.ofDigits_digits]
  rw [← isValue]
  exact ⟨_, .intro (.hexadecimal (.inl rfl)) (List.cons_ne_nil _ _) numeral
    (List.forall_mem_nil _) fits⟩

theorem spells_identifier {name : String} (isName : IsName name.toList) :
    Spells (name.toList ++ []) [.identifier name] := by
  have spells := Spells.identifier isName endsWord_nil .nil
  rwa [String.ofList_toList] at spells

theorem spells_operator (sign : Operator) : Spells (sign.sign ++ []) [.operator sign] :=
  .operator (by rintro longer c others ⟨⟩) .nil

/-- The sign of an operation in front of its operand. -/
def UnaryOp.sign : UnaryOp → Operator
  | .not => .bang
  | .complement => .tilde
  | .negate => .minus
  | .keep => .plus

theorem UnaryOp.unary?_sign (op : UnaryOp) : op.sign.unary? = some op := by
  cases op <;> rfl

/-- The sign of an operation between its operands. -/
def BinaryOp.sign : BinaryOp → Operator
  | .or => .oror
  | .and => .andand
  | .bitOr => .bar
  | .bitXor => .caret
  | .bitAnd => .ampersand
  | .equal => .equal
  | .notEqual => .notEqual
  | .less => .less
  | .greater => .greater
  | .atMost => .atMost
  | .atLeast => .atLeast
  | .shiftLeft => .shiftLeft
  | .shiftRight => .shiftRight
  | .add => .plus
  | .subtract => .minus
  | .multiply => .times
  | .divide => .slash
  | .remainder => .percent

theorem BinaryOp.binary?_sign (op : BinaryOp) : op.sign.binary? = some op := by
  cases op <;> rfl

/-- With parentheses around every operation on two values, any writable tree can be printed. -/
theorem exists_spelled_phrase {expr : Expr} (writable : expr.IsWritable) :
    ∃ text tokens, Spells text tokens ∧ Phrase .none 0 tightest tokens expr := by
  induction expr with
  | number value =>
      obtain ⟨word, literal⟩ := exists_literal writable
      exact ⟨_, _, .number literal endsWord_nil .nil, .number⟩
  | identifier name =>
      exact ⟨_, _, spells_identifier writable.1, .name writable.2 rfl⟩
  | defined name =>
      have isName : IsName "defined".toList := by
        refine ⟨by decide, List.all_eq_true.mp (by decide), fun c others starts => ?_⟩
        cases (show ['d', 'e', 'f', 'i', 'n', 'e', 'd'] = c :: others from starts)
        rfl
      exact ⟨_, _, (spells_identifier isName).spaced (spells_identifier writable), .test⟩
  | unary op operand inductionHypothesis =>
      obtain ⟨text, tokens, spells, phrase⟩ := inductionHypothesis writable
      exact ⟨_, _, (spells_operator op.sign).spaced spells, .unary op.unary?_sign phrase⟩
  | binary op left right leftHypothesis rightHypothesis =>
      obtain ⟨leftText, lefts, leftSpells, leftPhrase⟩ := leftHypothesis writable.1
      obtain ⟨rightText, rights, rightSpells, rightPhrase⟩ := rightHypothesis writable.2
      have binds := op.precedence_le_tightest
      have inside :
          Phrase .none 0 0 (lefts ++ .operator op.sign :: rights) (.binary op left right) :=
        .binary op.binary?_sign op.precedence_pos
          (leftPhrase.loosen (Nat.le_trans (Nat.sub_le _ _) binds)) (rightPhrase.loosen binds)
      have spells := leftSpells.spaced ((spells_operator op.sign).spaced rightSpells)
      exact ⟨_, _, .openParen (spells.spaced (.closeParen .nil)), .group inside⟩

theorem exists_prints {expr : Expr} (writable : expr.IsWritable) : ∃ text, Prints text expr := by
  obtain ⟨text, tokens, spells, phrase⟩ := exists_spelled_phrase writable
  exact ⟨text, tokens, spells, phrase.loosen (Nat.zero_le _)⟩

theorem Prints.isWritable {text : List Char} {expr : Expr} (prints : Prints text expr) :
    expr.IsWritable := by
  obtain ⟨tokens, spells, phrase⟩ := prints
  exact phrase.isWritable spells.isWritable

end Condition

namespace MacroTable

open Condition

/-- A condition's truth value is whether the expression that it prints means no zero. -/
theorem evaluate_of_prints
    {text : List Char} {expr : Expr}
    (table : MacroTable)
    (prints : Prints text expr) :
    table.evaluate text =
      (expr.meaning? (table.environment nestingLimit)).map fun number => decide (number ≠ 0) := by
  unfold evaluate
  rw [valueOf_succ, Expr.ofText?_eq_some_iff.mpr prints, Option.bind_some,
    ← Expr.map_toInt_value, Option.map_map]
  congr 1
  funext value
  rw [Bool.eq_iff_iff]
  simp [toInt_eq_zero_iff]

/--
Every expression over numbers without a sign and names is printed by some text. A
condition that prints an expression holds if the expression means a number other
than zero, and does not hold if it means zero. A condition that is known to hold or
not to hold prints an expression.
-/
theorem evaluate_computes_meaning (table : MacroTable) :
    (∀ expr : Expr, expr.IsWritable → ∃ text, Prints text expr) ∧
      (∀ text expr, Prints text expr →
        expr.IsWritable ∧
          table.evaluate text =
            (expr.meaning? (table.environment nestingLimit)).map
              fun number => decide (number ≠ 0)) ∧
        ∀ text holds, table.evaluate text = some holds →
          ∃ expr number,
            Prints text expr ∧
              expr.meaning? (table.environment nestingLimit) = some number ∧
                holds = decide (number ≠ 0) := by
  refine ⟨fun expr => exists_prints,
    fun text expr prints => ⟨prints.isWritable, table.evaluate_of_prints prints⟩, ?_⟩
  intro text holds isKnown
  cases denotes : Expr.ofText? text with
  | none =>
      unfold evaluate at isKnown
      rw [valueOf_succ, denotes] at isKnown
      cases isKnown
  | some expr =>
      have prints := Expr.ofText?_eq_some_iff.mp denotes
      rw [table.evaluate_of_prints prints] at isKnown
      obtain ⟨number, means, rfl⟩ := Option.map_eq_some_iff.mp isKnown
      exact ⟨expr, number, prints, means, rfl⟩

/-- A difference that groups to the left decides a condition whose other side is unknown. -/
theorem evaluate_computes_meaning_of_difference :
    let table := MacroTable.ofDefines []
    let text := "7 - 2-1 == 0x4u || 1/0".toList
    let number (value : Int64) := Expr.number value
    let difference := Expr.binary .subtract (.binary .subtract (number 7) (number 2)) (number 1)
    let expr :=
      Expr.binary .or (.binary .equal difference (number 4)) (.binary .divide (number 1) (number 0))
    (∃ other, Prints other expr) ∧ Prints text expr ∧ table.evaluate text = some true ∧
      ∃ known number,
        Prints text known ∧
          known.meaning? (table.environment nestingLimit) = some number ∧ number ≠ 0 := by
  intro table text number difference expr
  obtain ⟨printable, evaluates, known⟩ := evaluate_computes_meaning table
  have prints : Prints text expr := Expr.ofText?_eq_some_iff.mp (by decide +kernel)
  obtain ⟨writable, value⟩ := evaluates text expr prints
  have holds : table.evaluate text = some true := value.trans (by decide +kernel)
  obtain ⟨other, result, otherPrints, means, isTrue⟩ := known text true holds
  exact ⟨printable expr writable, prints, holds, other, result, otherPrints, means,
    by simpa using isTrue⟩

end MacroTable

end ShaderBuild
