import Mathlib.Data.List.Forall2
import Mathlib.Data.List.Induction
import Mathlib.Data.List.TakeWhile
import Mathlib.Data.Nat.Digits.Defs
import Mathlib.Tactic.IntervalCases
import ShaderBuild.Condition.Token

namespace ShaderBuild.Condition

/-!
# Literals

Which numbers are written in a condition and how: digits in one of three radices,
with a prefix that tells which, and unsigned suffixes after them. Words that start
with a digit and are written in another way are no tokens.
-/

/-- A character stands for a digit; letters stand for digits from ten on in either case. -/
def IsDigit (radix : Nat) (c : Char) (digit : Nat) : Prop :=
  digit < radix ∧ (c = digit.digitChar ∨ c = digit.digitChar.toUpper)

/-- Characters are the digits of a number, the most significant one first. -/
def Numeral (radix : Nat) (digits : List Char) (number : Nat) : Prop :=
  ∃ values,
    List.Forall₂ (IsDigit radix) digits values ∧ Nat.ofDigits radix values.reverse = number

/-- How digits are written in a radix: octal ones follow a zero, and hexadecimal ones `0x`. -/
inductive Prefixed : (radix : Nat) → (digits text : List Char) → Prop where
  | decimal
      {digits : List Char}
      (noPrefix : ∀ c others, digits ≠ '0' :: c :: others) :
      Prefixed 10 digits digits
  | octal {c : Char} {others : List Char} :
      Prefixed 8 (c :: others) ('0' :: c :: others)
  | hexadecimal
      {mark : Char} {digits : List Char}
      (isMark : mark = 'x' ∨ mark = 'X') :
      Prefixed 16 digits ('0' :: mark :: digits)

/-- A character of the unsigned suffix. -/
def IsSuffixChar (c : Char) : Prop :=
  c = 'u' ∨ c = 'U'

/-- A word writes a number that fits in 63 bits. -/
inductive Literal : List Char → Int64 → Prop where
  | intro
      {radix number : Nat} {digits text suffix : List Char}
      (prefixed : Prefixed radix digits text)
      (nonempty : digits ≠ [])
      (numeral : Numeral radix digits number)
      (suffixed : ∀ c ∈ suffix, IsSuffixChar c)
      (fits : number < 2 ^ 63) :
      Literal (text ++ suffix) (Int64.ofNat number)

theorem Prefixed.getLast?_eq
    {radix : Nat} {digits text : List Char}
    (prefixed : Prefixed radix digits text)
    (nonempty : digits ≠ []) :
    text.getLast? = digits.getLast? := by
  obtain ⟨first, others, rfl⟩ := List.exists_cons_of_ne_nil nonempty
  cases prefixed <;> simp

/-! ### Digits -/

theorem Prefixed.radix_le
    {radix : Nat} {digits text : List Char} (prefixed : Prefixed radix digits text) :
    radix ≤ 16 := by
  cases prefixed <;> decide

/-- What holds of the characters for small digits holds of every such digit. -/
theorem IsDigit.holds
    {radix bound digit : Nat} {c : Char}
    (isDigit : IsDigit radix c digit)
    (small : radix ≤ bound)
    (holds : Char → Prop)
    (all : ∀ digit < bound, holds digit.digitChar ∧ holds digit.digitChar.toUpper) :
    holds c := by
  obtain ⟨lower, upper⟩ := all digit (Nat.lt_of_lt_of_le isDigit.1 small)
  rcases isDigit.2 with rfl | rfl
  · exact lower
  · exact upper

theorem toNat_digitChar :
    ∀ digit < 16,
      (digit < 10 → digit.digitChar.toNat = digit + 48) ∧
        (10 ≤ digit →
          digit.digitChar.toNat = digit + 87 ∧ digit.digitChar.toUpper.toNat = digit + 55) := by
  decide

theorem digitValue?_eq_some_iff
    {radix digit : Nat}
    (small : radix ≤ 16)
    (c : Char) :
    digitValue? radix c = some digit ↔ IsDigit radix c digit := by
  unfold digitValue? IsDigit
  rw [Option.filter_eq_some_iff, decide_eq_true_eq, and_comm]
  refine and_congr_right fun inRadix => ?_
  have below : digit < 16 := Nat.lt_of_lt_of_le inRadix small
  constructor
  · intro isValue
    have code :
        digit < 10 ∧ c.toNat = digit + 48 ∨
          10 ≤ digit ∧ (c.toNat = digit + 87 ∨ c.toNat = digit + 55) := by
      simp only [Char.reduceToNat] at isValue
      grind
    obtain ⟨figure, letter⟩ := toNat_digitChar digit below
    rw [← Char.toNat_inj, ← Char.toNat_inj]
    rcases code with ⟨isFigure, code⟩ | ⟨isLetter, code⟩
    · exact .inl (code.trans (figure isFigure).symm)
    · rw [(letter isLetter).1, (letter isLetter).2]
      exact code
  · have all :
        ∀ digit < 16, ∀ c, c = digit.digitChar ∨ c = digit.digitChar.toUpper →
          (if '0'.toNat ≤ c.toNat && c.toNat ≤ '9'.toNat then some (c.toNat - '0'.toNat)
          else if 'a'.toNat ≤ c.toNat && c.toNat ≤ 'f'.toNat then
            some (c.toNat - 'a'.toNat + 10)
          else if 'A'.toNat ≤ c.toNat && c.toNat ≤ 'F'.toNat then
            some (c.toNat - 'A'.toNat + 10)
          else none) = some digit := by
      simp only [forall_eq_or_imp, forall_eq]
      decide
    exact all digit below c

theorem digitsValue?_concat (radix : Nat) (digits : List Char) (last : Char) :
    digitsValue? radix (digits ++ [last]) =
      (digitsValue? radix digits).bind fun value =>
        (value * radix + ·) <$> digitValue? radix last := by
  unfold digitsValue?
  rw [List.foldlM_append]
  simp

/-- A numeral's last digit counts once, and the others count as often as the radix says. -/
theorem numeral_concat_iff {radix number : Nat} {digits : List Char} {last : Char} :
    Numeral radix (digits ++ [last]) number ↔
      ∃ higher digit,
        Numeral radix digits higher ∧ IsDigit radix last digit ∧
          higher * radix + digit = number := by
  constructor
  · rintro ⟨values, stands, rfl⟩
    rw [← List.forall₂_reverse_iff, List.reverse_append, List.reverse_singleton] at stands
    generalize values.reverse = reversed at stands ⊢
    cases stands with
    | @cons _ digit _ higher isDigit others =>
        refine ⟨Nat.ofDigits radix higher, digit, ⟨higher.reverse, ?_, ?_⟩, isDigit, ?_⟩
        · rw [← List.forall₂_reverse_iff, List.reverse_reverse]
          exact others
        · rw [List.reverse_reverse]
        · rw [Nat.ofDigits_cons, Nat.mul_comm, Nat.add_comm]
  · rintro ⟨higher, digit, ⟨values, stands, rfl⟩, isDigit, rfl⟩
    refine ⟨values ++ [digit], List.rel_append stands (.cons isDigit .nil), ?_⟩
    rw [List.reverse_append, List.reverse_singleton, List.singleton_append, Nat.ofDigits_cons]
    simp [Nat.mul_comm, Nat.add_comm]

theorem digitsValue?_eq_some_iff
    {radix number : Nat}
    (small : radix ≤ 16)
    (digits : List Char) :
    digitsValue? radix digits = some number ↔ Numeral radix digits number := by
  induction digits using List.reverseRecOn generalizing number with
  | nil =>
      constructor
      · intro isZero
        cases isZero
        exact ⟨[], .nil, rfl⟩
      · rintro ⟨values, stands, rfl⟩
        cases stands
        rfl
  | append_singleton digits last inductionHypothesis =>
      rw [digitsValue?_concat, numeral_concat_iff, Option.bind_eq_some_iff]
      simp only [inductionHypothesis, Option.map_eq_map, Option.map_eq_some_iff,
        digitValue?_eq_some_iff small, exists_and_left]

/-! ### Words -/

theorem not_isSuffixChar_of_isDigit
    {radix digit : Nat} {c : Char}
    (small : radix ≤ 16)
    (isDigit : IsDigit radix c digit) :
    ¬IsSuffixChar c :=
  isDigit.holds small (fun c => ¬IsSuffixChar c) (by unfold IsSuffixChar; decide)

/-- A word without the unsigned suffix. -/
def unsuffixed (word : List Char) : List Char :=
  (word.reverse.dropWhile fun c => c = 'u' || c = 'U').reverse

theorem exists_suffix (word : List Char) :
    ∃ suffix, word = unsuffixed word ++ suffix ∧ ∀ c ∈ suffix, IsSuffixChar c := by
  refine ⟨(word.reverse.takeWhile fun c => c = 'u' || c = 'U').reverse, ?_, ?_⟩
  · rw [unsuffixed, ← List.reverse_append, List.takeWhile_append_dropWhile, List.reverse_reverse]
  · intro c member
    have holds := List.mem_takeWhile_imp (List.mem_reverse.mp member)
    simpa [IsSuffixChar] using holds

/-- The suffix ends where the digits do. -/
theorem unsuffixed_append
    {text suffix : List Char}
    {last : Char}
    (isLast : text.getLast? = some last)
    (notSuffixChar : ¬IsSuffixChar last)
    (suffixed : ∀ c ∈ suffix, IsSuffixChar c) :
    unsuffixed (text ++ suffix) = text := by
  obtain ⟨before, rfl⟩ := List.getLast?_eq_some_iff.mp isLast
  unfold unsuffixed
  rw [List.reverse_append, List.dropWhile_append_of_pos]
  · rw [List.reverse_append, List.reverse_singleton, List.singleton_append,
      List.dropWhile_cons_of_neg]
    · simp
    · simpa [IsSuffixChar] using notSuffixChar
  · intro c member
    simpa [IsSuffixChar] using suffixed c (List.mem_reverse.mp member)

theorem prefixed_literalDigits (word : List Char) :
    Prefixed (literalDigits word).1 (literalDigits word).2 (unsuffixed word) := by
  unfold literalDigits unsuffixed
  generalize (word.reverse.dropWhile fun c => c = 'u' || c = 'U').reverse = text
  split
  · exact .hexadecimal (.inl rfl)
  · exact .hexadecimal (.inr rfl)
  · exact .octal
  · rename_i noPrefix
    exact .decimal fun c others starts => noPrefix c others starts

/-- Digits with a prefix are found, if they are digits of its radix. -/
theorem literalDigits_of_prefixed
    {radix number : Nat} {digits word : List Char}
    (prefixed : Prefixed radix digits (unsuffixed word))
    (numeral : Numeral radix digits number) :
    literalDigits word = (radix, digits) := by
  unfold unsuffixed at prefixed
  unfold literalDigits
  generalize (word.reverse.dropWhile fun c => c = 'u' || c = 'U').reverse = text at prefixed ⊢
  cases prefixed with
  | decimal noPrefix =>
      split
      · exact absurd rfl (noPrefix _ _)
      · exact absurd rfl (noPrefix _ _)
      · exact absurd rfl (noPrefix _ _)
      · rfl
  | @octal first others =>
      obtain ⟨values, stands, -⟩ := numeral
      cases stands with
      | @cons _ digit _ _ isDigit _ =>
          have notMark : first ≠ 'x' ∧ first ≠ 'X' :=
            isDigit.holds (Nat.le_refl 8) (fun c => c ≠ 'x' ∧ c ≠ 'X') (by decide)
          split
          · rename_i starts
            exact absurd (List.cons.inj (List.cons.inj starts).2).1 notMark.1
          · rename_i starts
            exact absurd (List.cons.inj (List.cons.inj starts).2).1 notMark.2
          · rename_i starts
            cases starts
            rfl
          · rename_i noPrefix
            exact absurd rfl (noPrefix first others)
  | hexadecimal isMark =>
      rcases isMark with rfl | rfl <;> rfl

/-- A word has a value just if it is a literal, and the literal's number is the value. -/
theorem literalValue?_eq_some_iff {word : List Char} {value : Int64} :
    literalValue? word = some value ↔ Literal word value := by
  have limit : (1 <<< 63 : Nat) = 2 ^ 63 := by decide
  constructor
  · intro hasValue
    obtain ⟨suffix, isWord, suffixed⟩ := exists_suffix word
    have prefixed := prefixed_literalDigits word
    unfold literalValue? at hasValue
    split at hasValue
    · cases hasValue
    · rename_i radix digits nonempty found
      rw [found] at prefixed
      split at hasValue
      · rename_i number isNumber
        split at hasValue
        · rename_i fits
          cases hasValue
          rw [isWord]
          exact .intro prefixed nonempty
            ((digitsValue?_eq_some_iff prefixed.radix_le digits).mp isNumber) suffixed
            (limit ▸ fits)
        · cases hasValue
      · cases hasValue
  · rintro ⟨prefixed, nonempty, numeral, suffixed, fits⟩
    rename_i radix number digits text suffix
    have isText : unsuffixed (text ++ suffix) = text := by
      obtain ⟨before, last, rfl⟩ := (List.eq_nil_or_concat' digits).resolve_left nonempty
      obtain ⟨-, digit, -, isDigit, -⟩ := numeral_concat_iff.mp numeral
      exact unsuffixed_append ((prefixed.getLast?_eq nonempty).trans List.getLast?_concat)
        (not_isSuffixChar_of_isDigit prefixed.radix_le isDigit) suffixed
    have found : literalDigits (text ++ suffix) = (radix, digits) :=
      literalDigits_of_prefixed (isText.symm ▸ prefixed) numeral
    obtain ⟨first, others, rfl⟩ := List.exists_cons_of_ne_nil nonempty
    unfold literalValue?
    rw [found]
    simp only [(digitsValue?_eq_some_iff prefixed.radix_le _).mpr numeral, limit, if_pos fits]

end ShaderBuild.Condition
