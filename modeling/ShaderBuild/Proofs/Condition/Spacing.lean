import ShaderBuild.Condition.Token

namespace ShaderBuild.Condition

/-!
# White space around a condition

White space is cut into gaps, and a gap makes no token. What a text starts or ends
with of it makes no difference to its tokens, so a text may be trimmed or not.
-/

theorem toNat_of_isIdentifierChar {c : Char} (word : isIdentifierChar c = true) :
    48 ≤ c.toNat ∧ c.toNat ≤ 122 := by
  rw [isIdentifierChar, Bool.or_eq_true, decide_eq_true_eq] at word
  rcases word with letter | rfl
  · change 48 ≤ c.val.toNat ∧ c.val.toNat ≤ 122
    change
      (decide (65 ≤ c.val ∧ c.val ≤ 90) || (decide (97 ≤ c.val) && decide (c.val ≤ 122)) ||
        (decide (48 ≤ c.val) && decide (c.val ≤ 57))) = true at letter
    grind [UInt32.le_iff_toNat_le]
  · decide

/-- No white space is part of an identifier. -/
theorem isIdentifierChar_of_isSpace {c : Char} (space : Text.isSpace c = true) :
    isIdentifierChar c = false := by
  rw [Bool.eq_false_iff]
  intro word
  have bounds := toNat_of_isIdentifierChar word
  have gap : c.toNat ≤ 32 ∨ 133 ≤ c.toNat := by
    simp only [Text.isSpace, Bool.or_eq_true, Bool.and_eq_true, decide_eq_true_eq] at space
    omega
  omega

section

variable {c : Char} (space : Text.isSpace c = true)

include space

theorem Piece.push_of_isSpace (pieces : List Piece) : Piece.push c pieces = .gap :: pieces := by
  unfold push
  rw [isIdentifierChar_of_isSpace space, if_neg Bool.false_ne_true, if_pos space]

/-- White space after a text is one more piece. -/
theorem Piece.ofText_append_space (text : List Char) :
    Piece.ofText (text ++ [c]) = Piece.ofText text ++ [.gap] := by
  induction text with
  | nil =>
      exact push_of_isSpace space []
  | cons first others inductionHypothesis =>
      unfold Piece.ofText at inductionHypothesis ⊢
      rw [List.cons_append, List.foldr_cons, List.foldr_cons, inductionHypothesis]
      generalize List.foldr Piece.push [] others = pieces
      unfold Piece.push
      split
      · cases pieces with
        | nil =>
            rfl
        | cons piece pieces =>
            cases piece <;> rfl
      · split <;> rfl

end

/-- A gap at the end adds no token. -/
theorem Token.ofPieces?_append_gap (pieces : List Piece) :
    Token.ofPieces? (pieces ++ [.gap]) = Token.ofPieces? pieces := by
  fun_induction Token.ofPieces? pieces with
  | case1 =>
      rfl
  | case2 others inductionHypothesis =>
      exact inductionHypothesis
  | case3 chars others inductionHypothesis =>
      simp only [List.cons_append, ofPieces?, inductionHypothesis]
  | case4 first second others sign isOperator inductionHypothesis =>
      simp only [List.cons_append, ofPieces?, isOperator, inductionHypothesis]
  | case5 first second others noOperator inductionHypothesis =>
      rw [List.cons_append] at inductionHypothesis
      simp only [List.cons_append, ofPieces?, noOperator, inductionHypothesis]
  | case6 c others notMarks inductionHypothesis =>
      rw [List.cons_append, ofPieces?, inductionHypothesis]
      intro second tail starts
      cases others with
      | nil =>
          cases starts
      | cons piece others =>
          rw [List.cons_append] at starts
          exact notMarks second others (by rw [(List.cons.inj starts).1])

section

variable {c : Char} (space : Text.isSpace c = true) (text : List Char)

include space

theorem tokenize?_cons_space : tokenize? (c :: text) = tokenize? text := by
  have pieces : Piece.ofText (c :: text) = .gap :: Piece.ofText text :=
    Piece.push_of_isSpace space (Piece.ofText text)
  unfold tokenize?
  rw [pieces, Token.ofPieces?]

theorem tokenize?_append_space : tokenize? (text ++ [c]) = tokenize? text := by
  unfold tokenize?
  rw [Piece.ofText_append_space space, Token.ofPieces?_append_gap]

end

theorem tokenize?_trimStart (text : List Char) :
    tokenize? (Text.trimStart text) = tokenize? text := by
  unfold Text.trimStart
  induction text with
  | nil =>
      rfl
  | cons c others inductionHypothesis =>
      rw [List.dropWhile_cons]
      split
      · rename_i space
        rw [inductionHypothesis, tokenize?_cons_space space]
      · rfl

theorem tokenize?_trimEnd (text : List Char) :
    tokenize? (Text.trimEnd text) = tokenize? text := by
  unfold Text.trimEnd
  obtain ⟨reversed, rfl⟩ : ∃ reversed : List Char, reversed.reverse = text :=
    ⟨text.reverse, text.reverse_reverse⟩
  rw [List.reverse_reverse]
  induction reversed with
  | nil =>
      rfl
  | cons c others inductionHypothesis =>
      rw [List.dropWhile_cons]
      split
      · rename_i space
        rw [inductionHypothesis, List.reverse_cons, tokenize?_append_space space]
      · rfl

/-- Trimming takes no token away. -/
theorem tokenize?_trim (text : List Char) : tokenize? (Text.trim text) = tokenize? text := by
  rw [Text.trim, tokenize?_trimEnd, tokenize?_trimStart]

end ShaderBuild.Condition
