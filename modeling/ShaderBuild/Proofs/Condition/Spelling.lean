import ShaderBuild.Proofs.Condition.Literals
import ShaderBuild.Proofs.Condition.Spacing

namespace ShaderBuild.Condition

/-!
# How tokens are written

A text spells tokens if it consists of what the tokens are written as, with white
space anywhere between them. A word goes on for as long as it can, and so does an
operator. Cutting a text into tokens finds the ones that it spells.
-/

/-- The text does not go on with a character of a word. -/
def EndsWord (text : List Char) : Prop :=
  ∀ c others, text = c :: others → isIdentifierChar c = false

/-- A word that starts with no digit. -/
structure IsName (word : List Char) : Prop where
  nonempty : word ≠ []
  chars : ∀ c ∈ word, isIdentifierChar c = true
  first : ∀ c others, word = c :: others → c.isDigit = false

/-- The text does not go on with a character that makes the operator a longer one. -/
def EndsOperator (sign : Operator) (text : List Char) : Prop :=
  ∀ (longer : Operator) c others, text = c :: others → longer.sign ≠ sign.sign ++ [c]

/-- The text spells the tokens. -/
inductive Spells : List Char → List Token → Prop where
  | nil : Spells [] []
  | space
      {c : Char} {text : List Char} {tokens : List Token}
      (isSpace : Text.isSpace c = true)
      (rest : Spells text tokens) :
      Spells (c :: text) tokens
  | number
      {word text : List Char} {value : Int64} {tokens : List Token}
      (literal : Literal word value)
      (ends : EndsWord text)
      (rest : Spells text tokens) :
      Spells (word ++ text) (.number value :: tokens)
  | identifier
      {word text : List Char} {tokens : List Token}
      (isName : IsName word)
      (ends : EndsWord text)
      (rest : Spells text tokens) :
      Spells (word ++ text) (.identifier (String.ofList word) :: tokens)
  | operator
      {sign : Operator} {text : List Char} {tokens : List Token}
      (ends : EndsOperator sign text)
      (rest : Spells text tokens) :
      Spells (sign.sign ++ text) (.operator sign :: tokens)
  | openParen
      {text : List Char} {tokens : List Token}
      (rest : Spells text tokens) :
      Spells ('(' :: text) (.openParen :: tokens)
  | closeParen
      {text : List Char} {tokens : List Token}
      (rest : Spells text tokens) :
      Spells (')' :: text) (.closeParen :: tokens)

/-! ### Words -/

theorem Piece.ofText_ne_word
    {text : List Char}
    (ends : EndsWord text)
    (chars : List Char)
    (others : List Piece) :
    Piece.ofText text ≠ .word chars :: others := by
  cases text with
  | nil =>
      rintro ⟨⟩
  | cons c rest =>
      have noWord := ends c rest rfl
      change push c (Piece.ofText rest) ≠ _
      unfold push
      rw [noWord, if_neg Bool.false_ne_true]
      split <;> simp

/-- A word in front of a text that goes on with no word is one piece. -/
theorem Piece.ofText_word_append
    {word text : List Char}
    (nonempty : word ≠ [])
    (chars : ∀ c ∈ word, isIdentifierChar c = true)
    (ends : EndsWord text) :
    Piece.ofText (word ++ text) = .word word :: Piece.ofText text := by
  induction word with
  | nil =>
      exact absurd rfl nonempty
  | cons c others inductionHypothesis =>
      obtain ⟨isChar, othersChars⟩ := List.forall_mem_cons.mp chars
      change push c (Piece.ofText (others ++ text)) = _
      unfold push
      rw [if_pos isChar]
      cases others with
      | nil =>
          rw [List.nil_append]
          split
          · rename_i isWord
            exact absurd isWord (ofText_ne_word ends _ _)
          · rfl
      | cons second others =>
          rw [inductionHypothesis (List.cons_ne_nil _ _) othersChars]

theorem tokenize?_word_append
    {word text : List Char}
    (nonempty : word ≠ [])
    (chars : ∀ c ∈ word, isIdentifierChar c = true)
    (ends : EndsWord text) :
    tokenize? (word ++ text) =
      (Token.ofWord? word).bind fun token => (token :: ·) <$> tokenize? text := by
  unfold tokenize?
  rw [Piece.ofText_word_append nonempty chars ends, Token.ofPieces?]
  rfl

theorem isIdentifierChar_of_isDigit
    {radix digit : Nat} {c : Char}
    (small : radix ≤ 16)
    (isDigit : IsDigit radix c digit) :
    isIdentifierChar c = true :=
  isDigit.holds small (fun c => isIdentifierChar c = true) (by decide)

namespace Literal

variable {word : List Char} {value : Int64}

theorem exists_digit (literal : Literal word value) :
    ∃ c others, word = c :: others ∧ c.isDigit = true := by
  obtain ⟨prefixed, nonempty, ⟨values, stands, -⟩, -, -⟩ := literal
  cases prefixed with
  | decimal noPrefix =>
      cases stands with
      | nil =>
          exact absurd rfl nonempty
      | @cons c digit others _ isDigit _ =>
          exact ⟨c, others ++ _, rfl,
            isDigit.holds (Nat.le_refl 10) (fun c => c.isDigit = true) (by decide)⟩
  | octal | hexadecimal =>
      exact ⟨'0', _, rfl, by decide⟩

theorem chars (literal : Literal word value) : ∀ c ∈ word, isIdentifierChar c = true := by
  obtain ⟨prefixed, -, ⟨values, stands, -⟩, suffixed, -⟩ := literal
  rename_i radix number digits text suffix
  have digitChars : ∀ c ∈ digits, isIdentifierChar c = true := by
    have small := prefixed.radix_le
    clear prefixed
    induction stands with
    | nil =>
        simp
    | cons isDigit others inductionHypothesis =>
        exact List.forall_mem_cons.mpr
          ⟨isIdentifierChar_of_isDigit small isDigit, inductionHypothesis⟩
  have textChars : ∀ c ∈ text, isIdentifierChar c = true := by
    cases prefixed with
    | decimal noPrefix =>
        exact digitChars
    | octal =>
        exact List.forall_mem_cons.mpr ⟨by decide, digitChars⟩
    | hexadecimal isMark =>
        refine List.forall_mem_cons.mpr ⟨by decide, List.forall_mem_cons.mpr ⟨?_, digitChars⟩⟩
        rcases isMark with rfl | rfl <;> decide
  intro c member
  rcases List.mem_append.mp member with inText | inSuffix
  · exact textChars c inText
  · rcases suffixed c inSuffix with rfl | rfl <;> decide

end Literal

theorem Token.ofWord?_of_isDigit
    {c : Char} {others : List Char}
    (isDigit : c.isDigit = true) :
    Token.ofWord? (c :: others) = .number <$> literalValue? (c :: others) := by
  rw [Token.ofWord?, if_pos isDigit]

theorem Token.ofWord?_of_isName {word : List Char} (isName : IsName word) :
    Token.ofWord? word = some (.identifier (String.ofList word)) := by
  obtain ⟨c, others, rfl⟩ := List.exists_cons_of_ne_nil isName.nonempty
  rw [Token.ofWord?, if_neg (by simp [isName.first c others rfl])]

/-- The token of a word is a number if the word is a literal, and else the word is a name. -/
theorem Token.eq_of_ofWord?
    {word : List Char} {token : Token}
    (chars : ∀ c ∈ word, isIdentifierChar c = true)
    (isToken : Token.ofWord? word = some token) :
    (∃ value, Literal word value ∧ token = .number value) ∨
      IsName word ∧ token = .identifier (String.ofList word) := by
  cases word with
  | nil =>
      cases isToken
  | cons c others =>
      by_cases isDigit : c.isDigit = true
      · rw [ofWord?_of_isDigit isDigit] at isToken
        obtain ⟨value, hasValue, rfl⟩ := Option.map_eq_some_iff.mp isToken
        exact .inl ⟨value, literalValue?_eq_some_iff.mp hasValue, rfl⟩
      · have isName : IsName (c :: others) := by
          refine ⟨List.cons_ne_nil _ _, chars, ?_⟩
          rintro first rest starts
          rw [← (List.cons.inj starts).1]
          simpa using isDigit
        rw [ofWord?_of_isName isName] at isToken
        cases isToken
        exact .inr ⟨isName, rfl⟩

/-- A text that starts with a character of a word starts with a longest word. -/
theorem exists_word {c : Char} (isChar : isIdentifierChar c = true) (rest : List Char) :
    ∃ word text,
      c :: rest = word ++ text ∧ word ≠ [] ∧
        (∀ c ∈ word, isIdentifierChar c = true) ∧ EndsWord text := by
  refine ⟨(c :: rest).takeWhile isIdentifierChar, (c :: rest).dropWhile isIdentifierChar,
    List.takeWhile_append_dropWhile.symm, ?_, fun c member => List.mem_takeWhile_imp member, ?_⟩
  · rw [List.takeWhile_cons_of_pos isChar]
    exact List.cons_ne_nil _ _
  · intro first others goesOn
    have stops := List.head?_dropWhile_not isIdentifierChar (c :: rest)
    rw [goesOn] at stops
    simpa using stops

/-! ### Marks -/

/-- A character that is neither white space nor part of a word. -/
structure IsMark (c : Char) : Prop where
  noWord : isIdentifierChar c = false
  noSpace : Text.isSpace c = false

instance : DecidablePred IsMark := fun c =>
  decidable_of_iff (isIdentifierChar c = false ∧ Text.isSpace c = false)
    ⟨fun ⟨noWord, noSpace⟩ => ⟨noWord, noSpace⟩,
      fun ⟨noWord, noSpace⟩ => ⟨noWord, noSpace⟩⟩

theorem Piece.ofText_mark {c : Char} (isMark : IsMark c) (text : List Char) :
    Piece.ofText (c :: text) = .mark c :: Piece.ofText text := by
  change push c (Piece.ofText text) = _
  unfold push
  rw [isMark.noWord, isMark.noSpace]
  rfl

theorem Piece.exists_of_mark
    {text : List Char} {c : Char} {others : List Piece}
    (starts : Piece.ofText text = .mark c :: others) :
    ∃ rest, text = c :: rest := by
  cases text with
  | nil =>
      cases starts
  | cons first rest =>
      change push first (Piece.ofText rest) = _ at starts
      unfold push at starts
      split at starts
      · split at starts <;> cases starts
      · split at starts
        · cases starts
        · cases starts
          exact ⟨rest, rfl⟩

theorem tokenize?_marks
    {first second : Char} {sign : Operator}
    (isFirst : IsMark first)
    (isSecond : IsMark second)
    (joined : Operator.ofMarks? first second = some sign)
    (text : List Char) :
    tokenize? (first :: second :: text) = (.operator sign :: ·) <$> tokenize? text := by
  unfold tokenize?
  rw [Piece.ofText_mark isFirst, Piece.ofText_mark isSecond, Token.ofPieces?]
  simp only [joined]

theorem tokenize?_mark
    {c : Char} {text : List Char}
    (isMark : IsMark c)
    (alone : ∀ second others, text = second :: others → Operator.ofMarks? c second = none) :
    tokenize? (c :: text) =
      (Token.ofMark? c).bind fun token => (token :: ·) <$> tokenize? text := by
  unfold tokenize?
  rw [Piece.ofText_mark isMark]
  cases pieces : Piece.ofText text with
  | nil =>
      rfl
  | cons piece others =>
      cases piece with
      | mark second =>
          obtain ⟨rest, isText⟩ := Piece.exists_of_mark pieces
          rw [Token.ofPieces?]
          simp only [alone second rest isText]
          rfl
      | word | gap =>
          rfl

/-! ### Operators -/

theorem Operator.ofMarks?_eq_some_iff {first second : Char} {sign : Operator} :
    Operator.ofMarks? first second = some sign ↔ sign.sign = [first, second] := by
  constructor
  · intro joined
    unfold ofMarks? at joined
    split at joined <;> cases joined <;> rfl
  · intro isSign
    cases sign <;> cases isSign <;> rfl

theorem Token.ofMark?_operator_iff {c : Char} {sign : Operator} :
    Token.ofMark? c = some (.operator sign) ↔ sign.sign = [c] := by
  constructor
  · intro isToken
    unfold ofMark? at isToken
    split at isToken <;> cases isToken <;> rfl
  · intro isSign
    cases sign <;> cases isSign <;> rfl

theorem Operator.isMark_of_mem_sign (sign : Operator) : ∀ c ∈ sign.sign, IsMark c := by
  have allMarks : sign.sign.all (IsMark ·) = true := by cases sign <;> decide
  simpa using allMarks

theorem Operator.sign_cases (sign : Operator) :
    (∃ c, sign.sign = [c]) ∨ ∃ first second, sign.sign = [first, second] := by
  cases sign <;> simp [Operator.sign]

theorem Operator.ofMarks?_paren {c : Char} (isParen : c = '(' ∨ c = ')') (second : Char) :
    Operator.ofMarks? c second = none := by
  rcases isParen with rfl | rfl <;> rfl

/-- A mark alone is a parenthesis or an operator. -/
theorem Token.eq_of_ofMark?
    {c : Char} {token : Token}
    (isToken : Token.ofMark? c = some token) :
    c = '(' ∧ token = .openParen ∨ c = ')' ∧ token = .closeParen ∨
      ∃ sign : Operator, sign.sign = [c] ∧ token = .operator sign := by
  cases token with
  | operator sign =>
      exact .inr (.inr ⟨sign, ofMark?_operator_iff.mp isToken, rfl⟩)
  | number | identifier | openParen | closeParen =>
      unfold ofMark? at isToken
      split at isToken <;> simp_all

/-! ### Tokens -/

theorem Operator.endsOperator_of_marks
    {sign : Operator} {first second : Char}
    (isSign : sign.sign = [first, second])
    (text : List Char) :
    EndsOperator sign text := by
  intro longer c others _ isLonger
  have length := congrArg List.length isLonger
  rw [isSign] at length
  rcases longer.sign_cases with ⟨single, isSingle⟩ | ⟨left, right, isPair⟩
  · simp [isSingle] at length
  · simp [isPair] at length

theorem tokenize?_of_spells
    {text : List Char} {tokens : List Token}
    (spells : Spells text tokens) :
    tokenize? text = some tokens := by
  induction spells with
  | nil =>
      rfl
  | space isSpace rest inductionHypothesis =>
      rw [tokenize?_cons_space isSpace, inductionHypothesis]
  | number literal ends rest inductionHypothesis =>
      obtain ⟨c, others, rfl, isDigit⟩ := literal.exists_digit
      rw [tokenize?_word_append (List.cons_ne_nil _ _) literal.chars ends,
        Token.ofWord?_of_isDigit isDigit, literalValue?_eq_some_iff.mpr literal,
        inductionHypothesis]
      rfl
  | identifier isName ends rest inductionHypothesis =>
      rw [tokenize?_word_append isName.nonempty isName.chars ends,
        Token.ofWord?_of_isName isName, inductionHypothesis]
      rfl
  | @operator sign text tokens ends rest inductionHypothesis =>
      have marks := sign.isMark_of_mem_sign
      rcases sign.sign_cases with ⟨c, isSign⟩ | ⟨first, second, isSign⟩
      · rw [isSign, List.forall_mem_singleton] at marks
        rw [isSign, List.singleton_append, tokenize?_mark marks, inductionHypothesis,
          Token.ofMark?_operator_iff.mpr isSign]
        · rfl
        · intro second others goesOn
          by_contra joined
          obtain ⟨longer, isLonger⟩ := Option.ne_none_iff_exists'.mp joined
          refine ends longer second others goesOn ?_
          rw [Operator.ofMarks?_eq_some_iff.mp isLonger, isSign]
          rfl
      · rw [isSign] at marks
        obtain ⟨isFirst, isSecond⟩ := List.forall_mem_cons.mp marks
        rw [isSign]
        change tokenize? (first :: second :: text) = _
        rw [tokenize?_marks isFirst (List.forall_mem_singleton.mp isSecond)
          (Operator.ofMarks?_eq_some_iff.mpr isSign), inductionHypothesis]
        rfl
  | openParen rest inductionHypothesis =>
      rw [tokenize?_mark (by decide) fun second _ _ => Operator.ofMarks?_paren (.inl rfl) second,
        inductionHypothesis]
      rfl
  | closeParen rest inductionHypothesis =>
      rw [tokenize?_mark (by decide) fun second _ _ => Operator.ofMarks?_paren (.inr rfl) second,
        inductionHypothesis]
      rfl

theorem Spells.word
    {word text : List Char} {token : Token} {tokens : List Token}
    (chars : ∀ c ∈ word, isIdentifierChar c = true)
    (ends : EndsWord text)
    (isToken : Token.ofWord? word = some token)
    (rest : Spells text tokens) :
    Spells (word ++ text) (token :: tokens) := by
  rcases Token.eq_of_ofWord? chars isToken with ⟨value, literal, rfl⟩ | ⟨isName, rfl⟩
  · exact .number literal ends rest
  · exact .identifier isName ends rest

theorem Spells.marks
    {first second : Char} {sign : Operator} {text : List Char} {tokens : List Token}
    (joined : Operator.ofMarks? first second = some sign)
    (rest : Spells text tokens) :
    Spells (first :: second :: text) (.operator sign :: tokens) := by
  have isSign := Operator.ofMarks?_eq_some_iff.mp joined
  change Spells ([first, second] ++ text) _
  rw [← isSign]
  exact .operator (Operator.endsOperator_of_marks isSign text) rest

theorem Spells.mark
    {c : Char} {token : Token} {text : List Char} {tokens : List Token}
    (alone : ∀ second others, text = second :: others → Operator.ofMarks? c second = none)
    (isToken : Token.ofMark? c = some token)
    (rest : Spells text tokens) :
    Spells (c :: text) (token :: tokens) := by
  rcases Token.eq_of_ofMark? isToken with ⟨rfl, rfl⟩ | ⟨rfl, rfl⟩ | ⟨sign, isSign, rfl⟩
  · exact .openParen rest
  · exact .closeParen rest
  · change Spells ([c] ++ text) _
    rw [← isSign]
    refine .operator (fun longer second others goesOn isLonger => ?_) rest
    rw [isSign] at isLonger
    have joined := Operator.ofMarks?_eq_some_iff.mpr isLonger
    rw [alone second others goesOn] at joined
    cases joined

/-- A mark makes an operator with the character behind it, or stands alone. -/
theorem Operator.joins_or_alone (c : Char) (text : List Char) :
    (∃ second others sign, text = second :: others ∧ ofMarks? c second = some sign) ∨
      ∀ second others, text = second :: others → ofMarks? c second = none := by
  cases text with
  | nil =>
      exact .inr nofun
  | cons second others =>
      cases joined : ofMarks? c second with
      | some sign =>
          exact .inl ⟨second, others, sign, rfl, joined⟩
      | none =>
          refine .inr fun first rest starts => ?_
          cases starts
          exact joined

theorem spells_of_tokenize?
    {text : List Char} {tokens : List Token}
    (found : tokenize? text = some tokens) :
    Spells text tokens := by
  -- One token is taken off at a time, so the text gets shorter by more than one character.
  induction length : text.length using Nat.strongRecOn generalizing text tokens with
  | _ size inductionHypothesis =>
      subst length
      have spellsRest
          {rest : List Char} {others : List Token}
          (isShorter : rest.length < text.length)
          (foundRest : tokenize? rest = some others) :
          Spells rest others :=
        inductionHypothesis rest.length isShorter foundRest rfl
      cases text with
      | nil =>
          cases found
          exact .nil
      | cons c rest =>
          by_cases isSpace : Text.isSpace c = true
          · rw [tokenize?_cons_space isSpace] at found
            exact .space isSpace (spellsRest (Nat.lt_succ_self _) found)
          · by_cases isChar : isIdentifierChar c = true
            · obtain ⟨word, after, split, nonempty, chars, ends⟩ := exists_word isChar rest
              rw [split, tokenize?_word_append nonempty chars ends] at found
              obtain ⟨token, isToken, isRest⟩ := Option.bind_eq_some_iff.mp found
              obtain ⟨others, foundRest, rfl⟩ := Option.map_eq_some_iff.mp isRest
              have isShorter : after.length < (c :: rest).length := by
                rw [split, List.length_append]
                exact Nat.lt_add_of_pos_left (List.length_pos_of_ne_nil nonempty)
              rw [split]
              exact .word chars ends isToken (spellsRest isShorter foundRest)
            · have isMark : IsMark c := ⟨by simpa using isChar, by simpa using isSpace⟩
              rcases Operator.joins_or_alone c rest with
                ⟨second, after, sign, rfl, joined⟩ | alone
              · have isSecond : IsMark second :=
                  sign.isMark_of_mem_sign second
                    (by rw [Operator.ofMarks?_eq_some_iff.mp joined]; simp)
                rw [tokenize?_marks isMark isSecond joined] at found
                obtain ⟨others, foundRest, rfl⟩ := Option.map_eq_some_iff.mp found
                have isShorter := Nat.lt_succ_of_lt (Nat.lt_succ_self after.length)
                exact .marks joined (spellsRest isShorter foundRest)
              · rw [tokenize?_mark isMark alone] at found
                obtain ⟨token, isToken, isRest⟩ := Option.bind_eq_some_iff.mp found
                obtain ⟨others, foundRest, rfl⟩ := Option.map_eq_some_iff.mp isRest
                exact .mark alone isToken (spellsRest (Nat.lt_succ_self _) foundRest)

/-- The tokens of a text are the ones that it spells. -/
theorem tokenize?_eq_some_iff {text : List Char} {tokens : List Token} :
    tokenize? text = some tokens ↔ Spells text tokens :=
  ⟨spells_of_tokenize?, tokenize?_of_spells⟩

end ShaderBuild.Condition
