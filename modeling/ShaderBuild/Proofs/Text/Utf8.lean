import ShaderBuild.Text.Utf8

namespace ShaderBuild.Text

/-!
# Decoding is the inverse of encoding

A first byte that opens a sequence says how many bytes follow and between which bounds
the next one lies. The bounds leave exactly the shortest spelling of each code point
that is a character, so the sequences that decoding takes to their ends are those that
encoding writes, and bytes are read as a text exactly when they are its encoding.
-/

/--
The bytes that end a sequence in which `owed` bytes follow the next one, and the next
one lies between two bounds.
-/
inductive Continues : (owed : Nat) → (low high : UInt8) → List UInt8 → Prop where
  | last
      {low high byte : UInt8}
      (within : (low ≤ byte && byte ≤ high) = true) :
      Continues 0 low high [byte]
  | more
      {owed : Nat} {low high byte : UInt8} {others : List UInt8}
      (within : (low ≤ byte && byte ≤ high) = true)
      (continues : Continues owed 0x80 0xbf others) :
      Continues (owed + 1) low high (byte :: others)

/-- The payload of a sequence with the six bits of one more byte. -/
def withByte (value : Nat) (byte : UInt8) : Nat :=
  value * 64 + (byte.toNat - 0x80)

section

variable {low high byte : UInt8} (within : (low ≤ byte && byte ≤ high) = true)

include within

/-- The last byte of a sequence gives its character. -/
theorem decodeFrom_last (offset start value : Nat) (rest : List UInt8) :
    decodeFrom offset (some ⟨start, value, 0, low, high⟩) (byte :: rest) =
      (Char.ofNat (withByte value byte) :: ·) <$> decodeFrom (offset + 1) none rest :=
  if_pos within

/-- A byte before the last one goes on with a sequence. -/
theorem decodeFrom_more (offset start value owed : Nat) (rest : List UInt8) :
    decodeFrom offset (some ⟨start, value, owed + 1, low, high⟩) (byte :: rest) =
      decodeFrom (offset + 1) (some ⟨start, withByte value byte, owed, 0x80, 0xbf⟩) rest :=
  if_pos within

end

/-- A sequence that is continued to its end is read as one character. -/
theorem decodeFrom_append_of_continues
    {owed : Nat}
    {low high : UInt8}
    {bytes : List UInt8}
    (continues : Continues owed low high bytes)
    (offset start value : Nat)
    (rest : List UInt8) :
    decodeFrom offset (some ⟨start, value, owed, low, high⟩) (bytes ++ rest) =
      (Char.ofNat (bytes.foldl withByte value) :: ·) <$>
        decodeFrom (offset + owed + 1) none rest := by
  induction continues generalizing offset value with
  | last within =>
      exact decodeFrom_last within offset start value rest
  | @more owed low high byte others within continues inductionHypothesis =>
      rw [List.cons_append, decodeFrom_more within, inductionHypothesis, List.foldl_cons,
        Nat.add_right_comm offset 1 owed, Nat.add_assoc offset owed 1]

/-- A sequence that is read is continued to its end. -/
theorem continues_of_decodeFrom
    {offset start value owed : Nat}
    {low high : UInt8}
    {bytes : List UInt8}
    {text : List Char}
    (decodes :
      decodeFrom offset (some ⟨start, value, owed, low, high⟩) bytes = .ok text) :
    ∃ sequence rest, bytes = sequence ++ rest ∧ Continues owed low high sequence := by
  induction bytes generalizing offset value owed low high with
  | nil =>
      cases decodes
  | cons byte rest inductionHypothesis =>
      by_cases within : (low ≤ byte && byte ≤ high) = true
      · cases owed with
        | zero =>
            exact ⟨[byte], rest, rfl, .last within⟩
        | succ owed =>
            rw [decodeFrom_more within] at decodes
            obtain ⟨others, after, rfl, continues⟩ := inductionHypothesis decodes
            exact ⟨byte :: others, after, rfl, .more within continues⟩
      · rw [decodeFrom] at decodes
        simp only [within] at decodes
        cases decodes

theorem withByte_add (value : Nat) {byte : UInt8} (atLeast : 0x80 ≤ byte.toNat) :
    withByte value byte + 0x80 = value * 64 + byte.toNat := by
  unfold withByte
  omega

/-- What a first byte opens, by the number of bytes in its sequence. -/
theorem opening_eq (byte : UInt8) :
    opening byte =
      if byte.toNat < 0x80 then .character (Char.ofNat byte.toNat)
      else if byte.toNat < 0xc2 then .malformed
      else if byte.toNat < 0xe0 then .sequence 0 (byte.toNat - 0xc0) 0x80 0xbf
      else if byte.toNat < 0xf0 then
        .sequence 1 (byte.toNat - 0xe0) (if byte.toNat = 0xe0 then 0xa0 else 0x80)
          (if byte.toNat = 0xed then 0x9f else 0xbf)
      else if byte.toNat < 0xf5 then
        .sequence 2 (byte.toNat - 0xf0) (if byte.toNat = 0xf0 then 0x90 else 0x80)
          (if byte.toNat = 0xf4 then 0x8f else 0xbf)
      else .malformed := by
  unfold opening
  generalize byte.toNat = code
  grind

namespace Continues

theorem bounds {low high byte : UInt8} (within : (low ≤ byte && byte ≤ high) = true) :
    low.toNat ≤ byte.toNat ∧ byte.toNat ≤ high.toNat := by
  simpa only [Bool.and_eq_true, decide_eq_true_eq, UInt8.le_iff_toNat_le] using within

variable {low high : UInt8} {bytes : List UInt8}

theorem zero_iff :
    Continues 0 low high bytes ↔
      ∃ byte : UInt8,
        bytes = [byte] ∧ low.toNat ≤ byte.toNat ∧ byte.toNat ≤ high.toNat := by
  constructor
  · rintro (within | within)
    exact ⟨_, rfl, bounds within⟩
  · rintro ⟨byte, rfl, atLeast, atMost⟩
    exact .last (by simp [UInt8.le_iff_toNat_le, atLeast, atMost])

theorem succ_iff {owed : Nat} :
    Continues (owed + 1) low high bytes ↔
      ∃ (byte : UInt8) (others : List UInt8),
        bytes = byte :: others ∧ low.toNat ≤ byte.toNat ∧ byte.toNat ≤ high.toNat ∧
          Continues owed 0x80 0xbf others := by
  constructor
  · rintro (within | ⟨within, continues⟩)
    exact ⟨_, _, rfl, (bounds within).1, (bounds within).2, continues⟩
  · rintro ⟨byte, others, rfl, atLeast, atMost, continues⟩
    exact .more (by simp [UInt8.le_iff_toNat_le, atLeast, atMost]) continues

end Continues

/-! ### Characters -/

theorem ofNat_eq {n : Nat} {byte : UInt8} (same : byte.toNat = n) : UInt8.ofNat n = byte := by
  rw [← same, UInt8.ofNat_toNat]

section

variable {code : Nat} (valid : code.isValidChar)

include valid

theorem toNat_val_ofNat : (Char.ofNat code).val.toNat = code := by
  unfold Char.ofNat
  rw [dif_pos valid]
  rfl

theorem encode_one
    {byte : UInt8}
    (small : code ≤ 0x7f)
    (isByte : byte.toNat = code) :
    String.utf8EncodeChar (Char.ofNat code) = [byte] := by
  simp only [String.utf8EncodeChar, toNat_val_ofNat valid]
  rw [if_pos small, ofNat_eq isByte]

theorem encode_two
    {first second : UInt8}
    (large : 0x7f < code)
    (small : code ≤ 0x7ff)
    (isFirst : first.toNat = code / 64 + 0xc0)
    (isSecond : second.toNat = code % 64 + 0x80) :
    String.utf8EncodeChar (Char.ofNat code) = [first, second] := by
  simp only [String.utf8EncodeChar, toNat_val_ofNat valid]
  rw [if_neg (by omega), if_pos small, ofNat_eq (show first.toNat = _ by omega), ofNat_eq isSecond]

theorem encode_three
    {first second third : UInt8}
    (large : 0x7ff < code)
    (small : code ≤ 0xffff)
    (isFirst : first.toNat = code / 4096 + 0xe0)
    (isSecond : second.toNat = code / 64 % 64 + 0x80)
    (isThird : third.toNat = code % 64 + 0x80) :
    String.utf8EncodeChar (Char.ofNat code) = [first, second, third] := by
  simp only [String.utf8EncodeChar, toNat_val_ofNat valid]
  rw [if_neg (by omega), if_neg (by omega), if_pos small, ofNat_eq (show first.toNat = _ by omega),
    ofNat_eq isSecond, ofNat_eq isThird]

theorem encode_four
    {first second third fourth : UInt8}
    (large : 0xffff < code)
    (isFirst : first.toNat = code / 262144 + 0xf0)
    (isSecond : second.toNat = code / 4096 % 64 + 0x80)
    (isThird : third.toNat = code / 64 % 64 + 0x80)
    (isFourth : fourth.toNat = code % 64 + 0x80) :
    String.utf8EncodeChar (Char.ofNat code) = [first, second, third, fourth] := by
  have bounded : code < 0x110000 := by
    unfold Nat.isValidChar at valid
    omega
  simp only [String.utf8EncodeChar, toNat_val_ofNat valid]
  rw [if_neg (by omega), if_neg (by omega), if_neg (by omega),
    ofNat_eq (show first.toNat = _ by omega), ofNat_eq isSecond, ofNat_eq isThird,
    ofNat_eq isFourth]

end

/-- A byte that opens a sequence, with bytes that continue it, is one encoded character. -/
theorem encode_of_opening
    {first low high : UInt8}
    {owed value : Nat}
    {bytes : List UInt8}
    (opens : opening first = .sequence owed value low high)
    (continues : Continues owed low high bytes) :
    String.utf8EncodeChar (Char.ofNat (bytes.foldl withByte value)) = first :: bytes := by
  rw [opening_eq] at opens
  split at opens
  · cases opens
  split at opens
  · cases opens
  split at opens
  · cases opens
    obtain ⟨second, rfl, atLeast, atMost⟩ := Continues.zero_iff.mp continues
    simp only [UInt8.reduceToNat] at atLeast atMost
    have code := withByte_add (first.toNat - 0xc0) atLeast
    rw [List.foldl_cons, List.foldl_nil]
    apply encode_two <;> omega
  split at opens
  · cases opens
    obtain ⟨second, others, rfl, atLeast, atMost, continues⟩ := Continues.succ_iff.mp continues
    obtain ⟨third, rfl, atLeast', atMost'⟩ := Continues.zero_iff.mp continues
    simp only [apply_ite UInt8.toNat, UInt8.reduceToNat] at atLeast atMost atLeast' atMost'
    -- The bounds of the second byte leave out longer spellings than needed, and surrogates.
    have notShort : 0x80 ≤ second.toNat ∧ (first.toNat = 0xe0 → 0xa0 ≤ second.toNat) := by
      split at atLeast <;> omega
    have notSurrogate : second.toNat ≤ 0xbf ∧ (first.toNat = 0xed → second.toNat ≤ 0x9f) := by
      split at atMost <;> omega
    have high := withByte_add (first.toNat - 0xe0) notShort.1
    have code := withByte_add (withByte (first.toNat - 0xe0) second) atLeast'
    rw [List.foldl_cons, List.foldl_cons, List.foldl_nil]
    apply encode_three <;> omega
  split at opens
  · cases opens
    obtain ⟨second, others, rfl, atLeast, atMost, continues⟩ := Continues.succ_iff.mp continues
    obtain ⟨third, others, rfl, atLeast', atMost', continues⟩ := Continues.succ_iff.mp continues
    obtain ⟨fourth, rfl, atLeast'', atMost''⟩ := Continues.zero_iff.mp continues
    simp only [apply_ite UInt8.toNat, UInt8.reduceToNat]
      at atLeast atMost atLeast' atMost' atLeast'' atMost''
    have notShort : 0x80 ≤ second.toNat ∧ (first.toNat = 0xf0 → 0x90 ≤ second.toNat) := by
      split at atLeast <;> omega
    have notLarge : second.toNat ≤ 0xbf ∧ (first.toNat = 0xf4 → second.toNat ≤ 0x8f) := by
      split at atMost <;> omega
    have high := withByte_add (first.toNat - 0xf0) notShort.1
    have middle := withByte_add (withByte (first.toNat - 0xf0) second) atLeast'
    have code := withByte_add (withByte (withByte (first.toNat - 0xf0) second) third) atLeast''
    rw [List.foldl_cons, List.foldl_cons, List.foldl_cons, List.foldl_nil]
    apply encode_four <;> omega
  · cases opens

theorem exists_toNat_eq {n : Nat} (small : n < 256) : ∃ byte : UInt8, byte.toNat = n :=
  ⟨UInt8.ofNat n, UInt8.toNat_ofNat_of_lt' small⟩

/-- The first byte opens a sequence that the others continue to the code point. -/
def Spells (code : Nat) (first : UInt8) (others : List UInt8) : Prop :=
  ∃ owed value low high,
    opening first = .sequence owed value low high ∧
      Continues owed low high others ∧ others.foldl withByte value = code

theorem spells_two
    {code : Nat}
    {first second : UInt8}
    (large : 0x7f < code)
    (small : code ≤ 0x7ff)
    (isFirst : first.toNat = code / 64 + 0xc0)
    (isSecond : second.toNat = code % 64 + 0x80) :
    Spells code first [second] := by
  have payload := withByte_add (first.toNat - 0xc0) (show 0x80 ≤ second.toNat by omega)
  have opens := opening_eq first
  rw [if_neg (by omega), if_neg (by omega), if_pos (by omega)] at opens
  refine ⟨_, _, _, _, opens, ?_, ?_⟩
  · refine Continues.zero_iff.mpr ⟨second, rfl, ?_, ?_⟩ <;>
      simp only [UInt8.reduceToNat] <;> omega
  · rw [List.foldl_cons, List.foldl_nil]
    omega

theorem spells_three
    {code : Nat}
    (valid : code.isValidChar)
    {first second third : UInt8}
    (large : 0x7ff < code)
    (small : code ≤ 0xffff)
    (isFirst : first.toNat = code / 4096 + 0xe0)
    (isSecond : second.toNat = code / 64 % 64 + 0x80)
    (isThird : third.toNat = code % 64 + 0x80) :
    Spells code first [second, third] := by
  have high := withByte_add (first.toNat - 0xe0) (show 0x80 ≤ second.toNat by omega)
  have payload :=
    withByte_add (withByte (first.toNat - 0xe0) second) (show 0x80 ≤ third.toNat by omega)
  have opens := opening_eq first
  rw [if_neg (by omega), if_neg (by omega), if_neg (by omega), if_pos (by omega)] at opens
  refine ⟨_, _, _, _, opens, ?_, ?_⟩
  · refine Continues.succ_iff.mpr ⟨second, [third], rfl, ?_, ?_,
      Continues.zero_iff.mpr ⟨third, rfl, ?_, ?_⟩⟩ <;>
      simp only [apply_ite UInt8.toNat, UInt8.reduceToNat] <;> grind
  · rw [List.foldl_cons, List.foldl_cons, List.foldl_nil]
    omega

theorem spells_four
    {code : Nat}
    (valid : code.isValidChar)
    {first second third fourth : UInt8}
    (large : 0xffff < code)
    (isFirst : first.toNat = code / 262144 + 0xf0)
    (isSecond : second.toNat = code / 4096 % 64 + 0x80)
    (isThird : third.toNat = code / 64 % 64 + 0x80)
    (isFourth : fourth.toNat = code % 64 + 0x80) :
    Spells code first [second, third, fourth] := by
  have high := withByte_add (first.toNat - 0xf0) (show 0x80 ≤ second.toNat by omega)
  have middle :=
    withByte_add (withByte (first.toNat - 0xf0) second) (show 0x80 ≤ third.toNat by omega)
  have payload :=
    withByte_add (withByte (withByte (first.toNat - 0xf0) second) third)
      (show 0x80 ≤ fourth.toNat by omega)
  have opens := opening_eq first
  rw [if_neg (by omega), if_neg (by omega), if_neg (by omega), if_neg (by omega),
    if_pos (by omega)] at opens
  refine ⟨_, _, _, _, opens, ?_, ?_⟩
  · refine Continues.succ_iff.mpr ⟨second, [third, fourth], rfl, ?_, ?_,
      Continues.succ_iff.mpr ⟨third, [fourth], rfl, ?_, ?_,
      Continues.zero_iff.mpr ⟨fourth, rfl, ?_, ?_⟩⟩⟩ <;>
      simp only [apply_ite UInt8.toNat, UInt8.reduceToNat] <;> grind
  · rw [List.foldl_cons, List.foldl_cons, List.foldl_cons, List.foldl_nil]
    omega

/-- The first byte of an encoded character is the character, or opens its sequence. -/
theorem utf8EncodeChar_cases (c : Char) :
    (∃ byte, String.utf8EncodeChar c = [byte] ∧ opening byte = .character c) ∨
      ∃ first others,
        String.utf8EncodeChar c = first :: others ∧ Spells c.toNat first others := by
  obtain ⟨code, valid, rfl⟩ : ∃ code : Nat, code.isValidChar ∧ Char.ofNat code = c :=
    ⟨c.toNat, c.valid, Char.ofNat_toNat c⟩
  have sameCode : (Char.ofNat code).toNat = code := toNat_val_ofNat valid
  rw [sameCode]
  by_cases one : code ≤ 0x7f
  · obtain ⟨byte, isByte⟩ := exists_toNat_eq (show code < 256 by omega)
    refine .inl ⟨byte, encode_one valid one isByte, ?_⟩
    rw [opening_eq, if_pos (by omega), isByte]
  right
  obtain ⟨last, isLast⟩ := exists_toNat_eq (show code % 64 + 0x80 < 256 by omega)
  by_cases two : code ≤ 0x7ff
  · obtain ⟨first, isFirst⟩ := exists_toNat_eq (show code / 64 + 0xc0 < 256 by omega)
    exact ⟨first, [last], encode_two valid (by omega) two isFirst isLast,
      spells_two (by omega) two isFirst isLast⟩
  obtain ⟨third, isThird⟩ := exists_toNat_eq (show code / 64 % 64 + 0x80 < 256 by omega)
  by_cases three : code ≤ 0xffff
  · obtain ⟨first, isFirst⟩ := exists_toNat_eq (show code / 4096 + 0xe0 < 256 by omega)
    exact ⟨first, [third, last],
      encode_three valid (by omega) three isFirst isThird isLast,
      spells_three valid (by omega) three isFirst isThird isLast⟩
  have bounded : code < 0x110000 := by omega
  obtain ⟨first, isFirst⟩ := exists_toNat_eq (show code / 262144 + 0xf0 < 256 by omega)
  obtain ⟨second, isSecond⟩ := exists_toNat_eq (show code / 4096 % 64 + 0x80 < 256 by omega)
  exact ⟨first, [second, third, last],
    encode_four valid (by omega) isFirst isSecond isThird isLast,
    spells_four valid (by omega) isFirst isSecond isThird isLast⟩

/-! ### Texts -/

@[simp] theorem encode_cons (c : Char) (others : List Char) :
    encode (c :: others) = String.utf8EncodeChar c ++ encode others := rfl

theorem exists_of_map_eq_ok
    {ε α β : Type}
    {compute : α → β}
    {answer : Except ε α}
    {value : β}
    (succeeds : compute <$> answer = .ok value) :
    ∃ given, answer = .ok given ∧ value = compute given := by
  cases answer with
  | error fault =>
      cases succeeds
  | ok given =>
      cases succeeds
      exact ⟨given, rfl, rfl⟩

theorem decodeFrom_opening
    {first low high : UInt8}
    {owed value : Nat}
    (opens : opening first = .sequence owed value low high)
    (offset : Nat)
    (rest : List UInt8) :
    decodeFrom offset none (first :: rest) =
      decodeFrom (offset + 1) (some ⟨offset, value, owed, low, high⟩) rest := by
  rw [decodeFrom]
  simp only [opens]

theorem decodeFrom_character
    {byte : UInt8}
    {c : Char}
    (isCharacter : opening byte = .character c)
    (offset : Nat)
    (rest : List UInt8) :
    decodeFrom offset none (byte :: rest) = (c :: ·) <$> decodeFrom (offset + 1) none rest := by
  rw [decodeFrom]
  simp only [isCharacter]

/-- An encoded character is read first. -/
theorem decodeFrom_utf8EncodeChar_append (offset : Nat) (c : Char) (rest : List UInt8) :
    ∃ next,
      decodeFrom offset none (String.utf8EncodeChar c ++ rest) =
        (c :: ·) <$> decodeFrom next none rest := by
  obtain ⟨byte, encoded, isCharacter⟩ | ⟨first, others, encoded, spells⟩ :=
    utf8EncodeChar_cases c
  · exact ⟨offset + 1, by rw [encoded]; exact decodeFrom_character isCharacter offset rest⟩
  · obtain ⟨owed, value, low, high, opens, continues, payload⟩ := spells
    refine ⟨offset + 1 + owed + 1, ?_⟩
    rw [encoded, List.cons_append, decodeFrom_opening opens,
      decodeFrom_append_of_continues continues, payload, Char.ofNat_toNat]

theorem decodeFrom_encode (offset : Nat) (text : List Char) :
    decodeFrom offset none (encode text) = .ok text := by
  -- Offsets only place faults, so the induction is for all of them.
  induction text generalizing offset with
  | nil =>
      rfl
  | cons c others inductionHypothesis =>
      obtain ⟨next, reads⟩ := decodeFrom_utf8EncodeChar_append offset c (encode others)
      rw [encode_cons, reads, inductionHypothesis]
      rfl

/-- Bytes that are read as a text begin with the encoding of its first character. -/
theorem exists_cons_of_decodeFrom
    {offset : Nat}
    {first : UInt8}
    {bytes : List UInt8}
    {text : List Char}
    (decodes : decodeFrom offset none (first :: bytes) = .ok text) :
    ∃ c next rest others,
      first :: bytes = String.utf8EncodeChar c ++ rest ∧
        decodeFrom next none rest = .ok others ∧ text = c :: others := by
  cases opens : opening first with
  | character c =>
      rw [decodeFrom_character opens] at decodes
      obtain ⟨others, reads, rfl⟩ := exists_of_map_eq_ok decodes
      refine ⟨c, offset + 1, bytes, others, ?_, reads, rfl⟩
      rw [opening_eq] at opens
      split at opens
      · rename_i small
        cases opens
        rw [encode_one (.inl (by omega)) (by omega) rfl, List.singleton_append]
      · repeat' split at opens
        all_goals cases opens
  | sequence owed value low high =>
      rw [decodeFrom_opening opens] at decodes
      obtain ⟨sequence, rest, rfl, continues⟩ := continues_of_decodeFrom decodes
      rw [decodeFrom_append_of_continues continues] at decodes
      obtain ⟨others, reads, rfl⟩ := exists_of_map_eq_ok decodes
      refine ⟨_, _, rest, others, ?_, reads, rfl⟩
      rw [encode_of_opening opens continues, List.cons_append]
  | malformed =>
      rw [decodeFrom] at decodes
      simp only [opens] at decodes
      cases decodes

theorem encode_of_decodeFrom
    {offset : Nat}
    {bytes : List UInt8}
    {text : List Char}
    (decodes : decodeFrom offset none bytes = .ok text) :
    encode text = bytes := by
  induction text generalizing offset bytes with
  | nil =>
      cases bytes with
      | nil =>
          rfl
      | cons first rest =>
          obtain ⟨c, next, rest, others, -, -, isCons⟩ := exists_cons_of_decodeFrom decodes
          cases isCons
  | cons c text inductionHypothesis =>
      cases bytes with
      | nil =>
          cases decodes
      | cons first rest =>
          obtain ⟨c, next, rest, others, encoded, reads, isCons⟩ :=
            exists_cons_of_decodeFrom decodes
          cases isCons
          rw [encode_cons, inductionHypothesis reads, encoded]

/-- Bytes are decoded to a text exactly when they are its encoding. -/
theorem decode_eq_ok_iff {bytes : List UInt8} {text : List Char} :
    decode bytes = .ok text ↔ bytes = encode text :=
  ⟨fun decodes => (encode_of_decodeFrom decodes).symm,
    fun encoded => encoded ▸ decodeFrom_encode 0 text⟩

end ShaderBuild.Text
