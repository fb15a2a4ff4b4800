namespace ShaderBuild.Text

/-!
# UTF-8

Decoding reads one byte at a time. A byte string that is not UTF-8 is reported
with the length of its longest valid part and, unless it merely stops too early,
with the length of the malformed sequence that follows: the longest part of it
with which some valid sequence begins, and at least one byte.
-/

/-- Why a byte string is not UTF-8. -/
structure Malformed where
  /-- Length in bytes of the longest valid beginning. -/
  validUpTo : Nat
  /-- Bytes in the malformed sequence; none where the text stops inside a valid one. -/
  length : Option Nat
  deriving Repr, DecidableEq

/-- The report of a malformed text. -/
def Malformed.message (fault : Malformed) : String :=
  match fault.length with
  | some length =>
      s!"invalid utf-8 sequence of {length} bytes from index {fault.validUpTo}"
  | none =>
      s!"incomplete utf-8 byte sequence from index {fault.validUpTo}"

/-- A sequence that has begun: what was read of it and what may follow. -/
structure Partial where
  /-- Offset of the first byte. -/
  start : Nat
  /-- Payload bits read so far. -/
  value : Nat
  /-- Continuation bytes still owed after the next one. -/
  owed : Nat
  /-- Least value of the next byte. -/
  low : UInt8
  /-- Greatest value of the next byte. -/
  high : UInt8

/-- What a byte opens when it stands between two characters. -/
inductive Opening where
  | character (c : Char)
  | sequence (owed : Nat) (value : Nat) (low high : UInt8)
  | malformed

/-- Classify the first byte of a character. -/
def opening (byte : UInt8) : Opening :=
  let code := byte.toNat
  if code < 0x80 then .character (Char.ofNat code)
  else if code < 0xc2 then .malformed
  else if code < 0xe0 then .sequence 0 (code - 0xc0) 0x80 0xbf
  else if code = 0xe0 then .sequence 1 0 0xa0 0xbf
  else if code = 0xed then .sequence 1 0xd 0x80 0x9f
  else if code < 0xf0 then .sequence 1 (code - 0xe0) 0x80 0xbf
  else if code = 0xf0 then .sequence 2 0 0x90 0xbf
  else if code < 0xf4 then .sequence 2 (code - 0xf0) 0x80 0xbf
  else if code = 0xf4 then .sequence 2 4 0x80 0x8f
  else .malformed

/-- Decode the bytes from `offset` on, inside a sequence or between characters. -/
def decodeFrom (offset : Nat) (state : Option Partial) :
    List UInt8 → Except Malformed (List Char)
  | [] =>
      match state with
      | none => .ok []
      | some pending => .error ⟨pending.start, none⟩
  | byte :: rest =>
      match state with
      | none =>
          match opening byte with
          | .character c => (c :: ·) <$> decodeFrom (offset + 1) none rest
          | .sequence owed value low high =>
              decodeFrom (offset + 1) (some ⟨offset, value, owed, low, high⟩) rest
          | .malformed => .error ⟨offset, some 1⟩
      | some pending =>
          if pending.low ≤ byte && byte ≤ pending.high then
            let value := pending.value * 64 + (byte.toNat - 0x80)
            match pending.owed with
            | 0 => (Char.ofNat value :: ·) <$> decodeFrom (offset + 1) none rest
            | owed + 1 =>
                decodeFrom (offset + 1) (some ⟨pending.start, value, owed, 0x80, 0xbf⟩) rest
          else
            .error ⟨pending.start, some (offset - pending.start)⟩

/-- The text that bytes encode, or why they encode none. -/
def decode (bytes : List UInt8) : Except Malformed (List Char) :=
  decodeFrom 0 none bytes

/-- The UTF-8 encoding of a text. -/
def encode (text : List Char) : List UInt8 :=
  text.flatMap String.utf8EncodeChar

/-- Length in bytes of a text's encoding. -/
def byteLength (text : List Char) : Nat :=
  text.foldr (fun c rest => c.utf8Size + rest) 0

@[simp] theorem byteLength_nil : byteLength [] = 0 := rfl

@[simp] theorem byteLength_cons (c : Char) (rest : List Char) :
    byteLength (c :: rest) = c.utf8Size + byteLength rest := rfl

@[simp] theorem byteLength_append (first second : List Char) :
    byteLength (first ++ second) = byteLength first + byteLength second := by
  induction first with
  | nil => simp
  | cons c rest inductionHypothesis => simp [inductionHypothesis, Nat.add_assoc]

end ShaderBuild.Text
