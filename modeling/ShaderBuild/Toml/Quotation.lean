import ShaderBuild.Toml.Digits

namespace ShaderBuild.Toml

/-!
# Strings

Strings stand between double quotes, where a backslash has a meaning, or between
single ones, where it has none. Three quotes open and close a string that may have
several lines.
-/

/-- The kinds of strings. -/
structure Quotation where
  /-- The quote that opens and closes the string. -/
  quote : Char
  /-- Whether a backslash has a meaning. -/
  hasEscapes : Bool
  /-- Whether three quotes open and close it, and it may have several lines. -/
  isMultiline : Bool

/-- What a kind of string is called. -/
def Quotation.label (quotation : Quotation) : String :=
  (if quotation.isMultiline then "multiline " else "") ++
    (if quotation.hasEscapes then "basic string" else "literal string")

/-- The kind of string on one line that a quote opens. -/
def quotation? : Char → Option Quotation
  | '"' => some ⟨'"', true, false⟩
  | '\'' => some ⟨'\'', false, false⟩
  | _ => none

/-- The character that hexadecimal digits denote. -/
def scalar? (digits : List Char) : Option Char :=
  let code := digitsValue 16 digits
  if h : code.isValidChar then some (Char.ofNatAux code h) else none

/-- The character that a text denotes with its first digits. -/
def hexCode (count : Nat) (text : List Char) : Reading Char :=
  labelled s!"unicode {count}-digit hex code" <|
    let digits := text.take count
    if digits.length = count && digits.all (isDigitIn 16) then
      match scalar? digits with
      | some c => .ok c
      | none => stopAt text { cause := some .outOfRange }
    else
      stopAt text

/-- The character that a backslash and a letter denote. -/
def escaped? : Char → Option Char
  | 'b' => some '\x08'
  | 't' => some '\t'
  | 'n' => some '\n'
  | 'f' => some '\x0c'
  | 'r' => some '\r'
  | '"' => some '"'
  | '\\' => some '\\'
  | _ => none

/-- Stop at a letter without a meaning; after it if it has a single byte. -/
def unknownEscape (letter : Char) (rest : List Char) : Reading α :=
  stopAt (if letter.utf8Size = 1 then rest else letter :: rest)
    { label := some "escape sequence",
      expected := ["`b`", "`f`", "`n`", "`r`", "`t`", "`u`", "`U`", "`\\`", "`\"`"] }

/-- Whether a backslash is followed by nothing but blanks on its line. -/
def continuesLine (text : List Char) : Bool :=
  (newline? (skipBlanks text)).isSome

/-- Whether something can follow quotes that do not close a string of several lines. -/
def Quotation.continuesAt (quotation : Quotation) : List Char → Bool
  | [] => false
  | c :: rest => quotation.hasEscapes || isVisible c || (newline? (c :: rest)).isSome

/--
The rest of a string and its closing quotes. After a backslash at the end of a
line, `trimming` holds until the next character that is no blank or line end. Up to
two quotes may stand directly before three closing ones.
-/
def stringRest (quotation : Quotation) (trimming : Bool) : List Char → Reading (Parsed (List Char))
  | [] => stopAt []
  | '\r' :: '\n' :: rest =>
      if !quotation.isMultiline then stopAt ('\r' :: '\n' :: rest)
      else if trimming then stringRest quotation true rest
      else (stringRest quotation false rest).map fun (text, rest) => ('\n' :: text, rest)
  | '\n' :: rest =>
      if !quotation.isMultiline then stopAt ('\n' :: rest)
      else if trimming then stringRest quotation true rest
      else (stringRest quotation false rest).map fun (text, rest) => ('\n' :: text, rest)
  | c :: rest =>
      if trimming && isBlank c then
        stringRest quotation true rest
      else if c = quotation.quote then
        if !quotation.isMultiline then
          .ok ([], rest)
        else
          let others := (rest.takeWhile (· = c)).length
          if others = 2 then
            .ok ([], rest.drop 2)
          else if 5 ≤ others then
            .ok ([c, c], rest.drop 4)
          else if others < 2 && !quotation.continuesAt (rest.drop others) then
            stopAt (c :: rest)
          else
            (stringRest quotation false rest).map fun (text, rest) => (c :: text, rest)
      else if c = '\\' && quotation.hasEscapes then
        if quotation.isMultiline && continuesLine rest then
          stringRest quotation true rest
        else
          match rest with
          | [] => stopAt (c :: rest)
          | 'u' :: rest => do
              let decoded ← hexCode 4 rest
              match rest with
              | _ :: _ :: _ :: _ :: rest =>
                  (stringRest quotation false rest).map fun (text, rest) =>
                    (decoded :: text, rest)
              | _ => stopAt rest
          | 'U' :: rest => do
              let decoded ← hexCode 8 rest
              match rest with
              | _ :: _ :: _ :: _ :: _ :: _ :: _ :: _ :: rest =>
                  (stringRest quotation false rest).map fun (text, rest) =>
                    (decoded :: text, rest)
              | _ => stopAt rest
          | letter :: rest =>
              match escaped? letter with
              | some decoded =>
                  (stringRest quotation false rest).map fun (text, rest) =>
                    (decoded :: text, rest)
              | none => unknownEscape letter rest
      else if isVisible c then
        (stringRest quotation false rest).map fun (text, rest) => (c :: text, rest)
      else
        stopAt (c :: rest)

/-- A string of a kind, after the quotes that open it. -/
def stringOf (quotation : Quotation) (text : List Char) : Reading (Parsed String) :=
  committed <| labelled quotation.label <|
    (stringRest quotation false text).map fun (text, rest) => (String.ofList text, rest)

/-- A string on one line. -/
def lineString (text : List Char) : Reading (Parsed String) :=
  match text with
  | quote :: rest =>
      match quotation? quote with
      | some quotation => stringOf quotation rest
      | none => stopAt text
  | [] => stopAt text

/-- A string of any kind; a line end directly after three opening quotes does not count. -/
def anyString (text : List Char) : Reading (Parsed String) :=
  match text with
  | first :: second :: third :: rest =>
      match quotation? first with
      | some quotation =>
          if first = second && second = third then
            stringOf { quotation with isMultiline := true } ((newline? rest).getD rest)
          else
            stringOf quotation (second :: third :: rest)
      | none => stopAt text
  | _ => lineString text

end ShaderBuild.Toml
