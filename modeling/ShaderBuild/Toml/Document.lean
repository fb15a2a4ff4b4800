import ShaderBuild.Toml.Value

namespace ShaderBuild.Toml

/-!
# Documents

A document is a sequence of lines: blank ones, keys with their values, and headers
of tables. Arrays and inline tables nest to a fixed depth, which also bounds the
number of keys in a path.
-/

/-- Values nest, and paths of keys are, less deep than this. -/
def nestingLimit : Nat := 80

/-! ### Keys -/

/-- Characters of a key without quotes. -/
def isBareKeyChar (c : Char) : Bool :=
  c.isAlphanum || c = '-' || c = '_'

/-- The name of one key, in quotes or bare. -/
def keyName (text : List Char) : Reading (Parsed String) :=
  match text with
  | [] => stopAt []
  | c :: _ =>
      if (quotation? c).isSome then
        lineString text
      else
        match text.span isBareKeyChar with
        | ([], _) => stopAt text
        | (name, rest) => .ok (String.ofList name, rest)

/-- One key. -/
def key (text : List Char) : Reading (Parsed Key) := do
  let (name, rest) ← keyName text
  return (⟨name, ⟨text, rest⟩⟩, rest)

/--
Keys with dots and blanks between them, at most a number of them: those before the
last one, and the last one. A dot without a key after it does not belong to them.
-/
def keysAtMost : Nat → List Char → Reading (Parsed (List Key × Key))
  | 0, text => stopAt text
  | count + 1, text => do
      let (key, rest) ← key (skipBlanks text)
      match skipBlanks rest with
      | '.' :: after =>
          match ← optional (keysAtMost count after) with
          | some ((path, last), rest) => return ((key :: path, last), rest)
          | none => return (([], key), '.' :: after)
      | rest => return (([], key), rest)

/-- A path of keys: those before the last one, and the last one. -/
def keyPath (text : List Char) : Reading (Parsed (List Key × Key)) := do
  let ((path, last), rest) ← labelled "key" (keysAtMost (text.length + 1) text)
  if nestingLimit ≤ path.length + 1 then
    stopAt text { cause := some .tooDeep }
  else
    return ((path, last), rest)

/-! ### Comments and line ends -/

/-- Drop a comment. -/
def skipComment (text : List Char) : List Char :=
  match text with
  | '#' :: rest => rest.dropWhile isVisible
  | _ => text

/-- Drop the rest of a line that holds nothing but blanks and a comment. -/
def endLine (text : List Char) : Reading (List Char) :=
  match skipComment (skipBlanks text) with
  | [] => .ok []
  | rest =>
      match newline? rest with
      | some rest => .ok rest
      | none => expecting ["newline", "`#`"] (stopAt rest)

/-- Drop blanks, line ends and comments; every comment has to end with its line. -/
def skipFiller (inComment : Bool) : List Char → Reading (List Char)
  | [] => if inComment then stopAt [] else .ok []
  | '\r' :: '\n' :: rest => skipFiller false rest
  | '\n' :: rest => skipFiller false rest
  | '\r' :: rest => stopAt rest
  | c :: rest =>
      if inComment then
        if isVisible c then skipFiller true rest else stopAt rest
      else if isBlank c then skipFiller false rest
      else if c = '#' then skipFiller true rest
      else .ok (c :: rest)

/-- The text after a mark that may also be a dot between keys. -/
def expectAfterKeys (mark : List Char) (text : List Char) : Reading (List Char) :=
  committed (expecting ["`.`", "`" ++ String.ofList mark ++ "`"] (expect mark text))

/-! ### Values -/

/-- A reader of values. -/
abbrev ValueReader := List Char → Reading (Parsed Value)

/-- The text after the bracket that closes an array. -/
def closeArray (text : List Char) : Reading (List Char) :=
  committed (labelled "array" (expecting ["`]`"] (expect [']'] text)))

/-- A value of an array with what is dropped around it. -/
def arrayItem (read : ValueReader) (text : List Char) : Reading (Parsed Value) := do
  let (value, rest) ← read (← skipFiller false text)
  return (value, ← skipFiller false rest)

/-- The values that follow one after commas, at most a number of them; a comma may end them. -/
def moreItems (read : ValueReader) : Nat → List Char → Reading (Parsed (List Value))
  | count + 1, ',' :: text => do
      match ← optional (arrayItem read text) with
      | none => return ([], text)
      | some (value, rest) =>
          let (values, rest) ← moreItems read count rest
          return (value :: values, rest)
  | _, text => return ([], text)

/-- The values up to a closing bracket. -/
def arrayItems (read : ValueReader) (text : List Char) : Reading (Parsed (List Value)) := do
  let (values, rest) ←
    match ← optional (arrayItem read text) with
    | none => pure ([], text)
    | some (value, rest) =>
        let (values, rest) ← moreItems read text.length rest
        pure (value :: values, rest)
  return (values, ← closeArray (← skipFiller false rest))

/-- A path of keys with its value, up to what follows them. -/
def assignment (read : ValueReader) (text : List Char) :
    Reading (Parsed ((List Key × Key) × Value)) := do
  let (keys, rest) ← keyPath text
  let rest ← expectAfterKeys ['='] rest
  let (value, rest) ← committed (read (skipBlanks rest))
  return ((keys, value), skipBlanks rest)

/--
The keys and values between braces, at most a number of them. A comma without a key
after it does not belong to them; `unread` is the text that is left without any.
-/
def assignments (read : ValueReader) :
    Nat → List Char → List Char → Reading (Parsed (List ((List Key × Key) × Value)))
  | 0, unread, _ => return ([], unread)
  | count + 1, unread, text => do
      match ← optional (assignment read text) with
      | none => return ([], unread)
      | some (entry, ',' :: rest) =>
          let (others, rest) ← assignments read count (',' :: rest) rest
          return (entry :: others, rest)
      | some (entry, rest) => return ([entry], rest)

/-- The entries of an inline table, after its opening brace. -/
def inlineEntries (read : ValueReader) (text : List Char) : Reading (Parsed Table) := do
  let (entries, rest) ← assignments read text.length text text
  let table := entries.foldlM (fun (table : Table) ((path, key), value) =>
    table.insert .inline none path key value) (Table.empty .inline)
  match table with
  | .error cause => committed (stopAt text { cause := some cause })
  | .ok table =>
      let rest ← committed <| labelled "inline table" <| expecting ["`\x7d`"] <|
        expect ['\x7d'] (skipBlanks rest)
      return (table, rest)

/-- A value that nests arrays and inline tables to at most a depth. -/
def value : Nat → ValueReader
  | 0, text =>
      match text with
      | '[' :: _ | '\x7b' :: _ => committed (stopAt text { cause := some .tooDeep })
      | _ => (scalar text).map fun (scalar, rest) => (.scalar scalar ⟨text, rest⟩, rest)
  | depth + 1, text =>
      match text with
      | '[' :: rest => do
          let (items, rest) ← committed (arrayItems (value depth) rest)
          return (.array items ⟨text, rest⟩, rest)
      | '\x7b' :: rest => do
          let (table, rest) ← committed (inlineEntries (value depth) rest)
          return (.table { table with span := some ⟨text, rest⟩ }, rest)
      | _ => (scalar text).map fun (scalar, rest) => (.scalar scalar ⟨text, rest⟩, rest)

/-! ### Lines -/

/-- A document so far: its tables and the path of the table that keys are added to. -/
structure Progress where
  root : Table
  path : List Key

/--
A key as it is written where nothing else is known of it: bare, or else in double
quotes without escapes, or else in single quotes, or else with escapes.
-/
def quotedKey (name : String) : String :=
  let text := name.toList
  if name ≠ "" && text.all isBareKeyChar then
    name
  else if text.all isVisible && text.any (fun c => c = '"' || c = '\\') && !text.contains '\'' then
    "'" ++ name ++ "'"
  else
    let written (c : Char) : List Char :=
      match c with
      | '\x08' => ['\\', 'b']
      | '\t' => ['\\', 't']
      | '\n' => ['\\', 'n']
      | '\x0c' => ['\\', 'f']
      | '\r' => ['\\', 'r']
      | '"' => ['\\', '"']
      | '\\' => ['\\', '\\']
      | c =>
          if isVisible c then
            [c]
          else
            let digits := (Nat.toDigits 16 c.toNat).map Char.toUpper
            '\\' :: 'u' :: (List.replicate (4 - digits.length) '0' ++ digits)
    String.ofList ('"' :: text.flatMap written ++ ['"'])

/-- The cause of a header for a key that cannot have one. -/
def headerTaken (path : List Key) (key : Key) : Cause :=
  .duplicateKey (quotedKey key.name) (some (path.map (·.name)))

/-- Open a table by its header; one that was only implied is completed. -/
def Progress.openTable (progress : Progress) (path : List Key) (key : Key) (span : Span) :
    Except Cause Progress := do
  let root ← progress.root.update .header (fun table =>
    match table.find? key.name with
    | none => .ok (table.push key (.table (Table.empty .header span)))
    | some (.table inner) =>
        if inner.origin = .implied then
          .ok ((table.erase key.name).push key
            (.table { inner with origin := .header, span := some span }))
        else
          .error (headerTaken path key)
    | some _ => .error (headerTaken path key)) [] path
  return ⟨root, path ++ [key]⟩

/-- Open the next of several tables by its header. -/
def Progress.openNextTable (progress : Progress) (path : List Key) (key : Key) (span : Span) :
    Except Cause Progress := do
  let next := Table.empty .header span
  let root ← progress.root.update .header (fun table =>
    match table.find? key.name with
    | none => .ok (table.push key (.tables [next]))
    | some (.tables items) => .ok (table.replace key.name (.tables (items ++ [next])))
    | some _ => .error (headerTaken path key)) [] path
  return ⟨root, path ++ [key]⟩

/-- Add a key and its value to the open table, which then goes on to the end of the value. -/
def Progress.insert
    (progress : Progress) (path : List Key) (key : Key) (value : Value) :
    Except Cause Progress := do
  let names := progress.path.map (·.name)
  let root ← progress.root.update .header (fun table => do
    let span := match table.span, value.span? with
      | some span, some last => some (span.through last)
      | span, _ => span
    Table.insert .line (some names) path key value { table with span }) [] progress.path
  return ⟨root, progress.path⟩

/-- What is done at a place, with a cause of failure there. -/
def completeAt (place : List Char) (result : Except Cause α) : Reading α :=
  match result with
  | .ok result => .ok result
  | .error cause => stopAt place { cause := some cause }

/-- Read a header after its opening brackets up to the end of its line. -/
def headerPath (closing : List Char) (text : List Char) :
    Reading (Parsed ((List Key × Key) × List Char)) := do
  let (keys, rest) ← keyPath text
  let rest ← expectAfterKeys closing rest
  return ((keys, rest), ← endLine rest)

/-- Read a header. -/
def headerLine (progress : Progress) (text : List Char) : Reading (Parsed Progress) :=
  labelled "table header" <|
    match text with
    | '[' :: '[' :: rest => do
        let (((path, key), stop), rest) ← headerPath [']', ']'] rest
        let progress ← completeAt text (progress.openNextTable path key ⟨text, stop⟩)
        return (progress, rest)
    | '[' :: c :: rest => do
        let (((path, key), stop), rest) ← headerPath [']'] (c :: rest)
        let progress ← completeAt text (progress.openTable path key ⟨text, stop⟩)
        return (progress, rest)
    | _ => stopAt text

/-- Read a path of keys and its value. -/
def valueLine (progress : Progress) (text : List Char) : Reading (Parsed Progress) := do
  let (((path, key), value), rest) ← assignment (value (nestingLimit - 1)) text
  let rest ← endLine rest
  let progress ← completeAt text (progress.insert path key value)
  return (progress, rest)

/-- Read the lines of a text that has at most so many. -/
def linesFrom : Nat → Progress → List Char → Reading Progress
  | 0, progress, text => if text = [] then .ok progress else stopAt text
  | count + 1, progress, text => do
      let text := skipBlanks text
      match newline? text, text with
      | some rest, _ => linesFrom count progress rest
      | none, [] => return progress
      | none, '\r' :: _ => stopAt text
      | none, '#' :: _ =>
          match skipComment text with
          | [] => return progress
          | rest =>
              match newline? rest with
              | some rest => linesFrom count progress rest
              | none => stopAt rest
      | none, '[' :: _ =>
          let (progress, rest) ← headerLine progress text
          linesFrom count progress rest
      | none, _ =>
          let (progress, rest) ← valueLine progress text
          linesFrom count progress rest

/-- The table of a document; a byte order mark before it does not count. -/
def parse (text : List Char) : Reading Table := do
  let lines :=
    match text with
    | '\ufeff' :: rest => rest
    | _ => text
  let progress ← linesFrom (lines.length + 1) ⟨Table.empty .header, []⟩ lines
  return progress.root

end ShaderBuild.Toml
