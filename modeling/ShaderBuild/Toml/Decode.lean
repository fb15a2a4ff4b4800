import ShaderBuild.CompilerConfig
import ShaderBuild.Text.Quoted
import ShaderBuild.Toml.Document

namespace ShaderBuild.Toml

/-!
# Typed values

Records are read from a table by their keys or from an array by position. Keys
that a record does not have are ignored, fields that are not given keep their
values, and the first value that does not fit, in the document's order, decides.
-/

/-- What is wrong with a document. -/
inductive Problem where
  /-- It is not well-formed. -/
  | malformed (complaint : Complaint)
  | wrongType (found : String) (expected : String)
  | wrongValue (found : String) (expected : String)
  | badVersion (fault : VersionFault)
  deriving Repr, DecidableEq

/-- A problem in words. -/
def Problem.message : Problem → String
  | .malformed complaint => complaint.message
  | .wrongType found expected => s!"invalid type: {found}, expected {expected}"
  | .wrongValue found expected => s!"invalid value: {found}, expected {expected}"
  | .badVersion fault => fault.message

/-- A problem, and where it is as far as that is known. -/
structure Objection where
  problem : Problem
  span : Option Span
  deriving Repr, DecidableEq

/-- The objection to a text that cannot be read. -/
def Failure.objection (failure : Failure) : Objection :=
  ⟨.malformed failure.complaint, some (.character failure.place)⟩

/-- What a value is decoded to. -/
abbrev Decoding := Except Objection

/-- Say where a problem is, unless that is known. -/
def located (span : Option Span) (decoding : Decoding α) : Decoding α :=
  decoding.mapError fun objection => { objection with span := objection.span <|> span }

/-- A value's kind and, for a short one, the value. -/
def Value.describe : Value → String
  | .scalar (.string text) _ => "string " ++ Text.quoted text
  | .scalar (.integer value) _ => "integer `" ++ toString value ++ "`"
  | .scalar (.float value) _ => "floating point `" ++ value.text ++ "`"
  | .scalar (.boolean value) _ => "boolean `" ++ toString value ++ "`"
  | .array _ _ | .tables _ => "sequence"
  | .scalar (.moment _) _ | .table _ => "map"

/-- Object to a value of another type. -/
def Value.unexpected (value : Value) (expected : String) : Decoding α :=
  .error ⟨.wrongType value.describe expected, value.span?⟩

/-- A string. -/
def Value.toText : Value → Decoding String
  | .scalar (.string text) _ => .ok text
  | value => value.unexpected "a string"

/-- A truth value. -/
def Value.toBool : Value → Decoding Bool
  | .scalar (.boolean value) _ => .ok value
  | value => value.unexpected "a boolean"

/-- A number that is not negative. -/
def Value.toNat (value : Value) : Decoding Nat :=
  match value with
  | .scalar (.integer (.ofNat number)) _ => .ok number
  | .scalar (.integer (.negSucc _)) span => .error ⟨.wrongValue value.describe "usize", span⟩
  | _ => value.unexpected "usize"

/-- A version; where a bad one is has to be told by what it stands in. -/
def Value.toVersion (value : Value) : Decoding SpirvVersion := do
  match SpirvVersion.parse (← value.toText) with
  | .ok version => .ok version
  | .error fault => .error ⟨.badVersion fault, none⟩

/-- The values of an array, or the tables of several. -/
def Value.items? : Value → Option (List Value)
  | .array items _ => some items
  | .tables items => some (items.map Value.table)
  | _ => none

/-- A list of strings. -/
def Value.toTexts (value : Value) : Decoding (List String) :=
  match value.items? with
  | some items => located value.span? (items.mapM Value.toText)
  | none => value.unexpected "a sequence"

/-- The key under which a date stands for a table of one entry. -/
def dateKey : String := "$__toml_private_datetime"

/-- Decode the value of a key; the key is where a problem is whose value stands nowhere. -/
def decodeEntry (decode : Value → Decoding α) (key : Key) (value : Value) : Decoding α :=
  located (value.span? <|> some key.span) (decode value)

/-- A table of strings. -/
def Value.toTextMap : Value → Decoding (List (String × String))
  | .table inner => inner.entries.mapM fun (key, value) => do
      return (key.name, ← decodeEntry Value.toText key value)
  | .scalar (.moment text) _ => .ok [(dateKey, text)]
  | value => value.unexpected "a map"

/-- A field of a record: its key, and how its value changes the record. -/
structure Field (α : Type) where
  key : String
  set : α → Value → Decoding α

/-- A record from the fields that a table has. -/
def Table.toRecord (fields : List (Field α)) (initial : α) (table : Table) : Decoding α :=
  table.entries.foldlM (fun record (key, value) =>
    match fields.find? (·.key = key.name) with
    | some field => decodeEntry (field.set record) key value
    | none => .ok record) initial

/-- A record with some of its fields given; `name` is what reports call it. -/
def Value.toRecord
    (name : String) (fields : List (Field α)) (initial : α) (value : Value) :
    Decoding α :=
  match value with
  | .table inner => located inner.span (Table.toRecord fields initial inner)
  | .scalar (.moment _) _ => .ok initial
  | _ =>
      match value.items? with
      | some items =>
          located value.span? <|
            (fields.zip items).foldlM (fun record (field, item) => field.set record item) initial
      | none => value.unexpected ("struct " ++ name)

/-- The fields of a compiler configuration. -/
def compilerFields : List (Field CompilerConfig) := [
  ⟨"spirv_version", fun config value => do
    return { config with spirvVersion := ← value.toVersion }⟩,
  ⟨"debug_names", fun config value => do
    return { config with debugNames := ← value.toBool }⟩,
  ⟨"max_include_depth", fun config value => do
    return { config with maxIncludeDepth := ← value.toNat }⟩]

/-- A compiler configuration, as it is given. -/
def Value.toCompilerConfig (value : Value) : Decoding CompilerConfig :=
  value.toRecord "CompilerConfig" compilerFields {}

/-- Why a document does not hold what is wanted. -/
structure Fault where
  document : List Char
  objection : Objection
  deriving Repr, DecidableEq

/-- The report of a value that does not fit; none for a malformed document. -/
def Fault.message? (fault : Fault) : Option String :=
  match fault.objection.problem with
  | .malformed _ => none
  | problem => some problem.message

/-- The part of a document that a fault is about, and what is wrong with it. -/
def Fault.report (fault : Fault) : String :=
  ((fault.objection.span.map (Span.excerpt fault.document)).getD "") ++
    fault.objection.problem.message ++ "\n"

/-- What a document holds. -/
def decode (decode : Value → Decoding α) (document : List Char) : Except Fault α :=
  let decoding := do
    let table ← (parse document).mapError Failure.objection
    decode (.table table)
  decoding.mapError (Fault.mk document)

end ShaderBuild.Toml
