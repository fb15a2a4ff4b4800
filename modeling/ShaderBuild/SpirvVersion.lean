import ShaderBuild.Text.Lines
import ShaderBuild.Text.Space

namespace ShaderBuild

/-!
# SPIR-V versions

A version is written as two numbers of at most 255 with a point between them.
-/

/-- A version of SPIR-V. -/
structure SpirvVersion where
  major : UInt8
  minor : UInt8
  deriving Repr, DecidableEq

/-- Why a text is no version. -/
inductive VersionFault where
  | noPoint (text : String)
  | badMajor (text : String)
  | badMinor (text : String)
  deriving Repr, DecidableEq

/-- The report of a malformed version. -/
def VersionFault.message : VersionFault → String
  | .noPoint text => "expected a version like \"1.3\", found \"" ++ text ++ "\""
  | .badMajor text => "invalid major version \"" ++ text ++ "\""
  | .badMinor text => "invalid minor version \"" ++ text ++ "\""

namespace SpirvVersion

/-- The version as text. -/
def text (version : SpirvVersion) : String :=
  s!"{version.major.toNat}.{version.minor.toNat}"

/-- The number that decimal digits denote. -/
def decimal? (digits : List Char) : Option Nat :=
  if digits ≠ [] && digits.all Char.isDigit then
    some (digits.foldl (fun value c => value * 10 + (c.toNat - '0'.toNat)) 0)
  else
    none

/-- A number of at most 255, after a plus sign or none. -/
def part? (text : List Char) : Option UInt8 :=
  let digits :=
    match text with
    | '+' :: digits => digits
    | digits => digits
  match decimal? digits with
  | some value => if value < 256 then some (UInt8.ofNat value) else none
  | none => none

/-- Read a version; white space around it does not count. -/
def parse (text : String) : Except VersionFault SpirvVersion :=
  match Text.splitAround? '.' (Text.trim text.toList) with
  | none => .error (.noPoint text)
  | some (majorText, minorText) =>
      match part? majorText, part? minorText with
      | none, _ => .error (.badMajor (String.ofList majorText))
      | some _, none => .error (.badMinor (String.ofList minorText))
      | some major, some minor => .ok ⟨major, minor⟩

/-- Versions in ascending order: by major number, then by minor number. -/
def le (first second : SpirvVersion) : Bool :=
  first.major < second.major ||
    (first.major = second.major && first.minor ≤ second.minor)

end SpirvVersion

end ShaderBuild
