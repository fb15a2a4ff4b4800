import ShaderBuild.Text.Printable

namespace ShaderBuild.Text

/-!
# Quoted text

A text between double quotes in which every character is visible: quotes,
backslashes and the usual control characters get a backslash, and any other
character that would not show up on its own is written by its code point.
-/

/-- How one character stands inside quotes. -/
def quoteChar (c : Char) : List Char :=
  match c with
  | '\x00' => ['\\', '0']
  | '\t' => ['\\', 't']
  | '\r' => ['\\', 'r']
  | '\n' => ['\\', 'n']
  | '\\' => ['\\', '\\']
  | '"' => ['\\', '"']
  | _ =>
      if isPrintable c then
        [c]
      else
        ['\\', 'u', '\x7b'] ++ Nat.toDigits 16 c.toNat ++ ['\x7d']

/-- A text in double quotes. -/
def quoted (text : String) : String :=
  String.ofList ('"' :: text.toList.flatMap quoteChar ++ ['"'])

end ShaderBuild.Text
