namespace ShaderBuild.Text

/-!
# White space

The characters with the Unicode property White_Space, and trimming by it.
-/

/-- A character with the Unicode property White_Space. -/
def isSpace (c : Char) : Bool :=
  let code := c.toNat
  (9 ≤ code && code ≤ 13) || code = 0x20 || code = 0x85 || code = 0xa0 || code = 0x1680 ||
    (0x2000 ≤ code && code ≤ 0x200a) || code = 0x2028 || code = 0x2029 || code = 0x202f ||
    code = 0x205f || code = 0x3000

/-- Drop the white space a text starts with. -/
def trimStart (text : List Char) : List Char :=
  text.dropWhile isSpace

/-- Drop the white space a text ends with. -/
def trimEnd (text : List Char) : List Char :=
  (text.reverse.dropWhile isSpace).reverse

/-- Drop the white space around a text. -/
def trim (text : List Char) : List Char :=
  trimEnd (trimStart text)

@[simp] theorem trimStart_nil : trimStart [] = [] := rfl

end ShaderBuild.Text
