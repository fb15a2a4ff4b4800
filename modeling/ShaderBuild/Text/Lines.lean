namespace ShaderBuild.Text

/-!
# Lines

A line ends at a line feed, or at the end of the text. A carriage return directly
before the line feed belongs to the line's end; any other one belongs to the line.
The empty text has no line, and a text that ends in a line feed has none after it.
-/

/-- The lines of a text, without their ends. -/
def lines : List Char → List (List Char)
  | [] => []
  | '\n' :: rest => [] :: lines rest
  | '\r' :: '\n' :: rest => [] :: lines rest
  | c :: rest =>
      match lines rest with
      | [] => [[c]]
      | line :: others => (c :: line) :: others

/-- The parts of a text between its line feeds; there is one more of them than of those. -/
def fragments : List Char → List (List Char)
  | [] => [[]]
  | '\n' :: rest => [] :: fragments rest
  | c :: rest =>
      match fragments rest with
      | [] => [[c]]
      | fragment :: others => (c :: fragment) :: others

/-- The text in which each line is followed by a line feed. -/
def unlines (lines : List (List Char)) : List Char :=
  lines.flatMap (· ++ ['\n'])

@[simp] theorem unlines_nil : unlines [] = [] := rfl

@[simp] theorem unlines_cons (line : List Char) (others : List (List Char)) :
    unlines (line :: others) = line ++ '\n' :: unlines others := by
  simp [unlines]

@[simp] theorem unlines_append (first second : List (List Char)) :
    unlines (first ++ second) = unlines first ++ unlines second := by
  simp [unlines]

/-- Cut a text at the first character that satisfies a test; the rest starts with it. -/
def cutBefore (stop : Char → Bool) (text : List Char) : List Char × List Char :=
  (text.takeWhile (!stop ·), text.dropWhile (!stop ·))

/-- Cut a text around the first occurrence of a character. -/
def splitAround? (mark : Char) (text : List Char) : Option (List Char × List Char) :=
  match cutBefore (· = mark) text with
  | (_, []) => none
  | (before, _ :: after) => some (before, after)

end ShaderBuild.Text
