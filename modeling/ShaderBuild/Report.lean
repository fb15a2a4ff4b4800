import ShaderBuild.Text.Lines

namespace ShaderBuild

/-!
# Reports

An error as it is shown to a user: a code, a message, the causes behind it, a hint,
and further reports on the same matter. A text of several lines hangs from the mark
of its first line, and no line ends in spaces that are its own.
-/

/-- An error to be shown. -/
inductive Report where
  | mk
    (message : String)
    (code : String)
    (help : Option String)
    (causes : List String)
    (related : List Report)

namespace Report

/-- What went wrong. -/
def message : Report → String
  | .mk message _ _ _ _ => message

/-- The code of the error. -/
def code : Report → String
  | .mk _ code _ _ _ => code

/-- What may be done about it. -/
def help : Report → Option String
  | .mk _ _ help _ _ => help

/-- The causes behind it, from the nearest on. -/
def causes : Report → List String
  | .mk _ _ _ causes _ => causes

/-- A line without the spaces at its end. -/
def trimmed (line : List Char) : List Char :=
  (line.reverse.dropWhile (· = ' ')).reverse

/-- A text with one mark before its first line and another one before the lines after it. -/
def hanging (first others text : String) : String :=
  match Text.fragments text.toList with
  | [] => first ++ "\n"
  | line :: lines =>
      first ++ String.ofList (trimmed line) ++ "\n" ++
        String.join (lines.map fun line => others ++ String.ofList (trimmed line) ++ "\n")

/-- The lines of causes; the last one ends the branch. -/
def causeLines : List String → String
  | [] => ""
  | [last] => hanging "  ╰─▶ " "      " last
  | cause :: others => hanging "  ├─▶ " "  │   " cause ++ causeLines others

/-- The lines of a hint. -/
def helpLines : Option String → String
  | none => ""
  | some help => hanging "  help: " "        " help

mutual

/-- A report as text: code, message, causes, hint, and the related reports after it. -/
def render : Report → String
  | .mk message code help causes related =>
      code ++ "\n\n" ++ hanging "  × " "  │ " message ++ causeLines causes ++ helpLines help ++
        renderRelated related

/-- Related reports as text, an empty line before each. -/
def renderRelated : List Report → String
  | [] => ""
  | report :: others => "\nError: " ++ report.render ++ renderRelated others

end

end Report

end ShaderBuild
