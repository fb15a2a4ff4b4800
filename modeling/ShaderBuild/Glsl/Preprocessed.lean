import ShaderBuild.Glsl.LiveText

namespace ShaderBuild.Glsl

/-!
# Preprocessed shaders

What remains of a shader's text once its directives are carried out: the lexemes
that are not skipped, with names replaced, and among them, in order, the versions
and extensions asked for and the problems met. Definitions given with a compilation
count as if they stood before the first line; their lexemes keep the offsets they
have in their own texts.
-/

/-! ### Given definitions -/

/-- How an engine that breaks down over a definition reports the fault and its place. -/
def definitionBreakdown (report : String) (start stop line : Nat) : String :=
  "called `Result::unwrap()` on an `Err` value: (" ++ report ++ ", Location \x7b start: " ++
    s!"{start}, end: {stop}, line: {line} \x7d)"

/-- The body that a text given for a definition has, or how the engine breaks down over it. -/
def givenBody : List Scanned → Except String (List PlacedLexeme)
  | [] => .ok []
  | .fault fault :: _ => .error (definitionBreakdown fault.report 0 0 1)
  | .lexeme placed :: rest =>
      if placed.lexeme = .lineEnd then
        givenBody rest
      else if placed.lexeme = .mark "#" then
        .error (definitionBreakdown (PreprocessingFault.unexpected placed.lexeme).report
          placed.offset placed.stop placed.line)
      else
        (givenBody rest).map (placed :: ·)

/-- The definitions that are given with a compilation; later ones replace earlier ones. -/
def givenDefinitions (defines : List (String × String)) : Except String Definitions :=
  let latest := defines.foldr (fun given others =>
    if others.any (·.1 = given.1) then others else given :: others) []
  latest.mapM fun (name, value) => do
    return ⟨name, none, ← givenBody (scan value.toList)⟩

/-! ### Shaders -/

/-- A part of a preprocessed shader. -/
inductive Item where
  | lexeme (placed : PlacedLexeme)
  | notice (notice : Notice)
  /-- The end of a shader over which the engine fails, with a message. -/
  | breakdown (message : String)
  deriving Repr, DecidableEq

/-- What a step comes upon, as parts of a shader. -/
def Item.ofStep : Step → List Item
  | .piece (.lexeme placed) _ => [.lexeme placed]
  | .piece (.directive notices) _ => notices.map .notice
  | .pause => []
  | .halt (.problem problem) => [.notice (.problem problem)]
  | .halt (.breakdown message) => [.breakdown message]

/-- The problems of the groups that are still open at the end of a text. -/
def Item.unfinished (text : LiveText) : List Item :=
  text.groups.map fun group =>
    .notice (.problem (PreprocessingFault.unfinishedGroup.problem group.start))

/-- The parts of a shader from the next piece on, in at most so many steps. -/
def itemsFrom : Nat → Unfolding LiveText → List Item
  | 0, _ => []
  | limit + 1, unfolding =>
      match unfolding.advance limit with
      | none => Item.unfinished unfolding.source
      | some (step, rest) => Item.ofStep step ++ itemsFrom limit rest

/-- The parts of a preprocessed shader, or how the engine breaks down over a definition. -/
def preprocess (defines : List (String × String)) (text : List Char) :
    Except String (List Item) := do
  let definitions ← givenDefinitions defines
  let pieces := scan text
  let lexemes :=
    definitions.foldl (fun total found => total + found.body.length) pieces.length
  return itemsFrom (replacementBound lexemes (pieces.length + definitions.length))
    { source := { rest := pieces, definitions := definitions } }

end ShaderBuild.Glsl
