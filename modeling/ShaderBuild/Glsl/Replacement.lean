import ShaderBuild.Glsl.Definition

namespace ShaderBuild.Glsl

/-!
# Replacement of names

A text is read piece by piece, and where a defined name stands, its replacement is
read in its place, and then what follows. Arguments are replaced before they take the
place of parameters. A reader also gets to know where a replacement or an argument
ends, as some readers treat that like the end of the text.

The name `__LINE__` stands for the number of the line on which the outermost name of
the replacement is written that it is part of.
-/

/-! ### Texts -/

/-- What a step of reading comes upon. -/
inductive Step where
  /-- A piece, and the line that it stands on. -/
  | piece (piece : Piece) (line : Nat)
  /-- Nothing, like at the end of a replacement. -/
  | pause
  | halt (halt : Halt)

/-- A text that is read piece by piece. -/
class PieceSource (σ : Type) where
  /-- What the next step comes upon, and what is left; none at the end. -/
  step? : σ → Option (Step × σ)
  /-- The definitions that are in force. -/
  definitions : σ → Definitions
  /-- The number that a line of the text has. -/
  lineNumber : σ → Nat → Int

/-- Pieces of a text without directives to be carried out, and the definitions for them. -/
structure PieceList where
  pieces : List Piece
  definitions : Definitions

/-- The line that a piece stands on. -/
def Piece.line : Piece → Nat
  | .lexeme placed => placed.line
  | .directive _ => 0

instance : PieceSource PieceList where
  step? text :=
    match text.pieces with
    | [] => none
    | piece :: rest => some (.piece piece piece.line, { text with pieces := rest })
  definitions text := text.definitions
  lineNumber _ line := line

/-! ### Replacements that are being read -/

/-- What is left to read of a replacement or of an argument. -/
structure Frame where
  /-- The name that is replaced. -/
  name : String
  /-- The line on which the name is written; none for an argument, which has lines of its own. -/
  line : Option Nat
  /-- The pieces that are left, with the ends of arguments among them. -/
  rest : List (Option Piece)

/-- A text with the replacements that are being read, the innermost first. -/
structure Unfolding (σ : Type) where
  source : σ
  frames : List Frame := []

/-- The name that stands for the number of a line. -/
def lineWord : String := "__LINE__"

namespace Unfolding

variable {σ : Type} [PieceSource σ]

/-- The definition of a name that does not stand for itself. -/
def definition? (unfolding : Unfolding σ) (name : String) : Option Definition :=
  if unfolding.frames.any (·.name = name) then none
  else (PieceSource.definitions unfolding.source).find? name

/-- Begin to read the replacement of a name that is written on a line. -/
def enter (unfolding : Unfolding σ) (name : String) (line : Nat) (rest : List (Option Piece)) :
    Unfolding σ :=
  { unfolding with frames := ⟨name, some line, rest⟩ :: unfolding.frames }

/-- The reading of an argument, within which the replacements stay in force. -/
def within (unfolding : Unfolding σ) (argument : List Piece) : Unfolding PieceList where
  source := ⟨[], PieceSource.definitions unfolding.source⟩
  frames :=
    ⟨"", none, argument.map some⟩ :: unfolding.frames.map fun frame => { frame with rest := [] }

/-- What a step comes upon, with the number of a line in place of its name. -/
def numbered (unfolding : Unfolding σ) : Step → Step
  | .piece (.lexeme placed) line =>
      if placed.lexeme ≠ .word lineWord then .piece (.lexeme placed) line
      else
        let number := PieceSource.lineNumber unfolding.source line
        if 0 ≤ number && number < (1 <<< 32 : Nat) then
          .piece (.lexeme { placed with lexeme := .integer number.toNat false }) line
        else .halt (.problem (PreprocessingFault.lineOutOfRange.problem placed.offset))
  | step => step

/-- What is written next, and what is left; none at the end. -/
def written? (unfolding : Unfolding σ) : Option (Step × Unfolding σ) :=
  match unfolding.frames with
  | [] =>
      (PieceSource.step? unfolding.source).map fun (step, source) =>
        (unfolding.numbered step, { unfolding with source := source })
  | ⟨_, _, []⟩ :: outer => some (.pause, { unfolding with frames := outer })
  | ⟨name, line, none :: rest⟩ :: outer =>
      some (.pause, { unfolding with frames := ⟨name, line, rest⟩ :: outer })
  | ⟨name, line, some piece :: rest⟩ :: outer =>
      some (unfolding.numbered (.piece piece (line.getD piece.line)),
        { unfolding with frames := ⟨name, line, rest⟩ :: outer })

/-! ### Calls -/

/-- What follows the name of a function-like macro. -/
inductive CallText (σ : Type) where
  /-- Something else than arguments. -/
  | absent
  /-- A call: its opening bracket, its arguments, and what follows them. -/
  | present (opening : PlacedLexeme) (arguments : List (List Piece)) (rest : Unfolding σ)
  /-- What ends the call, and what follows it. -/
  | broken (halt : Halt) (rest : Unfolding σ)

/--
Gather the pieces of a call up to the bracket that closes it. `depth` counts the inner
brackets that are open, and `gathered` holds the pieces so far.
-/
def gatherCall (opening : PlacedLexeme) (depth : Nat) (gathered : List Piece) :
    Nat → Unfolding σ → CallText σ
  | 0, unfolding => unended unfolding
  | limit + 1, unfolding =>
      match unfolding.written? with
      | none => unended unfolding
      | some (.halt halt, rest) => .broken halt rest
      | some (.pause, rest) => gatherCall opening depth gathered limit rest
      | some (.piece piece _, rest) =>
          let longer := gathered ++ [piece]
          match piece.lexeme?, depth with
          | some (.mark ")"), 0 => .present opening (splitArguments 0 [] gathered) rest
          | some (.mark ")"), depth + 1 => gatherCall opening depth longer limit rest
          | some (.mark "("), depth => gatherCall opening (depth + 1) longer limit rest
          | _, depth => gatherCall opening depth longer limit rest
where
  /-- A call that the text ends within. -/
  unended (unfolding : Unfolding σ) : CallText σ :=
    .broken (.problem (PreprocessingFault.unexpectedEnd.problem opening.offset)) unfolding

/-- What follows a name. -/
def callText : Nat → Unfolding σ → CallText σ
  | 0, _ => .absent
  | limit + 1, unfolding =>
      match unfolding.written? with
      | some (.pause, rest) => callText limit rest
      | some (.piece (.lexeme placed) _, rest) =>
          if placed.lexeme = .mark "(" then gatherCall placed 0 [] limit rest else .absent
      | _ => .absent

/-! ### Reading -/

/-- All pieces that a way of reading step by step comes upon. -/
def collect (advance : Unfolding PieceList → Option (Step × Unfolding PieceList)) :
    Nat → Unfolding PieceList → Except Halt (List Piece)
  | 0, _ => .ok []
  | limit + 1, unfolding =>
      match advance unfolding with
      | none => .ok []
      | some (.halt halt, _) => .error halt
      | some (.pause, rest) => collect advance limit rest
      | some (.piece piece _, rest) => (collect advance limit rest).map (piece :: ·)

/--
What the next step comes upon once names are replaced, and what is left; none at the
end. A call whose arguments are at fault is left out.
-/
def advance : Nat → {σ : Type} → [PieceSource σ] → Unfolding σ → Option (Step × Unfolding σ)
  | 0, _, _, _ => none
  | limit + 1, _, _, unfolding =>
      match unfolding.written? with
      | some (.piece (.lexeme placed) line, rest) =>
          match rest.definition? placed.lexeme.name with
          | none => some (.piece (.lexeme placed) line, rest)
          | some ⟨name, none, body⟩ =>
              advance limit (rest.enter name line (body.map fun placed => some (.lexeme placed)))
          | some ⟨name, some parameters, body⟩ =>
              match callText limit rest with
              | .absent => some (.piece (.lexeme placed) line, rest)
              | .broken halt after => some (.halt halt, after)
              | .present opening arguments after =>
                  match misfit? parameters arguments with
                  | some fault => some (.halt (.problem (fault.problem opening.offset)), after)
                  | none =>
                      let replaced := arguments.mapM fun argument =>
                        collect (fun unfolding => advance limit unfolding) limit
                          (rest.within argument)
                      match replaced with
                      | .error halt => some (.halt halt, after)
                      | .ok replaced =>
                          advance limit (after.enter name line
                            (substitute parameters replaced body))
      | other => other

end Unfolding

/--
A number of steps that replacing the names among so many lexemes does not reach: in
each of its levels, of which there is at most one for a definition, a lexeme may
become as many as there are.
-/
def replacementBound (lexemes definitions : Nat) : Nat :=
  16 * Nat.pow (lexemes + 2) (definitions + 3)

end ShaderBuild.Glsl
