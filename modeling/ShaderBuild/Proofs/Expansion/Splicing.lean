import Mathlib.Control.Monad.Basic
import ShaderBuild.Include.Resolver
import ShaderBuild.Proofs.Expansion.Passage

namespace ShaderBuild

/-!
# The expanded text, line by line

The record of a successful expansion accounts for its text: each line of each
visited source stands in it once, in order, either as one line or as the whole text
of the file that it includes. The resolver is asked once for each such include.
-/

/-- For each of some lines, whether it starts inside a block comment. -/
def Comment.openings (inside : Bool) : List (List Char) → List Bool
  | [] => []
  | line :: others =>
      inside :: openings (Comment.isOpenAfter inside line) others

namespace VisitedLines

/-- A file in the place of a line. -/
structure Splice where
  request : IncludeRequest
  included : IncludedSource
  inside : VisitedLines

/-- Every spliced file of a visit, at all depths, in the order of the requests. -/
def splices : VisitedLines → List Splice
  | .done => []
  | .kept _ _ others => others.splices
  | .spliced _ _ request included inside others =>
      ⟨request, included, inside⟩ :: (inside.splices ++ others.splices)

/-- A record has one entry for each line of a source, in order and in its place. -/
structure Covers (visited : VisitedLines) (content : List Char) : Prop where
  lines : visited.entries.map (·.2) = Text.lines content
  positions :
    visited.entries.map (·.1.position) = List.range' 1 (Text.lines content).length
  comments :
    visited.entries.map (·.1.inComment) = Comment.openings false (Text.lines content)

end VisitedLines

namespace Passes

variable
  {resolver : Option Resolver} {source : String} {depth : Nat}
  {context last : LineContext} {lines : List (List Char)} {visited : VisitedLines}

theorem entries_lines
    (passes : Passes resolver source depth context lines visited last) :
    visited.entries.map (·.2) = lines := by
  induction passes with
  | done =>
      rfl
  | kept single keeps rest inductionHypothesis =>
      simp [VisitedLines.entries, inductionHypothesis]
  | spliced includes answers nested ends rest insideHypothesis restHypothesis =>
      simp [VisitedLines.entries, restHypothesis]

theorem entries_positions
    (passes : Passes resolver source depth context lines visited last) :
    visited.entries.map (·.1.position) = List.range' context.position lines.length := by
  induction passes with
  | done =>
      rfl
  | kept single keeps rest inductionHypothesis =>
      rw [LineContext.position_of_advance? keeps] at inductionHypothesis
      simp [VisitedLines.entries, List.range'_succ, inductionHypothesis]
  | spliced includes answers nested ends rest insideHypothesis restHypothesis =>
      rw [LineContext.position_resume] at restHypothesis
      simp [VisitedLines.entries, List.range'_succ, restHypothesis]

/-- Comments are followed from line to line, past the files between them. -/
theorem entries_comments
    (passes : Passes resolver source depth context lines visited last) :
    visited.entries.map (·.1.inComment) = Comment.openings context.inComment lines := by
  induction passes with
  | done =>
      rfl
  | kept single keeps rest inductionHypothesis =>
      rw [LineContext.inComment_of_advance? keeps] at inductionHypothesis
      simp [VisitedLines.entries, Comment.openings, inductionHypothesis,
        LineContext.commentAfter]
  | spliced includes answers nested ends rest insideHypothesis restHypothesis =>
      rw [LineContext.inComment_resume] at restHypothesis
      simp [VisitedLines.entries, Comment.openings, restHypothesis,
        LineContext.commentAfter]

/-- A passage through a source from its top covers it. -/
theorem covers
    {macros : MacroTable}
    {content : List Char}
    (passes :
      Passes resolver source depth (.top macros) (Text.lines content) visited last) :
    visited.Covers content where
  lines := passes.entries_lines
  positions := passes.entries_positions
  comments := passes.entries_comments

/-- Every spliced file is what the resolver answered, and is covered by its record. -/
theorem splices_answered
    (passes : Passes resolver source depth context lines visited last) :
    ∀ splice ∈ visited.splices,
      Answers resolver splice.request splice.included ∧
        splice.inside.Covers splice.included.content := by
  induction passes with
  | done =>
      simp [VisitedLines.splices]
  | kept single keeps rest inductionHypothesis =>
      exact inductionHypothesis
  | spliced includes answers nested ends rest insideHypothesis restHypothesis =>
      intro splice member
      rcases List.mem_cons.mp member with isHere | isBelow
      · subst splice
        exact ⟨answers, nested.covers⟩
      · rcases List.mem_append.mp isBelow with isInside | isAfter
        · exact insideHypothesis splice isInside
        · exact restHypothesis splice isAfter

end Passes

/--
A successful expansion is the text of one record. The visits in the record cover
the root source and what the resolver answered, line by line, and the requests are
those of the lines that were replaced by a file.
-/
theorem expand_splices
    {settings : ExpansionSettings}
    {root : String}
    {content : List Char}
    {unit : ExpandedUnit}
    (succeeds : ExpandedUnit.expand settings root content = .ok unit) :
    ∃ visited last,
      settings.Records root content visited last ∧
        unit.lines = ExpansionSettings.versionLines content ++ visited.lines root ∧
          (settings.expand root content).requests = visited.requests ∧
            visited.Covers content ∧
              ∀ splice ∈ visited.splices,
                Answers settings.resolver splice.request splice.included ∧
                  splice.inside.Covers splice.included.content := by
  obtain ⟨visited, last, records⟩ := ExpansionSettings.exists_records succeeds
  rw [records.unit_expand] at succeeds
  cases succeeds
  exact ⟨visited, last, records, rfl, records.requests_expand,
    records.passes.covers, records.passes.splices_answered⟩

/-- An include that opens a comment, and one that is skipped. -/
theorem expand_splices_open_comment :
    let settings : ExpansionSettings :=
      ⟨some (SourceCollection.ofList [("a", "float a;".toList)]).resolver, 4, []⟩
    let content := "#include \"a\" /* b\n*/\n#if 0\n#include <c>\n#endif".toList
    let unit : ExpandedUnit :=
      { root := "main"
        lines :=
          [⟨"#version 450".toList, none⟩,
            ⟨"float a;".toList, some ⟨"a", 1⟩⟩,
            ⟨"/*".toList, some ⟨"main", 1⟩⟩,
            ⟨"*/".toList, some ⟨"main", 2⟩⟩,
            ⟨"#if 0".toList, some ⟨"main", 3⟩⟩,
            ⟨[], some ⟨"main", 4⟩⟩,
            ⟨"#endif".toList, some ⟨"main", 5⟩⟩]
        sources := ["main", "a"] }
    ExpandedUnit.expand settings "main" content = .ok unit ∧
      ∃ visited last,
        settings.Records "main" content visited last ∧
          unit.lines = ExpansionSettings.versionLines content ++ visited.lines "main" ∧
            (settings.expand "main" content).requests = visited.requests ∧
              visited.Covers content ∧
                ∀ splice ∈ visited.splices,
                  Answers settings.resolver splice.request splice.included ∧
                    splice.inside.Covers splice.included.content := by
  intro settings content unit
  have succeeds : ExpandedUnit.expand settings "main" content = .ok unit := by
    decide +kernel
  exact ⟨succeeds, expand_splices succeeds⟩

end ShaderBuild
