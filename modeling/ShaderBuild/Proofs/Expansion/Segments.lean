import ShaderBuild.Proofs.Balance
import ShaderBuild.Proofs.Expansion.Text

namespace ShaderBuild

/-!
# Passages in parts

A passage through a source can be cut between any two lines and put together again,
and there is at most one passage through given lines. Every line that a visit comes
to ends a passage through the lines before it.
-/

namespace VisitedLines

/-- One record after another. -/
def append : VisitedLines → VisitedLines → VisitedLines
  | .done, second => second
  | .kept context line others, second => .kept context line (others.append second)
  | .spliced context line request included inside others, second =>
      .spliced context line request included inside (others.append second)

@[simp] theorem texts_append (first second : VisitedLines) :
    (first.append second).texts = first.texts ++ second.texts := by
  induction first with
  | done =>
      rfl
  | kept context line others inductionHypothesis =>
      simp [append, texts, inductionHypothesis]
  | spliced context line request included inside others insideHypothesis othersHypothesis =>
      simp [append, texts, othersHypothesis]

@[simp] theorem trace_append (first second : VisitedLines) (source : String) :
    (first.append second).trace source = first.trace source ++ second.trace source := by
  induction first with
  | done =>
      rfl
  | kept context line others inductionHypothesis =>
      simp [append, trace, inductionHypothesis]
  | spliced context line request included inside others insideHypothesis othersHypothesis =>
      simp [append, trace, othersHypothesis]

@[simp] theorem height_append (first second : VisitedLines) :
    (first.append second).height = max first.height second.height := by
  induction first with
  | done =>
      simp [append, height]
  | kept context line others inductionHypothesis =>
      simp [append, height, inductionHypothesis]
  | spliced context line request included inside others insideHypothesis othersHypothesis =>
      simp [append, height, othersHypothesis, Nat.max_assoc]

end VisitedLines

namespace Passes

variable
  {resolver : Option Resolver} {source : String} {depth : Nat}
  {context middle last : LineContext} {visited : VisitedLines}

theorem append
    {first second : List (List Char)}
    {visited' : VisitedLines}
    (passes : Passes resolver source depth context first visited middle)
    (goesOn : Passes resolver source depth middle second visited' last) :
    Passes resolver source depth context (first ++ second)
      (visited.append visited') last := by
  induction passes with
  | done =>
      exact goesOn
  | kept single keeps rest inductionHypothesis =>
      exact .kept single keeps (inductionHypothesis goesOn)
  | spliced includes answers nested ends rest insideHypothesis restHypothesis =>
      exact .spliced includes answers nested ends (restHypothesis goesOn)

/-- A passage is cut between two lines. -/
theorem split
    {first second : List (List Char)}
    (passes : Passes resolver source depth context (first ++ second) visited last) :
    ∃ before after middle,
      Passes resolver source depth context first before middle ∧
        Passes resolver source depth middle second after last ∧
          visited = before.append after := by
  induction first generalizing context visited with
  | nil =>
      exact ⟨.done, visited, context, .done, passes, rfl⟩
  | cons line others inductionHypothesis =>
      cases passes with
      | kept single keeps rest =>
          obtain ⟨before, after, middle, passesBefore, passesAfter, rfl⟩ :=
            inductionHypothesis rest
          exact ⟨_, after, middle, .kept single keeps passesBefore, passesAfter, rfl⟩
      | spliced includes answers nested ends rest =>
          obtain ⟨before, after, middle, passesBefore, passesAfter, rfl⟩ :=
            inductionHypothesis rest
          exact ⟨_, after, middle,
            .spliced includes answers nested ends passesBefore, passesAfter, rfl⟩

/-- There is one passage through some lines at most. -/
theorem unique
    {lines : List (List Char)}
    {visited' : VisitedLines}
    {last' : LineContext}
    (passes : Passes resolver source depth context lines visited last)
    (other : Passes resolver source depth context lines visited' last') :
    visited = visited' ∧ last = last' := by
  induction passes generalizing visited' last' with
  | done =>
      cases other
      exact ⟨rfl, rfl⟩
  | kept single keeps rest inductionHypothesis =>
      cases other with
      | kept single' keeps' rest' =>
          rw [keeps, Option.some.injEq] at keeps'
          subst keeps'
          obtain ⟨rfl, rfl⟩ := inductionHypothesis rest'
          exact ⟨rfl, rfl⟩
      | spliced includes' answers' nested' ends' rest' =>
          rw [single] at includes'
          cases includes'
  | spliced includes answers nested ends rest insideHypothesis restHypothesis =>
      cases other with
      | kept single' keeps' rest' =>
          rw [includes] at single'
          cases single'
      | spliced includes' answers' nested' ends' rest' =>
          rw [includes, Option.some.injEq, Prod.mk.injEq] at includes'
          obtain ⟨rfl, rfl⟩ := includes'
          obtain ⟨given, isGiven, resolved⟩ := answers
          obtain ⟨given', isGiven', resolved'⟩ := answers'
          rw [isGiven, Option.some.injEq] at isGiven'
          subst isGiven'
          rw [resolved, Except.ok.injEq] at resolved'
          subst resolved'
          obtain ⟨rfl, rfl⟩ := insideHypothesis nested'
          obtain ⟨rfl, rfl⟩ := restHypothesis rest'
          exact ⟨rfl, rfl⟩

theorem isOpenAfterAll_lines
    {lines : List (List Char)}
    (passes : Passes resolver source depth context lines visited last) :
    Comment.isOpenAfterAll context.inComment lines = last.inComment := by
  induction passes with
  | done =>
      rfl
  | kept single keeps rest inductionHypothesis =>
      rw [LineContext.inComment_of_advance? keeps] at inductionHypothesis
      exact inductionHypothesis
  | spliced includes answers nested ends rest insideHypothesis restHypothesis =>
      exact restHypothesis

/-- The directives of a passage fit the groups that are open at its first line. -/
theorem nest_flags
    {lines : List (List Char)}
    (passes : Passes resolver source depth context lines visited last) :
    (Directive.ofLines context.inComment lines).foldlM Directive.nest
        context.conditionals.flags =
      some last.conditionals.flags := by
  induction passes with
  | done =>
      rfl
  | @kept source depth context next last line others visited single keeps rest
      inductionHypothesis =>
      obtain ⟨-, conditionals, accepted, rfl⟩ :=
        LineContext.advance?_eq_some_iff.mp keeps
      rw [LineContext.ofLines_cons, List.foldlM_append,
        LineContext.nest_flags_groupsAfter accepted]
      exact inductionHypothesis
  | @spliced source depth context bottom last line others kind target included inside
      visited includes answers nested ends rest insideHypothesis restHypothesis =>
      obtain ⟨holds, -⟩ := LineContext.directive?_of_includes? includes
      rw [LineContext.ofLines_cons, holds]
      exact restHypothesis

end Passes

/-- A line that a visit comes to ends a passage through the lines before it. -/
theorem ExpansionSettings.passes_of_entry
    {settings : ExpansionSettings}
    {source : String}
    {levels depth : Nat}
    {context : LineContext}
    {lines : List (List Char)}
    {n : Nat}
    {reached : LineContext}
    {line : List Char}
    (found :
      ((settings.visit source levels depth).entries context lines)[n]? =
        some (reached, line)) :
    ∃ visited,
      Passes settings.resolver source depth context (lines.take n) visited reached ∧
        visited.height ≤ levels := by
  induction lines generalizing context n with
  | nil =>
      simp [Visit.entries] at found
  | cons first others inductionHypothesis =>
      cases n with
      | zero =>
          rw [Visit.entries] at found
          cases found
          exact ⟨.done, .done, Nat.zero_le levels⟩
      | succ n =>
          rcases Visit.entries_succ found with
            ⟨next, keeps, foundBelow⟩ |
            ⟨kind, target, macros, includes, spliced, foundBelow⟩
          · obtain ⟨visited, passes, fits⟩ := inductionHypothesis foundBelow
            exact ⟨_, .kept (LineContext.includes?_of_advance? keeps) keeps passes, fits⟩
          · simp only [visit] at spliced
            obtain ⟨below, included, rfl, answers⟩ := answers_of_includer spliced
            rw [includer_of_answers answers, Expansion.result_after] at spliced
            obtain ⟨inside, bottom, nested, ends, rfl, insideFits⟩ := passes_of_run spliced
            obtain ⟨visited, passes, fits⟩ := inductionHypothesis foundBelow
            exact ⟨_, .spliced includes answers nested ends passes,
              Nat.max_le.mpr ⟨Nat.succ_le_succ insideFits, fits⟩⟩

end ShaderBuild
