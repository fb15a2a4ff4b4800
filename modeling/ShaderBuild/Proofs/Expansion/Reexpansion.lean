import Mathlib.Control.Monad.Basic
import ShaderBuild.Include.Resolver
import ShaderBuild.Proofs.Expansion.Preserved
import ShaderBuild.Proofs.Expansion.Stacked

namespace ShaderBuild

/-!
# Expanding expanded text

Expanded text includes nothing, so a visit to it keeps every line as it is. Such a
visit walks all sources as one: its groups are those of the visits to the single
sources, stacked on each other, and it knows no more than they did. Since knowing
less brings no `#error` to life, the visit gets past every line, and the text is
expanded to itself.

`Trails` compares the visit to the expanded text with the visit that a line came
from.
-/

/-- A directive that is not consumed may stand wherever less is known about its region. -/
theorem Directive.isPassable_coarser
    {directive : Directive}
    {coarse fine : Liveness}
    (coarser : coarse.Coarser fine)
    (notConsumed : directive.isConsumed = false)
    (passable : directive.isPassable fine = true) :
    directive.isPassable coarse = true := by
  cases directive with
  | includeFile kind target | malformedInclude fault =>
      cases notConsumed
  | error text =>
      simp only [isPassable, bne_iff_ne, ne_eq] at passable ⊢
      exact fun isLive => passable (coarser.live isLive)
  | _ =>
      rfl

/-! ### Trailing a visit -/

/-- A visit to expanded text, compared with the visit to the source that its lines come from. -/
abbrev Trails (outer : List ConditionalGroup) : (trailing leading : LineContext) → Prop :=
  Stacks .coarser Liveness.Coarser outer

namespace Trails

variable {outer : List ConditionalGroup} {trailing leading : LineContext}

/-- A line is live for the trailing visit only if the other one says the same. -/
theorem liveness
    (trails : Trails outer trailing leading)
    (outside : (Conditionals.liveness ⟨outer⟩).Coarser .live) :
    trailing.conditionals.liveness.Coarser leading.conditionals.liveness := by
  have groups := trails.groups
  unfold Conditionals.liveness at outside ⊢
  generalize trailing.conditionals.groups = stacked at groups
  generalize leading.conditionals.groups = single at groups
  cases groups with
  | outside =>
      exact outside
  | inside enclosing branch taken seenElse below =>
      exact enclosing.and branch

/-- What the leading visit records about macros, the trailing one records as far as it knows. -/
theorem tableAfter
    (trails : Trails outer trailing leading)
    (outside : (Conditionals.liveness ⟨outer⟩).Coarser .live)
    (line : List Char) :
    (trailing.tableAfter line).Coarser (leading.tableAfter line) := by
  unfold LineContext.tableAfter
  rw [trails.directive?_eq line]
  cases leading.directive? line with
  | none =>
      exact trails.macros
  | some directive =>
      cases directive with
      | define body =>
          exact trails.macros.define (trails.liveness outside) body
      | undef body =>
          exact trails.macros.undefine (trails.liveness outside) body
      | _ =>
          exact trails.macros

/-- A line that the leading visit keeps is preserved as it was kept. -/
theorem preserves
    (trails : Trails outer trailing leading)
    (outside : (Conditionals.liveness ⟨outer⟩).Coarser .live)
    {next : LineContext}
    {line : List Char}
    (keeps : leading.advance? line = some next) :
    ∃ after,
      trailing.preserve? (leading.keptText line) = some after ∧
        Trails outer after next := by
  obtain ⟨passable, conditionals, accepted, rfl⟩ :=
    LineContext.advance?_eq_some_iff.mp keeps
  cases consumed : (leading.directive? line).any (·.isConsumed) with
  | true =>
      obtain ⟨outsideComments, sameConditionals, sameMacros⟩ :=
        leading.after_of_isConsumed consumed
      rw [sameConditionals, Except.ok.injEq] at accepted
      subst conditionals
      have preserved :=
        LineContext.preserve?_placeholder
          (trails.inComment.trans outsideComments) (leading.commentAfter line)
      rw [LineContext.keptText_eq keeps, if_pos consumed, sameMacros]
      exact ⟨_, preserved, rfl, trails.groups, trails.macros⟩
  | false =>
      obtain ⟨onOuter, stackedAccepted, groups⟩ :=
        trails.groupsAfter (trails.liveness outside) accepted
      refine ⟨trailing.next (trailing.commentAfter line) onOuter
        (trailing.tableAfter line), ?_, trails.commentAfter_eq line, groups,
        trails.tableAfter outside line⟩
      rw [LineContext.keptText_eq keeps, if_neg (by simp [consumed]),
        LineContext.preserve?_eq_some_iff, LineContext.advance?_eq_some_iff,
        trails.directive?_eq line]
      refine ⟨fun directive holds => ?_, ?_, onOuter, stackedAccepted, rfl⟩
      · simpa [holds] using consumed
      · cases holds : leading.directive? line with
        | none =>
            rfl
        | some directive =>
            simp only [holds, Option.all_some, Option.any_some] at passable consumed ⊢
            exact directive.isPassable_coarser (trails.liveness outside) consumed passable

end Trails

/-- The text of a passage is preserved, whatever groups lie around it. -/
theorem Passes.preserves
    {resolver : Option Resolver}
    {source : String}
    {depth : Nat}
    {context last : LineContext}
    {lines : List (List Char)}
    {visited : VisitedLines}
    (passes : Passes resolver source depth context lines visited last)
    {outer : List ConditionalGroup}
    {trailing : LineContext}
    (trails : Trails outer trailing context)
    (outside : (Conditionals.liveness ⟨outer⟩).Coarser .live) :
    ∃ after,
      trailing.preserveAll? visited.texts = some after ∧ Trails outer after last := by
  induction passes generalizing outer trailing with
  | done =>
      exact ⟨trailing, rfl, trails⟩
  | kept single keeps rest inductionHypothesis =>
      obtain ⟨next, preserves, trailsNext⟩ := trails.preserves outside keeps
      obtain ⟨after, preservesRest, trailsAfter⟩ := inductionHypothesis trailsNext outside
      refine ⟨after, ?_, trailsAfter⟩
      rw [VisitedLines.texts, LineContext.preserveAll?_cons, preserves]
      exact preservesRest
  | @spliced source depth context bottom last line others kind target included inside
      visited includes answers nested ends rest insideHypothesis restHypothesis =>
      obtain ⟨holds, notDead⟩ := LineContext.directive?_of_includes? includes
      have outsideComments :=
        trails.inComment.trans (LineContext.inComment_of_directive? holds)
      have reached :
          (Conditionals.liveness ⟨trailing.conditionals.groups⟩).Coarser .live := by
        rcases trails.liveness outside with isUnknown | same
        · exact .inl isUnknown
        · change context.conditionals.liveness ≠ .dead at notDead
          rw [← same] at notDead
          exact Liveness.coarser_live notDead
      have trailsTop :
          Trails trailing.conditionals.groups trailing (.top context.macros) :=
        ⟨outsideComments, .outside, trails.macros⟩
      obtain ⟨bottomTrailing, preservesInside, trailsBottom⟩ :=
        insideHypothesis trailsTop reached
      have closed : bottomTrailing.conditionals.groups = trailing.conditionals.groups := by
        have groups := trailsBottom.groups
        rw [ends.closed] at groups
        exact groups.eq_outer
      obtain ⟨resumed, preservesClosing, comment, conditionals, macros⟩ :=
        LineContext.preserveAll?_closingText
          (trailsBottom.inComment.trans (ends.outside rfl)) (context.commentAfter line)
      have trailsResumed : Trails outer resumed (context.resume line bottom.macros) := by
        refine ⟨comment, ?_, ?_⟩
        · rw [conditionals, closed]
          exact trails.groups
        · rw [macros]
          exact trailsBottom.macros
      obtain ⟨after, preservesRest, trailsAfter⟩ := restHypothesis trailsResumed outside
      refine ⟨after, ?_, trailsAfter⟩
      rw [VisitedLines.texts, LineContext.preserveAll?_append,
        LineContext.preserveAll?_append, preservesInside, Option.bind_some,
        preservesClosing, Option.bind_some, preservesRest]

namespace ExpansionSettings

theorem isVersion_versionLine :
    Directive.isVersion (Comment.strip false versionLine.text) = true := by
  decide +kernel

/-- What stands before the text of a root source is preserved without effect. -/
theorem preserveAll?_versionLines (content : List Char) (macros : MacroTable) :
    ∃ first,
      (LineContext.top macros).preserveAll? ((versionLines content).map (·.text)) =
          some first ∧
        Trails [] first (.top macros) := by
  unfold versionLines
  split
  · exact ⟨.top macros, rfl, rfl, .outside, .refl _⟩
  · refine ⟨(LineContext.top macros).next false .empty macros, ?_, rfl, .outside, .refl _⟩
    have noDirective :
        (LineContext.top macros).directive? versionLine.text = none :=
      parse?_of_isVersion isVersion_versionLine
    have noComment : (LineContext.top macros).commentAfter versionLine.text = false := by
      change Comment.isOpenAfter false versionLine.text = false
      decide +kernel
    rw [List.map_singleton, LineContext.preserveAll?_cons,
      LineContext.preserve?_of_none noDirective, noComment]
    rfl

namespace Records

variable
  {settings : ExpansionSettings} {root : String} {content : List Char}
  {visited : VisitedLines} {last : LineContext}

theorem hasVersion
    (records : settings.Records root content visited last) :
    hasVersion false (texts content visited) = true := by
  unfold texts versionLines
  split
  · rename_i version
    exact hasVersion_texts records.passes version
  · simp [ExpansionSettings.hasVersion, isVersion_versionLine]

/-- The text of a recorded expansion is preserved by a visit, which ends well. -/
theorem preserved
    (records : settings.Records root content visited last) :
    ∃ after,
      (LineContext.top (.ofDefines settings.defines)).preserveAll?
          (texts content visited) = some after ∧
        after.conditionals.groups = [] := by
  obtain ⟨first, preservesVersion, trails⟩ :=
    preserveAll?_versionLines content (.ofDefines settings.defines)
  obtain ⟨after, preserves, trailsAfter⟩ :=
    records.passes.preserves trails (.refl _)
  refine ⟨after, ?_, ?_⟩
  · rw [texts, LineContext.preserveAll?_append, preservesVersion]
    exact preserves
  · have groups := trailsAfter.groups
    rw [records.ends.closed] at groups
    exact groups.eq_outer

end Records

/-- A root source that is preserved is expanded to its own lines. -/
theorem expand_of_preserveAll?
    {resolver : Option Resolver}
    {limit : Nat}
    {defines : List (String × String)}
    {content : List Char}
    {last : LineContext}
    (preserves :
      (LineContext.top (.ofDefines defines)).preserveAll? (Text.lines content) =
        some last)
    (closed : last.conditionals.groups = [])
    (version : hasVersion false (Text.lines content) = true)
    (name : String) :
    ∃ unit,
      ExpandedUnit.expand ⟨resolver, limit, defines⟩ name content = .ok unit ∧
        unit.text = Text.unlines (Text.lines content) := by
  obtain ⟨visited, passes, texts, flat⟩ :=
    LineContext.passes_of_preserveAll? resolver name 0 preserves
  have records : Records ⟨resolver, limit, defines⟩ name content visited last :=
    ⟨passes, ⟨closed, fun nested => nomatch nested⟩, by simp [flat]⟩
  obtain ⟨unit, expands, unitTexts⟩ := records.exists_unit
  refine ⟨unit, expands, ?_⟩
  rw [ExpandedUnit.text, unitTexts, Records.texts, versionLines, if_pos version, texts]
  rfl

end ExpansionSettings

/--
Expanding the text of a unit again gives the lines of the text, whatever the name
and the limit, and without a resolver. The text has a `#version` directive and
balanced groups, and no directive that expansion takes out.
-/
theorem expand_idempotent
    {settings : ExpansionSettings}
    {root : String}
    {content : List Char}
    {unit : ExpandedUnit}
    (succeeds : ExpandedUnit.expand settings root content = .ok unit) :
    (∀ (name : String) (limit : Nat),
      ∃ again,
        ExpandedUnit.expand ⟨none, limit, settings.defines⟩ name unit.text = .ok again ∧
          again.text = Text.unlines (Text.lines unit.text) ∧
            ((∀ line ∈ unit.lines, line.text.getLast? ≠ some '\r') →
              again.text = unit.text)) ∧
      ExpansionSettings.hasVersion false (Text.lines unit.text) = true ∧
        Directive.IsBalanced (Directive.ofLines false (Text.lines unit.text)) ∧
          ∀ directive ∈ Directive.ofLines false (Text.lines unit.text),
            directive.isConsumed = false := by
  obtain ⟨visited, last, records⟩ := ExpansionSettings.exists_records succeeds
  have texts := records.texts_of_expand succeeds
  have lines :
      Text.lines unit.text = (unit.lines.map (·.text)).map Text.dropReturn := by
    rw [ExpandedUnit.text, texts]
    exact Text.lines_unlines records.lineFeed_notMem
  have version : ExpansionSettings.hasVersion false (Text.lines unit.text) = true := by
    rw [lines, ExpansionSettings.hasVersion_map_dropReturn, texts]
    exact records.hasVersion
  obtain ⟨after, preserves, closed⟩ := records.preserved
  rw [← texts, ← LineContext.preserveAll?_map_dropReturn, ← lines] at preserves
  refine ⟨fun name limit => ?_, version, ?_,
    LineContext.isConsumed_of_preserveAll? preserves⟩
  · obtain ⟨again, expands, sameText⟩ :=
      ExpansionSettings.expand_of_preserveAll? preserves closed version name
    refine ⟨again, expands, sameText, fun noReturns => ?_⟩
    rw [sameText, lines, ExpandedUnit.text]
    congr 1
    rw [List.map_map]
    refine List.map_congr_left fun line member => ?_
    exact Text.dropReturn_of_getLast?_ne (noReturns line member)
  · obtain ⟨again, passes, -⟩ := LineContext.passes_of_preserveAll? none root 0 preserves
    have nested := passes.nest_flags
    have closedFlags : after.conditionals.flags = [] := by
      simp [Conditionals.flags, closed]
    rw [closedFlags] at nested
    exact nested

/-- A file in a branch of unknown liveness, and a line that ends in a carriage return. -/
theorem expand_idempotent_unknown_branch :
    let settings : ExpansionSettings :=
      ⟨some (SourceCollection.ofList [("a", "#define A".toList)]).resolver, 4, []⟩
    let content :=
      "#if __VERSION__\n#include \"a\" /* b\n*/\r\r\n#endif\n#ifndef A\n#error c\n#endif".toList
    let unit : ExpandedUnit :=
      { root := "main"
        lines :=
          [⟨"#version 450".toList, none⟩,
            ⟨"#if __VERSION__".toList, some ⟨"main", 1⟩⟩,
            ⟨"#define A".toList, some ⟨"a", 1⟩⟩,
            ⟨"/*".toList, some ⟨"main", 2⟩⟩,
            ⟨"*/\r".toList, some ⟨"main", 3⟩⟩,
            ⟨"#endif".toList, some ⟨"main", 4⟩⟩,
            ⟨"#ifndef A".toList, some ⟨"main", 5⟩⟩,
            ⟨"#error c".toList, some ⟨"main", 6⟩⟩,
            ⟨"#endif".toList, some ⟨"main", 7⟩⟩]
        sources := ["main", "a"] }
    ExpandedUnit.expand settings "main" content = .ok unit ∧
      (∀ (name : String) (limit : Nat),
        ∃ again,
          ExpandedUnit.expand ⟨none, limit, []⟩ name unit.text = .ok again ∧
            again.text = Text.unlines (Text.lines unit.text)) ∧
        Directive.IsBalanced (Directive.ofLines false (Text.lines unit.text)) := by
  intro settings content unit
  have succeeds : ExpandedUnit.expand settings "main" content = .ok unit := by
    decide +kernel
  obtain ⟨expandsAgain, -, balanced, -⟩ := expand_idempotent succeeds
  refine ⟨succeeds, fun name limit => ?_, balanced⟩
  obtain ⟨again, expands, sameText, -⟩ := expandsAgain name limit
  exact ⟨again, expands, sameText⟩

end ShaderBuild
