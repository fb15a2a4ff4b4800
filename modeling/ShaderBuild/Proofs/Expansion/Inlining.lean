import Mathlib.Data.Nat.Find
import ShaderBuild.Include.Resolver
import ShaderBuild.Proofs.Expansion.Preserved
import ShaderBuild.Proofs.Expansion.Stacked

namespace ShaderBuild

/-!
# Includes and the text they stand for

The lines of a file may be written in the place of an include of it. Where the
include's region is live, this changes nothing about the expanded text.

Elsewhere it may: a visit to an included file starts without groups, so it takes the
file's lines for live even if it is unknown whether the include is reached. The two
texts still agree if no line that is taken for live defines or undefines a macro or
holds an `#error`; the first such line has another effect in each of them.
-/

/--
Whether the directive does something else in live regions than in unknown ones. A
name that the compiler may define is unknown in both of them once it is undefined.
-/
def Directive.isSensitive : Directive → Bool
  | .define body => !(splitIdentifier body).1.isEmpty
  | .undef body => !isPredefined (firstIdentifier body)
  | .error _ => true
  | _ => false

theorem MacroTable.define_of_nameless
    {body : List Char}
    (nameless : (splitIdentifier body).1 = [])
    (table : MacroTable)
    (liveness : Liveness) :
    table.define body liveness = table := by
  unfold define
  split
  · rfl
  · rename_i name rest named split
    rw [split] at nameless
    exact absurd nameless named

/-- The answers of a resolver depend on neither the requesting source nor the nesting. -/
def IgnoresSite (resolver : Option Resolver) : Prop :=
  ∀ target kind source source' depth depth' included,
    Answers resolver ⟨target, kind, source, depth⟩ included →
      Answers resolver ⟨target, kind, source', depth'⟩ included

/-- A collection of sources is asked for names alone. -/
theorem SourceCollection.answers_iff
    {collection : SourceCollection}
    {request : IncludeRequest}
    {included : IncludedSource} :
    Answers (some collection.resolver) request included ↔
      ∃ content,
        collection.find? request.target = some content ∧
          included = ⟨request.target, content⟩ := by
  unfold Answers SourceCollection.resolver
  cases found : collection.find? request.target with
  | none =>
      simp [found]
  | some content =>
      simp [found, eq_comm]

theorem SourceCollection.ignoresSite (collection : SourceCollection) :
    IgnoresSite (some collection.resolver) := by
  intro target kind source source' depth depth' included answers
  rw [answers_iff] at answers ⊢
  exact answers

/-! ### Regions -/

namespace Liveness

theorem live_and (liveness : Liveness) : Liveness.live.and liveness = liveness := by
  cases liveness <;> rfl

theorem and_live (liveness : Liveness) : liveness.and .live = liveness := by
  cases liveness <;> rfl

theorem and_assoc (first second third : Liveness) :
    (first.and second).and third = first.and (second.and third) := by
  cases first <;> cases second <;> cases third <;> rfl

/-- A region inside one that is not skipped is known as well, unless only the outer is not. -/
theorem and_eq_or {first : Liveness} (notDead : first ≠ .dead) (second : Liveness) :
    first.and second = second ∨ first = .unknown ∧ second = .live := by
  cases first with
  | dead =>
      exact absurd rfl notDead
  | live =>
      exact .inl (live_and second)
  | unknown =>
      cases second with
      | live =>
          exact .inr ⟨rfl, rfl⟩
      | dead | unknown =>
          exact .inl rfl

theorem isDead_and {first : Liveness} (notDead : first ≠ .dead) (second : Liveness) :
    (first.and second).isDead = second.isDead := by
  cases first <;> cases second <;> first | rfl | exact absurd rfl notDead

end Liveness

/-! ### Visits to the same lines -/

/--
A visit that meets a file's lines in the place of an include, compared with a visit
to the file: its regions are those of the file inside the include's.
-/
abbrev Inlines (outer : List ConditionalGroup) : (inlined alone : LineContext) → Prop :=
  Stacks .same
    (fun inlined alone => inlined = (Conditionals.liveness ⟨outer⟩).and alone) outer

/-- Whether the line does the same inside outer groups: they are live, or it need not be. -/
def LineContext.IsTransparent
    (outer : List ConditionalGroup) (alone : LineContext) (line : List Char) : Prop :=
  Conditionals.liveness ⟨outer⟩ = .live ∨
    (alone.conditionals.liveness = .live →
      ∀ directive, alone.directive? line = some directive →
        directive.isSensitive = false)

/-- A line that is not transparent is taken for live, and has a directive to which it matters. -/
theorem LineContext.sensitive_of_not_transparent
    {outer : List ConditionalGroup}
    {alone : LineContext}
    {line : List Char}
    (notTransparent : ¬alone.IsTransparent outer line) :
    Conditionals.liveness ⟨outer⟩ ≠ .live ∧
      alone.conditionals.liveness = .live ∧
        ∃ directive,
          alone.directive? line = some directive ∧ directive.isSensitive = true := by
  unfold IsTransparent at notTransparent
  push Not at notTransparent
  obtain ⟨notLive, live, directive, holds, sensitive⟩ := notTransparent
  exact ⟨notLive, live, directive, holds, by simpa using sensitive⟩

namespace Inlines

variable {outer : List ConditionalGroup} {inlined alone : LineContext}

/-- A line's region lies in the include's. -/
theorem liveness (inlines : Inlines outer inlined alone) :
    inlined.conditionals.liveness =
      (Conditionals.liveness ⟨outer⟩).and alone.conditionals.liveness := by
  have groups := inlines.groups
  unfold Conditionals.liveness at groups ⊢
  generalize inlined.conditionals.groups = stacked at groups
  generalize alone.conditionals.groups = single at groups
  cases groups with
  | outside =>
      rw [Liveness.and_live]
  | inside enclosing branch taken seenElse below =>
      simp only [enclosing, ← Liveness.and_assoc]
      exact congrArg _ branch

theorem isDead_eq
    (inlines : Inlines outer inlined alone)
    (notDead : Conditionals.liveness ⟨outer⟩ ≠ .dead) :
    inlined.conditionals.liveness.isDead = alone.conditionals.liveness.isDead := by
  rw [inlines.liveness, Liveness.isDead_and notDead]

theorem includes?_eq
    (inlines : Inlines outer inlined alone)
    (notDead : Conditionals.liveness ⟨outer⟩ ≠ .dead)
    (line : List Char) :
    inlined.includes? line = alone.includes? line := by
  unfold LineContext.includes?
  rw [inlines.directive?_eq, inlines.isDead_eq notDead]

theorem keptText_eq
    (inlines : Inlines outer inlined alone)
    (notDead : Conditionals.liveness ⟨outer⟩ ≠ .dead)
    (line : List Char) :
    inlined.keptText line = alone.keptText line := by
  unfold LineContext.keptText
  rw [inlines.directive?_eq, inlines.isDead_eq notDead, inlines.commentAfter_eq]

/-- The regions of a transparent line differ only if they do not matter to its directive. -/
theorem liveness_eq_or
    (inlines : Inlines outer inlined alone)
    (notDead : Conditionals.liveness ⟨outer⟩ ≠ .dead)
    {line : List Char}
    (transparent : alone.IsTransparent outer line)
    {directive : Directive}
    (holds : alone.directive? line = some directive) :
    inlined.conditionals.liveness = alone.conditionals.liveness ∨
      inlined.conditionals.liveness = .unknown ∧
        alone.conditionals.liveness = .live ∧ directive.isSensitive = false := by
  rw [inlines.liveness]
  rcases Liveness.and_eq_or notDead alone.conditionals.liveness with same | ⟨isUnknown, live⟩
  · exact .inl same
  · rcases transparent with outerLive | quiet
    · rw [isUnknown] at outerLive
      cases outerLive
    · refine .inr ⟨?_, live, quiet live directive holds⟩
      rw [isUnknown, live]
      rfl

/-- A transparent line changes what conditions see of macros alike in both visits. -/
theorem view_tableAfter
    (inlines : Inlines outer inlined alone)
    (notDead : Conditionals.liveness ⟨outer⟩ ≠ .dead)
    {line : List Char}
    (transparent : alone.IsTransparent outer line) :
    (inlined.tableAfter line).view = (alone.tableAfter line).view := by
  have macros : inlined.macros.view = alone.macros.view := inlines.macros
  unfold LineContext.tableAfter
  rw [inlines.directive?_eq]
  cases holds : alone.directive? line with
  | none =>
      exact macros
  | some directive =>
      unfold LineContext.macrosAfter
      rcases inlines.liveness_eq_or notDead transparent holds with
        same | ⟨isUnknown, live, notSensitive⟩
      · rw [same]
        cases directive with
        | define body =>
            exact MacroTable.view_define_congr macros body _
        | undef body =>
            exact MacroTable.view_undefine_congr macros body _
        | _ =>
            exact macros
      · rw [isUnknown, live]
        cases directive with
        | define body =>
            have nameless : (splitIdentifier body).1 = [] := by
              simpa [Directive.isSensitive] using notSensitive
            simp only [MacroTable.define_of_nameless nameless]
            exact macros
        | undef body =>
            have predefined : isPredefined (firstIdentifier body) = true := by
              simpa [Directive.isSensitive] using notSensitive
            exact (MacroTable.view_undefine_congr macros body _).trans
              (MacroTable.view_undefine_of_isPredefined predefined alone.macros)
        | _ =>
            exact macros

/-- A transparent line may stand where it stands in both visits or in neither. -/
theorem isPassable_eq
    (inlines : Inlines outer inlined alone)
    (notDead : Conditionals.liveness ⟨outer⟩ ≠ .dead)
    {line : List Char}
    (transparent : alone.IsTransparent outer line)
    {directive : Directive}
    (holds : alone.directive? line = some directive) :
    directive.isPassable inlined.conditionals.liveness =
      directive.isPassable alone.conditionals.liveness := by
  rcases inlines.liveness_eq_or notDead transparent holds with same | ⟨-, -, notSensitive⟩
  · rw [same]
  · cases directive with
    | includeFile kind target | malformedInclude fault =>
        exact inlines.isDead_eq notDead
    | error text =>
        cases notSensitive
    | _ =>
        rfl

/-- A transparent line that the visit to the file keeps is kept in the include's place. -/
theorem advance
    (inlines : Inlines outer inlined alone)
    (notDead : Conditionals.liveness ⟨outer⟩ ≠ .dead)
    {line : List Char}
    (transparent : alone.IsTransparent outer line)
    {next : LineContext}
    (keeps : alone.advance? line = some next) :
    ∃ next',
      inlined.advance? line = some next' ∧ Inlines outer next' next := by
  obtain ⟨passable, conditionals, accepted, rfl⟩ :=
    LineContext.advance?_eq_some_iff.mp keeps
  obtain ⟨onOuter, stackedAccepted, groups⟩ :=
    inlines.groupsAfter inlines.liveness accepted
  refine ⟨inlined.next (inlined.commentAfter line) onOuter (inlined.tableAfter line),
    ?_, inlines.commentAfter_eq line, groups, inlines.view_tableAfter notDead transparent⟩
  rw [LineContext.advance?_eq_some_iff, inlines.directive?_eq]
  refine ⟨?_, onOuter, stackedAccepted, rfl⟩
  cases holds : alone.directive? line with
  | none =>
      rfl
  | some directive =>
      rw [holds, Option.all_some] at passable
      rw [Option.all_some, inlines.isPassable_eq notDead transparent holds]
      exact passable

/-- A transparent line that fits the file's own groups is kept by the visit to the file. -/
theorem retreat
    (inlines : Inlines outer inlined alone)
    (notDead : Conditionals.liveness ⟨outer⟩ ≠ .dead)
    {line : List Char}
    (transparent : alone.IsTransparent outer line)
    {flags : List Bool}
    (fits :
      (alone.directive? line).toList.foldlM Directive.nest alone.conditionals.flags =
        some flags)
    {next' : LineContext}
    (keeps : inlined.advance? line = some next') :
    ∃ next,
      alone.advance? line = some next ∧ Inlines outer next' next ∧
        next.conditionals.flags = flags := by
  obtain ⟨passable, onOuter, stackedAccepted, rfl⟩ :=
    LineContext.advance?_eq_some_iff.mp keeps
  obtain ⟨conditionals, accepted, sameFlags⟩ :=
    LineContext.groupsAfter_of_nest fits
  have aloneKeeps :
      alone.advance? line =
        some (alone.next (alone.commentAfter line) conditionals (alone.tableAfter line)) := by
    rw [LineContext.advance?_eq_some_iff]
    refine ⟨?_, conditionals, accepted, rfl⟩
    rw [inlines.directive?_eq] at passable
    cases holds : alone.directive? line with
    | none =>
        rfl
    | some directive =>
        rw [holds, Option.all_some,
          inlines.isPassable_eq notDead transparent holds] at passable
        exact passable
  obtain ⟨next, keepsAgain, inlinesNext⟩ :=
    inlines.advance notDead transparent aloneKeeps
  rw [keeps, Option.some.injEq] at keepsAgain
  subst keepsAgain
  exact ⟨_, aloneKeeps, inlinesNext, sameFlags⟩

end Inlines

namespace Inlines

variable {outer : List ConditionalGroup} {inlined alone context : LineContext}

theorem refl (context : LineContext) : Inlines [] context context := by
  refine ⟨rfl, ?_, rfl⟩
  induction context.conditionals.groups with
  | nil =>
      exact .outside
  | cons group others inductionHypothesis =>
      exact .inside (Liveness.live_and _).symm rfl rfl rfl inductionHypothesis

theorem groups_symm
    {stacked single : List ConditionalGroup}
    (groups :
      GroupsStack .same
        (fun inlined alone => inlined = (Conditionals.liveness ⟨[]⟩).and alone)
        [] stacked single) :
    GroupsStack .same
      (fun inlined alone => inlined = (Conditionals.liveness ⟨[]⟩).and alone)
      [] single stacked := by
  induction groups with
  | outside =>
      exact .outside
  | @inside stacked single stackedOuter singleOuter enclosing branch taken seenElse below
      inductionHypothesis =>
      have sameRegion : stacked.enclosing = single.enclosing :=
        enclosing.trans (Liveness.live_and _)
      exact .inside (sameRegion.symm.trans (Liveness.live_and _).symm)
        (Eq.symm branch) (Eq.symm taken) seenElse.symm inductionHypothesis

theorem symm (inlines : Inlines [] inlined alone) : Inlines [] alone inlined :=
  ⟨inlines.inComment.symm, groups_symm inlines.groups, Eq.symm inlines.macros⟩

/-- Two visits that differ in nothing but line numbers end alike. -/
theorem isEnd
    {nested : Bool}
    (inlines : Inlines [] inlined alone)
    (ends : alone.IsEnd nested) :
    inlined.IsEnd nested := by
  have groups := inlines.groups
  rw [ends.closed] at groups
  exact ⟨groups.eq_outer, fun isNested => inlines.inComment.trans (ends.outside isNested)⟩

/-- After a file, both visits go on with the groups that they had before it. -/
theorem resume
    (inlines : Inlines outer inlined alone)
    (line : List Char)
    {macros macros' : MacroTable}
    (alike : macros'.view = macros.view) :
    Inlines outer (inlined.resume line macros') (alone.resume line macros) :=
  ⟨inlines.commentAfter_eq line, inlines.groups, alike⟩

/-- Two visits to a file whose includes see the same macros. -/
theorem tops
    {macros macros' : MacroTable}
    (alike : macros'.view = macros.view) :
    Inlines [] (.top macros') (.top macros) :=
  ⟨rfl, .outside, alike⟩

/-- The lines of a file stand at an include where the visit to the file starts. -/
theorem top (outside : context.inComment = false) :
    Inlines context.conditionals.groups context (.top context.macros) :=
  ⟨outside, .outside, rfl⟩

/--
Behind a file's lines in the place of an include, the closing line leads to what is
known behind the include.
-/
theorem closing
    {site bottom : LineContext}
    (inlines : Inlines site.conditionals.groups inlined bottom)
    (ends : bottom.IsEnd true)
    (line : List Char)
    (resolver : Option Resolver)
    (source : String)
    (depth : Nat) :
    ∃ visited after,
      Passes resolver source depth inlined
          (VisitedLines.closingText (site.commentAfter line)) visited after ∧
        visited.texts = VisitedLines.closingText (site.commentAfter line) ∧
          visited.height = 0 ∧
            Inlines [] after (site.resume line bottom.macros) := by
  have outside := inlines.inComment.trans (ends.outside rfl)
  obtain ⟨after, preserves, comment, conditionals, macros⟩ :=
    LineContext.preserveAll?_closingText outside (site.commentAfter line)
  obtain ⟨visited, passes, texts, flat⟩ :=
    LineContext.passes_of_preserveAll? resolver source depth preserves
  refine ⟨visited, after, passes, texts, flat, comment, ?_, ?_⟩
  · have groups := inlines.groups
    rw [ends.closed] at groups
    rw [conditionals, groups.eq_outer]
    exact (refl site).groups
  · rw [macros]
    exact inlines.macros

end Inlines

/-! ### Visits to the same files -/

/-- Every line that a visit to a file comes to is transparent inside these outer groups. -/
def IsTransparentFile
    (resolver : Option Resolver)
    (outer : List ConditionalGroup)
    (source : String)
    (depth : Nat)
    (context : LineContext)
    (lines : List (List Char)) :
    Prop :=
  ∀ (n : Nat) (visited : VisitedLines) (reached : LineContext) (line : List Char),
    Passes resolver source depth context (lines.take n) visited reached →
      lines[n]? = some line → reached.IsTransparent outer line

namespace IsTransparentFile

variable
  {resolver : Option Resolver} {outer : List ConditionalGroup} {source : String}
  {depth : Nat} {context : LineContext} {line : List Char} {others : List (List Char)}

/-- Every file is transparent inside groups that are live. -/
theorem of_live
    (live : Conditionals.liveness ⟨outer⟩ = .live)
    (lines : List (List Char)) :
    IsTransparentFile resolver outer source depth context lines :=
  fun _ _ _ _ _ _ => .inl live

theorem head
    (transparent :
      IsTransparentFile resolver outer source depth context (line :: others)) :
    context.IsTransparent outer line :=
  transparent 0 .done context line .done rfl

theorem kept
    (transparent :
      IsTransparentFile resolver outer source depth context (line :: others))
    {next : LineContext}
    (keeps : context.advance? line = some next) :
    IsTransparentFile resolver outer source depth next others := by
  intro n visited reached other passes found
  exact transparent (n + 1) _ reached other
    (.kept (LineContext.includes?_of_advance? keeps) keeps passes) found

theorem spliced
    (transparent :
      IsTransparentFile resolver outer source depth context (line :: others))
    {kind : IncludeKind}
    {target : String}
    {included : IncludedSource}
    {inside : VisitedLines}
    {bottom : LineContext}
    (includes : context.includes? line = some (kind, target))
    (answers : Answers resolver ⟨target, kind, source, depth + 1⟩ included)
    (nested :
      Passes resolver included.name (depth + 1) (.top context.macros)
        (Text.lines included.content) inside bottom)
    (ends : bottom.IsEnd true) :
    IsTransparentFile resolver outer source depth
      (context.resume line bottom.macros) others := by
  intro n visited reached other passes found
  exact transparent (n + 1) _ reached other
    (.spliced includes answers nested ends passes) found

/-- A file that is not transparent has a first line that is not. -/
theorem exists_first
    {lines : List (List Char)}
    (notTransparent : ¬IsTransparentFile resolver outer source depth context lines) :
    ∃ n visited reached line,
      Passes resolver source depth context (lines.take n) visited reached ∧
        lines[n]? = some line ∧
          ¬reached.IsTransparent outer line ∧
            IsTransparentFile resolver outer source depth context (lines.take n) := by
  classical
  have exists_line :
      ∃ n visited reached line,
        Passes resolver source depth context (lines.take n) visited reached ∧
          lines[n]? = some line ∧ ¬reached.IsTransparent outer line := by
    by_contra none
    apply notTransparent
    intro n visited reached line passes found
    by_contra notHere
    exact none ⟨n, visited, reached, line, passes, found, notHere⟩
  obtain ⟨visited, reached, line, passes, found, notHere⟩ := Nat.find_spec exists_line
  refine ⟨_, visited, reached, line, passes, found, notHere, ?_⟩
  intro n visited' reached' line' passes' found'
  rw [List.getElem?_take, Option.ite_none_right_eq_some] at found'
  obtain ⟨isBelow, isHere⟩ := found'
  by_contra notBefore
  rw [List.take_take, Nat.min_eq_left (Nat.le_of_lt isBelow)] at passes'
  exact Nat.find_min exists_line isBelow
    ⟨visited', reached', line', passes', isHere, notBefore⟩

end IsTransparentFile

namespace Passes

variable {resolver : Option Resolver} (ignores : IgnoresSite resolver)

include ignores

/-- The lines of a transparent file are passed in the place of an include as in the file. -/
theorem inline
    {source : String}
    {depth : Nat}
    {alone last : LineContext}
    {lines : List (List Char)}
    {visited : VisitedLines}
    (passes : Passes resolver source depth alone lines visited last)
    {outer : List ConditionalGroup}
    {inlined : LineContext}
    (inlines : Inlines outer inlined alone)
    (notDead : Conditionals.liveness ⟨outer⟩ ≠ .dead)
    (transparent : IsTransparentFile resolver outer source depth alone lines)
    (source' : String)
    (depth' : Nat) :
    ∃ visited' last',
      Passes resolver source' depth' inlined lines visited' last' ∧
        Inlines outer last' last ∧
          visited'.texts = visited.texts ∧ visited'.height = visited.height := by
  induction passes generalizing outer inlined source' depth' with
  | done =>
      exact ⟨.done, inlined, .done, inlines, rfl, rfl⟩
  | @kept source depth context next last line others visited single keeps rest
      inductionHypothesis =>
      obtain ⟨next', keeps', inlinesNext⟩ :=
        inlines.advance notDead transparent.head keeps
      obtain ⟨visited', last', passes', inlinesLast, texts, height⟩ :=
        inductionHypothesis inlinesNext notDead (transparent.kept keeps) source' depth'
      refine ⟨.kept inlined line visited', last',
        .kept ((inlines.includes?_eq notDead line).trans single) keeps' passes',
        inlinesLast, ?_, height⟩
      rw [VisitedLines.texts, VisitedLines.texts, texts, inlines.keptText_eq notDead]
  | @spliced source depth context bottom last line others kind target included inside
      visited includes answers nested ends rest insideHypothesis restHypothesis =>
      obtain ⟨inside', bottom', nested', inlinesBottom, insideTexts, insideHeight⟩ :=
        insideHypothesis (.tops inlines.macros) (by decide)
          (.of_live rfl _) included.name (depth' + 1)
      obtain ⟨visited', last', passes', inlinesLast, texts, height⟩ :=
        restHypothesis (inlines.resume line inlinesBottom.macros) notDead
          (transparent.spliced includes answers nested ends) source' depth'
      refine ⟨_, last',
        .spliced ((inlines.includes?_eq notDead line).trans includes)
          (ignores _ _ _ source' _ (depth' + 1) _ answers)
          nested' (inlinesBottom.isEnd ends) passes',
        inlinesLast, ?_, ?_⟩
      · rw [VisitedLines.texts, VisitedLines.texts, texts, insideTexts,
          inlines.commentAfter_eq]
      · rw [VisitedLines.height, VisitedLines.height, height, insideHeight]

/--
The lines of a transparent file that are passed in the place of an include are
passed in the file as well, if they fit the file's own groups.
-/
theorem outline
    {source : String}
    {depth : Nat}
    {inlined last : LineContext}
    {lines : List (List Char)}
    {visited : VisitedLines}
    (passes : Passes resolver source depth inlined lines visited last)
    {outer : List ConditionalGroup}
    {alone : LineContext}
    (inlines : Inlines outer inlined alone)
    (notDead : Conditionals.liveness ⟨outer⟩ ≠ .dead)
    {source' : String}
    {depth' : Nat}
    (transparent : IsTransparentFile resolver outer source' depth' alone lines)
    {flags : List Bool}
    (fits :
      (Directive.ofLines alone.inComment lines).foldlM Directive.nest
        alone.conditionals.flags = some flags) :
    ∃ visited' last',
      Passes resolver source' depth' alone lines visited' last' ∧
        Inlines outer last last' ∧ visited'.texts = visited.texts := by
  induction passes generalizing outer alone with
  | done =>
      exact ⟨.done, alone, .done, inlines, rfl⟩
  | @kept source depth context next last line others visited single keeps rest
      inductionHypothesis =>
      rw [LineContext.ofLines_cons, List.foldlM_append] at fits
      obtain ⟨flagsHere, fitsHere, fitsBelow⟩ := Option.bind_eq_some_iff.mp fits
      obtain ⟨next', keeps', inlinesNext, rfl⟩ :=
        inlines.retreat notDead transparent.head fitsHere keeps
      rw [← LineContext.inComment_of_advance? keeps'] at fitsBelow
      obtain ⟨visited', last', passes', inlinesLast, texts⟩ :=
        inductionHypothesis inlinesNext notDead (transparent.kept keeps') fitsBelow
      refine ⟨.kept alone line visited', last',
        .kept (LineContext.includes?_of_advance? keeps') keeps' passes', inlinesLast, ?_⟩
      rw [VisitedLines.texts, VisitedLines.texts, texts, inlines.keptText_eq notDead]
  | @spliced source depth context bottom last line others kind target included inside
      visited includes answers nested ends rest insideHypothesis restHypothesis =>
      have includes' : alone.includes? line = some (kind, target) :=
        (inlines.includes?_eq notDead line).symm.trans includes
      have answers' := ignores _ _ _ source' _ (depth' + 1) _ answers
      obtain ⟨inside', bottom', nested', inlinesBottom, insideTexts, -⟩ :=
        nested.inline ignores (.tops (Eq.symm inlines.macros)) (by decide)
          (.of_live rfl _) included.name (depth' + 1)
      have ends' := inlinesBottom.isEnd ends
      rw [LineContext.ofLines_cons,
        (LineContext.directive?_of_includes? includes').1] at fits
      obtain ⟨visited', last', passes', inlinesLast, texts⟩ :=
        restHypothesis (inlines.resume line (Eq.symm inlinesBottom.macros)) notDead
          (transparent.spliced includes' answers' nested' ends') fits
      refine ⟨_, last', .spliced includes' answers' nested' ends' passes',
        inlinesLast, ?_⟩
      rw [VisitedLines.texts, VisitedLines.texts, texts, insideTexts,
        inlines.commentAfter_eq]

end Passes

end ShaderBuild
