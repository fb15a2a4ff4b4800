import ShaderBuild.Proofs.Condition.SameTokens
import ShaderBuild.Proofs.Expansion.LineProblem
import ShaderBuild.Proofs.Expansion.Stacked

namespace ShaderBuild

/-!
# Expansions in lockstep

Two visits to the same lines do the same if they start with the same comment and
groups and with macro tables whose texts have the same tokens. Their traces differ in
line numbers only, and they end with such tables again or with the same problem. What
is preserved at one line carries over to whole sources and the files they include.
-/

/-- Both visits know the same, but for white space in replacement texts. -/
def Comparison.sameTokens : Comparison :=
  { Comparison.same with
    tables := MacroTable.SameTokens
    evaluate := MacroTable.SameTokens.evaluate_eq
    isDefined := fun alike _ => alike.isNameDefined_eq _ }

/-- What two visits know at a line that they do the same with. -/
abbrev LineContext.Alike (first second : LineContext) : Prop :=
  Stacks .sameTokens Eq [] first second

section

variable {first second : List ConditionalGroup}

theorem GroupsStack.flags_eq (groups : GroupsStack .sameTokens Eq [] first second) :
    (⟨first⟩ : Conditionals).flags = (⟨second⟩ : Conditionals).flags := by
  induction groups with
  | outside =>
      rfl
  | inside enclosing branch taken seenElse below inductionHypothesis =>
      exact congrArg₂ List.cons seenElse inductionHypothesis

theorem GroupsStack.liveness_eq (groups : GroupsStack .sameTokens Eq [] first second) :
    (⟨first⟩ : Conditionals).liveness = (⟨second⟩ : Conditionals).liveness := by
  cases groups with
  | outside =>
      rfl
  | inside enclosing branch taken seenElse below =>
      exact congrArg₂ Liveness.and enclosing branch

end

namespace LineContext.Alike

variable {first second : LineContext}

theorem top {macros macros' : MacroTable} (alike : macros.SameTokens macros') :
    LineContext.Alike (.top macros) (.top macros') :=
  ⟨rfl, .outside, alike⟩

theorem liveness_eq (alike : first.Alike second) :
    first.conditionals.liveness = second.conditionals.liveness :=
  alike.groups.liveness_eq

theorem flags_eq (alike : first.Alike second) :
    first.conditionals.flags = second.conditionals.flags :=
  alike.groups.flags_eq

theorem includes?_eq (alike : first.Alike second) (line : List Char) :
    first.includes? line = second.includes? line := by
  unfold includes?
  rw [alike.directive?_eq line, alike.liveness_eq]

theorem keptText_eq (alike : first.Alike second) (line : List Char) :
    first.keptText line = second.keptText line := by
  unfold keptText
  rw [alike.directive?_eq line, alike.liveness_eq, alike.commentAfter_eq line]

theorem tableAfter (alike : first.Alike second) (line : List Char) :
    (first.tableAfter line).SameTokens (second.tableAfter line) := by
  unfold LineContext.tableAfter
  rw [alike.directive?_eq line]
  have macros : first.macros.SameTokens second.macros := alike.macros
  cases second.directive? line with
  | none =>
      exact macros
  | some directive =>
      cases directive with
      | define body =>
          simp only [macrosAfter, alike.liveness_eq]
          exact macros.define body _
      | undef body =>
          simp only [macrosAfter, alike.liveness_eq]
          exact macros.undefine body _
      | _ =>
          exact macros

theorem resume
    (alike : first.Alike second)
    (line : List Char)
    {macros macros' : MacroTable}
    (sameMacros : macros.SameTokens macros') :
    (first.resume line macros).Alike (second.resume line macros') :=
  ⟨alike.commentAfter_eq line, alike.groups, sameMacros⟩

/-- A line that one visit gets past, the other one gets past. -/
theorem advance
    (alike : first.Alike second)
    {line : List Char}
    {next : LineContext}
    (keeps : second.advance? line = some next) :
    ∃ next', first.advance? line = some next' ∧ next'.Alike next := by
  obtain ⟨passable, conditionals, accepted, rfl⟩ := advance?_eq_some_iff.mp keeps
  obtain ⟨conditionals', accepted', groups⟩ := alike.groupsAfter alike.liveness_eq accepted
  refine ⟨_, advance?_eq_some_iff.mpr ⟨?_, conditionals', accepted', rfl⟩, ?_⟩
  · rw [alike.directive?_eq line, alike.liveness_eq]
    exact passable
  · exact ⟨alike.commentAfter_eq line, groups, alike.tableAfter line⟩

/-- A problem of a line in one visit is a problem of it in the other one. -/
theorem hasProblem
    (alike : first.Alike second)
    {line : List Char}
    {problem : ExpansionProblem}
    (hasProblem : second.HasProblem line problem) :
    first.HasProblem line problem := by
  have directives := alike.directive?_eq line
  cases hasProblem with
  | malformedInclude holds notDead =>
      exact .malformedInclude (directives.trans holds) (alike.liveness_eq ▸ notDead)
  | errorDirective holds live =>
      exact .errorDirective (directives.trans holds) (alike.liveness_eq.trans live)
  | misplaced holds misfits =>
      exact .misplaced (directives.trans holds) (alike.flags_eq ▸ misfits)

end LineContext.Alike

/-! ### Traces but for line numbers -/

/-- An event of an expansion without the number of a line. -/
def ExpansionEvent.unnumbered : ExpansionEvent → ExpansionEvent
  | .line added => .line ⟨added.text, added.origin.map fun origin => ⟨origin.source, 0⟩⟩
  | event => event

namespace Expansion

/-- Two expansions end alike: with the same tokens, or with one problem in one source. -/
inductive EndsAlike :
    Except ExpansionFailure MacroTable → Except ExpansionFailure MacroTable → Prop where
  | ok
      {macros macros' : MacroTable}
      (alike : macros.SameTokens macros') :
      EndsAlike (.ok macros) (.ok macros')
  | error
      {source : String} {line line' : Nat} {problem : ExpansionProblem} :
      EndsAlike (.error ⟨⟨source, line⟩, problem⟩) (.error ⟨⟨source, line'⟩, problem⟩)

/-- Two expansions do the same, but for line numbers. -/
structure Alike (first second : Expansion) : Prop where
  trace :
    first.trace.map ExpansionEvent.unnumbered = second.trace.map ExpansionEvent.unnumbered
  result : EndsAlike first.result second.result

namespace Alike

variable {first second : Expansion}

theorem fail
    {origin origin' : Origin}
    (source : origin.source = origin'.source)
    (problem : ExpansionProblem) :
    (Expansion.fail origin problem).Alike (.fail origin' problem) := by
  obtain ⟨name, line⟩ := origin
  obtain ⟨name', line'⟩ := origin'
  cases source
  exact ⟨rfl, .error⟩

theorem after
    (alike : first.Alike second)
    {events events' : List ExpansionEvent}
    (before :
      events.map ExpansionEvent.unnumbered = events'.map ExpansionEvent.unnumbered) :
    (first.after events).Alike (second.after events') := by
  refine ⟨?_, alike.result⟩
  rw [trace_after, trace_after, List.map_append, List.map_append, before, alike.trace]

theorem andThen
    (alike : first.Alike second)
    {next next' : MacroTable → Expansion}
    (goesOn :
      ∀ {macros macros' : MacroTable}, macros.SameTokens macros' →
        (next macros).Alike (next' macros')) :
    (first.andThen next).Alike (second.andThen next') := by
  obtain ⟨trace, result⟩ := first
  obtain ⟨trace', result'⟩ := second
  cases alike.result with
  | ok macros =>
      exact (goesOn macros).after alike.trace
  | error =>
      exact alike

theorem requests_eq (alike : first.Alike second) : first.requests = second.requests := by
  have forgetful : ∀ event : ExpansionEvent, event.unnumbered.request? = event.request? := by
    rintro (added | request | source) <;> rfl
  have same := congrArg (List.filterMap ExpansionEvent.request?) alike.trace
  simpa only [List.filterMap_map, Function.comp_def, forgetful, requests] using same

theorem texts_eq (alike : first.Alike second) :
    first.lines.map (·.text) = second.lines.map (·.text) := by
  have forgetful :
      ∀ event : ExpansionEvent,
        (event.unnumbered.line?).map (·.text) = event.line?.map (·.text) := by
    rintro (added | request | source) <;> rfl
  have same := congrArg (List.filterMap fun event => event.line?.map (·.text)) alike.trace
  simpa only [List.filterMap_map, Function.comp_def, forgetful, lines, List.map_filterMap]
    using same

end Alike

end Expansion

/-! ### Visits -/

/-- Two includers do the same from one source, with macros that have the same tokens. -/
def Includer.Alike (splice splice' : Includer) : Prop :=
  ∀ {origin origin' : Origin} {macros macros' : MacroTable},
    origin.source = origin'.source → macros.SameTokens macros' →
      ∀ kind target,
        (splice origin kind target macros).Alike (splice' origin' kind target macros')

namespace Visit

variable
  {source : String} {nested : Bool} {splice splice' : Includer} {context context' : LineContext}

theorem finish_alike (alike : context.Alike context') :
    ((Visit.mk source nested splice).finish context).Alike
      ((Visit.mk source nested splice').finish context') := by
  have groups := alike.groups
  unfold finish Conditionals.unterminated?
  rw [alike.inComment]
  generalize context.conditionals.groups = stillOpen at groups ⊢
  generalize context'.conditionals.groups = stillOpen' at groups ⊢
  cases groups with
  | outside =>
      simp only [List.head?_nil, Option.map_none]
      split
      · exact .fail (by rfl) _
      · exact ⟨rfl, .ok alike.macros⟩
  | inside enclosing branch taken seenElse below =>
      simp only [List.head?_cons, Option.map_some]
      exact .fail (by rfl) _

/-- Two visits that know the same do the same with all lines that are left. -/
theorem run_alike
    (splices : Includer.Alike splice splice')
    (alike : context.Alike context')
    (lines : List (List Char)) :
    ((Visit.mk source nested splice).run context lines).Alike
      ((Visit.mk source nested splice').run context' lines) := by
  -- What both visits know is related at every line; what they have written is not looked at.
  induction lines generalizing context context' with
  | nil =>
      exact finish_alike alike
  | cons line others inductionHypothesis =>
      rcases context'.advances_or_includes_or_stops line with
        ⟨next', keeps'⟩ | ⟨kind, target, includes'⟩ | ⟨problem, stops'⟩
      · obtain ⟨next, keeps, goesOn⟩ := alike.advance keeps'
        rw [run_of_advance? keeps, run_of_advance? keeps', alike.keptText_eq line]
        exact (inductionHypothesis goesOn).after rfl
      · have includes := (alike.includes?_eq line).trans includes'
        rw [run_of_includes? includes, run_of_includes? includes']
        refine (splices (by rfl) alike.macros kind target).andThen fun sameMacros => ?_
        refine (inductionHypothesis (alike.resume line sameMacros)).after ?_
        unfold VisitedLines.closing
        rw [alike.commentAfter_eq line]
        split <;> rfl
      · have hasProblem := alike.hasProblem (LineContext.action_eq_stop_iff.mp stops')
        rw [run_of_stop (LineContext.action_eq_stop_iff.mpr hasProblem), run_of_stop stops']
        exact .fail (by rfl) problem

end Visit

namespace ExpansionSettings

variable {settings settings' : ExpansionSettings}

/-- Includers do not look at the macros that an expansion starts with. -/
theorem includer_alike
    (sameResolver : settings.resolver = settings'.resolver)
    (sameLimit : settings.depthLimit = settings'.depthLimit)
    (levels depth : Nat) :
    Includer.Alike (settings.includer levels depth) (settings'.includer levels depth) := by
  induction levels generalizing depth with
  | zero =>
      intro origin origin' macros macros' source sameMacros kind target
      unfold includer
      rw [sameResolver, sameLimit]
      split <;> exact .fail source _
  | succ levels inductionHypothesis =>
      intro origin origin' macros macros' source sameMacros kind target
      unfold includer
      rw [sameResolver, source]
      split
      · exact .fail source _
      · simp only
        split
        · exact (Expansion.Alike.fail source _).after rfl
        · exact (Visit.run_alike (inductionHypothesis (depth + 1)) (.top sameMacros) _).after rfl

end ExpansionSettings

end ShaderBuild
