import Mathlib.Control.Monad.Basic
import ShaderBuild.Include.Resolver
import ShaderBuild.Proofs.Expansion.Passage
import ShaderBuild.Proofs.Knowledge

namespace ShaderBuild

/-!
# Skipped lines

What stands on a line of a skipped region makes no difference, as long as it is no
conditional directive and no `#version` and leaves the same comment open. Two root
sources that differ in such lines are walked alike: both visits know the same at every
line, and add one line each for a line that differs.
-/

/-- A directive that opens, continues or closes a group. -/
def Directive.isConditional : Directive → Bool
  | .ifCondition _ | .ifDefined _ | .ifNotDefined _ | .elifCondition _ | .otherwise | .endIf =>
      true
  | _ => false

namespace LineContext

/-- Neither a conditional directive nor `#version` stands on the line. -/
def isPlain (context : LineContext) (line : List Char) : Bool :=
  !(context.directive? line).any (·.isConditional) &&
    !(!context.inComment && Directive.isVersion (Comment.strip false line))

/-- In a skipped region, the second line may take the place of the first one. -/
structure Exchanges (context : LineContext) (line other : List Char) : Prop where
  skipped : context.conditionals.liveness = .dead
  plain : context.isPlain line = true
  otherPlain : context.isPlain other = true
  comment : context.commentAfter other = context.commentAfter line

instance (context : LineContext) (line other : List Char) :
    Decidable (context.Exchanges line other) :=
  decidable_of_iff
    (context.conditionals.liveness = .dead ∧ context.isPlain line = true ∧
      context.isPlain other = true ∧ context.commentAfter other = context.commentAfter line)
    ⟨fun ⟨skipped, plain, otherPlain, comment⟩ => ⟨skipped, plain, otherPlain, comment⟩,
      fun ⟨skipped, plain, otherPlain, comment⟩ => ⟨skipped, plain, otherPlain, comment⟩⟩

/-- A plain line of a skipped region is kept, and nothing but comments changes. -/
theorem advance?_of_skipped
    {context : LineContext}
    {line : List Char}
    (skipped : context.conditionals.liveness = .dead)
    (plain : context.isPlain line = true) :
    context.advance? line =
      some (context.next (context.commentAfter line)
        context.conditionals context.macros) := by
  have notConditional : (context.directive? line).any (·.isConditional) = false := by
    rw [isPlain, Bool.and_eq_true, Bool.not_eq_true'] at plain
    exact plain.1
  rw [advance?_eq_some_iff, groupsAfter, tableAfter]
  cases holds : context.directive? line with
  | none =>
      exact ⟨rfl, context.conditionals, rfl, rfl⟩
  | some directive =>
      rw [holds, Option.any_some] at notConditional
      rw [Option.all_some, skipped]
      cases directive with
      | includeFile kind target | malformedInclude fault | includeExtension | error text =>
          exact ⟨rfl, context.conditionals, rfl, rfl⟩
      | define body =>
          refine ⟨rfl, context.conditionals, rfl, ?_⟩
          simp only [macrosAfter, skipped, MacroTable.define_dead]
      | undef body =>
          refine ⟨rfl, context.conditionals, rfl, ?_⟩
          simp only [macrosAfter, skipped, MacroTable.undefine]
      | _ =>
          cases notConditional

end LineContext

/-! ### Two sources -/

namespace Visit

/-- The second list of lines is the first one with lines of skipped regions replaced. -/
def Replaces
    (visit : Visit) (context : LineContext) (lines others : List (List Char)) : Prop :=
  others.length = lines.length ∧
    ∀ n < lines.length,
      others[n]? = lines[n]? ∨
        ∃ entry ∈ (visit.entries context lines)[n]?,
          ∃ other ∈ others[n]?, entry.1.Exchanges entry.2 other

instance (visit : Visit) (context : LineContext) (lines others : List (List Char)) :
    Decidable (visit.Replaces context lines others) :=
  inferInstanceAs (Decidable (_ ∧ _))

/-- A walk through both lists of lines at once, in which both visits know the same. -/
inductive Walks (visit : Visit) :
    LineContext → (lines others : List (List Char)) → Prop where
  /-- No line that is left differs. -/
  | same {context : LineContext} (lines : List (List Char)) : Walks visit context lines lines
  | kept
      {context next : LineContext} {line : List Char} {lines others : List (List Char)}
      (keeps : context.advance? line = some next)
      (rest : Walks visit next lines others) :
      Walks visit context (line :: lines) (line :: others)
  | spliced
      {context : LineContext} {line : List Char} {lines others : List (List Char)}
      {kind : IncludeKind} {target : String} {macros : MacroTable}
      (includes : context.includes? line = some (kind, target))
      (succeeds :
        (visit.splice (context.origin visit.source) kind target context.macros).result =
          .ok macros)
      (rest : Walks visit (context.resume line macros) lines others) :
      Walks visit context (line :: lines) (line :: others)
  | exchanged
      {context : LineContext} {line other : List Char} {lines others : List (List Char)}
      (exchanges : context.Exchanges line other)
      (rest :
        Walks visit
          (context.next (context.commentAfter line) context.conditionals context.macros)
          lines others) :
      Walks visit context (line :: lines) (other :: others)

namespace Replaces

variable
  {visit : Visit} {context next : LineContext} {line other : List Char}
  {lines others : List (List Char)}

/-- The first lines are the same, or one may take the place of the other. -/
theorem head (replaces : visit.Replaces context (line :: lines) (other :: others)) :
    other = line ∨ context.Exchanges line other := by
  have first := replaces.2 0 (Nat.succ_pos _)
  rw [entries] at first
  simpa using first

theorem tail
    (entries :
      visit.entries context (line :: lines) = (context, line) :: visit.entries next lines)
    (replaces : visit.Replaces context (line :: lines) (other :: others)) :
    visit.Replaces next lines others := by
  refine ⟨Nat.succ.inj replaces.1, fun n inside => ?_⟩
  have later := replaces.2 (n + 1) (Nat.succ_lt_succ inside)
  simpa only [entries, List.getElem?_cons_succ] using later

/-- Behind the last line that the visit comes to, no line differs. -/
theorem tail_eq
    (entries : visit.entries context (line :: lines) = [(context, line)])
    (replaces : visit.Replaces context (line :: lines) (other :: others)) :
    others = lines := by
  refine List.ext_getElem? fun n => ?_
  by_cases inside : n < lines.length
  · have later := replaces.2 (n + 1) (Nat.succ_lt_succ inside)
    simpa [entries] using later
  · have beyond : lines.length ≤ n := Nat.le_of_not_lt inside
    have sameLength : others.length = lines.length := Nat.succ.inj replaces.1
    rw [List.getElem?_eq_none beyond, List.getElem?_eq_none (sameLength ▸ beyond)]

theorem walks (replaces : visit.Replaces context lines others) :
    visit.Walks context lines others := by
  induction lines generalizing context others with
  | nil =>
      rw [List.length_eq_zero_iff.mp replaces.1]
      exact .same []
  | cons line lines inductionHypothesis =>
      obtain ⟨other, others, rfl⟩ := List.exists_cons_of_length_eq_add_one replaces.1
      -- Where the visit ends at a line, no later line is entered, so none can differ.
      rcases replaces.head with rfl | exchanges
      · rcases context.advances_or_includes_or_stops other with
          ⟨next, keeps⟩ | ⟨kind, target, includes⟩ | ⟨problem, stops⟩
        · exact .kept keeps (inductionHypothesis (replaces.tail (entries_of_advance? keeps lines)))
        · cases spliced :
              (visit.splice (context.origin visit.source) kind target context.macros).result with
          | ok macros =>
              exact .spliced includes spliced
                (inductionHypothesis
                  (replaces.tail (entries_of_includes? includes spliced lines)))
          | error failure =>
              rw [replaces.tail_eq (entries_of_failure includes spliced lines)]
              exact .same _
        · rw [replaces.tail_eq (entries_of_stop stops lines)]
          exact .same _
      · have keeps := LineContext.advance?_of_skipped exchanges.skipped exchanges.plain
        exact .exchanged exchanges
          (inductionHypothesis (replaces.tail (entries_of_advance? keeps lines)))

end Replaces

/-! ### What two visits do -/

/--
What two visits did or added, cut at the lines of their sources from a position on. The
parts are the same where the lines are, and one added line of the same origin where not.
-/
structure PartsMatch
    {α : Type}
    (added : ExpandedLine → α)
    (source : String)
    (position : Nat)
    (lines others : List (List Char))
    (parts otherParts : List (List α)) : Prop where
  same : ∀ n : Nat, others[n]? = lines[n]? → otherParts[n]? = parts[n]?
  replaced :
    ∀ n : Nat, others[n]? ≠ lines[n]? →
      ∃ text otherText origin,
        origin = some ⟨source, lineNumber (position + n)⟩ ∧
          parts[n]? = some [added ⟨text, origin⟩] ∧
            otherParts[n]? = some [added ⟨otherText, origin⟩]

namespace PartsMatch

variable
  {α β : Type} {added : ExpandedLine → α} {source : String} {position : Nat}
  {line other : List Char} {lines others : List (List Char)}
  {part otherPart : List α} {parts otherParts : List (List α)}

theorem refl (lines : List (List Char)) (parts : List (List α)) :
    PartsMatch added source position lines lines parts parts :=
  ⟨fun _ _ => rfl, fun _ differs => absurd rfl differs⟩

theorem cons
    (same : other = line → otherPart = part)
    (replaced :
      other ≠ line →
        ∃ text otherText origin,
          origin = some ⟨source, lineNumber position⟩ ∧
            part = [added ⟨text, origin⟩] ∧ otherPart = [added ⟨otherText, origin⟩])
    (rest : PartsMatch added source (position + 1) lines others parts otherParts) :
    PartsMatch added source position (line :: lines) (other :: others)
      (part :: parts) (otherPart :: otherParts) where
  same n alike := by
    cases n with
    | zero =>
        simp only [List.getElem?_cons_zero, Option.some.injEq] at alike ⊢
        exact same alike
    | succ n =>
        simp only [List.getElem?_cons_succ] at alike ⊢
        exact rest.same n alike
  replaced n differs := by
    cases n with
    | zero =>
        simp only [List.getElem?_cons_zero, ne_eq, Option.some.injEq] at differs ⊢
        exact replaced differs
    | succ n =>
        simp only [List.getElem?_cons_succ] at differs ⊢
        obtain ⟨text, otherText, origin, isOrigin, isPart, isOther⟩ := rest.replaced n differs
        refine ⟨text, otherText, origin, ?_, isPart, isOther⟩
        rw [isOrigin, Nat.add_assoc, Nat.add_comm 1 n]

/-- A view of every line that is added leaves the parts in place. -/
theorem map_filterMap
    {view : α → Option β}
    {seen : ExpandedLine → β}
    (matched : PartsMatch added source position lines others parts otherParts)
    (sees : ∀ line, view (added line) = some (seen line)) :
    PartsMatch seen source position lines others
      (parts.map (List.filterMap view)) (otherParts.map (List.filterMap view)) where
  same n alike := by
    rw [List.getElem?_map, List.getElem?_map, matched.same n alike]
  replaced n differs := by
    obtain ⟨text, otherText, origin, isOrigin, isPart, isOther⟩ := matched.replaced n differs
    refine ⟨text, otherText, origin, isOrigin, ?_, ?_⟩
    · rw [List.getElem?_map, isPart, Option.map_some, List.filterMap_cons_some (sees _),
        List.filterMap_nil]
    · rw [List.getElem?_map, isOther, Option.map_some, List.filterMap_cons_some (sees _),
        List.filterMap_nil]

/-- What does not depend on the text of a line is the same in both. -/
theorem filterMap_flatten_eq
    {view : α → Option β}
    (matched : PartsMatch added source position lines others parts otherParts)
    (textless :
      ∀ text otherText origin,
        view (added ⟨text, origin⟩) = view (added ⟨otherText, origin⟩)) :
    otherParts.flatten.filterMap view = parts.flatten.filterMap view := by
  have sameParts :
      otherParts.map (List.filterMap view) = parts.map (List.filterMap view) := by
    refine List.ext_getElem? fun n => ?_
    rw [List.getElem?_map, List.getElem?_map]
    by_cases alike : others[n]? = lines[n]?
    · rw [matched.same n alike]
    · obtain ⟨text, otherText, origin, -, isPart, isOther⟩ := matched.replaced n alike
      rw [isPart, isOther, Option.map_some, Option.map_some, List.filterMap_cons,
        List.filterMap_cons, textless otherText text]
  rw [List.filterMap_flatten, List.filterMap_flatten, sameParts]

end PartsMatch

/-- Two visits that walk together end alike, and match in all that they do. -/
theorem Walks.exists_parts
    {visit : Visit}
    {context : LineContext}
    {lines others : List (List Char)}
    (walks : visit.Walks context lines others) :
    (visit.run context others).result = (visit.run context lines).result ∧
      ∃ parts otherParts,
        (visit.run context lines).trace = parts.flatten ∧
          (visit.run context others).trace = otherParts.flatten ∧
            PartsMatch .line visit.source context.position lines others parts otherParts := by
  induction walks with
  | @same context lines =>
      exact ⟨rfl, [(visit.run context lines).trace], [(visit.run context lines).trace],
        by simp, by simp, .refl lines _⟩
  | @kept context next line lines others keeps rest inductionHypothesis =>
      obtain ⟨sameResult, parts, otherParts, isTrace, isOther, matched⟩ := inductionHypothesis
      let part : List ExpansionEvent :=
        [.line ⟨context.keptText line, some (context.origin visit.source)⟩]
      rw [run_of_advance? keeps, run_of_advance? keeps]
      refine ⟨sameResult, part :: parts, part :: otherParts, ?_, ?_, ?_⟩
      · rw [Expansion.trace_after, isTrace, List.flatten_cons]
      · rw [Expansion.trace_after, isOther, List.flatten_cons]
      · rw [LineContext.position_of_advance? keeps] at matched
        exact .cons (fun _ => rfl) (fun differs => absurd rfl differs) matched
  | @spliced context line lines others kind target macros includes succeeds rest
      inductionHypothesis =>
      obtain ⟨sameResult, parts, otherParts, isTrace, isOther, matched⟩ := inductionHypothesis
      let part : List ExpansionEvent :=
        (visit.splice (context.origin visit.source) kind target context.macros).trace ++
          (VisitedLines.closing visit.source context line).map .line
      rw [run_of_includes? includes, run_of_includes? includes,
        Expansion.andThen_of_ok succeeds, Expansion.andThen_of_ok succeeds]
      refine ⟨sameResult, part :: parts, part :: otherParts, ?_, ?_, ?_⟩
      · rw [Expansion.trace_after, Expansion.trace_after, isTrace, List.flatten_cons,
          List.append_assoc]
      · rw [Expansion.trace_after, Expansion.trace_after, isOther, List.flatten_cons,
          List.append_assoc]
      · exact .cons (fun _ => rfl) (fun differs => absurd rfl differs) matched
  | @exchanged context line other lines others exchanges rest inductionHypothesis =>
      obtain ⟨sameResult, parts, otherParts, isTrace, isOther, matched⟩ := inductionHypothesis
      have keeps := LineContext.advance?_of_skipped exchanges.skipped exchanges.plain
      have otherKeeps := LineContext.advance?_of_skipped exchanges.skipped exchanges.otherPlain
      rw [exchanges.comment] at otherKeeps
      let part (line : List Char) : List ExpansionEvent :=
        [.line ⟨context.keptText line, some (context.origin visit.source)⟩]
      rw [run_of_advance? keeps, run_of_advance? otherKeeps]
      refine ⟨sameResult, part line :: parts, part other :: otherParts, ?_, ?_, ?_⟩
      · rw [Expansion.trace_after, isTrace, List.flatten_cons]
      · rw [Expansion.trace_after, isOther, List.flatten_cons]
      · refine .cons ?_ (fun _ => ⟨_, _, _, rfl, rfl, rfl⟩) matched
        rintro rfl
        rfl

/-- Lines that stand for skipped ones make no difference to a source's `#version`. -/
theorem Walks.hasVersion_eq
    {visit : Visit}
    {context : LineContext}
    {lines others : List (List Char)}
    (walks : visit.Walks context lines others) :
    ExpansionSettings.hasVersion context.inComment others =
      ExpansionSettings.hasVersion context.inComment lines := by
  induction walks with
  | same lines =>
      rfl
  | kept keeps rest inductionHypothesis =>
      rw [LineContext.inComment_of_advance? keeps] at inductionHypothesis
      exact congrArg (Bool.or _) inductionHypothesis
  | spliced includes succeeds rest inductionHypothesis =>
      exact congrArg (Bool.or _) inductionHypothesis
  | @exchanged context line other lines others exchanges rest inductionHypothesis =>
      have noVersion {line : List Char} (plain : context.isPlain line = true) :
          (!context.inComment && Directive.isVersion (Comment.strip false line)) = false := by
        rw [LineContext.isPlain, Bool.and_eq_true, Bool.not_eq_true', Bool.not_eq_true'] at plain
        exact plain.2
      rw [ExpansionSettings.hasVersion, ExpansionSettings.hasVersion,
        noVersion exchanges.plain, noVersion exchanges.otherPlain, Bool.false_or,
        Bool.false_or]
      have sameComment := exchanges.comment
      rw [LineContext.commentAfter, LineContext.commentAfter] at sameComment
      rw [sameComment]
      exact inductionHypothesis

end Visit

/-! ### Expansions of two root sources -/

/-- The second root source is the first one with lines of skipped regions replaced. -/
def ExpansionSettings.ReplacesSkipped
    (settings : ExpansionSettings) (root : String) (content other : List Char) : Prop :=
  (settings.visit root settings.depthLimit 0).Replaces
    (.top (.ofDefines settings.defines)) (Text.lines content) (Text.lines other)

instance
    (settings : ExpansionSettings) (root : String) (content other : List Char) :
    Decidable (settings.ReplacesSkipped root content other) :=
  inferInstanceAs (Decidable (Visit.Replaces _ _ _ _))

/--
Two units that differ in nothing but texts, and in those only at lines of the root source
that differ themselves. One part of the text belongs to each line of the root source up to
some line, and one to all lines after it, which are the same in both sources.
-/
structure ExpandedUnit.DiffersOnlyAt
    (content other : List Char) (unit otherUnit : ExpandedUnit) : Prop where
  root : otherUnit.root = unit.root
  sources : otherUnit.sources = unit.sources
  origins : otherUnit.lines.map (·.origin) = unit.lines.map (·.origin)
  lines :
    ∃ parts otherParts : List (List ExpandedLine),
      unit.lines = ExpansionSettings.versionLines content ++ parts.flatten ∧
        otherUnit.lines = ExpansionSettings.versionLines content ++ otherParts.flatten ∧
          Visit.PartsMatch id unit.root 1 (Text.lines content) (Text.lines other)
            parts otherParts

namespace ExpansionSettings.ReplacesSkipped

variable
  {settings : ExpansionSettings} {root : String} {content other : List Char}

/-- Both expansions end alike, and their traces match behind the same preamble. -/
theorem exists_parts (replaces : settings.ReplacesSkipped root content other) :
    (settings.expand root other).result = (settings.expand root content).result ∧
      ∃ parts otherParts,
        (settings.expand root content).trace =
            preamble content ++ .visit root :: parts.flatten ∧
          (settings.expand root other).trace =
              preamble content ++ .visit root :: otherParts.flatten ∧
            Visit.PartsMatch .line root 1 (Text.lines content) (Text.lines other)
              parts otherParts := by
  have walks := Visit.Replaces.walks replaces
  have samePreamble : preamble other = preamble content := by
    unfold preamble
    rw [show hasVersion false (Text.lines other) = _ from walks.hasVersion_eq]
    rfl
  obtain ⟨sameResult, parts, otherParts, isTrace, isOther, matched⟩ := walks.exists_parts
  refine ⟨?_, parts, otherParts, ?_, ?_, matched⟩
  · rw [expand_eq_run, expand_eq_run, Expansion.result_after, Expansion.result_after,
      sameResult]
  · rw [expand_eq_run, Expansion.trace_after, isTrace, List.append_assoc,
      List.singleton_append]
  · rw [expand_eq_run, Expansion.trace_after, isOther, samePreamble, List.append_assoc,
      List.singleton_append]

/-- What does not depend on the text of a line is the same in both expansions. -/
theorem filterMap_trace_eq
    {α : Type}
    {view : ExpansionEvent → Option α}
    (replaces : settings.ReplacesSkipped root content other)
    (textless :
      ∀ text otherText origin, view (.line ⟨text, origin⟩) = view (.line ⟨otherText, origin⟩)) :
    (settings.expand root other).trace.filterMap view =
      (settings.expand root content).trace.filterMap view := by
  obtain ⟨-, parts, otherParts, isTrace, isOther, matched⟩ := replaces.exists_parts
  rw [isTrace, isOther, List.filterMap_append, List.filterMap_append, List.filterMap_cons,
    List.filterMap_cons, matched.filterMap_flatten_eq textless]

/-- The lines of both expansions, cut at the lines of the root source. -/
theorem exists_lines (replaces : settings.ReplacesSkipped root content other) :
    ∃ parts otherParts : List (List ExpandedLine),
      (settings.expand root content).lines = versionLines content ++ parts.flatten ∧
        (settings.expand root other).lines = versionLines content ++ otherParts.flatten ∧
          Visit.PartsMatch id root 1 (Text.lines content) (Text.lines other)
            parts otherParts := by
  obtain ⟨-, parts, otherParts, isTrace, isOther, matched⟩ := replaces.exists_parts
  let linesOf := List.map (List.filterMap ExpansionEvent.line?)
  have added (parts : List (List ExpansionEvent)) :
      (preamble content ++ .visit root :: parts.flatten).filterMap ExpansionEvent.line? =
        versionLines content ++ (linesOf parts).flatten := by
    rw [← List.filterMap_flatten, ← List.singleton_append, ← List.append_assoc]
    exact lines_after_preamble ⟨parts.flatten, .ok .empty⟩
  refine ⟨linesOf parts, linesOf otherParts, ?_, ?_, matched.map_filterMap fun _ => rfl⟩
  · rw [Expansion.lines, isTrace, added]
  · rw [Expansion.lines, isOther, added]

end ExpansionSettings.ReplacesSkipped

/--
Lines of skipped regions can be changed freely. Both expansions make the same requests;
both fail with the same diagnostic, or both succeed, and then the units differ in nothing
but the texts of those lines.
-/
theorem expand_replaces_skipped
    {settings : ExpansionSettings}
    {root : String}
    {content other : List Char}
    (replaces : settings.ReplacesSkipped root content other) :
    (settings.expand root other).requests = (settings.expand root content).requests ∧
      ((∃ diagnostic,
          ExpandedUnit.expand settings root content = .error diagnostic ∧
            ExpandedUnit.expand settings root other = .error diagnostic) ∨
        ∃ unit otherUnit,
          ExpandedUnit.expand settings root content = .ok unit ∧
            ExpandedUnit.expand settings root other = .ok otherUnit ∧
              unit.DiffersOnlyAt content other otherUnit) := by
  refine ⟨replaces.filterMap_trace_eq fun _ _ _ => rfl, ?_⟩
  obtain ⟨sameResult, -⟩ := replaces.exists_parts
  unfold ExpandedUnit.expand Expansion.unit
  rw [sameResult]
  cases (settings.expand root content).result with
  | error failure =>
      exact .inl ⟨failure.diagnostic, rfl, rfl⟩
  | ok macros =>
      refine .inr ⟨_, _, rfl, rfl, ⟨rfl, ?_, ?_, replaces.exists_lines⟩⟩
      · exact congrArg List.eraseDups (replaces.filterMap_trace_eq fun _ _ _ => rfl)
      · simp only [Expansion.lines, List.map_filterMap]
        exact replaces.filterMap_trace_eq fun _ _ _ => rfl

/-- An include of a missing file and a definition behind a comment, in skipped branches. -/
theorem expand_replaces_skipped_branches :
    let settings : ExpansionSettings :=
      ⟨some (SourceCollection.ofList [("a", "float a;".toList)]).resolver, 4, []⟩
    let content :=
      "#if 0\n#include \"b\" /*\n*/\n#define A\n#endif\n#ifdef A\n#error\n#endif".toList
    let other :=
      "#if 0\nfloat b; /*\nc */\n#include <c\n#endif\n#ifdef A\n#include \"a\"\n#endif".toList
    settings.ReplacesSkipped "main" content other ∧
      (settings.expand "main" content).requests = [] ∧
        ∃ unit otherUnit,
          ExpandedUnit.expand settings "main" content = .ok unit ∧
            ExpandedUnit.expand settings "main" other = .ok otherUnit ∧
              unit.DiffersOnlyAt content other otherUnit := by
  intro settings content other
  have replaces : settings.ReplacesSkipped "main" content other := by
    decide +kernel
  have noRequest : (settings.expand "main" content).requests = [] := by
    decide +kernel
  obtain ⟨-, ⟨diagnostic, fails, -⟩ | units⟩ := expand_replaces_skipped replaces
  · have succeeds : (ExpandedUnit.expand settings "main" content).isOk = true := by
      decide +kernel
    rw [fails] at succeeds
    cases succeeds
  · exact ⟨replaces, noRequest, units⟩

end ShaderBuild
