import Mathlib.Control.Monad.Basic
import ShaderBuild.Include.Resolver
import ShaderBuild.Proofs.Expansion.LineProblem

namespace ShaderBuild

/-!
# The first problem of an expansion

An expansion comes to the visits of its sources one after the other, and within a
visit to the lines in order. It comes to a line only if it got past every line before
it, with all that they include. A problem that an expansion comes to ends it, and is
what it reports; an expansion that comes to none succeeds.
-/

/-- A visit to a source: its name and text, its nesting, and the macros known at its top. -/
structure SourceVisit where
  source : String
  depth : Nat
  macros : MacroTable
  content : List Char

namespace SourceVisit

/-- The lines of the visited text. -/
def lines (visit : SourceVisit) : List (List Char) :=
  Text.lines visit.content

/-- The positions of the directives whose groups are open at the end, innermost first. -/
def openAtEnd (visit : SourceVisit) : List Nat :=
  Directive.openPositions false 1 [] visit.lines

end SourceVisit

namespace ExpansionSettings

/--
A visit gets past its first `n` lines. It then knows `context`, and has done `done`
since its top.
-/
structure ComesTo
    (settings : ExpansionSettings)
    (visit : SourceVisit)
    (n : Nat)
    (context : LineContext)
    (done : List ExpansionEvent) : Prop where
  exists_passage :
    ∃ visited,
      Passes settings.resolver visit.source visit.depth (.top visit.macros)
          (visit.lines.take n) visited context ∧
        visit.depth + visited.height ≤ settings.depthLimit ∧
          done = visited.trace visit.source

/-- A request gets no source. What is asked of the resolver is asked before the failure. -/
inductive Refuses (settings : ExpansionSettings) (request : IncludeRequest) :
    IncludeFault → (asked : List ExpansionEvent) → Prop where
  | noResolver
      (missing : settings.resolver = none) :
      Refuses settings request (.noResolver request.target) []
  | tooDeep
      {given : Resolver}
      (isGiven : settings.resolver = some given)
      (tooDeep : settings.depthLimit < request.depth) :
      Refuses settings request (.tooDeep request.target settings.depthLimit) []
  | unresolved
      {given : Resolver}
      {fault : IncludeFault}
      (isGiven : settings.resolver = some given)
      (fits : request.depth ≤ settings.depthLimit)
      (fails : given.resolve request = .error fault) :
      Refuses settings request fault [.request request]

/-- The request of an include in a visit. -/
def request (visit : SourceVisit) (kind : IncludeKind) (target : String) : IncludeRequest :=
  ⟨target, kind, visit.source, visit.depth + 1⟩

/-- The visits that an expansion comes to, with all that it did before each. -/
inductive Reaches (settings : ExpansionSettings) (root : String) (content : List Char) :
    SourceVisit → List ExpansionEvent → Prop where
  | root :
      Reaches settings root content
        ⟨root, 0, .ofDefines settings.defines, content⟩
        (preamble content ++ [.visit root])
  | included
      {visit : SourceVisit} {events done : List ExpansionEvent} {n : Nat}
      {context : LineContext} {line : List Char}
      {kind : IncludeKind} {target : String} {included : IncludedSource}
      (outer : Reaches settings root content visit events)
      (comes : settings.ComesTo visit n context done)
      (found : visit.lines[n]? = some line)
      (includes : context.includes? line = some (kind, target))
      (fits : visit.depth < settings.depthLimit)
      (answers : Answers settings.resolver (request visit kind target) included) :
      Reaches settings root content
        ⟨included.name, visit.depth + 1, context.macros, included.content⟩
        (events ++ done ++ [.request (request visit kind target), .visit included.name])

/--
A visit comes to a problem at one of its lines, whose position counts from 1, when it
has done `done` since its top. Groups are checked at the end of a source, before
comments are; a group that is open there is a problem of the line that opened it.
-/
inductive ProblemAt (settings : ExpansionSettings) (visit : SourceVisit) :
    (position : Nat) → ExpansionProblem → (done : List ExpansionEvent) → Prop where
  | line
      {n : Nat} {context : LineContext} {line : List Char} {problem : ExpansionProblem}
      {done : List ExpansionEvent}
      (comes : settings.ComesTo visit n context done)
      (found : visit.lines[n]? = some line)
      (has : context.HasProblem line problem) :
      ProblemAt settings visit (n + 1) problem done
  | refusal
      {n : Nat} {context : LineContext} {line : List Char}
      {kind : IncludeKind} {target : String} {fault : IncludeFault}
      {done asked : List ExpansionEvent}
      (comes : settings.ComesTo visit n context done)
      (found : visit.lines[n]? = some line)
      (includes : context.includes? line = some (kind, target))
      (refuses : settings.Refuses (request visit kind target) fault asked) :
      ProblemAt settings visit (n + 1) (.includeFailed fault) (done ++ asked)
  | openGroup
      {position : Nat} {last : LineContext} {done : List ExpansionEvent}
      (comes : settings.ComesTo visit visit.lines.length last done)
      (isOpen : visit.openAtEnd.head? = some position) :
      ProblemAt settings visit position .unterminatedConditional done
  | openComment
      {last : LineContext} {done : List ExpansionEvent}
      (nested : visit.depth ≠ 0)
      (comes : settings.ComesTo visit visit.lines.length last done)
      (closed : visit.openAtEnd = [])
      (inComment : Comment.isOpenAfterAll false visit.lines = true) :
      ProblemAt settings visit visit.lines.length .unterminatedComment done

/-- What a visit does with the lines that are left of its source. -/
def runFrom (settings : ExpansionSettings) (visit : SourceVisit) (context : LineContext) :
    List (List Char) → Expansion :=
  (settings.visit visit.source (settings.depthLimit - visit.depth) visit.depth).run context

/-! ### Lines that a visit comes to -/

namespace ComesTo

variable
  {settings : ExpansionSettings} {visit : SourceVisit} {n : Nat}
  {context : LineContext} {done : List ExpansionEvent} {line : List Char}

theorem top (fits : visit.depth ≤ settings.depthLimit) :
    settings.ComesTo visit 0 (.top visit.macros) [] :=
  ⟨.done, .done, by simpa [VisitedLines.height] using fits, rfl⟩

/-- A passage from where a visit came to leads it on. -/
theorem append
    {next : LineContext}
    {visited : VisitedLines}
    (comes : settings.ComesTo visit n context done)
    (found : visit.lines[n]? = some line)
    (passes :
      Passes settings.resolver visit.source visit.depth context [line] visited next)
    (fits : visit.depth + visited.height ≤ settings.depthLimit) :
    settings.ComesTo visit (n + 1) next (done ++ visited.trace visit.source) := by
  obtain ⟨before, passesBefore, fitsBefore, rfl⟩ := comes
  refine ⟨before.append visited, ?_, ?_, ?_⟩
  · rw [List.take_add_one, found]
    exact passesBefore.append passes
  · rw [VisitedLines.height_append]
    omega
  · rw [VisitedLines.trace_append]

theorem kept
    {next : LineContext}
    (comes : settings.ComesTo visit n context done)
    (found : visit.lines[n]? = some line)
    (keeps : context.advance? line = some next) :
    ∃ done, settings.ComesTo visit (n + 1) next done := by
  have fits : visit.depth + 0 ≤ settings.depthLimit := by
    obtain ⟨before, -, fitsBefore, -⟩ := comes
    omega
  exact ⟨_, comes.append found
    (.kept (LineContext.includes?_of_advance? keeps) keeps .done) fits⟩

theorem spliced
    {kind : IncludeKind}
    {target : String}
    {included : IncludedSource}
    {macros : MacroTable}
    (comes : settings.ComesTo visit n context done)
    (found : visit.lines[n]? = some line)
    (includes : context.includes? line = some (kind, target))
    (fits : visit.depth < settings.depthLimit)
    (answers : Answers settings.resolver (request visit kind target) included)
    (succeeds :
      (settings.runFrom ⟨included.name, visit.depth + 1, context.macros, included.content⟩
        (.top context.macros) (Text.lines included.content)).result = .ok macros) :
    ∃ done, settings.ComesTo visit (n + 1) (context.resume line macros) done := by
  obtain ⟨inside, bottom, nested, ends, rfl, insideFits⟩ := passes_of_run succeeds
  have insideFits : inside.height ≤ settings.depthLimit - (visit.depth + 1) := insideFits
  refine ⟨_, comes.append found (.spliced includes answers nested ends .done) ?_⟩
  simp only [VisitedLines.height, Nat.max_zero]
  omega

/-- A visit that no line is left of came to the end of its source. -/
theorem atEnd
    (comes : settings.ComesTo visit n context done)
    (noneLeft : visit.lines.drop n = []) :
    settings.ComesTo visit visit.lines.length context done := by
  obtain ⟨visited, passes, fits, rfl⟩ := comes
  rw [List.take_of_length_le (List.drop_eq_nil_iff.mp noneLeft)] at passes
  exact ⟨visited, by rwa [List.take_length], fits, rfl⟩

theorem position (comes : settings.ComesTo visit n context done)
    (inside : n ≤ visit.lines.length) :
    context.position = n + 1 := by
  obtain ⟨visited, passes, -, -⟩ := comes
  have position := passes.position_last
  rw [List.length_take, Nat.min_eq_left inside] at position
  rw [position]
  exact Nat.add_comm 1 n

/-- A run of the visit has done the same when it comes to the line. -/
theorem runFrom_top (comes : settings.ComesTo visit n context done) :
    settings.runFrom visit (.top visit.macros) visit.lines =
      (settings.runFrom visit context (visit.lines.drop n)).after done := by
  obtain ⟨visited, passes, fits, rfl⟩ := comes
  have levels : visited.height ≤ settings.depthLimit - visit.depth := by
    omega
  have runs := run_append_of_passes passes levels (visit.lines.drop n)
  rwa [List.take_append_drop] at runs

/-- At the end of a source, its open groups are those of its own directives. -/
theorem unterminated?_eq
    (comes : settings.ComesTo visit visit.lines.length context done) :
    context.conditionals.unterminated? = visit.openAtEnd.head?.map lineNumber := by
  obtain ⟨visited, passes, -, -⟩ := comes
  have noneOpen :
      (LineContext.top visit.macros).conditionals.groups.map (·.line) =
        ([] : List Nat).map lineNumber :=
    rfl
  have numbered := passes.map_line_groups noneOpen
  rw [List.take_length] at numbered
  rw [Conditionals.unterminated?, ← List.head?_map, numbered, List.head?_map]
  rfl

theorem inComment_eq
    (comes : settings.ComesTo visit visit.lines.length context done) :
    context.inComment = Comment.isOpenAfterAll false visit.lines := by
  obtain ⟨visited, passes, -, -⟩ := comes
  have inComment := passes.isOpenAfterAll_lines
  rw [List.take_length] at inComment
  exact inComment.symm

end ComesTo

/-! ### Includes -/

section

variable
  {settings : ExpansionSettings} {visit : SourceVisit} {origin : Origin}
  {kind : IncludeKind} {target : String}

/-- An include whose request is refused fails at its line. -/
theorem includer_of_refuses
    {fault : IncludeFault}
    {asked : List ExpansionEvent}
    (sameSource : origin.source = visit.source)
    (refuses : settings.Refuses (request visit kind target) fault asked)
    (macros : MacroTable) :
    settings.includer (settings.depthLimit - visit.depth) visit.depth
        origin kind target macros =
      ⟨asked, .error ⟨origin, .includeFailed fault⟩⟩ := by
  cases refuses with
  | noResolver missing =>
      cases settings.depthLimit - visit.depth with
      | zero | succ below =>
          simp only [includer, missing]
          rfl
  | tooDeep isGiven tooDeep =>
      have noLevel : settings.depthLimit - visit.depth = 0 := by
        simp only [request] at tooDeep
        omega
      rw [noLevel]
      simp only [includer, isGiven]
      rfl
  | unresolved isGiven fits fails =>
      obtain ⟨below, levels⟩ : ∃ below, settings.depthLimit - visit.depth = below + 1 := by
        simp only [request] at fits
        exact ⟨settings.depthLimit - visit.depth - 1, by omega⟩
      simp only [request, ← sameSource] at fails ⊢
      rw [levels]
      simp only [includer, isGiven, fails]
      rfl

/-- A request is refused, or it respects the limit and is answered. -/
theorem refuses_or_answers
    (settings : ExpansionSettings)
    (visit : SourceVisit)
    (kind : IncludeKind)
    (target : String) :
    (∃ fault asked, settings.Refuses (request visit kind target) fault asked) ∨
      visit.depth < settings.depthLimit ∧
        ∃ included, Answers settings.resolver (request visit kind target) included := by
  cases isGiven : settings.resolver with
  | none =>
      exact .inl ⟨_, _, .noResolver isGiven⟩
  | some given =>
      by_cases fits : visit.depth < settings.depthLimit
      · cases resolved : given.resolve (request visit kind target) with
        | error fault =>
            exact .inl ⟨_, _, .unresolved isGiven fits resolved⟩
        | ok included =>
            exact .inr ⟨fits, included, given, rfl, resolved⟩
      · exact .inl ⟨_, _, .tooDeep isGiven (Nat.lt_succ_of_le (Nat.le_of_not_lt fits))⟩

/-- A file is included by a run of the visit to it. -/
theorem includer_of_reached
    {included : IncludedSource}
    (sameSource : origin.source = visit.source)
    (fits : visit.depth < settings.depthLimit)
    (answers : Answers settings.resolver (request visit kind target) included)
    (macros : MacroTable) :
    settings.includer (settings.depthLimit - visit.depth) visit.depth
        origin kind target macros =
      (settings.runFrom ⟨included.name, visit.depth + 1, macros, included.content⟩
          (.top macros) (Text.lines included.content)).after
        [.request (request visit kind target), .visit included.name] := by
  have levels :
      settings.depthLimit - visit.depth = settings.depthLimit - (visit.depth + 1) + 1 := by
    omega
  simp only [request, ← sameSource] at answers ⊢
  rw [levels, includer_of_answers answers]
  rfl

end

/-! ### A problem that is reached ends the expansion -/

section

variable
  {settings : ExpansionSettings} {visit : SourceVisit} {root : String}
  {content : List Char} {events done : List ExpansionEvent}

theorem drop_eq_cons
    {lines : List (List Char)}
    {line : List Char}
    {n : Nat}
    (found : lines[n]? = some line) :
    lines.drop n = line :: lines.drop (n + 1) := by
  obtain ⟨inside, rfl⟩ := List.getElem?_eq_some_iff.mp found
  exact List.drop_eq_getElem_cons inside

theorem found_of_drop_eq_cons
    {lines others : List (List Char)}
    {line : List Char}
    {n : Nat}
    (left : lines.drop n = line :: others) :
    lines[n]? = some line ∧ lines.drop (n + 1) = others := by
  constructor
  · have first := congrArg (·[0]?) left
    simpa using first
  · have rest := congrArg List.tail left
    simpa using rest

theorem origin_of_comesTo
    {n : Nat}
    {context : LineContext}
    {line : List Char}
    (comes : settings.ComesTo visit n context done)
    (found : visit.lines[n]? = some line) :
    context.origin visit.source = ⟨visit.source, lineNumber (n + 1)⟩ := by
  obtain ⟨inside, -⟩ := List.getElem?_eq_some_iff.mp found
  rw [LineContext.origin, LineContext.line, comes.position (Nat.le_of_lt inside)]

/-- A visit that comes to a problem does nothing after it. -/
theorem runFrom_of_problemAt
    {position : Nat}
    {problem : ExpansionProblem}
    (isProblem : settings.ProblemAt visit position problem done) :
    settings.runFrom visit (.top visit.macros) visit.lines =
      ⟨done, .error ⟨⟨visit.source, lineNumber position⟩, problem⟩⟩ := by
  cases isProblem with
  | line comes found has =>
      rw [comes.runFrom_top, drop_eq_cons found, runFrom,
        Visit.run_of_stop (LineContext.action_eq_stop_iff.mpr has)]
      simp only [ExpansionSettings.visit]
      rw [origin_of_comesTo comes found]
      simp [Expansion.after, Expansion.fail]
  | refusal comes found includes refuses =>
      have sameOrigin := origin_of_comesTo comes found
      rw [comes.runFrom_top, drop_eq_cons found, runFrom, Visit.run_of_includes? includes]
      simp only [ExpansionSettings.visit, sameOrigin]
      rw [includer_of_refuses rfl refuses, Expansion.andThen_of_error rfl]
      rfl
  | openGroup comes isOpen =>
      have unterminated := comes.unterminated?_eq
      rw [isOpen, Option.map_some] at unterminated
      rw [comes.runFrom_top, List.drop_length, runFrom, Visit.run, Visit.finish, unterminated]
      simp [Expansion.after, Expansion.fail, ExpansionSettings.visit]
  | openComment nested comes closed inComment =>
      have unterminated := comes.unterminated?_eq
      rw [closed, List.head?_nil, Option.map_none] at unterminated
      have position := comes.position (Nat.le_refl _)
      have opened := comes.inComment_eq.trans inComment
      rw [comes.runFrom_top, List.drop_length, runFrom, Visit.run, Visit.finish, unterminated]
      simp [Expansion.after, Expansion.fail, ExpansionSettings.visit, nested, opened, position]

/-- Where a visit that is reached fails, the expansion fails. -/
theorem Reaches.expand_eq
    {failure : ExpansionFailure}
    (reaches : settings.Reaches root content visit events)
    (fails :
      settings.runFrom visit (.top visit.macros) visit.lines = ⟨done, .error failure⟩) :
    settings.expand root content = ⟨events ++ done, .error failure⟩ := by
  induction reaches generalizing done with
  | root =>
      rw [expand_eq_run]
      exact congrArg (Expansion.after _) fails
  | @included visit events before n context line kind target included outer comes found
      includes fits answers inductionHypothesis =>
      have sameOrigin := origin_of_comesTo comes found
      have nested :
          settings.runFrom visit (.top visit.macros) visit.lines =
            ⟨before ++ ([.request (request visit kind target), .visit included.name] ++ done),
              .error failure⟩ := by
        rw [comes.runFrom_top, drop_eq_cons found, runFrom, Visit.run_of_includes? includes]
        simp only [ExpansionSettings.visit, sameOrigin]
        rw [includer_of_reached rfl fits answers]
        have fails' :
            settings.runFrom ⟨included.name, visit.depth + 1, context.macros, included.content⟩
                (.top context.macros) (Text.lines included.content) =
              ⟨done, .error failure⟩ :=
          fails
        rw [fails', Expansion.andThen_of_error rfl]
        rfl
      rw [inductionHypothesis nested]
      simp

end

/-! ### An expansion that fails has reached a problem -/

/-- An expansion comes to a problem. -/
def MeetsProblem (settings : ExpansionSettings) (root : String) (content : List Char) : Prop :=
  ∃ visit events position problem done,
    settings.Reaches root content visit events ∧
      settings.ProblemAt visit position problem done

section

variable
  {settings : ExpansionSettings} {visit : SourceVisit} {root : String}
  {content : List Char} {events done : List ExpansionEvent} {failure : ExpansionFailure}

/-- A visit that fails behind its last line ends within a group or in a comment. -/
theorem exists_problemAt_end
    {context : LineContext}
    (comes : settings.ComesTo visit visit.lines.length context done)
    (fails : (settings.runFrom visit context []).result = .error failure) :
    ∃ position problem, settings.ProblemAt visit position problem done := by
  cases isOpen : visit.openAtEnd with
  | cons position outer =>
      exact ⟨position, _, .openGroup comes (by rw [isOpen]; rfl)⟩
  | nil =>
      have closed := comes.unterminated?_eq
      rw [isOpen, List.head?_nil, Option.map_none] at closed
      rw [runFrom, Visit.run, Visit.finish, closed] at fails
      simp only at fails
      split at fails
      · rename_i inComment
        simp only [ExpansionSettings.visit, Bool.and_eq_true, bne_iff_ne] at inComment
        obtain ⟨nested, inComment⟩ := inComment
        exact ⟨_, _, .openComment nested comes isOpen (comes.inComment_eq.symm.trans inComment)⟩
      · cases fails

/--
A visit that fails behind a line it came to meets a problem, if the visits to
included files do.
-/
theorem meetsProblem_of_nested
    {n : Nat}
    {context : LineContext}
    {left : List (List Char)}
    (nestedVisits :
      ∀ {included : IncludedSource} {macros : MacroTable} {events : List ExpansionEvent}
        {failure : ExpansionFailure},
        visit.depth < settings.depthLimit →
          settings.Reaches root content
            ⟨included.name, visit.depth + 1, macros, included.content⟩ events →
            (settings.runFrom ⟨included.name, visit.depth + 1, macros, included.content⟩
                (.top macros) (Text.lines included.content)).result = .error failure →
              settings.MeetsProblem root content)
    (reaches : settings.Reaches root content visit events)
    (comes : settings.ComesTo visit n context done)
    (isLeft : visit.lines.drop n = left)
    (fails : (settings.runFrom visit context left).result = .error failure) :
    settings.MeetsProblem root content := by
  induction left generalizing n context done failure with
  | nil =>
      obtain ⟨position, problem, isProblem⟩ := exists_problemAt_end (comes.atEnd isLeft) fails
      exact ⟨visit, events, position, problem, done, reaches, isProblem⟩
  | cons line others inductionHypothesis =>
      obtain ⟨found, othersLeft⟩ := found_of_drop_eq_cons isLeft
      rcases context.advances_or_includes_or_stops line with
        ⟨next, keeps⟩ | ⟨kind, target, includes⟩ | ⟨problem, stops⟩
      · rw [runFrom, Visit.run_of_advance? keeps, Expansion.result_after] at fails
        obtain ⟨done', comesNext⟩ := comes.kept found keeps
        exact inductionHypothesis comesNext othersLeft fails
      · rcases refuses_or_answers settings visit kind target with
          ⟨fault, asked, refuses⟩ | ⟨fits, included, answers⟩
        · exact ⟨visit, events, n + 1, _, done ++ asked, reaches,
            .refusal comes found includes refuses⟩
        · rw [runFrom, Visit.run_of_includes? includes] at fails
          simp only [ExpansionSettings.visit] at fails
          rw [includer_of_reached rfl fits answers] at fails
          cases nested :
              (settings.runFrom
                ⟨included.name, visit.depth + 1, context.macros, included.content⟩
                (.top context.macros) (Text.lines included.content)).result with
          | error nestedFailure =>
              exact nestedVisits fits (.included reaches comes found includes fits answers)
                nested
          | ok macros =>
              obtain ⟨done', comesNext⟩ :=
                comes.spliced found includes fits answers nested
              rw [Expansion.andThen_of_ok (by rw [Expansion.result_after, nested])] at fails
              exact inductionHypothesis comesNext othersLeft fails
      · exact ⟨visit, events, n + 1, problem, done, reaches,
          .line comes found (LineContext.action_eq_stop_iff.mp stops)⟩

/-- A visit that is reached and fails meets a problem, or a file that it includes does. -/
theorem meetsProblem_of_runFrom
    (reaches : settings.Reaches root content visit events)
    (fits : visit.depth ≤ settings.depthLimit)
    (fails : (settings.runFrom visit (.top visit.macros) visit.lines).result = .error failure) :
    settings.MeetsProblem root content := by
  -- The induction is on the levels that are left below the visit.
  obtain ⟨levels, isLeft⟩ : ∃ levels, settings.depthLimit = visit.depth + levels :=
    Nat.exists_eq_add_of_le fits
  induction levels generalizing visit events failure with
  | zero =>
      refine meetsProblem_of_nested (fun fitsBelow => ?_) reaches (.top fits) rfl fails
      omega
  | succ levels inductionHypothesis =>
      refine meetsProblem_of_nested (fun fitsBelow reached nestedFails => ?_)
        reaches (.top fits) rfl fails
      exact inductionHypothesis reached fitsBelow nestedFails
        (by simp only; omega)

/-- An expansion that fails has met a problem. -/
theorem meetsProblem_of_expand
    (fails : (settings.expand root content).result = .error failure) :
    settings.MeetsProblem root content := by
  rw [expand_eq_run, Expansion.result_after] at fails
  exact meetsProblem_of_runFrom .root (Nat.zero_le _) fails

/-- An expansion reports a diagnostic only if it fails. -/
theorem result_of_unit_eq_error
    {diagnostic : Diagnostic}
    (reports : ExpandedUnit.expand settings root content = .error diagnostic) :
    ∃ failure,
      (settings.expand root content).result = .error failure ∧
        failure.diagnostic = diagnostic := by
  unfold ExpandedUnit.expand Expansion.unit at reports
  cases result : (settings.expand root content).result with
  | ok macros =>
      simp [result] at reports
  | error failure =>
      rw [result] at reports
      exact ⟨failure, rfl, Except.error.inj reports⟩

end

/-! ### Where problems are -/

section

variable
  {settings : ExpansionSettings} {visit : SourceVisit} {root : String}
  {content : List Char} {events done : List ExpansionEvent}
  {position : Nat} {problem : ExpansionProblem}

/-- What is visited is the root text or the content that the resolver gave for a request. -/
theorem Reaches.known
    (reaches : settings.Reaches root content visit events) :
    (visit.source = root ∧ visit.content = content) ∨
      ∃ request,
        Answers settings.resolver request ⟨visit.source, visit.content⟩ := by
  cases reaches with
  | root =>
      exact .inl ⟨rfl, rfl⟩
  | included outer comes found includes fits answers =>
      exact .inr ⟨_, answers⟩

/-- A group that is open at the end of a source was opened by a directive outside comments. -/
theorem ProblemAt.opening
    (isProblem : settings.ProblemAt visit position .unterminatedConditional done) :
    ∃ n line directive,
      position = n + 1 ∧ visit.lines[n]? = some line ∧
        Comment.isOpenAfterAll false (visit.lines.take n) = false ∧
          Directive.parse? (Comment.strip false line) = some directive ∧
            directive.isOpening = true := by
  cases isProblem with
  | line comes found has =>
      cases has
  | openGroup comes isOpen =>
      rcases Directive.mem_openPositions (List.mem_of_head? isOpen) with
        wasOpen | ⟨n, line, directive, rfl, found, outside, parses, opens⟩
      · cases wasOpen
      · exact ⟨n, line, directive, Nat.add_comm 1 n, found, outside, parses, opens⟩

/-- A problem is at a line of its source. -/
theorem ProblemAt.inside
    (isProblem : settings.ProblemAt visit position problem done) :
    1 ≤ position ∧ position ≤ visit.lines.length := by
  cases isProblem with
  | line comes found has | refusal comes found includes refuses =>
      obtain ⟨inside, -⟩ := List.getElem?_eq_some_iff.mp found
      exact ⟨Nat.succ_pos _, inside⟩
  | openGroup comes isOpen =>
      obtain ⟨n, line, -, rfl, found, -⟩ := ProblemAt.opening (.openGroup comes isOpen)
      obtain ⟨inside, -⟩ := List.getElem?_eq_some_iff.mp found
      exact ⟨Nat.succ_pos _, inside⟩
  | openComment nested comes closed inComment =>
      refine ⟨?_, Nat.le_refl _⟩
      cases isEmpty : visit.lines with
      | nil =>
          rw [isEmpty] at inComment
          cases inComment
      | cons line others =>
          exact Nat.succ_pos _

/-- An expansion that reaches a problem does nothing after it, and fails there. -/
theorem Reaches.expand_of_problemAt
    (reaches : settings.Reaches root content visit events)
    (isProblem : settings.ProblemAt visit position problem done) :
    settings.expand root content =
      ⟨events ++ done, .error ⟨⟨visit.source, lineNumber position⟩, problem⟩⟩ :=
  reaches.expand_eq (runFrom_of_problemAt isProblem)

/-- An expansion succeeds if it meets no problem, and only then. -/
theorem exists_unit_iff :
    (∃ unit, ExpandedUnit.expand settings root content = .ok unit) ↔
      ¬settings.MeetsProblem root content := by
  constructor
  · rintro ⟨unit, succeeds⟩ ⟨visit, events, position, problem, done, reaches, isProblem⟩
    rw [ExpandedUnit.expand, reaches.expand_of_problemAt isProblem] at succeeds
    cases succeeds
  · intro meetsNone
    cases reports : ExpandedUnit.expand settings root content with
    | ok unit =>
        exact ⟨unit, rfl⟩
    | error diagnostic =>
        obtain ⟨failure, fails, -⟩ := result_of_unit_eq_error reports
        exact absurd (meetsProblem_of_expand fails) meetsNone

end

end ExpansionSettings

/--
A failed expansion reports a problem that it has reached, at a line of the root text
or of a text that the resolver gave, and by its position while positions fit line
numbers. Whichever problem an expansion reaches is the end of it and is what it
reports, and without one it succeeds.
-/
theorem expand_reports_first_problem
    (settings : ExpansionSettings) (root : String) (content : List Char) :
    (∀ diagnostic,
        ExpandedUnit.expand settings root content = .error diagnostic →
          ∃ visit events position problem done,
            settings.Reaches root content visit events ∧
              settings.ProblemAt visit position problem done ∧
              diagnostic =
                ⟨visit.source, some (lineNumber position), problem.message⟩ ∧
              1 ≤ position ∧ position ≤ visit.lines.length ∧
              (visit.lines.length ≤ 0xffffffff → lineNumber position = position) ∧
              ((visit.source = root ∧ visit.content = content) ∨
                ∃ request,
                  Answers settings.resolver request ⟨visit.source, visit.content⟩) ∧
              (problem = .unterminatedConditional →
                ∃ n line directive,
                  position = n + 1 ∧ visit.lines[n]? = some line ∧
                    Comment.isOpenAfterAll false (visit.lines.take n) = false ∧
                      Directive.parse? (Comment.strip false line) = some directive ∧
                        directive.isOpening = true)) ∧
      (∀ visit events position problem done,
        settings.Reaches root content visit events →
          settings.ProblemAt visit position problem done →
            settings.expand root content =
              ⟨events ++ done, .error ⟨⟨visit.source, lineNumber position⟩, problem⟩⟩) ∧
        ((∃ unit, ExpandedUnit.expand settings root content = .ok unit) ↔
          ¬settings.MeetsProblem root content) := by
  refine ⟨fun diagnostic reports => ?_, ?_, ExpansionSettings.exists_unit_iff⟩
  · obtain ⟨failure, fails, rfl⟩ := ExpansionSettings.result_of_unit_eq_error reports
    obtain ⟨visit, events, position, problem, done, reaches, isProblem⟩ :=
      ExpansionSettings.meetsProblem_of_expand fails
    have isFailure : failure = ⟨⟨visit.source, lineNumber position⟩, problem⟩ := by
      rw [reaches.expand_of_problemAt isProblem] at fails
      exact (Except.error.inj fails).symm
    have inside := isProblem.inside
    refine ⟨visit, events, position, problem, done, reaches, isProblem, ?_, inside.1,
      inside.2, fun fits => Nat.min_eq_left (Nat.le_trans inside.2 fits), reaches.known, ?_⟩
    · rw [isFailure]
      rfl
    · rintro rfl
      exact isProblem.opening
  · intro visit events position problem done reaches isProblem
    exact reaches.expand_of_problemAt isProblem

/-- A file ends within a group and within a comment; an `#error` follows its include. -/
theorem expand_reports_first_problem_open_group :
    let resolver :=
      (SourceCollection.ofList
        [("a", "float a;\n#if 1\nfloat b; /* c".toList)]).resolver
    let settings : ExpansionSettings := ⟨some resolver, 4, []⟩
    let content := "#version 450\n#include \"a\"\n#error later".toList
    let report : Diagnostic := ⟨"a", some 2, "unterminated conditional directive"⟩
    ExpandedUnit.expand settings "main" content = .error report ∧
      (∃ visit events position problem done,
        settings.Reaches "main" content visit events ∧
          settings.ProblemAt visit position problem done ∧
            report = ⟨visit.source, some (lineNumber position), problem.message⟩ ∧
              settings.expand "main" content =
                ⟨events ++ done, .error ⟨⟨visit.source, lineNumber position⟩, problem⟩⟩) ∧
        settings.MeetsProblem "main" content := by
  intro resolver settings content report
  have reports : ExpandedUnit.expand settings "main" content = .error report := by
    decide +kernel
  obtain ⟨located, first, -⟩ := expand_reports_first_problem settings "main" content
  obtain ⟨visit, events, position, problem, done, reaches, isProblem, isReport, -⟩ :=
    located report reports
  exact ⟨reports,
    ⟨visit, events, position, problem, done, reaches, isProblem, isReport,
      first visit events position problem done reaches isProblem⟩,
    ⟨visit, events, position, problem, done, reaches, isProblem⟩⟩

end ShaderBuild
