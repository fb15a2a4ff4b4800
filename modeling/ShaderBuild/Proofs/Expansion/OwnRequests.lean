import ShaderBuild.Include.Resolver
import ShaderBuild.Proofs.Expansion.DepthLimit
import ShaderBuild.Proofs.Expansion.FirstProblem
import ShaderBuild.Proofs.IncludeLine

namespace ShaderBuild

/-!
# Requests and include lines

A visit makes its own requests, and the files that it includes make theirs one level
deeper. Its own requests are those of its include lines: one for each that it comes to
outside comments and in a region that is not skipped, in order, with the name as it is
written.
-/

/-- The request that is made at a line, if the line includes a file. -/
def LineContext.asks?
    (asked : IncludeKind → String → IncludeRequest) (entry : LineContext × List Char) :
    Option IncludeRequest :=
  (entry.1.includes? entry.2).map fun named => asked named.1 named.2

namespace ExpansionSettings

/-- What a visit does from its top on. -/
def runOf (settings : ExpansionSettings) (visit : SourceVisit) : Expansion :=
  settings.runFrom visit (.top visit.macros) visit.lines

/-- The lines that a visit comes to, with what it knows at the start of each. -/
def entriesOf (settings : ExpansionSettings) (visit : SourceVisit) :
    List (LineContext × List Char) :=
  (settings.visit visit.source (settings.depthLimit - visit.depth) visit.depth).entries
    (.top visit.macros) visit.lines

/-- The requests that a visit makes for files that it includes itself. -/
def ownRequests (settings : ExpansionSettings) (visit : SourceVisit) : List IncludeRequest :=
  (settings.runOf visit).requests.filter (·.depth = visit.depth + 1)

end ExpansionSettings

namespace Expansion

/-- What is done first is done, whatever follows it. -/
theorem exists_trace_andThen (first : Expansion) (next : MacroTable → Expansion) :
    ∃ others, (first.andThen next).trace = first.trace ++ others := by
  cases result : first.result with
  | ok macros =>
      exact ⟨(next macros).trace, by rw [andThen_of_ok result, trace_after]⟩
  | error failure =>
      exact ⟨[], by rw [andThen_of_error result, List.append_nil]⟩

/-- A request is made first, or after what succeeds. -/
theorem mem_requests_andThen
    {first : Expansion}
    {next : MacroTable → Expansion}
    {request : IncludeRequest}
    (member : request ∈ (first.andThen next).requests) :
    request ∈ first.requests ∨
      ∃ macros, first.result = .ok macros ∧ request ∈ (next macros).requests := by
  cases result : first.result with
  | ok macros =>
      rw [andThen_of_ok result, requests_after, List.mem_append] at member
      exact member.imp_right fun later => ⟨macros, rfl, later⟩
  | error failure =>
      rw [andThen_of_error result] at member
      exact .inl member

end Expansion

/-! ### The requests of one visit -/

theorem VisitedLines.requests_closing
    (source : String)
    (context : LineContext)
    (line : List Char) :
    ((closing source context line).map ExpansionEvent.line).filterMap
        ExpansionEvent.request? =
      [] := by
  rw [List.filterMap_map]
  exact List.filterMap_eq_nil_iff.mpr fun _ _ => rfl

theorem Visit.requests_finish (visit : Visit) (context : LineContext) :
    (visit.finish context).requests = [] := by
  unfold finish
  split
  · rfl
  · split <;> rfl

/-- A visit makes the requests of its includes, in the order of its lines. -/
theorem Visit.filter_requests_run
    {visit : Visit}
    {isOwn : IncludeRequest → Bool}
    {asked : IncludeKind → String → IncludeRequest}
    (splices :
      ∀ context kind target macros,
        (visit.splice (LineContext.origin context visit.source) kind target macros
          ).requests.filter isOwn = [asked kind target])
    (context : LineContext)
    (lines : List (List Char)) :
    (visit.run context lines).requests.filter isOwn =
      (visit.entries context lines).filterMap (LineContext.asks? asked) := by
  induction lines generalizing context with
  | nil =>
      rw [run, requests_finish]
      rfl
  | cons line others inductionHypothesis =>
      rcases context.advances_or_includes_or_stops line with
        ⟨next, keeps⟩ | ⟨kind, target, includes⟩ | ⟨problem, stops⟩
      · have asksNothing : LineContext.asks? asked (context, line) = none := by
          rw [LineContext.asks?, LineContext.includes?_of_advance? keeps, Option.map_none]
        rw [run_of_advance? keeps, entries_of_advance? keeps, Expansion.requests_after,
          List.filterMap_cons_none asksNothing]
        exact inductionHypothesis next
      · have asks := splices context kind target context.macros
        have asksHere : LineContext.asks? asked (context, line) = some (asked kind target) := by
          rw [LineContext.asks?, includes, Option.map_some]
        rw [run_of_includes? includes]
        cases result :
            (visit.splice (context.origin visit.source) kind target context.macros).result with
        | ok macros =>
            rw [Expansion.andThen_of_ok result, entries_of_includes? includes result,
              List.filterMap_cons_some asksHere, ← inductionHypothesis, Expansion.requests_after,
              Expansion.requests_after, VisitedLines.requests_closing, List.nil_append,
              List.filter_append]
            exact congrArg (· ++ _) asks
        | error failure =>
            rw [Expansion.andThen_of_error result, entries_of_failure includes result, asks,
              List.filterMap_cons_some asksHere, List.filterMap_nil]
      · have asksNothing : LineContext.asks? asked (context, line) = none := by
          cases includes : context.includes? line with
          | none =>
              rw [LineContext.asks?, includes, Option.map_none]
          | some named =>
              have acts :
                  context.action line (context.commentAfter line) = .splice named.1 named.2 :=
                LineContext.action_eq_splice_iff.mpr includes
              rw [stops] at acts
              cases acts
        rw [run_of_stop stops, entries_of_stop stops, List.filterMap_cons_none asksNothing]
        rfl

namespace ExpansionSettings

variable
  {settings : ExpansionSettings} {visit : SourceVisit} {root : String}
  {content : List Char} {events : List ExpansionEvent}

/-- An include makes one request, and what it includes makes deeper ones. -/
theorem filter_requests_includer
    {given : Resolver}
    (isGiven : settings.resolver = some given)
    (levels depth : Nat)
    (origin : Origin)
    (kind : IncludeKind)
    (target : String)
    (macros : MacroTable) :
    (settings.includer (levels + 1) depth origin kind target macros).requests.filter
        (·.depth = depth + 1) =
      [⟨target, kind, origin.source, depth + 1⟩] := by
  let request : IncludeRequest := ⟨target, kind, origin.source, depth + 1⟩
  have isOwn : [request].filter (·.depth = depth + 1) = [request] :=
    List.filter_cons_of_pos (by simp [request])
  unfold includer
  simp only [isGiven]
  split
  · exact isOwn
  · rename_i included resolved
    have deeper :
        ∀ request ∈
            (Visit.start ⟨included.name, true, settings.includer levels (depth + 1)⟩
              macros included.content).requests,
          ¬ decide (request.depth = depth + 1) = true := by
      intro request member same
      have within :=
        Visit.requests_run (settings.requests_includer levels (depth + 1)) _ _ request member
      have sameDepth := of_decide_eq_true same
      omega
    rw [Expansion.requests_after, List.filter_append, List.filter_eq_nil_iff.mpr deeper,
      List.append_nil]
    exact isOwn

/-- The requests that a visit makes itself are those of its include lines. -/
theorem ownRequests_eq
    {given : Resolver}
    (isGiven : settings.resolver = some given)
    (fits : visit.depth < settings.depthLimit) :
    settings.ownRequests visit =
      (settings.entriesOf visit).filterMap (LineContext.asks? (request visit)) := by
  obtain ⟨below, levels⟩ : ∃ below, settings.depthLimit - visit.depth = below + 1 :=
    ⟨settings.depthLimit - visit.depth - 1, by omega⟩
  unfold ownRequests runOf runFrom entriesOf
  rw [levels]
  exact Visit.filter_requests_run
    (fun context kind target macros =>
      filter_requests_includer isGiven below visit.depth _ kind target macros) _ _

/-- Only with a resolver, and above the limit of nesting, a visit makes a request. -/
theorem resolves_of_mem_requests
    {request : IncludeRequest}
    (member : request ∈ (settings.runOf visit).requests) :
    (∃ given, settings.resolver = some given) ∧ visit.depth < settings.depthLimit := by
  by_contra refuses
  have noRequest (origin : Origin) (kind : IncludeKind) (target : String) (macros : MacroTable) :
      (settings.includer (settings.depthLimit - visit.depth) visit.depth
        origin kind target macros).Requests fun _ => False := by
    cases isGiven : settings.resolver with
    | none =>
        cases settings.depthLimit - visit.depth with
        | zero | succ below =>
            simp only [includer, isGiven]
            exact .fail _ _
    | some given =>
        have noLevel : settings.depthLimit - visit.depth = 0 := by
          have tooDeep : ¬ visit.depth < settings.depthLimit :=
            fun fits => refuses ⟨⟨given, isGiven⟩, fits⟩
          omega
        rw [noLevel]
        simp only [includer, isGiven]
        exact .fail _ _
  exact Visit.requests_run noRequest _ _ request member

/-! ### The requests of an expansion -/

/-- A visit that comes to an include goes on with the visit to the included file. -/
theorem runOf_of_includes
    {n : Nat}
    {context : LineContext}
    {line : List Char}
    {kind : IncludeKind}
    {target : String}
    {included : IncludedSource}
    {done : List ExpansionEvent}
    (comes : settings.ComesTo visit n context done)
    (found : visit.lines[n]? = some line)
    (includes : context.includes? line = some (kind, target))
    (fits : visit.depth < settings.depthLimit)
    (answers : Answers settings.resolver (request visit kind target) included) :
    ∃ others,
      (settings.runOf visit).trace =
        done ++ ([.request (request visit kind target), .visit included.name] ++
          (settings.runOf
            ⟨included.name, visit.depth + 1, context.macros, included.content⟩).trace ++
              others) := by
  rw [runOf, comes.runFrom_top, drop_eq_cons found, runFrom, Visit.run_of_includes? includes]
  simp only [ExpansionSettings.visit, Expansion.trace_after]
  rw [includer_of_reached rfl fits answers]
  obtain ⟨others, isTrace⟩ := Expansion.exists_trace_andThen _ _
  exact ⟨others, congrArg (done ++ ·) isTrace⟩

/-- What a visit that is reached does is a part of what the expansion does. -/
theorem Reaches.exists_trace (reaches : settings.Reaches root content visit events) :
    ∃ rest,
      (settings.expand root content).trace =
        events ++ (settings.runOf visit).trace ++ rest := by
  induction reaches with
  | root =>
      exact ⟨[], by rw [expand_eq_run, List.append_nil]; rfl⟩
  | included outer comes found includes fits answers inductionHypothesis =>
      obtain ⟨rest, isTrace⟩ := inductionHypothesis
      obtain ⟨others, isOuter⟩ := runOf_of_includes comes found includes fits answers
      refine ⟨others ++ rest, ?_⟩
      rw [isTrace, isOuter]
      simp only [List.append_assoc]

/-- A request is made by a visit that the expansion comes to. -/
def IsAsked
    (settings : ExpansionSettings) (root : String) (content : List Char)
    (request : IncludeRequest) : Prop :=
  ∃ visit events,
    settings.Reaches root content visit events ∧ request ∈ settings.ownRequests visit

/-- A visit makes its requests itself, if the visits to included files make theirs so. -/
theorem isAsked_of_nested
    {asked : IncludeRequest}
    {n : Nat}
    {context : LineContext}
    {left : List (List Char)}
    {done : List ExpansionEvent}
    (nestedVisits :
      ∀ {included : IncludedSource} {macros : MacroTable} {events : List ExpansionEvent},
        visit.depth < settings.depthLimit →
          settings.Reaches root content
            ⟨included.name, visit.depth + 1, macros, included.content⟩ events →
            asked ∈ (settings.runOf
              ⟨included.name, visit.depth + 1, macros, included.content⟩).requests →
              settings.IsAsked root content asked)
    (reaches : settings.Reaches root content visit events)
    (comes : settings.ComesTo visit n context done)
    (isLeft : visit.lines.drop n = left)
    (member : asked ∈ (settings.runFrom visit context left).requests) :
    settings.IsAsked root content asked := by
  -- The depth tells the requests of a visit from those of the visits below it.
  by_cases isOwn : asked.depth = visit.depth + 1
  · refine ⟨visit, events, reaches, List.mem_filter.mpr ⟨?_, decide_eq_true isOwn⟩⟩
    rw [runOf, comes.runFrom_top, isLeft, Expansion.requests_after]
    exact List.mem_append_right _ member
  induction left generalizing n context done with
  | nil =>
      rw [runFrom, Visit.run, Visit.requests_finish] at member
      cases member
  | cons line others inductionHypothesis =>
      obtain ⟨found, othersLeft⟩ := found_of_drop_eq_cons isLeft
      rcases context.advances_or_includes_or_stops line with
        ⟨next, keeps⟩ | ⟨kind, target, includes⟩ | ⟨problem, stops⟩
      · rw [runFrom, Visit.run_of_advance? keeps, Expansion.requests_after] at member
        obtain ⟨done', comesNext⟩ := comes.kept found keeps
        exact inductionHypothesis comesNext othersLeft member
      · rw [runFrom, Visit.run_of_includes? includes] at member
        simp only [ExpansionSettings.visit] at member
        rcases refuses_or_answers settings visit kind target with
          ⟨fault, asks, refuses⟩ | ⟨fits, included, answers⟩
        · rw [includer_of_refuses rfl refuses, Expansion.andThen_of_error rfl] at member
          cases refuses with
          | noResolver | tooDeep =>
              cases member
          | unresolved =>
              exact absurd (congrArg IncludeRequest.depth (List.mem_singleton.mp member)) isOwn
        · rw [includer_of_reached rfl fits answers] at member
          rcases Expansion.mem_requests_andThen member with isInside | ⟨macros, succeeds, later⟩
          · rw [Expansion.requests_after] at isInside
            rcases List.mem_append.mp isInside with isHere | isInside
            · exact absurd (congrArg IncludeRequest.depth (List.mem_singleton.mp isHere)) isOwn
            · exact nestedVisits fits (.included reaches comes found includes fits answers)
                isInside
          · obtain ⟨done', comesNext⟩ := comes.spliced found includes fits answers succeeds
            rw [Expansion.requests_after, VisitedLines.requests_closing, List.nil_append] at later
            exact inductionHypothesis comesNext othersLeft later
      · rw [runFrom, Visit.run_of_stop stops] at member
        cases member

/-- Every request of a visit that is reached is made by it or by one that it leads to. -/
theorem isAsked_of_runOf
    {asked : IncludeRequest}
    (reaches : settings.Reaches root content visit events)
    (fits : visit.depth ≤ settings.depthLimit)
    (member : asked ∈ (settings.runOf visit).requests) :
    settings.IsAsked root content asked := by
  -- The induction is on the levels that are left below the visit.
  obtain ⟨levels, isLeft⟩ : ∃ levels, settings.depthLimit = visit.depth + levels :=
    Nat.exists_eq_add_of_le fits
  induction levels generalizing visit events with
  | zero =>
      refine isAsked_of_nested (fun fitsBelow => ?_) reaches (.top fits) rfl member
      omega
  | succ levels inductionHypothesis =>
      refine isAsked_of_nested (fun fitsBelow reached isInside => ?_)
        reaches (.top fits) rfl member
      exact inductionHypothesis reached fitsBelow isInside (by simp only; omega)

theorem isAsked_of_mem_requests
    {asked : IncludeRequest}
    (member : asked ∈ (settings.expand root content).requests) :
    settings.IsAsked root content asked := by
  rw [expand_eq_run, requests_after_preamble] at member
  exact isAsked_of_runOf .root (Nat.zero_le _) member

end ExpansionSettings

/-! ### Include lines and requests -/

/-- A line outside comments, in a region that is not certainly skipped. -/
def LineContext.IsRead (context : LineContext) : Prop :=
  context.inComment = false ∧ context.conditionals.liveness ≠ .dead

namespace LineContext

variable {asked : IncludeKind → String → IncludeRequest} {entry : LineContext × List Char}

/-- An include line that is read asks for the name that is written. -/
theorem asks?_of_isIncludeLine
    (isRead : entry.1.IsRead)
    {kind : IncludeKind}
    {name : List Char}
    (isLine : IsIncludeLine kind name entry.2) :
    asks? asked entry = some (asked kind (String.ofList name)) := by
  rw [asks?, includes?_eq_some_iff.mpr ⟨isRead.1, isRead.2, isLine.parse?_eq⟩, Option.map_some]

theorem isRead_of_asks?
    {request : IncludeRequest}
    (asks : asks? asked entry = some request) :
    entry.1.IsRead ∧
      ∃ kind target,
        request = asked kind target ∧
          (IsIncludeLine kind target.toList entry.2 ∨
            kind = .standard ∧ MistakesName entry.2) := by
  obtain ⟨⟨kind, target⟩, includes, rfl⟩ := Option.map_eq_some_iff.mp asks
  obtain ⟨outside, notDead, reads⟩ := includes?_eq_some_iff.mp includes
  exact ⟨⟨outside, notDead⟩, kind, target, rfl, isIncludeLine_or_mistakesName reads⟩

end LineContext

/--
With a resolver and above the limit of nesting, a visit that an expansion comes to makes
one request for each of its include lines that is read, in order, and for the name that is
written on it. Every request of an expansion is made by such a visit at such a line, but
for lines with a name in angle brackets in which a comment starts.
-/
theorem expand_requests_include_lines
    (settings : ExpansionSettings) (root : String) (content : List Char) :
    (∀ visit events given,
      settings.Reaches root content visit events →
        settings.resolver = some given →
          visit.depth < settings.depthLimit →
            (∃ rest,
              (settings.expand root content).trace =
                events ++ (settings.runOf visit).trace ++ rest) ∧
              settings.ownRequests visit =
                (settings.entriesOf visit).filterMap
                  (LineContext.asks? (ExpansionSettings.request visit))) ∧
      (∀ visit entry kind name,
        LineContext.IsRead entry.1 →
          IsIncludeLine kind name entry.2 →
            LineContext.asks? (ExpansionSettings.request visit) entry =
              some (ExpansionSettings.request visit kind (String.ofList name))) ∧
        ∀ request ∈ (settings.expand root content).requests,
          ∃ visit events,
            settings.Reaches root content visit events ∧
              request ∈ settings.ownRequests visit ∧
                ∃ entry ∈ settings.entriesOf visit,
                  LineContext.IsRead entry.1 ∧
                    ∃ kind target,
                      request = ExpansionSettings.request visit kind target ∧
                        (IsIncludeLine kind target.toList entry.2 ∨
                          kind = .standard ∧ MistakesName entry.2) := by
  refine ⟨?_, fun visit entry kind name isRead => LineContext.asks?_of_isIncludeLine isRead, ?_⟩
  · intro visit events given reaches isGiven fits
    exact ⟨reaches.exists_trace, ExpansionSettings.ownRequests_eq isGiven fits⟩
  · intro request member
    obtain ⟨visit, events, reaches, isOwn⟩ := ExpansionSettings.isAsked_of_mem_requests member
    obtain ⟨⟨given, isGiven⟩, fits⟩ :=
      ExpansionSettings.resolves_of_mem_requests (List.mem_filter.mp isOwn).1
    have asked := isOwn
    rw [ExpansionSettings.ownRequests_eq isGiven fits] at asked
    obtain ⟨entry, isEntry, asks⟩ := List.mem_filterMap.mp asked
    obtain ⟨isRead, kind, target, same, written⟩ := LineContext.isRead_of_asks? asks
    exact ⟨visit, events, reaches, isOwn, entry, isEntry, isRead, kind, target, same, written⟩

/-- A name that leaves a quotation open, and comment marks in quotes. -/
theorem expand_requests_include_lines_marks :
    let settings : ExpansionSettings :=
      ⟨some (SourceCollection.ofList [("a\"b", []), ("c//d", [])]).resolver, 4, []⟩
    let content := "# /* x */ include <a\"b> // y\n#include\"c//d\"/* z".toList
    let visit : SourceVisit := ⟨"main", 0, .ofDefines [], content⟩
    let line := "#include\"c//d\"/* z".toList
    IsIncludeLine .relative "c//d".toList line ∧
      LineContext.asks? (ExpansionSettings.request visit) (.top .empty, line) =
          some ⟨"c//d", .relative, "main", 1⟩ ∧
        settings.ownRequests visit =
            (settings.entriesOf visit).filterMap
              (LineContext.asks? (ExpansionSettings.request visit)) ∧
          settings.ownRequests visit =
            [⟨"a\"b", .standard, "main", 1⟩, ⟨"c//d", .relative, "main", 1⟩] := by
  intro settings content visit line
  obtain ⟨own, written, -⟩ := expand_requests_include_lines settings "main" content
  have isLine : IsIncludeLine .relative "c//d".toList line := by
    refine ⟨by decide, '"' :: ("c//d".toList ++ '"' :: "/* z".toList),
      ⟨[], [], [], .nil, .nil, .nil, rfl⟩, ?_⟩
    have isOpen : ¬ ['*', '/'] <:+: " z".toList := by
      decide
    exact .quoted (by decide) (.openComment .nil isOpen)
  have isRead : (LineContext.top .empty).IsRead :=
    ⟨rfl, by decide⟩
  have fits : visit.depth < settings.depthLimit := by
    decide
  have reaches : settings.Reaches "main" content visit _ := .root
  exact ⟨isLine, written visit (.top .empty, line) .relative _ isRead isLine,
    (own visit _ _ reaches rfl fits).2, by decide +kernel⟩

/--
A comment may stand before the sign of a directive, and a line comment starts in a name
in angle brackets.
-/
theorem requests_differ_from_lines :
    let settings : ExpansionSettings :=
      ⟨some (SourceCollection.ofList [("a", []), ("a//b", [])]).resolver, 4, []⟩
    let commented := "/* note */ #include \"a\"".toList
    let angled := "#include <a//b>".toList
    (settings.expand "main" commented).requests = [⟨"a", .relative, "main", 1⟩] ∧
      (Text.trimStart commented).head? ≠ some '#' ∧
        (settings.expand "main" angled).requests = [] := by
  decide +kernel

end ShaderBuild
