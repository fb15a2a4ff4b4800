import Mathlib.Control.Monad.Basic
import ShaderBuild.Include.Resolver
import ShaderBuild.Proofs.Expansion.Passage

namespace ShaderBuild

/-!
# The limit of nesting

No request is made for a file that would be nested deeper than the limit. Apart from
that an expansion does not depend on the limit: one that succeeds does the same
under every limit that its requests respect, and under any other limit it does the
same up to the first include that is nested too deep, and fails there.
-/

/-- The deepest nesting among some requests; zero if there is none. -/
def IncludeRequest.deepest (requests : List IncludeRequest) : Nat :=
  requests.foldr (fun request deepest => max request.depth deepest) 0

theorem IncludeRequest.deepest_append (first second : List IncludeRequest) :
    deepest (first ++ second) = max (deepest first) (deepest second) := by
  induction first with
  | nil =>
      simp [deepest]
  | cons request others inductionHypothesis =>
      change max request.depth (deepest (others ++ second)) = _
      rw [inductionHypothesis, ← Nat.max_assoc]
      rfl

/-! ### What is requested -/

namespace Expansion

/-- Every request that an expansion makes satisfies a condition. -/
def Requests (allowed : IncludeRequest → Prop) (expansion : Expansion) : Prop :=
  ∀ request ∈ expansion.requests, allowed request

variable {allowed : IncludeRequest → Prop} {expansion : Expansion}

theorem requests_after (events : List ExpansionEvent) (expansion : Expansion) :
    (expansion.after events).requests =
      events.filterMap ExpansionEvent.request? ++ expansion.requests :=
  List.filterMap_append

theorem Requests.fail (origin : Origin) (problem : ExpansionProblem) :
    (Expansion.fail origin problem).Requests allowed := by
  intro request member
  cases member

theorem Requests.after
    {events : List ExpansionEvent}
    (eventsAllowed : ∀ request ∈ events.filterMap ExpansionEvent.request?, allowed request)
    (restAllowed : expansion.Requests allowed) :
    (expansion.after events).Requests allowed := by
  intro request member
  rw [requests_after, List.mem_append] at member
  rcases member with isEvent | isRest
  · exact eventsAllowed request isEvent
  · exact restAllowed request isRest

theorem Requests.andThen
    {next : MacroTable → Expansion}
    (firstAllowed : expansion.Requests allowed)
    (nextAllowed : ∀ macros, (next macros).Requests allowed) :
    (expansion.andThen next).Requests allowed := by
  cases result : expansion.result with
  | ok macros =>
      rw [andThen_of_ok result]
      exact (nextAllowed macros).after firstAllowed
  | error failure =>
      rw [andThen_of_error result]
      exact firstAllowed

end Expansion

/-- A visit requests what its includes request. -/
theorem Visit.requests_run
    {visit : Visit}
    {allowed : IncludeRequest → Prop}
    (splices :
      ∀ origin kind target macros,
        (visit.splice origin kind target macros).Requests allowed)
    (context : LineContext)
    (lines : List (List Char)) :
    (visit.run context lines).Requests allowed := by
  induction lines generalizing context with
  | nil =>
      rw [run, finish]
      split
      · exact .fail _ _
      · split
        · exact .fail _ _
        · intro request member
          cases member
  | cons line others inductionHypothesis =>
      rcases context.advances_or_includes_or_stops line with
        ⟨next, keeps⟩ | ⟨kind, target, includes⟩ | ⟨problem, stops⟩
      · rw [run_of_advance? keeps]
        exact (inductionHypothesis next).after (by simp [ExpansionEvent.request?])
      · rw [run_of_includes? includes]
        refine (splices _ _ _ _).andThen fun macros => ?_
        refine (inductionHypothesis _).after fun request member => ?_
        simp [List.filterMap_map, Function.comp_def, ExpansionEvent.request?] at member
      · rw [run_of_stop stops]
        exact .fail _ _

/-- Files are requested from the next level on, down to the last one that is left. -/
theorem ExpansionSettings.requests_includer
    (settings : ExpansionSettings)
    (levels depth : Nat)
    (origin : Origin)
    (kind : IncludeKind)
    (target : String)
    (macros : MacroTable) :
    (settings.includer levels depth origin kind target macros).Requests
      fun request => depth < request.depth ∧ request.depth ≤ depth + levels := by
  induction levels generalizing depth origin kind target macros with
  | zero =>
      unfold includer
      split <;> exact .fail _ _
  | succ levels inductionHypothesis =>
      have nested :
          ∀ origin kind target macros,
            (settings.includer levels (depth + 1) origin kind target macros).Requests
              fun request =>
                depth < request.depth ∧ request.depth ≤ depth + (levels + 1) := by
        intro origin kind target macros request member
        have within := inductionHypothesis (depth + 1) origin kind target macros request member
        omega
      unfold includer
      split
      · exact .fail _ _
      · dsimp only
        split
        · exact (Expansion.Requests.fail _ _).after
            (by simp [ExpansionEvent.request?])
        · exact (Visit.requests_run nested _ _).after
            (by simp [List.filterMap_cons, ExpansionEvent.request?])

/-! ### Where a run under a lower limit ends -/

namespace VisitedLines

/-- The includes of a visit that a file took the place of, each with its line, in order. -/
def sites (source : String) : VisitedLines → List (Origin × IncludeRequest)
  | .done => []
  | .kept _ _ others => others.sites source
  | .spliced context _ request included inside others =>
      (context.origin source, request) ::
        (inside.sites included.name ++ others.sites source)

theorem map_request_sites (visited : VisitedLines) (source : String) :
    (visited.sites source).map (·.2) = visited.requests := by
  induction visited generalizing source with
  | done =>
      rfl
  | kept context line others inductionHypothesis =>
      exact inductionHypothesis source
  | spliced context line request included inside others insideHypothesis othersHypothesis =>
      simp [sites, requests, insideHypothesis, othersHypothesis]

/-- One include of a record, the includes before it, and all that is done before it. -/
structure CutAt
    (visited : VisitedLines)
    (source : String)
    (before : List (Origin × IncludeRequest))
    (site : Origin × IncludeRequest)
    (done : List ExpansionEvent) : Prop where
  sites : ∃ after, visited.sites source = before ++ site :: after
  trace : ∃ rest, visited.trace source = done ++ .request site.2 :: rest
  requests : done.filterMap ExpansionEvent.request? = before.map (·.2)

namespace CutAt

variable
  {source : String} {before : List (Origin × IncludeRequest)}
  {site : Origin × IncludeRequest} {done : List ExpansionEvent}
  {context : LineContext} {line : List Char} {request : IncludeRequest}
  {included : IncludedSource} {inside others : VisitedLines}

theorem kept (cut : others.CutAt source before site done) :
    (VisitedLines.kept context line others).CutAt source before site
      (.line ⟨context.keptText line, some (context.origin source)⟩ :: done) := by
  obtain ⟨⟨after, isSites⟩, ⟨rest, isTrace⟩, isRequests⟩ := cut
  refine ⟨⟨after, isSites⟩, ⟨rest, ?_⟩, isRequests⟩
  rw [VisitedLines.trace, isTrace]
  rfl

/-- The include itself. -/
theorem here :
    (VisitedLines.spliced context line request included inside others).CutAt source []
      (context.origin source, request) [] :=
  ⟨⟨_, rfl⟩, ⟨_, rfl⟩, rfl⟩

/-- An include in the file that takes a line's place. -/
theorem within
    (cut : inside.CutAt included.name before site done) :
    (VisitedLines.spliced context line request included inside others).CutAt source
      ((context.origin source, request) :: before) site
      (.request request :: .visit included.name :: done) := by
  obtain ⟨⟨after, isSites⟩, ⟨rest, isTrace⟩, isRequests⟩ := cut
  refine ⟨⟨after ++ others.sites source, ?_⟩,
    ⟨rest ++ ((closing source context line).map .line ++ others.trace source), ?_⟩, ?_⟩
  · rw [VisitedLines.sites, isSites]
    simp
  · rw [VisitedLines.trace, isTrace]
    simp
  · simp [List.filterMap_cons, ExpansionEvent.request?, isRequests]

/-- An include behind the file that takes a line's place. -/
theorem behind
    (cut : others.CutAt source before site done) :
    (VisitedLines.spliced context line request included inside others).CutAt source
      ((context.origin source, request) :: (inside.sites included.name ++ before)) site
      (.request request :: .visit included.name ::
        (inside.trace included.name ++
          ((closing source context line).map .line ++ done))) := by
  obtain ⟨⟨after, isSites⟩, ⟨rest, isTrace⟩, isRequests⟩ := cut
  refine ⟨⟨after, ?_⟩, ⟨rest, ?_⟩, ?_⟩
  · rw [VisitedLines.sites, isSites]
    simp
  · rw [VisitedLines.trace, isTrace]
    simp
  · simp [List.filterMap_cons, List.filterMap_map, Function.comp_def,
      ExpansionEvent.request?, filterMap_request?_trace, map_request_sites, isRequests]

end CutAt

end VisitedLines

namespace ExpansionSettings

variable {settings : ExpansionSettings}

/--
A run in which fewer levels are left than a record takes does what is recorded up to
the first include that is nested too deep, and fails there.
-/
theorem run_of_cut
    {levels depth : Nat}
    {source : String}
    {context last : LineContext}
    {lines : List (List Char)}
    {visited : VisitedLines}
    (passes : Passes settings.resolver source depth context lines visited last)
    (tooHigh : levels < visited.height) :
    ∃ before site done,
      visited.CutAt source before site done ∧
        site.2.depth = depth + levels + 1 ∧
          (settings.visit source levels depth).run context lines =
            ⟨done, .error ⟨site.1,
              .includeFailed (.tooDeep site.2.target settings.depthLimit)⟩⟩ := by
  induction passes generalizing levels with
  | done =>
      exact absurd tooHigh (Nat.not_lt_zero _)
  | kept single keeps rest inductionHypothesis =>
      obtain ⟨before, site, done, cut, depthOfSite, runs⟩ := inductionHypothesis tooHigh
      refine ⟨before, site, _, cut.kept, depthOfSite, ?_⟩
      rw [Visit.run_of_advance? keeps, runs]
      rfl
  | @spliced source depth context bottom last line others kind target included inside
      visited includes answers nested insideEnds rest insideHypothesis restHypothesis =>
      rw [Visit.run_of_includes? includes]
      simp only [visit]
      cases levels with
      | zero =>
          obtain ⟨given, isGiven, resolved⟩ := answers
          refine ⟨[], _, [], .here, rfl, ?_⟩
          simp [includer, isGiven, Expansion.fail, Expansion.andThen]
      | succ below =>
          have splices :
              settings.includer (below + 1) depth
                  (context.origin source) kind target context.macros =
                _ :=
            includer_of_answers answers context.macros
          by_cases insideTooHigh : below < inside.height
          · obtain ⟨before, site, done, cut, depthOfSite, runs⟩ :=
              insideHypothesis insideTooHigh
            rw [runs] at splices
            refine ⟨_, site, _, cut.within, by omega, ?_⟩
            rw [splices, Expansion.andThen_of_error rfl]
            rfl
          · have restTooHigh : below + 1 < visited.height := by
              simp only [VisitedLines.height] at tooHigh
              omega
            obtain ⟨before, site, done, cut, depthOfSite, runs⟩ := restHypothesis restTooHigh
            rw [run_of_passes nested insideEnds (Nat.le_of_not_lt insideTooHigh)] at splices
            refine ⟨_, site, _, cut.behind, depthOfSite, ?_⟩
            simp only [visit] at runs
            rw [splices, Expansion.andThen_of_ok rfl, runs]
            simp [Expansion.after]

/-- A recorded passage that is higher than the levels ends at the limit of nesting. -/
theorem run_of_height_gt
    {levels depth : Nat}
    {source : String}
    {context last : LineContext}
    {lines : List (List Char)}
    {visited : VisitedLines}
    (passes : Passes settings.resolver source depth context lines visited last)
    (tooHigh : levels < visited.height) :
    ∃ origin target,
      ((settings.visit source levels depth).run context lines).result =
        .error ⟨origin, .includeFailed (.tooDeep target settings.depthLimit)⟩ := by
  obtain ⟨before, site, done, -, -, runs⟩ := run_of_cut passes tooHigh
  exact ⟨site.1, site.2.target, by rw [runs]⟩

end ExpansionSettings

/-- A record is as high as the deepest request in it is nested below the source. -/
theorem Passes.deepest_requests
    {resolver : Option Resolver}
    {source : String}
    {depth : Nat}
    {context last : LineContext}
    {lines : List (List Char)}
    {visited : VisitedLines}
    (passes : Passes resolver source depth context lines visited last) :
    IncludeRequest.deepest visited.requests =
      if visited.height = 0 then 0 else depth + visited.height := by
  induction passes with
  | done =>
      rfl
  | kept single keeps rest inductionHypothesis =>
      exact inductionHypothesis
  | @spliced source depth context bottom last line others kind target included inside
      visited includes answers nested insideEnds rest insideHypothesis restHypothesis =>
      have deepest :
          IncludeRequest.deepest
              (⟨target, kind, source, depth + 1⟩ :: (inside.requests ++ visited.requests)) =
            max (depth + 1) (max (IncludeRequest.deepest inside.requests)
              (IncludeRequest.deepest visited.requests)) := by
        rw [← IncludeRequest.deepest_append]
        rfl
      rw [VisitedLines.requests, deepest, insideHypothesis, restHypothesis,
        VisitedLines.height]
      split <;> split <;> split <;> omega

/-- The requests of a recorded expansion are as deep as its record is high. -/
theorem ExpansionSettings.Records.deepest_requests
    {settings : ExpansionSettings}
    {root : String}
    {content : List Char}
    {visited : VisitedLines}
    {last : LineContext}
    (records : settings.Records root content visited last) :
    IncludeRequest.deepest (settings.expand root content).requests = visited.height := by
  rw [records.requests_expand, records.passes.deepest_requests]
  split <;> omega

/-- No file is requested at a nesting beyond the limit, whether or not the expansion succeeds. -/
theorem ExpansionSettings.depth_of_mem_requests
    {settings : ExpansionSettings}
    {root : String}
    {content : List Char}
    {request : IncludeRequest}
    (member : request ∈ (settings.expand root content).requests) :
    1 ≤ request.depth ∧ request.depth ≤ settings.depthLimit := by
  rw [expand_eq_run, Expansion.requests_after] at member
  rcases List.mem_append.mp member with isPreamble | isVisited
  · unfold preamble at isPreamble
    split at isPreamble <;> simp [ExpansionEvent.request?] at isPreamble
  · have within :=
      Visit.requests_run (settings.requests_includer settings.depthLimit 0) _ _ request
        isVisited
    omega

namespace ExpansionSettings.Records

variable
  {settings : ExpansionSettings} {root : String} {content : List Char}
  {visited : VisitedLines} {last : LineContext} {limit : Nat}

/-- A limit that the record respects makes no difference. -/
theorem expand_eq_of_fits
    (records : settings.Records root content visited last)
    (fits : visited.height ≤ limit) :
    ExpansionSettings.expand { settings with depthLimit := limit } root content =
      settings.expand root content := by
  have records' :
      Records { settings with depthLimit := limit } root content visited last :=
    ⟨records.passes, records.ends, fits⟩
  rw [records.expand_eq, records'.expand_eq]

/-- Under a lower limit the expansion ends where the record leaves that limit. -/
theorem expand_cut
    (records : settings.Records root content visited last)
    (tooHigh : limit < visited.height) :
    ∃ before site done,
      visited.CutAt root before site done ∧
        site.2.depth = limit + 1 ∧
          ExpansionSettings.expand { settings with depthLimit := limit } root content =
            ⟨preamble content ++ .visit root :: done,
              .error ⟨site.1, .includeFailed (.tooDeep site.2.target limit)⟩⟩ := by
  obtain ⟨before, site, done, cut, depthOfSite, runs⟩ :=
    @run_of_cut { settings with depthLimit := limit } limit 0 root _ _ _ _
      records.passes tooHigh
  refine ⟨before, site, done, cut, by omega, ?_⟩
  rw [expand_eq_run, runs]
  simp [Expansion.after]

end ExpansionSettings.Records

/--
Requests stay within the limit of nesting. An expansion that succeeds does the same
under every limit from the deepest of its requests on. Under a lower limit it does
the same up to the first include whose file would be nested deeper than that, and
fails at the include's line.
-/
theorem expand_within_depthLimit
    (settings : ExpansionSettings) (root : String) (content : List Char) :
    (∀ request ∈ (settings.expand root content).requests,
        1 ≤ request.depth ∧ request.depth ≤ settings.depthLimit) ∧
      ∀ unit,
        ExpandedUnit.expand settings root content = .ok unit →
          (∀ limit,
            IncludeRequest.deepest (settings.expand root content).requests ≤ limit →
              ExpandedUnit.expand { settings with depthLimit := limit } root content =
                  .ok unit ∧
                ExpansionSettings.expand { settings with depthLimit := limit } root content =
                  settings.expand root content) ∧
            ∀ limit,
              limit < IncludeRequest.deepest (settings.expand root content).requests →
                ∃ visited last before site done,
                  settings.Records root content visited last ∧
                    visited.CutAt root before site done ∧
                    (∀ earlier ∈ before, earlier.2.depth ≤ limit) ∧
                    site.2.depth = limit + 1 ∧
                    ExpandedUnit.expand { settings with depthLimit := limit } root content =
                      .error ⟨site.1.source, some site.1.line,
                        "include depth limit of " ++ toString limit ++
                          " exceeded while including '" ++ site.2.target ++ "'"⟩ ∧
                    (ExpansionSettings.expand { settings with depthLimit := limit }
                        root content).requests = before.map (·.2) := by
  refine ⟨fun _ => ExpansionSettings.depth_of_mem_requests, fun unit succeeds => ?_⟩
  obtain ⟨visited, last, records⟩ := ExpansionSettings.exists_records succeeds
  rw [records.deepest_requests]
  refine ⟨fun limit fits => ?_, fun limit tooHigh => ?_⟩
  · have same := records.expand_eq_of_fits fits
    refine ⟨?_, same⟩
    rw [← succeeds, ExpandedUnit.expand, same]
    rfl
  · obtain ⟨before, site, done, cut, depthOfSite, expands⟩ := records.expand_cut tooHigh
    have requests :
        (ExpansionSettings.expand { settings with depthLimit := limit }
            root content).requests = before.map (·.2) := by
      rw [expands, ← cut.requests, Expansion.requests]
      unfold ExpansionSettings.preamble
      split <;> simp [List.filterMap_cons, ExpansionEvent.request?]
    refine ⟨visited, last, before, site, done, records, cut, fun earlier member => ?_,
      depthOfSite, ?_, requests⟩
    · have isRequest :
          earlier.2 ∈
            (ExpansionSettings.expand { settings with depthLimit := limit }
              root content).requests := by
        rw [requests]
        exact List.mem_map_of_mem member
      exact (ExpansionSettings.depth_of_mem_requests isRequest).2
    · rw [ExpandedUnit.expand, expands]
      rfl

/-- A file that is included by the root source and by another file. -/
theorem expand_within_depthLimit_two_levels :
    let resolver :=
      (SourceCollection.ofList
        [("a", "float a;\n#include \"b\"".toList), ("b", "float b;".toList)]).resolver
    let settings (limit : Nat) : ExpansionSettings := ⟨some resolver, limit, []⟩
    let content := "#version 450\n#include \"b\"\n#include \"a\"".toList
    let unit : ExpandedUnit :=
      { root := "main"
        lines :=
          [⟨"#version 450".toList, some ⟨"main", 1⟩⟩,
            ⟨"float b;".toList, some ⟨"b", 1⟩⟩,
            ⟨"float a;".toList, some ⟨"a", 1⟩⟩,
            ⟨"float b;".toList, some ⟨"b", 1⟩⟩]
        sources := ["main", "b", "a"] }
    ExpandedUnit.expand (settings 4) "main" content = .ok unit ∧
      IncludeRequest.deepest ((settings 4).expand "main" content).requests = 2 ∧
        ExpandedUnit.expand (settings 2) "main" content = .ok unit ∧
          ∃ visited last before site done,
            (settings 4).Records "main" content visited last ∧
              visited.CutAt "main" before site done ∧
                site.2.depth = 2 ∧
                  ExpandedUnit.expand (settings 1) "main" content =
                    .error ⟨site.1.source, some site.1.line,
                      "include depth limit of " ++ toString 1 ++
                        " exceeded while including '" ++ site.2.target ++ "'"⟩ ∧
                    ((settings 1).expand "main" content).requests = before.map (·.2) := by
  intro resolver settings content unit
  have succeeds : ExpandedUnit.expand (settings 4) "main" content = .ok unit := by
    decide +kernel
  have deepest :
      IncludeRequest.deepest ((settings 4).expand "main" content).requests = 2 := by
    decide +kernel
  obtain ⟨-, sameOrCut⟩ := expand_within_depthLimit (settings 4) "main" content
  obtain ⟨same, cut⟩ := sameOrCut unit succeeds
  rw [deepest] at same cut
  obtain ⟨visited, last, before, site, done, records, isCut, -, depth, fails, requests⟩ :=
    cut 1 (by decide)
  exact ⟨succeeds, deepest, (same 2 (by decide)).1,
    visited, last, before, site, done, records, isCut, depth, fails, requests⟩

end ShaderBuild
