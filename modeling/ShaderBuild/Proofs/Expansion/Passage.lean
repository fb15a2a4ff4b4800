import ShaderBuild.Proofs.Expansion.LineStep

namespace ShaderBuild

/-!
# Passages through a source

A successful visit is recorded as a tree: one node for each line of the source,
and below the node of an include the record of the file that took its place. The
expanded text, the requests and the visited sources are read off the tree.

`Passes` says which trees are records of a visit, without nesting levels and
without failures. A run of the expander succeeds exactly when there is such a tree
that ends properly and is no higher than the levels allow, and then the tree
accounts for its whole trace. Properties of successful expansions are therefore
proved by induction on `Passes`.
-/

/-- What became of the lines of a source, from one line on. -/
inductive VisitedLines where
  /-- No line is left. -/
  | done
  /-- The line is kept. -/
  | kept
      (context : LineContext)
      (line : List Char)
      (others : VisitedLines)
  /-- A file takes the line's place. -/
  | spliced
      (context : LineContext)
      (line : List Char)
      (request : IncludeRequest)
      (included : IncludedSource)
      (inside others : VisitedLines)

namespace VisitedLines

/-- The lines of the source itself, with what was known at the start of each. -/
def entries : VisitedLines → List (LineContext × List Char)
  | .done => []
  | .kept context line others => (context, line) :: others.entries
  | .spliced context line _ _ _ others => (context, line) :: others.entries

/-- The line after an included file: it opens a comment if the include's line did. -/
def closing
    (source : String) (context : LineContext) (line : List Char) :
    List ExpandedLine :=
  if context.commentAfter line then
    [⟨Comment.placeholder true, some (context.origin source)⟩]
  else
    []

/-- The expanded text of a visit to `source`. -/
def lines (source : String) : VisitedLines → List ExpandedLine
  | .done => []
  | .kept context line others =>
      ⟨context.keptText line, some (context.origin source)⟩ :: others.lines source
  | .spliced context line _ included inside others =>
      inside.lines included.name ++ closing source context line ++ others.lines source

/-- The requests of a visit, in order. -/
def requests : VisitedLines → List IncludeRequest
  | .done => []
  | .kept _ _ others => others.requests
  | .spliced _ _ request _ inside others =>
      request :: (inside.requests ++ others.requests)

/-- Everything that a visit to `source` does, in order. -/
def trace (source : String) : VisitedLines → List ExpansionEvent
  | .done => []
  | .kept context line others =>
      .line ⟨context.keptText line, some (context.origin source)⟩ :: others.trace source
  | .spliced context line request included inside others =>
      .request request :: .visit included.name ::
        (inside.trace included.name ++
          ((closing source context line).map .line ++ others.trace source))

/-- How deep files are nested in a visit. -/
def height : VisitedLines → Nat
  | .done => 0
  | .kept _ _ others => others.height
  | .spliced _ _ _ _ inside others => max (inside.height + 1) others.height

theorem filterMap_line?_trace (source : String) (visited : VisitedLines) :
    (visited.trace source).filterMap ExpansionEvent.line? = visited.lines source := by
  induction visited generalizing source with
  | done =>
      rfl
  | kept context line others inductionHypothesis =>
      simp [trace, lines, ExpansionEvent.line?, inductionHypothesis]
  | spliced context line request included inside others insideHypothesis othersHypothesis =>
      simp [trace, lines, List.filterMap_cons, ExpansionEvent.line?,
        List.filterMap_map, Function.comp_def, insideHypothesis, othersHypothesis]

theorem filterMap_request?_trace (source : String) (visited : VisitedLines) :
    (visited.trace source).filterMap ExpansionEvent.request? = visited.requests := by
  induction visited generalizing source with
  | done =>
      rfl
  | kept context line others inductionHypothesis =>
      simp [trace, requests, List.filterMap_cons, ExpansionEvent.request?,
        inductionHypothesis]
  | spliced context line request included inside others insideHypothesis othersHypothesis =>
      simp [trace, requests, List.filterMap_cons, ExpansionEvent.request?,
        List.filterMap_map, Function.comp_def, insideHypothesis, othersHypothesis]

end VisitedLines

namespace LineContext

/-- Where a source may end: no group is open, nor a comment in a nested source. -/
structure IsEnd (nested : Bool) (context : LineContext) : Prop where
  closed : context.conditionals.groups = []
  outside : nested = true → context.inComment = false

end LineContext

/-- The resolver is given and answers a request with this source. -/
def Answers
    (resolver : Option Resolver)
    (request : IncludeRequest)
    (included : IncludedSource) : Prop :=
  ∃ given, resolver = some given ∧ given.resolve request = .ok included

/--
The visit to `source` at nesting `depth` gets past some lines, from what is known
at the first of them to what is known after the last.
-/
inductive Passes (resolver : Option Resolver) :
    (source : String) →
    (depth : Nat) →
    (first : LineContext) →
    List (List Char) →
    VisitedLines →
    (last : LineContext) →
    Prop where
  /-- No line is left. -/
  | done {source : String} {depth : Nat} {context : LineContext} :
      Passes resolver source depth context [] .done context
  /-- The line includes no file; it is kept, and the visit goes on. -/
  | kept
      {source : String} {depth : Nat} {context next last : LineContext}
      {line : List Char} {others : List (List Char)} {visited : VisitedLines}
      (single : context.includes? line = none)
      (keeps : context.advance? line = some next)
      (rest : Passes resolver source depth next others visited last) :
      Passes resolver source depth context (line :: others)
        (.kept context line visited) last
  /-- The line includes a file, which is visited to its end; then the visit goes on. -/
  | spliced
      {source : String} {depth : Nat} {context bottom last : LineContext}
      {line : List Char} {others : List (List Char)}
      {kind : IncludeKind} {target : String} {included : IncludedSource}
      {inside visited : VisitedLines}
      (includes : context.includes? line = some (kind, target))
      (answers : Answers resolver ⟨target, kind, source, depth + 1⟩ included)
      (nested :
        Passes resolver included.name (depth + 1) (.top context.macros)
          (Text.lines included.content) inside bottom)
      (ends : bottom.IsEnd true)
      (rest :
        Passes resolver source depth (context.resume line bottom.macros)
          others visited last) :
      Passes resolver source depth context (line :: others)
        (.spliced context line ⟨target, kind, source, depth + 1⟩ included inside visited)
        last

namespace Expansion

@[simp] theorem result_after (events : List ExpansionEvent) (expansion : Expansion) :
    (expansion.after events).result = expansion.result := rfl

@[simp] theorem trace_after (events : List ExpansionEvent) (expansion : Expansion) :
    (expansion.after events).trace = events ++ expansion.trace := rfl

/-- An expansion goes on after another one that succeeded. -/
theorem andThen_of_ok
    {first : Expansion}
    {macros : MacroTable}
    (succeeds : first.result = .ok macros)
    (next : MacroTable → Expansion) :
    first.andThen next = (next macros).after first.trace := by
  simp [andThen, succeeds]

/-- Nothing follows an expansion that failed. -/
theorem andThen_of_error
    {first : Expansion}
    {failure : ExpansionFailure}
    (fails : first.result = .error failure)
    (next : MacroTable → Expansion) :
    first.andThen next = first := by
  simp [andThen, fails]

end Expansion

namespace Visit

variable {visit : Visit} {context : LineContext}

/-- A source may end where nothing is left open. -/
theorem finish_of_isEnd (ends : context.IsEnd visit.nested) :
    visit.finish context = .done context.macros := by
  have closed := ends.closed
  have outside := ends.outside
  unfold finish
  simp only [Conditionals.unterminated?, closed, List.head?_nil, Option.map_none]
  cases nested : visit.nested with
  | false =>
      simp
  | true =>
      simp [outside nested]

/-- A source ends well nowhere else. -/
theorem isEnd_of_finish
    {macros : MacroTable}
    (succeeds : (visit.finish context).result = .ok macros) :
    context.IsEnd visit.nested ∧ context.macros = macros := by
  unfold finish at succeeds
  split at succeeds
  · cases succeeds
  · rename_i closed
    split at succeeds
    · cases succeeds
    · rename_i outside
      cases succeeds
      refine ⟨⟨?_, ?_⟩, rfl⟩
      · simpa [Conditionals.unterminated?] using closed
      · intro nested
        simpa [nested] using outside

/-- A visit past a kept line adds the line and goes on. -/
theorem run_of_advance?
    {next : LineContext}
    {line : List Char}
    (keeps : context.advance? line = some next)
    (others : List (List Char)) :
    visit.run context (line :: others) =
      (visit.run next others).after
        [.line ⟨context.keptText line, some (context.origin visit.source)⟩] := by
  obtain ⟨passable, conditionals, groups, rfl⟩ :=
    LineContext.advance?_eq_some_iff.mp keeps
  have acts := LineContext.action_of_advance? keeps
  rw [run]
  simp only [LineContext.commentAfter] at acts
  simp only [acts]
  rfl

/-- A visit past an include splices a file and goes on with its macros. -/
theorem run_of_includes?
    {line : List Char}
    {kind : IncludeKind}
    {target : String}
    (includes : context.includes? line = some (kind, target))
    (others : List (List Char)) :
    visit.run context (line :: others) =
      (visit.splice (context.origin visit.source) kind target context.macros).andThen
        fun macros =>
          (visit.run (context.resume line macros) others).after
            ((VisitedLines.closing visit.source context line).map .line) := by
  have acts :
      context.action line (context.commentAfter line) = .splice kind target :=
    LineContext.action_eq_splice_iff.mpr includes
  rw [run]
  simp only [LineContext.commentAfter] at acts
  simp only [acts]
  congr 1
  funext macros
  simp only [VisitedLines.closing, LineContext.resume, LineContext.commentAfter]
  by_cases opens : Comment.isOpenAfter context.inComment line = true <;>
    simp [opens, LineContext.origin]

/-- A visit does nothing with a line that it stops at, nor with the lines after it. -/
theorem run_of_stop
    {line : List Char}
    {problem : ExpansionProblem}
    (stops : context.action line (context.commentAfter line) = .stop problem)
    (others : List (List Char)) :
    visit.run context (line :: others) =
      .fail (context.origin visit.source) problem := by
  simp only [LineContext.commentAfter] at stops
  rw [run]
  simp only [stops]
  rfl

/-- A visit that gets past a line keeps it or splices it. -/
theorem advances_or_includes_of_run
    {line : List Char}
    {others : List (List Char)}
    {macros : MacroTable}
    (succeeds : (visit.run context (line :: others)).result = .ok macros) :
    (∃ next, context.advance? line = some next) ∨
      ∃ kind target, context.includes? line = some (kind, target) := by
  rcases context.advances_or_includes_or_stops line with keeps | includes | ⟨problem, stops⟩
  · exact .inl keeps
  · exact .inr includes
  · rw [run_of_stop stops] at succeeds
    cases succeeds

end Visit

/--
The lines that a visit comes to before it stops, with what it knows at the start of
each. Lines inside included files are not among them.
-/
def Visit.entries
    (visit : Visit) (context : LineContext) :
    List (List Char) → List (LineContext × List Char)
  | [] => []
  | line :: others =>
      (context, line) ::
        match context.action line (context.commentAfter line) with
        | .keep _ conditionals macros =>
            visit.entries
              (context.next (context.commentAfter line) conditionals macros) others
        | .splice kind target =>
            match
              (visit.splice
                (context.origin visit.source) kind target context.macros).result
            with
            | .ok macros => visit.entries (context.resume line macros) others
            | .error _ => []
        | .stop _ => []

/-- A visit past a kept line comes to the next one. -/
theorem Visit.entries_of_advance?
    {visit : Visit}
    {context next : LineContext}
    {line : List Char}
    (keeps : context.advance? line = some next)
    (others : List (List Char)) :
    visit.entries context (line :: others) =
      (context, line) :: visit.entries next others := by
  have acts := LineContext.action_of_advance? keeps
  obtain ⟨-, conditionals, -, rfl⟩ := LineContext.advance?_eq_some_iff.mp keeps
  rw [entries]
  simp only [acts]
  rfl

/-- A visit comes to a further line past one that it keeps or splices. -/
theorem Visit.entries_succ
    {visit : Visit}
    {context : LineContext}
    {line : List Char}
    {others : List (List Char)}
    {n : Nat}
    {entry : LineContext × List Char}
    (found : (visit.entries context (line :: others))[n + 1]? = some entry) :
    (∃ next,
      context.advance? line = some next ∧
        (visit.entries next others)[n]? = some entry) ∨
      ∃ kind target macros,
        context.includes? line = some (kind, target) ∧
          (visit.splice
              (context.origin visit.source) kind target context.macros).result =
              .ok macros ∧
            (visit.entries (context.resume line macros) others)[n]? = some entry := by
  rw [entries, List.getElem?_cons_succ] at found
  cases acts : context.action line (context.commentAfter line) with
  | keep text conditionals macros =>
      left
      simp only [acts] at found
      exact ⟨_, by simp [LineContext.advance?, acts], found⟩
  | splice kind target =>
      right
      simp only [acts] at found
      split at found
      · rename_i macros spliced
        exact ⟨kind, target, macros, LineContext.action_eq_splice_iff.mp acts,
          spliced, found⟩
      · simp at found
  | stop problem =>
      simp [acts] at found

/-- The lines that a visit comes to are the first ones of its source. -/
theorem Visit.entries_isPrefix
    {visit : Visit}
    (context : LineContext)
    (lines : List (List Char)) :
    (visit.entries context lines).map (·.2) <+: lines := by
  induction lines generalizing context with
  | nil =>
      exact List.nil_prefix
  | cons line others inductionHypothesis =>
      rw [entries, List.map_cons, List.prefix_cons_inj]
      split
      · exact inductionHypothesis _
      · split
        · exact inductionHypothesis _
        · exact List.nil_prefix
      · exact List.nil_prefix

/-- A visit past a spliced file comes to the line after the include. -/
theorem Visit.entries_of_includes?
    {visit : Visit}
    {context : LineContext}
    {line : List Char}
    {kind : IncludeKind}
    {target : String}
    {macros : MacroTable}
    (includes : context.includes? line = some (kind, target))
    (spliced :
      (visit.splice (context.origin visit.source) kind target context.macros).result =
        .ok macros)
    (others : List (List Char)) :
    visit.entries context (line :: others) =
      (context, line) :: visit.entries (context.resume line macros) others := by
  have acts :
      context.action line (context.commentAfter line) = .splice kind target :=
    LineContext.action_eq_splice_iff.mpr includes
  rw [entries]
  simp only [acts, spliced]

/-- A visit comes to no line behind an include that fails. -/
theorem Visit.entries_of_failure
    {visit : Visit}
    {context : LineContext}
    {line : List Char}
    {kind : IncludeKind}
    {target : String}
    {failure : ExpansionFailure}
    (includes : context.includes? line = some (kind, target))
    (fails :
      (visit.splice (context.origin visit.source) kind target context.macros).result =
        .error failure)
    (others : List (List Char)) :
    visit.entries context (line :: others) = [(context, line)] := by
  have acts :
      context.action line (context.commentAfter line) = .splice kind target :=
    LineContext.action_eq_splice_iff.mpr includes
  rw [entries]
  simp only [acts, fails]

/-- A visit comes to no line behind one that it stops at. -/
theorem Visit.entries_of_stop
    {visit : Visit}
    {context : LineContext}
    {line : List Char}
    {problem : ExpansionProblem}
    (stops : context.action line (context.commentAfter line) = .stop problem)
    (others : List (List Char)) :
    visit.entries context (line :: others) = [(context, line)] := by
  rw [entries]
  simp only [stops]

namespace ExpansionSettings

/-- The visit to a source at nesting `depth`, in which files may be nested `levels` deep. -/
def visit (settings : ExpansionSettings) (source : String) (levels depth : Nat) : Visit :=
  ⟨source, depth != 0, settings.includer levels depth⟩

variable {settings : ExpansionSettings}

/-- A file is included by a visit to it, one level deeper. -/
theorem includer_of_answers
    {levels depth : Nat}
    {origin : Origin}
    {kind : IncludeKind}
    {target : String}
    {included : IncludedSource}
    (answers :
      Answers settings.resolver ⟨target, kind, origin.source, depth + 1⟩ included)
    (macros : MacroTable) :
    settings.includer (levels + 1) depth origin kind target macros =
      ((settings.visit included.name levels (depth + 1)).run
          (.top macros) (Text.lines included.content)).after
        [.request ⟨target, kind, origin.source, depth + 1⟩, .visit included.name] := by
  obtain ⟨given, isGiven, resolved⟩ := answers
  unfold includer
  simp only [isGiven, resolved]
  rfl

/-- A file is included only where the resolver answers and a level is left. -/
theorem answers_of_includer
    {levels depth : Nat}
    {origin : Origin}
    {kind : IncludeKind}
    {target : String}
    {macros after : MacroTable}
    (succeeds :
      (settings.includer levels depth origin kind target macros).result = .ok after) :
    ∃ below included,
      levels = below + 1 ∧
        Answers settings.resolver ⟨target, kind, origin.source, depth + 1⟩ included := by
  cases levels with
  | zero =>
      unfold includer at succeeds
      split at succeeds <;> cases succeeds
  | succ below =>
      unfold includer at succeeds
      split at succeeds
      · cases succeeds
      · rename_i given isGiven
        simp only at succeeds
        split at succeeds
        · cases succeeds
        · rename_i included resolved
          exact ⟨below, included, rfl, given, isGiven, resolved⟩

/-- A run does what a recorded passage says, and then goes on behind it. -/
theorem run_append_of_passes
    {levels depth : Nat}
    {source : String}
    {context middle : LineContext}
    {first : List (List Char)}
    {visited : VisitedLines}
    (passes : Passes settings.resolver source depth context first visited middle)
    (fits : visited.height ≤ levels)
    (second : List (List Char)) :
    (settings.visit source levels depth).run context (first ++ second) =
      ((settings.visit source levels depth).run middle second).after
        (visited.trace source) := by
  induction passes generalizing levels second with
  | done =>
      rfl
  | kept single keeps rest inductionHypothesis =>
      rw [List.cons_append, Visit.run_of_advance? keeps, inductionHypothesis fits]
      rfl
  | @spliced source depth context bottom last line others kind target included inside
      visited includes answers nested insideEnds rest insideHypothesis restHypothesis =>
      obtain ⟨insideFits, restFits⟩ := Nat.max_le.mp fits
      cases levels with
      | zero =>
          exact absurd insideFits (Nat.not_succ_le_zero _)
      | succ below =>
          have insideRuns := insideHypothesis (Nat.le_of_succ_le_succ insideFits) []
          rw [List.append_nil, Visit.run, Visit.finish_of_isEnd insideEnds] at insideRuns
          have splices :
              settings.includer (below + 1) depth
                  (context.origin source) kind target context.macros =
                _ :=
            includer_of_answers answers context.macros
          rw [insideRuns] at splices
          have goesOn := restHypothesis restFits second
          rw [List.cons_append, Visit.run_of_includes? includes]
          simp only [visit] at splices goesOn ⊢
          rw [splices, Expansion.andThen_of_ok rfl, goesOn]
          simp [Expansion.after, Expansion.done, VisitedLines.trace]

/-- A recorded passage to the end of a source, no higher than the levels, is a run. -/
theorem run_of_passes
    {levels depth : Nat}
    {source : String}
    {context last : LineContext}
    {lines : List (List Char)}
    {visited : VisitedLines}
    (passes : Passes settings.resolver source depth context lines visited last)
    (ends : last.IsEnd (depth != 0))
    (fits : visited.height ≤ levels) :
    (settings.visit source levels depth).run context lines =
      ⟨visited.trace source, .ok last.macros⟩ := by
  have runs := run_append_of_passes passes fits []
  have finishes : (settings.visit source levels depth).run last [] = .done last.macros :=
    Visit.finish_of_isEnd ends
  rw [List.append_nil, finishes] at runs
  rw [runs]
  simp [Expansion.after, Expansion.done]

/-- The entries of a passage are the lines that the run comes to. -/
theorem entries_of_passes
    {levels depth : Nat}
    {source : String}
    {context last : LineContext}
    {lines : List (List Char)}
    {visited : VisitedLines}
    (passes : Passes settings.resolver source depth context lines visited last)
    (fits : visited.height ≤ levels) :
    (settings.visit source levels depth).entries context lines = visited.entries := by
  induction passes generalizing levels with
  | done =>
      rfl
  | kept single keeps rest inductionHypothesis =>
      rw [Visit.entries_of_advance? keeps, inductionHypothesis fits]
      rfl
  | @spliced source depth context bottom last line others kind target included inside
      visited includes answers nested insideEnds rest insideHypothesis restHypothesis =>
      obtain ⟨insideFits, restFits⟩ := Nat.max_le.mp fits
      cases levels with
      | zero =>
          exact absurd insideFits (Nat.not_succ_le_zero _)
      | succ below =>
          have spliced :
              (settings.includer (below + 1) depth
                  (context.origin source) kind target context.macros).result =
                .ok bottom.macros := by
            rw [includer_of_answers answers, Expansion.result_after,
              run_of_passes nested insideEnds (Nat.le_of_succ_le_succ insideFits)]
          rw [Visit.entries_of_includes? includes spliced, restHypothesis restFits]
          rfl

/-- A visit that succeeds leaves a record, if the visits to included files do. -/
private theorem passes_of_run_of_includer
    {levels depth : Nat}
    (nestedVisits :
      ∀ {below : Nat} {name : String} {macros after : MacroTable} {content : List Char},
        levels = below + 1 →
        ((settings.visit name below (depth + 1)).run
            (.top macros) (Text.lines content)).result = .ok after →
        ∃ visited last,
          Passes settings.resolver name (depth + 1) (.top macros)
              (Text.lines content) visited last ∧
            last.IsEnd true ∧ last.macros = after ∧ visited.height ≤ below)
    {source : String}
    {context : LineContext}
    {lines : List (List Char)}
    {macros : MacroTable}
    (succeeds :
      ((settings.visit source levels depth).run context lines).result = .ok macros) :
    ∃ visited last,
      Passes settings.resolver source depth context lines visited last ∧
        last.IsEnd (depth != 0) ∧ last.macros = macros ∧ visited.height ≤ levels := by
  induction lines generalizing context with
  | nil =>
      obtain ⟨ends, same⟩ := Visit.isEnd_of_finish succeeds
      exact ⟨.done, context, .done, ends, same, Nat.zero_le levels⟩
  | cons line others inductionHypothesis =>
      obtain ⟨next, keeps⟩ | ⟨kind, target, includes⟩ :=
        Visit.advances_or_includes_of_run succeeds
      · rw [Visit.run_of_advance? keeps] at succeeds
        obtain ⟨visited, last, passes, ends, same, fits⟩ := inductionHypothesis succeeds
        exact ⟨.kept context line visited, last,
          .kept (LineContext.includes?_of_advance? keeps) keeps passes,
          ends, same, fits⟩
      · rw [Visit.run_of_includes? includes] at succeeds
        simp only [visit] at succeeds
        cases spliced :
            (settings.includer levels depth
              (context.origin source) kind target context.macros).result with
        | error failure =>
            rw [Expansion.andThen_of_error spliced, spliced] at succeeds
            cases succeeds
        | ok afterInside =>
            rw [Expansion.andThen_of_ok spliced] at succeeds
            obtain ⟨below, included, rfl, answers⟩ := answers_of_includer spliced
            rw [includer_of_answers answers] at spliced
            obtain ⟨inside, bottom, insidePasses, insideEnds, rfl, insideFits⟩ :=
              nestedVisits rfl spliced
            obtain ⟨visited, last, passes, ends, same, fits⟩ :=
              inductionHypothesis succeeds
            exact ⟨_, last, .spliced includes answers insidePasses insideEnds passes,
              ends, same, Nat.max_le.mpr ⟨Nat.succ_le_succ insideFits, fits⟩⟩

/-- A visit that succeeds leaves a record, no higher than the levels. -/
theorem passes_of_run
    {levels depth : Nat}
    {source : String}
    {context : LineContext}
    {lines : List (List Char)}
    {macros : MacroTable}
    (succeeds :
      ((settings.visit source levels depth).run context lines).result = .ok macros) :
    ∃ visited last,
      Passes settings.resolver source depth context lines visited last ∧
        last.IsEnd (depth != 0) ∧ last.macros = macros ∧ visited.height ≤ levels := by
  induction levels generalizing depth source context lines macros with
  | zero =>
      exact passes_of_run_of_includer
        (fun isSucc => absurd isSucc (Nat.zero_ne_add_one _)) succeeds
  | succ levels inductionHypothesis =>
      refine passes_of_run_of_includer (fun isSucc run => ?_) succeeds
      cases isSucc
      exact inductionHypothesis run

/-- The lines of a root source that an expansion comes to, with what it knows at each. -/
def entries
    (settings : ExpansionSettings) (root : String) (content : List Char) :
    List (LineContext × List Char) :=
  (settings.visit root settings.depthLimit 0).entries
    (.top (.ofDefines settings.defines)) (Text.lines content)

/-- The line put before a root source, if there is one. -/
def versionLines (content : List Char) : List ExpandedLine :=
  if hasVersion false (Text.lines content) then [] else [versionLine]

/-- The record of a root source that is expanded to its end. -/
structure Records
    (settings : ExpansionSettings)
    (root : String)
    (content : List Char)
    (visited : VisitedLines)
    (last : LineContext) : Prop where
  passes :
    Passes settings.resolver root 0 (.top (.ofDefines settings.defines))
      (Text.lines content) visited last
  ends : last.IsEnd false
  fits : visited.height ≤ settings.depthLimit

variable {root : String} {content : List Char}

/-- An expansion visits the root source after its preamble. -/
theorem expand_eq_run (settings : ExpansionSettings) (root : String) (content : List Char) :
    settings.expand root content =
      ((settings.visit root settings.depthLimit 0).run
          (.top (.ofDefines settings.defines)) (Text.lines content)).after
        (preamble content ++ [.visit root]) := rfl

theorem versionLines_congr
    {content content' : List Char}
    (sameVersion :
      hasVersion false (Text.lines content') = hasVersion false (Text.lines content)) :
    versionLines content' = versionLines content := by
  unfold versionLines
  rw [sameVersion]

theorem lines_after_preamble (expansion : Expansion) :
    (expansion.after (preamble content ++ [.visit root])).lines =
      versionLines content ++ expansion.lines := by
  unfold Expansion.lines versionLines preamble
  cases hasVersion false (Text.lines content) <;>
    simp [List.filterMap_cons, ExpansionEvent.line?]

theorem requests_after_preamble (expansion : Expansion) :
    (expansion.after (preamble content ++ [.visit root])).requests = expansion.requests := by
  unfold Expansion.requests preamble
  cases hasVersion false (Text.lines content) <;>
    simp [List.filterMap_cons, ExpansionEvent.request?]

/-- A record accounts for everything that the expansion does. -/
theorem Records.expand_eq
    {visited : VisitedLines}
    {last : LineContext}
    (records : settings.Records root content visited last) :
    settings.expand root content =
      ⟨preamble content ++ .visit root :: visited.trace root, .ok last.macros⟩ := by
  rw [expand_eq_run, run_of_passes records.passes records.ends records.fits]
  simp [Expansion.after]

theorem Records.lines_expand
    {visited : VisitedLines}
    {last : LineContext}
    (records : settings.Records root content visited last) :
    (settings.expand root content).lines = versionLines content ++ visited.lines root := by
  rw [records.expand_eq]
  unfold Expansion.lines versionLines preamble
  cases hasVersion false (Text.lines content) <;>
    simp [List.filterMap_cons, ExpansionEvent.line?, VisitedLines.filterMap_line?_trace]

theorem Records.requests_expand
    {visited : VisitedLines}
    {last : LineContext}
    (records : settings.Records root content visited last) :
    (settings.expand root content).requests = visited.requests := by
  rw [records.expand_eq]
  unfold Expansion.requests preamble
  cases hasVersion false (Text.lines content) <;>
    simp [List.filterMap_cons, ExpansionEvent.request?,
      VisitedLines.filterMap_request?_trace]

/-- A recorded expansion comes to every line of the root source. -/
theorem Records.entries_eq
    {visited : VisitedLines}
    {last : LineContext}
    (records : settings.Records root content visited last) :
    settings.entries root content = visited.entries :=
  entries_of_passes records.passes records.fits

/-- A recorded expansion gives a unit. -/
theorem Records.unit_expand
    {visited : VisitedLines}
    {last : LineContext}
    (records : settings.Records root content visited last) :
    ExpandedUnit.expand settings root content =
      .ok ⟨root, versionLines content ++ visited.lines root,
        (settings.expand root content).sources⟩ := by
  rw [← records.lines_expand]
  unfold ExpandedUnit.expand Expansion.unit
  rw [records.expand_eq]

/-- An expansion that gives a unit leaves a record. -/
theorem exists_records
    {unit : ExpandedUnit}
    (succeeds : ExpandedUnit.expand settings root content = .ok unit) :
    ∃ visited last, settings.Records root content visited last := by
  unfold ExpandedUnit.expand Expansion.unit at succeeds
  cases result : (settings.expand root content).result with
  | error failure =>
      simp [result] at succeeds
  | ok macros =>
      rw [expand_eq_run, Expansion.result_after] at result
      obtain ⟨visited, last, passes, ends, -, fits⟩ := passes_of_run result
      exact ⟨visited, last, passes, ends, fits⟩

end ExpansionSettings

end ShaderBuild
