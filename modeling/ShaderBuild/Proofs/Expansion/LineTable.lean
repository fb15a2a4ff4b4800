import Mathlib.Data.List.Basic
import ShaderBuild.Proofs.Expansion.Splicing
import ShaderBuild.Proofs.Expansion.Text
import ShaderBuild.Proofs.LineStarts

namespace ShaderBuild

/-!
# Line tables

An expander that adds lines one after the other does not keep them. It keeps the text,
and in three tables the offset at which each line starts, where each line came from, and
the names of the sources, which origins refer to by index. Offsets are looked up by
halving. Such a table can be kept for every trace, and for the trace of a successful
expansion it knows the same as the unit: no index is out of range, and every answer is
the one that the lines of the unit give.
-/

/-- Where a line came from, by the index of its source. -/
structure IndexedOrigin where
  source : Nat
  line : Nat
  deriving Repr, DecidableEq

/-- What is kept of the lines that were added to a text. -/
structure LineTable where
  /-- Bytes of the text. -/
  size : Nat
  starts : List Nat
  origins : List (Option IndexedOrigin)
  sources : List String
  deriving Repr, DecidableEq

namespace LineTable

/-- The table of an empty text. -/
def empty : LineTable := ⟨0, [], [], []⟩

/-- An origin by the index of its source. -/
def indexed (sources : List String) (origin : Origin) : IndexedOrigin :=
  ⟨sources.idxOf origin.source, origin.line⟩

/-- A name is added to the sources where it is new. -/
def addSource (sources : List String) (name : String) : List String :=
  if name ∈ sources then sources else sources ++ [name]

/-- The table after one more event. -/
def record (table : LineTable) : ExpansionEvent → LineTable
  | .line added =>
      { table with
        size := table.size + ExpandedUnit.lineLength added
        starts := table.starts ++ [table.size]
        origins := table.origins ++ [added.origin.map (indexed table.sources)] }
  | .request _ => table
  | .visit name => { table with sources := addSource table.sources name }

/-- The table that is kept while an expansion does these things. -/
def ofTrace (trace : List ExpansionEvent) : LineTable :=
  trace.foldl record empty

/--
Where the line that holds a byte came from, if it came from a source. There is no answer
at all if the sources are asked for an index out of range.
-/
def locate? (table : LineTable) (offset : Nat) : Option (Option Origin) :=
  if table.size < offset then
    some none
  else
    match ExpandedUnit.countStarts table.starts offset 0 table.starts.length with
    | 0 => some none
    | index + 1 =>
        match table.origins[index]?.join with
        | none => some none
        | some origin =>
            table.sources[origin.source]?.map fun source => some ⟨source, origin.line⟩

/-- The first source, if there is one. -/
def rootName? (table : LineTable) : Option String :=
  table.sources[0]?

/-- A diagnostic for an offset, unless an index is out of range. -/
def diagnosticAt?
    (table : LineTable) (offset : Option Nat) (message : String) : Option Diagnostic := do
  let origin? ← (offset.map table.locate?).getD (some none)
  match origin? with
  | some origin => some ⟨origin.source, some origin.line, message⟩
  | none => table.rootName?.map fun root => ⟨root, none, message⟩

/-! ### Keeping a table -/

/-- A table is what is kept of these lines and these sources. -/
structure Keeps
    (table : LineTable) (lines : List ExpandedLine) (names : List String) : Prop where
  size : table.size = ExpandedUnit.span lines
  starts : table.starts = ExpandedUnit.startsFrom 0 lines
  origins : table.origins = lines.map (·.origin.map (indexed names))
  sources : table.sources = names
  distinct : names.Nodup
  known : ∀ line ∈ lines, ∀ origin ∈ line.origin, origin.source ∈ names

/-- Every line that is added comes from one of these sources or one visited before it. -/
def ComesFrom (sources : List String) : List ExpansionEvent → Prop
  | [] => True
  | .line added :: events =>
      (∀ origin ∈ added.origin, origin.source ∈ sources) ∧ ComesFrom sources events
  | .request _ :: events => ComesFrom sources events
  | .visit name :: events => ComesFrom (name :: sources) events

theorem ComesFrom.mono
    {sources others : List String}
    {events : List ExpansionEvent}
    (comes : ComesFrom sources events)
    (subset : sources ⊆ others) :
    ComesFrom others events := by
  induction events generalizing sources others with
  | nil =>
      trivial
  | cons event events inductionHypothesis =>
      cases event with
      | line added =>
          exact ⟨fun origin isOrigin => subset (comes.1 origin isOrigin),
            inductionHypothesis comes.2 subset⟩
      | request request =>
          exact inductionHypothesis comes subset
      | visit name =>
          exact inductionHypothesis comes (List.cons_subset_cons name subset)

theorem ComesFrom.append
    {sources : List String}
    {first second : List ExpansionEvent}
    (comes : ComesFrom sources first)
    (others : ComesFrom sources second) :
    ComesFrom sources (first ++ second) := by
  induction first generalizing sources with
  | nil =>
      exact others
  | cons event events inductionHypothesis =>
      cases event with
      | line added =>
          exact ⟨comes.1, inductionHypothesis comes.2 others⟩
      | request request =>
          exact inductionHypothesis comes others
      | visit name =>
          exact inductionHypothesis comes (others.mono (List.subset_cons_self name sources))

/-- Names that are added where they are new are those without repetitions. -/
theorem addSource_eraseDups (names : List String) (name : String) :
    addSource names.eraseDups name = (names ++ [name]).eraseDups := by
  rw [addSource, List.eraseDups_append, List.removeAll]
  by_cases isKnown : name ∈ names
  · simp [isKnown]
  · simp [isKnown, List.eraseDups_cons]

theorem nodup_addSource
    {names : List String}
    (distinct : names.Nodup)
    (name : String) :
    (addSource names name).Nodup := by
  unfold addSource
  split
  · exact distinct
  · rename_i isNew
    refine List.nodup_append.mpr ⟨distinct, List.pairwise_singleton _ name, ?_⟩
    rintro known isKnown _ isName rfl
    exact isNew (List.mem_singleton.mp isName ▸ isKnown)

namespace Keeps

variable
  {table : LineTable} {lines : List ExpandedLine} {names : List String}

theorem empty : LineTable.empty.Keeps [] [] where
  size := rfl
  starts := rfl
  origins := rfl
  sources := rfl
  distinct := .nil
  known := by simp

/-- One more line is kept at the end of the text. -/
theorem record_line
    (keeps : table.Keeps lines names)
    {added : ExpandedLine}
    (comes : ∀ origin ∈ added.origin, origin.source ∈ names) :
    (table.record (.line added)).Keeps (lines ++ [added]) names where
  size := by
    simp only [record, keeps.size, ExpandedUnit.span_append, ExpandedUnit.span_cons,
      ExpandedUnit.span_nil, Nat.add_zero]
  starts := by
    rw [ExpandedUnit.startsFrom_around, ← keeps.starts, ← keeps.size]
    rfl
  origins := by
    simp only [record, keeps.origins, keeps.sources, List.map_append, List.map_cons,
      List.map_nil]
  sources := keeps.sources
  distinct := keeps.distinct
  known line member := by
    rcases List.mem_append.mp member with before | isAdded
    · exact keeps.known line before
    · rw [List.mem_singleton.mp isAdded]
      exact comes

/-- Origins refer to the same sources after one more source. -/
theorem record_visit (keeps : table.Keeps lines names) (name : String) :
    (table.record (.visit name)).Keeps lines (addSource names name) := by
  have grows (source : String) (isKnown : source ∈ names) :
      (addSource names name).idxOf source = names.idxOf source ∧
        source ∈ addSource names name := by
    unfold addSource
    split
    · exact ⟨rfl, isKnown⟩
    · exact ⟨List.idxOf_append_of_mem isKnown, List.mem_append_left _ isKnown⟩
  constructor
  · exact keeps.size
  · exact keeps.starts
  · refine keeps.origins.trans (List.map_congr_left fun line member => ?_)
    refine Option.map_congr fun origin isOrigin => ?_
    rw [indexed, indexed, (grows _ (keeps.known line member origin isOrigin)).1]
  · exact congrArg (addSource · name) keeps.sources
  · exact nodup_addSource keeps.distinct name
  · exact fun line member origin isOrigin =>
      (grows _ (keeps.known line member origin isOrigin)).2

/-- A table is kept all along a trace. -/
theorem foldl_record
    {trace : List ExpansionEvent}
    (keeps : table.Keeps lines names.eraseDups)
    (comes : ComesFrom names trace) :
    (trace.foldl record table).Keeps
      (lines ++ trace.filterMap ExpansionEvent.line?)
      (names ++ trace.filterMap ExpansionEvent.source?).eraseDups := by
  induction trace generalizing table lines names with
  | nil =>
      simpa using keeps
  | cons event events inductionHypothesis =>
      cases event with
      | line added =>
          have known : ∀ origin ∈ added.origin, origin.source ∈ names.eraseDups :=
            fun origin isOrigin => List.mem_eraseDups.mpr (comes.1 origin isOrigin)
          simpa [List.filterMap_cons, ExpansionEvent.line?, ExpansionEvent.source?] using
            inductionHypothesis (keeps.record_line known) comes.2
      | request request =>
          exact inductionHypothesis keeps comes
      | visit name =>
          -- New names are kept at the end, while `ComesFrom` collects them at the front.
          have added := keeps.record_visit name
          rw [addSource_eraseDups] at added
          have others : ComesFrom (name :: names) events := comes
          have moved : ComesFrom (names ++ [name]) events :=
            others.mono (List.perm_append_singleton name names).symm.subset
          simpa [List.filterMap_cons, ExpansionEvent.line?, ExpansionEvent.source?] using
            inductionHypothesis added moved

end Keeps

/-- A visit adds lines of its own source and of sources that it visits. -/
theorem comesFrom_trace
    {sources : List String}
    {source : String}
    (visited : VisitedLines)
    (isKnown : source ∈ sources) :
    ComesFrom sources (visited.trace source) := by
  induction visited generalizing sources source with
  | done =>
      trivial
  | kept context line others inductionHypothesis =>
      refine ⟨?_, inductionHypothesis isKnown⟩
      rintro _ ⟨⟩
      exact isKnown
  | spliced context line request included inside others insideHypothesis othersHypothesis =>
      have closes :
          ComesFrom (included.name :: sources)
            ((VisitedLines.closing source context line).map .line) := by
        unfold VisitedLines.closing
        split
        · refine ⟨?_, trivial⟩
          rintro _ ⟨⟩
          exact List.mem_cons_of_mem _ isKnown
        · trivial
      exact (insideHypothesis List.mem_cons_self).append
        (closes.append (othersHypothesis (List.mem_cons_of_mem _ isKnown)))

/-- The table of a recorded expansion is kept of the lines and sources of its unit. -/
theorem keeps_of_records
    {settings : ExpansionSettings}
    {root : String}
    {content : List Char}
    {visited : VisitedLines}
    {last : LineContext}
    (records : settings.Records root content visited last) :
    (ofTrace (settings.expand root content).trace).Keeps
      (settings.expand root content).lines (settings.expand root content).sources := by
  have starts : ComesFrom [] (ExpansionSettings.preamble content) := by
    unfold ExpansionSettings.preamble
    split
    · trivial
    · exact ⟨nofun, trivial⟩
  have comes : ComesFrom [] (settings.expand root content).trace := by
    rw [records.expand_eq]
    exact starts.append (comesFrom_trace visited List.mem_cons_self)
  exact Keeps.empty.foldl_record comes

/-! ### Looking up offsets -/

namespace Keeps

variable
  {table : LineTable} {unit : ExpandedUnit}

/-- Every offset is located as the lines of the unit say, without an index out of range. -/
theorem locate?_eq
    (keeps : table.Keeps unit.lines unit.sources)
    (offset : Nat) :
    table.locate? offset = some (unit.locate offset) := by
  unfold locate?
  rw [keeps.size]
  cases found : ExpandedUnit.lineAt? offset unit.lines with
  | none =>
      have nowhere : unit.locate offset = none := by
        rw [ExpandedUnit.locate, found, Option.bind_none]
      rw [nowhere]
      rcases ExpandedUnit.lineAt?_eq_none_iff.mp found with isEmpty | beyond
      · have noStart : table.starts = [] := by
          rw [keeps.starts, isEmpty]
          rfl
        have noCount : ExpandedUnit.countStarts [] offset 0 0 = 0 := by
          rw [ExpandedUnit.countStarts, if_neg (Nat.lt_irrefl 0)]
        simp only [noStart, List.length_nil, noCount, ite_self]
      · rw [if_pos beyond]
  | some line =>
      have place : unit.locate offset = line.origin := by
        rw [ExpandedUnit.locate, found, Option.bind_some]
      obtain ⟨before, after, isSplit, startsUpTo, ends⟩ :=
        ExpandedUnit.lineAt?_eq_some_iff.mp found
      have inside : ¬ ExpandedUnit.span unit.lines < offset := by
        rw [isSplit, ExpandedUnit.span_append, ExpandedUnit.span_cons]
        omega
      -- As many starts are counted as there are lines before this one, and its own.
      have counts :
          ExpandedUnit.countStarts table.starts offset 0 table.starts.length =
            before.length + 1 := by
        rw [keeps.starts, isSplit]
        exact ExpandedUnit.countStarts_of_holdsOffset startsUpTo (ends.imp_right And.left)
      have isOrigin :
          table.origins[before.length]? = some (line.origin.map (indexed unit.sources)) := by
        rw [keeps.origins, isSplit, List.map_append, List.map_cons,
          List.getElem?_append_right (by simp), List.length_map, Nat.sub_self,
          List.getElem?_cons_zero]
      rw [if_neg inside, place]
      simp only [counts, isOrigin, Option.join_some]
      cases written : line.origin with
      | none =>
          rfl
      | some origin =>
          have isLine : line ∈ unit.lines :=
            isSplit ▸ List.mem_append_right _ List.mem_cons_self
          have isKnown := keeps.known line isLine origin written
          simp only [Option.map_some, indexed, keeps.sources, List.getElem?_idxOf isKnown]

/-- Problems are reported as the unit reports them, if its root is its first source. -/
theorem diagnosticAt?_eq
    (keeps : table.Keeps unit.lines unit.sources)
    (rootFirst : unit.sources[0]? = some unit.root)
    (offset : Option Nat)
    (message : String) :
    table.diagnosticAt? offset message = some (unit.diagnosticAt offset message) := by
  have root : table.rootName? = some unit.root := by
    rw [rootName?, keeps.sources, rootFirst]
  have located :
      (offset.map table.locate?).getD (some none) = some (offset.bind unit.locate) := by
    cases offset with
    | none =>
        rfl
    | some offset =>
        exact keeps.locate?_eq offset
  unfold diagnosticAt? ExpandedUnit.diagnosticAt
  rw [located, Option.bind_eq_bind, Option.bind_some, root]
  cases offset.bind unit.locate <;> rfl

end Keeps

/-- A table knows what a unit knows, and no index in it is out of range. -/
structure IsExact (table : LineTable) (unit : ExpandedUnit) : Prop where
  starts : table.starts = unit.lineStarts
  sources : table.sources = unit.sources
  firstStart : table.starts.head? = some 0
  increases : table.starts.Pairwise (· < ·)
  /-- A line starts behind each line feed that does not end the text. -/
  isStart_iff :
    ∀ position,
      position ∈ table.starts ↔
        position = 0 ∨
          ∃ before after,
            unit.text = before ++ '\n' :: after ∧
              after ≠ [] ∧ position = Text.byteLength (before ++ ['\n'])
  length_origins : table.origins.length = table.starts.length
  inside : ∀ origin, some origin ∈ table.origins → origin.source < table.sources.length
  distinct : table.sources.Nodup
  locate : ∀ offset, table.locate? offset = some (unit.locate offset)
  rootName : table.rootName? = some unit.root
  diagnosticAt :
    ∀ offset message,
      table.diagnosticAt? offset message = some (unit.diagnosticAt offset message)

/-- A table that is kept of a unit is exact. -/
theorem Keeps.isExact
    {table : LineTable}
    {unit : ExpandedUnit}
    (keeps : table.Keeps unit.lines unit.sources)
    (nonempty : unit.lines ≠ [])
    (noFeeds : ∀ text ∈ unit.lines.map (·.text), '\n' ∉ text)
    (rootFirst : unit.sources[0]? = some unit.root) :
    table.IsExact unit where
  starts := keeps.starts
  sources := keeps.sources
  firstStart := by
    obtain ⟨first, others, isLines⟩ := List.exists_cons_of_ne_nil nonempty
    rw [keeps.starts, isLines]
    rfl
  increases := keeps.starts ▸ ExpandedUnit.startsFrom_increases 0 unit.lines
  isStart_iff position := by
    simp only [keeps.starts, ExpandedUnit.mem_startsFrom_iff, Nat.zero_add]
    exact ExpandedUnit.exists_start_iff nonempty noFeeds
  length_origins := by
    rw [keeps.origins, keeps.starts, List.length_map, ExpandedUnit.length_startsFrom]
  inside origin member := by
    rw [keeps.origins, List.mem_map] at member
    obtain ⟨line, isLine, isOrigin⟩ := member
    obtain ⟨written, isWritten, rfl⟩ := Option.map_eq_some_iff.mp isOrigin
    rw [keeps.sources]
    exact List.idxOf_lt_length_iff.mpr (keeps.known line isLine written isWritten)
  distinct := keeps.sources ▸ keeps.distinct
  locate := keeps.locate?_eq
  rootName := by
    rw [rootName?, keeps.sources, rootFirst]
  diagnosticAt := keeps.diagnosticAt?_eq rootFirst

end LineTable

namespace VisitedLines

/-- The files that took the place of lines are those of the requests, in order. -/
theorem requests_eq (visited : VisitedLines) :
    visited.requests = visited.splices.map (·.request) := by
  induction visited with
  | done =>
      rfl
  | kept context line others inductionHypothesis =>
      exact inductionHypothesis
  | spliced context line request included inside others insideHypothesis othersHypothesis =>
      rw [requests, splices, insideHypothesis, othersHypothesis, List.map_cons, List.map_append]

theorem filterMap_source?_trace (source : String) (visited : VisitedLines) :
    (visited.trace source).filterMap ExpansionEvent.source? =
      visited.splices.map (·.included.name) := by
  induction visited generalizing source with
  | done =>
      rfl
  | kept context line others inductionHypothesis =>
      exact inductionHypothesis source
  | spliced context line request included inside others insideHypothesis othersHypothesis =>
      simp [trace, splices, List.filterMap_cons, ExpansionEvent.source?,
        List.filterMap_map, Function.comp_def, insideHypothesis, othersHypothesis]

/-- Every line that a visit adds stands in a source. -/
theorem isSome_origin_of_mem_lines
    {source : String}
    {visited : VisitedLines}
    {line : ExpandedLine}
    (member : line ∈ visited.lines source) :
    line.origin.isSome = true := by
  induction visited generalizing source with
  | done =>
      cases member
  | kept context text others inductionHypothesis =>
      rcases List.mem_cons.mp member with rfl | isLater
      · rfl
      · exact inductionHypothesis isLater
  | spliced context text request included inside others insideHypothesis othersHypothesis =>
      rw [lines, List.mem_append, List.mem_append] at member
      rcases member with (isInside | isClosing) | isLater
      · exact insideHypothesis isInside
      · unfold closing at isClosing
        split at isClosing
        · rw [List.mem_singleton.mp isClosing]
          rfl
        · cases isClosing
      · exact othersHypothesis isLater

end VisitedLines

namespace ExpansionSettings.Records

variable
  {settings : ExpansionSettings} {root : String} {content : List Char}
  {visited : VisitedLines} {last : LineContext}

/-- The sources of an expansion are the root and the files that lines were replaced by. -/
theorem sources_expand (records : settings.Records root content visited last) :
    (settings.expand root content).sources =
      (root :: visited.splices.map (·.included.name)).eraseDups := by
  rw [Expansion.sources, records.expand_eq, ← visited.filterMap_source?_trace root]
  unfold preamble
  cases ExpansionSettings.hasVersion false (Text.lines content) <;> rfl

/-- There is always a line, if only with a `#version` directive. -/
theorem texts_ne_nil (records : settings.Records root content visited last) :
    texts content visited ≠ [] := by
  unfold texts versionLines
  cases version : ExpansionSettings.hasVersion false (Text.lines content) with
  | false =>
      exact List.cons_ne_nil _ _
  | true =>
      have inTexts := hasVersion_texts records.passes version
      intro isEmpty
      rw [if_pos rfl, List.map_nil, List.nil_append] at isEmpty
      rw [isEmpty] at inTexts
      cases inTexts

theorem lines_ne_nil
    (records : settings.Records root content visited last)
    {unit : ExpandedUnit}
    (succeeds : ExpandedUnit.expand settings root content = .ok unit) :
    unit.lines ≠ [] :=
  fun isEmpty =>
    records.texts_ne_nil ((records.texts_of_expand succeeds).symm.trans (by rw [isEmpty]; rfl))

theorem lineTable_isExact
    (records : settings.Records root content visited last)
    {unit : ExpandedUnit}
    (succeeds : ExpandedUnit.expand settings root content = .ok unit) :
    (LineTable.ofTrace (settings.expand root content).trace).IsExact unit := by
  have texts := records.texts_of_expand succeeds
  have nonempty := records.lines_ne_nil succeeds
  have keeps := LineTable.keeps_of_records records
  rw [records.unit_expand, Except.ok.injEq, ← records.lines_expand] at succeeds
  subst succeeds
  refine keeps.isExact nonempty (texts ▸ records.lineFeed_notMem) ?_
  rw [records.sources_expand, List.eraseDups_cons]
  rfl

end ExpansionSettings.Records

/--
The table that an expansion keeps is exact. The text of the unit ends in a line feed; its
sources are the root and what the resolver answered, in the order of the first requests;
and every line but one put before the root source comes from a source. Each offset up to
the end of the text is located at the line that holds it, and none beyond it is located.
-/
theorem expand_lineTable
    {settings : ExpansionSettings}
    {root : String}
    {content : List Char}
    {unit : ExpandedUnit}
    (succeeds : ExpandedUnit.expand settings root content = .ok unit) :
    (LineTable.ofTrace (settings.expand root content).trace).IsExact unit ∧
      (∃ before, unit.text = before ++ ['\n']) ∧
        (∃ answered : List (IncludeRequest × IncludedSource),
          (settings.expand root content).requests = answered.map (·.1) ∧
            (∀ answer ∈ answered, Answers settings.resolver answer.1 answer.2) ∧
              unit.sources = (root :: answered.map (·.2.name)).eraseDups) ∧
          (∃ written,
            unit.lines = ExpansionSettings.versionLines content ++ written ∧
              ∀ line ∈ written, line.origin.isSome = true) ∧
            (∀ offset ≤ Text.byteLength unit.text,
              ∃ line,
                ExpandedUnit.HoldsOffset unit.lines offset line ∧
                  unit.locate offset = line.origin) ∧
              ∀ offset, Text.byteLength unit.text < offset → unit.locate offset = none := by
  obtain ⟨visited, last, records⟩ := ExpansionSettings.exists_records succeeds
  have texts := records.texts_of_expand succeeds
  have isUnit := succeeds
  rw [records.unit_expand, Except.ok.injEq] at isUnit
  refine ⟨records.lineTable_isExact succeeds, ?_, ?_, ?_, ?_, ?_⟩
  · rw [ExpandedUnit.text, texts]
    exact Text.exists_unlines_eq records.texts_ne_nil
  · refine ⟨visited.splices.map fun splice => (splice.request, splice.included), ?_, ?_, ?_⟩
    · rw [records.requests_expand, visited.requests_eq, List.map_map]
      rfl
    · intro answer member
      obtain ⟨splice, isSplice, rfl⟩ := List.mem_map.mp member
      exact (records.passes.splices_answered splice isSplice).1
    · rw [← isUnit, records.sources_expand, List.map_map]
      rfl
  · exact ⟨visited.lines root, isUnit ▸ rfl,
      fun line => VisitedLines.isSome_origin_of_mem_lines⟩
  · intro offset inside
    cases found : ExpandedUnit.lineAt? offset unit.lines with
    | none =>
        have beyond :=
          (ExpandedUnit.lineAt?_eq_none_iff.mp found).resolve_left (records.lines_ne_nil succeeds)
        exact absurd inside (Nat.not_le_of_lt beyond)
    | some line =>
        refine ⟨line, ExpandedUnit.lineAt?_eq_some_iff.mp found, ?_⟩
        rw [ExpandedUnit.locate, found, Option.bind_some]
  · intro offset beyond
    rw [ExpandedUnit.locate, ExpandedUnit.lineAt?_eq_none_iff.mpr (.inr beyond),
      Option.bind_none]

/-- An empty file, one that is included twice, and a character of two bytes. -/
theorem expand_lineTable_included_twice :
    let settings : ExpansionSettings :=
      ⟨some (SourceCollection.ofList [("a", "// \u00e9\n".toList), ("b", [])]).resolver, 4, []⟩
    let content := "#include \"a\"\n#include \"b\"\n\n#include \"a\"".toList
    let unit : ExpandedUnit :=
      { root := "main"
        lines :=
          [⟨"#version 450".toList, none⟩,
            ⟨"// \u00e9".toList, some ⟨"a", 1⟩⟩,
            ⟨[], some ⟨"main", 3⟩⟩,
            ⟨"// \u00e9".toList, some ⟨"a", 1⟩⟩]
        sources := ["main", "a", "b"] }
    ExpandedUnit.expand settings "main" content = .ok unit ∧
      LineTable.ofTrace (settings.expand "main" content).trace =
          { size := 26
            starts := [0, 13, 19, 20]
            origins := [none, some ⟨1, 1⟩, some ⟨0, 3⟩, some ⟨1, 1⟩]
            sources := ["main", "a", "b"] } ∧
        (LineTable.ofTrace (settings.expand "main" content).trace).IsExact unit := by
  intro settings content unit
  have succeeds : ExpandedUnit.expand settings "main" content = .ok unit := by
    decide +kernel
  exact ⟨succeeds, by decide +kernel, (expand_lineTable succeeds).1⟩

end ShaderBuild
