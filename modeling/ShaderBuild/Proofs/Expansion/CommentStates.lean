import ShaderBuild.Proofs.Expansion.Segments
import ShaderBuild.Proofs.Expansion.Splicing
import ShaderBuild.Proofs.TrailingReturn

namespace ShaderBuild

/-!
# Comments of sources and of their expanded text

Each source is scanned for comments on its own, while a compiler scans the expanded
text from its top. Both scans are in a comment at the same lines: what a line of the
expanded text starts and ends in is what the line of the source that it stands for
starts and ends in. Where a file takes the place of an include that opens a comment,
the line behind the file stands for the include.
-/

namespace Comment

/-- For each of some lines, whether a block comment is open before it and after it. -/
def crossings (inside : Bool) : List (List Char) → List (Bool × Bool)
  | [] => []
  | line :: others =>
      (inside, isOpenAfter inside line) :: crossings (isOpenAfter inside line) others

theorem crossings_append (inside : Bool) (first second : List (List Char)) :
    crossings inside (first ++ second) =
      crossings inside first ++ crossings (isOpenAfterAll inside first) second := by
  induction first generalizing inside with
  | nil =>
      rfl
  | cons line others inductionHypothesis =>
      simp [crossings, inductionHypothesis]

theorem length_crossings (inside : Bool) (lines : List (List Char)) :
    (crossings inside lines).length = lines.length := by
  induction lines generalizing inside with
  | nil =>
      rfl
  | cons line others inductionHypothesis =>
      simp [crossings, inductionHypothesis]

/-- A line between others is crossed in the state that the lines before it leave. -/
theorem getElem?_crossings
    (inside : Bool)
    (first : List (List Char))
    (line : List Char)
    (second : List (List Char)) :
    (crossings inside (first ++ line :: second))[first.length]? =
      some (isOpenAfterAll inside first,
        isOpenAfter (isOpenAfterAll inside first) line) := by
  have atEnd : (crossings inside first).length ≤ first.length :=
    Nat.le_of_eq (length_crossings inside first)
  rw [crossings_append, List.getElem?_append_right atEnd, length_crossings, Nat.sub_self]
  rfl

theorem isOpenAfter_dropReturn (inside : Bool) (line : List Char) :
    isOpenAfter inside (Text.dropReturn line) = isOpenAfter inside line :=
  (scan_dropsReturn _ (Text.dropsReturn_dropReturn line)).2.symm

theorem crossings_map_dropReturn (inside : Bool) (lines : List (List Char)) :
    crossings inside (lines.map Text.dropReturn) = crossings inside lines := by
  induction lines generalizing inside with
  | nil =>
      rfl
  | cons line others inductionHypothesis =>
      simp [crossings, isOpenAfter_dropReturn, inductionHypothesis]

end Comment

/-! ### Lines and what they stand for -/

/-- A line of expanded text, and the line of a visited source that it stands for. -/
structure PlacedLine where
  added : ExpandedLine
  /-- Name and text of the source. -/
  source : String
  content : List Char
  /-- Position of the line in the source, from 1. -/
  position : Nat

/-- The comments that are open around the line in a scan of its own source. -/
def PlacedLine.crossing? (placed : PlacedLine) : Option (Bool × Bool) :=
  (Comment.crossings false (Text.lines placed.content))[placed.position - 1]?

/-- The lines that a visit adds, with what they stand for. -/
def VisitedLines.placements
    (source : String) (content : List Char) :
    VisitedLines → List PlacedLine
  | .done => []
  | .kept context line others =>
      ⟨⟨context.keptText line, some (context.origin source)⟩,
          source, content, context.position⟩ ::
        others.placements source content
  | .spliced context line _ included inside others =>
      inside.placements included.name included.content ++
        (closing source context line).map (⟨·, source, content, context.position⟩) ++
        others.placements source content

theorem VisitedLines.map_added_placements
    (visited : VisitedLines) (source : String) (content : List Char) :
    (visited.placements source content).map (·.added) = visited.lines source := by
  induction visited generalizing source content with
  | done =>
      rfl
  | kept context line others inductionHypothesis =>
      simp [placements, lines, inductionHypothesis]
  | spliced context line request included inside others insideHypothesis othersHypothesis =>
      simp [placements, lines, Function.comp_def, insideHypothesis, othersHypothesis]

/-- The origin of an added line is the line that it stands for. -/
theorem VisitedLines.origin_of_mem_placements
    {visited : VisitedLines}
    {source : String}
    {content : List Char}
    {placed : PlacedLine}
    (member : placed ∈ visited.placements source content) :
    placed.added.origin = some ⟨placed.source, lineNumber placed.position⟩ := by
  induction visited generalizing source content with
  | done =>
      cases member
  | kept context line others inductionHypothesis =>
      rcases List.mem_cons.mp member with rfl | isOther
      · rfl
      · exact inductionHypothesis isOther
  | spliced context line request included inside others insideHypothesis othersHypothesis =>
      rw [placements, List.mem_append, List.mem_append] at member
      rcases member with (isInside | isClosing) | isOther
      · exact insideHypothesis isInside
      · obtain ⟨added, isAdded, rfl⟩ := List.mem_map.mp isClosing
        unfold closing at isAdded
        split at isAdded
        · rw [List.mem_singleton.mp isAdded]
          rfl
        · cases isAdded
      · exact othersHypothesis isOther

/-! ### Visits -/

/-- A visit to a source stands at the first of the lines that are left of it. -/
structure LineContext.StandsIn
    (context : LineContext) (content : List Char) (left : List (List Char)) : Prop where
  exists_past :
    ∃ past,
      Text.lines content = past ++ left ∧
        context.position = past.length + 1 ∧
          Comment.isOpenAfterAll false past = context.inComment

namespace LineContext.StandsIn

variable
  {context : LineContext} {content line : List Char} {others : List (List Char)}

theorem top (macros : MacroTable) (content : List Char) :
    (LineContext.top macros).StandsIn content (Text.lines content) :=
  ⟨[], rfl, rfl, rfl⟩

theorem next
    {next : LineContext}
    (stands : context.StandsIn content (line :: others))
    (position : next.position = context.position + 1)
    (inComment : next.inComment = context.commentAfter line) :
    next.StandsIn content others := by
  obtain ⟨past, isContent, isPosition, isState⟩ := stands
  refine ⟨past ++ [line], ?_, ?_, ?_⟩
  · rw [isContent, List.append_assoc]
    rfl
  · rw [position, isPosition, List.length_append]
    rfl
  · rw [Comment.isOpenAfterAll_append, isState, inComment]
    rfl

/-- The visit knows in which comments a scan of the source crosses the line. -/
theorem crossing
    (stands : context.StandsIn content (line :: others))
    (added : ExpandedLine)
    (source : String) :
    PlacedLine.crossing? ⟨added, source, content, context.position⟩ =
      some (context.inComment, context.commentAfter line) := by
  obtain ⟨past, isContent, isPosition, isState⟩ := stands
  rw [PlacedLine.crossing?, isContent, isPosition, Nat.add_sub_cancel,
    Comment.getElem?_crossings, isState]
  rfl

end LineContext.StandsIn

namespace Passes

variable
  {resolver : Option Resolver} {source : String} {depth : Nat}
  {context last : LineContext} {lines : List (List Char)} {visited : VisitedLines}

/-- Every added line stands for a line of the source or of one that a request brought. -/
theorem known_of_mem_placements
    {content : List Char}
    {placed : PlacedLine}
    (passes : Passes resolver source depth context lines visited last)
    (member : placed ∈ visited.placements source content) :
    (placed.source = source ∧ placed.content = content) ∨
      ∃ request, Answers resolver request ⟨placed.source, placed.content⟩ := by
  induction passes generalizing content with
  | done =>
      cases member
  | kept single keeps rest inductionHypothesis =>
      rcases List.mem_cons.mp member with rfl | isOther
      · exact .inl ⟨rfl, rfl⟩
      · exact inductionHypothesis isOther
  | spliced includes answers nested ends rest insideHypothesis restHypothesis =>
      rw [VisitedLines.placements, List.mem_append, List.mem_append] at member
      rcases member with (isInside | isClosing) | isOther
      · rcases insideHypothesis isInside with ⟨sameName, sameContent⟩ | known
        · right
          rw [sameName, sameContent]
          exact ⟨_, answers⟩
        · exact .inr known
      · obtain ⟨added, -, rfl⟩ := List.mem_map.mp isClosing
        exact .inl ⟨rfl, rfl⟩
      · exact restHypothesis isOther

/--
The added text is crossed as the sources are. Included text is scanned from its top
in both scans, as its include stands outside comments and it leaves none open.
-/
theorem crossings_texts
    {content : List Char}
    (passes : Passes resolver source depth context lines visited last)
    (stands : context.StandsIn content lines) :
    (Comment.crossings context.inComment visited.texts).map some =
      (visited.placements source content).map PlacedLine.crossing? := by
  induction passes generalizing content with
  | done =>
      rfl
  | kept single keeps rest inductionHypothesis =>
      have sameNext := LineContext.inComment_of_advance? keeps
      have goesOn :=
        inductionHypothesis
          (stands.next (LineContext.position_of_advance? keeps) sameNext)
      rw [VisitedLines.texts, VisitedLines.placements, Comment.crossings,
        LineContext.isOpenAfter_keptText keeps, List.map_cons, List.map_cons,
        stands.crossing, ← goesOn, sameNext]
  | @spliced source depth context bottom last line others kind target included inside
      visited includes answers nested ends rest insideHypothesis restHypothesis =>
      have outside : context.inComment = false :=
        LineContext.inComment_of_directive? (LineContext.directive?_of_includes? includes).1
      have insideCrossings := insideHypothesis (.top context.macros included.content)
      have insideEnds : Comment.isOpenAfterAll false inside.texts = false :=
        nested.isOpenAfterAll_texts.trans (ends.outside rfl)
      have goesOn := restHypothesis (stands.next rfl rfl)
      -- The closing line is there only if the include's line opens a comment.
      have closingCrossings :
          (Comment.crossings false
              (VisitedLines.closingText (context.commentAfter line))).map some =
            ((VisitedLines.closing source context line).map
              (⟨·, source, content, context.position⟩)).map PlacedLine.crossing? := by
        unfold VisitedLines.closing VisitedLines.closingText
        cases opens : context.commentAfter line with
        | false =>
            rfl
        | true =>
            simp only [if_true, List.map_cons, List.map_nil, stands.crossing, outside, opens]
            rfl
      rw [VisitedLines.texts, VisitedLines.placements, Comment.crossings_append,
        Comment.crossings_append, Comment.isOpenAfterAll_append, outside, insideEnds,
        VisitedLines.isOpenAfterAll_closingText]
      simp only [List.map_append]
      rw [closingCrossings, ← goesOn]
      exact congrArg (· ++ _ ++ _) insideCrossings

/-- No file that takes the place of an include leaves a comment open. -/
theorem isOpenAfterAll_splices
    (passes : Passes resolver source depth context lines visited last) :
    ∀ splice ∈ visited.splices,
      Comment.isOpenAfterAll false (Text.lines splice.included.content) = false := by
  induction passes with
  | done =>
      intro splice member
      cases member
  | kept single keeps rest inductionHypothesis =>
      exact inductionHypothesis
  | spliced includes answers nested ends rest insideHypothesis restHypothesis =>
      intro splice member
      rcases List.mem_cons.mp member with rfl | isBelow
      · exact nested.isOpenAfterAll_lines.trans (ends.outside rfl)
      · rcases List.mem_append.mp isBelow with isInside | isAfter
        · exact insideHypothesis splice isInside
        · exact restHypothesis splice isAfter

end Passes

theorem ExpansionSettings.crossings_versionLines (content : List Char) :
    Comment.crossings false ((versionLines content).map (·.text)) =
      (versionLines content).map fun _ => (false, false) := by
  unfold versionLines
  split
  · rfl
  · decide +kernel

/--
A scan of the expanded text crosses every line in the comments in which a scan of the
visited source crosses the line that it stands for. The line before the root source
is in none, and no included file leaves one open.
-/
theorem expand_follows_comments
    {settings : ExpansionSettings}
    {root : String}
    {content : List Char}
    {unit : ExpandedUnit}
    (succeeds : ExpandedUnit.expand settings root content = .ok unit) :
    ∃ visited last,
      settings.Records root content visited last ∧
        unit.lines =
            ExpansionSettings.versionLines content ++
              (visited.placements root content).map (·.added) ∧
          (Comment.crossings false (Text.lines unit.text)).map some =
              (ExpansionSettings.versionLines content).map (fun _ => some (false, false)) ++
                (visited.placements root content).map PlacedLine.crossing? ∧
            (∀ placed ∈ visited.placements root content,
              placed.added.origin = some ⟨placed.source, lineNumber placed.position⟩ ∧
                ((placed.source = root ∧ placed.content = content) ∨
                  ∃ request,
                    Answers settings.resolver request ⟨placed.source, placed.content⟩)) ∧
              ∀ splice ∈ visited.splices,
                Comment.isOpenAfterAll false (Text.lines splice.included.content) =
                  false := by
  obtain ⟨visited, last, records⟩ := ExpansionSettings.exists_records succeeds
  have texts := records.lines_text succeeds
  rw [records.unit_expand] at succeeds
  cases succeeds
  refine ⟨visited, last, records, ?_, ?_, fun placed member => ⟨?_, ?_⟩,
    records.passes.isOpenAfterAll_splices⟩
  · rw [VisitedLines.map_added_placements]
  · have outside :
        Comment.isOpenAfterAll false
            ((ExpansionSettings.versionLines content).map (·.text)) = false := by
      unfold ExpansionSettings.versionLines
      split
      · rfl
      · decide +kernel
    have visitedCrossings :
        (Comment.crossings false visited.texts).map some = _ :=
      records.passes.crossings_texts (.top _ content)
    rw [texts, Comment.crossings_map_dropReturn, ExpansionSettings.Records.texts,
      Comment.crossings_append, outside, List.map_append, visitedCrossings,
      ExpansionSettings.crossings_versionLines, List.map_map]
    rfl
  · exact VisitedLines.origin_of_mem_placements member
  · exact records.passes.known_of_mem_placements member

/-- Comments over several lines of both sources, and comment marks in a file's name. -/
theorem expand_follows_comments_quoted_marks :
    let settings : ExpansionSettings :=
      ⟨some (SourceCollection.ofList
        [("a/*b", "/* c\nd */ float e; // /*".toList)]).resolver, 4, []⟩
    let content := "#include \"a/*b\" /* f\n*/ float g; /*\n*/".toList
    let unit : ExpandedUnit :=
      { root := "main"
        lines :=
          [⟨"#version 450".toList, none⟩,
            ⟨"/* c".toList, some ⟨"a/*b", 1⟩⟩,
            ⟨"d */ float e; // /*".toList, some ⟨"a/*b", 2⟩⟩,
            ⟨"/*".toList, some ⟨"main", 1⟩⟩,
            ⟨"*/ float g; /*".toList, some ⟨"main", 2⟩⟩,
            ⟨"*/".toList, some ⟨"main", 3⟩⟩]
        sources := ["main", "a/*b"] }
    ExpandedUnit.expand settings "main" content = .ok unit ∧
      Comment.crossings false (Text.lines unit.text) =
          [(false, false), (false, true), (true, false), (false, true), (true, true),
            (true, false)] ∧
        ∃ visited last,
          settings.Records "main" content visited last ∧
            (Comment.crossings false (Text.lines unit.text)).map some =
              some (false, false) ::
                (visited.placements "main" content).map PlacedLine.crossing? := by
  intro settings content unit
  have succeeds : ExpandedUnit.expand settings "main" content = .ok unit := by
    decide +kernel
  obtain ⟨visited, last, records, -, crossings, -⟩ := expand_follows_comments succeeds
  exact ⟨succeeds, by decide +kernel, visited, last, records, crossings⟩

end ShaderBuild
