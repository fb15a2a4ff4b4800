import ShaderBuild.Proofs.Expansion.Passage
import ShaderBuild.Proofs.Text.Lines

namespace ShaderBuild

/-!
# The texts of expanded lines

Included files change neither where the comments of a source end nor whether it has
a `#version` directive. A block comment that an include's line opens is opened
behind the file, and a file leaves no comment open.
-/

/-- Whether a block comment is open after some lines. -/
def Comment.isOpenAfterAll (inside : Bool) (lines : List (List Char)) : Bool :=
  lines.foldl isOpenAfter inside

namespace Comment

@[simp] theorem isOpenAfterAll_cons
    (inside : Bool) (line : List Char) (others : List (List Char)) :
    isOpenAfterAll inside (line :: others) =
      isOpenAfterAll (isOpenAfter inside line) others := rfl

@[simp] theorem isOpenAfterAll_append
    (inside : Bool) (first second : List (List Char)) :
    isOpenAfterAll inside (first ++ second) =
      isOpenAfterAll (isOpenAfterAll inside first) second :=
  List.foldl_append

/-- Outside comments, a placeholder opens the comment that it stands for. -/
@[simp] theorem isOpenAfter_placeholder (opens : Bool) :
    isOpenAfter false (placeholder opens) = opens := by
  cases opens <;> decide

theorem lineFeed_notMem_placeholder (opens : Bool) : '\n' ∉ placeholder opens := by
  cases opens <;> decide

end Comment

namespace LineContext

theorem inComment_of_directive?
    {context : LineContext}
    {line : List Char}
    {directive : Directive}
    (holds : context.directive? line = some directive) :
    context.inComment = false := by
  unfold directive? at holds
  split at holds
  · cases holds
  · rename_i outside
    simpa using outside

theorem directive?_of_includes?
    {context : LineContext}
    {line : List Char}
    {kind : IncludeKind}
    {target : String}
    (includes : context.includes? line = some (kind, target)) :
    context.directive? line = some (.includeFile kind target) ∧
      context.conditionals.liveness ≠ .dead := by
  unfold includes? at includes
  split at includes
  · split at includes
    · cases includes
    · rename_i holds notDead
      cases includes
      exact ⟨holds, by simpa [Liveness.isDead] using notDead⟩
  · cases includes

/-- A line is kept as it is, or as a placeholder if its directive is consumed. -/
theorem keptText_eq
    {context next : LineContext}
    {line : List Char}
    (keeps : context.advance? line = some next) :
    context.keptText line =
      if (context.directive? line).any (·.isConsumed) then
        Comment.placeholder (context.commentAfter line)
      else
        line := by
  obtain ⟨passable, -⟩ := advance?_eq_some_iff.mp keeps
  unfold keptText
  cases holds : context.directive? line with
  | none =>
      rfl
  | some directive =>
      cases directive <;>
        simp_all [Directive.isConsumed, Directive.isPassable]

/-- The text that a line is kept as ends in the same comment, if any. -/
theorem isOpenAfter_keptText
    {context next : LineContext}
    {line : List Char}
    (keeps : context.advance? line = some next) :
    Comment.isOpenAfter context.inComment (context.keptText line) =
      context.commentAfter line := by
  rw [keptText_eq keeps]
  split
  · rename_i consumed
    cases holds : context.directive? line with
    | none =>
        simp [holds] at consumed
    | some directive =>
        rw [inComment_of_directive? holds, Comment.isOpenAfter_placeholder]
  · rfl

end LineContext

namespace VisitedLines

/-- The line after an included file, if the include's line opens a comment. -/
def closingText (opens : Bool) : List (List Char) :=
  if opens then [Comment.placeholder true] else []

/-- The texts of the lines that a visit adds. -/
def texts : VisitedLines → List (List Char)
  | .done => []
  | .kept context line others => context.keptText line :: others.texts
  | .spliced context line _ _ inside others =>
      inside.texts ++ closingText (context.commentAfter line) ++ others.texts

/-- The name of a source is no part of its text. -/
theorem map_text_lines (visited : VisitedLines) (source : String) :
    (visited.lines source).map (·.text) = visited.texts := by
  induction visited generalizing source with
  | done =>
      rfl
  | kept context line others inductionHypothesis =>
      simp [lines, texts, inductionHypothesis]
  | spliced context line request included inside others insideHypothesis othersHypothesis =>
      simp only [lines, texts, closing, closingText, List.map_append, insideHypothesis,
        othersHypothesis]
      split <;> rfl

/-- Behind text that leaves no comment open, the closing line opens the include's. -/
theorem isOpenAfterAll_closingText (opens : Bool) :
    Comment.isOpenAfterAll false (closingText opens) = opens := by
  cases opens <;> rfl

end VisitedLines

/-! ### Comments -/

namespace Passes

variable
  {resolver : Option Resolver} {source : String} {depth : Nat}
  {context last : LineContext} {lines : List (List Char)} {visited : VisitedLines}

/-- A passage follows the comments of the text that it adds. -/
theorem isOpenAfterAll_texts
    (passes : Passes resolver source depth context lines visited last) :
    Comment.isOpenAfterAll context.inComment visited.texts = last.inComment := by
  induction passes with
  | done =>
      rfl
  | kept single keeps rest inductionHypothesis =>
      rw [VisitedLines.texts, Comment.isOpenAfterAll_cons,
        LineContext.isOpenAfter_keptText keeps, ← LineContext.inComment_of_advance? keeps]
      exact inductionHypothesis
  | @spliced source depth context bottom last line others kind target included inside
      visited includes answers nested ends rest insideHypothesis restHypothesis =>
      have outside :=
        LineContext.inComment_of_directive? (LineContext.directive?_of_includes? includes).1
      have insideEnds : Comment.isOpenAfterAll false inside.texts = false :=
        insideHypothesis.trans (ends.outside rfl)
      rw [VisitedLines.texts, Comment.isOpenAfterAll_append, Comment.isOpenAfterAll_append,
        outside, insideEnds, VisitedLines.isOpenAfterAll_closingText]
      exact restHypothesis

theorem lineFeed_notMem_texts
    (passes : Passes resolver source depth context lines visited last)
    (noFeeds : ∀ line ∈ lines, '\n' ∉ line) :
    ∀ text ∈ visited.texts, '\n' ∉ text := by
  induction passes with
  | done =>
      simp [VisitedLines.texts]
  | @kept source depth context next last line others visited single keeps rest
      inductionHypothesis =>
      intro text member
      rcases List.mem_cons.mp member with rfl | member
      · rw [LineContext.keptText_eq keeps]
        split
        · exact Comment.lineFeed_notMem_placeholder _
        · exact noFeeds line List.mem_cons_self
      · exact inductionHypothesis
          (fun other isOther => noFeeds other (List.mem_cons_of_mem _ isOther)) text member
  | @spliced source depth context bottom last line others kind target included inside
      visited includes answers nested ends rest insideHypothesis restHypothesis =>
      intro text member
      rw [VisitedLines.texts, List.mem_append, List.mem_append] at member
      rcases member with (isInside | isClosing) | isAfter
      · exact insideHypothesis
          (fun _ isLine => Text.lineFeed_notMem_of_mem_lines isLine) text isInside
      · unfold VisitedLines.closingText at isClosing
        split at isClosing
        · rw [List.mem_singleton.mp isClosing]
          exact Comment.lineFeed_notMem_placeholder _
        · cases isClosing
      · exact restHypothesis
          (fun other isOther => noFeeds other (List.mem_cons_of_mem _ isOther)) text isAfter

end Passes

/-! ### `#version` -/

namespace ExpansionSettings

/-- A `#version` directive is none that expansion acts upon. -/
theorem parse?_of_isVersion
    {code : List Char}
    (isVersion : Directive.isVersion code = true) :
    Directive.parse? code = none := by
  unfold Directive.isVersion at isVersion
  unfold Directive.parse?
  cases body : Directive.body? code with
  | none =>
      rfl
  | some body =>
      simp_all

theorem hasVersion_append (inComment : Bool) (first second : List (List Char)) :
    hasVersion inComment (first ++ second) =
      (hasVersion inComment first ||
        hasVersion (Comment.isOpenAfterAll inComment first) second) := by
  induction first generalizing inComment with
  | nil =>
      rfl
  | cons line others inductionHypothesis =>
      simp [hasVersion, inductionHypothesis, Bool.or_assoc]

/-- The text of a passage has the `#version` directive that its lines have. -/
theorem hasVersion_texts
    {resolver : Option Resolver}
    {source : String}
    {depth : Nat}
    {context last : LineContext}
    {lines : List (List Char)}
    {visited : VisitedLines}
    (passes : Passes resolver source depth context lines visited last)
    (version : hasVersion context.inComment lines = true) :
    hasVersion context.inComment visited.texts = true := by
  induction passes with
  | done =>
      cases version
  | @kept source depth context next last line others visited single keeps rest
      inductionHypothesis =>
      rw [LineContext.inComment_of_advance? keeps] at inductionHypothesis
      rw [hasVersion, Bool.or_eq_true] at version
      rw [VisitedLines.texts, hasVersion, LineContext.isOpenAfter_keptText keeps,
        Bool.or_eq_true]
      refine version.imp (fun isHere => ?_) inductionHypothesis
      rw [Bool.and_eq_true, Bool.not_eq_true'] at isHere
      obtain ⟨outside, isVersion⟩ := isHere
      have noDirective : context.directive? line = none := by
        simpa [LineContext.directive?, outside] using parse?_of_isVersion isVersion
      rw [LineContext.keptText_eq keeps, noDirective]
      simpa [outside] using isVersion
  | @spliced source depth context bottom last line others kind target included inside
      visited includes answers nested ends rest insideHypothesis restHypothesis =>
      obtain ⟨holds, -⟩ := LineContext.directive?_of_includes? includes
      have outside := LineContext.inComment_of_directive? holds
      have insideEnds : Comment.isOpenAfterAll false inside.texts = false :=
        nested.isOpenAfterAll_texts.trans (ends.outside rfl)
      rw [hasVersion, Bool.or_eq_true] at version
      rw [VisitedLines.texts, hasVersion_append, Comment.isOpenAfterAll_append,
        outside, insideEnds, VisitedLines.isOpenAfterAll_closingText, Bool.or_eq_true]
      rcases version with isHere | isAfter
      · rw [Bool.and_eq_true] at isHere
        rw [LineContext.directive?, outside] at holds
        simp [parse?_of_isVersion isHere.2] at holds
      · exact .inr (restHypothesis isAfter)

end ExpansionSettings

/-! ### Units -/

namespace ExpansionSettings.Records

variable
  {settings : ExpansionSettings} {root : String} {content : List Char}
  {visited : VisitedLines} {last : LineContext}

/-- The texts of the lines of a recorded expansion. -/
def texts (content : List Char) (visited : VisitedLines) : List (List Char) :=
  (versionLines content).map (·.text) ++ visited.texts

/-- The unit of a recorded expansion is made of the recorded texts. -/
theorem exists_unit
    (records : settings.Records root content visited last) :
    ∃ unit,
      ExpandedUnit.expand settings root content = .ok unit ∧
        unit.lines.map (·.text) = texts content visited := by
  refine ⟨_, records.unit_expand, ?_⟩
  rw [List.map_append, VisitedLines.map_text_lines, texts]

/-- A unit is made of the texts that its expansion records. -/
theorem texts_of_expand
    (records : settings.Records root content visited last)
    {unit : ExpandedUnit}
    (succeeds : ExpandedUnit.expand settings root content = .ok unit) :
    unit.lines.map (·.text) = texts content visited := by
  obtain ⟨recorded, expands, recordedTexts⟩ := records.exists_unit
  rw [expands, Except.ok.injEq] at succeeds
  subst succeeds
  exact recordedTexts

theorem lineFeed_notMem
    (records : settings.Records root content visited last) :
    ∀ text ∈ texts content visited, '\n' ∉ text := by
  intro text member
  rcases List.mem_append.mp member with isVersion | isVisited
  · unfold versionLines at isVersion
    split at isVersion
    · cases isVersion
    · rw [List.mem_singleton.mp isVersion]
      decide
  · exact records.passes.lineFeed_notMem_texts
      (fun _ isLine => Text.lineFeed_notMem_of_mem_lines isLine) text isVisited

/-- The text of a unit falls into the recorded texts, without their carriage returns. -/
theorem lines_text
    (records : settings.Records root content visited last)
    {unit : ExpandedUnit}
    (succeeds : ExpandedUnit.expand settings root content = .ok unit) :
    Text.lines unit.text = (texts content visited).map Text.dropReturn := by
  rw [ExpandedUnit.text, records.texts_of_expand succeeds]
  exact Text.lines_unlines records.lineFeed_notMem

end ExpansionSettings.Records

end ShaderBuild
