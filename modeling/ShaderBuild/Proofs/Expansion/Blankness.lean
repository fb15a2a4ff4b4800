import ShaderBuild.Proofs.Expansion.CommentStates

namespace ShaderBuild

/-!
# Blank units, line by line

Whether a unit is blank is found by one scan over all of its text, while expansion
takes comments out line by line. The two agree on what white space, a comment and a
directive are, but for two kinds of lines. A directive's line hides the comment that
it opens from the scan over the text, and what follows the end of a comment from an
earlier line can be a directive for that scan alone.
-/

namespace Comment

/-- The first character of a line's code that is no white space. -/
def firstMark? (inside : Bool) (line : List Char) : Option Char :=
  (strip inside line).find? fun c => !Text.isSpace c

/-- A line without code, or one whose code starts with a number sign. -/
def StartsBlank (inside : Bool) (line : List Char) : Prop :=
  firstMark? inside line = none ∨ firstMark? inside line = some '#'

/-- A line without code, or a directive's line that starts outside comments. -/
def IsBlankLine (inside : Bool) (line : List Char) : Prop :=
  (∀ c ∈ strip inside line, Text.isSpace c = true) ∨
    inside = false ∧ firstMark? inside line = some '#'

/-- A number sign comes first on a line that starts in a comment or opens one. -/
def IsMixedDirective (inside : Bool) (line : List Char) : Prop :=
  firstMark? inside line = some '#' ∧ (inside = true ∨ isOpenAfter inside line = true)

instance (inside : Bool) (line : List Char) : Decidable (IsBlankLine inside line) :=
  decidable_of_iff
    ((strip inside line).all Text.isSpace = true ∨
      inside = false ∧ firstMark? inside line = some '#')
    (by rw [List.all_eq_true]; rfl)

instance (inside : Bool) (line : List Char) : Decidable (IsMixedDirective inside line) :=
  inferInstanceAs (Decidable (_ ∧ _))

/-- Whether a block comment is open after a line, if a directive hides the one it opens. -/
def isOpenPast (inside : Bool) (line : List Char) : Bool :=
  (firstMark? inside line).isNone && isOpenAfter inside line

/-- A condition on each line, in or out of a comment as the lines before it leave it. -/
def EachLine
    (openAfter : Bool → List Char → Bool)
    (holds : Bool → List Char → Prop)
    (inside : Bool)
    (lines : List (List Char)) : Prop :=
  ∀ before line after,
    lines = before ++ line :: after → holds (before.foldl openAfter inside) line

theorem eachLine_nil
    (openAfter : Bool → List Char → Bool)
    (holds : Bool → List Char → Prop)
    (inside : Bool) :
    EachLine openAfter holds inside [] := by
  intro before line after split
  simp at split

theorem eachLine_cons_iff
    {openAfter : Bool → List Char → Bool}
    {holds : Bool → List Char → Prop}
    {inside : Bool}
    {line : List Char}
    {others : List (List Char)} :
    EachLine openAfter holds inside (line :: others) ↔
      holds inside line ∧ EachLine openAfter holds (openAfter inside line) others := by
  constructor
  · intro each
    exact ⟨each [] line others rfl,
      fun before other after split => each (line :: before) other after (by rw [split]; rfl)⟩
  · rintro ⟨atLine, atOthers⟩ before other after split
    cases before with
    | nil =>
        cases split
        exact atLine
    | cons top before =>
        obtain ⟨rfl, isRest⟩ := List.cons.inj split
        exact atOthers before other after isRest

instance decidableEachLine
    {openAfter : Bool → List Char → Bool}
    {holds : Bool → List Char → Prop}
    [∀ inside line, Decidable (holds inside line)] :
    ∀ inside lines, Decidable (EachLine openAfter holds inside lines)
  | inside, [] => isTrue (eachLine_nil openAfter holds inside)
  | inside, line :: others =>
      have := @decidableEachLine openAfter holds _ (openAfter inside line) others
      decidable_of_iff' _ eachLine_cons_iff

theorem firstMark?_eq_none_iff {inside : Bool} {line : List Char} :
    firstMark? inside line = none ↔ ∀ c ∈ strip inside line, Text.isSpace c = true := by
  simp [firstMark?]

theorem firstMark?_dropReturn (inside : Bool) (line : List Char) :
    firstMark? inside (Text.dropReturn line) = firstMark? inside line := by
  have isReturn : Text.isSpace '\r' = true := by decide
  unfold firstMark? strip
  rcases (scan_dropsReturn (if inside then .block else .code)
    (Text.dropsReturn_dropReturn line)).1 with same | longer
  · rw [same]
  · rw [longer]
    simp [isReturn]

theorem isOpenPast_dropReturn (inside : Bool) (line : List Char) :
    isOpenPast inside (Text.dropReturn line) = isOpenPast inside line := by
  rw [isOpenPast, isOpenPast, firstMark?_dropReturn, isOpenAfter_dropReturn]

/-- A line that mixes no directive with a comment is blank if it starts so. -/
theorem isBlankLine_iff
    {inside : Bool}
    {line : List Char}
    (unmixed : ¬IsMixedDirective inside line) :
    IsBlankLine inside line ↔ StartsBlank inside line := by
  rw [IsBlankLine, StartsBlank, ← firstMark?_eq_none_iff]
  refine or_congr_right ⟨?_, ?_⟩
  · rintro ⟨rfl, isDirective⟩
    exact isDirective
  · intro isDirective
    cases inside with
    | false =>
        exact ⟨rfl, isDirective⟩
    | true =>
        exact absurd ⟨isDirective, .inl rfl⟩ unmixed

/-- A directive hides no comment if it opens none. -/
theorem isOpenPast_eq
    {inside : Bool}
    {line : List Char}
    (unmixed : ¬IsMixedDirective inside line)
    (startsBlank : StartsBlank inside line) :
    isOpenPast inside line = isOpenAfter inside line := by
  unfold isOpenPast
  rcases startsBlank with noMark | isDirective
  · simp [noMark]
  · have closed : isOpenAfter inside line ≠ true := fun opens => unmixed ⟨isDirective, .inr opens⟩
    simp [isDirective, closed]

/-- Lines that mix no directive with a comment start blank just if they are blank. -/
theorem eachLine_startsBlank_iff
    {lines : List (List Char)}
    {inside : Bool}
    (unmixed :
      EachLine isOpenAfter (fun inside line => ¬IsMixedDirective inside line) inside lines) :
    EachLine isOpenPast StartsBlank inside lines ↔
      EachLine isOpenAfter IsBlankLine inside lines := by
  induction lines generalizing inside with
  | nil =>
      simp [eachLine_nil]
  | cons line others inductionHypothesis =>
      obtain ⟨lineUnmixed, othersUnmixed⟩ := eachLine_cons_iff.mp unmixed
      rw [eachLine_cons_iff, eachLine_cons_iff, isBlankLine_iff lineUnmixed]
      refine and_congr_right fun startsBlank => ?_
      rw [isOpenPast_eq lineUnmixed startsBlank]
      exact inductionHypothesis othersUnmixed

end Comment

/-! ### One line of the scan -/

namespace ExpandedUnit

theorem isBlankFrom_block_star
    {text : List Char}
    (noSlash : text.head? ≠ some '/')
    (atLineStart : Bool) :
    isBlankFrom (.block true atLineStart) text = isBlankFrom (.block false atLineStart) text := by
  cases text with
  | nil =>
      rfl
  | cons c rest =>
      by_cases isFeed : c = '\n'
      · subst c
        rfl
      · have notSlash : c ≠ '/' := by simpa using noSlash
        rw [isBlankFrom, isBlankFrom]
        all_goals simp_all

theorem isBlankFrom_restOfLine
    {line : List Char}
    (noFeed : '\n' ∉ line)
    (rest : List Char) :
    isBlankFrom .restOfLine (line ++ '\n' :: rest) = isBlankFrom (.between true) rest := by
  induction line with
  | nil =>
      rfl
  | cons c others inductionHypothesis =>
      rw [List.mem_cons, not_or] at noFeed
      rw [List.cons_append, isBlankFrom]
      · exact inductionHypothesis noFeed.2
      · exact fun isFeed => noFeed.1 isFeed.symm

theorem exists_cons_of_append_feed
    {line rest text : List Char}
    {mark : Char}
    (starts : line ++ '\n' :: rest = mark :: text)
    (notFeed : mark ≠ '\n') :
    ∃ others, line = mark :: others := by
  cases line with
  | nil =>
      exact absurd (List.cons.inj starts).1.symm notFeed
  | cons c others =>
      rw [List.cons_append] at starts
      exact ⟨others, by rw [(List.cons.inj starts).1]⟩

theorem isBlankFrom_code
    {c : Char}
    {text : List Char}
    (notFeed : c ≠ '\n')
    (noLineComment : ∀ rest, c = '/' → text ≠ '/' :: rest)
    (noBlock : ∀ rest, c = '/' → text ≠ '*' :: rest) :
    isBlankFrom (.between true) (c :: text) =
      if Text.isSpace c then isBlankFrom (.between true) text
      else c = '#' && isBlankFrom .restOfLine text := by
  rw [isBlankFrom]
  · by_cases isSign : c = '#' <;> simp [isSign]
  · exact notFeed
  · exact noLineComment
  · exact noBlock

/-- Where the scan stands on a line when expansion stands at a place outside quotations. -/
def Scan.at : Comment.Place → Scan
  | .block => .block false true
  | _ => .between true

@[simp] theorem Scan.at_code : Scan.at .code = .between true := rfl

@[simp] theorem Scan.at_block : Scan.at .block = .block false true := rfl

/-- The scan goes past a line by its first mark, and by the comment open after it. -/
def isBlankPast (rest : List Char) (code : List Char × Bool) : Bool :=
  match code.1.find? fun c => !Text.isSpace c with
  | none => isBlankFrom (.at (if code.2 then .block else .code)) rest
  | some c => c = '#' && isBlankFrom (.between true) rest

theorem isBlankPast_cons_of_isSpace
    {c : Char} (isSpace : Text.isSpace c = true)
    (rest : List Char) (code : List Char × Bool) :
    isBlankPast rest (code.map (c :: ·) id) = isBlankPast rest code := by
  simp [isBlankPast, isSpace]

theorem isBlankPast_cons_of_not_isSpace
    {c : Char} (notSpace : Text.isSpace c = false)
    (rest : List Char) (code : List Char × Bool) :
    isBlankPast rest (code.map (c :: ·) id) =
      (c = '#' && isBlankFrom (.between true) rest) := by
  simp [isBlankPast, notSpace]

/-- The scan reads a line as expansion takes its comments out. -/
theorem isBlankFrom_scan
    {place : Comment.Place}
    {line : List Char}
    (unquoted : place ≠ .quotation)
    (noFeed : '\n' ∉ line)
    (rest : List Char) :
    isBlankFrom (.at place) (line ++ '\n' :: rest) =
      isBlankPast rest (Comment.scan place line) := by
  fun_induction Comment.scan place line with
  | case1 | case4 =>
      rfl
  | case2 others inductionHypothesis =>
      simp only [List.mem_cons, not_or] at noFeed
      refine Eq.trans ?_ (inductionHypothesis (by simp) noFeed.2.2)
      simp [Scan.at, isBlankFrom]
  | case3 c others notEnd inductionHypothesis =>
      simp only [List.mem_cons, not_or] at noFeed
      rw [← inductionHypothesis (by simp) noFeed.2, List.cons_append, Scan.at_block, isBlankFrom]
      · by_cases isStar : c = '*'
        · subst c
          refine isBlankFrom_block_star (fun startsWithSlash => ?_) true
          obtain ⟨text, starts⟩ := List.head?_eq_some_iff.mp startsWithSlash
          obtain ⟨tail, shape⟩ := exists_cons_of_append_feed starts (by decide)
          exact notEnd tail rfl shape
        · simp [isStar]
      · exact fun isFeed => noFeed.1 isFeed.symm
      · simp
  | case5 others =>
      simp only [List.mem_cons, not_or] at noFeed
      change isBlankFrom .restOfLine (others ++ '\n' :: rest) = isBlankFrom (.between true) rest
      exact isBlankFrom_restOfLine noFeed.2.2 rest
  | case6 others inductionHypothesis =>
      simp only [List.mem_cons, not_or] at noFeed
      rw [isBlankPast_cons_of_isSpace (by decide), ← inductionHypothesis (by simp) noFeed.2.2]
      rfl
  | case7 others inductionHypothesis =>
      rw [isBlankPast_cons_of_not_isSpace (by decide), List.cons_append, Scan.at_code,
        isBlankFrom_code (by decide) (by simp) (by simp)]
      rfl
  | case8 c others notLineComment notBlock notQuotation inductionHypothesis =>
      simp only [List.mem_cons, not_or] at noFeed
      have reads :
          isBlankFrom (.between true) (c :: (others ++ '\n' :: rest)) =
            if Text.isSpace c then isBlankFrom (.between true) (others ++ '\n' :: rest)
            else c = '#' && isBlankFrom .restOfLine (others ++ '\n' :: rest) := by
        refine isBlankFrom_code (fun isFeed => noFeed.1 isFeed.symm) ?_ ?_
        · intro text isSlash starts
          obtain ⟨tail, shape⟩ := exists_cons_of_append_feed starts (by decide)
          exact notLineComment tail isSlash shape
        · intro text isSlash starts
          obtain ⟨tail, shape⟩ := exists_cons_of_append_feed starts (by decide)
          exact notBlock tail isSlash shape
      rw [List.cons_append, Scan.at_code, reads]
      cases isSpace : Text.isSpace c with
      | true =>
          rw [isBlankPast_cons_of_isSpace isSpace, ← inductionHypothesis (by simp) noFeed.2]
          rfl
      | false =>
          rw [isBlankPast_cons_of_not_isSpace isSpace, isBlankFrom_restOfLine noFeed.2]
          rfl
  | case9 | case10 | case11 =>
      exact absurd rfl unquoted

theorem isBlankFrom_line
    {line : List Char}
    (noFeed : '\n' ∉ line)
    (inside : Bool)
    (rest : List Char) :
    isBlankFrom (.at (if inside then .block else .code)) (line ++ '\n' :: rest) =
      ((Comment.firstMark? inside line = none || Comment.firstMark? inside line = some '#') &&
        isBlankFrom (.at (if Comment.isOpenPast inside line then .block else .code)) rest) := by
  rw [isBlankFrom_scan (by cases inside <;> simp) noFeed, isBlankPast]
  change (match Comment.firstMark? inside line with | none => _ | some c => _) = _
  unfold Comment.isOpenPast
  cases Comment.firstMark? inside line with
  | none =>
      rfl
  | some c =>
      simp

/-! ### All lines -/

/-- The scan for declarations asks of each line that it starts blank. -/
theorem isBlankFrom_unlines
    {texts : List (List Char)}
    (noFeeds : ∀ line ∈ texts, '\n' ∉ line)
    (inside : Bool) :
    isBlankFrom (.at (if inside then .block else .code)) (Text.unlines texts) = true ↔
      Comment.EachLine Comment.isOpenPast Comment.StartsBlank inside
        (texts.map Text.dropReturn) := by
  induction texts generalizing inside with
  | nil =>
      simp [Text.unlines, isBlankFrom, Comment.eachLine_nil]
  | cons line others inductionHypothesis =>
      obtain ⟨noFeed, othersNoFeed⟩ := List.forall_mem_cons.mp noFeeds
      rw [Text.unlines_cons, isBlankFrom_line noFeed, Bool.and_eq_true,
        inductionHypothesis othersNoFeed, List.map_cons, Comment.eachLine_cons_iff]
      simp only [Comment.StartsBlank, Comment.isOpenPast_dropReturn,
        Comment.firstMark?_dropReturn, Bool.or_eq_true, decide_eq_true_eq]

/-! ### Units -/

/--
A unit is blank just if each of its lines has no code or a directive, where a
directive hides the comment that it opens. Unless some line mixes a directive with a
comment that comes from another line or goes on to one, these are the lines that are
blank as expansion takes comments out.
-/
theorem isBlank_iff_lines
    {settings : ExpansionSettings}
    {root : String}
    {content : List Char}
    {unit : ExpandedUnit}
    (succeeds : expand settings root content = .ok unit) :
    (unit.isBlank = true ↔
        Comment.EachLine Comment.isOpenPast Comment.StartsBlank false
          (Text.lines unit.text)) ∧
      (Comment.EachLine Comment.isOpenAfter
            (fun inside line => ¬Comment.IsMixedDirective inside line) false
            (Text.lines unit.text) →
        (unit.isBlank = true ↔
          Comment.EachLine Comment.isOpenAfter Comment.IsBlankLine false
            (Text.lines unit.text))) := by
  obtain ⟨visited, last, records⟩ := ExpansionSettings.exists_records succeeds
  have startsBlank :
      unit.isBlank = true ↔
        Comment.EachLine Comment.isOpenPast Comment.StartsBlank false
          (Text.lines unit.text) := by
    rw [records.lines_text succeeds, isBlank, text, records.texts_of_expand succeeds]
    exact isBlankFrom_unlines records.lineFeed_notMem false
  exact ⟨startsBlank,
    fun unmixed => startsBlank.trans (Comment.eachLine_startsBlank_iff unmixed)⟩

/-- A comment on lines of its own, one before a directive, and marks in a quotation. -/
theorem isBlank_iff_lines_comments :
    let content := "#version 450\n/* a\n// b\n*/ /* c */\n /* d */ #define A \"/*\"\n".toList
    ∃ unit,
      expand ⟨none, 4, []⟩ "main" content = .ok unit ∧
        Comment.EachLine Comment.isOpenAfter
            (fun inside line => ¬Comment.IsMixedDirective inside line) false
            (Text.lines unit.text) ∧
          unit.isBlank = true := by
  intro content
  have succeeds :
      expand ⟨none, 4, []⟩ "main" content =
        .ok ⟨"main", (Text.lines content).mapIdx fun index line =>
          ⟨line, some ⟨"main", index + 1⟩⟩, ["main"]⟩ := by
    decide +kernel
  have unmixed :
      Comment.EachLine Comment.isOpenAfter
        (fun inside line => ¬Comment.IsMixedDirective inside line) false (Text.lines content) := by
    decide +kernel
  exact ⟨_, succeeds, unmixed, ((isBlank_iff_lines succeeds).2 unmixed).mpr (by decide +kernel)⟩

/--
A comment that a directive's line opens is taken for declarations, and what follows
the end of a comment from an earlier line is taken for a directive.
-/
theorem isBlank_differs_from_lines :
    let unit? (content : String) := (expand ⟨none, 4, []⟩ "main" content.toList).toOption
    let hidden := "#version 450\n#define X /* a\n*/\n"
    let behind := "#version 450\n/*\n*/ #foo\n"
    (∃ unit, unit? hidden = some unit ∧
        Comment.EachLine Comment.isOpenAfter Comment.IsBlankLine false (Text.lines unit.text) ∧
          unit.isBlank = false) ∧
      ∃ unit, unit? behind = some unit ∧
        ¬Comment.EachLine Comment.isOpenAfter Comment.IsBlankLine false (Text.lines unit.text) ∧
          unit.isBlank = true := by
  intro unit? hidden behind
  have isHidden :
      unit? hidden =
        some ⟨"main", (Text.lines hidden.toList).mapIdx fun index line =>
          ⟨line, some ⟨"main", index + 1⟩⟩, ["main"]⟩ := by
    decide +kernel
  have isBehind :
      unit? behind =
        some ⟨"main", (Text.lines behind.toList).mapIdx fun index line =>
          ⟨line, some ⟨"main", index + 1⟩⟩, ["main"]⟩ := by
    decide +kernel
  exact ⟨⟨_, isHidden, by decide +kernel, by decide +kernel⟩,
    _, isBehind, by decide +kernel, by decide +kernel⟩

end ExpandedUnit

end ShaderBuild
