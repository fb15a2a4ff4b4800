import ShaderBuild.Proofs.TrailingReturn

namespace ShaderBuild

/-!
# Gaps in code

White space and comments are gaps between the characters of code. What a scan for comments
leaves of a line starts, past white space, with the first character behind a gap, and what
follows it is left of the rest of the line. A scan knows quotations but no other names, so
that a comment may start in any text outside of them.
-/

/-- White space and comments that are closed. -/
inductive IsGap : List Char → Prop where
  | nil : IsGap []
  | space
      {c : Char} {rest : List Char}
      (isSpace : Text.isSpace c = true)
      (more : IsGap rest) :
      IsGap (c :: rest)
  | comment
      {body rest : List Char}
      (closed : ¬ ['*', '/'] <:+: body)
      (more : IsGap rest) :
      IsGap ('/' :: '*' :: (body ++ '*' :: '/' :: rest))

/-- No code up to the end of a line, where a comment may be left open. -/
inductive IsTrailing : List Char → Prop where
  | gap {gap : List Char} (isGap : IsGap gap) : IsTrailing gap
  | lineComment {gap : List Char} (isGap : IsGap gap) (text : List Char) :
      IsTrailing (gap ++ '/' :: '/' :: text)
  | openComment {gap text : List Char} (isGap : IsGap gap) (isOpen : ¬ ['*', '/'] <:+: text) :
      IsTrailing (gap ++ '/' :: '*' :: text)

/-- Whether a quotation is open after some code. -/
def quotedAfter (quoted : Bool) (text : List Char) : Bool :=
  text.foldl (fun quoted c => quoted != (c == '"')) quoted

/-- Outside quotations, a comment would start in some code. -/
def StartsComment (quoted : Bool) (text : List Char) : Prop :=
  ∃ before mark after,
    text = before ++ '/' :: mark :: after ∧ (mark = '/' ∨ mark = '*') ∧
      quotedAfter quoted before = false

namespace Text

theorem trimStart_cons_of_isSpace
    {c : Char}
    (space : isSpace c = true)
    (rest : List Char) :
    trimStart (c :: rest) = trimStart rest :=
  List.dropWhile_cons_of_pos space

theorem trimStart_cons_of_not_isSpace
    {c : Char}
    (notSpace : isSpace c = false)
    (rest : List Char) :
    trimStart (c :: rest) = c :: rest :=
  List.dropWhile_cons_of_neg (by rw [notSpace]; exact Bool.false_ne_true)

end Text

namespace Comment

/-! ### Block comments -/

/-- The first end of a block comment cuts a text, or the comment is left open. -/
theorem isOpen_or_closed (text : List Char) :
    ¬ ['*', '/'] <:+: text ∨
      ∃ body rest, text = body ++ '*' :: '/' :: rest ∧ ¬ ['*', '/'] <:+: body := by
  induction text with
  | nil =>
      left
      simp
  | cons c text inductionHypothesis =>
      by_cases endsHere : ['*', '/'] <+: c :: text
      · obtain ⟨rest, isRest⟩ := endsHere
        exact .inr ⟨[], rest, isRest.symm, by decide⟩
      · rcases inductionHypothesis with isOpen | ⟨body, rest, rfl, isFirst⟩
        · left
          rw [List.infix_cons_iff]
          exact not_or_intro endsHere isOpen
        · refine .inr ⟨c :: body, rest, rfl, ?_⟩
          rw [List.infix_cons_iff]
          refine not_or_intro (fun startsBody => endsHere ?_) isFirst
          exact startsBody.trans (List.prefix_append (c :: body) _)

theorem scan_block_open {text : List Char} (isOpen : ¬ ['*', '/'] <:+: text) :
    scan .block text = ([], true) := by
  induction text with
  | nil =>
      rfl
  | cons c text inductionHypothesis =>
      rw [List.infix_cons_iff, not_or] at isOpen
      rw [scan]
      · exact inductionHypothesis isOpen.2
      · rintro rest rfl rfl
        exact isOpen.1 (List.prefix_append ['*', '/'] rest)

theorem scan_block_closed
    {body : List Char}
    (isFirst : ¬ ['*', '/'] <:+: body)
    (rest : List Char) :
    scan .block (body ++ '*' :: '/' :: rest) = scan .code rest := by
  induction body with
  | nil =>
      rfl
  | cons c body inductionHypothesis =>
      rw [List.infix_cons_iff, not_or] at isFirst
      rw [List.cons_append, scan]
      · exact inductionHypothesis isFirst.2
      · rintro others rfl isNext
        cases body with
        | nil =>
            cases isNext
        | cons next body =>
            rw [List.cons_append, List.cons.injEq] at isNext
            rw [isNext.1] at isFirst
            exact isFirst.1 (List.prefix_append ['*', '/'] body)

/-! ### Code -/

/-- Where a scan stands in code. -/
def Place.inCode (quoted : Bool) : Place :=
  if quoted then .quotation else .code

/-- A comment starts with these characters. -/
def StartsWith (c : Char) (rest : List Char) : Prop :=
  c = '/' ∧ ∃ mark others, rest = mark :: others ∧ (mark = '/' ∨ mark = '*')

/-- A character that starts no comment is code. -/
theorem scan_cons
    {quoted : Bool}
    {c : Char}
    {rest : List Char}
    (noComment : quoted = false → ¬ StartsWith c rest) :
    (scan (.inCode quoted) (c :: rest)).1 =
      c :: (scan (.inCode (quoted != (c == '"'))) rest).1 := by
  by_cases isQuote : c = '"'
  · subst c
    cases quoted <;> rfl
  · rw [beq_false_of_ne isQuote, Bool.bne_false]
    cases quoted with
    | true =>
        change (scan .quotation (c :: rest)).1 = c :: (scan .quotation rest).1
        rw [scan]
        · rfl
        · exact isQuote
    | false =>
        change (scan .code (c :: rest)).1 = c :: (scan .code rest).1
        rw [scan]
        · rfl
        · rintro others rfl rfl
          exact noComment rfl ⟨rfl, '/', others, rfl, .inl rfl⟩
        · rintro others rfl rfl
          exact noComment rfl ⟨rfl, '*', others, rfl, .inr rfl⟩
        · exact isQuote

theorem scan_code_cons
    {c : Char}
    {rest : List Char}
    (noComment : ¬ StartsWith c rest) :
    (scan .code (c :: rest)).1 = c :: (scan (.inCode (c == '"')) rest).1 := by
  have scanned :
      (scan (.inCode false) (c :: rest)).1 =
        c :: (scan (.inCode (false != (c == '"'))) rest).1 :=
    scan_cons fun _ => noComment
  rwa [Bool.false_bne] at scanned

/-- Code is what is written, but for the blanks that comments become. -/
theorem mem_of_mem_scan
    {place : Place}
    {text : List Char}
    {c : Char}
    (member : c ∈ (scan place text).1)
    (notBlank : c ≠ ' ') :
    c ∈ text := by
  fun_induction scan place text with
  | case1 | case4 | case5 | case9 =>
      cases member
  | case2 rest inductionHypothesis =>
      exact List.mem_cons_of_mem _ (List.mem_cons_of_mem _ (inductionHypothesis member))
  | case3 other rest _ inductionHypothesis =>
      exact List.mem_cons_of_mem _ (inductionHypothesis member)
  | case6 rest inductionHypothesis =>
      rcases List.mem_cons.mp member with isBlank | later
      · exact absurd isBlank notBlank
      · exact List.mem_cons_of_mem _ (List.mem_cons_of_mem _ (inductionHypothesis later))
  | case7 rest inductionHypothesis
  | case8 other rest _ _ _ inductionHypothesis
  | case10 rest inductionHypothesis
  | case11 other rest _ inductionHypothesis =>
      rcases List.mem_cons.mp member with isHere | later
      · exact isHere ▸ List.mem_cons_self
      · exact List.mem_cons_of_mem _ (inductionHypothesis later)

/-- A quotation is code up to its end. -/
theorem scan_quotation
    {name : List Char}
    (noQuote : '"' ∉ name)
    (rest : List Char) :
    (scan .quotation (name ++ rest)).1 = name ++ (scan .quotation rest).1 := by
  induction name with
  | nil =>
      rfl
  | cons c name inductionHypothesis =>
      rw [List.mem_cons, not_or] at noQuote
      rw [List.cons_append, scan]
      · exact congrArg (c :: ·) (inductionHypothesis noQuote.2)
      · exact fun isQuote => noQuote.1 isQuote.symm

/-- Text in which no comment would start is code. -/
theorem scan_uncommented
    {quoted : Bool}
    {name : List Char}
    (uncommented : ¬ StartsComment quoted name)
    {delimiter : Char}
    (noSlash : delimiter ≠ '/')
    (noStar : delimiter ≠ '*')
    (rest : List Char) :
    (scan (.inCode quoted) (name ++ delimiter :: rest)).1 =
      name ++ (scan (.inCode (quotedAfter quoted name)) (delimiter :: rest)).1 := by
  induction name generalizing quoted with
  | nil =>
      rfl
  | cons c name inductionHypothesis =>
      have noComment : quoted = false → ¬ StartsWith c (name ++ delimiter :: rest) := by
        rintro rfl ⟨rfl, mark, others, isNext, isMark⟩
        cases name with
        | nil =>
            rw [List.nil_append, List.cons.injEq] at isNext
            rcases isMark with rfl | rfl
            · exact noSlash isNext.1
            · exact noStar isNext.1
        | cons next name =>
            rw [List.cons_append, List.cons.injEq] at isNext
            exact uncommented ⟨[], mark, name, by rw [isNext.1]; rfl, isMark, rfl⟩
      have later : ¬ StartsComment (quoted != (c == '"')) name := by
        rintro ⟨before, mark, after, rfl, isMark, outside⟩
        exact uncommented ⟨c :: before, mark, after, rfl, isMark, outside⟩
      rw [List.cons_append, scan_cons noComment, inductionHypothesis later]
      rfl

end Comment

/-! ### Gaps -/

section

open Comment

theorem not_startsWith_of_ne
    {c : Char}
    (noSlash : c ≠ '/')
    (rest : List Char) :
    ¬ StartsWith c rest :=
  fun startsComment => noSlash startsComment.1

/-- White space is code. -/
theorem scan_cons_of_isSpace
    {c : Char}
    (isSpace : Text.isSpace c = true)
    (quoted : Bool)
    (rest : List Char) :
    (scan (.inCode quoted) (c :: rest)).1 = c :: (scan (.inCode quoted) rest).1 := by
  have noSlash : c ≠ '/' := by
    rintro rfl
    cases isSpace
  have noQuote : c ≠ '"' := by
    rintro rfl
    cases isSpace
  rw [scan_cons fun _ => not_startsWith_of_ne noSlash rest, beq_false_of_ne noQuote,
    Bool.bne_false]

/-- A gap leaves nothing but white space of itself. -/
theorem IsGap.trimStart_scan
    {gap : List Char}
    (isGap : IsGap gap)
    (rest : List Char) :
    Text.trimStart (scan .code (gap ++ rest)).1 = Text.trimStart (scan .code rest).1 := by
  induction isGap with
  | nil =>
      rfl
  | @space c others isSpace more inductionHypothesis =>
      have scanned :
          (scan .code (c :: (others ++ rest))).1 = c :: (scan .code (others ++ rest)).1 :=
        scan_cons_of_isSpace isSpace false _
      rw [List.cons_append, scanned, Text.trimStart_cons_of_isSpace isSpace, inductionHypothesis]
  | @comment body others closed more inductionHypothesis =>
      have scanned :
          scan .code ('/' :: '*' :: (body ++ '*' :: '/' :: (others ++ rest))) =
            (scan .code (others ++ rest)).map (' ' :: ·) id := by
        rw [scan, scan_block_closed closed]
      rw [List.cons_append, List.cons_append, List.append_assoc, List.cons_append,
        List.cons_append, scanned, Prod.map_fst, Text.trimStart_cons_of_isSpace (by decide),
        inductionHypothesis]

theorem IsTrailing.trimStart_scan
    {text : List Char}
    (isTrailing : IsTrailing text) :
    Text.trimStart (scan .code text).1 = [] := by
  cases isTrailing with
  | gap isGap =>
      have scanned := isGap.trimStart_scan []
      rwa [List.append_nil] at scanned
  | lineComment isGap text =>
      rw [isGap.trimStart_scan]
      rfl
  | openComment isGap isOpen =>
      rw [isGap.trimStart_scan, scan, scan_block_open isOpen]
      rfl

theorem IsGap.append
    {gap other : List Char}
    (isGap : IsGap gap)
    (more : IsGap other) :
    IsGap (gap ++ other) := by
  induction isGap with
  | nil =>
      exact more
  | space isSpace _ inductionHypothesis =>
      exact .space isSpace inductionHypothesis
  | comment closed _ inductionHypothesis =>
      have longer := IsGap.comment closed inductionHypothesis
      simpa only [List.cons_append, List.append_assoc] using longer

theorem IsGap.trailing
    {gap text : List Char}
    (isGap : IsGap gap)
    (isTrailing : IsTrailing text) :
    IsTrailing (gap ++ text) := by
  cases isTrailing with
  | gap more =>
      exact .gap (isGap.append more)
  | lineComment more text =>
      rw [← List.append_assoc]
      exact .lineComment (isGap.append more) text
  | openComment more isOpen =>
      rw [← List.append_assoc]
      exact .openComment (isGap.append more) isOpen

/-- A character that is code, and what is behind it. -/
def StartsCode (c : Char) (rest : List Char) : Prop :=
  Text.isSpace c = false ∧ ¬ StartsWith c rest

theorem startsCode_of_ne
    {c : Char}
    (notSpace : Text.isSpace c = false)
    (noSlash : c ≠ '/')
    (rest : List Char) :
    StartsCode c rest :=
  ⟨notSpace, not_startsWith_of_ne noSlash rest⟩

/-- There is no code in a text, or a first character of code behind a gap. -/
def HasGap (text : List Char) : Prop :=
  IsTrailing text ∨
    ∃ gap c rest, text = gap ++ c :: rest ∧ IsGap gap ∧ StartsCode c rest

theorem HasGap.behind
    {gap text : List Char}
    (hasGap : HasGap text)
    (isGap : IsGap gap) :
    HasGap (gap ++ text) := by
  rcases hasGap with isTrailing | ⟨other, c, rest, rfl, isOther, startsCode⟩
  · exact .inl (isGap.trailing isTrailing)
  · exact .inr ⟨gap ++ other, c, rest, by rw [List.append_assoc], isGap.append isOther,
      startsCode⟩

theorem hasGap (text : List Char) : HasGap text := by
  cases text with
  | nil =>
      exact .inl (.gap .nil)
  | cons c rest =>
      cases isSpace : Text.isSpace c with
      | true =>
          exact (hasGap rest).behind (.space isSpace .nil)
      | false =>
          by_cases startsComment : StartsWith c rest
          · obtain ⟨rfl, mark, others, rfl, rfl | rfl⟩ := startsComment
            · exact .inl (.lineComment .nil others)
            · rcases isOpen_or_closed others with isOpen | ⟨body, others, rfl, closed⟩
              · exact .inl (.openComment .nil isOpen)
              · simpa using (hasGap others).behind (.comment closed .nil)
          · exact .inr ⟨[], c, rest, rfl, .nil, isSpace, startsComment⟩
-- What follows a closed comment is a part of the text, but no constructor away from it.
termination_by text.length
decreasing_by
  · subst_vars
    simp only [List.length_cons, List.length_append]
    omega
  · exact Nat.lt_succ_self _

/-- The first character of code, past white space. -/
theorem trimStart_scan_gap
    {gap : List Char}
    (isGap : IsGap gap)
    {c : Char}
    {rest : List Char}
    (startsCode : StartsCode c rest) :
    Text.trimStart (scan .code (gap ++ c :: rest)).1 =
      c :: (scan (.inCode (c == '"')) rest).1 := by
  rw [isGap.trimStart_scan, scan_code_cons startsCode.2,
    Text.trimStart_cons_of_not_isSpace startsCode.1]

/-- A line of comments and white space has no code, and no other line. -/
theorem trimStart_scan_eq_nil_iff {text : List Char} :
    Text.trimStart (scan .code text).1 = [] ↔ IsTrailing text := by
  refine ⟨fun noCode => ?_, IsTrailing.trimStart_scan⟩
  rcases hasGap text with isTrailing | ⟨gap, c, rest, rfl, isGap, startsCode⟩
  · exact isTrailing
  · rw [trimStart_scan_gap isGap startsCode] at noCode
    cases noCode

/-- Code past white space starts with what is written behind a gap. -/
theorem exists_of_trimStart_scan
    {text code : List Char}
    {c : Char}
    (reads : Text.trimStart (scan .code text).1 = c :: code) :
    ∃ gap rest,
      text = gap ++ c :: rest ∧ IsGap gap ∧ StartsCode c rest ∧
        code = (scan (.inCode (c == '"')) rest).1 := by
  rcases hasGap text with isTrailing | ⟨gap, first, rest, rfl, isGap, startsCode⟩
  · rw [isTrailing.trimStart_scan] at reads
    cases reads
  · rw [trimStart_scan_gap isGap startsCode, List.cons.injEq] at reads
    obtain ⟨rfl, rfl⟩ := reads
    exact ⟨gap, rest, rfl, isGap, startsCode, rfl⟩

/-- No line comment is left in code outside quotations. -/
theorem not_lineComment_trimStart_scan (text : List Char) :
    ¬ ['/', '/'] <+: Text.trimStart (scan .code text).1 := by
  rintro ⟨code, reads⟩
  obtain ⟨gap, rest, -, -, ⟨-, noComment⟩, isCode⟩ := exists_of_trimStart_scan reads.symm
  have noSlash : ∀ others, rest ≠ '/' :: others := by
    rintro others rfl
    exact noComment ⟨rfl, '/', others, rfl, .inl rfl⟩
  cases rest with
  | nil =>
      cases isCode
  | cons c rest =>
      have startsCode : ¬ StartsWith c rest := by
        rintro ⟨rfl, -⟩
        exact noSlash rest rfl
      have isFirst := isCode.trans (scan_code_cons startsCode)
      exact noSlash rest (by rw [(List.cons.inj isFirst).1])

end

end ShaderBuild
