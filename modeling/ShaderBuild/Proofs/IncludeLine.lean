import ShaderBuild.Proofs.CodeGaps
import ShaderBuild.Proofs.Expansion.Text

namespace ShaderBuild

/-!
# Include lines as they are written

A line is read after its comments were taken out, and the scan for comments does not know
a file name from code. It knows quotations, so that a name in quotes is read as it is
written. A name in angle brackets is read as it is written unless a comment would start in
it; and one that leaves a quotation open makes comments behind it code.
-/

/-- White space up to the end of a line or to a line comment. -/
def IsBlankTrailing (text : List Char) : Prop :=
  Text.trimStart text = [] ∨ ['/', '/'] <+: Text.trimStart text

/-- A file name in its delimiters, and what may stand behind it. -/
inductive NamesFile : IncludeKind → (name text : List Char) → Prop where
  | quoted
      {name trailing : List Char}
      (noQuote : '"' ∉ name)
      (ends : IsTrailing trailing) :
      NamesFile .relative name ('"' :: (name ++ '"' :: trailing))
  | angled
      {name trailing : List Char}
      (noBracket : '>' ∉ name)
      (uncommented : ¬ StartsComment false name)
      (ends : if quotedAfter false name then IsBlankTrailing trailing else IsTrailing trailing) :
      NamesFile .standard name ('<' :: (name ++ '>' :: trailing))

/-- The text stands behind `#include` on the line, with gaps between. -/
def FollowsInclude (line text : List Char) : Prop :=
  ∃ first second third,
    IsGap first ∧ IsGap second ∧ IsGap third ∧
      line = first ++ '#' :: (second ++ ("include".toList ++ (third ++ text)))

/-- A line that includes a file by name. -/
def IsIncludeLine (kind : IncludeKind) (name line : List Char) : Prop :=
  name ≠ [] ∧ ∃ text, FollowsInclude line text ∧ NamesFile kind name text

/-- An include of a name in angle brackets in which a comment would start. -/
def MistakesName (line : List Char) : Prop :=
  ∃ name trailing,
    FollowsInclude line ('<' :: (name ++ '>' :: trailing)) ∧ '>' ∉ name ∧
      StartsComment false name

/-! ### Text around a file name -/

namespace Text

theorem splitAround?_cons (mark c : Char) (text : List Char) :
    splitAround? mark (c :: text) =
      if c = mark then
        some ([], text)
      else
        (splitAround? mark text).map fun around => (c :: around.1, around.2) := by
  unfold splitAround? cutBefore
  by_cases isMark : c = mark
  · simp [isMark]
  · rw [List.takeWhile_cons_of_pos (by simp [isMark]),
      List.dropWhile_cons_of_pos (by simp [isMark]), if_neg isMark]
    generalize List.dropWhile _ text = rest
    cases rest <;> rfl

/-- A text is cut around the first mark. -/
theorem splitAround?_eq_some_iff
    {mark : Char}
    {text before after : List Char} :
    splitAround? mark text = some (before, after) ↔
      text = before ++ mark :: after ∧ mark ∉ before := by
  induction text generalizing before with
  | nil =>
      refine iff_of_false nofun ?_
      rintro ⟨same, -⟩
      exact absurd same.symm (List.append_ne_nil_of_right_ne_nil _ (List.cons_ne_nil _ _))
  | cons c text inductionHypothesis =>
      rw [splitAround?_cons]
      by_cases isMark : c = mark
      · subst c
        rw [if_pos rfl, Option.some.injEq, Prod.mk.injEq]
        constructor
        · rintro ⟨rfl, rfl⟩
          exact ⟨rfl, List.not_mem_nil⟩
        · rintro ⟨same, notBefore⟩
          cases before with
          | nil =>
              exact ⟨rfl, (List.cons.inj same).2⟩
          | cons first before =>
              rw [List.cons_append, List.cons.injEq] at same
              exact absurd (same.1 ▸ List.mem_cons_self) notBefore
      · rw [if_neg isMark, Option.map_eq_some_iff]
        constructor
        · rintro ⟨around, cut, same⟩
          cases same
          obtain ⟨rfl, notBefore⟩ := inductionHypothesis.mp cut
          refine ⟨rfl, ?_⟩
          rw [List.mem_cons, not_or]
          exact ⟨fun same => isMark same.symm, notBefore⟩
        · rintro ⟨same, notBefore⟩
          cases before with
          | nil =>
              exact absurd (List.cons.inj same).1 isMark
          | cons first before =>
              rw [List.cons_append, List.cons.injEq] at same
              obtain ⟨rfl, rfl⟩ := same
              rw [List.mem_cons, not_or] at notBefore
              exact ⟨(before, after), inductionHypothesis.mpr ⟨rfl, notBefore.2⟩, rfl⟩

/-- There is one first mark in a text. -/
theorem cut_unique
    {mark : Char}
    {before after other others : List Char}
    (same : before ++ mark :: after = other ++ mark :: others)
    (isFirst : mark ∉ before)
    (isFirst' : mark ∉ other) :
    before = other ∧ after = others := by
  have cut := splitAround?_eq_some_iff.mpr ⟨same, isFirst'⟩
  rw [splitAround?_eq_some_iff.mpr ⟨rfl, isFirst⟩, Option.some.injEq, Prod.mk.injEq] at cut
  exact cut

/-- White space is all that trimming takes from the end of a text. -/
theorem exists_trimEnd (text : List Char) :
    ∃ blanks, text = trimEnd text ++ blanks ∧ ∀ c ∈ blanks, isSpace c = true := by
  refine ⟨(text.reverse.takeWhile isSpace).reverse, ?_, fun c member => ?_⟩
  · rw [trimEnd, ← List.reverse_append, List.takeWhile_append_dropWhile, List.reverse_reverse]
  · exact List.all_eq_true.mp List.all_takeWhile c (List.mem_reverse.mp member)

theorem trimStart_eq_nil_or (text : List Char) :
    trimStart text = [] ∨
      ∃ c rest, trimStart text = c :: rest ∧ isSpace c = false := by
  cases trimmed : trimStart text with
  | nil =>
      exact .inl rfl
  | cons c rest =>
      have notSpace := List.head?_dropWhile_not isSpace text
      rw [show text.dropWhile isSpace = c :: rest from trimmed] at notSpace
      exact .inr ⟨c, rest, rfl, by simpa using notSpace⟩

/-- Trimming the end of a text makes no difference to what it starts with. -/
theorem isBlankTrailing_iff_trim (text : List Char) :
    IsBlankTrailing text ↔ trim text = [] ∨ ['/', '/'] <+: trim text := by
  obtain ⟨blanks, isEnd, areBlank⟩ := exists_trimEnd (trimStart text)
  have noSlash : '/' ∉ blanks := fun member => absurd (areBlank '/' member) (by decide)
  unfold IsBlankTrailing trim
  generalize trimEnd (trimStart text) = kept at isEnd ⊢
  rcases trimStart_eq_nil_or text with isBlank | ⟨c, rest, starts, notSpace⟩
  · have noneKept : kept = [] := (List.append_eq_nil_iff.mp (isEnd.symm.trans isBlank)).1
    rw [isBlank, noneKept]
  · rw [starts] at isEnd ⊢
    cases kept with
    | nil =>
        have isBlank := areBlank c (by rw [← List.nil_append blanks, ← isEnd]; simp)
        rw [notSpace] at isBlank
        cases isBlank
    | cons first kept =>
        rw [isEnd]
        refine or_congr (iff_of_false nofun nofun) ⟨fun isComment => ?_, fun isComment => ?_⟩
        · cases kept with
          | nil =>
              obtain ⟨others, same⟩ := isComment
              rw [List.singleton_append] at same
              have isSlash := (List.cons.inj same).2
              exact absurd (isSlash ▸ List.mem_cons_self) noSlash
          | cons second kept =>
              rw [List.cons_append, List.cons_append, List.cons_prefix_cons,
                List.cons_prefix_cons] at isComment
              rw [List.cons_prefix_cons, List.cons_prefix_cons]
              exact ⟨isComment.1, isComment.2.1, List.nil_prefix⟩
        · exact isComment.trans (List.prefix_append _ blanks)

/-- No white space is part of a word. -/
theorem isWordChar_of_isSpace {c : Char} (space : isSpace c = true) : isWordChar c = false := by
  have codes :
      ∀ code ∈ [9, 10, 11, 12, 13, 32, 133, 160, 5760, 8232, 8233, 8239, 8287, 12288] ++
          List.range' 8192 11,
        isWordChar (Char.ofNat code) = false := by
    decide +kernel
  have isCode := codes c.toNat
  rw [Char.ofNat_toNat] at isCode
  apply isCode
  simp only [isSpace, Bool.or_eq_true, Bool.and_eq_true, decide_eq_true_eq] at space
  simp only [List.mem_append, List.mem_cons, List.mem_range'_1, List.not_mem_nil, or_false]
  omega

end Text

/-! ### Reading a line -/

namespace Directive

theorem opening?_eq_some_iff
    {c delimiter : Char}
    {kind : IncludeKind} :
    opening? c = some (kind, delimiter) ↔
      c = '"' ∧ kind = .relative ∧ delimiter = '"' ∨
        c = '<' ∧ kind = .standard ∧ delimiter = '>' := by
  constructor
  · intro opens
    unfold opening? at opens
    split at opens
    · cases opens
      exact .inl ⟨rfl, rfl, rfl⟩
    · cases opens
      exact .inr ⟨rfl, rfl, rfl⟩
    · cases opens
  · rintro (⟨rfl, rfl, rfl⟩ | ⟨rfl, rfl, rfl⟩) <;> rfl

/-- An include is read from a name in its delimiters. -/
theorem parseInclude_named
    {opening delimiter : Char}
    {kind : IncludeKind}
    {name after : List Char}
    (opens : opening? opening = some (kind, delimiter))
    (noDelimiter : delimiter ∉ name)
    (nonempty : name ≠ [])
    (trailing : IsBlankTrailing after) :
    parseInclude (opening :: (name ++ delimiter :: after)) =
      .includeFile kind (String.ofList name) := by
  have cut : Text.splitAround? delimiter (name ++ delimiter :: after) = some (name, after) :=
    Text.splitAround?_eq_some_iff.mpr ⟨rfl, noDelimiter⟩
  obtain ⟨first, others, rfl⟩ := List.exists_cons_of_ne_nil nonempty
  unfold parseInclude
  simp only [opens, cut]
  rcases (Text.isBlankTrailing_iff_trim after).mp trailing with isBlank | ⟨text, isComment⟩
  · rw [isBlank]
  · rw [← isComment]
    rfl

/-- Nothing else is read as an include. -/
theorem exists_of_parseInclude
    {opening : Char}
    {rest : List Char}
    {kind : IncludeKind}
    {target : String}
    (reads : parseInclude (opening :: rest) = .includeFile kind target) :
    ∃ delimiter name after,
      rest = name ++ delimiter :: after ∧ opening? opening = some (kind, delimiter) ∧
        delimiter ∉ name ∧ name ≠ [] ∧ IsBlankTrailing after ∧
          target = String.ofList name := by
  unfold parseInclude at reads
  cases opens : opening? opening with
  | none =>
      simp [opens] at reads
  | some delimited =>
      obtain ⟨found, delimiter⟩ := delimited
      cases cut : Text.splitAround? delimiter rest with
      | none =>
          simp [opens, cut] at reads
      | some around =>
          obtain ⟨name, after⟩ := around
          obtain ⟨rfl, noDelimiter⟩ := Text.splitAround?_eq_some_iff.mp cut
          simp only [opens, cut] at reads
          cases name with
          | nil =>
              cases reads
          | cons first others =>
              simp only at reads
              split at reads
              · rename_i isBlank
                cases reads
                exact ⟨delimiter, first :: others, after, rfl, rfl, noDelimiter,
                  List.cons_ne_nil _ _,
                  (Text.isBlankTrailing_iff_trim after).mpr (.inl isBlank), rfl⟩
              · rename_i text isComment
                cases reads
                exact ⟨delimiter, first :: others, after, rfl, rfl, noDelimiter,
                  List.cons_ne_nil _ _,
                  (Text.isBlankTrailing_iff_trim after).mpr (.inr ⟨text, isComment.symm⟩), rfl⟩
              · cases reads

/-- A line of code is read as an include behind `#include`. -/
theorem parse?_include
    {code body rest : List Char}
    (isDirective : Text.trimStart code = '#' :: body)
    (isInclude : Text.trimStart body = "include".toList ++ rest)
    (ends : ∀ c ∈ rest.head?, Text.isWordChar c = false) :
    parse? code = some (parseInclude (Text.trimStart rest)) := by
  have word : ∀ c ∈ "include".toList, Text.isWordChar c = true :=
    List.all_eq_true.mp (by decide)
  have noWord : rest.takeWhile Text.isWordChar = [] ∧ rest.dropWhile Text.isWordChar = rest := by
    cases rest with
    | nil =>
        exact ⟨rfl, rfl⟩
    | cons c rest =>
        have notWord := ends c rfl
        exact ⟨List.takeWhile_cons_of_neg (by simp [notWord]),
          List.dropWhile_cons_of_neg (by simp [notWord])⟩
  unfold parse? body?
  rw [isDirective]
  simp only [Option.bind_some, isInclude]
  rw [List.takeWhile_append_of_pos word, List.dropWhile_append_of_pos word, noWord.1, noWord.2]
  rfl

theorem exists_of_parse?
    {code : List Char}
    {kind : IncludeKind}
    {target : String}
    (reads : parse? code = some (.includeFile kind target)) :
    ∃ body rest,
      Text.trimStart code = '#' :: body ∧
        Text.trimStart body = "include".toList ++ rest ∧
          parseInclude (Text.trimStart rest) = .includeFile kind target := by
  unfold parse? at reads
  obtain ⟨body, isBody, reads⟩ := Option.bind_eq_some_iff.mp reads
  unfold body? at isBody
  split at isBody
  · rename_i rest isDirective
    cases isBody
    simp only at reads
    split at reads
    case h_1 isInclude =>
      refine ⟨rest, (Text.trimStart rest).dropWhile Text.isWordChar, isDirective, ?_,
        Option.some.inj reads⟩
      have word : (Text.trimStart rest).takeWhile Text.isWordChar = "include".toList := by
        rw [← isInclude, String.toList_ofList]
      rw [← word, List.takeWhile_append_dropWhile]
    case h_2 isExtension =>
      simp only [parseExtension?] at reads
      split at reads <;> cases reads
    all_goals cases reads
  · cases isBody

end Directive

section

open Comment

theorem strip_eq (line : List Char) : strip false line = (scan .code line).1 := rfl

/-- Letters in code are letters on the line. -/
theorem exists_of_scan_word
    {word text code : List Char}
    (isWord : ∀ c ∈ word, c ≠ ' ' ∧ c ≠ '"')
    (reads : (scan .code text).1 = word ++ code) :
    ∃ rest, text = word ++ rest ∧ code = (scan .code rest).1 := by
  induction word generalizing text with
  | nil =>
      exact ⟨text, rfl, reads.symm⟩
  | cons c word inductionHypothesis =>
      obtain ⟨notBlank, notQuote⟩ := isWord c List.mem_cons_self
      cases text with
      | nil =>
          cases reads
      | cons first text =>
          by_cases startsComment : StartsWith first text
          · obtain ⟨rfl, mark, others, rfl, rfl | rfl⟩ := startsComment
            · cases reads
            · rw [scan, Prod.map_fst, List.cons_append, List.cons.injEq] at reads
              exact absurd reads.1.symm notBlank
          · rw [scan_code_cons startsComment, List.cons_append, List.cons.injEq] at reads
            obtain ⟨rfl, reads⟩ := reads
            rw [beq_false_of_ne notQuote] at reads
            obtain ⟨rest, rfl, isCode⟩ :=
              inductionHypothesis (fun other member => isWord other (List.mem_cons_of_mem _ member))
                reads
            exact ⟨rest, rfl, isCode⟩

/-- Code behind a gap does not go on with a word that is before it. -/
theorem isWordChar_head?_scan_gap
    {gap : List Char}
    (isGap : IsGap gap)
    {c : Char}
    {rest : List Char}
    (startsCode : StartsCode c rest)
    (notWord : Text.isWordChar c = false) :
    ∀ first ∈ (scan .code (gap ++ c :: rest)).1.head?, Text.isWordChar first = false := by
  intro first isFirst
  cases isGap with
  | nil =>
      rw [List.nil_append, scan_code_cons startsCode.2] at isFirst
      cases isFirst
      exact notWord
  | @space blank others isSpace more =>
      have scanned :
          (scan .code (blank :: (others ++ c :: rest))).1 =
            blank :: (scan .code (others ++ c :: rest)).1 :=
        scan_cons_of_isSpace isSpace false _
      rw [List.cons_append, scanned] at isFirst
      cases isFirst
      exact Text.isWordChar_of_isSpace isSpace
  | comment closed more =>
      rw [List.cons_append, List.cons_append, scan] at isFirst
      cases isFirst
      decide

/-- Behind `#include` and a gap, what follows is read as a name. -/
theorem parse?_of_followsInclude
    {line rest : List Char}
    {c : Char}
    (follows : FollowsInclude line (c :: rest))
    (startsCode : StartsCode c rest)
    (notWord : Text.isWordChar c = false) :
    Directive.parse? (strip false line) =
      some (Directive.parseInclude (c :: (scan (.inCode (c == '"')) rest).1)) := by
  obtain ⟨first, second, third, isFirst, isSecond, isThird, rfl⟩ := follows
  have isSign : StartsCode '#' (second ++ ("include".toList ++ (third ++ c :: rest))) :=
    startsCode_of_ne (by decide) (by decide) _
  have isLetter : StartsCode 'i' ("nclude".toList ++ (third ++ c :: rest)) :=
    startsCode_of_ne (by decide) (by decide) _
  have isInclude :
      Text.trimStart
          (scan .code (second ++ ("include".toList ++ (third ++ c :: rest)))).1 =
        "include".toList ++ (scan .code (third ++ c :: rest)).1 :=
    trimStart_scan_gap isSecond isLetter
  rw [strip_eq, Directive.parse?_include (trimStart_scan_gap isFirst isSign) isInclude
    (isWordChar_head?_scan_gap isThird startsCode notWord),
    trimStart_scan_gap isThird startsCode]

/-- An include is read behind `#include` and a gap. -/
theorem exists_followsInclude
    {line : List Char}
    {kind : IncludeKind}
    {target : String}
    (reads : Directive.parse? (strip false line) = some (.includeFile kind target)) :
    ∃ c rest,
      FollowsInclude line (c :: rest) ∧
        Directive.parseInclude (c :: (scan (.inCode (c == '"')) rest).1) =
          .includeFile kind target := by
  obtain ⟨body, code, isDirective, isInclude, isName⟩ := Directive.exists_of_parse? reads
  obtain ⟨first, afterSign, rfl, isFirst, -, rfl⟩ := exists_of_trimStart_scan isDirective
  obtain ⟨second, afterLetter, rfl, isSecond, -, isRest⟩ := exists_of_trimStart_scan isInclude
  have letters : ∀ c ∈ "nclude".toList, c ≠ ' ' ∧ c ≠ '"' := by
    simp
  obtain ⟨afterInclude, rfl, rfl⟩ := exists_of_scan_word letters isRest.symm
  cases named : Text.trimStart (scan .code afterInclude).1 with
  | nil =>
      rw [named] at isName
      cases isName
  | cons c rest =>
      obtain ⟨third, rest, rfl, isThird, -, rfl⟩ := exists_of_trimStart_scan named
      rw [named] at isName
      exact ⟨c, rest, ⟨first, second, third, isFirst, isSecond, isThird, rfl⟩, isName⟩

/-! ### What stands behind a name -/

theorem isBlankTrailing_scan_code_iff {text : List Char} :
    IsBlankTrailing (scan .code text).1 ↔ IsTrailing text :=
  (or_iff_left (not_lineComment_trimStart_scan text)).trans trimStart_scan_eq_nil_iff

/-- In a quotation, white space and what follows it are code. -/
theorem isBlankTrailing_scan_quotation_iff {text : List Char} :
    IsBlankTrailing (scan .quotation text).1 ↔ IsBlankTrailing text := by
  have scanned (c : Char) (rest : List Char) :
      (scan .quotation (c :: rest)).1 = c :: (scan (.inCode (true != (c == '"'))) rest).1 :=
    show (scan (.inCode true) (c :: rest)).1 = _ from scan_cons nofun
  unfold IsBlankTrailing
  induction text with
  | nil =>
      rfl
  | cons c text inductionHypothesis =>
      cases isSpace : Text.isSpace c with
      | true =>
          have blank : (scan .quotation (c :: text)).1 = c :: (scan .quotation text).1 :=
            scan_cons_of_isSpace isSpace true text
          rw [blank, Text.trimStart_cons_of_isSpace isSpace,
            Text.trimStart_cons_of_isSpace isSpace]
          exact inductionHypothesis
      | false =>
          -- The character may end the quotation, but it is no slash then.
          rw [scanned, Text.trimStart_cons_of_not_isSpace isSpace,
            Text.trimStart_cons_of_not_isSpace isSpace]
          refine or_congr (iff_of_false nofun nofun) ?_
          rw [List.cons_prefix_cons, List.cons_prefix_cons]
          refine and_congr_right fun isSlash => ?_
          subst isSlash
          cases text with
          | nil =>
              rfl
          | cons d text =>
              change ['/'] <+: (scan .quotation (d :: text)).1 ↔ _
              rw [scanned, List.cons_prefix_cons, List.cons_prefix_cons]
              exact and_congr_right fun _ => iff_of_true List.nil_prefix List.nil_prefix

/-- What may stand behind a name in angle brackets. -/
theorem isBlankTrailing_scan_iff {quoted : Bool} {text : List Char} :
    IsBlankTrailing (scan (.inCode quoted) text).1 ↔
      if quoted then IsBlankTrailing text else IsTrailing text := by
  cases quoted with
  | true =>
      exact isBlankTrailing_scan_quotation_iff
  | false =>
      exact isBlankTrailing_scan_code_iff

theorem scan_quoted_name
    {name : List Char}
    (noQuote : '"' ∉ name)
    (trailing : List Char) :
    (scan .quotation (name ++ '"' :: trailing)).1 = name ++ '"' :: (scan .code trailing).1 := by
  rw [scan_quotation noQuote]
  rfl

theorem scan_angled_name
    {name : List Char}
    (uncommented : ¬ StartsComment false name)
    (trailing : List Char) :
    (scan .code (name ++ '>' :: trailing)).1 =
      name ++ '>' :: (scan (.inCode (quotedAfter false name)) trailing).1 := by
  have scanned :
      (scan (.inCode false) (name ++ '>' :: trailing)).1 =
        name ++ (scan (.inCode (quotedAfter false name)) ('>' :: trailing)).1 :=
    scan_uncommented uncommented (by decide) (by decide) trailing
  have notComment : ¬ StartsWith '>' trailing :=
    not_startsWith_of_ne (by decide) trailing
  rw [scan_cons fun _ => notComment, show ('>' == '"') = false from rfl, Bool.bne_false] at scanned
  exact scanned

/-! ### Include lines -/

/-- An include line is read as an include of the name that is written. -/
theorem IsIncludeLine.parse?_eq
    {kind : IncludeKind}
    {name line : List Char}
    (isLine : IsIncludeLine kind name line) :
    Directive.parse? (strip false line) =
      some (.includeFile kind (String.ofList name)) := by
  obtain ⟨nonempty, text, follows, names⟩ := isLine
  cases names with
  | @quoted _ trailing noQuote ends =>
      rw [parse?_of_followsInclude follows
        (startsCode_of_ne (by decide) (by decide) _) (by decide)]
      change some (Directive.parseInclude ('"' :: (scan .quotation _).1)) = _
      rw [scan_quoted_name noQuote, Directive.parseInclude_named rfl noQuote nonempty
        (isBlankTrailing_scan_code_iff.mpr ends)]
  | @angled _ trailing noBracket uncommented ends =>
      rw [parse?_of_followsInclude follows
        (startsCode_of_ne (by decide) (by decide) _) (by decide)]
      change some (Directive.parseInclude ('<' :: (scan .code _).1)) = _
      rw [scan_angled_name uncommented, Directive.parseInclude_named rfl noBracket nonempty
        (isBlankTrailing_scan_iff.mpr ends)]

/-- Nothing else is read as an include, unless a comment starts in a name. -/
theorem isIncludeLine_or_mistakesName
    {kind : IncludeKind}
    {target : String}
    {line : List Char}
    (reads : Directive.parse? (strip false line) = some (.includeFile kind target)) :
    IsIncludeLine kind target.toList line ∨ kind = .standard ∧ MistakesName line := by
  obtain ⟨opening, rest, follows, isName⟩ := exists_followsInclude reads
  obtain ⟨delimiter, name, after, isRest, opens, noDelimiter, nonempty, trailing, rfl⟩ :=
    Directive.exists_of_parseInclude isName
  rw [String.toList_ofList]
  -- The closing delimiter is no blank of a comment, so it stands on the line.
  have isCode : delimiter ∈ (scan (.inCode (opening == '"')) rest).1 := by
    rw [isRest]
    exact List.mem_append_right _ List.mem_cons_self
  rcases Directive.opening?_eq_some_iff.mp opens with ⟨rfl, rfl, rfl⟩ | ⟨rfl, rfl, rfl⟩
  · left
    obtain ⟨written, ends, rfl, noQuote⟩ :=
      List.eq_append_cons_of_mem (mem_of_mem_scan isCode (by decide))
    have scanned := (scan_quoted_name noQuote ends).symm.trans isRest
    obtain ⟨rfl, rfl⟩ := Text.cut_unique scanned noQuote noDelimiter
    exact ⟨nonempty, _, follows, .quoted noQuote (isBlankTrailing_scan_code_iff.mp trailing)⟩
  · obtain ⟨written, ends, rfl, noBracket⟩ :=
      List.eq_append_cons_of_mem (mem_of_mem_scan isCode (by decide))
    by_cases startsComment : StartsComment false written
    · exact .inr ⟨rfl, written, ends, follows, noBracket, startsComment⟩
    · left
      have scanned := (scan_angled_name startsComment ends).symm.trans isRest
      obtain ⟨rfl, rfl⟩ := Text.cut_unique scanned noBracket noDelimiter
      exact ⟨nonempty, _, follows,
        .angled noBracket startsComment (isBlankTrailing_scan_iff.mp trailing)⟩

end

namespace LineContext

/-- The include that stands on a line is read outside comments, in a region not skipped. -/
theorem includes?_eq_some_iff
    {context : LineContext}
    {line : List Char}
    {kind : IncludeKind}
    {target : String} :
    context.includes? line = some (kind, target) ↔
      context.inComment = false ∧ context.conditionals.liveness ≠ .dead ∧
        Directive.parse? (Comment.strip false line) = some (.includeFile kind target) := by
  constructor
  · intro includes
    obtain ⟨holds, notDead⟩ := directive?_of_includes? includes
    have outside := inComment_of_directive? holds
    rw [directive?, outside] at holds
    exact ⟨outside, notDead, holds⟩
  · rintro ⟨outside, notDead, reads⟩
    have alive : context.conditionals.liveness.isDead = false := by
      simpa [Liveness.isDead] using notDead
    simp only [includes?, directive?, outside, Bool.false_eq_true, if_false, reads, alive]

end LineContext

end ShaderBuild
