import ShaderBuild.Include.Resolver
import ShaderBuild.Proofs.Expansion.Lockstep
import ShaderBuild.Proofs.Expansion.Text
import ShaderBuild.Proofs.TrailingReturn

namespace ShaderBuild

/-!
# Macros given and macros defined

A macro may be given to an expansion, or its root source may define it on a first
line. The line goes through the comment scan, the search for a directive and the
cutting of a name, and its text is trimmed; the given text is kept as it is. The two
tables have the same tokens, so the expansions go on in lockstep.
-/

namespace Comment

/-- Characters that begin no comment and no quotation leave what follows them code. -/
theorem scan_code_append
    (before : List Char)
    (noSlash : '/' ∉ before)
    (noQuote : '"' ∉ before)
    {rest : List Char}
    (code : scan .code rest = (rest, false)) :
    scan .code (before ++ rest) = (before ++ rest, false) := by
  induction before with
  | nil =>
      exact code
  | cons c others inductionHypothesis =>
      rw [List.mem_cons, not_or] at noSlash noQuote
      rw [List.cons_append, scan, inductionHypothesis noSlash.2 noQuote.2]
      · rfl
      · exact fun _ isSlash => absurd isSlash.symm noSlash.1
      · exact fun _ isSlash => absurd isSlash.symm noSlash.1
      · exact fun isQuote => noQuote.1 isQuote.symm

/-- A line in which no comment begins is code. -/
theorem scan_of_noComment
    {place : Place}
    (outside : place ≠ .block)
    {line : List Char}
    (noLineComment : ¬ ['/', '/'] <:+: line)
    (noBlockComment : ¬ ['/', '*'] <:+: line) :
    scan place line = (line, false) := by
  fun_induction scan place line with
  | case1 | case2 | case3 =>
      exact absurd rfl outside
  | case4 | case9 =>
      rfl
  | case5 rest =>
      exact absurd (List.prefix_append ['/', '/'] rest).isInfix noLineComment
  | case6 rest inductionHypothesis =>
      exact absurd (List.prefix_append ['/', '*'] rest).isInfix noBlockComment
  | case7 rest inductionHypothesis
  | case8 c rest _ _ _ inductionHypothesis
  | case10 rest inductionHypothesis
  | case11 c rest _ inductionHypothesis =>
      have noLineCommentAfter : ¬ ['/', '/'] <:+: rest :=
        fun later => noLineComment (later.trans (List.suffix_cons _ _).isInfix)
      have noBlockCommentAfter : ¬ ['/', '*'] <:+: rest :=
        fun later => noBlockComment (later.trans (List.suffix_cons _ _).isInfix)
      rw [inductionHypothesis (by decide) noLineCommentAfter noBlockCommentAfter]
      rfl

end Comment

/-- The name and the text of a macro, as a line that defines it writes them. -/
def defineBody (name value : String) : List Char :=
  ' ' :: (name.toList ++ ' ' :: value.toList)

/-- The line that defines a macro. -/
def defineLine (name value : String) : List Char :=
  "#define".toList ++ defineBody name value

/-- The rest of the line after a directive that defines a macro is its name and text. -/
theorem Directive.parse?_defineLine (name value : String) :
    parse? (defineLine name value) = some (.define (defineBody name value)) :=
  rfl

theorem splitIdentifier_cons_space
    {name : List Char}
    (nonempty : name ≠ [])
    (isName : ∀ c ∈ name, Condition.isIdentifierChar c = true)
    (rest : List Char) :
    splitIdentifier (' ' :: (name ++ ' ' :: rest)) = (name, ' ' :: rest) := by
  obtain ⟨first, others, rfl⟩ := List.exists_cons_of_ne_nil nonempty
  have notSpace : Text.isSpace first = false := by
    rw [Bool.eq_false_iff]
    intro space
    have notWord := Condition.isIdentifierChar_of_isSpace space
    rw [isName first List.mem_cons_self] at notWord
    cases notWord
  have trimmed :
      Text.trimStart (' ' :: (first :: others ++ ' ' :: rest)) =
        first :: others ++ ' ' :: rest := by
    rw [Text.trimStart, List.dropWhile_cons_of_pos (by decide), List.cons_append,
      List.dropWhile_cons_of_neg (by simp [notSpace])]
  unfold splitIdentifier
  rw [trimmed, List.span_eq_takeWhile_dropWhile, List.takeWhile_append_of_pos isName,
    List.dropWhile_append_of_pos isName, List.takeWhile_cons_of_neg (by decide),
    List.dropWhile_cons_of_neg (by decide), List.append_nil]

namespace MacroTable

theorem ofDefines_concat (defines : List (String × String)) (name value : String) :
    ofDefines (defines ++ [(name, value)]) =
      (ofDefines defines).set name (some (.object value.toList)) := by
  unfold ofDefines
  rw [List.foldl_append, List.foldl_cons, List.foldl_nil]

/-- A macro that is given has the tokens of one that a line defines. -/
theorem sameTokens_define
    (table : MacroTable)
    {name : String}
    (nonempty : name.toList ≠ [])
    (isName : ∀ c ∈ name.toList, Condition.isIdentifierChar c = true)
    (value : String) :
    (table.set name (some (.object value.toList))).SameTokens
      (table.define (defineBody name value) .live) := by
  have defines :
      table.define (defineBody name value) .live =
        table.set name (some (.object (Text.trim (' ' :: value.toList)))) := by
    unfold define defineBody
    rw [splitIdentifier_cons_space nonempty isName]
    obtain ⟨first, others, shape⟩ := List.exists_cons_of_ne_nil nonempty
    simp only [shape]
    rw [← shape, String.ofList_toList]
    rfl
  rw [defines]
  -- Only here do the texts differ: one is trimmed and had a blank before it.
  refine (SameTokens.refl table).set (.some (.object ?_)) name
  rw [Condition.tokenize?_trim, Condition.tokenize?_cons_space (by decide)]

end MacroTable

/-- What is known in a root source after a first line that defines a macro. -/
def LineContext.afterDefine (table : MacroTable) (name value : String) : LineContext :=
  (top table).next false .empty (table.define (defineBody name value) .live)

section

variable
  {name value : String}
  (isName : ∀ c ∈ name.toList, Condition.isIdentifierChar c = true)
  (noLineComment : ¬ ['/', '/'] <:+: value.toList)
  (noBlockComment : ¬ ['/', '*'] <:+: value.toList)

include isName noLineComment noBlockComment

/-- The line is code. -/
theorem scan_defineLine :
    Comment.scan .code (defineLine name value) = (defineLine name value, false) := by
  have notInName {c : Char} (notWord : Condition.isIdentifierChar c = false) :
      c ∉ name.toList := by
    intro member
    rw [isName c member] at notWord
    cases notWord
  have value := Comment.scan_of_noComment (by decide : Comment.Place.code ≠ .block)
    noLineComment noBlockComment
  have afterName := Comment.scan_code_append [' '] (by decide) (by decide) value
  have named :=
    Comment.scan_code_append _ (notInName (by decide)) (notInName (by decide)) afterName
  have body := Comment.scan_code_append [' '] (by decide) (by decide) named
  exact Comment.scan_code_append "#define".toList (by decide) (by decide) body

theorem directive?_defineLine (table : MacroTable) :
    (LineContext.top table).directive? (defineLine name value) =
      some (.define (defineBody name value)) := by
  have code : Comment.strip false (defineLine name value) = defineLine name value :=
    congrArg Prod.fst (scan_defineLine isName noLineComment noBlockComment)
  change Directive.parse? (Comment.strip false (defineLine name value)) = _
  rw [code, Directive.parse?_defineLine]

/-- What is known after the line. -/
theorem advance?_defineLine (table : MacroTable) :
    (LineContext.top table).advance? (Text.dropReturn (defineLine name value)) =
      some (.afterDefine table name value) := by
  have drops := Text.dropsReturn_dropReturn (defineLine name value)
  have holds := directive?_defineLine isName noLineComment noBlockComment table
  have outside : (LineContext.top table).commentAfter (defineLine name value) = false :=
    congrArg Prod.snd (scan_defineLine isName noLineComment noBlockComment)
  rw [LineContext.advance?_dropsReturn _ drops, LineContext.advance?_eq_some_iff]
  refine ⟨by rw [holds]; rfl, .empty, ?_, ?_⟩
  · unfold LineContext.groupsAfter
    rw [holds]
    rfl
  · unfold LineContext.tableAfter
    rw [holds, outside]
    rfl

theorem keptText_defineLine (table : MacroTable) :
    (LineContext.top table).keptText (Text.dropReturn (defineLine name value)) =
      Text.dropReturn (defineLine name value) := by
  have drops := Text.dropsReturn_dropReturn (defineLine name value)
  have directives := (LineContext.top table).directive?_dropsReturn drops
  rw [directive?_defineLine isName noLineComment noBlockComment] at directives
  rw [LineContext.keptText_eq
    (advance?_defineLine isName noLineComment noBlockComment table)]
  generalize (LineContext.top table).directive? _ = directive at directives ⊢
  cases directives with
  | some same =>
      rw [Option.any_some, same.consumed]
      rfl

theorem hasVersion_defineLine (others : List (List Char)) :
    ExpansionSettings.hasVersion false (Text.dropReturn (defineLine name value) :: others) =
      ExpansionSettings.hasVersion false others := by
  have drops := Text.dropsReturn_dropReturn (defineLine name value)
  have scans := scan_defineLine isName noLineComment noBlockComment
  obtain ⟨code, comment⟩ := Comment.scan_dropsReturn .code drops
  rw [scans] at code comment
  have noVersion : Directive.isVersion (defineLine name value) = false := by
    rw [Bool.eq_false_iff]
    intro isVersion
    have noDirective := ExpansionSettings.parse?_of_isVersion isVersion
    rw [Directive.parse?_defineLine] at noDirective
    cases noDirective
  have sameVersion := Directive.isVersion_dropsReturn code
  rw [noVersion] at sameVersion
  rw [ExpansionSettings.hasVersion]
  change (!false && Directive.isVersion (Comment.scan .code _).1 ||
    ExpansionSettings.hasVersion (Comment.scan .code _).2 others) = _
  rw [← sameVersion, ← comment]
  rfl

end

theorem lineFeed_notMem_defineLine
    {name value : String}
    (isName : ∀ c ∈ name.toList, Condition.isIdentifierChar c = true)
    (noFeed : '\n' ∉ value.toList) :
    '\n' ∉ defineLine name value := by
  have notInName : '\n' ∉ name.toList :=
    fun member => absurd (isName _ member) (by decide)
  have notInDirective : '\n' ∉ "#define ".toList := by decide
  change '\n' ∉ "#define ".toList ++ (name.toList ++ ' ' :: value.toList)
  rw [List.mem_append, List.mem_append, List.mem_cons]
  rintro (inDirective | inName | isBlank | inValue)
  · exact notInDirective inDirective
  · exact notInName inName
  · exact absurd isBlank (by decide)
  · exact noFeed inValue

namespace Expansion

/-- Expansions that end alike give units, or diagnostics that differ in their lines only. -/
theorem units_of_endsAlike
    {first second : Expansion}
    (ends : EndsAlike first.result second.result)
    (root : String) :
    (∃ unit unit',
        first.unit root = .ok unit ∧ second.unit root = .ok unit' ∧
          unit.lines = first.lines ∧ unit'.lines = second.lines) ∨
      ∃ problem problem',
        first.unit root = .error problem ∧ second.unit root = .error problem' ∧
          problem.source = problem'.source ∧ problem.message = problem'.message := by
  unfold unit
  generalize first.result = result at ends ⊢
  generalize second.result = result' at ends ⊢
  cases ends with
  | ok alike =>
      exact .inl ⟨_, _, rfl, rfl, rfl, rfl⟩
  | error =>
      exact .inr ⟨_, _, rfl, rfl, rfl, rfl⟩

end Expansion

namespace ExpansionSettings

variable {root : String} {content : List Char}

/-- A root source that defines a macro on its first line is expanded from its second one. -/
theorem expand_defineLine
    {name value : String}
    (isName : ∀ c ∈ name.toList, Condition.isIdentifierChar c = true)
    (noFeed : '\n' ∉ value.toList)
    (noLineComment : ¬ ['/', '/'] <:+: value.toList)
    (noBlockComment : ¬ ['/', '*'] <:+: value.toList)
    (settings : ExpansionSettings)
    (root : String)
    (content : List Char) :
    settings.expand root (defineLine name value ++ '\n' :: content) =
      (((settings.visit root settings.depthLimit 0).run
            (.afterDefine (.ofDefines settings.defines) name value)
            (Text.lines content)).after
          [.line ⟨Text.dropReturn (defineLine name value), some ⟨root, 1⟩⟩]).after
        (preamble content ++ [.visit root]) := by
  have lines :=
    Text.lines_append_lineFeed (lineFeed_notMem_defineLine isName noFeed) content
  have samePreamble :
      preamble (defineLine name value ++ '\n' :: content) = preamble content := by
    unfold preamble
    rw [lines, hasVersion_defineLine isName noLineComment noBlockComment]
  rw [expand_eq_run, lines, samePreamble,
    Visit.run_of_advance? (advance?_defineLine isName noLineComment noBlockComment _),
    keptText_defineLine isName noLineComment noBlockComment]
  rfl

/-- After its first line the root source is visited as if the macro had been given. -/
theorem visit_given_alike
    (settings : ExpansionSettings)
    (root : String)
    {name : String}
    (nonempty : name.toList ≠ [])
    (isName : ∀ c ∈ name.toList, Condition.isIdentifierChar c = true)
    (value : String)
    (lines : List (List Char)) :
    let given := { settings with defines := settings.defines ++ [(name, value)] }
    ((given.visit root given.depthLimit 0).run (.top (.ofDefines given.defines)) lines).Alike
      ((settings.visit root settings.depthLimit 0).run
        (.afterDefine (.ofDefines settings.defines) name value) lines) := by
  intro given
  have sameMacros :=
    (MacroTable.ofDefines settings.defines).sameTokens_define nonempty isName value
  rw [← MacroTable.ofDefines_concat] at sameMacros
  have splices : Includer.Alike _ _ :=
    includer_alike (show given.resolver = settings.resolver from rfl) rfl
      settings.depthLimit 0
  have groups : GroupsStack .sameTokens Eq [] [] [] := .outside
  have contexts :
      LineContext.Alike (.top (.ofDefines given.defines))
        (.afterDefine (.ofDefines settings.defines) name value) :=
    ⟨rfl, groups, sameMacros⟩
  exact Visit.run_alike splices contexts lines

end ExpansionSettings

/--
A macro that is given is the same as a first line that defines it. Both expansions make
the same requests; both fail, with the same problem, or both succeed, and then the line
is all that the second text has more than the first one.
-/
theorem expand_given_macro
    (settings : ExpansionSettings)
    (root : String)
    (content : List Char)
    {name value : String}
    (nonempty : name.toList ≠ [])
    (isName : ∀ c ∈ name.toList, Condition.isIdentifierChar c = true)
    (noFeed : '\n' ∉ value.toList)
    (noLineComment : ¬ ['/', '/'] <:+: value.toList)
    (noBlockComment : ¬ ['/', '*'] <:+: value.toList) :
    let given := { settings with defines := settings.defines ++ [(name, value)] }
    let written := defineLine name value ++ '\n' :: content
    (given.expand root content).requests = (settings.expand root written).requests ∧
      ((∃ unit unit' others others',
          ExpandedUnit.expand given root content = .ok unit ∧
            ExpandedUnit.expand settings root written = .ok unit' ∧
              unit.lines = ExpansionSettings.versionLines content ++ others ∧
                unit'.lines =
                    ExpansionSettings.versionLines content ++
                      ⟨Text.dropReturn (defineLine name value), some ⟨root, 1⟩⟩ :: others' ∧
                  others.map (·.text) = others'.map (·.text)) ∨
        ∃ problem problem',
          ExpandedUnit.expand given root content = .error problem ∧
            ExpandedUnit.expand settings root written = .error problem' ∧
              problem.source = problem'.source ∧ problem.message = problem'.message) := by
  intro given written
  have alike :=
    ExpansionSettings.visit_given_alike settings root nonempty isName value
      (Text.lines content)
  have expands := ExpansionSettings.expand_eq_run given root content
  have expands' :
      settings.expand root written = _ :=
    ExpansionSettings.expand_defineLine isName noFeed noLineComment noBlockComment
      settings root content
  have ends :
      Expansion.EndsAlike
        (given.expand root content).result (settings.expand root written).result := by
    rw [expands, expands']
    exact alike.result
  constructor
  · rw [expands, expands', ExpansionSettings.requests_after_preamble,
      ExpansionSettings.requests_after_preamble]
    exact alike.requests_eq
  · rcases Expansion.units_of_endsAlike ends root with
      ⟨unit, unit', succeeds, succeeds', lines, lines'⟩ | fails
    · rw [expands, ExpansionSettings.lines_after_preamble] at lines
      rw [expands', ExpansionSettings.lines_after_preamble] at lines'
      exact .inl ⟨unit, unit', _, _, succeeds, succeeds', lines, lines', alike.texts_eq⟩
    · exact .inr fails

/-- A name that was given before and that compilers predefine, with blanks around its text. -/
theorem expand_given_macro_predefined :
    let settings : ExpansionSettings :=
      ⟨some (SourceCollection.ofList [("a", "float a;".toList)]).resolver, 4, [("GL_X", "0")]⟩
    let given := { settings with defines := settings.defines ++ [("GL_X", "\t1 ")] }
    let content := "#if GL_X == 1\n#include \"a\"\n#endif".toList
    let unit : ExpandedUnit :=
      { root := "main"
        lines :=
          [⟨"#version 450".toList, none⟩,
            ⟨"#if GL_X == 1".toList, some ⟨"main", 1⟩⟩,
            ⟨"float a;".toList, some ⟨"a", 1⟩⟩,
            ⟨"#endif".toList, some ⟨"main", 3⟩⟩]
        sources := ["main", "a"] }
    (∀ c ∈ "GL_X".toList, Condition.isIdentifierChar c = true) ∧
      ¬ ['/', '*'] <:+: "\t1 ".toList ∧
        ExpandedUnit.expand given "main" content = .ok unit ∧
          (∃ unit' others,
            ExpandedUnit.expand settings "main"
                (defineLine "GL_X" "\t1 " ++ '\n' :: content) = .ok unit' ∧
              unit'.lines.map (·.text) =
                "#version 450".toList :: "#define GL_X \t1 ".toList :: others ∧
                unit.lines.map (·.text) = "#version 450".toList :: others) := by
  intro settings given content unit
  have isName : ∀ c ∈ "GL_X".toList, Condition.isIdentifierChar c = true :=
    List.all_eq_true.mp (by decide +kernel)
  have noBlockComment : ¬ ['/', '*'] <:+: "\t1 ".toList := by
    decide
  have expands : ExpandedUnit.expand given "main" content = .ok unit := by
    decide +kernel
  obtain ⟨-, ⟨first, second, others, others', succeeds, succeeds', lines, lines', same⟩ | fails⟩ :=
    expand_given_macro settings "main" content (by decide) isName (by decide) (by decide)
      noBlockComment
  · have version :
        ExpansionSettings.versionLines content = [ExpansionSettings.versionLine] := by
      decide +kernel
    rw [expands] at succeeds
    cases succeeds
    refine ⟨isName, noBlockComment, expands, second, others.map (·.text), succeeds', ?_, ?_⟩
    · rw [lines', version, same]
      rfl
    · rw [lines, version]
      rfl
  · obtain ⟨problem, problem', fails, -⟩ := fails
    rw [expands] at fails
    cases fails

end ShaderBuild
