import Mathlib.Control.Monad.Basic
import ShaderBuild.Proofs.Expansion.DepthLimit
import ShaderBuild.Proofs.Expansion.Inlining

namespace ShaderBuild

/-!
# A root source with a file in the place of an include

A root source includes a file at some line. The same source with the lines of the
file in that line's place is expanded to the same text, and one of the two
expansions succeeds if the other one does, as long as the file is transparent inside
the groups that are open at the include.

A file that is not transparent has a directive that takes another effect in the two
sources.
-/

/-- The expansion of a root source comes to a line that a file takes the place of. -/
structure SplicesAt
    (settings : ExpansionSettings)
    (root : String)
    (content : List Char)
    (before : List (List Char))
    (line : List Char)
    (after : List (List Char))
    (site : LineContext)
    (included : IncludedSource) :
    Prop where
  content_eq : Text.lines content = before ++ line :: after
  reached : (settings.entries root content)[before.length]? = some (site, line)
  includes :
    ∃ kind target,
      site.includes? line = some (kind, target) ∧
        Answers settings.resolver ⟨target, kind, root, 1⟩ included

/-- A root source in which the lines of an included file stand in the place of the include. -/
def Inlined
    (content : List Char)
    (before : List (List Char))
    (line : List Char)
    (after : List (List Char))
    (site : LineContext)
    (included : IncludedSource) :
    Prop :=
  Text.lines content =
    before ++
      (Text.lines included.content ++
        (VisitedLines.closingText (site.commentAfter line) ++ after))

/-- The file is transparent inside the groups that are open at its include. -/
abbrev IsTransparentAt
    (resolver : Option Resolver)
    (site : LineContext)
    (included : IncludedSource) :
    Prop :=
  IsTransparentFile resolver site.conditionals.groups included.name 1
    (.top site.macros) (Text.lines included.content)

namespace SplicesAt

variable
  {settings : ExpansionSettings} {root : String} {content content' : List Char}
  {before after : List (List Char)} {line : List Char} {site : LineContext}
  {included : IncludedSource}

theorem notDead
    (splices : SplicesAt settings root content before line after site included) :
    Conditionals.liveness ⟨site.conditionals.groups⟩ ≠ .dead := by
  obtain ⟨kind, target, includes, -⟩ := splices.includes
  exact (LineContext.directive?_of_includes? includes).2

theorem outside
    (splices : SplicesAt settings root content before line after site included) :
    site.inComment = false := by
  obtain ⟨kind, target, includes, -⟩ := splices.includes
  exact LineContext.inComment_of_directive? (LineContext.directive?_of_includes? includes).1

theorem passes_before
    (splices : SplicesAt settings root content before line after site included) :
    ∃ visited,
      Passes settings.resolver root 0 (.top (.ofDefines settings.defines))
        before visited site := by
  obtain ⟨visited, passes, -⟩ := ExpansionSettings.passes_of_entry splices.reached
  rw [splices.content_eq, List.take_left] at passes
  exact ⟨visited, passes⟩

/-- A passage through a root source passes the file that it includes. -/
theorem split
    (splices : SplicesAt settings root content before line after site included)
    {visited : VisitedLines}
    {last : LineContext}
    (passes :
      Passes settings.resolver root 0 (.top (.ofDefines settings.defines))
        (Text.lines content) visited last) :
    ∃ first request inside bottom rest,
      Passes settings.resolver root 0 (.top (.ofDefines settings.defines))
          before first site ∧
        Passes settings.resolver included.name 1 (.top site.macros)
            (Text.lines included.content) inside bottom ∧
          bottom.IsEnd true ∧
            Passes settings.resolver root 0 (site.resume line bottom.macros)
                after rest last ∧
              visited =
                first.append (.spliced site line request included inside rest) := by
  obtain ⟨first, passesFirst⟩ := splices.passes_before
  obtain ⟨kind, target, includes, answers⟩ := splices.includes
  rw [splices.content_eq] at passes
  obtain ⟨first', rest, middle, passesBefore, passesRest, rfl⟩ := passes.split
  obtain ⟨rfl, rfl⟩ := passesFirst.unique passesBefore
  cases passesRest with
  | kept single keeps goesOn =>
      rw [includes] at single
      cases single
  | @spliced _ _ _ bottom _ _ _ kind' target' included' inside rest
      includes' answers' nested ends goesOn =>
      rw [includes, Option.some.injEq, Prod.mk.injEq] at includes'
      obtain ⟨rfl, rfl⟩ := includes'
      obtain ⟨given, isGiven, resolved⟩ := answers
      obtain ⟨given', isGiven', resolved'⟩ := answers'
      rw [isGiven, Option.some.injEq] at isGiven'
      subst isGiven'
      rw [resolved, Except.ok.injEq] at resolved'
      subst resolved'
      exact ⟨first, _, inside, bottom, rest, passesBefore, nested, ends, goesOn, rfl⟩

/-- A root source is passed if its parts and the file that it includes are passed. -/
theorem join
    (splices : SplicesAt settings root content before line after site included)
    {first inside rest : VisitedLines}
    {bottom last : LineContext}
    (passesBefore :
      Passes settings.resolver root 0 (.top (.ofDefines settings.defines))
        before first site)
    (nested :
      Passes settings.resolver included.name 1 (.top site.macros)
        (Text.lines included.content) inside bottom)
    (ends : bottom.IsEnd true)
    (goesOn :
      Passes settings.resolver root 0 (site.resume line bottom.macros) after rest last) :
    ∃ visited,
      Passes settings.resolver root 0 (.top (.ofDefines settings.defines))
          (Text.lines content) visited last ∧
        visited.texts =
          first.texts ++
            (inside.texts ++
              (VisitedLines.closingText (site.commentAfter line) ++ rest.texts)) := by
  obtain ⟨kind, target, includes, answers⟩ := splices.includes
  rw [splices.content_eq]
  refine ⟨_, passesBefore.append (.spliced includes answers nested ends goesOn), ?_⟩
  simp [VisitedLines.texts]

/-- With the file's lines in the place of the include, the text is the same. -/
theorem exists_records_inlined
    (splices : SplicesAt settings root content before line after site included)
    (ignores : IgnoresSite settings.resolver)
    (inlined : Inlined content' before line after site included)
    (transparent : IsTransparentAt settings.resolver site included)
    {visited : VisitedLines}
    {last : LineContext}
    (records : settings.Records root content visited last) :
    ∃ visited' last',
      settings.Records root content' visited' last' ∧ visited'.texts = visited.texts := by
  obtain ⟨first, request, inside, bottom, rest, passesBefore, nested, ends, goesOn, rfl⟩ :=
    splices.split records.passes
  have fits := records.fits
  simp only [VisitedLines.height_append, VisitedLines.height] at fits
  obtain ⟨file, fileEnd, passesFile, inlinesFile, fileTexts, fileHeight⟩ :=
    nested.inline ignores (.top splices.outside) splices.notDead transparent root 0
  obtain ⟨closing, resumed, passesClosing, closingTexts, closingHeight, inlinesResumed⟩ :=
    inlinesFile.closing ends line settings.resolver root 0
  obtain ⟨rest', last', passesRest, inlinesLast, restTexts, restHeight⟩ :=
    goesOn.inline ignores inlinesResumed (by decide) (.of_live rfl _) root 0
  have passes :=
    passesBefore.append (passesFile.append (passesClosing.append passesRest))
  rw [← inlined] at passes
  refine ⟨_, last', ⟨passes, inlinesLast.isEnd records.ends, ?_⟩, ?_⟩
  · simp only [VisitedLines.height_append, fileHeight, closingHeight, restHeight]
    omega
  · simp [VisitedLines.texts, fileTexts, closingTexts, restTexts]

/-- With the include in the place of the file's lines, the text is the same. -/
theorem exists_passes_outlined
    (splices : SplicesAt settings root content before line after site included)
    (ignores : IgnoresSite settings.resolver)
    (inlined : Inlined content' before line after site included)
    (transparent : IsTransparentAt settings.resolver site included)
    (balanced : Directive.IsBalanced (Directive.ofLines false (Text.lines included.content)))
    (outside : Comment.isOpenAfterAll false (Text.lines included.content) = false)
    {visited' : VisitedLines}
    {last' : LineContext}
    (records : settings.Records root content' visited' last') :
    ∃ visited last,
      Passes settings.resolver root 0 (.top (.ofDefines settings.defines))
          (Text.lines content) visited last ∧
        last.IsEnd false ∧ visited.texts = visited'.texts := by
  have passes := records.passes
  rw [inlined] at passes
  obtain ⟨first, others, middle, passesBefore, passesOthers, rfl⟩ := passes.split
  obtain ⟨first', passesFirst⟩ := splices.passes_before
  obtain ⟨rfl, rfl⟩ := passesFirst.unique passesBefore
  obtain ⟨file, behind, fileEnd, passesFile, passesBehind, rfl⟩ := passesOthers.split
  obtain ⟨closing, rest, resumed, passesClosing, passesRest, rfl⟩ := passesBehind.split
  obtain ⟨inside, bottom, nested, inlinesFile, fileTexts⟩ :=
    passesFile.outline ignores (.top splices.outside) splices.notDead transparent balanced
  have ends : bottom.IsEnd true := by
    refine ⟨?_, fun _ => ?_⟩
    · have flags := nested.nest_flags.symm.trans balanced
      simpa [Conditionals.flags] using flags
    · exact nested.isOpenAfterAll_lines.symm.trans outside
  obtain ⟨closing', resumed', passesClosing', closingTexts, -, inlinesResumed⟩ :=
    inlinesFile.closing ends line settings.resolver root 0
  obtain ⟨rfl, rfl⟩ := passesClosing.unique passesClosing'
  obtain ⟨rest', last, goesOn, inlinesLast, restTexts, -⟩ :=
    passesRest.inline ignores inlinesResumed.symm (by decide) (.of_live rfl _) root 0
  obtain ⟨visited, passes, texts⟩ := splices.join passesBefore nested ends goesOn
  refine ⟨visited, last, passes, inlinesLast.isEnd records.ends, ?_⟩
  simp [texts, fileTexts, closingTexts, restTexts]

/-- A file that is not transparent stands where it is unknown whether it is reached. -/
theorem unknown_of_not_live
    (splices : SplicesAt settings root content before line after site included)
    (notLive : Conditionals.liveness ⟨site.conditionals.groups⟩ ≠ .live) :
    Conditionals.liveness ⟨site.conditionals.groups⟩ = .unknown := by
  cases region : Conditionals.liveness ⟨site.conditionals.groups⟩ with
  | live =>
      exact absurd region notLive
  | dead =>
      exact absurd region splices.notDead
  | unknown =>
      rfl

/-- No expansion gets past a file that holds an `#error` which its own visit takes for live. -/
theorem expand_ne_ok_of_error
    (splices : SplicesAt settings root content before line after site included)
    {n : Nat}
    {text message : List Char}
    {alone : LineContext}
    {visited : VisitedLines}
    (found : (Text.lines included.content)[n]? = some text)
    (passes :
      Passes settings.resolver included.name 1 (.top site.macros)
        ((Text.lines included.content).take n) visited alone)
    (holds : alone.directive? text = some (.error message))
    (live : alone.conditionals.liveness = .live)
    (unit : ExpandedUnit) :
    ExpandedUnit.expand settings root content ≠ .ok unit := by
  intro succeeds
  obtain ⟨whole, last, records⟩ := ExpansionSettings.exists_records succeeds
  obtain ⟨first, request, inside, bottom, rest, -, nested, -, -, -⟩ :=
    splices.split records.passes
  obtain ⟨isBelow, isText⟩ := List.getElem?_eq_some_iff.mp found
  rw [← List.take_append_drop n (Text.lines included.content),
    List.drop_eq_getElem_cons isBelow, isText] at nested
  obtain ⟨before, others, middle, passesBefore, passesOthers, -⟩ := nested.split
  obtain ⟨-, rfl⟩ := passes.unique passesBefore
  cases passesOthers with
  | kept single keeps goesOn =>
      obtain ⟨passable, -⟩ := LineContext.advance?_eq_some_iff.mp keeps
      simp [holds, live, Directive.isPassable] at passable
  | spliced includes answers nested ends goesOn =>
      rw [(LineContext.directive?_of_includes? includes).1] at holds
      cases holds

end SplicesAt

namespace MacroTable

theorem definition_known (rest : List Char) :
    definition rest = .function ∨ ∃ text, definition rest = .object text := by
  unfold definition
  split
  · exact .inl rfl
  · exact .inr ⟨_, rfl⟩

/-- Whether the name is defined behind a definition is known in live regions only. -/
theorem isNameDefined_define
    {body : List Char}
    (sensitive : (Directive.define body).isSensitive = true)
    (table table' : MacroTable) :
    ∃ name,
      ((table.define body .live).isNameDefined name).isSome = true ∧
        (table'.define body .unknown).isNameDefined name = none := by
  unfold define
  simp only [Directive.isSensitive] at sensitive
  cases split : splitIdentifier body with
  | mk name rest =>
      cases name with
      | nil =>
          simp [split] at sensitive
      | cons c others =>
          refine ⟨String.ofList (c :: others), ?_, ?_⟩
          · simp only [isNameDefined, lookup_set_self]
            rcases definition_known rest with isFunction | ⟨text, isObject⟩
            · rw [isFunction]
              rfl
            · rw [isObject]
              rfl
          · simp only [isNameDefined, lookup_set_self]

/-- Whether the name is defined behind the end of a definition is known in live regions only. -/
theorem isNameDefined_undefine
    {body : List Char}
    (sensitive : (Directive.undef body).isSensitive = true)
    (table table' : MacroTable) :
    ((table.undefine body .live).isNameDefined (firstIdentifier body)).isSome = true ∧
      (table'.undefine body .unknown).isNameDefined (firstIdentifier body) = none := by
  have notPredefined : isPredefined (firstIdentifier body) = false := by
    simpa [Directive.isSensitive] using sensitive
  simp [undefine, isNameDefined, notPredefined]

end MacroTable

/--
A directive of an included file has one effect in the file, which is taken for live,
and another one in the place of the include, where it is unknown whether the include
is reached: the file's `#error` ends the expansion, or whether a name is defined
behind the directive is known to one visit only.
-/
def EffectsDiffer
    (settings : ExpansionSettings)
    (root : String)
    (content : List Char)
    (before : List (List Char))
    (site : LineContext)
    (included : IncludedSource) :
    Prop :=
  ∃ (n : Nat) (text : List Char) (directive : Directive) (alone inlined : LineContext),
    (Text.lines included.content)[n]? = some text ∧
      (∃ visited,
        Passes settings.resolver included.name 1 (.top site.macros)
          ((Text.lines included.content).take n) visited alone) ∧
      (∃ visited,
        Passes settings.resolver root 0 (.top (.ofDefines settings.defines))
          (before ++ (Text.lines included.content).take n) visited inlined) ∧
      alone.directive? text = some directive ∧
      inlined.directive? text = some directive ∧
      alone.macros.view = inlined.macros.view ∧
      alone.conditionals.liveness = .live ∧
      inlined.conditionals.liveness = .unknown ∧
      (((∃ message, directive = .error message) ∧
          (∀ unit, ExpandedUnit.expand settings root content ≠ .ok unit) ∧
            (inlined.advance? text).isSome = true) ∨
        ∃ name,
          ((alone.tableAfter text).isNameDefined name).isSome = true ∧
            (inlined.tableAfter text).isNameDefined name = none)

/-- A file that is not transparent has a directive that takes different effects. -/
theorem SplicesAt.effectsDiffer
    {settings : ExpansionSettings}
    {root : String}
    {content : List Char}
    {before after : List (List Char)}
    {line : List Char}
    {site : LineContext}
    {included : IncludedSource}
    (splices : SplicesAt settings root content before line after site included)
    (ignores : IgnoresSite settings.resolver)
    (notTransparent : ¬IsTransparentAt settings.resolver site included) :
    EffectsDiffer settings root content before site included := by
  obtain ⟨n, visited, alone, text, passes, found, notHere, transparent⟩ :=
    IsTransparentFile.exists_first notTransparent
  obtain ⟨notLive, live, directive, holds, sensitive⟩ :=
    LineContext.sensitive_of_not_transparent notHere
  have isUnknown := splices.unknown_of_not_live notLive
  obtain ⟨first, passesFirst⟩ := splices.passes_before
  obtain ⟨visited', inlined, passes', inlines, -, -⟩ :=
    passes.inline ignores (.top splices.outside) splices.notDead transparent root 0
  have region : inlined.conditionals.liveness = .unknown := by
    rw [inlines.liveness, isUnknown, live]
    rfl
  have holds' := (inlines.directive?_eq text).trans holds
  refine ⟨n, text, directive, alone, inlined, found, ⟨visited, passes⟩,
    ⟨_, passesFirst.append passes'⟩, holds, holds', Eq.symm inlines.macros, live, region, ?_⟩
  unfold LineContext.tableAfter
  rw [holds, holds']
  cases directive with
  | error message =>
      left
      refine ⟨⟨message, rfl⟩,
        splices.expand_ne_ok_of_error found passes holds live, ?_⟩
      have keeps :
          inlined.advance? text =
            some (inlined.next (inlined.commentAfter text) inlined.conditionals
              inlined.macros) := by
        rw [LineContext.advance?_eq_some_iff, LineContext.groupsAfter,
          LineContext.tableAfter, holds']
        exact ⟨by simp [Directive.isPassable, region], _, rfl, rfl⟩
      rw [keeps]
      rfl
  | define body =>
      right
      simp only [LineContext.macrosAfter, live, region]
      exact MacroTable.isNameDefined_define sensitive alone.macros inlined.macros
  | undef body =>
      right
      simp only [LineContext.macrosAfter, live, region]
      exact ⟨_, MacroTable.isNameDefined_undefine sensitive alone.macros inlined.macros⟩
  | _ =>
      cases sensitive

theorem ExpandedUnit.text_congr
    {unit unit' : ExpandedUnit}
    (sameTexts : unit'.lines.map (·.text) = unit.lines.map (·.text)) :
    unit'.text = unit.text :=
  congrArg Text.unlines sameTexts

/--
An included file whose lines stand in the place of the include. If the file is
transparent at the include, as it is in every live region, the two sources are
expanded to the same text; back from the lines to the include the file must be
balanced and may not be nested too deep. Otherwise it is unknown whether the include
is reached, and a directive of the file takes another effect there than in the file.
-/
theorem expand_inlined
    {collection : SourceCollection}
    {limit : Nat}
    {defines : List (String × String)}
    {root : String}
    {content content' : List Char}
    {before after : List (List Char)}
    {line : List Char}
    {site : LineContext}
    {included : IncludedSource}
    (splices :
      SplicesAt ⟨some collection.resolver, limit, defines⟩ root content
        before line after site included)
    (inlined : Inlined content' before line after site included)
    (sameVersion :
      ExpansionSettings.hasVersion false (Text.lines content') =
        ExpansionSettings.hasVersion false (Text.lines content)) :
    let settings : ExpansionSettings := ⟨some collection.resolver, limit, defines⟩
    (site.conditionals.liveness = .live →
        IsTransparentAt settings.resolver site included) ∧
      (IsTransparentAt settings.resolver site included →
        (∀ unit,
          ExpandedUnit.expand settings root content = .ok unit →
            ∃ unit',
              ExpandedUnit.expand settings root content' = .ok unit' ∧
                unit'.text = unit.text) ∧
          ∀ unit',
            ExpandedUnit.expand settings root content' = .ok unit' →
              Directive.IsBalanced
                  (Directive.ofLines false (Text.lines included.content)) →
                Comment.isOpenAfterAll false (Text.lines included.content) = false →
                  (∀ origin target,
                    (settings.expand root content).result ≠
                      .error ⟨origin, .includeFailed (.tooDeep target limit)⟩) →
                    ∃ unit,
                      ExpandedUnit.expand settings root content = .ok unit ∧
                        unit.text = unit'.text) ∧
        (¬IsTransparentAt settings.resolver site included →
          site.conditionals.liveness = .unknown ∧
            EffectsDiffer settings root content before site included) := by
  intro settings
  have ignores : IgnoresSite settings.resolver := collection.ignoresSite
  have sameLines := ExpansionSettings.versionLines_congr sameVersion
  refine
    ⟨fun live => .of_live live _, fun transparent => ⟨?_, ?_⟩,
      fun notTransparent => ?_⟩
  · intro unit succeeds
    obtain ⟨visited, last, records⟩ := ExpansionSettings.exists_records succeeds
    obtain ⟨visited', last', records', texts⟩ :=
      splices.exists_records_inlined ignores inlined transparent records
    obtain ⟨unit', succeeds', unitTexts⟩ := records'.exists_unit
    refine ⟨unit', succeeds', ExpandedUnit.text_congr ?_⟩
    rw [unitTexts, records.texts_of_expand succeeds, ExpansionSettings.Records.texts,
      ExpansionSettings.Records.texts, texts, sameLines]
  · intro unit' succeeds' balanced outside notTooDeep
    obtain ⟨visited', last', records'⟩ := ExpansionSettings.exists_records succeeds'
    obtain ⟨visited, last, passes, ends, texts⟩ :=
      splices.exists_passes_outlined ignores inlined transparent balanced outside records'
    have fits : visited.height ≤ limit := by
      by_contra tooHigh
      obtain ⟨origin, target, fails⟩ :=
        ExpansionSettings.run_of_height_gt passes (Nat.lt_of_not_le tooHigh)
      exact notTooDeep origin target fails
    have records : settings.Records root content visited last := ⟨passes, ends, fits⟩
    obtain ⟨unit, succeeds, unitTexts⟩ := records.exists_unit
    refine ⟨unit, succeeds, ExpandedUnit.text_congr ?_⟩
    rw [unitTexts, records'.texts_of_expand succeeds', ExpansionSettings.Records.texts,
      ExpansionSettings.Records.texts, texts, sameLines]
  · obtain ⟨n, visited, alone, text, -, -, notHere, -⟩ :=
      IsTransparentFile.exists_first notTransparent
    exact ⟨splices.unknown_of_not_live (LineContext.sensitive_of_not_transparent notHere).1,
      splices.effectsDiffer ignores notTransparent⟩

/-- A file that defines a macro, included where it is live by a line that opens a comment. -/
theorem expand_inlined_open_comment :
    let collection :=
      SourceCollection.ofList [("a", "#define A\n".toList), ("b", "float b;\n".toList)]
    let settings : ExpansionSettings := ⟨some collection.resolver, 4, []⟩
    let content := "#include \"a\" /* c\n*/\n#ifdef A\n#include \"b\"\n#endif\n".toList
    let content' := "#define A\n/*\n*/\n#ifdef A\n#include \"b\"\n#endif\n".toList
    ∃ site unit unit',
      SplicesAt settings "main" content
          [] "#include \"a\" /* c".toList ((Text.lines content).drop 1) site
          ⟨"a", "#define A\n".toList⟩ ∧
        ExpandedUnit.expand settings "main" content = .ok unit ∧
          ExpandedUnit.expand settings "main" content' = .ok unit' ∧
            unit'.text = unit.text := by
  intro collection settings content content'
  have isFirst :
      ((settings.entries "main" content)[0]?.map fun entry =>
          (entry.2, entry.1.includes? entry.2, entry.1.commentAfter entry.2,
            entry.1.conditionals.liveness)) =
        some ("#include \"a\" /* c".toList, some (.relative, "a"), true, .live) := by
    decide +kernel
  obtain ⟨⟨site, line⟩, reached, facts⟩ := Option.map_eq_some_iff.mp isFirst
  simp only [Prod.mk.injEq] at facts
  obtain ⟨rfl, includes, opensComment, live⟩ := facts
  have splices :
      SplicesAt settings "main" content
        [] "#include \"a\" /* c".toList ((Text.lines content).drop 1) site
        ⟨"a", "#define A\n".toList⟩ := by
    refine ⟨by decide +kernel, reached, .relative, "a", includes, ?_⟩
    exact SourceCollection.answers_iff.mpr ⟨_, by decide +kernel, rfl⟩
  have inlined :
      Inlined content' [] "#include \"a\" /* c".toList ((Text.lines content).drop 1) site
        ⟨"a", "#define A\n".toList⟩ := by
    unfold Inlined
    rw [opensComment]
    decide +kernel
  have succeeds : (ExpandedUnit.expand settings "main" content).isOk = true := by
    decide +kernel
  obtain ⟨transparentIfLive, agree, -⟩ := expand_inlined splices inlined (by decide +kernel)
  cases expands : ExpandedUnit.expand settings "main" content with
  | error diagnostic =>
      rw [expands] at succeeds
      cases succeeds
  | ok unit =>
      obtain ⟨unit', expands', sameText⟩ := (agree (transparentIfLive live)).1 unit expands
      exact ⟨site, unit, unit', splices, rfl, expands', sameText⟩

/--
Where it is unknown whether an include is reached, the definition in the file is
taken to be made, so that another include is left out, and the file's `#error` ends
the expansion. With the file's lines in the place of the include, neither is so.
-/
theorem expand_differs_at_unknown_include :
    let collection :=
      SourceCollection.ofList
        [("a", "#define A\n".toList), ("b", "float b;\n".toList),
          ("c", "#error old\n".toList)]
    let settings : ExpansionSettings := ⟨some collection.resolver, 4, []⟩
    let text (content : String) :=
      (ExpandedUnit.expand settings "main" content.toList).toOption.map
        fun unit => String.ofList unit.text
    let guarded (line : String) :=
      "#version 450\n#if __VERSION__ < 450\n" ++ line ++ "\n#endif\n"
    let withoutA (line : String) := "#ifndef A\n" ++ line ++ "\n#endif\n"
    text (guarded "#include \"a\"" ++ withoutA "#include \"b\"") =
        some (guarded "#define A" ++ withoutA "") ∧
      text (guarded "#define A" ++ withoutA "#include \"b\"") =
          some (guarded "#define A" ++ withoutA "float b;") ∧
        text (guarded "#include \"c\"") = none ∧
          text (guarded "#error old") = some (guarded "#error old") := by
  decide +kernel

end ShaderBuild
