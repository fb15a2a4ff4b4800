import Mathlib.Data.List.TakeDrop
import Mathlib.Data.Option.Basic
import ShaderBuild.Proofs.Condition.Spacing
import ShaderBuild.Proofs.Expansion.LineStep
import ShaderBuild.Proofs.Text.Lines

namespace ShaderBuild

/-!
# Carriage returns at the ends of lines

A carriage return at the end of a line is white space after everything that a
visit reads on the line. It does not change where comments end, what a directive
does or whether it is taken out of the text.
-/

namespace Text.DropsReturn

variable {short long : List Char}

theorem refl (text : List Char) : DropsReturn text text :=
  .inl rfl

theorem append (text : List Char) : DropsReturn text (text ++ ['\r']) :=
  .inr rfl

theorem cons (drops : DropsReturn short long) (c : Char) :
    DropsReturn (c :: short) (c :: long) := by
  rcases drops with rfl | rfl
  · exact refl _
  · exact append _

/-- Dropping what a text starts with, whether or not the carriage return goes too. -/
theorem dropWhile (drops : DropsReturn short long) (test : Char → Bool) :
    DropsReturn (short.dropWhile test) (long.dropWhile test) := by
  rcases drops with rfl | rfl
  · exact refl _
  · rw [List.dropWhile_append]
    cases rest : short.dropWhile test with
    | nil =>
        by_cases also : test '\r' = true <;> simp [also, DropsReturn]
    | cons c others =>
        exact append _

/-- A text starts with the same characters of a kind that carriage returns are not of. -/
theorem takeWhile_eq
    (drops : DropsReturn short long)
    {test : Char → Bool}
    (stops : test '\r' = false) :
    long.takeWhile test = short.takeWhile test := by
  rcases drops with rfl | rfl
  · rfl
  · rw [List.takeWhile_append]
    split
    · rename_i all
      rw [List.takeWhile_cons_of_neg (by simp [stops]), List.append_nil,
        (List.takeWhile_prefix test).eq_of_length all]
    · rfl

theorem trimStart (drops : DropsReturn short long) :
    DropsReturn (Text.trimStart short) (Text.trimStart long) :=
  drops.dropWhile isSpace

theorem trimEnd_eq (drops : DropsReturn short long) :
    Text.trimEnd long = Text.trimEnd short := by
  rcases drops with rfl | rfl
  · rfl
  · have isReturn : isSpace '\r' = true := by decide
    simp [Text.trimEnd, isReturn]

theorem trim_eq (drops : DropsReturn short long) : Text.trim long = Text.trim short :=
  drops.trimStart.trimEnd_eq

theorem splitIdentifier (drops : DropsReturn short long) :
    (splitIdentifier long).1 = (splitIdentifier short).1 ∧
      DropsReturn (splitIdentifier short).2 (splitIdentifier long).2 := by
  unfold ShaderBuild.splitIdentifier
  rw [List.span_eq_takeWhile_dropWhile, List.span_eq_takeWhile_dropWhile]
  exact ⟨drops.trimStart.takeWhile_eq (by decide), drops.trimStart.dropWhile _⟩

theorem firstIdentifier_eq (drops : DropsReturn short long) :
    firstIdentifier long = firstIdentifier short := by
  unfold firstIdentifier
  rw [drops.splitIdentifier.1]

end Text.DropsReturn

/-- Cutting a text around a mark leaves a carriage return at the end of the text. -/
theorem Text.splitAround?_append_return
    {mark : Char}
    (notReturn : mark ≠ '\r')
    (text : List Char) :
    splitAround? mark (text ++ ['\r']) =
      (splitAround? mark text).map fun around => (around.1, around.2 ++ ['\r']) := by
  unfold splitAround? cutBefore
  rw [List.dropWhile_append]
  cases rest : text.dropWhile (fun c => !decide (c = mark)) with
  | nil =>
      simp [notReturn.symm]
  | cons c after =>
      have sameBefore :
          (text ++ ['\r']).takeWhile (fun c => !decide (c = mark)) =
            text.takeWhile (fun c => !decide (c = mark)) := by
        rw [List.takeWhile_append, if_neg]
        intro all
        have lengths := congrArg List.length
          (List.takeWhile_append_dropWhile (p := fun c => !decide (c = mark)) (l := text))
        rw [List.length_append, all, rest] at lengths
        simp at lengths
      simp [sameBefore]

open Text (DropsReturn)

namespace Comment

theorem exists_cons_of_append_return
    {rest tail : List Char}
    {mark : Char}
    (starts : rest ++ ['\r'] = mark :: tail)
    (notReturn : mark ≠ '\r') :
    ∃ others, rest = mark :: others := by
  cases rest with
  | nil =>
      exact absurd (List.cons.inj starts).1.symm notReturn
  | cons c others =>
      rw [List.cons_append] at starts
      exact ⟨others, by rw [(List.cons.inj starts).1]⟩

/-- A carriage return at the end of a line is code, or part of a comment. -/
theorem scan_append_return (place : Place) (line : List Char) :
    DropsReturn (scan place line).1 (scan place (line ++ ['\r'])).1 ∧
      (scan place (line ++ ['\r'])).2 = (scan place line).2 := by
  fun_induction scan place line with
  | case1 =>
      exact ⟨.refl _, rfl⟩
  | case2 rest inductionHypothesis =>
      exact inductionHypothesis
  | case3 c rest notEnd inductionHypothesis =>
      rw [List.cons_append, scan]
      · exact inductionHypothesis
      · intro tail isStar starts
        obtain ⟨others, shape⟩ := exists_cons_of_append_return starts (by decide)
        exact notEnd others isStar shape
  | case4 =>
      exact ⟨.append _, rfl⟩
  | case5 rest =>
      exact ⟨.refl _, rfl⟩
  | case6 rest inductionHypothesis =>
      exact ⟨inductionHypothesis.1.cons _, inductionHypothesis.2⟩
  | case7 rest inductionHypothesis =>
      exact ⟨inductionHypothesis.1.cons _, inductionHypothesis.2⟩
  | case8 c rest notLineComment notBlock notQuotation inductionHypothesis =>
      rw [List.cons_append, scan]
      · exact ⟨inductionHypothesis.1.cons _, inductionHypothesis.2⟩
      · intro tail isSlash starts
        obtain ⟨others, shape⟩ := exists_cons_of_append_return starts (by decide)
        exact notLineComment others isSlash shape
      · intro tail isSlash starts
        obtain ⟨others, shape⟩ := exists_cons_of_append_return starts (by decide)
        exact notBlock others isSlash shape
      · exact notQuotation
  | case9 =>
      exact ⟨.append _, rfl⟩
  | case10 rest inductionHypothesis =>
      exact ⟨inductionHypothesis.1.cons _, inductionHypothesis.2⟩
  | case11 c rest notQuotation inductionHypothesis =>
      rw [List.cons_append, scan]
      · exact ⟨inductionHypothesis.1.cons _, inductionHypothesis.2⟩
      · exact notQuotation

/-- The code of a line and the comment open after it, without its carriage return. -/
theorem scan_dropsReturn
    (place : Place)
    {short long : List Char}
    (drops : DropsReturn short long) :
    DropsReturn (scan place short).1 (scan place long).1 ∧
      (scan place long).2 = (scan place short).2 := by
  rcases drops with rfl | rfl
  · exact ⟨.refl _, rfl⟩
  · exact scan_append_return place short

end Comment

/-! ### Macros -/

namespace Condition

theorem tokenize?_dropsReturn
    {short long : List Char}
    (drops : DropsReturn short long) :
    tokenize? long = tokenize? short := by
  rcases drops with rfl | rfl
  · rfl
  · exact tokenize?_append_space (by decide) short

end Condition

namespace MacroTable

variable {short long : List Char}

theorem definition_dropsReturn (drops : DropsReturn short long) :
    definition long = definition short := by
  have trimmed := drops.trim_eq
  rcases drops with rfl | rfl
  · rfl
  · unfold definition
    cases short with
    | nil =>
        decide
    | cons c others =>
        rw [trimmed, List.cons_append]
        split
        · rename_i starts
          cases starts
          rfl
        · rename_i notParen
          split
          · rename_i starts
            cases starts
            exact absurd rfl (notParen (others ++ ['\r']))
          · rfl

theorem define_dropsReturn
    (drops : DropsReturn short long)
    (table : MacroTable)
    (liveness : Liveness) :
    table.define long liveness = table.define short liveness := by
  obtain ⟨sameName, restDrops⟩ := drops.splitIdentifier
  have sameDefinition := definition_dropsReturn restDrops
  unfold define
  generalize splitIdentifier long = longSplit at *
  generalize splitIdentifier short = shortSplit at *
  obtain ⟨longName, longRest⟩ := longSplit
  obtain ⟨shortName, shortRest⟩ := shortSplit
  simp only at sameName sameDefinition
  subst longName
  cases shortName with
  | nil =>
      rfl
  | cons c others =>
      simp only [sameDefinition]

theorem undefine_dropsReturn
    (drops : DropsReturn short long)
    (table : MacroTable)
    (liveness : Liveness) :
    table.undefine long liveness = table.undefine short liveness := by
  unfold undefine
  rw [drops.firstIdentifier_eq]

theorem isDefined_dropsReturn (drops : DropsReturn short long) (table : MacroTable) :
    table.isDefined long = table.isDefined short := by
  unfold isDefined
  rw [drops.firstIdentifier_eq]

theorem evaluate_dropsReturn (drops : DropsReturn short long) (table : MacroTable) :
    table.evaluate long = table.evaluate short := by
  unfold evaluate valueOf Condition.Expr.ofText?
  rw [Condition.tokenize?_dropsReturn drops]

end MacroTable

/-! ### Directives -/

namespace Directive

/-- Two directives that no visit tells apart, whatever it knows. -/
structure SameEffect (first second : Directive) : Prop where
  consumed : first.isConsumed = second.isConsumed
  passable : ∀ liveness, first.isPassable liveness = second.isPassable liveness
  conditionals :
    ∀ context : LineContext,
      context.conditionalsAfter first = context.conditionalsAfter second
  macros :
    ∀ context : LineContext, context.macrosAfter first = context.macrosAfter second

namespace SameEffect

theorem refl (directive : Directive) : directive.SameEffect directive :=
  ⟨rfl, fun _ => rfl, fun _ => rfl, fun _ => rfl⟩

variable {short long : List Char} (drops : DropsReturn short long)

include drops

theorem define : (Directive.define short).SameEffect (.define long) :=
  ⟨rfl, fun _ => rfl, fun _ => rfl,
    fun _ => (MacroTable.define_dropsReturn drops _ _).symm⟩

theorem undef : (Directive.undef short).SameEffect (.undef long) :=
  ⟨rfl, fun _ => rfl, fun _ => rfl,
    fun _ => (MacroTable.undefine_dropsReturn drops _ _).symm⟩

theorem ifCondition : (Directive.ifCondition short).SameEffect (.ifCondition long) :=
  ⟨rfl, fun _ => rfl,
    fun _ => by simp only [LineContext.conditionalsAfter,
      MacroTable.evaluate_dropsReturn drops],
    fun _ => rfl⟩

theorem ifDefined : (Directive.ifDefined short).SameEffect (.ifDefined long) :=
  ⟨rfl, fun _ => rfl,
    fun _ => by simp only [LineContext.conditionalsAfter,
      MacroTable.isDefined_dropsReturn drops],
    fun _ => rfl⟩

theorem ifNotDefined : (Directive.ifNotDefined short).SameEffect (.ifNotDefined long) :=
  ⟨rfl, fun _ => rfl,
    fun _ => by simp only [LineContext.conditionalsAfter,
      MacroTable.isDefined_dropsReturn drops],
    fun _ => rfl⟩

theorem elifCondition : (Directive.elifCondition short).SameEffect (.elifCondition long) :=
  ⟨rfl, fun _ => rfl,
    fun _ => by simp only [LineContext.conditionalsAfter,
      MacroTable.evaluate_dropsReturn drops],
    fun _ => rfl⟩

end SameEffect

variable {short long : List Char}

theorem body?_dropsReturn (drops : DropsReturn short long) :
    Option.Rel DropsReturn (body? short) (body? long) := by
  have trimmed := drops.trimStart
  unfold body?
  generalize Text.trimStart short = short at trimmed
  generalize Text.trimStart long = long at trimmed
  rcases trimmed with rfl | rfl
  · split
    · exact .some (.refl _)
    · exact .none
  · cases short with
    | nil =>
        exact .none
    | cons c others =>
        by_cases isHash : c = '#'
        · subst c
          exact .some (DropsReturn.append others).trimStart
        · simp [isHash]

/-- No include is closed by a carriage return. -/
theorem ne_return_of_opening?
    {c delimiter : Char}
    {kind : IncludeKind}
    (opens : opening? c = some (kind, delimiter)) :
    delimiter ≠ '\r' := by
  unfold opening? at opens
  split at opens <;> cases opens <;> decide

theorem parseInclude_dropsReturn (drops : DropsReturn short long) :
    parseInclude long = parseInclude short := by
  rcases drops with rfl | rfl
  · rfl
  · cases short with
    | nil =>
        rfl
    | cons c rest =>
        unfold parseInclude
        rw [List.cons_append]
        cases opens : opening? c with
        | none =>
            simp only [opens]
        | some opening =>
            obtain ⟨kind, delimiter⟩ := opening
            simp only [opens]
            rw [Text.splitAround?_append_return (ne_return_of_opening? opens)]
            cases Text.splitAround? delimiter rest with
            | none =>
                rfl
            | some around =>
                obtain ⟨target, after⟩ := around
                cases target with
                | nil =>
                    rfl
                | cons first others =>
                    simp only [Option.map_some, (DropsReturn.append after).trim_eq]

theorem parseExtension?_dropsReturn (drops : DropsReturn short long) :
    parseExtension? long = parseExtension? short := by
  unfold parseExtension?
  rw [drops.trimStart.takeWhile_eq (by decide)]

/-- The directive on a line does the same. -/
theorem parse?_dropsReturn (drops : DropsReturn short long) :
    Option.Rel SameEffect (parse? short) (parse? long) := by
  have bodies := body?_dropsReturn drops
  unfold parse?
  generalize body? short = shortBody at bodies
  generalize body? long = longBody at bodies
  cases bodies with
  | none =>
      exact .none
  | some bodyDrops =>
      have rest := bodyDrops.dropWhile Text.isWordChar
      have notWord : Text.isWordChar '\r' = false := by decide
      simp only [Option.bind_some, bodyDrops.takeWhile_eq notWord,
        parseInclude_dropsReturn rest.trimStart, parseExtension?_dropsReturn rest,
        rest.trim_eq]
      split
      case h_3 =>
        exact .some (.define rest)
      case h_4 =>
        exact .some (.undef rest)
      case h_5 =>
        exact .some (.ifCondition rest)
      case h_6 =>
        exact .some (.ifDefined rest)
      case h_7 =>
        exact .some (.ifNotDefined rest)
      case h_8 =>
        exact .some (.elifCondition rest)
      case h_2 =>
        cases parseExtension? _ with
        | none =>
            exact .none
        | some directive =>
            exact .some (.refl directive)
      case h_12 =>
        exact .none
      all_goals exact .some (.refl _)

theorem isVersion_dropsReturn (drops : DropsReturn short long) :
    isVersion long = isVersion short := by
  have bodies := body?_dropsReturn drops
  unfold isVersion
  generalize body? short = shortBody at bodies
  generalize body? long = longBody at bodies
  cases bodies with
  | none =>
      rfl
  | some bodyDrops =>
      have notWord : Text.isWordChar '\r' = false := by decide
      simp only [bodyDrops.takeWhile_eq notWord]

end Directive

/-! ### Lines -/

namespace LineContext

variable {short long : List Char}

theorem commentAfter_dropsReturn
    (context : LineContext)
    (drops : DropsReturn short long) :
    context.commentAfter short = context.commentAfter long :=
  (Comment.scan_dropsReturn _ drops).2.symm

theorem directive?_dropsReturn
    (context : LineContext)
    (drops : DropsReturn short long) :
    Option.Rel Directive.SameEffect
      (context.directive? short) (context.directive? long) := by
  unfold directive?
  split
  · exact .none
  · exact Directive.parse?_dropsReturn (Comment.scan_dropsReturn .code drops).1

/-- A visit gets past a line alike. -/
theorem advance?_dropsReturn
    (context : LineContext)
    (drops : DropsReturn short long) :
    context.advance? short = context.advance? long := by
  have directives := context.directive?_dropsReturn drops
  apply Option.ext
  intro next
  rw [advance?_eq_some_iff, advance?_eq_some_iff, context.commentAfter_dropsReturn drops]
  unfold groupsAfter tableAfter
  generalize context.directive? short = shortDirective at directives
  generalize context.directive? long = longDirective at directives
  cases directives with
  | none =>
      rfl
  | some same =>
      simp only [Option.all_some, same.passable, same.conditionals, same.macros]

end LineContext

namespace ExpansionSettings

/-- Lines have a `#version` directive with or without their carriage returns. -/
theorem hasVersion_map_dropReturn (inComment : Bool) (lines : List (List Char)) :
    hasVersion inComment (lines.map Text.dropReturn) = hasVersion inComment lines := by
  induction lines generalizing inComment with
  | nil =>
      rfl
  | cons line others inductionHypothesis =>
      have drops := Text.dropsReturn_dropReturn line
      have sameComment :
          Comment.isOpenAfter inComment (Text.dropReturn line) =
            Comment.isOpenAfter inComment line :=
        (Comment.scan_dropsReturn _ drops).2.symm
      have sameVersion :
          Directive.isVersion (Comment.strip false (Text.dropReturn line)) =
            Directive.isVersion (Comment.strip false line) :=
        (Directive.isVersion_dropsReturn (Comment.scan_dropsReturn .code drops).1).symm
      rw [List.map_cons, hasVersion, hasVersion, sameComment, sameVersion,
        inductionHypothesis]

end ExpansionSettings

end ShaderBuild
