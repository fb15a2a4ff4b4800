import ShaderBuild.Proofs.Expansion.Segments
import ShaderBuild.Proofs.TrailingReturn

namespace ShaderBuild

/-!
# Preserved lines

A visit preserves a line if it adds it to the text as it is: the line is kept and
holds no directive that expansion takes out. The lines that stand for others, such
as the one behind an included file, are preserved.
-/

namespace LineContext

/-- A consumed directive stands outside comments and does nothing else. -/
theorem after_of_isConsumed
    (context : LineContext)
    {line : List Char}
    (consumed : (context.directive? line).any (·.isConsumed) = true) :
    context.inComment = false ∧
      context.groupsAfter line = .ok context.conditionals ∧
        context.tableAfter line = context.macros := by
  unfold groupsAfter tableAfter
  cases holds : context.directive? line with
  | none =>
      simp [holds] at consumed
  | some directive =>
      refine ⟨inComment_of_directive? holds, ?_⟩
      rw [holds, Option.any_some] at consumed
      cases directive <;> first | exact ⟨rfl, rfl⟩ | cases consumed

/-- What is known after the line, if the line is kept as it is. -/
def preserve? (context : LineContext) (line : List Char) : Option LineContext :=
  if (context.directive? line).any (·.isConsumed) then none else context.advance? line

/-- What is known after some lines, if all of them are kept as they are. -/
def preserveAll? (context : LineContext) (lines : List (List Char)) : Option LineContext :=
  lines.foldlM preserve? context

variable {context next last : LineContext} {line : List Char} {lines : List (List Char)}

/-- A preserved line is kept, and expansion does not take its directive out. -/
theorem preserve?_eq_some_iff :
    context.preserve? line = some next ↔
      (∀ directive, context.directive? line = some directive →
        directive.isConsumed = false) ∧
        context.advance? line = some next := by
  unfold preserve?
  cases context.directive? line with
  | none =>
      simp
  | some directive =>
      cases consumed : directive.isConsumed <;> simp [consumed]

theorem keptText_of_preserve? (preserves : context.preserve? line = some next) :
    context.keptText line = line := by
  obtain ⟨notConsumed, keeps⟩ := preserve?_eq_some_iff.mp preserves
  rw [keptText_eq keeps, if_neg]
  cases holds : context.directive? line with
  | none =>
      simp
  | some directive =>
      simp [notConsumed directive holds]

theorem preserveAll?_cons :
    context.preserveAll? (line :: lines) =
      (context.preserve? line).bind (·.preserveAll? lines) := rfl

theorem preserveAll?_append (first second : List (List Char)) :
    context.preserveAll? (first ++ second) =
      (context.preserveAll? first).bind (·.preserveAll? second) :=
  List.foldlM_append

theorem preserve?_of_none (noDirective : context.directive? line = none) :
    context.preserve? line =
      some (context.next (context.commentAfter line)
        context.conditionals context.macros) := by
  rw [preserve?, noDirective, if_neg (by simp), advance?_of_none noDirective]

/-- A placeholder outside comments is preserved, and nothing but comments changes. -/
theorem preserve?_placeholder
    (outside : context.inComment = false)
    (opens : Bool) :
    context.preserve? (Comment.placeholder opens) =
      some (context.next opens context.conditionals context.macros) := by
  have noDirective : context.directive? (Comment.placeholder opens) = none := by
    unfold directive?
    rw [outside]
    cases opens <;> decide
  have comment : context.commentAfter (Comment.placeholder opens) = opens := by
    rw [commentAfter, outside, Comment.isOpenAfter_placeholder]
  rw [preserve?_of_none noDirective, comment]

/-- The line after an included file is preserved, and nothing but comments changes. -/
theorem preserveAll?_closingText
    (outside : context.inComment = false)
    (opens : Bool) :
    ∃ after,
      context.preserveAll? (VisitedLines.closingText opens) = some after ∧
        after.inComment = opens ∧
          after.conditionals = context.conditionals ∧ after.macros = context.macros := by
  cases opens with
  | false =>
      exact ⟨context, rfl, outside, rfl, rfl⟩
  | true =>
      refine ⟨context.next true context.conditionals context.macros, ?_, rfl, rfl, rfl⟩
      rw [VisitedLines.closingText, if_pos rfl, preserveAll?_cons,
        preserve?_placeholder outside]
      rfl

/-- Preserved lines make a passage that adds them as they are and includes nothing. -/
theorem passes_of_preserveAll?
    (resolver : Option Resolver)
    (source : String)
    (depth : Nat)
    (preserves : context.preserveAll? lines = some last) :
    ∃ visited,
      Passes resolver source depth context lines visited last ∧
        visited.texts = lines ∧ visited.height = 0 := by
  induction lines generalizing context with
  | nil =>
      cases preserves
      exact ⟨.done, .done, rfl, rfl⟩
  | cons line others inductionHypothesis =>
      rw [preserveAll?_cons, Option.bind_eq_some_iff] at preserves
      obtain ⟨next, single, rest⟩ := preserves
      obtain ⟨visited, passes, texts, flat⟩ := inductionHypothesis rest
      have keeps := (preserve?_eq_some_iff.mp single).2
      refine ⟨.kept context line visited,
        .kept (includes?_of_advance? keeps) keeps passes, ?_, flat⟩
      rw [VisitedLines.texts, keptText_of_preserve? single, texts]

theorem isConsumed_of_preserveAll?
    (preserves : context.preserveAll? lines = some last) :
    ∀ directive ∈ Directive.ofLines context.inComment lines,
      directive.isConsumed = false := by
  induction lines generalizing context with
  | nil =>
      exact fun _ member => nomatch member
  | cons line others inductionHypothesis =>
      rw [preserveAll?_cons, Option.bind_eq_some_iff] at preserves
      obtain ⟨next, single, rest⟩ := preserves
      obtain ⟨notConsumed, keeps⟩ := preserve?_eq_some_iff.mp single
      have below := inductionHypothesis rest
      rw [inComment_of_advance? keeps] at below
      intro directive member
      rw [ofLines_cons] at member
      rcases List.mem_append.mp member with isHere | isBelow
      · exact notConsumed directive (Option.mem_toList.mp isHere)
      · exact below directive isBelow

/-- A carriage return at its end makes no difference to how a line is preserved. -/
theorem preserve?_dropsReturn
    {short long : List Char}
    (context : LineContext)
    (drops : Text.DropsReturn short long) :
    context.preserve? short = context.preserve? long := by
  have directives := context.directive?_dropsReturn drops
  unfold preserve?
  rw [context.advance?_dropsReturn drops]
  generalize context.directive? short = shortDirective at directives
  generalize context.directive? long = longDirective at directives
  cases directives with
  | none =>
      rfl
  | some same =>
      rw [Option.any_some, Option.any_some, same.consumed]

theorem preserveAll?_map_dropReturn (context : LineContext) (lines : List (List Char)) :
    context.preserveAll? (lines.map Text.dropReturn) = context.preserveAll? lines := by
  induction lines generalizing context with
  | nil =>
      rfl
  | cons line others inductionHypothesis =>
      rw [List.map_cons, preserveAll?_cons, preserveAll?_cons,
        context.preserve?_dropsReturn (Text.dropsReturn_dropReturn line)]
      simp only [inductionHypothesis]

end LineContext

end ShaderBuild
