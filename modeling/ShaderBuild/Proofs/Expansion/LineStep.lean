import ShaderBuild.Expansion

namespace ShaderBuild

/-!
# One line of a visit

A visit does one of three things with a line: it splices an included file, it
stops, or it keeps the line and goes on. This module says, apart from the order in
which a visit finds out, when each of them happens and what is known afterwards.

A kept line changes the groups and the macros as its directive asks, so later
proofs compare two visits by three facts per line: both get past it, their groups
change alike, and their macros do.
-/

namespace Directive

/-- Whether a region of this liveness lets a visit past the directive as one line. -/
def isPassable (liveness : Liveness) : Directive → Bool
  | .includeFile _ _ => liveness.isDead
  | .malformedInclude _ => liveness.isDead
  | .error _ => liveness != .live
  | _ => true

/-- Whether expansion takes the directive out of the text. -/
def isConsumed : Directive → Bool
  | .includeFile _ _ => true
  | .malformedInclude _ => true
  | .includeExtension => true
  | _ => false

end Directive

namespace LineContext

/-- What is known at the first line of a source. -/
def top (macros : MacroTable) : LineContext :=
  ⟨1, false, .empty, macros⟩

/-- Where the line's text comes from. -/
def origin (context : LineContext) (source : String) : Origin :=
  ⟨source, context.line⟩

@[simp] theorem source_origin (context : LineContext) (source : String) :
    (context.origin source).source = source := rfl

/-- Whether a block comment is open after the line. -/
def commentAfter (context : LineContext) (line : List Char) : Bool :=
  Comment.isOpenAfter context.inComment line

/--
The include that stands on the line, if a file takes the line's place: it stands
outside comments, and its region is not certainly skipped.
-/
def includes? (context : LineContext) (line : List Char) : Option (IncludeKind × String) :=
  match context.directive? line with
  | some (.includeFile kind target) =>
      if context.conditionals.liveness.isDead then none else some (kind, target)
  | _ => none

/--
The line as it is kept. Skipped includes, well formed or not, and the extension
for includes leave no more than the comment that they open.
-/
def keptText (context : LineContext) (line : List Char) : List Char :=
  match context.directive? line with
  | some (.includeFile _ _) | some (.malformedInclude _) =>
      if context.conditionals.liveness.isDead then
        Comment.placeholder (context.commentAfter line)
      else
        line
  | some .includeExtension => Comment.placeholder (context.commentAfter line)
  | _ => line

/-- The groups after the line. -/
def groupsAfter
    (context : LineContext) (line : List Char) :
    Except ConditionalFault Conditionals :=
  match context.directive? line with
  | some directive => context.conditionalsAfter directive
  | none => .ok context.conditionals

/-- The macros after the line. -/
def tableAfter (context : LineContext) (line : List Char) : MacroTable :=
  match context.directive? line with
  | some directive => context.macrosAfter directive
  | none => context.macros

/-- What is known after the line, if the line is kept. -/
def advance? (context : LineContext) (line : List Char) : Option LineContext :=
  match context.action line (context.commentAfter line) with
  | .keep _ conditionals macros =>
      some (context.next (context.commentAfter line) conditionals macros)
  | _ => none

/-- What is known after a file took the line's place and left these macros. -/
def resume
    (context : LineContext) (line : List Char) (macros : MacroTable) :
    LineContext :=
  context.next (context.commentAfter line) context.conditionals macros

section

variable
  (context : LineContext) (line : List Char) (inComment : Bool)
  (conditionals : Conditionals) (macros : MacroTable)

@[simp] theorem position_next :
    (context.next inComment conditionals macros).position = context.position + 1 := rfl

@[simp] theorem inComment_next :
    (context.next inComment conditionals macros).inComment = inComment := rfl

@[simp] theorem conditionals_next :
    (context.next inComment conditionals macros).conditionals = conditionals := rfl

@[simp] theorem macros_next :
    (context.next inComment conditionals macros).macros = macros := rfl

@[simp] theorem position_resume :
    (context.resume line macros).position = context.position + 1 := rfl

@[simp] theorem inComment_resume :
    (context.resume line macros).inComment = context.commentAfter line := rfl

@[simp] theorem conditionals_resume :
    (context.resume line macros).conditionals = context.conditionals := rfl

@[simp] theorem macros_resume :
    (context.resume line macros).macros = macros := rfl

end

/-- A line is spliced when it holds an include whose region is not skipped. -/
theorem action_eq_splice_iff
    {context : LineContext}
    {line : List Char}
    {opensComment : Bool}
    {kind : IncludeKind}
    {target : String} :
    context.action line opensComment = .splice kind target ↔
      context.includes? line = some (kind, target) := by
  unfold action includes?
  cases context.directive? line with
  | none =>
      simp
  | some directive =>
      cases directive with
      | includeFile kind target =>
          cases dead : context.conditionals.liveness.isDead <;> simp [dead]
      | malformedInclude fault =>
          cases dead : context.conditionals.liveness.isDead <;> simp [dead]
      | error text =>
          by_cases live : context.conditionals.liveness = .live <;> simp [live]
      | includeExtension =>
          simp
      | _ =>
          simp only
          split <;> simp

theorem keptText_of_action
    {context : LineContext}
    {line text : List Char}
    {conditionals : Conditionals}
    {macros : MacroTable}
    (keeps :
      context.action line (context.commentAfter line) =
        .keep text conditionals macros) :
    context.keptText line = text := by
  unfold action at keeps
  unfold keptText
  cases found : context.directive? line with
  | none =>
      simp_all
  | some directive =>
      cases directive with
      | includeFile kind target =>
          cases dead : context.conditionals.liveness.isDead <;> simp_all
      | malformedInclude fault =>
          cases dead : context.conditionals.liveness.isDead <;> simp_all
      | error text =>
          by_cases live : context.conditionals.liveness = .live <;> simp_all
      | includeExtension =>
          simp_all
      | _ =>
          simp only [found] at keeps ⊢
          split at keeps <;> simp_all

/-- A line that a visit gets past is kept with what is known after it. -/
theorem action_of_advance?
    {context next : LineContext}
    {line : List Char}
    (keeps : context.advance? line = some next) :
    context.action line (context.commentAfter line) =
      .keep (context.keptText line) next.conditionals next.macros := by
  unfold advance? at keeps
  cases acts : context.action line (context.commentAfter line) with
  | keep text conditionals macros =>
      simp only [acts, Option.some.injEq] at keeps
      subst next
      rw [keptText_of_action acts]
      rfl
  | splice kind target =>
      simp [acts] at keeps
  | stop problem =>
      simp [acts] at keeps

theorem includes?_of_advance?
    {context next : LineContext}
    {line : List Char}
    (keeps : context.advance? line = some next) :
    context.includes? line = none := by
  cases includes : context.includes? line with
  | none =>
      rfl
  | some found =>
      have splices :
          context.action line (context.commentAfter line) =
            .splice found.1 found.2 :=
        action_eq_splice_iff.mpr includes
      rw [action_of_advance? keeps] at splices
      cases splices

/--
What a kept line needs and does. Its directive, if there is one, may stand in its
region; groups and macros change as the directive asks.
-/
theorem advance?_eq_some_iff
    {context next : LineContext}
    {line : List Char} :
    context.advance? line = some next ↔
      (context.directive? line).all (·.isPassable context.conditionals.liveness) = true ∧
        ∃ conditionals,
          context.groupsAfter line = .ok conditionals ∧
            context.next (context.commentAfter line)
              conditionals (context.tableAfter line) = next := by
  unfold advance? action groupsAfter tableAfter
  cases context.directive? line with
  | none =>
      simp
  | some directive =>
      cases directive with
      | includeFile kind target =>
          cases dead : context.conditionals.liveness.isDead <;>
            simp [Directive.isPassable, conditionalsAfter, macrosAfter, dead]
      | malformedInclude fault =>
          cases dead : context.conditionals.liveness.isDead <;>
            simp [Directive.isPassable, conditionalsAfter, macrosAfter, dead]
      | error text =>
          by_cases live : context.conditionals.liveness = .live <;>
            simp [Directive.isPassable, conditionalsAfter, macrosAfter, live]
      | includeExtension =>
          simp [Directive.isPassable, conditionalsAfter, macrosAfter]
      | _ =>
          simp only [Option.all_some, Directive.isPassable, true_and]
          cases context.conditionalsAfter _ <;> simp

/-- A line without a directive is kept, and nothing but comments changes. -/
theorem advance?_of_none
    {context : LineContext}
    {line : List Char}
    (noDirective : context.directive? line = none) :
    context.advance? line =
      some (context.next (context.commentAfter line)
        context.conditionals context.macros) := by
  rw [advance?_eq_some_iff, groupsAfter, tableAfter, noDirective]
  exact ⟨rfl, context.conditionals, rfl, rfl⟩

/-- A visit gets past a line as it is, puts a file in its place, or stops at it. -/
theorem advances_or_includes_or_stops (context : LineContext) (line : List Char) :
    (∃ next, context.advance? line = some next) ∨
      (∃ kind target, context.includes? line = some (kind, target)) ∨
        ∃ problem, context.action line (context.commentAfter line) = .stop problem := by
  cases acts : context.action line (context.commentAfter line) with
  | keep text conditionals macros =>
      exact .inl ⟨context.next (context.commentAfter line) conditionals macros,
        by simp [advance?, acts]⟩
  | splice kind target =>
      exact .inr (.inl ⟨kind, target, action_eq_splice_iff.mp acts⟩)
  | stop problem =>
      exact .inr (.inr ⟨problem, rfl⟩)

section

variable {context next : LineContext} {line : List Char}

theorem position_of_advance? (keeps : context.advance? line = some next) :
    next.position = context.position + 1 := by
  obtain ⟨-, conditionals, -, rfl⟩ := advance?_eq_some_iff.mp keeps
  rfl

theorem inComment_of_advance? (keeps : context.advance? line = some next) :
    next.inComment = context.commentAfter line := by
  obtain ⟨-, conditionals, -, rfl⟩ := advance?_eq_some_iff.mp keeps
  rfl

end

end LineContext

end ShaderBuild
