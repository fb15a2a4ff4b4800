import ShaderBuild.Proofs.Expansion.LineStep

namespace ShaderBuild

/-!
# Balanced groups

Which conditional directives may stand in a source depends on the nesting of its
groups alone, and not on what is known about their conditions. A group is followed
by one flag, which says whether its `#else` has been seen.
-/

namespace Directive

/-- The flags of the open groups after a directive, if it fits the groups open before it. -/
def nest (flags : List Bool) : Directive → Option (List Bool)
  | .ifCondition _ | .ifDefined _ | .ifNotDefined _ => some (false :: flags)
  | .elifCondition _ =>
      match flags with
      | false :: _ => some flags
      | _ => none
  | .otherwise =>
      match flags with
      | false :: outer => some (true :: outer)
      | _ => none
  | .endIf =>
      match flags with
      | _ :: outer => some outer
      | [] => none
  | _ => some flags

/-- The directives of a source's lines, from a line that starts in a comment or not. -/
def ofLines (inComment : Bool) : List (List Char) → List Directive
  | [] => []
  | line :: others =>
      (if inComment then none else parse? (Comment.strip false line)).toList ++
        ofLines (Comment.isOpenAfter inComment line) others

/-- Every group that is opened is closed, and each directive fits the groups open at it. -/
def IsBalanced (directives : List Directive) : Prop :=
  directives.foldlM nest [] = some []

end Directive

/-- The flags of the open groups. -/
def Conditionals.flags (conditionals : Conditionals) : List Bool :=
  conditionals.groups.map (·.seenElse)

namespace LineContext

/-- A directive fits the open groups if their flags say so, and it changes the flags alike. -/
theorem flags_conditionalsAfter (context : LineContext) (directive : Directive) :
    (context.conditionalsAfter directive).toOption.map Conditionals.flags =
      directive.nest context.conditionals.flags := by
  unfold Directive.nest Conditionals.flags conditionalsAfter
  cases directive with
  | elifCondition condition =>
      cases isOpen : context.conditionals.groups with
      | nil =>
          simp [Conditionals.elif, isOpen, Except.toOption]
      | cons group outer =>
          cases seen : group.seenElse <;>
            simp [Conditionals.elif, isOpen, seen, Except.toOption]
  | otherwise =>
      cases isOpen : context.conditionals.groups with
      | nil =>
          simp [Conditionals.otherwise, isOpen, Except.toOption]
      | cons group outer =>
          cases seen : group.seenElse <;>
            simp [Conditionals.otherwise, isOpen, seen, Except.toOption]
  | endIf =>
      cases isOpen : context.conditionals.groups <;>
        simp [Conditionals.close, isOpen, Except.toOption]
  | _ =>
      simp [Conditionals.enter, Except.toOption]

theorem nest_flags
    {context : LineContext}
    {directive : Directive}
    {conditionals : Conditionals}
    (accepted : context.conditionalsAfter directive = .ok conditionals) :
    directive.nest context.conditionals.flags = some conditionals.flags := by
  rw [← flags_conditionalsAfter, accepted]
  rfl

theorem ofLines_cons
    (context : LineContext) (line : List Char) (others : List (List Char)) :
    Directive.ofLines context.inComment (line :: others) =
      (context.directive? line).toList ++
        Directive.ofLines (context.commentAfter line) others := rfl

theorem nest_flags_groupsAfter
    {context : LineContext}
    {line : List Char}
    {conditionals : Conditionals}
    (accepted : context.groupsAfter line = .ok conditionals) :
    (context.directive? line).toList.foldlM Directive.nest context.conditionals.flags =
      some conditionals.flags := by
  unfold groupsAfter at accepted
  cases holds : context.directive? line with
  | none =>
      simp only [holds, Except.ok.injEq] at accepted
      subst conditionals
      rfl
  | some directive =>
      simp only [holds] at accepted
      rw [Option.toList_some, List.foldlM_cons, nest_flags accepted]
      rfl

/-- A line's directive fits if the flags say so. -/
theorem groupsAfter_of_nest
    {context : LineContext}
    {line : List Char}
    {flags : List Bool}
    (fits :
      (context.directive? line).toList.foldlM Directive.nest
        context.conditionals.flags = some flags) :
    ∃ conditionals,
      context.groupsAfter line = .ok conditionals ∧ conditionals.flags = flags := by
  unfold groupsAfter
  cases holds : context.directive? line with
  | none =>
      rw [holds] at fits
      cases fits
      exact ⟨context.conditionals, rfl, rfl⟩
  | some directive =>
      rw [holds, Option.toList_some, List.foldlM_cons, ← flags_conditionalsAfter] at fits
      simp only
      cases accepted : context.conditionalsAfter directive with
      | error fault =>
          rw [accepted] at fits
          cases fits
      | ok conditionals =>
          rw [accepted] at fits
          cases fits
          exact ⟨conditionals, rfl, rfl⟩

end LineContext

end ShaderBuild
