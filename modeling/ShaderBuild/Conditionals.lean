import ShaderBuild.Liveness

namespace ShaderBuild

/-!
# Nested conditional groups

The groups that are open at a line of one source, innermost first. A group
remembers what is known about the region around it, about its current branch and
about whether any branch so far was the one taken.
-/

/-- A group opened by `#if`, `#ifdef` or `#ifndef`. -/
structure ConditionalGroup where
  /-- Liveness of the region that holds the group. -/
  enclosing : Liveness
  /-- Liveness of the current branch by the conditions of this group alone. -/
  branch : Liveness
  /-- Whether the current branch or one before it was taken. -/
  taken : Liveness
  /-- Whether the group's `#else` has been seen. -/
  seenElse : Bool
  /-- Line of the directive that opened the group. -/
  line : Nat
  deriving Repr, DecidableEq

/-- The open groups of one source, innermost first. -/
structure Conditionals where
  groups : List ConditionalGroup
  deriving Repr, DecidableEq

/-- A conditional directive that does not fit the groups open at it. -/
inductive ConditionalFault where
  | elifWithoutIf
  | elifAfterElse
  | elseWithoutIf
  | elseAfterElse
  | endifWithoutIf
  deriving Repr, DecidableEq

/-- The report of a misplaced conditional directive. -/
def ConditionalFault.message : ConditionalFault → String
  | .elifWithoutIf => "#elif without #if"
  | .elifAfterElse => "#elif after #else"
  | .elseWithoutIf => "#else without #if"
  | .elseAfterElse => "#else after #else"
  | .endifWithoutIf => "#endif without #if"

namespace Conditionals

/-- No group is open. -/
def empty : Conditionals := ⟨[]⟩

/-- Liveness of the lines at this point. -/
def liveness (conditionals : Conditionals) : Liveness :=
  match conditionals.groups with
  | [] => .live
  | group :: _ => group.enclosing.and group.branch

/-- Open a group whose first branch has the given condition. -/
def enter
    (conditionals : Conditionals)
    (condition : Option Bool)
    (line : Nat) :
    Conditionals :=
  let branch := Liveness.ofCondition condition
  ⟨⟨conditionals.liveness, branch, branch, false, line⟩ :: conditionals.groups⟩

/-- The branch that follows branches of which one was taken, or none, or perhaps one. -/
def nextBranch (taken : Liveness) (condition : Option Bool) : Liveness :=
  match taken with
  | .live => .dead
  | .dead => Liveness.ofCondition condition
  | .unknown => if condition = some false then .dead else .unknown

/-- Go on to an `#elif` branch of the innermost group. -/
def elif
    (conditionals : Conditionals)
    (condition : Option Bool) :
    Except ConditionalFault Conditionals :=
  match conditionals.groups with
  | [] => .error .elifWithoutIf
  | group :: outer =>
      if group.seenElse then
        .error .elifAfterElse
      else
        let branch := nextBranch group.taken condition
        .ok ⟨{ group with branch := branch, taken := group.taken.or branch } :: outer⟩

/-- Go on to the `#else` branch of the innermost group. -/
def otherwise (conditionals : Conditionals) : Except ConditionalFault Conditionals :=
  match conditionals.groups with
  | [] => .error .elseWithoutIf
  | group :: outer =>
      if group.seenElse then
        .error .elseAfterElse
      else
        let branch := nextBranch group.taken (some true)
        .ok ⟨{ group with branch := branch, taken := .live, seenElse := true } :: outer⟩

/-- Close the innermost group. -/
def close (conditionals : Conditionals) : Except ConditionalFault Conditionals :=
  match conditionals.groups with
  | [] => .error .endifWithoutIf
  | _ :: outer => .ok ⟨outer⟩

/-- Line of the innermost group that is still open. -/
def unterminated? (conditionals : Conditionals) : Option Nat :=
  conditionals.groups.head?.map (·.line)

end Conditionals

end ShaderBuild
