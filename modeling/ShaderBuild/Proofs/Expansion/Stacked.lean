import ShaderBuild.Proofs.Expansion.LineStep
import ShaderBuild.Proofs.Knowledge

namespace ShaderBuild

/-!
# One stack of groups for many sources

A visit to an included file has groups of its own. Where the file's lines stand in
the place of the include, their groups lie on those that are open at it. This module
compares two visits that walk the same lines, of which one has outer groups below.

How much the two visits know is left open: the one with outer groups may know less,
or the same.
-/

/-- How what one visit knows is compared with what another one knows. -/
structure Comparison where
  regions : Liveness → Liveness → Prop
  answers : Option Bool → Option Bool → Prop
  tables : MacroTable → MacroTable → Prop
  /-- Regions that are live for both visits. -/
  live : regions .live .live
  /-- Conditions that hold for both visits. -/
  holds : answers (some true) (some true)
  not :
    ∀ {answer answer' : Option Bool}, answers answer answer' →
      answers (answer.map (!·)) (answer'.map (!·))
  branch :
    ∀ {answer answer' : Option Bool}, answers answer answer' →
      regions (.ofCondition answer) (.ofCondition answer')
  nextBranch :
    ∀ {taken taken' : Liveness} {answer answer' : Option Bool},
      regions taken taken' → answers answer answer' →
        regions (Conditionals.nextBranch taken answer)
          (Conditionals.nextBranch taken' answer')
  or :
    ∀ {first first' second second' : Liveness},
      regions first first' → regions second second' →
        regions (first.or second) (first'.or second')
  evaluate :
    ∀ {table table' : MacroTable}, tables table table' →
      ∀ condition, answers (table.evaluate condition) (table'.evaluate condition)
  isDefined :
    ∀ {table table' : MacroTable}, tables table table' →
      ∀ body, answers (table.isDefined body) (table'.isDefined body)

namespace Comparison

/-- The first visit knows less. -/
def coarser : Comparison where
  regions := Liveness.Coarser
  answers := CoarserAnswer
  tables := MacroTable.Coarser
  live := .refl _
  holds := .refl _
  not := fun related => related.map _
  branch := Liveness.ofCondition_coarser
  nextBranch := Conditionals.nextBranch_coarser
  or := Liveness.Coarser.or
  evaluate := fun related condition => related.evaluate condition
  isDefined := fun related _ => related.isNameDefined _

/-- Both visits know the same, as far as conditions see. -/
def same : Comparison where
  regions := Eq
  answers := Eq
  tables := fun table table' => table.view = table'.view
  live := rfl
  holds := rfl
  not := by
    rintro _ _ rfl
    rfl
  branch := by
    rintro _ _ rfl
    rfl
  nextBranch := by
    rintro _ _ _ _ rfl rfl
    rfl
  or := by
    rintro _ _ _ _ rfl rfl
    rfl
  evaluate := MacroTable.evaluate_congr
  isDefined := fun alike _ => MacroTable.isNameDefined_congr alike _

end Comparison

section

variable (comparison : Comparison) (around : Liveness → Liveness → Prop)

/--
Groups that lie on outer groups, compared with groups that lie on nothing. The
regions that enclose them are compared apart from their branches.
-/
inductive GroupsStack (outer : List ConditionalGroup) :
    (stacked alone : List ConditionalGroup) → Prop where
  | outside : GroupsStack outer outer []
  | inside
      {stacked alone : ConditionalGroup}
      {stackedOuter aloneOuter : List ConditionalGroup}
      (enclosing : around stacked.enclosing alone.enclosing)
      (branch : comparison.regions stacked.branch alone.branch)
      (taken : comparison.regions stacked.taken alone.taken)
      (seenElse : stacked.seenElse = alone.seenElse)
      (below : GroupsStack outer stackedOuter aloneOuter) :
      GroupsStack outer (stacked :: stackedOuter) (alone :: aloneOuter)

/-- A visit with outer groups below, compared with one without. -/
structure Stacks
    (outer : List ConditionalGroup)
    (stacked alone : LineContext) : Prop where
  inComment : stacked.inComment = alone.inComment
  groups :
    GroupsStack comparison around outer
      stacked.conditionals.groups alone.conditionals.groups
  macros : comparison.tables stacked.macros alone.macros

end

variable {comparison : Comparison} {around : Liveness → Liveness → Prop}
  {outer : List ConditionalGroup}

theorem GroupsStack.eq_outer
    {stacked : List ConditionalGroup}
    (groups : GroupsStack comparison around outer stacked []) :
    stacked = outer := by
  cases groups
  rfl

namespace Stacks

variable {stacked alone : LineContext}

theorem directive?_eq
    (compared : Stacks comparison around outer stacked alone)
    (line : List Char) :
    stacked.directive? line = alone.directive? line := by
  unfold LineContext.directive?
  rw [compared.inComment]

theorem commentAfter_eq
    (compared : Stacks comparison around outer stacked alone)
    (line : List Char) :
    stacked.commentAfter line = alone.commentAfter line := by
  unfold LineContext.commentAfter
  rw [compared.inComment]

/-- A group is opened in both visits. -/
theorem enter
    (compared : Stacks comparison around outer stacked alone)
    (region : around stacked.conditionals.liveness alone.conditionals.liveness)
    {answer answer' : Option Bool}
    (related : comparison.answers answer answer')
    (line line' : Nat) :
    GroupsStack comparison around outer
      (stacked.conditionals.enter answer line).groups
      (alone.conditionals.enter answer' line').groups :=
  .inside region (comparison.branch related) (comparison.branch related) rfl compared.groups

/-- An `#elif` that the visit without outer groups accepts begins a branch in both. -/
theorem elif
    (compared : Stacks comparison around outer stacked alone)
    {answer answer' : Option Bool}
    (related : comparison.answers answer answer')
    {conditionals : Conditionals}
    (accepted : alone.conditionals.elif answer' = .ok conditionals) :
    ∃ onOuter,
      stacked.conditionals.elif answer = .ok onOuter ∧
        GroupsStack comparison around outer onOuter.groups conditionals.groups := by
  have groups := compared.groups
  unfold Conditionals.elif at accepted ⊢
  generalize stacked.conditionals.groups = stackedGroups at groups
  generalize alone.conditionals.groups = aloneGroups at groups accepted
  cases groups with
  | outside =>
      cases accepted
  | inside enclosing branch taken seenElse below =>
      simp only at accepted ⊢
      split at accepted
      · cases accepted
      · rename_i notSeen
        cases accepted
        rw [if_neg (by rwa [seenElse])]
        have next := comparison.nextBranch taken related
        exact ⟨_, rfl, .inside enclosing next (comparison.or taken next) seenElse below⟩

theorem otherwise
    (compared : Stacks comparison around outer stacked alone)
    {conditionals : Conditionals}
    (accepted : alone.conditionals.otherwise = .ok conditionals) :
    ∃ onOuter,
      stacked.conditionals.otherwise = .ok onOuter ∧
        GroupsStack comparison around outer onOuter.groups conditionals.groups := by
  have groups := compared.groups
  unfold Conditionals.otherwise at accepted ⊢
  generalize stacked.conditionals.groups = stackedGroups at groups
  generalize alone.conditionals.groups = aloneGroups at groups accepted
  cases groups with
  | outside =>
      cases accepted
  | inside enclosing branch taken seenElse below =>
      simp only at accepted ⊢
      split at accepted
      · cases accepted
      · rename_i notSeen
        cases accepted
        rw [if_neg (by rwa [seenElse])]
        have next := comparison.nextBranch taken comparison.holds
        exact ⟨_, rfl, .inside enclosing next comparison.live rfl below⟩

theorem close
    (compared : Stacks comparison around outer stacked alone)
    {conditionals : Conditionals}
    (accepted : alone.conditionals.close = .ok conditionals) :
    ∃ onOuter,
      stacked.conditionals.close = .ok onOuter ∧
        GroupsStack comparison around outer onOuter.groups conditionals.groups := by
  have groups := compared.groups
  unfold Conditionals.close at accepted ⊢
  generalize stacked.conditionals.groups = stackedGroups at groups
  generalize alone.conditionals.groups = aloneGroups at groups accepted
  cases groups with
  | outside =>
      cases accepted
  | inside enclosing branch taken seenElse below =>
      cases accepted
      exact ⟨_, rfl, below⟩

/-- What the visit without outer groups does to its groups, the other one does to its own. -/
theorem conditionalsAfter
    (compared : Stacks comparison around outer stacked alone)
    (region : around stacked.conditionals.liveness alone.conditionals.liveness)
    {directive : Directive}
    {conditionals : Conditionals}
    (accepted : alone.conditionalsAfter directive = .ok conditionals) :
    ∃ onOuter,
      stacked.conditionalsAfter directive = .ok onOuter ∧
        GroupsStack comparison around outer onOuter.groups conditionals.groups := by
  have macros := compared.macros
  cases directive with
  | ifCondition condition =>
      cases accepted
      exact ⟨_, rfl, compared.enter region (comparison.evaluate macros condition) _ _⟩
  | ifDefined body =>
      cases accepted
      exact ⟨_, rfl, compared.enter region (comparison.isDefined macros body) _ _⟩
  | ifNotDefined body =>
      cases accepted
      exact ⟨_, rfl,
        compared.enter region (comparison.not (comparison.isDefined macros body)) _ _⟩
  | elifCondition condition =>
      exact compared.elif (comparison.evaluate macros condition) accepted
  | otherwise =>
      exact compared.otherwise accepted
  | endIf =>
      exact compared.close accepted
  | _ =>
      cases accepted
      exact ⟨_, rfl, compared.groups⟩

theorem groupsAfter
    (compared : Stacks comparison around outer stacked alone)
    (region : around stacked.conditionals.liveness alone.conditionals.liveness)
    {line : List Char}
    {conditionals : Conditionals}
    (accepted : alone.groupsAfter line = .ok conditionals) :
    ∃ onOuter,
      stacked.groupsAfter line = .ok onOuter ∧
        GroupsStack comparison around outer onOuter.groups conditionals.groups := by
  unfold LineContext.groupsAfter at accepted ⊢
  rw [compared.directive?_eq line]
  cases holds : alone.directive? line with
  | none =>
      simp only [holds, Except.ok.injEq] at accepted
      subst conditionals
      exact ⟨_, rfl, compared.groups⟩
  | some directive =>
      simp only [holds] at accepted
      exact compared.conditionalsAfter region accepted

end Stacks

end ShaderBuild
