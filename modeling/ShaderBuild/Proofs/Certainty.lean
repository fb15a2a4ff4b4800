import Mathlib.Data.List.Forall2
import Mathlib.Data.List.Induction
import ShaderBuild.Include.Resolver
import ShaderBuild.Proofs.Expansion.Passage
import ShaderBuild.Proofs.Knowledge

namespace ShaderBuild

/-!
# Certain regions

A region is certainly live if it is active however the unknown conditions of its
groups turn out, and certainly skipped if it is active in no case. Liveness tells all
regions that are certainly live. It tells the skipped ones but for one kind: where an
unknown condition stands before a true one of the same group, the branches behind the
true one are certainly skipped, and their liveness is unknown.
-/

/-- A conditional directive, with what is known about its condition. -/
inductive BranchStep where
  | enter (condition : Option Bool) (line : Nat)
  | elif (condition : Option Bool)
  | otherwise
  | close
  deriving Repr, DecidableEq

/-- The groups after a directive. -/
def Conditionals.step (conditionals : Conditionals) :
    BranchStep → Except ConditionalFault Conditionals
  | .enter condition line => .ok (conditionals.enter condition line)
  | .elif condition => conditionals.elif condition
  | .otherwise => conditionals.otherwise
  | .close => conditionals.close

/-- The groups after directives from the top of a source on. -/
def Conditionals.past (steps : List BranchStep) : Except ConditionalFault Conditionals :=
  steps.foldlM step empty

theorem Conditionals.past_concat (before : List BranchStep) (last : BranchStep) :
    past (before ++ [last]) = past before >>= fun conditionals => conditionals.step last := by
  rw [past, List.foldlM_append]
  simp only [List.foldlM_cons, List.foldlM_nil, bind_pure]
  rfl

/-! ### The usual rule -/

/-- The conditions of the branches of a group that have begun, the current one first. -/
abbrev BranchConditions := List (Option Bool)

/-- Begin a branch of the innermost group. -/
def BranchConditions.begin (condition : Option Bool) :
    List BranchConditions → List BranchConditions
  | [] => []
  | branches :: outer => (condition :: branches) :: outer

/-- The branches of the open groups after a directive; the condition of `#else` is true. -/
def BranchStep.branchesAfter (groups : List BranchConditions) :
    BranchStep → List BranchConditions
  | .enter condition _ => [condition] :: groups
  | .elif condition => BranchConditions.begin condition groups
  | .otherwise => BranchConditions.begin (some true) groups
  | .close => groups.tail

/-- The branches of the groups that are open after directives, innermost group first. -/
def openBranches (steps : List BranchStep) : List BranchConditions :=
  steps.foldl BranchStep.branchesAfter []

/-- The current branch is the first one of its group whose condition is true. -/
def BranchConditions.IsTaken : BranchConditions → Prop
  | [] => False
  | current :: earlier => current = some true ∧ some true ∉ earlier

/-- A region is active if each group around it is in the branch it takes. -/
def IsActive (steps : List BranchStep) : Prop :=
  ∀ branches ∈ openBranches steps, branches.IsTaken

/-! ### Decisions -/

/-- A condition that is true or false, as it is known to be if it is known. -/
structure Decision (known decided : Option Bool) : Prop where
  agrees : CoarserAnswer known decided
  isDecided : decided ≠ none

/-- The same directive, with a decision on its condition. -/
inductive BranchStep.Decides : BranchStep → BranchStep → Prop where
  | enter
      {known decided : Option Bool}
      (decision : Decision known decided)
      (line : Nat) :
      Decides (.enter known line) (.enter decided line)
  | elif
      {known decided : Option Bool}
      (decision : Decision known decided) :
      Decides (.elif known) (.elif decided)
  | otherwise : Decides .otherwise .otherwise
  | close : Decides .close .close

/-- The same directives, with a decision on each condition, one apart from the other. -/
abbrev Decisions (steps decided : List BranchStep) : Prop :=
  List.Forall₂ BranchStep.Decides steps decided

/-- The same branches, with a decision on each condition. -/
abbrev BranchDecisions (known decided : BranchConditions) : Prop :=
  List.Forall₂ Decision known decided

/-- An unknown condition stands before a true one, and both before the current branch. -/
def BranchConditions.TakenBehindUnknown (branches : BranchConditions) : Prop :=
  ∃ later earlier, branches.tail = later ++ some true :: earlier ∧ none ∈ earlier

namespace Decision

variable {known decided : Option Bool}

theorem of_some (value : Bool) : Decision (some value) (some value) :=
  ⟨.refl _, by simp⟩

theorem getD (known : Option Bool) (value : Bool) : Decision known (some (known.getD value)) := by
  refine ⟨?_, by simp⟩
  cases known with
  | none =>
      exact .none _
  | some value =>
      exact .refl _

theorem eq_of_some {value : Bool} (decision : Decision (some value) decided) :
    decided = some value :=
  decision.agrees value rfl

end Decision

namespace BranchDecisions

variable {branches decided : BranchConditions}

theorem map_getD (branches : BranchConditions) (value : Bool) :
    BranchDecisions branches (branches.map fun known => some (known.getD value)) := by
  induction branches with
  | nil =>
      exact .nil
  | cons known others inductionHypothesis =>
      exact .cons (.getD known value) inductionHypothesis

theorem true_mem (decisions : BranchDecisions branches decided) (member : some true ∈ branches) :
    some true ∈ decided := by
  induction decisions with
  | nil =>
      cases member
  | cons decision others inductionHypothesis =>
      rcases List.mem_cons.mp member with rfl | isOther
      · rw [decision.eq_of_some]
        exact List.mem_cons_self
      · exact List.mem_cons_of_mem _ (inductionHypothesis isOther)

theorem true_notMem
    (decisions : BranchDecisions branches decided)
    (allFalse : ∀ known ∈ branches, known = some false) :
    some true ∉ decided := by
  induction decisions with
  | nil =>
      exact List.not_mem_nil
  | cons decision others inductionHypothesis =>
      obtain ⟨isFalse, othersFalse⟩ := List.forall_mem_cons.mp allFalse
      subst isFalse
      rw [decision.eq_of_some, List.mem_cons, not_or]
      exact ⟨by simp, inductionHypothesis othersFalse⟩

end BranchDecisions

namespace BranchConditions

/-- The current branch's condition is true, and every one before it is false. -/
def IsSurelyTaken : BranchConditions → Prop
  | [] => False
  | current :: earlier => current = some true ∧ ∀ known ∈ earlier, known = some false

/-- The current branch's condition is false, or one before it is true. -/
def IsSurelySkipped : BranchConditions → Prop
  | [] => True
  | current :: earlier => current = some false ∨ some true ∈ earlier

/-- A group takes its current branch however conditions turn out. -/
theorem forall_isTaken_iff (branches : BranchConditions) :
    (∀ decided, BranchDecisions branches decided → decided.IsTaken) ↔
      branches.IsSurelyTaken := by
  constructor
  · intro taken
    cases branches with
    | nil =>
        exact taken [] .nil
    | cons current earlier =>
        -- Unknown conditions are tried out as false for the current branch, as true before it.
        obtain ⟨currentTaken, -⟩ := taken _ (BranchDecisions.map_getD (current :: earlier) false)
        obtain ⟨-, noEarlier⟩ := taken _ (BranchDecisions.map_getD (current :: earlier) true)
        refine ⟨?_, fun known member => ?_⟩
        · rcases current with _ | _ | _
          · cases currentTaken
          · cases currentTaken
          · rfl
        · rcases known with _ | _ | _
          · exact absurd (List.mem_map.mpr ⟨none, member, rfl⟩) noEarlier
          · rfl
          · exact absurd (List.mem_map.mpr ⟨some true, member, rfl⟩) noEarlier
  · intro taken decided decisions
    cases decisions with
    | nil =>
        exact taken
    | cons decision others =>
        obtain ⟨rfl, allFalse⟩ := taken
        exact ⟨decision.eq_of_some, BranchDecisions.true_notMem others allFalse⟩

/-- A group takes its current branch in no case. -/
theorem forall_not_isTaken_iff (branches : BranchConditions) :
    (∀ decided, BranchDecisions branches decided → ¬decided.IsTaken) ↔
      branches.IsSurelySkipped := by
  constructor
  · intro skipped
    cases branches with
    | nil =>
        trivial
    | cons current earlier =>
        -- The most that can be done for the branch: its condition holds, and none before it.
        have decisions :
            BranchDecisions (current :: earlier)
              (some (current.getD true) :: earlier.map fun known => some (known.getD false)) :=
          .cons (.getD current true) (BranchDecisions.map_getD earlier false)
        by_contra neither
        obtain ⟨notFalse, noTrue⟩ := not_or.mp neither
        refine skipped _ decisions ⟨?_, fun member => ?_⟩
        · rcases current with _ | _ | _
          · rfl
          · exact absurd rfl notFalse
          · rfl
        · obtain ⟨known, isEarlier, isTrue⟩ := List.mem_map.mp member
          rcases known with _ | value
          · cases isTrue
          · exact noTrue (isTrue ▸ isEarlier)
  · intro skipped decided decisions taken
    cases decisions with
    | nil =>
        exact taken
    | cons decision others =>
        rcases skipped with rfl | takenBefore
        · rw [decision.eq_of_some] at taken
          cases taken.1
        · exact taken.2 (BranchDecisions.true_mem others takenBefore)

end BranchConditions

/-! ### Decisions on a whole source -/

/-- Decisions on directives are decisions on the branches that they begin. -/
theorem branchDecisions_openBranches
    {steps decided : List BranchStep}
    (decisions : Decisions steps decided) :
    List.Forall₂ BranchDecisions (openBranches steps) (openBranches decided) := by
  unfold openBranches
  suffices
      ∀ {groups groups' : List BranchConditions},
        List.Forall₂ BranchDecisions groups groups' →
          List.Forall₂ BranchDecisions (steps.foldl BranchStep.branchesAfter groups)
            (decided.foldl BranchStep.branchesAfter groups') from
    this .nil
  induction decisions with
  | nil =>
      exact id
  | cons single others inductionHypothesis =>
      intro groups groups' alike
      refine inductionHypothesis ?_
      have begun {known decided : Option Bool} (decision : Decision known decided) :
          List.Forall₂ BranchDecisions (BranchConditions.begin known groups)
            (BranchConditions.begin decided groups') := by
        cases alike with
        | nil =>
            exact .nil
        | cons innermost outer =>
            exact .cons (.cons decision innermost) outer
      cases single with
      | enter decision line =>
          exact .cons (.cons decision .nil) alike
      | elif decision =>
          exact begun decision
      | otherwise =>
          exact begun (.of_some true)
      | close =>
          cases alike with
          | nil =>
              exact .nil
          | cons innermost outer =>
              exact outer

/-- The branches of the open groups can be decided on in every way. -/
theorem exists_decisions
    {steps : List BranchStep}
    {groups : List BranchConditions}
    (alike : List.Forall₂ BranchDecisions (openBranches steps) groups) :
    ∃ decided, Decisions steps decided ∧ openBranches decided = groups := by
  -- The last directive first: what a group was before it is what is left of it without it.
  induction steps using List.reverseRecOn generalizing groups with
  | nil =>
      cases alike
      exact ⟨[], .nil, rfl⟩
  | append_singleton before last inductionHypothesis =>
      have goesOn
          {groupsBefore : List BranchConditions} {single : BranchStep}
          (alikeBefore : List.Forall₂ BranchDecisions (openBranches before) groupsBefore)
          (decides : last.Decides single)
          (leads : single.branchesAfter groupsBefore = groups) :
          ∃ decided, Decisions (before ++ [last]) decided ∧ openBranches decided = groups := by
        obtain ⟨decided, decisions, rfl⟩ := inductionHypothesis alikeBefore
        refine ⟨decided ++ [single], List.rel_append decisions (.cons decides .nil), ?_⟩
        rw [openBranches, List.foldl_append]
        exact leads
      have begun
          {known : Option Bool}
          (alikeBegun :
            List.Forall₂ BranchDecisions
              (BranchConditions.begin known (openBranches before)) groups) :
          ∃ groupsBefore decided,
            List.Forall₂ BranchDecisions (openBranches before) groupsBefore ∧
              Decision known decided ∧ BranchConditions.begin decided groupsBefore = groups := by
        generalize openBranches before = known at alikeBegun ⊢
        cases known with
        | nil =>
            cases alikeBegun
            exact ⟨[], _, .nil, .getD _ true, rfl⟩
        | cons branches outer =>
            cases alikeBegun with
            | cons innermost outerAlike =>
                cases innermost with
                | cons decision others =>
                    exact ⟨_ :: _, _, .cons others outerAlike, decision, rfl⟩
      rw [openBranches, List.foldl_append] at alike
      cases last with
      | enter condition line =>
          cases alike with
          | cons innermost outer =>
              cases innermost with
              | cons decision others =>
                  cases others
                  exact goesOn outer (.enter decision line) rfl
      | elif condition =>
          obtain ⟨groupsBefore, decided, alikeBefore, decision, leads⟩ := begun alike
          exact goesOn alikeBefore (.elif decision) leads
      | otherwise =>
          obtain ⟨groupsBefore, decided, alikeBefore, decision, leads⟩ := begun alike
          rw [decision.eq_of_some] at leads
          exact goesOn alikeBefore .otherwise leads
      | close =>
          change List.Forall₂ BranchDecisions (openBranches before).tail groups at alike
          cases opened : openBranches before with
          | nil =>
              rw [opened] at alike
              cases alike
              exact goesOn (by rw [opened]; exact .nil) .close rfl
          | cons branches outer =>
              rw [opened] at alike
              have alikeBefore :
                  List.Forall₂ BranchDecisions (openBranches before)
                    (branches.map (fun known => some (known.getD true)) :: groups) := by
                rw [opened]
                exact .cons (.map_getD branches true) alike
              exact goesOn alikeBefore .close rfl

/-- Each open group can be decided on in a way of its own. -/
theorem exists_decisions_map
    {steps : List BranchStep}
    (decide : BranchConditions → BranchConditions)
    (decisions : ∀ branches ∈ openBranches steps, BranchDecisions branches (decide branches)) :
    ∃ decided,
      Decisions steps decided ∧ openBranches decided = (openBranches steps).map decide :=
  exists_decisions (List.forall₂_map_right_iff.mpr (List.forall₂_same.mpr decisions))

/-- An item of one list has a partner in a list that it is related to item by item. -/
private theorem exists_partner
    {α β : Type} {Related : α → β → Prop} {items : List α} {partners : List β} {item : α}
    (related : List.Forall₂ Related items partners)
    (member : item ∈ items) :
    ∃ partner ∈ partners, Related item partner := by
  induction related with
  | nil =>
      cases member
  | cons first others inductionHypothesis =>
      rcases List.mem_cons.mp member with rfl | isOther
      · exact ⟨_, List.mem_cons_self, first⟩
      · obtain ⟨partner, isPartner, relates⟩ := inductionHypothesis isOther
        exact ⟨partner, List.mem_cons_of_mem _ isPartner, relates⟩

/-- A region is active in all cases if every group around it takes its branch in all cases. -/
theorem forall_isActive_iff (steps : List BranchStep) :
    (∀ decided, Decisions steps decided → IsActive decided) ↔
      ∀ branches ∈ openBranches steps, branches.IsSurelyTaken := by
  classical
  constructor
  · intro active branches member
    rw [← BranchConditions.forall_isTaken_iff]
    intro single decision
    -- The other groups are decided on in some way.
    obtain ⟨decided, decisions, opened⟩ :=
      exists_decisions_map
        (fun other =>
          if other = branches then single else other.map fun known => some (known.getD true))
        (fun other (_ : other ∈ openBranches steps) => by
          by_cases same : other = branches
          · simpa [same] using decision
          · simpa [same] using BranchDecisions.map_getD other true)
    refine active decided decisions single ?_
    rw [opened, List.mem_map]
    exact ⟨branches, member, by simp⟩
  · intro taken decided decisions single member
    obtain ⟨branches, isOpen, decision⟩ :=
      exists_partner (branchDecisions_openBranches decisions).flip member
    exact branches.forall_isTaken_iff.mpr (taken branches isOpen) single decision

/-- A region is active in no case if some group around it takes its branch in no case. -/
theorem forall_not_isActive_iff (steps : List BranchStep) :
    (∀ decided, Decisions steps decided → ¬IsActive decided) ↔
      ∃ branches ∈ openBranches steps, branches.IsSurelySkipped := by
  constructor
  · intro inactive
    by_contra noneSkipped
    have best :
        ∀ branches, ∃ decided,
          branches ∈ openBranches steps → BranchDecisions branches decided ∧ decided.IsTaken := by
      intro branches
      by_contra noneTaken
      push Not at noneTaken
      refine noneSkipped ⟨branches, (noneTaken []).1, ?_⟩
      exact branches.forall_not_isTaken_iff.mp fun decided => (noneTaken decided).2
    choose decide decides using best
    obtain ⟨decided, decisions, opened⟩ :=
      exists_decisions_map decide fun branches member => (decides branches member).1
    refine inactive decided decisions ?_
    rw [IsActive, opened, List.forall_mem_map]
    exact fun branches member => (decides branches member).2
  · rintro ⟨branches, member, skipped⟩ decided decisions active
    obtain ⟨single, isSingle, decision⟩ :=
      exists_partner (branchDecisions_openBranches decisions) member
    exact branches.forall_not_isTaken_iff.mpr skipped single decision (active single isSingle)

/-! ### What a group remembers -/

namespace BranchConditions

/-- Whether one of the branches was taken, as far as a group knows. -/
def taken : BranchConditions → Liveness
  | [] => .dead
  | current :: earlier =>
      (taken earlier).or (Conditionals.nextBranch (taken earlier) current)

/-- The liveness of the current branch within its group. -/
def liveness : BranchConditions → Liveness
  | [] => .dead
  | current :: earlier => Conditionals.nextBranch (taken earlier) current

@[simp] theorem taken_nil : taken [] = .dead := rfl

theorem taken_cons (current : Option Bool) (earlier : BranchConditions) :
    taken (current :: earlier) =
      (taken earlier).or (Conditionals.nextBranch (taken earlier) current) := rfl

theorem taken_eq_dead_iff (branches : BranchConditions) :
    branches.taken = .dead ↔ ∀ known ∈ branches, known = some false := by
  induction branches with
  | nil =>
      simp
  | cons current earlier inductionHypothesis =>
      rw [List.forall_mem_cons, ← inductionHypothesis, taken_cons]
      cases taken earlier <;> rcases current with _ | _ | _ <;> decide

theorem true_mem_of_taken {branches : BranchConditions} (isTaken : branches.taken = .live) :
    some true ∈ branches := by
  induction branches with
  | nil =>
      cases isTaken
  | cons current earlier inductionHypothesis =>
      rw [taken_cons] at isTaken
      cases before : taken earlier with
      | live =>
          exact List.mem_cons_of_mem _ (inductionHypothesis before)
      | dead =>
          rw [before] at isTaken
          rcases current with _ | _ | _
          · cases isTaken
          · cases isTaken
          · exact List.mem_cons_self
      | unknown =>
          rw [before] at isTaken
          rcases current with _ | _ | _ <;> cases isTaken

/-- Nothing but an unknown condition leaves open whether a branch was taken. -/
theorem unknown_mem_of_taken {branches : BranchConditions} (isOpen : branches.taken = .unknown) :
    none ∈ branches := by
  induction branches with
  | nil =>
      cases isOpen
  | cons current earlier inductionHypothesis =>
      rw [taken_cons] at isOpen
      cases before : taken earlier with
      | unknown =>
          exact List.mem_cons_of_mem _ (inductionHypothesis before)
      | live =>
          rw [before] at isOpen
          cases isOpen
      | dead =>
          rw [before] at isOpen
          rcases current with _ | _ | _
          · exact List.mem_cons_self
          · cases isOpen
          · cases isOpen

/-- A true condition is known to be taken, unless an unknown one stands before it. -/
theorem taken_of_true_mem {branches : BranchConditions} (member : some true ∈ branches) :
    branches.taken = .live ∨
      ∃ later earlier, branches = later ++ some true :: earlier ∧ none ∈ earlier := by
  induction branches with
  | nil =>
      cases member
  | cons current earlier inductionHypothesis =>
      rcases List.mem_cons.mp member with rfl | isEarlier
      · cases before : taken earlier with
        | live | dead =>
            left
            rw [taken_cons, before]
            rfl
        | unknown =>
            exact .inr ⟨[], earlier, rfl, unknown_mem_of_taken before⟩
      · rcases inductionHypothesis isEarlier with isTaken | ⟨later, first, rfl, isUnknown⟩
        · left
          rw [taken_cons, isTaken]
          rfl
        · exact .inr ⟨current :: later, first, rfl, isUnknown⟩

/-- A branch is known to be live just where it is taken in all cases. -/
theorem isSurelyTaken_iff (branches : BranchConditions) :
    branches.IsSurelyTaken ↔ branches.liveness = .live := by
  cases branches with
  | nil =>
      simp [IsSurelyTaken, liveness]
  | cons current earlier =>
      rw [IsSurelyTaken, liveness, ← taken_eq_dead_iff]
      cases taken earlier <;> rcases current with _ | _ | _ <;> decide

/-- A branch that is taken in no case is known to be dead, but for those behind an unknown one. -/
theorem isSurelySkipped_iff (branches : BranchConditions) :
    branches.IsSurelySkipped ↔ branches.liveness = .dead ∨ branches.TakenBehindUnknown := by
  cases branches with
  | nil =>
      simp [IsSurelySkipped, liveness]
  | cons current earlier =>
      have isDead :
          liveness (current :: earlier) = .dead ↔
            taken earlier = .live ∨ current = some false := by
        rw [liveness]
        cases taken earlier <;> rcases current with _ | _ | _ <;> decide
      rw [isDead]
      constructor
      · rintro (isFalse | member)
        · exact .inl (.inr isFalse)
        · rcases taken_of_true_mem member with isTaken | behindUnknown
          · exact .inl (.inl isTaken)
          · exact .inr behindUnknown
      · rintro ((isTaken | isFalse) | ⟨later, first, split, -⟩)
        · exact .inr (true_mem_of_taken isTaken)
        · exact .inl isFalse
        · right
          change earlier = later ++ some true :: first at split
          rw [split]
          exact List.mem_append_right _ List.mem_cons_self

end BranchConditions

/-- A group knows its current branch and, up to its `#else`, whether one was taken. -/
structure ConditionalGroup.Knows (group : ConditionalGroup) (branches : BranchConditions) :
    Prop where
  branch : group.branch = branches.liveness
  taken : group.seenElse = false → group.taken = branches.taken

/-- Groups that know their branches, each with the liveness of the groups around it. -/
inductive GroupsKnow : List ConditionalGroup → List BranchConditions → Prop where
  | nil : GroupsKnow [] []
  | cons
      {group : ConditionalGroup}
      {groups : List ConditionalGroup}
      {branches : BranchConditions}
      {outer : List BranchConditions}
      (enclosing : group.enclosing = Conditionals.liveness ⟨groups⟩)
      (innermost : group.Knows branches)
      (others : GroupsKnow groups outer) :
      GroupsKnow (group :: groups) (branches :: outer)

namespace GroupsKnow

variable {groups : List ConditionalGroup} {branches : List BranchConditions}

/-- A region is known to be live if the current branch of each group is. -/
theorem liveness_eq_live_iff (know : GroupsKnow groups branches) :
    Conditionals.liveness ⟨groups⟩ = .live ↔ ∀ group ∈ branches, group.liveness = .live := by
  induction know with
  | nil =>
      simp [Conditionals.liveness]
  | @cons group groups branches outer enclosing innermost others inductionHypothesis =>
      rw [List.forall_mem_cons, ← inductionHypothesis, ← innermost.branch]
      change group.enclosing.and group.branch = .live ↔ _
      rw [enclosing]
      cases Conditionals.liveness ⟨groups⟩ <;> cases group.branch <;> decide

/-- A region is known to be skipped if the current branch of some group is. -/
theorem liveness_eq_dead_iff (know : GroupsKnow groups branches) :
    Conditionals.liveness ⟨groups⟩ = .dead ↔ ∃ group ∈ branches, group.liveness = .dead := by
  induction know with
  | nil =>
      simp [Conditionals.liveness]
  | @cons group groups branches outer enclosing innermost others inductionHypothesis =>
      rw [List.exists_mem_cons_iff, ← inductionHypothesis, ← innermost.branch]
      change group.enclosing.and group.branch = .dead ↔ _
      rw [enclosing]
      cases Conditionals.liveness ⟨groups⟩ <;> cases group.branch <;> decide

theorem step
    {next : Conditionals}
    {directive : BranchStep}
    (know : GroupsKnow groups branches)
    (accepted : Conditionals.step ⟨groups⟩ directive = .ok next) :
    GroupsKnow next.groups (directive.branchesAfter branches) := by
  cases directive with
  | enter condition line =>
      cases accepted
      refine .cons rfl ⟨?_, fun _ => ?_⟩ know
      · rfl
      · rcases condition with _ | _ | _ <;> rfl
  | elif condition =>
      cases know with
      | nil =>
          cases accepted
      | cons enclosing innermost others =>
          simp only [Conditionals.step, Conditionals.elif] at accepted
          split at accepted
          · cases accepted
          · rename_i notElse
            cases accepted
            have taken := innermost.taken (Bool.not_eq_true _ ▸ notElse)
            refine .cons enclosing ⟨?_, fun _ => ?_⟩ others
            · rw [taken]
              rfl
            · rw [taken]
              rfl
  | otherwise =>
      cases know with
      | nil =>
          cases accepted
      | cons enclosing innermost others =>
          simp only [Conditionals.step, Conditionals.otherwise] at accepted
          split at accepted
          · cases accepted
          · rename_i notElse
            cases accepted
            refine .cons enclosing ⟨?_, fun noElse => ?_⟩ others
            · rw [innermost.taken (Bool.not_eq_true _ ▸ notElse)]
              rfl
            · cases noElse
  | close =>
      cases know with
      | nil =>
          cases accepted
      | cons enclosing innermost others =>
          cases accepted
          exact others

/-- After every accepted sequence of directives the groups know their branches. -/
theorem of_past
    {steps : List BranchStep}
    {conditionals : Conditionals}
    (accepted : Conditionals.past steps = .ok conditionals) :
    GroupsKnow conditionals.groups (openBranches steps) := by
  induction steps using List.reverseRecOn generalizing conditionals with
  | nil =>
      cases accepted
      exact .nil
  | append_singleton before last inductionHypothesis =>
      rw [Conditionals.past_concat] at accepted
      cases first : Conditionals.past before with
      | error fault =>
          rw [first] at accepted
          cases accepted
      | ok middle =>
          rw [first] at accepted
          rw [openBranches, List.foldl_append]
          exact (inductionHypothesis first).step accepted

end GroupsKnow

/-! ### Directives of a source -/

namespace LineContext

/-- The conditional directive on a line, with its condition's value there. -/
def branchStep? (context : LineContext) (line : List Char) : Option BranchStep :=
  match context.directive? line with
  | some (.ifCondition condition) =>
      some (.enter (context.macros.evaluate condition) context.line)
  | some (.ifDefined body) => some (.enter (context.macros.isDefined body) context.line)
  | some (.ifNotDefined body) =>
      some (.enter ((context.macros.isDefined body).map (!·)) context.line)
  | some (.elifCondition condition) => some (.elif (context.macros.evaluate condition))
  | some .otherwise => some .otherwise
  | some .endIf => some .close
  | _ => none

/-- A line changes the groups by its conditional directive, if there is one. -/
theorem groupsAfter_eq_step (context : LineContext) (line : List Char) :
    context.groupsAfter line =
      match context.branchStep? line with
      | some step => context.conditionals.step step
      | none => .ok context.conditionals := by
  unfold groupsAfter branchStep?
  cases context.directive? line with
  | none =>
      rfl
  | some directive =>
      cases directive <;> rfl

theorem past_of_advance?
    {context next : LineContext}
    {line : List Char}
    {steps : List BranchStep}
    (accepted : Conditionals.past steps = .ok context.conditionals)
    (keeps : context.advance? line = some next) :
    Conditionals.past (steps ++ (context.branchStep? line).toList) = .ok next.conditionals := by
  obtain ⟨-, conditionals, changed, rfl⟩ := advance?_eq_some_iff.mp keeps
  rw [groupsAfter_eq_step] at changed
  cases step : context.branchStep? line with
  | none =>
      simp only [step] at changed
      cases changed
      rw [Option.toList_none, List.append_nil]
      exact accepted
  | some directive =>
      simp only [step] at changed
      rw [Option.toList_some, Conditionals.past_concat, accepted]
      exact changed

theorem branchStep?_of_includes?
    {context : LineContext}
    {line : List Char}
    {kind : IncludeKind}
    {target : String}
    (includes : context.includes? line = some (kind, target)) :
    context.branchStep? line = none := by
  unfold includes? at includes
  unfold branchStep?
  split at includes
  · rename_i found
    rw [found]
  · cases includes

/-- The line asks for a file, in a well-formed way or not. -/
def HoldsInclude (context : LineContext) (line : List Char) : Prop :=
  (∃ kind target, context.directive? line = some (.includeFile kind target)) ∨
    ∃ fault, context.directive? line = some (.malformedInclude fault)

/-- A line in a skipped region that asks for a file is left out. -/
theorem advance?_of_include
    {context : LineContext}
    {line : List Char}
    (skipped : context.conditionals.liveness = .dead)
    (holdsInclude : context.HoldsInclude line) :
    context.advance? line =
        some (context.next (context.commentAfter line)
          context.conditionals context.macros) ∧
      context.keptText line = Comment.placeholder (context.commentAfter line) := by
  have isDead : context.conditionals.liveness.isDead = true := by
    rw [skipped]
    rfl
  rcases holdsInclude with ⟨kind, target, found⟩ | ⟨fault, found⟩ <;>
    simp [advance?, action, keptText, found, isDead]

end LineContext

/-- The groups at a line are the ones that the directives above it lead to. -/
theorem Visit.past_of_entries
    {visit : Visit}
    {first site : LineContext}
    {lines : List (List Char)}
    {line : List Char}
    {n : Nat}
    {steps : List BranchStep}
    (accepted : Conditionals.past steps = .ok first.conditionals)
    (reached : (visit.entries first lines)[n]? = some (site, line)) :
    Conditionals.past
        (steps ++
          ((visit.entries first lines).take n).filterMap fun entry =>
            entry.1.branchStep? entry.2) =
      .ok site.conditionals := by
  induction lines generalizing first n steps with
  | nil =>
      cases reached
  | cons current others inductionHypothesis =>
      cases n with
      | zero =>
          rw [entries, List.getElem?_cons_zero] at reached
          cases reached
          rw [List.take_zero, List.filterMap_nil, List.append_nil]
          exact accepted
      | succ n =>
          rcases entries_succ reached with
            ⟨next, keeps, found⟩ | ⟨kind, target, macros, includes, spliced, found⟩
          · have further := inductionHypothesis (LineContext.past_of_advance? accepted keeps) found
            rw [entries_of_advance? keeps, List.take_succ_cons, List.filterMap_cons]
            cases step : first.branchStep? current with
            | none =>
                simpa [step] using further
            | some directive =>
                simpa [step] using further
          · have unchanged := LineContext.branchStep?_of_includes? includes
            have acceptedAfter :
                Conditionals.past steps = .ok (first.resume current macros).conditionals :=
              accepted
            have further := inductionHypothesis acceptedAfter found
            rw [entries_of_includes? includes spliced, List.take_succ_cons, List.filterMap_cons]
            simp only [unchanged]
            exact further

/-- A visit goes on past an include that it leaves out, and knows what it knew before it. -/
theorem Visit.run_of_skipped_include
    {context : LineContext}
    {line : List Char}
    (skipped : context.conditionals.liveness = .dead)
    (holdsInclude : context.HoldsInclude line)
    (visit : Visit)
    (others : List (List Char)) :
    visit.run context (line :: others) =
      (visit.run
          (context.next (context.commentAfter line) context.conditionals context.macros)
          others).after
        [.line ⟨Comment.placeholder (context.commentAfter line),
          some (context.origin visit.source)⟩] := by
  obtain ⟨keeps, kept⟩ := LineContext.advance?_of_include skipped holdsInclude
  rw [run_of_advance? keeps, kept]

/-! ### What is known of certain regions -/

/--
A region is active in all cases just where it is known to be live. Where it is
active in no case it is known to be skipped, unless an unknown condition stands
before a true one in some group around it. Visits leave includes out of regions that
are known to be skipped, and go on. A line that a visit comes to is in the region that
the directives above it in its source lead to.
-/
theorem certain_regions_known
    {steps : List BranchStep}
    {conditionals : Conditionals}
    (accepted : Conditionals.past steps = .ok conditionals) :
    ((∀ decided, Decisions steps decided → IsActive decided) ↔
        conditionals.liveness = .live) ∧
      ((∀ decided, Decisions steps decided → ¬IsActive decided) ↔
          conditionals.liveness = .dead ∨
            ∃ branches ∈ openBranches steps, branches.TakenBehindUnknown) ∧
        (conditionals.liveness = .dead →
          ∀ (visit : Visit) (context : LineContext) (line : List Char)
            (others : List (List Char)),
            context.conditionals = conditionals →
            context.HoldsInclude line →
            visit.run context (line :: others) =
              (visit.run
                  (context.next (context.commentAfter line) conditionals context.macros)
                  others).after
                [.line ⟨Comment.placeholder (context.commentAfter line),
                  some (context.origin visit.source)⟩]) ∧
          ∀ (visit : Visit) (macros : MacroTable) (lines : List (List Char)) (n : Nat)
            (site : LineContext) (line : List Char),
            (visit.entries (.top macros) lines)[n]? = some (site, line) →
            (((visit.entries (.top macros) lines).take n).filterMap fun entry =>
                entry.1.branchStep? entry.2) = steps →
            site.conditionals = conditionals := by
  have know := GroupsKnow.of_past accepted
  refine ⟨?_, ?_, ?_, ?_⟩
  · rw [forall_isActive_iff, know.liveness_eq_live_iff]
    simp only [BranchConditions.isSurelyTaken_iff]
  · rw [forall_not_isActive_iff, know.liveness_eq_dead_iff]
    simp only [BranchConditions.isSurelySkipped_iff]
    constructor
    · rintro ⟨branches, member, dead | behindUnknown⟩
      · exact .inl ⟨branches, member, dead⟩
      · exact .inr ⟨branches, member, behindUnknown⟩
    · rintro (⟨branches, member, dead⟩ | ⟨branches, member, behindUnknown⟩)
      · exact ⟨branches, member, .inl dead⟩
      · exact ⟨branches, member, .inr behindUnknown⟩
  · rintro skipped visit context line others rfl holdsInclude
    exact visit.run_of_skipped_include skipped holdsInclude others
  · rintro visit macros lines n site line reached rfl
    -- A visit begins outside of all groups, as the empty sequence does.
    have reaches := @Visit.past_of_entries visit (.top macros) site lines line n [] rfl reached
    rw [List.nil_append, accepted] at reaches
    exact (Except.ok.inj reaches).symm

/-- After a true condition, an unknown one begins a branch that is taken in no case. -/
theorem certain_regions_known_after_true :
    let steps : List BranchStep := [.enter none 1, .enter (some true) 2, .elif none]
    (∃ conditionals, Conditionals.past steps = .ok conditionals ∧
        conditionals.liveness = .dead) ∧
      ∀ decided, Decisions steps decided → ¬IsActive decided := by
  intro steps
  have accepted :
      Conditionals.past steps =
        .ok ⟨[⟨.unknown, .dead, .live, false, 2⟩, ⟨.live, .unknown, .unknown, false, 1⟩]⟩ := rfl
  exact ⟨⟨_, accepted, rfl⟩, (certain_regions_known accepted).2.1.mpr (.inl rfl)⟩

/--
Behind an unknown condition and a true one, `#else` begins a branch that is taken in
no case and is not known to be skipped. An include in it is resolved.
-/
theorem skipped_branch_unknown :
    let steps : List BranchStep := [.enter none 2, .elif (some true), .otherwise]
    let content :=
      "#version 450\n#if __VERSION__ < 450\n#elif 1\n#else\n#include \"a\"\n#endif\n".toList
    let settings : ExpansionSettings :=
      ⟨some (SourceCollection.ofList [("a", "float a;\n".toList)]).resolver, 4, []⟩
    (∃ conditionals, Conditionals.past steps = .ok conditionals ∧
        conditionals.liveness = .unknown) ∧
      (∀ decided, Decisions steps decided → ¬IsActive decided) ∧
        (settings.expand "main" content).requests = [⟨"a", .relative, "main", 1⟩] := by
  intro steps content settings
  refine ⟨⟨_, rfl, rfl⟩, ?_, by decide +kernel⟩
  rw [forall_not_isActive_iff]
  exact ⟨[some true, some true, none], List.mem_singleton_self _, .inr (by decide)⟩

end ShaderBuild
