import ShaderBuild.Proofs.Balance
import ShaderBuild.Proofs.Certainty

namespace ShaderBuild

/-!
# The grammar of conditional groups

Directives are accepted if they can be the beginning of whole groups: each group is
opened, goes on with `#elif` branches and at most one `#else` branch behind them, and is
closed, with whole groups inside its branches. Conditions and regions play no part in
it. The first directive that is refused is the first one behind which no continuation
makes whole groups, and a group that is left open is known by its opening directive.
-/

/-- What a conditional directive does to the open groups, whatever its condition. -/
inductive BranchKind where
  | enter
  | elif
  | otherwise
  | close
  deriving Repr, DecidableEq

/-- The kind of a conditional directive. -/
def BranchStep.kind : BranchStep → BranchKind
  | .enter _ _ => .enter
  | .elif _ => .elif
  | .otherwise => .otherwise
  | .close => .close

/--
Whole groups, one after the other. A group has a first branch, any number of `#elif`
branches and perhaps an `#else` branch, each of which holds whole groups.
-/
inductive IsGroups : List BranchKind → Prop where
  | empty : IsGroups []
  | group
      {first others : List BranchKind}
      {elifs : List (List BranchKind)}
      {last : Option (List BranchKind)}
      (firstBranch : IsGroups first)
      (elifBranches : ∀ branch ∈ elifs, IsGroups branch)
      (elseBranch : ∀ branch ∈ last, IsGroups branch)
      (followed : IsGroups others) :
      IsGroups
        (.enter ::
          (first ++ elifs.flatMap (.elif :: ·) ++ last.toList.flatMap (.otherwise :: ·) ++
            .close :: others))

/-- The branches of a group that is still open, and whether the last one is its `#else`. -/
inductive IsBranches : (seenElse : Bool) → List BranchKind → Prop where
  | first
      {branch : List BranchKind}
      (groups : IsGroups branch) :
      IsBranches false branch
  | elif
      {earlier branch : List BranchKind}
      (before : IsBranches false earlier)
      (groups : IsGroups branch) :
      IsBranches false (earlier ++ .elif :: branch)
  | otherwise
      {earlier branch : List BranchKind}
      (before : IsBranches false earlier)
      (groups : IsGroups branch) :
      IsBranches true (earlier ++ .otherwise :: branch)

/-- Some continuation makes whole groups. -/
def IsViable (kinds : List BranchKind) : Prop :=
  ∃ continuation, IsGroups (kinds ++ continuation)

/-! ### Putting groups together -/

theorem IsGroups.append
    {kinds others : List BranchKind}
    (groups : IsGroups kinds)
    (followed : IsGroups others) :
    IsGroups (kinds ++ others) := by
  induction groups with
  | empty =>
      exact followed
  | group firstBranch elifBranches elseBranch _ _ _ _ inductionHypothesis =>
      have whole := IsGroups.group firstBranch elifBranches elseBranch inductionHypothesis
      simpa only [List.append_assoc, List.cons_append] using whole

namespace IsBranches

variable {seenElse : Bool} {inside : List BranchKind}

theorem append
    {others : List BranchKind}
    (branches : IsBranches seenElse inside)
    (followed : IsGroups others) :
    IsBranches seenElse (inside ++ others) := by
  cases branches with
  | first groups =>
      exact .first (groups.append followed)
  | elif before groups =>
      rw [List.append_assoc]
      exact .elif before (groups.append followed)
  | otherwise before groups =>
      rw [List.append_assoc]
      exact .otherwise before (groups.append followed)

/-- Up to its `#else`, a group has a first branch and `#elif` branches. -/
theorem exists_elifs (branches : IsBranches seenElse inside) (noElse : seenElse = false) :
    ∃ (first : List BranchKind) (elifs : List (List BranchKind)),
      IsGroups first ∧ (∀ branch ∈ elifs, IsGroups branch) ∧
        inside = first ++ elifs.flatMap (.elif :: ·) := by
  induction branches with
  | first groups =>
      exact ⟨_, [], groups, by simp, by simp⟩
  | @elif earlier branch before groups inductionHypothesis =>
      obtain ⟨first, elifs, firstBranch, elifBranches, rfl⟩ := inductionHypothesis rfl
      refine ⟨first, elifs ++ [branch], firstBranch, fun other member => ?_, by simp⟩
      rcases List.mem_append.mp member with isEarlier | isLast
      · exact elifBranches other isEarlier
      · rwa [List.mem_singleton.mp isLast]
  | otherwise before groups =>
      cases noElse

/-- An open group is made whole by closing it. -/
theorem group (branches : IsBranches seenElse inside) :
    IsGroups (.enter :: (inside ++ [.close])) := by
  cases seenElse with
  | false =>
      obtain ⟨first, elifs, firstBranch, elifBranches, rfl⟩ := branches.exists_elifs rfl
      have noElse : ∀ branch ∈ (none : Option (List BranchKind)), IsGroups branch := nofun
      simpa using IsGroups.group firstBranch elifBranches noElse .empty
  | true =>
      cases branches with
      | @otherwise earlier branch before groups =>
          obtain ⟨first, elifs, firstBranch, elifBranches, rfl⟩ := before.exists_elifs rfl
          have elseBranch : ∀ other ∈ some branch, IsGroups other := by
            rintro other ⟨⟩
            exact groups
          simpa using IsGroups.group firstBranch elifBranches elseBranch .empty

end IsBranches

/-! ### Groups as flags -/

/-- The flags of the open groups after a directive of some kind, or why it is refused. -/
def BranchKind.flagsAfter (flags : List Bool) : BranchKind → Except ConditionalFault (List Bool)
  | .enter => .ok (false :: flags)
  | .elif =>
      match flags with
      | [] => .error .elifWithoutIf
      | true :: _ => .error .elifAfterElse
      | false :: outer => .ok (false :: outer)
  | .otherwise =>
      match flags with
      | [] => .error .elseWithoutIf
      | true :: _ => .error .elseAfterElse
      | false :: outer => .ok (true :: outer)
  | .close =>
      match flags with
      | [] => .error .endifWithoutIf
      | _ :: outer => .ok outer

/-- The flags after directives of some kinds, from the top of a source on. -/
def flagsPast (kinds : List BranchKind) : Except ConditionalFault (List Bool) :=
  kinds.foldlM BranchKind.flagsAfter []

namespace Conditionals

/-- Neither conditions nor the liveness of regions decide what becomes of a directive. -/
theorem map_flags_step (conditionals : Conditionals) (step : BranchStep) :
    (conditionals.step step).map flags = step.kind.flagsAfter conditionals.flags := by
  obtain ⟨groups⟩ := conditionals
  cases step with
  | enter condition line =>
      rfl
  | elif condition | otherwise =>
      cases groups with
      | nil =>
          rfl
      | cons group outer =>
          obtain ⟨enclosing, branch, taken, seenElse, line⟩ := group
          cases seenElse <;> rfl
  | close =>
      cases groups <;> rfl

theorem map_flags_past (steps : List BranchStep) :
    (past steps).map flags = flagsPast (steps.map BranchStep.kind) := by
  induction steps using List.reverseRecOn with
  | nil =>
      rfl
  | append_singleton before last inductionHypothesis =>
      rw [past_concat, List.map_append, flagsPast, List.foldlM_append]
      simp only [List.map_cons, List.map_nil, List.foldlM_cons, List.foldlM_nil, bind_pure]
      change _ = flagsPast (before.map BranchStep.kind) >>= _
      rw [← inductionHypothesis]
      cases past before with
      | error fault =>
          rfl
      | ok conditionals =>
          exact map_flags_step conditionals last

end Conditionals

/-- Branches that begin with `#elif` leave a group up to its `#else`. -/
theorem foldlM_elifs
    {elifs : List (List BranchKind)}
    (elifBranches :
      ∀ branch ∈ elifs, ∀ flags, branch.foldlM BranchKind.flagsAfter flags = .ok flags)
    (outer : List Bool) :
    (elifs.flatMap (.elif :: ·)).foldlM BranchKind.flagsAfter (false :: outer) =
      .ok (false :: outer) := by
  induction elifs with
  | nil =>
      rfl
  | cons branch others inductionHypothesis =>
      obtain ⟨isHere, areBehind⟩ := List.forall_mem_cons.mp elifBranches
      rw [List.flatMap_cons, List.foldlM_append, List.foldlM_cons]
      change branch.foldlM BranchKind.flagsAfter (false :: outer) >>= _ = _
      rw [isHere]
      exact inductionHypothesis areBehind

/-- Whole groups are accepted anywhere, and leave nothing open. -/
theorem IsGroups.foldlM_flagsAfter
    {kinds : List BranchKind}
    (groups : IsGroups kinds)
    (flags : List Bool) :
    kinds.foldlM BranchKind.flagsAfter flags = .ok flags := by
  induction groups generalizing flags with
  | empty =>
      rfl
  | @group first others elifs last _ _ _ _ firstBranch elifBranches elseBranch followed =>
      have closes (seenElse : Bool) :
          (BranchKind.close :: others).foldlM BranchKind.flagsAfter (seenElse :: flags) =
            .ok flags :=
        followed flags
      rw [List.foldlM_cons]
      change List.foldlM _ (false :: flags) _ = _
      rw [List.foldlM_append, List.foldlM_append, List.foldlM_append, firstBranch]
      change ((elifs.flatMap (.elif :: ·)).foldlM BranchKind.flagsAfter (false :: flags) >>= _) >>=
        _ = _
      rw [foldlM_elifs elifBranches]
      cases last with
      | none =>
          exact closes false
      | some branch =>
          rw [Option.toList_some, List.flatMap_singleton]
          change branch.foldlM BranchKind.flagsAfter (true :: flags) >>= _ = _
          rw [elseBranch branch rfl]
          exact closes true

/-- What can be the beginning of whole groups is accepted. -/
theorem IsViable.exists_flags {kinds : List BranchKind} (viable : IsViable kinds) :
    ∃ flags, flagsPast kinds = .ok flags := by
  obtain ⟨continuation, groups⟩ := viable
  have accepted := groups.foldlM_flagsAfter []
  rw [List.foldlM_append] at accepted
  cases beginning : flagsPast kinds with
  | error fault =>
      rw [flagsPast] at beginning
      rw [beginning] at accepted
      cases accepted
  | ok flags =>
      exact ⟨flags, rfl⟩

/-! ### What the open groups stand for -/

/-- The line that opened a group, and whether its `#else` has been seen. -/
def ConditionalGroup.place (group : ConditionalGroup) : Nat × Bool :=
  (group.line, group.seenElse)

/--
Directives that leave groups open, innermost first: whole groups, and for each open
group its opening directive with the branches behind it.
-/
inductive LeavesOpen : List BranchStep → List (Nat × Bool) → Prop where
  | outside
      {steps : List BranchStep}
      (groups : IsGroups (steps.map BranchStep.kind)) :
      LeavesOpen steps []
  | inside
      {outer steps : List BranchStep}
      {places : List (Nat × Bool)}
      {condition : Option Bool}
      {line : Nat}
      {seenElse : Bool}
      (before : LeavesOpen outer places)
      (branches : IsBranches seenElse (steps.map BranchStep.kind)) :
      LeavesOpen (outer ++ .enter condition line :: steps) ((line, seenElse) :: places)

namespace LeavesOpen

variable
  {steps : List BranchStep} {place : Nat × Bool} {places : List (Nat × Bool)}

theorem append
    {others : List BranchStep}
    (leaves : LeavesOpen steps places)
    (followed : IsGroups (others.map BranchStep.kind)) :
    LeavesOpen (steps ++ others) places := by
  cases leaves with
  | outside groups =>
      refine .outside ?_
      rw [List.map_append]
      exact groups.append followed
  | inside before branches =>
      rw [List.append_assoc, List.cons_append]
      refine .inside before ?_
      rw [List.map_append]
      exact branches.append followed

/-- Closing the innermost group makes it whole. -/
theorem close (leaves : LeavesOpen steps (place :: places)) :
    LeavesOpen (steps ++ [.close]) places := by
  cases leaves with
  | inside before branches =>
      rw [List.append_assoc, List.cons_append]
      refine before.append ?_
      rw [List.map_cons, List.map_append]
      exact branches.group

/-- A directive that begins a branch leaves its group open. -/
theorem branch
    {directive : BranchStep}
    {line : Nat}
    {seenElse : Bool}
    (leaves : LeavesOpen steps ((line, false) :: places))
    (begins :
      ∀ {inside : List BranchKind},
        IsBranches false inside → IsBranches seenElse (inside ++ [directive.kind])) :
    LeavesOpen (steps ++ [directive]) ((line, seenElse) :: places) := by
  cases leaves with
  | inside before branches =>
      rw [List.append_assoc, List.cons_append]
      refine .inside before ?_
      rw [List.map_append]
      exact begins branches

/-- Directives that leave groups open can be the beginning of whole groups. -/
theorem isViable (leaves : LeavesOpen steps places) : IsViable (steps.map BranchStep.kind) := by
  -- The continuation closes the open groups, innermost first.
  induction places generalizing steps with
  | nil =>
      cases leaves with
      | outside groups =>
          exact ⟨[], by rwa [List.append_nil]⟩
  | cons place places inductionHypothesis =>
      obtain ⟨continuation, groups⟩ := inductionHypothesis leaves.close
      refine ⟨.close :: continuation, ?_⟩
      rwa [List.map_append, List.append_assoc] at groups

/-- A directive that is accepted changes the open groups as the grammar says. -/
theorem step
    {conditionals next : Conditionals}
    {directive : BranchStep}
    (leaves : LeavesOpen steps (conditionals.groups.map ConditionalGroup.place))
    (accepted : conditionals.step directive = .ok next) :
    LeavesOpen (steps ++ [directive]) (next.groups.map ConditionalGroup.place) := by
  obtain ⟨groups⟩ := conditionals
  cases directive with
  | enter condition line =>
      cases accepted
      exact .inside leaves (.first .empty)
  | elif condition =>
      cases groups with
      | nil =>
          cases accepted
      | cons group outer =>
          obtain ⟨enclosing, branch, taken, seenElse, line⟩ := group
          cases seenElse with
          | true =>
              cases accepted
          | false =>
              cases accepted
              exact leaves.branch fun branches => .elif branches .empty
  | otherwise =>
      cases groups with
      | nil =>
          cases accepted
      | cons group outer =>
          obtain ⟨enclosing, branch, taken, seenElse, line⟩ := group
          cases seenElse with
          | true =>
              cases accepted
          | false =>
              cases accepted
              exact leaves.branch fun branches => .otherwise branches .empty
  | close =>
      cases groups with
      | nil =>
          cases accepted
      | cons group outer =>
          cases accepted
          exact leaves.close

/-- Accepted directives leave the groups open that the grammar says. -/
theorem of_past
    {conditionals : Conditionals}
    (accepted : Conditionals.past steps = .ok conditionals) :
    LeavesOpen steps (conditionals.groups.map ConditionalGroup.place) := by
  induction steps using List.reverseRecOn generalizing conditionals with
  | nil =>
      cases accepted
      exact .outside .empty
  | append_singleton before last inductionHypothesis =>
      rw [Conditionals.past_concat] at accepted
      cases first : Conditionals.past before with
      | error fault =>
          rw [first] at accepted
          cases accepted
      | ok middle =>
          rw [first] at accepted
          exact (inductionHypothesis first).step accepted

end LeavesOpen

namespace Conditionals

variable {steps : List BranchStep}

/-- Directives are refused at the first one that does not fit, with its fault. -/
theorem past_eq_error_iff {fault : ConditionalFault} :
    past steps = .error fault ↔
      ∃ before step after conditionals,
        steps = before ++ step :: after ∧ past before = .ok conditionals ∧
          conditionals.step step = .error fault := by
  constructor
  · intro refused
    -- The induction takes the last directive away: behind a fault, nothing is looked at.
    induction steps using List.reverseRecOn with
    | nil =>
        cases refused
    | append_singleton before last inductionHypothesis =>
        rw [past_concat] at refused
        cases first : past before with
        | error earlier =>
            rw [first] at refused
            obtain ⟨start, step, after, conditionals, rfl, accepted, fails⟩ :=
              inductionHypothesis (first.trans refused)
            exact ⟨start, step, after ++ [last], conditionals, by simp, accepted, fails⟩
        | ok conditionals =>
            rw [first] at refused
            exact ⟨before, last, [], conditionals, rfl, first, refused⟩
  · rintro ⟨before, step, after, conditionals, rfl, accepted, fails⟩
    rw [past] at accepted ⊢
    rw [List.foldlM_append, accepted]
    change conditionals.step step >>= _ = _
    rw [fails]
    rfl

/-- Directives are accepted if they can be the beginning of whole groups. -/
theorem past_eq_ok_iff_isViable :
    (∃ conditionals, past steps = .ok conditionals) ↔
      IsViable (steps.map BranchStep.kind) := by
  constructor
  · rintro ⟨conditionals, accepted⟩
    exact (LeavesOpen.of_past accepted).isViable
  · intro viable
    obtain ⟨flags, accepted⟩ := viable.exists_flags
    rw [← map_flags_past] at accepted
    cases reached : past steps with
    | error fault =>
        rw [reached] at accepted
        cases accepted
    | ok conditionals =>
        exact ⟨conditionals, rfl⟩

/-- The first directive to be refused is the first one that no continuation can follow. -/
theorem refuses_iff {before : List BranchStep} {step : BranchStep} :
    (∃ conditionals fault,
        past before = .ok conditionals ∧ conditionals.step step = .error fault) ↔
      IsViable (before.map BranchStep.kind) ∧
        ¬IsViable ((before ++ [step]).map BranchStep.kind) := by
  rw [← past_eq_ok_iff_isViable, ← past_eq_ok_iff_isViable, past_concat]
  cases past before with
  | error fault =>
      simp
  | ok conditionals =>
      change _ ↔ _ ∧ ¬∃ next, conditionals.step step = .ok next
      cases single : conditionals.step step <;> simp [single]

/-- Accepted directives leave nothing open if they are whole groups. -/
theorem unterminated?_eq_none_iff
    {conditionals : Conditionals}
    (accepted : past steps = .ok conditionals) :
    conditionals.unterminated? = none ↔ IsGroups (steps.map BranchStep.kind) := by
  constructor
  · intro closed
    have noGroup : conditionals.groups = [] := by
      simpa [unterminated?] using closed
    have leaves := LeavesOpen.of_past accepted
    rw [noGroup] at leaves
    cases leaves with
    | outside groups =>
        exact groups
  · intro groups
    have flags := map_flags_past steps
    rw [accepted, flagsPast, groups.foldlM_flagsAfter] at flags
    have noFlag : conditionals.flags = [] := Except.ok.inj flags
    simpa [unterminated?, Conditionals.flags] using noFlag

/-- The line that is reported for open groups is the one that opened the innermost group. -/
theorem unterminated?_of_open
    {conditionals : Conditionals}
    (accepted : past steps = .ok conditionals)
    (unclosed : ¬IsGroups (steps.map BranchStep.kind)) :
    ∃ before condition line inside seenElse,
      steps = before ++ .enter condition line :: inside ∧
        IsBranches seenElse (inside.map BranchStep.kind) ∧
          conditionals.unterminated? = some line := by
  have leaves := LeavesOpen.of_past accepted
  obtain ⟨groups⟩ := conditionals
  cases groups with
  | nil =>
      cases leaves with
      | outside groups =>
          exact absurd groups unclosed
  | cons group outer =>
      cases leaves with
      | inside before branches =>
          exact ⟨_, _, _, _, _, rfl, branches, rfl⟩

end Conditionals

/--
Directives are accepted and leave nothing open just where they are whole groups. The
first one that is refused is the first one that no continuation to whole groups can
follow. If none is refused and a group is left open, the reported line is that of the
opening directive behind which there are only branches of its group. Faults and open
groups depend on nothing but the kinds of the directives.
-/
theorem groups_follow_grammar (steps : List BranchStep) :
    ((∃ conditionals,
        Conditionals.past steps = .ok conditionals ∧ conditionals.unterminated? = none) ↔
      IsGroups (steps.map BranchStep.kind)) ∧
      (∀ before step after,
        steps = before ++ step :: after →
          ((∃ conditionals fault,
              Conditionals.past before = .ok conditionals ∧
                conditionals.step step = .error fault) ↔
            IsViable (before.map BranchStep.kind) ∧
              ¬IsViable ((before ++ [step]).map BranchStep.kind))) ∧
      (∀ fault,
        Conditionals.past steps = .error fault ↔
          ∃ before step after conditionals,
            steps = before ++ step :: after ∧ Conditionals.past before = .ok conditionals ∧
              conditionals.step step = .error fault) ∧
      (∀ conditionals,
        Conditionals.past steps = .ok conditionals →
          ¬IsGroups (steps.map BranchStep.kind) →
            ∃ before condition line inside seenElse,
              steps = before ++ .enter condition line :: inside ∧
                IsBranches seenElse (inside.map BranchStep.kind) ∧
                  conditionals.unterminated? = some line) ∧
      ∀ others,
        others.map BranchStep.kind = steps.map BranchStep.kind →
          (Conditionals.past others).map Conditionals.flags =
            (Conditionals.past steps).map Conditionals.flags := by
  refine ⟨?_, fun before step after split => Conditionals.refuses_iff,
    fun fault => Conditionals.past_eq_error_iff,
    fun conditionals accepted unclosed =>
      Conditionals.unterminated?_of_open accepted unclosed,
    fun others sameKinds => ?_⟩
  · constructor
    · rintro ⟨conditionals, accepted, closed⟩
      exact (Conditionals.unterminated?_eq_none_iff accepted).mp closed
    · intro groups
      obtain ⟨conditionals, accepted⟩ :=
        Conditionals.past_eq_ok_iff_isViable.mpr ⟨[], by rwa [List.append_nil]⟩
      exact ⟨conditionals, accepted,
        (Conditionals.unterminated?_eq_none_iff accepted).mpr groups⟩
  · rw [Conditionals.map_flags_past, Conditionals.map_flags_past, sameKinds]

/-- An `#elif` behind the `#else` of a group inside another one. -/
theorem groups_follow_grammar_second_branch :
    let before : List BranchStep := [.enter none 1, .enter (some false) 2, .otherwise]
    let steps := before ++ [.elif (some true)]
    Conditionals.past steps = .error .elifAfterElse ∧
      IsViable (before.map BranchStep.kind) ∧
        ¬IsViable (steps.map BranchStep.kind) ∧
          ¬IsGroups (before.map BranchStep.kind) ∧
            (Conditionals.past before).map Conditionals.unterminated? = .ok (some 2) := by
  intro before steps
  obtain ⟨-, first, refused, -⟩ := groups_follow_grammar steps
  obtain ⟨whole, -⟩ := groups_follow_grammar before
  have fails : Conditionals.past steps = .error .elifAfterElse := rfl
  have leaves : (Conditionals.past before).map Conditionals.unterminated? = .ok (some 2) := rfl
  obtain ⟨viable, hopeless⟩ :=
    (first before (.elif (some true)) [] rfl).mp ⟨_, .elifAfterElse, rfl, rfl⟩
  refine ⟨fails, viable, hopeless, fun groups => ?_, leaves⟩
  obtain ⟨conditionals, accepted, closed⟩ := whole.mpr groups
  rw [accepted] at leaves
  cases closed.symm.trans (Except.ok.inj leaves)

end ShaderBuild
