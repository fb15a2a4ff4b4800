import ShaderBuild.Proofs.Balance
import ShaderBuild.Proofs.Expansion.Segments

namespace ShaderBuild

/-!
# Problems of single lines, and groups that are left open

A visit stops at a line for one of three reasons that have nothing to do with the
resolver: the line is a malformed include, an `#error`, or a conditional directive
that does not fit the groups of its own source. Groups that are never closed are a
problem at the end of a source; each is known by the position of the directive that
opened it.
-/

namespace Directive

/-- Why a directive does not fit the groups whose flags are given, if it does not. -/
def misfit? (flags : List Bool) : Directive → Option ConditionalFault
  | .elifCondition _ =>
      match flags with
      | [] => some .elifWithoutIf
      | true :: _ => some .elifAfterElse
      | false :: _ => none
  | .otherwise =>
      match flags with
      | [] => some .elseWithoutIf
      | true :: _ => some .elseAfterElse
      | false :: _ => none
  | .endIf =>
      match flags with
      | [] => some .endifWithoutIf
      | _ :: _ => none
  | _ => none

/-- A directive that opens a group. -/
def isOpening : Directive → Bool
  | .ifCondition _ | .ifDefined _ | .ifNotDefined _ => true
  | _ => false

/-- The positions of the open groups after a directive, innermost first. -/
def openAfter (position : Nat) (opened : List Nat) : Directive → List Nat
  | .ifCondition _ | .ifDefined _ | .ifNotDefined _ => position :: opened
  | .endIf => opened.tail
  | _ => opened

/--
The positions of the directives whose groups are open after some lines, innermost
first. The first line has the given position, and `opened` are open before it.
-/
def openPositions
    (inComment : Bool) (position : Nat) (opened : List Nat) :
    List (List Char) → List Nat
  | [] => opened
  | line :: others =>
      let opened :=
        match if inComment then none else parse? (Comment.strip false line) with
        | some directive => directive.openAfter position opened
        | none => opened
      openPositions (Comment.isOpenAfter inComment line) (position + 1) opened others

/-- A group that is open after a directive was open before, or the directive opens it. -/
theorem mem_openAfter
    {directive : Directive}
    {position n : Nat}
    {opened : List Nat}
    (member : n ∈ directive.openAfter position opened) :
    n ∈ opened ∨ (n = position ∧ directive.isOpening = true) := by
  cases directive with
  | ifCondition condition | ifDefined body | ifNotDefined body =>
      rcases List.mem_cons.mp member with isHere | wasOpen
      · exact .inr ⟨isHere, rfl⟩
      · exact .inl wasOpen
  | endIf =>
      exact .inl (List.mem_of_mem_tail member)
  | _ =>
      exact .inl member

/-- A group that is open at last was open before, or is opened by a directive on a line. -/
theorem mem_openPositions
    {inComment : Bool}
    {position n : Nat}
    {opened : List Nat}
    {lines : List (List Char)}
    (member : n ∈ openPositions inComment position opened lines) :
    n ∈ opened ∨
      ∃ k line directive,
        n = position + k ∧ lines[k]? = some line ∧
          Comment.isOpenAfterAll inComment (lines.take k) = false ∧
            parse? (Comment.strip false line) = some directive ∧
              directive.isOpening = true := by
  induction lines generalizing inComment position opened with
  | nil =>
      exact .inl member
  | cons line others inductionHypothesis =>
      rw [openPositions] at member
      rcases inductionHypothesis member with
        wasOpen | ⟨k, later, directive, rfl, found, outside, parses, opens⟩
      · cases inComment with
        | true =>
            exact .inl wasOpen
        | false =>
            cases parses : parse? (Comment.strip false line) with
            | none =>
                simp only [Bool.false_eq_true, if_false, parses] at wasOpen
                exact .inl wasOpen
            | some directive =>
                simp only [Bool.false_eq_true, if_false, parses] at wasOpen
                rcases mem_openAfter wasOpen with earlier | ⟨rfl, opens⟩
                · exact .inl earlier
                · exact .inr ⟨0, line, directive, rfl, rfl, rfl, parses, opens⟩
      · right
        exact ⟨k + 1, later, directive, by omega, found, outside, parses, opens⟩

end Directive

namespace LineContext

variable {context : LineContext} {line : List Char}

/-- Directives that do not fit the open groups are refused, and no others. -/
theorem conditionalsAfter_eq_error_iff
    {directive : Directive}
    {fault : ConditionalFault} :
    context.conditionalsAfter directive = .error fault ↔
      directive.misfit? context.conditionals.flags = some fault := by
  unfold Directive.misfit? Conditionals.flags conditionalsAfter
  cases directive with
  | elifCondition condition =>
      cases isOpen : context.conditionals.groups with
      | nil =>
          simp [Conditionals.elif, isOpen]
      | cons group outer =>
          cases seen : group.seenElse <;> simp [Conditionals.elif, isOpen, seen]
  | otherwise =>
      cases isOpen : context.conditionals.groups with
      | nil =>
          simp [Conditionals.otherwise, isOpen]
      | cons group outer =>
          cases seen : group.seenElse <;> simp [Conditionals.otherwise, isOpen, seen]
  | endIf =>
      cases isOpen : context.conditionals.groups <;> simp [Conditionals.close, isOpen]
  | _ =>
      simp

/-- The line is a problem in itself, whatever the resolver answers. -/
inductive HasProblem (context : LineContext) (line : List Char) : ExpansionProblem → Prop where
  | malformedInclude
      {fault : IncludeLineFault}
      (holds : context.directive? line = some (.malformedInclude fault))
      (notDead : context.conditionals.liveness ≠ .dead) :
      HasProblem context line (.includeFailed (.malformed fault))
  | errorDirective
      {text : List Char}
      (holds : context.directive? line = some (.error text))
      (live : context.conditionals.liveness = .live) :
      HasProblem context line (.errorDirective text)
  | misplaced
      {directive : Directive}
      {fault : ConditionalFault}
      (holds : context.directive? line = some directive)
      (misfits : directive.misfit? context.conditionals.flags = some fault) :
      HasProblem context line (.misplaced fault)

/-- A visit stops at the lines that are problems in themselves, and at no others. -/
theorem action_eq_stop_iff
    {opensComment : Bool}
    {problem : ExpansionProblem} :
    context.action line opensComment = .stop problem ↔ context.HasProblem line problem := by
  constructor
  · intro stops
    unfold action at stops
    cases holds : context.directive? line with
    | none =>
        simp [holds] at stops
    | some directive =>
        simp only [holds] at stops
        cases directive with
        | includeFile kind target =>
            simp only at stops
            split at stops <;> cases stops
        | malformedInclude fault =>
            simp only at stops
            split at stops
            · cases stops
            · rename_i notDead
              cases stops
              exact .malformedInclude holds (by simpa [Liveness.isDead] using notDead)
        | includeExtension =>
            cases stops
        | error text =>
            simp only at stops
            split at stops
            · rename_i live
              cases stops
              exact .errorDirective holds live
            · cases stops
        | _ =>
            simp only at stops
            split at stops
            · cases stops
            · rename_i refused
              cases stops
              exact .misplaced holds (conditionalsAfter_eq_error_iff.mp refused)
  · rintro (⟨holds, notDead⟩ | ⟨holds, live⟩ | @⟨directive, fault, holds, misfits⟩)
    · simp [action, holds, Liveness.isDead, notDead]
    · simp [action, holds, live]
    · have refused := conditionalsAfter_eq_error_iff.mpr misfits
      unfold action
      cases directive with
      | elifCondition condition | otherwise | endIf =>
          simp only [holds, refused]
      | _ =>
          cases misfits

/-- Open groups are numbered by the lines of the directives that opened them. -/
theorem map_line_conditionalsAfter
    {opened : List Nat}
    {directive : Directive}
    {conditionals : Conditionals}
    (numbered : context.conditionals.groups.map (·.line) = opened.map lineNumber)
    (accepted : context.conditionalsAfter directive = .ok conditionals) :
    conditionals.groups.map (·.line) =
      (directive.openAfter context.position opened).map lineNumber := by
  cases directive with
  | ifCondition condition | ifDefined body | ifNotDefined body =>
      cases accepted
      exact congrArg (lineNumber context.position :: ·) numbered
  | elifCondition condition =>
      change context.conditionals.elif _ = _ at accepted
      unfold Conditionals.elif at accepted
      split at accepted
      · cases accepted
      · rename_i group outer isOpen
        split at accepted
        · cases accepted
        · cases accepted
          rwa [isOpen] at numbered
  | otherwise =>
      change context.conditionals.otherwise = _ at accepted
      unfold Conditionals.otherwise at accepted
      split at accepted
      · cases accepted
      · rename_i group outer isOpen
        split at accepted
        · cases accepted
        · cases accepted
          rwa [isOpen] at numbered
  | endIf =>
      change context.conditionals.close = _ at accepted
      unfold Conditionals.close at accepted
      split at accepted
      · cases accepted
      · rename_i group outer isOpen
        cases accepted
        rw [isOpen] at numbered
        rw [Directive.openAfter, List.map_tail, ← numbered]
        rfl
  | _ =>
      cases accepted
      exact numbered

end LineContext

namespace Passes

variable
  {resolver : Option Resolver} {source : String} {depth : Nat}
  {context last : LineContext} {lines : List (List Char)} {visited : VisitedLines}

theorem position_last
    (passes : Passes resolver source depth context lines visited last) :
    last.position = context.position + lines.length := by
  induction passes with
  | done =>
      rfl
  | kept single keeps rest inductionHypothesis =>
      rw [inductionHypothesis, LineContext.position_of_advance? keeps, List.length_cons]
      omega
  | spliced includes answers nested ends rest insideHypothesis restHypothesis =>
      rw [restHypothesis, LineContext.position_resume, List.length_cons]
      omega

/-- The groups that a visit has open are those that directives of its source opened. -/
theorem map_line_groups
    {opened : List Nat}
    (passes : Passes resolver source depth context lines visited last)
    (numbered : context.conditionals.groups.map (·.line) = opened.map lineNumber) :
    last.conditionals.groups.map (·.line) =
      (Directive.openPositions context.inComment context.position opened lines).map
        lineNumber := by
  induction passes generalizing opened with
  | done =>
      exact numbered
  | @kept source depth context next last line others visited single keeps rest
      inductionHypothesis =>
      obtain ⟨-, conditionals, accepted, rfl⟩ :=
        LineContext.advance?_eq_some_iff.mp keeps
      refine inductionHypothesis ?_
      change _ = List.map lineNumber
        (match context.directive? line with
        | some directive => directive.openAfter context.position opened
        | none => opened)
      unfold LineContext.groupsAfter at accepted
      cases holds : context.directive? line with
      | none =>
          rw [holds] at accepted
          cases accepted
          exact numbered
      | some directive =>
          rw [holds] at accepted
          exact LineContext.map_line_conditionalsAfter numbered accepted
  | @spliced source depth context bottom last line others kind target included inside
      visited includes answers nested ends rest insideHypothesis restHypothesis =>
      obtain ⟨holds, -⟩ := LineContext.directive?_of_includes? includes
      refine restHypothesis ?_
      unfold LineContext.directive? at holds
      simp only [holds]
      exact numbered

end Passes

end ShaderBuild
