import Mathlib.Control.Monad.Basic
import ShaderBuild.Proofs.Expansion.LineProblem
import ShaderBuild.Proofs.Expansion.Splicing
import ShaderBuild.Proofs.Knowledge

namespace ShaderBuild

/-!
# Liveness against concrete runs

A concrete run walks the lines of one source as a preprocessor does that knows every
condition. It takes one branch of each group and holds an exact macro table; a
condition that the evaluator leaves open is decided by an oracle. The main statement
says that the liveness an expansion works with is right about all concrete runs:
live lines are active in each of them, and skipped lines are active in none.

The two walks are compared by `Simulates`, which each line keeps.
-/

/-- A group of a concrete run. -/
structure ConcreteGroup where
  /-- Whether the current branch is the one taken. -/
  active : Bool
  /-- Whether the current branch or one before it is the one taken. -/
  taken : Bool

/-- Where a concrete run stands in a source. -/
structure ConcreteRun where
  /-- Position of the line, from 1. -/
  position : Nat
  /-- Whether the line starts inside a block comment. -/
  inComment : Bool
  /-- The open groups, innermost first. -/
  groups : List ConcreteGroup
  macros : MacroTable

namespace ConcreteRun

/-- The top of a source. -/
def top (macros : MacroTable) : ConcreteRun :=
  ⟨1, false, [], macros⟩

/-- A line is active if every group around it is in the branch it takes. -/
def isActive (run : ConcreteRun) : Bool :=
  run.groups.all (·.active)

/-- The directive on a line; a line that continues a comment has none. -/
def directive? (run : ConcreteRun) (line : List Char) : Option Directive :=
  if run.inComment then
    none
  else
    Directive.parse? (Comment.strip false line)

/-- The truth of a condition on the line: the oracle decides what the evaluator does not. -/
def truth (oracle : Nat → Bool) (run : ConcreteRun) (answer : Option Bool) : Bool :=
  answer.getD (oracle run.position)

/-- Open a group; its first branch is taken if its condition is true. -/
def enter (run : ConcreteRun) (condition : Bool) : List ConcreteGroup :=
  ⟨condition, condition⟩ :: run.groups

/-- Go on to a branch, which is taken if its condition is the first that is true. -/
def proceed (run : ConcreteRun) (condition : Bool) : List ConcreteGroup :=
  match run.groups with
  | [] => []
  | group :: outer =>
      ⟨!group.taken && condition, group.taken || condition⟩ :: outer

/-- The groups after a directive. -/
def groupsAfter (oracle : Nat → Bool) (run : ConcreteRun) : Directive → List ConcreteGroup
  | .ifCondition condition => run.enter (run.truth oracle (run.macros.evaluate condition))
  | .ifDefined body => run.enter (run.truth oracle (run.macros.isDefined body))
  | .ifNotDefined body =>
      run.enter (run.truth oracle ((run.macros.isDefined body).map (!·)))
  | .elifCondition condition =>
      run.proceed (run.truth oracle (run.macros.evaluate condition))
  | .otherwise => run.proceed true
  | .endIf => run.groups.tail
  | _ => run.groups

/-- The macros after a directive: only active lines define and undefine. -/
def macrosAfter (run : ConcreteRun) : Directive → MacroTable
  | .define body => if run.isActive then run.macros.define body .live else run.macros
  | .undef body => if run.isActive then run.macros.undefine body .live else run.macros
  | _ => run.macros

/-- Walk past a line. -/
def step (oracle : Nat → Bool) (run : ConcreteRun) (line : List Char) : ConcreteRun :=
  let inComment := Comment.isOpenAfter run.inComment line
  match run.directive? line with
  | none => ⟨run.position + 1, inComment, run.groups, run.macros⟩
  | some directive =>
      ⟨run.position + 1, inComment, run.groupsAfter oracle directive,
        run.macrosAfter directive⟩

/-- Walk from the top of a source past some lines. -/
def past
    (oracle : Nat → Bool)
    (defines : List (String × String))
    (lines : List (List Char)) :
    ConcreteRun :=
  lines.foldl (step oracle) (.top (.ofDefines defines))

end ConcreteRun

/-! ### Exact tables -/

/-- No name is held as unknown. -/
def MacroTable.IsExact (table : MacroTable) : Prop :=
  ∀ name, table.lookup name ≠ some .unknown

namespace MacroTable.IsExact

variable {table : MacroTable}

theorem set
    (exact : table.IsExact)
    (name : String)
    {state : Option Macro}
    (isKnown : state ≠ some .unknown) :
    (table.set name state).IsExact := by
  intro other
  by_cases same : other = name
  · subst other
    simpa using isKnown
  · rw [lookup_set_of_ne _ _ same]
    exact exact other

/-- Definitions given from outside are object-like macros. -/
theorem ofDefines (defines : List (String × String)) :
    (MacroTable.ofDefines defines).IsExact := by
  unfold MacroTable.ofDefines
  suffices
      ∀ table : MacroTable, table.IsExact →
        (defines.foldl
          (fun table define => table.set define.1 (some (.object define.2.toList)))
          table).IsExact from
    this .empty (fun name => by simp [MacroTable.empty])
  induction defines with
  | nil =>
      exact fun table exact => exact
  | cons define others inductionHypothesis =>
      exact fun table exact =>
        inductionHypothesis _ (exact.set define.1 (by simp))

theorem define (exact : table.IsExact) (body : List Char) :
    (table.define body .live).IsExact := by
  unfold MacroTable.define
  split
  · exact exact
  · apply exact.set
    unfold MacroTable.definition
    split <;> simp

theorem undefine (exact : table.IsExact) (body : List Char) :
    (table.undefine body .live).IsExact :=
  exact.set _ (by simp)

end MacroTable.IsExact

namespace ConcreteRun

/-- A concrete run keeps its table exact. -/
theorem isExact_step
    {run : ConcreteRun}
    (oracle : Nat → Bool)
    (exact : run.macros.IsExact)
    (line : List Char) :
    (run.step oracle line).macros.IsExact := by
  unfold step
  cases run.directive? line with
  | none =>
      exact exact
  | some directive =>
      cases directive with
      | define body =>
          simp only [macrosAfter]
          split
          · exact exact.define body
          · exact exact
      | undef body =>
          simp only [macrosAfter]
          split
          · exact exact.undefine body
          · exact exact
      | _ =>
          exact exact

theorem isExact_past
    (oracle : Nat → Bool)
    (defines : List (String × String))
    (lines : List (List Char)) :
    (past oracle defines lines).macros.IsExact := by
  unfold past
  suffices
      ∀ run : ConcreteRun, run.macros.IsExact →
        (lines.foldl (step oracle) run).macros.IsExact from
    this _ (.ofDefines defines)
  induction lines with
  | nil =>
      exact fun run exact => exact
  | cons line others inductionHypothesis =>
      exact fun run exact =>
        inductionHypothesis _ (isExact_step oracle exact line)

end ConcreteRun

/-! ### Simulation -/

namespace Liveness

/-- The liveness of a region that is active or not. -/
abbrev ofActive (active : Bool) : Liveness :=
  ofCondition (some active)

theorem and_ofActive (first second : Bool) :
    (ofActive first).and (ofActive second) = ofActive (first && second) := by
  cases first <;> cases second <;> rfl

theorem or_ofActive (first second : Bool) :
    (ofActive first).or (ofActive second) = ofActive (first || second) := by
  cases first <;> cases second <;> rfl

theorem nextBranch_ofActive (taken condition : Bool) :
    Conditionals.nextBranch (ofActive taken) (some condition) =
      ofActive (!taken && condition) := by
  cases taken <;> cases condition <;> rfl

end Liveness

/-- The groups of a visit are right about the groups of a concrete run. -/
inductive GroupsSimulate : List ConditionalGroup → List ConcreteGroup → Prop where
  | nil : GroupsSimulate [] []
  | cons
      {group : ConditionalGroup} {concrete : ConcreteGroup}
      {outer : List ConditionalGroup} {outerConcrete : List ConcreteGroup}
      (enclosing :
        group.enclosing.Coarser (.ofActive (outerConcrete.all (·.active))))
      (branch : group.branch.Coarser (.ofActive concrete.active))
      (taken : group.taken.Coarser (.ofActive concrete.taken))
      (outside : GroupsSimulate outer outerConcrete) :
      GroupsSimulate (group :: outer) (concrete :: outerConcrete)

/-- What a visit knows at a line is right about a concrete run that stands there. -/
structure Simulates (context : LineContext) (run : ConcreteRun) : Prop where
  position : run.position = context.position
  inComment : run.inComment = context.inComment
  groups : GroupsSimulate context.conditionals.groups run.groups
  macros : context.macros.Coarser run.macros

namespace Simulates

variable {context : LineContext} {run : ConcreteRun}

/-- The liveness of a line is right about whether the run is active there. -/
theorem liveness (simulates : Simulates context run) :
    context.conditionals.liveness.Coarser (.ofActive run.isActive) := by
  have groups := simulates.groups
  unfold Conditionals.liveness ConcreteRun.isActive
  generalize context.conditionals.groups = known at groups
  generalize run.groups = concrete at groups
  cases groups with
  | nil =>
      exact .refl _
  | cons enclosing branch taken outside =>
      rw [List.all_cons, Bool.and_comm, ← Liveness.and_ofActive]
      exact enclosing.and branch

theorem isActive_of_live
    (simulates : Simulates context run)
    (live : context.conditionals.liveness = .live) :
    run.isActive = true := by
  have active := simulates.liveness.live live
  cases isActive : run.isActive with
  | true =>
      rfl
  | false =>
      simp [isActive, Liveness.ofCondition] at active

theorem isActive_of_dead
    (simulates : Simulates context run)
    (dead : context.conditionals.liveness = .dead) :
    run.isActive = false := by
  have inactive := simulates.liveness.dead dead
  cases isActive : run.isActive with
  | true =>
      simp [isActive, Liveness.ofCondition] at inactive
  | false =>
      rfl

/-- A condition that the visit evaluates has that value in the run. -/
theorem truth
    (oracle : Nat → Bool)
    {answer exact : Option Bool}
    (coarser : CoarserAnswer answer exact) :
    CoarserAnswer answer (some (run.truth oracle exact)) := by
  intro value isAnswer
  simp [ConcreteRun.truth, coarser value isAnswer]

theorem enter
    (simulates : Simulates context run)
    {answer : Option Bool}
    {condition : Bool}
    (coarser : CoarserAnswer answer (some condition))
    (line : Nat) :
    GroupsSimulate (context.conditionals.enter answer line).groups
      (run.enter condition) :=
  .cons simulates.liveness
    (Liveness.ofCondition_coarser coarser)
    (Liveness.ofCondition_coarser coarser)
    simulates.groups

/-- The next branch of a group is begun on both sides. -/
theorem proceed
    (simulates : Simulates context run)
    {group : ConditionalGroup}
    {outer : List ConditionalGroup}
    (isOpen : context.conditionals.groups = group :: outer)
    {answer : Option Bool}
    {condition : Bool}
    (coarser : CoarserAnswer answer (some condition))
    {taken : Liveness}
    (takenCoarser :
      ∀ before : Bool, group.taken.Coarser (.ofActive before) →
        taken.Coarser (.ofActive (before || condition)))
    (seenElse : Bool) :
    GroupsSimulate
      ({ group with
          branch := Conditionals.nextBranch group.taken answer
          taken := taken
          seenElse := seenElse } :: outer)
      (run.proceed condition) := by
  have groups := simulates.groups
  rw [isOpen] at groups
  unfold ConcreteRun.proceed
  generalize run.groups = concrete at groups
  cases groups with
  | cons enclosing branch before outside =>
      refine .cons enclosing ?_ (takenCoarser _ before) outside
      rw [← Liveness.nextBranch_ofActive]
      exact Conditionals.nextBranch_coarser before coarser

theorem elif
    (simulates : Simulates context run)
    {answer : Option Bool}
    {condition : Bool}
    (coarser : CoarserAnswer answer (some condition))
    {conditionals : Conditionals}
    (accepted : context.conditionals.elif answer = .ok conditionals) :
    GroupsSimulate conditionals.groups (run.proceed condition) := by
  unfold Conditionals.elif at accepted
  cases isOpen : context.conditionals.groups with
  | nil =>
      simp [isOpen] at accepted
  | cons group outer =>
      simp only [isOpen] at accepted
      split at accepted
      · cases accepted
      · cases accepted
        refine simulates.proceed isOpen coarser (fun before known => ?_) group.seenElse
        have branch := Conditionals.nextBranch_coarser known coarser
        rw [Liveness.nextBranch_ofActive] at branch
        have taken := known.or branch
        rw [Liveness.or_ofActive] at taken
        cases before <;> simpa using taken

theorem otherwise
    (simulates : Simulates context run)
    {conditionals : Conditionals}
    (accepted : context.conditionals.otherwise = .ok conditionals) :
    GroupsSimulate conditionals.groups (run.proceed true) := by
  unfold Conditionals.otherwise at accepted
  cases isOpen : context.conditionals.groups with
  | nil =>
      simp [isOpen] at accepted
  | cons group outer =>
      simp only [isOpen] at accepted
      split at accepted
      · cases accepted
      · cases accepted
        refine simulates.proceed isOpen (.refl _) (fun before known => ?_) true
        rw [Bool.or_true]
        exact .refl _

theorem close
    (simulates : Simulates context run)
    {conditionals : Conditionals}
    (accepted : context.conditionals.close = .ok conditionals) :
    GroupsSimulate conditionals.groups run.groups.tail := by
  have groups := simulates.groups
  unfold Conditionals.close at accepted
  generalize context.conditionals.groups = known at groups accepted
  generalize run.groups = concrete at groups
  cases groups with
  | nil =>
      cases accepted
  | cons enclosing branch taken outside =>
      cases accepted
      exact outside

theorem groupsAfter
    (simulates : Simulates context run)
    (oracle : Nat → Bool)
    {directive : Directive}
    {conditionals : Conditionals}
    (accepted : context.conditionalsAfter directive = .ok conditionals) :
    GroupsSimulate conditionals.groups (run.groupsAfter oracle directive) := by
  have macros := simulates.macros
  cases directive with
  | ifCondition condition =>
      cases accepted
      exact simulates.enter (truth oracle (macros.evaluate condition)) _
  | ifDefined body =>
      cases accepted
      exact simulates.enter (truth oracle (macros.isNameDefined _)) _
  | ifNotDefined body =>
      cases accepted
      exact simulates.enter (truth oracle ((macros.isNameDefined _).map (!·))) _
  | elifCondition condition =>
      exact simulates.elif (truth oracle (macros.evaluate condition)) accepted
  | otherwise =>
      exact simulates.otherwise accepted
  | endIf =>
      exact simulates.close accepted
  | _ =>
      cases accepted
      exact simulates.groups

/-- A macro directive takes effect in a concrete run as in a region that is live or skipped. -/
theorem macrosAfter
    (simulates : Simulates context run)
    (directive : Directive) :
    (context.macrosAfter directive).Coarser (run.macrosAfter directive) := by
  cases directive with
  | define body =>
      have defined := simulates.macros.define simulates.liveness body
      simp only [LineContext.macrosAfter, ConcreteRun.macrosAfter]
      cases active : run.isActive with
      | true =>
          simpa [active, Liveness.ofCondition] using defined
      | false =>
          simpa [active, Liveness.ofCondition, MacroTable.define_dead] using defined
  | undef body =>
      have undefined := simulates.macros.undefine simulates.liveness body
      simp only [LineContext.macrosAfter, ConcreteRun.macrosAfter]
      cases active : run.isActive with
      | true =>
          simpa [active, Liveness.ofCondition] using undefined
      | false =>
          simpa [active, Liveness.ofCondition, MacroTable.undefine] using undefined
  | _ =>
      exact simulates.macros

/-- A kept line keeps the simulation. -/
theorem step
    {next : LineContext}
    {line : List Char}
    (simulates : Simulates context run)
    (oracle : Nat → Bool)
    (keeps : context.advance? line = some next) :
    Simulates next (run.step oracle line) := by
  obtain ⟨-, conditionals, accepted, rfl⟩ :=
    LineContext.advance?_eq_some_iff.mp keeps
  have sameDirective : run.directive? line = context.directive? line := by
    unfold ConcreteRun.directive? LineContext.directive?
    rw [simulates.inComment]
  have comment :
      Comment.isOpenAfter run.inComment line = context.commentAfter line := by
    rw [simulates.inComment]
    rfl
  have position := simulates.position
  unfold ConcreteRun.step
  rw [sameDirective]
  unfold LineContext.groupsAfter at accepted
  unfold LineContext.tableAfter
  cases found : context.directive? line with
  | none =>
      simp only [found, Except.ok.injEq] at accepted
      subst conditionals
      exact ⟨congrArg (· + 1) position, comment, simulates.groups, simulates.macros⟩
  | some directive =>
      simp only [found] at accepted
      exact ⟨congrArg (· + 1) position, comment,
        simulates.groupsAfter oracle accepted, simulates.macrosAfter directive⟩

end Simulates

namespace Visit

variable {visit : Visit} {context : LineContext} {lines : List (List Char)}

/-- A visit that splices no file simulates every concrete run at each line it comes to. -/
theorem simulates_of_entry
    (oracle : Nat → Bool)
    {run : ConcreteRun}
    (simulates : Simulates context run)
    (unspliced :
      ∀ entry ∈ visit.entries context lines, entry.1.includes? entry.2 = none)
    {n : Nat}
    {entry : LineContext × List Char}
    (found : (visit.entries context lines)[n]? = some entry) :
    Simulates entry.1 ((lines.take n).foldl (.step oracle) run) := by
  induction lines generalizing context run n with
  | nil =>
      simp [entries] at found
  | cons line others inductionHypothesis =>
      cases n with
      | zero =>
          rw [entries] at found
          cases found
          exact simulates
      | succ n =>
          rcases entries_succ found with
            ⟨next, keeps, foundBelow⟩ | ⟨kind, target, macros, includes, -⟩
          · rw [entries_of_advance? keeps] at unspliced
            exact inductionHypothesis (simulates.step oracle keeps)
              (fun entry member => unspliced entry (List.mem_cons_of_mem _ member))
              foundBelow
          · have single : context.includes? line = none :=
              unspliced (context, line) (by rw [entries]; exact List.mem_cons_self)
            rw [includes] at single
            cases single

/-- Where a visit that splices no file stops at an `#error`, the directive is live. -/
theorem entry_of_errorDirective
    (unspliced :
      ∀ entry ∈ visit.entries context lines, entry.1.includes? entry.2 = none)
    {origin : Origin}
    {text : List Char}
    (fails :
      (visit.run context lines).result = .error ⟨origin, .errorDirective text⟩) :
    ∃ (n : Nat) (stopped : LineContext) (line : List Char),
      (visit.entries context lines)[n]? = some (stopped, line) ∧
        stopped.directive? line = some (.error text) ∧
          stopped.conditionals.liveness = .live ∧
            origin = stopped.origin visit.source := by
  induction lines generalizing context with
  | nil =>
      rw [run, finish] at fails
      split at fails
      · cases fails
      · split at fails <;> cases fails
  | cons line others inductionHypothesis =>
      rcases context.advances_or_includes_or_stops line with
        ⟨next, keeps⟩ | ⟨kind, target, includes⟩ | ⟨problem, stops⟩
      · rw [run_of_advance? keeps] at fails
        rw [entries_of_advance? keeps] at unspliced ⊢
        obtain ⟨n, found⟩ :=
          inductionHypothesis
            (fun entry member => unspliced entry (List.mem_cons_of_mem _ member)) fails
        exact ⟨n + 1, found⟩
      · have single : context.includes? line = none :=
          unspliced (context, line) (by rw [entries]; exact List.mem_cons_self)
        rw [includes] at single
        cases single
      · rw [run_of_stop stops] at fails
        cases fails
        cases LineContext.action_eq_stop_iff.mp stops with
        | errorDirective holds live =>
            exact ⟨0, context, line, by rw [entries]; rfl, holds, live, rfl⟩

end Visit

/--
The liveness at each line of a source that splices no file is right about every
concrete run: live lines are active, and skipped lines, with the includes among
them, are not. An `#error` that ends the expansion is active in every run.
-/
theorem liveness_sound
    {settings : ExpansionSettings}
    {root : String}
    {content : List Char}
    (unspliced :
      ∀ entry ∈ settings.entries root content, entry.1.includes? entry.2 = none) :
    (∀ (oracle : Nat → Bool) (n : Nat) (context : LineContext) (line : List Char),
      (settings.entries root content)[n]? = some (context, line) →
        let run :=
          ConcreteRun.past oracle settings.defines ((Text.lines content).take n)
        run.macros.IsExact ∧
          (context.conditionals.liveness = .live → run.isActive = true) ∧
            (context.conditionals.liveness = .dead → run.isActive = false) ∧
              ∀ kind target,
                context.directive? line = some (.includeFile kind target) →
                  run.isActive = false) ∧
      (∀ (origin : Origin) (text : List Char),
        (settings.expand root content).result = .error ⟨origin, .errorDirective text⟩ →
          ∃ (n : Nat) (context : LineContext) (line : List Char),
            (settings.entries root content)[n]? = some (context, line) ∧
              context.directive? line = some (.error text) ∧
                origin = context.origin root ∧
                  ∀ oracle : Nat → Bool,
                    (ConcreteRun.past oracle settings.defines
                      ((Text.lines content).take n)).isActive = true) ∧
        (settings.entries root content).map (·.2) <+: Text.lines content ∧
          ∀ unit : ExpandedUnit,
            ExpandedUnit.expand settings root content = .ok unit →
              (settings.entries root content).map (·.2) = Text.lines content := by
  have simulates :
      ∀ (oracle : Nat → Bool) (n : Nat) (context : LineContext) (line : List Char),
        (settings.entries root content)[n]? = some (context, line) →
          Simulates context
            (ConcreteRun.past oracle settings.defines ((Text.lines content).take n)) := by
    intro oracle n context line found
    exact Visit.simulates_of_entry oracle ⟨rfl, rfl, .nil, .refl _⟩ unspliced found
  refine ⟨?_, ?_, Visit.entries_isPrefix _ _, ?_⟩
  · intro oracle n context line found
    have skipped : context.conditionals.liveness = .dead →
        (ConcreteRun.past oracle settings.defines
          ((Text.lines content).take n)).isActive = false :=
      (simulates oracle n context line found).isActive_of_dead
    refine ⟨ConcreteRun.isExact_past _ _ _,
      (simulates oracle n context line found).isActive_of_live, skipped, ?_⟩
    intro kind target holds
    apply skipped
    have single := unspliced (context, line) (List.mem_of_getElem? found)
    simpa [LineContext.includes?, holds, Liveness.isDead] using single
  · intro origin text fails
    obtain ⟨n, context, line, found, holds, live, isOrigin⟩ :=
      Visit.entry_of_errorDirective unspliced fails
    exact ⟨n, context, line, found, holds, isOrigin,
      fun oracle => (simulates oracle n context line found).isActive_of_live live⟩
  · intro unit succeeds
    obtain ⟨visited, last, records⟩ := ExpansionSettings.exists_records succeeds
    rw [records.entries_eq]
    exact records.passes.entries_lines

/-- An include that every run skips, next to a name that only some runs define. -/
theorem liveness_sound_skipped_include :
    let settings : ExpansionSettings := ⟨none, 4, [("B", "1")]⟩
    let content :=
      "#if __VERSION__\n#define A\n#endif\n#if B\n#elif A\n#include <c>\n#endif\n#error d".toList
    let entries := settings.entries "main" content
    (∀ entry ∈ entries, entry.1.includes? entry.2 = none) ∧
      (settings.expand "main" content).result =
          .error ⟨⟨"main", 8⟩, .errorDirective "d".toList⟩ ∧
        (∀ oracle : Nat → Bool,
          (ConcreteRun.past oracle settings.defines
            ((Text.lines content).take 5)).isActive = false) ∧
          ∃ (n : Nat) (context : LineContext) (line : List Char),
            entries[n]? = some (context, line) ∧
              context.directive? line = some (.error "d".toList) ∧
                ⟨"main", 8⟩ = context.origin "main" ∧
                  ∀ oracle : Nat → Bool,
                    (ConcreteRun.past oracle settings.defines
                      ((Text.lines content).take n)).isActive = true := by
  intro settings content entries
  have unspliced : ∀ entry ∈ entries, entry.1.includes? entry.2 = none := by
    decide +kernel
  have isError :
      (settings.expand "main" content).result.map (fun _ => ()) =
        .error ⟨⟨"main", 8⟩, .errorDirective "d".toList⟩ := by
    decide +kernel
  have fails :
      (settings.expand "main" content).result =
        .error ⟨⟨"main", 8⟩, .errorDirective "d".toList⟩ := by
    cases result : (settings.expand "main" content).result with
    | error failure =>
        simpa [result, Except.map] using isError
    | ok macros =>
        simp [result, Except.map] at isError
  obtain ⟨sound, aborts, -⟩ := liveness_sound unspliced
  refine ⟨unspliced, fails, fun oracle => ?_, aborts _ _ fails⟩
  have isSixth :
      entries[5]?.map (·.2) = some "#include <c>".toList ∧
        entries[5]?.map (·.1.conditionals.liveness) = some .dead := by
    decide +kernel
  obtain ⟨entry, found⟩ := Option.map_eq_some_iff.mp isSixth.2
  exact (sound oracle 5 entry.1 entry.2 found.1).2.2.1 found.2

end ShaderBuild
