import ShaderBuild.Proofs.Condition.Replacement
import ShaderBuild.Proofs.Condition.Spacing

namespace ShaderBuild

/-!
# Macro tables with the same tokens

Of a macro's replacement text a condition reads its tokens and nothing else. Tables
whose texts have the same tokens answer every condition alike, and recording the same
definition in both keeps them so.
-/

/-- Two macros that conditions cannot tell apart. -/
inductive Macro.SameTokens : Macro → Macro → Prop where
  | object
      {text text' : List Char}
      (tokens : Condition.tokenize? text = Condition.tokenize? text') :
      SameTokens (.object text) (.object text')
  | function : SameTokens .function .function
  | unknown : SameTokens .unknown .unknown

theorem Macro.SameTokens.refl (state : Macro) : state.SameTokens state := by
  cases state with
  | object text =>
      exact .object rfl
  | function =>
      exact .function
  | unknown =>
      exact .unknown

namespace MacroTable

/-- Two tables that define the same names, with the same tokens. -/
def SameTokens (table table' : MacroTable) : Prop :=
  ∀ name, Option.Rel Macro.SameTokens (table.lookup name) (table'.lookup name)

/-- An empty replacement text has no value. -/
theorem valueOf_nil (table : MacroTable) (levels : Nat) : table.valueOf levels [] = none := by
  cases levels <;> rfl

/-- A name has the value of its replacement text, empty or not. -/
theorem value_environment
    (table : MacroTable)
    (levels : Nat)
    (name : String) :
    (table.environment levels).value name =
      match table.lookup name with
      | some (.object text) => table.valueOf levels text
      | some _ => none
      | none => if isPredefined name then none else some 0 := by
  simp only [environment]
  cases table.lookup name with
  | none =>
      rfl
  | some state =>
      cases state with
      | object text =>
          cases text with
          | nil =>
              exact (table.valueOf_nil levels).symm
          | cons c others =>
              rfl
      | function | unknown =>
          rfl

namespace SameTokens

variable {table table' : MacroTable}

theorem refl (table : MacroTable) : table.SameTokens table := by
  intro name
  cases table.lookup name with
  | none =>
      exact .none
  | some state =>
      exact .some (.refl state)

theorem set
    (alike : table.SameTokens table')
    {state state' : Option Macro}
    (sameState : Option.Rel Macro.SameTokens state state')
    (name : String) :
    (table.set name state).SameTokens (table'.set name state') := by
  intro other
  by_cases same : other = name
  · subst other
    rw [lookup_set_self, lookup_set_self]
    exact sameState
  · rw [lookup_set_of_ne _ _ same, lookup_set_of_ne _ _ same]
    exact alike other

theorem define
    (alike : table.SameTokens table')
    (body : List Char)
    (liveness : Liveness) :
    (table.define body liveness).SameTokens (table'.define body liveness) := by
  unfold MacroTable.define
  split
  · exact alike
  · cases liveness with
    | dead =>
        exact alike
    | live | unknown =>
        exact alike.set (.some (.refl _)) _

theorem undefine
    (alike : table.SameTokens table')
    (body : List Char)
    (liveness : Liveness) :
    (table.undefine body liveness).SameTokens (table'.undefine body liveness) := by
  unfold MacroTable.undefine
  cases liveness with
  | dead =>
      exact alike
  | live =>
      exact alike.set .none _
  | unknown =>
      exact alike.set (.some .unknown) _

theorem isNameDefined_eq (alike : table.SameTokens table') (name : String) :
    table.isNameDefined name = table'.isNameDefined name := by
  have states := alike name
  unfold isNameDefined
  generalize table.lookup name = state at states ⊢
  generalize table'.lookup name = state' at states ⊢
  cases states with
  | none =>
      rfl
  | some same =>
      cases same <;> rfl

theorem valueOf_eq
    (alike : table.SameTokens table')
    {text text' : List Char}
    (tokens : Condition.tokenize? text = Condition.tokenize? text')
    (levels : Nat) :
    table.valueOf levels text = table'.valueOf levels text' := by
  -- Names in a text are looked up one level deeper, so their values are alike already.
  induction levels generalizing text text' with
  | zero =>
      rfl
  | succ levels inductionHypothesis =>
      have environments : table.environment levels = table'.environment levels := by
        rw [Condition.Environment.mk.injEq]
        refine ⟨funext fun name => ?_, funext alike.isNameDefined_eq⟩
        have states := alike name
        rw [value_environment, value_environment]
        generalize table.lookup name = state at states ⊢
        generalize table'.lookup name = state' at states ⊢
        cases states with
        | none =>
            rfl
        | some same =>
            cases same with
            | object tokens =>
                exact inductionHypothesis tokens
            | function | unknown =>
                rfl
      rw [valueOf_succ, valueOf_succ, environments, Condition.Expr.ofText?, tokens,
        Condition.Expr.ofText?]

theorem evaluate_eq (alike : table.SameTokens table') (condition : List Char) :
    table.evaluate condition = table'.evaluate condition := by
  unfold evaluate
  rw [alike.valueOf_eq rfl]

end SameTokens

end MacroTable

end ShaderBuild
