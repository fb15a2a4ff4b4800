import ShaderBuild.Conditionals
import ShaderBuild.MacroTable

namespace ShaderBuild

/-!
# Knowing less

Conditions, regions and macros may be unknown. One state of knowledge is coarser
than another if everything that it knows is known to the other one too, and is the
same there. The operations that evaluate conditions, nest regions and record macros
keep this relation: a visit that knows less never comes to know something else.
Macro tables that conditions cannot tell apart have one `MacroTable.view`.
-/

/-- Every answer on the coarse side is the answer on the fine side. -/
def CoarserAnswer {α : Type} (coarse fine : Option α) : Prop :=
  ∀ value, coarse = some value → fine = some value

namespace CoarserAnswer

variable {α β : Type} {coarse fine : Option α}

theorem refl (answer : Option α) : CoarserAnswer answer answer :=
  fun _ isAnswer => isAnswer

theorem none (answer : Option α) : CoarserAnswer Option.none answer :=
  fun _ isAnswer => nomatch isAnswer

/-- A coarse answer is no answer or the fine one. -/
theorem eq_none_or_eq (coarser : CoarserAnswer coarse fine) :
    coarse = Option.none ∨ coarse = fine := by
  cases coarse with
  | none =>
      exact .inl rfl
  | some value =>
      exact .inr (coarser value rfl).symm

theorem map (coarser : CoarserAnswer coarse fine) (compute : α → β) :
    CoarserAnswer (coarse.map compute) (fine.map compute) := by
  rcases coarser.eq_none_or_eq with rfl | rfl
  · exact none _
  · exact refl _

end CoarserAnswer

/-! ### Conditions -/

namespace Condition

/-- An operation that its right operand decides alone does not depend on the left one. -/
theorem BinaryOp.combine_of_right
    {op : BinaryOp}
    {right value : Int64}
    (decided : op.combine none (some right) = some value)
    (left : Option Int64) :
    op.combine left (some right) = some value := by
  cases left with
  | none =>
      exact decided
  | some left =>
      cases op <;> simp only [combine, reduceCtorEq] at decided
      all_goals
        split at decided <;> simp_all [combine, apply, truth]

/-- An operation that its left operand decides alone does not depend on the right one. -/
theorem BinaryOp.combine_of_left
    {op : BinaryOp}
    {left value : Int64}
    (decided : op.combine (some left) none = some value)
    (right : Option Int64) :
    op.combine (some left) right = some value := by
  cases right with
  | none =>
      exact decided
  | some right =>
      cases op <;> simp only [combine, reduceCtorEq] at decided
      all_goals
        split at decided <;> simp_all [combine, apply, truth]

/-- An operation that is decided on coarse operands is decided on fine ones alike. -/
theorem BinaryOp.combine_coarser
    (op : BinaryOp)
    {left left' right right' : Option Int64}
    (leftCoarser : CoarserAnswer left left')
    (rightCoarser : CoarserAnswer right right') :
    CoarserAnswer (op.combine left right) (op.combine left' right') := by
  intro value decided
  rcases leftCoarser.eq_none_or_eq with rfl | rfl <;>
    rcases rightCoarser.eq_none_or_eq with rfl | rfl
  · cases decided
  · cases right with
    | none =>
        cases decided
    | some right =>
        exact combine_of_right decided left'
  · cases left with
    | none =>
        cases decided
    | some left =>
        exact combine_of_left decided right'
  · exact decided

/-- What is known about the names of an expression. -/
structure Environment.Coarser (coarse fine : Environment) : Prop where
  value : ∀ name, CoarserAnswer (coarse.value name) (fine.value name)
  defined : ∀ name, CoarserAnswer (coarse.defined name) (fine.defined name)

/-- An expression that has a value keeps it when more is known about its names. -/
theorem Expr.value_coarser
    {coarse fine : Environment}
    (coarser : coarse.Coarser fine)
    (expr : Expr) :
    CoarserAnswer (expr.value coarse) (expr.value fine) := by
  induction expr with
  | number value =>
      exact .refl _
  | identifier name =>
      exact coarser.value name
  | defined name =>
      exact (coarser.defined name).map truth
  | unary op operand operandHypothesis =>
      exact operandHypothesis.map op.apply
  | binary op left right leftHypothesis rightHypothesis =>
      exact op.combine_coarser leftHypothesis rightHypothesis

end Condition

/-! ### Regions -/

namespace Liveness

/-- A coarse liveness is unknown or the fine one. -/
def Coarser (coarse fine : Liveness) : Prop :=
  coarse = .unknown ∨ coarse = fine

namespace Coarser

variable {coarse fine coarse' fine' : Liveness}

theorem refl (liveness : Liveness) : liveness.Coarser liveness :=
  .inr rfl

theorem unknown (liveness : Liveness) : Liveness.unknown.Coarser liveness :=
  .inl rfl

theorem live (coarser : coarse.Coarser fine) (isLive : coarse = .live) : fine = .live := by
  rcases coarser with rfl | rfl
  · cases isLive
  · exact isLive

theorem dead (coarser : coarse.Coarser fine) (isDead : coarse = .dead) : fine = .dead := by
  rcases coarser with rfl | rfl
  · cases isDead
  · exact isDead

theorem and (first : coarse.Coarser fine) (second : coarse'.Coarser fine') :
    (coarse.and coarse').Coarser (fine.and fine') := by
  rcases first with rfl | rfl <;> rcases second with rfl | rfl
  · exact unknown _
  · cases coarse' <;> cases fine <;> simp [Coarser, Liveness.and]
  · cases coarse <;> cases fine' <;> simp [Coarser, Liveness.and]
  · exact refl _

theorem or (first : coarse.Coarser fine) (second : coarse'.Coarser fine') :
    (coarse.or coarse').Coarser (fine.or fine') := by
  rcases first with rfl | rfl <;> rcases second with rfl | rfl
  · exact unknown _
  · cases coarse' <;> cases fine <;> simp [Coarser, Liveness.or]
  · cases coarse <;> cases fine' <;> simp [Coarser, Liveness.or]
  · exact refl _

end Coarser

/-- A region that is not known to be skipped may be live. -/
theorem coarser_live {liveness : Liveness} (notDead : liveness ≠ .dead) :
    liveness.Coarser .live := by
  cases liveness with
  | dead =>
      exact absurd rfl notDead
  | live =>
      exact .refl _
  | unknown =>
      exact .unknown _

/-- A branch is as well known as its condition. -/
theorem ofCondition_coarser
    {coarse fine : Option Bool}
    (coarser : CoarserAnswer coarse fine) :
    (ofCondition coarse).Coarser (ofCondition fine) := by
  rcases coarser.eq_none_or_eq with rfl | rfl
  · exact .unknown _
  · exact .refl _

end Liveness

/-- The next branch of a group is as well known as the branches before it and its condition. -/
theorem Conditionals.nextBranch_coarser
    {taken taken' : Liveness}
    {condition condition' : Option Bool}
    (takenCoarser : taken.Coarser taken')
    (conditionCoarser : CoarserAnswer condition condition') :
    (nextBranch taken condition).Coarser (nextBranch taken' condition') := by
  rcases takenCoarser with rfl | rfl
  · simp only [nextBranch]
    split
    · rename_i isFalse
      rw [conditionCoarser false isFalse]
      cases taken' <;> exact .refl _
    · exact .unknown _
  · rcases conditionCoarser.eq_none_or_eq with rfl | rfl
    · cases taken with
      | live =>
          exact .refl _
      | dead =>
          exact .unknown _
      | unknown =>
          exact .unknown _
    · exact .refl _

/-! ### Macros -/

namespace MacroTable

theorem define_dead (table : MacroTable) (body : List Char) :
    table.define body .dead = table := by
  unfold define
  split <;> rfl

/-- A coarse table knows nothing about a name or what the fine one knows. -/
def Coarser (coarse fine : MacroTable) : Prop :=
  ∀ name, coarse.lookup name = some .unknown ∨ coarse.lookup name = fine.lookup name

namespace Coarser

variable {coarse fine : MacroTable}

theorem refl (table : MacroTable) : table.Coarser table :=
  fun _ => .inr rfl

theorem set (coarser : coarse.Coarser fine) (name : String) (state : Option Macro) :
    (coarse.set name state).Coarser (fine.set name state) := by
  intro other
  by_cases same : other = name
  · subst other
    simp
  · simp [lookup_set_of_ne, same, coarser other]

/-- Forgetting about a name, whatever the fine table says about it. -/
theorem forget
    {fine' : MacroTable}
    (coarser : coarse.Coarser fine)
    {name : String}
    (others : ∀ other, other ≠ name → fine'.lookup other = fine.lookup other) :
    (coarse.set name (some .unknown)).Coarser fine' := by
  intro other
  by_cases same : other = name
  · subst other
    simp
  · rw [others other same]
    simp [lookup_set_of_ne, same, coarser other]

theorem define
    {liveness liveness' : Liveness}
    (coarser : coarse.Coarser fine)
    (region : liveness.Coarser liveness')
    (body : List Char) :
    (coarse.define body liveness).Coarser (fine.define body liveness') := by
  unfold MacroTable.define
  split
  · exact coarser
  · rename_i name rest nonempty split
    rcases region with rfl | rfl
    · apply coarser.forget
      intro other different
      cases liveness' with
      | dead =>
          rfl
      | live | unknown =>
          exact lookup_set_of_ne _ _ different
    · cases liveness with
      | dead =>
          exact coarser
      | live | unknown =>
          exact coarser.set _ _

theorem undefine
    {liveness liveness' : Liveness}
    (coarser : coarse.Coarser fine)
    (region : liveness.Coarser liveness')
    (body : List Char) :
    (coarse.undefine body liveness).Coarser (fine.undefine body liveness') := by
  unfold MacroTable.undefine
  rcases region with rfl | rfl
  · apply coarser.forget
    intro other different
    cases liveness' with
    | dead =>
        rfl
    | live | unknown =>
        exact lookup_set_of_ne _ _ different
  · cases liveness with
    | dead =>
        exact coarser
    | live | unknown =>
        exact coarser.set _ _

theorem isNameDefined (coarser : coarse.Coarser fine) (name : String) :
    CoarserAnswer (coarse.isNameDefined name) (fine.isNameDefined name) := by
  unfold MacroTable.isNameDefined
  rcases coarser name with isUnknown | same
  · simp only [isUnknown]
    exact .none _
  · rw [same]
    exact .refl _

/-- The value of an expression's text, however deep replacement texts are nested. -/
theorem valueOf (coarser : coarse.Coarser fine) (levels : Nat) (text : List Char) :
    CoarserAnswer (coarse.valueOf levels text) (fine.valueOf levels text) := by
  induction levels generalizing text with
  | zero =>
      exact .none _
  | succ levels inductionHypothesis =>
      unfold MacroTable.valueOf
      cases Condition.Expr.ofText? text with
      | none =>
          exact .none _
      | some expr =>
          apply Condition.Expr.value_coarser
          refine ⟨fun name => ?_, coarser.isNameDefined⟩
          rcases coarser name with isUnknown | same
          · simp only [isUnknown]
            exact .none _
          · simp only [same]
            split
            · exact .none _
            · exact inductionHypothesis _
            · exact .none _
            · exact .refl _

theorem evaluate (coarser : coarse.Coarser fine) (condition : List Char) :
    CoarserAnswer (coarse.evaluate condition) (fine.evaluate condition) :=
  (coarser.valueOf _ condition).map _

end Coarser

/--
What a table answers is answered alike by every table that differs from it only at
names the first one knows nothing about, whatever the second one makes of them.
-/
theorem answers_kept_where_unknown
    {table other : MacroTable}
    (agree :
      ∀ name, table.lookup name ≠ some .unknown → other.lookup name = table.lookup name) :
    (∀ text holds, table.evaluate text = some holds → other.evaluate text = some holds) ∧
      (∀ text holds, table.isDefined text = some holds → other.isDefined text = some holds) ∧
        ∀ levels text value,
          table.valueOf levels text = some value → other.valueOf levels text = some value := by
  have coarser : table.Coarser other := by
    intro name
    by_cases isUnknown : table.lookup name = some .unknown
    · exact .inl isUnknown
    · exact .inr (agree name isUnknown).symm
  refine ⟨?_, ?_, ?_⟩
  · intro text holds answered
    exact coarser.evaluate text holds answered
  · intro text holds answered
    exact coarser.isNameDefined (firstIdentifier text) holds answered
  · intro levels text value answered
    exact coarser.valueOf levels text value answered

/--
A name that is unknown comes to stand for the macro that mentions it, so that their
replacement is only cut off by the nesting limit; another macro replaces itself.
-/
theorem answers_kept_where_unknown_cyclic :
    let table :=
      ((empty.set "A" (some (.object "U || 1".toList))).set
        "S" (some (.object "S + 1".toList))).set "U" (some .unknown)
    let other := table.set "U" (some (.object "A".toList))
    (∀ name, table.lookup name ≠ some .unknown → other.lookup name = table.lookup name) ∧
      other.evaluate "A && !(0 && S)".toList = some true ∧
        other.isDefined " S(".toList = some true ∧
          table.isDefined "U".toList = none ∧
            other.valueOf 2 "A * 4".toList = some 4 := by
  intro table other
  have agree :
      ∀ name, table.lookup name ≠ some .unknown → other.lookup name = table.lookup name := by
    intro name known
    by_cases isUnknown : name = "U"
    · subst isUnknown
      exact absurd (lookup_set_self _ _ _) known
    · exact lookup_set_of_ne _ _ isUnknown
  obtain ⟨conditions, names, values⟩ := answers_kept_where_unknown agree
  exact ⟨agree, conditions _ _ (by decide +kernel), names _ _ (by decide +kernel),
    by decide +kernel, values _ _ _ (by decide +kernel)⟩

/-! ### Tables that answer alike -/

/--
What conditions see of a name. A name that no line defined is unknown if the
compiler may define it.
-/
def view (table : MacroTable) (name : String) : Option Macro :=
  match table.lookup name with
  | none => if isPredefined name then some .unknown else none
  | some state => some state

/-- What conditions see of a name depends on nothing but what the table says about it. -/
theorem view_set (table : MacroTable) (name : String) (state : Option Macro) :
    (table.set name state).view =
      fun other =>
        if other = name then
          match state with
          | none => if isPredefined name then some .unknown else none
          | some state => some state
        else
          table.view other := by
  funext other
  unfold view
  by_cases same : other = name
  · subst other
    simp only [lookup_set_self, if_true]
  · rw [lookup_set_of_ne _ _ same, if_neg same]

/-- Whether a name is defined is read off what conditions see of it. -/
theorem isNameDefined_eq_view (table : MacroTable) (name : String) :
    table.isNameDefined name =
      match table.view name with
      | some .unknown => none
      | some _ => some true
      | none => some false := by
  unfold isNameDefined view
  cases table.lookup name with
  | none =>
      cases isPredefined name <;> rfl
  | some state =>
      cases state <;> rfl

/-- So is the value of a name, given the values of replacement texts. -/
theorem value_eq_view
    (table : MacroTable) (name : String) (textValue : List Char → Option Int64) :
    (match table.lookup name with
      | some (.object []) => none
      | some (.object text) => textValue text
      | some _ => none
      | none => if isPredefined name then none else some 0) =
      match table.view name with
      | some (.object []) => none
      | some (.object text) => textValue text
      | some _ => none
      | none => some 0 := by
  unfold view
  cases table.lookup name with
  | none =>
      cases isPredefined name <;> rfl
  | some state =>
      cases state with
      | object text =>
          cases text <;> rfl
      | function | unknown =>
          rfl

section

variable {table table' : MacroTable} (alike : table.view = table'.view)

include alike

theorem view_set_congr (name : String) (state : Option Macro) :
    (table.set name state).view = (table'.set name state).view := by
  rw [view_set, view_set, alike]

theorem view_define_congr (body : List Char) (liveness : Liveness) :
    (table.define body liveness).view = (table'.define body liveness).view := by
  unfold define
  split
  · exact alike
  · cases liveness with
    | dead =>
        exact alike
    | live | unknown =>
        exact view_set_congr alike _ _

theorem view_undefine_congr (body : List Char) (liveness : Liveness) :
    (table.undefine body liveness).view = (table'.undefine body liveness).view := by
  unfold undefine
  cases liveness with
  | dead =>
      exact alike
  | live | unknown =>
      exact view_set_congr alike _ _

theorem isNameDefined_congr (name : String) :
    table.isNameDefined name = table'.isNameDefined name := by
  rw [isNameDefined_eq_view, isNameDefined_eq_view, alike]

theorem valueOf_congr (levels : Nat) (text : List Char) :
    table.valueOf levels text = table'.valueOf levels text := by
  induction levels generalizing text with
  | zero =>
      rfl
  | succ levels inductionHypothesis =>
      unfold valueOf
      congr 1
      funext expr
      congr 1
      rw [Condition.Environment.mk.injEq]
      refine ⟨funext fun name => ?_, funext (isNameDefined_congr alike)⟩
      have sameTexts : table.valueOf levels = table'.valueOf levels :=
        funext inductionHypothesis
      have seen := value_eq_view table name (table.valueOf levels)
      rw [alike, sameTexts] at seen
      rw [sameTexts]
      exact seen.trans (value_eq_view table' name (table'.valueOf levels)).symm

theorem evaluate_congr (condition : List Char) :
    table.evaluate condition = table'.evaluate condition := by
  unfold evaluate
  rw [valueOf_congr alike]

end

/-- Conditions see nothing of the end of a definition that the compiler may make again. -/
theorem view_undefine_of_isPredefined
    {body : List Char}
    (predefined : isPredefined (firstIdentifier body) = true)
    (table : MacroTable) :
    (table.undefine body .unknown).view = (table.undefine body .live).view := by
  unfold undefine
  rw [view_set, view_set]
  simp only [predefined, if_true]

end MacroTable

end ShaderBuild
