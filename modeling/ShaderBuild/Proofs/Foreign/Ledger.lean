import ShaderBuild.Foreign.Arena

namespace ShaderBuild.Foreign

/-!
# Ledgers of handles

Whoever may hold a handle is a holder. A ledger says who holds what: no handle has two
holders, every held one is live, and one that nobody holds has been released exactly
once. Allocating, handing over and releasing keep a ledger.
-/

namespace Arena

variable {α ι : Type} {arena : Arena α} {holds holds' : ι → Handle}

/-- What the holders hold accounts for everything that has been allocated. -/
structure Ledger (arena : Arena α) (holds : ι → Handle) : Prop where
  /-- A handle has one holder at most. -/
  exclusive :
    ∀ {i j : ι} {number : Nat}, holds i = some number → holds j = some number → i = j
  /-- A held handle names its allocation. -/
  live : ∀ {i : ι}, holds i ≠ none → arena.get? (holds i) ≠ none
  /-- A handle that nobody holds has been released, and not twice. -/
  once :
    ∀ {number : Nat}, number < arena.cells.length → (∀ i, holds i ≠ some number) →
      arena.released.count number = 1
  /-- A released handle was allocated and names nothing. -/
  gone :
    ∀ {number : Nat}, number ∈ arena.released →
      number < arena.cells.length ∧ arena.get? (some number) = none

theorem lt_length_of_get? {number : Nat} (live : arena.get? (some number) ≠ none) :
    number < arena.cells.length := by
  apply Nat.lt_of_not_le
  intro beyond
  rw [get?, Option.bind_some, List.getElem?_eq_none beyond] at live
  exact live rfl

namespace Ledger

variable (ledger : arena.Ledger holds)

include ledger

theorem lt_length {i : ι} {number : Nat} (isHeld : holds i = some number) :
    number < arena.cells.length := by
  have live := ledger.live (i := i) (isHeld ▸ Option.some_ne_none number)
  rw [isHeld] at live
  exact lt_length_of_get? live

theorem notMem_released {i : ι} {number : Nat} (isHeld : holds i = some number) :
    number ∉ arena.released := by
  intro isReleased
  have live := ledger.live (i := i) (isHeld ▸ Option.some_ne_none number)
  rw [isHeld] at live
  exact live (ledger.gone isReleased).2

/-- An allocation leaves what is held as it is. -/
theorem get?_allocate (value : α) (i : ι) :
    (arena.allocate value).1.get? (holds i) = arena.get? (holds i) := by
  cases isHeld : holds i with
  | none =>
      rfl
  | some number =>
      apply get?_allocate_of_ne
      have isOld := ledger.lt_length isHeld
      intro isNew
      cases isNew
      exact Nat.lt_irrefl _ isOld

/-- A release leaves what others hold as it is. -/
theorem get?_release {i j : ι} (different : j ≠ i) :
    (arena.release (holds i)).get? (holds j) = arena.get? (holds j) := by
  cases isHeld : holds j with
  | none =>
      rfl
  | some number =>
      apply get?_release_of_ne
      intro same
      exact different (ledger.exclusive isHeld same.symm)

/-- A new handle goes to somebody who holds none. -/
theorem allocate
    {i : ι}
    (free : holds i = none)
    (value : α)
    (filled : holds' i = (arena.allocate value).2)
    (others : ∀ j, j ≠ i → holds' j = holds j) :
    (arena.allocate value).1.Ledger holds' := by
  have isNew : holds' i = some arena.cells.length := filled
  have length : (arena.allocate value).1.cells.length = arena.cells.length + 1 := by
    simp [Arena.allocate]
  have oldHolder {j : ι} {number : Nat} (isHeld : holds' j = some number) :
      j = i ∧ number = arena.cells.length ∨ j ≠ i ∧ holds j = some number := by
    by_cases same : j = i
    · subst j
      rw [isNew] at isHeld
      exact .inl ⟨rfl, (Option.some.inj isHeld).symm⟩
    · exact .inr ⟨same, others j same ▸ isHeld⟩
  constructor
  · intro j k number firstHolds secondHolds
    rcases oldHolder firstHolds with ⟨rfl, isLast⟩ | ⟨notFirst, firstHeld⟩ <;>
      rcases oldHolder secondHolds with ⟨rfl, isLast'⟩ | ⟨notSecond, secondHeld⟩
    · rfl
    · have isOld := ledger.lt_length secondHeld
      omega
    · have isOld := ledger.lt_length firstHeld
      omega
    · exact ledger.exclusive firstHeld secondHeld
  · intro j isHeld
    by_cases same : j = i
    · subst j
      rw [filled, get?_allocate_self]
      exact Option.some_ne_none value
    · rw [others j same] at isHeld ⊢
      rw [ledger.get?_allocate value j]
      exact ledger.live isHeld
  · intro number isAllocated unheld
    have notNew : number ≠ arena.cells.length := by
      rintro rfl
      exact unheld i isNew
    refine ledger.once (by omega) fun j isHeld => ?_
    by_cases same : j = i
    · subst j
      rw [free] at isHeld
      cases isHeld
    · exact unheld j ((others j same).trans isHeld)
  · intro number isReleased
    obtain ⟨isAllocated, isGone⟩ := ledger.gone isReleased
    refine ⟨by omega, ?_⟩
    rw [get?_allocate_of_ne, isGone]
    intro same
    cases same
    exact Nat.lt_irrefl _ isAllocated

/-- A holder's handle is released, and the holder holds none. -/
theorem release
    {i : ι}
    (emptied : holds' i = none)
    (others : ∀ j, j ≠ i → holds' j = holds j) :
    (arena.release (holds i)).Ledger holds' := by
  have ne_of_isHeld {j : ι} {number : Nat} (isHeld : holds' j = some number) : j ≠ i := by
    rintro rfl
    rw [emptied] at isHeld
    cases isHeld
  have length : (arena.release (holds i)).cells.length = arena.cells.length := by
    cases holds i <;> simp [Arena.release]
  constructor
  · intro j k number firstHolds secondHolds
    rw [others j (ne_of_isHeld firstHolds)] at firstHolds
    rw [others k (ne_of_isHeld secondHolds)] at secondHolds
    exact ledger.exclusive firstHolds secondHolds
  · intro j isHeld
    obtain ⟨number, isNumber⟩ := Option.ne_none_iff_exists'.mp isHeld
    have different := ne_of_isHeld isNumber
    rw [others j different] at isHeld ⊢
    rw [ledger.get?_release different]
    exact ledger.live isHeld
  · intro number isAllocated unheld
    rw [length] at isAllocated
    have unheldByOthers : ∀ j, j ≠ i → holds j ≠ some number :=
      fun j different isHeld => unheld j ((others j different).trans isHeld)
    cases isHeld : holds i with
    | none =>
        refine ledger.once isAllocated fun j => ?_
        by_cases same : j = i
        · subst j
          rw [isHeld]
          exact (Option.some_ne_none number).symm
        · exact unheldByOthers j same
    | some released =>
        change (arena.released ++ [released]).count number = 1
        rw [List.count_append, List.count_singleton]
        -- The handle released now is the one in question, or it makes no difference to it.
        by_cases same : released = number
        · subst released
          rw [List.count_eq_zero.mpr (ledger.notMem_released isHeld), beq_self_eq_true]
          rfl
        · rw [beq_false_of_ne same]
          refine ledger.once isAllocated fun j => ?_
          by_cases isSame : j = i
          · subst j
            rw [isHeld]
            exact fun isNumber => same (Option.some.inj isNumber)
          · exact unheldByOthers j isSame
  · intro number isReleased
    rw [length]
    cases isHeld : holds i with
    | none =>
        rw [isHeld] at isReleased
        exact ledger.gone isReleased
    | some released =>
        rw [isHeld] at isReleased
        by_cases same : number = released
        · subst number
          exact ⟨ledger.lt_length isHeld, get?_release_self arena (some released)⟩
        · have before : number ∈ arena.released := by
            rcases List.mem_append.mp isReleased with before | isLast
            · exact before
            · exact absurd (List.mem_singleton.mp isLast) same
          obtain ⟨isAllocated, isGone⟩ := ledger.gone before
          refine ⟨isAllocated, ?_⟩
          rw [get?_release_of_ne _ fun isSame => same (Option.some.inj isSame), isGone]

/-- A handle goes from one holder to another one, who held none. -/
theorem move
    {i j : ι}
    (free : holds j = none)
    (emptied : holds' i = none)
    (filled : holds' j = holds i)
    (others : ∀ k, k ≠ i → k ≠ j → holds' k = holds k) :
    arena.Ledger holds' := by
  have source {k : ι} {number : Nat} (isHeld : holds' k = some number) :
      k = j ∧ holds i = some number ∨ k ≠ i ∧ k ≠ j ∧ holds k = some number := by
    by_cases isSource : k = i
    · subst k
      rw [emptied] at isHeld
      cases isHeld
    · by_cases isTarget : k = j
      · subst k
        exact .inl ⟨rfl, filled ▸ isHeld⟩
      · exact .inr ⟨isSource, isTarget, others k isSource isTarget ▸ isHeld⟩
  constructor
  · intro k l number firstHolds secondHolds
    rcases source firstHolds with ⟨rfl, isMoved⟩ | ⟨notSource, -, isKept⟩ <;>
      rcases source secondHolds with ⟨rfl, isMoved'⟩ | ⟨notSource', -, isKept'⟩
    · rfl
    · exact absurd (ledger.exclusive isKept' isMoved) notSource'
    · exact absurd (ledger.exclusive isKept isMoved') notSource
    · exact ledger.exclusive isKept isKept'
  · intro k isHeld
    obtain ⟨number, isNumber⟩ := Option.ne_none_iff_exists'.mp isHeld
    rw [isNumber]
    rcases source isNumber with ⟨rfl, isMoved⟩ | ⟨-, -, isKept⟩
    · rw [← isMoved]
      exact ledger.live (isMoved ▸ Option.some_ne_none number)
    · rw [← isKept]
      exact ledger.live (isKept ▸ Option.some_ne_none number)
  · intro number isAllocated unheld
    refine ledger.once isAllocated fun k isHeld => ?_
    by_cases isSource : k = i
    · subst k
      exact unheld j (filled.trans isHeld)
    · by_cases isTarget : k = j
      · subst k
        rw [free] at isHeld
        cases isHeld
      · exact unheld k ((others k isSource isTarget).trans isHeld)
  · exact ledger.gone

/-- A handle takes the place of another one, which is released. -/
theorem replace
    {i j : ι}
    (different : j ≠ i)
    (emptied : holds' i = none)
    (filled : holds' j = holds i)
    (others : ∀ k, k ≠ i → k ≠ j → holds' k = holds k) :
    (arena.release (holds j)).Ledger holds' := by
  classical
  -- The old handle is released first, and then its place is free for the new one.
  let between : ι → Handle := fun k => if k = j then none else holds k
  have released : (arena.release (holds j)).Ledger between :=
    ledger.release (if_pos rfl) fun k notReleased => if_neg notReleased
  refine released.move (i := i) (j := j) (if_pos rfl) emptied ?_ fun k notSource notTarget => ?_
  · rw [filled]
    exact (if_neg different.symm).symm
  · rw [others k notSource notTarget]
    exact (if_neg notTarget).symm

end Ledger

end Arena

end ShaderBuild.Foreign
