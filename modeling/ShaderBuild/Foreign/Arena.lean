namespace ShaderBuild.Foreign

/-!
# Handles

An arena holds allocations of one kind, and a handle is the number of an allocation
or null. A handle names its allocation until it is released, and numbers are never
given out twice. The arena remembers every release, so that a handle released twice
occurs twice among the releases.
-/

/-- The number of an allocation; none is the null handle. -/
abbrev Handle := Option Nat

/-- Allocations of one kind. -/
structure Arena (α : Type) where
  /-- What each handle given out so far names, in order; nothing once it is released. -/
  cells : List (Option α)
  /-- The handles released so far, in order. -/
  released : List Nat

namespace Arena

/-- Nothing is allocated. -/
def empty : Arena α := ⟨[], []⟩

/-- What a handle names; the null handle and a released one name nothing. -/
def get? (arena : Arena α) (handle : Handle) : Option α :=
  handle.bind fun number => (arena.cells[number]?).join

/-- Allocate a value; the result holds its handle. -/
def allocate (arena : Arena α) (value : α) : Arena α × Handle :=
  (⟨arena.cells ++ [some value], arena.released⟩, some arena.cells.length)

/-- Release a handle; nothing happens to the null handle. -/
def release (arena : Arena α) : Handle → Arena α
  | none => arena
  | some number => ⟨arena.cells.set number none, arena.released ++ [number]⟩

@[simp] theorem get?_none (arena : Arena α) : arena.get? none = none := rfl

@[simp] theorem get?_allocate_self (arena : Arena α) (value : α) :
    (arena.allocate value).1.get? (arena.allocate value).2 = some value := by
  simp [allocate, get?]

/-- An allocation leaves every other handle as it was. -/
theorem get?_allocate_of_ne (arena : Arena α) (value : α) {handle : Handle}
    (different : handle ≠ (arena.allocate value).2) :
    (arena.allocate value).1.get? handle = arena.get? handle := by
  cases handle with
  | none => rfl
  | some number =>
      have : number ≠ arena.cells.length := by
        intro same
        exact different (by simp [allocate, same])
      simp only [allocate, get?, Option.bind_some]
      rw [List.getElem?_append]
      split
      · rfl
      · have beyond : arena.cells.length < number := by omega
        rw [List.getElem?_eq_none (by simp; omega), List.getElem?_eq_none (by omega)]

@[simp] theorem get?_release_self (arena : Arena α) (handle : Handle) :
    (arena.release handle).get? handle = none := by
  cases handle with
  | none => rfl
  | some number =>
      simp only [release, get?, Option.bind_some]
      rw [List.getElem?_set_self']
      cases arena.cells[number]? <;> rfl

/-- A release leaves every other handle as it was. -/
theorem get?_release_of_ne (arena : Arena α) {handle other : Handle} (different : other ≠ handle) :
    (arena.release handle).get? other = arena.get? other := by
  cases handle with
  | none => rfl
  | some number =>
      cases other with
      | none => rfl
      | some otherNumber =>
          have : number ≠ otherNumber := fun same => different (by rw [same])
          simp [release, get?, List.getElem?_set_ne this]

end Arena

end ShaderBuild.Foreign
