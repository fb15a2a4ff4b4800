import ShaderBuild.Foreign.Workspace
import ShaderBuild.Proofs.Foreign.Ledger

namespace ShaderBuild.Foreign

/-!
# Handles under names

Handles of one kind are held under names, as raw ones or by owners. An operation takes
a handle in hand, or makes one, and puts it under a name; what it puts it in the place
of is released. Each of these steps keeps the ledger and leaves alone what other names
stand for.
-/

/-! ### Names -/

namespace Slots

variable {α : Type} {slots : Slots α} {name other : String}

end Slots

/-- Who may hold a handle: a name for raw handles, or an owner of a name. -/
inductive Holder where
  | raw (name : String)
  | owner (name : String)
  deriving Repr, DecidableEq

/-- How the owners of one kind hold handles. -/
structure OwnerKind (β : Type) where
  handle : β → Handle
  /-- The owner of a name that has none. -/
  invalid : β
  handle_invalid : handle invalid = none

/-- What is held under names, where a name stands for a raw handle and for an owner. -/
def OwnerKind.holding
    {β : Type}
    (kind : OwnerKind β)
    (raw : Slots Handle)
    (owned : Slots β) :
    Holder → Handle
  | .raw name => (raw.get? name).getD none
  | .owner name => kind.handle ((owned.get? name).getD kind.invalid)

/-- A holder holds another handle, and all others hold what they held. -/
structure Updates
    (holds : Holder → Handle)
    (holder : Holder)
    (handle : Handle)
    (holds' : Holder → Handle) : Prop where
  self : holds' holder = handle
  others : ∀ other, other ≠ holder → holds' other = holds other

namespace OwnerKind

variable {β : Type} (kind : OwnerKind β) (raw : Slots Handle) (owned : Slots β) (name : String)

end OwnerKind

/-! ### Shelves -/

/-- The handles of one kind: what they name, who holds them, and the one in hand. -/
structure Shelf (α : Type) where
  arena : Arena α
  holds : Holder → Handle
  hand : Handle

namespace Shelf

variable {α : Type} {before between after : Shelf α} {arena : Arena α}
  {holds holds' : Holder → Handle} {holder : Holder} {handle : Handle}
  {untouched : Holder → Prop}

/-- What is held under a name or in hand. -/
def held (shelf : Shelf α) : Option Holder → Handle
  | none => shelf.hand
  | some holder => shelf.holds holder

/-- Everything allocated is accounted for. -/
def IsAccounted (shelf : Shelf α) : Prop :=
  shelf.arena.Ledger shelf.held

/-- All stays accounted for, and what untouched holders hold stays as it is. -/
structure Leads (untouched : Holder → Prop) (before after : Shelf α) : Prop where
  accounted : after.IsAccounted
  handle : ∀ holder, untouched holder → after.holds holder = before.holds holder
  named :
    ∀ holder, untouched holder →
      after.arena.get? (before.holds holder) = before.arena.get? (before.holds holder)

namespace Leads

theorem refl (accounted : before.IsAccounted) : before.Leads untouched before :=
  ⟨accounted, fun _ _ => rfl, fun _ _ => rfl⟩

theorem trans
    (first : before.Leads untouched between)
    (second : between.Leads untouched after) :
    before.Leads untouched after where
  accounted := second.accounted
  handle holder isUntouched :=
    (second.handle holder isUntouched).trans (first.handle holder isUntouched)
  named holder isUntouched := by
    have named := second.named holder isUntouched
    rw [first.handle holder isUntouched] at named
    exact named.trans (first.named holder isUntouched)

/-- A new handle is taken in hand. -/
theorem allocate
    (accounted : IsAccounted ⟨arena, holds, none⟩)
    (value : α) :
    Leads untouched ⟨arena, holds, none⟩
      ⟨(arena.allocate value).1, holds, (arena.allocate value).2⟩ where
  accounted := by
    refine Arena.Ledger.allocate accounted (i := none) rfl value rfl fun holder isName => ?_
    cases holder with
    | none =>
        exact absurd rfl isName
    | some holder =>
        rfl
  handle _ _ := rfl
  named holder _ := Arena.Ledger.get?_allocate accounted value (some holder)

/-- The handle in hand takes the place of what a holder holds. -/
theorem put
    (accounted : IsAccounted ⟨arena, holds, handle⟩)
    (updates : Updates holds holder handle holds')
    (isTouched : ∀ other, untouched other → other ≠ holder) :
    Leads untouched ⟨arena, holds, handle⟩ ⟨arena.release (holds holder), holds', none⟩ where
  accounted := by
    refine Arena.Ledger.replace accounted (i := none) (j := some holder)
      (Option.some_ne_none holder) rfl updates.self fun other notHand notHolder => ?_
    cases other with
    | none =>
        exact absurd rfl notHand
    | some other =>
        exact updates.others other fun same => notHolder (by rw [same])
  handle other isUntouched := updates.others other (isTouched other isUntouched)
  named other isUntouched :=
    Arena.Ledger.get?_release accounted (i := some holder) (j := some other)
      fun same => isTouched other isUntouched (Option.some.inj same)

/-- What a holder holds is taken in hand. -/
theorem lift
    (accounted : IsAccounted ⟨arena, holds, none⟩)
    (updates : Updates holds holder none holds')
    (isTouched : ∀ other, untouched other → other ≠ holder) :
    Leads untouched ⟨arena, holds, none⟩ ⟨arena, holds', holds holder⟩ where
  accounted := by
    refine Arena.Ledger.move accounted (i := some holder) (j := none) rfl updates.self rfl
      fun other notHolder notHand => ?_
    cases other with
    | none =>
        exact absurd rfl notHand
    | some other =>
        exact updates.others other fun same => notHolder (by rw [same])
  handle other isUntouched := updates.others other (isTouched other isUntouched)
  named _ _ := rfl

section

variable {β : Type} {kind : OwnerKind β} {raw : Slots Handle} {owned : Slots β} {name : String}

end

end Leads

end Shelf

/-- Where nothing is in hand, everything is held under names. -/
theorem Shelf.IsAccounted.ledger
    {α : Type}
    {arena : Arena α}
    {holds : Holder → Handle}
    (accounted : Shelf.IsAccounted ⟨arena, holds, none⟩) :
    arena.Ledger holds where
  exclusive {holder holder'} _ isHeld isHeld' :=
    Option.some.inj (accounted.exclusive (i := some holder) (j := some holder') isHeld isHeld')
  live {holder} isHeld := Arena.Ledger.live accounted (i := some holder) isHeld
  once isAllocated unheld := by
    refine Arena.Ledger.once accounted isAllocated fun place => ?_
    cases place with
    | none =>
        exact nofun
    | some holder =>
        exact unheld holder
  gone isReleased := Arena.Ledger.gone accounted isReleased

end ShaderBuild.Foreign
