namespace ShaderBuild

/-!
# Liveness

Whether a region of a source reaches the compiler, as far as its conditions can
be evaluated while includes are being expanded.
-/

/-- What is known about a region. -/
inductive Liveness where
  /-- It is certainly compiled. -/
  | live
  /-- It is certainly skipped. -/
  | dead
  /-- It depends on a condition that cannot be evaluated here. -/
  | unknown
  deriving Repr, DecidableEq

namespace Liveness

/-- The liveness of a branch under its own condition; `none` is an unknown one. -/
def ofCondition : Option Bool → Liveness
  | some true => .live
  | some false => .dead
  | none => .unknown

/-- A region inside another: live if both are, dead if either is. -/
def and : Liveness → Liveness → Liveness
  | .dead, _ => .dead
  | _, .dead => .dead
  | .live, .live => .live
  | _, _ => .unknown

/-- One region or another: live if either is, dead if both are. -/
def or : Liveness → Liveness → Liveness
  | .live, _ => .live
  | _, .live => .live
  | .dead, .dead => .dead
  | _, _ => .unknown

/-- A region that is certainly skipped. -/
def isDead (liveness : Liveness) : Bool :=
  liveness = .dead

end Liveness

end ShaderBuild
