import Mathlib.Data.List.Basic

namespace ShaderBuild

/-!
# Computations that may fail

What is known of a computation that did not fail: none of its steps did.
-/

variable {ε α β : Type}

theorem bind_eq_ok_iff
    {first : Except ε α} {next : α → Except ε β} {result : β} :
    first >>= next = .ok result ↔ ∃ value, first = .ok value ∧ next value = .ok result := by
  cases first with
  | error fault => exact ⟨nofun, fun ⟨_, ends, _⟩ => nomatch ends⟩
  | ok value => simp [bind, Except.bind]

theorem check_bind_eq_ok_iff
    {check : Except ε Unit} {next : Except ε β} {result : β} :
    (check >>= fun _ => next) = .ok result ↔ check = .ok () ∧ next = .ok result := by
  rw [bind_eq_ok_iff]
  exact ⟨fun ⟨_, passes, goesOn⟩ => ⟨passes, goesOn⟩, fun ⟨passes, goesOn⟩ => ⟨_, passes, goesOn⟩⟩

end ShaderBuild
