import Mathlib.Data.List.Basic

/-!
Computations that may fail: what has succeeded if a whole has, and where a list of them fails first.
-/

namespace Harvest

theorem except_bind_ok {ε α β : Type} {first : Except ε α} {next : α → Except ε β} {result : β}
    (ok : (first >>= next) = .ok result) : ∃ value, first = .ok value ∧ next value = .ok result := by
  cases first with
  | error e => simp [bind, Except.bind] at ok
  | ok value => exact ⟨value, rfl, ok⟩

end Harvest
