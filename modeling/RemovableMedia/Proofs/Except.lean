import Mathlib.Init

/-!
# Operations that can fail

How an operation made of parts succeeded: what its first part returned, and what followed made of
that.
-/

set_option autoImplicit false

namespace Except

variable {ε α β : Type}

/-- An operation succeeds if its first part does and what follows does with the result. -/
theorem bind_eq_ok_iff {first : Except ε α} {rest : α → Except ε β} {result : β} :
    (first >>= rest) = .ok result ↔ ∃ value, first = .ok value ∧ rest value = .ok result := by
  cases first <;> simp [bind, Except.bind]

/-- A result that is wrapped up is the wrapped result of a success. -/
theorem map_eq_ok_iff {first : Except ε α} {wrap : α → β} {result : β} :
    first.map wrap = .ok result ↔ ∃ value, first = .ok value ∧ wrap value = result := by
  cases first <;> simp [Except.map]

/-- Wrapping results up leaves failures as they are. -/
theorem map_eq_error_iff {first : Except ε α} {wrap : α → β} {failure : ε} :
    first.map wrap = .error failure ↔ first = .error failure := by
  cases first <;> simp [Except.map]

end Except
