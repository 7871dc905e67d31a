import Mathlib.Data.Nat.Notation
/-!
# Decimal digits in a byte

Two decimal digits in the halves of a byte. A byte whose halves are not
both digits writes no number.
-/

namespace CanGui

namespace Bcd

/-- The number that a byte's digits write. -/
def value (byte : ℕ) : Option ℕ :=
  if byte / 16 ≤ 9 ∧ byte % 16 ≤ 9 then some (byte / 16 * 10 + byte % 16) else none

/-- The byte that writes a number. -/
def encode (number : ℕ) : ℕ := number / 10 * 16 + number % 10

variable {byte number : ℕ}

theorem value_eq_some_iff : value byte = some number ↔ number < 100 ∧ byte = encode number := by
  unfold value encode
  split
  · simp only [Option.some.injEq]
    omega
  · simp only [reduceCtorEq, false_iff]
    omega

/-- **A number of two digits reads back.** -/
theorem value_encode (h : number < 100) : value (encode number) = some number :=
  value_eq_some_iff.2 ⟨h, rfl⟩

end Bcd

end CanGui
