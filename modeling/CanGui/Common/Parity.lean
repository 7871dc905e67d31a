import Mathlib.Data.List.Range
import Mathlib.Data.Nat.Bitwise
/-!
# Parity

The ones among the first bits of a number, and whether they are odd in
number. Parity is additive: flipping bits flips it as often as bits are
flipped.
-/

namespace CanGui

/-- The number of ones among the first `w` bits. -/
def ones (value w : ℕ) : ℕ := ((List.range w).filter value.testBit).length

/-- The number of ones among the first `w` bits is odd. -/
def oddOnes (value : ℕ) : ℕ → Bool
  | 0 => false
  | w + 1 => oddOnes value w ^^ value.testBit w

variable {a b w : ℕ}

/-- **Counting from the lowest bit**: what a shifting loop adds each time. -/
theorem ones_succ (value w : ℕ) : ones value (w + 1) = value % 2 + ones (value / 2) w := by
  have hshift : (value.testBit ∘ Nat.succ) = (value / 2).testBit := by
    funext i
    exact Nat.testBit_succ value i
  have htail : ((List.map Nat.succ (List.range w)).filter value.testBit).length =
      ones (value / 2) w := by
    rw [List.filter_map, List.length_map, hshift]
    rfl
  unfold ones at htail ⊢
  rw [List.range_succ_eq_map, List.filter_cons, ← htail, Nat.testBit_zero]
  rcases Nat.mod_two_eq_zero_or_one value with h | h
  · simp [h]
  · simp [h, Nat.add_comm]

/-- **The parity of a sum without carries** is that of its parts. -/
theorem oddOnes_xor (a b w : ℕ) : oddOnes (a ^^^ b) w = (oddOnes a w ^^ oddOnes b w) := by
  induction w with
  | zero => rfl
  | succ w ih =>
    rw [oddOnes, oddOnes, oddOnes, ih, Nat.testBit_xor]
    cases oddOnes a w <;> cases oddOnes b w <;> cases a.testBit w <;> cases b.testBit w <;> rfl

/-- Parity is that of the count of the ones. -/
theorem ones_mod_two (value w : ℕ) : ones value w % 2 = (oddOnes value w).toNat := by
  induction w with
  | zero => rfl
  | succ w ih =>
    unfold ones at ih ⊢
    rw [List.range_succ, List.filter_append, List.length_append, Nat.add_mod, ih, oddOnes]
    cases h : value.testBit w <;> cases oddOnes value w <;> simp [h]

/-- A set lowest bit makes an even number's parity the other. -/
theorem oddOnes_succ_of_even (h : a % 2 = 0) (hw : 0 < w) : oddOnes (a + 1) w = !oddOnes a w := by
  have hone : ∀ n, oddOnes 1 (n + 1) = true := by
    intro n
    induction n with
    | zero => rfl
    | succ n ih =>
      -- above the lowest bit, one has no bits
      have hbit : Nat.testBit 1 (n + 1) = false := by
        rw [Nat.testBit_succ]
        exact Nat.zero_testBit n
      rw [oddOnes, ih, hbit]
      rfl
  obtain ⟨n, rfl⟩ := Nat.exists_eq_succ_of_ne_zero (Nat.ne_of_gt hw)
  rw [← Nat.xor_one_of_even (Nat.even_iff.2 h), oddOnes_xor, hone, Bool.xor_true]

end CanGui
