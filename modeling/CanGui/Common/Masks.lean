import CanGui.Common.Words
import Mathlib.Data.Nat.Bitwise
/-!
# A word as a set of its bits

The members are the words of a single bit. A word has a member if the two
have a bit in common; union, difference and inclusion of the sets are the
bit operations.
-/

namespace CanGui

namespace Mask

/-- A word of one bit. -/
def Single (bit : UInt32) : Prop := bit ≠ 0 ∧ bit &&& (bit - 1) = 0

instance instDecidableSingle (bit : UInt32) : Decidable (Single bit) :=
  inferInstanceAs (Decidable (_ ∧ _))

/-- The word has the bit. -/
def Has (mask bit : UInt32) : Prop := mask &&& bit ≠ 0

instance instDecidableHas (mask bit : UInt32) : Decidable (Has mask bit) :=
  inferInstanceAs (Decidable (_ ≠ _))

variable {mask mask' bit bit' : UInt32}

theorem single_iff : Single bit ↔ ∃ i < 32, bit.toNat = 2 ^ i := by
  have hlt := bit.toNat_lt
  have hnat : Single bit ↔ bit.toNat ≠ 0 ∧ bit.toNat &&& (bit.toNat - 1) = 0 := by
    unfold Single
    have hzero : bit ≠ 0 ↔ bit.toNat ≠ 0 := not_congr UInt32.toNat_inj.symm
    rw [hzero]
    refine and_congr_right fun hne => ?_
    have hone : (1 : UInt32) ≤ bit := UInt32.le_iff_toNat_le.2 (Nat.one_le_iff_ne_zero.2 hne)
    rw [← UInt32.toNat_inj, UInt32.toNat_and, UInt32.toNat_sub_of_le _ _ hone]
    rfl
  rw [hnat, Nat.ne_zero_and_sub_one_eq_zero_iff_isPowerOfTwo]
  constructor
  · rintro ⟨i, hi⟩
    refine ⟨i, ?_, hi⟩
    rw [hi] at hlt
    exact (Nat.pow_lt_pow_iff_right (by omega)).1 hlt
  · rintro ⟨i, -, hi⟩
    exact ⟨i, hi⟩

/-- A bit is there if its place is set. -/
theorem has_iff_testBit {i : ℕ} (hbit : bit.toNat = 2 ^ i) :
    Has mask bit ↔ mask.toNat.testBit i = true := by
  unfold Has
  rw [Ne, ← UInt32.toNat_inj, UInt32.toNat_and, hbit, Nat.and_two_pow]
  cases htest : mask.toNat.testBit i with
  | false => simp
  | true => simp

theorem has_or (hbit : Single bit) : Has (mask ||| mask') bit ↔ Has mask bit ∨ Has mask' bit := by
  obtain ⟨i, -, hi⟩ := single_iff.1 hbit
  rw [has_iff_testBit hi, has_iff_testBit hi, has_iff_testBit hi, UInt32.toNat_or, Nat.testBit_or,
    Bool.or_eq_true]

theorem has_and (hbit : Single bit) : Has (mask &&& mask') bit ↔ Has mask bit ∧ Has mask' bit := by
  obtain ⟨i, -, hi⟩ := single_iff.1 hbit
  rw [has_iff_testBit hi, has_iff_testBit hi, has_iff_testBit hi, UInt32.toNat_and, Nat.testBit_and,
    Bool.and_eq_true]

theorem has_not (hbit : Single bit) : Has (~~~mask) bit ↔ ¬Has mask bit := by
  obtain ⟨i, hlt, hi⟩ := single_iff.1 hbit
  have hmask : mask.toNat < 2 ^ 32 := mask.toNat_lt
  have hcomplement : UInt32.size - 1 - mask.toNat = 2 ^ 32 - (mask.toNat + 1) := by
    rw [UInt32.size]
    omega
  rw [has_iff_testBit hi, has_iff_testBit hi, UInt32.toNat_not, hcomplement,
    Nat.testBit_two_pow_sub_succ hmask]
  simp [hlt]

/-- Single bits are the same or apart. -/
theorem has_single (hbit : Single bit) (hbit' : Single bit') : Has bit bit' ↔ bit = bit' := by
  obtain ⟨i, -, hi⟩ := single_iff.1 hbit
  obtain ⟨j, -, hj⟩ := single_iff.1 hbit'
  rw [has_iff_testBit hj, hi, Nat.testBit_two_pow, decide_eq_true_eq, ← UInt32.toNat_inj, hi, hj]
  exact (Nat.pow_right_injective (Nat.le_refl 2)).eq_iff.symm

/-- Words with the same bits are the same. -/
theorem ext (h : ∀ bit, Single bit → (Has mask bit ↔ Has mask' bit)) : mask = mask' := by
  refine UInt32.toNat_inj.1 (Nat.eq_of_testBit_eq fun i => ?_)
  by_cases hi : i < 32
  · have htoNat : (UInt32.ofNat (2 ^ i)).toNat = 2 ^ i :=
      UInt32.toNat_ofNat_of_lt' (Nat.pow_lt_pow_right (by omega) hi)
    have hbit := h (UInt32.ofNat (2 ^ i)) (single_iff.2 ⟨i, hi, htoNat⟩)
    rw [has_iff_testBit htoNat, has_iff_testBit htoNat] at hbit
    exact Bool.eq_iff_iff.2 hbit
  · have hpow : 2 ^ 32 ≤ 2 ^ i := Nat.pow_le_pow_right (by omega) (by omega)
    rw [Nat.testBit_lt_two_pow (Nat.lt_of_lt_of_le mask.toNat_lt hpow),
      Nat.testBit_lt_two_pow (Nat.lt_of_lt_of_le mask'.toNat_lt hpow)]

theorem not_has_zero (bit : UInt32) : ¬Has 0 bit := by
  simp [Has]

theorem ne_zero_iff : mask ≠ 0 ↔ ∃ bit, Single bit ∧ Has mask bit := by
  constructor
  · intro hne
    by_contra hnone
    refine hne (ext fun bit hbit => iff_of_false (fun hhas => hnone ⟨bit, hbit, hhas⟩) ?_)
    exact not_has_zero bit
  · rintro ⟨bit, -, hhas⟩ hzero
    rw [hzero] at hhas
    exact not_has_zero bit hhas

/-- A word that does not keep another misses a bit of it. -/
theorem and_ne_right_iff : mask &&& mask' ≠ mask' ↔
    ∃ bit, Single bit ∧ Has mask' bit ∧ ¬Has mask bit := by
  constructor
  · intro hne
    by_contra hnone
    refine hne (ext fun bit hbit => ?_)
    rw [has_and hbit]
    refine ⟨fun hboth => hboth.2, fun hhas => ⟨?_, hhas⟩⟩
    by_contra hmissing
    exact hnone ⟨bit, hbit, hhas, hmissing⟩
  · rintro ⟨bit, hbit, hhas, hmissing⟩ heq
    rw [← heq, has_and hbit] at hhas
    exact hmissing hhas.1

end Mask

end CanGui
