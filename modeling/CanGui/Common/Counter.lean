import CanGui.Common.Words
import Mathlib.Logic.Function.Iterate
/-!
# A counter that skips zero

A 32-bit counter whose value 0 means that nothing has been counted: it
runs through the other values and starts again at 1.
-/

namespace CanGui

/-- One on, past zero. -/
def succSkippingZero (n : UInt32) : UInt32 := if n + 1 = 0 then 1 else n + 1

theorem toNat_succSkippingZero (n : UInt32) :
    (succSkippingZero n).toNat = n.toNat % (2 ^ 32 - 1) + 1 := by
  have hlt := n.toNat_lt
  have hsucc : (n + 1).toNat = (n.toNat + 1) % 2 ^ 32 := UInt32.toNat_add n 1
  unfold succSkippingZero
  split
  · next hwrap =>
    have hone : (1 : UInt32).toNat = 1 := rfl
    rw [hwrap, UInt32.toNat_zero] at hsucc
    omega
  · next hnot =>
    have hne : (n + 1).toNat ≠ 0 := by
      intro hzero
      exact hnot (UInt32.toNat_inj.1 hzero)
    omega

theorem succSkippingZero_ne_zero (n : UInt32) : succSkippingZero n ≠ 0 := by
  intro hzero
  have hvalue := toNat_succSkippingZero n
  rw [hzero, UInt32.toNat_zero] at hvalue
  omega

/-- Some steps on, the counter has gone round its `2^32 - 1` values. -/
theorem toNat_iterate_succSkippingZero (n : UInt32) (k : Nat) :
    (succSkippingZero^[k + 1] n).toNat = (n.toNat + k) % (2 ^ 32 - 1) + 1 := by
  induction k with
  | zero => exact toNat_succSkippingZero n
  | succ k ih =>
    rw [Function.iterate_succ_apply', toNat_succSkippingZero, ih]
    omega

end CanGui
