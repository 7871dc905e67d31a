import Mathlib.Data.List.Count
import Mathlib.Order.Nat
/-!
# Paths of a labelled transition relation

`Next s e s'` says that `e` may lead from `s` to `s'`. A path is a list of
labels that leads from its start to its end, one after the other.
-/

namespace CanGui

variable {σ ε : Type*} {Next : σ → ε → σ → Prop} {s s' : σ} {es : List ε}

inductive Path (Next : σ → ε → σ → Prop) (s : σ) : List ε → σ → Prop
  | nil : Path Next s [] s
  | snoc {es : List ε} {e : ε} {s' s'' : σ} :
      Path Next s es s' → Next s' e s'' → Path Next s (es ++ [e]) s''

namespace Path

/-- **The budget rule.** If every step takes what it costs from the budget,
a path costs no more than its start had. -/
theorem budget (p : ε → Bool) (left : σ → Nat)
    (hstep : ∀ s e s', Next s e s' → (if p e then 1 else 0) + left s' ≤ left s)
    (h : Path Next s es s') : es.countP p + left s' ≤ left s := by
  induction h with
  | nil => exact (Nat.zero_add _).le
  | @snoc es e s' s'' _ hnext ih =>
    have hcost := hstep s' e s'' hnext
    rw [List.countP_append, List.countP_singleton]
    omega

/-- **The count rule.** If the state counts the steps of a kind, so it does
along a path. -/
theorem counted (p : ε → Bool) (count : σ → Nat)
    (hstep : ∀ s e s', Next s e s' → count s' = count s + if p e then 1 else 0)
    (h : Path Next s es s') : count s' = count s + es.countP p := by
  induction h with
  | nil => rw [List.countP_nil, Nat.add_zero]
  | @snoc es e s' s'' _ hnext ih =>
    have hcount := hstep s' e s'' hnext
    rw [List.countP_append, List.countP_singleton]
    omega

/-- **The invariant rule.** -/
theorem invariant (I : List ε → σ → Prop) (hstart : I [] s)
    (hstep : ∀ es e s' s'', I es s' → Next s' e s'' → I (es ++ [e]) s'')
    (h : Path Next s es s') : I es s' := by
  induction h with
  | nil => exact hstart
  | snoc _ hnext ih => exact hstep _ _ _ _ ih hnext

end Path

end CanGui
