import Mathlib.Data.List.GetD
import Mathlib.Data.List.Sort
import Mathlib.Order.Basic
/-!
# Ranks

The value of a rank in a list of values, counted from one in ascending
order. How many values meet a condition that smaller values meet before
larger ones tells which ranks meet it.
-/

namespace CanGui

section Ranks

variable {α : Type*} {p : α → Bool} {s : List α}

/-- Where a condition holds of a prefix only, the count of the elements
that meet it is the length of the prefix. -/
theorem lt_countP_iff (hs : s.Pairwise fun x y => p y = true → p x = true) :
    ∀ {i : ℕ} (hi : i < s.length), i < s.countP p ↔ p s[i] = true := by
  induction s with
  | nil =>
    intro i hi
    exact absurd hi (Nat.not_lt_zero i)
  | cons x s ih =>
    obtain ⟨hx, hs⟩ := List.pairwise_cons.1 hs
    intro i hi
    by_cases hpx : p x = true
    · rw [List.countP_cons_of_pos hpx]
      cases i with
      | zero => exact iff_of_true (Nat.succ_pos _) hpx
      | succ i =>
        rw [Nat.succ_lt_succ_iff]
        exact ih hs (Nat.lt_of_succ_lt_succ hi)
    · -- behind an element that fails, all fail
      have hnone : s.countP p = 0 := List.countP_eq_zero.2 fun y hy hpy => hpx (hx y hy hpy)
      rw [List.countP_cons_of_neg hpx, hnone]
      refine iff_of_false (Nat.not_lt_zero i) fun hpi => hpx ?_
      cases i with
      | zero => exact hpi
      | succ i => exact hx _ (List.getElem_mem _) hpi

variable [LinearOrder α] [Inhabited α]

/-- The value of a rank, from one. -/
def ofRank (values : List α) (rank : ℕ) : α :=
  (values.mergeSort (· ≤ ·)).getD (rank - 1) default

/-- The nearest rank of a percentile among `n` values. -/
def nearestRank (percentile n : ℕ) : ℕ := (n * percentile + 99) / 100

theorem nearestRank_pos {percentile n : ℕ} (hp : 0 < percentile) (hn : 0 < n) :
    0 < nearestRank percentile n := by
  have h := Nat.mul_pos hn hp
  unfold nearestRank
  omega

theorem nearestRank_le {percentile n : ℕ} (hp : percentile ≤ 100) :
    nearestRank percentile n ≤ n := by
  have h := Nat.mul_le_mul_left n hp
  unfold nearestRank
  omega

theorem nearestRank_mono {percentile other : ℕ} (h : percentile ≤ other) (n : ℕ) :
    nearestRank percentile n ≤ nearestRank other n := by
  have := Nat.mul_le_mul_left n h
  unfold nearestRank
  omega

variable {values : List α} {rank : ℕ}

theorem ofRank_eq (hlt : rank - 1 < (values.mergeSort (· ≤ ·)).length) :
    ofRank values rank = (values.mergeSort (· ≤ ·))[rank - 1] := List.getD_eq_getElem _ _ hlt

theorem ofRank_mem (hpos : 0 < rank) (hle : rank ≤ values.length) : ofRank values rank ∈ values := by
  have hlt : rank - 1 < (values.mergeSort (· ≤ ·)).length := by
    rw [List.length_mergeSort]
    omega
  rw [ofRank_eq hlt]
  exact (List.mergeSort_perm values _).mem_iff.1 (List.getElem_mem hlt)

/-- A higher rank has no smaller value. -/
theorem ofRank_mono {other : ℕ} (h : rank ≤ other) (hle : other ≤ values.length)
    (hpos : 0 < values.length) : ofRank values rank ≤ ofRank values other := by
  have hlength : (values.mergeSort (· ≤ ·)).length = values.length := List.length_mergeSort _
  rw [ofRank_eq (by omega), ofRank_eq (by omega)]
  rcases Nat.lt_or_eq_of_le (Nat.sub_le_sub_right h 1) with hlt | heq
  · exact List.pairwise_iff_getElem.1 (List.pairwise_mergeSort' (· ≤ ·) values) _ _ _ _ hlt
  · exact le_of_eq (by congr 1)

/-- **Counting finds the rank**: as many values as a rank meet a condition
exactly if the value of the rank does, where smaller values meet what
larger ones do. -/
theorem rank_le_countP_iff (hp : ∀ x y, x ≤ y → p y = true → p x = true) (hpos : 0 < rank)
    (hle : rank ≤ values.length) :
    rank ≤ values.countP p ↔ p (ofRank values rank) = true := by
  have hlt : rank - 1 < (values.mergeSort (· ≤ ·)).length := by
    rw [List.length_mergeSort]
    omega
  have h := lt_countP_iff ((List.pairwise_mergeSort' (· ≤ ·) values).imp fun hxy => hp _ _ hxy) hlt
  rw [(List.mergeSort_perm values _).countP_eq] at h
  rw [ofRank_eq hlt, ← h]
  omega

end Ranks

end CanGui
