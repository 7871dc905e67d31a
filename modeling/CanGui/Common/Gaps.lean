import CanGui.Common.Run
import Mathlib.Data.List.Chain
/-!
# Numbers that do not arrive

Numbers go out in increasing order, each as its remainder, and some of
them arrive. A receiver that adds up how far each remainder is from the
one before, less one, has counted the numbers that did not arrive
(`Tally.run_hear`), as long as neighbours that arrive are less than the
modulus apart.
-/

namespace CanGui

/-- The numbers from the first of these to the last that are none of
them. -/
def missing (numbers : List Nat) : Nat :=
  (List.range' (numbers.headD 0) (numbers.getLastD 0 - numbers.headD 0)).countP (· ∉ numbers)

/-- What a receiver has counted, and the remainder it heard last. -/
structure Tally where
  missed : Nat := 0
  last : Option Nat := none
  deriving DecidableEq, Repr

/-- A remainder is heard. -/
def Tally.hear (modulus : Nat) (tally : Tally) (value : Nat) : Tally where
  missed := tally.missed + match tally.last with
    | none => 0
    | some previous => (value + modulus - previous) % modulus - 1
  last := some value

variable {numbers : List Nat} {modulus last next : Nat}

/-- The remainders tell how far two numbers are apart. -/
theorem remainders_apart (hle : last ≤ next) (hgap : next < last + modulus) :
    (next % modulus + modulus - last % modulus) % modulus = next - last := by
  have hlast : last % modulus < modulus := Nat.mod_lt _ (by omega)
  have hnext : next % modulus = (last % modulus + (next - last)) % modulus := by
    rw [Nat.mod_add_mod, Nat.add_sub_cancel' hle]
  generalize last % modulus = remainder at *
  -- the remainders start again between the two, or they do not
  rcases Nat.lt_or_ge (remainder + (next - last)) modulus with hwithin | hwraps
  · rw [hnext, Nat.mod_eq_of_lt hwithin]
    have hsame : remainder + (next - last) + modulus - remainder = next - last + modulus := by omega
    rw [hsame, Nat.add_mod_right, Nat.mod_eq_of_lt (by omega)]
  · have hreduced : (remainder + (next - last)) % modulus =
        remainder + (next - last) - modulus := by
      rw [Nat.mod_eq_sub_mod hwraps, Nat.mod_eq_of_lt (by omega)]
    have hsame : remainder + (next - last) - modulus + modulus - remainder = next - last := by omega
    rw [hnext, hreduced, hsame, Nat.mod_eq_of_lt (by omega)]

/-- Up to the last one, the last one itself, and those behind it. -/
theorem range'_around {first : Nat} (hle : first ≤ last) (hless : last < next) :
    List.range' first (next - first) =
      List.range' first (last - first) ++ last :: List.range' (last + 1) (next - last - 1) := by
  have hsplit := @List.range'_append first (last - first) (next - last) 1
  have hlength : last - first + (next - last) = next - first := by omega
  rw [Nat.one_mul, Nat.add_sub_cancel' hle, hlength] at hsplit
  rw [← List.range'_succ, Nat.sub_add_cancel (by omega), hsplit]

theorem countP_concat {range : List Nat} (hnot : next ∉ range) :
    range.countP (· ∉ numbers ++ [next]) = range.countP (· ∉ numbers) := by
  refine List.countP_congr fun number hnumber => ?_
  have hne : number ≠ next := by
    rintro rfl
    exact hnot hnumber
  simp [hne]

/-- Behind the last number none has arrived. -/
theorem countP_behind (hlast : ∀ number ∈ numbers, number ≤ last) (n : Nat) :
    (List.range' (last + 1) n).countP (· ∉ numbers) = n := by
  rw [List.countP_eq_length.2, List.length_range']
  intro number hnumber
  have hbehind := (List.mem_range'_1.1 hnumber).1
  refine decide_eq_true fun hmem => ?_
  have hle := hlast number hmem
  omega

/-- A number that arrives leaves those between it and the last one
behind. -/
theorem missing_concat (hsorted : (numbers ++ [last] ++ [next]).Pairwise (· < ·)) :
    missing (numbers ++ [last] ++ [next]) = missing (numbers ++ [last]) + (next - last - 1) := by
  obtain ⟨hsorted, -, hnext⟩ := List.pairwise_append.1 hsorted
  obtain ⟨-, -, hbefore⟩ := List.pairwise_append.1 hsorted
  have hless : last < next := hnext last (by simp) next (by simp)
  have hlast : ∀ number ∈ numbers ++ [last], number ≤ last := by
    intro number hnumber
    rcases List.mem_append.1 hnumber with hmem | hmem
    · exact (hbefore number hmem last (by simp)).le
    · exact (List.mem_singleton.1 hmem).le
  -- both lists start with the same number
  obtain ⟨first, hle, hhead, hhead'⟩ : ∃ first, first ≤ last ∧
      (numbers ++ [last]).headD 0 = first ∧ (numbers ++ [last] ++ [next]).headD 0 = first := by
    cases numbers with
    | nil => exact ⟨last, le_rfl, rfl, rfl⟩
    | cons first rest => exact ⟨first, hlast first (by simp), rfl, rfl⟩
  have hnot : next ∉ List.range' first (next - first) := by
    intro hmem
    have hrange := List.mem_range'_1.1 hmem
    omega
  rw [missing, missing, hhead, hhead', List.getLastD_concat, List.getLastD_concat,
    countP_concat hnot, range'_around hle hless, List.countP_append,
    List.countP_cons_of_neg (by simp), countP_behind hlast]

/-- **The receiver has counted the numbers that did not arrive.** -/
theorem Tally.run_hear (hsorted : numbers.Pairwise (· < ·))
    (hgaps : numbers.IsChain fun last next => next < last + modulus) :
    run (hear modulus) {} (numbers.map (· % modulus)) =
      { missed := missing numbers, last := numbers.getLast?.map (· % modulus) } := by
  induction numbers using List.reverseRecOn with
  | nil => rfl
  | append_singleton before next ih =>
    have hbefore := ih (List.pairwise_append.1 hsorted).1 (List.isChain_append.1 hgaps).1
    rw [List.map_append, run_append, hbefore]
    rcases List.eq_nil_or_concat' before with rfl | ⟨earlier, last, rfl⟩
    · simp [hear, missing]
    · have hless : last < next := (List.pairwise_append.1 hsorted).2.2 last (by simp) next (by simp)
      have hgap : next < last + modulus :=
        (List.isChain_append.1 hgaps).2.2 last (by simp) next (by simp)
      rw [missing_concat hsorted]
      simp [hear, remainders_apart hless.le hgap]

end CanGui
