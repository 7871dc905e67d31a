import Mathlib.Data.List.Pairwise
import Mathlib.Data.Nat.Bits
import Mathlib.Tactic.Ring
/-!
# Fields of a word

A word of some bits is cut into fields, each at a range of the bits. If
the fields meet nowhere and leave no bit out, the word and the values of
its fields determine each other.
-/

namespace CanGui

/-- A range of bits. -/
structure Field where
  start : ℕ
  width : ℕ
  deriving DecidableEq, Repr

namespace Field

variable {field : Field} {word word' : ℕ}

/-- The value of the field in a word. -/
def read (field : Field) (word : ℕ) : ℕ := word / 2 ^ field.start % 2 ^ field.width

/-- The bit is one of the field. -/
def Holds (field : Field) (bit : ℕ) : Prop :=
  field.start ≤ bit ∧ bit < field.start + field.width

instance (field : Field) : DecidablePred field.Holds := fun _ => inferInstanceAs (Decidable (_ ∧ _))

theorem read_lt (field : Field) (word : ℕ) : field.read word < 2 ^ field.width :=
  Nat.mod_lt _ (Nat.two_pow_pos _)

theorem testBit_read (i : ℕ) :
    (field.read word).testBit i = (decide (i < field.width) && word.testBit (field.start + i)) := by
  unfold read
  rw [Nat.testBit_mod_two_pow, Nat.testBit_div_two_pow, Nat.add_comm]

/-- What the field reads is what its bits are. -/
theorem read_eq_iff : field.read word = field.read word' ↔
    ∀ bit, field.Holds bit → word.testBit bit = word'.testBit bit := by
  constructor
  · intro h bit hholds
    have hbit := congrArg (fun value => value.testBit (bit - field.start)) h
    have hwidth : bit - field.start < field.width := by
      unfold Holds at hholds
      omega
    simp only [testBit_read, decide_eq_true hwidth, Bool.true_and] at hbit
    rwa [Nat.add_sub_cancel' hholds.1] at hbit
  · intro h
    apply Nat.eq_of_testBit_eq
    intro i
    rw [testBit_read, testBit_read]
    by_cases hi : i < field.width
    · rw [h (field.start + i) ⟨Nat.le_add_right _ _, Nat.add_lt_add_left hi _⟩]
    · rw [decide_eq_false hi, Bool.false_and, Bool.false_and]

end Field

/-! ## Fields that fill a word -/

variable {σ : Type*} {field : σ → Field} {value : σ → ℕ} {bits : ℕ} {xs : List σ}

/-- The word with these values in its fields. -/
def packFields (field : σ → Field) (value : σ → ℕ) : List σ → ℕ
  | [] => 0
  | x :: xs => value x * 2 ^ (field x).start ||| packFields field value xs

/-- The fields meet nowhere, and each bit of the word is in one. -/
structure FillsWord (field : σ → Field) (bits : ℕ) (xs : List σ) : Prop where
  disjoint : xs.Pairwise fun x y => ∀ bit, (field x).Holds bit → ¬(field y).Holds bit
  inside : ∀ x ∈ xs, (field x).start + (field x).width ≤ bits
  covers : ∀ bit < bits, ∃ x ∈ xs, (field x).Holds bit

theorem testBit_packFields (hvalue : ∀ x ∈ xs, value x < 2 ^ (field x).width) (bit : ℕ) :
    (packFields field value xs).testBit bit = true ↔
      ∃ x ∈ xs, (field x).Holds bit ∧ (value x).testBit (bit - (field x).start) = true := by
  induction xs with
  | nil => simp [packFields]
  | cons x xs ih =>
    obtain ⟨hx, hxs⟩ := List.forall_mem_cons.1 hvalue
    rw [packFields, Nat.testBit_or, Bool.or_eq_true, ih hxs, Nat.testBit_mul_two_pow,
      Bool.and_eq_true, decide_eq_true_eq]
    simp only [List.mem_cons, or_and_right, exists_or, exists_eq_left]
    -- a bit of the value is one of the field
    have hholds : (field x).start ≤ bit ∧ (value x).testBit (bit - (field x).start) = true ↔
        (field x).Holds bit ∧ (value x).testBit (bit - (field x).start) = true := by
      refine and_congr_left fun hbit => ⟨fun hstart => ⟨hstart, ?_⟩, And.left⟩
      by_contra hwidth
      rw [Nat.testBit_lt_two_pow (Nat.lt_of_lt_of_le hx
        (Nat.pow_le_pow_right Nat.two_pos (by omega)))] at hbit
      cases hbit
    rw [hholds]

theorem packFields_lt (hvalue : ∀ x ∈ xs, value x < 2 ^ (field x).width)
    (hinside : ∀ x ∈ xs, (field x).start + (field x).width ≤ bits) :
    packFields field value xs < 2 ^ bits := by
  apply Nat.lt_pow_two_of_testBit
  intro bit hbit
  rw [Bool.eq_false_iff]
  intro hset
  obtain ⟨x, hx, hholds, -⟩ := (testBit_packFields hvalue bit).1 hset
  have hend := hinside x hx
  unfold Field.Holds at hholds
  omega

/-- **A field reads back** what was put there, if the others leave it
alone. -/
theorem read_packFields (hvalue : ∀ x ∈ xs, value x < 2 ^ (field x).width)
    (hdisjoint : xs.Pairwise fun x y => ∀ bit, (field x).Holds bit → ¬(field y).Holds bit)
    {x : σ} (hx : x ∈ xs) : (field x).read (packFields field value xs) = value x := by
  have hsymm : Std.Symm fun x y : σ => ∀ bit, (field x).Holds bit → ¬(field y).Holds bit :=
    ⟨fun _ _ h bit hy hx => h bit hx hy⟩
  apply Nat.eq_of_testBit_eq
  intro i
  rw [Field.testBit_read]
  by_cases hi : i < (field x).width
  · rw [decide_eq_true hi, Bool.true_and, Bool.eq_iff_iff, testBit_packFields hvalue]
    have hown : (field x).Holds ((field x).start + i) :=
      ⟨Nat.le_add_right _ _, Nat.add_lt_add_left hi _⟩
    constructor
    · rintro ⟨y, hy, hholds, hbit⟩
      have hsame : x = y := by
        by_contra hne
        exact hdisjoint.forall hx hy hne _ hown hholds
      subst hsame
      rwa [Nat.add_sub_cancel_left] at hbit
    · intro hbit
      exact ⟨x, hx, hown, by rwa [Nat.add_sub_cancel_left]⟩
  · rw [decide_eq_false hi, Bool.false_and]
    exact (Nat.testBit_lt_two_pow (Nat.lt_of_lt_of_le (hvalue x hx)
      (Nat.pow_le_pow_right Nat.two_pos (Nat.le_of_not_lt hi)))).symm

namespace FillsWord

variable (h : FillsWord field bits xs)
include h

/-- Words with the same fields are the same. -/
theorem ext {word word' : ℕ} (hword : word < 2 ^ bits) (hword' : word' < 2 ^ bits)
    (hread : ∀ x ∈ xs, (field x).read word = (field x).read word') : word = word' := by
  apply Nat.eq_of_testBit_eq
  intro bit
  by_cases hbit : bit < bits
  · obtain ⟨x, hx, hholds⟩ := h.covers bit hbit
    exact Field.read_eq_iff.1 (hread x hx) bit hholds
  · have hle : 2 ^ bits ≤ 2 ^ bit := Nat.pow_le_pow_right Nat.two_pos (Nat.le_of_not_lt hbit)
    rw [Nat.testBit_lt_two_pow (Nat.lt_of_lt_of_le hword hle),
      Nat.testBit_lt_two_pow (Nat.lt_of_lt_of_le hword' hle)]

/-- **A word is what its fields read.** -/
theorem packFields_read {word : ℕ} (hword : word < 2 ^ bits) :
    packFields field (fun x => (field x).read word) xs = word := by
  have hvalue : ∀ x ∈ xs, (field x).read word < 2 ^ (field x).width :=
    fun x _ => (field x).read_lt word
  exact h.ext (packFields_lt hvalue h.inside) hword fun x hx =>
    read_packFields hvalue h.disjoint hx

end FillsWord

/-! ## Fields in a row -/

/-- Fields that follow one another, from a bit to a bit. -/
def InRow (stop : ℕ) : ℕ → List Field → Prop
  | start, [] => start = stop
  | start, field :: fields => field.start = start ∧ InRow stop (start + field.width) fields

instance instDecidableInRow (stop : ℕ) : ∀ (start : ℕ) (fields : List Field),
    Decidable (InRow stop start fields)
  | start, [] => inferInstanceAs (Decidable (start = stop))
  | start, field :: fields =>
    haveI := instDecidableInRow stop (start + field.width) fields
    inferInstanceAs (Decidable (_ ∧ _))

theorem InRow.spec {stop : ℕ} : ∀ {start : ℕ} {xs : List σ}, InRow stop start (xs.map field) →
    start ≤ stop ∧
      (∀ x ∈ xs, start ≤ (field x).start ∧ (field x).start + (field x).width ≤ stop) ∧
      (xs.Pairwise fun x y => ∀ bit, (field x).Holds bit → ¬(field y).Holds bit) ∧
      ∀ bit, start ≤ bit → bit < stop → ∃ x ∈ xs, (field x).Holds bit := by
  intro start xs
  induction xs generalizing start with
  | nil =>
    rintro (rfl : start = stop)
    refine ⟨Nat.le_refl _, fun _ h => absurd h List.not_mem_nil, List.Pairwise.nil, ?_⟩
    intro bit hlow hhigh
    omega
  | cons x xs ih =>
    rintro ⟨hstart, hrest⟩
    obtain ⟨hle, hinside, hpairwise, hcovers⟩ := ih hrest
    refine ⟨by omega, List.forall_mem_cons.2 ⟨by omega, ?_⟩, List.pairwise_cons.2 ⟨?_, hpairwise⟩,
      ?_⟩
    · intro y hy
      have hlater := hinside y hy
      omega
    · intro y hy bit hx hy'
      have hlater := hinside y hy
      unfold Field.Holds at hx hy'
      omega
    · intro bit hlow hhigh
      by_cases hfirst : bit < start + (field x).width
      · exact ⟨x, List.mem_cons_self, by unfold Field.Holds; omega⟩
      · obtain ⟨y, hy, hholds⟩ := hcovers bit (Nat.le_of_not_lt hfirst) hhigh
        exact ⟨y, List.mem_cons_of_mem _ hy, hholds⟩

/-- **Fields in a row** fill the word. -/
theorem InRow.fillsWord (h : InRow bits 0 (xs.map field)) : FillsWord field bits xs := by
  obtain ⟨-, hinside, hpairwise, hcovers⟩ := h.spec
  exact ⟨hpairwise, fun x hx => (hinside x hx).2, fun bit hbit => hcovers bit (Nat.zero_le _) hbit⟩

end CanGui
