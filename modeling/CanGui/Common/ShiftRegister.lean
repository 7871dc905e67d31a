import Mathlib.Data.List.GetD
import Mathlib.Data.Bool.Basic
import Mathlib.Logic.Function.Iterate
/-!
# Shift registers, and the errors they tell

A shift register holds cells. A bit comes in at cell 0; then every cell
hands its content down, what leaves cell 0 is fed back into the cells with
a tap, and the last cell has one. A cyclic redundancy check is such a
register: what it holds after a word is the word's checksum.

What is told: a word that differs from another within no more bits than
there are cells never leaves the same register (`burst_eq`), and neither
does one with its checksum behind it (`checked_burst_eq`), wherever
between word and checksum the difference lies.
-/

namespace CanGui

/-- A register of `width` cells, seen through them. -/
structure ShiftRegister (R : Type*) (width : ℕ) where
  cell : R → ℕ → Bool
  tap : ℕ → Bool
  shift : R → R
  enter : Bool → R → R
  pos : 0 < width
  ext : ∀ {r s : R}, (∀ i < width, cell r i = cell s i) → r = s
  tap_last : tap (width - 1) = true
  cell_shift : ∀ (r : R) (i : ℕ), i < width →
    cell (shift r) i = xor (decide (i + 1 < width) && cell r (i + 1)) (cell r 0 && tap i)
  cell_enter : ∀ (b : Bool) (r : R) (i : ℕ), i < width →
    cell (enter b r) i = xor (cell r i) (b && decide (i = 0))

namespace ShiftRegister

variable {R : Type*} {width : ℕ} (register : ShiftRegister R width)
variable {r s : R} {word word' : List Bool}

/-- The register after a word. -/
def feed (r : R) (word : List Bool) : R :=
  word.foldl (fun r b => register.shift (register.enter b r)) r

theorem feed_cons (r : R) (b : Bool) (word : List Bool) :
    register.feed r (b :: word) = register.feed (register.shift (register.enter b r)) word := rfl

theorem feed_append (r : R) (word word' : List Bool) :
    register.feed r (word ++ word') = register.feed (register.feed r word) word' :=
  List.foldl_append

/-- The cells of two registers from one on are the same. -/
def AgreeFrom (j : ℕ) (r s : R) : Prop :=
  ∀ i, j ≤ i → i < width → register.cell r i = register.cell s i

theorem cell_enter_succ {b : Bool} {i : ℕ} (hi : i + 1 < width) :
    register.cell (register.enter b r) (i + 1) = register.cell r (i + 1) := by
  rw [register.cell_enter b r _ hi, decide_eq_false (Nat.succ_ne_zero i), Bool.and_false,
    Bool.xor_false]

theorem cell_enter_zero {b : Bool} :
    register.cell (register.enter b r) 0 = xor (register.cell r 0) b := by
  rw [register.cell_enter b r 0 register.pos, decide_eq_true rfl, Bool.and_true]

/-- The last cell tells what left. -/
theorem cell_shift_last : register.cell (register.shift r) (width - 1) = register.cell r 0 := by
  have hpos := register.pos
  rw [register.cell_shift r _ (by omega), register.tap_last, Bool.and_true,
    decide_eq_false (by omega), Bool.false_and, Bool.false_xor]

/-- A shift is undone from the last cell, as far as the cells agree. -/
theorem agreeFrom_of_shift {j : ℕ} (hj : j < width)
    (h : register.AgreeFrom j (register.shift r) (register.shift s)) :
    register.cell r 0 = register.cell s 0 ∧ register.AgreeFrom (j + 1) r s := by
  have hout : register.cell r 0 = register.cell s 0 := by
    have hlast := h (width - 1) (by omega) (by omega)
    rwa [cell_shift_last, cell_shift_last] at hlast
  refine ⟨hout, fun i hji hi => ?_⟩
  obtain ⟨i, rfl⟩ : ∃ k, i = k + 1 := ⟨i - 1, by omega⟩
  have hcell := h i (by omega) (by omega)
  rw [register.cell_shift r i (by omega), register.cell_shift s i (by omega), hout,
    decide_eq_true hi, Bool.true_and, Bool.true_and] at hcell
  exact (Bool.xor_left_inj).1 hcell

theorem shift_injective : Function.Injective register.shift := by
  intro r s h
  have hsame : register.AgreeFrom 0 (register.shift r) (register.shift s) :=
    fun i _ _ => congrArg (fun r => register.cell r i) h
  obtain ⟨hout, hrest⟩ := register.agreeFrom_of_shift register.pos hsame
  refine register.ext fun i hi => ?_
  rcases Nat.eq_zero_or_pos i with rfl | hi'
  · exact hout
  · exact hrest i hi' hi

theorem enter_injective (b : Bool) : Function.Injective (register.enter b) := by
  intro r s h
  refine register.ext fun i hi => ?_
  have hcell : register.cell (register.enter b r) i = register.cell (register.enter b s) i :=
    congrArg (fun r => register.cell r i) h
  rw [register.cell_enter b r i hi, register.cell_enter b s i hi] at hcell
  exact (Bool.xor_left_inj).1 hcell

/-- The same word tells registers apart that were apart. -/
theorem feed_injective (word : List Bool) : Function.Injective fun r => register.feed r word := by
  induction word with
  | nil => exact Function.injective_id
  | cons b word ih =>
    intro r s h
    exact register.enter_injective b (register.shift_injective (ih h))

/-! ## Words no longer than the register -/

/-- Words are undone as far as the cells agree. -/
theorem agreeFrom_of_feed (word : List Bool) : ∀ (word' : List Bool) (r s : R) (j : ℕ),
    word.length = word'.length → j + word.length ≤ width →
    register.AgreeFrom j (register.feed r word) (register.feed s word') →
    register.AgreeFrom (j + word.length) r s := by
  induction word with
  | nil =>
    intro word' r s j hlength _ h
    obtain rfl := List.length_eq_zero_iff.1 hlength.symm
    exact h
  | cons b word ih =>
    intro word' r s j hlength hroom h
    cases word' with
    | nil => simp at hlength
    | cons b' word' =>
      have hroom' : j + word.length + 1 ≤ width := hroom
      have hshifted := ih word' _ _ j (Nat.succ.inj hlength) (by omega) h
      obtain ⟨-, hagree⟩ := register.agreeFrom_of_shift (by omega) hshifted
      intro i hji hi
      have hji' : j + word.length + 1 ≤ i := hji
      obtain ⟨i, rfl⟩ : ∃ k, i = k + 1 := ⟨i - 1, by omega⟩
      have hcell := hagree (i + 1) (by omega) hi
      rwa [register.cell_enter_succ hi, register.cell_enter_succ hi] at hcell

/-- **A short word is told by the register it leaves.** -/
theorem short_eq (word : List Bool) : ∀ (word' : List Bool) (r : R),
    word.length = word'.length → word.length ≤ width →
    register.feed r word = register.feed r word' → word = word' := by
  induction word with
  | nil =>
    intro word' r hlength _ _
    exact (List.length_eq_zero_iff.1 hlength.symm).symm
  | cons b word ih =>
    intro word' r hlength hroom h
    cases word' with
    | nil => simp at hlength
    | cons b' word' =>
      have hroom' : word.length + 1 ≤ width := hroom
      have htail := Nat.succ.inj hlength
      have hshifted := register.agreeFrom_of_feed word word'
        (register.shift (register.enter b r)) (register.shift (register.enter b' r)) 0 htail
        (by omega) (fun i _ _ => congrArg (fun r => register.cell r i) h)
      obtain ⟨hout, -⟩ := register.agreeFrom_of_shift (by omega) hshifted
      rw [cell_enter_zero, cell_enter_zero] at hout
      obtain rfl := (Bool.xor_right_inj).1 hout
      rw [ih word' _ htail (by omega) h]

/-! ## Words that differ in a window -/

/-- Two words of the same length that differ within some bits in a row
only. -/
def DifferWithin (bits : ℕ) (word word' : List Bool) : Prop :=
  word.length = word'.length ∧
    ∃ start, word.take start = word'.take start ∧
      word.drop (start + bits) = word'.drop (start + bits)

/-- A difference stays within its bits when the words are cut short. -/
theorem DifferWithin.take {bits : ℕ} (h : DifferWithin bits word word') (n : ℕ) :
    DifferWithin bits (word.take n) (word'.take n) := by
  obtain ⟨hlength, start, hbefore, hbehind⟩ := h
  refine ⟨by rw [List.length_take, List.length_take, hlength], start, ?_, ?_⟩
  · rw [List.take_take, List.take_take, Nat.min_comm, ← List.take_take, hbefore, List.take_take]
  · rw [List.drop_take, List.drop_take, hbehind]

/-- **A burst is told.** Words that differ within no more bits than there
are cells, and leave the same register, are the same. -/
theorem burst_eq (h : DifferWithin width word word')
    (hfeed : register.feed r word = register.feed r word') : word = word' := by
  obtain ⟨hlength, start, hbefore, hbehind⟩ := h
  have hsplit : ∀ word : List Bool,
      word = word.take start ++ ((word.drop start).take width ++ word.drop (start + width)) := by
    intro word
    rw [← List.drop_drop, List.take_append_drop, List.take_append_drop]
  rw [hsplit word, hsplit word', hbefore, hbehind, feed_append, feed_append, feed_append,
    feed_append] at hfeed
  have hmiddle := register.feed_injective _ hfeed
  have heq := register.short_eq _ _ _ (by
    rw [List.length_take, List.length_take, List.length_drop, List.length_drop, hlength])
    (List.length_take_le _ _) hmiddle
  rw [hsplit word, hsplit word', hbefore, hbehind, heq]

/-! ## A word and its checksum -/

/-- What a register becomes depends on a short word and its first cells
only through their difference. -/
theorem feed_congr (word : List Bool) : ∀ (word' : List Bool) (r s : R),
    word.length = word'.length → word.length ≤ width →
    (∀ i < word.length, xor (register.cell r i) (word.getD i false) =
      xor (register.cell s i) (word'.getD i false)) →
    register.AgreeFrom word.length r s →
    register.feed r word = register.feed s word' := by
  induction word with
  | nil =>
    intro word' r s hlength _ _ hagree
    obtain rfl := List.length_eq_zero_iff.1 hlength.symm
    exact register.ext fun i hi => hagree i (Nat.zero_le i) hi
  | cons b word ih =>
    intro word' r s hlength hroom hdiffer hagree
    cases word' with
    | nil => simp at hlength
    | cons b' word' =>
      have hroom' : word.length + 1 ≤ width := hroom
      have hfirst := hdiffer 0 (Nat.succ_pos _)
      rw [List.getD_cons_zero, List.getD_cons_zero] at hfirst
      have hout : register.cell (register.enter b r) 0 = register.cell (register.enter b' s) 0 := by
        rw [cell_enter_zero, cell_enter_zero, hfirst]
      rw [feed_cons, feed_cons]
      refine ih word' _ _ (Nat.succ.inj hlength) (by omega) (fun i hi => ?_) (fun i hji hi => ?_)
      · have hnext := hdiffer (i + 1) (Nat.succ_lt_succ hi)
        rw [List.getD_cons_succ, List.getD_cons_succ] at hnext
        rw [register.cell_shift _ i (by omega), register.cell_shift _ i (by omega), hout,
          decide_eq_true (show i + 1 < width by omega), Bool.true_and, Bool.true_and,
          register.cell_enter_succ (by omega), register.cell_enter_succ (by omega),
          Bool.xor_right_comm, hnext, Bool.xor_right_comm]
      · rw [register.cell_shift _ i hi, register.cell_shift _ i hi, hout]
        by_cases hlast : i + 1 < width
        · rw [register.cell_enter_succ hlast, register.cell_enter_succ hlast,
            hagree (i + 1) (Nat.succ_le_succ hji) hlast]
        · rw [decide_eq_false hlast, Bool.false_and, Bool.false_and]

/-- The bits behind a word are its checksum, up to a mask. -/
def Checked (mask : ℕ → Bool) (r : R) (word checksum : List Bool) : Prop :=
  checksum.length = width ∧ ∀ i < width,
    xor (register.cell (register.feed r word) i) (checksum.getD i false) = mask i

/-- A word with its checksum leaves a rest that is always the same. -/
theorem feed_checked {mask : ℕ → Bool} {checksum checksum' : List Bool} {r r' : R}
    (h : register.Checked mask r word checksum) (h' : register.Checked mask r' word' checksum') :
    register.feed r (word ++ checksum) = register.feed r' (word' ++ checksum') := by
  rw [feed_append, feed_append]
  refine register.feed_congr _ _ _ _ (h.1.trans h'.1.symm) (Nat.le_of_eq h.1) (fun i hi => ?_)
    (fun i hji hi => ?_)
  · rw [h.1] at hi
    rw [h.2 i hi, h'.2 i hi]
  · rw [h.1] at hji
    omega

/-- **A burst is told, wherever it lies**: over the word, the checksum
behind it, or both. -/
theorem checked_burst_eq {mask : ℕ → Bool} {checksum checksum' : List Bool}
    (h : register.Checked mask r word checksum) (h' : register.Checked mask r word' checksum')
    (hdiffer : DifferWithin width (word ++ checksum) (word' ++ checksum')) :
    word ++ checksum = word' ++ checksum' :=
  register.burst_eq hdiffer (register.feed_checked h h')

/-! ## Bits that come in together -/

theorem feed_replicate_false (n : ℕ) : ∀ r : R,
    register.feed r (List.replicate n false) = register.shift^[n] r := by
  induction n with
  | zero =>
    intro r
    rfl
  | succ n ih =>
    intro r
    have hsame : register.enter false r = r := register.ext fun i hi => by
      rw [register.cell_enter false r i hi, Bool.false_and, Bool.xor_false]
    rw [List.replicate_succ, feed_cons, hsame, ih, Function.iterate_succ_apply]

/-- A short word may come in at once, and be shifted through afterwards. -/
theorem feed_eq_iterate (hroom : word.length ≤ width)
    (hcells : ∀ i < width, register.cell s i = xor (register.cell r i) (word.getD i false)) :
    register.feed r word = register.shift^[word.length] s := by
  rw [← feed_replicate_false]
  refine register.feed_congr _ _ _ _ (List.length_replicate).symm hroom (fun i hi => ?_)
    (fun i hji hi => ?_)
  · rw [hcells i (by omega), List.getD_replicate _ hi, Bool.xor_false]
  · rw [hcells i hi, List.getD_eq_default _ _ hji, Bool.xor_false]

end ShiftRegister

end CanGui
