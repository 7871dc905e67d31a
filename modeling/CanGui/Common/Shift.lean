import Mathlib.Data.List.GetD
import Mathlib.Data.List.TakeDrop
/-!
# Shifting inside an array

An array that holds a queue in its first `count` places closes a gap by
moving what is behind it down, and opens one by moving it up, place by
place. On the places in use these loops erase and insert.
-/

namespace CanGui

variable {α : Type*} [Inhabited α] {slots : List α} {i j n count : ℕ} {a : α}

/-- `n` places from `i` on take what is behind them. -/
def shiftDown (slots : List α) (i : ℕ) : ℕ → List α
  | 0 => slots
  | n + 1 => shiftDown (slots.set i (slots.getD (i + 1) default)) (i + 1) n

/-- The `n` places behind `i` take what is before them, the last first. -/
def shiftUp (slots : List α) (i : ℕ) : ℕ → List α
  | 0 => slots
  | n + 1 => shiftUp (slots.set (i + n + 1) (slots.getD (i + n) default)) i n

@[simp] theorem length_shiftDown (slots : List α) (i n : ℕ) :
    (shiftDown slots i n).length = slots.length := by
  induction n generalizing slots i with
  | zero => rfl
  | succ n ih => rw [shiftDown, ih, List.length_set]

@[simp] theorem length_shiftUp (slots : List α) (i n : ℕ) :
    (shiftUp slots i n).length = slots.length := by
  induction n generalizing slots with
  | zero => rfl
  | succ n ih => rw [shiftUp, ih, List.length_set]

/-- Reading a place that is there, after another was set. -/
theorem getElem?_set_getD {k : ℕ} (hi : i < slots.length) (hk : k < slots.length) :
    (slots.set i (slots.getD k default))[j]? = if j = i then slots[k]? else slots[j]? := by
  rw [List.getElem?_set]
  by_cases hj : i = j
  · have hd : slots.getD k default = slots[k] := by
      rw [List.getD_eq_getElem?_getD, List.getElem?_eq_getElem hk, Option.getD_some]
    rw [if_pos hj, if_pos hi, if_pos hj.symm, hd, List.getElem?_eq_getElem hk]
  · rw [if_neg hj, if_neg (Ne.symm hj)]

theorem getElem?_shiftDown (h : i + n < slots.length) :
    (shiftDown slots i n)[j]? = if i ≤ j ∧ j < i + n then slots[j + 1]? else slots[j]? := by
  induction n generalizing slots i with
  | zero =>
    have hout : ¬(i ≤ j ∧ j < i + 0) := by omega
    rw [if_neg hout, shiftDown]
  | succ n ih =>
    have hi : i < slots.length := by omega
    have hnext : i + 1 < slots.length := by omega
    rw [shiftDown, ih (by rw [List.length_set]; omega), getElem?_set_getD hi hnext,
      getElem?_set_getD hi hnext]
    by_cases hj : j = i
    · subst hj
      rw [if_neg (by omega), if_pos rfl, if_pos (by omega)]
    · -- the place just set is not read again
      rw [if_neg hj]
      grind

theorem getElem?_shiftUp (h : i + n < slots.length) :
    (shiftUp slots i n)[j]? = if i < j ∧ j ≤ i + n then slots[j - 1]? else slots[j]? := by
  induction n generalizing slots with
  | zero =>
    have hout : ¬(i < j ∧ j ≤ i + 0) := by omega
    rw [if_neg hout, shiftUp]
  | succ n ih =>
    have hlast : i + n + 1 < slots.length := by omega
    have hbefore : i + n < slots.length := by omega
    rw [shiftUp, ih (by rw [List.length_set]; omega), getElem?_set_getD hlast hbefore,
      getElem?_set_getD hlast hbefore]
    grind

/-- **Closing a gap erases.** -/
theorem take_shiftDown (hi : i < count) (hcount : count ≤ slots.length) :
    (shiftDown slots i (count - 1 - i)).take (count - 1) =
      (slots.take count).take i ++ (slots.take count).drop (i + 1) := by
  rw [← List.eraseIdx_eq_take_drop_succ]
  apply List.ext_getElem?
  intro j
  rw [List.getElem?_take, List.getElem?_eraseIdx, List.getElem?_take, List.getElem?_take,
    getElem?_shiftDown (by omega)]
  grind

/-- **Opening a gap and filling it inserts.** -/
theorem take_shiftUp (hi : i ≤ count) (hcount : count < slots.length) :
    ((shiftUp slots i (count - i)).set i a).take (count + 1) =
      (slots.take count).take i ++ a :: (slots.take count).drop i := by
  apply List.ext_getElem?
  intro j
  have hlength : ((slots.take count).take i).length = i := by
    rw [List.length_take, List.length_take]
    omega
  rw [List.getElem?_take, List.getElem?_set, length_shiftUp, getElem?_shiftUp (by omega),
    List.getElem?_append, hlength, List.getElem?_take, List.getElem?_take, List.getElem?_cons,
    List.getElem?_drop, List.getElem?_take]
  grind

omit [Inhabited α] in
/-- **Setting a place in use.** -/
theorem take_set (hi : i < count) (hcount : count ≤ slots.length) :
    (slots.set i a).take count =
      (slots.take count).take i ++ a :: (slots.take count).drop (i + 1) := by
  rw [List.take_set, List.set_eq_take_append_cons_drop, if_pos (by rw [List.length_take]; omega)]

end CanGui
