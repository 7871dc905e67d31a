import Mathlib.Data.List.Basic
import Mathlib.Tactic.IntervalCases
import Mathlib.Tactic.Ring
/-!
# Words and bytes

The byte orders a record or a request is laid out in, and the signed
comparison of two points of a wrapping 32-bit counter.
-/

namespace CanGui

/-- A byte array. -/
abbrev Bytes := List UInt8

namespace Bytes

/-- The byte at an index, as `data[i]`. -/
def at' (data : Bytes) (i : Nat) : UInt8 := data.getD i 0

end Bytes

/-! ## Little and big endian -/

/-- The 16-bit word whose low byte comes first. -/
def readLe16 (data : Bytes) : UInt16 :=
  (data.at' 0).toUInt16 ||| ((data.at' 1).toUInt16 <<< 8)

/-- The 32-bit word whose low byte comes first. -/
def readLe32 (data : Bytes) : UInt32 :=
  (data.at' 0).toUInt32 ||| ((data.at' 1).toUInt32 <<< 8) |||
    ((data.at' 2).toUInt32 <<< 16) ||| ((data.at' 3).toUInt32 <<< 24)

/-- The 32-bit word whose high byte comes first. -/
def readBe32 (data : Bytes) : UInt32 :=
  ((data.at' 0).toUInt32 <<< 24) ||| ((data.at' 1).toUInt32 <<< 16) |||
    ((data.at' 2).toUInt32 <<< 8) ||| (data.at' 3).toUInt32

def writeLe16 (value : UInt16) : Bytes := [value.toUInt8, (value >>> 8).toUInt8]

def writeLe32 (value : UInt32) : Bytes :=
  [value.toUInt8, (value >>> 8).toUInt8, (value >>> 16).toUInt8, (value >>> 24).toUInt8]

def writeBe16 (value : UInt16) : Bytes := [(value >>> 8).toUInt8, value.toUInt8]

def writeBe32 (value : UInt32) : Bytes :=
  [(value >>> 24).toUInt8, (value >>> 16).toUInt8, (value >>> 8).toUInt8, value.toUInt8]

theorem or_bytes (a b c d : Nat) (ha : a < 256) (hb : b < 256) (hc : c < 256) :
    a ||| b <<< 8 ||| c <<< 16 ||| d <<< 24 = a + 256 * b + 65536 * c + 16777216 * d := by
  have h1 : a ||| b <<< 8 = b <<< 8 + a := by
    rw [Nat.shiftLeft_add_eq_or_of_lt (by omega : a < 2 ^ 8), Nat.or_comm]
  have h2 : b <<< 8 + a ||| c <<< 16 = c <<< 16 + (b <<< 8 + a) := by
    have : b <<< 8 + a < 2 ^ 16 := by rw [Nat.shiftLeft_eq]; omega
    rw [Nat.shiftLeft_add_eq_or_of_lt this, Nat.or_comm]
  have h3 : c <<< 16 + (b <<< 8 + a) ||| d <<< 24 = d <<< 24 + (c <<< 16 + (b <<< 8 + a)) := by
    have : c <<< 16 + (b <<< 8 + a) < 2 ^ 24 := by simp only [Nat.shiftLeft_eq]; omega
    rw [Nat.shiftLeft_add_eq_or_of_lt this, Nat.or_comm]
  rw [h1, h2, h3]
  simp only [Nat.shiftLeft_eq]
  omega

/-- The value a little-endian word denotes. -/
theorem toNat_readLe32 (data : Bytes) :
    (readLe32 data).toNat = (data.at' 0).toNat + 256 * (data.at' 1).toNat +
      65536 * (data.at' 2).toNat + 16777216 * (data.at' 3).toNat := by
  have h0 := (data.at' 0).toNat_lt
  have h1 := (data.at' 1).toNat_lt
  have h2 := (data.at' 2).toNat_lt
  have h3 := (data.at' 3).toNat_lt
  rw [← or_bytes _ _ _ _ h0 h1 h2]
  simp only [readLe32, UInt32.toNat_or, UInt32.toNat_shiftLeft, UInt8.toNat_toUInt32]
  simp only [UInt32.reduceToNat, Nat.reduceMod, Nat.shiftLeft_eq]
  rw [Nat.mod_eq_of_lt (by omega), Nat.mod_eq_of_lt (by omega), Nat.mod_eq_of_lt (by omega)]

/-- **A little-endian word reads back.** -/
@[simp] theorem readLe32_writeLe32 (v : UInt32) (tail : Bytes) :
    readLe32 (writeLe32 v ++ tail) = v := by
  rw [← UInt32.toNat_inj, toNat_readLe32]
  have := v.toNat_lt
  simp only [writeLe32, Bytes.at', List.cons_append, List.nil_append, List.getD_cons_zero,
    List.getD_cons_succ, UInt32.toNat_toUInt8, UInt32.toNat_shiftRight, UInt32.reduceToNat,
    Nat.reduceMod, Nat.shiftRight_eq_div_pow]
  omega

theorem toNat_readLe16 (data : Bytes) :
    (readLe16 data).toNat = (data.at' 0).toNat + 256 * (data.at' 1).toNat := by
  have h0 := (data.at' 0).toNat_lt
  have h1 := (data.at' 1).toNat_lt
  simp only [readLe16, UInt16.toNat_or, UInt16.toNat_shiftLeft, UInt8.toNat_toUInt16]
  simp only [UInt16.reduceToNat, Nat.reduceMod]
  have : ((data.at' 1).toNat <<< 8) % 2 ^ 16 = (data.at' 1).toNat <<< 8 := by
    rw [Nat.shiftLeft_eq]; omega
  rw [this, Nat.or_comm, ← Nat.shiftLeft_add_eq_or_of_lt h0, Nat.shiftLeft_eq]
  omega

/-- A 16-bit word put together from its bytes. -/
theorem toNat_highLow (high low : UInt8) :
    (high.toUInt16 <<< 8 ||| low.toUInt16).toNat = high.toNat * 256 + low.toNat := by
  have hhigh := high.toNat_lt
  have hlow := low.toNat_lt
  simp only [UInt16.toNat_or, UInt16.toNat_shiftLeft, UInt8.toNat_toUInt16]
  simp only [UInt16.reduceToNat, Nat.reduceMod]
  have hshift : (high.toNat <<< 8) % 2 ^ 16 = high.toNat <<< 8 := by
    rw [Nat.shiftLeft_eq]; omega
  rw [hshift, ← Nat.shiftLeft_add_eq_or_of_lt hlow, Nat.shiftLeft_eq]

@[simp] theorem readLe16_writeLe16 (v : UInt16) (tail : Bytes) :
    readLe16 (writeLe16 v ++ tail) = v := by
  rw [← UInt16.toNat_inj, toNat_readLe16]
  have := v.toNat_lt
  simp only [writeLe16, Bytes.at', List.cons_append, List.nil_append, List.getD_cons_zero,
    List.getD_cons_succ, UInt16.toNat_toUInt8, UInt16.toNat_shiftRight, UInt16.reduceToNat,
    Nat.reduceMod, Nat.shiftRight_eq_div_pow]
  omega

@[simp] theorem length_writeLe32 (v : UInt32) : (writeLe32 v).length = 4 := rfl
@[simp] theorem length_writeLe16 (v : UInt16) : (writeLe16 v).length = 2 := rfl
@[simp] theorem length_writeBe32 (v : UInt32) : (writeBe32 v).length = 4 := rfl

/-! ## Taking a byte array apart, a word at a time -/

/-- A little-endian word is all of its four bytes. -/
theorem writeLe32_readLe32 {data : Bytes} (h : 4 ≤ data.length) :
    writeLe32 (readLe32 data) = data.take 4 := by
  obtain ⟨a, b, c, d, tail, rfl⟩ : ∃ a b c d tail, data = a :: b :: c :: d :: tail := by
    match data, h with
    | a :: b :: c :: d :: tail, _ => exact ⟨a, b, c, d, tail, rfl⟩
  have hvalue := toNat_readLe32 (a :: b :: c :: d :: tail)
  have ha := a.toNat_lt
  have hb := b.toNat_lt
  have hc := c.toNat_lt
  have hd := d.toNat_lt
  simp only [Bytes.at', List.getD_cons_zero, List.getD_cons_succ] at hvalue
  simp only [writeLe32, List.take_succ_cons, List.take_zero, List.cons.injEq, and_true,
    ← UInt8.toNat_inj, UInt32.toNat_toUInt8, UInt32.toNat_shiftRight, UInt32.reduceToNat,
    Nat.reduceMod, Nat.shiftRight_eq_div_pow, hvalue]
  omega

theorem writeLe16_readLe16 {data : Bytes} (h : 2 ≤ data.length) :
    writeLe16 (readLe16 data) = data.take 2 := by
  obtain ⟨a, b, tail, rfl⟩ : ∃ a b tail, data = a :: b :: tail := by
    match data, h with
    | a :: b :: tail, _ => exact ⟨a, b, tail, rfl⟩
  have hvalue := toNat_readLe16 (a :: b :: tail)
  have ha := a.toNat_lt
  have hb := b.toNat_lt
  simp only [Bytes.at', List.getD_cons_zero, List.getD_cons_succ] at hvalue
  simp only [writeLe16, List.take_succ_cons, List.take_zero, List.cons.injEq, and_true,
    ← UInt8.toNat_inj, UInt16.toNat_toUInt8, UInt16.toNat_shiftRight, UInt16.reduceToNat,
    Nat.reduceMod, Nat.shiftRight_eq_div_pow, hvalue]
  omega

/-- What is left at an offset is the word there and what is left after
it. -/
theorem drop_eq_le32 {data : Bytes} {n : Nat} (h : n + 4 ≤ data.length) :
    data.drop n = writeLe32 (readLe32 (data.drop n)) ++ data.drop (n + 4) := by
  rw [writeLe32_readLe32 (by rw [List.length_drop]; omega), ← List.drop_drop,
    List.take_append_drop]

theorem drop_eq_le16 {data : Bytes} {n : Nat} (h : n + 2 ≤ data.length) :
    data.drop n = writeLe16 (readLe16 (data.drop n)) ++ data.drop (n + 2) := by
  rw [writeLe16_readLe16 (by rw [List.length_drop]; omega), ← List.drop_drop,
    List.take_append_drop]

theorem drop_eq_byte {data : Bytes} {n : Nat} (h : n < data.length) :
    data.drop n = data.at' n :: data.drop (n + 1) := by
  rw [List.drop_eq_getElem_cons h]
  simp [Bytes.at', h]

/-! ## Signed comparison of a wrapping counter -/

/-- A 32-bit difference is positive as a signed number when it lies in
the lower half of the range. -/
theorem toInt32_pos_iff (x : UInt32) : 0 < x.toInt32 ↔ 0 < x.toNat ∧ x.toNat < 2 ^ 31 := by
  have := x.toNat_lt
  rw [Int32.lt_iff_toInt_lt]
  simp only [UInt32.toInt32, Int32.toInt, Int32.toBitVec]
  simp [BitVec.toInt]
  split <;> omega

theorem toInt32_nonneg_iff (x : UInt32) : 0 ≤ x.toInt32 ↔ x.toNat < 2 ^ 31 := by
  have := x.toNat_lt
  rw [Int32.le_iff_toInt_le]
  simp only [UInt32.toInt32, Int32.toInt, Int32.toBitVec]
  simp [BitVec.toInt]
  split <;> omega

/-- The signed difference of two times tells which is later, while they
are less than half a round apart. -/
theorem toInt32_sub_nonneg_iff {now deadline : Nat} (hbefore : deadline ≤ now + 2 ^ 31)
    (hafter : now < deadline + 2 ^ 31) :
    0 ≤ (UInt32.ofNat now - UInt32.ofNat deadline).toInt32 ↔ deadline ≤ now := by
  rw [toInt32_nonneg_iff, UInt32.toNat_sub, UInt32.toNat_ofNat', UInt32.toNat_ofNat']
  omega

theorem ofNat_add_toNat (n : Nat) (x : UInt32) :
    UInt32.ofNat n + x = UInt32.ofNat (n + x.toNat) := by
  apply UInt32.toNat_inj.1
  rw [UInt32.toNat_add, UInt32.toNat_ofNat', UInt32.toNat_ofNat']
  omega

end CanGui
