import CanGui.Common.Crc
import CanGui.Common.ShiftRegister
import Mathlib.Data.List.Induction
/-!
# The CRC-32 as a shift register

The bits of a byte array in the order the CRC-32 takes them in, low bit
first, and what follows for an array that carries its CRC-32 behind the
bytes it covers.
-/

namespace CanGui

namespace Bytes

/-- The bits of a byte, low bit first. -/
def byteBits (byte : UInt8) : List Bool := (List.range 8).map byte.toBitVec.getLsbD

def bits (data : Bytes) : List Bool := data.flatMap byteBits

variable {data data' : Bytes}

@[simp] theorem length_byteBits (byte : UInt8) : (byteBits byte).length = 8 := by
  rw [byteBits, List.length_map, List.length_range]

theorem getD_byteBits (byte : UInt8) (i : ℕ) :
    (byteBits byte).getD i false = byte.toBitVec.getLsbD i := by
  by_cases hi : i < 8
  · rw [byteBits, List.getD_eq_getElem?_getD, List.getElem?_map, List.getElem?_range hi]
    rfl
  · rw [List.getD_eq_default _ _ (by rw [length_byteBits]; omega),
      BitVec.getLsbD_of_ge _ _ (by omega)]

@[simp] theorem bits_nil : bits [] = [] := rfl

@[simp] theorem bits_cons (byte : UInt8) (data : Bytes) :
    bits (byte :: data) = byteBits byte ++ bits data := rfl

@[simp] theorem bits_append (data data' : Bytes) : bits (data ++ data') = bits data ++ bits data' :=
  List.flatMap_append

@[simp] theorem length_bits (data : Bytes) : (bits data).length = 8 * data.length := by
  induction data with
  | nil => rfl
  | cons byte data ih =>
    rw [bits_cons, List.length_append, ih, length_byteBits, List.length_cons]
    omega

theorem bits_take (data : Bytes) {n : ℕ} (hn : n ≤ data.length) :
    bits (data.take n) = (bits data).take (8 * n) := by
  conv_rhs => rw [← List.take_append_drop n data, bits_append]
  rw [List.take_left']
  rw [length_bits, List.length_take_of_le hn]

theorem byteBits_injective : Function.Injective byteBits := by
  intro byte byte' h
  rw [← UInt8.toBitVec_inj]
  refine BitVec.eq_of_getLsbD_eq fun i _ => ?_
  rw [← getD_byteBits, ← getD_byteBits, h]

theorem bits_injective (h : bits data = bits data') : data = data' := by
  induction data generalizing data' with
  | nil =>
    have hlength := congrArg List.length h
    rw [length_bits, length_bits] at hlength
    exact (List.length_eq_zero_iff.1 (by rw [List.length_nil] at hlength; omega)).symm
  | cons byte data ih =>
    cases data' with
    | nil =>
      have hlength := congrArg List.length h
      rw [length_bits, length_bits, List.length_cons, List.length_nil] at hlength
      omega
    | cons byte' data' =>
      rw [bits_cons, bits_cons] at h
      obtain ⟨hbyte, hdata⟩ := List.append_inj h (by rw [length_byteBits, length_byteBits])
      rw [byteBits_injective hbyte, ih hdata]

/-- A bit of a byte array is one of its byte's. -/
theorem getD_bits (data : Bytes) : ∀ i : ℕ,
    (bits data).getD i false = (data.at' (i / 8)).toBitVec.getLsbD (i % 8) := by
  induction data with
  | nil =>
    intro i
    rw [bits_nil, at', List.getD_nil, List.getD_nil]
    simp
  | cons byte data ih =>
    intro i
    rw [bits_cons]
    by_cases hi : i < 8
    · rw [List.getD_append _ _ _ _ (by rw [length_byteBits]; exact hi), getD_byteBits,
        Nat.div_eq_of_lt hi, Nat.mod_eq_of_lt hi, at', List.getD_cons_zero]
    · obtain ⟨k, rfl⟩ : ∃ k, i = k + 8 := ⟨i - 8, by omega⟩
      rw [List.getD_append_right _ _ _ _ (by rw [length_byteBits]; omega), length_byteBits,
        Nat.add_sub_cancel, ih, Nat.add_mod_right, Nat.add_div_right _ (by decide), at', at',
        List.getD_cons_succ]

end Bytes

/-! ## The register -/

theorem zero_sub_and_one (x : BitVec 32) :
    0 - (x &&& 1) = if x.getLsbD 0 then BitVec.allOnes 32 else 0 := by
  have hone : x &&& 1 = BitVec.setWidth 32 (BitVec.ofBool (x.getLsbD 0)) :=
    BitVec.and_one_eq_setWidth_ofBool_getLsbD
  rw [hone]
  cases x.getLsbD 0 <;> rfl

def crc32Register : ShiftRegister UInt32 32 where
  cell r i := r.toBitVec.getLsbD i
  tap i := (0xEDB88320 : BitVec 32).getLsbD i
  shift := crcBit
  enter b r := r ^^^ (if b then 1 else 0)
  pos := by decide
  ext h := UInt32.toBitVec_inj.1 (BitVec.eq_of_getLsbD_eq h)
  tap_last := by decide
  cell_shift r i hi := by
    have hbit : (crcBit r).toBitVec =
        (r.toBitVec >>> 1) ^^^ (0xEDB88320 &&& (0 - (r.toBitVec &&& 1))) := rfl
    rw [hbit, zero_sub_and_one, BitVec.getLsbD_xor, BitVec.getLsbD_ushiftRight, Nat.add_comm 1 i]
    congr 1
    · by_cases hlast : i + 1 < 32
      · rw [decide_eq_true hlast, Bool.true_and]
      · rw [decide_eq_false hlast, Bool.false_and, BitVec.getLsbD_of_ge _ _ (by omega)]
    · rw [BitVec.getLsbD_and]
      cases r.toBitVec.getLsbD 0 with
      | false => simp
      | true =>
        rw [if_pos rfl, BitVec.getLsbD_allOnes, decide_eq_true hi, Bool.and_true, Bool.true_and]
  cell_enter b r i hi := by
    cases b with
    | false => simp
    | true =>
      have hone : (1 : UInt32).toBitVec.getLsbD i = decide (i = 0) := by
        have hone : (1 : UInt32).toBitVec = 1#32 := rfl
        rw [hone, BitVec.getLsbD_one]
        simp
      rw [if_pos rfl, UInt32.toBitVec_xor, BitVec.getLsbD_xor, hone, Bool.true_and]

theorem crcByte_feed (crc : UInt32) (byte : UInt8) :
    crcByte crc byte = crc32Register.feed crc (Bytes.byteBits byte) := by
  have hcells : ∀ i < 32, crc32Register.cell (crc ^^^ byte.toUInt32) i =
      xor (crc32Register.cell crc i) ((Bytes.byteBits byte).getD i false) := by
    intro i hi
    have hbyte : (crc ^^^ byte.toUInt32).toBitVec = crc.toBitVec ^^^ byte.toBitVec.setWidth 32 := rfl
    rw [Bytes.getD_byteBits]
    change (crc ^^^ byte.toUInt32).toBitVec.getLsbD i = _
    rw [hbyte, BitVec.getLsbD_xor, BitVec.getLsbD_setWidth, decide_eq_true hi, Bool.true_and]
    rfl
  rw [crc32Register.feed_eq_iterate (by rw [Bytes.length_byteBits]; decide) hcells,
    Bytes.length_byteBits]
  rfl

theorem foldl_crcByte (data : Bytes) (crc : UInt32) :
    data.foldl crcByte crc = crc32Register.feed crc data.bits := by
  induction data generalizing crc with
  | nil => rfl
  | cons byte data ih =>
    rw [List.foldl_cons, ih, crcByte_feed, Bytes.bits_cons, ShiftRegister.feed_append]

/-! ## Bytes with their CRC-32 -/

theorem getD_bits_writeLe32 (value : UInt32) (i : ℕ) (hi : i < 32) :
    (Bytes.bits (writeLe32 value)).getD i false = value.toBitVec.getLsbD i := by
  have hmod : i % 8 < 8 := Nat.mod_lt i (by decide)
  have hsplit := Nat.div_add_mod i 8
  have hbyte : i / 8 = 0 ∨ i / 8 = 1 ∨ i / 8 = 2 ∨ i / 8 = 3 := by omega
  rw [Bytes.getD_bits]
  conv_rhs => rw [← hsplit]
  rcases hbyte with h | h | h | h <;> rw [h] <;> simp [Bytes.at', writeLe32, hmod]

/-- The four bytes behind those covered are their CRC-32. -/
theorem crc32_checked {data : Bytes} {n : ℕ} (hlength : n + 4 ≤ data.length)
    (h : calculateCrc32 data n = readLe32 (data.drop n)) :
    crc32Register.Checked (fun _ => true) 0xFFFFFFFF (Bytes.bits (data.take n))
      (Bytes.bits ((data.drop n).take 4)) := by
  have hroom : 4 ≤ (data.drop n).length := by
    rw [List.length_drop]
    omega
  have hword := writeLe32_readLe32 hroom
  rw [← h] at hword
  rw [← hword]
  refine ⟨by rw [Bytes.length_bits, length_writeLe32], fun i hi => ?_⟩
  have hcrc : (calculateCrc32 data n).toBitVec =
      ~~~(crc32Register.feed 0xFFFFFFFF (Bytes.bits (data.take n))).toBitVec := by
    unfold calculateCrc32
    rw [foldl_crcByte]
    rfl
  rw [getD_bits_writeLe32 _ i hi, hcrc, BitVec.getLsbD_not, decide_eq_true hi, Bool.true_and]
  exact Bool.xor_not_self _

theorem bits_take_checked {data : Bytes} {n : ℕ} (hlength : n + 4 ≤ data.length) :
    Bytes.bits (data.take n) ++ Bytes.bits ((data.drop n).take 4) =
      (Bytes.bits data).take (8 * (n + 4)) := by
  rw [← Bytes.bits_append, ← List.take_add, Bytes.bits_take data hlength]

/-- **A burst does not pass the CRC-32.** Of two byte arrays that differ
within 32 bits and both carry their CRC-32, the bytes covered and the
checksum are the same. -/
theorem crc32_burst {data data' : Bytes} {n : ℕ} (hlength : n + 4 ≤ data.length)
    (h : calculateCrc32 data n = readLe32 (data.drop n))
    (h' : calculateCrc32 data' n = readLe32 (data'.drop n))
    (hburst : ShiftRegister.DifferWithin 32 data.bits data'.bits) :
    data.take (n + 4) = data'.take (n + 4) := by
  have hlength' : n + 4 ≤ data'.length := by
    have hbits := hburst.1
    rw [Bytes.length_bits, Bytes.length_bits] at hbits
    omega
  have hcut := hburst.take (8 * (n + 4))
  rw [← bits_take_checked hlength, ← bits_take_checked hlength'] at hcut
  have hsame := crc32Register.checked_burst_eq (crc32_checked hlength h)
    (crc32_checked hlength' h') hcut
  rw [bits_take_checked hlength, bits_take_checked hlength', ← Bytes.bits_take data hlength,
    ← Bytes.bits_take data' hlength'] at hsame
  exact Bytes.bits_injective hsame

end CanGui
