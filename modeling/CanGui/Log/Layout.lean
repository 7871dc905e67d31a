import CanGui.Common.Assembly
import CanGui.Log.Sync
/-!
# Event log — one layout on both sides

The firmware and the GUI lay out a record alike and compute one checksum,
and the fragments of a message make the message again.
-/

namespace CanGui

namespace Log

/-! ## One layout -/

theorem writeLe32_packed (low high : UInt16) :
    writeLe32 (low.toUInt32 ||| high.toUInt32 <<< 16) = writeLe16 low ++ writeLe16 high := by
  have hvalue := toNat_packed low high
  have hlow := low.toNat_lt
  have hhigh := high.toNat_lt
  generalize low.toUInt32 ||| high.toUInt32 <<< 16 = value at *
  simp only [writeLe32, writeLe16, List.cons_append, List.nil_append, List.cons.injEq, and_true]
  refine ⟨?_, ?_, ?_, ?_⟩ <;> apply UInt8.toNat_inj.1 <;>
    simp [Nat.shiftRight_eq_div_pow] <;> omega

theorem writeLe32_packedBytes (low : UInt16) (middle high : UInt8) :
    writeLe32 (low.toUInt32 ||| middle.toUInt32 <<< 16 ||| high.toUInt32 <<< 24) =
      writeLe16 low ++ [middle, high] := by
  have hvalue := toNat_packedBytes low middle high
  have hlow := low.toNat_lt
  have hmiddle := middle.toNat_lt
  have hhigh := high.toNat_lt
  generalize low.toUInt32 ||| middle.toUInt32 <<< 16 ||| high.toUInt32 <<< 24 = value at *
  simp only [writeLe32, writeLe16, List.cons_append, List.nil_append, List.cons.injEq, and_true]
  refine ⟨?_, ?_, ?_, ?_⟩ <;> apply UInt8.toNat_inj.1 <;>
    simp [Nat.shiftRight_eq_div_pow] <;> omega

/-- The thirty-two bytes of a record. -/
theorem bytesOf_words (record : Record) :
    bytesOf record.words = writeLe32 record.magic ++ (writeLe32 record.sequence ++
      (writeLe32 record.uptimeMs ++ (writeLe32 record.rtcEpochS ++ (writeLe16 record.eventCode ++
        (record.source :: record.severity :: (writeLe32 record.data0 ++ (writeLe32 record.data1 ++
          (writeLe16 record.crc16 ++ writeLe16 record.commitMarker)))))))) := by
  have hmeta := writeLe32_packedBytes record.eventCode record.source record.severity
  have hlast := writeLe32_packed record.crc16 record.commitMarker
  change writeLe32 record.magic ++ writeLe32 record.sequence ++ writeLe32 record.uptimeMs ++
    writeLe32 record.rtcEpochS ++ writeLe32 (record.eventCode.toUInt32 ||| _ ||| _) ++
    writeLe32 record.data0 ++ writeLe32 record.data1 ++
    writeLe32 (record.crc16.toUInt32 ||| _) = _
  rw [hmeta, hlast]
  simp only [List.append_assoc, List.cons_append, List.nil_append]

theorem length_bytesOf (slot : Slot) : (bytesOf slot).length = 32 := rfl

/-- **What the firmware lays out, the GUI reads.** -/
theorem unpack_bytesOf (record : Record) :
    Sync.unpack (bytesOf record.words) = some record := by
  rw [Sync.unpack, if_pos (length_bytesOf _), bytesOf_words]
  have hcommit : readLe16 (writeLe16 record.commitMarker) = record.commitMarker := by
    have hread := readLe16_writeLe16 record.commitMarker []
    rwa [List.append_nil] at hread
  congr 1
  change Record.mk (readLe32 (writeLe32 record.magic ++ _))
    (readLe32 (writeLe32 record.sequence ++ _)) (readLe32 (writeLe32 record.uptimeMs ++ _))
    (readLe32 (writeLe32 record.rtcEpochS ++ _)) (readLe16 (writeLe16 record.eventCode ++ _))
    record.source record.severity (readLe32 (writeLe32 record.data0 ++ _))
    (readLe32 (writeLe32 record.data1 ++ _)) (readLe16 (writeLe16 record.crc16 ++ _))
    (readLe16 (writeLe16 record.commitMarker)) = record
  rw [readLe32_writeLe32, readLe32_writeLe32, readLe32_writeLe32, readLe32_writeLe32,
    readLe16_writeLe16, readLe32_writeLe32, readLe32_writeLe32, readLe16_writeLe16, hcommit]

/-! ## One checksum -/

theorem toNat_crcBit (crc : UInt16) : (crcBit crc).toNat = Sync.crcBit crc.toNat := by
  have hshift : (crc <<< 1).toNat = crc.toNat <<< 1 % 2 ^ 16 := UInt16.toNat_shiftLeft crc 1
  have hmask (value : Nat) : value &&& 0xFFFF = value % 2 ^ 16 :=
    Nat.and_two_pow_sub_one_eq_mod value 16
  have htop : (crc &&& 0x8000 ≠ 0) ↔ (crc.toNat &&& 0x8000 ≠ 0) := by
    rw [ne_eq, ne_eq, ← UInt16.toNat_inj, UInt16.toNat_and]
    rfl
  unfold crcBit Sync.crcBit
  by_cases h : crc &&& 0x8000 ≠ 0
  · rw [if_pos h, if_pos (htop.1 h), hmask, Nat.xor_mod_two_pow, UInt16.toNat_xor, hshift]
    rfl
  · rw [if_neg h, if_neg (mt htop.2 h), hmask, hshift]

theorem toNat_crcBits (bits : Nat) (crc : UInt16) :
    (crcBits bits crc).toNat = Sync.crcBits bits crc.toNat := by
  induction bits generalizing crc with
  | zero => rfl
  | succ bits ih => rw [crcBits, Sync.crcBits, ih, toNat_crcBit]

/-- **The two loops compute one checksum.** -/
theorem toNat_calculateCrc16 (data : Bytes) :
    (calculateCrc16 data).toNat = Sync.calculateCrc16 data := by
  have hfold : ∀ (data : Bytes) (crc : UInt16),
      (data.foldl (fun (crc : UInt16) (byte : UInt8) =>
        crcBits 8 (crc ^^^ (byte.toUInt16 <<< 8))) crc).toNat =
      data.foldl (fun (crc : Nat) (byte : UInt8) =>
        Sync.crcBits 8 (crc ^^^ (byte.toNat <<< 8))) crc.toNat := by
    intro data
    induction data with
    | nil => exact fun _ => rfl
    | cons byte data ih =>
      intro crc
      have hbyte : (byte.toUInt16 <<< 8).toNat = byte.toNat <<< 8 := by
        have hlt := byte.toNat_lt
        have hshift : (byte.toUInt16 <<< 8).toNat = byte.toNat <<< 8 % 2 ^ 16 :=
          UInt16.toNat_shiftLeft byte.toUInt16 8
        rw [hshift, Nat.shiftLeft_eq]
        omega
      rw [List.foldl_cons, List.foldl_cons, ih, toNat_crcBits, UInt16.toNat_xor, hbyte]
  exact hfold data 0xFFFF

/-! ## The pieces -/

/-- The bytes of a fragment behind its header. -/
def piece (bytes : Bytes) (index : Nat) : Bytes :=
  (List.range logFragmentDataSize).map fun k => bytes.at' (index * logFragmentDataSize + k)

theorem fragment_toList (fragmentBase : UInt8) (bytes : Bytes) (index : Nat) :
    (fragment fragmentBase bytes index).toList =
      (fragmentBase ||| index.toUInt8) :: piece bytes index := by
  have hfill (source : Nat) : (if source < bytes.length then bytes.at' source else 0) =
      bytes.at' source := by
    split
    · rfl
    · next hout =>
      rw [Bytes.at', List.getD_eq_getElem?_getD, List.getElem?_eq_none (Nat.le_of_not_lt hout)]
      rfl
  rw [fragment, Vector.toList_ofFn, List.ofFn_succ]
  congr 1
  apply List.ext_getElem
  · rw [List.length_ofFn, piece, List.length_map, List.length_range]
    rfl
  · intro k _ _
    simp only [List.getElem_ofFn, Fin.val_succ]
    rw [if_neg (Nat.succ_ne_zero k), hfill]
    simp [piece]

/-- **The pieces make the message**, cut to its length. -/
theorem take_join {n : Nat} {fragments : Sync.Fragments n} {bytes : Bytes}
    (hall : ∀ i (h : i < n), fragments[i] = some (piece bytes i))
    (hlength : bytes.length ≤ n * logFragmentDataSize) :
    fragments.join.take bytes.length = bytes := by
  have hlist : fragments.toList = (List.range n).map fun i => some (piece bytes i) := by
    apply List.ext_getElem
    · simp
    · intro i hi _
      have hin : i < n := by simpa using hi
      rw [Vector.getElem_toList, hall i hin, List.getElem_map, List.getElem_range]
  have hjoin : fragments.join = (List.range n).flatMap (piece bytes) := by
    rw [Sync.Fragments.join, hlist, List.flatMap_map]
    rfl
  have hwindows := flatMap_windows bytes.at' logFragmentDataSize n
  rw [hjoin]
  exact (congrArg (List.take bytes.length) hwindows).trans (take_map_getD bytes 0 hlength)

theorem length_eq_iff {n : Nat} {fragments : Sync.Fragments n} :
    fragments.length = n ↔ ∀ i (h : i < n), fragments[i].isSome = true := by
  have hsize : fragments.toList.length = n := by simp
  rw [Sync.Fragments.length]
  constructor
  · intro hcount i hi
    have hall := List.countP_eq_length.1 (hcount.trans hsize.symm)
    exact hall _ (by simp)
  · intro hall
    refine (List.countP_eq_length.2 fun fragment hfragment => ?_).trans hsize
    obtain ⟨i, hi, rfl⟩ := List.getElem_of_mem hfragment
    rw [Vector.getElem_toList]
    exact hall i (hsize ▸ hi)

end Log

end CanGui
