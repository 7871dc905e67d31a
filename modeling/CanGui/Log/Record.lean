import CanGui.Common.Words
/-!
# Event log — a record and its slot

A record is eight words in retained storage. The last word holds the
CRC of the others and the commit marker, and is stored last.
-/

namespace CanGui

namespace Log

def logRecordMagic : UInt32 := 0x4C4F4731
def logCommitMarker : UInt16 := 0xA55A

/-- `App_Log_Record_t` -/
structure Record where
  magic : UInt32 := 0
  sequence : UInt32 := 0
  uptimeMs : UInt32 := 0
  rtcEpochS : UInt32 := 0
  eventCode : UInt16 := 0
  source : UInt8 := 0
  severity : UInt8 := 0
  data0 : UInt32 := 0
  data1 : UInt32 := 0
  crc16 : UInt16 := 0
  commitMarker : UInt16 := 0
  deriving DecidableEq, Repr, Inhabited

/-- `App_Log_StorageSlot_t`, as its words. -/
abbrev Slot := Vector UInt32 8

def emptySlot : Slot := .replicate 8 0

/-- The words of a record, as the union lays them out. -/
def Record.words (record : Record) : Slot :=
  #v[record.magic, record.sequence, record.uptimeMs, record.rtcEpochS,
    record.eventCode.toUInt32 ||| record.source.toUInt32 <<< 16 ||| record.severity.toUInt32 <<< 24,
    record.data0, record.data1,
    record.crc16.toUInt32 ||| record.commitMarker.toUInt32 <<< 16]

/-- The record a slot reads as. -/
def recordOf (slot : Slot) : Record where
  magic := slot[0]
  sequence := slot[1]
  uptimeMs := slot[2]
  rtcEpochS := slot[3]
  eventCode := slot[4].toUInt16
  source := (slot[4] >>> 16).toUInt8
  severity := (slot[4] >>> 24).toUInt8
  data0 := slot[5]
  data1 := slot[6]
  crc16 := slot[7].toUInt16
  commitMarker := (slot[7] >>> 16).toUInt16

/-- The bytes of a slot, low byte first. -/
def bytesOf (slot : Slot) : Bytes :=
  writeLe32 slot[0] ++ writeLe32 slot[1] ++ writeLe32 slot[2] ++ writeLe32 slot[3] ++
    writeLe32 slot[4] ++ writeLe32 slot[5] ++ writeLe32 slot[6] ++ writeLe32 slot[7]

/-! ## The checksum -/

def crcBit (crc : UInt16) : UInt16 :=
  if crc &&& 0x8000 ≠ 0 then (crc <<< 1) ^^^ 0x1021 else crc <<< 1

def crcBits : (bits : Nat) → UInt16 → UInt16
  | 0, crc => crc
  | bits + 1, crc => crcBits bits (crcBit crc)

/-- `App_Log_CalculateCrc16` -/
def calculateCrc16 (data : Bytes) : UInt16 :=
  data.foldl (fun (crc : UInt16) (byte : UInt8) => crcBits 8 (crc ^^^ (byte.toUInt16 <<< 8))) 0xFFFF

/-- What the checksum covers: the bytes before its own field. -/
def coveredBytes (slot : Slot) : Bytes := (bytesOf slot).take 28

/-- `App_Log_IsRecordValid` -/
def isRecordValid (slot : Slot) : Bool :=
  let record := recordOf slot
  record.magic == logRecordMagic && record.commitMarker == logCommitMarker &&
    calculateCrc16 (coveredBytes slot) == record.crc16

/-- The end of a push: the checksum and the marker go in. -/
def Record.sealed (record : Record) : Record :=
  { record with
    crc16 := calculateCrc16 (coveredBytes record.words)
    commitMarker := logCommitMarker }

variable {record : Record} {slot : Slot}

/-! ## Reading back -/

theorem toNat_packed (low : UInt16) (high : UInt16) :
    (low.toUInt32 ||| high.toUInt32 <<< 16).toNat = low.toNat + 65536 * high.toNat := by
  have hlow := low.toNat_lt
  have hhigh := high.toNat_lt
  simp only [UInt32.toNat_or, UInt32.toNat_shiftLeft, UInt16.toNat_toUInt32]
  simp only [UInt32.reduceToNat, Nat.reduceMod]
  have hshift : (high.toNat <<< 16) % 2 ^ 32 = high.toNat <<< 16 := by
    rw [Nat.shiftLeft_eq]
    omega
  rw [hshift, Nat.or_comm, ← Nat.shiftLeft_add_eq_or_of_lt hlow, Nat.shiftLeft_eq]
  omega

theorem toNat_packedBytes (low : UInt16) (middle high : UInt8) :
    (low.toUInt32 ||| middle.toUInt32 <<< 16 ||| high.toUInt32 <<< 24).toNat =
      low.toNat + 65536 * middle.toNat + 16777216 * high.toNat := by
  have hlow := low.toNat_lt
  have hmiddle := middle.toNat_lt
  have hhigh := high.toNat_lt
  simp only [UInt32.toNat_or, UInt32.toNat_shiftLeft, UInt16.toNat_toUInt32, UInt8.toNat_toUInt32]
  simp only [UInt32.reduceToNat, Nat.reduceMod]
  have hm : (middle.toNat <<< 16) % 2 ^ 32 = middle.toNat <<< 16 := by
    rw [Nat.shiftLeft_eq]
    omega
  have hh : (high.toNat <<< 24) % 2 ^ 32 = high.toNat <<< 24 := by
    rw [Nat.shiftLeft_eq]
    omega
  have hlm : low.toNat ||| middle.toNat <<< 16 = middle.toNat <<< 16 + low.toNat := by
    rw [Nat.or_comm, ← Nat.shiftLeft_add_eq_or_of_lt hlow]
  have hbound : middle.toNat <<< 16 + low.toNat < 2 ^ 24 := by
    rw [Nat.shiftLeft_eq]
    omega
  rw [hm, hh, hlm, Nat.or_comm, ← Nat.shiftLeft_add_eq_or_of_lt hbound, Nat.shiftLeft_eq,
    Nat.shiftLeft_eq]
  omega

/-- **A record reads back from its words.** -/
@[simp] theorem recordOf_words (record : Record) : recordOf record.words = record := by
  have hmeta := toNat_packedBytes record.eventCode record.source record.severity
  have hlast := toNat_packed record.crc16 record.commitMarker
  have hevent := record.eventCode.toNat_lt
  have hsource := record.source.toNat_lt
  have hseverity := record.severity.toNat_lt
  have hcrc := record.crc16.toNat_lt
  have hmarker := record.commitMarker.toNat_lt
  have heventCode : record.words[4].toUInt16 = record.eventCode := by
    apply UInt16.toNat_inj.1
    rw [UInt32.toNat_toUInt16]
    change (record.eventCode.toUInt32 ||| _ ||| _).toNat % _ = _
    omega
  have hsource' : (record.words[4] >>> 16).toUInt8 = record.source := by
    apply UInt8.toNat_inj.1
    rw [UInt32.toNat_toUInt8, UInt32.toNat_shiftRight, Nat.shiftRight_eq_div_pow]
    change (record.eventCode.toUInt32 ||| _ ||| _).toNat / 2 ^ 16 % _ = _
    omega
  have hseverity' : (record.words[4] >>> 24).toUInt8 = record.severity := by
    apply UInt8.toNat_inj.1
    rw [UInt32.toNat_toUInt8, UInt32.toNat_shiftRight, Nat.shiftRight_eq_div_pow]
    change (record.eventCode.toUInt32 ||| _ ||| _).toNat / 2 ^ 24 % _ = _
    omega
  have hcrc' : record.words[7].toUInt16 = record.crc16 := by
    apply UInt16.toNat_inj.1
    rw [UInt32.toNat_toUInt16]
    change (record.crc16.toUInt32 ||| _).toNat % _ = _
    omega
  have hmarker' : (record.words[7] >>> 16).toUInt16 = record.commitMarker := by
    apply UInt16.toNat_inj.1
    rw [UInt32.toNat_toUInt16, UInt32.toNat_shiftRight, Nat.shiftRight_eq_div_pow]
    change (record.crc16.toUInt32 ||| _).toNat / 2 ^ 16 % _ = _
    omega
  rw [recordOf, heventCode, hsource', hseverity', hcrc', hmarker']
  rfl

/-- The checksum does not cover the last word. -/
theorem coveredBytes_eq (slot : Slot) :
    coveredBytes slot = writeLe32 slot[0] ++ writeLe32 slot[1] ++ writeLe32 slot[2] ++
      writeLe32 slot[3] ++ writeLe32 slot[4] ++ writeLe32 slot[5] ++ writeLe32 slot[6] := by
  rw [coveredBytes, bytesOf]
  exact List.take_left' rfl

theorem coveredBytes_sealed (record : Record) :
    coveredBytes record.sealed.words = coveredBytes record.words := by
  rw [coveredBytes_eq, coveredBytes_eq]
  rfl

/-- **A sealed record is valid** in its slot. -/
theorem isRecordValid_sealed (hmagic : record.magic = logRecordMagic) :
    isRecordValid record.sealed.words = true := by
  have hcrc : record.sealed.crc16 = calculateCrc16 (coveredBytes record.sealed.words) := by
    rw [coveredBytes_sealed]
    rfl
  have hmagic' : record.sealed.magic = logRecordMagic := hmagic
  have hmarker : record.sealed.commitMarker = logCommitMarker := rfl
  simp [isRecordValid, hmagic', hmarker, hcrc]

/-- A slot whose last word is zero is not valid. -/
theorem isRecordValid_of_last_zero (h : slot[7] = 0) : isRecordValid slot = false := by
  have hmarker : (recordOf slot).commitMarker = 0 := by
    change (slot[7] >>> 16).toUInt16 = 0
    rw [h]
    rfl
  rw [isRecordValid, hmarker]
  have hne : ((0 : UInt16) == logCommitMarker) = false := rfl
  rw [hne, Bool.and_false, Bool.false_and]

/-! ## Storing a record -/

/-- The word stores of `App_Log_CommitRecord`, in order. -/
def commitStores (record : Record) : List (Nat × UInt32) :=
  [(7, 0), (0, record.words[0]), (1, record.words[1]), (2, record.words[2]), (3, record.words[3]),
    (4, record.words[4]), (5, record.words[5]), (6, record.words[6]), (7, record.words[7])]

/-- A slot after the first `stores` of them. -/
def commitRecord (slot : Slot) (record : Record) (stores : Nat) : Slot :=
  ((commitStores record).take stores).foldl (fun slot store => slot.setIfInBounds store.1 store.2) slot

/-- Nothing stored yet. -/
@[simp] theorem commitRecord_zero (slot : Slot) (record : Record) :
    commitRecord slot record 0 = slot := rfl

/-- **Every store done, the slot holds the record.** -/
theorem commitRecord_all {stores : Nat} (h : 9 ≤ stores) :
    commitRecord slot record stores = record.words := by
  have hall : (commitStores record).take stores = commitStores record :=
    List.take_of_length_le h
  rw [commitRecord, hall]
  apply Vector.ext
  intro i hi
  rcases i with _ | _ | _ | _ | _ | _ | _ | _ | i
  all_goals first | omega | simp [commitStores]

/-- **Some but not all done, the slot is not valid.** -/
theorem commitRecord_torn {stores : Nat} (hsome : 0 < stores) (hpart : stores < 9) :
    isRecordValid (commitRecord slot record stores) = false := by
  apply isRecordValid_of_last_zero
  rcases stores with _ | _ | _ | _ | _ | _ | _ | _ | _ | stores
  all_goals first | omega | simp [commitRecord, commitStores]

end Log

end CanGui
