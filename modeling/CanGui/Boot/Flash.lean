import CanGui.Boot.Record
/-!
# Boot flash — writing a boot-control record

`persistControl` erases the sector of one record, programs the three
units of its body, reads them back, programs the unit with the CRC and
the commit marker and reads the whole record back. The flash is behind
five callbacks, so the procedure is generic in the callbacks' context:
each answers and leaves a context behind.
-/

namespace CanGui

namespace BootFlash

open BootControl

/-! ## The memory map -/

def flashSectorSize : Nat := 0x2000
def programUnitSize : Nat := 16
def controlBaseAddress : Nat := 0x081E0000
def controlRecord0Address : Nat := controlBaseAddress
def controlRecord1Address : Nat := controlBaseAddress + flashSectorSize

def recordAddress (targetRecord : RecordIndex) : Nat :=
  if targetRecord = 0 then controlRecord0Address else controlRecord1Address

/-- The record without its last program unit. -/
def bodySize : Nat := recordSize - programUnitSize

def bodyUnitCount : Nat := bodySize / programUnitSize

/-! ## The backend -/

/-- The flash callbacks over a context `σ`. A read that fails answers
`none`. -/
structure FlashBackend (σ : Type*) where
  unlock : σ → Bool × σ
  lock : σ → Bool × σ
  eraseSector : σ → Nat → Bool × σ
  programUnit : σ → Nat → Bytes → Bool × σ
  read : σ → Nat → Nat → Option Bytes × σ

inductive FlashResult where
  | ok
  | invalidArgument
  | invalidState
  | unlockFailed
  | eraseFailed
  | eraseVerifyFailed
  | bodyProgramFailed
  | bodyVerifyFailed
  | commitProgramFailed
  | finalVerifyFailed
  | lockFailed
  deriving DecidableEq, Repr

structure FlashEvidence where
  recordAddress : Nat := 0
  targetRecord : UInt8 := 0xFF
  bodyUnitsProgrammed : Nat := 0
  commitProgrammed : Bool := false
  locked : Bool := false
  deriving DecidableEq, Repr

variable {σ : Type*}

/-! ## The procedure -/

/-- The units from `unit` on, compared with what they should read. -/
def verifyUnits (backend : FlashBackend σ) (address : Nat) (expected : Bytes) :
    Nat → Nat → σ → Bool × σ
  | 0, _, s => (true, s)
  | units + 1, unit, s =>
    match backend.read s (address + unit * programUnitSize) programUnitSize with
    | (none, s) => (false, s)
    | (some readback, s) =>
      if readback = (expected.drop (unit * programUnitSize)).take programUnitSize then
        verifyUnits backend address expected units (unit + 1) s
      else
        (false, s)

def verifyRange (backend : FlashBackend σ) (address : Nat) (expected : Bytes) (length : Nat)
    (s : σ) : Bool × σ :=
  verifyUnits backend address expected (length / programUnitSize) 0 s

def verifyErasedRecord (backend : FlashBackend σ) (address : Nat) (s : σ) : Bool × σ :=
  verifyRange backend address (List.replicate recordSize 0xFF) recordSize s

/-- The body units from `unit` on, and how many of them went in. -/
def programUnits (backend : FlashBackend σ) (address : Nat) (record : Bytes) :
    Nat → Nat → σ → Bool × Nat × σ
  | 0, unit, s => (true, unit, s)
  | units + 1, unit, s =>
    match backend.programUnit s (address + unit * programUnitSize)
        ((record.drop (unit * programUnitSize)).take programUnitSize) with
    | (false, s) => (false, unit, s)
    | (true, s) => programUnits backend address record units (unit + 1) s

/-- The commit unit, once the body has been read back, and the final
check of the whole record. -/
def commitRecord (backend : FlashBackend σ) (address : Nat) (record : Record)
    (evidence : FlashEvidence) (s : σ) : FlashResult × FlashEvidence × σ :=
  let record := markRecordCommitted record
  match backend.programUnit s (address + bodySize) (record.bytes.drop bodySize) with
  | (false, s) => (.commitProgramFailed, evidence, s)
  | (true, s) =>
    let evidence := { evidence with commitProgrammed := true }
    match verifyRange backend address record.bytes recordSize s with
    | (false, s) => (.finalVerifyFailed, evidence, s)
    | (true, s) => (.ok, evidence, s)

/-- The body, from a sector verified erased to a body verified
programmed. -/
def writeBody (backend : FlashBackend σ) (address : Nat) (record : Record)
    (evidence : FlashEvidence) (s : σ) : FlashResult × FlashEvidence × σ :=
  match programUnits backend address record.bytes bodyUnitCount 0 s with
  | (programmed, count, s) =>
    let evidence := { evidence with bodyUnitsProgrammed := count }
    if !programmed then
      (.bodyProgramFailed, evidence, s)
    else
      match verifyRange backend address record.bytes bodySize s with
      | (false, s) => (.bodyVerifyFailed, evidence, s)
      | (true, s) => commitRecord backend address record evidence s

def writeRecord (backend : FlashBackend σ) (address : Nat) (record : Record)
    (evidence : FlashEvidence) (s : σ) : FlashResult × FlashEvidence × σ :=
  match backend.eraseSector s address with
  | (false, s) => (.eraseFailed, evidence, s)
  | (true, s) =>
    match verifyErasedRecord backend address s with
    | (false, s) => (.eraseVerifyFailed, evidence, s)
    | (true, s) => writeBody backend address record evidence s

def finish (backend : FlashBackend σ) (result : FlashResult) (evidence : FlashEvidence)
    (s : σ) : FlashResult × FlashEvidence × σ :=
  match backend.lock s with
  | (false, s) => (.lockFailed, evidence, s)
  | (true, s) => (result, { evidence with locked := true }, s)

def persistControl (backend : FlashBackend σ) (state : ControlState)
    (targetRecord : RecordIndex) (s : σ) : FlashResult × FlashEvidence × σ :=
  match prepareRecord state with
  | .error _ => (.invalidState, {}, s)
  | .ok record =>
    let address := recordAddress targetRecord
    let evidence : FlashEvidence :=
      { recordAddress := address, targetRecord := targetRecord.val.toUInt8 }
    match backend.unlock s with
    | (false, s) => finish backend .unlockFailed evidence s
    | (true, s) =>
      match writeRecord backend address record evidence s with
      | (result, evidence, s) => finish backend result evidence s

end BootFlash

end CanGui
