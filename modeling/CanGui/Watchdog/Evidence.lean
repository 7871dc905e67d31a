import CanGui.Common.Counter
import CanGui.Common.Crc
/-!
# Watchdog evidence

What the watchdog gate found last is kept in memory that survives the
reset. A boot that follows a watchdog reset takes it into its evidence,
and every boot goes on from its number.
-/

namespace CanGui

namespace Watchdog

def evidenceMagic : UInt32 := 0x57444752
def evidenceVersion : UInt16 := 1
def evidenceSize : UInt16 := 44
def evidenceCommitMarker : UInt32 := 0xC35AA53C
def checksumOffset : Nat := 36

inductive EvidenceCause where
  | none
  | hardStall
  | healthGateRejected
  | refreshError
  deriving DecidableEq, Repr

def EvidenceCause.code : EvidenceCause → UInt32
  | none => 0
  | hardStall => 1
  | healthGateRejected => 2
  | refreshError => 3

/-- What a health check found: the arguments of a record. -/
structure Finding where
  cause : UInt32 := 0
  requiredHeartbeatMask : UInt32 := 0
  observedHeartbeatMask : UInt32 := 0
  missingHeartbeatMask : UInt32 := 0
  healthCheckTick : UInt32 := 0
  refreshTick : UInt32 := 0
  deriving DecidableEq, Repr

structure RetainedRecord where
  magic : UInt32 := 0
  version : UInt16 := 0
  size : UInt16 := 0
  sequence : UInt32 := 0
  finding : Finding := {}
  checksum : UInt32 := 0
  commitMarker : UInt32 := 0
  deriving DecidableEq, Repr

structure ResetEvidence where
  sequence : UInt32 := 0
  finding : Finding := {}
  captureCount : UInt32 := 0
  validationErrorCount : UInt32 := 0
  staleRecordCount : UInt32 := 0
  valid : Bool := false
  storageReady : Bool := false
  deriving DecidableEq, Repr

/-- The statics, and the memory that survives a reset. -/
structure EvidenceStore where
  sequence : UInt32 := 0
  storageReady : Bool := false
  evidence : ResetEvidence := {}
  retained : RetainedRecord
  deriving DecidableEq, Repr

/-! ## Records -/

/-- The bytes before the checksum. -/
def checkedBytes (record : RetainedRecord) : Bytes :=
  List.flatten
    [ writeLe32 record.magic, writeLe16 record.version, writeLe16 record.size
    , writeLe32 record.sequence, writeLe32 record.finding.cause
    , writeLe32 record.finding.requiredHeartbeatMask
    , writeLe32 record.finding.observedHeartbeatMask
    , writeLe32 record.finding.missingHeartbeatMask
    , writeLe32 record.finding.healthCheckTick, writeLe32 record.finding.refreshTick ]

def calculateChecksum (record : RetainedRecord) : UInt32 :=
  calculateCrc32 (checkedBytes record) checksumOffset

def isCauseValid (cause : UInt32) : Bool :=
  EvidenceCause.hardStall.code ≤ cause && cause ≤ EvidenceCause.refreshError.code

def isRecordValid (record : RetainedRecord) : Bool :=
  if record.magic ≠ evidenceMagic || record.version ≠ evidenceVersion ||
      record.size ≠ evidenceSize || record.commitMarker ≠ evidenceCommitMarker ||
      record.sequence = 0 || !isCauseValid record.finding.cause then
    false
  else
    calculateChecksum record = record.checksum

/-! ## The two entry points -/

def captureBoot (store : EvidenceStore) (storageEnabled wasIwdgReset : Bool) : EvidenceStore :=
  let evidence : ResetEvidence := { captureCount := 1, storageReady := storageEnabled }
  let store := { store with evidence, storageReady := storageEnabled }
  if !storageEnabled then
    store
  else
    let record := store.retained
    let store :=
      if isRecordValid record then { store with sequence := record.sequence } else store
    let evidence :=
      if !wasIwdgReset then
        if isRecordValid record then { evidence with staleRecordCount := 1 } else evidence
      else if isRecordValid record then
        { evidence with sequence := record.sequence, finding := record.finding, valid := true }
      else if record.commitMarker = evidenceCommitMarker then
        { evidence with validationErrorCount := 1 }
      else
        evidence
    { store with evidence, retained := { store.retained with commitMarker := 0 } }

/-- The record of a finding, complete. -/
def completeRecord (sequence : UInt32) (finding : Finding) : RetainedRecord :=
  let record : RetainedRecord :=
    { magic := evidenceMagic
      version := evidenceVersion
      size := evidenceSize
      sequence
      finding }
  { record with checksum := calculateChecksum record, commitMarker := evidenceCommitMarker }

def record (store : EvidenceStore) (finding : Finding) : EvidenceStore :=
  if !store.storageReady || !isCauseValid finding.cause then
    store
  else
    let sequence := if store.sequence + 1 = 0 then 1 else store.sequence + 1
    { store with sequence, retained := completeRecord sequence finding }

/-! ## What they do -/

/-- The number a boot goes on from: the valid record's in memory. -/
def carriedNumber (retained : RetainedRecord) : UInt32 :=
  if isRecordValid retained then retained.sequence else 0

/-- A record is valid once it is complete. -/
theorem isRecordValid_completeRecord {sequence : UInt32} {finding : Finding}
    (hsequence : sequence ≠ 0) (hcause : isCauseValid finding.cause = true) :
    isRecordValid (completeRecord sequence finding) = true := by
  simp [isRecordValid, completeRecord, hsequence, hcause, calculateChecksum, checkedBytes]

theorem sequence_ne_zero_of_valid {record : RetainedRecord}
    (h : isRecordValid record = true) : record.sequence ≠ 0 := by
  intro hzero
  simp [isRecordValid, hzero] at h

theorem record_eq {store : EvidenceStore} {finding : Finding}
    (hready : store.storageReady = true) (hcause : isCauseValid finding.cause = true) :
    record store finding =
      { store with
        sequence := succSkippingZero store.sequence
        retained := completeRecord (succSkippingZero store.sequence) finding } := by
  simp [record, hready, hcause, succSkippingZero]

/-- The capture of a boot, the statics cleared before. -/
def captured (retained : RetainedRecord) (wasIwdgReset : Bool) : EvidenceStore :=
  captureBoot { retained } true wasIwdgReset

/-- Whatever the reset, the number goes on. -/
@[simp] theorem captured_sequence (retained : RetainedRecord) (wasIwdgReset : Bool) :
    (captured retained wasIwdgReset).sequence = carriedNumber retained := by
  by_cases hvalid : isRecordValid retained = true <;>
    simp [captured, captureBoot, carriedNumber, hvalid]

@[simp] theorem captured_storageReady (retained : RetainedRecord) (wasIwdgReset : Bool) :
    (captured retained wasIwdgReset).storageReady = true := by
  by_cases hvalid : isRecordValid retained = true <;> simp [captured, captureBoot, hvalid]

/-- The evidence is of a valid record that a watchdog reset left. -/
theorem captured_valid (retained : RetainedRecord) (wasIwdgReset : Bool) :
    (captured retained wasIwdgReset).evidence.valid =
      (wasIwdgReset && isRecordValid retained) := by
  cases wasIwdgReset with
  | false => by_cases hvalid : isRecordValid retained = true <;> simp [captured, captureBoot, hvalid]
  | true =>
    by_cases hvalid : isRecordValid retained = true
    · simp [captured, captureBoot, hvalid]
    · by_cases hmarker : retained.commitMarker = evidenceCommitMarker <;>
        simp [captured, captureBoot, hvalid, hmarker]

/-- The evidence a watchdog reset leaves a boot. -/
theorem captured_evidence {retained : RetainedRecord} (hvalid : isRecordValid retained = true) :
    (captured retained true).evidence =
      { sequence := retained.sequence
        finding := retained.finding
        captureCount := 1
        valid := true
        storageReady := true } := by
  simp [captured, captureBoot, hvalid]

/-- Evidence carries the number the memory did. -/
theorem captured_evidence_sequence {retained : RetainedRecord} {wasIwdgReset : Bool}
    (h : (captured retained wasIwdgReset).evidence.valid = true) :
    isRecordValid retained = true ∧
      (captured retained wasIwdgReset).evidence.sequence = retained.sequence := by
  rw [captured_valid, Bool.and_eq_true] at h
  obtain ⟨rfl, hvalid⟩ := h
  exact ⟨hvalid, by rw [captured_evidence hvalid]⟩

end Watchdog

end CanGui
