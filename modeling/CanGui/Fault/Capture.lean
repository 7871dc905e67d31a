import CanGui.Common.Counter
import CanGui.Common.Crc
import CanGui.Common.Run
/-!
# Fault capture

A fault leaves a record in memory that survives the reset. The next boot
takes it into its snapshot and consumes it. The number of the record goes
on from the one captured, and that is kept in RAM: a boot without a fault
leaves nothing for the next to go on from. `captured_iff` says in which
histories the numbers rise all the same.
-/

namespace CanGui

namespace Fault

def recordMagic : UInt32 := 0x464C5431
def recordVersion : UInt16 := 1
def recordSize : UInt16 := 92
def recordCommitMarker : UInt32 := 0xC04D17ED
def checksumOffset : Nat := 84

/-! ## Data -/

/-- The frame the core stacks on an exception. -/
structure StackFrame where
  r0 : UInt32 := 0
  r1 : UInt32 := 0
  r2 : UInt32 := 0
  r3 : UInt32 := 0
  r12 : UInt32 := 0
  lr : UInt32 := 0
  pc : UInt32 := 0
  xpsr : UInt32 := 0
  deriving DecidableEq, Repr

/-- The fault registers of the system control block. -/
structure FaultStatus where
  cfsr : UInt32 := 0
  hfsr : UInt32 := 0
  dfsr : UInt32 := 0
  afsr : UInt32 := 0
  mmfar : UInt32 := 0
  bfar : UInt32 := 0
  shcsr : UInt32 := 0
  icsr : UInt32 := 0
  deriving DecidableEq, Repr

structure RetainedRecord where
  magic : UInt32 := 0
  version : UInt16 := 0
  size : UInt16 := 0
  sequence : UInt32 := 0
  type : UInt32 := 0
  exceptionReturn : UInt32 := 0
  frame : StackFrame := {}
  status : FaultStatus := {}
  checksum : UInt32 := 0
  commitMarker : UInt32 := 0
  deriving DecidableEq, Repr

/-- What a record says of its fault. -/
structure FaultReport where
  sequence : UInt32
  type : UInt32
  exceptionReturn : UInt32
  frame : StackFrame
  status : FaultStatus
  deriving DecidableEq, Repr

structure Snapshot where
  sequence : UInt32 := 0
  type : UInt32 := 0
  exceptionReturn : UInt32 := 0
  frame : StackFrame := {}
  status : FaultStatus := {}
  captureCount : UInt32 := 0
  validationErrorCount : UInt32 := 0
  valid : Bool := false
  storageReady : Bool := false
  deriving DecidableEq, Repr

/-- The statics, and the memory that survives a reset. -/
structure State where
  sequence : UInt32 := 0
  storageReady : Bool := false
  snapshot : Snapshot := {}
  retained : RetainedRecord
  deriving DecidableEq, Repr

/-! ## Records -/

/-- The bytes before the checksum. -/
def checkedBytes (record : RetainedRecord) : Bytes :=
  List.flatten
    [ writeLe32 record.magic, writeLe16 record.version, writeLe16 record.size
    , writeLe32 record.sequence, writeLe32 record.type, writeLe32 record.exceptionReturn
    , writeLe32 record.frame.r0, writeLe32 record.frame.r1, writeLe32 record.frame.r2
    , writeLe32 record.frame.r3, writeLe32 record.frame.r12, writeLe32 record.frame.lr
    , writeLe32 record.frame.pc, writeLe32 record.frame.xpsr
    , writeLe32 record.status.cfsr, writeLe32 record.status.hfsr, writeLe32 record.status.dfsr
    , writeLe32 record.status.afsr, writeLe32 record.status.mmfar, writeLe32 record.status.bfar
    , writeLe32 record.status.shcsr, writeLe32 record.status.icsr ]

def recordChecksum (record : RetainedRecord) : UInt32 :=
  calculateCrc32 (checkedBytes record) checksumOffset

/-- From NMI to the error handler. -/
def isTypeValid (type : UInt32) : Bool := 1 ≤ type && type ≤ 6

def isRecordValid (record : RetainedRecord) : Bool :=
  if record.magic ≠ recordMagic || record.version ≠ recordVersion || record.size ≠ recordSize ||
      record.sequence = 0 || !isTypeValid record.type ||
      record.commitMarker ≠ recordCommitMarker then
    false
  else
    recordChecksum record = record.checksum

def RetainedRecord.report (record : RetainedRecord) : FaultReport where
  sequence := record.sequence
  type := record.type
  exceptionReturn := record.exceptionReturn
  frame := record.frame
  status := record.status

def copyToSnapshot (snapshot : Snapshot) (record : RetainedRecord) : Snapshot :=
  { snapshot with
    sequence := record.sequence
    type := record.type
    exceptionReturn := record.exceptionReturn
    frame := record.frame
    status := record.status
    valid := true }

/-! ## The two entry points -/

def captureBoot (state : State) (storageEnabled : Bool) : State :=
  let snapshot : Snapshot := { captureCount := 1, storageReady := storageEnabled }
  let state := { state with snapshot, storageReady := storageEnabled }
  if !storageEnabled then
    state
  else
    let state :=
      if isRecordValid state.retained then
        { state with
          sequence := state.retained.sequence
          snapshot := copyToSnapshot snapshot state.retained }
      else if state.retained.commitMarker = recordCommitMarker then
        { state with snapshot := { snapshot with validationErrorCount := 1 } }
      else
        state
    { state with retained := { state.retained with commitMarker := 0 } }

/-- A call of the recorder: its arguments, and the fault registers it
reads. -/
structure Call where
  type : UInt32
  stackFrame : Option StackFrame := none
  exceptionReturn : UInt32 := 0
  status : FaultStatus := {}
  deriving DecidableEq, Repr

/-- Without a stack frame the exception return stands for the program
counter. -/
def Call.frame (call : Call) : StackFrame :=
  match call.stackFrame with
  | some frame => frame
  | none => { pc := call.exceptionReturn }

def recordExceptionFromIsr (state : State) (call : Call) : State :=
  if !state.storageReady || !isTypeValid call.type then
    state
  else
    let sequence := if state.sequence + 1 = 0 then 1 else state.sequence + 1
    let record : RetainedRecord :=
      { magic := recordMagic
        version := recordVersion
        size := recordSize
        sequence
        type := call.type
        exceptionReturn := call.exceptionReturn
        frame := call.frame
        status := call.status }
    { state with
      sequence
      retained :=
        { record with
          checksum := recordChecksum record
          commitMarker := recordCommitMarker } }

/-! ## Boots -/

/-- A reset clears the statics. -/
def reset (state : State) : State := { retained := state.retained }

/-- The capture at the start of a boot, the storage being enabled. -/
def booted (state : State) : State := captureBoot (reset state) true

/-- A boot, from its capture to its fault, if it has one. -/
def boot (state : State) : Option Call → State
  | none => booted state
  | some call => recordExceptionFromIsr (booted state) call

/-- What a snapshot reports. -/
def Snapshot.report (snapshot : Snapshot) : Option FaultReport :=
  if snapshot.valid then
    some
      { sequence := snapshot.sequence
        type := snapshot.type
        exceptionReturn := snapshot.exceptionReturn
        frame := snapshot.frame
        status := snapshot.status }
  else
    none

/-- What the next boot finds out of this one: the fault recorded, with the
number it got. There is none without a call, or if the type of the call is
none of the enumeration's. -/
def recorded (state : State) : Option Call → Option FaultReport
  | none => none
  | some call =>
    if isTypeValid call.type then
      some
        { sequence := (recordExceptionFromIsr (booted state) call).sequence
          type := call.type
          exceptionReturn := call.exceptionReturn
          frame := call.frame
          status := call.status }
    else
      none

/-- For each boot of a history, what it records. -/
def recordings : State → List (Option Call) → List (Option FaultReport)
  | _, [] => []
  | state, call :: calls => recorded state call :: recordings (boot state call) calls

/-- For each boot of a history, what its snapshot reports in the end. -/
def reports : State → List (Option Call) → List (Option FaultReport)
  | _, [] => []
  | state, call :: calls =>
    (boot state call).snapshot.report :: reports (boot state call) calls

/-- The faults a history records, in order. -/
def faults (state : State) (calls : List (Option Call)) : List FaultReport :=
  (recordings state calls).filterMap id

/-! ## What one boot leaves for the next -/

/-- The number a boot goes on from: the valid record's in memory. -/
def carriedNumber (state : State) : UInt32 :=
  if isRecordValid state.retained then state.retained.sequence else 0

/-- A boot that records a fault. -/
def faulty : Option Call → Bool
  | none => false
  | some call => isTypeValid call.type

/-- The capture takes the number and the report of a valid record, and
consumes it. -/
theorem booted_cases (state : State) :
    (booted state).sequence = carriedNumber state ∧
      (booted state).storageReady = true ∧
      (booted state).retained = { state.retained with commitMarker := 0 } ∧
      (booted state).snapshot.report =
        if isRecordValid state.retained then some state.retained.report else none := by
  simp only [booted, captureBoot, reset, carriedNumber]
  by_cases hvalid : isRecordValid state.retained = true
  · simp [hvalid, Snapshot.report, copyToSnapshot, RetainedRecord.report]
  · by_cases hmarker : state.retained.commitMarker = recordCommitMarker <;>
      simp [hvalid, hmarker, Snapshot.report]

@[simp] theorem booted_sequence (state : State) :
    (booted state).sequence = carriedNumber state := (booted_cases state).1

@[simp] theorem booted_storageReady (state : State) : (booted state).storageReady = true :=
  (booted_cases state).2.1

@[simp] theorem booted_commitMarker (state : State) :
    (booted state).retained.commitMarker = 0 := by
  rw [(booted_cases state).2.2.1]

/-- A snapshot reports the valid record there was in memory. -/
theorem booted_report (state : State) :
    (booted state).snapshot.report =
      if isRecordValid state.retained then some state.retained.report else none :=
  (booted_cases state).2.2.2

theorem not_isRecordValid_of_commitMarker {record : RetainedRecord}
    (h : record.commitMarker = 0) : isRecordValid record = false := by
  simp [isRecordValid, h, recordCommitMarker]

/-- A recorder that goes ahead. -/
theorem recordExceptionFromIsr_eq {state : State} {call : Call}
    (hready : state.storageReady = true) (htype : isTypeValid call.type = true) :
    (recordExceptionFromIsr state call).sequence = succSkippingZero state.sequence ∧
      isRecordValid (recordExceptionFromIsr state call).retained = true ∧
      (recordExceptionFromIsr state call).retained.report =
        { sequence := succSkippingZero state.sequence
          type := call.type
          exceptionReturn := call.exceptionReturn
          frame := call.frame
          status := call.status } := by
  have hnumber : (if state.sequence + 1 = 0 then 1 else state.sequence + 1) =
      succSkippingZero state.sequence := rfl
  have hnonzero := succSkippingZero_ne_zero state.sequence
  simp only [recordExceptionFromIsr, hready, htype, hnumber]
  refine ⟨rfl, ?_, rfl⟩
  simp [isRecordValid, hnonzero, htype, recordChecksum, checkedBytes]

theorem recordExceptionFromIsr_refused {state : State} {call : Call}
    (htype : isTypeValid call.type = false) : recordExceptionFromIsr state call = state := by
  simp [recordExceptionFromIsr, htype]

/-- The recorder leaves the snapshot alone. -/
@[simp] theorem recordExceptionFromIsr_snapshot (state : State) (call : Call) :
    (recordExceptionFromIsr state call).snapshot = state.snapshot := by
  unfold recordExceptionFromIsr
  split <;> rfl

theorem boot_snapshot (state : State) (call : Option Call) :
    (boot state call).snapshot = (booted state).snapshot := by
  cases call with
  | none => rfl
  | some call => exact recordExceptionFromIsr_snapshot _ call

/-- **What a boot records is the valid record it leaves.** -/
theorem retained_boot (state : State) (call : Option Call) :
    (if isRecordValid (boot state call).retained then
      some (boot state call).retained.report else none) = recorded state call := by
  have hcleared : isRecordValid (booted state).retained = false :=
    not_isRecordValid_of_commitMarker (booted_commitMarker state)
  cases call with
  | none => simp [boot, recorded, hcleared]
  | some call =>
    cases htype : isTypeValid call.type with
    | false => simp [boot, recorded, recordExceptionFromIsr_refused htype, htype, hcleared]
    | true =>
      obtain ⟨hsequence, hvalid, hreport⟩ :=
        recordExceptionFromIsr_eq (booted_storageReady state) htype
      simp [boot, recorded, htype, hsequence, hvalid, hreport]

/-- **The next boot reports it.** -/
theorem next_report (state : State) (call next : Option Call) :
    (boot (boot state call) next).snapshot.report = recorded state call := by
  rw [boot_snapshot, booted_report]
  exact retained_boot state call

/-- A boot without a fault leaves no number to go on from. -/
theorem carriedNumber_boot (state : State) (call : Option Call) :
    carriedNumber (boot state call) =
      if faulty call then succSkippingZero (carriedNumber state) else 0 := by
  have hcleared : isRecordValid (booted state).retained = false :=
    not_isRecordValid_of_commitMarker (booted_commitMarker state)
  cases call with
  | none => simp [boot, faulty, carriedNumber, hcleared]
  | some call =>
    cases htype : isTypeValid call.type with
    | false =>
      simp [boot, faulty, carriedNumber, recordExceptionFromIsr_refused htype, htype, hcleared]
    | true =>
      obtain ⟨hsequence, hvalid, hreport⟩ :=
        recordExceptionFromIsr_eq (booted_storageReady state) htype
      have hnumber := congrArg FaultReport.sequence hreport
      rw [booted_sequence] at hnumber
      simp only [boot, faulty, htype, carriedNumber, hvalid, if_true]
      exact hnumber

theorem recorded_sequence (state : State) (call : Option Call) :
    (recorded state call).map (·.sequence) =
      if faulty call then some (succSkippingZero (carriedNumber state)) else none := by
  cases call with
  | none => rfl
  | some call =>
    cases htype : isTypeValid call.type with
    | false => simp [recorded, faulty, htype]
    | true =>
      have hsequence := (recordExceptionFromIsr_eq (booted_storageReady state) htype).1
      simp [recorded, faulty, htype, hsequence]

/-! ## The numbers of a history -/

/-- The numbers given out in a history of boots, the first going on from
`last`. -/
def numbers : UInt32 → List Bool → List UInt32
  | _, [] => []
  | last, true :: boots => succSkippingZero last :: numbers (succSkippingZero last) boots
  | _, false :: boots => numbers 0 boots

theorem faults_sequence (state : State) (calls : List (Option Call)) :
    (faults state calls).map (·.sequence) = numbers (carriedNumber state) (calls.map faulty) := by
  induction calls generalizing state with
  | nil => rfl
  | cons call calls ih =>
    have hnext := ih (boot state call)
    have hhere := recorded_sequence state call
    rw [carriedNumber_boot] at hnext
    unfold faults at hnext ⊢
    rw [recordings, List.map_cons]
    cases hfaulty : faulty call with
    | false =>
      simp only [hfaulty, Bool.false_eq_true, if_false, Option.map_eq_none_iff] at hhere hnext
      rw [List.filterMap_cons_none (by exact hhere), hnext]
      rfl
    | true =>
      simp only [hfaulty, if_true, Option.map_eq_some_iff] at hhere hnext
      obtain ⟨fault, hrecorded, hsequence⟩ := hhere
      rw [List.filterMap_cons_some (by exact hrecorded), List.map_cons, hsequence, hnext]
      rfl

/-- Boots without a fault give out no number. -/
theorem numbers_eq_nil {last : UInt32} {boots : List Bool} (h : true ∉ boots) :
    numbers last boots = [] := by
  induction boots generalizing last with
  | nil => rfl
  | cons flag boots ih =>
    rw [List.mem_cons, not_or] at h
    cases flag with
    | true => exact absurd rfl h.1
    | false => exact ih h.2

/-- After a gap the numbers start again at 1. -/
theorem one_mem_numbers_zero {boots : List Bool} (h : true ∈ boots) : 1 ∈ numbers 0 boots := by
  induction boots with
  | nil => cases h
  | cons flag boots ih =>
    cases flag with
    | true => exact List.mem_cons_self
    | false => exact ih (by simpa using h)

theorem eq_replicate_false_iff {boots : List Bool} :
    boots = List.replicate boots.length false ↔ true ∉ boots := by
  rw [List.eq_replicate_iff]
  constructor
  · intro h hmem
    have := h.2 true hmem
    contradiction
  · intro h
    refine ⟨rfl, fun flag hmem => ?_⟩
    cases flag with
    | false => rfl
    | true => exact absurd hmem h

theorem lt_succSkippingZero_iff (n : UInt32) : n < succSkippingZero n ↔ n.toNat + 1 < 2 ^ 32 := by
  have hvalue := toNat_succSkippingZero n
  have hbound := n.toNat_lt
  rw [UInt32.lt_iff_toNat_lt]
  omega

/-- The second number of a rising run stands for all the later ones. -/
theorem rising_cons_cons {m n : UInt32} {ns : List UInt32} :
    (m :: n :: ns).Pairwise (· < ·) ↔ m < n ∧ (n :: ns).Pairwise (· < ·) := by
  rw [← List.isChain_iff_pairwise, List.isChain_cons_cons, List.isChain_iff_pairwise]

/-- Some faulty boots on end, then none. -/
def FaultyFirst (count : Nat) (boots : List Bool) : Prop :=
  ∃ quiet, boots = List.replicate count true ++ List.replicate quiet false

theorem faultyFirst_true {boots : List Bool} {count : Nat} :
    FaultyFirst count (true :: boots) ↔ ∃ n, count = n + 1 ∧ FaultyFirst n boots := by
  cases count with
  | zero =>
    simp only [FaultyFirst, List.replicate_zero, List.nil_append]
    constructor
    · rintro ⟨quiet, h⟩
      cases quiet <;> simp [List.replicate_succ] at h
    · rintro ⟨n, h, -⟩
      omega
  | succ count =>
    simp only [FaultyFirst, List.replicate_succ, List.cons_append, List.cons.injEq, true_and]
    constructor
    · intro h
      exact ⟨count, rfl, h⟩
    · rintro ⟨n, h, hboots⟩
      obtain rfl : count = n := by omega
      exact hboots

theorem faultyFirst_false {boots : List Bool} {count : Nat} :
    FaultyFirst count (false :: boots) ↔ count = 0 ∧ true ∉ boots := by
  rw [← eq_replicate_false_iff]
  constructor
  · rintro ⟨quiet, h⟩
    cases count with
    | succ count => simp [List.replicate_succ] at h
    | zero =>
      obtain ⟨hlength, hall⟩ := List.eq_replicate_iff.1 h
      exact ⟨rfl, List.eq_replicate_iff.2 ⟨rfl, fun flag hmem => hall flag (by simp [hmem])⟩⟩
  · rintro ⟨rfl, h⟩
    exact ⟨boots.length + 1, congrArg (false :: ·) h⟩

/-- Once a number is given out, the numbers go on rising exactly if the
faults that follow come in the very next boots, and the numbers do not
wrap. -/
theorem numbers_rise_iff {last : UInt32} (hlast : last ≠ 0) (boots : List Bool) :
    (last :: numbers last boots).Pairwise (· < ·) ↔
      ∃ count, FaultyFirst count boots ∧ last.toNat + count < 2 ^ 32 := by
  induction boots generalizing last with
  | nil =>
    simp only [numbers, List.pairwise_singleton, true_iff]
    exact ⟨0, ⟨0, rfl⟩, last.toNat_lt⟩
  | cons flag boots ih =>
    cases flag with
    | false =>
      simp only [numbers, faultyFirst_false]
      constructor
      · intro hrise
        refine ⟨0, ⟨rfl, fun hfault => ?_⟩, last.toNat_lt⟩
        -- the fault after the gap would get number 1 again
        have hone : last < 1 := List.rel_of_pairwise_cons hrise (one_mem_numbers_zero hfault)
        have hzero : last.toNat < 1 := hone
        have hne : last.toNat ≠ 0 := fun h => hlast (UInt32.toNat_inj.1 h)
        omega
      · rintro ⟨count, ⟨-, hquiet⟩, -⟩
        rw [numbers_eq_nil hquiet]
        exact List.pairwise_singleton _ _
    | true =>
      have hnext := ih (succSkippingZero_ne_zero last)
      have hvalue := toNat_succSkippingZero last
      have hstep := lt_succSkippingZero_iff last
      simp only [numbers, rising_cons_cons, hnext, hstep, faultyFirst_true]
      constructor
      · rintro ⟨hlt, count, hboots, hbound⟩
        exact ⟨count + 1, ⟨count, rfl, hboots⟩, by omega⟩
      · rintro ⟨_, ⟨count, rfl, hboots⟩, hbound⟩
        exact ⟨by omega, count, hboots, by omega⟩

/-- After `quiet` boots without a fault the `count` faulty boots of a
history come one after the other. -/
def OnEnd (quiet count : Nat) (boots : List Bool) : Prop :=
  ∃ rest, boots = List.replicate quiet false ++ rest ∧ FaultyFirst count rest

theorem onEnd_zero {boots : List Bool} {count : Nat} :
    OnEnd 0 count boots ↔ FaultyFirst count boots := by
  simp [OnEnd]

theorem onEnd_succ {flag : Bool} {boots : List Bool} {quiet count : Nat} :
    OnEnd (quiet + 1) count (flag :: boots) ↔ flag = false ∧ OnEnd quiet count boots := by
  simp [OnEnd, List.replicate_succ, and_assoc]

theorem numbers_pairwise_iff (last : UInt32) (boots : List Bool) :
    (numbers last boots).Pairwise (· < ·) ↔
      ∃ quiet count, OnEnd quiet count boots ∧
        (succSkippingZero (if quiet = 0 then last else 0)).toNat + count ≤ 2 ^ 32 := by
  induction boots generalizing last with
  | nil =>
    have hbound := (succSkippingZero last).toNat_lt
    simp only [numbers, List.Pairwise.nil, true_iff]
    exact ⟨0, 0, ⟨[], rfl, 0, rfl⟩, by simpa using hbound.le⟩
  | cons flag boots ih =>
    cases flag with
    | false =>
      rw [numbers, ih 0]
      simp only [ite_self]
      constructor
      · rintro ⟨quiet, count, hboots, hbound⟩
        exact ⟨quiet + 1, count, onEnd_succ.2 ⟨rfl, hboots⟩, hbound⟩
      · rintro ⟨quiet, count, hboots, hbound⟩
        cases quiet with
        | succ quiet => exact ⟨quiet, count, (onEnd_succ.1 hboots).2, hbound⟩
        | zero =>
          obtain ⟨rfl, hquiet⟩ := faultyFirst_false.1 (onEnd_zero.1 hboots)
          refine ⟨0, 0, onEnd_zero.2 ⟨boots.length, ?_⟩, by decide⟩
          exact eq_replicate_false_iff.2 hquiet
    | true =>
      rw [numbers, numbers_rise_iff (succSkippingZero_ne_zero last)]
      constructor
      · rintro ⟨count, hboots, hbound⟩
        refine ⟨0, count + 1, onEnd_zero.2 (faultyFirst_true.2 ⟨count, rfl, hboots⟩), ?_⟩
        rw [if_pos rfl]
        omega
      · rintro ⟨quiet, count, hboots, hbound⟩
        cases quiet with
        | succ quiet => exact absurd (onEnd_succ.1 hboots).1 (by decide)
        | zero =>
          obtain ⟨n, rfl, hn⟩ := faultyFirst_true.1 (onEnd_zero.1 hboots)
          rw [if_pos rfl] at hbound
          exact ⟨n, hn, by omega⟩

/-! ## Capture over a history -/

/-- Every fault is in the snapshot of the boot after its own, no other boot
has a fault to report, and the numbers rise. -/
structure Captured (start : State) (calls : List (Option Call)) : Prop where
  next : ∀ i, i + 1 < calls.length → (reports start calls)[i + 1]? = (recordings start calls)[i]?
  rising : (faults start calls).Pairwise (·.sequence < ·.sequence)

theorem reports_next (start : State) (calls : List (Option Call)) (i : Nat)
    (h : i + 1 < calls.length) : (reports start calls)[i + 1]? = (recordings start calls)[i]? := by
  induction calls generalizing start i with
  | nil => simp at h
  | cons call calls ih =>
    cases i with
    | succ i => exact ih (boot start call) i (by simpa using h)
    | zero =>
      cases calls with
      | nil => simp at h
      | cons next calls => simp [reports, recordings, next_report]

/-- **Capture over boots.** Every fault is reported by the next boot. The
numbers rise exactly if no boot without a fault stands between two faulty
ones, and they do not reach the end of their range. -/
theorem captured_iff (start : State) (calls : List (Option Call)) :
    Captured start calls ↔
      ∃ quiet count, OnEnd quiet count (calls.map faulty) ∧
        (succSkippingZero (if quiet = 0 then carriedNumber start else 0)).toNat + count ≤
          2 ^ 32 := by
  rw [← numbers_pairwise_iff, ← faults_sequence, List.pairwise_map]
  constructor
  · exact Captured.rising
  · exact fun hrising => ⟨reports_next start calls, hrising⟩

/-- A fault, a boot without one, and a fault: both get number 1. -/
theorem faultGapFault_sameNumber :
    ¬ Captured { retained := {} } [some { type := 2 }, none, some { type := 2 }] := by
  intro h
  have hrising := h.rising
  revert hrising
  decide +kernel

end Fault

end CanGui
