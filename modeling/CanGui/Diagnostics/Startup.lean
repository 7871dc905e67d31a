import CanGui.Common.Masks
import CanGui.Common.Run
/-!
# Startup — which resources came up

Each resource of the board records how its initialisation went. The masks
hold the last result of every expected resource, the first and the last
failure keep their resource and result, and the start is degraded while an
expected resource is not ready.
-/

namespace CanGui

namespace Startup

/-- `App_Startup_Resource_t` -/
inductive Resource where
  | none
  | fdcan
  | i2c
  | spi
  | pwmTimer
  | captureTimer
  | pwmControl
  | inputCapture
  | com
  deriving DecidableEq, Repr

def Resource.toWord : Resource → UInt32
  | .none => 0
  | .fdcan => 0x01
  | .i2c => 0x02
  | .spi => 0x04
  | .pwmTimer => 0x08
  | .captureTimer => 0x10
  | .pwmControl => 0x20
  | .inputCapture => 0x40
  | .com => 0x80

/-- `APP_STARTUP_EXPECTED_RESOURCES` -/
def expectedResources : UInt32 :=
  Resource.fdcan.toWord ||| Resource.i2c.toWord ||| Resource.spi.toWord |||
    Resource.pwmTimer.toWord ||| Resource.captureTimer.toWord ||| Resource.pwmControl.toWord |||
    Resource.inputCapture.toWord ||| Resource.com.toWord

/-- `App_Startup_Result_t` -/
inductive Result where
  | ok
  | fdcanHalInit
  | fdcanMspClock
  | i2cHalInit
  | i2cMspClock
  | i2cAnalogFilter
  | i2cDigitalFilter
  | spiHalInit
  | spiMspClock
  | pwmTimerBase
  | pwmTimerClock
  | pwmTimerPwm
  | pwmTimerMaster
  | pwmTimerChannel
  | captureTimerInit
  | captureTimerSlave
  | captureTimerChannel1
  | captureTimerChannel2
  | captureTimerMaster
  | pwmControlInit
  | pwmControlDefault
  | inputCaptureInit
  | comInit
  deriving DecidableEq, Repr

def Result.toWord : Result → UInt32
  | .ok => 0
  | .fdcanHalInit => 0x0101
  | .fdcanMspClock => 0x0102
  | .i2cHalInit => 0x0201
  | .i2cMspClock => 0x0202
  | .i2cAnalogFilter => 0x0203
  | .i2cDigitalFilter => 0x0204
  | .spiHalInit => 0x0301
  | .spiMspClock => 0x0302
  | .pwmTimerBase => 0x0401
  | .pwmTimerClock => 0x0402
  | .pwmTimerPwm => 0x0403
  | .pwmTimerMaster => 0x0404
  | .pwmTimerChannel => 0x0405
  | .captureTimerInit => 0x0501
  | .captureTimerSlave => 0x0502
  | .captureTimerChannel1 => 0x0503
  | .captureTimerChannel2 => 0x0504
  | .captureTimerMaster => 0x0505
  | .pwmControlInit => 0x0601
  | .pwmControlDefault => 0x0602
  | .inputCaptureInit => 0x0701
  | .comInit => 0x0801

/-- `App_Startup_Snapshot_t` -/
structure Snapshot where
  expectedMask : UInt32 := 0
  attemptedMask : UInt32 := 0
  readyMask : UInt32 := 0
  failedMask : UInt32 := 0
  recordCount : UInt32 := 0
  failureCount : UInt32 := 0
  firstFailedResource : UInt32 := 0
  firstFailureResult : UInt32 := 0
  lastFailedResource : UInt32 := 0
  lastFailureResult : UInt32 := 0
  degraded : Bool := false
  deriving DecidableEq, Repr

/-- `App_Startup_IsSingleResource` -/
def isSingleResource (resource : UInt32) : Bool :=
  resource ≠ 0 && resource &&& (resource - 1) = 0

def init (expectedMask : UInt32) : Snapshot := { expectedMask }

/-- A result that is taken in; what was cast to a resource may be any
word. -/
def note (snapshot : Snapshot) (resource : UInt32) (result : Result) : Snapshot :=
  let snapshot := { snapshot with
    attemptedMask := snapshot.attemptedMask ||| resource
    recordCount := snapshot.recordCount + 1 }
  if result = .ok then
    { snapshot with
      readyMask := snapshot.readyMask ||| resource
      failedMask := snapshot.failedMask &&& ~~~resource }
  else
    let snapshot := { snapshot with
      readyMask := snapshot.readyMask &&& ~~~resource
      failedMask := snapshot.failedMask ||| resource
      failureCount := snapshot.failureCount + 1
      lastFailedResource := resource
      lastFailureResult := result.toWord }
    if snapshot.firstFailedResource = 0 then
      { snapshot with
        firstFailedResource := resource
        firstFailureResult := result.toWord }
    else
      snapshot

/-- `App_Startup_Record` -/
def record (snapshot : Snapshot) (resource : UInt32) (result : Result) : Snapshot :=
  if !isSingleResource resource || resource &&& snapshot.expectedMask = 0 then
    snapshot
  else
    let snapshot := note snapshot resource result
    { snapshot with
      degraded := snapshot.failedMask ≠ 0 ||
        snapshot.attemptedMask &&& snapshot.expectedMask ≠ snapshot.expectedMask }

def isReady (snapshot : Snapshot) (resource : UInt32) : Bool :=
  isSingleResource resource && snapshot.readyMask &&& resource ≠ 0

/-! ## Runs -/

open Mask (Single Has)

/-- Some records, one after the other. -/
def recorded (expectedMask : UInt32) (records : List (UInt32 × Result)) : Snapshot :=
  run (fun snapshot entry => record snapshot entry.1 entry.2) (init expectedMask) records

/-- The records of expected resources. -/
def accepted (expectedMask : UInt32) (records : List (UInt32 × Result)) : List (UInt32 × Result) :=
  records.filter fun entry => Single entry.1 ∧ Has expectedMask entry.1

def failures (records : List (UInt32 × Result)) : List (UInt32 × Result) :=
  records.filter fun entry => entry.2 ≠ .ok

/-- The last result of a resource. -/
def lastResult (records : List (UInt32 × Result)) (resource : UInt32) : Option Result :=
  ((records.filter fun entry => entry.1 = resource).getLast?).map Prod.snd

/-- The snapshot tells the records that were taken in. -/
structure Tells (expectedMask : UInt32) (snapshot : Snapshot) (taken : List (UInt32 × Result)) :
    Prop where
  expected : snapshot.expectedMask = expectedMask
  attempted : ∀ resource, Single resource →
    (Has snapshot.attemptedMask resource ↔ lastResult taken resource ≠ none)
  ready : ∀ resource, Single resource →
    (Has snapshot.readyMask resource ↔ lastResult taken resource = some .ok)
  failed : ∀ resource, Single resource →
    (Has snapshot.failedMask resource ↔
      ∃ result, lastResult taken resource = some result ∧ result ≠ .ok)
  within : ∀ entry ∈ taken, Single entry.1 ∧ Has expectedMask entry.1
  recordCount : snapshot.recordCount = UInt32.ofNat taken.length
  failureCount : snapshot.failureCount = UInt32.ofNat (failures taken).length
  first : (snapshot.firstFailedResource, snapshot.firstFailureResult) =
    ((failures taken).head?.map fun entry => (entry.1, entry.2.toWord)).getD (0, 0)
  last : (snapshot.lastFailedResource, snapshot.lastFailureResult) =
    ((failures taken).getLast?.map fun entry => (entry.1, entry.2.toWord)).getD (0, 0)
  degraded : snapshot.degraded = true ↔ taken ≠ [] ∧
    ∃ resource, Single resource ∧ Has expectedMask resource ∧
      lastResult taken resource ≠ some .ok

variable {expectedMask resource other : UInt32} {result : Result} {snapshot : Snapshot}
variable {taken records : List (UInt32 × Result)}

theorem isSingleResource_iff : isSingleResource resource = true ↔ Single resource := by
  simp [isSingleResource, Single]

theorem lastResult_append : lastResult (taken ++ [(resource, result)]) other =
    if resource = other then some result else lastResult taken other := by
  unfold lastResult
  rw [List.filter_append]
  by_cases hsame : resource = other
  · simp [hsame]
  · simp [hsame]

theorem failures_append : failures (taken ++ [(resource, result)]) =
    if result = .ok then failures taken else failures taken ++ [(resource, result)] := by
  unfold failures
  rw [List.filter_append]
  by_cases hok : result = .ok
  · simp [hok]
  · simp [hok]

/-- A resource with a result is in the records. -/
theorem mem_of_lastResult (h : lastResult taken resource = some result) :
    ∃ entry ∈ taken, entry.1 = resource := by
  unfold lastResult at h
  obtain ⟨entry, hlast, -⟩ := Option.map_eq_some_iff.1 h
  have hmem := List.mem_of_getLast? hlast
  rw [List.mem_filter, decide_eq_true_eq] at hmem
  exact ⟨entry, hmem⟩

theorem has_of_lastResult (hwithin : ∀ entry ∈ taken, Single entry.1 ∧ Has expectedMask entry.1)
    (h : lastResult taken resource = some result) : Has expectedMask resource := by
  obtain ⟨entry, hmem, rfl⟩ := mem_of_lastResult h
  exact (hwithin entry hmem).2

/-- A bit that is set, among the others. -/
theorem has_or_single {mask : UInt32} (hresource : Single resource) (hother : Single other) :
    Has (mask ||| resource) other ↔ resource = other ∨ Has mask other := by
  rw [Mask.has_or hother, Mask.has_single hresource hother, or_comm]

theorem has_and_not_single {mask : UInt32} (hresource : Single resource) (hother : Single other) :
    Has (mask &&& ~~~resource) other ↔ resource ≠ other ∧ Has mask other := by
  rw [Mask.has_and hother, Mask.has_not hother, Mask.has_single hresource hother, and_comm]

/-- Something failed or is missing exactly if a resource is not ready. -/
theorem degraded_iff {attempted failed : UInt32}
    (hwithin : ∀ entry ∈ taken, Single entry.1 ∧ Has expectedMask entry.1)
    (hattempted : ∀ resource, Single resource →
      (Has attempted resource ↔ lastResult taken resource ≠ none))
    (hfailed : ∀ resource, Single resource →
      (Has failed resource ↔ ∃ result, lastResult taken resource = some result ∧ result ≠ .ok)) :
    (failed ≠ 0 ∨ attempted &&& expectedMask ≠ expectedMask) ↔
      ∃ resource, Single resource ∧ Has expectedMask resource ∧
        lastResult taken resource ≠ some .ok := by
  rw [Mask.ne_zero_iff, Mask.and_ne_right_iff]
  constructor
  · rintro (⟨resource, hsingle, hhas⟩ | ⟨resource, hsingle, hexpected, hmissing⟩)
    · obtain ⟨result, hlast, hne⟩ := (hfailed resource hsingle).1 hhas
      refine ⟨resource, hsingle, has_of_lastResult hwithin hlast, ?_⟩
      rw [hlast, Ne, Option.some.injEq]
      exact hne
    · rw [hattempted resource hsingle, not_not] at hmissing
      refine ⟨resource, hsingle, hexpected, ?_⟩
      simp [hmissing]
  · rintro ⟨resource, hsingle, hexpected, hne⟩
    cases hlast : lastResult taken resource with
    | none =>
      refine .inr ⟨resource, hsingle, hexpected, ?_⟩
      rw [hattempted resource hsingle, not_not]
      exact hlast
    | some result =>
      refine .inl ⟨resource, hsingle, (hfailed resource hsingle).2 ⟨result, hlast, ?_⟩⟩
      rintro rfl
      exact hne hlast

/-- **A record that is taken in** is told. -/
theorem Tells.note (h : Tells expectedMask snapshot taken) (hsingle : Single resource)
    (hexpected : Has expectedMask resource) :
    let after := note snapshot resource result
    Tells expectedMask
      { after with
        degraded := after.failedMask ≠ 0 ||
          after.attemptedMask &&& after.expectedMask ≠ after.expectedMask }
      (taken ++ [(resource, result)]) := by
  intro after
  have hfields : after.expectedMask = expectedMask ∧
      after.attemptedMask = snapshot.attemptedMask ||| resource ∧
      after.recordCount = snapshot.recordCount + 1 := by
    simp only [after, Startup.note]
    split
    · exact ⟨h.expected, rfl, rfl⟩
    split
    · exact ⟨h.expected, rfl, rfl⟩
    · exact ⟨h.expected, rfl, rfl⟩
  obtain ⟨hmask, hattemptedMask, hcount⟩ := hfields
  have hattempted : ∀ other, Single other → (Has after.attemptedMask other ↔
      lastResult (taken ++ [(resource, result)]) other ≠ none) := by
    intro other hother
    rw [hattemptedMask, has_or_single hsingle hother, lastResult_append, h.attempted other hother]
    by_cases hsame : resource = other
    · simp [hsame]
    · simp [hsame]
  have hmasks : (∀ other, Single other → (Has after.readyMask other ↔
        lastResult (taken ++ [(resource, result)]) other = some .ok)) ∧
      ∀ other, Single other → (Has after.failedMask other ↔ ∃ last,
        lastResult (taken ++ [(resource, result)]) other = some last ∧ last ≠ .ok) := by
    by_cases hok : result = .ok
    · have hready : after.readyMask = snapshot.readyMask ||| resource ∧
          after.failedMask = snapshot.failedMask &&& ~~~resource := by
        simp only [after, Startup.note]
        rw [if_pos hok]
        exact ⟨rfl, rfl⟩
      rw [hready.1, hready.2]
      refine ⟨fun other hother => ?_, fun other hother => ?_⟩
      · rw [has_or_single hsingle hother, lastResult_append, h.ready other hother]
        by_cases hsame : resource = other
        · simp [hsame, hok]
        · simp [hsame]
      · rw [has_and_not_single hsingle hother, lastResult_append, h.failed other hother]
        by_cases hsame : resource = other
        · simp [hsame, hok]
        · simp [hsame]
    · have hready : after.readyMask = snapshot.readyMask &&& ~~~resource ∧
          after.failedMask = snapshot.failedMask ||| resource := by
        simp only [after, Startup.note]
        rw [if_neg hok]
        split
        · exact ⟨rfl, rfl⟩
        · exact ⟨rfl, rfl⟩
      rw [hready.1, hready.2]
      refine ⟨fun other hother => ?_, fun other hother => ?_⟩
      · rw [has_and_not_single hsingle hother, lastResult_append, h.ready other hother]
        by_cases hsame : resource = other
        · simp [hsame, hok]
        · simp [hsame]
      · rw [has_or_single hsingle hother, lastResult_append, h.failed other hother]
        by_cases hsame : resource = other
        · simp [hsame, hok]
        · simp [hsame]
  have hwithin : ∀ entry ∈ taken ++ [(resource, result)],
      Single entry.1 ∧ Has expectedMask entry.1 := by
    intro entry hentry
    rcases List.mem_append.1 hentry with hentry | hentry
    · exact h.within entry hentry
    · rw [List.mem_singleton] at hentry
      rw [hentry]
      exact ⟨hsingle, hexpected⟩
  -- the failures go on with this one, if it is one
  have hfailures : after.failureCount =
        UInt32.ofNat (failures (taken ++ [(resource, result)])).length ∧
      (after.firstFailedResource, after.firstFailureResult) =
        ((failures (taken ++ [(resource, result)])).head?.map fun entry =>
          (entry.1, entry.2.toWord)).getD (0, 0) ∧
      (after.lastFailedResource, after.lastFailureResult) =
        ((failures (taken ++ [(resource, result)])).getLast?.map fun entry =>
          (entry.1, entry.2.toWord)).getD (0, 0) := by
    rw [failures_append]
    by_cases hok : result = .ok
    · rw [if_pos hok]
      simp only [after, Startup.note]
      rw [if_pos hok]
      exact ⟨h.failureCount, h.first, h.last⟩
    · rw [if_neg hok, List.length_append, List.length_singleton, UInt32.ofNat_add, ← h.failureCount,
        List.getLast?_concat]
      have hfirst := h.first
      simp only [after, Startup.note]
      rw [if_neg hok]
      cases hhead : failures taken with
      | nil =>
        rw [hhead] at hfirst
        obtain ⟨hresource, -⟩ := Prod.mk.inj hfirst
        rw [if_pos hresource]
        exact ⟨rfl, rfl, rfl⟩
      | cons first rest =>
        rw [hhead] at hfirst
        obtain ⟨hresource, -⟩ := Prod.mk.inj hfirst
        have hne : snapshot.firstFailedResource ≠ 0 := by
          have hmem : first ∈ failures taken := hhead ▸ List.mem_cons_self
          rw [hresource]
          exact (h.within first (List.mem_filter.1 hmem).1).1.1
        rw [if_neg hne]
        exact ⟨rfl, hfirst, rfl⟩
  refine ⟨hmask, hattempted, hmasks.1, hmasks.2, hwithin, ?_, hfailures.1, hfailures.2.1,
    hfailures.2.2, ?_⟩
  · dsimp only
    rw [hcount, h.recordCount, List.length_append, List.length_singleton, UInt32.ofNat_add]
    rfl
  · dsimp only
    rw [hmask, ← degraded_iff hwithin hattempted hmasks.2]
    simp

theorem Tells.record (h : Tells expectedMask snapshot taken) (entry : UInt32 × Result) :
    Tells expectedMask (record snapshot entry.1 entry.2)
      (taken ++ accepted expectedMask [entry]) := by
  have hguard : (!isSingleResource entry.1 || entry.1 &&& snapshot.expectedMask = 0) = true ↔
      ¬(Single entry.1 ∧ Has expectedMask entry.1) := by
    rw [h.expected, Bool.or_eq_true, Bool.not_eq_true', ← Bool.not_eq_true, isSingleResource_iff,
      decide_eq_true_eq, UInt32.and_comm, Has, not_and_or, not_not]
  unfold Startup.record accepted
  by_cases htaken : Single entry.1 ∧ Has expectedMask entry.1
  · rw [if_neg (by rw [hguard]; exact not_not.2 htaken), List.filter_cons_of_pos (by simpa using htaken)]
    exact h.note htaken.1 htaken.2
  · rw [if_pos (hguard.2 htaken), List.filter_cons_of_neg (by simpa using htaken), List.filter_nil,
      List.append_nil]
    exact h

theorem tells_init (expectedMask : UInt32) : Tells expectedMask (init expectedMask) [] where
  expected := rfl
  attempted resource _ := iff_of_false (Mask.not_has_zero resource) (by simp [lastResult])
  ready resource _ := iff_of_false (Mask.not_has_zero resource) (by simp [lastResult])
  failed resource _ := iff_of_false (Mask.not_has_zero resource) (by simp [lastResult])
  within entry hentry := absurd hentry List.not_mem_nil
  recordCount := rfl
  failureCount := rfl
  first := rfl
  last := rfl
  degraded := iff_of_false (by simp [init]) (by simp)

/-- **The startup snapshot tells what the records said**, whatever was
recorded in whatever order: each mask the last result of every resource,
the counts and the first and last failure all of the failures, and the
start is degraded exactly while an expected resource is not ready; what is
not an expected resource leaves no trace. -/
theorem startup_recorded (expectedMask : UInt32) (records : List (UInt32 × Result)) :
    Tells expectedMask (recorded expectedMask records) (accepted expectedMask records) := by
  suffices h : ∀ (records : List (UInt32 × Result)) (snapshot : Snapshot)
      (taken : List (UInt32 × Result)), Tells expectedMask snapshot taken →
      Tells expectedMask (run (fun snapshot entry => Startup.record snapshot entry.1 entry.2)
        snapshot records) (taken ++ accepted expectedMask records) from
    h records (init expectedMask) [] (tells_init expectedMask)
  intro records
  induction records with
  | nil =>
    intro snapshot taken h
    rw [accepted, List.filter_nil, List.append_nil]
    exact h
  | cons entry records ih =>
    intro snapshot taken h
    have hsplit : accepted expectedMask (entry :: records) =
        accepted expectedMask [entry] ++ accepted expectedMask records := by
      rw [accepted, ← List.singleton_append, List.filter_append, accepted, accepted]
    rw [run_cons, hsplit, ← List.append_assoc]
    exact ih _ _ (h.record entry)

end Startup

end CanGui
