import CanGui.Common.Run
import CanGui.Tic.Attempts
/-!
# TIC12400 — what the reported switch state is worth

A switch change sets a flag that the driver clears when it reads it, and
the comparator is read in a transaction of its own. What the driver
reports is fresh if the comparator had been read at or after the latest
change whose flag is gone.
-/

namespace CanGui

namespace Tic

variable {machine machine' : Machine} {device device' : Device} {answers : List Answer}
variable {register : Register}

/-! ## Runs -/

inductive Event where
  | process (ticks : Nat → UInt32) (answers : List Answer)
  | setBatterySwitchMask (mask : UInt32) (ticks : Nat → UInt32) (answers : List Answer)
  | interrupt
  /-- The switches move. -/
  | change (inputs : UInt32)

def probeStep (machine : Machine) : Event → Machine
  | .process ticks answers => probeProcess { machine with answers } ticks
  | .setBatterySwitchMask mask ticks answers =>
    (setBatterySwitchMask { machine with answers } mask ticks).2
  | .interrupt => notifyInterruptFromIsr machine
  | .change inputs => { machine with device := machine.device.change inputs }

/-- What the switches are reported to be when the comparator shows
`inputs`. -/
def Machine.shown (machine : Machine) (inputs : UInt32) : UInt32 :=
  machine.activeProfile.decodeComparatorClosed (inputs &&& profileChannelMask)

/-- Valid data is what the comparator showed at or after the latest change
whose flag was read. -/
def Fresh (machine : Machine) : Prop :=
  (getSwitchState machine).dataValid = true →
    ∃ inputs ∈ machine.device.since, (getSwitchState machine).closedBitmap = machine.shown inputs

instance (machine : Machine) : Decidable (Fresh machine) := inferInstanceAs (Decidable (_ → _))

/-- The driver can tell a distorted reply from an answer of the device. -/
def Reply.Detected : Reply → Prop
  | distorted _ frame => Rejected (some frame)
  | _ => True

instance (reply : Reply) : Decidable reply.Detected :=
  match reply with
  | .genuine _ _ => inferInstanceAs (Decidable True)
  | .distorted _ frame => inferInstanceAs (Decidable (Rejected (some frame)))
  | .failed _ => inferInstanceAs (Decidable True)

def Detected (answers : List Answer) : Prop := ∀ answer ∈ answers, answer.reply.Detected

instance (answers : List Answer) : Decidable (Detected answers) :=
  inferInstanceAs (Decidable (∀ answer ∈ answers, answer.reply.Detected))

/-- The call will read the interrupt status. -/
def ServiceDue (machine : Machine) (now : UInt32) : Prop :=
  machine.peripheralReady = true ∧ machine.snapshot.monitoringStarted = true ∧
    (machine.snapshot.interruptPending = true ∨
      probeFallbackPollMs ≤ now - machine.lastServiceTick)

instance (machine : Machine) (now : UInt32) : Decidable (ServiceDue machine now) :=
  inferInstanceAs (Decidable (_ ∧ _))

/-- While a change is reported as read but the comparator was not read
since, a service finds the next change when it reads INT_STAT. -/
def Rearmed (machine : Machine) : Prop :=
  machine.snapshot.switchStateValid = true → machine.device.unsampled = true →
    (readRegister machine .intStat).1.result = .ok → machine.upcoming.ssc = true

instance (machine : Machine) : Decidable (Rearmed machine) :=
  inferInstanceAs (Decidable (_ → _ → _ → _))

/-- The condition on a step. -/
def Sound (machine : Machine) : Event → Prop
  | .process ticks answers => Detected answers ∧
    (ServiceDue machine (ticks 0) → Rearmed { machine with answers })
  | .setBatterySwitchMask _ _ answers => Detected answers
  | _ => True

instance (machine : Machine) (event : Event) : Decidable (Sound machine event) :=
  match event with
  | .process _ _ => inferInstanceAs (Decidable (_ ∧ (_ → _)))
  | .setBatterySwitchMask _ _ answers => inferInstanceAs (Decidable (Detected answers))
  | .interrupt => inferInstanceAs (Decidable True)
  | .change _ => inferInstanceAs (Decidable True)

/-! ## The device -/

/-- The device moves on, by changes of the switches and reads of registers
other than the comparator. -/
structure DeviceStep (device device' : Device) : Prop where
  inputs : device.inputs ∈ device.since → device'.inputs ∈ device'.since
  since : device'.unsampled = false → device.unsampled = false ∧ device.since ⊆ device'.since

theorem DeviceStep.refl (device : Device) : DeviceStep device device :=
  ⟨id, fun h => ⟨h, List.Subset.refl _⟩⟩

theorem DeviceStep.trans {device'' : Device} (h : DeviceStep device device')
    (h' : DeviceStep device' device'') : DeviceStep device device'' where
  inputs := h'.inputs ∘ h.inputs
  since hunsampled := by
    obtain ⟨hunsampled', hsubset'⟩ := h'.since hunsampled
    obtain ⟨hunsampled'', hsubset⟩ := h.since hunsampled'
    exact ⟨hunsampled'', List.Subset.trans hsubset hsubset'⟩

theorem deviceStep_change (device : Device) (inputs : UInt32) :
    DeviceStep device (device.change inputs) where
  inputs _ := List.mem_append_right _ List.mem_cons_self
  since h := ⟨h, List.subset_append_left _ _⟩

theorem deviceStep_clear (device : Device) : DeviceStep device device.clear := by
  unfold Device.clear
  split
  · exact ⟨fun _ => List.mem_cons_self, nofun⟩
  · exact .refl device

theorem deviceStep_upcoming (machine : Machine) : DeviceStep machine.device machine.upcoming := by
  unfold Machine.upcoming
  generalize (machine.answers.headD {}).changes = changes
  generalize machine.device = device
  induction changes generalizing device with
  | nil => exact .refl device
  | cons inputs changes ih => exact (deviceStep_change device inputs).trans (ih _)

/-- An accepted reply is the device's. -/
theorem genuine_of_accepted (hdetected : Detected machine.answers)
    (hok : (exchangeFrame ((machine.answers.headD {}).frame device register)).result = .ok) :
    (machine.answers.headD {}).reply.seen = true ∧
      (exchangeFrame ((machine.answers.headD {}).frame device register)).data =
        device.register register
          (match (machine.answers.headD {}).reply with | .genuine _ others => others | _ => 0) &&&
          registerDataMax := by
  have hmem : (machine.answers.headD {}).reply.Detected := by
    cases hanswers : machine.answers with
    | nil => exact trivial
    | cons answer others => exact hdetected answer (by rw [hanswers]; exact List.mem_cons_self)
  unfold Answer.frame at hok ⊢
  cases hreply : (machine.answers.headD {}).reply with
  | genuine flags others =>
    rw [hreply] at hok
    exact ⟨rfl, data_respond flags _⟩
  | distorted seen frame =>
    rw [hreply] at hok hmem
    exact absurd hok hmem
  | failed seen =>
    rw [hreply] at hok
    cases hok

/-! ## The filter -/

/-- Only fitted switches are stored. -/
def SwitchFilter.Fitted (filter : SwitchFilter) : Prop :=
  filter.stableClosedMask &&& filter.validMask = filter.stableClosedMask

theorem and_and_self (a b : UInt32) : a &&& b &&& b = a &&& b := by
  rw [UInt32.and_assoc, UInt32.and_self]

/-- Masks within another mask that differ nowhere in it are equal. -/
theorem eq_of_xor_and_eq_zero {a b mask : UInt32} (ha : a &&& mask = a) (hb : b &&& mask = b)
    (h : (a ^^^ b) &&& mask = 0) : a = b := by
  have hdistrib : (a ^^^ b) &&& mask = (a &&& mask) ^^^ (b &&& mask) := by
    apply UInt32.toNat_inj.1
    rw [UInt32.toNat_and, UInt32.toNat_xor, UInt32.toNat_xor, UInt32.toNat_and, UInt32.toNat_and,
      Nat.and_xor_distrib_right]
  rw [hdistrib, ha, hb] at h
  exact UInt32.xor_eq_zero_iff.1 h

/-- A commit stores the reading. -/
theorem commitDebouncedMask_spec {filter : SwitchFilter} (h : filter.Fitted)
    (closedMask fittedMask : UInt32) :
    (filter.commitDebouncedMask closedMask fittedMask).2.stableClosedMask =
        closedMask &&& (fittedMask &&& switchMask) ∧
      (filter.commitDebouncedMask closedMask fittedMask).2.Fitted := by
  unfold SwitchFilter.commitDebouncedMask
  dsimp only
  split
  · exact ⟨rfl, and_and_self _ _⟩
  next hvalid =>
  have hvalid : filter.validMask = fittedMask &&& switchMask := not_not.1 hvalid
  have hstored : filter.stableClosedMask &&& (fittedMask &&& switchMask) =
      filter.stableClosedMask := by rw [← hvalid]; exact h
  split
  · next hsame =>
    exact ⟨eq_of_xor_and_eq_zero hstored (and_and_self _ _) hsame, h⟩
  · refine ⟨rfl, ?_⟩
    unfold SwitchFilter.Fitted
    dsimp only
    rw [hvalid]
    exact and_and_self _ _

/-! ## Calls that report nothing new -/

/-- What the probe reports is as it was. -/
structure Kept (machine machine' : Machine) : Prop where
  filter : machine'.filter = machine.filter
  profile : machine'.activeProfile = machine.activeProfile
  bitmap : machine'.snapshot.closedSwitchBitmap = machine.snapshot.closedSwitchBitmap
  valid : machine'.snapshot.switchStateValid = machine.snapshot.switchStateValid
  device : DeviceStep machine.device machine'.device
  answers : Detected machine.answers → Detected machine'.answers

theorem Kept.refl (machine : Machine) : Kept machine machine :=
  ⟨rfl, rfl, rfl, rfl, .refl _, id⟩

theorem Kept.trans {machine'' : Machine} (h : Kept machine machine')
    (h' : Kept machine' machine'') : Kept machine machine'' :=
  ⟨h'.filter.trans h.filter, h'.profile.trans h.profile, h'.bitmap.trans h.bitmap,
    h'.valid.trans h.valid, h.device.trans h'.device, h'.answers ∘ h.answers⟩

theorem detected_tail (h : Detected answers) : Detected answers.tail :=
  fun answer hmem => h answer (List.mem_of_mem_tail hmem)

/-- Calls that touch nothing of what is reported. -/
theorem kept_of_eq (hfilter : machine'.filter = machine.filter)
    (hprofile : machine'.activeProfile = machine.activeProfile)
    (hbitmap : machine'.snapshot.closedSwitchBitmap = machine.snapshot.closedSwitchBitmap)
    (hvalid : machine'.snapshot.switchStateValid = machine.snapshot.switchStateValid)
    (hdevice : machine'.device = machine.device) (hanswers : machine'.answers = machine.answers) :
    Kept machine machine' :=
  ⟨hfilter, hprofile, hbitmap, hvalid, hdevice ▸ .refl _, by rw [hanswers]; exact id⟩

theorem kept_notes (h : Notes machine machine') : Kept machine machine' := by
  obtain ⟨snapshot, rfl⟩ := h.eq
  exact kept_of_eq rfl rfl rfl rfl rfl rfl

theorem kept_readRegister (machine : Machine) (hregister : register ≠ .inStatComp) :
    Kept machine (readRegister machine register).2 := by
  refine ⟨rfl, rfl, rfl, rfl, ?_, detected_tail⟩
  cases register with
  | intStat =>
    unfold readRegister
    dsimp only
    split
    · exact (deviceStep_upcoming machine).trans (deviceStep_clear _)
    · exact deviceStep_upcoming machine
  | inStatComp => exact absurd rfl hregister
  | _ => exact deviceStep_upcoming machine

theorem kept_writeRegister (machine : Machine) (register : Register) :
    Kept machine (writeRegister machine register).2 :=
  ⟨rfl, rfl, rfl, rfl, deviceStep_upcoming machine, detected_tail⟩

/-- No transaction but a reading of the comparator reports anything. -/
theorem keptFrame : Frame Kept where
  notes _ _ := kept_notes
  trans h h' := h.trans h'
  read machine _ hregister := kept_readRegister machine hregister
  write := kept_writeRegister

/-! ## The invariant -/

/-- What holds between any two transactions. -/
structure Base (machine : Machine) : Prop where
  fitted : machine.filter.Fitted
  inputs : machine.device.inputs ∈ machine.device.since
  fresh : machine.snapshot.switchStateValid = true → machine.device.unsampled = false →
    ∃ inputs ∈ machine.device.since, machine.snapshot.closedSwitchBitmap = machine.shown inputs

/-- And after a call: what is reported as served was sampled. -/
structure Inv (machine : Machine) : Prop extends Base machine where
  served : machine.snapshot.switchStateValid = true → machine.snapshot.monitoringStarted = true →
    machine.snapshot.serviceResult = .ok → machine.device.unsampled = false

theorem Base.kept (h : Base machine) (hkept : Kept machine machine') : Base machine' := by
  refine ⟨?_, hkept.device.inputs h.inputs, fun hvalid hunsampled => ?_⟩
  · rw [hkept.filter]
    exact h.fitted
  · obtain ⟨hunsampled', hsubset⟩ := hkept.device.since hunsampled
    rw [hkept.valid] at hvalid
    obtain ⟨inputs, hmem, hshown⟩ := h.fresh hvalid hunsampled'
    refine ⟨inputs, hsubset hmem, ?_⟩
    rw [hkept.bitmap, hshown, Machine.shown, Machine.shown, hkept.profile]

/-- With no valid state there is nothing to be fresh. -/
theorem Base.inv_of_invalid (h : Base machine)
    (hvalid : machine.snapshot.switchStateValid = false) :
    Inv machine :=
  ⟨h, fun hvalid' => absurd hvalid' (by rw [hvalid]; decide)⟩

theorem fresh_of_inv (h : Inv machine) : Fresh machine := by
  intro hvalid
  simp only [getSwitchState, Bool.and_eq_true, decide_eq_true_eq] at hvalid
  exact h.fresh hvalid.1.1 (h.served hvalid.1.1 hvalid.1.2 hvalid.2)

/-- A reading of the comparator is what is reported. -/
theorem shown_commitSample {comparator inputs : UInt32} (h : machine.filter.Fitted)
    (hcomparator : comparator = inputs &&& registerDataMax) :
    (commitSample machine comparator).snapshot.closedSwitchBitmap = machine.shown inputs ∧
      (commitSample machine comparator).filter.Fitted := by
  have hmask : comparator &&& profileChannelMask = inputs &&& profileChannelMask := by
    rw [hcomparator]
    exact and_and_self inputs profileChannelMask
  obtain ⟨hstable, hfitted⟩ := commitDebouncedMask_spec h
    (machine.activeProfile.decodeComparatorClosed (comparator &&& profileChannelMask))
    machine.activeProfile.enabledMask
  refine ⟨?_, hfitted⟩
  refine hstable.trans ?_
  rw [hmask, Machine.shown]
  unfold Profile.decodeComparatorClosed
  exact and_and_self _ _

theorem upcoming_unsampled (machine : Machine) :
    machine.upcoming.unsampled = machine.device.unsampled := by
  unfold Machine.upcoming
  generalize (machine.answers.headD {}).changes = changes
  generalize machine.device = device
  induction changes generalizing device with
  | nil => rfl
  | cons inputs changes ih => exact ih (device.change inputs)

theorem and_max_and_ssc (value : UInt32) :
    value &&& registerDataMax &&& intStatusSsc = value &&& intStatusSsc := by
  rw [UInt32.and_assoc]
  rfl

/-- An accepted INT_STAT shows the flag that it clears. -/
theorem intStat_accepted (hdetected : Detected machine.answers)
    (hok : (readRegister machine .intStat).1.result = .ok)
    (hnone : (readRegister machine .intStat).1.data &&& intStatusSsc = 0) :
    machine.upcoming.ssc = false ∧
      (readRegister machine .intStat).2.device.unsampled = machine.device.unsampled := by
  obtain ⟨-, hdata⟩ := genuine_of_accepted hdetected hok
  have hssc : machine.upcoming.ssc = false := by
    by_contra hset
    rw [Bool.not_eq_false] at hset
    change (exchangeFrame ((machine.answers.headD {}).frame machine.upcoming .intStat)).data &&&
      intStatusSsc = 0 at hnone
    rw [hdata, and_max_and_ssc, Device.register, if_pos hset] at hnone
    have hflag : ∀ value : UInt32, (value ||| intStatusSsc) &&& intStatusSsc ≠ 0 := by
      intro value hzero
      have hbit : ((value ||| intStatusSsc) &&& intStatusSsc).toNat.testBit 3 = true := by
        rw [UInt32.toNat_and, UInt32.toNat_or, Nat.testBit_and, Nat.testBit_or,
          show intStatusSsc.toNat.testBit 3 = true from rfl, Bool.or_true, Bool.and_true]
      rw [hzero] at hbit
      cases hbit
    exact hflag _ hnone
  refine ⟨hssc, ?_⟩
  have hclear : machine.upcoming.clear = machine.upcoming := by
    rw [Device.clear, if_neg (by rw [hssc]; decide)]
  unfold readRegister
  dsimp only
  rw [hclear, ite_self]
  exact upcoming_unsampled machine

/-- A comparator reading that is not accepted changes nothing. -/
theorem kept_readComparator (hrejected : (readRegister machine .inStatComp).1.result ≠ .ok) :
    Kept machine (readRegister machine .inStatComp).2 := by
  refine ⟨rfl, rfl, rfl, rfl, ?_, detected_tail⟩
  have hsame : (readRegister machine .inStatComp).2.device = machine.upcoming := by
    change { machine.upcoming with unsampled := (machine.upcoming.unsampled &&
      decide ((readRegister machine .inStatComp).1.result ≠ .ok)) } = machine.upcoming
    rw [decide_eq_true hrejected, Bool.and_true]
  rw [hsame]
  exact deviceStep_upcoming machine

theorem kept_recordServiceFailure (machine : Machine) (transaction : Transaction) :
    Kept machine (recordServiceFailure machine transaction) := kept_of_eq rfl rfl rfl rfl rfl rfl

/-- A failed service reports nothing as served. -/
theorem inv_recordServiceFailure (h : Base machine) {transaction : Transaction}
    (hfailed : transaction.result ≠ .ok) : Inv (recordServiceFailure machine transaction) :=
  ⟨h.kept (kept_recordServiceFailure machine transaction), fun _ _ hok => absurd hok hfailed⟩

/-- **The comparator is read and reported.** -/
theorem inv_comparator (h : Base machine) (hdetected : Detected machine.answers)
    (hok : (readRegister machine .inStatComp).1.result = .ok) :
    Inv (commitSample ((readRegister machine .inStatComp).2.store
      (readRegister machine .inStatComp).1) (readRegister machine .inStatComp).1.data) := by
  obtain ⟨-, hdata⟩ := genuine_of_accepted hdetected hok
  have hinputs := (deviceStep_upcoming machine).inputs h.inputs
  obtain ⟨hbitmap, hfitted⟩ := shown_commitSample
    h.fitted hdata
  refine ⟨⟨hfitted, hinputs, fun _ _ => ⟨_, hinputs, hbitmap⟩⟩, fun _ _ _ => ?_⟩
  change (machine.upcoming.unsampled &&
    decide ((readRegister machine .inStatComp).1.result ≠ .ok)) = false
  rw [decide_eq_false (not_not.2 hok), Bool.and_false]

/-- **A sample leaves the invariant**, if it does not find everything
served while a change that was read is not sampled. -/
theorem inv_sampleInputs (h : Base machine) (hdetected : Detected machine.answers)
    (hrearmed : Rearmed machine) : Inv (sampleInputs machine).2 := by
  have hserved := kept_notes (notes_served machine)
  have hread : Kept machine ((readRegister machine.served .intStat).2.store
      (readRegister machine.served .intStat).1) :=
    hserved.trans ((kept_readRegister _ (by decide)).trans (kept_notes (notes_store _ _)))
  have hbase := h.kept hread
  have hdetected' := hread.answers hdetected
  unfold sampleInputs
  dsimp only
  unfold sampleComparator
  by_cases hok : (readRegister machine.served .intStat).1.result ≠ .ok
  · rw [if_pos hok]
    exact inv_recordServiceFailure hbase hok
  rw [if_neg hok]
  dsimp only
  by_cases hnone : (readRegister machine.served .intStat).1.data &&& intStatusSsc = 0
  · rw [if_pos hnone]
    obtain ⟨hssc, hunsampled⟩ := intStat_accepted hdetected
      (not_not.1 hok) hnone
    refine ⟨⟨hbase.fitted, hbase.inputs, hbase.fresh⟩, fun hvalid _ _ => ?_⟩
    by_contra hstale
    rw [Bool.not_eq_false] at hstale
    have hset := hrearmed hvalid (hunsampled.symm.trans hstale) (not_not.1 hok)
    rw [show machine.upcoming.ssc = false from hssc] at hset
    cases hset
  rw [if_neg hnone]
  generalize hafter : ({ (readRegister machine.served .intStat).2.store
      (readRegister machine.served .intStat).1 with snapshot := _ } : Machine) = after
  have hbase' : Base after := by
    subst hafter
    exact ⟨hbase.fitted, hbase.inputs, hbase.fresh⟩
  have hdetected'' : Detected after.answers := by
    subst hafter
    exact hdetected'
  by_cases hok' : (readRegister after .inStatComp).1.result ≠ .ok
  · rw [if_pos hok']
    exact inv_recordServiceFailure
      (hbase'.kept ((kept_readComparator hok').trans (kept_notes (notes_store _ _)))) hok'
  · rw [if_neg hok']
    exact inv_comparator hbase' hdetected'' (not_not.1 hok')

/-! ## Configuration -/

/-- While the device is configured, nothing is reported. -/
structure Void (machine : Machine) : Prop where
  base : Base machine
  invalid : machine.snapshot.switchStateValid = false
  detected : Detected machine.answers

theorem Void.kept (h : Void machine) (hkept : Kept machine machine') : Void machine' :=
  ⟨h.base.kept hkept, hkept.valid.trans h.invalid, hkept.answers h.detected⟩

theorem Void.inv (h : Void machine) : Inv machine := h.base.inv_of_invalid h.invalid

theorem base_of_invalid (hfitted : machine.filter.Fitted)
    (hinputs : machine.device.inputs ∈ machine.device.since)
    (hinvalid : machine.snapshot.switchStateValid = false) : Base machine :=
  ⟨hfitted, hinputs, fun hvalid => absurd hvalid (by rw [hinvalid]; decide)⟩

theorem inv_markOffline (h : Base machine) : Inv (markOffline machine) := by
  have hoffline : Base (markOffline machine) := base_of_invalid h.fitted h.inputs rfl
  exact hoffline.inv_of_invalid rfl

theorem inv_lastServiceTick (h : Inv machine) (tick : UInt32) :
    Inv { machine with lastServiceTick := tick } := ⟨⟨h.fitted, h.inputs, h.fresh⟩, h.served⟩

theorem inv_recovery (h : Inv machine) (recovery : RecoveryState) :
    Inv { machine with recovery } := ⟨⟨h.fitted, h.inputs, h.fresh⟩, h.served⟩

theorem inv_startMonitoring (h : Void machine) (tick : UInt32) :
    Inv (startMonitoring machine tick) := by
  unfold startMonitoring
  dsimp only
  refine inv_lastServiceTick (inv_sampleInputs ?_ ?_ ?_) tick
  · exact base_of_invalid h.base.fitted h.base.inputs h.invalid
  · exact h.detected
  · intro hvalid
    exact absurd hvalid (by rw [h.invalid]; decide)

/-- **A configuration** ends with a sample, or reports nothing. -/
theorem inv_configureInputs (h : Base machine) (hdetected : Detected machine.answers)
    (tick : UInt32) : Inv (configureInputs machine tick) := by
  have hbegun : Void (beginConfiguration machine) :=
    ⟨base_of_invalid h.fitted h.inputs rfl, rfl, hdetected⟩
  obtain ⟨reached, hkept, hends | hstarts⟩ := keptFrame.configureInputs machine tick
  · rw [hends]
    exact (hbegun.kept hkept).inv
  · rw [hstarts]
    exact inv_startMonitoring (hbegun.kept hkept) tick

theorem inv_finishInitialize (h : Void machine) (tick : UInt32) :
    Inv (finishInitialize machine tick).2 := by
  have hconfigured := inv_configureInputs h.base h.detected tick
  unfold finishInitialize
  generalize configureInputs machine tick = configured at *
  dsimp only
  split
  · exact ⟨⟨hconfigured.fitted, hconfigured.inputs, hconfigured.fresh⟩, hconfigured.served⟩
  · exact ⟨⟨hconfigured.fitted, hconfigured.inputs, hconfigured.fresh⟩, hconfigured.served⟩

/-- **An attempt to initialise** starts from nothing. -/
theorem inv_attemptInitialize (hinputs : machine.device.inputs ∈ machine.device.since)
    (hdetected : Detected machine.answers) (tick : UInt32) :
    Inv (attemptInitialize machine tick).2 := by
  have hreset : Void (hardwareReset (resetAttempt machine)) :=
    ⟨base_of_invalid (show SwitchFilter.Fitted {} from rfl) hinputs rfl, rfl, hdetected⟩
  obtain ⟨reached, hkept, hends | hfinishes⟩ := keptFrame.attemptInitialize machine tick
  · rw [hends]
    exact (hreset.kept hkept).inv
  · rw [hfinishes]
    exact inv_finishInitialize (hreset.kept hkept) tick

/-! ## Every run -/

theorem inv_processOffline (h : Inv machine) (hdetected : Detected machine.answers)
    (ticks : Nat → UInt32) : Inv (processOffline machine ticks) := by
  unfold processOffline
  split
  · exact h
  have hattempt := inv_attemptInitialize h.inputs hdetected (ticks 1)
  generalize attemptInitialize machine (ticks 1) = attempt at *
  obtain ⟨succeeded, attempt⟩ := attempt
  dsimp only at hattempt ⊢
  have hrecorded := inv_recovery hattempt
    (attempt.recovery.recordReinitializationResult (ticks 2) succeeded)
  split
  · exact hrecorded
  · exact inv_markOffline hrecorded.toBase

theorem inv_processService (h : Inv machine) (hdetected : Detected machine.answers)
    (now : UInt32) (hrearmed : machine.snapshot.interruptPending = true ∨
      probeFallbackPollMs ≤ now - machine.lastServiceTick → Rearmed machine) :
    Inv (processService machine now) := by
  unfold processService
  split
  · exact h
  next hdue =>
  have hsampled := inv_sampleInputs h.toBase hdetected (hrearmed (by
    simp only [Bool.and_eq_true, Bool.not_eq_true', decide_eq_true_eq, not_and] at hdue
    by_cases hpending : machine.snapshot.interruptPending = true
    · exact .inl hpending
    · exact .inr (UInt32.not_lt.1 (hdue (Bool.eq_false_of_not_eq_true hpending)))))
  generalize sampleInputs machine = sampled at *
  obtain ⟨succeeded, sampled⟩ := sampled
  dsimp only at hsampled ⊢
  generalize sampled.recovery.recordServiceResult now succeeded = recorded
  obtain ⟨becameOffline, recovery⟩ := recorded
  have hrecorded := inv_recovery hsampled recovery
  dsimp only
  refine inv_lastServiceTick ?_ now
  split
  · exact inv_markOffline hrecorded.toBase
  · exact hrecorded

theorem inv_setBatterySwitchMask (h : Inv machine) (hdetected : Detected machine.answers)
    (mask : UInt32) (ticks : Nat → UInt32) :
    Inv (setBatterySwitchMask machine mask ticks).2 := by
  unfold setBatterySwitchMask
  split
  · exact h
  split
  · exact h
  split
  · exact h
  have hconfigured : Inv (configureInputs
      { machine with requestedBatterySwitchMask := mask, filter := {} } (ticks 0)) := by
    have hcleared : Base { machine with requestedBatterySwitchMask := mask, filter := {} } :=
      ⟨show SwitchFilter.Fitted {} from rfl, h.inputs, h.fresh⟩
    exact inv_configureInputs hcleared hdetected (ticks 0)
  generalize configureInputs { machine with requestedBatterySwitchMask := mask, filter := {} }
    (ticks 0) = configured at *
  dsimp only
  have hrecorded := inv_recovery hconfigured
    (configured.recovery.recordInitialResult (ticks 1) configured.snapshot.configurationPassed)
  split
  · exact ⟨⟨hrecorded.fitted, hrecorded.inputs, hrecorded.fresh⟩, hrecorded.served⟩
  · exact inv_markOffline ⟨hrecorded.fitted, hrecorded.inputs, hrecorded.fresh⟩

theorem inv_probeStep (machine : Machine) (event : Event) (hsound : Sound machine event)
    (h : Inv machine) : Inv (probeStep machine event) := by
  cases event with
  | interrupt => exact ⟨⟨h.fitted, h.inputs, h.fresh⟩, h.served⟩
  | change inputs =>
    have hmoved : Base { machine with device := machine.device.change inputs } :=
      h.toBase.kept ⟨rfl, rfl, rfl, rfl, deviceStep_change _ _, id⟩
    exact ⟨hmoved, h.served⟩
  | setBatterySwitchMask mask ticks answers =>
    have hloaded : Inv { machine with answers } := ⟨⟨h.fitted, h.inputs, h.fresh⟩, h.served⟩
    exact inv_setBatterySwitchMask hloaded hsound mask ticks
  | process ticks answers =>
    obtain ⟨hdetected, hrearmed⟩ := hsound
    have hloaded : Inv { machine with answers } := ⟨⟨h.fitted, h.inputs, h.fresh⟩, h.served⟩
    rw [probeStep, probeProcess]
    split
    · exact hloaded
    next hready =>
    split
    · exact inv_processOffline hloaded hdetected ticks
    next hstarted =>
    refine inv_processService hloaded hdetected (ticks 0) fun hdue => hrearmed ⟨?_, ?_, hdue⟩
    · simpa using hready
    · simpa using hstarted

theorem inv_probeInit {peripheralReady : Bool} {ticks : Nat → UInt32}
    (hinputs : device.inputs ∈ device.since) (hdetected : Detected answers) :
    Inv (probeInit device answers peripheralReady ticks) := by
  unfold probeInit
  dsimp only
  split
  · exact inv_markOffline (base_of_invalid (show SwitchFilter.Fitted {} from rfl) hinputs rfl)
  have hattempt := @inv_attemptInitialize
    { lastServiceTick := ticks 0, peripheralReady, device, answers }
    hinputs hdetected (ticks 1)
  generalize attemptInitialize { lastServiceTick := ticks 0, peripheralReady, device, answers }
    (ticks 1) = attempt at *
  obtain ⟨succeeded, attempt⟩ := attempt
  dsimp only at hattempt ⊢
  have hrecorded := inv_recovery hattempt
    (attempt.recovery.recordInitialResult (ticks 2) succeeded)
  generalize ({ attempt with recovery := _ } : Machine) = recorded at *
  split
  · exact hrecorded
  · exact inv_markOffline hrecorded.toBase

/-- The device answers with the given bits. -/
def answer (others : UInt32) : Answer := { reply := .genuine 0 others }

/-- A verified write. -/
def verified (value : UInt32) : List Answer := [answer 0, answer value]

/-- A configuration that passes, with the answers that the first sample
reads. -/
def configured (baseline : List Answer) : List Answer :=
  ((configuration carrierBinary).map fun write => verified write.2).flatten ++
    [answer 0, answer configBinaryBase, answer intStatusCrcCalcMask, answer 0] ++
    verified (configBinaryBase ||| configTrigger) ++ baseline

/-- An initialisation that passes, with a baseline change of the
switches. -/
def initialized : List Answer :=
  [answer expectedDeviceId, answer 0] ++
    configured [{ changes := [0], reply := .genuine 0 0 }, answer 0]

/-- The device is initialised, and answers. -/
def started : Machine := probeInit {} initialized true fun _ => 0

/-- A switch moves; INT_STAT is read and cleared, the reading of the
comparator fails; the next service finds no change. -/
def lostChange : List Event :=
  [.change 1, .process (fun _ => 500) [answer 0, { reply := .failed false }],
    .process (fun _ => 1000) [answer 0]]

end Tic

end CanGui
