import CanGui.Tic.Probe
/-!
# TIC12400 — what a configuration and an attempt to initialise pass through

Both are a list of transactions, each of which may end them. A relation
that every transaction and every note of its outcome respects holds from
their start to wherever they end. So they leave the recovery alone, and
monitoring is on behind them exactly if they succeed.
-/

namespace CanGui

namespace Tic

/-- The outcome of transactions is noted, and nothing else of the
snapshot. -/
structure Notes (machine machine' : Machine) : Prop where
  eq : ∃ snapshot : Snapshot, machine' = { machine with snapshot := { machine.snapshot with
    batteryCapableMask := snapshot.batteryCapableMask
    batterySwitchMask := snapshot.batterySwitchMask
    configurationResult := snapshot.configurationResult
    result := snapshot.result
    status := snapshot.status
    deviceId := snapshot.deviceId
    porObserved := snapshot.porObserved
    interruptPending := snapshot.interruptPending
    crcCompleted := snapshot.crcCompleted } }

/-- A relation that holds over transactions and notes. -/
structure Frame (R : Machine → Machine → Prop) : Prop where
  notes : ∀ machine machine', Notes machine machine' → R machine machine'
  trans : ∀ {machine machine' machine''}, R machine machine' → R machine' machine'' →
    R machine machine''
  read : ∀ machine register, register ≠ .inStatComp → R machine (readRegister machine register).2
  write : ∀ machine register, R machine (writeRegister machine register).2

variable {machine machine' : Machine}

/-! ## Notes -/

theorem notes_refl (machine : Machine) : Notes machine machine := ⟨machine.snapshot, rfl⟩

theorem notes_store (machine : Machine) (transaction : Transaction) :
    Notes machine (machine.store transaction) := ⟨(machine.store transaction).snapshot, rfl⟩

theorem notes_configurationFailed (machine : Machine) (result : Result) :
    Notes machine (machine.configurationFailed result) :=
  ⟨(machine.configurationFailed result).snapshot, rfl⟩

theorem notes_crcCompleted (machine : Machine) :
    Notes machine { machine with snapshot := { machine.snapshot with crcCompleted := true } } :=
  ⟨{ machine.snapshot with crcCompleted := true }, rfl⟩

theorem notes_served (machine : Machine) : Notes machine machine.served :=
  ⟨machine.served.snapshot, rfl⟩

theorem notes_observePor (machine : Machine) (observed : Bool) :
    Notes machine (machine.observePor observed) := ⟨(machine.observePor observed).snapshot, rfl⟩

theorem notes_identify (machine : Machine) (transaction : Transaction) :
    Notes machine (machine.identify transaction) := ⟨(machine.identify transaction).snapshot, rfl⟩

theorem notes_masks (machine : Machine) (capable mask : UInt32) :
    Notes machine { machine with snapshot := { machine.snapshot with
      batteryCapableMask := capable, batterySwitchMask := mask } } :=
  ⟨{ machine.snapshot with batteryCapableMask := capable, batterySwitchMask := mask }, rfl⟩

/-! ## Transactions -/

namespace Frame

variable {R : Machine → Machine → Prop}

theorem refl (frame : Frame R) (machine : Machine) : R machine machine :=
  frame.notes _ _ (notes_refl machine)

/-- A read, with its outcome stored. -/
theorem readStored (frame : Frame R) (machine : Machine) {register : Register}
    (hregister : register ≠ .inStatComp) :
    R machine ((readRegister machine register).2.store (readRegister machine register).1) :=
  frame.trans (frame.read machine register hregister) (frame.notes _ _ (notes_store _ _))

theorem writeStored (frame : Frame R) (machine : Machine) (register : Register) :
    R machine ((writeRegister machine register).2.store (writeRegister machine register).1) :=
  frame.trans (frame.write machine register) (frame.notes _ _ (notes_store _ _))

theorem failed (frame : Frame R) (h : R machine machine') (result : Result) :
    R machine (machine'.configurationFailed result) :=
  frame.trans h (frame.notes _ _ (notes_configurationFailed _ _))

theorem writeAndVerify (frame : Frame R) (machine : Machine) {register : Register}
    (hregister : register ≠ .inStatComp) (expected : UInt32) :
    R machine (writeAndVerify machine register expected).2 := by
  have hwritten := frame.writeStored machine register
  have hread := frame.trans hwritten (frame.readStored _ hregister)
  unfold Tic.writeAndVerify
  dsimp only
  split
  · exact frame.failed hwritten _
  split
  · exact frame.failed hread _
  split
  · exact frame.failed hread _
  · exact hread

theorem writeAll (frame : Frame R) (writes : List (Register × UInt32))
    (hregister : ∀ write ∈ writes, write.1 ≠ .inStatComp) (machine : Machine) :
    R machine (writeAll writes machine).2 := by
  induction writes generalizing machine with
  | nil => exact frame.refl machine
  | cons write writes ih =>
    have hfirst := frame.writeAndVerify machine (hregister write List.mem_cons_self) write.2
    have hothers := ih fun write hmem => hregister write (List.mem_cons_of_mem _ hmem)
    unfold Tic.writeAll
    dsimp only
    split
    · exact frame.trans hfirst (hothers _)
    · exact hfirst

theorem pollConfig (frame : Frame R) (fuel : Nat) (machine : Machine) :
    R machine (pollConfig fuel machine).2 := by
  induction fuel generalizing machine with
  | zero => exact frame.failed (frame.refl machine) _
  | succ fuel ih =>
    have hread := @readStored R frame machine .config (by decide)
    unfold Tic.pollConfig
    dsimp only
    split
    · exact frame.failed hread _
    split
    · exact hread
    · exact frame.trans hread (ih _)

theorem finishConfigurationCrc (frame : Frame R) (configValue : UInt32)
    (polled : Option UInt32 × Machine) :
    R polled.2 (finishConfigurationCrc configValue polled).2 := by
  obtain ⟨readback, machine⟩ := polled
  cases readback with
  | none => exact frame.refl machine
  | some readback =>
    have hstatus := @readStored R frame machine .intStat (by decide)
    have hcrc := frame.trans hstatus (@readStored R frame _ .crc (by decide))
    unfold Tic.finishConfigurationCrc
    dsimp only
    split
    · exact frame.failed (frame.refl machine) _
    split
    · exact frame.failed hstatus _
    split
    · exact frame.failed hstatus _
    split
    · exact frame.failed hcrc _
    · exact frame.trans hcrc (frame.notes _ _ (notes_crcCompleted _))

theorem runConfigurationCrc (frame : Frame R) (machine : Machine) (configValue : UInt32) :
    R machine (runConfigurationCrc machine configValue).2 := by
  have hwritten := frame.writeStored machine .config
  unfold Tic.runConfigurationCrc
  dsimp only
  split
  · exact frame.failed hwritten _
  · exact frame.trans (frame.trans hwritten (frame.pollConfig probeCrcPollReads _))
      (frame.finishConfigurationCrc configValue _)

theorem readDeviceId (frame : Frame R) (machine : Machine) :
    R machine (readDeviceId machine).2 := by
  have hread := frame.read machine .deviceId (by decide)
  unfold Tic.readDeviceId
  dsimp only
  split
  · exact hread
  · exact hread

theorem clearLatchedFault (frame : Frame R) (machine : Machine) :
    R machine (clearLatchedFault machine).2 := by
  have hread := frame.read machine .intStat (by decide)
  unfold Tic.clearLatchedFault
  generalize readRegister machine .intStat = read at *
  obtain ⟨status, read⟩ := read
  dsimp only at hread ⊢
  have hobserved := frame.trans hread (frame.notes _ _ (notes_observePor read
    (decide (status.data &&& 1 ≠ 0) || status.status.powerOnReset)))
  generalize read.observePor _ = observed at *
  have hserved : R machine
      (if (status.halOk && frameHasOddParity status.rxFrame) = true then observed.served
        else observed) := by
    split
    · exact frame.trans hobserved (frame.notes _ _ (notes_served observed))
    · exact hobserved
  generalize (if (status.halOk && frameHasOddParity status.rxFrame) = true then observed.served
    else observed) = served at *
  have hidentity := frame.trans hserved (frame.readDeviceId served)
  generalize Tic.readDeviceId served = identity at *
  obtain ⟨transaction, identified⟩ := identity
  have hidentified :=
    frame.trans hidentity (frame.notes _ _ (notes_identify identified transaction))
  exact frame.trans hidentified (frame.notes _ _ (notes_observePor _ _))

theorem capturePor (frame : Frame R) (machine : Machine) : R machine (capturePor machine).2 := by
  have hread := frame.read machine .intStat (by decide)
  unfold Tic.capturePor
  generalize readRegister machine .intStat = read at *
  obtain ⟨status, read⟩ := read
  dsimp only at hread ⊢
  have hobserved := frame.trans hread (frame.notes _ _
    (notes_observePor read (decide (status.data &&& 1 ≠ 0))))
  split
  · exact frame.trans hobserved (frame.notes _ _ (notes_store _ _))
  · exact frame.trans hobserved (frame.notes _ _ (notes_served _))

/-! ## The calls made of them -/

theorem configuration_registers (profile : Profile) :
    ∀ write ∈ configuration profile, write.1 ≠ .inStatComp := by
  intro write hmem
  simp only [configuration, List.mem_cons, List.not_mem_nil, or_false] at hmem
  rcases hmem with rfl | rfl | rfl | rfl | rfl | rfl | rfl | rfl | rfl | rfl <;> nofun

/-- **A configuration** ends somewhere on its way, or starts the monitoring
behind it. -/
theorem configureInputs (frame : Frame R) (machine : Machine) (tick : UInt32) :
    ∃ reached, R (beginConfiguration machine) reached ∧
      (configureInputs machine tick = reached ∨
        configureInputs machine tick = startMonitoring reached tick) := by
  unfold Tic.configureInputs
  generalize beginConfiguration machine = begun
  dsimp only
  split
  · exact ⟨_, frame.failed (frame.refl begun) _, .inl rfl⟩
  generalize hmasks : ({ begun with snapshot := _ } : Machine) = masked
  have hmasked : R begun masked := by
    subst hmasks
    exact frame.notes _ _ (notes_masks begun _ _)
  have hwritten := frame.trans hmasked
    (frame.writeAll (configuration begun.activeProfile) (configuration_registers _) masked)
  generalize Tic.writeAll (configuration begun.activeProfile) masked = written at *
  obtain ⟨succeeded, written⟩ := written
  cases succeeded with
  | false => exact ⟨written, hwritten, .inl rfl⟩
  | true =>
    dsimp only
    have hchecked := frame.trans hwritten (frame.runConfigurationCrc written configBinaryBase)
    generalize Tic.runConfigurationCrc written configBinaryBase = checked at *
    obtain ⟨succeeded, checked⟩ := checked
    cases succeeded with
    | false => exact ⟨checked, hchecked, .inl rfl⟩
    | true =>
      dsimp only
      have htriggered := frame.trans hchecked (@writeAndVerify R frame checked .config (by decide)
        (configBinaryBase ||| configTrigger))
      generalize Tic.writeAndVerify checked .config (configBinaryBase ||| configTrigger) =
        triggered at *
      obtain ⟨succeeded, triggered⟩ := triggered
      cases succeeded with
      | false => exact ⟨triggered, htriggered, .inl rfl⟩
      | true => exact ⟨triggered, htriggered, .inr rfl⟩

/-- **An attempt to initialise** ends before the configuration, or with
it. -/
theorem attemptInitialize (frame : Frame R) (machine : Machine) (tick : UInt32) :
    ∃ reached, R (hardwareReset (resetAttempt machine)) reached ∧
      (attemptInitialize machine tick = (false, reached) ∨
        attemptInitialize machine tick = finishInitialize reached tick) := by
  have hidentity := frame.readDeviceId (hardwareReset (resetAttempt machine))
  unfold Tic.attemptInitialize
  generalize Tic.readDeviceId (hardwareReset (resetAttempt machine)) = identity at *
  obtain ⟨transaction, identity⟩ := identity
  dsimp only at hidentity ⊢
  have hobserved := frame.trans hidentity (frame.trans
    (frame.notes _ _ (notes_identify identity transaction))
    (frame.notes _ _ (notes_observePor _ transaction.status.powerOnReset)))
  generalize (identity.identify transaction).observePor transaction.status.powerOnReset =
    observed at *
  split
  · have hcleared := frame.trans hobserved (frame.clearLatchedFault observed)
    generalize Tic.clearLatchedFault observed = cleared at *
    obtain ⟨transaction, cleared⟩ := cleared
    dsimp only at hcleared ⊢
    split
    · exact ⟨cleared, hcleared, .inl rfl⟩
    · exact ⟨cleared, hcleared, .inr rfl⟩
  split
  · exact ⟨observed, hobserved, .inl rfl⟩
  have hcaptured := frame.trans hobserved (frame.capturePor observed)
  generalize Tic.capturePor observed = captured at *
  obtain ⟨succeeded, captured⟩ := captured
  cases succeeded with
  | false => exact ⟨captured, hcaptured, .inl rfl⟩
  | true => exact ⟨captured, hcaptured, .inr rfl⟩

end Frame

/-! ## What the transactions leave -/

/-- What the recovery depends on is left. -/
structure Quiet (machine machine' : Machine) : Prop where
  recovery : machine'.recovery = machine.recovery
  ready : machine'.peripheralReady = machine.peripheralReady
  requested : machine'.requestedBatterySwitchMask = machine.requestedBatterySwitchMask
  profile : machine'.activeProfile = machine.activeProfile
  passed : machine'.snapshot.configurationPassed = machine.snapshot.configurationPassed
  started : machine'.snapshot.monitoringStarted = machine.snapshot.monitoringStarted

theorem Quiet.trans {machine'' : Machine} (h : Quiet machine machine')
    (h' : Quiet machine' machine'') : Quiet machine machine'' :=
  ⟨h'.recovery.trans h.recovery, h'.ready.trans h.ready, h'.requested.trans h.requested,
    h'.profile.trans h.profile, h'.passed.trans h.passed, h'.started.trans h.started⟩

theorem quiet_readRegister (machine : Machine) (register : Register) :
    Quiet machine (readRegister machine register).2 := ⟨rfl, rfl, rfl, rfl, rfl, rfl⟩

theorem quietFrame : Frame Quiet where
  notes machine machine' h := by
    obtain ⟨snapshot, rfl⟩ := h.eq
    exact ⟨rfl, rfl, rfl, rfl, rfl, rfl⟩
  trans h h' := h.trans h'
  read machine register _ := quiet_readRegister machine register
  write machine register := ⟨rfl, rfl, rfl, rfl, rfl, rfl⟩

theorem quiet_sampleComparator (machine : Machine) (interruptStatus : Transaction) :
    Quiet machine (sampleComparator machine interruptStatus).2 := by
  unfold sampleComparator
  by_cases hread : interruptStatus.result ≠ .ok
  · rw [if_pos hread]
    exact ⟨rfl, rfl, rfl, rfl, rfl, rfl⟩
  rw [if_neg hread]
  dsimp only
  by_cases hnone : interruptStatus.data &&& intStatusSsc = 0
  · rw [if_pos hnone]
    exact ⟨rfl, rfl, rfl, rfl, rfl, rfl⟩
  rw [if_neg hnone]
  generalize hnoted : ({ machine with snapshot := _ } : Machine) = noted
  have hquiet : Quiet machine noted := by
    subst hnoted
    exact ⟨rfl, rfl, rfl, rfl, rfl, rfl⟩
  have hcomparator := hquiet.trans (quiet_readRegister noted .inStatComp)
  split
  · exact hcomparator.trans ⟨rfl, rfl, rfl, rfl, rfl, rfl⟩
  · exact hcomparator.trans ⟨rfl, rfl, rfl, rfl, rfl, rfl⟩

theorem quiet_sampleInputs (machine : Machine) : Quiet machine (sampleInputs machine).2 := by
  have hread : Quiet machine ((readRegister machine.served .intStat).2.store
      (readRegister machine.served .intStat).1) := ⟨rfl, rfl, rfl, rfl, rfl, rfl⟩
  exact hread.trans (quiet_sampleComparator _ _)

/-- What a configuration leaves, and what it decides: whether it passed,
which starts the monitoring with the mask that is requested. -/
structure Configured (machine machine' : Machine) : Prop where
  recovery : machine'.recovery = machine.recovery
  ready : machine'.peripheralReady = machine.peripheralReady
  requested : machine'.requestedBatterySwitchMask = machine.requestedBatterySwitchMask
  mask : machine'.activeProfile.batterySwitchMask = machine.requestedBatterySwitchMask
  started : machine'.snapshot.monitoringStarted = machine'.snapshot.configurationPassed

theorem configureInputs_configured (machine : Machine) (tick : UInt32) :
    Configured machine (configureInputs machine tick) := by
  obtain ⟨reached, hquiet, hends | hstarts⟩ := quietFrame.configureInputs machine tick
  · rw [hends]
    exact ⟨hquiet.recovery, hquiet.ready, hquiet.requested,
      congrArg Profile.batterySwitchMask hquiet.profile, hquiet.started.trans hquiet.passed.symm⟩
  · rw [hstarts]
    unfold startMonitoring
    dsimp only
    generalize hbegun : ({ reached with
      profileGeneration := _, appliedBatterySwitchMask := _, profileApplied := _,
      snapshot := _ } : Machine) = begun
    have hsampled := quiet_sampleInputs begun
    subst hbegun
    refine ⟨hsampled.recovery.trans hquiet.recovery, hsampled.ready.trans hquiet.ready,
      hsampled.requested.trans hquiet.requested, ?_, ?_⟩
    · exact congrArg Profile.batterySwitchMask (hsampled.profile.trans hquiet.profile)
    · exact hsampled.started.trans hsampled.passed.symm

/-- What an attempt to initialise leaves and decides. -/
structure Attempted (machine : Machine) (attempt : Bool × Machine) : Prop where
  recovery : attempt.2.recovery = machine.recovery
  ready : attempt.2.peripheralReady = machine.peripheralReady
  requested : attempt.2.requestedBatterySwitchMask = machine.requestedBatterySwitchMask
  started : attempt.2.snapshot.monitoringStarted = attempt.1
  mask : machine.activeProfile.batterySwitchMask = machine.requestedBatterySwitchMask →
    attempt.2.activeProfile.batterySwitchMask = machine.requestedBatterySwitchMask

theorem attemptInitialize_attempted (machine : Machine) (tick : UInt32) :
    Attempted machine (attemptInitialize machine tick) := by
  obtain ⟨reached, hquiet, hends | hfinishes⟩ := quietFrame.attemptInitialize machine tick
  · rw [hends]
    exact ⟨hquiet.recovery, hquiet.ready, hquiet.requested, hquiet.started,
      (congrArg Profile.batterySwitchMask hquiet.profile).trans⟩
  · rw [hfinishes]
    have hconfigured := configureInputs_configured reached tick
    unfold finishInitialize
    dsimp only
    split
    next hpassed =>
      exact ⟨hconfigured.recovery.trans hquiet.recovery, hconfigured.ready.trans hquiet.ready,
        hconfigured.requested.trans hquiet.requested, hconfigured.started.trans hpassed,
        fun _ => hconfigured.mask.trans hquiet.requested⟩
    next hnot =>
      exact ⟨hconfigured.recovery.trans hquiet.recovery, hconfigured.ready.trans hquiet.ready,
        hconfigured.requested.trans hquiet.requested,
        hconfigured.started.trans (eq_false_of_ne_true hnot),
        fun _ => hconfigured.mask.trans hquiet.requested⟩

/-! ## What the calls do -/

/-- What Process does with monitoring off. -/
inductive OfflineOutcome (machine : Machine) (ticks : Nat → UInt32) : Machine → Prop
  | waits (hnot : machine.recovery.shouldReinitialize (ticks 0) = false) :
    OfflineOutcome machine ticks machine
  | attempted {machine' : Machine} (succeeded : Bool)
    (hdue : machine.recovery.shouldReinitialize (ticks 0) = true)
    (hrecovery : machine'.recovery =
      machine.recovery.recordReinitializationResult (ticks 2) succeeded)
    (hready : machine'.peripheralReady = machine.peripheralReady)
    (hstarted : machine'.snapshot.monitoringStarted = succeeded)
    (hrequested : machine'.requestedBatterySwitchMask = machine.requestedBatterySwitchMask)
    (hmask : machine.activeProfile.batterySwitchMask = machine.requestedBatterySwitchMask →
      machine'.activeProfile.batterySwitchMask = machine.requestedBatterySwitchMask) :
    OfflineOutcome machine ticks machine'

theorem processOffline_outcome (machine : Machine) (ticks : Nat → UInt32) :
    OfflineOutcome machine ticks (processOffline machine ticks) := by
  unfold processOffline
  by_cases hdue : machine.recovery.shouldReinitialize (ticks 0) = true
  · rw [if_neg (by simp [hdue])]
    have hattempted := attemptInitialize_attempted machine (ticks 1)
    generalize attemptInitialize machine (ticks 1) = attempt at *
    obtain ⟨succeeded, attempt⟩ := attempt
    have hrecovery : attempt.recovery = machine.recovery := hattempted.recovery
    dsimp only
    rw [hrecovery]
    cases succeeded with
    | true =>
      exact .attempted true hdue rfl hattempted.ready hattempted.started hattempted.requested
        hattempted.mask
    | false =>
      exact .attempted false hdue rfl hattempted.ready rfl hattempted.requested hattempted.mask
  · rw [if_pos (by simpa using hdue)]
    exact .waits (Bool.eq_false_of_not_eq_true hdue)

/-- The result of a service leaves the schedule, or takes the device offline. -/
theorem RecoveryState.recordServiceResult_cases (state : RecoveryState) (now : UInt32)
    (succeeded : Bool) :
    ∃ failures, state.recordServiceResult now succeeded =
        (false, { state with consecutiveFailures := failures }) ∨
      state.recordServiceResult now succeeded =
        (true, schedule { state with
          consecutiveFailures := failures
          offlineEvents := state.offlineEvents + 1 } now recoveryInitialDelayMs) := by
  cases succeeded with
  | true => exact ⟨0, .inl rfl⟩
  | false =>
    unfold recordServiceResult
    rw [if_neg Bool.false_ne_true]
    by_cases hmore : state.consecutiveFailures < 0xFFFFFFFF
    · rw [if_pos hmore]
      dsimp only
      split
      · exact ⟨_, .inl rfl⟩
      · exact ⟨_, .inr rfl⟩
    · rw [if_neg hmore]
      dsimp only
      split
      · exact ⟨state.consecutiveFailures, .inl rfl⟩
      · exact ⟨state.consecutiveFailures, .inr rfl⟩

/-- What Process does with monitoring on. -/
structure ServiceOutcome (machine : Machine) (now : UInt32) (machine' : Machine) : Prop where
  recovery : ∃ failures,
    machine'.recovery = { machine.recovery with consecutiveFailures := failures } ∧
        machine'.snapshot.monitoringStarted = machine.snapshot.monitoringStarted ∨
      machine'.recovery = RecoveryState.schedule { machine.recovery with
        consecutiveFailures := failures
        offlineEvents := machine.recovery.offlineEvents + 1 } now recoveryInitialDelayMs ∧
        machine'.snapshot.monitoringStarted = false
  ready : machine'.peripheralReady = machine.peripheralReady
  requested : machine'.requestedBatterySwitchMask = machine.requestedBatterySwitchMask
  profile : machine'.activeProfile = machine.activeProfile

theorem processService_outcome (machine : Machine) (now : UInt32) :
    ServiceOutcome machine now (processService machine now) := by
  unfold processService
  split
  · exact ⟨⟨_, .inl ⟨rfl, rfl⟩⟩, rfl, rfl, rfl⟩
  have hsampled := quiet_sampleInputs machine
  generalize sampleInputs machine = sampled at *
  obtain ⟨succeeded, sampled⟩ := sampled
  have hrecovery : sampled.recovery = machine.recovery := hsampled.recovery
  dsimp only
  rw [hrecovery]
  obtain ⟨failures, hleft | hoffline⟩ := machine.recovery.recordServiceResult_cases now succeeded
  · rw [hleft]
    exact ⟨⟨failures, .inl ⟨rfl, hsampled.started⟩⟩, hsampled.ready, hsampled.requested,
      hsampled.profile⟩
  · rw [hoffline]
    exact ⟨⟨failures, .inr ⟨rfl, rfl⟩⟩, hsampled.ready, hsampled.requested, hsampled.profile⟩

/-- The call requests the polarity. -/
def PassesChecks (machine : Machine) (mask : UInt32) : Prop :=
  machine.peripheralReady = true ∧
    Profile.validate { carrierBinary with batterySwitchMask := mask } profileCarrierFittedMask = .ok

instance (machine : Machine) (mask : UInt32) : Decidable (PassesChecks machine mask) :=
  inferInstanceAs (Decidable (_ ∧ _))

/-- What a change of the polarity does, and its answer. -/
inductive MaskOutcome (machine : Machine) (mask : UInt32) (ticks : Nat → UInt32) :
    Bool × Machine → Prop
  | refused (hnot : ¬PassesChecks machine mask) : MaskOutcome machine mask ticks (false, machine)
  | same (hchecked : PassesChecks machine mask)
    (hrequested : mask = machine.requestedBatterySwitchMask) :
    MaskOutcome machine mask ticks (true, machine)
  | configured {machine' : Machine} (succeeded : Bool) (hchecked : PassesChecks machine mask)
    (hrecovery : machine'.recovery = machine.recovery.recordInitialResult (ticks 1) succeeded)
    (hready : machine'.peripheralReady = true)
    (hstarted : machine'.snapshot.monitoringStarted = succeeded)
    (hrequested : machine'.requestedBatterySwitchMask = mask)
    (hmask : machine'.activeProfile.batterySwitchMask = mask) :
    MaskOutcome machine mask ticks (succeeded, machine')

theorem setBatterySwitchMask_outcome (machine : Machine) (mask : UInt32)
    (ticks : Nat → UInt32) :
    MaskOutcome machine mask ticks (setBatterySwitchMask machine mask ticks) := by
  unfold setBatterySwitchMask
  by_cases hready : machine.peripheralReady = true
  swap
  · rw [if_pos (by simpa using hready)]
    exact .refused fun hchecked => hready hchecked.1
  rw [if_neg (by simpa using hready)]
  by_cases hvalid : Profile.validate { carrierBinary with batterySwitchMask := mask }
      profileCarrierFittedMask = .ok
  swap
  · rw [if_pos hvalid]
    exact .refused fun hchecked => hvalid hchecked.2
  rw [if_neg (not_not_intro hvalid)]
  split
  next hsame =>
    simp only [Bool.and_eq_true, decide_eq_true_eq] at hsame
    exact .same ⟨hready, hvalid⟩ hsame.1.1
  have hconfigured := configureInputs_configured
    { machine with requestedBatterySwitchMask := mask, filter := {} } (ticks 0)
  generalize configureInputs { machine with requestedBatterySwitchMask := mask, filter := {} }
    (ticks 0) = configured at *
  have hrecovery : configured.recovery = machine.recovery := hconfigured.recovery
  have hready' : configured.peripheralReady = true := hconfigured.ready.trans hready
  dsimp only
  rw [hrecovery]
  cases hpassed : configured.snapshot.configurationPassed with
  | true =>
    exact .configured true ⟨hready, hvalid⟩ rfl hready' (hconfigured.started.trans hpassed)
      hconfigured.requested hconfigured.mask
  | false =>
    exact .configured false ⟨hready, hvalid⟩ rfl hready' rfl hconfigured.requested
      hconfigured.mask

end Tic

end CanGui
