import CanGui.Rtc.Reading
/-!
# PCA2131 — what a write leaves in the registers

A write puts its bytes into the registers, or the first of them when it
fails, and nothing else. From this follows what the driver's write of the
calendar leaves whichever of its transfers fail: it stops the clock, and
each way out sets it going again or reports that this failed.
-/

namespace CanGui

namespace Rtc

/-- The bytes of a write that arrive. -/
def Reply.arrives (reply : Reply) (bytes : Bytes) : Bytes :=
  if reply.status = .ok then bytes else bytes.take reply.arrived

/-- The failures of a write that did not come to the calendar. -/
def Result.BeforeCalendar (result : Result) : Prop :=
  result = .invalidDateTime ∨ result = .controlReadFailed ∨ result = .stopWriteFailed ∨
    result = .cprWriteFailed

namespace Bus

variable {bus : Bus} {dateTime : DateTime} {config : AlarmConfig} {control1 : UInt8}

/-- The clock is stopped. -/
def stopped (bus : Bus) : Bool := bus.register regControl1 &&& control1StopBit != 0

/-! ## One transfer -/

@[simp] theorem register_read (start length index : Nat) :
    (bus.read start length).2.register index = bus.register index := rfl

@[simp] theorem whole_read (start length : Nat) :
    (bus.read start length).2.Whole ↔ bus.Whole := Iff.rfl

theorem length_arrives (reply : Reply) (bytes : Bytes) :
    (reply.arrives bytes).length ≤ bytes.length := by
  unfold Reply.arrives
  split
  · exact le_rfl
  · rw [List.length_take]
    omega

theorem whole_write {start : Nat} {bytes : Bytes} (hwhole : bus.Whole)
    (hend : start + bytes.length ≤ 0x37) : (bus.write start bytes).Whole := by
  have hle := length_arrives bus.reply bytes
  unfold Whole at *
  show (bus.registers.take start ++ bus.reply.arrives bytes ++
    bus.registers.drop (start + (bus.reply.arrives bytes).length)).length = 0x37
  simp only [List.length_append, List.length_take, List.length_drop, hwhole]
  omega

/-- **A write puts the bytes that arrive into its registers**, and leaves
the others. -/
theorem register_write {start : Nat} {bytes : Bytes} (hwhole : bus.Whole)
    (hend : start + bytes.length ≤ 0x37) (index : Nat) :
    (bus.write start bytes).register index =
      if start ≤ index ∧ index < start + (bus.reply.arrives bytes).length then
        (bus.reply.arrives bytes).at' (index - start)
      else bus.register index := by
  have hle := length_arrives bus.reply bytes
  unfold Whole at hwhole
  show Bytes.at' (bus.registers.take start ++ bus.reply.arrives bytes ++
    bus.registers.drop (start + (bus.reply.arrives bytes).length)) index = _
  generalize bus.reply.arrives bytes = arrived at *
  simp only [Bytes.at', List.getD_eq_getElem?_getD, register]
  have hstart : (bus.registers.take start).length = start := by
    rw [List.length_take]
    omega
  -- in front of the write, in what arrives of it, or behind
  by_cases hbefore : index < start
  · rw [List.append_assoc, List.getElem?_append_left (by omega), List.getElem?_take_of_lt hbefore,
      if_neg (by omega)]
  · by_cases hwithin : index < start + arrived.length
    · rw [List.getElem?_append_left (by simp only [List.length_append]; omega),
        List.getElem?_append_right (by omega), hstart, if_pos (by omega)]
    · rw [List.getElem?_append_right (by simp only [List.length_append]; omega),
        List.getElem?_drop, if_neg (by omega)]
      simp only [List.length_append, hstart]
      congr 2
      omega

/-- A register outside is left. -/
theorem register_write_of_outside {start : Nat} {bytes : Bytes} (hwhole : bus.Whole)
    (hend : start + bytes.length ≤ 0x37) {index : Nat}
    (houtside : index < start ∨ start + bytes.length ≤ index) :
    (bus.write start bytes).register index = bus.register index := by
  have hle := length_arrives bus.reply bytes
  rw [register_write hwhole hend, if_neg (by omega)]

/-- A register inside has its byte, when the write succeeds. -/
theorem register_write_of_ok {start : Nat} {bytes : Bytes} (hwhole : bus.Whole)
    (hend : start + bytes.length ≤ 0x37) (hok : bus.reply.status = .ok) {index : Nat}
    (hinside : start ≤ index ∧ index < start + bytes.length) :
    (bus.write start bytes).register index = bytes.at' (index - start) := by
  have harrives : bus.reply.arrives bytes = bytes := if_pos hok
  rw [register_write hwhole hend, harrives, if_pos hinside]

/-! The driver's writes end within the registers. -/

theorem control1_fits (byte : UInt8) : regControl1 + [byte].length ≤ 0x37 := by
  show 0 + 1 ≤ 0x37
  omega

theorem srReset_fits (byte : UInt8) : regSrReset + [byte].length ≤ 0x37 := by
  show 5 + 1 ≤ 0x37
  omega

theorem calendarData_fits (dateTime : DateTime) :
    reg100thSeconds + dateTime.calendarData.length ≤ 0x37 := by
  show 6 + 8 ≤ 0x37
  omega

theorem alarmData_fits (config : AlarmConfig) (hourMode12 : Bool) :
    regSecondAlarm + (config.alarmData hourMode12).length ≤ 0x37 := by
  show 14 + 5 ≤ 0x37
  omega

/-! ## Registers of the calendar -/

theorem length_calendarRegisters (hwhole : bus.Whole) : bus.calendarRegisters.length = 8 := by
  unfold Whole at hwhole
  simp only [calendarRegisters, reg100thSeconds, List.length_take, List.length_drop, hwhole]
  rfl

theorem calendarRegisters_eq {bytes : Bytes} (hwhole : bus.Whole) (hlength : bytes.length = 8)
    (h : ∀ index < 8, bus.register (reg100thSeconds + index) = bytes.at' index) :
    bus.calendarRegisters = bytes := by
  refine List.ext_getElem ?_ ?_
  · rw [length_calendarRegisters hwhole, hlength]
  · intro index hleft hright
    have hindex : index < 8 := by omega
    have hslice : bus.calendarRegisters.at' index = bus.register (reg100thSeconds + index) :=
      at'_slice hindex
    rw [h index hindex] at hslice
    simpa [Bytes.at', hleft, hright] using hslice

theorem calendarRegisters_congr {other : Bus} (hwhole : bus.Whole) (hother : other.Whole)
    (h : ∀ index < 8, bus.register (reg100thSeconds + index) =
      other.register (reg100thSeconds + index)) :
    bus.calendarRegisters = other.calendarRegisters :=
  calendarRegisters_eq hwhole (length_calendarRegisters hother) fun index hindex => by
    rw [h index hindex]
    exact (at'_slice hindex).symm

/-- The registers a date and time is written into denote it. -/
theorem denotes_calendarData (h : dateTime.OnCalendar) :
    Denotes false dateTime.calendarData dateTime := by
  have hday : dateTime.day.toNat < 32 :=
    Nat.lt_succ_of_le (h.date.day_le.trans (Calendar.monthLength_le h.date.month_le))
  have hmonth : dateTime.month.toNat < 13 := Nat.lt_succ_of_le h.date.month_le
  have hyear : dateTime.year.toNat < 100 := h.date.year_lt
  have hsecond := h.second_lt
  have hminute := h.minute_lt
  have hhour := h.hour_lt
  have hweekday : ∀ value : UInt8, value.toNat < 7 → value &&& 0x07 &&& 0x07 = value :=
    forall_byte (by decide +kernel)
  constructor
  · exact bcd_decToBcd h.hundredth_lt
  · show Bcd.value (decToBcd dateTime.second &&& 0x7F &&& 0x7F).toNat = _
    rw [decToBcd_and_7F _ (by omega), decToBcd_and_7F _ (by omega), bcd_decToBcd (by omega)]
  · show Bcd.value (decToBcd dateTime.minute &&& 0x7F &&& 0x7F).toNat = _
    rw [decToBcd_and_7F _ (by omega), decToBcd_and_7F _ (by omega), bcd_decToBcd (by omega)]
  · refine hourOfDay_false_iff.2 ⟨?_, hhour⟩
    show Bcd.value (decToBcd dateTime.hour &&& 0x3F &&& 0x3F).toNat = _
    rw [decToBcd_and_3F _ (by omega), decToBcd_and_3F _ (by omega), bcd_decToBcd (by omega)]
  · show Bcd.value (decToBcd dateTime.day &&& 0x3F &&& 0x3F).toNat = _
    rw [decToBcd_and_3F _ (by omega), decToBcd_and_3F _ (by omega), bcd_decToBcd (by omega)]
  · exact hweekday _ h.weekday_lt
  · show Bcd.value (decToBcd dateTime.month &&& 0x1F &&& 0x1F).toNat = _
    rw [decToBcd_and_1F _ (by omega), decToBcd_and_1F _ (by omega), bcd_decToBcd (by omega)]
  · exact bcd_decToBcd hyear
  · exact h

/-! ## The clock is stopped and goes on -/

theorem released (control1 : UInt8) : control1 &&& ~~~control1StopBit &&& control1StopBit = 0 := by
  revert control1
  exact forall_byte (by decide +kernel)

/-- The clock goes on when the control byte that says so arrives. -/
theorem stopped_write_released (hwhole : bus.Whole) (hok : bus.reply.status = .ok) :
    (bus.write regControl1 [control1 &&& ~~~control1StopBit]).stopped = false := by
  have hregister : (bus.write regControl1 [control1 &&& ~~~control1StopBit]).register regControl1 =
      control1 &&& ~~~control1StopBit :=
    register_write_of_ok hwhole (control1_fits _) hok ⟨le_rfl, Nat.lt_succ_self _⟩
  rw [stopped, hregister, released]
  rfl

theorem calendarRegisters_write_control1 (hwhole : bus.Whole) (byte : UInt8) :
    (bus.write regControl1 [byte]).calendarRegisters = bus.calendarRegisters :=
  calendarRegisters_congr (whole_write hwhole (control1_fits _)) hwhole fun index _ =>
    register_write_of_outside hwhole (control1_fits _)
      (Or.inr (by show 0 + 1 ≤ 6 + index; omega))

theorem calendarRegisters_write_srReset (hwhole : bus.Whole) (byte : UInt8) :
    (bus.write regSrReset [byte]).calendarRegisters = bus.calendarRegisters :=
  calendarRegisters_congr (whole_write hwhole (srReset_fits _)) hwhole fun index _ =>
    register_write_of_outside hwhole (srReset_fits _) (Or.inr (by show 5 + 1 ≤ 6 + index; omega))

theorem calendarRegisters_write_calendar (hwhole : bus.Whole) (hok : bus.reply.status = .ok) :
    (bus.write reg100thSeconds dateTime.calendarData).calendarRegisters = dateTime.calendarData :=
  calendarRegisters_eq (whole_write hwhole (calendarData_fits _)) rfl fun index hindex => by
    rw [register_write_of_ok hwhole (calendarData_fits _) hok
      ⟨Nat.le_add_right _ _, Nat.add_lt_add_left hindex _⟩, Nat.add_sub_cancel_left]

theorem control1_before_alarm (byte : UInt8) : regControl1 + [byte].length ≤ regSecondAlarm := by
  show 0 + 1 ≤ 14
  omega

/-! ## The write of the calendar, stage by stage -/

/-- What a stage and those behind it leave, of a control byte that stops
the clock. -/
structure Leaves (bus : Bus) (control1 : UInt8) (dateTime : DateTime)
    (outcome : OperationStatus × Bus) : Prop where
  /-- A stopped clock is one that the recovery was tried on and failed. -/
  reported : outcome.2.stopped = true →
    ∃ reply, outcome.1.recovery = some reply ∧ reply.status ≠ .ok
  done : outcome.1.result = .ok →
    outcome.2.calendarRegisters = dateTime.calendarData ∧
      outcome.2.register regControl1 = control1 &&& ~~~control1StopBit
  kept : outcome.1.result.BeforeCalendar → outcome.2.calendarRegisters = bus.calendarRegisters
  outside : ∀ index, regSecondAlarm ≤ index → outcome.2.register index = bus.register index

/-- What is left of a transfer on is left of the transfers before, when
these keep what the rest must. -/
theorem Leaves.of_write {start : Nat} {bytes : Bytes} {outcome : OperationStatus × Bus}
    (hwhole : bus.Whole) (hend : start + bytes.length ≤ regSecondAlarm)
    (h : Leaves (bus.write start bytes) control1 dateTime outcome)
    (hkept : outcome.1.result.BeforeCalendar →
      (bus.write start bytes).calendarRegisters = bus.calendarRegisters) :
    Leaves bus control1 dateTime outcome where
  reported := h.reported
  done := h.done
  kept := fun hbefore => (h.kept hbefore).trans (hkept hbefore)
  outside := fun index hindex => by
    rw [h.outside index hindex]
    exact register_write_of_outside hwhole (hend.trans (by decide)) (Or.inr (hend.trans hindex))

theorem tryReleaseStop_leaves {failed : OperationStatus} {byte : UInt8} (hwhole : bus.Whole)
    (hfailed : failed.result ≠ .ok) :
    Leaves bus control1 dateTime (bus.tryReleaseStop byte failed) where
  reported := by
    intro hstopped
    refine ⟨bus.reply, rfl, ?_⟩
    -- a recovery that gets through leaves the clock going
    intro hok
    have hgoes : (bus.tryReleaseStop byte failed).2.stopped = false :=
      stopped_write_released hwhole hok
    rw [hgoes] at hstopped
    cases hstopped
  done := by
    intro hok
    exact absurd hok hfailed
  kept := by
    intro _
    exact calendarRegisters_write_control1 hwhole _
  outside := by
    intro index hindex
    exact register_write_of_outside hwhole (control1_fits _)
      (Or.inr ((control1_before_alarm _).trans hindex))

theorem startClock_leaves (hwhole : bus.Whole)
    (hcalendar : bus.calendarRegisters = dateTime.calendarData) :
    Leaves bus control1 dateTime (bus.startClock control1) := by
  have hwritten := whole_write hwhole (control1_fits (control1 &&& ~~~control1StopBit))
  have hkept := calendarRegisters_write_control1 hwhole (control1 &&& ~~~control1StopBit)
  unfold startClock
  dsimp only
  split
  · exact Leaves.of_write hwhole (control1_before_alarm _)
      (tryReleaseStop_leaves hwritten (by simp [Reply.createStatus])) fun _ => hkept
  · next hok =>
    exact {
      reported := by
        intro hstopped
        rw [stopped_write_released hwhole (not_not.1 hok)] at hstopped
        cases hstopped
      done := by
        intro _
        exact ⟨hkept.trans hcalendar, register_write_of_ok hwhole (control1_fits _)
          (not_not.1 hok) ⟨le_rfl, Nat.lt_succ_self _⟩⟩
      kept := by
        intro _
        exact hkept
      outside := by
        intro index hindex
        exact register_write_of_outside hwhole (control1_fits _)
          (Or.inr ((control1_before_alarm _).trans hindex)) }

/-- From the calendar's write on, a failure is no longer one before it. -/
theorem writeCalendar_not_beforeCalendar :
    ¬(bus.writeCalendar control1 dateTime).1.result.BeforeCalendar := by
  unfold writeCalendar
  dsimp only
  split
  · simp [tryReleaseStop, Reply.createStatus, Result.BeforeCalendar]
  · unfold startClock
    dsimp only
    split <;> simp [tryReleaseStop, Reply.createStatus, Result.BeforeCalendar]

theorem writeCalendar_leaves (hwhole : bus.Whole) :
    Leaves bus control1 dateTime (bus.writeCalendar control1 dateTime) := by
  have hwritten := whole_write hwhole (calendarData_fits dateTime)
  have hend : reg100thSeconds + dateTime.calendarData.length ≤ regSecondAlarm := by
    show 6 + 8 ≤ 14
    omega
  -- the one transfer that changes the calendar, and none fails before it from here on
  refine Leaves.of_write hwhole hend ?_
    fun hbefore => absurd hbefore writeCalendar_not_beforeCalendar
  unfold writeCalendar
  dsimp only
  split
  · exact tryReleaseStop_leaves hwritten (by simp [Reply.createStatus])
  · next hok =>
    exact startClock_leaves hwritten (calendarRegisters_write_calendar hwhole (not_not.1 hok))

theorem clearPrescaler_leaves (hwhole : bus.Whole) :
    Leaves bus control1 dateTime (bus.clearPrescaler control1 dateTime) := by
  have hwritten := whole_write hwhole (srReset_fits srResetCpr)
  have hend : regSrReset + [srResetCpr].length ≤ regSecondAlarm := by
    show 5 + 1 ≤ 14
    omega
  refine Leaves.of_write hwhole hend ?_
    fun _ => calendarRegisters_write_srReset hwhole srResetCpr
  unfold clearPrescaler
  dsimp only
  split
  · exact tryReleaseStop_leaves hwritten (by simp [Reply.createStatus])
  · exact writeCalendar_leaves hwritten

theorem stopClock_leaves (hwhole : bus.Whole) :
    Leaves bus control1 dateTime (bus.stopClock control1 dateTime) := by
  have hwritten := whole_write hwhole (control1_fits control1)
  refine Leaves.of_write hwhole (control1_before_alarm control1) ?_
    fun _ => calendarRegisters_write_control1 hwhole control1
  unfold stopClock
  dsimp only
  split
  · exact tryReleaseStop_leaves hwritten (by simp [Reply.createStatus])
  · exact clearPrescaler_leaves hwritten

/-- The control byte that the calendar is written with. -/
def stopByte (bus : Bus) : UInt8 :=
  (bus.register regControl1 &&& ~~~(control1HundredthDisable ||| control1Hour12Bit)) |||
    control1StopBit

/-- The write of a valid date and time, past its first transfer. -/
theorem writeDateTime_eq (hvalid : dateTime.isValid = true) (hok : bus.reply.status = .ok) :
    bus.writeDateTime dateTime = (bus.read regControl1 1).2.stopClock bus.stopByte dateTime := by
  have hbyte : Bytes.at' ((bus.registers.drop regControl1).take 1) 0 = bus.register regControl1 :=
    at'_slice (by omega)
  unfold writeDateTime
  rw [if_neg (by simp [hvalid])]
  dsimp only
  rw [if_neg (not_not.2 hok), stopByte, ← hbyte]
  rfl

/-- What a write that is turned down, or cannot read the control register,
leaves: everything. -/
theorem writeDateTime_untouched (h : ¬(dateTime.isValid = true ∧ bus.reply.status = .ok)) :
    (bus.writeDateTime dateTime).1.result ≠ .ok ∧
      (bus.writeDateTime dateTime).2.registers = bus.registers := by
  unfold writeDateTime
  split
  · exact ⟨by simp, rfl⟩
  · next hvalid =>
    dsimp only
    have hfailed : bus.reply.status ≠ .ok := fun hok => h ⟨eq_true_of_ne_false hvalid, hok⟩
    rw [if_pos hfailed]
    exact ⟨by simp [Reply.createStatus], rfl⟩

/-- The control byte that the clock goes on with counts 24 hours. -/
theorem stopByte_hour24 :
    bus.stopByte &&& ~~~control1StopBit &&& control1Hour12Bit = 0 := by
  unfold stopByte
  generalize bus.register regControl1 = control1
  revert control1
  exact forall_byte (by decide +kernel)

/-- A write that succeeds leaves the date and time in the registers, of a
clock that counts 24 hours and goes. -/
theorem writeDateTime_done (hwhole : bus.Whole)
    (hok : (bus.writeDateTime dateTime).1.result = .ok) :
    (bus.writeDateTime dateTime).2.calendarRegisters = dateTime.calendarData ∧
      (bus.writeDateTime dateTime).2.hour12 = false ∧
      (bus.writeDateTime dateTime).2.stopped = false ∧
      ∀ index, regSecondAlarm ≤ index →
        (bus.writeDateTime dateTime).2.register index = bus.register index := by
  have hsucceeds := writeDateTime_ok_iff.1 hok
  have hread : bus.reply.status = .ok := hsucceeds.2.1
  rw [writeDateTime_eq hsucceeds.1 hread] at hok ⊢
  have hleaves : Leaves (bus.read regControl1 1).2 bus.stopByte dateTime _ :=
    stopClock_leaves hwhole
  obtain ⟨hcalendar, hcontrol1⟩ := hleaves.done hok
  refine ⟨hcalendar, ?_, ?_, hleaves.outside⟩
  · rw [hour12, hcontrol1, stopByte_hour24]
    rfl
  · rw [stopped, hcontrol1, released]
    rfl

/-- **The clock is never stopped silently.** Whichever transfers fail, and
whatever of a failed write arrives: a write that succeeds leaves the date
and time on a clock that goes, a clock that it leaves stopped is reported,
and one that fails before the calendar leaves that alone. -/
theorem writeDateTime_stops (hwhole : bus.Whole) :
    ((bus.writeDateTime dateTime).1.result = .ok →
      (bus.writeDateTime dateTime).2.Shows dateTime ∧
        (bus.writeDateTime dateTime).2.stopped = false) ∧
    (bus.stopped = false → (bus.writeDateTime dateTime).2.stopped = true →
      ∃ reply, (bus.writeDateTime dateTime).1.recovery = some reply ∧ reply.status ≠ .ok) ∧
    ((bus.writeDateTime dateTime).1.result.BeforeCalendar →
      (bus.writeDateTime dateTime).2.calendarRegisters = bus.calendarRegisters) := by
  refine ⟨?_, ?_⟩
  · intro hok
    obtain ⟨hcalendar, hhour12, hgoes, -⟩ := writeDateTime_done hwhole hok
    have hvalid := DateTime.isValid_iff.1 (writeDateTime_ok_iff.1 hok).1
    refine ⟨?_, hgoes⟩
    rw [Shows, hhour12, hcalendar]
    exact denotes_calendarData hvalid
  · -- what fails before the stop is written leaves every register
    by_cases hstarts : dateTime.isValid = true ∧ bus.reply.status = .ok
    · rw [writeDateTime_eq hstarts.1 hstarts.2]
      have hleaves : Leaves (bus.read regControl1 1).2 bus.stopByte dateTime _ :=
        stopClock_leaves hwhole
      exact ⟨fun _ => hleaves.reported, hleaves.kept⟩
    · have hregisters := (writeDateTime_untouched hstarts).2
      constructor
      · intro hgoes hstopped
        simp only [stopped, register, hregisters] at hgoes hstopped
        rw [hgoes] at hstopped
        cases hstopped
      · intro _
        rw [calendarRegisters, hregisters, calendarRegisters]

/-- The transfers succeed, and the clock goes; or the stop arrives with an
error and the recovery does not get through: the clock stands, and the
status says so. -/
theorem writeDateTime_stops_reported :
    let bus : Bus := { replies := [{}, { status := .error, arrived := 1 }, { status := .timeout }] }
    let outcome := bus.writeDateTime ⟨0, 0, 0, 12, 1, 4, 1, 26⟩
    (({} : Bus).writeDateTime ⟨0, 0, 0, 12, 1, 4, 1, 26⟩).2.stopped = false ∧
      outcome.2.stopped = true ∧
      (∃ reply, outcome.1.recovery = some reply ∧ reply.status ≠ .ok) ∧
      outcome.2.calendarRegisters = bus.calendarRegisters :=
  ⟨((writeDateTime_stops (by decide)).1 (by decide)).2, by decide,
    (writeDateTime_stops (by decide)).2.1 (by decide) (by decide),
    (writeDateTime_stops (by decide)).2.2 (Or.inr (Or.inr (Or.inl (by decide))))⟩

end Bus

end Rtc

end CanGui
