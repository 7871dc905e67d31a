import CanGui.Rtc.Writing
/-!
# PCA2131 — what is written is read back

An alarm that is written is read back as the one asked for, in the hour
mode the chip is in; and only registers that hold it are. A date and time
that is written is read back as it is.
-/

namespace CanGui

namespace Rtc

namespace Bus

variable {bus : Bus} {dateTime : DateTime} {config : AlarmConfig}

/-! ## A field's register -/

section Encode

variable {field : AlarmField} {minimum maximum valueMask : UInt8}

/-- A field's byte holds the field, when the mask keeps the digits of each
value in the field's range. -/
theorem heldBy_encode
    (hmask : ∀ value : UInt8, minimum ≤ value ∧ value ≤ maximum →
      decToBcd value &&& valueMask &&& alarmDisableBit = 0 ∧
        Bcd.value (decToBcd value &&& valueMask &&& valueMask).toNat = some value.toNat)
    (hvalid : field.isValid minimum maximum = true) :
    field.HeldBy (field.encode valueMask) (Bcd.value (field.encode valueMask &&& valueMask).toNat) := by
  rw [alarmField_isValid_iff] at hvalid
  unfold AlarmField.HeldBy AlarmField.encode
  split
  · next henabled =>
    rw [if_neg (by simp [henabled])]
    exact hmask field.value (hvalid henabled)
  · next hdisabled =>
    rw [if_pos (by simpa using hdisabled)]
    decide

theorem heldBy_encodeHour (hour12 : Bool) (hvalid : field.isValid 0 23 = true) :
    field.HeldBy (field.encodeHour hour12) (hourOfDay hour12 (field.encodeHour hour12)) := by
  have hhours : ∀ value : UInt8, value ≤ 23 → ∀ hour12 : Bool,
      (AlarmField.encodeHour ⟨true, value⟩ hour12) &&& alarmDisableBit = 0 ∧
        hourOfDay hour12 (AlarmField.encodeHour ⟨true, value⟩ hour12) = some value.toNat :=
    forall_byte (by decide +kernel)
  rw [alarmField_isValid_iff] at hvalid
  obtain ⟨enabled, value⟩ := field
  unfold AlarmField.HeldBy
  split
  · next henabled =>
    obtain rfl : enabled = true := henabled
    exact hhours value (hvalid rfl).2 hour12
  · next hdisabled =>
    obtain rfl : enabled = false := by simpa using hdisabled
    show alarmDisableBit &&& alarmDisableBit ≠ 0
    decide

theorem heldBy_encodeWeekday (hvalid : field.isValid 0 6 = true) :
    let byte := if field.enabled = false then alarmDisableBit else field.value &&& 0x07
    field.HeldBy byte (some (byte &&& 0x07).toNat) := by
  have hdays : ∀ value : UInt8, value ≤ 6 →
      value &&& 0x07 &&& alarmDisableBit = 0 ∧ value &&& 0x07 &&& 0x07 = value :=
    forall_byte (by decide +kernel)
  rw [alarmField_isValid_iff] at hvalid
  dsimp only
  unfold AlarmField.HeldBy
  split
  · next henabled =>
    obtain ⟨hbit, hvalue⟩ := hdays field.value (hvalid henabled).2
    rw [if_neg (by simp [henabled]), hvalue]
    exact ⟨hbit, rfl⟩
  · next hdisabled =>
    rw [if_pos (by simpa using hdisabled)]
    decide

end Encode

/-! ## The alarm -/

/-- What a write of the alarm that succeeds leaves. -/
theorem writeAlarm_eq (hvalid : config.isValid = true) (hsucceeds : Succeeds 2 bus.replies) :
    bus.writeAlarm config =
      ((bus.read regControl1 1).2.reply.createStatus .ok,
        (bus.read regControl1 1).2.write regSecondAlarm (config.alarmData bus.hour12)) := by
  have hread : bus.reply.status = .ok := hsucceeds.1
  have hwrite : (bus.read regControl1 1).2.reply.status = .ok := hsucceeds.2.1
  have hbyte : Bytes.at' ((bus.registers.drop regControl1).take 1) 0 = bus.register regControl1 :=
    at'_slice (by omega)
  unfold writeAlarm
  rw [if_neg (by simp [hvalid])]
  dsimp only
  rw [if_neg (not_not.2 hread), if_neg (not_not.2 hwrite), hour12, ← hbyte]
  rfl

/-- The registers hold the alarm that was written. -/
theorem writeAlarm_holds (hwhole : bus.Whole) (hvalid : config.isValid = true)
    (hsucceeds : Succeeds 2 bus.replies) : (bus.writeAlarm config).2.HoldsAlarm config := by
  have hread : (bus.read regControl1 1).2.Whole := hwhole
  have hwrite : (bus.read regControl1 1).2.reply.status = .ok := hsucceeds.2.1
  have hregister (index : Nat) (hindex : index < 5) :
      (bus.writeAlarm config).2.register (regSecondAlarm + index) =
        (config.alarmData bus.hour12).at' index := by
    rw [writeAlarm_eq hvalid hsucceeds]
    refine (register_write_of_ok hread (alarmData_fits _ _) hwrite
      ⟨Nat.le_add_right _ _, Nat.add_lt_add_left hindex _⟩).trans ?_
    rw [Nat.add_sub_cancel_left]
  -- the hours are read in the mode they were written in: CONTROL1 is not touched
  have hmode : (bus.writeAlarm config).2.hour12 = bus.hour12 := by
    rw [writeAlarm_eq hvalid hsucceeds, hour12]
    dsimp only
    rw [register_write_of_outside hread (alarmData_fits _ _)
      (Or.inl (show regControl1 < regSecondAlarm by decide))]
    rfl
  have hsixty (value : UInt8) (hrange : 0 ≤ value ∧ value ≤ 59) :
      decToBcd value &&& 0x7F &&& alarmDisableBit = 0 ∧
        Bcd.value (decToBcd value &&& 0x7F &&& 0x7F).toNat = some value.toNat := by
    have hle : value.toNat ≤ 59 := UInt8.le_iff_toNat_le.1 hrange.2
    rw [decToBcd_and_7F _ (by omega), decToBcd_and_7F _ (by omega)]
    exact ⟨decToBcd_and_disable _ (by omega), bcd_decToBcd (by omega)⟩
  have hdays (value : UInt8) (hrange : 1 ≤ value ∧ value ≤ 31) :
      decToBcd value &&& 0x3F &&& alarmDisableBit = 0 ∧
        Bcd.value (decToBcd value &&& 0x3F &&& 0x3F).toNat = some value.toNat := by
    have hle : value.toNat ≤ 31 := UInt8.le_iff_toNat_le.1 hrange.2
    rw [decToBcd_and_3F _ (by omega), decToBcd_and_3F _ (by omega)]
    exact ⟨decToBcd_and_disable _ (by omega), bcd_decToBcd (by omega)⟩
  simp only [AlarmConfig.isValid, Bool.and_eq_true] at hvalid
  obtain ⟨⟨⟨⟨hsecond, hminute⟩, hhour⟩, hday⟩, hweekday⟩ := hvalid
  have secondByte : (bus.writeAlarm config).2.register 0x0E = _ := hregister 0 (by omega)
  have minuteByte : (bus.writeAlarm config).2.register 0x0F = _ := hregister 1 (by omega)
  have hourByte : (bus.writeAlarm config).2.register 0x10 = _ := hregister 2 (by omega)
  have dayByte : (bus.writeAlarm config).2.register 0x11 = _ := hregister 3 (by omega)
  have weekdayByte : (bus.writeAlarm config).2.register 0x12 = _ := hregister 4 (by omega)
  constructor
  · rw [secondByte]
    exact heldBy_encode hsixty hsecond
  · rw [minuteByte]
    exact heldBy_encode hsixty hminute
  · rw [hourByte, hmode]
    exact heldBy_encodeHour bus.hour12 hhour
  · rw [dayByte]
    exact heldBy_encode hdays hday
  · rw [weekdayByte]
    exact heldBy_encodeWeekday hweekday

/-! ## Both round trips -/

/-- The transfers that a write of the calendar leaves over. -/
theorem writeDateTime_replies (hvalid : dateTime.isValid = true)
    (hsucceeds : Succeeds 5 bus.replies) :
    (bus.writeDateTime dateTime).2.replies = bus.replies.tail.tail.tail.tail.tail := by
  obtain ⟨hread, hstop, hclear, hcalendar, hstart, -⟩ := hsucceeds
  rw [writeDateTime_eq hvalid hread]
  unfold stopClock clearPrescaler writeCalendar startClock
  simp only [reply, replies_read, replies_write, hstop, hclear, hcalendar, hstart, ne_eq,
    not_true_eq_false, if_false]

/-- A date and time that is written is read without the oscillator's
flag. -/
theorem decodeDateTime_calendarData (hvalid : dateTime.isValid = true) :
    decodeDateTime dateTime.calendarData = ⟨dateTime, false, true⟩ := by
  have hcalendar := DateTime.isValid_iff.1 hvalid
  have hosf : dateTime.calendarData.at' 1 &&& 0x80 = 0 := by
    have hsecond := hcalendar.second_lt
    show decToBcd dateTime.second &&& 0x7F &&& 0x80 = 0
    rw [decToBcd_and_7F _ (by omega)]
    exact decToBcd_and_disable _ (by omega)
  obtain ⟨hread, hsame⟩ := decodeDateTime_iff.2 ⟨hosf, denotes_calendarData hcalendar⟩
  have hflag : (decodeDateTime dateTime.calendarData).osf = false := by
    show (dateTime.calendarData.at' 1 >>> 7 &&& 0x01 != 0) = false
    rw [osf_eq, hosf]
    rfl
  calc
    decodeDateTime dateTime.calendarData =
        ⟨(decodeDateTime dateTime.calendarData).dateTime,
          (decodeDateTime dateTime.calendarData).osf,
          (decodeDateTime dateTime.calendarData).calendarValid⟩ := rfl
    _ = ⟨dateTime, false, true⟩ := by rw [hsame, hflag, hread]

/-- **The registers of an alarm and of a date and time are read back.**
Whichever fields of an alarm are enabled, and in either hour mode: an alarm
that is written is read as the one asked for, and only registers that hold
it are. A date and time is read as it was written. -/
theorem registers_roundTrip :
    (∀ (bus : Bus) (config : AlarmConfig), bus.Whole → config.isValid = true →
      Succeeds 4 bus.replies →
        (bus.writeAlarm config).1.result = .ok ∧
          (bus.writeAlarm config).2.readAlarm.1.1.result = .ok ∧
          (bus.writeAlarm config).2.readAlarm.1.2.configurationValid = true ∧
          config.matches (bus.writeAlarm config).2.readAlarm.1.2 = true) ∧
    (∀ (bus : Bus) (config : AlarmConfig), bus.readAlarm.1.1.result = .ok →
      config.matches bus.readAlarm.1.2 = true → bus.HoldsAlarm config) ∧
    ∀ (bus : Bus) (dateTime : DateTime), bus.Whole → dateTime.isValid = true →
      Succeeds 6 bus.replies →
        (bus.writeDateTime dateTime).1.result = .ok ∧
          (bus.writeDateTime dateTime).2.readDateTime.1.1.result = .ok ∧
          (bus.writeDateTime dateTime).2.readDateTime.1.2 = some ⟨dateTime, false, true⟩ := by
  refine ⟨?_, ?_, ?_⟩
  · intro bus config hwhole hvalid hsucceeds
    have hwrites : Succeeds 2 bus.replies := ⟨hsucceeds.1, hsucceeds.2.1, trivial⟩
    have hreads : Succeeds 2 (bus.writeAlarm config).2.replies := by
      rw [writeAlarm_eq hvalid hwrites]
      exact hsucceeds.2.2
    have hread := readAlarm_ok_iff.2 hreads
    have hmatches := matches_alarm_iff.2 ⟨writeAlarm_holds hwhole hvalid hwrites, hvalid⟩
    rw [(readAlarm_ok hread).1]
    refine ⟨writeAlarm_ok_iff.2 ⟨hvalid, hwrites⟩, hread, ?_, hmatches⟩
    -- an alarm with a field that is none matches nothing
    by_contra hnot
    rw [AlarmConfig.matches, if_pos (by simpa using hnot)] at hmatches
    cases hmatches
  · intro bus config hread hmatches
    rw [(readAlarm_ok hread).1] at hmatches
    exact (matches_alarm_iff.1 hmatches).1
  · intro bus dateTime hwhole hvalid hsucceeds
    have hwrites : Succeeds 5 bus.replies :=
      ⟨hsucceeds.1, hsucceeds.2.1, hsucceeds.2.2.1, hsucceeds.2.2.2.1, hsucceeds.2.2.2.2.1, trivial⟩
    have hok := writeDateTime_ok_iff.2 ⟨hvalid, hwrites⟩
    have hreads : Succeeds 1 (bus.writeDateTime dateTime).2.replies := by
      rw [writeDateTime_replies hvalid hwrites]
      exact hsucceeds.2.2.2.2.2
    have hread := readDateTime_ok_iff.2 hreads
    refine ⟨hok, hread, ?_⟩
    rw [readDateTime_ok hread, (writeDateTime_done hwhole hok).1,
      decodeDateTime_calendarData hvalid]

/-- A chip that counts twelve hours, and an alarm just behind midnight on
Sundays. -/
theorem registers_roundTrip_midnight :
    let bus : Bus := { registers := 0x04 :: List.replicate 0x36 0xFF }
    let config : AlarmConfig :=
      { second := ⟨true, 30⟩, hour := ⟨true, 0⟩, weekday := ⟨true, 0⟩ }
    config.matches (bus.writeAlarm config).2.readAlarm.1.2 = true ∧
      (bus.writeAlarm config).2.HoldsAlarm config ∧
      (bus.writeDateTime ⟨99, 59, 59, 23, 29, 2, 2, 0⟩).2.readDateTime.1.2 =
        some ⟨⟨99, 59, 59, 23, 29, 2, 2, 0⟩, false, true⟩ :=
  ⟨(registers_roundTrip.1 _ _ (by decide) (by decide) (by decide)).2.2.2,
    registers_roundTrip.2.1 _ _ (by decide) (by decide),
    (registers_roundTrip.2.2 _ _ (by decide) (by decide) (by decide)).2.2⟩

end Bus

end Rtc

end CanGui
