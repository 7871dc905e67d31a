import CanGui.Rtc.Writing
/-!
# PCA2131 — the hour mode

A bit of the chip's control register says how its hours are counted. The
write of a date and time clears the bit, and the read of one does not look
at it. So a write changes what the alarm's hour means, and a read takes
twelve hours for 24, in either case but for the hours that both count
alike: those from one to eleven in the morning.
-/

namespace CanGui

namespace Rtc

/-- What an alarm means: the values of its enabled fields, and the hour of
the day. -/
structure AlarmTime where
  second : Option UInt8
  minute : Option UInt8
  hour : Option UInt8
  day : Option UInt8
  weekday : Option UInt8
  deriving DecidableEq, Repr

def AlarmField.meaning (field : AlarmField) : Option UInt8 :=
  if field.enabled = true then some field.value else none

def Alarm.meaning (alarm : Alarm) : AlarmTime where
  second := alarm.second.meaning
  minute := alarm.minute.meaning
  hour := if alarm.hour.enabled = true then some alarm.actualHour24 else none
  day := alarm.day.meaning
  weekday := alarm.weekday.meaning

/-- Registers whose hour denotes the same in another mode denote the same. -/
theorem Denotes.of_hour {hour12 : Bool} {rawData : Bytes} {dateTime : DateTime}
    (h : Denotes false rawData dateTime)
    (hhour : hourOfDay hour12 (rawData.at' 3) = some dateTime.hour.toNat) :
    Denotes hour12 rawData dateTime :=
  ⟨h.hundredth, h.second, h.minute, hhour, h.day, h.weekday, h.month, h.year, h.onCalendar⟩

namespace Bus

variable {bus other : Bus} {dateTime : DateTime}

/-- The hour of the alarm, as the chip's mode has it. -/
def alarmHour (hour12 : Bool) (raw : UInt8) : Option UInt8 :=
  if raw &&& alarmDisableBit = 0 then some (hourAlarm hour12 raw).actualHour24 else none

theorem hour_alarm : bus.alarm.meaning.hour = alarmHour bus.hour12 (bus.register 0x10) := by
  have henabled := decodeAlarmHour_enabled bus.hour12 (bus.register 0x10)
  rw [alarm_eq]
  unfold Alarm.meaning alarmHour
  dsimp only
  rw [henabled]
  simp only [beq_iff_eq]
  rfl

/-- Two buses whose alarm's registers agree differ in the hour at most. -/
theorem meaning_eq_iff
    (hsame : ∀ index, regSecondAlarm ≤ index → other.register index = bus.register index) :
    other.alarm.meaning = bus.alarm.meaning ↔
      alarmHour other.hour12 (bus.register 0x10) = alarmHour bus.hour12 (bus.register 0x10) := by
  have hsecond : other.register 0x0E = bus.register 0x0E := hsame _ (by decide)
  have hminute : other.register 0x0F = bus.register 0x0F := hsame _ (by decide)
  have hhour : other.register 0x10 = bus.register 0x10 := hsame _ (by decide)
  have hday : other.register 0x11 = bus.register 0x11 := hsame _ (by decide)
  have hweekday : other.register 0x12 = bus.register 0x12 := hsame _ (by decide)
  have hrest : other.alarm.meaning =
      { bus.alarm.meaning with hour := other.alarm.meaning.hour } := by
    simp only [alarm_eq, Alarm.meaning, hsecond, hminute, hday, hweekday]
  rw [← @hour_alarm bus, ← hhour, ← @hour_alarm other]
  constructor
  · intro hmeaning
    rw [hmeaning]
  · intro heq
    rw [hrest, heq]

/-! ## A date and time is written -/

/-- The hours that twelve hours and 24 count alike. -/
theorem alarmHour_eq_iff : ∀ raw : UInt8, (decodeAlarmHour true raw).1 = true →
    (alarmHour false raw = alarmHour true raw ↔
      raw &&& alarmDisableBit ≠ 0 ∨ raw &&& 0x3F < 0x12) :=
  forall_byte (by decide +kernel)

/-- **A write of the date and time keeps the alarm** when the chip counts
24 hours, when no hour is set, and when the hour set is one from one to
eleven in the morning; and in no other case. -/
theorem writeDateTime_alarm_iff (hwhole : bus.Whole) (hbefore : bus.readAlarm.1.1.result = .ok)
    (hvalid : bus.readAlarm.1.2.configurationValid = true)
    (hok : (bus.readAlarm.2.writeDateTime dateTime).1.result = .ok)
    (hafter : (bus.readAlarm.2.writeDateTime dateTime).2.readAlarm.1.1.result = .ok) :
    (bus.readAlarm.2.writeDateTime dateTime).2.readAlarm.1.2.meaning =
        bus.readAlarm.1.2.meaning ↔
      bus.hour12 = false ∨ bus.register 0x10 &&& alarmDisableBit ≠ 0 ∨
        bus.register 0x10 &&& 0x3F < 0x12 := by
  obtain ⟨halarm, hrest⟩ := readAlarm_ok hbefore
  have hread : bus.readAlarm.2.Whole := by
    rw [hrest]
    exact hwhole
  obtain ⟨-, hhour12, -, houtside⟩ := writeDateTime_done hread hok
  have hsame (index : Nat) (hindex : regSecondAlarm ≤ index) :
      (bus.readAlarm.2.writeDateTime dateTime).2.register index = bus.register index := by
    rw [houtside index hindex, hrest]
    rfl
  rw [halarm, alarm_eq] at hvalid
  rw [(readAlarm_ok hafter).1, halarm, meaning_eq_iff hsame, hhour12]
  cases hmode : bus.hour12
  · simp
  · simp only [hmode, Bool.and_eq_true] at hvalid
    rw [alarmHour_eq_iff _ hvalid.1.1.2]
    simp

/-- A chip that counts twelve hours, with an alarm for the first hour of
the day. -/
def midnightAlarm : Bus where
  registers := 0x04 :: List.replicate 0x0D 0 ++ [0x80, 0x00, 0x12, 0x80, 0x80] ++
    List.replicate 0x24 0

/-- The alarm for midnight is one for noon when the date and time is
written. -/
theorem midnightAlarm_moved :
    let dateTime : DateTime := ⟨0, 0, 0, 12, 1, 4, 1, 26⟩
    midnightAlarm.Whole ∧ midnightAlarm.readAlarm.1.2.configurationValid = true ∧
      (midnightAlarm.readAlarm.2.writeDateTime dateTime).1.result = .ok ∧
      midnightAlarm.readAlarm.1.2.meaning.hour = some 0 ∧
      (midnightAlarm.readAlarm.2.writeDateTime dateTime).2.readAlarm.1.2.meaning.hour =
        some 12 := by
  decide

/-- The alarm at eleven in the morning. -/
def morningAlarm : Bus := { midnightAlarm with registers := midnightAlarm.registers.set 0x10 0x11 }

theorem writeDateTime_alarm_iff_morning :
    (morningAlarm.readAlarm.2.writeDateTime ⟨0, 0, 0, 12, 1, 4, 1, 26⟩).2.readAlarm.1.2.meaning =
      morningAlarm.readAlarm.1.2.meaning :=
  (writeDateTime_alarm_iff (by decide) (by decide) (by decide) (by decide) (by decide)).2
    (Or.inr (Or.inr (by decide)))

/-! ## A date and time is read -/

/-- The calendar's registers are taken for a date and time: the oscillator
has not stopped, and a chip that counts 24 hours would show one. -/
def ReadsAsTime (bus : Bus) : Prop :=
  bus.register 0x07 &&& 0x80 = 0 ∧ ∃ dateTime, Denotes false bus.calendarRegisters dateTime

/-- The hours that twelve hours and 24 count alike. -/
theorem hourOfDay_eq_iff : ∀ raw : UInt8, ∀ hour < 24, hourOfDay false raw = some hour →
    (hourOfDay true raw = some hour ↔ 0x01 ≤ raw &&& 0x3F ∧ raw &&& 0x3F ≤ 0x11) :=
  forall_byte (by decide +kernel)

/-- **A calendar that is reported valid is the chip's time**, and one that
shows none is not reported, when the chip counts 24 hours, when its hour is
one from one to eleven in the morning, and when its registers are not taken
for a date and time at all; and in no other case. -/
theorem readDateTime_shows_iff {reading : Reading} (hok : bus.readDateTime.1.1.result = .ok)
    (hread : bus.readDateTime.1.2 = some reading) :
    ((reading.calendarValid = true → bus.Shows reading.dateTime) ∧
      ((∀ dateTime, ¬bus.Shows dateTime) → reading.calendarValid = false)) ↔
      bus.hour12 = false ∨ (0x01 ≤ bus.register 0x09 &&& 0x3F ∧ bus.register 0x09 &&& 0x3F ≤ 0x11) ∨
        ¬bus.ReadsAsTime := by
  obtain rfl : decodeDateTime bus.calendarRegisters = reading :=
    Option.some.inj ((readDateTime_ok hok).symm.trans hread)
  have hosf : bus.calendarRegisters.at' 1 = bus.register 0x07 := at'_slice (by omega)
  have hhour : bus.calendarRegisters.at' 3 = bus.register 0x09 := at'_slice (by omega)
  have hreads : bus.ReadsAsTime ↔ (decodeDateTime bus.calendarRegisters).calendarValid = true := by
    rw [ReadsAsTime, ← hosf]
    constructor
    · rintro ⟨hgoes, dateTime, hdenotes⟩
      exact (decodeDateTime_iff.2 ⟨hgoes, hdenotes⟩).1
    · intro hvalid
      obtain ⟨hgoes, hdenotes⟩ := decodeDateTime_iff.1 ⟨hvalid, rfl⟩
      exact ⟨hgoes, _, hdenotes⟩
  rw [hreads]
  by_cases hvalid : (decodeDateTime bus.calendarRegisters).calendarValid = true
  · -- reported: the modes agree on the hour or the report is wrong
    obtain ⟨-, hdenotes⟩ := decodeDateTime_iff.1 ⟨hvalid, rfl⟩
    have hboth := hourOfDay_eq_iff _ _ hdenotes.onCalendar.hour_lt hdenotes.hour
    rw [hhour] at hboth
    have hshows : bus.Shows (decodeDateTime bus.calendarRegisters).dateTime ↔
        bus.hour12 = false ∨ 0x01 ≤ bus.register 0x09 &&& 0x3F ∧
          bus.register 0x09 &&& 0x3F ≤ 0x11 := by
      unfold Shows
      cases bus.hour12
      · simp [hdenotes]
      · rw [← hboth, ← hhour]
        simp only [Bool.true_eq_false, false_or]
        exact ⟨fun h => h.hour, hdenotes.of_hour⟩
    rw [hshows]
    simp only [hvalid, forall_const, not_true_eq_false, or_false, Bool.true_eq_false, imp_false]
    constructor
    · rintro ⟨hkind, -⟩
      exact hkind
    · intro hkind
      exact ⟨hkind, fun hnone => hnone _ (hshows.2 hkind)⟩
  · simp [hvalid]

/-- A chip that counts twelve hours, in the first hour of a day. -/
def firstHour : Bus where
  registers := [0x04, 0, 0, 0, 0, 0, 0, 0, 0, 0x12, 0x01, 0x04, 0x01, 0x26] ++
    List.replicate 0x29 0

/-- It is read as noon, and a valid calendar. -/
theorem firstHour_misread :
    firstHour.Whole ∧ firstHour.readDateTime.1.1.result = .ok ∧
      firstHour.readDateTime.1.2 = some ⟨⟨0, 0, 0, 12, 1, 4, 1, 26⟩, false, true⟩ ∧
      firstHour.Shows ⟨0, 0, 0, 0, 1, 4, 1, 26⟩ ∧
      ¬firstHour.Shows ⟨0, 0, 0, 12, 1, 4, 1, 26⟩ := by
  have hcalendar : (⟨0, 0, 0, 0, 1, 4, 1, 26⟩ : DateTime).OnCalendar :=
    DateTime.isValid_iff.1 (by decide)
  refine ⟨by decide, by decide, by decide, ?_, ?_⟩
  · exact ⟨by decide, by decide, by decide, by decide, by decide, by decide, by decide, by decide,
      hcalendar⟩
  · intro hshows
    exact absurd hshows.hour (by decide)

/-- The hour after. -/
def secondHour : Bus := { firstHour with registers := firstHour.registers.set 0x09 0x01 }

theorem readDateTime_shows_iff_secondHour : secondHour.Shows ⟨0, 0, 0, 1, 1, 4, 1, 26⟩ :=
  ((@readDateTime_shows_iff secondHour _ (by decide) rfl).2 (Or.inr (Or.inl (by decide)))).1
    (by decide)

end Bus

end Rtc

end CanGui
