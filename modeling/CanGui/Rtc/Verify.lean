import CanGui.Common.Run
import CanGui.Rtc.Reading
import CanGui.Rtc.Requests
/-!
# RTC service — a written date and time is read back

Some time after a date and time is written the service reads the clock and
compares: the clock must have gone on, from what was asked for, by about
the time that has passed. The comparison takes the date and the time of
day together, with a tolerance, and the day of the week on its own. The
latter counts the midnights that the time passed would reach, with no
tolerance: a clock that reads a hundredth of a second off, just before or
just behind midnight, is turned down (`dateTimeMatchesPendingWrite_iff`).
-/

namespace CanGui

namespace Rtc

open Calendar (Scale Moment Date)

def writeVerifyToleranceHundredths : Nat := 2
def calendarCycleDays : Nat := 36525

/-- `RTC_IsLeapYear`, which the service has beside the driver's. -/
def rtcIsLeapYear (year : UInt8) : Bool := year % 4 == 0

/-- `RTC_DaysBeforeMonth` -/
def daysBeforeMonth (month year : UInt8) : Nat :=
  let days := [0, 31, 59, 90, 120, 151, 181, 212, 243, 273, 304, 334].getD (month.toNat - 1) 0
  if 2 < month ∧ rtcIsLeapYear year = true then days + 1 else days

/-- `RTC_DateTimeToHundredths` -/
def DateTime.toHundredths (dateTime : DateTime) : Nat :=
  let daysBeforeYear := dateTime.year.toNat * 365 + (dateTime.year.toNat + 3) / 4
  let dayIndex :=
    daysBeforeYear + daysBeforeMonth dateTime.month dateTime.year + (dateTime.day.toNat - 1)
  dayIndex * hundredthsPerDay + dateTime.hundredthsOfDay

/-- What the clock was last read as. -/
def Clock.dateTime (clock : Clock) : DateTime :=
  ⟨clock.hundredth, clock.second, clock.minute, clock.hour, clock.day, clock.weekday,
    clock.month, clock.year⟩

namespace State

/-- The hundredths of a second since the request. -/
def elapsedHundredths (rtc : State) (now : UInt32) : Nat := (now - rtc.writeRequestTick).toNat / 10

/-- `RTC_DateTimeMatchesPendingWrite` -/
def dateTimeMatchesPendingWrite (rtc : State) (now : UInt32) : Bool :=
  let cycleHundredths := calendarCycleDays * hundredthsPerDay
  let elapsedHundredths := rtc.elapsedHundredths now
  if rtc.clock.calendarValid = false ∨ rtc.clock.osf = true then false
  else
    let requestedHundredths := rtc.writeRequested.toHundredths
    let expectedHundredths := (requestedHundredths + elapsedHundredths) % cycleHundredths
    let actualHundredths := rtc.clock.dateTime.toHundredths
    let difference :=
      if expectedHundredths < actualHundredths then actualHundredths - expectedHundredths
      else expectedHundredths - actualHundredths
    let difference :=
      if cycleHundredths / 2 < difference then cycleHundredths - difference else difference
    let elapsedDays :=
      (rtc.writeRequested.hundredthsOfDay + elapsedHundredths) / hundredthsPerDay
    let expectedWeekday := UInt8.ofNat ((rtc.writeRequested.weekday.toNat + elapsedDays) % 7)
    decide (difference ≤ writeVerifyToleranceHundredths ∧ rtc.clock.weekday = expectedWeekday)

end State

/-! ## The calendar behind the bytes -/

theorem scale_round : scale.round = calendarCycleDays * hundredthsPerDay := by
  rw [Scale.round, Calendar.daysBeforeYear_eq]
  rfl

variable {month year : UInt8} {dateTime : DateTime}

theorem daysBeforeMonth_eq (hpos : 1 ≤ month.toNat) (hle : month.toNat ≤ 12) :
    daysBeforeMonth month year = Calendar.daysBeforeMonth year.toNat month.toNat := by
  have hleap : rtcIsLeapYear year = true ↔ Calendar.Leap year.toNat := isLeapYear_iff
  have hmonth := exists_month hpos hle
  simp only [List.mem_cons, List.not_mem_nil, or_false] at hmonth
  rcases hmonth with rfl | rfl | rfl | rfl | rfl | rfl | rfl | rfl | rfl | rfl | rfl | rfl <;>
    by_cases h : Calendar.Leap year.toNat <;>
      simp [daysBeforeMonth, Calendar.daysBeforeMonth, Calendar.monthLength, hleap, h]

/-- The code's number of a date and time is its place in the calendar. -/
theorem DateTime.OnCalendar.toHundredths_eq (h : dateTime.OnCalendar) :
    dateTime.toHundredths = dateTime.moment.position scale := by
  simp only [toHundredths, daysBeforeMonth_eq h.date.month_pos h.date.month_le, Moment.position,
    Date.index, moment, DateTime.date, Calendar.daysBeforeYear_eq]
  rfl

/-! ## What the clock holds -/

namespace State

variable {rtc : State} {now : UInt32}

/-- The clock's calendar, if it is a valid one, is a date and time. -/
def Read (rtc : State) : Prop :=
  rtc.clock.calendarValid = true → rtc.clock.dateTime.isValid = true

instance (rtc : State) : Decidable rtc.Read := inferInstanceAs (Decidable (_ → _))

/-- What a read that succeeds leaves behind, in `PCA2131_UpdateTime`. -/
def timeRead (rtc : State) (reply : Reply) (reading : Reading) : State :=
  { rtc with
    clock := {
      ready := true
      calendarValid := reading.calendarValid
      hundredth := reading.dateTime.hundredth
      second := reading.dateTime.second
      minute := reading.dateTime.minute
      hour := reading.dateTime.hour
      day := reading.dateTime.day
      weekday := reading.dateTime.weekday
      month := reading.dateTime.month
      year := reading.dateTime.year
      osf := reading.osf
      lastResult := .ok
      lastStatus := reply.status
      lastError := reply.error } }

/-- What is done to the clock's calendar: the GUI's requests, and reads
that succeed. -/
inductive Call where
  | setDateTime (dateTime : DateTime) (tick : UInt32)
  | setAlarm (config : AlarmConfig) (tick : UInt32)
  | updateTime (reply : Reply) (rawData : Bytes)

def call (rtc : State) : Call → State
  | .setDateTime dateTime tick => (rtc.setDateTime dateTime tick).state
  | .setAlarm config tick => (rtc.setAlarm config tick).state
  | .updateTime reply rawData => rtc.timeRead reply (decodeDateTime rawData)

theorem clock_setDateTime (dateTime : DateTime) (tick : UInt32) :
    (rtc.setDateTime dateTime tick).state.clock.dateTime = rtc.clock.dateTime ∧
        (rtc.setDateTime dateTime tick).state.clock.calendarValid = rtc.clock.calendarValid ∨
      (rtc.setDateTime dateTime tick).state.clock.dateTime = dateTime ∧
        dateTime.isValid = true := by
  unfold setDateTime
  split
  · exact .inl ⟨rfl, rfl⟩
  · split
    · exact .inl ⟨rfl, rfl⟩
    · dsimp only
      split
      · exact .inl ⟨rfl, rfl⟩
      · next hok => exact .inr ⟨rfl, (Bus.writeDateTime_ok_iff.1 (not_not.1 hok)).1⟩

theorem clock_setAlarm (config : AlarmConfig) (tick : UInt32) :
    (rtc.setAlarm config tick).state.clock = rtc.clock := by
  unfold setAlarm
  dsimp only
  split
  · rfl
  · split
    · rfl
    · split
      · rfl
      · split
        · rfl
        · unfold writeAlarm
          dsimp only
          split <;> rfl

theorem read_call (h : rtc.Read) (call : Call) : (rtc.call call).Read := by
  cases call with
  | setDateTime dateTime tick =>
    intro hvalid
    show (rtc.setDateTime dateTime tick).state.clock.dateTime.isValid = true
    rcases @clock_setDateTime rtc dateTime tick with ⟨hsame, hkept⟩ | ⟨hset, hisValid⟩
    · rw [hsame]
      exact h (hkept.symm.trans hvalid)
    · rw [hset]
      exact hisValid
  | setAlarm config tick =>
    have hsame : (rtc.call (.setAlarm config tick)).clock = rtc.clock := clock_setAlarm config tick
    rw [Read, hsame]
    exact h
  | updateTime reply rawData => exact decodeDateTime_valid

/-- **A valid calendar of the clock is a date and time**, whatever was asked
and read since the start. -/
theorem read_run (calls : List Call) : (CanGui.run call {} calls).Read := by
  have hstart : ({} : State).Read := by decide
  exact @run_invariant _ _ call Read (fun _ event h => read_call h event) calls _ hstart

/-! ## What the comparison accepts -/

/-- The clock has gone on by the time passed, within the tolerance. -/
def Tolerated (rtc : State) (now : UInt32) (passed : Int) : Prop :=
  |passed - rtc.elapsedHundredths now| ≤ writeVerifyToleranceHundredths

instance (rtc : State) (now : UInt32) (passed : Int) : Decidable (rtc.Tolerated now passed) :=
  inferInstanceAs (Decidable (_ ≤ _))

/-- The comparison in its own words: the date and time within the
tolerance, the day of the week without. -/
theorem dateTimeMatchesPendingWrite_eq_true (hrequested : rtc.writeRequested.isValid = true)
    (hread : rtc.Read) : rtc.dateTimeMatchesPendingWrite now = true ↔
      (rtc.clock.calendarValid = true ∧ rtc.clock.osf = false) ∧
      (∃ passed, rtc.Tolerated now passed ∧
        rtc.writeRequested.moment.Reads scale rtc.clock.dateTime.moment passed) ∧
      rtc.clock.weekday.toNat = (rtc.writeRequested.weekday.toNat +
        (rtc.writeRequested.hundredthsOfDay + rtc.elapsedHundredths now) / hundredthsPerDay) % 7 := by
  unfold dateTimeMatchesPendingWrite
  simp only
  split
  · next hnot =>
    simp only [Bool.false_eq_true, false_iff]
    rintro ⟨⟨hvalid, hosf⟩, -⟩
    simp [hvalid, hosf] at hnot
  · next hvalid =>
    have hvalid : rtc.clock.calendarValid = true ∧ rtc.clock.osf = false := by
      simpa using hvalid
    have hrequested := DateTime.isValid_iff.1 hrequested
    have hclock := DateTime.isValid_iff.1 (hread hvalid.1)
    rw [and_iff_right hvalid, decide_eq_true_eq]
    refine and_congr ?_ ?_
    · have hposition := Moment.position_lt hclock.moment_valid
      have hround : 0 < scale.round := by omega
      rw [hrequested.toHundredths_eq, hclock.toHundredths_eq, ← scale_round]
      refine (Calendar.apart_le_iff (Nat.mod_lt _ hround) hposition).trans ?_
      -- the expected number is taken within its century; the distance to it is not
      have hmod (shift : Int) : ((((rtc.writeRequested.moment.position scale +
            rtc.elapsedHundredths now) % scale.round : Nat) : Int) + shift) ≡
          rtc.writeRequested.moment.position scale + (rtc.elapsedHundredths now + shift)
            [ZMOD scale.round] := by
        push_cast
        rw [← add_assoc]
        exact (Int.mod_modEq _ _).add_right shift
      constructor
      · rintro ⟨shift, hshift, hposition⟩
        refine ⟨rtc.elapsedHundredths now + shift, by simpa [Tolerated] using hshift, ?_⟩
        rw [Moment.reads_iff hrequested.moment_valid hclock.moment_valid]
        exact hposition.trans (hmod shift)
      · rintro ⟨passed, hpassed, hreads⟩
        rw [Moment.reads_iff hrequested.moment_valid hclock.moment_valid] at hreads
        refine ⟨passed - rtc.elapsedHundredths now, hpassed, hreads.trans ?_⟩
        have hshift := (hmod (passed - rtc.elapsedHundredths now)).symm
        rwa [add_sub_cancel] at hshift
    · rw [← UInt8.toNat_inj, UInt8.toNat_ofNat', Nat.mod_eq_of_lt (b := 2 ^ 8) (by omega)]

/-- The midnights that a time takes the requested moment over. -/
def midnights (rtc : State) (passed : Int) : Int :=
  (rtc.writeRequested.hundredthsOfDay + passed) / hundredthsPerDay

/-- **A clock that has gone on as it should is accepted exactly when the
time it has gone and the time passed reach over the same midnights, and a
clock that has not is never accepted.** -/
theorem dateTimeMatchesPendingWrite_iff (hrequested : rtc.writeRequested.isValid = true)
    (hread : rtc.Read) :
    (rtc.clock.calendarValid = true → rtc.clock.osf = false → ∀ passed, rtc.Tolerated now passed →
      rtc.writeRequested.moment.Advanced scale rtc.clock.dateTime.moment passed →
        (rtc.dateTimeMatchesPendingWrite now = true ↔
          rtc.midnights passed = rtc.midnights (rtc.elapsedHundredths now))) ∧
      ((∀ passed, rtc.Tolerated now passed →
        ¬rtc.writeRequested.moment.Reads scale rtc.clock.dateTime.moment passed) →
          rtc.dateTimeMatchesPendingWrite now = false) := by
  have hexact := @dateTimeMatchesPendingWrite_eq_true _ now hrequested hread
  constructor
  · intro hvalid hosf passed htolerated hadvanced
    have hrequested := (DateTime.isValid_iff.1 hrequested).moment_valid
    have hclock := (DateTime.isValid_iff.1 (hread hvalid)).moment_valid
    obtain ⟨hreads, hweekday⟩ := (Moment.advanced_iff hrequested hclock passed).1 hadvanced
    rw [hexact, and_iff_right ⟨hvalid, hosf⟩, and_iff_right ⟨passed, htolerated, hreads⟩]
    have hlt : rtc.clock.weekday.toNat < 7 := hclock.weekday_lt
    obtain ⟨hlow, hhigh⟩ := abs_le.1 htolerated
    change (rtc.clock.weekday.toNat : Int) ≡ rtc.writeRequested.weekday.toNat +
      (rtc.writeRequested.hundredthsOfDay + passed) / (8640000 : Nat) [ZMOD 7] at hweekday
    simp only [midnights, hundredthsPerDay, writeVerifyToleranceHundredths, Int.ModEq] at *
    -- the two counts of midnights are at most one apart
    omega
  · intro hnone
    rw [← Bool.not_eq_true, hexact]
    rintro ⟨-, ⟨passed, htolerated, hreads⟩, -⟩
    exact hnone passed htolerated hreads

/-- The last hundredths of a century are asked for; the clock is read when
it has started again. -/
def centuryEnds : State where
  clock := {
    calendarValid := true
    hundredth := 1
    day := 1
    weekday := 5
    month := 1 }
  writeRequested := ⟨98, 59, 59, 23, 31, 4, 12, 99⟩

theorem dateTimeMatchesPendingWrite_iff_centuryEnds :
    centuryEnds.dateTimeMatchesPendingWrite 30 = true :=
  ((@dateTimeMatchesPendingWrite_iff centuryEnds 30 (by decide) (by decide)).1
    rfl rfl 3 (by decide) (by decide)).2 (by decide)

/-- The clock is read two hundredths of a second behind a request, and one
before midnight. -/
def beforeMidnight : State where
  clock := {
    calendarValid := true
    hundredth := 99
    second := 59
    minute := 59
    hour := 23
    day := 1
    weekday := 4
    month := 1
    year := 26 }
  writeRequested := ⟨98, 59, 59, 23, 1, 4, 1, 26⟩

/-- Its clock is right, to one hundredth, and is turned down. -/
theorem beforeMidnight_rejected :
    beforeMidnight.writeRequested.isValid = true ∧ beforeMidnight.clock.calendarValid = true ∧
      beforeMidnight.clock.osf = false ∧ beforeMidnight.Read ∧ beforeMidnight.Tolerated 20 1 ∧
      beforeMidnight.writeRequested.moment.Advanced scale beforeMidnight.clock.dateTime.moment 1 ∧
      beforeMidnight.dateTimeMatchesPendingWrite 20 = false := by
  refine ⟨?_, ?_, ?_, ?_, ?_, ?_, ?_⟩ <;> decide

end State

end Rtc

end CanGui
