import CanGui.Rtc.Verify
import Mathlib.Data.List.Lex
import Mathlib.Data.Set.Function
/-!
# RTC service — a date and time as a number

The service counts the hundredths of a second from the start of the
century, with tables of its own for the months and the leap years. The
driver checks a date and time with others. The two fit: each hundredth of
the century is one date and time that the driver lets through, and the
numbers follow the order of the calendar without a gap
(`toHundredths_bijective`).
-/

namespace CanGui

namespace Rtc

open Calendar (Moment Date)

namespace DateTime

/-- The fields in the order they count, without the day of the week. -/
def fields (dateTime : DateTime) : List Nat :=
  [dateTime.year.toNat, dateTime.month.toNat, dateTime.day.toNat, dateTime.hour.toNat,
    dateTime.minute.toNat, dateTime.second.toNat, dateTime.hundredth.toNat]

/-- Chronological order: the first field that differs decides. -/
def Before (dateTime later : DateTime) : Prop := dateTime.fields < later.fields

instance (dateTime later : DateTime) : Decidable (dateTime.Before later) :=
  inferInstanceAs (Decidable (_ < _))

/-- It is the next one that is valid. -/
def Next (dateTime later : DateTime) : Prop :=
  dateTime.Before later ∧ ∀ between : DateTime, between.isValid = true →
    ¬(dateTime.Before between ∧ between.Before later)

variable {dateTime later : DateTime}

/-! ## The order of the calendar -/

theorem hundredthsOfDay_lt_iff (h : dateTime.OnCalendar) (hlater : later.OnCalendar) :
    dateTime.hundredthsOfDay < later.hundredthsOfDay ↔
      dateTime.fields.drop 3 < later.fields.drop 3 := by
  have := h.minute_lt
  have := h.second_lt
  have := h.hundredth_lt
  have := hlater.minute_lt
  have := hlater.second_lt
  have := hlater.hundredth_lt
  simp only [fields, List.drop_succ_cons, List.drop_zero, List.cons_lt_cons_iff, List.not_lt_nil,
    and_false, or_false, hundredthsOfDay, hundredthsPerHour, hundredthsPerMinute,
    hundredthsPerSecond]
  omega

theorem before_iff (h : dateTime.OnCalendar) (hlater : later.OnCalendar) :
    dateTime.Before later ↔ dateTime.moment.Before later.moment := by
  have htime := hundredthsOfDay_lt_iff h hlater
  have hfields : dateTime.Before later ↔ dateTime.date.Before later.date ∨
      dateTime.date = later.date ∧ dateTime.fields.drop 3 < later.fields.drop 3 := by
    simp only [Before, fields, Date.Before, date, Date.mk.injEq, List.cons_lt_cons_iff,
      List.drop_succ_cons, List.drop_zero]
    tauto
  rw [hfields, ← htime]
  rfl

/-- **The numbers follow the order of the calendar.** -/
theorem toHundredths_lt_iff (h : dateTime.OnCalendar) (hlater : later.OnCalendar) :
    dateTime.toHundredths < later.toHundredths ↔ dateTime.Before later := by
  rw [h.toHundredths_eq, hlater.toHundredths_eq, before_iff h hlater]
  exact Moment.position_lt_iff h.moment_valid hlater.moment_valid

/-! ## From a moment to the fields -/

/-- The fields of a moment, a byte each. -/
def ofMoment (moment : Moment) : DateTime where
  hundredth := UInt8.ofNat (moment.time % 100)
  second := UInt8.ofNat (moment.time / hundredthsPerSecond % 60)
  minute := UInt8.ofNat (moment.time / hundredthsPerMinute % 60)
  hour := UInt8.ofNat (moment.time / hundredthsPerHour)
  day := UInt8.ofNat moment.date.day
  weekday := UInt8.ofNat moment.weekday
  month := UInt8.ofNat moment.date.month
  year := UInt8.ofNat moment.date.year

section OfMoment

variable {moment : Moment}

theorem date_ofMoment (h : moment.Valid scale) : (ofMoment moment).date = moment.date := by
  have hyear : moment.date.year < 100 := h.date.year_lt
  have hmonth := h.date.month_le
  have hday := h.date.day_le.trans (Calendar.monthLength_le hmonth)
  simp (disch := omega) only [date, ofMoment, UInt8.toNat_ofNat', Nat.mod_eq_of_lt]

theorem time_ofMoment (h : moment.Valid scale) :
    (ofMoment moment).hundredth.toNat = moment.time % 100 ∧
      (ofMoment moment).second.toNat = moment.time / 100 % 60 ∧
      (ofMoment moment).minute.toNat = moment.time / 6000 % 60 ∧
      (ofMoment moment).hour.toNat = moment.time / 360000 ∧
      (ofMoment moment).weekday.toNat = moment.weekday := by
  have htime : moment.time < 8640000 := h.time_lt
  have hweekday := h.weekday_lt
  simp only [ofMoment, hundredthsPerSecond, hundredthsPerMinute, hundredthsPerHour,
    UInt8.toNat_ofNat']
  omega

theorem onCalendar_ofMoment (h : moment.Valid scale) : (ofMoment moment).OnCalendar := by
  obtain ⟨hhundredth, hsecond, hminute, hhour, hweekday⟩ := time_ofMoment h
  have htime : moment.time < 8640000 := h.time_lt
  have hlt := h.weekday_lt
  have hdate : (ofMoment moment).date.Valid 100 := by
    rw [date_ofMoment h]
    exact h.date
  exact ⟨by omega, by omega, by omega, by omega, by omega, hdate⟩

/-- The fields are those of the moment. -/
theorem moment_ofMoment (h : moment.Valid scale) : (ofMoment moment).moment = moment := by
  obtain ⟨hhundredth, hsecond, hminute, hhour, hweekday⟩ := time_ofMoment h
  have htime : (ofMoment moment).hundredthsOfDay = moment.time := by
    simp only [hundredthsOfDay, hundredthsPerHour, hundredthsPerMinute, hundredthsPerSecond]
    omega
  rw [DateTime.moment, date_ofMoment h, htime, hweekday]

end OfMoment

/-- **Each number of the century is some date and time's**, whatever the
day of the week. -/
theorem exists_toHundredths {weekday : UInt8} {n : Nat} (hweekday : weekday.toNat < 7)
    (hn : n < calendarCycleDays * hundredthsPerDay) :
    ∃ dateTime : DateTime, dateTime.OnCalendar ∧ dateTime.weekday = weekday ∧
      dateTime.toHundredths = n := by
  rw [← scale_round] at hn
  obtain ⟨moment, hmoment, hday, hposition⟩ :=
    @Moment.exists_position scale weekday.toNat n (by decide) hweekday hn
  have honCalendar := onCalendar_ofMoment hmoment
  refine ⟨ofMoment moment, honCalendar, ?_, ?_⟩
  · show UInt8.ofNat moment.weekday = weekday
    rw [hday, UInt8.ofNat_toNat]
  · rw [honCalendar.toHundredths_eq, moment_ofMoment hmoment, hposition]

theorem toHundredths_lt (h : dateTime.OnCalendar) :
    dateTime.toHundredths < calendarCycleDays * hundredthsPerDay := by
  rw [h.toHundredths_eq, ← scale_round]
  exact Moment.position_lt h.moment_valid

/-- Two dates and times of a number have their fields in common. -/
theorem fields_eq_of_toHundredths (h : dateTime.OnCalendar) (hlater : later.OnCalendar)
    (heq : dateTime.toHundredths = later.toHundredths) : dateTime.fields = later.fields := by
  -- neither comes first
  rcases lt_trichotomy dateTime.fields later.fields with hless | hsame | hmore
  · exact absurd heq ((toHundredths_lt_iff h hlater).2 hless).ne
  · exact hsame
  · exact absurd heq ((toHundredths_lt_iff hlater h).2 hmore).ne'

theorem eq_of_fields (hfields : dateTime.fields = later.fields)
    (hweekday : dateTime.weekday = later.weekday) : dateTime = later := by
  simp only [fields, List.cons.injEq, UInt8.toNat_inj, and_true] at hfields
  obtain ⟨hyear, hmonth, hday, hhour, hminute, hsecond, hhundredth⟩ := hfields
  cases dateTime
  cases later
  simp_all

/-- The next valid one has the next number. -/
theorem next_iff (h : dateTime.OnCalendar) (hlater : later.OnCalendar) :
    dateTime.Next later ↔ later.toHundredths = dateTime.toHundredths + 1 := by
  have horder := toHundredths_lt_iff h hlater
  constructor
  · rintro ⟨hbefore, hnone⟩
    have hlt := horder.2 hbefore
    by_contra hnot
    -- the number between the two is some valid date and time's
    obtain ⟨between, honCalendar, -, hnumber⟩ := @exists_toHundredths 0
      (dateTime.toHundredths + 1) (by decide) (lt_of_le_of_lt hlt (toHundredths_lt hlater))
    refine hnone between (isValid_iff.2 honCalendar) ⟨?_, ?_⟩
    · rw [← toHundredths_lt_iff h honCalendar]
      omega
    · rw [← toHundredths_lt_iff honCalendar hlater]
      omega
  · intro hsucc
    refine ⟨horder.1 (by omega), ?_⟩
    rintro between hvalid ⟨hbefore, hafter⟩
    have honCalendar := isValid_iff.1 hvalid
    rw [← toHundredths_lt_iff h honCalendar] at hbefore
    rw [← toHundredths_lt_iff honCalendar hlater] at hafter
    omega

/-- **The numbers are the century's hundredths**: on the dates and times
that the driver lets through, with any one day of the week, they are a
bijection onto what is below the cycle; the day of the week makes no
difference; they follow the order of the calendar, and the next one valid
has the next number. -/
theorem toHundredths_bijective :
    (∀ weekday : UInt8, weekday ≤ 6 →
      Set.BijOn toHundredths {dateTime | dateTime.isValid = true ∧ dateTime.weekday = weekday}
        {number | number < calendarCycleDays * hundredthsPerDay}) ∧
    (∀ (dateTime : DateTime) (weekday : UInt8),
      { dateTime with weekday := weekday }.toHundredths = dateTime.toHundredths) ∧
    ∀ dateTime later : DateTime, dateTime.isValid = true → later.isValid = true →
      (dateTime.toHundredths < later.toHundredths ↔ dateTime.Before later) ∧
      (dateTime.Next later ↔ later.toHundredths = dateTime.toHundredths + 1) := by
  refine ⟨fun weekday hweekday => ⟨?_, ?_, ?_⟩, fun _ _ => rfl, ?_⟩
  · rintro dateTime ⟨hvalid, -⟩
    exact toHundredths_lt (isValid_iff.1 hvalid)
  · rintro dateTime ⟨hvalid, hsame⟩ later ⟨hlater, hsame'⟩ heq
    have hfields := fields_eq_of_toHundredths (isValid_iff.1 hvalid) (isValid_iff.1 hlater) heq
    exact eq_of_fields hfields (hsame.trans hsame'.symm)
  · intro number hnumber
    have hlt : weekday.toNat < 7 := Nat.lt_succ_of_le (UInt8.le_iff_toNat_le.1 hweekday)
    obtain ⟨dateTime, honCalendar, hsame, hposition⟩ := exists_toHundredths hlt hnumber
    exact ⟨dateTime, ⟨isValid_iff.2 honCalendar, hsame⟩, hposition⟩
  · intro dateTime later hvalid hlater
    have h := isValid_iff.1 hvalid
    have hlater := isValid_iff.1 hlater
    exact ⟨toHundredths_lt_iff h hlater, next_iff h hlater⟩

/-- A leap day follows the day before it. -/
example : (⟨0, 0, 0, 0, 29, 4, 2, 24⟩ : DateTime).toHundredths =
    (⟨99, 59, 59, 23, 28, 3, 2, 24⟩ : DateTime).toHundredths + 1 := by decide

end DateTime

end Rtc

end CanGui
