import Mathlib.Data.Int.ModEq
import Mathlib.Logic.Function.Iterate
import Mathlib.Tactic.IntervalCases
import Mathlib.Tactic.Linarith
import Mathlib.Tactic.Ring
/-!
# A calendar that goes round

The calendar of a clock chip: every fourth year is a leap year, and after
the last of `years` years the first follows again. A moment is a date, a
day of the week and a time of the day, counted in the chip's own units.

What the file gives is the number of days and units a date and a moment
lie behind the calendar's start (`Date.index`, `Moment.position`): the
numbers follow the order of the calendar (`position_lt_iff`), valid dates
and moments are told apart by them, and one tick adds one, up to whole
rounds (`position_tick`). `advanced_iff` reads off what it takes for one
moment to be another one some units on.
-/

namespace CanGui

namespace Calendar

structure Date where
  year : Nat
  month : Nat
  day : Nat
  deriving DecidableEq, Repr

/-- Every fourth year, from the first one. -/
def Leap (year : Nat) : Prop := year % 4 = 0

instance (year : Nat) : Decidable (Leap year) := inferInstanceAs (Decidable (_ = _))

/-- The days of a month, counted from 1; none in a month that is not. -/
def monthLength (year month : Nat) : Nat :=
  if month = 2 then if Leap year then 29 else 28
  else [0, 31, 28, 31, 30, 31, 30, 31, 31, 30, 31, 30, 31].getD month 0

def yearLength (year : Nat) : Nat := if Leap year then 366 else 365

/-- The days of a year behind which a month starts. -/
def daysBeforeMonth (year : Nat) : Nat → Nat
  | 0 | 1 => 0
  | month + 2 => daysBeforeMonth year (month + 1) + monthLength year (month + 1)

/-- The days behind which a year starts. -/
def daysBeforeYear : Nat → Nat
  | 0 => 0
  | year + 1 => daysBeforeYear year + yearLength year

namespace Date

/-- The date is one of the calendar's. -/
structure Valid (years : Nat) (date : Date) : Prop where
  year_lt : date.year < years
  month_pos : 1 ≤ date.month
  month_le : date.month ≤ 12
  day_pos : 1 ≤ date.day
  day_le : date.day ≤ monthLength date.year date.month

/-- The day after, and the first day after the last one. -/
def next (years : Nat) (date : Date) : Date :=
  if date.day < monthLength date.year date.month then { date with day := date.day + 1 }
  else if date.month < 12 then ⟨date.year, date.month + 1, 1⟩
  else if date.year + 1 < years then ⟨date.year + 1, 1, 1⟩
  else ⟨0, 1, 1⟩

/-- The days from the calendar's first one. -/
def index (date : Date) : Nat :=
  daysBeforeYear date.year + daysBeforeMonth date.year date.month + (date.day - 1)

end Date

/-! ## Years and months -/

theorem daysBeforeYear_eq (year : Nat) : daysBeforeYear year = year * 365 + (year + 3) / 4 := by
  induction year with
  | zero => rfl
  | succ year ih =>
    rw [daysBeforeYear, ih, yearLength]
    by_cases hleap : Leap year
    · rw [if_pos hleap]
      unfold Leap at hleap
      omega
    · rw [if_neg hleap]
      unfold Leap at hleap
      omega

theorem daysBeforeYear_mono {year later : Nat} (h : year ≤ later) :
    daysBeforeYear year ≤ daysBeforeYear later := by
  rw [daysBeforeYear_eq, daysBeforeYear_eq]
  omega

theorem monthLength_pos {year month : Nat} (hpos : 1 ≤ month) (hle : month ≤ 12) :
    1 ≤ monthLength year month := by
  unfold monthLength
  split
  · split <;> omega
  · interval_cases month <;> simp

theorem monthLength_le {year month : Nat} (hle : month ≤ 12) : monthLength year month ≤ 31 := by
  unfold monthLength
  split
  · split <;> omega
  · interval_cases month <;> simp

theorem daysBeforeMonth_succ {year month : Nat} (hpos : 1 ≤ month) :
    daysBeforeMonth year (month + 1) = daysBeforeMonth year month + monthLength year month := by
  obtain ⟨before, rfl⟩ := Nat.exists_eq_add_of_le' hpos
  rfl

/-- The twelve months make the year. -/
theorem daysBeforeMonth_year (year : Nat) : daysBeforeMonth year 13 = yearLength year := by
  by_cases hleap : Leap year <;> simp [daysBeforeMonth, monthLength, yearLength, hleap]

theorem daysBeforeMonth_mono {year month later : Nat} (hpos : 1 ≤ month) (h : month ≤ later) :
    daysBeforeMonth year month ≤ daysBeforeMonth year later := by
  induction later, h using Nat.le_induction with
  | base => exact le_rfl
  | succ later hle ih =>
    rw [daysBeforeMonth_succ (by omega)]
    omega

/-! ## Dates -/

variable {years : Nat} {date other : Date}

namespace Date

theorem index_lt_month (h : date.Valid years) :
    date.index < daysBeforeYear date.year + daysBeforeMonth date.year (date.month + 1) := by
  have hday := h.day_le
  have hpos := h.day_pos
  rw [index, daysBeforeMonth_succ h.month_pos]
  omega

theorem index_lt_year (h : date.Valid years) : date.index < daysBeforeYear (date.year + 1) := by
  have hmonth : daysBeforeMonth date.year (date.month + 1) ≤ daysBeforeMonth date.year 13 :=
    daysBeforeMonth_mono (by omega) (by have := h.month_le; omega)
  have hlt := index_lt_month h
  rw [daysBeforeMonth_year] at hmonth
  rw [daysBeforeYear]
  omega

theorem index_lt (h : date.Valid years) : date.index < daysBeforeYear years :=
  lt_of_lt_of_le (index_lt_year h) (daysBeforeYear_mono h.year_lt)

/-- The date comes first, by its year, its month and its day. -/
def Before (date other : Date) : Prop :=
  date.year < other.year ∨ date.year = other.year ∧
    (date.month < other.month ∨ date.month = other.month ∧ date.day < other.day)

theorem before_trichotomy (date other : Date) :
    date.Before other ∨ date = other ∨ other.Before date := by
  cases date
  cases other
  simp only [Before, mk.injEq]
  omega

/-- **The days' numbers follow the order of the calendar.** -/
theorem index_lt_of_before (h : date.Valid years) (hbefore : date.Before other) :
    date.index < other.index := by
  rcases hbefore with hyear | ⟨hyear, hmonth | ⟨hmonth, hday⟩⟩
  · have hlt := index_lt_year h
    have hmono : daysBeforeYear (date.year + 1) ≤ daysBeforeYear other.year :=
      daysBeforeYear_mono hyear
    have hother : daysBeforeYear other.year ≤ other.index := by
      rw [index]
      omega
    omega
  · have hlt := index_lt_month h
    have hmono : daysBeforeMonth date.year (date.month + 1) ≤
        daysBeforeMonth date.year other.month :=
      daysBeforeMonth_mono (by omega) hmonth
    have hother : daysBeforeYear date.year + daysBeforeMonth date.year other.month ≤
        other.index := by
      rw [index, hyear]
      omega
    omega
  · have hpos := h.day_pos
    rw [index, index, hyear, hmonth]
    omega

/-- Two dates are told apart by their day's number. -/
theorem index_inj (h : date.Valid years) (hother : other.Valid years) :
    date.index = other.index ↔ date = other := by
  refine ⟨fun heq => ?_, congrArg index⟩
  rcases before_trichotomy date other with hbefore | hsame | hafter
  · exact absurd heq (index_lt_of_before h hbefore).ne
  · exact hsame
  · exact absurd heq (index_lt_of_before hother hafter).ne'

theorem valid_next (h : date.Valid years) : (date.next years).Valid years := by
  obtain ⟨hyear, hmonth, hmonth', hday, hday'⟩ := h
  unfold next
  split
  · exact ⟨hyear, hmonth, hmonth', by simp, by simpa using by omega⟩
  · split
    · exact ⟨hyear, by simp, by simpa using by omega, le_rfl,
        monthLength_pos (by simp) (by simpa using by omega)⟩
    · split
      · next hlast => exact ⟨hlast, le_rfl, by simp, le_rfl, monthLength_pos le_rfl (by simp)⟩
      · exact ⟨by simpa using by omega, le_rfl, by simp, le_rfl, monthLength_pos le_rfl (by simp)⟩

/-- The next day's number is one more, and 0 behind the last day. -/
theorem index_next (h : date.Valid years) :
    (date.next years).index = (date.index + 1) % daysBeforeYear years := by
  have hlt := index_lt (valid_next h)
  suffices hsucc : (date.next years).index = date.index + 1 ∨
      (date.next years).index = 0 ∧ date.index + 1 = daysBeforeYear years by
    rcases hsucc with hsucc | ⟨hzero, hround⟩
    · rw [← hsucc, Nat.mod_eq_of_lt hlt]
    · rw [hzero, hround, Nat.mod_self]
  have hpos := h.day_pos
  have hle := h.day_le
  have hmonth := h.month_le
  have hyear := h.year_lt
  have hnextMonth : daysBeforeMonth date.year (date.month + 1) = _ :=
    daysBeforeMonth_succ h.month_pos
  unfold next
  split
  · left
    simp only [index]
    omega
  · next hfull =>
    split
    · left
      simp only [index]
      omega
    · -- the last day of a year
      have hlast : date.month = 12 := by omega
      rw [hlast] at hfull hle hnextMonth
      rw [daysBeforeMonth_year] at hnextMonth
      have hnextYear : daysBeforeYear (date.year + 1) = daysBeforeYear date.year + _ := rfl
      split
      · left
        rw [index, index, hlast, hnextYear]
        show _ + 0 + 0 = _
        omega
      · right
        have hyears : years = date.year + 1 := by omega
        rw [index, index, hlast, hyears, hnextYear]
        refine ⟨rfl, ?_⟩
        omega

end Date

/-! ## Moments -/

structure Moment where
  date : Date
  weekday : Nat
  /-- Units since midnight. -/
  time : Nat
  deriving DecidableEq, Repr

/-- How a calendar counts: its years, and the units of a day. -/
structure Scale where
  years : Nat
  day : Nat
  day_pos : 0 < day

namespace Scale

/-- The units until the calendar starts again. -/
def round (scale : Scale) : Nat := daysBeforeYear scale.years * scale.day

end Scale

namespace Moment

variable (scale : Scale)

structure Valid (moment : Moment) : Prop where
  date : moment.date.Valid scale.years
  weekday_lt : moment.weekday < 7
  time_lt : moment.time < scale.day

/-- One unit passes. -/
def tick (moment : Moment) : Moment :=
  if moment.time + 1 < scale.day then { moment with time := moment.time + 1 }
  else ⟨moment.date.next scale.years, (moment.weekday + 1) % 7, 0⟩

/-- The units since the calendar's start. -/
def position (moment : Moment) : Nat := moment.date.index * scale.day + moment.time

/-- Some units, or fewer than none, lead from one moment to the other. -/
def Advanced (moment later : Moment) (units : Int) : Prop :=
  (tick scale)^[(-units).toNat] later = (tick scale)^[units.toNat] moment

/-- They lead to its date and its time of the day; the day of the week is
left open. -/
def Reads (moment later : Moment) (units : Int) : Prop :=
  ((tick scale)^[(-units).toNat] later).date = ((tick scale)^[units.toNat] moment).date ∧
    ((tick scale)^[(-units).toNat] later).time = ((tick scale)^[units.toNat] moment).time

instance (moment later : Moment) (units : Int) : Decidable (moment.Advanced scale later units) :=
  inferInstanceAs (Decidable (_ = _))

variable {scale} {moment later : Moment}

theorem position_lt (h : moment.Valid scale) : moment.position scale < scale.round := by
  have hnext : (moment.date.index + 1) * scale.day ≤ daysBeforeYear scale.years * scale.day :=
    Nat.mul_le_mul_right _ (Date.index_lt h.date)
  have hlt := h.time_lt
  rw [Nat.add_mul] at hnext
  unfold position Scale.round
  omega

/-- Two moments of a position have their date and time in common. -/
theorem position_inj (h : moment.Valid scale) (hlater : later.Valid scale) :
    moment.position scale = later.position scale ↔
      moment.date = later.date ∧ moment.time = later.time := by
  constructor
  · intro heq
    have hindex (moment : Moment) (h : moment.Valid scale) :
        moment.position scale / scale.day = moment.date.index := by
      rw [position, Nat.mul_comm, Nat.mul_add_div scale.day_pos, Nat.div_eq_of_lt h.time_lt,
        Nat.add_zero]
    have hdate : moment.date.index = later.date.index := by
      rw [← hindex moment h, heq, hindex later hlater]
    rw [position, position, hdate] at heq
    exact ⟨(Date.index_inj h.date hlater.date).1 hdate, by omega⟩
  · rintro ⟨hdate, htime⟩
    rw [position, position, hdate, htime]

/-- The moment comes first, by its date and its time of the day. -/
def Before (moment later : Moment) : Prop :=
  moment.date.Before later.date ∨ moment.date = later.date ∧ moment.time < later.time

theorem position_lt_of_before (h : moment.Valid scale) (hbefore : moment.Before later) :
    moment.position scale < later.position scale := by
  rcases hbefore with hdate | ⟨hdate, htime⟩
  · have hdays : (moment.date.index + 1) * scale.day ≤ later.date.index * scale.day :=
      Nat.mul_le_mul_right _ (Date.index_lt_of_before h.date hdate)
    have hlt := h.time_lt
    rw [Nat.add_mul] at hdays
    unfold position
    omega
  · rw [position, position, hdate]
    omega

/-- **The positions follow the order of the calendar.** -/
theorem position_lt_iff (h : moment.Valid scale) (hlater : later.Valid scale) :
    moment.position scale < later.position scale ↔ moment.Before later := by
  refine ⟨fun hlt => ?_, position_lt_of_before h⟩
  rcases Date.before_trichotomy moment.date later.date with hdate | hdate | hdate
  · exact .inl hdate
  · refine .inr ⟨hdate, ?_⟩
    rw [position, position, hdate] at hlt
    omega
  · exact absurd hlt (Nat.lt_asymm (position_lt_of_before hlater (.inl hdate)))

theorem valid_tick (h : moment.Valid scale) : (moment.tick scale).Valid scale := by
  unfold tick
  split
  · next hlt => exact ⟨h.date, h.weekday_lt, hlt⟩
  · exact ⟨Date.valid_next h.date, Nat.mod_lt _ (by omega), scale.day_pos⟩

/-- A tick adds one to the position, up to the round. -/
theorem position_tick (h : moment.Valid scale) :
    (moment.tick scale).position scale = (moment.position scale + 1) % scale.round := by
  have hlt := position_lt (valid_tick h)
  by_cases hday : moment.time + 1 < scale.day
  · have hsucc : (moment.tick scale).position scale = moment.position scale + 1 := by
      rw [tick, if_pos hday]
      rfl
    rw [← hsucc, Nat.mod_eq_of_lt hlt]
  · -- midnight
    have hlast : moment.time + 1 = scale.day := by
      have := h.time_lt
      omega
    have hposition : moment.position scale + 1 = (moment.date.index + 1) * scale.day := by
      rw [position, Nat.add_assoc, hlast, Nat.add_mul, Nat.one_mul]
    rw [hposition, Scale.round, Nat.mul_mod_mul_right, ← Date.index_next h.date, tick, if_neg hday]
    rfl

theorem valid_iterate (h : moment.Valid scale) (n : Nat) :
    ((tick scale)^[n] moment).Valid scale := by
  induction n with
  | zero => exact h
  | succ n ih =>
    rw [Function.iterate_succ_apply']
    exact valid_tick ih

theorem position_iterate (h : moment.Valid scale) (n : Nat) :
    ((tick scale)^[n] moment).position scale = (moment.position scale + n) % scale.round := by
  induction n with
  | zero => exact (Nat.mod_eq_of_lt (position_lt h)).symm
  | succ n ih =>
    rw [Function.iterate_succ_apply', position_tick (valid_iterate h n), ih, Nat.mod_add_mod,
      Nat.add_assoc]

/-- Every position of the round is some moment's, whatever its day of the
week. -/
theorem exists_position {weekday position : Nat} (hyears : 0 < scale.years) (hweekday : weekday < 7)
    (hposition : position < scale.round) :
    ∃ moment : Moment, moment.Valid scale ∧ moment.weekday = weekday ∧
      moment.position scale = position := by
  -- as many ticks from the calendar's start
  let start : Moment := ⟨⟨0, 1, 1⟩, weekday, 0⟩
  have hfirst : Date.Valid scale.years ⟨0, 1, 1⟩ := ⟨hyears, le_rfl, by decide, le_rfl, by decide⟩
  have hstart : start.Valid scale := ⟨hfirst, hweekday, scale.day_pos⟩
  have hvalid := valid_iterate hstart position
  have hreached : ((tick scale)^[position] start).position scale = position := by
    rw [position_iterate hstart]
    show (0 * scale.day + 0 + position) % scale.round = position
    rw [Nat.zero_mul, Nat.add_zero, Nat.zero_add, Nat.mod_eq_of_lt hposition]
  exact ⟨{ (tick scale)^[position] start with weekday := weekday },
    ⟨hvalid.date, hweekday, hvalid.time_lt⟩, rfl, hreached⟩

/-- The midnights passed are counted in the day of the week, and taken off
the time. -/
theorem midnights_iterate (h : moment.Valid scale) (n : Nat) : ∃ midnights,
    midnights * scale.day + ((tick scale)^[n] moment).time = moment.time + n ∧
      ((tick scale)^[n] moment).weekday = (moment.weekday + midnights) % 7 := by
  induction n with
  | zero => exact ⟨0, by simp, (Nat.mod_eq_of_lt h.weekday_lt).symm⟩
  | succ n ih =>
    obtain ⟨midnights, htime, hweekday⟩ := ih
    have hlt := (valid_iterate h n).time_lt
    rw [Function.iterate_succ_apply', tick]
    -- a tick inside a day, and the one that ends it
    split
    · exact ⟨midnights, by simpa using by omega, hweekday⟩
    · refine ⟨midnights + 1, ?_, ?_⟩
      · show (midnights + 1) * scale.day + 0 = moment.time + (n + 1)
        rw [Nat.add_mul]
        omega
      · simp only [hweekday]
        omega

theorem time_iterate (h : moment.Valid scale) (n : Nat) :
    ((tick scale)^[n] moment).time = (moment.time + n) % scale.day := by
  obtain ⟨midnights, htime, -⟩ := midnights_iterate h n
  rw [← htime, Nat.mul_comm, Nat.mul_add_mod, Nat.mod_eq_of_lt (valid_iterate h n).time_lt]

theorem weekday_iterate (h : moment.Valid scale) (n : Nat) :
    ((tick scale)^[n] moment).weekday =
      (moment.weekday + (moment.time + n) / scale.day) % 7 := by
  obtain ⟨midnights, htime, hweekday⟩ := midnights_iterate h n
  rw [hweekday, ← htime, Nat.mul_comm, Nat.mul_add_div scale.day_pos,
    Nat.div_eq_of_lt (valid_iterate h n).time_lt, Nat.add_zero]

/-- **What leads to a date and a time of the day**, up to whole rounds. -/
theorem reads_iff (h : moment.Valid scale) (hlater : later.Valid scale) (units : Int) :
    moment.Reads scale later units ↔
      (later.position scale : Int) ≡ moment.position scale + units [ZMOD scale.round] := by
  have hposition := position_lt h
  have hlaterPosition := position_lt hlater
  -- forwards the first moment ticks, backwards the second
  obtain ⟨n, rfl | rfl⟩ := units.eq_nat_or_neg
  · simp only [Reads, Int.toNat_neg_natCast, Int.toNat_natCast, Function.iterate_zero, id]
    rw [← position_inj hlater (valid_iterate h n), position_iterate h, Int.ModEq]
    norm_cast
    rw [Nat.mod_eq_of_lt hlaterPosition]
  · simp only [Reads, neg_neg, Int.toNat_neg_natCast, Int.toNat_natCast, Function.iterate_zero, id]
    rw [← position_inj (valid_iterate hlater n) h, position_iterate hlater, ← sub_eq_add_neg]
    have hshift : (later.position scale : Int) ≡ moment.position scale - n [ZMOD scale.round] ↔
        (later.position scale : Int) + n ≡ moment.position scale [ZMOD scale.round] := by
      constructor
      · intro heq
        simpa using heq.add_right (n : Int)
      · intro heq
        simpa using heq.sub_right (n : Int)
    rw [hshift, Int.ModEq]
    norm_cast
    rw [Nat.mod_eq_of_lt hposition]

/-- **What leads to a moment**: to its date and time, and over as many
midnights as its day of the week is further. -/
theorem advanced_iff (h : moment.Valid scale) (hlater : later.Valid scale) (units : Int) :
    moment.Advanced scale later units ↔ moment.Reads scale later units ∧
      (later.weekday : Int) ≡ moment.weekday + (moment.time + units) / scale.day [ZMOD 7] := by
  have hsplit (one other : Moment) : one = other ↔
      (one.date = other.date ∧ one.time = other.time) ∧ one.weekday = other.weekday := by
    cases one
    cases other
    simp only [Moment.mk.injEq]
    tauto
  unfold Advanced
  rw [hsplit]
  refine and_congr_right fun hreads => ?_
  have hweekday := h.weekday_lt
  have hlaterWeekday := hlater.weekday_lt
  obtain ⟨n, rfl | rfl⟩ := units.eq_nat_or_neg
  · simp only [Int.toNat_neg_natCast, Int.toNat_natCast, Function.iterate_zero, id]
    rw [weekday_iterate h, Int.ModEq]
    norm_cast
    omega
  · simp only [neg_neg, Int.toNat_neg_natCast, Int.toNat_natCast, Function.iterate_zero,
      id] at hreads ⊢
    -- the midnights between the two, counted back
    have hback : ((moment.time : Int) + -n) / scale.day = -((later.time + n) / scale.day : Nat) := by
      rw [time_iterate hlater] at hreads
      have hparts := Nat.div_add_mod (later.time + n) scale.day
      have hpos : (scale.day : Int) ≠ 0 := by exact_mod_cast scale.day_pos.ne'
      have hsum : (moment.time : Int) + -n =
          later.time + scale.day * -((later.time + n) / scale.day : Nat) := by
        rw [hreads.2] at hparts
        have hcast : (scale.day : Int) * ((later.time + n) / scale.day : Nat) + moment.time =
            later.time + n := by exact_mod_cast hparts
        linarith
      rw [hsum, Int.add_mul_ediv_left _ _ hpos,
        Int.ediv_eq_zero_of_lt (by omega) (by exact_mod_cast hlater.time_lt), zero_add]
    rw [weekday_iterate hlater, hback, Int.ModEq]
    omega

end Moment

/-! ## How far apart two positions are -/

/-- The distance of two positions of a round, the shorter way. -/
def apart (round one other : Nat) : Nat :=
  let difference := if one < other then other - one else one - other
  if round / 2 < difference then round - difference else difference

theorem apart_le_iff {round one other tolerance : Nat} (hone : one < round)
    (hother : other < round) : apart round one other ≤ tolerance ↔
      ∃ shift : Int, |shift| ≤ tolerance ∧ (other : Int) ≡ one + shift [ZMOD round] := by
  constructor
  · intro hle
    unfold apart at hle
    simp only at hle
    split at hle
    · next hlt =>
      split at hle
      · -- the shorter way is back, over the start of the round
        refine ⟨other - one - round, abs_le.2 ⟨by omega, by omega⟩, ?_⟩
        exact Int.modEq_iff_dvd.2 ⟨-1, by ring⟩
      · exact ⟨other - one, abs_le.2 ⟨by omega, by omega⟩, by rw [add_sub_cancel]⟩
    · next hnot =>
      split at hle
      · refine ⟨other - one + round, abs_le.2 ⟨by omega, by omega⟩, ?_⟩
        exact Int.modEq_iff_dvd.2 ⟨1, by ring⟩
      · exact ⟨other - one, abs_le.2 ⟨by omega, by omega⟩, by rw [add_sub_cancel]⟩
  · rintro ⟨shift, hshift, hmod⟩
    obtain ⟨rounds, hrounds⟩ := Int.modEq_iff_dvd.1 hmod
    obtain ⟨hlow, hhigh⟩ := abs_le.1 hshift
    -- either the way within the round is short, or the one over its start
    have hdifference : (if one < other then other - one else one - other) ≤ tolerance ∨
        round ≤ (if one < other then other - one else one - other) + tolerance := by
      rcases lt_trichotomy rounds 0 with hneg | rfl | hpos
      · have : (round : Int) * rounds ≤ -round := by nlinarith
        split <;> omega
      · split <;> omega
      · have : (round : Int) ≤ round * rounds := by nlinarith
        split <;> omega
    unfold apart
    generalize (if one < other then other - one else one - other) = difference at hdifference ⊢
    simp only
    split <;> omega

end Calendar

end CanGui
