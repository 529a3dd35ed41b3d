/-
Dates of the supported calendar.

A `Date` is a day of one of the years 1 to 9999. Its number counts from the
first of January of year 1, a Monday.

* `dayNumber_ofDayNumber`, `ofDayNumber_dayNumber` : dates correspond to their numbers.
* `dayNumber_nonneg`, `dayNumber_lt` : the numbers of dates are those from `0` up to
  `dayCount`.
* `shiftYears`, `shiftMonths` : calendar arithmetic, which keeps the day of the
  month unless the new month is too short.

## Design notes

The bounds are fields of the type. An operation that could leave them says so in
its result, and a `RangeFault` tells the two ways in which that happens apart.

Relative months are normalized first: a number of them is carried into years until the
month is one of twelve, and then the day is lowered to the length of that month. Relative
years are the same with no months to carry. The year that comes out is refused if the
calendar does not have it, and is not even counted beyond 32 bits.
-/
import RelativeTime.Calendar.Year

namespace RelativeTime

/-- Why a computation with dates left the calendar. -/
inductive RangeFault
  /-- the result is too far away to be counted -/
  | overflow
  /-- the result has a year that the calendar does not have -/
  | year
  deriving DecidableEq, Repr

/-- A day of one of the years 1 to 9999. -/
structure Date where
  year : Int
  month : Nat
  day : Nat
  year_mem : 1 ≤ year ∧ year ≤ 9999
  month_mem : 1 ≤ month ∧ month ≤ 12
  day_mem : 1 ≤ day ∧ day ≤ monthLength year month
  deriving DecidableEq

namespace Date

/-- The number of days in the years 1 to 9999. -/
def dayCount : Int := 3652059

/-- The date with the given year, month and day, if the calendar has it. -/
def of? (year : Int) (month day : Nat) : Option Date :=
  if h : (1 ≤ year ∧ year ≤ 9999) ∧ (1 ≤ month ∧ month ≤ 12) ∧
      (1 ≤ day ∧ day ≤ monthLength year month) then
    some ⟨year, month, day, h.1, h.2.1, h.2.2⟩
  else none

/-- The days from the first of January of year 1 to `d`. -/
def dayNumber (d : Date) : Int :=
  daysBeforeYear d.year + daysBeforeMonth d.year d.month + d.day - 1

/-- A date is a day of its year. -/
theorem dayOfYear_lt (d : Date) :
    daysBeforeMonth d.year d.month + d.day ≤ yearLength d.year := by
  have hlast : daysBeforeMonth d.year (d.month + 1) ≤ daysBeforeMonth d.year 13 :=
    daysBeforeMonth_mono _ (by have := d.month_mem; omega)
  rw [daysBeforeMonth_succ _ d.month_mem.1, daysBeforeMonth_thirteen] at hlast
  have := d.day_mem
  omega

theorem dayNumber_nonneg (d : Date) : 0 ≤ d.dayNumber := by
  have := d.year_mem
  have := d.day_mem
  rw [dayNumber, daysBeforeYear]
  omega

theorem dayNumber_lt (d : Date) : d.dayNumber < dayCount := by
  have hyear := d.year_mem
  have hday := dayOfYear_lt d
  have hnext := daysBeforeYear_succ d.year
  have hbound : daysBeforeYear (d.year + 1) ≤ dayCount := by
    rw [daysBeforeYear, dayCount]
    omega
  rw [dayNumber]
  omega

theorem dayOfYear_lt_yearLength (n : Int) :
    (n - daysBeforeYear (yearOfDay n)).toNat < yearLength (yearOfDay n) := by
  have hlo := daysBeforeYear_yearOfDay_le n
  have hhi := lt_daysBeforeYear_succ_yearOfDay n
  rw [daysBeforeYear_succ] at hhi
  omega

theorem yearOfDay_mem {n : Int} (h : 0 ≤ n ∧ n < dayCount) :
    1 ≤ yearOfDay n ∧ yearOfDay n ≤ 9999 := by
  have hlo := daysBeforeYear_yearOfDay_le n
  have hhi := lt_daysBeforeYear_succ_yearOfDay n
  rw [daysBeforeYear] at hlo hhi
  rw [dayCount] at h
  omega

/-- The date with number `n`. -/
def ofDayNumber (n : Int) (h : 0 ≤ n ∧ n < dayCount) : Date :=
  let year := yearOfDay n
  let found := walkMonths year 11 1 (n - daysBeforeYear year).toNat
  { year
    month := found.1
    day := found.2
    year_mem := yearOfDay_mem h
    month_mem := ⟨month_le_walkMonths _ _ _ _, walkMonths_le_month _ _ _ _⟩
    day_mem := dayOfMonth_walkMonths _ _ (Nat.le_refl 1) (by
      have hlt := dayOfYear_lt_yearLength n
      rw [← daysBeforeMonth_thirteen] at hlt
      simpa [daysBeforeMonth] using hlt) }

theorem dayNumber_ofDayNumber (n : Int) (h : 0 ≤ n ∧ n < dayCount) :
    (ofDayNumber n h).dayNumber = n := by
  have hwalk := daysBeforeMonth_walkMonths (yearOfDay n) 11
    (n - daysBeforeYear (yearOfDay n)).toNat (Nat.le_refl 1)
  have hlo := daysBeforeYear_yearOfDay_le n
  have hfirst : daysBeforeMonth (yearOfDay n) 1 = 0 := rfl
  rw [hfirst] at hwalk
  simp only [dayNumber, ofDayNumber]
  omega

theorem ofDayNumber_dayNumber (d : Date) :
    ofDayNumber d.dayNumber ⟨d.dayNumber_nonneg, d.dayNumber_lt⟩ = d := by
  have hday := d.day_mem
  have hyear : yearOfDay d.dayNumber = d.year := by
    have hlt := dayOfYear_lt d
    have hnext := daysBeforeYear_succ d.year
    refine yearOfDay_eq ?_ ?_ <;> unfold dayNumber <;> omega
  have hrest : (d.dayNumber - daysBeforeYear d.year).toNat =
      daysBeforeMonth d.year d.month + d.day - 1 - daysBeforeMonth d.year 1 := by
    have hfirst : daysBeforeMonth d.year 1 = 0 := rfl
    rw [dayNumber]
    omega
  have hwalk := walkMonths_eq d.year 11 (Nat.le_refl 1) d.month_mem.1 d.month_mem.2 hday
  cases d
  simp only [ofDayNumber, hyear, hrest, hwalk]

theorem dayNumber_injective {d e : Date} (h : d.dayNumber = e.dayNumber) : d = e := by
  rw [← ofDayNumber_dayNumber d, ← ofDayNumber_dayNumber e]
  simp only [h]

/-- The date with number `n`, if the calendar reaches that far. -/
def ofDayNumber? (n : Int) : Option Date :=
  if h : 0 ≤ n ∧ n < dayCount then some (ofDayNumber n h) else none

/-- The date `n` days after `d`. -/
def addDays (d : Date) (n : Int) : Except RangeFault Date :=
  match ofDayNumber? (d.dayNumber + n) with
  | some e => .ok e
  | none => .error .overflow

/-- How many days ago the last Sunday was; `0` on a Sunday. -/
def daysSinceSunday (d : Date) : Int := (d.dayNumber + 1) % 7

/-- A year off the calendar is refused as a year as long as it is a signed number
of 32 bits, and is not even counted beyond that. -/
def yearFault (year : Int) : RangeFault :=
  if -2147483648 ≤ year ∧ year < 2147483648 then .year else .overflow

/-- The date with the day of `d` in another month, or with the last day of that
month if it is too short. -/
def inMonth (d : Date) (year : Int) (month : Nat) (hm : 1 ≤ month ∧ month ≤ 12) :
    Except RangeFault Date :=
  if hy : 1 ≤ year ∧ year ≤ 9999 then
    .ok {
      year, month
      day := min d.day (monthLength year month)
      year_mem := hy
      month_mem := hm
      day_mem := by
        have := d.day_mem
        have := monthLength_ge year month
        omega }
  else .error (yearFault year)

/-- The date `n` years after `d`. -/
def shiftYears (d : Date) (n : Int) : Except RangeFault Date :=
  d.inMonth (d.year + n) d.month d.month_mem

/-- The date `n` months after `d`: the months are counted from January and carry
into the years. -/
def shiftMonths (d : Date) (n : Int) : Except RangeFault Date :=
  let months := d.month - 1 + n
  d.inMonth (d.year + months / 12) ((months % 12).toNat + 1) (by omega)

/-- The first day of the month of `d`. -/
def firstOfMonth (d : Date) : Date :=
  { d with
    day := 1
    day_mem := ⟨Nat.le_refl 1, Nat.le_trans (by decide) (monthLength_ge d.year d.month)⟩ }

/-- The first day of the year of `d`. -/
def firstOfYear (d : Date) : Date :=
  { d with
    month := 1
    day := 1
    month_mem := by decide
    day_mem := ⟨Nat.le_refl 1, Nat.le_trans (by decide) (monthLength_ge d.year 1)⟩ }

end Date

end RelativeTime
