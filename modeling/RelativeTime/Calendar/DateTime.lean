/-
Instants as a date, a time of day and an offset from UTC.

A `DateTime` without an offset is naive: it is read as UTC wherever an instant is
needed. Its fields are local. Two counts of microseconds since the start of
year 1 describe it:

* `ticks` counts the local time (`ticks_nonneg`, `ticks_lt`), and `ofTicks` reads it
  back (`ticks_ofTicks`, `ofTicks_ticks`),
* `instant` counts the time in UTC.

`add`, `shiftYears`, `shiftMonths` and the `startOf` family keep the offset. `toUtc`
keeps the instant.
-/
import RelativeTime.Calendar.Date
import RelativeTime.Calendar.TimeOfDay

namespace RelativeTime

/-- How far local time is ahead of UTC, in microseconds; less than a day. -/
structure Offset where
  micros : Int
  micros_mem : -(microsPerDay : Int) < micros ∧ micros < microsPerDay
  deriving DecidableEq

namespace Offset

/-- The offset of UTC itself. -/
def utc : Offset := ⟨0, by decide⟩

/-- The offset of `n` microseconds, if that is less than a day. -/
def of? (n : Int) : Option Offset :=
  if h : -(microsPerDay : Int) < n ∧ n < microsPerDay then some ⟨n, h⟩ else none

end Offset

/-- A local date and time, with the offset that places it on the time line, if known. -/
structure DateTime where
  date : Date
  time : TimeOfDay
  offset : Option Offset
  deriving DecidableEq

namespace DateTime

/-- The number of microseconds in the years 1 to 9999. -/
def tickCount : Int := Date.dayCount * microsPerDay

/-- The local time, in microseconds since the start of year 1. -/
def ticks (t : DateTime) : Int := t.date.dayNumber * microsPerDay + t.time.micros

/-- The microseconds by which local time is ahead of UTC. -/
def offsetMicros (t : DateTime) : Int :=
  match t.offset with
  | some o => o.micros
  | none => 0

/-- The time in UTC, in microseconds since the start of year 1. -/
def instant (t : DateTime) : Int := t.ticks - t.offsetMicros

theorem ticks_nonneg (t : DateTime) : 0 ≤ t.ticks := by
  have := t.date.dayNumber_nonneg
  rw [ticks, microsPerDay]
  omega

theorem ticks_lt (t : DateTime) : t.ticks < tickCount := by
  have := t.date.dayNumber_lt
  have := t.time.micros_lt
  rw [ticks, tickCount]
  rw [microsPerDay] at *
  omega

/-- The local time `n` microseconds after the start of year 1. -/
def ofTicks (n : Int) (offset : Option Offset) (h : 0 ≤ n ∧ n < tickCount) : DateTime where
  date := Date.ofDayNumber (n / microsPerDay) (by
    unfold tickCount microsPerDay at h
    unfold microsPerDay
    omega)
  time := TimeOfDay.ofMicros (n % microsPerDay).toNat (by
    unfold microsPerDay
    omega)
  offset

theorem ticks_ofTicks (n : Int) (offset : Option Offset) (h : 0 ≤ n ∧ n < tickCount) :
    (ofTicks n offset h).ticks = n := by
  rw [ticks, ofTicks]
  rw [Date.dayNumber_ofDayNumber, TimeOfDay.micros_ofMicros]
  rw [microsPerDay]
  omega

/-- The local time and the offset are all there is to an instant. -/
theorem ticks_injective {t u : DateTime} (h : t.ticks = u.ticks) (ho : t.offset = u.offset) :
    t = u := by
  have ht := t.time.micros_lt
  have hu := u.time.micros_lt
  simp only [ticks, microsPerDay] at h
  rw [microsPerDay] at ht hu
  have hdate : t.date = u.date := Date.dayNumber_injective (by omega)
  have htime : t.time = u.time := TimeOfDay.micros_injective (by omega)
  cases t
  cases u
  simp_all

theorem ofTicks_ticks (t : DateTime) : ofTicks t.ticks t.offset ⟨t.ticks_nonneg, t.ticks_lt⟩ = t :=
  ticks_injective (ticks_ofTicks _ _ _) rfl

/-- The local time `n` microseconds after the start of year 1, if the calendar
reaches that far. -/
def ofTicks? (n : Int) (offset : Option Offset) : Option DateTime :=
  if h : 0 ≤ n ∧ n < tickCount then some (ofTicks n offset h) else none

/-- The time `n` microseconds after `t`. -/
def add (t : DateTime) (n : Int) : Except RangeFault DateTime :=
  match ofTicks? (t.ticks + n) t.offset with
  | some u => .ok u
  | none => .error .overflow

/-- The same instant in UTC. A naive time is taken to be in UTC already. -/
def toUtc (t : DateTime) : Except RangeFault DateTime :=
  match ofTicks? t.instant (some .utc) with
  | some u => .ok u
  | none => .error .overflow

/-- The same local time without an offset. -/
def withoutOffset (t : DateTime) : DateTime := { t with offset := none }

/-- The local time `n` years after `t`. -/
def shiftYears (t : DateTime) (n : Int) : Except RangeFault DateTime :=
  (t.date.shiftYears n).map fun d => { t with date := d }

/-- The local time `n` months after `t`. -/
def shiftMonths (t : DateTime) (n : Int) : Except RangeFault DateTime :=
  (t.date.shiftMonths n).map fun d => { t with date := d }

/-- The start of the day of `t`. -/
def startOfDay (t : DateTime) : DateTime := { t with time := .midnight }

/-- The start of the last Sunday up to `t`. The calendar starts on a Monday, so its
first days have none. -/
def startOfWeek (t : DateTime) : Except RangeFault DateTime :=
  (t.date.addDays (-t.date.daysSinceSunday)).map fun d => { t.startOfDay with date := d }

/-- The start of the month of `t`. -/
def startOfMonth (t : DateTime) : DateTime := { t.startOfDay with date := t.date.firstOfMonth }

/-- The start of the year of `t`. -/
def startOfYear (t : DateTime) : DateTime := { t.startOfDay with date := t.date.firstOfYear }

end DateTime

end RelativeTime
