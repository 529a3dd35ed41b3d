/-
Exact calendar arithmetic, without the bounds of the supported years.

The proleptic Gregorian calendar has a day for every integer.  An exact local time is
the number of microseconds since the start of year 1, so that every operation has a
result:

* `Exact.shift` adds the length of a unit, or moves the month index and clamps the day
  of the month;
* `Exact.floor` goes back to the start of a unit.

An instant of the supported years does the same as long as it can:

* `shift_eq_ok_iff`, `floor_eq_ok_iff` : a shift or a rounding gives an instant exactly
  if that instant has the exact local time and the same offset;
* `exists_ticks_iff` : there is such an instant just within the first and the last
  microsecond of the calendar.

## Design notes

Month and day of the month of an integer come from `yearOfDay` and `walkMonths`, which
know no bounds.  Months are counted from January of year 0, so that month `m` of year
`y` has the index `12 * y + m - 1`.  Day 6 is a Sunday, and weeks start there.
-/
import Mathlib.Tactic.ByContra
import RelativeTime.Operation.Effect

namespace RelativeTime

namespace Exact

/-- The number of a day, given by its year, its month and its day of the month. -/
def dayNumber (y : Int) (m d : Nat) : Int :=
  daysBeforeYear y + daysBeforeMonth y m + d - 1

/-- The month and the day of the month of day `n`. -/
def monthDay (n : Int) : Nat × Nat :=
  walkMonths (yearOfDay n) 11 1 (n - daysBeforeYear (yearOfDay n)).toNat

/-- The index of the month of day `n`. -/
def monthIndex (n : Int) : Int := 12 * yearOfDay n + (monthDay n).1 - 1

/-- The day in the month with the index `i` that has the day of the month of day `n`, or
the last day of that month if it is too short. -/
def inMonth (n i : Int) : Int :=
  let y := i / 12
  let m := (i % 12).toNat + 1
  dayNumber y m (min (monthDay n).2 (monthLength y m))

/-- The time of day of `n` on another day. -/
def onDay (n day : Int) : Int := day * microsPerDay + n % microsPerDay

/-- The local time `k` units after `n`. -/
def shift (n k : Int) : TimeUnit → Int
  | .year => onDay n (inMonth (n / microsPerDay) (monthIndex (n / microsPerDay) + 12 * k))
  | .month => onDay n (inMonth (n / microsPerDay) (monthIndex (n / microsPerDay) + k))
  | unit => n + k * unit.micros

/-- The start of the unit that the local time `n` lies in. -/
def floor (n : Int) : TimeUnit → Int
  | .year => dayNumber (yearOfDay (n / microsPerDay)) 1 1 * microsPerDay
  | .month =>
    dayNumber (yearOfDay (n / microsPerDay)) (monthDay (n / microsPerDay)).1 1 * microsPerDay
  | .week => n - (n - 6 * microsPerDay) % (7 * microsPerDay)
  | unit => n - n % unit.micros

end Exact

/-- A count of microseconds that some instant of the calendar has as its local time. -/
def InCalendar (n : Int) : Prop := 0 ≤ n ∧ n < DateTime.tickCount

instance (n : Int) : Decidable (InCalendar n) := inferInstanceAs (Decidable (_ ∧ _))

/-! ### Days -/

namespace Exact

variable {y : Int} {m d : Nat}

/-- A day lies in its year. -/
theorem dayNumber_bounds (hm : 1 ≤ m ∧ m ≤ 12) (hd : 1 ≤ d ∧ d ≤ monthLength y m) :
    daysBeforeYear y ≤ dayNumber y m d ∧ dayNumber y m d < daysBeforeYear (y + 1) := by
  have hlast : daysBeforeMonth y (m + 1) ≤ daysBeforeMonth y 13 :=
    daysBeforeMonth_mono y (by omega)
  rw [daysBeforeMonth_succ y hm.1, daysBeforeMonth_thirteen] at hlast
  rw [daysBeforeYear_succ, dayNumber]
  omega

theorem yearOfDay_dayNumber (hm : 1 ≤ m ∧ m ≤ 12) (hd : 1 ≤ d ∧ d ≤ monthLength y m) :
    yearOfDay (dayNumber y m d) = y :=
  yearOfDay_eq (dayNumber_bounds hm hd).1 (dayNumber_bounds hm hd).2

theorem monthDay_dayNumber (hm : 1 ≤ m ∧ m ≤ 12) (hd : 1 ≤ d ∧ d ≤ monthLength y m) :
    monthDay (dayNumber y m d) = (m, d) := by
  have hrest : (dayNumber y m d - daysBeforeYear y).toNat =
      daysBeforeMonth y m + d - 1 - daysBeforeMonth y 1 := by
    rw [dayNumber, show daysBeforeMonth y 1 = 0 from rfl]
    omega
  rw [monthDay, yearOfDay_dayNumber hm hd, hrest]
  exact walkMonths_eq y 11 (Nat.le_refl 1) hm.1 hm.2 hd

/-- The bounds of the day numbers are the bounds of the years. -/
theorem year_mem_of_dayNumber (hm : 1 ≤ m ∧ m ≤ 12) (hd : 1 ≤ d ∧ d ≤ monthLength y m)
    (h : 0 ≤ dayNumber y m d ∧ dayNumber y m d < Date.dayCount) : 1 ≤ y ∧ y ≤ 9999 := by
  obtain ⟨hlo, hhi⟩ := dayNumber_bounds hm hd
  rw [Date.dayCount] at h
  -- A year out of bounds would take all of its days out of bounds.
  constructor
  · by_contra hy
    have hmono := daysBeforeYear_mono (show y + 1 ≤ 1 by omega)
    rw [show daysBeforeYear 1 = 0 from rfl] at hmono
    omega
  · by_contra hy
    have hmono := daysBeforeYear_mono (show 10000 ≤ y by omega)
    rw [show daysBeforeYear 10000 = 3652059 from rfl] at hmono
    omega

end Exact

namespace Date

theorem yearOfDay_dayNumber (d : Date) : yearOfDay d.dayNumber = d.year :=
  Exact.yearOfDay_dayNumber d.month_mem d.day_mem

theorem monthDay_dayNumber (d : Date) : Exact.monthDay d.dayNumber = (d.month, d.day) :=
  Exact.monthDay_dayNumber d.month_mem d.day_mem

theorem monthIndex_dayNumber (d : Date) :
    Exact.monthIndex d.dayNumber = 12 * d.year + d.month - 1 := by
  rw [Exact.monthIndex, yearOfDay_dayNumber, monthDay_dayNumber]

theorem addDays_eq_ok_iff {d e : Date} {n : Int} :
    d.addDays n = .ok e ↔ e.dayNumber = d.dayNumber + n := by
  unfold addDays ofDayNumber?
  by_cases h : 0 ≤ d.dayNumber + n ∧ d.dayNumber + n < dayCount
  · rw [dif_pos h]
    constructor
    · intro he
      rw [← Except.ok.inj he, dayNumber_ofDayNumber]
    · intro he
      exact congrArg Except.ok (dayNumber_injective (by rw [dayNumber_ofDayNumber, he]))
  · rw [dif_neg h]
    constructor
    · intro he
      cases he
    · intro he
      exact absurd (he ▸ ⟨e.dayNumber_nonneg, e.dayNumber_lt⟩) h

theorem inMonth_eq_ok_iff {d e : Date} {y : Int} {m : Nat} {hm : 1 ≤ m ∧ m ≤ 12} :
    d.inMonth y m hm = .ok e ↔
      e.dayNumber = Exact.dayNumber y m (min d.day (monthLength y m)) := by
  rw [inMonth]
  by_cases hy : 1 ≤ y ∧ y ≤ 9999
  · rw [dif_pos hy]
    constructor
    · intro he
      rw [← Except.ok.inj he]
      rfl
    · intro he
      exact congrArg Except.ok (dayNumber_injective he.symm)
  · rw [dif_neg hy]
    constructor
    · intro he
      cases he
    · -- there is no date of that year, and so none with that number
      intro he
      have hday := d.day_mem
      have hlength := monthLength_ge y m
      refine absurd (Exact.year_mem_of_dayNumber hm (d := min d.day (monthLength y m)) ?_ ?_) hy
      · omega
      · rw [← he]
        exact ⟨e.dayNumber_nonneg, e.dayNumber_lt⟩

theorem shiftMonths_eq_ok_iff {d e : Date} {k : Int} :
    d.shiftMonths k = .ok e ↔
      e.dayNumber = Exact.inMonth d.dayNumber (Exact.monthIndex d.dayNumber + k) := by
  have hm := d.month_mem
  -- Counting from the month of `d` or from January of year 0 comes to the same.
  have hyear : (Exact.monthIndex d.dayNumber + k) / 12 =
      d.year + ((d.month : Int) - 1 + k) / 12 := by
    rw [monthIndex_dayNumber]
    omega
  have hmonth : (Exact.monthIndex d.dayNumber + k) % 12 = ((d.month : Int) - 1 + k) % 12 := by
    rw [monthIndex_dayNumber]
    omega
  rw [shiftMonths, inMonth_eq_ok_iff, Exact.inMonth, hyear, hmonth, monthDay_dayNumber]

theorem shiftYears_eq_ok_iff {d e : Date} {k : Int} :
    d.shiftYears k = .ok e ↔
      e.dayNumber = Exact.inMonth d.dayNumber (Exact.monthIndex d.dayNumber + 12 * k) := by
  have hm := d.month_mem
  have hyear : (Exact.monthIndex d.dayNumber + 12 * k) / 12 = d.year + k := by
    rw [monthIndex_dayNumber]
    omega
  have hmonth : ((Exact.monthIndex d.dayNumber + 12 * k) % 12).toNat + 1 = d.month := by
    rw [monthIndex_dayNumber]
    omega
  rw [shiftYears, inMonth_eq_ok_iff, Exact.inMonth, hyear, hmonth, monthDay_dayNumber]

end Date

/-! ### Local times -/

namespace TimeOfDay

theorem micros_startOfSecond (t : TimeOfDay) :
    t.startOfSecond.micros = t.micros - t.micros % 1000000 := by
  have := t.microsecond_lt
  simp only [micros, startOfSecond]
  omega

theorem micros_startOfMinute (t : TimeOfDay) :
    t.startOfMinute.micros = t.micros - t.micros % 60000000 := by
  have := t.microsecond_lt
  have := t.second_lt
  simp only [micros, startOfMinute, startOfSecond]
  omega

theorem micros_startOfHour (t : TimeOfDay) :
    t.startOfHour.micros = t.micros - t.micros % 3600000000 := by
  have := t.microsecond_lt
  have := t.second_lt
  have := t.minute_lt
  simp only [micros, startOfHour, startOfMinute, startOfSecond]
  omega

theorem micros_midnight (t : TimeOfDay) : midnight.micros = t.micros - t.micros % microsPerDay := by
  rw [Nat.mod_eq_of_lt t.micros_lt, Nat.sub_self]
  rfl

end TimeOfDay

namespace DateTime

variable {t u : DateTime}

theorem inCalendar_ticks (t : DateTime) : InCalendar t.ticks := ⟨t.ticks_nonneg, t.ticks_lt⟩

/-- Every count of microseconds within the calendar is the local time of one instant with
a given offset, and no other count is. -/
theorem exists_ticks_iff {n : Int} (offset : Option Offset) :
    (∃ t : DateTime, t.ticks = n ∧ t.offset = offset) ↔ InCalendar n := by
  constructor
  · rintro ⟨t, rfl, -⟩
    exact t.inCalendar_ticks
  · intro h
    exact ⟨ofTicks n offset h, ticks_ofTicks n offset h, rfl⟩

theorem eq_iff_ticks : t = u ↔ t.ticks = u.ticks ∧ t.offset = u.offset := by
  constructor
  · rintro rfl
    exact ⟨rfl, rfl⟩
  · rintro ⟨hticks, hoffset⟩
    exact ticks_injective hticks hoffset

theorem ticks_div (t : DateTime) : t.ticks / microsPerDay = t.date.dayNumber := by
  have := t.time.micros_lt
  rw [ticks, microsPerDay] at *
  omega

theorem ticks_emod (t : DateTime) : t.ticks % microsPerDay = t.time.micros := by
  have := t.time.micros_lt
  rw [ticks, microsPerDay] at *
  omega

theorem ofTicks?_eq_some_iff {n : Int} {offset : Option Offset} :
    ofTicks? n offset = some u ↔ u.ticks = n ∧ u.offset = offset := by
  unfold ofTicks?
  by_cases h : 0 ≤ n ∧ n < tickCount
  · rw [dif_pos h]
    constructor
    · intro hu
      rw [← Option.some.inj hu]
      exact ⟨ticks_ofTicks _ _ _, rfl⟩
    · rintro ⟨hticks, hoffset⟩
      refine congrArg some (ticks_injective ?_ hoffset.symm)
      rw [ticks_ofTicks, hticks]
  · rw [dif_neg h]
    constructor
    · intro hu
      cases hu
    · rintro ⟨hticks, -⟩
      exact absurd (hticks ▸ u.inCalendar_ticks) h

theorem add_eq_ok_iff {n : Int} :
    t.add n = .ok u ↔ u.ticks = t.ticks + n ∧ u.offset = t.offset := by
  rw [← ofTicks?_eq_some_iff]
  unfold add
  cases ofTicks? (t.ticks + n) t.offset with
  | none =>
    constructor
    · intro h
      cases h
    · intro h
      cases h
  | some v => rw [Except.ok.injEq, Option.some.injEq]

/-- The same instant in UTC has the time in UTC as its local time. -/
theorem toUtc_eq_ok_iff : t.toUtc = .ok u ↔ u.ticks = t.instant ∧ u.offset = some .utc := by
  rw [← ofTicks?_eq_some_iff]
  unfold toUtc
  cases ofTicks? t.instant (some .utc) with
  | none =>
    constructor
    · intro h
      cases h
    · intro h
      cases h
  | some v => rw [Except.ok.injEq, Option.some.injEq]

/-- Off the calendar, a time has no counterpart in UTC. -/
theorem toUtc_eq_error (h : ¬ InCalendar t.instant) : t.toUtc = .error .overflow := by
  unfold toUtc ofTicks?
  rw [dif_neg (show ¬ (0 ≤ t.instant ∧ t.instant < tickCount) from h)]

theorem instant_of_utc (h : t.offset = some .utc) : t.instant = t.ticks := by
  rw [instant, offsetMicros, h]
  exact Int.sub_zero _

theorem instant_eq_ticks (h : t.offset = none ∨ t.offset = some .utc) : t.instant = t.ticks := by
  obtain hnone | hutc := h
  · rw [instant, offsetMicros, hnone]
    exact Int.sub_zero _
  · exact instant_of_utc hutc

/-- Without an offset, the local time is the time in UTC. -/
theorem toUtc_of_offset_none (h : t.offset = none) :
    t.toUtc = .ok { t with offset := some .utc } :=
  toUtc_eq_ok_iff.2 ⟨(instant_eq_ticks (.inl h)).symm, rfl⟩

/-- Moving to another date keeps the time of day and the offset. -/
theorem map_date_eq_ok_iff {r : Except RangeFault Date} {n : Int}
    (hr : ∀ d, r = .ok d ↔ d.dayNumber = n) :
    (r.map fun d => { t with date := d }) = .ok u ↔
      u.ticks = n * microsPerDay + t.time.micros ∧ u.offset = t.offset := by
  constructor
  · intro h
    cases r with
    | error fault => cases h
    | ok d =>
      obtain rfl := Except.ok.inj h
      rw [← (hr d).1 rfl]
      exact ⟨rfl, rfl⟩
  · rintro ⟨hticks, hoffset⟩
    -- The time of day is less than a day, so the local time tells the date.
    have hday : u.date.dayNumber = n := by
      rw [← ticks_div, hticks]
      have := t.time.micros_lt
      rw [microsPerDay] at *
      omega
    rw [(hr u.date).2 hday]
    refine congrArg Except.ok (ticks_injective ?_ hoffset.symm)
    rw [hticks, ← hday]
    rfl

/-- A shift gives the instant of its exact result, and fails if there is none. -/
theorem shift_eq_ok_iff {k : Int} (unit : TimeUnit) :
    t.shift k unit = .ok u ↔ u.ticks = Exact.shift t.ticks k unit ∧ u.offset = t.offset := by
  cases unit with
  | month =>
    rw [Exact.shift, Exact.onDay, ticks_div, ticks_emod]
    exact map_date_eq_ok_iff fun _ => Date.shiftMonths_eq_ok_iff
  | year =>
    rw [Exact.shift, Exact.onDay, ticks_div, ticks_emod]
    exact map_date_eq_ok_iff fun _ => Date.shiftYears_eq_ok_iff
  | second => exact add_eq_ok_iff
  | minute => exact add_eq_ok_iff
  | hour => exact add_eq_ok_iff
  | day => exact add_eq_ok_iff
  | week => exact add_eq_ok_iff

/-- An instant is the only one with its local time and its offset. -/
theorem ok_eq_ok_iff {v : DateTime} {n : Int} (hticks : v.ticks = n)
    (hoffset : v.offset = t.offset) :
    (Except.ok v : Except RangeFault DateTime) = .ok u ↔ u.ticks = n ∧ u.offset = t.offset := by
  rw [Except.ok.injEq, eq_iff_ticks, hticks, hoffset]
  constructor
  · rintro ⟨h1, h2⟩
    exact ⟨h1.symm, h2.symm⟩
  · rintro ⟨h1, h2⟩
    exact ⟨h1.symm, h2.symm⟩

/-- Another time of day on the same date: the day stays, so that a unit that divides the
day can be taken off the local time. -/
theorem ticks_with_time {time : TimeOfDay} {length : Nat} (hdvd : length ∣ microsPerDay)
    (htime : time.micros = t.time.micros - t.time.micros % length) :
    ({ t with time } : DateTime).ticks = t.ticks - t.ticks % length := by
  obtain ⟨k, hk⟩ := hdvd
  have hmod : t.ticks % length = t.time.micros % length := by
    rw [ticks, hk, Int.natCast_mul, Int.add_emod, Int.mul_left_comm, Int.mul_emod_right]
    simp
  have := Nat.mod_le t.time.micros length
  rw [hmod]
  simp only [ticks, htime]
  omega

theorem ticks_startOfDay_with_date (t : DateTime) (d : Date) :
    ({ t.startOfDay with date := d } : DateTime).ticks = d.dayNumber * microsPerDay := by
  rw [ticks, startOfDay, show TimeOfDay.midnight.micros = 0 from rfl]
  exact Int.add_zero _

/-- A rounding gives the instant of its exact result, and fails if there is none. -/
theorem floor_eq_ok_iff (unit : TimeUnit) :
    t.floor unit = .ok u ↔ u.ticks = Exact.floor t.ticks unit ∧ u.offset = t.offset := by
  cases unit with
  | second => exact ok_eq_ok_iff (ticks_with_time (by decide) t.time.micros_startOfSecond) rfl
  | minute => exact ok_eq_ok_iff (ticks_with_time (by decide) t.time.micros_startOfMinute) rfl
  | hour => exact ok_eq_ok_iff (ticks_with_time (by decide) t.time.micros_startOfHour) rfl
  | day => exact ok_eq_ok_iff (ticks_with_time (by decide) t.time.micros_midnight) rfl
  | week =>
    -- the days since Sunday, taken off at midnight
    refine (map_date_eq_ok_iff (t := t.startOfDay) fun _ => Date.addDays_eq_ok_iff).trans ?_
    have hstart : (t.date.dayNumber + -t.date.daysSinceSunday) * microsPerDay +
        TimeOfDay.midnight.micros = Exact.floor t.ticks .week := by
      have := t.time.micros_lt
      rw [show TimeOfDay.midnight.micros = 0 from rfl, Exact.floor, ticks, Date.daysSinceSunday]
      rw [microsPerDay] at *
      omega
    rw [← hstart]
    rfl
  | month =>
    refine ok_eq_ok_iff ((ticks_startOfDay_with_date t t.date.firstOfMonth).trans ?_) rfl
    rw [Exact.floor, ticks_div, Date.yearOfDay_dayNumber, Date.monthDay_dayNumber]
    rfl
  | year =>
    refine ok_eq_ok_iff ((ticks_startOfDay_with_date t t.date.firstOfYear).trans ?_) rfl
    rw [Exact.floor, ticks_div, Date.yearOfDay_dayNumber]
    rfl

end DateTime

end RelativeTime
