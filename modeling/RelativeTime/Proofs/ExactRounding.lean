/-
Months and roundings of exact local times.

Every integer has a date on the unbounded calendar, and the month index of a date says
all about its month and its year.

* `dayNumber_monthDay`, `monthDay_mem` : the date of a day leads back to the day;
* `monthIndex_shift_month`, `monthIndex_shift_year` : a shift by months or years moves the
  month index, whatever it does to the day;
* `inCalendar_iff_year` : the calendar ends where its years do;
* `floor_add` : a rounding takes off what is less than the unit;
* `inCalendar_floor` : a rounding stays in the calendar, but for the first six days and
  the week.
-/
import RelativeTime.Proofs.ExactCalendar

namespace RelativeTime

namespace Exact

variable {n k : Int}

/-! ### Dates -/

theorem monthDay_mem (n : Int) :
    (1 ≤ (monthDay n).1 ∧ (monthDay n).1 ≤ 12) ∧
      (1 ≤ (monthDay n).2 ∧ (monthDay n).2 ≤ monthLength (yearOfDay n) (monthDay n).1) := by
  refine ⟨⟨month_le_walkMonths _ _ _ _, walkMonths_le_month _ _ _ _⟩, ?_⟩
  refine dayOfMonth_walkMonths _ _ (Nat.le_refl 1) ?_
  have hlt := Date.dayOfYear_lt_yearLength n
  rw [← daysBeforeMonth_thirteen] at hlt
  rw [show daysBeforeMonth (yearOfDay n) 1 = 0 from rfl, Nat.zero_add]
  exact hlt

/-- The date of a day leads back to the day. -/
theorem dayNumber_monthDay (n : Int) :
    dayNumber (yearOfDay n) (monthDay n).1 (monthDay n).2 = n := by
  have hwalk := daysBeforeMonth_walkMonths (yearOfDay n) 11
    (n - daysBeforeYear (yearOfDay n)).toNat (Nat.le_refl 1)
  have hlo := daysBeforeYear_yearOfDay_le n
  rw [show daysBeforeMonth (yearOfDay n) 1 = 0 from rfl] at hwalk
  rw [dayNumber, monthDay]
  omega

theorem yearOfDay_eq_monthIndex (n : Int) : yearOfDay n = monthIndex n / 12 := by
  have := (monthDay_mem n).1
  rw [monthIndex]
  omega

theorem month_eq_monthIndex (n : Int) : (monthDay n).1 = (monthIndex n % 12).toNat + 1 := by
  have := (monthDay_mem n).1
  rw [monthIndex]
  omega

/-- The day of the month is clamped, but the month is the one asked for. -/
theorem monthIndex_inMonth (n i : Int) : monthIndex (inMonth n i) = i := by
  have hm : 1 ≤ (i % 12).toNat + 1 ∧ (i % 12).toNat + 1 ≤ 12 := by omega
  have hd : 1 ≤ min (monthDay n).2 (monthLength (i / 12) ((i % 12).toNat + 1)) ∧
      min (monthDay n).2 (monthLength (i / 12) ((i % 12).toNat + 1)) ≤
        monthLength (i / 12) ((i % 12).toNat + 1) := by
    have := (monthDay_mem n).2
    have := monthLength_ge (i / 12) ((i % 12).toNat + 1)
    omega
  rw [inMonth, monthIndex, yearOfDay_dayNumber hm hd, monthDay_dayNumber hm hd]
  omega

/-- A month is long enough for its own days. -/
theorem inMonth_monthIndex (n : Int) : inMonth n (monthIndex n) = n := by
  have hd := (monthDay_mem n).2
  rw [inMonth, ← yearOfDay_eq_monthIndex, ← month_eq_monthIndex, Nat.min_eq_left hd.2,
    dayNumber_monthDay]

/-! ### Shifts by months and years -/

theorem onDay_div (n day : Int) : onDay n day / microsPerDay = day := by
  rw [onDay, microsPerDay]
  omega

theorem monthIndex_shift_month (n k : Int) :
    monthIndex (shift n k .month / microsPerDay) = monthIndex (n / microsPerDay) + k := by
  rw [shift, onDay_div, monthIndex_inMonth]

theorem monthIndex_shift_year (n k : Int) :
    monthIndex (shift n k .year / microsPerDay) = monthIndex (n / microsPerDay) + 12 * k := by
  rw [shift, onDay_div, monthIndex_inMonth]

theorem yearOfDay_shift_year (n k : Int) :
    yearOfDay (shift n k .year / microsPerDay) = yearOfDay (n / microsPerDay) + k := by
  rw [yearOfDay_eq_monthIndex, yearOfDay_eq_monthIndex, monthIndex_shift_year]
  omega

theorem shift_of_fixed {unit : TimeUnit} (h : unit.fixedSeconds?.isSome = true) :
    shift n k unit = n + k * unit.micros := by
  cases unit with
  | month => cases h
  | year => cases h
  | _ => rfl

theorem fixedSeconds?_of_dvd {unit : TimeUnit} (h : unit.micros ∣ microsPerDay) :
    unit.fixedSeconds?.isSome = true := by
  cases unit with
  | month => exact absurd h (by decide)
  | year => exact absurd h (by decide)
  | _ => rfl

/-- A shift by nothing changes nothing. -/
theorem shift_zero (n : Int) (unit : TimeUnit) : shift n 0 unit = n := by
  -- Months and years go to the month of `n` itself, which has the day of `n`.
  have hday : onDay n (inMonth (n / microsPerDay) (monthIndex (n / microsPerDay) + 0)) = n := by
    rw [Int.add_zero, inMonth_monthIndex, onDay, microsPerDay]
    omega
  by_cases h : unit.fixedSeconds?.isSome = true
  · rw [shift_of_fixed h, Int.zero_mul, Int.add_zero]
  · cases unit with
    | month => exact hday
    | year => exact hday
    | _ => exact absurd rfl h

/-! ### Roundings -/

/-- The start of a month depends on the month alone. -/
theorem floor_month_congr {m : Int}
    (h : monthIndex (n / microsPerDay) = monthIndex (m / microsPerDay)) :
    floor n .month = floor m .month := by
  rw [floor, floor, yearOfDay_eq_monthIndex, month_eq_monthIndex, h, ← yearOfDay_eq_monthIndex,
    ← month_eq_monthIndex]

/-- The start of a year depends on the year alone. -/
theorem floor_year_congr {m : Int}
    (h : yearOfDay (n / microsPerDay) = yearOfDay (m / microsPerDay)) :
    floor n .year = floor m .year := by
  rw [floor, floor, h]

/-- A rounding takes off what is less than the unit. -/
theorem floor_add {unit : TimeUnit} (hfixed : unit.fixedSeconds?.isSome = true)
    (hfloor : floor n unit = n) {r : Int} (hr : 0 ≤ r ∧ r < unit.micros) :
    floor (n + r) unit = n := by
  cases unit with
  | month => cases hfixed
  | year => cases hfixed
  | _ =>
    simp only [floor, TimeUnit.micros, TimeUnit.approximateSeconds, microsPerDay] at hfloor hr ⊢
    omega

/-! ### Bounds -/

/-- The calendar ends where its years do. -/
theorem inCalendar_iff_year :
    InCalendar n ↔ 1 ≤ yearOfDay (n / microsPerDay) ∧ yearOfDay (n / microsPerDay) ≤ 9999 := by
  have hlo := daysBeforeYear_yearOfDay_le (n / microsPerDay)
  have hhi := lt_daysBeforeYear_succ_yearOfDay (n / microsPerDay)
  constructor
  · rintro ⟨h1, h2⟩
    refine Date.yearOfDay_mem ?_
    rw [DateTime.tickCount, Date.dayCount, microsPerDay] at h2
    rw [Date.dayCount, microsPerDay]
    omega
  · -- the year 1 starts with day 0, and the year 10000 with day 3652059
    rintro ⟨h1, h2⟩
    have hfirst := daysBeforeYear_mono h1
    have hlast := daysBeforeYear_mono (show yearOfDay (n / microsPerDay) + 1 ≤ 10000 by omega)
    rw [show daysBeforeYear 1 = 0 from rfl] at hfirst
    rw [show daysBeforeYear 10000 = 3652059 from rfl] at hlast
    rw [InCalendar, DateTime.tickCount, Date.dayCount]
    rw [microsPerDay] at *
    omega

theorem firstOfMonth_mem (n : Int) : 1 ≤ 1 ∧ 1 ≤ monthLength (yearOfDay n) (monthDay n).1 := by
  have := monthLength_ge (yearOfDay n) (monthDay n).1
  omega

/-- The start of a month is in that month. -/
theorem monthIndex_floor_month (n : Int) :
    monthIndex (floor n .month / microsPerDay) = monthIndex (n / microsPerDay) := by
  have hm := (monthDay_mem (n / microsPerDay)).1
  have hd := firstOfMonth_mem (n / microsPerDay)
  rw [floor, Int.mul_ediv_cancel _ (by decide), monthIndex, yearOfDay_dayNumber hm hd,
    monthDay_dayNumber hm hd, monthIndex]

theorem yearOfDay_floor_year (n : Int) :
    yearOfDay (floor n .year / microsPerDay) = yearOfDay (n / microsPerDay) := by
  rw [floor, Int.mul_ediv_cancel _ (by decide)]
  have hlength := monthLength_ge (yearOfDay (n / microsPerDay)) 1
  exact yearOfDay_dayNumber (by decide) ⟨Nat.le_refl 1, by omega⟩

/-- A rounding stays in the calendar, but for the week of the first six days. -/
theorem inCalendar_floor {unit : TimeUnit} (h : InCalendar n)
    (hweek : unit = .week → 6 * microsPerDay ≤ n) : InCalendar (floor n unit) := by
  cases unit with
  | month =>
    rw [inCalendar_iff_year] at h ⊢
    rw [yearOfDay_eq_monthIndex, monthIndex_floor_month, ← yearOfDay_eq_monthIndex]
    exact h
  | year =>
    rw [inCalendar_iff_year] at h ⊢
    rw [yearOfDay_floor_year]
    exact h
  | week =>
    -- the first Sunday is day 6
    have hsunday := hweek rfl
    simp only [InCalendar, floor, microsPerDay] at *
    omega
  | _ =>
    simp only [InCalendar, floor, TimeUnit.micros, TimeUnit.approximateSeconds] at *
    omega

end Exact

end RelativeTime
