/-
The order of exact local times.

A month of the unbounded calendar is an interval of days, and the months follow each other
without a gap.  So a shift by months or years moves a local time in the direction of the
shift, as a shift of fixed length does:

* `monthStart_succ`, `monthStart_add_mem` : a month ends where the next one starts, and has 28
  to 31 days;
* `monthStart_monthIndex_le`, `lt_monthStart_succ_monthIndex` : a day lies in its month;
* `floor_le`, `floor_mono` : a rounding goes back, and keeps the order;
* `le_shift`, `shift_le` : a shift moves in its own direction, whatever it does to the day of
  the month;
* `shift_month_le`, `le_shift_month`, `shift_year_le`, `le_shift_year` : how far at most.

## Design notes

A year has at least 365 days, and among `k` years there are at most `97 * k / 400` leap years,
up to three more that depend on where the years begin.  The bounds on shifts are linear in
that sense, and generous by a few days.
-/
import RelativeTime.Proofs.ExactRounding

namespace RelativeTime

namespace Exact

variable {n i k : Int}

/-! ### Months as intervals of days -/

/-- The first day of the month with the index `i`. -/
def monthStart (i : Int) : Int := dayNumber (i / 12) ((i % 12).toNat + 1) 1

/-- The number of days of the month with the index `i`. -/
def monthDays (i : Int) : Nat := monthLength (i / 12) ((i % 12).toNat + 1)

/-- A month ends where the next one starts. -/
theorem monthStart_succ (i : Int) : monthStart (i + 1) = monthStart i + monthDays i := by
  by_cases hlast : i % 12 = 11
  · -- from December on to the next year
    have hyear : (i + 1) / 12 = i / 12 + 1 := by omega
    have hmonth : (i + 1) % 12 = 0 := by omega
    have htwelve := daysBeforeMonth_succ (i / 12) (show 1 ≤ 12 by decide)
    rw [daysBeforeMonth_thirteen] at htwelve
    rw [monthStart, monthStart, monthDays, hyear, hmonth, hlast, dayNumber, dayNumber,
      daysBeforeYear_succ]
    simp only [show (11 : Int).toNat + 1 = 12 from rfl, show (0 : Int).toNat + 1 = 1 from rfl,
      show daysBeforeMonth (i / 12 + 1) 1 = 0 from rfl]
    omega
  · have hyear : (i + 1) / 12 = i / 12 := by omega
    have hmonth : ((i + 1) % 12).toNat = (i % 12).toNat + 1 := by omega
    have hsucc := daysBeforeMonth_succ (i / 12) (show 1 ≤ (i % 12).toNat + 1 by omega)
    rw [monthStart, monthStart, monthDays, hyear, hmonth, dayNumber, dayNumber, hsucc]
    omega

theorem monthDays_mem (i : Int) : 28 ≤ monthDays i ∧ monthDays i ≤ 31 :=
  ⟨monthLength_ge _ _, monthLength_le _ _⟩

/-- Months have 28 to 31 days. -/
theorem monthStart_add_mem (i : Int) (k : Nat) :
    monthStart i + 28 * k ≤ monthStart (i + k) ∧ monthStart (i + k) ≤ monthStart i + 31 * k := by
  induction k with
  | zero =>
    rw [Int.natCast_zero, Int.add_zero, Int.mul_zero, Int.mul_zero, Int.add_zero]
    exact ⟨Int.le_refl _, Int.le_refl _⟩
  | succ k ih =>
    have hsucc := monthStart_succ (i + k)
    have hdays := monthDays_mem (i + k)
    rw [Int.natCast_succ, ← Int.add_assoc]
    omega

theorem monthStart_mono {i j : Int} (h : i ≤ j) : monthStart i ≤ monthStart j := by
  obtain ⟨k, hk⟩ := Int.eq_ofNat_of_zero_le (Int.sub_nonneg_of_le h)
  have hmem := (monthStart_add_mem i k).1
  rw [show j = i + k by omega]
  omega

theorem monthStart_monthIndex (n : Int) : monthStart (monthIndex n) = n - (monthDay n).2 + 1 := by
  have hday := dayNumber_monthDay n
  rw [monthStart, ← yearOfDay_eq_monthIndex, ← month_eq_monthIndex]
  rw [dayNumber] at hday ⊢
  omega

theorem monthDays_monthIndex (n : Int) : (monthDay n).2 ≤ monthDays (monthIndex n) := by
  rw [monthDays, ← yearOfDay_eq_monthIndex, ← month_eq_monthIndex]
  exact (monthDay_mem n).2.2

/-- A day lies in its month. -/
theorem monthStart_monthIndex_le (n : Int) : monthStart (monthIndex n) ≤ n := by
  have hday := (monthDay_mem n).2.1
  rw [monthStart_monthIndex]
  omega

theorem lt_monthStart_succ_monthIndex (n : Int) : n < monthStart (monthIndex n + 1) := by
  have hday := monthDays_monthIndex n
  rw [monthStart_succ, monthStart_monthIndex]
  omega

theorem inMonth_eq (n i : Int) :
    inMonth n i = monthStart i + min (monthDay n).2 (monthDays i) - 1 := by
  simp only [inMonth, monthStart, monthDays, dayNumber]
  omega

theorem inMonth_mem (n i : Int) : monthStart i ≤ inMonth n i ∧ inMonth n i < monthStart (i + 1) := by
  have hday := (monthDay_mem n).2.1
  have hlength := (monthDays_mem i).1
  rw [monthStart_succ, inMonth_eq]
  omega

/-! ### Roundings -/

/-- A later day is not in an earlier month. -/
theorem monthIndex_mono {m : Int} (h : n ≤ m) : monthIndex n ≤ monthIndex m := by
  by_contra hlater
  have hmono := monthStart_mono (show monthIndex m + 1 ≤ monthIndex n by omega)
  have hn := monthStart_monthIndex_le n
  have hm := lt_monthStart_succ_monthIndex m
  omega

theorem yearOfDay_mono {m : Int} (h : n ≤ m) : yearOfDay n ≤ yearOfDay m := by
  have hmonth := monthIndex_mono h
  rw [yearOfDay_eq_monthIndex, yearOfDay_eq_monthIndex]
  omega

theorem floor_month_eq (n : Int) :
    floor n .month = monthStart (monthIndex (n / microsPerDay)) * microsPerDay := by
  rw [floor, monthStart, ← yearOfDay_eq_monthIndex, ← month_eq_monthIndex]

/-- A year starts with the month of its January. -/
theorem floor_year_eq (n : Int) :
    floor n .year = monthStart (12 * yearOfDay (n / microsPerDay)) * microsPerDay := by
  rw [floor, monthStart, Int.mul_ediv_cancel_left _ (by decide), Int.mul_emod_right]
  rfl

theorem micros_pos (unit : TimeUnit) : (0 : Int) < unit.micros := by
  cases unit <;> decide

/-- A unit that divides the day is counted from the beginning of the calendar. -/
theorem floor_of_dvd {unit : TimeUnit} (hdvd : unit.micros ∣ microsPerDay) (n : Int) :
    floor n unit = n / unit.micros * unit.micros := by
  have hparts := Int.mul_ediv_add_emod n unit.micros
  have hfloor : floor n unit = n - n % unit.micros := by
    cases unit with
    | week => exact absurd hdvd (by decide)
    | month => exact absurd hdvd (by decide)
    | year => exact absurd hdvd (by decide)
    | _ => rfl
  rw [hfloor, Int.mul_comm]
  omega

/-- A rounding goes back. -/
theorem floor_le (n : Int) (unit : TimeUnit) : floor n unit ≤ n := by
  have hmonth := monthStart_monthIndex_le (n / microsPerDay)
  cases unit with
  | month =>
    rw [floor_month_eq, microsPerDay] at *
    omega
  | year =>
    have hyear := yearOfDay_eq_monthIndex (n / microsPerDay)
    have hmono := monthStart_mono (show 12 * yearOfDay (n / microsPerDay) ≤
      monthIndex (n / microsPerDay) by omega)
    rw [floor_year_eq]
    rw [microsPerDay] at *
    omega
  | _ =>
    simp only [floor, TimeUnit.micros, TimeUnit.approximateSeconds, microsPerDay]
    omega

/-- A rounding keeps the order. -/
theorem floor_mono {m : Int} (h : n ≤ m) (unit : TimeUnit) : floor n unit ≤ floor m unit := by
  have hday : n / microsPerDay ≤ m / microsPerDay := Int.ediv_le_ediv (by decide) h
  cases unit with
  | month =>
    rw [floor_month_eq, floor_month_eq]
    exact Int.mul_le_mul_of_nonneg_right (monthStart_mono (monthIndex_mono hday)) (by decide)
  | year =>
    have hyear := yearOfDay_mono hday
    rw [floor_year_eq, floor_year_eq]
    exact Int.mul_le_mul_of_nonneg_right (monthStart_mono (by omega)) (by decide)
  | _ =>
    simp only [floor, TimeUnit.micros, TimeUnit.approximateSeconds, microsPerDay]
    omega

/-- The start of a unit is left as it is. -/
theorem floor_floor (n : Int) (unit : TimeUnit) : floor (floor n unit) unit = floor n unit := by
  cases unit with
  | month => exact floor_month_congr (monthIndex_floor_month n)
  | year => exact floor_year_congr (yearOfDay_floor_year n)
  | _ =>
    simp only [floor, TimeUnit.micros, TimeUnit.approximateSeconds, microsPerDay]
    omega

/-- A start of a unit that is not after an instant is not after the start of its unit. -/
theorem le_floor_iff {b : Int} {unit : TimeUnit} (hb : floor b unit = b) :
    b ≤ floor n unit ↔ b ≤ n := by
  constructor
  · intro h
    exact Int.le_trans h (floor_le n unit)
  · intro h
    rw [← hb]
    exact floor_mono h unit

/-! ### Order -/

/-- A later day of the same month stays the later one if both are clamped, and a day of a later
month is moved to a later month. -/
theorem inMonth_mono {m : Int} (h : n ≤ m) (k : Int) :
    inMonth n (monthIndex n + k) ≤ inMonth m (monthIndex m + k) := by
  obtain hsame | hlater := Int.le_iff_eq_or_lt.1 (monthIndex_mono h)
  · have hn := monthStart_monthIndex n
    have hm := monthStart_monthIndex m
    rw [hsame] at hn
    rw [inMonth_eq, inMonth_eq, hsame]
    omega
  · have hmono := monthStart_mono (show monthIndex n + k + 1 ≤ monthIndex m + k by omega)
    have hn := (inMonth_mem n (monthIndex n + k)).2
    have hm := (inMonth_mem m (monthIndex m + k)).1
    omega

/-! ### Directions -/

/-- A day moved to a later month becomes a later day, however it is clamped. -/
theorem le_inMonth (hk : 0 ≤ k) : n ≤ inMonth n (monthIndex n + k) := by
  obtain rfl | hpos := Int.le_iff_eq_or_lt.1 hk
  · exact Int.le_of_eq (by rw [Int.add_zero, inMonth_monthIndex])
  · have hmono := monthStart_mono (show monthIndex n + 1 ≤ monthIndex n + k by omega)
    have hday := lt_monthStart_succ_monthIndex n
    have hmonth := (inMonth_mem n (monthIndex n + k)).1
    omega

theorem inMonth_le (hk : k ≤ 0) : inMonth n (monthIndex n + k) ≤ n := by
  obtain rfl | hneg := Int.le_iff_eq_or_lt.1 hk
  · exact Int.le_of_eq (by rw [Int.add_zero, inMonth_monthIndex])
  · have hmono := monthStart_mono (show monthIndex n + k + 1 ≤ monthIndex n by omega)
    have hday := monthStart_monthIndex_le n
    have hmonth := (inMonth_mem n (monthIndex n + k)).2
    omega

/-- Moving to another day moves the local time by as many days. -/
theorem onDay_eq (n day : Int) : onDay n day = n + (day - n / microsPerDay) * microsPerDay := by
  rw [onDay, microsPerDay]
  omega

/-- A shift forward does not go back. -/
theorem le_shift (hk : 0 ≤ k) (unit : TimeUnit) : n ≤ shift n k unit := by
  have hcalendar {j : Int} (hj : 0 ≤ j) :
      n ≤ onDay n (inMonth (n / microsPerDay) (monthIndex (n / microsPerDay) + j)) := by
    have hday : n / microsPerDay ≤ _ := le_inMonth hj
    rw [onDay_eq, microsPerDay] at *
    omega
  cases unit with
  | month => exact hcalendar hk
  | year => exact hcalendar (by omega)
  | _ =>
    simp only [shift, TimeUnit.micros, TimeUnit.approximateSeconds]
    omega

/-- A shift back does not go forward. -/
theorem shift_le (hk : k ≤ 0) (unit : TimeUnit) : shift n k unit ≤ n := by
  have hcalendar {j : Int} (hj : j ≤ 0) :
      onDay n (inMonth (n / microsPerDay) (monthIndex (n / microsPerDay) + j)) ≤ n := by
    have hday : _ ≤ n / microsPerDay := inMonth_le hj
    rw [onDay_eq, microsPerDay] at *
    omega
  cases unit with
  | month => exact hcalendar hk
  | year => exact hcalendar (by omega)
  | _ =>
    simp only [shift, TimeUnit.micros, TimeUnit.approximateSeconds]
    omega

/-! ### Distances -/

theorem monthLength_le_add (y z : Int) (m : Nat) :
    monthLength y m ≤ monthLength z m + if m = 2 then 1 else 0 := by
  by_cases hm : m = 2
  · rw [hm, monthLength, monthLength]
    split <;> split <;> decide
  · rw [if_neg hm, monthLength.eq_def, monthLength.eq_def]
    split
    · exact absurd rfl hm
    all_goals exact Nat.le_refl _

/-- The months before a month differ between two years by a leap day at most. -/
theorem daysBeforeMonth_le_add (y z : Int) (m : Nat) :
    daysBeforeMonth y m ≤ daysBeforeMonth z m + if 2 < m then 1 else 0 := by
  induction m with
  | zero => exact Nat.le_refl _
  | succ m ih =>
    cases m with
    | zero => exact Nat.le_refl _
    | succ m =>
      have hlength := monthLength_le_add y z (m + 1)
      rw [daysBeforeMonth, daysBeforeMonth]
      split at ih <;> split at hlength <;> split <;> omega

/-- Among `k` years, at most `97 * k / 400 + 3` are leap years. -/
theorem daysBeforeYear_add_le (y : Int) (k : Nat) :
    daysBeforeYear (y + k) ≤ daysBeforeYear y + (365 * k + 97 * k / 400 + 3 : Nat) := by
  simp only [daysBeforeYear]
  omega

theorem monthStart_add_years_le (i : Int) (k : Nat) :
    monthStart (i + 12 * k) ≤ monthStart i + (365 * k + 97 * k / 400 + 4 : Nat) := by
  have hyear : (i + 12 * k) / 12 = i / 12 + k := by omega
  have hmonth : (i + 12 * k) % 12 = i % 12 := by omega
  have hyears := daysBeforeYear_add_le (i / 12) k
  have hmonths := daysBeforeMonth_le_add (i / 12 + k) (i / 12) ((i % 12).toNat + 1)
  rw [monthStart, monthStart, hyear, hmonth, dayNumber, dayNumber]
  split at hmonths <;> omega

/-- The day of the month can only be clamped downwards, and by three days at most. -/
theorem inMonth_le_add {c : Int}
    (h : monthStart (monthIndex n + k) ≤ monthStart (monthIndex n) + c) :
    inMonth n (monthIndex n + k) ≤ n + c := by
  have hstart := monthStart_monthIndex n
  rw [inMonth_eq]
  omega

theorem le_inMonth_add {c : Int}
    (h : monthStart (monthIndex n) ≤ monthStart (monthIndex n + k) + c) :
    n ≤ inMonth n (monthIndex n + k) + c + 3 := by
  have hstart := monthStart_monthIndex n
  have hday := monthDays_monthIndex n
  have hlength := (monthDays_mem (monthIndex n)).2
  have hlength' := (monthDays_mem (monthIndex n + k)).1
  rw [inMonth_eq]
  omega

/-- A month has one day more than thirty at most. -/
theorem shift_month_le (n : Int) (k : Nat) :
    shift n k .month ≤ n + (k * TimeUnit.month.micros + (k + 3) * microsPerDay : Nat) := by
  have hday := inMonth_le_add (monthStart_add_mem (monthIndex (n / microsPerDay)) k).2
  rw [shift, onDay_eq, show TimeUnit.month.micros = 30 * microsPerDay from rfl]
  rw [microsPerDay] at *
  omega

theorem le_shift_month (n : Int) (k : Nat) :
    n ≤ shift n (-k) .month + (k * TimeUnit.month.micros + (k + 3) * microsPerDay : Nat) := by
  have hstart := (monthStart_add_mem (monthIndex (n / microsPerDay) + -k) k).2
  rw [Int.neg_add_cancel_right] at hstart
  have hday := le_inMonth_add hstart
  rw [shift, onDay_eq, show TimeUnit.month.micros = 30 * microsPerDay from rfl]
  rw [microsPerDay] at *
  omega

/-- Years have 365 days and the leap days among them. -/
theorem shift_year_le (n : Int) (k : Nat) :
    shift n k .year ≤
      n + (k * TimeUnit.year.micros + (97 * k / 400 + 7) * microsPerDay : Nat) := by
  have hday := inMonth_le_add (monthStart_add_years_le (monthIndex (n / microsPerDay)) k)
  rw [shift, onDay_eq, show TimeUnit.year.micros = 365 * microsPerDay from rfl]
  rw [microsPerDay] at *
  omega

theorem le_shift_year (n : Int) (k : Nat) :
    n ≤ shift n (-k) .year +
      (k * TimeUnit.year.micros + (97 * k / 400 + 7) * microsPerDay : Nat) := by
  have hstart := monthStart_add_years_le (monthIndex (n / microsPerDay) + 12 * -k) k
  rw [Int.mul_neg, Int.neg_add_cancel_right] at hstart
  have hday := le_inMonth_add hstart
  rw [shift, onDay_eq, show TimeUnit.year.micros = 365 * microsPerDay from rfl, Int.mul_neg]
  rw [microsPerDay] at *
  omega

end Exact

end RelativeTime
