/-
Shifts and roundings in either order.

A shift by a unit commutes with a rounding to that unit or to one that it is made up of.  On
the unbounded calendar this holds for all such units.  Within the calendar the two orders also
fail alike, for the calendar begins and ends with whole years, but for the week:

* `TimeUnit.AtMost` : the units that others are made up of;
* `Exact.floor_shift` : the law on the unbounded calendar;
* `Exact.inCalendar_floor_iff` : a rounding does not cross the ends of the calendar;
* `evaluate_shift_round_comm` : the main statement.

## Design notes

Days are clamped by a shift along the calendar.  A rounding to a day or less keeps the day of the
month, so that it is clamped alike, and a rounding to a month or a year forgets it.
-/
import RelativeTime.Proofs.Describability
import RelativeTime.Proofs.MonthShifts

namespace RelativeTime

/-! ### Units within units -/

namespace TimeUnit

/-- Two chains of units, in each of which a unit consists of whole ones of those before it. -/
def chains : List (List TimeUnit) :=
  [[.second, .minute, .hour, .day, .week], [.second, .minute, .hour, .day, .month, .year]]

/-- Whether `u` is `v` or comes before it in one of the chains. -/
def AtMost (u v : TimeUnit) : Prop := u = v ∨ ∃ chain ∈ chains, [u, v].Sublist chain

instance (u v : TimeUnit) : Decidable (u.AtMost v) := inferInstanceAs (Decidable (_ ∨ _))

/-- Either both units have a fixed length, or the smaller one divides the day and the larger one
follows the calendar, or both follow the calendar. -/
theorem AtMost.cases {u v : TimeUnit} (h : u.AtMost v) :
    (u.fixedSeconds?.isSome = true ∧ v.fixedSeconds?.isSome = true ∧ u.micros ∣ v.micros) ∨
      (u.micros ∣ microsPerDay ∧ (v = .month ∨ v = .year)) ∨
      (u = .month ∧ (v = .month ∨ v = .year)) ∨ (u = .year ∧ v = .year) := by
  revert h
  cases u <;> cases v <;> decide

end TimeUnit

namespace Exact

variable {n k : Int} {u v : TimeUnit}

/-! ### The unbounded calendar -/

/-- A rounding takes the same off if a whole number of its units is added. -/
theorem floor_add_mul {length : Nat} (hfixed : u.fixedSeconds?.isSome = true)
    (hdvd : u.micros ∣ length) (n k : Int) :
    floor (n + k * length) u = floor n u + k * length := by
  obtain ⟨c, rfl⟩ := hdvd
  have hwhole : k * (u.micros * c : Nat) = u.micros * (k * c) := by
    rw [Int.natCast_mul, Int.mul_left_comm]
  rw [hwhole]
  generalize k * c = j
  cases u with
  | month => cases hfixed
  | year => cases hfixed
  | _ =>
    simp only [floor, TimeUnit.micros, TimeUnit.approximateSeconds, microsPerDay]
    omega

/-- A rounding to a unit that divides the day keeps the day. -/
theorem floor_div (hdvd : u.micros ∣ microsPerDay) (n : Int) :
    floor n u / microsPerDay = n / microsPerDay := by
  have hmicros := Int.le_of_lt (micros_pos u)
  rw [floor_of_dvd hdvd]
  obtain ⟨c, hday⟩ := hdvd
  rw [hday, Int.natCast_mul, ← Int.ediv_ediv_of_nonneg hmicros, ← Int.ediv_ediv_of_nonneg hmicros,
    Int.mul_ediv_cancel _ (Int.ne_of_gt (micros_pos u))]

theorem floor_onDay (hdvd : u.micros ∣ microsPerDay) (n day : Int) :
    floor (onDay n day) u = onDay (floor n u) day := by
  rw [onDay_eq, onDay_eq, floor_add_mul (fixedSeconds?_of_dvd hdvd) hdvd, floor_div hdvd]

theorem monthStart_mem (i : Int) :
    (1 ≤ (i % 12).toNat + 1 ∧ (i % 12).toNat + 1 ≤ 12) ∧
      (1 ≤ 1 ∧ 1 ≤ monthLength (i / 12) ((i % 12).toNat + 1)) := by
  have hlength := monthLength_ge (i / 12) ((i % 12).toNat + 1)
  omega

theorem monthIndex_monthStart (i : Int) : monthIndex (monthStart i) = i := by
  obtain ⟨hm, hd⟩ := monthStart_mem i
  rw [monthStart, monthIndex, yearOfDay_dayNumber hm hd, monthDay_dayNumber hm hd]
  omega

/-- The first day of a month is clamped to no other. -/
theorem inMonth_monthStart (i j : Int) : inMonth (monthStart i) j = monthStart j := by
  obtain ⟨hm, hd⟩ := monthStart_mem i
  have hday : (monthDay (monthStart i)).2 = 1 := by
    rw [monthStart, monthDay_dayNumber hm hd]
  have hlength := (monthDays_mem j).1
  rw [inMonth_eq, hday]
  omega

theorem shift_month_monthStart (i k : Int) :
    shift (monthStart i * microsPerDay) k .month = monthStart (i + k) * microsPerDay := by
  rw [shift, onDay, Int.mul_ediv_cancel _ (by decide), Int.mul_emod_left, inMonth_monthStart,
    monthIndex_monthStart, Int.add_zero]

theorem shift_year_monthStart (i k : Int) :
    shift (monthStart i * microsPerDay) k .year = monthStart (i + 12 * k) * microsPerDay := by
  rw [shift, onDay, Int.mul_ediv_cancel _ (by decide), Int.mul_emod_left, inMonth_monthStart,
    monthIndex_monthStart, Int.add_zero]

/-- On the unbounded calendar, a shift commutes with a rounding to its unit or to one that it is
made up of. -/
theorem floor_shift (h : u.AtMost v) (n k : Int) :
    floor (shift n k v) u = shift (floor n u) k v := by
  rcases h.cases with ⟨hu, hv, hdvd⟩ | ⟨hdvd, rfl | rfl⟩ | ⟨rfl, rfl | rfl⟩ | ⟨rfl, rfl⟩
  · rw [shift_of_fixed hv, shift_of_fixed hv, floor_add_mul hu hdvd]
  · -- the rounding keeps the day, and the shift the time of day
    rw [shift, shift, floor_onDay hdvd, floor_div hdvd]
  · rw [shift, shift, floor_onDay hdvd, floor_div hdvd]
  · -- both orders lead to the first of a month
    rw [floor_month_eq, floor_month_eq, monthIndex_shift_month, shift_month_monthStart]
  · rw [floor_month_eq, floor_month_eq, monthIndex_shift_year, shift_year_monthStart]
  · rw [floor_year_eq, floor_year_eq, yearOfDay_shift_year, shift_year_monthStart, Int.mul_add]

/-! ### The ends of the calendar -/

/-- The calendar begins and ends with the start of every unit but the week, and so a rounding does
not cross its ends. -/
theorem inCalendar_floor_iff (hu : u ≠ .week) : InCalendar (floor n u) ↔ InCalendar n := by
  have hstart : floor 0 u = 0 := by
    cases u with
    | week => exact absurd rfl hu
    | _ => decide
  have hend : floor DateTime.tickCount u = DateTime.tickCount := by
    cases u with
    | week => exact absurd rfl hu
    | _ => decide
  rw [InCalendar, InCalendar, le_floor_iff hstart, ← Int.not_le, ← Int.not_le, le_floor_iff hend]

end Exact

/-! ### Evaluation -/

variable {base t : DateTime}

/-- Two operations lead to the instant of their exact result, if the first one stays in the
calendar. -/
theorem evaluate_pair_eq_ok_iff {op op' : Operation} :
    evaluate [op, op'] base = .ok t ↔ InCalendar (Exact.apply base.ticks op) ∧
      t.ticks = Exact.apply (Exact.apply base.ticks op) op' ∧ t.offset = base.offset := by
  rw [evaluate_eq_ok_iff, Exact.stays_cons, Exact.stays_cons, Exact.stays_nil]
  constructor
  · rintro ⟨⟨-, hfirst, -⟩, hend⟩
    exact ⟨hfirst, hend⟩
  · rintro ⟨hfirst, hticks, hoffset⟩
    exact ⟨⟨base.inCalendar_ticks, hfirst, hticks ▸ t.inCalendar_ticks⟩, hticks, hoffset⟩

/-- But for the week, the two orders have the same outcome. -/
theorem evaluate_shift_round_of_ne_week {u v : TimeUnit} (h : u.AtMost v) (hu : u ≠ .week)
    (sign : Sign) (magnitude : Nat) (base : DateTime) :
    (∃ t, evaluate [.shift sign magnitude v, .round u] base = .ok t ∧
      evaluate [.round u, .shift sign magnitude v] base = .ok t) ∨
    (FailsAt (evaluate [.shift sign magnitude v, .round u] base) (.shift sign magnitude v) ∧
      FailsAt (evaluate [.round u, .shift sign magnitude v] base) (.shift sign magnitude v)) := by
  have hcomm := Exact.floor_shift h base.ticks (sign.apply magnitude)
  have hround : InCalendar (Exact.apply base.ticks (.round u)) :=
    (Exact.inCalendar_floor_iff hu).2 base.inCalendar_ticks
  by_cases hshift : InCalendar (Exact.shift base.ticks (sign.apply magnitude) v)
  · obtain ⟨t, hticks, hoffset⟩ :=
      (DateTime.exists_ticks_iff base.offset).2 ((Exact.inCalendar_floor_iff hu).2 hshift)
    exact .inl ⟨t, evaluate_pair_eq_ok_iff.2 ⟨hshift, hticks, hoffset⟩,
      evaluate_pair_eq_ok_iff.2 ⟨hround, hticks.trans hcomm, hoffset⟩⟩
  · -- after the rounding, the shift leads out of the calendar as well
    obtain ⟨s, hs, hticks, -⟩ := exists_apply_eq_ok hround
    have hshift' : ¬ InCalendar (Exact.apply s.ticks (.shift sign magnitude v)) := by
      rw [hticks]
      show ¬ InCalendar (Exact.shift (Exact.floor base.ticks u) (sign.apply magnitude) v)
      rw [← hcomm, Exact.inCalendar_floor_iff hu]
      exact hshift
    have hbase : ¬ InCalendar (Exact.apply base.ticks (.shift sign magnitude v)) := hshift
    obtain ⟨fault, hfault⟩ := exists_apply_eq_error hbase
    obtain ⟨fault', hfault'⟩ := exists_apply_eq_error hshift'
    refine .inr ⟨failsAt_of_apply_eq_error hfault, ?_⟩
    rw [evaluate_cons_of_ok hs]
    exact failsAt_of_apply_eq_error hfault'

/-- **A shift and a rounding may change places.**  If the unit of the rounding is that of the
shift or one that it is made up of, and is not the week, then both orders lead to the same
instant, or both fail at the shift, which they name if it can be written.  Where shifts by weeks
and roundings to weeks succeed in both orders, they lead to the same instant. -/
theorem evaluate_shift_round_comm (sign : Sign) (magnitude : Nat) (base : DateTime) :
    (∀ u v : TimeUnit, u.AtMost v → u ≠ .week →
      (∃ t, evaluate [.shift sign magnitude v, .round u] base = .ok t ∧
        evaluate [.round u, .shift sign magnitude v] base = .ok t) ∨
      (FailsAt (evaluate [.shift sign magnitude v, .round u] base) (.shift sign magnitude v) ∧
        FailsAt (evaluate [.round u, .shift sign magnitude v] base)
          (.shift sign magnitude v))) ∧
    (∀ t t', evaluate [.shift sign magnitude .week, .round .week] base = .ok t →
      evaluate [.round .week, .shift sign magnitude .week] base = .ok t' → t = t') := by
  refine ⟨fun u v h hu => evaluate_shift_round_of_ne_week h hu sign magnitude base, ?_⟩
  intro t t' ht ht'
  obtain ⟨-, hticks, hoffset⟩ := evaluate_pair_eq_ok_iff.1 ht
  obtain ⟨-, hticks', hoffset'⟩ := evaluate_pair_eq_ok_iff.1 ht'
  have hcomm := Exact.floor_shift (.inl rfl : TimeUnit.week.AtMost .week) base.ticks
    (sign.apply magnitude)
  exact DateTime.ticks_injective (hticks.trans (hcomm.trans hticks'.symm))
    (hoffset.trans hoffset'.symm)

/-- A month from the last of January leads to the leap day, before or after midnight, and nearly
eight thousand years lead out of the calendar either way.  The second day of the calendar can be
rounded to its week only after it has been moved on. -/
theorem evaluate_shift_round_comm_leapJanuary :
    (TimeUnit.day.AtMost .month ∧ ∃ t,
      evaluate [.shift .plus 1 .month, .round .day] .leapJanuary = .ok t ∧
      evaluate [.round .day, .shift .plus 1 .month] .leapJanuary = .ok t) ∧
    (TimeUnit.month.AtMost .year ∧
      evaluate [.shift .plus 7976 .year, .round .month] .leapJanuary =
        .error (.outOfRange "+7976y") ∧
      evaluate [.round .month, .shift .plus 7976 .year] .leapJanuary =
        .error (.outOfRange "+7976y")) ∧
    (∃ t t', evaluate [.shift .minus 4 .week, .round .week] .leapJanuary = .ok t ∧
      evaluate [.round .week, .shift .minus 4 .week] .leapJanuary = .ok t' ∧ t = t') ∧
    (∃ t, evaluate [.shift .plus 1 .week, .round .week] .secondDay = .ok t) ∧
    evaluate [.round .week, .shift .plus 1 .week] .secondDay = .error (.outOfRange "/w") := by
  have hday : TimeUnit.day.AtMost .month := by decide
  have hmonth : TimeUnit.month.AtMost .year := by decide
  obtain ⟨hnear, -⟩ := evaluate_shift_round_comm .plus 1 .leapJanuary
  obtain ⟨hfar, -⟩ := evaluate_shift_round_comm .plus 7976 .leapJanuary
  obtain ⟨-, hweek⟩ := evaluate_shift_round_comm .minus 4 .leapJanuary
  refine ⟨⟨hday, ?_⟩, ⟨hmonth, ?_⟩, ⟨_, _, rfl, rfl, hweek _ _ rfl rfl⟩, ⟨_, rfl⟩, rfl⟩
  · rcases hnear .day .month hday (by decide) with hok | ⟨herror, -⟩
    · exact hok
    · exact absurd (failsAt_iff.1 herror) (by intro h; cases h)
  · rcases hfar .month .year hmonth (by decide) with ⟨t, ht, -⟩ | ⟨hfirst, hsecond⟩
    · exact absurd ht (by intro h; cases h)
    · exact ⟨failsAt_iff.1 hfirst, failsAt_iff.1 hsecond⟩

end RelativeTime
