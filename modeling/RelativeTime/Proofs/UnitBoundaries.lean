/-
Boundaries of units.

A boundary of a unit is the first instant of a second, a minute, an hour, a day, a Sunday, a
month or a year.  Rounding an instant finds the last boundary up to it:

* `DateTime.isBoundary_iff_floor` : the boundaries are the instants that a rounding leaves as
  they are;
* `DateTime.exists_floor_eq_error_iff` : a rounding fails where the last Sunday is not in the
  calendar;
* `DateTime.isBoundary_of_floor`, `DateTime.notAfter_iff_of_floor` : what a rounding gives is a
  boundary, and no boundary lies between it and the instant;
* `DateTime.floor_greatest_boundary` : the main statement.

## Design notes

A boundary is told by the fields of the local time.  Sundays are counted from the first day of
the calendar, which is a Monday.  Instants are compared by their local times, and only those with
the same offset.
-/
import RelativeTime.Proofs.Describability
import RelativeTime.Proofs.ExactOrder

namespace RelativeTime

/-- Whether a date is a Sunday. The calendar starts on a Monday. -/
def Date.IsSunday (d : Date) : Prop := d.dayNumber % 7 = 6

instance (d : Date) : Decidable d.IsSunday := inferInstanceAs (Decidable (_ = _))

/-- The twenty-eighth of June 2020 is a Sunday. -/
example : ∃ d, Date.of? 2020 6 28 = some d ∧ d.IsSunday := ⟨_, rfl, by decide⟩

theorem TimeOfDay.eq_midnight_iff {time : TimeOfDay} : time = midnight ↔ time.micros = 0 := by
  constructor
  · rintro rfl
    rfl
  · intro h
    exact micros_injective h

namespace DateTime

/-- Whether an instant is the first one of a second, a minute, an hour, a day, a Sunday, a month
or a year. -/
def IsBoundary (t : DateTime) : TimeUnit → Prop
  | .second => t.time.microsecond = 0
  | .minute => t.time.microsecond = 0 ∧ t.time.second = 0
  | .hour => t.time.microsecond = 0 ∧ t.time.second = 0 ∧ t.time.minute = 0
  | .day => t.time = .midnight
  | .week => t.time = .midnight ∧ t.date.IsSunday
  | .month => t.time = .midnight ∧ t.date.day = 1
  | .year => t.time = .midnight ∧ t.date.day = 1 ∧ t.date.month = 1

instance (t : DateTime) : (unit : TimeUnit) → Decidable (t.IsBoundary unit)
  | .second | .day => inferInstanceAs (Decidable (_ = _))
  | .minute | .hour | .week | .month | .year => inferInstanceAs (Decidable (_ ∧ _))

/-- Whether `t` has the same offset as `u` and is not after it. -/
def NotAfter (t u : DateTime) : Prop := t.offset = u.offset ∧ t.ticks ≤ u.ticks

variable {t r b : DateTime} {unit : TimeUnit}

/-! ### Boundaries -/

/-- Only January has no days before it. -/
theorem daysBeforeMonth_eq_zero_iff (y : Int) {m : Nat} (hm : 1 ≤ m) :
    daysBeforeMonth y m = 0 ↔ m = 1 := by
  constructor
  · intro h
    by_contra hne
    have hmono := daysBeforeMonth_mono y (show 2 ≤ m by omega)
    rw [h, show daysBeforeMonth y 2 = 31 from rfl] at hmono
    omega
  · rintro rfl
    rfl

/-- The boundaries are the instants that a rounding leaves as they are. -/
theorem isBoundary_iff_floor : t.IsBoundary unit ↔ Exact.floor t.ticks unit = t.ticks := by
  have htime := t.time.micros_lt
  have hticks : t.ticks = t.date.dayNumber * microsPerDay + t.time.micros := rfl
  have hday : t.date.dayNumber = Exact.dayNumber t.date.year t.date.month t.date.day := rfl
  have hmem := t.date.day_mem
  rw [Exact.dayNumber] at hday
  cases unit with
  | day =>
    rw [IsBoundary, TimeOfDay.eq_midnight_iff, hticks]
    simp only [Exact.floor, show TimeUnit.day.micros = microsPerDay from rfl]
    rw [microsPerDay] at *
    omega
  | week =>
    rw [IsBoundary, TimeOfDay.eq_midnight_iff, Date.IsSunday, Exact.floor, hticks]
    rw [microsPerDay] at *
    omega
  | month =>
    rw [IsBoundary, TimeOfDay.eq_midnight_iff, Exact.floor, ticks_div, Date.yearOfDay_dayNumber,
      Date.monthDay_dayNumber, hticks, Exact.dayNumber]
    dsimp only
    rw [microsPerDay] at *
    omega
  | year =>
    have hjanuary := daysBeforeMonth_eq_zero_iff t.date.year t.date.month_mem.1
    rw [IsBoundary, TimeOfDay.eq_midnight_iff, Exact.floor, ticks_div, Date.yearOfDay_dayNumber,
      hticks, Exact.dayNumber, show daysBeforeMonth t.date.year 1 = 0 from rfl]
    rw [microsPerDay] at *
    omega
  | _ =>
    have hsecond := t.time.second_lt
    have hmicrosecond := t.time.microsecond_lt
    have hminute := t.time.minute_lt
    simp only [IsBoundary, Exact.floor, TimeUnit.micros, TimeUnit.approximateSeconds, ticks,
      TimeOfDay.micros, microsPerDay]
    omega

/-! ### Failures -/

/-- Only the week of the first six days starts before the calendar. -/
theorem exists_floor_eq_ok (h : ¬ (unit = .week ∧ t.date.dayNumber < Exact.dayNumber 1 1 7)) :
    ∃ r, t.floor unit = .ok r ∧ r.ticks = Exact.floor t.ticks unit ∧ r.offset = t.offset := by
  have hweek : unit = .week → 6 * microsPerDay ≤ t.ticks := by
    intro hunit
    have hday : ¬ t.date.dayNumber < 6 := fun hlt => h ⟨hunit, hlt⟩
    rw [ticks, microsPerDay]
    omega
  obtain ⟨r, hticks, hoffset⟩ :=
    (exists_ticks_iff t.offset).2 (Exact.inCalendar_floor t.inCalendar_ticks hweek)
  exact ⟨r, (floor_eq_ok_iff unit).2 ⟨hticks, hoffset⟩, hticks, hoffset⟩

theorem exists_floor_eq_error_iff :
    (∃ fault, t.floor unit = .error fault) ↔
      unit = .week ∧ t.date.dayNumber < Exact.dayNumber 1 1 7 := by
  constructor
  · rintro ⟨fault, hfault⟩
    by_contra h
    obtain ⟨r, hr, -⟩ := exists_floor_eq_ok h
    rw [hr] at hfault
    cases hfault
  · rintro ⟨rfl, hday⟩
    refine ⟨.overflow, floor_week_eq_error ?_⟩
    have htime := t.time.micros_lt
    have hsunday : t.date.dayNumber < 6 := hday
    rw [ticks, microsPerDay] at *
    omega

/-! ### The last boundary -/

/-- What a rounding gives is a boundary. -/
theorem isBoundary_of_floor (h : t.floor unit = .ok r) : r.IsBoundary unit := by
  rw [isBoundary_iff_floor, ((floor_eq_ok_iff unit).1 h).1]
  exact Exact.floor_floor _ _

/-- A rounding goes back and keeps the offset. -/
theorem notAfter_of_floor (h : t.floor unit = .ok r) : r.NotAfter t := by
  obtain ⟨hticks, hoffset⟩ := (floor_eq_ok_iff unit).1 h
  refine ⟨hoffset, ?_⟩
  rw [hticks]
  exact Exact.floor_le t.ticks unit

/-- No boundary lies between an instant and what a rounding gives. -/
theorem notAfter_iff_of_floor (h : t.floor unit = .ok r) (hb : b.IsBoundary unit) :
    b.NotAfter t ↔ b.NotAfter r := by
  obtain ⟨hticks, hoffset⟩ := (floor_eq_ok_iff unit).1 h
  rw [NotAfter, NotAfter, hoffset, hticks, Exact.le_floor_iff (isBoundary_iff_floor.1 hb)]

/-- Where a rounding has a result, the test for a start of the unit tells the boundaries. -/
theorem isAligned_of_floor (h : t.floor unit = .ok r) :
    t.isAligned unit = .ok (decide (t.IsBoundary unit)) := by
  obtain ⟨hticks, -⟩ := (floor_eq_ok_iff unit).1 h
  rw [isAligned_eq_ok (hticks ▸ r.inCalendar_ticks)]
  exact congrArg Except.ok (decide_eq_decide.2 isBoundary_iff_floor.symm)

/-- **A rounding finds the last boundary.**  It fails just for the week of an instant before the
first Sunday of the calendar.  Otherwise it gives a boundary of the unit with the same offset, not
after the instant, and every boundary that is not after the instant is not after it.  The test for
a start of the unit fails for the same instants, and tells the boundaries among the others. -/
theorem floor_greatest_boundary (t : DateTime) (unit : TimeUnit) :
    ((∃ fault, t.floor unit = .error fault) ↔
      unit = .week ∧ t.date.dayNumber < Exact.dayNumber 1 1 7) ∧
    ((∃ fault, t.isAligned unit = .error fault) ↔
      unit = .week ∧ t.date.dayNumber < Exact.dayNumber 1 1 7) ∧
    (¬ (unit = .week ∧ t.date.dayNumber < Exact.dayNumber 1 1 7) →
      (∃ r, t.floor unit = .ok r ∧ r.IsBoundary unit ∧ r.NotAfter t ∧
        ∀ b : DateTime, b.IsBoundary unit → (b.NotAfter t ↔ b.NotAfter r)) ∧
      t.isAligned unit = .ok (decide (t.IsBoundary unit))) := by
  have herror : (∃ fault, t.isAligned unit = .error fault) ↔
      ∃ fault, t.floor unit = .error fault := by
    rw [isAligned]
    cases t.floor unit with
    | ok r => simp [Except.map]
    | error fault => simp [Except.map]
  refine ⟨exists_floor_eq_error_iff, herror.trans exists_floor_eq_error_iff, ?_⟩
  intro h
  obtain ⟨r, hr, -⟩ := exists_floor_eq_ok h
  exact ⟨⟨r, hr, isBoundary_of_floor hr, notAfter_of_floor hr,
    fun b hb => notAfter_iff_of_floor hr hb⟩, isAligned_of_floor hr⟩

/-- Noon of the first of March 2024, a Friday, without an offset. -/
def leapMarch : DateTime :=
  .ofTicks (Exact.dayNumber 2024 3 1 * microsPerDay + 43200000000) none (by decide)

/-- The week of that Friday starts before the leap day. -/
theorem floor_greatest_boundary_leapMarch :
    ¬ (TimeUnit.week = .week ∧ leapMarch.date.dayNumber < Exact.dayNumber 1 1 7) ∧
    (∃ r, leapMarch.floor .week = .ok r ∧ r.ticks = Exact.dayNumber 2024 2 25 * microsPerDay ∧
      r.IsBoundary .week ∧ r.NotAfter leapMarch ∧
      ∀ b : DateTime, b.IsBoundary .week → (b.NotAfter leapMarch ↔ b.NotAfter r)) ∧
    leapMarch.isAligned .week = .ok false ∧
    ∃ fault, secondDay.floor .week = .error fault := by
  have hlater : ¬ (TimeUnit.week = .week ∧
      leapMarch.date.dayNumber < Exact.dayNumber 1 1 7) := by
    decide
  obtain ⟨-, -, hfloor⟩ := floor_greatest_boundary leapMarch .week
  obtain ⟨⟨r, hr, hlast⟩, haligned⟩ := hfloor hlater
  have hticks := ((floor_eq_ok_iff .week).1 hr).1
  refine ⟨hlater, ⟨r, hr, hticks.trans (by decide), hlast⟩, haligned.trans rfl, ?_⟩
  exact (floor_greatest_boundary secondDay .week).1.2 (by decide)

end DateTime

end RelativeTime
