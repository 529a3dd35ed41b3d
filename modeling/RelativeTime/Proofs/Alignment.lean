/-
Starts of units.

An instant is the start of a unit if rounding leaves its local time as it is.  As long as
the rounding stays in the calendar, the test says so, and the precision of a description
is found by the same question, asked of one unit after the other:

* `isAligned_eq_ok` : the test of one unit;
* `starts_iff_of_isAligned` : what the test says, where it has an answer;
* `starts_of_firstAligned?`, `micros_le_of_firstAligned?` : what the search finds is the
  longest of the units that start there;
* `firstAligned?_eq_find?` : the search through some units;
* `firstAligned?_precisions` : the precision of a target, for all but the first week of the
  calendar, in which only the first instant has one;
* `exists_firstAligned?`, `firstAligned?_eq_none` : the targets that have a precision are those
  without seconds.

## Design notes

The first six days have no start of a week, and the search fails there unless it ends
before the week.  On the first day at midnight it does: that is the start of a year.
-/
import RelativeTime.Proofs.ExactRounding
import RelativeTime.Description

namespace RelativeTime

variable {t : DateTime}

/-- Whether an instant is the start of a unit is a matter of its local time, if the start
of the unit is in the calendar. -/
theorem DateTime.isAligned_eq_ok {unit : TimeUnit} (h : InCalendar (Exact.floor t.ticks unit)) :
    t.isAligned unit = .ok (decide (Exact.floor t.ticks unit = t.ticks)) := by
  obtain ⟨s, hticks, hoffset⟩ := (exists_ticks_iff t.offset).2 h
  rw [isAligned, (floor_eq_ok_iff unit).2 ⟨hticks, hoffset⟩]
  refine congrArg Except.ok (decide_eq_decide.2 ?_)
  rw [eq_iff_ticks, hticks]
  exact and_iff_left hoffset

/-- Whether an instant is the first one of its unit. -/
def DateTime.Starts (t : DateTime) (unit : TimeUnit) : Prop := t.floor unit = .ok t

/-- Where the test has an answer, it says whether the unit starts there. -/
theorem DateTime.starts_iff_of_isAligned {unit : TimeUnit} {b : Bool}
    (h : t.isAligned unit = .ok b) : t.Starts unit ↔ b = true := by
  rw [isAligned] at h
  rw [Starts]
  cases hfloor : t.floor unit with
  | error fault =>
    rw [hfloor] at h
    cases h
  | ok s =>
    rw [hfloor] at h
    rw [← Except.ok.inj h, Except.ok.injEq, decide_eq_true_iff]

/-- The start of a unit longer than a second is the start of a minute. -/
theorem Exact.floor_minute_of_floor {n : Int} {unit : TimeUnit} (hunit : unit ≠ .second)
    (h : floor n unit = n) : floor n .minute = n := by
  cases unit with
  | second => exact absurd rfl hunit
  | _ =>
    simp only [floor, TimeUnit.micros, TimeUnit.approximateSeconds, microsPerDay] at *
    omega

/-- An instant is the start of a minute if it has no seconds. -/
theorem DateTime.floor_minute_eq_iff :
    Exact.floor t.ticks .minute = t.ticks ↔ t.time.second = 0 ∧ t.time.microsecond = 0 := by
  have hsecond := t.time.second_lt
  have hmicrosecond := t.time.microsecond_lt
  simp only [Exact.floor, TimeUnit.micros, TimeUnit.approximateSeconds, ticks, TimeOfDay.micros,
    microsPerDay]
  omega

namespace Description

theorem firstAligned?_cons {unit : TimeUnit} {units : List TimeUnit}
    (h : InCalendar (Exact.floor t.ticks unit)) :
    firstAligned? t (unit :: units) =
      if Exact.floor t.ticks unit = t.ticks then .ok (some unit) else firstAligned? t units := by
  rw [firstAligned?, DateTime.isAligned_eq_ok h]
  by_cases hfloor : Exact.floor t.ticks unit = t.ticks
  · rw [if_pos hfloor, decide_eq_true hfloor]
  · rw [if_neg hfloor, decide_eq_false hfloor]

/-- What the search finds starts at the target. -/
theorem starts_of_firstAligned? {unit : TimeUnit} {units : List TimeUnit}
    (h : firstAligned? t units = .ok (some unit)) : unit ∈ units ∧ t.Starts unit := by
  induction units with
  | nil => cases h
  | cons v units ih =>
    rw [firstAligned?] at h
    split at h
    · rename_i htest
      obtain rfl := Option.some.inj (Except.ok.inj h)
      exact ⟨List.mem_cons_self, (DateTime.starts_iff_of_isAligned htest).2 rfl⟩
    · obtain ⟨hmem, hstarts⟩ := ih h
      exact ⟨List.mem_cons_of_mem v hmem, hstarts⟩
    · cases h

/-- Through units in the order of their lengths, the search finds the longest of those that
start at the target. -/
theorem micros_le_of_firstAligned? {unit : TimeUnit} {units : List TimeUnit}
    (hsorted : units.Pairwise fun v w => w.micros ≤ v.micros)
    (h : firstAligned? t units = .ok (some unit)) :
    ∀ v ∈ units, t.Starts v → v.micros ≤ unit.micros := by
  induction units with
  | nil => exact fun v hv => absurd hv List.not_mem_nil
  | cons w units ih =>
    obtain ⟨hfirst, hrest⟩ := List.pairwise_cons.1 hsorted
    intro v hv hstarts
    rw [firstAligned?] at h
    split at h
    · -- the first unit is found, and all others are shorter
      obtain rfl := Option.some.inj (Except.ok.inj h)
      obtain rfl | hv := List.mem_cons.1 hv
      · exact Nat.le_refl _
      · exact hfirst v hv
    · rename_i htest
      obtain rfl | hv := List.mem_cons.1 hv
      · exact absurd ((DateTime.starts_iff_of_isAligned htest).1 hstarts) Bool.false_ne_true
      · exact ih hrest h v hv hstarts
    · cases h

/-- The search finds the first unit that the local time is a start of. -/
theorem firstAligned?_eq_find? {units : List TimeUnit}
    (h : ∀ unit ∈ units, InCalendar (Exact.floor t.ticks unit)) :
    firstAligned? t units =
      .ok (units.find? fun unit => Exact.floor t.ticks unit = t.ticks) := by
  induction units with
  | nil => rfl
  | cons unit units ih =>
    rw [firstAligned?_cons (h unit List.mem_cons_self),
      ih fun u hu => h u (List.mem_cons_of_mem unit hu), List.find?_cons]
    by_cases hfloor : Exact.floor t.ticks unit = t.ticks
    · rw [if_pos hfloor, decide_eq_true hfloor]
    · rw [if_neg hfloor, decide_eq_false hfloor]

/-- The precision of a target at the very start of the calendar or after its first six
days. -/
theorem firstAligned?_precisions (h : t.ticks = 0 ∨ 6 * microsPerDay ≤ t.ticks) :
    firstAligned? t precisions =
      .ok (precisions.find? fun unit => Exact.floor t.ticks unit = t.ticks) := by
  obtain hstart | hweek := h
  · -- The search must not get as far as the week.
    have hyear : Exact.floor t.ticks .year = t.ticks := by
      rw [hstart]
      decide
    have hcal : InCalendar (Exact.floor t.ticks .year) := by
      rw [hyear]
      exact t.inCalendar_ticks
    rw [precisions, firstAligned?_cons hcal, if_pos hyear, List.find?_cons, decide_eq_true hyear]
  · exact firstAligned?_eq_find? fun _ _ => Exact.inCalendar_floor t.inCalendar_ticks fun _ => hweek

/-- A target without seconds has a precision. -/
theorem exists_firstAligned? (hminute : t.time.second = 0 ∧ t.time.microsecond = 0)
    (h : t.ticks = 0 ∨ 6 * microsPerDay ≤ t.ticks) :
    ∃ unit ∈ precisions, firstAligned? t precisions = .ok (some unit) ∧
      Exact.floor t.ticks unit = t.ticks := by
  have hsome : (precisions.find? fun unit => Exact.floor t.ticks unit = t.ticks).isSome := by
    rw [List.find?_isSome]
    exact ⟨.minute, by decide, decide_eq_true (DateTime.floor_minute_eq_iff.2 hminute)⟩
  obtain ⟨unit, hunit⟩ := Option.isSome_iff_exists.1 hsome
  refine ⟨unit, List.mem_of_find?_eq_some hunit, ?_, of_decide_eq_true (List.find?_some hunit :)⟩
  rw [firstAligned?_precisions h, hunit]

/-- A target within a minute has none: the start of a longer unit is the start of a minute. -/
theorem firstAligned?_eq_none (hminute : ¬ (t.time.second = 0 ∧ t.time.microsecond = 0))
    (h : t.ticks = 0 ∨ 6 * microsPerDay ≤ t.ticks) : firstAligned? t precisions = .ok none := by
  have hnone : precisions.find? (fun unit => Exact.floor t.ticks unit = t.ticks) = none := by
    rw [List.find?_eq_none]
    intro unit hunit hfloor
    have hseconds : unit ≠ .second := by
      rintro rfl
      exact absurd hunit (by decide)
    exact hminute (DateTime.floor_minute_eq_iff.1
      (Exact.floor_minute_of_floor hseconds (of_decide_eq_true hfloor)))
  rw [firstAligned?_precisions h, hnone]

end Description

end RelativeTime
