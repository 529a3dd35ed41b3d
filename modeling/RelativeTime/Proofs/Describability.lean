/-
Which targets have a text.

The precision of a target is searched for from the year down, and the search asks for the
week before it asks for the day.  The first six days of the calendar belong to a week that
starts before it, so there the question has no answer and the description fails, also for
a target that is the start of a day.  The very first instant starts a year and is found
before.

* `floor_week_eq_error` : the week of the first six days;
* `firstAligned?_eq_error` : the search fails there;
* `exists_describe` : all other targets have a description against every reference, exact
  or not;
* `format_of_describe`, `parse_shorthand` : texts of descriptions, written and read;
* `format_total_after_first_week` : the main statement.

## Design notes

The failure is a matter of the target alone: neither the reference nor a setting plays a
part, since the search comes before anything is counted.
-/
import RelativeTime.Proofs.Alignment
import RelativeTime.Proofs.NormalForm
import RelativeTime.Proofs.ValidSettings

namespace RelativeTime

variable {t n : DateTime}

/-! ### The first week -/

/-- The Sunday before the first six days is not in the calendar. -/
theorem DateTime.floor_week_eq_error (h : t.ticks < 6 * microsPerDay) :
    t.floor .week = .error .overflow := by
  have hday : t.date.dayNumber < 6 := by
    rw [← ticks_div, microsPerDay] at *
    omega
  have hsunday : ¬ (0 ≤ t.date.dayNumber + -t.date.daysSinceSunday ∧
      t.date.dayNumber + -t.date.daysSinceSunday < Date.dayCount) := by
    have hnonneg := t.date.dayNumber_nonneg
    rw [Date.daysSinceSunday]
    omega
  show (t.date.addDays (-t.date.daysSinceSunday)).map _ = _
  unfold Date.addDays Date.ofDayNumber?
  rw [dif_neg hsunday]
  rfl

/-- All of January of year 1 goes back to the first instant of the calendar. -/
theorem Exact.floor_eq_zero {k : Int} (h : 0 ≤ k ∧ k < 31 * microsPerDay) :
    floor k .year = 0 ∧ floor k .month = 0 := by
  obtain ⟨d, hd⟩ := Int.eq_ofNat_of_zero_le (Int.ediv_nonneg h.1 (Int.natCast_nonneg microsPerDay))
  have hlt : k / microsPerDay < 31 := Int.ediv_lt_of_lt_mul (by decide) h.2
  have hmem : 1 ≤ d + 1 ∧ d + 1 ≤ monthLength 1 1 := by
    rw [show monthLength 1 1 = 31 from rfl]
    omega
  have hday : k / microsPerDay = dayNumber 1 1 (d + 1) := by
    rw [hd, dayNumber, show daysBeforeYear 1 = 0 from rfl, show daysBeforeMonth 1 1 = 0 from rfl]
    omega
  have hfirst : dayNumber 1 1 1 = 0 := rfl
  rw [floor, floor, hday, yearOfDay_dayNumber (by decide) hmem, monthDay_dayNumber (by decide) hmem,
    hfirst, Int.zero_mul]
  exact ⟨rfl, rfl⟩

namespace Description

/-- In the first week, the search for the precision fails unless it is over at once. -/
theorem firstAligned?_eq_error (hpos : t.ticks ≠ 0) (h : t.ticks < 6 * microsPerDay) :
    firstAligned? t precisions = .error .overflow := by
  have hjanuary : 0 ≤ t.ticks ∧ t.ticks < 31 * microsPerDay := by
    have hnonneg := t.ticks_nonneg
    rw [microsPerDay] at *
    omega
  obtain ⟨hyear, hmonth⟩ := Exact.floor_eq_zero hjanuary
  have hcalendar : InCalendar 0 := by decide
  -- Neither a year nor a month starts there, and the week has no start.
  have hweek : t.isAligned .week = .error .overflow := by
    rw [DateTime.isAligned, DateTime.floor_week_eq_error h]
    rfl
  rw [precisions, firstAligned?_cons (hyear ▸ hcalendar), hyear, if_neg hpos.symm,
    firstAligned?_cons (hmonth ▸ hcalendar), hmonth, if_neg hpos.symm, firstAligned?, hweek]

/-! ### Descriptions -/

/-- Counting never fails: only a week could start before the calendar, and the week is
counted in days. -/
theorem exists_alignedTo (t n : DateTime) (exact : Bool) (unit : TimeUnit) :
    ∃ ops, alignedTo t n exact unit = .ok ops := by
  cases unit with
  | year => exact ⟨_, rfl⟩
  | month => exact ⟨_, rfl⟩
  | week => exact ⟨_, rfl⟩
  | _ =>
    cases exact with
    | true => exact ⟨_, rfl⟩
    | false => exact ⟨_, rfl⟩

end Description

/-- A target at the very start of the calendar or after its first six days has a
description. -/
theorem exists_describe (h : t.ticks = 0 ∨ 6 * microsPerDay ≤ t.ticks) (n : DateTime)
    (exact : Bool) : ∃ ops, describe t n (.ok exact) = .ok ops := by
  rw [describe, Description.firstAligned?_precisions h]
  cases Description.precisions.find? _ with
  | none => exact ⟨_, rfl⟩
  | some unit =>
    obtain ⟨ops, hops⟩ := Description.exists_alignedTo t n exact unit
    refine ⟨ops, ?_⟩
    show Result.ofRange (Description.alignedTo t n exact unit) = _
    rw [hops]
    rfl

/-- Any other target has none. -/
theorem describe_eq_error (h : ¬ (t.ticks = 0 ∨ 6 * microsPerDay ≤ t.ticks)) (n : DateTime)
    (exact : Result Bool) : describe t n exact = .error (.range .overflow) := by
  have hpos : t.ticks ≠ 0 := fun hzero => h (.inl hzero)
  have hweek : t.ticks < 6 * microsPerDay := Int.lt_of_not_ge fun hle => h (.inr hle)
  rw [describe, Description.firstAligned?_eq_error hpos hweek]

/-! ### Texts -/

variable {target now : DateTime} {entries : List (String × Value)} {ops : List Operation}

theorem format_of_describe (clock : DateTime) (hvalid : Settings.IsValid entries)
    (ht : target.toUtc = .ok t) (hn : now.toUtc = .ok n)
    (hops : describe t n (.ok (Settings.effectivelyOn entries .roundTripFormat)) = .ok ops) :
    format clock (.dateTime target) (.dateTime now) (.value (.record entries)) =
      .ok (shorthand ops) := by
  rw [format_of_isValid hvalid ht hn, hops]
  rfl

/-- A target in the first week has no text, unless it is the very start of the calendar. -/
theorem format_eq_error (clock : DateTime) (hvalid : Settings.IsValid entries)
    (ht : target.toUtc = .ok t) (hn : now.toUtc = .ok n)
    (h : ¬ (t.ticks = 0 ∨ 6 * microsPerDay ≤ t.ticks)) :
    format clock (.dateTime target) (.dateTime now) (.value (.record entries)) =
      .error (.range .overflow) := by
  rw [format_of_isValid hvalid ht hn, describe_eq_error h]
  rfl

/-- The text of operations that can be read is read by a run of them. -/
theorem parse_shorthand (clock : DateTime) (hvalid : Settings.IsValid entries)
    (hn : now.toUtc = .ok n) (hreadable : ∀ op ∈ ops, op.IsReadable) :
    parse clock (.text (shorthand ops)) (.dateTime now) (.value (.record entries)) =
      (evaluate ops n).map (Settings.view entries) :=
  parse_of_extract clock hvalid hn (extract_shorthand hreadable _)

/-- **Describing is total, but for the first week of the calendar.**  By valid settings,
every target at the very start of the calendar or after its first six days has a text
against every reference.  Between, the range fault of the week comes out. -/
theorem format_total_after_first_week {target now t n : DateTime}
    {entries : List (String × Value)} (clock : DateTime) (hvalid : Settings.IsValid entries)
    (ht : target.toUtc = .ok t) (hn : now.toUtc = .ok n) :
    (t.ticks = 0 ∨ 6 * microsPerDay ≤ t.ticks →
      ∃ text, format clock (.dateTime target) (.dateTime now) (.value (.record entries)) =
        .ok text) ∧
    (¬ (t.ticks = 0 ∨ 6 * microsPerDay ≤ t.ticks) →
      format clock (.dateTime target) (.dateTime now) (.value (.record entries)) =
        .error (.range .overflow)) := by
  constructor
  · intro h
    obtain ⟨ops, hops⟩ := exists_describe h n (Settings.effectivelyOn entries .roundTripFormat)
    exact ⟨shorthand ops, format_of_describe clock hvalid ht hn hops⟩
  · exact format_eq_error clock hvalid ht hn

/-- The first Sunday of the calendar. -/
def DateTime.firstSunday : DateTime := .ofTicks (6 * microsPerDay) none (by decide)

/-- The first Sunday has a text. -/
theorem format_total_after_first_week_sunday :
    Settings.IsValid [] ∧ 6 * microsPerDay ≤ DateTime.firstSunday.ticks ∧
    ∃ text, format .firstSunday (.dateTime .firstSunday) (.dateTime .firstSunday)
      (.value (.record [])) = .ok text := by
  have hvalid : Settings.IsValid [] := List.forall_mem_nil _
  have hutc : DateTime.firstSunday.toUtc = .ok { DateTime.firstSunday with offset := some .utc } :=
    DateTime.toUtc_eq_ok_iff.2 ⟨by decide, rfl⟩
  have hsunday : 6 * microsPerDay ≤ DateTime.firstSunday.ticks := by decide
  exact ⟨hvalid, hsunday,
    (format_total_after_first_week .firstSunday hvalid hutc hutc).1 (.inr hsunday)⟩

/-- The second day of the calendar. -/
def DateTime.secondDay : DateTime := .ofTicks microsPerDay none (by decide)

/-- The second day has no text, not even against itself. -/
theorem format_secondDay :
    Settings.IsValid [] ∧
    DateTime.secondDay.toUtc = .ok { DateTime.secondDay with offset := some .utc } ∧
    format .secondDay (.dateTime .secondDay) (.dateTime .secondDay) (.value (.record [])) =
      .error (.range .overflow) := by
  have hvalid : Settings.IsValid [] := List.forall_mem_nil _
  have hutc : DateTime.secondDay.toUtc = .ok { DateTime.secondDay with offset := some .utc } :=
    DateTime.toUtc_eq_ok_iff.2 ⟨by decide, rfl⟩
  exact ⟨hvalid, hutc, format_eq_error .secondDay hvalid hutc hutc (by decide)⟩

end RelativeTime
