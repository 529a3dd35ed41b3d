/-
Descriptions of aligned instants are exact.

A target on a minute boundary is a start of one of the units of `Description.precisions`,
and the operations that describe it lead from the reference to it:

* `evaluate_counted` : a count followed by a rounding does what shift and rounding do on
  exact local times;
* `exists_alignedTo_leadsTo` : for each precision, there are operations that lead to the
  target and can be read;
* `parse_format_aligned` : the text for a target is read as the target, by any valid settings
  with exact descriptions.

## Design notes

The counts are inverted on exact local times.  Whatever the reference has beyond a start
of the unit is carried along by the shift and taken off by the rounding; for months and
years the shift reaches the right month and the rounding forgets the day.
-/
import RelativeTime.Proofs.Alignment
import RelativeTime.Proofs.NormalForm
import RelativeTime.Proofs.Simulation
import RelativeTime.Proofs.ValidSettings

namespace RelativeTime

namespace Exact

variable {t n : Int}

/-! ### Counts on exact local times -/

theorem floor_shift_year (h : floor t .year = t) :
    floor (shift n (yearOfDay (t / microsPerDay) - yearOfDay (n / microsPerDay)) .year) .year =
      t := by
  rw [floor_year_congr (m := t) (by rw [yearOfDay_shift_year]; omega), h]

theorem inCalendar_shift_year (ht : InCalendar t) :
    InCalendar (shift n (yearOfDay (t / microsPerDay) - yearOfDay (n / microsPerDay)) .year) := by
  rw [inCalendar_iff_year] at ht ⊢
  rw [yearOfDay_shift_year]
  omega

theorem floor_shift_month (h : floor t .month = t) :
    floor (shift n (monthIndex (t / microsPerDay) - monthIndex (n / microsPerDay)) .month) .month =
      t := by
  rw [floor_month_congr (m := t) (by rw [monthIndex_shift_month]; omega), h]

theorem inCalendar_shift_month (ht : InCalendar t) :
    InCalendar
      (shift n (monthIndex (t / microsPerDay) - monthIndex (n / microsPerDay)) .month) := by
  rw [inCalendar_iff_year] at ht ⊢
  rw [yearOfDay_eq_monthIndex, monthIndex_shift_month]
  rw [yearOfDay_eq_monthIndex] at ht
  omega

/-- Counting the days between the dates reaches the date of the target at the time of day
of the reference. -/
theorem shift_days (h : floor t .day = t) :
    shift n (t / microsPerDay - n / microsPerDay) .day = t + n % microsPerDay := by
  rw [shift_of_fixed rfl]
  simp only [floor, TimeUnit.micros, TimeUnit.approximateSeconds, microsPerDay] at *
  omega

theorem floor_day_of_floor_week (h : floor t .week = t) : floor t .day = t := by
  simp only [floor, TimeUnit.micros, TimeUnit.approximateSeconds, microsPerDay] at *
  omega

theorem floor_shift_days (h : floor t .week = t) :
    floor (shift n (t / microsPerDay - n / microsPerDay) .day) .week = t := by
  rw [shift_days (floor_day_of_floor_week h)]
  refine floor_add rfl h ?_
  simp only [TimeUnit.micros, TimeUnit.approximateSeconds, microsPerDay]
  omega

/-- Counting from the start of the unit of the reference reaches the target, with what the
reference has beyond that start. -/
theorem shift_elapsed {unit : TimeUnit} (hfixed : unit.fixedSeconds?.isSome = true)
    (h : floor t unit = t) :
    shift n ((t - floor n unit) / unit.micros) unit = t + (n - floor n unit) := by
  rw [shift_of_fixed hfixed]
  cases unit with
  | month => cases hfixed
  | year => cases hfixed
  | _ =>
    simp only [floor, TimeUnit.micros, TimeUnit.approximateSeconds, microsPerDay] at *
    omega

theorem sub_floor_mem {unit : TimeUnit} (hfixed : unit.fixedSeconds?.isSome = true) (n : Int) :
    0 ≤ n - floor n unit ∧ n - floor n unit < unit.micros := by
  cases unit with
  | month => cases hfixed
  | year => cases hfixed
  | _ =>
    simp only [floor, TimeUnit.micros, TimeUnit.approximateSeconds, microsPerDay]
    omega

/-- The calendar ends with a whole number of days, so that all of a unit that divides the
day is in it if its start is. -/
theorem inCalendar_add {unit : TimeUnit} (hdvd : unit.micros ∣ microsPerDay)
    (h : floor t unit = t) (ht : InCalendar t) {r : Int} (hr : 0 ≤ r ∧ r < unit.micros) :
    InCalendar (t + r) := by
  simp only [InCalendar, DateTime.tickCount, Date.dayCount] at *
  cases unit with
  | week => exact absurd hdvd (by decide)
  | month => exact absurd hdvd (by decide)
  | year => exact absurd hdvd (by decide)
  | _ =>
    simp only [floor, TimeUnit.micros, TimeUnit.approximateSeconds, microsPerDay] at *
    omega

/-- A calendar has fewer than `10 ^ 18` microseconds. -/
theorem natAbs_sub_lt (ht : InCalendar t) (hn : InCalendar n) : (t - n).natAbs < 10 ^ 18 := by
  rw [InCalendar, DateTime.tickCount, Date.dayCount, microsPerDay] at ht hn
  omega

theorem inCalendar_shift_days (h : floor t .week = t) (ht : InCalendar t) :
    InCalendar (shift n (t / microsPerDay - n / microsPerDay) .day) := by
  have hday := floor_day_of_floor_week h
  rw [shift_days hday]
  refine inCalendar_add (show TimeUnit.day.micros ∣ microsPerDay by decide) hday ht ?_
  rw [show TimeUnit.day.micros = microsPerDay from rfl, microsPerDay]
  omega

end Exact

namespace Description

variable {t n : DateTime}

/-! ### Counted operations -/

theorem apply_sign_natAbs {count : Int} :
    (if 0 < count then Sign.plus else Sign.minus).apply count.natAbs = count := by
  by_cases h : 0 < count
  · rw [if_pos h, Sign.apply]
    omega
  · rw [if_neg h, Sign.apply]
    omega

theorem evaluate_round {unit : TimeUnit} (hfloor : Exact.floor n.ticks unit = t.ticks)
    (hoffset : t.offset = n.offset) : evaluate [.round unit] n = .ok t := by
  have hround : Exact.apply n.ticks (.round unit) = t.ticks := hfloor
  refine evaluate_eq_ok_iff.2 ⟨?_, hround.symm, hoffset⟩
  rw [Exact.stays_cons, Exact.stays_nil, hround]
  exact ⟨n.inCalendar_ticks, t.inCalendar_ticks⟩

/-- A count followed by a rounding does what shift and rounding do on exact local times,
also where the count is zero and there is no shift. -/
theorem evaluate_counted {count : Int} {unit ending : TimeUnit}
    (hending : count = 0 → ending = unit) (hshift : InCalendar (Exact.shift n.ticks count unit))
    (hfloor : Exact.floor (Exact.shift n.ticks count unit) ending = t.ticks)
    (hoffset : t.offset = n.offset) :
    evaluate (counted count unit [.round ending]) n = .ok t := by
  rw [counted]
  by_cases hcount : count = 0
  · -- the rounding alone, which is to the unit of the count
    rw [if_pos hcount]
    rw [hending hcount, hcount, Exact.shift_zero] at hfloor
    exact evaluate_round hfloor hoffset
  · rw [if_neg hcount]
    -- Sign and magnitude make up the count again.
    have hcounted : Exact.apply n.ticks
        (.shift (if 0 < count then .plus else .minus) count.natAbs unit) =
          Exact.shift n.ticks count unit := by
      rw [Exact.apply, apply_sign_natAbs]
    have hround : Exact.apply (Exact.shift n.ticks count unit) (.round ending) = t.ticks := hfloor
    refine evaluate_eq_ok_iff.2 ⟨?_, ?_, hoffset⟩
    · rw [Exact.stays_cons, Exact.stays_cons, Exact.stays_nil, hcounted, hround]
      exact ⟨n.inCalendar_ticks, hshift, t.inCalendar_ticks⟩
    · rw [Exact.run, List.foldl_cons, List.foldl_cons, List.foldl_nil, hcounted, hround]

/-- A count of microseconds of the calendar is short enough to be read. -/
theorem isReadable_shift {sign : Sign} {magnitude : Nat} {unit : TimeUnit}
    (h : magnitude < 10 ^ 18) : (Operation.shift sign magnitude unit).IsReadable :=
  Nat.lt_of_lt_of_le h (Nat.pow_le_pow_right (by decide) (by decide))

theorem isReadable_counted {count : Int} {unit : TimeUnit} {ending : List Operation}
    (h : count.natAbs < 10 ^ 18) (hending : ∀ op ∈ ending, op.IsReadable) :
    ∀ op ∈ counted count unit ending, op.IsReadable := by
  rw [counted]
  by_cases hcount : count = 0
  · rw [if_pos hcount, List.forall_mem_singleton]
    trivial
  · rw [if_neg hcount, List.forall_mem_cons]
    exact ⟨isReadable_shift h, hending⟩

theorem isReadable_round (unit : TimeUnit) : ∀ op ∈ [Operation.round unit], op.IsReadable := by
  rw [List.forall_mem_singleton]
  trivial

/-! ### Precisions -/

/-- The months between two instants are those between the months of their local times. -/
theorem monthsBetween_eq :
    monthsBetween t n = Exact.monthIndex (t.ticks / microsPerDay) -
      Exact.monthIndex (n.ticks / microsPerDay) := by
  rw [monthsBetween, DateTime.ticks_div, DateTime.ticks_div, Date.monthIndex_dayNumber,
    Date.monthIndex_dayNumber]
  omega

theorem yearsBetween_eq :
    t.date.year - n.date.year =
      yearOfDay (t.ticks / microsPerDay) - yearOfDay (n.ticks / microsPerDay) := by
  rw [DateTime.ticks_div, DateTime.ticks_div, Date.yearOfDay_dayNumber, Date.yearOfDay_dayNumber]

/-- What the operations that describe a target have to do: lead from the reference to it,
with magnitudes that can be read. -/
def LeadsTo (ops : List Operation) (n t : DateTime) : Prop :=
  evaluate ops n = .ok t ∧ ∀ op ∈ ops, op.IsReadable

theorem leadsTo_year (h : Exact.floor t.ticks .year = t.ticks) (hoffset : t.offset = n.offset) :
    LeadsTo (counted (t.date.year - n.date.year) .year [.round .year]) n t := by
  have ht := t.date.year_mem
  have hn := n.date.year_mem
  refine ⟨?_, isReadable_counted (by omega) (isReadable_round _)⟩
  rw [yearsBetween_eq]
  exact evaluate_counted (fun _ => rfl) (Exact.inCalendar_shift_year t.inCalendar_ticks)
    (Exact.floor_shift_year h) hoffset

theorem leadsTo_month (h : Exact.floor t.ticks .month = t.ticks) (hoffset : t.offset = n.offset) :
    LeadsTo (counted (monthsBetween t n) .month [.round .month]) n t := by
  have ht := And.intro t.date.year_mem t.date.month_mem
  have hn := And.intro n.date.year_mem n.date.month_mem
  refine ⟨?_, isReadable_counted (by rw [monthsBetween]; omega) (isReadable_round _)⟩
  rw [monthsBetween_eq]
  exact evaluate_counted (fun _ => rfl) (Exact.inCalendar_shift_month t.inCalendar_ticks)
    (Exact.floor_shift_month h) hoffset

theorem leadsTo_week (h : Exact.floor t.ticks .week = t.ticks) (hoffset : t.offset = n.offset) :
    LeadsTo (if t.date.dayNumber - n.date.dayNumber = 0 then [.round .week]
      else counted (t.date.dayNumber - n.date.dayNumber) .day [.round .week]) n t := by
  have hshift := Exact.inCalendar_shift_days (n := n.ticks) h t.inCalendar_ticks
  have hfloor := Exact.floor_shift_days (n := n.ticks) h
  rw [DateTime.ticks_div, DateTime.ticks_div] at hshift hfloor
  by_cases hdays : t.date.dayNumber - n.date.dayNumber = 0
  · -- the reference is on the Sunday itself
    rw [if_pos hdays]
    rw [hdays, Exact.shift_zero] at hfloor
    exact ⟨evaluate_round hfloor hoffset, isReadable_round _⟩
  · rw [if_neg hdays]
    have ht := And.intro t.date.dayNumber_nonneg t.date.dayNumber_lt
    have hn := And.intro n.date.dayNumber_nonneg n.date.dayNumber_lt
    rw [Date.dayCount] at ht hn
    exact ⟨evaluate_counted (fun h => absurd h hdays) hshift hfloor hoffset,
      isReadable_counted (by omega) (isReadable_round _)⟩

/-- Below the week, the units from the start of the unit of the reference are counted. -/
theorem leadsTo_elapsed {start : DateTime} {unit : TimeUnit} (hdvd : unit.micros ∣ microsPerDay)
    (h : Exact.floor t.ticks unit = t.ticks) (hstart : start.ticks = Exact.floor n.ticks unit)
    (hoffset : t.offset = n.offset) :
    LeadsTo (counted ((t.ticks - start.ticks) / unit.micros) unit [.round unit]) n t := by
  have hfixed := Exact.fixedSeconds?_of_dvd hdvd
  have hrest := Exact.sub_floor_mem hfixed n.ticks
  have hbound : ((t.ticks - start.ticks) / unit.micros).natAbs < 10 ^ 18 := by
    have hle := Int.natAbs_ediv_le_natAbs (t.ticks - start.ticks) unit.micros
    exact Nat.lt_of_le_of_lt hle
      (Exact.natAbs_sub_lt t.inCalendar_ticks start.inCalendar_ticks)
  refine ⟨?_, isReadable_counted hbound (isReadable_round _)⟩
  rw [hstart]
  refine evaluate_counted (fun _ => rfl) ?_ ?_ hoffset
  · rw [Exact.shift_elapsed hfixed h]
    exact Exact.inCalendar_add hdvd h t.inCalendar_ticks hrest
  · rw [Exact.shift_elapsed hfixed h]
    exact Exact.floor_add hfixed h hrest

/-- For every precision there are operations that lead to a start of it. -/
theorem exists_alignedTo_leadsTo {unit : TimeUnit} (hunit : unit ∈ precisions)
    (h : Exact.floor t.ticks unit = t.ticks) (ht : t.offset = some .utc)
    (hn : n.offset = some .utc) :
    ∃ ops, alignedTo t n true unit = .ok ops ∧ LeadsTo ops n t := by
  have hoffset := ht.trans hn.symm
  -- The three units below the week are described alike.
  have helapsed : unit.micros ∣ microsPerDay → ∃ ops,
      ((n.floor unit).map fun start =>
        counted ((t.instant - start.instant) / unit.micros) unit [.round unit]) = .ok ops ∧
      LeadsTo ops n t := by
    intro hdvd
    -- The reference may be anywhere, but only a week could start before the calendar.
    have hcalendar : InCalendar (Exact.floor n.ticks unit) := by
      refine Exact.inCalendar_floor n.inCalendar_ticks ?_
      rintro rfl
      exact absurd hdvd (by decide)
    obtain ⟨start, hticks, hs⟩ := (DateTime.exists_ticks_iff n.offset).2 hcalendar
    rw [(DateTime.floor_eq_ok_iff unit).2 ⟨hticks, hs⟩]
    have hleads := leadsTo_elapsed hdvd h hticks hoffset
    rw [← DateTime.instant_of_utc ht, ← DateTime.instant_of_utc (hs.trans hn)] at hleads
    exact ⟨_, rfl, hleads⟩
  cases unit with
  | second => exact absurd hunit (by decide)
  | year => exact ⟨_, rfl, leadsTo_year h hoffset⟩
  | month => exact ⟨_, rfl, leadsTo_month h hoffset⟩
  | week => exact ⟨_, rfl, leadsTo_week h hoffset⟩
  | day => exact helapsed (by decide)
  | hour => exact helapsed (by decide)
  | minute => exact helapsed (by decide)

end Description

/-! ### Texts -/

/-- An exact description of an aligned target leads to it. -/
theorem exists_describe_leadsTo {t n : DateTime}
    (hminute : t.time.second = 0 ∧ t.time.microsecond = 0)
    (hweek : t.ticks = 0 ∨ 6 * microsPerDay ≤ t.ticks) (ht : t.offset = some .utc)
    (hn : n.offset = some .utc) :
    ∃ ops, describe t n (.ok true) = .ok ops ∧ Description.LeadsTo ops n t := by
  obtain ⟨unit, hunit, hfirst, hfloor⟩ := Description.exists_firstAligned? hminute hweek
  obtain ⟨ops, hops, hleads⟩ := Description.exists_alignedTo_leadsTo hunit hfloor ht hn
  refine ⟨ops, ?_, hleads⟩
  rw [describe, hfirst]
  show Result.ofRange (Description.alignedTo t n true unit) = _
  rw [hops]
  rfl

/-- **A text for an aligned target is read as that target.**  With exact descriptions, every
target without seconds, at the very start of the calendar or after its first six days, has a
text against every reference, and by the same settings the text is read as the target in
UTC. -/
theorem parse_format_aligned {target now t n : DateTime} {entries : List (String × Value)}
    (clock : DateTime) (hvalid : Settings.IsValid entries)
    (hexact : Settings.effectivelyOn entries .roundTripFormat = true)
    (ht : target.toUtc = .ok t) (hn : now.toUtc = .ok n)
    (hminute : t.time.second = 0 ∧ t.time.microsecond = 0)
    (hweek : t.ticks = 0 ∨ 6 * microsPerDay ≤ t.ticks) :
    ∃ text,
      format clock (.dateTime target) (.dateTime now) (.value (.record entries)) = .ok text ∧
      parse clock (.text text) (.dateTime now) (.value (.record entries)) =
        .ok (if Settings.effectivelyOn entries .timezoneAware then t else t.withoutOffset) := by
  have htarget := (DateTime.toUtc_eq_ok_iff.1 ht).2
  have hreference := (DateTime.toUtc_eq_ok_iff.1 hn).2
  obtain ⟨ops, hops, heval, hreadable⟩ :=
    exists_describe_leadsTo hminute hweek htarget hreference
  refine ⟨shorthand ops, ?_, ?_⟩
  · rw [format_of_isValid hvalid ht hn, hexact, hops]
    rfl
  · rw [parse_of_isValid hvalid hn, extract_shorthand hreadable]
    show (evaluate ops n >>= _) = _
    rw [heval]
    rfl

/-- The first of February 2024, half past five in the morning, where clocks are as far ahead
of UTC. -/
def DateTime.february : DateTime :=
  .ofTicks (Exact.dayNumber 2024 2 1 * microsPerDay + 19800000000) (Offset.of? 19800000000)
    (by decide)

/-- The last microsecond of January 2024, without an offset. -/
def DateTime.january : DateTime :=
  .ofTicks (Exact.dayNumber 2024 2 1 * microsPerDay - 1) none (by decide)

/-- The text is `now+1M/M`: a month from the last of January leads to the twenty-ninth of
February, and the rounding back to the target. -/
theorem parse_format_aligned_february :
    format .start (.dateTime .february) (.dateTime .january)
      (.value (.record [("RETURN_AS_TIMEZONE_AWARE", .bool false)])) = .ok "now+1M/M" ∧
    ∃ text,
      format .start (.dateTime .february) (.dateTime .january)
        (.value (.record [("RETURN_AS_TIMEZONE_AWARE", .bool false)])) = .ok text ∧
      parse .start (.text text) (.dateTime .january)
        (.value (.record [("RETURN_AS_TIMEZONE_AWARE", .bool false)])) =
        .ok ⟨DateTime.february.date, .midnight, none⟩ := by
  have hvalid : Settings.IsValid [("RETURN_AS_TIMEZONE_AWARE", .bool false)] := by
    rw [Settings.IsValid, List.forall_mem_singleton]
    exact ⟨.timezoneAware, rfl, false, rfl⟩
  have htarget : DateTime.february.toUtc = .ok ⟨DateTime.february.date, .midnight, some .utc⟩ :=
    DateTime.toUtc_eq_ok_iff.2 ⟨by decide, rfl⟩
  have hreference : DateTime.january.toUtc = .ok { DateTime.january with offset := some .utc } :=
    DateTime.toUtc_eq_ok_iff.2 ⟨by decide, rfl⟩
  refine ⟨rfl, ?_⟩
  exact parse_format_aligned .start hvalid (by decide) htarget hreference (by decide) (by decide)

end RelativeTime
