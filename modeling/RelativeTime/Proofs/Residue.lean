/-
What descriptions without a rounding leave over.

Without exact descriptions, the text for the start of a month, a day, an hour or a minute
ends with a count of units, and reading it leads to somewhere near the target:

* `exists_evaluate_counted_nil` : a count with nothing after it is a shift, or a rounding if
  there is nothing to count;
* `residue_of_count` : the whole units of a difference lead from the reference toward the
  target and end less than one unit before it;
* `exists_alignedTo_residue` : what is left over, by the precision of the target;
* `parse_format_approximates` : the main statement.

## Design notes

`Exact.Residue` speaks of local times and of the unit that was counted, and
`Description.Approximates` of instants and of the units that start at the target.  The
second follows from the first since the unit that is counted is the longest of them.
-/
import RelativeTime.Proofs.Describability
import RelativeTime.Proofs.RoundTrip

namespace RelativeTime

namespace Exact

variable {t n p : Int}

/-- Where a description without a rounding leads from `n`, if `t` has the precision of a
unit: to `t` itself, into the month that `t` starts, or less than a unit before `t`, as seen
from `n`.  If `n` is nearer than that, then to the start of the unit that `n` is in. -/
def Residue (n t p : Int) : TimeUnit → Prop
  | .year => p = t
  | .month => floor p .month = t
  | .week => p = t
  | unit =>
    (unit.micros ≤ (t - n).natAbs →
      (n ≤ p ∧ p ≤ t ∨ t ≤ p ∧ p ≤ n) ∧ (t - p).natAbs < unit.micros) ∧
    ((t - n).natAbs < unit.micros →
      p = floor n unit ∧ (t ≤ n → p = t) ∧ (n < t → p = t - unit.micros))

/-- The whole units from `n` to `t`, rounded toward zero. -/
def wholeUnits (n t : Int) (unit : TimeUnit) : Int :=
  if t - n < 0 then -((t - n).natAbs / unit.micros : Nat) else ((t - n).natAbs / unit.micros : Nat)

/-- The whole units of a difference end less than one unit before the target, and if there
are none, then the target is one of the two starts of the unit around the reference. -/
theorem residue_of_count {unit : TimeUnit} (hdvd : unit.micros ∣ microsPerDay)
    (h : floor t unit = t)
    (hp : p = if wholeUnits n t unit = 0 then floor n unit
      else shift n (wholeUnits n t unit) unit) : Residue n t p unit := by
  rw [shift_of_fixed (fixedSeconds?_of_dvd hdvd)] at hp
  cases unit with
  | week => exact absurd hdvd (by decide)
  | month => exact absurd hdvd (by decide)
  | year => exact absurd hdvd (by decide)
  | _ =>
    simp only [Residue, wholeUnits, floor, TimeUnit.micros, TimeUnit.approximateSeconds] at *
    omega

/-- Whole units toward a target stay between the reference and the target. -/
theorem shift_wholeUnits_mem {unit : TimeUnit} (hfixed : unit.fixedSeconds?.isSome = true)
    (n t : Int) :
    n ≤ shift n (wholeUnits n t unit) unit ∧ shift n (wholeUnits n t unit) unit ≤ t ∨
      t ≤ shift n (wholeUnits n t unit) unit ∧ shift n (wholeUnits n t unit) unit ≤ n := by
  have hle := Nat.div_mul_le_self (t - n).natAbs unit.micros
  rw [shift_of_fixed hfixed, wholeUnits]
  split
  · rw [Int.neg_mul, ← Int.natCast_mul]
    omega
  · rw [← Int.natCast_mul]
    omega

theorem inCalendar_shift_wholeUnits {unit : TimeUnit} (hfixed : unit.fixedSeconds?.isSome = true)
    (hn : InCalendar n) (ht : InCalendar t) : InCalendar (shift n (wholeUnits n t unit) unit) := by
  have hmem := shift_wholeUnits_mem hfixed n t
  rw [InCalendar] at *
  omega

theorem natAbs_wholeUnits_lt {unit : TimeUnit} (hn : InCalendar n) (ht : InCalendar t) :
    (wholeUnits n t unit).natAbs < 10 ^ 18 := by
  have hcount : (wholeUnits n t unit).natAbs = (t - n).natAbs / unit.micros := by
    rw [wholeUnits]
    split
    · rw [Int.natAbs_neg, Int.natAbs_natCast]
    · rw [Int.natAbs_natCast]
  rw [hcount]
  exact Nat.lt_of_le_of_lt (Nat.div_le_self _ _) (natAbs_sub_lt ht hn)

end Exact

namespace Description

variable {t n : DateTime}

/-! ### Counts with nothing after them -/

theorem exists_evaluate_round {unit : TimeUnit} (h : InCalendar (Exact.floor n.ticks unit)) :
    ∃ p, evaluate [.round unit] n = .ok p ∧ p.ticks = Exact.floor n.ticks unit ∧
      p.offset = n.offset := by
  obtain ⟨p, hticks, hoffset⟩ := (DateTime.exists_ticks_iff n.offset).2 h
  exact ⟨p, evaluate_round hticks.symm hoffset, hticks, hoffset⟩

/-- A count with nothing after it is a shift, or a rounding if there is nothing to count. -/
theorem exists_evaluate_counted_nil {count : Int} {unit : TimeUnit}
    (hround : count = 0 → InCalendar (Exact.floor n.ticks unit))
    (hshift : InCalendar (Exact.shift n.ticks count unit)) :
    ∃ p, evaluate (counted count unit []) n = .ok p ∧
      (p.ticks = if count = 0 then Exact.floor n.ticks unit else Exact.shift n.ticks count unit) ∧
      p.offset = n.offset := by
  rw [counted]
  by_cases hcount : count = 0
  · rw [if_pos hcount, if_pos hcount]
    exact exists_evaluate_round (hround hcount)
  · rw [if_neg hcount, if_neg hcount]
    obtain ⟨p, hticks, hoffset⟩ := (DateTime.exists_ticks_iff n.offset).2 hshift
    have hcounted : Exact.apply n.ticks
        (.shift (if 0 < count then .plus else .minus) count.natAbs unit) = p.ticks := by
      rw [Exact.apply, apply_sign_natAbs, hticks]
    refine ⟨p, evaluate_eq_ok_iff.2 ⟨?_, hcounted.symm, hoffset⟩, hticks, hoffset⟩
    rw [Exact.stays_cons, Exact.stays_nil, hcounted]
    exact ⟨n.inCalendar_ticks, p.inCalendar_ticks⟩

/-- What the operations that describe a target without a rounding have to do: lead from the
reference to an instant, with magnitudes that can be read. -/
def EndsAt (ops : List Operation) (n p : DateTime) : Prop :=
  evaluate ops n = .ok p ∧ p.offset = n.offset ∧ ∀ op ∈ ops, op.IsReadable

theorem LeadsTo.endsAt {ops : List Operation} (h : LeadsTo ops n t) (hoffset : t.offset = n.offset) :
    EndsAt ops n t :=
  ⟨h.1, hoffset, h.2⟩

/-- Without the rounding, the months lead into the month of the target. -/
theorem exists_endsAt_month (h : Exact.floor t.ticks .month = t.ticks) :
    ∃ p, EndsAt (counted (monthsBetween t n) .month []) n p ∧
      Exact.Residue n.ticks t.ticks p.ticks .month := by
  have hcount : (monthsBetween t n).natAbs < 10 ^ 18 := by
    have ht := And.intro t.date.year_mem t.date.month_mem
    have hn := And.intro n.date.year_mem n.date.month_mem
    rw [monthsBetween]
    omega
  rw [monthsBetween_eq] at hcount ⊢
  obtain ⟨p, heval, hticks, hoffset⟩ := exists_evaluate_counted_nil
    (fun _ => Exact.inCalendar_floor n.inCalendar_ticks (by rintro ⟨⟩))
    (Exact.inCalendar_shift_month (n := n.ticks) t.inCalendar_ticks)
  refine ⟨p, ⟨heval, hoffset, isReadable_counted hcount (List.forall_mem_nil _)⟩, ?_⟩
  rw [Exact.Residue, hticks]
  split
  · -- the reference is in the month of the target
    rename_i hzero
    have hstart : Exact.floor n.ticks .month = t.ticks :=
      (Exact.floor_month_congr (by omega)).trans h
    rw [hstart, h]
  · exact Exact.floor_shift_month h

/-- Below the week, the whole units lead toward the target. -/
theorem exists_endsAt_elapsed {unit : TimeUnit} (hdvd : unit.micros ∣ microsPerDay)
    (h : Exact.floor t.ticks unit = t.ticks) :
    ∃ p, EndsAt (elapsed (t.ticks - n.ticks) unit) n p ∧
      Exact.Residue n.ticks t.ticks p.ticks unit := by
  have hfloor : InCalendar (Exact.floor n.ticks unit) := by
    refine Exact.inCalendar_floor n.inCalendar_ticks ?_
    rintro rfl
    exact absurd hdvd (by decide)
  obtain ⟨p, heval, hticks, hoffset⟩ := exists_evaluate_counted_nil (fun _ => hfloor)
    (Exact.inCalendar_shift_wholeUnits (Exact.fixedSeconds?_of_dvd hdvd) n.inCalendar_ticks
      t.inCalendar_ticks)
  refine ⟨p, ⟨heval, hoffset, ?_⟩, Exact.residue_of_count hdvd h hticks⟩
  exact isReadable_counted (Exact.natAbs_wholeUnits_lt n.inCalendar_ticks t.inCalendar_ticks)
    (List.forall_mem_nil _)

/-! ### Precisions -/

/-- For every precision there are operations that lead near a start of it. -/
theorem exists_alignedTo_residue {unit : TimeUnit} (hunit : unit ∈ precisions)
    (h : Exact.floor t.ticks unit = t.ticks) (ht : t.offset = some .utc)
    (hn : n.offset = some .utc) :
    ∃ ops p, alignedTo t n false unit = .ok ops ∧ EndsAt ops n p ∧
      Exact.Residue n.ticks t.ticks p.ticks unit := by
  have hoffset := ht.trans hn.symm
  -- The three units below the week are described alike.
  have helapsed (hdvd : unit.micros ∣ microsPerDay) :
      ∃ ops p, (.ok (elapsed (t.instant - n.instant) unit) : Except RangeFault _) = .ok ops ∧
        EndsAt ops n p ∧ Exact.Residue n.ticks t.ticks p.ticks unit := by
    rw [DateTime.instant_of_utc ht, DateTime.instant_of_utc hn]
    obtain ⟨p, hends, hresidue⟩ := exists_endsAt_elapsed hdvd h
    exact ⟨_, p, rfl, hends, hresidue⟩
  cases unit with
  | second => exact absurd hunit (by decide)
  | year => exact ⟨_, t, rfl, (leadsTo_year h hoffset).endsAt hoffset, rfl⟩
  | week => exact ⟨_, t, rfl, (leadsTo_week h hoffset).endsAt hoffset, rfl⟩
  | month =>
    obtain ⟨p, hends, hresidue⟩ := exists_endsAt_month h
    exact ⟨_, p, rfl, hends, hresidue⟩
  | day => exact helapsed (by decide)
  | hour => exact helapsed (by decide)
  | minute => exact helapsed (by decide)

/-- Whether `unit` is the longest of the units from the day down to the minute that start at
an instant. -/
def IsCoarsest (t : DateTime) (unit : TimeUnit) : Prop :=
  unit ∈ [TimeUnit.day, .hour, .minute] ∧ t.Starts unit ∧
    ∀ v ∈ [TimeUnit.day, .hour, .minute], t.Starts v → v.micros ≤ unit.micros

/-- How near `p` is to the target `t` of a description without a rounding, which was made
relative to `n`. -/
structure Approximates (n t p : DateTime) : Prop where
  /-- The start of a year, or of a week and not of a month, is reached. -/
  reached : t.Starts .year ∨ t.Starts .week ∧ ¬ t.Starts .month → p.instant = t.instant
  /-- Of the start of a month, the month is reached. -/
  month_reached : t.Starts .month ∧ ¬ t.Starts .year →
    ∃ s, p.floor .month = .ok s ∧ s.instant = t.instant
  /-- Any other target is approached from the reference by whole units; from less than one
  unit away, the start of the unit of the reference is reached instead. -/
  approached : ¬ (t.Starts .year ∨ t.Starts .week ∧ ¬ t.Starts .month) →
    ¬ (t.Starts .month ∧ ¬ t.Starts .year) →
    ∃ unit, IsCoarsest t unit ∧
      (unit.micros ≤ (t.instant - n.instant).natAbs →
        (n.instant ≤ p.instant ∧ p.instant ≤ t.instant ∨
          t.instant ≤ p.instant ∧ p.instant ≤ n.instant) ∧
        (t.instant - p.instant).natAbs < unit.micros) ∧
      ((t.instant - n.instant).natAbs < unit.micros →
        ∃ s, n.floor unit = .ok s ∧ p.instant = s.instant ∧
          (t.instant ≤ n.instant → s.instant = t.instant) ∧
          (n.instant < t.instant → s.instant = t.instant - unit.micros))

/-- A rounding has a result wherever its exact result is a local time of some instant. -/
theorem exists_floor {p q : DateTime} {unit : TimeUnit}
    (h : Exact.floor p.ticks unit = q.ticks) :
    ∃ s, p.floor unit = .ok s ∧ s.ticks = q.ticks ∧ s.offset = p.offset := by
  obtain ⟨s, hticks, hoffset⟩ := (DateTime.exists_ticks_iff p.offset).2 (h ▸ q.inCalendar_ticks)
  exact ⟨s, (DateTime.floor_eq_ok_iff unit).2 ⟨hticks, hoffset⟩, hticks.trans h, hoffset⟩

/-- The case of a target that starts neither a month nor a week. -/
theorem approximates_of_elapsed {p : DateTime} {unit : TimeUnit}
    (hunit : IsCoarsest t unit) (hlong : ∀ v ∈ [TimeUnit.year, .month, .week], ¬ t.Starts v)
    (ht : t.offset = some .utc) (hn : n.offset = some .utc)
    (hp : p.offset = none ∨ p.offset = some .utc)
    (hfar : unit.micros ≤ (t.ticks - n.ticks).natAbs →
      (n.ticks ≤ p.ticks ∧ p.ticks ≤ t.ticks ∨ t.ticks ≤ p.ticks ∧ p.ticks ≤ n.ticks) ∧
        (t.ticks - p.ticks).natAbs < unit.micros)
    (hnear : (t.ticks - n.ticks).natAbs < unit.micros →
      p.ticks = Exact.floor n.ticks unit ∧ (t.ticks ≤ n.ticks → p.ticks = t.ticks) ∧
        (n.ticks < t.ticks → p.ticks = t.ticks - unit.micros)) :
    Approximates n t p := by
  refine ⟨?_, ?_, fun _ _ => ⟨unit, hunit, ?_, ?_⟩⟩
  · rintro (hyear | ⟨hweek, -⟩)
    · exact absurd hyear (hlong .year (by decide))
    · exact absurd hweek (hlong .week (by decide))
  · rintro ⟨hmonth, -⟩
    exact absurd hmonth (hlong .month (by decide))
  · rw [DateTime.instant_eq_ticks hp, DateTime.instant_of_utc ht, DateTime.instant_of_utc hn]
    exact hfar
  · rw [DateTime.instant_eq_ticks hp, DateTime.instant_of_utc ht, DateTime.instant_of_utc hn]
    intro hdist
    obtain ⟨hfloor, hback, hforth⟩ := hnear hdist
    obtain ⟨s, hs, hticks, hoffset⟩ := exists_floor hfloor.symm
    refine ⟨s, hs, ?_⟩
    rw [DateTime.instant_of_utc (hoffset.trans hn), hticks]
    exact ⟨rfl, hback, hforth⟩

/-- What is left over by the unit that was counted is what is left over by the units that
start at the target. -/
theorem approximates_of_residue {p : DateTime} {unit : TimeUnit}
    (hfirst : firstAligned? t precisions = .ok (some unit)) (ht : t.offset = some .utc)
    (hn : n.offset = some .utc) (hp : p.offset = none ∨ p.offset = some .utc)
    (h : Exact.Residue n.ticks t.ticks p.ticks unit) : Approximates n t p := by
  obtain ⟨hmem, hstarts⟩ := starts_of_firstAligned? hfirst
  have hlongest : ∀ v ∈ precisions, t.Starts v → v.micros ≤ unit.micros :=
    micros_le_of_firstAligned? (by decide) hfirst
  -- A unit that is longer than the one that was found does not start at the target.
  have hnot {v : TimeUnit} (hv : v ∈ precisions) (hlt : unit.micros < v.micros) : ¬ t.Starts v :=
    fun hstarts' => absurd (hlongest v hv hstarts') (Nat.not_le.2 hlt)
  have hcoarsest (hunit : unit ∈ [TimeUnit.day, .hour, .minute]) : IsCoarsest t unit :=
    ⟨hunit, hstarts, fun v hv => hlongest v (List.mem_of_mem_drop (i := 3) hv)⟩
  have hlong (hlt : unit.micros < TimeUnit.week.micros) :
      ∀ v ∈ [TimeUnit.year, .month, .week], ¬ t.Starts v := by
    have hweek : ∀ v ∈ [TimeUnit.year, .month, .week], TimeUnit.week.micros ≤ v.micros := by
      decide
    intro v hv
    exact hnot (List.mem_of_mem_take (i := 3) hv) (Nat.lt_of_lt_of_le hlt (hweek v hv))
  have hreached (hticks : p.ticks = t.ticks) : p.instant = t.instant := by
    rw [DateTime.instant_eq_ticks hp, DateTime.instant_of_utc ht, hticks]
  cases unit with
  | second => exact absurd hmem (by decide)
  | year =>
    refine ⟨fun _ => hreached h, ?_, fun hexact => absurd (.inl hstarts) hexact⟩
    rintro ⟨-, hyear⟩
    exact absurd hstarts hyear
  | week =>
    have hmonth : ¬ t.Starts .month := hnot (by decide) (by decide)
    refine ⟨fun _ => hreached h, ?_, fun hexact => absurd (.inr ⟨hstarts, hmonth⟩) hexact⟩
    rintro ⟨hstart, -⟩
    exact absurd hstart hmonth
  | month =>
    have hyear : ¬ t.Starts .year := hnot (by decide) (by decide)
    refine ⟨?_, fun _ => ?_, fun _ hmonth => absurd ⟨hstarts, hyear⟩ hmonth⟩
    · rintro (hstart | ⟨-, hmonth⟩)
      · exact absurd hstart hyear
      · exact absurd hstarts hmonth
    · obtain ⟨s, hs, hticks, hoffset⟩ := exists_floor h
      refine ⟨s, hs, ?_⟩
      rw [DateTime.instant_eq_ticks (hoffset ▸ hp), DateTime.instant_of_utc ht, hticks]
  | day => exact approximates_of_elapsed (hcoarsest (by decide)) (hlong (by decide)) ht hn hp h.1 h.2
  | hour => exact approximates_of_elapsed (hcoarsest (by decide)) (hlong (by decide)) ht hn hp h.1 h.2
  | minute =>
    exact approximates_of_elapsed (hcoarsest (by decide)) (hlong (by decide)) ht hn hp h.1 h.2

end Description

/-! ### Texts -/

/-- A description without a rounding, of an aligned target, leads near it. -/
theorem exists_describe_residue {t n : DateTime}
    (hminute : t.time.second = 0 ∧ t.time.microsecond = 0)
    (hweek : t.ticks = 0 ∨ 6 * microsPerDay ≤ t.ticks) (ht : t.offset = some .utc)
    (hn : n.offset = some .utc) :
    ∃ unit ops p, Description.firstAligned? t Description.precisions = .ok (some unit) ∧
      describe t n (.ok false) = .ok ops ∧ Description.EndsAt ops n p ∧
      Exact.Residue n.ticks t.ticks p.ticks unit := by
  obtain ⟨unit, hunit, hfirst, hfloor⟩ := Description.exists_firstAligned? hminute hweek
  obtain ⟨ops, p, hops, hends, hresidue⟩ :=
    Description.exists_alignedTo_residue hunit hfloor ht hn
  refine ⟨unit, ops, p, hfirst, ?_, hends, hresidue⟩
  rw [describe, hfirst]
  show Result.ofRange (Description.alignedTo t n false unit) = _
  rw [hops]
  rfl

/-- **How far a text without a rounding is from an aligned target.**  Without exact
descriptions, every target without seconds, at the very start of the calendar or after its
first six days, has a text against every reference, and by the same settings the text is
read as an instant that approximates the target. -/
theorem parse_format_approximates {target now t n : DateTime} {entries : List (String × Value)}
    (clock : DateTime) (hvalid : Settings.IsValid entries)
    (hexact : Settings.effectivelyOn entries .roundTripFormat = false)
    (ht : target.toUtc = .ok t) (hn : now.toUtc = .ok n)
    (hminute : t.time.second = 0 ∧ t.time.microsecond = 0)
    (hweek : t.ticks = 0 ∨ 6 * microsPerDay ≤ t.ticks) :
    ∃ text p,
      format clock (.dateTime target) (.dateTime now) (.value (.record entries)) = .ok text ∧
      parse clock (.text text) (.dateTime now) (.value (.record entries)) = .ok p ∧
      Description.Approximates n t p := by
  have htarget := (DateTime.toUtc_eq_ok_iff.1 ht).2
  have hreference := (DateTime.toUtc_eq_ok_iff.1 hn).2
  obtain ⟨unit, ops, p, hfirst, hops, ⟨heval, hoffset, hreadable⟩, hresidue⟩ :=
    exists_describe_residue hminute hweek htarget hreference
  rw [← hexact] at hops
  refine ⟨shorthand ops, Settings.view entries p, format_of_describe clock hvalid ht hn hops,
    ?_, ?_⟩
  · rw [parse_shorthand clock hvalid hn hreadable, heval]
    rfl
  · refine Description.approximates_of_residue hfirst htarget hreference ?_ ?_
    · exact offset_view entries (hoffset.trans hreference)
    · rw [ticks_view]
      exact hresidue

/-- From the last microsecond of January 2024, a month leads into February. -/
theorem parse_format_approximates_february :
    Settings.IsValid [("ROUND_TRIP_FORMAT", .bool false)] ∧
    format .january (.dateTime .february) (.dateTime .january)
      (.value (.record [("ROUND_TRIP_FORMAT", .bool false)])) = .ok "now+1M" ∧
    ∃ p,
      parse .january (.text "now+1M") (.dateTime .january)
        (.value (.record [("ROUND_TRIP_FORMAT", .bool false)])) = .ok p ∧
      Description.Approximates { DateTime.january with offset := some .utc }
        ⟨DateTime.february.date, .midnight, some .utc⟩ p := by
  have hvalid : Settings.IsValid [("ROUND_TRIP_FORMAT", .bool false)] := by
    rw [Settings.IsValid, List.forall_mem_singleton]
    exact ⟨.roundTripFormat, rfl, false, rfl⟩
  have htarget : DateTime.february.toUtc = .ok ⟨DateTime.february.date, .midnight, some .utc⟩ :=
    DateTime.toUtc_eq_ok_iff.2 ⟨by decide, rfl⟩
  have hreference : DateTime.january.toUtc = .ok { DateTime.january with offset := some .utc } :=
    DateTime.toUtc_eq_ok_iff.2 ⟨by decide, rfl⟩
  have hmonth : format .january (.dateTime .february) (.dateTime .january)
      (.value (.record [("ROUND_TRIP_FORMAT", .bool false)])) = .ok "now+1M" :=
    format_of_describe .january hvalid htarget hreference rfl
  obtain ⟨text, p, hformat, hparse, hnear⟩ :=
    parse_format_approximates .january hvalid (by decide) htarget hreference (by decide) (by decide)
  obtain rfl := Except.ok.inj (hmonth.symm.trans hformat)
  exact ⟨hvalid, hmonth, p, hparse, hnear⟩

end RelativeTime
