/-
Targets less than thirty days away.

A target within a minute is described by its distance in all units.  Over less than thirty days
the largest of them is the week, and all of them have a fixed length, so that the text leads
toward the target and misses it by a fraction of a second at most:

* `Exact.landing_of_near` : there are no years and no months to follow along the calendar, and a
  breakdown ends where its whole seconds end;
* `Exact.natAbs_sub_shift_wholeUnits` : what whole units leave of a difference;
* `exists_evaluate_breakdown_of_near` : a breakdown does not leave the calendar either;
* `parse_format_near` : the main statement.

## Design notes

A month along the calendar is not the month of thirty days that a breakdown counts, which is why
the law ends there.
-/
import RelativeTime.Proofs.Landing

namespace RelativeTime

/-! ### Whole units -/

namespace Exact

variable {n t : Int} {unit : TimeUnit}

theorem wholeUnits_eq_sign_mul (n t : Int) (unit : TimeUnit) :
    wholeUnits n t unit = (t - n).sign * ((t - n).natAbs / unit.micros : Nat) := by
  rw [wholeUnits]
  rcases Int.lt_trichotomy (t - n) 0 with hneg | hzero | hpos
  · rw [if_pos hneg, Int.sign_eq_neg_one_of_neg hneg, Int.neg_one_mul]
  · rw [hzero, Int.natAbs_zero, Nat.zero_div]
    rfl
  · rw [if_neg (by omega), Int.sign_eq_one_of_pos hpos, Int.one_mul]

theorem apply_direction_div (n t : Int) (unit : TimeUnit) :
    (direction (t - n)).apply ((t - n).natAbs / unit.micros) = wholeUnits n t unit := by
  rw [direction, wholeUnits]
  by_cases h : t - n < 0
  · rw [if_pos h, if_neg (by omega)]
    rfl
  · rw [if_neg h, if_pos (by omega)]
    rfl

/-- Whole units toward a target miss it by what is left of the difference. -/
theorem natAbs_sub_shift_wholeUnits (hfixed : unit.fixedSeconds?.isSome = true) (n t : Int) :
    (t - shift n (wholeUnits n t unit) unit).natAbs = (t - n).natAbs % unit.micros := by
  have hdiv := Nat.mod_add_div' (t - n).natAbs unit.micros
  rw [shift_of_fixed hfixed, wholeUnits]
  split
  · rw [Int.neg_mul, ← Int.natCast_mul]
    omega
  · rw [← Int.natCast_mul]
    omega

/-- Over less than thirty days, a breakdown ends after its whole seconds. -/
theorem landing_of_near (h : (t - n).natAbs < 30 * microsPerDay) :
    landing n (t - n) = shift n (wholeUnits n t .second) .second := by
  have hmonth : (t - n).natAbs < TimeUnit.month.micros := h
  have hyear : (t - n).natAbs < TimeUnit.year.micros := Nat.lt_trans hmonth (by decide)
  -- No year and no month is taken, and the rest is all of the distance.
  simp only [landing, Nat.div_eq_of_lt hyear, Nat.mod_eq_of_lt hyear, Nat.div_eq_of_lt hmonth,
    Nat.mod_eq_of_lt hmonth, Sign.apply_zero, shift_zero]
  rw [shift_of_fixed rfl, ← apply_direction_div, ← Sign.apply_mul]
  rfl

end Exact

/-- Near a target, its breakdown can be evaluated, however close both are to an end of the
calendar. -/
theorem exists_evaluate_breakdown_of_near {t n : DateTime}
    (hnear : (t.ticks - n.ticks).natAbs < 30 * microsPerDay) :
    ∃ p, evaluate (Description.breakdown (t.ticks - n.ticks)) n = .ok p ∧
      p.ticks = Exact.shift n.ticks (Exact.wholeUnits n.ticks t.ticks .second) .second ∧
      p.offset = n.offset := by
  have hlanding := Exact.landing_of_near hnear
  have hstays : Exact.Stays (Description.breakdown (t.ticks - n.ticks)) n.ticks := by
    rw [Exact.stays_breakdown_iff n.inCalendar_ticks, hlanding]
    exact Exact.inCalendar_shift_wholeUnits rfl n.inCalendar_ticks t.inCalendar_ticks
  obtain ⟨p, heval, hticks, hoffset⟩ := exists_evaluate_eq_ok hstays
  rw [Exact.run_breakdown, hlanding] at hticks
  exact ⟨p, heval, hticks, hoffset⟩

/-! ### Texts -/

/-- **A text for a near target is read as that target to the second.**  By valid settings, a
target within a minute, after the first six days of the calendar and less than thirty days
from the reference, has a text, and the text is read as the reference moved toward the target
by the whole seconds between them.  It is then less than a second away from the target, not
beyond it, and at the target if the seconds between them are whole. -/
theorem parse_format_near {target now t n : DateTime} {entries : List (String × Value)}
    (clock : DateTime) (hvalid : Settings.IsValid entries)
    (ht : target.toUtc = .ok t) (hn : now.toUtc = .ok n)
    (hminute : ¬ (t.time.second = 0 ∧ t.time.microsecond = 0))
    (hweek : 6 * microsPerDay ≤ t.ticks)
    (hnear : (t.ticks - n.ticks).natAbs < 30 * microsPerDay) :
    ∃ text p,
      format clock (.dateTime target) (.dateTime now) (.value (.record entries)) = .ok text ∧
      parse clock (.text text) (.dateTime now) (.value (.record entries)) =
        .ok (if Settings.effectivelyOn entries .timezoneAware then p else p.withoutOffset) ∧
      p.offset = some .utc ∧
      p.ticks = n.ticks +
        (t.ticks - n.ticks).sign * ((t.ticks - n.ticks).natAbs / 1000000 * 1000000 : Nat) ∧
      (n.ticks ≤ p.ticks ∧ p.ticks ≤ t.ticks ∨ t.ticks ≤ p.ticks ∧ p.ticks ≤ n.ticks) ∧
      (t.ticks - p.ticks).natAbs < 1000000 ∧
      (p = t ↔ 1000000 ∣ t.ticks - n.ticks) := by
  have htarget := (DateTime.toUtc_eq_ok_iff.1 ht).2
  have hreference := (DateTime.toUtc_eq_ok_iff.1 hn).2
  have hdescribe := describe_eq_breakdown hminute (.inr hweek) htarget hreference
    (.ok (Settings.effectivelyOn entries .roundTripFormat))
  have hreadable := Description.isReadable_breakdown
    (Exact.natAbs_sub_lt t.inCalendar_ticks n.inCalendar_ticks)
  obtain ⟨p, heval, hticks, hoffset⟩ := exists_evaluate_breakdown_of_near hnear
  have hfixed : TimeUnit.second.fixedSeconds?.isSome = true := rfl
  have hmem := Exact.shift_wholeUnits_mem hfixed n.ticks t.ticks
  have hrest := Exact.natAbs_sub_shift_wholeUnits hfixed n.ticks t.ticks
  rw [← hticks] at hmem hrest
  rw [Exact.shift_of_fixed hfixed, Exact.wholeUnits_eq_sign_mul] at hticks
  have hsecond : TimeUnit.second.micros = 1000000 := rfl
  rw [hsecond] at hticks hrest
  refine ⟨_, p, format_of_describe clock hvalid ht hn hdescribe, ?_, hoffset.trans hreference,
    ?_, hmem, ?_, ?_⟩
  · rw [parse_shorthand clock hvalid hn hreadable, heval]
    rfl
  · rw [hticks, Int.mul_assoc, ← Int.natCast_mul]
  · rw [hrest]
    exact Nat.mod_lt _ (by decide)
  · -- nothing is left where the difference is whole
    rw [DateTime.eq_iff_ticks]
    constructor
    · rintro ⟨hsame, -⟩
      omega
    · intro hwhole
      exact ⟨by omega, (hoffset.trans hreference).trans htarget.symm⟩

/-- A microsecond after the first Sunday of the calendar. -/
def DateTime.afterFirstSunday : DateTime := .ofTicks (6 * microsPerDay + 1) none (by decide)

/-- Thirty days after that Sunday. -/
def DateTime.thirtyDaysLater : DateTime := .ofTicks (36 * microsPerDay) none (by decide)

/-- A microsecond is missing to thirty days, and the text leads back to the second after the
target. -/
theorem parse_format_near_firstSunday :
    Settings.IsValid [] ∧
    ¬ (DateTime.afterFirstSunday.time.second = 0 ∧
      DateTime.afterFirstSunday.time.microsecond = 0) ∧
    (DateTime.afterFirstSunday.ticks - DateTime.thirtyDaysLater.ticks).natAbs <
      30 * microsPerDay ∧
    format .start (.dateTime .afterFirstSunday) (.dateTime .thirtyDaysLater)
      (.value (.record [])) = .ok "now-4w-1d-23h-59m-59s" ∧
    ∃ p, parse .start (.text "now-4w-1d-23h-59m-59s") (.dateTime .thirtyDaysLater)
        (.value (.record [])) = .ok p ∧
      p.offset = some .utc ∧ p.ticks = 6 * microsPerDay + 1000000 := by
  have hvalid : Settings.IsValid [] := List.forall_mem_nil _
  have ht := DateTime.toUtc_of_offset_none (t := .afterFirstSunday) rfl
  have hn := DateTime.toUtc_of_offset_none (t := .thirtyDaysLater) rfl
  have hminute : ¬ (DateTime.afterFirstSunday.time.second = 0 ∧
      DateTime.afterFirstSunday.time.microsecond = 0) := by
    decide
  have htext : shorthand (Description.breakdown
      (DateTime.afterFirstSunday.ticks - DateTime.thirtyDaysLater.ticks)) =
        "now-4w-1d-23h-59m-59s" := by
    decide
  obtain ⟨text, p, hformat, hparse, hoffset, hticks, -⟩ :=
    parse_format_near .start hvalid ht hn hminute (by decide) (by decide)
  have hdescribed := format_of_describe .start hvalid ht hn
    (describe_eq_breakdown (by decide) (by decide) rfl rfl _)
  obtain rfl := Except.ok.inj (hdescribed.symm.trans hformat)
  rw [← htext]
  exact ⟨hvalid, hminute, by decide, hformat, p, hparse, hoffset, hticks.trans (by decide)⟩

end RelativeTime
