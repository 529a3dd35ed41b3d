/-
Where a breakdown lands.

A target within a minute is described by its distance in all units, with 365 days to a year
and 30 to a month.  Reading the text follows the calendar, in which years and months are
longer, so the text leads to the target or beyond it, as seen from the reference, and close
to the ends of the calendar it may lead out of it:

* `leads_run` : shifts in one direction lead in that direction;
* `stays_iff` : so they stay in the calendar if their end is in it;
* `run_breakdown` : the end of a breakdown, in closed form;
* `landing_leads`, `inCalendar_landing` : the end is less than seven years beyond the target,
  and so in the calendar if the target is that far from both ends;
* `exists_describe_readable` : the operations of any description, and when they fail;
* `parse_ok_iff_of_format` : the main statement.

## Design notes

`Exact.landing` takes three steps, of which the last puts together all units of fixed length.
What is less than a second is lost.  Both directions are treated alike, by `Sign.Leads`; only
the bounds on a single shift know them apart.
-/
import RelativeTime.Proofs.Composition
import RelativeTime.Proofs.ExactOrder
import RelativeTime.Proofs.Residue

namespace RelativeTime

/-! ### The parts of a number -/

namespace Description

/-- An amount of a unit, unless it is zero. -/
def leading (amount : Nat) (unit : TimeUnit) : List (Nat × TimeUnit) :=
  if amount = 0 then [] else [(amount, unit)]

theorem mem_leading {amount : Nat} {unit : TimeUnit} {p : Nat × TimeUnit}
    (h : p ∈ leading amount unit) : p = (amount, unit) ∧ 0 < amount := by
  rw [leading] at h
  split at h
  · cases h
  · rename_i hne
    exact ⟨List.mem_singleton.1 h, Nat.pos_of_ne_zero hne⟩

/-- A unit that is left out takes nothing from the rest. -/
theorem parts_cons (unit : TimeUnit) (units : List TimeUnit) (rest : Nat) :
    parts (unit :: units) rest =
      leading (rest / unit.micros) unit ++ parts units (rest % unit.micros) := by
  rw [parts, leading]
  split
  · rename_i hzero
    have hmod := Nat.mod_add_div rest unit.micros
    rw [hzero, Nat.mul_zero, Nat.add_zero] at hmod
    rw [hmod, List.nil_append]
  · rfl

end Description

/-! ### Shifts in one direction -/

namespace Sign

/-- One local time lies in the direction of a sign from another, or is the same. -/
def Leads : Sign → Int → Int → Prop
  | plus, a, b => a ≤ b
  | minus, a, b => b ≤ a

theorem leads_refl (sign : Sign) (a : Int) : sign.Leads a a := by
  cases sign with
  | plus => exact Int.le_refl a
  | minus => exact Int.le_refl a

theorem Leads.trans {sign : Sign} {a b c : Int} (h : sign.Leads a b) (h' : sign.Leads b c) :
    sign.Leads a c := by
  cases sign with
  | plus => exact Int.le_trans h h'
  | minus => exact Int.le_trans h' h

/-- What lies between two local times of the calendar is in the calendar. -/
theorem Leads.inCalendar {sign : Sign} {a b c : Int} (h : sign.Leads a b) (h' : sign.Leads b c)
    (ha : InCalendar a) (hc : InCalendar c) : InCalendar b := by
  rw [InCalendar] at *
  cases sign with
  | plus => exact ⟨Int.le_trans ha.1 h, Int.lt_of_le_of_lt h' hc.2⟩
  | minus => exact ⟨Int.le_trans hc.1 h', Int.lt_of_le_of_lt h ha.2⟩

theorem apply_zero (sign : Sign) : sign.apply 0 = 0 := by
  cases sign <;> rfl

theorem apply_add (sign : Sign) (a b : Nat) : sign.apply (a + b) = sign.apply a + sign.apply b := by
  cases sign with
  | plus => exact Int.natCast_add a b
  | minus =>
    simp only [apply]
    omega

theorem apply_mul (sign : Sign) (a b : Nat) : sign.apply (a * b) = sign.apply a * b := by
  cases sign with
  | plus => exact Int.natCast_mul a b
  | minus =>
    simp only [apply]
    rw [Int.natCast_mul, Int.neg_mul]

end Sign

/-- Shifts by some amounts, all in the direction of a sign. -/
def shiftsBy (sign : Sign) (amounts : List (Nat × TimeUnit)) : List Operation :=
  amounts.map fun p => .shift sign p.1 p.2

namespace Exact

variable {n : Int} {sign : Sign} {amounts : List (Nat × TimeUnit)}

theorem leads_shift (n : Int) (sign : Sign) (k : Nat) (unit : TimeUnit) :
    sign.Leads n (shift n (sign.apply k) unit) := by
  cases sign with
  | plus => exact le_shift (Int.natCast_nonneg k) unit
  | minus => exact shift_le (Int.neg_nonpos_of_nonneg (Int.natCast_nonneg k)) unit

theorem leads_run (n : Int) : sign.Leads n (run (shiftsBy sign amounts) n) := by
  induction amounts generalizing n with
  | nil => exact sign.leads_refl n
  | cons p amounts ih => exact (leads_shift n sign p.1 p.2).trans (ih _)

/-- Shifts in one direction stay in the calendar if their end is in it. -/
theorem stays_iff (hn : InCalendar n) :
    Stays (shiftsBy sign amounts) n ↔ InCalendar (run (shiftsBy sign amounts) n) := by
  induction amounts generalizing n with
  | nil => exact stays_nil
  | cons p amounts ih =>
    -- The first shift leads no farther than all of them.
    have hstep := leads_shift n sign p.1 p.2
    refine stays_cons.trans ⟨?_, ?_⟩
    · rintro ⟨-, hrest⟩
      exact (ih (hrest 0 (Nat.zero_le _))).1 hrest
    · intro hend
      exact ⟨hn, (ih (hstep.inCalendar (leads_run _) hn hend)).2 hend⟩

/-! ### The end of a breakdown -/

/-- What whole units leave of `rest`, each taken from what the larger ones leave. -/
def leftover (units : List TimeUnit) (rest : Nat) : Nat :=
  units.foldl (fun r unit => r % unit.micros) rest

theorem leftover_le (units : List TimeUnit) (rest : Nat) : leftover units rest ≤ rest := by
  induction units generalizing rest with
  | nil => exact Nat.le_refl rest
  | cons unit units ih => exact Nat.le_trans (ih _) (Nat.mod_le rest unit.micros)

/-- A unit of a breakdown is a shift also where it is left out, and then by nothing. -/
theorem run_parts_cons (n : Int) (sign : Sign) (unit : TimeUnit) (units : List TimeUnit)
    (rest : Nat) :
    run (shiftsBy sign (Description.parts (unit :: units) rest)) n =
      run (shiftsBy sign (Description.parts units (rest % unit.micros)))
        (shift n (sign.apply (rest / unit.micros)) unit) := by
  rw [Description.parts_cons, Description.leading]
  split
  · rename_i hzero
    rw [hzero, sign.apply_zero, shift_zero, List.nil_append]
  · rfl

/-- Units of fixed length add up to all but what they leave over. -/
theorem run_parts_of_fixed {units : List TimeUnit}
    (hfixed : ∀ unit ∈ units, unit.fixedSeconds?.isSome = true) (n : Int) (rest : Nat) :
    run (shiftsBy sign (Description.parts units rest)) n =
      n + sign.apply (rest - leftover units rest) := by
  induction units generalizing n rest with
  | nil =>
    rw [leftover, List.foldl_nil, Nat.sub_self, sign.apply_zero, Int.add_zero]
    rfl
  | cons unit units ih =>
    -- What the first unit takes and what the others take of the rest make one amount.
    obtain ⟨hunit, hunits⟩ := List.forall_mem_cons.1 hfixed
    have hle := leftover_le units (rest % unit.micros)
    have hdiv := Nat.mod_add_div rest unit.micros
    rw [Nat.mul_comm] at hdiv
    rw [run_parts_cons, ih hunits, shift_of_fixed hunit, ← sign.apply_mul, Int.add_assoc,
      ← sign.apply_add]
    rw [show leftover (unit :: units) rest = leftover units (rest % unit.micros) from rfl]
    congr 2
    omega

/-- The sign of a difference as a breakdown writes it. -/
def direction (difference : Int) : Sign := if 0 ≤ difference then .plus else .minus

theorem apply_direction_natAbs (difference : Int) :
    (direction difference).apply difference.natAbs = difference := by
  rw [direction]
  by_cases h : 0 ≤ difference
  · rw [if_pos h]
    exact Int.natAbs_of_nonneg h
  · rw [if_neg h, Sign.apply]
    omega

/-- Where `n` is led by a difference in all units: by its whole years of 365 days along the
calendar, then by the whole months of 30 days in the rest, and then by the whole seconds in
what is left. -/
def landing (n difference : Int) : Int :=
  let sign := direction difference
  let rest := difference.natAbs % TimeUnit.year.micros
  shift (shift n (sign.apply (difference.natAbs / TimeUnit.year.micros)) .year)
      (sign.apply (rest / TimeUnit.month.micros)) .month +
    sign.apply (rest % TimeUnit.month.micros / 1000000 * 1000000)

theorem breakdown_eq_shiftsBy (difference : Int) :
    Description.breakdown difference =
      shiftsBy (direction difference)
        (Description.parts Description.breakdownUnits difference.natAbs) := rfl

theorem run_breakdown (n difference : Int) :
    run (Description.breakdown difference) n = landing n difference := by
  have hleft (rest : Nat) :
      rest - leftover [.week, .day, .hour, .minute, .second] rest = rest / 1000000 * 1000000 := by
    simp only [leftover, List.foldl, TimeUnit.micros, TimeUnit.approximateSeconds]
    omega
  rw [breakdown_eq_shiftsBy, Description.breakdownUnits, run_parts_cons, run_parts_cons,
    run_parts_of_fixed (by decide), hleft, landing]

/-- A breakdown can be evaluated if its end is in the calendar. -/
theorem stays_breakdown_iff (hn : InCalendar n) (difference : Int) :
    Stays (Description.breakdown difference) n ↔ InCalendar (landing n difference) := by
  rw [← run_breakdown]
  exact stays_iff hn

theorem leads_landing (n difference : Int) :
    (direction difference).Leads n (landing n difference) := by
  rw [← run_breakdown]
  exact leads_run n

/-! ### Overshoot -/

theorem shift_month_leads (n : Int) (sign : Sign) (k : Nat) :
    sign.Leads (shift n (sign.apply k) .month)
      (n + sign.apply (k * TimeUnit.month.micros + (k + 3) * microsPerDay)) := by
  cases sign with
  | plus => exact shift_month_le n k
  | minus => exact Int.sub_right_le_of_le_add (le_shift_month n k)

theorem shift_year_leads (n : Int) (sign : Sign) (k : Nat) :
    sign.Leads (shift n (sign.apply k) .year)
      (n + sign.apply (k * TimeUnit.year.micros + (97 * k / 400 + 7) * microsPerDay)) := by
  cases sign with
  | plus => exact shift_year_le n k
  | minus => exact Int.sub_right_le_of_le_add (le_shift_year n k)

/-- Years and months of the calendar exceed those of the distance by less than seven years. -/
theorem overshoot_le {distance : Nat} (h : distance < DateTime.tickCount) :
    distance / TimeUnit.year.micros * TimeUnit.year.micros +
          (97 * (distance / TimeUnit.year.micros) / 400 + 7) * microsPerDay +
        (distance % TimeUnit.year.micros / TimeUnit.month.micros * TimeUnit.month.micros +
          (distance % TimeUnit.year.micros / TimeUnit.month.micros + 3) * microsPerDay) +
        distance % TimeUnit.year.micros % TimeUnit.month.micros / 1000000 * 1000000 ≤
      distance + 2555 * microsPerDay := by
  simp only [DateTime.tickCount, Date.dayCount, TimeUnit.micros, TimeUnit.approximateSeconds,
    microsPerDay] at *
  omega

/-- A breakdown ends less than seven years beyond the target. -/
theorem landing_leads {t : Int} (h : (t - n).natAbs < DateTime.tickCount) :
    (direction (t - n)).Leads (landing n (t - n))
      (t + (direction (t - n)).apply (2555 * microsPerDay)) := by
  -- Years and months lead some days too far each, and the seconds do not.
  have hyear := shift_year_leads n (direction (t - n)) ((t - n).natAbs / TimeUnit.year.micros)
  have hmonth := shift_month_leads
    (shift n ((direction (t - n)).apply ((t - n).natAbs / TimeUnit.year.micros)) .year)
    (direction (t - n)) ((t - n).natAbs % TimeUnit.year.micros / TimeUnit.month.micros)
  have hover := overshoot_le h
  have hdistance := apply_direction_natAbs (t - n)
  rw [landing]
  cases hsign : direction (t - n) with
  | plus =>
    simp only [hsign, Sign.Leads, Sign.apply] at *
    omega
  | minus =>
    simp only [hsign, Sign.Leads, Sign.apply] at *
    omega

/-- A target that is seven years or more from both ends of the calendar is not missed by so
much that the end of a breakdown leaves the calendar. -/
theorem inCalendar_landing {t : Int} (hn : InCalendar n)
    (ht : InCalendar (t - 2555 * microsPerDay) ∧ InCalendar (t + 2555 * microsPerDay)) :
    InCalendar (landing n (t - n)) := by
  have hdistance : (t - n).natAbs < DateTime.tickCount := by
    obtain ⟨⟨hstart, -⟩, -, hend⟩ := ht
    obtain ⟨hn, hn'⟩ := hn
    rw [DateTime.tickCount, Date.dayCount, microsPerDay] at *
    omega
  -- The end lies between the reference and seven years beyond the target.
  refine (leads_landing n (t - n)).inCalendar (landing_leads hdistance) hn ?_
  cases direction (t - n) with
  | plus => exact ht.2
  | minus => exact ht.1

end Exact

/-- The years 8 to 9992 are as far from both ends. -/
theorem DateTime.inCalendar_of_year {t : DateTime} (hfirst : 8 ≤ t.date.year)
    (hlast : t.date.year ≤ 9992) :
    InCalendar (t.ticks - 2555 * microsPerDay) ∧ InCalendar (t.ticks + 2555 * microsPerDay) := by
  obtain ⟨hstart, hend⟩ := Exact.dayNumber_bounds t.date.month_mem t.date.day_mem
  have hdays : 2555 ≤ t.date.dayNumber ∧ t.date.dayNumber < 3652059 - 2555 := by
    have hfirst := daysBeforeYear_mono hfirst
    have hlast := daysBeforeYear_mono (show t.date.year + 1 ≤ 9993 by omega)
    rw [show daysBeforeYear 8 = 2556 from rfl] at hfirst
    rw [show daysBeforeYear 9993 = 3649503 from rfl] at hlast
    rw [show t.date.dayNumber = Exact.dayNumber t.date.year t.date.month t.date.day from rfl]
    omega
  have htime := t.time.micros_lt
  simp only [InCalendar, DateTime.tickCount, Date.dayCount, DateTime.ticks]
  rw [microsPerDay] at *
  omega

/-! ### Texts -/

namespace Description

theorem le_of_mem_parts {units : List TimeUnit} {rest : Nat} {p : Nat × TimeUnit}
    (h : p ∈ parts units rest) : p.1 ≤ rest := by
  induction units generalizing rest with
  | nil => exact absurd h List.not_mem_nil
  | cons unit units ih =>
    rw [parts_cons] at h
    rcases List.mem_append.1 h with h | h
    · obtain ⟨rfl, -⟩ := mem_leading h
      exact Nat.div_le_self rest unit.micros
    · exact Nat.le_trans (ih h) (Nat.mod_le rest unit.micros)

theorem isReadable_breakdown {difference : Int} (h : difference.natAbs < 10 ^ 18) :
    ∀ op ∈ breakdown difference, op.IsReadable := by
  intro op hop
  obtain ⟨p, hp, rfl⟩ := List.mem_map.1 hop
  exact isReadable_shift (Nat.lt_of_le_of_lt (le_of_mem_parts hp) h)

end Description

variable {t n : DateTime}

/-- A target within a minute is described by its distance. -/
theorem describe_eq_breakdown (hminute : ¬ (t.time.second = 0 ∧ t.time.microsecond = 0))
    (hweek : t.ticks = 0 ∨ 6 * microsPerDay ≤ t.ticks) (ht : t.offset = some .utc)
    (hn : n.offset = some .utc) (exact : Result Bool) :
    describe t n exact = .ok (Description.breakdown (t.ticks - n.ticks)) := by
  rw [describe, Description.firstAligned?_eq_none hminute hweek, DateTime.instant_of_utc ht,
    DateTime.instant_of_utc hn]

/-- Any other target with a description is led to from any reference, or near it. -/
theorem exists_describe_endsAt (hminute : t.time.second = 0 ∧ t.time.microsecond = 0)
    (hweek : t.ticks = 0 ∨ 6 * microsPerDay ≤ t.ticks) (ht : t.offset = some .utc)
    (hn : n.offset = some .utc) (exact : Bool) :
    ∃ ops p, describe t n (.ok exact) = .ok ops ∧ Description.EndsAt ops n p := by
  cases exact with
  | true =>
    obtain ⟨ops, hops, hleads⟩ := exists_describe_leadsTo hminute hweek ht hn
    exact ⟨ops, t, hops, hleads.endsAt (ht.trans hn.symm)⟩
  | false =>
    obtain ⟨-, ops, p, -, hops, hends, -⟩ := exists_describe_residue hminute hweek ht hn
    exact ⟨ops, p, hops, hends⟩

/-- A breakdown of the difference to an instant can be evaluated if its end is in the
calendar. -/
theorem exists_evaluate_breakdown_iff (n : DateTime) (difference : Int) :
    (∃ p, evaluate (Description.breakdown difference) n = .ok p) ↔
      InCalendar (Exact.landing n.ticks difference) := by
  rw [← Exact.stays_breakdown_iff n.inCalendar_ticks]
  constructor
  · rintro ⟨p, heval⟩
    exact (evaluate_eq_ok_iff.1 heval).1
  · intro hstays
    obtain ⟨p, heval, -⟩ := exists_evaluate_eq_ok hstays
    exact ⟨p, heval⟩

/-- The operations that describe a target can be read, and fail at most where a breakdown
ends outside the calendar. -/
theorem exists_describe_readable (hweek : t.ticks = 0 ∨ 6 * microsPerDay ≤ t.ticks)
    (ht : t.offset = some .utc) (hn : n.offset = some .utc) (exact : Bool) :
    ∃ ops, describe t n (.ok exact) = .ok ops ∧ (∀ op ∈ ops, op.IsReadable) ∧
      ((∃ p, evaluate ops n = .ok p) ↔ (t.time.second = 0 ∧ t.time.microsecond = 0) ∨
        InCalendar (Exact.landing n.ticks (t.ticks - n.ticks))) := by
  by_cases hminute : t.time.second = 0 ∧ t.time.microsecond = 0
  · obtain ⟨ops, p, hops, heval, -, hreadable⟩ := exists_describe_endsAt hminute hweek ht hn exact
    exact ⟨ops, hops, hreadable, fun _ => .inl hminute, fun _ => ⟨p, heval⟩⟩
  · have hdistance := Exact.natAbs_sub_lt t.inCalendar_ticks n.inCalendar_ticks
    refine ⟨_, describe_eq_breakdown hminute hweek ht hn _,
      Description.isReadable_breakdown hdistance, ?_⟩
    rw [exists_evaluate_breakdown_iff]
    constructor
    · exact .inr
    · rintro (hzero | hlanding)
      · exact absurd hzero hminute
      · exact hlanding

/-- **What is described can be read, unless it leaves the calendar.**  By valid settings, a
text is read by the same settings without any fault but that of an operation that leaves the
calendar.  There is none for a target without seconds, and for any other there is none
exactly if the whole years, months and seconds of the distance end in the calendar, as they
do for a target in the years 8 to 9992. -/
theorem parse_ok_iff_of_format {target now : DateTime} {entries : List (String × Value)}
    {text : String} (clock : DateTime) (hvalid : Settings.IsValid entries)
    (hformat : format clock (.dateTime target) (.dateTime now) (.value (.record entries)) =
      .ok text) :
    ∃ t n, target.toUtc = .ok t ∧ now.toUtc = .ok n ∧
      ((∃ p, parse clock (.text text) (.dateTime now) (.value (.record entries)) = .ok p) ∨
        ∃ token, parse clock (.text text) (.dateTime now) (.value (.record entries)) =
          .error (.outOfRange token)) ∧
      ((∃ p, parse clock (.text text) (.dateTime now) (.value (.record entries)) = .ok p) ↔
        (t.time.second = 0 ∧ t.time.microsecond = 0) ∨
          InCalendar (Exact.landing n.ticks (t.ticks - n.ticks))) ∧
      (8 ≤ t.date.year ∧ t.date.year ≤ 9992 →
        ∃ p, parse clock (.text text) (.dateTime now) (.value (.record entries)) = .ok p) := by
  obtain ⟨t, n, ht, hn⟩ := exists_toUtc_of_format hformat
  have htarget := (DateTime.toUtc_eq_ok_iff.1 ht).2
  have hreference := (DateTime.toUtc_eq_ok_iff.1 hn).2
  refine ⟨t, n, ht, hn, ?_⟩
  -- The first week has no texts.
  have hweek : t.ticks = 0 ∨ 6 * microsPerDay ≤ t.ticks := by
    by_contra hfirst
    rw [format_eq_error clock hvalid ht hn hfirst] at hformat
    cases hformat
  obtain ⟨ops, hops, hreadable, heval⟩ := exists_describe_readable hweek htarget hreference
    (Settings.effectivelyOn entries .roundTripFormat)
  rw [format_of_describe clock hvalid ht hn hops] at hformat
  obtain rfl := Except.ok.inj hformat
  have hextract := extract_shorthand hreadable (Settings.effectivelyOn entries .strictParsing)
  have hparse := exists_parse_eq_ok_iff clock hvalid hn hextract
  refine ⟨parse_ok_or_outOfRange hvalid hn hextract, hparse.trans heval, ?_⟩
  -- Far from both ends, no breakdown leads out of the calendar.
  rintro ⟨hfirst, hlast⟩
  refine (hparse.trans heval).2 (.inr ?_)
  exact Exact.inCalendar_landing n.inCalendar_ticks (t.inCalendar_of_year hfirst hlast)

/-- The last microsecond of January 2024 is described from the start of the calendar, and the
text leads to June 2025. -/
theorem parse_ok_iff_of_format_january :
    Settings.IsValid [] ∧
    format .start (.dateTime .january) (.dateTime .start) (.value (.record [])) =
      .ok "now+2024y+5M+5d+23h+59m+59s" ∧
    ∃ p, parse .start (.text "now+2024y+5M+5d+23h+59m+59s") (.dateTime .start)
      (.value (.record [])) = .ok p := by
  have hvalid : Settings.IsValid [] := List.forall_mem_nil _
  have ht : DateTime.january.toUtc = .ok { DateTime.january with offset := some .utc } :=
    DateTime.toUtc_eq_ok_iff.2 ⟨by decide, rfl⟩
  have hn : DateTime.start.toUtc = .ok { DateTime.start with offset := some .utc } :=
    DateTime.toUtc_eq_ok_iff.2 ⟨by decide, rfl⟩
  have hformat := format_of_describe .start hvalid ht hn
    (describe_eq_breakdown (by decide) (by decide) rfl rfl _)
  have htext : shorthand (Description.breakdown
      (DateTime.january.ticks - DateTime.start.ticks)) = "now+2024y+5M+5d+23h+59m+59s" := by
    decide
  rw [← htext]
  obtain ⟨t, n, ht', -, -, -, hyears⟩ := parse_ok_iff_of_format .start hvalid hformat
  obtain rfl := Except.ok.inj (ht.symm.trans ht')
  exact ⟨hvalid, hformat, hyears (by decide)⟩

/-- The start of the last month of the calendar. -/
def DateTime.lastMonth : DateTime := .ofTicks (tickCount - 31 * microsPerDay) none (by decide)

/-- The distance over the last month, all but a second of 31 days, is described as a month and
most of a day.  The text leaves the calendar with the month. -/
theorem parse_format_lastSecond :
    Settings.IsValid [] ∧
    format .start (.dateTime .lastSecond) (.dateTime .lastMonth) (.value (.record [])) =
      .ok "now+1M+23h+59m+59s" ∧
    parse .start (.text "now+1M+23h+59m+59s") (.dateTime .lastMonth) (.value (.record [])) =
      .error (.outOfRange "+1M") := by
  have hvalid : Settings.IsValid [] := List.forall_mem_nil _
  have ht : DateTime.lastSecond.toUtc = .ok { DateTime.lastSecond with offset := some .utc } :=
    DateTime.toUtc_eq_ok_iff.2 ⟨by decide, rfl⟩
  have hn : DateTime.lastMonth.toUtc = .ok { DateTime.lastMonth with offset := some .utc } :=
    DateTime.toUtc_eq_ok_iff.2 ⟨by decide, rfl⟩
  have htext : shorthand (Description.breakdown
      (DateTime.lastSecond.ticks - DateTime.lastMonth.ticks)) = "now+1M+23h+59m+59s" := by
    decide
  refine ⟨hvalid, ?_, ?_⟩
  · rw [← htext]
    exact format_of_describe .start hvalid ht hn
      (describe_eq_breakdown (by decide) (by decide) rfl rfl _)
  · rw [← htext, parse_shorthand .start hvalid hn (Description.isReadable_breakdown (by decide))]
    rfl

end RelativeTime
