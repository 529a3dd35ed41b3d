/-
Precision and sign of a text.

With exact descriptions, the text for a target ends in a rounding just if the target has no
seconds, and the unit of the rounding is the first one that starts at the target.  Which way the
text leads can be read off its sign:

* `signsIn_shorthandChars`, `slash_mem_shorthandChars_iff` : signs and slashes of a text are those
  of its operations;
* `Description.precision?` : the unit of the rounding, which depends on the target alone;
* `Description.Counts` : the rounding alone, or a count toward the target before it;
* `Description.counts_of_alignedTo` : a description of an aligned target is one or the other;
* `format_precision_and_sign` : the main statement.

## Design notes

The count is a difference of years, of months, of days or of elapsed units.  Each of them grows
with the target and is zero just if the reference is rounded to the target, but for the week,
where it is zero on the day of the target.
-/
import RelativeTime.Proofs.Landing
import RelativeTime.Proofs.TokenFaults
import RelativeTime.Proofs.UnitBoundaries
import RelativeTime.Proofs.ZoneIndependence

namespace RelativeTime

/-! ### Signs and slashes -/

/-- The signs in a text, in order. -/
def signsIn (text : List Char) : List Sign := text.filterMap Sign.ofChar?

/-- The sign of an operation, if it is a shift. -/
def Operation.sign? : Operation → Option Sign
  | shift sign _ _ => some sign
  | round _ => none

theorem signsIn_append (s t : List Char) : signsIn (s ++ t) = signsIn s ++ signsIn t :=
  List.filterMap_append

theorem signsIn_natText (n : Nat) : signsIn (natText n) = [] := by
  rw [signsIn, List.filterMap_eq_nil_iff]
  intro c hc
  exact ofChar?_of_isDigit (isDigit_of_mem_natText hc)

theorem signsIn_code (unit : TimeUnit) : signsIn [unit.code] = [] := by
  cases unit <;> rfl

theorem signsIn_chars (op : Operation) : signsIn op.chars = op.sign?.toList := by
  cases op with
  | shift sign magnitude unit =>
    have hsign : signsIn [sign.char] = [sign] := by
      cases sign <;> rfl
    rw [Operation.chars, List.cons_append, ← List.singleton_append, signsIn_append, signsIn_append,
      hsign, signsIn_natText, signsIn_code]
    rfl
  | round unit => cases unit <;> rfl

/-- The signs of a text are those of its shifts. -/
theorem signsIn_shorthandChars (ops : List Operation) :
    signsIn (shorthandChars ops) = ops.filterMap Operation.sign? := by
  have hops : signsIn (ops.flatMap Operation.chars) = ops.filterMap Operation.sign? := by
    induction ops with
    | nil => rfl
    | cons op ops ih =>
      rw [List.flatMap_cons, signsIn_append, signsIn_chars, ih]
      cases op <;> rfl
  rw [shorthandChars, signsIn_append, hops]
  rfl

theorem slash_mem_chars_iff {op : Operation} : '/' ∈ op.chars ↔ ∃ unit, op = .round unit := by
  cases op with
  | round unit => simp [Operation.chars]
  | shift sign magnitude unit =>
    have hsign : '/' ≠ sign.char := by
      cases sign <;> decide
    have hcode : '/' ≠ unit.code := by
      cases unit <;> decide
    have hdigits : '/' ∉ natText magnitude := by
      intro h
      exact absurd (isDigit_of_mem_natText h) (by decide)
    simp [Operation.chars, hsign, hcode, hdigits]

/-- The slashes of a text are those of its roundings. -/
theorem slash_mem_shorthandChars_iff {ops : List Operation} :
    '/' ∈ shorthandChars ops ↔ ∃ unit, .round unit ∈ ops := by
  have hanchor : '/' ∉ anchor := by decide
  rw [shorthandChars, List.mem_append, List.mem_flatMap]
  constructor
  · rintro (h | ⟨op, hop, h⟩)
    · exact absurd h hanchor
    · obtain ⟨unit, rfl⟩ := slash_mem_chars_iff.1 h
      exact ⟨unit, hop⟩
  · rintro ⟨unit, hop⟩
    exact .inr ⟨_, hop, slash_mem_chars_iff.2 ⟨unit, rfl⟩⟩

/-! ### Counts and the order -/

namespace Exact

variable {t n : Int}

/-- A difference of two values of a function that keeps the order tells the order. -/
theorem order_of_difference {f : Int → Int} (hf : ∀ a b, a ≤ b → f a ≤ f b) :
    (0 < f t - f n → n < t) ∧ (f t - f n < 0 → t < n) := by
  constructor
  · intro hpos
    by_contra hle
    have hmono := hf t n (by omega)
    omega
  · intro hneg
    by_contra hle
    have hmono := hf n t (by omega)
    omega

theorem difference_of_years_eq_zero_iff (h : floor t .year = t) :
    yearOfDay (t / microsPerDay) - yearOfDay (n / microsPerDay) = 0 ↔ t = floor n .year := by
  constructor
  · intro hzero
    rw [← h]
    exact floor_year_congr (by omega)
  · intro hstart
    rw [hstart, yearOfDay_floor_year, Int.sub_self]

theorem difference_of_months_eq_zero_iff (h : floor t .month = t) :
    monthIndex (t / microsPerDay) - monthIndex (n / microsPerDay) = 0 ↔ t = floor n .month := by
  constructor
  · intro hzero
    rw [← h]
    exact floor_month_congr (by omega)
  · intro hstart
    rw [hstart, monthIndex_floor_month, Int.sub_self]

/-- The units elapsed since the start of the unit of the reference are a difference as well. -/
theorem elapsed_eq {unit : TimeUnit} (hdvd : unit.micros ∣ microsPerDay) (t n : Int) :
    (t - floor n unit) / unit.micros = t / unit.micros - n / unit.micros := by
  rw [floor_of_dvd hdvd, Int.sub_mul_ediv_right _ _ (Int.ne_of_gt (micros_pos unit))]

theorem difference_of_units_eq_zero_iff {unit : TimeUnit} (hdvd : unit.micros ∣ microsPerDay)
    (h : floor t unit = t) : t / unit.micros - n / unit.micros = 0 ↔ t = floor n unit := by
  rw [floor_of_dvd hdvd] at h ⊢
  constructor
  · intro hzero
    rw [← h, show t / unit.micros = n / unit.micros by omega]
  · intro hstart
    rw [hstart, Int.mul_ediv_cancel _ (Int.ne_of_gt (micros_pos unit)), Int.sub_self]

end Exact

/-! ### Descriptions -/

namespace Description

/-- The precision of a target: the first of the units from the year down to the minute that it is
a boundary of. -/
def precision? (t : DateTime) : Option TimeUnit := precisions.find? fun unit => t.IsBoundary unit

/-- Whether the reference is rounded to the target; for the week, whether it is on the day of the
target. -/
def StartsAt (t n : DateTime) : TimeUnit → Prop
  | .week => t.date = n.date
  | unit => n.floor unit = .ok t

/-- What operations describe a target by counting: a rounding alone, or a shift toward the target
and a rounding. -/
inductive Counts (t n : DateTime) (unit : TimeUnit) : List Operation → Prop
  | start (hstart : StartsAt t n unit) : Counts t n unit [.round unit]
  | ahead (hstart : ¬ StartsAt t n unit) (hlt : n.ticks < t.ticks) (magnitude : Nat)
      (counted : TimeUnit) : Counts t n unit [.shift .plus magnitude counted, .round unit]
  | behind (hstart : ¬ StartsAt t n unit) (hlt : t.ticks < n.ticks) (magnitude : Nat)
      (counted : TimeUnit) : Counts t n unit [.shift .minus magnitude counted, .round unit]

variable {t n : DateTime} {unit : TimeUnit} {ops : List Operation}

/-- A count is the difference between the values of a function that keeps the order. -/
theorem counts_counted {f : Int → Int} {of : TimeUnit} (hf : ∀ a b, a ≤ b → f a ≤ f b)
    (hunit : f t.ticks - f n.ticks = 0 → of = unit)
    (hzero : f t.ticks - f n.ticks = 0 ↔ StartsAt t n unit) :
    Counts t n unit (counted (f t.ticks - f n.ticks) of [.round unit]) := by
  obtain ⟨hahead, hbehind⟩ := Exact.order_of_difference (t := t.ticks) (n := n.ticks) hf
  rw [counted]
  by_cases hcount : f t.ticks - f n.ticks = 0
  · rw [if_pos hcount, hunit hcount]
    exact .start (hzero.1 hcount)
  · have hstart : ¬ StartsAt t n unit := fun h => hcount (hzero.2 h)
    rw [if_neg hcount]
    by_cases hpos : 0 < f t.ticks - f n.ticks
    · rw [if_pos hpos]
      exact .ahead hstart (hahead hpos) _ _
    · rw [if_neg hpos]
      exact .behind hstart (hbehind (by omega)) _ _

theorem startsAt_iff (hunit : unit ≠ .week) (hoffset : t.offset = n.offset) :
    StartsAt t n unit ↔ t.ticks = Exact.floor n.ticks unit := by
  have hfloor : StartsAt t n unit ↔ n.floor unit = .ok t := by
    cases unit with
    | week => exact absurd rfl hunit
    | _ => rfl
  rw [hfloor, DateTime.floor_eq_ok_iff]
  exact and_iff_left hoffset

theorem days_mono (a b : Int) (h : a ≤ b) : a / microsPerDay ≤ b / microsPerDay :=
  Int.ediv_le_ediv (by decide) h

/-- A week is counted in days, and by the dates alone. -/
theorem counts_of_days (t n : DateTime) :
    Counts t n .week
      (if t.date.dayNumber - n.date.dayNumber = 0 then [.round .week]
      else counted (t.date.dayNumber - n.date.dayNumber) .day [.round .week]) := by
  by_cases hdays : t.date.dayNumber - n.date.dayNumber = 0
  · rw [if_pos hdays]
    exact .start (Date.dayNumber_injective (by omega))
  · have hstart : ¬ StartsAt t n .week := by
      intro hdate
      rw [show t.date = n.date from hdate] at hdays
      exact hdays (Int.sub_self _)
    rw [if_neg hdays]
    rw [← DateTime.ticks_div, ← DateTime.ticks_div] at hdays ⊢
    exact counts_counted (f := fun k => k / microsPerDay) days_mono
      (fun hzero => absurd hzero hdays) (iff_of_false hdays hstart)

/-- The units below the week are counted from the start of the one that the reference is in. -/
theorem counts_of_elapsed (hdvd : unit.micros ∣ microsPerDay)
    (h : Exact.floor t.ticks unit = t.ticks) (ht : t.offset = some .utc)
    (hn : n.offset = some .utc)
    (hops : ((n.floor unit).map fun start =>
      counted ((t.instant - start.instant) / unit.micros) unit [.round unit]) = .ok ops) :
    Counts t n unit ops := by
  have hweek : unit ≠ .week := by
    rintro rfl
    exact absurd hdvd (by decide)
  obtain ⟨start, hstart, hticks, hoffset⟩ := n.exists_floor_eq_ok (fun hfirst => hweek hfirst.1)
  rw [hstart] at hops
  obtain rfl : counted ((t.instant - start.instant) / unit.micros) unit [.round unit] = ops :=
    Except.ok.inj hops
  rw [DateTime.instant_of_utc ht, DateTime.instant_of_utc (hoffset.trans hn), hticks,
    Exact.elapsed_eq hdvd]
  refine counts_counted (f := fun k => k / unit.micros) ?_ (fun _ => rfl) ?_
  · intro a b hab
    exact Int.ediv_le_ediv (Exact.micros_pos unit) hab
  · rw [startsAt_iff hweek (ht.trans hn.symm)]
    exact Exact.difference_of_units_eq_zero_iff hdvd h

/-- A description of an aligned target counts toward it. -/
theorem counts_of_alignedTo (hunit : unit ∈ precisions) (h : Exact.floor t.ticks unit = t.ticks)
    (ht : t.offset = some .utc) (hn : n.offset = some .utc)
    (hops : alignedTo t n true unit = .ok ops) : Counts t n unit ops := by
  cases unit with
  | second => exact absurd hunit (by decide)
  | year =>
    rw [← Except.ok.inj hops, yearsBetween_eq]
    refine counts_counted (f := fun k => yearOfDay (k / microsPerDay)) ?_ (fun _ => rfl) ?_
    · intro a b hab
      exact Exact.yearOfDay_mono (days_mono a b hab)
    · rw [startsAt_iff (by decide) (ht.trans hn.symm)]
      exact Exact.difference_of_years_eq_zero_iff h
  | month =>
    rw [← Except.ok.inj hops, monthsBetween_eq]
    refine counts_counted (f := fun k => Exact.monthIndex (k / microsPerDay)) ?_ (fun _ => rfl) ?_
    · intro a b hab
      exact Exact.monthIndex_mono (days_mono a b hab)
    · rw [startsAt_iff (by decide) (ht.trans hn.symm)]
      exact Exact.difference_of_months_eq_zero_iff h
  | week =>
    rw [← Except.ok.inj hops]
    exact counts_of_days t n
  | day => exact counts_of_elapsed (by decide) h ht hn hops
  | hour => exact counts_of_elapsed (by decide) h ht hn hops
  | minute => exact counts_of_elapsed (by decide) h ht hn hops

theorem precision?_eq_find? (t : DateTime) :
    precision? t = precisions.find? fun unit => Exact.floor t.ticks unit = t.ticks := by
  have hboundary (unit : TimeUnit) : decide (t.IsBoundary unit) =
      decide (Exact.floor t.ticks unit = t.ticks) :=
    decide_eq_decide.2 DateTime.isBoundary_iff_floor
  simp only [precision?, hboundary]

/-- The text of a rounding is the end of a text that it is the last operation of. -/
theorem suffix_shorthandChars (ops : List Operation) (unit : TimeUnit) :
    ['/', unit.code] <:+ shorthandChars (ops ++ [.round unit]) := by
  rw [shorthandChars, List.flatMap_append, ← List.append_assoc]
  exact List.suffix_append _ _

/-- A text with a sign is not that of a rounding alone. -/
theorem ne_of_signsIn {text : List Char} {sign : Sign} (h : signsIn text = [sign])
    (unit : TimeUnit) : text ≠ anchor ++ ['/', unit.code] := by
  rintro rfl
  have hround : signsIn (shorthandChars [.round unit]) = [] := signsIn_shorthandChars _
  exact absurd (hround.symm.trans h) (List.cons_ne_nil _ _).symm

/-- The text of a count ends in the rounding, and its sign, if it has one, tells the order. -/
theorem text_of_counts (h : Counts t n unit ops) :
    ['/', unit.code] <:+ shorthandChars ops ∧
      (shorthandChars ops = anchor ++ ['/', unit.code] ↔ StartsAt t n unit) ∧
      (shorthandChars ops ≠ anchor ++ ['/', unit.code] →
        n.ticks < t.ticks ∧ signsIn (shorthandChars ops) = [.plus] ∨
          t.ticks < n.ticks ∧ signsIn (shorthandChars ops) = [.minus]) := by
  cases h with
  | start hstart =>
    have htext : shorthandChars [.round unit] = anchor ++ ['/', unit.code] := rfl
    refine ⟨suffix_shorthandChars [] unit, iff_of_true htext hstart, ?_⟩
    intro hne
    exact absurd htext hne
  | ahead hstart hlt magnitude counted =>
    have hsign : signsIn (shorthandChars [.shift .plus magnitude counted, .round unit]) = [.plus] :=
      signsIn_shorthandChars _
    exact ⟨suffix_shorthandChars [.shift .plus magnitude counted] unit,
      iff_of_false (ne_of_signsIn hsign unit) hstart, fun _ => .inl ⟨hlt, hsign⟩⟩
  | behind hstart hlt magnitude counted =>
    have hsign : signsIn (shorthandChars [.shift .minus magnitude counted, .round unit]) =
        [.minus] :=
      signsIn_shorthandChars _
    exact ⟨suffix_shorthandChars [.shift .minus magnitude counted] unit,
      iff_of_false (ne_of_signsIn hsign unit) hstart, fun _ => .inr ⟨hlt, hsign⟩⟩

/-- A breakdown has no rounding. -/
theorem round_not_mem_breakdown (difference : Int) (unit : TimeUnit) :
    .round unit ∉ breakdown difference := by
  intro h
  obtain ⟨p, -, hp⟩ := List.mem_map.1 h
  cases hp

end Description

/-! ### Texts -/

/-- With exact descriptions, an aligned target is counted toward. -/
theorem exists_describe_counts {t n : DateTime}
    (hminute : t.time.second = 0 ∧ t.time.microsecond = 0)
    (hweek : t.ticks = 0 ∨ 6 * microsPerDay ≤ t.ticks) (ht : t.offset = some .utc)
    (hn : n.offset = some .utc) :
    ∃ unit ops, Description.precision? t = some unit ∧ describe t n (.ok true) = .ok ops ∧
      Description.Counts t n unit ops := by
  obtain ⟨unit, hunit, hfirst, hfloor⟩ := Description.exists_firstAligned? hminute hweek
  obtain ⟨ops, hops⟩ := Description.exists_alignedTo t n true unit
  refine ⟨unit, ops, ?_, ?_, Description.counts_of_alignedTo hunit hfloor ht hn hops⟩
  · rw [Description.firstAligned?_precisions hweek] at hfirst
    rw [Description.precision?_eq_find?]
    exact Except.ok.inj hfirst
  · rw [describe, hfirst]
    show Result.ofRange (Description.alignedTo t n true unit) = _
    rw [hops]
    rfl

/-- A target that has seconds has no rounding in its description. -/
theorem round_not_mem_of_describe {t n : DateTime} {ops : List Operation} {exact : Result Bool}
    (hminute : ¬ (t.time.second = 0 ∧ t.time.microsecond = 0))
    (hweek : t.ticks = 0 ∨ 6 * microsPerDay ≤ t.ticks) (ht : t.offset = some .utc)
    (hn : n.offset = some .utc) (hops : describe t n exact = .ok ops) :
    ¬ ∃ unit, .round unit ∈ ops := by
  rw [describe_eq_breakdown hminute hweek ht hn] at hops
  obtain rfl := Except.ok.inj hops
  rintro ⟨unit, hmem⟩
  exact Description.round_not_mem_breakdown _ unit hmem

/-- The text of a reader is that of an exact description, if descriptions are exact. -/
theorem Reader.exists_exact_of_format {r : Reader} {clock t n : DateTime} {target now : Value}
    {text : String} (hexact : r.settings.isOn .roundTripFormat = .ok true)
    (ht : target.toUtc = .ok t) (hn : r.reference clock now = .ok n)
    (h : r.format clock target now = .ok text) :
    ∃ ops, describe t n (.ok true) = .ok ops ∧ shorthand ops = text := by
  obtain ⟨t', ht', h⟩ := Result.bind_eq_ok_iff.1 h
  obtain ⟨n', hn', h⟩ := Result.bind_eq_ok_iff.1 h
  obtain rfl := Except.ok.inj (ht.symm.trans ht')
  obtain rfl := Except.ok.inj (hn.symm.trans hn')
  rw [hexact] at h
  exact describeText_eq_ok_iff.1 h

/-- **The text tells the precision of the target, and on which side of the reference it is.**
Whatever the target, the reference and the settings are, if descriptions are exact then a text has
a slash just if the target has no seconds.  It then ends in a rounding to the first unit that the
target is a boundary of.  It is this rounding alone just if the reference is rounded to the target,
or on its day if the unit is the week; otherwise it has one sign, a plus for a target after the
reference and a minus for one before. -/
theorem format_precision_and_sign {clock t n : DateTime} {target now : Value}
    {source : SettingsSource} {settings : Settings} {reader : Reader} {text : String}
    (hsettings : source.resolve = .ok settings) (hreader : readerFor settings = .ok reader)
    (hexact : reader.settings.isOn .roundTripFormat = .ok true)
    (ht : target.toUtc = .ok t) (hn : reader.reference clock now = .ok n)
    (hformat : format clock target now source = .ok text) :
    ('/' ∈ text.toList ↔ t.time.second = 0 ∧ t.time.microsecond = 0) ∧
    (t.time.second = 0 ∧ t.time.microsecond = 0 →
      ∃ unit, Description.precision? t = some unit ∧
        ['/', unit.code] <:+ text.toList ∧
        (text.toList = anchor ++ ['/', unit.code] ↔ Description.StartsAt t n unit) ∧
        (text.toList ≠ anchor ++ ['/', unit.code] →
          n.ticks < t.ticks ∧ signsIn text.toList = [.plus] ∨
            t.ticks < n.ticks ∧ signsIn text.toList = [.minus])) := by
  have htarget := Value.offset_of_toUtc ht
  have hreference := Reader.offset_of_reference hn
  have htext : reader.format clock target now = .ok text := by
    rw [← hformat, format, hsettings]
    show _ = (readerFor settings >>= fun r => r.format clock target now)
    rw [hreader]
    rfl
  obtain ⟨ops, hops, rfl⟩ := Reader.exists_exact_of_format hexact ht hn htext
  rw [toList_shorthand]
  -- The first week has no texts.
  have hweek : t.ticks = 0 ∨ 6 * microsPerDay ≤ t.ticks := by
    by_contra hfirst
    rw [describe_eq_error hfirst] at hops
    cases hops
  by_cases hminute : t.time.second = 0 ∧ t.time.microsecond = 0
  · obtain ⟨unit, ops', hprecision, hops', hcounts⟩ :=
      exists_describe_counts hminute hweek htarget hreference
    obtain rfl := Except.ok.inj (hops.symm.trans hops')
    obtain ⟨hsuffix, hsign⟩ := Description.text_of_counts hcounts
    have hslash : '/' ∈ shorthandChars ops := hsuffix.subset List.mem_cons_self
    exact ⟨iff_of_true hslash hminute, fun _ => ⟨unit, hprecision, hsuffix, hsign⟩⟩
  · rw [slash_mem_shorthandChars_iff]
    have hround := round_not_mem_of_describe hminute hweek htarget hreference hops
    exact ⟨iff_of_false hround hminute, fun h => absurd h hminute⟩

/-- The start of the twenty-fifth of February 2024, a Sunday, without an offset. -/
def DateTime.leapSunday : DateTime :=
  .ofTicks (Exact.dayNumber 2024 2 25 * microsPerDay) none (by decide)

/-- From the Friday after, that Sunday is described to the week, as five days ago. -/
theorem format_precision_and_sign_leapSunday :
    (SettingsSource.value .null).resolve = .ok .default ∧ readerFor .default = .ok .default ∧
    Reader.default.settings.isOn .roundTripFormat = .ok true ∧
    format .start (.dateTime .leapSunday) (.dateTime .leapMarch) (.value .null) =
      .ok "now-5d/w" ∧
    '/' ∈ "now-5d/w".toList ∧
    Description.precision? { DateTime.leapSunday with offset := some .utc } = some .week ∧
    ['/', 'w'] <:+ "now-5d/w".toList ∧
    DateTime.leapSunday.ticks < DateTime.leapMarch.ticks ∧
    signsIn "now-5d/w".toList = [.minus] := by
  have htoUtc := DateTime.toUtc_of_offset_none (t := .leapSunday) rfl
  have ht : (Value.dateTime .leapSunday).toUtc =
      .ok { DateTime.leapSunday with offset := some .utc } := by
    rw [Value.toUtc, htoUtc]
    rfl
  have hn : Reader.default.reference .start (.dateTime .leapMarch) = _ :=
    Reader.reference_of_toUtc _ (DateTime.toUtc_of_offset_none (t := .leapMarch) rfl)
  have hformat : format .start (.dateTime .leapSunday) (.dateTime .leapMarch) (.value .null) =
      .ok "now-5d/w" := by
    show Reader.default.format .start (.dateTime .leapSunday) (.dateTime .leapMarch) = _
    rw [Reader.format, ht, hn]
    rfl
  have hprecision : Description.precision? { DateTime.leapSunday with offset := some .utc } =
      some .week := by
    decide
  obtain ⟨hslash, haligned⟩ := format_precision_and_sign rfl rfl rfl ht hn hformat
  obtain ⟨unit, hunit, hsuffix, -, hsign⟩ := haligned (by decide)
  obtain rfl := Option.some.inj (hprecision.symm.trans hunit)
  refine ⟨rfl, rfl, rfl, hformat, hslash.2 (by decide), hprecision, hsuffix, ?_⟩
  rcases hsign (by decide) with ⟨hafter, -⟩ | hbefore
  · exact absurd hafter (by decide)
  · exact hbefore

end RelativeTime
