/-
Texts of descriptions are canonical.

A description that comes out, by settings of any source and from a reference of any kind, is
written in the one way in which its operations are written:

* `Description.OneWay` : all shifts go in one direction, and each by one unit at least;
* `describe_cases` : a description is a breakdown or counts the units of one precision;
* `oneWay_of_describe`, `isReadable_of_describe` : in both cases it goes one way and can be
  read;
* `format_canonical` : the main statement.

## Design notes

A count of zero and a unit that a breakdown leaves out have no shift, which is why no magnitude
is zero.  No settings are assumed to be valid: where a text comes out, all that was asked of
them had an answer.
-/
import RelativeTime.Proofs.Landing
import RelativeTime.Proofs.ZoneIndependence

namespace RelativeTime

namespace Description

/-- Whether all shifts go in one direction, and each by one unit at least. -/
def OneWay (ops : List Operation) : Prop :=
  ∃ sign, ∀ sign' magnitude unit,
    Operation.shift sign' magnitude unit ∈ ops → sign' = sign ∧ 1 ≤ magnitude

/-! ### Counts -/

theorem oneWay_round (unit : TimeUnit) : OneWay [.round unit] := by
  refine ⟨.plus, fun sign' magnitude u h => ?_⟩
  cases List.mem_singleton.1 h

/-- A count has one shift, unless it is zero and has none. -/
theorem oneWay_counted {ending : List Operation}
    (hending : ∀ sign magnitude u, Operation.shift sign magnitude u ∉ ending) (count : Int)
    (unit : TimeUnit) : OneWay (counted count unit ending) := by
  rw [counted]
  by_cases hcount : count = 0
  · rw [if_pos hcount]
    exact oneWay_round unit
  · rw [if_neg hcount]
    refine ⟨if 0 < count then .plus else .minus, fun sign' magnitude u h => ?_⟩
    rcases List.mem_cons.1 h with h | h
    · obtain ⟨rfl, rfl, rfl⟩ := Operation.shift.inj h
      exact ⟨rfl, Int.natAbs_pos.2 hcount⟩
    · exact absurd h (hending sign' magnitude u)

theorem oneWay_alignedTo {t n : DateTime} {exact : Bool} {unit : TimeUnit}
    {ops : List Operation} (h : alignedTo t n exact unit = .ok ops) : OneWay ops := by
  -- The units below the week are counted alike, if the unit of the reference has a start.
  have hbelow (heq : (if exact then
        (n.floor unit).map fun start =>
          counted ((t.instant - start.instant) / unit.micros) unit [.round unit]
      else .ok (elapsed (t.instant - n.instant) unit)) = .ok ops) : OneWay ops := by
    split at heq
    · cases hfloor : n.floor unit with
      | error fault =>
        rw [hfloor] at heq
        cases heq
      | ok start =>
        rw [hfloor] at heq
        rw [← Except.ok.inj heq]
        exact oneWay_counted (by simp) _ unit
    · rw [← Except.ok.inj heq]
      exact oneWay_counted (by simp) _ unit
  cases unit with
  | year =>
    rw [← Except.ok.inj h]
    exact oneWay_counted (by simp) _ .year
  | month =>
    rw [← Except.ok.inj h]
    refine oneWay_counted ?_ _ .month
    cases exact <;> simp
  | week =>
    rw [← Except.ok.inj h]
    split
    · exact oneWay_round .week
    · exact oneWay_counted (by simp) _ .day
  | _ => exact hbelow h

/-! ### Breakdowns -/

theorem one_le_of_mem_parts {units : List TimeUnit} {rest : Nat} {p : Nat × TimeUnit}
    (h : p ∈ parts units rest) : 1 ≤ p.1 := by
  induction units generalizing rest with
  | nil => exact absurd h List.not_mem_nil
  | cons unit units ih =>
    rw [parts_cons] at h
    rcases List.mem_append.1 h with h | h
    · obtain ⟨rfl, hpos⟩ := mem_leading h
      exact hpos
    · exact ih h

theorem oneWay_breakdown (difference : Int) : OneWay (breakdown difference) := by
  refine ⟨Exact.direction difference, fun sign' magnitude unit h => ?_⟩
  obtain ⟨p, hp, heq⟩ := List.mem_map.1 h
  obtain ⟨rfl, rfl, rfl⟩ := Operation.shift.inj heq
  exact ⟨rfl, one_le_of_mem_parts hp⟩

end Description

/-! ### Descriptions -/

variable {t n : DateTime} {exact : Result Bool} {ops : List Operation}

/-- A description is a breakdown, or else the units of the precision are counted, and it is
known whether they are to be exact. -/
theorem describe_cases (h : describe t n exact = .ok ops) :
    ops = Description.breakdown (t.instant - n.instant) ∨
      ∃ b unit, exact = .ok b ∧ Description.alignedTo t n b unit = .ok ops := by
  rw [describe] at h
  split at h
  · cases h
  · exact .inl (Except.ok.inj h).symm
  · rename_i unit _
    obtain ⟨b, hb, h⟩ := Result.bind_eq_ok_iff.1 h
    exact .inr ⟨b, unit, hb, Result.ofRange_eq_ok_iff.1 h⟩

theorem oneWay_of_describe (h : describe t n exact = .ok ops) : Description.OneWay ops := by
  rcases describe_cases h with rfl | ⟨b, unit, -, hops⟩
  · exact Description.oneWay_breakdown _
  · exact Description.oneWay_alignedTo hops

/-- What describes a target in UTC can be read. -/
theorem isReadable_of_describe (ht : t.offset = some .utc) (hn : n.offset = some .utc)
    (h : describe t n exact = .ok ops) : ∀ op ∈ ops, op.IsReadable := by
  rcases describe_cases h with rfl | ⟨b, -, rfl, -⟩
  · rw [DateTime.instant_of_utc ht, DateTime.instant_of_utc hn]
    exact Description.isReadable_breakdown
      (Exact.natAbs_sub_lt t.inCalendar_ticks n.inCalendar_ticks)
  · -- the search for the precision did not end in the first week
    have hweek : t.ticks = 0 ∨ 6 * microsPerDay ≤ t.ticks := by
      by_contra hfirst
      rw [describe_eq_error hfirst] at h
      cases h
    obtain ⟨ops', hops', hreadable, -⟩ := exists_describe_readable hweek ht hn b
    obtain rfl := Except.ok.inj (hops'.symm.trans h)
    exact hreadable

/-! ### Texts -/

variable {clock : DateTime} {target now : Value} {text : String}

/-- The text of a reader is the shorthand of a description in UTC. -/
theorem Reader.exists_describe_of_format {r : Reader} (h : r.format clock target now = .ok text) :
    ∃ t n exact ops, t.offset = some .utc ∧ n.offset = some .utc ∧
      describe t n exact = .ok ops ∧ shorthand ops = text := by
  obtain ⟨t, ht, h⟩ := Result.bind_eq_ok_iff.1 h
  obtain ⟨n, hn, h⟩ := Result.bind_eq_ok_iff.1 h
  obtain ⟨ops, hops, htext⟩ := describeText_eq_ok_iff.1 h
  exact ⟨t, n, _, ops, Value.offset_of_toUtc ht, Reader.offset_of_reference hn, hops, htext⟩

/-- **Texts of descriptions are canonical.**  Whatever the target, the reference and the
settings are, a text that comes out is accepted by a strict reader as well as by any other, all
its shifts go in one direction and by one unit at least, and the operations that are read from
it are written as the same text. -/
theorem format_canonical {source : SettingsSource}
    (h : format clock target now source = .ok text) :
    ∃ ops, (∀ strict, extract text strict = .ok ops) ∧ Description.OneWay ops ∧
      toShorthand ops = .ok text := by
  obtain ⟨settings, -, h⟩ := Result.bind_eq_ok_iff.1 h
  obtain ⟨reader, -, h⟩ := Result.bind_eq_ok_iff.1 h
  obtain ⟨t, n, exact, ops, ht, hn, hops, rfl⟩ := Reader.exists_describe_of_format h
  have hreadable := isReadable_of_describe ht hn hops
  exact ⟨ops, extract_shorthand hreadable, oneWay_of_describe hops,
    toShorthand_of_isReadable hreadable⟩

/-- The way back from the last second of the calendar to the last microsecond of January
2024. -/
theorem format_canonical_january :
    format .start (.dateTime .january) (.dateTime .lastSecond) (.value (.record [])) =
      .ok "now-7981y-2M-2w-3d-23h-59m-59s" ∧
    ∃ ops, (∀ strict, extract "now-7981y-2M-2w-3d-23h-59m-59s" strict = .ok ops) ∧
      Description.OneWay ops ∧ toShorthand ops = .ok "now-7981y-2M-2w-3d-23h-59m-59s" := by
  have hvalid : Settings.IsValid [] := List.forall_mem_nil _
  have ht := DateTime.toUtc_of_offset_none (t := .january) rfl
  have hn := DateTime.toUtc_of_offset_none (t := .lastSecond) rfl
  have hformat := format_of_describe .start hvalid ht hn
    (describe_eq_breakdown (by decide) (by decide) rfl rfl _)
  have htext : shorthand (Description.breakdown
      (DateTime.january.ticks - DateTime.lastSecond.ticks)) =
        "now-7981y-2M-2w-3d-23h-59m-59s" := by
    decide
  rw [← htext]
  exact ⟨hformat, format_canonical hformat⟩

end RelativeTime
