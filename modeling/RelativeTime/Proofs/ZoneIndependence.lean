/-
Independence of the zone.

References and targets carry an offset, or none, and their fields are local.  Reading and
describing turn them into UTC before they look at any field, so that of two dates which stand
for one instant neither can be told from the other, not even where an offset leads out of the
calendar.

* `DateTime.toUtc_congr` : the time in UTC, and its absence, is a matter of the instant;
* `parse_congr`, `format_congr` : of a reference or a target of any type, only the time in UTC
  or the fault counts;
* `Session.run_congr` : nor does a session tell two such references apart, however long it is;
* `offset_eq_utc_of_parse` : what is read is in UTC, or without an offset;
* `parse_format_of_instant_eq` : dates that stand for one instant are interchangeable.

## Design notes

No settings are assumed to be valid, and they may come from any source.
-/
import RelativeTime.Proofs.Simulation
import RelativeTime.Proofs.ValidSettings
import RelativeTime.Session

namespace RelativeTime

variable {r : Reader} {now now' target target' text : Value}

/-! ### What counts of a date -/

theorem DateTime.toUtc_congr {t t' : DateTime} (h : t.instant = t'.instant) :
    t.toUtc = t'.toUtc := by
  unfold toUtc
  rw [h]

namespace Value

/-- The fault of a value as a date tells whether it is nothing at all. -/
theorem isNull_iff_toUtc : now.isNull = true ↔ now.toUtc = .error (.notDateTime null.kind) := by
  cases now with
  | dateTime t => cases h : t.toUtc <;> simp [isNull, toUtc, Result.ofRange, h]
  | _ => simp [isNull, toUtc, kind]

theorem isNull_congr (h : now.toUtc = now'.toUtc) : now.isNull = now'.isNull := by
  rw [Bool.eq_iff_iff, isNull_iff_toUtc, isNull_iff_toUtc, h]

end Value

/-! ### Reading and describing -/

theorem Reader.reference_congr (r : Reader) (clock : DateTime) (h : now.toUtc = now'.toUtc) :
    r.reference clock now = r.reference clock now' := by
  rw [reference, reference, Reference.choose, Reference.choose, Value.isNull_congr h]
  split
  · rfl
  · exact h

theorem Reader.parse_congr (r : Reader) (clock : DateTime) (text : Value)
    (h : now.toUtc = now'.toUtc) : r.parse clock text now = r.parse clock text now' := by
  rw [parse, parse, reference_congr r clock h]

theorem Reader.format_congr (r : Reader) (clock : DateTime) (ht : target.toUtc = target'.toUtc)
    (hn : now.toUtc = now'.toUtc) : r.format clock target now = r.format clock target' now' := by
  rw [format, format, ht, reference_congr r clock hn]

/-- Of a reference, only its time in UTC counts for what is read. -/
theorem parse_congr (clock : DateTime) (text : Value) (source : SettingsSource)
    (defaults : Setting → Value) (h : now.toUtc = now'.toUtc) :
    parse clock text now source defaults = parse clock text now' source defaults := by
  simp only [parse, Reader.parse_congr _ clock text h]

/-- Of a target and a reference, only their times in UTC count for the description. -/
theorem format_congr (clock : DateTime) (source : SettingsSource)
    (ht : target.toUtc = target'.toUtc) (hn : now.toUtc = now'.toUtc) :
    format clock target now source = format clock target' now' source := by
  simp only [format, Reader.format_congr _ clock ht hn]

/-! ### Sessions -/

namespace Session

variable {state state' : State}

/-- Whether two states are told apart by nothing but the zone of their references. -/
structure State.Alike (state state' : State) : Prop where
  toUtc_eq : state.reference.toUtc = state'.reference.toUtc
  defaults_eq : state.defaults = state'.defaults

/-- Whether two outcomes of a step are the same fault, or the same answer with states alike. -/
inductive SameAnswer : Result (Answer × State) → Result (Answer × State) → Prop
  | error (e : Error) : SameAnswer (.error e) (.error e)
  | ok (answer : Answer) {next next' : State} (h : next.Alike next') :
      SameAnswer (.ok (answer, next)) (.ok (answer, next'))

theorem SameAnswer.bind {α : Type} {f g : α → Result (Answer × State)} (x : Result α)
    (h : ∀ a, SameAnswer (f a) (g a)) : SameAnswer (x >>= f) (x >>= g) := by
  cases x with
  | error e => exact .error e
  | ok a => exact h a

/-- A step gives the same answer in both states, and they stay alike. -/
theorem step_congr (r : Reader) (clock : DateTime) (h : state.Alike state') (request : Request) :
    SameAnswer (step r clock state request) (step r clock state' request) := by
  have hmoved (now : Value) :
      { state with reference := now }.Alike { state' with reference := now } :=
    ⟨rfl, h.defaults_eq⟩
  have hparse (text : Value) := r.parse_congr clock text h.toUtc_eq
  have hformat (target : Value) :
      r.format clock target state.reference = r.format clock target state'.reference :=
    r.format_congr clock rfl h.toUtc_eq
  cases request with
  | parse text =>
    rw [step, step, hparse]
    exact .bind _ fun t => .ok _ (hmoved (.dateTime t))
  | format target =>
    rw [step, step, hformat]
    exact .bind _ fun s => .ok _ h
  | formatParse target =>
    simp only [step, hformat, hparse]
    exact .bind _ fun s => .bind _ fun t => .ok _ (hmoved (.dateTime t))
  | operations text => exact .bind _ fun ops => .ok _ h
  | set now => exact .ok _ (hmoved now)
  | parseBy text source =>
    rw [step, step, h.defaults_eq, RelativeTime.parse_congr clock text source _ h.toUtc_eq]
    exact .bind _ fun t => .ok _ h

/-- A session whose references have the same time in UTC answers every request the same. -/
theorem run_congr (r : Reader) (clock : DateTime) (h : state.Alike state')
    (requests : List Request) : run r clock state requests = run r clock state' requests := by
  induction requests generalizing state state' with
  | nil => rfl
  | cons request requests ih =>
    have hstep := step_congr r clock h request
    rw [run, run]
    generalize step r clock state request = x, step r clock state' request = x' at hstep ⊢
    cases hstep with
    | error e => exact congrArg (List.cons (.error e)) (ih h)
    | ok answer hnext => exact congrArg (List.cons (.ok answer)) (ih hnext)

end Session

/-! ### What is read -/

theorem Value.offset_of_toUtc {v : Value} {t : DateTime} (h : v.toUtc = .ok t) :
    t.offset = some .utc := by
  cases v with
  | dateTime t' => exact (DateTime.toUtc_eq_ok_iff.1 (Result.ofRange_eq_ok_iff.1 h)).2
  | _ => cases h

/-- A reference is in UTC, wherever it comes from. -/
theorem Reader.offset_of_reference {clock n : DateTime} (h : r.reference clock now = .ok n) :
    n.offset = some .utc := by
  obtain ⟨reference, -, h⟩ := Result.bind_eq_ok_iff.1 h
  cases reference with
  | given v => exact Value.offset_of_toUtc h
  | clock => exact Value.offset_of_toUtc (v := .dateTime clock) h

/-- Evaluation keeps the offset of the reference, and a reader keeps it or takes it away. -/
theorem offset_eq_utc_of_parse {clock p : DateTime} {source : SettingsSource} {o : Offset}
    (h : parse clock text now source = .ok p) (ho : p.offset = some o) : o = .utc := by
  obtain ⟨settings, -, h⟩ := Result.bind_eq_ok_iff.1 h
  obtain ⟨reader, -, h⟩ := Result.bind_eq_ok_iff.1 h
  obtain ⟨ops, -, h⟩ := Result.bind_eq_ok_iff.1 h
  obtain ⟨n, hn, h⟩ := Result.bind_eq_ok_iff.1 h
  obtain ⟨t, ht, h⟩ := Result.bind_eq_ok_iff.1 h
  obtain ⟨aware, -, h⟩ := Result.bind_eq_ok_iff.1 h
  obtain rfl := Except.ok.inj h
  have hoffset : t.offset = some .utc :=
    (evaluate_eq_ok_iff.1 ht).2.2.trans (Reader.offset_of_reference hn)
  cases aware with
  | true => exact Option.some.inj (ho.symm.trans hoffset)
  | false => cases ho

/-- **Dates that stand for one instant are interchangeable.**  Whatever their offsets are, two
such references have the same time in UTC or none, any text is read the same against both,
faults included, and what is read with an offset is in UTC; and two such targets have the same
description against both. -/
theorem parse_format_of_instant_eq {n n' t t' : DateTime} (clock : DateTime) (text : Value)
    (source : SettingsSource) (hn : n.instant = n'.instant) (ht : t.instant = t'.instant) :
    n.toUtc = n'.toUtc ∧
    parse clock text (.dateTime n) source = parse clock text (.dateTime n') source ∧
    (∀ p o, parse clock text (.dateTime n) source = .ok p → p.offset = some o → o = .utc) ∧
    format clock (.dateTime t) (.dateTime n) source =
      format clock (.dateTime t') (.dateTime n') source := by
  have hreference : (Value.dateTime n).toUtc = (Value.dateTime n').toUtc :=
    congrArg Result.ofRange (DateTime.toUtc_congr hn)
  have htarget : (Value.dateTime t).toUtc = (Value.dateTime t').toUtc :=
    congrArg Result.ofRange (DateTime.toUtc_congr ht)
  refine ⟨DateTime.toUtc_congr hn, parse_congr clock text source _ hreference, ?_,
    format_congr clock source htarget hreference⟩
  intro p o hp ho
  exact offset_eq_utc_of_parse hp ho

/-- An hour before the second Sunday of the calendar, without an offset. -/
def DateTime.beforeSunday : DateTime := .ofTicks (13 * microsPerDay - 3600000000) none (by decide)

/-- The same instant, where it is Sunday since an hour ago. -/
def DateTime.onSunday : DateTime :=
  .ofTicks (13 * microsPerDay + 3600000000) (Offset.of? 7200000000) (by decide)

/-- The local dates are a Saturday and a Sunday, with which a week would start. -/
theorem parse_format_of_instant_eq_sunday :
    DateTime.beforeSunday.instant = DateTime.onSunday.instant ∧
    DateTime.beforeSunday.date ≠ DateTime.onSunday.date ∧
    DateTime.beforeSunday.toUtc = DateTime.onSunday.toUtc ∧
    parse .start (.text "now/w") (.dateTime .beforeSunday) (.value .null) =
      parse .start (.text "now/w") (.dateTime .onSunday) (.value .null) ∧
    (∀ p o, parse .start (.text "now/w") (.dateTime .beforeSunday) (.value .null) = .ok p →
      p.offset = some o → o = .utc) ∧
    format .start (.dateTime .onSunday) (.dateTime .beforeSunday) (.value .null) =
      format .start (.dateTime .beforeSunday) (.dateTime .onSunday) (.value .null) := by
  have hinstant : DateTime.beforeSunday.instant = DateTime.onSunday.instant := by decide
  exact ⟨hinstant, by decide,
    parse_format_of_instant_eq .start (.text "now/w") (.value .null) hinstant hinstant.symm⟩

end RelativeTime
