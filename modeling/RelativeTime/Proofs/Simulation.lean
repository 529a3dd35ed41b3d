/-
Evaluation simulates exact calendar arithmetic.

`Exact.run` applies operations to a local time of the unbounded calendar, where nothing
fails.  `evaluate` does the same on instants, as long as all results on the way stay in
the calendar (`Exact.Stays`):

* `apply_eq_ok_iff` : one operation gives the instant of its exact result;
* `FailsAt` : how a failing run tells an operation;
* `exists_evaluate_eq_ok`, `exists_evaluate_eq_error` : a run gives the instant of its exact
  result, or fails at the first operation whose exact result leaves the calendar;
* `evaluate_simulates_exact` : the two together, and how that operation is named.

## Design notes

The exact run goes on after it has left the calendar, so `Exact.Stays` looks at every
result on the way and not just at the last one: `+9999y-9999y` fails although it leads
back.  The start counts as a result; for an instant it is always in the calendar.

An operation of any magnitude can be run, but not every one can be written.  The fault of a
run tells the operation by its token, and where there is none it is about the number.
-/
import RelativeTime.Proofs.ExactCalendar
import RelativeTime.Proofs.NormalForm
import RelativeTime.Step

namespace RelativeTime

namespace Exact

/-- The local time to which an operation leads from `n`. -/
def apply (n : Int) : Operation → Int
  | .shift sign magnitude unit => shift n (sign.apply magnitude) unit
  | .round unit => floor n unit

/-- The local time to which operations lead from `n`, from left to right. -/
def run (ops : List Operation) (n : Int) : Int := ops.foldl apply n

/-- Every result on the way is in the calendar. -/
def Stays (ops : List Operation) (n : Int) : Prop :=
  ∀ k, k ≤ ops.length → InCalendar (run (ops.take k) n)

theorem stays_nil {n : Int} : Stays [] n ↔ InCalendar n := by
  constructor
  · intro h
    exact h 0 (Nat.le_refl 0)
  · intro h k _
    rw [List.take_nil]
    exact h

theorem stays_cons {op : Operation} {ops : List Operation} {n : Int} :
    Stays (op :: ops) n ↔ InCalendar n ∧ Stays ops (apply n op) := by
  constructor
  · intro h
    exact ⟨h 0 (Nat.zero_le _), fun k hk => h (k + 1) (Nat.succ_le_succ hk)⟩
  · rintro ⟨hn, hops⟩ k hk
    cases k with
    | zero => exact hn
    | succ k => exact hops k (Nat.le_of_succ_le_succ hk)

end Exact

variable {t u : DateTime} {ops : List Operation}

/-- An operation gives the instant of its exact result, and fails if there is none. -/
theorem apply_eq_ok_iff (op : Operation) :
    op.apply t = .ok u ↔ u.ticks = Exact.apply t.ticks op ∧ u.offset = t.offset := by
  cases op with
  | shift sign magnitude unit => exact DateTime.shift_eq_ok_iff unit
  | round unit => exact DateTime.floor_eq_ok_iff unit

/-- An operation whose exact result is in the calendar succeeds. -/
theorem exists_apply_eq_ok {op : Operation} (h : InCalendar (Exact.apply t.ticks op)) :
    ∃ u, op.apply t = .ok u ∧ u.ticks = Exact.apply t.ticks op ∧ u.offset = t.offset := by
  obtain ⟨u, hticks, hoffset⟩ := (DateTime.exists_ticks_iff t.offset).2 h
  exact ⟨u, (apply_eq_ok_iff op).2 ⟨hticks, hoffset⟩, hticks, hoffset⟩

/-- An operation whose exact result is not in the calendar fails. -/
theorem exists_apply_eq_error {op : Operation} (h : ¬ InCalendar (Exact.apply t.ticks op)) :
    ∃ fault, op.apply t = .error fault := by
  cases hop : op.apply t with
  | error fault => exact ⟨fault, rfl⟩
  | ok u =>
    obtain ⟨hticks, -⟩ := (apply_eq_ok_iff op).1 hop
    exact absurd (hticks ▸ u.inCalendar_ticks) h

theorem evaluate_cons_of_ok {op : Operation} (h : op.apply t = .ok u) :
    evaluate (op :: ops) t = evaluate ops u := by
  rw [evaluate, h]

theorem evaluate_cons_of_error {op : Operation} {fault : RangeFault}
    (h : op.apply t = .error fault) : evaluate (op :: ops) t = .error op.failure := by
  rw [evaluate, h]

/-- Whether an outcome is the failure of an operation: it names the token, if that can be
written, and else it is the fault of the number. -/
def FailsAt (r : Result DateTime) (op : Operation) : Prop :=
  (op.IsReadable → r = .error (.outOfRange op.text)) ∧
    (¬ op.IsReadable → r = .error .overlongNumber)

theorem failsAt_iff {r : Result DateTime} {op : Operation} :
    FailsAt r op ↔ r = .error op.failure := by
  by_cases h : op.IsReadable
  · rw [FailsAt, Operation.failure_of_isReadable h]
    simp [h]
  · rw [FailsAt, Operation.failure_of_not_isReadable h]
    simp [h]

theorem failsAt_of_apply_eq_error {op : Operation} {fault : RangeFault}
    (h : op.apply t = .error fault) : FailsAt (evaluate (op :: ops) t) op :=
  failsAt_iff.2 (evaluate_cons_of_error h)

/-- A run that stays in the calendar gives the instant of its exact result. -/
theorem exists_evaluate_eq_ok (h : Exact.Stays ops t.ticks) :
    ∃ u, evaluate ops t = .ok u ∧ u.ticks = Exact.run ops t.ticks ∧ u.offset = t.offset := by
  -- The induction is on the operations, from any start: the first one succeeds since its
  -- exact result is in the calendar, and the rest run from there.
  induction ops generalizing t with
  | nil => exact ⟨t, rfl, rfl, rfl⟩
  | cons op ops ih =>
    have hops := (Exact.stays_cons.1 h).2
    obtain ⟨s, happly, hticks, hoffset⟩ := exists_apply_eq_ok (hops 0 (Nat.zero_le _))
    rw [← hticks] at hops
    obtain ⟨u, heval, hrun, hu⟩ := ih hops
    refine ⟨u, (evaluate_cons_of_ok happly).trans heval, ?_, hu.trans hoffset⟩
    rw [hrun, hticks]
    rfl

/-- A run that leaves the calendar fails at the operation that leaves it first. -/
theorem exists_evaluate_eq_error (h : ¬ Exact.Stays ops t.ticks) :
    ∃ k, ∃ hk : k < ops.length, Exact.Stays (ops.take k) t.ticks ∧
      ¬ InCalendar (Exact.run (ops.take (k + 1)) t.ticks) ∧
      evaluate ops t = .error ops[k].failure := by
  induction ops generalizing t with
  | nil => exact absurd (Exact.stays_nil.2 t.inCalendar_ticks) h
  | cons op ops ih =>
    by_cases hop : InCalendar (Exact.apply t.ticks op)
    · -- the first operation stays, so the rest must leave
      obtain ⟨s, happly, hticks, -⟩ := exists_apply_eq_ok hop
      have hops : ¬ Exact.Stays ops s.ticks := fun hs =>
        h (Exact.stays_cons.2 ⟨t.inCalendar_ticks, hticks ▸ hs⟩)
      obtain ⟨k, hk, hstays, hleaves, heval⟩ := ih hops
      rw [hticks] at hstays hleaves
      refine ⟨k + 1, Nat.succ_lt_succ hk, ?_, hleaves, (evaluate_cons_of_ok happly).trans heval⟩
      exact Exact.stays_cons.2 ⟨t.inCalendar_ticks, hstays⟩
    · -- the first operation leaves
      obtain ⟨fault, happly⟩ := exists_apply_eq_error hop
      refine ⟨0, Nat.zero_lt_succ _, ?_, hop, evaluate_cons_of_error happly⟩
      exact Exact.stays_nil.2 t.inCalendar_ticks

theorem evaluate_eq_ok_iff :
    evaluate ops t = .ok u ↔
      Exact.Stays ops t.ticks ∧ u.ticks = Exact.run ops t.ticks ∧ u.offset = t.offset := by
  constructor
  · intro h
    by_cases hstays : Exact.Stays ops t.ticks
    · obtain ⟨v, hv, hticks, hoffset⟩ := exists_evaluate_eq_ok hstays
      obtain rfl := Except.ok.inj (h.symm.trans hv)
      exact ⟨hstays, hticks, hoffset⟩
    · obtain ⟨k, hk, -, -, he⟩ := exists_evaluate_eq_error hstays
      rw [he] at h
      cases h
  · rintro ⟨hstays, hticks, hoffset⟩
    obtain ⟨v, hv, hv', hvo⟩ := exists_evaluate_eq_ok hstays
    rw [hv, DateTime.ticks_injective (hv'.trans hticks.symm) (hvo.trans hoffset.symm)]

/-- **Evaluation is a bounded simulation of exact calendar arithmetic.**  If every result
on the way is in the calendar, evaluation gives the exact one with the offset unchanged.
Otherwise it fails at the first operation whose exact result is not, and names its token, if
the magnitude is not too long to be written; for a longer one, the fault of the number comes
out in place of it. -/
theorem evaluate_simulates_exact (ops : List Operation) (base : DateTime) :
    (Exact.Stays ops base.ticks →
      ∃ t, evaluate ops base = .ok t ∧ t.ticks = Exact.run ops base.ticks ∧
        t.offset = base.offset) ∧
    (¬ Exact.Stays ops base.ticks →
      ∃ k, ∃ hk : k < ops.length, Exact.Stays (ops.take k) base.ticks ∧
        ¬ InCalendar (Exact.run (ops.take (k + 1)) base.ticks) ∧
        (ops[k].IsReadable → evaluate ops base = .error (.outOfRange ops[k].text)) ∧
        (¬ ops[k].IsReadable → evaluate ops base = .error .overlongNumber)) := by
  refine ⟨exists_evaluate_eq_ok, ?_⟩
  intro hleaves
  obtain ⟨k, hk, hstays, hout, heval⟩ := exists_evaluate_eq_error hleaves
  exact ⟨k, hk, hstays, hout, failsAt_iff.2 heval⟩

/-- The start of year 1, without an offset. -/
def DateTime.start : DateTime := .ofTicks 0 none (by decide)

theorem DateTime.toUtc_start : start.toUtc = .ok { start with offset := some .utc } :=
  toUtc_eq_ok_iff.2 ⟨by decide, rfl⟩

/-- From the first day of the calendar, a month leads to a week that starts in the
calendar; the week of the first day itself does not. -/
theorem evaluate_simulates_exact_start :
    (Exact.Stays [.shift .plus 1 .month, .round .week] DateTime.start.ticks ∧
      ∃ t, evaluate [.shift .plus 1 .month, .round .week] .start = .ok t ∧
        t.ticks = Exact.run [.shift .plus 1 .month, .round .week] DateTime.start.ticks ∧
        t.offset = DateTime.start.offset) ∧
    (¬ Exact.Stays [.round .week] DateTime.start.ticks ∧
      ∃ k, ∃ hk : k < [Operation.round .week].length,
        Exact.Stays ([Operation.round .week].take k) DateTime.start.ticks ∧
        ¬ InCalendar (Exact.run ([.round .week].take (k + 1)) DateTime.start.ticks) ∧
        [Operation.round .week][k].IsReadable ∧
        evaluate [.round .week] .start =
          .error (.outOfRange [Operation.round .week][k].text)) := by
  have hstays : Exact.Stays [.shift .plus 1 .month, .round .week] DateTime.start.ticks :=
    Exact.stays_cons.2 ⟨by decide, Exact.stays_cons.2 ⟨by decide, Exact.stays_nil.2 (by decide)⟩⟩
  have hleaves : ¬ Exact.Stays [.round .week] DateTime.start.ticks := fun h =>
    absurd (h 1 (Nat.le_refl 1)) (by decide)
  obtain ⟨k, hk, hbefore, hout, hnamed, -⟩ := (evaluate_simulates_exact _ _).2 hleaves
  have hreadable : [Operation.round .week][k].IsReadable := by
    rw [List.getElem_singleton]
    trivial
  exact ⟨⟨hstays, (evaluate_simulates_exact _ _).1 hstays⟩,
    ⟨hleaves, k, hk, hbefore, hout, hreadable, hnamed hreadable⟩⟩

/-- The last second of the calendar, without an offset. -/
def DateTime.lastSecond : DateTime := .ofTicks (tickCount - 1000000) none (by decide)

/-- More days than can be written leave the calendar, and no operation is named; and the
magnitude that is no number, but counts as one day, is named as it is. -/
theorem evaluate_overlongDays :
    ¬ Exact.Stays [.shift .plus (10 ^ maxDigits) .day] DateTime.start.ticks ∧
    (∀ token, evaluate [.shift .plus (10 ^ maxDigits) .day] .start ≠
      .error (.outOfRange token)) ∧
    evaluate [.shift .plus (10 ^ maxDigits) .day] .start = .error .overlongNumber ∧
    Step.run [.shiftBy .plus (.truth true) .day] (.dateTime .lastSecond) =
      .error (.outOfRange "+Trued") := by
  have hmany : 10 ^ 18 ≤ 10 ^ maxDigits := Nat.pow_le_pow_right (by decide) (by decide)
  have hleaves : ¬ InCalendar
      (Exact.apply DateTime.start.ticks (.shift .plus (10 ^ maxDigits) .day)) := by
    -- any number of eighteen zeros will do, and longer ones are better not computed
    generalize 10 ^ maxDigits = n at hmany ⊢
    rintro ⟨-, hlt⟩
    have hticks : DateTime.start.ticks = 0 := by decide
    have hcount : DateTime.tickCount = 315537897600000000 := by decide
    have hend : (0 : Int) + n * 86400000000 < 315537897600000000 := by
      rw [← hticks, ← hcount]
      exact hlt
    omega
  obtain ⟨fault, hfault⟩ := exists_apply_eq_error hleaves
  have heval : evaluate [.shift .plus (10 ^ maxDigits) .day] .start = .error .overlongNumber := by
    rw [evaluate_cons_of_error hfault, Operation.failure_of_not_isReadable (Nat.lt_irrefl _)]
  refine ⟨fun h => hleaves (h 1 (Nat.le_refl 1)), ?_, heval, ?_⟩
  · intro token htoken
    rw [heval] at htoken
    cases htoken
  · rfl

/-! ### Programs put together by hand -/

/-- An operation that leaves the calendar is told like in an evaluation. -/
theorem Step.failure_operation (op : Operation) (fault : RangeFault) :
    Step.failure (.operation op) (.range fault) = op.failure := by
  cases htoken : op.token with
  | ok token => simp only [failure, spelling, Operation.failure, htoken, Except.map]
  | error e => simp only [failure, spelling, Operation.failure, htoken, Except.map]

/-- A program of operations alone runs as they are evaluated. -/
theorem Step.run_operations (ops : List Operation) (t : DateTime) :
    Step.run (ops.map .operation) (.dateTime t) = (evaluate ops t).map .dateTime := by
  induction ops generalizing t with
  | nil => rfl
  | cons op ops ih =>
    have hstep : Step.apply (.dateTime t) (.operation op) =
        (Result.ofRange (op.apply t)).map .dateTime := by
      cases op with
      | shift sign magnitude unit => cases unit <;> rfl
      | round unit => rfl
    rw [List.map_cons, Step.run, hstep]
    cases hop : op.apply t with
    | ok u =>
      rw [evaluate_cons_of_ok hop]
      exact ih u
    | error fault =>
      rw [evaluate_cons_of_error hop]
      show Except.error (Step.failure (.operation op) (.range fault)) = _
      rw [Step.failure_operation]
      rfl

end RelativeTime
