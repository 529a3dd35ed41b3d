/-
Roundings that absorb others.

A rounding next to one to a unit that it is made up of says nothing new, whichever of the two
comes first: every start of the longer unit is a start of the shorter one.  The rounding to the
longer unit then stands for both, anywhere in a program:

* `SameOutcome` : programs that cannot be told apart, and remain so in a longer program;
* `Exact.floor_eq_of_atMost` : a start of a unit is a start of all that it is made up of;
* `Exact.floor_floor_eq_inner`, `Exact.floor_floor_eq_outer` : of two such roundings, in either
  order, the one to the longer unit counts;
* `sameOutcome_round_before`, `sameOutcome_round_after` : the same for programs;
* `sameOutcome_rounds` : of a run of roundings, one to the longest unit is enough;
* `evaluate_round_absorb` : the main statement.

## Design notes

A program that leaves the calendar between two roundings names the first of them.  Only a week can
start before the calendar, and no other unit is made up of weeks, so that the operation that is
named has the same token as the one that is left.
-/
import RelativeTime.Proofs.Commutation
import RelativeTime.Proofs.Composition
import RelativeTime.Proofs.OrderPreservation

namespace RelativeTime

/-! ### Programs that cannot be told apart -/

/-- Whether two programs have the same outcome from every instant, be it an instant or an
operation that leaves the calendar. -/
def SameOutcome (ops ops' : List Operation) : Prop := ∀ t, evaluate ops t = evaluate ops' t

namespace SameOutcome

variable {ops ops' ops'' : List Operation}

theorem trans (h : SameOutcome ops ops') (h' : SameOutcome ops' ops'') : SameOutcome ops ops'' := by
  intro t
  rw [h t, h' t]

/-- The programs may be followed by anything. -/
theorem append_right (h : SameOutcome ops ops') (after : List Operation) :
    SameOutcome (ops ++ after) (ops' ++ after) := by
  intro t
  rw [evaluate_append, evaluate_append, h t]

/-- Anything may come before them. -/
theorem append_left (h : SameOutcome ops ops') (before : List Operation) :
    SameOutcome (before ++ ops) (before ++ ops') := by
  intro t
  rw [evaluate_append, evaluate_append, funext h]

theorem within (h : SameOutcome ops ops') (before after : List Operation) :
    SameOutcome (before ++ ops ++ after) (before ++ ops' ++ after) :=
  (h.append_left before).append_right after

end SameOutcome

namespace Exact

variable {n b : Int} {f c : TimeUnit}

/-! ### Starts of units -/

/-- The starts of a unit that divides the day are its multiples. -/
theorem floor_eq_iff_dvd (hdvd : f.micros ∣ microsPerDay) :
    floor b f = b ↔ (f.micros : Int) ∣ b := by
  rw [floor_of_dvd hdvd]
  constructor
  · intro h
    exact ⟨b / f.micros, by rw [Int.mul_comm, h]⟩
  · intro h
    exact Int.ediv_mul_cancel h

/-- Weeks, months and years start with a day. -/
theorem day_dvd_of_floor (hc : c ∈ [TimeUnit.day, .week, .month, .year])
    (h : floor b c = b) : (microsPerDay : Int) ∣ b := by
  -- The start of the day of `b` is rounded to `b` as well, and so it is not before `b`.
  have hday : b / microsPerDay * microsPerDay / microsPerDay = b / microsPerDay :=
    Int.mul_ediv_cancel _ (by decide)
  have hle := floor_le (b / microsPerDay * microsPerDay) c
  rw [floor_congr_of_days hc hday, h] at hle
  refine ⟨b / microsPerDay, ?_⟩
  rw [microsPerDay] at *
  omega

/-- A year starts with a month. -/
theorem floor_month_of_floor_year (h : floor b .year = b) : floor b .month = b := by
  rw [floor_year_eq] at h
  rw [← h, floor_month_eq, Int.mul_ediv_cancel _ (by decide), monthIndex_monthStart]

theorem dvd_microsPerDay {unit : TimeUnit} (hfixed : unit.fixedSeconds?.isSome = true)
    (hweek : unit ≠ .week) : unit.micros ∣ microsPerDay := by
  revert hfixed hweek
  cases unit <;> decide

/-- A start of a unit is a start of all units that it is made up of. -/
theorem floor_eq_of_atMost (h : f.AtMost c) (hb : floor b c = b) : floor b f = b := by
  have hday (hf : f.micros ∣ microsPerDay) (hc : c ∈ [TimeUnit.day, .week, .month, .year]) :
      floor b f = b :=
    (floor_eq_iff_dvd hf).2
      (Int.dvd_trans (Int.natCast_dvd_natCast.2 hf) (day_dvd_of_floor hc hb))
  rcases h.cases with ⟨hf, hc, hdvd⟩ | ⟨hf, rfl | rfl⟩ | ⟨rfl, rfl | rfl⟩ | ⟨rfl, rfl⟩
  · by_cases hfweek : f = .week
    · -- no other unit of fixed length is made up of weeks
      subst hfweek
      cases c with
      | week => exact hb
      | _ => exact absurd hdvd (by decide)
    · by_cases hcweek : c = .week
      · exact hday (dvd_microsPerDay hf hfweek) (by simp [hcweek])
      · have hcdvd := (floor_eq_iff_dvd (dvd_microsPerDay hc hcweek)).1 hb
        refine (floor_eq_iff_dvd (dvd_microsPerDay hf hfweek)).2 ?_
        exact Int.dvd_trans (Int.natCast_dvd_natCast.2 hdvd) hcdvd
  · exact hday hf (by simp)
  · exact hday hf (by simp)
  · exact hb
  · exact floor_month_of_floor_year hb
  · exact hb

/-! ### Two roundings -/

/-- After a rounding, one to a unit that it is made up of changes nothing. -/
theorem floor_floor_eq_inner (h : f.AtMost c) (n : Int) : floor (floor n c) f = floor n c :=
  floor_eq_of_atMost h (floor_floor n c)

/-- Before a rounding, one to a unit that it is made up of makes no difference: the start of the
longer unit is not after that of the shorter one, and so it is found from there as well. -/
theorem floor_floor_eq_outer (h : f.AtMost c) (n : Int) : floor (floor n f) c = floor n c := by
  have hstart : floor n c ≤ floor n f :=
    (le_floor_iff (floor_floor_eq_inner h n)).2 (floor_le n c)
  refine Int.le_antisymm (floor_mono (floor_le n f) c) ?_
  exact (le_floor_iff (floor_floor n c)).2 hstart

end Exact

/-! ### Programs -/

variable {f c : TimeUnit}

/-- An operation that gives the same from two instants has the same outcome from both. -/
theorem evaluate_singleton_congr {op : Operation} {s t : DateTime}
    (h : ∀ u, op.apply s = .ok u ↔ op.apply t = .ok u) : evaluate [op] s = evaluate [op] t := by
  cases ht : op.apply t with
  | ok u => exact (evaluate_cons_of_ok ((h u).2 ht)).trans (evaluate_cons_of_ok ht).symm
  | error fault =>
    cases hs : op.apply s with
    | ok u => simp [(h u).1 hs] at ht
    | error fault' => exact (evaluate_cons_of_error hs).trans (evaluate_cons_of_error ht).symm

/-- A rounding is not seen before one to a unit that is made up of its own. -/
theorem sameOutcome_round_before (h : f.AtMost c) :
    SameOutcome [.round f, .round c] [.round c] := by
  intro t
  cases hf : (Operation.round f).apply t with
  | ok s =>
    obtain ⟨hticks, hoffset⟩ := (apply_eq_ok_iff _).1 hf
    refine (evaluate_cons_of_ok hf).trans (evaluate_singleton_congr ?_)
    intro u
    have hround : Exact.apply s.ticks (.round c) = Exact.apply t.ticks (.round c) := by
      rw [hticks]
      exact Exact.floor_floor_eq_outer h t.ticks
    rw [apply_eq_ok_iff, apply_eq_ok_iff, hround, hoffset]
  | error fault =>
    -- only a week can start before the calendar, and no other unit is made up of weeks
    obtain ⟨rfl, -⟩ := DateTime.exists_floor_eq_error_iff.1 ⟨fault, hf⟩
    obtain rfl : c = .week := by
      revert h
      cases c <;> decide
    exact (evaluate_cons_of_error hf).trans (evaluate_cons_of_error hf).symm

/-- Nor is it seen after one. -/
theorem sameOutcome_round_after (h : f.AtMost c) :
    SameOutcome [.round c, .round f] [.round c] := by
  intro t
  cases hc : (Operation.round c).apply t with
  | ok s =>
    have hs : (Operation.round f).apply s = .ok s := by
      rw [apply_eq_ok_iff, ((apply_eq_ok_iff _).1 hc).1]
      exact ⟨(Exact.floor_floor_eq_inner h t.ticks).symm, rfl⟩
    rw [evaluate_cons_of_ok hc, evaluate_cons_of_ok hc]
    exact evaluate_cons_of_ok hs
  | error fault => exact (evaluate_cons_of_error hc).trans (evaluate_cons_of_error hc).symm

/-- A rounding stands for any number of roundings around it, if its unit is made up of all of
theirs. -/
theorem sameOutcome_rounds {shorter shorter' : List TimeUnit} (h : ∀ f ∈ shorter, f.AtMost c)
    (h' : ∀ f ∈ shorter', f.AtMost c) :
    SameOutcome (shorter.map .round ++ .round c :: shorter'.map .round) [.round c] := by
  have hafter : SameOutcome (.round c :: shorter'.map .round) [.round c] := by
    induction shorter' with
    | nil => exact fun t => rfl
    | cons f shorter' ih =>
      obtain ⟨hf, hrest⟩ := List.forall_mem_cons.1 h'
      exact ((sameOutcome_round_after hf).append_right _).trans (ih hrest)
  induction shorter with
  | nil => exact hafter
  | cons f shorter ih =>
    obtain ⟨hf, hrest⟩ := List.forall_mem_cons.1 h
    exact ((ih hrest).append_left [.round f]).trans (sameOutcome_round_before hf)

/-- **Roundings absorb those to the units that they are made up of.**  Anywhere in a program, a
rounding may be left out before or after one to a unit that is made up of its own: the program
leads to the same instant as before, or leaves the calendar with the same operation. -/
theorem evaluate_round_absorb {f c : TimeUnit} (h : f.AtMost c) (before after : List Operation)
    (base : DateTime) :
    evaluate (before ++ [.round f, .round c] ++ after) base =
      evaluate (before ++ [.round c] ++ after) base ∧
    evaluate (before ++ [.round c, .round f] ++ after) base =
      evaluate (before ++ [.round c] ++ after) base :=
  ⟨(sameOutcome_round_before h).within before after base,
    (sameOutcome_round_after h).within before after base⟩

/-- In March, the day is not seen beside the month, whatever comes before and after.  The second
day of the calendar has no week, with its day or without.  A week is seen before a month, for the
first of March is in a week of February. -/
theorem evaluate_round_absorb_leapMarch :
    (TimeUnit.day.AtMost .month ∧ ∃ t,
      evaluate ([.shift .plus 1 .week] ++ [.round .month] ++ [.shift .minus 1 .second])
        .leapMarch = .ok t ∧
      evaluate ([.shift .plus 1 .week] ++ [.round .day, .round .month] ++
        [.shift .minus 1 .second]) .leapMarch = .ok t ∧
      evaluate ([.shift .plus 1 .week] ++ [.round .month, .round .day] ++
        [.shift .minus 1 .second]) .leapMarch = .ok t) ∧
    (TimeUnit.day.AtMost .week ∧
      evaluate ([] ++ [.round .day, .round .week] ++ []) .secondDay =
        .error (.outOfRange "/w")) ∧
    ¬ TimeUnit.week.AtMost .month ∧
    ∃ t t', evaluate [.round .week, .round .month] .leapMarch = .ok t ∧
      evaluate [.round .month] .leapMarch = .ok t' ∧ t.ticks < t'.ticks := by
  have hmonth : TimeUnit.day.AtMost .month := by decide
  have hweek : TimeUnit.day.AtMost .week := by decide
  obtain ⟨hbefore, hafter⟩ :=
    evaluate_round_absorb hmonth [.shift .plus 1 .week] [.shift .minus 1 .second] .leapMarch
  have hfirst := (evaluate_round_absorb hweek [] [] .secondDay).1
  exact ⟨⟨hmonth, _, rfl, hbefore.trans rfl, hafter.trans rfl⟩, ⟨hweek, hfirst.trans rfl⟩,
    by decide, _, _, rfl, rfl, by decide⟩

end RelativeTime
