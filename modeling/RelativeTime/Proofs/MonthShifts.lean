/-
Shifts by months and years.

A shift by years is a shift by twelve times as many months, and a shift by months adds to the
month index of the date.  The day of the month is kept, unless the new month is too short.  A
whole run of such shifts is known from the months that it visits:

* `Date.shiftMonths_eq_toMonth`, `Date.shiftYears_eq_toMonth` : both are moves to another month;
* `exists_apply_of_inYears`, `exists_apply_of_not_inYears` : one step, by the month it leads to;
* `exists_evaluate_of_inYears`, `evaluate_month_shifts_eq_error_iff` : a run, by the months on
  the way;
* `apply_year_eq_apply_month`, `exists_evaluate_there_and_back` : what follows for twelve months,
  and for as many months forth and back;
* `evaluate_month_shifts` : all of it together.

## Design notes

The day is lowered on the way and never raised again, so it is the least of the day of the start
and the lengths of all months visited, and not just of the last one.  The month of the start is
not among them; it has its own day anyway.
-/
import RelativeTime.Proofs.ExactOrder
import RelativeTime.Proofs.Simulation

namespace RelativeTime

/-- The index of the month of a date, counted from January of year 0. -/
def Date.monthIndex (d : Date) : Int := 12 * d.year + d.month - 1

/-- Whether a month index belongs to one of the years of the calendar. -/
def InYears (i : Int) : Prop := 1 ≤ i / 12 ∧ i / 12 ≤ 9999

instance (i : Int) : Decidable (InYears i) := inferInstanceAs (Decidable (_ ∧ _))

namespace Operation

/-- Shifts by months or years. -/
inductive IsMonthShift : Operation → Prop
  | month (sign : Sign) (magnitude : Nat) : IsMonthShift (.shift sign magnitude .month)
  | year (sign : Sign) (magnitude : Nat) : IsMonthShift (.shift sign magnitude .year)

/-- The months that an operation moves by, if it is a shift by months or years. -/
def months : Operation → Int
  | shift sign magnitude .month => sign.apply magnitude
  | shift sign magnitude .year => 12 * sign.apply magnitude
  | _ => 0

end Operation

/-- The month index to which operations lead from `i`. -/
def monthAfter (i : Int) (ops : List Operation) : Int := ops.foldl (fun j op => j + op.months) i

theorem monthAfter_cons (i : Int) (op : Operation) (ops : List Operation) :
    monthAfter i (op :: ops) = monthAfter (i + op.months) ops := rfl

/-- The month indices after each of some operations, from `i` on. -/
def monthsVisited (i : Int) : List Operation → List Int
  | [] => []
  | op :: ops => (i + op.months) :: monthsVisited (i + op.months) ops

/-- A day of the month, lowered to the length of each of some months. -/
def lowered (day : Nat) (months : List Int) : Nat := (months.map Exact.monthDays).foldl min day

/-- Whether `u` has the time of day and the offset of `t`, on a day of a month. -/
structure DateTime.MovedTo (t u : DateTime) (month : Int) (day : Nat) : Prop where
  month_eq : u.date.monthIndex = month
  day_eq : u.date.day = day
  time_eq : u.time = t.time
  offset_eq : u.offset = t.offset

/-! ### Moving to a month -/

namespace Date

variable {d : Date} {i : Int}

theorem inYears_monthIndex (d : Date) : InYears d.monthIndex := by
  have hyear := d.year_mem
  have hmonth := d.month_mem
  rw [InYears, monthIndex]
  omega

theorem monthDays_monthIndex (d : Date) :
    Exact.monthDays d.monthIndex = monthLength d.year d.month := by
  have hmonth := d.month_mem
  rw [Exact.monthDays, monthIndex, show (12 * d.year + d.month - 1) / 12 = d.year by omega,
    show ((12 * d.year + d.month - 1) % 12).toNat + 1 = d.month by omega]

/-- The date with the day of `d` in the month with the index `i`, or with the last day of that
month if it is too short. -/
def toMonth (d : Date) (i : Int) : Except RangeFault Date :=
  d.inMonth (i / 12) ((i % 12).toNat + 1) (by omega)

theorem inMonth_congr {y z : Int} {m k : Nat} {hm : 1 ≤ m ∧ m ≤ 12} {hk : 1 ≤ k ∧ k ≤ 12}
    (hy : y = z) (h : m = k) : d.inMonth y m hm = d.inMonth z k hk := by
  subst hy h
  rfl

theorem shiftMonths_eq_toMonth (d : Date) (k : Int) :
    d.shiftMonths k = d.toMonth (d.monthIndex + k) := by
  rw [shiftMonths, toMonth]
  refine inMonth_congr ?_ ?_
  · rw [monthIndex]
    omega
  · rw [monthIndex]
    omega

theorem shiftYears_eq_toMonth (d : Date) (k : Int) :
    d.shiftYears k = d.toMonth (d.monthIndex + 12 * k) := by
  have hmonth := d.month_mem
  rw [shiftYears, toMonth]
  refine inMonth_congr ?_ ?_
  · rw [monthIndex]
    omega
  · rw [monthIndex]
    omega

theorem exists_toMonth (d : Date) (h : InYears i) :
    ∃ e, d.toMonth i = .ok e ∧ e.monthIndex = i ∧ e.day = min d.day (Exact.monthDays i) := by
  refine ⟨_, dif_pos h, ?_, rfl⟩
  show 12 * (i / 12) + ((i % 12).toNat + 1 : Nat) - 1 = i
  omega

theorem toMonth_eq_error (d : Date) (h : ¬ InYears i) :
    d.toMonth i = .error (yearFault (i / 12)) :=
  dif_neg h

end Date

/-! ### One step -/

variable {t base : DateTime} {op : Operation} {ops : List Operation}

/-- Months and years are one kind of shift. -/
theorem apply_of_isMonthShift (h : op.IsMonthShift) (t : DateTime) :
    op.apply t = (t.date.toMonth (t.date.monthIndex + op.months)).map fun d =>
      { t with date := d } := by
  cases h with
  | month sign magnitude =>
    show (t.date.shiftMonths _).map _ = _
    rw [Date.shiftMonths_eq_toMonth]
    rfl
  | year sign magnitude =>
    show (t.date.shiftYears _).map _ = _
    rw [Date.shiftYears_eq_toMonth]
    rfl

theorem exists_apply_of_inYears (hop : op.IsMonthShift)
    (h : InYears (t.date.monthIndex + op.months)) :
    ∃ u, op.apply t = .ok u ∧ t.MovedTo u (t.date.monthIndex + op.months)
      (min t.date.day (Exact.monthDays (t.date.monthIndex + op.months))) := by
  obtain ⟨d, hd, hmonth, hday⟩ := t.date.exists_toMonth h
  refine ⟨{ t with date := d }, ?_, hmonth, hday, rfl, rfl⟩
  rw [apply_of_isMonthShift hop, hd]
  rfl

theorem exists_apply_of_not_inYears (hop : op.IsMonthShift)
    (h : ¬ InYears (t.date.monthIndex + op.months)) : ∃ fault, op.apply t = .error fault := by
  rw [apply_of_isMonthShift hop, Date.toMonth_eq_error _ h]
  exact ⟨_, rfl⟩

/-- Twelve months are a year. -/
theorem apply_year_eq_apply_month (sign : Sign) (n : Nat) (t : DateTime) :
    (Operation.shift sign n .year).apply t = (Operation.shift sign (12 * n) .month).apply t := by
  have hmonths : (Operation.shift sign n .year).months =
      (Operation.shift sign (12 * n) .month).months := by
    cases sign with
    | plus =>
      show 12 * (n : Int) = (12 * n : Nat)
      omega
    | minus =>
      show 12 * -(n : Int) = -(12 * n : Nat)
      omega
  rw [apply_of_isMonthShift (.year sign n), apply_of_isMonthShift (.month sign (12 * n)), hmonths]

/-! ### Runs -/

/-- A run whose months are all in the calendar adds them up, and lowers the day to the shortest
month on the way. -/
theorem exists_evaluate_of_inYears (hops : ∀ op ∈ ops, op.IsMonthShift)
    (h : ∀ i ∈ monthsVisited base.date.monthIndex ops, InYears i) :
    ∃ t, evaluate ops base = .ok t ∧ base.MovedTo t (monthAfter base.date.monthIndex ops)
      (lowered base.date.day (monthsVisited base.date.monthIndex ops)) := by
  -- The induction is on the shifts, from any start: the rest of them run from the month and the
  -- day that the first one leads to.
  induction ops generalizing base with
  | nil => exact ⟨base, rfl, rfl, rfl, rfl, rfl⟩
  | cons op ops ih =>
    obtain ⟨hop, hrest⟩ := List.forall_mem_cons.1 hops
    obtain ⟨hfirst, hvisited⟩ := List.forall_mem_cons.1 h
    obtain ⟨u, hu, hmoved⟩ := exists_apply_of_inYears hop hfirst
    rw [← hmoved.month_eq] at hvisited
    obtain ⟨t, ht, hend⟩ := ih hrest hvisited
    rw [hmoved.month_eq, hmoved.day_eq] at hend
    refine ⟨t, (evaluate_cons_of_ok hu).trans ht, ?_, hend.day_eq, ?_, ?_⟩
    · rw [hend.month_eq, monthAfter_cons]
    · rw [hend.time_eq, hmoved.time_eq]
    · rw [hend.offset_eq, hmoved.offset_eq]

/-- Of the shifts of a run that leaves the calendar, one is the first to do so. -/
theorem exists_first_not_inYears {i : Int} (h : ¬ ∀ j ∈ monthsVisited i ops, InYears j) :
    ∃ before op after, ops = before ++ op :: after ∧
      (∀ j ∈ monthsVisited i before, InYears j) ∧ ¬ InYears (monthAfter i (before ++ [op])) := by
  induction ops generalizing i with
  | nil => exact absurd (List.forall_mem_nil _) h
  | cons op ops ih =>
    by_cases hfirst : InYears (i + op.months)
    · have hrest : ¬ ∀ j ∈ monthsVisited (i + op.months) ops, InYears j := by
        intro hall
        exact h (List.forall_mem_cons.2 ⟨hfirst, hall⟩)
      obtain ⟨before, op', after, rfl, hbefore, hout⟩ := ih hrest
      refine ⟨op :: before, op', after, rfl, List.forall_mem_cons.2 ⟨hfirst, hbefore⟩, ?_⟩
      rw [List.cons_append, monthAfter_cons]
      exact hout
    · exact ⟨[], op, ops, rfl, List.forall_mem_nil _, by simpa [monthAfter] using hfirst⟩

/-- The first shift that leaves the calendar is the one that is named. -/
theorem evaluate_of_first_not_inYears {before after : List Operation}
    (hops : ∀ p ∈ before ++ op :: after, p.IsMonthShift)
    (hbefore : ∀ i ∈ monthsVisited base.date.monthIndex before, InYears i)
    (hout : ¬ InYears (monthAfter base.date.monthIndex (before ++ [op]))) :
    FailsAt (evaluate (before ++ op :: after) base) op := by
  induction before generalizing base with
  | nil =>
    have hop := (List.forall_mem_cons.1 hops).1
    obtain ⟨fault, hfault⟩ := exists_apply_of_not_inYears hop (by simpa [monthAfter] using hout)
    exact failsAt_of_apply_eq_error hfault
  | cons p before ih =>
    obtain ⟨hp, hrest⟩ := List.forall_mem_cons.1 hops
    obtain ⟨hfirst, hvisited⟩ := List.forall_mem_cons.1 hbefore
    obtain ⟨u, hu, hmoved⟩ := exists_apply_of_inYears hp hfirst
    rw [List.cons_append, monthAfter_cons, ← hmoved.month_eq] at hout
    rw [← hmoved.month_eq] at hvisited
    rw [List.cons_append, evaluate_cons_of_ok hu]
    exact ih hrest hvisited hout

/-- A run fails just where its first shift that leads out of the calendar is. -/
theorem evaluate_month_shifts_eq_error_iff {e : Error} (hops : ∀ op ∈ ops, op.IsMonthShift) :
    evaluate ops base = .error e ↔ ∃ before op after, ops = before ++ op :: after ∧
      (∀ i ∈ monthsVisited base.date.monthIndex before, InYears i) ∧
      ¬ InYears (monthAfter base.date.monthIndex (before ++ [op])) ∧ FailsAt (.error e) op := by
  constructor
  · intro he
    have hleaves : ¬ ∀ i ∈ monthsVisited base.date.monthIndex ops, InYears i := by
      intro hall
      obtain ⟨t, ht, -⟩ := exists_evaluate_of_inYears hops hall
      rw [ht] at he
      cases he
    obtain ⟨before, op, after, rfl, hbefore, hout⟩ := exists_first_not_inYears hleaves
    have hfails := evaluate_of_first_not_inYears hops hbefore hout
    rw [he] at hfails
    exact ⟨before, op, after, rfl, hbefore, hout, hfails⟩
  · rintro ⟨before, op, after, rfl, hbefore, hout, he⟩
    rw [failsAt_iff.1 (evaluate_of_first_not_inYears hops hbefore hout), failsAt_iff.1 he]

/-- As many months forth and back lead to the same month, with the day lowered to the length of
the month between. -/
theorem exists_evaluate_there_and_back (base : DateTime) {n : Nat}
    (h : InYears (base.date.monthIndex + n)) :
    ∃ t, evaluate [.shift .plus n .month, .shift .minus n .month] base = .ok t ∧
      base.MovedTo t base.date.monthIndex
        (min base.date.day (Exact.monthDays (base.date.monthIndex + n))) := by
  have hops : ∀ op ∈ [Operation.shift .plus n .month, .shift .minus n .month],
      op.IsMonthShift := by
    simp [Operation.IsMonthShift.month]
  have hback : base.date.monthIndex + n + -(n : Int) = base.date.monthIndex := by omega
  have hvisited : monthsVisited base.date.monthIndex
      [.shift .plus n .month, .shift .minus n .month] =
        [base.date.monthIndex + n, base.date.monthIndex] := by
    show [base.date.monthIndex + n, base.date.monthIndex + n + -(n : Int)] = _
    rw [hback]
  have hyears : ∀ i ∈ [base.date.monthIndex + n, base.date.monthIndex], InYears i := by
    simp [h, base.date.inYears_monthIndex]
  rw [← hvisited] at hyears
  obtain ⟨t, ht, hmoved⟩ := exists_evaluate_of_inYears hops hyears
  refine ⟨t, ht, ?_, ?_, hmoved.time_eq, hmoved.offset_eq⟩
  · rw [hmoved.month_eq]
    exact hback
  · -- the month of the start has the day of the start
    have hday := base.date.day_mem
    rw [hmoved.day_eq, hvisited]
    simp only [lowered, List.map_cons, List.map_nil, List.foldl_cons, List.foldl_nil,
      Date.monthDays_monthIndex]
    omega

/-- **Runs of shifts by months and years.**  As long as every month on the way is in the
calendar, the months add up, the day is lowered to the shortest of them, and the time of day and
the offset stay; otherwise the run fails at the first shift that leads to a month outside, and
names it if it can be written.  So years and twelve times as many months come to the same, or
neither can be done, and as many months forth and back give the start, with its day lowered to
the month between. -/
theorem evaluate_month_shifts (base : DateTime) :
    (∀ ops : List Operation, (∀ op ∈ ops, op.IsMonthShift) →
      ((∀ i ∈ monthsVisited base.date.monthIndex ops, InYears i) →
        ∃ t, evaluate ops base = .ok t ∧
          base.MovedTo t (monthAfter base.date.monthIndex ops)
            (lowered base.date.day (monthsVisited base.date.monthIndex ops))) ∧
      ∀ e, evaluate ops base = .error e ↔ ∃ before op after, ops = before ++ op :: after ∧
        (∀ i ∈ monthsVisited base.date.monthIndex before, InYears i) ∧
        ¬ InYears (monthAfter base.date.monthIndex (before ++ [op])) ∧ FailsAt (.error e) op) ∧
    (∀ (sign : Sign) (n : Nat),
      (∃ t, evaluate [.shift sign n .year] base = .ok t ∧
        evaluate [.shift sign (12 * n) .month] base = .ok t) ∨
      (FailsAt (evaluate [.shift sign n .year] base) (.shift sign n .year) ∧
        FailsAt (evaluate [.shift sign (12 * n) .month] base) (.shift sign (12 * n) .month))) ∧
    (∀ n : Nat, InYears (base.date.monthIndex + n) →
      ∃ t, evaluate [.shift .plus n .month, .shift .minus n .month] base = .ok t ∧
        base.MovedTo t base.date.monthIndex
          (min base.date.day (Exact.monthDays (base.date.monthIndex + n)))) := by
  refine ⟨?_, ?_, fun n => exists_evaluate_there_and_back base⟩
  · intro ops hops
    exact ⟨exists_evaluate_of_inYears hops, fun e => evaluate_month_shifts_eq_error_iff hops⟩
  intro sign n
  have hsame := apply_year_eq_apply_month sign n base
  cases hyear : (Operation.shift sign n .year).apply base with
  | ok t =>
    rw [hyear] at hsame
    exact .inl ⟨t, evaluate_cons_of_ok hyear, evaluate_cons_of_ok hsame.symm⟩
  | error fault =>
    rw [hyear] at hsame
    exact .inr ⟨failsAt_of_apply_eq_error hyear, failsAt_of_apply_eq_error hsame.symm⟩

/-- The last day of January of a leap year, at noon, without an offset. -/
def DateTime.leapJanuary : DateTime :=
  .ofTicks (Exact.dayNumber 2024 1 31 * microsPerDay + 43200000000) none (by decide)

/-- February of the leap year and February of the next one each lower the day, and the January
after them does not raise it.  Beyond the calendar, the way back comes too late. -/
theorem evaluate_month_shifts_leapJanuary :
    (∀ op ∈ [Operation.shift .plus 1 .month, .shift .plus 1 .year, .shift .minus 1 .month],
      op.IsMonthShift) ∧
    (∃ t, evaluate [.shift .plus 1 .month, .shift .plus 1 .year, .shift .minus 1 .month]
        .leapJanuary = .ok t ∧ DateTime.leapJanuary.MovedTo t (12 * 2025) 28) ∧
    (∀ op ∈ [Operation.shift .plus 1 .month, .shift .plus 9999 .year, .shift .minus 9999 .year],
      op.IsMonthShift) ∧
    evaluate [.shift .plus 1 .month, .shift .plus 9999 .year, .shift .minus 9999 .year]
      .leapJanuary = .error (.outOfRange "+9999y") ∧
    ∃ t, evaluate [.shift .plus 13 .month, .shift .minus 13 .month] .leapJanuary = .ok t ∧
      DateTime.leapJanuary.MovedTo t (12 * 2024) 28 := by
  obtain ⟨hruns, -, hback⟩ := evaluate_month_shifts .leapJanuary
  have hstays : ∀ op ∈ [Operation.shift .plus 1 .month, .shift .plus 1 .year,
      .shift .minus 1 .month], op.IsMonthShift := by
    simp [Operation.IsMonthShift.month, Operation.IsMonthShift.year]
  have hleaves : ∀ op ∈ [Operation.shift .plus 1 .month, .shift .plus 9999 .year,
      .shift .minus 9999 .year], op.IsMonthShift := by
    simp [Operation.IsMonthShift.month, Operation.IsMonthShift.year]
  refine ⟨hstays, (hruns _ hstays).1 (by decide), hleaves, ?_, hback 13 (by decide)⟩
  exact ((hruns _ hleaves).2 _).2 ⟨[.shift .plus 1 .month], .shift .plus 9999 .year,
    [.shift .minus 9999 .year], rfl, by decide, by decide, failsAt_iff.2 rfl⟩

end RelativeTime
