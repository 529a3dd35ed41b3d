/-
Evaluation keeps the order.

A shift along the calendar keeps the order of days, but not that of the times on them: two days
may be clamped to the same one.  If a rounding to a day or to something longer follows at once,
the order of days is all that counts:

* `MonthShiftsRounded` : the programs in which this is so;
* `Exact.InOrderFor` : whether two local times are in order, as far as a program can tell;
* `Exact.inOrderFor_apply`, `Exact.run_mono` : one operation keeps the order, and so does a run;
* `Exact.stays_of_between` : between two runs that stay in the calendar, all runs do;
* `evaluate_mono` : the main statement.
-/
import RelativeTime.Proofs.MonthShifts
import RelativeTime.Proofs.UnitBoundaries

namespace RelativeTime

/-- Whether operations begin with a rounding to a day, a week, a month or a year. -/
def RoundsToDays (ops : List Operation) : Prop :=
  ∃ unit ∈ [TimeUnit.day, .week, .month, .year], ops.head? = some (.round unit)

theorem not_roundsToDays_nil : ¬ RoundsToDays [] := by
  rintro ⟨unit, -, hhead⟩
  cases hhead

theorem not_roundsToDays_shift (sign : Sign) (magnitude : Nat) (unit : TimeUnit)
    (ops : List Operation) : ¬ RoundsToDays (.shift sign magnitude unit :: ops) := by
  rintro ⟨unit, -, hhead⟩
  cases hhead

theorem mem_of_roundsToDays {unit : TimeUnit} {ops : List Operation}
    (h : RoundsToDays (.round unit :: ops)) : unit ∈ [TimeUnit.day, .week, .month, .year] := by
  obtain ⟨unit', hunit, hhead⟩ := h
  cases hhead
  exact hunit

/-- Whether every shift by months or years is followed at once by a rounding to a day, a week, a
month or a year. -/
def MonthShiftsRounded : List Operation → Prop
  | [] => True
  | op :: ops => (op.IsMonthShift → RoundsToDays ops) ∧ MonthShiftsRounded ops

namespace Exact

variable {n m b : Int} {op : Operation} {ops : List Operation}

/-! ### Days -/

/-- A rounding to a day or to something longer does not look at the time of day. -/
theorem floor_congr_of_days {unit : TimeUnit} (hunit : unit ∈ [TimeUnit.day, .week, .month, .year])
    (h : n / microsPerDay = m / microsPerDay) : floor n unit = floor m unit := by
  cases unit with
  | second => exact absurd hunit (by decide)
  | minute => exact absurd hunit (by decide)
  | hour => exact absurd hunit (by decide)
  | month => rw [floor, floor, h]
  | year => rw [floor, floor, h]
  | _ =>
    simp only [floor, TimeUnit.micros, TimeUnit.approximateSeconds, microsPerDay] at h ⊢
    omega

theorem floor_mono_of_days {unit : TimeUnit} (hunit : unit ∈ [TimeUnit.day, .week, .month, .year])
    (h : n / microsPerDay ≤ m / microsPerDay) : floor n unit ≤ floor m unit := by
  -- both are rounded from the start of their days
  have hstart (k : Int) : k / microsPerDay * microsPerDay / microsPerDay = k / microsPerDay :=
    Int.mul_ediv_cancel _ (by decide)
  rw [floor_congr_of_days hunit (hstart n).symm, floor_congr_of_days hunit (hstart m).symm]
  exact floor_mono (Int.mul_le_mul_of_nonneg_right h (by decide)) unit

/-- A shift of fixed length keeps the order. -/
theorem shift_mono {unit : TimeUnit} (hfixed : unit.fixedSeconds?.isSome = true) (h : n ≤ m)
    (k : Int) : shift n k unit ≤ shift m k unit := by
  rw [shift_of_fixed hfixed, shift_of_fixed hfixed]
  exact Int.add_le_add_right h _

/-- A shift along the calendar keeps the order of days. -/
theorem apply_div_mono (hop : op.IsMonthShift) (h : n / microsPerDay ≤ m / microsPerDay) :
    apply n op / microsPerDay ≤ apply m op / microsPerDay := by
  cases hop with
  | month sign magnitude =>
    rw [apply, apply, shift, shift, onDay_div, onDay_div]
    exact inMonth_mono h _
  | year sign magnitude =>
    rw [apply, apply, shift, shift, onDay_div, onDay_div]
    exact inMonth_mono h _

/-! ### Runs -/

/-- Whether `n` is not after `m`, as far as operations can tell: of those that begin with a
rounding to a day or to something longer, only by the day. -/
def InOrderFor (ops : List Operation) (n m : Int) : Prop :=
  n / microsPerDay ≤ m / microsPerDay ∧ (¬ RoundsToDays ops → n ≤ m)

theorem inOrderFor_of_le (h : n ≤ m) (ops : List Operation) : InOrderFor ops n m :=
  ⟨Int.ediv_le_ediv (by decide) h, fun _ => h⟩

/-- An operation keeps the order for those after it. -/
theorem inOrderFor_apply (hops : MonthShiftsRounded (op :: ops)) (h : InOrderFor (op :: ops) n m) :
    InOrderFor ops (apply n op) (apply m op) := by
  obtain ⟨hday, htime⟩ := h
  cases op with
  | round unit =>
    refine inOrderFor_of_le ?_ ops
    by_cases hunit : unit ∈ [TimeUnit.day, .week, .month, .year]
    · exact floor_mono_of_days hunit hday
    · exact floor_mono (htime fun hdays => hunit (mem_of_roundsToDays hdays)) unit
  | shift sign magnitude unit =>
    have hle : n ≤ m := htime (not_roundsToDays_shift sign magnitude unit ops)
    by_cases hfixed : unit.fixedSeconds?.isSome = true
    · exact inOrderFor_of_le (shift_mono hfixed hle _) ops
    · -- the rounding that follows looks at the days alone
      have hop : (Operation.shift sign magnitude unit).IsMonthShift := by
        cases unit with
        | month => exact .month sign magnitude
        | year => exact .year sign magnitude
        | _ => exact absurd rfl hfixed
      exact ⟨apply_div_mono hop hday, fun hnot => absurd (hops.1 hop) hnot⟩

/-- A run keeps the order. -/
theorem run_mono (hops : MonthShiftsRounded ops) (h : InOrderFor ops n m) :
    run ops n ≤ run ops m := by
  induction ops generalizing n m with
  | nil => exact h.2 not_roundsToDays_nil
  | cons op ops ih => exact ih hops.2 (inOrderFor_apply hops h)

/-- The calendar has all days between two of its days. -/
theorem inCalendar_of_between (hn : InCalendar n) (hm : InCalendar m)
    (hnb : n / microsPerDay ≤ b / microsPerDay) (hbm : b / microsPerDay ≤ m / microsPerDay) :
    InCalendar b := by
  rw [InCalendar, DateTime.tickCount, Date.dayCount] at *
  rw [microsPerDay] at *
  omega

/-- Between two runs that stay in the calendar, all runs do. -/
theorem stays_of_between (hops : MonthShiftsRounded ops) (hn : Stays ops n) (hm : Stays ops m)
    (hnb : InOrderFor ops n b) (hbm : InOrderFor ops b m) : Stays ops b := by
  induction ops generalizing n m b with
  | nil =>
    rw [stays_nil] at *
    exact inCalendar_of_between hn hm hnb.1 hbm.1
  | cons op ops ih =>
    rw [stays_cons] at *
    refine ⟨inCalendar_of_between hn.1 hm.1 hnb.1 hbm.1, ?_⟩
    exact ih hops.2 hn.2 hm.2 (inOrderFor_apply hops hnb) (inOrderFor_apply hops hbm)

end Exact

/-! ### Evaluation -/

/-- **Evaluation keeps the order.**  If every shift by months or years is followed at once by a
rounding to a day or to something longer, and evaluation succeeds from two instants with the same
offset, then it leads to two instants in the same order, and it succeeds from every instant
between them, with a result between theirs. -/
theorem evaluate_mono {ops : List Operation} {b₁ b₂ t₁ t₂ : DateTime}
    (hops : MonthShiftsRounded ops) (hle : b₁.NotAfter b₂) (h₁ : evaluate ops b₁ = .ok t₁)
    (h₂ : evaluate ops b₂ = .ok t₂) :
    t₁.NotAfter t₂ ∧ ∀ b : DateTime, b₁.NotAfter b → b.NotAfter b₂ →
      ∃ t, evaluate ops b = .ok t ∧ t₁.NotAfter t ∧ t.NotAfter t₂ := by
  -- Runs from instants in order end in order.
  have hmono {b c t u : DateTime} (hbc : b.NotAfter c) (ht : evaluate ops b = .ok t)
      (hu : evaluate ops c = .ok u) : t.NotAfter u := by
    obtain ⟨-, hticks, hoffset⟩ := evaluate_eq_ok_iff.1 ht
    obtain ⟨-, hticks', hoffset'⟩ := evaluate_eq_ok_iff.1 hu
    refine ⟨hoffset.trans (hbc.1.trans hoffset'.symm), ?_⟩
    rw [hticks, hticks']
    exact Exact.run_mono hops (Exact.inOrderFor_of_le hbc.2 ops)
  refine ⟨hmono hle h₁ h₂, ?_⟩
  intro b hlow hhigh
  have hstays : Exact.Stays ops b.ticks :=
    Exact.stays_of_between hops (evaluate_eq_ok_iff.1 h₁).1 (evaluate_eq_ok_iff.1 h₂).1
      (Exact.inOrderFor_of_le hlow.2 ops) (Exact.inOrderFor_of_le hhigh.2 ops)
  obtain ⟨t, ht, -⟩ := exists_evaluate_eq_ok hstays
  exact ⟨t, ht, hmono hlow h₁ ht, hmono hhigh ht h₂⟩

/-- Six in the evening of the thirtieth of January 2024, without an offset. -/
def DateTime.januaryEvening : DateTime :=
  .ofTicks (Exact.dayNumber 2024 1 30 * microsPerDay + 64800000000) none (by decide)

/-- A month later, this evening and the next noon are on one day, and the noon would come first;
the rounding brings them together. -/
theorem evaluate_mono_januaryEvening :
    MonthShiftsRounded [.shift .plus 1 .month, .round .day, .shift .minus 90 .minute] ∧
    DateTime.januaryEvening.NotAfter .leapJanuary ∧
    (∃ t₁ t₂,
      evaluate [.shift .plus 1 .month, .round .day, .shift .minus 90 .minute]
        .januaryEvening = .ok t₁ ∧
      evaluate [.shift .plus 1 .month, .round .day, .shift .minus 90 .minute]
        .leapJanuary = .ok t₂ ∧
      t₁.NotAfter t₂ ∧ ∀ b : DateTime, DateTime.januaryEvening.NotAfter b →
        b.NotAfter .leapJanuary →
        ∃ t, evaluate [.shift .plus 1 .month, .round .day, .shift .minus 90 .minute] b = .ok t ∧
          t₁.NotAfter t ∧ t.NotAfter t₂) ∧
    ∃ u₁ u₂, evaluate [.shift .plus 1 .month] .januaryEvening = .ok u₁ ∧
      evaluate [.shift .plus 1 .month] .leapJanuary = .ok u₂ ∧ u₂.ticks < u₁.ticks := by
  have hops : MonthShiftsRounded
      [.shift .plus 1 .month, .round .day, .shift .minus 90 .minute] := by
    refine ⟨fun _ => ⟨.day, by decide, rfl⟩, ?_, ?_, trivial⟩
    · intro hround
      cases hround
    · intro hminute
      cases hminute
  have hle : DateTime.januaryEvening.NotAfter .leapJanuary := ⟨rfl, by decide⟩
  exact ⟨hops, hle, ⟨_, _, rfl, rfl, evaluate_mono hops hle rfl rfl⟩, _, _, rfl, rfl, by decide⟩

end RelativeTime
