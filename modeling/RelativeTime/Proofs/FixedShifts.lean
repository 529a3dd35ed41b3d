/-
Shifts by units of fixed length.

A second, a minute, an hour, a day and a week are always as long, wherever in the calendar they
are taken.  So a run of shifts by them adds lengths to the local time, and their order matters
only for what is on the way:

* `Exact.run_of_isFixedShift` : the lengths add up;
* `exists_evaluate_iff_of_isFixedShift` : a run succeeds just if the sum over every initial part
  of it is in the calendar;
* `evaluate_eq_of_perm` : whatever their order, shifts lead to the same instant, if to any;
* `exists_evaluate_iff_of_sign`, `evaluate_perm_of_sign` : if all of them go in one direction,
  they lead to an instant in every order or in none;
* `evaluate_fixed_shifts` : all of it together.

## Design notes

Shifts both ways may leave the calendar in one order and not in another, for the sums on the way
are others.  In one direction they all lie between the start and the end.
-/
import RelativeTime.Proofs.Landing
import RelativeTime.Proofs.PrecisionText

namespace RelativeTime

namespace Operation

/-- Shifts by a unit that is always as long. -/
inductive IsFixedShift : Operation → Prop
  | shift (sign : Sign) (magnitude : Nat) {unit : TimeUnit}
      (h : unit.fixedSeconds?.isSome = true) : IsFixedShift (.shift sign magnitude unit)

@[simp] theorem isFixedShift_shift_iff {sign : Sign} {magnitude : Nat} {unit : TimeUnit} :
    (shift sign magnitude unit).IsFixedShift ↔ unit.fixedSeconds?.isSome = true := by
  constructor
  · rintro ⟨⟩
    assumption
  · intro h
    exact .shift sign magnitude h

/-- The microseconds that an operation moves by, if it is a shift by a unit of fixed length. -/
def micros : Operation → Int
  | shift sign magnitude unit => sign.apply magnitude * (unit.fixedSeconds?.getD 0 * 1000000 : Nat)
  | round _ => 0

end Operation

/-- The microseconds that operations move by, all in all. -/
def totalMicros : List Operation → Int
  | [] => 0
  | op :: ops => op.micros + totalMicros ops

variable {base t t' : DateTime} {ops ops' : List Operation} {n : Int} {sign : Sign}

/-- Whatever the order is, a sum is the same. -/
theorem totalMicros_perm (h : ops.Perm ops') : totalMicros ops = totalMicros ops' := by
  induction h with
  | nil => rfl
  | cons op _ ih => rw [totalMicros, totalMicros, ih]
  | swap op op' ops =>
    simp only [totalMicros]
    omega
  | trans _ _ ih ih' => exact ih.trans ih'

/-! ### Adding up -/

namespace Exact

/-- Where a unit has a fixed length, it is the one that is taken elsewhere. -/
theorem micros_of_fixed {unit : TimeUnit} (h : unit.fixedSeconds?.isSome = true) :
    unit.fixedSeconds?.getD 0 * 1000000 = unit.micros := by
  cases unit with
  | month => cases h
  | year => cases h
  | _ => rfl

theorem apply_of_isFixedShift {op : Operation} (h : op.IsFixedShift) (n : Int) :
    apply n op = n + op.micros := by
  cases h with
  | shift sign magnitude hunit =>
    rw [apply, shift_of_fixed hunit, Operation.micros, micros_of_fixed hunit]

/-- The lengths add up. -/
theorem run_of_isFixedShift (hops : ∀ op ∈ ops, op.IsFixedShift) (n : Int) :
    run ops n = n + totalMicros ops := by
  induction ops generalizing n with
  | nil => exact (Int.add_zero n).symm
  | cons op ops ih =>
    obtain ⟨hop, hrest⟩ := List.forall_mem_cons.1 hops
    show run ops (apply n op) = _
    rw [ih hrest, apply_of_isFixedShift hop, totalMicros, Int.add_assoc]

theorem stays_iff_of_isFixedShift (hops : ∀ op ∈ ops, op.IsFixedShift) :
    Stays ops n ↔ ∀ k ≤ ops.length, InCalendar (n + totalMicros (ops.take k)) := by
  have hrun (k : Nat) : run (ops.take k) n = n + totalMicros (ops.take k) :=
    run_of_isFixedShift (fun op hop => hops op (List.mem_of_mem_take hop)) n
  simp only [Stays, hrun]

end Exact

/-! ### Runs -/

/-- A run succeeds just if the sum over every initial part of it is in the calendar. -/
theorem exists_evaluate_iff_of_isFixedShift (hops : ∀ op ∈ ops, op.IsFixedShift) :
    (∃ t, evaluate ops base = .ok t) ↔
      ∀ k ≤ ops.length, InCalendar (base.ticks + totalMicros (ops.take k)) := by
  rw [← Exact.stays_iff_of_isFixedShift hops]
  constructor
  · rintro ⟨t, ht⟩
    exact (evaluate_eq_ok_iff.1 ht).1
  · intro hstays
    obtain ⟨t, ht, -⟩ := exists_evaluate_eq_ok hstays
    exact ⟨t, ht⟩

/-- What a run leads to is the start with all lengths added. -/
theorem ticks_of_evaluate (hops : ∀ op ∈ ops, op.IsFixedShift) (ht : evaluate ops base = .ok t) :
    t.ticks = base.ticks + totalMicros ops ∧ t.offset = base.offset := by
  obtain ⟨-, hticks, hoffset⟩ := evaluate_eq_ok_iff.1 ht
  rw [hticks, Exact.run_of_isFixedShift hops]
  exact ⟨rfl, hoffset⟩

/-- In whatever order shifts lead to an instant, it is the same. -/
theorem evaluate_eq_of_perm (hops : ∀ op ∈ ops, op.IsFixedShift) (hperm : ops'.Perm ops)
    (ht : evaluate ops base = .ok t) (ht' : evaluate ops' base = .ok t') : t = t' := by
  have hops' : ∀ op ∈ ops', op.IsFixedShift := fun op hop => hops op (hperm.mem_iff.1 hop)
  obtain ⟨hticks, hoffset⟩ := ticks_of_evaluate hops ht
  obtain ⟨hticks', hoffset'⟩ := ticks_of_evaluate hops' ht'
  rw [totalMicros_perm hperm, ← hticks] at hticks'
  exact DateTime.ticks_injective hticks'.symm (hoffset.trans hoffset'.symm)

/-! ### One direction -/

/-- Operations with one sign are shifts in one direction. -/
theorem exists_eq_shiftsBy (hsign : ∀ op ∈ ops, op.sign? = some sign) :
    ∃ amounts, ops = shiftsBy sign amounts := by
  induction ops with
  | nil => exact ⟨[], rfl⟩
  | cons op ops ih =>
    obtain ⟨hop, hrest⟩ := List.forall_mem_cons.1 hsign
    obtain ⟨amounts, rfl⟩ := ih hrest
    cases op with
    | shift sign' magnitude unit =>
      obtain rfl : sign' = sign := Option.some.inj hop
      exact ⟨(magnitude, unit) :: amounts, rfl⟩
    | round unit => cases hop

/-- In one direction, a run succeeds just if its end is in the calendar. -/
theorem exists_evaluate_iff_of_sign (hops : ∀ op ∈ ops, op.IsFixedShift)
    (hsign : ∀ op ∈ ops, op.sign? = some sign) :
    (∃ t, evaluate ops base = .ok t) ↔ InCalendar (base.ticks + totalMicros ops) := by
  rw [exists_evaluate_iff_of_isFixedShift hops, ← Exact.stays_iff_of_isFixedShift hops,
    ← Exact.run_of_isFixedShift hops]
  obtain ⟨amounts, rfl⟩ := exists_eq_shiftsBy hsign
  exact Exact.stays_iff base.inCalendar_ticks

/-- In one direction, a run leads to an instant in every order or in none. -/
theorem evaluate_perm_of_sign (hops : ∀ op ∈ ops, op.IsFixedShift)
    (hsign : ∀ op ∈ ops, op.sign? = some sign) :
    (∃ t, ∀ ops', ops'.Perm ops → evaluate ops' base = .ok t) ∨
      ∀ ops', ops'.Perm ops → ∃ op ∈ ops, FailsAt (evaluate ops' base) op := by
  -- The end does not depend on the order, so whether it is in the calendar does not either.
  have hevery (ops' : List Operation) (hperm : ops'.Perm ops) :
      (∃ t, evaluate ops' base = .ok t) ↔ InCalendar (base.ticks + totalMicros ops) := by
    rw [← totalMicros_perm hperm]
    exact exists_evaluate_iff_of_sign (fun op hop => hops op (hperm.mem_iff.1 hop))
      (fun op hop => hsign op (hperm.mem_iff.1 hop))
  by_cases hend : InCalendar (base.ticks + totalMicros ops)
  · obtain ⟨t, ht⟩ := (hevery ops (List.Perm.refl ops)).2 hend
    refine .inl ⟨t, fun ops' hperm => ?_⟩
    obtain ⟨t', ht'⟩ := (hevery ops' hperm).2 hend
    rw [evaluate_eq_of_perm hops hperm ht ht']
    exact ht'
  · refine .inr fun ops' hperm => ?_
    cases heval : evaluate ops' base with
    | ok t' => exact absurd ((hevery ops' hperm).1 ⟨t', heval⟩) hend
    | error e =>
      obtain ⟨op, hop, rfl⟩ := exists_mem_of_evaluate_eq_error heval
      exact ⟨op, hperm.mem_iff.1 hop, failsAt_iff.2 rfl⟩

/-- As many units forth and back lead nowhere. -/
theorem eq_of_evaluate_forth_and_back {unit : TimeUnit} {magnitude : Nat}
    (hunit : unit.fixedSeconds?.isSome = true)
    (ht : evaluate [.shift .plus magnitude unit, .shift .minus magnitude unit] base = .ok t) :
    t = base := by
  have hops : ∀ op ∈ [Operation.shift .plus magnitude unit, .shift .minus magnitude unit],
      op.IsFixedShift := by
    simp [hunit]
  have hzero : totalMicros [.shift .plus magnitude unit, .shift .minus magnitude unit] = 0 := by
    simp only [totalMicros, Operation.micros, Sign.apply]
    rw [Int.neg_mul, Int.add_zero]
    exact Int.add_right_neg _
  obtain ⟨hticks, hoffset⟩ := ticks_of_evaluate hops ht
  rw [hzero, Int.add_zero] at hticks
  exact DateTime.ticks_injective hticks hoffset

/-- **Shifts of fixed length add up, and their order does not matter.**  A run of them succeeds
just if the sum over every initial part of it is in the calendar, and then it leads to the start
with all lengths added.  So two orders that both succeed lead to the same instant.  If all shifts
go in one direction, they lead to it in every order, or every order leaves the calendar.  As many
units forth and back lead to the start, if anywhere. -/
theorem evaluate_fixed_shifts (base : DateTime) {ops : List Operation}
    (hops : ∀ op ∈ ops, op.IsFixedShift) :
    ((∃ t, evaluate ops base = .ok t) ↔
      ∀ k ≤ ops.length, InCalendar (base.ticks + totalMicros (ops.take k))) ∧
    (∀ t, evaluate ops base = .ok t →
      t.ticks = base.ticks + totalMicros ops ∧ t.offset = base.offset) ∧
    (∀ ops' t t', ops'.Perm ops → evaluate ops base = .ok t → evaluate ops' base = .ok t' →
      t = t') ∧
    (∀ sign, (∀ op ∈ ops, op.sign? = some sign) →
      (∃ t, ∀ ops', ops'.Perm ops → evaluate ops' base = .ok t) ∨
        ∀ ops', ops'.Perm ops → ∃ op ∈ ops, FailsAt (evaluate ops' base) op) ∧
    ∀ (unit : TimeUnit) (magnitude : Nat) (t : DateTime), unit.fixedSeconds?.isSome = true →
      evaluate [.shift .plus magnitude unit, .shift .minus magnitude unit] base = .ok t →
        t = base := by
  refine ⟨exists_evaluate_iff_of_isFixedShift hops, ?_, ?_, ?_, ?_⟩
  · intro t ht
    exact ticks_of_evaluate hops ht
  · intro ops' t t' hperm ht ht'
    exact evaluate_eq_of_perm hops hperm ht ht'
  · intro sign hsign
    exact evaluate_perm_of_sign hops hsign
  · intro unit magnitude t hunit ht
    exact eq_of_evaluate_forth_and_back hunit ht

/-- In the last month of the calendar, a second back and 31 days lead to its last second, and in
the other order they leave the calendar.  Four weeks and three days leave it in every order, and
eight hours forth and back lead nowhere. -/
theorem evaluate_fixed_shifts_lastMonth :
    (∀ op ∈ [Operation.shift .minus 1 .second, .shift .plus 31 .day], op.IsFixedShift) ∧
    evaluate [.shift .minus 1 .second, .shift .plus 31 .day] .lastMonth = .ok .lastSecond ∧
    evaluate [.shift .plus 31 .day, .shift .minus 1 .second] .lastMonth =
      .error (.outOfRange "+31d") ∧
    (∀ op ∈ [Operation.shift .plus 4 .week, .shift .plus 3 .day], op.IsFixedShift) ∧
    (∀ op ∈ [Operation.shift .plus 4 .week, .shift .plus 3 .day], op.sign? = some .plus) ∧
    (∀ ops, ops.Perm [.shift .plus 4 .week, .shift .plus 3 .day] → ∃ op ∈
        [Operation.shift .plus 4 .week, .shift .plus 3 .day],
      evaluate ops .lastMonth = .error (.outOfRange op.text)) ∧
    evaluate [.shift .plus 8 .hour, .shift .minus 8 .hour] .lastMonth = .ok .lastMonth := by
  have hboth : ∀ op ∈ [Operation.shift .minus 1 .second, .shift .plus 31 .day],
      op.IsFixedShift := by
    simp [TimeUnit.fixedSeconds?]
  have hforward : ∀ op ∈ [Operation.shift .plus 4 .week, .shift .plus 3 .day],
      op.IsFixedShift := by
    simp [TimeUnit.fixedSeconds?]
  have hsign : ∀ op ∈ [Operation.shift .plus 4 .week, .shift .plus 3 .day],
      op.sign? = some .plus := by
    simp [Operation.sign?]
  have hshort : ∀ op ∈ [Operation.shift .plus 4 .week, .shift .plus 3 .day], op.IsReadable :=
    List.forall_mem_cons.2 ⟨Description.isReadable_shift (by decide),
      List.forall_mem_singleton.2 (Description.isReadable_shift (by decide))⟩
  obtain ⟨hruns, hticks, -, -, hback⟩ := evaluate_fixed_shifts .lastMonth hboth
  obtain ⟨t, ht⟩ := hruns.2 (by decide)
  obtain ⟨hsum, hoffset⟩ := hticks t ht
  obtain rfl : t = .lastSecond := DateTime.ticks_injective hsum hoffset
  obtain ⟨u, hu⟩ : ∃ u, evaluate [.shift .plus 8 .hour, .shift .minus 8 .hour] .lastMonth =
    .ok u := ⟨_, rfl⟩
  have hnowhere := hback .hour 8 u rfl hu
  rw [hnowhere] at hu
  obtain ⟨-, -, -, horders, -⟩ := evaluate_fixed_shifts .lastMonth hforward
  have hout : evaluate [.shift .plus 4 .week, .shift .plus 3 .day] .lastMonth =
      .error (.outOfRange "+3d") := rfl
  refine ⟨hboth, ht, rfl, hforward, hsign, ?_, hu⟩
  rcases horders .plus hsign with ⟨v, hv⟩ | hleaves
  · -- one order leaves the calendar, so it is not that all lead to an instant
    rw [hv _ (List.Perm.refl _)] at hout
    cases hout
  · intro ops hperm
    obtain ⟨op, hop, hfails⟩ := hleaves ops hperm
    exact ⟨op, hop, hfails.1 (hshort op hop)⟩

end RelativeTime
