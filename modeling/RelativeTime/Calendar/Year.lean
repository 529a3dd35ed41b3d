/-
The proleptic Gregorian year.

The rules for leap years and month lengths are run backwards and forwards over
every integer year. Days are numbered from `0`, the first of January of year 1.

* `daysBeforeYear_succ` : the year starts advance by the length of each year.
* `daysBeforeYear_yearOfDay_le`, `lt_daysBeforeYear_succ_yearOfDay` : `yearOfDay`
  finds the year that a day number falls in, and `yearOfDay_eq` says that there is
  only one.
* `dayOfMonth_walkMonths`, `daysBeforeMonth_walkMonths` : `walkMonths` finds the
  month and day of a day of the year, and `walkMonths_eq` says that there is only
  one such month.

## Design notes

`yearOfDay` estimates the year from the mean length `146097 / 400` and then
corrects the estimate by at most one, so that it needs no recursion.
-/

namespace RelativeTime

/-- Every fourth year is a leap year, except for the centuries that 400 does not divide. -/
def IsLeap (y : Int) : Prop := y % 4 = 0 ∧ (y % 100 ≠ 0 ∨ y % 400 = 0)

instance (y : Int) : Decidable (IsLeap y) := inferInstanceAs (Decidable (_ ∧ _))

/-- The number of days of year `y`. -/
def yearLength (y : Int) : Nat := if IsLeap y then 366 else 365

/-- The number of days of a month, given by its number, in year `y`. -/
def monthLength (y : Int) : Nat → Nat
  | 2 => if IsLeap y then 29 else 28
  | 4 | 6 | 9 | 11 => 30
  | _ => 31

/-- The number of the first day of year `y`. -/
def daysBeforeYear (y : Int) : Int :=
  365 * (y - 1) + (y - 1) / 4 - (y - 1) / 100 + (y - 1) / 400

/-- The days of year `y` that precede its month `m`. -/
def daysBeforeMonth (y : Int) : Nat → Nat
  | 0 | 1 => 0
  | m + 2 => daysBeforeMonth y (m + 1) + monthLength y (m + 1)

/-- The year that day `n` falls in. -/
def yearOfDay (n : Int) : Int :=
  let y := n * 400 / 146097 + 1
  if n < daysBeforeYear y then y - 1
  else if daysBeforeYear (y + 1) ≤ n then y + 1
  else y

/-- The month and the day of the month that lies `rest` days after the first of
`month`, at most `steps` months on. -/
def walkMonths (y : Int) : (steps month rest : Nat) → Nat × Nat
  | 0, month, rest => (month, rest + 1)
  | steps + 1, month, rest =>
    if rest < monthLength y month then (month, rest + 1)
    else walkMonths y steps (month + 1) (rest - monthLength y month)

theorem daysBeforeYear_succ (y : Int) :
    daysBeforeYear (y + 1) = daysBeforeYear y + yearLength y := by
  rw [yearLength]
  by_cases h : IsLeap y
  · rw [if_pos h]
    rw [IsLeap] at h
    simp only [daysBeforeYear]
    omega
  · rw [if_neg h]
    rw [IsLeap] at h
    simp only [daysBeforeYear]
    omega

theorem daysBeforeYear_yearOfDay_le (n : Int) : daysBeforeYear (yearOfDay n) ≤ n := by
  unfold yearOfDay daysBeforeYear
  dsimp only
  split
  · omega
  · split <;> omega

theorem lt_daysBeforeYear_succ_yearOfDay (n : Int) : n < daysBeforeYear (yearOfDay n + 1) := by
  unfold yearOfDay daysBeforeYear
  dsimp only
  split
  · omega
  · split <;> omega

theorem daysBeforeYear_mono {y z : Int} (h : y ≤ z) : daysBeforeYear y ≤ daysBeforeYear z := by
  simp only [daysBeforeYear]
  omega

theorem yearOfDay_eq {n y : Int} (hlo : daysBeforeYear y ≤ n) (hhi : n < daysBeforeYear (y + 1)) :
    yearOfDay n = y := by
  have hlo' := daysBeforeYear_yearOfDay_le n
  have hhi' := lt_daysBeforeYear_succ_yearOfDay n
  rcases Int.lt_trichotomy (yearOfDay n) y with hlt | heq | hgt
  · have := daysBeforeYear_mono (show yearOfDay n + 1 ≤ y by omega)
    omega
  · exact heq
  · have := daysBeforeYear_mono (show y + 1 ≤ yearOfDay n by omega)
    omega

theorem monthLength_le (y : Int) (m : Nat) : monthLength y m ≤ 31 := by
  simp only [monthLength]
  repeat' split
  all_goals omega

theorem monthLength_ge (y : Int) (m : Nat) : 28 ≤ monthLength y m := by
  simp only [monthLength]
  repeat' split
  all_goals omega

theorem daysBeforeMonth_succ (y : Int) {m : Nat} (hm : 1 ≤ m) :
    daysBeforeMonth y (m + 1) = daysBeforeMonth y m + monthLength y m := by
  cases m with
  | zero => omega
  | succ m => rfl

theorem daysBeforeMonth_mono (y : Int) {m n : Nat} (h : m ≤ n) :
    daysBeforeMonth y m ≤ daysBeforeMonth y n := by
  induction h with
  | refl => exact Nat.le_refl _
  | step h ih =>
    rename_i n
    cases n with
    | zero => exact ih
    | succ n => exact Nat.le_trans ih (Nat.le_add_right _ _)

/-- The twelve months make up the year. -/
theorem daysBeforeMonth_thirteen (y : Int) : daysBeforeMonth y 13 = yearLength y := by
  rw [yearLength]
  by_cases h : IsLeap y <;> simp [daysBeforeMonth, monthLength, h]

theorem month_le_walkMonths (y : Int) (steps month rest : Nat) :
    month ≤ (walkMonths y steps month rest).1 := by
  induction steps generalizing month rest with
  | zero => exact Nat.le_refl _
  | succ steps ih =>
    unfold walkMonths
    split
    · exact Nat.le_refl _
    · have := ih (month + 1) (rest - monthLength y month)
      omega

theorem walkMonths_le_month (y : Int) (steps month rest : Nat) :
    (walkMonths y steps month rest).1 ≤ month + steps := by
  induction steps generalizing month rest with
  | zero => exact Nat.le_refl _
  | succ steps ih =>
    unfold walkMonths
    split
    · exact Nat.le_add_right _ _
    · have := ih (month + 1) (rest - monthLength y month)
      omega

/-- Walking keeps the day: the month found and the day in it count to the same
day of the year. -/
theorem daysBeforeMonth_walkMonths (y : Int) (steps : Nat) {month : Nat} (rest : Nat)
    (hm : 1 ≤ month) :
    daysBeforeMonth y (walkMonths y steps month rest).1 + (walkMonths y steps month rest).2 =
      daysBeforeMonth y month + rest + 1 := by
  induction steps generalizing month rest with
  | zero => rfl
  | succ steps ih =>
    unfold walkMonths
    split
    · rfl
    · rename_i h
      rw [ih (rest - monthLength y month) (Nat.le_add_left 1 month), daysBeforeMonth_succ y hm]
      omega

/-- The day found lies in the month found, if the days run out within the months walked. -/
theorem dayOfMonth_walkMonths (y : Int) (steps : Nat) {month rest : Nat} (hm : 1 ≤ month)
    (h : daysBeforeMonth y month + rest < daysBeforeMonth y (month + steps + 1)) :
    1 ≤ (walkMonths y steps month rest).2 ∧
      (walkMonths y steps month rest).2 ≤ monthLength y (walkMonths y steps month rest).1 := by
  induction steps generalizing month rest with
  | zero =>
    rw [Nat.add_zero, daysBeforeMonth_succ y hm] at h
    simp only [walkMonths]
    omega
  | succ steps ih =>
    unfold walkMonths
    split
    · dsimp only
      omega
    · refine ih (Nat.le_add_left 1 month) ?_
      rw [daysBeforeMonth_succ y hm]
      have : month + 1 + steps + 1 = month + (steps + 1) + 1 := by omega
      rw [this]
      omega

theorem walkMonths_eq (y : Int) (steps : Nat) {month m day : Nat} (hm : 1 ≤ month)
    (hle : month ≤ m) (hsteps : m ≤ month + steps) (hday : 1 ≤ day ∧ day ≤ monthLength y m) :
    walkMonths y steps month (daysBeforeMonth y m + day - 1 - daysBeforeMonth y month) =
      (m, day) := by
  induction steps generalizing month with
  | zero =>
    obtain rfl : m = month := by omega
    unfold walkMonths
    rw [Prod.mk.injEq]
    omega
  | succ steps ih =>
    unfold walkMonths
    rcases Nat.eq_or_lt_of_le hle with rfl | hlt
    · rw [if_pos (by omega), Prod.mk.injEq]
      omega
    · have hnext := daysBeforeMonth_succ y hm
      have hmono : daysBeforeMonth y (month + 1) ≤ daysBeforeMonth y m :=
        daysBeforeMonth_mono y hlt
      rw [if_neg (by omega), ← ih (Nat.le_add_left 1 month) hlt (by omega), hnext]
      congr 1
      omega

end RelativeTime
