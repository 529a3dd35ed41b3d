/-
The operations that a description stands for.

A description is put together as a text, by hand.  The same decisions lead to a list of
operations, and the text is the shorthand of that list:

* `Description.counted`, `Description.elapsed`, `Description.breakdown`,
  `Description.alignedTo`, `describe` : the operations, for each kind of description;
* `Description.signedText_eq_shorthand` : a count, and what follows it;
* `Description.foldl_appendUnit` : the units of a breakdown, behind whatever was written before;
* `Description.alignedText_eq_map` : the week with its own way to write a count of zero
  among the others;
* `describeText_eq_map` : descriptions as a whole.

## Design notes

What a description leads to is proved of its operations, and what is written of its text.
`describeText_eq_map` is the one place where the two meet, so whatever the program writes in
another way than operations are written shows here.
-/
import RelativeTime.Description

namespace RelativeTime

namespace Description

/-! ### Operations -/

/-- Moves by `count` units and then does what `ending` says; no move at all is a rounding. -/
def counted (count : Int) (unit : TimeUnit) (ending : List Operation) : List Operation :=
  if count = 0 then [.round unit]
  else .shift (if 0 < count then .plus else .minus) count.natAbs unit :: ending

/-- The whole units of `difference` microseconds, rounded toward zero. -/
def elapsed (difference : Int) (unit : TimeUnit) : List Operation :=
  let count : Nat := difference.natAbs / unit.micros
  counted (if difference < 0 then -(count : Int) else count) unit []

/-- The whole units of `rest` microseconds, each taken from what the larger ones leave. -/
def parts : List TimeUnit → Nat → List (Nat × TimeUnit)
  | [], _ => []
  | unit :: units, rest =>
    if rest / unit.micros = 0 then parts units rest
    else (rest / unit.micros, unit) :: parts units (rest % unit.micros)

/-- A difference of microseconds in all units. -/
def breakdown (difference : Int) : List Operation :=
  let sign : Sign := if 0 ≤ difference then .plus else .minus
  (parts breakdownUnits difference.natAbs).map fun p => .shift sign p.1 p.2

/-- Leads from `n` to `t`, which is a start of `unit`.  Without `exact`, months and the
units below the week lack their rounding. -/
def alignedTo (t n : DateTime) (exact : Bool) : TimeUnit → Except RangeFault (List Operation)
  | .year => .ok (counted (t.date.year - n.date.year) .year [.round .year])
  | .month => .ok (counted (monthsBetween t n) .month (if exact then [.round .month] else []))
  | .week =>
    let days := t.date.dayNumber - n.date.dayNumber
    .ok (if days = 0 then [.round .week] else counted days .day [.round .week])
  | unit =>
    if exact then
      (n.floor unit).map fun start =>
        counted ((t.instant - start.instant) / unit.micros) unit [.round unit]
    else .ok (elapsed (t.instant - n.instant) unit)

end Description

/-- The operations that describe `t` relative to `n`.  Whether they are to be `exact` is
asked only for an aligned target. -/
def describe (t n : DateTime) (exact : Result Bool) : Result (List Operation) :=
  match Description.firstAligned? t Description.precisions with
  | .error fault => .error (.range fault)
  | .ok none => .ok (Description.breakdown (t.instant - n.instant))
  | .ok (some unit) => do
    let e ← exact
    Result.ofRange (Description.alignedTo t n e unit)

/-! ### Texts of operations -/

/-- The text of a shift, from the left to the right. -/
theorem text_shift (sign : Sign) (magnitude : Nat) (unit : TimeUnit) :
    (Operation.shift sign magnitude unit).text =
      sign.char.toString ++ String.ofList (natText magnitude) ++ unit.code.toString := by
  rw [Operation.text, Operation.chars, List.cons_append, ← List.singleton_append,
    String.ofList_append, String.ofList_append, String.append_assoc]
  rfl

theorem text_round (unit : TimeUnit) :
    (Operation.round unit).text = "/" ++ unit.code.toString := by
  cases unit <;> rfl

/-- The texts of some operations, one behind the other. -/
def bodyText (ops : List Operation) : String := String.ofList (ops.flatMap Operation.chars)

theorem bodyText_cons (op : Operation) (ops : List Operation) :
    bodyText (op :: ops) = op.text ++ bodyText ops := by
  rw [bodyText, List.flatMap_cons, String.ofList_append]
  rfl

theorem bodyText_round (unit : TimeUnit) : bodyText [.round unit] = "/" ++ unit.code.toString := by
  rw [bodyText_cons, text_round]
  exact String.append_empty

theorem shorthand_eq_append (ops : List Operation) : shorthand ops = "now" ++ bodyText ops := by
  rw [shorthand, shorthandChars, String.ofList_append]
  rfl

namespace Description

/-! ### Counts -/

theorem shorthand_round (unit : TimeUnit) :
    shorthand [.round unit] = "now/" ++ unit.code.toString := by
  rw [shorthand_eq_append, bodyText_round, ← String.append_assoc]
  rfl

/-- The text of a count is the shorthand of its shift, or of a rounding. -/
theorem signedText_eq_shorthand (count : Int) (unit : TimeUnit) (ending : List Operation) :
    signedText count unit (bodyText ending) = shorthand (counted count unit ending) := by
  rw [signedText, counted]
  by_cases hcount : count = 0
  · rw [if_pos hcount, if_pos hcount, shorthand_round]
  · have hsign : (if 0 < count then "+" else "-") =
        (if 0 < count then Sign.plus else .minus).char.toString := by
      split
      · rfl
      · rfl
    rw [if_neg hcount, if_neg hcount, shorthand_eq_append, bodyText_cons, text_shift, ← hsign]
    simp only [String.append_assoc]

theorem signedText_round (count : Int) (unit ending : TimeUnit) :
    signedText count unit ("/" ++ ending.code.toString) =
      shorthand (counted count unit [.round ending]) := by
  rw [← bodyText_round, signedText_eq_shorthand]

theorem signedText_empty (count : Int) (unit : TimeUnit) :
    signedText count unit "" = shorthand (counted count unit []) :=
  signedText_eq_shorthand count unit []

theorem elapsedText_eq_shorthand (difference : Int) (unit : TimeUnit) :
    elapsedText difference unit = shorthand (elapsed difference unit) :=
  signedText_empty _ unit

/-! ### Breakdowns -/

/-- One unit of a breakdown is written behind the text so far, unless it is left out. -/
theorem appendUnit_eq (sign : Sign) (text : String) (rest : Nat) (unit : TimeUnit) :
    appendUnit sign.char.toString (text, rest) unit =
      (if rest / unit.micros = 0 then text
        else text ++ (Operation.shift sign (rest / unit.micros) unit).text,
        rest % unit.micros) := by
  rw [appendUnit, text_shift]
  by_cases hvalue : rest / unit.micros = 0
  · rw [if_pos hvalue, if_neg (Nat.not_lt.2 (Nat.le_of_eq hvalue))]
  · rw [if_neg hvalue, if_pos (Nat.pos_of_ne_zero hvalue)]

/-- The units of a breakdown are written one behind the other. -/
theorem foldl_appendUnit (sign : Sign) (units : List TimeUnit) (text : String) (rest : Nat) :
    (units.foldl (appendUnit sign.char.toString) (text, rest)).1 =
      text ++ bodyText ((parts units rest).map fun p => .shift sign p.1 p.2) := by
  -- The induction is on the units, for every rest and every text that is already there.
  induction units generalizing text rest with
  | nil => exact String.append_empty.symm
  | cons unit units ih =>
    have hmicros : 0 < unit.micros := by
      cases unit <;> decide
    rw [List.foldl_cons, appendUnit_eq, ih, parts]
    by_cases hvalue : rest / unit.micros = 0
    · -- a unit that is left out takes nothing from the rest
      have hrest : rest % unit.micros = rest :=
        Nat.mod_eq_of_lt ((Nat.div_eq_zero_iff_lt hmicros).1 hvalue)
      rw [if_pos hvalue, if_pos hvalue, hrest]
    · rw [if_neg hvalue, if_neg hvalue, List.map_cons, bodyText_cons, String.append_assoc]

theorem breakdownText_eq_shorthand (difference : Int) :
    breakdownText difference = shorthand (breakdown difference) := by
  have hsign : (if 0 ≤ difference then "+" else "-") =
      (if 0 ≤ difference then Sign.plus else .minus).char.toString := by
    split
    · rfl
    · rfl
  rw [breakdownText, hsign, foldl_appendUnit, shorthand_eq_append, breakdown]

/-! ### Aligned targets -/

/-- The text for an aligned target is the shorthand of its operations, whether they are exact
or not. -/
theorem alignedText_eq_map (t n : DateTime) (exact : Bool) (unit : TimeUnit) :
    alignedText t n exact unit = (alignedTo t n exact unit).map shorthand := by
  -- The units below the week are written alike, if the unit of the reference has a start.
  have hbelow : (if exact then
        (n.floor unit).map fun start =>
          signedText ((t.instant - start.instant) / unit.micros) unit ("/" ++ unit.code.toString)
      else .ok (elapsedText (t.instant - n.instant) unit)) =
      Except.map shorthand (if exact then
        (n.floor unit).map fun start =>
          counted ((t.instant - start.instant) / unit.micros) unit [.round unit]
      else .ok (elapsed (t.instant - n.instant) unit)) := by
    cases exact with
    | false => exact congrArg Except.ok (elapsedText_eq_shorthand _ unit)
    | true =>
      simp only [if_pos]
      cases n.floor unit with
      | error fault => rfl
      | ok start => exact congrArg Except.ok (signedText_round _ unit unit)
  cases unit with
  | year => exact congrArg Except.ok (signedText_round _ .year .year)
  | month =>
    cases exact with
    | false => exact congrArg Except.ok (signedText_empty _ .month)
    | true => exact congrArg Except.ok (signedText_round _ .month .month)
  | week =>
    -- a count of zero is a rounding to the week, although days are counted
    rw [alignedText, alignedTo, Except.map, apply_ite shorthand, shorthand_round, ← signedText_round]
    rfl
  | _ => exact hbelow

end Description

/-- **Descriptions are written as operations are.**  The text that describes a target is the
shorthand of the operations that do, and where there are none, there is no text either. -/
theorem describeText_eq_map (t n : DateTime) (exact : Result Bool) :
    describeText t n exact = (describe t n exact).map shorthand := by
  rw [describeText, describe]
  cases Description.firstAligned? t Description.precisions with
  | error fault => rfl
  | ok unit? =>
    cases unit? with
    | none => exact congrArg Except.ok (Description.breakdownText_eq_shorthand _)
    | some unit =>
      cases exact with
      | error e => rfl
      | ok b =>
        show Result.ofRange (Description.alignedText t n b unit) =
          Except.map shorthand (Result.ofRange (Description.alignedTo t n b unit))
        rw [Description.alignedText_eq_map]
        cases Description.alignedTo t n b unit with
        | error fault => rfl
        | ok ops => rfl

theorem describeText_eq_ok_iff {t n : DateTime} {exact : Result Bool} {text : String} :
    describeText t n exact = .ok text ↔
      ∃ ops, describe t n exact = .ok ops ∧ shorthand ops = text := by
  rw [describeText_eq_map]
  cases describe t n exact with
  | error e =>
    constructor
    · intro h
      cases h
    · rintro ⟨ops, hops, -⟩
      cases hops
  | ok ops => simp [Except.map]

end RelativeTime
