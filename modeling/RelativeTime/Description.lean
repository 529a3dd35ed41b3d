/-
Describing an instant relative to a reference.

The description of a target is a text that leads from the reference to it. Its precision
is the first unit of `precisions` that the target is a start of; a target within a minute
has none and gets a breakdown of the difference.

* `alignedText` : a count of units from the reference to an aligned target, with a rounding
  at the end.
* `elapsedText` : the whole units of a difference, without a rounding.
* `breakdownText` : a difference in all units, the largest first.

## Design notes

Target and reference are in UTC. A count of zero is written as a rounding of the
reference alone. A week is counted in days, from the date of the reference. The texts are
put together here by hand, without the operations that a reader finds in them.
-/
import RelativeTime.Operation.Effect

namespace RelativeTime

namespace Description

/-- The units that a description may be precise to, the coarsest first. -/
def precisions : List TimeUnit := [.year, .month, .week, .day, .hour, .minute]

/-- The units of a breakdown, the largest first. -/
def breakdownUnits : List TimeUnit :=
  [.year, .month, .week, .day, .hour, .minute, .second]

/-- A count of units and what follows it; no count at all is a rounding. -/
def signedText (count : Int) (unit : TimeUnit) (suffix : String) : String :=
  if count = 0 then "now/" ++ unit.code.toString
  else
    let sign := if 0 < count then "+" else "-"
    "now" ++ sign ++ String.ofList (natText count.natAbs) ++ unit.code.toString ++ suffix

/-- The whole units of `difference` microseconds, rounded toward zero. -/
def elapsedText (difference : Int) (unit : TimeUnit) : String :=
  let count : Nat := difference.natAbs / unit.micros
  signedText (if difference < 0 then -(count : Int) else count) unit ""

/-- Writes the whole units of what is left behind a text, unless there are none, and leaves
the remainder. -/
def appendUnit (sign : String) (state : String × Nat) (unit : TimeUnit) : String × Nat :=
  let value := state.2 / unit.micros
  let text :=
    if 0 < value then
      state.1 ++ (sign ++ String.ofList (natText value) ++ unit.code.toString)
    else state.1
  (text, state.2 % unit.micros)

/-- A difference of microseconds in all units. -/
def breakdownText (difference : Int) : String :=
  let sign := if 0 ≤ difference then "+" else "-"
  (breakdownUnits.foldl (appendUnit sign) ("now", difference.natAbs)).1

/-- The first of some units that `t` is a start of. -/
def firstAligned? (t : DateTime) : List TimeUnit → Except RangeFault (Option TimeUnit)
  | [] => .ok none
  | unit :: units =>
    match t.isAligned unit with
    | .ok true => .ok (some unit)
    | .ok false => firstAligned? t units
    | .error fault => .error fault

/-- The months from `n` to `t`, whatever the days. -/
def monthsBetween (t n : DateTime) : Int :=
  (t.date.year - n.date.year) * 12 + t.date.month - n.date.month

/-- Leads from `n` to `t`, which is a start of `unit`. Without `exact`, months and the
units below the week lack their rounding. -/
def alignedText (t n : DateTime) (exact : Bool) : TimeUnit → Except RangeFault String
  | .year => .ok (signedText (t.date.year - n.date.year) .year "/y")
  | .month => .ok (signedText (monthsBetween t n) .month (if exact then "/M" else ""))
  | .week =>
    let days := t.date.dayNumber - n.date.dayNumber
    .ok (if days = 0 then "now/w" else signedText days .day "/w")
  | unit =>
    if exact then
      (n.floor unit).map fun start =>
        signedText ((t.instant - start.instant) / unit.micros) unit ("/" ++ unit.code.toString)
    else .ok (elapsedText (t.instant - n.instant) unit)

end Description

/-- The text that describes `t` relative to `n`. Whether it is to be `exact` is asked only
for an aligned target. -/
def describeText (t n : DateTime) (exact : Result Bool) : Result String :=
  match Description.firstAligned? t Description.precisions with
  | .error fault => .error (.range fault)
  | .ok none => .ok (Description.breakdownText (t.instant - n.instant))
  | .ok (some unit) => do
    let e ← exact
    Result.ofRange (Description.alignedText t n e unit)

end RelativeTime
