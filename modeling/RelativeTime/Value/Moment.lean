/-
What values of any type do as points of time.

Only a date with a time is an instant. A plain date can be shifted, by whole days at
least, and has a weekday, but no start of an hour. Any other value fails.

## Design notes

The failures differ. A value without the parts of a date is `missingPart`. A date or a
text has a part of that name which does something else, and so is `unsupported`. A
shift makes its length first, and a length that cannot be counted overflows whatever
the value is.
-/
import RelativeTime.Operation.Effect
import RelativeTime.Description

namespace RelativeTime

namespace Value

/-- The instant in UTC that a value stands for. -/
def toUtc : Value → Result DateTime
  | dateTime t => .ofRange t.toUtc
  | v => .error (.notDateTime v.kind)

/-- Whether a whole number has the size of a floating-point number. -/
def fitsFloat (n : Int) : Bool := n.natAbs < Nat.pow 2 1024 - Nat.pow 2 970

/-- The value `n` microseconds later. A length of more than 999999999 days cannot be
counted. -/
def add (base : Value) (n : Int) : Result Value :=
  match base with
  | dateTime t => (Result.ofRange (t.add n)).map dateTime
  | date d => (Result.ofRange (d.addDays (n / microsPerDay))).map date
  | _ =>
    .error (if (n / microsPerDay).natAbs ≤ 999999999 then .unsupported else .range .overflow)

/-- The value `n` months later. -/
def shiftMonths (base : Value) (n : Int) : Result Value :=
  match base with
  | dateTime t => (Result.ofRange (t.shiftMonths n)).map dateTime
  | date d => (Result.ofRange (d.shiftMonths n)).map date
  | _ => .error (if fitsFloat n then .unsupported else .range .overflow)

/-- The value `n` years later. -/
def shiftYears (base : Value) (n : Int) : Result Value :=
  match base with
  | dateTime t => (Result.ofRange (t.shiftYears n)).map dateTime
  | date d => (Result.ofRange (d.shiftYears n)).map date
  | _ => .error .unsupported

/-- The value `n` units later. -/
def shift (base : Value) (n : Int) : TimeUnit → Result Value
  | .year => base.shiftYears n
  | .month => base.shiftMonths n
  | unit => base.add (n * unit.micros)

/-- The failure of rounding a value that is no instant. -/
def roundingError : Value → Error
  | text _ | date _ => .unsupported
  | _ => .missingPart

/-- The start of the unit that a value lies in. -/
def floor (base : Value) (unit : TimeUnit) : Result Value :=
  match base with
  | dateTime t => (Result.ofRange (t.floor unit)).map dateTime
  | v => .error v.roundingError

/-- Whether a value is the start of a unit. -/
def isAligned (base : Value) (unit : TimeUnit) : Result Bool :=
  match base with
  | dateTime t => .ofRange (t.isAligned unit)
  | v => .error v.roundingError

/-- How many days ago the last Sunday was. -/
def daysSinceSunday : Value → Result Int
  | dateTime t => .ok t.date.daysSinceSunday
  | date d => .ok d.daysSinceSunday
  | _ => .error .missingPart

/-- The microseconds from `n` to `t`. Two instants must both have an offset or both have
none. Two numbers have a difference, if that can be counted, but it is no length of time,
and so there is none. -/
def difference (t n : Value) : Result (Option Int) :=
  match t, n with
  | dateTime t, dateTime n =>
    if t.offset.isSome = n.offset.isSome then .ok (some (t.instant - n.instant))
    else .error .unsupported
  | date t, date n => .ok (some ((t.dayNumber - n.dayNumber) * microsPerDay))
  | int a, float _ | float _, int a => if fitsFloat a then .ok none else .error (.range .overflow)
  | bool _, bool _ | bool _, int _ | bool _, float _ => .ok none
  | int _, bool _ | int _, int _ | float _, bool _ | float _, float _ => .ok none
  | _, _ => .error .unsupported

/-- The whole units from `n` to `t`, without a rounding. -/
def elapsed (t n : Value) (unit : TimeUnit) : Result String := do
  let span ← difference t n
  match unit.fixedSeconds?, span with
  | none, _ => .error (.noFixedLength unit)
  | some _, none => .error .unsupported
  | some _, some span => return Description.elapsedText span unit

/-- The difference from `n` to `t` in all units. -/
def breakdown (t n : Value) : Result String := do
  match ← difference t n with
  | none => .error .unsupported
  | some span => return Description.breakdownText span

end Value

end RelativeTime
