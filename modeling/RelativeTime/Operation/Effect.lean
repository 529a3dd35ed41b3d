/-
What operations do to an instant.

`DateTime.shift` moves by units, `DateTime.floor` goes back to the start of a unit, and
`evaluate` applies a list of operations from left to right. Fields are local: the offset
of the instant plays no part and stays as it is.

## Design notes

Seconds to weeks are added to the local time as lengths, months and years follow the
calendar. A failure inside `evaluate` is that of the operation that left the calendar.
-/
import RelativeTime.Calendar.DateTime
import RelativeTime.Operation.Written

namespace RelativeTime

namespace DateTime

/-- The local time `n` units after `t`. -/
def shift (t : DateTime) (n : Int) : TimeUnit → Except RangeFault DateTime
  | .year => t.shiftYears n
  | .month => t.shiftMonths n
  | unit => t.add (n * unit.micros)

/-- The start of the unit that `t` lies in. -/
def floor (t : DateTime) : TimeUnit → Except RangeFault DateTime
  | .second => .ok { t with time := t.time.startOfSecond }
  | .minute => .ok { t with time := t.time.startOfMinute }
  | .hour => .ok { t with time := t.time.startOfHour }
  | .day => .ok t.startOfDay
  | .week => t.startOfWeek
  | .month => .ok t.startOfMonth
  | .year => .ok t.startOfYear

/-- Whether `t` is the start of a unit. -/
def isAligned (t : DateTime) (unit : TimeUnit) : Except RangeFault Bool :=
  (t.floor unit).map fun s => s = t

end DateTime

/-- What an operation does to an instant. -/
def Operation.apply : Operation → DateTime → Except RangeFault DateTime
  | shift sign magnitude unit, t => t.shift (sign.apply magnitude) unit
  | round unit, t => t.floor unit

/-- Applies operations from left to right. -/
def evaluate : List Operation → DateTime → Result DateTime
  | [], t => .ok t
  | op :: ops, t =>
    match op.apply t with
    | .ok u => evaluate ops u
    | .error _ => .error op.failure

/-- Applies operations from left to right, with the outcome after each one; the first
failure is the last outcome. -/
def trace : List Operation → DateTime → List (Operation × Result DateTime)
  | [], _ => []
  | op :: ops, t =>
    match op.apply t with
    | .ok u => (op, .ok u) :: trace ops u
    | .error _ => [(op, .error op.failure)]

end RelativeTime
