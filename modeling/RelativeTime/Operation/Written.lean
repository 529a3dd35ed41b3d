/-
Writing operations.

The token of an operation is its text, which fails to be written if the magnitude is too
long. `toShorthand` writes the operations of a list one after the other.

* `Operation.failure` : the fault of an operation that leaves the calendar.

## Design notes

A fault names the operation by its token, so the token is written while the fault is
handled. If that fails as well, then the fault of the number is what comes out.
-/
import RelativeTime.Error

namespace RelativeTime

namespace Operation

/-- The text of an operation, unless its magnitude is too long to be written. -/
def token : Operation → Result String
  | shift sign magnitude unit =>
    match writeNat? magnitude with
    | some digits => .ok (String.ofList (sign.char :: digits ++ [unit.code]))
    | none => .error .overlongNumber
  | round unit => .ok (String.ofList ['/', unit.code])

/-- The fault of an operation that leaves the calendar: it names the token, if there is one. -/
def failure (op : Operation) : Error :=
  match op.token with
  | .ok token => .outOfRange token
  | .error e => e

end Operation

/-- The shorthand text of a list of operations, unless one of them cannot be written. -/
def toShorthand (ops : List Operation) : Result String := do
  let tokens ← ops.mapM Operation.token
  return "now" ++ String.join tokens

end RelativeTime
