/-
Sessions.

A session has a reader, and in its state a reference and the defaults of the settings. A
request may read a text, which moves the reference to the result, describe a target, or set
the reference. A request that fails leaves the state as it was (`run_cons_of_error`).
-/
import RelativeTime.Reader

namespace RelativeTime

namespace Session

/-- What may be asked of a session. -/
inductive Request
  /-- read a text and go on from the result -/
  | parse (text : Value)
  /-- describe a target -/
  | format (target : Value)
  /-- describe a target, read the description and go on from the result -/
  | formatParse (target : Value)
  /-- spell out the operations of a text -/
  | operations (text : Value)
  /-- go on from any value -/
  | set (now : Value)
  /-- read a text with settings of its own -/
  | parseBy (text : Value) (source : SettingsSource)

/-- What a session answers. -/
inductive Answer
  | value (v : Value)
  | text (s : String)
  | textAt (s : String) (t : DateTime)
  | displays (ops : List Operation)

/-- What a session keeps from one request to the next. -/
structure State where
  /-- what texts are read against and targets are described from -/
  reference : Value
  /-- the values of the settings where none are given -/
  defaults : Setting → Value

/-- Answers a request in a state, with the state that follows. -/
def step (r : Reader) (clock : DateTime) (state : State) : Request → Result (Answer × State)
  | .parse text => do
    let t ← r.parse clock text state.reference
    return (.value (.dateTime t), { state with reference := .dateTime t })
  | .format target => do
    let s ← r.format clock target state.reference
    return (.text s, state)
  | .formatParse target => do
    let s ← r.format clock target state.reference
    let t ← r.parse clock (.text s) state.reference
    return (.textAt s t, { state with reference := .dateTime t })
  | .operations text => do
    let ops ← r.operations text
    return (.displays ops, state)
  | .set now => .ok (.value now, { state with reference := now })
  | .parseBy text source => do
    let t ← RelativeTime.parse clock text state.reference source state.defaults
    return (.value (.dateTime t), state)

/-- Answers requests in order. -/
def run (r : Reader) (clock : DateTime) : State → List Request → List (Result Answer)
  | _, [] => []
  | state, request :: requests =>
    match step r clock state request with
    | .ok (answer, next) => .ok answer :: run r clock next requests
    | .error e => .error e :: run r clock state requests

/-- The state after some requests. -/
def stateAfter (r : Reader) (clock : DateTime) : State → List Request → State
  | state, [] => state
  | state, request :: requests =>
    match step r clock state request with
    | .ok (_, next) => stateAfter r clock next requests
    | .error _ => stateAfter r clock state requests

theorem run_cons_of_error {r : Reader} {clock : DateTime} {state : State} {request : Request}
    {e : Error} (h : step r clock state request = .error e) (requests : List Request) :
    run r clock state (request :: requests) = .error e :: run r clock state requests := by
  simp [run, h]

end Session

end RelativeTime
