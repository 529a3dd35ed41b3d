/-
Programs put together by hand.

A program that was not read from a text may hold steps that no text has: shifts whose
magnitude is not a whole number, operations with a unit that is none, and values that
are no operations. The first kind is carried out as far as it makes sense. The others are
refused when the program runs, or when its shorthand is wanted.

## Design notes

A fraction of a unit of fixed length is rounded to the nearest microsecond, and to the
even one of two equally near. Months and years must be whole. A program names a step by its
token, so a step that cannot be spelled out fails while its failure is told. In values that
are no magnitudes, and in what is refused, numbers are taken to be short enough to be written.
-/
import RelativeTime.Operation.Reading
import RelativeTime.Value.Moment

namespace RelativeTime

/-- A magnitude that was not given as a whole number. -/
inductive Amount
  /-- a yes or no, which counts as one or zero -/
  | truth (b : Bool)
  /-- a floating-point number, not below zero -/
  | real (x : Float)

namespace Amount

/-- An amount as a value. -/
def value : Amount → Value
  | truth b => .bool b
  | real x => .float x

/-- An amount with a sign. A minus turns a yes or no into a number. -/
def signed : Sign → Amount → Value
  | .plus, amount => amount.value
  | .minus, truth b => .int (-(b.toNat : Int))
  | .minus, real x => .float (-x)

end Amount

/-- The quotient of two naturals to the nearest natural; of two equally near, the even one. -/
def roundedQuotient (num den : Nat) : Nat :=
  let q := num / den
  match compare (2 * (num % den)) den with
  | .lt => q
  | .gt => q + 1
  | .eq => q + q % 2

/-- The value an amount of units later. -/
def Value.shiftBy (base : Value) (sign : Sign) (amount : Amount) (unit : TimeUnit) :
    Result Value :=
  match amount with
  | .truth b => base.shift (sign.apply b.toNat) unit
  | .real x =>
    if !x.isFinite then .error (.range .overflow)
    else
      let size := Binary.ofBits (x.toBits &&& 0x7FFFFFFFFFFFFFFF)
      let whole := sign.apply (size.numerator / size.denominator)
      let isWhole := size.numerator % size.denominator == 0
      match unit with
      | .year => if isWhole then base.shiftYears whole else .error .fractionalMonths
      | .month => if isWhole then base.shiftMonths whole else .error .fractionalMonths
      | unit =>
        base.add (sign.apply (roundedQuotient (unit.micros * size.numerator) size.denominator))

/-- One step of a program. -/
inductive Step
  | operation (op : Operation)
  /-- a shift by an amount of units -/
  | shiftBy (sign : Sign) (amount : Amount) (unit : TimeUnit)
  /-- a shift by something that is no unit -/
  | shiftByOther (unit : Value)
  /-- a rounding to something that is no unit -/
  | roundToOther (unit : Value)
  /-- something that is no operation -/
  | other (value : Value)

namespace Step

/-- The sign of a shift. -/
def signOf (sign : Value) : Result Sign :=
  match sign with
  | .text "+" => .ok .plus
  | .text "-" => .ok .minus
  | _ => .error (.invalidShiftSign sign)

/-- A shift with a magnitude of any type, which must be a number and not below zero. -/
def ofMagnitude (sign : Sign) (magnitude : Value) (unit : TimeUnit) : Result Step :=
  match magnitude with
  | .int n =>
    if n < 0 then .error (.negativeMagnitude magnitude)
    else .ok (.operation (.shift sign n.toNat unit))
  | .float x =>
    if x < 0 then .error (.negativeMagnitude magnitude) else .ok (.shiftBy sign (.real x) unit)
  | .bool b => .ok (.shiftBy sign (.truth b) unit)
  | _ => .error .unsupported

/-- A shift; of several faults the one of the unit comes first and that of the magnitude last. -/
def shift (sign magnitude code : Value) : Result Step := do
  let unit ← unitOf code
  let sign ← signOf sign
  ofMagnitude sign magnitude unit

/-- A shift by something that is no unit; its sign and magnitude must be right even so. -/
def rawShift (sign magnitude unit : Value) : Result Step := do
  let sign ← signOf sign
  let _ ← ofMagnitude sign magnitude .second
  return .shiftByOther unit

/-- A rounding. -/
def round (code : Value) : Result Step := (unitOf code).map fun unit => .operation (.round unit)

/-- The failure of a shift by something that is no unit: lists and records cannot even be
looked up among the units. -/
def shiftError : Value → Error
  | .list _ | .record _ => .unsupported
  | unit => .invalidShiftUnit unit

/-- The failure of a rounding to something that is no unit. -/
def roundError (base unit : Value) : Error :=
  match base with
  | .dateTime _ => .invalidRoundUnit unit
  | v => v.roundingError

/-- What a step does to a value. -/
def apply (base : Value) : Step → Result Value
  | operation (.shift sign magnitude unit) => base.shift (sign.apply magnitude) unit
  | operation (.round unit) => base.floor unit
  | shiftBy sign amount unit => base.shiftBy sign amount unit
  | shiftByOther unit => .error (shiftError unit)
  | roundToOther unit => .error (roundError base unit)
  | other value => .error (.unknownOperation value)

/-- Applies one shift; a step that is no shift has no magnitude to shift by. -/
def adjust (base : Value) : Step → Result Value
  | operation (.round _) | roundToOther _ | other _ => .error .missingPart
  | step => step.apply base

/-- How a step is written: spelled out, as a token, and the number of units it moves by. -/
structure Spelling where
  display : String
  token : String
  signed? : Option String

/-- How a step is written, if it is an operation on units. -/
def spelling : Step → Result Spelling
  | operation op =>
    op.token.map fun token =>
      { display := op.display, token, signed? := op.signed?.map printedInt }
  | shiftBy sign amount unit =>
    let mark := sign.char.toString
    let size := amount.value.printed
    .ok {
      display := "Adjust(sign='" ++ mark ++ "', magnitude=" ++ size ++ ", unit=" ++ unit.name ++ ")"
      token := mark ++ size ++ unit.code.toString
      signed? := some (Amount.signed sign amount).printed }
  | _ => .error .missingPart

/-- The shorthand text of steps that can be written. -/
def shorthandOf (spellings : List Spelling) : String :=
  String.ofList anchor ++ String.join (spellings.map Spelling.token)

/-- The failure of a step within a program: leaving the calendar, or a part of a month, is
told with the token of the step. -/
def failure (step : Step) (e : Error) : Error :=
  match e, step.spelling with
  | .range _, .ok s | .fractionalMonths, .ok s => .outOfRange s.token
  | .range _, .error e' | .fractionalMonths, .error e' => e'
  | e, _ => e

/-- Runs a program from left to right. -/
def run : List Step → Value → Result Value
  | [], base => .ok base
  | step :: steps, base =>
    match step.apply base with
    | .ok next => run steps next
    | .error e => .error (step.failure e)

end Step

end RelativeTime
