/-
The shortest decimals of floating-point numbers.

A finite `Float` is `m * 2 ^ q`, and the decimals that read back as it fill an
interval that ends halfway to its two neighbours. `shortest` gives the decimal of
that interval with the fewest digits and, among those, the nearest.

* `Binary.readsBack` : the test for the interval, in exact arithmetic of naturals.
* `Binary.shortest` : the search, from one digit up to seventeen.

## Design notes

On a grid of a given number of digits only the two neighbours of the value are
tried. Seventeen digits always suffice; if they did not, the search would answer
with the exact value.
-/

namespace RelativeTime

/-- A positive finite floating-point number, `m * 2 ^ q`. -/
structure Binary where
  m : Nat
  q : Int
  /-- Whether the neighbour below is only half as far away as the one above. -/
  narrowBelow : Bool

/-- A decimal, `digits * 10 ^ exponent`. -/
structure Decimal where
  digits : Nat
  exponent : Int
  deriving DecidableEq, Repr

namespace Binary

/-- The size of a finite floating-point number, from its bits. -/
def ofBits (bits : UInt64) : Binary :=
  let exponent := ((bits >>> 52) &&& 0x7FF).toNat
  let fraction := (bits &&& 0xFFFFFFFFFFFFF).toNat
  if exponent = 0 then ⟨fraction, -1074, false⟩
  else ⟨4503599627370496 + fraction, (exponent : Int) - 1075, fraction == 0 && 1 < exponent⟩

/-- The numerator of the value as a fraction. -/
def numerator (x : Binary) : Nat := x.m * Nat.pow 2 x.q.toNat

/-- The denominator of the value as a fraction. -/
def denominator (x : Binary) : Nat := Nat.pow 2 (-x.q).toNat

/-- Compares `d` with `n` quarters of the unit of `x`. -/
def compareQuarters (x : Binary) (d : Decimal) (n : Nat) : Ordering :=
  compare (4 * d.digits * Nat.pow 10 d.exponent.toNat * x.denominator)
    (n * Nat.pow 2 x.q.toNat * Nat.pow 10 (-d.exponent).toNat)

/-- Whether `d` is read as `x`: it lies no further away than halfway to a neighbour,
and on the half only if `m` is even. -/
def readsBack (x : Binary) (d : Decimal) : Bool :=
  let below := x.compareQuarters d (4 * x.m - if x.narrowBelow then 1 else 2)
  let above := x.compareQuarters d (4 * x.m + 2)
  let onEnd := x.m % 2 == 0
  (below == .gt || onEnd && below == .eq) && (above == .lt || onEnd && above == .eq)

/-- The number of digits of the value before the decimal point, or minus the number
of zeros after it. -/
def pointPosition (x : Binary) : Int :=
  if x.denominator ≤ x.numerator then
    (Nat.toDigits 10 (x.numerator / x.denominator)).length
  else
    1 - ((Nat.toDigits 10 ((x.denominator - 1) / x.numerator)).length : Int)

/-- The nearest decimal that reads back as `x` among the two neighbours of `x` that are
multiples of `10 ^ exponent`; of two equally near ones, the even one. -/
def onGrid? (x : Binary) (exponent : Int) : Option Decimal :=
  let num := x.numerator * Nat.pow 10 (-exponent).toNat
  let den := x.denominator * Nat.pow 10 exponent.toNat
  let low : Decimal := ⟨num / den, exponent⟩
  let high : Decimal := ⟨num / den + 1, exponent⟩
  match x.readsBack low, x.readsBack high with
  | false, false => none
  | true, false => some low
  | false, true => some high
  | true, true =>
    match compare (2 * (num % den)) den with
    | .lt => some low
    | .gt => some high
    | .eq => some (if low.digits % 2 = 0 then low else high)

/-- The value itself as a decimal. -/
def exact (x : Binary) : Decimal :=
  ⟨x.numerator * Nat.pow 5 (-x.q).toNat, min x.q 0⟩

/-- The decimal with the fewest digits that reads back as `x`. -/
def shortest (x : Binary) : Decimal :=
  let point := x.pointPosition
  ((List.range 17).findSome? fun (n : Nat) => x.onGrid? (point - 1 - n)).getD x.exact

end Binary

end RelativeTime
