/-
The text of floating-point numbers.

A number is written with the fewest digits that identify it. It is written
positionally, with at least one digit after the point, if its first digit stands
for `10 ^ -4` up to `10 ^ 15`, and otherwise with an exponent of a sign and at
least two digits.
-/
import RelativeTime.Decimal.Shortest

namespace RelativeTime

/-- The digits without the zeros at their end. -/
def withoutTrailingZeros (digits : List Char) : List Char :=
  (digits.reverse.dropWhile (· = '0')).reverse

/-- The exponent of a number in scientific notation. -/
def exponentText (e : Int) : List Char :=
  let digits := Nat.toDigits 10 e.natAbs
  'e' :: (if e < 0 then '-' else '+') :: (List.replicate (2 - digits.length) '0' ++ digits)

/-- Sets the decimal point in `digits`, after as many of them as `point` says. -/
def layOut (digits : List Char) (point : Int) : List Char :=
  if -4 < point ∧ point ≤ 16 then
    if point ≤ 0 then '0' :: '.' :: List.replicate (-point).toNat '0' ++ digits
    else
      let whole := point.toNat
      let zeros := List.replicate (whole - digits.length) '0'
      let fraction := digits.drop whole
      digits.take whole ++ zeros ++ '.' :: if fraction.isEmpty then ['0'] else fraction
  else
    let fraction := digits.drop 1
    digits.take 1 ++ (if fraction.isEmpty then [] else '.' :: fraction) ++ exponentText (point - 1)

/-- The text of a positive finite number. -/
def Binary.text (x : Binary) : List Char :=
  let d := x.shortest
  let digits := Nat.toDigits 10 d.digits
  layOut (withoutTrailingZeros digits) (digits.length + d.exponent)

/-- The text of a floating-point number. -/
def floatText (x : Float) : String :=
  let sign := if x.toBits >>> 63 = 1 then "-" else ""
  if x.isNaN then "nan"
  else if x.isInf then sign ++ "inf"
  else if x == 0 then sign ++ "0.0"
  else sign ++ String.ofList (Binary.ofBits x.toBits).text

end RelativeTime
