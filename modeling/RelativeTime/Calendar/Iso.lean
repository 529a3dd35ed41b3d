/-
Dates and times as ISO 8601 text.

A date is `YYYY-MM-DD`. A date and time adds `THH:MM:SS.ffffff`, of which a reader
takes any leading part, and an offset: `Z` or `+HH:MM`, with seconds and a fraction
if it has them. A naive time has no offset. Writing always gives all six digits of
the fraction and never uses `Z`. An offset of less than a second is read as that of
UTC.
-/
import RelativeTime.Calendar.DateTime

namespace RelativeTime

namespace Iso

/-- The decimal digits of `n`, with zeros in front up to `width` digits. -/
def padded (width n : Nat) : List Char :=
  let digits := Nat.toDigits 10 n
  List.replicate (width - digits.length) '0' ++ digits

/-- A text and what is left of it after a part of it has been read. -/
abbrev Read (α : Type) := List Char → Option (α × List Char)

/-- Reads exactly `width` decimal digits. -/
def digits (width : Nat) : Read Nat := fun text =>
  let run := text.take width
  if run.length = width ∧ run.all Char.isDigit then
    some (Nat.ofDigitChars 10 run 0, text.drop width)
  else none

/-- Reads one given character. -/
def mark (c : Char) : Read Unit
  | d :: rest => if d = c then some ((), rest) else none
  | [] => none

/-- Reads what `read` does, after a given character; without that character, nothing
is read and the answer is `absent`. -/
def after {α : Type} (c : Char) (absent : α) (read : Read α) : Read α
  | d :: rest => if d = c then read rest else some (absent, d :: rest)
  | [] => some (absent, [])

/-- Reads a fraction as microseconds: any digits, of which the first six count. -/
def fraction : Read Nat := fun text =>
  let run := text.takeWhile Char.isDigit
  let six := run.take 6
  if run.isEmpty then none
  else some (Nat.ofDigitChars 10 (six ++ List.replicate (6 - six.length) '0') 0,
    text.dropWhile Char.isDigit)

/-- Reads hours, minutes, seconds and microseconds, of which the last two may be missing. -/
def clock : Read (Nat × Nat × Nat × Nat) := fun text => do
  let (hour, rest) ← digits 2 text
  let ((), rest) ← mark ':' rest
  let (minute, rest) ← digits 2 rest
  let ((second, micro), rest) ← after ':' (0, 0) (fun rest => do
    let (second, rest) ← digits 2 rest
    let (micro, rest) ← after '.' 0 fraction rest
    return ((second, micro), rest)) rest
  return ((hour, minute, second, micro), rest)

/-- Reads a date. -/
def date : Read Date := fun text => do
  let (year, rest) ← digits 4 text
  let ((), rest) ← mark '-' rest
  let (month, rest) ← digits 2 rest
  let ((), rest) ← mark '-' rest
  let (day, rest) ← digits 2 rest
  let d ← Date.of? year month day
  return (d, rest)

/-- The microseconds of a count of hours, minutes, seconds and microseconds. -/
def clockMicros (c : Nat × Nat × Nat × Nat) : Int :=
  ((c.1 * 60 + c.2.1) * 60 + c.2.2.1) * 1000000 + c.2.2.2

/-- The offset of `n` microseconds; less than a second is no offset. -/
def wholeOffset? (n : Int) : Option Offset :=
  if n.natAbs < 1000000 then some .utc else Offset.of? n

/-- The offset that a whole text stands for. -/
def offset? : List Char → Option (Option Offset)
  | [] => some none
  | ['Z'] => some (some .utc)
  | '+' :: rest => do
    let (c, []) ← clock rest | none
    return some (← wholeOffset? (clockMicros c))
  | '-' :: rest => do
    let (c, []) ← clock rest | none
    return some (← wholeOffset? (-clockMicros c))
  | _ => none

end Iso

/-- The date that a whole text stands for. -/
def Date.ofIso? (text : String) : Option Date := do
  let (d, []) ← Iso.date text.toList | none
  return d

/-- The date and time that a whole text stands for. -/
def DateTime.ofIso? (text : String) : Option DateTime := do
  let (date, rest) ← Iso.date text.toList
  let ((hour, minute, second, micro), rest) ← Iso.after 'T' (0, 0, 0, 0) Iso.clock rest
  let time ← TimeOfDay.of? hour minute second micro
  let offset ← Iso.offset? rest
  return { date, time, offset }

/-- The text of a date. -/
def Date.toIso (d : Date) : String :=
  String.ofList (Iso.padded 4 d.year.toNat ++ '-' :: Iso.padded 2 d.month ++
    '-' :: Iso.padded 2 d.day)

/-- The text of a time of day. -/
def TimeOfDay.toIso (t : TimeOfDay) : String :=
  String.ofList (Iso.padded 2 t.hour ++ ':' :: Iso.padded 2 t.minute ++
    ':' :: Iso.padded 2 t.second ++ '.' :: Iso.padded 6 t.microsecond)

/-- The text of an offset: a sign, then hours and minutes, then seconds and a
fraction as far as they are needed. -/
def Offset.toIso (o : Offset) : String :=
  let size := o.micros.natAbs
  let minutes := size / 60000000
  let seconds := size / 1000000 % 60
  let micros := size % 1000000
  let fraction := if micros = 0 then [] else '.' :: Iso.padded 6 micros
  let tail := if seconds = 0 ∧ micros = 0 then [] else ':' :: Iso.padded 2 seconds ++ fraction
  String.ofList ((if o.micros < 0 then '-' else '+') :: Iso.padded 2 (minutes / 60) ++
    ':' :: Iso.padded 2 (minutes % 60) ++ tail)

/-- The text of a date and time, with its offset if it has one. -/
def DateTime.toIso (t : DateTime) : String :=
  t.date.toIso ++ "T" ++ t.time.toIso ++
    match t.offset with
    | some o => o.toIso
    | none => ""

end RelativeTime
