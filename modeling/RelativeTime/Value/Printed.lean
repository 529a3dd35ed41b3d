/-
The printed form of values.

Messages show a value as an expression that denotes it: text in quotes, lists in
brackets, records in braces, and dates as calls that name their parts.

## Design notes

A date and time leaves out its microseconds if they are zero, and then its seconds if
they are zero as well. An offset is shown as a whole number of days, possibly
negative, and the seconds and microseconds beyond them, each only if it is not zero.
-/
import RelativeTime.Value.Basic
import RelativeTime.Text.Numeral
import RelativeTime.Text.Quoted
import RelativeTime.Decimal.FloatText

namespace RelativeTime

/-- The printed form of a whole number. -/
def printedInt (n : Int) : String := String.ofList (intText n)

/-- The printed form of a date. -/
def Date.printed (d : Date) : String :=
  "datetime.date(" ++ ", ".intercalate [printedInt d.year, printedInt d.month, printedInt d.day]
    ++ ")"

/-- The printed form of an offset. -/
def Offset.printed (o : Offset) : String :=
  if o.micros = 0 then "datetime.timezone.utc"
  else
    let parts := [("days", o.micros / microsPerDay),
      ("seconds", o.micros % microsPerDay / 1000000), ("microseconds", o.micros % 1000000)]
    let shown := (parts.filter fun p => p.2 != 0).map fun p => p.1 ++ "=" ++ printedInt p.2
    "datetime.timezone(datetime.timedelta(" ++ ", ".intercalate shown ++ "))"

/-- The printed form of a date and time. -/
def DateTime.printed (t : DateTime) : String :=
  let always : List Int := [t.date.year, t.date.month, t.date.day, t.time.hour, t.time.minute]
  let fine : List Int :=
    if t.time.microsecond ≠ 0 then [t.time.second, t.time.microsecond]
    else if t.time.second ≠ 0 then [t.time.second]
    else []
  let zone := match t.offset with
    | some o => ["tzinfo=" ++ o.printed]
    | none => []
  "datetime.datetime(" ++ ", ".intercalate ((always ++ fine).map printedInt ++ zone) ++ ")"

namespace Value

mutual

/-- The printed form of a value. -/
def printed : Value → String
  | null => "None"
  | bool b => if b then "True" else "False"
  | int n => printedInt n
  | float x => floatText x
  | text s => quoted s
  | list items => "[" ++ ", ".intercalate (printedItems items) ++ "]"
  | record entries => "\x7b" ++ ", ".intercalate (printedEntries entries) ++ "\x7d"
  | date d => d.printed
  | dateTime t => t.printed

/-- The printed forms of the items of a list. -/
def printedItems : List Value → List String
  | [] => []
  | item :: items => item.printed :: printedItems items

/-- The printed forms of the entries of a record. -/
def printedEntries : List (String × Value) → List String
  | [] => []
  | (key, value) :: entries => (quoted key ++ ": " ++ value.printed) :: printedEntries entries

end

end Value

end RelativeTime
