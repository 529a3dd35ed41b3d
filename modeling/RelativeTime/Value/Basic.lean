/-
Loosely typed values.

Settings, references and targets come from outside, where nothing fixes their type.
A `Value` is what may stand there: the usual data of a configuration file, dates,
and dates with times. `kind` names the type of a value, and `truthy` says whether it
counts as true where a yes or no is wanted.
-/
import RelativeTime.Calendar.DateTime

namespace RelativeTime

/-- A value of any type. -/
inductive Value
  | null
  | bool (b : Bool)
  | int (n : Int)
  | float (x : Float)
  | text (s : String)
  | list (items : List Value)
  /-- Entries in the order in which they were given. -/
  | record (entries : List (String × Value))
  | date (d : Date)
  | dateTime (t : DateTime)
  deriving Inhabited

namespace Value

/-- The name of the type of a value. -/
def kind : Value → String
  | null => "NoneType"
  | bool _ => "bool"
  | int _ => "int"
  | float _ => "float"
  | text _ => "str"
  | list _ => "list"
  | record _ => "dict"
  | date _ => "date"
  | dateTime _ => "datetime"

/-- Whether a value counts as true. Nothing, zero and whatever is empty do not. -/
def truthy : Value → Bool
  | null => false
  | bool b => b
  | int n => n != 0
  | float x => x != 0
  | text s => !s.isEmpty
  | list items => !items.isEmpty
  | record entries => !entries.isEmpty
  | date _ => true
  | dateTime _ => true

/-- Whether a value is nothing at all. -/
def isNull : Value → Bool
  | null => true
  | _ => false

end Value

/-- The value of the last entry with a given key. -/
def lookUp? (entries : List (String × Value)) (key : String) : Option Value :=
  (entries.reverse.find? fun e => e.1 == key).map Prod.snd

end RelativeTime
