/-
The units of relative time.

Each unit has a one-letter code, in which case matters: `m` is a minute and `M` a
month. A unit up to the week has a fixed length; a month or a year has not, and
`approximateSeconds` stands in for it where a length is needed.

* `ofCode?_code`, `code_of_ofCode?` : codes and units correspond.
-/

namespace RelativeTime

/-- A unit of relative time. -/
inductive TimeUnit
  | second
  | minute
  | hour
  | day
  | week
  | month
  | year
  deriving DecidableEq, Repr

namespace TimeUnit

/-- All units, the shortest first. -/
def all : List TimeUnit := [.second, .minute, .hour, .day, .week, .month, .year]

/-- The letter of a unit in a shorthand text. -/
def code : TimeUnit → Char
  | .second => 's'
  | .minute => 'm'
  | .hour => 'h'
  | .day => 'd'
  | .week => 'w'
  | .month => 'M'
  | .year => 'y'

/-- The unit with a given letter. -/
def ofCode? : Char → Option TimeUnit
  | 's' => some .second
  | 'm' => some .minute
  | 'h' => some .hour
  | 'd' => some .day
  | 'w' => some .week
  | 'M' => some .month
  | 'y' => some .year
  | _ => none

/-- The name of a unit. -/
def name : TimeUnit → String
  | .second => "SECOND"
  | .minute => "MINUTE"
  | .hour => "HOUR"
  | .day => "DAY"
  | .week => "WEEK"
  | .month => "MONTH"
  | .year => "YEAR"

/-- The length of a unit, if it is always the same. -/
def fixedSeconds? : TimeUnit → Option Nat
  | .second => some 1
  | .minute => some 60
  | .hour => some 3600
  | .day => some 86400
  | .week => some 604800
  | .month => none
  | .year => none

/-- The length of a unit, taking 30 days for a month and 365 days for a year. -/
def approximateSeconds : TimeUnit → Nat
  | .second => 1
  | .minute => 60
  | .hour => 3600
  | .day => 86400
  | .week => 604800
  | .month => 2592000
  | .year => 31536000

/-- The length of a unit in microseconds, taking 30 days for a month and 365 days for a
year. -/
def micros (unit : TimeUnit) : Nat := unit.approximateSeconds * 1000000

@[simp] theorem ofCode?_code (u : TimeUnit) : ofCode? u.code = some u := by
  cases u <;> rfl

theorem code_of_ofCode? {c : Char} {u : TimeUnit} (h : ofCode? c = some u) : u.code = c := by
  simp only [ofCode?] at h
  split at h <;> simp_all <;> subst h <;> rfl

end TimeUnit

end RelativeTime
