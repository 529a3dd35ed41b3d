/-
Operations on a running instant, and their shorthand.

A shorthand text is `now` followed by operations, which apply from left to right:
`-4d` shifts by four days, `/h` rounds down to the start of the hour. The `text` of an
operation is one of these tokens and `shorthand` puts the texts of a list together.

## Design notes

`Operation.text` and `shorthand` are the notation, for magnitudes of any length. What can
be written of it is in `RelativeTime.Operation.Written`.
-/
import RelativeTime.TimeUnit
import RelativeTime.Text.Numeral

namespace RelativeTime

/-- The direction of a shift. -/
inductive Sign
  | plus
  | minus
  deriving DecidableEq, Repr

namespace Sign

/-- The character that stands for a sign. -/
def char : Sign → Char
  | plus => '+'
  | minus => '-'

/-- The sign that a character stands for. -/
def ofChar? : Char → Option Sign
  | '+' => some plus
  | '-' => some minus
  | _ => none

/-- The number of a given size and sign. -/
def apply : Sign → Nat → Int
  | plus, n => n
  | minus, n => -(n : Int)

@[simp] theorem ofChar?_char (s : Sign) : ofChar? s.char = some s := by
  cases s <;> rfl

theorem char_of_ofChar? {c : Char} {s : Sign} (h : ofChar? c = some s) : s.char = c := by
  unfold ofChar? at h
  split at h
  · rw [← Option.some.inj h]
    rfl
  · rw [← Option.some.inj h]
    rfl
  · cases h

end Sign

/-- One step of a shorthand text. -/
inductive Operation
  /-- Move by a number of units. -/
  | shift (sign : Sign) (magnitude : Nat) (unit : TimeUnit)
  /-- Go back to the start of the current unit. -/
  | round (unit : TimeUnit)
  deriving DecidableEq, Repr

namespace Operation

/-- The characters of the text of an operation. -/
def chars : Operation → List Char
  | shift sign magnitude unit => sign.char :: natText magnitude ++ [unit.code]
  | round unit => ['/', unit.code]

/-- The text of an operation. -/
def text (op : Operation) : String := String.ofList op.chars

/-- The operation spelled out. -/
def display : Operation → String
  | shift sign magnitude unit =>
    "Adjust(sign='" ++ sign.char.toString ++ "', magnitude=" ++ String.ofList (natText magnitude)
      ++ ", unit=" ++ unit.name ++ ")"
  | round unit => "Round(unit=" ++ unit.name ++ ")"

/-- How many units an operation moves by, if it is a shift. -/
def signed? : Operation → Option Int
  | shift sign magnitude _ => some (sign.apply magnitude)
  | round _ => none

end Operation

/-- The word that every shorthand text starts with. -/
def anchor : List Char := ['n', 'o', 'w']

/-- The characters of the shorthand text of a list of operations. -/
def shorthandChars (ops : List Operation) : List Char :=
  anchor ++ ops.flatMap Operation.chars

/-- The shorthand text of a list of operations. -/
def shorthand (ops : List Operation) : String := String.ofList (shorthandChars ops)

@[simp] theorem toList_shorthand (ops : List Operation) :
    (shorthand ops).toList = shorthandChars ops :=
  String.toList_ofList

end RelativeTime
