/-
What can go wrong.

An `Error` names the cause. `message?` is its text, for those causes that have one;
a value handed to an operation that its type does not support fails without a word.
-/
import RelativeTime.Value.Printed
import RelativeTime.Operation.Basic

namespace RelativeTime

/-- A failure, by its cause. -/
inductive Error
  /-- a computation with dates left the calendar -/
  | range (fault : RangeFault)
  /-- the text does not start with the anchor -/
  | missingAnchor (text : String)
  /-- a token starts with no sign and no slash -/
  | invalidSign (token : String)
  /-- the first of the parts that make up a token is no sign and no slash -/
  | invalidFirstPart (parts : List Value)
  /-- the text has characters that belong to no token -/
  | strayText (text stray : String)
  /-- the operation with this token left the calendar -/
  | outOfRange (token : String)
  /-- a shift by something that is no unit -/
  | invalidShiftUnit (unit : Value)
  /-- a rounding to something that is no unit -/
  | invalidRoundUnit (unit : Value)
  /-- a step that is no operation -/
  | unknownOperation (value : Value)
  /-- no unit has this code -/
  | unknownUnit (code : Value)
  /-- the unit has no fixed length -/
  | noFixedLength (unit : TimeUnit)
  /-- the sign of a shift is no sign -/
  | invalidShiftSign (sign : Value)
  /-- the magnitude of a shift is below zero -/
  | negativeMagnitude (magnitude : Value)
  /-- a number of months or years is not whole -/
  | fractionalMonths
  /-- a setting was given as nothing -/
  | nullSetting (key : String)
  /-- a key is not the name of a setting -/
  | unknownSetting (key : String)
  /-- a setting that is a yes or no has a value of another kind -/
  | settingNotBool (key kind : String)
  /-- a setting that is an instant has a value of another kind -/
  | settingNotDateTime (key kind : String)
  /-- a key of the settings has a meaning of its own -/
  | reservedSetting
  /-- the settings are no record -/
  | settingsNotRecord
  /-- the text to be read is no text -/
  | notText
  /-- the instant is no date with a time -/
  | notDateTime (kind : String)
  /-- the type of a value does not support the operation -/
  | unsupported
  /-- a value lacks a part that was asked for -/
  | missingPart
  /-- a record has no entry with this key -/
  | missingEntry (key : Value)
  /-- a token has no characters -/
  | emptyToken
  /-- the number in a token cannot be read -/
  | malformedNumber
  /-- a number has too many digits to be written -/
  | overlongNumber

namespace Error

/-- The text of an error. -/
def message? : Error → Option String
  | missingAnchor _ => some "Invalid date string: Must start with 'now'."
  | invalidSign token => some ("Invalid sign in operation '" ++ token ++ "'")
  | invalidFirstPart parts =>
    some ("Invalid sign in operation '" ++ (Value.list parts).printed ++ "'")
  | strayText text stray =>
    some ("Unrecognized text " ++ quoted stray ++ " in date string " ++ quoted text)
  | outOfRange token => some ("Operation '" ++ token ++ "' is out of the supported date range")
  | invalidShiftUnit unit => some ("Invalid adjustment unit: " ++ unit.printed)
  | invalidRoundUnit unit => some ("Invalid rounding unit: " ++ unit.printed)
  | unknownOperation value => some ("Unknown operation: " ++ value.printed)
  | unknownUnit code => some code.printed
  | noFixedLength unit =>
    some ("<Unit." ++ unit.name ++ ": " ++ quoted unit.code.toString ++ ">")
  | invalidShiftSign sign => some ("Adjust sign must be '+' or '-', not " ++ sign.printed)
  | negativeMagnitude magnitude =>
    some ("Adjust magnitude must not be negative: " ++ magnitude.printed)
  | nullSetting key => some ("Invalid \x7b\"" ++ key ++ "\": None\x7d")
  | unknownSetting key => some ("\"" ++ key ++ "\" is not a valid setting")
  | settingNotBool key kind => some ("\"" ++ key ++ "\" must be \"bool\", not \"" ++ kind ++ "\".")
  | settingNotDateTime key kind =>
    some ("\"" ++ key ++ "\" must be a datetime, not \"" ++ kind ++ "\".")
  | settingsNotRecord => some "settings can only be either dict or instance of Settings class"
  | notText => some "Input type must be str"
  | notDateTime kind => some ("Expected a datetime, not " ++ kind)
  | missingEntry key => some key.printed
  | range _ | fractionalMonths | reservedSetting | unsupported | missingPart | emptyToken
  | malformedNumber | overlongNumber => none

end Error

/-- A result that may fail. -/
abbrev Result (α : Type) := Except Error α

/-- A result of a computation with dates. -/
def Result.ofRange {α : Type} : Except RangeFault α → Result α
  | .ok a => .ok a
  | .error fault => .error (.range fault)

theorem Result.ofRange_eq_ok_iff {α : Type} {r : Except RangeFault α} {a : α} :
    ofRange r = .ok a ↔ r = .ok a := by
  cases r with
  | ok b => rw [ofRange, Except.ok.injEq, Except.ok.injEq]
  | error fault =>
    constructor
    · intro h
      cases h
    · intro h
      cases h

theorem Result.bind_eq_ok_iff {α β : Type} {r : Result α} {f : α → Result β} {b : β} :
    (r >>= f) = .ok b ↔ ∃ a, r = .ok a ∧ f a = .ok b := by
  cases r with
  | ok a =>
    constructor
    · intro h
      exact ⟨a, rfl, h⟩
    · rintro ⟨a', ha, h⟩
      cases ha
      exact h
  | error e =>
    constructor
    · intro h
      cases h
    · rintro ⟨a, ha, -⟩
      cases ha

end RelativeTime
