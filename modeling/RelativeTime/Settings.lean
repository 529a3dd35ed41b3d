/-
Settings.

Four settings have names and defaults. `Settings` holds a value for each, or none where
an instance was put together by hand without it. A `SettingsSource` is what a caller
gives in place of settings, and `resolve` makes settings of it.

* `resolve_value_of_truthy_eq_false` : a value that counts as false stands for the defaults.

## Design notes

Values are kept as they were given, of whatever type: they are used for their truth
only. `pending` holds the entries that a reader checks before it uses the settings. The
defaults are those of `Setting.default`, unless a session says that it has others by now.

Besides the four settings there are keys that speak of the settings themselves. In
settings made by hand, `defaultKey` says whether they count as the defaults and
`pendingKey` holds entries to be checked. The keys `selfKey` and `givenKey` name
arguments of the call that makes the settings, so a record cannot use them.
-/
import RelativeTime.Error

namespace RelativeTime

/-- The name of a setting. -/
inductive Setting
  /-- the reference where none is given; false for the clock -/
  | relativeBase
  /-- whether stray characters are refused -/
  | strictParsing
  /-- whether descriptions of aligned instants are exact -/
  | roundTripFormat
  /-- whether results keep their offset -/
  | timezoneAware
  deriving DecidableEq, Repr

namespace Setting

/-- All settings, in the order in which they are shown. -/
def all : List Setting := [.relativeBase, .strictParsing, .roundTripFormat, .timezoneAware]

/-- The key of a setting. -/
def key : Setting → String
  | relativeBase => "RELATIVE_BASE"
  | strictParsing => "STRICT_PARSING"
  | roundTripFormat => "ROUND_TRIP_FORMAT"
  | timezoneAware => "RETURN_AS_TIMEZONE_AWARE"

/-- The setting with a given key. -/
def ofKey? (key : String) : Option Setting := all.find? fun s => s.key == key

/-- The value that a setting has of itself. -/
def default : Setting → Value
  | relativeBase => .bool false
  | strictParsing => .bool false
  | roundTripFormat => .bool true
  | timezoneAware => .bool true

end Setting

/-- A value for each setting, as far as it is known. -/
structure Settings where
  value? : Setting → Option Value
  /-- Whether these settings count as the defaults. -/
  isDefault : Value
  /-- The entries that have not been checked yet. -/
  pending : Value

namespace Settings

/-- The key of what says whether settings made by hand count as the defaults. -/
def defaultKey : String := "_default"

/-- The key of the entries of settings made by hand that are to be checked. -/
def pendingKey : String := "_mod_settings"

/-- The key that stands for the settings to start from. -/
def selfKey : String := "self"

/-- The key that stands for the record that was given. -/
def givenKey : String := "mod_settings"

/-- The settings that hold where none are given, if they have the values `defaults`. -/
def ofDefaults (defaults : Setting → Value) : Settings where
  value? s := some (defaults s)
  isDefault := .bool true
  pending := .record []

/-- The settings that hold where none are given. -/
def default : Settings := ofDefaults Setting.default

/-- The value of a setting. -/
def get (settings : Settings) (s : Setting) : Result Value :=
  match settings.value? s with
  | some v => .ok v
  | none => .error .missingPart

/-- Whether a setting is on. -/
def isOn (settings : Settings) (s : Setting) : Result Bool := (settings.get s).map Value.truthy

/-- The defaults with some entries in place of theirs, of which `unchecked` are yet to be
checked. No entry may be nothing. -/
def replace (defaults : Setting → Value) (entries : List (String × Value)) (unchecked : Value) :
    Result Settings :=
  if entries.any fun e => e.1 == selfKey then .error .reservedSetting
  else
    match entries.find? fun e => e.2.isNull with
    | some e => .error (.nullSetting e.1)
    | none => .ok {
        value? := fun s => some ((lookUp? entries s.key).getD (defaults s))
        isDefault := .bool false
        pending :=
          if unchecked.truthy then unchecked
          else (lookUp? entries pendingKey).getD (.record []) }

/-- Settings that hold just the given entries, or the defaults if there are none. -/
def ofEntries (entries : List (String × Value)) : Settings :=
  if entries.isEmpty then default
  else {
    value? := fun s => lookUp? entries s.key
    isDefault := (lookUp? entries defaultKey).getD (.bool true)
    pending := (lookUp? entries pendingKey).getD (.record []) }

/-- The settings spelled out. -/
def display (settings : Settings) : Result String := do
  let shown ← Setting.all.mapM fun s => do
    let v ← settings.get s
    return s.key ++ "=" ++ v.printed
  return "Settings(" ++ ", ".intercalate shown ++ ")"

/-- Checks one entry: its key must name a setting, and its value must fit that setting. -/
def checkEntry (key : String) (value : Value) : Result Unit :=
  match Setting.ofKey? key, value with
  | none, _ => .error (.unknownSetting key)
  | some .relativeBase, .bool false => .ok ()
  | some .relativeBase, .dateTime _ => .ok ()
  | some .relativeBase, v => .error (.settingNotDateTime key v.kind)
  | some _, .bool _ => .ok ()
  | some _, v => .error (.settingNotBool key v.kind)

/-- Checks entries in order, up to the first fault. -/
def checkEntries : List (String × Value) → Result Unit
  | [] => .ok ()
  | (key, value) :: entries => do
    checkEntry key value
    checkEntries entries

/-- The keys of the entries that have not been checked yet; of a value that is no record,
what it consists of. -/
def modified (settings : Settings) : Result (List Value) :=
  match settings.pending with
  | .record entries => .ok (entries.map fun e => .text e.1)
  | .list items => .ok items
  | .text s => .ok (s.toList.map fun c => .text c.toString)
  | _ => .error .unsupported

/-- Checks the entries that have not been checked yet. -/
def check (settings : Settings) : Result Unit :=
  match settings.pending with
  | .record entries => checkEntries entries
  | _ => .error .missingPart

end Settings

/-- What a caller gives in place of settings. -/
inductive SettingsSource
  /-- any value: a record of settings, or one that counts as false for the defaults -/
  | value (v : Value)
  /-- the defaults with some entries replaced -/
  | replaced (entries : List (String × Value))
  /-- settings made of entries alone -/
  | built (entries : List (String × Value))

namespace SettingsSource

/-- The settings that a source stands for, where the defaults have the given values. -/
def resolve (source : SettingsSource) (defaults : Setting → Value := Setting.default) :
    Result Settings :=
  match source with
  | value v =>
    if v.truthy then
      match v with
      | .record entries =>
        if entries.any fun e => e.1 == Settings.givenKey then .error .reservedSetting
        else Settings.replace defaults entries v
      | _ => .error .settingsNotRecord
    else .ok (.ofDefaults defaults)
  | replaced entries =>
    let unchecked := (lookUp? entries Settings.givenKey).getD .null
    Settings.replace defaults (entries.filter fun e => e.1 != Settings.givenKey) unchecked
  | built entries => .ok (.ofEntries entries)

/-- Whether a source stands for the defaults themselves. -/
def isAbsent : SettingsSource → Bool
  | value v => !v.truthy
  | _ => false

theorem resolve_value_of_truthy_eq_false {v : Value} (h : v.truthy = false) :
    (value v).resolve = .ok .default := by
  simp [resolve, h, Settings.default]

end SettingsSource

end RelativeTime
