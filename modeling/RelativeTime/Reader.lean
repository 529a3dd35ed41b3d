/-
Reading and describing instants by settings.

A `Reader` is built from settings once they have been checked. `parse` reads a shorthand
text against a reference, and `format` describes a target against one. The functions
`RelativeTime.parse` and `RelativeTime.format` take settings of any source.

## Design notes

The clock is an argument: the instant that it shows whenever it is read. In
`RelativeTime.parse` and `RelativeTime.format`, settings that count as the defaults are
neither checked nor used. Settings are passed by name: in the place of a third argument
they are refused, whatever they are, which is left out here.
-/
import RelativeTime.Settings
import RelativeTime.Operation.Reading
import RelativeTime.Value.Moment

namespace RelativeTime

/-- Where the reference of a relative time comes from. -/
inductive Reference
  | given (v : Value)
  | clock

namespace Reference

/-- The reference that was given; where it is nothing, the one of the settings; and where
they have none, the clock. -/
def choose (now : Value) (settings : Settings) : Result Reference :=
  if now.isNull then do
    let base ← settings.get .relativeBase
    return if base.truthy then .given base else .clock
  else .ok (.given now)

/-- The reference as an instant in UTC. -/
def instant (clock : DateTime) : Reference → Result DateTime
  | given v => v.toUtc
  | .clock => .ofRange clock.toUtc

/-- How often the clock is read. -/
def clockReads : Reference → Nat
  | given _ => 0
  | clock => 1

end Reference

/-- A reader of shorthand texts. -/
structure Reader where
  settings : Settings

namespace Reader

/-- The reader with the default settings. -/
def default : Reader := ⟨.default⟩

/-- The reader with the given settings, which must pass their check. -/
def build (settings : Settings) : Result Reader := do
  settings.check
  return ⟨settings⟩

/-- The reader with settings of any source, which are always checked. -/
def ofSource (source : SettingsSource) (defaults : Setting → Value := Setting.default) :
    Result Reader := do
  let settings ← source.resolve defaults
  build settings

/-- The operations of a text. -/
def operations (r : Reader) (text : Value) : Result (List Operation) :=
  match text with
  | .text s => do
    let strict ← r.settings.isOn .strictParsing
    extract s strict
  | _ => .error .notText

/-- The reference as an instant in UTC. -/
def reference (r : Reader) (clock : DateTime) (now : Value) : Result DateTime := do
  let reference ← Reference.choose now r.settings
  reference.instant clock

/-- The instant that a text stands for. -/
def parse (r : Reader) (clock : DateTime) (text now : Value) : Result DateTime := do
  let ops ← r.operations text
  let base ← r.reference clock now
  let t ← evaluate ops base
  let aware ← r.settings.isOn .timezoneAware
  return if aware then t else t.withoutOffset

/-- The text that describes a target. -/
def format (r : Reader) (clock : DateTime) (target now : Value) : Result String := do
  let t ← target.toUtc
  let n ← r.reference clock now
  describeText t n (r.settings.isOn .roundTripFormat)

/-- The operations of a text, each with its outcome. The reference must be given. -/
def trace (r : Reader) (text now : Value) : Result (List (Operation × Result DateTime)) := do
  let base ← now.toUtc
  let ops ← r.operations text
  return RelativeTime.trace ops base

end Reader

/-- The reader for settings: the default one if they count as the defaults. -/
def readerFor (settings : Settings) (defaults : Setting → Value := Setting.default) :
    Result Reader :=
  if settings.isDefault.truthy then .ok ⟨.ofDefaults defaults⟩ else Reader.build settings

/-- The instant that a text stands for, by settings of any source. -/
def parse (clock : DateTime) (text now : Value) (source : SettingsSource)
    (defaults : Setting → Value := Setting.default) : Result DateTime := do
  let settings ← source.resolve defaults
  let reader ← readerFor settings defaults
  reader.parse clock text now

/-- The text that describes a target, by settings of any source. -/
def format (clock : DateTime) (target now : Value) (source : SettingsSource)
    (defaults : Setting → Value := Setting.default) : Result String := do
  let settings ← source.resolve defaults
  let reader ← readerFor settings defaults
  reader.format clock target now

end RelativeTime
