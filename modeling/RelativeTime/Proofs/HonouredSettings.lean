/-
Settings that are honoured.

Reading and describing by settings ought to be the work of the reader that is built from them.
But settings that count as the defaults are not looked at, and the reader with the defaults does
the work.  So they are honoured only if no reader could tell them from the defaults.

* `Reader.parse_eq_default`, `Reader.format_eq_default` : what suffices for that;
* `actsAsDefault_of_forall` : it is necessary, for each setting shows in some result;
* `settings_honoured_iff` : which settings are honoured, by the source that they come from.

## Design notes

A record that is given in place of settings never counts as the defaults, even if it repeats
them, and neither do settings made by replacing some.  Settings made of entries alone do, unless
an entry says otherwise.
-/
import RelativeTime.Proofs.RoundTrip
import RelativeTime.Proofs.TokenFaults

namespace RelativeTime

variable {settings : Settings} {r : Reader} {clock p : DateTime} {now : Value}

namespace Settings

/-- Settings that pass their check and have a value for each setting, which is as true as its
default. -/
structure ActsAsDefault (settings : Settings) : Prop where
  check_eq_ok : settings.check = .ok ()
  isOn_eq_ok : ∀ s, settings.isOn s = .ok s.default.truthy

/-- Whether reading and describing by the settings is what the reader built from them does. -/
def IsHonoured (settings : Settings) : Prop :=
  ∀ (clock : DateTime) (text target now : Value),
    (readerFor settings >>= fun r => r.parse clock text now) =
      (Reader.build settings >>= fun r => r.parse clock text now) ∧
    (readerFor settings >>= fun r => r.format clock target now) =
      (Reader.build settings >>= fun r => r.format clock target now)

theorem actsAsDefault_default : ActsAsDefault .default := ⟨rfl, fun _ => rfl⟩

theorem isDefault_of_replace {defaults : Setting → Value} {entries : List (String × Value)}
    {unchecked : Value} (h : replace defaults entries unchecked = .ok settings) :
    settings.isDefault = .bool false := by
  rw [replace] at h
  split at h
  · cases h
  · split at h
    · cases h
    · cases h
      rfl

end Settings

namespace SettingsSource

/-- Whether reading and describing by settings of a source is what the reader built from them
does. -/
def IsHonoured (source : SettingsSource) : Prop :=
  ∀ (clock : DateTime) (text target now : Value),
    RelativeTime.parse clock text now source =
      (Reader.ofSource source >>= fun r => r.parse clock text now) ∧
    RelativeTime.format clock target now source =
      (Reader.ofSource source >>= fun r => r.format clock target now)

/-- A value stands for the defaults or for settings that do not count as such. -/
theorem eq_default_or_isDefault_of_value {v : Value} (h : (value v).resolve = .ok settings) :
    settings = .default ∨ settings.isDefault = .bool false := by
  cases htrue : v.truthy with
  | false =>
    rw [resolve_value_of_truthy_eq_false htrue] at h
    exact .inl (Except.ok.inj h).symm
  | true =>
    cases v with
    | record entries =>
      rw [resolve, if_pos htrue] at h
      split at h
      · cases h
      · exact .inr (Settings.isDefault_of_replace h)
    | _ => simp [resolve, htrue] at h

/-- Where there are no settings at all, both ways report why. -/
theorem isHonoured_iff {source : SettingsSource} :
    source.IsHonoured ↔ ∀ settings, source.resolve = .ok settings → settings.IsHonoured := by
  cases hsource : source.resolve with
  | error e =>
    refine iff_of_true ?_ (by simp)
    intro clock text target now
    rw [parse, format, Reader.ofSource, hsource]
    exact ⟨rfl, rfl⟩
  | ok settings =>
    simp only [IsHonoured, parse, format, Reader.ofSource, hsource]
    constructor
    · rintro h _ ⟨⟩
      exact h
    · intro h
      exact h settings rfl

end SettingsSource

/-! ### Settings that act as the defaults -/

namespace Reader

theorem build_of_check (h : settings.check = .ok ()) : build settings = .ok ⟨settings⟩ := by
  rw [build, h]
  rfl

/-- A text is read only after it is known how. -/
theorem parse_text (r : Reader) (clock : DateTime) (text : String) (now : Value) :
    r.parse clock (.text text) now = (do
      let strict ← r.settings.isOn .strictParsing
      let ops ← extract text strict
      let base ← r.reference clock now
      let t ← evaluate ops base
      let aware ← r.settings.isOn .timezoneAware
      return if aware then t else t.withoutOffset) := by
  rw [parse, operations, bind_assoc]

/-- The base counts only for its truth, as long as it is not true. -/
theorem reference_eq_default (h : settings.isOn .relativeBase = .ok false) (clock : DateTime)
    (now : Value) : reference ⟨settings⟩ clock now = default.reference clock now := by
  rw [reference, reference, Reference.choose, Reference.choose]
  split
  · rw [Settings.isOn] at h
    cases hbase : settings.get .relativeBase with
    | error e =>
      rw [hbase] at h
      cases h
    | ok base =>
      rw [hbase] at h
      show (if base.truthy = true then Reference.given base else .clock).instant clock = _
      rw [Except.ok.inj h]
      rfl
  · rfl

theorem parse_eq_default (h : settings.ActsAsDefault) (clock : DateTime) (text now : Value) :
    parse ⟨settings⟩ clock text now = default.parse clock text now := by
  cases text with
  | text text =>
    rw [parse_text, parse_text, reference_eq_default (h.isOn_eq_ok _)]
    simp only [h.isOn_eq_ok]
    rfl
  | _ => rfl

theorem format_eq_default (h : settings.ActsAsDefault) (clock : DateTime) (target now : Value) :
    format ⟨settings⟩ clock target now = default.format clock target now := by
  rw [format, format, reference_eq_default (h.isOn_eq_ok _)]
  simp only [h.isOn_eq_ok]
  rfl

/-! ### What a result shows of the settings -/

/-- A reader that reads a text with strays is not strict. -/
theorem isOn_strictParsing_of_parse {text : String} {stray : Error}
    (hstray : extract text true = .error stray) (h : r.parse clock (.text text) now = .ok p) :
    r.settings.isOn .strictParsing = .ok false := by
  rw [parse_text] at h
  obtain ⟨strict, hstrict, h⟩ := Result.bind_eq_ok_iff.1 h
  cases strict with
  | false => exact hstrict
  | true =>
    rw [hstray] at h
    cases h

/-- A reader that gives an offset keeps offsets. -/
theorem isOn_timezoneAware_of_parse {text : Value} (h : r.parse clock text now = .ok p)
    (hp : p.offset ≠ none) : r.settings.isOn .timezoneAware = .ok true := by
  obtain ⟨_, -, h⟩ := Result.bind_eq_ok_iff.1 h
  obtain ⟨_, -, h⟩ := Result.bind_eq_ok_iff.1 h
  obtain ⟨_, -, h⟩ := Result.bind_eq_ok_iff.1 h
  obtain ⟨aware, haware, h⟩ := Result.bind_eq_ok_iff.1 h
  cases aware with
  | true => exact haware
  | false =>
    obtain rfl := Except.ok.inj h
    exact absurd rfl hp

/-- A reader for which the clock makes a difference has no base. -/
theorem isOn_relativeBase_of_parse {clock' : DateTime} {text : Value}
    (h : r.parse clock text .null = .ok p)
    (hne : r.parse clock' text .null ≠ r.parse clock text .null) :
    r.settings.isOn .relativeBase = .ok false := by
  rw [Settings.isOn]
  cases hbase : r.settings.get .relativeBase with
  | error e =>
    -- without a reference, nothing is read
    have hreference : r.reference clock .null = .error e := by
      rw [reference, Reference.choose, hbase]
      rfl
    obtain ⟨_, -, h⟩ := Result.bind_eq_ok_iff.1 h
    rw [hreference] at h
    cases h
  | ok base =>
    cases htrue : base.truthy with
    | false =>
      show Except.ok base.truthy = _
      rw [htrue]
    | true =>
      -- the base is the reference, whatever the clock shows
      have hreference (c : DateTime) : r.reference c .null = base.toUtc := by
        rw [reference, Reference.choose, hbase]
        show (if base.truthy = true then Reference.given base else .clock).instant c = _
        rw [htrue]
        rfl
      refine absurd ?_ hne
      rw [parse, parse, hreference, hreference]

/-- A month from the last of January to the first of February. -/
theorem format_february (r : Reader) (clock : DateTime) :
    r.format clock (.dateTime .february) (.dateTime .january) = (do
      let exact ← r.settings.isOn .roundTripFormat
      return if exact then "now+1M/M" else "now+1M") := by
  cases hexact : r.settings.isOn .roundTripFormat with
  | error e =>
    rw [format, hexact]
    rfl
  | ok exact =>
    rw [format, hexact]
    simp only [describeText_eq_map]
    cases exact with
    | true => rfl
    | false => rfl

theorem isOn_roundTripFormat_of_format
    (h : r.format clock (.dateTime .february) (.dateTime .january) = .ok "now+1M/M") :
    r.settings.isOn .roundTripFormat = .ok true := by
  rw [format_february] at h
  obtain ⟨exact, hexact, h⟩ := Result.bind_eq_ok_iff.1 h
  cases exact with
  | true => exact hexact
  | false => exact absurd (Except.ok.inj h) (by decide)

end Reader

/-- A text that only a strict reader refuses. -/
theorem extract_stray (strict : Bool) :
    extract "now!" strict = if strict then .error (.strayText "now!" "!") else .ok [] := by
  have hgap : NoTokenIn ['!'] [] :=
    noTokenIn_cons.2 ⟨fun h => absurd (beginsWithToken_iff.1 h) (by decide), noTokenIn_nil []⟩
  have hlayout : (Layout.last ['!']).IsLayoutOf "now!" := ⟨by decide, hgap⟩
  rw [extract_of_isLayoutOf hlayout]
  cases strict with
  | true => rfl
  | false => rfl

theorem Reader.parse_default_stray (clock : DateTime) (now : Value) :
    default.parse clock (.text "now!") now = default.reference clock now := by
  rw [parse_text]
  show (extract "now!" false >>= _) = _
  rw [extract_stray]
  show (default.reference clock now >>= fun t => (pure t : Result DateTime)) = _
  exact bind_pure _

/-- A reader by which everything comes out as by the defaults has settings with their truth. -/
theorem Reader.isOn_eq_ok_of_forall
    (hparse : ∀ clock text now, r.parse clock text now = default.parse clock text now)
    (hformat : ∀ clock target now, r.format clock target now = default.format clock target now)
    (s : Setting) : r.settings.isOn s = .ok s.default.truthy := by
  have hread (clock : DateTime) (now : Value) :
      r.parse clock (.text "now!") now = default.reference clock now :=
    (hparse ..).trans (parse_default_stray clock now)
  have hstart := (hread .start (.dateTime .start)).trans
    (reference_of_toUtc default DateTime.toUtc_start)
  cases s with
  | relativeBase =>
    -- without a reference, the clock is read
    have hclock (c : DateTime) : r.parse c (.text "now!") .null = .ofRange c.toUtc := hread c .null
    have hne : r.parse .january (.text "now!") .null ≠ r.parse .start (.text "now!") .null := by
      rw [hclock, hclock, DateTime.toUtc_start]
      intro h
      have hticks := (DateTime.toUtc_eq_ok_iff.1 (Result.ofRange_eq_ok_iff.1 h)).1
      exact absurd hticks (by decide)
    have hok := (hclock .start).trans (congrArg Result.ofRange DateTime.toUtc_start)
    exact isOn_relativeBase_of_parse hok hne
  | strictParsing => exact isOn_strictParsing_of_parse (extract_stray true) hstart
  | roundTripFormat =>
    exact isOn_roundTripFormat_of_format ((hformat ..).trans (format_february default .start))
  | timezoneAware => exact isOn_timezoneAware_of_parse hstart (by simp)

theorem Settings.actsAsDefault_of_forall
    (hparse : ∀ clock text now,
      (Reader.build settings >>= fun r => r.parse clock text now) =
        Reader.default.parse clock text now)
    (hformat : ∀ clock target now,
      (Reader.build settings >>= fun r => r.format clock target now) =
        Reader.default.format clock target now) :
    settings.ActsAsDefault := by
  -- a reader that cannot be built reads nothing
  have hcheck : settings.check = .ok () := by
    have hstart := (hparse .start (.text "now!") (.dateTime .start)).trans
      ((Reader.parse_default_stray ..).trans (Reader.reference_of_toUtc _ DateTime.toUtc_start))
    obtain ⟨r, hr, -⟩ := Result.bind_eq_ok_iff.1 hstart
    obtain ⟨⟨⟩, hcheck, -⟩ := Result.bind_eq_ok_iff.1 hr
    exact hcheck
  rw [Reader.build_of_check hcheck] at hparse hformat
  exact ⟨hcheck, Reader.isOn_eq_ok_of_forall (r := ⟨settings⟩) hparse hformat⟩

theorem Settings.isHonoured_iff :
    settings.IsHonoured ↔ settings.isDefault.truthy = false ∨ settings.ActsAsDefault := by
  rw [IsHonoured, readerFor]
  cases hdefault : settings.isDefault.truthy with
  | false => exact iff_of_true (fun _ _ _ _ => ⟨rfl, rfl⟩) (.inl rfl)
  | true =>
    rw [if_pos rfl, or_iff_right Bool.noConfusion]
    constructor
    · intro h
      exact actsAsDefault_of_forall (fun clock text now => (h clock text .null now).1.symm)
        fun clock target now => (h clock .null target now).2.symm
    · intro h clock text target now
      rw [Reader.build_of_check h.check_eq_ok]
      exact ⟨(Reader.parse_eq_default h ..).symm, (Reader.format_eq_default h ..).symm⟩

/-- **Settings that are honoured.**  Reading and describing by any value in place of settings,
or by the defaults with entries replaced, is what the reader with these settings does.  Settings
put together in any other way are honoured if they do not count as the defaults, and of those
that do, only the ones that act as the defaults. -/
theorem settings_honoured_iff (v : Value) (entries : List (String × Value))
    (settings : Settings) :
    (SettingsSource.value v).IsHonoured ∧
    (SettingsSource.replaced entries).IsHonoured ∧
    ((SettingsSource.built entries).IsHonoured ↔ (Settings.ofEntries entries).IsHonoured) ∧
    (settings.IsHonoured ↔ settings.isDefault.truthy = false ∨ settings.ActsAsDefault) := by
  refine ⟨?_, ?_, ?_, Settings.isHonoured_iff⟩
  · rw [SettingsSource.isHonoured_iff]
    intro settings h
    rw [Settings.isHonoured_iff]
    rcases SettingsSource.eq_default_or_isDefault_of_value h with rfl | hdefault
    · exact .inr Settings.actsAsDefault_default
    · rw [hdefault]
      exact .inl rfl
  · rw [SettingsSource.isHonoured_iff]
    intro settings h
    rw [Settings.isHonoured_iff, Settings.isDefault_of_replace h]
    exact .inl rfl
  · rw [SettingsSource.isHonoured_iff]
    simp [SettingsSource.resolve]

/-- A value for each setting, of which only the one for strays is not the default. -/
def strictEntries : List (String × Value) :=
  [("RELATIVE_BASE", .bool false), ("STRICT_PARSING", .bool true),
    ("ROUND_TRIP_FORMAT", .bool true), ("RETURN_AS_TIMEZONE_AWARE", .bool true)]

/-- Settings made of these entries alone are not honoured: the stray is passed over, though
the reader built from them refuses it. -/
theorem parse_built_strict :
    parse .start (.text "now!") (.dateTime .start) (.built strictEntries) =
      .ok { DateTime.start with offset := some .utc } ∧
    (Reader.ofSource (.built strictEntries) >>= fun r =>
      r.parse .start (.text "now!") (.dateTime .start)) = .error (.strayText "now!" "!") ∧
    ¬ (SettingsSource.built strictEntries).IsHonoured := by
  have hdefault : parse .start (.text "now!") (.dateTime .start) (.built strictEntries) =
      .ok { DateTime.start with offset := some .utc } :=
    (Reader.parse_default_stray ..).trans (Reader.reference_of_toUtc _ DateTime.toUtc_start)
  have hstrict : (Reader.ofSource (.built strictEntries) >>= fun r =>
      r.parse .start (.text "now!") (.dateTime .start)) = .error (.strayText "now!" "!") := by
    show (extract "now!" true >>= fun ops => _) = _
    rw [extract_stray]
    rfl
  refine ⟨hdefault, hstrict, fun h => ?_⟩
  have hboth := (h .start (.text "now!") .null (.dateTime .start)).1
  rw [hdefault, hstrict] at hboth
  cases hboth

end RelativeTime
