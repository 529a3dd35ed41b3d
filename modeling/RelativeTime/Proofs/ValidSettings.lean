/-
Valid settings.

A record of settings is valid if each of its entries names a setting and holds a value
that the setting admits.

* `checkEntries_eq_ok_iff` : the valid records are those that pass the check;
* `admits_effective` : the values that are in effect are admitted, be they entries or
  defaults;
* `exists_reader_of_isValid` : a valid record gives a reader, for which the entries are in
  effect in place of the defaults;
* `parse_given_of_isValid`, `parse_of_isValid`, `format_of_isValid` : what reading and describing
  come to by valid settings;
* `exists_toUtc_of_format` : where a text comes out, target and reference have a time in UTC;
* `toUtc_view` : what a reader gives, with its offset or without, stands for one instant.

## Design notes

The empty record is valid, though it never reaches the check: it stands for the defaults.
-/
import RelativeTime.Proofs.DescribedOperations
import RelativeTime.Proofs.ExactCalendar
import RelativeTime.Reader

namespace RelativeTime

/-- The values that a setting may have. -/
def Setting.Admits : Setting → Value → Prop
  | relativeBase, v => v = .bool false ∨ ∃ t, v = .dateTime t
  | _, v => ∃ b, v = .bool b

namespace Settings

/-- Whether every entry holds a value for a setting. -/
def IsValid (entries : List (String × Value)) : Prop :=
  ∀ e ∈ entries, ∃ s : Setting, s.key = e.1 ∧ s.Admits e.2

/-- The value of a setting where the entries take the place of the defaults. -/
def effective (entries : List (String × Value)) (s : Setting) : Value :=
  (lookUp? entries s.key).getD s.default

/-- Whether a setting is on where the entries take the place of the defaults. -/
def effectivelyOn (entries : List (String × Value)) (s : Setting) : Bool :=
  (effective entries s).truthy

/-- The settings in which the entries take the place of the defaults, yet to be checked. -/
def overriding (entries : List (String × Value)) : Settings where
  value? s := some (effective entries s)
  isDefault := .bool false
  pending := .record entries

end Settings

variable {entries : List (String × Value)}

/-! ### The check -/

theorem Setting.ofKey?_key (s : Setting) : ofKey? s.key = some s := by
  cases s <;> decide

theorem Setting.key_of_ofKey? {key : String} {s : Setting} (h : ofKey? key = some s) :
    s.key = key :=
  eq_of_beq (List.find?_some h :)

theorem Setting.exists_key_eq_iff {key : String} {p : Setting → Prop} :
    (∃ s : Setting, s.key = key ∧ p s) ↔ ∃ s, ofKey? key = some s ∧ p s := by
  constructor
  · rintro ⟨s, rfl, hp⟩
    exact ⟨s, s.ofKey?_key, hp⟩
  · rintro ⟨s, hs, hp⟩
    exact ⟨s, key_of_ofKey? hs, hp⟩

namespace Settings

/-- An entry passes if it holds a value for a setting. -/
theorem checkEntry_eq_ok_iff {key : String} {value : Value} :
    checkEntry key value = .ok () ↔ ∃ s : Setting, s.key = key ∧ s.Admits value := by
  rw [Setting.exists_key_eq_iff]
  unfold checkEntry
  constructor
  · intro h
    split at h
    · cases h
    · rename_i hs
      exact ⟨_, hs, .inl rfl⟩
    · rename_i t hs
      exact ⟨_, hs, .inr ⟨t, rfl⟩⟩
    · cases h
    · -- a yes or no, for any setting but the reference
      rename_i s b _ hbase hs
      refine ⟨s, hs, ?_⟩
      cases s with
      | relativeBase => exact absurd rfl hbase
      | _ => exact ⟨b, rfl⟩
    · cases h
  · rintro ⟨s, hs, hadmits⟩
    rw [hs]
    cases s with
    | relativeBase =>
      obtain rfl | ⟨t, rfl⟩ := hadmits
      · rfl
      · rfl
    | _ =>
      obtain ⟨b, rfl⟩ := hadmits
      rfl

/-- The valid records are those that pass the check. -/
theorem checkEntries_eq_ok_iff : checkEntries entries = .ok () ↔ IsValid entries := by
  induction entries with
  | nil =>
    constructor
    · intro _ e he
      exact absurd he List.not_mem_nil
    · intro _
      rfl
  | cons e entries ih =>
    rw [checkEntries, Result.bind_eq_ok_iff, IsValid, List.forall_mem_cons]
    constructor
    · rintro ⟨⟨⟩, he, hrest⟩
      exact ⟨checkEntry_eq_ok_iff.1 he, ih.1 hrest⟩
    · rintro ⟨he, hrest⟩
      exact ⟨(), checkEntry_eq_ok_iff.2 he, ih.2 hrest⟩

/-! ### Values in effect -/

theorem mem_of_lookUp? {key : String} {value : Value} (h : lookUp? entries key = some value) :
    (key, value) ∈ entries := by
  obtain ⟨e, he, rfl⟩ := Option.map_eq_some_iff.1 h
  obtain rfl : e.1 = key := eq_of_beq (List.find?_some he :)
  exact List.mem_reverse.1 (List.mem_of_find?_eq_some he)

theorem key_injective {s s' : Setting} (h : s.key = s'.key) : s = s' :=
  Option.some.inj (by rw [← s.ofKey?_key, h, s'.ofKey?_key])

/-- Every default is admitted by its setting. -/
theorem admits_default (s : Setting) : s.Admits s.default := by
  cases s with
  | relativeBase => exact .inl rfl
  | _ => exact ⟨_, rfl⟩

/-- The values in effect are admitted, be they entries or defaults. -/
theorem admits_effective (h : IsValid entries) (s : Setting) : s.Admits (effective entries s) := by
  rw [effective]
  cases hvalue : lookUp? entries s.key with
  | none => exact admits_default s
  | some value =>
    obtain ⟨s', hkey, hadmits⟩ := h _ (mem_of_lookUp? hvalue)
    rw [← key_injective hkey]
    exact hadmits

/-! ### Readers -/

theorem isNull_of_admits {s : Setting} {value : Value} (h : s.Admits value) :
    value.isNull = false := by
  cases s with
  | relativeBase =>
    obtain rfl | ⟨t, rfl⟩ := h
    · rfl
    · rfl
  | _ =>
    obtain ⟨b, rfl⟩ := h
    rfl

/-- The keys that speak of the settings themselves name no setting. -/
theorem any_key_eq_false (h : IsValid entries) {key : String} (hkey : Setting.ofKey? key = none) :
    (entries.any fun e => e.1 == key) = false := by
  rw [List.any_eq_false]
  intro e he hbeq
  obtain ⟨s, hs, -⟩ := h e he
  rw [← eq_of_beq hbeq, ← hs, s.ofKey?_key] at hkey
  cases hkey

theorem find?_isNull_eq_none (h : IsValid entries) :
    (entries.find? fun e => e.2.isNull) = none := by
  rw [List.find?_eq_none]
  intro e he
  obtain ⟨s, -, hadmits⟩ := h e he
  rw [isNull_of_admits hadmits]
  exact Bool.false_ne_true

theorem truthy_record (hne : entries ≠ []) : (Value.record entries).truthy = true := by
  rw [Value.truthy, List.isEmpty_eq_false_iff.2 hne]
  rfl

theorem resolve_of_isValid (h : IsValid entries) (hne : entries ≠ []) :
    (SettingsSource.value (.record entries)).resolve = .ok (overriding entries) := by
  rw [SettingsSource.resolve, if_pos (truthy_record hne)]
  simp only [any_key_eq_false h (show Setting.ofKey? givenKey = none by decide)]
  rw [if_neg Bool.false_ne_true, replace, any_key_eq_false h (by decide), find?_isNull_eq_none h,
    if_neg Bool.false_ne_true, if_pos (truthy_record hne)]
  rfl

theorem readerFor_overriding (h : IsValid entries) :
    readerFor (overriding entries) = .ok ⟨overriding entries⟩ := by
  have hcheck : (overriding entries).check = .ok () := checkEntries_eq_ok_iff.2 h
  show Reader.build (overriding entries) = _
  rw [Reader.build, hcheck]
  rfl

/-- A valid record gives a reader, for which the entries are in effect. -/
theorem exists_reader_of_isValid (h : IsValid entries) :
    ∃ settings, (SettingsSource.value (.record entries)).resolve = .ok settings ∧
      readerFor settings = .ok ⟨settings⟩ ∧
      ∀ s, settings.isOn s = .ok (effectivelyOn entries s) := by
  by_cases hne : entries = []
  · rw [hne]
    exact ⟨.default, rfl, rfl, fun _ => rfl⟩
  · exact ⟨overriding entries, resolve_of_isValid h hne, readerFor_overriding h, fun _ => rfl⟩

end Settings

/-! ### Reading and describing by valid settings -/

variable {clock target now t n : DateTime} {text : String}

/-- The reference is the one that is given, whatever the settings say. -/
theorem Reader.reference_of_toUtc (r : Reader) (h : now.toUtc = .ok n) :
    r.reference clock (.dateTime now) = .ok n := by
  show Result.ofRange now.toUtc = _
  rw [h]
  rfl

/-- By valid settings, a text is read before the reference is looked at. -/
theorem parse_given_of_isValid {now : Value} (h : Settings.IsValid entries)
    (hnow : now.isNull = false) :
    parse clock (.text text) now (.value (.record entries)) = (do
      let ops ← extract text (Settings.effectivelyOn entries .strictParsing)
      let n ← now.toUtc
      let u ← evaluate ops n
      return if Settings.effectivelyOn entries .timezoneAware then u else u.withoutOffset) := by
  obtain ⟨settings, hresolve, hreader, hon⟩ := Settings.exists_reader_of_isValid h
  have hreference : Reader.reference ⟨settings⟩ clock now = now.toUtc := by
    rw [Reader.reference, Reference.choose, if_neg (by simp [hnow])]
    rfl
  rw [parse, hresolve]
  show (readerFor settings >>= fun r => r.parse clock (.text text) now) = _
  rw [hreader]
  show Reader.parse ⟨settings⟩ clock (.text text) now = _
  rw [Reader.parse, hreference, hon]
  show ((settings.isOn .strictParsing >>= fun strict => extract text strict) >>= _) = _
  rw [hon]
  rfl

/-- By valid settings, a text is read as the operations that lead from the reference. -/
theorem parse_of_isValid (h : Settings.IsValid entries) (hn : now.toUtc = .ok n) :
    parse clock (.text text) (.dateTime now) (.value (.record entries)) = (do
      let ops ← extract text (Settings.effectivelyOn entries .strictParsing)
      let u ← evaluate ops n
      return if Settings.effectivelyOn entries .timezoneAware then u else u.withoutOffset) := by
  have htoUtc : (Value.dateTime now).toUtc = .ok n := by
    rw [Value.toUtc, hn]
    rfl
  rw [parse_given_of_isValid h rfl, htoUtc]
  rfl

/-- By valid settings, the text for a target is the shorthand of what describes it. -/
theorem format_of_isValid (h : Settings.IsValid entries) (ht : target.toUtc = .ok t)
    (hn : now.toUtc = .ok n) :
    format clock (.dateTime target) (.dateTime now) (.value (.record entries)) =
      (describe t n (.ok (Settings.effectivelyOn entries .roundTripFormat))).map shorthand := by
  obtain ⟨settings, hresolve, hreader, hon⟩ := Settings.exists_reader_of_isValid h
  rw [format, hresolve]
  show (readerFor settings >>= fun r => r.format clock (.dateTime target) (.dateTime now)) = _
  rw [hreader]
  show (Result.ofRange target.toUtc >>= fun t =>
    Reader.reference ⟨settings⟩ clock (.dateTime now) >>= fun n => _) = _
  rw [ht, Reader.reference_of_toUtc _ hn]
  show describeText t n (settings.isOn .roundTripFormat) = _
  rw [hon, describeText_eq_map]

/-- A target and a reference from which a text comes have a time in UTC. -/
theorem exists_toUtc_of_format {source : SettingsSource}
    (h : format clock (.dateTime target) (.dateTime now) source = .ok text) :
    ∃ t n, target.toUtc = .ok t ∧ now.toUtc = .ok n := by
  obtain ⟨settings, -, h⟩ := Result.bind_eq_ok_iff.1 h
  obtain ⟨reader, -, h⟩ := Result.bind_eq_ok_iff.1 h
  obtain ⟨t, ht, h⟩ := Result.bind_eq_ok_iff.1 h
  obtain ⟨n, hn, -⟩ := Result.bind_eq_ok_iff.1 h
  exact ⟨t, n, Result.ofRange_eq_ok_iff.1 ht, Result.ofRange_eq_ok_iff.1 hn⟩

/-! ### What a reader gives -/

/-- An instant as a reader gives it, with its offset or without. -/
def Settings.view (entries : List (String × Value)) (t : DateTime) : DateTime :=
  if effectivelyOn entries .timezoneAware then t else t.withoutOffset

theorem ticks_view (entries : List (String × Value)) (t : DateTime) :
    (Settings.view entries t).ticks = t.ticks := by
  rw [Settings.view]
  split
  · rfl
  · rfl

theorem offset_view (entries : List (String × Value)) (h : t.offset = some .utc) :
    (Settings.view entries t).offset = none ∨ (Settings.view entries t).offset = some .utc := by
  rw [Settings.view]
  split
  · exact .inr h
  · exact .inl rfl

/-- What a reader gives stands for the instant that it was. -/
theorem toUtc_view (entries : List (String × Value)) (h : t.offset = some .utc) :
    (Settings.view entries t).toUtc = .ok t := by
  refine DateTime.toUtc_eq_ok_iff.2 ⟨?_, h⟩
  rw [DateTime.instant_eq_ticks (offset_view entries h), ticks_view]

/-- A text whose operations are known is read by a run of them. -/
theorem parse_of_extract {ops : List Operation} (clock : DateTime) (h : Settings.IsValid entries)
    (hn : now.toUtc = .ok n)
    (hops : extract text (Settings.effectivelyOn entries .strictParsing) = .ok ops) :
    parse clock (.text text) (.dateTime now) (.value (.record entries)) =
      (evaluate ops n).map (Settings.view entries) := by
  rw [parse_of_isValid h hn, hops]
  show (evaluate ops n >>= fun u => _) = _
  cases evaluate ops n with
  | ok u => rfl
  | error e => rfl

/-- It is read if the run ends in the calendar, whatever the reader does to the offset. -/
theorem exists_parse_eq_ok_iff {ops : List Operation} (clock : DateTime)
    (h : Settings.IsValid entries) (hn : now.toUtc = .ok n)
    (hops : extract text (Settings.effectivelyOn entries .strictParsing) = .ok ops) :
    (∃ p, parse clock (.text text) (.dateTime now) (.value (.record entries)) = .ok p) ↔
      ∃ u, evaluate ops n = .ok u := by
  rw [parse_of_extract clock h hn hops]
  constructor
  · rintro ⟨p, hp⟩
    cases heval : evaluate ops n with
    | ok u => exact ⟨u, rfl⟩
    | error e =>
      rw [heval] at hp
      cases hp
  · rintro ⟨u, heval⟩
    rw [heval]
    exact ⟨Settings.view entries u, rfl⟩

end RelativeTime
