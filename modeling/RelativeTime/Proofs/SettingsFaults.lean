/-
Faults of settings.

Before a reader is built from a record of settings, the record is looked through three times: for
keys that it cannot use, for values that are nothing, and for entries that are no settings.  What
is found first is reported, so a value that is nothing comes before any entry that is no setting,
even if it stands behind it:

* `Settings.EntryFault` : what is wrong with an entry that is no setting;
* `Settings.RecordFault` : the fault of a record that is found first;
* `Reader.ofSource_of_recordFault`, `exists_recordFault_or_isValid` : a record with a fault gives
  no reader, and one without any is valid;
* `Settings.get_overriding_eq_ok_iff` : the settings of a reader are the entries, and the defaults
  where there are none;
* `Session.defaults_stateAfter` : whatever is asked of a session, its defaults stay;
* `ofSource_eq_error_iff_recordFault` : the main statement.

## Design notes

The keys `_default` and `_mod_settings` would speak of the settings themselves, if they came
through.  But a record is checked as it was given, and there they name no setting.
-/
import Mathlib.Data.List.Nodup
import RelativeTime.Proofs.HonouredSettings
import RelativeTime.Session

namespace RelativeTime

variable {entries : List (String × Value)} {e : String × Value} {fault : Error}

namespace Settings

/-! ### The faults -/

/-- The keys that a record of settings cannot use. -/
def IsReserved (key : String) : Prop := key = selfKey ∨ key = givenKey

/-- What is wrong with an entry that is no setting: no setting has its key, or its value is none
that the setting may have. -/
inductive EntryFault : String × Value → Error → Prop
  | unknown {key : String} {value : Value} (h : ∀ s : Setting, s.key ≠ key) :
      EntryFault (key, value) (.unknownSetting key)
  | notBool {s : Setting} {value : Value} (hs : s ≠ .relativeBase) (h : ∀ b, value ≠ .bool b) :
      EntryFault (s.key, value) (.settingNotBool s.key value.kind)
  | notDateTime {value : Value} (hfalse : value ≠ .bool false) (h : ∀ t, value ≠ .dateTime t) :
      EntryFault (Setting.relativeBase.key, value)
        (.settingNotDateTime Setting.relativeBase.key value.kind)

/-- The fault of a record: a reserved key, wherever it is; if there is none, the first value that
is nothing; and if there is none, the first entry that is no setting. -/
inductive RecordFault (entries : List (String × Value)) : Error → Prop
  | reserved {e : String × Value} (he : e ∈ entries) (h : IsReserved e.1) :
      RecordFault entries .reservedSetting
  | null {before after : List (String × Value)} {key : String}
      (hkeys : ∀ e ∈ entries, ¬ IsReserved e.1)
      (hentries : entries = before ++ (key, .null) :: after)
      (hbefore : ∀ e ∈ before, e.2 ≠ .null) : RecordFault entries (.nullSetting key)
  | entry {before after : List (String × Value)} {e : String × Value} {fault : Error}
      (hkeys : ∀ e ∈ entries, ¬ IsReserved e.1) (hvalues : ∀ e ∈ entries, e.2 ≠ .null)
      (hentries : entries = before ++ e :: after) (hbefore : IsValid before)
      (hfault : EntryFault e fault) : RecordFault entries fault

/-! ### The check -/

theorem ofKey?_eq_none_iff {key : String} :
    Setting.ofKey? key = none ↔ ∀ s : Setting, s.key ≠ key := by
  constructor
  · rintro h s rfl
    rw [s.ofKey?_key] at h
    cases h
  · intro h
    cases hkey : Setting.ofKey? key with
    | none => rfl
    | some s => exact absurd (Setting.key_of_ofKey? hkey) (h s)

/-- The check of an entry reports what is wrong with it. -/
theorem checkEntry_of_entryFault (h : EntryFault e fault) :
    checkEntry e.1 e.2 = .error fault := by
  unfold checkEntry
  cases h with
  | unknown h => rw [ofKey?_eq_none_iff.2 h]
  | @notBool s value hs h =>
    rw [s.ofKey?_key]
    cases value with
    | bool b => exact absurd rfl (h b)
    | _ =>
      cases s with
      | relativeBase => exact absurd rfl hs
      | _ => rfl
  | @notDateTime value hfalse h =>
    rw [Setting.ofKey?_key]
    cases value with
    | bool b =>
      cases b with
      | false => exact absurd rfl hfalse
      | true => rfl
    | dateTime t => exact absurd rfl (h t)
    | _ => rfl

theorem exists_entryFault_or_admits (e : String × Value) :
    (∃ fault, EntryFault e fault) ∨ ∃ s : Setting, s.key = e.1 ∧ s.Admits e.2 := by
  obtain ⟨key, value⟩ := e
  by_cases hkey : ∃ s : Setting, s.key = key
  case neg => exact .inl ⟨_, .unknown (not_exists.1 hkey)⟩
  obtain ⟨s, rfl⟩ := hkey
  by_cases hadmits : s.Admits value
  case pos => exact .inr ⟨s, rfl, hadmits⟩
  cases s with
  | relativeBase =>
    obtain ⟨hfalse, hdateTime⟩ := not_or.1 hadmits
    exact .inl ⟨_, .notDateTime hfalse (not_exists.1 hdateTime)⟩
  | _ => exact .inl ⟨_, .notBool (by decide) (not_exists.1 hadmits)⟩

/-- The check of a record reports the first entry that is no setting. -/
theorem checkEntries_of_entryFault {before : List (String × Value)} (hbefore : IsValid before)
    (h : EntryFault e fault) (after : List (String × Value)) :
    checkEntries (before ++ e :: after) = .error fault := by
  induction before with
  | nil =>
    rw [List.nil_append, checkEntries, checkEntry_of_entryFault h]
    rfl
  | cons first before ih =>
    obtain ⟨hfirst, hrest⟩ := List.forall_mem_cons.1 hbefore
    rw [List.cons_append, checkEntries, checkEntry_eq_ok_iff.2 hfirst]
    exact ih hrest

theorem exists_entryFault_or_isValid (entries : List (String × Value)) :
    (∃ before e after fault, entries = before ++ e :: after ∧ IsValid before ∧
      EntryFault e fault) ∨ IsValid entries := by
  induction entries with
  | nil => exact .inr (List.forall_mem_nil _)
  | cons first entries ih =>
    rcases exists_entryFault_or_admits first with ⟨fault, hfault⟩ | hfirst
    · exact .inl ⟨[], first, entries, fault, rfl, List.forall_mem_nil _, hfault⟩
    rcases ih with ⟨before, e, after, fault, rfl, hbefore, hfault⟩ | hrest
    · exact .inl ⟨first :: before, e, after, fault, rfl,
        List.forall_mem_cons.2 ⟨hfirst, hbefore⟩, hfault⟩
    · exact .inr (List.forall_mem_cons.2 ⟨hfirst, hrest⟩)

/-! ### The record -/

theorem isNull_iff {v : Value} : v.isNull = true ↔ v = .null := by
  cases v with
  | null => exact iff_of_true rfl rfl
  | _ => exact iff_of_false Bool.noConfusion Value.noConfusion

theorem find?_isNull_eq_none_iff :
    (entries.find? fun e => e.2.isNull) = none ↔ ∀ e ∈ entries, e.2 ≠ .null := by
  simp only [List.find?_eq_none, isNull_iff, ne_eq]

theorem find?_isNull_eq_some_iff :
    (entries.find? fun e => e.2.isNull) = some e ↔
      e.2 = .null ∧ ∃ before after, entries = before ++ e :: after ∧ ∀ p ∈ before, p.2 ≠ .null := by
  simp only [List.find?_eq_some_iff_append, isNull_iff, Bool.not_eq_true', Bool.eq_false_iff, ne_eq]

/-- A record has a fault that is found first, or it is valid. -/
theorem exists_recordFault_or_isValid (entries : List (String × Value)) :
    (∃ fault, RecordFault entries fault) ∨ IsValid entries := by
  by_cases hkeys : ∀ e ∈ entries, ¬ IsReserved e.1
  case neg =>
    simp only [not_forall, not_not] at hkeys
    obtain ⟨e, he, hreserved⟩ := hkeys
    exact .inl ⟨_, .reserved he hreserved⟩
  cases hnull : entries.find? fun e => e.2.isNull with
  | some e =>
    obtain ⟨key, value⟩ := e
    obtain ⟨rfl, before, after, hentries, hbefore⟩ := find?_isNull_eq_some_iff.1 hnull
    exact .inl ⟨_, .null hkeys hentries hbefore⟩
  | none =>
    rcases exists_entryFault_or_isValid entries with
      ⟨before, e, after, fault, hentries, hbefore, hfault⟩ | hvalid
    · have hvalues := find?_isNull_eq_none_iff.1 hnull
      exact .inl ⟨fault, .entry hkeys hvalues hentries hbefore hfault⟩
    · exact .inr hvalid

theorem resolve_of_isReserved (he : e ∈ entries) (h : IsReserved e.1) :
    (SettingsSource.value (.record entries)).resolve = .error .reservedSetting := by
  rw [SettingsSource.resolve, if_pos (truthy_record (List.ne_nil_of_mem he))]
  rcases h with hself | hgiven
  · -- the key of the record itself may be among them as well, with the same outcome
    have hany : (entries.any fun e => e.1 == selfKey) = true :=
      List.any_eq_true.2 ⟨e, he, beq_iff_eq.2 hself⟩
    simp [replace, hany]
  · have hany : (entries.any fun e => e.1 == givenKey) = true :=
      List.any_eq_true.2 ⟨e, he, beq_iff_eq.2 hgiven⟩
    simp [hany]

/-- Without a reserved key, only a value that is nothing is in the way. -/
theorem resolve_of_not_isReserved (hne : entries ≠ []) (hkeys : ∀ e ∈ entries, ¬ IsReserved e.1) :
    (SettingsSource.value (.record entries)).resolve =
      match entries.find? fun e => e.2.isNull with
      | some e => .error (.nullSetting e.1)
      | none => .ok (overriding entries) := by
  have hany (key : String) (hkey : IsReserved key) :
      (entries.any fun e => e.1 == key) = false := by
    rw [List.any_eq_false]
    intro e he hbeq
    rw [← eq_of_beq hbeq] at hkey
    exact hkeys e he hkey
  rw [SettingsSource.resolve, if_pos (truthy_record hne)]
  simp only [hany givenKey (.inr rfl), replace, hany selfKey (.inl rfl), truthy_record hne]
  rfl

end Settings

/-! ### Readers -/

namespace Reader

/-- A record with a fault gives no reader. -/
theorem ofSource_of_recordFault (h : Settings.RecordFault entries fault) :
    ofSource (.value (.record entries)) = .error fault := by
  cases h with
  | reserved he h =>
    rw [ofSource, Settings.resolve_of_isReserved he h]
    rfl
  | @null before after key hkeys hentries hbefore =>
    have hne : entries ≠ [] := by simp [hentries]
    have hfirst : (entries.find? fun e => e.2.isNull) = some (key, .null) :=
      Settings.find?_isNull_eq_some_iff.2 ⟨rfl, before, after, hentries, hbefore⟩
    rw [ofSource, Settings.resolve_of_not_isReserved hne hkeys, hfirst]
    rfl
  | @entry before after e _ hkeys hvalues hentries hbefore hfault =>
    have hne : entries ≠ [] := by simp [hentries]
    have hcheck : (Settings.overriding entries).check = .error fault := by
      rw [hentries]
      exact Settings.checkEntries_of_entryFault hbefore hfault after
    rw [ofSource, Settings.resolve_of_not_isReserved hne hkeys,
      Settings.find?_isNull_eq_none_iff.2 hvalues]
    show build (Settings.overriding entries) = _
    rw [build, hcheck]
    rfl

/-- A valid record gives the reader with its settings. -/
theorem ofSource_of_isValid (hvalid : Settings.IsValid entries) (hne : entries ≠ []) :
    ofSource (.value (.record entries)) = .ok ⟨Settings.overriding entries⟩ := by
  rw [ofSource, Settings.resolve_of_isValid hvalid hne]
  exact build_of_check (Settings.checkEntries_eq_ok_iff.2 hvalid)

end Reader

/-! ### Values in effect -/

namespace Settings

theorem lookUp?_eq_none_iff {key : String} :
    lookUp? entries key = none ↔ ∀ e ∈ entries, e.1 ≠ key := by
  simp [lookUp?]

/-- Where keys are distinct, what is looked up is the entry with the key. -/
theorem lookUp?_eq_some_iff (hkeys : (entries.map Prod.fst).Nodup) {key : String} {value : Value} :
    lookUp? entries key = some value ↔ (key, value) ∈ entries := by
  refine ⟨mem_of_lookUp?, fun h => ?_⟩
  cases hvalue : lookUp? entries key with
  | none => exact absurd rfl (lookUp?_eq_none_iff.1 hvalue _ h)
  | some value' =>
    have hsame := List.inj_on_of_nodup_map hkeys (mem_of_lookUp? hvalue) h rfl
    rw [(Prod.mk.inj hsame).2]

/-- A setting has the value of the entry with its key, or its default if there is none. -/
theorem get_overriding_eq_ok_iff (hkeys : (entries.map Prod.fst).Nodup) {s : Setting} {v : Value} :
    (overriding entries).get s = .ok v ↔
      (s.key, v) ∈ entries ∨ (∀ e ∈ entries, e.1 ≠ s.key) ∧ v = s.default := by
  have hget : (overriding entries).get s = .ok (effective entries s) := rfl
  rw [hget, Except.ok.injEq, effective, ← lookUp?_eq_some_iff hkeys, ← lookUp?_eq_none_iff]
  cases lookUp? entries s.key with
  | none => simp [eq_comm]
  | some value => simp

end Settings

/-! ### Sessions -/

namespace Session

variable {r : Reader} {clock : DateTime} {state next : State} {request : Request} {answer : Answer}

/-- No request has an effect on the defaults, be it one that brings settings of its own. -/
theorem defaults_of_step (h : step r clock state request = .ok (answer, next)) :
    next.defaults = state.defaults := by
  have hkept {a : Answer} {s : State}
      (h : (Except.ok (a, s) : Result (Answer × State)) = .ok (answer, next))
      (hs : s.defaults = state.defaults) : next.defaults = state.defaults := by
    rw [← (Prod.mk.inj (Except.ok.inj h)).2, hs]
  cases request with
  | parse text =>
    obtain ⟨t, -, h⟩ := Result.bind_eq_ok_iff.1 h
    exact hkept h rfl
  | format target =>
    obtain ⟨s, -, h⟩ := Result.bind_eq_ok_iff.1 h
    exact hkept h rfl
  | formatParse target =>
    obtain ⟨s, -, h⟩ := Result.bind_eq_ok_iff.1 h
    obtain ⟨t, -, h⟩ := Result.bind_eq_ok_iff.1 h
    exact hkept h rfl
  | operations text =>
    obtain ⟨ops, -, h⟩ := Result.bind_eq_ok_iff.1 h
    exact hkept h rfl
  | set now => exact hkept h rfl
  | parseBy text source =>
    obtain ⟨t, -, h⟩ := Result.bind_eq_ok_iff.1 h
    exact hkept h rfl

/-- Nor have any requests in a row, whether they are answered or fail. -/
theorem defaults_stateAfter (r : Reader) (clock : DateTime) (state : State)
    (requests : List Request) : (stateAfter r clock state requests).defaults = state.defaults := by
  induction requests generalizing state with
  | nil => rfl
  | cons request requests ih =>
    rw [stateAfter]
    cases hstep : step r clock state request with
    | error e => exact ih state
    | ok p => exact (ih p.2).trans (defaults_of_step hstep)

theorem run_cons_parseBy (r : Reader) (clock : DateTime) (state : State) (text : Value)
    (source : SettingsSource) (requests : List Request) :
    run r clock state (.parseBy text source :: requests) =
      (RelativeTime.parse clock text state.reference source state.defaults).map
          (fun t => .value (.dateTime t)) ::
        run r clock state requests := by
  rw [run, step]
  cases RelativeTime.parse clock text state.reference source state.defaults with
  | ok t => rfl
  | error e => rfl

/-- Requests with settings of their own have no effect on those that follow, however many they
are. -/
theorem run_parseBy (r : Reader) (clock : DateTime) (state : State) (source : SettingsSource)
    (texts : List Value) (requests : List Request) :
    run r clock state (texts.map (fun text => .parseBy text source) ++ requests) =
      texts.map (fun text =>
        (RelativeTime.parse clock text state.reference source state.defaults).map
          fun t => .value (.dateTime t)) ++
        run r clock state requests := by
  induction texts with
  | nil => rfl
  | cons text texts ih =>
    rw [List.map_cons, List.cons_append, run_cons_parseBy, ih]
    rfl

end Session

/-- A record never counts as the defaults, so whoever reads or describes by it checks it. -/
theorem resolve_bind_readerFor (v : Value) :
    ((SettingsSource.value v).resolve >>= fun settings => readerFor settings) =
      Reader.ofSource (.value v) := by
  rw [Reader.ofSource]
  cases hsettings : (SettingsSource.value v).resolve with
  | error fault => rfl
  | ok settings =>
    show readerFor settings = Reader.build settings
    rcases SettingsSource.eq_default_or_isDefault_of_value hsettings with rfl | hdefault
    · rfl
    · rw [readerFor, hdefault]
      rfl

/-- **Records of settings are checked in full.**  A record that is not empty gives no reader if it
has a fault, and the one that is found first is reported: a reserved key, the first value that is
nothing, or the first entry that is no setting.  Otherwise it gives the reader whose settings are
the entries, and the defaults where there are none.  The keys that would speak of the settings
themselves are no exception, nor are requests that bring a record along.  These have no effect on
what is asked later, and no requests at all have one on the defaults. -/
theorem ofSource_eq_error_iff_recordFault {entries : List (String × Value)} (hne : entries ≠ [])
    (hkeys : (entries.map Prod.fst).Nodup) :
    (∀ fault, Reader.ofSource (.value (.record entries)) = .error fault ↔
      Settings.RecordFault entries fault) ∧
    ((∀ fault, ¬ Settings.RecordFault entries fault) → ∃ r,
      Reader.ofSource (.value (.record entries)) = .ok r ∧
      ∀ s v, r.settings.get s = .ok v ↔
        (s.key, v) ∈ entries ∨ (∀ e ∈ entries, e.1 ≠ s.key) ∧ v = s.default) ∧
    (∀ e ∈ entries, e.1 = Settings.defaultKey ∨ e.1 = Settings.pendingKey →
      ∃ fault, Settings.RecordFault entries fault) ∧
    ((SettingsSource.value (.record entries)).resolve >>= fun settings => readerFor settings) =
      Reader.ofSource (.value (.record entries)) ∧
    ∀ (r : Reader) (clock : DateTime) (state : Session.State) (requests : List Session.Request),
      (Session.stateAfter r clock state requests).defaults = state.defaults ∧
      ∀ texts : List Value,
        Session.run r clock state
            (texts.map (fun text => .parseBy text (.value (.record entries))) ++ requests) =
          texts.map (fun text =>
            (parse clock text state.reference (.value (.record entries)) state.defaults).map
              fun t => .value (.dateTime t)) ++
            Session.run r clock state requests := by
  refine ⟨fun fault => ⟨fun h => ?_, Reader.ofSource_of_recordFault⟩, fun hnone => ?_,
    fun e he hkey => ?_, resolve_bind_readerFor _, ?_⟩
  · rcases Settings.exists_recordFault_or_isValid entries with ⟨fault', h'⟩ | hvalid
    · obtain rfl := Except.error.inj ((Reader.ofSource_of_recordFault h').symm.trans h)
      exact h'
    · rw [Reader.ofSource_of_isValid hvalid hne] at h
      cases h
  · rcases Settings.exists_recordFault_or_isValid entries with ⟨fault, h⟩ | hvalid
    · exact absurd h (hnone fault)
    · exact ⟨_, Reader.ofSource_of_isValid hvalid hne,
        fun s v => Settings.get_overriding_eq_ok_iff hkeys⟩
  · rcases Settings.exists_recordFault_or_isValid entries with hfault | hvalid
    · exact hfault
    · -- these keys name no setting
      obtain ⟨s, hs, -⟩ := hvalid e he
      rw [← hs] at hkey
      cases s <;> exact absurd hkey (by decide)
  · intro r clock state requests
    refine ⟨Session.defaults_stateAfter r clock state requests, ?_⟩
    intro texts
    exact Session.run_parseBy r clock state _ texts requests

/-- The flag that settings made by hand count as the defaults is refused as an unknown key, and a
reference that is nothing even before it.  A single entry takes the place of one default. -/
theorem ofSource_eq_error_iff_recordFault_flag :
    ([("_default", Value.bool true), ("STRICT_PARSING", .int 1)].map Prod.fst).Nodup ∧
    Reader.ofSource (.value (.record [("_default", .bool true), ("STRICT_PARSING", .int 1)])) =
      .error (.unknownSetting "_default") ∧
    ([("_default", Value.bool true), ("RELATIVE_BASE", .null)].map Prod.fst).Nodup ∧
    Reader.ofSource (.value (.record [("_default", .bool true), ("RELATIVE_BASE", .null)])) =
      .error (.nullSetting "RELATIVE_BASE") ∧
    ([("STRICT_PARSING", Value.bool true)].map Prod.fst).Nodup ∧
    (∀ fault, ¬ Settings.RecordFault [("STRICT_PARSING", .bool true)] fault) ∧
    ∃ r, Reader.ofSource (.value (.record [("STRICT_PARSING", .bool true)])) = .ok r ∧
      r.settings.get .strictParsing = .ok (.bool true) ∧
      r.settings.get .roundTripFormat = .ok (.bool true) := by
  have hflag : ([("_default", Value.bool true), ("STRICT_PARSING", .int 1)].map Prod.fst).Nodup :=
    by simp
  have hbase : ([("_default", Value.bool true), ("RELATIVE_BASE", .null)].map Prod.fst).Nodup := by
    simp
  have hstrict : ([("STRICT_PARSING", Value.bool true)].map Prod.fst).Nodup := by simp
  have hunknown : Settings.RecordFault [("_default", .bool true), ("STRICT_PARSING", .int 1)]
      (.unknownSetting "_default") := by
    have hentries : [("_default", Value.bool true), ("STRICT_PARSING", .int 1)] =
      [] ++ ("_default", .bool true) :: [("STRICT_PARSING", .int 1)] := rfl
    refine .entry ?_ ?_ hentries (List.forall_mem_nil _) (.unknown ?_)
    · simp [Settings.IsReserved, Settings.selfKey, Settings.givenKey]
    · simp
    · intro s
      cases s <;> decide
  have hnull : Settings.RecordFault [("_default", .bool true), ("RELATIVE_BASE", .null)]
      (.nullSetting "RELATIVE_BASE") := by
    have hentries : [("_default", Value.bool true), ("RELATIVE_BASE", .null)] =
      [("_default", .bool true)] ++ ("RELATIVE_BASE", .null) :: [] := rfl
    refine .null ?_ hentries ?_
    · simp [Settings.IsReserved, Settings.selfKey, Settings.givenKey]
    · simp
  have hvalid : Settings.IsValid [("STRICT_PARSING", .bool true)] :=
    List.forall_mem_singleton.2 ⟨.strictParsing, rfl, true, rfl⟩
  obtain ⟨herror, hok, -⟩ :=
    ofSource_eq_error_iff_recordFault (List.cons_ne_nil ("STRICT_PARSING", .bool true) []) hstrict
  have hnone : ∀ fault, ¬ Settings.RecordFault [("STRICT_PARSING", .bool true)] fault := by
    intro fault h
    have herr := (herror fault).2 h
    rw [Reader.ofSource_of_isValid hvalid (List.cons_ne_nil _ [])] at herr
    cases herr
  obtain ⟨r, hr, hget⟩ := hok hnone
  refine ⟨hflag, ?_, hbase, ?_, hstrict, hnone, r, hr, (hget _ _).2 (.inl ?_),
    (hget _ _).2 (.inr ⟨?_, rfl⟩)⟩
  · exact ((ofSource_eq_error_iff_recordFault (List.cons_ne_nil _ _) hflag).1 _).2 hunknown
  · exact ((ofSource_eq_error_iff_recordFault (List.cons_ne_nil _ _) hbase).1 _).2 hnull
  · exact List.mem_singleton.2 rfl
  · simp [Setting.key]

end RelativeTime
