/-
Which fault a reader reports.

A text and its reference may have several faults at once.  The reader reports the one that
comes first: the anchor, strays if it is strict, the first token without a sign, the type of
the reference, its time in UTC, and last the operation that leaves the calendar.

* `parse_documented_iff` : by valid settings and from a reference in the calendar, there is no
  other kind of fault, unless the reader stops at a number that is too long;
* `parse_eq_error_iff_firstFault` : for texts without such a number, the fault that is
  reported, for any reference.

## Design notes

`FirstFault` is a relation on the layout of the text, and each of its cases carries what must
be in order for the fault to come first.  So it has at most one fault for a text and a
reference, although the text may contain more of them.
-/
import RelativeTime.Proofs.Composition
import RelativeTime.Proofs.TokenFaults

namespace RelativeTime

variable {clock now n : DateTime} {entries : List (String × Value)} {text : String}
  {ops : List Operation}

/-! ### Faults of the stages -/

/-- A fault of the text comes out, whatever the reference is. -/
theorem parse_of_extract_eq_error {now : Value} {e : Error} (clock : DateTime)
    (hvalid : Settings.IsValid entries) (hnow : now.isNull = false)
    (he : extract text (Settings.effectivelyOn entries .strictParsing) = .error e) :
    parse clock (.text text) now (.value (.record entries)) = .error e := by
  rw [parse_given_of_isValid hvalid hnow, he]
  rfl

theorem parse_of_toUtc_eq_error {now : Value} {e : Error} (clock : DateTime)
    (hvalid : Settings.IsValid entries) (hnow : now.isNull = false)
    (hops : extract text (Settings.effectivelyOn entries .strictParsing) = .ok ops)
    (he : now.toUtc = .error e) :
    parse clock (.text text) now (.value (.record entries)) = .error e := by
  rw [parse_given_of_isValid hvalid hnow, hops, he]
  rfl

/-- What an evaluation fails with comes out last. -/
theorem parse_of_evaluate_eq_error {e : Error} (clock : DateTime)
    (hvalid : Settings.IsValid entries) (hn : now.toUtc = .ok n)
    (hops : extract text (Settings.effectivelyOn entries .strictParsing) = .ok ops)
    (he : evaluate ops n = .error e) :
    parse clock (.text text) (.dateTime now) (.value (.record entries)) = .error e := by
  rw [parse_of_extract clock hvalid hn hops, he]
  rfl

theorem Value.toUtc_of_not_dateTime {v : Value} (h : ∀ t, v ≠ .dateTime t) :
    v.toUtc = .error (.notDateTime v.kind) := by
  cases v with
  | dateTime t => exact absurd rfl (h t)
  | _ => rfl

/-! ### The kinds of faults -/

/-- The faults that the reader of a text names. -/
def Error.IsDocumented : Error → Prop
  | missingAnchor _ | strayText _ _ | invalidSign _ | outOfRange _ => True
  | _ => False

/-- **Only documented faults, but for long numbers.**  By valid settings, reading any text
against a reference that has a time in UTC gives an instant or one of the faults that a
reader names, exactly if the reader does not stop at a number that is too long.  Where it
does, the fault of the number itself comes out. -/
theorem parse_documented_iff {now n : DateTime} {entries : List (String × Value)} {text : String}
    (clock : DateTime) (hvalid : Settings.IsValid entries) (hn : now.toUtc = .ok n) :
    (((∃ p, parse clock (.text text) (.dateTime now) (.value (.record entries)) = .ok p) ∨
        ∃ e, e.IsDocumented ∧
          parse clock (.text text) (.dateTime now) (.value (.record entries)) = .error e) ↔
      ¬ StopsAtNumber (Settings.effectivelyOn entries .strictParsing) text) ∧
    (StopsAtNumber (Settings.effectivelyOn entries .strictParsing) text →
      parse clock (.text text) (.dateTime now) (.value (.record entries)) =
        .error .malformedNumber) := by
  have hstops (h : StopsAtNumber (Settings.effectivelyOn entries .strictParsing) text) :
      parse clock (.text text) (.dateTime now) (.value (.record entries)) =
        .error .malformedNumber :=
    parse_of_extract_eq_error clock hvalid rfl (extract_of_stopsAtNumber h)
  refine ⟨⟨?_, ?_⟩, hstops⟩
  · rintro (⟨p, hp⟩ | ⟨e, hdocumented, he⟩) h
    · simp [hstops h] at hp
    · rw [hstops h] at he
      obtain rfl := Except.error.inj he
      exact hdocumented
  · intro h
    rcases cases_extract text (Settings.effectivelyOn entries .strictParsing) with
      ⟨ops, hops⟩ | he | ⟨stray, he⟩ | ⟨token, he⟩ | ⟨hlong, -⟩
    · refine (parse_ok_or_outOfRange hvalid hn hops).imp_right ?_
      rintro ⟨token, he⟩
      exact ⟨.outOfRange token, trivial, he⟩
    · exact .inr ⟨.missingAnchor text, trivial, parse_of_extract_eq_error clock hvalid rfl he⟩
    · exact .inr ⟨.strayText text stray, trivial, parse_of_extract_eq_error clock hvalid rfl he⟩
    · exact .inr ⟨.invalidSign token, trivial, parse_of_extract_eq_error clock hvalid rfl he⟩
    · exact absurd hlong h

/-- A text with a stray character and a token without a sign, neither of which keeps a reader
within its kinds of faults. -/
theorem parse_documented_iff_stray :
    Settings.IsValid [("STRICT_PARSING", .bool true)] ∧
    DateTime.start.toUtc = .ok { DateTime.start with offset := some .utc } ∧
    ((∃ p, parse .start (.text "now-1d3h!") (.dateTime .start)
        (.value (.record [("STRICT_PARSING", .bool true)])) = .ok p) ∨
      ∃ e, e.IsDocumented ∧ parse .start (.text "now-1d3h!") (.dateTime .start)
        (.value (.record [("STRICT_PARSING", .bool true)])) = .error e) := by
  have hvalid : Settings.IsValid [("STRICT_PARSING", .bool true)] :=
    List.forall_mem_singleton.2 ⟨.strictParsing, rfl, true, rfl⟩
  have hruns : HasShortRuns "now-1d3h!" := hasShortRuns_of_length_le (by decide)
  exact ⟨hvalid, DateTime.toUtc_start,
    (parse_documented_iff .start hvalid DateTime.toUtc_start).1.2 (not_stopsAtNumber hruns)⟩

/-- A text that is one token stops there if the token is too long. -/
theorem stopsAtNumber_of_isOverlong {token : List Char} (h : IsOverlong token) (strict : Bool) :
    StopsAtNumber strict (String.ofList (anchor ++ token)) := by
  have htoken : IsToken token := by
    obtain ⟨sign, digits, unit, rfl, hdigits, hlength⟩ := h
    exact .signed sign unit (List.ne_nil_of_length_pos (Nat.zero_lt_of_lt hlength)) hdigits
  refine ⟨.step [] token (.last []), [], token, [], ⟨⟨?_, ?_⟩, ?_⟩, rfl, by simp, h⟩
  · simp [Layout.chars]
  · exact ⟨noTokenIn_nil _, htoken, noTokenIn_nil _⟩
  · simp [Layout.strays]

/-- A number with as many zeros in front as there may be digits, and a one behind them. -/
def manyZeros : List Char := List.replicate maxDigits '0' ++ ['1']

theorem isOverlong_manyZeros : IsOverlong ('+' :: manyZeros ++ ['d']) := by
  refine ⟨.plus, manyZeros, .day, rfl, ?_, ?_⟩
  · intro c hc
    rcases List.mem_append.1 hc with hc | hc
    · rw [List.eq_of_mem_replicate hc]
      decide
    · rw [List.mem_singleton.1 hc]
      decide
  · rw [manyZeros, List.length_append, List.length_replicate]
    exact Nat.lt_succ_self _

/-- A shift by one day is refused for its zeros, with a fault that no reader names. -/
theorem parse_manyZeros :
    Settings.IsValid [] ∧
    DateTime.start.toUtc = .ok { DateTime.start with offset := some .utc } ∧
    parse .start (.text (String.ofList (anchor ++ ('+' :: manyZeros ++ ['d'])))) (.dateTime .start)
      (.value (.record [])) = .error .malformedNumber ∧
    ¬ Error.malformedNumber.IsDocumented := by
  have hvalid : Settings.IsValid [] := List.forall_mem_nil _
  refine ⟨hvalid, DateTime.toUtc_start, ?_, fun h => h⟩
  exact parse_of_extract_eq_error .start hvalid rfl
    (extract_of_stopsAtNumber (stopsAtNumber_of_isOverlong isOverlong_manyZeros _))

/-! ### The order of the faults -/

/-- The fault that comes first when a text is read against a reference. -/
inductive FirstFault (strict : Bool) (text : String) (now : Value) : Error → Prop
  | missingAnchor (h : ¬ anchor <+: text.toList) :
      FirstFault strict text now (.missingAnchor text)
  | strayText {l : Layout} (hl : l.IsLayoutOf text) (hstrict : strict = true)
      (hstrays : l.strays ≠ []) :
      FirstFault strict text now (.strayText text (String.ofList l.strays))
  | invalidSign {l : Layout} {before after : List (List Char)} {token : List Char}
      (hl : l.Passes strict text) (htokens : l.tokens = before ++ token :: after)
      (hbefore : ∀ t ∈ before, ¬ StartsWithDigit t) (htoken : StartsWithDigit token) :
      FirstFault strict text now (.invalidSign (String.ofList token))
  | notDateTime {l : Layout} (hl : l.Passes strict text)
      (hsigned : ∀ t ∈ l.tokens, ¬ StartsWithDigit t) (hnow : ∀ t, now ≠ .dateTime t) :
      FirstFault strict text now (.notDateTime now.kind)
  | range {l : Layout} {t : DateTime} (hl : l.Passes strict text)
      (hsigned : ∀ t ∈ l.tokens, ¬ StartsWithDigit t) (hnow : now = .dateTime t)
      (hout : ¬ InCalendar t.instant) : FirstFault strict text now (.range .overflow)
  | outOfRange {l : Layout} {t n : DateTime} {ops : List Operation} {op : Operation}
      (hl : l.Passes strict text) (hops : l.tokens.mapM readToken = .ok ops)
      (hnow : now = .dateTime t) (hn : t.toUtc = .ok n) (hop : op ∈ ops)
      (hfails : evaluate ops n = .error (.outOfRange op.text)) :
      FirstFault strict text now (.outOfRange op.text)

/-- Tokens that are not too long are all read, or there is a first one without a sign. -/
theorem cases_mapM_readToken {tokens : List (List Char)}
    (h : ∀ token ∈ tokens, IsToken token ∧ ¬ IsOverlong token) :
    ((∀ token ∈ tokens, ¬ StartsWithDigit token) ∧ ∃ ops, tokens.mapM readToken = .ok ops) ∨
    ∃ before token after, tokens = before ++ token :: after ∧
      (∀ t ∈ before, ¬ StartsWithDigit t) ∧ StartsWithDigit token := by
  have htokens : ∀ token ∈ tokens, IsToken token := fun t ht => (h t ht).1
  cases hops : tokens.mapM readToken with
  | error e =>
    obtain ⟨before, token, after, rfl, hbefore, ⟨htoken, -⟩ | ⟨htoken, -⟩⟩ :=
      (mapM_readToken_eq_error_iff htokens).1 hops
    · exact .inr ⟨before, token, after, rfl, fun t ht => (hbefore t ht).1, htoken⟩
    · exact absurd htoken (h token (by simp)).2
  | ok ops =>
    refine .inl ⟨?_, ops, rfl⟩
    intro token htoken
    have hread := Result.exists_eq_ok_of_mapM hops token htoken
    exact ((readToken_eq_ok_iff (htokens token htoken)).1 hread).1

theorem parse_of_firstFault {now : Value} {e : Error} (clock : DateTime)
    (hvalid : Settings.IsValid entries) (hnow : now.isNull = false)
    (hlong : ∀ l : Layout, l.IsLayoutOf text → ∀ token ∈ l.tokens, ¬ IsOverlong token)
    (h : FirstFault (Settings.effectivelyOn entries .strictParsing) text now e) :
    parse clock (.text text) now (.value (.record entries)) = .error e := by
  have hread {l : Layout} (hl : l.Passes (Settings.effectivelyOn entries .strictParsing) text)
      (hsigned : ∀ t ∈ l.tokens, ¬ StartsWithDigit t) :
      ∃ ops, extract text (Settings.effectivelyOn entries .strictParsing) = .ok ops := by
    rw [extract_of_passes hl]
    rcases cases_mapM_readToken fun token htoken =>
        ⟨Layout.isToken_of_mem hl.1.2 token htoken, hlong l hl.1 token htoken⟩ with
      ⟨-, hops⟩ | ⟨before, token, after, htokens, -, htoken⟩
    · exact hops
    · exact absurd htoken (hsigned token (by simp [htokens]))
  cases h with
  | missingAnchor h =>
    exact parse_of_extract_eq_error clock hvalid hnow (extract_of_not_anchor h _)
  | strayText hl hstrict hstrays =>
    refine parse_of_extract_eq_error clock hvalid hnow ?_
    rw [extract_of_isLayoutOf hl, if_pos ⟨hstrict, hstrays⟩]
  | @invalidSign l before after token hl htokens hbefore htoken =>
    refine parse_of_extract_eq_error clock hvalid hnow ?_
    rw [extract_of_passes hl, mapM_readToken_eq_error_iff (Layout.isToken_of_mem hl.1.2)]
    refine ⟨before, token, after, htokens, ?_, .inl ⟨htoken, rfl⟩⟩
    intro t ht
    exact ⟨hbefore t ht, hlong l hl.1 t (by simp [htokens, ht])⟩
  | notDateTime hl hsigned hother =>
    obtain ⟨ops, hops⟩ := hread hl hsigned
    exact parse_of_toUtc_eq_error clock hvalid hnow hops (Value.toUtc_of_not_dateTime hother)
  | range hl hsigned ht hout =>
    subst ht
    obtain ⟨ops, hops⟩ := hread hl hsigned
    refine parse_of_toUtc_eq_error clock hvalid hnow hops ?_
    rw [Value.toUtc, DateTime.toUtc_eq_error hout]
    rfl
  | outOfRange hl hops ht hn _ hfails =>
    subst ht
    exact parse_of_evaluate_eq_error clock hvalid hn ((extract_of_passes hl).trans hops) hfails

theorem exists_firstFault_or_parse_eq_ok (clock : DateTime) (now : Value)
    (hvalid : Settings.IsValid entries)
    (hlong : ∀ l : Layout, l.IsLayoutOf text → ∀ token ∈ l.tokens, ¬ IsOverlong token) :
    (∃ e, FirstFault (Settings.effectivelyOn entries .strictParsing) text now e) ∨
      ∃ p, parse clock (.text text) now (.value (.record entries)) = .ok p := by
  by_cases hanchor : anchor <+: text.toList
  case neg => exact .inl ⟨_, .missingAnchor hanchor⟩
  obtain ⟨l, hl⟩ := exists_isLayoutOf hanchor
  by_cases hstrays : Settings.effectivelyOn entries .strictParsing = true ∧ l.strays ≠ []
  · exact .inl ⟨_, .strayText hl hstrays.1 hstrays.2⟩
  have hpasses : l.Passes (Settings.effectivelyOn entries .strictParsing) text := ⟨hl, hstrays⟩
  have htokens : ∀ token ∈ l.tokens, IsToken token ∧ ¬ IsOverlong token := fun token htoken =>
    ⟨Layout.isToken_of_mem hl.2 token htoken, hlong l hl token htoken⟩
  rcases cases_mapM_readToken htokens with
    ⟨hsigned, ops, hops⟩ | ⟨before, token, after, htokens, hbefore, htoken⟩
  case inr => exact .inl ⟨_, .invalidSign hpasses htokens hbefore htoken⟩
  by_cases hother : ∀ t, now ≠ .dateTime t
  case pos => exact .inl ⟨_, .notDateTime hpasses hsigned hother⟩
  obtain ⟨t, ht⟩ := not_forall_not.1 hother
  by_cases hout : InCalendar t.instant
  case neg => exact .inl ⟨_, .range hpasses hsigned ht hout⟩
  obtain ⟨n, hticks, hoffset⟩ := (DateTime.exists_ticks_iff (some .utc)).2 hout
  have hn : t.toUtc = .ok n := DateTime.toUtc_eq_ok_iff.2 ⟨hticks, hoffset⟩
  have hextract := (extract_of_passes hpasses).trans hops
  cases heval : evaluate ops n with
  | error e =>
    obtain ⟨op, hop, rfl⟩ := exists_mem_of_evaluate_eq_error heval
    rw [Operation.failure_of_isReadable (isReadable_of_extract hextract op hop)] at heval
    exact .inl ⟨_, .outOfRange hpasses hops ht hn hop heval⟩
  | ok u =>
    subst ht
    exact .inr ((exists_parse_eq_ok_iff clock hvalid hn hextract).2 ⟨u, heval⟩)

/-- **The first fault.**  By valid settings, reading a text without a run of digits that is too
long, against any reference but nothing, fails with the fault that comes first, and gives an
instant if there is none.  Of its tokens, those without a sign are refused as such, and all
others are operations. -/
theorem parse_eq_error_iff_firstFault {text : String} {now : Value}
    {entries : List (String × Value)} (clock : DateTime) (hvalid : Settings.IsValid entries)
    (hnow : now.isNull = false) (hruns : HasShortRuns text) :
    (∀ e, parse clock (.text text) now (.value (.record entries)) = .error e ↔
      FirstFault (Settings.effectivelyOn entries .strictParsing) text now e) ∧
    ((∃ p, parse clock (.text text) now (.value (.record entries)) = .ok p) ↔
      ∀ e, ¬ FirstFault (Settings.effectivelyOn entries .strictParsing) text now e) ∧
    ∀ l : Layout, l.IsLayoutOf text → ∀ token ∈ l.tokens,
      (∃ op, readToken token = .ok op) ∨
        (StartsWithDigit token ∧
          readToken token = .error (.invalidSign (String.ofList token))) := by
  have hlong : ∀ l : Layout, l.IsLayoutOf text → ∀ token ∈ l.tokens, ¬ IsOverlong token :=
    fun l hl token htoken => not_isOverlong_of_mem hl hruns htoken
  have hfault {e : Error} :=
    parse_of_firstFault (e := e) clock hvalid hnow hlong
  have hok := exists_firstFault_or_parse_eq_ok clock now hvalid hlong
  refine ⟨?_, ?_, ?_⟩
  · intro e
    refine ⟨?_, hfault⟩
    intro he
    rcases hok with ⟨e', h⟩ | ⟨p, hp⟩
    · obtain rfl := Except.error.inj ((hfault h).symm.trans he)
      exact h
    · simp [hp] at he
  · constructor
    · rintro ⟨p, hp⟩ e h
      simp [hfault h] at hp
    · intro hnone
      rcases hok with ⟨e, h⟩ | hp
      · exact absurd h (hnone e)
      · exact hp
  · intro l hl token htoken
    rcases (Layout.isToken_of_mem hl.2 token htoken).cases_readToken with hop | hdigit | hover
    · exact .inl hop
    · exact .inr ⟨hdigit, readToken_of_startsWithDigit hdigit⟩
    · exact absurd hover (hlong l hl token htoken)

/-- The token without a sign is reported, although the reference is no date and the token after
it leaves the calendar. -/
theorem parse_eq_error_iff_firstFault_unsigned :
    Settings.IsValid [("STRICT_PARSING", .bool true)] ∧ (Value.int 0).isNull = false ∧
    HasShortRuns "now+4d3h+9999y" ∧
    parse .start (.text "now+4d3h+9999y") (.int 0)
      (.value (.record [("STRICT_PARSING", .bool true)])) = .error (.invalidSign "3h") := by
  have hvalid : Settings.IsValid [("STRICT_PARSING", .bool true)] :=
    List.forall_mem_singleton.2 ⟨.strictParsing, rfl, true, rfl⟩
  have hruns : HasShortRuns "now+4d3h+9999y" := hasShortRuns_of_length_le (by decide)
  have hfour : IsToken ['+', '4', 'd'] := .signed .plus .day (List.cons_ne_nil '4' []) (by simp)
  have hthree : IsToken ['3', 'h'] :=
    .shift .hour (.inl rfl) (List.cons_ne_nil '3' []) (by simp)
  have hmany : IsToken ['+', '9', '9', '9', '9', 'y'] :=
    .signed .plus .year (List.cons_ne_nil '9' ['9', '9', '9']) (by simp)
  have hproper : (Layout.step [] ['+', '4', 'd'] (.step [] ['3', 'h']
      (.step [] ['+', '9', '9', '9', '9', 'y'] (.last [])))).IsProper :=
    ⟨noTokenIn_nil _, hfour, noTokenIn_nil _, hthree, noTokenIn_nil _, hmany, noTokenIn_nil _⟩
  have hunsigned : StartsWithDigit ['3', 'h'] := ⟨'3', ['h'], rfl, by decide⟩
  have hbefore : ∀ t ∈ [['+', '4', 'd']], ¬ StartsWithDigit t := by simp [StartsWithDigit]
  have hfault : FirstFault true "now+4d3h+9999y" (.int 0) (.invalidSign "3h") :=
    .invalidSign ⟨⟨by decide, hproper⟩, by simp [Layout.strays]⟩ rfl hbefore hunsigned
  exact ⟨hvalid, rfl, hruns, ((parse_eq_error_iff_firstFault .start hvalid rfl hruns).1 _).2 hfault⟩

end RelativeTime
