/-
Texts compose.

Reading a text against a reference, the next one against the result, and so on, comes to
the same as reading all that follows the anchors, behind one anchor, against the first
reference:

* `pieces_append` : behind a text without stray characters, another one has its own pieces;
* `extract_append` : the operations of two texts in a row are those of each;
* `evaluate_append` : a run of operations may be interrupted anywhere;
* `parse_ok_or_outOfRange` : the outcomes of a text whose operations are known;
* `exists_toUtc_of_parse` : what a reader gives, with its offset or without, is the same
  instant as the next reference;
* `offset_of_parse` : of these two, the settings tell which;
* `parse_append`, `foldlM_parse_eq_parse_join` : two texts, and any number of them.

## Design notes

No token is the beginning of another, so a token at the end of a text does not grow when
more text follows.  A stray character may: the `4` that is left over in `now+4` is part of
the token `+4d` if `d` follows.  Hence `IsReadWhole` asks for a text without strays, also
of a reader that would pass over them.
-/
import RelativeTime.Proofs.NormalForm
import RelativeTime.Proofs.Simulation
import RelativeTime.Proofs.ValidSettings

namespace RelativeTime

/-- Whether what follows the anchor of a text is read without an error and without any
character left over. -/
def IsReadWhole (strict : Bool) (body : String) : Prop :=
  (∃ ops, extract ("now" ++ body) strict = .ok ops) ∧ straysIn body.toList = []

/-! ### Operations of texts in a row -/

/-- A text without stray characters is read to its end before what follows it. -/
theorem pieces_append {text : List Char} (h : straysIn text = []) (rest : List Char) :
    pieces (text ++ rest) = pieces text ++ pieces rest := by
  rw [straysIn] at h
  fun_induction pieces text with
  | case1 => rfl
  | case2 c text token tail hsplit ih =>
    -- The token that is split off `text` is split off the longer text as well.
    obtain ⟨htoken, htext⟩ := splitToken?_eq_some_iff.1 hsplit
    have hlonger : splitToken? (c :: text ++ rest) = some (token, tail ++ rest) := by
      refine splitToken?_eq_some_iff.2 ⟨htoken, ?_⟩
      rw [htext, List.append_assoc]
    rw [pieces_of_splitToken? hlonger, ih h]
    rfl
  | case3 c text hsplit ih => exact absurd h (List.cons_ne_nil _ _)

theorem straysIn_append {text rest : List Char} (h : straysIn text = []) :
    straysIn (text ++ rest) = straysIn rest := by
  have htext := h
  rw [straysIn] at htext
  rw [straysIn, pieces_append h, List.filterMap_append, htext, List.nil_append, straysIn]

theorem tokensIn_append {text rest : List Char} (h : straysIn text = []) :
    tokensIn (text ++ rest) = tokensIn text ++ tokensIn rest := by
  rw [tokensIn, pieces_append h, List.filterMap_append, ← tokensIn, ← tokensIn]

/-- Behind the anchor, a text without stray characters is read token by token, whether
strict or not. -/
theorem extract_of_straysIn_eq_nil {body : String} (h : straysIn body.toList = [])
    (strict : Bool) : extract ("now" ++ body) strict = (tokensIn body.toList).mapM readToken := by
  have hbody : body? ("now" ++ body).toList = some body.toList := by
    rw [String.toList_append]
    exact body?_anchor_append body.toList
  rw [extract, tokenize_of_body? hbody, if_neg fun hstrict => hstrict.2 h]
  rfl

/-- The operations of two texts in a row are those of each. -/
theorem extract_append {first second : String} {strict : Bool} {ops ops' : List Operation}
    (hfirst : straysIn first.toList = []) (hsecond : straysIn second.toList = [])
    (hops : extract ("now" ++ first) strict = .ok ops)
    (hops' : extract ("now" ++ second) strict = .ok ops') :
    extract ("now" ++ (first ++ second)) strict = .ok (ops ++ ops') := by
  rw [extract_of_straysIn_eq_nil hfirst] at hops
  rw [extract_of_straysIn_eq_nil hsecond] at hops'
  have hboth : straysIn (first ++ second).toList = [] := by
    rw [String.toList_append, straysIn_append hfirst, hsecond]
  rw [extract_of_straysIn_eq_nil hboth, String.toList_append, tokensIn_append hfirst,
    List.mapM_append, hops, hops']
  rfl

namespace IsReadWhole

variable {strict : Bool} {first second : String}

theorem append (hfirst : IsReadWhole strict first) (hsecond : IsReadWhole strict second) :
    IsReadWhole strict (first ++ second) := by
  obtain ⟨⟨ops, hops⟩, hstrays⟩ := hfirst
  obtain ⟨⟨ops', hops'⟩, hstrays'⟩ := hsecond
  refine ⟨⟨ops ++ ops', extract_append hstrays hstrays' hops hops'⟩, ?_⟩
  rw [String.toList_append, straysIn_append hstrays, hstrays']

theorem empty (strict : Bool) : IsReadWhole strict "" := by
  have hpieces : pieces "".toList = [] := by rw [String.toList_empty, pieces]
  have hstrays : straysIn "".toList = [] := by rw [straysIn, hpieces, List.filterMap_nil]
  refine ⟨⟨[], ?_⟩, hstrays⟩
  rw [extract_of_straysIn_eq_nil hstrays, tokensIn, hpieces]
  rfl

/-- The text of an operation that can be read is read whole. -/
theorem text {op : Operation} (h : op.IsReadable) (strict : Bool) :
    IsReadWhole strict op.text := by
  have hops : ∀ o ∈ [op], o.IsReadable := List.forall_mem_singleton.2 h
  have hchars : [op].flatMap Operation.chars = op.chars := List.flatMap_singleton _ _
  have hstrays := straysIn_flatMap_chars [op]
  rw [hchars] at hstrays
  refine ⟨⟨[op], ?_⟩, ?_⟩
  · rw [← shorthand_singleton]
    exact extract_shorthand hops strict
  · rw [Operation.text, String.toList_ofList]
    exact hstrays

theorem join {bodies : List String} (h : ∀ body ∈ bodies, IsReadWhole strict body) :
    IsReadWhole strict (String.join bodies) := by
  induction bodies with
  | nil => exact empty strict
  | cons body bodies ih =>
    obtain ⟨hbody, hbodies⟩ := List.forall_mem_cons.1 h
    rw [String.join_cons]
    exact append hbody (ih hbodies)

end IsReadWhole

/-! ### Runs in a row -/

/-- A run may be interrupted anywhere. -/
theorem evaluate_append (ops ops' : List Operation) (t : DateTime) :
    evaluate (ops ++ ops') t = evaluate ops t >>= evaluate ops' := by
  induction ops generalizing t with
  | nil => rfl
  | cons op ops ih =>
    rw [List.cons_append]
    cases hop : op.apply t with
    | ok u =>
      rw [evaluate_cons_of_ok hop, evaluate_cons_of_ok hop]
      exact ih u
    | error fault =>
      rw [evaluate_cons_of_error hop, evaluate_cons_of_error hop]
      rfl

/-- A run that fails does so at one of its operations. -/
theorem exists_mem_of_evaluate_eq_error {ops : List Operation} {t : DateTime} {e : Error}
    (h : evaluate ops t = .error e) : ∃ op ∈ ops, e = op.failure := by
  by_cases hstays : Exact.Stays ops t.ticks
  · obtain ⟨u, hu, -⟩ := exists_evaluate_eq_ok hstays
    rw [hu] at h
    cases h
  · obtain ⟨k, hk, -, -, he⟩ := exists_evaluate_eq_error hstays
    rw [he] at h
    exact ⟨ops[k], List.getElem_mem hk, (Except.error.inj h).symm⟩

/-! ### Readings in a row -/

variable {clock now n t : DateTime} {entries : List (String × Value)} {text : String}
  {ops : List Operation}

/-- By valid settings, a text whose operations are known fails only where they leave the
calendar. -/
theorem parse_ok_or_outOfRange (hvalid : Settings.IsValid entries) (hn : now.toUtc = .ok n)
    (hops : extract text (Settings.effectivelyOn entries .strictParsing) = .ok ops) :
    (∃ t, parse clock (.text text) (.dateTime now) (.value (.record entries)) = .ok t) ∨
      ∃ token, parse clock (.text text) (.dateTime now) (.value (.record entries)) =
        .error (.outOfRange token) := by
  rw [parse_of_extract clock hvalid hn hops]
  cases heval : evaluate ops n with
  | ok u => exact .inl ⟨Settings.view entries u, rfl⟩
  | error e =>
    -- an operation that was read can be written, so its fault names it
    obtain ⟨op, hop, rfl⟩ := exists_mem_of_evaluate_eq_error heval
    rw [Operation.failure_of_isReadable (isReadable_of_extract hops op hop)]
    exact .inr ⟨op.text, rfl⟩

/-- The offset of what a reader gives: that of UTC, or none. -/
theorem offset_of_parse (hvalid : Settings.IsValid entries) (hn : now.toUtc = .ok n)
    (hops : extract text (Settings.effectivelyOn entries .strictParsing) = .ok ops)
    (ht : parse clock (.text text) (.dateTime now) (.value (.record entries)) = .ok t) :
    t.offset = if Settings.effectivelyOn entries .timezoneAware then some .utc else none := by
  rw [parse_of_extract clock hvalid hn hops] at ht
  cases heval : evaluate ops n with
  | error e =>
    rw [heval] at ht
    cases ht
  | ok u =>
    rw [heval] at ht
    obtain rfl := Except.ok.inj ht
    have hoffset : u.offset = some .utc :=
      (evaluate_eq_ok_iff.1 heval).2.2.trans (DateTime.toUtc_eq_ok_iff.1 hn).2
    rw [Settings.view]
    split
    · exact hoffset
    · rfl

/-- What a reader gives can be the next reference. -/
theorem exists_toUtc_of_parse (hvalid : Settings.IsValid entries) (hn : now.toUtc = .ok n)
    (hops : extract text (Settings.effectivelyOn entries .strictParsing) = .ok ops)
    (ht : parse clock (.text text) (.dateTime now) (.value (.record entries)) = .ok t) :
    ∃ u, evaluate ops n = .ok u ∧ t.toUtc = .ok u := by
  rw [parse_of_extract clock hvalid hn hops] at ht
  cases heval : evaluate ops n with
  | error e =>
    rw [heval] at ht
    cases ht
  | ok u =>
    rw [heval] at ht
    obtain rfl := Except.ok.inj ht
    refine ⟨u, rfl, toUtc_view entries ?_⟩
    obtain ⟨-, -, hoffset⟩ := evaluate_eq_ok_iff.1 heval
    rw [hoffset]
    exact (DateTime.toUtc_eq_ok_iff.1 hn).2

/-- Reading two texts in a row comes to the same as reading them behind one anchor. -/
theorem parse_append {first second : String} (hvalid : Settings.IsValid entries)
    (hn : now.toUtc = .ok n)
    (hfirst : IsReadWhole (Settings.effectivelyOn entries .strictParsing) first)
    (hsecond : IsReadWhole (Settings.effectivelyOn entries .strictParsing) second) :
    parse clock (.text ("now" ++ (first ++ second))) (.dateTime now) (.value (.record entries)) =
      parse clock (.text ("now" ++ first)) (.dateTime now) (.value (.record entries)) >>= fun t =>
        parse clock (.text ("now" ++ second)) (.dateTime t) (.value (.record entries)) := by
  obtain ⟨⟨ops, hops⟩, hstrays⟩ := hfirst
  obtain ⟨⟨ops', hops'⟩, hstrays'⟩ := hsecond
  rw [parse_of_extract clock hvalid hn (extract_append hstrays hstrays' hops hops'),
    evaluate_append]
  cases hparse : parse clock (.text ("now" ++ first)) (.dateTime now) (.value (.record entries)) with
  | error e =>
    rw [parse_of_extract clock hvalid hn hops] at hparse
    cases heval : evaluate ops n with
    | ok u =>
      rw [heval] at hparse
      cases hparse
    | error e' =>
      rw [heval] at hparse
      exact hparse
  | ok t =>
    obtain ⟨u, heval, hu⟩ := exists_toUtc_of_parse hvalid hn hops hparse
    rw [heval]
    exact (parse_of_extract clock hvalid hu hops').symm

/-- Reading texts in a row comes to the same as reading them behind one anchor. -/
theorem foldlM_parse_cons {body : String} {bodies : List String}
    (hvalid : Settings.IsValid entries) (hn : now.toUtc = .ok n)
    (hbodies : ∀ b ∈ body :: bodies,
      IsReadWhole (Settings.effectivelyOn entries .strictParsing) b) :
    (body :: bodies).foldlM (fun t b =>
        parse clock (.text ("now" ++ b)) (.dateTime t) (.value (.record entries))) now =
      parse clock (.text ("now" ++ String.join (body :: bodies))) (.dateTime now)
        (.value (.record entries)) := by
  -- The induction is on the texts after the first, from any reference that has an instant.
  induction bodies generalizing now n body with
  | nil =>
    rw [List.foldlM_cons, String.join_cons, String.join_nil, String.append_empty]
    exact bind_pure _
  | cons next bodies ih =>
    obtain ⟨hbody, hrest⟩ := List.forall_mem_cons.1 hbodies
    rw [List.foldlM_cons, String.join_cons, parse_append hvalid hn hbody (IsReadWhole.join hrest)]
    cases hparse :
        parse clock (.text ("now" ++ body)) (.dateTime now) (.value (.record entries)) with
    | error e => rfl
    | ok t =>
      obtain ⟨⟨ops, hops⟩, -⟩ := hbody
      obtain ⟨u, -, hu⟩ := exists_toUtc_of_parse hvalid hn hops hparse
      exact ih hu hrest

/-- Every reference on the way has the offset that the reader gives. -/
theorem offset_of_foldlM_parse {bodies : List String} (hvalid : Settings.IsValid entries)
    (hn : now.toUtc = .ok n) (hne : bodies ≠ [])
    (hbodies : ∀ b ∈ bodies, IsReadWhole (Settings.effectivelyOn entries .strictParsing) b)
    (ht : bodies.foldlM (fun t b =>
        parse clock (.text ("now" ++ b)) (.dateTime t) (.value (.record entries))) now = .ok t) :
    t.offset = if Settings.effectivelyOn entries .timezoneAware then some .utc else none := by
  obtain ⟨body, bodies, rfl⟩ := List.exists_cons_of_ne_nil hne
  rw [foldlM_parse_cons hvalid hn hbodies] at ht
  obtain ⟨⟨ops, hops⟩, -⟩ := IsReadWhole.join hbodies
  exact offset_of_parse hvalid hn hops ht

/-- **Texts compose.**  By valid settings, texts that are read whole lead from reference to
reference to the same outcome as all of them behind one anchor: to an instant, or to the
operation that leaves the calendar.  Every reference that is read on the way has the offset of
UTC, or none if the settings say so. -/
theorem foldlM_parse_eq_parse_join {now n : DateTime} {entries : List (String × Value)}
    {bodies : List String} (clock : DateTime) (hvalid : Settings.IsValid entries)
    (hn : now.toUtc = .ok n) (hne : bodies ≠ [])
    (hbodies : ∀ body ∈ bodies,
      IsReadWhole (Settings.effectivelyOn entries .strictParsing) body) :
    bodies.foldlM (fun t body =>
        parse clock (.text ("now" ++ body)) (.dateTime t) (.value (.record entries))) now =
      parse clock (.text ("now" ++ String.join bodies)) (.dateTime now)
        (.value (.record entries)) ∧
    ((∃ t, parse clock (.text ("now" ++ String.join bodies)) (.dateTime now)
        (.value (.record entries)) = .ok t) ∨
      ∃ token, parse clock (.text ("now" ++ String.join bodies)) (.dateTime now)
        (.value (.record entries)) = .error (.outOfRange token)) ∧
    ∀ k t, 0 < k →
      (bodies.take k).foldlM (fun t body =>
        parse clock (.text ("now" ++ body)) (.dateTime t) (.value (.record entries))) now = .ok t →
      (Settings.effectivelyOn entries .timezoneAware = false → t.offset = none) ∧
      (Settings.effectivelyOn entries .timezoneAware = true → t.offset = some .utc) := by
  refine ⟨?_, ?_, ?_⟩
  · obtain ⟨body, bodies, rfl⟩ := List.exists_cons_of_ne_nil hne
    exact foldlM_parse_cons hvalid hn hbodies
  · obtain ⟨⟨ops, hops⟩, -⟩ := IsReadWhole.join hbodies
    exact parse_ok_or_outOfRange hvalid hn hops
  · intro k t hk ht
    have hsome : bodies.take k ≠ [] := by
      rw [Ne, List.take_eq_nil_iff]
      exact not_or.2 ⟨Nat.ne_of_gt hk, hne⟩
    have hoffset := offset_of_foldlM_parse hvalid hn hsome
      (fun b hb => hbodies b (List.mem_of_mem_take hb)) ht
    rw [hoffset]
    constructor
    · intro hoff
      rw [hoff]
      rfl
    · intro hon
      rw [hon]
      rfl

/-- From the start of the calendar a month on, from there back to a Sunday in the first month,
and another month back: the third text leaves the calendar, and so does one text of the
three, with the same token.  The Sunday between is a reference without an offset. -/
theorem foldlM_parse_eq_parse_join_start :
    (∀ body ∈ ["+1M", "/w", "-1M"], IsReadWhole false body) ∧
    ["+1M", "/w", "-1M"].foldlM (fun t body =>
        parse .start (.text ("now" ++ body)) (.dateTime t)
          (.value (.record [("RETURN_AS_TIMEZONE_AWARE", .bool false)]))) DateTime.start =
      parse .start (.text ("now" ++ String.join ["+1M", "/w", "-1M"])) (.dateTime .start)
        (.value (.record [("RETURN_AS_TIMEZONE_AWARE", .bool false)])) ∧
    parse .start (.text ("now" ++ String.join ["+1M", "/w", "-1M"])) (.dateTime .start)
        (.value (.record [("RETURN_AS_TIMEZONE_AWARE", .bool false)])) =
      .error (.outOfRange "-1M") ∧
    ∃ t, (["+1M", "/w", "-1M"].take 2).foldlM (fun t body =>
        parse .start (.text ("now" ++ body)) (.dateTime t)
          (.value (.record [("RETURN_AS_TIMEZONE_AWARE", .bool false)]))) DateTime.start = .ok t ∧
      t.offset = none := by
  have hvalid : Settings.IsValid [("RETURN_AS_TIMEZONE_AWARE", .bool false)] := by
    rw [Settings.IsValid, List.forall_mem_singleton]
    exact ⟨.timezoneAware, rfl, false, rfl⟩
  have hreference : DateTime.start.toUtc = .ok { DateTime.start with offset := some .utc } :=
    DateTime.toUtc_eq_ok_iff.2 ⟨by decide, rfl⟩
  have hmonth (sign : Sign) : (Operation.shift sign 1 .month).IsReadable :=
    Nat.one_lt_pow (by decide) (by decide)
  have hweek : (Operation.round .week).IsReadable := trivial
  have hreadable : ∀ op ∈ [Operation.shift .plus 1 .month, .round .week, .shift .minus 1 .month],
      op.IsReadable := by
    rw [List.forall_mem_cons, List.forall_mem_cons, List.forall_mem_singleton]
    exact ⟨hmonth .plus, hweek, hmonth .minus⟩
  have hbodies : ∀ body ∈ ["+1M", "/w", "-1M"], IsReadWhole false body := by
    have hplus : Operation.text (.shift .plus 1 .month) = "+1M" := by decide
    have hround : Operation.text (.round .week) = "/w" := by decide
    have hminus : Operation.text (.shift .minus 1 .month) = "-1M" := by decide
    rw [List.forall_mem_cons, List.forall_mem_cons, List.forall_mem_singleton, ← hplus, ← hround,
      ← hminus]
    exact ⟨.text (hmonth .plus) false, .text hweek false, .text (hmonth .minus) false⟩
  obtain ⟨hjoin, -, hoffset⟩ :=
    foldlM_parse_eq_parse_join .start hvalid hreference (by decide) hbodies
  refine ⟨hbodies, hjoin, ?_, ?_⟩
  · exact parse_of_extract .start hvalid hreference (extract_shorthand hreadable false)
  · -- the first two texts lead to a Sunday
    have hfirst : ∀ op ∈ [Operation.shift .plus 1 .month, .round .week], op.IsReadable :=
      List.forall_mem_cons.2 ⟨hmonth .plus, List.forall_mem_singleton.2 hweek⟩
    have htwo : ∀ b ∈ ["+1M", "/w"], IsReadWhole false b :=
      fun b hb => hbodies b (List.mem_of_mem_take (i := 2) hb)
    obtain ⟨t, ht⟩ : ∃ t, ["+1M", "/w"].foldlM (fun t body =>
        parse .start (.text ("now" ++ body)) (.dateTime t)
          (.value (.record [("RETURN_AS_TIMEZONE_AWARE", .bool false)]))) DateTime.start = .ok t :=
      ⟨_, (foldlM_parse_cons hvalid hreference htwo).trans
        (parse_of_extract .start hvalid hreference (extract_shorthand hfirst false))⟩
    exact ⟨t, ht, (hoffset 2 t (by decide) ht).1 rfl⟩

end RelativeTime
