/-
What is wrong with a text.

A token of the grammar is read as an operation, unless it starts with a digit or its number
is too long.  The reader goes through a text in stages: it asks for the anchor, then, if it
is strict, for a text without strays, and then reads one token after the other.  The first
fault in this order is the one it reports:

* `readToken_eq_ok_iff`, `readToken_eq_error_iff` : the outcomes of one token;
* `Result.mapM_eq_error_iff` : a list is read up to the first element that fails;
* `extract_of_not_anchor`, `extract_of_isLayoutOf`, `mapM_readToken_eq_error_iff` : the stages;
* `cases_extract` : all outcomes of a text.

## Design notes

The reader of tokens knows faults that no text has: an empty token, an unknown unit, a
magnitude below zero.  They are gone once the token is one of the grammar.
-/
import RelativeTime.Proofs.NormalForm

namespace RelativeTime

/-! ### One token -/

/-- Whether a token has no sign, so that it starts with a digit. -/
def StartsWithDigit (token : List Char) : Prop :=
  ∃ c rest, token = c :: rest ∧ c.isDigit = true

/-- Whether a token has a sign and more digits than can be read. -/
def IsOverlong (token : List Char) : Prop :=
  ∃ (sign : Sign) (digits : List Char) (unit : TimeUnit),
    token = sign.char :: digits ++ [unit.code] ∧ (∀ c ∈ digits, c.isDigit = true) ∧
      maxDigits < digits.length

theorem ofChar?_of_isDigit {c : Char} (h : c.isDigit = true) : Sign.ofChar? c = none := by
  unfold Sign.ofChar?
  split
  · simp at h
  · simp at h
  · rfl

theorem readMagnitude_of_isDigit {digits : List Char} (hne : digits ≠ [])
    (hdigits : ∀ c ∈ digits, c.isDigit = true) :
    readMagnitude digits =
      if digits.length ≤ maxDigits then .ok (Nat.ofDigitChars 10 digits 0)
      else .error .malformedNumber := by
  rw [readMagnitude, if_neg hne, readInt?_of_isDigit hdigits, readNat?,
    digitValues?_eq_map hne hdigits]
  simp only [Option.bind_eq_bind, Option.bind_some, List.length_map, ofDigitValues_map]
  by_cases hlength : digits.length ≤ maxDigits
  · rw [if_pos hlength, if_pos hlength]
    exact if_neg (Int.not_lt.2 (Int.natCast_nonneg _))
  · rw [if_neg hlength, if_neg hlength]
    rfl

theorem readToken_shift (sign : Sign) {digits : List Char} (unit : TimeUnit) (hne : digits ≠ [])
    (hdigits : ∀ c ∈ digits, c.isDigit = true) :
    readToken (sign.char :: digits ++ [unit.code]) =
      if digits.length ≤ maxDigits then .ok (.shift sign (Nat.ofDigitChars 10 digits 0) unit)
      else .error .malformedNumber := by
  rw [readToken_signed, readMagnitude_of_isDigit hne hdigits]
  split
  · rfl
  · rfl

theorem readToken_of_startsWithDigit {token : List Char} (h : StartsWithDigit token) :
    readToken token = .error (.invalidSign (String.ofList token)) := by
  obtain ⟨c, rest, rfl, hc⟩ := h
  rw [readToken]
  · rw [ofChar?_of_isDigit hc]
  · rintro rfl
    simp at hc

theorem readToken_of_isOverlong {token : List Char} (h : IsOverlong token) :
    readToken token = .error .malformedNumber := by
  obtain ⟨sign, digits, unit, rfl, hdigits, hlength⟩ := h
  have hne : digits ≠ [] := by
    rintro rfl
    simp at hlength
  rw [readToken_shift sign unit hne hdigits, if_neg (by omega)]

/-- A token of the grammar is an operation, starts with a digit, or is too long. -/
theorem IsToken.cases_readToken {token : List Char} (h : IsToken token) :
    (∃ op, readToken token = .ok op) ∨ StartsWithDigit token ∨ IsOverlong token := by
  cases h with
  | round unit => exact .inl ⟨_, readToken_slash [] unit⟩
  | @shift sign digits unit hsign hne hdigits =>
    have hsigned (s : Sign) : (∃ op, readToken (s.char :: digits ++ [unit.code]) = .ok op) ∨
        StartsWithDigit (s.char :: digits ++ [unit.code]) ∨
          IsOverlong (s.char :: digits ++ [unit.code]) := by
      by_cases hlength : digits.length ≤ maxDigits
      · exact .inl ⟨_, (readToken_shift s unit hne hdigits).trans (if_pos hlength)⟩
      · exact .inr (.inr ⟨s, digits, unit, rfl, hdigits, by omega⟩)
    rcases hsign with rfl | rfl | rfl
    · obtain ⟨c, rest, rfl⟩ := List.exists_cons_of_ne_nil hne
      exact .inr (.inl ⟨c, rest ++ [unit.code], rfl, hdigits c List.mem_cons_self⟩)
    · exact hsigned .plus
    · exact hsigned .minus

theorem readToken_eq_ok_iff {token : List Char} (h : IsToken token) :
    (∃ op, readToken token = .ok op) ↔ ¬ StartsWithDigit token ∧ ¬ IsOverlong token := by
  constructor
  · rintro ⟨op, hop⟩
    constructor
    · intro hdigit
      simp [readToken_of_startsWithDigit hdigit] at hop
    · intro hlong
      simp [readToken_of_isOverlong hlong] at hop
  · rintro ⟨hdigit, hlong⟩
    rcases h.cases_readToken with hop | hstart | hover
    · exact hop
    · exact absurd hstart hdigit
    · exact absurd hover hlong

theorem readToken_eq_error_iff {token : List Char} {e : Error} (h : IsToken token) :
    readToken token = .error e ↔
      (StartsWithDigit token ∧ e = .invalidSign (String.ofList token)) ∨
        (IsOverlong token ∧ e = .malformedNumber) := by
  constructor
  · intro he
    rcases h.cases_readToken with ⟨op, hop⟩ | hstart | hover
    · simp [hop] at he
    · rw [readToken_of_startsWithDigit hstart] at he
      exact .inl ⟨hstart, (Except.error.inj he).symm⟩
    · rw [readToken_of_isOverlong hover] at he
      exact .inr ⟨hover, (Except.error.inj he).symm⟩
  · rintro (⟨hstart, rfl⟩ | ⟨hover, rfl⟩)
    · exact readToken_of_startsWithDigit hstart
    · exact readToken_of_isOverlong hover

/-! ### The first token that fails -/

theorem Result.mapM_eq_error_iff {α β : Type} {f : α → Result β} {l : List α} {e : Error} :
    l.mapM f = .error e ↔ ∃ before x after, l = before ++ x :: after ∧
      (∀ y ∈ before, ∃ b, f y = .ok b) ∧ f x = .error e := by
  induction l with
  | nil =>
    constructor
    · intro h
      cases h
    · rintro ⟨before, x, after, h, -⟩
      simp at h
  | cons y l ih =>
    rw [List.mapM_cons]
    cases hy : f y with
    | error e' =>
      show Except.error e' = Except.error e ↔ _
      rw [Except.error.injEq]
      constructor
      · rintro rfl
        exact ⟨[], y, l, rfl, by simp, hy⟩
      · rintro ⟨before, x, after, hl, hbefore, hx⟩
        rcases before with _ | ⟨z, before⟩
        · obtain ⟨rfl, -⟩ := List.cons.inj hl
          exact Except.error.inj (hy.symm.trans hx)
        · -- the first element fails, so that none before `x` can be it
          obtain ⟨rfl, -⟩ := List.cons.inj hl
          obtain ⟨b, hb⟩ := hbefore y List.mem_cons_self
          simp [hy] at hb
    | ok b =>
      have hrest : (do let bs ← l.mapM f; return b :: bs : Result (List β)) = .error e ↔
          l.mapM f = .error e := by
        cases l.mapM f with
        | ok bs => simp [bind, Except.bind, pure, Except.pure]
        | error e' => simp [bind, Except.bind]
      refine hrest.trans (ih.trans ?_)
      constructor
      · rintro ⟨before, x, after, rfl, hbefore, hx⟩
        refine ⟨y :: before, x, after, rfl, ?_, hx⟩
        intro z hz
        rcases List.mem_cons.1 hz with rfl | hz
        · exact ⟨b, hy⟩
        · exact hbefore z hz
      · rintro ⟨before, x, after, hl, hbefore, hx⟩
        rcases before with _ | ⟨z, before⟩
        · obtain ⟨rfl, -⟩ := List.cons.inj hl
          simp [hy] at hx
        · obtain ⟨rfl, rfl⟩ := List.cons.inj hl
          exact ⟨before, x, after, rfl, fun w hw => hbefore w (List.mem_cons_of_mem _ hw), hx⟩

/-- Where a list is read to its end, each element is read. -/
theorem Result.exists_eq_ok_of_mapM {α β : Type} {f : α → Result β} {l : List α} {bs : List β}
    (h : l.mapM f = .ok bs) : ∀ x ∈ l, ∃ b, f x = .ok b := by
  induction l generalizing bs with
  | nil => simp
  | cons y l ih =>
    rw [List.mapM_cons] at h
    obtain ⟨b, hb, h⟩ := Result.bind_eq_ok_iff.1 h
    obtain ⟨rest, hrest, -⟩ := Result.bind_eq_ok_iff.1 h
    intro x hx
    rcases List.mem_cons.1 hx with rfl | hx
    · exact ⟨b, hb⟩
    · exact ih hrest x hx

/-! ### Texts -/

namespace Layout

/-- Whether a layout is that of what follows the anchor of a text. -/
def IsLayoutOf (l : Layout) (text : String) : Prop :=
  text.toList = anchor ++ l.chars ∧ l.IsProper

/-- Whether the reader gets as far as the tokens of a layout: there are no strays, or it
passes over them. -/
def Passes (l : Layout) (strict : Bool) (text : String) : Prop :=
  l.IsLayoutOf text ∧ ¬ (strict = true ∧ l.strays ≠ [])

theorem isToken_of_mem {l : Layout} (h : l.IsProper) : ∀ token ∈ l.tokens, IsToken token := by
  induction l with
  | last gap => simp [tokens]
  | step gap token rest ih =>
    obtain ⟨-, htoken, hrest⟩ := h
    intro t ht
    rcases List.mem_cons.1 ht with rfl | ht
    · exact htoken
    · exact ih hrest t ht

end Layout

variable {text : String} {l : Layout} {strict : Bool}

theorem exists_isLayoutOf (h : anchor <+: text.toList) : ∃ l : Layout, l.IsLayoutOf text := by
  obtain ⟨body, hbody⟩ := h
  refine ⟨.ofPieces (pieces body), ?_, Layout.isProper_ofPieces body⟩
  rw [Layout.chars_ofPieces, flatMap_chars_pieces, hbody]

theorem extract_of_isLayoutOf (h : l.IsLayoutOf text) (strict : Bool) :
    extract text strict =
      if strict = true ∧ l.strays ≠ [] then .error (.strayText text (String.ofList l.strays))
      else l.tokens.mapM readToken := by
  obtain ⟨htext, hproper⟩ := h
  have hbody : body? text.toList = some l.chars := by rw [htext, body?_anchor_append]
  have htokens : tokensIn l.chars = l.tokens := by
    rw [tokensIn, ← Layout.tokens_ofPieces, ← Layout.eq_ofPieces hproper]
  have hstrays : straysIn l.chars = l.strays := by
    rw [straysIn, ← Layout.strays_ofPieces, ← Layout.eq_ofPieces hproper]
  rw [extract, tokenize_of_body? hbody, htokens, hstrays]
  split
  · rfl
  · rfl

theorem extract_of_passes (h : l.Passes strict text) :
    extract text strict = l.tokens.mapM readToken := by
  rw [extract_of_isLayoutOf h.1, if_neg h.2]

theorem extract_of_not_anchor (h : ¬ anchor <+: text.toList) (strict : Bool) :
    extract text strict = .error (.missingAnchor text) := by
  have hbody : body? text.toList = none := by
    unfold body?
    split
    · rename_i body htext
      exact absurd ⟨body, htext.symm⟩ h
    · rfl
  rw [extract, tokenize, hbody]
  rfl

theorem mapM_readToken_eq_error_iff {tokens : List (List Char)} {e : Error}
    (h : ∀ token ∈ tokens, IsToken token) :
    tokens.mapM readToken = .error e ↔ ∃ before token after,
      tokens = before ++ token :: after ∧
      (∀ t ∈ before, ¬ StartsWithDigit t ∧ ¬ IsOverlong t) ∧
      ((StartsWithDigit token ∧ e = .invalidSign (String.ofList token)) ∨
        (IsOverlong token ∧ e = .malformedNumber)) := by
  rw [Result.mapM_eq_error_iff]
  constructor
  · rintro ⟨before, token, after, rfl, hbefore, htoken⟩
    refine ⟨before, token, after, rfl, ?_, (readToken_eq_error_iff (h token (by simp))).1 htoken⟩
    intro t ht
    exact (readToken_eq_ok_iff (h t (by simp [ht]))).1 (hbefore t ht)
  · rintro ⟨before, token, after, rfl, hbefore, htoken⟩
    refine ⟨before, token, after, rfl, ?_, (readToken_eq_error_iff (h token (by simp))).2 htoken⟩
    intro t ht
    exact (readToken_eq_ok_iff (h t (by simp [ht]))).2 (hbefore t ht)

/-- Whether reading a text stops at a number that is too long: the reader gets as far as the
tokens, and the first one that cannot be read has a sign. -/
def StopsAtNumber (strict : Bool) (text : String) : Prop :=
  ∃ (l : Layout) (before : List (List Char)) (token : List Char) (after : List (List Char)),
    l.Passes strict text ∧ l.tokens = before ++ token :: after ∧
      (∀ t ∈ before, ¬ StartsWithDigit t ∧ ¬ IsOverlong t) ∧ IsOverlong token

theorem extract_of_stopsAtNumber (h : StopsAtNumber strict text) :
    extract text strict = .error .malformedNumber := by
  obtain ⟨l, before, token, after, hl, htokens, hbefore, htoken⟩ := h
  rw [extract_of_passes hl, mapM_readToken_eq_error_iff (Layout.isToken_of_mem hl.1.2)]
  exact ⟨before, token, after, htokens, hbefore, .inr ⟨htoken, rfl⟩⟩

/-- **The outcomes of a text**: its operations, one of three faults, or a number that is too
long. -/
theorem cases_extract (text : String) (strict : Bool) :
    (∃ ops, extract text strict = .ok ops) ∨
    extract text strict = .error (.missingAnchor text) ∨
    (∃ stray, extract text strict = .error (.strayText text stray)) ∨
    (∃ token, extract text strict = .error (.invalidSign token)) ∨
    (StopsAtNumber strict text ∧ extract text strict = .error .malformedNumber) := by
  by_cases hanchor : anchor <+: text.toList
  · obtain ⟨l, hl⟩ := exists_isLayoutOf hanchor
    by_cases hstrays : strict = true ∧ l.strays ≠ []
    · refine .inr (.inr (.inl ⟨String.ofList l.strays, ?_⟩))
      rw [extract_of_isLayoutOf hl, if_pos hstrays]
    · cases hops : extract text strict with
      | ok ops => exact .inl ⟨ops, rfl⟩
      | error e =>
        rw [extract_of_passes ⟨hl, hstrays⟩,
          mapM_readToken_eq_error_iff (Layout.isToken_of_mem hl.2)] at hops
        obtain ⟨before, token, after, htokens, hbefore, ⟨-, rfl⟩ | ⟨htoken, rfl⟩⟩ := hops
        · exact .inr (.inr (.inr (.inl ⟨_, rfl⟩)))
        · have hstops : StopsAtNumber strict text :=
            ⟨l, before, token, after, ⟨hl, hstrays⟩, htokens, hbefore, htoken⟩
          exact .inr (.inr (.inr (.inr ⟨hstops, rfl⟩)))
  · exact .inr (.inl (extract_of_not_anchor hanchor strict))

/-! ### Texts without long numbers -/

theorem Layout.infix_of_mem {l : Layout} {token : List Char} (h : token ∈ l.tokens) :
    token <:+: l.chars := by
  induction l with
  | last gap => simp [tokens] at h
  | step gap t rest ih =>
    rw [tokens] at h
    rw [chars]
    rcases List.mem_cons.1 h with rfl | h
    · exact ⟨gap, rest.chars, rfl⟩
    · obtain ⟨front, back, hrest⟩ := ih h
      exact ⟨gap ++ t ++ front, back, by simp [← hrest]⟩

/-- Whether no run of digits in a text is too long. -/
def HasShortRuns (text : String) : Prop :=
  ∀ run, run <:+: text.toList → (∀ c ∈ run, c.isDigit = true) → run.length ≤ maxDigits

theorem hasShortRuns_of_length_le (h : text.toList.length ≤ maxDigits) : HasShortRuns text := by
  intro run hrun _
  exact Nat.le_trans hrun.length_le h

/-- No token is too long where no run of digits is. -/
theorem not_isOverlong_of_mem {token : List Char} (hl : l.IsLayoutOf text)
    (hruns : HasShortRuns text) (h : token ∈ l.tokens) : ¬ IsOverlong token := by
  rintro ⟨sign, digits, unit, rfl, hdigits, hlength⟩
  have hdigitsToken : digits <:+: sign.char :: digits ++ [unit.code] :=
    ⟨[sign.char], [unit.code], rfl⟩
  have htext : l.chars <:+: text.toList := by
    rw [hl.1]
    exact (List.suffix_append _ _).isInfix
  have hle := hruns digits (hdigitsToken.trans ((Layout.infix_of_mem h).trans htext)) hdigits
  omega

theorem not_stopsAtNumber (hruns : HasShortRuns text) : ¬ StopsAtNumber strict text := by
  rintro ⟨l, before, token, after, hl, htokens, -, hlong⟩
  exact not_isOverlong_of_mem hl.1 hruns (by simp [htokens]) hlong

end RelativeTime
