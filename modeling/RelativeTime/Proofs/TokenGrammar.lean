/-
The grammar of tokens, and the one way in which a text is laid out.

A token is given by its grammar (`IsToken`): a slash and the code of a unit, or a number
of ASCII digits with the code of a unit after it and, perhaps, a sign before it.  A text
is a `Layout` of gaps and tokens in turn; the layout is proper if no token begins inside
a gap.

* `splitToken?_eq_some_iff` : splitting a token off the front follows the grammar.  In
  particular no token is the beginning of another.
* `pieces_flatten` : tokens without gaps between them are found as they are.
* `isProper_ofPieces`, `pieces_chars` : the pieces of a text make up a proper layout, and
  a proper layout has the pieces of its text.
* `tokenize_eq_tokens` : a text behind the anchor has one proper layout, and its tokens
  and its gaps are what the reader finds.

## Design notes

A token that begins inside a gap may end beyond it, so `NoTokenIn` looks at the gap
together with all that follows: in `+4d` the sign alone is no gap before `4d`.
-/
import Mathlib.Data.List.TakeWhile
import RelativeTime.Operation.Reading

namespace RelativeTime

/-- The texts of tokens. -/
inductive IsToken : List Char → Prop
  | shift {sign digits : List Char} (unit : TimeUnit)
      (hsign : sign = [] ∨ sign = ['+'] ∨ sign = ['-']) (hne : digits ≠ [])
      (hdigits : ∀ c ∈ digits, c.isDigit = true) : IsToken (sign ++ digits ++ [unit.code])
  | round (unit : TimeUnit) : IsToken ['/', unit.code]

theorem IsToken.signed (sign : Sign) {digits : List Char} (unit : TimeUnit) (hne : digits ≠ [])
    (hdigits : ∀ c ∈ digits, c.isDigit = true) :
    IsToken (sign.char :: digits ++ [unit.code]) := by
  have hsign : [sign.char] = [] ∨ [sign.char] = ['+'] ∨ [sign.char] = ['-'] := by
    cases sign
    · exact .inr (.inl rfl)
    · exact .inr (.inr rfl)
  exact .shift unit hsign hne hdigits

/-! ### Splitting a token off the front -/

theorem isUnitCode_iff {c : Char} : isUnitCode c = true ↔ ∃ unit : TimeUnit, unit.code = c := by
  rw [isUnitCode, Option.isSome_iff_exists]
  constructor
  · rintro ⟨unit, h⟩
    exact ⟨unit, TimeUnit.code_of_ofCode? h⟩
  · rintro ⟨unit, rfl⟩
    exact ⟨unit, TimeUnit.ofCode?_code unit⟩

theorem isDigit_code (unit : TimeUnit) : unit.code.isDigit = false := by
  cases unit <;> decide

theorem splitSign_fst (text : List Char) :
    (splitSign text).1 = [] ∨ (splitSign text).1 = ['+'] ∨ (splitSign text).1 = ['-'] := by
  unfold splitSign
  split
  · exact .inr (.inl rfl)
  · exact .inr (.inr rfl)
  · exact .inl rfl

/-- A sign is split off in front of a digit. -/
theorem splitSign_append {sign : List Char} (hsign : sign = [] ∨ sign = ['+'] ∨ sign = ['-'])
    {c : Char} (hc : c.isDigit = true) (rest : List Char) :
    splitSign (sign ++ c :: rest) = (sign, c :: rest) := by
  rcases hsign with rfl | rfl | rfl
  · rw [List.nil_append, splitSign]
    · rintro text h
      obtain ⟨rfl, -⟩ := List.cons.inj h
      exact absurd hc (by decide)
    · rintro text h
      obtain ⟨rfl, -⟩ := List.cons.inj h
      exact absurd hc (by decide)
  · rfl
  · rfl

theorem splitShift?_append {sign digits : List Char} (unit : TimeUnit)
    (hsign : sign = [] ∨ sign = ['+'] ∨ sign = ['-']) (hne : digits ≠ [])
    (hdigits : ∀ c ∈ digits, c.isDigit = true) (tail : List Char) :
    splitShift? (sign ++ digits ++ [unit.code] ++ tail) =
      some (sign ++ digits ++ [unit.code], tail) := by
  obtain ⟨c, rest, rfl⟩ := List.exists_cons_of_ne_nil hne
  have hsplit : splitSign (sign ++ (c :: rest) ++ [unit.code] ++ tail) =
      (sign, (c :: rest) ++ unit.code :: tail) := by
    rw [List.append_assoc, List.append_assoc]
    exact splitSign_append hsign (hdigits c List.mem_cons_self) _
  -- The digits end where the unit is, for no unit has a digit as its code.
  have htake : ((c :: rest) ++ unit.code :: tail).takeWhile Char.isDigit = c :: rest := by
    rw [List.takeWhile_append_of_pos hdigits, List.takeWhile_cons_of_neg, List.append_nil]
    simp [isDigit_code]
  have hdrop : ((c :: rest) ++ unit.code :: tail).dropWhile Char.isDigit = unit.code :: tail := by
    rw [List.dropWhile_append_of_pos hdigits, List.dropWhile_cons_of_neg]
    simp [isDigit_code]
  simp only [splitShift?, hsplit, htake, hdrop]
  rw [if_pos ⟨hne, isUnitCode_iff.2 ⟨unit, rfl⟩⟩]

theorem isToken_of_splitShift? {text token tail : List Char}
    (h : splitShift? text = some (token, tail)) : IsToken token := by
  simp only [splitShift?] at h
  split at h
  · rename_i c rest hrest
    split at h
    · rename_i hcond
      obtain ⟨unit, rfl⟩ := isUnitCode_iff.1 hcond.2
      obtain ⟨rfl, -⟩ := Prod.mk.inj (Option.some.inj h)
      refine .shift unit (splitSign_fst text) hcond.1 fun d hd => ?_
      exact List.mem_takeWhile_imp hd
    · cases h
  · cases h

/-- A token is split off exactly where the grammar has one. -/
theorem splitToken?_eq_some_iff {text token tail : List Char} :
    splitToken? text = some (token, tail) ↔ IsToken token ∧ text = token ++ tail := by
  constructor
  · intro h
    refine ⟨?_, (eq_append_of_splitToken? h).1⟩
    rw [splitToken?.eq_def] at h
    split at h
    · split at h
      · rename_i hc
        obtain ⟨unit, rfl⟩ := isUnitCode_iff.1 hc
        obtain ⟨rfl, -⟩ := Prod.mk.inj (Option.some.inj h)
        exact .round unit
      · cases h
    · exact isToken_of_splitShift? h
  · rintro ⟨htoken, rfl⟩
    cases htoken with
    | round unit => exact if_pos (isUnitCode_iff.2 ⟨unit, rfl⟩)
    | @shift sign digits unit hsign hne hdigits =>
      rw [splitToken?]
      · exact splitShift?_append unit hsign hne hdigits tail
      · -- a shift starts with its sign or with a digit, and so with no slash
        rintro c rest h
        obtain ⟨d, rest', rfl⟩ := List.exists_cons_of_ne_nil hne
        have hd := hdigits d List.mem_cons_self
        rcases hsign with rfl | rfl | rfl
        · obtain ⟨rfl, -⟩ := List.cons.inj h
          exact absurd hd (by decide)
        · exact absurd (List.cons.inj h).1 (by decide)
        · exact absurd (List.cons.inj h).1 (by decide)

/-! ### Layouts -/

/-- The characters of a text, as gaps and tokens in turn. -/
inductive Layout
  | last (gap : List Char)
  | step (gap token : List Char) (rest : Layout)

/-- Some token stands at the start of a text. -/
def BeginsWithToken (text : List Char) : Prop :=
  ∃ token tail, IsToken token ∧ text = token ++ tail

/-- No token begins at any position inside a gap that `rest` follows. -/
def NoTokenIn (gap rest : List Char) : Prop :=
  ∀ i, i < gap.length → ¬ BeginsWithToken ((gap ++ rest).drop i)

namespace Layout

/-- The text that is laid out. -/
def chars : Layout → List Char
  | last gap => gap
  | step gap token rest => gap ++ token ++ rest.chars

/-- The tokens of a layout, in order. -/
def tokens : Layout → List (List Char)
  | last _ => []
  | step _ token rest => token :: rest.tokens

/-- The gaps of a layout, one after the other. -/
def strays : Layout → List Char
  | last gap => gap
  | step gap _ rest => gap ++ rest.strays

/-- The tokens are tokens, and no other one begins inside a gap. -/
def IsProper : Layout → Prop
  | last gap => NoTokenIn gap []
  | step gap token rest => NoTokenIn gap (token ++ rest.chars) ∧ IsToken token ∧ rest.IsProper

/-- A layout with another character in front, which belongs to the first gap. -/
def cons (c : Char) : Layout → Layout
  | last gap => last (c :: gap)
  | step gap token rest => step (c :: gap) token rest

/-- The layout that pieces make up. -/
def ofPieces : List Piece → Layout
  | [] => last []
  | .stray c :: ps => (ofPieces ps).cons c
  | .token token :: ps => step [] token (ofPieces ps)

/-- The pieces of a layout. -/
def toPieces : Layout → List Piece
  | last gap => gap.map .stray
  | step gap token rest => gap.map .stray ++ .token token :: rest.toPieces

end Layout

theorem beginsWithToken_iff {text : List Char} :
    BeginsWithToken text ↔ splitToken? text ≠ none := by
  rw [Option.ne_none_iff_exists']
  constructor
  · rintro ⟨token, tail, h⟩
    exact ⟨(token, tail), splitToken?_eq_some_iff.2 h⟩
  · rintro ⟨⟨token, tail⟩, h⟩
    exact ⟨token, tail, splitToken?_eq_some_iff.1 h⟩

theorem noTokenIn_nil (rest : List Char) : NoTokenIn [] rest :=
  fun i hi => absurd hi (Nat.not_lt_zero i)

theorem noTokenIn_cons {c : Char} {gap rest : List Char} :
    NoTokenIn (c :: gap) rest ↔
      ¬ BeginsWithToken (c :: (gap ++ rest)) ∧ NoTokenIn gap rest := by
  constructor
  · intro h
    exact ⟨h 0 (Nat.zero_lt_succ _), fun i hi => h (i + 1) (Nat.succ_lt_succ hi)⟩
  · rintro ⟨hc, hgap⟩ i hi
    cases i with
    | zero => exact hc
    | succ i => exact hgap i (Nat.lt_of_succ_lt_succ hi)

theorem pieces_of_splitToken? {text token tail : List Char}
    (h : splitToken? text = some (token, tail)) : pieces text = .token token :: pieces tail := by
  have hlt := length_lt_of_splitToken? h
  cases text with
  | nil => exact absurd hlt (Nat.not_lt_zero _)
  | cons c rest =>
    rw [pieces]
    split
    · rename_i token' tail' h'
      obtain ⟨rfl, rfl⟩ := Prod.mk.inj (Option.some.inj (h'.symm.trans h))
      rfl
    · rename_i h'
      rw [h] at h'
      cases h'

theorem pieces_cons_of_eq_none {c : Char} {rest : List Char}
    (h : splitToken? (c :: rest) = none) : pieces (c :: rest) = .stray c :: pieces rest := by
  rw [pieces]
  split
  · rename_i token tail h'
    rw [h] at h'
    cases h'
  · rfl

/-- Tokens that follow each other without a gap are found as they are. -/
theorem pieces_flatten {tokens : List (List Char)} (h : ∀ token ∈ tokens, IsToken token) :
    pieces tokens.flatten = tokens.map .token := by
  induction tokens with
  | nil => simp [pieces]
  | cons token tokens ih =>
    obtain ⟨htoken, htokens⟩ := List.forall_mem_cons.1 h
    have hsplit : splitToken? (token ++ tokens.flatten) = some (token, tokens.flatten) :=
      splitToken?_eq_some_iff.2 ⟨htoken, rfl⟩
    rw [List.flatten_cons, pieces_of_splitToken? hsplit, ih htokens, List.map_cons]

theorem tokensIn_flatten {tokens : List (List Char)} (h : ∀ token ∈ tokens, IsToken token) :
    tokensIn tokens.flatten = tokens := by
  rw [tokensIn, pieces_flatten h, List.filterMap_map]
  exact List.filterMap_some

theorem straysIn_flatten {tokens : List (List Char)} (h : ∀ token ∈ tokens, IsToken token) :
    straysIn tokens.flatten = [] := by
  rw [straysIn, pieces_flatten h, List.filterMap_map]
  exact List.filterMap_eq_nil_iff.2 fun _ _ => rfl

namespace Layout

theorem chars_cons (c : Char) (l : Layout) : (l.cons c).chars = c :: l.chars := by
  cases l <;> rfl

theorem tokens_cons (c : Char) (l : Layout) : (l.cons c).tokens = l.tokens := by
  cases l <;> rfl

theorem strays_cons (c : Char) (l : Layout) : (l.cons c).strays = c :: l.strays := by
  cases l <;> rfl

theorem isProper_cons {c : Char} {l : Layout} :
    (l.cons c).IsProper ↔ ¬ BeginsWithToken (c :: l.chars) ∧ l.IsProper := by
  cases l with
  | last gap =>
    refine noTokenIn_cons.trans ?_
    rw [List.append_nil]
    rfl
  | step gap token rest =>
    rw [cons, IsProper, noTokenIn_cons, and_assoc, chars, List.append_assoc]
    rfl

theorem chars_ofPieces (ps : List Piece) : (ofPieces ps).chars = ps.flatMap Piece.chars := by
  induction ps with
  | nil => rfl
  | cons p ps ih =>
    cases p with
    | token token => exact congrArg (token ++ ·) ih
    | stray c => exact (chars_cons c _).trans (congrArg (c :: ·) ih)

theorem tokens_ofPieces (ps : List Piece) :
    (ofPieces ps).tokens = ps.filterMap Piece.token? := by
  induction ps with
  | nil => rfl
  | cons p ps ih =>
    cases p with
    | token token => exact congrArg (token :: ·) ih
    | stray c => exact (tokens_cons c _).trans ih

theorem strays_ofPieces (ps : List Piece) :
    (ofPieces ps).strays = ps.filterMap Piece.stray? := by
  induction ps with
  | nil => rfl
  | cons p ps ih =>
    cases p with
    | token token => exact ih
    | stray c => exact (strays_cons c _).trans (congrArg (c :: ·) ih)

/-- A layout is made up of its pieces. -/
theorem ofPieces_toPieces (l : Layout) : ofPieces l.toPieces = l := by
  induction l with
  | last gap =>
    rw [toPieces]
    induction gap with
    | nil => rfl
    | cons c gap ih => exact congrArg (cons c) ih
  | step gap token rest ih =>
    rw [toPieces]
    induction gap with
    | nil => exact congrArg (step [] token) ih
    | cons c gap ihgap => exact congrArg (cons c) ihgap

/-- The reader lays a text out properly. -/
theorem isProper_ofPieces (text : List Char) : (ofPieces (RelativeTime.pieces text)).IsProper := by
  -- A character is left over just where no token begins, so a gap grows without one.
  fun_induction RelativeTime.pieces text with
  | case1 => exact noTokenIn_nil []
  | case2 c rest token tail h ih =>
    exact ⟨noTokenIn_nil _, (splitToken?_eq_some_iff.1 h).1, ih⟩
  | case3 c rest h ih =>
    refine isProper_cons.2 ⟨?_, ih⟩
    rw [chars_ofPieces, flatMap_chars_pieces, beginsWithToken_iff]
    exact fun hne => hne h

/-- The reader passes over a gap. -/
theorem pieces_append_of_noTokenIn {gap rest : List Char} (h : NoTokenIn gap rest) :
    RelativeTime.pieces (gap ++ rest) = gap.map .stray ++ RelativeTime.pieces rest := by
  induction gap with
  | nil => rfl
  | cons c gap ih =>
    obtain ⟨hc, hgap⟩ := noTokenIn_cons.1 h
    rw [beginsWithToken_iff, not_not] at hc
    rw [List.cons_append, pieces_cons_of_eq_none hc, ih hgap]
    rfl

/-- The reader finds the pieces of a proper layout. -/
theorem pieces_chars {l : Layout} (h : l.IsProper) : RelativeTime.pieces l.chars = l.toPieces := by
  induction l with
  | last gap =>
    have hgap := pieces_append_of_noTokenIn h
    rw [List.append_nil, RelativeTime.pieces, List.append_nil] at hgap
    exact hgap
  | step gap token rest ih =>
    obtain ⟨hgap, htoken, hrest⟩ := h
    have hsplit : splitToken? (token ++ rest.chars) = some (token, rest.chars) :=
      splitToken?_eq_some_iff.2 ⟨htoken, rfl⟩
    rw [chars, List.append_assoc, pieces_append_of_noTokenIn hgap, pieces_of_splitToken? hsplit,
      ih hrest]
    rfl

/-- There is only one proper layout of a text. -/
theorem eq_ofPieces {l : Layout} (h : l.IsProper) :
    l = ofPieces (RelativeTime.pieces l.chars) := by
  rw [pieces_chars h, ofPieces_toPieces]

end Layout

/-! ### Tokenizing -/

theorem body?_anchor_append (body : List Char) : body? (anchor ++ body) = some body := rfl

theorem tokenize_of_body? {text : String} {body : List Char} (h : body? text.toList = some body)
    (strict : Bool) :
    tokenize text strict =
      if strict ∧ straysIn body ≠ [] then
        .error (.strayText text (String.ofList (straysIn body)))
      else .ok (tokensIn body) := by
  rw [tokenize, h]

/-- **What follows the anchor is laid out in exactly one way** as gaps and tokens such that
no token begins inside a gap.  The reader finds the tokens of that layout; a strict one
refuses the text just when there are characters in the gaps, and names them. -/
theorem tokenize_eq_tokens (text : String) (body : List Char) (h : text.toList = anchor ++ body) :
    ∃ l : Layout, (l.chars = body ∧ l.IsProper) ∧
      (∀ l' : Layout, l'.chars = body ∧ l'.IsProper → l' = l) ∧
      tokenize text false = .ok l.tokens ∧
      (l.strays = [] → tokenize text true = .ok l.tokens) ∧
      (l.strays ≠ [] → tokenize text true = .error (.strayText text (String.ofList l.strays))) := by
  have hbody : body? text.toList = some body := by rw [h, body?_anchor_append]
  have htokens : (Layout.ofPieces (pieces body)).tokens = tokensIn body :=
    Layout.tokens_ofPieces _
  have hstrays : (Layout.ofPieces (pieces body)).strays = straysIn body :=
    Layout.strays_ofPieces _
  refine ⟨.ofPieces (pieces body), ⟨?_, Layout.isProper_ofPieces body⟩, ?_, ?_, ?_, ?_⟩
  · rw [Layout.chars_ofPieces, flatMap_chars_pieces]
  · rintro l' ⟨rfl, hproper⟩
    exact Layout.eq_ofPieces hproper
  · rw [tokenize_of_body? hbody, if_neg (by simp), htokens]
  · intro hnil
    rw [hstrays] at hnil
    rw [tokenize_of_body? hbody, if_neg (by simp [hnil]), htokens]
  · intro hne
    rw [hstrays] at hne
    rw [tokenize_of_body? hbody, if_pos ⟨rfl, hne⟩, hstrays]

/-- A sign that no number follows, and the blank after it, are in a gap; the token after
them has no sign. -/
theorem tokenize_eq_tokens_gap :
    "now-4d+ 3h".toList = anchor ++ ['-', '4', 'd', '+', ' ', '3', 'h'] ∧
    ∃ l : Layout, (l.chars = ['-', '4', 'd', '+', ' ', '3', 'h'] ∧ l.IsProper) ∧
      (∀ l' : Layout, l'.chars = ['-', '4', 'd', '+', ' ', '3', 'h'] ∧ l'.IsProper → l' = l) ∧
      tokenize "now-4d+ 3h" false = .ok l.tokens ∧
      (l.strays = [] → tokenize "now-4d+ 3h" true = .ok l.tokens) ∧
      (l.strays ≠ [] →
        tokenize "now-4d+ 3h" true = .error (.strayText "now-4d+ 3h" (String.ofList l.strays))) :=
  ⟨by decide, tokenize_eq_tokens "now-4d+ 3h" _ (by decide)⟩

end RelativeTime
