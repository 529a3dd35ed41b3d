/-
Shorthand is a normal form.

Operations that are written as a shorthand text are read back from it, by a strict
reader as well as by any other, if their magnitudes are not too long to be read.  The
operations of any text are of that kind, so that writing them again gives a text that
reading and writing leave as it is.

* `readMagnitude_eq_ok_iff` : a magnitude is the text of a natural number, or nothing;
* `readToken_chars`, `isReadable_of_readToken` : reading one token back, and what a token
  that was read is like;
* `tokensIn_flatMap_chars` : the tokens of a shorthand text are those of its operations;
* `extract_shorthand` : reading undoes writing;
* `Operation.token_of_isReadable`, `toShorthand_of_isReadable` : what can be read can be
  written, and nothing else;
* `shorthand_normal_form` : the main statement.

## Design notes

A magnitude is written with the fewest digits, and at most `maxDigits` digits are read or
written.  Zeros in front, skipped text and the way in which a sign is followed by nothing are
what writing normalizes.
-/
import RelativeTime.Operation.Written
import RelativeTime.Proofs.NumberGrammar
import RelativeTime.Proofs.TokenGrammar

namespace RelativeTime

/-- Whether the magnitude of an operation is short enough to be read, and to be written. -/
def Operation.IsReadable : Operation → Prop
  | .shift _ magnitude _ => magnitude < 10 ^ maxDigits
  | .round _ => True

/-! ### Magnitudes -/

theorem length_natText_le_iff {n : Nat} :
    (natText n).length ≤ maxDigits ↔ n < 10 ^ maxDigits :=
  Nat.length_toDigits_le_iff (by decide) (by decide)

/-- Where nothing is written the magnitude is one, and else it is a number not below zero. -/
theorem readMagnitude_eq_ok_iff {middle : List Char} {magnitude : Nat} :
    readMagnitude middle = .ok magnitude ↔
      (middle = [] ∧ magnitude = 1) ∨ IsNumber middle magnitude := by
  rw [readMagnitude]
  by_cases hmiddle : middle = []
  · rw [if_pos hmiddle, hmiddle]
    simp [not_isNumber_nil, eq_comm]
  · have hnumber : (middle = [] ∧ magnitude = 1) ∨ IsNumber middle magnitude ↔
        readInt? middle = some (magnitude : Int) := by
      simp [hmiddle, readInt?_eq_some_iff]
    rw [if_neg hmiddle, hnumber]
    cases readInt? middle with
    | none => simp
    | some n =>
      rw [Option.some.injEq]
      by_cases hn : n < 0
      · -- a number below zero is read, but it is no magnitude
        simp only [if_pos hn]
        constructor
        · intro h
          cases h
        · intro h
          omega
      · simp only [if_neg hn, Except.ok.injEq]
        omega

theorem readMagnitude_lt {digits : List Char} {n : Nat} (h : readMagnitude digits = .ok n) :
    n < 10 ^ maxDigits := by
  rcases readMagnitude_eq_ok_iff.1 h with ⟨-, rfl⟩ | hnumber
  · exact Nat.one_lt_pow (by decide) (by decide)
  · exact hnumber.toNat_lt

theorem readMagnitude_natText {n : Nat} (h : n < 10 ^ maxDigits) :
    readMagnitude (natText n) = .ok n := by
  have hread : readInt? (natText n) = some (n : Int) := by
    rw [readInt?_of_isDigit fun c hc => isDigit_of_mem_natText hc,
      readNat?_natText (length_natText_le_iff.2 h)]
    rfl
  exact readMagnitude_eq_ok_iff.2 (.inr (readInt?_eq_some_iff.1 hread))

/-! ### Tokens -/

theorem isToken_chars (op : Operation) : IsToken op.chars := by
  cases op with
  | shift sign magnitude unit =>
    exact .signed sign unit (natText_ne_nil magnitude) fun c hc => isDigit_of_mem_natText hc
  | round unit => exact .round unit

theorem readUnit_code (unit : TimeUnit) : readUnit unit.code = .ok unit := by
  rw [readUnit, TimeUnit.ofCode?_code]

/-- What stands between a slash and a unit does not count. -/
theorem readToken_slash (middle : List Char) (unit : TimeUnit) :
    readToken ('/' :: middle ++ [unit.code]) = .ok (.round unit) := by
  rw [List.cons_append, readToken, List.getLastD_concat, readUnit_code]
  rfl

/-- What stands between a sign and a unit is the magnitude. -/
theorem readToken_signed (sign : Sign) (middle : List Char) (unit : TimeUnit) :
    readToken (sign.char :: middle ++ [unit.code]) =
      (readMagnitude middle).map fun magnitude => .shift sign magnitude unit := by
  rw [List.cons_append, readToken]
  · simp only [Sign.ofChar?_char, List.getLastD_concat, List.dropLast_concat, readUnit_code]
    cases readMagnitude middle with
    | ok magnitude => rfl
    | error e => rfl
  · cases sign <;> decide

/-- The token of an operation is read back. -/
theorem readToken_chars {op : Operation} (h : op.IsReadable) : readToken op.chars = .ok op := by
  cases op with
  | shift sign magnitude unit =>
    rw [Operation.chars, readToken_signed, readMagnitude_natText h]
    rfl
  | round unit => exact readToken_slash [] unit

/-- What is read from a token, of whatever form, can be written and read again. -/
theorem isReadable_of_readToken {token : List Char} {op : Operation}
    (h : readToken token = .ok op) : op.IsReadable := by
  unfold readToken at h
  split at h
  · cases h
  · obtain ⟨unit, -, h⟩ := Result.bind_eq_ok_iff.1 h
    rw [← Except.ok.inj h]
    trivial
  · split at h
    · cases h
    · obtain ⟨unit, -, h⟩ := Result.bind_eq_ok_iff.1 h
      obtain ⟨magnitude, hmagnitude, h⟩ := Result.bind_eq_ok_iff.1 h
      rw [← Except.ok.inj h]
      exact readMagnitude_lt hmagnitude

/-! ### Texts -/

theorem isToken_of_mem_map_chars {ops : List Operation} :
    ∀ token ∈ ops.map Operation.chars, IsToken token := by
  intro token htoken
  obtain ⟨op, -, rfl⟩ := List.mem_map.1 htoken
  exact isToken_chars op

theorem tokensIn_flatMap_chars (ops : List Operation) :
    tokensIn (ops.flatMap Operation.chars) = ops.map Operation.chars := by
  rw [List.flatMap_def, tokensIn_flatten isToken_of_mem_map_chars]

theorem straysIn_flatMap_chars (ops : List Operation) :
    straysIn (ops.flatMap Operation.chars) = [] := by
  rw [List.flatMap_def, straysIn_flatten isToken_of_mem_map_chars]

theorem tokenize_shorthand (ops : List Operation) (strict : Bool) :
    tokenize (shorthand ops) strict = .ok (ops.map Operation.chars) := by
  have hbody : body? (shorthand ops).toList = some (ops.flatMap Operation.chars) := by
    rw [toList_shorthand, shorthandChars, body?_anchor_append]
  rw [tokenize_of_body? hbody, straysIn_flatMap_chars, tokensIn_flatMap_chars]
  exact if_neg fun h => h.2 rfl

/-- The shorthand of one operation is its text behind the anchor. -/
theorem shorthand_singleton (op : Operation) : shorthand [op] = "now" ++ op.text := by
  rw [shorthand, shorthandChars, String.ofList_append, List.flatMap_singleton, Operation.text]
  rfl

theorem mapM_readToken_chars {ops : List Operation} (h : ∀ op ∈ ops, op.IsReadable) :
    (ops.map Operation.chars).mapM readToken = .ok ops := by
  induction ops with
  | nil => rfl
  | cons op ops ih =>
    rw [List.map_cons, List.mapM_cons, readToken_chars (h op List.mem_cons_self),
      ih fun p hp => h p (List.mem_cons_of_mem op hp)]
    rfl

/-- Reading undoes writing, whether strict or not. -/
theorem extract_shorthand {ops : List Operation} (h : ∀ op ∈ ops, op.IsReadable)
    (strict : Bool) : extract (shorthand ops) strict = .ok ops := by
  rw [extract, tokenize_shorthand]
  exact mapM_readToken_chars h

theorem isReadable_of_mapM_readToken {tokens : List (List Char)} {ops : List Operation}
    (h : tokens.mapM readToken = .ok ops) : ∀ op ∈ ops, op.IsReadable := by
  induction tokens generalizing ops with
  | nil =>
    rw [← Except.ok.inj h]
    exact fun op hop => absurd hop List.not_mem_nil
  | cons token tokens ih =>
    rw [List.mapM_cons] at h
    obtain ⟨first, hfirst, h⟩ := Result.bind_eq_ok_iff.1 h
    obtain ⟨rest, hrest, h⟩ := Result.bind_eq_ok_iff.1 h
    rw [← Except.ok.inj h]
    intro op hop
    rcases List.mem_cons.1 hop with rfl | hop
    · exact isReadable_of_readToken hfirst
    · exact ih hrest op hop

/-- The operations of a text can be written and read again. -/
theorem isReadable_of_extract {text : String} {strict : Bool} {ops : List Operation}
    (h : extract text strict = .ok ops) : ∀ op ∈ ops, op.IsReadable := by
  obtain ⟨tokens, -, h⟩ := Result.bind_eq_ok_iff.1 h
  exact isReadable_of_mapM_readToken h

/-! ### Writing -/

namespace Operation

variable {op : Operation}

/-- What can be read can be written. -/
theorem token_of_isReadable (h : op.IsReadable) : op.token = .ok op.text := by
  cases op with
  | shift sign magnitude unit =>
    rw [token, writeNat?, if_pos (length_natText_le_iff.2 h)]
    rfl
  | round unit => rfl

theorem token_of_not_isReadable (h : ¬ op.IsReadable) : op.token = .error .overlongNumber := by
  cases op with
  | shift sign magnitude unit =>
    rw [token, writeNat?, if_neg fun hlength => h (length_natText_le_iff.1 hlength)]
  | round unit => exact absurd trivial h

/-- An operation that can be written is named by its fault. -/
theorem failure_of_isReadable (h : op.IsReadable) : op.failure = .outOfRange op.text := by
  rw [failure, token_of_isReadable h]

theorem failure_of_not_isReadable (h : ¬ op.IsReadable) : op.failure = .overlongNumber := by
  rw [failure, token_of_not_isReadable h]

end Operation

theorem toShorthand_of_isReadable {ops : List Operation} (h : ∀ op ∈ ops, op.IsReadable) :
    toShorthand ops = .ok (shorthand ops) := by
  have htokens : ops.mapM Operation.token = .ok (ops.map Operation.text) := by
    induction ops with
    | nil => rfl
    | cons op ops ih =>
      obtain ⟨hop, hops⟩ := List.forall_mem_cons.1 h
      rw [List.mapM_cons, Operation.token_of_isReadable hop, ih hops]
      rfl
  have hjoin : String.join (ops.map Operation.text) =
      String.ofList (ops.flatMap Operation.chars) := by
    rw [← String.toList_inj, String.toList_join, String.toList_ofList, List.flatMap_map]
    simp only [Operation.text, String.toList_ofList]
  rw [toShorthand, htokens, shorthand, shorthandChars, String.ofList_append, ← hjoin]
  rfl

/-- **Shorthand is a normal form.**  All operations that are not too long to be read can be
written, and reading undoes writing.  The operations of a text are of that kind, so that their shorthand is
accepted by a strict reader, stands for the same operations, and does not change when it is
read and written again. -/
theorem shorthand_normal_form :
    (∀ ops : List Operation, (∀ op ∈ ops, op.IsReadable) →
      toShorthand ops = .ok (shorthand ops) ∧
      ∀ strict, extract (shorthand ops) strict = .ok ops) ∧
    (∀ (text : String) (strict : Bool) (ops : List Operation), extract text strict = .ok ops →
      extract (shorthand ops) true = .ok ops ∧
      ∀ strict', (extract (shorthand ops) strict').map shorthand = .ok (shorthand ops)) := by
  refine ⟨fun ops h => ⟨toShorthand_of_isReadable h, extract_shorthand h⟩,
    fun text strict ops h => ?_⟩
  have hread := extract_shorthand (isReadable_of_extract h)
  refine ⟨hread true, fun strict' => ?_⟩
  rw [hread strict']
  rfl

/-- Zeros in front and skipped text are gone from the shorthand. -/
theorem shorthand_normal_form_zeros :
    (∀ op ∈ [Operation.shift .minus 0 .week], op.IsReadable) ∧
    toShorthand [.shift .minus 0 .week] = .ok (shorthand [.shift .minus 0 .week]) ∧
    (∀ strict, extract (shorthand [.shift .minus 0 .week]) strict =
      .ok [.shift .minus 0 .week]) ∧
    extract "now+007d xyz/h" false = .ok [.shift .plus 7 .day, .round .hour] ∧
    shorthand [.shift .plus 7 .day, .round .hour] = "now+7d/h" ∧
    extract (shorthand [.shift .plus 7 .day, .round .hour]) true =
      .ok [.shift .plus 7 .day, .round .hour] := by
  have hreadable : ∀ op ∈ [Operation.shift .minus 0 .week], op.IsReadable := by
    intro op hop
    rw [List.mem_singleton.1 hop]
    exact Nat.pow_pos (by decide)
  have hpieces : pieces "+007d xyz/h".toList = [.token "+007d".toList, .stray ' ', .stray 'x',
      .stray 'y', .stray 'z', .token "/h".toList] := by
    decide +kernel
  have hextract : extract "now+007d xyz/h" false = .ok [.shift .plus 7 .day, .round .hour] := by
    have hbody : body? "now+007d xyz/h".toList = some "+007d xyz/h".toList := rfl
    rw [extract, tokenize_of_body? hbody, tokensIn, hpieces]
    rfl
  obtain ⟨hwritten, hread⟩ := shorthand_normal_form.1 _ hreadable
  exact ⟨hreadable, hwritten, hread, hextract, by decide,
    (shorthand_normal_form.2 _ _ _ hextract).1⟩

end RelativeTime
