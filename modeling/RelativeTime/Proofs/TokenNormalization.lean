/-
What a token of any form stands for.

The reader of tokens takes far more than the tokens of texts: blanks, a second sign, zeros,
underscores and digits of any script in its number, and any characters at all behind a slash.
What it reads has one plain token, in which nothing of this is left.

* `readToken_eq_ok_iff_isReadAs` : the tokens of an operation, by their grammar (`IsReadAs`);
* `isPlain_natText` : a number is written without zeros in front;
* `operationOf_normalizes` : the main statement.

## Design notes

A second sign may make the number one below zero, which is no magnitude.  Hence `IsReadAs` asks
for the text of a natural number: `+-0d` has one, and `+-1d` has not.
-/
import RelativeTime.Proofs.NormalForm

namespace RelativeTime

/-! ### The tokens of an operation -/

theorem code_of_readUnit {c : Char} {unit : TimeUnit} (h : readUnit c = .ok unit) :
    unit.code = c := by
  rw [readUnit] at h
  split at h
  · rename_i u hu
    rw [← Except.ok.inj h]
    exact TimeUnit.code_of_ofCode? hu
  · cases h

theorem code_ne_char (unit : TimeUnit) (sign : Sign) : unit.code ≠ sign.char := by
  cases unit <;> cases sign <;> decide

theorem code_ne_slash (unit : TimeUnit) : unit.code ≠ '/' := by
  cases unit <;> decide

/-- The unit at the end of a token does not stand at its start as well. -/
theorem exists_eq_append_of_readUnit {first : Char} {rest : List Char} {unit : TimeUnit}
    (hfirst : unit.code ≠ first) (h : readUnit (rest.getLastD first) = .ok unit) :
    ∃ middle, rest = middle ++ [unit.code] := by
  have hcode := code_of_readUnit h
  rcases List.eq_nil_or_concat rest with rfl | ⟨middle, c, rfl⟩
  · exact absurd hcode hfirst
  · rw [List.concat_eq_append, List.getLastD_concat] at hcode
    exact ⟨middle, by rw [hcode, List.concat_eq_append]⟩

/-- The tokens that stand for an operation.  Between a slash and a unit there may be anything,
and between a sign and a unit nothing, which means one, or the text of a natural number. -/
inductive IsReadAs : List Char → Operation → Prop
  | round (middle : List Char) (unit : TimeUnit) :
      IsReadAs ('/' :: middle ++ [unit.code]) (.round unit)
  | one (sign : Sign) (unit : TimeUnit) : IsReadAs [sign.char, unit.code] (.shift sign 1 unit)
  | shift (sign : Sign) {middle : List Char} {magnitude : Nat} (unit : TimeUnit)
      (h : IsNumber middle magnitude) :
      IsReadAs (sign.char :: middle ++ [unit.code]) (.shift sign magnitude unit)

/-- The tokens that are read as an operation are those of the grammar. -/
theorem readToken_eq_ok_iff_isReadAs {token : List Char} {op : Operation} :
    readToken token = .ok op ↔ IsReadAs token op := by
  constructor
  · intro h
    unfold readToken at h
    split at h
    · cases h
    · obtain ⟨unit, hunit, hop⟩ := Result.bind_eq_ok_iff.1 h
      obtain ⟨middle, rfl⟩ := exists_eq_append_of_readUnit (code_ne_slash unit) hunit
      rw [← Except.ok.inj hop]
      exact .round middle unit
    · split at h
      · cases h
      · rename_i sign hsign
        obtain rfl := Sign.char_of_ofChar? hsign
        obtain ⟨unit, hunit, hrest⟩ := Result.bind_eq_ok_iff.1 h
        obtain ⟨magnitude, hmagnitude, hop⟩ := Result.bind_eq_ok_iff.1 hrest
        obtain ⟨middle, rfl⟩ := exists_eq_append_of_readUnit (code_ne_char unit sign) hunit
        rw [List.dropLast_concat] at hmagnitude
        rw [← Except.ok.inj hop]
        rcases readMagnitude_eq_ok_iff.1 hmagnitude with ⟨rfl, rfl⟩ | hnumber
        · exact .one sign unit
        · exact .shift sign unit hnumber
  · intro h
    cases h with
    | round middle unit => exact readToken_slash middle unit
    | one sign unit => exact readToken_signed sign [] unit
    | shift sign unit h =>
      rw [readToken_signed, readMagnitude_eq_ok_iff.2 (.inr h)]
      rfl

/-- A shift stands between its sign and its unit. -/
theorem IsReadAs.exists_middle {token : List Char} {sign : Sign} {magnitude : Nat}
    {unit : TimeUnit} (h : IsReadAs token (.shift sign magnitude unit)) :
    ∃ middle, token = sign.char :: middle ++ [unit.code] ∧
      (middle = [] → magnitude = 1) ∧ (middle ≠ [] → IsNumber middle magnitude) := by
  cases h with
  | one => exact ⟨[], rfl, fun _ => rfl, fun hne => absurd rfl hne⟩
  | @shift _ middle _ _ h =>
    refine ⟨middle, rfl, ?_, fun _ => h⟩
    rintro rfl
    exact absurd h not_isNumber_nil

/-! ### Plain tokens -/

/-- The texts of a number in ASCII digits, with no zero in front of other digits. -/
inductive IsPlain : List Char → Prop
  | zero : IsPlain ['0']
  | positive {c : Char} {rest : List Char} (hne : c ≠ '0')
      (hdigits : ∀ d ∈ c :: rest, d.isDigit = true) : IsPlain (c :: rest)

/-- The tokens with a sign and a plain number or with a slash, and a unit at the end. -/
inductive IsPlainToken : List Char → Prop
  | shift (sign : Sign) {digits : List Char} (unit : TimeUnit) (h : IsPlain digits) :
      IsPlainToken (sign.char :: digits ++ [unit.code])
  | round (unit : TimeUnit) : IsPlainToken ['/', unit.code]

/-- The first digit of a number is not zero, unless the number is. -/
theorem exists_natText_eq_cons {n : Nat} (h : 0 < n) :
    ∃ c rest, natText n = c :: rest ∧ c ≠ '0' := by
  -- All digits but the last are those of the tenth part.
  induction n using Nat.strongRecOn with
  | ind n ih =>
    rw [natText]
    by_cases hn : n < 10
    · refine ⟨n.digitChar, [], Nat.toDigits_of_lt_base hn, ?_⟩
      rw [Ne, Nat.digitChar_eq_zero]
      omega
    · obtain ⟨c, rest, hrest, hc⟩ := ih (n / 10) (by omega) (by omega)
      refine ⟨c, rest ++ [(n % 10).digitChar], ?_, hc⟩
      rw [Nat.toDigits_of_base_le (by decide) (by omega), ← natText, hrest, List.cons_append]

theorem isPlain_natText (n : Nat) : IsPlain (natText n) := by
  rcases Nat.eq_zero_or_pos n with rfl | hn
  · exact .zero
  · obtain ⟨c, rest, htext, hc⟩ := exists_natText_eq_cons hn
    have hdigits : ∀ d ∈ natText n, d.isDigit = true := fun d hd => isDigit_of_mem_natText hd
    rw [htext] at hdigits ⊢
    exact .positive hc hdigits

theorem isPlainToken_chars (op : Operation) : IsPlainToken op.chars := by
  cases op with
  | shift sign magnitude unit => exact .shift sign unit (isPlain_natText magnitude)
  | round unit => exact .round unit

/-- Behind the anchor, a strict reader finds the token of an operation and nothing else. -/
theorem tokensOf_text (op : Operation) :
    tokensOf (.text ("now" ++ op.text)) (.bool true) = .ok [op.text] := by
  rw [tokensOf, ← shorthand_singleton, tokenize_shorthand]
  rfl

/-- **Reading a token normalizes it.**  Whatever the token is like, the operation that is read
from it can be written.  Its own token is plain, is read as the same operation, and is the one
token of the text that it makes up behind the anchor, for a strict reader as well.  A shift has its sign from the
first character and its unit from the last one.  What stands between them is the text of its
magnitude, which is not too long, or else nothing, and the magnitude is one. -/
theorem operationOf_normalizes {text : String} {op : Operation}
    (h : operationOf (.text text) = .ok op) :
    op.token = .ok op.text ∧
    IsPlainToken op.text.toList ∧
    operationOf (.text op.text) = .ok op ∧
    tokensOf (.text ("now" ++ op.text)) (.bool true) = .ok [op.text] ∧
    ∀ sign magnitude unit, op = .shift sign magnitude unit →
      magnitude < 10 ^ maxDigits ∧
      ∃ middle, text.toList = sign.char :: middle ++ [unit.code] ∧
        (middle = [] → magnitude = 1) ∧ (middle ≠ [] → IsNumber middle magnitude) := by
  have hread : readToken text.toList = .ok op := h
  have hreadable := isReadable_of_readToken hread
  have hchars : op.text.toList = op.chars := String.toList_ofList
  refine ⟨Operation.token_of_isReadable hreadable, ?_, ?_, tokensOf_text op, ?_⟩
  · rw [hchars]
    exact isPlainToken_chars op
  · rw [operationOf, hchars]
    exact readToken_chars hreadable
  · rintro sign magnitude unit rfl
    exact ⟨hreadable, (readToken_eq_ok_iff_isReadAs.1 hread).exists_middle⟩

/-- A number with a blank, a second sign, a zero, an underscore and a digit of another script. -/
theorem operationOf_normalizes_underscore :
    operationOf (.text "-\u00A0+0_\u0663 d") = .ok (.shift .minus 3 .day) ∧
    Operation.token (.shift .minus 3 .day) = .ok "-3d" ∧
    IsPlainToken "-3d".toList ∧
    operationOf (.text "-3d") = .ok (.shift .minus 3 .day) ∧
    tokensOf (.text "now-3d") (.bool true) = .ok ["-3d"] ∧
    3 < 10 ^ maxDigits ∧
    ∃ middle, "-\u00A0+0_\u0663 d".toList = '-' :: middle ++ ['d'] ∧
      (middle = [] → 3 = 1) ∧ (middle ≠ [] → IsNumber middle 3) := by
  have hread : operationOf (.text "-\u00A0+0_\u0663 d") = .ok (.shift .minus 3 .day) := rfl
  obtain ⟨htoken, hplain, hagain, htokens, hshift⟩ := operationOf_normalizes hread
  exact ⟨hread, htoken, hplain, hagain, htokens, hshift .minus 3 .day rfl⟩

end RelativeTime
