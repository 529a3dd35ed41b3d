/-
The grammar of numbers, and what is read by it.

The reader of numbers looks at a text from its two ends: it takes the blanks off, then a sign,
and asks whether digits are left.  The grammar (`IsNumber`) puts the parts together: blanks,
perhaps a sign, digits of any script between which single underscores may stand, and blanks.

* `digitValues?_eq_some_iff`, `readInt?_eq_some_iff` : the texts that are read are those of the
  grammar, with the number that it gives them;
* `IsNumber.toNat_lt` : a number is less than the power of ten with as many zeros as it may have
  digits;
* `readInt?_of_isDigit` : the usual digits alone are read as a natural number.

## Design notes

That the ends of a number can be found is due to `isBlank_of_digitValue?` and `isBlank_char`: no
digit and no sign is blank.  A sign alone, an underscore at an end and two in a row are in no
text of the grammar, and zeros in front count for the length of a number.
-/
import Mathlib.Algebra.Group.Nat.Defs
import Mathlib.Data.List.TakeWhile
import RelativeTime.Operation.Basic

namespace RelativeTime

/-- Digits of any script, with single underscores between some of them, and their values. -/
inductive IsDigits : List Char → List Nat → Prop
  | last {c : Char} {d : Nat} (hc : digitValue? c = some d) : IsDigits [c] [d]
  | next {c : Char} {d : Nat} {cs : List Char} {ds : List Nat} (hc : digitValue? c = some d)
      (h : IsDigits cs ds) : IsDigits (c :: cs) (d :: ds)
  | underscore {c : Char} {d : Nat} {cs : List Char} {ds : List Nat}
      (hc : digitValue? c = some d) (h : IsDigits cs ds) : IsDigits (c :: '_' :: cs) (d :: ds)

/-- Not too many digits, with a sign in front or none, and the number that they make up. -/
inductive IsBareNumber : List Char → Int → Prop
  | unsigned {cs : List Char} {ds : List Nat} (h : IsDigits cs ds)
      (hlength : ds.length ≤ maxDigits) : IsBareNumber cs (ofDigitValues ds)
  | signed (sign : Sign) {cs : List Char} {ds : List Nat} (h : IsDigits cs ds)
      (hlength : ds.length ≤ maxDigits) :
      IsBareNumber (sign.char :: cs) (sign.apply (ofDigitValues ds))

/-- The texts of a number: there may be blanks around it. -/
def IsNumber (text : List Char) (n : Int) : Prop :=
  ∃ front bare back, text = front ++ bare ++ back ∧ (∀ c ∈ front, isBlank c = true) ∧
    (∀ c ∈ back, isBlank c = true) ∧ IsBareNumber bare n

namespace IsDigits

variable {cs : List Char} {ds : List Nat}

theorem exists_first (h : IsDigits cs ds) :
    ∃ c rest d, cs = c :: rest ∧ digitValue? c = some d := by
  cases h with
  | last hc => exact ⟨_, _, _, rfl, hc⟩
  | next hc => exact ⟨_, _, _, rfl, hc⟩
  | underscore hc => exact ⟨_, _, _, rfl, hc⟩

theorem exists_last (h : IsDigits cs ds) :
    ∃ front c d, cs = front ++ [c] ∧ digitValue? c = some d := by
  induction h with
  | @last c d hc => exact ⟨[], c, d, rfl, hc⟩
  | @next c _ _ _ _ _ ih =>
    obtain ⟨front, e, d, rfl, he⟩ := ih
    exact ⟨c :: front, e, d, rfl, he⟩
  | @underscore c _ _ _ _ _ ih =>
    obtain ⟨front, e, d, rfl, he⟩ := ih
    exact ⟨c :: '_' :: front, e, d, rfl, he⟩

theorem lt_ten (h : IsDigits cs ds) : ∀ d ∈ ds, d < 10 := by
  induction h with
  | last hc =>
    rw [List.forall_mem_singleton]
    exact digitValue?_lt hc
  | next hc _ ih => exact List.forall_mem_cons.2 ⟨digitValue?_lt hc, ih⟩
  | underscore hc _ ih => exact List.forall_mem_cons.2 ⟨digitValue?_lt hc, ih⟩

end IsDigits

theorem digitValue?_underscore : digitValue? '_' = none := by
  decide

theorem cons_eq_some_iff {a : Option Nat} {r : Option (List Nat)} {ds : List Nat} :
    (do let d ← a; let ds' ← r; return d :: ds') = some ds ↔
      ∃ d ds', a = some d ∧ r = some ds' ∧ d :: ds' = ds := by
  simp only [Option.bind_eq_bind, Option.bind_eq_some_iff, Option.pure_def, Option.some.injEq]
  constructor
  · rintro ⟨d, hd, ds', hds', h⟩
    exact ⟨d, ds', hd, hds', h⟩
  · rintro ⟨d, ds', hd, hds', h⟩
    exact ⟨d, hd, ds', hds', h⟩

theorem digitValues?_eq_some_iff {s : List Char} {ds : List Nat} :
    digitValues? s = some ds ↔ IsDigits s ds := by
  constructor
  · intro h
    fun_induction digitValues? s generalizing ds with
    | case1 => cases h
    | case2 c =>
      obtain ⟨d, hd, rfl⟩ := Option.map_eq_some_iff.1 h
      exact .last hd
    | case3 c rest ih =>
      obtain ⟨d, ds', hd, hds', rfl⟩ := cons_eq_some_iff.1 h
      exact .underscore hd (ih hds')
    | case4 c rest h1 h2 ih =>
      obtain ⟨d, ds', hd, hds', rfl⟩ := cons_eq_some_iff.1 h
      exact .next hd (ih hds')
  · intro h
    induction h with
    | last hc => rw [digitValues?, hc, Option.map_some]
    | next hc h ih =>
      obtain ⟨e, rest, _, rfl, he⟩ := h.exists_first
      rw [digitValues?]
      · exact cons_eq_some_iff.2 ⟨_, _, hc, ih, rfl⟩
      · simp
      · -- what follows starts with a digit, and so with no underscore
        rintro rest' h'
        obtain ⟨rfl, -⟩ := List.cons.inj h'
        simp [digitValue?_underscore] at he
    | underscore hc h ih =>
      rw [digitValues?]
      exact cons_eq_some_iff.2 ⟨_, _, hc, ih, rfl⟩

theorem readNat?_eq_some_iff {s : List Char} {n : Nat} :
    readNat? s = some n ↔
      ∃ ds, IsDigits s ds ∧ ds.length ≤ maxDigits ∧ ofDigitValues ds = n := by
  simp only [readNat?, Option.bind_eq_bind, Option.bind_eq_some_iff, digitValues?_eq_some_iff]
  constructor
  · rintro ⟨ds, hds, h⟩
    split at h
    · rename_i hlength
      exact ⟨ds, hds, hlength, Option.some.inj h⟩
    · cases h
  · rintro ⟨ds, hds, hlength, rfl⟩
    exact ⟨ds, hds, if_pos hlength⟩

/-! ### Blanks around a number -/

/-- Blanks are taken off the ends of a text, and nothing else. -/
theorem exists_eq_append_trimBlanks (s : List Char) :
    ∃ front back, s = front ++ trimBlanks s ++ back ∧ (∀ c ∈ front, isBlank c = true) ∧
      ∀ c ∈ back, isBlank c = true := by
  refine ⟨s.takeWhile isBlank, ((s.dropWhile isBlank).reverse.takeWhile isBlank).reverse,
    ?_, fun c hc => List.mem_takeWhile_imp hc, fun c hc => ?_⟩
  · rw [trimBlanks, List.append_assoc, ← List.reverse_append, List.takeWhile_append_dropWhile,
      List.reverse_reverse, List.takeWhile_append_dropWhile]
  · exact List.mem_takeWhile_imp (List.mem_reverse.1 hc)

theorem dropWhile_isBlank_append {front rest : List Char} {c : Char}
    (hfront : ∀ c ∈ front, isBlank c = true) (hc : isBlank c = false) :
    (front ++ c :: rest).dropWhile isBlank = c :: rest := by
  rw [List.dropWhile_append_of_pos hfront, List.dropWhile_cons_of_neg]
  simp [hc]

/-- What starts and ends without a blank is left when the blanks around it are taken off. -/
theorem trimBlanks_append {front bare back : List Char} {first last : Char}
    (hfront : ∀ c ∈ front, isBlank c = true) (hback : ∀ c ∈ back, isBlank c = true)
    (hhead : bare.head? = some first) (hfirst : isBlank first = false)
    (hgetLast : bare.getLast? = some last) (hlast : isBlank last = false) :
    trimBlanks (front ++ bare ++ back) = bare := by
  obtain ⟨rest, rfl⟩ := List.head?_eq_some_iff.1 hhead
  obtain ⟨init, hinit⟩ := List.getLast?_eq_some_iff.1 hgetLast
  have hreverse : ∀ c ∈ back.reverse, isBlank c = true := fun c hc =>
    hback c (List.mem_reverse.1 hc)
  rw [trimBlanks, List.append_assoc, List.cons_append, dropWhile_isBlank_append hfront hfirst,
    ← List.cons_append, hinit, List.reverse_append, List.reverse_append, List.reverse_singleton,
    List.singleton_append, dropWhile_isBlank_append hreverse hlast, List.reverse_cons,
    List.reverse_reverse]

/-- No digit of any script is blank. -/
theorem isBlank_of_digitValue? {c : Char} {d : Nat} (h : digitValue? c = some d) :
    isBlank c = false := by
  have hapart : ∀ z ∈ digitZeros, ∀ r ∈ blankRanges, z + 10 ≤ r.1 ∨ r.2 < z := by
    decide +kernel
  obtain ⟨z, hz, hc⟩ := List.exists_of_findSome?_eq_some h
  split at hc
  · rename_i hrange
    rw [isBlank, List.any_eq_false]
    intro r hr
    have := hapart z hz r hr
    simp only [Bool.and_eq_true, decide_eq_true_eq]
    omega
  · cases hc

theorem digitValue?_char (sign : Sign) : digitValue? sign.char = none := by
  cases sign <;> decide

theorem isBlank_char (sign : Sign) : isBlank sign.char = false := by
  cases sign <;> decide

theorem trimBlanks_of_isBareNumber {front bare back : List Char} {n : Int}
    (hfront : ∀ c ∈ front, isBlank c = true) (hback : ∀ c ∈ back, isBlank c = true)
    (h : IsBareNumber bare n) : trimBlanks (front ++ bare ++ back) = bare := by
  cases h with
  | unsigned h =>
    obtain ⟨first, rest, _, hhead, hfirst⟩ := h.exists_first
    obtain ⟨init, last, _, hgetLast, hlast⟩ := h.exists_last
    exact trimBlanks_append hfront hback (by rw [hhead, List.head?_cons])
      (isBlank_of_digitValue? hfirst) (by rw [hgetLast, List.getLast?_concat])
      (isBlank_of_digitValue? hlast)
  | signed sign h =>
    obtain ⟨init, last, _, rfl, hlast⟩ := h.exists_last
    exact trimBlanks_append hfront hback List.head?_cons (isBlank_char sign)
      (by rw [← List.cons_append, List.getLast?_concat]) (isBlank_of_digitValue? hlast)

/-- The texts that are read as a number are those of the grammar. -/
theorem readInt?_eq_some_iff {text : List Char} {n : Int} :
    readInt? text = some n ↔ IsNumber text n := by
  constructor
  · intro h
    obtain ⟨front, back, htext, hfront, hback⟩ := exists_eq_append_trimBlanks text
    refine ⟨front, trimBlanks text, back, htext, hfront, hback, ?_⟩
    unfold readInt? at h
    split at h
    · rename_i rest hrest
      obtain ⟨m, hm, rfl⟩ := Option.map_eq_some_iff.1 h
      obtain ⟨ds, hds, hlength, rfl⟩ := readNat?_eq_some_iff.1 hm
      rw [hrest]
      exact .signed .plus hds hlength
    · rename_i rest hrest
      obtain ⟨m, hm, rfl⟩ := Option.map_eq_some_iff.1 h
      obtain ⟨k, hk, hkm⟩ := Option.bind_eq_some_iff.1 hm
      obtain ⟨ds, hds, hlength, rfl⟩ := readNat?_eq_some_iff.1 hk
      rw [hrest, ← Option.some.inj hkm]
      exact .signed .minus hds hlength
    · obtain ⟨m, hm, rfl⟩ := Option.map_eq_some_iff.1 h
      obtain ⟨ds, hds, hlength, rfl⟩ := readNat?_eq_some_iff.1 hm
      exact .unsigned hds hlength
  · rintro ⟨front, bare, back, rfl, hfront, hback, h⟩
    rw [readInt?, trimBlanks_of_isBareNumber hfront hback h]
    cases h with
    | @unsigned _ ds h hlength =>
      -- the first character is a digit, and so none of the signs
      obtain ⟨c, rest, d, rfl, hc⟩ := h.exists_first
      have hread := readNat?_eq_some_iff.2 ⟨ds, h, hlength, rfl⟩
      split
      · rename_i hplus
        obtain ⟨rfl, -⟩ := List.cons.inj hplus
        cases (digitValue?_char .plus).symm.trans hc
      · rename_i hminus
        obtain ⟨rfl, -⟩ := List.cons.inj hminus
        cases (digitValue?_char .minus).symm.trans hc
      · rw [hread]
        rfl
    | @signed sign _ ds h hlength =>
      have hread := readNat?_eq_some_iff.2 ⟨ds, h, hlength, rfl⟩
      cases sign with
      | plus =>
        simp only [Sign.char, hread]
        rfl
      | minus =>
        simp only [Sign.char, hread]
        rfl

theorem not_isNumber_nil {n : Int} : ¬ IsNumber [] n := by
  rintro ⟨front, bare, back, htext, -, -, h⟩
  simp only [List.nil_eq, List.append_eq_nil_iff] at htext
  obtain ⟨⟨-, rfl⟩, -⟩ := htext
  cases h with
  | unsigned h => cases h

/-! ### The size of a number -/

/-- A number is less than the power of ten with as many zeros as it has digits. -/
theorem foldl_digits_lt {ds : List Nat} (h : ∀ d ∈ ds, d < 10) {n k : Nat} (hn : n < 10 ^ k) :
    ds.foldl (fun n d => 10 * n + d) n < 10 ^ (k + ds.length) := by
  induction ds generalizing n k with
  | nil => exact hn
  | cons d ds ih =>
    have hd := h d List.mem_cons_self
    have hnext : 10 * n + d < 10 ^ (k + 1) := by
      rw [Nat.pow_succ]
      omega
    have hds := ih (fun e he => h e (List.mem_cons_of_mem d he)) hnext
    rw [Nat.add_assoc, Nat.add_comm 1] at hds
    exact hds

theorem IsDigits.ofDigitValues_lt {cs : List Char} {ds : List Nat} (h : IsDigits cs ds)
    (hlength : ds.length ≤ maxDigits) : ofDigitValues ds < 10 ^ maxDigits := by
  -- the digits are read onto zero, which has none
  have hlt := foldl_digits_lt h.lt_ten (n := 0) (k := 0) (by decide)
  rw [Nat.zero_add] at hlt
  exact Nat.lt_of_lt_of_le hlt (Nat.pow_le_pow_right (by decide) hlength)

theorem IsNumber.toNat_lt {text : List Char} {n : Int} (h : IsNumber text n) :
    n.toNat < 10 ^ maxDigits := by
  obtain ⟨front, bare, back, -, -, -, h⟩ := h
  cases h with
  | unsigned h hlength => exact h.ofDigitValues_lt hlength
  | @signed sign _ ds h hlength =>
    cases sign with
    | plus => exact h.ofDigitValues_lt hlength
    | minus =>
      -- below zero nothing is left of the number
      rw [show (Sign.minus.apply (ofDigitValues ds)).toNat = 0 by rw [Sign.apply]; omega]
      exact Nat.pow_pos (by decide)

/-! ### The usual digits -/

theorem isBlank_of_isDigit {c : Char} (h : c.isDigit = true) : isBlank c = false :=
  isBlank_of_digitValue? (digitValue?_of_isDigit h)

theorem dropWhile_isBlank {s : List Char} (h : ∀ c ∈ s, c.isDigit = true) :
    s.dropWhile isBlank = s := by
  cases s with
  | nil => rfl
  | cons c s =>
    rw [List.dropWhile_cons_of_neg]
    simp [isBlank_of_isDigit (h c List.mem_cons_self)]

/-- Digits have no blanks at their ends. -/
theorem trimBlanks_of_isDigit {s : List Char} (h : ∀ c ∈ s, c.isDigit = true) :
    trimBlanks s = s := by
  have hreverse : ∀ c ∈ s.reverse, c.isDigit = true := fun c hc => h c (List.mem_reverse.1 hc)
  rw [trimBlanks, dropWhile_isBlank h, dropWhile_isBlank hreverse, List.reverse_reverse]

/-- Without a sign in front, a number is read as a natural number. -/
theorem readInt?_of_isDigit {s : List Char} (h : ∀ c ∈ s, c.isDigit = true) :
    readInt? s = (readNat? s).map Int.ofNat := by
  rw [readInt?, trimBlanks_of_isDigit h]
  split
  · exact absurd (h '+' List.mem_cons_self) (by decide)
  · exact absurd (h '-' List.mem_cons_self) (by decide)
  · rfl

end RelativeTime
