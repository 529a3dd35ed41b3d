/-
Whole numbers in decimal notation.

A number is written with the fewest ASCII digits, and a `-` in front if it is
negative. The reader takes more: blanks around the number, a `+`, zeros in front,
digits of any script, and single underscores between digits. A number of more than
`maxDigits` digits is neither read nor written.

* `isDigit_of_mem_natText` : a number is written in ASCII digits.
* `readNat?_natText` : a number that is not too long is read back.
-/
import RelativeTime.Text.Blank
import RelativeTime.Text.DecimalDigit

namespace RelativeTime

/-- The most digits that a number may have to be read, zeros in front included, or to be
written. -/
def maxDigits : Nat := 4300

/-- The values of a run of digits, between which single underscores may stand. -/
def digitValues? : List Char → Option (List Nat)
  | [] => none
  | [c] => (digitValue? c).map fun d => [d]
  | c :: '_' :: rest => do
    let d ← digitValue? c
    let ds ← digitValues? rest
    return d :: ds
  | c :: rest => do
    let d ← digitValue? c
    let ds ← digitValues? rest
    return d :: ds

/-- The number with the given decimal digits, the most significant first. -/
def ofDigitValues (ds : List Nat) : Nat := ds.foldl (fun n d => 10 * n + d) 0

/-- The number that a run of digits stands for, if it is not too long. -/
def readNat? (s : List Char) : Option Nat := do
  let ds ← digitValues? s
  if ds.length ≤ maxDigits then some (ofDigitValues ds) else none

/-- The number that a text stands for. -/
def readInt? (s : List Char) : Option Int :=
  match trimBlanks s with
  | '+' :: rest => (readNat? rest).map Int.ofNat
  | '-' :: rest => (readNat? rest).map fun n => -(n : Int)
  | rest => (readNat? rest).map Int.ofNat

/-- The text of a natural number. -/
def natText (n : Nat) : List Char := Nat.toDigits 10 n

/-- The text of a natural number, if it is not too long to be written. -/
def writeNat? (n : Nat) : Option (List Char) :=
  if (natText n).length ≤ maxDigits then some (natText n) else none

/-- The text of a whole number. -/
def intText (n : Int) : List Char :=
  if n < 0 then '-' :: natText n.natAbs else natText n.natAbs

theorem digitValues?_eq_map {ds : List Char} (hne : ds ≠ []) (hds : ∀ c ∈ ds, c.isDigit = true) :
    digitValues? ds = some (ds.map fun c => c.toNat - 48) := by
  fun_induction digitValues? ds with
  | case1 => exact absurd rfl hne
  | case2 c => simp [digitValue?_of_isDigit (hds c (by simp))]
  | case3 c rest => exact absurd (hds '_' (by simp)) (by decide)
  | case4 c rest h1 h2 ih =>
    have hrest := ih (by simpa using h1) fun d hd => hds d (List.mem_cons_of_mem c hd)
    simp [digitValue?_of_isDigit (hds c (by simp)), hrest]

theorem ofDigitValues_map (ds : List Char) :
    ofDigitValues (ds.map fun c => c.toNat - 48) = Nat.ofDigitChars 10 ds 0 := by
  rw [ofDigitValues, Nat.ofDigitChars]
  rw [List.foldl_map]
  rfl

theorem isDigit_of_mem_natText {n : Nat} {c : Char} (h : c ∈ natText n) : c.isDigit = true :=
  Nat.isDigit_of_mem_toDigits (by decide) (by decide) h

theorem natText_ne_nil (n : Nat) : natText n ≠ [] := Nat.toDigits_ne_nil

/-- A number that is not too long is read back. -/
theorem readNat?_natText {n : Nat} (h : (natText n).length ≤ maxDigits) :
    readNat? (natText n) = some n := by
  rw [readNat?]
  rw [digitValues?_eq_map (natText_ne_nil n) fun c hc => isDigit_of_mem_natText hc]
  simp only [Option.bind_eq_bind, Option.bind_some, List.length_map, if_pos h]
  rw [ofDigitValues_map]
  exact congrArg some Nat.ofDigitChars_ten_toDigits

end RelativeTime
