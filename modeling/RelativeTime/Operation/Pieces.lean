/-
The tokens in a text.

A token is a slash and the code of a unit, or a number of ASCII digits with the code
of a unit after it and, perhaps, a sign before it. `pieces` reads a text from left to
right: where a token starts, it takes the token, and otherwise it leaves one character
over as a stray.

* `eq_append_of_splitToken?` : a token is split off the front of the text.
* `flatMap_chars_pieces` : the pieces make up the text again.

## Design notes

This is how a pattern is searched for: its matches are those that begin furthest to the
left and do not overlap, and the search goes on behind each of them. The same matches are
found when they are listed and when they are taken away, so tokens and strays come from
one list of pieces. The signs, the digits and the unit of a match are as many as there can
be, which leaves no choice, for the first character behind the digits decides.
-/
import RelativeTime.Operation.Basic

namespace RelativeTime

/-- Whether a character is the code of a unit. -/
def isUnitCode (c : Char) : Bool := (TimeUnit.ofCode? c).isSome

/-- Splits off the sign at the start of a text, if there is one. -/
def splitSign : List Char → List Char × List Char
  | '+' :: rest => (['+'], rest)
  | '-' :: rest => (['-'], rest)
  | text => ([], text)

/-- Splits off the number with a unit at the start of a text. -/
def splitShift? (text : List Char) : Option (List Char × List Char) :=
  let (sign, rest) := splitSign text
  let digits := rest.takeWhile Char.isDigit
  match rest.dropWhile Char.isDigit with
  | c :: tail =>
    if digits ≠ [] ∧ isUnitCode c then some (sign ++ digits ++ [c], tail) else none
  | [] => none

/-- Splits off the token at the start of a text. -/
def splitToken? : List Char → Option (List Char × List Char)
  | '/' :: c :: tail => if isUnitCode c then some (['/', c], tail) else none
  | text => splitShift? text

theorem eq_append_of_splitSign (text : List Char) :
    text = (splitSign text).1 ++ (splitSign text).2 := by
  unfold splitSign
  split <;> rfl

theorem eq_append_of_splitShift? {text token tail : List Char}
    (h : splitShift? text = some (token, tail)) : text = token ++ tail ∧ token ≠ [] := by
  have hsign := eq_append_of_splitSign text
  simp only [splitShift?] at h
  split at h
  · rename_i c rest hrest
    split at h
    · simp only [Option.some.injEq, Prod.mk.injEq] at h
      obtain ⟨rfl, rfl⟩ := h
      refine ⟨?_, by simp⟩
      have hdigits := List.takeWhile_append_dropWhile (p := Char.isDigit) (l := (splitSign text).2)
      rw [hrest] at hdigits
      rw [List.append_assoc, List.append_assoc, List.singleton_append, hdigits]
      exact hsign
    · simp at h
  · simp at h

theorem eq_append_of_splitToken? {text token tail : List Char}
    (h : splitToken? text = some (token, tail)) : text = token ++ tail ∧ token ≠ [] := by
  unfold splitToken? at h
  split at h
  · split at h
    · simp only [Option.some.injEq, Prod.mk.injEq] at h
      obtain ⟨rfl, rfl⟩ := h
      exact ⟨rfl, by simp⟩
    · simp at h
  · exact eq_append_of_splitShift? h

theorem length_lt_of_splitToken? {text token tail : List Char}
    (h : splitToken? text = some (token, tail)) : tail.length < text.length := by
  obtain ⟨rfl, hne⟩ := eq_append_of_splitToken? h
  have := List.length_pos_iff.2 hne
  rw [List.length_append]
  omega

/-- A part of a text: a token or a character that belongs to none. -/
inductive Piece
  | token (chars : List Char)
  | stray (c : Char)
  deriving DecidableEq, Repr

/-- The characters of a piece. -/
def Piece.chars : Piece → List Char
  | token chars => chars
  | stray c => [c]

/-- The token that a piece is. -/
def Piece.token? : Piece → Option (List Char)
  | token chars => some chars
  | stray _ => none

/-- The stray character that a piece is. -/
def Piece.stray? : Piece → Option Char
  | token _ => none
  | stray c => some c

/-- The pieces of a text. -/
def pieces : List Char → List Piece
  | [] => []
  | c :: rest =>
    match _ : splitToken? (c :: rest) with
    | some (token, tail) => .token token :: pieces tail
    | none => .stray c :: pieces rest
termination_by text => text.length
decreasing_by
  · exact length_lt_of_splitToken? (by assumption)
  · exact Nat.lt_succ_self _

/-- The tokens of a text. -/
def tokensIn (text : List Char) : List (List Char) := (pieces text).filterMap Piece.token?

/-- The characters of a text that belong to no token. -/
def straysIn (text : List Char) : List Char := (pieces text).filterMap Piece.stray?

/-- Nothing of a text is lost. -/
theorem flatMap_chars_pieces (text : List Char) : (pieces text).flatMap Piece.chars = text := by
  fun_induction pieces text with
  | case1 => rfl
  | case2 c rest token tail h ih =>
    rw [List.flatMap_cons, ih, (eq_append_of_splitToken? h).1]
    rfl
  | case3 c rest h ih =>
    rw [List.flatMap_cons, ih]
    rfl

end RelativeTime
