/-
Breakdowns in mixed radix.

A breakdown writes a distance in whole units, from the year down to the second, as a number is
written in digits, although no year of 365 days is made up of months of 30, and no such month of
weeks.  What makes it one is that the units below any unit come to less than one of it:

* `Description.IsMixedRadix` : amounts of units, in order and none of them zero, that come to a
  number of seconds in this way;
* `Description.isMixedRadix_cons_iff` : the first unit takes its whole multiples, and the others
  take the rest;
* `Description.isMixedRadix_iff` : so there is just one way, and a breakdown finds it;
* `breakdown_isMixedRadix` : the main statement.

## Design notes

A unit that would be taken zero times is left out, which is why amounts are put together by
`Description.leading`.  The direction of a difference is only in the signs of its text.
-/
import RelativeTime.Proofs.Landing
import RelativeTime.Proofs.TokenFaults

namespace RelativeTime

namespace Description

/-! ### Amounts of units -/

/-- The seconds that amounts of units come to, with 365 days to a year and 30 to a month. -/
def seconds : List (Nat × TimeUnit) → Nat
  | [] => 0
  | p :: amounts => p.1 * p.2.approximateSeconds + seconds amounts

/-- The amounts of those units that are shorter than a given one. -/
def shorterThan (unit : TimeUnit) (amounts : List (Nat × TimeUnit)) : List (Nat × TimeUnit) :=
  amounts.filter fun p => p.2.approximateSeconds < unit.approximateSeconds

/-- Whether amounts of some units come to a number of seconds, each unit at most once and in the
order of the units, none zero times, and the shorter ones always to less than one of a unit. -/
structure IsMixedRadix (units : List TimeUnit) (amounts : List (Nat × TimeUnit)) (total : Nat) :
    Prop where
  in_order : (amounts.map Prod.snd).Sublist units
  pos : ∀ p ∈ amounts, 0 < p.1
  seconds_eq : seconds amounts = total
  shorter_lt : ∀ unit ∈ units, seconds (shorterThan unit amounts) < unit.approximateSeconds

variable {unit v : TimeUnit} {units : List TimeUnit} {amounts : List (Nat × TimeUnit)}
  {amount total : Nat}

theorem seconds_leading_append (amount : Nat) (unit : TimeUnit) (amounts : List (Nat × TimeUnit)) :
    seconds (leading amount unit ++ amounts) =
      amount * unit.approximateSeconds + seconds amounts := by
  rw [leading]
  split
  · rename_i hzero
    simp [hzero]
  · rfl

/-- A unit is not shorter than itself or one that comes after it. -/
theorem shorterThan_leading_append (amount : Nat) (amounts : List (Nat × TimeUnit))
    (h : v.approximateSeconds ≤ unit.approximateSeconds) :
    shorterThan v (leading amount unit ++ amounts) = shorterThan v amounts := by
  have hself : (leading amount unit).filter
      (fun p => decide (p.2.approximateSeconds < v.approximateSeconds)) = [] := by
    rw [List.filter_eq_nil_iff]
    intro p hp
    simp [(mem_leading hp).1, h]
  rw [shorterThan, List.filter_append, hself, List.nil_append, shorterThan]

/-- After the longest unit, the rest is what is shorter. -/
theorem shorterThan_longest (amount : Nat)
    (hunits : ∀ v ∈ units, v.approximateSeconds < unit.approximateSeconds)
    (h : (amounts.map Prod.snd).Sublist units) :
    shorterThan unit (leading amount unit ++ amounts) = amounts := by
  rw [shorterThan_leading_append amount amounts (Nat.le_refl _), shorterThan, List.filter_eq_self]
  intro p hp
  exact decide_eq_true (hunits p.2 (h.subset (List.mem_map_of_mem hp)))

/-- Amounts of some units in order begin with the first of them, or leave it out. -/
theorem exists_leading_append (h : (amounts.map Prod.snd).Sublist (unit :: units))
    (hpos : ∀ p ∈ amounts, 0 < p.1) :
    ∃ amount rest, amounts = leading amount unit ++ rest ∧ (rest.map Prod.snd).Sublist units := by
  rcases List.sublist_cons_iff.1 h with hrest | ⟨rest, heq, hrest⟩
  · exact ⟨0, amounts, rfl, hrest⟩
  · obtain ⟨p, rest, rfl, rfl, rfl⟩ := List.map_eq_cons_iff.1 heq
    have hne : p.1 ≠ 0 := Nat.ne_of_gt (hpos p List.mem_cons_self)
    exact ⟨p.1, rest, by simp [leading, hne], hrest⟩

/-! ### One way to write a number -/

theorem isMixedRadix_nil_iff : IsMixedRadix [] amounts total ↔ amounts = [] ∧ total = 0 := by
  constructor
  · intro h
    have hnil : amounts = [] := List.map_eq_nil_iff.1 (List.sublist_nil.1 h.in_order)
    refine ⟨hnil, ?_⟩
    rw [← h.seconds_eq, hnil]
    rfl
  · rintro ⟨rfl, rfl⟩
    exact ⟨List.Sublist.refl [], by simp, rfl, by simp⟩

/-- A division with remainder puts a longer unit in front. -/
theorem IsMixedRadix.cons
    (hunits : ∀ v ∈ units, v.approximateSeconds < unit.approximateSeconds)
    (h : IsMixedRadix units amounts (total % unit.approximateSeconds)) :
    IsMixedRadix (unit :: units) (leading (total / unit.approximateSeconds) unit ++ amounts)
      total := by
  have hpos : 0 < unit.approximateSeconds := by
    cases unit <;> decide
  refine ⟨?_, ?_, ?_, ?_⟩
  · rw [leading]
    split
    · exact h.in_order.cons unit
    · exact h.in_order.cons_cons unit
  · intro p hp
    rcases List.mem_append.1 hp with hp | hp
    · obtain ⟨rfl, hamount⟩ := mem_leading hp
      exact hamount
    · exact h.pos p hp
  · rw [seconds_leading_append, h.seconds_eq]
    exact Nat.div_add_mod' total unit.approximateSeconds
  · intro v hv
    rcases List.mem_cons.1 hv with rfl | hv
    · rw [shorterThan_longest _ hunits h.in_order, h.seconds_eq]
      exact Nat.mod_lt total hpos
    · rw [shorterThan_leading_append _ _ (Nat.le_of_lt (hunits v hv))]
      exact h.shorter_lt v hv

/-- The first unit, if it is the longest, takes its whole multiples, and the others take the
rest. -/
theorem isMixedRadix_cons_iff
    (hunits : ∀ v ∈ units, v.approximateSeconds < unit.approximateSeconds) :
    IsMixedRadix (unit :: units) amounts total ↔
      ∃ rest, amounts = leading (total / unit.approximateSeconds) unit ++ rest ∧
        IsMixedRadix units rest (total % unit.approximateSeconds) := by
  constructor
  · intro h
    obtain ⟨amount, rest, rfl, hrest⟩ := exists_leading_append h.in_order h.pos
    have hlt := h.shorter_lt unit List.mem_cons_self
    rw [shorterThan_longest amount hunits hrest] at hlt
    have hpos : 0 < unit.approximateSeconds := Nat.zero_lt_of_lt hlt
    -- The rest comes to less than one of the unit, so this is a division with remainder.
    have htotal := h.seconds_eq
    rw [seconds_leading_append, Nat.add_comm] at htotal
    have hdiv : total / unit.approximateSeconds = amount := by
      rw [← htotal, Nat.add_mul_div_right _ _ hpos, Nat.div_eq_of_lt hlt, Nat.zero_add]
    have hmod : total % unit.approximateSeconds = seconds rest := by
      rw [← htotal, Nat.add_mul_mod_self_right, Nat.mod_eq_of_lt hlt]
    rw [hdiv, hmod]
    refine ⟨rest, rfl, hrest, ?_, rfl, ?_⟩
    · intro p hp
      exact h.pos p (List.mem_append_right _ hp)
    · intro v hv
      have hbelow := h.shorter_lt v (List.mem_cons_of_mem unit hv)
      rw [shorterThan_leading_append amount rest (Nat.le_of_lt (hunits v hv))] at hbelow
      exact hbelow
  · rintro ⟨rest, rfl, h⟩
    exact h.cons hunits

/-! ### The way of a breakdown -/

theorem div_micros (rest : Nat) (unit : TimeUnit) :
    rest / unit.micros = rest / 1000000 / unit.approximateSeconds := by
  rw [TimeUnit.micros, Nat.mul_comm, Nat.div_div_eq_div_mul]

/-- What is less than a second stays in the rest. -/
theorem mod_micros (rest : Nat) (unit : TimeUnit) :
    rest % unit.micros / 1000000 = rest / 1000000 % unit.approximateSeconds := by
  rw [TimeUnit.micros, Nat.mul_comm, Nat.mod_mul_right_div_self]

/-- Units that leave less than a second over have just one way to come to a number of seconds. -/
theorem isMixedRadix_iff {rest : Nat}
    (hunits : units.Pairwise fun u v => v.approximateSeconds < u.approximateSeconds)
    (hleft : Exact.leftover units rest < 1000000) :
    IsMixedRadix units amounts (rest / 1000000) ↔ amounts = parts units rest := by
  induction units generalizing amounts rest with
  | nil =>
    have hzero : rest / 1000000 = 0 := Nat.div_eq_of_lt hleft
    rw [isMixedRadix_nil_iff, parts]
    exact and_iff_left hzero
  | cons unit units ih =>
    obtain ⟨hlonger, hunits⟩ := List.pairwise_cons.1 hunits
    rw [isMixedRadix_cons_iff hlonger, parts_cons, ← div_micros, ← mod_micros]
    constructor
    · rintro ⟨others, rfl, h⟩
      rw [(ih hunits hleft).1 h]
    · rintro rfl
      exact ⟨_, rfl, (ih hunits hleft).2 rfl⟩

theorem isMixedRadix_breakdownUnits_iff (rest : Nat) :
    IsMixedRadix breakdownUnits amounts (rest / 1000000) ↔ amounts = parts breakdownUnits rest := by
  refine isMixedRadix_iff (by decide) ?_
  exact Nat.mod_lt _ (by decide)

/-- No units at all are taken of less than a second. -/
theorem parts_breakdownUnits_eq_nil_iff {rest : Nat} :
    parts breakdownUnits rest = [] ↔ rest < 1000000 := by
  have hzero : IsMixedRadix breakdownUnits [] (rest / 1000000) ↔ rest / 1000000 = 0 := by
    constructor
    · intro h
      exact h.seconds_eq.symm
    · intro h
      rw [h]
      exact ⟨List.nil_sublist _, by simp, rfl, by decide⟩
  rw [eq_comm, ← isMixedRadix_breakdownUnits_iff, hzero]
  exact Nat.div_eq_zero_iff_lt (by decide)

end Description

/-! ### The text the other way -/

/-- The opposite direction. -/
def Sign.opposite : Sign → Sign
  | plus => minus
  | minus => plus

/-- The opposite sign for a sign, and any other character as it is. -/
def oppositeChar (c : Char) : Char :=
  match Sign.ofChar? c with
  | some sign => sign.opposite.char
  | none => c

theorem oppositeChar_char (sign : Sign) : oppositeChar sign.char = sign.opposite.char := by
  rw [oppositeChar, Sign.ofChar?_char]

theorem oppositeChar_code (unit : TimeUnit) : oppositeChar unit.code = unit.code := by
  cases unit <;> rfl

theorem map_oppositeChar_natText (n : Nat) : (natText n).map oppositeChar = natText n := by
  have hdigit (c : Char) (hc : c ∈ natText n) : oppositeChar c = c := by
    rw [oppositeChar, ofChar?_of_isDigit (isDigit_of_mem_natText hc)]
  exact (List.map_congr_left hdigit).trans (List.map_id _)

/-- Shifts the other way are written with the opposite signs. -/
theorem map_oppositeChar_shorthandChars (sign : Sign) (amounts : List (Nat × TimeUnit)) :
    (shorthandChars (shiftsBy sign amounts)).map oppositeChar =
      shorthandChars (shiftsBy sign.opposite amounts) := by
  have hanchor : anchor.map oppositeChar = anchor := rfl
  have hchars (p : Nat × TimeUnit) :
      (Operation.shift sign p.1 p.2).chars.map oppositeChar =
        (Operation.shift sign.opposite p.1 p.2).chars := by
    simp [Operation.chars, oppositeChar_char, oppositeChar_code, map_oppositeChar_natText]
  simp only [shorthandChars, shiftsBy, List.map_append, hanchor, List.flatMap_map,
    List.map_flatMap, hchars]

/-- A text is the anchor alone if it has no operations. -/
theorem shorthandChars_eq_anchor_iff {ops : List Operation} :
    shorthandChars ops = anchor ↔ ops = [] := by
  have hchars (op : Operation) : op.chars ≠ [] := by
    cases op with
    | shift sign magnitude unit => exact List.cons_ne_nil _ _
    | round unit => exact List.cons_ne_nil _ _
  rw [shorthandChars, List.append_right_eq_self, List.flatMap_eq_nil_iff,
    List.eq_nil_iff_forall_not_mem]
  constructor
  · intro h op hop
    exact hchars op (h op hop)
  · intro h op hop
    exact absurd hop (h op)

/-- The opposite difference goes the other way, unless there is nothing to go. -/
theorem shorthandChars_breakdown_neg (difference : Int) :
    shorthandChars (Description.breakdown (-difference)) =
      (shorthandChars (Description.breakdown difference)).map oppositeChar := by
  rw [Exact.breakdown_eq_shiftsBy, Exact.breakdown_eq_shiftsBy, Int.natAbs_neg,
    map_oppositeChar_shorthandChars]
  by_cases hzero : difference = 0
  · rw [hzero]
    rfl
  · have hdirection : Exact.direction (-difference) = (Exact.direction difference).opposite := by
      rw [Exact.direction, Exact.direction]
      by_cases hneg : 0 ≤ difference
      · rw [if_pos hneg, if_neg (by omega)]
        rfl
      · rw [if_neg hneg, if_pos (by omega)]
        rfl
    rw [hdirection]

theorem Exact.direction_eq_plus_iff {difference : Int} :
    direction difference = .plus ↔ 0 ≤ difference := by
  rw [direction]
  by_cases h : 0 ≤ difference
  · simp [h]
  · simp [h]

/-- Two instants have a breakdown if both have an offset or both have none. -/
theorem Value.breakdown_of_isSome {t n : DateTime} (h : t.offset.isSome = n.offset.isSome) :
    Value.breakdown (.dateTime t) (.dateTime n) =
      .ok (shorthand (Description.breakdown (t.instant - n.instant))) := by
  rw [Value.breakdown, Value.difference, if_pos h, ← Description.breakdownText_eq_shorthand]
  rfl

/-- **A breakdown writes the whole seconds between two instants in mixed radix.**  Its text is the
anchor and then amounts of units, the largest first and all with one sign, a plus unless the target
is the earlier one.  With 365 days to a year and 30 to a month, the amounts come to the whole
seconds of the distance, those of shorter units always to less than one of a unit, and no others
do so.  The text is the anchor alone just if the distance is less than a second, and from the
target to the reference all its signs are the opposite ones. -/
theorem breakdown_isMixedRadix {t n : DateTime} (h : t.offset.isSome = n.offset.isSome) :
    ∃ (sign : Sign) (amounts : List (Nat × TimeUnit)) (text : String),
      Value.breakdown (.dateTime t) (.dateTime n) = .ok text ∧
      text.toList =
        anchor ++ amounts.flatMap (fun p => sign.char :: natText p.1 ++ [p.2.code]) ∧
      (sign = .plus ↔ n.instant ≤ t.instant) ∧
      Description.IsMixedRadix [.year, .month, .week, .day, .hour, .minute, .second] amounts
        ((t.instant - n.instant).natAbs / 1000000) ∧
      (∀ amounts', Description.IsMixedRadix [.year, .month, .week, .day, .hour, .minute, .second]
        amounts' ((t.instant - n.instant).natAbs / 1000000) → amounts' = amounts) ∧
      (text = "now" ↔ (t.instant - n.instant).natAbs < 1000000) ∧
      Value.breakdown (.dateTime n) (.dateTime t) =
        .ok (String.ofList (text.toList.map oppositeChar)) := by
  rw [Value.breakdown_of_isSome h, Value.breakdown_of_isSome h.symm]
  refine ⟨Exact.direction (t.instant - n.instant),
    Description.parts Description.breakdownUnits (t.instant - n.instant).natAbs,
    shorthand (Description.breakdown (t.instant - n.instant)), rfl, ?_, ?_, ?_, ?_, ?_, ?_⟩
  · rw [toList_shorthand, Exact.breakdown_eq_shiftsBy, shorthandChars, shiftsBy,
      List.flatMap_map]
    rfl
  · rw [Exact.direction_eq_plus_iff]
    exact Int.sub_nonneg
  · exact (Description.isMixedRadix_breakdownUnits_iff _).2 rfl
  · intro amounts' hamounts'
    exact (Description.isMixedRadix_breakdownUnits_iff _).1 hamounts'
  · rw [← String.toList_inj, shorthand, String.toList_ofList,
      show "now".toList = anchor from rfl, shorthandChars_eq_anchor_iff,
      Exact.breakdown_eq_shiftsBy, shiftsBy, List.map_eq_nil_iff]
    exact Description.parts_breakdownUnits_eq_nil_iff
  · rw [toList_shorthand, ← shorthandChars_breakdown_neg, Int.neg_sub]
    rfl

/-- From the last second of the calendar back to the last microsecond of January 2024, and the
other way.  No other amounts come to the distance in this way. -/
theorem breakdown_isMixedRadix_january :
    DateTime.january.offset.isSome = DateTime.lastSecond.offset.isSome ∧
    Value.breakdown (.dateTime .january) (.dateTime .lastSecond) =
      .ok "now-7981y-2M-2w-3d-23h-59m-59s" ∧
    (∀ amounts, Description.IsMixedRadix [.year, .month, .week, .day, .hour, .minute, .second]
      amounts ((DateTime.january.instant - DateTime.lastSecond.instant).natAbs / 1000000) ↔
        amounts = [(7981, .year), (2, .month), (2, .week), (3, .day), (23, .hour), (59, .minute),
          (59, .second)]) ∧
    Value.breakdown (.dateTime .lastSecond) (.dateTime .january) =
      .ok "now+7981y+2M+2w+3d+23h+59m+59s" := by
  have hoffset : DateTime.january.offset.isSome = DateTime.lastSecond.offset.isSome := rfl
  have hbreakdown : Value.breakdown (.dateTime .january) (.dateTime .lastSecond) =
      .ok "now-7981y-2M-2w-3d-23h-59m-59s" := rfl
  obtain ⟨sign, amounts, text, htext, -, -, hradix, honly, -, hback⟩ :=
    breakdown_isMixedRadix hoffset
  obtain rfl := Except.ok.inj (hbreakdown.symm.trans htext)
  have hamounts : [(7981, TimeUnit.year), (2, .month), (2, .week), (3, .day), (23, .hour),
      (59, .minute), (59, .second)] = amounts := by
    refine honly _ ⟨by decide, ?_, rfl, ?_⟩
    · simp
    · simp [Description.shorterThan, Description.seconds, TimeUnit.approximateSeconds]
  rw [hamounts]
  refine ⟨hoffset, hbreakdown, fun amounts' => ⟨honly amounts', ?_⟩, hback.trans ?_⟩
  · rintro rfl
    exact hradix
  · simp [oppositeChar, Sign.ofChar?, Sign.opposite, Sign.char]

end RelativeTime
