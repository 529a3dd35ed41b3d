/-
Times of day.

A `TimeOfDay` has fields down to the microsecond. `micros` counts the
microseconds since midnight and `ofMicros` reads the count back
(`micros_ofMicros`, `ofMicros_micros`).
-/

namespace RelativeTime

/-- The microseconds of a day. -/
def microsPerDay : Nat := 86400000000

/-- A time of day. -/
structure TimeOfDay where
  hour : Nat
  minute : Nat
  second : Nat
  microsecond : Nat
  hour_lt : hour < 24
  minute_lt : minute < 60
  second_lt : second < 60
  microsecond_lt : microsecond < 1000000
  deriving DecidableEq

namespace TimeOfDay

/-- The time with the given fields, if a day has it. -/
def of? (hour minute second microsecond : Nat) : Option TimeOfDay :=
  if h : hour < 24 ∧ minute < 60 ∧ second < 60 ∧ microsecond < 1000000 then
    some ⟨hour, minute, second, microsecond, h.1, h.2.1, h.2.2.1, h.2.2.2⟩
  else none

/-- The start of the day. -/
def midnight : TimeOfDay :=
  ⟨0, 0, 0, 0, by decide, by decide, by decide, by decide⟩

/-- The microseconds from midnight to `t`. -/
def micros (t : TimeOfDay) : Nat :=
  ((t.hour * 60 + t.minute) * 60 + t.second) * 1000000 + t.microsecond

/-- The time `n` microseconds after midnight. -/
def ofMicros (n : Nat) (h : n < microsPerDay) : TimeOfDay where
  hour := n / 3600000000
  minute := n / 60000000 % 60
  second := n / 1000000 % 60
  microsecond := n % 1000000
  hour_lt := by unfold microsPerDay at h; omega
  minute_lt := by omega
  second_lt := by omega
  microsecond_lt := by omega

theorem micros_lt (t : TimeOfDay) : t.micros < microsPerDay := by
  have := t.hour_lt
  have := t.minute_lt
  have := t.second_lt
  have := t.microsecond_lt
  rw [micros, microsPerDay]
  omega

theorem micros_ofMicros (n : Nat) (h : n < microsPerDay) : (ofMicros n h).micros = n := by
  simp only [micros, ofMicros]
  omega

theorem ofMicros_micros (t : TimeOfDay) : ofMicros t.micros t.micros_lt = t := by
  have := t.minute_lt
  have := t.second_lt
  have := t.microsecond_lt
  cases t
  simp only [ofMicros, micros, TimeOfDay.mk.injEq] at *
  omega

theorem micros_injective {t u : TimeOfDay} (h : t.micros = u.micros) : t = u := by
  rw [← ofMicros_micros t, ← ofMicros_micros u]
  simp only [h]

/-- The start of the second of `t`. -/
def startOfSecond (t : TimeOfDay) : TimeOfDay :=
  { t with microsecond := 0, microsecond_lt := by decide }

/-- The start of the minute of `t`. -/
def startOfMinute (t : TimeOfDay) : TimeOfDay :=
  { t.startOfSecond with second := 0, second_lt := by decide }

/-- The start of the hour of `t`. -/
def startOfHour (t : TimeOfDay) : TimeOfDay :=
  { t.startOfMinute with minute := 0, minute_lt := by decide }

end TimeOfDay

end RelativeTime
