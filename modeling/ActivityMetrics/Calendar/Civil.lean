/-!
# Civil years, months and weeks

Days are counted by integers, with day 0 on 1 January 1970, in the proleptic Gregorian calendar. The
functions here connect a day number with the year, the month and the ISO week that hold it; they
know no bounds. A year is the interval from `yearStart y` to `yearStart (y + 1)`, so everything
about years follows from one function.

Years and months are found by division and not by counting. The mean lengths of a year and of a
month are known, and the quotient is the year or month that is looked for, or off by one. Each of
these functions is the inverse of one that goes the other way, from a year or a month to its first
day; this is what the lemmas at the end say of them, and apart from it nothing is used of how they
are computed.

A week belongs to the year of its Thursday. So the first and the last days of a year may belong to a
week of another one, and a year of weeks begins on a Monday near its first of January.
-/

namespace ActivityMetrics.Calendar

/-- The day number of 1 January of a year: 365 days for each year, and the leap days in between. -/
def yearStart (y : Int) : Int :=
  365 * (y - 1970) + (y - 1) / 4 - (y - 1) / 100 + (y - 1) / 400 - 477

/-- A year of 366 days. -/
def isLeap (y : Int) : Bool :=
  y % 4 = 0 && (y % 100 ≠ 0 || y % 400 = 0)

/-- The year that a day number lies in. The mean length of a year gives an estimate that is off by
one at most. -/
def yearOf (n : Int) : Int :=
  let y := 400 * n / 146097 + 1970
  if n < yearStart y then y - 1 else if yearStart (y + 1) ≤ n then y + 1 else y

/-- The number of days of a year before the first of a month. From March on, the lengths of months
follow a rule that five months have 153 days. -/
def daysBefore (leap : Bool) (month : Nat) : Nat :=
  if month ≤ 1 then 0
  else if month = 2 then 31
  else (153 * (month - 3) + 2) / 5 + 59 + leap.toNat

/-- The month that holds a day of the year, counted from 0. -/
def monthOfOrdinal (leap : Bool) (ordinal : Nat) : Nat :=
  if ordinal < 31 then 1
  else if ordinal < 59 + leap.toNat then 2
  else (5 * (ordinal - 59 - leap.toNat) + 2) / 153 + 3

/-- The number of days of a month. -/
def monthLength (leap : Bool) (month : Nat) : Nat :=
  if month = 2 then 28 + leap.toNat
  else if month = 4 ∨ month = 6 ∨ month = 9 ∨ month = 11 then 30
  else 31

/-- The day number of the first of a month. -/
def monthStart (y : Int) (month : Nat) : Int :=
  yearStart y + daysBefore (isLeap y) month

/-- The position of a day in its year, counted from 0. -/
def ordinalOf (n : Int) : Nat :=
  (n - yearStart (yearOf n)).toNat

/-- The month of a day. -/
def monthOf (n : Int) : Nat :=
  monthOfOrdinal (isLeap (yearOf n)) (ordinalOf n)

/-- The day of the month. -/
def dayOf (n : Int) : Nat :=
  ordinalOf n - daysBefore (isLeap (yearOf n)) (monthOf n) + 1

/-- The number of days since the last Monday. -/
def weekday (n : Int) : Int :=
  (n + 3) % 7

/-- The Monday on or before a day. -/
def monday (n : Int) : Int :=
  n - weekday n

/-- The ISO year of a day: the year that holds the Thursday of its week. -/
def isoYear (n : Int) : Int :=
  yearOf (monday n + 3)

/-- The ISO week of a day: the number of Thursdays of the ISO year up to that of the week. -/
def isoWeek (n : Int) : Nat :=
  ordinalOf (monday n + 3) / 7 + 1

/-- The Monday of the first ISO week of a year, the week of 4 January. -/
def isoYearStart (y : Int) : Int :=
  monday (yearStart y + 3)

/-! ## Years

A year begins where the one before it ends, and is 365 or 366 days long. The year of a day is then
the one that the day is in, whatever the estimate is by which it is found. -/

/-- The next year begins 365 or 366 days later. -/
theorem yearStart_succ (y : Int) : yearStart (y + 1) = yearStart y + 365 + (isLeap y).toNat := by
  unfold yearStart isLeap
  by_cases h4 : y % 4 = 0 <;> by_cases h100 : y % 100 = 0 <;> by_cases h400 : y % 400 = 0 <;>
    simp [h4, h100, h400] <;> omega

/-- No year is empty. -/
theorem yearStart_lt_succ (y : Int) : yearStart y < yearStart (y + 1) := by
  rw [yearStart_succ]; omega

theorem yearStart_add_le (y : Int) (k : Nat) : yearStart y + k ≤ yearStart (y + k) := by
  induction k with
  | zero => simp
  | succ k ih =>
    have step := yearStart_lt_succ (y + k)
    have shift : y + ((k + 1 : Nat) : Int) = y + k + 1 := by omega
    rw [shift]
    omega

/-- A later year begins later. -/
theorem yearStart_mono {y z : Int} (h : y ≤ z) : yearStart y ≤ yearStart z := by
  have bound := yearStart_add_le y (z - y).toNat
  have reach : y + ((z - y).toNat : Int) = z := by omega
  rw [reach] at bound
  omega

/-- A day is not before its year. -/
theorem yearStart_yearOf_le (n : Int) : yearStart (yearOf n) ≤ n := by
  unfold yearOf
  dsimp only
  split
  · unfold yearStart at *; omega
  · split
    · assumption
    · omega

/-- A day is before the year after its own. -/
theorem lt_yearStart_yearOf_succ (n : Int) : n < yearStart (yearOf n + 1) := by
  unfold yearOf
  dsimp only
  split
  · rename_i h
    simpa using h
  · split
    · unfold yearStart at *; omega
    · omega

/-- A year holds the days from its first of January to the next one. -/
theorem yearOf_eq_iff {n y : Int} : yearOf n = y ↔ yearStart y ≤ n ∧ n < yearStart (y + 1) := by
  have lower := yearStart_yearOf_le n
  have upper := lt_yearStart_yearOf_succ n
  constructor
  · rintro rfl
    exact ⟨lower, upper⟩
  · rintro ⟨h₁, h₂⟩
    rcases Int.lt_trichotomy (yearOf n) y with h | h | h
    · have := yearStart_mono (show yearOf n + 1 ≤ y by omega)
      omega
    · exact h
    · have := yearStart_mono (show y + 1 ≤ yearOf n by omega)
      omega

/-! ## Months

The days of a year are split by its months in the same way. A month is found by the position of a
day in its year, and one month after December stands for the end of the year. -/

/-- The thirteenth month begins where the year ends. -/
theorem daysBefore_thirteen (leap : Bool) : daysBefore leap 13 = 365 + leap.toNat := by
  simp [daysBefore]

/-- The next month begins as many days later as the month is long. -/
theorem daysBefore_succ (leap : Bool) {month : Nat} (h₁ : 1 ≤ month) (h₂ : month ≤ 12) :
    daysBefore leap (month + 1) = daysBefore leap month + monthLength leap month := by
  have cases : month = 1 ∨ month = 2 ∨ month = 3 ∨ month = 4 ∨ month = 5 ∨ month = 6 ∨ month = 7 ∨
      month = 8 ∨ month = 9 ∨ month = 10 ∨ month = 11 ∨ month = 12 := by omega
  rcases cases with rfl | rfl | rfl | rfl | rfl | rfl | rfl | rfl | rfl | rfl | rfl | rfl <;>
    cases leap <;> decide

/-- A later month begins later. -/
theorem daysBefore_mono (leap : Bool) {m m' : Nat} (h : m ≤ m') :
    daysBefore leap m ≤ daysBefore leap m' := by
  unfold daysBefore
  split
  · omega
  · split
    · split
      · omega
      · split <;> omega
    · rw [if_neg (by omega), if_neg (by omega)]
      omega

/-- A day of a year is in one of its twelve months. -/
theorem monthOfOrdinal_bounds (leap : Bool) {ordinal : Nat} (h : ordinal < 365 + leap.toNat) :
    1 ≤ monthOfOrdinal leap ordinal ∧ monthOfOrdinal leap ordinal ≤ 12 := by
  unfold monthOfOrdinal
  split
  · omega
  · split <;> omega

/-- A day is not before its month. -/
theorem daysBefore_monthOfOrdinal_le (leap : Bool) (ordinal : Nat) :
    daysBefore leap (monthOfOrdinal leap ordinal) ≤ ordinal := by
  unfold monthOfOrdinal
  split
  · simp [daysBefore]
  · split
    · simp [daysBefore]; omega
    · unfold daysBefore
      rw [if_neg (by omega), if_neg (by omega)]
      omega

/-- A day is before the month after its own. -/
theorem lt_daysBefore_monthOfOrdinal_succ (leap : Bool) (ordinal : Nat) :
    ordinal < daysBefore leap (monthOfOrdinal leap ordinal + 1) := by
  unfold monthOfOrdinal
  split
  · simp [daysBefore]; omega
  · split
    · simp [daysBefore]; omega
    · unfold daysBefore
      rw [if_neg (by omega), if_neg (by omega)]
      omega

/-- A day is in a month or behind it if it is not before its first day. -/
theorem le_monthOfOrdinal_iff (leap : Bool) (month ordinal : Nat) :
    month ≤ monthOfOrdinal leap ordinal ↔ daysBefore leap month ≤ ordinal := by
  constructor
  · intro h
    exact Nat.le_trans (daysBefore_mono leap h) (daysBefore_monthOfOrdinal_le leap ordinal)
  · intro h
    by_cases later : monthOfOrdinal leap ordinal + 1 ≤ month
    · have := daysBefore_mono leap later
      have := lt_daysBefore_monthOfOrdinal_succ leap ordinal
      omega
    · omega

/-- A day is as far in its year as it is behind the first of January. -/
theorem ordinalOf_eq (n : Int) : (ordinalOf n : Int) = n - yearStart (yearOf n) := by
  have := yearStart_yearOf_le n
  unfold ordinalOf
  omega

/-- A day is in its year. -/
theorem ordinalOf_lt (n : Int) : ordinalOf n < 365 + (isLeap (yearOf n)).toNat := by
  have := ordinalOf_eq n
  have := lt_yearStart_yearOf_succ n
  rw [yearStart_succ] at this
  omega

/-- A day is in one of twelve months. -/
theorem monthOf_bounds (n : Int) : 1 ≤ monthOf n ∧ monthOf n ≤ 12 :=
  monthOfOrdinal_bounds _ (ordinalOf_lt n)

/-- A day is in a year or behind it if it is not before its first day. -/
theorem le_yearOf_iff {y n : Int} : y ≤ yearOf n ↔ yearStart y ≤ n := by
  constructor
  · intro h
    exact Int.le_trans (yearStart_mono h) (yearStart_yearOf_le n)
  · intro h
    by_cases later : yearOf n + 1 ≤ y
    · have := yearStart_mono later
      have := lt_yearStart_yearOf_succ n
      omega
    · omega

end ActivityMetrics.Calendar
