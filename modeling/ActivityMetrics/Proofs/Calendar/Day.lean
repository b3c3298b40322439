import ActivityMetrics.Calendar.Date

/-!
# A day as year, month and day of the month

A day is a number, counted from the beginning of 1970; its year, its month and its day of the month
are read off from the number. So there is nothing to be kept in step, but each property of the three
numbers has to be shown. They determine the day (`monthStart_add_dayOf`), and days are ordered as
their numbers, the year first (`lt_iff_civil_lt`). The second is what makes texts of dates
comparable, where the numbers stand one after another.

Two sets of days come up again and again. A day of the years 0 to 9999 is written with a year of
four digits, and only among those is the order of texts the order of days. A day that is a year away
from both ends of the calendar has a bucket of every period around it. Both are intervals, so a day
between two such days is another one, and no window has to be looked at day by day.

A day has one ISO year and week, those of the week that it lies in (`isoYear_isoWeek_iff`). They are
read off from the Monday of the week, and the year of a Monday is the one whose first week it is not
before.
-/

namespace ActivityMetrics.Calendar

/-! ## The day of the month -/

/-- A month does not begin after its days. -/
theorem daysBefore_monthOf_le (n : Int) :
    daysBefore (isLeap (yearOf n)) (monthOf n) ≤ ordinalOf n :=
  daysBefore_monthOfOrdinal_le _ _

/-- The next month begins after the days of a month. -/
theorem lt_daysBefore_monthOf_succ (n : Int) :
    ordinalOf n < daysBefore (isLeap (yearOf n)) (monthOf n + 1) :=
  lt_daysBefore_monthOfOrdinal_succ _ _

theorem one_le_dayOf (n : Int) : 1 ≤ dayOf n :=
  Nat.le_add_left 1 _

/-- **The three numbers of a day determine it.** The day of the month counts from 1, which is why
one is left over. -/
theorem monthStart_add_dayOf (n : Int) :
    monthStart (yearOf n) (monthOf n) + dayOf n = n + 1 := by
  have place := ordinalOf_eq n
  have before := daysBefore_monthOf_le n
  unfold monthStart dayOf
  omega

theorem monthLength_le (leap : Bool) (month : Nat) : monthLength leap month ≤ 31 := by
  have := Bool.toNat_le leap
  unfold monthLength
  split
  · omega
  · split <;> omega

theorem dayOf_le_monthLength (n : Int) :
    dayOf n ≤ monthLength (isLeap (yearOf n)) (monthOf n) := by
  have bounds := monthOf_bounds n
  have before := daysBefore_monthOf_le n
  have next := lt_daysBefore_monthOf_succ n
  rw [daysBefore_succ _ bounds.1 bounds.2] at next
  unfold dayOf
  omega

theorem dayOf_le (n : Int) : dayOf n ≤ 31 :=
  Nat.le_trans (dayOf_le_monthLength n) (monthLength_le _ _)

/-! ## The order of days -/

theorem yearOf_mono {n k : Int} (h : n ≤ k) : yearOf n ≤ yearOf k :=
  le_yearOf_iff.2 (Int.le_trans (yearStart_yearOf_le n) h)

/-- An earlier month of a year ends before a later one begins. Months are cumulated over the year,
so this does not ask for their lengths. -/
theorem lt_of_monthOf_lt {n k : Int} (year : yearOf n = yearOf k) (month : monthOf n < monthOf k) :
    n < k := by
  have placeN := ordinalOf_eq n
  have placeK := ordinalOf_eq k
  have next := lt_daysBefore_monthOf_succ n
  have before := daysBefore_monthOf_le k
  have := daysBefore_mono (isLeap (yearOf k)) (show monthOf n + 1 ≤ monthOf k from month)
  rw [year] at placeN next
  omega

theorem lt_of_dayOf_lt {n k : Int} (year : yearOf n = yearOf k) (month : monthOf n = monthOf k)
    (day : dayOf n < dayOf k) : n < k := by
  have hn := monthStart_add_dayOf n
  have hk := monthStart_add_dayOf k
  rw [year, month] at hn
  omega

/-- **Days are ordered as their numbers**, the year first and the day of the month last. It is the
lexicographic order, which the text of a date has as well. -/
theorem lt_iff_civil_lt {n k : Int} :
    n < k ↔ yearOf n < yearOf k ∨ (yearOf n = yearOf k ∧
      (monthOf n < monthOf k ∨ (monthOf n = monthOf k ∧ dayOf n < dayOf k))) := by
  constructor
  · intro h
    -- the first of the three numbers that differs decides
    have years := yearOf_mono (Int.le_of_lt h)
    by_cases year : yearOf n = yearOf k
    · refine .inr ⟨year, ?_⟩
      rcases Nat.lt_trichotomy (monthOf n) (monthOf k) with month | month | month
      · exact .inl month
      · refine .inr ⟨month, ?_⟩
        have hn := monthStart_add_dayOf n
        have hk := monthStart_add_dayOf k
        rw [year, month] at hn
        omega
      · have := lt_of_monthOf_lt year.symm month
        omega
    · exact .inl (by omega)
  · rintro (h | ⟨year, h | ⟨month, h⟩⟩)
    · have := le_yearOf_iff.1 (show yearOf n + 1 ≤ yearOf k by omega)
      have := lt_yearStart_yearOf_succ n
      omega
    · exact lt_of_monthOf_lt year h
    · exact lt_of_dayOf_lt year month h

/-! ## ISO weeks -/

/-- The first Monday of an ISO year is at most three days away from the first of January, since the
first week is the one with most of its days in the year. -/
theorem isoYearStart_bounds (y : Int) :
    monday (isoYearStart y) = isoYearStart y ∧
      yearStart y - 3 ≤ isoYearStart y ∧ isoYearStart y ≤ yearStart y + 3 := by
  simp only [isoYearStart, monday, weekday]
  omega

/-- **The days of an ISO week** are those whose Monday is so many weeks after the first one of the
year, and before that of the next year. The right side says nothing of how many weeks a year has,
which is 52 or 53. -/
theorem isoYear_isoWeek_iff {n y : Int} {w : Nat} :
    isoYear n = y ∧ isoWeek n = w + 1 ↔
      monday n = isoYearStart y + 7 * w ∧ monday n < isoYearStart (y + 1) := by
  have begins := isoYearStart_bounds y
  have ends := isoYearStart_bounds (y + 1)
  have thursday := yearOf_eq_iff (n := monday n + 3) (y := y)
  have place := ordinalOf_eq (monday n + 3)
  simp only [monday, weekday] at begins ends thursday place ⊢
  simp only [isoYear, isoWeek, monday, weekday]
  constructor
  · rintro ⟨rfl, week⟩
    have within := thursday.1 rfl
    omega
  · rintro ⟨first, last⟩
    have year := thursday.2 (by omega)
    rw [year] at place ⊢
    exact ⟨rfl, by omega⟩

/-! ## Years of four digits -/

/-- The year of a date has four digits. A year before or after is written with a sign, and so it is
out of order as a text. -/
def Date.FourDigit (d : Date) : Prop :=
  0 ≤ d.year ∧ d.year ≤ 9999

instance (d : Date) : Decidable d.FourDigit :=
  inferInstanceAs (Decidable (_ ∧ _))

/-- The last day with a year of four digits, as a number. Windows are compared with this number, so
that no year has to be taken from their ends. -/
theorem Date.year_le_iff {d : Date} : d.year ≤ 9999 ↔ d.day ≤ 2932896 := by
  have high : 10000 ≤ d.year ↔ 2932897 ≤ d.day := le_yearOf_iff
  omega

/-- The dates with a year of four digits form an interval. -/
theorem Date.fourDigit_iff {d : Date} : d.FourDigit ↔ -719528 ≤ d.day ∧ d.day ≤ 2932896 := by
  have low : 0 ≤ d.year ↔ -719528 ≤ d.day := le_yearOf_iff
  rw [Date.FourDigit, low, Date.year_le_iff]

theorem Date.FourDigit.between {a b d : Date} (ha : a.FourDigit) (hb : b.FourDigit)
    (had : a.day ≤ d.day) (hdb : d.day ≤ b.day) : d.FourDigit := by
  rw [Date.fourDigit_iff] at *
  omega

/-! ## Years inside the calendar -/

/-- The calendar goes on for a year before a date, and for a year after it. So every bucket around
the date, even that of its year, begins and ends within the calendar. -/
def Date.Inner (d : Date) : Prop :=
  -262142 ≤ d.year ∧ d.year ≤ 262141

instance (d : Date) : Decidable d.Inner :=
  inferInstanceAs (Decidable (_ ∧ _))

theorem Date.inner_iff {d : Date} :
    d.Inner ↔ firstDay + 365 ≤ d.day ∧ d.day + 365 ≤ lastDay := by
  have low : -262142 ≤ d.year ↔ firstDay + 365 ≤ d.day := le_yearOf_iff
  have high : 262142 ≤ d.year ↔ lastDay - 364 ≤ d.day := le_yearOf_iff
  unfold Date.Inner
  omega

theorem Date.FourDigit.inner {d : Date} (h : d.FourDigit) : d.Inner :=
  ⟨by have := h.1; omega, by have := h.2; omega⟩

end ActivityMetrics.Calendar
