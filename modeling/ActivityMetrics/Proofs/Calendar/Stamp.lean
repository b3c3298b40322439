import ActivityMetrics.Proofs.Calendar.Day
import ActivityMetrics.Proofs.Text.Padded

/-!
# Stamps

A *stamp* of a day is a text that stands for a time of it: the date alone, or the date with a time
of day of whole seconds. Records keep stamps and windows are given by dates, and the two are
compared as text. Since a stamp begins with its date, the comparison sees the days and stops there
(`Date.text_le_stamp_iff`, `Date.stamp_lt_text_iff`): the time of day cannot matter, as the date of
the window has nothing left to compare it with.

This needs years of four digits on both sides. The text of a later year begins with a sign, which
comes before all digits, so a window that ends in the year 10000 ends before everything
(`Date.begins_lt_text_iff`).
-/

namespace ActivityMetrics.Calendar

open Text

/-- A text that stands for a time of a day. Leap seconds are left out, which the database would not
take for a time. -/
inductive Date.Stamp (d : Date) : String → Prop where
  /-- The date alone. -/
  | date : d.Stamp d.text
  /-- The date with a time of day. -/
  | instant (t : Instant) (on_day : t.date = d) (second_lt : t.second < 60) : d.Stamp t.text

/-- The characters of the time of day, with a blank in front. -/
def Instant.clockChars (t : Instant) : List Char :=
  ' ' :: ((padded 2 t.hour).toList ++ ':' :: ((padded 2 t.minute).toList
    ++ ':' :: (padded 2 t.second).toList))

/-- The characters of a date of three numbers. -/
def civilChars (y m d : Nat) : List Char :=
  (padded 4 y).toList ++ '-' :: ((padded 2 m).toList ++ '-' :: (padded 2 d).toList)

/-- A year is a number of four digits, or it has a sign in front. These are the three shapes that
any text of a date begins with. -/
theorem toList_yearText (y : Int) :
    (0 ≤ y ∧ y ≤ 9999 ∧ (yearText y).toList = (padded 4 y.toNat).toList) ∨
      (y < 0 ∧ (yearText y).toList = '-' :: (padded 4 y.natAbs).toList) ∨
      (9999 < y ∧ (yearText y).toList = '+' :: (padded 4 y.natAbs).toList) := by
  unfold yearText
  split
  · rename_i few
    exact .inl ⟨few.1, few.2, rfl⟩
  · split
    · refine .inr (.inl ⟨by assumption, ?_⟩)
      rw [String.toList_append]
      rfl
    · refine .inr (.inr ⟨by omega, ?_⟩)
      rw [String.toList_append]
      rfl

namespace Date

theorem FourDigit.toNat_year {d : Date} (h : d.FourDigit) : (d.year.toNat : Int) = d.year :=
  Int.toNat_of_nonneg h.1

theorem FourDigit.toNat_year_lt {d : Date} (h : d.FourDigit) : d.year.toNat < 10 ^ 4 := by
  have := h.1
  have := h.2
  omega

theorem month_lt (d : Date) : d.month < 10 ^ 2 := by
  have : d.month ≤ 12 := (monthOf_bounds d.day).2
  omega

theorem dayOfMonth_lt (d : Date) : d.dayOfMonth < 10 ^ 2 := by
  have : d.dayOfMonth ≤ 31 := dayOf_le d.day
  omega

theorem toList_text (d : Date) :
    d.text.toList = (yearText d.year).toList ++ '-' :: ((padded 2 d.month).toList
      ++ '-' :: (padded 2 d.dayOfMonth).toList) := by
  simp only [text, String.toList_append, String.reduceToList, List.append_assoc, List.cons_append,
    List.nil_append]

theorem FourDigit.toList_text {d : Date} (h : d.FourDigit) :
    d.text.toList = civilChars d.year.toNat d.month d.dayOfMonth := by
  rw [d.toList_text, yearText, if_pos (show 0 ≤ d.year ∧ d.year ≤ 9999 from h), civilChars]

theorem FourDigit.length_text {d : Date} (h : d.FourDigit) : d.text.toList.length = 10 := by
  rw [h.toList_text, civilChars, List.length_append, List.length_cons, List.length_append,
    List.length_cons, length_padded (by decide) h.toNat_year_lt,
    length_padded (by decide) d.month_lt, length_padded (by decide) d.dayOfMonth_lt]

/-- **The texts of dates are ordered as the dates.** All numbers are padded, so they are compared
one after another, and that is how days are ordered. -/
theorem text_lt_text_iff {d e : Date} (hd : d.FourDigit) (he : e.FourDigit) :
    d.text.toList < e.text.toList ↔ d.day < e.day := by
  have yearD := hd.toNat_year
  have yearE := he.toNat_year
  have years : d.year.toNat = e.year.toNat ↔ d.year = e.year := by omega
  have yearsLt : d.year.toNat < e.year.toNat ↔ d.year < e.year := by omega
  rw [hd.toList_text, he.toList_text, civilChars, civilChars,
    padded_append_lt_iff (by decide) hd.toNat_year_lt he.toNat_year_lt, List.cons_lt_cons_self,
    padded_append_lt_iff (by decide) d.month_lt e.month_lt, List.cons_lt_cons_self,
    padded_lt_padded_iff (by decide) d.dayOfMonth_lt e.dayOfMonth_lt, years, yearsLt]
  exact lt_iff_civil_lt.symm

end Date

theorem Instant.toList_text (t : Instant) :
    t.text.toList = t.date.text.toList ++ t.clockChars := by
  rw [text, clockChars]
  simp only [String.toList_append, String.reduceToList, List.append_assoc, List.nil_append,
    List.cons_append]

namespace Date

/-- A stamp begins with its date, and this is all that a comparison with a date needs to know of
it. -/
theorem Stamp.toList_eq {d : Date} {s : String} (h : d.Stamp s) :
    ∃ rest, s.toList = d.text.toList ++ rest := by
  cases h with
  | date => exact ⟨[], (List.append_nil _).symm⟩
  | instant t on_day _ => exact ⟨t.clockChars, by rw [t.toList_text, on_day]⟩

/-- A text that begins with a date is less than another date exactly when its day is before it. -/
theorem lt_text_iff_of_begins {d e : Date} {s : String} (hd : d.FourDigit) (he : e.FourDigit)
    {rest : List Char} (begins : s.toList = d.text.toList ++ rest) :
    s < e.text ↔ d.day < e.day := by
  rw [String.lt_iff, begins, ← List.append_nil e.text.toList,
    append_lt_append_iff (by rw [hd.length_text, he.length_text]), text_lt_text_iff hd he]
  simp only [List.not_lt_nil, and_false, or_false]

/-- The text of a year outside 0 to 9999 begins with a sign, which comes before all digits. -/
theorem exists_sign_of_not_fourDigit {e : Date} (he : ¬ e.FourDigit) :
    ∃ sign cs, e.text.toList = sign :: cs ∧ sign.toNat < 48 := by
  rcases toList_yearText e.year with ⟨low, high, _⟩ | ⟨_, year⟩ | ⟨_, year⟩
  · exact absurd ⟨low, high⟩ he
  · exact ⟨'-', _, by rw [e.toList_text, year, List.cons_append], by decide⟩
  · exact ⟨'+', _, by rw [e.toList_text, year, List.cons_append], by decide⟩

/-- **A text that begins with a date is less than another date** exactly when its day is before it,
unless the year of the other one has more than four digits: a sign comes before all digits, so
nothing is less than such a date. -/
theorem begins_lt_text_iff {d e : Date} {s : String} (hd : d.FourDigit) {rest : List Char}
    (begins : s.toList = d.text.toList ++ rest) :
    s < e.text ↔ d.day < e.day ∧ e.year ≤ 9999 := by
  by_cases he : e.FourDigit
  · rw [lt_text_iff_of_begins hd he begins, and_iff_left he.2]
  · obtain ⟨sign, cs, signed, low⟩ := exists_sign_of_not_fourDigit he
    obtain ⟨c, ds, first, digit⟩ :=
      exists_padded_eq_cons (show 0 < 4 by decide) hd.toNat_year_lt
    have begun : s.toList = c :: (ds ++ '-' :: ((padded 2 d.month).toList ++ '-' ::
        (padded 2 d.dayOfMonth).toList) ++ rest) := by
      rw [begins, hd.toList_text, civilChars, first]
      simp only [List.cons_append, List.append_assoc]
    have high := digit_bounds digit
    refine iff_of_false ?_ fun ⟨before, few⟩ => he ⟨?_, few⟩
    · rw [String.lt_iff, begun, signed, List.cons_lt_cons_iff, char_lt_iff]
      rintro (less | ⟨rfl, _⟩) <;> omega
    · exact Int.le_trans hd.1 (yearOf_mono (Int.le_of_lt before))

/-- **A stamp is less than a date as text exactly when its day is before the date.** This is the end
of a window, which is excluded. -/
theorem stamp_lt_text_iff {d e : Date} {s : String} (hd : d.FourDigit) (he : e.FourDigit)
    (hs : d.Stamp s) : s < e.text ↔ d.day < e.day := by
  obtain ⟨rest, begins⟩ := hs.toList_eq
  exact lt_text_iff_of_begins hd he begins

/-- The text of a date is at most that of a later one. -/
theorem text_le_text {d e : Date} (hd : d.FourDigit) (he : e.FourDigit) (h : d.day ≤ e.day) :
    d.text ≤ e.text := by
  rw [← String.not_lt, stamp_lt_text_iff he hd .date]
  exact Int.not_lt.2 h

/-- **A date is at most a stamp as text exactly when it is not after the day of the stamp.** This is
the beginning of a window, which is included. -/
theorem text_le_stamp_iff {d e : Date} {s : String} (hd : d.FourDigit) (he : e.FourDigit)
    (hs : d.Stamp s) : e.text ≤ s ↔ e.day ≤ d.day := by
  rw [← String.not_lt, stamp_lt_text_iff hd he hs, Int.not_lt]

end Date

/-- **An instant lies in a window of texts exactly when its day lies in the window of days**, leap
seconds included. Together with the two statements before it, this is why a condition on texts may
stand in for one on days. -/
theorem Instant.text_mem_window_iff {t : Instant} {start stop : Date} (year : t.date.FourDigit)
    (first : start.FourDigit) (last : stop.FourDigit) :
    (start.text ≤ t.text ∧ t.text < stop.text) ↔
      (start.day ≤ t.date.day ∧ t.date.day < stop.day) := by
  rw [← String.not_lt, Date.lt_text_iff_of_begins year first t.toList_text,
    Date.lt_text_iff_of_begins year last t.toList_text, Int.not_lt]

/-- The leap second at the end of a day. -/
def Date.leapSecond (d : Date) : Instant :=
  ⟨d, 23, 59, 60, by decide, by decide, by decide⟩

/-- The last second of the first of January 2021, a Friday in week 53 of the year before. -/
def Instant.newYear : Instant :=
  ⟨⟨18628, by decide, by decide⟩, 23, 59, 59, by decide, by decide, by decide⟩

theorem Date.stamp_newYear : Instant.newYear.date.Stamp "2021-01-01 23:59:59" := by
  have text : Instant.newYear.text = "2021-01-01 23:59:59" := by decide
  rw [← text]
  exact .instant _ rfl (by decide)

end ActivityMetrics.Calendar
