import ActivityMetrics.Calendar.Civil
import ActivityMetrics.Text.Digit

/-!
# Dates

A date is a day of the calendar, which reaches from 1 January of the year -262143 to 31 December of
the year 262142. It is held as its day number together with a proof that the day lies in the
calendar, so there is no date that does not exist; arithmetic that would leave the calendar has no
result.

The text of a date is `2025-03-04`. A year outside 0 to 9999 is written with its sign.
-/

namespace ActivityMetrics.Calendar

/-- The day number of the first day of the calendar. -/
def firstDay : Int := -96465292

/-- The day number of the last day of the calendar. -/
def lastDay : Int := 95026236

example : firstDay = yearStart (-262143) := by decide
example : lastDay + 1 = yearStart 262143 := by decide

/-- A day of the calendar. -/
@[ext]
structure Date where
  /-- The number of days since 1 January 1970. -/
  day : Int
  /-- The calendar has begun. -/
  first_le : firstDay ≤ day
  /-- The calendar has not ended. -/
  le_last : day ≤ lastDay
deriving DecidableEq

namespace Date

/-- Dates are ordered as their days. -/
instance : LT Date := ⟨fun a b => a.day < b.day⟩

/-- Dates are ordered as their days. -/
instance : LE Date := ⟨fun a b => a.day ≤ b.day⟩

instance (a b : Date) : Decidable (a < b) := inferInstanceAs (Decidable (a.day < b.day))

instance (a b : Date) : Decidable (a ≤ b) := inferInstanceAs (Decidable (a.day ≤ b.day))

/-- The first of January 1970. -/
instance : Inhabited Date := ⟨⟨0, by decide, by decide⟩⟩

/-- The date with a day number, if the calendar has that day. -/
def ofDay? (n : Int) : Option Date :=
  if h : firstDay ≤ n ∧ n ≤ lastDay then some ⟨n, h.1, h.2⟩ else none

@[simp]
theorem ofDay?_day (d : Date) : ofDay? d.day = some d := by
  simp [ofDay?, d.first_le, d.le_last]

theorem ofDay?_eq_some_iff {n : Int} {d : Date} : ofDay? n = some d ↔ d.day = n := by
  constructor
  · intro h
    unfold ofDay? at h
    split at h
    · cases h
      rfl
    · cases h
  · rintro rfl
    exact ofDay?_day d

/-- The date a number of days later, or earlier when the number is negative. -/
def addDays? (d : Date) (k : Int) : Option Date :=
  ofDay? (d.day + k)

/-- The calendar year. -/
def year (d : Date) : Int :=
  yearOf d.day

/-- The month, from 1 to 12. -/
def month (d : Date) : Nat :=
  monthOf d.day

/-- The day of the month, from 1. -/
def dayOfMonth (d : Date) : Nat :=
  dayOf d.day

/-- The date of a year, month and day of the month, if the calendar has it. -/
def ofCivil? (year : Int) (month day : Nat) : Option Date :=
  if 1 ≤ month ∧ month ≤ 12 ∧ 1 ≤ day ∧ day ≤ monthLength (isLeap year) month then
    ofDay? (monthStart year month + (day - 1 : Nat))
  else none

/-- The Monday of an ISO week, if the year has that week and the calendar that Monday. -/
def ofIsoWeek? (year : Int) (week : Nat) : Option Date :=
  let start := isoYearStart year + 7 * ((week : Int) - 1)
  if 1 ≤ week ∧ start < isoYearStart (year + 1) then ofDay? start else none

/-- The number of seconds from the beginning of 1970 to the beginning of the day. -/
def unixMidnight (d : Date) : Int :=
  d.day * 86400

end Date

/-- The text of a year: four digits, or more behind a sign. -/
def yearText (y : Int) : String :=
  if 0 ≤ y ∧ y ≤ 9999 then Text.padded 4 y.toNat
  else (if y < 0 then "-" else "+") ++ Text.padded 4 y.natAbs

/-- The text of a date. -/
def Date.text (d : Date) : String :=
  yearText d.year ++ "-" ++ Text.padded 2 d.month ++ "-" ++ Text.padded 2 d.dayOfMonth

/-- An instant of whole seconds. Any minute may have a leap second, number 60. -/
@[ext]
structure Instant where
  /-- The day. -/
  date : Date
  /-- The hour of the day. -/
  hour : Nat
  /-- The minute of the hour. -/
  minute : Nat
  /-- The second of the minute. -/
  second : Nat
  /-- A day has 24 hours. -/
  hour_lt : hour < 24
  /-- An hour has 60 minutes. -/
  minute_lt : minute < 60
  /-- A minute has 60 seconds, or 61. -/
  second_le : second ≤ 60
deriving DecidableEq

/-- The beginning of a day. -/
def Date.midnight (d : Date) : Instant :=
  ⟨d, 0, 0, 0, by decide, by decide, by decide⟩

/-- The text of an instant, `2025-03-04 10:11:12`. -/
def Instant.text (t : Instant) : String :=
  t.date.text ++ " " ++ Text.padded 2 t.hour ++ ":" ++ Text.padded 2 t.minute ++ ":"
    ++ Text.padded 2 t.second

/-- The English abbreviation of a month. -/
def monthName (month : Nat) : String :=
  ["Jan", "Feb", "Mar", "Apr", "May", "Jun", "Jul", "Aug", "Sep", "Oct", "Nov", "Dec"].getD
    (month - 1) ""

end ActivityMetrics.Calendar
