import ActivityMetrics.Proofs.Calendar.Stamp
import ActivityMetrics.Proofs.Text.Bytes

/-!
# The order of texts is the order of time

Instants are ordered by the seconds that they lie in, and a leap second comes after the second that
it is counted with. That is the order of their six numbers (`Instant.lt_iff_numbers_lt`), and so the
order of their texts, since all numbers are padded (`Instant.text_lt_text_iff`). The text of a date
is the beginning of those of its instants, so it comes before all of them and after those of earlier
days.

The order of time is defined by seconds and not by the six numbers, although the second would be
nearer to the text. Otherwise the result would only compare two ways of writing an instant, and say
nothing of time.

The database compares bytes. The texts are made of plain characters, but that they are is not used:
the order of texts and that of their bytes is the same for all texts.
-/

namespace ActivityMetrics.Calendar

open Text

/-! ## The order of instants -/

/-- The second that an instant lies in, counted from the beginning of 1970. A leap second is counted
with the second before it. -/
def Instant.seconds (t : Instant) : Int :=
  t.date.unixMidnight + (t.hour * 3600 + t.minute * 60 + min t.second 59 : Nat)

/-- Instants are ordered by their seconds; a leap second is the later one of its second. -/
instance : LT Instant :=
  ⟨fun t u => t.seconds < u.seconds ∨ (t.seconds = u.seconds ∧ t.second < u.second)⟩

instance (t u : Instant) : Decidable (t < u) :=
  inferInstanceAs (Decidable (_ ∨ (_ ∧ _)))

variable {t u : Instant} {d e : Date}

/-- The times of day are ordered as their numbers, the hour first. -/
def Instant.ClockLt (t u : Instant) : Prop :=
  t.hour < u.hour ∨ (t.hour = u.hour ∧
    (t.minute < u.minute ∨ (t.minute = u.minute ∧ t.second < u.second)))

/-- **Instants are ordered as their numbers**, the day first. A day has 86400 seconds, none of which
is counted twice apart from a leap second, so the count of seconds is a numeral with the digits
hour, minute and second. -/
theorem Instant.lt_iff_numbers_lt :
    t < u ↔ t.date.day < u.date.day ∨ (t.date.day = u.date.day ∧ t.ClockLt u) := by
  have hourT := t.hour_lt
  have hourU := u.hour_lt
  have minuteT := t.minute_lt
  have minuteU := u.minute_lt
  have secondT := t.second_le
  have secondU := u.second_le
  show (t.seconds < u.seconds ∨ (t.seconds = u.seconds ∧ t.second < u.second)) ↔ _
  unfold seconds Date.unixMidnight ClockLt
  omega

/-! ## The order of texts -/

theorem Date.text_eq_text_iff (hd : d.FourDigit) (he : e.FourDigit) :
    d.text.toList = e.text.toList ↔ d.day = e.day := by
  constructor
  · intro same
    rcases Int.lt_trichotomy d.day e.day with before | days | after
    · have less := (text_lt_text_iff hd he).2 before
      rw [same] at less
      exact absurd less (List.lt_irrefl _)
    · exact days
    · have less := (text_lt_text_iff he hd).2 after
      rw [same] at less
      exact absurd less (List.lt_irrefl _)
  · intro same
    rw [Date.ext same]

/-- The texts of times of day are ordered as their numbers. Each number is padded to two digits, so
the first one that differs decides as text as well. -/
theorem Instant.clockChars_lt_iff : t.clockChars < u.clockChars ↔ t.ClockLt u := by
  have hourT := t.hour_lt
  have hourU := u.hour_lt
  have minuteT := t.minute_lt
  have minuteU := u.minute_lt
  have secondT := t.second_le
  have secondU := u.second_le
  rw [clockChars, clockChars, List.cons_lt_cons_self,
    padded_append_lt_iff (by decide) (by omega) (by omega), List.cons_lt_cons_self,
    padded_append_lt_iff (by decide) (by omega) (by omega), List.cons_lt_cons_self,
    padded_lt_padded_iff (by decide) (by omega) (by omega)]
  rfl

/-- **The texts of instants are ordered as the instants.** The dates in front have the same length,
so they decide unless they are equal. -/
theorem Instant.text_lt_text_iff (ht : t.date.FourDigit) (hu : u.date.FourDigit) :
    t.text < u.text ↔ t < u := by
  rw [String.lt_iff, t.toList_text, u.toList_text,
    append_lt_append_iff (by rw [ht.length_text, hu.length_text]), Date.text_lt_text_iff ht hu,
    Date.text_eq_text_iff ht hu, clockChars_lt_iff, lt_iff_numbers_lt]

/-- **Comparing texts byte by byte compares times**, if years have four digits: instants with
instants, leap seconds included, and dates with instants as windows do.

The three parts are the comparisons that are made with stored times. Enrollments compare instants,
and a window begins at a date and ends before one. The condition on years cannot be left out, since
the texts of all other years begin with a sign. -/
theorem Instant.text_order_is_time_order (ht : t.date.FourDigit) (hu : u.date.FourDigit)
    (hd : d.FourDigit) :
    (bytes t.text < bytes u.text ↔ t < u) ∧
      (bytes d.text ≤ bytes t.text ↔ d ≤ t.date) ∧
        (bytes t.text < bytes d.text ↔ t.date < d) := by
  have days : bytes t.text < bytes d.text ↔ t.date < d := by
    rw [← lt_iff_bytes_lt]
    exact Date.lt_text_iff_of_begins ht hd t.toList_text
  refine ⟨?_, ?_, days⟩
  · rw [← lt_iff_bytes_lt, text_lt_text_iff ht hu]
  · rw [← List.not_lt, days]
    exact Int.not_lt

/-- The leap second at the end of 2016. -/
def Instant.leap : Instant :=
  Date.leapSecond ⟨17166, by decide, by decide⟩

/-- The first day of 2017. -/
def Date.afterLeap : Date :=
  ⟨17167, by decide, by decide⟩

/-- The leap second is before the next midnight, before the next date, and not before its own. -/
theorem Instant.text_order_is_time_order_leap :
    (leap.date.FourDigit ∧ Date.afterLeap.FourDigit) ∧
      bytes "2016-12-31 23:59:60" < bytes "2017-01-01 00:00:00" ∧
        bytes "2016-12-31" ≤ bytes "2016-12-31 23:59:60" ∧
          bytes "2016-12-31 23:59:60" < bytes "2017-01-01" := by
  have old : leap.date.FourDigit := by decide
  have new : Date.afterLeap.FourDigit := by decide
  have own : leap.date.text = "2016-12-31" := by decide
  have text : leap.text = "2016-12-31 23:59:60" := by decide
  have next : Date.afterLeap.text = "2017-01-01" := by decide
  have midnight : Date.afterLeap.midnight.text = "2017-01-01 00:00:00" := by decide
  have own_date := text_order_is_time_order (t := leap) old old old
  have next_date := text_order_is_time_order (t := leap) (u := Date.afterLeap.midnight) old new new
  rw [own, text] at own_date
  rw [next, text, midnight] at next_date
  exact ⟨⟨old, new⟩, next_date.1.2 (by decide), own_date.2.1.2 (by decide),
    next_date.2.2.2 (by decide)⟩

end ActivityMetrics.Calendar
