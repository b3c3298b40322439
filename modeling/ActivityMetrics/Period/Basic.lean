import ActivityMetrics.Naming

/-!
# Periods and their buckets

A period cuts the calendar into buckets: days, ISO weeks, months or years. Buckets are numbered by
consecutive integers, their *slots*. `Period.slotOf` is the slot of a day and `Period.slotStart` the
first day of a slot, and the two determine each other: a slot begins on or before a day exactly when
it is not later than the slot of the day (`Period.slotStart_le_iff`). The window of a series is
therefore an interval of slots, and its buckets are listed without a search.

Answers name a bucket by its *identifier*, which can be read: `202501` is the first week of 2025.
-/

namespace ActivityMetrics

open Calendar

/-- How finely a series is cut. -/
inductive Period where
  /-- Days. -/
  | day
  /-- ISO weeks, from Monday to Sunday. -/
  | week
  /-- Calendar months. -/
  | month
  /-- Calendar years. -/
  | year
deriving DecidableEq, Repr

namespace Period

/-- The name of a period. -/
def name : Period → String
  | .day => "day"
  | .week => "week"
  | .month => "month"
  | .year => "year"

/-- The period of a name in normal form. -/
def ofNormalName? : String → Option Period
  | "day" | "days" | "daily" => some .day
  | "week" | "weeks" | "weekly" => some .week
  | "month" | "months" | "monthly" => some .month
  | "year" | "years" | "yearly" | "annual" => some .year
  | _ => none

/-- The period that a name stands for. -/
def ofName (s : String) : Outcome Period :=
  match ofNormalName? (normalName s) with
  | some p => .ok p
  | none => .error (.filter (.period (normalName s)))

/-! ## Slots -/

/-- The slot of a day. -/
def slotOf (p : Period) (n : Int) : Int :=
  match p with
  | .day => n
  | .week => (n + 3) / 7
  | .month => yearOf n * 12 + (monthOf n - 1 : Nat)
  | .year => yearOf n

/-- The first day of a slot. -/
def slotStart (p : Period) (slot : Int) : Int :=
  match p with
  | .day => slot
  | .week => slot * 7 - 3
  | .month => monthStart (slot / 12) ((slot % 12).toNat + 1)
  | .year => yearStart slot

/-- The identifier of the bucket that holds a day: the second at which a day begins, the ISO year
and week, the months since the year 0, or the year. -/
def bucketId (p : Period) (n : Int) : Int :=
  match p with
  | .day => n * 86400
  | .week => isoYear n * 100 + isoWeek n
  | .month => yearOf n * 12 + monthOf n
  | .year => yearOf n

/-- The first day of the bucket that holds a date. The first week of the calendar may begin before
it. -/
def bucketStart? (p : Period) (d : Date) : Option Date :=
  Date.ofDay? (p.slotStart (p.slotOf d.day))

/-- A month begins on or before a day exactly when it is not later than the month of the day. -/
theorem monthSlotStart_le_iff (slot n : Int) :
    month.slotStart slot ≤ n ↔ slot ≤ month.slotOf n := by
  have bounds := monthOf_bounds n
  have place := ordinalOf_eq n
  have small := daysBefore_mono (isLeap (slot / 12))
    (show (slot % 12).toNat + 1 ≤ 13 by omega)
  rw [daysBefore_thirteen] at small
  have next := yearStart_succ (slot / 12)
  simp only [slotStart, slotOf, monthStart]
  rcases Int.lt_trichotomy (slot / 12) (yearOf n) with h | h | h
  · have := le_yearOf_iff.1 (show slot / 12 + 1 ≤ yearOf n by omega)
    omega
  · have key := le_monthOfOrdinal_iff (isLeap (yearOf n)) ((slot % 12).toNat + 1) (ordinalOf n)
    rw [h]
    change _ ≤ monthOf n ↔ _ at key
    omega
  · have := mt le_yearOf_iff.2 (show ¬ slot / 12 ≤ yearOf n by omega)
    omega

/-- **A slot begins on or before a day exactly when it is not later than the slot of the day.** -/
theorem slotStart_le_iff (p : Period) (slot n : Int) :
    p.slotStart slot ≤ n ↔ slot ≤ p.slotOf n := by
  cases p with
  | day => rfl
  | week => simp only [slotStart, slotOf]; omega
  | month => exact monthSlotStart_le_iff slot n
  | year => exact le_yearOf_iff.symm

/-! ## Buckets of a window -/

/-- A bucket of a series. -/
structure Bucket where
  /-- The identifier. -/
  id : Int
  /-- The first day. -/
  start : Date
deriving DecidableEq

/-- The first day of the bucket after the one that begins on a day, if the calendar has it. A
window that is given by the beginning of its last bucket ends here. -/
def next? (p : Period) (d : Date) : Option Date :=
  match p with
  | .day => d.addDays? 1
  | .week => d.addDays? 7
  | .month =>
    if d.month = 12 then Date.ofCivil? (d.year + 1) 1 1
    else Date.ofCivil? d.year (d.month + 1) 1
  | .year => Date.ofCivil? (d.year + 1) 1 1

/-- The bucket of a slot, if it begins within the calendar. -/
def bucket? (p : Period) (slot : Int) : Option Bucket :=
  (Date.ofDay? (p.slotStart slot)).map fun d => ⟨p.bucketId d.day, d⟩

/-- The number of buckets from that of `start` to the last one that begins before `stop`. -/
def bucketCount (p : Period) (start stop : Date) : Nat :=
  (p.slotOf (stop.day - 1) + 1 - p.slotOf start.day).toNat

/-- The buckets that the window from `start` to `stop`, itself excluded, touches. There is no answer
when one of them, or the one after the last, begins outside the calendar. -/
def buckets? (p : Period) (start stop : Date) : Option (List Bucket) :=
  let first := p.slotOf start.day
  let count := p.bucketCount start stop
  match p.bucket? first, p.bucket? (first + count) with
  | some _, some _ => (List.range count).mapM fun (k : Nat) => p.bucket? (first + k)
  | _, _ => none

/-- The buckets of a window, as a request asks for them. -/
def buckets (p : Period) (start stop : Date) : Outcome (List Bucket) :=
  match p.buckets? start stop with
  | some bs => .ok bs
  | none => .error .beyondCalendar

/-- How a bucket is shown, by its first day. -/
def label (p : Period) (d : Date) : String :=
  match p with
  | .day => d.text
  | .week => toString (isoYear d.day) ++ "-W" ++ Text.padded 2 (isoWeek d.day)
  | .month => monthName d.month ++ " " ++ yearText d.year
  | .year => yearText d.year

end Period

end ActivityMetrics
