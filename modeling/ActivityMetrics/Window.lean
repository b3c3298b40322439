import ActivityMetrics.Period.Basic

/-!
# Named windows

A window of days is given by its first day and the day after its last. It can be named as a year
(`2025`), a quarter (`2025-Q1`), a month (`2025-03`), an ISO week (`2025-W05`), or as the days
before the present one (`30d`).

The forms are told apart by shape, in a fixed order, and only then are their parts read as numbers.
The order matters where shapes overlap. A rolling window is any decimal digits and a `d`, and is
tried first, so `999d` is never taken for a year although it has four bytes. A text of four bytes is
then taken for a year whatever it holds, so a year may have a sign, and what is no number is refused
as a year and not as an unknown form. Of the other forms the year has four decimal digits, of any
script, but only the digits `0` to `9` can be read as a number.

A name fails in two ways, and they are kept apart. If a number cannot be read, or names a day or a
week that does not exist, then the name is at fault (`Failure.filter`). If a day is known to exist
and the calendar ends before the day that is computed from it, the computation breaks off
(`Failure.beyondCalendar`): that is so for the year after a year, for the day after a week and for
the day after a month. No name gets there, since its year has four bytes at most, but this is
something to be proved of the names and nothing that the computation sees to.
-/

namespace ActivityMetrics

open Calendar

/-- A window of days, the last one excluded. -/
abbrev Window := Date × Date

namespace Window

/-- The form of a named window, with the parts that are still to be read as numbers. A form holds
characters, since a part of the right shape may have digits that are not read or a number that is
too large. -/
inductive Form where
  /-- The days before the present one. -/
  | rolling (days : List Char)
  /-- A calendar year. -/
  | year (year : List Char)
  /-- A quarter, from 1 to 4. -/
  | quarter (year : List Char) (quarter : Nat)
  /-- An ISO week. -/
  | week (year week : List Char)
  /-- A calendar month. -/
  | month (year month : List Char)

/-- The number of bytes of a text in UTF-8. -/
def byteLength (cs : List Char) : Nat :=
  cs.foldl (fun n c => n + c.utf8Size) 0

/-- The digits of a rolling window. The letter is looked for at the end, so that everything in front
of it has to be a digit. -/
def rollingDays? (cs : List Char) : Option (List Char) :=
  match cs.reverse with
  | c :: days =>
    if (c = 'd' ∨ c = 'D') ∧ !days.isEmpty ∧ days.all Text.isDecimalDigit then some days.reverse
    else none
  | [] => none

/-- The form of what follows a year and a hyphen. The number of a quarter is a single character and
so it is read here; a week may do without its leading zero, a month may not. -/
def partForm? (year : List Char) : List Char → Option Form
  | ['Q', q] => if '1' ≤ q ∧ q ≤ '4' then some (.quarter year (q.toNat - '0'.toNat)) else none
  | 'W' :: week =>
    if (week.length = 1 ∨ week.length = 2) ∧ week.all Text.isDecimalDigit then
      some (.week year week)
    else none
  | month =>
    if month.length = 2 ∧ month.all Text.isDecimalDigit then some (.month year month) else none

/-- The form of a named window, by the first shape that fits. -/
def form? (cs : List Char) : Option Form :=
  match rollingDays? cs with
  | some days => some (.rolling days)
  | none =>
    if byteLength cs = 4 then some (.year cs)
    else
      match cs with
      | a :: b :: c :: d :: '-' :: rest =>
        if [a, b, c, d].all Text.isDecimalDigit then partForm? [a, b, c, d] rest else none
      | _ => none

/-- A part of a form as a number of 32 bits, with a sign. -/
def readYear (cs : List Char) : Outcome Int :=
  match Text.readInt32? cs with
  | some n => .ok n
  | none => .error (.filter (.number "year" (String.ofList cs)))

/-- A part of a form as a number of 32 bits, without a sign. -/
def readPart (what : String) (cs : List Char) : Outcome Nat :=
  match Text.readNat32? cs with
  | some n => .ok n
  | none => .error (.filter (.number what (String.ofList cs)))

/-- A day that has to exist. The numbers come from the name, so it is the name that is refused if
there is no such day. -/
def civilDay (year : Int) (month day : Nat) : Outcome Date :=
  match Date.ofCivil? year month day with
  | some d => .ok d
  | none => .error (.filter (.noSuchDay year month day))

/-- The year after one. Years have 32 bits, so the largest of them has none; that is a failure of
the computation and no fault of the name. -/
def yearAfter (year : Int) : Outcome Int :=
  if year = 2147483647 then .error .beyondCalendar else .ok (year + 1)

/-- The window of the months from one of a year up to another, which may be month 13. Both days are
asked for by their numbers, so the name is at fault when there is none. -/
def months (year : Int) (first next : Nat) : Outcome Window := do
  let start ← civilDay year first 1
  if next = 13 then
    let after ← yearAfter year
    let stop ← civilDay after 1 1
    return (start, stop)
  else
    let stop ← civilDay year next 1
    return (start, stop)

/-- The window of one month. Only its first day is asked for. The day after its last is where the
next bucket begins, and a calendar that does not reach so far is not the fault of the name. -/
def oneMonth (year : Int) (month : Nat) : Outcome Window := do
  let start ← civilDay year month 1
  match Period.month.next? start with
  | some stop => .ok (start, stop)
  | none => .error .beyondCalendar

/-- The window of the days before `today`. -/
def rolling (days : List Char) (today : Date) : Outcome Window :=
  match Text.readInt64? days with
  | none => .error (.filter (.number "day count" (String.ofList days)))
  | some n =>
    if n = 0 then .error (.filter .emptyRolling)
    else
      match today.addDays? (-n) with
      | some start => .ok (start, today)
      | none => .error (.filter (.rollingTooLong n))

/-- The window of an ISO week. Its Monday is asked for by year and number, and the end is seven days
later, wherever that is. -/
def isoWeek (text : String) (year : Int) (week : Nat) : Outcome Window :=
  match Date.ofIsoWeek? year week with
  | none => .error (.filter (.week text))
  | some start =>
    match start.addDays? 7 with
    | some stop => .ok (start, stop)
    | none => .error .beyondCalendar

/-- The window that a name stands for. White space around a name does not count, and a refusal shows
the name without it. -/
def ofName (s : String) (today : Date) : Outcome Window :=
  let name := Text.trim s
  match form? name.toList with
  | none => .error (.filter (.window name))
  | some (.rolling days) => rolling days today
  | some (.year year) => do
    let y ← readYear year
    months y 1 13
  | some (.quarter year q) => do
    let y ← readYear year
    months y (3 * q - 2) (3 * q + 1)
  | some (.week year week) => do
    let y ← readYear year
    let w ← readPart "week" week
    isoWeek name y w
  | some (.month year month) => do
    let y ← readYear year
    let m ← readPart "month" month
    oneMonth y m

end Window

end ActivityMetrics
