import ActivityMetrics.Calendar.Date
import ActivityMetrics.Decimal.Paired

/-!
# Stored times as statements read them

Times are stored as texts, and a statement reads the text again whenever it needs a date. It reads
more than the library writes: a `T` between date and time, fractions of a second, an offset from
UTC, a time without a date, and the number of a Julian day. A day beyond the end of its month
belongs to the next month. A text that cannot be read has no time, and neither has one outside the
years -4713 to 9999.

Only whole seconds are kept. No result that a statement asks for depends on a fraction of one.
-/

namespace ActivityMetrics

open Calendar

/-- A time that was read. -/
structure StoredTime where
  /-- The number of seconds since the beginning of 1970. -/
  seconds : Int
  /-- The date as it was written, if it still is the date of the time. -/
  written : Option (Int × Nat × Nat)
deriving DecidableEq

namespace StoredTime

/-! ## Reading -/

/-- White space between the parts of a stored time. -/
def isGap (c : Char) : Bool :=
  c = ' ' || (9 ≤ c.toNat && c.toNat ≤ 13)

/-- Reads a number of exactly `width` digits within bounds. -/
def readNumber? (width low high : Nat) (cs : List Char) : Option (Nat × List Char) :=
  let digits := cs.take width
  if digits.length = width then
    (Text.digitsValue? digits).bind fun n =>
      if low ≤ n ∧ n ≤ high then some (n, cs.drop width) else none
  else none

/-- Reads a character that stands for itself. -/
def readMark? (m : Char) : List Char → Option (List Char)
  | c :: cs => if c = m then some cs else none
  | [] => none

/-- Reads the end of a stored time. -/
def readEnd? (cs : List Char) : Option Unit :=
  if (cs.dropWhile isGap).isEmpty then some () else none

/-- Reads an offset from UTC in minutes, up to the end. -/
def readOffset? (cs : List Char) : Option Int :=
  match cs.dropWhile isGap with
  | [] => some 0
  | 'Z' :: rest | 'z' :: rest => (readEnd? rest).map fun _ => 0
  | '+' :: rest => minutes? rest
  | '-' :: rest => (minutes? rest).map fun m => -m
  | _ => none
where
  /-- Reads hours and minutes, up to the end. -/
  minutes? (cs : List Char) : Option Int := do
    let (hours, cs) ← readNumber? 2 0 14 cs
    let cs ← readMark? ':' cs
    let (minutes, cs) ← readNumber? 2 0 59 cs
    readEnd? cs
    return hours * 60 + minutes

/-- Reads the seconds of a time of day, with a fraction that is dropped. Without a colon there are
none. -/
def readSeconds? : List Char → Option (Nat × List Char)
  | ':' :: cs => do
    let (seconds, cs) ← readNumber? 2 0 59 cs
    match cs with
    | '.' :: c :: rest => if c.isDigit then return (seconds, rest.dropWhile Char.isDigit)
                          else return (seconds, cs)
    | _ => return (seconds, cs)
  | cs => some (0, cs)

/-- Reads a time of day, up to the end: its seconds, and the offset in minutes. -/
def readClock? (cs : List Char) : Option (Int × Int) := do
  let (hours, cs) ← readNumber? 2 0 24 cs
  let cs ← readMark? ':' cs
  let (minutes, cs) ← readNumber? 2 0 59 cs
  let (seconds, cs) ← readSeconds? cs
  let offset ← readOffset? cs
  return ((hours * 3600 + minutes * 60 + seconds : Nat), offset)

/-- The time of a date, a time of day and an offset. An offset changes the date. -/
def ofParts (year : Int) (month day : Nat) (clock offset : Int) : StoredTime :=
  let seconds := (monthStart year month + day - 1) * 86400 + clock - offset * 60
  ⟨seconds, if offset = 0 then some (year, month, day) else none⟩

/-- Reads a date, and a time of day behind it if there is one. -/
def readDate? (cs : List Char) : Option StoredTime := do
  let (sign, cs) := match cs with
    | '-' :: rest => ((-1 : Int), rest)
    | _ => (1, cs)
  let (year, cs) ← readNumber? 4 0 9999 cs
  let cs ← readMark? '-' cs
  let (month, cs) ← readNumber? 2 1 12 cs
  let cs ← readMark? '-' cs
  let (day, cs) ← readNumber? 2 1 31 cs
  let year := sign * year
  if year < -4713 then none
  match cs.dropWhile fun c => isGap c || c = 'T' with
  | [] => return ofParts year month day 0 0
  | rest =>
    let (clock, offset) ← readClock? rest
    return ofParts year month day clock offset

/-- Reads a time of day of 1 January 2000. -/
def readTimeOfDay? (cs : List Char) : Option StoredTime := do
  let (clock, offset) ← readClock? cs
  return ⟨(yearStart 2000) * 86400 + clock - offset * 60, none⟩

/-- Reads the number of a Julian day, with nothing but white space around it. -/
def readJulianDay? (cs : List Char) : Option Float := do
  let (n, rest) ← Decimal.Numeral.read? (cs.dropWhile isGap)
  readEnd? rest
  return n.paired

/-- The seconds from the beginning of the Julian days to the beginning of 1970. -/
def julianOffset : Int := 210866760000

/-- The time of a Julian day. -/
def ofJulianDay? (x : Float) : Option StoredTime :=
  if 0 ≤ x && x < 5373484.5 then
    let milliseconds := (x * 86400000 + 0.5).toUInt64.toNat
    some ⟨(milliseconds / 1000 : Nat) - julianOffset, none⟩
  else none

/-- Reads a stored time. What follows a null character is no part of it. -/
def read? (s : String) : Option StoredTime :=
  let cs := s.toList.takeWhile (· ≠ '\x00')
  match readDate? cs with
  | some t => some t
  | none =>
    match readTimeOfDay? cs with
    | some t => some t
    | none => (readJulianDay? cs).bind ofJulianDay?

/-! ## Meaning -/

/-- The time lies in the days that a statement can count: from noon of the first Julian day to the
end of the year 9999. -/
def isCountable (t : StoredTime) : Bool :=
  -julianOffset ≤ t.seconds && t.seconds ≤ 253402300799

/-- The day number of a time. -/
def day (t : StoredTime) : Int :=
  t.seconds / 86400

/-- The date of a time. A date that was written is kept, unless it may lie beyond its month. -/
def civil (t : StoredTime) : Int × Nat × Nat :=
  match t.written with
  | some (y, m, d) => if d ≤ 28 then (y, m, d) else counted
  | none => counted
where
  /-- The date by the day number. -/
  counted : Int × Nat × Nat :=
    (yearOf t.day, monthOf t.day, dayOf t.day)

/-- The time some days later. -/
def addDays (t : StoredTime) (k : Int) : StoredTime :=
  ⟨t.seconds + k * 86400, none⟩

/-- The first time, from this one on and a whole number of days later, that falls on a day of the
week; Sunday is 0. -/
def toWeekday? (t : StoredTime) (n : Int) : Option StoredTime :=
  if t.isCountable then
    let today := (t.day + 4) % 7
    some (t.addDays ((n - today) % 7))
  else none

end StoredTime

end ActivityMetrics
