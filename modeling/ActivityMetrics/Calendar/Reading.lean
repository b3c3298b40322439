import ActivityMetrics.Calendar.Date
import ActivityMetrics.Text.Blank

/-!
# Reading dates and instants

A date is read as year, month and day with hyphens between, an instant as a date followed by hours,
minutes and seconds with colons between. White space may stand in front of every number. A year
takes a sign and then any number of digits, or else at most four digits; the other numbers take one
or two digits. The parts are read from left to right and the first fault is reported; that the date
exists is checked last.
-/

namespace ActivityMetrics.Calendar

/-- Why a text is not a date. -/
inductive Misreading where
  /-- The text ends too early. -/
  | tooShort
  /-- A character does not fit. -/
  | invalid
  /-- A number is too large or too small, or the date does not exist. -/
  | outOfRange
  /-- Something follows. -/
  | trailing
deriving DecidableEq, Repr

/-- The words for a fault. -/
def Misreading.message : Misreading → String
  | .tooShort => "premature end of input"
  | .invalid => "input contains invalid characters"
  | .outOfRange => "input is out of range"
  | .trailing => "trailing input"

/-- The numbers of an instant. -/
inductive Field where
  /-- The year. -/
  | year
  /-- The month, from 1. -/
  | month
  /-- The day of the month, from 1. -/
  | day
  /-- The hour. -/
  | hour
  /-- The minute. -/
  | minute
  /-- The second. -/
  | second
deriving DecidableEq

/-- The parts of the form of a date. -/
inductive Part where
  /-- A number. -/
  | number (f : Field)
  /-- A character that stands for itself. -/
  | mark (c : Char)
  /-- White space of any length, none included. -/
  | blank

/-- The form `year-month-day`. -/
def dateForm : List Part :=
  [.number .year, .mark '-', .number .month, .mark '-', .number .day]

/-- The form `year-month-day hour:minute:second`. -/
def instantForm : List Part :=
  dateForm ++ [.blank, .number .hour, .mark ':', .number .minute, .mark ':', .number .second]

/-- The least and the greatest number that a field takes. -/
def Field.bounds : Field → Int × Int
  | .year => (-2147483648, 2147483647)
  | .month => (1, 12)
  | .day => (1, 31)
  | .hour => (0, 23)
  | .minute => (0, 59)
  | .second => (0, 60)

/-- Reads the digits at the front, at most `width?` of them. -/
def readDigits (width? : Option Nat) (cs : List Char) :
    Except Misreading (Nat × List Char) :=
  match cs with
  | [] => .error .tooShort
  | c :: _ =>
    if c.isDigit then
      let run := cs.takeWhile Char.isDigit
      let digits := match width? with
        | some width => run.take width
        | none => run
      .ok (digits.foldl (fun n d => 10 * n + (d.toNat - '0'.toNat)) 0, cs.drop digits.length)
    else .error .invalid

/-- Reads the number of a field, without regard to its bounds. -/
def Field.read (f : Field) (cs : List Char) : Except Misreading (Int × List Char) :=
  match f, cs with
  | .year, '-' :: rest => (readDigits none rest).map fun (n, r) => (-(n : Int), r)
  | .year, '+' :: rest => (readDigits none rest).map fun (n, r) => ((n : Int), r)
  | .year, cs => (readDigits (some 4) cs).map fun (n, r) => ((n : Int), r)
  | _, cs => (readDigits (some 2) cs).map fun (n, r) => ((n : Int), r)

/-- The numbers read so far. -/
abbrev Numbers := List (Field × Int)

/-- The number of a field, 0 unless it has been read. -/
def Numbers.get (ns : Numbers) (f : Field) : Int :=
  (ns.lookup f).getD 0

/-- Reads a text of a form. -/
def readForm : List Part → Numbers → List Char → Except Misreading Numbers
  | [], ns, [] => .ok ns
  | [], _, _ :: _ => .error .trailing
  | .blank :: form, ns, cs => readForm form ns (Text.dropBlank cs)
  | .mark _ :: _, _, [] => .error .tooShort
  | .mark m :: form, ns, c :: cs => if c = m then readForm form ns cs else .error .invalid
  | .number f :: form, ns, cs =>
    match f.read (Text.dropBlank cs) with
    | .error fault => .error fault
    | .ok (n, rest) =>
      if f.bounds.1 ≤ n ∧ n ≤ f.bounds.2 then readForm form ((f, n) :: ns) rest
      else .error .outOfRange

/-- The date of the numbers read, if it exists. -/
def Numbers.date (ns : Numbers) : Except Misreading Date :=
  match Date.ofCivil? (ns.get .year) (ns.get .month).toNat (ns.get .day).toNat with
  | some d => .ok d
  | none => .error .outOfRange

/-- The instant of the numbers read, if its date exists. -/
def Numbers.instant (ns : Numbers) : Except Misreading Instant :=
  match ns.date with
  | .error fault => .error fault
  | .ok d =>
    let hour := (ns.get .hour).toNat
    let minute := (ns.get .minute).toNat
    let second := (ns.get .second).toNat
    if h : hour < 24 ∧ minute < 60 ∧ second ≤ 60 then
      .ok ⟨d, hour, minute, second, h.1, h.2.1, h.2.2⟩
    else .error .outOfRange

/-- Reads a date. White space around it is ignored. -/
def Date.read (s : String) : Except Misreading Date :=
  match readForm dateForm [] (Text.trim s).toList with
  | .error fault => .error fault
  | .ok ns => ns.date

/-- Reads an instant. White space around it is ignored, and a date alone is its midnight. The fault
of a text that is neither is that of reading it as a date. -/
def Instant.read (s : String) : Except Misreading Instant :=
  match readForm instantForm [] (Text.trim s).toList with
  | .ok ns =>
    match ns.instant with
    | .ok t => .ok t
    | .error _ => (Date.read s).map Date.midnight
  | .error _ => (Date.read s).map Date.midnight

end ActivityMetrics.Calendar
