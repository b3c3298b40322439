import ActivityMetrics.Period.Basic
import ActivityMetrics.Query.StoredTime

/-!
# Buckets computed by a statement

A statement computes the bucket of an event from the text of its time, by an expression over the
date functions of the database. `BucketExpression` is that language: `text` is what the statement
says and `eval` what it means. `Period.expression` gives the expression of every period. It is
written without knowledge of ISO weeks: the Thursday of a week determines the ISO year, and its
place in the year the number of the week.
-/

namespace ActivityMetrics

open Calendar

/-- A text that a date function takes. -/
inductive TimeExpression where
  /-- The column of the time. -/
  | column
  /-- The date of the time. -/
  | date
  /-- The date of the Thursday of the time's week: three days back, and on to a Thursday. -/
  | thursday
deriving DecidableEq

/-- The parts of a time that can be asked for. -/
inductive TimePart where
  /-- The seconds since the beginning of 1970. -/
  | seconds
  /-- The year. -/
  | year
  /-- The month. -/
  | month
  /-- The place of the day in its year, from 1. -/
  | ordinal
deriving DecidableEq

/-- An integer that a statement computes from a time. -/
inductive BucketExpression where
  /-- A part of a time, as an integer. -/
  | part (p : TimePart) (t : TimeExpression)
  /-- A constant. -/
  | constant (n : Nat)
  /-- A sum. -/
  | sum (a b : BucketExpression)
  /-- A difference. -/
  | difference (a b : BucketExpression)
  /-- A product. -/
  | product (a b : BucketExpression)
  /-- A quotient, without its fraction. -/
  | quotient (a b : BucketExpression)
  /-- An expression in brackets. -/
  | bracket (a : BucketExpression)
deriving DecidableEq

/-! ## What the statement says -/

/-- The text of a time expression over a column. -/
def TimeExpression.text (column : String) : TimeExpression → String
  | .column => column
  | .date => "date(" ++ column ++ ")"
  | .thursday => "date(" ++ column ++ ", '-3 days', 'weekday 4')"

/-- The letter of a part. -/
def TimePart.letter : TimePart → String
  | .seconds => "s"
  | .year => "Y"
  | .month => "m"
  | .ordinal => "j"

namespace BucketExpression

/-- The text of an expression over a column. -/
def text (column : String) : BucketExpression → String
  | .part p t => "CAST(strftime('%" ++ p.letter ++ "', " ++ t.text column ++ ") AS INTEGER)"
  | .constant n => toString n
  | .sum a b => a.text column ++ " + " ++ b.text column
  | .difference a b => a.text column ++ " - " ++ b.text column
  | .product a b => a.text column ++ " * " ++ b.text column
  | .quotient a b => a.text column ++ " / " ++ b.text column
  | .bracket a => "(" ++ a.text column ++ ")"

end BucketExpression

/-! ## What the statement means -/

/-- The text of a date, `2025-03-04`. A year before the year 0 has a sign. -/
def dateText : Int × Nat × Nat → String
  | (y, m, d) =>
    (if y < 0 then "-" else "") ++ Text.padded 4 y.natAbs ++ "-" ++ Text.padded 2 m ++ "-"
      ++ Text.padded 2 d

/-- The text that a time expression gives for a stored time. -/
def TimeExpression.eval (stored : String) : TimeExpression → Option String
  | .column => some stored
  | .date => do
    let t ← StoredTime.read? stored
    if t.isCountable then some (dateText t.civil) else none
  | .thursday => do
    let t ← StoredTime.read? stored
    let t ← (t.addDays (-3)).toWeekday? 4
    if t.isCountable then some (dateText t.civil) else none

/-- A part of a time that has been read. The place in the year is that of the date. -/
def TimePart.of (t : StoredTime) : TimePart → Int
  | .seconds => t.seconds
  | .year => t.civil.1
  | .month => t.civil.2.1
  | .ordinal =>
    let (y, m, d) := t.civil
    daysBefore (isLeap y) m + d

/-- A part of the time that a text stands for. -/
def TimePart.eval (stored : String) (p : TimePart) : Option Int := do
  let t ← StoredTime.read? stored
  if t.isCountable then some (p.of t) else none

namespace BucketExpression

/-- The value of an expression for a stored time. It is absent when a text in it has no time. -/
def eval (stored : String) : BucketExpression → Option Int
  | .part p t => (t.eval stored).bind p.eval
  | .constant n => some n
  | .sum a b => return (← a.eval stored) + (← b.eval stored)
  | .difference a b => return (← a.eval stored) - (← b.eval stored)
  | .product a b => return (← a.eval stored) * (← b.eval stored)
  | .quotient a b => return (← a.eval stored).tdiv (← b.eval stored)
  | .bracket a => a.eval stored

end BucketExpression

namespace Period

open BucketExpression in
/-- The expression of the bucket of a period. -/
def expression : Period → BucketExpression
  | .day => part .seconds .date
  | .week =>
    bracket (sum (product (part .year .thursday) (constant 100))
      (sum (quotient (bracket (difference (part .ordinal .thursday) (constant 1))) (constant 7))
        (constant 1)))
  | .month => bracket (sum (product (part .year .column) (constant 12)) (part .month .column))
  | .year => part .year .column

/-- What a statement says to compute the bucket of a time column. -/
def bucketText (p : Period) (column : String) : String :=
  p.expression.text column

/-- The bucket that a statement computes for a stored time. -/
def bucketOfText (p : Period) (stored : String) : Option Int :=
  p.expression.eval stored

end Period

end ActivityMetrics
