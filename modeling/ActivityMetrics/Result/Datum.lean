import ActivityMetrics.Decimal.Layout
import ActivityMetrics.Document
import ActivityMetrics.Query.Parameter
import ActivityMetrics.Text.Lossy

/-!
# Values of results

A value of a result is an integer, a floating-point number, a text or absent. Two notions of
sameness occur. Values are *equal* (`==`) as numbers and texts are; then a value that is not a
number differs from itself. Values *name the same item* when they are of one kind and read alike.
-/

namespace ActivityMetrics

/-- A value of a result. -/
inductive Datum where
  /-- An integer. -/
  | int (i : Int)
  /-- A floating-point number. -/
  | float (x : Float)
  /-- A text. -/
  | text (s : String)
  /-- The absent value. -/
  | null

namespace Datum

/-- Equality of values. -/
protected def beq : Datum → Datum → Bool
  | .int i, .int j => i == j
  | .float x, .float y => x == y
  | .text s, .text t => s == t
  | .null, .null => true
  | _, _ => false

instance : BEq Datum := ⟨Datum.beq⟩

/-- The text of a value. -/
def display : Datum → String
  | .int i => toString i
  | .float x => Decimal.Layout.display.render x
  | .text s => s
  | .null => "null"

/-- The values name the same item. -/
def sameItem : Datum → Datum → Bool
  | .int i, .int j => i == j
  | .float x, .float y => Decimal.Layout.display.render x == Decimal.Layout.display.render y
  | .text s, .text t => s == t
  | .null, .null => true
  | _, _ => false

/-- The value as a floating-point number. -/
def number? : Datum → Option Float
  | .int i => some (Float.ofInt i)
  | .float x => some x
  | .text _ | .null => none

/-- The value as an integer. -/
def integer? : Datum → Option Int
  | .int i => some i
  | .float _ | .text _ | .null => none

/-- The value is absent. -/
def isNull : Datum → Bool
  | .null => true
  | .int _ | .float _ | .text _ => false

/-- The value as a floating-point number, zero if it is none. -/
def orZero (d : Datum) : Float :=
  d.number?.getD 0

/-- The value, or the integer zero if it is absent. -/
def zeroIfNull : Datum → Datum
  | .null => .int 0
  | d => d

/-- A floating-point number that may be undefined. -/
def ofNumber? : Option Float → Datum
  | some x => .float x
  | none => .null

/-- The value of a parameter. Bytes are read as text. -/
def ofParameter : Parameter → Datum
  | .null => .null
  | .integer i => .int i
  | .real x => .float x
  | .text s => .text s
  | .blob bytes => .text (Text.ofBytesLossy bytes)

/-- The document of a value. -/
def document : Datum → Document
  | .int i => .integer i
  | .float x => .number x
  | .text s => .text s
  | .null => .null

end Datum

/-- The quotient of two numbers, undefined when the second is zero. -/
def ratio (numerator denominator : Float) : Option Float :=
  if denominator == 0 then none else some (numerator / denominator)

end ActivityMetrics
