import ActivityMetrics.Calendar.Date

/-!
# Parameters of a statement

A statement never holds a value that comes from a user. It holds a mark, `?`, and the value travels
beside it as a parameter.
-/

namespace ActivityMetrics

/-- A value that is bound to a statement, or stored in a table. -/
inductive Parameter where
  /-- The absent value. -/
  | null
  /-- An integer. -/
  | integer (i : Int)
  /-- A floating-point number. -/
  | real (x : Float)
  /-- A text. -/
  | text (s : String)
  /-- A string of bytes. -/
  | blob (bytes : List UInt8)

namespace Parameter

/-- Equality of parameters. Floating-point numbers are compared as numbers, so a value that is not a
number differs from itself; numbers of the two kinds are never equal. -/
protected def beq : Parameter → Parameter → Bool
  | .null, .null => true
  | .integer i, .integer j => i == j
  | .real x, .real y => x == y
  | .text s, .text t => s == t
  | .blob a, .blob b => a == b
  | _, _ => false

instance : BEq Parameter := ⟨Parameter.beq⟩

/-- A date as it is compared with stored times. -/
def ofDate (d : Calendar.Date) : Parameter :=
  .text d.text

end Parameter

end ActivityMetrics
