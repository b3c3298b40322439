import ActivityMetrics.Text.Ranges

/-!
# Digits and numbers

Two notions of digit occur. A *decimal digit* is a character of the general category `Nd`, in any
script; the shape of a named window is decided on it. A number is *read* from the digits `0` to `9`
alone. So `٣٠d` has the shape of a rolling window and its count still cannot be read.
-/

namespace ActivityMetrics.Text

/-- The general category `Nd` of Unicode 16. -/
def digitRanges : Ranges :=
  [(0x30, 0x39), (0x660, 0x669), (0x6F0, 0x6F9), (0x7C0, 0x7C9), (0x966, 0x96F), (0x9E6, 0x9EF),
   (0xA66, 0xA6F), (0xAE6, 0xAEF), (0xB66, 0xB6F), (0xBE6, 0xBEF), (0xC66, 0xC6F), (0xCE6, 0xCEF),
   (0xD66, 0xD6F), (0xDE6, 0xDEF), (0xE50, 0xE59), (0xED0, 0xED9), (0xF20, 0xF29), (0x1040, 0x1049),
   (0x1090, 0x1099), (0x17E0, 0x17E9), (0x1810, 0x1819), (0x1946, 0x194F), (0x19D0, 0x19D9),
   (0x1A80, 0x1A89), (0x1A90, 0x1A99), (0x1B50, 0x1B59), (0x1BB0, 0x1BB9), (0x1C40, 0x1C49),
   (0x1C50, 0x1C59), (0xA620, 0xA629), (0xA8D0, 0xA8D9), (0xA900, 0xA909), (0xA9D0, 0xA9D9),
   (0xA9F0, 0xA9F9), (0xAA50, 0xAA59), (0xABF0, 0xABF9), (0xFF10, 0xFF19), (0x104A0, 0x104A9),
   (0x10D30, 0x10D39), (0x10D40, 0x10D49), (0x11066, 0x1106F), (0x110F0, 0x110F9),
   (0x11136, 0x1113F), (0x111D0, 0x111D9), (0x112F0, 0x112F9), (0x11450, 0x11459),
   (0x114D0, 0x114D9), (0x11650, 0x11659), (0x116C0, 0x116C9), (0x116D0, 0x116E3),
   (0x11730, 0x11739), (0x118E0, 0x118E9), (0x11950, 0x11959), (0x11BF0, 0x11BF9),
   (0x11C50, 0x11C59), (0x11D50, 0x11D59), (0x11DA0, 0x11DA9), (0x11F50, 0x11F59),
   (0x16130, 0x16139), (0x16A60, 0x16A69), (0x16AC0, 0x16AC9), (0x16B50, 0x16B59),
   (0x16D70, 0x16D79), (0x1CCF0, 0x1CCF9), (0x1D7CE, 0x1D7FF), (0x1E140, 0x1E149),
   (0x1E2F0, 0x1E2F9), (0x1E4F0, 0x1E4F9), (0x1E5F1, 0x1E5FA), (0x1E950, 0x1E959),
   (0x1FBF0, 0x1FBF9)]

example : digitRanges.wellFormed = true := by decide +kernel
example : digitRanges.size = 760 := by decide +kernel

/-- A decimal digit of any script. -/
def isDecimalDigit (c : Char) : Bool :=
  digitRanges.contains c

/-- The value of one of the digits `0` to `9`. -/
def digitValue? (c : Char) : Option Nat :=
  if c.isDigit then some (c.toNat - '0'.toNat) else none

/-- The value of a list of digits, most significant first. `none` unless all are `0` to `9`. -/
def digitsValue? (cs : List Char) : Option Nat :=
  cs.foldlM (fun n c => (digitValue? c).map (10 * n + ·)) 0

/-- A number without sign, or with a leading `+`. At least one digit is needed. -/
def readNat? : List Char → Option Nat
  | [] => none
  | '+' :: cs => if cs.isEmpty then none else digitsValue? cs
  | cs => digitsValue? cs

/-- A number with an optional leading `+` or `-`. -/
def readInt? : List Char → Option Int
  | '-' :: cs => if cs.isEmpty then none else (digitsValue? cs).map fun n => -(n : Int)
  | cs => (readNat? cs).map Int.ofNat

/-- A natural number of 32 bits. -/
def readNat32? (cs : List Char) : Option Nat :=
  (readNat? cs).filter (· < 4294967296)

/-- An integer of 32 bits. -/
def readInt32? (cs : List Char) : Option Int :=
  (readInt? cs).filter fun i => -2147483648 ≤ i ∧ i < 2147483648

/-- An integer of 64 bits. -/
def readInt64? (cs : List Char) : Option Int :=
  (readInt? cs).filter fun i => -9223372036854775808 ≤ i ∧ i < 9223372036854775808

/-- The digits of `n`, with zeros in front up to `width` characters. -/
def padded (width n : Nat) : String :=
  let digits := Nat.toDigits 10 n
  String.ofList (List.replicate (width - digits.length) '0' ++ digits)

example : padded 2 7 = "07" := by decide
example : padded 4 12345 = "12345" := by decide

end ActivityMetrics.Text
