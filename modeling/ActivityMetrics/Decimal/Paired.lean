import ActivityMetrics.Decimal.Numeral

/-!
# Numerals in pairs of floats

A *pair* is a number held as the sum of two floats, the second of which is what the first leaves
out. It has about twice the digits of a float, and products of pairs need only float arithmetic. A
numeral is read in pairs in three steps: its leading digits become an integer of 64 bits, the
integer becomes a pair, and the pair is multiplied by powers of ten until the exponent is used up.
At last the two floats are added.

The result is not always the float nearest to the numeral: digits that the integer has no room for
are lost, and so are the last digits of the products. Readers that work in pairs depend on exactly
these losses near a midnight.
-/

namespace ActivityMetrics.Decimal

/-! ## Pairs -/

/-- The sum of two floats, the second far smaller than the first. -/
structure Pair where
  /-- The number, as far as one float can hold it. -/
  high : Float
  /-- What is left out. -/
  low : Float

/-- A float with the lower half of its digits cleared. -/
def leadingHalf (x : Float) : Float :=
  Float.ofBits (x.toBits &&& 0xFFFFFFFFFC000000)

namespace Pair

/-- The product of two pairs. The two high floats are multiplied half by half, so that what their
rounded product leaves out is known. -/
def mul (x y : Pair) : Pair :=
  let hx := leadingHalf x.high
  let tx := x.high - hx
  let hy := leadingHalf y.high
  let ty := y.high - hy
  let outer := hx * hy
  let inner := hx * ty + tx * hy
  let product := outer + inner
  let rest := outer - product + inner + tx * ty
  let rest := x.high * y.low + x.low * y.high + rest
  let high := product + rest
  ⟨high, product - high + rest⟩

/-- A pair multiplied several times by another. -/
def mulTimes (y : Pair) : Nat → Pair → Pair
  | 0, x => x
  | n + 1, x => mulTimes y n (x.mul y)

/-- The pair of an integer of 64 bits. An integer that rounds to more than the greatest one has no
second float. -/
def ofNat (n : Nat) : Pair :=
  let high := n.toUInt64.toFloat
  if high ≤ 18446744073709549568 then ⟨high, Float.ofInt (n - high.toUInt64.toNat)⟩ else ⟨high, 0⟩

/-- The powers of ten by which a pair is multiplied: the hundredth, the tenth and the first one, of
ten or of a tenth. -/
def powers (inverse : Bool) : Pair × Pair × Pair :=
  if inverse then
    (⟨1e-100, -1.99918998026028836196e-117⟩, ⟨1e-10, -3.6432197315497741579e-27⟩,
      ⟨1e-1, -5.5511151231257827021e-18⟩)
  else (⟨1e100, -1.5902891109759918046e83⟩, ⟨1e10, 0⟩, ⟨10, 0⟩)

/-- A pair times a power of ten. -/
def scale (x : Pair) (e : Int) : Pair :=
  let (hundredth, tenth, first) := powers (e < 0)
  let n := e.natAbs
  mulTimes first (n % 10) (mulTimes tenth (n % 100 / 10) (mulTimes hundredth (n / 100) x))

/-- The sum of the two floats. -/
def toFloat (x : Pair) : Float :=
  x.high + x.low

end Pair

/-! ## Numerals -/

namespace Numeral

/-- An integer below this bound has room for one more digit. -/
def digitRoom : Nat := 1844674407370955160

/-- Takes digits into an integer as long as it has room: the integer, and the number of digits that
are left. -/
def gather : Nat → List Char → Nat × Nat
  | n, [] => (n, 0)
  | n, c :: cs =>
    if n < digitRoom then gather (10 * n + (c.toNat - '0'.toNat)) cs else (n, cs.length + 1)

/-- Uses up a positive exponent as long as the integer has room. -/
def absorb : Nat → Nat → Nat × Nat
  | 0, n => (n, 0)
  | e + 1, n => if n < 1844674407370954956 then absorb e (10 * n) else (n, e + 1)

/-- Uses up a negative exponent as long as the integer ends in a zero. -/
def strip : Nat → Nat → Nat × Nat
  | 0, n => (n, 0)
  | e + 1, n => if n % 10 = 0 then strip e (n / 10) else (n, e + 1)

/-- The leading digits of a numeral as an integer, and the exponent that remains. -/
def significand (n : Numeral) : Nat × Int :=
  let (whole, left) := gather 0 n.whole
  let (digits, unused) := gather whole n.fraction
  let exponent := n.exponent + left - (n.fraction.length - unused : Nat)
  if 0 ≤ exponent then
    let (digits, e) := absorb exponent.toNat digits
    (digits, e)
  else
    let (digits, e) := strip exponent.natAbs digits
    (digits, -e)

/-- The float of a numeral, read in pairs. -/
def paired (n : Numeral) : Float :=
  let (digits, exponent) := n.significand
  n.signed (if digits = 0 then 0 else ((Pair.ofNat digits).scale exponent).toFloat)

example : (read? "2942311.499999994179509683616".toList).map (·.1.nearest.toBits)
    = some 0x414672B3BFFFFFF4 := by decide +kernel
example : (read? "2942311.499999994179509683616".toList).map (·.1.paired.toBits)
    = some 0x414672B3BFFFFFF3 := by decide +kernel

end Numeral

end ActivityMetrics.Decimal
