/-!
# The shortest decimal of a binary value

A finite binary value `m * 2 ^ q` stands for the interval of reals that round to it: from halfway to
its lower neighbour to halfway to its upper neighbour, with both ends exactly when `m` is even. Its
*shortest decimal* is the one of fewest digits in that interval, and among those the nearest to the
value. Two can be equally near; which of them is taken is a choice of the output (`Tie`).

The search runs over the grids of multiples of `10 ^ e`, from the coarsest on: on each, the only
candidates are the two grid points around the value. All comparisons are between natural numbers.
-/

namespace ActivityMetrics.Decimal

/-- A positive binary value `mantissa * 2 ^ exponent`. -/
structure Binary where
  /-- The integral significand. -/
  mantissa : Nat
  /-- The power of two. -/
  exponent : Int
  /-- The gap to the lower neighbour is half the gap to the upper one. -/
  narrowBelow : Bool

/-- The decimal value `digits * 10 ^ exponent`. -/
structure Scaled where
  /-- The integral significand. -/
  digits : Nat
  /-- The power of ten. -/
  exponent : Int
deriving Repr, DecidableEq

/-- The finite value that 64 bits encode, without its sign. -/
def Binary.ofBits (bits : UInt64) : Binary :=
  let biased := ((bits >>> 52) &&& 0x7FF).toNat
  let fraction := (bits &&& 0xFFFFFFFFFFFFF).toNat
  if biased = 0 then ⟨fraction, -1074, false⟩
  else ⟨4503599627370496 + fraction, biased - 1075, fraction == 0 && biased > 1⟩

/-- Compares `a * 10 ^ i` with `b * 2 ^ j`. -/
def compareScaled (a : Nat) (i : Int) (b : Nat) (j : Int) : Ordering :=
  compare (a * Nat.pow 10 i.toNat * Nat.pow 2 (-j).toNat)
    (b * Nat.pow 2 j.toNat * Nat.pow 10 (-i).toNat)

/-- The decimal lies among the reals that round to the binary value. -/
def Binary.readsBack (x : Binary) (d : Scaled) : Bool :=
  let low := if x.narrowBelow then 4 * x.mantissa - 1 else 4 * x.mantissa - 2
  let high := 4 * x.mantissa + 2
  let ends := x.mantissa % 2 == 0
  let fromLow := compareScaled d.digits d.exponent low (x.exponent - 2)
  let fromHigh := compareScaled d.digits d.exponent high (x.exponent - 2)
  (fromLow == .gt || (ends && fromLow == .eq)) && (fromHigh == .lt || (ends && fromHigh == .eq))

/-- The largest multiple of `10 ^ e` that does not exceed the value, as a number of steps. -/
def Binary.gridFloor (x : Binary) (e : Int) : Nat :=
  (x.mantissa * Nat.pow 2 x.exponent.toNat * Nat.pow 10 (-e).toNat) /
    (Nat.pow 2 (-x.exponent).toNat * Nat.pow 10 e.toNat)

/-- Which of two equally near decimals is taken. -/
inductive Tie where
  /-- The one whose last digit is even. -/
  | toEven
  /-- The larger one. -/
  | up

/-- The nearest point of the grid of `10 ^ e` that reads back. -/
def Binary.onGrid? (tie : Tie) (x : Binary) (e : Int) : Option Scaled :=
  let n := x.gridFloor e
  let below : Scaled := ⟨n, e⟩
  let above : Scaled := ⟨n + 1, e⟩
  match n != 0 && x.readsBack below, x.readsBack above with
  | true, true =>
    match compareScaled (2 * n + 1) e (2 * x.mantissa) x.exponent, tie with
    | .gt, _ => some below
    | .lt, _ => some above
    | .eq, .up => some above
    | .eq, .toEven => if n % 2 = 0 then some below else some above
  | true, false => some below
  | false, true => some above
  | false, false => none

/-- The value with all its digits. -/
def Binary.exact (x : Binary) : Scaled :=
  if x.exponent ≥ 0 then ⟨x.mantissa * Nat.pow 2 x.exponent.toNat, 0⟩
  else ⟨x.mantissa * Nat.pow 5 (-x.exponent).toNat, x.exponent⟩

/-- Moves the zeros at the end of the digits into the exponent, at most `fuel` of them. -/
def Scaled.stripped : Nat → Scaled → Scaled
  | 0, d => d
  | fuel + 1, d =>
    if d.digits != 0 && d.digits % 10 == 0 then Scaled.stripped fuel ⟨d.digits / 10, d.exponent + 1⟩
    else d

/-- The exponent of the coarsest grid to try. Every positive value lies below `10 ^ 309`. -/
def coarsest : Int := 309

/-- The exponents of the grids, from `coarsest` down to that of the smallest positive value. -/
def gridExponents : List Int :=
  (List.range 634).map fun (k : Nat) => coarsest - k

/-- The shortest decimal of a positive value. The grids are searched from a rough estimate of the
leading digit on; a grid coarser than the value itself has no point that reads back. -/
def Binary.shortest (tie : Tie) (x : Binary) : Scaled :=
  let bits : Int := Nat.log2 x.mantissa + x.exponent + 1
  let start : Int := bits * 30103 / 100000 + 1
  let grids := gridExponents.filter (· ≤ start)
  Scaled.stripped 400 ((grids.findSome? (x.onGrid? tie)).getD x.exact)

end ActivityMetrics.Decimal
