import ActivityMetrics.Text.Digit

/-!
# Numerals

A numeral is a decimal number as it is written: a sign, digits before and behind a point, and an
exponent. Reading one takes it apart and decides nothing about its value. The value as a float is a
choice of the reader: the nearest one (`Numeral.nearest`), or the one that arithmetic in pairs of
floats arrives at (`Numeral.paired`, in `ActivityMetrics.Decimal.Paired`).
-/

namespace ActivityMetrics.Decimal

/-- A decimal number, taken apart. -/
structure Numeral where
  /-- There is a minus sign. -/
  negative : Bool
  /-- The digits before the point. -/
  whole : List Char
  /-- The digits behind the point. -/
  fraction : List Char
  /-- The exponent, 0 if there is none. -/
  exponent : Int
deriving DecidableEq

namespace Numeral

/-- Takes a sign off a text; there is a minus sign or not. -/
def readSign : List Char → Bool × List Char
  | '-' :: cs => (true, cs)
  | '+' :: cs => (false, cs)
  | cs => (false, cs)

/-- The value of the digits of an exponent. One of six digits or more is as good as 10000. -/
def exponentValue (digits : List Char) : Nat :=
  digits.foldl (fun n c => if n < 10000 then 10 * n + (c.toNat - '0'.toNat) else 10000) 0

/-- Reads the exponent of a number, 0 if there is none. -/
def readExponent? : List Char → Option (Int × List Char)
  | 'e' :: cs | 'E' :: cs =>
    let (negative, cs) := readSign cs
    let digits := cs.takeWhile Char.isDigit
    let size : Int := exponentValue digits
    if digits.isEmpty then none
    else some (if negative then -size else size, cs.dropWhile Char.isDigit)
  | cs => some (0, cs)

/-- Reads a numeral from the front of a text. There has to be a digit before or behind the point. -/
def read? (cs : List Char) : Option (Numeral × List Char) := do
  let (negative, cs) := readSign cs
  let whole := cs.takeWhile Char.isDigit
  let cs := cs.dropWhile Char.isDigit
  let (fraction, cs) := match cs with
    | '.' :: rest => (rest.takeWhile Char.isDigit, rest.dropWhile Char.isDigit)
    | _ => ([], cs)
  if whole.isEmpty && fraction.isEmpty then none
  let (exponent, cs) ← readExponent? cs
  return ({ negative, whole, fraction, exponent }, cs)

/-- A float with the sign of a numeral. -/
def signed (n : Numeral) (x : Float) : Float :=
  if n.negative then -x else x

/-- The float nearest to a numeral. -/
def nearest (n : Numeral) : Float :=
  let digits := (Text.digitsValue? (n.whole ++ n.fraction)).getD 0
  let scale := n.exponent - n.fraction.length
  n.signed (Float.ofScientific digits (scale < 0) scale.natAbs)

end Numeral

end ActivityMetrics.Decimal
