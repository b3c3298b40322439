import ActivityMetrics.Decimal.Shortest

/-!
# Texts of floating-point numbers

A number is written with its shortest digits. Where the point goes, whether an integral value keeps
a `.0`, and when an exponent is used instead, is the decision of the output that the number is
written for, and is collected in a `Layout`.
-/

namespace ActivityMetrics.Decimal

/-- The decisions about the text of a number. -/
structure Layout where
  /-- The range of exponents of the leading digit for which no exponent is written; all of them when
  absent. -/
  plain? : Option (Int × Int)
  /-- An integral value is written with `.0`. -/
  pointZero : Bool
  /-- Which of two equally near decimals is written. -/
  tie : Tie

/-- A fraction is written in full, and an integral value without a point. -/
def Layout.display : Layout :=
  { plain? := none, pointZero := false, tie := .up }

/-- A number of a document is recognisable as a fraction by its point or its exponent, and has an
exponent from `1e16` on and below `1e-5`. -/
def Layout.document : Layout :=
  { plain? := some (-5, 15), pointZero := true, tie := .toEven }

/-- The digits of a natural number. -/
def digitChars (n : Nat) : List Char :=
  Nat.toDigits 10 n

/-- The positional text of `digits * 10 ^ exponent`. -/
def positional (pointZero : Bool) (digits : List Char) (exponent : Int) : List Char :=
  if exponent ≥ 0 then
    digits ++ List.replicate exponent.toNat '0' ++ if pointZero then ['.', '0'] else []
  else
    let places := exponent.natAbs
    if places < digits.length then
      digits.take (digits.length - places) ++ '.' :: digits.drop (digits.length - places)
    else
      '0' :: '.' :: List.replicate (places - digits.length) '0' ++ digits

/-- The text with one digit before the point and an exponent. -/
def scientific (digits : List Char) (leading : Int) : List Char :=
  let mark := if leading < 0 then ['e', '-'] else ['e', '+']
  let fraction := if digits.length ≤ 1 then [] else '.' :: digits.drop 1
  digits.take 1 ++ fraction ++ mark ++ digitChars leading.natAbs

/-- The text of a decimal value. -/
def Layout.write (layout : Layout) (d : Scaled) : List Char :=
  let digits := digitChars d.digits
  let leading : Int := d.exponent + digits.length - 1
  match layout.plain? with
  | none => positional layout.pointZero digits d.exponent
  | some (low, high) =>
    if low ≤ leading ∧ leading ≤ high then positional layout.pointZero digits d.exponent
    else scientific digits leading

/-- The text of a number. A negative zero keeps its sign. -/
def Layout.render (layout : Layout) (x : Float) : String :=
  if x.isNaN then "NaN"
  else
    let value := Binary.ofBits (x.toBits &&& 0x7FFFFFFFFFFFFFFF)
    let text :=
      if x.isInf then ['i', 'n', 'f']
      else if value.mantissa = 0 then positional layout.pointZero ['0'] 0
      else layout.write (value.shortest layout.tie)
    String.ofList (if x.toBits >>> 63 == 1 then '-' :: text else text)

example : Layout.display.render 0.1 = "0.1" := by decide +kernel
example : Layout.display.render (0.1 + 0.2) = "0.30000000000000004" := by decide +kernel
example : Layout.document.render 100 = "100.0" := by decide +kernel
example : Layout.document.render 1e16 = "1e+16" := by decide +kernel
example : Layout.document.render 1.5e-7 = "1.5e-7" := by decide +kernel
example : Layout.document.render 5e-324 = "5e-324" := by decide +kernel

end ActivityMetrics.Decimal
