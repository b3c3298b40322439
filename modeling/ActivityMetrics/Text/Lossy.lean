/-!
# Text from bytes

A byte string becomes text by decoding UTF-8 and writing U+FFFD for every part that is not valid.
One replacement character stands for one *maximal* invalid part: the longest run of bytes that could
still have begun a character, or else a single byte.
-/

namespace ActivityMetrics.Text

/-- A byte that continues a character. -/
def isContinuation (b : UInt8) : Bool :=
  0x80 ≤ b && b ≤ 0xBF

/-- What a leading byte announces: the number of continuation bytes, the bounds of the first of them
and the bits that the leading byte contributes. -/
structure Lead where
  /-- How many continuation bytes follow. -/
  following : Nat
  /-- The least value of the first continuation byte. -/
  low : UInt8 := 0x80
  /-- The greatest value of the first continuation byte. -/
  high : UInt8 := 0xBF
  /-- The payload of the leading byte. -/
  bits : Nat

/-- The announcement of a leading byte. Overlong forms, surrogates and code points past U+10FFFF are
ruled out by the bounds of the second byte. -/
def Lead.ofByte? (b : UInt8) : Option Lead :=
  if b < 0x80 then some { following := 0, bits := b.toNat }
  else if b < 0xC2 then none
  else if b < 0xE0 then some { following := 1, bits := b.toNat - 0xC0 }
  else if b == 0xE0 then some { following := 2, low := 0xA0, bits := 0 }
  else if b == 0xED then some { following := 2, high := 0x9F, bits := 0xD }
  else if b < 0xF0 then some { following := 2, bits := b.toNat - 0xE0 }
  else if b == 0xF0 then some { following := 3, low := 0x90, bits := 0 }
  else if b < 0xF4 then some { following := 3, bits := b.toNat - 0xF0 }
  else if b == 0xF4 then some { following := 3, high := 0x8F, bits := 4 }
  else none

/-- The number of bytes at the front that continue the announced character, up to the announced
number. Only the first has bounds of its own. -/
def Lead.continued (lead : Lead) : List UInt8 → Nat
  | [] => 0
  | b :: bs =>
    if lead.following = 0 then 0
    else if lead.low ≤ b && b ≤ lead.high then
      1 + ((bs.take (lead.following - 1)).takeWhile isContinuation).length
    else 0

/-- The text of a byte string, at most `fuel` characters of it. -/
def decodeLossy : Nat → List UInt8 → List Char
  | 0, _ => []
  | _, [] => []
  | fuel + 1, b :: bs =>
    match Lead.ofByte? b with
    | none => '\uFFFD' :: decodeLossy fuel bs
    | some lead =>
      let n := lead.continued bs
      let c :=
        if n = lead.following then
          Char.ofNat ((bs.take n).foldl (fun v b => v * 64 + (b.toNat - 0x80)) lead.bits)
        else '\uFFFD'
      c :: decodeLossy fuel (bs.drop n)

/-- The text of a byte string. Each character uses up at least one byte. -/
def ofBytesLossy (bytes : List UInt8) : String :=
  String.ofList (decodeLossy bytes.length bytes)

end ActivityMetrics.Text
