import PoolServer.Text.Utf8
/-!
# Whole numbers as C reads them

The C library reads a whole number from the front of a text like this. It skips white space,
takes an optional sign, and reads the digits of a base. Base 0 picks the base from the text:
`0x` or `0X` before a hexadecimal digit means sixteen, a leading `0` means eight, and anything
else means ten.

What is read is a sign, a magnitude and the number of bytes taken. When no digit follows, the
number of bytes taken is zero, even if blanks or a sign were skipped. A value outside the range of
the 64-bit type is clamped to the nearest end of that range, and the reading reports that it was
out of range.
-/
namespace PoolServer

namespace Whole

/-- Whether a byte is white space to the C library: space, tab, line feed, vertical tab, form
feed or carriage return. -/
def isSpace (b : UInt8) : Bool := b == 32 || (9 ≤ b && b ≤ 13)

/-- The value of a digit or letter as a digit: `0`–`9`, then `a`–`z` (either case) from ten. -/
def digitValue? (b : UInt8) : Option Nat :=
  if 48 ≤ b && b ≤ 57 then some (b.toNat - 48)
  else if 97 ≤ b && b ≤ 122 then some (b.toNat - 87)
  else if 65 ≤ b && b ≤ 90 then some (b.toNat - 55)
  else none

/-- Whether a byte is a digit of the base. -/
def isDigitIn (base : Nat) (b : UInt8) : Bool :=
  match digitValue? b with
  | some v => v < base
  | none => false

/-- The value of a run of digits of a base. -/
def valueIn (base : Nat) (ds : Bytes) : Nat :=
  ds.foldl (fun acc d => acc * base + (digitValue? d).getD 0) 0

/-- A whole number read from the front of some bytes. -/
structure Reading where
  negative : Bool
  magnitude : Nat
  /-- How many bytes the number takes; zero when no digit was found. -/
  used : Nat
  deriving DecidableEq, Repr

/-- Reads a whole number in the given base (0 for the base the text picks). -/
def read (base : Nat) (bs : Bytes) : Reading :=
  let blanks := (bs.takeWhile isSpace).length
  let afterBlanks := bs.drop blanks
  let (negative, signLen, body) := match afterBlanks with
    | 45 :: r => (true, 1, r)
    | 43 :: r => (false, 1, r)
    | r => (false, 0, r)
  let (base, prefixLen, digits) : Nat × Nat × Bytes :=
    match body with
    | 48 :: x :: r =>
      if (x == 120 || x == 88) && (base == 0 || base == 16) && (r.head?.map (isDigitIn 16)) == some true
      then (16, 2, r)
      else if base == 0 then (8, 0, body) else (base, 0, body)
    | 48 :: r => (if base == 0 then 8 else base, 0, 48 :: r)
    | r => (if base == 0 then 10 else base, 0, r)
  let run := digits.takeWhile (isDigitIn base)
  if run.isEmpty then ⟨false, 0, 0⟩
  else ⟨negative, valueIn base run, blanks + signLen + prefixLen + run.length⟩

/-- The greatest value of the signed 64-bit type. -/
def signedMax : Nat := Nat.pow 2 63 - 1

/-- The greatest value of the unsigned 64-bit type. -/
def unsignedMax : Nat := Nat.pow 2 64 - 1

/-- The reading as a signed 64-bit value, clamped, with whether it was out of range. -/
def Reading.signed (r : Reading) : Int × Bool :=
  if r.negative then
    if r.magnitude > signedMax + 1 then (-((signedMax : Int) + 1), true) else (-(r.magnitude : Int), false)
  else if r.magnitude > signedMax then (signedMax, true) else (r.magnitude, false)

/-- The reading as an unsigned 64-bit value: a negative reading wraps around, and a magnitude past
the type's range gives its greatest value. -/
def Reading.unsigned (r : Reading) : Nat × Bool :=
  if r.magnitude > unsignedMax then (unsignedMax, true)
  else if r.negative && r.magnitude > 0 then (unsignedMax + 1 - r.magnitude, false)
  else (r.magnitude, false)

example : (read 0 "  -0x1fz".toUTF8.toList) = ⟨true, 31, 7⟩ := by decide +kernel
example : (read 0 "0x".toUTF8.toList) = ⟨false, 0, 1⟩ := by decide +kernel
example : (read 0 "09".toUTF8.toList) = ⟨false, 0, 1⟩ := by decide +kernel
example : (read 0 " +".toUTF8.toList).used = 0 := by decide +kernel

end Whole

end PoolServer
