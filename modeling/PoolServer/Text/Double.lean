import PoolServer.Text.Utf8
/-!
# Doubles as text

A double-precision number is a sign and a magnitude: a finite value `q * 2^e` with a whole
significand `q` below `2^53` and a whole exponent `e` from `-1074` on, infinity, or not-a-number.
This module reads such numbers from decimal or hexadecimal text and writes them in the fixed,
exponent, general and hexadecimal forms, as the C library does.

Reading takes the longest prefix of the text that is a number: blanks, a sign, then `inf`,
`infinity` or `nan` in any case (`nan` may carry a parenthesised tag), or digits with a point and
a decimal exponent `e±n`, or `0x` with hexadecimal digits, a point and a binary exponent `p±n`.
The number is rounded to the nearest double, a tie to the even significand; past the largest
double it is infinite.

Writing is exact: every digit comes from the value's exact rational form, rounded to nearest
with ties to even.

* The fixed form has the given number of digits after the point (six when none is given).
* The exponent form has one digit before the point and an exponent of at least two digits.
* The general form uses `P` significant digits (six when none is given, one for zero): the
  exponent form when the exponent is below `-4` or at least `P`, else the fixed form, and then
  drops trailing zeros after the point unless asked to keep them.
* The hexadecimal form writes `1.` (or `0.` for the smallest numbers) and the 52 bits after the
  point in hexadecimal digits, trailing zero digits dropped, then `p` and the binary exponent.
-/
namespace PoolServer

namespace Double

/-- The number of binary digits of `n`: zero for zero. Halving reaches zero before the fuel `n`
runs out. -/
def bitLength (n : Nat) : Nat :=
  go n n
where
  go : Nat → Nat → Nat
    | 0, _ => 0
    | fuel + 1, k => if k = 0 then 0 else go fuel (k / 2) + 1

/-- The number of decimal digits of `n`: one for zero. -/
def digitCount (n : Nat) : Nat := (Nat.toDigits 10 n).length

/-- The whole number nearest to `num / den`, a tie going to the even one. -/
def roundHalfEven (num den : Nat) : Nat :=
  let q := num / den
  let r := num % den
  if 2 * r > den || (2 * r == den && q % 2 == 1) then q + 1 else q

example : roundHalfEven 5 2 = 2 ∧ roundHalfEven 7 2 = 4 ∧ roundHalfEven 7 3 = 2 := by decide

/-- The magnitude of a double. -/
inductive Magnitude where
  /-- `significand * 2^exponent`. -/
  | finite (significand : Nat) (exponent : Int)
  | infinite
  | nan
  deriving DecidableEq, Repr

/-- A double: its sign and its magnitude. -/
structure Value where
  negative : Bool
  magnitude : Magnitude
  deriving DecidableEq, Repr

/-- The least exponent of a double. -/
def minExponent : Int := -1074

/-- The greatest exponent of a double with a significand of 53 digits. -/
def maxExponent : Int := 971

/-- `num / den` times `2^k`, as a fraction of whole numbers. -/
def scaled (num den : Nat) (k : Int) : Nat × Nat :=
  if k ≥ 0 then (num * Nat.pow 2 k.toNat, den) else (num, den * Nat.pow 2 (-k).toNat)

/-- The double nearest to `num / den`, for a positive `den`: the exponent is the one that gives
a significand of 53 digits, but not below the least exponent; the significand is the quotient at
that exponent rounded to nearest, a tie to even; a significand rounded up to `2^53` moves to the
next exponent, and past the greatest exponent the value is infinite. -/
def nearest (num den : Nat) : Magnitude :=
  if num = 0 || den = 0 then .finite 0 0
  else
    let guess : Int := (bitLength num : Int) - (bitLength den : Int) - 53
    let fits (e : Int) : Bool :=
      let (n, d) := scaled num den (-e)
      Nat.pow 2 52 * d ≤ n
    let e := if fits (guess + 1) then guess + 1 else guess
    let e := if e < minExponent then minExponent else e
    let (n, d) := scaled num den (-e)
    let q := roundHalfEven n d
    let (q, e) := if q == Nat.pow 2 53 then (Nat.pow 2 52, e + 1) else (q, e)
    if e > maxExponent then .infinite else .finite q e

example : nearest 1 1 = .finite (Nat.pow 2 52) (-52) := by decide +kernel

/-- The double nearest to `num / den`, and whether the C library reports it out of range: when
it is infinite, or below the least normal double and not exact. -/
def nearestChecked (num den : Nat) : Magnitude × Bool :=
  match nearest num den with
  | .finite q e =>
    let (n, d) := scaled q 1 e
    (.finite q e, q < Nat.pow 2 52 && n * den != num * d)
  | m => (m, true)

/-! ## Reading -/

/-- Whether a byte is white space to the C library: space, tab, line feed, vertical tab, form
feed or carriage return. -/
def isSpace (b : UInt8) : Bool := b == 32 || (9 ≤ b && b ≤ 13)

/-- Whether a byte is a decimal digit. -/
def isDigit (b : UInt8) : Bool := 48 ≤ b && b ≤ 57

/-- The value of a hexadecimal digit. -/
def hexDigit? (b : UInt8) : Option Nat :=
  if isDigit b then some (b.toNat - 48)
  else if 97 ≤ b && b ≤ 102 then some (b.toNat - 87)
  else if 65 ≤ b && b ≤ 70 then some (b.toNat - 55)
  else none

/-- The lower-case form of an ASCII letter. -/
def lower (b : UInt8) : UInt8 := if 65 ≤ b && b ≤ 90 then b + 32 else b

/-- Whether the bytes start with the given word, in any case. -/
def startsWithWord (bs : Bytes) (w : String) : Bool :=
  (bs.take w.length).map lower == w.toList.map (·.toNat.toUInt8)

/-- Reads an exponent `±digits` after its letter: its value and its length, if it has digits. -/
def exponentPart (bs : Bytes) : Option (Int × Nat) :=
  let (neg, signLen, rest) := match bs with
    | 45 :: r => (true, 1, r)
    | 43 :: r => (false, 1, r)
    | r => (false, 0, r)
  let ds := rest.takeWhile isDigit
  if ds.isEmpty then none
  else
    let v : Nat := ds.foldl (fun a d => a * 10 + (d.toNat - 48)) 0
    some (if neg then -(v : Int) else v, signLen + ds.length)

/-- Reads an unsigned decimal number: its magnitude, whether it is out of range, and the number
of bytes it takes, if it has a digit. -/
def decimalPart (bs : Bytes) : Option (Magnitude × Bool × Nat) :=
  let whole := bs.takeWhile isDigit
  let rest := bs.drop whole.length
  let (fraction, pointLen) := match rest with
    | 46 :: r => (r.takeWhile isDigit, 1)
    | _ => ([], 0)
  if whole.isEmpty && fraction.isEmpty then none
  else
    let used := whole.length + pointLen + fraction.length
    let digits : Nat := (whole ++ fraction).foldl (fun a d => a * 10 + (d.toNat - 48)) 0
    let (exp, expLen) := match bs.drop used with
      | e :: r =>
        if e == 101 || e == 69 then
          match exponentPart r with
          | some (x, n) => (x, n + 1)
          | none => (0, 0)
        else (0, 0)
      | [] => (0, 0)
    let tenPower : Int := exp - fraction.length
    let m : Magnitude × Bool := if digits == 0 then (.finite 0 0, false)
      else if tenPower ≥ 0 then
        -- beyond `10^400` every non-zero value is infinite
        if tenPower > 400 then (.infinite, true)
        else nearestChecked (digits * Nat.pow 10 tenPower.toNat) 1
      else if -tenPower > 400 + (digitCount digits : Int) then (.finite 0 0, true)
      else nearestChecked digits (Nat.pow 10 (-tenPower).toNat)
    some (m.1, m.2, used + expLen)

/-- Reads an unsigned hexadecimal number after its `0x`: its magnitude, whether it is out of
range, and the number of bytes it takes after the `0x`, if it has a digit. -/
def hexPart (bs : Bytes) : Option (Magnitude × Bool × Nat) :=
  let whole := bs.takeWhile fun b => (hexDigit? b).isSome
  let rest := bs.drop whole.length
  let (fraction, pointLen) := match rest with
    | 46 :: r => (r.takeWhile fun b => (hexDigit? b).isSome, 1)
    | _ => ([], 0)
  if whole.isEmpty && fraction.isEmpty then none
  else
    let used := whole.length + pointLen + fraction.length
    let digits : Nat := (whole ++ fraction).foldl (fun a d => a * 16 + (hexDigit? d).getD 0) 0
    let (exp, expLen) := match bs.drop used with
      | e :: r =>
        if e == 112 || e == 80 then
          match exponentPart r with
          | some (x, n) => (x, n + 1)
          | none => (0, 0)
        else (0, 0)
      | [] => (0, 0)
    let twoPower : Int := exp - 4 * fraction.length
    let m : Magnitude × Bool := if digits == 0 then (.finite 0 0, false)
      else if twoPower > 2000 then (.infinite, true)
      else if twoPower < -2000 - (bitLength digits : Int) then (.finite 0 0, true)
      else
        let (n, d) := scaled digits 1 twoPower
        nearestChecked n d
    some (m.1, m.2, used + expLen)

/-- A number read from the front of some bytes. -/
structure Reading where
  value : Value
  /-- Whether the C library reports the number out of range. -/
  outOfRange : Bool
  /-- How many bytes the number takes; zero when no number starts there. -/
  used : Nat

/-- Reads a number from the front of the bytes as the C library's `strtod` does. -/
def read (bs : Bytes) : Reading :=
  let blanks := bs.takeWhile isSpace
  let afterBlanks := bs.drop blanks.length
  let (negative, signLen, body) := match afterBlanks with
    | 45 :: r => (true, 1, r)
    | 43 :: r => (false, 1, r)
    | r => (false, 0, r)
  let lead := blanks.length + signLen
  let special : Option (Magnitude × Nat) :=
    if startsWithWord body "infinity" then some (.infinite, 8)
    else if startsWithWord body "inf" then some (.infinite, 3)
    else if startsWithWord body "nan" then
      let tag := match body.drop 3 with
        | 40 :: r =>
          let inside := r.takeWhile fun b => isDigit b || lower b ≥ 97 && lower b ≤ 122 || b == 95
          if (r.drop inside.length).head? == some 41 then inside.length + 2 else 0
        | _ => 0
      some (.nan, 3 + tag)
    else none
  match special with
  | some (m, n) => ⟨⟨negative, m⟩, false, lead + n⟩
  | none =>
    let hex : Option (Magnitude × Bool × Nat) := match body with
      | 48 :: x :: r =>
        if x == 120 || x == 88 then (hexPart r).map fun (m, o, n) => (m, o, n + 2) else none
      | _ => none
    match hex with
    | some (m, o, n) => ⟨⟨negative, m⟩, o, lead + n⟩
    | none =>
      match decimalPart body with
      | some (m, o, n) => ⟨⟨negative, m⟩, o, lead + n⟩
      | none => ⟨⟨false, .finite 0 0⟩, false, 0⟩

/-! ## Writing -/

/-- The decimal digits of a whole number. -/
def decimalDigits (n : Nat) : List Char := Nat.toDigits 10 n

/-- `num / den * 10^k` rounded to a whole number, ties to even. -/
def scaledDecimal (num den : Nat) (k : Int) : Nat :=
  if k ≥ 0 then roundHalfEven (num * Nat.pow 10 k.toNat) den
  else roundHalfEven num (den * Nat.pow 10 (-k).toNat)

/-- The fraction `q * 2^e` as numerator and denominator. -/
def fraction (q : Nat) (e : Int) : Nat × Nat := scaled q 1 e

/-- The fixed form of `q * 2^e` with `precision` digits after the point; the point is kept
without digits after it when `point` asks. -/
def fixed (q : Nat) (e : Int) (precision : Nat) (point : Bool) : List Char :=
  let (num, den) := fraction q e
  let n := scaledDecimal num den precision
  let ds := decimalDigits n
  let ds := List.replicate (precision + 1 - ds.length) '0' ++ ds
  let whole := ds.take (ds.length - precision)
  let frac := ds.drop (ds.length - precision)
  whole ++ (if precision > 0 || point then ['.'] else []) ++ frac

/-- The decimal exponent of a positive fraction: the `x` with `10^x ≤ num / den < 10^(x+1)`. -/
def decimalExponent (num den : Nat) : Int :=
  let guess : Int := (digitCount num : Int) - (digitCount den : Int)
  let atLeast (x : Int) : Bool :=
    if x ≥ 0 then den * Nat.pow 10 x.toNat ≤ num else den ≤ num * Nat.pow 10 (-x).toNat
  if atLeast guess then guess else guess - 1

/-- The digits and exponent of `q * 2^e` rounded to `precision + 1` significant digits. -/
def significant (q : Nat) (e : Int) (precision : Nat) : Nat × Int :=
  let (num, den) := fraction q e
  if num == 0 then (0, 0)
  else
    let x := decimalExponent num den
    let n := scaledDecimal num den ((precision : Int) - x)
    if n == Nat.pow 10 (precision + 1) then (Nat.pow 10 precision, x + 1) else (n, x)

/-- The exponent part `e±dd`, with the given letter. -/
def exponentText (letter : Char) (x : Int) : List Char :=
  let ds := decimalDigits x.natAbs
  letter :: (if x < 0 then '-' else '+') :: (List.replicate (2 - ds.length) '0' ++ ds)

/-- The exponent form of `q * 2^e` with `precision` digits after the point. -/
def scientific (q : Nat) (e : Int) (precision : Nat) (point : Bool) (letter : Char) :
    List Char :=
  let (n, x) := significant q e precision
  let ds := decimalDigits n
  let ds := List.replicate (precision + 1 - ds.length) '0' ++ ds
  ds.take 1 ++ (if precision > 0 || point then ['.'] else []) ++ ds.drop 1 ++ exponentText letter x

/-- Drops trailing zeros after a point, and the point when nothing follows it. -/
def trimZeros (cs : List Char) : List Char :=
  if cs.contains '.' then
    let r := (cs.reverse.dropWhile (· == '0'))
    (match r with
      | '.' :: more => more
      | _ => r).reverse
  else cs

/-- The general form of `q * 2^e` with `precision` significant digits (none meaning six, zero
meaning one); `keep` keeps trailing zeros and the point. -/
def general (q : Nat) (e : Int) (precision : Nat) (keep : Bool) (letter : Char) : List Char :=
  let p := if precision = 0 then 1 else precision
  let (_, x) := significant q e (p - 1)
  if x < -4 || x ≥ p then
    let body := scientific q e (p - 1) keep letter
    if keep then body
    else
      let mantissa := body.takeWhile (· != letter)
      trimZeros mantissa ++ body.drop mantissa.length
  else
    let body := fixed q e (p - 1 - x).toNat keep
    if keep then body else trimZeros body

/-- The hexadecimal digits of a whole number, `width` of them at least. -/
def hexDigits (upper : Bool) (width n : Nat) : List Char :=
  let ds := (Nat.toDigits 16 n).map fun c => if upper then c.toUpper else c
  List.replicate (width - ds.length) '0' ++ ds

/-- The hexadecimal form of `q * 2^e`, without its `0x`: a lead digit, the point and the digits
of the 52 bits after it (as many as `precision` asks, rounded, or all but trailing zeros), and the
binary exponent. -/
def hexadecimal (q : Nat) (e : Int) (precision : Option Nat) (point upper : Bool) : List Char :=
  let (lead, bits, x) : Nat × Nat × Int :=
    if q == 0 then (0, 0, 0)
    else if q ≥ Nat.pow 2 52 then (1, q - Nat.pow 2 52, e + 52)
    else (0, q, -1022)
  let (lead, frac, count) := match precision with
    | none =>
      let ds := hexDigits upper 13 bits
      let trimmed := (ds.reverse.dropWhile (· == '0')).reverse
      (lead, bits / Nat.pow 16 (13 - trimmed.length), trimmed.length)
    | some p =>
      if p ≥ 13 then (lead, bits * Nat.pow 16 (p - 13), p)
      else
        let r := roundHalfEven (lead * Nat.pow 2 52 + bits) (Nat.pow 16 (13 - p))
        (r / Nat.pow 16 p, r % Nat.pow 16 p, p)
  let fracDigits := if count = 0 then [] else hexDigits upper count frac
  hexDigits upper 1 lead ++ (if count > 0 || point then ['.'] else []) ++ fracDigits ++
    [if upper then 'P' else 'p', if x < 0 then '-' else '+'] ++ decimalDigits x.natAbs

example : hexadecimal (Nat.pow 2 52) (-52) none false false = "1p+0".toList := by decide +kernel
example : general (3 * Nat.pow 2 51) (-52) 6 false 'e' = "1.5".toList := by decide +kernel

end Double

end PoolServer
