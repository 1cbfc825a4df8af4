/-!
# Decimal numerals

Numbers are read from decimal text in two places: the `Content-Length` header and the command
line. Reading is strict: an optional `+` (or `-` where negative values exist), then ASCII digits
only, and a value outside the target range is refused. The first fault met from the left decides
the error, so a numeral that overflows before a bad character reports the overflow.

Numbers are written in plain decimal, and sub-second parts with a fixed number of zero-padded
digits.
-/
namespace PoolServer

/-- Why a decimal numeral was refused. -/
inductive NumeralError where
  /-- The text was empty. -/
  | empty
  /-- A character other than a digit, or a sign with no digits after it. -/
  | invalidDigit
  /-- The value is above the largest one allowed. -/
  | tooLarge
  /-- The value is below the smallest one allowed. -/
  | tooSmall
  deriving DecidableEq, Repr

namespace NumeralError

/-- The wording of each refusal. -/
def message : NumeralError → String
  | .empty => "cannot parse integer from empty string"
  | .invalidDigit => "invalid digit found in string"
  | .tooLarge => "number too large to fit in target type"
  | .tooSmall => "number too small to fit in target type"

end NumeralError

namespace Decimal

/-- The value of an ASCII digit. -/
def digitValue? (c : Char) : Option Nat :=
  if '0' ≤ c ∧ c ≤ '9' then some (c.toNat - '0'.toNat) else none

/-- Accumulates digits onto `acc`, refusing a non-digit and any partial value above `limit`;
`limitError` is the error for passing the limit. -/
def accumulate (limit : Nat) (limitError : NumeralError) : Nat → List Char → Except NumeralError Nat
  | acc, [] => .ok acc
  | acc, c :: cs =>
    match digitValue? c with
    | none => .error .invalidDigit
    | some d =>
      let v := acc * 10 + d
      if v ≤ limit then accumulate limit limitError v cs else .error limitError

/-- Reads an unsigned numeral no larger than `max`; a leading `+` is allowed. -/
def readNat (max : Nat) (s : List Char) : Except NumeralError Nat :=
  match s with
  | [] => .error .empty
  | ['+'] | ['-'] => .error .invalidDigit
  | '+' :: ds => accumulate max .tooLarge 0 ds
  | ds => accumulate max .tooLarge 0 ds

/-- Reads a signed numeral between `lo` and `hi`, where `lo ≤ 0 ≤ hi`; a leading `+` or `-` is
allowed. -/
def readInt (lo hi : Int) (s : List Char) : Except NumeralError Int :=
  match s with
  | [] => .error .empty
  | ['+'] | ['-'] => .error .invalidDigit
  | '+' :: ds => (accumulate hi.toNat .tooLarge 0 ds).map Int.ofNat
  | '-' :: ds => (accumulate (-lo).toNat .tooSmall 0 ds).map fun n => -(Int.ofNat n)
  | ds => (accumulate hi.toNat .tooLarge 0 ds).map Int.ofNat

/-- The largest value of a 64-bit unsigned word. -/
def wordMax : Nat := Nat.pow 2 64 - 1

/-- The decimal text of a natural number. -/
def text (n : Nat) : String := toString n

/-- The decimal text of an integer, with a leading `-` when it is negative. -/
def showInt (i : Int) : String :=
  if i < 0 then "-" ++ text i.natAbs else text i.natAbs

/-- The decimal text of `n`, padded on the left with zeros to at least `width` digits. -/
def padded (width n : Nat) : String :=
  let s := (toString n).toList
  String.ofList (List.replicate (width - s.length) '0' ++ s)

example : padded 6 250 = "000250" ∧ text 0 = "0" ∧ showInt (-12) = "-12" := by decide

end Decimal

end PoolServer
