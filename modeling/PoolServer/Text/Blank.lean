import PoolServer.Text.Split
/-!
# Blank characters

The request line is cut into words at blanks, and a header line or the whole head counts as empty
when it holds blanks only. A blank is a character with the Unicode property White_Space: the ASCII
tab, line feed, vertical tab, form feed, carriage return and space, and the nineteen others below.

Main statement: every character that core's ASCII test calls whitespace is a blank.
-/
namespace PoolServer

namespace Text

/-- The Unicode White_Space property: U+0009 to U+000D, U+0020, U+0085, U+00A0, U+1680,
U+2000 to U+200A, U+2028, U+2029, U+202F, U+205F and U+3000. -/
def isBlank (c : Char) : Bool :=
  let n := c.toNat
  (0x09 ≤ n && n ≤ 0x0D) || n == 0x20 || n == 0x85 || n == 0xA0 || n == 0x1680 ||
    (0x2000 ≤ n && n ≤ 0x200A) || n == 0x2028 || n == 0x2029 || n == 0x202F || n == 0x205F ||
    n == 0x3000

/-- Core's whitespace test (space, tab, line feed, carriage return) is contained in the table. -/
theorem isBlank_of_isWhitespace {c : Char} (h : c.isWhitespace = true) : isBlank c = true := by
  simp only [Char.isWhitespace, Bool.or_eq_true, decide_eq_true_eq] at h
  rcases h with ((h | h) | h) | h <;> subst h <;> decide

example : isBlank '\x0c' = true ∧ isBlank '　' = true ∧ isBlank '​' = false := by decide

/-- The text without its leading and trailing blanks. -/
def trim (cs : List Char) : List Char :=
  ((cs.dropWhile isBlank).reverse.dropWhile isBlank).reverse

/-- The words of a text: its maximal runs of non-blank characters, in order. -/
def words (cs : List Char) : List (List Char) := fieldsWhere isBlank cs

end Text

end PoolServer
