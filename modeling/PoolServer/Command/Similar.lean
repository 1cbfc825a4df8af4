/-!
# Similar names

When an option is misspelt, the command suggests the known option most similar to it, by the Jaro
similarity of the two names: with `m` characters matched within a window of half the longer
length less one, and `t` half the number of matched pairs that stand in a different order, the
similarity of names of lengths `p` and `q` is `(m/p + m/q + (m - t)/m) / 3`, and zero when nothing
matches. A suggestion needs a similarity above 0.7; of several, the most similar wins, and of
equally similar ones the last.

The similarity is worked out in double precision: each quotient, each sum and the final third is
rounded to the nearest double, and the bound 0.7 is itself the double nearest to seven tenths. So
a name whose exact similarity is seven tenths, such as `i` against `public-dir`, lands just above
the bound and is suggested. Doubles are kept as exact fractions whose denominators are powers of
two, so every step is a computation on whole numbers.
-/
namespace PoolServer

namespace Command

namespace Similar

/-- The first position `j` with `lo ≤ j < hi` where `b` holds `c` and that is not yet taken. -/
def firstFree (c : Char) (b : List Char) (taken : List Bool) (lo hi : Nat) : Option Nat :=
  ((List.range hi).drop lo).find? fun j => b[j]? == some c && !(taken.getD j false)

/-- Which characters of `a` and of `b` are matched: each character of `a`, from the left, takes
the first free equal character of `b` within the window around its own position. -/
def matching (a b : List Char) : List Bool × List Bool :=
  let range := max a.length b.length / 2 - 1
  a.zipIdx.foldl (fun (af, bf) (c, i) =>
    match firstFree c b bf (i - range) (min b.length (i + range + 1)) with
    | some j => (af ++ [true], bf.set j true)
    | none => (af ++ [false], bf)) ([], List.replicate b.length false)

/-- The characters whose flag is set, in order. -/
def kept (cs : List Char) (flags : List Bool) : List Char :=
  (cs.zip flags).filterMap fun (c, f) => if f then some c else none

/-- A similarity as a fraction: numerator and denominator. -/
structure Score where
  num : Nat
  den : Nat
  deriving DecidableEq, Repr

/-- The number of binary digits of `n`: zero for zero. The fuel `n` is never the bound that stops
it, since halving reaches zero first. -/
def bitLength (n : Nat) : Nat :=
  go n n
where
  go : Nat → Nat → Nat
    | 0, _ => 0
    | fuel + 1, k => if k = 0 then 0 else go fuel (k / 2) + 1

example : bitLength 0 = 0 ∧ bitLength 1 = 1 ∧ bitLength 8 = 4 ∧ bitLength 255 = 8 := by decide

namespace Score

/-- The sum of two fractions. -/
def add (s t : Score) : Score := ⟨s.num * t.den + t.num * s.den, s.den * t.den⟩

/-- A fraction divided by a whole number. -/
def divBy (s : Score) (k : Nat) : Score := ⟨s.num, s.den * k⟩

/-- The least shift `e` that brings `num * 2^e / den` to at least `2^52`, that is the scale at
which the fraction's nearest double has a whole significand of 53 digits. -/
def scale (s : Score) : Nat :=
  let e := 52 + bitLength s.den - bitLength s.num
  if Nat.pow 2 52 * s.den ≤ s.num * Nat.pow 2 e then e else e + 1

/-- The double nearest to a fraction below `2^53`, with ties to the even significand; zero stays
zero. The fraction is scaled to a significand of 53 digits, rounded to a whole number there and
scaled back. -/
def nearest (s : Score) : Score :=
  if s.num = 0 || s.den = 0 then ⟨0, 1⟩
  else
    let e := s.scale
    let scaled := s.num * Nat.pow 2 e
    let q := scaled / s.den
    let r := scaled % s.den
    let up := 2 * r > s.den || (2 * r == s.den && q % 2 == 1)
    ⟨if up then q + 1 else q, Nat.pow 2 e⟩

/-- `s < t`, by cross multiplication. -/
def lt (s t : Score) : Bool := s.num * t.den < t.num * s.den

/-- `s ≤ t`, by cross multiplication. -/
def le (s t : Score) : Bool := s.num * t.den ≤ t.num * s.den

/-- The bound a suggestion must pass: the double nearest to seven tenths. -/
def bound : Score := nearest ⟨7, 10⟩

/-- Whether the similarity is above the bound. -/
def isClose (s : Score) : Bool := bound.lt s

end Score

/-- The Jaro similarity of two names, in double precision. -/
def jaro (a b : List Char) : Score :=
  if a.isEmpty && b.isEmpty then ⟨1, 1⟩
  else if a.isEmpty || b.isEmpty then ⟨0, 1⟩
  else
    let (af, bf) := matching a b
    let ka := kept a af
    let kb := kept b bf
    let m := ka.length
    let t := ((ka.zip kb).filter fun (x, y) => x ≠ y).length / 2
    if m = 0 then ⟨0, 1⟩
    else
      let ofA := Score.nearest ⟨m, a.length⟩
      let ofB := Score.nearest ⟨m, b.length⟩
      let inOrder := Score.nearest ⟨m - t, m⟩
      ((ofA.add ofB).nearest.add inOrder).nearest.divBy 3 |>.nearest

example : (jaro "i".toList "public-dir".toList).isClose = true := by decide +kernel
example : (jaro "hots".toList "help".toList).isClose = false := by decide +kernel

/-- The known name most similar to `given`, if one is similar enough. -/
def suggest (given : String) (known : List String) : Option String :=
  (known.foldl (fun best k =>
    let s := jaro given.toList k.toList
    if s.isClose then
      match best with
      | some (_, bs) => if bs.le s then some (k, s) else best
      | none => some (k, s)
    else best) none).map (·.1)

example : suggest "hots" ["host", "public-dir", "help"] = some "host" := by decide +kernel

end Similar

end Command

end PoolServer
