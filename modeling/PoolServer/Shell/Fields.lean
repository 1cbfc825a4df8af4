import PoolServer.Shell.Lexer
/-!
# Shell scripts: fields

Expanding a word gives bytes that remember where they came from. A quoted byte stands for itself
in a pattern. A byte from an unquoted expansion may split the word into fields. Besides bytes,
an expansion leaves anchors, which make a field even when it is empty (a quoted part, such as
`""`), and boundaries, which end a field (between the parameters of `"$@"`).

Splitting follows the field separators `IFS` (space, tab and line feed when unset; nothing when
empty):

* a run of separator white space ends a field that has begun, and is ignored elsewhere;
* any other separator ends the field, and starts an empty one when no field has begun since the
  last separator, unless white space ended a field just before it: then the two make one
  delimiter;
* separators at the end add no empty field.

`read` splits a line the same way, except for its last variable. That one gets the rest of the
line without trailing separator white space. When that rest is a single field with one
separator after it, the separator is dropped too.
-/
namespace PoolServer

namespace Shell

/-- A byte of an expanded word. -/
structure Cell where
  byte : UInt8
  /-- Whether it was quoted, so that it stands for itself in a pattern. -/
  quoted : Bool
  /-- Whether it came from an unquoted expansion, so that it may split the word. -/
  splits : Bool
  deriving DecidableEq, Repr

/-- A piece of an expanded word. -/
inductive Piece where
  | cell (c : Cell)
  /-- A quoted part: the word makes a field even when it is empty. -/
  | anchor
  /-- The end of a field, as between the parameters of `"$@"`. -/
  | boundary
  deriving DecidableEq, Repr

/-- The field separators when `IFS` is unset. -/
def defaultSeparators : Bytes := bytesOf " \t\n"

/-- The field separators for a value of `IFS`. -/
def separatorsOf (ifs : Option Bytes) : Bytes := ifs.getD defaultSeparators

/-- Whether a byte is separator white space. -/
def isSeparatorSpace (b : UInt8) : Bool := defaultSeparators.contains b

/-- What splitting has seen last, when no field is under way. -/
inductive After where
  /-- The start, or a boundary. -/
  | start
  /-- White space that ended a field. -/
  | space
  /-- A separator other than white space. -/
  | hard
  deriving DecidableEq

/-- The state of splitting: the fields so far, the field under way and whether it has begun,
and what came last. -/
structure Splitting where
  done : List (List Cell)
  current : List Cell
  begun : Bool
  last : After

/-- Ends the field under way. -/
def Splitting.finish (s : Splitting) (last : After) : Splitting :=
  { done := s.done ++ [s.current], current := [], begun := false, last }

/-- Takes one piece. -/
def Splitting.step (seps : Bytes) (s : Splitting) : Piece → Splitting
  | .anchor => { s with begun := true }
  | .boundary => if s.begun then s.finish .start else { s with last := .start }
  | .cell c =>
    if c.splits && seps.contains c.byte then
      if isSeparatorSpace c.byte then
        if s.begun then s.finish .space else s
      else if s.begun then s.finish .hard
      else if s.last == .space then { s with last := .hard }
      else s.finish .hard
    else { s with current := s.current ++ [c], begun := true }

/-- Splits the pieces of a word into fields. -/
def splitFields (ifs : Option Bytes) (pieces : List Piece) : List (List Cell) :=
  let s := pieces.foldl (Splitting.step (separatorsOf ifs)) ⟨[], [], false, .start⟩
  if s.begun then s.done ++ [s.current] else s.done

/-- The bytes of cells. -/
def cellBytes (cs : List Cell) : Bytes := cs.map (·.byte)

/-- The bytes of pieces, joined into one text without splitting. -/
def pieceBytes (ps : List Piece) : Bytes :=
  ps.filterMap fun
    | .cell c => some c.byte
    | _ => none

example : (splitFields (some (bytesOf " ,"))
    ((bytesOf " a , b,,c ").map fun b => .cell ⟨b, false, true⟩)).map cellBytes =
    [bytesOf "a", bytesOf "b", [], bytesOf "c"] := by decide

/-- A byte of a line `read` took, and whether it may split (it was not escaped). -/
abbrev LineByte := UInt8 × Bool

/-- Whether a byte of a line is a separator. -/
def isSep (seps : Bytes) (c : LineByte) : Bool := c.2 && seps.contains c.1

/-- Whether a byte of a line is separator white space. -/
def isSepSpace (seps : Bytes) (c : LineByte) : Bool := isSep seps c && isSeparatorSpace c.1

/-- Drops separator white space at the front. -/
def dropSpace (seps : Bytes) (line : List LineByte) : List LineByte :=
  line.dropWhile (isSepSpace seps)

/-- Takes one field from the front of a line, and the line after its delimiter: white space, or
one other separator, or white space then one other separator, with white space around. -/
def takeField (seps : Bytes) (line : List LineByte) : Bytes × List LineByte :=
  let field := line.takeWhile fun c => !isSep seps c
  let rest := line.drop field.length
  let rest := match rest with
    | c :: more =>
      if isSepSpace seps c then
        let more := dropSpace seps more
        match more with
        | d :: after => if isSep seps d then dropSpace seps after else more
        | [] => more
      else dropSpace seps more
    | [] => []
  (field.map (·.1), rest)

/-- What the last variable of `read` gets from the rest of a line. -/
def lastValue (seps : Bytes) (line : List LineByte) : Bytes :=
  let trimmed := (dropSpace seps line.reverse).reverse
  let single : Option (List LineByte) :=
    match trimmed.reverse with
    | t :: before =>
      if isSep seps t && !isSepSpace seps t then
        let body := (dropSpace seps before).reverse
        if body.any (isSep seps) then none else some body
      else none
    | [] => none
  (single.getD trimmed).map (·.1)

/-- The values `read` gives its variables, `count` of them (at least one), from a line. -/
def readValues (ifs : Option Bytes) (count : Nat) (line : List LineByte) : List Bytes :=
  let seps := separatorsOf ifs
  go seps count (dropSpace seps line)
where
  go (seps : Bytes) : Nat → List LineByte → List Bytes
    | 0, _ => []
    | 1, line => [lastValue seps line]
    | n + 1, line =>
      if line.isEmpty then List.replicate (n + 1) []
      else
        let (field, rest) := takeField seps line
        field :: go seps n rest

example : readValues (some (bytesOf ",")) 2 ((bytesOf "1,2,3").map (·, true)) =
    [bytesOf "1", bytesOf "2,3"] := by decide
example : readValues none 2 ((bytesOf "x y z").map (·, true)) = [bytesOf "x", bytesOf "y z"] := by
  decide

end Shell

end PoolServer
