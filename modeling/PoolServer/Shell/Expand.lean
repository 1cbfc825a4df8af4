import PoolServer.Shell.Builtin
import PoolServer.Shell.Glob
import PoolServer.Shell.Arith
/-!
# Shell scripts: the pieces of expansion

The steps of expanding a word that need no command to run:

* the pieces a value or a literal text gives, quoted or not;
* the parameters `$@` and `$*`, which give one field per parameter when quoted in a word that is
  split (`"$@"`), and are otherwise joined by the first byte of `IFS`;
* the patterns of `case` and of `${name#pattern}`, in which quoted bytes stand for themselves;
* removing the shortest or longest matching front or back part of a value;
* arithmetic, whose assignments land in the shell's variables;
* pathname expansion of a field, unless the `-f` option is on.
-/
namespace PoolServer

namespace Shell

/-- The pieces of an expanded value: when `quoted`, an anchor and bytes that stand for
themselves; otherwise bytes that may split the word. -/
def valuePieces (v : Bytes) (quoted : Bool) : List Piece :=
  (if quoted then [Piece.anchor] else []) ++ v.map fun b => .cell ⟨b, quoted, !quoted⟩

/-- The pieces of literal text of a word. -/
def textPieces (bs : Bytes) (quoted : Bool) : List Piece :=
  (if quoted then [Piece.anchor] else []) ++ bs.map fun b => .cell ⟨b, quoted, false⟩

/-- The word of an operator in an unquoted expansion may split where it was not quoted. -/
def loosen (ps : List Piece) : List Piece :=
  ps.map fun
    | .cell c => if c.quoted then .cell c else .cell { c with splits := true }
    | p => p

/-- The byte that joins the positional parameters: the first of `IFS`, a space when it is unset,
nothing when it is empty. -/
def joiner (ifs : Option Bytes) : Bytes :=
  match ifs with
  | some v => v.take 1
  | none => [byte ' ']

/-- The pieces of `$@` or `$*`. Quoted `$@` in a word that is split gives one field per
parameter, and nothing at all when there are none. Unquoted in such a word, the parameters split
apart, each on its own. Elsewhere they are joined. -/
def paramsPieces (args : List Bytes) (ifs : Option Bytes) (quoted fields each : Bool) :
    List Piece :=
  if quoted && fields && each then
    List.intercalate [Piece.boundary] (args.map fun a => valuePieces a true)
  else if quoted then valuePieces (List.intercalate (joiner ifs) args) true
  else if fields then
    let sep : List Piece := match joiner ifs with
      | [] => [.boundary]
      | bs => valuePieces bs false
    List.intercalate sep (args.map fun a => valuePieces a false)
  else (List.intercalate (joiner ifs) args).map fun b => .cell ⟨b, false, false⟩

/-- The pattern expanded pieces spell: quoted bytes are written with a backslash before them,
so that they stand for themselves. -/
def patternOf (ps : List Piece) : Bytes :=
  ps.flatMap fun
    | .cell c => if c.quoted then [byte '\\', c.byte] else [c.byte]
    | _ => []

/-- A value without the front part (`front`) or back part a pattern matches: the shortest such
part, or the longest when `longest`; the value itself when none matches. -/
def dropMatch (front longest : Bool) (pattern v : Bytes) : Bytes :=
  let ks := List.range (v.length + 1)
  if front then
    let order := if longest then ks.reverse else ks
    match order.find? fun k => patternMatches pattern (v.take k) with
    | some k => v.drop k
    | none => v
  else
    let order := if longest then ks else ks.reverse
    match order.find? fun k => patternMatches pattern (v.drop k) with
    | some k => v.take k
    | none => v

example : dropMatch true true (bytesOf "*/") (bytesOf "/srv/t.cgi") = bytesOf "t.cgi" := by
  decide +kernel
example : dropMatch false false (bytesOf ".*") (bytesOf "a.b.c") = bytesOf "a.b" := by
  decide +kernel

/-- A value without its trailing line feeds, as command substitution gives it. -/
def dropTrailingNewlines (bs : Bytes) : Bytes := (bs.reverse.dropWhile (· == 10)).reverse

/-- Evaluates an arithmetic expression with the shell's variables, and sets the variables it
assigns. A division by zero is reported as the shell's error; an overflowing division ends the
process with a floating-point exception. -/
def arithmetic (text : Bytes) : Sh Int := do
  let p ← proc
  match evalArith (fun n => (p.var? n).bind (·.value)) text with
  | .ok (v, sets) =>
    for (n, x) in sets.reverse do setVar n (decimalInt x)
    pure v
  | .error (.message m) | .error (.bare m) => fail (bytesOf m)
  | .error .fault => throw (.killed 8)

/-- The fields pathname expansion makes of a field: the paths its pattern matches, or the field
itself when it has no pattern, matches nothing, or the `-f` option is on. -/
def globField (p : Proc) (cs : List Cell) : List Bytes :=
  let plain := cellBytes cs
  let special := cs.any fun c => !c.quoted && (c.byte == byte '*' || c.byte == byte '?' || c.byte == byte '[')
  if p.opts.noglob || !special then [plain]
  else
    let pattern := cs.flatMap fun c =>
      if c.quoted then [byte '\\', c.byte] else [c.byte]
    match expandPath p.world.disk pattern with
    | [] => [plain]
    | found => found

/-- The fields of the pieces of a word: split at the separators of `IFS`, then expanded as
paths. -/
def fieldsOf (p : Proc) (ps : List Piece) : List Bytes :=
  (splitFields ((p.var? "IFS").bind (·.value)) ps).flatMap (globField p)

/-- Whether a word is an assignment `name=value`, which a declaration such as `export` takes
whole. -/
def isAssignmentWord (w : Word) : Bool :=
  match w with
  | .text bs false :: _ =>
    let name := bs.takeWhile (· != byte '=')
    name.length < bs.length && isNameBytes name
  | _ => false

end Shell

end PoolServer
