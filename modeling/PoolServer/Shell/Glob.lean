import PoolServer.Shell.Lexer
import PoolServer.Disk.Walk
/-!
# Shell scripts: patterns

A pattern matches text byte by byte. `*` matches any run of bytes and `?` any one byte. A
bracket `[…]` matches one byte of a set, or one byte outside it after `[!`; a `^` there is only
a member. The set is made of bytes, ranges `a-z`, and the classes `[:alpha:]`, `[:digit:]` and
the like. The first byte after the opening (and its `!`) belongs to the set even when it is `]`.
A bracket that never closes is a plain `[`.

A backslash makes the next byte literal. The shell writes quoted bytes of a pattern this way,
so quoted text always matches itself.

Ranges compare bytes as the signed `char` of C does, so bytes from `0x80` on sort below the
ASCII ones. The classes are those of the C locale.

Pathname expansion matches a pattern against the names on the disk, one `/`-separated part at a
time. Only parts with a special character are matched against directory entries. A name that
starts with `.` is matched only by a part that starts with `.`. The matches are sorted by bytes;
when nothing matches, the pattern is left as it was.
-/
namespace PoolServer

namespace Shell

/-- A member of a bracket's set. -/
inductive SetMember where
  | single (b : UInt8)
  | range (lo hi : UInt8)
  | named (name : String)
  deriving DecidableEq, Repr

/-- A piece of a compiled pattern. -/
inductive Glob where
  | literal (b : UInt8)
  | one
  | many
  | oneOf (members : List SetMember) (invert : Bool)
  deriving DecidableEq, Repr

/-- A byte as C's signed `char`. -/
def signedChar (b : UInt8) : Int := if b < 128 then b.toNat else (b.toNat : Int) - 256

/-- Whether a byte belongs to a character class of the C locale. -/
def inClass (name : String) (b : UInt8) : Bool :=
  let n := b.toNat
  let upper := 65 ≤ n && n ≤ 90
  let lower := 97 ≤ n && n ≤ 122
  let digit := 48 ≤ n && n ≤ 57
  let graph := 33 ≤ n && n ≤ 126
  match name with
  | "alnum" => upper || lower || digit
  | "alpha" => upper || lower
  | "blank" => n == 32 || n == 9
  | "cntrl" => n < 32 || n == 127
  | "digit" => digit
  | "graph" => graph
  | "lower" => lower
  | "print" => graph || n == 32
  | "punct" => graph && !(upper || lower || digit)
  | "space" => n == 32 || (9 ≤ n && n ≤ 13)
  | "upper" => upper
  | "xdigit" => digit || (97 ≤ n && n ≤ 102) || (65 ≤ n && n ≤ 70)
  | _ => false

/-- The class names a bracket knows. -/
def classNames : List String :=
  ["alnum", "cntrl", "lower", "space", "alpha", "digit", "print", "upper", "blank", "graph",
   "punct", "xdigit"]

/-- After a `[` inside a bracket: the class it opens, and the bytes after its `:]`. -/
def classAt (bs : Bytes) : Option (String × Bytes) :=
  classNames.findSome? fun n =>
    let spelled := bytesOf (":" ++ n ++ ":]")
    if bs.take spelled.length == spelled then some (n, bs.drop spelled.length) else none

/-- Whether a byte belongs to a member of a set. -/
def SetMember.admits (b : UInt8) : SetMember → Bool
  | .single c => b == c
  | .range lo hi => signedChar lo ≤ signedChar b && signedChar b ≤ signedChar hi
  | .named n => inClass n b

/-- Reads the members of a bracket after its first member's byte `c`, up to the closing `]`:
the members and the bytes after it, or `none` when it never closes. -/
def bracketMembers : Nat → UInt8 → Bytes → Option (List SetMember × Bytes)
  | 0, _, _ => none
  | fuel + 1, c, bs =>
    let next (m : SetMember) (rest : Bytes) : Option (List SetMember × Bytes) :=
      match rest with
      | d :: more =>
        if d == byte ']' then some ([m], more)
        else (bracketMembers fuel d more).map fun (ms, r) => (m :: ms, r)
      | [] => none
    let classed : Option (String × Bytes) := if c == byte '[' then classAt bs else none
    match classed with
    | some (n, rest) => next (.named n) rest
    | none =>
      let (c, bs) : UInt8 × Bytes :=
        if c == byte '\\' then
          match bs with
          | e :: r => (e, r)
          | [] => (c, bs)
        else (c, bs)
      match bs with
      | d :: e :: r =>
        if d == byte '-' && e != byte ']' then
          let (hi, r) := if e == byte '\\' then (r.head?.getD e, r.drop 1) else (e, r)
          next (.range c hi) r
        else next (.single c) bs
      | _ => next (.single c) bs

/-- Compiles a pattern written with backslashes before literal bytes. -/
def compile : Nat → Bytes → List Glob
  | 0, _ => []
  | _, [] => []
  | fuel + 1, b :: rest =>
    if b == byte '\\' then
      match rest with
      | c :: more => .literal c :: compile fuel more
      | [] => [.literal b]
    else if b == byte '?' then .one :: compile fuel rest
    else if b == byte '*' then .many :: compile fuel rest
    else if b == byte '[' then
      let (invert, body) := match rest with
        | c :: more => if c == byte '!' then (true, more) else (false, rest)
        | [] => (false, rest)
      let bracket := match body with
        | c :: more => bracketMembers (body.length + 1) c more
        | [] => none
      match bracket with
      | some (ms, after) => .oneOf ms invert :: compile fuel after
      | none => .literal b :: compile fuel rest
    else .literal b :: compile fuel rest

/-- A text and all its tails, longest first. -/
def suffixes : Bytes → List Bytes
  | [] => [[]]
  | b :: rest => (b :: rest) :: suffixes rest

/-- Whether compiled pieces match all of a text. -/
def Glob.matches : List Glob → Bytes → Bool
  | [], s => s.isEmpty
  | .literal b :: gs, c :: s => b == c && Glob.matches gs s
  | .one :: gs, _ :: s => Glob.matches gs s
  | .oneOf ms invert :: gs, c :: s => (ms.any (·.admits c)) != invert && Glob.matches gs s
  | .many :: gs, s => (suffixes s).any fun t => Glob.matches gs t
  | _ :: _, [] => false

/-- Whether a pattern, written with backslashes before literal bytes, matches all of a text. -/
def patternMatches (pattern text : Bytes) : Bool :=
  Glob.matches (compile (pattern.length + 1) pattern) text

example : patternMatches (bytesOf "[ab]*") (bytesOf "berry") = true := by decide +kernel
example : patternMatches (bytesOf "?????") (bytesOf "berry") = true := by decide +kernel
example : patternMatches (bytesOf "a\\*") (bytesOf "ab") = false := by decide +kernel
example : patternMatches (bytesOf "[!a]") (bytesOf "]") = true := by decide +kernel

/-- Removes the backslashes that mark literal bytes. -/
def unescape : Nat → Bytes → Bytes
  | 0, _ => []
  | _, [] => []
  | fuel + 1, b :: rest =>
    if b == byte '\\' then
      match rest with
      | c :: more => c :: unescape fuel more
      | [] => [b]
    else b :: unescape fuel rest

/-- Whether a part of a path pattern has a special character that pathname expansion matches:
`*`, `?`, or a `[` closed by a `]` in the same part. -/
def isMagic : Nat → Bytes → Bool
  | 0, _ => false
  | _, [] => false
  | fuel + 1, b :: rest =>
    if b == byte '\\' then isMagic fuel (rest.drop 1)
    else if b == byte '*' || b == byte '?' then true
    else if b == byte '[' then
      let body := match rest with
        | c :: more => if c == byte '!' then more else rest
        | [] => rest
      closes (body.length + 1) body || isMagic fuel rest
    else isMagic fuel rest
where
  /-- Whether a `]` closes the bracket, not counting its first byte. -/
  closes : Nat → Bytes → Bool
    | 0, _ => false
    | _, [] => false
    | fuel + 1, b :: rest =>
      let (b, rest) := if b == byte '\\' then (rest.head?.getD 0, rest.drop 1) else (b, rest)
      if b == 0 then false
      else
        match rest with
        | c :: more => if c == byte ']' then true else closes fuel (c :: more)
        | [] => false

/-- Cuts a path pattern at its slashes; a slash marked literal cuts it too. -/
def pathParts (pattern : Bytes) : List Bytes :=
  go (pattern.length + 1) pattern []
where
  go : Nat → Bytes → Bytes → List Bytes
    | 0, _, cur => [cur]
    | _, [], cur => [cur]
    | fuel + 1, b :: rest, cur =>
      if b == byte '/' then cur :: go fuel rest []
      else if b == byte '\\' then
        match rest with
        | c :: more => if c == byte '/' then cur :: go fuel more [] else go fuel more (cur ++ [b, c])
        | [] => go fuel rest (cur ++ [b])
      else go fuel rest (cur ++ [b])

/-- Bytes as a path, when they are well-formed UTF-8. -/
def pathText (bs : Bytes) : Option String := Utf8.text? bs

/-- The names in the directory a path leads to, `.` and `..` included. -/
def listing (d : Disk) (dir : Bytes) : List Bytes :=
  let path := if dir.isEmpty then some "." else pathText dir
  match path.map (d.walk · true) with
  | some (.ok (_, .dir _ entries)) => [bytesOf ".", bytesOf ".."] ++ entries.map (Utf8.encode ·.1)
  | _ => []

/-- Whether something exists at a path, a link at its end not followed. -/
def existsAt (d : Disk) (path : Bytes) : Bool :=
  match pathText path with
  | some p => (d.walk p false).toBool
  | none => false

/-- Expands the parts of a path pattern below the directory `dir` (its path, ending in `/`
unless empty). `expanded` tells whether a part was already matched against a directory. -/
def expandParts (d : Disk) : Nat → Bytes → Bool → List Bytes → List Bytes
  | 0, _, _, _ => []
  | fuel + 1, dir, expanded, parts =>
    let plain := parts.takeWhile fun p => !isMagic (p.length + 1) p
    match parts.drop plain.length with
    | [] =>
      let path := dir ++ List.intercalate [byte '/'] (plain.map fun p => unescape (p.length + 1) p)
      if expanded && existsAt d path then [path] else []
    | magic :: rest =>
      let dir := dir ++ (plain.map fun p => unescape (p.length + 1) p ++ [byte '/']).flatten
      let first := match magic with
        | b :: c :: _ => if b == byte '\\' then c else b
        | b :: _ => b
        | [] => 0
      let dots := first == byte '.'
      let names := (listing d dir).filter fun n =>
        (dots || n.head? != some (byte '.')) && patternMatches magic n
      names.flatMap fun n =>
        if rest.isEmpty then [dir ++ n] else expandParts d fuel (dir ++ n ++ [byte '/']) true rest

/-- Whether one text sorts before another, byte by byte. -/
def bytesLess : Bytes → Bytes → Bool
  | [], [] => false
  | [], _ :: _ => true
  | _ :: _, [] => false
  | a :: as, b :: bs => if a == b then bytesLess as bs else a < b

/-- Inserts a text into a sorted list. -/
def insertSorted (x : Bytes) : List Bytes → List Bytes
  | [] => [x]
  | y :: ys => if bytesLess x y then x :: y :: ys else y :: insertSorted x ys

/-- The paths a pattern matches on the disk, sorted; empty when none does. -/
def expandPath (d : Disk) (pattern : Bytes) : List Bytes :=
  let parts := pathParts pattern
  let found := match parts with
    | [] :: rest@(_ :: _) => expandParts d (pattern.length + 2) [byte '/'] false rest
    | _ => expandParts d (pattern.length + 2) [] false parts
  found.foldl (fun acc x => insertSorted x acc) []

end Shell

end PoolServer
