import PoolServer.Shell.Lexer
import PoolServer.Text.Whole
/-!
# Shell scripts: `test` and `[`

`test` evaluates a condition written as words. `[` is the same command, with a last word that
must start with `]`. The grammar is read by recursive descent:

* an expression is terms joined by `-o`, and a term is factors joined by `-a`;
* a factor is `! factor`, `( expression )`, a unary test, `word op word` for a binary
  operator, or a word, which is true when it is not empty.

Both sides of `-a` and `-o` are always evaluated.

The number of words settles some readings before the grammar sees them, as POSIX prescribes.
Three words with a binary operator in the middle compare the outer two. Three or four words in
parentheses drop them, and three or four words after a `!` are tested and the answer inverted.

A word that spells a unary operator counts as a plain word when it is the last word, or when a
binary operator and another word follow it. A `(` that is the last word counts as a plain word
too.

The tests:

* `-n` and `-z` look at text, and `=`, `!=`, `<`, `>` compare texts byte by byte;
* `-eq`, `-ne`, `-lt`, `-le`, `-gt`, `-ge` compare decimal integers, which may have blanks
  around them;
* the file tests ask the file system through a `FileView`.

A malformed condition or a number that is not one is an error, with the shell's message.
-/
namespace PoolServer

namespace Shell

/-- What a unary test asks of its word. -/
inductive UnaryTest where
  | readable | writable | executable | exists | regular | directory | charDevice | blockDevice
  | fifo | socket | symlink | setuid | setgid | sticky | nonEmpty | owned | groupOwned
  | terminal | emptyText | someText
  deriving DecidableEq, Repr

/-- What a binary test asks of its two words. -/
inductive BinaryTest where
  | same | differ | before | after
  | intEq | intNe | intGe | intGt | intLe | intLt
  | newer | older | sameFile
  deriving DecidableEq, Repr

/-- An operator of `test`. -/
inductive TestOp where
  | unary (t : UnaryTest)
  | binary (t : BinaryTest)
  | not
  | and
  | or
  | openParen
  | closeParen
  deriving DecidableEq, Repr

/-- The operators of `test`, by their words. -/
def testOps : List (String × TestOp) :=
  [("-r", .unary .readable), ("-w", .unary .writable), ("-x", .unary .executable),
   ("-e", .unary .exists), ("-f", .unary .regular), ("-d", .unary .directory),
   ("-c", .unary .charDevice), ("-b", .unary .blockDevice), ("-p", .unary .fifo),
   ("-u", .unary .setuid), ("-g", .unary .setgid), ("-k", .unary .sticky),
   ("-s", .unary .nonEmpty), ("-t", .unary .terminal), ("-z", .unary .emptyText),
   ("-n", .unary .someText), ("-h", .unary .symlink), ("-O", .unary .owned),
   ("-G", .unary .groupOwned), ("-L", .unary .symlink), ("-S", .unary .socket),
   ("=", .binary .same), ("!=", .binary .differ), ("<", .binary .before), (">", .binary .after),
   ("-eq", .binary .intEq), ("-ne", .binary .intNe), ("-ge", .binary .intGe),
   ("-gt", .binary .intGt), ("-le", .binary .intLe), ("-lt", .binary .intLt),
   ("-nt", .binary .newer), ("-ot", .binary .older), ("-ef", .binary .sameFile),
   ("!", .not), ("-a", .and), ("-o", .or), ("(", .openParen), (")", .closeParen)]

/-- The operator a word spells, if any. -/
def TestOp.of? (w : Bytes) : Option TestOp :=
  (testOps.find? fun (t, _) => bytesOf t == w).map (·.2)

/-- Whether a word spells a binary operator. -/
def isBinaryWord (w : Bytes) : Bool :=
  match TestOp.of? w with
  | some (.binary _) => true
  | _ => false

/-- A word of a condition as the grammar reads it. -/
inductive TestToken where
  /-- No words are left. -/
  | done
  | word
  | op (o : TestOp)
  deriving DecidableEq

/-- Reads the word at the front: an operator unless its place makes it a plain word. -/
def tokenAt (ws : List Bytes) : TestToken :=
  match ws with
  | [] => .done
  | w :: rest =>
    match TestOp.of? w with
    | some (.unary u) =>
      let plain := match rest with
        | [] => true
        | [_] => false
        | b :: _ :: _ => isBinaryWord b
      if plain then .word else .op (.unary u)
    | some .openParen => if rest.isEmpty then .word else .op .openParen
    | some o => .op o
    | none => .word

/-- What the file tests see of the file system. -/
structure FileView where
  /-- The answer of a unary file test for a path. -/
  check : UnaryTest → Bytes → Bool
  /-- Whether the first file was changed after the second. -/
  newer : Bytes → Bytes → Bool
  /-- Whether two paths name the same file. -/
  sameFile : Bytes → Bytes → Bool

/-- Reads a decimal integer operand, with blanks around it allowed. -/
def testNumber (a : Bytes) : Except String Int :=
  let r := Whole.read 10 a
  let (v, overflow) := r.signed
  if overflow || r.used == 0 || !(a.drop r.used).all Whole.isSpace then
    .error ("Illegal number: " ++ asText a)
  else pure v

/-- Whether one text comes before another, byte by byte. -/
def bytesBefore : Bytes → Bytes → Bool
  | [], [] => false
  | [], _ :: _ => true
  | _ :: _, [] => false
  | a :: as, b :: bs => if a == b then bytesBefore as bs else a < b

/-- Evaluates a unary test on its word. -/
def unaryTest (view : FileView) (t : UnaryTest) (w : Bytes) : Except String Bool :=
  match t with
  | .emptyText => pure w.isEmpty
  | .someText => pure !w.isEmpty
  | .terminal => do
    let _ ← testNumber w
    pure false
  | t => pure (view.check t w)

/-- Evaluates a binary test on its two words. -/
def binaryTest (view : FileView) (t : BinaryTest) (a b : Bytes) : Except String Bool :=
  let ints (f : Int → Int → Bool) : Except String Bool := do
    let x ← testNumber a
    let y ← testNumber b
    pure (f x y)
  match t with
  | .same => pure (a == b)
  | .differ => pure (a != b)
  | .before => pure (bytesBefore a b)
  | .after => pure (bytesBefore b a)
  | .intEq => ints (· == ·)
  | .intNe => ints (· != ·)
  | .intGe => ints (· ≥ ·)
  | .intGt => ints (· > ·)
  | .intLe => ints (· ≤ ·)
  | .intLt => ints (· < ·)
  | .newer => pure (view.newer a b)
  | .older => pure (view.newer b a)
  | .sameFile => pure (view.sameFile a b)

/-- A message about the word it arose at; an empty word is left out. -/
def near (w : Bytes) (msg : String) : String := if w.isEmpty then msg else asText w ++ ": " ++ msg

/-- The result of reading part of a condition: its truth, and the words from the last one read
on. -/
abbrev TestStep := Except String (Bool × List Bytes)

mutual

/-- Reads terms joined by `-o`. -/
def orExpr (view : FileView) : Nat → TestToken → List Bytes → TestStep
  | 0, _, _ => .error "expression too deep"
  | fuel + 1, t, ws => do
    let (a, ws) ← andExpr view fuel t ws
    match tokenAt ws.tail with
    | .op .or =>
      let next := ws.drop 2
      let (b, ws) ← orExpr view fuel (tokenAt next) next
      pure (a || b, ws)
    | _ => pure (a, ws)

/-- Reads factors joined by `-a`. -/
def andExpr (view : FileView) : Nat → TestToken → List Bytes → TestStep
  | 0, _, _ => .error "expression too deep"
  | fuel + 1, t, ws => do
    let (a, ws) ← notExpr view fuel t ws
    match tokenAt ws.tail with
    | .op .and =>
      let next := ws.drop 2
      let (b, ws) ← andExpr view fuel (tokenAt next) next
      pure (a && b, ws)
    | _ => pure (a, ws)

/-- Reads a factor with the `!` in front of it. -/
def notExpr (view : FileView) : Nat → TestToken → List Bytes → TestStep
  | 0, _, _ => .error "expression too deep"
  | fuel + 1, t, ws =>
    match t with
    | .op .not => do
      let (a, ws) ← notExpr view fuel (tokenAt ws.tail) ws.tail
      pure (!a, ws)
    | t => primaryExpr view fuel t ws

/-- Reads a parenthesised expression, a unary or binary test, or a word. -/
def primaryExpr (view : FileView) : Nat → TestToken → List Bytes → TestStep
  | 0, _, _ => .error "expression too deep"
  | fuel + 1, t, ws =>
    match t with
    | .done => pure (false, ws)
    | .op .openParen =>
      let inner := ws.tail
      match tokenAt inner with
      | .op .closeParen => pure (false, inner)
      | t => do
        let (a, ws) ← orExpr view fuel t inner
        match tokenAt ws.tail with
        | .op .closeParen => pure (a, ws.tail)
        | _ => .error "closing paren expected"
    | .op (.unary u) =>
      match ws with
      | _ :: w :: rest => do
        let a ← unaryTest view u w
        pure (a, w :: rest)
      | _ => .error (near (ws.head?.getD []) "argument expected")
    | _ =>
      match ws with
      | w :: rest =>
        match rest with
        | opWord :: more =>
          match TestOp.of? opWord with
          | some (.binary b) =>
            match more with
            | y :: _ => do
              let a ← binaryTest view b w y
              pure (a, more)
            | [] => .error (near opWord "argument expected")
          | _ => pure (!w.isEmpty, ws)
        | [] => pure (!w.isEmpty, ws)
      | [] => pure (false, ws)

end

/-- Evaluates the words of a condition after the forms that the number of words settles.
`negated` tells whether a leading `!` was taken away. -/
def testWords (view : FileView) : Nat → Bool → List Bytes → Except String Bool
  | 0, _, _ => .error "expression too deep"
  | fuel + 1, negated, ws =>
    let eval (t : TestToken) (ws : List Bytes) : Except String Bool := do
      let (a, rest) ← orExpr view (4 * ws.length + 8) t ws
      match rest with
      | w :: _ :: _ => .error (near w "unexpected operator")
      | _ => pure (if negated then !a else a)
    let byShape : Except String Bool :=
      match ws with
      | first :: _ =>
        if ws.length == 3 || ws.length == 4 then
          if first == bytesOf "(" && ws.getLast? == some (bytesOf ")") then
            let inner := (ws.drop 1).dropLast
            eval (tokenAt inner) inner
          else if first == bytesOf "!" then testWords view fuel true ws.tail
          else eval (tokenAt ws) ws
        else eval (tokenAt ws) ws
      | [] => pure negated
    match ws with
    | [_, middle, _] => if isBinaryWord middle then eval .word ws else byShape
    | _ => byShape

/-- Runs `test` with its words; `bracket` tells that it was called as `[`, whose last word must
start with `]`. -/
def test (view : FileView) (bracket : Bool) (args : List Bytes) : Except String Bool :=
  if bracket then
    match args.getLast? with
    | some (c :: _) =>
      if c == byte ']' then testWords view (args.length + 1) false args.dropLast
      else .error "missing ]"
    | _ => .error "missing ]"
  else testWords view (args.length + 1) false args

end Shell

end PoolServer
