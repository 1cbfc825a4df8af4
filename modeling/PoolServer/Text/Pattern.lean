/-!
# Pattern syntax

A log filter may ask that a field of an event match a regular expression, and a filter whose
expression does not parse is refused. This module decides which texts parse, by the grammar of
the expressions:

* alternatives are split by `|`, and each is a sequence of items; an empty one is allowed;
* an item is a character, `.`, `^`, `$`, an escape, a bracketed class or a group;
* an item may be repeated by `*`, `+`, `?` or a count `{n}`, `{n,}`, `{,m}` or `{n,m}` with
  `n ≤ m`, each below `2^32`; a repetition needs an item before it, and a group of flags alone is
  not one;
* a group is `(...)`, `(?:...)`, `(?flags:...)`, `(?P<name>...)` or `(?<name>...)`, and `(?flags)`
  sets flags for what follows; the flags are `i`, `m`, `s`, `U`, `u`, `x` and `R`, each at most
  once, with at most one `-` before some of them; a name starts with a letter or `_`;
* an escape is a backslash before an ASCII character other than a letter, a digit, `<` or `>`
  (taken literally), before one of `a f t n r v` (a control character), `d D w W s S` (a class),
  `p P` with a one-letter or braced name (a property class), `x`, `u` or `U` with hexadecimal
  digits naming a character, or `b B A z < >` (a position);
* a class is `[...]` or `[^...]`, where leading `-` and a `]` right after the opening stand for
  themselves; it holds characters, escapes other than positions, ranges `a-z` whose ends are
  single characters in order, nested classes, named classes such as `[:alpha:]`, and the operators
  `&&`, `--` and `~~`.

Every step of the reading takes at least one character, so the length of the text, plus one, is
enough fuel.
-/
namespace PoolServer

namespace Pattern

/-- Whether a character is a hexadecimal digit. -/
def isHexDigit (c : Char) : Bool :=
  c.isDigit || ('a' ≤ c && c ≤ 'f') || ('A' ≤ c && c ≤ 'F')

/-- The value of hexadecimal digits. -/
def hexValue (ds : List Char) : Nat :=
  ds.foldl (fun n c =>
    n * 16 + (if c.isDigit then c.toNat - '0'.toNat
      else if 'a' ≤ c && c ≤ 'f' then c.toNat - 'a'.toNat + 10
      else c.toNat - 'A'.toNat + 10)) 0

/-- The value of decimal digits. -/
def decimalValue (ds : List Char) : Nat :=
  ds.foldl (fun n c => n * 10 + (c.toNat - '0'.toNat)) 0

/-- Whether a number is the code of a character: at most `0x10FFFF` and not a surrogate. -/
def isScalar (n : Nat) : Bool := n ≤ 0x10FFFF && !(0xD800 ≤ n && n ≤ 0xDFFF)

/-- Reads the digits of a hexadecimal escape, exactly `width` of them or any number in braces,
when they name a character; what follows them. -/
def hexDigits (width : Nat) (cs : List Char) : Option (List Char) :=
  match cs with
  | '\x7b' :: more =>
    let ds := more.takeWhile isHexDigit
    match more.drop ds.length with
    | '\x7d' :: rest => if !ds.isEmpty && isScalar (hexValue ds) then some rest else none
    | _ => none
  | _ =>
    let ds := (cs.take width).takeWhile isHexDigit
    if ds.length == width && isScalar (hexValue ds) then some (cs.drop width) else none

/-- What an escape stands for. -/
inductive Escape where
  /-- One character. -/
  | literal
  /-- A class of characters. -/
  | set
  /-- A position between characters. -/
  | position
  deriving DecidableEq, Repr

/-- Whether a character stands for itself after a backslash: ASCII, and not a letter, a digit,
`<` or `>`. -/
def isEscapable (c : Char) : Bool :=
  c.toNat < 128 && !c.isAlphanum && c != '<' && c != '>'

/-- Reads an escape after its backslash: what it stands for, and what follows it. -/
def escape : List Char → Option (Escape × List Char)
  | [] => none
  | c :: rest =>
    if isEscapable c || "aftnrv".toList.contains c then some (.literal, rest)
    else if "dDwWsS".toList.contains c then some (.set, rest)
    else if "bBAz<>".toList.contains c then some (.position, rest)
    else if c == 'x' then (hexDigits 2 rest).map (.literal, ·)
    else if c == 'u' then (hexDigits 4 rest).map (.literal, ·)
    else if c == 'U' then (hexDigits 8 rest).map (.literal, ·)
    else if c == 'p' || c == 'P' then
      match rest with
      | '\x7b' :: more =>
        let name := more.takeWhile (· != '\x7d')
        match more.drop name.length with
        | '\x7d' :: after => if name.isEmpty then none else some (.set, after)
        | _ => none
      | l :: after => if "LMNPSZC".toList.contains l then some (.set, after) else none
      | [] => none
    else none

/-- The names of the named classes. -/
def classNames : List String :=
  ["alnum", "alpha", "ascii", "blank", "cntrl", "digit", "graph", "lower", "print", "punct",
   "space", "upper", "word", "xdigit"]

/-- Reads a named class `[:name:]` or `[:^name:]` after its `[`; what follows it. -/
def namedClass (cs : List Char) : Option (List Char) :=
  match cs with
  | ':' :: more =>
    let body := match more with
      | '^' :: m => m
      | m => m
    let name := body.takeWhile (· != ':')
    match body.drop name.length with
    | ':' :: ']' :: rest => if classNames.contains (String.ofList name) then some rest else none
    | _ => none
  | _ => none

/-- A member of a class. -/
inductive Member where
  /-- A character given plainly. -/
  | char (c : Char)
  /-- A character given by an escape. -/
  | escaped
  /-- A class given by an escape. -/
  | set
  deriving DecidableEq, Repr

namespace Member

/-- Whether the member is a single character, as the ends of a range must be. -/
def isSingle : Member → Bool
  | .set => false
  | _ => true

/-- Whether two members are the ends of a range in order. -/
def inOrder : Member → Member → Bool
  | .char a, .char b => a ≤ b
  | a, b => a.isSingle && b.isSingle

end Member

/-- Reads one member of a class: a character, or an escape that is not a position. -/
def member (cs : List Char) : Option (Member × List Char) :=
  match cs with
  | '\\' :: more =>
    match escape more with
    | some (.literal, rest) => some (.escaped, rest)
    | some (.set, rest) => some (.set, rest)
    | _ => none
  | c :: rest => some (.char c, rest)
  | [] => none

/-- Reads a class from after its `[` (`opening` when nothing of it has been read yet) up to and
including the `]` that closes it; what follows it. -/
def classRest : Nat → Bool → List Char → Option (List Char)
  | 0, _, _ => none
  | fuel + 1, true, cs =>
    let cs := match cs with
      | '^' :: m => m
      | m => m
    match cs with
    | '-' :: _ => classRest fuel false (cs.dropWhile (· == '-'))
    | ']' :: m => classRest fuel false m
    | _ => classRest fuel false cs
  | fuel + 1, false, cs =>
    match cs with
    | [] => none
    | ']' :: rest => some rest
    | '[' :: more =>
      match namedClass more with
      | some rest => classRest fuel false rest
      | none =>
        match classRest fuel true more with
        | some rest => classRest fuel false rest
        | none => none
    | '&' :: '&' :: rest | '-' :: '-' :: rest | '~' :: '~' :: rest => classRest fuel false rest
    | _ =>
      match member cs with
      | none => none
      | some (first, rest) =>
        match rest with
        | '-' :: next :: more =>
          if next == ']' || next == '-' then classRest fuel false rest
          else
            match member (next :: more) with
            | some (last, after) =>
              if first.inOrder last then classRest fuel false after else none
            | none => none
        | _ => classRest fuel false rest

/-- Reads a count after its `{`; what follows it. -/
def count (cs : List Char) : Option (List Char) :=
  let fits (ds : List Char) := decimalValue ds < Nat.pow 2 32
  let lo := cs.takeWhile Char.isDigit
  match cs.drop lo.length with
  | '\x7d' :: rest => if !lo.isEmpty && fits lo then some rest else none
  | ',' :: more =>
    let hi := more.takeWhile Char.isDigit
    match more.drop hi.length with
    | '\x7d' :: rest =>
      if lo.isEmpty && hi.isEmpty then none
      else if !(fits lo && fits hi) then none
      else if hi.isEmpty || decimalValue lo ≤ decimalValue hi then some rest
      else none
    | _ => none
  | _ => none

/-- Whether a character is a flag. -/
def isFlag (c : Char) : Bool := "imsUuxR".toList.contains c

/-- Reads flags up to the `:` or `)` that ends them, given those already read, latest first;
the character that ends them and what follows it. -/
def flagsEnd : List Char → List Char → Option (Char × List Char)
  | _, [] => none
  | seen, c :: rest =>
    if c == ':' || c == ')' then
      if seen.head? == some '-' || (c == ')' && seen.isEmpty) then none else some (c, rest)
    else if (c == '-' || isFlag c) && !seen.contains c then flagsEnd (c :: seen) rest
    else none

/-- Whether a character may start a group's name. -/
def isNameStart (c : Char) : Bool := c == '_' || c.isAlpha || c.toNat ≥ 128

/-- Reads a group's name up to its `>`; what follows it. -/
def groupName (cs : List Char) : Option (List Char) :=
  let name := cs.takeWhile (· != '>')
  match name, cs.drop name.length with
  | c :: more, '>' :: rest =>
    if isNameStart c && more.all (fun d => isNameStart d || d.isDigit || ".[]".toList.contains d)
    then some rest else none
  | _, _ => none

/-- What a `(` opens. -/
inductive Opening where
  /-- A group, which a `)` closes. -/
  | group
  /-- Flags alone, already closed. -/
  | flags
  deriving DecidableEq, Repr

/-- Reads what follows a `(`: what it opens, and what follows that. -/
def opening (cs : List Char) : Option (Opening × List Char) :=
  match cs with
  | '?' :: 'P' :: '<' :: more | '?' :: '<' :: more => (groupName more).map (.group, ·)
  | '?' :: more =>
    match flagsEnd [] more with
    | some (':', rest) => some (.group, rest)
    | some (_, rest) => some (.flags, rest)
    | none => none
  | _ => some (.group, cs)

/-- Reads an expression with `depth` groups open; `item` says whether an item stands just before,
for a repetition to repeat. -/
def scan : Nat → List Char → Nat → Bool → Bool
  | 0, _, _, _ => false
  | _ + 1, [], depth, _ => depth == 0
  | fuel + 1, c :: rest, depth, item =>
    match c with
    | '(' =>
      match opening rest with
      | some (.group, more) => scan fuel more (depth + 1) false
      | some (.flags, more) => scan fuel more depth false
      | none => false
    | ')' => depth > 0 && scan fuel rest (depth - 1) true
    | '|' => scan fuel rest depth false
    | '*' | '+' | '?' => item && scan fuel rest depth true
    | '\x7b' =>
      match item, count rest with
      | true, some more => scan fuel more depth true
      | _, _ => false
    | '[' =>
      match classRest fuel true rest with
      | some more => scan fuel more depth true
      | none => false
    | '\\' =>
      match escape rest with
      | some (_, more) => scan fuel more depth true
      | none => false
    | _ => scan fuel rest depth true

/-- Whether a text is a well-formed expression. -/
def parses (text : String) : Bool := scan (text.length + 1) text.toList 0 false

example : parses "a(b|c)*d" ∧ parses "[]a-z]+" ∧ parses "(?i:x)\\d{2,3}" ∧ parses "" := by
  decide +kernel

example : parses "(" = false ∧ parses "[" = false ∧ parses "*a" = false ∧
    parses "[z-a]" = false ∧ parses "a{3,2}" = false ∧ parses "(?)" = false := by
  decide +kernel

end Pattern

end PoolServer
