import PoolServer.Shell.Lexer
import PoolServer.Text.Double
import PoolServer.Text.Whole
/-!
# Shell scripts: `printf` and `echo`

`printf` copies its format to the output and turns escapes into bytes. The escapes are `\\`,
`\a`, `\b`, `\f`, `\n`, `\r`, `\t`, `\v` and one to three octal digits `\NNN`; a backslash
before anything else stays as it is. Each conversion is replaced by the next argument, formatted
as C's `printf` formats it:

* A conversion is `%`, then flags from `#-+ 0`, a width, and a precision after a `.`. The width
  and the precision are digits or `*`, which takes them from the next argument.
* The conversion letter is one of `b c s d i o u x X a A e E f F g G`. `%%` writes `%`.
* `%b` is a string with the escapes of `echo`. There an octal escape is `\0NNN` or `\NNN`, and
  `\c` ends all output.
* A number argument is read as C's `strtoimax`, `strtoumax` or `strtod` reads it. A leading
  quote instead stands for the code of the byte after it.
* A number argument that is not wholly a number is still used, as far as it reads. Then the
  status is 1 and a warning is written. A value out of range is clamped, with the same status.

While arguments remain after a pass over the format that used some, the format is used again,
and missing arguments count as empty. An unknown conversion letter, or a `%` at the end of the
format, stops `printf` with status 2. Whatever was written before stays.

Warnings go to the error output before the output: the shell buffers a builtin's output and
writes it when the builtin is done.

`echo` writes its arguments with spaces between them and a line feed at the end. A first
argument `-n` drops the line feed. The escapes are those of `%b`, and `\c` ends all output.
-/
namespace PoolServer

namespace Shell

/-- Whether a byte is an octal digit. -/
def isOctal (b : UInt8) : Bool := byte '0' ≤ b && b ≤ byte '7'

/-- The byte a backslash escape of a format stands for, and the bytes after the escape. An
escape that is not one stands for the backslash alone, and the bytes after it are kept. -/
def escape (bs : Bytes) : UInt8 × Bytes :=
  match bs with
  | b :: rest =>
    if isOctal b then
      let digits := (b :: rest).takeWhile isOctal |>.take 3
      let v := digits.foldl (fun acc d => acc * 8 + (d.toNat - 48)) 0
      (v.toUInt8, (b :: rest).drop digits.length)
    else if b == byte '\\' then (byte '\\', rest)
    else if b == byte 'a' then (7, rest)
    else if b == byte 'b' then (8, rest)
    else if b == byte 'f' then (12, rest)
    else if b == byte 'n' then (10, rest)
    else if b == byte 'r' then (13, rest)
    else if b == byte 't' then (9, rest)
    else if b == byte 'v' then (11, rest)
    else (byte '\\', b :: rest)
  | [] => (byte '\\', [])

/-- Turns the escapes of an `echo` argument or a `%b` argument into bytes. The flag tells whether
a `\c` ended the output. After `\0`, up to three octal digits follow. -/
def escapeText : Nat → Bytes → Bytes × Bool
  | 0, _ => ([], false)
  | _, [] => ([], false)
  | fuel + 1, b :: rest =>
    if b == byte '\\' then
      match rest with
      | c :: more =>
        if c == byte 'c' then ([], true)
        else
          let from_ := if c == byte '0' && (more.head?.map isOctal) == some true then more else rest
          let (x, after) := escape from_
          let (tail, stop) := escapeText fuel after
          (x :: tail, stop)
      | [] => ([b], false)
    else
      let (tail, stop) := escapeText fuel rest
      (b :: tail, stop)

/-- What `echo` writes for its arguments. -/
def echo (args : List Bytes) : Bytes :=
  let (newline, args) := match args with
    | a :: rest => if a == bytesOf "-n" then (false, rest) else (true, args)
    | [] => (true, [])
  let rec go : List Bytes → Bytes
    | [] => if newline then [10] else []
    | [a] =>
      let (b, stop) := escapeText (a.length + 1) a
      if stop then b else b ++ (if newline then [10] else [])
    | a :: rest =>
      let (b, stop) := escapeText (a.length + 1) a
      if stop then b else b ++ [byte ' '] ++ go rest
  go args

/-- The flags of a conversion. -/
structure Flags where
  left : Bool
  plus : Bool
  space : Bool
  alt : Bool
  zero : Bool

/-- The flags among the bytes. -/
def Flags.of (bs : Bytes) : Flags :=
  ⟨bs.contains (byte '-'), bs.contains (byte '+'), bs.contains (byte ' '), bs.contains (byte '#'),
   bs.contains (byte '0')⟩

/-- Places a converted value in its width. `lead` is its sign and base prefix, and `zeroFill`
puts zeros between them and the digits instead of spaces in front. -/
def layout (f : Flags) (width : Nat) (lead body : Bytes) (zeroFill : Bool) : Bytes :=
  let fill := width - (lead.length + body.length)
  if f.left then lead ++ body ++ List.replicate fill (byte ' ')
  else if zeroFill then lead ++ List.replicate fill (byte '0') ++ body
  else List.replicate fill (byte ' ') ++ lead ++ body

/-- The digits of a whole number in a base up to sixteen, at least `precision` of them; none for
zero with a precision of zero. -/
def digitsIn (base : Nat) (upper : Bool) (precision : Option Nat) (n : Nat) : Bytes :=
  let ds : Bytes :=
    if precision == some 0 && n == 0 then []
    else (Nat.toDigits base n).map fun c => byte (if upper then c.toUpper else c)
  List.replicate (precision.getD 1 - ds.length) (byte '0') ++ ds

/-- The sign of a number: `-` when negative, else `+` or a space when the flags ask. -/
def signOf (f : Flags) (negative : Bool) : Bytes :=
  if negative then [byte '-'] else if f.plus then [byte '+'] else if f.space then [byte ' '] else []

/-- A signed conversion `%d` or `%i`. -/
def formatSigned (f : Flags) (width : Nat) (precision : Option Nat) (v : Int) : Bytes :=
  layout f width (signOf f (v < 0)) (digitsIn 10 false precision v.natAbs)
    (f.zero && precision.isNone)

/-- An unsigned conversion `%o`, `%u`, `%x` or `%X`. -/
def formatUnsigned (f : Flags) (width : Nat) (precision : Option Nat) (conv : UInt8) (v : Nat) :
    Bytes :=
  let base := if conv == byte 'o' then 8 else if conv == byte 'u' then 10 else 16
  let ds := digitsIn base (conv == byte 'X') precision v
  let ds := if conv == byte 'o' && f.alt && ds.head? != some (byte '0') then byte '0' :: ds else ds
  let lead := if base == 16 && f.alt && v != 0 then [byte '0', conv] else []
  layout f width lead ds (f.zero && precision.isNone)

/-- A floating conversion `%a %A %e %E %f %F %g %G`. Infinity and not-a-number are written as
words, in capitals for the capital letters, and never with zeros in front. -/
def formatFloat (f : Flags) (width : Nat) (precision : Option Nat) (conv : UInt8)
    (v : Double.Value) : Bytes :=
  let upper := conv == byte 'A' || conv == byte 'E' || conv == byte 'F' || conv == byte 'G'
  let lower := conv + (if upper then 32 else 0)
  let word (w : String) : Bytes := bytesOf (if upper then w.toUpper else w)
  let sign := signOf f v.negative
  match v.magnitude with
  | .infinite => layout f width sign (word "inf") false
  | .nan => layout f width sign (word "nan") false
  | .finite q e =>
    let letter := if upper then 'E' else 'e'
    let (lead, body) : Bytes × List Char :=
      if lower == byte 'a' then
        (sign ++ [byte '0', if upper then byte 'X' else byte 'x'],
         Double.hexadecimal q e precision f.alt upper)
      else if lower == byte 'e' then (sign, Double.scientific q e (precision.getD 6) f.alt letter)
      else if lower == byte 'f' then (sign, Double.fixed q e (precision.getD 6) f.alt)
      else (sign, Double.general q e (precision.getD 6) f.alt letter)
    layout f width lead (body.map byte) f.zero

/-- The conversion letters `printf` knows. -/
def conversions : Bytes := bytesOf "bcsdiouxXaAeEfFgG"

/-- What `printf` has done so far: its output, the arguments left, its warnings and its status. -/
structure Progress where
  out : Bytes
  args : List Bytes
  warnings : List Bytes
  status : Nat

/-- Takes the next argument, if any. -/
def Progress.next (p : Progress) : Option Bytes × Progress :=
  match p.args with
  | a :: rest => (some a, { p with args := rest })
  | [] => (none, p)

/-- Notes that an argument was not wholly a number, or out of range. -/
def Progress.check (p : Progress) (arg : Bytes) (used : Nat) (outOfRange : Bool) : Progress :=
  let warn (m : String) : Progress :=
    { p with warnings := p.warnings ++ [arg ++ bytesOf (": " ++ m)], status := 1 }
  if used < arg.length then
    warn (if used == 0 then "expected numeric value" else "not completely converted")
  else if outOfRange then warn "Numerical result out of range"
  else p

/-- Whether an argument starts with a quote, so that it stands for the code of the next byte. -/
def quoted? (a : Bytes) : Option Nat :=
  match a with
  | q :: rest => if q == byte '"' || q == byte '\'' then some (rest.head?.getD 0).toNat else none
  | [] => none

/-- The next argument as a signed number. -/
def Progress.signed (p : Progress) : Int × Progress :=
  match p.next with
  | (none, p) => (0, p)
  | (some a, p) =>
    match quoted? a with
    | some c => (c, p)
    | none =>
      let r := Whole.read 0 a
      let (v, overflow) := r.signed
      (v, p.check a r.used overflow)

/-- The next argument as an unsigned number. -/
def Progress.unsigned (p : Progress) : Nat × Progress :=
  match p.next with
  | (none, p) => (0, p)
  | (some a, p) =>
    match quoted? a with
    | some c => (c, p)
    | none =>
      let r := Whole.read 0 a
      let (v, overflow) := r.unsigned
      (v, p.check a r.used overflow)

/-- The next argument as a double. -/
def Progress.double (p : Progress) : Double.Value × Progress :=
  match p.next with
  | (none, p) => (⟨false, .finite 0 0⟩, p)
  | (some a, p) =>
    match quoted? a with
    | some c => (Double.Reading.value (Double.read (bytesOf (toString c))), p)
    | none =>
      let r := Double.read a
      (r.value, p.check a r.used r.outOfRange)

/-- A width or precision taken from an argument: C passes it as a 32-bit `int`. -/
def asInt32 (v : Int) : Int := Int.bmod v (Nat.pow 2 32)

/-- How a pass over the format ended. -/
inductive Flow where
  /-- The format ran out. -/
  | more
  /-- A `\c` in a `%b` argument ended all output. -/
  | stop
  /-- The format was wrong; the message says how. -/
  | failed (message : Bytes)

/-- Reads a width or precision: a `*` takes it from the next argument, digits give it. The bytes
of `*0123456789` after it are passed over. -/
def Progress.amount (p : Progress) (bs : Bytes) : Option Int × Bytes × Progress :=
  let run := bs.takeWhile fun b => b == byte '*' || isDigit b
  let rest := bs.drop run.length
  match run with
  | s :: _ =>
    if s == byte '*' then
      let (v, p) := p.signed
      (some (asInt32 v), rest, p)
    else (some (decimalValue (run.takeWhile isDigit)), rest, p)
  | [] => (none, rest, p)

/-- Formats one conversion, after the flags, width and precision are read. -/
def Progress.convert (p : Progress) (f : Flags) (width : Nat) (precision : Option Nat)
    (conv : UInt8) : Progress × Bool :=
  if conv == byte 's' || conv == byte 'b' then
    let (a, p) := p.next
    let a := a.getD []
    let (body, stop) := if conv == byte 'b' then escapeText (a.length + 1) a else (a, false)
    let body := match precision with
      | some n => body.take n
      | none => body
    ({ p with out := p.out ++ layout f width [] body false }, stop)
  else if conv == byte 'c' then
    let (a, p) := p.next
    let c := (a.bind List.head?).getD 0
    ({ p with out := p.out ++ layout f width [] [c] false }, false)
  else if conv == byte 'd' || conv == byte 'i' then
    let (v, p) := p.signed
    ({ p with out := p.out ++ formatSigned f width precision v }, false)
  else if conv == byte 'o' || conv == byte 'u' || conv == byte 'x' || conv == byte 'X' then
    let (v, p) := p.unsigned
    ({ p with out := p.out ++ formatUnsigned f width precision conv v }, false)
  else
    let (v, p) := p.double
    ({ p with out := p.out ++ formatFloat f width precision conv v }, false)

/-- One pass over the format. -/
def Progress.pass : Nat → Bytes → Progress → Progress × Flow
  | 0, _, p => (p, .more)
  | _, [], p => (p, .more)
  | fuel + 1, b :: fmt, p =>
    if b == byte '\\' then
      let (x, after) := escape fmt
      Progress.pass fuel after { p with out := p.out ++ [x] }
    else if b != byte '%' then Progress.pass fuel fmt { p with out := p.out ++ [b] }
    else if fmt.head? == some (byte '%') then
      Progress.pass fuel (fmt.drop 1) { p with out := p.out ++ [b] }
    else
      let flagBytes := fmt.takeWhile fun c =>
        c == byte '#' || c == byte '-' || c == byte '+' || c == byte ' ' || c == byte '0'
      let (width, rest, p) := p.amount (fmt.drop flagBytes.length)
      let (precision, rest, p) : Option Int × Bytes × Progress := match rest with
        | d :: more =>
          if d == byte '.' then
            let (v, r, p) := p.amount more
            (some (v.getD 0), r, p)
          else (none, rest, p)
        | [] => (none, rest, p)
      match rest with
      | [] => (p, .failed (bytesOf "missing format character"))
      | c :: after =>
        let directive := b :: fmt.take (fmt.length - after.length)
        if !conversions.contains c then (p, .failed (directive ++ bytesOf ": invalid directive"))
        else
          let f := Flags.of flagBytes
          let w := width.getD 0
          let f := if w < 0 then { f with left := true } else f
          let precision := match precision with
            | some v => if v < 0 then none else some v.toNat
            | none => none
          let (p, stop) := p.convert f w.natAbs precision c
          if stop then (p, .stop) else Progress.pass fuel after p

/-- What `printf` did: its output, the warnings and error for the error output, and its status. -/
structure Printed where
  out : Bytes
  errors : List Bytes
  status : Nat

/-- Runs `printf` with a format and arguments. -/
def printfWith (format : Bytes) (args : List Bytes) : Printed :=
  let rec go : Nat → Progress → Printed
    | 0, p => ⟨p.out, p.warnings, p.status⟩
    | fuel + 1, p =>
      let (p, flow) := p.pass (format.length + 1) format
      match flow with
      | .failed m => ⟨p.out, p.warnings ++ [m], 2⟩
      | .stop => ⟨p.out, p.warnings, p.status⟩
      | .more =>
        if p.args.length < args.length && !p.args.isEmpty then go fuel p
        else ⟨p.out, p.warnings, p.status⟩
  go (args.length + 1) ⟨[], args, [], 0⟩

/-- Runs `printf` with its arguments. A first argument `--` is passed over; any other first
argument of a `-` and more is an unknown option. -/
def printf (args : List Bytes) : Printed :=
  let args : UInt8 ⊕ List Bytes := match args with
    | a :: rest => if a == bytesOf "--" then .inr rest
      else match a with
        | d :: o :: _ => if d == byte '-' then .inl o else .inr args
        | _ => .inr args
    | [] => .inr []
  match args with
  | .inl o => ⟨[], [bytesOf "Illegal option -" ++ [o]], 2⟩
  | .inr [] => ⟨[], [bytesOf "usage: printf format [arg ...]"], 2⟩
  | .inr (format :: rest) => printfWith format rest

example : (printf [bytesOf "query=[%s]\\n", bytesOf "a b"]).out = bytesOf "query=[a b]\n" := by
  decide +kernel

example : (printf [bytesOf "%#.3o|%#o|%#x|%.0d|", bytesOf "8", bytesOf "8", bytesOf "255",
    bytesOf "0"]).out = bytesOf "010|010|0xff||" := by decide +kernel

end Shell

end PoolServer
