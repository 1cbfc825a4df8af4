import PoolServer.Shell.State
import PoolServer.Shell.Printf
import PoolServer.Shell.Test
/-!
# Shell scripts: built-in commands

The commands the shell runs itself, apart from those that run other commands (`eval`, `.`,
`exec`, `command`), which live with the rest of the interpreter.

A built-in command buffers its output and writes it when it is done, so its warnings, written at
once, come first. A write that fails is reported as an input/output error and makes the status
1. An error in a built-in command is reported with the command's name. It ends the shell when the
command is a special built-in one; after any other, the shell goes on with status 2.

Numbers given to built-in commands are decimal, from 0 to `2^31 - 1`, with blanks around them
allowed.
-/
namespace PoolServer

namespace Shell

/-- Writes a built-in command's output and sets its status; a failed write is reported and makes
the status 1. -/
def emitOut (bs : Bytes) (status : Nat) : Sh Unit := do
  if bs.isEmpty then setStatus status
  else
    match ← writeFd 1 bs with
    | none => setStatus status
    | some _ =>
      complain (bytesOf "I/O error")
      setStatus 1

/-- A number given to a built-in command. -/
def numberArg (a : Bytes) : Sh Nat := do
  match testNumber a with
  | .ok v =>
    if v < 0 || v > 2147483647 then fail (bytesOf "Illegal number: " ++ a) else pure v.toNat
  | .error _ => fail (bytesOf "Illegal number: " ++ a)

/-- A text quoted for the shell: in single quotes, each single quote written `"'"` between
them. -/
def singleQuoted (bs : Bytes) : Bytes :=
  let q := byte '\''
  let parts := go (bs.length + 1) bs
  if parts.isEmpty then [q, q] else parts
where
  go : Nat → Bytes → Bytes
    | 0, _ => []
    | _, [] => []
    | fuel + 1, bs =>
      let plain := bs.takeWhile (· != byte '\'')
      let rest := bs.drop plain.length
      let quotes := rest.takeWhile (· == byte '\'')
      let after := rest.drop quotes.length
      let head := [byte '\''] ++ plain ++ [byte '\'']
      if quotes.isEmpty then head
      else head ++ [byte '"'] ++ quotes ++ [byte '"'] ++
        (if after.isEmpty then [] else go fuel after)

example : singleQuoted (bytesOf "it's") = bytesOf "'it'\"'\"'s'" := by decide

/-- Reads the options of a built-in command as the shell does: words that start with `-`, each
letter one option; a letter followed by `:` in `spec` takes an argument. `--` ends the options.
The options and the words after them, or the message for an unknown option. -/
def parseOptions (spec : String) (args : List Bytes) :
    Except Bytes (List (Char × Bytes) × List Bytes) :=
  go (args.length + 1) [] args
where
  takes (c : Char) : Option Bool :=
    match spec.toList.dropWhile (· != c) with
    | _ :: ':' :: _ => some true
    | _ :: _ => some false
    | [] => none
  letters : Nat → List (Char × Bytes) → Bytes → List Bytes →
      Except Bytes (List (Char × Bytes) × List Bytes)
    | 0, acc, _, rest => .ok (acc, rest)
    | _, acc, [], rest => go rest.length acc rest
    | fuel + 1, acc, c :: more, rest =>
      let ch := Char.ofNat c.toNat
      match takes ch with
      | none => .error (bytesOf "Illegal option -" ++ [c])
      | some false => letters fuel (acc ++ [(ch, [])]) more rest
      | some true =>
        if !more.isEmpty then go rest.length (acc ++ [(ch, more)]) rest
        else
          match rest with
          | a :: rest' => go rest'.length (acc ++ [(ch, a)]) rest'
          | [] => .error (bytesOf "No arg for -" ++ [c] ++ bytesOf " option")
  go : Nat → List (Char × Bytes) → List Bytes → Except Bytes (List (Char × Bytes) × List Bytes)
    | 0, acc, rest => .ok (acc, rest)
    | fuel + 1, acc, a :: rest =>
      match a with
      | d :: c :: more =>
        if d != byte '-' then .ok (acc, a :: rest)
        else if c == byte '-' && more.isEmpty then .ok (acc, rest)
        else letters (fuel + more.length + 2) acc (c :: more) rest
      | _ => .ok (acc, a :: rest)
    | _, acc, [] => .ok (acc, [])

/-- Reads options, failing with the shell's message on an unknown one. -/
def options (spec : String) (args : List Bytes) : Sh (List (Char × Bytes) × List Bytes) :=
  match parseOptions spec args with
  | .ok r => pure r
  | .error m => fail m

/-- Whether bytes form a name: a letter or `_`, then letters, digits and `_`. -/
def isNameBytes (bs : Bytes) : Bool :=
  match bs with
  | b :: rest => isNameStart b && rest.all isNameByte
  | [] => false

/-! ## Output and conditions -/

/-- `echo`. -/
def echoBuiltin (args : List Bytes) : Sh Unit := emitOut (echo args) 0

/-- `printf`. -/
def printfBuiltin (args : List Bytes) : Sh Unit := do
  let r := printf args
  for m in r.errors do complain m
  if r.status == 2 then
    let _ ← writeFd 1 r.out
    setStatus 2
    throw .failed
  emitOut r.out r.status

/-- The kind of file a descriptor leads to, for the file tests: a device, a pipe, a regular file
or a directory. -/
def descriptorKind (p : Proc) (n : Nat) : Option UnaryTest :=
  match p.channel? n with
  | some (.device _) => some .charDevice
  | some (.file _ _ _ _) => some .regular
  | some .directory => some .directory
  | some (.failing _) => some .regular
  | some _ => some .fifo
  | none => none

/-- What the file tests see: the disk as the superuser sees it, the descriptors of the shell in
`/proc/self/fd`. -/
def fileView (p : Proc) : FileView :=
  let disk := p.world.disk
  let look (follow : Bool) (w : Bytes) : Option (List String × Node) :=
    match pathOf? w with
    | some path =>
      match disk.walk path follow with
      | .ok r => some r
      | .error _ => none
    | none => none
  let check (t : UnaryTest) (w : Bytes) : Bool :=
    match look (t != .symlink) w with
    | none => false
    | some (_, n) =>
      let m := Disk.metaOf n
      match n with
      | .device _ (.descriptor k) =>
        match descriptorKind p k with
        | none => false
        | some kind =>
          match t with
          | .exists | .readable | .writable | .owned | .groupOwned => true
          | t => t == kind
      | _ =>
        match t with
        | .exists | .readable | .writable | .owned | .groupOwned => true
        | .executable => m.kind == .directory || m.mode &&& 0o111 != 0
        | .regular => m.kind == .regular
        | .directory => m.kind == .directory
        | .charDevice => m.kind == .device
        | .symlink => m.kind == .link
        | .setuid => m.mode &&& 0o4000 != 0
        | .setgid => m.mode &&& 0o2000 != 0
        | .sticky => m.mode &&& 0o1000 != 0
        | .nonEmpty => m.size > 0 || m.kind == .directory
        | _ => false
  { check
    newer := fun _ _ => false
    sameFile := fun a b =>
      match look true a, look true b with
      | some (x, _), some (y, _) => x == y
      | _, _ => false }

/-- `test`, or `[` when `bracket`. -/
def testBuiltin (bracket : Bool) (args : List Bytes) : Sh Unit := do
  match test (fileView (← proc)) bracket args with
  | .ok b => setStatus (if b then 0 else 1)
  | .error m => fail (bytesOf m)

/-! ## Reading a line -/

/-- What `read` took: the bytes of the line, each with whether it may split, and whether the
input ended first. -/
structure Taken where
  line : List LineByte
  ended : Bool

/-- Takes the bytes of one line as `read` does: NUL bytes are dropped; without `raw`, a
backslash makes the next byte stand for itself, and a backslash before a line feed joins the next
line. -/
def takeLine (raw : Bool) : Nat → List LineByte → Bool → Sh Taken
  | 0, acc, _ => pure ⟨acc, true⟩
  | fuel + 1, acc, escaped => do
    match ← readFd 0 false with
    | .error _ => pure ⟨acc, true⟩
    | .bytes bs ended =>
      let step := fun (st : List LineByte × Bool × Bool) (b : UInt8) =>
        let (acc, escaped, done) := st
        if done || b == 0 then st
        else if escaped then
          if b == 10 then (acc, false, false) else (acc ++ [(b, false)], false, false)
        else if !raw && b == byte '\\' then (acc, true, false)
        else if b == 10 then (acc, false, true)
        else (acc ++ [(b, true)], false, false)
      let (acc, escaped, done) := bs.foldl step (acc, escaped, false)
      if done then pure ⟨acc, false⟩
      else if ended then pure ⟨acc, true⟩
      else takeLine raw fuel acc escaped

/-- `read [-r] [-p prompt] name…`: reads a line from the standard input and sets the variables
to its fields; the status is 1 when the input ended before a line feed. -/
def readBuiltin (args : List Bytes) : Sh Unit := do
  let (opts, names) ← options "p:r" args
  let raw := opts.any (·.1 == 'r')
  if names.isEmpty then fail (bytesOf "arg count")
  let taken ← takeLine raw 100000 [] false
  let values := readValues (← ifsValue) names.length taken.line
  for (n, v) in names.zip values do
    if !isNameBytes n then fail (n ++ bytesOf ": bad variable name")
    setVar (asText n) v
  setStatus (if taken.ended then 1 else 0)

/-- Where an option letter stands in the letters `getopts` knows: whether it is one of them,
and whether it takes an argument (a `:` after it). -/
def optionSpec (spec : Bytes) (c : UInt8) : Option Bool :=
  go (spec.length + 1) spec
where
  go : Nat → Bytes → Option Bool
    | 0, _ => none
    | _, [] => none
    | fuel + 1, q :: rest =>
      if q == c then some (rest.head? == some (byte ':'))
      else go fuel (if rest.head? == some (byte ':') then rest.drop 1 else rest)

/-- What one call of `getopts` found: the letter for the variable, `OPTARG` (unset when
`none`), the place to go on from, and whether the options are over. -/
structure OptionStep where
  letter : UInt8
  arg : Option Bytes
  next : Nat
  offset : Option Nat
  done : Bool
  /-- A complaint for the error output. -/
  warning : Option Bytes

/-- One step of `getopts` over the words `base`, from the word numbered `ind` (from one) and the
place `off` within the word before it. -/
def optionStep (spec : Bytes) (base : List Bytes) (ind : Nat) (off : Option Nat) : OptionStep :=
  let silent := spec.head? == some (byte ':')
  let current : Bytes := match off, base[ind - 2]? with
    | some o, some w => if ind > 1 && o ≤ w.length then w.drop o else []
    | _, _ => []
  let start : Except Nat (Bytes × Nat) :=
    if !current.isEmpty then .ok (current, ind - 1)
    else
      match base[ind - 1]? with
      | some w =>
        if w.head? != some (byte '-') || w.length == 1 then .error ind
        else if w == bytesOf "--" then .error (ind + 1)
        else .ok (w.drop 1, ind)
      | none => .error ind
  match start with
  | .error next => ⟨byte '?', none, next, none, true, none⟩
  | .ok (rest, next) =>
    match rest with
    | [] => ⟨byte '?', none, next, none, true, none⟩
    | c :: more =>
      let word := (base[next - 1]?).getD []
      let offsetOf (r : Bytes) : Option Nat := some (word.length - r.length)
      match optionSpec spec c with
      | none =>
        if silent then ⟨byte '?', some [c], next + 1, offsetOf more, false, none⟩
        else ⟨byte '?', none, next + 1, offsetOf more, false,
          some (bytesOf "Illegal option -" ++ [c] ++ [10])⟩
      | some false => ⟨c, some [], next + 1, offsetOf more, false, none⟩
      | some true =>
        if !more.isEmpty then ⟨c, some more, next + 1, none, false, none⟩
        else
          match base[next]? with
          | some a => ⟨c, some a, next + 2, none, false, none⟩
          | none =>
            if silent then ⟨byte ':', some [c], next + 1, none, false, none⟩
            else ⟨byte '?', none, next + 1, none, false,
              some (bytesOf "No arg for -" ++ [c] ++ bytesOf " option\n")⟩

/-- `getopts optstring name [arg…]`: reads the next option from the arguments, or the
positional parameters; the status is 1 when the options are over. -/
def getoptsBuiltin (args : List Bytes) : Sh Unit := do
  match args with
  | spec :: var :: rest =>
    let p ← proc
    let base := if rest.isEmpty then p.args else rest
    let (ind, off) := if p.optind > base.length + 1 then (1, none) else (p.optind, p.optoff)
    let step := optionStep spec base ind off
    match step.warning with
    | some w => let _ ← writeFd 2 w
    | none => pure ()
    if !step.done then
      match step.arg with
      | some a => setVar "OPTARG" a
      | none => update fun p => p.dropVar "OPTARG"
    setVar (asText var) [step.letter]
    setVar "OPTIND" (decimal step.next)
    update fun p => { p with optind := step.next, optoff := step.offset }
    setStatus (if step.done then 1 else 0)
  | _ => fail (bytesOf "Usage: getopts optstring var [arg...]")

/-! ## Parameters and variables -/

/-- The letters of `set` and the options they stand for, with their long names. -/
def optionLetters : List (Char × String) :=
  [('e', "errexit"), ('f', "noglob"), ('n', "noexec"), ('x', "xtrace"), ('v', "verbose"),
   ('C', "noclobber"), ('a', "allexport"), ('u', "nounset")]

/-- The long names of the options, in the order `set -o` lists them, with the letter of those
that have an effect here. -/
def optionNames : List (String × Option Char) :=
  [("errexit", some 'e'), ("noglob", some 'f'), ("ignoreeof", none), ("interactive", none),
   ("monitor", none), ("noexec", some 'n'), ("stdin", none), ("xtrace", some 'x'),
   ("verbose", some 'v'), ("vi", none), ("emacs", none), ("noclobber", some 'C'),
   ("allexport", some 'a'), ("notify", none), ("nounset", some 'u'), ("privileged", none),
   ("nolog", none), ("debug", none)]

/-- Letters `set` takes without an effect here. -/
def inertLetters : List Char := ['I', 'i', 'm', 's', 'V', 'E', 'b', 'p', 'q']

/-- Turns an option on or off. -/
def Options.turn (o : Options) (c : Char) (on : Bool) : Options :=
  match c with
  | 'e' => { o with errexit := on }
  | 'f' => { o with noglob := on }
  | 'n' => { o with noexec := on }
  | 'x' => { o with xtrace := on }
  | 'v' => { o with verbose := on }
  | 'C' => { o with noclobber := on }
  | 'a' => { o with allexport := on }
  | 'u' => { o with nounset := on }
  | _ => o

/-- Whether an option is on. -/
def Options.has (o : Options) (c : Char) : Bool :=
  match c with
  | 'e' => o.errexit
  | 'f' => o.noglob
  | 'n' => o.noexec
  | 'x' => o.xtrace
  | 'v' => o.verbose
  | 'C' => o.noclobber
  | 'a' => o.allexport
  | 'u' => o.nounset
  | _ => false

/-- Sorts variables by name. -/
def sortVars (vs : List (String × Var)) : List (String × Var) :=
  vs.foldl (fun acc v => insert v acc) []
where
  insert (v : String × Var) : List (String × Var) → List (String × Var)
    | [] => [v]
    | w :: ws => if v.1 < w.1 then v :: w :: ws else w :: insert v ws

/-- The listing of `set` with no arguments: every set variable as `name='value'`. -/
def showVars (p : Proc) : Bytes :=
  (sortVars p.vars).flatMap fun (n, v) =>
    match v.value with
    | some val => bytesOf n ++ [byte '='] ++ singleQuoted val ++ [10]
    | none => []

/-- What `set -o` shows (a table of the options), or `set +o` (the commands that set them
back, when `asCommands`). -/
def optionListing (o : Options) (asCommands : Bool) : Bytes :=
  let rows := optionNames.map fun (name, letter) =>
    let on := (letter.map o.has).getD false
    if asCommands then bytesOf ("set " ++ (if on then "-" else "+") ++ "o " ++ name ++ "\n")
    else bytesOf (name ++ String.ofList (List.replicate (16 - name.length) ' ') ++
      (if on then "on" else "off") ++ "\n")
  (if asCommands then [] else bytesOf "Current option settings\n") ++ rows.flatten

/-- `set`: options, then the positional parameters. -/
def setBuiltin (args : List Bytes) : Sh Unit := do
  if args.isEmpty then
    emitOut (showVars (← proc)) 0
    return
  let rec go : Nat → List Bytes → Sh (Option (List Bytes))
    | 0, _ => pure none
    | _, [] => pure none
    | fuel + 1, a :: rest =>
      match a with
      | s :: more =>
        if s == byte '-' || s == byte '+' then
          let on := s == byte '-'
          if on && more.isEmpty then do
            update fun p => { p with opts := { p.opts with xtrace := false, verbose := false } }
            pure (some rest)
          else if on && more == [byte '-'] then pure (some rest)
          else do
            let mut rest := rest
            for c in more do
              let ch := Char.ofNat c.toNat
              if ch == 'o' then
                match rest with
                | n :: r =>
                  match optionLetters.find? (fun (_, long) => bytesOf long == n) with
                  | some (l, _) => update fun p => { p with opts := p.opts.turn l on }
                  | none =>
                    if !(["ignoreeof", "interactive", "monitor", "stdin", "vi", "emacs", "notify",
                      "privileged", "nolog", "debug"].any (bytesOf · == n)) then
                      fail (bytesOf "Illegal option -o " ++ n)
                  rest := r
                | [] => emitOut (optionListing (← proc).opts !on) 0
              else if (optionLetters.any (·.1 == ch)) then
                update fun p => { p with opts := p.opts.turn ch on }
              else if !(inertLetters.contains ch) then
                fail (bytesOf "Illegal option " ++ [s, c])
            go fuel rest
        else pure (some (a :: rest))
      | [] => pure (some (a :: rest))
  match ← go (args.length + 1) args with
  | some params =>
    if args.any (· == bytesOf "--") || !params.isEmpty then
      update fun p => { p with args := params }
  | none => pure ()
  setStatus 0

/-- `shift [n]`. -/
def shiftBuiltin (args : List Bytes) : Sh Unit := do
  let n ← match args with
    | a :: _ => numberArg a
    | [] => pure 1
  let p ← proc
  if n > p.args.length then fail (bytesOf "can't shift that many")
  set { p with args := p.args.drop n }
  setStatus 0

/-- The listing of `export -p` or `readonly -p`. -/
def showMarked (word : String) (pick : Var → Bool) (p : Proc) : Bytes :=
  (sortVars p.vars).flatMap fun (n, v) =>
    if pick v then
      bytesOf (word ++ " " ++ n) ++
        (match v.value with
         | some val => [byte '='] ++ singleQuoted val
         | none => []) ++ [10]
    else []

/-- `export` (`readonly` when `frozen`): marks variables, setting those given a value. -/
def markBuiltin (frozen : Bool) (args : List Bytes) : Sh Unit := do
  let (_, names) ← options "p" args
  let word := if frozen then "readonly" else "export"
  if names.isEmpty then
    emitOut (showMarked word (fun v => if frozen then v.readonly else v.exported) (← proc)) 0
    return
  for a in names do
    let name := a.takeWhile (· != byte '=')
    let value := match a.drop name.length with
      | _ :: v => some v
      | [] => none
    if !isNameBytes name then fail (name ++ bytesOf ": bad variable name")
    let n := asText name
    match value with
    | some v => setVar n v
    | none => pure ()
    let p ← proc
    let old := (p.var? n).getD ⟨none, false, false⟩
    set (p.putVar n (if frozen then { old with readonly := true } else { old with exported := true }))
  setStatus 0

/-- `unset [-f|-v] name…`: removes variables, or functions with `-f`. -/
def unsetBuiltin (args : List Bytes) : Sh Unit := do
  let (opts, names) ← options "fv" args
  let functions := opts.getLast?.map (·.1) == some 'f'
  for a in names do
    let n := asText a
    if functions then update fun p => { p with funcs := p.funcs.filter (·.1 != n) }
    else
      if !isNameBytes a then fail (a ++ bytesOf ": bad variable name")
      let p ← proc
      match p.var? n with
      | some v => if v.readonly then fail (a ++ bytesOf ": is read only") else set (p.dropVar n)
      | none => pure ()
  setStatus 0

/-- `local name[=value]…`: saves the variables, to be put back when the function returns. -/
def localBuiltin (args : List Bytes) : Sh Unit := do
  if (← proc).funcDepth == 0 then fail (bytesOf "not in a function")
  for a in args do
    let name := a.takeWhile (· != byte '=')
    let value := match a.drop name.length with
      | _ :: v => some v
      | [] => none
    if name == [byte '-'] then continue
    if !isNameBytes name then fail (name ++ bytesOf ": bad variable name")
    let n := asText name
    let p ← proc
    match p.frames with
    | frame :: outer =>
      if !frame.any (·.1 == n) then
        set { p with frames := ((n, p.var? n) :: frame) :: outer }
    | [] => pure ()
    match value with
    | some v => setVar n v
    | none => pure ()
  setStatus 0

/-! ## Leaving -/

/-- `exit [n]`. -/
def exitBuiltin (args : List Bytes) : Sh Unit := do
  match args with
  | a :: _ => setStatus (← numberArg a)
  | [] => pure ()
  throw .exited

/-- `return [n]`. -/
def returnBuiltin (args : List Bytes) : Sh Unit := do
  match args with
  | a :: _ => setStatus (← numberArg a)
  | [] => pure ()
  throw .returned

/-- `break [n]`, or `continue [n]` when `next`. -/
def loopBuiltin (next : Bool) (args : List Bytes) : Sh Unit := do
  let n ← match args with
    | a :: _ => numberArg a
    | [] => pure 1
  if n == 0 then fail (bytesOf "Illegal number: " ++ (args.head?.getD []))
  let depth := (← proc).loopDepth
  setStatus 0
  if depth > 0 then
    let n := min n depth
    throw (if next then .continueLoops n else .breakLoops n)

/-! ## Signals -/

/-- The number of a signal written as a number or a name (any case), if it is one. -/
def signalOf? (w : Bytes) (least : Nat) : Option Nat :=
  if !w.isEmpty && w.all isDigit then
    let n := decimalValue w
    if n < 65 then some n else none
  else
    let up := (asText w).toUpper
    if up == "EXIT" && least == 0 then some 0
    else (signalNames.find? fun (n, name) => name == up && n ≥ least).map (·.1)

/-- The name `trap` lists a signal by. -/
def trapName (n : Nat) : String := if n == 0 then "EXIT" else (signalName? n).getD (toString n)

/-- `trap [action] signal…`: sets, resets (`-`) or ignores (empty action) the signals' traps, or
lists them. -/
def trapBuiltin (args : List Bytes) : Sh Unit := do
  let (_, args) ← options "" args
  match args with
  | [] =>
    let p ← proc
    let listing := (p.traps.filter (·.2 != [])).flatMap fun (n, act) =>
      bytesOf "trap -- " ++ singleQuoted act ++ bytesOf (" " ++ trapName n) ++ [10]
    let ignored := (p.traps.filter (·.2 == [])).flatMap fun (n, _) =>
      bytesOf ("trap -- '' " ++ trapName n) ++ [10]
    emitOut (listing ++ ignored) 0
  | first :: rest =>
    let (action, signals) : Option Bytes × List Bytes :=
      if !rest.isEmpty && !(first.all isDigit && !first.isEmpty) then (some first, rest)
      else (none, args)
    let mut status := 0
    for s in signals do
      match signalOf? s 0 with
      | none =>
        let _ ← writeFd 2 (bytesOf "trap: " ++ s ++ bytesOf ": bad trap\n")
        status := 1
      | some n =>
        let p ← proc
        let others := p.traps.filter (·.1 != n)
        match action with
        | some a =>
          if a == [byte '-'] then set { p with traps := others }
          else set { p with traps := others ++ [(n, a)] }
        | none => set { p with traps := others }
    setStatus status

/-- A signal reaches this process: a trapped one is handled after the command, an ignored one
does nothing, and any other ends the process unless its default is to be ignored. `KILL` and
`STOP` cannot be trapped. -/
def deliver (signal : Nat) : Sh Unit := do
  let p ← proc
  let trapped := if signal == 9 || signal == 19 then none else p.traps.find? (·.1 == signal)
  match trapped with
  | some (_, act) => if !act.isEmpty then set { p with pending := p.pending ++ [signal] }
  | none => if !(ignoredByDefault signal || stopsByDefault signal) then throw (.killed signal)

/-- Takes the signals other processes sent to this one while it waited for them. -/
def receiveSignals : Sh Unit := do
  let p ← proc
  let mine := p.world.signals.filter (·.1 == p.self)
  if !mine.isEmpty then
    set { p with world := { p.world with signals := p.world.signals.filter (·.1 != p.self) } }
    for (_, s) in mine do deliver s

/-- `kill [-s signal | -signal] pid…`: sends the signal (`TERM` when none is given). Sent to
this process, a signal that is not trapped ends it at once; a trapped one runs its action after
the command. A process this one was started from gets it when it runs again. Background jobs
have ended by the time a signal could reach them, and other processes do not exist; `0` is all
of this process's group.-/
def killBuiltin (args : List Bytes) : Sh Unit := do
  let usage : Sh Unit := fail (bytesOf
    "Usage: kill [-s sigspec | -signum | -sigspec] [pid | job]... or\nkill -l [exitstatus]")
  match args with
  | [] => usage
  | first :: more =>
    let (signal, pids) ← match first with
      | d :: spec =>
        if d == byte '-' then
          match signalOf? spec 1 with
          | some n => pure (n, more)
          | none =>
            if spec == [byte 's'] then
              match more with
              | name :: pids =>
                match signalOf? name 1 with
                | some n => pure (n, pids)
                | none => fail (bytesOf "invalid signal number or name: " ++ name)
              | [] => fail (bytesOf "No arg for -s option")
            else if spec == [byte 'l'] then
              match more with
              | [] =>
                let names := (List.range signalLimit).map fun n =>
                  bytesOf ((signalName? n).getD (toString n)) ++ [10]
                emitOut names.flatten 0
              | a :: _ =>
                let n ← numberArg a
                let n := if n > 128 then n - 128 else n
                match signalName? n with
                | some name => emitOut (bytesOf name ++ [10]) 0
                | none =>
                  if 0 < n && n < signalLimit then emitOut (bytesOf (toString n) ++ [10]) 0
                  else fail (bytesOf "invalid signal number or exit status: " ++ a)
              return
            else fail (bytesOf "Illegal option -" ++ spec.take 1)
        else pure (15, args)
      | [] => pure (15, args)
    if pids.isEmpty then usage
    let mut status := 0
    for w in pids do
      let neg := w.head? == some (byte '-')
      let n ← numberArg (if neg then w.drop 1 else w)
      let p ← proc
      let known := n == 0 || n == p.self || p.ancestors.contains n || p.jobs.any (·.pid == n)
      if !known || (neg && n != 0) then
        complain (bytesOf "No such process\n")
        status := 1
      else if signal != 0 then
        if n == 0 || n == p.self then
          let p ← proc
          set { p with world := { p.world with
            signals := p.world.signals ++ (if n == 0 then p.ancestors.map (·, signal) else []) } }
          emitOut [] status
          deliver signal
        else if p.ancestors.contains n then
          set { p with world := { p.world with signals := p.world.signals ++ [(n, signal)] } }
        else if !(ignoredByDefault signal || stopsByDefault signal) then
          set { p with jobs := p.jobs.map fun (j : Job) =>
            if j.pid == n then { j with status := 128 + signal, signal := some signal } else j }
    setStatus status

/-- `wait [pid…]`: background jobs have ended already. Without operands the status is 0;
otherwise it is that of the last job named, 127 for a number that is not a job of this shell.
A job a signal ended is reported as it is waited for. -/
def waitBuiltin (args : List Bytes) : Sh Unit := do
  let mut status := 0
  for w in args do
    if w.head? == some (byte '%') then fail (bytesOf "No such job: " ++ w)
    let n ← numberArg w
    match (← proc).jobs.find? (·.pid == n) with
    | some j =>
      status := j.status
      match j.signal with
      | some s =>
        if s != 2 && s != 13 then
          let _ ← writeFd 2 (bytesOf (signalDescription s ++ "\n"))
      | none => pure ()
    | none => status := 127
  setStatus status

/-! ## Directories and the rest -/

/-- The path of a place on the disk. -/
def placePath (place : List String) : String := "/" ++ String.intercalate "/" place

/-- `cd [dir]`. -/
def cdBuiltin (args : List Bytes) : Sh Unit := do
  let (_, args) ← options "LP" args
  let p ← proc
  let target ← match args with
    | a :: _ =>
      if a == [byte '-'] then pure ((p.param? "OLDPWD").getD [])
      else pure a
    | [] => pure ((p.param? "HOME").getD [])
  let path := (pathOf? target).getD ""
  match p.world.disk.walk (if path.isEmpty then "." else path) true with
  | .ok (place, .dir _ _) =>
    let old := (p.param? "PWD").getD (Utf8.encode (placePath p.world.disk.cwd))
    set { p with world := { p.world with disk := { p.world.disk with cwd := place } } }
    setVar "OLDPWD" old
    setVar "PWD" (Utf8.encode (placePath place))
    if args.head? == some [byte '-'] then emitOut (Utf8.encode (placePath place) ++ [10]) 0
    else setStatus 0
  | _ => fail (bytesOf "can't cd to " ++ target)

/-- `pwd [-L | -P]`. -/
def pwdBuiltin (args : List Bytes) : Sh Unit := do
  let _ ← options "LP" args
  let p ← proc
  emitOut (Utf8.encode (placePath p.world.disk.cwd) ++ [10]) 0

/-- `times`: the shell and its children have used no time. -/
def timesBuiltin : Sh Unit :=
  emitOut (bytesOf "0m0.000000s 0m0.000000s\n0m0.000000s 0m0.000000s\n") 0

/-- The mask of new files' modes in symbolic form: what each class may do. -/
def symbolicMask (mask : Nat) : Bytes :=
  let part (who : String) (shift : Nat) : String :=
    let bits := (0o7 - ((mask / Nat.pow 8 shift) % 8))
    who ++ "=" ++ (if bits &&& 4 != 0 then "r" else "") ++ (if bits &&& 2 != 0 then "w" else "") ++
      (if bits &&& 1 != 0 then "x" else "")
  bytesOf (part "u" 2 ++ "," ++ part "g" 1 ++ "," ++ part "o" 0)

/-- The digits of a mask, four octal places. -/
def octalMask (mask : Nat) : Bytes :=
  let ds := (Nat.toDigits 8 mask)
  bytesOf (String.ofList (List.replicate (4 - ds.length) '0' ++ ds))

/-- `umask [-S] [mode]`: shows or sets the mask of new files' modes; a mode is octal. -/
def umaskBuiltin (args : List Bytes) : Sh Unit := do
  let (opts, rest) ← options "S" args
  match rest with
  | [] =>
    let m := (← proc).umask
    emitOut ((if opts.isEmpty then octalMask m else symbolicMask m) ++ [10]) 0
  | a :: _ =>
    if !a.isEmpty && a.all fun b => byte '0' ≤ b && b ≤ byte '7' then
      let v := a.foldl (fun acc b => acc * 8 + (b.toNat - 48)) 0
      update fun p => { p with umask := v % 0o1000 }
      setStatus 0
    else fail (bytesOf "Illegal mode: " ++ a)

end Shell

end PoolServer
