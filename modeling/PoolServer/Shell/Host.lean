import PoolServer.Shell.Expand
/-!
# Shell scripts: files and programs of the host

What a running shell needs from the system around it:

* opening a path for a redirection, as the superuser: for reading (`<`), for writing, made
  empty or appended to and created when missing (`>`, `>>`), or both (`<>`); the devices of
  `/dev`, and `/dev/fd/n` as a copy of descriptor `n`;
* finding a command: a function, a built-in command, or a program found along `PATH`;
* starting a program at a path, as the system does: a regular file with an execute bit, either
  one of the host's programs or a file whose `#!` line names its interpreter, which is started
  with the file's path after its own argument;
* the host's small programs, `echo`, `cat` and `sleep`, which report a failed write of their
  output themselves.
-/
namespace PoolServer

namespace Shell

/-! ## Opening files -/

/-- The message for a path a redirection could not open. -/
def openError (creating : Bool) (path : Bytes) (e : Errno) : Bytes :=
  bytesOf (if creating then "cannot create " else "cannot open ") ++ path ++ bytesOf ": " ++
    bytesOf (match e with
      | .noEntry | .notDir => if creating then "Directory nonexistent" else "No such file"
      | e => e.description)

/-- Opens an existing node for a redirection: the channel it gives, with a fresh stream holding
a regular file's content when it is read. -/
def openNode (place : List String) (n : Node) (reading writing : Bool) :
    Sh (Except Errno Channel) := do
  let p ← proc
  match n with
  | .file _ c =>
    let content := match c with
      | .data bs => if reading then bs else []
      | _ => []
    match c with
    | .unreadable e => if reading then pure (.ok (.failing e)) else pure (.error .access)
    | _ =>
      let (p, id) := p.newStream content
      set p
      pure (.ok (.file place id reading writing))
  | .dir _ _ => if writing then pure (.error .isDir) else pure (.ok .directory)
  | .device _ d =>
    match d with
    | .terminal => pure (.error .noDevice)
    | .descriptor k =>
      match p.channel? k with
      | some c => pure (.ok c)
      | none => pure (.error .noEntry)
    | d => pure (.ok (.device d))
  | .link _ => pure (.error .loop)

/-- Opens a path for a redirection: for reading, for writing (made empty unless `append`), or
both. A missing file is created when writing; the `-C` option refuses to make an existing
regular file empty unless `force`. -/
def openPath (path : Bytes) (reading writing append force : Bool) : Sh (Except Errno Channel) := do
  let p ← proc
  match pathOf? path with
  | none => pure (.error .noEntry)
  | some s =>
    match p.world.disk.walk s true with
    | .ok (place, n) =>
      match n with
      | .file _ _ =>
        if writing && !reading && !append && p.opts.noclobber && !force then pure (.error .exists)
        else
          if writing && !reading && !append then set { p with world := p.world.truncateFile place }
          openNode place n reading writing
      | n => openNode place n reading writing
    | .error (.os .noEntry) =>
      if !writing then pure (.error .noEntry)
      else
        let (dir, base) := splitLast s
        match p.world.disk.walk (if dir.isEmpty then "." else dir) true with
        | .ok (place, .dir _ _) =>
          set { p with world := p.world.createFile place base (0o666 - (0o666 &&& p.umask)) }
          let (q, id) := (← proc).newStream []
          set q
          pure (.ok (.file (place ++ [base]) id reading writing))
        | .ok _ => pure (.error .notDir)
        | .error (.os e) => pure (.error e)
        | .error _ => pure (.error .noEntry)
    | .error (.os e) => pure (.error e)
    | .error _ => pure (.error .noEntry)

/-- Reads all that is left on a channel opened for reading. -/
def drainChannel (c : Channel) : Sh (Except Errno Bytes) := do
  match c with
  | .stream id true _ | .file _ id true _ =>
    let p ← proc
    let bs := p.stream id
    set (p.setStream id [])
    pure (.ok bs)
  | .device .terminal => pure (.error .io)
  | .device _ => pure (.ok [])
  | .directory => pure (.error .isDir)
  | .failing e => pure (.error e)
  | _ => pure (.error .badDescriptor)

/-! ## Finding commands -/

/-- What a command name leads to. -/
inductive Target where
  | function (body : Command)
  | builtin (special : Bool)
  /-- A program at a path. -/
  | program (path : String)
  /-- No command: the error of the last place tried. -/
  | missing (e : Errno)

/-- The directories of a search path; an empty entry is the working directory. -/
def searchDirs (path : Bytes) : List Bytes := path.splitOn (byte ':')

/-- Looks for a program along a search path: the first regular file by that name. A node of
another kind, or one that may not be reached, is remembered as the error. -/
def searchPath (d : Disk) (path : Bytes) (name : Bytes) : Target :=
  go (searchDirs path) .noEntry
where
  go : List Bytes → Errno → Target
    | [], e => .missing e
    | dir :: rest, e =>
      let candidate := if dir.isEmpty then name else dir ++ [byte '/'] ++ name
      match pathOf? candidate with
      | none => go rest e
      | some s =>
        match d.walk s true with
        | .ok (_, .file _ _) => .program s
        | .ok _ => go rest .access
        | .error (.os .noEntry) | .error (.os .notDir) => go rest e
        | .error (.os err) => go rest err
        | .error _ => go rest e

/-- What a command name leads to in a shell: a function (unless skipped), a built-in command, a
path when the name has a `/`, or a program along `PATH`. -/
def lookupCommand (p : Proc) (name : Bytes) (skipFunctions : Bool) : Target :=
  let n := asText name
  match (if skipFunctions then none else p.funcs.find? (·.1 == n)) with
  | some (_, body) => .function body
  | none =>
    if specialBuiltins.contains n then .builtin true
    else if regularBuiltins.contains n then .builtin false
    else if name.contains (byte '/') then
      match pathOf? name with
      | some s => .program s
      | none => .missing .noEntry
    else searchPath p.world.disk ((p.param? "PATH").getD defaultPath) name

/-- The message of a command that could not be found or started. -/
def execMessage (e : Errno) : String :=
  match e with
  | .noEntry | .notDir => "not found"
  | e => e.description

/-- The status of a command that could not be found or started. -/
def execStatus (e : Errno) : Nat :=
  match e with
  | .noEntry | .notDir => 127
  | .access => 126
  | _ => 2

/-! ## Starting programs -/

/-- The interpreter and its argument on the `#!` line a file starts with, if it has one. -/
def interpreterLine (bytes : Bytes) : Option (Bytes × Bytes) :=
  match bytes with
  | 35 :: 33 :: rest =>
    let line := (rest.takeWhile (· != 10)).take 254
    let line := line.dropWhile fun b => b == 32 || b == 9
    let path := line.takeWhile fun b => b != 32 && b != 9 && b != 0
    let arg := (line.drop path.length).dropWhile fun b => b == 32 || b == 9
    let arg := (arg.takeWhile (· != 0)).reverse.dropWhile (fun b => b == 32 || b == 9) |>.reverse
    some (path, arg)
  | _ => none

/-- How the system starts the file at a path with the given arguments: the host's program it
comes to and the arguments that one gets, or the error. An interpreter line makes the
interpreter the program, given its argument, the path, and the arguments after the first. -/
def resolveExec (d : Disk) : Nat → String → List Bytes → Except Errno (Program × List Bytes)
  | 0, _, _ => .error .loop
  | depth + 1, path, argv =>
    match d.walk path true with
    | .error (.os e) => .error e
    | .error _ => .error .noEntry
    | .ok (_, .file mode c) =>
      if mode &&& 0o111 == 0 then .error .access
      else
        match c with
        | .program prog => .ok (prog, argv)
        | .unreadable _ => .error .execFormat
        | .data bytes =>
          match interpreterLine bytes with
          | some (interp, arg) =>
            if interp.isEmpty then .error .execFormat
            else
              match pathOf? interp with
              | none => .error .noEntry
              | some ip =>
                resolveExec d depth ip
                  ([interp] ++ (if arg.isEmpty then [] else [arg]) ++ [Utf8.encode path] ++
                    argv.drop 1)
          | none => .error .execFormat
    | .ok _ => .error .access

/-- How deep interpreter lines are followed. -/
def interpreterDepth : Nat := 5

/-! ## The host's small programs -/

/-- Writes the output of a program; a failed write is reported as `name: write error: …` and
makes the status 1. -/
def programOut (name : String) (bs : Bytes) (status : Nat) : Sh Unit := do
  if bs.isEmpty then setStatus status
  else
    match ← writeFd 1 bs with
    | none => setStatus status
    | some e =>
      let _ ← writeFd 2 (bytesOf (name ++ ": write error: " ++ e.description ++ "\n"))
      setStatus 1

/-- The value of an octal or hexadecimal escape's digits. -/
def digitsValue (base : Nat) (ds : Bytes) : Nat :=
  ds.foldl (fun acc d => acc * base + (Double.hexDigit? d).getD 0) 0

/-- The escapes of `echo -e`: the bytes, and whether `\c` ended the output. -/
def gnuEscapes : Nat → Bytes → Bytes × Bool
  | 0, _ => ([], false)
  | _, [] => ([], false)
  | fuel + 1, b :: rest =>
    if b != byte '\\' then
      let (out, stop) := gnuEscapes fuel rest
      (b :: out, stop)
    else
      match rest with
      | [] => ([b], false)
      | c :: more =>
        let simple : Option UInt8 :=
          if c == byte '\\' then some c
          else if c == byte 'a' then some 7
          else if c == byte 'b' then some 8
          else if c == byte 'e' then some 27
          else if c == byte 'f' then some 12
          else if c == byte 'n' then some 10
          else if c == byte 'r' then some 13
          else if c == byte 't' then some 9
          else if c == byte 'v' then some 11
          else none
        match simple with
        | some v =>
          let (out, stop) := gnuEscapes fuel more
          (v :: out, stop)
        | none =>
          if c == byte 'c' then ([], true)
          else if c == byte 'x' then
            let ds := (more.takeWhile fun d => (Double.hexDigit? d).isSome).take 2
            if ds.isEmpty then
              let (out, stop) := gnuEscapes fuel more
              (b :: c :: out, stop)
            else
              let (out, stop) := gnuEscapes fuel (more.drop ds.length)
              ((digitsValue 16 ds).toUInt8 :: out, stop)
          else if isOctal c then
            let (first, after) := if c == byte '0' then ([], more) else ([c], more)
            let ds := first ++ (after.takeWhile isOctal).take (3 - first.length)
            let used := ds.length - first.length
            let (out, stop) := gnuEscapes fuel (after.drop used)
            ((digitsValue 8 ds).toUInt8 :: out, stop)
          else
            let (out, stop) := gnuEscapes fuel more
            (b :: c :: out, stop)

/-- The host's `echo`: the options `-n`, `-e` and `-E` in any mix, then the words with spaces
between them and a line feed after, which `-n` leaves out. -/
def gnuEcho (args : List Bytes) : Sh Unit := do
  let isOption (a : Bytes) : Bool :=
    a.length ≥ 2 && a.head? == some (byte '-') &&
      (a.drop 1).all fun c => c == byte 'n' || c == byte 'e' || c == byte 'E'
  let opts := args.takeWhile isOption
  let words := args.drop opts.length
  let letters := opts.flatMap (·.drop 1)
  let noNewline := letters.contains (byte 'n')
  let escapes := letters.foldl (fun on c =>
    if c == byte 'e' then true else if c == byte 'E' then false else on) false
  let text := List.intercalate [byte ' '] words
  let (text, stopped) := if escapes then gnuEscapes (text.length + 1) text else (text, false)
  programOut "echo" (text ++ (if noNewline || stopped then [] else [10])) 0

/-- The host's `cat`: copies its files, or the standard input for none and for `-`, to the
standard output. A file that cannot be read is reported and makes the status 1. -/
def gnuCat (args : List Bytes) : Sh Unit := do
  let args := if args.head? == some (bytesOf "--") then args.drop 1 else args
  let files := if args.isEmpty then [[byte '-']] else args
  let mut status := 0
  let mut out : Bytes := []
  for f in files do
    let got ← if f == [byte '-'] then
        match (← proc).channel? 0 with
        | some c => drainChannel c
        | none => pure (.error .badDescriptor)
      else
        match ← openPath f true false false false with
        | .ok c => drainChannel c
        | .error e => pure (.error e)
    match got with
    | .ok bs => out := out ++ bs
    | .error e =>
      if !out.isEmpty then
        let _ ← writeFd 1 out
        out := []
      let _ ← writeFd 2 (bytesOf "cat: " ++ f ++ bytesOf (": " ++ e.description ++ "\n"))
      status := 1
  programOut "cat" out status

/-- Whether a word is a time interval `sleep` takes: a number, with an optional unit `s`, `m`,
`h` or `d`. -/
def isInterval (w : Bytes) : Bool :=
  let body := match w.getLast? with
    | some c => if c == byte 's' || c == byte 'm' || c == byte 'h' || c == byte 'd' then w.dropLast else w
    | none => w
  let r := Double.read body
  !body.isEmpty && r.used == body.length && body.head? != some (byte '-') &&
    !(body.head?.map Double.isSpace).getD false

/-- The host's `sleep`: checks its intervals; the time has passed by the time anyone looks. -/
def gnuSleep (args : List Bytes) : Sh Unit := do
  let hint := bytesOf "Try 'sleep --help' for more information.\n"
  if args.isEmpty then
    let _ ← writeFd 2 (bytesOf "sleep: missing operand\n" ++ hint)
    setStatus 1
  else
    let bad := args.filter fun a => !isInterval a
    if bad.isEmpty then setStatus 0
    else
      for a in bad do
        let _ ← writeFd 2 (bytesOf "sleep: invalid time interval '" ++ a ++ bytesOf "'\n")
      let _ ← writeFd 2 hint
      setStatus 1

end Shell

end PoolServer
