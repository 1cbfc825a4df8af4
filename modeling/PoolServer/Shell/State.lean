import PoolServer.Shell.Syntax
import PoolServer.Shell.Lexer
import PoolServer.Shell.Fields
import PoolServer.Disk.Walk
/-!
# Shell scripts: the state of a running shell

A running shell has the state a process has: variables, positional parameters, functions, open
descriptors, options, traps and the status of the last command. Everything that outlives the
process is in its `World`, which a subshell shares with its parent:

* what the programs wrote to the standard output and the standard error that the server gave
  them;
* the in-memory streams behind pipes, here-documents and substitutions;
* the disk, as the superuser sees it;
* the next process number.

A command runs in the monad `Sh`, which keeps the state and can be cut short by an `Interrupt`.
Loops stop on `break` and `continue`, functions on `return`, and the shell on `exit`, on an error
of the shell itself, or on a signal. The state stays as it was when the interrupt came, so a
subshell hands its world back to its parent even when it exits early.

The shell's messages have the form `name: line: text`, where `name` is how the shell was
started (the script's path) and `line` the line of the command that failed. While a built-in
command runs, its name follows: `name: line: read: text`.
-/
namespace PoolServer

namespace Shell

/-- A variable of the shell. -/
structure Var where
  /-- The value; `none` for a variable that is marked but not set. -/
  value : Option Bytes
  exported : Bool
  readonly : Bool
  deriving DecidableEq, Repr

/-- What an open descriptor leads to. -/
inductive Channel where
  /-- The standard output the server collects. -/
  | stdout
  /-- The standard error the server lets through. -/
  | stderr
  /-- A character device. -/
  | device (d : Device)
  /-- An in-memory stream, open for reading, writing, or both. -/
  | stream (id : Nat) (reading writing : Bool)
  /-- A file on the disk, at its place from the root. Reads come from a stream that holds what is
  left of the file; writes go to the end of the file. -/
  | file (place : List String) (id : Nat) (reading writing : Bool)
  /-- A directory opened for reading: reads fail. -/
  | directory
  /-- A file whose reads fail with the given error. -/
  | failing (e : Errno)
  deriving DecidableEq, Repr

/-- What outlives a process: the collected output, the streams, the disk. -/
structure World where
  out : Bytes
  err : Bytes
  /-- The unread bytes of every in-memory stream, by number. -/
  streams : List (Nat × Bytes)
  nextStream : Nat
  disk : Disk
  nextPid : Nat
  /-- Signals sent to processes that were waiting for a child at the time, by process number;
  each takes effect when its process runs again. -/
  signals : List (Nat × Nat) := []

/-- The options `set` turns on and off. -/
structure Options where
  /-- `-e`: leave when a command fails outside a condition. -/
  errexit : Bool
  /-- `-f`: no pathname expansion. -/
  noglob : Bool
  /-- `-u`: expanding an unset variable is an error. -/
  nounset : Bool
  /-- `-x`: trace commands on the error output. -/
  xtrace : Bool
  /-- `-n`: read commands without running them. -/
  noexec : Bool
  /-- `-v`: echo the script as it is read. -/
  verbose : Bool
  /-- `-a`: export every variable that is assigned. -/
  allexport : Bool
  /-- `-C`: `>` does not overwrite an existing file. -/
  noclobber : Bool
  deriving DecidableEq, Repr

/-- All options off. -/
def Options.none : Options := ⟨false, false, false, false, false, false, false, false⟩

/-- What cuts a command short. -/
inductive Interrupt where
  /-- `break n`: leave this many loops. -/
  | breakLoops (n : Nat)
  /-- `continue n`: leave this many loops but the last, and go on with its next round. -/
  | continueLoops (n : Nat)
  /-- `return`: leave the function, or the script read by `.`. -/
  | returned
  /-- `exit`, or the end of the script: leave the shell with the status. -/
  | exited
  /-- An error of the shell, already reported: leave the shell with the status. -/
  | failed
  /-- A signal ended the process. -/
  | killed (signal : Nat)
  /-- The run took more steps than it may. -/
  | exhausted
  deriving DecidableEq, Repr

/-- A background job: its process number, its status, and the signal that ended it, if one did. -/
structure Job where
  pid : Nat
  status : Nat
  signal : Option Nat

/-- A running shell. -/
structure Proc where
  world : World
  vars : List (String × Var)
  /-- The positional parameters `$1`, `$2`, … . -/
  args : List Bytes
  /-- `$0`, which also starts the shell's messages. -/
  name : Bytes
  funcs : List (String × Command)
  /-- `$?`. -/
  status : Nat
  fds : List (Nat × Channel)
  opts : Options
  /-- The actions of trapped signals, by number; `0` is the exit of the shell. -/
  traps : List (Nat × Bytes)
  /-- The line of the command being run. -/
  line : Nat
  /-- How deep in function calls the shell is. -/
  funcDepth : Nat
  /-- For each function call, the variables its `local` saved, to be put back. -/
  frames : List (List (String × Option Var))
  /-- How many loops enclose the command being run, within the current function. -/
  loopDepth : Nat
  /-- `$$`: the number of the shell, which its subshells keep. -/
  pid : Nat
  /-- The number of this very process. -/
  self : Nat
  /-- The numbers of the processes this one was started from, nearest first. -/
  ancestors : List Nat
  /-- `$!`. -/
  lastBackground : Option Nat
  /-- The background jobs started. -/
  jobs : List Job
  /-- The bits taken away from the mode of the files the shell creates. -/
  umask : Nat
  /-- How many more commands may run. -/
  steps : Nat
  /-- Signals sent to the shell and not handled yet. -/
  pending : List Nat
  /-- The status of the last command substitution of the command being expanded. -/
  substituted : Option Nat
  /-- The built-in command being run, which the shell's messages name. -/
  command : Option Bytes
  /-- Where `getopts` goes on: the number of the next parameter to read, and the place within
  the last one read when it holds more option letters. -/
  optind : Nat
  optoff : Option Nat

/-- The shell's monad: state, and interrupts that keep the state. -/
abbrev Sh := ExceptT Interrupt (StateM Proc)

/-- The signals by number, with the names the shell and `kill` use. Signal 16 and the first two
real-time signals have no name; the others from 34 count up from `RTMIN` and down to `RTMAX`. -/
def signalNames : List (Nat × String) :=
  [(1, "HUP"), (2, "INT"), (3, "QUIT"), (4, "ILL"), (5, "TRAP"), (6, "ABRT"), (7, "BUS"),
   (8, "FPE"), (9, "KILL"), (10, "USR1"), (11, "SEGV"), (12, "USR2"), (13, "PIPE"), (14, "ALRM"),
   (15, "TERM"), (17, "CHLD"), (18, "CONT"), (19, "STOP"), (20, "TSTP"),
   (21, "TTIN"), (22, "TTOU"), (23, "URG"), (24, "XCPU"), (25, "XFSZ"), (26, "VTALRM"),
   (27, "PROF"), (28, "WINCH"), (29, "IO"), (30, "PWR"), (31, "SYS")] ++
  (List.range 16).map (fun k => (34 + k, if k == 0 then "RTMIN" else "RTMIN+" ++ toString k)) ++
  (List.range 15).map (fun k => (50 + k, if k == 14 then "RTMAX" else "RTMAX-" ++ toString (14 - k)))

/-- How many signals there are, and one: the signals are numbered below it. -/
def signalLimit : Nat := 65

/-- What the system says a signal is, as the shell reports a child that it ended. -/
def signalDescription (n : Nat) : String :=
  match n with
  | 1 => "Hangup" | 2 => "Interrupt" | 3 => "Quit" | 4 => "Illegal instruction"
  | 5 => "Trace/breakpoint trap" | 6 => "Aborted" | 7 => "Bus error"
  | 8 => "Floating point exception" | 9 => "Killed" | 10 => "User defined signal 1"
  | 11 => "Segmentation fault" | 12 => "User defined signal 2" | 13 => "Broken pipe"
  | 14 => "Alarm clock" | 15 => "Terminated" | 16 => "Stack fault" | 17 => "Child exited"
  | 18 => "Continued" | 19 => "Stopped (signal)" | 20 => "Stopped" | 21 => "Stopped (tty input)"
  | 22 => "Stopped (tty output)" | 23 => "Urgent I/O condition" | 24 => "CPU time limit exceeded"
  | 25 => "File size limit exceeded" | 26 => "Virtual timer expired"
  | 27 => "Profiling timer expired" | 28 => "Window changed" | 29 => "I/O possible"
  | 30 => "Power failure" | 31 => "Bad system call"
  | n => "Real-time signal " ++ toString (n - 34)

/-- The name of a signal, if it has one. -/
def signalName? (n : Nat) : Option String := (signalNames.find? (·.1 == n)).map (·.2)

/-- Whether a signal left at its default is ignored rather than ending the process. -/
def ignoredByDefault (n : Nat) : Bool := n == 17 || n == 18 || n == 23 || n == 28

/-- Whether a signal left at its default stops the process. -/
def stopsByDefault (n : Nat) : Bool := n == 19 || n == 20 || n == 21 || n == 22

/-- The decimal digits of a whole number. -/
def decimal (n : Nat) : Bytes := bytesOf (toString n)

/-- The decimal digits of an integer, with a `-` when negative. -/
def decimalInt (i : Int) : Bytes := bytesOf (toString i)

/-- The value of the search path when the environment gives none. -/
def defaultPath : Bytes := bytesOf "/usr/local/sbin:/usr/local/bin:/usr/sbin:/usr/bin:/sbin:/bin"

/-- The names of the special built-in commands: their errors end the shell, and assignments in
front of them stay. -/
def specialBuiltins : List String :=
  [".", ":", "break", "continue", "eval", "exec", "exit", "export", "readonly", "return", "set",
   "shift", "times", "trap", "unset", "local"]

/-- The names of the other built-in commands. -/
def regularBuiltins : List String :=
  ["[", "alias", "bg", "cd", "chdir", "command", "echo", "false", "fg", "getopts", "hash", "jobs",
   "kill", "printf", "pwd", "read", "test", "true", "type", "ulimit", "umask", "unalias", "wait"]

namespace Proc

/-- A fresh shell: its world, its environment (all exported), its `$0` and parameters. -/
def fresh (world : World) (env : List (String × Bytes)) (name : Bytes) (args : List Bytes)
    (fds : List (Nat × Channel)) (pid : Nat) : Proc :=
  let vars := env.map fun (n, v) => (n, Var.mk (some v) true false)
  let defaults : List (String × Bytes) :=
    [("IFS", bytesOf " \t\n"), ("PS1", bytesOf "$ "), ("PS2", bytesOf "> "), ("PS4", bytesOf "+ "),
     ("OPTIND", bytesOf "1")]
  let vars := defaults.foldl (fun vs (n, v) =>
    if vs.any (·.1 == n) then vs else vs ++ [(n, Var.mk (some v) false false)]) vars
  let vars := if vars.any (·.1 == "PATH") then vars
    else vars ++ [("PATH", Var.mk (some defaultPath) false false)]
  { world, vars, args, name, funcs := [], status := 0, fds, opts := Options.none, traps := [],
    line := 0, funcDepth := 0, frames := [], loopDepth := 0, pid, self := pid, ancestors := [],
    lastBackground := none,
    jobs := [], umask := 0o022, steps := 0, pending := [], substituted := none, command := none,
    optind := 1,
    optoff := none }

/-- The letters of the options that are on, as `$-` shows them: from the last option of the
shell's list to the first. -/
def flags (p : Proc) : Bytes :=
  let o := p.opts
  let on : List (Bool × Char) :=
    [(o.nounset, 'u'), (o.allexport, 'a'), (o.noclobber, 'C'), (o.verbose, 'v'), (o.xtrace, 'x'),
     (o.noexec, 'n'), (o.noglob, 'f'), (o.errexit, 'e')]
  on.filterMap fun (b, c) => if b then some (byte c) else none

/-- A variable by name. -/
def var? (p : Proc) (n : String) : Option Var := (p.vars.find? (·.1 == n)).map (·.2)

/-- The value of a parameter: a variable, a positional parameter or a special one. `$@` and `$*`
are joined here with spaces; expansion treats them apart. -/
def param? (p : Proc) (n : String) : Option Bytes :=
  match n.toList with
  | ['?'] => some (decimal p.status)
  | ['#'] => some (decimal p.args.length)
  | ['$'] => some (decimal p.pid)
  | ['!'] => p.lastBackground.map decimal
  | ['-'] => some p.flags
  | ['0'] => some p.name
  | ['@'] | ['*'] => some (List.intercalate [byte ' '] p.args)
  | c :: _ =>
    if c.isDigit then
      let i := n.toList.foldl (fun acc d => acc * 10 + (d.toNat - 48)) 0
      p.args[i - 1]?
    else (p.var? n).bind (·.value)
  | [] => none

/-- Replaces or adds a variable. -/
def putVar (p : Proc) (n : String) (v : Var) : Proc :=
  if p.vars.any (·.1 == n) then
    { p with vars := p.vars.map fun e => if e.1 == n then (n, v) else e }
  else { p with vars := p.vars ++ [(n, v)] }

/-- Removes a variable. -/
def dropVar (p : Proc) (n : String) : Proc := { p with vars := p.vars.filter (·.1 != n) }

/-- The environment a program started by the shell gets: the exported variables that are set. -/
def environment (p : Proc) : List (String × Bytes) :=
  p.vars.filterMap fun (n, v) =>
    if v.exported then v.value.map (n, ·) else none

/-- The channel of a descriptor, if it is open. -/
def channel? (p : Proc) (fd : Nat) : Option Channel := (p.fds.find? (·.1 == fd)).map (·.2)

/-- Opens a descriptor on a channel, or closes it. -/
def setFd (p : Proc) (fd : Nat) (c : Option Channel) : Proc :=
  let rest := p.fds.filter (·.1 != fd)
  match c with
  | some c => { p with fds := rest ++ [(fd, c)] }
  | none => { p with fds := rest }

/-- The bytes of a stream. -/
def stream (p : Proc) (id : Nat) : Bytes :=
  ((p.world.streams.find? (·.1 == id)).map (·.2)).getD []

/-- Replaces the bytes of a stream. -/
def setStream (p : Proc) (id : Nat) (bs : Bytes) : Proc :=
  let w := p.world
  let streams := if w.streams.any (·.1 == id) then
      w.streams.map fun e => if e.1 == id then (id, bs) else e
    else w.streams ++ [(id, bs)]
  { p with world := { w with streams } }

/-- A new stream holding the given bytes, and its number. -/
def newStream (p : Proc) (bs : Bytes) : Proc × Nat :=
  let id := p.world.nextStream
  let p := { p with world := { p.world with nextStream := id + 1 } }
  (p.setStream id bs, id)

/-- Forgets a stream. -/
def dropStream (p : Proc) (id : Nat) : Proc :=
  { p with world := { p.world with streams := p.world.streams.filter (·.1 != id) } }

/-- The prefix of the shell's messages: `name: line: `, and the built-in command being run. -/
def messagePrefix (p : Proc) : Bytes :=
  p.name ++ bytesOf (": " ++ toString p.line ++ ": ") ++
    (match p.command with
     | some c => c ++ bytesOf ": "
     | none => [])

end Proc

namespace Node

/-- Changes the node at a path of names below this one, if there is one. -/
def modify (f : Node → Node) : List String → Node → Node
  | [], n => f n
  | name :: rest, .dir m entries =>
    match (Node.dir m entries).child? name with
    | some below => .dir m (Node.setEntry entries name (modify f rest below))
    | none => .dir m entries
  | _ :: _, n => n

end Node

/-- Bytes as a path, when they are well-formed UTF-8. -/
def pathOf? (bs : Bytes) : Option String := Utf8.text? bs

/-- The directory part and the last name of a path. -/
def splitLast (path : String) : String × String :=
  let cs := path.toList
  let base := cs.reverse.takeWhile (· != '/') |>.reverse
  let dir := cs.take (cs.length - base.length)
  (String.ofList dir, String.ofList base)

namespace World

/-- Writes bytes at the end of the regular file at a place. -/
def appendFile (w : World) (place : List String) (bs : Bytes) : World :=
  let grow : Node → Node
    | .file m (.data old) => .file m (.data (old ++ bs))
    | .file m _ => .file m (.data bs)
    | n => n
  { w with disk := { w.disk with root := Node.modify grow place w.disk.root } }

/-- Empties the regular file at a place. -/
def truncateFile (w : World) (place : List String) : World :=
  let empty : Node → Node
    | .file m _ => .file m (.data [])
    | n => n
  { w with disk := { w.disk with root := Node.modify empty place w.disk.root } }

/-- Makes an empty regular file of the given mode in the directory at a place. -/
def createFile (w : World) (dir : List String) (name : String) (mode : Nat) : World :=
  let add : Node → Node
    | .dir m entries => .dir m (Node.setEntry entries name (.file mode (.data [])))
    | n => n
  { w with disk := { w.disk with root := Node.modify add dir w.disk.root } }

end World

/-! ## The monad's basic operations -/

/-- The state. -/
def proc : Sh Proc := get

/-- Changes the state. -/
def update (f : Proc → Proc) : Sh Unit := modify f

/-- Sets the status of the last command. -/
def setStatus (n : Nat) : Sh Unit := update fun p => { p with status := n }

/-- Counts one step, and stops the run when none are left. -/
def tick : Sh Unit := do
  let p ← proc
  if p.steps == 0 then throw .exhausted
  set { p with steps := p.steps - 1 }

/-- Runs an action; whatever interrupts it is handed back as a value. -/
def attempt {α : Type} (act : Sh α) : Sh (Except Interrupt α) :=
  tryCatch (do pure (.ok (← act))) (fun e => pure (.error e))

/-- Writes bytes to a channel: the error when the channel cannot take them. -/
def writeChannel (c : Channel) (bs : Bytes) : Sh (Option Errno) := do
  let p ← proc
  let w := p.world
  match c with
  | .stdout => set { p with world := { w with out := w.out ++ bs } }; pure none
  | .stderr => set { p with world := { w with err := w.err ++ bs } }; pure none
  | .device d =>
    match d with
    | .full => pure (if bs.isEmpty then none else some .noSpace)
    | _ => pure none
  | .stream id _ writing =>
    if writing then set (p.setStream id (p.stream id ++ bs)); pure none
    else pure (some .badDescriptor)
  | .file place _ _ writing =>
    if writing then set { p with world := w.appendFile place bs }; pure none
    else pure (some .badDescriptor)
  | .directory => pure (some .badDescriptor)
  | .failing e => pure (some e)

/-- Writes bytes to a descriptor: the error when it is closed or cannot take them. -/
def writeFd (fd : Nat) (bs : Bytes) : Sh (Option Errno) := do
  match (← proc).channel? fd with
  | some c => writeChannel c bs
  | none => pure (some .badDescriptor)

/-- Writes a message of the shell to the error output: `name: line: text`. -/
def complain (msg : Bytes) : Sh Unit := do
  let p ← proc
  let _ ← writeFd 2 (p.messagePrefix ++ msg ++ [10])
  pure ()

/-- Reports an error of the shell and leaves it with status 2. -/
def fail {α : Type} (msg : Bytes) : Sh α := do
  complain msg
  setStatus 2
  throw .failed

/-- What reading from a descriptor gave. -/
inductive Got where
  /-- Bytes, and whether the end of the input came before a line feed. -/
  | bytes (bs : Bytes) (ended : Bool)
  | error (e : Errno)

/-- Takes bytes from a stream up to and with the first line feed, or all when `whole`. -/
def takeFromStream (id : Nat) (whole : Bool) : Sh Got := do
  let p ← proc
  let bs := p.stream id
  if whole then
    set (p.setStream id [])
    pure (.bytes bs true)
  else
    let line := bs.takeWhile (· != 10)
    let rest := bs.drop line.length
    match rest with
    | _ :: more =>
      set (p.setStream id more)
      pure (.bytes (line ++ [10]) false)
    | [] =>
      set (p.setStream id [])
      pure (.bytes line true)

/-- Reads from a descriptor a line with its line feed, or all that is left when `whole`. -/
def readFd (fd : Nat) (whole : Bool) : Sh Got := do
  match (← proc).channel? fd with
  | none => pure (.error .badDescriptor)
  | some c =>
    match c with
    | .stdout | .stderr => pure (.error .badDescriptor)
    | .device d =>
      match d with
      | .terminal => pure (.error .io)
      | _ => pure (.bytes [] true)
    | .stream id reading _ =>
      if reading then takeFromStream id whole else pure (.error .badDescriptor)
    | .file _ id reading _ =>
      if reading then takeFromStream id whole else pure (.error .badDescriptor)
    | .directory => pure (.error .isDir)
    | .failing e => pure (.error e)

/-! ## Variables -/

/-- Sets a variable, or fails when it is read-only. Setting `OPTIND` starts `getopts` over at
that parameter. -/
def setVar (n : String) (v : Bytes) : Sh Unit := do
  let p ← proc
  match p.var? n with
  | some old =>
    if old.readonly then fail (bytesOf (n ++ ": is read only"))
    else set (p.putVar n { old with value := some v, exported := old.exported || p.opts.allexport })
  | none => set (p.putVar n ⟨some v, p.opts.allexport, false⟩)
  if n == "OPTIND" then
    let i := if !v.isEmpty && v.all isDigit then decimalValue v else 0
    update fun p => { p with optind := if i == 0 then 1 else i, optoff := none }

/-- The value of a parameter. -/
def getParam (n : String) : Sh (Option Bytes) := do pure ((← proc).param? n)

/-- The value of `IFS`: `none` when unset. -/
def ifsValue : Sh (Option Bytes) := do pure (((← proc).var? "IFS").bind (·.value))

end Shell

end PoolServer
