import PoolServer.Shell.Run
/-!
# Running programs

Starting a program at a path, as the system does it for the server: the path must lead to a
regular file with an execute bit. A file that starts with `#!` names its interpreter on its first
line; the interpreter must exist and be runnable, and is then given the file's path. A file in no
format the system knows, an empty one included, cannot be run.

The program reads nothing; what it writes to standard output and its exit status come back, or
the signal that ended it.
-/
namespace PoolServer

/-- What a program that ran to its end left behind. -/
structure Finished where
  stdout : Bytes
  stderr : Bytes
  /-- The exit status; zero is success. -/
  code : Nat
  /-- The signal that ended the program, if one did. -/
  signal : Option Nat

namespace Finished

/-- Whether the program succeeded: it exited, with status zero. -/
def success (f : Finished) : Bool := f.signal.isNone && f.code == 0

/-- The names the server gives signals when it reports how a program ended. -/
def signalNames : List (Nat × String) :=
  [(1, "HUP"), (2, "INT"), (3, "QUIT"), (4, "ILL"), (5, "TRAP"), (6, "ABRT"), (7, "BUS"),
   (8, "FPE"), (9, "KILL"), (10, "USR1"), (11, "SEGV"), (12, "USR2"), (13, "PIPE"), (14, "ALRM"),
   (15, "TERM"), (16, "STKFLT"), (17, "CHLD"), (18, "CONT"), (19, "STOP"), (20, "TSTP"),
   (21, "TTIN"), (22, "TTOU"), (23, "URG"), (24, "XCPU"), (25, "XFSZ"), (26, "VTALRM"),
   (27, "PROF"), (28, "WINCH"), (29, "IO"), (30, "PWR"), (31, "SYS")]

/-- How the end is written: `exit status: 3`, or `signal: 9 (SIGKILL)`. -/
def statusText (f : Finished) : String :=
  match f.signal with
  | some s =>
    "signal: " ++ toString s ++ (match (signalNames.find? (·.1 == s)).map (·.2) with
      | some n => " (SIG" ++ n ++ ")"
      | none => "")
  | none => "exit status: " ++ toString f.code

end Finished

namespace Disk

/-- Whether a text holds a NUL byte. -/
def hasNul (bs : Bytes) : Bool := bs.contains 0

/-- Starts the program at `path` with the given environment and waits for it. -/
def spawn (d : Disk) (path : String) (env : List (String × Bytes)) :
    Except IoError Finished := do
  if hasNul (Utf8.encode path) || env.any (fun (n, v) => hasNul (Utf8.encode n) || hasNul v) then
    throw .nulInArgument
  match Shell.launch d path env with
  | .error e => throw (.os e)
  | .ok ending => pure ⟨ending.world.out, ending.world.err, ending.status, ending.signal⟩

end Disk

end PoolServer
