import PoolServer.Startup
/-!
# The `server` command

Reads the command line and the environment variables that the settings and the log filter use,
runs the command, and prints what it writes, ending with its exit status. No port is known to be
taken. This build has no network of its own, so a server that would start serving prints its
startup lines and then stays up until it is stopped.
-/
namespace PoolServer

namespace Startup

/-- The variables the command reads: the log filter's and the settings'. -/
def watchedNames : List String := "RUST_LOG" :: Settings.command.params.filterMap (·.env)

/-- The values of the variables that are set. -/
def environment : IO (List (String × String)) :=
  watchedNames.filterMapM fun n => do return (← IO.getEnv n).map (n, ·)

/-- Stays up until stopped. -/
partial def stayUp : IO Unit := do
  IO.sleep 1000
  stayUp

end Startup

end PoolServer

open PoolServer in
def main (args : List String) : IO UInt32 := do
  let env ← Startup.environment
  match Startup.run ⟨[]⟩ (fun k => List.lookup k env) args with
  | .exited e =>
    IO.print e.stdout
    IO.eprint e.stderr
    return e.code.toUInt32
  | .serving out =>
    IO.print out
    (← IO.getStdout).flush
    Startup.stayUp
    return 0
