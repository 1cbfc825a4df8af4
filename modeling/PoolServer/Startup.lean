import PoolServer.Settings.Command
import PoolServer.Trace.Filter
import PoolServer.Os.Error
/-!
# Starting the server from the command line

A run of the `server` command reads its settings, answers `--help` and `--version` on standard
output and refused command lines on standard error (exit status 2), picks its log filter, prints
the summary of its settings, and then starts: it checks the settings, starts the worker pool, and
binds its address. A failed start is logged and ends the run with status 1; once bound, the server
keeps serving.

The log filter is the `RUST_LOG` variable when it is set and readable, and otherwise the log level
setting read leniently, with a warning on standard error for each directive left out. Log lines go
to standard output after the summary.

The world outside is only the set of ports already taken: binding a taken port fails.
-/
namespace PoolServer

/-- Why the server could not start. -/
inductive StartupError where
  /-- The settings fail their check. -/
  | invalidConfig (p : Problem)
  /-- The address could not be bound. -/
  | bind (address : String) (e : IoError)
  deriving Repr

namespace StartupError

/-- The wording of each error. -/
def message : StartupError → String
  | .invalidConfig p => "invalid configuration: " ++ p.message
  | .bind a e => "failed to bind " ++ a ++ ": " ++ e.message

end StartupError

/-- The machine the server starts on: the ports already taken. -/
structure Network where
  busy : List Nat
  deriving Repr

/-- How a finished run ended: its exit status and what it wrote. -/
structure Exit where
  code : Nat
  stdout : String
  stderr : String
  deriving Repr

/-- The end of a run: finished, or bound and serving after writing `stdout`. -/
inductive Ending where
  | exited (e : Exit)
  | serving (stdout : String)
  deriving Repr

namespace Startup

/-- The log filter and the warnings its reading gave. -/
def filterFor (env : String → Option String) (s : Settings) : Filter × List String :=
  match env "RUST_LOG" with
  | some text =>
    match Filter.parse text with
    | .ok f => (f, [])
    | .error _ => Filter.parseLenient s.logLevel
  | none => Filter.parseLenient s.logLevel

/-- An event of the pool. -/
def poolEvent (level : Level) (message : String) (fields : List (String × FieldValue)) : Event :=
  { level, message, fields, origin := .pool }

/-- What the pool reports as it starts: each worker, then the pool; the workers' lines only when
the filter lets a worker's line through. -/
def poolStarted (f : Filter) (s : Settings) : List Event :=
  let sample := poolEvent .debug "worker started" [("worker", .num 1)]
  (if f.admits sample then
    (List.range s.threads).map fun i => poolEvent .debug "worker started" [("worker", .num (i + 1))]
  else []) ++
  [poolEvent .info "worker pool started"
    [("workers", .num s.threads), ("queue_capacity", .num s.queueSize)]]

/-- What the pool reports as it stops before serving anything. -/
def poolStopped (f : Filter) (s : Settings) : List Event :=
  let sample := poolEvent .debug "worker stopped" [("worker", .num 1), ("served", .num 0)]
  (if f.admits sample then
    (List.range s.threads).map fun i =>
      poolEvent .debug "worker stopped" [("worker", .num (i + 1)), ("served", .num 0)]
  else []) ++
  [poolEvent .info "worker pool stopped" [("total_requests", .num 0)]]

/-- The command's report of a failed start. -/
def failed (e : StartupError) : Event :=
  { level := .error, message := "failed to start server", fields := [("error", .text e.message)],
    origin := .command }

/-- The lines of the events the filter lets through. -/
def lines (f : Filter) (events : List Event) : String :=
  String.join ((events.filter f.admits).map (·.line ++ "\n"))

/-- Starts a server with checked settings: the events on the way, and the error that stopped it.
-/
def start (net : Network) (f : Filter) (s : Settings) : List Event × Option StartupError :=
  match s.check with
  | some p => ([], some (.invalidConfig p))
  | none =>
    if net.busy.contains s.port then
      (poolStarted f s ++ poolStopped f s, some (.bind s.address (.os .addrInUse)))
    else
      (poolStarted f s ++
        [{ level := .info, message := "server bound", fields := [("address", .text s.address)],
           origin := .listener },
         { level := .info, message := "server listening",
           fields := [("version", .text "\"0.1.0\""), ("address", .text s.address),
             ("workers", .num s.threads), ("queue_size", .num s.queueSize)],
           origin := .command }], none)

/-- A run of the command with its arguments (without its own name) in an environment. -/
def run (net : Network) (env : String → Option String) (args : List String) : Ending :=
  match Settings.ofCommandLine env args with
  | .error .helpWanted => .exited ⟨0, Settings.command.helpText env, ""⟩
  | .error .versionWanted => .exited ⟨0, Settings.command.versionText, ""⟩
  | .error e => .exited ⟨2, "", e.render Settings.command⟩
  | .ok s =>
    let (f, warnings) := filterFor env s
    let err := String.join (warnings.map (· ++ "\n"))
    match start net f s with
    | (events, some e) => .exited ⟨1, s.summary ++ lines f (events ++ [failed e]), err⟩
    | (events, none) => .serving (s.summary ++ lines f events)

end Startup

end PoolServer
