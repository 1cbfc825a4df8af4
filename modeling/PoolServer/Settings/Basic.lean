import PoolServer.Time.Duration
/-!
# Server settings

What the server needs to start: where to listen, how many workers to run, how many accepted
connections may wait for a worker, where the public directory is, how much to log, and how long to
wait for a silent client. Numbers are machine words: the port fits 16 bits, the others 64.

Settings are checked before anything starts: a pool without workers, a queue without room, or a
zero read timeout cannot serve anyone. The checks run in that order and the first failing one is
reported.

Main statements: the defaults pass the check, and the check fails exactly when one of the three
numbers is zero.
-/
namespace PoolServer

/-- The server's settings. -/
structure Settings where
  port : Nat
  threads : Nat
  queueSize : Nat
  host : String
  publicDir : String
  logLevel : String
  readTimeoutMs : Nat
  port_lt : port < Nat.pow 2 16 := by decide
  threads_lt : threads < Nat.pow 2 64 := by decide
  queueSize_lt : queueSize < Nat.pow 2 64 := by decide
  readTimeoutMs_lt : readTimeoutMs < Nat.pow 2 64 := by decide

/-- Why settings cannot start a server. -/
inductive Problem where
  | noWorkers
  | noQueue
  | noTimeout
  deriving DecidableEq, Repr

namespace Problem

/-- The wording of each problem. -/
def message : Problem → String
  | .noWorkers => "worker threads must be >= 1"
  | .noQueue => "queue size must be >= 1"
  | .noTimeout => "read timeout must be >= 1 ms"

end Problem

namespace Settings

/-- Port 8080 on every interface, four workers, ten waiting connections, `./public`, level `info`
and thirty seconds of patience. -/
def defaults : Settings where
  port := 8080
  threads := 4
  queueSize := 10
  host := "0.0.0.0"
  publicDir := "./public"
  logLevel := "info"
  readTimeoutMs := 30000

/-- The address to listen on: host, a colon, and port, as given. -/
def address (s : Settings) : String := s.host ++ ":" ++ toString s.port

/-- How long a worker waits for a client that sends nothing. -/
def readTimeout (s : Settings) : Duration := Duration.ofMillis s.readTimeoutMs s.readTimeoutMs_lt

/-- The first problem of the settings, if any. -/
def check (s : Settings) : Option Problem :=
  if s.threads = 0 then some .noWorkers
  else if s.queueSize = 0 then some .noQueue
  else if s.readTimeoutMs = 0 then some .noTimeout
  else none

theorem check_defaults : defaults.check = none := by decide

/-- Settings fail the check exactly when a count or the timeout is zero. -/
theorem check_eq_none_iff (s : Settings) :
    s.check = none ↔ s.threads ≠ 0 ∧ s.queueSize ≠ 0 ∧ s.readTimeoutMs ≠ 0 := by
  unfold check
  by_cases h₁ : s.threads = 0 <;> by_cases h₂ : s.queueSize = 0 <;>
    by_cases h₃ : s.readTimeoutMs = 0 <;> simp [h₁, h₂, h₃]

/-- The framed summary printed before the server starts. -/
def summary (s : Settings) : String :=
  String.join ([
    "╔══════════════════════════════════════════════╗",
    "║        HTTP Pool Server Configuration        ║",
    "╚══════════════════════════════════════════════╝",
    "",
    "🌐 Network:",
    "   Address:      " ++ s.address,
    "   Public dir:   " ++ s.publicDir,
    "",
    "👷 Worker Pool:",
    "   Workers:      " ++ toString s.threads,
    "   Queue size:   " ++ toString s.queueSize,
    "   Read timeout: " ++ toString s.readTimeoutMs ++ " ms",
    "",
    "📝 Log level:    " ++ s.logLevel,
    ""].map (· ++ "\n"))

end Settings

end PoolServer
