/-!
# Log events

What the server reports while it works: a level, a message and named fields whose values are
numbers or text, together with the part of the server that reports it. Levels are ordered from the
most detailed, `trace`, to the most severe, `error`.

Every part has a target name, which log filters match by prefix. The command itself reports as
`server`, its name on the command line; the pool, the listener and the site report under the
names `http_pool_server::pool::worker`, `http_pool_server::server::tcp` and
`http_pool_server::handler::http_handler`, so that `http_pool_server` selects them all.
-/
namespace PoolServer

/-- How severe an event is. -/
inductive Level where
  | trace
  | debug
  | info
  | warn
  | error
  deriving DecidableEq, Repr

namespace Level

/-- The rank of a level, more severe being higher. -/
def rank : Level → Nat
  | .trace => 0
  | .debug => 1
  | .info => 2
  | .warn => 3
  | .error => 4

/-- The name of a level in capitals, as log lines show it. -/
def name : Level → String
  | .trace => "TRACE"
  | .debug => "DEBUG"
  | .info => "INFO"
  | .warn => "WARN"
  | .error => "ERROR"

/-- The name right-aligned in five columns. -/
def padded (l : Level) : String :=
  String.ofList (List.replicate (5 - l.name.length) ' ') ++ l.name

end Level

/-- The value of an event field. -/
inductive FieldValue where
  | num (n : Nat)
  | text (s : String)
  deriving DecidableEq, Repr

namespace FieldValue

/-- The text of a value. -/
def render : FieldValue → String
  | .num n => toString n
  | .text s => s

end FieldValue

/-- The part of the server that reports an event. -/
inductive Origin where
  /-- The command that starts the server. -/
  | command
  /-- The worker pool. -/
  | pool
  /-- The listener that accepts connections. -/
  | listener
  /-- The site that answers requests. -/
  | site
  deriving DecidableEq, Repr

namespace Origin

/-- The target name under which a part reports. -/
def target : Origin → String
  | .command => "server"
  | .pool => "http_pool_server::pool::worker"
  | .listener => "http_pool_server::server::tcp"
  | .site => "http_pool_server::handler::http_handler"

end Origin

/-- A reported event. -/
structure Event where
  level : Level
  message : String
  fields : List (String × FieldValue)
  origin : Origin := .site
  deriving Repr

namespace Event

/-- The event as a log line: the padded level, the message, and each field as `name=value`. -/
def line (e : Event) : String :=
  e.level.padded ++ " " ++ e.message ++
    String.join (e.fields.map fun (k, v) => " " ++ k ++ "=" ++ v.render)

example : ({ level := .info, message := "pool started", fields := [("workers", .num 2)] } : Event).line
    = " INFO pool started workers=2" := by decide

end Event

end PoolServer
