import PoolServer.Settings.Basic
import PoolServer.Command.Parse
import PoolServer.Command.Help
/-!
# The server's command line

`server [OPTIONS] [PORT] [THREADS] [QUEUE_SIZE]`: the port, the number of workers and the queue's
room are positional, and the host, public directory, log level and read timeout are options. Every
parameter but the log level can also come from an environment variable; the command line wins over
the environment, and the environment over the defaults.
-/
namespace PoolServer

namespace Settings

open Command

/-- The server's command: its parameters with their help lines, variables and defaults. -/
def command : Spec where
  name := "server"
  version := "0.1.0"
  about := "Servidor HTTP/1.0 con pool fijo de workers y log compartido"
  params := [
    { id := "port", long := none, valueName := "PORT",
      help := "Puerto en el que escucha el servidor", env := some "HTTP_PORT",
      default := "8080", reader := .port },
    { id := "threads", long := none, valueName := "THREADS",
      help := "Cantidad de workers del pool", env := some "WORKER_THREADS",
      default := "4", reader := .count },
    { id := "queue_size", long := none, valueName := "QUEUE_SIZE",
      help := "Capacidad de la cola de conexiones pendientes", env := some "QUEUE_SIZE",
      default := "10", reader := .count },
    { id := "host", long := some "host", valueName := "HOST",
      help := "Host/IP en el que escucha", env := some "HTTP_HOST",
      default := "0.0.0.0", reader := .text },
    { id := "public_dir", long := some "public-dir", valueName := "PUBLIC_DIR",
      help := "Directorio con el contenido estático y los programas CGI", env := some "PUBLIC_DIR",
      default := "./public", reader := .text },
    { id := "log_level", long := some "log-level", valueName := "LOG_LEVEL",
      help := "Nivel de log si `RUST_LOG` no está definida", env := none,
      default := "info", reader := .text },
    { id := "read_timeout_ms", long := some "read-timeout-ms", valueName := "READ_TIMEOUT_MS",
      help := "Tiempo máximo de espera al leer de un cliente (milisegundos)",
      env := some "READ_TIMEOUT_MS", default := "30000", reader := .count }]

/-- The number kept under `id`, or `dflt` when there is none below `bound`. -/
def numberOf (values : List (String × Value)) (id : String) (bound dflt : Nat) (h : dflt < bound) :
    { n : Nat // n < bound } :=
  match values.lookup id with
  | some (.num n) => if hn : n < bound then ⟨n, hn⟩ else ⟨dflt, h⟩
  | _ => ⟨dflt, h⟩

/-- The text kept under `id`, or `dflt`. -/
def textOf (values : List (String × Value)) (id : String) (dflt : String) : String :=
  match values.lookup id with
  | some (.text s) => s
  | _ => dflt

/-- Settings from the values of the command's parameters; a parameter without a value keeps the
default. -/
def ofValues (values : List (String × Value)) : Settings :=
  let port := numberOf values "port" (Nat.pow 2 16) defaults.port defaults.port_lt
  let threads := numberOf values "threads" (Nat.pow 2 64) defaults.threads defaults.threads_lt
  let queueSize :=
    numberOf values "queue_size" (Nat.pow 2 64) defaults.queueSize defaults.queueSize_lt
  let readTimeoutMs := numberOf values "read_timeout_ms" (Nat.pow 2 64) defaults.readTimeoutMs
    defaults.readTimeoutMs_lt
  { port := port.1, threads := threads.1, queueSize := queueSize.1,
    host := textOf values "host" defaults.host,
    publicDir := textOf values "public_dir" defaults.publicDir,
    logLevel := textOf values "log_level" defaults.logLevel, readTimeoutMs := readTimeoutMs.1,
    port_lt := port.2, threads_lt := threads.2, queueSize_lt := queueSize.2,
    readTimeoutMs_lt := readTimeoutMs.2 }

/-- Reads the settings from a command line (without the command's name) and an environment. -/
def ofCommandLine (env : String → Option String) (args : List String) :
    Except Failure Settings :=
  (command.parse env args).map ofValues

end Settings

end PoolServer
