import PoolServer.Disk.Walk
/-!
# Laying out a directory

A directory is described by a list of entries, each a path below it: a file with its content and
mode, a directory with its mode, or a symbolic link with its target. Entries are made in order;
directories missing on the way are made with mode `0o755`; a file's mode is set when it is
written, while directory modes are set after all entries exist, so that a directory that may not
be searched can still be filled.

The host the server runs on keeps its programs in `/usr/bin`, which `/bin` links to: the command
interpreter (`sh` and `dash`), `true`, `false`, `cat`, `echo`, `sleep` and `env`. Its `/dev` holds
the character devices `null`, `zero`, `full`, `random`, `urandom` and the terminals, and links to
the descriptors of the process. It has a process memory image at `/proc/self/mem`, a regular file
of mode `0o600` whose reads fail, and the descriptors of the process in `/proc/self/fd`. It has
the directories `/etc`, `/root` and `/tmp`, and a directory laid out for the server at a name
below the root, which is also the working directory.
-/
namespace PoolServer

/-- One entry of a directory layout. -/
inductive Entry where
  | file (path : String) (contents : Bytes) (mode : Nat)
  | dir (path : String) (mode : Nat)
  | link (path : String) (target : String)

namespace Entry

/-- The mode of files that give none. -/
def defaultFileMode : Nat := 0o644

/-- The mode of directories that give none. -/
def defaultDirMode : Nat := 0o755

end Entry

namespace Node

/-- Makes one entry inside a directory. -/
def make (n : Node) : Entry → Node
  | .file path contents mode =>
    Node.put Entry.defaultDirMode (.file mode (.data contents)) (Disk.names path) n
  | .dir path _ =>
    match n.at? (Disk.names path) with
    | some (.dir _ _) => n
    | _ => Node.put Entry.defaultDirMode (.dir Entry.defaultDirMode []) (Disk.names path) n
  | .link path target => Node.put Entry.defaultDirMode (.link target) (Disk.names path) n

/-- Sets the mode a directory entry asks for. -/
def settle (n : Node) : Entry → Node
  | .dir path mode => Node.chmod mode (Disk.names path) n
  | _ => n

/-- The directory a layout describes. -/
def layout (entries : List Entry) : Node :=
  let made := entries.foldl make (.dir Entry.defaultDirMode [])
  entries.foldl settle made

end Node

namespace Disk

/-- The programs of the host, in `/usr/bin`. -/
def programs : List (String × Node) :=
  [("cat", .file 0o755 (.program .cat)), ("dash", .file 0o755 (.program .shell)),
   ("echo", .file 0o755 (.program .echo)), ("env", .file 0o755 (.program .env)),
   ("false", .file 0o755 (.program .fail)), ("sh", .link "dash"),
   ("sleep", .file 0o755 (.program .sleep)), ("true", .file 0o755 (.program .succeed))]

/-- The devices of the host, in `/dev`. -/
def devices : List (String × Node) :=
  [("console", .device 0o600 .terminal), ("core", .link "/proc/kcore"),
   ("fd", .link "/proc/self/fd"), ("full", .device 0o666 .full), ("mqueue", .dir 0o1777 []),
   ("null", .device 0o666 .null), ("ptmx", .device 0o666 .terminal), ("pts", .dir 0o755 []),
   ("random", .device 0o666 .zero), ("shm", .dir 0o1777 []),
   ("stderr", .link "/proc/self/fd/2"), ("stdin", .link "/proc/self/fd/0"),
   ("stdout", .link "/proc/self/fd/1"), ("tty", .device 0o666 .terminal),
   ("urandom", .device 0o666 .zero), ("zero", .device 0o666 .zero)]

/-- The host with a laid-out directory at `name` below the root, the root being the working
directory. -/
def host (name : String) (site : Node) : Disk :=
  let root : Node := .dir 0o755 [
    ("bin", .link "usr/bin"),
    ("dev", .dir 0o755 devices),
    ("etc", .dir 0o755 [("group", .file 0o644 (.data [])), ("hosts", .file 0o644 (.data [])),
      ("passwd", .file 0o644 (.data []))]),
    ("proc", .dir 0o555 [("self", .dir 0o555 [
      ("fd", .dir 0o500 ((List.range 10).map fun n => (toString n, .device 0o700 (.descriptor n)))),
      ("mem", .file 0o600 (.unreadable .io))])]),
    ("root", .dir 0o700 []),
    ("tmp", .dir 0o1777 []),
    ("usr", .dir 0o755 [("bin", .dir 0o755 programs)]),
    (name, site)]
  { root, cwd := [] }

end Disk

end PoolServer
