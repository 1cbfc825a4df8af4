import PoolServer.Disk.Exec
/-!
# What the server asks of the system

Serving a request asks the system four things: the status of a path, the bytes of a file, the
run of a program, and memory for the log. A `Host` gives an answer to each, and the handler is
defined over any host, so what is proved of it holds whatever the file system holds, whichever
files fail to read, whichever programs fail to start, and whenever memory runs out. The status and
the read of one path are separate questions, as they are separate calls: a file that stats as
readable may still fail to read.

The disk model of this library is one host (`Host.ofDisk`): it walks paths, starts programs
through its shell, and grants every reservation.
-/
namespace PoolServer

/-- The system's answers to what the server asks of it. -/
structure Host where
  /-- The status of the node a path names, links followed. -/
  stat : String → Except IoError Disk.Meta
  /-- The bytes of the file a path names. -/
  read : String → Except IoError Bytes
  /-- Runs the program a path names with the given environment, to its end. -/
  spawn : String → List (String × Bytes) → Except IoError Finished
  /-- Whether a reservation of so many bytes is granted. -/
  reserve : Nat → Bool

namespace Host

/-- The disk as a host, with memory for every reservation. -/
def ofDisk (d : Disk) : Host := ⟨d.stat, d.read, d.spawn, fun _ => true⟩

@[simp] theorem ofDisk_stat (d : Disk) : (ofDisk d).stat = d.stat := rfl
@[simp] theorem ofDisk_read (d : Disk) : (ofDisk d).read = d.read := rfl
@[simp] theorem ofDisk_spawn (d : Disk) : (ofDisk d).spawn = d.spawn := rfl
@[simp] theorem ofDisk_reserve (d : Disk) (n : Nat) : (ofDisk d).reserve n = true := rfl

end Host

end PoolServer
