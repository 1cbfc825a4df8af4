import PoolServer.Text.Utf8
import PoolServer.Os.Error
/-!
# Files, directories and links

The server's view of a file system: a tree whose inner nodes are directories and whose leaves are
regular files, symbolic links and devices. Every node is owned by the server's own user, so only
the owner bits of a mode matter: `0o400` lets the owner read a file, `0o200` write it, `0o100` run
a file or search a directory.

A regular file usually holds bytes. Two other kinds of content stand for files of the host that
are not plain data: a file whose reads fail (a process's memory image looks like a regular file of
mode `0o600` but cannot be read from its start), and the programs of the host, which the system
runs without reading them.

Devices are the character devices of `/dev`: one that swallows writes and reads as empty, one
that reads as zeros, one that refuses writes because it is full, and terminals, which a server
without a terminal cannot open. The open descriptors of a process show as devices too, in
`/proc/self/fd`.
-/
namespace PoolServer

/-- A program of the host. -/
inductive Program where
  /-- The command interpreter, which runs shell scripts. -/
  | shell
  /-- Succeeds and does nothing. -/
  | succeed
  /-- Fails and does nothing. -/
  | fail
  /-- Copies its files, or its input, to its output. -/
  | cat
  /-- Writes its arguments. -/
  | echo
  /-- Waits, which here takes no time. -/
  | sleep
  /-- Runs a program found on the search path, with its arguments. -/
  | env
  deriving DecidableEq, Repr

/-- What a regular file holds. -/
inductive Contents where
  /-- Plain bytes. -/
  | data (bytes : Bytes)
  /-- A file whose reads fail with the given error. -/
  | unreadable (e : Errno)
  /-- A program of the host. -/
  | program (p : Program)

/-- A character device. -/
inductive Device where
  /-- Reads as empty and swallows writes. -/
  | null
  /-- Reads as zero bytes and swallows writes. -/
  | zero
  /-- Reads as zero bytes and refuses writes: there is no space left. -/
  | full
  /-- A terminal, which cannot be opened without one. -/
  | terminal
  /-- An open descriptor of the process that opens it: opening it opens what the descriptor
  leads to. -/
  | descriptor (n : Nat)
  deriving DecidableEq, Repr

/-- A node of the file tree. -/
inductive Node where
  /-- A regular file with its mode and content. -/
  | file (mode : Nat) (contents : Contents)
  /-- A directory with its mode and named entries. -/
  | dir (mode : Nat) (entries : List (String × Node))
  /-- A symbolic link and the path it points to, relative to the link's directory unless it
  starts with `/`. -/
  | link (target : String)
  /-- A character device with its mode. -/
  | device (mode : Nat) (d : Device)

namespace Mode

/-- The owner may read. -/
def ownerRead : Nat := 0o400

/-- The owner may write. -/
def ownerWrite : Nat := 0o200

/-- The owner may run the file or search the directory. -/
def ownerExec : Nat := 0o100

/-- Whether a mode has a permission bit. -/
def allows (mode bit : Nat) : Bool := mode &&& bit != 0

end Mode

namespace Node

/-- The entry of a directory under a name. -/
def child? : Node → String → Option Node
  | .dir _ entries, name => (entries.find? (·.1 == name)).map (·.2)
  | _, _ => none

/-- Whether the node is a directory. -/
def isDir : Node → Bool
  | .dir _ _ => true
  | _ => false

/-- The node at a path of names from this one, not following links. -/
def at? (n : Node) : List String → Option Node
  | [] => some n
  | name :: rest => (n.child? name).bind (·.at? rest)

/-- Replaces or adds the entry under a name. -/
def setEntry (entries : List (String × Node)) (name : String) (n : Node) : List (String × Node) :=
  if entries.any (·.1 == name) then entries.map fun e => if e.1 == name then (name, n) else e
  else entries ++ [(name, n)]

/-- Puts a node at a path below this directory, making missing directories with mode
`dirMode` on the way; a file in the way is replaced by a directory. -/
def put (dirMode : Nat) (n : Node) : List String → Node → Node
  | [], _ => n
  | name :: rest, .dir mode entries =>
    let below := ((Node.dir mode entries).child? name).getD (.dir dirMode [])
    .dir mode (setEntry entries name (put dirMode n rest below))
  | name :: rest, _ => .dir dirMode [(name, put dirMode n rest (.dir dirMode []))]

/-- Sets the mode of the node at a path, if it is a file or a directory. -/
def chmod (mode : Nat) : List String → Node → Node
  | [], .file _ c => .file mode c
  | [], .dir _ es => .dir mode es
  | [], n => n
  | name :: rest, .dir m entries =>
    match (Node.dir m entries).child? name with
    | some below => .dir m (setEntry entries name (chmod mode rest below))
    | none => .dir m entries
  | _ :: _, n => n

end Node

end PoolServer
