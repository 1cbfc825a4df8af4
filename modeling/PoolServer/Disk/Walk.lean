import PoolServer.Disk.Node
import PoolServer.Text.Split
/-!
# Walking a path

A path is cut at `/` into names, empty names dropped; one that starts with `/` is walked from the
root, any other from the working directory. Each name is looked up in the directory reached so
far, which the owner must be allowed to search unless the superuser walks. `.` stays, `..` goes
up (the root is its own parent), and a symbolic link is replaced by the names of its target,
looked up from the link's directory or from the root; after 40 links the walk gives up. A link
that is the last name is followed only when asked, and a path that ends in `/` must end at a
directory.

Errors, as the system reports them: a missing name, a file where a directory is needed, a
directory that may not be searched, a name over 255 bytes or a path of 4096 bytes or more, too
many links, and a NUL byte, which never reaches the system at all.
-/
namespace PoolServer

/-- A file system seen from a working directory. -/
structure Disk where
  root : Node
  /-- The working directory, as names from the root. -/
  cwd : List String := []
  /-- Whether the user walking it is the superuser, who may search every directory. -/
  privileged : Bool := false

namespace Disk

/-- How many links one walk may follow. -/
def linkLimit : Nat := 40

/-- The names of a path, empty ones dropped. -/
def names (path : String) : List String :=
  (Text.splitWhere (· == '/') path.toList).filterMap fun w =>
    if w.isEmpty then none else some (String.ofList w)

/-- Whether a path starts at the root. -/
def isAbsolute (path : String) : Bool := path.toList.head? == some '/'

/-- Whether a path ends in `/`. -/
def endsInSlash (path : String) : Bool := path.toList.getLast? == some '/'

/-- Walks names from a place given as the names from the root in reverse. `follow` says whether
a link that is the last name is followed, `needDir` whether the end must be a directory. -/
def walkFrom (d : Disk) (follow needDir : Bool) (used : Nat) (here : List String) :
    List String → Except IoError (List String × Node)
  | [] =>
    match d.root.at? here.reverse with
    | some n => if needDir && !n.isDir then .error (.os .notDir) else .ok (here.reverse, n)
    | none => .error (.os .noEntry)
  | name :: rest =>
    match d.root.at? here.reverse with
    | some (.dir mode _) =>
      if !d.privileged && !Mode.allows mode Mode.ownerExec then .error (.os .access)
      else if (Utf8.encode name).length > 255 then .error (.os .nameTooLong)
      else if name == "." then walkFrom d follow needDir used here rest
      else if name == ".." then walkFrom d follow needDir used here.tail rest
      else
        match (d.root.at? here.reverse).bind (·.child? name) with
        | none => .error (.os .noEntry)
        | some (.link target) =>
          if rest.isEmpty && !follow && !needDir then .ok ((name :: here).reverse, .link target)
          else if used < linkLimit then
            let start := if isAbsolute target then [] else here
            walkFrom d follow needDir (used + 1) start (Disk.names target ++ rest)
          else .error (.os .loop)
        | some _ => walkFrom d follow needDir used (name :: here) rest
    | some _ => .error (.os .notDir)
    | none => .error (.os .noEntry)
termination_by ns => (linkLimit - used, ns.length)

/-- The node a path leads to, with its place as names from the root. -/
def walk (d : Disk) (path : String) (follow : Bool) : Except IoError (List String × Node) :=
  if path.toList.contains (Char.ofNat 0) then .error .nulInPath
  else if (Utf8.encode path).length ≥ 4096 then .error (.os .nameTooLong)
  else if path.isEmpty then .error (.os .noEntry)
  else
    let start := if isAbsolute path then [] else d.cwd.reverse
    walkFrom d follow (endsInSlash path) 0 start (names path)

/-- The kinds of node a status query tells apart. -/
inductive Kind where
  | regular
  | directory
  | link
  | device
  deriving DecidableEq, Repr

/-- What a status query tells about a node. -/
structure Meta where
  kind : Kind
  mode : Nat
  /-- The number of bytes of a regular file's content; zero for the rest. -/
  size : Nat

namespace Meta

/-- Whether the node is a regular file. -/
def isFile (m : Meta) : Bool := m.kind == .regular

/-- Whether the node is a directory. -/
def isDir (m : Meta) : Bool := m.kind == .directory

end Meta

/-- What a status query tells about a node. -/
def metaOf : Node → Meta
  | .file mode contents =>
    ⟨.regular, mode, match contents with
      | .data bytes => bytes.length
      | _ => 0⟩
  | .dir mode _ => ⟨.directory, mode, 0⟩
  | .link target => ⟨.link, 0o777, (Utf8.encode target).length⟩
  | .device mode _ => ⟨.device, mode, 0⟩

/-- The status of the node a path leads to, links followed. -/
def stat (d : Disk) (path : String) : Except IoError Meta :=
  (d.walk path true).map fun (_, n) => metaOf n

/-- The status of the node a path names, a link at its end not followed. -/
def lstat (d : Disk) (path : String) : Except IoError Meta :=
  (d.walk path false).map fun (_, n) => metaOf n

/-- The bytes of the file a path leads to, read by its owner. Devices read as empty, except
terminals, which cannot be opened. -/
def read (d : Disk) (path : String) : Except IoError Bytes := do
  let (_, n) ← d.walk path true
  match n with
  | .file mode contents =>
    if !Mode.allows mode Mode.ownerRead then throw (.os .access)
    else
      match contents with
      | .data bytes => pure bytes
      | .unreadable e => throw (.os e)
      | .program _ => pure []
  | .dir mode _ =>
    if !Mode.allows mode Mode.ownerRead then throw (.os .access) else throw (.os .isDir)
  | .link _ => throw (.os .loop)
  | .device mode dev =>
    if !Mode.allows mode Mode.ownerRead then throw (.os .access)
    else if dev == .terminal then throw (.os .noDevice)
    else pure []

end Disk

end PoolServer
