import PoolServer.Http.Request
import PoolServer.Http.Status
import PoolServer.Site.Host
import PoolServer.Worker.Counters
/-!
# What a request asks for

The server decides what to do with a parsed request before doing any of it:
* `POST` dumps the log, whatever its target;
* a method other than `GET` and `POST` is not implemented;
* a `GET` whose path has a `..` segment is forbidden, with no question to the host;
* a `GET` whose target mentions `cgi` anywhere (query included) runs a program, any other serves
  a file; a file path that is empty or ends in `/` gets `home.html` appended;
* the path, its leading slashes dropped, is joined to the public directory and the host gives its
  status: a lookup refused by the mode bits is forbidden, any other failure is not found; a
  program must be a regular file its owner may run, and a file one its owner may read, or it is
  forbidden.

Refusals quote the request target as their cause.
-/
namespace PoolServer

/-- What the server will do for a request. -/
inductive Plan where
  | static (path : String) (contentType : String)
  | dynamic (path : String) (query : String)
  | dump
  | reject (status : Status) (cause : String)
  deriving DecidableEq, Repr

namespace Plan

/-- The kind a plan counts as. -/
def kind : Plan → Kind
  | .static _ _ => .static
  | .dynamic _ _ => .dynamic
  | .dump => .post
  | .reject _ _ => .error

/-- Only a dump counts as a `POST`. -/
theorem kind_eq_post {p : Plan} : p.kind = .post ↔ p = .dump := by
  cases p <;> simp [kind]

/-- The page served for a directory path. -/
def homePage : String := "home.html"

/-- Joins a relative path to a directory, with one `/` between them unless the directory already
ends in one; an empty relative path leaves a trailing `/`. -/
def joinPath (dir rel : String) : String :=
  if dir.isEmpty || Disk.endsInSlash dir then dir ++ rel else dir ++ "/" ++ rel

/-- The extension of the last name of a path: what follows its last dot, unless that dot starts
the name. -/
def extension? (path : String) : Option String :=
  match (Disk.names path).getLast? with
  | none => none
  | some name =>
    if name == ".." then none
    else
      let cs := name.toList
      match (cs.reverse.splitOn '.') with
      | [_] => none
      | ext :: before =>
        let stem := (before.intersperse ['.']).flatten
        if stem.isEmpty then none else some (String.ofList ext.reverse)
      | [] => none

/-- The content type served for a file, by its extension (case matters). -/
def contentTypeFor (path : String) : String :=
  match extension? path with
  | some "html" => "text/html"
  | some "gif" => "image/gif"
  | some "jpg" => "image/jpeg"
  | some "png" => "image/png"
  | _ => "text/plain"

/-- Whether the text contains `cgi`. -/
def mentionsProgram (s : String) : Bool :=
  let cs := s.toList
  (List.range cs.length).any fun i => (cs.drop i).take 3 == ['c', 'g', 'i']

/-- The plan for a `GET`. -/
def ofGet (host : Host) (publicDir : String) (r : Request) : Plan :=
  if (Text.splitWhere (· == '/') r.path.toList).any (· == ['.', '.']) then .reject .forbidden r.uri
  else
    let dynamic := mentionsProgram r.uri
    let rel := String.ofList (r.path.toList.dropWhile (· == '/'))
    let rel := if !dynamic && (rel.isEmpty || Disk.endsInSlash rel) then rel ++ homePage else rel
    let path := joinPath publicDir rel
    match host.stat path with
    | .error e => .reject (if e.isPermissionDenied then .forbidden else .notFound) r.uri
    | .ok info =>
      if dynamic then
        if info.isFile && Mode.allows info.mode Mode.ownerExec then .dynamic path r.query
        else .reject .forbidden r.uri
      else
        if info.isFile && Mode.allows info.mode Mode.ownerRead then .static path (contentTypeFor path)
        else .reject .forbidden r.uri

/-- The plan for a request. -/
def ofRequest (host : Host) (publicDir : String) (r : Request) : Plan :=
  match r.method with
  | .post => .dump
  | .get => ofGet host publicDir r
  | .other name => .reject .notImplemented (name ++ " is not supported")

end Plan

end PoolServer
