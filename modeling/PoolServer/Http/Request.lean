import PoolServer.Text.Utf8
import PoolServer.Text.Blank
import PoolServer.Text.Decimal
/-!
# Request heads

A request head is a request line (method, target, version), header lines, and an empty line; each
line ends in a carriage return and a line feed. `Request.parse` reads the head at the front of the
bytes received so far: the head ends just after the first empty line, or with the bytes if no
empty line has arrived. Only the head has to be well-formed UTF-8; what follows it is not looked
at.

Rules, in the order they are applied:
* text that holds only blanks is an empty request;
* the request line must have exactly three words, separated by blanks;
* the version must be `HTTP/1.0` or `HTTP/1.1`;
* header lines are read up to the first line that holds only blanks; each must have a colon, its
  name is trimmed and lowercased (ASCII only), its value trimmed, and a later line with the same
  name replaces the earlier value.

The target is split at its first `?` into a path and a query, and neither is decoded.
-/
namespace PoolServer

/-- A request method. Only `GET` and `POST` are served; any other word is kept as it came. -/
inductive Method where
  | get
  | post
  | other (name : String)
  deriving DecidableEq, Repr

namespace Method

/-- The method a word names: `GET` and `POST` exactly, in upper case. -/
def ofWord (w : String) : Method :=
  if w = "GET" then .get else if w = "POST" then .post else .other w

/-- The word of a method. -/
def word : Method → String
  | .get => "GET"
  | .post => "POST"
  | .other name => name

@[simp] theorem word_ofWord (w : String) : (ofWord w).word = w := by
  unfold ofWord
  split
  · simp_all [word]
  · split <;> simp_all [word]

end Method

/-- Why a request head was refused. -/
inductive ParseError where
  | emptyRequest
  | invalidRequestLine
  | invalidVersion (version : String)
  | invalidHeader (line : String)
  deriving DecidableEq, Repr

namespace ParseError

/-- The wording of each refusal. -/
def message : ParseError → String
  | .emptyRequest => "Empty request"
  | .invalidRequestLine => "Invalid request line format"
  | .invalidVersion v => "Invalid HTTP version: " ++ v
  | .invalidHeader line => "Invalid header: " ++ line

end ParseError

/-- Header values by lowercased name, in the order the names first appeared. -/
abbrev HeaderTable := List (String × String)

namespace HeaderTable

/-- Sets the value of a name: replaces it where the name is present, appends it otherwise. -/
def set (t : HeaderTable) (name value : String) : HeaderTable :=
  if t.any (·.1 == name) then t.map fun p => if p.1 == name then (name, value) else p
  else t ++ [(name, value)]

/-- The value stored under a name. -/
def get? (t : HeaderTable) (name : String) : Option String := (t.find? (·.1 == name)).map (·.2)

end HeaderTable

/-- A parsed request head. -/
structure Request where
  method : Method
  /-- The request target as it came. -/
  uri : String
  /-- The target before its first `?`. -/
  path : String
  /-- The target after its first `?`, or empty. -/
  query : String
  version : String
  headers : HeaderTable
  /-- How many bytes the head took, the empty line included. -/
  headLen : Nat
  deriving Repr

namespace Request

/-- The largest value a content length may have: a 64-bit word. -/
def lengthMax : Nat := Nat.pow 2 64 - 1

/-- The four bytes that end a head: an empty line after the last header line. -/
def headTerminator : Bytes := [13, 10, 13, 10]

/-- The offset just after the first empty line, if one has arrived. -/
def headEnd? : Bytes → Option Nat
  | [] => none
  | b :: rest =>
    if (b :: rest).take 4 = headTerminator then some 4 else (headEnd? rest).map (· + 1)

/-- The length of the head at the front of the bytes: up to the first empty line, or all. -/
def headLength (buffer : Bytes) : Nat := (headEnd? buffer).getD buffer.length

/-- The name and value of a header line, or the refusal of a line with no colon. -/
def headerField (line : List Char) : Except ParseError (String × String) :=
  match Text.splitFirst ':' line with
  | some (name, value) =>
    .ok ((String.ofList (Text.trim name)).toLower, String.ofList (Text.trim value))
  | none => .error (.invalidHeader (String.ofList line))

/-- Reads header lines into the table up to the first line of blanks. -/
def readHeaders (table : HeaderTable) : List (List Char) → Except ParseError HeaderTable
  | [] => .ok table
  | line :: lines =>
    if (Text.trim line).isEmpty then .ok table
    else
      match headerField line with
      | .ok (name, value) => readHeaders (table.set name value) lines
      | .error e => .error e

/-- Reads the request line and the header lines of a decoded head. -/
def ofLines (headLen : Nat) : List (List Char) → Except ParseError Request
  | [] => .error .emptyRequest
  | requestLine :: headerLines =>
    match Text.words requestLine with
    | [m, u, v] =>
      let version := String.ofList v
      if version = "HTTP/1.0" ∨ version = "HTTP/1.1" then
        let (path, query) := (Text.splitFirst '?' u).getD (u, [])
        (readHeaders [] headerLines).map fun headers =>
          { method := Method.ofWord (String.ofList m), uri := String.ofList u,
            path := String.ofList path, query := String.ofList query, version,
            headers, headLen }
      else .error (.invalidVersion version)
    | _ => .error .invalidRequestLine

/-- Parses the head at the front of the bytes received so far. -/
def parse (buffer : Bytes) : Except ParseError Request :=
  let headLen := headLength buffer
  match Utf8.decode (buffer.take headLen) with
  | none => .error .invalidRequestLine
  | some text =>
    if (Text.trim text).isEmpty then .error .emptyRequest
    else ofLines headLen (Text.crlfLines text)

/-- The value of a header, looked up without regard to ASCII case. -/
def header? (r : Request) (name : String) : Option String := r.headers.get? name.toLower

/-- The announced body length: the `Content-Length` value if it is a numeral below 2^64. -/
def contentLength? (r : Request) : Option Nat :=
  (r.header? "Content-Length").bind fun v => (Decimal.readNat lengthMax v.toList).toOption

end Request

end PoolServer
