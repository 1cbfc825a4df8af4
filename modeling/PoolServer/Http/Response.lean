import PoolServer.Http.Status
import PoolServer.Text.Utf8
import PoolServer.Text.Html
/-!
# Responses

A response is a status, header lines in the order they were added, and a body. A body is either
bytes that the server framed itself, announced by a `Content-Length` header and written after an
empty line, or the raw output of a program, which carries its own header lines and empty line and
is written straight after the server's headers.

`Response.toBytes` writes the status line `HTTP/1.0 <code> <reason>`, one `name: value` line per
header, and the body.
-/
namespace PoolServer

/-- The name the server gives itself in its `Server` header and on error pages. -/
def serverName : String := "http-pool-server"

/-- What follows the header lines of a response. -/
inductive Body where
  /-- Bytes framed by the server: an empty line comes before them. -/
  | framed (data : Bytes)
  /-- A program's output, written as it came. -/
  | program (output : Bytes)
  deriving DecidableEq, Repr

/-- A response: status, header lines in insertion order, body. -/
structure Response where
  status : Status
  headers : List (String × String)
  body : Body
  deriving Repr

namespace Response

/-- A response with no headers and an empty framed body. -/
def new (status : Status) : Response := ⟨status, [], .framed []⟩

/-- Adds a header line after the others. -/
def addHeader (r : Response) (name value : String) : Response :=
  { r with headers := r.headers ++ [(name, value)] }

@[simp] theorem addHeader_status (r : Response) (n v : String) : (r.addHeader n v).status = r.status :=
  rfl

@[simp] theorem addHeader_body (r : Response) (n v : String) : (r.addHeader n v).body = r.body := rfl

/-- Sets a framed body and announces its length in a new `Content-Length` line. -/
def withBody (r : Response) (data : Bytes) : Response :=
  { r.addHeader "Content-Length" (toString data.length) with body := .framed data }

/-- A successful response carrying bytes of the given content type. -/
def content (data : Bytes) (contentType : String) : Response :=
  ((new .ok).addHeader "Server" serverName |>.withBody data).addHeader "Content-Type" contentType

@[simp] theorem content_body (data : Bytes) (contentType : String) :
    (content data contentType).body = .framed data := rfl

/-- A successful response carrying a program's output. -/
def program (output : Bytes) : Response :=
  { (new .ok).addHeader "Server" serverName with body := .program output }

/-- The error page up to the cause: title and status. -/
def pageOpen (status : Status) : String :=
  "<html><title>" ++ serverName ++ " Error</title><body bgcolor=ffffff>\r\n" ++
    status.display ++ "\r\n" ++ "<p>"

/-- The error page after the cause. -/
def pageClose : String :=
  "\r\n" ++ "<hr>" ++ serverName ++ "\r\n" ++ "</body></html>\r\n"

/-- The HTML page that explains an error: the status and the escaped cause. -/
def errorPage (status : Status) (cause : String) : String :=
  pageOpen status ++ Html.escape cause ++ pageClose

/-- An error response: the error page, framed, as HTML. -/
def error (status : Status) (cause : String) : Response :=
  ((new status).addHeader "Server" serverName |>.withBody (Utf8.encode (errorPage status cause)))
    |>.addHeader "Content-Type" "text/html"

/-- The body's bytes, whichever kind it is. -/
def bodyBytes (r : Response) : Bytes :=
  match r.body with
  | .framed data => data
  | .program output => output

/-- The cause of an error appears in its page only escaped, between text that does not depend on
it. The escaped cause holds no `<` or `>`, each of its `&` starts `&amp;`, `&lt;` or `&gt;`, and
reading the entities back gives the cause, so different causes give different pages. -/
theorem error_body_escapes (s : Status) (c : String) :
    (error s c).bodyBytes = Utf8.encode (pageOpen s ++ Html.escape c ++ pageClose) ∧
      '<' ∉ (Html.escape c).toList ∧ '>' ∉ (Html.escape c).toList ∧
      (∀ pre post, (Html.escape c).toList = pre ++ '&' :: post →
        "amp;".toList <+: post ∨ "lt;".toList <+: post ∨ "gt;".toList <+: post) ∧
      Html.unescape (Html.escape c).toList = c.toList ∧
      Function.Injective Html.escape :=
  ⟨by simp only [error, withBody, addHeader, bodyBytes, errorPage], Html.lt_not_mem_escape c, Html.gt_not_mem_escape c,
    fun _ _ h => by simpa using Html.entity_of_amp c h, Html.unescape_escape c,
    fun _ _ h => Html.escape_injective h⟩

/-- The first value of a header whose name matches without regard to ASCII case. -/
def header? (r : Response) (name : String) : Option String :=
  (r.headers.find? fun p => p.1.toLower == name.toLower).map (·.2)

/-- The status line and header lines, each ending in a carriage return and a line feed. -/
def headText (r : Response) : String :=
  "HTTP/1.0 " ++ r.status.display ++ "\r\n" ++
    String.join (r.headers.map fun (n, v) => n ++ ": " ++ v ++ "\r\n")

/-- The bytes sent for the response. -/
def toBytes (r : Response) : Bytes :=
  Utf8.encode r.headText ++
    match r.body with
    | .framed data => [13, 10] ++ data
    | .program output => output

/-- What follows the header lines: an empty line and the framed bytes, or the program's output. -/
def afterHead (r : Response) : Bytes :=
  match r.body with
  | .framed data => [13, 10] ++ data
  | .program output => output

theorem toBytes_eq (r : Response) : r.toBytes = Utf8.encode r.headText ++ r.afterHead := rfl

/-- A new header line is written after the others. -/
theorem headText_addHeader (r : Response) (n v : String) :
    (r.addHeader n v).headText = r.headText ++ (n ++ ": " ++ v ++ "\r\n") := by
  simp [addHeader, headText, String.join_append, String.append_assoc]

end Response

end PoolServer
