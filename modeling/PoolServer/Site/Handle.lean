import PoolServer.Site.Plan
import PoolServer.Http.Reading
import PoolServer.Http.Response
import PoolServer.Journal.Basic
import PoolServer.Worker.Stamp
import PoolServer.Trace.Event
/-!
# Handling one connection

A worker handles a connection in these steps:
1. read the request head, and parse it; a `POST` then has its announced body dropped;
2. plan the answer, count the request by the plan's kind, and stamp it with its statistics;
3. carry the plan out: read the file, run the program, dump the log, or build the error page;
4. add the statistics to the response's headers, and append them to the log when a file or a
   program was served with `200 OK`;
5. write the response.

A failed read or write ends the handling with that error; what was done before it stays done.
A file the host cannot read, a program it cannot run, and a dump it has no memory for are answered
`500 Internal Server Error`, and the request stays counted by its plan. The events reported on the
way are a `debug` event when a request has been parsed and when a response has been written, and
a `warn` event when a file cannot be read, a program cannot be run or fails, the log cannot be
dumped, or a record cannot be appended.
-/
namespace PoolServer

/-- The outbound side of a connection: what was written, or the error every write gives. -/
structure Outbound where
  written : Bytes := []
  failure : Option IoError := none

namespace Outbound

/-- Writes all the bytes, or fails. -/
def writeAll (o : Outbound) (bs : Bytes) : Except IoError Outbound :=
  match o.failure with
  | some e => .error e
  | none => .ok { o with written := o.written ++ bs }

end Outbound

/-- Where the server finds what it serves. -/
structure Site where
  host : Host
  /-- The public directory, as given to the server. -/
  publicDir : String

/-- What a handled request came to. -/
structure Outcome where
  kind : Kind
  bytesSent : Nat
  deriving Repr

/-- A connection, a worker's counters and the log, before and after handling. -/
structure Exchange where
  inbound : Inbound
  outbound : Outbound := {}
  counters : Counters
  journal : Journal
  events : List Event := []

namespace Exchange

/-- Reports an event. -/
def report (x : Exchange) (level : Level) (message : String)
    (fields : List (String × FieldValue)) : Exchange :=
  { x with events := x.events ++ [{ level, message, fields }] }

end Exchange

namespace Site

/-- A warning from the site. -/
def warning (message : String) (fields : List (String × FieldValue)) : Event :=
  { level := .warn, message, fields }

/-- Carries a plan out: the response, and the events on the way. -/
def execute (site : Site) (journal : Journal) : Plan → Response × List Event
  | .static path contentType =>
    match site.host.read path with
    | .ok body => (Response.content body contentType, [])
    | .error e =>
      (Response.error .internalServerError "could not read the file",
        [warning "failed to read static file" [("path", .text path), ("error", .text e.message)]])
  | .dynamic path query =>
    match site.host.spawn path [("QUERY_STRING", Utf8.encode query)] with
    | .ok run =>
      (Response.program run.stdout,
        if run.success then []
        else [warning "CGI program failed" [("program", .text path), ("status", .text run.statusText)]])
    | .error e =>
      (Response.error .internalServerError "could not run the program",
        [warning "failed to run CGI program" [("program", .text path), ("error", .text e.message)]])
  | .dump =>
    match journal.snapshot? site.host.reserve with
    | .ok content => (Response.content content "text/plain", [])
    | .error e =>
      (Response.error .internalServerError "could not read the log",
        [warning "failed to snapshot the log" [("error", .text e.message)]])
  | .reject status cause => (Response.error status cause, [])

/-- Whether an answer goes into the log: a file or a program's output served with `200 OK`. -/
def logged (kind : Kind) (status : Status) : Bool :=
  (kind == .static || kind == .dynamic) && status.isSuccess

/-- Appends the statistics record of worker `id` to the log; a refused record is reported and
leaves the log as it was. -/
def logRecord (site : Site) (id : Nat) (j : Journal) (record : Bytes) : Journal × List Event :=
  match j.append site.host.reserve record with
  | .ok j' => (j', [])
  | .error e =>
    (j, [warning "failed to append to the log" [("worker", .num id), ("error", .text e.message)]])

/-- Answers a planned request: counts it, carries the plan out, stamps and logs the response,
and writes it. -/
def answer (site : Site) (arrival : Instant) (dispatch : Duration) (x : Exchange) (plan : Plan) :
    Exchange × Except IoError Outcome :=
  let kind := plan.kind
  let counters := x.counters.record kind
  let stamp := Stamp.capture arrival dispatch counters
  let (response, warnings) := site.execute x.journal plan
  let response := stamp.apply response
  let entry := if logged kind response.status then
      site.logRecord counters.id x.journal (Utf8.encode stamp.record)
    else (x.journal, [])
  let x := { x with counters, journal := entry.1, events := x.events ++ warnings ++ entry.2 }
  let bytes := response.toBytes
  match x.outbound.writeAll bytes with
  | .error e => (x, .error e)
  | .ok outbound =>
    ({ x with outbound }.report .debug "response sent"
        [("worker", .num counters.id), ("status", .num response.status.code),
         ("bytes", .num bytes.length)],
      .ok ⟨kind, bytes.length⟩)

/-- Reads the request, parses it and drops the body of a `POST`: the plan for it, or the read
error that ended the handling. A head that does not parse is planned as a `400 Bad Request`. -/
def prepare (site : Site) (x : Exchange) : Exchange × Except IoError Plan :=
  match Reading.readHead x.inbound with
  | (inbound, .error e) => ({ x with inbound }, .error e)
  | (inbound, .ok raw) =>
    let x := { x with inbound }
    match Request.parse raw with
    | .error e => (x, .ok (.reject .badRequest e.message))
    | .ok r =>
      let x := x.report .debug "request received"
        [("worker", .num x.counters.id), ("method", .text r.method.word), ("uri", .text r.uri)]
      let plan := Plan.ofRequest site.host site.publicDir r
      if r.method == .post then
        match Reading.discardBody r (raw.length - r.headLen) x.inbound with
        | (inbound, .error e) => ({ x with inbound }, .error e)
        | (inbound, .ok ()) => ({ x with inbound }, .ok plan)
      else (x, .ok plan)

/-- Handles one connection: the state after, and the outcome or the error that ended it. -/
def handle (site : Site) (arrival : Instant) (dispatch : Duration) (x : Exchange) :
    Exchange × Except IoError Outcome :=
  match site.prepare x with
  | (x, .error e) => (x, .error e)
  | (x, .ok plan) => site.answer arrival dispatch x plan

end Site

end PoolServer
