import PoolServer.Site.Handle
import PoolServer.Journal.Monitor
/-!
# Workers handling connections over the shared log

Workers handle their connections at the same time, over one shared log. A worker handles a
connection in the steps of `Site.handle`, but the two calls it makes on the log are calls on the
log monitor, and other workers move between the steps of those calls:
1. it reads the request, parses it and plans it, counts it by the plan's kind and stamps it with
   its statistics;
2. it carries the plan out. A dump calls the log's `snapshot`, and its response is built from the
   bytes the call returns. Any other plan builds its response without the log; when a file or a
   program was served with `200 OK`, the worker then calls the log's `append` with the stamp's
   record, and goes on once the call returns or is refused;
3. it writes the stamped response, and the handling ends.

A failed read or write ends the handling at once. This module follows every worker through these
steps, on top of the log monitor's own: worker `w` is thread `w` of the log, and every step of the
log shows the log's event. The files and the programs are the site's host's, and the connections,
with the time each arrived and was dispatched, are chosen by the step that takes them. The log
monitor grants every reservation of memory, so a dump here always comes to the log's bytes.
-/
namespace PoolServer

namespace SiteMonitor

/-- Where a worker stands in handling a connection. -/
inductive Stage where
  /-- Between connections. -/
  | idle
  /-- The request is planned, counted and stamped; the plan is still to be carried out. -/
  | planned (plan : Plan) (stamp : Stamp)
  /-- Inside the log's `snapshot`, for a dump. -/
  | dumping (stamp : Stamp)
  /-- Inside the log's `append` of the stamp's record; the response is ready. -/
  | appending (kind : Kind) (stamp : Stamp) (response : Response)
  /-- The stamped response is ready to be written. -/
  | sending (kind : Kind) (stamp : Stamp) (response : Response)

/-- A worker: its exchange with the connection it handles, and where it stands. -/
structure Worker where
  exchange : Exchange
  stage : Stage

/-- What a step shows outside. -/
inductive Event where
  /-- A step of the log inside a worker's call on it. -/
  | log (e : LogMonitor.Event)
  /-- Worker `w` read, parsed and planned a request. -/
  | planned (w : Nat) (plan : Plan)
  /-- Worker `w` carried out a plan other than a dump, and its response is not logged. -/
  | executed (w : Nat) (plan : Plan)
  /-- Worker `w` wrote the response `response`, stamped with `stamp`, to a request of kind
  `kind`. -/
  | sent (w : Nat) (kind : Kind) (stamp : Stamp) (response : Response)
  /-- Reading or writing the connection of worker `w` failed. -/
  | failed (w : Nat) (e : IoError)

/-- The event of the log a step shows, if it is a step of the log. -/
def Event.log? : Event → Option LogMonitor.Event
  | .log e => some e
  | _ => none

end SiteMonitor

/-- The log monitor and every worker. -/
structure SiteMonitor where
  log : LogMonitor
  workers : List SiteMonitor.Worker

namespace SiteMonitor

/-- `n` workers, numbered from 1, with fresh counters and no connection yet, over a fresh log. -/
def init (n : Nat) : SiteMonitor :=
  ⟨LogMonitor.init n, (List.range n).map fun w =>
    ⟨{ inbound := { pending := [] }, counters := Counters.new (w + 1), journal := {} }, .idle⟩⟩

/-- The response a plan other than a dump comes to, and the warnings on the way. Such a plan does
not read the log, so no log is given. -/
def serve (site : Site) (plan : Plan) : Response × List PoolServer.Event :=
  site.execute {} plan

/-- A plan other than a dump comes to the same response whatever the log holds. -/
theorem execute_eq_serve {site : Site} {p : Plan} (hp : p ≠ .dump) (j : Journal) :
    site.execute j p = serve site p := by
  cases p with
  | dump => exact absurd rfl hp
  | _ => rfl

/-- One step of one worker. -/
inductive Step (site : Site) : SiteMonitor → Event → SiteMonitor → Prop
  /-- An idle worker takes a connection, and reading its request fails. -/
  | unread {s : SiteMonitor} {w : Nat} {x x' : Exchange} (inbound : Inbound) (outbound : Outbound)
      {e : IoError} (hw : s.workers[w]? = some ⟨x, .idle⟩)
      (hp : site.prepare { x with inbound := inbound, outbound := outbound } = (x', .error e)) :
      Step site s (.failed w e) ⟨s.log, s.workers.set w ⟨x', .idle⟩⟩
  /-- An idle worker takes a connection that arrived at `arrival` and was dispatched after
  `dispatch`, reads and plans its request, counts it by the plan's kind, and stamps it. -/
  | plan {s : SiteMonitor} {w : Nat} {x x' : Exchange} (inbound : Inbound) (outbound : Outbound)
      (arrival : Instant) (dispatch : Duration) {p : Plan}
      (hw : s.workers[w]? = some ⟨x, .idle⟩)
      (hp : site.prepare { x with inbound := inbound, outbound := outbound } = (x', .ok p)) :
      Step site s (.planned w p)
        ⟨s.log, s.workers.set w
          ⟨{ x' with counters := x'.counters.record p.kind },
            .planned p (Stamp.capture arrival dispatch (x'.counters.record p.kind))⟩⟩
  /-- A worker carries out a plan other than a dump; the stamped response is not logged, so it is
  ready to be written. -/
  | execute {s : SiteMonitor} {w : Nat} {x : Exchange} {p : Plan} {st : Stamp}
      (hw : s.workers[w]? = some ⟨x, .planned p st⟩) (hp : p ≠ .dump)
      (hl : Site.logged p.kind (st.apply (serve site p).1).status = false) :
      Step site s (.executed w p)
        ⟨s.log, s.workers.set w
          ⟨{ x with events := x.events ++ (serve site p).2 },
            .sending p.kind st (st.apply (serve site p).1)⟩⟩
  /-- A worker carries out a plan other than a dump; the stamped response is logged, so the
  worker calls the log's `append` with the stamp's record. -/
  | record {s : SiteMonitor} {w : Nat} {x : Exchange} {p : Plan} {st : Stamp} {l : LogMonitor}
      (hw : s.workers[w]? = some ⟨x, .planned p st⟩) (hp : p ≠ .dump)
      (hl : Site.logged p.kind (st.apply (serve site p).1).status = true)
      (h : LogMonitor.Step s.log (.called w (.append (Utf8.encode st.record))) l) :
      Step site s (.log (.called w (.append (Utf8.encode st.record))))
        ⟨l, s.workers.set w
          ⟨{ x with events := x.events ++ (serve site p).2 },
            .appending p.kind st (st.apply (serve site p).1)⟩⟩
  /-- As `record`, but the log refuses the record, and the worker reports it; the response is
  written all the same. -/
  | unrecorded {s : SiteMonitor} {w : Nat} {x : Exchange} {p : Plan} {st : Stamp}
      {e : LogError} (hw : s.workers[w]? = some ⟨x, .planned p st⟩) (hp : p ≠ .dump)
      (hl : Site.logged p.kind (st.apply (serve site p).1).status = true)
      (h : LogMonitor.Step s.log (.refused w (.append (Utf8.encode st.record)) e) s.log) :
      Step site s (.log (.refused w (.append (Utf8.encode st.record)) e))
        ⟨s.log, s.workers.set w
          ⟨{ x with
              events := x.events ++ (serve site p).2 ++
                [Site.warning "failed to append to the log"
                  [("worker", .num x.counters.id), ("error", .text e.message)]] },
            .sending p.kind st (st.apply (serve site p).1)⟩⟩
  /-- A worker with a dump calls the log's `snapshot`. -/
  | dump {s : SiteMonitor} {w : Nat} {x : Exchange} {st : Stamp} {l : LogMonitor}
      (hw : s.workers[w]? = some ⟨x, .planned .dump st⟩)
      (h : LogMonitor.Step s.log (.called w .snapshot) l) :
      Step site s (.log (.called w .snapshot)) ⟨l, s.workers.set w ⟨x, .dumping st⟩⟩
  /-- The log moves a worker inside its call: the lock's own steps, the admission, and the work
  under the guard. -/
  | inside {s : SiteMonitor} {e : LogMonitor.Event} {l : LogMonitor}
      (h : LogMonitor.Step s.log e l)
      (he : (∃ le, e = .lock le) ∨ (∃ t c, e = .entered t c) ∨ ∃ t c, e = .worked t c) :
      Step site s (.log e) ⟨l, s.workers⟩
  /-- The log's `snapshot` returns the bytes `b` to a dumping worker, whose response is the dump
  of those bytes, stamped. -/
  | dumped {s : SiteMonitor} {w : Nat} {x : Exchange} {st : Stamp} {b : Bytes} {l : LogMonitor}
      (hw : s.workers[w]? = some ⟨x, .dumping st⟩)
      (h : LogMonitor.Step s.log (.replied w .snapshot (.bytes b)) l) :
      Step site s (.log (.replied w .snapshot (.bytes b)))
        ⟨l, s.workers.set w ⟨x, .sending .post st (st.apply (Response.content b "text/plain"))⟩⟩
  /-- The log's `append` returns to the worker, whose response is ready to be written. -/
  | appended {s : SiteMonitor} {w : Nat} {x : Exchange} {k : Kind} {st : Stamp}
      {resp : Response} {d : Bytes} {r : LogMonitor.Reply} {l : LogMonitor}
      (hw : s.workers[w]? = some ⟨x, .appending k st resp⟩)
      (h : LogMonitor.Step s.log (.replied w (.append d) r) l) :
      Step site s (.log (.replied w (.append d) r)) ⟨l, s.workers.set w ⟨x, .sending k st resp⟩⟩
  /-- A worker writes its response, and the handling ends. -/
  | send {s : SiteMonitor} {w : Nat} {x : Exchange} {k : Kind} {st : Stamp} {resp : Response}
      {o : Outbound} (hw : s.workers[w]? = some ⟨x, .sending k st resp⟩)
      (ho : x.outbound.writeAll resp.toBytes = .ok o) :
      Step site s (.sent w k st resp)
        ⟨s.log, s.workers.set w
          ⟨{ x with outbound := o }.report .debug "response sent"
              [("worker", .num x.counters.id), ("status", .num resp.status.code),
               ("bytes", .num resp.toBytes.length)],
            .idle⟩⟩
  /-- Writing a worker's response fails, and the handling ends. -/
  | unsent {s : SiteMonitor} {w : Nat} {x : Exchange} {k : Kind} {st : Stamp} {resp : Response}
      {e : IoError} (hw : s.workers[w]? = some ⟨x, .sending k st resp⟩)
      (ho : x.outbound.writeAll resp.toBytes = .error e) :
      Step site s (.failed w e) ⟨s.log, s.workers.set w ⟨x, .idle⟩⟩

end SiteMonitor

end PoolServer
