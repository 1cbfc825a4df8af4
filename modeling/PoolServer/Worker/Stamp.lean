import PoolServer.Worker.Counters
import PoolServer.Time.Duration
import PoolServer.Http.Response
/-!
# Request statistics

Every answered request is stamped with seven statistics: when it arrived, how long it waited for
a worker, and the worker's id and counters after counting it. They go into the response as header
lines whose names end in a colon (so they read `Stat-Req-Arrival:: 1700000000.000005`), and the
same lines, one block per request, are what the shared log records.
-/
namespace PoolServer

/-- The statistics of one request. -/
structure Stamp where
  arrival : Duration
  dispatch : Duration
  worker : Counters
  deriving Repr

namespace Stamp

/-- Takes the statistics of a request from its arrival, its wait and the worker's counters. -/
def capture (arrival : Instant) (dispatch : Duration) (worker : Counters) : Stamp :=
  ⟨arrival.sinceEpoch, dispatch, worker⟩

/-- The seven statistics, named, in their fixed order. -/
def fields (s : Stamp) : List (String × String) :=
  [("Stat-Req-Arrival", s.arrival.timeval),
   ("Stat-Req-Dispatch", s.dispatch.timeval),
   ("Stat-Thread-Id", Decimal.text s.worker.id),
   ("Stat-Thread-Count", Decimal.text s.worker.total),
   ("Stat-Thread-Static", Decimal.text s.worker.static),
   ("Stat-Thread-Dynamic", Decimal.text s.worker.dynamic),
   ("Stat-Thread-Post", Decimal.text s.worker.post)]

/-- Adds the statistics to a response as header lines named `<field>:`. -/
def apply (s : Stamp) (r : Response) : Response :=
  s.fields.foldl (fun r (n, v) => r.addHeader (n ++ ":") v) r

/-- The log record: one line `<field>:: <value>` per statistic. -/
def record (s : Stamp) : String :=
  String.join (s.fields.map fun (n, v) => n ++ ":: " ++ v ++ "\r\n")

/-- Adding header lines named `<name>:` writes, after the lines already there, one line
`<name>:: <value>` per field: the printer's `: ` completes the double colon. -/
theorem headText_addFields (fs : List (String × String)) (r : Response) :
    (fs.foldl (fun r (n, v) => r.addHeader (n ++ ":") v) r).headText =
      r.headText ++ String.join (fs.map fun (n, v) => n ++ ":: " ++ v ++ "\r\n") := by
  induction fs generalizing r with
  | nil => simp
  | cons f fs ih =>
    obtain ⟨n, v⟩ := f
    have hcolon : ":" ++ (": " ++ (v ++ "\r\n")) = ":: " ++ (v ++ "\r\n") := by
      rw [← String.append_assoc]
      rfl
    simp only [List.foldl_cons, ih, Response.headText_addHeader, List.map_cons, String.join_cons,
      String.append_assoc, hcolon]

/-- The statistics follow the response's own header lines as the record's lines. -/
theorem headText_apply (s : Stamp) (r : Response) : (s.apply r).headText = r.headText ++ s.record :=
  headText_addFields s.fields r

/-- Header lines leave the status and the body alone. -/
theorem addFields_status_body (fs : List (String × String)) (r : Response) :
    (fs.foldl (fun r (n, v) => r.addHeader (n ++ ":") v) r).status = r.status ∧
      (fs.foldl (fun r (n, v) => r.addHeader (n ++ ":") v) r).body = r.body := by
  induction fs generalizing r with
  | nil => simp
  | cons f fs ih => simpa using ih (r.addHeader (f.1 ++ ":") f.2)

@[simp] theorem apply_status (s : Stamp) (r : Response) : (s.apply r).status = r.status :=
  (addFields_status_body s.fields r).1

@[simp] theorem apply_body (s : Stamp) (r : Response) : (s.apply r).body = r.body :=
  (addFields_status_body s.fields r).2

/-- A record is never empty: it starts with the arrival line. -/
theorem record_ne_empty (s : Stamp) : s.record ≠ "" := by
  simp [record, fields, String.join_cons]

end Stamp

end PoolServer
