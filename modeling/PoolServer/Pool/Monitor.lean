import PoolServer.Queue.Monitor
import PoolServer.Worker.Report
/-!
# The worker pool as a monitor

The pool starts `n` workers, numbered from 1, on one shared queue. Each worker loops: it calls
`dequeue`; given a request it hands it to the handler, which counts one kind in the worker's
counters, and then drops the request's connection; told that the queue is closed, it leaves the
loop and returns its counters. Producers put requests in with `enqueue`. `shutdown` closes the
queue, joins the workers in the order they were started, keeping the counters each returns, and
builds the report from them.

This module follows every thread through these steps, on top of the queue monitor's own. Queue
threads `0` to `n - 1` are the workers (the worker on thread `w` has id `w + 1`), thread `n` runs
`shutdown`, and the threads after it are producers. A step of the queue shows the queue's event;
the handler, the drop, each join and the report are steps of the pool. The handler is any
handler that returns and counts exactly one kind per request; which kind is its choice.
-/
namespace PoolServer

namespace PoolMonitor

/-- Where a worker stands in its loop. -/
inductive Stage (α : Type) where
  /-- At the head of the loop, or inside `dequeue`. -/
  | looping
  /-- Holding request `x`, about to hand it to the handler. -/
  | handling (x : α)
  /-- The handler is done with `x`; about to drop its connection. -/
  | dropping (x : α)
  /-- Out of the loop, its counters returned. -/
  | stopped
  deriving Repr

/-- A worker: its counters and where it stands. -/
structure Worker (α : Type) where
  ctx : Counters
  stage : Stage α
  deriving Repr

/-- Where `shutdown` stands. -/
inductive Shutdown where
  /-- Not called yet. -/
  | running
  /-- Inside `close`. -/
  | closing
  /-- The queue is closed; the counters of the workers joined so far, in order. -/
  | joining (got : List Counters)
  /-- Returned the report. -/
  | returned (r : Report)
  deriving Repr

/-- What a step shows outside the pool. -/
inductive Event (α : Type) where
  /-- A step of the queue. -/
  | queue (e : QueueMonitor.Event α)
  /-- The worker on thread `w` handed request `x` to the handler, which counted kind `k`. -/
  | handled (w : Nat) (x : α) (k : Kind)
  /-- The worker on thread `w` dropped the connection of request `x`. -/
  | dropped (w : Nat) (x : α)
  /-- `shutdown` joined the worker on thread `w`. -/
  | joined (w : Nat)
  /-- `shutdown` returned report `r`. -/
  | finished (r : Report)
  deriving Repr

end PoolMonitor

/-- The queue with the phase of every thread, the workers by thread, and `shutdown`. -/
structure PoolMonitor (α : Type) where
  queue : QueueMonitor α
  workers : List (PoolMonitor.Worker α)
  shutdown : PoolMonitor.Shutdown
  deriving Repr

namespace PoolMonitor

variable {α : Type}

/-- `n` fresh workers and `p` producers on a queue fresh from `new?`; `shutdown` not called. -/
def init (q : BoundedQueue α) (n p : Nat) : PoolMonitor α :=
  ⟨QueueMonitor.init q (n + 1 + p), (List.range n).map fun w => ⟨Counters.new (w + 1), .looping⟩,
    .running⟩

/-- One step of one thread. -/
inductive Step : PoolMonitor α → Event α → PoolMonitor α → Prop
  /-- A worker at the head of its loop calls `dequeue`. -/
  | callDequeue {s : PoolMonitor α} {w : Nat} {c : Counters}
      (hw : s.workers[w]? = some ⟨c, .looping⟩) (ht : s.queue.threads[w]? = some .idle) :
      Step s (.queue .silent)
        { s with queue := { s.queue with threads := s.queue.threads.set w (.entering .dequeue) } }
  /-- A producer calls `enqueue`. -/
  | callEnqueue {s : PoolMonitor α} {t : Nat} (x : α) (hp : s.workers.length < t)
      (ht : s.queue.threads[t]? = some .idle) :
      Step s (.queue .silent)
        { s with queue :=
            { s.queue with threads := s.queue.threads.set t (.entering (.enqueue x)) } }
  /-- `shutdown` calls `close`. -/
  | callClose {s : PoolMonitor α} (hs : s.shutdown = .running)
      (ht : s.queue.threads[s.workers.length]? = some .idle) :
      Step s (.queue .silent)
        { s with queue := { s.queue with threads := s.queue.threads.set s.workers.length .closing },
                 shutdown := .closing }
  /-- The queue moves a thread inside its call, without starting a call and without returning to
  a worker or to `shutdown`: parking, waking, a producer's call returning, `close` at work. -/
  | inside {s : PoolMonitor α} {e : QueueMonitor.Event α} {q : QueueMonitor α}
      (h : QueueMonitor.Step s.queue e q)
      (he : e = .silent ∨ (∃ t, e = .shut t) ∨
        ∃ t c r, s.workers.length < t ∧ e = .replied t c r)
      (hin : ∀ t : Nat, s.queue.threads[t]? = some .idle → q.threads[t]? = some .idle) :
      Step s (.queue e) { s with queue := q }
  /-- A worker's `dequeue` returns a request. -/
  | take {s : PoolMonitor α} {w : Nat} {c : Counters} {x : α} {q : QueueMonitor α}
      (hw : s.workers[w]? = some ⟨c, .looping⟩)
      (h : QueueMonitor.Step s.queue (.replied w .dequeue (.item x)) q) :
      Step s (.queue (.replied w .dequeue (.item x)))
        { s with queue := q, workers := s.workers.set w ⟨c, .handling x⟩ }
  /-- A worker's `dequeue` reports the queue closed, and the worker leaves its loop. -/
  | stop {s : PoolMonitor α} {w : Nat} {c : Counters} {err : QueueError α} {q : QueueMonitor α}
      (hw : s.workers[w]? = some ⟨c, .looping⟩)
      (h : QueueMonitor.Step s.queue (.replied w .dequeue (.refused err)) q) :
      Step s (.queue (.replied w .dequeue (.refused err)))
        { s with queue := q, workers := s.workers.set w ⟨c, .stopped⟩ }
  /-- `close` returns to `shutdown`, which starts joining. -/
  | closeReturns {s : PoolMonitor α} {q : QueueMonitor α} (hs : s.shutdown = .closing)
      (h : QueueMonitor.Step s.queue (.closed s.workers.length) q) :
      Step s (.queue (.closed s.workers.length)) { s with queue := q, shutdown := .joining [] }
  /-- The handler serves a worker's request and counts one kind. -/
  | handle {s : PoolMonitor α} {w : Nat} {c : Counters} {x : α} (k : Kind)
      (hw : s.workers[w]? = some ⟨c, .handling x⟩) :
      Step s (.handled w x k) { s with workers := s.workers.set w ⟨c.record k, .dropping x⟩ }
  /-- The worker drops the request's connection and goes back to the head of its loop. -/
  | drop {s : PoolMonitor α} {w : Nat} {c : Counters} {x : α}
      (hw : s.workers[w]? = some ⟨c, .dropping x⟩) :
      Step s (.dropped w x) { s with workers := s.workers.set w ⟨c, .looping⟩ }
  /-- `shutdown` joins the next worker once it has left its loop, and keeps its counters. -/
  | join {s : PoolMonitor α} {got : List Counters} {c : Counters}
      (hs : s.shutdown = .joining got) (hw : s.workers[got.length]? = some ⟨c, .stopped⟩) :
      Step s (.joined got.length) { s with shutdown := .joining (got ++ [c]) }
  /-- Every worker joined, `shutdown` builds the report and returns it. -/
  | finish {s : PoolMonitor α} {got : List Counters} (hs : s.shutdown = .joining got)
      (hn : got.length = s.workers.length) :
      Step s (.finished (Report.ofWorkers got))
        { s with shutdown := .returned (Report.ofWorkers got) }

end PoolMonitor

end PoolServer
