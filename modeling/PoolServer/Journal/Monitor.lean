import PoolServer.Journal.Basic
import PoolServer.Lock.Monitor
/-!
# The log as a monitor

The shared log keeps its records behind the reader/writer lock. This module follows every thread
through its calls on the log, on top of the lock's own steps. `append` refuses an empty record
before it touches the lock; otherwise it takes the lock as a writer, links its record at the end,
and drops the guard. `snapshot` and `len` take the lock as a reader, read the records, and drop
the guard. What happens inside the lock (parking, waking, a writer counting itself as waiting) is
a step of the lock monitor; admission, the work under the guard and the release are steps of
their own, so the work is a stretch between the admission and the release, as in the code.

A thread's task says where it stands in its call: not in one, waiting for its guard, holding it,
or done with its work and about to return. Threads are numbered as in the lock.

Every reservation of memory the calls make is granted here: the record's copy, its slot, and a
dump's buffer. Refused reservations are followed by the sequential log (`Journal.append`,
`Journal.snapshot?`).
-/
namespace PoolServer

namespace LogMonitor

open LockMonitor (Phase)

/-- A call on the log. -/
inductive Call where
  | append (data : Bytes)
  | snapshot
  | size
  deriving DecidableEq, Repr

/-- What a call returns. -/
inductive Reply where
  /-- The record was appended. -/
  | appended
  /-- All records joined, oldest first. -/
  | bytes (b : Bytes)
  /-- The number of records. -/
  | count (n : Nat)
  deriving DecidableEq, Repr

namespace Call

/-- Why the call is refused before it takes the lock, if it is. -/
def refusal : Call → Option LogError
  | .append d => if d.isEmpty then some .emptyRecord else none
  | _ => none

/-- Whether the call takes the lock as a writer. -/
def writes : Call → Bool
  | .append _ => true
  | _ => false

/-- Where a thread stands in the lock as it starts the call. -/
def entry (c : Call) : Phase := if c.writes then .writeEntering else .readEntering

/-- Where a thread stands in the lock while it holds the guard the call needs. -/
def guard (c : Call) : Phase := if c.writes then .writing else .reading

/-- The lock's event for thread `t` getting the guard the call needs. -/
def admission (c : Call) (t : Nat) : LockMonitor.Event :=
  if c.writes then .writerIn t else .readerIn t

/-- The lock's event for thread `t` dropping the guard the call holds. -/
def release (c : Call) (t : Nat) : LockMonitor.Event :=
  if c.writes then .writerOut t else .readerOut t

/-- Where a thread in the call can stand in the lock before it is admitted. -/
def waiting (c : Call) : Phase → Bool
  | .readEntering | .readParked | .readWoken => !c.writes
  | .writeEntering | .writeParked | .writeWoken => c.writes
  | _ => false

/-- The work the call does under its guard: the log after it, and what the call returns. -/
def work : Call → Journal → Journal × Reply
  | .append d, j => (⟨j.records ++ [d]⟩, .appended)
  | .snapshot, j => (j, .bytes j.snapshot)
  | .size, j => (j, .count j.size)

end Call

/-- Where a thread stands in its call on the log. -/
inductive Task where
  /-- Not inside a call. -/
  | idle
  /-- Inside call `c`, not yet admitted by the lock. -/
  | calling (c : Call)
  /-- Inside call `c`, holding its guard, the work not yet done. -/
  | inside (c : Call)
  /-- Inside call `c`, holding its guard, the work done; it returns `r`. -/
  | done (c : Call) (r : Reply)
  deriving DecidableEq, Repr

/-- What a step shows outside the log. -/
inductive Event where
  /-- A step of the lock inside a call: parking, waking, a writer counting itself as waiting. -/
  | lock (e : LockMonitor.Event)
  /-- Thread `t` called `c` and heads for the lock. -/
  | called (t : Nat) (c : Call)
  /-- Thread `t` got the guard its call `c` needs. -/
  | entered (t : Nat) (c : Call)
  /-- Thread `t` did the work of `c` under its guard. -/
  | worked (t : Nat) (c : Call)
  /-- Thread `t` dropped its guard and returned `r` from `c`. -/
  | replied (t : Nat) (c : Call) (r : Reply)
  /-- Thread `t` was refused `c` without touching the lock. -/
  | refused (t : Nat) (c : Call) (e : LogError)
  deriving DecidableEq, Repr

end LogMonitor

/-- The lock, the records it guards, and what every thread is doing with the log. -/
structure LogMonitor where
  lock : LockMonitor
  journal : Journal
  tasks : List LogMonitor.Task
  deriving Repr

namespace LogMonitor

/-- A fresh log with `n` threads, none of which has called yet. -/
def init (n : Nat) : LogMonitor := ⟨LockMonitor.init n, {}, List.replicate n .idle⟩

/-- One step of one thread. -/
inductive Step : LogMonitor → Event → LogMonitor → Prop
  /-- An idle thread calls and is refused on the spot; nothing changes. -/
  | refuse {s : LogMonitor} {t : Nat} {c : Call} {e : LogError}
      (ht : s.tasks[t]? = some .idle) (hc : c.refusal = some e) :
      Step s (.refused t c e) s
  /-- An idle thread calls and heads for the lock. -/
  | call {s : LogMonitor} {t : Nat} {c : Call} (ht : s.tasks[t]? = some .idle)
      (hl : s.lock.threads[t]? = some .idle) (hc : c.refusal = none) :
      Step s (.called t c)
        { s with lock := { s.lock with threads := s.lock.threads.set t c.entry },
                 tasks := s.tasks.set t (.calling c) }
  /-- The lock moves a thread inside its call without admitting or releasing anyone; no thread
  starts a lock call but through a call on the log. -/
  | lock {s : LogMonitor} {e : LockMonitor.Event} {l : LockMonitor}
      (h : LockMonitor.Step s.lock e l) (he : e = .silent ∨ ∃ u, e = .writerWaits u)
      (hin : ∀ u : Nat, s.lock.threads[u]? = some LockMonitor.Phase.idle →
        l.threads[u]? = some LockMonitor.Phase.idle) :
      Step s (.lock e) { s with lock := l }
  /-- The lock admits a calling thread with the guard its call needs. -/
  | enter {s : LogMonitor} {t : Nat} {c : Call} {l : LockMonitor}
      (ht : s.tasks[t]? = some (.calling c)) (h : LockMonitor.Step s.lock (c.admission t) l) :
      Step s (.entered t c) { s with lock := l, tasks := s.tasks.set t (.inside c) }
  /-- A thread holding its guard does its call's work. -/
  | work {s : LogMonitor} {t : Nat} {c : Call} (ht : s.tasks[t]? = some (.inside c)) :
      Step s (.worked t c)
        { s with journal := (c.work s.journal).1,
                 tasks := s.tasks.set t (.done c (c.work s.journal).2) }
  /-- A thread whose work is done drops its guard and returns. -/
  | leave {s : LogMonitor} {t : Nat} {c : Call} {r : Reply} {l : LockMonitor}
      (ht : s.tasks[t]? = some (.done c r)) (h : LockMonitor.Step s.lock (c.release t) l) :
      Step s (.replied t c r) { s with lock := l, tasks := s.tasks.set t .idle }

end LogMonitor

end PoolServer
