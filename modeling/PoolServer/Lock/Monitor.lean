import PoolServer.Lock.Basic
/-!
# The reader/writer lock as a monitor

The lock is one mutex over its three counts and two wait conditions: readers wait on
`readAllowed`, writers on `writeAllowed`. This module follows every thread through `read`,
`write` and the release of its guard. A reader takes the mutex and parks while a writer is
inside or waiting, and otherwise counts itself in. A writer counts itself as waiting, then parks
while anyone is inside; once it may enter it stops counting as waiting and becomes the writer
inside. Dropping a guard takes the mutex and counts the holder out: the last reader out wakes one
writer, and a writer going out wakes one writer and every reader.

Every stretch of code under the mutex is one step, and so is the release of a guard. A parked
thread leaves its condition when woken or at any moment on its own (a spurious wake-up), and
then contends for the mutex with everyone else. Waking one writer picks any parked writer, and
does nothing when none is parked.

A thread here makes one call at a time and holds at most one guard. The lock never asks which
thread holds a guard, so a program thread holding several guards at once, or handing one to
another thread, is followed by as many threads here as it has calls in progress or guards alive.

The value the lock guards is left out: no step reads or changes it apart from the holder of a
guard, and the counts do not depend on it.
-/
namespace PoolServer

namespace LockMonitor

/-- Where a thread stands with respect to the lock. -/
inductive Phase where
  /-- Not inside `read` or `write`, and holding no guard. -/
  | idle
  /-- Inside `read`, about to take the mutex for the first time. -/
  | readEntering
  /-- Inside `read`, parked on `readAllowed`. -/
  | readParked
  /-- Inside `read`, woken and about to take the mutex again. -/
  | readWoken
  /-- Holding a read guard. -/
  | reading
  /-- Inside `write`, about to take the mutex and count itself as waiting. -/
  | writeEntering
  /-- Inside `write`, counted as waiting and parked on `writeAllowed`. -/
  | writeParked
  /-- Inside `write`, counted as waiting, woken and about to take the mutex again. -/
  | writeWoken
  /-- Holding the write guard. -/
  | writing
  deriving DecidableEq, Repr

namespace Phase

/-- Whether the thread is inside `write` and counted as waiting. -/
def isRegistered : Phase → Bool
  | .writeParked | .writeWoken => true
  | _ => false

/-- Whether the thread is inside `write`. -/
def inWrite : Phase → Bool
  | .writeEntering | .writeParked | .writeWoken => true
  | _ => false

/-- Wakes the thread if it is a parked reader. -/
def wakeReader : Phase → Phase
  | .readParked => .readWoken
  | p => p

end Phase

/-- What a step shows outside the lock. -/
inductive Event where
  /-- Nothing returns: a call starts, a thread parks or is woken. -/
  | silent
  /-- Thread `t` returned from `read` with a read guard. -/
  | readerIn (t : Nat)
  /-- Thread `t` dropped its read guard. -/
  | readerOut (t : Nat)
  /-- Thread `t`, in `write`, counted itself as waiting and parked. -/
  | writerWaits (t : Nat)
  /-- Thread `t` returned from `write` with the write guard. -/
  | writerIn (t : Nat)
  /-- Thread `t` dropped the write guard. -/
  | writerOut (t : Nat)
  deriving DecidableEq, Repr

/-- Waking one writer parked on `writeAllowed`: any of them, or nothing when none is. -/
inductive WakeWriter : List Phase → List Phase → Prop
  | wake {ts : List Phase} {i : Nat} (hi : ts[i]? = some .writeParked) :
      WakeWriter ts (ts.set i .writeWoken)
  | none {ts : List Phase} (h : Phase.writeParked ∉ ts) : WakeWriter ts ts

end LockMonitor

/-- The counts of the lock and the phase of every thread, by thread number. -/
structure LockMonitor where
  stats : LockStats
  threads : List LockMonitor.Phase
  deriving Repr

namespace LockMonitor

/-- A fresh lock with `n` threads, none of which has called yet. -/
def init (n : Nat) : LockMonitor := ⟨{}, List.replicate n .idle⟩

/-- Wakes every reader parked on `readAllowed`. -/
def wakeReaders (ts : List Phase) : List Phase := ts.map Phase.wakeReader

/-- One step of one thread. -/
inductive Step : LockMonitor → Event → LockMonitor → Prop
  /-- An idle thread calls `read`. -/
  | callRead {s : LockMonitor} {t : Nat} (ht : s.threads[t]? = some .idle) :
      Step s .silent { s with threads := s.threads.set t .readEntering }
  /-- Under the mutex, a reader finds a writer inside or waiting, and parks. -/
  | readerParks {s : LockMonitor} {t : Nat} {p : Phase} (ht : s.threads[t]? = some p)
      (hp : p = .readEntering ∨ p = .readWoken) (hw : s.stats.mustWaitToRead = true) :
      Step s .silent { s with threads := s.threads.set t .readParked }
  /-- Under the mutex, a reader finds no writer inside or waiting, and counts itself in. -/
  | readerEnters {s : LockMonitor} {t : Nat} {p : Phase} (ht : s.threads[t]? = some p)
      (hp : p = .readEntering ∨ p = .readWoken) (hw : s.stats.mustWaitToRead = false) :
      Step s (.readerIn t) ⟨s.stats.enterRead, s.threads.set t .reading⟩
  /-- A reader drops its guard while other readers stay inside. -/
  | readerLeaves {s : LockMonitor} {t : Nat} (ht : s.threads[t]? = some .reading)
      (hr : s.stats.leaveRead.activeReaders ≠ 0) :
      Step s (.readerOut t) ⟨s.stats.leaveRead, s.threads.set t .idle⟩
  /-- The last reader drops its guard and wakes one writer. -/
  | lastReaderLeaves {s : LockMonitor} {t : Nat} {ts : List Phase}
      (ht : s.threads[t]? = some .reading) (hr : s.stats.leaveRead.activeReaders = 0)
      (hw : WakeWriter (s.threads.set t .idle) ts) :
      Step s (.readerOut t) ⟨s.stats.leaveRead, ts⟩
  /-- An idle thread calls `write`. -/
  | callWrite {s : LockMonitor} {t : Nat} (ht : s.threads[t]? = some .idle) :
      Step s .silent { s with threads := s.threads.set t .writeEntering }
  /-- Under the mutex, a writer counts itself as waiting, finds someone inside, and parks. -/
  | writerRegisters {s : LockMonitor} {t : Nat} (ht : s.threads[t]? = some .writeEntering)
      (hw : s.stats.register.mustWaitToWrite = true) :
      Step s (.writerWaits t) ⟨s.stats.register, s.threads.set t .writeParked⟩
  /-- Under the mutex, a writer counts itself as waiting, finds nobody inside, and enters. -/
  | writerEntersAtOnce {s : LockMonitor} {t : Nat} (ht : s.threads[t]? = some .writeEntering)
      (hw : s.stats.register.mustWaitToWrite = false) :
      Step s (.writerIn t) ⟨s.stats.register.enterWrite, s.threads.set t .writing⟩
  /-- Under the mutex, a woken writer finds someone inside and parks again. -/
  | writerParks {s : LockMonitor} {t : Nat} (ht : s.threads[t]? = some .writeWoken)
      (hw : s.stats.mustWaitToWrite = true) :
      Step s .silent { s with threads := s.threads.set t .writeParked }
  /-- Under the mutex, a woken writer finds nobody inside and enters. -/
  | writerEnters {s : LockMonitor} {t : Nat} (ht : s.threads[t]? = some .writeWoken)
      (hw : s.stats.mustWaitToWrite = false) :
      Step s (.writerIn t) ⟨s.stats.enterWrite, s.threads.set t .writing⟩
  /-- The writer drops its guard, wakes one writer and every reader. -/
  | writerLeaves {s : LockMonitor} {t : Nat} {ts : List Phase}
      (ht : s.threads[t]? = some .writing) (hw : WakeWriter (s.threads.set t .idle) ts) :
      Step s (.writerOut t) ⟨s.stats.leaveWrite, wakeReaders ts⟩
  /-- A parked reader wakes up on its own. -/
  | readerWakes {s : LockMonitor} {t : Nat} (ht : s.threads[t]? = some .readParked) :
      Step s .silent { s with threads := s.threads.set t .readWoken }
  /-- A parked writer wakes up on its own. -/
  | writerWakes {s : LockMonitor} {t : Nat} (ht : s.threads[t]? = some .writeParked) :
      Step s .silent { s with threads := s.threads.set t .writeWoken }

/-- The runs of the lock: the events along the way, oldest first, and the state reached. -/
inductive Run : LockMonitor → List Event → LockMonitor → Prop
  | nil {s : LockMonitor} : Run s [] s
  | snoc {s s' s'' : LockMonitor} {tr : List Event} {e : Event} :
      Run s tr s' → Step s' e s'' → Run s (tr ++ [e]) s''

end LockMonitor

end PoolServer
