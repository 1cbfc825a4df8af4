import PoolServer.Journal.Basic
import PoolServer.Lock.Basic
/-!
# The log behind its lock

Workers share one log. Appending takes the lock as a writer, and reading the records (a dump or
their number) takes it as a reader; an empty record is refused before the lock is touched. Each
call here is one whole visit: the caller enters, does its work and leaves, so between calls the
lock is as it was.

Main statement: a visit leaves the lock's counts unchanged.
-/
namespace PoolServer

/-- The log's records and the counts of the lock that guards them. -/
structure SharedLog where
  journal : Journal := {}
  stats : LockStats := {}
  deriving Repr

namespace SharedLog

/-- A writer's visit: announce, enter, leave. -/
def writeVisit (s : LockStats) : LockStats := s.register.enterWrite.leaveWrite

/-- A reader's visit: enter, leave. -/
def readVisit (s : LockStats) : LockStats := s.enterRead.leaveRead

/-- A writer's visit, made when no writer is inside, leaves the counts as they were. -/
theorem writeVisit_eq {s : LockStats} (h : s.activeWriters = 0) : writeVisit s = s := by
  cases s
  simp_all [writeVisit, LockStats.register, LockStats.enterWrite, LockStats.leaveWrite]

/-- A reader's visit leaves the counts as they were. -/
@[simp] theorem readVisit_eq (s : LockStats) : readVisit s = s := by
  simp [readVisit, LockStats.enterRead, LockStats.leaveRead]

/-- Appends a record as a writer; an empty record, or one whose memory is not reserved, is refused
and leaves the log and the lock's counts as they were. -/
def append (l : SharedLog) (reserve : Nat → Bool) (data : Bytes) :
    SharedLog × Except LogError Unit :=
  match l.journal.append reserve data with
  | .ok j => ({ journal := j, stats := writeVisit l.stats }, .ok ())
  | .error e => (l, .error e)

/-- All records joined, read as a reader. -/
def snapshot (l : SharedLog) : Bytes := l.journal.snapshot

/-- The number of records, read as a reader. -/
def size (l : SharedLog) : Nat := l.journal.size

/-- The lock's counts. -/
def lockStats (l : SharedLog) : LockStats := l.stats

end SharedLog

end PoolServer
