/-!
# The reader/writer lock

The shared log sits behind a lock that many readers may hold at once, or one writer alone, and
that prefers writers: a reader waits while a writer holds the lock or waits for it, and a writer
announces itself as waiting before it waits for the readers and the writer inside to leave.

The lock keeps three counts: the readers inside, the writers inside, and the writers waiting. The
functions below are the critical sections of entering and leaving; whether a caller must wait is
`mustWaitToRead` and `mustWaitToWrite`.

Main statements: entering as a writer needs an empty lock and leaves exactly one writer inside; a
reader enters only when no writer is inside or waiting.
-/
namespace PoolServer

/-- The counts a reader/writer lock keeps. -/
structure LockStats where
  activeReaders : Nat := 0
  activeWriters : Nat := 0
  waitingWriters : Nat := 0
  deriving DecidableEq, Repr

namespace LockStats

/-- Nobody inside or waiting. -/
def idle : LockStats := {}

/-- A reader waits while a writer is inside or waiting. -/
def mustWaitToRead (s : LockStats) : Bool := s.waitingWriters > 0 || s.activeWriters > 0

/-- A registered writer waits while anyone is inside. -/
def mustWaitToWrite (s : LockStats) : Bool := s.activeReaders + s.activeWriters > 0

/-- A reader enters. -/
def enterRead (s : LockStats) : LockStats := { s with activeReaders := s.activeReaders + 1 }

/-- A reader leaves. -/
def leaveRead (s : LockStats) : LockStats := { s with activeReaders := s.activeReaders - 1 }

/-- A writer announces itself as waiting. -/
def register (s : LockStats) : LockStats := { s with waitingWriters := s.waitingWriters + 1 }

/-- A registered writer enters. -/
def enterWrite (s : LockStats) : LockStats :=
  { s with waitingWriters := s.waitingWriters - 1, activeWriters := 1 }

/-- The writer leaves. -/
def leaveWrite (s : LockStats) : LockStats := { s with activeWriters := 0 }

/-- A writer that may enter finds nobody inside, and is then alone. -/
theorem enterWrite_alone {s : LockStats} (h : s.mustWaitToWrite = false) :
    (s.enterWrite).activeReaders = 0 ∧ (s.enterWrite).activeWriters = 1 := by
  simp only [mustWaitToWrite, decide_eq_false_iff_not, Nat.not_lt, Nat.le_zero,
    Nat.add_eq_zero_iff] at h
  exact ⟨h.1, rfl⟩

/-- A reader that may enter finds no writer inside or waiting. -/
theorem mustWaitToRead_eq_false {s : LockStats} :
    s.mustWaitToRead = false ↔ s.waitingWriters = 0 ∧ s.activeWriters = 0 := by
  simp [mustWaitToRead]

/-- A registered writer that may enter finds nobody inside. -/
theorem mustWaitToWrite_eq_false {s : LockStats} :
    s.mustWaitToWrite = false ↔ s.activeReaders = 0 ∧ s.activeWriters = 0 := by
  simp [mustWaitToWrite]

/-! How each critical section changes whether readers and writers must wait. -/

@[simp] theorem mustWaitToRead_enterRead (s : LockStats) :
    s.enterRead.mustWaitToRead = s.mustWaitToRead := rfl

@[simp] theorem mustWaitToRead_leaveRead (s : LockStats) :
    s.leaveRead.mustWaitToRead = s.mustWaitToRead := rfl

@[simp] theorem mustWaitToRead_register (s : LockStats) : s.register.mustWaitToRead = true := by
  simp [mustWaitToRead, register]

@[simp] theorem mustWaitToRead_enterWrite (s : LockStats) :
    s.enterWrite.mustWaitToRead = true := by
  simp [mustWaitToRead, enterWrite]

@[simp] theorem mustWaitToWrite_enterRead (s : LockStats) :
    s.enterRead.mustWaitToWrite = true := by
  simp only [mustWaitToWrite, enterRead]
  exact decide_eq_true (by omega)

@[simp] theorem mustWaitToWrite_register (s : LockStats) :
    s.register.mustWaitToWrite = s.mustWaitToWrite := rfl

@[simp] theorem mustWaitToWrite_enterWrite (s : LockStats) :
    s.enterWrite.mustWaitToWrite = true := by
  simp [mustWaitToWrite, enterWrite]

end LockStats

end PoolServer
