import PoolServer.Queue.Session
/-!
# The queue as a monitor

The queue is one lock and two wait conditions: takers wait on `notEmpty`, givers on `notFull`.
This module follows every thread through its calls. A caller takes the lock and checks whether
it must wait; if so it parks on its condition, releasing the lock, and otherwise it does its
work, wakes whom it must and returns. A parked thread leaves its condition when another thread
wakes it, or at any moment on its own (a spurious wake-up); it then contends for the lock again,
and any other thread may get there first.

Every stretch of code under the lock is one step. Waking one thread picks any thread parked on
the condition, and does nothing when none is; waking all wakes every thread parked on it. A
finished call wakes one taker when it filled an empty queue or left items behind, and one giver
when it emptied a slot of a full queue or left room after its own item. `close` sets the flag
under the lock and wakes both conditions after releasing it, so those are steps of their own.

A giver that may go ahead reserves room for one more item first. The storage holds `capacity`
items from the start; only a reservation past it has to grow the storage, which can fail and
hands the item back.
-/
namespace PoolServer

namespace QueueMonitor

/-- The two wait conditions of the queue. -/
inductive Cond where
  /-- Takers wait here for an item. -/
  | notEmpty
  /-- Givers wait here for room. -/
  | notFull
  deriving DecidableEq, Repr

end QueueMonitor

namespace Call

variable {α : Type}

/-- The condition a call waits on. -/
def cond : Call α → QueueMonitor.Cond
  | .enqueue _ => .notFull
  | .dequeue => .notEmpty

@[simp] theorem cond_enqueue (x : α) : (Call.enqueue x).cond = .notFull := rfl

@[simp] theorem cond_dequeue : (Call.dequeue : Call α).cond = .notEmpty := rfl

end Call

namespace QueueMonitor

/-- Where a thread stands with respect to the queue. -/
inductive Phase (α : Type) where
  /-- Not inside a call. -/
  | idle
  /-- Inside `enqueue` or `dequeue`, about to take the lock for the first time. -/
  | entering (c : Call α)
  /-- Parked on the condition of its call, the lock released. -/
  | parked (c : Call α)
  /-- Woken from its wait, about to take the lock again and check. -/
  | woken (c : Call α)
  /-- Inside `close`, about to take the lock. -/
  | closing
  /-- Inside `close` with the flag set, about to wake the takers. -/
  | wakingTakers
  /-- Inside `close`, about to wake the givers. -/
  | wakingGivers
  deriving Repr

namespace Phase

variable {α : Type}

/-- The call of a thread about to take the lock and check its wait. -/
def pending : Phase α → Option (Call α)
  | .entering c | .woken c => some c
  | _ => none

/-- Whether the thread is parked on `w`. -/
def isParkedOn (w : Cond) : Phase α → Bool
  | .parked c => decide (c.cond = w)
  | _ => false

/-- Whether the thread was woken from `w` and has not checked since. -/
def isWokenOn (w : Cond) : Phase α → Bool
  | .woken c => decide (c.cond = w)
  | _ => false

/-- Wakes the thread if it is parked on `w`. -/
def wakeOn (w : Cond) : Phase α → Phase α
  | .parked c => if c.cond = w then .woken c else .parked c
  | p => p

@[simp] theorem pending_eq_some {p : Phase α} {c : Call α} :
    p.pending = some c ↔ p = .entering c ∨ p = .woken c := by
  cases p <;> simp [pending]

@[simp] theorem isParkedOn_parked (w : Cond) (c : Call α) :
    (Phase.parked c).isParkedOn w = decide (c.cond = w) := rfl

@[simp] theorem isWokenOn_woken (w : Cond) (c : Call α) :
    (Phase.woken c).isWokenOn w = decide (c.cond = w) := rfl

/-- A thread about to check is woken at most from the condition of its own call. -/
theorem cond_of_isWokenOn {p : Phase α} {c : Call α} {w : Cond} (hp : p.pending = some c)
    (h : p.isWokenOn w = true) : c.cond = w := by
  rcases pending_eq_some.1 hp with rfl | rfl <;> simp_all [isWokenOn]

/-- After waking all of `w`, nobody is parked on it. -/
theorem isParkedOn_wakeOn (w : Cond) (p : Phase α) : (p.wakeOn w).isParkedOn w = false := by
  cases p with
  | parked c => by_cases h : c.cond = w <;> simp [wakeOn, isParkedOn, h]
  | _ => rfl

end Phase

/-- What a step shows outside the queue. -/
inductive Event (α : Type) where
  /-- Nothing is returned: a call starts, parks or is woken, or `close` wakes the takers. -/
  | silent
  /-- Thread `t` returned `r` from its call `c`. -/
  | replied (t : Nat) (c : Call α) (r : Reply α)
  /-- Thread `t`, in `close`, set the flag. -/
  | shut (t : Nat)
  /-- Thread `t` returned from `close`. -/
  | closed (t : Nat)
  deriving Repr

end QueueMonitor

/-- The queue and the phase of every thread, by thread number. -/
structure QueueMonitor (α : Type) where
  queue : BoundedQueue α
  threads : List (QueueMonitor.Phase α)
  deriving Repr

namespace QueueMonitor

variable {α : Type}

/-- A queue fresh from `new?` with `n` threads, none of which has called yet. -/
def init (q : BoundedQueue α) (n : Nat) : QueueMonitor α := ⟨q, List.replicate n .idle⟩

/-- Whether some thread is parked on `w`. -/
def parkedOn (s : QueueMonitor α) (w : Cond) : Bool := s.threads.any (·.isParkedOn w)

/-- Whether some thread was woken from `w` and has not checked since. -/
def wokenOn (s : QueueMonitor α) (w : Cond) : Bool := s.threads.any (·.isWokenOn w)

/-- The conditions a finished call wakes one thread of, from the queue before and after it.
A refused call wakes nobody. -/
def signals (q q' : BoundedQueue α) : Reply α → List Cond
  | .accepted =>
    (if q.items.isEmpty then [.notEmpty] else []) ++ (if q'.size < q'.capacity then [.notFull] else [])
  | .item _ =>
    (if q.size = q.capacity then [.notFull] else []) ++ (if q'.items.isEmpty then [] else [.notEmpty])
  | .refused _ => []

/-- Waking one thread parked on `w`: any of them, or nothing when none is. -/
inductive WakeOne (w : Cond) : List (Phase α) → List (Phase α) → Prop
  | wake {ts : List (Phase α)} {i : Nat} {c : Call α} (hi : ts[i]? = some (.parked c))
      (hc : c.cond = w) : WakeOne w ts (ts.set i (.woken c))
  | none {ts : List (Phase α)} (h : ∀ p ∈ ts, p.isParkedOn w = false) : WakeOne w ts ts

/-- Waking one thread for each condition of the list, in turn. -/
inductive WakeEach : List Cond → List (Phase α) → List (Phase α) → Prop
  | nil {ts : List (Phase α)} : WakeEach [] ts ts
  | cons {w : Cond} {ws : List Cond} {ts ts' ts'' : List (Phase α)} :
      WakeOne w ts ts' → WakeEach ws ts' ts'' → WakeEach (w :: ws) ts ts''

/-- One step of one thread. -/
inductive Step : QueueMonitor α → Event α → QueueMonitor α → Prop
  /-- An idle thread calls `enqueue` or `dequeue`. -/
  | call {s : QueueMonitor α} {t : Nat} (c : Call α) (ht : s.threads[t]? = some .idle) :
      Step s .silent { s with threads := s.threads.set t (.entering c) }
  /-- An idle thread calls `close`. -/
  | callClose {s : QueueMonitor α} {t : Nat} (ht : s.threads[t]? = some .idle) :
      Step s .silent { s with threads := s.threads.set t .closing }
  /-- Under the lock, a caller finds it must wait and parks. -/
  | park {s : QueueMonitor α} {t : Nat} {p : Phase α} {c : Call α} (ht : s.threads[t]? = some p)
      (hp : p.pending = some c) (hw : s.queue.attempt c = none) :
      Step s .silent { s with threads := s.threads.set t (.parked c) }
  /-- Under the lock, a caller does its work, wakes one thread for each signal, and returns. -/
  | finish {s : QueueMonitor α} {t : Nat} {p : Phase α} {c : Call α} {q : BoundedQueue α}
      {r : Reply α} {ts : List (Phase α)} (ht : s.threads[t]? = some p)
      (hp : p.pending = some c) (ha : s.queue.attempt c = some (q, r))
      (hw : WakeEach (signals s.queue q r) (s.threads.set t .idle) ts) :
      Step s (.replied t c r) ⟨q, ts⟩
  /-- Under the lock, a giver that may go ahead needs more storage than was reserved, fails to
  get it, and returns with its item. -/
  | outOfMemory {s : QueueMonitor α} {t : Nat} {p : Phase α} {x : α} (ht : s.threads[t]? = some p)
      (hp : p.pending = some (.enqueue x)) (hw : s.queue.mustWaitToEnqueue = false)
      (ho : s.queue.closed = false) (hfull : s.queue.capacity ≤ s.queue.size) :
      Step s (.replied t (.enqueue x) (.refused (.allocation x)))
        { s with threads := s.threads.set t .idle }
  /-- A parked thread wakes up on its own. -/
  | spurious {s : QueueMonitor α} {t : Nat} {c : Call α} (ht : s.threads[t]? = some (.parked c)) :
      Step s .silent { s with threads := s.threads.set t (.woken c) }
  /-- `close`, under the lock, sets the flag. -/
  | shut {s : QueueMonitor α} {t : Nat} (ht : s.threads[t]? = some .closing) :
      Step s (.shut t) ⟨s.queue.close, s.threads.set t .wakingTakers⟩
  /-- `close`, after releasing the lock, wakes every taker. -/
  | wakeTakers {s : QueueMonitor α} {t : Nat} (ht : s.threads[t]? = some .wakingTakers) :
      Step s .silent
        { s with threads := (s.threads.set t .wakingGivers).map (Phase.wakeOn .notEmpty) }
  /-- `close` wakes every giver and returns. -/
  | wakeGivers {s : QueueMonitor α} {t : Nat} (ht : s.threads[t]? = some .wakingGivers) :
      Step s (.closed t) { s with threads := (s.threads.set t .idle).map (Phase.wakeOn .notFull) }

/-- The runs of the monitor: the events along the way, oldest first, and the state reached. -/
inductive Run : QueueMonitor α → List (Event α) → QueueMonitor α → Prop
  | nil {s : QueueMonitor α} : Run s [] s
  | snoc {s s' s'' : QueueMonitor α} {tr : List (Event α)} {e : Event α} :
      Run s tr s' → Step s' e s'' → Run s (tr ++ [e]) s''

end QueueMonitor

end PoolServer
