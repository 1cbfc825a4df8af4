import PoolServer.Queue.Basic
/-!
# Calls on a shared queue

Callers put items in and take them out, each call numbered by the step that issued it. A call that
has to wait parks; after every step, parked calls whose wait is over finish, the oldest first,
until none can. This is how a queue guarded by a lock and two wait conditions behaves when every
change of state wakes the callers it concerns: putting an item into an empty queue wakes a taker,
taking one from a full queue wakes a giver, and closing wakes everyone.

Main statement: a parked call stays parked only while it has to wait.
-/
namespace PoolServer

/-- A call that may have to wait. -/
inductive Call (α : Type) where
  | enqueue (x : α)
  | dequeue
  deriving Repr

/-- What a finished call returns. -/
inductive Reply (α : Type) where
  /-- The item was queued. -/
  | accepted
  /-- The oldest item was taken. -/
  | item (x : α)
  /-- The call was refused. -/
  | refused (e : QueueError α)
  deriving Repr

namespace BoundedQueue

variable {α : Type}

/-- Runs a call, unless it has to wait. -/
def attempt (q : BoundedQueue α) : Call α → Option (BoundedQueue α × Reply α)
  | .enqueue x =>
    if q.mustWaitToEnqueue then none
    else
      let (q', r) := q.enqueue x
      some (q', match r with
        | .ok _ => .accepted
        | .error e => .refused e)
  | .dequeue =>
    if q.mustWaitToDequeue then none
    else
      let (q', r) := q.dequeue
      some (q', match r with
        | .ok x => .item x
        | .error e => .refused e)

/-- A call has to wait exactly when its attempt does nothing. -/
theorem attempt_eq_none_iff (q : BoundedQueue α) (c : Call α) :
    q.attempt c = none ↔
      match c with
      | .enqueue _ => q.mustWaitToEnqueue = true
      | .dequeue => q.mustWaitToDequeue = true := by
  cases c <;> simp only [attempt] <;> split <;> simp_all

/-- Everything a call that does not have to wait can do: a giver hands its item back to a closed
queue or appends it to an open one that is not full, and a taker takes the oldest item or finds the
queue closed and empty. -/
theorem attempt_eq_some {q q' : BoundedQueue α} {c : Call α} {r : Reply α}
    (h : q.attempt c = some (q', r)) :
    (∃ x, c = .enqueue x ∧ q.closed = true ∧ r = .refused (.closed (some x)) ∧ q' = q) ∨
    (∃ x, c = .enqueue x ∧ q.closed = false ∧ q.size ≠ q.capacity ∧ r = .accepted ∧
      q' = { q with items := q.items ++ [x] }) ∨
    (c = .dequeue ∧ q.items = [] ∧ q.closed = true ∧ r = .refused (.closed none) ∧ q' = q) ∨
    (∃ x rest, c = .dequeue ∧ q.items = x :: rest ∧ r = .item x ∧
      q' = { q with items := rest }) := by
  cases c with
  | enqueue x =>
    cases hc : q.closed
    · have hs : q.size ≠ q.capacity := by
        intro he
        simp [attempt, mustWaitToEnqueue, hc, he] at h
      simp only [attempt, mustWaitToEnqueue, enqueue, hc] at h
      simp_all
    · simp only [attempt, mustWaitToEnqueue, enqueue, hc] at h
      simp_all
  | dequeue =>
    cases hi : q.items with
    | nil =>
      cases hc : q.closed <;> simp [attempt, mustWaitToDequeue, dequeue, hi, hc] at h
      simp_all
    | cons x rest =>
      simp only [attempt, mustWaitToDequeue, dequeue, hi] at h
      obtain ⟨rfl, rfl⟩ := by simpa using h
      exact .inr (.inr (.inr ⟨x, rest, rfl, rfl, rfl, rfl⟩))

/-- The first parked call that can finish, run, with the calls still parked after it. -/
def firstReady (q : BoundedQueue α) :
    List (Nat × Call α) → Option (BoundedQueue α × (Nat × Reply α) × List (Nat × Call α))
  | [] => none
  | (i, c) :: rest =>
    match q.attempt c with
    | some (q', r) => some (q', (i, r), rest)
    | none => (firstReady q rest).map fun (q', d, rest') => (q', d, (i, c) :: rest')

/-- Running a parked call leaves one fewer parked. -/
theorem firstReady_length {q q' : BoundedQueue α} {ps rest : List (Nat × Call α)}
    {d : Nat × Reply α} (h : firstReady q ps = some (q', d, rest)) : rest.length < ps.length := by
  induction ps generalizing rest with
  | nil => simp [firstReady] at h
  | cons p ps ih =>
    obtain ⟨i, c⟩ := p
    simp only [firstReady] at h
    split at h
    · cases h; simp
    · obtain ⟨⟨q₁, d₁, r₁⟩, h₁, he⟩ := Option.map_eq_some_iff.1 h
      cases he
      have := ih h₁
      simp only [List.length_cons]
      omega

/-- Runs parked calls until none can finish: the queue after, the finished calls in the order
they ran, and the calls still parked. -/
def wake (q : BoundedQueue α) (ps : List (Nat × Call α)) :
    BoundedQueue α × List (Nat × Reply α) × List (Nat × Call α) :=
  match h : firstReady q ps with
  | none => (q, [], ps)
  | some (q', d, rest) =>
    let (q'', ds, rest') := wake q' rest
    (q'', d :: ds, rest')
termination_by ps.length
decreasing_by exact firstReady_length h

/-- After waking, no parked call can finish. -/
theorem firstReady_wake (q : BoundedQueue α) (ps : List (Nat × Call α)) :
    firstReady (wake q ps).1 (wake q ps).2.2 = none := by
  fun_induction wake q ps <;> simp_all

end BoundedQueue

/-- A queue with the calls parked on it. -/
structure Session (α : Type) where
  queue : BoundedQueue α
  /-- The parked calls, oldest first, each with the step that issued it. -/
  parked : List (Nat × Call α) := []
  deriving Repr

namespace Session

variable {α : Type}

/-- Inserts a finished call into a list ordered by step. -/
def insertByStep (d : Nat × Reply α) : List (Nat × Reply α) → List (Nat × Reply α)
  | [] => [d]
  | e :: es => if d.1 ≤ e.1 then d :: e :: es else e :: insertByStep d es

/-- Wakes the parked calls: the session after, and the calls that finished, ordered by step. -/
def settle (s : Session α) : Session α × List (Nat × Reply α) :=
  let (q, done, parked) := s.queue.wake s.parked
  ({ queue := q, parked }, done.foldr insertByStep [])

/-- Issues a call at step `i`: its reply, or none if it parked, and the parked calls that
finished after it. -/
def call (s : Session α) (i : Nat) (c : Call α) :
    Session α × Option (Reply α) × List (Nat × Reply α) :=
  match s.queue.attempt c with
  | none => ({ s with parked := s.parked ++ [(i, c)] }, none, [])
  | some (q, r) =>
    let (s', done) := settle { s with queue := q }
    (s', some r, done)

/-- Closes the queue: the parked calls that finished after it. -/
def close (s : Session α) : Session α × List (Nat × Reply α) :=
  settle { s with queue := s.queue.close }

end Session

end PoolServer
