/-!
# The bounded request queue

Accepted connections wait in a first-in first-out queue of fixed capacity until a worker takes
them. The queue can be closed: after that nothing more is accepted, and what is still queued can
be taken out until the queue is empty.

A caller that puts an item into a full open queue, or takes one from an empty open queue, waits.
The functions below are the work each call does once it no longer has to wait: `enqueue` appends
the item, or hands it back if the queue is closed; `dequeue` takes the oldest item, or reports the
queue closed if it is empty. Whether a call must wait is `mustWaitToEnqueue` and
`mustWaitToDequeue`.

The queue's storage is reserved when it is made: a capacity of zero is refused, and so is one
whose storage, at `itemWidth` bytes per item, exceeds the largest signed 64-bit size.

Main statements: the length never exceeds the capacity, items leave in the order they came, and
closing is idempotent.
-/
namespace PoolServer

/-- Why a queue call was refused. -/
inductive QueueError (α : Type) where
  /-- The queue is closed; a refused item is handed back. -/
  | closed (item : Option α)
  /-- Room for the item could not be reserved; the item is handed back. -/
  | allocation (item : α)
  deriving Repr

namespace QueueError

variable {α : Type}

/-- The wording of the refusal. -/
def message : QueueError α → String
  | .closed _ => "request queue is closed"
  | .allocation _ => "could not reserve memory for a queued request"

/-- The item handed back, if any. -/
def item : QueueError α → Option α
  | .closed x => x
  | .allocation x => some x

/-- The refusal as a debugging aid shows it, the item elided. -/
def debugText : QueueError α → String
  | .closed (some _) => "Closed(Some(\"..\"))"
  | .closed none => "Closed(None)"
  | .allocation _ => "Allocation(\"..\")"

end QueueError

/-- Why a queue could not be made. -/
inductive CapacityError where
  | zero
  | overflow
  deriving DecidableEq, Repr

namespace CapacityError

/-- The wording of each refusal. -/
def message : CapacityError → String
  | .zero => "queue capacity must be >= 1"
  | .overflow => "capacity overflow"

end CapacityError

/-- A bounded first-in first-out queue that can be closed. -/
structure BoundedQueue (α : Type) where
  /-- The queued items, oldest first. -/
  items : List α
  capacity : Nat
  closed : Bool
  deriving Repr

namespace BoundedQueue

variable {α : Type}

/-- The largest number of bytes that can be reserved at once. -/
def sizeLimit : Nat := Nat.pow 2 63 - 1

/-- An open empty queue of the given capacity, for items of `itemWidth` bytes. -/
def new? (capacity itemWidth : Nat) : Except CapacityError (BoundedQueue α) :=
  if capacity = 0 then .error .zero
  else if capacity * itemWidth > sizeLimit then .error .overflow
  else .ok ⟨[], capacity, false⟩

/-- A queue that could be made is open, empty, and of a capacity of at least one. -/
theorem new?_eq_ok {capacity itemWidth : Nat} {q : BoundedQueue α}
    (h : new? capacity itemWidth = .ok q) : q = ⟨[], capacity, false⟩ ∧ 0 < capacity := by
  unfold new? at h
  split at h
  · cases h
  · split at h
    · cases h
    · cases h
      exact ⟨rfl, by omega⟩

/-- The number of queued items. -/
def size (q : BoundedQueue α) : Nat := q.items.length

/-- Whether the queue holds as many items as it may. -/
def isFull (q : BoundedQueue α) : Bool := q.size ≥ q.capacity

/-- A caller putting an item in waits while the queue is full and open. -/
def mustWaitToEnqueue (q : BoundedQueue α) : Bool := q.size == q.capacity && !q.closed

/-- A caller taking an item out waits while the queue is empty and open. -/
def mustWaitToDequeue (q : BoundedQueue α) : Bool := q.items.isEmpty && !q.closed

/-- Appends an item to an open queue; a closed queue hands it back. -/
def enqueue (q : BoundedQueue α) (x : α) : BoundedQueue α × Except (QueueError α) Unit :=
  if q.closed then (q, .error (.closed (some x))) else ({ q with items := q.items ++ [x] }, .ok ())

/-- Takes the oldest item; an empty queue reports that it is closed. -/
def dequeue (q : BoundedQueue α) : BoundedQueue α × Except (QueueError α) α :=
  match q.items with
  | [] => (q, .error (.closed none))
  | x :: rest => ({ q with items := rest }, .ok x)

/-- Closes the queue. -/
def close (q : BoundedQueue α) : BoundedQueue α := { q with closed := true }

@[simp] theorem close_close (q : BoundedQueue α) : q.close.close = q.close := rfl

@[simp] theorem close_items (q : BoundedQueue α) : q.close.items = q.items := rfl

@[simp] theorem close_closed (q : BoundedQueue α) : q.close.closed = true := rfl

theorem close_of_closed {q : BoundedQueue α} (h : q.closed = true) : q.close = q := by
  cases q
  simp_all [close]

@[simp] theorem enqueue_items (q : BoundedQueue α) (x : α) :
    (q.enqueue x).1.items = if q.closed then q.items else q.items ++ [x] := by
  unfold enqueue; split <;> rfl

@[simp] theorem dequeue_items (q : BoundedQueue α) : (q.dequeue).1.items = q.items.drop 1 := by
  unfold dequeue; split <;> simp_all

/-- A dequeue that succeeds returns the oldest item. -/
theorem dequeue_eq_ok {q : BoundedQueue α} {x : α} (h : (q.dequeue).2 = .ok x) :
    q.items.head? = some x := by
  unfold dequeue at h; split at h <;> simp_all

/-- An enqueue that does not have to wait keeps the length within the capacity. -/
theorem size_enqueue_le {q : BoundedQueue α} {x : α} (hq : q.size ≤ q.capacity)
    (hw : q.mustWaitToEnqueue = false) : (q.enqueue x).1.size ≤ q.capacity := by
  unfold enqueue
  split
  · exact hq
  · simp only [mustWaitToEnqueue, size, Bool.and_eq_false_iff, beq_eq_false_iff_ne,
      Bool.not_eq_false'] at hw
    simp only [size, List.length_append, List.length_singleton] at hq ⊢
    rcases hw with hw | hw
    · omega
    · simp_all

end BoundedQueue

end PoolServer
