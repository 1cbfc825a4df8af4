import PoolServer.Queue.Monitor
/-!
# The monitor is a bounded first-in first-out queue

Whatever the threads call and in whatever order the scheduler runs their steps, the queue
behaves as if each call took effect at once, in its last stretch under the lock: it never holds
more than its capacity, it holds exactly the items accepted and not yet handed out, in the order
they were accepted, and every taker gets the oldest of them. So no accepted item is lost or handed
out twice, and a giver never needs storage beyond what the queue reserved when it was made.

The invariant `FifoInv` ties the queue to the events of the run so far. A step changes the queue
only when a call finishes or `close` sets the flag (`Step.queue_cases`), and a finished call moves
items as `BoundedQueue.attempt` says, so one lemma per invariant field carries it over a step.

Main statement: `fifo_refinement`.
-/
namespace PoolServer

namespace QueueMonitor.Event

variable {α : Type}

/-- The item an event put into the queue, if any. -/
def accepted : Event α → Option α
  | .replied _ (.enqueue x) .accepted => some x
  | _ => none

/-- The item an event took out of the queue, if any. -/
def taken : Event α → Option α
  | .replied _ _ (.item x) => some x
  | _ => none

end QueueMonitor.Event

namespace QueueMonitor

variable {α : Type}

/-- The items accepted along a run, in the order they were accepted. -/
def accepted (tr : List (Event α)) : List α := tr.filterMap Event.accepted

/-- The items handed out along a run, in the order they were handed out. -/
def taken (tr : List (Event α)) : List α := tr.filterMap Event.taken

@[simp] theorem accepted_snoc (tr : List (Event α)) (e : Event α) :
    accepted (tr ++ [e]) = accepted tr ++ e.accepted.toList := by
  cases h : e.accepted <;> simp [accepted, h]

@[simp] theorem taken_snoc (tr : List (Event α)) (e : Event α) :
    taken (tr ++ [e]) = taken tr ++ e.taken.toList := by
  cases h : e.taken <;> simp [taken, h]

/-- Only a finished call and `close` setting the flag change the queue; every other step leaves
it alone and moves no item. -/
theorem Step.queue_cases {s s' : QueueMonitor α} {e : Event α} (h : Step s e s') :
    (∃ t c r, e = .replied t c r ∧ s.queue.attempt c = some (s'.queue, r)) ∨
    (∃ t, e = .shut t ∧ s'.queue = s.queue.close) ∨
    (s'.queue = s.queue ∧ e.accepted = none ∧ e.taken = none) := by
  cases h with
  | finish _ _ ha _ => exact .inl ⟨_, _, _, rfl, ha⟩
  | shut _ => exact .inr (.inl ⟨_, rfl, rfl⟩)
  | call => exact .inr (.inr ⟨rfl, rfl, rfl⟩)
  | callClose => exact .inr (.inr ⟨rfl, rfl, rfl⟩)
  | park => exact .inr (.inr ⟨rfl, rfl, rfl⟩)
  | outOfMemory => exact .inr (.inr ⟨rfl, rfl, rfl⟩)
  | spurious => exact .inr (.inr ⟨rfl, rfl, rfl⟩)
  | wakeTakers => exact .inr (.inr ⟨rfl, rfl, rfl⟩)
  | wakeGivers => exact .inr (.inr ⟨rfl, rfl, rfl⟩)

section Attempt

variable {q q' : BoundedQueue α} {c : Call α} {r : Reply α}

theorem attempt_capacity (h : q.attempt c = some (q', r)) : q'.capacity = q.capacity := by
  rcases BoundedQueue.attempt_eq_some h with ⟨x, -, -, -, rfl⟩ | ⟨x, -, -, -, -, rfl⟩ |
    ⟨-, -, -, -, rfl⟩ | ⟨x, rest, -, -, -, rfl⟩ <;> rfl

theorem attempt_closed (h : q.attempt c = some (q', r)) : q'.closed = q.closed := by
  rcases BoundedQueue.attempt_eq_some h with ⟨x, -, -, -, rfl⟩ | ⟨x, -, -, -, -, rfl⟩ |
    ⟨-, -, -, -, rfl⟩ | ⟨x, rest, -, -, -, rfl⟩ <;> rfl

/-- A call that went ahead left the queue within its capacity: a giver only appends to a queue
that is not full. -/
theorem attempt_size_le (h : q.attempt c = some (q', r)) (hq : q.size ≤ q.capacity) :
    q'.size ≤ q.capacity := by
  rcases BoundedQueue.attempt_eq_some h with ⟨x, -, -, -, rfl⟩ | ⟨x, -, -, hs, -, rfl⟩ |
    ⟨-, -, -, -, rfl⟩ | ⟨x, rest, -, hi, -, rfl⟩
  · exact hq
  · simp only [BoundedQueue.size, List.length_append, List.length_singleton] at hq hs ⊢
    omega
  · exact hq
  · simp only [BoundedQueue.size, hi, List.length_cons] at hq ⊢
    omega

/-- A finished call moves items as a first-in first-out queue does: what it took came off the
front, and what it accepted went on the back. -/
theorem attempt_fifo (h : q.attempt c = some (q', r)) (t : Nat) :
    (Event.replied t c r).taken.toList ++ q'.items =
      q.items ++ (Event.replied t c r).accepted.toList := by
  rcases BoundedQueue.attempt_eq_some h with ⟨x, rfl, -, rfl, rfl⟩ | ⟨x, rfl, -, -, rfl, rfl⟩ |
    ⟨rfl, -, -, rfl, rfl⟩ | ⟨x, rest, rfl, hi, rfl, rfl⟩
  · simp [Event.taken, Event.accepted]
  · simp [Event.taken, Event.accepted]
  · simp [Event.taken, Event.accepted]
  · simp [Event.taken, Event.accepted, hi]

/-- A call that went ahead is never refused for want of storage. -/
theorem attempt_ne_allocation (h : q.attempt c = some (q', r)) (x : α) :
    r ≠ .refused (.allocation x) := by
  rcases BoundedQueue.attempt_eq_some h with ⟨y, -, -, rfl, -⟩ | ⟨y, -, -, -, rfl, -⟩ |
    ⟨-, -, -, rfl, -⟩ | ⟨y, rest, -, -, rfl, -⟩ <;> simp

end Attempt

/-- What every run from a fresh queue of capacity `cap` keeps: the capacity, the bound on the
items, and the items as the accepted ones less the ones handed out. -/
structure FifoInv (cap : Nat) (tr : List (Event α)) (s : QueueMonitor α) : Prop where
  capacity : s.queue.capacity = cap
  size_le : s.queue.size ≤ cap
  fifo : taken tr ++ s.queue.items = accepted tr

/-- The first-in first-out equation survives a step that moves items as a queue does. -/
theorem fifo_snoc {tr : List (Event α)} {e : Event α} {items items' : List α}
    (hfifo : taken tr ++ items = accepted tr)
    (he : e.taken.toList ++ items' = items ++ e.accepted.toList) :
    taken (tr ++ [e]) ++ items' = accepted (tr ++ [e]) :=
  calc taken (tr ++ [e]) ++ items'
      = taken tr ++ (e.taken.toList ++ items') := by simp
    _ = (taken tr ++ items) ++ e.accepted.toList := by rw [he, List.append_assoc]
    _ = accepted (tr ++ [e]) := by rw [hfifo, accepted_snoc]

theorem FifoInv.step {cap : Nat} {tr : List (Event α)} {s s' : QueueMonitor α} {e : Event α}
    (hi : FifoInv cap tr s) (h : Step s e s') : FifoInv cap (tr ++ [e]) s' := by
  rcases h.queue_cases with ⟨t, c, r, rfl, ha⟩ | ⟨t, rfl, hq⟩ | ⟨hq, hacc, htak⟩
  · have hcap := attempt_capacity ha
    refine ⟨hcap.trans hi.capacity, ?_, fifo_snoc hi.fifo (attempt_fifo ha t)⟩
    have hle := attempt_size_le ha (by rw [hi.capacity]; exact hi.size_le)
    rwa [hi.capacity] at hle
  · refine ⟨by rw [hq]; exact hi.capacity, by rw [hq]; exact hi.size_le, ?_⟩
    exact fifo_snoc hi.fifo (by simp [hq, Event.taken, Event.accepted])
  · refine ⟨hq ▸ hi.capacity, hq ▸ hi.size_le, ?_⟩
    exact fifo_snoc hi.fifo (by simp [hq, hacc, htak])

theorem FifoInv.initial {cap width n : Nat} {q : BoundedQueue α}
    (hq : BoundedQueue.new? cap width = .ok q) : FifoInv cap [] (init q n) := by
  obtain ⟨rfl, -⟩ := BoundedQueue.new?_eq_ok hq
  exact ⟨rfl, by simp [QueueMonitor.init, BoundedQueue.size], by simp [QueueMonitor.init, taken, accepted]⟩

theorem FifoInv.run {cap width n : Nat} {q : BoundedQueue α}
    (hq : BoundedQueue.new? cap width = .ok q) {tr : List (Event α)} {s : QueueMonitor α}
    (hr : Run (init q n) tr s) : FifoInv cap tr s := by
  induction hr with
  | nil => exact FifoInv.initial hq
  | snoc _ h ih => exact ih.step h

/-- A taker that gets `x` finds `x` at the front of the queue. -/
theorem Step.item_head {s s' : QueueMonitor α} {t : Nat} {c : Call α} {x : α}
    (h : Step s (.replied t c (.item x)) s') : s.queue.items.head? = some x := by
  rcases h.queue_cases with ⟨t', c', r, he, ha⟩ | ⟨t', he, -⟩ | ⟨-, -, htak⟩
  · cases he
    rcases BoundedQueue.attempt_eq_some ha with ⟨y, -, -, hr, -⟩ | ⟨y, -, -, -, hr, -⟩ |
      ⟨-, -, -, hr, -⟩ | ⟨y, rest, -, hi, hr, -⟩
    · cases hr
    · cases hr
    · cases hr
    · cases hr
      simp [hi]
  · cases he
  · simp [Event.taken] at htak

/-- A giver refused for want of storage went ahead on an open queue whose reserved storage was
used up. -/
theorem Step.allocation_full {s s' : QueueMonitor α} {t : Nat} {c : Call α} {x : α}
    (h : Step s (.replied t c (.refused (.allocation x))) s') :
    s.queue.mustWaitToEnqueue = false ∧ s.queue.closed = false ∧
      s.queue.capacity ≤ s.queue.size := by
  cases h with
  | finish _ _ ha _ => exact absurd rfl (attempt_ne_allocation ha x)
  | outOfMemory _ _ hw ho hfull => exact ⟨hw, ho, hfull⟩

/-- A queue within its capacity never needs more storage than it reserved: a giver that may go
ahead on an open queue finds it short of full. -/
theorem not_allocation_full {q : BoundedQueue α} (hq : q.size ≤ q.capacity)
    (hw : q.mustWaitToEnqueue = false) (ho : q.closed = false) : ¬ q.capacity ≤ q.size := by
  intro hfull
  have heq : q.size = q.capacity := by omega
  simp [BoundedQueue.mustWaitToEnqueue, heq, ho] at hw

/-- In every run of the monitor from a queue made by `new?`, however the threads interleave and
wake, the queue holds at most its capacity and exactly the accepted items not yet handed out, in
the order they were accepted; every taker gets the oldest of them; and no giver is ever refused
for want of storage. -/
theorem fifo_refinement {cap width n : Nat} {q : BoundedQueue α}
    (hq : BoundedQueue.new? cap width = .ok q) {tr : List (Event α)} {s : QueueMonitor α}
    (hr : Run (init q n) tr s) :
    s.queue.size ≤ cap ∧ taken tr ++ s.queue.items = accepted tr ∧
      (∀ t c x s', Step s (.replied t c (.item x)) s' →
        (accepted tr)[(taken tr).length]? = some x) ∧
      (∀ t c x s', ¬ Step s (.replied t c (.refused (.allocation x))) s') := by
  have hi := FifoInv.run hq hr
  refine ⟨hi.size_le, hi.fifo, ?_, ?_⟩
  · intro t c x s' h
    rw [← hi.fifo, List.getElem?_append_right (Nat.le_refl _), Nat.sub_self,
      ← List.head?_eq_getElem?]
    exact h.item_head
  · intro t c x s' h
    obtain ⟨hw, ho, hfull⟩ := h.allocation_full
    exact not_allocation_full (hi.capacity ▸ hi.size_le) hw ho hfull

/-- Two givers on a queue of capacity one: the second parks on the full queue, and taking the
first item wakes it. -/
theorem handoff_run : Run (init (⟨[], 1, false⟩ : BoundedQueue Nat) 2)
    [.silent, .replied 0 (.enqueue 5) .accepted, .silent, .silent, .silent,
      .replied 0 .dequeue (.item 5), .replied 1 (.enqueue 6) .accepted]
    ⟨⟨[6], 1, false⟩, [.idle, .idle]⟩ := by
  have h1 : Step (init (⟨[], 1, false⟩ : BoundedQueue Nat) 2) .silent
      ⟨⟨[], 1, false⟩, [.entering (.enqueue 5), .idle]⟩ := .call (t := 0) (.enqueue 5) rfl
  have h2 : Step ⟨⟨[], 1, false⟩, [.entering (.enqueue 5), .idle]⟩
      (.replied 0 (.enqueue 5) .accepted) ⟨⟨[5], 1, false⟩, [.idle, .idle]⟩ :=
    .finish (p := .entering (.enqueue 5)) rfl rfl rfl (.cons (.none (by decide)) .nil)
  have h3 : Step ⟨⟨[5], 1, false⟩, [.idle, .idle]⟩ .silent
      ⟨⟨[5], 1, false⟩, [.idle, .entering (.enqueue 6)]⟩ := .call (t := 1) (.enqueue 6) rfl
  have h4 : Step ⟨⟨[5], 1, false⟩, [.idle, .entering (.enqueue 6)]⟩ .silent
      ⟨⟨[5], 1, false⟩, [.idle, .parked (.enqueue 6)]⟩ :=
    .park (t := 1) (p := .entering (.enqueue 6)) rfl rfl rfl
  have h5 : Step ⟨⟨[5], 1, false⟩, [.idle, .parked (.enqueue 6)]⟩ .silent
      ⟨⟨[5], 1, false⟩, [.entering .dequeue, .parked (.enqueue 6)]⟩ := .call (t := 0) .dequeue rfl
  have h6 : Step ⟨⟨[5], 1, false⟩, [.entering .dequeue, .parked (.enqueue 6)]⟩
      (.replied 0 .dequeue (.item 5)) ⟨⟨[], 1, false⟩, [.idle, .woken (.enqueue 6)]⟩ :=
    .finish (p := .entering .dequeue) rfl rfl rfl (.cons (.wake (i := 1) rfl rfl) .nil)
  have h7 : Step ⟨⟨[], 1, false⟩, [.idle, .woken (.enqueue 6)]⟩
      (.replied 1 (.enqueue 6) .accepted) ⟨⟨[6], 1, false⟩, [.idle, .idle]⟩ :=
    .finish (p := .woken (.enqueue 6)) rfl rfl rfl (.cons (.none (by decide)) .nil)
  exact .snoc (.snoc (.snoc (.snoc (.snoc (.snoc (.snoc .nil h1) h2) h3) h4) h5) h6) h7

theorem fifo_refinement_handoff :
    BoundedQueue.new? 1 8 = .ok (⟨[], 1, false⟩ : BoundedQueue Nat) ∧
    Run (init (⟨[], 1, false⟩ : BoundedQueue Nat) 2)
      [.silent, .replied 0 (.enqueue 5) .accepted, .silent, .silent, .silent,
        .replied 0 .dequeue (.item 5), .replied 1 (.enqueue 6) .accepted]
      ⟨⟨[6], 1, false⟩, [.idle, .idle]⟩ ∧
    (⟨⟨[6], 1, false⟩, [.idle, .idle]⟩ : QueueMonitor Nat).queue.size ≤ 1 ∧
    taken [.silent, .replied 0 (.enqueue 5) .accepted, .silent, .silent, .silent,
        .replied 0 .dequeue (.item 5), .replied 1 (.enqueue 6) .accepted] ++ [6] =
      accepted [.silent, .replied 0 (.enqueue 5) .accepted, .silent, .silent, .silent,
        .replied 0 .dequeue (.item 5), .replied 1 (.enqueue 6) .accepted] ∧
    (∀ t c x s', Step ⟨⟨[6], 1, false⟩, [.idle, .idle]⟩ (.replied t c (.item x)) s' →
      (accepted [.silent, .replied 0 (.enqueue 5) .accepted, .silent, .silent, .silent,
          .replied 0 .dequeue (.item 5), .replied 1 (.enqueue 6) .accepted])[(taken
        [.silent, .replied 0 (.enqueue 5) .accepted, .silent, .silent, .silent,
          .replied 0 .dequeue (.item 5), .replied 1 (.enqueue 6) .accepted]).length]? = some x) ∧
    (∀ t c x s', ¬ Step ⟨⟨[6], 1, false⟩, [.idle, .idle]⟩
      (.replied t c (.refused (.allocation x))) s') :=
  ⟨rfl, handoff_run,
    fifo_refinement (rfl : BoundedQueue.new? 1 8 = .ok ⟨[], 1, false⟩) handoff_run⟩

end QueueMonitor

end PoolServer
