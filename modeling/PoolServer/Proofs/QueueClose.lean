import PoolServer.Proofs.QueueWakeups
/-!
# Closing the queue

`close` sets a flag under the lock and wakes everyone. From then on every giver that gets the
lock, whether it had called before or after `close` and however it was woken, hands its own item
back and leaves the queue as it was; every taker gets the oldest remaining item, and is told the
queue is closed exactly when none remains; nobody parks. Before the flag is set no call is ever
told the queue is closed, and setting the flag again changes nothing.

The flag is part of the queue, so the whole argument is about single steps from a reachable
state, once it is known that the flag is up exactly when some `close` has set it.

Main statement: `close_semantics`.
-/
namespace PoolServer

namespace QueueMonitor

variable {α : Type} {s s' : QueueMonitor α}

/-- The flag is up after a step exactly when it was up before or the step set it. -/
theorem Step.closed_iff {e : Event α} (h : Step s e s') :
    s'.queue.closed = true ↔ s.queue.closed = true ∨ ∃ t, e = .shut t := by
  cases h with
  | finish _ _ ha _ => simp [attempt_closed ha]
  | shut _ => simp [BoundedQueue.close]
  | call _ _ => simp
  | callClose _ => simp
  | park _ _ _ => simp
  | outOfMemory _ _ _ _ _ => simp
  | spurious _ => simp
  | wakeTakers _ => simp
  | wakeGivers _ => simp

/-- In a run from a queue made by `new?`, the flag is up exactly when some `close` set it. -/
theorem closed_iff_shut {cap width n : Nat} {q : BoundedQueue α}
    (hq : BoundedQueue.new? cap width = .ok q) {tr : List (Event α)}
    (hr : Run (init q n) tr s) : s.queue.closed = true ↔ ∃ t, Event.shut t ∈ tr := by
  induction hr with
  | nil =>
    obtain ⟨rfl, -⟩ := BoundedQueue.new?_eq_ok hq
    simp [QueueMonitor.init]
  | snoc _ h ih =>
    rw [h.closed_iff, ih]
    simp only [List.mem_append, List.mem_singleton]
    constructor
    · rintro (⟨t, ht⟩ | ⟨t, rfl⟩)
      · exact ⟨t, .inl ht⟩
      · exact ⟨t, .inr rfl⟩
    · rintro ⟨t, ht | ht⟩
      · exact .inl ⟨t, ht⟩
      · exact .inr ⟨t, ht.symm⟩

/-- A call told that the queue is closed found the flag up. -/
theorem Step.closed_of_refused {t : Nat} {c : Call α} {y : Option α}
    (h : Step s (.replied t c (.refused (.closed y))) s') : s.queue.closed = true := by
  cases h with
  | finish _ _ ha _ =>
    rcases BoundedQueue.attempt_eq_some ha with ⟨x, -, hc, -, -⟩ | ⟨x, -, -, -, hr, -⟩ |
      ⟨-, -, hc, -, -⟩ | ⟨x, rest, -, -, hr, -⟩
    · exact hc
    · cases hr
    · exact hc
    · cases hr

/-- A giver that gets the lock after the flag is set hands its own item back and leaves the
queue alone. -/
theorem Step.enqueue_of_closed {t : Nat} {x : α} {r : Reply α}
    (h : Step s (.replied t (.enqueue x) r) s') (hc : s.queue.closed = true) :
    r = .refused (.closed (some x)) ∧ s'.queue = s.queue := by
  cases h with
  | finish _ _ ha _ =>
    rcases BoundedQueue.attempt_eq_some ha with ⟨y, he, -, rfl, rfl⟩ | ⟨y, -, ho, -, -, -⟩ |
      ⟨he, -, -, -, -⟩ | ⟨y, rest, he, -, -, -⟩
    · cases he
      exact ⟨rfl, rfl⟩
    · simp [hc] at ho
    · cases he
    · cases he
  | outOfMemory _ _ _ ho _ => simp [hc] at ho

/-- A taker that gets the lock takes the oldest item, or, on an empty queue, is told it is
closed. -/
theorem Step.dequeue_cases {t : Nat} {r : Reply α} (h : Step s (.replied t .dequeue r) s') :
    (∃ x rest, s.queue.items = x :: rest ∧ r = .item x ∧
      s'.queue = { s.queue with items := rest }) ∨
    (s.queue.items = [] ∧ r = .refused (.closed none) ∧ s'.queue = s.queue) := by
  cases h with
  | finish _ _ ha _ =>
    rcases BoundedQueue.attempt_eq_some ha with ⟨y, he, -, -, -⟩ | ⟨y, he, -, -, -, -⟩ |
      ⟨-, hi, -, rfl, rfl⟩ | ⟨y, rest, -, hi, rfl, rfl⟩
    · cases he
    · cases he
    · exact .inr ⟨hi, rfl, rfl⟩
    · exact .inl ⟨y, rest, hi, rfl, rfl⟩

/-- Setting the flag of a closed queue changes nothing. -/
theorem Step.shut_of_closed {t : Nat} (h : Step s (.shut t) s')
    (hc : s.queue.closed = true) : s'.queue = s.queue := by
  cases h with
  | shut _ => exact BoundedQueue.close_of_closed hc

/-- In every run of the monitor from a queue made by `new?`: the flag is up exactly when some
`close` has set it; before that no call is told the queue is closed; after it every giver that
gets the lock hands its own item back and leaves the queue alone, every taker gets the oldest
remaining item or, exactly when none remains, is told the queue is closed, setting the flag again
changes nothing, and nobody parks. -/
theorem close_semantics {cap width n : Nat} {q : BoundedQueue α}
    (hq : BoundedQueue.new? cap width = .ok q) {tr : List (Event α)}
    (hr : Run (init q n) tr s) :
    (s.queue.closed = true ↔ ∃ t, Event.shut t ∈ tr) ∧
    (s.queue.closed = false → ∀ (e : Event α) (s' : QueueMonitor α), Step s e s' →
      ∀ t c y, e ≠ .replied t c (.refused (.closed y))) ∧
    (s.queue.closed = true → ∀ (e : Event α) (s' : QueueMonitor α), Step s e s' →
      (∀ t x r, e = .replied t (.enqueue x) r →
        r = .refused (.closed (some x)) ∧ s'.queue = s.queue) ∧
      (∀ t r, e = .replied t .dequeue r →
        (∃ x rest, s.queue.items = x :: rest ∧ r = .item x ∧
          s'.queue = { s.queue with items := rest }) ∨
        (s.queue.items = [] ∧ r = .refused (.closed none) ∧ s'.queue = s.queue)) ∧
      (∀ t, e = .shut t → s'.queue = s.queue) ∧
      (∀ (i : Nat) (c : Call α), s'.threads[i]? = some (.parked c) →
        s.threads[i]? = some (.parked c))) := by
  refine ⟨closed_iff_shut hq hr, ?_, ?_⟩
  · rintro ho e s' h t c y rfl
    simp [h.closed_of_refused] at ho
  · intro hc e s' h
    refine ⟨?_, ?_, ?_, fun i c hi => h.parked_of_closed hc hi⟩
    · rintro t x r rfl
      exact h.enqueue_of_closed hc
    · rintro t r rfl
      exact h.dequeue_cases
    · rintro t rfl
      exact h.shut_of_closed hc

theorem close_semantics_after_close :
    BoundedQueue.new? 1 8 = .ok (⟨[], 1, false⟩ : BoundedQueue Nat) ∧
    Run (init (⟨[], 1, false⟩ : BoundedQueue Nat) 2)
      [.silent, .silent, .silent, .shut 1, .silent, .closed 1]
      ⟨⟨[], 1, true⟩, [.woken .dequeue, .idle]⟩ ∧
    (true = true ↔ ∃ t, Event.shut t ∈ ([.silent, .silent, .silent, .shut 1, .silent, .closed 1] :
      List (Event Nat))) ∧
    (true = false → ∀ (e : Event Nat) (s' : QueueMonitor Nat),
      Step ⟨⟨[], 1, true⟩, [.woken .dequeue, .idle]⟩ e s' →
      ∀ t c y, e ≠ .replied t c (.refused (.closed y))) ∧
    (true = true → ∀ (e : Event Nat) (s' : QueueMonitor Nat),
      Step ⟨⟨[], 1, true⟩, [.woken .dequeue, .idle]⟩ e s' →
      (∀ t x r, e = .replied t (.enqueue x) r →
        r = .refused (.closed (some x)) ∧ s'.queue = ⟨[], 1, true⟩) ∧
      (∀ t r, e = .replied t .dequeue r →
        (∃ x rest, ([] : List Nat) = x :: rest ∧ r = .item x ∧ s'.queue = ⟨rest, 1, true⟩) ∨
        (([] : List Nat) = [] ∧ r = .refused (.closed none) ∧ s'.queue = ⟨[], 1, true⟩)) ∧
      (∀ t, e = .shut t → s'.queue = ⟨[], 1, true⟩) ∧
      (∀ (i : Nat) (c : Call Nat), s'.threads[i]? = some (.parked c) →
        ([.woken .dequeue, .idle] : List (Phase Nat))[i]? = some (.parked c))) :=
  ⟨rfl, close_run,
    close_semantics (rfl : BoundedQueue.new? 1 8 = .ok ⟨[], 1, false⟩) close_run⟩

end QueueMonitor

end PoolServer
