import PoolServer.Pool.Monitor
import PoolServer.Proofs.QueueClose
import PoolServer.Steps
/-!
# Who calls what on the pool's queue

Workers only call `dequeue`, `shutdown` only `close`, and producers only `enqueue`; the queue runs
the calls it was given. So every step of the pool is a run of the queue monitor through the events
it shows, and every request the queue hands out goes to a worker.

A queue thread's stance is the call it is in, whatever its place in that call. A step of the queue
changes the stance of one thread only, and only as it starts or finishes a call (`Step.quiet_stance`,
`Step.replied_stance`, `Step.closed_stance`); waking a thread never does. That is what keeps the
producers inside `enqueue` (`Producing`).
-/
namespace PoolServer

namespace QueueMonitor

variable {α : Type}

/-- The call a thread is in, whatever its place in it. -/
inductive Stance (α : Type) where
  | idle
  | calling (c : Call α)
  | closing

/-- The call a thread is in. -/
def Phase.stance : Phase α → Stance α
  | .idle => .idle
  | .entering c | .parked c | .woken c => .calling c
  | .closing | .wakingTakers | .wakingGivers => .closing

@[simp] theorem Phase.stance_wakeOn (w : Cond) (p : Phase α) :
    (p.wakeOn w).stance = p.stance := by
  cases p with
  | parked c => by_cases h : c.cond = w <;> simp [wakeOn, stance, h]
  | _ => rfl

theorem Phase.stance_of_pending {p : Phase α} {c : Call α} (hp : p.pending = some c) :
    p.stance = .calling c := by
  rcases pending_eq_some.1 hp with rfl | rfl <;> rfl

theorem Phase.stance_eq_idle {p : Phase α} : p.stance = .idle ↔ p = .idle := by
  cases p <;> simp [stance]

theorem Run.of_steps {s s' : QueueMonitor α} {tr : List (Event α)} (h : Steps Step s tr s') :
    Run s tr s' := by
  induction h with
  | nil => exact .nil
  | snoc _ hs ih => exact .snoc ih hs

section Stance

variable {ts ts' : List (Phase α)} {t u : Nat} {p q : Phase α}

theorem stance_set_same (ht : ts[t]? = some p) (hq : q.stance = p.stance) (u : Nat) :
    (ts.set t q)[u]?.map Phase.stance = ts[u]?.map Phase.stance := by
  by_cases hu : t = u
  · subst hu
    rw [List.getElem?_set_self (List.getElem?_eq_some_iff.1 ht).1, ht]
    simp [hq]
  · rw [List.getElem?_set_ne hu]

theorem stance_map_wakeOn (w : Cond) (u : Nat) :
    (ts.map (Phase.wakeOn w))[u]?.map Phase.stance = ts[u]?.map Phase.stance := by
  cases h : ts[u]? <;> simp [h]

theorem WakeOne.stance {w : Cond} (h : WakeOne w ts ts') (u : Nat) :
    ts'[u]?.map Phase.stance = ts[u]?.map Phase.stance := by
  cases h with
  | wake hi _ => exact stance_set_same hi (by rfl) u
  | none _ => rfl

theorem WakeEach.stance {ws : List Cond} (h : WakeEach ws ts ts') (u : Nat) :
    ts'[u]?.map Phase.stance = ts[u]?.map Phase.stance := by
  induction h with
  | nil => rfl
  | cons h₁ _ ih => rw [ih, h₁.stance u]

theorem idle_of_stance (h : ts[u]?.map Phase.stance = some .idle) : ts[u]? = some .idle := by
  obtain ⟨p, hp, hidle⟩ := Option.map_eq_some_iff.1 h
  rw [hp, Phase.stance_eq_idle.1 hidle]

end Stance

variable {s s' : QueueMonitor α}

/-- A step that shows nothing but parking, waking or the flag, and starts no call, keeps every
thread's stance. -/
theorem Step.quiet_stance {e : Event α} (h : Step s e s') (he : e = .silent ∨ ∃ t, e = .shut t)
    (hin : ∀ t : Nat, s.threads[t]? = some .idle → s'.threads[t]? = some .idle) (u : Nat) :
    s'.threads[u]?.map Phase.stance = s.threads[u]?.map Phase.stance := by
  cases h with
  | call c ht =>
    have hidle := hin _ ht
    rw [List.getElem?_set_self (List.getElem?_eq_some_iff.1 ht).1] at hidle
    cases hidle
  | callClose ht =>
    have hidle := hin _ ht
    rw [List.getElem?_set_self (List.getElem?_eq_some_iff.1 ht).1] at hidle
    cases hidle
  | park ht hp _ => exact stance_set_same ht (by rw [Phase.stance_of_pending hp]; rfl) u
  | finish _ _ _ _ => rcases he with h | ⟨_, h⟩ <;> cases h
  | outOfMemory _ _ _ _ _ => rcases he with h | ⟨_, h⟩ <;> cases h
  | spurious ht => exact stance_set_same ht (by rfl) u
  | shut ht => exact stance_set_same ht (by rfl) u
  | wakeTakers ht => rw [stance_map_wakeOn]; exact stance_set_same ht (by rfl) u
  | wakeGivers _ => rcases he with h | ⟨_, h⟩ <;> cases h

/-- A call returns only to the thread in it, which goes idle; every other thread keeps its
stance. -/
theorem Step.replied_stance {t : Nat} {c : Call α} {r : Reply α}
    (h : Step s (.replied t c r) s') :
    s.threads[t]?.map Phase.stance = some (.calling c) ∧ s'.threads[t]? = some .idle ∧
      ∀ u, u ≠ t → s'.threads[u]?.map Phase.stance = s.threads[u]?.map Phase.stance := by
  cases h with
  | finish ht hp _ hw =>
    have hlt := (List.getElem?_eq_some_iff.1 ht).1
    refine ⟨by simp [ht, Phase.stance_of_pending hp], idle_of_stance ?_, fun u hu => ?_⟩
    · rw [hw.stance, List.getElem?_set_self hlt]
      rfl
    · rw [hw.stance, List.getElem?_set_ne (Ne.symm hu)]
  | outOfMemory ht hp _ _ _ =>
    have hlt := (List.getElem?_eq_some_iff.1 ht).1
    refine ⟨by simp [ht, Phase.stance_of_pending hp], List.getElem?_set_self hlt, fun u hu => ?_⟩
    show (s.threads.set t .idle)[u]?.map Phase.stance = _
    rw [List.getElem?_set_ne (Ne.symm hu)]

/-- `close` returns only to the thread in it; every other thread keeps its stance. -/
theorem Step.closed_stance {t : Nat} (h : Step s (.closed t) s') (u : Nat) (hu : u ≠ t) :
    s'.threads[u]?.map Phase.stance = s.threads[u]?.map Phase.stance := by
  cases h with
  | wakeGivers _ =>
    show ((s.threads.set t .idle).map (Phase.wakeOn .notFull))[u]?.map Phase.stance = _
    rw [stance_map_wakeOn, List.getElem?_set_ne (Ne.symm hu)]

/-- An `enqueue` returns with its item accepted or refused, never with an item taken. -/
theorem Step.enqueue_not_taken {t : Nat} {x : α} {r : Reply α}
    (h : Step s (.replied t (.enqueue x) r) s') : (Event.replied t (.enqueue x) r).taken = none := by
  cases h with
  | finish _ _ ha _ =>
    rcases BoundedQueue.attempt_eq_some ha with ⟨y, -, -, rfl, -⟩ | ⟨y, -, -, -, rfl, -⟩ |
      ⟨hc, -⟩ | ⟨y, rest, hc, -⟩
    · rfl
    · rfl
    · cases hc
    · cases hc
  | outOfMemory _ _ _ _ _ => rfl

end QueueMonitor

namespace PoolMonitor

variable {α : Type}

/-- The queue's events a pool step shows. -/
def Event.queueEvents : Event α → List (QueueMonitor.Event α)
  | .queue e => [e]
  | _ => []

/-- The queue's events along a run of the pool. -/
def queueTrace (tr : List (Event α)) : List (QueueMonitor.Event α) := tr.flatMap Event.queueEvents

@[simp] theorem queueTrace_snoc (tr : List (Event α)) (e : Event α) :
    queueTrace (tr ++ [e]) = queueTrace tr ++ e.queueEvents := by
  simp [queueTrace]

variable {s s' : PoolMonitor α} {e : Event α}

/-- Every pool step is a run of the queue through the events it shows. -/
theorem Step.queue_steps (h : Step s e s') :
    Steps QueueMonitor.Step s.queue e.queueEvents s'.queue := by
  cases h with
  | callDequeue _ ht => exact .single (.call .dequeue ht)
  | callEnqueue x _ ht => exact .single (.call (.enqueue x) ht)
  | callClose _ ht => exact .single (.callClose ht)
  | inside h _ _ => exact .single h
  | take _ h => exact .single h
  | stop _ h => exact .single h
  | closeReturns _ h => exact .single h
  | handle _ _ => exact .nil
  | drop _ => exact .nil
  | join _ _ => exact .nil
  | finish _ _ => exact .nil

/-- A run of the pool is a run of its queue. -/
theorem queue_run {q : BoundedQueue α} {n p : Nat} {tr : List (Event α)}
    (hr : Steps Step (init q n p) tr s) :
    QueueMonitor.Run (QueueMonitor.init q (n + 1 + p)) (queueTrace tr) s.queue :=
  QueueMonitor.Run.of_steps (hr.map PoolMonitor.queue Event.queueEvents Step.queue_steps)

theorem Step.workers_length (h : Step s e s') : s'.workers.length = s.workers.length := by
  cases h <;> simp

theorem workers_length_run {q : BoundedQueue α} {n p : Nat} {tr : List (Event α)}
    (hr : Steps Step (init q n p) tr s) : s.workers.length = n := by
  induction hr with
  | nil => simp [init]
  | snoc _ h ih => rw [h.workers_length, ih]

/-- Every producer is idle or inside an `enqueue`. -/
def Producing (s : PoolMonitor α) : Prop :=
  ∀ (t : Nat) (st : QueueMonitor.Stance α), s.workers.length < t →
    s.queue.threads[t]?.map QueueMonitor.Phase.stance = some st →
      st = .idle ∨ ∃ x, st = .calling (.enqueue x)

/-- A step that keeps the stance of every producer keeps them producing. -/
theorem Producing.frame (hi : Producing s) (hn : s'.workers.length = s.workers.length)
    (hs : ∀ t, s.workers.length < t →
      s'.queue.threads[t]?.map QueueMonitor.Phase.stance =
        s.queue.threads[t]?.map QueueMonitor.Phase.stance) : Producing s' := by
  intro t st ht hst
  rw [hn] at ht
  rw [hs t ht] at hst
  exact hi t st ht hst

theorem Producing.step (hi : Producing s) (h : Step s e s') : Producing s' := by
  cases h with
  | @callDequeue w _ hw _ =>
    have hlt := (List.getElem?_eq_some_iff.1 hw).1
    exact hi.frame rfl fun t ht => by
      show (s.queue.threads.set w _)[t]?.map _ = _
      rw [List.getElem?_set_ne (by omega)]
  | @callEnqueue t₀ x _ ht₀ =>
    intro t st ht hst
    by_cases htt : t₀ = t
    · subst htt
      rw [List.getElem?_set_self (List.getElem?_eq_some_iff.1 ht₀).1] at hst
      cases hst
      exact .inr ⟨x, rfl⟩
    · have hst' : (s.queue.threads.set t₀ (.entering (.enqueue x)))[t]?.map
          QueueMonitor.Phase.stance = some st := hst
      rw [List.getElem?_set_ne htt] at hst'
      exact hi t st ht hst'
  | callClose _ _ =>
    exact hi.frame rfl fun t ht => by
      show (s.queue.threads.set s.workers.length _)[t]?.map _ = _
      rw [List.getElem?_set_ne (by omega)]
  | @inside e₀ q h he hin =>
    rcases he with he | ⟨t₀, he⟩ | ⟨t₀, c, r, ht₀, rfl⟩
    · exact hi.frame rfl fun t _ => h.quiet_stance (.inl he) hin t
    · exact hi.frame rfl fun t _ => h.quiet_stance (.inr ⟨t₀, he⟩) hin t
    · obtain ⟨-, hidle, hframe⟩ := h.replied_stance
      intro t st ht hst
      by_cases htt : t = t₀
      · subst htt
        have hst' : q.threads[t]?.map QueueMonitor.Phase.stance = some st := hst
        rw [hidle] at hst'
        cases hst'
        exact .inl rfl
      · have hst' : q.threads[t]?.map QueueMonitor.Phase.stance = some st := hst
        rw [hframe t htt] at hst'
        exact hi t st ht hst'
  | take hw h =>
    have hlt := (List.getElem?_eq_some_iff.1 hw).1
    obtain ⟨-, -, hframe⟩ := h.replied_stance
    exact hi.frame (by simp) fun t ht => hframe t (by omega)
  | stop hw h =>
    have hlt := (List.getElem?_eq_some_iff.1 hw).1
    obtain ⟨-, -, hframe⟩ := h.replied_stance
    exact hi.frame (by simp) fun t ht => hframe t (by omega)
  | closeReturns _ h => exact hi.frame rfl fun t ht => h.closed_stance t (by omega)
  | handle _ _ => exact hi.frame (by simp) fun _ _ => rfl
  | drop _ => exact hi.frame (by simp) fun _ _ => rfl
  | join _ _ => exact hi.frame rfl fun _ _ => rfl
  | finish _ _ => exact hi.frame rfl fun _ _ => rfl

theorem Producing.initial (q : BoundedQueue α) (n p : Nat) : Producing (init q n p) := by
  intro t st _ hst
  obtain ⟨ph, hph, rfl⟩ := Option.map_eq_some_iff.1 hst
  obtain rfl := List.eq_of_mem_replicate (List.mem_of_getElem? hph)
  exact .inl rfl

theorem Producing.run {q : BoundedQueue α} {n p : Nat} {tr : List (Event α)}
    (hr : Steps Step (init q n p) tr s) : Producing s := by
  induction hr with
  | nil => exact initial q n p
  | snoc _ h ih => exact ih.step h

/-- A step that the queue takes on its own, inside a producer's call or `close`, hands out no
request. -/
theorem Producing.inside_not_taken (hi : Producing s) {e : QueueMonitor.Event α}
    {q : QueueMonitor α} (h : QueueMonitor.Step s.queue e q)
    (he : e = .silent ∨ (∃ t, e = .shut t) ∨ ∃ t c r, s.workers.length < t ∧ e = .replied t c r) :
    e.taken = none := by
  rcases he with rfl | ⟨t, rfl⟩ | ⟨t, c, r, ht, rfl⟩
  · rfl
  · rfl
  · obtain ⟨hst, -, -⟩ := h.replied_stance
    rcases hi t _ ht hst with hidle | ⟨x, hx⟩
    · cases hidle
    · cases hx
      exact h.enqueue_not_taken

end PoolMonitor

end PoolServer
