import PoolServer.Proofs.PoolRoles
/-!
# The pool serves every accepted request once

However the workers, the producers and `shutdown` interleave, once `shutdown` has returned every
request the queue accepted was handed to the handler exactly once, by one worker, which then
dropped its connection before it took anything else; the queue is closed and empty; and the report
holds the workers' final counters, by id from 1 to `n`, with a total equal to the number of
requests accepted.

The bookkeeping is `DrainInv`. The queue hands out only to workers, so what it handed out is what
the handler has seen plus what the workers hold; what the handler has seen is what was dropped plus
what is about to be. A worker leaves its loop only when its `dequeue` found the queue closed and
empty, and a closed queue never takes an item again, so once one worker has stopped the queue
stays closed and empty. `shutdown` joins the workers in order and keeps the counters of the
stopped ones, which never change again. Each step changes at most one worker, in one of four ways
(`Step.worker_cases`), and `shutdown` in one of four (`Step.shutdown_cases`); the invariant is
carried over each of them.

Main statement: `serves_every_request_once`.
-/
namespace PoolServer

open scoped List

namespace Report

/-- Sorting counters already in order of id changes nothing. -/
theorem sortById_eq_self {cs : List Counters} (h : cs.Pairwise fun a b => a.id ≤ b.id) :
    sortById cs = cs := by
  induction cs with
  | nil => rfl
  | cons c cs ih =>
    obtain ⟨hc, hcs⟩ := List.pairwise_cons.1 h
    show insertById c (sortById cs) = c :: cs
    rw [ih hcs]
    cases cs with
    | nil => rfl
    | cons d ds => simp [insertById, hc d (by simp)]

theorem tally_set (f : Counters → Nat) {cs : List Counters} {i : Nat} {d : Counters}
    (h : cs[i]? = some d) (c : Counters) : tally f (cs.set i c) + f d = tally f cs + f c := by
  induction cs generalizing i with
  | nil => simp at h
  | cons e cs ih =>
    cases i with
    | zero =>
      simp only [List.getElem?_cons_zero, Option.some.injEq] at h
      subst h
      simp only [List.set_cons_zero, tally_cons]
      omega
    | succ i =>
      have := ih h
      simp only [List.set_cons_succ, tally_cons]
      omega

theorem tally_eq_zero (f : Counters → Nat) {cs : List Counters} (h : ∀ c ∈ cs, f c = 0) :
    tally f cs = 0 := by
  induction cs with
  | nil => rfl
  | cons c cs ih =>
    simp only [tally_cons, h c (by simp), ih fun d hd => h d (by simp [hd])]

end Report

/-- Changing one entry of a list changes what it spreads to by that entry alone. -/
theorem List.flatMap_set_perm {β γ : Type} (f : β → List γ) {l : List β} {i : Nat} {a : β}
    (h : l[i]? = some a) (b : β) : ((l.set i b).flatMap f ++ f a).Perm (l.flatMap f ++ f b) := by
  induction l generalizing i with
  | nil => simp at h
  | cons y l ih =>
    cases i with
    | zero =>
      simp only [List.getElem?_cons_zero, Option.some.injEq] at h
      subst h
      simp only [List.set_cons_zero, List.flatMap_cons, List.append_assoc]
      calc f b ++ (l.flatMap f ++ f y)
          ~ (l.flatMap f ++ f y) ++ f b := List.perm_append_comm
        _ ~ (f y ++ l.flatMap f) ++ f b := List.perm_append_comm.append_right _
        _ = f y ++ (l.flatMap f ++ f b) := List.append_assoc _ _ _
    | succ i =>
      simp only [List.set_cons_succ, List.flatMap_cons, List.append_assoc]
      exact (ih h).append_left _

section Moves

variable {β : Type} {A B C C' : List β} {x : β}

/-- One more item lands in a bag: it joins both sides. -/
theorem List.perm_arrive (h : A.Perm (B ++ C)) (hC : C'.Perm (C ++ [x])) :
    (A ++ [x]).Perm (B ++ C') :=
  calc A ++ [x] ~ B ++ C ++ [x] := h.append_right _
    _ = B ++ (C ++ [x]) := List.append_assoc _ _ _
    _ ~ B ++ C' := hC.symm.append_left _

/-- An item moves out of a bag onto the record. -/
theorem List.perm_pass (h : A.Perm (B ++ C)) (hC : (C' ++ [x]).Perm C) :
    A.Perm (B ++ [x] ++ C') :=
  calc A ~ B ++ C := h
    _ ~ B ++ (C' ++ [x]) := hC.symm.append_left _
    _ ~ B ++ ([x] ++ C') := List.perm_append_comm.append_left _
    _ = B ++ [x] ++ C' := (List.append_assoc _ _ _).symm

theorem List.getElem?_set_cases {l : List β} {i j : Nat} {a b c : β} (hi : l[i]? = some a)
    (hj : (l.set i b)[j]? = some c) : (j = i ∧ c = b) ∨ (j ≠ i ∧ l[j]? = some c) := by
  by_cases hij : i = j
  · subst hij
    rw [List.getElem?_set_self (List.getElem?_eq_some_iff.1 hi).1] at hj
    exact .inl ⟨rfl, (Option.some.inj hj).symm⟩
  · rw [List.getElem?_set_ne hij] at hj
    exact .inr ⟨Ne.symm hij, hj⟩

end Moves

namespace QueueMonitor

variable {α : Type} {s s' : QueueMonitor α} {e : Event α}

@[simp] theorem taken_append (l₁ l₂ : List (Event α)) : taken (l₁ ++ l₂) = taken l₁ ++ taken l₂ := by
  simp [taken]

/-- A closed, empty queue stays closed and empty: givers are turned away and takers find
nothing. -/
theorem Step.keeps_drained (h : Step s e s') (hc : s.queue.closed = true)
    (hi : s.queue.items = []) : s'.queue.closed = true ∧ s'.queue.items = [] := by
  rcases h.queue_cases with ⟨t, c, r, rfl, ha⟩ | ⟨t, rfl, hq⟩ | ⟨hq, -, -⟩
  · rcases BoundedQueue.attempt_eq_some ha with ⟨x, -, -, -, hq⟩ | ⟨x, -, ho, -⟩ |
      ⟨-, -, -, -, hq⟩ | ⟨x, rest, -, hx, -⟩
    · rw [hq]
      exact ⟨hc, hi⟩
    · rw [hc] at ho
      cases ho
    · rw [hq]
      exact ⟨hc, hi⟩
    · rw [hi] at hx
      cases hx
  · rw [hq]
    exact ⟨rfl, hi⟩
  · rw [hq]
    exact ⟨hc, hi⟩

theorem keeps_drained_steps {tr : List (Event α)} (h : Steps Step s tr s')
    (hd : s.queue.closed = true ∧ s.queue.items = []) :
    s'.queue.closed = true ∧ s'.queue.items = [] := by
  induction h with
  | nil => exact hd
  | snoc _ h ih => exact h.keeps_drained ih.1 ih.2

end QueueMonitor

namespace PoolMonitor

variable {α : Type}

/-- The request a step handed to the handler, if any. -/
def Event.handledItem : Event α → Option α
  | .handled _ x _ => some x
  | _ => none

/-- The request whose connection a step dropped, if any. -/
def Event.droppedItem : Event α → Option α
  | .dropped _ x => some x
  | _ => none

/-- The worker whose loop a step of the handler or a drop belongs to. -/
def Event.worker : Event α → Option Nat
  | .handled w _ _ | .dropped w _ => some w
  | _ => none

/-- The requests handed to the handler along a run. -/
def handledItems (tr : List (Event α)) : List α := tr.filterMap Event.handledItem

/-- The requests whose connections were dropped along a run. -/
def droppedItems (tr : List (Event α)) : List α := tr.filterMap Event.droppedItem

/-- The handler's steps and the drops of the worker on thread `w`, in order. -/
def workerLog (w : Nat) (tr : List (Event α)) : List (Event α) :=
  tr.filter fun e => e.worker == some w

/-- The worker on thread `w` serving `jobs` one after the other: each request handed to the
handler, which counts its kind, and its connection dropped. -/
def served (w : Nat) (jobs : List (α × Kind)) : List (Event α) :=
  jobs.flatMap fun j => [.handled w j.1 j.2, .dropped w j.1]

/-- The request a worker holds for the handler. -/
def Stage.held : Stage α → List α
  | .handling x => [x]
  | _ => []

/-- The request whose connection a worker is about to drop. -/
def Stage.unclosed : Stage α → List α
  | .dropping x => [x]
  | _ => []

@[simp] theorem Stage.held_looping : (Stage.looping : Stage α).held = [] := rfl
@[simp] theorem Stage.held_handling (x : α) : (Stage.handling x).held = [x] := rfl
@[simp] theorem Stage.held_dropping (x : α) : (Stage.dropping x).held = [] := rfl
@[simp] theorem Stage.held_stopped : (Stage.stopped : Stage α).held = [] := rfl
@[simp] theorem Stage.unclosed_looping : (Stage.looping : Stage α).unclosed = [] := rfl
@[simp] theorem Stage.unclosed_handling (x : α) : (Stage.handling x).unclosed = [] := rfl
@[simp] theorem Stage.unclosed_dropping (x : α) : (Stage.dropping x).unclosed = [x] := rfl
@[simp] theorem Stage.unclosed_stopped : (Stage.stopped : Stage α).unclosed = [] := rfl

/-- The steps of a worker's loop so far: requests served one after the other, and, while it is
about to drop a connection, that request handed to the handler last. -/
def Stage.Logged (w : Nat) : Stage α → List (Event α) → Prop
  | .dropping x, log => ∃ jobs k, log = served w jobs ++ [.handled w x k]
  | _, log => ∃ jobs, log = served w jobs

/-- What `shutdown` has collected: the counters of the first workers, which have stopped; once
returned, the report over all of them. -/
def Shutdown.Collected (ws : List (Worker α)) : Shutdown → Prop
  | .joining got => got.length ≤ ws.length ∧ got = (ws.take got.length).map Worker.ctx ∧
      ∀ wk ∈ ws.take got.length, wk.stage = .stopped
  | .returned r => r = Report.ofWorkers (ws.map Worker.ctx) ∧ ∀ wk ∈ ws, wk.stage = .stopped
  | _ => True

section Trace

variable {tr : List (Event α)} {e : Event α}

@[simp] theorem handledItems_snoc : handledItems (tr ++ [e]) = handledItems tr ++ e.handledItem.toList := by
  cases h : e.handledItem <;> simp [handledItems, h]

@[simp] theorem droppedItems_snoc : droppedItems (tr ++ [e]) = droppedItems tr ++ e.droppedItem.toList := by
  cases h : e.droppedItem <;> simp [droppedItems, h]

theorem workerLog_snoc_of_ne {w : Nat} (h : e.worker ≠ some w) :
    workerLog w (tr ++ [e]) = workerLog w tr := by
  simp [workerLog, h]

theorem workerLog_snoc_self {w : Nat} (h : e.worker = some w) :
    workerLog w (tr ++ [e]) = workerLog w tr ++ [e] := by
  simp [workerLog, h]

end Trace

/-! ### What a step does to the workers and to `shutdown` -/

section Cases

variable {s s' : PoolMonitor α} {e : Event α}

/-- A step leaves the workers alone and hands nothing out; or a worker's `dequeue` returns a
request or finds the queue closed and empty; or the handler serves a worker's request; or a worker
drops a connection. -/
theorem Step.worker_cases (hp : Producing s) (h : Step s e s') :
    (s'.workers = s.workers ∧ e.worker = none ∧ e.handledItem = none ∧ e.droppedItem = none ∧
      QueueMonitor.taken e.queueEvents = []) ∨
    (∃ w c x, s.workers[w]? = some ⟨c, .looping⟩ ∧
      s'.workers = s.workers.set w ⟨c, .handling x⟩ ∧ e = .queue (.replied w .dequeue (.item x))) ∨
    (∃ w c err, s.workers[w]? = some ⟨c, .looping⟩ ∧ s'.workers = s.workers.set w ⟨c, .stopped⟩ ∧
      e = .queue (.replied w .dequeue (.refused err)) ∧ s.queue.queue.closed = true ∧
      s.queue.queue.items = [] ∧ s'.queue.queue = s.queue.queue) ∨
    (∃ w c x k, s.workers[w]? = some ⟨c, .handling x⟩ ∧
      s'.workers = s.workers.set w ⟨c.record k, .dropping x⟩ ∧ e = .handled w x k) ∨
    (∃ w c x, s.workers[w]? = some ⟨c, .dropping x⟩ ∧
      s'.workers = s.workers.set w ⟨c, .looping⟩ ∧ e = .dropped w x) := by
  cases h with
  | callDequeue _ _ => exact .inl ⟨rfl, rfl, rfl, rfl, rfl⟩
  | callEnqueue _ _ _ => exact .inl ⟨rfl, rfl, rfl, rfl, rfl⟩
  | callClose _ _ => exact .inl ⟨rfl, rfl, rfl, rfl, rfl⟩
  | inside h he _ =>
    refine .inl ⟨rfl, rfl, rfl, rfl, ?_⟩
    simp [Event.queueEvents, QueueMonitor.taken, hp.inside_not_taken h he]
  | take hw _ => exact .inr (.inl ⟨_, _, _, hw, rfl, rfl⟩)
  | stop hw h =>
    rcases h.dequeue_cases with ⟨x, rest, -, hr, -⟩ | ⟨hi, hr, hq⟩
    · cases hr
    · cases hr
      exact .inr (.inr (.inl ⟨_, _, _, hw, rfl, rfl, h.closed_of_refused, hi, hq⟩))
  | closeReturns _ _ => exact .inl ⟨rfl, rfl, rfl, rfl, rfl⟩
  | handle k hw => exact .inr (.inr (.inr (.inl ⟨_, _, _, k, hw, rfl, rfl⟩)))
  | drop hw => exact .inr (.inr (.inr (.inr ⟨_, _, _, hw, rfl, rfl⟩)))
  | join _ _ => exact .inl ⟨rfl, rfl, rfl, rfl, rfl⟩
  | finish _ _ => exact .inl ⟨rfl, rfl, rfl, rfl, rfl⟩

/-- `shutdown` stays where it is; or it calls `close`; or `close` returns; or it joins the next
worker, which has stopped; or, all joined, it returns the report. It moves only while the workers
stay as they are. -/
theorem Step.shutdown_cases (h : Step s e s') :
    s'.shutdown = s.shutdown ∨
    (s'.workers = s.workers ∧ (s'.shutdown = .closing ∨ s'.shutdown = .joining [])) ∨
    (∃ got c, s.shutdown = .joining got ∧ s.workers[got.length]? = some ⟨c, .stopped⟩ ∧
      s'.shutdown = .joining (got ++ [c]) ∧ s'.workers = s.workers) ∨
    (∃ got, s.shutdown = .joining got ∧ got.length = s.workers.length ∧
      s'.shutdown = .returned (Report.ofWorkers got) ∧ s'.workers = s.workers) := by
  cases h with
  | callClose _ _ => exact .inr (.inl ⟨rfl, .inl rfl⟩)
  | closeReturns _ _ => exact .inr (.inl ⟨rfl, .inr rfl⟩)
  | join hs hw => exact .inr (.inr (.inl ⟨_, _, hs, hw, rfl, rfl⟩))
  | finish hs hn => exact .inr (.inr (.inr ⟨_, hs, hn, rfl, rfl⟩))
  | callDequeue _ _ => exact .inl rfl
  | callEnqueue _ _ _ => exact .inl rfl
  | inside _ _ _ => exact .inl rfl
  | take _ _ => exact .inl rfl
  | stop _ _ => exact .inl rfl
  | handle _ _ => exact .inl rfl
  | drop _ => exact .inl rfl

theorem Step.keeps_drained (h : Step s e s')
    (hd : s.queue.queue.closed = true ∧ s.queue.queue.items = []) :
    s'.queue.queue.closed = true ∧ s'.queue.queue.items = [] :=
  QueueMonitor.keeps_drained_steps h.queue_steps hd

end Cases

/-! ### The invariant -/

/-- What every run of the pool keeps. -/
structure DrainInv (tr : List (Event α)) (s : PoolMonitor α) : Prop where
  /-- Whatever the queue handed out, the handler has seen or a worker holds. -/
  taken : (QueueMonitor.taken (queueTrace tr)).Perm
    (handledItems tr ++ s.workers.flatMap (·.stage.held))
  /-- Whatever the handler has seen was dropped or is about to be. -/
  dropped : (handledItems tr).Perm (droppedItems tr ++ s.workers.flatMap (·.stage.unclosed))
  logged : ∀ (w : Nat) (wk : Worker α), s.workers[w]? = some wk → wk.stage.Logged w (workerLog w tr)
  ids : ∀ (w : Nat) (wk : Worker α), s.workers[w]? = some wk → wk.ctx.id = w + 1
  total : Report.tally (·.total) (s.workers.map Worker.ctx) = (handledItems tr).length
  /-- Once a worker has stopped, the queue is closed and empty. -/
  drained : (∃ wk ∈ s.workers, Worker.stage wk = .stopped) →
    s.queue.queue.closed = true ∧ s.queue.queue.items = []
  collected : s.shutdown.Collected s.workers

section Invariant

variable {tr : List (Event α)} {s s' : PoolMonitor α} {e : Event α}

/-- A stopped worker in a list where one worker changed was there before, or is the new one. -/
theorem stopped_of_set {ws : List (Worker α)} {w : Nat} {wk₁ : Worker α}
    (h : ∃ wk ∈ ws.set w wk₁, Worker.stage wk = .stopped) :
    (∃ wk ∈ ws, Worker.stage wk = .stopped) ∨ wk₁.stage = .stopped := by
  obtain ⟨wk, hmem, hst⟩ := h
  rcases List.mem_or_eq_of_mem_set hmem with hmem | rfl
  · exact .inl ⟨wk, hmem, hst⟩
  · exact .inr hst

/-- A worker that has not stopped is past what `shutdown` has collected, so changing it keeps
the collection. -/
theorem Shutdown.Collected.set {sd : Shutdown} {ws : List (Worker α)} {w : Nat} {wk : Worker α}
    (hc : sd.Collected ws) (hw : ws[w]? = some wk) (hst : wk.stage ≠ .stopped)
    (wk₁ : Worker α) : sd.Collected (ws.set w wk₁) := by
  have hmem : wk ∈ ws := List.mem_of_getElem? hw
  cases sd with
  | running => trivial
  | closing => trivial
  | joining got =>
    obtain ⟨hle, hgot, hstop⟩ := hc
    have hgw : got.length ≤ w := by
      rcases Nat.lt_or_ge w got.length with hlt | hge
      · exact absurd (hstop wk (List.mem_iff_getElem?.2 ⟨w, by
          rw [List.getElem?_take_of_lt hlt]; exact hw⟩)) hst
      · exact hge
    rw [Shutdown.Collected, List.take_set_of_le hgw, List.length_set]
    exact ⟨hle, hgot, hstop⟩
  | returned r => exact absurd (hc.2 wk hmem) hst

theorem DrainInv.taken_step (hi : DrainInv tr s) (hp : Producing s) (h : Step s e s') :
    (QueueMonitor.taken (queueTrace (tr ++ [e]))).Perm
      (handledItems (tr ++ [e]) ++ s'.workers.flatMap (·.stage.held)) := by
  have hold := hi.taken
  rcases h.worker_cases hp with ⟨hw, -, hh, -, ht⟩ | ⟨w, c, x, hw, hs, rfl⟩ |
    ⟨w, c, err, hw, hs, rfl, -⟩ | ⟨w, c, x, k, hw, hs, rfl⟩ | ⟨w, c, x, hw, hs, rfl⟩
  · simpa [hw, hh, ht] using hold
  · have hset := List.flatMap_set_perm (·.stage.held) hw ⟨c, .handling x⟩
    simp only [Stage.held_looping, Stage.held_handling, List.append_nil] at hset
    have hq : QueueMonitor.taken [QueueMonitor.Event.replied w .dequeue (.item x)] = [x] := rfl
    rw [hs]
    simpa [Event.queueEvents, hq, Event.handledItem] using List.perm_arrive hold hset
  · have hset := List.flatMap_set_perm (·.stage.held) hw ⟨c, .stopped⟩
    simp only [Stage.held_looping, Stage.held_stopped, List.append_nil] at hset
    have hq : QueueMonitor.taken [QueueMonitor.Event.replied w .dequeue (.refused err)] = [] := rfl
    rw [hs]
    simpa [Event.queueEvents, hq, Event.handledItem] using hold.trans (hset.symm.append_left _)
  · have hset := List.flatMap_set_perm (·.stage.held) hw ⟨c.record k, .dropping x⟩
    simp only [Stage.held_handling, Stage.held_dropping, List.append_nil] at hset
    rw [hs]
    simpa [Event.queueEvents, Event.handledItem] using List.perm_pass hold hset
  · have hset := List.flatMap_set_perm (·.stage.held) hw ⟨c, .looping⟩
    simp only [Stage.held_dropping, Stage.held_looping, List.append_nil] at hset
    rw [hs]
    simpa [Event.queueEvents, Event.handledItem] using hold.trans (hset.symm.append_left _)

theorem DrainInv.dropped_step (hi : DrainInv tr s) (hp : Producing s) (h : Step s e s') :
    (handledItems (tr ++ [e])).Perm
      (droppedItems (tr ++ [e]) ++ s'.workers.flatMap (·.stage.unclosed)) := by
  have hold := hi.dropped
  rcases h.worker_cases hp with ⟨hw, -, hh, hd, -⟩ | ⟨w, c, x, hw, hs, rfl⟩ |
    ⟨w, c, err, hw, hs, rfl, -⟩ | ⟨w, c, x, k, hw, hs, rfl⟩ | ⟨w, c, x, hw, hs, rfl⟩
  · simpa [hw, hh, hd] using hold
  · have hset := List.flatMap_set_perm (·.stage.unclosed) hw ⟨c, .handling x⟩
    simp only [Stage.unclosed_looping, Stage.unclosed_handling, List.append_nil] at hset
    rw [hs]
    simpa [Event.handledItem, Event.droppedItem] using hold.trans (hset.symm.append_left _)
  · have hset := List.flatMap_set_perm (·.stage.unclosed) hw ⟨c, .stopped⟩
    simp only [Stage.unclosed_looping, Stage.unclosed_stopped, List.append_nil] at hset
    rw [hs]
    simpa [Event.handledItem, Event.droppedItem] using hold.trans (hset.symm.append_left _)
  · have hset := List.flatMap_set_perm (·.stage.unclosed) hw ⟨c.record k, .dropping x⟩
    simp only [Stage.unclosed_handling, Stage.unclosed_dropping, List.append_nil] at hset
    rw [hs]
    simpa [Event.handledItem, Event.droppedItem] using List.perm_arrive hold hset
  · have hset := List.flatMap_set_perm (·.stage.unclosed) hw ⟨c, .looping⟩
    simp only [Stage.unclosed_dropping, Stage.unclosed_looping, List.append_nil] at hset
    rw [hs]
    simpa [Event.handledItem, Event.droppedItem] using List.perm_pass hold hset

/-- A worker leaving the head of its loop for anything but a drop keeps its log as it was. -/
theorem DrainInv.logged_of_looping (hi : DrainInv tr s) {w u : Nat} {c : Counters} {st : Stage α}
    {wk : Worker α} (hw : s.workers[w]? = some ⟨c, .looping⟩) (hst : ∀ x, st ≠ .dropping x)
    (hu : (s.workers.set w ⟨c, st⟩)[u]? = some wk) : wk.stage.Logged u (workerLog u tr) := by
  rcases List.getElem?_set_cases hw hu with ⟨rfl, rfl⟩ | ⟨-, hu⟩
  · obtain ⟨jobs, hjobs⟩ := hi.logged u _ hw
    cases st with
    | dropping x => exact absurd rfl (hst x)
    | looping => exact ⟨jobs, hjobs⟩
    | handling x => exact ⟨jobs, hjobs⟩
    | stopped => exact ⟨jobs, hjobs⟩
  · exact hi.logged u wk hu

theorem DrainInv.logged_step (hi : DrainInv tr s) (hp : Producing s) (h : Step s e s')
    (u : Nat) (wk : Worker α) (hu : s'.workers[u]? = some wk) :
    wk.stage.Logged u (workerLog u (tr ++ [e])) := by
  rcases h.worker_cases hp with ⟨hw, he, -, -, -⟩ | ⟨w, c, x, hw, hs, rfl⟩ |
    ⟨w, c, err, hw, hs, rfl, -⟩ | ⟨w, c, x, k, hw, hs, rfl⟩ | ⟨w, c, x, hw, hs, rfl⟩
  · rw [hw] at hu
    rw [workerLog_snoc_of_ne (by simp [he])]
    exact hi.logged u wk hu
  · rw [hs] at hu
    rw [workerLog_snoc_of_ne (by simp [Event.worker])]
    exact hi.logged_of_looping hw (fun _ h => by cases h) hu
  · rw [hs] at hu
    rw [workerLog_snoc_of_ne (by simp [Event.worker])]
    exact hi.logged_of_looping hw (fun _ h => by cases h) hu
  · rw [hs] at hu
    rcases List.getElem?_set_cases hw hu with ⟨rfl, rfl⟩ | ⟨hne, hu⟩
    · obtain ⟨jobs, hjobs⟩ := hi.logged u _ hw
      rw [workerLog_snoc_self rfl, hjobs]
      exact ⟨jobs, k, rfl⟩
    · rw [workerLog_snoc_of_ne (by simp [Event.worker, Ne.symm hne])]
      exact hi.logged u wk hu
  · rw [hs] at hu
    rcases List.getElem?_set_cases hw hu with ⟨rfl, rfl⟩ | ⟨hne, hu⟩
    · obtain ⟨jobs, k, hjobs⟩ := hi.logged u _ hw
      rw [workerLog_snoc_self rfl, hjobs]
      exact ⟨jobs ++ [(x, k)], by simp [served]⟩
    · rw [workerLog_snoc_of_ne (by simp [Event.worker, Ne.symm hne])]
      exact hi.logged u wk hu

theorem DrainInv.ids_step (hi : DrainInv tr s) (hp : Producing s) (h : Step s e s')
    (u : Nat) (wk : Worker α) (hu : s'.workers[u]? = some wk) : wk.ctx.id = u + 1 := by
  rcases h.worker_cases hp with ⟨hw, -, -, -, -⟩ | ⟨w, c, x, hw, hs, -⟩ |
    ⟨w, c, err, hw, hs, -⟩ | ⟨w, c, x, k, hw, hs, -⟩ | ⟨w, c, x, hw, hs, -⟩
  · rw [hw] at hu
    exact hi.ids u wk hu
  all_goals
    rw [hs] at hu
    rcases List.getElem?_set_cases hw hu with ⟨rfl, rfl⟩ | ⟨-, hu⟩
    · simpa using hi.ids u _ hw
    · exact hi.ids u wk hu

theorem DrainInv.total_step (hi : DrainInv tr s) (hp : Producing s) (h : Step s e s') :
    Report.tally (·.total) (s'.workers.map Worker.ctx) = (handledItems (tr ++ [e])).length := by
  have hold := hi.total
  rcases h.worker_cases hp with ⟨hw, -, hh, -, -⟩ | ⟨w, c, x, hw, hs, rfl⟩ |
    ⟨w, c, err, hw, hs, rfl, -⟩ | ⟨w, c, x, k, hw, hs, rfl⟩ | ⟨w, c, x, hw, hs, rfl⟩
  · simpa [hw, hh] using hold
  all_goals
    have hctx : (s.workers.map Worker.ctx)[w]? = some c := by simp [hw]
    have hset := Report.tally_set (·.total) hctx
    rw [hs, List.map_set]
    simp only [handledItems_snoc, Event.handledItem, Option.toList_none, Option.toList_some,
      List.append_nil, List.length_append, List.length_singleton]
  · have := hset c
    omega
  · have := hset c
    omega
  · have := hset (c.record k)
    simp only [Counters.record_total] at this
    omega
  · have := hset c
    omega

/-- A step that changes one worker, to a stage other than stopped, keeps the queue closed and
empty once some worker has stopped. -/
theorem DrainInv.drained_set (hi : DrainInv tr s) (h : Step s e s') {w : Nat} {wk₁ : Worker α}
    (hs : s'.workers = s.workers.set w wk₁) (hst : wk₁.stage ≠ .stopped)
    (hstop : ∃ wk ∈ s'.workers, Worker.stage wk = .stopped) :
    s'.queue.queue.closed = true ∧ s'.queue.queue.items = [] := by
  rw [hs] at hstop
  rcases stopped_of_set hstop with hstop | hnew
  · exact h.keeps_drained (hi.drained hstop)
  · exact absurd hnew hst

theorem DrainInv.drained_step (hi : DrainInv tr s) (hp : Producing s) (h : Step s e s')
    (hstop : ∃ wk ∈ s'.workers, Worker.stage wk = .stopped) :
    s'.queue.queue.closed = true ∧ s'.queue.queue.items = [] := by
  rcases h.worker_cases hp with ⟨hw, -, -, -, -⟩ | ⟨w, c, x, hw, hs, -⟩ |
    ⟨w, c, err, hw, hs, -, hc, hi', hq⟩ | ⟨w, c, x, k, hw, hs, -⟩ | ⟨w, c, x, hw, hs, -⟩
  · rw [hw] at hstop
    exact h.keeps_drained (hi.drained hstop)
  · exact hi.drained_set h hs (fun h => by cases h) hstop
  · rw [hq]
    exact ⟨hc, hi'⟩
  · exact hi.drained_set h hs (fun h => by cases h) hstop
  · exact hi.drained_set h hs (fun h => by cases h) hstop

theorem DrainInv.collected_step (hi : DrainInv tr s) (hp : Producing s) (h : Step s e s') :
    s'.shutdown.Collected s'.workers := by
  rcases h.shutdown_cases with hsd | ⟨hw, hsd | hsd⟩ | ⟨got, c, hsd, hc, hsd', hw⟩ |
    ⟨got, hsd, hn, hsd', hw⟩
  · rw [hsd]
    rcases h.worker_cases hp with ⟨hw, -, -, -, -⟩ | ⟨w, c, x, hw, hs, -⟩ |
      ⟨w, c, err, hw, hs, -⟩ | ⟨w, c, x, k, hw, hs, -⟩ | ⟨w, c, x, hw, hs, -⟩
    · rw [hw]
      exact hi.collected
    all_goals
      rw [hs]
      exact hi.collected.set hw nofun _
  · rw [hsd]
    trivial
  · rw [hsd, hw]
    simp [Shutdown.Collected]
  · have hcol := hi.collected
    rw [hsd] at hcol
    obtain ⟨-, hgot, hstop⟩ := hcol
    have hlt := (List.getElem?_eq_some_iff.1 hc).1
    have htake : s.workers.take (got.length + 1) = s.workers.take got.length ++ [⟨c, .stopped⟩] := by
      rw [List.take_add_one, hc]
      rfl
    rw [hsd', hw]
    refine ⟨by simp only [List.length_append, List.length_singleton]; omega, ?_, ?_⟩
    · simp only [List.length_append, List.length_singleton, htake, List.map_append, List.map_cons,
        List.map_nil]
      rw [← hgot]
    · simp only [List.length_append, List.length_singleton, htake, List.mem_append,
        List.mem_singleton]
      rintro wk (hwk | rfl)
      · exact hstop wk hwk
      · rfl
  · have hcol := hi.collected
    rw [hsd] at hcol
    obtain ⟨-, hgot, hstop⟩ := hcol
    rw [hn, List.take_length] at hgot hstop
    rw [hsd', hw]
    exact ⟨by rw [hgot], hstop⟩

theorem DrainInv.step (hi : DrainInv tr s) (hp : Producing s) (h : Step s e s') :
    DrainInv (tr ++ [e]) s' :=
  ⟨hi.taken_step hp h, hi.dropped_step hp h, hi.logged_step hp h, hi.ids_step hp h,
    hi.total_step hp h, hi.drained_step hp h, hi.collected_step hp h⟩

theorem DrainInv.initial (q : BoundedQueue α) (n p : Nat) : DrainInv [] (init q n p) := by
  have hinit : ∀ (u : Nat) (wk : Worker α), (init q n p).workers[u]? = some wk →
      wk = ⟨Counters.new (u + 1), .looping⟩ := by
    intro u wk hu
    simp only [init, List.getElem?_map] at hu
    obtain ⟨w, hw, rfl⟩ := Option.map_eq_some_iff.1 hu
    obtain ⟨hlt, rfl⟩ := List.getElem?_eq_some_iff.1 hw
    rw [List.getElem_range]
  refine ⟨?_, ?_, ?_, ?_, ?_, ?_, trivial⟩
  · simp [init, queueTrace, handledItems, QueueMonitor.taken, List.flatMap_eq_nil_iff]
  · simp [init, handledItems, droppedItems, List.flatMap_eq_nil_iff]
  · intro u wk hu
    obtain rfl := hinit u wk hu
    exact ⟨[], rfl⟩
  · intro u wk hu
    obtain rfl := hinit u wk hu
    rfl
  · rw [Report.tally_eq_zero]
    · rfl
    · simp [init, Counters.new]
  · rintro ⟨wk, hmem, hst⟩
    obtain ⟨u, hu⟩ := List.mem_iff_getElem?.1 hmem
    obtain rfl := hinit u wk hu
    cases hst

theorem DrainInv.run {q : BoundedQueue α} {n p : Nat} (hr : Steps Step (init q n p) tr s) :
    DrainInv tr s := by
  induction hr with
  | nil => exact initial q n p
  | snoc h₀ h ih => exact ih.step (Producing.run h₀) h

end Invariant

/-! ### When `shutdown` returns -/

/-- What holds once `shutdown` has returned the report `r` of a pool of `n` workers. -/
structure Drained (n : Nat) (tr : List (Event α)) (s : PoolMonitor α) (r : Report) : Prop where
  /-- Every request the queue accepted was handed to the handler exactly once. -/
  handled_once : (handledItems tr).Perm (QueueMonitor.accepted (queueTrace tr))
  /-- Every accepted request's connection was dropped exactly once. -/
  dropped_once : (droppedItems tr).Perm (QueueMonitor.accepted (queueTrace tr))
  /-- Each worker dropped the connection of each request it handled, before anything else. -/
  drop_follows_handle : ∀ (w : Nat) (wk : Worker α), s.workers[w]? = some wk →
    ∃ jobs, workerLog w tr = served w jobs
  closed : s.queue.queue.closed = true
  empty : s.queue.queue.items = []
  stopped : ∀ wk ∈ s.workers, Worker.stage wk = .stopped
  workers : r.workers = s.workers.map Worker.ctx
  ids : r.workers.map Counters.id = (List.range n).map (· + 1)
  total : r.total = (QueueMonitor.accepted (queueTrace tr)).length

theorem flatMap_stopped {ws : List (Worker α)} {f : Stage α → List α}
    (hstop : ∀ wk ∈ ws, Worker.stage wk = .stopped) (hf : f .stopped = []) :
    ws.flatMap (fun wk => f wk.stage) = [] := by
  rw [List.flatMap_eq_nil_iff]
  intro wk hwk
  rw [hstop wk hwk, hf]

/-- The counters of the workers, one per thread, have ids `1` to `n` in order. -/
theorem ids_eq_range {ws : List (Worker α)} {n : Nat} (hn : ws.length = n)
    (hids : ∀ (w : Nat) (wk : Worker α), ws[w]? = some wk → wk.ctx.id = w + 1) :
    (ws.map Worker.ctx).map Counters.id = (List.range n).map (· + 1) := by
  apply List.ext_getElem
  · simp [hn]
  · intro i h₁ h₂
    simp only [List.length_map] at h₁
    simp only [List.getElem_map, List.getElem_range]
    exact hids i _ (List.getElem?_eq_getElem h₁)

/-- However the workers, producers and `shutdown` interleave, with at least one worker and a queue
made by `new?`: once `shutdown` has returned, every accepted request was handed to the handler
exactly once and its connection dropped once, each right after its handling by the same worker;
the queue is closed and empty; and the report holds the workers' final counters with ids `1` to
`n` in order, and a total equal to the number of requests accepted. -/
theorem serves_every_request_once {cap width n p : Nat} {q : BoundedQueue α}
    (hq : BoundedQueue.new? cap width = .ok q) (hn : 0 < n) {tr : List (Event α)}
    {s : PoolMonitor α} {r : Report} (hr : Steps Step (init q n p) tr s)
    (hs : s.shutdown = .returned r) : Drained n tr s r := by
  have hi := DrainInv.run hr
  have hlen := workers_length_run hr
  have hcol := hi.collected
  rw [hs] at hcol
  obtain ⟨hrep, hstop⟩ := hcol
  have hdrained : s.queue.queue.closed = true ∧ s.queue.queue.items = [] := by
    obtain ⟨wk, hwk⟩ : ∃ wk, s.workers[0]? = some wk :=
      Option.isSome_iff_exists.1 (by simp [hlen, hn])
    exact hi.drained ⟨wk, List.mem_of_getElem? hwk, hstop wk (List.mem_of_getElem? hwk)⟩
  have htaken : QueueMonitor.taken (queueTrace tr) = QueueMonitor.accepted (queueTrace tr) := by
    have hfifo := (QueueMonitor.FifoInv.run hq (queue_run hr)).fifo
    rwa [hdrained.2, List.append_nil] at hfifo
  have hheld : s.workers.flatMap (·.stage.held) = [] := flatMap_stopped hstop rfl
  have hunclosed : s.workers.flatMap (·.stage.unclosed) = [] := flatMap_stopped hstop rfl
  have hhandled : (handledItems tr).Perm (QueueMonitor.accepted (queueTrace tr)) := by
    have h := hi.taken
    rw [hheld, List.append_nil, htaken] at h
    exact h.symm
  have hdropped : (droppedItems tr).Perm (handledItems tr) := by
    have h := hi.dropped
    rw [hunclosed, List.append_nil] at h
    exact h.symm
  have hids := ids_eq_range hlen hi.ids
  have hsorted : r.workers = s.workers.map Worker.ctx := by
    rw [hrep]
    apply Report.sortById_eq_self
    rw [← List.pairwise_map, hids, List.pairwise_map]
    exact List.pairwise_lt_range.imp fun h => by omega
  refine ⟨hhandled, hdropped.trans hhandled, ?_, hdrained.1, hdrained.2, hstop, hsorted,
    by rw [hsorted, hids], ?_⟩
  · intro w wk hw
    have hlog := hi.logged w wk hw
    rw [hstop wk (List.mem_of_getElem? hw)] at hlog
    exact hlog
  · rw [hrep, ← hhandled.length_eq, ← hi.total]
    rfl

/-- One worker, one producer, a queue of capacity one: the producer's request 7 is accepted, the
worker takes it, the handler counts it as static and the worker drops it; `shutdown` closes the
queue, the worker finds it closed and empty and stops, and `shutdown` joins it and reports. -/
theorem served_one_request_run :
    Steps Step (init (⟨[], 1, false⟩ : BoundedQueue Nat) 1 1)
      [.queue .silent, .queue (.replied 2 (.enqueue 7) .accepted), .queue .silent,
        .queue (.replied 0 .dequeue (.item 7)), .handled 0 7 .static, .dropped 0 7,
        .queue .silent, .queue (.shut 1), .queue .silent, .queue (.closed 1), .queue .silent,
        .queue (.replied 0 .dequeue (.refused (.closed none))), .joined 0,
        .finished (Report.ofWorkers [(Counters.new 1).record .static])]
      ⟨⟨⟨[], 1, true⟩, [.idle, .idle, .idle]⟩, [⟨(Counters.new 1).record .static, .stopped⟩],
        .returned (Report.ofWorkers [(Counters.new 1).record .static])⟩ := by
  have h₁ : Step (init (⟨[], 1, false⟩ : BoundedQueue Nat) 1 1) (.queue .silent)
      ⟨⟨⟨[], 1, false⟩, [.idle, .idle, .entering (.enqueue 7)]⟩,
        [⟨Counters.new 1, .looping⟩], .running⟩ := .callEnqueue (t := 2) 7 (by decide) rfl
  have h₂ : Step ⟨⟨⟨[], 1, false⟩, [.idle, .idle, .entering (.enqueue 7)]⟩,
        [⟨Counters.new 1, .looping⟩], .running⟩
      (.queue (.replied 2 (.enqueue 7) .accepted))
      ⟨⟨⟨[7], 1, false⟩, [.idle, .idle, .idle]⟩, [⟨Counters.new 1, .looping⟩], .running⟩ :=
    .inside (.finish (p := .entering (.enqueue 7)) rfl rfl rfl (.cons (.none (by decide)) .nil))
      (.inr (.inr ⟨2, .enqueue 7, .accepted, by decide, rfl⟩))
      (fun t ht => by rcases t with _ | _ | _ | t <;> first | rfl | cases ht)
  have h₃ : Step ⟨⟨⟨[7], 1, false⟩, [.idle, .idle, .idle]⟩, [⟨Counters.new 1, .looping⟩], .running⟩
      (.queue .silent)
      ⟨⟨⟨[7], 1, false⟩, [.entering .dequeue, .idle, .idle]⟩, [⟨Counters.new 1, .looping⟩],
        .running⟩ := .callDequeue (w := 0) rfl rfl
  have h₄ : Step ⟨⟨⟨[7], 1, false⟩, [.entering .dequeue, .idle, .idle]⟩,
        [⟨Counters.new 1, .looping⟩], .running⟩
      (.queue (.replied 0 .dequeue (.item 7)))
      ⟨⟨⟨[], 1, false⟩, [.idle, .idle, .idle]⟩, [⟨Counters.new 1, .handling 7⟩], .running⟩ :=
    .take rfl (.finish (p := .entering .dequeue) rfl rfl rfl (.cons (.none (by decide)) .nil))
  have h₅ : Step ⟨⟨⟨[], 1, false⟩, [.idle, .idle, .idle]⟩, [⟨Counters.new 1, .handling 7⟩], .running⟩
      (.handled 0 7 .static)
      ⟨⟨⟨[], 1, false⟩, [.idle, .idle, .idle]⟩,
        [⟨(Counters.new 1).record .static, .dropping 7⟩], .running⟩ := .handle (w := 0) .static rfl
  have h₆ : Step ⟨⟨⟨[], 1, false⟩, [.idle, .idle, .idle]⟩,
        [⟨(Counters.new 1).record .static, .dropping 7⟩], .running⟩
      (.dropped 0 7)
      ⟨⟨⟨[], 1, false⟩, [.idle, .idle, .idle]⟩,
        [⟨(Counters.new 1).record .static, .looping⟩], .running⟩ := .drop (w := 0) rfl
  have h₇ : Step (α := Nat) ⟨⟨⟨[], 1, false⟩, [.idle, .idle, .idle]⟩,
        [⟨(Counters.new 1).record .static, .looping⟩], .running⟩
      (.queue .silent)
      ⟨⟨⟨[], 1, false⟩, [.idle, .closing, .idle]⟩,
        [⟨(Counters.new 1).record .static, .looping⟩], .closing⟩ := .callClose rfl rfl
  have h₈ : Step (α := Nat) ⟨⟨⟨[], 1, false⟩, [.idle, .closing, .idle]⟩,
        [⟨(Counters.new 1).record .static, .looping⟩], .closing⟩
      (.queue (.shut 1))
      ⟨⟨⟨[], 1, true⟩, [.idle, .wakingTakers, .idle]⟩,
        [⟨(Counters.new 1).record .static, .looping⟩], .closing⟩ :=
    .inside (.shut (t := 1) rfl) (.inr (.inl ⟨1, rfl⟩))
      (fun t ht => by rcases t with _ | _ | _ | t <;> first | rfl | cases ht)
  have h₉ : Step (α := Nat) ⟨⟨⟨[], 1, true⟩, [.idle, .wakingTakers, .idle]⟩,
        [⟨(Counters.new 1).record .static, .looping⟩], .closing⟩
      (.queue .silent)
      ⟨⟨⟨[], 1, true⟩, [.idle, .wakingGivers, .idle]⟩,
        [⟨(Counters.new 1).record .static, .looping⟩], .closing⟩ :=
    .inside (.wakeTakers (t := 1) rfl) (.inl rfl)
      (fun t ht => by rcases t with _ | _ | _ | t <;> first | rfl | cases ht)
  have h₁₀ : Step (α := Nat) ⟨⟨⟨[], 1, true⟩, [.idle, .wakingGivers, .idle]⟩,
        [⟨(Counters.new 1).record .static, .looping⟩], .closing⟩
      (.queue (.closed 1))
      ⟨⟨⟨[], 1, true⟩, [.idle, .idle, .idle]⟩,
        [⟨(Counters.new 1).record .static, .looping⟩], .joining []⟩ :=
    .closeReturns rfl (.wakeGivers rfl)
  have h₁₁ : Step (α := Nat) ⟨⟨⟨[], 1, true⟩, [.idle, .idle, .idle]⟩,
        [⟨(Counters.new 1).record .static, .looping⟩], .joining []⟩
      (.queue .silent)
      ⟨⟨⟨[], 1, true⟩, [.entering .dequeue, .idle, .idle]⟩,
        [⟨(Counters.new 1).record .static, .looping⟩], .joining []⟩ := .callDequeue (w := 0) rfl rfl
  have h₁₂ : Step (α := Nat) ⟨⟨⟨[], 1, true⟩, [.entering .dequeue, .idle, .idle]⟩,
        [⟨(Counters.new 1).record .static, .looping⟩], .joining []⟩
      (.queue (.replied 0 .dequeue (.refused (.closed none))))
      ⟨⟨⟨[], 1, true⟩, [.idle, .idle, .idle]⟩,
        [⟨(Counters.new 1).record .static, .stopped⟩], .joining []⟩ :=
    .stop rfl (.finish (p := .entering .dequeue) rfl rfl rfl .nil)
  have h₁₃ : Step (α := Nat) ⟨⟨⟨[], 1, true⟩, [.idle, .idle, .idle]⟩,
        [⟨(Counters.new 1).record .static, .stopped⟩], .joining []⟩
      (.joined 0)
      ⟨⟨⟨[], 1, true⟩, [.idle, .idle, .idle]⟩,
        [⟨(Counters.new 1).record .static, .stopped⟩],
        .joining [(Counters.new 1).record .static]⟩ := @Step.join Nat _ [] _ rfl rfl
  have h₁₄ : Step (α := Nat) ⟨⟨⟨[], 1, true⟩, [.idle, .idle, .idle]⟩,
        [⟨(Counters.new 1).record .static, .stopped⟩],
        .joining [(Counters.new 1).record .static]⟩
      (.finished (Report.ofWorkers [(Counters.new 1).record .static]))
      ⟨⟨⟨[], 1, true⟩, [.idle, .idle, .idle]⟩, [⟨(Counters.new 1).record .static, .stopped⟩],
        .returned (Report.ofWorkers [(Counters.new 1).record .static])⟩ := .finish rfl rfl
  exact .snoc (.snoc (.snoc (.snoc (.snoc (.snoc (.snoc (.snoc (.snoc (.snoc (.snoc (.snoc
    (.snoc (.snoc .nil h₁) h₂) h₃) h₄) h₅) h₆) h₇) h₈) h₉) h₁₀) h₁₁) h₁₂) h₁₃) h₁₄

theorem serves_every_request_once_one_request :
    BoundedQueue.new? 1 8 = .ok (⟨[], 1, false⟩ : BoundedQueue Nat) ∧ 0 < 1 ∧
    Steps Step (init (⟨[], 1, false⟩ : BoundedQueue Nat) 1 1)
      [.queue .silent, .queue (.replied 2 (.enqueue 7) .accepted), .queue .silent,
        .queue (.replied 0 .dequeue (.item 7)), .handled 0 7 .static, .dropped 0 7,
        .queue .silent, .queue (.shut 1), .queue .silent, .queue (.closed 1), .queue .silent,
        .queue (.replied 0 .dequeue (.refused (.closed none))), .joined 0,
        .finished (Report.ofWorkers [(Counters.new 1).record .static])]
      ⟨⟨⟨[], 1, true⟩, [.idle, .idle, .idle]⟩, [⟨(Counters.new 1).record .static, .stopped⟩],
        .returned (Report.ofWorkers [(Counters.new 1).record .static])⟩ ∧
    Drained 1
      [.queue .silent, .queue (.replied 2 (.enqueue 7) .accepted), .queue .silent,
        .queue (.replied 0 .dequeue (.item 7)), .handled 0 7 .static, .dropped 0 7,
        .queue .silent, .queue (.shut 1), .queue .silent, .queue (.closed 1), .queue .silent,
        .queue (.replied 0 .dequeue (.refused (.closed none))), .joined 0,
        .finished (Report.ofWorkers [(Counters.new 1).record .static])]
      ⟨⟨⟨[], 1, true⟩, [.idle, .idle, .idle]⟩, [⟨(Counters.new 1).record .static, .stopped⟩],
        .returned (Report.ofWorkers [(Counters.new 1).record .static])⟩
      (Report.ofWorkers [(Counters.new 1).record .static]) :=
  ⟨rfl, by decide, served_one_request_run,
    serves_every_request_once (rfl : BoundedQueue.new? 1 8 = .ok ⟨[], 1, false⟩) (by decide)
      served_one_request_run rfl⟩

end PoolMonitor

end PoolServer
