import PoolServer.Pool.Basic
import PoolServer.Proofs.PoolDrain
/-!
# The pool's schedule is a run of the pool monitor

`Pool.run` follows one schedule of the workers: the lowest-numbered live worker takes each job as
soon as it is queued. This module shows that schedule to be a run of the pool monitor, step by
step. On a queue of room for at least one request, with every thread idle, the producer queues a
job and the first worker takes it, hands it to the handler and drops its connection (`job_run`);
`shutdown` then closes the queue (`close_run`), each worker is told so and leaves its loop
(`stops_run`), and `shutdown` joins them in order and returns the report of their counters
(`joins_run`, `shutdown_run`).

Main statement: without failing jobs, a pool run on a queue that could be made succeeds, and the
monitor has a run from its initial state that hands every job to the handler in order and ends
with `shutdown` returning the pool run's report over the pool run's final queue.
-/
namespace PoolServer

namespace PoolMonitor

open QueueMonitor (Phase Cond WakeEach)

variable {α : Type}

section Threads

/-- With every thread idle, waking changes nothing. -/
theorem wakeEach_idle (cs : List Cond) (k : Nat) :
    WakeEach cs (List.replicate k (Phase.idle : Phase α)) (List.replicate k .idle) := by
  induction cs with
  | nil => exact .nil
  | cons c cs ih => exact .cons (.none fun p hp => by rw [List.eq_of_mem_replicate hp]; rfl) ih

theorem set_idle_replicate (k t : Nat) (p : Phase α) :
    ((List.replicate k (Phase.idle : Phase α)).set t p).set t .idle = List.replicate k .idle := by
  rw [List.set_set, List.set_replicate_self]

theorem idle_of_idle {k t : Nat} {ts : List (Phase α)} (hk : ts.length = k)
    (ht : ts[t]? = some .idle) :
    (List.replicate k (Phase.idle : Phase α))[t]? = some .idle := by
  have := (List.getElem?_eq_some_iff.1 ht).1
  simp [hk ▸ this]

theorem idle_set_idle {k t u : Nat} {p : Phase α} (p' : Phase α) (hp : p ≠ .idle)
    (h : ((List.replicate k (Phase.idle : Phase α)).set t p)[u]? = some .idle) :
    ((List.replicate k (Phase.idle : Phase α)).set t p')[u]? = some .idle := by
  have htu : t ≠ u := by
    rintro rfl
    simp [List.getElem?_set] at h
    exact hp h.2
  rw [List.getElem?_set_ne htu] at h ⊢
  exact h

theorem map_wakeOn_set (w : Cond) (k t : Nat) (p : Phase α) :
    ((List.replicate k (Phase.idle : Phase α)).set t p).map (Phase.wakeOn w) =
      (List.replicate k .idle).set t (p.wakeOn w) := by
  rw [List.map_set, List.map_replicate]
  rfl

end Threads

/-- The pool over queue `q` with every one of its `k` threads idle. -/
def quiet (q : BoundedQueue α) (k : Nat) (ws : List (Worker α)) (sd : Shutdown) :
    PoolMonitor α :=
  ⟨⟨q, List.replicate k .idle⟩, ws, sd⟩

/-- On an empty open queue with room, an idle producer on thread `t` queues `x`. -/
theorem enqueue_run {cap k t : Nat} (hcap : 0 < cap) {ws : List (Worker α)} {sd : Shutdown}
    (hp : ws.length < t) (ht : t < k) (x : α) :
    Steps Step (quiet ⟨[], cap, false⟩ k ws sd)
      [.queue .silent, .queue (.replied t (.enqueue x) .accepted)]
      (quiet ⟨[x], cap, false⟩ k ws sd) := by
  have h₁ : Step (quiet ⟨[], cap, false⟩ k ws sd) (.queue .silent)
      ⟨⟨⟨[], cap, false⟩, (List.replicate k .idle).set t (.entering (.enqueue x))⟩, ws,
        sd⟩ :=
    .callEnqueue x hp (by simp [quiet, ht])
  have ha : (⟨[], cap, false⟩ : BoundedQueue α).attempt (.enqueue x) =
      some (⟨[x], cap, false⟩, .accepted) := by
    simp [BoundedQueue.attempt, BoundedQueue.mustWaitToEnqueue, BoundedQueue.size,
      BoundedQueue.enqueue]
    omega
  have hin : ((List.replicate k (Phase.idle : Phase α)).set t
      (.entering (.enqueue x))).length = k := by
    simp
  have h₂ : Step ⟨⟨⟨[], cap, false⟩, (List.replicate k .idle).set t (.entering (.enqueue x))⟩,
        ws, sd⟩
      (.queue (.replied t (.enqueue x) .accepted)) (quiet ⟨[x], cap, false⟩ k ws sd) := by
    refine .inside (.finish (t := t) (p := .entering (.enqueue x)) (by simp [ht]) rfl ha ?_)
      (.inr (.inr ⟨t, .enqueue x, .accepted, hp, rfl⟩)) fun u hu => idle_of_idle hin hu
    rw [set_idle_replicate]
    exact wakeEach_idle _ _
  exact .snoc (.snoc .nil h₁) h₂

/-- A worker at the head of its loop takes the one request of the queue, hands it to the handler,
which counts kind `kind`, and drops its connection. -/
theorem serve_run {cap k w : Nat} {ws : List (Worker α)} {c : Counters} {sd : Shutdown}
    (hw : ws[w]? = some ⟨c, .looping⟩) (hk : w < k) (x : α) (kind : Kind) :
    Steps Step (quiet ⟨[x], cap, false⟩ k ws sd)
      [.queue .silent, .queue (.replied w .dequeue (.item x)), .handled w x kind, .dropped w x]
      (quiet ⟨[], cap, false⟩ k (ws.set w ⟨c.record kind, .looping⟩) sd) := by
  have h₁ : Step (quiet ⟨[x], cap, false⟩ k ws sd) (.queue .silent)
      ⟨⟨⟨[x], cap, false⟩, (List.replicate k .idle).set w (.entering .dequeue)⟩, ws,
        sd⟩ :=
    .callDequeue hw (by simp [quiet, hk])
  have ha : (⟨[x], cap, false⟩ : BoundedQueue α).attempt .dequeue =
      some (⟨[], cap, false⟩, .item x) := by
    simp [BoundedQueue.attempt, BoundedQueue.mustWaitToDequeue, BoundedQueue.dequeue]
  have h₂ : Step ⟨⟨⟨[x], cap, false⟩, (List.replicate k .idle).set w (.entering .dequeue)⟩, ws,
        sd⟩
      (.queue (.replied w .dequeue (.item x)))
      (quiet ⟨[], cap, false⟩ k (ws.set w ⟨c, .handling x⟩) sd) := by
    refine .take hw (.finish (t := w) (p := .entering .dequeue) (by simp [hk]) rfl ha ?_)
    rw [set_idle_replicate]
    exact wakeEach_idle _ _
  have hlen : w < ws.length := (List.getElem?_eq_some_iff.1 hw).1
  have h₃ : Step (quiet ⟨[], cap, false⟩ k (ws.set w ⟨c, .handling x⟩) sd)
      (.handled w x kind)
      (quiet ⟨[], cap, false⟩ k (ws.set w ⟨c.record kind, .dropping x⟩) sd) := by
    simpa only [quiet, List.set_set] using
      Step.handle (s := quiet ⟨[], cap, false⟩ k (ws.set w ⟨c, .handling x⟩) sd) (w := w)
        kind (by simp [quiet, hlen])
  have h₄ : Step (quiet ⟨[], cap, false⟩ k (ws.set w ⟨c.record kind, .dropping x⟩) sd)
      (.dropped w x)
      (quiet ⟨[], cap, false⟩ k (ws.set w ⟨c.record kind, .looping⟩) sd) := by
    simpa only [quiet, List.set_set] using
      Step.drop (s := quiet ⟨[], cap, false⟩ k (ws.set w ⟨c.record kind, .dropping x⟩) sd)
        (w := w) (by simp [quiet, hlen])
  exact .snoc (.snoc (.snoc (.snoc .nil h₁) h₂) h₃) h₄

/-- The steps of one job: the producer on the thread after `shutdown` queues `x`, and the first
worker serves it. -/
def jobEvents (n : Nat) (x : α) (kind : Kind) : List (Event α) :=
  [.queue .silent, .queue (.replied (n + 1) (.enqueue x) .accepted), .queue .silent,
    .queue (.replied 0 .dequeue (.item x)), .handled 0 x kind, .dropped 0 x]

theorem job_run {cap n : Nat} (hcap : 0 < cap) {rest : List (Worker α)} {c : Counters}
    (hn : rest.length + 1 = n) (x : α) (kind : Kind) :
    Steps Step (quiet ⟨[], cap, false⟩ (n + 2) (⟨c, .looping⟩ :: rest) .running)
      (jobEvents n x kind)
      (quiet ⟨[], cap, false⟩ (n + 2) (⟨c.record kind, .looping⟩ :: rest) .running) :=
  (enqueue_run hcap (by simp only [List.length_cons]; omega) (by omega) x).append
    (serve_run rfl (by omega) x kind)

/-- The first worker serves the jobs one after the other, each counted by its kind. -/
theorem jobs_run {cap n : Nat} (hcap : 0 < cap) (kind : α → Kind) {rest : List (Worker α)}
    (hn : rest.length + 1 = n) (jobs : List α) (c : Counters) :
    Steps Step (quiet ⟨[], cap, false⟩ (n + 2) (⟨c, .looping⟩ :: rest) .running)
      (jobs.flatMap fun x => jobEvents n x (kind x))
      (quiet ⟨[], cap, false⟩ (n + 2)
        (⟨(jobs.map kind).foldl Counters.record c, .looping⟩ :: rest) .running) := by
  induction jobs generalizing c with
  | nil => exact .nil
  | cons x jobs ih =>
    exact (job_run hcap hn x (kind x)).append (ih (c.record (kind x)))

/-- `shutdown` closes the queue: it takes the lock, sets the flag, wakes the takers and the givers,
and returns to join. -/
theorem close_run {q : BoundedQueue α} {n k : Nat} {ws : List (Worker α)} (hn : ws.length = n)
    (hk : n < k) :
    Steps Step (quiet q k ws .running)
      [.queue .silent, .queue (.shut n), .queue .silent, .queue (.closed n)]
      (quiet q.close k ws (.joining [])) := by
  subst hn
  have h₁ : Step (quiet q k ws .running) (.queue .silent)
      ⟨⟨q, (List.replicate k .idle).set ws.length .closing⟩, ws, .closing⟩ :=
    .callClose rfl (by simp [quiet, hk])
  have h₂ : Step ⟨⟨q, (List.replicate k .idle).set ws.length .closing⟩, ws, .closing⟩
      (.queue (.shut ws.length))
      ⟨⟨q.close, (List.replicate k .idle).set ws.length .wakingTakers⟩, ws, .closing⟩ := by
    have := Step.inside
      (s := ⟨⟨q, (List.replicate k .idle).set ws.length .closing⟩, ws, .closing⟩)
      (.shut (t := ws.length) (by simp [hk])) (.inr (.inl ⟨_, rfl⟩))
      fun u hu => by simpa using idle_set_idle .wakingTakers (by simp) hu
    simpa only [List.set_set] using this
  have h₃ : Step ⟨⟨q.close, (List.replicate k .idle).set ws.length .wakingTakers⟩, ws,
        .closing⟩
      (.queue .silent)
      ⟨⟨q.close, (List.replicate k .idle).set ws.length .wakingGivers⟩, ws, .closing⟩ := by
    have := Step.inside
      (s := ⟨⟨q.close, (List.replicate k .idle).set ws.length .wakingTakers⟩, ws, .closing⟩)
      (.wakeTakers (t := ws.length) (by simp [hk])) (.inl rfl)
      fun u hu => by
        simpa [List.set_set, map_wakeOn_set, QueueMonitor.Phase.wakeOn] using
          idle_set_idle .wakingGivers (by simp) hu
    simpa only [List.set_set, map_wakeOn_set, QueueMonitor.Phase.wakeOn] using this
  have h₄ : Step ⟨⟨q.close, (List.replicate k .idle).set ws.length .wakingGivers⟩, ws,
        .closing⟩
      (.queue (.closed ws.length)) (quiet q.close k ws (.joining [])) := by
    have := Step.closeReturns
      (s := ⟨⟨q.close, (List.replicate k .idle).set ws.length .wakingGivers⟩, ws, .closing⟩)
      rfl (.wakeGivers (t := ws.length) (by simp [hk]))
    simpa only [quiet, List.set_set, map_wakeOn_set, QueueMonitor.Phase.wakeOn,
      List.set_replicate_self, List.map_replicate] using this
  exact .snoc (.snoc (.snoc (.snoc .nil h₁) h₂) h₃) h₄

/-- On the closed, empty queue, a worker at the head of its loop calls `dequeue`, is told the
queue is closed, and stops. -/
theorem stop_run {cap k w : Nat} {ws : List (Worker α)} {c : Counters} {sd : Shutdown}
    (hw : ws[w]? = some ⟨c, .looping⟩) (hk : w < k) :
    Steps Step (quiet ⟨[], cap, true⟩ k ws sd)
      [.queue .silent, .queue (.replied w .dequeue (.refused (.closed none)))]
      (quiet ⟨[], cap, true⟩ k (ws.set w ⟨c, .stopped⟩) sd) := by
  have h₁ : Step (quiet ⟨[], cap, true⟩ k ws sd) (.queue .silent)
      ⟨⟨⟨[], cap, true⟩, (List.replicate k .idle).set w (.entering .dequeue)⟩, ws,
        sd⟩ :=
    .callDequeue hw (by simp [quiet, hk])
  have ha : (⟨[], cap, true⟩ : BoundedQueue α).attempt .dequeue =
      some (⟨[], cap, true⟩, .refused (.closed none)) := by
    simp [BoundedQueue.attempt, BoundedQueue.mustWaitToDequeue, BoundedQueue.dequeue]
  have h₂ : Step ⟨⟨⟨[], cap, true⟩, (List.replicate k .idle).set w (.entering .dequeue)⟩, ws,
        sd⟩
      (.queue (.replied w .dequeue (.refused (.closed none))))
      (quiet ⟨[], cap, true⟩ k (ws.set w ⟨c, .stopped⟩) sd) := by
    refine .stop hw (.finish (t := w) (p := .entering .dequeue) (by simp [hk]) rfl ha ?_)
    rw [set_idle_replicate]
    exact .nil
  exact .snoc (.snoc .nil h₁) h₂

/-- The steps of `stop_run` for the worker on thread `w`. -/
def stopEvents (w : Nat) : List (Event α) :=
  [.queue .silent, .queue (.replied w .dequeue (.refused (.closed none)))]

/-- The workers, each stopped with its counters. -/
def stopAll (ws : List (Worker α)) : List (Worker α) := ws.map fun wk => ⟨wk.ctx, .stopped⟩

@[simp] theorem stopAll_nil : stopAll ([] : List (Worker α)) = [] := rfl

@[simp] theorem map_ctx_stopAll (ws : List (Worker α)) :
    (stopAll ws).map Worker.ctx = ws.map Worker.ctx := by
  simp [stopAll, Function.comp_def]

theorem stopped_of_mem_stopAll {ws : List (Worker α)} :
    ∀ wk ∈ stopAll ws, wk.stage = .stopped := by
  simp [stopAll]

/-- The workers after `pre` stop one after the other. -/
theorem stops_run {cap k : Nat} {sd : Shutdown} (pre rest : List (Worker α))
    (hrest : ∀ wk ∈ rest, wk.stage = .looping) (hk : pre.length + rest.length ≤ k) :
    Steps Step (quiet ⟨[], cap, true⟩ k (pre ++ rest) sd)
      ((List.range' pre.length rest.length).flatMap stopEvents)
      (quiet ⟨[], cap, true⟩ k (pre ++ stopAll rest) sd) := by
  induction rest generalizing pre with
  | nil => simpa using Steps.nil
  | cons wk rest ih =>
    obtain ⟨c, st⟩ := wk
    have hst : st = .looping := hrest _ List.mem_cons_self
    subst hst
    have hlt : pre.length < k := by
      simp only [List.length_cons] at hk
      omega
    have hw : (pre ++ ⟨c, .looping⟩ :: rest)[pre.length]? = some ⟨c, .looping⟩ := by simp
    have hset : (pre ++ ⟨c, .looping⟩ :: rest).set pre.length ⟨c, .stopped⟩ =
        pre ++ ⟨c, .stopped⟩ :: rest := by
      rw [List.set_append_right _ _ (Nat.le_refl _), Nat.sub_self, List.set_cons_zero]
    have h₂ := ih (pre ++ [⟨c, .stopped⟩]) (fun wk h => hrest wk (List.mem_cons_of_mem _ h))
      (by simp at hk ⊢; omega)
    simp only [List.append_assoc, List.singleton_append, List.length_append,
      List.length_singleton] at h₂
    rw [List.length_cons, List.range'_succ, List.flatMap_cons]
    exact (stop_run hw hlt).append (by rwa [hset])

/-- `shutdown` joins the stopped workers after `pre` one after the other, keeping their counters. -/
theorem joins_run {q : BoundedQueue α} {k : Nat} (pre rest : List (Worker α))
    (hrest : ∀ wk ∈ rest, wk.stage = .stopped) :
    Steps Step (quiet q k (pre ++ rest) (.joining (pre.map Worker.ctx)))
      ((List.range' pre.length rest.length).map Event.joined)
      (quiet q k (pre ++ rest) (.joining ((pre ++ rest).map Worker.ctx))) := by
  induction rest generalizing pre with
  | nil => simpa using Steps.nil
  | cons wk rest ih =>
    obtain ⟨c, st⟩ := wk
    have hst : st = .stopped := hrest _ List.mem_cons_self
    subst hst
    have h₁ := Step.join
      (s := quiet q k (pre ++ ⟨c, .stopped⟩ :: rest) (.joining (pre.map Worker.ctx)))
      (c := c) rfl (by simp [quiet])
    have h₂ := ih (pre ++ [⟨c, .stopped⟩]) (fun wk h => hrest wk (List.mem_cons_of_mem _ h))
    simp only [List.length_map, List.append_assoc, List.singleton_append, List.map_append,
      List.map_cons, List.map_nil, List.length_append, List.length_singleton] at h₁ h₂
    simp only [List.length_cons, List.range'_succ, List.map_cons, List.map_append]
    exact (Steps.single h₁).append h₂

theorem handledItems_jobEvents (n : Nat) (kind : α → Kind) (jobs : List α) :
    handledItems (jobs.flatMap fun x => jobEvents n x (kind x)) = jobs := by
  induction jobs with
  | nil => rfl
  | cons x jobs ih =>
    rw [List.flatMap_cons, handledItems, List.filterMap_append]
    exact congrArg (x :: ·) ih

@[simp] theorem handledItems_append (tr tr' : List (Event α)) :
    handledItems (tr ++ tr') = handledItems tr ++ handledItems tr' :=
  List.filterMap_append

theorem handledItems_stops (ws : List Nat) :
    handledItems (ws.flatMap (stopEvents (α := α))) = [] := by
  induction ws with
  | nil => rfl
  | cons w ws ih =>
    rw [List.flatMap_cons, handledItems_append, ih]
    rfl

theorem handledItems_joins (ws : List Nat) :
    handledItems (ws.map (Event.joined (α := α))) = [] := by
  induction ws with
  | nil => rfl
  | cons w ws ih => exact ih

/-- With every worker at the head of its loop on an empty queue, `shutdown` closes the queue, the
workers stop, and `shutdown` joins them and returns the report of their counters, with no request
handed to the handler. -/
theorem shutdown_run (cap : Nat) {n : Nat} {ws : List (Worker α)}
    (hws : ∀ wk ∈ ws, wk.stage = .looping) (hn : ws.length = n) :
    ∃ tr, Steps Step (quiet ⟨[], cap, false⟩ (n + 2) ws .running) tr
      (quiet ⟨[], cap, true⟩ (n + 2) (stopAll ws)
        (.returned (Report.ofWorkers (ws.map Worker.ctx)))) ∧
      handledItems tr = [] := by
  have h₁ := close_run (q := ⟨[], cap, false⟩) hn (by omega : n < n + 2)
  have h₂ : Steps Step (quiet ⟨[], cap, true⟩ (n + 2) ws (.joining [])) _
      (quiet ⟨[], cap, true⟩ (n + 2) (stopAll ws) (.joining [])) :=
    stops_run [] ws hws (by simp [hn])
  have h₃ := joins_run (α := α) (q := ⟨[], cap, true⟩) (k := n + 2) [] (stopAll ws)
    stopped_of_mem_stopAll
  rw [List.nil_append, map_ctx_stopAll] at h₃
  have h₄ := Step.finish
    (s := quiet ⟨[], cap, true⟩ (n + 2) (stopAll ws) (.joining (ws.map Worker.ctx)))
    rfl (by simp [quiet, stopAll])
  refine ⟨_, ((h₁.append h₂).append h₃).append (.single h₄), ?_⟩
  simp only [handledItems_append, handledItems_stops, handledItems_joins]
  rfl

/-- The first worker serves every job, then the pool shuts down: the report is that of the first
worker's counters with every job's kind recorded and of the other workers' counters as they were. -/
theorem scheduled_run {cap n : Nat} (hcap : 0 < cap) (kind : α → Kind) (jobs : List α)
    (c : Counters) (rest : List (Worker α)) (hrest : ∀ wk ∈ rest, wk.stage = .looping)
    (hn : rest.length + 1 = n) :
    ∃ tr s,
      Steps Step (quiet ⟨[], cap, false⟩ (n + 2) (⟨c, .looping⟩ :: rest) .running) tr s ∧
      handledItems tr = jobs ∧
      s.shutdown = .returned
        (Report.ofWorkers ((jobs.map kind).foldl Counters.record c :: rest.map Worker.ctx)) ∧
      s.queue.queue = ⟨[], cap, true⟩ := by
  have hws : ∀ wk ∈ (⟨(jobs.map kind).foldl Counters.record c, .looping⟩ :: rest :
      List (Worker α)), wk.stage = .looping := by
    simpa using hrest
  obtain ⟨tr, h₂, hh⟩ := shutdown_run cap hws hn
  refine ⟨_, _, (jobs_run hcap kind hn jobs c).append h₂, ?_, rfl, rfl⟩
  rw [handledItems_append, handledItems_jobEvents, hh, List.append_nil]

end PoolMonitor

namespace Pool

/-- Without failing jobs, the first worker counts every job and the others none. -/
theorem work_live (log : SharedLog) (w : Counters) (ws : List Counters) (jobs : List Job)
    (hf : ∀ j ∈ jobs, j.fails = false) :
    (work log (w :: ws) jobs).2.1 = (jobs.map Job.kind).foldl Counters.record w :: ws := by
  induction jobs generalizing log w with
  | nil => simp [work]
  | cons job jobs ih =>
    have hj : job.fails = false := hf job List.mem_cons_self
    simp only [work, hj, Bool.false_eq_true, ↓reduceIte]
    rw [ih _ _ fun j h => hf j (List.mem_cons_of_mem _ h), handle_snd]
    rfl

/-- Without failing jobs, a pool run on a queue that could be made succeeds with that report and
the closed, empty queue. -/
theorem run_eq {m capacity itemWidth : Nat} {jobs : List Job} {q : BoundedQueue Job}
    (hf : ∀ j ∈ jobs, j.fails = false) (hq : BoundedQueue.new? capacity itemWidth = .ok q) :
    ∃ log, run (m + 1) capacity itemWidth jobs = .ok ⟨m + 1,
      Report.ofWorkers ((jobs.map Job.kind).foldl Counters.record (Counters.new 1) ::
        (List.range m).map fun i => Counters.new (i + 1 + 1)), log,
      { q with items := [] }.close⟩ := by
  have hfresh : (List.range (m + 1)).map (fun i => Counters.new (i + 1)) =
      Counters.new 1 :: (List.range m).map fun i => Counters.new (i + 1 + 1) := by
    simp [List.range_succ_eq_map, Function.comp_def]
  generalize (List.range m).map (fun i => Counters.new (i + 1 + 1)) = rest at hfresh ⊢
  have hlive := work_live {} (Counters.new 1) rest jobs hf
  have hleft := (work_total {} (Counters.new 1 :: rest) jobs (by simp) hf).2
  generalize hw : work {} (Counters.new 1 :: rest) jobs = res at hlive hleft
  obtain ⟨log, live, left⟩ := res
  dsimp only at hlive hleft
  subst hlive hleft
  refine ⟨log, ?_⟩
  simp only [run, hq, hfresh, hw]
  rfl

/-- Without failing jobs, a pool run on a queue that could be made succeeds, and the pool monitor
on that queue, with one producer, has a run that hands every job to the handler in order and in
which `shutdown` returns the run's report, leaving the run's queue. -/
theorem run_is_monitor_run {workers capacity itemWidth : Nat} {jobs : List Job}
    {q : BoundedQueue Job} (hn : 0 < workers) (hf : ∀ j ∈ jobs, j.fails = false)
    (hq : BoundedQueue.new? capacity itemWidth = .ok q) :
    ∃ r tr s, run workers capacity itemWidth jobs = .ok r ∧
      Steps PoolMonitor.Step (PoolMonitor.init q workers 1) tr s ∧
      PoolMonitor.handledItems tr = jobs ∧ s.shutdown = .returned r.report ∧
      s.queue.queue = r.queue := by
  obtain ⟨m, rfl⟩ : ∃ m, workers = m + 1 := ⟨workers - 1, by omega⟩
  obtain ⟨log, hr⟩ := run_eq (m := m) hf hq
  obtain ⟨rfl, hcap⟩ := BoundedQueue.new?_eq_ok hq
  have hinit : PoolMonitor.init (⟨[], capacity, false⟩ : BoundedQueue Job) (m + 1) 1 =
      PoolMonitor.quiet ⟨[], capacity, false⟩ (m + 1 + 2) (⟨Counters.new 1, .looping⟩ ::
        (List.range m).map fun w => ⟨Counters.new (w + 1 + 1), .looping⟩) .running := by
    simp [PoolMonitor.init, PoolMonitor.quiet, QueueMonitor.init, List.range_succ_eq_map,
      Function.comp_def]
  obtain ⟨tr, s, hs, hh, hsd, hqs⟩ := PoolMonitor.scheduled_run (n := m + 1) hcap Job.kind jobs
    (Counters.new 1) ((List.range m).map fun w => ⟨Counters.new (w + 1 + 1), .looping⟩)
    (by simp) (by simp)
  refine ⟨_, tr, s, hr, hinit ▸ hs, hh, ?_, hqs⟩
  rw [hsd]
  simp [Function.comp_def]

end Pool

end PoolServer
