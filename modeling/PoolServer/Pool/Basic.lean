import PoolServer.Queue.Basic
import PoolServer.Worker.Report
import PoolServer.Journal.Shared
/-!
# The worker pool

A fixed number of workers, numbered from 1, take jobs from the shared queue until it is closed and
empty. A job here is a scripted request: the worker counts its kind and, if the job carries data,
appends it to the shared log (an empty record, or one the memory is not there for, is refused, and
the worker goes on). A job may also make its worker fail before it counts anything; that worker
stops for good and its counters are lost.

A run puts the jobs into the queue in order, then closes it and waits for the workers. Which
worker takes which job is up to the scheduler, and this model follows one schedule: the
lowest-numbered live worker takes each job as soon as it is queued. Another schedule may link the
records in another order and, when a worker fails, lose other counts with it. Without failing
jobs, this schedule is one run of the pool monitor (`PoolMonitor`), on every run of which, once
`shutdown` has returned, each accepted request was handed to the handler exactly once.
Jobs that no live worker will take stay in the queue; when they do not fit, the producer would
wait forever, and the run is refused.

Main statement: when no worker fails, every job is counted exactly once.
-/
namespace PoolServer

/-- A scripted request. -/
structure Job where
  kind : Kind
  /-- The record the worker appends to the log, if any. -/
  record : Option Bytes := none
  /-- Whether the job makes its worker fail. -/
  fails : Bool := false
  /-- Whether the log gets the memory to take the record. -/
  reserved : Bool := true
  deriving Repr

/-- Why a pool run cannot be carried out. -/
inductive PoolFault where
  /-- The queue could not be made. -/
  | capacity (e : CapacityError)
  /-- The producer would wait forever for room in the queue. -/
  | stalled
  deriving Repr

/-- The state of a pool once it has stopped. -/
structure PoolRun where
  /-- The number of workers started. -/
  size : Nat
  /-- The counters of the workers that did not fail. -/
  report : Report
  log : SharedLog
  /-- The queue after the run: closed, with the jobs nobody took. -/
  queue : BoundedQueue Job
  deriving Repr

namespace Pool

/-- A worker handles a job: it counts the kind and appends the record, if any. -/
def handle (log : SharedLog) (c : Counters) (job : Job) : SharedLog × Counters :=
  let c := c.record job.kind
  match job.record with
  | some data => ((log.append (fun _ => job.reserved) data).1, c)
  | none => (log, c)

/-- A job counts its kind, whatever becomes of its record. -/
theorem handle_snd (log : SharedLog) (c : Counters) (job : Job) :
    (handle log c job).2 = c.record job.kind := by
  unfold handle
  split <;> rfl

/-- Jobs handled by the live workers, the first of them taking each job; a failing job removes
its worker. Returns the log, the live workers, the workers that failed, and the jobs left when
none is live. -/
def work (log : SharedLog) : List Counters → List Job →
    SharedLog × List Counters × List Job
  | [], jobs => (log, [], jobs)
  | ws, [] => (log, ws, [])
  | w :: ws, job :: jobs =>
    if job.fails then work log ws jobs
    else
      let (log', w') := handle log w job
      work log' (w' :: ws) jobs
termination_by ws jobs => ws.length + jobs.length

/-- Runs `workers` workers over a queue of the given capacity (items of `itemWidth` bytes) on the
jobs, then stops the pool. -/
def run (workers capacity itemWidth : Nat) (jobs : List Job) : Except PoolFault PoolRun := do
  let q : BoundedQueue Job ← match BoundedQueue.new? capacity itemWidth with
    | .ok q => pure q
    | .error e => throw (.capacity e)
  let (log, live, left) := work {} ((List.range workers).map fun i => Counters.new (i + 1)) jobs
  if left.length > capacity then throw .stalled
  pure ⟨workers, Report.ofWorkers live, log, { q with items := left }.close⟩

/-- Without failing jobs, every job is counted once and none is left. -/
theorem work_total (log : SharedLog) (ws : List Counters) (jobs : List Job) (hw : ws ≠ [])
    (hf : ∀ j ∈ jobs, j.fails = false) :
    Report.tally (·.total) (work log ws jobs).2.1 = Report.tally (·.total) ws + jobs.length ∧
      (work log ws jobs).2.2 = [] := by
  induction jobs generalizing log ws with
  | nil =>
    cases ws with
    | nil => exact absurd rfl hw
    | cons w ws => simp [work]
  | cons job jobs ih =>
    cases ws with
    | nil => exact absurd rfl hw
    | cons w ws =>
      have hj : job.fails = false := hf job (by simp)
      simp only [work, hj, Bool.false_eq_true, ↓reduceIte]
      obtain ⟨h₁, h₂⟩ := ih (handle log w job).1 ((handle log w job).2 :: ws) (by simp)
        (fun j hj' => hf j (by simp [hj']))
      refine ⟨?_, h₂⟩
      rw [h₁]
      have : (handle log w job).2.total = w.total + 1 := by
        simp [handle_snd]
      simp only [Report.tally_cons, this, List.length_cons]
      omega

end Pool

end PoolServer
