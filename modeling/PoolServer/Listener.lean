import PoolServer.Startup
import PoolServer.Queue.Basic
import PoolServer.Journal.Shared
import PoolServer.Trace.Event
/-!
# The accept loop, and a server visited by clients

A server is started from checked settings: its queue is made (each queued connection takes
`connectionWidth` bytes of reserved storage), its pool started and its address bound. Its accept
loop then takes connections one at a time. At each turn it first looks at the stop flag and
returns if it is up; otherwise it takes what accepting gave. A failed accept is reported and
skipped, and so is a connection whose read timeout cannot be set; any other connection goes into
the queue. A closed queue refuses it, and the loop returns; a queue without the memory for it
drops it with a warning, and the loop goes on. Asking the server to stop raises the flag, closes
the queue, and makes a wake-up connection so that a loop waiting in `accept` takes one more turn.

The world decides each turn (`Arrival`): whether the flag is up when the loop looks, what
accepting gives, whether the read timeout can be set, whether the queue is closed in the meantime,
and whether it has memory. Waiting for room in a full queue, and the workers that make it, are the
queue monitor's; here a connection is queued once there is room.

Main statement: `acceptLoop_queues_in_order`. The queue gains, in order, the connections of the
turns the loop went through that were accepted with their read timeout set and memory for them;
no turn it went through had the flag up; and it returns exactly when a turn sees the flag or a
closed queue, the flag being up at the turn it returned at unless the queue was closed.

The machine the server is visited on has no route to its own loopback address. Binding still
succeeds, but every connection, the clients' and the wake-up one alike, fails with "network
unreachable" before it reaches the listener. So no request is ever served, the log stays empty,
and the accept loop, given no turn, never learns that it should stop.
-/
namespace PoolServer

/-- What clients saw of a server, and how it ended. -/
structure Visit where
  /-- Each client's answer, or the error of its connection. -/
  replies : List (Except IoError Bytes)
  /-- Whether a stop had been asked for before the clients came. -/
  stopAskedBefore : Bool
  /-- Whether a stop had been asked for after they left. -/
  stopAskedAfter : Bool
  /-- Whether the accept loop returned. -/
  returned : Bool
  log : SharedLog
  deriving Repr

/-- Why a server did not start. -/
inductive StartFault where
  | startup (e : StartupError)
  | capacity (e : CapacityError)
  deriving Repr

/-- One turn of the accept loop, as the world decides it. -/
structure Arrival (α : Type) where
  /-- Whether the stop flag is up when the loop looks at it. -/
  stopRaised : Bool := false
  /-- The connection accepted, or the error accepting. -/
  incoming : Except IoError α
  /-- The error setting the connection's read timeout, if that fails. -/
  timeoutError : Option IoError := none
  /-- Whether the queue is closed after the loop looked at the flag. -/
  closedMeanwhile : Bool := false
  /-- Whether the queue has the memory for one more connection. -/
  reserved : Bool := true

namespace Arrival

variable {α : Type}

/-- The connection a turn puts into an open queue: one accepted, with its read timeout set and
memory for it. -/
def queued? (t : Arrival α) : Option α :=
  match t.incoming, t.timeoutError with
  | .ok c, none => if t.reserved then some c else none
  | _, _ => none

end Arrival

/-- Why the accept loop returned. -/
inductive LoopEnd where
  /-- It saw the stop flag up. -/
  | stopped
  /-- The queue refused a connection as closed. -/
  | closed
  deriving DecidableEq, Repr

namespace Listener

variable {α : Type}

/-- The bytes a queued connection takes: the connection and its arrival time. -/
def connectionWidth : Nat := 24

/-- The error of every connection on a machine without a loopback route. -/
def unreachable : IoError := .os .netUnreachable

/-- An event of the listener. -/
def report (level : Level) (message : String) (fields : List (String × FieldValue)) : Event :=
  { level, message, fields, origin := .listener }

/-- One turn of the accept loop on the queue `q`: the queue after it, the events it reports, and
why the loop returns, if it does. -/
def turn (q : BoundedQueue α) (t : Arrival α) : BoundedQueue α × List Event × Option LoopEnd :=
  if t.stopRaised then (q, [], some .stopped)
  else
    let q := if t.closedMeanwhile then q.close else q
    match t.incoming with
    | .error e => (q, [report .warn "failed to accept connection" [("error", .text e.message)]], none)
    | .ok c =>
      let accepted := report .debug "connection accepted" []
      match t.timeoutError with
      | some e =>
        (q, [accepted, report .warn "dropping connection without read timeout"
          [("error", .text e.message)]], none)
      | none =>
        if q.closed then (q, [accepted], some .closed)
        else if t.reserved then
          ((q.enqueue c).1,
            [accepted, report .debug "connection enqueued" [("pending", .num (q.enqueue c).1.size)]],
            none)
        else
          (q, [accepted, report .warn "dropping connection"
            [("error", .text (QueueError.allocation c).message)]], none)

/-- What the accept loop did with the turns it was given. -/
structure LoopRun (α : Type) where
  queue : BoundedQueue α
  events : List Event
  /-- The turns it went through and went on after. -/
  taken : Nat
  /-- Why it returned, or `none` while it waits for another connection. -/
  ended : Option LoopEnd

/-- The accept loop over the turns the world gives it, until it returns. -/
def acceptLoop (q : BoundedQueue α) : List (Arrival α) → LoopRun α
  | [] => ⟨q, [], 0, none⟩
  | t :: ts =>
    match turn q t with
    | (q', evs, some e) => ⟨q', evs, 0, some e⟩
    | (q', evs, none) =>
      let r := acceptLoop q' ts
      { r with events := evs ++ r.events, taken := r.taken + 1 }

/-- What one turn can do: return at a raised flag, leaving the queue; return at a closed queue,
its items kept; or go on, the connection of a queued turn at the back of the queue. -/
theorem turn_cases {q q' : BoundedQueue α} {t : Arrival α} {evs : List Event}
    {e : Option LoopEnd} (h : turn q t = (q', evs, e)) :
    (t.stopRaised = true ∧ e = some .stopped ∧ q' = q) ∨
    (t.stopRaised = false ∧ e = some .closed ∧ q'.closed = true ∧ q'.items = q.items) ∨
    (t.stopRaised = false ∧ e = none ∧ q'.items = q.items ++ t.queued?.toList) := by
  obtain ⟨stop, incoming, timeoutError, closedMeanwhile, reserved⟩ := t
  unfold turn at h
  cases stop with
  | true => simp_all
  | false =>
    simp only [Bool.false_eq_true, if_false] at h
    generalize hq : (if closedMeanwhile = true then q.close else q) = q₁ at h
    have hkeep : q₁.items = q.items := by rw [← hq]; split <;> rfl
    cases incoming with
    | error err =>
      obtain ⟨rfl, -, rfl⟩ := h
      simp [hkeep, Arrival.queued?]
    | ok c =>
      cases timeoutError with
      | some err =>
        obtain ⟨rfl, -, rfl⟩ := h
        simp [hkeep, Arrival.queued?]
      | none =>
        simp only at h
        by_cases hc : q₁.closed = true
        · rw [if_pos hc] at h
          obtain ⟨rfl, -, rfl⟩ := h
          simp [hc, hkeep]
        · rw [if_neg hc] at h
          cases reserved with
          | true =>
            obtain ⟨rfl, -, rfl⟩ := h
            simp [hc, hkeep, Arrival.queued?]
          | false =>
            obtain ⟨rfl, -, rfl⟩ := h
            simp [hkeep, Arrival.queued?]

/-- What a run of the accept loop over the turns `ts` from the queue `q` did. -/
structure Accepted (q : BoundedQueue α) (ts : List (Arrival α)) (r : LoopRun α) : Prop where
  /-- The queue gained, in order, the connections of the turns the loop went on after. -/
  items : r.queue.items = q.items ++ (ts.take r.taken).filterMap Arrival.queued?
  /-- The flag was down at every turn the loop went on after. -/
  running : ∀ t ∈ ts.take r.taken, t.stopRaised = false
  /-- The loop waits for another connection exactly when it went on after every turn. -/
  waiting : r.ended = none ↔ r.taken = ts.length
  /-- Returning at the flag, it returned at the turn after those it went on after. -/
  stopped : r.ended = some .stopped → ∃ t, ts[r.taken]? = some t ∧ t.stopRaised = true
  /-- Returning at the queue, it left the queue closed. -/
  closed : r.ended = some .closed → r.queue.closed = true

/-- The accept loop queues, in order, the connections of the turns it went on after; the flag was
down at each of them; it waits exactly when it went on after every turn; and it returns at the
next turn, at a raised flag or leaving the queue closed. -/
theorem acceptLoop_queues_in_order (q : BoundedQueue α) (ts : List (Arrival α)) :
    Accepted q ts (acceptLoop q ts) := by
  induction ts generalizing q with
  | nil => exact ⟨by simp [acceptLoop], by simp [acceptLoop], by simp [acceptLoop], nofun, nofun⟩
  | cons t ts ih =>
    rcases hturn : turn q t with ⟨q', evs, e⟩
    rcases turn_cases hturn with ⟨hs, rfl, rfl⟩ | ⟨hs, rfl, hc, hi⟩ | ⟨hs, rfl, hi⟩
    · simp only [acceptLoop, hturn]
      exact ⟨by simp, by simp, by simp, fun _ => ⟨t, rfl, hs⟩, nofun⟩
    · simp only [acceptLoop, hturn]
      exact ⟨by simp [hi], by simp, by simp, nofun, fun _ => hc⟩
    · obtain ⟨hitems, hrunning, hwaiting, hstopped, hclosed⟩ := ih q'
      simp only [acceptLoop, hturn]
      refine ⟨?_, ?_, by simpa using hwaiting, by simpa using hstopped, hclosed⟩
      · rw [hitems, hi, List.take_succ_cons, List.filterMap_cons]
        cases t.queued? <;> simp
      · simpa [hs] using hrunning

/-- A failed accept and a connection without memory are skipped; the loop returns at the flag. -/
example :
    (acceptLoop (⟨[], 4, false⟩ : BoundedQueue Nat)
      [{ incoming := .ok 1 }, { incoming := .error unreachable },
        { incoming := .ok 2, reserved := false }, { stopRaised := true, incoming := .ok 3 }]).queue.items =
      [1] := by
  decide

/-- Starts a server with the settings, lets clients send the requests in turn, and asks it to
stop. -/
def visit (s : Settings) (requests : List Bytes) : Except StartFault Visit :=
  match s.check with
  | some p => .error (.startup (.invalidConfig p))
  | none =>
    match (BoundedQueue.new? s.queueSize connectionWidth : Except CapacityError (BoundedQueue Unit))
    with
    | .error e => .error (.capacity e)
    | .ok q =>
      let run := acceptLoop q ([] : List (Arrival Unit))
      .ok { replies := requests.map fun _ => .error unreachable, stopAskedBefore := false,
            stopAskedAfter := true, returned := run.ended.isSome, log := {} }

end Listener

end PoolServer
