import PoolServer.Text.Utf8
import PoolServer.Os.Error
/-!
# The inbound side of a connection

The bytes a client sends arrive in reads. Each read is bounded by the caller's buffer and by how
much the network delivers at once: the `i`-th read delivers at most the `i`-th entry of a list of
chunk sizes, and once the list is used up a read delivers all it may. A read that delivers nothing
means the client sent no more. One read, picked by its index, may fail instead.

Main statement: what a read delivers is taken from the front of the pending bytes, so nothing is
lost, repeated or reordered.
-/
namespace PoolServer

/-- The inbound side of a connection: pending bytes, the delivery schedule, and the reads made. -/
structure Inbound where
  /-- Bytes sent but not yet read. -/
  pending : Bytes
  /-- Upper bounds on what successive reads deliver. -/
  chunks : List Nat := []
  /-- The index of the read that fails, and how. -/
  failure : Option (Nat × IoError) := none
  /-- How many reads have been made. -/
  reads : Nat := 0
  deriving Repr

namespace Inbound

/-- How many bytes the next read may deliver, by the schedule alone. -/
def allowance (c : Inbound) : Option Nat := c.chunks[c.reads]?

/-- One read into a buffer of `room` bytes: the bytes delivered, or the failure. -/
def read (c : Inbound) (room : Nat) : Inbound × Except IoError Bytes :=
  let next := { c with reads := c.reads + 1 }
  match c.failure with
  | some (i, e) => if i = c.reads then (next, .error e) else deliver next
  | none => deliver next
where
  /-- Takes what the read may carry from the front of the pending bytes. -/
  deliver (next : Inbound) : Inbound × Except IoError Bytes :=
    let n := min room (((c.allowance).getD room))
    ({ next with pending := c.pending.drop n }, .ok (c.pending.take n))

/-- A read delivers the front of the pending bytes and keeps the rest pending. -/
theorem read_ok {c c' : Inbound} {room : Nat} {b : Bytes} (h : c.read room = (c', .ok b)) :
    c.pending = b ++ c'.pending := by
  unfold read read.deliver at h
  split at h
  · split at h
    · simp at h
    · simp only [Prod.mk.injEq, Except.ok.injEq] at h
      obtain ⟨rfl, rfl⟩ := h
      simp
  · simp only [Prod.mk.injEq, Except.ok.injEq] at h
    obtain ⟨rfl, rfl⟩ := h
    simp

/-- A read that delivers something leaves fewer bytes pending. -/
theorem read_pending_lt {c c' : Inbound} {room : Nat} {b : Bytes}
    (h : c.read room = (c', .ok b)) (hb : b ≠ []) : c'.pending.length < c.pending.length := by
  have e := read_ok h
  rw [e, List.length_append]
  have : 0 < b.length := List.length_pos_iff.2 hb
  omega

end Inbound

end PoolServer
