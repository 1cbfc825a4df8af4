import PoolServer.Http.Request
import PoolServer.Wire.Inbound
/-!
# Reading a request off a connection

`readHead` reads in buffers of 1024 bytes until the bytes hold an empty line, reach 8192 bytes, or
the client stops sending. The last read may bring bytes past the head; they are kept.

`discardBody` then drops the body the head announced, so that closing the connection does not
reset it under the client: at most 65536 bytes, less what the head's reads already took, in
buffers of 8192 bytes, stopping early if the client stops sending.
-/
namespace PoolServer

namespace Reading

/-- The buffer size of head reads. -/
def headBuffer : Nat := 1024

/-- Head reading stops once this many bytes are in. -/
def headLimit : Nat := 8192

/-- At most this much of an announced body is read and dropped. -/
def bodyLimit : Nat := 65536

/-- The buffer size of body reads. -/
def bodyBuffer : Nat := 8192

/-- Reads on after `head` until an empty line, the size limit, or the end of input. -/
def readHeadFrom (head : Bytes) (c : Inbound) : Inbound × Except IoError Bytes :=
  if head.length < headLimit ∧ Request.headEnd? head = none then
    match h : c.read headBuffer with
    | (c', .error e) => (c', .error e)
    | (c', .ok chunk) =>
      if hc : chunk = [] then (c', .ok head)
      else readHeadFrom (head ++ chunk) c'
  else (c, .ok head)
termination_by c.pending.length
decreasing_by exact Inbound.read_pending_lt h hc

/-- Reads a request head from a connection. -/
def readHead (c : Inbound) : Inbound × Except IoError Bytes := readHeadFrom [] c

/-- How much of the body is still to be dropped once `already` bytes of it were read with the
head: the announced length, capped, less those bytes. -/
def pendingBody (r : Request) (already : Nat) : Nat :=
  min (r.contentLength?.getD 0) bodyLimit - already

/-- Drops up to `left` bytes, stopping early at the end of input. -/
def dropBytes (left : Nat) (c : Inbound) : Inbound × Except IoError Unit :=
  if left = 0 then (c, .ok ())
  else
    match h : c.read (min left bodyBuffer) with
    | (c', .error e) => (c', .error e)
    | (c', .ok chunk) =>
      if hc : chunk = [] then (c', .ok ())
      else dropBytes (left - chunk.length) c'
termination_by c.pending.length
decreasing_by exact Inbound.read_pending_lt h hc

/-- Drops the announced body of a request. -/
def discardBody (r : Request) (already : Nat) (c : Inbound) : Inbound × Except IoError Unit :=
  dropBytes (pendingBody r already) c

end Reading

end PoolServer
