import PoolServer.Text.Decimal
/-!
# Durations and instants

A duration is a count of whole seconds that fits a 64-bit word and a count of nanoseconds below
one second. Building one from seconds and nanoseconds carries whole seconds out of the nanoseconds,
and refuses a carry that overflows the seconds.

An instant is an offset from the Unix epoch, before or after it; its seconds fit a signed 64-bit
word. The statistics print a duration as seconds, a point, and six digits of microseconds, the
sub-microsecond part dropped.
-/
namespace PoolServer

/-- A span of time: seconds below 2^64 and nanoseconds below one second. -/
structure Duration where
  secs : Nat
  nanos : Nat
  secs_lt : secs < Nat.pow 2 64 := by omega
  nanos_lt : nanos < 1000000000 := by omega
  deriving Repr

namespace Duration

/-- The empty span. -/
def zero : Duration := ⟨0, 0, by decide, by decide⟩

/-- The text of the refusal to build a duration whose seconds overflow. -/
def overflowMessage : String := "overflow in Duration::new"

/-- Seconds and nanoseconds, the whole seconds of the nanoseconds carried over; `none` when the
seconds then reach 2^64. -/
def new? (secs nanos : Nat) : Option Duration :=
  let s := secs + nanos / 1000000000
  if h : s < Nat.pow 2 64 then some ⟨s, nanos % 1000000000, h, Nat.mod_lt _ (by decide)⟩ else none

/-- A duration of whole milliseconds. -/
def ofMillis (ms : Nat) (h : ms < Nat.pow 2 64) : Duration :=
  ⟨ms / 1000, (ms % 1000) * 1000000, by omega, by omega⟩

/-- The whole length in nanoseconds. -/
def totalNanos (d : Duration) : Nat := d.secs * 1000000000 + d.nanos

/-- The whole microseconds of the part below one second. -/
def subsecMicros (d : Duration) : Nat := d.nanos / 1000

/-- Seconds, a point, and the microseconds in six digits. -/
def timeval (d : Duration) : String :=
  Decimal.text d.secs ++ "." ++ Decimal.padded 6 d.subsecMicros

example : (new? 1 1500000000).map timeval = some "2.500000" := by decide

end Duration

/-- A point in time: a duration before or after the Unix epoch. -/
structure Instant where
  before : Bool
  offset : Duration
  deriving Repr

namespace Instant

/-- The epoch itself. -/
def epoch : Instant := ⟨false, Duration.zero⟩

/-- The instant at a duration after the epoch, if its seconds fit a signed 64-bit word. -/
def after? (d : Duration) : Option Instant :=
  if d.secs < Nat.pow 2 63 then some ⟨false, d⟩ else none

/-- The instant at a duration before the epoch, if it is no earlier than `2^63` seconds before.
-/
def before? (d : Duration) : Option Instant :=
  if d.secs < Nat.pow 2 63 ∨ (d.secs = Nat.pow 2 63 ∧ d.nanos = 0) then some ⟨true, d⟩ else none

/-- The time elapsed since the epoch, or zero for an instant before it. -/
def sinceEpoch (t : Instant) : Duration := if t.before then Duration.zero else t.offset

end Instant

end PoolServer
