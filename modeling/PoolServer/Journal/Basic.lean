import PoolServer.Text.Utf8
import PoolServer.Text.Decimal
/-!
# The shared log

An append-only sequence of records, each a non-empty run of bytes. Workers append one record per
file or program they served, and a log dump reads all records joined in the order they were
appended. An empty record is refused.

Appending copies the record and reserves a slot for it, and a dump reserves a buffer for all the
records; each reservation may be refused, and is asked of the given `reserve`. Both reservations
an append makes report the record's length when refused, so one answer stands for both. A refused
append leaves the log as it was.
-/
namespace PoolServer

/-- Why a record was not appended, or the log not read. -/
inductive LogError where
  /-- The record was empty. -/
  | emptyRecord
  /-- Memory for so many bytes could not be reserved. -/
  | allocation (bytes : Nat)
  deriving DecidableEq, Repr

namespace LogError

/-- The wording of the refusal. -/
def message : LogError → String
  | .emptyRecord => "log record must not be empty"
  | .allocation n => "could not reserve " ++ Decimal.text n ++ " bytes for the log"

end LogError

/-- The records appended so far, oldest first. -/
structure Journal where
  records : List Bytes := []
  deriving Repr

namespace Journal

/-- Appends a record; an empty one is refused, and so is one whose memory is not reserved. -/
def append (j : Journal) (reserve : Nat → Bool) (data : Bytes) : Except LogError Journal :=
  if data.isEmpty then .error .emptyRecord
  else if reserve data.length then .ok ⟨j.records ++ [data]⟩
  else .error (.allocation data.length)

/-- All records joined, oldest first. -/
def snapshot (j : Journal) : Bytes := j.records.flatten

/-- All records joined, oldest first, in a buffer reserved for their whole length; refused when
that reservation is. -/
def snapshot? (j : Journal) (reserve : Nat → Bool) : Except LogError Bytes :=
  if reserve j.snapshot.length then .ok j.snapshot else .error (.allocation j.snapshot.length)

/-- The number of records. -/
def size (j : Journal) : Nat := j.records.length

@[simp] theorem snapshot_empty : (⟨[]⟩ : Journal).snapshot = [] := rfl

end Journal

end PoolServer
