import PoolServer.Lock.Basic
/-!
# Holders of a shared lock

A session follows named holders of a reader/writer lock that guards a value. A reader enters and
sees the value; a writer enters, sees the value and replaces it. A holder that has to wait parks,
a writer after announcing itself; after every step the parked holders that may enter do, the
earliest first, until none can. Since a parked writer keeps every reader out, this lets in one
waiting writer when the lock empties, and all waiting readers when no writer is inside or waiting.

Only a holder that is inside can leave; naming any other is an error.

Main statement: letting holders in stops before its rounds run out only when no parked holder
may enter.
-/
namespace PoolServer

/-- What a holder does once inside. -/
inductive Role (α : Type) where
  | reader
  /-- A writer, with the value it stores. -/
  | writer (v : α)
  deriving Repr

/-- A named holder, inside the lock or parked. -/
structure Holder (α : Type) where
  name : String
  role : Role α
  inside : Bool
  deriving Repr

/-- Why a holder could not leave. -/
inductive LockError where
  /-- No holder of that name is inside. -/
  | noHolder (name : String)
  deriving DecidableEq, Repr

namespace LockError

/-- The wording of the error. -/
def message : LockError → String
  | .noHolder n => "no holder " ++ n

end LockError

/-- A lock, the value it guards, and its holders in the order they came. -/
structure LockSession (α : Type) where
  value : α
  stats : LockStats := {}
  holders : List (Holder α) := []
  deriving Repr

namespace LockSession

variable {α : Type}

/-- Whether a parked holder may enter now. -/
def mayEnter (s : LockSession α) (h : Holder α) : Bool :=
  !h.inside && match h.role with
    | .reader => !s.stats.mustWaitToRead
    | .writer _ => !s.stats.mustWaitToWrite

/-- Lets the holder at index `i` in: the session after and the value it saw. -/
def enter (s : LockSession α) (i : Nat) (h : Holder α) : LockSession α × α :=
  let holders := s.holders.set i { h with inside := true }
  match h.role with
  | .reader => ({ s with stats := s.stats.enterRead, holders }, s.value)
  | .writer v => ({ value := v, stats := s.stats.enterWrite, holders }, s.value)

/-- Lets in the earliest parked holder that may enter, if any: the session after, and the
holder's name with the value it saw. -/
def letOneIn (s : LockSession α) : Option (LockSession α × (String × α)) :=
  match s.holders.zipIdx.find? (fun (h, _) => s.mayEnter h) with
  | some (h, i) =>
    let (s', seen) := s.enter i h
    some (s', (h.name, seen))
  | none => none

/-- The number of parked holders. -/
def parkedCount (s : LockSession α) : Nat := (s.holders.filter (!·.inside)).length

/-- Lets parked holders in until none may enter: the session after and who entered, with the
value each saw. At most every parked holder enters, so as many rounds as there are holders
suffice. -/
def letInFor : Nat → LockSession α → LockSession α × List (String × α)
  | 0, s => (s, [])
  | n + 1, s =>
    match s.letOneIn with
    | none => (s, [])
    | some (s', e) =>
      let (s'', es) := letInFor n s'
      (s'', e :: es)

/-- When fewer holders entered than there were rounds, the rounds stopped because no parked
holder could enter. -/
theorem letInFor_settled : ∀ (n : Nat) (s : LockSession α),
    (letInFor n s).2.length < n → (letInFor n s).1.letOneIn = none
  | 0, _, h => absurd h (Nat.not_lt_zero _)
  | n + 1, s, h => by
    cases hs : s.letOneIn with
    | none => simp [letInFor, hs]
    | some r =>
      obtain ⟨s', e⟩ := r
      simp only [letInFor, hs, List.length_cons] at h ⊢
      exact letInFor_settled n s' (by omega)

/-- Lets parked holders in until none may enter. -/
def letIn (s : LockSession α) : LockSession α × List (String × α) :=
  letInFor (s.holders.length + 1) s

/-- A reader arrives. -/
def read (s : LockSession α) (name : String) : LockSession α × List (String × α) :=
  letIn { s with holders := s.holders ++ [⟨name, .reader, false⟩] }

/-- A writer arrives and announces itself. -/
def write (s : LockSession α) (name : String) (v : α) : LockSession α × List (String × α) :=
  letIn { s with stats := s.stats.register, holders := s.holders ++ [⟨name, .writer v, false⟩] }

/-- The holder of that name leaves, if it is inside; those who may then enter do. -/
def release (s : LockSession α) (name : String) :
    Except LockError (LockSession α × List (String × α)) :=
  match s.holders.zipIdx.find? (fun (h, _) => h.name == name && h.inside) with
  | none => .error (.noHolder name)
  | some (h, i) =>
    let stats := match h.role with
      | .reader => s.stats.leaveRead
      | .writer _ => s.stats.leaveWrite
    .ok (letIn { s with stats, holders := s.holders.eraseIdx i })

/-- The names of the parked holders. -/
def parkedNames (s : LockSession α) : List String :=
  (s.holders.filter (!·.inside)).map (·.name)

/-- Releases holders until none is left, the earliest inside first; each round releases one
holder, so as many rounds as there are holders suffice. -/
def drainFor : Nat → LockSession α → LockSession α
  | 0, s => s
  | n + 1, s =>
    match s.holders.find? (·.inside) with
    | none => s
    | some h =>
      match s.release h.name with
      | .ok (s', _) => drainFor n s'
      | .error _ => s

/-- Releases every holder, letting parked ones in as the lock frees up. -/
def drain (s : LockSession α) : LockSession α := drainFor s.holders.length s

example : ((({ value := (1 : Int) } : LockSession Int).write "w" 2).1.read "r").2 = [] := by decide

end LockSession

end PoolServer
