/-!
# Worker counters

Each worker counts the requests it handled, in total and by kind. A request is static (a file),
dynamic (a program's output), a log dump (a POST), or an error; errors count only in the total.

Main statement: the total is always the sum of the three kind counters and the errors, so the
errors of a worker are its total less the three counters.
-/
namespace PoolServer

/-- What a handled request turned out to be. -/
inductive Kind where
  | static
  | dynamic
  | post
  | error
  deriving DecidableEq, Repr

namespace Kind

/-- The name of a kind. -/
def name : Kind → String
  | .static => "Static"
  | .dynamic => "Dynamic"
  | .post => "Post"
  | .error => "Error"

end Kind

/-- One worker's identity and counters. -/
structure Counters where
  id : Nat
  total : Nat := 0
  static : Nat := 0
  dynamic : Nat := 0
  post : Nat := 0
  deriving DecidableEq, Repr

namespace Counters

/-- A worker that has handled nothing yet. -/
def new (id : Nat) : Counters := { id }

/-- Counts one request of a kind. -/
def record (c : Counters) (k : Kind) : Counters :=
  match k with
  | .static => { c with total := c.total + 1, static := c.static + 1 }
  | .dynamic => { c with total := c.total + 1, dynamic := c.dynamic + 1 }
  | .post => { c with total := c.total + 1, post := c.post + 1 }
  | .error => { c with total := c.total + 1 }

@[simp] theorem record_id (c : Counters) (k : Kind) : (c.record k).id = c.id := by
  cases k <;> rfl

@[simp] theorem record_total (c : Counters) (k : Kind) : (c.record k).total = c.total + 1 := by
  cases k <;> rfl

@[simp] theorem record_static (c : Counters) (k : Kind) :
    (c.record k).static = c.static + if k = .static then 1 else 0 := by
  cases k <;> rfl

@[simp] theorem record_dynamic (c : Counters) (k : Kind) :
    (c.record k).dynamic = c.dynamic + if k = .dynamic then 1 else 0 := by
  cases k <;> rfl

@[simp] theorem record_post (c : Counters) (k : Kind) :
    (c.record k).post = c.post + if k = .post then 1 else 0 := by
  cases k <;> rfl

end Counters

end PoolServer
