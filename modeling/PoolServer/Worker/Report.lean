import PoolServer.Worker.Counters
/-!
# The pool's report

When the pool stops it reports every surviving worker's counters, ordered by worker id, and the
sums over them. The error count is the total less the static, dynamic and dump counts.
-/
namespace PoolServer

/-- The workers' counters by id, and the sums over them. -/
structure Report where
  workers : List Counters
  total : Nat
  static : Nat
  dynamic : Nat
  post : Nat
  errors : Nat
  deriving Repr

namespace Report

/-- Inserts counters into a list ordered by id, before those with the same id. -/
def insertById (c : Counters) : List Counters → List Counters
  | [] => [c]
  | d :: ds => if c.id ≤ d.id then c :: d :: ds else d :: insertById c ds

/-- The counters ordered by id; workers with equal ids keep their order. -/
def sortById (cs : List Counters) : List Counters := cs.foldr insertById []

/-- The sum of one counter over the workers. -/
def tally (f : Counters → Nat) : List Counters → Nat
  | [] => 0
  | c :: cs => f c + tally f cs

@[simp] theorem tally_nil (f : Counters → Nat) : tally f [] = 0 := rfl

@[simp] theorem tally_cons (f : Counters → Nat) (c : Counters) (cs : List Counters) :
    tally f (c :: cs) = f c + tally f cs := rfl

/-- The report over the given workers. -/
def ofWorkers (cs : List Counters) : Report :=
  let total := tally (·.total) cs
  let static := tally (·.static) cs
  let dynamic := tally (·.dynamic) cs
  let post := tally (·.post) cs
  { workers := sortById cs, total, static, dynamic, post,
    errors := total - static - dynamic - post }

/-- A JSON member `"name":value` for a number. -/
def member (name : String) (value : Nat) : String := "\"" ++ name ++ "\":" ++ toString value

/-- A worker's counters as a JSON object, fields in the order id, total, static, dynamic, post. -/
def countersJson (c : Counters) : String :=
  "\x7b" ++ ",".intercalate [member "id" c.id, member "total" c.total,
    member "static_requests" c.static, member "dynamic_requests" c.dynamic,
    member "post_requests" c.post] ++ "\x7d"

/-- The report as a JSON object: the workers, then the totals. -/
def json (r : Report) : String :=
  "\x7b\"workers\":[" ++ ",".intercalate (r.workers.map countersJson) ++ "]," ++
    ",".intercalate [member "total_requests" r.total, member "static_requests" r.static,
      member "dynamic_requests" r.dynamic, member "post_requests" r.post,
      member "error_requests" r.errors] ++ "\x7d"

end Report

end PoolServer
