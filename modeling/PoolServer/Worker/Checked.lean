import PoolServer.Worker.Report
import PoolServer.Text.Decimal
/-!
# Counting in 64-bit words

The program keeps a worker's counters and the report's sums in 64-bit unsigned words, and the
additions and the subtraction that compute them are checked: an addition past the largest word or
a subtraction below zero stops the program (a build without the checks wraps around instead).
The counters of this library are numbers. This module follows the same computations step by step
on words, each step failing where its check would, in the order the program makes them: the
total first and then the kind's counter for one request; the workers sorted by id, the four sums
grown one worker at a time, then the errors as the total less the static, dynamic and dump sums,
one subtraction at a time.
-/
namespace PoolServer

namespace Word

/-- `a + b` in a 64-bit unsigned word: `none` past the largest word. -/
def add? (a b : Nat) : Option Nat := if a + b ≤ Decimal.wordMax then some (a + b) else none

/-- `a - b` in a 64-bit unsigned word: `none` below zero. -/
def sub? (a b : Nat) : Option Nat := if b ≤ a then some (a - b) else none

theorem add?_of_le {a b : Nat} (h : a + b ≤ Decimal.wordMax) : add? a b = some (a + b) :=
  if_pos h

theorem sub?_of_le {a b : Nat} (h : b ≤ a) : sub? a b = some (a - b) :=
  if_pos h

end Word

namespace Counters

/-- Counts one request of a kind on words: the total grows by one, then the kind's counter. -/
def record? (c : Counters) (k : Kind) : Option Counters := do
  let total ← Word.add? c.total 1
  match k with
  | .static => return { c with total, static := (← Word.add? c.static 1) }
  | .dynamic => return { c with total, dynamic := (← Word.add? c.dynamic 1) }
  | .post => return { c with total, post := (← Word.add? c.post 1) }
  | .error => return { c with total }

end Counters

namespace Report

/-- The report before any worker is added: no workers and every sum zero. -/
def empty : Report := ⟨[], 0, 0, 0, 0, 0⟩

/-- Adds one worker's counters to the four running sums, each on words. -/
def addWorker? (r : Report) (c : Counters) : Option Report := do
  let total ← Word.add? r.total c.total
  let static ← Word.add? r.static c.static
  let dynamic ← Word.add? r.dynamic c.dynamic
  let post ← Word.add? r.post c.post
  return { r with total, static, dynamic, post }

/-- The report over the given workers, computed on words. -/
def ofWorkers? (cs : List Counters) : Option Report := do
  let ws := sortById cs
  let r ← ws.foldlM addWorker? empty
  let errors ← Word.sub? r.total r.static
  let errors ← Word.sub? errors r.dynamic
  let errors ← Word.sub? errors r.post
  return { r with workers := ws, errors }

example : (ofWorkers? [(Counters.new 2).record .static, (Counters.new 1).record .error]).map
    (fun r => (r.workers.map (·.id), r.total, r.static, r.errors)) = some ([1, 2], 2, 1, 1) := by
  decide

end Report

end PoolServer
