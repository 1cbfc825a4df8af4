import Mathlib
import PoolServer.Worker.Checked
/-!
# The report's arithmetic stays within words

A worker's counters change only by `record`, so its total is the number of requests it recorded,
each kind's counter the number of those of its kind, and the errors are the rest: the kind
counters never pass the total (`Counters.Balanced`). The pool's report sums the counters over the
workers and takes the errors as the total less the three kind sums.

Main statement: when the workers' totals sum below `2^64`, every checked addition and subtraction
the program makes on words succeeds, and the result on words is the report on numbers: its workers
are the given ones ordered by id, and its sums are the exact sums of their counters.
-/
namespace PoolServer

/-- A worker's identity and the kinds of the requests it recorded, in order. -/
structure History where
  id : Nat
  kinds : List Kind

namespace Kind

/-- Every request is of one of the four kinds. -/
theorem count_kinds (ks : List Kind) :
    ks.count .static + ks.count .dynamic + ks.count .post + ks.count .error = ks.length := by
  induction ks with
  | nil => rfl
  | cons k ks ih => cases k <;> simp <;> omega

end Kind

namespace Counters

/-- The three kind counters together stay within the total; the rest of the total counts the
errors. -/
def Balanced (c : Counters) : Prop := c.static + c.dynamic + c.post ≤ c.total

theorem balanced_new (id : Nat) : (new id).Balanced := by
  simp [Balanced, new]

theorem Balanced.record {c : Counters} (h : c.Balanced) (k : Kind) : (c.record k).Balanced := by
  unfold Balanced at *
  cases k <;> simp <;> omega

/-- Counters after a run of requests: the total grows by their number and each kind's counter by
the number of its kind. -/
theorem foldl_record (c : Counters) (ks : List Kind) :
    (ks.foldl record c).id = c.id ∧ (ks.foldl record c).total = c.total + ks.length ∧
      (ks.foldl record c).static = c.static + ks.count .static ∧
      (ks.foldl record c).dynamic = c.dynamic + ks.count .dynamic ∧
      (ks.foldl record c).post = c.post + ks.count .post := by
  induction ks generalizing c with
  | nil => simp
  | cons k ks ih =>
    obtain ⟨h₀, h₁, h₂, h₃, h₄⟩ := ih (c.record k)
    simp only [List.foldl_cons, h₀, h₁, h₂, h₃, h₄]
    cases k <;> simp <;> omega

/-- Counting one request on words succeeds while the total has room for it, and gives the
counters on numbers. -/
theorem record?_eq_some {c : Counters} (hb : c.Balanced) (hw : c.total + 1 ≤ Decimal.wordMax)
    (k : Kind) : c.record? k = some (c.record k) := by
  unfold Balanced at hb
  have hs : c.static + 1 ≤ Decimal.wordMax := by omega
  have hd : c.dynamic + 1 ≤ Decimal.wordMax := by omega
  have hp : c.post + 1 ≤ Decimal.wordMax := by omega
  cases k <;> simp [record?, record, Word.add?_of_le, hw, hs, hd, hp]

/-- A run of requests counted on words succeeds while the total has room for all of them. -/
theorem foldlM_record? {c : Counters} (hb : c.Balanced) {ks : List Kind}
    (hw : c.total + ks.length ≤ Decimal.wordMax) :
    ks.foldlM record? c = some (ks.foldl record c) := by
  induction ks generalizing c with
  | nil => rfl
  | cons k ks ih =>
    simp only [List.length_cons] at hw
    rw [List.foldlM_cons, record?_eq_some hb (by omega) k, Option.bind_eq_bind, Option.bind_some,
      List.foldl_cons]
    exact ih (hb.record k) (by simp; omega)

end Counters

namespace History

/-- The worker's counters: `Counters.new` with its id, then one `record` per request. -/
def counters (h : History) : Counters := h.kinds.foldl Counters.record (Counters.new h.id)

/-- The counters count the requests: the total all of them, each kind's counter those of its
kind. -/
theorem counters_count (h : History) :
    h.counters.id = h.id ∧ h.counters.total = h.kinds.length ∧
      h.counters.static = h.kinds.count .static ∧ h.counters.dynamic = h.kinds.count .dynamic ∧
      h.counters.post = h.kinds.count .post := by
  simpa [counters, Counters.new] using Counters.foldl_record (Counters.new h.id) h.kinds

theorem balanced (h : History) : h.counters.Balanced := by
  obtain ⟨-, ht, hs, hd, hp⟩ := h.counters_count
  have := Kind.count_kinds h.kinds
  unfold Counters.Balanced
  omega

/-- What recording a worker's requests gives: recording on words succeeds, each kind's counter
counts the requests of its kind, and the total is theirs and the errors together. -/
structure Counted (h : History) : Prop where
  onWords : h.kinds.foldlM Counters.record? (Counters.new h.id) = some h.counters
  static : h.counters.static = h.kinds.count .static
  dynamic : h.counters.dynamic = h.kinds.count .dynamic
  post : h.counters.post = h.kinds.count .post
  total : h.counters.total =
    h.counters.static + h.counters.dynamic + h.counters.post + h.kinds.count .error

/-- A worker with fewer requests than the largest word counts them all exactly. -/
theorem counted (h : History) (hw : h.kinds.length ≤ Decimal.wordMax) : h.Counted := by
  obtain ⟨-, ht, hs, hd, hp⟩ := h.counters_count
  have hk := Kind.count_kinds h.kinds
  refine ⟨Counters.foldlM_record? (Counters.balanced_new h.id) (by simpa [Counters.new] using hw),
    hs, hd, hp, by omega⟩

/-- Summed over workers, the counters count all their requests, by kind. -/
theorem tally_counters (hs : List History) :
    Report.tally (·.total) (hs.map counters) = (hs.flatMap kinds).length ∧
      Report.tally (·.static) (hs.map counters) = (hs.flatMap kinds).count .static ∧
      Report.tally (·.dynamic) (hs.map counters) = (hs.flatMap kinds).count .dynamic ∧
      Report.tally (·.post) (hs.map counters) = (hs.flatMap kinds).count .post := by
  induction hs with
  | nil => simp
  | cons h hs ih =>
    obtain ⟨-, ht, hs', hd, hp⟩ := h.counters_count
    obtain ⟨ih₁, ih₂, ih₃, ih₄⟩ := ih
    simp [ht, hs', hd, hp, ih₁, ih₂, ih₃, ih₄]

end History

namespace Report

/-- The sums do not depend on the order of the workers. -/
theorem tally_perm (f : Counters → Nat) {l₁ l₂ : List Counters} (h : l₁.Perm l₂) :
    tally f l₁ = tally f l₂ := by
  induction h with
  | nil => rfl
  | cons c _ ih => simp [ih]
  | swap a b l => simp only [tally_cons]; omega
  | trans _ _ ih₁ ih₂ => exact ih₁.trans ih₂

/-- Over balanced workers the three kind sums stay within the total sum. -/
theorem tally_kinds_le {cs : List Counters} (h : ∀ c ∈ cs, c.Balanced) :
    tally (·.static) cs + tally (·.dynamic) cs + tally (·.post) cs ≤ tally (·.total) cs := by
  induction cs with
  | nil => simp
  | cons c cs ih =>
    have hc := h c (by simp)
    have := ih fun c' hc' => h c' (by simp [hc'])
    unfold Counters.Balanced at hc
    simp only [tally_cons]
    omega

/-- Inserting by id is Mathlib's ordered insertion for the order on ids. -/
theorem insertById_eq (c : Counters) (l : List Counters) :
    insertById c l = l.orderedInsert (fun a b => a.id ≤ b.id) c := by
  induction l with
  | nil => rfl
  | cons d l ih => simp [insertById, ih]

/-- Sorting by id is insertion sort for the order on ids. -/
theorem sortById_eq (cs : List Counters) :
    sortById cs = cs.insertionSort (fun a b => a.id ≤ b.id) := by
  induction cs with
  | nil => rfl
  | cons c cs ih => simp [sortById, ← ih, insertById_eq]

theorem sortById_perm (cs : List Counters) : (sortById cs).Perm cs := by
  simpa [sortById_eq] using List.perm_insertionSort _ cs

theorem sortById_sorted (cs : List Counters) :
    (sortById cs).Pairwise (fun a b => a.id ≤ b.id) := by
  have : Std.Total (fun a b : Counters => a.id ≤ b.id) := ⟨fun a b => Nat.le_total a.id b.id⟩
  have : IsTrans Counters (fun a b => a.id ≤ b.id) := ⟨fun _ _ _ => Nat.le_trans⟩
  simpa [sortById_eq] using List.pairwise_insertionSort _ cs

/-- Adding workers on words succeeds while each running sum has room for theirs, and adds their
counters to the sums. -/
theorem foldlM_addWorker? (ws : List Counters) (r : Report)
    (ht : r.total + tally (·.total) ws ≤ Decimal.wordMax)
    (hs : r.static + tally (·.static) ws ≤ Decimal.wordMax)
    (hd : r.dynamic + tally (·.dynamic) ws ≤ Decimal.wordMax)
    (hp : r.post + tally (·.post) ws ≤ Decimal.wordMax) :
    ws.foldlM addWorker? r = some
      { r with
        total := r.total + tally (·.total) ws, static := r.static + tally (·.static) ws,
        dynamic := r.dynamic + tally (·.dynamic) ws, post := r.post + tally (·.post) ws } := by
  induction ws generalizing r with
  | nil => simp
  | cons c ws ih =>
    simp only [tally_cons] at ht hs hd hp
    have hadd : addWorker? r c = some
        { r with
          total := r.total + c.total, static := r.static + c.static,
          dynamic := r.dynamic + c.dynamic, post := r.post + c.post } := by
      simp [addWorker?, Word.add?_of_le (by omega : r.total + c.total ≤ _),
        Word.add?_of_le (by omega : r.static + c.static ≤ _),
        Word.add?_of_le (by omega : r.dynamic + c.dynamic ≤ _),
        Word.add?_of_le (by omega : r.post + c.post ≤ _)]
    rw [List.foldlM_cons, hadd, Option.bind_eq_bind, Option.bind_some,
      ih _ (by dsimp only; omega) (by dsimp only; omega) (by dsimp only; omega)
        (by dsimp only; omega)]
    simp only [tally_cons, Nat.add_assoc]

/-- Over balanced workers whose totals sum to a word, the report computed on words succeeds and is
the report on numbers. -/
theorem ofWorkers?_eq_some {cs : List Counters} (hb : ∀ c ∈ cs, c.Balanced)
    (hw : tally (·.total) cs ≤ Decimal.wordMax) : ofWorkers? cs = some (ofWorkers cs) := by
  have hle := tally_kinds_le hb
  have hperm (f : Counters → Nat) : tally f (sortById cs) = tally f cs :=
    tally_perm f (sortById_perm cs)
  have hfold : (sortById cs).foldlM addWorker? empty = some
      { empty with
        total := tally (·.total) cs, static := tally (·.static) cs,
        dynamic := tally (·.dynamic) cs, post := tally (·.post) cs } := by
    simpa [empty, hperm] using foldlM_addWorker? (sortById cs) empty
      (by simp [empty, hperm]; omega) (by simp [empty, hperm]; omega)
      (by simp [empty, hperm]; omega) (by simp [empty, hperm]; omega)
  simp only [ofWorkers?, hfold, Option.bind_eq_bind, Option.bind_some,
    Word.sub?_of_le (by omega : tally (·.static) cs ≤ tally (·.total) cs),
    Word.sub?_of_le (by omega :
      tally (·.dynamic) cs ≤ tally (·.total) cs - tally (·.static) cs),
    Word.sub?_of_le (by omega : tally (·.post) cs ≤
      tally (·.total) cs - tally (·.static) cs - tally (·.dynamic) cs)]
  rfl

/-- A worker's counter is part of the sum over the workers. -/
theorem le_tally (f : Counters → Nat) {c : Counters} {cs : List Counters} (h : c ∈ cs) :
    f c ≤ tally f cs := by
  induction cs with
  | nil => simp at h
  | cons d cs ih =>
    rcases List.mem_cons.1 h with rfl | h
    · simp
    · simp only [tally_cons]
      have := ih h
      omega

/-- The report over the workers `hs` is exact: its workers are theirs ordered by id, each sum is
the sum of their counters, and the errors are their requests counted as errors. -/
structure Exact (hs : List History) (r : Report) : Prop where
  perm : r.workers.Perm (hs.map History.counters)
  sorted : r.workers.Pairwise (fun a b => a.id ≤ b.id)
  total : r.total = tally (·.total) (hs.map History.counters)
  static : r.static = tally (·.static) (hs.map History.counters)
  dynamic : r.dynamic = tally (·.dynamic) (hs.map History.counters)
  post : r.post = tally (·.post) (hs.map History.counters)
  errors : r.errors = (hs.flatMap History.kinds).count .error
  sum : r.total = r.static + r.dynamic + r.post + r.errors

/-- The report on numbers is exact over any workers. -/
theorem ofWorkers_exact (hs : List History) : Exact hs (ofWorkers (hs.map History.counters)) := by
  obtain ⟨ht, hs', hd, hp⟩ := History.tally_counters hs
  have hk := Kind.count_kinds (hs.flatMap History.kinds)
  have hb : ∀ c ∈ hs.map History.counters, c.Balanced := by simp [History.balanced]
  have hle := tally_kinds_le hb
  refine ⟨sortById_perm _, sortById_sorted _, rfl, rfl, rfl, rfl, ?_, ?_⟩
  · simp only [ofWorkers, ht, hs', hd, hp]
    omega
  · simp only [ofWorkers]
    omega

end Report

/-- Over workers whose counters come from recording their requests one at a time, with totals
summing below `2^64`: every worker counts its requests exactly and without failing on words, the
report computed on words does not fail and is the report on numbers, and that report is exact. -/
theorem report_within_words (hs : List History)
    (hw : Report.tally (·.total) (hs.map History.counters) < Nat.pow 2 64) :
    (∀ h ∈ hs, h.Counted) ∧
      Report.ofWorkers? (hs.map History.counters) =
        some (Report.ofWorkers (hs.map History.counters)) ∧
      Report.Exact hs (Report.ofWorkers (hs.map History.counters)) := by
  have hwm : Report.tally (·.total) (hs.map History.counters) ≤ Decimal.wordMax := by
    unfold Decimal.wordMax
    omega
  refine ⟨fun h hh => h.counted ?_, Report.ofWorkers?_eq_some (by simp [History.balanced]) hwm,
    Report.ofWorkers_exact hs⟩
  have hle := Report.le_tally (·.total) (List.mem_map_of_mem (f := History.counters) hh)
  rw [(h.counters_count).2.1] at hle
  omega

/-- Two workers listed out of id order, whose requests are of every kind. -/
def twoWorkers : List History := [⟨2, [.static, .error, .post]⟩, ⟨1, [.dynamic, .error]⟩]

theorem report_within_words_two_workers :
    Report.tally (·.total) (twoWorkers.map History.counters) < Nat.pow 2 64 ∧
      (∀ h ∈ twoWorkers, h.Counted) ∧
      Report.ofWorkers? (twoWorkers.map History.counters) =
        some (Report.ofWorkers (twoWorkers.map History.counters)) ∧
      Report.Exact twoWorkers (Report.ofWorkers (twoWorkers.map History.counters)) :=
  ⟨by decide, report_within_words twoWorkers (by decide)⟩

end PoolServer
