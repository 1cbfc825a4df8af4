import Mathlib.Data.List.Infix
import PoolServer.Proofs.LogTasks
/-!
# The log is linearizable

Whatever the threads call and however the lock interleaves them, the shared log behaves as a list
that each `append` extends at one point and each read copies at one point. The records are exactly
the data that appends linked under their write guard, each once and unchanged, none empty, in the
order the appends were admitted as writers (`LinkInv`): the write guard is exclusive, so an append
links its record before any other append is admitted. A read copies the records as they were when
it was admitted (`ReadInv`): no writer can enter while it holds its read guard, and when it was
admitted no append was in the middle of linking. So every snapshot is a run of whole records, the
first `k` of them for the `k` appends done before its admission, and successive reads by one
thread see growing prefixes. An empty record is refused before the lock is touched and changes
nothing.

Main statement: `log_linearizable`.
-/
namespace PoolServer

namespace LogMonitor

/-- The data a step linked into the log: the work of an append. -/
def Event.linked : Event → Option Bytes
  | .worked _ (.append d) => some d
  | _ => none

/-- The data of the append a step admitted as a writer. -/
def Event.admitted : Event → Option Bytes
  | .entered _ (.append d) => some d
  | _ => none

/-- The records linked along a run, in the order they were linked. -/
def linked (tr : List Event) : List Bytes := tr.filterMap Event.linked

/-- The data of the appends admitted as writers along a run, in the order they were admitted. -/
def admitted (tr : List Event) : List Bytes := tr.filterMap Event.admitted

section Trace

variable {tr : List Event} {e : Event} {j : Nat}

@[simp] theorem linked_snoc : linked (tr ++ [e]) = linked tr ++ e.linked.toList := by
  cases h : e.linked <;> simp [linked, h]

@[simp] theorem admitted_snoc : admitted (tr ++ [e]) = admitted tr ++ e.admitted.toList := by
  cases h : e.admitted <;> simp [admitted, h]

theorem take_snoc (hj : j ≤ tr.length) : (tr ++ [e]).take j = tr.take j :=
  List.take_append_of_le_length hj

/-- The records linked by a point of a run are a prefix of those linked by any later point. -/
theorem linked_take_prefix_take {i : Nat} (h : i ≤ j) : linked (tr.take i) <+: linked (tr.take j) :=
  (List.take_prefix_take_left h).filterMap _

end Trace

/-! ### The records -/

/-- The log holds exactly the records linked so far, none of them empty; and they were linked in
the order their appends were admitted: every admitted append has linked its record, except the one
inside an append, if any, whose record comes next. -/
structure LinkInv (tr : List Event) (s : LogMonitor) : Prop where
  records : s.journal.records = linked tr
  nonempty : ∀ d ∈ linked tr, d ≠ []
  order : (admitted tr = linked tr ∧ ∀ d, Task.inside (.append d) ∉ s.tasks) ∨
    ∃ d, Task.inside (.append d) ∈ s.tasks ∧ admitted tr = linked tr ++ [d]

section Appenders

variable {ks : List Task} {t : Nat} {k k₁ : Task} {d : Bytes}

/-- One thread moving between tasks that are not inside an append changes no appender. -/
theorem appender_set (ht : ks[t]? = some k) (hk : ∀ d, k ≠ .inside (.append d))
    (hk₁ : ∀ d, k₁ ≠ .inside (.append d)) :
    Task.inside (.append d) ∈ ks.set t k₁ ↔ Task.inside (.append d) ∈ ks := by
  constructor
  · intro hmem
    exact (List.mem_or_eq_of_mem_set hmem).resolve_right (fun h => hk₁ d h.symm)
  · intro hmem
    exact LockMonitor.mem_set_of_mem hmem ht (hk d)

/-- A step that links nothing, admits no append, leaves the records alone and moves no thread in
or out of an append keeps the records as they were. -/
theorem LinkInv.quiet {tr : List Event} {e : Event} {s s' : LogMonitor} (hi : LinkInv tr s)
    (hl : e.linked = none) (ha : e.admitted = none) (hj : s'.journal = s.journal)
    (hs : ∀ d, Task.inside (.append d) ∈ s'.tasks ↔ Task.inside (.append d) ∈ s.tasks) :
    LinkInv (tr ++ [e]) s' := by
  refine ⟨?_, ?_, ?_⟩
  · simpa [hl, hj] using hi.records
  · simpa [hl] using hi.nonempty
  · simpa [hl, ha, hs] using hi.order

end Appenders

/-- A writer is admitted only into an empty lock. -/
theorem writerIn_empty {l l' : LockMonitor} {t : Nat} (h : LockMonitor.Step l (.writerIn t) l') :
    l.stats.activeWriters = 0 := by
  cases h with
  | writerEntersAtOnce _ hw => exact (LockStats.mustWaitToWrite_eq_false.1 hw).2
  | writerEnters _ hw => exact (LockStats.mustWaitToWrite_eq_false.1 hw).2

/-- With no writer inside the lock, no thread is inside an append. -/
theorem TaskInv.no_appender_of_free {s : LogMonitor} (ht : TaskInv s)
    (ha : LockMonitor.Accounting s.lock) (hw : s.lock.stats.activeWriters = 0) (d : Bytes) :
    Task.inside (.append d) ∉ s.tasks := by
  intro hmem
  obtain ⟨u, hu⟩ := List.mem_iff_getElem?.1 hmem
  have hpos : 0 < s.lock.threads.count .writing :=
    List.count_pos_iff.2 (List.mem_of_getElem? (ht.appender_writing hu))
  rw [← ha.writers] at hpos
  omega

theorem Call.refusal_append {d : Bytes} (h : (Call.append d).refusal = none) : d ≠ [] := by
  rintro rfl
  cases h

/-- The thread inside an append holds the record admitted last. -/
theorem LinkInv.last_admitted {tr : List Event} {s : LogMonitor} {t : Nat} {d : Bytes}
    (hi : LinkInv tr s) (ht : TaskInv s) (ha : LockMonitor.Accounting s.lock)
    (hk : s.tasks[t]? = some (.inside (.append d))) : admitted tr = linked tr ++ [d] := by
  rcases hi.order with ⟨-, hnone⟩ | ⟨d', hmem, hlast⟩
  · exact absurd (List.mem_of_getElem? hk) (hnone d)
  · obtain ⟨u, hu⟩ := List.mem_iff_getElem?.1 hmem
    obtain rfl := ht.appender_unique ha hk hu
    rw [hk] at hu
    cases hu
    exact hlast

/-- Once the only thread inside an append moves on, no thread is inside one. -/
theorem TaskInv.no_appender_set {s : LogMonitor} {t : Nat} {d : Bytes} {k₁ : Task} (ht : TaskInv s)
    (ha : LockMonitor.Accounting s.lock) (hk : s.tasks[t]? = some (.inside (.append d)))
    (hk₁ : ∀ d, k₁ ≠ .inside (.append d)) (d' : Bytes) :
    Task.inside (.append d') ∉ s.tasks.set t k₁ := by
  intro hmem
  obtain ⟨u, hu⟩ := List.mem_iff_getElem?.1 hmem
  by_cases htu : t = u
  · subst htu
    rw [List.getElem?_set_self (List.getElem?_eq_some_iff.1 hk).1] at hu
    exact hk₁ d' (Option.some.inj hu)
  · rw [List.getElem?_set_ne htu] at hu
    exact htu (ht.appender_unique ha hk hu)

theorem LinkInv.step {tr : List Event} {s s' : LogMonitor} {e : Event} (hi : LinkInv tr s)
    (ht : TaskInv s) (ha : LockMonitor.Accounting s.lock) (h : Step s e s') :
    LinkInv (tr ++ [e]) s' := by
  cases h with
  | refuse _ _ => exact hi.quiet rfl rfl rfl (fun _ => Iff.rfl)
  | call hk _ _ => exact hi.quiet rfl rfl rfl (fun _ => appender_set hk nofun nofun)
  | lock _ _ _ => exact hi.quiet rfl rfl rfl (fun _ => Iff.rfl)
  | @enter t c l hk hl =>
    cases c with
    | append d =>
      have hfree := ht.no_appender_of_free ha (writerIn_empty hl)
      have hsame : admitted tr = linked tr := by
        rcases hi.order with ⟨hsame, -⟩ | ⟨d', hmem, -⟩
        · exact hsame
        · exact absurd hmem (hfree d')
      refine ⟨by simpa [Event.linked] using hi.records, by simpa [Event.linked] using hi.nonempty,
        .inr ⟨d, List.mem_set (List.getElem?_eq_some_iff.1 hk).1 _, ?_⟩⟩
      simp [Event.linked, Event.admitted, hsame]
    | snapshot => exact hi.quiet rfl rfl rfl (fun _ => appender_set hk nofun nofun)
    | size => exact hi.quiet rfl rfl rfl (fun _ => appender_set hk nofun nofun)
  | @work t c hk =>
    cases c with
    | append d =>
      have hd : d ≠ [] := by
        obtain ⟨p, -, hfit, -⟩ := ht.phase hk
        exact Call.refusal_append hfit
      have hlast := hi.last_admitted ht ha hk
      refine ⟨?_, ?_, .inl ⟨?_, ht.no_appender_set ha hk fun _ => nofun⟩⟩
      · simp [Call.work, Event.linked, hi.records]
      · intro d' hmem
        simp only [linked_snoc, Event.linked, Option.toList_some, List.mem_append,
          List.mem_singleton] at hmem
        rcases hmem with hmem | rfl
        · exact hi.nonempty d' hmem
        · exact hd
      · simp [Event.linked, Event.admitted, hlast]
    | snapshot => exact hi.quiet rfl rfl rfl (fun _ => appender_set hk nofun nofun)
    | size => exact hi.quiet rfl rfl rfl (fun _ => appender_set hk nofun nofun)
  | leave hk _ => exact hi.quiet rfl rfl rfl (fun _ => appender_set hk nofun nofun)

theorem LinkInv.initial (n : Nat) : LinkInv [] (init n) := by
  refine ⟨rfl, by simp [linked], .inl ⟨rfl, fun d hmem => ?_⟩⟩
  cases List.eq_of_mem_replicate hmem

/-- Along every run, the tasks fit the lock, the lock's counts are exact, and the records are as
`LinkInv` says. -/
theorem LinkInv.run {n : Nat} {tr : List Event} {s : LogMonitor} (hr : Steps Step (init n) tr s) :
    LinkInv tr s := by
  induction hr with
  | nil => exact initial n
  | snoc h₀ h ih => exact ih.step (TaskInv.run h₀) (LockMonitor.Accounting.run (lock_run h₀)) h

/-! ### The reads -/

/-- Thread `t` was admitted for the read `c` at step `j` of the run, before step `i`, and did not
return in between; every append admitted before step `j` had linked its record by then. -/
structure ReadWindow (tr : List Event) (t : Nat) (c : Call) (j i : Nat) : Prop where
  lt : j < i
  entered : tr[j]? = some (.entered t c)
  silent : ∀ m c' r', j < m → m < i → tr[m]? ≠ some (.replied t c' r')
  settled : admitted (tr.take j) = linked (tr.take j)

/-- What a thread in a read knows: inside, it was admitted at some step after which nothing was
linked; done, it returns what the records were at its admission. -/
def ReadState (tr : List Event) (t : Nat) : Option Task → Prop
  | some (.inside c) =>
    c.writes = false → ∃ j, ReadWindow tr t c j tr.length ∧ linked tr = linked (tr.take j)
  | some (.done c r) =>
    c.writes = false → ∃ j, ReadWindow tr t c j tr.length ∧ r = (c.work ⟨linked (tr.take j)⟩).2
  | _ => True

/-- Every thread in a read knows where it was admitted and what it saw. -/
def ReadInv (tr : List Event) (s : LogMonitor) : Prop := ∀ t, ReadState tr t s.tasks[t]?

section Reads

variable {tr : List Event} {e : Event} {t : Nat} {c : Call} {j : Nat}

theorem ReadWindow.snoc (hw : ReadWindow tr t c j tr.length) (he : ∀ c' r', e ≠ .replied t c' r') :
    ReadWindow (tr ++ [e]) t c j (tr ++ [e]).length where
  lt := by
    have := hw.lt
    simp only [List.length_append, List.length_singleton]
    omega
  entered := by rw [List.getElem?_append_left hw.lt]; exact hw.entered
  silent := by
    intro m c' r' hjm hm
    rcases Nat.lt_or_ge m tr.length with hlt | hge
    · rw [List.getElem?_append_left hlt]
      exact hw.silent m c' r' hjm hlt
    · have hm' : m = tr.length := by
        simp only [List.length_append, List.length_singleton] at hm
        omega
      subst hm'
      rw [List.getElem?_concat_length]
      exact fun h => he c' r' (Option.some.inj h)
  settled := by rw [take_snoc hw.lt.le]; exact hw.settled

/-- A window seen from a prefix of the run is a window of the whole run. -/
theorem ReadWindow.of_take {i : Nat} (hi : i ≤ tr.length)
    (hw : ReadWindow (tr.take i) t c j (tr.take i).length) : ReadWindow tr t c j i := by
  rw [List.length_take_of_le hi] at hw
  refine ⟨hw.lt, (LockMonitor.getElem?_of_getElem?_take hw.entered).2, ?_, ?_⟩
  · intro m c' r' hjm hm
    rw [← List.getElem?_take_of_lt hm]
    exact hw.silent m c' r' hjm hm
  · simpa [List.take_take, Nat.min_eq_left hw.lt.le] using hw.settled

theorem ReadState.snoc {o : Option Task} (h : ReadState tr t o)
    (he : ∀ c' r', e ≠ .replied t c' r') (hl : e.linked = none) : ReadState (tr ++ [e]) t o := by
  match o, h with
  | some (.inside c), h =>
    intro hc
    obtain ⟨j, hw, hu⟩ := h hc
    refine ⟨j, hw.snoc he, ?_⟩
    rw [linked_snoc, hl, take_snoc hw.lt.le]
    simpa using hu
  | some (.done c r), h =>
    intro hc
    obtain ⟨j, hw, hr⟩ := h hc
    exact ⟨j, hw.snoc he, by rw [take_snoc hw.lt.le]; exact hr⟩
  | some .idle, _ => trivial
  | some (.calling _), _ => trivial
  | none, _ => trivial

/-- While a thread is inside an append no thread reads, so every thread knows what it must. -/
theorem ReadState.of_appender {s : LogMonitor} {u : Nat} {d : Bytes} (hi : TaskInv s)
    (ha : LockMonitor.Accounting s.lock) (hu : s.tasks[u]? = some (.inside (.append d)))
    (tr : List Event) (t : Nat) : ReadState tr t s.tasks[t]? := by
  cases ht : s.tasks[t]? with
  | none => trivial
  | some k =>
    cases k with
    | idle => trivial
    | calling c => trivial
    | inside c => exact fun hc => absurd hu (hi.no_appender ha hc (.inl ht))
    | done c r => exact fun hc => absurd hu (hi.no_appender ha hc (.inr ⟨r, ht⟩))

end Reads

/-- A reader is admitted only while no writer is inside. -/
theorem readerIn_no_writer {l l' : LockMonitor} {t : Nat}
    (h : LockMonitor.Step l (.readerIn t) l') : l.stats.activeWriters = 0 :=
  (LockStats.mustWaitToRead_eq_false.1 h.readerIn_free).2

/-- A thread admitted for a read starts its window at this step: no append is inside, so every
append admitted so far has linked its record. -/
theorem ReadState.admit {tr : List Event} {s : LogMonitor} {t : Nat} {c : Call} {l : LockMonitor}
    (hlink : LinkInv tr s) (ht : TaskInv s) (ha : LockMonitor.Accounting s.lock)
    (hl : LockMonitor.Step s.lock (c.admission t) l) :
    ReadState (tr ++ [.entered t c]) t (some (.inside c)) := by
  intro hc
  have hfree : ∀ d, Task.inside (.append d) ∉ s.tasks := by
    have hread : c.admission t = .readerIn t := by simp [Call.admission, hc]
    rw [hread] at hl
    exact ht.no_appender_of_free ha (readerIn_no_writer hl)
  have hsettled : admitted tr = linked tr := by
    rcases hlink.order with ⟨hsame, -⟩ | ⟨d, hmem, -⟩
    · exact hsame
    · exact absurd hmem (hfree d)
  have hlinked : (Event.entered t c).linked = none := by cases c <;> rfl
  refine ⟨tr.length, ⟨by simp, List.getElem?_concat_length, ?_, ?_⟩, ?_⟩
  · intro m c' r' hjm hm
    simp only [List.length_append, List.length_singleton] at hm
    omega
  · simpa using hsettled
  · simp [hlinked]

/-- A read does its work on the records as they were at its admission. -/
theorem ReadState.work {tr : List Event} {s : LogMonitor} {u : Nat} {c : Call} (hi : ReadInv tr s)
    (hlink : LinkInv tr s) (hk : s.tasks[u]? = some (.inside c)) :
    ReadState (tr ++ [.worked u c]) u (some (.done c (c.work s.journal).2)) := by
  intro hc
  have hin := hi u
  rw [hk] at hin
  obtain ⟨j, hw, hu⟩ := hin hc
  refine ⟨j, hw.snoc (fun _ _ h => by cases h), ?_⟩
  rw [take_snoc hw.lt.le, ← hu, ← hlink.records]

theorem ReadInv.step {tr : List Event} {s s' : LogMonitor} {e : Event} (hi : ReadInv tr s)
    (hlink : LinkInv tr s) (ht : TaskInv s) (ha : LockMonitor.Accounting s.lock)
    (h : Step s e s') : ReadInv (tr ++ [e]) s' := by
  intro t
  cases h with
  | refuse _ _ => exact (hi t).snoc (fun _ _ h => by cases h) rfl
  | lock _ _ _ => exact (hi t).snoc (fun _ _ h => by cases h) rfl
  | @call u c hk _ _ =>
    by_cases htu : u = t
    · subst htu
      rw [List.getElem?_set_self (List.getElem?_eq_some_iff.1 hk).1]
      trivial
    · rw [List.getElem?_set_ne htu]
      exact (hi t).snoc (fun _ _ h => by cases h) rfl
  | @enter u c l hk hl =>
    have hlinked : (Event.entered u c).linked = none := by cases c <;> rfl
    by_cases htu : u = t
    · subst htu
      rw [List.getElem?_set_self (List.getElem?_eq_some_iff.1 hk).1]
      exact ReadState.admit hlink ht ha hl
    · rw [List.getElem?_set_ne htu]
      exact (hi t).snoc (fun _ _ h => by cases h) hlinked
  | @work u c hk =>
    by_cases htu : u = t
    · subst htu
      rw [List.getElem?_set_self (List.getElem?_eq_some_iff.1 hk).1]
      exact ReadState.work hi hlink hk
    · rw [List.getElem?_set_ne htu]
      cases c with
      | append d => exact ReadState.of_appender ht ha hk _ t
      | snapshot => exact (hi t).snoc (fun _ _ h => by cases h) rfl
      | size => exact (hi t).snoc (fun _ _ h => by cases h) rfl
  | @leave u c r l hk hl =>
    by_cases htu : u = t
    · subst htu
      rw [List.getElem?_set_self (List.getElem?_eq_some_iff.1 hk).1]
      trivial
    · rw [List.getElem?_set_ne htu]
      exact (hi t).snoc (fun _ _ h => htu (Event.replied.inj h).1) rfl

theorem ReadInv.initial (n : Nat) : ReadInv [] (init n) := by
  intro t
  cases ht : (init n).tasks[t]? with
  | none => trivial
  | some k =>
    obtain rfl := List.eq_of_mem_replicate (List.mem_of_getElem? ht)
    trivial

theorem ReadInv.run {n : Nat} {tr : List Event} {s : LogMonitor} (hr : Steps Step (init n) tr s) :
    ReadInv tr s := by
  induction hr with
  | nil => exact initial n
  | snoc h₀ h ih =>
    exact ih.step (LinkInv.run h₀) (TaskInv.run h₀) (LockMonitor.Accounting.run (lock_run h₀)) h

theorem Step.replied_task {s s' : LogMonitor} {t : Nat} {c : Call} {r : Reply}
    (h : Step s (.replied t c r) s') : s.tasks[t]? = some (.done c r) := by
  cases h with
  | leave ht _ => exact ht

/-- Every read returns the records as they stood when it was admitted. -/
theorem read_reply {n : Nat} {tr : List Event} {s : LogMonitor} (hr : Steps Step (init n) tr s)
    {i t : Nat} {c : Call} {r : Reply} (hi : tr[i]? = some (.replied t c r))
    (hc : c.writes = false) : ∃ j, ReadWindow tr t c j i ∧ r = (c.work ⟨linked (tr.take j)⟩).2 := by
  obtain ⟨m, m', hm, hstep⟩ := hr.before hi
  have hread := ReadInv.run hm t
  rw [hstep.replied_task] at hread
  obtain ⟨j, hw, hr⟩ := hread hc
  have hwin : ReadWindow tr t c j i :=
    ReadWindow.of_take (Nat.le_of_lt (List.getElem?_eq_some_iff.1 hi).1) hw
  refine ⟨j, hwin, ?_⟩
  rwa [List.take_take, Nat.min_eq_left hwin.lt.le] at hr

/-- Two reads by one thread: the later one was admitted after the earlier one returned, so it sees
at least the records the earlier one saw. -/
theorem read_views_grow {n : Nat} {tr : List Event} {s : LogMonitor}
    (hr : Steps Step (init n) tr s) {i₁ i₂ t : Nat} {c₁ c₂ : Call} {r₁ r₂ : Reply}
    (h₁ : tr[i₁]? = some (.replied t c₁ r₁)) (h₂ : tr[i₂]? = some (.replied t c₂ r₂))
    (hc₁ : c₁.writes = false) (hc₂ : c₂.writes = false) (hlt : i₁ < i₂) :
    ∃ j₁ j₂, r₁ = (c₁.work ⟨linked (tr.take j₁)⟩).2 ∧ r₂ = (c₂.work ⟨linked (tr.take j₂)⟩).2 ∧
      linked (tr.take j₁) <+: linked (tr.take j₂) := by
  obtain ⟨j₁, hw₁, hr₁⟩ := read_reply hr h₁ hc₁
  obtain ⟨j₂, hw₂, hr₂⟩ := read_reply hr h₂ hc₂
  have hij : i₁ ≤ j₂ := by
    rcases Nat.lt_or_ge j₂ i₁ with hj | hj
    · exact absurd h₁ (hw₂.silent i₁ c₁ r₁ hj hlt)
    · exact hj
  exact ⟨j₁, j₂, hr₁, hr₂, linked_take_prefix_take (by have := hw₁.lt; omega)⟩

/-! ### Refusals -/

/-- The only call refused before the lock is an append of an empty record. -/
theorem Call.refusal_eq_some {c : Call} {e : LogError} :
    c.refusal = some e ↔ c = .append [] ∧ e = .emptyRecord := by
  cases c with
  | append d => cases d <;> simp [Call.refusal, eq_comm]
  | snapshot => simp [Call.refusal]
  | size => simp [Call.refusal]

theorem Step.refused_inv {s s' : LogMonitor} {t : Nat} {c : Call} {e : LogError}
    (h : Step s (.refused t c e) s') : c = .append [] ∧ e = .emptyRecord ∧ s' = s := by
  cases h with
  | refuse _ hc => exact ⟨(Call.refusal_eq_some.1 hc).1, (Call.refusal_eq_some.1 hc).2, rfl⟩

theorem Step.not_called_empty {s s' : LogMonitor} {t : Nat} :
    ¬ Step s (.called t (.append [])) s' := by
  intro h
  cases h with
  | call _ _ hc => cases hc

/-! ### Linearizability -/

/-- What a run of the log shows. The records are the non-empty data the appends linked, in the
order the appends were admitted as writers; every read returns the records linked before its
admission, a prefix of the records now, with nothing left half-linked at that point; two reads by
one thread see growing prefixes; and an empty record is refused, changing nothing. -/
structure Linearizable (tr : List Event) (s : LogMonitor) : Prop where
  records : s.journal.records = linked tr
  nonempty : ∀ d ∈ s.journal.records, d ≠ []
  order : admitted tr = linked tr ∨
    ∃ (t : Nat) (d : Bytes), s.tasks[t]? = some (Task.inside (.append d)) ∧ admitted tr = linked tr ++ [d]
  snapshot : ∀ (i t : Nat) (r : Reply), tr[i]? = some (Event.replied t .snapshot r) → ∃ j, ReadWindow tr t .snapshot j i ∧
    linked (tr.take j) <+: s.journal.records ∧ r = .bytes (linked (tr.take j)).flatten
  size : ∀ (i t : Nat) (r : Reply), tr[i]? = some (Event.replied t .size r) → ∃ j, ReadWindow tr t .size j i ∧
    linked (tr.take j) <+: s.journal.records ∧ r = .count (linked (tr.take j)).length
  snapshots_grow : ∀ (i₁ i₂ t : Nat) (b₁ b₂ : Bytes), i₁ < i₂ →
    tr[i₁]? = some (Event.replied t .snapshot (.bytes b₁)) →
    tr[i₂]? = some (Event.replied t .snapshot (.bytes b₂)) → b₁ <+: b₂
  sizes_grow : ∀ (i₁ i₂ t k₁ k₂ : Nat), i₁ < i₂ →
    tr[i₁]? = some (Event.replied t .size (.count k₁)) →
    tr[i₂]? = some (Event.replied t .size (.count k₂)) → k₁ ≤ k₂
  refused : ∀ (t : Nat) (c : Call) (e : LogError) (s' : LogMonitor), Step s (.refused t c e) s' → c = .append [] ∧ e = .emptyRecord ∧ s' = s
  empty_refused : ∀ t : Nat, s.tasks[t]? = some .idle → Step s (.refused t (.append []) .emptyRecord) s
  empty_not_called : ∀ (t : Nat) (s' : LogMonitor), ¬ Step s (.called t (.append [])) s'

/-- The records a read saw are a prefix of the records at the end of the run. -/
theorem ReadWindow.linked_prefix_records {n : Nat} {tr : List Event} {s : LogMonitor}
    (hr : Steps Step (init n) tr s) {t : Nat} {c : Call} {j i : Nat} (hw : ReadWindow tr t c j i) :
    linked (tr.take j) <+: s.journal.records := by
  have hle : j ≤ tr.length := Nat.le_of_lt (List.getElem?_eq_some_iff.1 hw.entered).1
  rw [(LinkInv.run hr).records]
  simpa using (linked_take_prefix_take hle : linked (tr.take j) <+: linked (tr.take tr.length))

theorem log_linearizable {n : Nat} {tr : List Event} {s : LogMonitor}
    (hr : Steps Step (init n) tr s) : Linearizable tr s := by
  have hlink := LinkInv.run hr
  refine ⟨hlink.records, ?_, ?_, ?_, ?_, ?_, ?_, ?_, ?_, ?_⟩
  · rw [hlink.records]
    exact hlink.nonempty
  · rcases hlink.order with ⟨hsame, -⟩ | ⟨d, hmem, hlast⟩
    · exact .inl hsame
    · obtain ⟨t, ht⟩ := List.mem_iff_getElem?.1 hmem
      exact .inr ⟨t, d, ht, hlast⟩
  · intro i t r hi
    obtain ⟨j, hw, hr'⟩ := read_reply hr hi rfl
    exact ⟨j, hw, hw.linked_prefix_records hr, hr'⟩
  · intro i t r hi
    obtain ⟨j, hw, hr'⟩ := read_reply hr hi rfl
    exact ⟨j, hw, hw.linked_prefix_records hr, hr'⟩
  · intro i₁ i₂ t b₁ b₂ hlt h₁ h₂
    obtain ⟨j₁, j₂, hr₁, hr₂, hprefix⟩ := read_views_grow hr h₁ h₂ rfl rfl hlt
    cases hr₁
    cases hr₂
    exact hprefix.flatten
  · intro i₁ i₂ t k₁ k₂ hlt h₁ h₂
    obtain ⟨j₁, j₂, hr₁, hr₂, hprefix⟩ := read_views_grow hr h₁ h₂ rfl rfl hlt
    cases hr₁
    cases hr₂
    exact hprefix.length_le
  · intro t c e s' h
    exact h.refused_inv
  · intro t ht
    exact .refuse ht rfl
  · intro t s'
    exact Step.not_called_empty

/-- Thread 0 appends the record [1]; then thread 1 takes a snapshot and gets it back. -/
theorem append_then_snapshot_run :
    Steps Step (init 2) [.called 0 (.append [1]), .entered 0 (.append [1]), .worked 0 (.append [1]),
      .replied 0 (.append [1]) .appended, .called 1 .snapshot, .entered 1 .snapshot,
      .worked 1 .snapshot, .replied 1 .snapshot (.bytes [1])]
      ⟨⟨{}, [.idle, .idle]⟩, ⟨[[1]]⟩, [.idle, .idle]⟩ := by
  have h₁ : Step (init 2) (.called 0 (.append [1]))
      ⟨⟨{}, [.writeEntering, .idle]⟩, {}, [.calling (.append [1]), .idle]⟩ := .call rfl rfl rfl
  have h₂ : Step ⟨⟨{}, [.writeEntering, .idle]⟩, {}, [.calling (.append [1]), .idle]⟩
      (.entered 0 (.append [1]))
      ⟨⟨⟨0, 1, 0⟩, [.writing, .idle]⟩, {}, [.inside (.append [1]), .idle]⟩ :=
    .enter rfl (.writerEntersAtOnce rfl rfl)
  have h₃ : Step ⟨⟨⟨0, 1, 0⟩, [.writing, .idle]⟩, {}, [.inside (.append [1]), .idle]⟩
      (.worked 0 (.append [1]))
      ⟨⟨⟨0, 1, 0⟩, [.writing, .idle]⟩, ⟨[[1]]⟩, [.done (.append [1]) .appended, .idle]⟩ :=
    .work rfl
  have h₄ : Step ⟨⟨⟨0, 1, 0⟩, [.writing, .idle]⟩, ⟨[[1]]⟩, [.done (.append [1]) .appended, .idle]⟩
      (.replied 0 (.append [1]) .appended) ⟨⟨{}, [.idle, .idle]⟩, ⟨[[1]]⟩, [.idle, .idle]⟩ :=
    .leave rfl (.writerLeaves rfl (.none (by decide)))
  have h₅ : Step ⟨⟨{}, [.idle, .idle]⟩, ⟨[[1]]⟩, [.idle, .idle]⟩ (.called 1 .snapshot)
      ⟨⟨{}, [.idle, .readEntering]⟩, ⟨[[1]]⟩, [.idle, .calling .snapshot]⟩ := .call rfl rfl rfl
  have h₆ : Step ⟨⟨{}, [.idle, .readEntering]⟩, ⟨[[1]]⟩, [.idle, .calling .snapshot]⟩
      (.entered 1 .snapshot) ⟨⟨⟨1, 0, 0⟩, [.idle, .reading]⟩, ⟨[[1]]⟩, [.idle, .inside .snapshot]⟩ :=
    .enter rfl (.readerEnters rfl (.inl rfl) rfl)
  have h₇ : Step ⟨⟨⟨1, 0, 0⟩, [.idle, .reading]⟩, ⟨[[1]]⟩, [.idle, .inside .snapshot]⟩
      (.worked 1 .snapshot)
      ⟨⟨⟨1, 0, 0⟩, [.idle, .reading]⟩, ⟨[[1]]⟩, [.idle, .done .snapshot (.bytes [1])]⟩ := .work rfl
  have h₈ : Step ⟨⟨⟨1, 0, 0⟩, [.idle, .reading]⟩, ⟨[[1]]⟩, [.idle, .done .snapshot (.bytes [1])]⟩
      (.replied 1 .snapshot (.bytes [1])) ⟨⟨{}, [.idle, .idle]⟩, ⟨[[1]]⟩, [.idle, .idle]⟩ :=
    .leave rfl (.lastReaderLeaves rfl rfl (.none (by decide)))
  exact .snoc (.snoc (.snoc (.snoc (.snoc (.snoc (.snoc (.snoc .nil h₁) h₂) h₃) h₄) h₅) h₆) h₇) h₈

theorem log_linearizable_append_then_snapshot :
    Steps Step (init 2) [.called 0 (.append [1]), .entered 0 (.append [1]), .worked 0 (.append [1]),
      .replied 0 (.append [1]) .appended, .called 1 .snapshot, .entered 1 .snapshot,
      .worked 1 .snapshot, .replied 1 .snapshot (.bytes [1])]
      ⟨⟨{}, [.idle, .idle]⟩, ⟨[[1]]⟩, [.idle, .idle]⟩ ∧
    Linearizable [.called 0 (.append [1]), .entered 0 (.append [1]), .worked 0 (.append [1]),
      .replied 0 (.append [1]) .appended, .called 1 .snapshot, .entered 1 .snapshot,
      .worked 1 .snapshot, .replied 1 .snapshot (.bytes [1])]
      ⟨⟨{}, [.idle, .idle]⟩, ⟨[[1]]⟩, [.idle, .idle]⟩ :=
  ⟨append_then_snapshot_run, log_linearizable append_then_snapshot_run⟩

end LogMonitor

end PoolServer
