import PoolServer.Lock.Monitor
/-!
# The counts of the lock are exact

Whatever the threads do and in whatever order their steps run, the three counts of the lock say
exactly where the threads are: the readers inside are the threads holding a read guard, the
writers inside are the threads holding the write guard, and the waiting writers are the threads
inside `write` that have counted themselves and not yet entered. At most one thread holds the
write guard, and never while a read guard is held. So no count is ever taken below zero, and a
lock that nobody holds or waits to write on shows all counts zero.

Each step moves one thread and perhaps wakes some parked ones. Waking changes no count, and the
moving thread changes each count by what its own step adds or takes away (`counts_set`), which
is what the step does to the counts.

Main statement: `lock_accounting`.
-/
namespace PoolServer

namespace LockMonitor

section Counting

variable {β : Type} {ts : List β} {t : Nat} {p q : β}

/-- Changing one entry of a list changes how many entries satisfy `f` by what the old entry
takes away and the new one adds. -/
theorem countP_set_add (f : β → Bool) (ht : ts[t]? = some p) :
    (ts.set t q).countP f + (if f p then 1 else 0) = ts.countP f + (if f q then 1 else 0) := by
  obtain ⟨hlt, rfl⟩ := List.getElem?_eq_some_iff.1 ht
  rw [List.countP_set hlt]
  have hle := List.boole_getElem_le_countP (p := f) hlt
  omega

theorem count_set_add [DecidableEq β] (a : β) (ht : ts[t]? = some p) :
    (ts.set t q).count a + (if p = a then 1 else 0) = ts.count a + (if q = a then 1 else 0) := by
  have hset := countP_set_add (· == a) (q := q) ht
  simp only [beq_iff_eq, ← List.count_eq_countP] at hset
  exact hset

end Counting

/-- Waking one writer moves a thread between two phases that every count of `f` agrees on. -/
theorem WakeWriter.countP_eq {ts ts' : List Phase} (h : WakeWriter ts ts') (f : Phase → Bool)
    (hf : f .writeWoken = f .writeParked) : ts'.countP f = ts.countP f := by
  cases h with
  | wake hi =>
    have hset := countP_set_add f (q := .writeWoken) hi
    rw [hf] at hset
    omega
  | none => rfl

/-- Waking the readers moves threads between two phases that every count of `f` agrees on. -/
theorem countP_wakeReaders (ts : List Phase) (f : Phase → Bool)
    (hf : f .readWoken = f .readParked) : (wakeReaders ts).countP f = ts.countP f := by
  rw [wakeReaders, List.countP_map]
  apply List.countP_congr
  intro p _
  cases p <;> simp [Phase.wakeReader, hf]

/-- A writer counted as waiting is inside `write`. -/
theorem Phase.inWrite_of_isRegistered {p : Phase} (hp : p.isRegistered = true) :
    p.inWrite = true := by
  cases p <;> simp_all [Phase.isRegistered, Phase.inWrite]

/-- The three counts the lock keeps track of, after thread `t` moves from `p` to `q`. -/
theorem counts_set {ts : List Phase} {t : Nat} {p q : Phase} (ht : ts[t]? = some p) :
    (ts.set t q).count .reading + (if p = .reading then 1 else 0) =
        ts.count .reading + (if q = .reading then 1 else 0) ∧
    (ts.set t q).count .writing + (if p = .writing then 1 else 0) =
        ts.count .writing + (if q = .writing then 1 else 0) ∧
    (ts.set t q).countP Phase.isRegistered + (if p.isRegistered then 1 else 0) =
        ts.countP Phase.isRegistered + (if q.isRegistered then 1 else 0) :=
  ⟨count_set_add _ ht, count_set_add _ ht, countP_set_add _ ht⟩

/-- The counts of the lock are the numbers of threads at each program point, and a thread holding
the write guard holds it alone. -/
structure Accounting (s : LockMonitor) : Prop where
  readers : s.stats.activeReaders = s.threads.count .reading
  writers : s.stats.activeWriters = s.threads.count .writing
  waiting : s.stats.waitingWriters = s.threads.countP Phase.isRegistered
  exclusive : s.threads.count .writing = 0 ∨
    (s.threads.count .writing = 1 ∧ s.threads.count .reading = 0)

namespace Accounting

variable {s : LockMonitor} {t : Nat} {p : Phase}

/-- Threads that moved without changing any count keep the accounting. -/
theorem congr_counts {u : LockStats} {ts ts' : List Phase} (hi : Accounting ⟨u, ts⟩)
    (hr : ts'.count .reading = ts.count .reading) (hw : ts'.count .writing = ts.count .writing)
    (hg : ts'.countP Phase.isRegistered = ts.countP Phase.isRegistered) :
    Accounting ⟨u, ts'⟩ := by
  obtain ⟨h₁, h₂, h₃, h₄⟩ := hi
  exact ⟨hr ▸ h₁, hw ▸ h₂, hg ▸ h₃, hr ▸ hw ▸ h₄⟩

/-- Waking one writer changes no count. -/
theorem wakeWriter {u : LockStats} {ts ts' : List Phase} (hi : Accounting ⟨u, ts⟩)
    (hw : WakeWriter ts ts') : Accounting ⟨u, ts'⟩ := by
  have hr : ts'.count .reading = ts.count .reading := by
    simp only [List.count_eq_countP]
    exact hw.countP_eq _ (by decide)
  have hw' : ts'.count .writing = ts.count .writing := by
    simp only [List.count_eq_countP]
    exact hw.countP_eq _ (by decide)
  exact hi.congr_counts hr hw' (hw.countP_eq _ rfl)

/-- Waking the readers changes no count. -/
theorem wakeReaders {u : LockStats} {ts : List Phase} (hi : Accounting ⟨u, ts⟩) :
    Accounting ⟨u, LockMonitor.wakeReaders ts⟩ := by
  have hr : (LockMonitor.wakeReaders ts).count .reading = ts.count .reading := by
    simp only [List.count_eq_countP]
    exact countP_wakeReaders ts _ (by decide)
  have hw : (LockMonitor.wakeReaders ts).count .writing = ts.count .writing := by
    simp only [List.count_eq_countP]
    exact countP_wakeReaders ts _ (by decide)
  exact hi.congr_counts hr hw (countP_wakeReaders ts _ rfl)

/-- A thread moving between two phases that no count looks at keeps the accounting. -/
theorem quiet (hi : Accounting s) (ht : s.threads[t]? = some p) {q : Phase}
    (hp : p ≠ .reading ∧ p ≠ .writing) (hq : q ≠ .reading ∧ q ≠ .writing)
    (hreg : q.isRegistered = p.isRegistered) :
    Accounting { s with threads := s.threads.set t q } := by
  obtain ⟨hr, hw, hg⟩ := counts_set (q := q) ht
  simp only [hp.1, hp.2, hq.1, hq.2, hreg, if_false, Nat.add_zero, Nat.add_right_cancel_iff]
    at hr hw hg
  exact hi.congr_counts hr hw hg

/-- A reader that finds no writer inside or waiting counts itself in. -/
theorem enterRead (hi : Accounting s) (ht : s.threads[t]? = some p)
    (hp : p = .readEntering ∨ p = .readWoken) (hw : s.stats.mustWaitToRead = false) :
    Accounting ⟨s.stats.enterRead, s.threads.set t .reading⟩ := by
  have hquiet : p ≠ .reading ∧ p ≠ .writing ∧ p.isRegistered = false := by
    rcases hp with rfl | rfl <;> decide
  obtain ⟨hr, hw', hg⟩ := counts_set (q := .reading) ht
  rw [hquiet.2.2] at hg
  simp only [hquiet.1, hquiet.2.1, Phase.isRegistered, reduceCtorEq, if_true, if_false,
    Bool.false_eq_true, Nat.add_zero] at hr hw' hg
  obtain ⟨-, hact⟩ := LockStats.mustWaitToRead_eq_false.1 hw
  obtain ⟨h₁, h₂, h₃, -⟩ := hi
  refine ⟨?_, ?_, ?_, ?_⟩ <;> simp only [LockStats.enterRead] <;> omega

/-- A reader dropping its guard counts itself out. -/
theorem leaveRead (hi : Accounting s) (ht : s.threads[t]? = some .reading) :
    Accounting ⟨s.stats.leaveRead, s.threads.set t .idle⟩ := by
  obtain ⟨hr, hw, hg⟩ := counts_set (q := .idle) ht
  simp only [Phase.isRegistered, reduceCtorEq, if_true, if_false, Bool.false_eq_true,
    Nat.add_zero] at hr hw hg
  obtain ⟨h₁, h₂, h₃, h₄⟩ := hi
  refine ⟨?_, ?_, ?_, ?_⟩ <;> simp only [LockStats.leaveRead] <;> omega

/-- A writer counts itself as waiting. -/
theorem register (hi : Accounting s) (ht : s.threads[t]? = some .writeEntering) :
    Accounting ⟨s.stats.register, s.threads.set t .writeParked⟩ := by
  obtain ⟨hr, hw, hg⟩ := counts_set (q := .writeParked) ht
  simp only [Phase.isRegistered, reduceCtorEq, if_true, if_false, Bool.false_eq_true,
    Nat.add_zero] at hr hw hg
  obtain ⟨h₁, h₂, h₃, h₄⟩ := hi
  refine ⟨?_, ?_, ?_, ?_⟩ <;> simp only [LockStats.register] <;> omega

/-- A registered writer that finds nobody inside stops counting as waiting and enters. -/
theorem enterWrite (hi : Accounting s) (ht : s.threads[t]? = some p)
    (hp : p.isRegistered = true) (hw : s.stats.mustWaitToWrite = false) :
    Accounting ⟨s.stats.enterWrite, s.threads.set t .writing⟩ := by
  have hquiet : p ≠ .reading ∧ p ≠ .writing := by
    constructor <;> (rintro rfl; simp [Phase.isRegistered] at hp)
  obtain ⟨hr, hw', hg⟩ := counts_set (q := .writing) ht
  rw [hp] at hg
  simp only [hquiet.1, hquiet.2, Phase.isRegistered, reduceCtorEq, if_true, if_false,
    Bool.false_eq_true, Nat.add_zero] at hr hw' hg
  have hempty : s.stats.activeReaders + s.stats.activeWriters = 0 := by
    simpa [LockStats.mustWaitToWrite] using hw
  obtain ⟨h₁, h₂, h₃, -⟩ := hi
  refine ⟨?_, ?_, ?_, ?_⟩ <;> simp only [LockStats.enterWrite] <;> omega

/-- The writer dropping its guard leaves nobody inside. -/
theorem leaveWrite (hi : Accounting s) (ht : s.threads[t]? = some .writing) :
    Accounting ⟨s.stats.leaveWrite, s.threads.set t .idle⟩ := by
  obtain ⟨hr, hw, hg⟩ := counts_set (q := .idle) ht
  simp only [Phase.isRegistered, reduceCtorEq, if_true, if_false, Bool.false_eq_true,
    Nat.add_zero] at hr hw hg
  obtain ⟨h₁, h₂, h₃, h₄⟩ := hi
  refine ⟨?_, ?_, ?_, ?_⟩ <;> simp only [LockStats.leaveWrite] <;> omega

/-- Every step keeps the accounting. -/
theorem step {e : Event} {s' : LockMonitor} (hi : Accounting s) (h : Step s e s') :
    Accounting s' := by
  cases h with
  | callRead ht => exact hi.quiet ht (by decide) (by decide) rfl
  | readerParks ht hp _ =>
    rcases hp with rfl | rfl <;> exact hi.quiet ht (by decide) (by decide) rfl
  | readerEnters ht hp hw => exact hi.enterRead ht hp hw
  | readerLeaves ht _ => exact hi.leaveRead ht
  | lastReaderLeaves ht _ hw => exact (hi.leaveRead ht).wakeWriter hw
  | callWrite ht => exact hi.quiet ht (by decide) (by decide) rfl
  | writerRegisters ht _ => exact hi.register ht
  | writerEntersAtOnce ht hw =>
    have hlt := (List.getElem?_eq_some_iff.1 ht).1
    have hboth := (hi.register ht).enterWrite (List.getElem?_set_self hlt) rfl hw
    rwa [List.set_set] at hboth
  | writerParks ht _ => exact hi.quiet ht (by decide) (by decide) rfl
  | writerEnters ht hw => exact hi.enterWrite ht rfl hw
  | writerLeaves ht hw => exact ((hi.leaveWrite ht).wakeWriter hw).wakeReaders
  | readerWakes ht => exact hi.quiet ht (by decide) (by decide) rfl
  | writerWakes ht => exact hi.quiet ht (by decide) (by decide) rfl

/-- A fresh lock: every count is zero and every thread idle. -/
theorem initial (n : Nat) : Accounting (init n) := by
  have hg : (List.replicate n Phase.idle).countP Phase.isRegistered = 0 := by
    simp [List.countP_replicate, Phase.isRegistered]
  refine ⟨?_, ?_, hg.symm, .inl ?_⟩ <;> simp [init, List.count_replicate]

theorem run {n : Nat} {tr : List Event} {s : LockMonitor} (hr : Run (init n) tr s) :
    Accounting s := by
  induction hr with
  | nil => exact initial n
  | snoc _ h ih => exact ih.step h

/-- A thread holding a read guard is counted among the readers inside. -/
theorem reading_pos (hi : Accounting s) (ht : s.threads[t]? = some .reading) :
    0 < s.stats.activeReaders := by
  rw [hi.readers, List.count_pos_iff]
  exact List.mem_of_getElem? ht

/-- A writer counted as waiting is counted among the waiting writers. -/
theorem registered_pos (hi : Accounting s) (ht : s.threads[t]? = some p)
    (hp : p.isRegistered = true) : 0 < s.stats.waitingWriters := by
  rw [hi.waiting, List.countP_pos_iff]
  exact ⟨p, List.mem_of_getElem? ht, hp⟩

/-- With no guard held and nobody inside `write`, all counts are zero. -/
theorem eq_default (hi : Accounting s)
    (hq : ∀ p ∈ s.threads, p ≠ .reading ∧ p ≠ .writing ∧ p.inWrite = false) :
    s.stats = {} := by
  have hr : s.threads.count .reading = 0 := List.count_eq_zero.2 fun hm => (hq _ hm).1 rfl
  have hw : s.threads.count .writing = 0 := List.count_eq_zero.2 fun hm => (hq _ hm).2.1 rfl
  have hg : s.threads.countP Phase.isRegistered = 0 := by
    refine List.countP_eq_zero.2 fun p hm hp => ?_
    have hout := (hq p hm).2.2
    rw [Phase.inWrite_of_isRegistered hp] at hout
    exact Bool.noConfusion hout
  have h₁ := hi.readers.trans hr
  have h₂ := hi.writers.trans hw
  have h₃ := hi.waiting.trans hg
  rcases hs : s.stats with ⟨r, w, g⟩
  rw [hs] at h₁ h₂ h₃
  dsimp only at h₁ h₂ h₃
  subst h₁ h₂ h₃
  rfl

end Accounting

/-- The thread dropping a read guard holds one. -/
theorem Step.readerOut_reading {s s' : LockMonitor} {t : Nat} (h : Step s (.readerOut t) s') :
    s.threads[t]? = some .reading := by
  cases h with
  | readerLeaves ht _ => exact ht
  | lastReaderLeaves ht _ _ => exact ht

/-- A writer enters either right after counting itself as waiting, or after being woken. -/
theorem Step.writerIn_cases {s s' : LockMonitor} {t : Nat} (h : Step s (.writerIn t) s') :
    s.threads[t]? = some .writeEntering ∨ s.threads[t]? = some .writeWoken := by
  cases h with
  | writerEntersAtOnce ht _ => exact .inl ht
  | writerEnters ht _ => exact .inr ht

/-- In every run of the lock, whatever the number of threads and the order of their steps: the
writers inside are the threads holding the write guard, at most one, and none while a read guard
is held; the readers inside are the threads holding a read guard; the waiting writers are the
threads inside `write` that have counted themselves and not yet entered. No count is taken below
zero: a reader dropping its guard finds the readers inside positive, and a writer entering either
counted itself as waiting in the same step or finds the waiting writers positive. When no thread
holds a guard or is inside `write`, the counts are the default ones. -/
theorem lock_accounting {n : Nat} {tr : List Event} {s : LockMonitor} (hr : Run (init n) tr s) :
    s.stats.activeWriters = s.threads.count .writing ∧ s.stats.activeWriters ≤ 1 ∧
    s.stats.activeReaders = s.threads.count .reading ∧
    (0 < s.stats.activeReaders → s.stats.activeWriters = 0) ∧
    s.stats.waitingWriters = s.threads.countP Phase.isRegistered ∧
    (∀ t s', Step s (.readerOut t) s' → 0 < s.stats.activeReaders) ∧
    (∀ t s', Step s (.writerIn t) s' →
      s.threads[t]? = some .writeEntering ∨ 0 < s.stats.waitingWriters) ∧
    ((∀ p ∈ s.threads, p ≠ .reading ∧ p ≠ .writing ∧ p.inWrite = false) → s.stats = {}) := by
  have hi := Accounting.run hr
  have hx := hi.exclusive
  refine ⟨hi.writers, ?_, hi.readers, ?_, hi.waiting, ?_, ?_, hi.eq_default⟩
  · rw [hi.writers]
    omega
  · intro hpos
    rw [hi.readers] at hpos
    rw [hi.writers]
    omega
  · intro t s' h
    exact hi.reading_pos h.readerOut_reading
  · intro t s' h
    rcases h.writerIn_cases with he | hw
    · exact .inl he
    · exact .inr (hi.registered_pos hw rfl)

/-- A reader holds the lock while a writer counts itself as waiting and parks; the reader leaving
wakes the writer, which enters. -/
theorem reader_then_writer_run :
    Run (init 2) [.silent, .readerIn 0, .silent, .writerWaits 1, .readerOut 0, .writerIn 1]
      ⟨⟨0, 1, 0⟩, [.idle, .writing]⟩ := by
  have h1 : Step (init 2) .silent ⟨⟨0, 0, 0⟩, [.readEntering, .idle]⟩ := .callRead (t := 0) rfl
  have h2 : Step ⟨⟨0, 0, 0⟩, [.readEntering, .idle]⟩ (.readerIn 0)
      ⟨⟨1, 0, 0⟩, [.reading, .idle]⟩ := .readerEnters rfl (.inl rfl) rfl
  have h3 : Step ⟨⟨1, 0, 0⟩, [.reading, .idle]⟩ .silent
      ⟨⟨1, 0, 0⟩, [.reading, .writeEntering]⟩ := .callWrite (t := 1) rfl
  have h4 : Step ⟨⟨1, 0, 0⟩, [.reading, .writeEntering]⟩ (.writerWaits 1)
      ⟨⟨1, 0, 1⟩, [.reading, .writeParked]⟩ := .writerRegisters rfl rfl
  have h5 : Step ⟨⟨1, 0, 1⟩, [.reading, .writeParked]⟩ (.readerOut 0)
      ⟨⟨0, 0, 1⟩, [.idle, .writeWoken]⟩ := .lastReaderLeaves rfl rfl (.wake (i := 1) rfl)
  have h6 : Step ⟨⟨0, 0, 1⟩, [.idle, .writeWoken]⟩ (.writerIn 1)
      ⟨⟨0, 1, 0⟩, [.idle, .writing]⟩ := .writerEnters rfl rfl
  exact .snoc (.snoc (.snoc (.snoc (.snoc (.snoc .nil h1) h2) h3) h4) h5) h6

theorem lock_accounting_reader_then_writer :
    Run (init 2) [.silent, .readerIn 0, .silent, .writerWaits 1, .readerOut 0, .writerIn 1]
      ⟨⟨0, 1, 0⟩, [.idle, .writing]⟩ ∧
    1 = [Phase.idle, .writing].count .writing ∧ 1 ≤ 1 ∧
    0 = [Phase.idle, .writing].count .reading ∧ (0 < 0 → 1 = 0) ∧
    0 = [Phase.idle, .writing].countP Phase.isRegistered ∧
    (∀ t s', Step ⟨⟨0, 1, 0⟩, [.idle, .writing]⟩ (.readerOut t) s' → 0 < 0) ∧
    (∀ t s', Step ⟨⟨0, 1, 0⟩, [.idle, .writing]⟩ (.writerIn t) s' →
      [Phase.idle, .writing][t]? = some .writeEntering ∨ 0 < 0) ∧
    ((∀ p ∈ [Phase.idle, .writing], p ≠ .reading ∧ p ≠ .writing ∧ p.inWrite = false) →
      (⟨0, 1, 0⟩ : LockStats) = {}) :=
  ⟨reader_then_writer_run, lock_accounting reader_then_writer_run⟩

end LockMonitor

end PoolServer
