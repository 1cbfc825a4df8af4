import PoolServer.Proofs.LockAccounting
/-!
# No lost wake-up on the lock

A thread parked on the lock is never left there while the lock is open to it and nobody is about
to notice. A reader parks only while a writer is inside or waiting, and the only step that can end
that, the writer leaving, wakes every reader. A parked writer can be stranded only when the lock
empties, and whoever empties it, the last reader or the writer, wakes one parked writer; that
writer then holds the wake-up until it takes the mutex and checks again, and no reader can slip in
before, since the woken writer still counts as waiting.

`WakeInv` states both halves for one state. A thread moving without touching the counts keeps it
(`WakeInv.move`), and each critical section keeps it by what it does to the counts.

Main statement: `no_lost_lock_wakeup`.
-/
namespace PoolServer

namespace LockMonitor

section Membership

variable {ts ts' : List Phase} {t : Nat} {p q x : Phase}

/-- What some other thread holds survives one thread moving. -/
theorem mem_set_of_mem {α : Type} {ts : List α} {p q x : α} (hx : x ∈ ts) (ht : ts[t]? = some p)
    (hp : p ≠ x) : x ∈ ts.set t q := by
  obtain ⟨i, hi⟩ := List.mem_iff_getElem?.1 hx
  have hit : t ≠ i := by
    rintro rfl
    exact hp (Option.some.inj (ht.symm.trans hi))
  exact List.mem_iff_getElem?.2 ⟨i, by rw [List.getElem?_set_ne hit]; exact hi⟩

/-- Waking a writer creates no phase but a woken writer. -/
theorem WakeWriter.mem_of_mem (h : WakeWriter ts ts') (hx : x ∈ ts') (hw : x ≠ .writeWoken) :
    x ∈ ts := by
  cases h with
  | wake _ => exact (List.mem_or_eq_of_mem_set hx).resolve_right hw
  | none _ => exact hx

/-- After waking a writer, some writer is woken, or none was parked to be woken. -/
theorem WakeWriter.woken_or (h : WakeWriter ts ts') :
    Phase.writeWoken ∈ ts' ∨ Phase.writeParked ∉ ts' := by
  cases h with
  | wake hi => exact .inl (List.mem_set (List.getElem?_eq_some_iff.1 hi).1 _)
  | none h => exact .inr h

@[simp] theorem Phase.wakeReader_ne_readParked (p : Phase) : p.wakeReader ≠ .readParked := by
  cases p <;> simp [Phase.wakeReader]

@[simp] theorem Phase.wakeReader_eq_writeParked (p : Phase) :
    p.wakeReader = .writeParked ↔ p = .writeParked := by
  cases p <;> simp [Phase.wakeReader]

theorem readParked_not_mem_wakeReaders (ts : List Phase) : Phase.readParked ∉ wakeReaders ts := by
  simp [wakeReaders]

theorem writeParked_mem_wakeReaders : Phase.writeParked ∈ wakeReaders ts ↔ .writeParked ∈ ts := by
  simp [wakeReaders]

theorem writeWoken_mem_wakeReaders (h : Phase.writeWoken ∈ ts) :
    Phase.writeWoken ∈ wakeReaders ts :=
  List.mem_map.2 ⟨_, h, rfl⟩

end Membership

/-- Nobody is stranded: a parked reader means readers must wait, and a parked writer on an empty
lock means some writer was woken and has not checked since. -/
structure WakeInv (s : LockMonitor) : Prop where
  readers : Phase.readParked ∈ s.threads → s.stats.mustWaitToRead = true
  writers : Phase.writeParked ∈ s.threads → s.stats.mustWaitToWrite = false →
    Phase.writeWoken ∈ s.threads

namespace WakeInv

variable {s : LockMonitor} {t : Nat} {p q : Phase}

/-- A thread moving without touching the counts keeps the invariant, as long as it parks only
when it must wait and stops being a woken writer only to park as one or when writers must wait. -/
theorem move (hi : WakeInv s) (ht : s.threads[t]? = some p)
    (hr : q = .readParked → s.stats.mustWaitToRead = true)
    (hw : q = .writeParked → s.stats.mustWaitToWrite = true)
    (hp : p = .writeWoken → q = .writeWoken ∨ s.stats.mustWaitToWrite = true) :
    WakeInv { s with threads := s.threads.set t q } := by
  constructor
  · intro hmem
    rcases List.mem_or_eq_of_mem_set hmem with hold | hnew
    · exact hi.readers hold
    · exact hr hnew.symm
  · intro hmem hfree
    have hfree' : s.stats.mustWaitToWrite = false := hfree
    rcases List.mem_or_eq_of_mem_set hmem with hold | hnew
    · by_cases hq : q = .writeWoken
      · subst hq
        exact List.mem_set (List.getElem?_eq_some_iff.1 ht).1 _
      · have hpw : p ≠ .writeWoken := by
          rintro rfl
          rcases hp rfl with h | h
          · exact hq h
          · simp [hfree'] at h
        exact mem_set_of_mem (hi.writers hold hfree') ht hpw
    · simp [hw hnew.symm] at hfree'

/-- A reader counting itself in found no reader parked, and leaves writers waiting. -/
theorem enterRead (hi : WakeInv s) (hw : s.stats.mustWaitToRead = false) :
    WakeInv ⟨s.stats.enterRead, s.threads.set t .reading⟩ := by
  constructor
  · intro hmem
    have hold : Phase.readParked ∈ s.threads :=
      (List.mem_or_eq_of_mem_set hmem).resolve_right (by decide)
    simp [hi.readers hold] at hw
  · intro _ hfree
    simp at hfree

/-- A reader leaving while others stay keeps writers waiting. -/
theorem leaveRead (hi : WakeInv s) (hr : s.stats.leaveRead.activeReaders ≠ 0) :
    WakeInv ⟨s.stats.leaveRead, s.threads.set t .idle⟩ := by
  constructor
  · intro hmem
    have hold : Phase.readParked ∈ s.threads :=
      (List.mem_or_eq_of_mem_set hmem).resolve_right (by decide)
    simpa using hi.readers hold
  · intro _ hfree
    exact absurd (LockStats.mustWaitToWrite_eq_false.1 hfree).1 hr

/-- The last reader leaving wakes a writer if one is parked. -/
theorem lastReaderLeaves {ts : List Phase} (hi : WakeInv s)
    (hw : WakeWriter (s.threads.set t .idle) ts) : WakeInv ⟨s.stats.leaveRead, ts⟩ := by
  constructor
  · intro hmem
    have hset := hw.mem_of_mem hmem (by decide)
    have hold : Phase.readParked ∈ s.threads :=
      (List.mem_or_eq_of_mem_set hset).resolve_right (by decide)
    simpa using hi.readers hold
  · intro hmem _
    exact hw.woken_or.resolve_right (fun hn => hn hmem)

/-- A writer counting itself as waiting keeps readers out, and parks only if it must. -/
theorem register (hw : s.stats.register.mustWaitToWrite = true) :
    WakeInv ⟨s.stats.register, s.threads.set t .writeParked⟩ := by
  constructor
  · intro _
    simp
  · intro _ hfree
    rw [hw] at hfree
    exact absurd hfree (by decide)

/-- A writer inside keeps everyone waiting. -/
theorem enterWrite {u : LockStats} {ts : List Phase} (hu : u.activeWriters = 1) :
    WakeInv ⟨u, ts⟩ := by
  constructor
  · intro _
    simp [LockStats.mustWaitToRead, hu]
  · intro _ hfree
    have hnone : u.activeWriters = 0 := (LockStats.mustWaitToWrite_eq_false.1 hfree).2
    omega

/-- The writer leaving wakes every reader and a writer if one is parked. -/
theorem leaveWrite {ts : List Phase} (hw : WakeWriter (s.threads.set t .idle) ts) :
    WakeInv ⟨s.stats.leaveWrite, wakeReaders ts⟩ := by
  constructor
  · intro hmem
    exact absurd hmem (readParked_not_mem_wakeReaders ts)
  · intro hmem _
    have hparked := writeParked_mem_wakeReaders.1 hmem
    exact writeWoken_mem_wakeReaders (hw.woken_or.resolve_right (fun hn => hn hparked))

theorem step {e : Event} {s' : LockMonitor} (hi : WakeInv s) (h : Step s e s') : WakeInv s' := by
  cases h with
  | callRead ht => exact hi.move ht (by simp) (by simp) (by simp)
  | readerParks ht hp hw =>
    refine hi.move ht (fun _ => hw) (by simp) ?_
    rintro rfl
    simp at hp
  | readerEnters _ _ hw => exact hi.enterRead hw
  | readerLeaves _ hr => exact hi.leaveRead hr
  | lastReaderLeaves _ _ hw => exact hi.lastReaderLeaves hw
  | callWrite ht => exact hi.move ht (by simp) (by simp) (by simp)
  | writerRegisters _ hw => exact register hw
  | writerEntersAtOnce _ _ => exact enterWrite rfl
  | writerParks ht hw => exact hi.move ht (by simp) (fun _ => hw) (fun _ => .inr hw)
  | writerEnters _ _ => exact enterWrite rfl
  | writerLeaves _ hw => exact leaveWrite hw
  | readerWakes ht => exact hi.move ht (by simp) (by simp) (by simp)
  | writerWakes ht => exact hi.move ht (by simp) (by simp) (by simp)

theorem initial (n : Nat) : WakeInv (init n) := by
  constructor <;> simp [init, List.mem_replicate]

theorem run {n : Nat} {tr : List Event} {s : LockMonitor} (hr : Run (init n) tr s) :
    WakeInv s := by
  induction hr with
  | nil => exact initial n
  | snoc _ h ih => exact ih.step h

end WakeInv

/-- In every run of the lock, whatever the threads do and however they are woken: a reader parked
on `readAllowed` waits behind a writer that is inside or waiting; and a writer parked on
`writeAllowed` while nobody is inside is never alone, for some writer has been woken and has not
yet taken the mutex to check again. -/
theorem no_lost_lock_wakeup {n : Nat} {tr : List Event} {s : LockMonitor}
    (hr : Run (init n) tr s) :
    (Phase.readParked ∈ s.threads → 0 < s.stats.waitingWriters ∨ 0 < s.stats.activeWriters) ∧
    (Phase.writeParked ∈ s.threads → s.stats.activeReaders = 0 → s.stats.activeWriters = 0 →
      Phase.writeWoken ∈ s.threads) := by
  have hi := WakeInv.run hr
  refine ⟨fun hmem => ?_, fun hmem hr₀ hw₀ => ?_⟩
  · have hwait := hi.readers hmem
    simpa [LockStats.mustWaitToRead] using hwait
  · exact hi.writers hmem (LockStats.mustWaitToWrite_eq_false.2 ⟨hr₀, hw₀⟩)

/-- A reader holds the lock when a writer counts itself as waiting and parks; a second reader
finds the writer waiting and parks behind it; the first reader leaving wakes the writer. -/
theorem reader_parks_behind_writer_run :
    Run (init 3) [.silent, .readerIn 0, .silent, .writerWaits 1, .silent, .silent, .readerOut 0]
      ⟨⟨0, 0, 1⟩, [.idle, .writeWoken, .readParked]⟩ := by
  have h1 : Step (init 3) .silent ⟨⟨0, 0, 0⟩, [.readEntering, .idle, .idle]⟩ :=
    .callRead (t := 0) rfl
  have h2 : Step ⟨⟨0, 0, 0⟩, [.readEntering, .idle, .idle]⟩ (.readerIn 0)
      ⟨⟨1, 0, 0⟩, [.reading, .idle, .idle]⟩ := .readerEnters rfl (.inl rfl) rfl
  have h3 : Step ⟨⟨1, 0, 0⟩, [.reading, .idle, .idle]⟩ .silent
      ⟨⟨1, 0, 0⟩, [.reading, .writeEntering, .idle]⟩ := .callWrite (t := 1) rfl
  have h4 : Step ⟨⟨1, 0, 0⟩, [.reading, .writeEntering, .idle]⟩ (.writerWaits 1)
      ⟨⟨1, 0, 1⟩, [.reading, .writeParked, .idle]⟩ := .writerRegisters rfl rfl
  have h5 : Step ⟨⟨1, 0, 1⟩, [.reading, .writeParked, .idle]⟩ .silent
      ⟨⟨1, 0, 1⟩, [.reading, .writeParked, .readEntering]⟩ := .callRead (t := 2) rfl
  have h6 : Step ⟨⟨1, 0, 1⟩, [.reading, .writeParked, .readEntering]⟩ .silent
      ⟨⟨1, 0, 1⟩, [.reading, .writeParked, .readParked]⟩ := .readerParks (t := 2) rfl (.inl rfl) rfl
  have h7 : Step ⟨⟨1, 0, 1⟩, [.reading, .writeParked, .readParked]⟩ (.readerOut 0)
      ⟨⟨0, 0, 1⟩, [.idle, .writeWoken, .readParked]⟩ :=
    .lastReaderLeaves rfl rfl (.wake (i := 1) rfl)
  exact .snoc (.snoc (.snoc (.snoc (.snoc (.snoc (.snoc .nil h1) h2) h3) h4) h5) h6) h7

theorem no_lost_lock_wakeup_reader_behind_writer :
    Run (init 3) [.silent, .readerIn 0, .silent, .writerWaits 1, .silent, .silent, .readerOut 0]
      ⟨⟨0, 0, 1⟩, [.idle, .writeWoken, .readParked]⟩ ∧
    (Phase.readParked ∈ [Phase.idle, .writeWoken, .readParked] → 0 < 1 ∨ 0 < 0) ∧
    (Phase.writeParked ∈ [Phase.idle, .writeWoken, .readParked] → 0 = 0 → 0 = 0 →
      Phase.writeWoken ∈ [Phase.idle, .writeWoken, .readParked]) :=
  ⟨reader_parks_behind_writer_run, no_lost_lock_wakeup reader_parks_behind_writer_run⟩

end LockMonitor

end PoolServer
