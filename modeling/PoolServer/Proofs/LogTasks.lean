import PoolServer.Journal.Monitor
import PoolServer.Proofs.LockPreference
/-!
# The log's threads in the lock

Each thread's task on the log agrees with where it stands in the lock (`TaskInv`): a thread
outside a call is outside the lock, a thread waiting for its guard stands in the waiting phases of
its kind of call, and a thread inside its call, or done with its work, holds exactly the guard its
call needs. The lock's own steps along a run of the log form a run of the lock (`lock_run`), so the
lock's counts are exact here too, and with `TaskInv` they give the exclusion the log relies on: at
most one thread is inside an `append`, and none while a thread holds a read guard.

Main statements: `lock_run`, `TaskInv.run`, `TaskInv.appender_unique`, `TaskInv.no_appender`.
-/
namespace PoolServer

namespace LockMonitor

section Frame

variable {l l' : LockMonitor} {e : Event} {ts ts' : List Phase} {t u : Nat} {p : Phase}

theorem WakeWriter.length_eq (h : WakeWriter ts ts') : ts'.length = ts.length := by
  cases h with
  | wake _ => exact List.length_set
  | none _ => rfl

/-- No step adds or removes a thread. -/
theorem Step.length_eq (h : Step l e l') : l'.threads.length = l.threads.length := by
  cases h with
  | lastReaderLeaves _ _ hw => rw [hw.length_eq, List.length_set]
  | writerLeaves _ hw => rw [wakeReaders, List.length_map, hw.length_eq, List.length_set]
  | _ => exact List.length_set

theorem Phase.wakeReader_cases (p : Phase) :
    p.wakeReader = p ∨ (p = .readParked ∧ p.wakeReader = .readWoken) := by
  cases p <;> simp [Phase.wakeReader]

/-- Where a thread that did not move stands after a step: where it was, or woken. -/
def Woke (p : Phase) (o : Option Phase) : Prop :=
  o = some p ∨ (p = .writeParked ∧ o = some .writeWoken) ∨ (p = .readParked ∧ o = some .readWoken)

/-- Dropping a guard moves its holder out of the lock and wakes at most parked threads. -/
theorem Step.release_frame (h : Step l e l') (he : e = .readerOut t ∨ e = .writerOut t) :
    l'.threads[t]? = some .idle ∧
      ∀ u p, u ≠ t → l.threads[u]? = some p → Woke p l'.threads[u]? := by
  have hset : ∀ {q : Phase} {p : Phase}, t < l.threads.length → ∀ u, u ≠ t →
      l.threads[u]? = some p → (l.threads.set t q)[u]? = some p := by
    intro q p _ u hut hu
    rw [List.getElem?_set_ne (Ne.symm hut), hu]
  cases h with
  | @readerLeaves t₀ ht _ =>
    obtain rfl : t₀ = t := by rcases he with h | h <;> cases h; rfl
    have hlt := (List.getElem?_eq_some_iff.1 ht).1
    exact ⟨List.getElem?_set_self hlt, fun u p hut hu => .inl (hset hlt u hut hu)⟩
  | @lastReaderLeaves t₀ _ ht _ hw =>
    obtain rfl : t₀ = t := by rcases he with h | h <;> cases h; rfl
    have hlt := (List.getElem?_eq_some_iff.1 ht).1
    refine ⟨?_, fun u p hut hu => ?_⟩
    · rcases hw.getElem?_cases (List.getElem?_set_self hlt) with h' | ⟨h', -⟩
      · exact h'
      · cases h'
    · rcases hw.getElem?_cases (hset hlt u hut hu) with h' | ⟨hp, h'⟩
      · exact .inl h'
      · exact .inr (.inl ⟨hp, h'⟩)
  | @writerLeaves t₀ _ ht hw =>
    obtain rfl : t₀ = t := by rcases he with h | h <;> cases h; rfl
    have hlt := (List.getElem?_eq_some_iff.1 ht).1
    refine ⟨hw.getElem?_stable (List.getElem?_set_self hlt) (by decide) (by decide), ?_⟩
    intro u p hut hu
    show (wakeReaders _)[u]? = _ ∨ _
    rw [getElem?_wakeReaders]
    rcases hw.getElem?_cases (hset hlt u hut hu) with h' | ⟨hp, h'⟩
    · rw [h']
      rcases Phase.wakeReader_cases p with hq | ⟨hp', hq⟩
      · exact .inl (by simp [hq])
      · exact .inr (.inr ⟨hp', by simp [hq]⟩)
    · rw [h']
      exact .inr (.inl ⟨hp, rfl⟩)
  | _ => rcases he with h | h <;> cases h

end Frame

section Exclusion

variable {l : LockMonitor} {t u : Nat}

/-- At most one thread holds the write guard. -/
theorem Accounting.writing_unique (ha : Accounting l) (ht : l.threads[t]? = some .writing)
    (hu : l.threads[u]? = some .writing) : t = u := by
  refine Classical.byContradiction fun htu => ?_
  have hcount := (count_set_add (q := .idle) .writing ht).symm
  have hrest : 0 < (l.threads.set t .idle).count .writing := by
    refine List.count_pos_iff.2 (List.mem_of_getElem? (i := u) ?_)
    rw [List.getElem?_set_ne htu, hu]
  simp only [if_true, reduceCtorEq, if_false, Nat.add_zero] at hcount
  rcases ha.exclusive with h | ⟨h, -⟩ <;> omega

/-- Nobody holds a read guard while a thread holds the write guard. -/
theorem Accounting.not_reading (ha : Accounting l) (ht : l.threads[t]? = some .reading)
    (hu : l.threads[u]? = some .writing) : False := by
  have hr : 0 < l.threads.count .reading := List.count_pos_iff.2 (List.mem_of_getElem? ht)
  have hw : 0 < l.threads.count .writing := List.count_pos_iff.2 (List.mem_of_getElem? hu)
  rcases ha.exclusive with h | ⟨-, h⟩ <;> omega

end Exclusion

end LockMonitor

namespace LogMonitor

open LockMonitor (Phase)

/-! ### The lock inside the log -/

/-- The events a step of the log shows to the lock. -/
def Event.lockEvents : Event → List LockMonitor.Event
  | .lock e => [e]
  | .called _ _ => [.silent]
  | .entered t c => [c.admission t]
  | .replied t c _ => [c.release t]
  | .worked _ _ => []
  | .refused _ _ _ => []

/-- Starting a call is the lock's `read` or `write` being called. -/
theorem Call.entry_step {l : LockMonitor} {t : Nat} (c : Call) (hl : l.threads[t]? = some .idle) :
    LockMonitor.Step l .silent { l with threads := l.threads.set t c.entry } := by
  cases hc : c.writes
  · rw [Call.entry, hc]
    exact .callRead hl
  · rw [Call.entry, hc]
    exact .callWrite hl

/-- Every step of the log is a run of the lock through the events it shows to the lock. -/
theorem Step.lock_steps {s s' : LogMonitor} {e : Event} (h : Step s e s') :
    Steps LockMonitor.Step s.lock e.lockEvents s'.lock := by
  cases h with
  | refuse _ _ => exact .nil
  | call _ hl _ => exact .single (Call.entry_step _ hl)
  | lock h _ _ => exact .single h
  | enter _ h => exact .single h
  | work _ => exact .nil
  | leave _ h => exact .single h

/-- The lock's steps along a run of the log are a run of the lock. -/
theorem lock_run {n : Nat} {tr : List Event} {s : LogMonitor} (hr : Steps Step (init n) tr s) :
    LockMonitor.Run (LockMonitor.init n) (tr.flatMap Event.lockEvents) s.lock :=
  LockMonitor.Run.of_steps (Steps.map LogMonitor.lock Event.lockEvents Step.lock_steps hr)

/-! ### What each kind of call does to a thread in the lock -/

namespace Call

variable (c : Call)

theorem guard_cases : c.guard = .writing ∨ c.guard = .reading := by
  cases c.writes <;> simp [guard, *]

theorem waiting_entry : c.waiting c.entry = true := by
  cases hc : c.writes <;> simp [entry, waiting, hc]

end Call

section Moves

variable {l l' : LockMonitor} {e : LockMonitor.Event} {t u v : Nat} {c : Call} {p pv q : Phase}

/-- A thread waiting in the lock moves to another phase that every call waits in exactly when it
waited in the old one. -/
structure Sidestep (p q : Phase) : Prop where
  not_idle : p ≠ .idle
  not_reading : p ≠ .reading
  not_writing : p ≠ .writing
  side : ∀ c : Call, c.waiting q = c.waiting p

theorem sidestep_or_stay (hv : l.threads[v]? = some pv) (hpq : Sidestep pv q)
    (hu : l.threads[u]? = some p) :
    (l.threads.set v q)[u]? = some p ∨ ∃ q', (l.threads.set v q)[u]? = some q' ∧ Sidestep p q' := by
  by_cases hvu : v = u
  · subst hvu
    obtain rfl : pv = p := Option.some.inj (hv.symm.trans hu)
    exact .inr ⟨q, List.getElem?_set_self (List.getElem?_eq_some_iff.1 hv).1, hpq⟩
  · exact .inl (by rw [List.getElem?_set_ne hvu, hu])

/-- The lock's own steps inside calls only move a waiting thread to another waiting phase of the
same kind of call. -/
theorem quiet_frame (h : LockMonitor.Step l e l') (he : e = .silent ∨ ∃ w, e = .writerWaits w)
    (hin : ∀ w : Nat, l.threads[w]? = some .idle → l'.threads[w]? = some .idle)
    (hu : l.threads[u]? = some p) :
    l'.threads[u]? = some p ∨ ∃ q, l'.threads[u]? = some q ∧ Sidestep p q := by
  have hstart : ∀ {w : Nat} {q : Phase}, l.threads[w]? = some .idle → q ≠ .idle →
      (l.threads.set w q)[w]? ≠ some .idle := by
    intro w q hw hq hset
    rw [List.getElem?_set_self (List.getElem?_eq_some_iff.1 hw).1] at hset
    exact hq (Option.some.inj hset)
  cases h with
  | callRead hv => exact absurd (hin _ hv) (hstart hv (by decide))
  | callWrite hv => exact absurd (hin _ hv) (hstart hv (by decide))
  | readerParks hv hpv _ =>
    refine sidestep_or_stay hv ?_ hu
    rcases hpv with rfl | rfl <;> exact ⟨by decide, by decide, by decide, fun _ => rfl⟩
  | writerRegisters hv _ => exact sidestep_or_stay hv ⟨by decide, by decide, by decide, fun _ => rfl⟩ hu
  | writerParks hv _ => exact sidestep_or_stay hv ⟨by decide, by decide, by decide, fun _ => rfl⟩ hu
  | readerWakes hv => exact sidestep_or_stay hv ⟨by decide, by decide, by decide, fun _ => rfl⟩ hu
  | writerWakes hv => exact sidestep_or_stay hv ⟨by decide, by decide, by decide, fun _ => rfl⟩ hu
  | _ => rcases he with h | ⟨_, h⟩ <;> cases h

/-- Admission moves the thread, and only it, to the guard its call needs. -/
theorem admission_threads (h : LockMonitor.Step l (c.admission t) l') :
    l'.threads = l.threads.set t c.guard := by
  cases hc : c.writes
  · simp only [Call.admission, hc, Bool.false_eq_true, if_false] at h
    cases h with
    | readerEnters _ _ _ => simp [Call.guard, hc]
  · simp only [Call.admission, hc, if_true] at h
    cases h with
    | writerEntersAtOnce _ _ => simp [Call.guard, hc]
    | writerEnters _ _ => simp [Call.guard, hc]

theorem release_cases (c : Call) (t : Nat) :
    c.release t = .readerOut t ∨ c.release t = .writerOut t := by
  cases c.writes <;> simp [Call.release, *]

end Moves

/-! ### Tasks agree with the lock -/

/-- Where a thread's task allows it to stand in the lock. A thread in a call made it past the
refusal of an empty record. -/
def Task.fits : Task → Phase → Prop
  | .idle, p => p = .idle
  | .calling c, p => c.refusal = none ∧ c.waiting p = true
  | .inside c, p => c.refusal = none ∧ p = c.guard
  | .done c _, p => c.refusal = none ∧ p = c.guard

theorem Task.fits_sidestep {k : Task} {p q : Phase} (hk : k.fits p) (hpq : Sidestep p q) :
    k.fits q := by
  obtain ⟨hidle, hr, hw, hside⟩ := hpq
  cases k with
  | idle => exact absurd hk hidle
  | calling c => exact ⟨hk.1, by rw [hside c]; exact hk.2⟩
  | inside c => rcases c.guard_cases with h | h <;> simp_all [Task.fits]
  | done c _ => rcases c.guard_cases with h | h <;> simp_all [Task.fits]

/-- A thread woken from a parked phase still fits its task. -/
theorem Task.fits_woke {k : Task} {p : Phase} {o : Option Phase} (hk : k.fits p)
    (ho : LockMonitor.Woke p o) : ∃ q, o = some q ∧ k.fits q := by
  rcases ho with ho | ⟨rfl, ho⟩ | ⟨rfl, ho⟩
  · exact ⟨p, ho, hk⟩
  · exact ⟨_, ho, Task.fits_sidestep hk ⟨by decide, by decide, by decide, fun _ => rfl⟩⟩
  · exact ⟨_, ho, Task.fits_sidestep hk ⟨by decide, by decide, by decide, fun _ => rfl⟩⟩

/-- Every thread's task fits where it stands in the lock. -/
structure TaskInv (s : LogMonitor) : Prop where
  length : s.tasks.length = s.lock.threads.length
  fits : ∀ (t : Nat) (k : Task) (p : Phase), s.tasks[t]? = some k → s.lock.threads[t]? = some p →
    k.fits p

namespace TaskInv

variable {s : LogMonitor} {t : Nat} {k : Task}

theorem phase (hi : TaskInv s) (ht : s.tasks[t]? = some k) :
    ∃ p, s.lock.threads[t]? = some p ∧ k.fits p := by
  have hlt : t < s.lock.threads.length := hi.length ▸ (List.getElem?_eq_some_iff.1 ht).1
  exact ⟨_, List.getElem?_eq_getElem hlt, hi.fits t k _ ht (List.getElem?_eq_getElem hlt)⟩

/-- Moving one thread in both the tasks and the lock keeps the invariant when it fits. -/
theorem set {s' : LogMonitor} {k₁ : Task} {q : Phase} (hi : TaskInv s)
    (ht : s.tasks[t]? = some k) (hl : s'.lock.threads = s.lock.threads.set t q)
    (hk : s'.tasks = s.tasks.set t k₁) (hfit : k₁.fits q) : TaskInv s' := by
  refine ⟨by simp [hl, hk, hi.length], fun v k₀ p₀ hv hp => ?_⟩
  rw [hk] at hv
  rw [hl] at hp
  by_cases htv : t = v
  · subst htv
    have hlt := (List.getElem?_eq_some_iff.1 ht).1
    rw [List.getElem?_set_self hlt] at hv
    rw [List.getElem?_set_self (hi.length ▸ hlt)] at hp
    cases hv
    cases hp
    exact hfit
  · rw [List.getElem?_set_ne htv] at hv hp
    exact hi.fits v k₀ p₀ hv hp

theorem step {s' : LogMonitor} {e : Event} (hi : TaskInv s) (h : Step s e s') : TaskInv s' := by
  cases h with
  | refuse _ _ => exact hi
  | @call _ c ht _ hc => exact hi.set ht rfl rfl ⟨hc, c.waiting_entry⟩
  | lock h he hin =>
    refine ⟨by rw [h.length_eq]; exact hi.length, fun v k₀ q hv hq => ?_⟩
    obtain ⟨p, hp, hk⟩ := hi.phase hv
    rcases quiet_frame h he hin hp with h' | ⟨q', h', hside⟩
    · rw [hq] at h'
      cases h'
      exact hk
    · rw [hq] at h'
      cases h'
      exact Task.fits_sidestep hk hside
  | enter ht h =>
    obtain ⟨p, -, hk⟩ := hi.phase ht
    exact hi.set ht (admission_threads h) rfl ⟨hk.1, rfl⟩
  | work ht =>
    obtain ⟨p, hp, hk⟩ := hi.phase ht
    obtain ⟨hlt, rfl⟩ := List.getElem?_eq_some_iff.1 hp
    exact hi.set ht (List.set_getElem_self hlt).symm rfl hk
  | @leave t c r l ht h =>
    obtain ⟨hout, hwoke⟩ := h.release_frame (release_cases c t)
    refine ⟨by rw [List.length_set, h.length_eq]; exact hi.length, fun v k₀ q hv hq => ?_⟩
    by_cases htv : t = v
    · subst htv
      rw [List.getElem?_set_self (List.getElem?_eq_some_iff.1 ht).1] at hv
      cases hv
      rw [hout] at hq
      cases hq
      rfl
    · rw [List.getElem?_set_ne htv] at hv
      obtain ⟨p, hp, hk⟩ := hi.phase hv
      obtain ⟨q', hq', hk'⟩ := Task.fits_woke hk (hwoke v p (Ne.symm htv) hp)
      rw [hq] at hq'
      cases hq'
      exact hk'

theorem initial (n : Nat) : TaskInv (init n) := by
  refine ⟨by simp [init, LockMonitor.init], fun t k p hk hp => ?_⟩
  obtain rfl : k = .idle := List.eq_of_mem_replicate (List.mem_of_getElem? hk)
  obtain rfl : p = .idle := List.eq_of_mem_replicate (List.mem_of_getElem? hp)
  rfl

theorem run {n : Nat} {tr : List Event} (hr : Steps Step (init n) tr s) : TaskInv s := by
  induction hr with
  | nil => exact initial n
  | snoc _ h ih => exact ih.step h

/-! ### Exclusion on the log -/

/-- A thread inside an `append` holds the write guard. -/
theorem appender_writing {d : Bytes} (hi : TaskInv s) (ht : s.tasks[t]? = some (.inside (.append d))) :
    s.lock.threads[t]? = some .writing := by
  obtain ⟨p, hp, -, rfl⟩ := hi.phase ht
  exact hp

/-- A thread inside or done in a call that reads holds a read guard. -/
theorem reader_reading {c : Call} (hi : TaskInv s) (hc : c.writes = false)
    (ht : s.tasks[t]? = some (.inside c) ∨ ∃ r, s.tasks[t]? = some (.done c r)) :
    s.lock.threads[t]? = some .reading := by
  have hguard : c.guard = .reading := by simp [Call.guard, hc]
  rcases ht with ht | ⟨r, ht⟩
  · obtain ⟨p, hp, -, rfl⟩ := hi.phase ht
    rwa [hguard] at hp
  · obtain ⟨p, hp, -, rfl⟩ := hi.phase ht
    rwa [hguard] at hp

/-- At most one thread is inside an `append`. -/
theorem appender_unique {u : Nat} {d d' : Bytes} (hi : TaskInv s)
    (ha : LockMonitor.Accounting s.lock) (ht : s.tasks[t]? = some (.inside (.append d)))
    (hu : s.tasks[u]? = some (.inside (.append d'))) : t = u :=
  ha.writing_unique (hi.appender_writing ht) (hi.appender_writing hu)

/-- No thread is inside an `append` while a thread reads. -/
theorem no_appender {u : Nat} {c : Call} {d : Bytes} (hi : TaskInv s)
    (ha : LockMonitor.Accounting s.lock) (hc : c.writes = false)
    (ht : s.tasks[t]? = some (.inside c) ∨ ∃ r, s.tasks[t]? = some (.done c r)) :
    s.tasks[u]? ≠ some (.inside (.append d)) := fun hu =>
  ha.not_reading (hi.reader_reading hc ht) (hi.appender_writing hu)

end TaskInv

end LogMonitor

end PoolServer
