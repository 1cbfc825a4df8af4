import PoolServer.Proofs.LockWakeups
import PoolServer.Steps
/-!
# Writers go first

A writer that has counted itself as waiting keeps every new reader out until it has been inside
and left. So whenever a reader is admitted, every writer that counted itself as waiting earlier in
the run has already entered and dropped its guard: a reader that calls `read` while a writer is
waiting gets in only after that writer's critical section, even when only readers held the lock
at the time of the call.

A reader is admitted only when no writer is inside or waiting, so by the counts (`Accounting`) no
thread is then inside `write` past its registration, and none holds the write guard. What is left
is a fact about each writer's history, `PreferenceInv`: from its registration on, a writer stays
counted as waiting until it enters, which is an admission event of the trace, and it holds the
guard from then until it leaves, which is a release event. Two frame lemmas say how one thread's
phase can change across a step (`Step.registered`, `Step.writing`).

Main statement: `writer_preference`.
-/
namespace PoolServer

namespace LockMonitor

/-- The runs of the monitor are the runs of its step relation. -/
theorem Run.steps {s s' : LockMonitor} {tr : List Event} (h : Run s tr s') :
    Steps Step s tr s' := by
  induction h with
  | nil => exact .nil
  | snoc _ hs ih => exact .snoc ih hs

theorem Run.of_steps {s s' : LockMonitor} {tr : List Event} (h : Steps Step s tr s') :
    Run s tr s' := by
  induction h with
  | nil => exact .nil
  | snoc _ hs ih => exact .snoc ih hs

section Frame

variable {ts ts' : List Phase} {t u : Nat} {p pu q : Phase}

/-- Another thread moving leaves this one where it was. -/
theorem getElem?_set_of_ne (hu : ts[u]? = some pu) (ht : ts[t]? = some p) (hne : pu ≠ p) :
    (ts.set u q)[t]? = some p := by
  have hut : u ≠ t := by
    rintro rfl
    exact hne (Option.some.inj (hu.symm.trans ht))
  rw [List.getElem?_set_ne hut, ht]

/-- Waking a writer moves at most a parked writer, and only to woken. -/
theorem WakeWriter.getElem?_cases (h : WakeWriter ts ts') (ht : ts[t]? = some p) :
    ts'[t]? = some p ∨ (p = .writeParked ∧ ts'[t]? = some .writeWoken) := by
  cases h with
  | @wake i hi =>
    by_cases hit : i = t
    · subst hit
      have hp : p = .writeParked := Option.some.inj (ht.symm.trans hi)
      exact .inr ⟨hp, List.getElem?_set_self (List.getElem?_eq_some_iff.1 ht).1⟩
    · exact .inl (by rw [List.getElem?_set_ne hit, ht])
  | none _ => exact .inl ht

theorem getElem?_wakeReaders (ts : List Phase) (t : Nat) :
    (wakeReaders ts)[t]? = ts[t]?.map Phase.wakeReader := by
  simp [wakeReaders]

/-- A phase that is not a parked writer, nor a parked reader, survives every wake-up. -/
theorem WakeWriter.getElem?_stable (h : WakeWriter ts ts') (ht : ts[t]? = some p)
    (hw : p ≠ .writeParked) (hr : p ≠ .readParked) : (wakeReaders ts')[t]? = some p := by
  rcases h.getElem?_cases ht with ht' | ⟨hp, -⟩
  · rw [getElem?_wakeReaders, ht']
    cases p <;> simp_all [Phase.wakeReader]
  · exact absurd hp hw

theorem Phase.ne_of_isRegistered (hp : p.isRegistered = true) (hq : q.isRegistered = false) :
    q ≠ p := by
  rintro rfl
  exact Bool.noConfusion (hp.symm.trans hq)

end Frame

variable {s s' : LockMonitor} {e : Event} {t : Nat} {p : Phase}

/-- A writer counted as waiting stays so, except by entering. -/
theorem Step.registered (h : Step s e s') (ht : s.threads[t]? = some p)
    (hp : p.isRegistered = true) :
    (∃ q, s'.threads[t]? = some q ∧ q.isRegistered = true) ∨
      (e = .writerIn t ∧ s'.threads[t]? = some .writing) := by
  have other : ∀ {pu : Phase} {u : Nat} {q : Phase}, s.threads[u]? = some pu →
      pu.isRegistered = false → (s.threads.set u q)[t]? = some p := fun hu hpu =>
    getElem?_set_of_ne hu ht (Phase.ne_of_isRegistered hp hpu)
  cases h with
  | callRead hu => exact .inl ⟨p, other hu rfl, hp⟩
  | readerParks hu hpu _ =>
    exact .inl ⟨p, other hu (by rcases hpu with rfl | rfl <;> rfl), hp⟩
  | readerEnters hu hpu _ =>
    exact .inl ⟨p, other hu (by rcases hpu with rfl | rfl <;> rfl), hp⟩
  | readerLeaves hu _ => exact .inl ⟨p, other hu rfl, hp⟩
  | lastReaderLeaves hu _ hw =>
    rcases hw.getElem?_cases (other hu rfl) with h' | ⟨-, h'⟩
    · exact .inl ⟨p, h', hp⟩
    · exact .inl ⟨_, h', rfl⟩
  | callWrite hu => exact .inl ⟨p, other hu rfl, hp⟩
  | writerRegisters hu _ => exact .inl ⟨p, other hu rfl, hp⟩
  | writerEntersAtOnce hu _ => exact .inl ⟨p, other hu rfl, hp⟩
  | @writerParks u hu _ =>
    by_cases hut : u = t
    · subst hut
      exact .inl ⟨_, List.getElem?_set_self (List.getElem?_eq_some_iff.1 ht).1, rfl⟩
    · exact .inl ⟨p, by rw [List.getElem?_set_ne hut, ht], hp⟩
  | @writerEnters u hu _ =>
    by_cases hut : u = t
    · subst hut
      exact .inr ⟨rfl, List.getElem?_set_self (List.getElem?_eq_some_iff.1 ht).1⟩
    · exact .inl ⟨p, by rw [List.getElem?_set_ne hut, ht], hp⟩
  | writerLeaves hu hw =>
    rw [getElem?_wakeReaders]
    rcases hw.getElem?_cases (other hu rfl) with h' | ⟨-, h'⟩
    · rw [h']
      exact .inl ⟨p.wakeReader, rfl, by cases p <;> simp_all [Phase.wakeReader, Phase.isRegistered]⟩
    · rw [h']
      exact .inl ⟨_, rfl, rfl⟩
  | readerWakes hu => exact .inl ⟨p, other hu rfl, hp⟩
  | @writerWakes u hu =>
    by_cases hut : u = t
    · subst hut
      exact .inl ⟨_, List.getElem?_set_self (List.getElem?_eq_some_iff.1 ht).1, rfl⟩
    · exact .inl ⟨p, by rw [List.getElem?_set_ne hut, ht], hp⟩

/-- The writer inside stays inside, except by leaving. -/
theorem Step.writing (h : Step s e s') (ht : s.threads[t]? = some .writing) :
    s'.threads[t]? = some .writing ∨ e = .writerOut t := by
  have other : ∀ {pu : Phase} {u : Nat} {q : Phase}, s.threads[u]? = some pu → pu ≠ .writing →
      (s.threads.set u q)[t]? = some .writing := fun hu hpu => getElem?_set_of_ne hu ht hpu
  cases h with
  | callRead hu => exact .inl (other hu (by decide))
  | readerParks hu hpu _ => exact .inl (other hu (by rcases hpu with rfl | rfl <;> decide))
  | readerEnters hu hpu _ => exact .inl (other hu (by rcases hpu with rfl | rfl <;> decide))
  | readerLeaves hu _ => exact .inl (other hu (by decide))
  | lastReaderLeaves hu _ hw =>
    rcases hw.getElem?_cases (other hu (by decide)) with h' | ⟨hp, -⟩
    · exact .inl h'
    · exact absurd hp (by decide)
  | callWrite hu => exact .inl (other hu (by decide))
  | writerRegisters hu _ => exact .inl (other hu (by decide))
  | writerEntersAtOnce hu _ => exact .inl (other hu (by decide))
  | writerParks hu _ => exact .inl (other hu (by decide))
  | writerEnters hu _ => exact .inl (other hu (by decide))
  | @writerLeaves u _ hu hw =>
    by_cases hut : u = t
    · exact .inr (hut ▸ rfl)
    · have hkeep : (s.threads.set u .idle)[t]? = some .writing := by
        rw [List.getElem?_set_ne hut, ht]
      exact .inl (hw.getElem?_stable hkeep (by decide) (by decide))
  | readerWakes hu => exact .inl (other hu (by decide))
  | writerWakes hu => exact .inl (other hu (by decide))

/-- A writer counting itself as waiting without entering parks. -/
theorem Step.writerWaits_parked (h : Step s (.writerWaits t) s') :
    s'.threads[t]? = some .writeParked := by
  cases h with
  | writerRegisters ht _ => exact List.getElem?_set_self (List.getElem?_eq_some_iff.1 ht).1

/-- A writer that enters holds the write guard. -/
theorem Step.writerIn_writing (h : Step s (.writerIn t) s') : s'.threads[t]? = some .writing := by
  cases h with
  | writerEntersAtOnce ht _ => exact List.getElem?_set_self (List.getElem?_eq_some_iff.1 ht).1
  | writerEnters ht _ => exact List.getElem?_set_self (List.getElem?_eq_some_iff.1 ht).1

/-- A reader is admitted only when no writer is inside or waiting. -/
theorem Step.readerIn_free {r : Nat} (h : Step s (.readerIn r) s') :
    s.stats.mustWaitToRead = false := by
  cases h with
  | readerEnters _ _ hw => exact hw

/-- Writer `t` counted itself as waiting at event `i` of the trace: it parked, or entered at once.
An entry after a wake-up is counted too; its registration came earlier. -/
def Registered (tr : List Event) (i t : Nat) : Prop :=
  tr[i]? = some (.writerWaits t) ∨ tr[i]? = some (.writerIn t)

/-- Writer `t` entered at event `i` or later, and left after it entered. -/
def Served (tr : List Event) (i t : Nat) : Prop :=
  ∃ j l, i ≤ j ∧ j < l ∧ tr[j]? = some (.writerIn t) ∧ tr[l]? = some (.writerOut t)

section History

variable {tr : List Event} {i : Nat}

theorem Served.snoc (h : Served tr i t) (e : Event) : Served (tr ++ [e]) i t := by
  obtain ⟨j, l, hij, hjl, hj, hl⟩ := h
  refine ⟨j, l, hij, hjl, ?_, ?_⟩
  · rw [List.getElem?_append_left (List.getElem?_eq_some_iff.1 hj).1, hj]
  · rw [List.getElem?_append_left (List.getElem?_eq_some_iff.1 hl).1, hl]

/-- A registration in a longer trace is one of the shorter trace, or the last event. -/
theorem Registered.of_snoc (h : Registered (tr ++ [e]) i t) :
    (i < tr.length ∧ Registered tr i t) ∨
      (i = tr.length ∧ (e = .writerWaits t ∨ e = .writerIn t)) := by
  have hlen : i < tr.length + 1 := by
    rcases h with h | h <;> simpa using (List.getElem?_eq_some_iff.1 h).1
  by_cases hi : i < tr.length
  · left
    refine ⟨hi, ?_⟩
    unfold Registered at h ⊢
    rwa [List.getElem?_append_left hi] at h
  · right
    have hi' : i = tr.length := by omega
    subst hi'
    unfold Registered at h
    simpa using h

end History

/-- Every writer that counted itself as waiting has since entered and left; or it is still
counted as waiting; or it holds the write guard, having entered since. -/
def PreferenceInv (tr : List Event) (s : LockMonitor) : Prop :=
  ∀ i t, Registered tr i t → Served tr i t ∨
    (∃ p, s.threads[t]? = some p ∧ p.isRegistered = true) ∨
    (s.threads[t]? = some .writing ∧ ∃ j, i ≤ j ∧ tr[j]? = some (.writerIn t))

theorem PreferenceInv.step {tr : List Event} (hi : PreferenceInv tr s) (h : Step s e s') :
    PreferenceInv (tr ++ [e]) s' := by
  have hlast : (tr ++ [e])[tr.length]? = some e := by simp
  intro i t hreg
  rcases hreg.of_snoc with ⟨hlt, hreg⟩ | ⟨rfl, he⟩
  · rcases hi i t hreg with hserved | ⟨p, ht, hp⟩ | ⟨ht, j, hij, hj⟩
    · exact .inl (hserved.snoc e)
    · rcases h.registered ht hp with hq | ⟨rfl, hw⟩
      · exact .inr (.inl hq)
      · exact .inr (.inr ⟨hw, tr.length, by omega, hlast⟩)
    · have hjlt := (List.getElem?_eq_some_iff.1 hj).1
      have hj' : (tr ++ [e])[j]? = some (.writerIn t) := by
        rw [List.getElem?_append_left hjlt, hj]
      rcases h.writing ht with hw | rfl
      · exact .inr (.inr ⟨hw, j, hij, hj'⟩)
      · exact .inl ⟨j, tr.length, hij, hjlt, hj', hlast⟩
  · rcases he with rfl | rfl
    · exact .inr (.inl ⟨_, h.writerWaits_parked, rfl⟩)
    · exact .inr (.inr ⟨h.writerIn_writing, tr.length, Nat.le_refl _, hlast⟩)

theorem PreferenceInv.run {n : Nat} {tr : List Event} (hr : Run (init n) tr s) :
    PreferenceInv tr s := by
  induction hr with
  | nil => intro i t h; rcases h with h | h <;> simp at h
  | snoc _ h ih => exact ih.step h

/-- When no writer is inside or waiting, every writer that counted itself as waiting has been
inside and left. -/
theorem PreferenceInv.served {tr : List Event} (hi : PreferenceInv tr s) (ha : Accounting s)
    (hfree : s.stats.mustWaitToRead = false) {i : Nat} (hreg : Registered tr i t) :
    Served tr i t := by
  obtain ⟨hwait, hin⟩ := LockStats.mustWaitToRead_eq_false.1 hfree
  rcases hi i t hreg with hserved | ⟨p, ht, hp⟩ | ⟨ht, -⟩
  · exact hserved
  · have hpos := ha.registered_pos ht hp
    omega
  · have hpos : 0 < s.threads.count .writing := List.count_pos_iff.2 (List.mem_of_getElem? ht)
    rw [← ha.writers] at hpos
    omega

theorem getElem?_of_getElem?_take {α : Type} {tr : List α} {k j : Nat} {x : α}
    (h : (tr.take k)[j]? = some x) : j < k ∧ tr[j]? = some x := by
  rw [List.getElem?_take] at h
  by_cases hj : j < k
  · rw [if_pos hj] at h
    exact ⟨hj, h⟩
  · rw [if_neg hj] at h
    cases h

/-- In every run of the lock, whenever a reader is admitted, every writer that counted itself as
waiting at an earlier point of the run (by parking, or by entering at once) has since been
admitted and has dropped its guard, both before the reader's admission. -/
theorem writer_preference {n : Nat} {tr : List Event} (hr : Run (init n) tr s) {k r : Nat}
    (hk : tr[k]? = some (.readerIn r)) {i t : Nat} (hik : i < k)
    (hreg : tr[i]? = some (.writerWaits t) ∨ tr[i]? = some (.writerIn t)) :
    ∃ j l, i ≤ j ∧ j < l ∧ l < k ∧ tr[j]? = some (.writerIn t) ∧
      tr[l]? = some (.writerOut t) := by
  obtain ⟨m, m', hm, hstep⟩ := hr.steps.before hk
  have hrun := Run.of_steps hm
  have hreg' : Registered (tr.take k) i t := by
    unfold Registered
    rwa [List.getElem?_take_of_lt hik]
  obtain ⟨j, l, hij, hjl, hj, hl⟩ :=
    (PreferenceInv.run hrun).served (Accounting.run hrun) hstep.readerIn_free hreg'
  obtain ⟨-, hj⟩ := getElem?_of_getElem?_take hj
  obtain ⟨hlk, hl⟩ := getElem?_of_getElem?_take hl
  exact ⟨j, l, hij, hjl, hlk, hj, hl⟩

/-- Continuing the run where a reader parked behind a waiting writer: the writer enters and
leaves, waking the reader, which then enters. -/
theorem reader_after_writer_run :
    Run (init 3) [.silent, .readerIn 0, .silent, .writerWaits 1, .silent, .silent, .readerOut 0,
      .writerIn 1, .writerOut 1, .readerIn 2] ⟨⟨1, 0, 0⟩, [.idle, .idle, .reading]⟩ := by
  have h8 : Step ⟨⟨0, 0, 1⟩, [.idle, .writeWoken, .readParked]⟩ (.writerIn 1)
      ⟨⟨0, 1, 0⟩, [.idle, .writing, .readParked]⟩ := .writerEnters rfl rfl
  have h9 : Step ⟨⟨0, 1, 0⟩, [.idle, .writing, .readParked]⟩ (.writerOut 1)
      ⟨⟨0, 0, 0⟩, [.idle, .idle, .readWoken]⟩ := .writerLeaves rfl (.none (by decide))
  have h10 : Step ⟨⟨0, 0, 0⟩, [.idle, .idle, .readWoken]⟩ (.readerIn 2)
      ⟨⟨1, 0, 0⟩, [.idle, .idle, .reading]⟩ := .readerEnters rfl (.inr rfl) rfl
  exact .snoc (.snoc (.snoc reader_parks_behind_writer_run h8) h9) h10

theorem writer_preference_reader_behind_writer :
    Run (init 3) [.silent, .readerIn 0, .silent, .writerWaits 1, .silent, .silent, .readerOut 0,
      .writerIn 1, .writerOut 1, .readerIn 2] ⟨⟨1, 0, 0⟩, [.idle, .idle, .reading]⟩ ∧
    ([Event.silent, .readerIn 0, .silent, .writerWaits 1, .silent, .silent, .readerOut 0,
      .writerIn 1, .writerOut 1, .readerIn 2][9]? = some (.readerIn 2)) ∧ 3 < 9 ∧
    ([Event.silent, .readerIn 0, .silent, .writerWaits 1, .silent, .silent, .readerOut 0,
      .writerIn 1, .writerOut 1, .readerIn 2][3]? = some (.writerWaits 1)) ∧
    ∃ j l, 3 ≤ j ∧ j < l ∧ l < 9 ∧
      [Event.silent, .readerIn 0, .silent, .writerWaits 1, .silent, .silent, .readerOut 0,
        .writerIn 1, .writerOut 1, .readerIn 2][j]? = some (.writerIn 1) ∧
      [Event.silent, .readerIn 0, .silent, .writerWaits 1, .silent, .silent, .readerOut 0,
        .writerIn 1, .writerOut 1, .readerIn 2][l]? = some (.writerOut 1) :=
  ⟨reader_after_writer_run, rfl, by decide, rfl,
    writer_preference reader_after_writer_run rfl (by decide) (.inl rfl)⟩

end LockMonitor

end PoolServer
