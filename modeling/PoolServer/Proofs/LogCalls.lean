import PoolServer.Proofs.LogLinearizable
/-!
# A call on the log runs to its reply

A thread that the lock admitted for a call holds its guard, before or after the work, until it
replies: nothing but its own reply takes it out of the call, so between two admissions of one
thread there is a reply of that thread (`admitted_again_replied`). A thread done with an append
has its record in the log, since records are only ever added (`DoneInv`).
-/
namespace PoolServer

namespace LogMonitor

/-- Whether a task holds its guard: admitted, before or after the work. -/
def Task.holds : Task → Bool
  | .inside _ => true
  | .done _ _ => true
  | _ => false

variable {s s' : LogMonitor} {e : Event}

/-- What a step does to one thread's task: nothing, or the step is that thread's call, admission,
work or reply. -/
theorem Step.task_cases (h : Step s e s') (u : Nat) :
    s'.tasks[u]? = s.tasks[u]? ∨
    (∃ c, e = .called u c ∧ s.tasks[u]? = some .idle ∧ s'.tasks[u]? = some (.calling c)) ∨
    (∃ c, e = .entered u c ∧ s.tasks[u]? = some (.calling c) ∧
      s'.tasks[u]? = some (.inside c)) ∨
    (∃ c, e = .worked u c ∧ s.tasks[u]? = some (.inside c) ∧
      s'.tasks[u]? = some (.done c (c.work s.journal).2)) ∨
    (∃ c r, e = .replied u c r ∧ s.tasks[u]? = some (.done c r) ∧ s'.tasks[u]? = some .idle) := by
  have hset : ∀ {t : Nat} {k k₁ : Task}, s.tasks[t]? = some k →
      (s.tasks.set t k₁)[u]? = s.tasks[u]? ∨ t = u ∧ (s.tasks.set t k₁)[u]? = some k₁ := by
    intro t k k₁ hk
    by_cases htu : t = u
    · subst htu
      exact .inr ⟨rfl, List.getElem?_set_self (List.getElem?_eq_some_iff.1 hk).1⟩
    · exact .inl (List.getElem?_set_ne htu)
  cases h with
  | refuse _ _ => exact .inl rfl
  | call ht _ _ =>
    rcases hset ht with h' | ⟨rfl, h'⟩
    · exact .inl h'
    · exact .inr (.inl ⟨_, rfl, ht, h'⟩)
  | lock _ _ _ => exact .inl rfl
  | enter ht _ =>
    rcases hset ht with h' | ⟨rfl, h'⟩
    · exact .inl h'
    · exact .inr (.inr (.inl ⟨_, rfl, ht, h'⟩))
  | work ht =>
    rcases hset ht with h' | ⟨rfl, h'⟩
    · exact .inl h'
    · exact .inr (.inr (.inr (.inl ⟨_, rfl, ht, h'⟩)))
  | leave ht _ =>
    rcases hset ht with h' | ⟨rfl, h'⟩
    · exact .inl h'
    · exact .inr (.inr (.inr (.inr ⟨_, _, rfl, ht, h'⟩)))

/-- A thread holding its guard keeps holding it through any step but its own reply. -/
theorem Step.holds_of_holds {u : Nat} {k : Task} (h : Step s e s')
    (hk : s.tasks[u]? = some k) (hold : k.holds = true) (he : ∀ c r, e ≠ .replied u c r) :
    ∃ k₁, s'.tasks[u]? = some k₁ ∧ k₁.holds = true := by
  rcases h.task_cases u with h' | ⟨c, -, hu, -⟩ | ⟨c, -, hu, -⟩ | ⟨c, -, -, h'⟩ | ⟨c, r, rfl, -, -⟩
  · exact ⟨k, h'.trans hk, hold⟩
  · rw [hk] at hu
    cases hu
    cases hold
  · rw [hk] at hu
    cases hu
    cases hold
  · exact ⟨_, h', rfl⟩
  · exact absurd rfl (he c r)

/-- Every step keeps the records already in the log. -/
theorem Step.records_prefix (h : Step s e s') : s.journal.records <+: s'.journal.records := by
  cases h with
  | work _ =>
    rename_i c _
    cases c with
    | append d => exact List.prefix_append _ _
    | snapshot => exact List.prefix_refl _
    | size => exact List.prefix_refl _
  | _ => exact List.prefix_refl _

/-! ### Admitted until replied -/

/-- A thread admitted at some step of the run and not replied since holds its guard. -/
def HoldInv (tr : List Event) (s : LogMonitor) : Prop :=
  ∀ (u j : Nat) (c : Call), tr[j]? = some (.entered u c) →
    (∀ (m : Nat) (c' : Call) (r : Reply), j < m → tr[m]? ≠ some (.replied u c' r)) →
    ∃ k, s.tasks[u]? = some k ∧ k.holds = true

theorem HoldInv.step {tr : List Event} (hi : HoldInv tr s) (h : Step s e s') :
    HoldInv (tr ++ [e]) s' := by
  intro u j c hj hquiet
  rcases Nat.lt_or_ge j tr.length with hlt | hge
  · rw [List.getElem?_append_left hlt] at hj
    have hold := hi u j c hj fun m c' r hm hm' =>
      hquiet m c' r hm (by rwa [List.getElem?_append_left (List.getElem?_eq_some_iff.1 hm').1])
    obtain ⟨k, hk, hk'⟩ := hold
    refine h.holds_of_holds hk hk' fun c' r he => hquiet tr.length c' r hlt ?_
    simp [he]
  · have hj' : j = tr.length := by
      have := (List.getElem?_eq_some_iff.1 hj).1
      simp at this
      omega
    subst hj'
    simp only [List.getElem?_append_right (Nat.le_refl _), Nat.sub_self, List.getElem?_cons_zero,
      Option.some.injEq] at hj
    subst hj
    cases h with
    | enter ht _ => exact ⟨_, List.getElem?_set_self (List.getElem?_eq_some_iff.1 ht).1, rfl⟩

theorem HoldInv.initial (n : Nat) : HoldInv [] (init n) := by
  intro u j c hj
  simp at hj

theorem HoldInv.run {n : Nat} {tr : List Event} (hr : Steps Step (init n) tr s) : HoldInv tr s := by
  induction hr with
  | nil => exact HoldInv.initial n
  | snoc _ h ih => exact ih.step h

/-- Between two admissions of one thread, that thread replied. -/
theorem admitted_again_replied {n : Nat} {tr : List Event} (hr : Steps Step (init n) tr s)
    {u j₁ j₂ : Nat} {c₁ c₂ : Call} (h₁ : tr[j₁]? = some (.entered u c₁))
    (h₂ : tr[j₂]? = some (.entered u c₂)) (hlt : j₁ < j₂) :
    ∃ m c r, j₁ < m ∧ m < j₂ ∧ tr[m]? = some (.replied u c r) := by
  obtain ⟨m₀, m₁, hpre, hstep⟩ := hr.before h₂
  by_contra hnone
  have hold := HoldInv.run hpre u j₁ c₁ (by rwa [List.getElem?_take_of_lt hlt])
    fun m c r hm hm' => by
      obtain ⟨hmlt, hm₂⟩ := LockMonitor.getElem?_of_getElem?_take hm'
      exact hnone ⟨m, c, r, hm, hmlt, hm₂⟩
  obtain ⟨k, hk, hk'⟩ := hold
  cases hstep with
  | enter ht _ =>
    rw [hk] at ht
    cases ht
    cases hk'

/-! ### Appends done -/

/-- A thread done with an append finds its record in the log. -/
def DoneInv (s : LogMonitor) : Prop :=
  ∀ (t : Nat) (d : Bytes) (r : Reply), s.tasks[t]? = some (.done (.append d) r) →
    d ∈ s.journal.records

theorem DoneInv.step (hi : DoneInv s) (h : Step s e s') : DoneInv s' := by
  intro t d r ht
  rcases h.task_cases t with h' | ⟨_, -, -, h'⟩ | ⟨_, -, -, h'⟩ | ⟨c, he, -, h'⟩ | ⟨_, _, -, -, h'⟩
  · exact h.records_prefix.subset (hi t d r (h'.symm.trans ht))
  · rw [ht] at h'
    cases h'
  · rw [ht] at h'
    cases h'
  · rw [ht] at h'
    cases h'
    subst he
    cases h with
    | work _ => simp [Call.work]
  · rw [ht] at h'
    cases h'

theorem DoneInv.initial (n : Nat) : DoneInv (init n) := by
  intro t d r ht
  cases List.eq_of_mem_replicate (List.mem_of_getElem? ht)

theorem DoneInv.run {n : Nat} {tr : List Event} (hr : Steps Step (init n) tr s) : DoneInv s := by
  induction hr with
  | nil => exact DoneInv.initial n
  | snoc _ h ih => exact ih.step h

end LogMonitor

end PoolServer
