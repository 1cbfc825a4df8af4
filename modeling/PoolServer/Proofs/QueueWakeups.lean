import PoolServer.Proofs.QueueFifo
/-!
# No wake-up of the queue is lost

A taker parks while the queue is empty and a giver while it is full, and each is woken by one
call of the other side: putting an item into an empty queue wakes one taker, taking one from a
full queue wakes one giver. A thread that goes ahead passes the baton on: a giver that leaves room
wakes another giver, and a taker that leaves items wakes another taker. These sparse wake-ups are
enough: whenever the queue holds an item while a taker is parked, some taker has been woken and
has yet to check; whenever the open queue has room while a giver is parked, some giver has. Once
`close` has returned nobody is parked, and from the moment the flag is set nobody parks.

A step moves one thread and wakes some parked ones (`Woken`). Waking keeps every thread that was
woken, and parks nobody, so it keeps `Covered`: a parked thread has a woken peer on its
condition. A wake-up sent on a condition makes it covered by itself (`WakeEach.covered`).

Main statement: `no_lost_wakeup`.
-/
namespace PoolServer

namespace QueueMonitor

variable {α : Type}

section Lists

variable {β : Type} {f : β → Bool} {ts : List β} {t i : Nat} {p p' x : β}

theorem any_of_any_set (h : (ts.set t p').any f = true) (hp' : f p' = false) :
    ts.any f = true := by
  obtain ⟨x, hx, hfx⟩ := List.any_eq_true.1 h
  rcases List.mem_or_eq_of_mem_set hx with hx | rfl
  · exact List.any_eq_true.2 ⟨x, hx, hfx⟩
  · simp [hp'] at hfx

theorem any_set_of_any (h : ts.any f = true) (ht : ts[t]? = some p) (hp : f p = false) :
    (ts.set t p').any f = true := by
  obtain ⟨x, hx, hfx⟩ := List.any_eq_true.1 h
  obtain ⟨j, hj⟩ := List.mem_iff_getElem?.1 hx
  have hjt : t ≠ j := by
    rintro rfl
    simp_all
  exact List.any_eq_true.2 ⟨x, List.mem_iff_getElem?.2 ⟨j, by rw [List.getElem?_set_ne hjt]; exact hj⟩, hfx⟩

theorem getElem?_of_getElem?_set (h : (ts.set t p')[i]? = some x) (hx : x ≠ p') :
    ts[i]? = some x := by
  rw [List.getElem?_set] at h
  split at h
  · split at h
    · cases h
      exact absurd rfl hx
    · cases h
  · exact h

end Lists

/-- `ts'` is `ts` with some parked threads woken. -/
abbrev Woken (ts ts' : List (Phase α)) : Prop :=
  ∀ i : Nat, ts'[i]? = ts[i]? ∨ ∃ c, ts[i]? = some (Phase.parked c) ∧ ts'[i]? = some (Phase.woken c)

namespace Woken

variable {ts ts' ts'' : List (Phase α)}

theorem refl (ts : List (Phase α)) : Woken ts ts := fun _ => .inl rfl

theorem trans (h : Woken ts ts') (h' : Woken ts' ts'') : Woken ts ts'' := by
  intro i
  rcases h i with hi | ⟨c, hp, hw⟩ <;> rcases h' i with hi' | ⟨c', hp', hw'⟩
  · exact .inl (hi'.trans hi)
  · exact .inr ⟨c', hi ▸ hp', hw'⟩
  · exact .inr ⟨c, hp, hi'.trans hw⟩
  · rw [hw] at hp'
    cases hp'

theorem set_parked {t : Nat} {c : Call α} (ht : ts[t]? = some (.parked c)) :
    Woken ts (ts.set t (.woken c)) := by
  intro i
  by_cases hi : t = i
  · subst hi
    exact .inr ⟨c, ht, by simp [(List.getElem?_eq_some_iff.1 ht).1]⟩
  · exact .inl (List.getElem?_set_ne hi)

theorem map_wakeOn (w : Cond) (ts : List (Phase α)) : Woken ts (ts.map (Phase.wakeOn w)) := by
  intro i
  rw [List.getElem?_map]
  cases hi : ts[i]? with
  | none => exact .inl rfl
  | some p =>
    cases p with
    | parked c =>
      by_cases hc : c.cond = w
      · exact .inr ⟨c, rfl, by simp [Phase.wakeOn, hc]⟩
      · exact .inl (by simp [Phase.wakeOn, hc])
    | _ => exact .inl rfl

/-- Waking keeps every woken thread woken. -/
theorem any_woken (h : Woken ts ts') {v : Cond} (hw : ts.any (·.isWokenOn v) = true) :
    ts'.any (·.isWokenOn v) = true := by
  obtain ⟨x, hx, hv⟩ := List.any_eq_true.1 hw
  obtain ⟨i, hi⟩ := List.mem_iff_getElem?.1 hx
  rcases h i with he | ⟨c, hp, -⟩
  · exact List.any_eq_true.2 ⟨x, List.mem_iff_getElem?.2 ⟨i, he.trans hi⟩, hv⟩
  · rw [hi] at hp
    cases hp
    simp [Phase.isWokenOn] at hv

/-- Waking parks nobody. -/
theorem parked (h : Woken ts ts') {i : Nat} {c : Call α} (hi : ts'[i]? = some (.parked c)) :
    ts[i]? = some (.parked c) := by
  rcases h i with he | ⟨c', -, hw⟩
  · exact he ▸ hi
  · rw [hw] at hi
    cases hi

theorem any_parked (h : Woken ts ts') {v : Cond} (hp : ts'.any (·.isParkedOn v) = true) :
    ts.any (·.isParkedOn v) = true := by
  obtain ⟨x, hx, hv⟩ := List.any_eq_true.1 hp
  obtain ⟨i, hi⟩ := List.mem_iff_getElem?.1 hx
  cases x with
  | parked c => exact List.any_eq_true.2 ⟨_, List.mem_iff_getElem?.2 ⟨i, h.parked hi⟩, hv⟩
  | _ => simp [Phase.isParkedOn] at hv

end Woken

theorem WakeOne.woken {w : Cond} {ts ts' : List (Phase α)} (h : WakeOne w ts ts') :
    Woken ts ts' := by
  cases h with
  | wake hi _ => exact Woken.set_parked hi
  | none _ => exact Woken.refl _

theorem WakeEach.woken {ws : List Cond} {ts ts' : List (Phase α)} (h : WakeEach ws ts ts') :
    Woken ts ts' := by
  induction h with
  | nil => exact Woken.refl _
  | cons h₁ _ ih => exact h₁.woken.trans ih

/-- Nobody is left parked on `w` without a thread woken from `w` that has yet to check. -/
abbrev Covered (w : Cond) (ts : List (Phase α)) : Prop :=
  ts.any (·.isParkedOn w) = true → ts.any (·.isWokenOn w) = true

theorem Woken.covered {w : Cond} {ts ts' : List (Phase α)} (h : Woken ts ts')
    (hc : Covered w ts) : Covered w ts' :=
  fun hp => h.any_woken (hc (h.any_parked hp))

/-- One thread changing its phase keeps the condition covered, unless it leaves a wait on it or
parks on it. -/
theorem Covered.set {w : Cond} {ts : List (Phase α)} {t : Nat} {p p' : Phase α}
    (hc : Covered w ts) (ht : ts[t]? = some p) (hp : p.isWokenOn w = false)
    (hp' : p'.isParkedOn w = false) : Covered w (ts.set t p') :=
  fun hpk => any_set_of_any (hc (any_of_any_set hpk hp')) ht hp

/-- A wake-up sent on `w` leaves `w` covered. -/
theorem WakeOne.covered {w : Cond} {ts ts' : List (Phase α)} (h : WakeOne w ts ts') :
    Covered w ts' := by
  cases h with
  | @wake i c hi hc =>
    intro _
    have hlt : i < ts.length := (List.getElem?_eq_some_iff.1 hi).1
    refine List.any_eq_true.2 ⟨.woken c, List.mem_iff_getElem?.2 ⟨i, ?_⟩, by simp [hc]⟩
    simp [hlt]
  | none hn =>
    intro hp
    obtain ⟨x, hx, hv⟩ := List.any_eq_true.1 hp
    simp [hn x hx] at hv

theorem WakeEach.covered {ws : List Cond} {ts ts' : List (Phase α)} (h : WakeEach ws ts ts')
    {w : Cond} (hw : w ∈ ws) : Covered w ts' := by
  induction h with
  | nil => cases hw
  | cons h₁ hrest ih =>
    rcases List.mem_cons.1 hw with rfl | hw
    · exact hrest.woken.covered h₁.covered
    · exact ih hw

/-- After waking all of `w`, nobody is parked on it. -/
theorem any_parked_map_wakeOn (w : Cond) (ts : List (Phase α)) :
    (ts.map (Phase.wakeOn w)).any (·.isParkedOn w) = false := by
  simp [List.any_map, Function.comp_def, Phase.isParkedOn_wakeOn]

theorem covered_map_wakeOn (w : Cond) (ts : List (Phase α)) :
    Covered w (ts.map (Phase.wakeOn w)) := by
  intro hp
  rw [any_parked_map_wakeOn] at hp
  cases hp

theorem Phase.isWokenOn_eq_false {p : Phase α} {c : Call α} {w : Cond}
    (hp : p.pending = some c) (hc : c.cond ≠ w) : p.isWokenOn w = false := by
  cases h : p.isWokenOn w
  · rfl
  · exact absurd (Phase.cond_of_isWokenOn hp h) hc

/-- A finished call leaves no taker parked unwatched while items remain: a giver that fills an
empty queue wakes a taker, and a taker that leaves items passes the wake-up on. -/
theorem finish_takers {q q' : BoundedQueue α} {ts ts' : List (Phase α)} {t : Nat}
    {p : Phase α} {c : Call α} {r : Reply α} (ht : ts[t]? = some p) (hp : p.pending = some c)
    (ha : q.attempt c = some (q', r)) (hw : WakeEach (signals q q' r) (ts.set t .idle) ts')
    (hi : q.items ≠ [] → Covered .notEmpty ts) : q'.items ≠ [] → Covered .notEmpty ts' := by
  intro hne
  rcases BoundedQueue.attempt_eq_some ha with ⟨x, rfl, -, rfl, rfl⟩ | ⟨x, rfl, -, -, rfl, rfl⟩ |
    ⟨rfl, hq, -, rfl, rfl⟩ | ⟨x, rest, rfl, -, rfl, rfl⟩
  · exact hw.woken.covered ((hi hne).set ht (Phase.isWokenOn_eq_false hp (by simp)) rfl)
  · by_cases he : q.items = []
    · exact hw.covered (by simp [signals, he])
    · exact hw.woken.covered ((hi he).set ht (Phase.isWokenOn_eq_false hp (by simp)) rfl)
  · exact absurd hq hne
  · exact hw.covered (by simpa [signals] using hne)

/-- A finished call leaves no giver parked unwatched while the open queue has room: a taker that
frees a slot of a full queue wakes a giver, and a giver that leaves room passes the wake-up on. -/
theorem finish_givers {q q' : BoundedQueue α} {ts ts' : List (Phase α)} {t : Nat}
    {p : Phase α} {c : Call α} {r : Reply α} (ht : ts[t]? = some p) (hp : p.pending = some c)
    (ha : q.attempt c = some (q', r)) (hw : WakeEach (signals q q' r) (ts.set t .idle) ts')
    (hsz : q.size ≤ q.capacity)
    (hi : q.closed = false → q.size < q.capacity → Covered .notFull ts) :
    q'.closed = false → q'.size < q'.capacity → Covered .notFull ts' := by
  intro ho hlt
  rcases BoundedQueue.attempt_eq_some ha with ⟨x, rfl, hc, rfl, rfl⟩ | ⟨x, rfl, -, -, rfl, rfl⟩ |
    ⟨rfl, -, hc, rfl, rfl⟩ | ⟨x, rest, rfl, hq, rfl, rfl⟩
  · simp [hc] at ho
  · exact hw.covered (by simp [signals, hlt])
  · simp [hc] at ho
  · by_cases hfull : q.size = q.capacity
    · exact hw.covered (by simp [signals, hfull])
    · have hroom : q.size < q.capacity := by omega
      exact hw.woken.covered ((hi ho hroom).set ht (Phase.isWokenOn_eq_false hp (by simp)) rfl)

/-- The invariant behind every wake-up: a queue holding an item leaves no taker parked
unwatched, and an open queue with room leaves no giver parked unwatched. -/
structure WakeInv (s : QueueMonitor α) : Prop where
  takers : s.queue.items ≠ [] → Covered .notEmpty s.threads
  givers : s.queue.closed = false → s.queue.size < s.queue.capacity →
    Covered .notFull s.threads

theorem WakeInv.step {s s' : QueueMonitor α} {e : Event α} (hi : WakeInv s) (h : Step s e s')
    (hsz : s.queue.size ≤ s.queue.capacity) : WakeInv s' := by
  cases h with
  | call c ht =>
    exact ⟨fun hne => (hi.takers hne).set ht rfl rfl,
      fun ho hlt => (hi.givers ho hlt).set ht rfl rfl⟩
  | callClose ht =>
    exact ⟨fun hne => (hi.takers hne).set ht rfl rfl,
      fun ho hlt => (hi.givers ho hlt).set ht rfl rfl⟩
  | @park t p c ht hp hw =>
    obtain ⟨x, rfl⟩ | rfl : (∃ x, c = .enqueue x) ∨ c = .dequeue := by
      cases c <;> simp
    · have hwait := (BoundedQueue.attempt_eq_none_iff _ _).1 hw
      simp only [BoundedQueue.mustWaitToEnqueue, Bool.and_eq_true, beq_iff_eq,
        Bool.not_eq_eq_eq_not, Bool.not_true] at hwait
      refine ⟨fun hne => (hi.takers hne).set ht (Phase.isWokenOn_eq_false hp (by simp)) rfl,
        fun _ hlt => ?_⟩
      simp only at hlt
      omega
    · have hwait := (BoundedQueue.attempt_eq_none_iff _ _).1 hw
      simp only [BoundedQueue.mustWaitToDequeue, Bool.and_eq_true, List.isEmpty_iff] at hwait
      exact ⟨fun hne => absurd hwait.1 hne,
        fun ho hlt => (hi.givers ho hlt).set ht (Phase.isWokenOn_eq_false hp (by simp)) rfl⟩
  | finish ht hp ha hw =>
    exact ⟨finish_takers ht hp ha hw hi.takers, finish_givers ht hp ha hw hsz hi.givers⟩
  | outOfMemory ht hp _ _ hfull =>
    refine ⟨fun hne => (hi.takers hne).set ht (Phase.isWokenOn_eq_false hp (by simp)) rfl,
      fun _ hlt => ?_⟩
    simp only at hlt
    omega
  | spurious ht =>
    exact ⟨fun hne => (Woken.set_parked ht).covered (hi.takers hne),
      fun ho hlt => (Woken.set_parked ht).covered (hi.givers ho hlt)⟩
  | shut ht =>
    exact ⟨fun hne => (hi.takers hne).set ht rfl rfl, fun ho _ => by simp [BoundedQueue.close] at ho⟩
  | wakeTakers ht =>
    exact ⟨fun _ => covered_map_wakeOn _ _,
      fun ho hlt => (Woken.map_wakeOn _ _).covered ((hi.givers ho hlt).set ht rfl rfl)⟩
  | wakeGivers ht =>
    exact ⟨fun hne => (Woken.map_wakeOn _ _).covered ((hi.takers hne).set ht rfl rfl),
      fun _ _ => covered_map_wakeOn _ _⟩

/-- The flag, once set, stays set. -/
theorem Step.closed_of_closed {s s' : QueueMonitor α} {e : Event α} (h : Step s e s')
    (hc : s.queue.closed = true) : s'.queue.closed = true := by
  rcases h.queue_cases with ⟨t, c, r, -, ha⟩ | ⟨t, -, hq⟩ | ⟨hq, -, -⟩
  · rw [attempt_closed ha, hc]
  · rw [hq]
    rfl
  · rw [hq, hc]

/-- Once the flag is set nobody parks: every thread parked after a step was parked before it. -/
theorem Step.parked_of_closed {s s' : QueueMonitor α} {e : Event α} (h : Step s e s')
    (hc : s.queue.closed = true) {i : Nat} {c : Call α}
    (hi : s'.threads[i]? = some (.parked c)) : s.threads[i]? = some (.parked c) := by
  cases h with
  | call _ _ => exact getElem?_of_getElem?_set hi (by simp)
  | callClose _ => exact getElem?_of_getElem?_set hi (by simp)
  | @park t p c' ht hp hw =>
    cases c' <;>
      simp [BoundedQueue.attempt_eq_none_iff, BoundedQueue.mustWaitToEnqueue,
        BoundedQueue.mustWaitToDequeue, hc] at hw
  | finish _ _ _ hw => exact getElem?_of_getElem?_set (hw.woken.parked hi) (by simp)
  | outOfMemory _ _ _ _ _ => exact getElem?_of_getElem?_set hi (by simp)
  | spurious ht => exact (Woken.set_parked ht).parked hi
  | shut _ => exact getElem?_of_getElem?_set hi (by simp)
  | wakeTakers _ =>
    exact getElem?_of_getElem?_set ((Woken.map_wakeOn _ _).parked hi) (by simp)
  | wakeGivers _ =>
    exact getElem?_of_getElem?_set ((Woken.map_wakeOn _ _).parked hi) (by simp)

theorem Step.parkedOn_of_closed {s s' : QueueMonitor α} {e : Event α} (h : Step s e s')
    (hc : s.queue.closed = true) {w : Cond} (hp : s'.parkedOn w = true) : s.parkedOn w = true := by
  obtain ⟨x, hx, hv⟩ := List.any_eq_true.1 hp
  obtain ⟨i, hi⟩ := List.mem_iff_getElem?.1 hx
  cases x with
  | parked c =>
    exact List.any_eq_true.2 ⟨_, List.mem_iff_getElem?.2 ⟨i, h.parked_of_closed hc hi⟩, hv⟩
  | _ => simp [Phase.isParkedOn] at hv

theorem mem_of_mem_set {ts : List (Phase α)} {t : Nat} {x p' : Phase α} (hx : x ∈ ts.set t p')
    (hne : x ≠ p') : x ∈ ts :=
  (List.mem_or_eq_of_mem_set hx).resolve_right hne

/-- Waking turns parked threads into woken ones and touches nobody else. -/
theorem Woken.mem {ts ts' : List (Phase α)} (h : Woken ts ts') {x : Phase α} (hx : x ∈ ts')
    (hw : ∀ c, x ≠ .woken c) : x ∈ ts := by
  obtain ⟨i, hi⟩ := List.mem_iff_getElem?.1 hx
  rcases h i with he | ⟨c, -, hc⟩
  · exact List.mem_iff_getElem?.2 ⟨i, he ▸ hi⟩
  · rw [hc] at hi
    cases hi
    exact absurd rfl (hw c)

/-- How `close` stands in a run: the flag is set while a closer is waking threads, the takers are
all awake once it moves on to the givers, and after it returns nobody is parked. -/
structure CloseInv (tr : List (Event α)) (s : QueueMonitor α) : Prop where
  flag : Phase.wakingTakers ∈ s.threads ∨ Phase.wakingGivers ∈ s.threads →
    s.queue.closed = true
  takersAwake : Phase.wakingGivers ∈ s.threads → s.parkedOn .notEmpty = false
  returned : (∃ t, Event.closed t ∈ tr) → s.queue.closed = true ∧ ∀ w, s.parkedOn w = false

section Close

variable {s s' : QueueMonitor α} {e : Event α}

/-- A thread that is not woken and not the one that moved was there before the step. -/
theorem mem_of_mem_woken_set {ts ts' : List (Phase α)} {t : Nat} {x p' : Phase α}
    (h : Woken (ts.set t p') ts') (hx : x ∈ ts') (hw : ∀ c, x ≠ .woken c) (hne : x ≠ p') :
    x ∈ ts :=
  mem_of_mem_set (h.mem hx hw) hne

theorem Step.flag (h : Step s e s')
    (hi : Phase.wakingTakers ∈ s.threads ∨ Phase.wakingGivers ∈ s.threads →
      s.queue.closed = true) :
    Phase.wakingTakers ∈ s'.threads ∨ Phase.wakingGivers ∈ s'.threads →
      s'.queue.closed = true := by
  intro hx
  have back : ∀ {t : Nat} {p' : Phase α}, Woken (s.threads.set t p') s'.threads →
      p' ≠ .wakingTakers → p' ≠ .wakingGivers →
      Phase.wakingTakers ∈ s.threads ∨ Phase.wakingGivers ∈ s.threads := by
    intro t p' hw h₁ h₂
    exact hx.imp (fun h => mem_of_mem_woken_set hw h (by simp) (Ne.symm h₁))
      (fun h => mem_of_mem_woken_set hw h (by simp) (Ne.symm h₂))
  cases h with
  | call _ _ => exact hi (back (Woken.refl _) (by simp) (by simp))
  | callClose _ => exact hi (back (Woken.refl _) (by simp) (by simp))
  | park _ _ _ => exact hi (back (Woken.refl _) (by simp) (by simp))
  | finish _ _ ha hw => rw [attempt_closed ha]; exact hi (back hw.woken (by simp) (by simp))
  | outOfMemory _ _ _ _ _ => exact hi (back (Woken.refl _) (by simp) (by simp))
  | spurious ht => exact hi (back (Woken.refl _) (by simp) (by simp))
  | shut _ => rfl
  | wakeTakers ht => exact hi (.inl (List.mem_of_getElem? ht))
  | wakeGivers ht => exact hi (.inr (List.mem_of_getElem? ht))

theorem Step.takersAwake (h : Step s e s')
    (hflag : Phase.wakingTakers ∈ s.threads ∨ Phase.wakingGivers ∈ s.threads →
      s.queue.closed = true)
    (hi : Phase.wakingGivers ∈ s.threads → s.parkedOn .notEmpty = false) :
    Phase.wakingGivers ∈ s'.threads → s'.parkedOn .notEmpty = false := by
  intro hx
  have kept : Phase.wakingGivers ∈ s.threads → s'.parkedOn .notEmpty = false := by
    intro hg
    cases hp : s'.parkedOn .notEmpty
    · rfl
    · have := h.parkedOn_of_closed (hflag (.inr hg)) hp
      rw [hi hg] at this
      cases this
  have back : ∀ {t : Nat} {p' : Phase α}, Woken (s.threads.set t p') s'.threads →
      p' ≠ .wakingGivers → Phase.wakingGivers ∈ s.threads :=
    fun hw hne => mem_of_mem_woken_set hw hx (by simp) (Ne.symm hne)
  cases h with
  | call _ _ => exact kept (back (Woken.refl _) (by simp))
  | callClose _ => exact kept (back (Woken.refl _) (by simp))
  | park _ _ _ => exact kept (back (Woken.refl _) (by simp))
  | finish _ _ _ hw => exact kept (back hw.woken (by simp))
  | outOfMemory _ _ _ _ _ => exact kept (back (Woken.refl _) (by simp))
  | spurious _ => exact kept (back (Woken.refl _) (by simp))
  | shut _ => exact kept (back (Woken.refl _) (by simp))
  | wakeTakers _ => exact any_parked_map_wakeOn _ _
  | wakeGivers _ => exact kept (back (Woken.map_wakeOn _ _) (by simp))

/-- Only the last step of `close` reports that it returned. -/
theorem Step.closed_event {t : Nat} (h : Step s (.closed t) s') :
    s.threads[t]? = some .wakingGivers ∧ s'.queue = s.queue ∧
      s'.threads = (s.threads.set t .idle).map (Phase.wakeOn .notFull) := by
  cases h with
  | wakeGivers ht => exact ⟨ht, rfl, rfl⟩

theorem Step.returned {tr : List (Event α)} (h : Step s e s')
    (hflag : Phase.wakingTakers ∈ s.threads ∨ Phase.wakingGivers ∈ s.threads →
      s.queue.closed = true)
    (hawake : Phase.wakingGivers ∈ s.threads → s.parkedOn .notEmpty = false)
    (hi : (∃ t, Event.closed t ∈ tr) → s.queue.closed = true ∧ ∀ w, s.parkedOn w = false) :
    (∃ t, Event.closed t ∈ tr ++ [e]) → s'.queue.closed = true ∧ ∀ w, s'.parkedOn w = false := by
  rintro ⟨t, ht⟩
  rcases List.mem_append.1 ht with ht | ht
  · obtain ⟨hc, hnone⟩ := hi ⟨t, ht⟩
    refine ⟨h.closed_of_closed hc, fun w => ?_⟩
    cases hp : s'.parkedOn w
    · rfl
    · have := h.parkedOn_of_closed hc hp
      rw [hnone w] at this
      cases this
  · rw [List.mem_singleton] at ht
    subst ht
    obtain ⟨hg, hq, hts⟩ := h.closed_event
    have hg' := List.mem_of_getElem? hg
    refine ⟨hq ▸ hflag (.inr hg'), fun w => ?_⟩
    cases w with
    | notFull =>
      simp only [parkedOn, hts]
      exact any_parked_map_wakeOn _ _
    | notEmpty =>
      cases hp : s'.parkedOn .notEmpty
      · rfl
      · have hset := (Woken.map_wakeOn _ _).any_parked (by rw [← hts]; exact hp)
        have hbefore : s.parkedOn .notEmpty = true := any_of_any_set hset rfl
        rw [hawake hg'] at hbefore
        cases hbefore

end Close

theorem CloseInv.step {tr : List (Event α)} {s s' : QueueMonitor α} {e : Event α}
    (hi : CloseInv tr s) (h : Step s e s') : CloseInv (tr ++ [e]) s' :=
  ⟨h.flag hi.flag, h.takersAwake hi.flag hi.takersAwake,
    h.returned hi.flag hi.takersAwake hi.returned⟩

theorem WakeInv.run {cap width n : Nat} {q : BoundedQueue α}
    (hq : BoundedQueue.new? cap width = .ok q) {tr : List (Event α)} {s : QueueMonitor α}
    (hr : Run (init q n) tr s) : WakeInv s := by
  induction hr with
  | nil =>
    have hnone : ∀ w, (List.replicate n (Phase.idle : Phase α)).any (·.isParkedOn w) = false := by
      intro w
      simp [Phase.isParkedOn]
    exact ⟨fun _ hp => absurd hp (by simp [QueueMonitor.init, hnone]),
      fun _ _ hp => absurd hp (by simp [QueueMonitor.init, hnone])⟩
  | snoc hr h ih =>
    have hf := FifoInv.run hq hr
    exact ih.step h (by rw [hf.capacity]; exact hf.size_le)

theorem CloseInv.run {q : BoundedQueue α} {n : Nat} {tr : List (Event α)} {s : QueueMonitor α}
    (hr : Run (init q n) tr s) : CloseInv tr s := by
  induction hr with
  | nil => exact ⟨fun h => by simp [QueueMonitor.init] at h, fun h => by simp [QueueMonitor.init] at h,
      fun ⟨_, h⟩ => by simp at h⟩
  | snoc _ h ih => exact ih.step h

/-- In every run of the monitor from a queue made by `new?`, however the threads interleave,
barge in and wake spuriously: while the queue holds an item, a parked taker has a woken taker
that has yet to check; while the open queue has room, a parked giver has such a giver; once
`close` has returned nobody is parked; and once the flag is set nobody parks. -/
theorem no_lost_wakeup {cap width n : Nat} {q : BoundedQueue α}
    (hq : BoundedQueue.new? cap width = .ok q) {tr : List (Event α)} {s : QueueMonitor α}
    (hr : Run (init q n) tr s) :
    (s.queue.items ≠ [] → s.parkedOn .notEmpty = true → s.wokenOn .notEmpty = true) ∧
    (s.queue.closed = false → s.queue.size < cap → s.parkedOn .notFull = true →
      s.wokenOn .notFull = true) ∧
    ((∃ t, Event.closed t ∈ tr) → ∀ w, s.parkedOn w = false) ∧
    (s.queue.closed = true → ∀ (e : Event α) (s' : QueueMonitor α) (i : Nat) (c : Call α),
      Step s e s' → s'.threads[i]? = some (.parked c) → s.threads[i]? = some (.parked c)) := by
  have hw := WakeInv.run hq hr
  have hf := FifoInv.run hq hr
  refine ⟨hw.takers, fun ho hlt => hw.givers ho (by rw [hf.capacity]; exact hlt),
    fun hret => ((CloseInv.run hr).returned hret).2, ?_⟩
  intro hc e s' i c h hi
  exact h.parked_of_closed hc hi

/-- A taker parks on the empty queue; `close` sets the flag, wakes it with the other takers and
returns. -/
theorem close_run : Run (init (⟨[], 1, false⟩ : BoundedQueue Nat) 2)
    [.silent, .silent, .silent, .shut 1, .silent, .closed 1]
    ⟨⟨[], 1, true⟩, [.woken .dequeue, .idle]⟩ := by
  have h1 : Step (init (⟨[], 1, false⟩ : BoundedQueue Nat) 2) .silent
      ⟨⟨[], 1, false⟩, [.entering .dequeue, .idle]⟩ := .call (t := 0) .dequeue rfl
  have h2 : Step (⟨⟨[], 1, false⟩, [.entering .dequeue, .idle]⟩ : QueueMonitor Nat) .silent
      ⟨⟨[], 1, false⟩, [.parked .dequeue, .idle]⟩ :=
    .park (t := 0) (p := .entering .dequeue) rfl rfl rfl
  have h3 : Step (⟨⟨[], 1, false⟩, [.parked .dequeue, .idle]⟩ : QueueMonitor Nat) .silent
      ⟨⟨[], 1, false⟩, [.parked .dequeue, .closing]⟩ := .callClose (t := 1) rfl
  have h4 : Step (⟨⟨[], 1, false⟩, [.parked .dequeue, .closing]⟩ : QueueMonitor Nat) (.shut 1)
      ⟨⟨[], 1, true⟩, [.parked .dequeue, .wakingTakers]⟩ := .shut (t := 1) rfl
  have h5 : Step (⟨⟨[], 1, true⟩, [.parked .dequeue, .wakingTakers]⟩ : QueueMonitor Nat) .silent
      ⟨⟨[], 1, true⟩, [.woken .dequeue, .wakingGivers]⟩ := .wakeTakers (t := 1) rfl
  have h6 : Step (⟨⟨[], 1, true⟩, [.woken .dequeue, .wakingGivers]⟩ : QueueMonitor Nat) (.closed 1)
      ⟨⟨[], 1, true⟩, [.woken .dequeue, .idle]⟩ := .wakeGivers (t := 1) rfl
  exact .snoc (.snoc (.snoc (.snoc (.snoc (.snoc .nil h1) h2) h3) h4) h5) h6

theorem no_lost_wakeup_close :
    BoundedQueue.new? 1 8 = .ok (⟨[], 1, false⟩ : BoundedQueue Nat) ∧
    Run (init (⟨[], 1, false⟩ : BoundedQueue Nat) 2)
      [.silent, .silent, .silent, .shut 1, .silent, .closed 1]
      ⟨⟨[], 1, true⟩, [.woken .dequeue, .idle]⟩ ∧
    ((([] : List Nat) ≠ [] → (⟨⟨[], 1, true⟩, [.woken .dequeue, .idle]⟩ : QueueMonitor Nat).parkedOn
        .notEmpty = true →
      (⟨⟨[], 1, true⟩, [.woken .dequeue, .idle]⟩ : QueueMonitor Nat).wokenOn .notEmpty = true) ∧
    (true = false → (⟨[], 1, true⟩ : BoundedQueue Nat).size < 1 →
      (⟨⟨[], 1, true⟩, [.woken .dequeue, .idle]⟩ : QueueMonitor Nat).parkedOn .notFull = true →
      (⟨⟨[], 1, true⟩, [.woken .dequeue, .idle]⟩ : QueueMonitor Nat).wokenOn .notFull = true) ∧
    ((∃ t, Event.closed t ∈ ([.silent, .silent, .silent, .shut 1, .silent, .closed 1] :
        List (Event Nat))) →
      ∀ w, (⟨⟨[], 1, true⟩, [.woken .dequeue, .idle]⟩ : QueueMonitor Nat).parkedOn w = false) ∧
    (true = true → ∀ (e : Event Nat) (s' : QueueMonitor Nat) (i : Nat) (c : Call Nat),
      Step ⟨⟨[], 1, true⟩, [.woken .dequeue, .idle]⟩ e s' →
      s'.threads[i]? = some (.parked c) →
        ([.woken .dequeue, .idle] : List (Phase Nat))[i]? = some (.parked c))) :=
  ⟨rfl, close_run,
    no_lost_wakeup (rfl : BoundedQueue.new? 1 8 = .ok ⟨[], 1, false⟩) close_run⟩

end QueueMonitor

end PoolServer
