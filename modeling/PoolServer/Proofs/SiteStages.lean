import Mathlib
import PoolServer.Site.Monitor
import PoolServer.Proofs.LogCalls
import PoolServer.Proofs.StampedAnswer
/-!
# What a worker's stage says

The steps of the log along a run of the workers are a run of the log monitor (`log_run`), so
everything proved of the log holds of them. Each worker's stage says where its thread stands in
the log, and what it knows (`Stage.Fits`): a worker between log calls is outside any call, a
dumping or appending worker is in the call its stage names, a worker about to write a logged
response finds its record in the log, and a worker about to write a dump got the dump's bytes as
the reply of a `snapshot` after which it was not admitted to the log again. A step keeps what
every stage says (`SiteInv`): the record of a logged response is in the log by the time the
`append` call returns, and records are only ever added.
-/
namespace PoolServer

namespace SiteMonitor

/-! ### The log's steps -/

/-- The steps of the log along a run of the workers. -/
def logTrace (tr : List Event) : List LogMonitor.Event := tr.filterMap Event.log?

section Trace

variable {tr : List Event} {e : Event}

@[simp] theorem logTrace_snoc : logTrace (tr ++ [e]) = logTrace tr ++ e.log?.toList := by
  cases h : e.log? <;> simp [logTrace, h]

variable (tr) in
/-- The log's steps up to a point of a run are a prefix of those up to any later point. -/
theorem logTrace_take_prefix_take {i j : Nat} (h : i ≤ j) :
    logTrace (tr.take i) <+: logTrace (tr.take j) :=
  (List.take_prefix_take_left h).filterMap _

/-- A step of the log at position `j` of a run stands in the log's trace after the log's steps
before `j`. -/
theorem logTrace_getElem? {j : Nat} {le : LogMonitor.Event} (h : tr[j]? = some (.log le)) :
    (logTrace tr)[(logTrace (tr.take j)).length]? = some le := by
  obtain ⟨hlt, hj⟩ := List.getElem?_eq_some_iff.1 h
  have hsplit : logTrace tr = logTrace (tr.take j) ++ le :: logTrace (tr.drop (j + 1)) := by
    conv_lhs => rw [← List.take_append_drop j tr, List.drop_eq_getElem_cons hlt, hj]
    simp [logTrace, Event.log?]
  rw [hsplit, List.getElem?_append_right (Nat.le_refl _), Nat.sub_self, List.getElem?_cons_zero]

theorem take_logTrace (j : Nat) :
    (logTrace tr).take (logTrace (tr.take j)).length = logTrace (tr.take j) := by
  have hsplit : logTrace tr = logTrace (tr.take j) ++ logTrace (tr.drop j) := by
    rw [logTrace, logTrace, logTrace, ← List.filterMap_append, List.take_append_drop]
  rw [hsplit, List.take_left]

/-- A step of the log's trace comes from a step of the run with as many of the log's steps
before it. -/
theorem exists_of_logTrace_getElem? {m' : Nat} {le : LogMonitor.Event}
    (h : (logTrace tr)[m']? = some le) :
    ∃ m, tr[m]? = some (.log le) ∧ (logTrace (tr.take m)).length = m' := by
  induction tr generalizing m' with
  | nil => simp [logTrace] at h
  | cons e tr ih =>
    cases he : e.log? with
    | none =>
      rw [logTrace, List.filterMap_cons, he] at h
      obtain ⟨m, hm, hlen⟩ := ih h
      exact ⟨m + 1, hm, by simpa [logTrace, he] using hlen⟩
    | some le₀ =>
      rw [logTrace, List.filterMap_cons, he] at h
      cases m' with
      | zero =>
        cases e <;> simp [Event.log?] at he
        subst he
        simp only [List.getElem?_cons_zero, Option.some.injEq] at h
        exact ⟨0, by simp [h], by simp [logTrace]⟩
      | succ m' =>
        obtain ⟨m, hm, hlen⟩ := ih h
        exact ⟨m + 1, hm, by simp [logTrace, he, ← hlen]⟩

/-- A step of the log at `j` is counted in the log's steps before any later point. -/
theorem length_logTrace_take_lt {j m : Nat} {le : LogMonitor.Event} (h : tr[j]? = some (.log le))
    (hjm : j < m) : (logTrace (tr.take j)).length < (logTrace (tr.take m)).length := by
  have hpre := (logTrace_take_prefix_take tr (Nat.succ_le_of_lt hjm)).length_le
  obtain ⟨hlt, hj⟩ := List.getElem?_eq_some_iff.1 h
  have hsucc : logTrace (tr.take (j + 1)) = logTrace (tr.take j) ++ [le] := by
    rw [List.take_add_one, List.getElem?_eq_getElem hlt, hj]
    simp [logTrace, Event.log?]
  rw [hsucc, List.length_append] at hpre
  simp at hpre
  omega

variable (tr) in
theorem length_logTrace_take_le {i j : Nat} (h : i ≤ j) :
    (logTrace (tr.take i)).length ≤ (logTrace (tr.take j)).length :=
  (logTrace_take_prefix_take tr h).length_le

end Trace

variable {site : Site} {s s' : SiteMonitor} {e : Event}

/-- Every step of the workers is a run of the log through the log's step it shows, if any. -/
theorem Step.log_steps (h : Step site s e s') :
    Steps LogMonitor.Step s.log e.log?.toList s'.log := by
  cases h with
  | record _ _ _ h => exact .single h
  | unrecorded _ _ _ h => exact .single h
  | dump _ h => exact .single h
  | inside h _ => exact .single h
  | dumped _ h => exact .single h
  | appended _ h => exact .single h
  | _ => exact .nil

/-- The log's steps along a run of the workers are a run of the log. -/
theorem log_run {n : Nat} {tr : List Event} (hr : Steps (Step site) (init n) tr s) :
    Steps LogMonitor.Step (LogMonitor.init n) (logTrace tr) s.log := by
  have h := Steps.map SiteMonitor.log (fun e => e.log?.toList) (fun h => Step.log_steps h) hr
  rwa [← List.filterMap_eq_flatMap_toList] at h

/-! ### Stages -/

/-- A task in the log's call `c`: called, admitted, or done with it. -/
def InCall (c : LogMonitor.Call) : LogMonitor.Task → Prop
  | .calling c' => c' = c
  | .inside c' => c' = c
  | .done c' _ => c' = c
  | .idle => False

/-- What the stage of worker `w` says about its thread in the log `l`, the log's records and the
run `tr` so far. -/
def Stage.Fits (tr : List Event) (l : LogMonitor) (w : Nat) : Stage → Prop
  | .idle => l.tasks[w]? = some .idle
  | .planned _ _ => l.tasks[w]? = some .idle
  | .dumping _ => ∃ k, l.tasks[w]? = some k ∧ InCall .snapshot k
  | .appending k st resp => Site.logged k resp.status = true ∧
      ∃ t, l.tasks[w]? = some t ∧ InCall (.append (Utf8.encode st.record)) t
  | .sending k st resp => l.tasks[w]? = some .idle ∧
      (Site.logged k resp.status = true → Utf8.encode st.record ∈ l.journal.records) ∧
      (k = .post → ∃ (p : Nat) (b : Bytes),
        tr[p]? = some (.log (.replied w .snapshot (.bytes b))) ∧ resp.body = .framed b ∧
        ∀ (m : Nat) (c : LogMonitor.Call), p < m → tr[m]? ≠ some (.log (.entered w c)))

/-- Every worker's stage fits the log and the run. -/
def SiteInv (tr : List Event) (s : SiteMonitor) : Prop :=
  ∀ (w : Nat) (x : Exchange) (st : Stage), s.workers[w]? = some ⟨x, st⟩ → st.Fits tr s.log w

section Fits

variable {tr : List Event} {l l' : LogMonitor} {w : Nat}

/-- An idle thread stays idle through any step but its own call. -/
theorem idle_step {le : LogMonitor.Event} (h : LogMonitor.Step l le l')
    (hw : l.tasks[w]? = some .idle) (hc : ∀ c, le ≠ .called w c) :
    l'.tasks[w]? = some .idle := by
  rcases h.task_cases w with
    h' | ⟨c, rfl, -⟩ | ⟨c, -, hu, -⟩ | ⟨c, -, hu, -⟩ | ⟨c, r, -, hu, -⟩
  · rw [h', hw]
  · exact absurd rfl (hc c)
  all_goals
    rw [hw] at hu
    cases hu

/-- A thread in a call stays in it through any step but its reply. -/
theorem inCall_step {le : LogMonitor.Event} {c : LogMonitor.Call} {k : LogMonitor.Task}
    (h : LogMonitor.Step l le l') (hw : l.tasks[w]? = some k) (hk : InCall c k)
    (hr : ∀ c r, le ≠ .replied w c r) :
    ∃ k₁, l'.tasks[w]? = some k₁ ∧ InCall c k₁ := by
  rcases h.task_cases w with
    h' | ⟨c₁, -, hu, -⟩ | ⟨c₁, -, hu, h'⟩ | ⟨c₁, -, hu, h'⟩ | ⟨c₁, r, rfl, -, -⟩
  · exact ⟨k, h'.trans hw, hk⟩
  · rw [hw] at hu
    cases hu
    cases hk
  · rw [hw] at hu
    cases hu
    exact ⟨_, h', hk⟩
  · rw [hw] at hu
    cases hu
    exact ⟨_, h', hk⟩
  · exact absurd rfl (hr c₁ r)

/-- An idle thread is not admitted. -/
theorem not_entered_of_idle {le : LogMonitor.Event} (h : LogMonitor.Step l le l')
    (hw : l.tasks[w]? = some .idle) (c : LogMonitor.Call) : le ≠ .entered w c := by
  rintro rfl
  cases h with
  | enter ht _ =>
    rw [hw] at ht
    cases ht

/-- A run that grows by a step other than an admission of thread `w` keeps a reply to `w` with
no admission of `w` after it. -/
theorem lastReply_snoc {p : Nat} {c₀ : LogMonitor.Call} {r : LogMonitor.Reply}
    (hp : tr[p]? = some (.log (.replied w c₀ r)))
    (hquiet : ∀ (m : Nat) (c : LogMonitor.Call), p < m → tr[m]? ≠ some (.log (.entered w c)))
    (he : ∀ c, e ≠ .log (.entered w c)) :
    (tr ++ [e])[p]? = some (.log (.replied w c₀ r)) ∧
    ∀ (m : Nat) (c : LogMonitor.Call), p < m → (tr ++ [e])[m]? ≠ some (.log (.entered w c)) := by
  refine ⟨List.getElem?_append_left (List.getElem?_eq_some_iff.1 hp).1 ▸ hp, fun m c hm => ?_⟩
  rcases Nat.lt_or_ge m tr.length with hlt | hge
  · rw [List.getElem?_append_left hlt]
    exact hquiet m c hm
  · rcases Nat.eq_or_lt_of_le hge with rfl | hgt
    · simpa using he c
    · rw [List.getElem?_eq_none (by simp; omega)]
      exact (Option.some_ne_none _).symm

/-- A stage still fits after a step of the log that is neither the worker's call nor its reply. -/
theorem Stage.Fits.log_step {st : Stage} {le : LogMonitor.Event} (hf : st.Fits tr l w)
    (h : LogMonitor.Step l le l') (hc : ∀ c, le ≠ .called w c)
    (hr : ∀ c r, le ≠ .replied w c r) : st.Fits (tr ++ [.log le]) l' w := by
  cases st with
  | idle =>
    simp only [Stage.Fits] at hf ⊢
    exact idle_step h hf hc
  | planned _ _ =>
    simp only [Stage.Fits] at hf ⊢
    exact idle_step h hf hc
  | dumping _ =>
    obtain ⟨k, hk, hin⟩ := hf
    exact inCall_step h hk hin hr
  | appending _ _ _ =>
    obtain ⟨hl, t, ht, hin⟩ := hf
    exact ⟨hl, inCall_step h ht hin hr⟩
  | sending k st resp =>
    obtain ⟨hidle, hserved, hdump⟩ := hf
    refine ⟨idle_step h hidle hc, fun hl => h.records_prefix.subset (hserved hl), fun hk => ?_⟩
    obtain ⟨p, b, hp, hb, hquiet⟩ := hdump hk
    obtain ⟨hp', hquiet'⟩ :=
      lastReply_snoc hp hquiet fun c he => not_entered_of_idle h hidle c (Event.log.inj he)
    exact ⟨p, b, hp', hb, hquiet'⟩

/-- A stage still fits after a step outside the log. -/
theorem Stage.Fits.quiet {st : Stage} (hf : st.Fits tr l w) (he : e.log? = none) :
    st.Fits (tr ++ [e]) l w := by
  cases st with
  | sending k st resp =>
    obtain ⟨hidle, hserved, hdump⟩ := hf
    refine ⟨hidle, hserved, fun hk => ?_⟩
    obtain ⟨p, b, hp, hb, hquiet⟩ := hdump hk
    obtain ⟨hp', hquiet'⟩ :=
      lastReply_snoc (e := e) hp hquiet fun c hc => by simp [hc, Event.log?] at he
    exact ⟨p, b, hp', hb, hquiet'⟩
  | idle => exact hf
  | planned _ _ => exact hf
  | dumping _ => exact hf
  | appending _ _ _ => exact hf

end Fits

/-! ### Every stage fits -/

section Inv

variable {tr : List Event} {w : Nat} {x₁ : Exchange} {st₁ : Stage}

theorem called_task {l l' : LogMonitor} {c : LogMonitor.Call}
    (h : LogMonitor.Step l (.called w c) l') : l'.tasks[w]? = some (.calling c) := by
  cases h with
  | call ht _ _ => exact List.getElem?_set_self (List.getElem?_eq_some_iff.1 ht).1

theorem replied_idle {l l' : LogMonitor} {c : LogMonitor.Call} {r : LogMonitor.Reply}
    (h : LogMonitor.Step l (.replied w c r) l') : l'.tasks[w]? = some .idle := by
  cases h with
  | leave ht _ => exact List.getElem?_set_self (List.getElem?_eq_some_iff.1 ht).1

/-- Moving one worker to a stage that fits, by a step that keeps every other stage fitting. -/
theorem SiteInv.set {wk : Worker} {s₁ : SiteMonitor} (hw : s.workers[w]? = some wk)
    (hs : s₁.workers = s.workers.set w ⟨x₁, st₁⟩) (hfit : st₁.Fits (tr ++ [e]) s₁.log w)
    (hothers : ∀ v x st, v ≠ w → s.workers[v]? = some ⟨x, st⟩ →
      st.Fits (tr ++ [e]) s₁.log v) :
    SiteInv (tr ++ [e]) s₁ := by
  intro v x st hv
  rw [hs] at hv
  by_cases hwv : w = v
  · subst hwv
    rw [List.getElem?_set_self (List.getElem?_eq_some_iff.1 hw).1] at hv
    cases hv
    exact hfit
  · rw [List.getElem?_set_ne hwv] at hv
    exact hothers v x st (Ne.symm hwv) hv

theorem SiteInv.step (hi : SiteInv tr s) (hd : LogMonitor.DoneInv s.log)
    (h : Step site s e s') : SiteInv (tr ++ [e]) s' := by
  have hquiet : ∀ {w : Nat}, e.log? = none → ∀ (v : Nat) (x : Exchange) (st : Stage), v ≠ w →
      s.workers[v]? = some ⟨x, st⟩ → st.Fits (tr ++ [e]) s.log v :=
    fun he v x st _ hv => (hi v x st hv).quiet he
  have hcall : ∀ {w : Nat} {c : LogMonitor.Call} {l : LogMonitor},
      LogMonitor.Step s.log (.called w c) l →
      ∀ (v : Nat) (x : Exchange) (st : Stage), v ≠ w → s.workers[v]? = some ⟨x, st⟩ →
        st.Fits (tr ++ [.log (.called w c)]) l v :=
    fun h v x st hvw hv => (hi v x st hv).log_step h
      (fun _ he => hvw (LogMonitor.Event.called.inj he).1.symm) (fun _ _ he => by cases he)
  have hreply : ∀ {w : Nat} {c : LogMonitor.Call} {r : LogMonitor.Reply} {l : LogMonitor},
      LogMonitor.Step s.log (.replied w c r) l →
      ∀ (v : Nat) (x : Exchange) (st : Stage), v ≠ w → s.workers[v]? = some ⟨x, st⟩ →
        st.Fits (tr ++ [.log (.replied w c r)]) l v :=
    fun h v x st hvw hv => (hi v x st hv).log_step h (fun _ he => by cases he)
      (fun _ _ he => hvw (LogMonitor.Event.replied.inj he).1.symm)
  cases h with
  | unread _ _ hw _ =>
    exact SiteInv.set hw rfl (hi _ _ _ hw) (hquiet rfl)
  | plan _ _ _ _ hw _ =>
    exact SiteInv.set hw rfl (hi _ _ _ hw) (hquiet rfl)
  | execute hw hp hl =>
    refine SiteInv.set hw rfl
      ⟨hi _ _ _ hw, fun hl' => absurd (hl.symm.trans hl') Bool.false_ne_true,
        fun hk => absurd (Plan.kind_eq_post.1 hk) hp⟩ (hquiet rfl)
  | record hw _ hl h =>
    exact SiteInv.set hw rfl ⟨hl, _, called_task h, rfl⟩ (hcall h)
  | unrecorded _ _ _ h =>
    obtain ⟨hc, -, -⟩ := h.refused_inv
    exact absurd (Utf8.encode_eq_nil.1 (LogMonitor.Call.append.inj hc)) (Stamp.record_ne_empty _)
  | dump hw h =>
    exact SiteInv.set hw rfl ⟨_, called_task h, rfl⟩ (hcall h)
  | inside h he =>
    intro v x st hv
    refine (hi v x st hv).log_step h (fun c hc => ?_) (fun c r hr => ?_)
    · rcases he with ⟨_, rfl⟩ | ⟨_, _, rfl⟩ | ⟨_, _, rfl⟩ <;> cases hc
    · rcases he with ⟨_, rfl⟩ | ⟨_, _, rfl⟩ | ⟨_, _, rfl⟩ <;> cases hr
  | @dumped _ _ _ b _ hw h =>
    refine SiteInv.set hw rfl ⟨replied_idle h, fun hl => by simp [Site.logged] at hl,
      fun _ => ⟨tr.length, b, by simp, by simp, fun m c hm => ?_⟩⟩ (hreply h)
    rw [List.getElem?_eq_none (by simp; omega)]
    exact (Option.some_ne_none _).symm
  | @appended _ _ _ st _ d r _ hw h =>
    obtain ⟨hl, t, ht, hin⟩ := hi _ _ _ hw
    have hdone : t = .done (.append d) r := Option.some.inj (ht.symm.trans h.replied_task)
    subst hdone
    have hd' : d = Utf8.encode st.record := by simpa [InCall] using hin
    have hmem : Utf8.encode st.record ∈ s.log.journal.records := hd' ▸ hd _ _ _ ht
    refine SiteInv.set hw rfl ⟨replied_idle h, fun _ => h.records_prefix.subset hmem,
      fun hk => ?_⟩ (hreply h)
    subst hk
    simp [Site.logged] at hl
  | send hw _ =>
    exact SiteInv.set hw rfl (hi _ _ _ hw).1 (hquiet rfl)
  | unsent hw _ =>
    exact SiteInv.set hw rfl (hi _ _ _ hw).1 (hquiet rfl)

theorem SiteInv.initial (n : Nat) : SiteInv [] (init n) := by
  intro w x st hw
  obtain ⟨a, ha, hx⟩ :=
    Option.map_eq_some_iff.1 (by simpa only [init, List.getElem?_map] using hw)
  cases hx
  have hlt : w < n := by simpa using (List.getElem?_eq_some_iff.1 ha).1
  simp [Stage.Fits, init, LogMonitor.init, hlt]

/-- Along every run, every worker's stage fits the log and the run. -/
theorem SiteInv.run {n : Nat} {tr : List Event} (hr : Steps (Step site) (init n) tr s) :
    SiteInv tr s := by
  induction hr with
  | nil => exact SiteInv.initial n
  | snoc h₀ h ih => exact ih.step (LogMonitor.DoneInv.run (log_run h₀)) h

end Inv

end SiteMonitor

end PoolServer
