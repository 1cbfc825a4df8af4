/-!
# Runs of a step relation

The concurrent parts of the server are modelled as step relations: each step moves one thread
through one stretch of its code, and shows outside what it returns, if anything, as an event. A
run is a sequence of steps from a start state, and its events, oldest first, form its trace.

This module gives the runs of any labelled step relation and what every model uses about them: a
run splits at any point of its trace, the state just before any event of the trace is reached by
the part of the trace before that event, and a run of a system built around a component projects
to a run of the component when every step of the system is a step of the component or leaves it
alone.
-/
namespace PoolServer

/-- The runs of a step relation: the events along the way, oldest first, and the state reached. -/
inductive Steps {σ ε : Type} (step : σ → ε → σ → Prop) : σ → List ε → σ → Prop
  | nil {s : σ} : Steps step s [] s
  | snoc {s s' s'' : σ} {tr : List ε} {e : ε} :
      Steps step s tr s' → step s' e s'' → Steps step s (tr ++ [e]) s''

namespace Steps

variable {σ ε : Type} {step : σ → ε → σ → Prop}

theorem nil_inv {s s' : σ} (h : Steps step s [] s') : s = s' := by
  generalize htr : ([] : List ε) = tr at h
  cases h with
  | nil => rfl
  | snoc => simp at htr

theorem snoc_inv {s s'' : σ} {tr : List ε} {e : ε} (h : Steps step s (tr ++ [e]) s'') :
    ∃ s', Steps step s tr s' ∧ step s' e s'' := by
  generalize htr : tr ++ [e] = tr' at h
  cases h with
  | nil => simp at htr
  | snoc h' hs =>
    obtain ⟨rfl, he⟩ := List.append_inj' htr rfl
    cases he
    exact ⟨_, h', hs⟩

theorem single {s s' : σ} {e : ε} (h : step s e s') : Steps step s [e] s' := by
  have h₁ : Steps step s ([] ++ [e]) s' := .snoc .nil h
  simpa using h₁

theorem append {s m s' : σ} {tr₁ tr₂ : List ε} (h₁ : Steps step s tr₁ m)
    (h₂ : Steps step m tr₂ s') : Steps step s (tr₁ ++ tr₂) s' := by
  induction h₂ with
  | nil => simpa using h₁
  | snoc _ h ih =>
    rw [← List.append_assoc]
    exact .snoc ih h

/-- A run splits at any point of its trace. -/
theorem split {s s' : σ} {tr₁ tr₂ : List ε} (h : Steps step s (tr₁ ++ tr₂) s') :
    ∃ m, Steps step s tr₁ m ∧ Steps step m tr₂ s' := by
  generalize htr : tr₁ ++ tr₂ = tr at h
  induction h generalizing tr₂ with
  | nil =>
    obtain ⟨rfl, rfl⟩ := List.append_eq_nil_iff.1 htr
    exact ⟨_, .nil, .nil⟩
  | snoc h₀ hs ih =>
    rcases List.eq_nil_or_concat tr₂ with rfl | ⟨tr₂, e, rfl⟩
    · rw [List.append_nil] at htr
      subst htr
      exact ⟨_, .snoc h₀ hs, .nil⟩
    · rw [List.concat_eq_append, ← List.append_assoc] at htr
      obtain ⟨hfirst, he⟩ := List.append_inj' htr rfl
      cases he
      obtain ⟨m, h₁, h₂⟩ := ih hfirst
      exact ⟨m, h₁, List.concat_eq_append ▸ .snoc h₂ hs⟩

/-- The event at position `i` of a run's trace is a step from a state that the first `i` events
reach. -/
theorem before {s s' : σ} {tr : List ε} {i : Nat} {e : ε} (h : Steps step s tr s')
    (hi : tr[i]? = some e) : ∃ m m', Steps step s (tr.take i) m ∧ step m e m' := by
  obtain ⟨hlt, rfl⟩ := List.getElem?_eq_some_iff.1 hi
  rw [← List.take_append_drop i tr, List.drop_eq_getElem_cons hlt] at h
  obtain ⟨m, hm, hrest⟩ := split h
  have hrest' : Steps step m ([tr[i]] ++ tr.drop (i + 1)) s' := hrest
  obtain ⟨m', hone, -⟩ := split hrest'
  have hone' : Steps step m ([] ++ [tr[i]]) m' := hone
  obtain ⟨m₀, h₀, hs⟩ := snoc_inv hone'
  rw [← nil_inv h₀] at hs
  exact ⟨m, m', hm, hs⟩

/-- A run of a system projects to a run of a component, when each step of the system is a run of
the component through the events the step shows to it. -/
theorem map {τ δ : Type} {step' : τ → δ → τ → Prop} (f : σ → τ) (g : ε → List δ)
    (hstep : ∀ {s e s'}, step s e s' → Steps step' (f s) (g e) (f s')) {s s' : σ} {tr : List ε}
    (h : Steps step s tr s') : Steps step' (f s) (tr.flatMap g) (f s') := by
  induction h with
  | nil => exact .nil
  | snoc _ hs ih =>
    rw [List.flatMap_append, List.flatMap_singleton]
    exact ih.append (hstep hs)

end Steps

end PoolServer
