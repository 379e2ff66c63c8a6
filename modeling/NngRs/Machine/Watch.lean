/-
**Watching a machine: history variables and assumptions on its environment.**

A watcher keeps a state of its own beside a machine. It sees every transition of the machine and may
refuse it, which is how an assumption on the environment or a rule on the caller is stated, and it
may take steps of its own that leave the machine alone. It shows its own events.

* `EventMachine.watched` — the machine together with its watcher; `observe` is the usual reaction,
  event by event.
* `Reachable.unwatched` — dropping the watcher from a reachable state leaves a reachable state of the
  machine, so every invariant of the machine holds under every watcher.
* `Run.watched_invariant` — the invariant rule of a watched machine, with an invariant of the machine
  itself at hand before and after each of its steps.
-/

import NngRs.Machine.Run

namespace EventMachine

section Watching

variable {σ α ε γ β δ : Type}

/-- A watcher with state `γ`, own actions `β` and events `δ`. -/
structure Watcher (σ α ε γ β δ : Type) where
  start : γ
  /-- What the watcher does at a transition of the machine; `none` refuses the transition. -/
  react : γ → Transition σ α ε → Option (γ × List δ)
  /-- The watcher's own steps. -/
  own : σ → γ → β → Option (γ × List δ)

/-- Watch the events of a step one by one. -/
def observe (see : γ → ε → Option (γ × List δ)) (g : γ) : List ε → Option (γ × List δ)
  | [] => some (g, [])
  | event :: rest =>
    match see g event with
    | none => none
    | some (g', shown) => (observe see g' rest).map fun r => (r.1, shown ++ r.2)

@[simp] theorem observe_singleton (see : γ → ε → Option (γ × List δ)) (g : γ) (event : ε) :
    observe see g [event] = see g event := by
  unfold observe
  cases seen : see g event with
  | none => rfl
  | some answer => exact congrArg some (Prod.ext rfl (List.append_nil _))

/-- The step of a watched machine: one of the machine's that the watcher lets pass, or one of the
watcher's own. -/
def watchedStep (M : EventMachine σ α ε) (W : Watcher σ α ε γ β δ) (s : σ × γ) :
    α ⊕ β → Option ((σ × γ) × List δ)
  | .inl a =>
    match M.step s.1 a with
    | none => none
    | some (s', out) => (W.react s.2 ⟨s.1, a, s', out⟩).map fun r => ((s', r.1), r.2)
  | .inr b => (W.own s.1 s.2 b).map fun r => ((s.1, r.1), r.2)

/-- A machine together with a watcher. -/
def watched (M : EventMachine σ α ε) (W : Watcher σ α ε γ β δ) :
    EventMachine (σ × γ) (α ⊕ β) δ where
  start := (M.start, W.start)
  step := M.watchedStep W

variable {M : EventMachine σ α ε} {W : Watcher σ α ε γ β δ}

theorem watched_inl {s t : σ × γ} {a : α} {shown : List δ}
    (stepped : (M.watched W).step s (.inl a) = some (t, shown)) :
    ∃ out, M.step s.1 a = some (t.1, out) ∧
      W.react s.2 ⟨s.1, a, t.1, out⟩ = some (t.2, shown) := by
  simp only [watched, watchedStep] at stepped
  cases moved : M.step s.1 a with
  | none => rw [moved] at stepped; cases stepped
  | some outcome =>
    rw [moved] at stepped
    obtain ⟨answer, reacted, same⟩ := Option.map_eq_some_iff.mp stepped
    cases same
    exact ⟨outcome.2, rfl, reacted⟩

theorem watched_inr {s t : σ × γ} {b : β} {shown : List δ}
    (stepped : (M.watched W).step s (.inr b) = some (t, shown)) :
    t.1 = s.1 ∧ W.own s.1 s.2 b = some (t.2, shown) := by
  obtain ⟨answer, taken, same⟩ := Option.map_eq_some_iff.mp stepped
  cases same
  exact ⟨rfl, taken⟩

/-- **A watched machine only reaches states the machine reaches.** -/
theorem Reachable.unwatched {s : σ × γ} (reached : (M.watched W).Reachable s) :
    M.Reachable s.1 := by
  refine reached.invariant (I := fun state => M.Reachable state.1) .start ?_
  rintro s (a | b) s' out reached stepped
  · obtain ⟨_, moved, _⟩ := watched_inl stepped
    exact reached.step moved
  · rw [(watched_inr stepped).1]
    exact reached

/-- **The invariant rule of a watched machine**, over runs whose steps all meet a condition. -/
theorem Run.watched_invariant {Base : σ → Prop} (base : ∀ s, M.Reachable s → Base s)
    (Meets : Transition (σ × γ) (α ⊕ β) δ → Prop) {I : List δ → σ × γ → Prop}
    (init : I [] (M.start, W.start))
    (moved : ∀ history s g a s' out g' shown, Base s → Base s' → I history (s, g) →
      M.step s a = some (s', out) → W.react g ⟨s, a, s', out⟩ = some (g', shown) →
      Meets ⟨(s, g), .inl a, (s', g'), shown⟩ → I (history ++ shown) (s', g'))
    (owned : ∀ history s g b g' shown, Base s → I history (s, g) →
      W.own s g b = some (g', shown) → Meets ⟨(s, g), .inr b, (s, g'), shown⟩ →
      I (history ++ shown) (s, g'))
    {trace : List (Transition (σ × γ) (α ⊕ β) δ)} {s : σ × γ} (run : (M.watched W).Run trace s)
    (meets : ∀ t ∈ trace, Meets t) : I (events trace) s := by
  suffices both : M.Reachable s.1 ∧ I (events trace) s from both.2
  refine run.invariant_of Meets (I := fun history state => M.Reachable state.1 ∧ I history state)
    ⟨.start, init⟩ ?_ meets
  rintro history ⟨s, g⟩ (a | b) ⟨s', g'⟩ shown ⟨reached, holds⟩ stepped met
  · obtain ⟨out, went, reacted⟩ := watched_inl stepped
    have reached' := reached.step went
    exact ⟨reached', moved _ _ _ _ _ _ _ _ (base _ reached) (base _ reached') holds went reacted met⟩
  · obtain ⟨same, taken⟩ := watched_inr stepped
    cases same
    exact ⟨reached, owned _ _ _ _ _ _ (base _ reached) holds taken met⟩

end Watching

end EventMachine
