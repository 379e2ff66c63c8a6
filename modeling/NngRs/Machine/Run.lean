/-
**Event machines and what holds along their runs.**

A machine is a start state and a partial step function; everything its environment decides is part
of the action, so one action from one state has at most one outcome. A step shows a list of events.

* `EventMachine.Run` — a run, kept as the list of its transitions; `Transition` remembers the state
  before and after a step, the action and the events it showed.
* `Run.invariant_of` — the invariant rule: what holds at the start of the empty history and is kept
  by every step that meets a condition holds of the history and the state of every run whose steps
  all meet it. `Run.invariant` and `Reachable.invariant` are its two special cases.
* `Run.before`, `Run.upTo`, `Run.split` — every transition of a run leaves a state that a shorter run
  reached.
* `Run.forall_iff` — a property of all steps of a run against a condition on all its steps: when
  every single step has the property exactly when it meets the condition, so has every run.
  `Run.forall_while_iff` is the same where only the condition keeps the states good.
* `Run.replay` — running a list of actions gives a run, so concrete runs are computed.
* `getElem?_set_cases`, `getElem?_concat_cases`, `forall_mem_set` — for states that hold a list of
  parties: what replacing one of them and adding one leaves.
-/

import Mathlib.Data.List.Basic

/-- A machine: an action is refused (`none`), or leads to one state and shows some events. -/
structure EventMachine (σ α ε : Type) where
  start : σ
  step : σ → α → Option (σ × List ε)

namespace EventMachine

/-- One step of a run. -/
structure Transition (σ α ε : Type) where
  pre : σ
  act : α
  post : σ
  out : List ε
deriving DecidableEq

section Runs

variable {σ α ε : Type}

/-- The events a list of transitions showed, oldest first. -/
def events (trace : List (Transition σ α ε)) : List ε := trace.flatMap Transition.out

@[simp] theorem events_nil : events ([] : List (Transition σ α ε)) = [] := rfl

@[simp] theorem events_append (first second : List (Transition σ α ε)) :
    events (first ++ second) = events first ++ events second := List.flatMap_append

@[simp] theorem events_singleton (t : Transition σ α ε) : events [t] = t.out := by
  simp [events]

theorem mem_events {trace : List (Transition σ α ε)} {event : ε} :
    event ∈ events trace ↔ ∃ t ∈ trace, event ∈ t.out := List.mem_flatMap

/-- The runs of a machine: their transitions, and the state they end in. -/
inductive Run (M : EventMachine σ α ε) : List (Transition σ α ε) → σ → Prop
  | nil : Run M [] M.start
  | snoc {trace : List (Transition σ α ε)} {s s' : σ} {a : α} {out : List ε} :
      Run M trace s → M.step s a = some (s', out) → Run M (trace ++ [⟨s, a, s', out⟩]) s'

/-- The states some run ends in. -/
def Reachable (M : EventMachine σ α ε) (s : σ) : Prop := ∃ trace, M.Run trace s

variable {M : EventMachine σ α ε}

theorem Reachable.start : M.Reachable M.start := ⟨[], .nil⟩

theorem Reachable.step {s s' : σ} {a : α} {out : List ε} (reached : M.Reachable s)
    (stepped : M.step s a = some (s', out)) : M.Reachable s' := by
  obtain ⟨trace, run⟩ := reached
  exact ⟨_, run.snoc stepped⟩

/-! ### The invariant rule -/

/-- **The invariant rule, over runs whose steps all meet a condition.** -/
theorem Run.invariant_of (Meets : Transition σ α ε → Prop) {I : List ε → σ → Prop}
    (init : I [] M.start)
    (kept : ∀ history s a s' out, I history s → M.step s a = some (s', out) →
      Meets ⟨s, a, s', out⟩ → I (history ++ out) s')
    {trace : List (Transition σ α ε)} {s : σ} (run : M.Run trace s)
    (meets : ∀ t ∈ trace, Meets t) : I (events trace) s := by
  induction run with
  | nil => exact init
  | snoc _ stepped ih =>
    have earlier := ih fun t member => meets t (List.mem_append_left _ member)
    have last := meets _ (List.mem_append_right _ (List.mem_singleton.mpr rfl))
    rw [events_append, events_singleton]
    exact kept _ _ _ _ _ earlier stepped last

/-- The invariant rule, over all runs. -/
theorem Run.invariant {I : List ε → σ → Prop} (init : I [] M.start)
    (kept : ∀ history s a s' out, I history s → M.step s a = some (s', out) →
      I (history ++ out) s')
    {trace : List (Transition σ α ε)} {s : σ} (run : M.Run trace s) : I (events trace) s :=
  run.invariant_of (fun _ => True) init
    (fun history s a s' out holds stepped _ => kept history s a s' out holds stepped)
    fun _ _ => trivial

/-- The invariant rule, for a property of the state alone. -/
theorem Reachable.invariant {I : σ → Prop} (init : I M.start)
    (kept : ∀ s a s' out, I s → M.step s a = some (s', out) → I s') {s : σ}
    (reached : M.Reachable s) : I s := by
  obtain ⟨trace, run⟩ := reached
  exact run.invariant (I := fun _ state => I state) init
    fun _ s a s' out holds stepped => kept s a s' out holds stepped

/-- A machine that starts elsewhere. -/
def startedAt (M : EventMachine σ α ε) (s : σ) : EventMachine σ α ε := { M with start := s }

/-- What is reached from a reachable state is reachable. -/
theorem Reachable.further {s s' : σ} (reached : M.Reachable s)
    (later : (M.startedAt s).Reachable s') : M.Reachable s' :=
  later.invariant reached fun _ _ _ _ reached stepped => reached.step stepped

/-! ### Looking at single steps of a run -/

/-- Every transition of a run starts where a shorter run ended, and is a step of the machine. -/
theorem Run.before {trace : List (Transition σ α ε)} {s : σ} (run : M.Run trace s) :
    ∀ t ∈ trace, M.Reachable t.pre ∧ M.step t.pre t.act = some (t.post, t.out) := by
  induction run with
  | nil => exact fun _ member => by cases member
  | snoc earlier stepped ih =>
    intro t member
    rcases List.mem_append.mp member with member | member
    · exact ih t member
    · cases List.mem_singleton.mp member
      exact ⟨⟨_, earlier⟩, stepped⟩

/-- The steps before a transition of a run are a run to the state it starts from. -/
theorem Run.upTo {steps : List (Transition σ α ε)} {s : σ} (run : M.Run steps s) {k : Nat}
    (bound : k < steps.length) : M.Run (steps.take k) steps[k].pre := by
  induction run with
  | nil => cases bound
  | @snoc early s s' a out earlier stepped ih =>
    by_cases inside : k < early.length
    · rw [List.take_append_of_le_length (Nat.le_of_lt inside)]
      simp only [List.getElem_append_left inside]
      exact ih inside
    · obtain rfl : k = early.length := by
        rw [List.length_append, List.length_singleton] at bound
        omega
      rw [List.take_left' rfl]
      simp only [List.getElem_concat_length]
      exact earlier

/-- A transition of a run, and the run before it. -/
theorem Run.split {before after : List (Transition σ α ε)} {t : Transition σ α ε} {s : σ}
    (run : M.Run (before ++ t :: after) s) :
    M.Run before t.pre ∧ M.step t.pre t.act = some (t.post, t.out) := by
  have bound : before.length < (before ++ t :: after).length := by
    rw [List.length_append, List.length_cons]
    omega
  have early := run.upTo bound
  simp only [List.take_left, List.getElem_append_right (Nat.le_refl _), Nat.sub_self,
    List.getElem_cons_zero] at early
  exact ⟨early, (run.before t (List.mem_append_right _ List.mem_cons_self)).2⟩

/-- **All steps of a run have a property exactly when they all meet a condition**, when each single
step does. The property of a step may rely on the invariant `I`, which every step keeps, and on a
property `Good` of the state that the steps before it left. -/
theorem Run.forall_iff {I Good : σ → Prop} {Meets : Transition σ α ε → Prop}
    {Fine : List ε → Prop} (init : I M.start) (goodInit : Good M.start)
    (kept : ∀ s a s' out, I s → M.step s a = some (s', out) → I s')
    (single : ∀ s a s' out, I s → Good s → M.step s a = some (s', out) →
      ((Good s' ∧ Fine out) ↔ Meets ⟨s, a, s', out⟩))
    {trace : List (Transition σ α ε)} {s : σ} (run : M.Run trace s) :
    (∀ t ∈ trace, Good t.post ∧ Fine t.out) ↔ ∀ t ∈ trace, Meets t := by
  have both : I s ∧ ((∀ t ∈ trace, Good t.post ∧ Fine t.out) → Good s) ∧
      ((∀ t ∈ trace, Good t.post ∧ Fine t.out) ↔ ∀ t ∈ trace, Meets t) := by
    induction run with
    | nil => exact ⟨init, fun _ => goodInit, by simp⟩
    | @snoc trace s s' a out _ stepped ih =>
      obtain ⟨holds, good, same⟩ := ih
      refine ⟨kept _ _ _ _ holds stepped, fun all => ?_, ?_⟩
      · exact (all _ (List.mem_append_right _ (List.mem_singleton.mpr rfl))).1
      · simp only [List.forall_mem_append, List.forall_mem_singleton]
        constructor
        · rintro ⟨early, late⟩
          exact ⟨same.mp early, (single _ _ _ _ holds (good early) stepped).mp late⟩
        · rintro ⟨early, late⟩
          have early := same.mpr early
          exact ⟨early, (single _ _ _ _ holds (good early) stepped).mpr late⟩
  exact both.2.2

/-- The same, for a property of the states alone. -/
theorem Run.forall_post_iff {I Good : σ → Prop} {Meets : Transition σ α ε → Prop}
    (init : I M.start) (goodInit : Good M.start)
    (kept : ∀ s a s' out, I s → M.step s a = some (s', out) → I s')
    (single : ∀ s a s' out, I s → Good s → M.step s a = some (s', out) →
      (Good s' ↔ Meets ⟨s, a, s', out⟩))
    {trace : List (Transition σ α ε)} {s : σ} (run : M.Run trace s) :
    (∀ t ∈ trace, Good t.post) ↔ ∀ t ∈ trace, Meets t := by
  have both := run.forall_iff init goodInit kept
    fun s a s' out holds good stepped =>
      (and_iff_left trivial).trans (single s a s' out holds good stepped)
  simpa only [and_true] using both

/-- **The steps of a run have a property exactly as long as they meet a condition**, when that holds of
each step from a good state, and a step that meets the condition leaves a good state. -/
theorem Run.forall_while_iff {Good : σ → Prop} {Fine Meets : Transition σ α ε → Prop}
    (init : Good M.start)
    (kept : ∀ s a s' out, Good s → M.step s a = some (s', out) → Meets ⟨s, a, s', out⟩ → Good s')
    (single : ∀ s a s' out, Good s → M.step s a = some (s', out) →
      (Fine ⟨s, a, s', out⟩ ↔ Meets ⟨s, a, s', out⟩))
    {trace : List (Transition σ α ε)} {s : σ} (run : M.Run trace s) :
    (∀ t ∈ trace, Fine t) ↔ ∀ t ∈ trace, Meets t := by
  suffices both : ((∀ t ∈ trace, Meets t) → Good s) ∧
      ((∀ t ∈ trace, Fine t) ↔ ∀ t ∈ trace, Meets t) from both.2
  induction run with
  | nil => exact ⟨fun _ => init, by simp⟩
  | snoc _ stepped ih =>
    obtain ⟨good, same⟩ := ih
    simp only [List.forall_mem_append, List.forall_mem_singleton]
    refine ⟨fun meets => kept _ _ _ _ (good meets.1) stepped meets.2, ?_⟩
    constructor
    · rintro ⟨early, late⟩
      have early := same.mp early
      exact ⟨early, (single _ _ _ _ (good early) stepped).mp late⟩
    · rintro ⟨early, late⟩
      exact ⟨same.mpr early, (single _ _ _ _ (good early) stepped).mpr late⟩

/-! ### Computing runs -/

/-- Run a list of actions from a state. -/
def replay (M : EventMachine σ α ε) (s : σ) : List α → Option (List (Transition σ α ε) × σ)
  | [] => some ([], s)
  | a :: rest =>
    match M.step s a with
    | none => none
    | some (s', out) =>
      (M.replay s' rest).map fun later => (⟨s, a, s', out⟩ :: later.1, later.2)

theorem Run.replay {actions : List α} :
    ∀ {trace later : List (Transition σ α ε)} {s s' : σ}, M.Run trace s →
      M.replay s actions = some (later, s') → M.Run (trace ++ later) s' := by
  induction actions with
  | nil =>
    intro trace later s s' run computed
    cases computed
    rw [List.append_nil]
    exact run
  | cons a rest ih =>
    intro trace later s s' run computed
    rw [EventMachine.replay] at computed
    cases stepped : M.step s a with
    | none => rw [stepped] at computed; cases computed
    | some outcome =>
      rw [stepped] at computed
      obtain ⟨tail, found, same⟩ := Option.map_eq_some_iff.mp computed
      cases same
      rw [List.append_cons]
      exact ih (run.snoc stepped) found

/-- A list of actions the machine accepts from its start gives a run. -/
theorem run_of_replay (actions : List α) {trace : List (Transition σ α ε)} {s : σ}
    (computed : M.replay M.start actions = some (trace, s)) : M.Run trace s :=
  Run.nil.replay computed

end Runs

/-! ### States with a list of parties -/

section Parties

variable {α : Type} {l : List α} {k j : Nat} {old new x : α}

/-- An entry after one was replaced: the new one, or another one as it was. -/
theorem getElem?_set_cases (found : l[k]? = some old) (after : (l.set k new)[j]? = some x) :
    (j = k ∧ x = new) ∨ (j ≠ k ∧ l[j]? = some x) := by
  have bound := (List.getElem?_eq_some_iff.mp found).choose
  by_cases here : j = k
  · subst here
    rw [List.getElem?_set_self bound] at after
    exact .inl ⟨rfl, (Option.some.inj after).symm⟩
  · rw [List.getElem?_set_ne (Ne.symm here)] at after
    exact .inr ⟨here, after⟩

/-- An entry after one was added: the new one, or one that was there. -/
theorem getElem?_concat_cases (after : (l ++ [new])[j]? = some x) :
    (j = l.length ∧ x = new) ∨ (j ≠ l.length ∧ l[j]? = some x) := by
  by_cases here : j = l.length
  · subst here
    rw [List.getElem?_concat_length] at after
    exact .inl ⟨rfl, (Option.some.inj after).symm⟩
  · have bound := (List.getElem?_eq_some_iff.mp after).choose
    rw [List.length_append, List.length_singleton] at bound
    rw [List.getElem?_append_left (by omega)] at after
    exact .inr ⟨here, after⟩

/-- What holds of all of them still does when one is replaced by another of which it holds. -/
theorem forall_mem_set {P : α → Prop} (all : ∀ x ∈ l, P x) (here : P new) :
    ∀ x ∈ l.set k new, P x := by
  intro x member
  rcases List.mem_or_eq_of_mem_set member with there | rfl
  · exact all x there
  · exact here

end Parties

end EventMachine
