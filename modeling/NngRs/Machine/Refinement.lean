/-
**Refinement of one event machine by another.**

Two machines that show the same kind of events are compared by what they can show. A simulation
relates their states so that each step of the first is answered by some steps of the second, none,
one or several, that show the same events; what the two do in between may differ.

* `Shows` — the lists of events that a run of a machine shows.
* `Answers` — the answers, built step by step: `Answers.silent`, `Answers.after`, `Answers.before`.
* `Simulation.run` — a simulation carries every run over, to related states and the same events.
* `shows_iff` — with a simulation each way the two machines show the same.
-/

import NngRs.Machine.Run

namespace EventMachine

section Refinement

variable {σ τ α β ε : Type}

/-- Some run shows these events. -/
def Shows (M : EventMachine σ α ε) (shown : List ε) : Prop :=
  ∃ trace s, M.Run trace s ∧ events trace = shown

/-- From `t` the machine can show these events and reach a state related to `s`. -/
def Answers (A : EventMachine τ β ε) (rel : σ → τ → Prop) (t : τ) (shown : List ε) (s : σ) : Prop :=
  ∃ actions later t', A.replay t actions = some (later, t') ∧ events later = shown ∧ rel s t'

/-- **A simulation**: `A` answers each step of `C` from a related state by steps that show the same
events and lead to a related state. -/
structure Simulation (C : EventMachine σ α ε) (A : EventMachine τ β ε) (rel : σ → τ → Prop) :
    Prop where
  start : rel C.start A.start
  answered : ∀ s t a s' out, rel s t → C.step s a = some (s', out) → A.Answers rel t out s'

variable {C : EventMachine σ α ε} {A : EventMachine τ β ε} {rel : σ → τ → Prop}

/-! ### Answers -/

section Answers

variable {s : σ} {t t' : τ} {b : β} {out shown : List ε}

/-- The empty answer. -/
theorem Answers.silent (related : rel s t) : A.Answers rel t [] s := ⟨[], [], t, rfl, rfl, related⟩

/-- A step before an answer. -/
theorem Answers.cons (stepped : A.step t b = some (t', out)) (rest : A.Answers rel t' shown s) :
    A.Answers rel t (out ++ shown) s := by
  obtain ⟨actions, later, t'', replayed, rfl, related⟩ := rest
  refine ⟨b :: actions, ⟨t, b, t', out⟩ :: later, t'', ?_, ?_, related⟩
  · rw [replay, stepped]
    simp only [replayed, Option.map_some]
  · exact events_append [_] later |>.trans (congrArg (· ++ _) (events_singleton _))

/-- A step that shows nothing, before an answer. -/
theorem Answers.after (stepped : A.step t b = some (t', [])) (rest : A.Answers rel t' shown s) :
    A.Answers rel t shown s := rest.cons stepped

/-- A step before an answer that shows nothing more. -/
theorem Answers.before (stepped : A.step t b = some (t', out)) (rest : A.Answers rel t' [] s) :
    A.Answers rel t out s := by
  have answer := rest.cons stepped
  rwa [List.append_nil] at answer

/-- An answer of one step. -/
theorem Answers.step (stepped : A.step t b = some (t', out)) (related : rel s t') :
    A.Answers rel t out s := .before stepped (.silent related)

end Answers

/-! ### Runs -/

/-- A simulation carries every run over. -/
theorem Simulation.run (simulation : Simulation C A rel) {trace : List (Transition σ α ε)} {s : σ}
    (run : C.Run trace s) : ∃ trace' t, A.Run trace' t ∧ events trace' = events trace ∧ rel s t := by
  induction run with
  | nil => exact ⟨[], _, .nil, rfl, simulation.start⟩
  | snoc earlier stepped ih =>
    obtain ⟨trace', t, followed, same, related⟩ := ih
    obtain ⟨actions, later, t', answer, shows, related'⟩ :=
      simulation.answered _ _ _ _ _ related stepped
    refine ⟨trace' ++ later, t', followed.replay answer, ?_, related'⟩
    rw [events_append, events_append, events_singleton, same, shows]

theorem Simulation.shows (simulation : Simulation C A rel) {shown : List ε} (some : C.Shows shown) :
    A.Shows shown := by
  obtain ⟨trace, s, run, rfl⟩ := some
  obtain ⟨trace', t, followed, same, _⟩ := simulation.run run
  exact ⟨trace', t, followed, same⟩

/-- **Two machines that simulate each other show the same events.** -/
theorem shows_iff {rel' : τ → σ → Prop} (down : Simulation C A rel) (up : Simulation A C rel')
    (shown : List ε) : C.Shows shown ↔ A.Shows shown := ⟨down.shows, up.shows⟩

end Refinement

end EventMachine
