/-
**Parties that wait for each other for ever.**

Each party of a system has something it cannot give up before it goes on: a stack, a lock, a place in a
queue. `Keeps s t l` says that party `t` has `l` in the state `s`, and `Blocks t l u l'` that it cannot
go on from `l` while party `u` has `l'`. Parties that all block each other stay as they are, whatever
the others do.

* `Waiting` — the condition on one step: a blocked party keeps what it has.
* `Deadlocked` — a set of parties, each blocked by one of them.
* `Waiting.forever` — a deadlock lasts.
-/

import Mathlib.Data.Set.Basic
import NngRs.Machine.Run

namespace EventMachine

section Deadlock

variable {σ α ε ι κ : Type}

/-- A party that another one blocks keeps what it has, in any step. -/
structure Waiting (M : EventMachine σ α ε) (Keeps : σ → ι → κ → Prop) (Blocks : ι → κ → ι → κ → Prop) :
    Prop where
  stays : ∀ s a s' out t l u l', Keeps s t l → Keeps s u l' → Blocks t l u l' →
    M.step s a = some (s', out) → Keeps s' t l

/-- **A deadlock**: each party of a set has something, and is blocked by one of the set. -/
structure Deadlocked (Keeps : σ → ι → κ → Prop) (Blocks : ι → κ → ι → κ → Prop) (parties : Set ι)
    (held : ι → κ) (s : σ) : Prop where
  keeps : ∀ t ∈ parties, Keeps s t (held t)
  blocked : ∀ t ∈ parties, ∃ u ∈ parties, Blocks t (held t) u (held u)

variable {M : EventMachine σ α ε} {Keeps : σ → ι → κ → Prop} {Blocks : ι → κ → ι → κ → Prop}
  {parties : Set ι} {held : ι → κ} {s s' : σ}

theorem Waiting.step (waiting : Waiting M Keeps Blocks) (dead : Deadlocked Keeps Blocks parties held s)
    {a : α} {out : List ε} (stepped : M.step s a = some (s', out)) :
    Deadlocked Keeps Blocks parties held s' where
  keeps := by
    intro t inside
    obtain ⟨u, among, blocks⟩ := dead.blocked t inside
    exact waiting.stays _ _ _ _ _ _ _ _ (dead.keeps t inside) (dead.keeps u among) blocks stepped
  blocked := dead.blocked

/-- **A deadlock lasts for ever.** -/
theorem Waiting.forever (waiting : Waiting M Keeps Blocks)
    (dead : Deadlocked Keeps Blocks parties held s) (later : (M.startedAt s).Reachable s') :
    Deadlocked Keeps Blocks parties held s' :=
  Reachable.invariant (M := M.startedAt s) (I := Deadlocked Keeps Blocks parties held) dead
    (fun _ _ _ _ dead stepped => waiting.step dead stepped) later

end Deadlock

end EventMachine
