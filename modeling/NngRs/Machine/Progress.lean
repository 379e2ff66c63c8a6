/-
**Progress: what the rest of the system owes is done in a bounded number of steps.**

Some steps are owed: threads that can go on will, and the environment finishes what it was given. The
others are up to a caller. A rank that owed steps lower bounds how many of them there can be, and when
one is always possible before the end, nothing but the end stops them.

* `Drains` — the conditions on owed steps: `lower`, `able` and `kept`.
* `Drains.reaches` — owed steps alone reach the end, in at most as many steps as the rank.
* `Drains.length_le` — and no run of owed steps before the end is longer.
* `Settles` — moreover nobody else raises the rank before the end. `Settles.count_le` is the run rule:
  whatever is interleaved, a run that has not reached the end has no room for more owed steps.
-/

import NngRs.Machine.Run

namespace EventMachine

section Progress

variable {σ α ε : Type}

/-- **Owed steps lead to the end**, in the states of an invariant. -/
structure Drains (M : EventMachine σ α ε) (I : σ → Prop) (owed : σ → α → Bool) (rank : σ → Nat)
    (Done : σ → Prop) : Prop where
  kept : ∀ s a s' out, I s → owed s a = true → M.step s a = some (s', out) → I s'
  /-- An owed step lowers the rank. -/
  lower : ∀ s a s' out, I s → ¬Done s → owed s a = true → M.step s a = some (s', out) →
    rank s' < rank s
  /-- Before the end an owed step is possible. -/
  able : ∀ s, I s → ¬Done s → ∃ a s' out, owed s a = true ∧ M.step s a = some (s', out)

/-- **And nobody puts the end off**: every step keeps the invariant, and none raises the rank. -/
structure Settles (M : EventMachine σ α ε) (I : σ → Prop) (owed : σ → α → Bool) (rank : σ → Nat)
    (Done : σ → Prop) : Prop extends Drains M I owed rank Done where
  always : ∀ s a s' out, I s → M.step s a = some (s', out) → I s'
  steady : ∀ s a s' out, I s → ¬Done s → M.step s a = some (s', out) → rank s' ≤ rank s

/-- The owed steps among some transitions. -/
def owedSteps (owed : σ → α → Bool) (trace : List (Transition σ α ε)) : Nat :=
  trace.countP fun t => owed t.pre t.act

variable {M : EventMachine σ α ε} {I : σ → Prop} {owed : σ → α → Bool} {rank : σ → Nat}
  {Done : σ → Prop} {s s' : σ}

/-- A step before a run. -/
theorem Run.cons {s'' : σ} {a : α} {out : List ε} {later : List (Transition σ α ε)}
    (stepped : M.step s a = some (s', out)) (run : (M.startedAt s').Run later s'') :
    (M.startedAt s).Run (⟨s, a, s', out⟩ :: later) s'' := by
  induction run with
  | nil => exact Run.nil.snoc stepped
  | snoc _ last ih => exact ih.snoc last

/-- **Owed steps alone reach the end.** -/
theorem Drains.reaches (drains : Drains M I owed rank Done) :
    ∀ {s : σ}, I s → ∃ later s', (M.startedAt s).Run later s' ∧
      (∀ t ∈ later, owed t.pre t.act = true) ∧ Done s' ∧ later.length ≤ rank s := by
  intro s
  induction bound : rank s using Nat.strongRecOn generalizing s with
  | ind n ih =>
    intro holds
    by_cases done : Done s
    · exact ⟨[], s, .nil, nofun, done, Nat.zero_le _⟩
    · obtain ⟨a, s', out, due, stepped⟩ := drains.able s holds done
      have pays := drains.lower _ _ _ _ holds done due stepped
      obtain ⟨later, s'', run, dues, ended, short⟩ :=
        ih _ (bound ▸ pays) rfl (drains.kept _ _ _ _ holds due stepped)
      refine ⟨_, s'', run.cons stepped, ?_, ended, ?_⟩
      · exact List.forall_mem_cons.mpr ⟨due, dues⟩
      · rw [List.length_cons]
        omega

/-- **No run of owed steps is longer than the rank**, before the end, and it stays in the invariant. -/
theorem Drains.length_le (drains : Drains M I owed rank Done) (holds : I s)
    {later : List (Transition σ α ε)} (run : (M.startedAt s).Run later s')
    (dues : ∀ t ∈ later, owed t.pre t.act = true) (before : ∀ t ∈ later, ¬Done t.pre) :
    I s' ∧ later.length + rank s' ≤ rank s := by
  induction run with
  | nil => exact ⟨holds, Nat.le_of_eq (Nat.zero_add _)⟩
  | @snoc trace s₁ s₂ a out earlier stepped ih =>
    obtain ⟨inside, short⟩ := ih (fun t member => dues t (List.mem_append_left _ member))
      fun t member => before t (List.mem_append_left _ member)
    have due : owed s₁ a = true := dues _ (List.mem_append_right _ (List.mem_singleton.mpr rfl))
    have ongoing : ¬Done s₁ := before _ (List.mem_append_right _ (List.mem_singleton.mpr rfl))
    have pays := drains.lower _ _ _ _ inside ongoing due stepped
    refine ⟨drains.kept _ _ _ _ inside due stepped, ?_⟩
    rw [List.length_append, List.length_singleton]
    omega

/-- What is reached from a state of the invariant is in it. -/
theorem Settles.kept_run (settles : Settles M I owed rank Done) (holds : I s)
    (later : (M.startedAt s).Reachable s') : I s' :=
  Reachable.invariant (M := M.startedAt s) (I := I) holds settles.always later

/-- **The run rule.** Each owed step of a run pays from the rank. -/
theorem Settles.count_le (settles : Settles M I owed rank Done) (holds : I s)
    {later : List (Transition σ α ε)} (run : (M.startedAt s).Run later s')
    (before : ∀ t ∈ later, ¬Done t.pre) : owedSteps owed later + rank s' ≤ rank s := by
  induction run with
  | nil => exact Nat.le_of_eq (Nat.zero_add _)
  | @snoc trace s₁ s₂ a out earlier stepped ih =>
    have early := ih fun t member => before t (List.mem_append_left _ member)
    have inside := settles.kept_run holds ⟨_, earlier⟩
    have ongoing : ¬Done s₁ := before _ (List.mem_append_right _ (List.mem_singleton.mpr rfl))
    rw [owedSteps, List.countP_append, List.countP_singleton, ← owedSteps]
    by_cases due : owed s₁ a = true
    · have pays := settles.lower _ _ _ _ inside ongoing due stepped
      rw [if_pos due]
      omega
    · have stays := settles.steady _ _ _ _ inside ongoing stepped
      rw [if_neg due]
      omega

end Progress

end EventMachine
