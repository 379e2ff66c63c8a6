/-
**Any number of machines side by side.**

A family of machines has one for each kind of party. Their parties are the state: a step lets one more
join, or lets one of them take a step of its own; every event carries the number of the party it is of.

* `parties_act` — what a step of a party is.
* `Reachable.party` — each party is in a state that its machine reaches on its own.
* `Simulation.beside` — machines that simulate each other still do side by side.
* `sum_map_set` — what one of many parties changes of a total.
-/

import Mathlib.Algebra.BigOperators.Group.List.Basic
import Mathlib.Tactic.Abel
import NngRs.Machine.Refinement

namespace EventMachine

/-- What happens to the parties. -/
inductive PartyAction (κ α : Type)
  /-- One more of this kind. -/
  | join (kind : κ)
  /-- A step of one of them. -/
  | act (party : Nat) (action : α)
deriving DecidableEq, Repr

section Parties

variable {κ σ α ε : Type}

/-- The parties after a step. -/
def partiesStep (M : κ → EventMachine σ α ε) (all : List (κ × σ)) :
    PartyAction κ α → Option (List (κ × σ) × List (Nat × ε))
  | .join kind => some (all ++ [(kind, (M kind).start)], [])
  | .act party action =>
    match all[party]? with
    | none => none
    | some (kind, s) =>
      ((M kind).step s action).map fun r => (all.set party (kind, r.1), r.2.map (party, ·))

/-- Parties of these machines, none at first. -/
def parties (M : κ → EventMachine σ α ε) :
    EventMachine (List (κ × σ)) (PartyAction κ α) (Nat × ε) where
  start := []
  step := partiesStep M

variable {M : κ → EventMachine σ α ε} {all all' : List (κ × σ)} {i : Nat} {a : α}
  {shown : List (Nat × ε)}

theorem parties_act (stepped : (parties M).step all (.act i a) = some (all', shown)) :
    ∃ kind s s' out, all[i]? = some (kind, s) ∧ (M kind).step s a = some (s', out) ∧
      all' = all.set i (kind, s') ∧ shown = out.map (i, ·) := by
  simp only [parties, partiesStep] at stepped
  cases found : all[i]? with
  | none =>
    rw [found] at stepped
    cases stepped
  | some here =>
    rw [found] at stepped
    obtain ⟨⟨s', out⟩, moved, same⟩ := Option.map_eq_some_iff.mp stepped
    cases same
    exact ⟨here.1, here.2, s', out, rfl, moved, rfl, rfl⟩

theorem parties_acts {kind : κ} {s s' : σ} {out : List ε} (found : all[i]? = some (kind, s))
    (moved : (M kind).step s a = some (s', out)) :
    (parties M).step all (.act i a) =
      some (all.set i (kind, s'), out.map (i, ·)) := by
  simp only [parties, partiesStep, found, moved, Option.map_some]

/-- **Each party is in a state that its own machine reaches.** -/
theorem Reachable.party (reached : (parties M).Reachable all) :
    ∀ p ∈ all, (M p.1).Reachable p.2 := by
  refine reached.invariant (I := fun all => ∀ p ∈ all, (M p.1).Reachable p.2)
    (fun p member => absurd member List.not_mem_nil) ?_
  rintro all (kind | ⟨party, a⟩) all' out reached stepped
  · cases stepped
    exact List.forall_mem_append.mpr ⟨reached, List.forall_mem_singleton.mpr .start⟩
  · obtain ⟨kind, s, s', _, found, moved, rfl, -⟩ := parties_act stepped
    exact forall_mem_set reached ((reached _ (List.mem_of_getElem? found)).step moved)

end Parties

/-! ### Simulations side by side -/

section Beside

variable {κ σ τ α β ε : Type} {C : κ → EventMachine σ α ε} {A : κ → EventMachine τ β ε}
  {rel : κ → σ → τ → Prop}

/-- Party by party of the same kind, and related. -/
def Beside (rel : κ → σ → τ → Prop) (all : List (κ × σ)) (all' : List (κ × τ)) : Prop :=
  all.length = all'.length ∧ ∀ (i : Nat) (kind : κ) (s : σ), all[i]? = some (kind, s) →
    ∃ t, all'[i]? = some (kind, t) ∧ rel kind s t

/-- One party answers, and the others wait. -/
theorem replay_party {kind : κ} {i : Nat} {actions : List β} :
    ∀ (all : List (κ × τ)) {t t' : τ} {later : List (Transition τ β ε)},
      all[i]? = some (kind, t) → (A kind).replay t actions = some (later, t') →
      ∃ later', (parties A).replay all (actions.map (.act i)) = some (later', all.set i (kind, t')) ∧
        events later' = (events later).map (i, ·) := by
  induction actions with
  | nil =>
    intro all t t' later found replayed
    cases replayed
    obtain ⟨bound, here⟩ := List.getElem?_eq_some_iff.mp found
    exact ⟨[], by rw [← here, List.set_getElem_self]; rfl, rfl⟩
  | cons b rest ih =>
    intro all t t' later found replayed
    rw [replay] at replayed
    cases stepped : (A kind).step t b with
    | none =>
      rw [stepped] at replayed
      cases replayed
    | some outcome =>
      rw [stepped] at replayed
      obtain ⟨⟨more, last⟩, followed, same⟩ := Option.map_eq_some_iff.mp replayed
      cases same
      have bound := (List.getElem?_eq_some_iff.mp found).choose
      obtain ⟨later', answered, shows⟩ :=
        ih (all.set i (kind, outcome.1)) (List.getElem?_set_self bound) followed
      rw [List.set_set] at answered
      refine ⟨⟨all, .act i b, all.set i (kind, outcome.1), outcome.2.map (i, ·)⟩ :: later', ?_, ?_⟩
      · rw [List.map_cons, replay, parties_acts found stepped]
        simp only [answered, Option.map_some]
      · rw [show ∀ (t : Transition (List (κ × τ)) (PartyAction κ β) (Nat × ε)) l,
          events (t :: l) = t.out ++ events l from fun _ _ => rfl, shows]
        exact List.map_append.symm

/-- **Simulations hold side by side.** -/
theorem Simulation.beside (simulation : ∀ kind, Simulation (C kind) (A kind) (rel kind)) :
    Simulation (parties C) (parties A) (Beside rel) where
  start := ⟨rfl, fun i kind s found => by cases found⟩
  answered := by
    rintro all all' (kind | ⟨party, a⟩) next out ⟨same, related⟩ stepped
    · cases stepped
      refine .step (b := .join kind) rfl ⟨?_, fun i k s found => ?_⟩
      · rw [List.length_append, List.length_append, same]
        rfl
      · rcases getElem?_concat_cases found with ⟨rfl, new⟩ | ⟨-, there⟩
        · cases new
          refine ⟨(A kind).start, ?_, (simulation kind).start⟩
          rw [same, List.getElem?_concat_length]
        · obtain ⟨t, here, held⟩ := related i k s there
          have bound := (List.getElem?_eq_some_iff.mp here).choose
          exact ⟨t, (List.getElem?_append_left bound).trans here, held⟩
    · obtain ⟨kind, s, s', out', found, moved, rfl, rfl⟩ := parties_act stepped
      obtain ⟨t, here, held⟩ := related party kind s found
      obtain ⟨actions, later, t', replayed, shows, held'⟩ :=
        (simulation kind).answered _ _ _ _ _ held moved
      obtain ⟨later', answered, events'⟩ := replay_party _ here replayed
      refine ⟨_, later', _, answered, events'.trans (congrArg _ shows), ?_, fun i k s found => ?_⟩
      · rw [List.length_set, List.length_set, same]
      · rcases getElem?_set_cases ‹_› found with ⟨rfl, new⟩ | ⟨other, there⟩
        · cases new
          exact ⟨t', List.getElem?_set_self (List.getElem?_eq_some_iff.mp here).choose, held'⟩
        · rw [List.getElem?_set_ne (Ne.symm other)]
          exact related i k s there

end Beside

/-! ### Totals -/

/-- What one of many parties changes of their total. -/
theorem sum_map_set {α β : Type} [AddCommMonoid β] (rank : α → β) {old : α} (new : α) :
    ∀ {l : List α} {k : Nat}, l[k]? = some old →
      ((l.set k new).map rank).sum + rank old = (l.map rank).sum + rank new := by
  intro l
  induction l with
  | nil =>
    intro k found
    cases found
  | cons x rest ih =>
    intro k found
    cases k with
    | zero =>
      cases found
      rw [List.set_cons_zero, List.map_cons, List.map_cons, List.sum_cons, List.sum_cons]
      abel
    | succ k =>
      have later := ih (k := k) found
      rw [List.set_cons_succ, List.map_cons, List.map_cons, List.sum_cons, List.sum_cons, add_assoc,
        later, add_assoc]

end EventMachine
