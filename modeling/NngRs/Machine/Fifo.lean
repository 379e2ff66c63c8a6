/-
**What goes through a queue in order.**

`Carries before flows after` says that a queue holding `before` takes the arrivals and gives up the
departures of `flows`, in their order, and ends holding `after`; a departure takes the element at the
front.

* `Carries.trans` — two stretches of flows make one.
* `Carries.conserved` — nothing is lost, duplicated or reordered: what a queue held and what arrived,
  in order, is what left and what it holds.
-/

import Mathlib.Data.List.Basic

/-- An element enters or leaves. -/
inductive QueueFlow (μ : Type)
  | arrive (m : μ)
  | leave (m : μ)
deriving DecidableEq

namespace QueueFlow

variable {μ : Type}

def arrival : QueueFlow μ → Option μ
  | .arrive m => some m
  | .leave _ => none

def departure : QueueFlow μ → Option μ
  | .arrive _ => none
  | .leave m => some m

/-- A first-in first-out queue, from one content through some flows to another. -/
inductive Carries : List μ → List (QueueFlow μ) → List μ → Prop
  | still (held : List μ) : Carries held [] held
  | arrive {held later : List μ} {rest : List (QueueFlow μ)} (m : μ) :
      Carries (held ++ [m]) rest later → Carries held (.arrive m :: rest) later
  | leave {held later : List μ} {rest : List (QueueFlow μ)} (m : μ) :
      Carries held rest later → Carries (m :: held) (.leave m :: rest) later

theorem Carries.trans {held later last : List μ} {first second : List (QueueFlow μ)}
    (front : Carries held first later) (back : Carries later second last) :
    Carries held (first ++ second) last := by
  induction front with
  | still => exact back
  | arrive m _ ih => exact .arrive m (ih back)
  | leave m _ ih => exact .leave m (ih back)

/-- **Nothing is lost, duplicated or reordered.** -/
theorem Carries.conserved {held later : List μ} {flows : List (QueueFlow μ)}
    (carried : Carries held flows later) :
    held ++ flows.filterMap arrival = flows.filterMap departure ++ later := by
  induction carried with
  | still => rw [List.filterMap_nil, List.filterMap_nil, List.append_nil, List.nil_append]
  | arrive m _ ih =>
    simp only [List.filterMap_cons, arrival, departure]
    rw [← ih, List.append_assoc, List.singleton_append]
  | leave m _ ih =>
    simp only [List.filterMap_cons, arrival, departure]
    rw [List.cons_append, ih, List.cons_append]

end QueueFlow
