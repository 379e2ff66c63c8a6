/-
**Variables that own what they point to are variables that hold it.**

A variable has an address, or nothing; a heap has a value at an address, or nothing. `view` is what the
variables hold. As long as no two variables have the same address, a change of the heap at the address
of a variable is an assignment to that variable alone, and a change where no variable points is none.

* `view_store` — the first; `view_elsewhere` — the second.
* `view_point` — giving a variable another address.
* `contents_erase`, `contents_elsewhere` — the same for a list of addresses that are owned together.
-/

import Mathlib.Data.Multiset.Filter
import Mathlib.Logic.Function.Basic

namespace Owners

variable {ι κ ν : Type}

/-- What each variable holds. -/
def view (address : ι → Option κ) (heap : κ → Option ν) (i : ι) : Option ν := (address i).bind heap

/-- No two variables have the same address. -/
def Apart (address : ι → Option κ) : Prop :=
  ∀ i j a, address i = some a → address j = some a → i = j

variable {address : ι → Option κ} {heap : κ → Option ν} {i : ι} {a : κ}

/-- **A change at the address of a variable is an assignment to it.** -/
theorem view_store [DecidableEq ι] [DecidableEq κ] (apart : Apart address) (found : address i = some a) (v : Option ν) :
    view address (Function.update heap a v) = Function.update (view address heap) i v := by
  funext j
  by_cases same : j = i
  · subst same
    rw [Function.update_self, view, found, Option.bind_some, Function.update_self]
  · rw [Function.update_of_ne same, view, view]
    cases there : address j with
    | none => rfl
    | some b =>
      have other : b ≠ a := fun equal => same (apart j i a (equal ▸ there) found)
      rw [Option.bind_some, Option.bind_some, Function.update_of_ne other]

/-- **A change where no variable points changes none.** -/
theorem view_elsewhere [DecidableEq κ] (free : ∀ i, address i ≠ some a) (v : Option ν) :
    view address (Function.update heap a v) = view address heap := by
  funext j
  rw [view, view]
  cases there : address j with
  | none => rfl
  | some b =>
    have other : b ≠ a := fun equal => free j (equal ▸ there)
    rw [Option.bind_some, Option.bind_some, Function.update_of_ne other]

/-- A variable with another address holds what is there. -/
theorem view_point [DecidableEq ι] (x : Option κ) :
    view (Function.update address i x) heap = Function.update (view address heap) i (x.bind heap) := by
  funext j
  by_cases same : j = i
  · subst same
    rw [Function.update_self, view, Function.update_self]
  · rw [Function.update_of_ne same, view, Function.update_of_ne same, view]

/-! ### Addresses that are owned together -/

/-- What is at these addresses. -/
def contents (held : List κ) (heap : κ → Option ν) : Multiset ν :=
  Multiset.ofList (held.filterMap heap)

theorem contents_cons {held : List κ} {v : ν} (live : heap a = some v) :
    contents (a :: held) heap = v ::ₘ contents held heap := by
  rw [contents, List.filterMap_cons_some live]
  rfl

/-- One address less. -/
theorem contents_erase [DecidableEq κ] {held : List κ} (member : a ∈ held) {v : ν} (live : heap a = some v) :
    contents held heap = v ::ₘ contents (held.erase a) heap := by
  have split : held.Perm (a :: held.erase a) := List.perm_cons_erase member
  calc contents held heap = contents (a :: held.erase a) heap :=
        Multiset.coe_eq_coe.mpr (split.filterMap heap)
    _ = v ::ₘ contents (held.erase a) heap := contents_cons live

/-- A change at another address. -/
theorem contents_elsewhere [DecidableEq κ] {held : List κ} (apart : a ∉ held) (v : Option ν) :
    contents held (Function.update heap a v) = contents held heap := by
  refine congrArg Multiset.ofList (List.filterMap_congr fun b member => ?_)
  have other : b ≠ a := fun same => apart (same ▸ member)
  exact Function.update_of_ne other v heap

end Owners
