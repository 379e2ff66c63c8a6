/-
**Every thing has exactly one owner.**

`held` says what each owner holds, with multiplicity. Custody of the known things is `Linear` when the
holdings add up to them, and no thing is known twice.

* `Linear.existsUnique` — then every known thing has exactly one owner.
* `Linear.nodup`, `Linear.excludes` — no owner holds a thing twice, no two owners hold the same.
* `Linear.step` — a step that adds to the holdings what it adds to the known things keeps custody.
-/

import Mathlib.Algebra.BigOperators.Group.Finset.Basic
import Mathlib.Algebra.Order.BigOperators.Group.Finset
import Mathlib.Algebra.Order.Group.Multiset
import Mathlib.Data.Fintype.Basic

namespace Custody

section Linear

variable {Owner μ : Type} [Fintype Owner]

/-- The holdings add up to the known things, each of them once. -/
structure Linear (held : Owner → Multiset μ) (known : Multiset μ) : Prop where
  total : ∑ o, held o = known
  distinct : known.Nodup

variable {held held' : Owner → Multiset μ} {known known' : Multiset μ} {m : μ}

theorem Linear.le (linear : Linear held known) (o : Owner) : held o ≤ known :=
  linear.total ▸ Finset.single_le_sum (fun _ _ => Multiset.zero_le _) (Finset.mem_univ o)

theorem Linear.known_of_mem (linear : Linear held known) {o : Owner} (owned : m ∈ held o) :
    m ∈ known := Multiset.mem_of_le (linear.le o) owned

/-- No owner holds a thing twice. -/
theorem Linear.nodup (linear : Linear held known) (o : Owner) : (held o).Nodup :=
  Multiset.nodup_of_le (linear.le o) linear.distinct

/-- No two owners hold the same thing. -/
theorem Linear.excludes [DecidableEq Owner] (linear : Linear held known) {o o' : Owner}
    (owned : m ∈ held o) (other : o' ≠ o) : m ∉ held o' := by
  intro also
  have both : held o' + held o ≤ known := by
    rw [← linear.total, ← Finset.add_sum_erase _ _ (Finset.mem_univ o')]
    refine add_le_add_right ?_ _
    exact Finset.single_le_sum (fun _ _ => Multiset.zero_le _)
      (Finset.mem_erase.mpr ⟨other.symm, Finset.mem_univ o⟩)
  have distinct := Multiset.nodup_of_le both linear.distinct
  exact Multiset.disjoint_left.mp (Multiset.nodup_add.mp distinct).2.2 also owned

/-- **Every known thing has exactly one owner.** -/
theorem Linear.existsUnique [DecidableEq Owner] (linear : Linear held known) (member : m ∈ known) :
    ∃! o, m ∈ held o := by
  rw [← linear.total] at member
  obtain ⟨o, _, owned⟩ := Multiset.mem_sum.mp member
  refine ⟨o, owned, fun o' also => ?_⟩
  by_contra other
  exact linear.excludes owned other also

/-- A step that changes the holdings and the known things alike keeps custody. -/
theorem Linear.step (linear : Linear held known)
    (balanced : (∑ o, held' o) + known = (∑ o, held o) + known') (distinct : known'.Nodup) :
    Linear held' known' := by
  refine ⟨?_, distinct⟩
  rw [linear.total, add_comm known] at balanced
  exact add_right_cancel balanced

end Linear

end Custody
