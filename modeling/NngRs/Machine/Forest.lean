/-
**Objects that belong to others.**

Each object belongs to an older one or to none. An object that is shut stays in the table, and what
belongs to it counts as shut with it.

* `Forest` — the table. An object keeps all it belongs to, the nearest first.
* `Forest.isOpen_iff` — an object is open as long as it is not shut and what it belongs to is open.
* `Forest.open_root` — what is open is, or belongs to, an open object that belongs to none.
* `Forest.change_cases`, `Forest.owner_new` — the objects after a step on one of them, and a new one.
* `Forest.shutAll` — all objects shut at once; none is open then.
-/

import Mathlib.Data.List.Basic

/-- An object, with its value. -/
structure Forest.Node (α : Type) where
  value : α
  /-- All it belongs to, the nearest first. -/
  above : List Nat
  shut : Bool
deriving DecidableEq, Repr

/-- What an object belongs to. -/
def Forest.Node.owner {α : Type} (n : Forest.Node α) : Option Nat := n.above.head?

/-- **Objects, of which each belongs to an older one or to none.** -/
structure Forest (α : Type) where
  nodes : List (Forest.Node α)
  owned : ∀ (k : Nat) (n : Forest.Node α), nodes[k]? = some n →
    n.above = [] ∨ ∃ j o, j < k ∧ nodes[j]? = some o ∧ n.above = j :: o.above

namespace Forest

section Definitions

variable {α : Type}

/-- No object. -/
def empty : Forest α := ⟨[], fun _ _ found => by cases found⟩

/-- An object is there and not shut itself. -/
def unshut (f : Forest α) (k : Nat) : Bool := f.nodes[k]?.any fun n => !n.shut

/-- An object is open: neither it nor anything it belongs to is shut. -/
def isOpen (f : Forest α) (k : Nat) : Bool :=
  match f.nodes[k]? with
  | some n => !n.shut && n.above.all f.unshut
  | none => false

/-- All that an object of this owner belongs to. -/
def aboveOf (f : Forest α) (owner : Option Nat) : List Nat :=
  match owner with
  | none => []
  | some j =>
    match f.nodes[j]? with
    | none => []
    | some o => j :: o.above

theorem aboveOf_cases (f : Forest α) (owner : Option Nat) :
    f.aboveOf owner = [] ∨
      ∃ j o, f.nodes[j]? = some o ∧ owner = some j ∧ f.aboveOf owner = j :: o.above := by
  unfold aboveOf
  cases owner with
  | none => exact .inl rfl
  | some j =>
    cases found : f.nodes[j]? with
    | none => exact .inl (by simp only [found])
    | some o => exact .inr ⟨j, o, found, rfl, by simp only [found]⟩

/-- One more object. -/
def add (f : Forest α) (value : α) (owner : Option Nat) : Forest α where
  nodes := f.nodes ++ [⟨value, f.aboveOf owner, false⟩]
  owned := by
    have older {j : Nat} {o : Node α} (found : f.nodes[j]? = some o) :
        (f.nodes ++ [⟨value, f.aboveOf owner, false⟩])[j]? = some o :=
      (List.getElem?_append_left (List.getElem?_eq_some_iff.mp found).choose).trans found
    intro k n found
    by_cases before : k < f.nodes.length
    · rw [List.getElem?_append_left before] at found
      refine (f.owned k n found).imp_right ?_
      rintro ⟨j, o, younger, there, same⟩
      exact ⟨j, o, younger, older there, same⟩
    · rw [List.getElem?_append_right (Nat.le_of_not_lt before)] at found
      rw [List.getElem?_singleton] at found
      obtain ⟨_, same⟩ := Option.ite_none_right_eq_some.mp found
      cases same
      refine (f.aboveOf_cases owner).imp_right ?_
      rintro ⟨j, o, there, _, same⟩
      have bound := (List.getElem?_eq_some_iff.mp there).choose
      exact ⟨j, o, Nat.lt_of_lt_of_le bound (Nat.le_of_not_lt before), older there, same⟩

/-- Give an object another value, and perhaps shut it. -/
def change (f : Forest α) (k : Nat) (value : α → α) (shut : Bool) : Forest α where
  nodes := f.nodes.modify k fun n => ⟨value n.value, n.above, n.shut || shut⟩
  owned := by
    intro i n found
    rw [List.getElem?_modify] at found
    obtain ⟨n', there, rfl⟩ := Option.map_eq_some_iff.mp found
    have above : (if k = i then ⟨value n'.value, n'.above, n'.shut || shut⟩ else n' : Node α).above
        = n'.above := by split <;> rfl
    rw [above]
    refine (f.owned i n' there).imp_right ?_
    rintro ⟨j, o, younger, owner, same⟩
    refine ⟨j, if k = j then ⟨value o.value, o.above, o.shut || shut⟩ else o, younger, ?_, ?_⟩
    · rw [List.getElem?_modify, owner]
      rfl
    · rw [same]
      split <;> rfl

/-- Shut an object. -/
def shut (f : Forest α) (k : Nat) : Forest α := f.change k id true

/-- Shut all objects. -/
def shutAll (f : Forest α) : Forest α where
  nodes := f.nodes.map fun n => { n with shut := true }
  owned := by
    intro i n found
    rw [List.getElem?_map] at found
    obtain ⟨n', there, rfl⟩ := Option.map_eq_some_iff.mp found
    refine (f.owned i n' there).imp_right ?_
    rintro ⟨j, o, younger, owner, same⟩
    refine ⟨j, { o with shut := true }, younger, ?_, same⟩
    rw [List.getElem?_map, owner]
    rfl

/-- Give an object another value. -/
def put (f : Forest α) (k : Nat) (value : α) : Forest α := f.change k (fun _ => value) false

end Definitions

section Open

variable {α : Type} {f : Forest α} {k j : Nat} {n : Node α} {value : α} {owner : Option Nat}

theorem isOpen_eq (found : f.nodes[k]? = some n) :
    f.isOpen k = true ↔ n.shut = false ∧ ∀ j ∈ n.above, f.unshut j = true := by
  unfold isOpen
  rw [found]
  simp only [Bool.and_eq_true, Bool.not_eq_true', List.all_eq_true]

theorem unshut_eq (found : f.nodes[k]? = some n) : f.unshut k = !n.shut := by
  rw [unshut, found, Option.any_some]

/-- The owner of an object is there, and belongs to the rest of what the object belongs to. -/
theorem owner_found (found : f.nodes[k]? = some n) (owns : n.owner = some j) :
    j < k ∧ ∃ o, f.nodes[j]? = some o ∧ n.above = j :: o.above := by
  unfold Node.owner at owns
  rcases f.owned k n found with none | ⟨i, o, younger, there, same⟩
  · rw [none] at owns
    cases owns
  · rw [same] at owns
    cases owns
    exact ⟨younger, o, there, same⟩

/-- **An object is open as long as it is not shut and what it belongs to is open.** -/
theorem isOpen_iff (found : f.nodes[k]? = some n) :
    f.isOpen k = true ↔ n.shut = false ∧ ∀ j, n.owner = some j → f.isOpen j = true := by
  rw [isOpen_eq found]
  refine and_congr_right fun _ => ?_
  constructor
  · intro unshut j owns
    obtain ⟨_, o, there, same⟩ := owner_found found owns
    rw [same] at unshut
    have here := unshut j List.mem_cons_self
    rw [unshut_eq there, Bool.not_eq_true'] at here
    exact (isOpen_eq there).mpr ⟨here, fun i member => unshut i (List.mem_cons_of_mem _ member)⟩
  · intro opened i member
    rcases f.owned k n found with none | ⟨j, o, _, there, same⟩
    · rw [none] at member
      exact absurd member List.not_mem_nil
    · obtain ⟨here, above⟩ := (isOpen_eq there).mp (opened j (by rw [Node.owner, same]; rfl))
      rw [same] at member
      rcases List.mem_cons.mp member with rfl | member
      · rw [unshut_eq there, here]
        rfl
      · exact above i member

/-- **What is open is, or belongs to, an open object that belongs to none.** -/
theorem open_root (found : f.nodes[k]? = some n) (opened : f.isOpen k = true) :
    ∃ r o, f.nodes[r]? = some o ∧ o.owner = none ∧ f.isOpen r = true ∧ (r = k ∨ r ∈ n.above) := by
  induction k using Nat.strongRecOn generalizing n with
  | _ k ih =>
    cases owns : n.owner with
    | none => exact ⟨k, n, found, owns, opened, .inl rfl⟩
    | some j =>
      obtain ⟨younger, o, there, same⟩ := owner_found found owns
      obtain ⟨r, root, at', none, opened', below⟩ :=
        ih j younger there (((isOpen_iff found).mp opened).2 j owns)
      refine ⟨r, root, at', none, opened', .inr ?_⟩
      rw [same]
      exact below.elim (fun here => here ▸ List.mem_cons_self) (List.mem_cons_of_mem _)

/-! ### Steps -/

theorem getElem?_change (value : α → α) (shut : Bool) : (f.change k value shut).nodes[j]? =
    f.nodes[j]?.map fun n => if k = j then ⟨value n.value, n.above, n.shut || shut⟩ else n :=
  List.getElem?_modify _ _ _ _

/-- An object after a step on one of them. -/
theorem change_cases {value : α → α} {shut : Bool} (found : (f.change k value shut).nodes[j]? = some n) :
    (j = k ∧ ∃ o, f.nodes[k]? = some o ∧ n = ⟨value o.value, o.above, o.shut || shut⟩) ∨
      (j ≠ k ∧ f.nodes[j]? = some n) := by
  rw [getElem?_change] at found
  obtain ⟨o, there, rfl⟩ := Option.map_eq_some_iff.mp found
  by_cases same : j = k
  · subst same
    exact .inl ⟨rfl, o, there, if_pos rfl⟩
  · rw [if_neg (Ne.symm same)]
    exact .inr ⟨same, there⟩

theorem length_change (value : α → α) (shut : Bool) :
    (f.change k value shut).nodes.length = f.nodes.length := List.length_modify _ _ _

theorem getElem?_shutAll :
    f.shutAll.nodes[k]? = f.nodes[k]?.map fun n => { n with shut := true } := List.getElem?_map

theorem length_shutAll : f.shutAll.nodes.length = f.nodes.length := List.length_map _

theorem isOpen_shutAll (f : Forest α) (k : Nat) : f.shutAll.isOpen k = false := by
  unfold isOpen
  rw [getElem?_shutAll]
  cases f.nodes[k]? <;> rfl

theorem getElem?_add (found : f.nodes[j]? = some n) : (f.add value owner).nodes[j]? = some n :=
  (List.getElem?_append_left (List.getElem?_eq_some_iff.mp found).choose).trans found

theorem getElem?_new :
    (f.add value owner).nodes[f.nodes.length]? = some ⟨value, f.aboveOf owner, false⟩ :=
  List.getElem?_concat_length

/-- The owner that a new object is given, when it is there. -/
theorem owner_new (there : ∀ j, owner = some j → ∃ o, f.nodes[j]? = some o) :
    (⟨value, f.aboveOf owner, false⟩ : Node α).owner = owner := by
  unfold Node.owner aboveOf
  cases owner with
  | none => rfl
  | some j =>
    obtain ⟨o, found⟩ := there j rfl
    simp only [found, List.head?_cons]

end Open

end Forest
