/-
**Reading a sequence through a position while both of its ends change.**

A window is a list of items and a read position: the items before it were read, the others are unread.
Items are added and removed at both ends, and an advance consumes unread items. A ledger keeps the
window, the items it has seen and the items that were consumed, each item seen once.

Adding at the front leaves the position where it is, so it moves the items that were read past it.

* `WindowLedger.apply_labelled` — the items of the window are seen once, over every change.
* `WindowLedger.apply_unskipped` — no change but an advance takes an unread item that stays in the
  window.
* `WindowLedger.apply_unread_iff` — where what was read is what was consumed, a change shows no consumed
  item as unread exactly when it adds no items in front of read ones.
-/

import Mathlib.Data.List.Nodup

/-- A list of items and a read position. -/
structure Window (α : Type) where
  items : List α
  pos : Nat
deriving DecidableEq, Repr

namespace Window

variable {α : Type}

/-- The items before the position. -/
def read (w : Window α) : List α := w.items.take w.pos

/-- The items from the position on. -/
def unread (w : Window α) : List α := w.items.drop w.pos

/-- What can happen to a window. -/
inductive Change (α : Type)
  /-- Items are added at the end. -/
  | grow (new : List α)
  /-- Items are added at the front. -/
  | push (new : List α)
  /-- The first items are kept. -/
  | cut (len : Nat)
  /-- The first items are removed. -/
  | trim (count : Nat)
  /-- Unread items are consumed. -/
  | advance (count : Nat)

/-- The window after a change. -/
def apply (w : Window α) : Change α → Window α
  | .grow new => ⟨w.items ++ new, w.pos⟩
  | .push new => ⟨new ++ w.items, w.pos⟩
  | .cut len => ⟨w.items.take len, min w.pos len⟩
  | .trim count => ⟨w.items.drop count, w.pos - count⟩
  | .advance count => ⟨w.items, w.pos + count⟩

/-- The items a change brings. -/
def Change.new : Change α → List α
  | .grow new | .push new => new
  | .cut _ | .trim _ | .advance _ => []

/-- The items a change consumes. -/
def taken (w : Window α) : Change α → List α
  | .advance count => w.unread.take count
  | .grow _ | .push _ | .cut _ | .trim _ => []

/-- The change does not add items in front of read ones. -/
def Harmless (w : Window α) (change : Change α) : Prop :=
  ∀ new, change = .push new → new = [] ∨ w.pos = 0

variable {w : Window α} {change : Change α}

theorem read_append_unread (w : Window α) : w.read ++ w.unread = w.items :=
  List.take_append_drop w.pos w.items

theorem mem_items {item : α} : item ∈ w.items ↔ item ∈ w.read ∨ item ∈ w.unread := by
  rw [← List.mem_append, read_append_unread]

/-- With every item once, no item is both read and unread. -/
theorem not_unread_of_read {item : α} (nodup : w.items.Nodup) (read : item ∈ w.read) :
    item ∉ w.unread := by
  rw [← read_append_unread w] at nodup
  exact fun unread => (List.nodup_append.mp nodup).2.2 item read item unread rfl

/-! ### The two parts after a change -/

@[simp] theorem read_grow (inside : w.pos ≤ w.items.length) (new : List α) :
    (w.apply (.grow new)).read = w.read := List.take_append_of_le_length inside

@[simp] theorem unread_grow (inside : w.pos ≤ w.items.length) (new : List α) :
    (w.apply (.grow new)).unread = w.unread ++ new := List.drop_append_of_le_length inside

@[simp] theorem read_cut (len : Nat) : (w.apply (.cut len)).read = w.read.take len := by
  rw [read, read, apply, List.take_take, List.take_take, Nat.min_assoc, Nat.min_self, Nat.min_comm]

@[simp] theorem unread_cut (len : Nat) :
    (w.apply (.cut len)).unread = w.unread.take (len - w.pos) := by
  rw [unread, unread, apply, List.drop_take]
  by_cases passed : w.pos ≤ len
  · rw [Nat.min_eq_left passed]
  · have beyond := Nat.le_of_not_le passed
    rw [Nat.min_eq_right beyond, Nat.sub_self, Nat.sub_eq_zero_of_le beyond, List.take_zero,
      List.take_zero]

@[simp] theorem read_trim (count : Nat) : (w.apply (.trim count)).read = w.read.drop count :=
  List.drop_take.symm

@[simp] theorem unread_trim (count : Nat) :
    (w.apply (.trim count)).unread = w.unread.drop (count - w.pos) := by
  have same : count + (w.pos - count) = w.pos + (count - w.pos) := by omega
  rw [unread, unread, apply, List.drop_drop, List.drop_drop, same]

@[simp] theorem read_advance (count : Nat) :
    (w.apply (.advance count)).read = w.read ++ w.unread.take count := List.take_add

@[simp] theorem unread_advance (count : Nat) :
    (w.apply (.advance count)).unread = w.unread.drop count := (List.drop_drop ..).symm

/-- Items that are added in front of no read item are unread. -/
theorem unread_push (start : w.pos = 0) (new : List α) :
    (w.apply (.push new)).unread = new ++ w.unread := by
  rw [unread, unread, apply, start, List.drop_zero, List.drop_zero]

theorem read_push (start : w.pos = 0) (new : List α) : (w.apply (.push new)).read = [] := by
  rw [read, apply, start, List.take_zero]

/-- A change keeps the position inside. -/
theorem pos_apply (inside : w.pos ≤ w.items.length)
    (enough : ∀ count, change = .advance count → count ≤ w.unread.length) :
    (w.apply change).pos ≤ (w.apply change).items.length := by
  cases change with
  | grow new =>
    simp only [apply, List.length_append]
    omega
  | push new =>
    simp only [apply, List.length_append]
    omega
  | cut len =>
    simp only [apply, List.length_take]
    omega
  | trim count =>
    simp only [apply, List.length_drop]
    omega
  | advance count =>
    have room := enough count rfl
    simp only [unread, List.length_drop] at room
    simp only [apply]
    omega

end Window

/-- A window, the items it has seen and the items that were consumed. -/
structure WindowLedger (α : Type) where
  window : Window α
  seen : List α
  consumed : List α

namespace WindowLedger

open Window

variable {α : Type}

/-- The ledger after a change. -/
def apply (l : WindowLedger α) (change : Change α) : WindowLedger α :=
  { window := l.window.apply change
    seen := l.seen ++ change.new
    consumed := l.consumed ++ l.window.taken change }

/-- New items were never seen, each is there once, and no more is consumed than is unread. -/
structure Allows (l : WindowLedger α) (change : Change α) : Prop where
  nodup : change.new.Nodup
  fresh : ∀ item ∈ change.new, item ∉ l.seen
  enough : ∀ count, change = .advance count → count ≤ l.window.unread.length

/-- Every item is in the window once, and was seen. -/
structure Labelled (l : WindowLedger α) : Prop where
  inside : l.window.pos ≤ l.window.items.length
  nodup : l.window.items.Nodup
  seen : ∀ item ∈ l.window.items, item ∈ l.seen
  consumed : ∀ item ∈ l.consumed, item ∈ l.seen

/-- What was read was consumed, and what is unread was not. -/
structure Clean (l : WindowLedger α) : Prop where
  read : ∀ item ∈ l.window.read, item ∈ l.consumed
  unread : ∀ item ∈ l.window.unread, item ∉ l.consumed

/-- An empty window, nothing seen. -/
def empty : WindowLedger α := ⟨⟨[], 0⟩, [], []⟩

variable {l : WindowLedger α} {change : Change α}

@[simp] theorem window_apply : (l.apply change).window = l.window.apply change := rfl

@[simp] theorem consumed_apply :
    (l.apply change).consumed = l.consumed ++ l.window.taken change := rfl

theorem labelled_empty : (empty : WindowLedger α).Labelled :=
  ⟨Nat.le_refl 0, List.nodup_nil, by simp [empty], by simp [empty]⟩

theorem clean_empty : (empty : WindowLedger α).Clean :=
  ⟨by simp [empty, Window.read], by simp [empty, Window.unread]⟩

/-- **The items of the window are seen once**, over every change. -/
theorem apply_labelled (labelled : l.Labelled) (allows : l.Allows change) :
    (l.apply change).Labelled := by
  have taken : ∀ item ∈ l.window.taken change, item ∈ l.window.items := by
    intro item member
    cases change with
    | advance count => exact List.mem_of_mem_drop (List.mem_of_mem_take member)
    | grow | push | cut | trim => cases member
  have apart : ∀ item ∈ change.new, item ∉ l.window.items :=
    fun item new member => allows.fresh item new (labelled.seen item member)
  refine ⟨pos_apply labelled.inside allows.enough, ?_, ?_, ?_⟩
  · cases change with
    | grow new =>
      exact labelled.nodup.append allows.nodup fun item old new => apart item new old
    | push new => exact allows.nodup.append labelled.nodup apart
    | cut len => exact labelled.nodup.sublist (List.take_sublist _ _)
    | trim count => exact labelled.nodup.sublist (List.drop_sublist _ _)
    | advance count => exact labelled.nodup
  · intro item member
    have old : item ∈ l.window.items ∨ item ∈ change.new := by
      cases change with
      | grow new => exact List.mem_append.mp member
      | push new => exact (List.mem_append.mp member).symm
      | cut len => exact Or.inl (List.mem_of_mem_take member)
      | trim count => exact Or.inl (List.mem_of_mem_drop member)
      | advance count => exact Or.inl member
    exact List.mem_append.mpr (old.imp_left (labelled.seen item))
  · intro item member
    refine List.mem_append_left _ ?_
    rcases List.mem_append.mp member with old | new
    · exact labelled.consumed item old
    · exact labelled.seen item (taken item new)

/-- **No change but an advance takes an unread item that stays in the window.** -/
theorem apply_unskipped (labelled : l.Labelled) (allows : l.Allows change)
    (other : ∀ count, change ≠ .advance count) {item : α} (unread : item ∈ l.window.unread)
    (stays : item ∈ (l.apply change).window.items) : item ∈ (l.apply change).window.unread := by
  have old : item ∈ l.window.items := List.mem_of_mem_drop unread
  have unseen : item ∉ l.window.read := fun read => not_unread_of_read labelled.nodup read unread
  -- what is read after the change is read before it, or is new in front
  refine (mem_items.mp stays).resolve_left fun read => ?_
  cases change with
  | grow new =>
    rw [window_apply, read_grow labelled.inside] at read
    exact unseen read
  | push new =>
    have split : (new ++ l.window.items).take l.window.pos =
        new.take l.window.pos ++ l.window.items.take (l.window.pos - new.length) := List.take_append
    have read : item ∈ (new ++ l.window.items).take l.window.pos := read
    rw [split] at read
    rcases List.mem_append.mp read with fresh | early
    · exact allows.fresh item (List.mem_of_mem_take fresh) (labelled.seen item old)
    · exact unseen (List.take_subset_take_left _ (Nat.sub_le _ _) early)
  | cut len =>
    rw [window_apply, read_cut] at read
    exact unseen (List.mem_of_mem_take read)
  | trim count =>
    rw [window_apply, read_trim] at read
    exact unseen (List.mem_of_mem_drop read)
  | advance count => exact other count rfl

/-- A harmless change keeps the ledger clean. -/
theorem apply_clean (labelled : l.Labelled) (clean : l.Clean) (allows : l.Allows change)
    (harmless : l.window.Harmless change) : (l.apply change).Clean := by
  have unconsumed : ∀ item ∈ change.new, item ∉ l.consumed :=
    fun item new member => allows.fresh item new (labelled.consumed item member)
  cases change with
  | grow new =>
    constructor
    all_goals rw [consumed_apply, taken, List.append_nil, window_apply]
    · rw [read_grow labelled.inside]
      exact clean.read
    · rw [unread_grow labelled.inside]
      exact List.forall_mem_append.mpr ⟨clean.unread, unconsumed⟩
  | push new =>
    rcases harmless new rfl with rfl | start
    · exact ⟨by simpa [taken, Window.apply] using clean.read,
        by simpa [taken, Window.apply] using clean.unread⟩
    · constructor
      all_goals rw [consumed_apply, taken, List.append_nil, window_apply]
      · rw [read_push start]
        exact fun item none' => absurd none' List.not_mem_nil
      · rw [unread_push start]
        exact List.forall_mem_append.mpr ⟨unconsumed, clean.unread⟩
  | cut len =>
    constructor
    all_goals rw [consumed_apply, taken, List.append_nil, window_apply]
    · rw [read_cut]
      exact fun item read => clean.read item (List.mem_of_mem_take read)
    · rw [unread_cut]
      exact fun item unread => clean.unread item (List.mem_of_mem_take unread)
  | trim count =>
    constructor
    all_goals rw [consumed_apply, taken, List.append_nil, window_apply]
    · rw [read_trim]
      exact fun item read => clean.read item (List.mem_of_mem_drop read)
    · rw [unread_trim]
      exact fun item unread => clean.unread item (List.mem_of_mem_drop unread)
  | advance count =>
    have nodup : l.window.unread.Nodup := labelled.nodup.sublist (List.drop_sublist _ _)
    constructor
    all_goals rw [consumed_apply, taken, window_apply]
    · rw [read_advance]
      intro item read
      exact List.mem_append.mpr ((List.mem_append.mp read).imp_left (clean.read item))
    · rw [unread_advance]
      intro item later consumed
      rcases List.mem_append.mp consumed with before | now
      · exact clean.unread item (List.mem_of_mem_drop later) before
      · exact List.disjoint_take_drop nodup (Nat.le_refl count) now later

/-- Items in front of read ones make the last read item unread again. -/
theorem exists_consumed_unread (labelled : l.Labelled) (clean : l.Clean) {new : List α}
    (some' : new ≠ []) (later : l.window.pos ≠ 0) :
    ∃ item ∈ l.consumed, item ∈ (l.window.apply (.push new)).unread := by
  have inside := labelled.inside
  have bound : l.window.pos - 1 < l.window.items.length := by omega
  refine ⟨l.window.items[l.window.pos - 1], clean.read _ ?_, ?_⟩
  · exact List.mem_take_iff_getElem.mpr ⟨l.window.pos - 1, by omega, rfl⟩
  · have positive : 0 < new.length := List.length_pos_iff.mpr some'
    have split : (l.window.apply (.push new)).unread =
        new.drop l.window.pos ++ l.window.items.drop (l.window.pos - new.length) :=
      List.drop_append
    rw [split]
    refine List.mem_append_right _ (List.mem_drop_iff_getElem.mpr ?_)
    have index : l.window.pos - new.length + (l.window.pos - 1 - (l.window.pos - new.length)) =
        l.window.pos - 1 := by omega
    exact ⟨l.window.pos - 1 - (l.window.pos - new.length), by omega, by simp only [index]⟩

/-- **A change shows no consumed item as unread exactly when it adds no items in front of read
ones.** -/
theorem apply_unread_iff (labelled : l.Labelled) (clean : l.Clean) (allows : l.Allows change) :
    (∀ item ∈ (l.apply change).window.unread, item ∉ (l.apply change).consumed) ↔
      l.window.Harmless change := by
  constructor
  · rintro unread new rfl
    by_contra harmful
    rw [not_or] at harmful
    obtain ⟨item, consumed, again⟩ := exists_consumed_unread labelled clean harmful.1 harmful.2
    exact unread item again (List.mem_append_left _ consumed)
  · exact fun harmless => (apply_clean labelled clean allows harmless).unread

end WindowLedger
