/-
**`nng_msg`: the body of a message in its allocation.**

The body is a stretch of one allocation, with memory before and after it; that memory keeps what was
last written there. Growing at one end takes memory from that end, or moves the body to another
allocation; shrinking gives memory back. What the library decides is part of the input: whether it
leaves the body in its place, where it moves it to, or that it is out of memory. So is where it lets
what is left of a body start whose first bytes were removed: NNG leaves it where it is, but goes back to
the start of a body that was removed whole.

The library's interface leaves open what `nng_msg_capacity` counts, so this is a parameter: the whole
allocation, or the contents and the memory after them.

* `NngMsg.Fits` — a message within what one object may take; every operation keeps it.
* `place_some`, `append_some`, `insert_some`, `trim_some`, `reserve_some`, `realloc_some` — what each
  operation makes of a message.
* `NngMsg.Honours` — a library that moves a body only when it has to; `reserve_honoured`,
  `append_honoured` and `realloc_honoured` are what it then grants.
-/

import NngRs.Runtime.Usize
import Mathlib.Data.List.Basic

namespace NngRs.Sys

/-- A message: its header, and the allocation that holds its body. -/
structure NngMsg (α : Type) where
  header : List α
  /-- The memory before the body, the headroom. -/
  before : List α
  body : List α
  /-- The memory after the body. -/
  after : List α
deriving DecidableEq, Repr

/-- What `nng_msg_capacity` counts. -/
inductive Capacity
  /-- The whole allocation, with the headroom. -/
  | total
  /-- The contents and the memory after them. -/
  | contents
deriving DecidableEq, Repr

/-- What the library does when a body needs room, or has lost its first bytes. -/
inductive Placement (α : Type)
  /-- It leaves the body where it is. -/
  | keep
  /-- It moves the body to a place with this memory before and after it. -/
  | move (before after : List α)
  /-- `NNG_ENOMEM`. -/
  | fail
deriving DecidableEq, Repr

/-- The memory before a body after it was placed. -/
def Placement.before {α : Type} (placement : Placement α) (m : NngMsg α) : List α :=
  match placement with
  | .move before _ => before
  | .keep | .fail => m.before

namespace NngMsg

variable {α : Type}

/-- The size of the allocation. -/
def size (m : NngMsg α) : Nat := m.before.length + m.body.length + m.after.length

/-- `nng_msg_capacity`. -/
def capacity (capacity : Capacity) (m : NngMsg α) : Nat :=
  match capacity with
  | .total => m.size
  | .contents => m.body.length + m.after.length

/-- The message with enough room, or `none` for `NNG_ENOMEM`. An allocation is an object. -/
def place (target : Target) (enough : NngMsg α → Bool) (placement : Placement α) (m : NngMsg α) :
    Option (NngMsg α) :=
  match placement with
  | .keep => if enough m then some m else none
  | .move before after =>
    let moved := { m with before, after }
    if enough moved ∧ moved.size ≤ target.isizeMax then some moved else none
  | .fail => none

/-- `nng_msg_alloc`: a body of the given size, with what the memory holds. -/
def alloc (target : Target) (size : Nat) (before body after : List α) : Option (NngMsg α) :=
  let m : NngMsg α := ⟨[], before, body, after⟩
  if body.length = size ∧ m.size ≤ target.isizeMax then some m else none

/-- `nng_msg_append`. -/
def append (target : Target) (placement : Placement α) (m : NngMsg α) (bytes : List α) :
    Option (NngMsg α) :=
  (m.place target (fun m => bytes.length ≤ m.after.length) placement).map fun m =>
    { m with body := m.body ++ bytes, after := m.after.drop bytes.length }

/-- `nng_msg_insert`. -/
def insert (target : Target) (placement : Placement α) (m : NngMsg α) (bytes : List α) :
    Option (NngMsg α) :=
  (m.place target (fun m => bytes.length ≤ m.before.length) placement).map fun m =>
    { m with
      before := m.before.take (m.before.length - bytes.length)
      body := bytes ++ m.body }

/-- `nng_msg_chop`, of no more than the length of the body. -/
def chop (m : NngMsg α) (count : Nat) : NngMsg α :=
  { m with
    body := m.body.take (m.body.length - count)
    after := m.body.drop (m.body.length - count) ++ m.after }

/-- `nng_msg_trim`, of no more than the length of the body. It does not fail: what remains stays where
it is if the library has no other place for it. -/
def trim (target : Target) (placement : Placement α) (m : NngMsg α) (count : Nat) : NngMsg α :=
  let rest := { m with before := m.before ++ m.body.take count, body := m.body.drop count }
  (rest.place target (fun _ => true) placement).getD rest

/-- `nng_msg_reserve`. -/
def reserve (target : Target) (capacity : Capacity) (placement : Placement α) (m : NngMsg α)
    (wanted : Nat) : Option (NngMsg α) :=
  m.place target (fun m => wanted ≤ m.capacity capacity) placement

/-- `nng_msg_realloc`, to a greater length: the body takes over memory as it is. -/
def realloc (target : Target) (placement : Placement α) (m : NngMsg α) (len : Nat) :
    Option (NngMsg α) :=
  (m.place target (fun m => len ≤ m.body.length + m.after.length) placement).map fun m =>
    { m with
      body := m.body ++ m.after.take (len - m.body.length)
      after := m.after.drop (len - m.body.length) }

/-- `nng_msg_dup`: a copy, with memory of its own before and after it. -/
def dup (target : Target) (placement : Placement α) (m : NngMsg α) : Option (NngMsg α) :=
  m.place target (fun _ => true) placement

/-- `nng_msg_header_append`; `granted` is whether it returned success. -/
def headerAppend (granted : Bool) (m : NngMsg α) (bytes : List α) : Option (NngMsg α) :=
  if granted then some { m with header := m.header ++ bytes } else none

/-- `nng_msg_header_insert`. -/
def headerInsert (granted : Bool) (m : NngMsg α) (bytes : List α) : Option (NngMsg α) :=
  if granted then some { m with header := bytes ++ m.header } else none

/-- `nng_msg_header_chop`, of no more than the length of the header. -/
def headerChop (m : NngMsg α) (count : Nat) : NngMsg α :=
  { m with header := m.header.take (m.header.length - count) }

/-- `nng_msg_header_trim`, of no more than the length of the header. -/
def headerTrim (m : NngMsg α) (count : Nat) : NngMsg α :=
  { m with header := m.header.drop count }

/-- The memory after bytes were stored at an offset in the allocation. -/
def store (m : NngMsg α) (offset : Nat) (bytes : List α) : NngMsg α :=
  let memory := m.before ++ m.body ++ m.after
  let stored := memory.take offset ++ bytes ++ memory.drop (offset + bytes.length)
  { m with
    before := stored.take m.before.length
    body := (stored.drop m.before.length).take m.body.length
    after := stored.drop (m.before.length + m.body.length) }

/-- An allocation is not larger than an object may be. -/
def Fits (target : Target) (m : NngMsg α) : Prop := m.size ≤ target.isizeMax

instance (target : Target) (m : NngMsg α) : Decidable (m.Fits target) :=
  inferInstanceAs (Decidable (_ ≤ _))

/-- The library leaves a body in its place unless the length asked for is greater than the contents
and the memory after them; then it moves the body to enough memory. -/
def Honours (target : Target) (m : NngMsg α) (wanted : Nat) (placement : Placement α) : Prop :=
  match placement with
  | .keep => wanted ≤ m.body.length + m.after.length
  | .move before after =>
    m.body.length + m.after.length < wanted ∧ wanted ≤ m.body.length + after.length
      ∧ before.length + m.body.length + after.length ≤ target.isizeMax
  | .fail => False

instance (target : Target) (m : NngMsg α) (wanted : Nat) :
    (placement : Placement α) → Decidable (m.Honours target wanted placement)
  | .keep => inferInstanceAs (Decidable (_ ≤ _))
  | .move _ _ => inferInstanceAs (Decidable (_ ∧ _ ∧ _))
  | .fail => inferInstanceAs (Decidable False)

/-! ## What the operations do -/

variable {target : Target} {placement : Placement α} {m m' : NngMsg α}

/-- A placement leaves the header and the body, and gives the room that was asked for. -/
theorem place_some {enough : NngMsg α → Bool} (placed : m.place target enough placement = some m') :
    m'.header = m.header ∧ m'.body = m.body ∧ enough m' = true
      ∧ (m.Fits target → m'.Fits target) := by
  cases placement with
  | keep =>
    obtain ⟨room, same⟩ := Option.ite_none_right_eq_some.mp placed
    cases same
    exact ⟨rfl, rfl, room, id⟩
  | move before after =>
    obtain ⟨⟨room, fits⟩, same⟩ := Option.ite_none_right_eq_some.mp placed
    cases same
    exact ⟨rfl, rfl, room, fun _ => fits⟩
  | fail => cases placed

theorem place_before {enough : NngMsg α → Bool}
    (placed : m.place target enough placement = some m') : m'.before = placement.before m := by
  cases placement with
  | keep =>
    obtain ⟨-, same⟩ := Option.ite_none_right_eq_some.mp placed
    cases same
    rfl
  | move before after =>
    obtain ⟨-, same⟩ := Option.ite_none_right_eq_some.mp placed
    cases same
    rfl
  | fail => cases placed

/-- `nng_msg_append` adds the bytes at the end. -/
theorem append_some {bytes : List α} (appended : m.append target placement bytes = some m') :
    m'.header = m.header ∧ m'.body = m.body ++ bytes ∧ (m.Fits target → m'.Fits target) := by
  obtain ⟨placed, found, rfl⟩ := Option.map_eq_some_iff.mp appended
  obtain ⟨header, body, room, fits⟩ := place_some found
  refine ⟨header, congrArg (· ++ bytes) body, fun small => ?_⟩
  have room : bytes.length ≤ placed.after.length := of_decide_eq_true room
  have small := fits small
  simp only [Fits, size, List.length_append, List.length_drop] at small ⊢
  omega

/-- `nng_msg_insert` adds the bytes at the front. -/
theorem insert_some {bytes : List α} (inserted : m.insert target placement bytes = some m') :
    m'.header = m.header ∧ m'.body = bytes ++ m.body ∧ (m.Fits target → m'.Fits target) := by
  obtain ⟨placed, found, rfl⟩ := Option.map_eq_some_iff.mp inserted
  obtain ⟨header, body, room, fits⟩ := place_some found
  refine ⟨header, congrArg (bytes ++ ·) body, fun small => ?_⟩
  have room : bytes.length ≤ placed.before.length := of_decide_eq_true room
  have small := fits small
  simp only [Fits, size, List.length_append, List.length_take] at small ⊢
  omega

/-- `nng_msg_reserve` leaves the body. -/
theorem reserve_some {capacity : Capacity} {wanted : Nat}
    (reserved : m.reserve target capacity placement wanted = some m') :
    m'.header = m.header ∧ m'.body = m.body ∧ wanted ≤ m'.capacity capacity
      ∧ (m.Fits target → m'.Fits target) := by
  obtain ⟨header, body, room, fits⟩ := place_some reserved
  exact ⟨header, body, of_decide_eq_true room, fits⟩

/-- `nng_msg_realloc` extends the body to the new length. -/
theorem realloc_some {len : Nat} (longer : m.body.length ≤ len)
    (extended : m.realloc target placement len = some m') :
    m'.header = m.header ∧ m.body <+: m'.body ∧ m'.body.length = len
      ∧ (m.Fits target → m'.Fits target) := by
  obtain ⟨placed, found, rfl⟩ := Option.map_eq_some_iff.mp extended
  obtain ⟨header, body, room, fits⟩ := place_some found
  have room : len ≤ placed.body.length + placed.after.length := of_decide_eq_true room
  refine ⟨header, ⟨_, congrArg (· ++ _) body.symm⟩, ?_, fun small => ?_⟩
  · dsimp only
    rw [List.length_append, List.length_take, body] at *
    omega
  · have small := fits small
    simp only [Fits, size, List.length_append, List.length_take, List.length_drop] at small ⊢
    omega

@[simp] theorem chop_size (m : NngMsg α) (count : Nat) : (m.chop count).size = m.size := by
  simp only [chop, size, List.length_append, List.length_take, List.length_drop]
  omega

/-- `nng_msg_trim` removes the first bytes, wherever it leaves the rest. -/
theorem trim_some (placement : Placement α) (m : NngMsg α) (count : Nat) :
    (m.trim target placement count).header = m.header
      ∧ (m.trim target placement count).body = m.body.drop count
      ∧ (m.Fits target → (m.trim target placement count).Fits target) := by
  have same : size { m with before := m.before ++ m.body.take count, body := m.body.drop count } =
      m.size := by
    simp only [size, List.length_append, List.length_take, List.length_drop]
    omega
  rw [trim]
  cases placed : place target (fun _ => true) placement
      { m with before := m.before ++ m.body.take count, body := m.body.drop count } with
  | none => exact ⟨rfl, rfl, fun small => same.trans_le small⟩
  | some m' =>
    obtain ⟨header, body, -, fits⟩ := place_some placed
    exact ⟨header, body, fun small => fits (same.trans_le small)⟩

/-! ## What an honest library does -/

theorem honours_keep {wanted : Nat} (honours : m.Honours target wanted placement)
    (room : wanted ≤ m.body.length + m.after.length) : placement = .keep := by
  cases placement with
  | keep => rfl
  | move before after => exact absurd room (Nat.not_le.mpr honours.1)
  | fail => cases honours

/-- A reserve is granted. -/
theorem reserve_honoured {wanted : Nat} (honours : m.Honours target wanted placement) :
    ∃ m', m.reserve target .contents placement wanted = some m' := by
  cases placement with
  | keep => exact ⟨m, if_pos (decide_eq_true honours)⟩
  | move before after =>
    obtain ⟨-, room, fits⟩ := honours
    exact ⟨_, if_pos ⟨decide_eq_true room, fits⟩⟩
  | fail => cases honours

/-- Bytes that fit are appended in place. -/
theorem append_honoured {bytes : List α} (room : bytes.length ≤ m.after.length)
    (honours : m.Honours target (m.body.length + bytes.length) placement) :
    ∃ m', m.append target placement bytes = some m' := by
  obtain rfl := honours_keep honours (Nat.add_le_add_left room _)
  rw [append, place, if_pos (decide_eq_true room)]
  exact ⟨_, rfl⟩

/-- A body that fits is extended in place, over what the memory holds. -/
theorem realloc_honoured {bytes rest : List α} (memory : m.after = bytes ++ rest)
    (honours : m.Honours target (m.body.length + bytes.length) placement) :
    m.realloc target placement (m.body.length + bytes.length) =
      some { m with body := m.body ++ bytes, after := rest } := by
  have room : m.body.length + bytes.length ≤ m.body.length + m.after.length := by
    rw [memory, List.length_append]
    omega
  obtain rfl := honours_keep honours room
  rw [realloc, place, if_pos (decide_eq_true room), Option.map_some, Nat.add_sub_cancel_left, memory,
    List.take_left, List.drop_left]

/-- Storing bytes behind the body changes the first bytes of the memory there, and nothing else. -/
theorem store_after (m : NngMsg α) (bytes : List α) :
    m.store (m.before.length + m.body.length) bytes =
      { m with after := bytes ++ m.after.drop bytes.length } := by
  have front : (m.before ++ m.body ++ m.after).take (m.before.length + m.body.length) =
      m.before ++ m.body := List.take_left' (List.length_append)
  have back : (m.before ++ m.body ++ m.after).drop
      (m.before.length + m.body.length + bytes.length) = m.after.drop bytes.length := by
    rw [← List.length_append, List.drop_append, List.drop_of_length_le (Nat.le_add_right _ _),
      Nat.add_sub_cancel_left, List.nil_append]
  rw [store, front, back]
  simp

end NngMsg

end NngRs.Sys
