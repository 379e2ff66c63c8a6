/-
**`chunk_mut` and the allocation it hands out.**

`chunk_mut` takes the memory from the end of the body on, as long as the capacity is greater than the
length. That is inside the allocation when the capacity counts the contents and the memory after
them. When it counts the whole allocation, as the documentation of `capacity` says, the memory before
the body is counted as if it were after it.

* `chunkMut_slice` — the slice starts where the body ends, and is as long as the capacity is greater
  than the length.
* `chunk_mut_inside_iff` — over every run: every slice is inside the allocation exactly when the
  capacity does not count the headroom or there is none where a slice is made.
-/

import NngRs.Anng.Buffer
import NngRs.Machine.Run

namespace NngRs.Anng

open Sys EventMachine Message

namespace Message

variable {α : Type} {target : Target} {capacity : Capacity} {msg msg' : Message (NngMsg α)}
  {reserving : Placement α} {slice : Slice}

/-- The memory before the body when `chunk_mut` makes its slice: a full message is given room first,
and the library may move it. -/
def headroom (capacity : Capacity) (msg : Message (NngMsg α)) (reserving : Placement α) : Nat :=
  if msg.inner.capacity capacity ≤ msg.len then (reserving.before msg.inner).length
  else msg.inner.before.length

theorem reserveExact_before {additional : Nat}
    (reserved : msg.reserveExact target capacity reserving additional = .ok msg') :
    msg'.inner.before = reserving.before msg.inner := by
  rw [reserveExact] at reserved
  cases added : target.add msg.len additional with
  | none =>
    rw [added] at reserved
    cases reserved
  | some wanted =>
    rw [added] at reserved
    dsimp only at reserved
    cases placed : msg.inner.reserve target capacity reserving wanted with
    | none =>
      rw [placed] at reserved
      cases reserved
    | some inner =>
      rw [placed] at reserved
      cases reserved
      exact NngMsg.place_before placed

/-- **The slice of `chunk_mut` starts where the body ends, and is as long as the capacity is greater
than the length.** -/
theorem chunkMut_slice (fits : msg.inner.Fits target)
    (made : msg.chunkMut target capacity reserving = .ok (slice, msg')) :
    Becomes target msg msg' msg.asSlice msg.pos
      ∧ msg'.inner.before.length = headroom capacity msg reserving
      ∧ slice = ⟨msg'.inner.before.length + msg'.len, msg'.inner.capacity capacity - msg'.len⟩ := by
  rw [chunkMut] at made
  by_cases full : msg.inner.capacity capacity ≤ msg.len
  · rw [if_pos full] at made
    cases reserved : msg.reserve target capacity reserving 64 with
    | error p =>
      rw [reserved] at made
      cases made
    | ok roomy =>
      rw [reserved] at made
      cases made
      have becomes := reserve_ok reserved
      have len : msg'.len = msg.len := congrArg List.length becomes.body
      have wide := target.wide_isizeMax
      have exact' := reserve_full fits (by omega) (by omega) reserved
      refine ⟨becomes, ?_, ?_⟩
      · rw [headroom, if_pos full, reserveExact_before exact']
      · rw [spareSlice, len]
  · rw [if_neg full] at made
    cases made
    refine ⟨Becomes.refl msg, ?_, rfl⟩
    rw [headroom, if_neg full]

/-- `chunk_mut` has the room it needs: the message is not full, or the `reserve` on it succeeds. -/
def HasRoom (target : Target) (capacity : Capacity) (msg : Message (NngMsg α))
    (reserving : Placement α) : Prop :=
  msg.inner.capacity capacity ≤ msg.len → (msg.reserve target capacity reserving 64).isOk

instance (msg : Message (NngMsg α)) : Decidable (msg.HasRoom target capacity reserving) :=
  inferInstanceAs (Decidable (_ → _))

/-- `chunk_mut` returns exactly when it has room. -/
theorem chunkMut_isOk_iff :
    (msg.chunkMut target capacity reserving).isOk ↔ msg.HasRoom target capacity reserving := by
  rw [chunkMut, HasRoom]
  by_cases full : msg.inner.capacity capacity ≤ msg.len
  · rw [if_pos full, forall_prop_of_true full]
    cases msg.reserve target capacity reserving 64 <;> exact Iff.rfl
  · rw [if_neg full]
    exact iff_of_true rfl fun filled => absurd filled full

end Message

/-- The slice that was handed out, and the size of the allocation. -/
structure Handed where
  slice : Slice
  size : Nat
deriving DecidableEq, Repr

/-- The slice lies in the allocation. -/
def Handed.Inside (handed : Handed) : Prop := handed.slice.start + handed.slice.len ≤ handed.size

instance (handed : Handed) : Decidable handed.Inside := inferInstanceAs (Decidable (_ ≤ _))

/-- The calls that shift, shorten or extend a body, with the library's decisions. -/
inductive BufferCall (α : Type)
  | withCapacity (size : Nat) (before body after : List α)
  | write (buf : List α) (reserving appending : Placement α)
  | prepend (buf : List α) (inserting : Placement α)
  | truncate (len : Nat)
  | truncateFront (len : Nat) (trimming : Placement α)
  | reserve (additional : Nat) (reserving : Placement α)
  | advanceMut (cnt : Nat) (extending : Placement α)
  | chunkMut (reserving : Placement α)
deriving DecidableEq, Repr

section Calls

variable {α : Type} (target : Target) (capacity : Capacity)

/-- The message after a call; a call that fails leaves it. -/
def BufferCall.on (msg : Message (NngMsg α)) : BufferCall α → Message (NngMsg α)
  | withCapacity size before body after =>
    match Message.withCapacity target size before body after with
    | .ok new => new
    | .error _ => msg
  | write buf reserving appending =>
    match msg.write target capacity reserving appending buf with
    | .ok (_, msg) => msg
    | .error _ => msg
  | prepend buf inserting => (msg.prepend target inserting buf).getD msg
  | truncate len => msg.truncate len
  | truncateFront len trimming => msg.truncateFront target trimming len
  | reserve additional reserving =>
    match msg.reserve target capacity reserving additional with
    | .ok msg => msg
    | .error _ => msg
  | advanceMut cnt extending =>
    match msg.advanceMut target extending cnt with
    | .ok msg => msg
    | .error _ => msg
  | chunkMut reserving =>
    match msg.chunkMut target capacity reserving with
    | .ok (_, msg) => msg
    | .error _ => msg

/-- The slice a call hands out. -/
def BufferCall.handed (msg : Message (NngMsg α)) : BufferCall α → List Handed
  | chunkMut reserving =>
    match msg.chunkMut target capacity reserving with
    | .ok (slice, msg) => [⟨slice, msg.inner.size⟩]
    | .error _ => []
  | _ => []

/-- One message at a time, none at first; the events are the slices that were handed out. -/
def bufferMachine : EventMachine (Option (Message (NngMsg α))) (BufferCall α) Handed where
  start := none
  step s call :=
    match s, call with
    | none, .withCapacity size before body after =>
      some ((Message.withCapacity target size before body after).toOption, [])
    | none, _ => none
    | some msg, call => some (some (call.on target capacity msg), call.handed target capacity msg)

/-- If the step makes a slice, then the capacity does not count the headroom or there is none. -/
def WithoutHeadroom (t : Transition (Option (Message (NngMsg α))) (BufferCall α) Handed) : Prop :=
  match t.pre, t.act with
  | some msg, .chunkMut reserving =>
    msg.HasRoom target capacity reserving →
      capacity = .contents ∨ headroom capacity msg reserving = 0
  | _, _ => True

instance (t : Transition (Option (Message (NngMsg α))) (BufferCall α) Handed) :
    Decidable (WithoutHeadroom target capacity t) := by
  unfold WithoutHeadroom
  split <;> infer_instance

variable {target : Target} {capacity : Capacity}

/-- Every call keeps a message valid. -/
theorem BufferCall.on_valid {msg : Message (NngMsg α)} (valid : msg.Valid target)
    (call : BufferCall α) : (call.on target capacity msg).Valid target := by
  cases call with
  | withCapacity size before body after =>
    rw [on]
    cases created : Message.withCapacity target size before body after with
    | error p => exact valid
    | ok new => exact (withCapacity_valid created).2.2
  | write buf reserving appending =>
    rw [on]
    cases written : msg.write target capacity reserving appending buf with
    | error p => exact valid
    | ok outcome => exact valid.write written
  | prepend buf inserting =>
    rw [on]
    cases prepended : msg.prepend target inserting buf with
    | none => exact valid
    | some msg' => exact valid.prepend prepended
  | truncate len => exact valid.truncate len
  | truncateFront len trimming => exact valid.truncateFront trimming len
  | reserve additional reserving =>
    rw [on]
    cases reserved : msg.reserve target capacity reserving additional with
    | error p => exact valid
    | ok msg' => exact valid.reserve reserved
  | advanceMut cnt extending =>
    rw [on]
    cases advanced : msg.advanceMut target extending cnt with
    | error p => exact valid
    | ok msg' => exact valid.advanceMut advanced
  | chunkMut reserving =>
    rw [on]
    cases made : msg.chunkMut target capacity reserving with
    | error p => exact valid
    | ok outcome => exact (chunkMut_slice valid.fits made).1.valid valid valid.positioned

/-- **A slice of `chunk_mut` is inside the allocation exactly when the capacity does not count the
headroom or there is none.** -/
theorem chunkMut_inside_iff {msg msg' : Message (NngMsg α)} {reserving : Placement α} {slice : Slice}
    (fits : msg.inner.Fits target)
    (made : msg.chunkMut target capacity reserving = .ok (slice, msg')) :
    (Handed.mk slice msg'.inner.size).Inside ↔
      capacity = .contents ∨ headroom capacity msg reserving = 0 := by
  obtain ⟨-, before, rfl⟩ := chunkMut_slice fits made
  rw [← before]
  cases capacity with
  | contents =>
    refine iff_of_true ?_ (Or.inl rfl)
    simp only [Handed.Inside, NngMsg.capacity, NngMsg.size, len, asSlice]
    omega
  | total =>
    simp only [Handed.Inside, NngMsg.capacity, NngMsg.size, len, asSlice, reduceCtorEq, false_or]
    omega

/-- The message, if there is one, is valid. -/
def BufferValid (target : Target) (s : Option (Message (NngMsg α))) : Prop :=
  ∀ msg, s = some msg → msg.Valid target

theorem bufferValid_step {s s' : Option (Message (NngMsg α))} {call : BufferCall α}
    {out : List Handed} (valid : BufferValid target s)
    (stepped : (bufferMachine target capacity).step s call = some (s', out)) :
    BufferValid target s' := by
  rintro msg' rfl
  cases s with
  | none =>
    cases call with
    | withCapacity size before body after =>
      rw [bufferMachine] at stepped
      dsimp only at stepped
      cases created : Message.withCapacity target size before body after with
      | error p =>
        rw [created] at stepped
        cases stepped
      | ok new =>
        rw [created] at stepped
        cases stepped
        exact (withCapacity_valid created).2.2
    | _ => cases stepped
  | some msg =>
    cases stepped
    exact call.on_valid (valid msg rfl)

/-- Each step of a run, seen alone. -/
theorem step_inside_iff {s s' : Option (Message (NngMsg α))} {call : BufferCall α}
    {out : List Handed} (valid : BufferValid target s)
    (stepped : (bufferMachine target capacity).step s call = some (s', out)) :
    (∀ handed ∈ out, handed.Inside) ↔ WithoutHeadroom target capacity ⟨s, call, s', out⟩ := by
  cases s with
  | none =>
    cases call with
    | withCapacity size before body after =>
      cases stepped
      exact iff_of_true (List.forall_mem_nil _) trivial
    | _ => cases stepped
  | some msg =>
    cases stepped
    cases call with
    | chunkMut reserving =>
      rw [WithoutHeadroom, BufferCall.handed]
      dsimp only
      rw [← chunkMut_isOk_iff]
      cases made : msg.chunkMut target capacity reserving with
      | error p => exact iff_of_true (List.forall_mem_nil _) (fun returned => by cases returned)
      | ok outcome =>
        rw [List.forall_mem_singleton, chunkMut_inside_iff (valid msg rfl).fits made]
        exact ⟨fun inside _ => inside, fun inside => inside rfl⟩
    | _ => exact iff_of_true (List.forall_mem_nil _) trivial

/-- **Over every run: each slice that is handed out is inside the allocation, exactly when the capacity
does not count the headroom or there is none where a slice is made.** -/
theorem chunk_mut_inside_iff
    {steps : List (Transition (Option (Message (NngMsg α))) (BufferCall α) Handed)}
    {s : Option (Message (NngMsg α))} (run : (bufferMachine target capacity).Run steps s) :
    (∀ handed ∈ events steps, handed.Inside) ↔ ∀ t ∈ steps, WithoutHeadroom target capacity t := by
  have single : (∀ handed ∈ events steps, handed.Inside) ↔
      ∀ t ∈ steps, ∀ handed ∈ t.out, handed.Inside := by
    constructor
    · exact fun all t member handed shown => all handed (mem_events.mpr ⟨t, member, shown⟩)
    · intro all handed shown
      obtain ⟨t, member, shown⟩ := mem_events.mp shown
      exact all t member handed shown
  rw [single]
  refine forall₂_congr fun t member => ?_
  obtain ⟨reached, stepped⟩ := run.before t member
  have valid : BufferValid target t.pre := by
    refine reached.invariant ?_ fun s a s' out valid stepped => bufferValid_step valid stepped
    rintro msg ⟨⟩
  exact step_inside_iff valid stepped

end Calls

/-- The body is moved to make room before it; then it is removed whole, and the library goes back to
where it started. -/
theorem chunk_mut_inside_moved :
    ∃ steps s, (bufferMachine (α := Nat) .x64 .total).Run steps s
      ∧ events steps = [⟨⟨3, 5⟩, 8⟩, ⟨⟨6, 2⟩, 8⟩, ⟨⟨0, 8⟩, 8⟩]
      ∧ ∀ handed ∈ events steps, handed.Inside := by
  have run := run_of_replay (M := bufferMachine .x64 .total)
    [.withCapacity 8 [] [0, 0, 0, 0, 0, 0, 0, 0] [], .write [1, 2, 3] .keep .keep, .chunkMut .keep,
      .prepend [4, 5, 6] (.move [0, 0, 0] [0, 0]), .chunkMut .keep,
      .truncateFront 0 (.move [] [4, 5, 6, 1, 2, 3, 0, 0]), .chunkMut .keep]
    rfl
  exact ⟨_, _, run, by decide, (chunk_mut_inside_iff run).mpr (by decide)⟩

/-- **Not every slice is inside**: with a capacity that is the whole allocation, removing two bytes
from the front makes the slice end two bytes behind the allocation. -/
theorem chunk_mut_outside :
    ¬ ∀ capacity steps s, (bufferMachine (α := Nat) .x64 capacity).Run steps s →
      ∀ handed ∈ events steps, handed.Inside := by
  intro always
  have run := run_of_replay (M := bufferMachine .x64 .total)
    [.withCapacity 8 [] [0, 0, 0, 0, 0, 0, 0, 0] [], .write [1, 2, 3, 4] .keep .keep,
      .truncateFront 2 .keep, .chunkMut .keep]
    rfl
  have inside := always .total _ _ run ⟨⟨4, 6⟩, 8⟩ (by decide)
  exact absurd inside (by decide)

end NngRs.Anng
