/-
**The growth of a message that is written to.**

`write` reserves room for its bytes and appends them. The library does what its documentation says:
`nng_msg_reserve` moves no more bytes than there are, and `nng_msg_append` of bytes that fit leaves the
capacity. A run is any sequence of successful writes; it shows, for each increase of the capacity, how
many bytes were moved.

* `reserve_growth` — a `reserve` either has the room, or grows to the next power of two.
* `growingWriter_kept` — the length, the capacity and what was moved so far stay an `Account` that is
  kept.
* `growth_bound` — over every run, the number of increases is logarithmic and the number of moved bytes
  linear in the length.
-/

import Mathlib.Algebra.GroupWithZero.Nat
import NngRs.Anng.Reserve
import NngRs.Machine.Run
import NngRs.Machine.Growth

namespace Target

variable {target : Target} {n : Nat}

/-- The next power of two of an object's size is a `usize`. -/
theorem checkedNextPowerOfTwo_object (object : n ≤ target.isizeMax) :
    target.checkedNextPowerOfTwo n = some (2 ^ Nat.clog 2 n) := by
  have twice := target.usizeMax_eq
  have positive : 0 < 2 ^ (target.bits - 1) := Nat.two_pow_pos _
  have small : n ≤ 2 ^ (target.bits - 1) := by
    rw [isizeMax] at object
    omega
  have power : 2 ^ Nat.clog 2 n ≤ 2 ^ (target.bits - 1) :=
    Nat.pow_le_pow_right Nat.two_pos (Nat.clog_le_of_le_pow small)
  rw [isizeMax] at twice
  rw [checkedNextPowerOfTwo, if_pos (by omega)]

end Target

namespace NngRs.Anng

open Sys EventMachine Message

/-- A call of `io::Write::write`, with the library's decisions and the number of bytes that
`nng_msg_reserve` moves. -/
structure WriteCall (α : Type) where
  buf : List α
  reserving : Placement α
  appending : Placement α
  moved : Nat
deriving DecidableEq, Repr

section Growing

variable {α : Type} (target : Target) (capacity : Capacity)

/-- What the library's documentation says of the two calls that a `write` makes, where `roomy` is the
message between them: a reserve moves no more than the body, and bytes that fit leave the capacity. -/
def WriteCall.Documented (call : WriteCall α) (msg roomy msg' : Message (NngMsg α)) : Prop :=
  call.moved ≤ msg.len
    ∧ (roomy.len + call.buf.length ≤ roomy.inner.capacity capacity →
      msg'.inner.capacity capacity = roomy.inner.capacity capacity)

instance (call : WriteCall α) (msg roomy msg' : Message (NngMsg α)) :
    Decidable (call.Documented capacity msg roomy msg') := inferInstanceAs (Decidable (_ ∧ _))

/-- A message that is written to; for each increase of its capacity, a run shows how many bytes were
moved. -/
def growingWriter (start : Message (NngMsg α)) :
    EventMachine (Message (NngMsg α)) (WriteCall α) Nat where
  start := start
  step msg call :=
    match msg.reserve target capacity call.reserving call.buf.length,
      msg.write target capacity call.reserving call.appending call.buf with
    | .ok roomy, .ok (true, msg') =>
      if call.Documented capacity msg roomy msg' then
        some (msg', if msg.inner.capacity capacity < msg'.inner.capacity capacity
          then [call.moved] else [])
      else none
    | _, _ => none

variable {target capacity} {msg msg' roomy start : Message (NngMsg α)}

/-- **A `reserve` either has the room, or grows** to the next power of two at least. -/
theorem reserve_growth {placement : Placement α} {additional : Nat} (fits : msg.inner.Fits target)
    (object : msg.len + additional ≤ target.isizeMax)
    (reserved : msg.reserve target capacity placement additional = .ok roomy) :
    msg.len + additional ≤ msg.inner.capacity capacity ∧ roomy = msg
      ∨ msg.inner.capacity capacity < msg.len + additional
        ∧ msg.len + additional ≤ roomy.inner.capacity capacity
        ∧ Growth (msg.inner.capacity capacity) (roomy.inner.capacity capacity) := by
  have twice := target.usizeMax_eq
  have added : target.add msg.len additional = some (msg.len + additional) :=
    Target.add_eq_of_le (by omega)
  by_cases full : msg.inner.capacity capacity < msg.len + additional
  · refine Or.inr ⟨full, ?_⟩
    have rounded := Target.checkedNextPowerOfTwo_object (capacity_le capacity fits)
    have asked := reserve_full fits (by omega) full reserved
    have bound : 2 ^ Nat.clog 2 (msg.inner.capacity capacity) ≤ target.usizeMax := by
      have some' := rounded
      rw [Target.checkedNextPowerOfTwo] at some'
      exact (Option.ite_none_right_eq_some.mp some').1
    rw [rounded, Option.getD_some] at asked
    -- the capacity asked for is a `usize`, so it is what the library is asked for
    have wanted : target.add msg.len (max (msg.len + additional)
        (2 ^ Nat.clog 2 (msg.inner.capacity capacity)) - msg.len) = some _ :=
      Target.add_eq_of_le (by omega)
    have room := (reserveExact_reserves wanted asked).room
    have above : msg.len + additional ≤ roomy.inner.capacity capacity := by omega
    exact ⟨above, Nat.lt_of_lt_of_le full above, by omega⟩
  · refine Or.inl ⟨Nat.le_of_not_lt full, ?_⟩
    rw [reserve, added] at reserved
    dsimp only at reserved
    rw [if_neg full] at reserved
    cases reserved
    rfl

/-- What a step of the writer does: a `write` of all its bytes, by a library as documented. -/
theorem growingWriter_step {call : WriteCall α} {out : List Nat}
    (stepped : (growingWriter target capacity start).step msg call = some (msg', out)) :
    ∃ roomy, msg.reserve target capacity call.reserving call.buf.length = .ok roomy
      ∧ msg.write target capacity call.reserving call.appending call.buf = .ok (true, msg')
      ∧ call.Documented capacity msg roomy msg'
      ∧ out = if msg.inner.capacity capacity < msg'.inner.capacity capacity
          then [call.moved] else [] := by
  rw [growingWriter] at stepped
  dsimp only at stepped
  split at stepped
  next roomy written reserved wrote =>
    obtain ⟨documented, same⟩ := Option.ite_none_right_eq_some.mp stepped
    cases same
    exact ⟨roomy, reserved, wrote, documented, rfl⟩
  next => cases stepped

/-- The account of a message, after a history of increases of its capacity. -/
def account (capacity : Capacity) (msg : Message (NngMsg α)) (history : List Nat) : Account :=
  ⟨msg.len, msg.inner.capacity capacity, history.length, history.sum⟩

/-- **A write keeps the account.** -/
theorem growingWriter_kept {call : WriteCall α} {history out : List Nat}
    (fits : msg.inner.Fits target) (kept : (account capacity msg history).Kept)
    (stepped : (growingWriter target capacity start).step msg call = some (msg', out)) :
    msg'.inner.Fits target ∧ (account capacity msg' (history ++ out)).Kept := by
  obtain ⟨roomy, reserved, wrote, ⟨less, inPlace⟩, rfl⟩ := growingWriter_step stepped
  have becomes := write_ok wrote
  have fits' := becomes.fits fits
  have length : msg'.len = msg.len + call.buf.length := by
    rw [len, asSlice, becomes.body, if_pos rfl, List.length_append]
    rfl
  have object : msg.len + call.buf.length ≤ target.isizeMax := length ▸ len_le fits'
  have sameLength : roomy.len = msg.len := congrArg List.length (reserve_ok reserved).body
  rw [sameLength] at inPlace
  refine ⟨fits', ?_⟩
  obtain ⟨room, rfl⟩ | ⟨full, room, growth⟩ := reserve_growth fits object reserved
  · have capacity' := inPlace room
    rw [capacity', if_neg (Nat.lt_irrefl _), List.append_nil, account, capacity']
    exact kept.write (by rw [length]; exact Nat.le_add_right _ _) (by rw [length]; exact room)
  · have capacity' := inPlace room
    rw [capacity', if_pos growth.more, account, capacity', length, List.length_append,
      List.sum_append, List.length_singleton, List.sum_singleton]
    exact kept.grow full room growth less

/-- **Writing grows a message a logarithmic number of times, and moves a linear number of bytes**, over
every run of writes from a message with any capacity. -/
theorem growth_bound (fits : start.inner.Fits target) (room : 1 ≤ start.inner.capacity capacity)
    {steps : List (Transition (Message (NngMsg α)) (WriteCall α) Nat)}
    (run : (growingWriter target capacity start).Run steps msg) :
    (events steps).length ≤ 2 * Nat.log 2 msg.len + 2 ∧ (events steps).sum ≤ 8 * msg.len := by
  have both : msg.inner.Fits target ∧ (account capacity msg (events steps)).Kept := by
    have fresh : (account capacity start []).Kept :=
      ⟨len_le_capacity capacity start, room, Or.inl ⟨rfl, rfl⟩⟩
    refine run.invariant
      (I := fun history msg => msg.inner.Fits target ∧ (account capacity msg history).Kept)
      ⟨fits, fresh⟩ ?_
    intro history msg call msg' out holds stepped
    exact growingWriter_kept holds.1 holds.2 stepped
  have grown : (events steps).length ≤ 2 * Nat.log 2 msg.len + 2 := both.2.grown_le
  have moved : (events steps).sum ≤ 5 * msg.len := both.2.moved_le
  exact ⟨grown, moved.trans (Nat.mul_le_mul_right msg.len (by decide))⟩

end Growing

/-- A message with room for one byte. -/
def roomForOne : Message (NngMsg Nat) := ⟨⟨[], [], [], [0]⟩, 0⟩

/-- Six bytes, one at a time: the capacity goes from one through two, three, four and five to eight. -/
theorem growth_bound_bytewise :
    ∃ steps msg, (growingWriter .x64 .contents roomForOne).Run steps msg ∧ msg.len = 6
      ∧ events steps = [1, 2, 3, 4, 5] ∧ (events steps).length ≤ 2 * Nat.log 2 msg.len + 2
      ∧ (events steps).sum ≤ 8 * msg.len := by
  have written : ((growingWriter .x64 .contents roomForOne).replay roomForOne
      [⟨[1], .keep, .keep, 0⟩, ⟨[2], .move [] [0], .keep, 1⟩, ⟨[3], .move [] [0], .keep, 2⟩,
        ⟨[4], .move [] [0], .keep, 3⟩, ⟨[5], .move [] [0], .keep, 4⟩,
        ⟨[6], .move [] [0, 0, 0], .keep, 5⟩]).map (fun ran => (events ran.1, ran.2.len)) =
      some ([1, 2, 3, 4, 5], 6) := by decide +kernel
  obtain ⟨⟨steps, msg⟩, computed, same⟩ := Option.map_eq_some_iff.mp written
  obtain ⟨moved, length⟩ := Prod.mk.inj same
  have run := run_of_replay _ computed
  have fits : roomForOne.inner.Fits .x64 := by decide
  exact ⟨steps, msg, run, length, moved, growth_bound fits (by decide) run⟩

end NngRs.Anng
