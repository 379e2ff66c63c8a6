/-
**What `reserve` and `reserve_exact` promise.**

Both add the length to the number of bytes that are asked for. Where the addition panics on overflow
they keep their promise. Where it wraps, an overflow asks for less than there already is, and the call
returns without any room.

* `reserve_reserves`, `reserveExact_reserves` — without an overflow, a call that returns has made room.
* `reserve_wrapped`, `reserveExact_wrapped` — after a wrapped addition the call changes nothing.
* `reserve_room_iff` — over every message and every number: the promise is kept exactly when the
  addition panics or does not overflow.
-/

import NngRs.Anng.Buffer

namespace Target

variable {target : Target} {a b n : Nat}

theorem add_eq_of_le (small : a + b ≤ target.usizeMax) : target.add a b = some (a + b) := if_pos small

/-- With overflow checks, or without an overflow, an addition that returns is exact. -/
theorem add_exact (fine : target.overflowChecks = true ∨ a + b ≤ target.usizeMax)
    (added : target.add a b = some n) : n = a + b ∧ a + b ≤ target.usizeMax := by
  by_cases small : a + b ≤ target.usizeMax
  · rw [add_eq_of_le small] at added
    cases added
    exact ⟨rfl, small⟩
  · rw [add, if_neg small, fine.resolve_right small] at added
    cases added

/-- An addition that wraps gives less than the first number. -/
theorem add_wrapped (checks : target.overflowChecks = false) (second : b ≤ target.usizeMax)
    (overflow : target.usizeMax < a + b) (first : a ≤ target.usizeMax) :
    ∃ n, target.add a b = some n ∧ n < a := by
  have positive : 0 < 2 ^ target.bits := Nat.two_pow_pos target.bits
  rw [usizeMax] at first second overflow
  have wrapped : (a + b) % 2 ^ target.bits = a + b - 2 ^ target.bits := by
    rw [Nat.mod_eq_sub_mod (by omega), Nat.mod_eq_of_lt (by omega)]
  refine ⟨(a + b) % 2 ^ target.bits, ?_, by omega⟩
  rw [add, usizeMax, if_neg (by omega), checks, if_neg Bool.false_ne_true]

/-- A next power of two that is not a `usize` is taken as `usize::MAX`. -/
theorem getD_checkedNextPowerOfTwo_le (target : Target) (n : Nat) :
    (target.checkedNextPowerOfTwo n).getD target.usizeMax ≤ target.usizeMax := by
  rw [checkedNextPowerOfTwo]
  by_cases fitting : 2 ^ Nat.clog 2 n ≤ target.usizeMax
  · rw [if_pos fitting]
    exact fitting
  · rw [if_neg fitting]
    exact Nat.le_refl _

/-- The sum that rounding up to a next power of two asks for is a `usize`. -/
theorem add_roundUp {len additional : Nat} (small : len + additional ≤ target.usizeMax) (n : Nat) :
    target.add len
        (max (len + additional) ((target.checkedNextPowerOfTwo n).getD target.usizeMax) - len) =
      some (len +
        (max (len + additional) ((target.checkedNextPowerOfTwo n).getD target.usizeMax) - len)) := by
  have power := target.getD_checkedNextPowerOfTwo_le n
  exact add_eq_of_le (by omega)

end Target

namespace NngRs.Anng

open Sys

namespace Message

variable {α : Type} {target : Target} {capacity : Capacity} {msg msg' : Message (NngMsg α)}
  {placement : Placement α} {additional : Nat}

/-- Room for `additional` more bytes, counted without bounds, and nothing that can be read is
changed. -/
structure Reserves (capacity : Capacity) (msg : Message (NngMsg α)) (additional : Nat)
    (msg' : Message (NngMsg α)) : Prop where
  room : msg.len + additional ≤ msg'.inner.capacity capacity
  len : msg'.len = msg.len
  body : msg'.asSlice = msg.asSlice
  header : msg'.inner.header = msg.inner.header
  pos : msg'.pos = msg.pos

theorem Becomes.reserves (becomes : Becomes target msg msg' msg.asSlice msg.pos)
    (room : msg.len + additional ≤ msg'.inner.capacity capacity) :
    Reserves capacity msg additional msg' :=
  ⟨room, congrArg List.length becomes.body, becomes.body, becomes.header, becomes.pos⟩

/-- A body is not longer than the capacity, whatever it counts. -/
theorem len_le_capacity (capacity : Capacity) (msg : Message (NngMsg α)) :
    msg.len ≤ msg.inner.capacity capacity := by
  cases capacity with
  | total =>
    rw [NngMsg.capacity, NngMsg.size, Message.len, asSlice]
    omega
  | contents =>
    rw [NngMsg.capacity, Message.len, asSlice]
    omega

/-- The capacity of an object. -/
theorem capacity_le (capacity : Capacity) (fits : msg.inner.Fits target) :
    msg.inner.capacity capacity ≤ target.isizeMax := by
  rw [NngMsg.Fits, NngMsg.size] at fits
  cases capacity with
  | total =>
    rw [NngMsg.capacity, NngMsg.size]
    exact fits
  | contents =>
    rw [NngMsg.capacity]
    omega

/-! ## Without an overflow -/

theorem reserveExact_reserves (added : target.add msg.len additional = some (msg.len + additional))
    (reserved : msg.reserveExact target capacity placement additional = .ok msg') :
    Reserves capacity msg additional msg' := by
  have becomes := reserveExact_ok reserved
  rw [reserveExact, added] at reserved
  dsimp only at reserved
  cases placed : msg.inner.reserve target capacity placement (msg.len + additional) with
  | none =>
    rw [placed] at reserved
    cases reserved
  | some inner =>
    rw [placed] at reserved
    cases reserved
    exact becomes.reserves (NngMsg.reserve_some placed).2.2.1

theorem reserve_reserves
    (added : target.add msg.len additional = some (msg.len + additional))
    (small : msg.len + additional ≤ target.usizeMax)
    (reserved : msg.reserve target capacity placement additional = .ok msg') :
    Reserves capacity msg additional msg' := by
  have becomes := reserve_ok reserved
  rw [reserve, added] at reserved
  dsimp only at reserved
  by_cases full : msg.inner.capacity capacity < msg.len + additional
  · rw [if_pos full] at reserved
    -- the second sum is the new capacity, which is a `usize`
    have again := target.add_roundUp small (msg.inner.capacity capacity)
    have exact' := reserveExact_reserves again reserved
    refine becomes.reserves (Nat.le_trans ?_ exact'.room)
    omega
  · rw [if_neg full] at reserved
    cases reserved
    exact becomes.reserves (Nat.le_of_not_lt full)

/-! ## After a wrapped addition -/

theorem reserve_wrapped {required : Nat} (placement : Placement α)
    (added : target.add msg.len additional = some required) (less : required < msg.len) :
    msg.reserve target capacity placement additional = .ok msg := by
  have enough : ¬ msg.inner.capacity capacity < required :=
    Nat.not_lt.mpr ((Nat.le_of_lt less).trans (len_le_capacity capacity msg))
  rw [reserve, added]
  exact if_neg enough

theorem reserveExact_wrapped {wanted : Nat}
    (added : target.add msg.len additional = some wanted) (less : wanted < msg.len) :
    msg.reserveExact target capacity .keep additional = .ok msg := by
  have enough : wanted ≤ msg.inner.capacity capacity :=
    (Nat.le_of_lt less).trans (len_le_capacity capacity msg)
  have placed : msg.inner.reserve target capacity .keep wanted = some msg.inner :=
    if_pos (decide_eq_true enough)
  rw [reserveExact, added]
  dsimp only
  rw [placed]

/-- **`reserve` and `reserve_exact` keep their promise exactly when the sum of the length and the
number of bytes asked for does not wrap**: when additions are checked, or it does not overflow. -/
theorem reserve_room_iff (capacity : Capacity) (fits : msg.inner.Fits target)
    (usize : additional ≤ target.usizeMax) :
    ((∀ placement msg', msg.reserve target capacity placement additional = .ok msg' →
        Reserves capacity msg additional msg') ↔
      target.overflowChecks = true ∨ msg.len + additional ≤ target.usizeMax)
    ∧ ((∀ placement msg', msg.reserveExact target capacity placement additional = .ok msg' →
        Reserves capacity msg additional msg') ↔
      target.overflowChecks = true ∨ msg.len + additional ≤ target.usizeMax) := by
  have bound := len_le fits
  have max := target.usizeMax_eq
  -- no capacity is as large as a sum that overflows
  have never (overflow : target.usizeMax < msg.len + additional) :
      ¬ Reserves capacity msg additional msg := by
    intro promise
    have room := promise.room
    have object := capacity_le capacity fits
    omega
  refine ⟨⟨fun promise => ?_, fun fine placement msg' reserved => ?_⟩,
    ⟨fun promise => ?_, fun fine placement msg' reserved => ?_⟩⟩
  · by_contra wraps
    rw [not_or, Bool.not_eq_true, Nat.not_le] at wraps
    obtain ⟨checks, overflow⟩ := wraps
    obtain ⟨required, added, less⟩ := Target.add_wrapped checks usize overflow (by omega)
    exact never overflow (promise .keep msg (reserve_wrapped .keep added less))
  · cases added : target.add msg.len additional with
    | none =>
      rw [reserve, added] at reserved
      cases reserved
    | some sum =>
      obtain ⟨rfl, small⟩ := Target.add_exact fine added
      exact reserve_reserves added small reserved
  · by_contra wraps
    rw [not_or, Bool.not_eq_true, Nat.not_le] at wraps
    obtain ⟨checks, overflow⟩ := wraps
    obtain ⟨wanted, added, less⟩ := Target.add_wrapped checks usize overflow (by omega)
    exact never overflow (promise .keep msg (reserveExact_wrapped added less))
  · cases added : target.add msg.len additional with
    | none =>
      rw [reserveExact, added] at reserved
      cases reserved
    | some sum =>
      obtain ⟨rfl, -⟩ := Target.add_exact fine added
      exact reserveExact_reserves added reserved

end Message

/-- Three bytes in an allocation of four, with one byte of headroom. -/
def threeBytes : Message (NngMsg Nat) := ⟨⟨[], [0], [1, 2, 3], []⟩, 1⟩

/-- The same bytes, moved to an allocation with room for five more. -/
def threeBytesMoved : Message (NngMsg Nat) := ⟨⟨[], [], [1, 2, 3], [0, 0, 0, 0, 0]⟩, 1⟩

theorem reserve_room_checked :
    threeBytes.reserveExact .x64 .contents (.move [] [0, 0, 0, 0, 0]) 5 = .ok threeBytesMoved ∧
      Message.Reserves .contents threeBytes 5 threeBytesMoved := by
  have fits : threeBytes.inner.Fits .x64 := by decide
  have usize : 5 ≤ Target.x64.usizeMax := by decide
  have reserved : threeBytes.reserveExact .x64 .contents (.move [] [0, 0, 0, 0, 0]) 5 =
      .ok threeBytesMoved := by decide
  have promise := (Message.reserve_room_iff .contents fits usize).2.mpr (Or.inl rfl)
  exact ⟨reserved, promise _ _ reserved⟩

/-- **Not every `reserve` that returns made room**: where additions wrap, asking for `usize::MAX - 1`
bytes behind three others asks for a capacity of one. -/
theorem reserve_without_room :
    ¬ ∀ (target : Target) (capacity : Capacity) (msg : Message (NngMsg Nat)) (additional : Nat),
      msg.inner.Fits target → additional ≤ target.usizeMax → ∀ placement msg',
        msg.reserve target capacity placement additional = .ok msg' →
          Message.Reserves capacity msg additional msg' := by
  intro always
  have wraps : Target.add ⟨64, by decide, false⟩ threeBytes.len 18446744073709551614 = some 1 := by
    decide
  have promise := always ⟨64, by decide, false⟩ .contents threeBytes 18446744073709551614
    (by decide) (by decide) .keep threeBytes (Message.reserve_wrapped .keep wraps (by decide))
  exact absurd promise.room (by decide)

end NngRs.Anng
