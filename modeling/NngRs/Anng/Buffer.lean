/-
**`Message` as a buffer: writing, shrinking, and the `Buf` and `BufMut` traits.**

Each method is translated with the library's decisions as arguments. A method that panics or reports
an error has left the message as it was, but for `write`, which may have reserved room before it
fails, so its result is kept next to the message. The body is a list of bytes of any kind, since no
method looks at them.

* `Message.Becomes` — what a method did to a message: the header is kept, the body and the read
  position are the given ones, and the allocation is still one object.
* `reserve_ok`, `write_ok`, `prepend_some`, `truncate_becomes`, `truncateFront_becomes`,
  `setLen_ok` — what each method makes of a message.
-/

import NngRs.Anng.Message
import NngRs.Sys.Msg

namespace NngRs.Anng

open Sys

/-- Where the buffer methods panic. -/
inductive BufferPanic
  /-- "OOM" -/
  | outOfMemory
  /-- "attempt to add with overflow" -/
  | overflow
  /-- "cannot advance past end of message: pos={}, cnt={}, len={}" -/
  | pastEnd (pos cnt len : Nat)
  /-- "range start index out of range" -/
  | sliceStart
deriving DecidableEq, Repr

/-- A stretch of memory, from an offset in the allocation. -/
structure Slice where
  start : Nat
  len : Nat
deriving DecidableEq, Repr

namespace Message

variable {α : Type}

/-! ## The methods -/

section Methods

variable (target : Target) (capacity : Capacity)

/-- `Message::as_slice`. -/
def asSlice (msg : Message (NngMsg α)) : List α := msg.inner.body

/-- `Message::len`. -/
def len (msg : Message (NngMsg α)) : Nat := msg.asSlice.length

/-- `Message::truncate`. -/
def truncate (msg : Message (NngMsg α)) (len : Nat) : Message (NngMsg α) :=
  match Target.checkedSub msg.len len with
  | none => msg
  | some chop =>
    let msg := { msg with inner := msg.inner.chop chop }
    if len < msg.pos then { msg with pos := len } else msg

/-- `Message::truncate_front`. -/
def truncateFront (trimming : Placement α) (msg : Message (NngMsg α)) (len : Nat) :
    Message (NngMsg α) :=
  match Target.checkedSub msg.len len with
  | none => msg
  | some trim =>
    let msg := { msg with inner := msg.inner.trim target trimming trim }
    if trim ≤ msg.pos then { msg with pos := msg.pos - trim } else { msg with pos := 0 }

/-- `Message::with_capacity`, where the library allocates a body of `size` bytes between `before` and
`after`. -/
def withCapacity (size : Nat) (before body after : List α) :
    Except BufferPanic (Message (NngMsg α)) :=
  match NngMsg.alloc target size before body after with
  | none => .error .outOfMemory
  -- `nng_msg_alloc` allocates and sets the length
  | some inner => .ok (truncate { inner, pos := 0 } 0)

/-- `Message::reserve_exact`. -/
def reserveExact (placement : Placement α) (msg : Message (NngMsg α)) (additional : Nat) :
    Except BufferPanic (Message (NngMsg α)) :=
  match target.add msg.len additional with
  | none => .error .overflow
  | some wanted =>
    match msg.inner.reserve target capacity placement wanted with
    | none => .error .outOfMemory
    | some inner => .ok { msg with inner }

/-- `Message::reserve`. -/
def reserve (placement : Placement α) (msg : Message (NngMsg α)) (additional : Nat) :
    Except BufferPanic (Message (NngMsg α)) :=
  let currentCapacity := msg.inner.capacity capacity
  match target.add msg.len additional with
  | none => .error .overflow
  | some requiredCapacity =>
    if currentCapacity < requiredCapacity then
      let currentNextPowerOfTwo :=
        (target.checkedNextPowerOfTwo currentCapacity).getD target.usizeMax
      let newCapacity := max requiredCapacity currentNextPowerOfTwo
      reserveExact target capacity placement msg (newCapacity - msg.len)
    else
      .ok msg

/-- `Message::prepend`; `none` is the error. -/
def prepend (placement : Placement α) (msg : Message (NngMsg α)) (buf : List α) :
    Option (Message (NngMsg α)) :=
  (msg.inner.insert target placement buf).map fun inner => { msg with inner }

/-- `io::Write::write`: whether it wrote all of `buf` or reports an error. -/
def write (reserving appending : Placement α) (msg : Message (NngMsg α)) (buf : List α) :
    Except BufferPanic (Bool × Message (NngMsg α)) :=
  match msg.reserve target capacity reserving buf.length with
  | .error p => .error p
  | .ok msg =>
    match msg.inner.append target appending buf with
    | none => .ok (false, msg)
    | some inner => .ok (true, { msg with inner })

/-- `BufMut::put_slice`; `false` is the panic "write should not fail on message". -/
def putSlice (reserving appending : Placement α) (msg : Message (NngMsg α)) (src : List α) :
    Except BufferPanic (Bool × Message (NngMsg α)) :=
  -- `write_all` returns at once when there is nothing to write
  if src.isEmpty then .ok (true, msg) else msg.write target capacity reserving appending src

/-- `Message::set_len`. -/
def setLen (extending : Placement α) (msg : Message (NngMsg α)) (len : Nat) :
    Except BufferPanic (Message (NngMsg α)) :=
  let currentLen := msg.len
  let adjust (msg : Message (NngMsg α)) := if len < msg.pos then { msg with pos := len } else msg
  if currentLen < len then
    match msg.inner.realloc target extending len with
    | none => .error .outOfMemory
    | some inner => .ok (adjust { msg with inner })
  else if len < currentLen then
    .ok (adjust (msg.truncate len))
  else
    .ok (adjust msg)

/-- `Buf::remaining`. -/
def remaining (msg : Message (NngMsg α)) : Nat := msg.len - msg.pos

/-- `Buf::chunk`. -/
def chunk (msg : Message (NngMsg α)) : Except BufferPanic (List α) :=
  if msg.pos ≤ msg.len then .ok (msg.asSlice.drop msg.pos) else .error .sliceStart

/-- `Buf::advance`. -/
def advance (msg : Message (NngMsg α)) (cnt : Nat) : Except BufferPanic (Message (NngMsg α)) :=
  let newPos := target.saturatingAdd msg.pos cnt
  if msg.len < newPos then .error (.pastEnd msg.pos cnt msg.len)
  else .ok { msg with pos := newPos }

/-- `BufMut::advance_mut`. -/
def advanceMut (extending : Placement α) (msg : Message (NngMsg α)) (cnt : Nat) :
    Except BufferPanic (Message (NngMsg α)) :=
  match target.add msg.len cnt with
  | none => .error .overflow
  | some newLen => msg.setLen target extending newLen

/-- The slice of `available_space` bytes after the body. -/
def spareSlice (msg : Message (NngMsg α)) (currentLen : Nat) : Slice :=
  let bodyPtr := msg.inner.before.length
  let availableSpace := msg.inner.capacity capacity - currentLen
  { start := bodyPtr + currentLen, len := availableSpace }

/-- `BufMut::chunk_mut`: the slice, and the message after it may have grown. -/
def chunkMut (reserving : Placement α) (msg : Message (NngMsg α)) :
    Except BufferPanic (Slice × Message (NngMsg α)) :=
  let currentLen := msg.len
  let currentCapacity := msg.inner.capacity capacity
  if currentCapacity ≤ currentLen then
    match msg.reserve target capacity reserving 64 with
    | .error p => .error p
    | .ok msg => .ok (spareSlice capacity msg currentLen, msg)
  else
    .ok (spareSlice capacity msg currentLen, msg)

end Methods

/-! ## What they do -/

/-- The read position is inside the body. -/
def Positioned (msg : Message (NngMsg α)) : Prop := msg.pos ≤ msg.len

/-- `msg'` has the header of `msg` and the given body and read position, and its allocation is an
object if that of `msg` is. -/
structure Becomes (target : Target) (msg msg' : Message (NngMsg α)) (body : List α) (pos : Nat) :
    Prop where
  header : msg'.inner.header = msg.inner.header
  body : msg'.inner.body = body
  pos : msg'.pos = pos
  fits : msg.inner.Fits target → msg'.inner.Fits target

variable {target : Target} {capacity : Capacity} {msg msg' : Message (NngMsg α)}

theorem Becomes.refl (msg : Message (NngMsg α)) : Becomes target msg msg msg.asSlice msg.pos :=
  ⟨rfl, rfl, rfl, id⟩

theorem Becomes.trans {msg'' : Message (NngMsg α)} {body body' : List α} {pos pos' : Nat}
    (first : Becomes target msg msg' body pos) (second : Becomes target msg' msg'' body' pos') :
    Becomes target msg msg'' body' pos' :=
  ⟨second.header.trans first.header, second.body, second.pos, second.fits ∘ first.fits⟩

/-- A body is not larger than its allocation. -/
theorem len_le (fits : msg.inner.Fits target) : msg.len ≤ target.isizeMax := by
  rw [NngMsg.Fits, NngMsg.size] at fits
  rw [len, asSlice]
  omega

/-- The read position is inside the body, and the allocation is an object. Every method keeps it. -/
structure Valid (target : Target) (msg : Message (NngMsg α)) : Prop where
  positioned : msg.Positioned
  fits : msg.inner.Fits target

theorem Becomes.valid {body : List α} {pos : Nat} (becomes : Becomes target msg msg' body pos)
    (valid : msg.Valid target) (inside : pos ≤ body.length) : msg'.Valid target := by
  refine ⟨?_, becomes.fits valid.fits⟩
  rw [Positioned, len, asSlice, becomes.body, becomes.pos]
  exact inside

/-- `truncate` keeps the first bytes, and moves the read position back to the end if it is beyond. -/
theorem truncate_becomes (len : Nat) (positioned : msg.Positioned) :
    Becomes target msg (msg.truncate len) (msg.asSlice.take len) (min msg.pos len) := by
  have inside : msg.pos ≤ msg.asSlice.length := positioned
  rw [truncate, Target.checkedSub, Message.len]
  by_cases shorter : len ≤ msg.asSlice.length
  · rw [if_pos shorter]
    have kept : msg.asSlice.length - (msg.asSlice.length - len) = len := Nat.sub_sub_self shorter
    have body : (msg.inner.chop (msg.asSlice.length - len)).body = msg.asSlice.take len :=
      congrArg msg.asSlice.take kept
    have fits : msg.inner.Fits target →
        (msg.inner.chop (msg.asSlice.length - len)).Fits target := by
      intro small
      rw [NngMsg.Fits, NngMsg.chop_size]
      exact small
    dsimp only
    by_cases beyond : len < msg.pos
    · rw [if_pos beyond]
      exact ⟨rfl, body, (Nat.min_eq_right (Nat.le_of_lt beyond)).symm, fits⟩
    · rw [if_neg beyond]
      exact ⟨rfl, body, (Nat.min_eq_left (Nat.le_of_not_lt beyond)).symm, fits⟩
  · rw [if_neg shorter]
    have longer : msg.asSlice.length ≤ len := Nat.le_of_not_le shorter
    exact ⟨rfl, (List.take_of_length_le longer).symm,
      (Nat.min_eq_left (inside.trans longer)).symm, id⟩

/-- `truncate_front` keeps the last bytes, and the read position stays at the same byte, or goes to
the first if that one is gone. -/
theorem truncateFront_becomes (trimming : Placement α) (len : Nat) :
    Becomes target msg (msg.truncateFront target trimming len) (msg.asSlice.drop (msg.len - len))
      (msg.pos - (msg.len - len)) := by
  rw [truncateFront, Target.checkedSub]
  by_cases shorter : len ≤ msg.len
  · rw [if_pos shorter]
    obtain ⟨header, body, fits⟩ := NngMsg.trim_some trimming msg.inner (msg.len - len)
    dsimp only
    by_cases unread : msg.len - len ≤ msg.pos
    · rw [if_pos unread]
      exact ⟨header, body, rfl, fits⟩
    · rw [if_neg unread]
      exact ⟨header, body, (Nat.sub_eq_zero_of_le (Nat.le_of_not_le unread)).symm, fits⟩
  · rw [if_neg shorter]
    have none' : msg.len - len = 0 := Nat.sub_eq_zero_of_le (Nat.le_of_not_le shorter)
    rw [none']
    exact Becomes.refl msg

theorem reserveExact_ok {placement : Placement α} {additional : Nat}
    (reserved : msg.reserveExact target capacity placement additional = .ok msg') :
    Becomes target msg msg' msg.asSlice msg.pos := by
  rw [reserveExact] at reserved
  cases added : target.add msg.len additional with
  | none =>
    rw [added] at reserved
    cases reserved
  | some wanted =>
    rw [added] at reserved
    dsimp only at reserved
    cases placed : msg.inner.reserve target capacity placement wanted with
    | none =>
      rw [placed] at reserved
      cases reserved
    | some inner =>
      rw [placed] at reserved
      cases reserved
      obtain ⟨header, body, -, fits⟩ := NngMsg.reserve_some placed
      exact ⟨header, body, rfl, fits⟩

/-- `reserve` changes nothing that can be read. -/
theorem reserve_ok {placement : Placement α} {additional : Nat}
    (reserved : msg.reserve target capacity placement additional = .ok msg') :
    Becomes target msg msg' msg.asSlice msg.pos := by
  rw [reserve] at reserved
  cases added : target.add msg.len additional with
  | none =>
    rw [added] at reserved
    cases reserved
  | some required =>
    rw [added] at reserved
    dsimp only at reserved
    by_cases full : msg.inner.capacity capacity < required
    · rw [if_pos full] at reserved
      exact reserveExact_ok reserved
    · rw [if_neg full] at reserved
      cases reserved
      exact Becomes.refl msg

/-- `reserve` of more than there is asks the library for room. -/
theorem reserve_full {placement : Placement α} {additional : Nat} (fits : msg.inner.Fits target)
    (small : additional ≤ target.isizeMax) (full : msg.inner.capacity capacity < msg.len + additional)
    (reserved : msg.reserve target capacity placement additional = .ok msg') :
    msg.reserveExact target capacity placement
      (max (msg.len + additional)
        ((target.checkedNextPowerOfTwo (msg.inner.capacity capacity)).getD target.usizeMax)
        - msg.len) = .ok msg' := by
  have added : target.add msg.len additional = some (msg.len + additional) :=
    target.add_of_le (len_le fits) small
  rw [reserve, added] at reserved
  dsimp only at reserved
  rwa [if_pos full] at reserved

/-- `prepend` puts the bytes before the body, and leaves the read position. -/
theorem prepend_some {placement : Placement α} {buf : List α}
    (prepended : msg.prepend target placement buf = some msg') :
    Becomes target msg msg' (buf ++ msg.asSlice) msg.pos := by
  obtain ⟨inner, inserted, rfl⟩ := Option.map_eq_some_iff.mp prepended
  obtain ⟨header, body, fits⟩ := NngMsg.insert_some inserted
  exact ⟨header, body, rfl, fits⟩

/-- `write` puts all of the bytes after the body, or none. -/
theorem write_ok {reserving appending : Placement α} {buf : List α} {all : Bool}
    (written : msg.write target capacity reserving appending buf = .ok (all, msg')) :
    Becomes target msg msg' (msg.asSlice ++ if all then buf else []) msg.pos := by
  rw [write] at written
  cases reserved : msg.reserve target capacity reserving buf.length with
  | error p =>
    rw [reserved] at written
    cases written
  | ok roomy =>
    rw [reserved] at written
    dsimp only at written
    have room := reserve_ok reserved
    cases appended : roomy.inner.append target appending buf with
    | none =>
      rw [appended] at written
      cases written
      simpa using room
    | some inner =>
      rw [appended] at written
      cases written
      obtain ⟨header, body, fits⟩ := NngMsg.append_some appended
      refine ⟨header.trans room.header, ?_, room.pos, fits ∘ room.fits⟩
      rw [if_pos rfl, body, room.body]

theorem putSlice_ok {reserving appending : Placement α} {src : List α} {all : Bool}
    (put : msg.putSlice target capacity reserving appending src = .ok (all, msg')) :
    Becomes target msg msg' (msg.asSlice ++ if all then src else []) msg.pos := by
  rw [putSlice] at put
  by_cases empty : src.isEmpty
  · rw [if_pos empty] at put
    cases put
    rw [List.isEmpty_iff.mp empty, if_pos rfl, List.append_nil]
    exact Becomes.refl msg
  · rw [if_neg empty] at put
    exact write_ok put

/-- `advance` within the rest of the body moves the read position. -/
theorem advance_within {cnt : Nat} (fits : msg.inner.Fits target) (positioned : msg.Positioned)
    (within : cnt ≤ msg.remaining) :
    msg.advance target cnt = .ok { msg with pos := msg.pos + cnt } := by
  have inside : msg.pos ≤ msg.len := positioned
  rw [remaining] at within
  have small := len_le fits
  have max := target.usizeMax_eq
  have sum : target.saturatingAdd msg.pos cnt = msg.pos + cnt := by
    rw [Target.saturatingAdd]
    omega
  rw [advance, sum, if_neg (by omega)]

/-- `advance` beyond the rest of the body panics. -/
theorem advance_beyond {cnt : Nat} (fits : msg.inner.Fits target) (beyond : msg.remaining < cnt) :
    msg.advance target cnt = .error (.pastEnd msg.pos cnt msg.len) := by
  rw [remaining] at beyond
  have small := len_le fits
  have max := target.usizeMax_eq
  have past : msg.len < target.saturatingAdd msg.pos cnt := by
    rw [Target.saturatingAdd]
    omega
  rw [advance, if_pos past]

/-- `set_len` to a greater length extends the body. -/
theorem setLen_ok {extending : Placement α} {len : Nat} (longer : msg.len < len)
    (positioned : msg.Positioned) (extended : msg.setLen target extending len = .ok msg') :
    ∃ inner, msg.inner.realloc target extending len = some inner ∧ msg' = { msg with inner } := by
  rw [setLen] at extended
  dsimp only at extended
  rw [if_pos longer] at extended
  cases placed : msg.inner.realloc target extending len with
  | none =>
    rw [placed] at extended
    cases extended
  | some inner =>
    rw [placed] at extended
    cases extended
    refine ⟨inner, rfl, ?_⟩
    have inside : ¬ len < msg.pos := Nat.not_lt.mpr (positioned.trans (Nat.le_of_lt longer))
    rw [if_neg inside]

/-! ## Every method keeps a message valid -/

theorem Valid.truncate (valid : msg.Valid target) (len : Nat) : (msg.truncate len).Valid target := by
  refine (truncate_becomes len valid.positioned).valid valid ?_
  have inside : msg.pos ≤ msg.asSlice.length := valid.positioned
  rw [List.length_take]
  omega

theorem Valid.truncateFront (valid : msg.Valid target) (trimming : Placement α) (len : Nat) :
    (msg.truncateFront target trimming len).Valid target := by
  refine (truncateFront_becomes trimming len).valid valid ?_
  have inside : msg.pos ≤ msg.asSlice.length := valid.positioned
  rw [List.length_drop]
  omega

theorem Valid.reserve (valid : msg.Valid target) {placement : Placement α} {additional : Nat}
    (reserved : msg.reserve target capacity placement additional = .ok msg') :
    msg'.Valid target := (reserve_ok reserved).valid valid valid.positioned

theorem Valid.prepend (valid : msg.Valid target) {placement : Placement α} {buf : List α}
    (prepended : msg.prepend target placement buf = some msg') : msg'.Valid target := by
  have inside : msg.pos ≤ msg.asSlice.length := valid.positioned
  refine (prepend_some prepended).valid valid ?_
  rw [List.length_append]
  omega

theorem Valid.write (valid : msg.Valid target) {reserving appending : Placement α} {buf : List α}
    {all : Bool} (written : msg.write target capacity reserving appending buf = .ok (all, msg')) :
    msg'.Valid target := by
  have inside : msg.pos ≤ msg.asSlice.length := valid.positioned
  refine (write_ok written).valid valid ?_
  rw [List.length_append]
  omega

theorem Valid.setLen (valid : msg.Valid target) {extending : Placement α} {len : Nat}
    (changed : msg.setLen target extending len = .ok msg') : msg'.Valid target := by
  have inside : msg.pos ≤ msg.len := valid.positioned
  by_cases longer : msg.len < len
  · obtain ⟨inner, extended, rfl⟩ := setLen_ok longer valid.positioned changed
    obtain ⟨-, -, length, fits⟩ := NngMsg.realloc_some (Nat.le_of_lt longer) extended
    refine ⟨?_, fits valid.fits⟩
    rw [Positioned, Message.len, asSlice, length]
    exact inside.trans (Nat.le_of_lt longer)
  · rw [Message.setLen] at changed
    dsimp only at changed
    rw [if_neg longer] at changed
    by_cases shorter : len < msg.len
    · have becomes : Becomes target msg (msg.truncate len) (msg.asSlice.take len)
          (min msg.pos len) := truncate_becomes len valid.positioned
      have adjusted : ¬ len < (msg.truncate len).pos := by
        rw [becomes.pos]
        omega
      rw [if_pos shorter, if_neg adjusted] at changed
      cases changed
      exact valid.truncate len
    · have adjusted : ¬ len < msg.pos := by omega
      rw [if_neg shorter, if_neg adjusted] at changed
      cases changed
      exact valid

theorem Valid.advanceMut (valid : msg.Valid target) {extending : Placement α} {cnt : Nat}
    (advanced : msg.advanceMut target extending cnt = .ok msg') : msg'.Valid target := by
  rw [Message.advanceMut] at advanced
  cases added : target.add msg.len cnt with
  | none =>
    rw [added] at advanced
    cases advanced
  | some newLen =>
    rw [added] at advanced
    exact valid.setLen advanced

theorem withCapacity_valid {size : Nat} {before body after : List α}
    (created : withCapacity target size before body after = .ok msg) :
    msg.asSlice = [] ∧ msg.pos = 0 ∧ msg.Valid target := by
  rw [withCapacity] at created
  cases allocated : NngMsg.alloc target size before body after with
  | none =>
    rw [allocated] at created
    cases created
  | some inner =>
    rw [allocated] at created
    cases created
    obtain ⟨⟨-, fits⟩, same⟩ := Option.ite_none_right_eq_some.mp allocated
    cases same
    let allocated : Message (NngMsg α) := ⟨⟨[], before, body, after⟩, 0⟩
    have valid : allocated.Valid target := ⟨Nat.zero_le _, fits⟩
    have shortened : Becomes target allocated (allocated.truncate 0) (body.take 0) (min 0 0) :=
      truncate_becomes 0 valid.positioned
    exact ⟨shortened.body.trans List.take_zero, shortened.pos, valid.truncate 0⟩

end Message

end NngRs.Anng
