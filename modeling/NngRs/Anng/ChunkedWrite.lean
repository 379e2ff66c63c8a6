/-
**Writing through `chunk_mut` and `advance_mut`, piece by piece.**

A writer takes the slice of `chunk_mut`, stores its next bytes at the start of it, and calls
`advance_mut`. The library's capacity counts the contents and the memory after them, and it moves a
body only when it has to; then it moves it to enough memory.

* `chunkMut_honoured` — the slice is the memory after the body, and is never empty.
* `writer_step` — one step adds its piece at the end and changes nothing else.
* `chunked_write_eq` — over every run: the message is the one that `put_slice` and `write` of all the
  pieces at once make, and at every point of the writing another step of any size can be made.
-/

import NngRs.Anng.Buffer
import NngRs.Machine.Run

namespace NngRs.Anng

open Sys EventMachine Message

namespace Message

variable {α : Type} (target : Target)

/-- The capacity that `reserve` asks the library for. -/
def wantedCapacity (msg : Message (NngMsg α)) (additional : Nat) : Nat :=
  max (msg.len + additional)
    ((target.checkedNextPowerOfTwo (msg.inner.capacity .contents)).getD target.usizeMax)

/-- The library honours a `reserve` on the message. -/
def ReserveHonoured (msg : Message (NngMsg α)) (additional : Nat) (reserving : Placement α) : Prop :=
  msg.inner.capacity .contents < msg.len + additional →
    msg.inner.Honours target (msg.wantedCapacity target additional) reserving

instance (msg : Message (NngMsg α)) (additional : Nat) (reserving : Placement α) :
    Decidable (msg.ReserveHonoured target additional reserving) :=
  inferInstanceAs (Decidable (_ → _))

/-- The library honours the two requests of a `write` on the message. -/
def WriteHonoured (msg : Message (NngMsg α)) (buf : List α) (reserving appending : Placement α) :
    Prop :=
  msg.ReserveHonoured target buf.length reserving
    ∧ ∀ roomy, msg.reserve target .contents reserving buf.length = .ok roomy →
      roomy.inner.Honours target (roomy.len + buf.length) appending

variable {target} {msg msg' : Message (NngMsg α)} {reserving appending : Placement α}

/-- What a library grants is an object. -/
theorem honoured_le {m : NngMsg α} {wanted : Nat} (fits : m.Fits target)
    (honours : m.Honours target wanted reserving) : wanted ≤ target.isizeMax := by
  rw [NngMsg.Fits, NngMsg.size] at fits
  cases reserving with
  | keep =>
    have room : wanted ≤ m.body.length + m.after.length := honours
    omega
  | move before after =>
    obtain ⟨-, room, object⟩ := honours
    omega
  | fail => cases honours

theorem ReserveHonoured.sum_le {additional : Nat} (fits : msg.inner.Fits target)
    (honoured : msg.ReserveHonoured target additional reserving) :
    msg.len + additional ≤ target.isizeMax := by
  by_cases full : msg.inner.capacity .contents < msg.len + additional
  · exact (Nat.le_max_left _ _).trans (honoured_le fits (honoured full))
  · simp only [NngMsg.Fits, NngMsg.size] at fits
    simp only [NngMsg.capacity] at full
    omega

/-- **An honoured `reserve` returns**, with the room that was asked for. -/
theorem reserve_honoured {additional : Nat} (fits : msg.inner.Fits target)
    (honoured : msg.ReserveHonoured target additional reserving) :
    ∃ roomy, msg.reserve target .contents reserving additional = .ok roomy
      ∧ msg.len + additional ≤ roomy.inner.capacity .contents := by
  have sum := honoured.sum_le fits
  have small := len_le fits
  have added : target.add msg.len additional = some (msg.len + additional) :=
    target.add_of_le small (by omega)
  by_cases full : msg.inner.capacity .contents < msg.len + additional
  · have asked := honoured full
    have object := honoured_le fits asked
    have above : msg.len + additional ≤ msg.wantedCapacity target additional := Nat.le_max_left _ _
    have exactly : target.add msg.len (msg.wantedCapacity target additional - msg.len) =
        some (msg.wantedCapacity target additional) := by
      rw [target.add_of_le small (by omega), Nat.add_sub_cancel' (by omega)]
    obtain ⟨inner, granted⟩ := NngMsg.reserve_honoured asked
    refine ⟨{ msg with inner }, ?_, above.trans (NngMsg.reserve_some granted).2.2.1⟩
    rw [wantedCapacity] at exactly granted
    rw [Message.reserve, added]
    dsimp only
    rw [if_pos full, reserveExact, exactly]
    dsimp only
    rw [granted]
  · refine ⟨msg, ?_, Nat.le_of_not_lt full⟩
    rw [Message.reserve, added]
    dsimp only
    rw [if_neg full]

/-- The library honours what `chunk_mut` asks of it on a full message. -/
def ChunkHonoured (target : Target) (msg : Message (NngMsg α)) (reserving : Placement α) : Prop :=
  msg.inner.capacity .contents ≤ msg.len → msg.ReserveHonoured target 64 reserving

instance (msg : Message (NngMsg α)) (reserving : Placement α) :
    Decidable (msg.ChunkHonoured target reserving) := inferInstanceAs (Decidable (_ → _))

/-- **The slice of an honoured `chunk_mut` is the memory after the body, and is never empty.** -/
theorem chunkMut_honoured (fits : msg.inner.Fits target)
    (honoured : msg.ChunkHonoured target reserving) :
    ∃ roomy, msg.chunkMut target .contents reserving =
        .ok (⟨roomy.inner.before.length + roomy.len, roomy.inner.after.length⟩, roomy)
      ∧ 0 < roomy.inner.after.length ∧ Becomes target msg roomy msg.asSlice msg.pos := by
  have slice (roomy : Message (NngMsg α)) : spareSlice .contents roomy roomy.len =
      ⟨roomy.inner.before.length + roomy.len, roomy.inner.after.length⟩ := by
    simp only [spareSlice, NngMsg.capacity, len, asSlice, Nat.add_sub_cancel_left]
  rw [chunkMut]
  by_cases full : msg.inner.capacity .contents ≤ msg.len
  · obtain ⟨roomy, reserved, room⟩ := reserve_honoured fits (honoured full)
    have becomes := reserve_ok reserved
    have same : roomy.len = msg.len := congrArg List.length becomes.body
    refine ⟨roomy, ?_, ?_, becomes⟩
    · rw [if_pos full, reserved, ← same]
      dsimp only
      rw [slice]
    · simp only [NngMsg.capacity, len, asSlice] at room same
      omega
  · refine ⟨msg, ?_, ?_, Becomes.refl msg⟩
    · rw [if_neg full, slice]
    · simp only [NngMsg.capacity, len, asSlice] at full
      omega

/-- The message with bytes stored at the start of the slice after its body. -/
def fill (msg : Message (NngMsg α)) (slice : Slice) (bytes : List α) : Message (NngMsg α) :=
  { msg with inner := msg.inner.store slice.start bytes }

theorem fill_after (msg : Message (NngMsg α)) (bytes : List α) (len : Nat) :
    msg.fill ⟨msg.inner.before.length + msg.len, len⟩ bytes =
      { msg with inner := { msg.inner with after := bytes ++ msg.inner.after.drop bytes.length } } :=
  congrArg (Message.mk · msg.pos) (NngMsg.store_after msg.inner bytes)

/-- An honoured `advance_mut` over the first bytes of the memory after the body makes them its end,
where they are. -/
theorem advanceMut_honoured {bytes rest : List α} {extending : Placement α}
    (valid : msg.Valid target) (some' : bytes ≠ []) (memory : msg.inner.after = bytes ++ rest)
    (honours : msg.inner.Honours target (msg.len + bytes.length) extending) :
    msg.advanceMut target extending bytes.length =
      .ok { msg with inner := { msg.inner with body := msg.inner.body ++ bytes, after := rest } } := by
  have positive : 0 < bytes.length := List.length_pos_iff.mpr some'
  have positioned : msg.pos ≤ msg.len := valid.positioned
  have longer : msg.len < msg.len + bytes.length := by omega
  have inside : ¬ msg.len + bytes.length < msg.pos := by omega
  have object := honoured_le valid.fits honours
  have added : target.add msg.len bytes.length = some (msg.len + bytes.length) :=
    target.add_of_le (by omega) (by omega)
  have grown : msg.inner.realloc target extending (msg.len + bytes.length) =
      some { msg.inner with body := msg.inner.body ++ bytes, after := rest } :=
    NngMsg.realloc_honoured memory honours
  rw [advanceMut, added]
  dsimp only
  rw [setLen]
  dsimp only
  rw [if_pos longer, grown]
  dsimp only
  rw [if_neg inside]

/-- **Bytes stored in the slice become the end of the body.** -/
theorem advanceMut_fill {bytes : List α} {len : Nat} {extending : Placement α}
    (valid : msg.Valid target) (some' : bytes ≠ []) (room : bytes.length ≤ msg.inner.after.length)
    (honours : (msg.fill ⟨msg.inner.before.length + msg.len, len⟩ bytes).inner.Honours target
      (msg.len + bytes.length) extending) :
    ∃ msg', (msg.fill ⟨msg.inner.before.length + msg.len, len⟩ bytes).advanceMut target extending
        bytes.length = .ok msg' ∧ Becomes target msg msg' (msg.asSlice ++ bytes) msg.pos := by
  rw [fill_after] at honours ⊢
  have sizes : bytes.length + (msg.inner.after.drop bytes.length).length =
      msg.inner.after.length := by
    rw [List.length_drop]
    omega
  refine ⟨_, advanceMut_honoured ⟨valid.positioned, ?_⟩ some' rfl honours, rfl, rfl, rfl, ?_⟩
  · have fits := valid.fits
    simp only [NngMsg.Fits, NngMsg.size, List.length_append] at fits ⊢
    omega
  · intro fits
    simp only [NngMsg.Fits, NngMsg.size, List.length_append] at fits ⊢
    omega

end Message

/-- A piece of the bytes to write, with the library's decisions. -/
structure Piece (α : Type) where
  bytes : List α
  reserving : Placement α
  extending : Placement α
deriving DecidableEq, Repr

section Writing

variable {α : Type} (target : Target)

/-- A writer through `chunk_mut` and `advance_mut`, with an honest library; the events are the bytes
that it wrote. A piece is not empty and not longer than the slice. -/
def chunkedWriter (start : Message (NngMsg α)) :
    EventMachine (Message (NngMsg α)) (Piece α) α where
  start := start
  step msg piece :=
    if piece.bytes.isEmpty ∨ ¬ msg.ChunkHonoured target piece.reserving then none
    else
      match msg.chunkMut target .contents piece.reserving with
      | .error _ => none
      | .ok (slice, roomy) =>
        let filled := roomy.fill slice piece.bytes
        if piece.bytes.length ≤ slice.len
            ∧ filled.inner.Honours target (roomy.len + piece.bytes.length) piece.extending then
          match filled.advanceMut target piece.extending piece.bytes.length with
          | .error _ => none
          | .ok msg => some (msg, piece.bytes)
        else none

variable {target} {msg msg' start : Message (NngMsg α)} {piece : Piece α} {out : List α}

/-- **A step adds its piece at the end of the body, and changes nothing else.** -/
theorem writer_step (valid : msg.Valid target)
    (stepped : (chunkedWriter target start).step msg piece = some (msg', out)) :
    out = piece.bytes ∧ out ≠ [] ∧ Becomes target msg msg' (msg.asSlice ++ out) msg.pos := by
  rw [chunkedWriter] at stepped
  dsimp only at stepped
  by_cases refused : piece.bytes.isEmpty ∨ ¬ msg.ChunkHonoured target piece.reserving
  · rw [if_pos refused] at stepped
    cases stepped
  · rw [if_neg refused] at stepped
    rw [not_or, not_not, List.isEmpty_iff] at refused
    obtain ⟨some', honoured⟩ := refused
    obtain ⟨roomy, made, -, becomes⟩ := chunkMut_honoured valid.fits honoured
    rw [made] at stepped
    dsimp only at stepped
    obtain ⟨⟨room, honours⟩, stepped⟩ := Option.ite_none_right_eq_some.mp stepped
    have roomyValid := becomes.valid valid valid.positioned
    obtain ⟨written, advanced, added⟩ := advanceMut_fill roomyValid some' room honours
    rw [advanced] at stepped
    cases stepped
    rw [asSlice, becomes.body, becomes.pos] at added
    exact ⟨rfl, some', becomes.trans added⟩

/-- **Another step can always be made**: the slice of an honoured `chunk_mut` is not empty and inside
the allocation, and any number of its bytes can be filled and advanced over. -/
theorem writer_progress (valid : msg.Valid target) {reserving : Placement α}
    (honoured : msg.ChunkHonoured target reserving) :
    ∃ slice roomy, msg.chunkMut target .contents reserving = .ok (slice, roomy)
      ∧ 0 < slice.len ∧ slice.start + slice.len = roomy.inner.size
      ∧ ∀ bytes, bytes ≠ [] → bytes.length ≤ slice.len →
        ∃ msg', (chunkedWriter target start).step msg ⟨bytes, reserving, .keep⟩ =
          some (msg', bytes) := by
  obtain ⟨roomy, made, positive, becomes⟩ := chunkMut_honoured valid.fits honoured
  have roomyValid := becomes.valid valid valid.positioned
  refine ⟨_, roomy, made, positive, rfl, fun bytes some' room => ?_⟩
  have honours : (roomy.fill ⟨roomy.inner.before.length + roomy.len, roomy.inner.after.length⟩
      bytes).inner.Honours target (roomy.len + bytes.length) .keep := by
    rw [fill_after, NngMsg.Honours, List.length_append]
    exact Nat.add_le_add_left (Nat.le_add_right _ _) roomy.len
  obtain ⟨written, advanced, -⟩ := advanceMut_fill roomyValid some' room honours
  have admitted : ¬ (bytes.isEmpty ∨ ¬ msg.ChunkHonoured target reserving) := by
    rw [not_or, not_not, List.isEmpty_iff]
    exact ⟨some', honoured⟩
  refine ⟨written, ?_⟩
  rw [chunkedWriter]
  dsimp only
  rw [if_neg admitted, made]
  dsimp only
  rw [if_pos ⟨room, honours⟩, advanced]

/-- An honoured `write` writes everything. -/
theorem write_honoured {buf : List α} {reserving appending : Placement α} (valid : msg.Valid target)
    (honoured : msg.WriteHonoured target buf reserving appending) :
    ∃ written, msg.write target .contents reserving appending buf = .ok (true, written)
      ∧ Becomes target msg written (msg.asSlice ++ buf) msg.pos := by
  obtain ⟨roomy, reserved, room⟩ := reserve_honoured valid.fits honoured.1
  have same : roomy.len = msg.len := congrArg List.length (reserve_ok reserved).body
  have fits : buf.length ≤ roomy.inner.after.length := by
    simp only [NngMsg.capacity, Message.len, asSlice] at room same
    omega
  obtain ⟨inner, appended⟩ := NngMsg.append_honoured fits (honoured.2 roomy reserved)
  have written : msg.write target .contents reserving appending buf =
      .ok (true, { roomy with inner }) := by
    rw [write, reserved]
    dsimp only
    rw [appended]
  exact ⟨_, written, write_ok written⟩

/-- The header, the body and the read position of two messages are the same. -/
def Message.SameContents (msg msg' : Message (NngMsg α)) : Prop :=
  msg.inner.header = msg'.inner.header ∧ msg.asSlice = msg'.asSlice ∧ msg.pos = msg'.pos

theorem Message.Becomes.same {body : List α} {pos : Nat} (made : Becomes target start msg body pos)
    (made' : Becomes target start msg' body pos) : msg.SameContents msg' :=
  ⟨made.header.trans made'.header.symm, made.body.trans made'.body.symm,
    made.pos.trans made'.pos.symm⟩

/-- A run adds its bytes at the end of the body. -/
theorem writer_run (valid : start.Valid target)
    {steps : List (Transition (Message (NngMsg α)) (Piece α) α)}
    (run : (chunkedWriter target start).Run steps msg) :
    Becomes target start msg (start.asSlice ++ events steps) start.pos
      ∧ steps.length ≤ (events steps).length := by
  induction run with
  | nil =>
    rw [events_nil, List.append_nil]
    exact ⟨Becomes.refl start, Nat.le_refl 0⟩
  | @snoc steps msg msg' piece out _ stepped ih =>
    obtain ⟨becomes, count⟩ := ih
    have positioned : start.pos ≤ start.asSlice.length := valid.positioned
    have inside : start.pos ≤ (start.asSlice ++ events steps).length := by
      rw [List.length_append]
      omega
    obtain ⟨-, some', added⟩ := writer_step (becomes.valid valid inside) stepped
    have positive : 0 < out.length := List.length_pos_iff.mpr some'
    rw [asSlice, becomes.body, becomes.pos] at added
    rw [events_append, events_singleton, ← List.append_assoc]
    refine ⟨becomes.trans added, ?_⟩
    rw [List.length_append, List.length_append, List.length_singleton]
    dsimp only
    omega

theorem writer_valid (valid : start.Valid target)
    {steps : List (Transition (Message (NngMsg α)) (Piece α) α)}
    (run : (chunkedWriter target start).Run steps msg) : msg.Valid target := by
  have positioned : start.pos ≤ start.asSlice.length := valid.positioned
  refine (writer_run valid run).1.valid valid ?_
  rw [List.length_append]
  omega

/-- **Writing in pieces is writing at once.** Over every run of a writer from a valid message: `put_slice`
and `write` of all its bytes make a message with the same contents; the next `chunk_mut` is not empty
and any part of it can be written, and there are no more steps than bytes; and no step changes an
earlier byte. -/
theorem chunked_write_eq (valid : start.Valid target)
    {steps : List (Transition (Message (NngMsg α)) (Piece α) α)}
    (run : (chunkedWriter target start).Run steps msg) :
    (∀ reserving appending, start.WriteHonoured target (events steps) reserving appending →
        (∃ put, start.putSlice target .contents reserving appending (events steps) = .ok (true, put)
          ∧ msg.SameContents put)
        ∧ ∃ written, start.write target .contents reserving appending (events steps) =
            .ok (true, written) ∧ msg.SameContents written)
      ∧ (∀ reserving, msg.ChunkHonoured target reserving →
          ∃ slice roomy, msg.chunkMut target .contents reserving = .ok (slice, roomy)
            ∧ 0 < slice.len ∧ slice.start + slice.len = roomy.inner.size
            ∧ ∀ bytes, bytes ≠ [] → bytes.length ≤ slice.len →
              ∃ msg', (chunkedWriter target start).step msg ⟨bytes, reserving, .keep⟩ =
                some (msg', bytes))
      ∧ steps.length ≤ (events steps).length
      ∧ ∀ t ∈ steps, t.pre.asSlice <+: t.post.asSlice := by
  obtain ⟨becomes, count⟩ := writer_run valid run
  refine ⟨fun reserving appending honoured => ?_, fun reserving honoured => ?_, count, ?_⟩
  · obtain ⟨written, wrote, added⟩ := write_honoured valid honoured
    have same : msg.SameContents written := becomes.same added
    refine ⟨?_, written, wrote, same⟩
    rw [putSlice]
    by_cases empty : (events steps).isEmpty
    · rw [if_pos empty]
      rw [List.isEmpty_iff.mp empty, List.append_nil] at becomes
      exact ⟨start, rfl, becomes.same (Becomes.refl start)⟩
    · rw [if_neg empty]
      exact ⟨written, wrote, same⟩
  · exact writer_progress (writer_valid valid run) honoured
  · intro t member
    obtain ⟨⟨early, run⟩, stepped⟩ := run.before t member
    obtain ⟨-, -, added⟩ := writer_step (writer_valid valid run) stepped
    exact ⟨t.out, added.body.symm⟩

end Writing

/-- A message with a header and room for three bytes. -/
def short : Message (NngMsg Nat) := ⟨⟨[9], [], [], [0, 0, 0]⟩, 0⟩

theorem short_valid : short.Valid .x64 := ⟨Nat.le_refl 0, by decide⟩

/-- Five bytes, of which the last two need room. -/
theorem chunked_write_grown :
    ∃ steps msg, (chunkedWriter .x64 short).Run steps msg ∧ events steps = [1, 2, 3, 4, 5]
      ∧ (∃ put, short.putSlice .x64 .contents (.move [0] [0, 0, 0, 0, 0]) .keep [1, 2, 3, 4, 5] =
          .ok (true, put) ∧ msg.SameContents put)
      ∧ ∀ t ∈ steps, t.pre.asSlice <+: t.post.asSlice := by
  have written : ((chunkedWriter .x64 short).replay short
      [⟨[1, 2], .keep, .keep⟩, ⟨[3], .keep, .keep⟩,
        ⟨[4, 5], .move [0] (List.replicate 64 0), .keep⟩]).map (events ·.1) =
      some [1, 2, 3, 4, 5] := by decide +kernel
  obtain ⟨⟨steps, msg⟩, computed, wrote⟩ := Option.map_eq_some_iff.mp written
  have run := run_of_replay _ computed
  have grown : short.reserve .x64 .contents (.move [0] [0, 0, 0, 0, 0]) 5 =
      .ok ⟨⟨[9], [0], [], [0, 0, 0, 0, 0]⟩, 0⟩ := by decide +kernel
  have honoured : short.WriteHonoured .x64 [1, 2, 3, 4, 5] (.move [0] [0, 0, 0, 0, 0]) .keep := by
    refine ⟨by decide +kernel, fun roomy reserved => ?_⟩
    cases grown.symm.trans reserved
    decide
  have all := chunked_write_eq short_valid run
  dsimp only at wrote
  rw [wrote] at all
  exact ⟨steps, msg, run, wrote, (all.1 _ _ honoured).1, all.2.2.2⟩

end NngRs.Anng
