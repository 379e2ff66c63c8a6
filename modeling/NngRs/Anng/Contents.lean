/-
**What a message is for: a header, a body, and how much of the body was read.**

`Contents` are two lists and a number. Each method has its meaning on them (`Call.apply`): which lists it
leaves, and whether it may fail; a method that fails leaves them as they were. Nothing of the allocation
is in them: neither its memory, nor its capacity, nor whether the library moves it.

* `Method.run` — a call with the library's decisions; `Method.refines` — it does what the method means.
* `contents_simulate` — so a program with any number of messages is simulated by one with contents.
* `messages_read_as_contents` — whatever a program reads of its messages, it could read of contents.
-/

import NngRs.Anng.ChunkMut
import NngRs.Anng.Cursor
import NngRs.Machine.Refinement

namespace NngRs.Anng

open Sys EventMachine Message

/-! ## The contents -/

/-- What can be read of a message. -/
structure Reading (α : Type) where
  header : List α
  headerLen : Nat
  /-- `as_slice`, and what derefs to it. -/
  body : List α
  len : Nat
  isEmpty : Bool
  remaining : Nat
  chunk : Except BufferPanic (List α)
deriving DecidableEq

/-- A header, a body and a read position. -/
structure Contents (α : Type) where
  header : List α
  body : List α
  pos : Nat
deriving DecidableEq

/-- A call as the caller sees it. -/
inductive Call (α : Type)
  | write (buf : List α)
  | putSlice (src : List α)
  | prepend (buf : List α)
  | truncate (len : Nat)
  | truncateFront (len : Nat)
  | advance (cnt : Nat)
  | chunk
  | writeHeader (buf : List α)
  | prependHeader (buf : List α)
  | headerTruncate (len : Nat)
  | headerTruncateFront (len : Nat)
  | clear
  | setLen (len : Nat)
  | advanceMut (cnt : Nat)
  | reserve (additional : Nat)
  | reserveExact (additional : Nat)
  | chunkMut
  /-- `as_mut_slice`, and then storing other bytes. -/
  | asMutSlice (stored : List α)
deriving DecidableEq

/-- Where a `clone_from` stops. -/
inductive Stop
  | returned
  | atBody
  | atHeader
deriving DecidableEq, Repr

section Meaning

variable {α : Type}

def Contents.reading (c : Contents α) : Reading α where
  header := c.header
  headerLen := c.header.length
  body := c.body
  len := c.body.length
  isEmpty := c.body.isEmpty
  remaining := c.body.length - c.pos
  chunk := .ok (c.body.drop c.pos)

/-- The contents with more of the memory in the body; there may be no such memory. -/
def Contents.extend (c : Contents α) (granted : Bool) (memory : List α) (more : Nat) :
    Option (Bool × Contents α) :=
  if granted then
    if memory.length = more then some (true, { c with body := c.body ++ memory }) else none
  else some (false, c)

/-- **What a method means**: whether it did what it is for, and the contents after it. `granted` is
whether the library has memory, and `memory` what is found in it. -/
def Call.apply (c : Contents α) (granted : Bool) (memory : List α) :
    Call α → Option (Bool × Contents α)
  | write buf => some (if granted then (true, { c with body := c.body ++ buf }) else (false, c))
  | putSlice src =>
    some (if granted || src.isEmpty then (true, { c with body := c.body ++ src }) else (false, c))
  | prepend buf => some (if granted then (true, { c with body := buf ++ c.body }) else (false, c))
  | truncate len => some (true, { c with body := c.body.take len, pos := min c.pos len })
  | truncateFront len =>
    let gone := c.body.length - len
    some (true, { c with body := c.body.drop gone, pos := c.pos - gone })
  | advance cnt =>
    some (if cnt ≤ c.body.length - c.pos then (true, { c with pos := c.pos + cnt }) else (false, c))
  | chunk => some (true, c)
  | writeHeader buf =>
    some (if granted then (true, { c with header := c.header ++ buf }) else (false, c))
  | prependHeader buf =>
    some (if granted then (true, { c with header := buf ++ c.header }) else (false, c))
  | headerTruncate len => some (true, { c with header := c.header.take len })
  | headerTruncateFront len =>
    some (true, { c with header := c.header.drop (c.header.length - len) })
  | clear => some (true, ⟨[], [], 0⟩)
  | setLen len =>
    if len ≤ c.body.length then
      some (true, { c with body := c.body.take len, pos := min c.pos len })
    else c.extend granted memory (len - c.body.length)
  | advanceMut cnt => if cnt = 0 then some (true, c) else c.extend granted memory cnt
  | reserve _ | reserveExact _ | chunkMut => some (granted, c)
  | asMutSlice stored =>
    if stored.length = c.body.length then some (true, { c with body := stored }) else none

/-- What `clone_from` leaves, by where it stops. -/
def Contents.assign (c source : Contents α) : Stop → Bool × Contents α
  | .returned => (true, source)
  | .atBody => (false, { c with body := [], pos := 0 })
  | .atHeader => (false, ⟨[], source.body, 0⟩)

end Meaning

/-! ## The methods -/

/-- A call of a method, with the library's decisions. -/
inductive Method (α : Type)
  | edit (edit : Edit α)
  | reserve (additional : Nat) (reserving : Placement α)
  | reserveExact (additional : Nat) (reserving : Placement α)
  | chunkMut (reserving : Placement α)
  | asMutSlice (stored : List α)
deriving DecidableEq

section Methods

variable {α : Type}

def Use.call : Use α → Call α
  | write buf _ _ => .write buf
  | putSlice src _ _ => .putSlice src
  | prepend buf _ => .prepend buf
  | truncate len => .truncate len
  | truncateFront len _ => .truncateFront len
  | advance cnt => .advance cnt
  | chunk => .chunk

def Edit.call : Edit α → Call α
  | use call => call.call
  | writeHeader buf _ => .writeHeader buf
  | prependHeader buf _ => .prependHeader buf
  | headerTruncate len => .headerTruncate len
  | headerTruncateFront len => .headerTruncateFront len
  | clear => .clear
  | setLen len _ => .setLen len
  | advanceMut cnt _ => .advanceMut cnt

def Method.call : Method α → Call α
  | edit call => call.call
  | reserve additional _ => .reserve additional
  | reserveExact additional _ => .reserveExact additional
  | chunkMut _ => .chunkMut
  | asMutSlice stored => .asMutSlice stored

namespace Message

/-- `Message::is_empty`. -/
def isEmpty (msg : Message (NngMsg α)) : Bool := msg.len == 0

/-- What the methods of a message read. -/
def reading (msg : Message (NngMsg α)) : Reading α where
  header := msg.header
  headerLen := msg.headerLen
  body := msg.asSlice
  len := msg.len
  isEmpty := msg.isEmpty
  remaining := msg.remaining
  chunk := msg.chunk

def contents (msg : Message (NngMsg α)) : Contents α := ⟨msg.header, msg.asSlice, msg.pos⟩

end Message

/-- Whether a call did what it is for. -/
def Edit.returned (target : Target) (capacity : Capacity) (msg : Message (NngMsg α)) : Edit α → Bool
  | use call => (call.outcome target capacity msg).1
  | writeHeader buf granted => (msg.writeHeader granted buf).isSome
  | prependHeader buf granted => (msg.prependHeader granted buf).isSome
  | headerTruncate _ | headerTruncateFront _ | clear => true
  | setLen len extending => (msg.setLen target extending len).isOk
  | advanceMut cnt extending => (msg.advanceMut target extending cnt).isOk

/-- Whether a method that returns a message did, and the message after it. -/
def orElse (msg : Message (NngMsg α)) :
    Except BufferPanic (Message (NngMsg α)) → Bool × Message (NngMsg α)
  | .ok msg => (true, msg)
  | .error _ => (false, msg)

/-- **A call**: whether it did what it is for, and the message after it; `none` where the caller breaks
the contract of an unsafe method, or stores other than the slice it was given. -/
def Method.run (target : Target) (capacity : Capacity) (msg : Message (NngMsg α)) :
    Method α → Option (Bool × Message (NngMsg α))
  | edit (.advanceMut cnt extending) =>
    -- The caller has written these bytes, so they are in an object.
    if cnt ≤ target.isizeMax then some (orElse msg (msg.advanceMut target extending cnt)) else none
  | edit call => some (call.returned target capacity msg, call.after target capacity msg)
  | reserve additional reserving =>
    some (orElse msg (msg.reserve target capacity reserving additional))
  | reserveExact additional reserving =>
    some (orElse msg (msg.reserveExact target capacity reserving additional))
  | chunkMut reserving =>
    some (orElse msg ((msg.chunkMut target capacity reserving).map Prod.snd))
  | asMutSlice stored =>
    if stored.length = msg.len then
      some (true, { msg with inner := msg.inner.store msg.inner.before.length stored })
    else none

end Methods

/-! ## What the methods do to the contents -/

section Refines

variable {α : Type} {target : Target} {capacity : Capacity} {msg msg' : Message (NngMsg α)}

/-- A valid message reads as its contents. -/
theorem Message.Valid.reading (valid : msg.Valid target) : msg.reading = msg.contents.reading := by
  have chunk := valid.chunk
  have empty : msg.isEmpty = msg.asSlice.isEmpty := by
    rw [Message.isEmpty, Message.len]
    cases msg.asSlice <;> rfl
  rw [Message.reading, chunk, empty]
  rfl

theorem Message.Becomes.contents {body : List α} {pos : Nat}
    (becomes : Becomes target msg msg' body pos) :
    msg'.contents = { msg.contents with body, pos } := by
  unfold Message.contents Message.header Message.asSlice
  rw [becomes.header, becomes.body, becomes.pos]

theorem Message.HeaderChanged.contents {header : List α} (changed : HeaderChanged msg msg' header) :
    msg'.contents = { msg.contents with header } := by
  rw [changed]
  rfl

/-- What a call may do, by the decisions of the library. -/
def Call.Does (call : Call α) (c : Contents α) (outcome : Bool × Contents α) : Prop :=
  ∃ granted memory, call.apply c granted memory = some outcome

/-- A method that has nothing to decide. -/
theorem Call.does_always {call : Call α} {c : Contents α} {outcome : Bool × Contents α}
    (same : call.apply c true [] = some outcome) : call.Does c outcome := ⟨true, [], same⟩

theorem Use.refines (valid : msg.Valid target) (use : Use α) :
    use.call.Does msg.contents
      ((use.outcome target capacity msg).1, (use.outcome target capacity msg).2.contents) := by
  cases use with
  | write buf reserving appending =>
    rw [outcome]
    cases written : msg.write target capacity reserving appending buf with
    | error p => exact ⟨false, [], rfl⟩
    | ok outcome =>
      obtain ⟨all, msg'⟩ := outcome
      refine ⟨all, [], ?_⟩
      rw [(write_ok written).contents]
      cases all <;> simp [Use.call, Call.apply, Message.contents]
  | putSlice src reserving appending =>
    rw [outcome]
    cases put : msg.putSlice target capacity reserving appending src with
    | error p =>
      refine ⟨false, [], ?_⟩
      have some' : src.isEmpty = false := by
        by_contra none
        rw [Message.putSlice, if_pos (Bool.eq_true_of_not_eq_false none)] at put
        cases put
      simp [Use.call, Call.apply, some']
    | ok outcome =>
      obtain ⟨all, msg'⟩ := outcome
      refine ⟨all, [], ?_⟩
      rw [(putSlice_ok put).contents]
      cases all with
      | true => simp [Use.call, Call.apply, Message.contents]
      | false =>
        have some' : src.isEmpty = false := by
          by_contra none
          rw [Message.putSlice, if_pos (Bool.eq_true_of_not_eq_false none)] at put
          cases put
        simp [Use.call, Call.apply, Message.contents, some']
  | prepend buf inserting =>
    rw [outcome]
    cases prepended : msg.prepend target inserting buf with
    | none => exact ⟨false, [], rfl⟩
    | some msg' =>
      refine ⟨true, [], ?_⟩
      rw [(prepend_some prepended).contents]
      rfl
  | truncate len =>
    refine Call.does_always ?_
    rw [outcome, (truncate_becomes len valid.positioned : Becomes target _ _ _ _).contents]
    rfl
  | truncateFront len trimming =>
    refine Call.does_always ?_
    rw [outcome, (truncateFront_becomes trimming len : Becomes target msg _ _ _).contents]
    rfl
  | advance cnt =>
    refine Call.does_always ?_
    rw [outcome]
    by_cases within : cnt ≤ msg.remaining
    · rw [advance_within valid.fits valid.positioned within]
      exact congrArg some (if_pos within)
    · rw [advance_beyond valid.fits (Nat.lt_of_not_le within)]
      exact congrArg some (if_neg within)
  | chunk => exact Call.does_always rfl

/-- A longer body is the old one and the memory it takes over. -/
theorem setLen_extends {extending : Placement α} {len : Nat} (valid : msg.Valid target)
    (longer : msg.len < len) (extended : msg.setLen target extending len = .ok msg') :
    ∃ memory, memory.length = len - msg.len ∧
      msg'.contents = { msg.contents with body := msg.asSlice ++ memory } := by
  obtain ⟨inner, placed, rfl⟩ := setLen_ok longer valid.positioned extended
  obtain ⟨header, ⟨memory, body⟩, length, -⟩ := NngMsg.realloc_some (Nat.le_of_lt longer) placed
  refine ⟨memory, ?_, ?_⟩
  · rw [← length, ← body, List.length_append, Message.len, Message.asSlice]
    omega
  · unfold Message.contents Message.header Message.asSlice
    dsimp only
    rw [header, ← body]

/-- A shorter body is a truncated one. -/
theorem setLen_truncates (extending : Placement α) {len : Nat} (valid : msg.Valid target)
    (shorter : len ≤ msg.len) :
    ∃ msg', msg.setLen target extending len = .ok msg' ∧
      msg'.contents = { msg.contents with body := msg.asSlice.take len, pos := min msg.pos len } := by
  have inside : msg.pos ≤ msg.len := valid.positioned
  rw [setLen]
  dsimp only
  rw [if_neg (Nat.not_lt.mpr shorter)]
  by_cases less : len < msg.len
  · have becomes : Becomes target msg (msg.truncate len) (msg.asSlice.take len) (min msg.pos len) :=
      truncate_becomes len valid.positioned
    have adjusted : ¬len < (msg.truncate len).pos := by
      rw [becomes.pos]
      omega
    rw [if_pos less, if_neg adjusted]
    exact ⟨_, rfl, becomes.contents⟩
  · have adjusted : ¬len < msg.pos := by omega
    rw [if_neg less, if_neg adjusted]
    refine ⟨msg, rfl, ?_⟩
    have whole : msg.asSlice.length ≤ len := Nat.le_of_not_lt less
    rw [List.take_of_length_le whole, Nat.min_eq_left (inside.trans (Nat.le_of_not_lt less))]
    rfl

theorem setLen_refines (valid : msg.Valid target) (len : Nat) (extending : Placement α) :
    (Call.setLen len).Does msg.contents
      ((orElse msg (msg.setLen target extending len)).1,
        (orElse msg (msg.setLen target extending len)).2.contents) := by
  by_cases shorter : len ≤ msg.len
  · obtain ⟨msg', changed, contents⟩ := setLen_truncates extending valid shorter
    refine Call.does_always ?_
    rw [changed, Call.apply, if_pos (show len ≤ msg.contents.body.length from shorter)]
    exact congrArg (fun c => some (true, c)) contents.symm
  · have longer : ¬len ≤ msg.contents.body.length := shorter
    cases changed : msg.setLen target extending len with
    | error p =>
      refine ⟨false, [], ?_⟩
      rw [Call.apply, if_neg longer]
      rfl
    | ok msg' =>
      obtain ⟨memory, length, contents⟩ := setLen_extends valid (Nat.lt_of_not_le shorter) changed
      refine ⟨true, memory, ?_⟩
      have room : memory.length = len - msg.contents.body.length := length
      rw [Call.apply, if_neg longer, Contents.extend, if_pos rfl, if_pos room]
      exact congrArg (fun c => some (true, c)) contents.symm

theorem advanceMut_refines (valid : msg.Valid target) {cnt : Nat} (small : cnt ≤ target.isizeMax)
    (extending : Placement α) :
    (Call.advanceMut cnt).Does msg.contents
      ((orElse msg (msg.advanceMut target extending cnt)).1,
        (orElse msg (msg.advanceMut target extending cnt)).2.contents) := by
  rw [Message.advanceMut, target.add_of_le (len_le valid.fits) small]
  dsimp only
  by_cases none : cnt = 0
  · obtain ⟨msg', changed, contents⟩ := setLen_truncates extending valid
      (show msg.len + cnt ≤ msg.len by omega)
    refine Call.does_always ?_
    have inside : msg.pos ≤ msg.len := valid.positioned
    rw [changed, Call.apply, if_pos none]
    refine congrArg (fun c => some (true, c)) ?_
    show msg.contents = msg'.contents
    have whole : msg.asSlice.length ≤ msg.len := Nat.le_refl _
    rw [contents, none, Nat.add_zero, List.take_of_length_le whole, Nat.min_eq_left inside]
    rfl
  · cases changed : msg.setLen target extending (msg.len + cnt) with
    | error p =>
      refine ⟨false, [], ?_⟩
      rw [Call.apply, if_neg none]
      rfl
    | ok msg' =>
      obtain ⟨memory, length, contents⟩ :=
        setLen_extends valid (Nat.lt_add_of_pos_right (Nat.pos_of_ne_zero none)) changed
      rw [Nat.add_sub_cancel_left] at length
      refine ⟨true, memory, ?_⟩
      rw [Call.apply, if_neg none, Contents.extend, if_pos rfl, if_pos length]
      exact congrArg (fun c => some (true, c)) contents.symm

/-- Storing into the slice of the body changes its bytes. -/
theorem store_body {stored : List α} (same : stored.length = msg.len) :
    msg.inner.store msg.inner.before.length stored = { msg.inner with body := stored } := by
  obtain ⟨⟨header, before, body, after⟩, pos⟩ := msg
  have same : stored.length = body.length := same
  unfold NngMsg.store
  have front : (before ++ body ++ after).take before.length = before := by simp
  have back : (before ++ body ++ after).drop (before.length + stored.length) = after := by
    rw [same, ← List.length_append, List.drop_left]
  simp only [front, back, ← same]
  simp

theorem header_refines (call : Call α) {done : Option (Message (NngMsg α))} {header : List α}
    (changed : ∀ msg', done = some msg' → HeaderChanged msg msg' header)
    (means : ∀ granted, call.apply msg.contents granted [] =
      some (if granted then (true, { msg.contents with header }) else (false, msg.contents))) :
    call.Does msg.contents (done.isSome, (done.getD msg).contents) := by
  cases done with
  | none => exact ⟨false, [], means false⟩
  | some msg' =>
    refine ⟨true, [], ?_⟩
    rw [means true, if_pos rfl, Option.getD_some, (changed msg' rfl).contents]
    rfl

/-- A method that only makes room. -/
theorem room_refines (call : Call α) (done : Except BufferPanic (Message (NngMsg α)))
    (same : ∀ msg', done = .ok msg' → Becomes target msg msg' msg.asSlice msg.pos)
    (means : ∀ granted, call.apply msg.contents granted [] = some (granted, msg.contents)) :
    call.Does msg.contents ((orElse msg done).1, (orElse msg done).2.contents) := by
  cases done with
  | error p => exact ⟨false, [], means false⟩
  | ok msg' =>
    refine ⟨true, [], ?_⟩
    rw [means true, orElse, (same msg' rfl).contents]
    rfl

theorem chunkMut_becomes (valid : msg.Valid target) {reserving : Placement α}
    (made : (msg.chunkMut target capacity reserving).map Prod.snd = .ok msg') :
    Becomes target msg msg' msg.asSlice msg.pos := by
  cases handed : msg.chunkMut target capacity reserving with
  | error p =>
    rw [handed] at made
    cases made
  | ok outcome =>
    rw [handed] at made
    cases made
    exact (chunkMut_slice valid.fits handed).1

theorem toOption_orElse (done : Except BufferPanic (Message (NngMsg α))) :
    (done.isOk, done.toOption.getD msg) = orElse msg done := by
  cases done <;> rfl

/-- **Every method does what it means.** -/
theorem Method.refines (valid : msg.Valid target) {method : Method α} {done : Bool}
    (ran : method.run target capacity msg = some (done, msg')) :
    method.call.Does msg.contents (done, msg'.contents) := by
  cases method with
  | edit call =>
    cases call with
    | advanceMut cnt extending =>
      obtain ⟨small, same⟩ := Option.ite_none_right_eq_some.mp ran
      have refines := advanceMut_refines valid small extending
      rw [Option.some.inj same] at refines
      exact refines
    | use use =>
      cases ran
      exact use.refines valid
    | writeHeader buf granted =>
      cases ran
      exact header_refines (.writeHeader buf) (fun _ written => writeHeader_changed written)
        fun granted => by cases granted <;> rfl
    | prependHeader buf granted =>
      cases ran
      exact header_refines (.prependHeader buf) (fun _ written => prependHeader_changed written)
        fun granted => by cases granted <;> rfl
    | headerTruncate len =>
      cases ran
      refine Call.does_always ?_
      exact congrArg (fun c => some (true, c)) (headerTruncate_changed msg len).contents.symm
    | headerTruncateFront len =>
      cases ran
      refine Call.does_always ?_
      exact congrArg (fun c => some (true, c)) (headerTruncateFront_changed msg len).contents.symm
    | clear =>
      cases ran
      refine Call.does_always ?_
      have emptied : msg.clear.contents = ⟨[], [], 0⟩ := by
        have bare := (headerTruncate_changed (msg.truncate 0) 0).contents
        rw [List.take_zero] at bare
        have parts := congrArg Contents.header bare
        have body := (congrArg Contents.body bare).trans msg.truncate_zero.1
        exact congrArg₂ (fun header body => Contents.mk header body 0) parts body
      exact congrArg (fun c => some (true, c)) emptied.symm
    | setLen len extending =>
      have refines := setLen_refines valid len extending
      rw [← toOption_orElse] at refines
      cases ran
      exact refines
  | reserve additional reserving =>
    have refines := room_refines (.reserve additional)
      (msg.reserve target capacity reserving additional) (fun _ reserved => reserve_ok reserved)
      fun _ => rfl
    rw [Option.some.inj ran] at refines
    exact refines
  | reserveExact additional reserving =>
    have refines := room_refines (.reserveExact additional)
      (msg.reserveExact target capacity reserving additional)
      (fun _ reserved => reserveExact_ok reserved) fun _ => rfl
    rw [Option.some.inj ran] at refines
    exact refines
  | chunkMut reserving =>
    have refines := room_refines .chunkMut ((msg.chunkMut target capacity reserving).map Prod.snd)
      (fun _ made => chunkMut_becomes valid made) fun _ => rfl
    rw [Option.some.inj ran] at refines
    exact refines
  | asMutSlice stored =>
    obtain ⟨same, ran⟩ := Option.ite_none_right_eq_some.mp ran
    rw [store_body same] at ran
    cases ran
    refine Call.does_always ?_
    exact if_pos same

theorem orElse_valid (valid : msg.Valid target) (result : Except BufferPanic (Message (NngMsg α)))
    (made : ∀ msg', result = .ok msg' → msg'.Valid target) : (orElse msg result).2.Valid target := by
  cases result with
  | error p => exact valid
  | ok msg' => exact made msg' rfl

/-- Every method keeps a message valid. -/
theorem Method.valid (valid : msg.Valid target) {method : Method α} {done : Bool}
    (ran : method.run target capacity msg = some (done, msg')) : msg'.Valid target := by
  cases method with
  | edit call =>
    have after := call.after_valid capacity valid
    cases call with
    | advanceMut cnt extending =>
      obtain ⟨-, same⟩ := Option.ite_none_right_eq_some.mp ran
      have ends := orElse_valid valid (msg.advanceMut target extending cnt) fun _ advanced =>
        valid.advanceMut advanced
      rw [Option.some.inj same] at ends
      exact ends
    | _ =>
      cases ran
      exact after
  | reserve additional reserving =>
    have ends := orElse_valid valid (msg.reserve target capacity reserving additional)
      fun _ reserved => valid.reserve reserved
    rw [Option.some.inj ran] at ends
    exact ends
  | reserveExact additional reserving =>
    have ends := orElse_valid valid (msg.reserveExact target capacity reserving additional)
      fun _ reserved => (reserveExact_ok reserved).valid valid valid.positioned
    rw [Option.some.inj ran] at ends
    exact ends
  | chunkMut reserving =>
    have ends := orElse_valid valid ((msg.chunkMut target capacity reserving).map Prod.snd)
      fun _ made => (chunkMut_becomes valid made).valid valid valid.positioned
    rw [Option.some.inj ran] at ends
    exact ends
  | asMutSlice stored =>
    obtain ⟨same, ran⟩ := Option.ite_none_right_eq_some.mp ran
    rw [store_body same] at ran
    cases ran
    have inside : msg.pos ≤ msg.len := valid.positioned
    have small := valid.fits
    have length : stored.length = msg.inner.body.length := same
    refine ⟨inside.trans (Nat.le_of_eq same.symm), ?_⟩
    rw [NngMsg.Fits, NngMsg.size] at small ⊢
    dsimp only
    omega

/-- **Where `clone_from` stops, and what it leaves there.** -/
theorem cloneFrom_assigns {source : Message (NngMsg α)} {reserving appending : Placement α}
    {granted done : Bool}
    (assigned : msg.cloneFrom target capacity reserving appending granted source = (done, msg')) :
    ∃ stop, msg.contents.assign source.contents stop = (done, msg'.contents) := by
  obtain ⟨empty, start, -⟩ := msg.truncate_zero
  have header : (msg.truncate 0).header = msg.header := by
    rw [truncate, Target.checkedSub, if_pos (Nat.zero_le _)]
    dsimp only
    split <;> rfl
  have emptied : (msg.truncate 0).contents = ⟨msg.header, [], 0⟩ := by
    unfold Message.contents
    rw [header, empty, start]
  rw [cloneFrom] at assigned
  dsimp only at assigned
  cases written : (msg.truncate 0).write target capacity reserving appending source.asSlice with
  | error p =>
    rw [written] at assigned
    cases assigned
    exact ⟨.atBody, congrArg (Prod.mk false) emptied.symm⟩
  | ok outcome =>
    obtain ⟨all, filled⟩ := outcome
    have contents := (write_ok written).contents
    rw [emptied, empty, start, List.nil_append] at contents
    rw [written] at assigned
    cases all with
    | false =>
      cases assigned
      exact ⟨.atBody, congrArg (Prod.mk false) contents.symm⟩
    | true =>
      dsimp only at assigned
      have chopped := (headerTruncate_changed filled 0).contents
      rw [contents, List.take_zero] at chopped
      cases headed : (filled.headerTruncate 0).writeHeader granted source.header with
      | none =>
        rw [headed] at assigned
        cases assigned
        exact ⟨.atHeader, congrArg (Prod.mk false) chopped.symm⟩
      | some last =>
        rw [headed] at assigned
        cases assigned
        have written' := (writeHeader_changed headed).contents
        rw [chopped, show (filled.headerTruncate 0).header = [] from congrArg Contents.header chopped,
          List.nil_append] at written'
        refine ⟨.returned, congrArg (Prod.mk true) ?_⟩
        show source.contents = { last.contents with pos := source.pos }
        rw [written']
        rfl

theorem withCapacity_contents {size : Nat} {before body after : List α}
    (created : withCapacity target size before body after = .ok msg) : msg.contents = ⟨[], [], 0⟩ := by
  obtain ⟨slice, pos, -⟩ := withCapacity_valid created
  have header : msg.header = [] := by
    rw [withCapacity] at created
    cases allocated : NngMsg.alloc target size before body after with
    | none =>
      rw [allocated] at created
      cases created
    | some inner =>
      rw [allocated] at created
      cases created
      obtain ⟨-, same⟩ := Option.ite_none_right_eq_some.mp allocated
      cases same
      rw [truncate, Target.checkedSub, if_pos (Nat.zero_le _)]
      dsimp only
      split <;> rfl
  unfold Message.contents
  rw [header, slice, pos]

theorem fromSlice_contents {before body after data : List α} {reserving appending : Placement α}
    (made : Message.fromSlice target capacity before body after reserving appending data =
      .ok (true, msg)) : msg.contents = ⟨[], data, 0⟩ := by
  rw [Message.fromSlice] at made
  cases created : withCapacity target data.length before body after with
  | error p =>
    rw [created] at made
    cases made
  | ok bare =>
    rw [created] at made
    have contents := (write_ok made).contents
    obtain ⟨slice, pos, -⟩ := withCapacity_valid created
    rw [withCapacity_contents created, slice, pos] at contents
    exact contents

end Refines

/-! ## Programs -/

/-- What a program does with its messages, with the library's decisions. -/
inductive MessageAction (α : Type)
  | new (before body after : List α)
  | withCapacity (size : Nat) (before body after : List α)
  | fromSlice (data before body after : List α) (reserving appending : Placement α)
  | clone (source : Nat) (placement : Placement α)
  | cloneFrom (index source : Nat) (reserving appending : Placement α) (granted : Bool)
  | call (index : Nat) (method : Method α)
  | drop (index : Nat)
deriving DecidableEq

/-- What a program does with contents. -/
inductive ContentsAction (α : Type)
  | make (data : List α)
  | clone (source : Nat)
  | assign (index source : Nat) (stop : Stop)
  | call (index : Nat) (call : Call α) (granted : Bool) (memory : List α)
  | drop (index : Nat)
deriving DecidableEq

/-- What a program sees of a step: what it asked for, whether it was done, and what the message then
reads as. -/
inductive MessageEvent (α : Type)
  | made (data : List α) (reading : Reading α)
  | cloned (source : Nat) (reading : Reading α)
  | assigned (index source : Nat) (done : Bool) (reading : Reading α)
  | called (index : Nat) (call : Call α) (done : Bool) (reading : Reading α)
  | dropped (index : Nat)
deriving DecidableEq

section Programs

variable {α : Type} (target : Target) (capacity : Capacity)

/-- A step of a program; `none` where there is no such message, where making one panics, or where the
caller breaks a contract. -/
def messageStep (msgs : List (Message (NngMsg α))) :
    MessageAction α → Option (List (Message (NngMsg α)) × List (MessageEvent α))
  | .new before body after =>
    (Message.new target before body after).toOption.map fun msg =>
      (msgs ++ [msg], [.made [] msg.reading])
  | .withCapacity size before body after =>
    (Message.withCapacity target size before body after).toOption.map fun msg =>
      (msgs ++ [msg], [.made [] msg.reading])
  | .fromSlice data before body after reserving appending =>
    match Message.fromSlice target capacity before body after reserving appending data with
    | .ok (true, msg) => some (msgs ++ [msg], [.made data msg.reading])
    | _ => none
  | .clone source placement => do
    let given ← msgs[source]?
    let msg ← (given.clone target placement).toOption
    some (msgs ++ [msg], [.cloned source msg.reading])
  | .cloneFrom index source reserving appending granted =>
    if index = source then none
    else do
      let msg ← msgs[index]?
      let given ← msgs[source]?
      let result := msg.cloneFrom target capacity reserving appending granted given
      some (msgs.set index result.2, [.assigned index source result.1 result.2.reading])
  | .call index method => do
    let msg ← msgs[index]?
    let result ← method.run target capacity msg
    some (msgs.set index result.2, [.called index method.call result.1 result.2.reading])
  | .drop index =>
    if index < msgs.length then some (msgs.eraseIdx index, [.dropped index]) else none

/-- A program with messages, none at first. -/
def messageMachine : EventMachine (List (Message (NngMsg α))) (MessageAction α) (MessageEvent α) where
  start := []
  step := messageStep target capacity

/-- The same with contents. -/
def contentsStep (all : List (Contents α)) :
    ContentsAction α → Option (List (Contents α) × List (MessageEvent α))
  | .make data =>
    let c : Contents α := ⟨[], data, 0⟩
    some (all ++ [c], [.made data c.reading])
  | .clone source => do
    let c ← all[source]?
    some (all ++ [c], [.cloned source c.reading])
  | .assign index source stop =>
    if index = source then none
    else do
      let c ← all[index]?
      let given ← all[source]?
      let result := c.assign given stop
      some (all.set index result.2, [.assigned index source result.1 result.2.reading])
  | .call index call granted memory => do
    let c ← all[index]?
    let result ← call.apply c granted memory
    some (all.set index result.2, [.called index call result.1 result.2.reading])
  | .drop index =>
    if index < all.length then some (all.eraseIdx index, [.dropped index]) else none

/-- A program with contents, none at first. -/
def contentsMachine (α : Type) : EventMachine (List (Contents α)) (ContentsAction α) (MessageEvent α) where
  start := []
  step := contentsStep

/-- The contents of valid messages. -/
def Pictures (msgs : List (Message (NngMsg α))) (all : List (Contents α)) : Prop :=
  all = msgs.map Message.contents ∧ ∀ msg ∈ msgs, msg.Valid target

variable {target capacity} {msgs : List (Message (NngMsg α))} {msg : Message (NngMsg α)}

/-- One message more, and its contents. -/
theorem pictures_concat (valid : ∀ msg ∈ msgs, msg.Valid target) (new : msg.Valid target)
    {c : Contents α} (same : msg.contents = c) :
    Pictures target (msgs ++ [msg]) (msgs.map Message.contents ++ [c]) :=
  ⟨by rw [List.map_append, ← same]; rfl, forall_concat valid new⟩

theorem pictures_set (valid : ∀ msg ∈ msgs, msg.Valid target) (new : msg.Valid target) {index : Nat}
    {c : Contents α} (same : msg.contents = c) :
    Pictures target (msgs.set index msg) ((msgs.map Message.contents).set index c) :=
  ⟨by rw [List.map_set, ← same], forall_mem_set valid new⟩

theorem contents_found {index : Nat} (found : msgs[index]? = some msg) :
    (msgs.map Message.contents)[index]? = some msg.contents := by
  rw [List.getElem?_map, found]
  rfl

/-- A new message. -/
theorem make_answers (valid : ∀ msg ∈ msgs, msg.Valid target) (new : msg.Valid target) {data : List α}
    (contents : msg.contents = ⟨[], data, 0⟩) :
    (contentsMachine α).Answers (Pictures target) (msgs.map Message.contents)
      [.made data msg.reading] (msgs ++ [msg]) := by
  rw [new.reading, contents]
  exact .step (b := .make data) rfl (pictures_concat valid new contents)

/-- **Contents simulate messages.** -/
theorem contents_simulate :
    Simulation (messageMachine target capacity) (contentsMachine α) (Pictures target) where
  start := ⟨rfl, fun msg member => absurd member List.not_mem_nil⟩
  answered := by
    rintro msgs _ action msgs' out ⟨rfl, valid⟩ stepped
    cases action with
    | new before body after =>
      obtain ⟨msg, made, same⟩ := Option.map_eq_some_iff.mp stepped
      cases same
      have created := ok_of_toOption made
      exact make_answers valid (withCapacity_valid created).2.2 (withCapacity_contents created)
    | withCapacity size before body after =>
      obtain ⟨msg, made, same⟩ := Option.map_eq_some_iff.mp stepped
      cases same
      have created := ok_of_toOption made
      exact make_answers valid (withCapacity_valid created).2.2 (withCapacity_contents created)
    | fromSlice data before body after reserving appending =>
      simp only [messageMachine, messageStep] at stepped
      split at stepped
      next msg made =>
        cases stepped
        exact make_answers valid (Valid.fromSlice made) (fromSlice_contents made)
      next => cases stepped
    | clone source placement =>
      obtain ⟨given, found, rest⟩ := Option.bind_eq_some_iff.mp stepped
      obtain ⟨msg, made, same⟩ := Option.bind_eq_some_iff.mp rest
      cases same
      have cloned := ok_of_toOption made
      have new := (valid given (List.mem_of_getElem? found)).clone cloned
      have contents : msg.contents = given.contents := (clone_becomes cloned).contents
      refine .step (b := .clone source) ?_ (pictures_concat valid new contents)
      simp only [contentsMachine, contentsStep, contents_found found, Option.bind_eq_bind,
        Option.bind_some]
      rw [new.reading, contents]
    | cloneFrom index source reserving appending granted =>
      obtain ⟨other, rest⟩ := Option.ite_none_left_eq_some.mp stepped
      obtain ⟨msg, found, rest⟩ := Option.bind_eq_some_iff.mp rest
      obtain ⟨given, found', same⟩ := Option.bind_eq_some_iff.mp rest
      cases same
      have new : (msg.cloneFrom target capacity reserving appending granted given).2.Valid target :=
        (valid msg (List.mem_of_getElem? found)).cloneFrom (valid given (List.mem_of_getElem? found'))
          reserving appending granted
      obtain ⟨stop, assigned⟩ := cloneFrom_assigns (Prod.eta
        (msg.cloneFrom target capacity reserving appending granted given)).symm
      refine .step (b := .assign index source stop) ?_
        (pictures_set valid new (congrArg Prod.snd assigned).symm)
      simp only [contentsMachine, contentsStep, if_neg other, contents_found found,
        contents_found found', Option.bind_eq_bind, Option.bind_some, assigned]
      rw [new.reading]
    | call index method =>
      obtain ⟨msg, found, rest⟩ := Option.bind_eq_some_iff.mp stepped
      obtain ⟨⟨done, msg'⟩, ran, same⟩ := Option.bind_eq_some_iff.mp rest
      cases same
      have before := valid msg (List.mem_of_getElem? found)
      have new := Method.valid before ran
      obtain ⟨granted, memory, does⟩ := Method.refines before ran
      refine .step (b := .call index method.call granted memory) ?_ (pictures_set valid new rfl)
      simp only [contentsMachine, contentsStep, contents_found found, Option.bind_eq_bind,
        Option.bind_some, does]
      rw [new.reading]
    | drop index =>
      obtain ⟨inside, same⟩ := Option.ite_none_right_eq_some.mp stepped
      cases same
      refine .step (b := .drop index) ?_ ⟨rfl, fun msg member => ?_⟩
      · simp only [contentsMachine, contentsStep, List.length_map, if_pos inside]
        rw [List.eraseIdx_map]
      · exact valid msg (List.mem_of_mem_eraseIdx member)

/-- **Whatever a program reads of its messages, it could read of contents**: however the library places,
moves and refuses memory, every call leaves what it means, and every failed one leaves nothing. -/
theorem messages_read_as_contents (target : Target) (capacity : Capacity) {shown : List (MessageEvent α)}
    (seen : (messageMachine target capacity).Shows shown) : (contentsMachine α).Shows shown :=
  contents_simulate.shows seen

end Programs

/-- A message is written and partly read, moved by a `prepend`, and copied onto another one, where the
library has no memory for the header. -/
theorem messages_read_as_contents_copied :
    ∃ trace msgs, (messageMachine (α := Nat) .x64 .contents).Run trace msgs ∧ trace.length = 7 ∧
      msgs.map Message.contents = [⟨[9], [7, 1, 2, 3], 2⟩, ⟨[], [7, 1, 2, 3], 0⟩] ∧
      (contentsMachine Nat).Shows (events trace) := by
  have run := run_of_replay (M := messageMachine (α := Nat) .x64 .contents)
    [.fromSlice [1, 2] [] [0, 0] [0, 0] .keep .keep, .withCapacity 4 [] [0, 0, 0, 0] [],
      .call 0 (.edit (.use (.advance 2))), .call 0 (.edit (.writeHeader [9] true)),
      .call 0 (.edit (.use (.write [3] .keep .keep))),
      .call 0 (.edit (.use (.prepend [7] (.move [0, 0] [])))), .cloneFrom 1 0 .keep .keep false]
    rfl
  exact ⟨_, _, run, rfl, rfl, messages_read_as_contents .x64 .contents ⟨_, _, run, rfl⟩⟩

end NngRs.Anng
