/-
**The read position of every message stays inside its body.**

A program makes messages, copies them, copies one onto another, and calls any of their methods in any
order. A method that panics or reports an error leaves its message where it was; `clone_from` may stop
half-way, and leaves what it has made so far.

* `Edit.after_valid` — each method keeps a message valid.
* `pool_valid` — so does every step of a program, for all of its messages.
* `drainer_run` — reading a valid message in pieces yields what is unread, in order, and ends.
* `read_position_inside` — over every run, for every message: the position is inside the body, `chunk`
  returns, `remaining` is its length, and draining yields the rest of the body.
-/

import NngRs.Anng.Clone
import NngRs.Anng.Consumed

namespace NngRs.Anng

open Sys EventMachine Message

/-- A call of a method on one message, with the library's decisions. -/
inductive Edit (α : Type)
  | use (use : Use α)
  | writeHeader (buf : List α) (granted : Bool)
  | prependHeader (buf : List α) (granted : Bool)
  | headerTruncate (len : Nat)
  | headerTruncateFront (len : Nat)
  | clear
  | setLen (len : Nat) (extending : Placement α)
  | advanceMut (cnt : Nat) (extending : Placement α)
deriving DecidableEq, Repr

namespace Message

variable {α : Type} {target : Target} {capacity : Capacity} {msg msg' : Message (NngMsg α)}

/-- `advance` does not move the read position beyond the body. -/
theorem Valid.advance (valid : msg.Valid target) {cnt : Nat}
    (advanced : msg.advance target cnt = .ok msg') : msg'.Valid target := by
  rw [Message.advance] at advanced
  by_cases past : msg.len < target.saturatingAdd msg.pos cnt
  · rw [if_pos past] at advanced
    cases advanced
  · rw [if_neg past] at advanced
    cases advanced
    exact ⟨Nat.le_of_not_lt past, valid.fits⟩

theorem Valid.clear (valid : msg.Valid target) : msg.clear.Valid target := by
  have shortened := valid.truncate 0
  have bare := (headerTruncate_changed (msg.truncate 0) 0).valid shortened
  exact ⟨Nat.zero_le _, bare.fits⟩

/-- A method of reading or writing keeps a message valid, whether it returns or not. -/
theorem Valid.use (valid : msg.Valid target) (use : Use α) :
    (use.outcome target capacity msg).2.Valid target := by
  cases use with
  | write buf reserving appending =>
    rw [Use.outcome]
    cases written : msg.write target capacity reserving appending buf with
    | error p => exact valid
    | ok outcome => exact valid.write written
  | putSlice src reserving appending =>
    rw [Use.outcome]
    cases put : msg.putSlice target capacity reserving appending src with
    | error p => exact valid
    | ok outcome =>
      have inside : msg.pos ≤ msg.asSlice.length := valid.positioned
      refine (putSlice_ok put).valid valid ?_
      rw [List.length_append]
      omega
  | prepend buf inserting =>
    rw [Use.outcome]
    cases prepended : msg.prepend target inserting buf with
    | none => exact valid
    | some msg' => exact valid.prepend prepended
  | truncate len => exact valid.truncate len
  | truncateFront len trimming => exact valid.truncateFront trimming len
  | advance cnt =>
    rw [Use.outcome]
    cases advanced : msg.advance target cnt with
    | error p => exact valid
    | ok msg' => exact valid.advance advanced
  | chunk => exact valid

/-- A copy is valid. -/
theorem Valid.clone (valid : msg.Valid target) {placement : Placement α}
    (cloned : msg.clone target placement = .ok msg') : msg'.Valid target :=
  (clone_becomes cloned).valid valid valid.positioned

theorem Valid.fromSlice {before body after data : List α} {reserving appending : Placement α}
    {all : Bool} (made : Message.fromSlice target capacity before body after reserving appending data =
      .ok (all, msg)) : msg.Valid target := by
  rw [Message.fromSlice] at made
  cases created : withCapacity target data.length before body after with
  | error p =>
    rw [created] at made
    cases made
  | ok empty =>
    rw [created] at made
    exact (withCapacity_valid created).2.2.write made

/-- `clone_from` leaves a valid message, also when it stops half-way. -/
theorem Valid.cloneFrom {source : Message (NngMsg α)} (valid : msg.Valid target)
    (given : source.Valid target) (reserving appending : Placement α) (granted : Bool) :
    (msg.cloneFrom target capacity reserving appending granted source).2.Valid target := by
  cases done : msg.cloneFrom target capacity reserving appending granted source with
  | mk returned msg' =>
    obtain ⟨fits, contents⟩ := cloneFrom_becomes done
    refine ⟨?_, fits valid.fits⟩
    cases returned with
    | true =>
      obtain ⟨body, -, pos⟩ := contents
      have inside : source.pos ≤ source.asSlice.length := given.positioned
      rw [Positioned, len, body, pos]
      exact inside
    | false =>
      have start : msg'.pos = 0 := contents
      rw [Positioned, start]
      exact Nat.zero_le _

end Message

/-- The message after a call, whether it returned or not. -/
def Edit.after {α : Type} (target : Target) (capacity : Capacity) (msg : Message (NngMsg α)) :
    Edit α → Message (NngMsg α)
  | .use call => (call.outcome target capacity msg).2
  | .writeHeader buf granted => (msg.writeHeader granted buf).getD msg
  | .prependHeader buf granted => (msg.prependHeader granted buf).getD msg
  | .headerTruncate len => msg.headerTruncate len
  | .headerTruncateFront len => msg.headerTruncateFront len
  | .clear => msg.clear
  | .setLen len extending => (msg.setLen target extending len).toOption.getD msg
  | .advanceMut cnt extending => (msg.advanceMut target extending cnt).toOption.getD msg

/-- **Each method keeps a message valid.** -/
theorem Edit.after_valid {α : Type} {target : Target} (capacity : Capacity)
    {msg : Message (NngMsg α)} (valid : msg.Valid target) (edit : Edit α) :
    (edit.after target capacity msg).Valid target := by
  cases edit with
  | use use => exact valid.use use
  | writeHeader buf granted =>
    rw [after]
    cases written : msg.writeHeader granted buf with
    | none => exact valid
    | some msg' => exact (writeHeader_changed written).valid valid
  | prependHeader buf granted =>
    rw [after]
    cases written : msg.prependHeader granted buf with
    | none => exact valid
    | some msg' => exact (prependHeader_changed written).valid valid
  | headerTruncate len => exact (headerTruncate_changed msg len).valid valid
  | headerTruncateFront len => exact (headerTruncateFront_changed msg len).valid valid
  | clear => exact valid.clear
  | setLen len extending =>
    rw [after]
    cases changed : msg.setLen target extending len with
    | error p => exact valid
    | ok msg' => exact valid.setLen changed
  | advanceMut cnt extending =>
    rw [after]
    cases advanced : msg.advanceMut target extending cnt with
    | error p => exact valid
    | ok msg' => exact valid.advanceMut advanced

/-! ## A program with any number of messages -/

/-- What a program does with its messages, with the library's decisions. -/
inductive PoolAction (α : Type)
  | new (before body after : List α)
  | withCapacity (size : Nat) (before body after : List α)
  | fromSlice (data before body after : List α) (reserving appending : Placement α)
  | clone (source : Nat) (placement : Placement α)
  | cloneFrom (index source : Nat) (reserving appending : Placement α) (granted : Bool)
  | edit (index : Nat) (edit : Edit α)
  | drop (index : Nat)
deriving DecidableEq, Repr

section Pool

variable {α : Type} (target : Target) (capacity : Capacity)

/-- The messages of a program after a step; `none` where there is no such message, or where making one
panics. A message is not borrowed twice, so `clone_from` is about two messages. -/
def poolStep (msgs : List (Message (NngMsg α))) : PoolAction α → Option (List (Message (NngMsg α)))
  | .new before body after =>
    (Message.new target before body after).toOption.map fun msg => msgs ++ [msg]
  | .withCapacity size before body after =>
    (Message.withCapacity target size before body after).toOption.map fun msg => msgs ++ [msg]
  | .fromSlice data before body after reserving appending =>
    match Message.fromSlice target capacity before body after reserving appending data with
    | .ok (true, msg) => some (msgs ++ [msg])
    | _ => none
  | .clone source placement => do
    let source ← msgs[source]?
    let msg ← (source.clone target placement).toOption
    some (msgs ++ [msg])
  | .cloneFrom index source reserving appending granted =>
    if index = source then none
    else do
      let msg ← msgs[index]?
      let source ← msgs[source]?
      some (msgs.set index (msg.cloneFrom target capacity reserving appending granted source).2)
  | .edit index edit => do
    let msg ← msgs[index]?
    some (msgs.set index (edit.after target capacity msg))
  | .drop index => some (msgs.eraseIdx index)

/-- A program, with no messages at first. -/
def pool : EventMachine (List (Message (NngMsg α))) (PoolAction α) Empty where
  start := []
  step msgs action := (poolStep target capacity msgs action).map fun msgs => (msgs, [])

variable {target capacity} {msgs msgs' : List (Message (NngMsg α))} {msg : Message (NngMsg α)}

theorem ok_of_toOption {ε β : Type} {result : Except ε β} {b : β}
    (returned : result.toOption = some b) : result = .ok b := by
  cases result with
  | error e => cases returned
  | ok b' => exact congrArg Except.ok (Option.some.inj returned)

/-- One more message leaves the others. -/
theorem forall_concat {P : Message (NngMsg α) → Prop} (all : ∀ msg ∈ msgs, P msg) (last : P msg) :
    ∀ other ∈ msgs ++ [msg], P other :=
  List.forall_mem_append.mpr ⟨all, List.forall_mem_singleton.mpr last⟩

/-- **Every step keeps all messages valid.** -/
theorem poolStep_valid (all : ∀ msg ∈ msgs, msg.Valid target) (action : PoolAction α)
    (stepped : poolStep target capacity msgs action = some msgs') :
    ∀ msg ∈ msgs', msg.Valid target := by
  cases action with
  | new before body after =>
    obtain ⟨msg, made, rfl⟩ := Option.map_eq_some_iff.mp stepped
    exact forall_concat all (withCapacity_valid (ok_of_toOption made)).2.2
  | withCapacity size before body after =>
    obtain ⟨msg, made, rfl⟩ := Option.map_eq_some_iff.mp stepped
    exact forall_concat all (withCapacity_valid (ok_of_toOption made)).2.2
  | fromSlice data before body after reserving appending =>
    rw [poolStep] at stepped
    split at stepped
    next msg made =>
      cases stepped
      exact forall_concat all (Valid.fromSlice made)
    next => cases stepped
  | clone source placement =>
    obtain ⟨given, found, rest⟩ := Option.bind_eq_some_iff.mp stepped
    obtain ⟨msg, cloned, same⟩ := Option.bind_eq_some_iff.mp rest
    cases same
    have valid := all given (List.mem_of_getElem? found)
    exact forall_concat all (valid.clone (ok_of_toOption cloned))
  | cloneFrom index source reserving appending granted =>
    rw [poolStep] at stepped
    obtain ⟨-, rest⟩ := Option.ite_none_left_eq_some.mp stepped
    obtain ⟨msg, found, rest⟩ := Option.bind_eq_some_iff.mp rest
    obtain ⟨given, found', same⟩ := Option.bind_eq_some_iff.mp rest
    cases same
    have valid := all msg (List.mem_of_getElem? found)
    have valid' := all given (List.mem_of_getElem? found')
    exact forall_mem_set all (valid.cloneFrom valid' reserving appending granted)
  | edit index edit =>
    obtain ⟨msg, found, same⟩ := Option.bind_eq_some_iff.mp stepped
    cases same
    exact forall_mem_set all (edit.after_valid capacity (all msg (List.mem_of_getElem? found)))
  | drop index =>
    cases stepped
    exact fun msg member => all msg (List.mem_of_mem_eraseIdx member)

/-- Every message of every program is valid. -/
theorem pool_valid (reached : (pool target capacity).Reachable msgs) :
    ∀ msg ∈ msgs, msg.Valid target := by
  refine reached.invariant (I := fun msgs => ∀ msg ∈ msgs, msg.Valid target)
    (fun msg member => absurd member List.not_mem_nil) ?_
  intro msgs action msgs' out all stepped
  obtain ⟨later, made, same⟩ := Option.map_eq_some_iff.mp stepped
  cases same
  exact poolStep_valid all action made

/-! ## Draining a message -/

/-- A reader that takes pieces of the given sizes while something remains; the events are the bytes it
reads. -/
def drainer (target : Target) (start : Message (NngMsg α)) :
    EventMachine (Message (NngMsg α)) Nat α where
  start := start
  step msg size :=
    if size = 0 ∨ msg.remaining = 0 then none
    else
      match msg.chunk with
      | .error _ => none
      | .ok bytes =>
        match msg.advance target (min size bytes.length) with
        | .error _ => none
        | .ok msg => some (msg, bytes.take size)

variable {start last : Message (NngMsg α)}

theorem Message.Valid.chunk (valid : msg.Valid target) :
    msg.chunk = .ok (msg.asSlice.drop msg.pos) := if_pos valid.positioned

/-- **A step reads the next bytes**, and moves the read position behind them. -/
theorem drainer_step (valid : msg.Valid target) {size : Nat} (positive : size ≠ 0)
    (more : msg.remaining ≠ 0) :
    (drainer target start).step msg size =
      some ({ msg with pos := msg.pos + min size msg.remaining },
        (msg.asSlice.drop msg.pos).take size) := by
  have length : (msg.asSlice.drop msg.pos).length = msg.remaining := List.length_drop
  have advanced : msg.advance target (min size (msg.asSlice.drop msg.pos).length) =
      .ok { msg with pos := msg.pos + min size (msg.asSlice.drop msg.pos).length } :=
    advance_within valid.fits valid.positioned (by omega)
  rw [drainer]
  dsimp only
  rw [if_neg (not_or.mpr ⟨positive, more⟩), valid.chunk]
  dsimp only
  rw [advanced, length]

/-- **What was read and what is unread is what was unread at first**, and each step reads something. -/
theorem drainer_run (valid : start.Valid target)
    {steps : List (Transition (Message (NngMsg α)) Nat α)}
    (run : (drainer target start).Run steps last) :
    last.Valid target
      ∧ events steps ++ last.asSlice.drop last.pos = start.asSlice.drop start.pos
      ∧ steps.length + last.remaining ≤ start.remaining := by
  induction run with
  | nil =>
    refine ⟨valid, List.nil_append _, ?_⟩
    show 0 + start.remaining ≤ start.remaining
    omega
  | @snoc steps msg msg' size out _ stepped ih =>
    obtain ⟨valid, read, bound⟩ := ih
    have taken : ¬ (size = 0 ∨ msg.remaining = 0) := by
      intro stopped
      rw [drainer] at stepped
      dsimp only at stepped
      rw [if_pos stopped] at stepped
      cases stepped
    obtain ⟨positive, more⟩ := not_or.mp taken
    rw [drainer_step valid positive more] at stepped
    cases stepped
    have length : (msg.asSlice.drop msg.pos).length = msg.remaining := List.length_drop
    have all : msg.remaining = msg.len - msg.pos := rfl
    have inside : msg.pos ≤ msg.len := valid.positioned
    refine ⟨⟨?_, valid.fits⟩, ?_, ?_⟩
    · show msg.pos + min size msg.remaining ≤ msg.len
      omega
    · show _ ++ msg.asSlice.drop (msg.pos + min size msg.remaining) = _
      have piece : (msg.asSlice.drop msg.pos).take size =
          (msg.asSlice.drop msg.pos).take (min size msg.remaining) := by
        rw [← length, List.take_eq_take_min]
      rw [events_append, events_singleton, List.append_assoc]
      dsimp only
      rw [piece, ← List.drop_drop, List.take_append_drop]
      exact read
    · rw [List.length_append, List.length_singleton]
      show _ + 1 + (msg.len - (msg.pos + min size msg.remaining)) ≤ _
      omega

/-- **The read position of every message stays inside its body.** Over every run of a program, for each
of its messages: the position is within the length; `chunk` returns what is unread; `remaining` is its
length, and nothing of it was cut off at zero; and draining in pieces of any sizes goes on while
something remains, reads no more often than there are bytes, and has read the rest of the body when
nothing remains. -/
theorem read_position_inside (reached : (pool target capacity).Reachable msgs) (member : msg ∈ msgs) :
    msg.pos ≤ msg.len
      ∧ msg.chunk = .ok (msg.asSlice.drop msg.pos)
      ∧ msg.remaining = (msg.asSlice.drop msg.pos).length ∧ msg.pos + msg.remaining = msg.len
      ∧ ∀ steps last, (drainer target msg).Run steps last →
        steps.length ≤ msg.remaining
        ∧ (last.remaining = 0 → events steps = msg.asSlice.drop msg.pos)
        ∧ ∀ size, size ≠ 0 → last.remaining ≠ 0 →
          ∃ next bytes, (drainer target msg).step last size = some (next, bytes) := by
  have valid := pool_valid reached msg member
  have inside : msg.pos ≤ msg.len := valid.positioned
  refine ⟨inside, valid.chunk, List.length_drop.symm, Nat.add_sub_of_le inside, ?_⟩
  intro steps last run
  obtain ⟨valid', read, bound⟩ := drainer_run valid run
  refine ⟨by omega, fun drained => ?_, fun size positive more => ?_⟩
  · have nothing : last.asSlice.drop last.pos = [] :=
      List.eq_nil_of_length_eq_zero (List.length_drop.trans drained)
    rw [nothing, List.append_nil] at read
    exact read
  · exact ⟨_, _, drainer_step valid' positive more⟩

end Pool

/-- A message of three bytes, the first of them read, onto which an empty one was copied once, and which
then took the contents of another. -/
theorem read_position_inside_copied :
    ∃ msgs msg, (pool .x64 .contents).Reachable msgs ∧ msg ∈ msgs
      ∧ msg.pos = 1 ∧ msg.chunk = .ok [2, 3] := by
  have made : ((pool .x64 .contents).replay []
      [.fromSlice [1, 2, 3] [] [0, 0, 0] [] .keep .keep, .edit 0 (.use (.advance 1)),
        .new [] [] [0, 0, 0, 0], .edit 1 (.use (.write [4, 5, 6, 7] .keep .keep)),
        .edit 1 (.use (.advance 4)), .cloneFrom 1 0 .keep .keep true,
        .edit 0 .clear]).map (·.2) =
      some [⟨⟨[], [], [], [1, 2, 3]⟩, 0⟩, ⟨⟨[], [], [1, 2, 3], [7]⟩, 1⟩] := by decide +kernel
  obtain ⟨⟨steps, msgs⟩, computed, same⟩ := Option.map_eq_some_iff.mp made
  have reached : (pool .x64 .contents).Reachable msgs := ⟨steps, run_of_replay _ computed⟩
  cases same
  have member : (⟨⟨[], [], [1, 2, 3], [7]⟩, 1⟩ : Message (NngMsg Nat)) ∈
      [(⟨⟨[], [], [], [1, 2, 3]⟩, 0⟩ : Message (NngMsg Nat)), ⟨⟨[], [], [1, 2, 3], [7]⟩, 1⟩] := by
    decide
  exact ⟨_, _, reached, member, rfl, (read_position_inside reached member).2.1⟩

end NngRs.Anng
