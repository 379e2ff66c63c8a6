/-
**Messages of the `nng` crate are values, as long as no two headers are swapped.**

A program with values has no pointers and no heap: a variable holds a header and a body, a clone is a
copy, and the library holds a multiset of messages. The reader watches a program with pointers and
shows what it reads, the header through the pointer of the header and the body through that of the
message.

* `Program.values` — the values of a program with pointers.
* `values_simulate` — a program that swaps no headers is simulated by one with values: a method of one
  message changes no other, also where addresses are used again.
* `messages_read_as_values` — so whatever such a program reads, it could read of values.
-/

import NngRs.Machine.Owners
import NngRs.Machine.Refinement
import NngRs.Machine.Watch
import NngRs.Nng.Header

namespace NngRs.Nng

open EventMachine Owners

/-! ## A program with values -/

structure Values (α : Type) where
  messages : Nat → Option (HeapMsg α)
  /-- The messages of the library. -/
  library : Multiset (HeapMsg α)

inductive ValueAction (α : Type)
  | new (into : Nat) (body : List α)
  | clone (source into : Nat)
  | arrive (msg : HeapMsg α)
  | receive (into : Nat) (msg : HeapMsg α)
  | header (index : Nat) (access : Access α)
  | body (index : Nat) (access : Access α)
  | swap (index other : Nat)
  | drop (index : Nat)
  | send (index : Nat) (failed : Bool)
  | free (msg : HeapMsg α)
deriving DecidableEq, Repr

/-- What a program sees of a step: what it asked for, and what the message then reads as. -/
inductive ValueEvent (α : Type)
  | made (into : Nat) (reading : Option (HeapMsg α))
  | cloned (source into : Nat) (reading : Option (HeapMsg α))
  | received (into : Nat) (reading : Option (HeapMsg α))
  | header (index : Nat) (access : Access α) (reading : Option (HeapMsg α))
  | body (index : Nat) (access : Access α) (reading : Option (HeapMsg α))
  | swapped (index other : Nat)
  | dropped (index : Nat)
  | sent (index : Nat) (failed : Bool)
deriving DecidableEq, Repr

section Values

variable {α : Type} [DecidableEq α]

/-- The values with another one in a variable. -/
def Values.put (v : Values α) (index : Nat) (msg : Option (HeapMsg α)) : Values α :=
  { v with messages := Function.update v.messages index msg }

/-- A step of a program with values. -/
def Values.step (v : Values α) : ValueAction α → Option (Values α × List (ValueEvent α))
  | .new into body =>
    match v.messages into with
    | none => some (v.put into (some ⟨[], body⟩), [.made into (some ⟨[], body⟩)])
    | some _ => none
  | .clone source into =>
    match v.messages source, v.messages into with
    | some msg, none => some (v.put into (some msg), [.cloned source into (some msg)])
    | _, _ => none
  | .arrive msg => some ({ v with library := msg ::ₘ v.library }, [])
  | .receive into msg =>
    match v.messages into with
    | none =>
      if msg ∈ v.library then
        some ({ v.put into (some msg) with library := v.library.erase msg },
          [.received into (some msg)])
      else none
    | some _ => none
  | .header index access =>
    (v.messages index).map fun msg =>
      let msg := { msg with header := access.apply msg.header }
      (v.put index (some msg), [.header index access (some msg)])
  | .body index access =>
    (v.messages index).map fun msg =>
      let msg := { msg with body := access.apply msg.body }
      (v.put index (some msg), [.body index access (some msg)])
  | .swap index other =>
    some ({ v with messages := v.messages ∘ Equiv.swap index other }, [.swapped index other])
  | .drop index => (v.messages index).map fun _ => (v.put index none, [.dropped index])
  | .send index failed =>
    (v.messages index).map fun msg =>
      if failed then (v, [.sent index failed])
      else ({ v.put index none with library := msg ::ₘ v.library }, [.sent index failed])
  | .free msg =>
    if msg ∈ v.library then some ({ v with library := v.library.erase msg }, []) else none

/-- A program with values, with nothing at first. -/
def valueMachine (α : Type) [DecidableEq α] :
    EventMachine (Values α) (ValueAction α) (ValueEvent α) where
  start := ⟨fun _ => none, 0⟩
  step := Values.step

end Values

/-! ## A program with pointers, read -/

section Reading

variable {α : Type}

/-- What a message reads as: its header through one pointer, its body through the other. -/
def Program.read (s : Program α) (index : Nat) : Option (HeapMsg α) :=
  match s.messages index with
  | none => none
  | some message =>
    match s.heap message.header.msgp, s.heap message.msgp with
    | some headed, some msg => some ⟨headed.header, msg.body⟩
    | _, _ => none

/-- Shows what a program reads, and refuses to swap headers. -/
def reader (α : Type) : Watcher (Program α) (HeaderAction α) HeaderCall Unit Empty (ValueEvent α) where
  start := ()
  react _ t :=
    match t.act with
    | .new into _ _ => some ((), [.made into (t.post.read into)])
    | .clone source into _ => some ((), [.cloned source into (t.post.read into)])
    | .arrive _ _ | .free _ => some ((), [])
    | .receive into _ => some ((), [.received into (t.post.read into)])
    | .header index access => some ((), [.header index access (t.post.read index)])
    | .body index access => some ((), [.body index access (t.post.read index)])
    | .swap index other => some ((), [.swapped index other])
    | .swapHeaders _ _ | .replaceHeader _ _ => none
    | .drop index => some ((), [.dropped index])
    | .send index failed => some ((), [.sent index failed])
  own _ _ b := nomatch b

/-- A safe program that swaps no headers, and what it reads. -/
abbrev readProgram (α : Type) := (program α).watched (reader α)

namespace Program

variable {s : Program α} {index into address : Nat} {message : Message Nat} {msg : HeapMsg α}

/-- Where a variable points. -/
def pointer (s : Program α) (index : Nat) : Option Nat := (s.messages index).map Message.msgp

/-- **The values of a program.** -/
def values (s : Program α) : Values α := ⟨view s.pointer s.heap, contents s.library s.heap⟩

theorem pointer_of (found : s.messages index = some message) : s.pointer index = some message.msgp := by
  rw [pointer, found]
  rfl

theorem Owned.pointers_apart (owned : s.Owned) : Apart s.pointer := by
  intro i j a first second
  obtain ⟨message, found, rfl⟩ := Option.map_eq_some_iff.mp first
  obtain ⟨message', found', same⟩ := Option.map_eq_some_iff.mp second
  exact owned.unique i j message message' found found' same.symm

theorem values_messages (found : s.messages index = some message)
    (there : s.heap message.msgp = some msg) : s.values.messages index = some msg := by
  show (s.pointer index).bind s.heap = some msg
  rw [pointer_of found, Option.bind_some, there]

theorem values_none (empty : s.messages index = none) : s.values.messages index = none := by
  show (s.pointer index).bind s.heap = none
  rw [pointer, empty]
  rfl

/-- Where the headers point to their own messages, a message reads as its value. -/
theorem read_eq (points : s.Points) (index : Nat) : s.read index = s.values.messages index := by
  unfold read
  cases found : s.messages index with
  | none => exact (values_none found).symm
  | some message =>
    dsimp only
    rw [points index message found]
    cases there : s.heap message.msgp with
    | none =>
      show none = (s.pointer index).bind s.heap
      rw [pointer_of found, Option.bind_some, there]
    | some msg => exact (values_messages found there).symm

/-- A method of one message, or its end. -/
theorem values_store (owned : s.Owned) (found : s.messages index = some message)
    (msg : Option (HeapMsg α)) :
    (s.store message.msgp msg).values = s.values.put index msg := by
  refine congrArg₂ Values.mk ?_ ?_
  · exact view_store owned.pointers_apart (pointer_of found) msg
  · exact contents_elsewhere (owned.apart index message found) msg

/-- A message made where nothing was. -/
theorem values_fresh (owned : s.Owned) (nothing : s.heap address = none) (msg : HeapMsg α) :
    (s.store address (some msg)).values = s.values := by
  obtain ⟨unowned, unheld⟩ := owned.fresh nothing
  refine congrArg₂ Values.mk (view_elsewhere (fun i points => ?_) _) (contents_elsewhere unheld _)
  obtain ⟨message, found, same⟩ := Option.map_eq_some_iff.mp points
  exact unowned i message found same

theorem pointer_put (s : Program α) (into : Nat) (value : Option (Message Nat)) :
    (s.put into value).pointer = Function.update s.pointer into (value.map Message.msgp) := by
  funext i
  rw [pointer, put_messages, Function.update_apply]
  by_cases same : i = into
  · rw [if_pos same, if_pos same]
  · rw [if_neg same, if_neg same]
    rfl

/-- Another message in a variable. -/
theorem values_put (s : Program α) (into : Nat) (value : Option (Message Nat)) :
    (s.put into value).values = s.values.put into ((value.map Message.msgp).bind s.heap) := by
  refine congrArg₂ Values.mk ?_ rfl
  rw [pointer_put]
  exact view_point _

/-- A new message. -/
theorem values_alloc (owned : s.Owned) (nothing : s.heap address = none) (msg : HeapMsg α)
    (into : Nat) :
    ((s.store address (some msg)).put into (some (.fromPtr address))).values =
      s.values.put into (some msg) := by
  rw [values_put, values_fresh owned nothing, Option.map_some, Option.bind_some, store_heap]
  exact congrArg _ (if_pos rfl)

theorem values_held (owned : s.Owned) (held : address ∈ s.library) :
    ∃ msg, s.heap address = some msg ∧
      s.values.library = msg ::ₘ contents (s.library.erase address) s.heap := by
  obtain ⟨msg, there⟩ := Option.ne_none_iff_exists'.mp (owned.held address held)
  exact ⟨msg, there, contents_erase held there⟩

theorem Owned.value (owned : s.Owned) (found : s.messages index = some message) :
    ∃ msg, s.heap message.msgp = some msg ∧ s.values.messages index = some msg := by
  obtain ⟨msg, there⟩ := Option.ne_none_iff_exists'.mp (owned.live index message found)
  exact ⟨msg, there, values_messages found there⟩

/-- A program with pointers and its values. -/
def Holds (s : Program α × Unit) (v : Values α) : Prop :=
  s.1.Owned ∧ s.1.Points ∧ v = s.1.values

/-- A step that swaps no headers keeps what the values rest on. -/
theorem kept_of_step {s' : Program α} {action : HeaderAction α} {out : List HeaderCall}
    (owned : s.Owned) (points : s.Points) (stepped : s.step action = some (s', out))
    (swaps : SwapsNoHeaders action) : s'.Owned ∧ s'.Points := by
  have moved := step_cases stepped
  exact ⟨moved.owned owned, ((moved.points_iff owned points).mpr swaps).1⟩

/-! For each action: the values take the same step, and what the program reads is what they show. -/

variable [DecidableEq α]

section Actions

variable {s' : Program α} {out : List HeaderCall}

theorem values_new {body : List α} (owned : s.Owned) (points : s.Points)
    (stepped : s.step (.new into address body) = some (s', out)) :
    s.values.step (.new into body) = some (s'.values, [.made into (s'.read into)]) := by
  rw [read_eq (kept_of_step owned points stepped trivial).2]
  rw [step] at stepped
  split at stepped
  next empty nothing =>
    cases stepped
    rw [values_alloc owned nothing, Values.step, values_none empty]
    simp only [Values.put, Function.update_self]
  next => cases stepped

theorem values_clone {source : Nat} (owned : s.Owned) (points : s.Points)
    (stepped : s.step (.clone source into address) = some (s', out)) :
    s.values.step (.clone source into) = some (s'.values, [.cloned source into (s'.read into)]) := by
  rw [read_eq (kept_of_step owned points stepped trivial).2]
  rw [step] at stepped
  split at stepped
  next message given empty nothing =>
    obtain ⟨msg, there, same⟩ := Option.map_eq_some_iff.mp stepped
    cases same
    rw [values_alloc owned nothing, Values.step, values_messages given there, values_none empty]
    simp only [Values.put, Function.update_self]
  next => cases stepped

theorem values_arrive (owned : s.Owned) (stepped : s.step (.arrive address msg) = some (s', out)) :
    s.values.step (.arrive msg) = some (s'.values, []) := by
  rw [step] at stepped
  split at stepped
  next nothing =>
    cases stepped
    have live : (s.store address (some msg)).heap address = some msg := by
      rw [store_heap, if_pos rfl]
    have fresh := values_fresh owned nothing msg
    have library : contents (address :: s.library) (s.store address (some msg)).heap =
        msg ::ₘ s.values.library :=
      (contents_cons live).trans (congrArg (msg ::ₘ ·) (congrArg Values.library fresh))
    refine congrArg (fun v => some (v, [])) ?_
    exact congrArg₂ Values.mk (congrArg Values.messages fresh).symm library.symm
  next => cases stepped

theorem values_receive (owned : s.Owned) (points : s.Points)
    (stepped : s.step (.receive into address) = some (s', out)) :
    ∃ msg, s.values.step (.receive into msg) =
      some (s'.values, [.received into (s'.read into)]) := by
  rw [read_eq (kept_of_step owned points stepped trivial).2]
  rw [step] at stepped
  split at stepped
  next empty =>
    obtain ⟨held, same⟩ := Option.ite_none_right_eq_some.mp stepped
    obtain ⟨msg, there, library⟩ := values_held owned held
    cases same
    have member : msg ∈ s.values.library := by
      rw [library]
      exact Multiset.mem_cons_self _ _
    have rest : s.values.library.erase msg = contents (s.library.erase address) s.heap := by
      rw [library, Multiset.erase_cons_head]
    have put : (s.put into (some (.fromPtr address))).values = s.values.put into (some msg) := by
      rw [values_put, Option.map_some, Option.bind_some]
      exact congrArg _ there
    have after : values { s.put into (some (.fromPtr address)) with
        library := s.library.erase address } =
        { s.values.put into (some msg) with library := s.values.library.erase msg } :=
      congrArg₂ Values.mk (congrArg Values.messages put) rest.symm
    refine ⟨msg, ?_⟩
    rw [after, Values.step, values_none empty]
    simp only [Values.put, Function.update_self, if_pos member]
  next => cases stepped

theorem values_header {access : Access α} (owned : s.Owned) (points : s.Points)
    (stepped : s.step (.header index access) = some (s', out)) :
    s.values.step (.header index access) =
      some (s'.values, [.header index access (s'.read index)]) := by
  rw [read_eq (kept_of_step owned points stepped trivial).2]
  obtain ⟨message, found, same⟩ := Option.map_eq_some_iff.mp stepped
  obtain ⟨msg, there, value⟩ := owned.value found
  rw [points index message found, there] at same
  cases same
  rw [values_store owned found, Values.step, value]
  simp only [Values.put, Function.update_self, Option.map_some]

theorem values_body {access : Access α} (owned : s.Owned) (points : s.Points)
    (stepped : s.step (.body index access) = some (s', out)) :
    s.values.step (.body index access) =
      some (s'.values, [.body index access (s'.read index)]) := by
  rw [read_eq (kept_of_step owned points stepped trivial).2]
  rw [step] at stepped
  split at stepped
  next message found =>
    obtain ⟨msg, there, value⟩ := owned.value found
    rw [there] at stepped
    cases stepped
    rw [values_store owned found, Values.step, value]
    simp only [Values.put, Function.update_self, Option.map_some]
  next => cases stepped

theorem values_drop (owned : s.Owned) (stepped : s.step (.drop index) = some (s', out)) :
    s.values.step (.drop index) = some (s'.values, [.dropped index]) := by
  obtain ⟨message, found, same⟩ := Option.map_eq_some_iff.mp stepped
  obtain ⟨msg, -, value⟩ := owned.value found
  cases same
  rw [values_put, values_store owned found, Values.step, value]
  simp only [Values.put, Function.update_idem, Option.map_some, Option.map_none, Option.bind_none]

theorem values_send {failed : Bool} (owned : s.Owned)
    (stepped : s.step (.send index failed) = some (s', out)) :
    s.values.step (.send index failed) = some (s'.values, [.sent index failed]) := by
  obtain ⟨message, found, same⟩ := Option.map_eq_some_iff.mp stepped
  obtain ⟨msg, there, value⟩ := owned.value found
  cases failed with
  | true =>
    cases same
    have back : (s.put index (some (.fromPtr message.intoPtr))).values = s.values := by
      rw [values_put, Option.map_some, Option.bind_some,
        show s.heap (Message.fromPtr message.intoPtr).msgp = s.values.messages index from
          there.trans value.symm, Values.put, Function.update_eq_self]
    rw [back, Values.step, value]
    rfl
  | false =>
    cases same
    have library : contents (message.msgp :: s.library) s.heap = msg ::ₘ s.values.library :=
      contents_cons there
    have after : values { s.put index none with library := message.intoPtr :: s.library } =
        { s.values.put index none with library := msg ::ₘ s.values.library } :=
      congrArg₂ Values.mk (congrArg Values.messages (values_put s index none)) library
    rw [after, Values.step, value]
    rfl

theorem values_free (owned : s.Owned)
    (stepped : s.step (.free address) = some (s', out)) :
    ∃ msg, s.values.step (.free msg) = some (s'.values, []) := by
  obtain ⟨held, same⟩ := Option.ite_none_right_eq_some.mp stepped
  obtain ⟨msg, there, library⟩ := values_held owned held
  cases same
  have member : msg ∈ s.values.library := by
    rw [library]
    exact Multiset.mem_cons_self _ _
  have unowned : ∀ i, s.pointer i ≠ some address := by
    intro i points
    obtain ⟨message, found, same⟩ := Option.map_eq_some_iff.mp points
    exact owned.apart i message found (same ▸ held)
  have after : values { s.store address none with library := s.library.erase address } =
      { s.values with library := s.values.library.erase msg } := by
    refine congrArg₂ Values.mk (view_elsewhere unowned none) ?_
    rw [library, Multiset.erase_cons_head]
    exact contents_elsewhere owned.nodup.not_mem_erase none
  exact ⟨msg, by rw [after, Values.step, if_pos member]⟩

end Actions

theorem answer {s s' : Program α} {action : HeaderAction α} {out : List HeaderCall}
    {b : ValueAction α} {shown : List (ValueEvent α)} (owned : s.Owned)
    (points : s.Points) (stepped : s.step action = some (s', out)) (swaps : SwapsNoHeaders action)
    (answered : s.values.step b = some (s'.values, shown)) :
    (valueMachine α).Answers Holds s.values shown (s', ()) := by
  obtain ⟨owned', points'⟩ := kept_of_step owned points stepped swaps
  exact .step answered ⟨owned', points', rfl⟩

/-- **Values simulate a program that swaps no headers.** -/
theorem values_simulate : Simulation (readProgram α) (valueMachine α) Holds where
  start := ⟨owned_start, points_start, rfl⟩
  answered := by
    rintro ⟨s, _⟩ _ (action | none) ⟨s', _⟩ shown ⟨owned, points, rfl⟩ watched
    · obtain ⟨out, stepped, reacted⟩ := watched_inl watched
      have stepped : s.step action = some (s', out) := stepped
      cases action with
      | new into address body =>
        cases reacted
        exact answer owned points stepped trivial (values_new owned points stepped)
      | clone source into address =>
        cases reacted
        exact answer owned points stepped trivial (values_clone owned points stepped)
      | arrive address msg =>
        cases reacted
        exact answer owned points stepped trivial (values_arrive owned stepped)
      | receive into address =>
        cases reacted
        obtain ⟨msg, answered⟩ := values_receive owned points stepped
        exact answer owned points stepped trivial answered
      | header index access =>
        cases reacted
        exact answer owned points stepped trivial (values_header owned points stepped)
      | body index access =>
        cases reacted
        exact answer owned points stepped trivial (values_body owned points stepped)
      | swap index other =>
        cases reacted
        refine answer (b := .swap index other) owned points stepped trivial ?_
        cases stepped
        rfl
      | swapHeaders | replaceHeader => cases reacted
      | drop index =>
        cases reacted
        exact answer owned points stepped trivial (values_drop owned stepped)
      | send index failed =>
        cases reacted
        exact answer owned points stepped trivial (values_send owned stepped)
      | free address =>
        cases reacted
        obtain ⟨msg, answered⟩ := values_free owned stepped
        exact answer owned points stepped trivial answered
    · cases none

end Program

/-- **Messages are values.** Whatever a program that swaps no headers reads, in any run and wherever
the library allocates, a program with values can read. -/
theorem messages_read_as_values [DecidableEq α] {shown : List (ValueEvent α)}
    (read : (readProgram α).Shows shown) : (valueMachine α).Shows shown :=
  Program.values_simulate.shows read

end Reading

/-- A message and its copy are written to, the first is dropped, and a third has its address; the copy
is sent and received. -/
def reusedAddress : List (HeaderAction Nat) :=
  [.new 0 7 [1], .clone 0 1 8, .header 1 (.pushBack [5] true), .body 0 (.trim 1), .drop 0,
    .new 2 7 [4, 4], .send 1 false, .receive 0 8, .header 0 (.pushFront [6] true)]

/-- What is read. -/
def reusedAddressRead : List (ValueEvent Nat) :=
  [.made 0 (some ⟨[], [1]⟩), .cloned 0 1 (some ⟨[], [1]⟩),
    .header 1 (.pushBack [5] true) (some ⟨[5], [1]⟩), .body 0 (.trim 1) (some ⟨[], []⟩),
    .dropped 0, .made 2 (some ⟨[], [4, 4]⟩), .sent 1 false, .received 0 (some ⟨[5], [1]⟩),
    .header 0 (.pushFront [6] true) (some ⟨[6, 5], [1]⟩)]

theorem messages_read_as_values_reused :
    (readProgram Nat).Shows reusedAddressRead ∧ (valueMachine Nat).Shows reusedAddressRead := by
  have computed : ((readProgram Nat).replay (readProgram Nat).start (reusedAddress.map Sum.inl)).map
      (fun ran => events ran.1) = some reusedAddressRead := by decide
  obtain ⟨⟨trace, s⟩, found, shown⟩ := Option.map_eq_some_iff.mp computed
  have read : (readProgram Nat).Shows reusedAddressRead := ⟨trace, s, run_of_replay _ found, shown⟩
  exact ⟨read, messages_read_as_values read⟩

end NngRs.Nng
