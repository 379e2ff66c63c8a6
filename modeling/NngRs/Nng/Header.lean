/-
**The `Header` inside a `Message`, and where its pointer points.**

A `Message` owns one of the library's messages. Its `Header` has the same pointer a second time, so that
the header can be lent out on its own. A safe program keeps messages in variables, calls their methods
and those of their headers, moves them, swaps two of them, drops and sends them, and may apply
`mem::swap` or `mem::replace` to a `&mut Header`. Pointers are addresses, which the library uses again
after a free.

* `Owned` — the invariant: every message has its own live pointer, whatever its header has. A program
  never has a `Header` of its own, so `mem::replace` is never called on one.
* `HeaderStep.owned` — kept by every step.
* `header_points_iff` — over every run: every header points to its own message, and every call of a
  header method reaches that one, exactly when no two headers are swapped.
-/

import NngRs.Nng.Aio
import NngRs.Machine.Run
import Mathlib.Logic.Function.Basic
import Mathlib.Logic.Equiv.Basic

namespace NngRs.Nng

open EventMachine

/-- The library's message. -/
structure HeapMsg (α : Type) where
  header : List α
  body : List α
deriving DecidableEq, Repr

/-- A call of a method of `Header` or of `Message` on its bytes. `granted` is whether the library has
the memory; if not, the method panics. -/
inductive Access (α : Type)
  | truncate (len : Nat)
  | trim (len : Nat)
  | asSlice
  /-- `as_mut_slice`, and then storing other bytes. -/
  | asMutSlice (bytes : List α)
  | len
  | clear
  | pushBack (data : List α) (granted : Bool)
  | pushFront (data : List α) (granted : Bool)
deriving DecidableEq, Repr

/-- The bytes after a call. -/
def Access.apply {α : Type} (bytes : List α) : Access α → List α
  | .truncate count => bytes.take (bytes.length - (bytes.length - count))
  | .trim count => bytes.drop (min count bytes.length)
  | .asSlice | .len => bytes
  | .asMutSlice stored => if stored.length = bytes.length then stored else bytes
  | .clear => []
  | .pushBack data granted => if granted then bytes ++ data else bytes
  | .pushFront data granted => if granted then data ++ bytes else bytes

/-- A safe program: its variables, and what it shares with the library. -/
structure Program (α : Type) where
  /-- The variables that hold a message. -/
  messages : Nat → Option (Message Nat)
  /-- The variables that hold a header without a message. -/
  headers : Nat → Option (Header Nat)
  /-- The library's messages that are not freed. -/
  heap : Nat → Option (HeapMsg α)
  /-- The messages that the library holds itself. -/
  library : List Nat

inductive HeaderAction (α : Type)
  /-- Any constructor; the library allocates at the address. -/
  | new (into address : Nat) (body : List α)
  | clone (source into address : Nat)
  /-- A message arrives at the library. -/
  | arrive (address : Nat) (msg : HeapMsg α)
  | receive (into address : Nat)
  /-- A method of the header, through `as_header` or `as_mut_header`. -/
  | header (index : Nat) (access : Access α)
  | body (index : Nat) (access : Access α)
  /-- A move to another variable, or `mem::swap` of two messages. -/
  | swap (index other : Nat)
  /-- `mem::swap` of the headers of two messages. -/
  | swapHeaders (index other : Nat)
  /-- `mem::replace` of a header by another, into the variable of that one. -/
  | replaceHeader (index other : Nat)
  | drop (index : Nat)
  /-- `into_ptr`, and a call that takes the pointer or returns an error; then `from_ptr`. -/
  | send (index : Nat) (failed : Bool)
  /-- The library frees a message that it holds. -/
  | free (address : Nat)
deriving DecidableEq, Repr

/-- A call of a header method: the pointer of the message, the one that was used, and whether there was
a message at it. -/
structure HeaderCall where
  own : Nat
  used : Nat
  live : Bool
deriving DecidableEq, Repr

/-- The call read or changed the header of its own message. -/
def HeaderCall.Right (call : HeaderCall) : Prop := call.used = call.own ∧ call.live = true

namespace Program

variable {α : Type}

/-- The program with another value in a variable. -/
def put (s : Program α) (index : Nat) (message : Option (Message Nat)) : Program α :=
  { s with messages := Function.update s.messages index message }

/-- The program with another message at an address. -/
def store (s : Program α) (address : Nat) (msg : Option (HeapMsg α)) : Program α :=
  { s with heap := Function.update s.heap address msg }

/-- A step; `none` where a variable is not as the call needs it, or the address is taken. -/
def step (s : Program α) : HeaderAction α → Option (Program α × List HeaderCall)
  | .new into address body =>
    match s.messages into, s.heap address with
    | none, none => some ((s.store address (some ⟨[], body⟩)).put into (some (.fromPtr address)), [])
    | _, _ => none
  | .clone source into address =>
    match s.messages source, s.messages into, s.heap address with
    | some message, none, none =>
      (s.heap message.msgp).map fun msg =>
        ((s.store address (some msg)).put into (some (.fromPtr address)), [])
    | _, _, _ => none
  | .arrive address msg =>
    match s.heap address with
    | none => some ({ s.store address (some msg) with library := address :: s.library }, [])
    | some _ => none
  | .receive into address =>
    match s.messages into with
    | none =>
      if address ∈ s.library then
        some ({ s.put into (some (.fromPtr address)) with library := s.library.erase address }, [])
      else none
    | some _ => none
  | .header index access =>
    (s.messages index).map fun message =>
      match s.heap message.header.msgp with
      | some msg =>
        (s.store message.header.msgp (some { msg with header := access.apply msg.header }),
          [⟨message.msgp, message.header.msgp, true⟩])
      -- undefined behaviour
      | none => (s, [⟨message.msgp, message.header.msgp, false⟩])
  | .body index access =>
    match s.messages index with
    | some message =>
      (s.heap message.msgp).map fun msg =>
        (s.store message.msgp (some { msg with body := access.apply msg.body }), [])
    | none => none
  | .swap index other =>
    some ({ s with messages := s.messages ∘ Equiv.swap index other }, [])
  | .swapHeaders index other =>
    match s.messages index, s.messages other with
    -- the two are borrowed at once
    | some message, some message' =>
      if index = other then none
      else
        some ((s.put index (some { message with header := message'.header })).put other
          (some { message' with header := message.header }), [])
    | _, _ => none
  | .replaceHeader index other =>
    match s.messages index, s.headers other with
    | some message, some header =>
      some ({ s.put index (some { message with header }) with
        headers := Function.update s.headers other (some message.header) }, [])
    | _, _ => none
  | .drop index =>
    (s.messages index).map fun message => ((s.store message.msgp none).put index none, [])
  | .send index failed =>
    (s.messages index).map fun message =>
      if failed then (s.put index (some (.fromPtr message.intoPtr)), [])
      else ({ s.put index none with library := message.intoPtr :: s.library }, [])
  | .free address =>
    if address ∈ s.library then
      some ({ s.store address none with library := s.library.erase address }, [])
    else none

end Program

/-- A safe program, with nothing at first. -/
def program (α : Type) : EventMachine (Program α) (HeaderAction α) HeaderCall where
  start := ⟨fun _ => none, fun _ => none, fun _ => none, []⟩
  step := Program.step

namespace Program

variable {α : Type} {s s' : Program α}

/-- Every header points to its own message. -/
def Points (s : Program α) : Prop :=
  ∀ index message, s.messages index = some message → message.header.msgp = message.msgp

/-- **The invariant**: what has a pointer of its own, and that it is live. -/
structure Owned (s : Program α) : Prop where
  unique : ∀ index index' message message', s.messages index = some message →
    s.messages index' = some message' → message.msgp = message'.msgp → index = index'
  live : ∀ index message, s.messages index = some message → s.heap message.msgp ≠ none
  apart : ∀ index message, s.messages index = some message → message.msgp ∉ s.library
  held : ∀ address ∈ s.library, s.heap address ≠ none
  nodup : s.library.Nodup
  bare : ∀ index, s.headers index = none

/-- **What a step can be.** -/
inductive HeaderStep (s : Program α) : HeaderAction α → Program α → List HeaderCall → Prop
  | new (into address : Nat) (body : List α) : s.messages into = none → s.heap address = none →
      HeaderStep s (.new into address body)
        ((s.store address (some ⟨[], body⟩)).put into (some (.fromPtr address))) []
  | clone (source into address : Nat) (msg : HeapMsg α) : s.messages into = none →
      s.heap address = none →
      HeaderStep s (.clone source into address)
        ((s.store address (some msg)).put into (some (.fromPtr address))) []
  | arrive (address : Nat) (msg : HeapMsg α) : s.heap address = none →
      HeaderStep s (.arrive address msg)
        { s.store address (some msg) with library := address :: s.library } []
  | receive (into address : Nat) : s.messages into = none → address ∈ s.library →
      HeaderStep s (.receive into address)
        { s.put into (some (.fromPtr address)) with library := s.library.erase address } []
  | header (index : Nat) (access : Access α) (message : Message Nat) (msg msg' : HeapMsg α) :
      s.messages index = some message → s.heap message.header.msgp = some msg →
      HeaderStep s (.header index access) (s.store message.header.msgp (some msg'))
        [⟨message.msgp, message.header.msgp, true⟩]
  | freedHeader (index : Nat) (access : Access α) (message : Message Nat) :
      s.messages index = some message → s.heap message.header.msgp = none →
      HeaderStep s (.header index access) s [⟨message.msgp, message.header.msgp, false⟩]
  | body (index : Nat) (access : Access α) (message : Message Nat) (msg' : HeapMsg α) :
      HeaderStep s (.body index access) (s.store message.msgp (some msg')) []
  | swap (index other : Nat) :
      HeaderStep s (.swap index other) { s with messages := s.messages ∘ Equiv.swap index other } []
  | swapHeaders (index other : Nat) (message message' : Message Nat) :
      s.messages index = some message → s.messages other = some message' → index ≠ other →
      HeaderStep s (.swapHeaders index other)
        ((s.put index (some { message with header := message'.header })).put other
          (some { message' with header := message.header })) []
  | replaceHeader (index other : Nat) (message : Message Nat) (header : Header Nat)
      (s' : Program α) : s.headers other = some header →
      HeaderStep s (.replaceHeader index other) s' []
  | drop (index : Nat) (message : Message Nat) : s.messages index = some message →
      HeaderStep s (.drop index) ((s.store message.msgp none).put index none) []
  | sendFailed (index : Nat) (message : Message Nat) : s.messages index = some message →
      HeaderStep s (.send index true) (s.put index (some (.fromPtr message.msgp))) []
  | sent (index : Nat) (message : Message Nat) : s.messages index = some message →
      HeaderStep s (.send index false)
        { s.put index none with library := message.msgp :: s.library } []
  | free (address : Nat) : address ∈ s.library →
      HeaderStep s (.free address)
        { s.store address none with library := s.library.erase address } []

variable {action : HeaderAction α} {out : List HeaderCall}

theorem step_cases (stepped : s.step action = some (s', out)) : HeaderStep s action s' out := by
  cases action with
  | new into address body =>
    rw [step] at stepped
    split at stepped
    next empty fresh =>
      cases stepped
      exact .new into address body empty fresh
    next => cases stepped
  | clone source into address =>
    rw [step] at stepped
    split at stepped
    next message given empty fresh =>
      obtain ⟨msg, -, same⟩ := Option.map_eq_some_iff.mp stepped
      cases same
      exact .clone source into address msg empty fresh
    next => cases stepped
  | arrive address msg =>
    rw [step] at stepped
    split at stepped
    next fresh =>
      cases stepped
      exact .arrive address msg fresh
    next => cases stepped
  | receive into address =>
    rw [step] at stepped
    split at stepped
    next empty =>
      obtain ⟨held, same⟩ := Option.ite_none_right_eq_some.mp stepped
      cases same
      exact .receive into address empty held
    next => cases stepped
  | header index access =>
    obtain ⟨message, found, same⟩ := Option.map_eq_some_iff.mp stepped
    cases there : s.heap message.header.msgp with
    | some msg =>
      rw [there] at same
      cases same
      exact .header index access message msg _ found there
    | none =>
      rw [there] at same
      cases same
      exact .freedHeader index access message found there
  | body index access =>
    rw [step] at stepped
    split at stepped
    next message found =>
      obtain ⟨msg, -, same⟩ := Option.map_eq_some_iff.mp stepped
      cases same
      exact .body index access message _
    next => cases stepped
  | swap index other =>
    cases stepped
    exact .swap index other
  | swapHeaders index other =>
    rw [step] at stepped
    split at stepped
    next message message' found found' =>
      obtain ⟨different, same⟩ := Option.ite_none_left_eq_some.mp stepped
      cases same
      exact .swapHeaders index other message message' found found' different
    next => cases stepped
  | replaceHeader index other =>
    rw [step] at stepped
    split at stepped
    next message header found owned =>
      cases stepped
      exact .replaceHeader index other message header _ owned
    next => cases stepped
  | drop index =>
    obtain ⟨message, found, same⟩ := Option.map_eq_some_iff.mp stepped
    cases same
    exact .drop index message found
  | send index failed =>
    obtain ⟨message, found, same⟩ := Option.map_eq_some_iff.mp stepped
    cases failed with
    | true =>
      cases same
      exact .sendFailed index message found
    | false =>
      cases same
      exact .sent index message found
  | free address =>
    obtain ⟨held, same⟩ := Option.ite_none_right_eq_some.mp stepped
    cases same
    exact .free address held

/-! ### Every step keeps the invariant -/

theorem put_messages (into : Nat) (value : Option (Message Nat)) (index : Nat) :
    (s.put into value).messages index = if index = into then value else s.messages index :=
  Function.update_apply ..

theorem store_heap (address : Nat) (msg : Option (HeapMsg α)) (address' : Nat) :
    (s.store address msg).heap address' = if address' = address then msg else s.heap address' :=
  Function.update_apply ..

theorem put_get {into index : Nat} {value : Option (Message Nat)} {message : Message Nat}
    (found : (s.put into value).messages index = some message) :
    index = into ∧ value = some message ∨ index ≠ into ∧ s.messages index = some message := by
  rw [put_messages] at found
  by_cases same : index = into
  · rw [if_pos same] at found
    exact Or.inl ⟨same, found⟩
  · rw [if_neg same] at found
    exact Or.inr ⟨same, found⟩

theorem store_live {address address' : Nat} {msg : HeapMsg α} (live : s.heap address' ≠ none) :
    (s.store address (some msg)).heap address' ≠ none := by
  rw [store_heap]
  by_cases same : address' = address
  · rw [if_pos same]
    rintro ⟨⟩
  · rw [if_neg same]
    exact live

theorem stored_live {address : Nat} {msg : HeapMsg α} :
    (s.store address (some msg)).heap address ≠ none := by
  rw [store_heap, if_pos rfl]
  rintro ⟨⟩

/-- No message has an address where nothing is. -/
theorem Owned.fresh (owned : s.Owned) {address : Nat} (nothing : s.heap address = none) :
    (∀ index message, s.messages index = some message → message.msgp ≠ address)
      ∧ address ∉ s.library := by
  refine ⟨fun index message found same => ?_, fun member => owned.held address member nothing⟩
  exact owned.live index message found (same ▸ nothing)

/-- Storing a message keeps what is owned. -/
theorem Owned.store (owned : s.Owned) (address : Nat) (msg : HeapMsg α) :
    (s.store address (some msg)).Owned where
  unique := owned.unique
  live index message found := store_live (owned.live index message found)
  apart := owned.apart
  held address' member := store_live (owned.held address' member)
  nodup := owned.nodup
  bare := owned.bare

/-- Freeing what nothing owns keeps what is owned. -/
theorem Owned.free (owned : s.Owned) {address : Nat}
    (unowned : ∀ index message, s.messages index = some message → message.msgp ≠ address)
    (unheld : address ∉ s.library) : (s.store address none).Owned where
  unique := owned.unique
  live index message found := by
    rw [store_heap, if_neg (unowned index message found)]
    exact owned.live index message found
  apart := owned.apart
  held address' member := by
    have different : address' ≠ address := fun same => unheld (same ▸ member)
    rw [store_heap, if_neg different]
    exact owned.held address' member
  nodup := owned.nodup
  bare := owned.bare

/-- A variable without its message. -/
theorem Owned.take (owned : s.Owned) (index : Nat) : (s.put index none).Owned where
  unique i j message message' found found' same := by
    obtain ⟨-, none'⟩ | ⟨-, found⟩ := put_get found
    · cases none'
    · obtain ⟨-, none'⟩ | ⟨-, found'⟩ := put_get found'
      · cases none'
      · exact owned.unique i j message message' found found' same
  live i message found := by
    obtain ⟨-, none'⟩ | ⟨-, found⟩ := put_get found
    · cases none'
    · exact owned.live i message found
  apart i message found := by
    obtain ⟨-, none'⟩ | ⟨-, found⟩ := put_get found
    · cases none'
    · exact owned.apart i message found
  held := owned.held
  nodup := owned.nodup
  bare := owned.bare

/-- After a message was taken out of its variable, nothing has its address. -/
theorem Owned.taken (owned : s.Owned) {index : Nat} {message : Message Nat}
    (found : s.messages index = some message) : ∀ i other,
    (s.put index none).messages i = some other → other.msgp ≠ message.msgp := by
  intro i other there same
  obtain ⟨-, none'⟩ | ⟨different, there⟩ := put_get there
  · cases none'
  · exact different (owned.unique i index other message there found same)

/-- A message in a variable, with an address that nothing has. -/
theorem Owned.give (owned : s.Owned) (into : Nat) {address : Nat}
    (unowned : ∀ index message, s.messages index = some message → message.msgp ≠ address)
    (live : s.heap address ≠ none) (unheld : address ∉ s.library) :
    (s.put into (some (.fromPtr address))).Owned where
  unique i j message message' found found' same := by
    obtain ⟨first, given⟩ | ⟨-, there⟩ := put_get found
    · cases given
      obtain ⟨second, -⟩ | ⟨-, there'⟩ := put_get found'
      · exact first.trans second.symm
      · exact absurd same.symm (unowned j message' there')
    · obtain ⟨-, given⟩ | ⟨-, there'⟩ := put_get found'
      · cases given
        exact absurd same (unowned i message there)
      · exact owned.unique i j message message' there there' same
  live i message found := by
    obtain ⟨-, given⟩ | ⟨-, there⟩ := put_get found
    · cases given
      exact live
    · exact owned.live i message there
  apart i message found := by
    obtain ⟨-, given⟩ | ⟨-, there⟩ := put_get found
    · cases given
      exact unheld
    · exact owned.apart i message there
  held := owned.held
  nodup := owned.nodup
  bare := owned.bare

/-- The library holds one message more. -/
theorem Owned.hold (owned : s.Owned) {address : Nat}
    (unowned : ∀ index message, s.messages index = some message → message.msgp ≠ address)
    (live : s.heap address ≠ none) (unheld : address ∉ s.library) :
    Owned { s with library := address :: s.library } where
  unique := owned.unique
  live := owned.live
  apart index message found member := by
    obtain same | held := List.mem_cons.mp member
    · exact unowned index message found same
    · exact owned.apart index message found held
  held address' member := by
    obtain rfl | held := List.mem_cons.mp member
    · exact live
    · exact owned.held address' held
  nodup := List.nodup_cons.mpr ⟨unheld, owned.nodup⟩
  bare := owned.bare

/-- The library lets go of a message. -/
theorem Owned.release (owned : s.Owned) (address : Nat) :
    Owned { s with library := s.library.erase address } where
  unique := owned.unique
  live := owned.live
  apart index message found member := owned.apart index message found (List.mem_of_mem_erase member)
  held address' member := owned.held address' (List.mem_of_mem_erase member)
  nodup := owned.nodup.erase address
  bare := owned.bare

/-- The same pointers in the same variables, whatever their headers are. -/
theorem Owned.reheader (owned : s.Owned) {messages : Nat → Option (Message Nat)}
    (pointers : ∀ index, (messages index).map Message.msgp = (s.messages index).map Message.msgp) :
    Owned { s with messages } := by
  have before (index : Nat) (message : Message Nat) (found : messages index = some message) :
      ∃ message', s.messages index = some message' ∧ message'.msgp = message.msgp := by
    have same := pointers index
    rw [found, Option.map_some] at same
    exact Option.map_eq_some_iff.mp same.symm
  refine ⟨fun i j message message' found found' same => ?_, fun i message found => ?_,
    fun i message found => ?_, owned.held, owned.nodup, owned.bare⟩
  · obtain ⟨old, there, pointer⟩ := before i message found
    obtain ⟨old', there', pointer'⟩ := before j message' found'
    exact owned.unique i j old old' there there' (pointer.trans (same.trans pointer'.symm))
  · obtain ⟨old, there, pointer⟩ := before i message found
    rw [← pointer]
    exact owned.live i old there
  · obtain ⟨old, there, pointer⟩ := before i message found
    rw [← pointer]
    exact owned.apart i old there

/-- A message with the same pointer in the same variable. -/
theorem put_pointers {index : Nat} {message message' : Message Nat}
    (found : s.messages index = some message) (same : message'.msgp = message.msgp) (i : Nat) :
    ((s.put index (some message')).messages i).map Message.msgp =
      (s.messages i).map Message.msgp := by
  rw [put_messages]
  by_cases here : i = index
  · rw [if_pos here, here, found, Option.map_some, Option.map_some, same]
  · rw [if_neg here]

/-- The same messages in other variables. -/
theorem Owned.permute (owned : s.Owned) (index other : Nat) :
    Owned { s with messages := s.messages ∘ Equiv.swap index other } where
  unique _ _ message message' found found' same :=
    (Equiv.swap index other).injective (owned.unique _ _ message message' found found' same)
  live _ message found := owned.live _ message found
  apart _ message found := owned.apart _ message found
  held := owned.held
  nodup := owned.nodup
  bare := owned.bare

theorem owned_start : (program α).start.Owned where
  unique _ _ _ _ found := nomatch found
  live _ _ found := nomatch found
  apart _ _ found := nomatch found
  held _ member := absurd member List.not_mem_nil
  nodup := List.nodup_nil
  bare _ := rfl

theorem points_start : (program α).start.Points := fun _ _ found => nomatch found

/-- **Every step keeps the invariant.** -/
theorem HeaderStep.owned (moved : HeaderStep s action s' out) (owned : s.Owned) : s'.Owned := by
  cases moved with
  | new into address body empty nothing | clone source into address msg empty nothing =>
    obtain ⟨unowned, unheld⟩ := owned.fresh nothing
    exact (owned.store address _).give into unowned stored_live unheld
  | arrive address msg nothing =>
    obtain ⟨unowned, unheld⟩ := owned.fresh nothing
    exact (owned.store address msg).hold unowned stored_live unheld
  | receive into address empty held =>
    have unowned (index : Nat) (message : Message Nat) (found : s.messages index = some message)
        (same : message.msgp = address) : False := owned.apart index message found (same ▸ held)
    exact (owned.release address).give into unowned (owned.held address held)
      owned.nodup.not_mem_erase
  | header index access message msg msg' found there => exact owned.store _ msg'
  | freedHeader => exact owned
  | body index access message msg' => exact owned.store _ msg'
  | swap index other => exact owned.permute index other
  | swapHeaders index other message message' found found' different =>
    have there : (s.put index (some { message with header := message'.header })).messages other =
        some message' := by
      rw [put_messages, if_neg different.symm, found']
    have first : (s.put index (some { message with header := message'.header })).Owned :=
      owned.reheader (put_pointers found rfl)
    exact first.reheader (put_pointers there rfl)
  | replaceHeader index other message header s' held =>
    rw [owned.bare other] at held
    cases held
  | drop index message found =>
    exact (owned.take index).free (owned.taken found) (owned.apart index message found)
  | sendFailed index message found => exact owned.reheader (put_pointers found rfl)
  | sent index message found =>
    exact (owned.take index).hold (owned.taken found) (owned.live index message found)
      (owned.apart index message found)
  | free address held =>
    have unowned (index : Nat) (message : Message Nat) (found : s.messages index = some message)
        (same : message.msgp = address) : False := owned.apart index message found (same ▸ held)
    exact (owned.release address).free unowned owned.nodup.not_mem_erase

/-! ### Where the headers point -/

/-- No two headers are swapped. -/
def SwapsNoHeaders : HeaderAction α → Prop
  | .swapHeaders _ _ => False
  | _ => True

instance (action : HeaderAction α) : Decidable (SwapsNoHeaders action) := by
  unfold SwapsNoHeaders
  split <;> infer_instance

/-- A message whose header points to it, in a variable. -/
theorem Points.put (points : s.Points) (into address : Nat) :
    (s.put into (some (.fromPtr address))).Points := by
  intro index message found
  obtain ⟨-, given⟩ | ⟨-, found⟩ := put_get found
  · cases given
    rfl
  · exact points index message found

theorem Points.take (points : s.Points) (index : Nat) : (s.put index none).Points := by
  intro i message found
  obtain ⟨-, none'⟩ | ⟨-, found⟩ := put_get found
  · cases none'
  · exact points i message found

/-- **A step leaves every header pointing to its own message, and reaches that one, exactly when it
swaps no two headers.** -/
theorem HeaderStep.points_iff (moved : HeaderStep s action s' out) (owned : s.Owned)
    (points : s.Points) :
    (s'.Points ∧ ∀ call ∈ out, call.Right) ↔ SwapsNoHeaders action := by
  have silent : ∀ call ∈ ([] : List HeaderCall), call.Right := fun call member =>
    absurd member List.not_mem_nil
  cases moved with
  | new into address body => exact iff_of_true ⟨points.put into address, silent⟩ trivial
  | clone source into address => exact iff_of_true ⟨points.put into address, silent⟩ trivial
  | arrive | free => exact iff_of_true ⟨points, silent⟩ trivial
  | receive into address => exact iff_of_true ⟨points.put into address, silent⟩ trivial
  | header index access message msg msg' found there =>
    refine iff_of_true ⟨points, fun call member => ?_⟩ trivial
    cases List.mem_singleton.mp member
    exact ⟨points index message found, rfl⟩
  | freedHeader index access message found gone =>
    rw [points index message found] at gone
    exact absurd gone (owned.live index message found)
  | body => exact iff_of_true ⟨points, silent⟩ trivial
  | swap index other =>
    refine iff_of_true ⟨fun i message found => ?_, silent⟩ trivial
    exact points _ message found
  | swapHeaders index other message message' found found' different =>
    refine iff_of_false (fun both => ?_) id
    -- the second of the two now points to the first
    have crossed := both.1 other { message' with header := message.header } (Function.update_self ..)
    rw [points index message found] at crossed
    exact different (owned.unique index other message message' found found' crossed)
  | replaceHeader index other message header s' held =>
    rw [owned.bare other] at held
    cases held
  | drop index => exact iff_of_true ⟨points.take index, silent⟩ trivial
  | sendFailed index message => exact iff_of_true ⟨points.put index message.msgp, silent⟩ trivial
  | sent index => exact iff_of_true ⟨points.take index, silent⟩ trivial

end Program

open Program

/-- **Headers point to their own messages exactly as long as no two headers are swapped.** Over every
run of a safe program: in every state every header points to its own message, and every call of a header
method reaches the live message it was made on, exactly when no step of the run swaps the headers of
two messages. -/
theorem header_points_iff {α : Type} {s : Program α}
    {trace : List (Transition (Program α) (HeaderAction α) HeaderCall)}
    (run : (program α).Run trace s) :
    (∀ t ∈ trace, t.post.Points ∧ ∀ call ∈ t.out, call.Right) ↔
      ∀ t ∈ trace, SwapsNoHeaders t.act := by
  refine @Run.forall_iff _ _ _ _ Owned Points (fun t => SwapsNoHeaders t.act)
    (fun out => ∀ call ∈ out, call.Right) owned_start points_start ?_ ?_ _ _ run
  · exact fun s action s' out owned stepped => (step_cases stepped).owned owned
  · exact fun s action s' out owned points stepped => (step_cases stepped).points_iff owned points

/-- Two messages swapped as they are, and a header method called on each. -/
def wholeSwap : List (HeaderAction Nat) :=
  [.new 0 0 [1], .new 1 1 [2], .swap 0 1, .header 0 (.pushBack [7] true), .drop 1,
    .header 0 .asSlice]

theorem header_points_after_swap :
    ∃ (trace : List (Transition (Program Nat) (HeaderAction Nat) HeaderCall)) (s : Program Nat),
      (program Nat).Run trace s ∧ events trace = [⟨1, 1, true⟩, ⟨1, 1, true⟩]
        ∧ ∀ t ∈ trace, t.post.Points ∧ ∀ call ∈ t.out, call.Right := by
  have computed : ((program Nat).replay (program Nat).start wholeSwap).map
      (fun ran => (events ran.1, decide (∀ t ∈ ran.1, SwapsNoHeaders t.act))) =
        some ([⟨1, 1, true⟩, ⟨1, 1, true⟩], true) := by decide
  obtain ⟨⟨trace, s⟩, found, same⟩ := Option.map_eq_some_iff.mp computed
  obtain ⟨shown, meets⟩ := Prod.mk.inj same
  have run := run_of_replay wholeSwap found
  exact ⟨trace, s, run, shown, (header_points_iff run).mpr (of_decide_eq_true meets)⟩

/-- **Not every header points to its own message**: after the headers of two messages were swapped and
the second message was dropped, the header of the first is used after the free. -/
theorem header_used_after_free :
    ¬ ∀ (trace : List (Transition (Program Nat) (HeaderAction Nat) HeaderCall)) (s : Program Nat),
      (program Nat).Run trace s → s.Points ∧ ∀ call ∈ events trace, call.Right := by
  intro always
  have computed : ((program Nat).replay (program Nat).start
      [.new 0 0 [1], .new 1 1 [2], .swapHeaders 0 1, .drop 1, .header 0 .asSlice]).map
      (fun ran => events ran.1) = some [⟨0, 1, false⟩] := by decide
  obtain ⟨⟨trace, s⟩, found, shown⟩ := Option.map_eq_some_iff.mp computed
  have run := run_of_replay _ found
  have right := (always trace s run).2 ⟨0, 1, false⟩ (by
    dsimp only at shown
    rw [shown]
    exact List.mem_singleton.mpr rfl)
  exact absurd right.2 (by decide)

end NngRs.Nng
