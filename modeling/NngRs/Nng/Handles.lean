/-
**The handles of the `nng` crate and the library's objects behind them.**

A socket of the library owns its contexts, dialers and listeners, and these own their pipes; the library
closes an object with all it owns. `Socket` and `Context` share an `Arc<Inner>` whose drop closes the
object. A `DialerBuilder` or `ListenerBuilder` closes its object when it is dropped, until `start` has
made a `Dialer` or `Listener` of it. `Dialer`, `Listener` and `Pipe` are `Copy`, and nothing happens when
they are dropped. Every `close` asserts that the library answers `0` or `NNG_ECLOSED`.

`Socket::new` initialises the library and `RawSocket::new` does not, but the drop of either calls
`nng_fini` before it closes the socket. The `nng_fini` that leaves the library without a user closes all
there is.

What the library returns is part of the action, and `gone` is what it answers when an object is closed
that is gone.

* `Process.tearsDown` — the steps that close all there is.
* `Kept` — an object is shut exactly when what holds it has let it go, a step has closed it by name, or
  the library was torn down since it was made.
* `HandleHop.kept`, `Kept.settled` — kept by every step and every teardown.
* `objects_follow_handles` — so over every run: what is open, what keeps it open, and which steps panic.
-/

import NngRs.Machine.Forest
import NngRs.Machine.Run
import NngRs.Nng.Aio
import NngRs.Nng.Library

namespace NngRs.Nng

open NngRs.Sys EventMachine

/-! ## The model -/

inductive ObjectKind
  | Socket
  | Context
  | Dialer
  | Listener
  | Pipe
deriving DecidableEq, Repr

/-- What the program has of an object. -/
inductive Holder
  /-- The handles that share an `Arc<Inner>`. -/
  | shared (handles : Nat)
  /-- A `DialerBuilder` or `ListenerBuilder`. -/
  | builder
  /-- A builder that was dropped. -/
  | dropped
  /-- A `Dialer`, `Listener` or `Pipe`, which is `Copy`. -/
  | copied
deriving DecidableEq, Repr

/-- The object is not let go. -/
def Holder.holds : Holder → Bool
  | .shared handles => 0 < handles
  | .builder | .copied => true
  | .dropped => false

theorem Holder.holds_shared (others : Nat) : (Holder.shared (others + 1)).holds = true :=
  decide_eq_true (Nat.succ_pos others)

structure Handled where
  kind : ObjectKind
  holder : Holder
deriving DecidableEq, Repr

/-- The library's objects. -/
abbrev Objects := Forest Handled

structure Process where
  /-- The library's count of its users. -/
  library : Library
  /-- The live handles of `Params::init`. -/
  params : Nat
  objects : Objects

/-- Which of the two: dialer or listener. -/
inductive Side
  | dialer
  | listener
deriving DecidableEq, Repr

def Side.kind : Side → ObjectKind
  | .dialer => .Dialer
  | .listener => .Listener

inductive HandleEvent
  /-- `Ok`, with the new object or the started one. -/
  | created (object : Nat)
  /-- `Params::init` has returned `Ok`. -/
  | initialised
  /-- `Err`. -/
  | failed (e : Error)
  /-- `close` has returned. -/
  | closed
  /-- The assertion in `close` has failed. -/
  | panicked (rv : NngErr)
  /-- What `Pipe::dialer` or `Pipe::listener` returns. -/
  | found (endpoint : Option Nat)
  /-- What `RawSocket::try_from` returns. -/
  | converted (raw : Bool)
deriving DecidableEq

inductive HandleAction
  /-- `Socket::new`, with what `nng_init` and the open call return. -/
  | socketNew (initRv openRv : NngErr)
  /-- `RawSocket::new`, with what the open call returns. -/
  | rawSocketNew (openRv : NngErr)
  /-- `Params::init`, with what `nng_init` returns. -/
  | paramsInit (rv : NngErr)
  /-- Drop a handle of `Params::init`. -/
  | paramsDrop
  /-- `Context::new`. -/
  | contextNew (socket : Nat) (rv : NngErr)
  /-- `Dialer::new`, `Listener::new`, or `Socket::dial`, `dial_async` and `listen`, which drop the
  handle. -/
  | endpointNew (side : Side) (socket : Nat) (url : List UInt8) (rv : NngErr)
  /-- `DialerBuilder::new` or `ListenerBuilder::new`. -/
  | builderNew (side : Side) (socket : Nat) (url : List UInt8) (rv : NngErr)
  /-- `DialerBuilder::start` or `ListenerBuilder::start`. -/
  | builderStart (object : Nat) (rv : NngErr)
  /-- `Drop for DialerBuilder` or `Drop for ListenerBuilder`. -/
  | builderDrop (object : Nat)
  /-- Clone a `Socket` or `Context`. -/
  | clone (object : Nat)
  /-- Drop a `Socket` or `Context`. -/
  | drop (object : Nat)
  /-- `RawSocket::try_from`, with what `nng_socket_raw` found. -/
  | tryFrom (socket : Nat) (raw : Bool)
  /-- `close`, on a handle of any kind. -/
  | close (object : Nat)
  /-- The library connects an endpoint. -/
  | pipeAdd (endpoint : Nat)
  /-- The library loses a connection. -/
  | pipeLost (pipe : Nat)
  /-- `Pipe::dialer` or `Pipe::listener`. -/
  | pipeEndpoint (side : Side) (pipe : Nat)
deriving DecidableEq, Repr

/-- The object that a step closes by name: a method, or the library on its own. -/
def HandleAction.closes : HandleAction → Option Nat
  | .close object | .pipeLost object => some object
  | .socketNew _ _ | .rawSocketNew _ | .paramsInit _ | .paramsDrop | .contextNew _ _
  | .endpointNew _ _ _ _ | .builderNew _ _ _ _ | .builderStart _ _ | .builderDrop _ | .clone _ | .drop _
  | .tryFrom _ _ | .pipeAdd _ | .pipeEndpoint _ _ => none

namespace Objects

/-- An object of this kind is held. -/
def has (f : Objects) (kind : ObjectKind) (k : Nat) : Bool :=
  f.nodes[k]?.any fun n => n.value.kind == kind && n.value.holder.holds

/-- The end of a constructor: `rv2res!`. The library makes nothing when it fails. -/
def create (f : Objects) (rv : NngErr) (value : Handled) (owner : Option Nat) :
    Objects × List HandleEvent :=
  match Aio.nonZero rv with
  | none => (f.add value owner, [.created f.nodes.length])
  | some e => (f, [.failed (.fromCode e)])

/-- A constructor on a socket, which succeeds on an open one only. -/
def createOn (f : Objects) (socket : Nat) (rv : NngErr) (value : Handled) :
    Option (Objects × List HandleEvent) :=
  if f.has .Socket socket = true ∧ (rv = NNG_OK → f.isOpen socket = true) then
    some (f.create rv value (some socket))
  else none

/-- `CString::new(url)`, and then the rest of a constructor. -/
def createAt (f : Objects) (socket : Nat) (url : List UInt8) (rv : NngErr) (value : Handled) :
    Option (Objects × List HandleEvent) :=
  if 0 ∈ url ∧ f.has .Socket socket = true then some (f, [.failed .AddressInvalid])
  else f.createOn socket rv value

/-- `assert!(rv == 0 || nng_err(rv as _) == NNG_ECLOSED, ..)`. -/
def assertClosed (rv : NngErr) : List HandleEvent :=
  if rv = NNG_OK ∨ rv = ErrorCode.ECLOSED.value then [.closed] else [.panicked rv]

/-- `nng_socket_close`, `nng_ctx_close` and so on, with the assertion after them. -/
def closeObject (gone : ObjectKind → NngErr) (f : Objects) (k : Nat) (value : Handled) :
    Objects × List HandleEvent :=
  (f.change k (fun _ => value) true,
    assertClosed (if f.isOpen k then NNG_OK else gone value.kind))

/-- What the library knows as the endpoint of a pipe. -/
def pipeEndpoint (f : Objects) (side : Side) (pipe : Nat) : Option Nat := do
  let n ← f.nodes[pipe]?
  let endpoint ← n.owner
  if f.isOpen pipe = true ∧ f.has side.kind endpoint = true then some endpoint else none

/-- The object that a step asks the library to close. -/
def closing (f : Objects) : HandleAction → Option Nat
  | .close k | .builderDrop k => some k
  | .drop k | .tryFrom k false =>
    if f.nodes[k]?.any (fun n => n.value.holder == .shared 1) then some k else none
  | .socketNew _ _ | .rawSocketNew _ | .paramsInit _ | .paramsDrop | .contextNew _ _
  | .endpointNew _ _ _ _ | .builderNew _ _ _ _ | .builderStart _ _ | .clone _ | .tryFrom _ true
  | .pipeAdd _ | .pipeLost _ | .pipeEndpoint _ _ => none

/-- A step that closes a gone object, and is not told that it is closed. -/
def panics (gone : ObjectKind → NngErr) (f : Objects) (action : HandleAction) : Bool :=
  (f.closing action).any fun k => !f.isOpen k && f.nodes[k]?.any fun n =>
    gone n.value.kind != NNG_OK && gone n.value.kind != ErrorCode.ECLOSED.value

end Objects

namespace Process

/-- The rest of the process is as it was. -/
def after (p : Process) (done : Objects × List HandleEvent) : Process × List HandleEvent :=
  ({ p with objects := done.1 }, done.2)

/-- `nng_fini`. -/
def nngFini (p : Process) : Process :=
  let library := p.library.nngFini
  { p with library, objects := if library.initialised then p.objects else p.objects.shutAll }

/-- `Inner::drop`: that of a socket calls `nng_fini` first. -/
def innerDrop (gone : ObjectKind → NngErr) (p : Process) (k : Nat) (kind : ObjectKind) :
    Process × List HandleEvent :=
  let p := if kind = .Socket then p.nngFini else p
  p.after (p.objects.closeObject gone k ⟨kind, .shared 0⟩)

/-- Dropping a handle that shares an `Inner`: the last one drops the `Inner`. -/
def dropHandle (gone : ObjectKind → NngErr) (p : Process) (k : Nat) (kind : ObjectKind) :
    Nat → Process × List HandleEvent
  | 0 => p.innerDrop gone k kind
  | others + 1 => p.after (p.objects.put k ⟨kind, .shared (others + 1)⟩, [])

end Process

open Process

def handlesStep (gone : ObjectKind → NngErr) (p : Process) :
    HandleAction → Option (Process × List HandleEvent)
  | .socketNew initRv openRv =>
    let p := { p with library := p.library.nngInit initRv }
    some (p.after (p.objects.create openRv ⟨.Socket, .shared 1⟩ none))
  | .rawSocketNew openRv => some (p.after (p.objects.create openRv ⟨.Socket, .shared 1⟩ none))
  | .paramsInit rv =>
    if p.library.initialised = true ∧ rv ≠ ErrorCode.EBUSY.value then none
    else
      match Aio.nonZero rv with
      | none =>
        some ({ p with library := p.library.nngInit rv, params := p.params + 1 }, [.initialised])
      | some e => some (p, [.failed (.fromCode e)])
  | .paramsDrop =>
    match p.params with
    | 0 => none
    | params + 1 => some (nngFini { p with params }, [])
  | .contextNew socket rv => (p.objects.createOn socket rv ⟨.Context, .shared 1⟩).map p.after
  | .endpointNew side socket url rv =>
    (p.objects.createAt socket url rv ⟨side.kind, .copied⟩).map p.after
  | .builderNew side socket url rv =>
    (p.objects.createAt socket url rv ⟨side.kind, .builder⟩).map p.after
  | .builderStart k rv =>
    match p.objects.nodes[k]? with
    | some ⟨⟨kind, .builder⟩, _, _⟩ =>
      match Aio.nonZero rv with
      | none =>
        if p.objects.isOpen k = true then some (p.after (p.objects.put k ⟨kind, .copied⟩, [.created k]))
        else none
      | some e => some (p, [.failed (.fromCode e)])
    | _ => none
  | .builderDrop k =>
    match p.objects.nodes[k]? with
    | some ⟨⟨kind, .builder⟩, _, _⟩ => some (p.after (p.objects.closeObject gone k ⟨kind, .dropped⟩))
    | _ => none
  | .clone k =>
    match p.objects.nodes[k]? with
    | some ⟨⟨kind, .shared (handles + 1)⟩, _, _⟩ =>
      some (p.after (p.objects.put k ⟨kind, .shared (handles + 2)⟩, []))
    | _ => none
  | .drop k =>
    match p.objects.nodes[k]? with
    | some ⟨⟨kind, .shared (others + 1)⟩, _, _⟩ => some (p.dropHandle gone k kind others)
    | _ => none
  | .tryFrom k raw =>
    match p.objects.nodes[k]? with
    | some ⟨⟨.Socket, .shared (others + 1)⟩, _, _⟩ =>
      -- the `Socket` is moved in, and is not part of the error
      match raw with
      | true => if p.objects.isOpen k = true then some (p, [.converted true]) else none
      | false =>
        let (p', out) := p.dropHandle gone k .Socket others
        some (p', .converted false :: out)
    | _ => none
  | .close k =>
    match p.objects.nodes[k]? with
    | some ⟨⟨kind, .shared (handles + 1)⟩, _, _⟩ =>
      some (p.after (p.objects.closeObject gone k ⟨kind, .shared (handles + 1)⟩))
    | some ⟨⟨kind, .copied⟩, _, _⟩ => some (p.after (p.objects.closeObject gone k ⟨kind, .copied⟩))
    | _ => none
  | .pipeAdd k =>
    match p.objects.nodes[k]? with
    | some ⟨⟨kind, .copied⟩, _, _⟩ =>
      if p.objects.isOpen k = true ∧ kind ≠ .Pipe then
        some (p.after (p.objects.add ⟨.Pipe, .copied⟩ (some k), []))
      else none
    | _ => none
  | .pipeLost k =>
    match p.objects.nodes[k]? with
    | some ⟨⟨.Pipe, .copied⟩, _, _⟩ =>
      if p.objects.isOpen k = true then some (p.after (p.objects.shut k, [])) else none
    | _ => none
  | .pipeEndpoint side k =>
    match p.objects.nodes[k]? with
    | some ⟨⟨.Pipe, .copied⟩, _, _⟩ => some (p, [.found (p.objects.pipeEndpoint side k)])
    | _ => none

/-- A program from its start on. -/
def handles (gone : ObjectKind → NngErr) : EventMachine Process HandleAction HandleEvent where
  start := ⟨⟨0⟩, 0, .empty⟩
  step := handlesStep gone

namespace Process

/-- A step that calls `nng_fini`. -/
def finishes (p : Process) : HandleAction → Bool
  | .paramsDrop => true
  | .drop k | .tryFrom k false =>
    p.objects.nodes[k]?.any fun n => n.value == ⟨.Socket, .shared 1⟩
  | .socketNew _ _ | .rawSocketNew _ | .paramsInit _ | .contextNew _ _ | .endpointNew _ _ _ _
  | .builderNew _ _ _ _ | .builderStart _ _ | .builderDrop _ | .clone _ | .tryFrom _ true | .close _
  | .pipeAdd _ | .pipeLost _ | .pipeEndpoint _ _ => false

/-- **A step that leaves the library without a user.** -/
def tearsDown (p : Process) (action : HandleAction) : Bool :=
  p.finishes action && !p.library.nngFini.initialised

/-- The objects when the library has been torn down, if the step does that. -/
def settled (p : Process) (action : HandleAction) : Objects :=
  if p.tearsDown action then p.objects.shutAll else p.objects

end Process

namespace Objects

/-- **What a step does to the objects.** -/
inductive HandleHop (f : Objects) (action : HandleAction) : Objects → Prop
  | add (value : Handled) (owner : Option Nat) : action.closes = none → value.holder.holds = true →
      (∀ j, owner = some j → ∃ o, f.nodes[j]? = some o) →
      (owner = none → value = ⟨.Socket, .shared 1⟩) → HandleHop f action (f.add value owner)
  | change (k : Nat) (n : Forest.Node Handled) (value : Handled → Handled) (shut : Bool) :
      f.nodes[k]? = some n → (value n.value).kind = n.value.kind →
      (∀ handles, n.value.holder = .shared handles → ∃ h, (value n.value).holder = .shared h) →
      n.value.holder.holds = true →
      (shut = true ↔ (value n.value).holder.holds = false ∨ action.closes = some k) →
      (∀ j, action.closes = some j → j = k) → HandleHop f action (f.change k value shut)
  | same : action.closes = none → HandleHop f action f

/-- **What is shut, in terms of what holds it, what has been closed by name, and what was there when the
library was torn down.** -/
structure KeptBy (named torn : Nat → Prop) (f : Objects) : Prop where
  shut : ∀ (k : Nat) (n : Forest.Node Handled), f.nodes[k]? = some n →
    (n.shut = true ↔ n.value.holder.holds = false ∨ named k ∨ torn k)
  there : ∀ k, named k ∨ torn k → k < f.nodes.length
  root : ∀ (k : Nat) (n : Forest.Node Handled), f.nodes[k]? = some n → n.owner = none →
    n.value.kind = .Socket ∧ ∃ handles, n.value.holder = .shared handles

/-- The objects that a step has closed by name. -/
def NamedIn (trace : List (Transition Process HandleAction HandleEvent)) (k : Nat) : Prop :=
  ∃ t ∈ trace, t.act.closes = some k

/-- The objects that were there when the library was torn down. -/
def TornIn (trace : List (Transition Process HandleAction HandleEvent)) (k : Nat) : Prop :=
  ∃ t ∈ trace, t.pre.tearsDown t.act = true ∧ k < t.pre.objects.nodes.length

/-- The account that a run keeps. -/
def Kept (trace : List (Transition Process HandleAction HandleEvent)) (p : Process) : Prop :=
  KeptBy (NamedIn trace) (TornIn trace) p.objects

section Steps

variable {gone : ObjectKind → NngErr} {f f' : Objects} {action : HandleAction}
  {out : List HandleEvent} {k : Nat} {n : Forest.Node Handled}

theorem has_found {kind : ObjectKind} (has : f.has kind k = true) : ∃ o, f.nodes[k]? = some o := by
  unfold Objects.has at has
  cases found : f.nodes[k]? with
  | none =>
    rw [found] at has
    cases has
  | some o => exact ⟨o, rfl⟩

theorem assertClosed_panics {rv : NngErr} : (∃ rv', .panicked rv' ∈ assertClosed rv) ↔
    rv ≠ NNG_OK ∧ rv ≠ ErrorCode.ECLOSED.value := by
  unfold assertClosed
  by_cases fine : rv = NNG_OK ∨ rv = ErrorCode.ECLOSED.value
  · rw [if_pos fine]
    simp [← not_or, fine]
  · rw [if_neg fine]
    simp [← not_or, fine]

theorem closeObject_panics {value : Handled} (found : f.nodes[k]? = some n)
    (kind : value.kind = n.value.kind) (close : f.closing action = some k) :
    (∃ rv, .panicked rv ∈ (closeObject gone f k value).2) ↔ f.panics gone action = true := by
  unfold closeObject panics
  rw [close, Option.any_some, found, Option.any_some, assertClosed_panics, kind]
  cases opened : f.isOpen k with
  | true => simp
  | false => simp

theorem create_hop {rv : NngErr} {value : Handled} {owner : Option Nat}
    (closes : action.closes = none) (holds : value.holder.holds = true)
    (there : ∀ j, owner = some j → ∃ o, f.nodes[j]? = some o)
    (root : owner = none → value = ⟨.Socket, .shared 1⟩) :
    HandleHop f action (f.create rv value owner).1 ∧
      ∀ rv', .panicked rv' ∉ (f.create rv value owner).2 := by
  unfold create
  cases Aio.nonZero rv with
  | none => exact ⟨.add value owner closes holds there root, by simp⟩
  | some e => exact ⟨.same closes, by simp⟩

theorem createOn_hop {socket : Nat} {rv : NngErr} {value : Handled}
    (closes : action.closes = none) (holds : value.holder.holds = true)
    (stepped : f.createOn socket rv value = some (f', out)) :
    HandleHop f action f' ∧ ∀ rv', .panicked rv' ∉ out := by
  unfold createOn at stepped
  split_ifs at stepped with ready
  have there (j : Nat) (same : some socket = some j) : ∃ o, f.nodes[j]? = some o := by
    cases same
    exact has_found ready.1
  have made : HandleHop f action (f.create rv value (some socket)).1 ∧ _ :=
    create_hop closes holds there fun none => by cases none
  rw [Option.some.inj stepped] at made
  exact made

theorem createAt_hop {socket : Nat} {url : List UInt8} {rv : NngErr} {value : Handled}
    (closes : action.closes = none) (holds : value.holder.holds = true)
    (stepped : f.createAt socket url rv value = some (f', out)) :
    HandleHop f action f' ∧ ∀ rv', .panicked rv' ∉ out := by
  unfold createAt at stepped
  split_ifs at stepped with invalid
  · cases stepped
    exact ⟨.same closes, by simp⟩
  · exact createOn_hop closes holds stepped

theorem not_panics (close : f.closing action = none) : f.panics gone action = false := by
  rw [panics, close, Option.any_none]

/-- An object gets another value and stays unshut. -/
theorem put_hop {value : Handled} (found : f.nodes[k]? = some n) (kind : value.kind = n.value.kind)
    (shared : ∀ handles, n.value.holder = .shared handles → ∃ h, value.holder = .shared h)
    (held : n.value.holder.holds = true) (holds : value.holder.holds = true)
    (closes : action.closes = none) : HandleHop f action (f.put k value) := by
  refine .change k n (fun _ => value) false found kind shared held ?_ fun j same => ?_
  · rw [holds, closes]
    exact iff_of_false Bool.false_ne_true (by simp)
  · rw [closes] at same
    cases same

/-- An object is closed, by name or because it is let go. -/
theorem closeObject_hop {value : Handled} (found : f.nodes[k]? = some n)
    (kind : value.kind = n.value.kind)
    (shared : ∀ handles, n.value.holder = .shared handles → ∃ h, value.holder = .shared h)
    (held : n.value.holder.holds = true)
    (why : value.holder.holds = false ∧ action.closes = none ∨ action.closes = some k) :
    HandleHop f action (closeObject gone f k value).1 := by
  refine .change k n (fun _ => value) true found kind shared held ?_ fun j same => ?_
  · exact iff_of_true rfl (why.imp (·.1) id)
  · rcases why with ⟨_, none⟩ | named
    · rw [none] at same
      cases same
    · exact (Option.some.inj (named.symm.trans same)).symm

/-- A step that cannot panic. -/
theorem quiet_hop (done : HandleHop f action f' ∧ ∀ rv, .panicked rv ∉ out)
    (close : f.closing action = none) :
    HandleHop f action f' ∧ ((∃ rv, .panicked rv ∈ out) ↔ f.panics gone action = true) := by
  refine ⟨done.1, ?_⟩
  rw [not_panics close]
  exact iff_of_false (fun ⟨rv, member⟩ => done.2 rv member) Bool.false_ne_true

theorem panics_iff : f.panics gone action = true ↔ ∃ k n, f.closing action = some k ∧
    f.nodes[k]? = some n ∧ gone n.value.kind ≠ NNG_OK ∧ gone n.value.kind ≠ ErrorCode.ECLOSED.value ∧
    f.isOpen k = false := by
  unfold panics
  cases f.closing action with
  | none => simp
  | some k =>
    cases found : f.nodes[k]? with
    | none => simp [found]
    | some n =>
      simp [found]
      tauto

end Steps

section ProcessSteps

variable {gone : ObjectKind → NngErr} {p p' : Process} {action : HandleAction}
  {out : List HandleEvent} {k : Nat} {n : Forest.Node Handled}

/-- A step that calls no `nng_fini` tears nothing down. -/
theorem settled_eq (finish : p.finishes action = false) : p.settled action = p.objects := by
  rw [Process.settled, Process.tearsDown, finish, Bool.false_and, if_neg Bool.false_ne_true]

theorem nngFini_objects (finish : p.finishes action = true) : p.nngFini.objects = p.settled action := by
  rw [Process.settled, Process.tearsDown, finish, Bool.true_and, Process.nngFini]
  cases p.library.nngFini.initialised <;> rfl

/-- A teardown leaves the values of the objects. -/
theorem settled_found (action : HandleAction) (found : p.objects.nodes[k]? = some n) :
    ∃ m, (p.settled action).nodes[k]? = some m ∧ m.value = n.value := by
  unfold Process.settled
  split
  · exact ⟨{ n with shut := true }, by rw [Forest.getElem?_shutAll, found]; rfl, rfl⟩
  · exact ⟨n, found, rfl⟩

theorem closing_settled : (p.settled action).closing action = p.objects.closing action := by
  have shares (j : Nat) : ((p.settled action).nodes[j]?.any fun n => n.value.holder == .shared 1) =
      p.objects.nodes[j]?.any fun n => n.value.holder == .shared 1 := by
    unfold Process.settled
    split
    · rw [Forest.getElem?_shutAll]
      cases p.objects.nodes[j]? <;> rfl
    · rfl
  cases action with
  | drop j => exact congrArg (if · then some j else none) (shares j)
  | tryFrom j raw =>
    cases raw with
    | true => rfl
    | false => exact congrArg (if · then some j else none) (shares j)
  | _ => rfl

/-- The drop of the last handle, with the `nng_fini` before it. -/
theorem innerDrop_hop (found : p.objects.nodes[k]? = some n) {kind : ObjectKind}
    (value : n.value = ⟨kind, .shared 1⟩) (closes : action.closes = none)
    (close : p.objects.closing action = some k)
    (finish : p.finishes action = (n.value == ⟨.Socket, .shared 1⟩)) :
    HandleHop (p.settled action) action (p.innerDrop gone k kind).1.objects ∧
      ((∃ rv, .panicked rv ∈ (p.innerDrop gone k kind).2) ↔
        (p.settled action).panics gone action = true) := by
  have settled : (if kind = .Socket then p.nngFini else p).objects = p.settled action := by
    by_cases socket : kind = .Socket
    · rw [if_pos socket, nngFini_objects]
      rw [finish, value, socket]
      rfl
    · rw [if_neg socket, settled_eq]
      rw [finish, value]
      exact beq_eq_false_iff_ne.mpr fun same => socket (congrArg Handled.kind same)
  obtain ⟨m, there, same⟩ := settled_found action found
  have kinds : kind = m.value.kind := by rw [same, value]
  have held : m.value.holder.holds = true := by rw [same, value]; rfl
  have closed : HandleHop (p.settled action) action
      ((p.settled action).closeObject gone k ⟨kind, .shared 0⟩).1 :=
    closeObject_hop there kinds (fun _ _ => ⟨0, rfl⟩) held (.inl ⟨rfl, closes⟩)
  rw [Process.innerDrop, settled]
  exact ⟨closed, closeObject_panics there kinds (closing_settled.trans close)⟩

theorem dropHandle_hop {kind : ObjectKind} {others : Nat} (found : p.objects.nodes[k]? = some n)
    (value : n.value = ⟨kind, .shared (others + 1)⟩) (closes : action.closes = none)
    (close : p.objects.closing action = if n.value.holder = .shared 1 then some k else none)
    (finish : p.finishes action = (n.value == ⟨.Socket, .shared 1⟩)) :
    HandleHop (p.settled action) action (p.dropHandle gone k kind others).1.objects ∧
      ((∃ rv, .panicked rv ∈ (p.dropHandle gone k kind others).2) ↔
        (p.settled action).panics gone action = true) := by
  cases others with
  | zero => exact innerDrop_hop found value closes (by rw [close, value]; rfl) finish
  | succ others =>
    have quiet : p.objects.closing action = none := by
      rw [close, value, if_neg]
      intro same
      cases same
    have still : p.settled action = p.objects := by
      refine settled_eq (finish.trans (beq_eq_false_iff_ne.mpr fun same => ?_))
      rw [value] at same
      cases same
    rw [still]
    refine ⟨put_hop found (by rw [value]) (fun _ _ => ⟨_, rfl⟩) ?_ (Holder.holds_shared others) closes,
      ?_⟩
    · rw [value]
      exact Holder.holds_shared (others + 1)
    · rw [not_panics quiet]
      exact iff_of_false (fun ⟨rv, member⟩ => absurd member List.not_mem_nil) Bool.false_ne_true

/-- When a step panics, by the objects before it. -/
theorem panics_settled_iff : (p.settled action).panics gone action = true ↔
    ∃ k n, p.objects.closing action = some k ∧ p.objects.nodes[k]? = some n ∧
      gone n.value.kind ≠ NNG_OK ∧ gone n.value.kind ≠ ErrorCode.ECLOSED.value ∧
      (p.tearsDown action = true ∨ p.objects.isOpen k = false) := by
  rw [panics_iff, closing_settled]
  unfold Process.settled
  by_cases torn : p.tearsDown action = true
  · rw [if_pos torn]
    simp only [Forest.getElem?_shutAll, Forest.isOpen_shutAll, torn, true_or, and_true,
      Option.map_eq_some_iff]
    refine exists_congr fun k => ?_
    constructor
    · rintro ⟨_, close, ⟨n, found, rfl⟩, answers⟩
      exact ⟨n, close, found, answers⟩
    · rintro ⟨n, close, found, answers⟩
      exact ⟨_, close, ⟨n, found, rfl⟩, answers⟩
  · rw [if_neg torn]
    simp only [torn, false_or, Bool.false_eq_true]

/-- What a step closes was not let go before. -/
theorem closing_held (stepped : handlesStep gone p action = some (p', out))
    (close : p.objects.closing action = some k) (found : p.objects.nodes[k]? = some n) :
    n.value.holder.holds = true := by
  obtain ⟨⟨kind, holder⟩, above, shut⟩ := n
  unfold handlesStep at stepped
  unfold closing at close
  cases action with
  | builderDrop j | close j =>
    cases close
    cases holder with
    | shared handles =>
      cases handles with
      | zero => simp only [found] at stepped; cases stepped
      | succ others => exact Holder.holds_shared others
    | builder | copied => rfl
    | dropped => simp only [found] at stepped; cases stepped
  | drop j =>
    dsimp only at close
    split_ifs at close with single
    cases close
    rw [found, Option.any_some, beq_iff_eq] at single
    dsimp only at single ⊢
    rw [single]
    rfl
  | tryFrom j raw =>
    cases raw with
    | true => cases close
    | false =>
      dsimp only at close
      split_ifs at close with single
      cases close
      rw [found, Option.any_some, beq_iff_eq] at single
      dsimp only at single ⊢
      rw [single]
      rfl
  | _ => cases close

/-- The end of a constructor on a socket. -/
theorem made_hop {made : Option (Objects × List HandleEvent)}
    (hop : ∀ f' out, made = some (f', out) →
      HandleHop p.objects action f' ∧ ∀ rv, .panicked rv ∉ out)
    (stepped : made.map p.after = some (p', out)) :
    HandleHop p.objects action p'.objects ∧ ∀ rv, .panicked rv ∉ out := by
  obtain ⟨⟨f', out'⟩, created, same⟩ := Option.map_eq_some_iff.mp stepped
  cases same
  exact hop f' _ created

/-- What a step does to the objects, and when it panics. The library is torn down first, if it is. -/
def Hops (gone : ObjectKind → NngErr) (p : Process) (action : HandleAction) (p' : Process)
    (out : List HandleEvent) : Prop :=
  HandleHop (p.settled action) action p'.objects ∧
    ((∃ rv, .panicked rv ∈ out) ↔ (p.settled action).panics gone action = true)

/-! One lemma for each action that is not the call of a constructor on a socket. -/

theorem paramsInit_hop {rv : NngErr} (stepped : handlesStep gone p (.paramsInit rv) = some (p', out)) :
    Hops gone p (.paramsInit rv) p' out := by
  unfold handlesStep at stepped
  dsimp only at stepped
  split_ifs at stepped
  cases code : Aio.nonZero rv with
  | none =>
    rw [code] at stepped
    cases stepped
    exact quiet_hop ⟨.same rfl, by simp⟩ rfl
  | some e =>
    rw [code] at stepped
    cases stepped
    exact quiet_hop ⟨.same rfl, by simp⟩ rfl

theorem paramsDrop_hop (stepped : handlesStep gone p .paramsDrop = some (p', out)) :
    Hops gone p .paramsDrop p' out := by
  unfold handlesStep at stepped
  dsimp only at stepped
  split at stepped
  · cases stepped
  · cases stepped
    have torn : p.nngFini.objects = p.settled .paramsDrop := nngFini_objects rfl
    refine quiet_hop ⟨?_, by simp⟩ rfl
    rw [← torn]
    exact .same rfl

theorem builderStart_hop {rv : NngErr}
    (stepped : handlesStep gone p (.builderStart k rv) = some (p', out)) :
    Hops gone p (.builderStart k rv) p' out := by
  unfold handlesStep at stepped
  dsimp only at stepped
  split at stepped
  next kind above shut found =>
    cases code : Aio.nonZero rv with
    | none =>
      rw [code] at stepped
      dsimp only at stepped
      split_ifs at stepped with opened
      cases stepped
      exact quiet_hop ⟨put_hop found rfl (fun _ other => by cases other) rfl rfl rfl, by simp⟩ rfl
    | some e =>
      rw [code] at stepped
      cases stepped
      exact quiet_hop ⟨.same rfl, by simp⟩ rfl
  next => cases stepped

theorem builderDrop_hop (stepped : handlesStep gone p (.builderDrop k) = some (p', out)) :
    Hops gone p (.builderDrop k) p' out := by
  unfold handlesStep at stepped
  dsimp only at stepped
  split at stepped
  next kind above shut found =>
    cases stepped
    have closed : HandleHop p.objects (.builderDrop k)
        (p.objects.closeObject gone k ⟨kind, .dropped⟩).1 :=
      closeObject_hop found rfl (fun _ other => by cases other) rfl (.inl ⟨rfl, rfl⟩)
    exact ⟨closed, closeObject_panics found rfl rfl⟩
  next => cases stepped

theorem clone_hop (stepped : handlesStep gone p (.clone k) = some (p', out)) :
    Hops gone p (.clone k) p' out := by
  unfold handlesStep at stepped
  dsimp only at stepped
  split at stepped
  next kind handles above shut found =>
    cases stepped
    have shared : HandleHop p.objects (.clone k) (p.objects.put k ⟨kind, .shared (handles + 2)⟩) :=
      put_hop found rfl (fun _ _ => ⟨_, rfl⟩) (Holder.holds_shared handles)
        (Holder.holds_shared (handles + 1)) rfl
    exact quiet_hop ⟨shared, by simp⟩ rfl
  next => cases stepped

theorem drop_hop (stepped : handlesStep gone p (.drop k) = some (p', out)) :
    Hops gone p (.drop k) p' out := by
  unfold handlesStep at stepped
  dsimp only at stepped
  split at stepped
  next kind others above shut found =>
    have close : p.objects.closing (.drop k) =
        if Holder.shared (others + 1) = .shared 1 then some k else none := by
      simp only [closing, found, Option.any_some, beq_iff_eq]
    have finish : p.finishes (.drop k) =
        ((⟨kind, .shared (others + 1)⟩ : Handled) == ⟨.Socket, .shared 1⟩) := by
      simp only [Process.finishes, found, Option.any_some]
    have dropped : Hops gone p (.drop k) (p.dropHandle gone k kind others).1
        (p.dropHandle gone k kind others).2 := dropHandle_hop found rfl rfl close finish
    rw [Option.some.inj stepped] at dropped
    exact dropped
  next => cases stepped

theorem tryFrom_hop {raw : Bool} (stepped : handlesStep gone p (.tryFrom k raw) = some (p', out)) :
    Hops gone p (.tryFrom k raw) p' out := by
  unfold handlesStep at stepped
  dsimp only at stepped
  split at stepped
  next others above shut found =>
    cases raw with
    | true =>
      dsimp only at stepped
      split_ifs at stepped with opened
      cases stepped
      exact quiet_hop ⟨.same rfl, by simp⟩ rfl
    | false =>
      have close : p.objects.closing (.tryFrom k false) =
          if Holder.shared (others + 1) = .shared 1 then some k else none := by
        simp only [closing, found, Option.any_some, beq_iff_eq]
      have finish : p.finishes (.tryFrom k false) =
          ((⟨.Socket, .shared (others + 1)⟩ : Handled) == ⟨.Socket, .shared 1⟩) := by
        simp only [Process.finishes, found, Option.any_some]
      have dropped : Hops gone p (.tryFrom k false) (p.dropHandle gone k .Socket others).1
          (p.dropHandle gone k .Socket others).2 := dropHandle_hop found rfl rfl close finish
      cases stepped
      refine ⟨dropped.1, Iff.trans ?_ dropped.2⟩
      simp
  next => cases stepped

theorem close_hop (stepped : handlesStep gone p (.close k) = some (p', out)) :
    Hops gone p (.close k) p' out := by
  unfold handlesStep at stepped
  dsimp only at stepped
  split at stepped
  next kind handles above shut found =>
    cases stepped
    have closed : HandleHop p.objects (.close k)
        (p.objects.closeObject gone k ⟨kind, .shared (handles + 1)⟩).1 :=
      closeObject_hop found rfl (fun _ _ => ⟨_, rfl⟩) (Holder.holds_shared handles) (.inr rfl)
    exact ⟨closed, closeObject_panics found rfl rfl⟩
  next kind above shut found =>
    cases stepped
    have closed : HandleHop p.objects (.close k) (p.objects.closeObject gone k ⟨kind, .copied⟩).1 :=
      closeObject_hop found rfl (fun _ other => by cases other) rfl (.inr rfl)
    exact ⟨closed, closeObject_panics found rfl rfl⟩
  next => cases stepped

theorem pipeAdd_hop (stepped : handlesStep gone p (.pipeAdd k) = some (p', out)) :
    Hops gone p (.pipeAdd k) p' out := by
  unfold handlesStep at stepped
  dsimp only at stepped
  split at stepped
  next kind above shut found =>
    split_ifs at stepped with ready
    cases stepped
    refine quiet_hop ⟨.add _ _ rfl rfl (fun j same => ?_) fun none => (by cases none), by simp⟩ rfl
    cases same
    exact ⟨_, found⟩
  next => cases stepped

theorem pipeLost_hop (stepped : handlesStep gone p (.pipeLost k) = some (p', out)) :
    Hops gone p (.pipeLost k) p' out := by
  unfold handlesStep at stepped
  dsimp only at stepped
  split at stepped
  next above shut found =>
    split_ifs at stepped with opened
    cases stepped
    have lost : HandleHop p.objects (.pipeLost k) (p.objects.change k id true) := by
      refine .change k _ id true found rfl (fun _ other => by cases other) rfl ?_ ?_
      · exact iff_of_true rfl (.inr rfl)
      · exact fun j same => (Option.some.inj same).symm
    exact quiet_hop ⟨lost, by simp⟩ rfl
  next => cases stepped

theorem pipeEndpoint_hop {side : Side}
    (stepped : handlesStep gone p (.pipeEndpoint side k) = some (p', out)) :
    Hops gone p (.pipeEndpoint side k) p' out := by
  unfold handlesStep at stepped
  dsimp only at stepped
  split at stepped
  · cases stepped
    exact quiet_hop ⟨.same rfl, by simp⟩ rfl
  · cases stepped

/-- **What a step does, and when it panics.** -/
theorem step_hop (stepped : handlesStep gone p action = some (p', out)) : Hops gone p action p' out := by
  cases action with
  | socketNew initRv openRv | rawSocketNew openRv =>
    cases stepped
    exact quiet_hop (create_hop rfl rfl (fun _ owner => by cases owner) fun _ => rfl) rfl
  | contextNew socket rv =>
    exact quiet_hop (made_hop (fun _ _ created => createOn_hop rfl rfl created) stepped) rfl
  | endpointNew side socket url rv =>
    exact quiet_hop (made_hop (fun _ _ created => createAt_hop rfl rfl created) stepped) rfl
  | builderNew side socket url rv =>
    exact quiet_hop (made_hop (fun _ _ created => createAt_hop rfl rfl created) stepped) rfl
  | paramsInit => exact paramsInit_hop stepped
  | paramsDrop => exact paramsDrop_hop stepped
  | builderStart => exact builderStart_hop stepped
  | builderDrop => exact builderDrop_hop stepped
  | clone => exact clone_hop stepped
  | drop => exact drop_hop stepped
  | tryFrom => exact tryFrom_hop stepped
  | close => exact close_hop stepped
  | pipeAdd => exact pipeAdd_hop stepped
  | pipeLost => exact pipeLost_hop stepped
  | pipeEndpoint => exact pipeEndpoint_hop stepped

end ProcessSteps

/-- **A pipe names an open endpoint**, of the kind asked for, or none. -/
theorem pipeEndpoint_open {f : Objects} {side : Side} {pipe endpoint : Nat}
    (named : f.pipeEndpoint side pipe = some endpoint) :
    f.isOpen endpoint = true ∧ f.has side.kind endpoint = true := by
  unfold pipeEndpoint at named
  obtain ⟨n, found, rest⟩ := Option.bind_eq_some_iff.mp named
  obtain ⟨owner, owns, rest⟩ := Option.bind_eq_some_iff.mp rest
  obtain ⟨⟨opened, kind⟩, same⟩ := Option.ite_none_right_eq_some.mp rest
  cases same
  exact ⟨((Forest.isOpen_iff found).mp opened).2 endpoint owns, kind⟩

/-! ## Over a run -/

section Runs

variable {gone : ObjectKind → NngErr} {f f' : Objects} {p p' : Process} {action : HandleAction}
  {named torn : Nat → Prop} {trace : List (Transition Process HandleAction HandleEvent)}

/-- **A step on the objects keeps the account.** -/
theorem HandleHop.kept (kept : KeptBy named torn f) (hop : HandleHop f action f') :
    KeptBy (fun k => named k ∨ action.closes = some k) torn f' := by
  cases hop with
  | same closes =>
    rw [closes]
    simpa only [reduceCtorEq, or_false] using kept
  | add value owner closes holds there root =>
    have longer : (f.add value owner).nodes.length = f.nodes.length + 1 := List.length_append
    rw [closes]
    simp only [reduceCtorEq, or_false]
    refine ⟨fun k n found => ?_, fun k listed => ?_, fun k n found none => ?_⟩
    · rcases getElem?_concat_cases found with ⟨rfl, rfl⟩ | ⟨_, before⟩
      · refine iff_of_false Bool.false_ne_true ?_
        rw [holds]
        rintro (absurd' | listed)
        · cases absurd'
        · exact Nat.lt_irrefl _ (kept.there _ listed)
      · exact kept.shut k n before
    · rw [longer]
      exact Nat.lt_succ_of_lt (kept.there k listed)
    · rcases getElem?_concat_cases found with ⟨rfl, rfl⟩ | ⟨_, before⟩
      · rw [Forest.owner_new there] at none
        have fresh := root none
        subst fresh
        exact ⟨rfl, 1, rfl⟩
      · exact kept.root k n before none
  | change k n value shut found kind shared held why only =>
    refine ⟨fun j m there => ?_, fun j listed => ?_, fun j m there none => ?_⟩
    · rcases Forest.change_cases there with ⟨rfl, o, here, rfl⟩ | ⟨other, before⟩
      · cases found.symm.trans here
        show (n.shut || shut) = true ↔
          (value n.value).holder.holds = false ∨ (named j ∨ action.closes = some j) ∨ torn j
        rw [Bool.or_eq_true, kept.shut j n found, why, held]
        tauto
      · rw [kept.shut j m before]
        have unnamed : ¬action.closes = some j := fun same => other (only j same)
        tauto
    · rw [Forest.length_change]
      rcases listed with (listed | closes) | listed
      · exact kept.there j (.inl listed)
      · obtain rfl := only j closes
        exact (List.getElem?_eq_some_iff.mp found).choose
      · exact kept.there j (.inr listed)
    · rcases Forest.change_cases there with ⟨rfl, o, here, rfl⟩ | ⟨_, before⟩
      · cases found.symm.trans here
        obtain ⟨socket, handles, shares⟩ := kept.root j n found none
        exact ⟨kind.trans socket, shared handles shares⟩
      · exact kept.root j m before none

/-- **A teardown keeps the account**: all there is is shut. -/
theorem KeptBy.shutAll (kept : KeptBy named torn f) :
    KeptBy named (fun k => torn k ∨ k < f.nodes.length) f.shutAll := by
  have found' {k : Nat} {n : Forest.Node Handled} (found : f.shutAll.nodes[k]? = some n) :
      ∃ o, f.nodes[k]? = some o ∧ n = { o with shut := true } := by
    rw [Forest.getElem?_shutAll] at found
    obtain ⟨o, there, same⟩ := Option.map_eq_some_iff.mp found
    exact ⟨o, there, same.symm⟩
  refine ⟨fun k n found => ?_, fun k listed => ?_, fun k n found none => ?_⟩
  · obtain ⟨o, there, rfl⟩ := found' found
    exact iff_of_true rfl (.inr (.inr (.inr (List.getElem?_eq_some_iff.mp there).choose)))
  · rw [Forest.length_shutAll]
    rcases listed with listed | listed | bound
    · exact kept.there k (.inl listed)
    · exact kept.there k (.inr listed)
    · exact bound
  · obtain ⟨o, there, rfl⟩ := found' found
    exact kept.root k o there none

/-- The account of the objects once the library has been torn down, if the step does that. -/
theorem Kept.settled (kept : Kept trace p) (action : HandleAction) :
    KeptBy (NamedIn trace)
      (fun k => TornIn trace k ∨ p.tearsDown action = true ∧ k < p.objects.nodes.length)
      (p.settled action) := by
  unfold Process.settled
  by_cases torn : p.tearsDown action = true
  · simpa only [torn, if_true, true_and] using KeptBy.shutAll kept
  · simp only [torn, if_false, false_and, or_false, Bool.false_eq_true]
    exact kept

/-- What a longer trace has closed by name, and torn down. -/
theorem namedIn_concat {t : Transition Process HandleAction HandleEvent} :
    NamedIn (trace ++ [t]) = fun k => NamedIn trace k ∨ t.act.closes = some k := by
  funext k
  simp only [NamedIn, List.mem_append, List.mem_singleton, or_and_right, exists_or, exists_eq_left]

theorem tornIn_concat {t : Transition Process HandleAction HandleEvent} :
    TornIn (trace ++ [t]) = fun k =>
      TornIn trace k ∨ t.pre.tearsDown t.act = true ∧ k < t.pre.objects.nodes.length := by
  funext k
  simp only [TornIn, List.mem_append, List.mem_singleton, or_and_right, exists_or, exists_eq_left]

/-- **Every run keeps the account.** -/
theorem kept_of_run (run : (handles gone).Run trace p) : Kept trace p := by
  induction run with
  | nil =>
    refine ⟨fun _ _ found => ?_, fun _ listed => ?_, fun _ _ found => ?_⟩
    · cases found
    · rcases listed with ⟨_, member, _⟩ | ⟨_, member, _⟩ <;> exact absurd member List.not_mem_nil
    · cases found
  | snoc earlier stepped kept =>
    rw [Kept, namedIn_concat, tornIn_concat]
    exact (step_hop stepped).1.kept (kept.settled _)

/-- What is open, in terms of what holds it, what has been closed by name and what was torn down. -/
theorem KeptBy.isOpen_iff (kept : KeptBy named torn f) {k : Nat} {n : Forest.Node Handled}
    (found : f.nodes[k]? = some n) :
    f.isOpen k = true ↔ n.value.holder.holds = true ∧
      (∀ j, n.owner = some j → f.isOpen j = true) ∧ ¬named k ∧ ¬torn k := by
  rw [Forest.isOpen_iff found, ← Bool.not_eq_true, kept.shut k n found]
  simp only [not_or, Bool.not_eq_false]
  tauto

end Runs

/-- **What keeps the library's objects open, and when `close` panics.** Over every run of a program with
any number of handles: an object is open exactly as long as a handle holds it, what it belongs to is
open, no `close` and no loss of the connection has named it, and the library was not torn down since it
was made; what is open belongs to a socket with a handle left; and a step panics exactly when it closes
an object that has been closed by name before, that was there when the library was torn down, also by
this very step, or that belongs to a gone one, and the library's answer to that is not `NNG_ECLOSED`. -/
theorem objects_follow_handles {gone : ObjectKind → NngErr}
    {trace : List (Transition Process HandleAction HandleEvent)} {p : Process}
    (run : (handles gone).Run trace p) :
    (∀ k n, p.objects.nodes[k]? = some n → (p.objects.isOpen k = true ↔ n.value.holder.holds = true ∧
      (∀ j, n.owner = some j → p.objects.isOpen j = true) ∧ (∀ t ∈ trace, t.act.closes ≠ some k) ∧
      ∀ t ∈ trace, t.pre.tearsDown t.act = true → t.pre.objects.nodes.length ≤ k)) ∧
    (∀ k n, p.objects.nodes[k]? = some n → p.objects.isOpen k = true → ∃ s o others,
      p.objects.nodes[s]? = some o ∧ o.value = ⟨.Socket, .shared (others + 1)⟩ ∧
      (s = k ∨ s ∈ n.above)) ∧
    ∀ before t after, trace = before ++ t :: after →
      ((∃ rv, .panicked rv ∈ t.out) ↔ ∃ k n, t.pre.objects.closing t.act = some k ∧
        t.pre.objects.nodes[k]? = some n ∧ gone n.value.kind ≠ NNG_OK ∧
        gone n.value.kind ≠ ErrorCode.ECLOSED.value ∧
        ((∃ t' ∈ before, t'.act.closes = some k) ∨
          (∃ t' ∈ before ++ [t], t'.pre.tearsDown t'.act = true ∧ k < t'.pre.objects.nodes.length) ∨
          ∃ j, n.owner = some j ∧ t.pre.objects.isOpen j = false)) := by
  refine ⟨fun k n found => ?_, fun k n found opened => ?_, fun before t after split => ?_⟩
  · refine ((kept_of_run run).isOpen_iff found).trans ?_
    simp only [NamedIn, TornIn, not_exists, not_and, Nat.not_lt, ne_eq]
  · have kept := kept_of_run run
    obtain ⟨s, o, root, none, opened', below⟩ := Forest.open_root found opened
    obtain ⟨socket, handles, shares⟩ := kept.root s o root none
    have held := ((kept.isOpen_iff root).mp opened').1
    rw [shares] at held
    obtain ⟨others, rfl⟩ := Nat.exists_eq_succ_of_ne_zero (Nat.ne_of_gt (of_decide_eq_true held))
    refine ⟨s, o, others, root, ?_, below⟩
    rw [← socket, ← shares]
  · subst split
    obtain ⟨early, stepped⟩ := run.split
    have kept := kept_of_run early
    rw [(step_hop stepped).2, panics_settled_iff]
    refine exists_congr fun k => exists_congr fun n => and_congr_right fun close => ?_
    refine and_congr_right fun found => and_congr_right fun _ => and_congr_right fun _ => ?_
    have held := closing_held stepped close found
    have bound : k < t.pre.objects.nodes.length := (List.getElem?_eq_some_iff.mp found).choose
    rw [← Bool.not_eq_true (t.pre.objects.isOpen k), kept.isOpen_iff found]
    show _ ↔ NamedIn before k ∨ TornIn (before ++ [t]) k ∨ _
    rw [tornIn_concat]
    dsimp only
    rw [and_iff_left bound]
    simp only [held, true_and, not_and_or, not_forall, not_not, exists_prop, Bool.not_eq_true]
    constructor
    · rintro (torn | owner | named | torn)
      exacts [.inr (.inl (.inr torn)), .inr (.inr owner), .inl named, .inr (.inl (.inl torn))]
    · rintro (named | (torn | torn) | owner)
      exacts [.inr (.inr (.inl named)), .inr (.inr (.inr torn)), .inl torn, .inr (.inl owner)]

/-- A raw socket is dropped next to a cooked one that has a `ListenerBuilder`, in a library that answers
`NNG_ENOENT` when something gone is closed: the cooked socket is closed with a handle left, and dropping
the builder panics. -/
theorem objects_follow_handles_torn :
    ∃ before t p, (handles fun _ => ErrorCode.ENOENT.value).Run (before ++ [t]) p ∧
      p.objects.nodes[0]? = some ⟨⟨.Socket, .shared 1⟩, [], true⟩ ∧ p.objects.isOpen 0 = false ∧
      ∃ rv, HandleEvent.panicked rv ∈ t.out := by
  have early := run_of_replay (M := handles fun _ => ErrorCode.ENOENT.value)
    [.socketNew 0 0, .builderNew .listener 0 [] 0, .rawSocketNew 0, .drop 2] rfl
  have run := early.snoc (a := .builderDrop 1) rfl
  obtain ⟨opened, _, panics⟩ := objects_follow_handles run
  refine ⟨_, _, _, run, rfl, Bool.eq_false_iff.mpr fun here => ?_, ?_⟩
  · have kept := ((opened 0 _ rfl).mp here).2.2.2
    exact absurd (kept _ (List.mem_of_getElem? (i := 3) rfl) rfl) (by decide)
  · exact (panics _ _ [] rfl).mpr ⟨1, _, rfl, rfl, by decide, by decide, .inr (.inr ⟨0, rfl, rfl⟩)⟩

end Objects

end NngRs.Nng
