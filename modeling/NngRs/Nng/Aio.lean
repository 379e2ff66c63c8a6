/-
**The asynchronous I/O handle of the `nng` crate: `Aio`, its callback and its drop.**

One `Inner` is shared by every clone of an `Aio`: the state word, which every call claims with
`compare_exchange`, and the `nng_aio` behind it. `Aio` is that, with what all threads are doing to it
at a moment:

* `flights` — the calls the word has accepted so far, in their order, and how far each is: the call
  between its `compare_exchange` and the native call, the operation in the library, the invocation of
  the trampoline until it returns;
* `locks` — the calls of `set_timeout` between their `compare_exchange` and their store;
* `pool` — the handles that users hold, on any thread or in a running closure; an invocation holds one
  more from its `upgrade` until it passes it to the closure, and `strong` counts them all;
* `life` — whether `Inner::drop` has begun, and on which stack.

A step is one atomic access, one library call or one move of the library. The threads interleave
freely, and what the library and the closure do is part of the action.
-/

import NngRs.Machine.Run
import NngRs.Nng.Duration
import NngRs.Nng.Error

namespace NngRs.Nng

open NngRs.Sys EventMachine

/-- `Header { msgp }`. -/
structure Header (M : Type) where
  msgp : M
deriving DecidableEq, Repr

/-- `Message { msgp, header }`; `M` stands for the library's message objects. -/
structure Message (M : Type) where
  msgp : M
  header : Header M
deriving DecidableEq, Repr

namespace Message

variable {M : Type}

/-- `Message::from_ptr`. -/
def fromPtr (msgp : M) : Message M := ⟨msgp, ⟨msgp⟩⟩

/-- `Message::into_ptr`. -/
def intoPtr (message : Message M) : M := message.msgp

end Message

/-- `enum State`. -/
inductive AioState
  | Inactive
  | Sending
  | Receiving
  | Sleeping
deriving DecidableEq, Repr

namespace AioState

/-- `state as usize`. -/
def asUsize : AioState → Nat
  | Inactive => 0
  | Sending => 1
  | Receiving => 2
  | Sleeping => 3

/-- `State::from`; `none` is its `unreachable!()`. -/
def fromUsize : Nat → Option AioState
  | 0 => some Inactive
  | 1 => some Sending
  | 2 => some Receiving
  | 3 => some Sleeping
  | _ => none

@[simp] theorem fromUsize_asUsize (state : AioState) : fromUsize state.asUsize = some state := by
  cases state <;> rfl

theorem asUsize_injective {state state' : AioState} (same : state.asUsize = state'.asUsize) :
    state = state' := by
  have read := congrArg fromUsize same
  rw [fromUsize_asUsize, fromUsize_asUsize] at read
  exact Option.some.inj read

end AioState

/-- Where the modelled code panics. -/
inductive AioPanic
  /-- `unreachable!()` in `State::from`. -/
  | unknownState
  /-- `(State::Inactive, _) => unreachable!()`. -/
  | inactiveState
  /-- `NonNull::new(msgp).unwrap()`. -/
  | nullMessage
  /-- `NonZeroU32::new(e).unwrap()`. -/
  | zeroCode
deriving DecidableEq, Repr

/-- `AioResult`. -/
inductive AioResult (M : Type)
  | Send (result : Except (Message M × Error) Unit)
  | Recv (result : Except Error (Message M))
  | Sleep (result : Except Error Unit)
deriving DecidableEq

/-- The calls that start an operation. -/
inductive Call (M : Type)
  | sendSocket (msg : Message M)
  | sendCtx (msg : Message M)
  | recvSocket
  | recvCtx
  | sleep (dur : Duration)
deriving DecidableEq, Repr

/-- The library calls that start an operation. -/
inductive NativeCall
  | nng_socket_send
  | nng_ctx_send
  | nng_socket_recv
  | nng_ctx_recv
  | nng_sleep_aio (ms : Int)
deriving DecidableEq, Repr

/-- What a method of `Aio` returns. -/
inductive Returned (M : Type)
  | sendResult (result : Except (Message M × Error) Unit)
  | result (result : Except Error Unit)
deriving DecidableEq

/-- What the library did with an operation; `stale` when it left the sent message in the slot. -/
inductive Outcome (M : Type)
  | sent (stale : Bool)
  | received (msg : M)
  | slept
  | failed (code : NonZeroU32)
deriving DecidableEq

/-- How far an accepted call is. -/
inductive Stage (M : Type)
  /-- The call has won its `compare_exchange`. -/
  | accepted
  /-- `nng_aio_set_msg` has run. -/
  | armed
  /-- The library has the operation, and the call has returned. -/
  | pending
  /-- The operation is finished, its callback not yet run. -/
  | completed
  /-- The trampoline runs. -/
  | entered
  /-- `weak.upgrade()` was `Some`. -/
  | upgraded
  /-- The state word is read. -/
  | loaded (state : AioState)
  /-- `nng_aio_result` is read. -/
  | resulted (state : AioState) (rv : NngErr)
  /-- The `AioResult` is built. -/
  | judged (res : AioResult M)
  /-- `Inactive` is stored. -/
  | cleared (res : AioResult M)
  /-- The user's closure runs. -/
  | user
  /-- `weak.upgrade()` was `None`. -/
  | refused
  /-- The trampoline has returned. -/
  | returned
deriving DecidableEq

/-- An accepted call: what the library did with it and what the closure was called with, so far. -/
structure Flight (M : Type) where
  call : Call M
  outcome : Option (Outcome M)
  answer : Option (AioResult M)
  stage : Stage M
deriving DecidableEq

/-- Where the shared `Inner` is in its life. -/
inductive Life
  | alive
  /-- `Inner::drop` is in `nng_aio_stop`, on a thread of its own or in the closure of a flight. -/
  | stopping (closure : Option Nat)
  /-- `nng_aio_free` and `Box::from_raw` have run. -/
  | freed
  /-- A panic crossed the trampoline. -/
  | aborted
deriving DecidableEq, Repr

/-- A shared `Inner`, its `nng_aio`, and what all threads are doing to it. -/
structure Aio (M : Type) where
  /-- `Inner::state`. -/
  word : Nat
  /-- `nng_aio_get_msg`. -/
  msg : Option M
  /-- `nng_aio_result`. -/
  result : NngErr
  /-- `nng_aio_set_timeout`. -/
  timeout : Int
  locks : List Int
  flights : List (Flight M)
  pool : Nat
  life : Life
deriving DecidableEq

inductive AioEvent (M : Type)
  /-- The word has accepted a call, as the flight with this number. -/
  | accepted (flight : Nat) (call : Call M)
  | started (flight : Nat) (call : NativeCall)
  | returned (result : Returned M)
  | timeoutSet (ms : Int)
  | completed (flight : Nat) (outcome : Outcome M)
  /-- The library has taken over the message of a flight. -/
  | consumed (flight : Nat) (msg : M)
  /-- The user's closure is called for a flight. -/
  | invoked (flight : Nat) (result : AioResult M)
  | panicked (panic : AioPanic)
deriving DecidableEq

inductive AioAction (M : Type)
  | call (call : Call M)
  | setTimeout (dur : Option Duration)
  /-- The rest of `set_timeout`. -/
  | storeTimeout (lock : Nat)
  | cancel
  /-- `wait` returns. -/
  | wait
  | clone
  /-- Drop a handle, on a thread of its own or in the closure of a flight. -/
  | dropHandle (closure : Option Nat)
  /-- The thread of a flight goes on. -/
  | advance (flight : Nat)
  /-- The library finishes an operation. -/
  | complete (flight : Nat) (outcome : Outcome M)
  /-- The library calls the trampoline. -/
  | callback (flight : Nat)
  /-- `nng_aio_stop` returns. -/
  | stop
deriving DecidableEq

section Model

variable {M : Type}

/-! ### The calls -/

namespace Call

/-- The state the call's `compare_exchange` stores. -/
def state : Call M → AioState
  | sendSocket _ | sendCtx _ => .Sending
  | recvSocket | recvCtx => .Receiving
  | sleep _ => .Sleeping

/-- The message the call passes to `nng_aio_set_msg`. -/
def message : Call M → Option (Message M)
  | sendSocket msg | sendCtx msg => some msg
  | recvSocket | recvCtx | sleep _ => none

/-- The library call. -/
def native : Call M → NativeCall
  | sendSocket _ => .nng_socket_send
  | sendCtx _ => .nng_ctx_send
  | recvSocket => .nng_socket_recv
  | recvCtx => .nng_ctx_recv
  | sleep dur => .nng_sleep_aio (durationToNng (some dur))

/-- What the call returns at its end. -/
def ok : Call M → Returned M
  | sendSocket _ | sendCtx _ => .sendResult (.ok ())
  | recvSocket | recvCtx | sleep _ => .result (.ok ())

/-- What the call returns when its `compare_exchange` fails. -/
def incorrectState : Call M → Returned M
  | sendSocket msg | sendCtx msg => .sendResult (.error (msg, .IncorrectState))
  | recvSocket | recvCtx | sleep _ => .result (.error .IncorrectState)

end Call

/-! ### The stages of a flight -/

namespace Stage

/-- The flight has the state word: from its `compare_exchange` until the store of `Inactive`. -/
def holdsWord : Stage M → Bool
  | accepted | armed | pending | completed | entered | upgraded | loaded _ | resulted _ _
  | judged _ => true
  | cleared _ | user | refused | returned => false

/-- The call is still running on a handle it borrows. -/
def borrows : Stage M → Bool
  | accepted | armed => true
  | _ => false

/-- The invocation holds the `Arc` it upgraded to. -/
def holdsArc : Stage M → Bool
  | upgraded | loaded _ | resulted _ _ | judged _ | cleared _ => true
  | _ => false

/-- The trampoline is on the stack. -/
def onStack : Stage M → Bool
  | entered | upgraded | loaded _ | resulted _ _ | judged _ | cleared _ | user | refused => true
  | _ => false

/-- The user's closure runs. -/
def isUser : Stage M → Bool
  | user => true
  | _ => false

/-- The library has the operation, or its callback is due. -/
def inLibrary : Stage M → Bool
  | pending | completed => true
  | _ => false

end Stage

namespace Aio

/-- `Arc::strong_count`. -/
def strong (a : Aio M) : Nat := a.pool + a.flights.countP fun f => f.stage.holdsArc

/-- Some call is running on a handle. -/
def borrowed (a : Aio M) : Bool := !a.locks.isEmpty || a.flights.any fun f => f.stage.borrows

/-- No operation is in the library and no invocation on a stack: what `nng_aio_wait` and
`nng_aio_stop` wait for. -/
def quiet (a : Aio M) : Bool :=
  a.flights.all fun f => !f.stage.inLibrary && !f.stage.onStack

/-- A flight at another point. -/
def put (a : Aio M) (k : Nat) (f : Flight M) : Aio M := { a with flights := a.flights.set k f }

/-- Whether the closure that a handle is dropped in is running. -/
def runs (a : Aio M) : Option Nat → Bool
  | none => true
  | some k => a.flights[k]?.any fun f => f.stage.isUser

/-- What `Aio::new` returns when `nng_aio_alloc` succeeded: one handle. -/
def fresh : Aio M where
  word := AioState.Inactive.asUsize
  msg := none
  result := NNG_OK
  timeout := NNG_DURATION_INFINITE
  locks := []
  flights := []
  pool := 1
  life := .alive

/-- `Aio::new`, when `nng_aio_alloc` returned `rv` and perhaps allocated; `none` is its panic. -/
def new (rv : NngErr) (allocated : Bool) : Option (Except Error (Aio M)) :=
  if rv ≠ 0 ∧ allocated = true then some (.error (.Unknown 0))
  else if nonzero : rv ≠ 0 then some (.error (.fromCode ⟨rv, nonzero⟩))
  else if allocated = true then some (.ok fresh)
  else none

theorem new_eq_ok {rv : NngErr} {allocated : Bool} {a : Aio M} :
    new rv allocated = some (.ok a) ↔ rv = NNG_OK ∧ allocated = true ∧ a = fresh := by
  unfold new NNG_OK
  by_cases ok : rv = 0
  · cases allocated <;> simp [ok, eq_comm]
  · cases allocated <;> simp [ok]

/-- `compare_exchange(inactive, new)` on the state word. -/
def compareExchange (a : Aio M) (new : AioState) : Option (Aio M) :=
  if a.word = AioState.Inactive.asUsize then some { a with word := new.asUsize } else none

/-- `send_socket`, `send_ctx`, `recv_socket`, `recv_ctx` and `sleep`, up to the `compare_exchange`. -/
def call (a : Aio M) (c : Call M) : Aio M × List (AioEvent M) :=
  match a.compareExchange c.state with
  | some a' =>
    ({ a' with flights := a'.flights ++ [⟨c, none, none, .accepted⟩] },
      [.accepted a.flights.length c])
  | none => (a, [.returned c.incorrectState])

/-- `set_timeout`, up to the `compare_exchange`. -/
def setTimeout (a : Aio M) (dur : Option Duration) : Aio M × List (AioEvent M) :=
  match a.compareExchange .Sleeping with
  | some a' => ({ a' with locks := durationToNng dur :: a'.locks }, [])
  | none => (a, [.returned (.result (.error .IncorrectState))])

/-- The rest of `set_timeout`: `nng_aio_set_timeout`, then the store. -/
def storeTimeout (a : Aio M) (lock : Nat) (ms : Int) : Aio M × List (AioEvent M) :=
  ({ a with timeout := ms, word := AioState.Inactive.asUsize, locks := a.locks.eraseIdx lock },
    [.timeoutSet ms, .returned (.result (.ok ()))])

/-- Dropping a handle: the last `Arc` runs `Inner::drop`. -/
def dropHandle (a : Aio M) (closure : Option Nat) : Aio M :=
  if a.strong = 1 then { a with pool := a.pool - 1, life := .stopping closure }
  else { a with pool := a.pool - 1 }

/-- The library call at the end of a method, which then returns. -/
def start (a : Aio M) (k : Nat) (f : Flight M) : Aio M × List (AioEvent M) :=
  (a.put k { f with stage := .pending }, [.started k f.call.native, .returned f.call.ok])

/-- `NonZeroU32::new`. -/
def nonZero (e : NngErr) : Option NonZeroU32 := if nonzero : e ≠ 0 then some ⟨e, nonzero⟩ else none

/-- The match of the bounce closure on the state and the result, with `nng_aio_get_msg`. -/
def bounceResult (slot : Option M) : AioState → NngErr → Except AioPanic (AioResult M)
  | .Sending, rv =>
    if rv = 0 then .ok (.Send (.ok ()))
    else
      match slot, nonZero rv with
      | none, _ => .error .nullMessage
      | some _, none => .error .zeroCode
      | some msgp, some e => .ok (.Send (.error (.fromPtr msgp, .fromCode e)))
  | .Receiving, rv =>
    if rv = 0 then
      match slot with
      | none => .error .nullMessage
      | some msgp => .ok (.Recv (.ok (.fromPtr msgp)))
    else
      match nonZero rv with
      | none => .error .zeroCode
      | some e => .ok (.Recv (.error (.fromCode e)))
  | .Sleeping, rv =>
    if rv = 0 then .ok (.Sleep (.ok ()))
    else
      match nonZero rv with
      | none => .error .zeroCode
      | some e => .ok (.Sleep (.error (.fromCode e)))
  | .Inactive, _ => .error .inactiveState

/-- `abort_unwind`. -/
def abort (a : Aio M) (panic : AioPanic) : Aio M × List (AioEvent M) :=
  ({ a with life := .aborted }, [.panicked panic])

/-- The thread of a flight goes on: the rest of the call, the bounce closure, its return. -/
def advance (a : Aio M) (k : Nat) (f : Flight M) : Option (Aio M × List (AioEvent M)) :=
  match f.stage with
  | .accepted =>
    match f.call.message with
    | some msg => some ({ a with msg := some msg.intoPtr }.put k { f with stage := .armed }, [])
    | none => some (a.start k f)
  | .armed => some (a.start k f)
  | .entered =>
    if a.strong = 0 then some (a.put k { f with stage := .refused }, [])
    else some (a.put k { f with stage := .upgraded }, [])
  | .upgraded =>
    match AioState.fromUsize a.word with
    | some state => some (a.put k { f with stage := .loaded state }, [])
    | none => some (a.abort .unknownState)
  | .loaded state => some (a.put k { f with stage := .resulted state a.result }, [])
  | .resulted state rv =>
    match bounceResult a.msg state rv with
    | .ok res => some (a.put k { f with stage := .judged res }, [])
    | .error panic => some (a.abort panic)
  | .judged res =>
    some ({ a with word := AioState.Inactive.asUsize }.put k { f with stage := .cleared res }, [])
  | .cleared res =>
    -- the handle passes to the closure
    some ({ a with pool := a.pool + 1 }.put k { f with stage := .user, answer := some res },
      [.invoked k res])
  | .user =>
    -- the closure that runs `Inner::drop` waits for itself
    if a.life = .stopping (some k) then none else some (a.put k { f with stage := .returned }, [])
  | .refused => some (a.put k { f with stage := .returned }, [])
  | .pending | .completed | .returned => none

/-- The library finishes an operation. A failed one leaves the slot alone. -/
def complete (a : Aio M) (k : Nat) (f : Flight M) (outcome : Outcome M) :
    Option (Aio M × List (AioEvent M)) :=
  let f' := { f with stage := .completed, outcome := some outcome }
  match f.stage, outcome, f.call.state with
  | .pending, .sent stale, .Sending =>
    match a.msg with
    | some msg =>
      some ({ a with msg := if stale then some msg else none, result := NNG_OK }.put k f',
        [.completed k outcome, .consumed k msg])
    | none => none
  | .pending, .received msg, .Receiving =>
    some ({ a with msg := some msg, result := NNG_OK }.put k f', [.completed k outcome])
  | .pending, .slept, .Sleeping =>
    some ({ a with result := NNG_OK }.put k f', [.completed k outcome])
  | .pending, .failed code, _ =>
    some ({ a with result := code.val }.put k f', [.completed k outcome])
  | _, _, _ => none

/-- The library calls the trampoline of a finished operation. -/
def callback (a : Aio M) (k : Nat) (f : Flight M) : Option (Aio M × List (AioEvent M)) :=
  match f.stage with
  | .completed => some (a.put k { f with stage := .entered }, [])
  | _ => none

/-- What one step does while the process and the `Inner` are there. -/
def act (a : Aio M) : AioAction M → Option (Aio M × List (AioEvent M))
  | .call c => if 0 < a.pool then some (a.call c) else none
  | .setTimeout dur => if 0 < a.pool then some (a.setTimeout dur) else none
  | .storeTimeout lock =>
    match a.locks[lock]? with
    | some ms => some (a.storeTimeout lock ms)
    | none => none
  -- the failure it asks for is a `complete`
  | .cancel => if 0 < a.pool then some (a, []) else none
  | .wait => if 0 < a.pool ∧ a.quiet = true then some (a, []) else none
  | .clone => if 0 < a.pool then some ({ a with pool := a.pool + 1 }, []) else none
  | .dropHandle closure =>
    -- a closure drops while it runs, and a borrowed handle is not dropped
    if 0 < a.pool ∧ (a.pool = 1 → a.borrowed = false) ∧ a.runs closure = true then
      some (a.dropHandle closure, [])
    else none
  | .advance k =>
    match a.flights[k]? with
    | some f => a.advance k f
    | none => none
  | .complete k outcome =>
    match a.flights[k]? with
    | some f => a.complete k f outcome
    | none => none
  | .callback k =>
    match a.flights[k]? with
    | some f => a.callback k f
    | none => none
  | .stop =>
    -- `nng_aio_stop` waits, then `nng_aio_free` and `Box::from_raw`
    match a.life with
    | .stopping _ => if a.quiet = true then some ({ a with life := .freed }, []) else none
    | _ => none

def step (a : Aio M) (action : AioAction M) : Option (Aio M × List (AioEvent M)) :=
  if a.life = .freed ∨ a.life = .aborted then none else a.act action

/-- An `Aio` from its `new` on. -/
def machine (M : Type) : EventMachine (Aio M) (AioAction M) (AioEvent M) where
  start := fresh
  step := step

end Aio

end Model

end NngRs.Nng
