/-
**Sending and receiving on a `Socket` or a `Context`, as a machine.**

`Socket` and `Context` carry the same three operations twice, over an `Aio` and a `recovered_msg`
slot; `Handle` tells the copies apart (which library calls they make). `send_msg` and `recv_msg` are
futures: they borrow the handle mutably, so at most one is live, and it is polled any number of times
and then completed or dropped. The machine interleaves

* the caller: creating a future, polling it, dropping it, `try_recv_msg`, dropping the handle;
* the polling thread inside one poll or one drop (`Action.run`), cut at every point where another
  thread can act: the first poll of the `Notified` future, the return of `nng_aio_wait` (enabled only
  once the callback has returned), `nng_aio_cancel`;
* the library: completing the started operation, running the callback, returning from it.

What is assumed of the library is in `complete`, `callback` and `callbackReturn`: a started operation
completes once; a successful send takes the message and clears the slot or leaves a stale pointer, a
failed one leaves it; a successful receive sets a message, a failed one sets none; the callback runs
once, after completion. Cancelling only asks: the operation may still complete either way.

An awaited future is dropped inside out: the `Notified` future first, then the guard of `wait`, then
the guard of `recv_msg`. Events record what crosses the boundary to the caller and to the library.
-/

import NngRs.Anng.Aio
import NngRs.Machine.Run

namespace NngRs.Anng

open NngRs.Sys

/-- Which of the two near-identical handles. -/
inductive Handle
  | Socket
  | Context
deriving DecidableEq, Repr

/-- The library calls that start an operation or receive without waiting. -/
inductive NngCall
  | nng_socket_send
  | nng_socket_recv
  | nng_recvmsg
  | nng_ctx_send
  | nng_ctx_recv
  | nng_ctx_recvmsg
deriving DecidableEq, Repr

namespace Handle

/-- The call that starts an operation. -/
def startCall : Handle → ImplicationOnMessage → NngCall
  | .Socket, .Sent => .nng_socket_send
  | .Socket, .Received => .nng_socket_recv
  | .Context, .Sent => .nng_ctx_send
  | .Context, .Received => .nng_ctx_recv

/-- The call of `try_recv_msg`. -/
def recvmsgCall : Handle → NngCall
  | .Socket => .nng_recvmsg
  | .Context => .nng_ctx_recvmsg

end Handle

/-- The aio of a `Socket` or `ContextfulSocket`, and its `recovered_msg`. -/
structure Endpoint (M : Type) where
  aio : Aio M
  recoveredMsg : Option (Message M)
deriving DecidableEq, Repr

/-- What `nng_recvmsg` returned: the error number, and the message its out-parameter points to. -/
structure Recvmsg (M : Type) where
  errno : Int
  msg : Option M
deriving DecidableEq, Repr

/-- How the library finishes an operation. -/
inductive Completion (M : Type)
  /-- A send succeeded: the library took the message, and left a stale pointer or none. -/
  | sent (stale : Bool)
  /-- A receive succeeded with a message. -/
  | received (msg : M)
  /-- The operation failed. -/
  | failed (err : NonZeroU32)
deriving DecidableEq, Repr

/-- Where a future that started an operation is. -/
inductive WaitPoint
  /-- In a poll, before the first poll of the `Notified` future. -/
  | polling
  /-- Between polls. -/
  | suspended
  /-- In a poll, past the `Notified` future, in `nng_aio_wait`. -/
  | woken
  /-- In a drop, before `nng_aio_cancel`. -/
  | dropping
  /-- In a drop, in `nng_aio_wait`. -/
  | cancelled
deriving DecidableEq, Repr

/-- The live future of a handle. `waiting .Sent` is a `send_msg`, `waiting .Received` a `recv_msg`. -/
inductive Future (M : Type)
  | none
  | sendNew (message : Message M)
  | recvNew
  | waiting (implication : ImplicationOnMessage) (point : WaitPoint)
deriving DecidableEq, Repr

/-- What the caller and the library see. -/
inductive Event (M : Type)
  /-- A call handed the aio to the library. -/
  | started (call : NngCall)
  /-- A call asked the library without waiting. -/
  | called (call : NngCall)
  /-- The library took the message of a successful send. -/
  | consumed (msg : M)
  /-- The library handed over a message. -/
  | delivered (msg : M)
  /-- `nng_msg_free`. -/
  | freed (msg : M)
  /-- A `send_msg` future resolved. -/
  | sendReturned (result : Except (AioError × Message M) Unit)
  /-- A `recv_msg` future resolved. -/
  | recvReturned (result : Except AioError (Message M))
  /-- `try_recv_msg` returned. -/
  | tryRecvReturned (result : Except AioError (Option (Message M)))
  /-- A drop of a live future ended. -/
  | cancelled
  | panicked (panic : Panic)
deriving DecidableEq

/-- Whether the handle can still be used. -/
inductive Status
  | live
  | closed
  | poisoned
deriving DecidableEq, Repr

structure State (M : Type) where
  endpoint : Endpoint M
  future : Future M
  status : Status
deriving DecidableEq, Repr

inductive Action (M : Type)
  /-- Call `send_msg`: creates the future. -/
  | sendMsg (message : Message M)
  /-- Call `recv_msg`: creates the future. -/
  | recvMsg
  /-- Call `try_recv_msg`; the library call, if it is made, returns this. -/
  | tryRecvMsg (returned : Recvmsg M)
  /-- Poll the live future. -/
  | poll
  /-- The polling or dropping thread goes on. -/
  | run
  /-- Drop the live future. -/
  | drop
  /-- Drop the `Socket` or `ContextfulSocket`. -/
  | close
  /-- The library completes the operation. -/
  | complete (completion : Completion M)
  /-- The library runs the callback. -/
  | callback
  /-- The callback returns. -/
  | callbackReturn
deriving DecidableEq, Repr

section Steps

variable {M : Type}

/-- The freed messages of a dropped `Option<Message>`. -/
def dropped (message : Option (Message M)) : List (Event M) :=
  match message with
  | some m => [.freed m.inner]
  | none => []

@[simp] theorem dropped_none : dropped (none : Option (Message M)) = [] := rfl

@[simp] theorem dropped_some (m : Message M) : dropped (some m) = [.freed m.inner] := rfl

/-- Unwinding out of a future: it is gone, and the handle is left as it is. -/
def State.panic (s : State M) (p : Panic) : State M × List (Event M) :=
  ({ s with status := .poisoned }, [.panicked p])

/-- The error arms of `try_recv_msg`, `errno` not zero. -/
def recvmsgError (errno : UInt32) : Except Panic (Except AioError (Option (Message M))) :=
  if errno = ErrorCode.EAGAIN.value then .ok (.ok none)
  else if errno = ErrorCode.ECLOSED.value then .error .recvmsgClosed
  else if errno = ErrorCode.EINVAL.value then .error .recvmsgInvalidFlags
  else if errno = ErrorCode.ENOMEM.value then .error .outOfMemory
  else if errno = ErrorCode.ENOTSUP.value then .ok (.error (.Operation (.NngError .ENOTSUP)))
  else if errno = ErrorCode.ESTATE.value then .ok (.error (.Operation (.NngError .ESTATE)))
  else if errno = ErrorCode.ETIMEDOUT.value then .ok (.error .TimedOut)
  else .error (.recvmsgUndocumented errno)

/-- What `try_recv_msg` makes of the library's answer. -/
def recvmsgResult (returned : Recvmsg M) : Except Panic (Except AioError (Option (Message M))) :=
  if returned.errno < 0 then .error .negativeErrno
  else if returned.errno = 0 then
    match returned.msg with
    | some msg => .ok (.ok (some (.fromRawUnchecked msg)))
    | none => .error .recvmsgNullPointer
  else recvmsgError (UInt32.ofNat returned.errno.toNat)

/-- The message a `nng_recvmsg` call hands over. -/
def Recvmsg.handedOver (returned : Recvmsg M) : List (Event M) :=
  match returned.msg with
  | some msg => if returned.errno = 0 then [.delivered msg] else []
  | none => []

/-- `try_recv_msg`. -/
def tryRecvMsg (h : Handle) (s : State M) (returned : Recvmsg M) : State M × List (Event M) :=
  match s.endpoint.recoveredMsg with
  | some msg =>
    ({ s with endpoint := { s.endpoint with recoveredMsg := none } },
      [.tryRecvReturned (.ok (some msg))])
  | none =>
    match recvmsgResult returned with
    | .error p => (s, .called h.recvmsgCall :: returned.handedOver ++ [.panicked p])
    | .ok result => (s, .called h.recvmsgCall :: returned.handedOver ++ [.tryRecvReturned result])

/-- The first poll of `send_msg`, to the first poll of its `Notified` future. The message that
`set_message` returns is dropped. -/
def sendStart (h : Handle) (s : State M) (message : Message M) : State M × List (Event M) :=
  match s.endpoint.aio.setMessage message with
  | .error p => s.panic p
  | .ok (previous, aio) =>
    ({ s with
        endpoint := { s.endpoint with aio := aio.start .Sent }
        future := .waiting .Sent .polling },
      dropped previous ++ [.started (h.startCall .Sent)])

/-- The first poll of `recv_msg`, to its end or the first poll of its `Notified` future. -/
def recvStart (h : Handle) (s : State M) : State M × List (Event M) :=
  match s.endpoint.recoveredMsg with
  | some msg =>
    ({ s with endpoint := { s.endpoint with recoveredMsg := none }, future := .none },
      [.recvReturned (.ok msg)])
  | none =>
    ({ s with
        endpoint := { s.endpoint with aio := s.endpoint.aio.start .Received }
        future := .waiting .Received .polling },
      [.started (h.startCall .Received)])

/-- The rest of `send_msg` once `nng_aio_wait` has returned in `wait`. -/
def sendFinish (s : State M) : State M × List (Event M) :=
  match s.endpoint.aio.waitResult .Sent with
  | .error p => s.panic p
  | .ok (.ok (), aio) =>
    ({ s with endpoint := { s.endpoint with aio }, future := .none }, [.sendReturned (.ok ())])
  | .ok (.error e, aio) =>
    match aio.takeMessage with
    | .error p => s.panic p
    | .ok (none, _) => s.panic .sendMessageMissing
    | .ok (some msg, aio) =>
      ({ s with endpoint := { s.endpoint with aio }, future := .none },
        [.sendReturned (.error (e, msg))])

/-- The rest of `recv_msg` once `nng_aio_wait` has returned in `wait`. -/
def recvFinish (s : State M) : State M × List (Event M) :=
  match s.endpoint.aio.waitResult .Received with
  | .error p => s.panic p
  | .ok (.error e, aio) =>
    ({ s with endpoint := { s.endpoint with aio }, future := .none }, [.recvReturned (.error e)])
  | .ok (.ok (), aio) =>
    match aio.takeMessage with
    | .error p => s.panic p
    | .ok (none, _) => s.panic .recvMessageMissing
    | .ok (some msg, aio) =>
      ({ s with endpoint := { s.endpoint with aio }, future := .none },
        [.recvReturned (.ok msg)])

/-- The rest of a dropped `send_msg` once `nng_aio_wait` has returned in the guard of `wait`. -/
def sendDropped (s : State M) : State M × List (Event M) :=
  match s.endpoint.aio.guardDrop with
  | .error p => s.panic p
  | .ok (msg, aio) =>
    ({ s with endpoint := { s.endpoint with aio }, future := .none }, dropped msg ++ [.cancelled])

/-- The rest of a dropped `recv_msg` once `nng_aio_wait` has returned in the guard of `wait`: that
guard, then the guard of `recv_msg`. A message the slot held before is dropped by the assignment. -/
def recvDropped (s : State M) : State M × List (Event M) :=
  match s.endpoint.aio.guardDrop with
  | .error p => s.panic p
  | .ok (msg, aio) =>
    match aio.takeMessage with
    | .error p => s.panic p
    | .ok (none, aio) =>
      ({ s with endpoint := { s.endpoint with aio }, future := .none },
        dropped msg ++ [.cancelled])
    | .ok (some received, aio) =>
      ({ s with endpoint := { aio, recoveredMsg := some received }, future := .none },
        dropped msg ++ dropped s.endpoint.recoveredMsg ++ [.cancelled])

/-- The state with the aio's notification and the future's point changed. -/
def State.moveTo (s : State M) (implication : ImplicationOnMessage) (notify : Notify)
    (point : WaitPoint) : State M :=
  { s with
    endpoint := { s.endpoint with aio := { s.endpoint.aio with notify } }
    future := .waiting implication point }

/-- One poll of the live future. -/
def poll (h : Handle) (s : State M) : Option (State M × List (Event M)) :=
  match s.future with
  | .sendNew message => some (sendStart h s message)
  | .recvNew => some (recvStart h s)
  | .waiting implication .suspended =>
    match s.endpoint.aio.notify.pollWaiting with
    | (true, notify) => some (s.moveTo implication notify .woken, [])
    | (false, notify) => some (s.moveTo implication notify .suspended, [])
  | _ => none

/-- The polling or dropping thread goes on. `nng_aio_wait` returns only when the aio is not busy. -/
def run (s : State M) : Option (State M × List (Event M)) :=
  match s.future with
  | .waiting implication .polling =>
    match s.endpoint.aio.notify.pollNew with
    | (true, notify) => some (s.moveTo implication notify .woken, [])
    | (false, notify) => some (s.moveTo implication notify .suspended, [])
  | .waiting implication .woken =>
    if s.endpoint.aio.aio.busy then none
    else match implication with
      | .Sent => some (sendFinish s)
      | .Received => some (recvFinish s)
  | .waiting implication .dropping => some ({ s with future := .waiting implication .cancelled }, [])
  | .waiting implication .cancelled =>
    if s.endpoint.aio.aio.busy then none
    else match implication with
      | .Sent => some (sendDropped s)
      | .Received => some (recvDropped s)
  | _ => none

/-- Dropping the live future, to the `nng_aio_cancel` of its guard. -/
def drop (s : State M) : Option (State M × List (Event M)) :=
  match s.future with
  | .sendNew message => some ({ s with future := .none }, [.freed message.inner, .cancelled])
  | .recvNew => some ({ s with future := .none }, [.cancelled])
  | .waiting implication .suspended =>
    some (s.moveTo implication s.endpoint.aio.notify.dropWaiting .dropping, [])
  | _ => none

/-- The state with the library's aio changed. -/
def State.withNng (s : State M) (aio : NngAio M) : State M :=
  { s with endpoint := { s.endpoint with aio := { s.endpoint.aio with aio } } }

/-- The library completes the operation. -/
def complete (s : State M) (completion : Completion M) : Option (State M × List (Event M)) :=
  match s.endpoint.aio.aio.stage, completion with
  | .pending .Sent, .sent stale =>
    match s.endpoint.aio.aio.msg with
    | some msg =>
      some (s.withNng ⟨if stale then some msg else none, NNG_OK, .completed⟩, [.consumed msg])
    | none => none
  | .pending .Received, .received msg =>
    some (s.withNng ⟨some msg, NNG_OK, .completed⟩, [.delivered msg])
  | .pending _, .failed err =>
    some (s.withNng ⟨s.endpoint.aio.aio.msg, err.val, .completed⟩, [])
  | _, _ => none

/-- The callback runs up to and including `notify_one`. -/
def callback (s : State M) : Option (State M × List (Event M)) :=
  match s.endpoint.aio.aio.stage with
  | .completed =>
    let s := s.withNng { s.endpoint.aio.aio with stage := .notified }
    some ({ s with endpoint := { s.endpoint with aio := s.endpoint.aio.notifyOnCall } }, [])
  | _ => none

/-- The callback returns. -/
def callbackReturn (s : State M) : Option (State M × List (Event M)) :=
  match s.endpoint.aio.aio.stage with
  | .notified => some (s.withNng { s.endpoint.aio.aio with stage := .idle }, [])
  | _ => none

/-- The caller calls a method, which needs the handle unborrowed. -/
def call (s : State M) (after : State M × List (Event M)) : Option (State M × List (Event M)) :=
  match s.future with
  | .none => some after
  | _ => none

def stepLive (h : Handle) (s : State M) : Action M → Option (State M × List (Event M))
  | .sendMsg message => call s ({ s with future := .sendNew message }, [])
  | .recvMsg => call s ({ s with future := .recvNew }, [])
  | .tryRecvMsg returned => call s (tryRecvMsg h s returned)
  | .close =>
    call s ({ s with
        endpoint := { s.endpoint with recoveredMsg := none }
        status := .closed },
      dropped s.endpoint.recoveredMsg)
  | .poll => poll h s
  | .run => run s
  | .drop => drop s
  | .complete completion => complete s completion
  | .callback => callback s
  | .callbackReturn => callbackReturn s

/-- One step; a closed or poisoned handle takes none. -/
def step (h : Handle) (s : State M) (a : Action M) : Option (State M × List (Event M)) :=
  if s.status = .live then stepLive h s a else none

end Steps

/-- The machine of one handle, from its creation on. -/
def machine (M : Type) (h : Handle) : EventMachine (State M) (Action M) (Event M) where
  start := { endpoint := { aio := .new, recoveredMsg := none }, future := .none, status := .live }
  step := step h

end NngRs.Anng
