/-
**The asynchronous I/O handle of `anng`: `Aio`, its `wait` and the cancellation guard.**

`NngAio` is what the library keeps behind the pointer: the message slot, the result of the last
operation, and how far the current operation is. The library finishes an operation in three moves
that other threads can see apart: the result and the message are set (`completed`), the callback
calls `notify_one` (`notified`), the callback returns (`idle`). `nng_aio_busy` is true until the last
one, and `nng_aio_wait` returns only then.

`Aio` adds the wrapper's fields. The functions are the source's, cut where another thread can
act: `wait` is the poll of its `Notified` future, left to the callers' state machine, followed by
`waitResult` once `nng_aio_wait` has returned; `CancellationGuard::drop` is `nng_aio_cancel` and
`nng_aio_wait`, followed by `guardDrop`. Debug assertions, `unreachable!` and `expect` are the
`Panic` outcome.
-/

import NngRs.Anng.Message
import NngRs.Runtime.Notify
import NngRs.Sys.ErrorKind

namespace NngRs.Anng

open NngRs.Sys

/-- Where the modelled code panics. -/
inductive Panic
  /-- `debug_assert!(!nng_aio_busy)` in `set_message`. -/
  | setMessageBusy
  /-- `debug_assert_eq!(nng_aio_get_msg, null)` in `set_message`. -/
  | setMessageNotNull
  /-- `debug_assert!(!nng_aio_busy)` in `take_message`. -/
  | takeMessageBusy
  /-- "aio shouldn't be busy after wait" -/
  | busyAfterWait
  /-- `debug_assert!(!nng_aio_busy)` in the cancellation guard. -/
  | busyAfterCancel
  /-- "cancel guarantees that callback will be fired" -/
  | callbackNotFired
  /-- "we set the message, so it should still be there" -/
  | sendMessageMissing
  /-- "we executed a successful receive, so there should be a message" -/
  | recvMessageMissing
  /-- "error codes are non-zero" -/
  | zeroErrorCode
  /-- "errno is never negative" -/
  | negativeErrno
  /-- "successful nng_recvmsg initializes pointer", and the same of `nng_ctx_recvmsg`. -/
  | recvmsgNullPointer
  /-- "socket is still open since we have a reference to it" -/
  | recvmsgClosed
  /-- "flags are valid for the call" -/
  | recvmsgInvalidFlags
  /-- "OOM" -/
  | outOfMemory
  /-- "nng_recvmsg documentation claims errno {errno} is never returned", and the same of
  `nng_ctx_recvmsg`. -/
  | recvmsgUndocumented (errno : UInt32)
deriving DecidableEq, Repr

/-- `AioError`. -/
inductive AioError
  | TimedOut
  | Cancelled
  | Operation (kind : ErrorKind)
deriving DecidableEq, Repr

inductive ImplicationOnMessage
  | Sent
  | Received
deriving DecidableEq, Repr

/-- How far the operation on an `nng_aio` is. -/
inductive Stage
  | idle
  | pending (operation : ImplicationOnMessage)
  | completed
  | notified
deriving DecidableEq, Repr

/-- `nng_aio`: `nng_aio_get_msg`, `nng_aio_result` and the operation. -/
structure NngAio (M : Type) where
  msg : Option M
  result : NngErr
  stage : Stage
deriving DecidableEq, Repr

/-- `Aio { aio, notify, msg_was_set }`. -/
structure Aio (M : Type) where
  aio : NngAio M
  notify : Notify
  msgWasSet : Bool
deriving DecidableEq, Repr

namespace NngAio

variable {M : Type}

/-- `nng_aio_busy`. -/
def busy (aio : NngAio M) : Bool := aio.stage != .idle

/-- `nng_aio_set_msg`. -/
def setMsg (aio : NngAio M) (msg : Option M) : NngAio M := { aio with msg }

theorem busy_eq_false {aio : NngAio M} : aio.busy = false ↔ aio.stage = .idle := by
  simp [busy]

end NngAio

namespace Aio

variable {M : Type}

/-- `Aio::new`. -/
def new : Aio M := { aio := ⟨none, NNG_OK, .idle⟩, notify := .new, msgWasSet := false }

/-- A starting call (`nng_socket_send`, `nng_ctx_recv`, ...) hands the aio to the library. -/
def start (self : Aio M) (operation : ImplicationOnMessage) : Aio M :=
  { self with aio := { self.aio with stage := .pending operation } }

/-- `notify_on_call`, the completion callback. -/
def notifyOnCall (self : Aio M) : Aio M := { self with notify := self.notify.notifyOne }

/-- `Aio::set_message`: the previously set message, if any, and the handle. -/
def setMessage (self : Aio M) (msg : Message M) : Except Panic (Option (Message M) × Aio M) :=
  if self.aio.busy then .error .setMessageBusy
  else if self.msgWasSet then
    .ok (self.aio.msg.map .fromRawUnchecked,
      { self with aio := self.aio.setMsg (some msg.intoPtr), msgWasSet := true })
  else if self.aio.msg.isSome then .error .setMessageNotNull
  else .ok (none, { self with aio := self.aio.setMsg (some msg.intoPtr), msgWasSet := true })

/-- `Aio::take_message`. With no message in the aio it returns before it touches `msg_was_set`. -/
def takeMessage (self : Aio M) : Except Panic (Option (Message M) × Aio M) :=
  if self.aio.busy then .error .takeMessageBusy
  else
    match self.aio.msg with
    | none => .ok (none, self)
    | some msg =>
      .ok (some (.fromRawUnchecked msg),
        { self with aio := self.aio.setMsg none, msgWasSet := false })

/-- The error arms of the match that ends `Aio::wait`; `none` is the decoder's panic. -/
def errorOf (err : NngErr) : Option AioError :=
  if err = ErrorCode.ECANCELED.value then some .Cancelled
  else if err = ErrorCode.ETIMEDOUT.value then some .TimedOut
  else (ErrorKind.fromNngErr err).map .Operation

/-- `Aio::wait`, from the return of `nng_aio_wait` on. -/
def waitResult (self : Aio M) (implication : ImplicationOnMessage) :
    Except Panic (Except AioError Unit × Aio M) :=
  if self.aio.busy then .error .busyAfterWait
  else if self.aio.result = NNG_OK then
    match implication with
    | .Sent => .ok (.ok (), { self with aio := self.aio.setMsg none, msgWasSet := false })
    | .Received => .ok (.ok (), self)
  else
    match errorOf self.aio.result with
    | none => .error .zeroErrorCode
    | some e => .ok (.error e, self)

/-- `CancellationGuard::drop` of `wait`, from the return of `nng_aio_wait` on: the message it drops,
if any, and the handle. It polls a `Notified` future of its own to eat the notification. -/
def guardDrop (self : Aio M) : Except Panic (Option (Message M) × Aio M) :=
  if self.aio.busy then .error .busyAfterCancel
  else
    match self.notify.pollNew with
    | (false, _) => .error .callbackNotFired
    | (true, notify) =>
      let self := { self with notify }
      if self.msgWasSet then
        if self.aio.result = NNG_OK then
          .ok (none, { self with aio := self.aio.setMsg none, msgWasSet := false })
        else self.takeMessage
      else .ok (none, self)

end Aio

end NngRs.Anng
