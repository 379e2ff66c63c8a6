/-
**The invariant of a handle: what its `Aio` looks like at each point of its live future.**

* `Aio.Idle` — what holds between futures: not busy, no message, `msg_was_set` false, no permit.
* `Aio.InFlight` — what holds while a future waits at a given point: `msg_was_set` tells sends from
  receives, the notification is exactly the one the operation's own callback gave (`WaitPoint.signal`),
  and the slot holds a message exactly as the operation left it.
* `Sound` — one of the two, by the live future, and no panic.

The rest says what the pieces of `send_msg` and `recv_msg` compute in those shapes: no error arm is
taken, and whatever way a future ends, it leaves the aio as it was before the future
(`sendFinish_ok`, ..., `recvDropped_failed`).
-/

import NngRs.Anng.Endpoint

namespace NngRs.Anng

open NngRs.Sys EventMachine

variable {M : Type}

/-! ### The shapes of an `Aio` -/

/-- Whether the callback has called `notify_one`. -/
def Stage.fired : Stage → Bool
  | .notified | .idle => true
  | .pending _ | .completed => false

/-- Whether the operation has not completed yet. -/
def Stage.running : Stage → Bool
  | .pending _ => true
  | .completed | .notified | .idle => false

/-- The notification at each point of a wait, given whether its own callback has fired. -/
def WaitPoint.signal (point : WaitPoint) (fired : Bool) : Notify :=
  match point with
  | .polling | .dropping | .cancelled => ⟨fired, none⟩
  | .suspended => ⟨false, some (if fired then .notified else .waiting)⟩
  | .woken => .new

/-- **What holds of an `Aio` that no future uses.** -/
structure Aio.Idle (a : Aio M) : Prop where
  notBusy : a.aio.busy = false
  msgNull : a.aio.msg = none
  notSet : a.msgWasSet = false
  quiet : a.notify = .new

/-- **What holds of an `Aio` that a waiting future uses.** -/
structure Aio.InFlight (implication : ImplicationOnMessage) (point : WaitPoint) (a : Aio M) :
    Prop where
  wasSet : a.msgWasSet = (implication == .Sent)
  signal : a.notify = point.signal a.aio.stage.fired
  ownCallback : point = .woken → a.aio.stage.fired = true
  operation : ∀ op, a.aio.stage = .pending op → op = implication
  sending : implication = .Sent → a.aio.stage.running = true ∨ a.aio.result ≠ NNG_OK →
    ∃ msg, a.aio.msg = some msg
  receiving : implication = .Received →
    ((a.aio.stage.running = false ∧ a.aio.result = NNG_OK) ↔ ∃ msg, a.aio.msg = some msg)

/-- What the live future says about the aio and the recovered message. -/
def FutureSound (e : Endpoint M) : Future M → Prop
  | .waiting implication point =>
    e.aio.InFlight implication point ∧ (implication = .Received → e.recoveredMsg = none)
  | .none | .sendNew _ | .recvNew => e.aio.Idle

/-- The invariant of the machine. -/
structure Sound (s : State M) : Prop where
  clean : s.status ≠ .poisoned
  future : FutureSound s.endpoint s.future

/-- The operation of a live future has completed with success. -/
def State.succeeded (s : State M) : Prop :=
  s.endpoint.aio.aio.stage.running = false ∧ s.endpoint.aio.aio.result = NNG_OK

instance (s : State M) : Decidable s.succeeded := inferInstanceAs (Decidable (_ ∧ _))

theorem sound_start (h : Handle) : Sound (machine M h).start := by
  refine ⟨by simp [machine], ?_⟩
  show (Aio.new : Aio M).Idle
  exact ⟨rfl, rfl, rfl, rfl⟩

section Succeeded

variable {s s' : State M}

theorem not_succeeded_of_running (running : s.endpoint.aio.aio.stage.running = true) :
    ¬s.succeeded := fun done => absurd (running.symm.trans done.1) (by decide)

theorem not_succeeded_of_failed (failed : s.endpoint.aio.aio.result ≠ NNG_OK) : ¬s.succeeded :=
  fun done => failed done.2

theorem succeeded_congr (running : s'.endpoint.aio.aio.stage.running =
    s.endpoint.aio.aio.stage.running) (result : s'.endpoint.aio.aio.result = s.endpoint.aio.aio.result) :
    s'.succeeded ↔ s.succeeded := by
  rw [State.succeeded, State.succeeded, running, result]

end Succeeded

namespace Aio

/-! ### The functions on those shapes -/

theorem setMessage_of_idle {a : Aio M} (idle : a.Idle) (message : Message M) :
    a.setMessage message =
      .ok (none, { a with aio := a.aio.setMsg (some message.intoPtr), msgWasSet := true }) := by
  unfold setMessage
  rw [idle.notBusy, idle.notSet, idle.msgNull]
  rfl

theorem takeMessage_some {a : Aio M} {msg : M} (notBusy : a.aio.busy = false)
    (held : a.aio.msg = some msg) :
    a.takeMessage =
      .ok (some (.fromRawUnchecked msg), { a with aio := a.aio.setMsg none, msgWasSet := false }) := by
  unfold takeMessage
  rw [notBusy, held]
  rfl

theorem takeMessage_none {a : Aio M} (notBusy : a.aio.busy = false) (empty : a.aio.msg = none) :
    a.takeMessage = .ok (none, a) := by
  unfold takeMessage
  rw [notBusy, empty]
  rfl

theorem waitResult_sent {a : Aio M} (notBusy : a.aio.busy = false) (ok : a.aio.result = NNG_OK) :
    a.waitResult .Sent =
      .ok (.ok (), { a with aio := a.aio.setMsg none, msgWasSet := false }) := by
  unfold waitResult
  rw [notBusy, if_pos ok]
  rfl

theorem waitResult_received {a : Aio M} (notBusy : a.aio.busy = false)
    (ok : a.aio.result = NNG_OK) : a.waitResult .Received = .ok (.ok (), a) := by
  unfold waitResult
  rw [notBusy, if_pos ok]
  rfl

theorem errorOf_isSome {err : NngErr} (failed : err ≠ NNG_OK) : (errorOf err).isSome = true := by
  unfold errorOf
  split_ifs
  · rfl
  · rfl
  · rw [Option.isSome_map]
    exact ErrorKind.fromNngErr_isSome failed

theorem waitResult_failed {a : Aio M} {e : AioError} (notBusy : a.aio.busy = false)
    (failed : a.aio.result ≠ NNG_OK) (reported : errorOf a.aio.result = some e)
    (implication : ImplicationOnMessage) :
    a.waitResult implication = .ok (.error e, a) := by
  unfold waitResult
  rw [notBusy, if_neg failed, reported]
  rfl

/-- The aio after the guard of `wait` has eaten its notification. -/
theorem guardDrop_of_permit {a : Aio M} (notBusy : a.aio.busy = false)
    (permit : a.notify = ⟨true, none⟩) :
    a.guardDrop =
      if a.msgWasSet then
        if a.aio.result = NNG_OK then
          .ok (none, { a with aio := a.aio.setMsg none, notify := .new, msgWasSet := false })
        else takeMessage { a with notify := .new }
      else .ok (none, { a with notify := .new }) := by
  unfold guardDrop
  rw [notBusy, permit]
  rfl

end Aio

/-! ### What the pieces of the two futures do in a sound state -/

section Pieces

/-- The aio between futures, after an operation that ended with `result`. -/
def idleAio (result : NngErr) : Aio M := ⟨⟨none, result, .idle⟩, .new, false⟩

theorem idleAio_idle (result : NngErr) : (idleAio result : Aio M).Idle := ⟨rfl, rfl, rfl, rfl⟩

/-- A handle whose future has ended: the aio idle after `result`, and a recovered message or none. -/
def State.ended (s : State M) (recovered : Option (Message M)) : State M :=
  { s with
    endpoint := { aio := idleAio s.endpoint.aio.aio.result, recoveredMsg := recovered }
    future := .none }

/-- The aio of a waiting future whose operation is over. -/
theorem Aio.InFlight.returned_shape {implication : ImplicationOnMessage} {point : WaitPoint}
    {a : Aio M} (flight : a.InFlight implication point) (notBusy : a.aio.busy = false) :
    ∃ msg result, a = ⟨⟨msg, result, .idle⟩, point.signal true, implication == .Sent⟩ := by
  obtain ⟨⟨msg, result, stage⟩, notify, wasSet⟩ := a
  obtain rfl : stage = .idle := NngAio.busy_eq_false.mp notBusy
  obtain rfl : notify = point.signal true := flight.signal
  obtain rfl : wasSet = (implication == .Sent) := flight.wasSet
  exact ⟨msg, result, rfl⟩

variable {s : State M}

theorem sendFinish_ok (flight : s.endpoint.aio.InFlight .Sent .woken)
    (notBusy : s.endpoint.aio.aio.busy = false) (ok : s.endpoint.aio.aio.result = NNG_OK) :
    sendFinish s = (s.ended s.endpoint.recoveredMsg, [.sendReturned (.ok ())]) := by
  unfold sendFinish
  rw [Aio.waitResult_sent notBusy ok]
  obtain ⟨⟨aio, recovered⟩, future, status⟩ := s
  obtain ⟨msg, result, rfl⟩ := flight.returned_shape notBusy
  rfl

theorem sendFinish_failed {msg : M} {e : AioError} (flight : s.endpoint.aio.InFlight .Sent .woken)
    (notBusy : s.endpoint.aio.aio.busy = false) (failed : s.endpoint.aio.aio.result ≠ NNG_OK)
    (held : s.endpoint.aio.aio.msg = some msg)
    (reported : Aio.errorOf s.endpoint.aio.aio.result = some e) :
    sendFinish s = (s.ended s.endpoint.recoveredMsg,
      [.sendReturned (.error (e, .fromRawUnchecked msg))]) := by
  unfold sendFinish
  rw [Aio.waitResult_failed notBusy failed reported]
  simp only [Aio.takeMessage_some notBusy held]
  obtain ⟨⟨aio, recovered⟩, future, status⟩ := s
  obtain ⟨slot, result, rfl⟩ := flight.returned_shape notBusy
  rfl

theorem recvFinish_ok {msg : M} (flight : s.endpoint.aio.InFlight .Received .woken)
    (notBusy : s.endpoint.aio.aio.busy = false) (ok : s.endpoint.aio.aio.result = NNG_OK)
    (held : s.endpoint.aio.aio.msg = some msg) :
    recvFinish s = (s.ended s.endpoint.recoveredMsg,
      [.recvReturned (.ok (.fromRawUnchecked msg))]) := by
  unfold recvFinish
  rw [Aio.waitResult_received notBusy ok]
  simp only [Aio.takeMessage_some notBusy held]
  obtain ⟨⟨aio, recovered⟩, future, status⟩ := s
  obtain ⟨slot, result, rfl⟩ := flight.returned_shape notBusy
  rfl

theorem recvFinish_failed {e : AioError} (flight : s.endpoint.aio.InFlight .Received .woken)
    (notBusy : s.endpoint.aio.aio.busy = false) (failed : s.endpoint.aio.aio.result ≠ NNG_OK)
    (empty : s.endpoint.aio.aio.msg = none)
    (reported : Aio.errorOf s.endpoint.aio.aio.result = some e) :
    recvFinish s = (s.ended s.endpoint.recoveredMsg, [.recvReturned (.error e)]) := by
  unfold recvFinish
  rw [Aio.waitResult_failed notBusy failed reported]
  obtain ⟨⟨aio, recovered⟩, future, status⟩ := s
  obtain ⟨slot, result, rfl⟩ := flight.returned_shape notBusy
  obtain rfl : slot = none := empty
  rfl

/-! A dropped future finds a permit: the callback has fired, and nobody has taken its notification. -/

theorem sendDropped_ok (flight : s.endpoint.aio.InFlight .Sent .cancelled)
    (notBusy : s.endpoint.aio.aio.busy = false) (ok : s.endpoint.aio.aio.result = NNG_OK) :
    sendDropped s = (s.ended s.endpoint.recoveredMsg, [.cancelled]) := by
  obtain ⟨⟨aio, recovered⟩, future, status⟩ := s
  obtain ⟨slot, result, rfl⟩ : ∃ slot result, aio = ⟨⟨slot, result, .idle⟩, ⟨true, none⟩, true⟩ :=
    flight.returned_shape notBusy
  unfold sendDropped
  rw [Aio.guardDrop_of_permit notBusy rfl, if_pos rfl, if_pos ok]
  rfl

theorem sendDropped_failed {msg : M} (flight : s.endpoint.aio.InFlight .Sent .cancelled)
    (notBusy : s.endpoint.aio.aio.busy = false) (failed : s.endpoint.aio.aio.result ≠ NNG_OK)
    (held : s.endpoint.aio.aio.msg = some msg) :
    sendDropped s = (s.ended s.endpoint.recoveredMsg, [.freed msg, .cancelled]) := by
  obtain ⟨⟨aio, recovered⟩, future, status⟩ := s
  obtain ⟨slot, result, rfl⟩ : ∃ slot result, aio = ⟨⟨slot, result, .idle⟩, ⟨true, none⟩, true⟩ :=
    flight.returned_shape notBusy
  obtain rfl : slot = some msg := held
  unfold sendDropped
  rw [Aio.guardDrop_of_permit notBusy rfl, if_pos rfl, if_neg failed]
  simp only [Aio.takeMessage_some (a := ⟨⟨some msg, result, .idle⟩, .new, true⟩) notBusy rfl]
  rfl

theorem recvDropped_ok {msg : M} (flight : s.endpoint.aio.InFlight .Received .cancelled)
    (notBusy : s.endpoint.aio.aio.busy = false) (held : s.endpoint.aio.aio.msg = some msg)
    (empty : s.endpoint.recoveredMsg = none) :
    recvDropped s = (s.ended (some (.fromRawUnchecked msg)), [.cancelled]) := by
  obtain ⟨⟨aio, recovered⟩, future, status⟩ := s
  obtain ⟨slot, result, rfl⟩ : ∃ slot result, aio = ⟨⟨slot, result, .idle⟩, ⟨true, none⟩, false⟩ :=
    flight.returned_shape notBusy
  obtain rfl : recovered = none := empty
  obtain rfl : slot = some msg := held
  unfold recvDropped
  rw [Aio.guardDrop_of_permit notBusy rfl, if_neg Bool.false_ne_true]
  simp only [Aio.takeMessage_some (a := ⟨⟨some msg, result, .idle⟩, .new, false⟩) notBusy rfl]
  rfl

theorem recvDropped_failed (flight : s.endpoint.aio.InFlight .Received .cancelled)
    (notBusy : s.endpoint.aio.aio.busy = false) (vacant : s.endpoint.aio.aio.msg = none) :
    recvDropped s = (s.ended s.endpoint.recoveredMsg, [.cancelled]) := by
  obtain ⟨⟨aio, recovered⟩, future, status⟩ := s
  obtain ⟨slot, result, rfl⟩ : ∃ slot result, aio = ⟨⟨slot, result, .idle⟩, ⟨true, none⟩, false⟩ :=
    flight.returned_shape notBusy
  obtain rfl : slot = none := vacant
  unfold recvDropped
  rw [Aio.guardDrop_of_permit notBusy rfl, if_neg Bool.false_ne_true]
  simp only [Aio.takeMessage_none (a := ⟨⟨none, result, .idle⟩, .new, false⟩) notBusy rfl]
  rfl

end Pieces

end NngRs.Anng
