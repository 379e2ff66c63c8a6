/-
**What a `Socket` or a `Context` is for: a mailbox with one errand at a time.**

A mailbox has no aio, no notification, no callback and no guard. Its one errand is a send or a
receive: handed to the library, settled by it, and then collected or cancelled. Cancelling is one
step and waits until the library has settled; a message that was received by then is kept for the next
receive, and one that was not sent is freed.

* `Mailbox.act` — the eight things that can happen to a mailbox.
* `State.errand` — the errand that a handle in the middle of its futures is on.
* `mailbox_simulates` — each step of a handle is at most one step of its mailbox.
* `handle_simulates` — each step of a mailbox is a few steps of a parked handle.
* `handle_shows_iff_mailbox` — **a handle shows exactly what a mailbox shows**: nothing the caller or
  the library can see tells the futures, their wake-ups and their cancellation from the mailbox.
-/

import NngRs.Anng.Moves
import NngRs.Machine.Refinement

namespace NngRs.Anng

open NngRs.Sys EventMachine

/-- The errand of a mailbox. -/
inductive Errand (M : Type)
  | none
  /-- A message to send, not yet handed to the library. -/
  | toSend (message : Message M)
  | toReceive
  /-- The library has the operation. -/
  | sending (msg : M)
  | receiving
  /-- The library has settled the operation, one way or the other. -/
  | sent
  | sendFailed (msg : M) (err : NonZeroU32)
  | received (msg : M)
  | receiveFailed (err : NonZeroU32)
deriving DecidableEq

/-- A mailbox: its errand, the message that a cancelled receive left, and whether it is closed. -/
structure Mailbox (M : Type) where
  errand : Errand M
  kept : Option (Message M)
  closed : Bool
deriving DecidableEq

inductive MailboxAction (M : Type)
  /-- The caller has a message to send. -/
  | send (message : Message M)
  /-- The caller wants a message. -/
  | receive
  /-- The caller asks without waiting; the library, if it is asked, answers this. -/
  | ask (returned : Recvmsg M)
  /-- The errand is handed to the library, or met by the message that was kept. -/
  | depart
  /-- The library settles the operation. -/
  | settle (completion : Completion M)
  /-- The caller gets the result. -/
  | collect
  /-- The caller gives up. -/
  | cancel
  | close
deriving DecidableEq

section Mailbox

variable {M : Type}

/-- What the caller is told of a code. -/
def reported (err : NonZeroU32) : AioError :=
  (Aio.errorOf err.val).get (Aio.errorOf_isSome err.property)

theorem errorOf_val (err : NonZeroU32) : Aio.errorOf err.val = some (reported err) := by
  rw [reported, Option.some_get]

namespace Mailbox

/-- The answer to `ask`. -/
def ask (h : Handle) (box : Mailbox M) (returned : Recvmsg M) : Mailbox M × List (Event M) :=
  match box.kept with
  | some message => ({ box with kept := none }, [.tryRecvReturned (.ok (some message))])
  | none =>
    match recvmsgResult returned with
    | .error p => (box, .called h.recvmsgCall :: returned.handedOver ++ [.panicked p])
    | .ok result => (box, .called h.recvmsgCall :: returned.handedOver ++ [.tryRecvReturned result])

/-- Handing the errand to the library. -/
def depart (h : Handle) (box : Mailbox M) : Option (Mailbox M × List (Event M)) :=
  match box.errand, box.kept with
  | .toSend message, _ =>
    some ({ box with errand := .sending message.inner }, [.started (h.startCall .Sent)])
  | .toReceive, some message =>
    some ({ box with errand := .none, kept := none }, [.recvReturned (.ok message)])
  | .toReceive, none =>
    some ({ box with errand := .receiving }, [.started (h.startCall .Received)])
  | _, _ => none

/-- The library settles the operation it has. -/
def settle (box : Mailbox M) : Completion M → Option (Mailbox M × List (Event M))
  | .sent _ =>
    match box.errand with
    | .sending msg => some ({ box with errand := .sent }, [.consumed msg])
    | _ => none
  | .received msg =>
    match box.errand with
    | .receiving => some ({ box with errand := .received msg }, [.delivered msg])
    | _ => none
  | .failed err =>
    match box.errand with
    | .sending msg => some ({ box with errand := .sendFailed msg err }, [])
    | .receiving => some ({ box with errand := .receiveFailed err }, [])
    | _ => none

/-- The result of a settled errand. -/
def collect (box : Mailbox M) : Option (Mailbox M × List (Event M)) :=
  match box.errand with
  | .sent => some ({ box with errand := .none }, [.sendReturned (.ok ())])
  | .sendFailed msg err =>
    some ({ box with errand := .none },
      [.sendReturned (.error (reported err, .fromRawUnchecked msg))])
  | .received msg =>
    some ({ box with errand := .none }, [.recvReturned (.ok (.fromRawUnchecked msg))])
  | .receiveFailed err =>
    some ({ box with errand := .none }, [.recvReturned (.error (reported err))])
  | _ => none

/-- Giving up on an errand that the library does not have, or not any more. -/
def cancel (box : Mailbox M) : Option (Mailbox M × List (Event M)) :=
  match box.errand with
  | .toSend message => some ({ box with errand := .none }, [.freed message.inner, .cancelled])
  | .toReceive | .sent | .receiveFailed _ => some ({ box with errand := .none }, [.cancelled])
  | .sendFailed msg _ => some ({ box with errand := .none }, [.freed msg, .cancelled])
  | .received msg =>
    some ({ box with errand := .none, kept := some (.fromRawUnchecked msg) }, [.cancelled])
  | .none | .sending _ | .receiving => none

/-- What needs a mailbox without an errand. -/
def free (box : Mailbox M) (after : Mailbox M × List (Event M)) :
    Option (Mailbox M × List (Event M)) :=
  match box.errand with
  | .none => some after
  | _ => none

/-- What can happen to a mailbox that is open. -/
def act (h : Handle) (box : Mailbox M) : MailboxAction M → Option (Mailbox M × List (Event M))
  | .send message => box.free ({ box with errand := .toSend message }, [])
  | .receive => box.free ({ box with errand := .toReceive }, [])
  | .ask returned => box.free (box.ask h returned)
  | .depart => box.depart h
  | .settle completion => box.settle completion
  | .collect => box.collect
  | .cancel => box.cancel
  | .close => box.free ({ box with kept := none, closed := true }, dropped box.kept)

end Mailbox

/-- The mailbox of one handle. -/
def mailbox (M : Type) (h : Handle) : EventMachine (Mailbox M) (MailboxAction M) (Event M) where
  start := ⟨.none, none, false⟩
  step box a := if box.closed then none else box.act h a

theorem mailbox_step {h : Handle} {box : Mailbox M} (opened : box.closed = false)
    (a : MailboxAction M) : (mailbox M h).step box a = box.act h a :=
  if_neg (by rw [opened]; exact Bool.false_ne_true)

/-! ### The mailbox of a handle -/

/-- The errand of an operation that the library has or has settled. -/
def NngAio.errand (aio : NngAio M) : ImplicationOnMessage → Errand M
  | .Sent =>
    if aio.stage.running then
      match aio.msg with
      | some msg => .sending msg
      | none => .none
    else if failed : aio.result ≠ 0 then
      match aio.msg with
      | some msg => .sendFailed msg ⟨aio.result, failed⟩
      | none => .none
    else .sent
  | .Received =>
    if aio.stage.running then .receiving
    else if failed : aio.result ≠ 0 then .receiveFailed ⟨aio.result, failed⟩
    else
      match aio.msg with
      | some msg => .received msg
      | none => .none

/-- The errand of a handle. -/
def State.errand (s : State M) : Errand M :=
  match s.future with
  | .none => .none
  | .sendNew message => .toSend message
  | .recvNew => .toReceive
  | .waiting implication _ => s.endpoint.aio.aio.errand implication

/-- The mailbox of a handle. -/
def State.mailbox (s : State M) : Mailbox M :=
  ⟨s.errand, s.endpoint.recoveredMsg, s.status == .closed⟩

section Reading

variable {s s' : State M} {implication : ImplicationOnMessage} {point : WaitPoint}

theorem errand_waiting (live : s.future = .waiting implication point) :
    s.errand = s.endpoint.aio.aio.errand implication := by
  unfold State.errand
  rw [live]

/-- Only whether the operation runs, its result and the slot are read. -/
theorem NngAio.errand_congr {aio aio' : NngAio M} (running : aio'.stage.running = aio.stage.running)
    (result : aio'.result = aio.result) (msg : aio'.msg = aio.msg) :
    aio'.errand implication = aio.errand implication := by
  obtain ⟨slot, code, stage⟩ := aio
  obtain rfl : aio'.msg = slot := msg
  obtain rfl : aio'.result = code := result
  cases implication <;> simp only [NngAio.errand, running]

/-! The errand of a waiting future, by what the library has made of its operation. -/

theorem errand_sending {msg : M} (live : s.future = .waiting .Sent point)
    (running : s.endpoint.aio.aio.stage.running = true) (held : s.endpoint.aio.aio.msg = some msg) :
    s.errand = .sending msg := by
  rw [errand_waiting live, NngAio.errand, if_pos running, held]

theorem errand_receiving (live : s.future = .waiting .Received point)
    (running : s.endpoint.aio.aio.stage.running = true) : s.errand = .receiving := by
  rw [errand_waiting live, NngAio.errand, if_pos running]

theorem errand_sent (live : s.future = .waiting .Sent point)
    (settled : s.endpoint.aio.aio.stage.running = false) (ok : s.endpoint.aio.aio.result = NNG_OK) :
    s.errand = .sent := by
  rw [errand_waiting live, NngAio.errand, settled, if_neg Bool.false_ne_true, dif_neg]
  exact not_not_intro ok

theorem errand_sendFailed {msg : M} (err : NonZeroU32) (live : s.future = .waiting .Sent point)
    (settled : s.endpoint.aio.aio.stage.running = false)
    (failed : s.endpoint.aio.aio.result = err.val) (held : s.endpoint.aio.aio.msg = some msg) :
    s.errand = .sendFailed msg err := by
  have nonzero : s.endpoint.aio.aio.result ≠ 0 := failed ▸ err.property
  rw [errand_waiting live, NngAio.errand, settled, if_neg Bool.false_ne_true, dif_pos nonzero, held]
  exact congrArg (Errand.sendFailed msg) (Subtype.ext failed)

theorem errand_received {msg : M} (live : s.future = .waiting .Received point)
    (settled : s.endpoint.aio.aio.stage.running = false) (ok : s.endpoint.aio.aio.result = NNG_OK)
    (held : s.endpoint.aio.aio.msg = some msg) : s.errand = .received msg := by
  have zero : ¬s.endpoint.aio.aio.result ≠ 0 := not_not_intro ok
  rw [errand_waiting live, NngAio.errand, settled, if_neg Bool.false_ne_true, dif_neg zero, held]

theorem errand_receiveFailed (err : NonZeroU32) (live : s.future = .waiting .Received point)
    (settled : s.endpoint.aio.aio.stage.running = false)
    (failed : s.endpoint.aio.aio.result = err.val) : s.errand = .receiveFailed err := by
  have nonzero : s.endpoint.aio.aio.result ≠ 0 := failed ▸ err.property
  rw [errand_waiting live, NngAio.errand, settled, if_neg Bool.false_ne_true, dif_pos nonzero]
  exact congrArg Errand.receiveFailed (Subtype.ext failed)

/-- The receive of a sound handle that has settled brought a message, or failed. -/
theorem errand_of_received (sound : Sound s) {msg : M} (live : s.future = .waiting .Received point)
    (settled : s.endpoint.aio.aio.stage.running = false) (held : s.endpoint.aio.aio.msg = some msg) :
    s.errand = .received msg :=
  errand_received live settled (((sound.inFlight live).receiving rfl).mpr ⟨msg, held⟩).2 held

end Reading

/-! ### A step of a handle is at most one step of its mailbox -/

section Down

variable {h : Handle} {s s' : State M} {a : Action M} {out : List (Event M)}

/-- The mailbox does nothing, and nothing is shown. -/
def Unseen (s s' : State M) (out : List (Event M)) : Prop := s'.mailbox = s.mailbox ∧ out = []

/-- The mailbox takes one step and shows the same. -/
def Seen (h : Handle) (s s' : State M) (out : List (Event M)) : Prop :=
  ∃ action, s.mailbox.act h action = some (s'.mailbox, out)

/-- What a settled errand shows when it is collected. -/
theorem seen_collect {e : Errand M} (errand : s.errand = e)
    (collected : Mailbox.collect ⟨e, s.endpoint.recoveredMsg, s.status == .closed⟩ =
      some (⟨.none, s.endpoint.recoveredMsg, s.status == .closed⟩, out)) :
    Seen h s (s.ended s.endpoint.recoveredMsg) out := by
  refine ⟨.collect, ?_⟩
  rw [Mailbox.act, State.mailbox, errand, collected]
  rfl

/-- What a settled errand shows when it is cancelled. -/
theorem seen_cancel {e : Errand M} {recovered : Option (Message M)} (errand : s.errand = e)
    (cancelled : Mailbox.cancel ⟨e, s.endpoint.recoveredMsg, s.status == .closed⟩ =
      some (⟨.none, recovered, s.status == .closed⟩, out)) :
    Seen h s (s.ended recovered) out := by
  refine ⟨.cancel, ?_⟩
  rw [Mailbox.act, State.mailbox, errand, cancelled]
  rfl

/-- What an errand under way shows when it is settled. -/
theorem seen_settle {e e' : Errand M} {aio : NngAio M} (completion : Completion M)
    (before : s.errand = e) (after : (s.withNng aio).errand = e')
    (settled : Mailbox.settle ⟨e, s.endpoint.recoveredMsg, s.status == .closed⟩ completion =
      some (⟨e', s.endpoint.recoveredMsg, s.status == .closed⟩, out)) :
    Seen h s (s.withNng aio) out := by
  refine ⟨.settle completion, ?_⟩
  rw [Mailbox.act, State.mailbox, before, settled, State.mailbox, after]
  rfl

/-- An answer that brings no message hands none over. -/
theorem handedOver_of_silent (returned : Recvmsg M)
    (silent : ∀ msg, recvmsgResult returned ≠ .ok (.ok (some msg))) : returned.handedOver = [] := by
  obtain ⟨errno, slot⟩ := returned
  cases slot with
  | none => rfl
  | some msg =>
    by_cases ok : errno = 0
    · subst ok
      exact absurd rfl (silent _)
    · exact if_neg ok

/-- The code of a failed operation. -/
theorem exists_code {result : NngErr} {e : AioError} (failed : result ≠ NNG_OK)
    (reports : Aio.errorOf result = some e) : ∃ err : NonZeroU32, result = err.val ∧ reported err = e :=
  ⟨⟨result, failed⟩, rfl, Option.some.inj ((errorOf_val ⟨result, failed⟩).symm.trans reports)⟩

/-- **A move of a sound handle is a step of its mailbox, or cannot be seen.** -/
theorem Move.seen (sound : Sound s) (move : Move h s a s' out) :
    Unseen s s' out ∨ Seen h s s' out := by
  cases move with
  | sendMsg message free =>
    refine .inr ⟨.send message, ?_⟩
    simp [Mailbox.act, Mailbox.free, State.mailbox, State.errand, free]
  | recvMsg free =>
    refine .inr ⟨.receive, ?_⟩
    simp [Mailbox.act, Mailbox.free, State.mailbox, State.errand, free]
  | tryRecovered returned msg free kept =>
    refine .inr ⟨.ask returned, ?_⟩
    simp [Mailbox.act, Mailbox.free, Mailbox.ask, State.mailbox, State.errand, State.recover, free,
      kept]
  | tryReceived msg free kept =>
    refine .inr ⟨.ask ⟨0, some msg⟩, ?_⟩
    simp [Mailbox.act, Mailbox.free, Mailbox.ask, State.mailbox, State.errand, free, kept,
      recvmsgResult, Recvmsg.handedOver]
  | tryRefused returned result free kept silent answer =>
    refine .inr ⟨.ask returned, ?_⟩
    have nothing := handedOver_of_silent returned fun msg same =>
      silent msg (Except.ok.inj (answer.symm.trans same))
    simp [Mailbox.act, Mailbox.free, Mailbox.ask, State.mailbox, State.errand, free, kept, answer,
      nothing]
  | tryPanicked returned p free kept answer =>
    refine .inr ⟨.ask returned, ?_⟩
    have nothing := handedOver_of_silent returned fun msg same => by cases answer.symm.trans same
    simp [Mailbox.act, Mailbox.free, Mailbox.ask, State.mailbox, State.errand, free, kept, answer,
      nothing]
  | close free =>
    refine .inr ⟨.close, ?_⟩
    simp [Mailbox.act, Mailbox.free, State.mailbox, State.errand, State.recover, free]
  | sendStart message live =>
    refine .inr ⟨.depart, ?_⟩
    simp only [Mailbox.act, Mailbox.depart, State.mailbox, State.errand, live]
    rfl
  | recvRecovered msg live kept =>
    refine .inr ⟨.depart, ?_⟩
    simp [Mailbox.act, Mailbox.depart, State.mailbox, State.errand, State.recover, live, kept]
  | recvStart live kept =>
    refine .inr ⟨.depart, ?_⟩
    have after : (s.begun .Received none).mailbox = ⟨.receiving, none, s.status == .closed⟩ :=
      congrArg (Mailbox.mk _ · _) kept
    rw [after]
    simp only [Mailbox.act, Mailbox.depart, State.mailbox, State.errand, live, kept]
  | turn _ implication point point' _ live =>
    refine .inl ⟨?_, rfl⟩
    rw [State.mailbox, State.mailbox, errand_waiting live, errand_waiting (s := s.turned _ _) rfl]
    rfl
  | sendOk live stage ok =>
    exact .inr (seen_collect (errand_sent live (by rw [stage]; rfl) ok) rfl)
  | sendFailed msg e live stage failed held reports =>
    obtain ⟨err, code, rfl⟩ := exists_code failed reports
    exact .inr (seen_collect (errand_sendFailed err live (by rw [stage]; rfl) code held) rfl)
  | recvOk msg live stage ok held =>
    exact .inr (seen_collect (errand_received live (by rw [stage]; rfl) ok held) rfl)
  | recvFailed e live stage failed empty reports =>
    obtain ⟨err, code, rfl⟩ := exists_code failed reports
    exact .inr (seen_collect (errand_receiveFailed err live (by rw [stage]; rfl) code) rfl)
  | dropSendNew message live =>
    refine .inr ⟨.cancel, ?_⟩
    simp [Mailbox.act, Mailbox.cancel, State.mailbox, State.errand, live]
  | dropRecvNew live =>
    refine .inr ⟨.cancel, ?_⟩
    simp [Mailbox.act, Mailbox.cancel, State.mailbox, State.errand, live]
  | sendDroppedOk live stage ok =>
    exact .inr (seen_cancel (errand_sent live (by rw [stage]; rfl) ok) rfl)
  | sendDroppedFailed msg live stage failed held =>
    exact .inr (seen_cancel
      (errand_sendFailed ⟨_, failed⟩ live (by rw [stage]; rfl) rfl held) rfl)
  | recvDroppedOk msg live stage held kept =>
    exact .inr (seen_cancel (errand_of_received sound live (by rw [stage]; rfl) held) rfl)
  | recvDroppedFailed live stage empty =>
    have failed : s.endpoint.aio.aio.result ≠ 0 := by
      intro ok
      obtain ⟨msg, held⟩ := ((sound.inFlight live).receiving rfl).mp ⟨by rw [stage]; rfl, ok⟩
      rw [empty] at held
      cases held
    exact .inr (seen_cancel
      (errand_receiveFailed ⟨_, failed⟩ live (by rw [stage]; rfl) rfl) rfl)
  | completeSent point msg stale live stage held =>
    have before := errand_sending live (by rw [stage]; rfl) held
    exact .inr (seen_settle (.sent stale) before (errand_sent live rfl rfl) rfl)
  | completeReceived point msg live stage empty =>
    have before := errand_receiving live (by rw [stage]; rfl)
    exact .inr (seen_settle (.received msg) before (errand_received live rfl rfl rfl) rfl)
  | completeFailed implication point err live stage =>
    cases implication with
    | Sent =>
      obtain ⟨msg, held⟩ := (sound.inFlight live).sending rfl (.inl (by rw [stage]; rfl))
      have before := errand_sending live (by rw [stage]; rfl) held
      exact .inr (seen_settle (.failed err) before (errand_sendFailed err live rfl rfl held) rfl)
    | Received =>
      have before := errand_receiving live (by rw [stage]; rfl)
      exact .inr (seen_settle (.failed err) before (errand_receiveFailed err live rfl rfl) rfl)
  | callback implication point live stage =>
    refine .inl ⟨?_, rfl⟩
    rw [State.mailbox, State.mailbox, errand_waiting live, errand_waiting (s := State.turned _ _ _) rfl]
    exact congrArg (Mailbox.mk · s.endpoint.recoveredMsg (s.status == .closed))
      (NngAio.errand_congr (by rw [stage]; rfl) rfl rfl)
  | callbackReturn implication point live stage =>
    refine .inl ⟨?_, rfl⟩
    have after := errand_waiting
      (s := s.withNng { s.endpoint.aio.aio with stage := .idle }) live
    rw [State.mailbox, State.mailbox, errand_waiting live, after]
    exact congrArg (Mailbox.mk · s.endpoint.recoveredMsg (s.status == .closed))
      (NngAio.errand_congr (by rw [stage]; rfl) rfl rfl)

/-- A sound handle and its mailbox. -/
def Pictured (s : State M) (box : Mailbox M) : Prop := Sound s ∧ box = s.mailbox

/-- **A mailbox simulates its handle.** -/
theorem mailbox_simulates (h : Handle) :
    Simulation (machine M h) (mailbox M h) Pictured where
  start := ⟨sound_start h, rfl⟩
  answered := by
    rintro s _ a s' out ⟨sound, rfl⟩ stepped
    obtain ⟨live, move⟩ := step_move sound stepped
    have sound' := move.sound sound
    rcases move.seen sound with ⟨same, rfl⟩ | ⟨action, taken⟩
    · exact .silent ⟨sound', same.symm⟩
    · refine .step (b := action) ?_ ⟨sound', rfl⟩
      rw [mailbox_step (by rw [State.mailbox, live]; rfl)]
      exact taken

end Down

/-! ### A step of a mailbox is a few steps of a parked handle -/

section Up

/-- The aio of a suspended future: the notification is given when the operation is over. -/
def suspendedAio (msg : Option M) (result : NngErr) (stage : Stage) (wasSet : Bool) : Aio M :=
  ⟨⟨msg, result, stage⟩, ⟨false, some (if stage.fired then .notified else .waiting)⟩, wasSet⟩

/-- The future and the aio of a handle on an errand, with nothing under way on any thread. `result` is
what the last operation left. -/
def Errand.parked (result : NngErr) : Errand M → Future M × Aio M
  | .none => (.none, idleAio result)
  | .toSend message => (.sendNew message, idleAio result)
  | .toReceive => (.recvNew, idleAio result)
  | .sending msg =>
    (.waiting .Sent .suspended, suspendedAio (some msg) result (.pending .Sent) true)
  | .receiving =>
    (.waiting .Received .suspended, suspendedAio Option.none result (.pending .Received) false)
  | .sent => (.waiting .Sent .suspended, suspendedAio Option.none NNG_OK .idle true)
  | .sendFailed msg err => (.waiting .Sent .suspended, suspendedAio (some msg) err.val .idle true)
  | .received msg => (.waiting .Received .suspended, suspendedAio (some msg) NNG_OK .idle false)
  | .receiveFailed err => (.waiting .Received .suspended, suspendedAio Option.none err.val .idle false)

/-- A handle with a given mailbox, parked. -/
def Mailbox.parked (box : Mailbox M) (result : NngErr) : State M :=
  ⟨⟨(box.errand.parked result).2, box.kept⟩, (box.errand.parked result).1,
    if box.closed then .closed else .live⟩

/-- A receive that has been handed to the library: nothing was kept then. -/
def Errand.receives : Errand M → Bool
  | .receiving | .received _ | .receiveFailed _ => true
  | .none | .toSend _ | .toReceive | .sending _ | .sent | .sendFailed _ _ => false

/-- A mailbox and a parked handle with it. -/
def Parked (box : Mailbox M) (s : State M) : Prop :=
  (box.errand.receives = true → box.kept = none) ∧ ∃ result, s = box.parked result

variable {h : Handle} {kept : Option (Message M)} {result : NngErr} {box : Mailbox M}
  {out : List (Event M)}

/-- What a handle answers when its mailbox, on this errand, comes to `box`. -/
def Follows (h : Handle) (errand : Errand M) (kept : Option (Message M)) (result : NngErr)
    (out : List (Event M)) (box : Mailbox M) : Prop :=
  (machine M h).Answers Parked (Mailbox.parked ⟨errand, kept, false⟩ result) out box

theorem parked_intro (vacant : box.errand.receives = false) (result : NngErr) :
    Parked box (box.parked result) :=
  ⟨fun receives => (nomatch vacant.symm.trans receives), result, rfl⟩

theorem follows_free {after : Mailbox M × List (Event M)} {errand : Errand M} (a : Action M)
    (taken : Mailbox.free ⟨errand, kept, false⟩ after = some (box, out))
    (stepped : errand = .none →
      step h (Mailbox.parked ⟨.none, kept, false⟩ result) a = some (after.1.parked result, after.2))
    (vacant : errand = .none → after.1.errand.receives = false) :
    Follows h errand kept result out box := by
  cases errand with
  | none =>
    cases taken
    exact .step (stepped rfl) (parked_intro (vacant rfl) result)
  | _ => cases taken

/-- Asking without waiting is the same for both. -/
theorem tryRecvMsg_parked (returned : Recvmsg M) :
    tryRecvMsg h (Mailbox.parked ⟨.none, kept, false⟩ result) returned =
      ((Mailbox.ask h ⟨.none, kept, false⟩ returned).1.parked result,
        (Mailbox.ask h ⟨.none, kept, false⟩ returned).2) := by
  unfold tryRecvMsg Mailbox.ask
  cases kept with
  | some message => rfl
  | none =>
    cases answer : recvmsgResult returned with
    | error p => rfl
    | ok told => rfl

theorem ask_errand {errand : Errand M} (returned : Recvmsg M) :
    (Mailbox.ask h ⟨errand, kept, false⟩ returned).1.errand = errand := by
  unfold Mailbox.ask
  cases kept with
  | some message => rfl
  | none =>
    cases answer : recvmsgResult returned with
    | error p => rfl
    | ok told => rfl

theorem follows_ask {errand : Errand M} {returned : Recvmsg M}
    (taken : Mailbox.act h ⟨errand, kept, false⟩ (.ask returned) = some (box, out)) :
    Follows h errand kept result out box := by
  refine follows_free (.tryRecvMsg returned) taken (fun same => ?_) (fun same => ?_)
  · subst same
    exact congrArg some (tryRecvMsg_parked returned)
  · rw [ask_errand, same]
    rfl

theorem follows_depart {errand : Errand M}
    (taken : Mailbox.depart h ⟨errand, kept, false⟩ = some (box, out)) :
    Follows h errand kept result out box := by
  cases errand with
  | toSend message =>
    cases taken
    exact .before (b := .poll) rfl (.after (b := .run) rfl (.silent (parked_intro rfl result)))
  | toReceive =>
    cases kept with
    | some message =>
      cases taken
      exact .step (b := .poll) rfl (parked_intro rfl result)
    | none =>
      cases taken
      exact .before (b := .poll) rfl (.after (b := .run) rfl (.silent ⟨fun _ => rfl, result, rfl⟩))
  | _ => cases taken

theorem follows_settle {errand : Errand M} {completion : Completion M}
    (taken : Mailbox.settle ⟨errand, kept, false⟩ completion = some (box, out))
    (vacant : errand.receives = true → kept = none) :
    Follows h errand kept result out box := by
  cases completion with
  | sent stale =>
    cases errand with
    | sending msg =>
      cases taken
      exact .before (b := .complete (.sent false)) rfl (.after (b := .callback) rfl
        (.after (b := .callbackReturn) rfl (.silent (parked_intro rfl NNG_OK))))
    | _ => cases taken
  | received msg =>
    cases errand with
    | receiving =>
      cases taken
      exact .before (b := .complete (.received msg)) rfl (.after (b := .callback) rfl
        (.after (b := .callbackReturn) rfl (.silent ⟨fun _ => vacant rfl, NNG_OK, rfl⟩)))
    | _ => cases taken
  | failed err =>
    cases errand with
    | sending msg =>
      cases taken
      exact .after (b := .complete (.failed err)) rfl (.after (b := .callback) rfl
        (.after (b := .callbackReturn) rfl (.silent (parked_intro rfl err.val))))
    | receiving =>
      cases taken
      exact .after (b := .complete (.failed err)) rfl (.after (b := .callback) rfl
        (.after (b := .callbackReturn) rfl (.silent ⟨fun _ => vacant rfl, err.val, rfl⟩)))
    | _ => cases taken

/-- A failed send, once it is awake. -/
theorem run_sendFailed (msg : M) (err : NonZeroU32) :
    (machine M h).step
        ⟨⟨⟨⟨some msg, err.val, .idle⟩, .new, true⟩, kept⟩, .waiting .Sent .woken, .live⟩ .run =
      some (Mailbox.parked ⟨.none, kept, false⟩ err.val,
        [.sendReturned (.error (reported err, .fromRawUnchecked msg))]) := by
  have finish : ∀ s : State M, s.endpoint.aio = ⟨⟨some msg, err.val, .idle⟩, .new, true⟩ →
      sendFinish s = ({ s with endpoint := ⟨idleAio err.val, s.endpoint.recoveredMsg⟩, future := .none },
        [.sendReturned (.error (reported err, .fromRawUnchecked msg))]) := by
    intro s aio
    unfold sendFinish
    rw [aio, Aio.waitResult_failed rfl err.property (errorOf_val err)]
    rfl
  exact congrArg some (finish _ rfl)

/-- A failed receive, once it is awake. -/
theorem run_receiveFailed (err : NonZeroU32) :
    (machine M h).step
        ⟨⟨⟨⟨none, err.val, .idle⟩, .new, false⟩, kept⟩, .waiting .Received .woken, .live⟩ .run =
      some (Mailbox.parked ⟨.none, kept, false⟩ err.val,
        [.recvReturned (.error (reported err))]) := by
  have finish : ∀ s : State M, s.endpoint.aio = ⟨⟨none, err.val, .idle⟩, .new, false⟩ →
      recvFinish s = ({ s with endpoint := ⟨idleAio err.val, s.endpoint.recoveredMsg⟩, future := .none },
        [.recvReturned (.error (reported err))]) := by
    intro s aio
    unfold recvFinish
    rw [aio, Aio.waitResult_failed rfl err.property (errorOf_val err)]
    rfl
  exact congrArg some (finish _ rfl)

/-- A failed send whose future is being dropped. -/
theorem run_sendDropped (msg : M) (err : NonZeroU32) :
    (machine M h).step
        ⟨⟨⟨⟨some msg, err.val, .idle⟩, ⟨true, none⟩, true⟩, kept⟩, .waiting .Sent .cancelled, .live⟩
        .run =
      some (Mailbox.parked ⟨.none, kept, false⟩ err.val, [.freed msg, .cancelled]) := by
  have guard : Aio.guardDrop (⟨⟨some msg, err.val, .idle⟩, ⟨true, none⟩, true⟩ : Aio M) =
      .ok (some (.fromRawUnchecked msg), idleAio err.val) := by
    rw [Aio.guardDrop_of_permit rfl rfl, if_pos rfl]
    exact if_neg err.property
  have finish : ∀ s : State M, s.endpoint.aio = ⟨⟨some msg, err.val, .idle⟩, ⟨true, none⟩, true⟩ →
      sendDropped s = ({ s with endpoint := ⟨idleAio err.val, s.endpoint.recoveredMsg⟩, future := .none },
        [.freed msg, .cancelled]) := by
    intro s aio
    unfold sendDropped
    rw [aio, guard]
    rfl
  exact congrArg some (finish _ rfl)

theorem follows_collect {errand : Errand M}
    (taken : Mailbox.collect ⟨errand, kept, false⟩ = some (box, out)) :
    Follows h errand kept result out box := by
  cases errand with
  | sent =>
    cases taken
    exact .after (b := .poll) rfl (.step (b := .run) rfl (parked_intro rfl NNG_OK))
  | sendFailed msg err =>
    cases taken
    exact .after (b := .poll) rfl (.step (run_sendFailed msg err) (parked_intro rfl err.val))
  | received msg =>
    cases taken
    exact .after (b := .poll) rfl (.step (b := .run) rfl (parked_intro rfl NNG_OK))
  | receiveFailed err =>
    cases taken
    exact .after (b := .poll) rfl (.step (run_receiveFailed err) (parked_intro rfl err.val))
  | _ => cases taken

theorem follows_cancel {errand : Errand M}
    (taken : Mailbox.cancel ⟨errand, kept, false⟩ = some (box, out))
    (vacant : errand.receives = true → kept = none) :
    Follows h errand kept result out box := by
  cases errand with
  | toSend message =>
    cases taken
    exact .step (b := .drop) rfl (parked_intro rfl result)
  | toReceive =>
    cases taken
    exact .step (b := .drop) rfl (parked_intro rfl result)
  | sent =>
    cases taken
    exact .after (b := .drop) rfl (.after (b := .run) rfl
      (.step (b := .run) rfl (parked_intro rfl NNG_OK)))
  | sendFailed msg err =>
    cases taken
    exact .after (b := .drop) rfl (.after (b := .run) rfl
      (.step (run_sendDropped msg err) (parked_intro rfl err.val)))
  | received msg =>
    cases taken
    obtain rfl := vacant rfl
    exact .after (b := .drop) rfl (.after (b := .run) rfl
      (.step (b := .run) rfl (parked_intro rfl NNG_OK)))
  | receiveFailed err =>
    cases taken
    exact .after (b := .drop) rfl (.after (b := .run) rfl
      (.step (b := .run) rfl (parked_intro rfl err.val)))
  | _ => cases taken

/-- **A handle simulates its mailbox.** -/
theorem handle_simulates (h : Handle) : Simulation (mailbox M h) (machine M h) Parked where
  start := ⟨nofun, NNG_OK, rfl⟩
  answered := by
    rintro ⟨errand, kept, closed⟩ _ a box out ⟨vacant, result, rfl⟩ stepped
    cases closed with
    | true => cases stepped
    | false =>
      rw [mailbox_step rfl] at stepped
      cases a with
      | send message => exact follows_free (.sendMsg message) stepped (fun _ => rfl) fun _ => rfl
      | receive => exact follows_free .recvMsg stepped (fun _ => rfl) fun _ => rfl
      | ask returned => exact follows_ask stepped
      | depart => exact follows_depart stepped
      | settle completion => exact follows_settle stepped vacant
      | collect => exact follows_collect stepped
      | cancel => exact follows_cancel stepped vacant
      | close =>
        refine follows_free .close stepped ?_ ?_
        · rintro rfl
          rfl
        · rintro rfl
          rfl

end Up

/-- **A handle shows exactly what a mailbox shows.** Whatever the polls, the wake-ups, the callback and
the guards do, the caller and the library see the events of a mailbox with one errand at a time, and
all that a mailbox can show, some run of the handle shows. -/
theorem handle_shows_iff_mailbox (h : Handle) (shown : List (Event M)) :
    (machine M h).Shows shown ↔ (mailbox M h).Shows shown :=
  shows_iff (mailbox_simulates h) (handle_simulates h) shown

end Mailbox

end NngRs.Anng
