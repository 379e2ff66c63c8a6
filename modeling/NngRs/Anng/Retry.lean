/-
**A failed send returns its message, read from the start.**

`send_msg` takes its message apart into the library's message and a read position, and puts only the
library's message into the aio. When the send fails, `take_message` wraps what is in the aio again, at
position zero. The watcher remembers the message that was passed, and shows each failed send with the
message it returned and what it left in the aio.

* `Passing` — the invariant: the aio of a live send holds the message that was passed.
* `failed_send_iff` — over every run, for each failed send: the library's message comes back and the aio
  holds none; the message is returned as it was passed exactly when nothing of it was read.
-/

import NngRs.Anng.Moves
import NngRs.Machine.Watch

namespace NngRs.Anng

open NngRs.Sys EventMachine

variable {M : Type}

/-- A `send_msg` that returned an error. -/
structure FailedSend (M : Type) where
  /-- The message that was passed to the call. -/
  passed : Option (Message M)
  error : AioError
  returned : Message M
  /-- What the aio holds afterwards. -/
  held : Option M
deriving DecidableEq

/-- **The message is returned as it was passed**, so that sending it again is sending the same, and the
aio holds no message. -/
structure FailedSend.AsPassed (failure : FailedSend M) : Prop where
  same : failure.passed = some failure.returned
  empty : failure.held = none

/-- A failed send, when one of the events is the return of one. -/
def Event.failedSend (passed : Option (Message M)) (held : Option M) : Event M → Option (FailedSend M)
  | .sendReturned (.error (error, returned)) => some ⟨passed, error, returned, held⟩
  | _ => none

/-- Remembers the message that was passed last, and shows the failed sends. -/
def passing (M : Type) :
    Watcher (State M) (Action M) (Event M) (Option (Message M)) Empty (FailedSend M) where
  start := none
  react passed t :=
    match t.act with
    | .sendMsg message => some (some message, [])
    | _ => some (passed, t.out.filterMap (Event.failedSend passed t.post.endpoint.aio.aio.msg))
  own _ _ := nofun

section Invariant

variable {h : Handle} {s s' : State M} {passed passed' : Option (Message M)} {act : Action M}
  {out : List (Event M)} {history shown : List (FailedSend M)}

/-- What a live send says about the message that was passed. -/
def Future.Carries (passed : Option (Message M)) (held : Option M) : Future M → Prop
  | .sendNew message => passed = some message
  | .waiting .Sent _ => ∃ message, passed = some message ∧ ∀ msg, held = some msg → msg = message.inner
  | _ => True

/-- A failed send returned the library's message of what was passed, at position zero. -/
def FailedSend.Rewound (failure : FailedSend M) : Prop :=
  ∃ message, failure.passed = some message
    ∧ failure.returned = .fromRawUnchecked message.inner ∧ failure.held = none

/-- **The invariant**: a live send carries the message that was passed, and the failed ones gave theirs
back. -/
structure Passing (history : List (FailedSend M)) (s : State M) (passed : Option (Message M)) :
    Prop where
  carries : s.future.Carries passed s.endpoint.aio.aio.msg
  failures : ∀ failure ∈ history, failure.Rewound

/-- A step that shows no failed send, after which no send is live. -/
theorem Passing.quiet (inv : Passing history s passed) (shown' : shown = [])
    (carries : s'.future.Carries passed s'.endpoint.aio.aio.msg) :
    Passing (history ++ shown) s' passed := by
  refine ⟨carries, ?_⟩
  rw [shown', List.append_nil]
  exact inv.failures

/-- A live send goes on, and the aio holds what it held. -/
theorem Passing.goesOn (inv : Passing history s passed) (shown' : shown = [])
    {implication : ImplicationOnMessage} {point point' : WaitPoint}
    (live : s.future = .waiting implication point) (live' : s'.future = .waiting implication point')
    (same : s'.endpoint.aio.aio.msg = s.endpoint.aio.aio.msg) :
    Passing (history ++ shown) s' passed := by
  refine inv.quiet shown' ?_
  have carries := inv.carries
  rw [live] at carries
  rw [live', same]
  cases implication with
  | Sent => exact carries
  | Received => trivial

/-- **A step keeps the invariant.** -/
theorem Passing.step (inv : Passing history s passed) (move : Move h s act s' out)
    (reacted : (passing M).react passed ⟨s, act, s', out⟩ = some (passed', shown)) :
    Passing (history ++ shown) s' passed' := by
  have carries := inv.carries
  cases move with
  | sendMsg message free =>
    cases reacted
    refine ⟨rfl, ?_⟩
    rw [List.append_nil]
    exact inv.failures
  | sendStart message live =>
    cases reacted
    rw [live] at carries
    refine inv.quiet rfl ⟨message, carries, fun msg held => ?_⟩
    exact (Option.some.inj held).symm
  | sendFailed msg e live stage failed held reported =>
    cases reacted
    rw [live] at carries
    obtain ⟨message, known, only⟩ := carries
    refine ⟨trivial, fun failure member => ?_⟩
    rcases List.mem_append.mp member with old | new
    · exact inv.failures failure old
    · cases List.mem_singleton.mp new
      refine ⟨message, known, ?_, rfl⟩
      show Message.fromRawUnchecked msg = _
      rw [only msg held]
  | completeSent point msg stale live stage held =>
    cases reacted
    rw [live] at carries
    obtain ⟨message, known, only⟩ := carries
    refine inv.quiet rfl ?_
    show Future.Carries passed _ s.future
    rw [live]
    refine ⟨message, known, fun other left => only other ?_⟩
    cases stale with
    | true => exact held.trans left
    | false => cases left
  | completeReceived point msg live =>
    cases reacted
    refine inv.quiet rfl ?_
    show Future.Carries passed _ s.future
    rw [live]
    trivial
  | turn _ implication point point' thread live =>
    rcases thread with rfl | rfl | rfl <;> cases reacted <;> exact inv.goesOn rfl live rfl rfl
  | completeFailed implication point err live =>
    cases reacted
    exact inv.goesOn rfl live live rfl
  | callback implication point live =>
    cases reacted
    exact inv.goesOn rfl live rfl rfl
  | callbackReturn implication point live =>
    cases reacted
    exact inv.goesOn rfl live live rfl
  | tryRecovered _ _ free | tryReceived _ free | tryRefused _ _ free | tryPanicked _ _ free =>
    cases reacted
    refine inv.quiet rfl ?_
    show Future.Carries _ _ s.future
    rw [free]
    trivial
  | close free =>
    cases reacted
    refine inv.quiet ?_ ?_
    · cases recovered : s.endpoint.recoveredMsg <;> rfl
    · show Future.Carries _ _ s.future
      rw [free]
      trivial
  | recvMsg | recvRecovered | recvStart | sendOk | recvOk | recvFailed | dropSendNew | dropRecvNew
  | sendDroppedOk | sendDroppedFailed | recvDroppedOk | recvDroppedFailed =>
    cases reacted
    exact inv.quiet rfl trivial

end Invariant

/-- Over every run, every failed send gave back the library's message that was passed. -/
theorem rewound_of_run {h : Handle} {s : State M × Option (Message M)}
    {trace : List (Transition (State M × Option (Message M)) (Action M ⊕ Empty) (FailedSend M))}
    (run : ((machine M h).watched (passing M)).Run trace s) :
    ∀ failure ∈ events trace, failure.Rewound := by
  refine (run.watched_invariant (fun _ reached => sound_of_reachable reached) (fun _ => True)
    (I := fun history state => Passing history state.1 state.2)
    ⟨trivial, fun _ member => absurd member List.not_mem_nil⟩ ?_ ?_ fun _ _ => trivial).failures
  · intro history s passed a s' out passed' shown sound _ inv stepped reacted _
    obtain ⟨-, move⟩ := step_move sound stepped
    exact inv.step move reacted
  · intro history s passed b
    exact b.elim

/-- **A failed send returns the message as it was passed exactly when nothing of it was read.** Over
every run of a `Socket` or a `Context`, for every `send_msg` that returns an error: the library's
message comes back and the aio holds none, and it is the message that was passed, ready to be sent
again as it was, exactly when that one's read position was zero. -/
theorem failed_send_iff {h : Handle} {s : State M × Option (Message M)}
    {trace : List (Transition (State M × Option (Message M)) (Action M ⊕ Empty) (FailedSend M))}
    (run : ((machine M h).watched (passing M)).Run trace s) :
    ∀ failure ∈ events trace, ∃ message, failure.passed = some message
      ∧ failure.returned.inner = message.inner ∧ failure.held = none
      ∧ (failure.AsPassed ↔ message.pos = 0) := by
  intro failure member
  obtain ⟨message, known, returned, empty⟩ := rewound_of_run run failure member
  refine ⟨message, known, ?_, empty, fun whole => ?_, fun unread => ⟨?_, empty⟩⟩
  · rw [returned]
    rfl
  · have same : message = .fromRawUnchecked message.inner :=
      Option.some.inj (known.symm.trans (whole.same.trans (congrArg some returned)))
    rw [same]
    rfl
  · rw [known, returned, Message.fromRawUnchecked, ← unread]

/-- A send that times out, and then another attempt with what came back. -/
def failOnce (message : Message Nat) : List (Action Nat ⊕ Empty) :=
  [.inl (.sendMsg message), .inl .poll, .inl .run, .inl (.complete (.failed ⟨5, by decide⟩)),
    .inl .callback, .inl .callbackReturn, .inl .poll, .inl .run]

/-- An unread message is returned as it was passed. -/
theorem failed_send_unread :
    ∃ (trace : List (Transition (State Nat × Option (Message Nat)) (Action Nat ⊕ Empty)
        (FailedSend Nat))) (s : State Nat × Option (Message Nat)),
      ((machine Nat .Socket).watched (passing Nat)).Run trace s
        ∧ events trace = [⟨some ⟨7, 0⟩, .TimedOut, ⟨7, 0⟩, none⟩]
        ∧ FailedSend.AsPassed (M := Nat) ⟨some ⟨7, 0⟩, .TimedOut, ⟨7, 0⟩, none⟩ := by
  have run := run_of_replay (M := (machine Nat .Socket).watched (passing Nat)) (failOnce ⟨7, 0⟩) rfl
  obtain ⟨message, known, -, -, whole⟩ := failed_send_iff run _ (List.mem_singleton.mpr rfl)
  cases known
  exact ⟨_, _, run, rfl, whole.mpr rfl⟩

/-- **Not every failed send returns the message as it was passed**: of a message with two bytes read, the
read position is lost. -/
theorem failed_send_rewinds :
    ¬ ∀ (h : Handle) (s : State Nat × Option (Message Nat))
      (trace : List (Transition (State Nat × Option (Message Nat)) (Action Nat ⊕ Empty)
        (FailedSend Nat))), ((machine Nat h).watched (passing Nat)).Run trace s →
        ∀ failure ∈ events trace, failure.AsPassed := by
  intro always
  have run := run_of_replay (M := (machine Nat .Socket).watched (passing Nat)) (failOnce ⟨7, 2⟩) rfl
  have whole := always .Socket _ _ run ⟨some ⟨7, 2⟩, .TimedOut, ⟨7, 0⟩, none⟩
    (List.mem_singleton.mpr rfl)
  exact absurd whole.same (by decide)

end NngRs.Anng
