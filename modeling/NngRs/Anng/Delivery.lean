/-
**Receiving is a first-in first-out queue, cancelled or not.**

What the component is for: messages come out of a handle in the order the library delivers them, each
one once. The queue is abstract; `pending` reads its content off the handle: the recovered message,
or the message a completed receive left in the aio.

* `Move.carries` — each step moves messages through the queue in order.
* `Move.recovered` — what a step can do to a recovered message.
* `receive_cancellation_safe` — over every run: the messages delivered are the messages returned
  followed by the recovered one, and no receive is started over a recovered message.
-/

import NngRs.Anng.Moves
import NngRs.Machine.Fifo

namespace NngRs.Anng

open NngRs.Sys EventMachine QueueFlow

variable {M : Type}

/-- What an event moves through the queue. -/
def Event.flow : Event M → Option (QueueFlow (Message M))
  | .delivered msg => some (.arrive (.fromRawUnchecked msg))
  | .recvReturned (.ok msg) => some (.leave msg)
  | .tryRecvReturned (.ok (some msg)) => some (.leave msg)
  | _ => none

/-- The messages the library delivered, oldest first. -/
def delivered (history : List (Event M)) : List (Message M) :=
  (history.filterMap Event.flow).filterMap arrival

/-- The messages `recv_msg` and `try_recv_msg` returned, oldest first. -/
def returned (history : List (Event M)) : List (Message M) :=
  (history.filterMap Event.flow).filterMap departure

/-- The messages a handle holds for its caller. -/
def State.pending (s : State M) : List (Message M) :=
  match s.future with
  | .waiting .Received _ => (s.endpoint.aio.aio.msg.map .fromRawUnchecked).toList
  | _ => s.endpoint.recoveredMsg.toList

section Pending

variable {h : Handle} {s s' : State M} {act : Action M} {out : List (Event M)}

theorem pending_of_receiving {point : WaitPoint} (live : s.future = .waiting .Received point) :
    s.pending = (s.endpoint.aio.aio.msg.map .fromRawUnchecked).toList := by
  rw [State.pending, live]

theorem pending_of_not_receiving (live : ∀ point, s.future ≠ .waiting .Received point) :
    s.pending = s.endpoint.recoveredMsg.toList := by
  unfold State.pending
  split
  · exact absurd ‹_› (live _)
  · rfl

theorem pending_withNng_receiving {point : WaitPoint}
    (live : s.future = .waiting .Received point) (aio : NngAio M) :
    (s.withNng aio).pending = (aio.msg.map .fromRawUnchecked).toList :=
  pending_of_receiving (s := s.withNng aio) live

theorem pending_withNng_sending {point : WaitPoint} (live : s.future = .waiting .Sent point)
    (aio : NngAio M) : (s.withNng aio).pending = s.endpoint.recoveredMsg.toList :=
  pending_of_not_receiving (s := s.withNng aio) fun _ same => nomatch live.symm.trans same

/-! ### One step -/

/-- **Each step moves messages through the queue in order**, but for the one that drops the handle. -/
theorem Move.carries (sound : Sound s) (move : Move h s act s' out) (open' : act ≠ .close) :
    Carries s.pending (out.filterMap Event.flow) s'.pending := by
  cases move with
  | close => exact absurd rfl open'
  | sendMsg _ free | recvMsg free | dropSendNew _ free | dropRecvNew free =>
    rw [pending_of_not_receiving (s := s) fun _ => by rw [free]; nofun]
    exact .still _
  | tryRecovered _ msg free recovered =>
    rw [pending_of_not_receiving (s := s) fun _ => by rw [free]; nofun, recovered,
      pending_of_not_receiving (s := s.recover none) fun _ => by
        show s.future ≠ _
        rw [free]; nofun]
    exact .leave msg (.still _)
  | tryReceived msg free vacant =>
    rw [pending_of_not_receiving (s := s) fun _ => by rw [free]; nofun, vacant]
    exact .arrive _ (.leave _ (.still _))
  | tryRefused _ result _ _ empty =>
    have silent : (Event.tryRecvReturned result).flow = none := by
      match result, empty with
      | .ok none, _ => rfl
      | .error _, _ => rfl
      | .ok (some msg), empty => exact absurd rfl (empty msg)
    rw [List.filterMap_cons_none rfl, List.filterMap_cons_none silent]
    exact .still _
  | tryPanicked => exact .still _
  | sendStart message live =>
    rw [pending_of_not_receiving (s := s) fun _ => by rw [live]; nofun]
    exact .still _
  | recvRecovered msg live recovered =>
    rw [pending_of_not_receiving (s := s) fun _ => by rw [live]; nofun, recovered]
    exact .leave msg (.still _)
  | recvStart live vacant =>
    rw [pending_of_not_receiving (s := s) fun _ => by rw [live]; nofun, vacant]
    exact .still _
  | turn _ implication point point' _ live | callback implication point live
  | callbackReturn implication point live =>
    cases implication with
    | Sent =>
      rw [pending_of_not_receiving (s := s) fun _ => by rw [live]; nofun]
      first
        | exact .still _
        | (rw [pending_withNng_sending live]
           exact .still _)
    | Received =>
      rw [pending_of_receiving live]
      first
        | exact .still _
        | (rw [pending_withNng_receiving live]; exact .still _)
  | sendOk live | sendFailed _ _ live | sendDroppedOk live | sendDroppedFailed _ live =>
    rw [pending_of_not_receiving (s := s) fun _ => by rw [live]; nofun]
    exact .still _
  | recvOk msg live _ _ held =>
    rw [pending_of_receiving live, held, pending_of_not_receiving (s := s.ended _) fun _ => by nofun]
    have vacant := sound.recovered_none live
    show Carries _ _ s.endpoint.recoveredMsg.toList
    rw [vacant]
    exact .leave _ (.still _)
  | recvFailed _ live _ _ empty | recvDroppedFailed live _ empty =>
    rw [pending_of_receiving live, empty, pending_of_not_receiving (s := s.ended _) fun _ => by nofun]
    have vacant := sound.recovered_none live
    show Carries _ _ s.endpoint.recoveredMsg.toList
    rw [vacant]
    exact .still _
  | recvDroppedOk msg live _ held _ =>
    rw [pending_of_receiving live, held]
    exact .still _
  | completeSent point msg stale live =>
    rw [pending_of_not_receiving (s := s) fun _ => by rw [live]; nofun,
      pending_withNng_sending live]
    exact .still _
  | completeReceived point msg live _ empty =>
    rw [pending_of_receiving live, empty,
      pending_withNng_receiving live]
    exact .arrive _ (.still _)
  | completeFailed implication point err live =>
    cases implication with
    | Sent =>
      rw [pending_of_not_receiving (s := s) fun _ => by rw [live]; nofun,
        pending_withNng_sending live]
      exact .still _
    | Received =>
      rw [pending_of_receiving live,
        pending_withNng_receiving live]
      exact .still _

/-- A library call that can hand over a message is made over an empty slot only. -/
theorem Move.native (move : Move h s act s' out)
    (asked : .started (h.startCall .Received) ∈ out ∨ .called h.recvmsgCall ∈ out) :
    s.endpoint.recoveredMsg = none := by
  cases move with
  | tryReceived _ _ vacant | tryRefused _ _ _ vacant | tryPanicked _ _ _ vacant
  | recvStart _ vacant => exact vacant
  | sendStart =>
    have other : h.startCall .Received ≠ h.startCall .Sent := by cases h <;> decide
    simp only [List.mem_singleton, Event.started.injEq, reduceCtorEq, or_false] at asked
    exact absurd asked other
  | close =>
    cases recovered : s.endpoint.recoveredMsg with
    | none => rfl
    | some msg => rw [recovered] at asked; simp at asked
  | _ => simp at asked

/-- **A recovered message stays until it is returned**, or the handle is dropped. -/
theorem Move.recovered (sound : Sound s) (move : Move h s act s' out) {msg : Message M}
    (held : s.endpoint.recoveredMsg = some msg) :
    s'.endpoint.recoveredMsg = some msg ∨
      s'.endpoint.recoveredMsg = none ∧
        (out = [.recvReturned (.ok msg)] ∨ out = [.tryRecvReturned (.ok (some msg))] ∨
          act = .close) := by
  cases move with
  | tryRecovered _ found _ recovered =>
    obtain rfl : found = msg := Option.some.inj (recovered.symm.trans held)
    exact .inr ⟨rfl, .inr (.inl rfl)⟩
  | recvRecovered found _ recovered =>
    obtain rfl : found = msg := Option.some.inj (recovered.symm.trans held)
    exact .inr ⟨rfl, .inl rfl⟩
  | close => exact .inr ⟨rfl, .inr (.inr rfl)⟩
  | recvDroppedOk _ live =>
    rw [sound.recovered_none live] at held
    cases held
  | _ => exact .inl held

/-! ### Runs -/

/-- While the handle is open, a run is a stretch of flows through the queue. -/
theorem carries_of_run {trace : List (Transition (State M) (Action M) (Event M))}
    (run : (machine M h).Run trace s) (open' : s.status = .live) :
    Carries [] ((events trace).filterMap Event.flow) s.pending := by
  induction run with
  | nil => exact .still []
  | @snoc trace s s' a out earlier stepped ih =>
    have sound := sound_of_reachable ⟨_, earlier⟩
    obtain ⟨live, move⟩ := step_move sound stepped
    have notClose : a ≠ .close := by
      rintro rfl
      cases move with
      | close => cases open'
      | turn _ _ _ _ thread => simp at thread
    rw [events_append, events_singleton, List.filterMap_append]
    exact (ih live).trans (move.carries sound notClose)

end Pending

/-- **Receive cancellation loses, duplicates and reorders nothing.** While the handle is open and no
future is live, the messages the library delivered, in order, are the messages returned, in order,
followed by the recovered message. In every step of the run a native receive is made over an empty
`recovered_msg` only, and a recovered message stays until it is returned or the handle is dropped. -/
theorem receive_cancellation_safe (h : Handle)
    {trace : List (Transition (State M) (Action M) (Event M))} {s : State M}
    (run : (machine M h).Run trace s) :
    (s.status = .live → s.future = .none →
      delivered (events trace) = returned (events trace) ++ s.endpoint.recoveredMsg.toList) ∧
      ∀ t ∈ trace,
        (.started (h.startCall .Received) ∈ t.out ∨ .called h.recvmsgCall ∈ t.out →
          t.pre.endpoint.recoveredMsg = none) ∧
        ∀ msg, t.pre.endpoint.recoveredMsg = some msg →
          t.post.endpoint.recoveredMsg = some msg ∨
            t.post.endpoint.recoveredMsg = none ∧
              (t.out = [.recvReturned (.ok msg)] ∨ t.out = [.tryRecvReturned (.ok (some msg))] ∨
                t.act = .close) := by
  refine ⟨fun open' free => ?_, fun t member => ?_⟩
  · have conserved := (carries_of_run run open').conserved
    rw [pending_of_not_receiving fun _ => by rw [free]; nofun, List.nil_append] at conserved
    exact conserved
  · obtain ⟨reached, stepped⟩ := run.before t member
    have sound := sound_of_reachable reached
    obtain ⟨_, move⟩ := step_move sound stepped
    exact ⟨move.native, fun _ held => move.recovered sound held⟩

/-- The second of three messages is recovered from a dropped receive, and returned before the third. -/
theorem receive_cancellation_safe_bus :
    ∃ (trace : List (Transition (State Nat) (Action Nat) (Event Nat))) (s : State Nat),
      (machine Nat .Context).Run trace s ∧ s.endpoint.recoveredMsg = none ∧
        returned (events trace) = [⟨1, 0⟩, ⟨2, 0⟩, ⟨3, 0⟩] ∧
        delivered (events trace) = [⟨1, 0⟩, ⟨2, 0⟩, ⟨3, 0⟩] := by
  have run := run_of_replay (M := machine Nat .Context)
    [.recvMsg, .poll, .complete (.received 1), .callback, .callbackReturn, .run, .run,
      .recvMsg, .poll, .run, .complete (.received 2), .drop, .run, .callback, .callbackReturn, .run,
      .tryRecvMsg ⟨0, some 3⟩, .tryRecvMsg ⟨0, some 3⟩]
    rfl
  exact ⟨_, _, run, rfl, rfl, (receive_cancellation_safe .Context run).1 rfl rfl⟩

end NngRs.Anng
