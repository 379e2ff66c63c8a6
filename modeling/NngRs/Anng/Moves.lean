/-
**What a step of a sound handle can be.**

* `Move` — one constructor for each way a step goes from a sound state. The error arms a sound state
  never takes are gone, and the effect of the others is written out.
* `step_move` — every step of a sound state is a move.
* `Move.sound` — a move leaves a sound state.
* `sound_of_reachable` — so every reachable state is sound, and later results argue about moves.
-/

import NngRs.Anng.Sound

namespace NngRs.Anng

open NngRs.Sys EventMachine

variable {M : Type}

/-- The aio of a handle that has just started to send `msg`, or to receive. -/
def startedAio (result : NngErr) : ImplicationOnMessage → Option M → Aio M
  | .Sent, msg => ⟨⟨msg, result, .pending .Sent⟩, .new, true⟩
  | .Received, msg => ⟨⟨msg, result, .pending .Received⟩, .new, false⟩

/-- A handle whose future has just started an operation. -/
def State.begun (s : State M) (implication : ImplicationOnMessage) (msg : Option M) : State M :=
  { s with
    endpoint := { s.endpoint with aio := startedAio s.endpoint.aio.aio.result implication msg }
    future := .waiting implication .polling }

/-- A handle with another recovered message. -/
def State.recover (s : State M) (recovered : Option (Message M)) : State M :=
  { s with endpoint := { s.endpoint with recoveredMsg := recovered } }

/-- A handle whose future moves to another point of its wait. -/
def State.turned (s : State M) (implication : ImplicationOnMessage) (point : WaitPoint) : State M :=
  s.moveTo implication (point.signal s.endpoint.aio.aio.stage.fired) point

/-- **The steps of a sound state.** -/
inductive Move (h : Handle) (s : State M) : Action M → State M → List (Event M) → Prop
  | sendMsg (message : Message M) : s.future = .none →
      Move h s (.sendMsg message) { s with future := .sendNew message } []
  | recvMsg : s.future = .none → Move h s .recvMsg { s with future := .recvNew } []
  | tryRecovered (returned : Recvmsg M) (msg : Message M) : s.future = .none →
      s.endpoint.recoveredMsg = some msg →
      Move h s (.tryRecvMsg returned) (s.recover none) [.tryRecvReturned (.ok (some msg))]
  | tryReceived (msg : M) : s.future = .none → s.endpoint.recoveredMsg = none →
      Move h s (.tryRecvMsg ⟨0, some msg⟩) s
        [.called h.recvmsgCall, .delivered msg,
          .tryRecvReturned (.ok (some (.fromRawUnchecked msg)))]
  | tryRefused (returned : Recvmsg M) (result : Except AioError (Option (Message M))) :
      s.future = .none → s.endpoint.recoveredMsg = none → (∀ msg, result ≠ .ok (some msg)) →
      recvmsgResult returned = .ok result →
      Move h s (.tryRecvMsg returned) s [.called h.recvmsgCall, .tryRecvReturned result]
  | tryPanicked (returned : Recvmsg M) (p : Panic) :
      s.future = .none → s.endpoint.recoveredMsg = none → recvmsgResult returned = .error p →
      Move h s (.tryRecvMsg returned) s [.called h.recvmsgCall, .panicked p]
  | close : s.future = .none →
      Move h s .close { s.recover none with status := .closed } (dropped s.endpoint.recoveredMsg)
  | sendStart (message : Message M) : s.future = .sendNew message →
      Move h s .poll (s.begun .Sent (some message.intoPtr)) [.started (h.startCall .Sent)]
  | recvRecovered (msg : Message M) : s.future = .recvNew → s.endpoint.recoveredMsg = some msg →
      Move h s .poll { s.recover none with future := .none } [.recvReturned (.ok msg)]
  | recvStart : s.future = .recvNew → s.endpoint.recoveredMsg = none →
      Move h s .poll (s.begun .Received none) [.started (h.startCall .Received)]
  | turn (a : Action M) (implication : ImplicationOnMessage) (point point' : WaitPoint) :
      a = .poll ∨ a = .run ∨ a = .drop → s.future = .waiting implication point →
      (point' = .woken → s.endpoint.aio.aio.stage.fired = true) →
      Move h s a (s.turned implication point') []
  | sendOk : s.future = .waiting .Sent .woken → s.endpoint.aio.aio.stage = .idle →
      s.endpoint.aio.aio.result = NNG_OK →
      Move h s .run (s.ended s.endpoint.recoveredMsg) [.sendReturned (.ok ())]
  | sendFailed (msg : M) (e : AioError) : s.future = .waiting .Sent .woken →
      s.endpoint.aio.aio.stage = .idle → s.endpoint.aio.aio.result ≠ NNG_OK →
      s.endpoint.aio.aio.msg = some msg → Aio.errorOf s.endpoint.aio.aio.result = some e →
      Move h s .run (s.ended s.endpoint.recoveredMsg)
        [.sendReturned (.error (e, .fromRawUnchecked msg))]
  | recvOk (msg : M) : s.future = .waiting .Received .woken → s.endpoint.aio.aio.stage = .idle →
      s.endpoint.aio.aio.result = NNG_OK → s.endpoint.aio.aio.msg = some msg →
      Move h s .run (s.ended s.endpoint.recoveredMsg) [.recvReturned (.ok (.fromRawUnchecked msg))]
  | recvFailed (e : AioError) : s.future = .waiting .Received .woken →
      s.endpoint.aio.aio.stage = .idle → s.endpoint.aio.aio.result ≠ NNG_OK →
      s.endpoint.aio.aio.msg = none → Aio.errorOf s.endpoint.aio.aio.result = some e →
      Move h s .run (s.ended s.endpoint.recoveredMsg) [.recvReturned (.error e)]
  | dropSendNew (message : Message M) : s.future = .sendNew message →
      Move h s .drop { s with future := .none } [.freed message.inner, .cancelled]
  | dropRecvNew : s.future = .recvNew → Move h s .drop { s with future := .none } [.cancelled]
  | sendDroppedOk : s.future = .waiting .Sent .cancelled → s.endpoint.aio.aio.stage = .idle →
      s.endpoint.aio.aio.result = NNG_OK →
      Move h s .run (s.ended s.endpoint.recoveredMsg) [.cancelled]
  | sendDroppedFailed (msg : M) : s.future = .waiting .Sent .cancelled →
      s.endpoint.aio.aio.stage = .idle → s.endpoint.aio.aio.result ≠ NNG_OK →
      s.endpoint.aio.aio.msg = some msg →
      Move h s .run (s.ended s.endpoint.recoveredMsg) [.freed msg, .cancelled]
  | recvDroppedOk (msg : M) : s.future = .waiting .Received .cancelled →
      s.endpoint.aio.aio.stage = .idle → s.endpoint.aio.aio.msg = some msg →
      s.endpoint.recoveredMsg = none →
      Move h s .run (s.ended (some (.fromRawUnchecked msg))) [.cancelled]
  | recvDroppedFailed : s.future = .waiting .Received .cancelled →
      s.endpoint.aio.aio.stage = .idle → s.endpoint.aio.aio.msg = none →
      Move h s .run (s.ended s.endpoint.recoveredMsg) [.cancelled]
  | completeSent (point : WaitPoint) (msg : M) (stale : Bool) : s.future = .waiting .Sent point →
      s.endpoint.aio.aio.stage = .pending .Sent → s.endpoint.aio.aio.msg = some msg →
      Move h s (.complete (.sent stale))
        (s.withNng ⟨if stale then some msg else none, NNG_OK, .completed⟩) [.consumed msg]
  | completeReceived (point : WaitPoint) (msg : M) : s.future = .waiting .Received point →
      s.endpoint.aio.aio.stage = .pending .Received → s.endpoint.aio.aio.msg = none →
      Move h s (.complete (.received msg)) (s.withNng ⟨some msg, NNG_OK, .completed⟩)
        [.delivered msg]
  | completeFailed (implication : ImplicationOnMessage) (point : WaitPoint) (err : NonZeroU32) :
      s.future = .waiting implication point →
      s.endpoint.aio.aio.stage = .pending implication →
      Move h s (.complete (.failed err))
        (s.withNng ⟨s.endpoint.aio.aio.msg, err.val, .completed⟩) []
  | callback (implication : ImplicationOnMessage) (point : WaitPoint) :
      s.future = .waiting implication point → s.endpoint.aio.aio.stage = .completed →
      Move h s .callback
        ((s.withNng { s.endpoint.aio.aio with stage := .notified }).turned implication point) []
  | callbackReturn (implication : ImplicationOnMessage) (point : WaitPoint) :
      s.future = .waiting implication point → s.endpoint.aio.aio.stage = .notified →
      Move h s .callbackReturn (s.withNng { s.endpoint.aio.aio with stage := .idle }) []

/-! ### Every step of a sound state is a move -/

section StepMove

variable {h : Handle} {s s' : State M} {out : List (Event M)}

theorem step_live (live : s.status = .live) (a : Action M) : step h s a = stepLive h s a :=
  if_pos live

/-- Only a waiting future leaves the aio busy. -/
theorem Sound.waiting_of_busy (sound : Sound s) (busy : s.endpoint.aio.aio.stage ≠ .idle) :
    ∃ implication point, s.future = .waiting implication point ∧
      s.endpoint.aio.InFlight implication point := by
  have future := sound.future
  cases live : s.future with
  | waiting implication point =>
    rw [live] at future
    exact ⟨implication, point, rfl, future.1⟩
  | none | sendNew | recvNew =>
    rw [live] at future
    exact absurd (NngAio.busy_eq_false.mp (Aio.Idle.notBusy future)) busy

theorem Sound.inFlight (sound : Sound s) {implication : ImplicationOnMessage} {point : WaitPoint}
    (live : s.future = .waiting implication point) : s.endpoint.aio.InFlight implication point := by
  have future := sound.future
  rw [live] at future
  exact future.1

theorem Sound.recovered_none (sound : Sound s) {point : WaitPoint}
    (live : s.future = .waiting .Received point) : s.endpoint.recoveredMsg = none := by
  have future := sound.future
  rw [live] at future
  exact future.2 rfl

theorem Sound.idle (sound : Sound s) (live : ∀ implication point,
    s.future ≠ .waiting implication point) : s.endpoint.aio.Idle := by
  have future := sound.future
  cases shape : s.future with
  | waiting implication point => exact absurd shape (live implication point)
  | none | sendNew | recvNew =>
    rw [shape] at future
    exact future

theorem call_eq {after : State M × List (Event M)} (called : call s after = some (s', out)) :
    s.future = .none ∧ after = (s', out) := by
  unfold call at called
  cases live : s.future <;> rw [live] at called <;> cases called
  exact ⟨rfl, rfl⟩

theorem recvmsgError_silent {errno : UInt32} {msg : Message M} :
    recvmsgError errno ≠ .ok (.ok (some msg)) := by
  unfold recvmsgError
  repeat' split
  all_goals rintro ⟨⟩

/-- An answer of `nng_recvmsg` other than 0 brings no message. -/
theorem recvmsgResult_failed {returned : Recvmsg M} {msg : Message M} (failed : returned.errno ≠ 0) :
    recvmsgResult returned ≠ .ok (.ok (some msg)) := by
  unfold recvmsgResult
  by_cases negative : returned.errno < 0
  · rw [if_pos negative]
    rintro ⟨⟩
  · rw [if_neg negative, if_neg failed]
    exact recvmsgError_silent

theorem tryRecvMsg_move (free : s.future = .none) (returned : Recvmsg M) :
    Move h s (.tryRecvMsg returned) (tryRecvMsg h s returned).1
      (tryRecvMsg h s returned).2 := by
  unfold tryRecvMsg
  cases recovered : s.endpoint.recoveredMsg with
  | some msg => exact .tryRecovered returned msg free recovered
  | none =>
    obtain ⟨errno, slot⟩ := returned
    by_cases ok : errno = 0
    · subst ok
      cases slot with
      | some msg => exact .tryReceived msg free recovered
      | none => exact .tryPanicked _ _ free recovered rfl
    · have nothing : (Recvmsg.mk errno slot).handedOver = [] := by
        cases slot <;> simp [Recvmsg.handedOver, ok]
      cases answer : recvmsgResult (Recvmsg.mk errno slot) with
      | error p =>
        simp only [nothing]
        exact .tryPanicked _ _ free recovered answer
      | ok result =>
        simp only [nothing]
        refine .tryRefused _ _ free recovered (fun msg same => ?_) answer
        subst same
        exact recvmsgResult_failed ok answer

theorem poll_move (sound : Sound s) (stepped : poll h s = some (s', out)) :
    Move h s .poll s' out := by
  unfold poll at stepped
  cases live : s.future with
  | none => rw [live] at stepped; cases stepped
  | sendNew message =>
    rw [live] at stepped
    have idle := sound.idle fun _ _ => by rw [live]; nofun
    simp only [sendStart, Aio.setMessage_of_idle idle] at stepped
    cases stepped
    have shape := Move.sendStart (h := h) message live
    rw [State.begun, startedAio, ← idle.quiet] at shape
    exact shape
  | recvNew =>
    rw [live] at stepped
    have idle := sound.idle fun _ _ => by rw [live]; nofun
    simp only [recvStart] at stepped
    cases recovered : s.endpoint.recoveredMsg with
    | some msg =>
      rw [recovered] at stepped
      cases stepped
      exact .recvRecovered msg live recovered
    | none =>
      rw [recovered] at stepped
      cases stepped
      have shape := Move.recvStart (h := h) live recovered
      rw [State.begun, startedAio, ← idle.quiet, ← idle.msgNull, ← idle.notSet] at shape
      simp only [recovered] at shape
      exact shape
  | waiting implication point =>
    rw [live] at stepped
    cases point with
    | suspended =>
      have flight := sound.inFlight live
      have signal := flight.signal
      simp only [signal, WaitPoint.signal] at stepped
      cases fired : s.endpoint.aio.aio.stage.fired with
      | false =>
        rw [fired] at stepped
        cases stepped
        have shape := Move.turn (h := h) .poll implication .suspended .suspended (.inl rfl) live nofun
        rw [State.turned, fired] at shape
        exact shape
      | true =>
        rw [fired] at stepped
        cases stepped
        exact .turn .poll implication .suspended .woken (.inl rfl) live fun _ => fired
    | polling | woken | dropping | cancelled => cases stepped

theorem run_move (sound : Sound s) (stepped : run s = some (s', out)) : Move h s .run s' out := by
  unfold run at stepped
  cases live : s.future with
  | none | sendNew | recvNew => rw [live] at stepped; cases stepped
  | waiting implication point =>
    rw [live] at stepped
    have flight := sound.inFlight live
    cases point with
    | suspended => cases stepped
    | polling =>
      simp only [flight.signal, WaitPoint.signal] at stepped
      cases fired : s.endpoint.aio.aio.stage.fired with
      | false =>
        rw [fired] at stepped
        cases stepped
        have shape := Move.turn (h := h) .run implication .polling .suspended (.inr (.inl rfl)) live
          nofun
        rw [State.turned, fired] at shape
        exact shape
      | true =>
        rw [fired] at stepped
        cases stepped
        exact .turn .run implication .polling .woken (.inr (.inl rfl)) live fun _ => fired
    | dropping =>
      cases stepped
      have shape := Move.turn (h := h) .run implication .dropping .cancelled (.inr (.inl rfl)) live
        nofun
      have same : s.endpoint.aio.notify = _ := flight.signal
      rw [State.turned, State.moveTo, WaitPoint.signal] at shape
      rw [WaitPoint.signal] at same
      rw [← same] at shape
      exact shape
    | woken =>
      cases busy : s.endpoint.aio.aio.busy with
      | true => simp only [busy, if_true] at stepped; cases stepped
      | false =>
        have atRest := NngAio.busy_eq_false.mp busy
        simp only [busy, Bool.false_eq_true, if_false] at stepped
        cases implication with
        | Sent =>
          by_cases ok : s.endpoint.aio.aio.result = NNG_OK
          · rw [sendFinish_ok flight busy ok] at stepped
            cases stepped
            exact .sendOk live atRest ok
          · obtain ⟨msg, held⟩ := flight.sending rfl (.inr ok)
            obtain ⟨e, reported⟩ := Option.isSome_iff_exists.mp (Aio.errorOf_isSome ok)
            rw [sendFinish_failed flight busy ok held reported] at stepped
            cases stepped
            exact .sendFailed msg e live atRest ok held reported
        | Received =>
          have holds := flight.receiving rfl
          rw [atRest] at holds
          by_cases ok : s.endpoint.aio.aio.result = NNG_OK
          · obtain ⟨msg, held⟩ := holds.mp ⟨rfl, ok⟩
            rw [recvFinish_ok flight busy ok held] at stepped
            cases stepped
            exact .recvOk msg live atRest ok held
          · have empty : s.endpoint.aio.aio.msg = none :=
              Option.eq_none_iff_forall_ne_some.mpr fun msg held => ok (holds.mpr ⟨msg, held⟩).2
            obtain ⟨e, reported⟩ := Option.isSome_iff_exists.mp (Aio.errorOf_isSome ok)
            rw [recvFinish_failed flight busy ok empty reported] at stepped
            cases stepped
            exact .recvFailed e live atRest ok empty reported
    | cancelled =>
      cases busy : s.endpoint.aio.aio.busy with
      | true => simp only [busy, if_true] at stepped; cases stepped
      | false =>
        have atRest := NngAio.busy_eq_false.mp busy
        simp only [busy, Bool.false_eq_true, if_false] at stepped
        cases implication with
        | Sent =>
          by_cases ok : s.endpoint.aio.aio.result = NNG_OK
          · rw [sendDropped_ok flight busy ok] at stepped
            cases stepped
            exact .sendDroppedOk live atRest ok
          · obtain ⟨msg, held⟩ := flight.sending rfl (.inr ok)
            rw [sendDropped_failed flight busy ok held] at stepped
            cases stepped
            exact .sendDroppedFailed msg live atRest ok held
        | Received =>
          have empty := sound.recovered_none live
          cases slot : s.endpoint.aio.aio.msg with
          | some msg =>
            rw [recvDropped_ok flight busy slot empty] at stepped
            cases stepped
            exact .recvDroppedOk msg live atRest slot empty
          | none =>
            rw [recvDropped_failed flight busy slot] at stepped
            cases stepped
            exact .recvDroppedFailed live atRest slot

theorem drop_move (sound : Sound s) (stepped : drop s = some (s', out)) :
    Move h s .drop s' out := by
  unfold drop at stepped
  cases live : s.future with
  | none => rw [live] at stepped; cases stepped
  | sendNew message =>
    rw [live] at stepped
    cases stepped
    exact .dropSendNew message live
  | recvNew =>
    rw [live] at stepped
    cases stepped
    exact .dropRecvNew live
  | waiting implication point =>
    rw [live] at stepped
    cases point with
    | suspended =>
      have flight := sound.inFlight live
      simp only [flight.signal, WaitPoint.signal] at stepped
      have shape := Move.turn (h := h) .drop implication .suspended .dropping (.inr (.inr rfl)) live
        nofun
      cases fired : s.endpoint.aio.aio.stage.fired with
      | false =>
        rw [fired] at stepped
        cases stepped
        rw [State.turned, fired] at shape
        exact shape
      | true =>
        rw [fired] at stepped
        cases stepped
        rw [State.turned, fired] at shape
        exact shape
    | polling | woken | dropping | cancelled => cases stepped

theorem complete_move (sound : Sound s) {completion : Completion M}
    (stepped : complete s completion = some (s', out)) :
    Move h s (.complete completion) s' out := by
  unfold complete at stepped
  cases stage : s.endpoint.aio.aio.stage with
  | idle | completed | notified => rw [stage] at stepped; cases stepped
  | pending op =>
    rw [stage] at stepped
    obtain ⟨implication, point, live, flight⟩ := sound.waiting_of_busy (by rw [stage]; nofun)
    obtain rfl := flight.operation op stage
    cases completion with
    | failed err => cases op <;> cases stepped <;> exact .completeFailed _ point err live stage
    | sent stale =>
      cases op with
      | Received => cases stepped
      | Sent =>
        obtain ⟨msg, held⟩ := flight.sending rfl (.inl (by rw [stage]; rfl))
        simp only [held] at stepped
        cases stepped
        exact .completeSent point msg stale live stage held
    | received msg =>
      cases op with
      | Sent => cases stepped
      | Received =>
        have empty : s.endpoint.aio.aio.msg = none :=
          Option.eq_none_iff_forall_ne_some.mpr fun other held => by
            have done := ((flight.receiving rfl).mpr ⟨other, held⟩).1
            rw [stage] at done
            cases done
        cases stepped
        exact .completeReceived point msg live stage empty

theorem callback_move (sound : Sound s) (stepped : callback s = some (s', out)) :
    Move h s .callback s' out := by
  unfold callback at stepped
  cases stage : s.endpoint.aio.aio.stage with
  | idle | pending | notified => rw [stage] at stepped; cases stepped
  | completed =>
    rw [stage] at stepped
    obtain ⟨implication, point, live, flight⟩ := sound.waiting_of_busy (by rw [stage]; nofun)
    have signal := flight.signal
    have woken := flight.ownCallback
    rw [stage] at signal woken
    have shape := Move.callback (h := h) implication point live stage
    have waits : point ≠ .woken := fun same => nomatch woken same
    cases stepped
    obtain ⟨⟨⟨⟨msg, result, stage⟩, notify, wasSet⟩, recovered⟩, future, status⟩ := s
    obtain rfl : notify = _ := signal
    obtain rfl : future = _ := live
    cases point <;> first | exact shape | exact absurd rfl waits

theorem callbackReturn_move (sound : Sound s) (stepped : callbackReturn s = some (s', out)) :
    Move h s .callbackReturn s' out := by
  unfold callbackReturn at stepped
  cases stage : s.endpoint.aio.aio.stage with
  | idle | pending | completed => rw [stage] at stepped; cases stepped
  | notified =>
    rw [stage] at stepped
    obtain ⟨implication, point, live, _⟩ := sound.waiting_of_busy (by rw [stage]; nofun)
    cases stepped
    exact .callbackReturn implication point live stage

/-- **Every step of a sound state is a move**, and the handle was live. -/
theorem step_move (sound : Sound s) {a : Action M} (stepped : step h s a = some (s', out)) :
    s.status = .live ∧ Move h s a s' out := by
  unfold step at stepped
  by_cases live : s.status = .live
  · rw [if_pos live] at stepped
    refine ⟨live, ?_⟩
    cases a with
    | sendMsg message =>
      obtain ⟨free, same⟩ := call_eq stepped
      cases same
      exact .sendMsg message free
    | recvMsg =>
      obtain ⟨free, same⟩ := call_eq stepped
      cases same
      exact .recvMsg free
    | tryRecvMsg returned =>
      obtain ⟨free, same⟩ := call_eq stepped
      have move := tryRecvMsg_move (h := h) free returned
      rw [same] at move
      exact move
    | close =>
      obtain ⟨free, same⟩ := call_eq stepped
      cases same
      exact .close free
    | poll => exact poll_move sound stepped
    | run => exact run_move sound stepped
    | drop => exact drop_move sound stepped
    | complete completion => exact complete_move sound stepped
    | callback => exact callback_move sound stepped
    | callbackReturn => exact callbackReturn_move sound stepped
  · rw [if_neg live] at stepped
    cases stepped

end StepMove

/-! ### Moves keep the invariant -/

section MoveSound

theorem startedAio_inFlight_sent (result : NngErr) (msg : M) :
    (startedAio result .Sent (some msg)).InFlight .Sent .polling where
  wasSet := rfl
  signal := rfl
  ownCallback := nofun
  operation := fun _ same => by cases same; rfl
  sending := fun _ _ => ⟨msg, rfl⟩
  receiving := nofun

theorem startedAio_inFlight_received (result : NngErr) :
    (startedAio result .Received (none : Option M)).InFlight .Received .polling where
  wasSet := rfl
  signal := rfl
  ownCallback := nofun
  operation := fun _ same => by cases same; rfl
  sending := nofun
  receiving := fun _ =>
    ⟨fun done => (nomatch done.1), fun held => (nomatch held.choose_spec)⟩

variable {implication : ImplicationOnMessage} {point : WaitPoint} {a : Aio M}

theorem Aio.InFlight.turned (flight : a.InFlight implication point) {point' : WaitPoint}
    (own : point' = .woken → a.aio.stage.fired = true) :
    Aio.InFlight implication point' { a with notify := point'.signal a.aio.stage.fired } :=
  { flight with signal := rfl, ownCallback := own }

/-- The library completes the operation: the notification stays, and the slot is as it should be. -/
theorem Aio.InFlight.completed (flight : a.InFlight implication point)
    (pending : a.aio.stage = .pending implication) {msg : Option M} {result : NngErr}
    (sending : implication = .Sent → result ≠ NNG_OK → ∃ m, msg = some m)
    (receiving : implication = .Received → (result = NNG_OK ↔ ∃ m, msg = some m)) :
    Aio.InFlight implication point { a with aio := ⟨msg, result, .completed⟩ } where
  wasSet := flight.wasSet
  signal := by
    have before := flight.signal
    rw [pending] at before
    exact before
  ownCallback := fun woken => by
    have fired := flight.ownCallback woken
    rw [pending] at fired
    cases fired
  operation := nofun
  sending := fun sends failed => sending sends (failed.resolve_left Bool.false_ne_true)
  receiving := fun receives => by
    rw [← receiving receives]
    exact ⟨fun done => done.2, fun ok => ⟨rfl, ok⟩⟩

/-- The callback fires: the slot stays, and the notification is given. -/
theorem Aio.InFlight.fired (flight : a.InFlight implication point)
    (completed : a.aio.stage = .completed) :
    Aio.InFlight implication point
      ⟨{ a.aio with stage := .notified }, point.signal true, a.msgWasSet⟩ := by
  have sending := flight.sending
  have receiving := flight.receiving
  rw [completed] at sending receiving
  exact ⟨flight.wasSet, rfl, fun _ => rfl, nofun, sending, receiving⟩

/-- The callback returns: nothing but the stage changes. -/
theorem Aio.InFlight.returned (flight : a.InFlight implication point)
    (notified : a.aio.stage = .notified) :
    Aio.InFlight implication point { a with aio := { a.aio with stage := .idle } } := by
  have signal := flight.signal
  have sending := flight.sending
  have receiving := flight.receiving
  rw [notified] at signal sending receiving
  exact ⟨flight.wasSet, signal, fun _ => rfl, nofun, sending, receiving⟩

variable {h : Handle} {s s' : State M} {act : Action M} {out : List (Event M)}

theorem Sound.ended (sound : Sound s) (recovered : Option (Message M)) :
    Sound (s.ended recovered) :=
  ⟨sound.clean, idleAio_idle _⟩

/-- **A move leaves a sound state.** -/
theorem Move.sound (sound : Sound s) (move : Move h s act s' out) : Sound s' := by
  have clean := sound.clean
  cases move with
  | sendMsg _ free | recvMsg free | tryRecovered _ _ free | recvRecovered _ free
  | dropSendNew _ free | dropRecvNew free =>
    have idle := sound.idle fun _ _ => by rw [free]; nofun
    refine ⟨clean, ?_⟩
    first
      | exact idle
      | (show FutureSound _ s.future; rw [free]; exact idle)
  | tryReceived | tryRefused | tryPanicked => exact sound
  | close free =>
    have idle := sound.idle fun _ _ => by rw [free]; nofun
    refine ⟨nofun, ?_⟩
    show FutureSound _ s.future
    rw [free]
    exact idle
  | sendStart message _ => exact ⟨clean, startedAio_inFlight_sent _ _, nofun⟩
  | recvStart _ vacant => exact ⟨clean, startedAio_inFlight_received _, fun _ => vacant⟩
  | turn _ implication point point' _ live own =>
    refine ⟨clean, (sound.inFlight live).turned own, ?_⟩
    rintro rfl
    exact sound.recovered_none live
  | sendOk | sendFailed | recvOk | recvFailed | sendDroppedOk | sendDroppedFailed | recvDroppedOk
  | recvDroppedFailed => exact sound.ended _
  | completeSent point msg stale live pending held =>
    refine ⟨clean, ?_⟩
    show FutureSound _ s.future
    rw [live]
    exact ⟨(sound.inFlight live).completed pending (fun _ failed => absurd rfl failed) nofun, nofun⟩
  | completeReceived point msg live pending _ =>
    refine ⟨clean, ?_⟩
    show FutureSound _ s.future
    rw [live]
    exact ⟨(sound.inFlight live).completed pending nofun fun _ => ⟨fun _ => ⟨msg, rfl⟩, fun _ => rfl⟩,
      fun _ => sound.recovered_none live⟩
  | completeFailed implication point err live pending =>
    have flight := sound.inFlight live
    refine ⟨clean, ?_⟩
    show FutureSound _ s.future
    rw [live]
    refine ⟨flight.completed pending (fun sends _ => ?_) (fun receives => ?_), ?_⟩
    · exact flight.sending sends (.inl (by rw [pending]; rfl))
    · have holds := flight.receiving receives
      rw [pending] at holds
      exact ⟨fun ok => absurd ok err.property, fun held => by cases (holds.mpr held).1⟩
    · rintro rfl
      exact sound.recovered_none live
  | callback implication point live completed =>
    refine ⟨clean, (sound.inFlight live).fired completed, ?_⟩
    rintro rfl
    exact sound.recovered_none live
  | callbackReturn implication point live notified =>
    refine ⟨clean, ?_⟩
    show FutureSound _ s.future
    rw [live]
    refine ⟨(sound.inFlight live).returned notified, ?_⟩
    rintro rfl
    exact sound.recovered_none live

/-- **Every reachable state is sound.** -/
theorem sound_of_reachable (reached : (machine M h).Reachable s) : Sound s :=
  reached.invariant (sound_start h) fun _ _ _ _ sound stepped => (step_move sound stepped).2.sound sound

/-- A dropped handle recovered nothing and has no future. -/
theorem closed_empty (reached : (machine M h).Reachable s)
    (closed : s.status = .closed) : s.future = .none ∧ s.endpoint.recoveredMsg = none := by
  suffices both : Sound s ∧ (s.status = .closed → s.future = .none ∧ s.endpoint.recoveredMsg = none)
    from both.2 closed
  refine reached.invariant
    (I := fun s => Sound s ∧ (s.status = .closed → s.future = .none ∧ s.endpoint.recoveredMsg = none))
    ⟨sound_start h, nofun⟩ ?_
  rintro s a s' out ⟨sound, _⟩ stepped
  obtain ⟨live, move⟩ := step_move sound stepped
  refine ⟨move.sound sound, fun shut => ?_⟩
  cases move with
  | close free => exact ⟨free, rfl⟩
  | _ => exact nomatch live.symm.trans shut

end MoveSound

end NngRs.Anng
