/-
**Forgotten futures, and the calls that need an idle aio.**

Safe code may also leak a future: `mem::forget` ends its borrow of the handle and runs no guard. The
operation it started goes on, nobody waits for it, and a `Notified` future it left registered takes
the next notification that comes. The machine is that of a handle with this one action more; a panic
ends the future it comes from and nothing else, since the caller may catch it.

Every step shows the calls it makes that are documented to need an aio that is not busy, each with
what `nng_aio_busy` would say at that moment. `request`, `survey`, `reply` and `respond` are these
sends and receives one after the other, and so is leaking them. `set_message` is modelled with and
without debug assertions, which are all that looks at the aio before a call.

* `forgetful_of_run` — without the new action nothing is new: the runs of a handle are runs here.
* `busy_invariant_iff` — the calls of a run all find the aio idle exactly when none is started while
  the operation of a forgotten future is outstanding.
* `busy_invariant_unforgotten` — so they do in every run that forgets no waiting future.
-/

import NngRs.Anng.Moves

namespace NngRs.Anng

open NngRs.Sys EventMachine

/-- The calls whose aio must not be busy. -/
inductive IdleCall
  | nng_aio_set_msg
  | nng_aio_get_msg
  | start (call : NngCall)
deriving DecidableEq, Repr

/-- What a step shows. -/
inductive ForgetEvent (M : Type)
  /-- A call that needs an idle aio, and whether the aio is busy. -/
  | ffi (call : IdleCall) (busy : Bool)
  | shown (event : Event M)
deriving DecidableEq

/-- A handle some of whose futures were forgotten. -/
structure Forgetful (M : Type) where
  state : State M
  /-- The forgotten `Notified` futures that are still registered. -/
  stranded : Nat
  /-- Whether the operation of a forgotten future is outstanding; nothing reads it. -/
  orphaned : Bool
deriving DecidableEq, Repr

inductive ForgetAction (M : Type)
  | handle (action : Action M)
  /-- `mem::forget` of the live future. -/
  | forget
deriving DecidableEq, Repr

section Steps

variable {M : Type}

/-! ### The calls -/

namespace Aio

/-- `Aio::set_message` as compiled with or without debug assertions, and the calls it makes. -/
def setMessageIn (debugAssertions : Bool) (self : Aio M) (msg : Message M) :
    List IdleCall × Except Panic (Option (Message M) × Aio M) :=
  let set : Aio M := { self with aio := self.aio.setMsg (some msg.intoPtr), msgWasSet := true }
  if debugAssertions && self.aio.busy then ([], .error .setMessageBusy)
  else if self.msgWasSet then
    ([.nng_aio_get_msg, .nng_aio_set_msg], .ok (self.aio.msg.map .fromRawUnchecked, set))
  else if debugAssertions then
    if self.aio.msg.isSome then ([.nng_aio_get_msg], .error .setMessageNotNull)
    else ([.nng_aio_get_msg, .nng_aio_set_msg], .ok (none, set))
  else ([.nng_aio_set_msg], .ok (none, set))

/-- The calls of `Aio::take_message`, past its debug assertion. -/
def takeMessageCalls (self : Aio M) : List IdleCall :=
  .nng_aio_get_msg :: if self.aio.msg.isSome then [.nng_aio_set_msg] else []

/-- The calls of `Aio::wait` once `nng_aio_wait` has returned. -/
def waitCalls (self : Aio M) : ImplicationOnMessage → List IdleCall
  | .Sent => if self.aio.result = NNG_OK then [.nng_aio_set_msg] else []
  | .Received => []

/-- The calls of the guard of `wait` once `nng_aio_wait` has returned. -/
def guardDropCalls (self : Aio M) : List IdleCall :=
  if self.msgWasSet then
    if self.aio.result = NNG_OK then [.nng_aio_set_msg] else self.takeMessageCalls
  else []

theorem setMessageIn_busy {self : Aio M} (busy : self.aio.busy = true) (msg : Message M) :
    self.setMessageIn true msg = ([], .error .setMessageBusy) := by
  simp only [setMessageIn, busy, Bool.and_self, if_true]

theorem setMessageIn_of_idle {self : Aio M} (idle : self.Idle) (debugAssertions : Bool)
    (msg : Message M) : (self.setMessageIn debugAssertions msg).2 = self.setMessage msg := by
  rw [setMessage_of_idle idle]
  unfold setMessageIn
  rw [idle.notBusy, idle.notSet, idle.msgNull, Bool.and_false]
  cases debugAssertions <;> rfl

end Aio

/-- The calls of `send_msg` and `recv_msg` once `nng_aio_wait` has returned in `wait`. -/
def finishCalls (aio : Aio M) : ImplicationOnMessage → List IdleCall
  | .Sent => aio.waitCalls .Sent ++ if aio.aio.result = NNG_OK then [] else aio.takeMessageCalls
  | .Received =>
    aio.waitCalls .Received ++ if aio.aio.result = NNG_OK then aio.takeMessageCalls else []

/-- The calls of a dropped `send_msg` or `recv_msg` once `nng_aio_wait` has returned. -/
def droppedCalls (aio : Aio M) : ImplicationOnMessage → List IdleCall
  | .Sent => aio.guardDropCalls
  | .Received =>
    aio.guardDropCalls ++
      match aio.guardDrop with
      | .error _ => []
      | .ok (_, aio) => aio.takeMessageCalls

/-- The calls of one step that need an idle aio. -/
def idleCalls (debugAssertions : Bool) (h : Handle) (s : State M) : Action M → List IdleCall
  | .poll =>
    match s.future with
    | .sendNew message =>
      match s.endpoint.aio.setMessageIn debugAssertions message with
      | (calls, .error _) => calls
      | (calls, .ok _) => calls ++ [.start (h.startCall .Sent)]
    | .recvNew =>
      match s.endpoint.recoveredMsg with
      | some _ => []
      | none => [.start (h.startCall .Received)]
    | _ => []
  | .run =>
    match s.future with
    | .waiting implication .woken => finishCalls s.endpoint.aio implication
    | .waiting implication .cancelled => droppedCalls s.endpoint.aio implication
    | _ => []
  | _ => []

/-! ### The steps -/

/-- The first poll of `send_msg`. A panic of `set_message` drops the message it was given. -/
def sendStartIn (debugAssertions : Bool) (h : Handle) (s : State M) (message : Message M) :
    State M × List (Event M) :=
  match (s.endpoint.aio.setMessageIn debugAssertions message).2 with
  | .error p => ({ s with future := .none }, [.freed message.inner, .panicked p])
  | .ok (previous, aio) =>
    ({ s with
        endpoint := { s.endpoint with aio := aio.start .Sent }
        future := .waiting .Sent .polling },
      dropped previous ++ [.started (h.startCall .Sent)])

/-- A caught panic: the future is gone, and the handle is left as it is. -/
def State.unwound (s : State M) : State M :=
  if s.status = .poisoned then { s with future := .none, status := .live } else s

/-- Forgetting the live future. One that waits leaves its `Notified` future behind; if that was woken
already, the notification is lost with it. -/
def forget (f : Forgetful M) : Option (Forgetful M) :=
  match f.state.future with
  | .sendNew _ | .recvNew => some { f with state := { f.state with future := .none } }
  | .waiting _ .suspended =>
    let aio := f.state.endpoint.aio
    some
      { state :=
          { f.state with
            endpoint :=
              { f.state.endpoint with aio := { aio with notify := { aio.notify with waiter := none } } }
            future := .none }
        stranded := f.stranded + if aio.notify.waiter = some .waiting then 1 else 0
        orphaned := aio.aio.busy }
  | _ => none

/-- The callback wakes a stranded waiter first: those registered before the live one did. -/
def callbackIn (f : Forgetful M) : Option (Forgetful M × List (Event M)) :=
  if f.stranded = 0 then (callback f.state).map fun r => ({ f with state := r.1 }, r.2)
  else
    match f.state.endpoint.aio.aio.stage with
    | .completed =>
      some ({ f with
          state := f.state.withNng { f.state.endpoint.aio.aio with stage := .notified }
          stranded := f.stranded - 1 }, [])
    | _ => none

/-- One step of the handle. -/
def handleStep (debugAssertions : Bool) (h : Handle) (f : Forgetful M) :
    Action M → Option (Forgetful M × List (Event M))
  | .poll =>
    match f.state.future with
    | .sendNew message =>
      let (s, out) := sendStartIn debugAssertions h f.state message
      some ({ f with state := s }, out)
    | _ => (poll h f.state).map fun r => ({ f with state := r.1 }, r.2)
  | .callback => callbackIn f
  | .callbackReturn =>
    (callbackReturn f.state).map fun r => ({ f with state := r.1, orphaned := false }, r.2)
  | .run => (run f.state).map fun r => ({ f with state := r.1.unwound }, r.2)
  | a => (stepLive h f.state a).map fun r => ({ f with state := r.1 }, r.2)

/-- One step. -/
def forgetfulStep (debugAssertions : Bool) (h : Handle) (f : Forgetful M) :
    ForgetAction M → Option (Forgetful M × List (ForgetEvent M))
  | .forget => if f.state.status = .live then (forget f).map fun f' => (f', []) else none
  | .handle a =>
    if f.state.status = .live then
      (handleStep debugAssertions h f a).map fun r =>
        (r.1, (idleCalls debugAssertions h f.state a).map (.ffi · f.state.endpoint.aio.aio.busy) ++
          r.2.map .shown)
    else none

/-- The machine of one handle whose futures may be forgotten. -/
def forgetful (debugAssertions : Bool) (M : Type) (h : Handle) :
    EventMachine (Forgetful M) (ForgetAction M) (ForgetEvent M) where
  start := ⟨(machine M h).start, 0, false⟩
  step := forgetfulStep debugAssertions h

/-! ### The aio of a forgetful handle -/

/-- **What holds until a call finds the aio busy**: between futures it is busy exactly as long as the
operation of a forgotten future is outstanding, and a future that waits has the aio to itself. -/
def Forgetful.Apart (f : Forgetful M) : Prop :=
  match f.state.future with
  | .waiting _ _ => f.orphaned = false
  | .none | .sendNew _ | .recvNew => f.state.endpoint.aio.aio.busy = f.orphaned

/-- The next poll is the first of a receive that finds no recovered message, or of a send that checks
nothing: with debug assertions `set_message` panics at a busy aio before it makes a call. -/
def State.pollStarts (debugAssertions : Bool) (s : State M) : Bool :=
  match s.future with
  | .recvNew => s.endpoint.recoveredMsg.isNone
  | .sendNew _ => !debugAssertions
  | .none | .waiting _ _ => false

/-- A send or receive is started while the operation of a forgotten future is outstanding. -/
def StartsOverOrphan (debugAssertions : Bool)
    (t : Transition (Forgetful M) (ForgetAction M) (ForgetEvent M)) : Prop :=
  t.pre.orphaned = true ∧ t.act = .handle .poll ∧ t.pre.state.pollStarts debugAssertions = true

instance [DecidableEq M] (debugAssertions : Bool)
    (t : Transition (Forgetful M) (ForgetAction M) (ForgetEvent M)) :
    Decidable (StartsOverOrphan debugAssertions t) := inferInstanceAs (Decidable (_ ∧ _ ∧ _))

/-- Every call of a step finds the aio idle. -/
def CallsIdle (t : Transition (Forgetful M) (ForgetAction M) (ForgetEvent M)) : Prop :=
  ∀ call busy, .ffi call busy ∈ t.out → busy = false

/-! ### Pieces of a step -/

section Pieces

variable {s s' : State M} {out : List (Event M)}

@[simp] theorem State.unwound_endpoint (s : State M) : s.unwound.endpoint = s.endpoint := by
  unfold State.unwound
  split_ifs <;> rfl

theorem State.unwound_of_clean (clean : s.status ≠ .poisoned) : s.unwound = s := if_neg clean

theorem State.unwound_free (free : s.future = .none) : s.unwound.future = .none := by
  unfold State.unwound
  split_ifs
  · rfl
  · exact free

theorem Aio.waitResult_stage {a a' : Aio M} {implication : ImplicationOnMessage}
    {result : Except AioError Unit} (returned : a.waitResult implication = .ok (result, a')) :
    a'.aio.stage = a.aio.stage := by
  unfold Aio.waitResult at returned
  split_ifs at returned
  · cases implication <;> cases returned <;> rfl
  · cases error : errorOf a.aio.result <;> rw [error] at returned <;> cases returned
    rfl

theorem Aio.takeMessage_stage {a a' : Aio M} {msg : Option (Message M)}
    (returned : a.takeMessage = .ok (msg, a')) : a'.aio.stage = a.aio.stage := by
  unfold Aio.takeMessage at returned
  split_ifs at returned
  cases slot : a.aio.msg <;> rw [slot] at returned <;> cases returned <;> rfl

theorem Aio.guardDrop_stage {a a' : Aio M} {msg : Option (Message M)}
    (returned : a.guardDrop = .ok (msg, a')) : a'.aio.stage = a.aio.stage := by
  unfold Aio.guardDrop at returned
  split_ifs at returned
  rcases polled : a.notify.pollNew with ⟨_ | _, notify⟩ <;> rw [polled] at returned
  · cases returned
  · dsimp only at returned
    split_ifs at returned
    · cases returned
      rfl
    · exact Aio.takeMessage_stage (a := ⟨a.aio, notify, a.msgWasSet⟩) returned
    · cases returned
      rfl

/-- The future is over, and the operation is where it was. -/
def Over (s s' : State M) : Prop :=
  s'.unwound.future = .none ∧ s'.endpoint.aio.aio.stage = s.endpoint.aio.aio.stage

theorem over_panic (s : State M) (p : Panic) : Over s (s.panic p).1 := ⟨rfl, rfl⟩

/-- Taking the message out of the aio and ending the future. -/
theorem over_take {s : State M} {aio : Aio M} (stage : aio.aio.stage = s.endpoint.aio.aio.stage)
    (missing : Panic) (shown : Message M → List (Event M)) :
    Over s (match aio.takeMessage with
      | .error p => s.panic p
      | .ok (none, _) => s.panic missing
      | .ok (some msg, aio) =>
        ({ s with endpoint := { s.endpoint with aio }, future := .none }, shown msg)).1 := by
  rcases taken : aio.takeMessage with p | ⟨_ | msg, aio'⟩
  · exact over_panic s p
  · exact over_panic s missing
  · exact ⟨State.unwound_free rfl, (Aio.takeMessage_stage taken).trans stage⟩

theorem sendFinish_over (s : State M) : Over s (sendFinish s).1 := by
  unfold sendFinish
  rcases waited : s.endpoint.aio.waitResult .Sent with p | ⟨_ | _, aio⟩
  · exact over_panic s p
  · exact over_take (Aio.waitResult_stage waited) _ _
  · exact ⟨State.unwound_free rfl, Aio.waitResult_stage waited⟩

theorem recvFinish_over (s : State M) : Over s (recvFinish s).1 := by
  unfold recvFinish
  rcases waited : s.endpoint.aio.waitResult .Received with p | ⟨_ | _, aio⟩
  · exact over_panic s p
  · exact ⟨State.unwound_free rfl, Aio.waitResult_stage waited⟩
  · exact over_take (Aio.waitResult_stage waited) _ _

theorem sendDropped_over (s : State M) : Over s (sendDropped s).1 := by
  unfold sendDropped
  rcases guarded : s.endpoint.aio.guardDrop with p | ⟨msg, aio⟩
  · exact over_panic s p
  · exact ⟨State.unwound_free rfl, Aio.guardDrop_stage guarded⟩

theorem recvDropped_over (s : State M) : Over s (recvDropped s).1 := by
  unfold recvDropped
  rcases guarded : s.endpoint.aio.guardDrop with p | ⟨msg, aio⟩
  · exact over_panic s p
  · have stage := Aio.guardDrop_stage guarded
    dsimp only
    rcases taken : aio.takeMessage with p | ⟨_ | received, aio'⟩
    · exact over_panic s p
    · exact ⟨State.unwound_free rfl, (Aio.takeMessage_stage taken).trans stage⟩
    · exact ⟨State.unwound_free rfl, (Aio.takeMessage_stage taken).trans stage⟩

theorem over_of_step {outcome : State M × List (Event M)} (done : Over s outcome.1)
    (stepped : some outcome = some (s', out)) : Over s s' := by
  cases stepped
  exact done

/-- **The thread goes on**: its future waits, and either still does, or was at an idle aio and is
over. -/
theorem run_wait (live : s.status = .live) (stepped : run s = some (s', out)) :
    ∃ implication point, s.future = .waiting implication point ∧
      ((∃ point', s'.unwound.future = .waiting implication point') ∨
        (s.endpoint.aio.aio.busy = false ∧ Over s s')) := by
  have clean : s.status ≠ .poisoned := by
    rw [live]
    decide
  unfold run at stepped
  cases waits : s.future with
  | none | sendNew | recvNew =>
    rw [waits] at stepped
    cases stepped
  | waiting implication point =>
    refine ⟨implication, point, rfl, ?_⟩
    rw [waits] at stepped
    cases point with
    | polling =>
      refine .inl ?_
      rcases polled : s.endpoint.aio.notify.pollNew with ⟨_ | _, notify⟩ <;>
        simp only [polled] at stepped <;> cases stepped
      · exact ⟨_, congrArg State.future (State.unwound_of_clean (s := s.moveTo _ _ _) clean)⟩
      · exact ⟨_, congrArg State.future (State.unwound_of_clean (s := s.moveTo _ _ _) clean)⟩
    | dropping =>
      cases stepped
      exact .inl ⟨_, congrArg State.future
        (State.unwound_of_clean (s := { s with future := .waiting implication .cancelled }) clean)⟩
    | suspended => cases stepped
    | woken =>
      cases busy : s.endpoint.aio.aio.busy with
      | true =>
        simp only [busy] at stepped
        cases stepped
      | false =>
        refine .inr ⟨rfl, ?_⟩
        simp only [busy] at stepped
        cases implication with
        | Sent => exact over_of_step (sendFinish_over s) stepped
        | Received => exact over_of_step (recvFinish_over s) stepped
    | cancelled =>
      cases busy : s.endpoint.aio.aio.busy with
      | true =>
        simp only [busy] at stepped
        cases stepped
      | false =>
        refine .inr ⟨rfl, ?_⟩
        simp only [busy] at stepped
        cases implication with
        | Sent => exact over_of_step (sendDropped_over s) stepped
        | Received => exact over_of_step (recvDropped_over s) stepped

end Pieces

/-! ### What one step keeps and shows -/

section Step

variable {debugAssertions : Bool} {h : Handle} {f f' : Forgetful M} {a : Action M}
  {out : List (Event M)}

theorem forgetfulStep_handle {shown : List (ForgetEvent M)}
    (stepped : forgetfulStep debugAssertions h f (.handle a) = some (f', shown)) :
    f.state.status = .live ∧ ∃ r, handleStep debugAssertions h f a = some r ∧
      (r.1, (idleCalls debugAssertions h f.state a).map (.ffi · f.state.endpoint.aio.aio.busy) ++
        r.2.map .shown) = (f', shown) := by
  simp only [forgetfulStep] at stepped
  split_ifs at stepped with live
  exact ⟨live, Option.map_eq_some_iff.mp stepped⟩

theorem forgetfulStep_forget {shown : List (ForgetEvent M)}
    (stepped : forgetfulStep debugAssertions h f .forget = some (f', shown)) :
    f.state.status = .live ∧ forget f = some f' ∧ shown = [] := by
  simp only [forgetfulStep] at stepped
  split_ifs at stepped with live
  obtain ⟨f'', forgot, same⟩ := Option.map_eq_some_iff.mp stepped
  cases same
  exact ⟨live, forgot, rfl⟩

theorem apart_waiting {implication : ImplicationOnMessage} {point : WaitPoint}
    (waits : f.state.future = .waiting implication point) : f.Apart ↔ f.orphaned = false := by
  unfold Forgetful.Apart
  rw [waits]

theorem apart_free (free : ∀ implication point, f.state.future ≠ .waiting implication point) :
    f.Apart ↔ f.state.endpoint.aio.aio.busy = f.orphaned := by
  unfold Forgetful.Apart
  cases live : f.state.future with
  | waiting implication point => exact absurd live (free implication point)
  | none | sendNew | recvNew => rfl

/-- What keeps the aio's stage and does not wait keeps the handle apart. -/
theorem Forgetful.Apart.congr (apart : f.Apart)
    (free : ∀ implication point, f.state.future ≠ .waiting implication point)
    (free' : ∀ implication point, f'.state.future ≠ .waiting implication point)
    (stage : f'.state.endpoint.aio.aio.stage = f.state.endpoint.aio.aio.stage)
    (orphaned : f'.orphaned = f.orphaned) : f'.Apart := by
  rw [apart_free free', orphaned, ← (apart_free free).mp apart]
  exact congrArg (· != .idle) stage

theorem tryRecvMsg_frame (s : State M) (returned : Recvmsg M) :
    (tryRecvMsg h s returned).1.future = s.future ∧
      (tryRecvMsg h s returned).1.endpoint.aio = s.endpoint.aio := by
  unfold tryRecvMsg
  cases s.endpoint.recoveredMsg with
  | some msg => exact ⟨rfl, rfl⟩
  | none =>
    cases recvmsgResult returned <;> exact ⟨rfl, rfl⟩

theorem Forgetful.Apart.forget (apart : f.Apart) (forgot : forget f = some f') : f'.Apart := by
  unfold Anng.forget at forgot
  cases live : f.state.future with
  | none =>
    rw [live] at forgot
    cases forgot
  | sendNew | recvNew =>
    rw [live] at forgot
    cases forgot
    refine apart.congr ?_ nofun rfl rfl
    rw [live]
    nofun
  | waiting implication point =>
    rw [live] at forgot
    cases point <;> cases forgot
    rfl

/-- The first poll of a send keeps the aio apart, unless it starts over an orphan. -/
theorem Forgetful.Apart.sendStart {message : Message M} (apart : f.Apart)
    (live : f.state.future = .sendNew message)
    (meets : ¬(f.orphaned = true ∧ debugAssertions = false)) :
    Forgetful.Apart { f with state := (sendStartIn debugAssertions h f.state message).1 } := by
  have free : ∀ implication point, f.state.future ≠ .waiting implication point := by
    rw [live]
    nofun
  have busy := (apart_free free).mp apart
  by_cases orphaned : f.orphaned = true
  · obtain rfl : debugAssertions = true := by simpa [orphaned] using meets
    simp only [sendStartIn, Aio.setMessageIn_busy (busy.trans orphaned)]
    exact apart.congr free nofun rfl rfl
  · unfold sendStartIn
    cases set : (f.state.endpoint.aio.setMessageIn debugAssertions message).2 with
    | error p => exact apart.congr free nofun rfl rfl
    | ok outcome => exact (apart_waiting rfl).mpr (Bool.eq_false_of_not_eq_true orphaned)

/-- The first poll of a receive keeps the aio apart, unless it starts over an orphan. -/
theorem Forgetful.Apart.recvStart (apart : f.Apart) (live : f.state.future = .recvNew)
    (meets : ¬(f.orphaned = true ∧ f.state.endpoint.recoveredMsg = none)) :
    Forgetful.Apart { f with state := (recvStart h f.state).1 } := by
  have free : ∀ implication point, f.state.future ≠ .waiting implication point := by
    rw [live]
    nofun
  unfold Anng.recvStart
  cases recovered : f.state.endpoint.recoveredMsg with
  | some msg => exact apart.congr free nofun rfl rfl
  | none => exact (apart_waiting rfl).mpr (Bool.eq_false_of_not_eq_true fun o => meets ⟨o, recovered⟩)

/-- A later poll only moves the wait on. -/
theorem Forgetful.Apart.pollWaiting {implication : ImplicationOnMessage} {point : WaitPoint}
    {s' : State M} (apart : f.Apart) (live : f.state.future = .waiting implication point)
    (polled : poll h f.state = some (s', out)) : Forgetful.Apart { f with state := s' } := by
  have orphaned := (apart_waiting live).mp apart
  unfold poll at polled
  rw [live] at polled
  cases point with
  | suspended =>
    rcases woken : f.state.endpoint.aio.notify.pollWaiting with ⟨_ | _, notify⟩ <;>
      simp only [woken] at polled <;> cases polled <;> exact (apart_waiting rfl).mpr orphaned
  | polling | woken | dropping | cancelled => cases polled

theorem Forgetful.Apart.run {s' : State M} (apart : f.Apart) (clean : f.state.status = .live)
    (went : run f.state = some (s', out)) : Forgetful.Apart { f with state := s'.unwound } := by
  obtain ⟨implication, point, waits, ⟨point', still⟩ | ⟨idle, free, stage⟩⟩ := run_wait clean went
  · exact (apart_waiting still).mpr ((apart_waiting waits).mp apart)
  · have orphaned := (apart_waiting waits).mp apart
    rw [apart_free fun _ _ => by show s'.unwound.future ≠ _; rw [free]; nofun]
    show s'.unwound.endpoint.aio.aio.busy = f.orphaned
    rw [State.unwound_endpoint, orphaned, ← idle]
    exact congrArg (· != .idle) stage

/-- A step that changes neither the future nor whether the aio is busy. -/
theorem Forgetful.Apart.hold (apart : f.Apart) (future : f'.state.future = f.state.future)
    (busy : f'.state.endpoint.aio.aio.busy = f.state.endpoint.aio.aio.busy)
    (orphaned : f'.orphaned = f.orphaned) : f'.Apart := by
  unfold Forgetful.Apart
  rw [future, busy, orphaned]
  exact apart

theorem apart_idle (idle : f.state.endpoint.aio.aio.busy = false) (orphaned : f.orphaned = false) :
    f.Apart := by
  unfold Forgetful.Apart
  cases f.state.future with
  | waiting => exact orphaned
  | none | sendNew | recvNew => exact idle.trans orphaned.symm

theorem Forgetful.Apart.complete {s' : State M} {completion : Completion M} (apart : f.Apart)
    (completed : complete f.state completion = some (s', out)) :
    Forgetful.Apart { f with state := s' } := by
  unfold Anng.complete at completed
  have pending : ∃ op, f.state.endpoint.aio.aio.stage = .pending op := by
    cases stage : f.state.endpoint.aio.aio.stage with
    | pending op => exact ⟨op, rfl⟩
    | idle | completed | notified =>
      rw [stage] at completed
      cases completed
  obtain ⟨op, stage⟩ := pending
  have busy : f.state.endpoint.aio.aio.busy = true := by
    unfold NngAio.busy
    rw [stage]
    rfl
  rw [stage] at completed
  cases op <;> cases completion with
  | sent stale =>
    first
      | cases completed
      | (cases slot : f.state.endpoint.aio.aio.msg <;> rw [slot] at completed <;> cases completed
         exact apart.hold rfl busy.symm rfl)
  | received msg =>
    first
      | cases completed
        exact apart.hold rfl busy.symm rfl
      | cases completed
  | failed err =>
    cases completed
    exact apart.hold rfl busy.symm rfl

theorem Forgetful.Apart.callbackIn (apart : f.Apart) (called : callbackIn f = some (f', out)) :
    f'.Apart := by
  have completed : f.state.endpoint.aio.aio.stage = .completed := by
    cases stage : f.state.endpoint.aio.aio.stage with
    | completed => rfl
    | idle | pending | notified =>
      simp [Anng.callbackIn, callback, stage] at called
  have busy : f.state.endpoint.aio.aio.busy = true := by
    unfold NngAio.busy
    rw [completed]
    rfl
  unfold Anng.callbackIn at called
  split_ifs at called
  · obtain ⟨r, stepped, same⟩ := Option.map_eq_some_iff.mp called
    simp only [callback, completed] at stepped
    cases stepped
    cases same
    exact apart.hold rfl busy.symm rfl
  · simp only [completed] at called
    cases called
    exact apart.hold rfl busy.symm rfl

theorem Forgetful.Apart.drop {s' : State M} (apart : f.Apart)
    (dropped : drop f.state = some (s', out)) : Forgetful.Apart { f with state := s' } := by
  unfold Anng.drop at dropped
  cases live : f.state.future with
  | none =>
    rw [live] at dropped
    cases dropped
  | sendNew | recvNew =>
    rw [live] at dropped
    cases dropped
    refine apart.congr ?_ nofun rfl rfl
    rw [live]
    nofun
  | waiting implication point =>
    rw [live] at dropped
    cases point <;> cases dropped
    exact (apart_waiting rfl).mpr ((apart_waiting live).mp apart)

/-- A method of an unborrowed handle touches no operation. -/
theorem Forgetful.Apart.call {s' : State M} (apart : f.Apart)
    (caller : a = .recvMsg ∨ a = .close ∨ (∃ message, a = .sendMsg message) ∨
      ∃ returned, a = .tryRecvMsg returned)
    (called : stepLive h f.state a = some (s', out)) : Forgetful.Apart { f with state := s' } := by
  have unborrowed {after : State M × List (Event M)}
      (called : Anng.call f.state after = some (s', out)) :
      f.state.future = .none ∧ after = (s', out) := by
    unfold Anng.call at called
    split at called
    · exact ⟨‹_›, Option.some.inj called⟩
    · cases called
  rcases caller with rfl | rfl | ⟨message, rfl⟩ | ⟨returned, rfl⟩
  all_goals
    obtain ⟨free, after⟩ := unborrowed called
    have unwaiting : ∀ implication point, f.state.future ≠ .waiting implication point := by
      rw [free]
      nofun
  · cases after
    exact apart.congr unwaiting nofun rfl rfl
  · cases after
    exact apart.congr unwaiting unwaiting rfl rfl
  · cases after
    exact apart.congr unwaiting nofun rfl rfl
  · obtain ⟨future, aio⟩ := tryRecvMsg_frame (h := h) f.state returned
    rw [after] at future aio
    refine apart.congr unwaiting ?_ (congrArg (·.aio.stage) aio) rfl
    show ∀ implication point, s'.future ≠ .waiting implication point
    rw [future]
    exact unwaiting

/-- **One step keeps the aio apart**, unless it starts an operation over an orphan. -/
theorem Forgetful.Apart.step {shown : List (ForgetEvent M)} {b : ForgetAction M} (apart : f.Apart)
    (stepped : forgetfulStep debugAssertions h f b = some (f', shown))
    (meets : ¬StartsOverOrphan debugAssertions ⟨f, b, f', shown⟩) : f'.Apart := by
  cases b with
  | forget =>
    exact apart.forget (forgetfulStep_forget stepped).2.1
  | handle a =>
    obtain ⟨live, ⟨f'', out⟩, went, same⟩ := forgetfulStep_handle stepped
    cases same
    have starts (start : f.state.pollStarts debugAssertions = true) (poll : a = .poll) :
        ¬f.orphaned = true := fun orphaned => meets ⟨orphaned, by rw [poll], start⟩
    cases a with
    | poll =>
      simp only [handleStep] at went
      cases future : f.state.future with
      | none =>
        rw [future] at went
        simp [poll, future] at went
      | sendNew message =>
        rw [future] at went
        cases went
        exact apart.sendStart future fun both =>
          starts (by simp [State.pollStarts, future, both.2]) rfl both.1
      | recvNew =>
        simp only [future, poll, Option.map_some] at went
        cases went
        exact apart.recvStart future fun both =>
          starts (by simp [State.pollStarts, future, both.2]) rfl both.1
      | waiting implication point =>
        simp only [future] at went
        obtain ⟨⟨s', out⟩, polled, same⟩ := Option.map_eq_some_iff.mp went
        cases same
        exact apart.pollWaiting future polled
    | callback => exact apart.callbackIn went
    | callbackReturn =>
      obtain ⟨⟨s', out⟩, returned, same⟩ := Option.map_eq_some_iff.mp went
      cases same
      refine apart_idle ?_ rfl
      unfold callbackReturn at returned
      split at returned <;> cases returned
      rfl
    | run =>
      obtain ⟨⟨s', out⟩, returned, same⟩ := Option.map_eq_some_iff.mp went
      cases same
      exact apart.run live returned
    | complete completion =>
      obtain ⟨⟨s', out⟩, completed, same⟩ := Option.map_eq_some_iff.mp went
      cases same
      exact apart.complete completed
    | drop =>
      obtain ⟨⟨s', out⟩, dropped, same⟩ := Option.map_eq_some_iff.mp went
      cases same
      exact apart.drop dropped
    | sendMsg | recvMsg | tryRecvMsg | close =>
      obtain ⟨⟨s', out⟩, called, same⟩ := Option.map_eq_some_iff.mp went
      cases same
      exact apart.call (by simp) called

/-- The calls of a step find the aio idle when it makes none, or the aio is not busy. -/
theorem callsIdle_iff {shown : List (ForgetEvent M)}
    (stepped : forgetfulStep debugAssertions h f (.handle a) = some (f', shown)) :
    CallsIdle ⟨f, .handle a, f', shown⟩ ↔
      (idleCalls debugAssertions h f.state a ≠ [] → f.state.endpoint.aio.aio.busy = false) := by
  obtain ⟨-, ⟨f'', out⟩, -, same⟩ := forgetfulStep_handle stepped
  cases same
  simp only [CallsIdle, List.mem_append, List.mem_map]
  constructor
  · intro idle calls
    obtain ⟨call, made⟩ := List.exists_mem_of_ne_nil _ calls
    exact idle call _ (.inl ⟨call, made, rfl⟩)
  · rintro idle call busy (⟨call', made, same⟩ | ⟨event, -, same⟩)
    · cases same
      exact idle (List.ne_nil_of_mem made)
    · cases same

/-- The first poll of a send makes a call unless its debug assertion finds the aio busy. -/
theorem sendNew_calls {message : Message M} (live : f.state.future = .sendNew message) :
    idleCalls debugAssertions h f.state .poll ≠ [] ↔
      ¬(debugAssertions = true ∧ f.state.endpoint.aio.aio.busy = true) := by
  simp only [idleCalls, live, Aio.setMessageIn, Bool.and_eq_true]
  split_ifs with asserted <;> simp [asserted]

theorem recvNew_calls (live : f.state.future = .recvNew) :
    idleCalls debugAssertions h f.state .poll ≠ [] ↔ f.state.endpoint.recoveredMsg = none := by
  simp only [idleCalls, live]
  cases f.state.endpoint.recoveredMsg <;> simp

/-- The thread goes on past `nng_aio_wait` only when the aio is idle. -/
theorem run_calls {s s' : State M} (went : run s = some (s', out))
    (calls : idleCalls debugAssertions h s .run ≠ []) : s.endpoint.aio.aio.busy = false := by
  refine Bool.eq_false_of_not_eq_true fun busy => ?_
  unfold run at went
  cases waits : s.future with
  | none | sendNew | recvNew =>
    rw [waits] at went
    cases went
  | waiting implication point =>
    simp only [waits, busy, if_true] at went
    cases point with
    | polling | suspended | dropping =>
      simp only [idleCalls, waits] at calls
      exact calls rfl
    | woken | cancelled => cases went

/-- **The calls of one step find the aio idle**, unless it starts an operation over an orphan. -/
theorem Forgetful.Apart.calls {shown : List (ForgetEvent M)} {b : ForgetAction M} (apart : f.Apart)
    (stepped : forgetfulStep debugAssertions h f b = some (f', shown)) :
    CallsIdle ⟨f, b, f', shown⟩ ↔ ¬StartsOverOrphan debugAssertions ⟨f, b, f', shown⟩ := by
  cases b with
  | forget =>
    refine iff_of_true (fun call busy made => ?_) (fun starts => nomatch starts.2.1)
    obtain rfl := (forgetfulStep_forget stepped).2.2
    cases made
  | handle a =>
    rw [callsIdle_iff stepped]
    cases a with
    | poll =>
      simp only [StartsOverOrphan, State.pollStarts, true_and]
      cases live : f.state.future with
      | none | waiting => simp [idleCalls, live]
      | sendNew message =>
        have busy := (apart_free fun _ _ => by rw [live]; nofun).mp apart
        rw [sendNew_calls live, busy]
        cases debugAssertions <;> cases f.orphaned <;> simp
      | recvNew =>
        have busy := (apart_free fun _ _ => by rw [live]; nofun).mp apart
        rw [recvNew_calls live, busy]
        cases f.orphaned <;> simp
    | run =>
      refine iff_of_true (fun calls => ?_) (fun starts => nomatch starts.2.1)
      obtain ⟨-, _, went, -⟩ := forgetfulStep_handle stepped
      obtain ⟨_, went, -⟩ := Option.map_eq_some_iff.mp went
      exact run_calls went calls
    | sendMsg | recvMsg | tryRecvMsg | drop | close | complete | callback | callbackReturn =>
      exact iff_of_true (fun calls => absurd rfl calls) (fun starts => nomatch starts.2.1)

end Step

end Steps

/-! ### Runs -/

section Runs

variable {M : Type} {debugAssertions : Bool} {h : Handle} {f : Forgetful M}
  {steps : List (Transition (Forgetful M) (ForgetAction M) (ForgetEvent M))}

/-- The event of the handle a step shows. -/
def ForgetEvent.shown? : ForgetEvent M → Option (Event M)
  | .ffi _ _ => none
  | .shown event => some event

theorem handleStep_of_step {s s' : State M} {a : Action M} {out : List (Event M)} (sound : Sound s)
    (stepped : step h s a = some (s', out)) :
    handleStep debugAssertions h ⟨s, 0, false⟩ a = some (⟨s', 0, false⟩, out) := by
  obtain ⟨live, move⟩ := step_move sound stepped
  have clean := (move.sound sound).clean
  rw [step, if_pos live] at stepped
  cases a with
  | poll =>
    cases future : s.future with
    | sendNew message =>
      have idle := sound.idle fun _ _ => by rw [future]; nofun
      simp only [stepLive, poll, future, sendStart] at stepped
      simp only [handleStep, future, sendStartIn, Aio.setMessageIn_of_idle idle]
      rw [Aio.setMessage_of_idle idle] at stepped ⊢
      cases stepped
      rfl
    | none | recvNew | waiting =>
      simp only [stepLive] at stepped
      simp only [handleStep, future, stepped, Option.map_some]
  | run =>
    simp only [stepLive] at stepped
    simp only [handleStep, stepped, Option.map_some, State.unwound_of_clean clean]
  | callback =>
    simp only [stepLive] at stepped
    simp only [handleStep, callbackIn, stepped, if_true, Option.map_some]
  | callbackReturn =>
    simp only [stepLive] at stepped
    simp only [handleStep, stepped, Option.map_some]
  | sendMsg | recvMsg | tryRecvMsg | drop | close | complete =>
    simp only [handleStep, stepped, Option.map_some]

/-- **The runs of a handle are the runs in which nothing is forgotten.** -/
theorem forgetful_of_run {trace : List (Transition (State M) (Action M) (Event M))} {s : State M}
    (run : (machine M h).Run trace s) :
    ∃ steps, (forgetful debugAssertions M h).Run steps ⟨s, 0, false⟩ ∧
      (events steps).filterMap ForgetEvent.shown? = events trace := by
  induction run with
  | nil => exact ⟨[], .nil, rfl⟩
  | @snoc trace s s' a out earlier stepped ih =>
    obtain ⟨steps, run, same⟩ := ih
    have sound := sound_of_reachable ⟨_, earlier⟩
    have live := (step_move sound stepped).1
    have went : handleStep debugAssertions h ⟨s, 0, false⟩ a = some (⟨s', 0, false⟩, out) :=
      handleStep_of_step sound stepped
    have taken : (forgetful debugAssertions M h).step ⟨s, 0, false⟩ (.handle a) =
        some (⟨s', 0, false⟩,
          (idleCalls debugAssertions h s a).map (.ffi · s.endpoint.aio.aio.busy) ++
            out.map .shown) := by
      simp only [forgetful, forgetfulStep, live, if_true, went, Option.map_some]
    refine ⟨_, run.snoc taken, ?_⟩
    simp only [events_append, events_singleton, List.filterMap_append, same, List.filterMap_map]
    have silent : (idleCalls debugAssertions h s a).filterMap
        (ForgetEvent.shown? ∘ (.ffi · s.endpoint.aio.aio.busy)) = ([] : List (Event M)) :=
      List.filterMap_eq_nil_iff.mpr fun _ _ => rfl
    have kept : out.filterMap (ForgetEvent.shown? ∘ .shown) = out := List.filterMap_some
    rw [silent, kept, List.nil_append]

theorem callsIdle_events :
    (∀ t ∈ steps, CallsIdle t) ↔ ∀ call busy, .ffi call busy ∈ events steps → busy = false := by
  constructor
  · intro all call busy made
    obtain ⟨t, member, made⟩ := mem_events.mp made
    exact all t member call busy made
  · intro all t member call busy made
    exact all call busy (mem_events.mpr ⟨t, member, made⟩)

/-- The calls of a run are all idle exactly when none of its steps starts over an orphan. -/
theorem callsIdle_iff_of_run (run : (forgetful debugAssertions M h).Run steps f) :
    (∀ t ∈ steps, CallsIdle t) ↔ ∀ t ∈ steps, ¬StartsOverOrphan debugAssertions t := by
  refine run.forall_while_iff ?_
    (fun _ _ _ _ (apart : Forgetful.Apart _) stepped meets => apart.step stepped meets)
    fun _ _ _ _ apart stepped => apart.calls stepped
  rfl

/-- **Every call that needs an idle aio finds it idle, in exactly the runs that start no operation
while that of a forgotten future is outstanding.** -/
theorem busy_invariant_iff (run : (forgetful debugAssertions M h).Run steps f) :
    (∀ call busy, .ffi call busy ∈ events steps → busy = false) ↔
      ∀ t ∈ steps, ¬StartsOverOrphan debugAssertions t :=
  callsIdle_events.symm.trans (callsIdle_iff_of_run run)

/-- A receive is forgotten while the library works on it. Its operation returns from its callback
before the next send and receive, and all their calls find the aio idle. -/
theorem busy_invariant_outlived :
    ∃ (steps : List (Transition (Forgetful Nat) (ForgetAction Nat) (ForgetEvent Nat)))
        (f : Forgetful Nat),
      (forgetful false Nat .Context).Run steps f ∧
        .shown (.recvReturned (.ok ⟨8, 0⟩)) ∈ events steps ∧
        ∀ call busy, .ffi call busy ∈ events steps → busy = false := by
  have run := run_of_replay (M := forgetful false Nat .Context)
    [.handle .recvMsg, .handle .poll, .handle .run, .forget, .handle (.complete (.received 7)),
      .handle .callback, .handle .callbackReturn, .handle (.sendMsg ⟨5, 0⟩), .handle .poll,
      .handle .run, .handle (.complete (.sent true)), .handle .callback, .handle .callbackReturn,
      .handle .poll, .handle .run, .handle .recvMsg, .handle .poll, .handle .run,
      .handle (.complete (.received 8)), .handle .callback, .handle .poll, .handle .callbackReturn,
      .handle .run]
    rfl
  exact ⟨_, _, run, by decide, (busy_invariant_iff run).mpr (by decide)⟩

/-- **Not every call finds the aio idle**: a receive is forgotten while it waits, and the next one
hands the same aio to the library again. -/
theorem busy_invariant_broken :
    ¬∀ (debugAssertions : Bool) (h : Handle)
        (steps : List (Transition (Forgetful Nat) (ForgetAction Nat) (ForgetEvent Nat)))
        (f : Forgetful Nat), (forgetful debugAssertions Nat h).Run steps f →
        ∀ call busy, .ffi call busy ∈ events steps → busy = false := by
  intro always
  have run := run_of_replay (M := forgetful true Nat .Context)
    [.handle .recvMsg, .handle .poll, .handle .run, .forget, .handle .recvMsg, .handle .poll] rfl
  have idle := always true .Context _ _ run (.start .nng_ctx_recv) true (by decide)
  exact absurd idle (by decide)

/-- Only forgetting makes an orphan. -/
theorem handleStep_orphaned {f' : Forgetful M} {a : Action M} {out : List (Event M)}
    (went : handleStep debugAssertions h f a = some (f', out)) :
    f'.orphaned = f.orphaned ∨ f'.orphaned = false := by
  cases a with
  | poll =>
    simp only [handleStep] at went
    split at went
    · cases went
      exact .inl rfl
    · obtain ⟨_, _, same⟩ := Option.map_eq_some_iff.mp went
      cases same
      exact .inl rfl
  | callback =>
    simp only [handleStep, callbackIn] at went
    split_ifs at went
    · obtain ⟨_, _, same⟩ := Option.map_eq_some_iff.mp went
      cases same
      exact .inl rfl
    · split at went <;> cases went
      exact .inl rfl
  | callbackReturn =>
    obtain ⟨_, _, same⟩ := Option.map_eq_some_iff.mp went
    cases same
    exact .inr rfl
  | sendMsg | recvMsg | tryRecvMsg | run | drop | close | complete =>
    obtain ⟨_, _, same⟩ := Option.map_eq_some_iff.mp went
    cases same
    exact .inl rfl

theorem forget_orphaned {f' : Forgetful M} (forgot : forget f = some f')
    (unwaiting : ∀ implication point, f.state.future ≠ .waiting implication point) :
    f'.orphaned = f.orphaned := by
  unfold forget at forgot
  cases live : f.state.future with
  | waiting implication point => exact absurd live (unwaiting implication point)
  | none =>
    rw [live] at forgot
    cases forgot
  | sendNew | recvNew =>
    rw [live] at forgot
    cases forgot
    rfl

/-- As long as no waiting future is forgotten no operation is orphaned. -/
theorem orphaned_of_kept (run : (forgetful debugAssertions M h).Run steps f)
    (kept : ∀ t ∈ steps, t.act = .forget →
      ∀ implication point, t.pre.state.future ≠ .waiting implication point) :
    f.orphaned = false := by
  refine run.invariant_of (fun t => t.act = .forget →
    ∀ implication point, t.pre.state.future ≠ .waiting implication point)
    (I := fun _ f => f.orphaned = false) rfl ?_ kept
  rintro _ f (a | _) f' shown orphaned stepped unwaiting
  · obtain ⟨-, ⟨f'', out⟩, went, same⟩ := forgetfulStep_handle stepped
    cases same
    exact (handleStep_orphaned went).elim (·.trans orphaned) id
  · have stepped : forgetfulStep debugAssertions h f .forget = some (f', shown) := stepped
    exact (forget_orphaned (forgetfulStep_forget stepped).2.1 (unwaiting rfl)).trans orphaned

/-- **Every call finds the aio idle as long as no waiting future is forgotten.** -/
theorem busy_invariant_unforgotten (run : (forgetful debugAssertions M h).Run steps f)
    (kept : ∀ t ∈ steps, t.act = .forget →
      ∀ implication point, t.pre.state.future ≠ .waiting implication point) :
    ∀ call busy, .ffi call busy ∈ events steps → busy = false := by
  refine callsIdle_events.mp ((callsIdle_iff_of_run run).mpr fun t member starts => ?_)
  obtain ⟨k, bound, rfl⟩ := List.getElem_of_mem member
  have orphaned := orphaned_of_kept (run.upTo bound)
    fun t member => kept t (List.mem_of_mem_take member)
  exact absurd (starts.1.symm.trans orphaned) (by decide)

end Runs

end NngRs.Anng
