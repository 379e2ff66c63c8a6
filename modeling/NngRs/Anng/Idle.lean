/-
**Between futures an `Aio` is idle.**

However a `send_msg` or `recv_msg` future ends, awaited or cancelled, the next one finds the aio not
busy, its message pointer NULL, `msg_was_set` false and no stored permit. So the assertions that
guard the aio never fire, and the notification that wakes a `wait` is that of its own operation.

* `Move.operations` — what one step adds to the operations started, completed and called back.
* `operations_balance` — along a run these differ by the operation the live future waits for.
* `aio_idle_between_futures` — the invariant and its consequences, over every run of either handle.
-/

import NngRs.Anng.Moves

namespace NngRs.Anng

open NngRs.Sys EventMachine

/-- The panics of `send_msg`, `recv_msg` and the functions of `Aio` they use; the others belong to
`try_recv_msg`. -/
def Panic.ofFutures : List Panic :=
  [.setMessageBusy, .setMessageNotNull, .takeMessageBusy, .busyAfterWait, .busyAfterCancel,
    .callbackNotFired, .sendMessageMissing, .recvMessageMissing, .zeroErrorCode]

theorem recvmsgError_panic {M : Type} {errno : UInt32} {p : Panic}
    (panics : recvmsgError (M := M) errno = .error p) : p ∉ Panic.ofFutures := by
  unfold recvmsgError at panics
  repeat' split at panics
  all_goals cases panics
  all_goals simp [Panic.ofFutures]

/-- The answers of `nng_recvmsg` that `try_recv_msg` panics on are no business of the futures. -/
theorem recvmsgResult_panic {M : Type} {returned : Recvmsg M} {p : Panic}
    (panics : recvmsgResult returned = .error p) : p ∉ Panic.ofFutures := by
  unfold recvmsgResult at panics
  by_cases negative : returned.errno < 0
  · rw [if_pos negative] at panics
    cases panics
    simp [Panic.ofFutures]
  · rw [if_neg negative] at panics
    by_cases ok : returned.errno = 0
    · rw [if_pos ok] at panics
      cases slot : returned.msg with
      | none =>
        rw [slot] at panics
        cases panics
        simp [Panic.ofFutures]
      | some msg =>
        rw [slot] at panics
        cases panics
    · rw [if_neg ok] at panics
      exact recvmsgError_panic panics

/-! ### Counting operations -/

/-- A call handed the aio to the library. -/
def Event.isStart {M : Type} : Event M → Bool
  | .started _ => true
  | _ => false

/-- The library completed the operation. -/
def Action.isCompletion {M : Type} : Action M → Bool
  | .complete _ => true
  | _ => false

/-- The library ran the callback. -/
def Action.isCallback {M : Type} : Action M → Bool
  | .callback => true
  | _ => false

/-- Whether the operation has completed and its callback has not run yet. -/
def Stage.unnotified : Stage → Bool
  | .completed => true
  | .pending _ | .notified | .idle => false

section Operations

variable {M : Type} {h : Handle} {s s' : State M}

/-- The operations a run started. -/
def started (trace : List (Transition (State M) (Action M) (Event M))) : Nat :=
  (events trace).countP Event.isStart

/-- The operations the library completed in a run. -/
def completed (trace : List (Transition (State M) (Action M) (Event M))) : Nat :=
  trace.countP fun t => t.act.isCompletion

/-- The callbacks of a run. -/
def calledBack (trace : List (Transition (State M) (Action M) (Event M))) : Nat :=
  trace.countP fun t => t.act.isCallback

/-- **What one step adds**: a start makes the operation run, a completion ends it, and the callback
follows the completion. -/
theorem Move.operations {a : Action M} {out : List (Event M)} (sound : Sound s)
    (move : Move h s a s' out) :
    out.countP Event.isStart + s.endpoint.aio.aio.stage.running.toNat =
        s'.endpoint.aio.aio.stage.running.toNat + a.isCompletion.toNat ∧
      a.isCompletion.toNat + s.endpoint.aio.aio.stage.unnotified.toNat =
        s'.endpoint.aio.aio.stage.unnotified.toNat + a.isCallback.toNat := by
  have atRest (free : ∀ implication point, s.future ≠ .waiting implication point) :
      s.endpoint.aio.aio.stage = .idle := NngAio.busy_eq_false.mp (sound.idle free).notBusy
  cases move with
  | sendMsg | recvMsg | tryRecovered | tryReceived | tryRefused | tryPanicked | recvRecovered
  | dropSendNew | dropRecvNew => exact ⟨Nat.add_comm _ _, Nat.add_comm _ _⟩
  | close =>
    refine ⟨?_, Nat.add_comm _ _⟩
    cases s.endpoint.recoveredMsg <;> exact Nat.add_comm _ _
  | sendStart _ live | recvStart live =>
    rw [atRest fun _ _ => by rw [live]; nofun]
    exact ⟨rfl, rfl⟩
  | turn _ _ _ _ thread =>
    rcases thread with rfl | rfl | rfl <;> exact ⟨Nat.add_comm _ _, Nat.add_comm _ _⟩
  | sendOk _ stage | sendFailed _ _ _ stage | recvOk _ _ stage | recvFailed _ _ stage
  | sendDroppedOk _ stage | sendDroppedFailed _ _ stage | recvDroppedOk _ _ stage
  | recvDroppedFailed _ stage =>
    rw [stage]
    exact ⟨rfl, rfl⟩
  | completeSent _ _ _ _ stage | completeReceived _ _ _ stage | completeFailed _ _ _ _ stage
  | callback _ _ _ stage | callbackReturn _ _ _ stage =>
    rw [stage]
    exact ⟨rfl, rfl⟩

/-- **Every operation a run started has completed, but for the one the live future waits for, and
every completed one has been called back, but for the last.** -/
theorem operations_balance {trace : List (Transition (State M) (Action M) (Event M))}
    (run : (machine M h).Run trace s) :
    started trace = completed trace + s.endpoint.aio.aio.stage.running.toNat ∧
      completed trace = calledBack trace + s.endpoint.aio.aio.stage.unnotified.toNat := by
  induction run with
  | nil => exact ⟨rfl, rfl⟩
  | @snoc trace s s' a out earlier stepped ih =>
    have sound := sound_of_reachable ⟨_, earlier⟩
    obtain ⟨run, notify⟩ := (step_move sound stepped).2.operations sound
    simp only [started, completed, calledBack, events_append, events_singleton, List.countP_append,
      List.countP_singleton] at ih ⊢
    cases finishes : a.isCompletion <;> cases calls : a.isCallback <;>
      simp only [finishes, calls, Bool.toNat_true, Bool.toNat_false, if_true, Bool.false_eq_true,
        if_false] at run notify ⊢ <;>
      omega

/-- A wait that ends leaves an operation at rest behind. -/
theorem Move.atRest_of_ended {a : Action M} {out : List (Event M)} {point : WaitPoint}
    {implication : ImplicationOnMessage} (move : Move h s a s' out)
    (waits : s.future = .waiting implication point) (ended : s'.future = .none) :
    s.endpoint.aio.aio.stage = .idle := by
  have waiting : s.future ≠ .none := by rw [waits]; nofun
  cases move with
  | sendOk _ stage | sendFailed _ _ _ stage | recvOk _ _ stage | recvFailed _ _ stage
  | sendDroppedOk _ stage | sendDroppedFailed _ _ stage | recvDroppedOk _ _ stage
  | recvDroppedFailed _ stage => exact stage
  | sendMsg _ free | recvMsg free | tryRecovered _ _ free | tryReceived _ free
  | tryRefused _ _ free | tryPanicked _ _ free | close free => exact absurd free waiting
  | sendStart _ live | recvRecovered _ live | recvStart live | dropSendNew _ live
  | dropRecvNew live =>
    rw [waits] at live
    cases live
  | turn | callback => cases ended
  | completeSent | completeReceived | completeFailed | callbackReturn => exact absurd ended waiting

/-- The panics of a run are answers that `try_recv_msg` does not expect. -/
theorem panicked_recvmsg {trace : List (Transition (State M) (Action M) (Event M))}
    (run : (machine M h).Run trace s) {p : Panic} (panics : .panicked p ∈ events trace) :
    ∃ returned : Recvmsg M, recvmsgResult returned = .error p := by
  obtain ⟨t, member, shown⟩ := mem_events.mp panics
  obtain ⟨reached, stepped⟩ := run.before t member
  obtain ⟨_, move⟩ := step_move (sound_of_reachable reached) stepped
  generalize t.act = act, t.out = out, t.post = post at move shown
  cases move with
  | tryPanicked returned p' _ _ answer =>
    simp only [List.mem_cons, List.not_mem_nil, reduceCtorEq, false_or, or_false,
      Event.panicked.injEq] at shown
    exact ⟨returned, shown ▸ answer⟩
  | close =>
    cases recovered : t.pre.endpoint.recoveredMsg <;> rw [recovered] at shown <;> simp at shown
  | _ => simp at shown

end Operations

/-- **Between futures the aio is idle**: not busy, its message pointer NULL, `msg_was_set` false and
no permit stored. Hence no assertion, `unreachable!` or `expect` of the futures ever fires, and no
wait is woken or returns before its own operation has completed and called back. -/
theorem aio_idle_between_futures {M : Type} (h : Handle)
    {trace : List (Transition (State M) (Action M) (Event M))} {s : State M}
    (run : (machine M h).Run trace s) :
    (s.future = .none →
      s.endpoint.aio.aio.busy = false ∧ s.endpoint.aio.aio.msg = none ∧
        s.endpoint.aio.msgWasSet = false ∧ s.endpoint.aio.notify.permit = false) ∧
      (∀ p ∈ Panic.ofFutures, .panicked p ∉ events trace) ∧
      (∀ implication, s.future = .waiting implication .woken →
        started trace = completed trace ∧ completed trace = calledBack trace) ∧
      ∀ implication point a s' out, s.future = .waiting implication point →
        step h s a = some (s', out) → s'.future = .none →
        started trace = completed trace ∧ completed trace = calledBack trace := by
  have sound : Sound s := sound_of_reachable ⟨trace, run⟩
  have balance := operations_balance run
  refine ⟨fun free => ?_, fun p ofFutures panics => ?_, fun implication woken => ?_,
    fun implication point a s' out waits stepped ended => ?_⟩
  · have idle := sound.idle fun _ _ => by rw [free]; nofun
    refine ⟨idle.notBusy, idle.msgNull, idle.notSet, ?_⟩
    rw [idle.quiet]
    rfl
  · obtain ⟨returned, answer⟩ := panicked_recvmsg run panics
    exact recvmsgResult_panic answer ofFutures
  · have fired := (sound.inFlight woken).ownCallback rfl
    cases stage : s.endpoint.aio.aio.stage <;> rw [stage] at fired balance <;>
      first | exact balance | cases fired
  · obtain ⟨_, move⟩ := step_move sound stepped
    rw [move.atRest_of_ended waits ended] at balance
    exact balance

/-- A receive is dropped after NNG completed it and ran its callback: the aio is idle again, and the
message is recovered. -/
theorem aio_idle_after_cancelled_receive :
    ∃ (trace : List (Transition (State Nat) (Action Nat) (Event Nat))) (s : State Nat),
      (machine Nat .Socket).Run trace s ∧ s.future = .none ∧
        s.endpoint.recoveredMsg = some ⟨7, 0⟩ ∧ started trace = 1 ∧
        (s.endpoint.aio.aio.busy = false ∧ s.endpoint.aio.aio.msg = none ∧
          s.endpoint.aio.msgWasSet = false ∧ s.endpoint.aio.notify.permit = false) ∧
        .panicked .callbackNotFired ∉ events trace := by
  have run := run_of_replay (M := machine Nat .Socket)
    [.recvMsg, .poll, .run, .complete (.received 7), .callback, .drop, .run, .callbackReturn, .run]
    rfl
  have idle := aio_idle_between_futures .Socket run
  exact ⟨_, _, run, rfl, rfl, rfl, idle.1 rfl, idle.2.1 _ (by decide)⟩

end NngRs.Anng
