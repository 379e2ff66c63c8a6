/-
**Every future ends: no wake-up is lost and no thread waits for ever.**

A future that has begun does not depend on its caller any more. What is owed to it: the executor polls
a new future, and one whose `Notified` was notified; a polling or dropping thread goes on; the library
completes the operation, runs the callback and returns from it. A poll out of turn is not owed, and
neither is a drop.

* `State.owes` — the owed steps.
* `State.rank` — how many of them are left at most.
* `settles` — each of them lowers the rank, nothing raises it while the future lives, and one of them
  is possible as long as it does.
* `futures_end` — so every future ends after at most seven of them, however they are interleaved with
  what the caller does.
-/

import NngRs.Anng.Moves
import NngRs.Machine.Progress

namespace NngRs.Anng

open NngRs.Sys EventMachine

variable {M : Type}

/-- The steps that a live future can count on. -/
def State.owes (s : State M) : Action M → Bool
  | .poll =>
    match s.future with
    | .sendNew _ | .recvNew => true
    | .waiting _ .suspended => s.endpoint.aio.notify.waiter == some .notified
    | _ => false
  | .run | .complete _ | .callback | .callbackReturn => true
  | .sendMsg _ | .recvMsg | .tryRecvMsg _ | .drop | .close => false

/-- What the library still has to do. -/
def Stage.rank : Stage → Nat
  | .pending _ => 3
  | .completed => 2
  | .notified => 1
  | .idle => 0

/-- What the thread still has to do. -/
def WaitPoint.rank : WaitPoint → Nat
  | .polling => 3
  | .suspended | .dropping => 2
  | .woken | .cancelled => 1

/-- How many owed steps are left at most. -/
def State.rank (s : State M) : Nat :=
  match s.future with
  | .none => 0
  | .sendNew _ | .recvNew => 7
  | .waiting _ point => point.rank + s.endpoint.aio.aio.stage.rank

section Settling

variable {h : Handle} {s s' : State M} {a : Action M} {out : List (Event M)}

theorem rank_waiting {implication : ImplicationOnMessage} {point : WaitPoint}
    (live : s.future = .waiting implication point) :
    s.rank = point.rank + s.endpoint.aio.aio.stage.rank := by
  rw [State.rank, live]

theorem rank_withNng {implication : ImplicationOnMessage} {point : WaitPoint} (aio : NngAio M)
    (live : s.future = .waiting implication point) :
    (s.withNng aio).rank = point.rank + aio.stage.rank := rank_waiting (s := s.withNng aio) live

theorem rank_le (s : State M) : s.rank ≤ 7 := by
  unfold State.rank
  cases s.future with
  | none | sendNew | recvNew => simp only [Nat.zero_le, le_refl]
  | waiting _ point =>
    have thread : point.rank ≤ 3 := by cases point <;> decide
    have library : s.endpoint.aio.aio.stage.rank ≤ 3 := by
      cases s.endpoint.aio.aio.stage <;> simp [Stage.rank]
    simp only
    omega

/-! ### An owed step is possible -/

/-- A thread in a poll or a drop goes on, but where it waits for the library. -/
theorem run_enabled (live : s.status = .live) {implication : ImplicationOnMessage} {point : WaitPoint}
    (waits : s.future = .waiting implication point) (inside : point ≠ .suspended)
    (returned : s.endpoint.aio.aio.busy = false ∨ point = .polling ∨ point = .dropping) :
    ∃ s' out, step h s .run = some (s', out) := by
  rw [step_live live, stepLive, run, waits]
  cases point with
  | suspended => exact absurd rfl inside
  | polling =>
    obtain ⟨ready, notify⟩ := s.endpoint.aio.notify.pollNew
    cases ready <;> exact ⟨_, _, rfl⟩
  | dropping => exact ⟨_, _, rfl⟩
  | woken | cancelled =>
    have idle : s.endpoint.aio.aio.busy = false := by simpa using returned
    simp only [idle, Bool.false_eq_true, if_false]
    cases implication <;> exact ⟨_, _, rfl⟩

/-- The library goes on with an operation. -/
theorem library_enabled (live : s.status = .live)
    (busy : s.endpoint.aio.aio.stage ≠ .idle) :
    ∃ a s' out, s.owes a = true ∧ step h s a = some (s', out) := by
  cases stage : s.endpoint.aio.aio.stage with
  | idle => exact absurd stage busy
  | pending op =>
    have nonzero : ErrorCode.ECANCELED.value ≠ 0 := by decide
    refine ⟨.complete (.failed ⟨_, nonzero⟩), ?_⟩
    simp only [step_live live, stepLive, complete, stage]
    exact ⟨_, _, rfl, rfl⟩
  | completed =>
    refine ⟨.callback, ?_⟩
    rw [step_live live, stepLive, callback, stage]
    exact ⟨_, _, rfl, rfl⟩
  | notified =>
    refine ⟨.callbackReturn, ?_⟩
    rw [step_live live, stepLive, callbackReturn, stage]
    exact ⟨_, _, rfl, rfl⟩

/-- **As long as a future lives, an owed step is possible.** A suspended future whose operation is
over has been notified, so its poll is owed. -/
theorem owed_enabled (sound : Sound s) (live : s.status = .live) (ongoing : s.future ≠ .none) :
    ∃ a s' out, s.owes a = true ∧ step h s a = some (s', out) := by
  cases shape : s.future with
  | none => exact absurd shape ongoing
  | sendNew message =>
    refine ⟨.poll, ?_⟩
    rw [step_live live, stepLive, poll, State.owes, shape]
    exact ⟨_, _, rfl, rfl⟩
  | recvNew =>
    refine ⟨.poll, ?_⟩
    rw [step_live live, stepLive, poll, State.owes, shape]
    exact ⟨_, _, rfl, rfl⟩
  | waiting implication point =>
    by_cases atRest : s.endpoint.aio.aio.stage = .idle
    · by_cases parked : point = .suspended
      · subst parked
        have signal := (sound.inFlight shape).signal
        rw [atRest] at signal
        refine ⟨.poll, ?_⟩
        rw [step_live live, stepLive, poll, State.owes, shape]
        simp only [signal]
        exact ⟨_, _, rfl, rfl⟩
      · obtain ⟨s', out, stepped⟩ :=
          run_enabled (h := h) live shape parked (.inl (NngAio.busy_eq_false.mpr atRest))
        exact ⟨.run, s', out, rfl, stepped⟩
    · exact library_enabled live atRest

/-! ### It lowers the rank -/

/-- The step that ends a future is seen. -/
theorem finish_shows (s : State M) : (sendFinish s).2 ≠ [] ∧ (recvFinish s).2 ≠ [] ∧
    (sendDropped s).2 ≠ [] ∧ (recvDropped s).2 ≠ [] := by
  refine ⟨?_, ?_, ?_, ?_⟩
  · unfold sendFinish State.panic
    repeat' split
    all_goals exact List.cons_ne_nil _ _
  · unfold recvFinish State.panic
    repeat' split
    all_goals exact List.cons_ne_nil _ _
  · unfold sendDropped State.panic
    split
    · exact List.cons_ne_nil _ _
    · exact List.concat_ne_nil _ _
  · unfold recvDropped State.panic
    repeat' split
    all_goals first | exact List.cons_ne_nil _ _ | exact List.concat_ne_nil _ _

/-- Where a thread takes a waiting future: on when it runs, on or nowhere when it polls, and into the
drop. -/
theorem turn_rank {implication : ImplicationOnMessage} {point point' : WaitPoint}
    (live : s.status = .live) (waits : s.future = .waiting implication point)
    (stepped : step h s a = some (s', [])) (turns : a = .poll ∨ a = .run ∨ a = .drop)
    (waits' : s'.future = .waiting implication point') :
    point'.rank ≤ point.rank ∧ (s.owes a = true → point'.rank < point.rank) := by
  rw [step_live live] at stepped
  rcases turns with rfl | rfl | rfl
  · rw [stepLive, poll, waits] at stepped
    rw [State.owes, waits]
    cases point with
    | suspended =>
      simp only [Notify.pollWaiting] at stepped
      by_cases woken : s.endpoint.aio.notify.waiter = some .notified
      · rw [woken] at stepped
        cases stepped
        cases waits'
        exact ⟨by decide, fun _ => by decide⟩
      · have asleep : s' = s.moveTo implication s.endpoint.aio.notify .suspended := by
          split at stepped
          · next same =>
            split at same
            · exact absurd ‹_› woken
            · cases same
          · next same =>
            split at same
            · cases same
            · cases same
              cases stepped
              rfl
        subst asleep
        cases waits'
        exact ⟨le_refl _, fun due => absurd (by simpa using due) woken⟩
    | polling | woken | dropping | cancelled => cases stepped
  · rw [stepLive, run, waits] at stepped
    cases point with
    | suspended => cases stepped
    | polling =>
      simp only at stepped
      split at stepped <;> cases stepped <;> cases waits' <;> exact ⟨by decide, fun _ => by decide⟩
    | dropping =>
      cases stepped
      cases waits'
      exact ⟨by decide, fun _ => by decide⟩
    | woken | cancelled =>
      obtain ⟨sent, received, unsent, unreceived⟩ := finish_shows s
      simp only at stepped
      split at stepped
      · cases stepped
      · cases implication with
        | Sent =>
          have silent := congrArg Prod.snd (Option.some.inj stepped)
          first | exact absurd silent sent | exact absurd silent unsent
        | Received =>
          have silent := congrArg Prod.snd (Option.some.inj stepped)
          first | exact absurd silent received | exact absurd silent unreceived
  · rw [stepLive, drop, waits] at stepped
    cases point with
    | suspended =>
      cases stepped
      cases waits'
      exact ⟨le_refl _, nofun⟩
    | polling | woken | dropping | cancelled => cases stepped

theorem lowers (lower : s'.rank < s.rank) :
    s'.rank ≤ s.rank ∧ (s.owes a = true → s'.rank < s.rank) := ⟨le_of_lt lower, fun _ => lower⟩

/-- **An owed step lowers the rank, and no step of a live future raises it.** -/
theorem step_rank (sound : Sound s) (stepped : step h s a = some (s', out))
    (ongoing : s.future ≠ .none) : s'.rank ≤ s.rank ∧ (s.owes a = true → s'.rank < s.rank) := by
  obtain ⟨live, move⟩ := step_move sound stepped
  cases move with
  | sendMsg _ free | recvMsg free | tryRecovered _ _ free | tryReceived _ free
  | tryRefused _ _ free | tryPanicked _ _ free | close free => exact absurd free ongoing
  | sendStart _ waits | recvStart waits =>
    refine lowers ?_
    rw [State.rank, State.rank, waits]
    exact (by decide : 6 < 7)
  | recvRecovered _ waits | dropSendNew _ waits | dropRecvNew waits =>
    refine lowers ?_
    rw [State.rank, State.rank, waits]
    exact (by decide : 0 < 7)
  | turn _ implication point point' turns waits _ =>
    obtain ⟨lower, strictly⟩ := turn_rank live waits stepped turns rfl
    rw [rank_waiting waits, rank_waiting (s := s.turned _ _) rfl]
    show point'.rank + s.endpoint.aio.aio.stage.rank ≤ _ ∧
      (_ → point'.rank + s.endpoint.aio.aio.stage.rank < _)
    refine ⟨by omega, fun due => ?_⟩
    have pays := strictly due
    omega
  | sendOk waits | sendFailed _ _ waits | recvOk _ waits | recvFailed _ waits | sendDroppedOk waits
  | sendDroppedFailed _ waits | recvDroppedOk _ waits | recvDroppedFailed waits =>
    refine lowers ?_
    rw [rank_waiting waits]
    exact Nat.add_pos_left (by decide) _
  | completeSent point _ _ waits stage | completeReceived point _ waits stage
  | completeFailed implication point _ waits stage | callbackReturn implication point waits stage =>
    refine lowers ?_
    rw [rank_waiting waits, rank_withNng _ waits, stage]
    exact Nat.add_lt_add_left (Nat.lt_succ_self _) _
  | callback implication point waits stage =>
    refine lowers ?_
    rw [rank_waiting waits, rank_waiting (s := State.turned _ _ _) rfl, stage]
    exact Nat.add_lt_add_left (Nat.lt_succ_self _) _

/-- A live future belongs to a live handle. -/
theorem live_of_ongoing (reached : (machine M h).Reachable s) (ongoing : s.future ≠ .none) :
    s.status = .live := by
  cases status : s.status with
  | live => rfl
  | closed => exact absurd (closed_empty reached status).1 ongoing
  | poisoned => exact absurd status (sound_of_reachable reached).clean

/-- **The owed steps of a handle lead to the end of its future.** -/
theorem settles (h : Handle) :
    Settles (machine M h) (machine M h).Reachable State.owes State.rank fun s => s.future = .none where
  kept := fun _ _ _ _ reached _ stepped => reached.step stepped
  always := fun _ _ _ _ reached stepped => reached.step stepped
  lower := fun _ _ _ _ reached ongoing due stepped =>
    (step_rank (sound_of_reachable reached) stepped ongoing).2 due
  steady := fun _ _ _ _ reached ongoing stepped =>
    (step_rank (sound_of_reachable reached) stepped ongoing).1
  able := fun _ reached ongoing =>
    owed_enabled (sound_of_reachable reached) (live_of_ongoing reached ongoing) ongoing

end Settling

/-- **Every future ends.** From any reachable state, a run that has not reached the end of the future
holds at most seven owed steps, whatever the caller and spurious polls do in between; one more is
possible as long as the future lives; and owed steps alone end it. -/
theorem futures_end {M : Type} (h : Handle) {s : State M} (reached : (machine M h).Reachable s) :
    (∀ later s', ((machine M h).startedAt s).Run later s' → (∀ t ∈ later, t.pre.future ≠ .none) →
      owedSteps State.owes later ≤ 7 ∧
        (s'.future ≠ .none → ∃ a s'' out, s'.owes a = true ∧ step h s' a = some (s'', out))) ∧
      ∃ later s', ((machine M h).startedAt s).Run later s' ∧ (∀ t ∈ later, t.pre.owes t.act = true) ∧
        s'.future = .none ∧ later.length ≤ 7 := by
  constructor
  · intro later s' run before
    have paid := (settles h).count_le reached run before
    have inside := (settles h).kept_run reached ⟨_, run⟩
    have start := rank_le s
    exact ⟨by omega, (settles h).able s' inside⟩
  · obtain ⟨later, s', run, dues, ended, short⟩ := (settles h).reaches reached
    exact ⟨later, s', run, dues, ended, le_trans short (rank_le s)⟩

/-- A receive is dropped while the library has its operation: owed steps alone end it. -/
theorem futures_end_dropped_receive :
    ∃ s : State Nat, (machine Nat .Socket).Reachable s ∧ s.future = .waiting .Received .dropping ∧
      ∃ later s', ((machine Nat .Socket).startedAt s).Run later s' ∧
        (∀ t ∈ later, t.pre.owes t.act = true) ∧ s'.future = .none ∧ later.length ≤ 7 := by
  have run := run_of_replay (M := machine Nat .Socket) [.recvMsg, .poll, .run, .drop] rfl
  exact ⟨_, ⟨_, run⟩, rfl, (futures_end .Socket ⟨_, run⟩).2⟩

end NngRs.Anng
