/-
**Which unanswered requests are reported: the warning of a dropped REP0 `Responder`.**

`Responder::reply` sets `sent` at its first poll, before the outcome of the send is known. A failed send
gives the responder back with the flag set, and a dropped `reply` future drops it with the flag set.
The `Drop` of the responder warns only when the flag is not set.

The watcher follows a responder from the request that it was returned with to its final drop, and shows
that drop with what happened before it.

* `LifeStep` — what a step of the context can do to the responder (`lifeStep_of_move`).
* `Living` — the invariant: the flag says that a reply was polled (`Living.step`).
* `final_drop_reported_iff` — over every run, for each final drop: the warning is logged exactly for an
  unanswered request when no reply was polled, or one was sent.
-/

import NngRs.Anng.Reply

namespace NngRs.Anng

open NngRs.Sys EventMachine

variable {M : Type}

/-- What has happened to a responder. -/
structure Life where
  /-- A `reply` future of it was polled. -/
  polled : Bool
  /-- The library took a reply. -/
  answered : Bool
deriving DecidableEq, Repr

/-- The life of a new responder. -/
def Life.fresh : Life := ⟨false, false⟩

/-- The final drop of a responder. -/
structure FinalDrop where
  responder : Nat
  polled : Bool
  answered : Bool
  /-- "REP0 Responder dropped (likely cancelled); peer will have to re-send the request" -/
  warned : Bool
deriving DecidableEq, Repr

/-- **The warning is logged if, and only if, no reply was sent.** -/
def FinalDrop.Reported (drop : FinalDrop) : Prop := drop.warned = true ↔ drop.answered = false

instance (drop : FinalDrop) : Decidable drop.Reported := inferInstanceAs (Decidable (_ ↔ _))

/-- The flag of the responder that is held, or whose reply is in progress. -/
def Holding.sent : Holding → Option Bool
  | .responding sent | .replying sent => some sent
  | .listening | .receiving => none

/-- A send was handed to the library. -/
def Future.sends : Future M → Bool
  | .waiting .Sent _ => true
  | _ => false

/-- The responder whose drop is warned about. -/
def ReplyEvent.warnedFor : ReplyEvent M → Option Nat
  | .warned responder => some responder
  | _ => none

/-- The first poll of a `reply` future. -/
def firstPoll (future : Future M) : Action M ⊕ ResponderAction → Bool
  | .inl .poll => match future with
    | .sendNew _ => true
    | _ => false
  | _ => false

/-- The life of a responder after a step of the context. -/
def Life.after (life : Life)
    (t : Transition (State M × Replies M) (Action M ⊕ ResponderAction) (ReplyEvent M)) : Life where
  polled := life.polled || firstPoll t.pre.1.future t.act
  answered := life.answered || (t.out.filterMap ReplyEvent.routedFor).contains t.pre.2.returned

/-- Follows the responder, and shows its final drop: the step that leaves the caller without it. -/
def lives (M : Type) :
    Watcher (State M × Replies M) (Action M ⊕ ResponderAction) (ReplyEvent M) Life Empty FinalDrop where
  start := .fresh
  react life t :=
    if t.pre.2.holding.sent.isSome then
      if t.post.2.holding.sent.isSome then some (life.after t, [])
      else some (.fresh, [{
        responder := t.pre.2.returned
        polled := (life.after t).polled
        answered := (life.after t).answered
        warned := (t.out.filterMap ReplyEvent.warnedFor).contains t.pre.2.returned }])
    else some (.fresh, [])
  own _ _ := nofun

/-- `ContextfulSocket<Rep0>`, with the lives of its responders followed. -/
abbrev reporter (M : Type) := (replier M .Rep0).watched (lives M)

section Steps

variable {s s' : State M × Replies M} {act : Action M ⊕ ResponderAction} {out : List (ReplyEvent M)}

/-- **What a step can do to the responder.** -/
structure LifeStep (s : State M × Replies M) (act : Action M ⊕ ResponderAction)
    (s' : State M × Replies M) (out : List (ReplyEvent M)) : Prop where
  /-- The flag is set while a reply is in progress. -/
  started : s'.1.future.sends = true → s'.2.holding.sent = some true
  /-- A reply is taken only when the flag was set. -/
  routes : out.filterMap ReplyEvent.routedFor ≠ [] → s.2.holding.sent = some true
  /-- A new responder's flag is not set. -/
  hands : s.2.holding.sent = none → s'.2.holding.sent.getD false = false
  goesOn : ∀ sent, s.2.holding.sent = some sent → ∀ sent', s'.2.holding.sent = some sent' →
    sent' = (sent || firstPoll s.1.future act)
  ends : ∀ sent, s.2.holding.sent = some sent → s'.2.holding.sent = none →
    firstPoll s.1.future act = false ∧
      (out.filterMap ReplyEvent.warnedFor).contains s.2.returned = !sent

/-- A step without a responder, which may hand out a new one. -/
theorem LifeStep.outside (free : s.2.holding.sent = none)
    (new : s'.2.holding.sent.getD false = false) (unsent : s'.1.future.sends = false)
    (silent : out.filterMap ReplyEvent.routedFor = []) : LifeStep s act s' out where
  started live := absurd live (Bool.eq_false_iff.mp unsent)
  routes routed := absurd silent routed
  hands _ := new
  goesOn _ held := absurd (held.symm.trans free) (Option.some_ne_none _)
  ends _ held := absurd (held.symm.trans free) (Option.some_ne_none _)

/-- A step that leaves the flag as it is. -/
theorem LifeStep.unchanged (same : s'.2.holding.sent = s.2.holding.sent)
    (before : s'.1.future.sends = true → s.2.holding.sent = some true)
    (later : firstPoll s.1.future act = false)
    (routes : out.filterMap ReplyEvent.routedFor ≠ [] → s.2.holding.sent = some true) :
    LifeStep s act s' out where
  started live := same.trans (before live)
  routes := routes
  hands free := by
    rw [same, free]
    rfl
  goesOn sent held sent' held' := by
    rw [later, Bool.or_false]
    exact Option.some.inj (held'.symm.trans (same.trans held))
  ends _ held gone := absurd (held.symm.trans (same.symm.trans gone)) (Option.some_ne_none _)

/-- The first poll of a `reply` future sets the flag. -/
theorem LifeStep.first {sent : Bool} (held : s.2.holding.sent = some sent)
    (set : s'.2.holding.sent = some true) (polled : firstPoll s.1.future act = true)
    (silent : out.filterMap ReplyEvent.routedFor = []) : LifeStep s act s' out where
  started _ := set
  routes routed := absurd silent routed
  hands free := absurd (held.symm.trans free) (Option.some_ne_none _)
  goesOn _ _ _ held' := by
    rw [polled, Bool.or_true]
    exact Option.some.inj (held'.symm.trans set)
  ends _ _ gone := absurd (set.symm.trans gone) (Option.some_ne_none _)

/-- A final drop, which warns unless the flag is set. -/
theorem LifeStep.final {sent : Bool} (held : s.2.holding.sent = some sent)
    (gone : s'.2.holding.sent = none) (later : firstPoll s.1.future act = false)
    (unsent : s'.1.future.sends = false) (silent : out.filterMap ReplyEvent.routedFor = [])
    (warns : (out.filterMap ReplyEvent.warnedFor).contains s.2.returned = !sent) :
    LifeStep s act s' out where
  started live := absurd live (Bool.eq_false_iff.mp unsent)
  routes routed := absurd silent routed
  hands free := absurd (held.symm.trans free) (Option.some_ne_none _)
  goesOn _ _ _ held' := absurd (held'.symm.trans gone) (Option.some_ne_none _)
  ends sent' held' _ := by
    cases held.symm.trans held'
    exact ⟨later, warns⟩

end Steps

section Moves

variable {s s' : State M} {g g' : Replies M} {act : Action M} {out : List (Event M)}
  {shown : List (ReplyEvent M)}

/-- `Drop` of the responder. -/
theorem dropped_warns (responder : Nat) (sent : Bool) :
    ((Replier.Rep0.dropped (M := M) responder sent).filterMap ReplyEvent.warnedFor).contains
      responder = !sent := by
  cases sent with
  | true => rfl
  | false => simp [Replier.dropped, ReplyEvent.warnedFor]

theorem dropped_silent (responder : Nat) (sent : Bool) :
    (Replier.Rep0.dropped (M := M) responder sent).filterMap ReplyEvent.routedFor = [] :=
  routedFor_of_quiet (quiet_dropped _ _ _)

theorem call_close {holding holding' : Holding}
    (called : holding.call (.close : Action M) = some holding') :
    holding = .listening ∧ holding' = .listening := by
  cases holding <;> cases called
  exact ⟨rfl, rfl⟩

theorem Future.sends_of_free {future : Future M} (free : future = .none) : future.sends = false := by
  rw [free]
  rfl

/-- A wait that goes on, with the same holding. -/
theorem LifeStep.waits {implication : ImplicationOnMessage} {point point' : WaitPoint}
    (before : s.future = .waiting implication point) (after : s'.future = .waiting implication point')
    (started : s.future.sends = true → g.holding.sent = some true) :
    LifeStep (s, g) (.inl act) (s', g) [] := by
  have same : s'.future.sends = s.future.sends := by
    rw [before, after]
    cases implication <;> rfl
  have later : firstPoll s.future (.inl act) = false := by
    rw [before]
    cases act <;> rfl
  exact .unchanged rfl (fun live => started (same.symm.trans live)) later fun routed => absurd rfl routed

/-! One lemma for each move that takes, ends or gives back a reply, and for the ends of receives. -/

/-- A reply is asked for: the flag is that of the responder. -/
theorem LifeStep.sendMsg {sent : Bool} (message : Message M) (before : g.holding = .responding sent) :
    LifeStep (s, g) (.inl (.sendMsg message))
      ({ s with future := .sendNew message }, { g with holding := .replying sent }) [] := by
  refine .unchanged ?_ (fun live => absurd live Bool.false_ne_true) rfl fun routed => absurd rfl routed
  rw [before]
  rfl

/-- The first poll of a reply. -/
theorem LifeStep.sendStart {message : Message M} (fits : g.holding.Fits s.future)
    (live : s.future = .sendNew message) :
    LifeStep (s, g) (.inl .poll) (s.begun .Sent (some message.intoPtr),
      { g with target := g.current, holding := .replying true }) [] := by
  rw [live] at fits
  obtain ⟨sent, before⟩ := Holding.fits_sendNew fits
  have held : g.holding.sent = some sent := by rw [before]; rfl
  have polled : firstPoll s.future (.inl .poll) = true := by rw [live]; rfl
  exact .first held rfl polled rfl

/-- The library takes a reply. -/
theorem LifeStep.completeSent {point : WaitPoint} {completion : Completion M} {aio : NngAio M}
    (started : s.future.sends = true → g.holding.sent = some true)
    (live : s.future = .waiting .Sent point) :
    LifeStep (s, g) (.inl (.complete completion)) (s.withNng aio, g)
      [.routed g.returned g.target] :=
  .unchanged rfl started rfl fun _ => started (by rw [live]; rfl)

/-- The library dequeues a request. -/
theorem LifeStep.completeReceived {point : WaitPoint} {completion : Completion M} {aio : NngAio M}
    (current : Option M) (live : s.future = .waiting .Received point) :
    LifeStep (s, g) (.inl (.complete completion)) (s.withNng aio, { g with current }) [] := by
  have unsent : s.future.sends = false := by rw [live]; rfl
  exact .unchanged rfl (fun sends => absurd sends (Bool.eq_false_iff.mp unsent)) rfl fun routed =>
    absurd rfl routed

/-- The reply is sent, and its responder is gone. -/
theorem LifeStep.sendOk {point : WaitPoint} {recovered : Option (Message M)}
    (started : s.future.sends = true → g.holding.sent = some true)
    (live : s.future = .waiting .Sent point) :
    LifeStep (s, g) (.inl .run) (s.ended recovered, { g with holding := .listening })
      [.replied g.returned] := by
  have flag : g.holding.sent = some true := started (by rw [live]; rfl)
  exact .final flag rfl rfl rfl rfl rfl

/-- The responder comes back with the flag that its first poll set. -/
theorem LifeStep.sendFailed {point : WaitPoint} {recovered : Option (Message M)}
    (e : AioError × Message M) (started : s.future.sends = true → g.holding.sent = some true)
    (live : s.future = .waiting .Sent point) :
    LifeStep (s, g) (.inl .run) (s.ended recovered, { g with holding := .responding true })
      [.replyFailed g.returned e] := by
  have flag : g.holding.sent = some true := started (by rw [live]; rfl)
  exact .unchanged flag.symm (fun _ => flag) rfl fun routed => absurd rfl routed

/-- A future is dropped, and with a reply its responder: before the first poll the flag is still that
of the responder it was made from. -/
theorem LifeStep.cancelled (fits : g.holding.Fits s.future) (live : s.future ≠ .none)
    (later : firstPoll s.future (.inl act) = false) (free : s'.future = .none)
    (observed : Replies.see .Rep0 g .cancelled = some (g', shown)) :
    LifeStep (s, g) (.inl act) (s', g') shown := by
  cases holding : g.holding with
  | replying sent =>
    simp only [Replies.see, holding] at observed
    cases observed
    have held : g.holding.sent = some sent := by rw [holding]; rfl
    exact .final held rfl later (Future.sends_of_free free) (dropped_silent _ _) (dropped_warns _ _)
  | listening | receiving =>
    simp only [Replies.see, holding] at observed
    cases observed
    exact .outside (by rw [holding]; rfl) rfl (Future.sends_of_free free) rfl
  | responding sent =>
    rw [holding] at fits
    cases future : s.future with
    | none => exact absurd future live
    | sendNew | recvNew => rw [future] at fits; cases fits
    | waiting implication => rw [future] at fits; cases implication <;> cases fits

/-- A try_receive found nothing, or failed. -/
theorem LifeStep.tryRefused {result : Except AioError (Option (Message M))} {call : NngCall}
    (before : g.holding = .listening) (free : s.future = .none)
    (empty : ∀ msg, result ≠ .ok (some msg))
    (observed : observe (Replies.see .Rep0) { g with holding := .listening }
      [.called call, .tryRecvReturned result] = some (g', shown)) :
    LifeStep (s, g) (.inl act) (s, g') shown := by
  match result, empty with
  | .ok none, _ | .error _, _ =>
    cases observed
    exact .outside (by rw [before]; rfl) rfl (Future.sends_of_free free) rfl
  | .ok (some msg), empty => exact absurd rfl (empty msg)

/-- **A move is such a step.** -/
theorem lifeStep_of_move (fits : g.holding.Fits s.future)
    (started : s.future.sends = true → g.holding.sent = some true)
    (move : Move .Context s act s' out)
    (reacted : (replies M .Rep0).react g ⟨s, act, s', out⟩ = some (g', shown)) :
    LifeStep (s, g) (.inl act) (s', g') shown := by
  obtain ⟨holding, called, observed⟩ := replies_react reacted
  cases move with
  | sendMsg message free =>
    obtain ⟨sent, before, rfl⟩ := call_send called
    cases observed
    exact .sendMsg message before
  | sendStart message live =>
    cases called
    cases observed
    exact .sendStart fits live
  | turn _ implication point point' thread live =>
    rcases thread with rfl | rfl | rfl <;> cases called <;> cases observed <;>
      exact .waits live rfl started
  | callback implication point live =>
    cases called
    cases observed
    exact .waits live rfl started
  | callbackReturn implication point live | completeFailed implication point err live =>
    cases called
    cases observed
    exact .waits live live started
  | completeSent point msg stale live =>
    cases called
    cases observed
    exact .completeSent started live
  | sendOk live =>
    cases called
    cases observed
    exact .sendOk started live
  | sendFailed msg e live =>
    cases called
    cases observed
    exact .sendFailed (e, .fromRawUnchecked msg) started live
  | dropSendNew message live =>
    cases called
    exact .cancelled fits (fun free => nomatch live.symm.trans free) rfl rfl
      ((observe_freed message.inner).symm.trans observed)
  | sendDroppedFailed msg live =>
    cases called
    exact .cancelled fits (fun free => nomatch live.symm.trans free) rfl rfl
      ((observe_freed msg).symm.trans observed)
  | sendDroppedOk live | recvDroppedOk _ live | dropRecvNew live | recvDroppedFailed live =>
    cases called
    exact .cancelled fits (fun free => nomatch live.symm.trans free) rfl rfl
      ((observe_singleton ..).symm.trans observed)
  | close free =>
    obtain ⟨before, rfl⟩ := call_close called
    cases recovered : s.endpoint.recoveredMsg <;> rw [recovered] at observed <;> cases observed <;>
      exact .outside (by rw [before]; rfl) rfl (Future.sends_of_free free) rfl
  | recvMsg free =>
    obtain ⟨before, rfl⟩ := call_recv called
    cases observed
    exact .outside (by rw [before]; rfl) rfl rfl rfl
  | tryRecovered _ message free | tryReceived msg free =>
    obtain ⟨before, rfl⟩ := call_tryRecv called
    cases observed
    exact .outside (by rw [before]; rfl) rfl (Future.sends_of_free free) rfl
  | tryRefused _ result free vacant empty =>
    obtain ⟨before, rfl⟩ := call_tryRecv called
    exact .tryRefused before free empty observed
  | tryPanicked _ _ free vacant =>
    obtain ⟨before, rfl⟩ := call_tryRecv called
    cases observed
    exact .outside (by rw [before]; rfl) rfl (Future.sends_of_free free) rfl
  | recvStart live =>
    cases called
    cases observed
    rw [live] at fits
    have free : g.holding.sent = none := by rw [Holding.fits_recvNew fits]; rfl
    exact .outside free (by rw [free]; rfl) rfl rfl
  | recvRecovered _ live =>
    cases called
    cases observed
    rw [live] at fits
    exact .outside (by rw [Holding.fits_recvNew fits]; rfl) rfl rfl rfl
  | completeReceived point msg live =>
    cases called
    cases observed
    exact .completeReceived (some msg) live
  | recvOk _ live | recvFailed _ live =>
    cases called
    cases observed
    rw [live] at fits
    exact .outside (by rw [Holding.fits_receiving fits]; rfl) rfl rfl rfl

/-- Dropping the responder is such a step. -/
theorem lifeStep_of_own {b : ResponderAction}
    (free : ∀ sent, g.holding = .responding sent → s.future = .none)
    (taken : (replies M .Rep0).own s g b = some (g', shown)) :
    LifeStep (s, g) (.inr b) (s, g') shown := by
  cases b
  cases holding : g.holding with
  | responding sent =>
    simp only [replies, holding] at taken
    cases taken
    have held : g.holding.sent = some sent := by rw [holding]; rfl
    exact .final held rfl rfl (Future.sends_of_free (free sent holding)) (dropped_silent _ _)
      (dropped_warns _ _)
  | listening | receiving | replying =>
    simp only [replies, holding] at taken
    cases taken

end Moves

section Invariant

variable {s s' : State M × Replies M} {life life' : Life} {act : Action M ⊕ ResponderAction}
  {out : List (ReplyEvent M)} {shown : List FinalDrop}

/-- **The invariant**: the flag says that a reply was polled, and only then one was taken. -/
structure Living (s : State M × Replies M) (life : Life) : Prop where
  started : s.1.future.sends = true → s.2.holding.sent = some true
  flag : ∀ sent, s.2.holding.sent = some sent → sent = life.polled
  answered : life.answered = true → life.polled = true

theorem living_start : Living (replier M .Rep0).start (lives M).start :=
  ⟨fun live => absurd live Bool.false_ne_true, fun sent held => absurd held.symm (Option.some_ne_none sent),
    fun answered => absurd answered Bool.false_ne_true⟩

/-- What the flag makes of a final drop. -/
structure FinalDrop.Flagged (drop : FinalDrop) : Prop where
  warned : drop.warned = !drop.polled
  answered : drop.answered = true → drop.polled = true

/-- A taken reply was polled, after a step too. -/
theorem Living.after (inv : Living s life) (step : LifeStep s act s' out) :
    (life.after ⟨s, act, s', out⟩).answered = true →
      (life.after ⟨s, act, s', out⟩).polled = true := by
  simp only [Life.after, Bool.or_eq_true]
  rintro (before | now)
  · exact .inl (inv.answered before)
  · have routed : out.filterMap ReplyEvent.routedFor ≠ [] := fun silent => by
      rw [silent] at now
      cases now
    exact .inl (inv.flag true (step.routes routed)).symm

/-- **A step keeps the invariant**, and the final drop it shows is flagged. -/
theorem Living.step (inv : Living s life) (step : LifeStep s act s' out)
    (reacted : (lives M).react life ⟨s, act, s', out⟩ = some (life', shown)) :
    Living s' life' ∧ ∀ drop ∈ shown, drop.Flagged := by
  simp only [lives] at reacted
  cases before : s.2.holding.sent with
  | none =>
    rw [before] at reacted
    cases reacted
    refine ⟨⟨step.started, fun sent held => ?_, id⟩, List.forall_mem_nil _⟩
    have new := step.hands before
    rw [held] at new
    exact new
  | some sent =>
    have flag := inv.flag sent before
    cases after : s'.2.holding.sent with
    | some sent' =>
      rw [before, after] at reacted
      cases reacted
      refine ⟨⟨step.started, fun held same => ?_, inv.after step⟩, List.forall_mem_nil _⟩
      rw [step.goesOn sent before held same, flag]
      rfl
    | none =>
      rw [before, after] at reacted
      cases reacted
      obtain ⟨later, warns⟩ := step.ends sent before after
      have gone (held : Bool) (same : s'.2.holding.sent = some held) : held = Life.fresh.polled :=
        absurd (same.symm.trans after) (Option.some_ne_none held)
      refine ⟨⟨step.started, gone, id⟩, ?_⟩
      intro drop member
      cases List.mem_singleton.mp member
      refine ⟨?_, inv.after step⟩
      show _ = !(life.polled || firstPoll s.1.future act)
      rw [later, Bool.or_false, ← flag]
      exact warns

end Invariant

/-- **What holds of every state of a context and its replies.** -/
structure Answering (s : State M × Replies M) : Prop where
  sound : Sound s.1
  fits : s.1.status = .live → s.2.holding.Fits s.1.future
  /-- Nothing is in progress while the caller has the responder, also when the context is dropped. -/
  free : ∀ sent, s.2.holding = .responding sent → s.1.future = .none

theorem Holding.fits_responding {sent : Bool} {future : Future M}
    (fits : (Holding.responding sent).Fits future) : future = .none := by
  cases future with
  | none => rfl
  | sendNew | recvNew => cases fits
  | waiting implication => cases implication <;> cases fits

theorem answering_of_reachable {s : State M × Replies M} (reached : (replier M .Rep0).Reachable s) :
    Answering s := by
  have ⟨_, run⟩ := reached
  have sound := sound_of_reachable reached.unwatched
  have fits (live : s.1.status = .live) : s.2.holding.Fits s.1.future :=
    ((replying_of_run run).1 live).fits
  refine ⟨sound, fits, fun sent holding => ?_⟩
  cases status : s.1.status with
  | live =>
    have responding := fits status
    rw [holding] at responding
    exact Holding.fits_responding responding
  | closed => exact (closed_empty reached.unwatched status).1
  | poisoned => exact absurd status sound.clean

/-- Over every run, every final drop is flagged. -/
theorem flagged_of_run {s : (State M × Replies M) × Life}
    {trace : List (Transition ((State M × Replies M) × Life) ((Action M ⊕ ResponderAction) ⊕ Empty)
      FinalDrop)} (run : (reporter M).Run trace s) : ∀ drop ∈ events trace, drop.Flagged := by
  refine (run.watched_invariant (fun _ reached => answering_of_reachable reached) (fun _ => True)
    (I := fun history state => Living state.1 state.2 ∧ ∀ drop ∈ history, drop.Flagged)
    ⟨living_start, nofun⟩ ?_ ?_ fun _ _ => trivial).2
  · rintro history ⟨s, g⟩ life act ⟨s', g'⟩ out life' shown answering - ⟨living, flagged⟩ stepped
      reacted -
    have step : LifeStep (s, g) act (s', g') out := by
      cases act with
      | inl a =>
        obtain ⟨seen, moved, observed⟩ := watched_inl stepped
        obtain ⟨live, move⟩ := step_move answering.sound moved
        exact lifeStep_of_move (answering.fits live) living.started move observed
      | inr b =>
        obtain ⟨same, taken⟩ := watched_inr stepped
        cases same
        exact lifeStep_of_own answering.free taken
    obtain ⟨kept, new⟩ := living.step step reacted
    exact ⟨kept, List.forall_mem_append.mpr ⟨flagged, new⟩⟩
  · intro history s life b
    exact b.elim

/-- The flag warns about an unanswered request exactly when no reply was polled. -/
theorem FinalDrop.Flagged.reported_iff {drop : FinalDrop} (flagged : drop.Flagged) :
    drop.Reported ↔ (drop.polled = true → drop.answered = true) := by
  rw [FinalDrop.Reported, flagged.warned]
  by_cases polled : drop.polled = true
  · rw [polled, Bool.not_true]
    cases drop.answered <;> decide
  · have unanswered : drop.answered = false :=
      Bool.eq_false_iff.mpr fun answered => polled (flagged.answered answered)
    rw [Bool.eq_false_iff.mpr polled, unanswered]
    exact iff_of_true (iff_of_true rfl rfl) nofun

/-- **An unanswered request is reported exactly when no reply to it was polled.** Over every run of a
`Rep0` context, for the final drop of each of its responders: the warning is logged if, and only if, no
reply was sent, exactly when no `reply` future of the responder was polled or a reply was sent. -/
theorem final_drop_reported_iff {s : (State M × Replies M) × Life}
    {trace : List (Transition ((State M × Replies M) × Life) ((Action M ⊕ ResponderAction) ⊕ Empty)
      FinalDrop)} (run : (reporter M).Run trace s) :
    ∀ drop ∈ events trace, drop.Reported ↔ (drop.polled = true → drop.answered = true) :=
  fun drop member => (flagged_of_run run drop member).reported_iff

/-- A request is received, and its responder held. -/
def receiveRequest (request : Nat) : List ((Action Nat ⊕ ResponderAction) ⊕ Empty) :=
  [.inl (.inl .recvMsg), .inl (.inl .poll), .inl (.inl .run),
    .inl (.inl (.complete (.received request))), .inl (.inl .callback), .inl (.inl .callbackReturn),
    .inl (.inl .poll), .inl (.inl .run)]

/-- A reply is polled to its end. -/
def awaitReply (reply : Nat) (outcome : Completion Nat) :
    List ((Action Nat ⊕ ResponderAction) ⊕ Empty) :=
  [.inl (.inl (.sendMsg ⟨reply, 0⟩)), .inl (.inl .poll), .inl (.inl .run),
    .inl (.inl (.complete outcome)), .inl (.inl .callback), .inl (.inl .callbackReturn),
    .inl (.inl .poll), .inl (.inl .run)]

/-- A responder dropped at once is warned about; one whose reply fails, is retried and sent is not. -/
theorem final_drop_reported_twice :
    ∃ (trace : List (Transition ((State Nat × Replies Nat) × Life)
        ((Action Nat ⊕ ResponderAction) ⊕ Empty) FinalDrop)) (s : (State Nat × Replies Nat) × Life),
      (reporter Nat).Run trace s
        ∧ events trace = [⟨1, false, false, true⟩, ⟨2, true, true, false⟩]
        ∧ ∀ drop ∈ events trace, drop.Reported := by
  have run := run_of_replay (M := reporter Nat)
    (receiveRequest 5 ++ [.inl (.inr .dropResponder)] ++ receiveRequest 6
      ++ awaitReply 7 (.failed ⟨5, by decide⟩) ++ awaitReply 7 (.sent true)) rfl
  refine ⟨_, _, run, rfl, fun drop member => (final_drop_reported_iff run drop member).mpr ?_⟩
  rcases List.mem_cons.mp member with rfl | member
  · nofun
  · cases List.mem_singleton.mp member
    exact fun _ => rfl

/-- **Not every unanswered request is reported**: the reply fails, and the returned responder is dropped
without a warning. -/
theorem failed_reply_unreported :
    ¬ ∀ (trace : List (Transition ((State Nat × Replies Nat) × Life)
        ((Action Nat ⊕ ResponderAction) ⊕ Empty) FinalDrop)) (s : (State Nat × Replies Nat) × Life),
      (reporter Nat).Run trace s → ∀ drop ∈ events trace, drop.Reported := by
  intro always
  have run := run_of_replay (M := reporter Nat)
    (receiveRequest 5 ++ awaitReply 7 (.failed ⟨5, by decide⟩) ++ [.inl (.inr .dropResponder)]) rfl
  have reported := always _ _ run ⟨1, true, false, false⟩ (List.mem_singleton.mpr rfl)
  exact absurd reported (by decide)

end NngRs.Anng
