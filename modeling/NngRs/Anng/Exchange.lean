/-
**Which exchange an answer belongs to: `request` on REQ0, `survey` on SURVEYOR0.**

`ContextfulSocket<Req0>::request` and `ContextfulSocket<Surveyor0>::survey` are one `send_msg` on the
context and hand out a handle that receives on the same context: the reply future, one `recv_msg`,
and `SurveyResponses`, whose `next` and `try_next` are `recv_msg` and `try_recv_msg`. The handle
borrows the context, so it is gone before the next request or survey.

The watcher numbers the exchanges: each `nng_ctx_send` starts the next one, and a message the library
hands over answers the exchange of the last `nng_ctx_send` before (`answers` is which exchange a
message answers). A handle has the number of the exchange it was handed out for.

A receive cancelled under one exchange recovers its answer into `recovered_msg`, and nothing there
knows that the next exchange has started. `leftover` says that `recovered_msg` has held a message
since before the exchange was sent.

* `Exchanging` — the invariant, kept by every step (`Exchanging.step`).
* `Exchanging.matched` — a step yields an answer to another exchange exactly when it receives over a
  leftover.
* `request_matched_iff`, `survey_matched_iff` — so the runs that yield only answers to the handle's
  own exchange are exactly those that never do; `request_mismatched` and `survey_mismatched` do.
-/

import NngRs.Anng.Moves
import NngRs.Machine.Watch

namespace NngRs.Anng

open NngRs.Sys EventMachine

/-- Which of the two protocols. -/
inductive Requester
  | Req0
  | Surveyor0
deriving DecidableEq, Repr

/-- What the caller holds. -/
inductive Phase
  | idle
  /-- A `request` or `survey` future. -/
  | sending
  /-- The reply future, not polled yet, or `SurveyResponses` with no `next` future. -/
  | holding
  /-- The polled reply future, or a `next` future. -/
  | awaiting
deriving DecidableEq, Repr

/-- The watcher's state. -/
structure Exchanges where
  /-- How many exchanges were started. -/
  sends : Nat
  /-- The exchange of the last handle. -/
  handle : Nat
  phase : Phase
  /-- `recovered_msg` holds a message from before the last `nng_ctx_send`. -/
  leftover : Bool
deriving DecidableEq, Repr

/-- What the caller of the protocol sees. -/
inductive ExchangeEvent (M : Type)
  /-- `request` or `survey` resolved to the handle of this exchange. -/
  | sent (exchange : Nat)
  | refused (error : AioError × Message M)
  | replyReturned (exchange : Nat) (result : Except AioError (Message M))
  | nextReturned (exchange : Nat) (result : Option (Except AioError (Message M)))
  | tryNextReturned (exchange : Nat) (result : Option (Except AioError (Option (Message M))))
deriving DecidableEq

/-- What the caller does besides polling and dropping futures. -/
inductive HandleAction
  /-- Drop the unpolled reply future, or `SurveyResponses`. -/
  | dropHandle
deriving DecidableEq, Repr

section Definitions

variable {M : Type}

/-- `SurveyResponses::next`, of what its `recv_msg` returned. -/
def SurveyResponses.next : Except AioError (Message M) → Option (Except AioError (Message M))
  | .ok message => some (.ok message)
  | .error .TimedOut => none
  | .error (.Operation (.NngError .ESTATE)) => none
  | .error e => some (.error e)

/-- `SurveyResponses::try_next`, of what its `try_recv_msg` returned. -/
def SurveyResponses.tryNext :
    Except AioError (Option (Message M)) → Option (Except AioError (Option (Message M)))
  | .ok (some message) => some (.ok (some message))
  | .ok none => none
  | .error (.Operation (.NngError .ESTATE)) => some (.ok none)
  | .error e => some (.error e)

/-- The message a handle yields, with its exchange. -/
def ExchangeEvent.yields : ExchangeEvent M → Option (Nat × Message M)
  | .replyReturned exchange (.ok message) => some (exchange, message)
  | .nextReturned exchange (some (.ok message)) => some (exchange, message)
  | .tryNextReturned exchange (some (.ok (some message))) => some (exchange, message)
  | _ => none

namespace Requester

/-- What is left when a receive through the handle ends: the reply future is used up. -/
def released : Requester → Phase
  | .Req0 => .idle
  | .Surveyor0 => .holding

/-- What the handle makes of a receive. -/
def received (p : Requester) (exchange : Nat) (result : Except AioError (Message M)) :
    ExchangeEvent M :=
  match p with
  | .Req0 => .replyReturned exchange result
  | .Surveyor0 => .nextReturned exchange (SurveyResponses.next result)

/-- The calls that the borrows allow, and what the caller holds after them. -/
def call (p : Requester) (phase : Phase) : Action M → Option Phase
  | .sendMsg _ => if phase = .idle then some .sending else none
  | .recvMsg => if phase = .holding then some .awaiting else none
  | .tryRecvMsg _ => if phase = .holding ∧ p = .Surveyor0 then some .holding else none
  | .close => if phase = .idle then some .idle else none
  | _ => some phase

end Requester

/-- The watcher after one event of a step, given whether `recovered_msg` held a message before. -/
def Exchanges.see (p : Requester) (answers : M → Nat) (held : Bool) (g : Exchanges) :
    Event M → Option (Exchanges × List (ExchangeEvent M))
  | .started .nng_ctx_send => some ({ g with sends := g.sends + 1, leftover := held }, [])
  | .delivered msg => if answers msg = g.sends then some (g, []) else none
  | .sendReturned (.ok ()) =>
    some ({ g with handle := g.sends, phase := .holding }, [.sent g.sends])
  | .sendReturned (.error e) => some ({ g with phase := .idle }, [.refused e])
  | .recvReturned (.ok message) =>
    some ({ g with phase := p.released, leftover := false }, [p.received g.handle (.ok message)])
  | .recvReturned (.error e) =>
    some ({ g with phase := p.released }, [p.received g.handle (.error e)])
  | .tryRecvReturned (.ok (some message)) =>
    some ({ g with leftover := false },
      [.tryNextReturned g.handle (SurveyResponses.tryNext (.ok (some message)))])
  | .tryRecvReturned result =>
    some (g, [.tryNextReturned g.handle (SurveyResponses.tryNext result)])
  | .cancelled =>
    some ({ g with phase := if g.phase = .awaiting then p.released else .idle }, [])
  | _ => some (g, [])

/-- The watcher of one context. -/
def exchanges (p : Requester) (answers : M → Nat) :
    Watcher (State M) (Action M) (Event M) Exchanges HandleAction (ExchangeEvent M) where
  start := ⟨0, 0, .idle, false⟩
  react g t :=
    match p.call g.phase t.act with
    | none => none
    | some phase =>
      observe (Exchanges.see p answers t.pre.endpoint.recoveredMsg.isSome) { g with phase } t.out
  own _ g
    | .dropHandle => if g.phase = .holding then some ({ g with phase := .idle }, []) else none

/-- `ContextfulSocket<Req0>` or `ContextfulSocket<Surveyor0>`, with its exchanges numbered. -/
abbrev requester (p : Requester) (answers : M → Nat) :=
  (machine M .Context).watched (exchanges p answers)

/-- The first poll of a `recv_msg`, or a `try_recv_msg`: the steps that look at `recovered_msg`. -/
def Receives (future : Future M) : Action M ⊕ HandleAction → Bool
  | .inl .poll => match future with
    | .recvNew => true
    | _ => false
  | .inl (.tryRecvMsg _) => true
  | _ => false

/-- A receive over a message that `recovered_msg` held when the exchange was sent. -/
def ReceivesLeftover
    (t : Transition (State M × Exchanges) (Action M ⊕ HandleAction) (ExchangeEvent M)) : Prop :=
  Receives t.pre.1.future t.act = true ∧ t.pre.1.endpoint.recoveredMsg.isSome = true ∧
    t.pre.2.leftover = true

instance (t : Transition (State M × Exchanges) (Action M ⊕ HandleAction) (ExchangeEvent M)) :
    Decidable (ReceivesLeftover t) := inferInstanceAs (Decidable (_ ∧ _))

/-- Every message a step yields answers the exchange of the handle that yields it. -/
def Matched (answers : M → Nat) (shown : List (ExchangeEvent M)) : Prop :=
  ∀ event ∈ shown, ∀ exchange message, event.yields = some (exchange, message) →
    answers message.inner = exchange

end Definitions

section Invariant

variable {M : Type} {p : Requester} {answers : M → Nat}

/-- What the caller holds at each point of the context's future. -/
def Phase.Fits (phase : Phase) : Future M → Prop
  | .none => phase = .idle ∨ phase = .holding
  | .sendNew _ | .waiting .Sent _ => phase = .sending
  | .recvNew | .waiting .Received _ => phase = .awaiting

/-- **The invariant of a context and its exchanges.** -/
structure Exchanging (p : Requester) (answers : M → Nat) (s : State M) (g : Exchanges) : Prop where
  fits : g.phase.Fits s.future
  current : g.phase = .holding ∨ g.phase = .awaiting → g.handle = g.sends
  /-- A recovered message that is no leftover answers the current exchange. -/
  fresh : ∀ message, s.endpoint.recoveredMsg = some message → g.leftover = false →
    answers message.inner = g.sends
  /-- A leftover answers an earlier one. -/
  stale : ∀ message, s.endpoint.recoveredMsg = some message → g.leftover = true →
    answers message.inner < g.sends
  filled : g.leftover = true → s.endpoint.recoveredMsg.isSome = true
  slot : ∀ point, s.future = .waiting .Received point → ∀ msg, s.endpoint.aio.aio.msg = some msg →
    answers msg = g.sends
  /-- While the exchange is sent, whatever is in `recovered_msg` is a leftover. -/
  sent : ∀ point, s.future = .waiting .Sent point → s.endpoint.recoveredMsg.isSome = true →
    g.leftover = true
  /-- A reply future that has not received yet finds a leftover or nothing. -/
  once : p = .Req0 → g.phase = .holding ∨ g.phase = .awaiting →
    s.endpoint.recoveredMsg.isSome = true → g.leftover = true

theorem exchanging_start (h : Handle) (p : Requester) (answers : M → Nat) :
    Exchanging p answers (machine M h).start (exchanges p answers).start where
  fits := .inl rfl
  current := by rintro (phase | phase) <;> cases phase
  fresh := nofun
  stale := nofun
  filled := nofun
  slot := nofun
  sent := nofun
  once := fun _ _ => nofun

variable {s s' : State M} {g g' : Exchanges} {act : Action M} {out : List (Event M)}
  {shown : List (ExchangeEvent M)}

/-- A wait that goes on with the same messages. -/
theorem Exchanging.goesOn {implication : ImplicationOnMessage} {point point' : WaitPoint}
    (inv : Exchanging p answers s g) (before : s.future = .waiting implication point)
    (after : s'.future = .waiting implication point')
    (msg : s'.endpoint.aio.aio.msg = s.endpoint.aio.aio.msg)
    (recovered : s'.endpoint.recoveredMsg = s.endpoint.recoveredMsg) :
    Exchanging p answers s' g := by
  obtain ⟨fits, current, fresh, stale, filled, slot, sent, once⟩ := inv
  rw [← recovered] at fresh stale filled sent once
  rw [← msg] at slot
  rw [before] at fits
  refine ⟨?_, current, fresh, stale, filled, fun _ live => ?_, fun _ live => ?_, once⟩
  · rw [after]
    cases implication <;> exact fits
  · cases after.symm.trans live
    exact slot point before
  · cases after.symm.trans live
    exact sent point before

/-- A context without a future: what is left to check is `recovered_msg`. -/
theorem exchanging_of_free (free : s.future = .none)
    (phase : g.phase = .idle ∨ g.phase = .holding ∧ g.handle = g.sends ∧
      (p = .Req0 → s.endpoint.recoveredMsg.isSome = true → g.leftover = true))
    (fresh : ∀ message, s.endpoint.recoveredMsg = some message → g.leftover = false →
      answers message.inner = g.sends)
    (stale : ∀ message, s.endpoint.recoveredMsg = some message → g.leftover = true →
      answers message.inner < g.sends)
    (filled : g.leftover = true → s.endpoint.recoveredMsg.isSome = true) :
    Exchanging p answers s g := by
  refine ⟨?_, ?_, fresh, stale, filled, fun _ live => (nomatch free.symm.trans live),
    fun _ live => (nomatch free.symm.trans live), ?_⟩
  · rw [free]
    exact phase.imp id And.left
  · rintro (holding | awaiting)
    · rcases phase with idle | ⟨_, same, _⟩
      · exact nomatch idle.symm.trans holding
      · exact same
    · rcases phase with idle | ⟨holding, _, _⟩
      · exact nomatch idle.symm.trans awaiting
      · exact nomatch holding.symm.trans awaiting
  · intro req held
    rcases phase with idle | ⟨_, _, once⟩
    · rcases held with holding | awaiting
      · exact nomatch idle.symm.trans holding
      · exact nomatch idle.symm.trans awaiting
    · exact once req

/-- A context without a future and without a recovered message. -/
theorem exchanging_of_vacant (free : s.future = .none) (vacant : s.endpoint.recoveredMsg = none)
    (phase : g.phase = .idle ∨ g.phase = .holding ∧ g.handle = g.sends)
    (swept : g.leftover = false) : Exchanging p answers s g := by
  refine exchanging_of_free free (phase.imp id fun ⟨holding, same⟩ => ⟨holding, same, ?_⟩)
    (fun _ held _ => ?_) (fun _ held _ => ?_) fun leftover => ?_
  · exact nomatch vacant.symm.trans held
  · exact nomatch vacant.symm.trans held
  · exact nomatch swept.symm.trans leftover
  · rw [vacant]
    exact fun _ => nofun

/-- After a receive only a survey keeps its handle. -/
theorem Requester.released_cases (p : Requester) {P : Prop} (kept : p = .Surveyor0 → P) :
    p.released = .idle ∨ p.released = .holding ∧ P := by
  cases p with
  | Req0 => exact .inl rfl
  | Surveyor0 => exact .inr ⟨rfl, kept rfl⟩

/-- The reaction to a step: the call is allowed, and the events are seen in order. -/
theorem exchanges_react
    (reacted : (exchanges p answers).react g ⟨s, act, s', out⟩ = some (g', shown)) :
    ∃ phase, p.call g.phase act = some phase ∧
      observe (Exchanges.see p answers s.endpoint.recoveredMsg.isSome) { g with phase } out =
        some (g', shown) := by
  simp only [exchanges] at reacted
  cases called : p.call g.phase act with
  | none => rw [called] at reacted; cases reacted
  | some phase =>
    rw [called] at reacted
    exact ⟨phase, rfl, reacted⟩

theorem Requester.call_sendMsg {phase phase' : Phase} {message : Message M}
    (called : p.call phase (.sendMsg message) = some phase') : phase' = .sending := by
  simp only [Requester.call] at called
  split_ifs at called
  exact (Option.some.inj called).symm

theorem Requester.call_recvMsg {phase phase' : Phase}
    (called : p.call phase (.recvMsg : Action M) = some phase') :
    phase = .holding ∧ phase' = .awaiting := by
  simp only [Requester.call] at called
  split_ifs at called with holding
  exact ⟨holding, (Option.some.inj called).symm⟩

theorem Requester.call_tryRecvMsg {phase phase' : Phase} {returned : Recvmsg M}
    (called : p.call phase (.tryRecvMsg returned) = some phase') :
    phase = .holding ∧ phase' = .holding := by
  simp only [Requester.call] at called
  split_ifs at called with holding
  exact ⟨holding.1, (Option.some.inj called).symm⟩

/-- What the caller holds while the future is at one point. -/
theorem Exchanging.fitting {future : Future M} (inv : Exchanging p answers s g)
    (live : s.future = future) : g.phase.Fits future := live ▸ inv.fits

theorem Exchanging.notLeftover (inv : Exchanging p answers s g)
    (vacant : s.endpoint.recoveredMsg = none) : g.leftover = false := by
  cases leftover : g.leftover with
  | false => rfl
  | true =>
    have some := inv.filled leftover
    rw [vacant] at some
    cases some

/-! One lemma for each move that changes what the caller holds, or what `recovered_msg` and the slot
may hold. -/

/-- A request or survey is asked for. -/
theorem Exchanging.sendMsg (inv : Exchanging p answers s g) (message : Message M) :
    Exchanging p answers { s with future := .sendNew message } { g with phase := .sending } := by
  refine ⟨rfl, ?_, inv.fresh, inv.stale, inv.filled, fun _ live => ?_, fun _ live => ?_, fun _ => ?_⟩
  · rintro (⟨⟨⟩⟩ | ⟨⟨⟩⟩)
  · cases live
  · cases live
  · rintro (⟨⟨⟩⟩ | ⟨⟨⟩⟩)

/-- A receive through the handle is asked for. -/
theorem Exchanging.recvMsg (inv : Exchanging p answers s g) (holding : g.phase = .holding) :
    Exchanging p answers { s with future := .recvNew } { g with phase := .awaiting } := by
  refine ⟨rfl, fun _ => inv.current (.inl holding), inv.fresh, inv.stale, inv.filled,
    fun _ live => ?_, fun _ live => ?_, fun req _ => inv.once req (.inl holding)⟩
  · cases live
  · cases live

/-- A try_next is over, with nothing in `recovered_msg`. -/
theorem Exchanging.tried {leftover : Bool} (inv : Exchanging p answers s g)
    (holding : g.phase = .holding) (free : s'.future = .none)
    (vacant : s'.endpoint.recoveredMsg = none) (swept : leftover = false) :
    Exchanging p answers s' { g with phase := .holding, leftover := leftover } :=
  exchanging_of_vacant free vacant (.inr ⟨rfl, inv.current (.inl holding)⟩) swept

/-- The library had nothing for a try_next, or refused it. -/
theorem Exchanging.tryRefused {held : Bool} {call : NngCall}
    {result : Except AioError (Option (Message M))} (inv : Exchanging p answers s g)
    (holding : g.phase = .holding) (free : s.future = .none)
    (vacant : s.endpoint.recoveredMsg = none) (empty : ∀ msg, result ≠ .ok (some msg))
    (observed : observe (Exchanges.see p answers held) { g with phase := .holding }
      [.called call, .tryRecvReturned result] = some (g', shown)) : Exchanging p answers s g' := by
  rcases result with e | _ | msg
  · cases observed
    exact inv.tried holding free vacant (inv.notLeftover vacant)
  · cases observed
    exact inv.tried holding free vacant (inv.notLeftover vacant)
  · exact absurd rfl (empty msg)

/-- A new exchange starts: whatever is in `recovered_msg` is a leftover from now on. -/
theorem Exchanging.sendStart {message : Message M} (inv : Exchanging p answers s g)
    (live : s.future = .sendNew message) :
    Exchanging p answers (s.begun .Sent (some message.intoPtr))
      { g with sends := g.sends + 1, leftover := s.endpoint.recoveredMsg.isSome } := by
  have sending : g.phase = .sending := inv.fitting live
  have elsewhere : ¬(g.phase = .holding ∨ g.phase = .awaiting) := by
    rw [sending]
    rintro (⟨⟨⟩⟩ | ⟨⟨⟩⟩)
  refine ⟨sending, fun other => absurd other elsewhere, fun msg held vacant => ?_,
    fun msg held _ => ?_, id, fun _ other => ?_, fun _ _ => id,
    fun _ other => absurd other elsewhere⟩
  · rw [show s.endpoint.recoveredMsg = some msg from held] at vacant
    cases vacant
  · cases leftover : g.leftover with
    | true => exact Nat.lt_succ_of_lt (inv.stale msg held leftover)
    | false => exact Nat.lt_succ_of_le (inv.fresh msg held leftover).le
  · cases other

theorem Exchanging.recvStart (inv : Exchanging p answers s g) (live : s.future = .recvNew)
    (vacant : s.endpoint.recoveredMsg = none) :
    Exchanging p answers (s.begun .Received none) g := by
  have awaiting : g.phase = .awaiting := inv.fitting live
  have none (some : s.endpoint.recoveredMsg.isSome = true) : False := by
    rw [vacant] at some
    cases some
  refine ⟨awaiting, inv.current, inv.fresh, inv.stale, inv.filled,
    fun _ _ msg held => ?_, fun _ live => ?_, fun _ _ some => absurd some none⟩
  · cases held
  · cases live

/-- A receive is over, with nothing in `recovered_msg`. -/
theorem Exchanging.releases {leftover : Bool} (inv : Exchanging p answers s g)
    (awaiting : g.phase = .awaiting) (free : s'.future = .none)
    (vacant : s'.endpoint.recoveredMsg = none) (swept : leftover = false) :
    Exchanging p answers s' { g with phase := p.released, leftover := leftover } :=
  exchanging_of_vacant free vacant (p.released_cases fun _ => inv.current (.inr awaiting)) swept

/-- The send is over, and the handle is given out. -/
theorem Exchanging.sendOk {point : WaitPoint} (inv : Exchanging p answers s g)
    (live : s.future = .waiting .Sent point) :
    Exchanging p answers (s.ended s.endpoint.recoveredMsg)
      { g with handle := g.sends, phase := .holding } :=
  exchanging_of_free rfl (.inr ⟨rfl, rfl, fun _ => inv.sent point live⟩) inv.fresh inv.stale
    inv.filled

/-- A request or survey future is dropped. -/
theorem Exchanging.cancelledSend (inv : Exchanging p answers s g) (sending : g.phase = .sending)
    (free : s'.future = .none) (kept : s'.endpoint.recoveredMsg = s.endpoint.recoveredMsg) :
    Exchanging p answers s'
      { g with phase := if g.phase = .awaiting then p.released else .idle } := by
  obtain ⟨_, _, fresh, stale, filled, _, _, _⟩ := inv
  rw [← kept] at fresh stale filled
  refine exchanging_of_free free (.inl ?_) fresh stale filled
  simp only [sending, reduceCtorEq, if_false]

/-- A receive is dropped: what it leaves in `recovered_msg` is given by its own cases. -/
theorem Exchanging.cancelledRecv (inv : Exchanging p answers s g) (awaiting : g.phase = .awaiting)
    (free : s'.future = .none)
    (fresh : ∀ message, s'.endpoint.recoveredMsg = some message → g.leftover = false →
      answers message.inner = g.sends)
    (stale : ∀ message, s'.endpoint.recoveredMsg = some message → g.leftover = true →
      answers message.inner < g.sends)
    (filled : g.leftover = true → s'.endpoint.recoveredMsg.isSome = true) :
    Exchanging p answers s'
      { g with phase := if g.phase = .awaiting then p.released else .idle } := by
  refine exchanging_of_free free ?_ fresh stale filled
  simp only [if_pos awaiting]
  refine p.released_cases fun survey => ⟨inv.current (.inr awaiting), fun req => ?_⟩
  cases req.symm.trans survey

/-- The dropped receive had a message, which is recovered: it answers the current exchange. -/
theorem Exchanging.recvDroppedOk {point : WaitPoint} {msg : M} (inv : Exchanging p answers s g)
    (live : s.future = .waiting .Received point) (held : s.endpoint.aio.aio.msg = some msg)
    (vacant : s.endpoint.recoveredMsg = none) :
    Exchanging p answers (s.ended (some (.fromRawUnchecked msg)))
      { g with phase := if g.phase = .awaiting then p.released else .idle } := by
  have answer : answers msg = g.sends := inv.slot point live msg held
  refine inv.cancelledRecv (inv.fitting live) rfl (fun message same _ => ?_)
    (fun message same leftover => ?_) fun _ => rfl
  · cases same
    exact answer
  · cases leftover.symm.trans (inv.notLeftover vacant)

theorem Exchanging.completeSent {point : WaitPoint} {aio : NngAio M}
    (inv : Exchanging p answers s g) (live : s.future = .waiting .Sent point) :
    Exchanging p answers (s.withNng aio) g := by
  refine ⟨inv.fits, inv.current, inv.fresh, inv.stale, inv.filled, fun _ other => ?_, inv.sent,
    inv.once⟩
  cases live.symm.trans other

/-- The library delivers a message: it answers the exchange that its context is in. -/
theorem Exchanging.completeReceived {msg : M} (inv : Exchanging p answers s g)
    (answer : answers msg = g.sends) :
    Exchanging p answers (s.withNng ⟨some msg, NNG_OK, .completed⟩) g := by
  refine ⟨inv.fits, inv.current, inv.fresh, inv.stale, inv.filled, fun _ _ other same => ?_,
    inv.sent, inv.once⟩
  cases same
  exact answer

/-- **A step keeps the invariant**, but for the one that drops the context. -/
theorem Exchanging.step (sound : Sound s) (inv : Exchanging p answers s g)
    (move : Move .Context s act s' out) (open' : act ≠ .close)
    (reacted : (exchanges p answers).react g ⟨s, act, s', out⟩ = some (g', shown)) :
    Exchanging p answers s' g' := by
  obtain ⟨phase, called, observed⟩ := exchanges_react reacted
  cases move with
  | close => exact absurd rfl open'
  | turn _ implication point point' thread live =>
    rcases thread with rfl | rfl | rfl <;> cases called <;> cases observed <;>
      exact inv.goesOn live rfl rfl rfl
  | callback implication point live =>
    cases called
    cases observed
    exact inv.goesOn live rfl rfl rfl
  | callbackReturn implication point live | completeFailed implication point _ live =>
    cases called
    cases observed
    exact inv.goesOn live live rfl rfl
  | sendMsg message free =>
    obtain rfl := Requester.call_sendMsg called
    cases observed
    exact inv.sendMsg message
  | recvMsg free =>
    obtain ⟨holding, rfl⟩ := Requester.call_recvMsg called
    cases observed
    exact inv.recvMsg holding
  | tryRecovered _ message free recovered =>
    obtain ⟨holding, rfl⟩ := Requester.call_tryRecvMsg called
    cases observed
    exact inv.tried holding free rfl rfl
  | tryReceived msg free vacant =>
    obtain ⟨holding, rfl⟩ := Requester.call_tryRecvMsg called
    simp only [observe, Exchanges.see] at observed
    split_ifs at observed with answer
    · cases observed
      exact inv.tried holding free vacant rfl
    · cases observed
  | tryRefused _ result free vacant empty =>
    obtain ⟨holding, rfl⟩ := Requester.call_tryRecvMsg called
    exact inv.tryRefused holding free vacant empty observed
  | tryPanicked _ _ free vacant =>
    obtain ⟨holding, rfl⟩ := Requester.call_tryRecvMsg called
    cases observed
    exact inv.tried holding free vacant (inv.notLeftover vacant)
  | sendStart message live =>
    cases called
    cases observed
    exact inv.sendStart live
  | recvStart live vacant =>
    cases called
    cases observed
    exact inv.recvStart live vacant
  | recvRecovered message live recovered =>
    cases called
    cases observed
    exact inv.releases (inv.fitting live) rfl rfl rfl
  | recvOk _ live =>
    cases called
    cases observed
    exact inv.releases (inv.fitting live) rfl (sound.recovered_none live) rfl
  | recvFailed _ live =>
    have vacant := sound.recovered_none live
    cases called
    cases observed
    exact inv.releases (inv.fitting live) rfl vacant (inv.notLeftover vacant)
  | sendOk live =>
    cases called
    cases observed
    exact inv.sendOk live
  | sendFailed =>
    cases called
    cases observed
    exact exchanging_of_free rfl (.inl rfl) inv.fresh inv.stale inv.filled
  | dropSendNew message live =>
    cases called
    cases observed
    exact inv.cancelledSend (inv.fitting live) rfl rfl
  | sendDroppedOk live | sendDroppedFailed _ live =>
    cases called
    cases observed
    exact inv.cancelledSend (inv.fitting live) rfl rfl
  | dropRecvNew live | recvDroppedFailed live =>
    cases called
    cases observed
    exact inv.cancelledRecv (inv.fitting live) rfl inv.fresh inv.stale inv.filled
  | recvDroppedOk msg live _ held vacant =>
    cases called
    cases observed
    exact inv.recvDroppedOk live held vacant
  | completeSent point msg stale' live =>
    cases called
    cases observed
    exact inv.completeSent live
  | completeReceived point msg live =>
    cases called
    simp only [observe_singleton, Exchanges.see] at observed
    split_ifs at observed with answer
    cases observed
    exact inv.completeReceived answer

/-! ### What a handle yields -/

theorem received_ok (p : Requester) (exchange : Nat) (message : Message M) :
    (p.received exchange (.ok message)).yields = some (exchange, message) := by
  cases p <;> rfl

theorem received_error (p : Requester) (exchange : Nat) (e : AioError) :
    (p.received (M := M) exchange (.error e)).yields = none := by
  cases p with
  | Req0 => rfl
  | Surveyor0 =>
    simp only [Requester.received, SurveyResponses.next]
    split <;> first | rfl | (rename_i same; cases same)

theorem tryNext_empty {result : Except AioError (Option (Message M))}
    (empty : ∀ message, result ≠ .ok (some message)) (exchange : Nat) :
    (ExchangeEvent.tryNextReturned exchange (SurveyResponses.tryNext result)).yields = none := by
  unfold SurveyResponses.tryNext
  split <;> first | rfl | exact absurd rfl (empty _)

theorem matched_singleton {event : ExchangeEvent M} :
    Matched answers [event] ↔ ∀ exchange message, event.yields = some (exchange, message) →
      answers message.inner = exchange := List.forall_mem_singleton

theorem matched_of_silent {event : ExchangeEvent M} (silent : event.yields = none) :
    Matched answers [event] := matched_singleton.mpr fun _ _ yields => nomatch silent.symm.trans yields

theorem matched_nil : Matched answers ([] : List (ExchangeEvent M)) := fun _ member => nomatch member

theorem matched_yields {event : ExchangeEvent M} {exchange : Nat} {message : Message M}
    (yields : event.yields = some (exchange, message)) :
    Matched answers [event] ↔ answers message.inner = exchange := by
  rw [matched_singleton, yields]
  constructor
  · exact fun all => all _ _ rfl
  · rintro same _ _ ⟨⟩
    exact same

theorem not_receivesLeftover_of_other (other : Receives s.future (.inl act) = false) :
    ¬ReceivesLeftover ⟨(s, g), .inl act, (s', g'), shown⟩ := by
  rintro ⟨receives, _⟩
  cases other.symm.trans receives

theorem not_receivesLeftover_of_vacant (vacant : s.endpoint.recoveredMsg = none) :
    ¬ReceivesLeftover ⟨(s, g), .inl act, (s', g'), shown⟩ := by
  rintro ⟨_, held, _⟩
  rw [vacant] at held
  cases held

/-- A recovered message answers the current exchange unless it is a leftover. -/
theorem Exchanging.answers_iff {message : Message M} (inv : Exchanging p answers s g)
    (held : s.endpoint.recoveredMsg = some message) (receives : Receives s.future (.inl act) = true) :
    answers message.inner = g.sends ↔
      ¬ReceivesLeftover ⟨(s, g), .inl act, (s', g'), shown⟩ := by
  cases leftover : g.leftover with
  | true =>
    refine iff_of_false (inv.stale message held leftover).ne (not_not.mpr ⟨receives, ?_, leftover⟩)
    rw [held]
    rfl
  | false =>
    refine iff_of_true (inv.fresh message held leftover) ?_
    rintro ⟨_, _, also⟩
    cases leftover.symm.trans also

/-- What `try_next` makes of a call that gave no message. -/
theorem matched_of_refused {held : Bool} {call : NngCall}
    {result : Except AioError (Option (Message M))} (nothing : ∀ msg, result ≠ .ok (some msg))
    (observed : observe (Exchanges.see p answers held) g [.called call, .tryRecvReturned result] =
      some (g', shown)) : Matched answers shown := by
  rcases result with e | _ | msg
  · cases observed
    exact matched_of_silent (tryNext_empty nothing _)
  · cases observed
    exact matched_of_silent (tryNext_empty nothing _)
  · exact absurd rfl (nothing msg)

/-- **A step yields an answer to another exchange exactly when it receives over a leftover.** -/
theorem Exchanging.matched (inv : Exchanging p answers s g)
    (move : Move .Context s act s' out)
    (reacted : (exchanges p answers).react g ⟨s, act, s', out⟩ = some (g', shown)) :
    Matched answers shown ↔ ¬ReceivesLeftover ⟨(s, g), .inl act, (s', g'), shown⟩ := by
  obtain ⟨phase, called, observed⟩ := exchanges_react reacted
  cases move with
  | turn _ implication point point' thread live =>
    rcases thread with rfl | rfl | rfl <;> cases observed <;>
      exact iff_of_true matched_nil (not_receivesLeftover_of_other (by rw [live]; rfl))
  | callback | callbackReturn | completeFailed | completeSent | sendMsg | recvMsg =>
    cases observed
    exact iff_of_true matched_nil (not_receivesLeftover_of_other rfl)
  | completeReceived =>
    simp only [observe_singleton, Exchanges.see] at observed
    split_ifs at observed
    cases observed
    exact iff_of_true matched_nil (not_receivesLeftover_of_other rfl)
  | close =>
    cases recovered : s.endpoint.recoveredMsg <;> rw [recovered] at observed <;> cases observed <;>
      exact iff_of_true matched_nil (not_receivesLeftover_of_other rfl)
  | tryRecovered returned message free recovered =>
    obtain ⟨holding, rfl⟩ := Requester.call_tryRecvMsg called
    cases observed
    have yields : (ExchangeEvent.tryNextReturned g.handle (some (.ok (some message)))).yields =
      some (g.handle, message) := rfl
    refine (matched_yields yields).trans ?_
    rw [inv.current (.inl holding)]
    exact inv.answers_iff recovered rfl
  | tryReceived msg free vacant =>
    obtain ⟨holding, rfl⟩ := Requester.call_tryRecvMsg called
    simp only [observe, Exchanges.see] at observed
    split_ifs at observed with answer
    · cases observed
      refine iff_of_true ?_ (not_receivesLeftover_of_vacant vacant)
      exact (matched_yields rfl).mpr (answer.trans (inv.current (.inl holding)).symm)
    · cases observed
  | tryRefused _ result free vacant nothing =>
    exact iff_of_true (matched_of_refused nothing observed) (not_receivesLeftover_of_vacant vacant)
  | tryPanicked _ _ free vacant =>
    cases observed
    exact iff_of_true matched_nil (not_receivesLeftover_of_vacant vacant)
  | sendStart message live =>
    cases observed
    exact iff_of_true matched_nil (not_receivesLeftover_of_other (by rw [live]; rfl))
  | recvStart live vacant =>
    cases observed
    exact iff_of_true matched_nil (not_receivesLeftover_of_vacant vacant)
  | recvRecovered message live recovered =>
    cases observed
    refine (matched_yields (received_ok p g.handle message)).trans ?_
    rw [inv.current (.inr (inv.fitting live))]
    exact inv.answers_iff recovered (by rw [live]; rfl)
  | sendOk | sendFailed =>
    cases observed
    exact iff_of_true (matched_of_silent rfl) (not_receivesLeftover_of_other rfl)
  | dropSendNew | dropRecvNew | sendDroppedOk | sendDroppedFailed | recvDroppedOk
  | recvDroppedFailed =>
    cases observed
    exact iff_of_true matched_nil (not_receivesLeftover_of_other rfl)
  | recvOk msg live _ _ held =>
    have answer := inv.slot _ live msg held
    have current : g.handle = g.sends := inv.current (.inr (inv.fitting live))
    cases observed
    refine iff_of_true ?_ (not_receivesLeftover_of_other rfl)
    exact (matched_yields (received_ok p _ _)).mpr (answer.trans current.symm)
  | recvFailed e =>
    cases observed
    exact iff_of_true (matched_of_silent (received_error p _ _)) (not_receivesLeftover_of_other rfl)

end Invariant

/-! ### Runs -/

section Runs

variable {M : Type} {p : Requester} {answers : M → Nat} {s : State M × Exchanges}
  {trace : List (Transition (State M × Exchanges) (Action M ⊕ HandleAction) (ExchangeEvent M))}

/-- Dropping the handle. -/
theorem Exchanging.dropHandle {s : State M} {g g' : Exchanges} {b : HandleAction}
    {shown : List (ExchangeEvent M)} (inv : Exchanging p answers s g)
    (taken : (exchanges p answers).own s g b = some (g', shown)) :
    Exchanging p answers s g' ∧ shown = [] := by
  cases b
  simp only [exchanges] at taken
  split_ifs at taken with holding
  cases taken
  have fits := inv.fits
  rw [holding] at fits
  refine ⟨?_, rfl⟩
  cases free : s.future with
  | none => exact exchanging_of_free free (.inl rfl) inv.fresh inv.stale inv.filled
  | sendNew | recvNew => rw [free] at fits; cases fits
  | waiting implication => rw [free] at fits; cases implication <;> cases fits

/-- **The invariant holds as long as the context is open.** -/
theorem exchanging_of_reachable (reached : (requester p answers).Reachable s)
    (open' : s.1.status = .live) : Exchanging p answers s.1 s.2 := by
  obtain ⟨trace, run⟩ := reached
  refine run.watched_invariant (fun _ reached => sound_of_reachable reached) (fun _ => True)
    (I := fun _ state => state.1.status = .live → Exchanging p answers state.1 state.2)
    (fun _ => exchanging_start .Context p answers) ?_ ?_ (fun _ _ => trivial) open'
  · intro _ s g a s' out g' shown sound _ inv stepped reacted _ open'
    obtain ⟨live, move⟩ := step_move sound stepped
    refine (inv live).step sound move ?_ reacted
    rintro rfl
    cases move with
    | close => cases open'
    | turn _ _ _ _ thread => simp at thread
  · intro _ s g b g' shown _ inv taken _ open'
    exact ((inv open').dropHandle taken).1

/-- **A run yields only answers to the handle's own exchange exactly when it never receives over a
leftover.** -/
theorem matched_iff (run : (requester p answers).Run trace s) :
    (∀ t ∈ trace, Matched answers t.out) ↔ ∀ t ∈ trace, ¬ReceivesLeftover t := by
  refine forall₂_congr fun t member => ?_
  obtain ⟨reached, stepped⟩ := run.before t member
  have sound := sound_of_reachable reached.unwatched
  have inv := exchanging_of_reachable reached
  obtain ⟨⟨s, g⟩, a | b, ⟨s', g'⟩, shown⟩ := t
  · obtain ⟨out, went, reacted⟩ := watched_inl stepped
    obtain ⟨live, move⟩ := step_move sound went
    exact (inv live).matched move reacted
  · obtain ⟨_, taken⟩ := watched_inr stepped
    cases b
    simp only [exchanges] at taken
    split_ifs at taken
    cases taken
    exact iff_of_true matched_nil fun receives => nomatch receives.1

/-- What the handles of a run yield, step by step or all together. -/
theorem matched_events :
    (∀ t ∈ trace, Matched answers t.out) ↔ Matched answers (events trace) := by
  simp only [Matched, mem_events]
  exact ⟨fun all event ⟨t, member, shown⟩ => all t member event shown,
    fun all t member event shown => all event ⟨t, member, shown⟩⟩

/-- For a reply future every recovered message is a leftover. -/
theorem receivesLeftover_request {t : Transition (State M × Exchanges) (Action M ⊕ HandleAction)
      (ExchangeEvent M)} (reached : (requester .Req0 answers).Reachable t.pre)
    (stepped : (requester .Req0 answers).step t.pre t.act = some (t.post, t.out)) :
    ¬ReceivesLeftover t ↔ (t.act = .inl .poll → t.pre.1.future = .recvNew →
      t.pre.1.endpoint.recoveredMsg = none) := by
  have inv := exchanging_of_reachable reached
  obtain ⟨⟨s, g⟩, act, ⟨s', g'⟩, shown⟩ := t
  constructor
  · rintro never rfl (live : s.future = .recvNew)
    obtain ⟨_, went, _⟩ := watched_inl stepped
    obtain ⟨open', _⟩ := step_move (sound_of_reachable reached.unwatched) went
    have inv := inv open'
    have fits := inv.fits
    rw [live] at fits
    cases held : s.endpoint.recoveredMsg with
    | none => rfl
    | some message =>
      have some : s.endpoint.recoveredMsg.isSome = true := by rw [held]; rfl
      refine absurd ⟨?_, some, inv.once rfl (.inr fits) some⟩ never
      show Receives s.future _ = true
      rw [live]
      rfl
  · rintro vacant ⟨receives, held, _⟩
    match act, stepped, vacant, receives with
    | .inl .poll, _, vacant, receives =>
      have live : s.future = .recvNew := by
        cases live : s.future <;> simp [Receives, live] at receives
        rfl
      rw [vacant rfl live] at held
      cases held
    | .inl (.tryRecvMsg returned), stepped, _, _ =>
      obtain ⟨_, _, reacted⟩ := watched_inl stepped
      simp only [exchanges, Requester.call, reduceCtorEq, and_false, if_false] at reacted

end Runs

/-! ### REQ0 -/

/-- **A reply future resolves to replies to its own request, in exactly the runs in which
`recovered_msg` is empty whenever a reply future is first polled.** -/
theorem request_matched_iff {M : Type} {answers : M → Nat}
    {trace : List (Transition (State M × Exchanges) (Action M ⊕ HandleAction) (ExchangeEvent M))}
    {s : State M × Exchanges} (run : (requester .Req0 answers).Run trace s) :
    (∀ event ∈ events trace, ∀ exchange message, event.yields = some (exchange, message) →
      answers message.inner = exchange) ↔
      ∀ t ∈ trace, t.act = .inl .poll → t.pre.1.future = .recvNew →
        t.pre.1.endpoint.recoveredMsg = none := by
  refine (matched_events.symm.trans (matched_iff run)).trans (forall₂_congr fun t member => ?_)
  obtain ⟨reached, stepped⟩ := run.before t member
  exact receivesLeftover_request reached stepped

/-- The first reply future is dropped before the reply comes, the second request gets its own. -/
theorem request_matched_after_cancel :
    ∃ (trace : List (Transition (State Nat × Exchanges) (Action Nat ⊕ HandleAction)
        (ExchangeEvent Nat))) (s : State Nat × Exchanges),
      (requester .Req0 id).Run trace s ∧ .replyReturned 2 (.ok ⟨2, 0⟩) ∈ events trace ∧
        ∀ event ∈ events trace, ∀ exchange message, event.yields = some (exchange, message) →
          id message.inner = exchange := by
  have run := run_of_replay (M := requester .Req0 (id : Nat → Nat))
    [.inl (.sendMsg ⟨9, 0⟩), .inl .poll, .inl .run, .inl (.complete (.sent false)), .inl .callback,
      .inl .callbackReturn, .inl .poll, .inl .run, .inl .recvMsg, .inl .poll, .inl .run, .inl .drop,
      .inl .run, .inl (.complete (.failed ⟨20, by decide⟩)), .inl .callback, .inl .callbackReturn,
      .inl .run, .inl (.sendMsg ⟨8, 0⟩), .inl .poll, .inl .run, .inl (.complete (.sent false)),
      .inl .callback, .inl .callbackReturn, .inl .poll, .inl .run, .inl .recvMsg, .inl .poll,
      .inl .run, .inl (.complete (.received 2)), .inl .callback, .inl .callbackReturn, .inl .poll,
      .inl .run]
    rfl
  exact ⟨_, _, run, by decide, (request_matched_iff run).mpr (by decide)⟩

/-- **Not every reply is matched**: the first reply future is dropped after its reply came, which
recovers it, and the reply future of the second request resolves to it. -/
theorem request_mismatched :
    ¬∀ (trace : List (Transition (State Nat × Exchanges) (Action Nat ⊕ HandleAction)
        (ExchangeEvent Nat))) (s : State Nat × Exchanges),
      (requester .Req0 id).Run trace s →
        ∀ event ∈ events trace, ∀ exchange message, event.yields = some (exchange, message) →
          id message.inner = exchange := by
  intro always
  have run := run_of_replay (M := requester .Req0 (id : Nat → Nat))
    [.inl (.sendMsg ⟨9, 0⟩), .inl .poll, .inl .run, .inl (.complete (.sent false)), .inl .callback,
      .inl .callbackReturn, .inl .poll, .inl .run, .inl .recvMsg, .inl .poll, .inl .run,
      .inl (.complete (.received 1)), .inl .callback, .inl .callbackReturn, .inl .drop, .inl .run,
      .inl .run, .inl (.sendMsg ⟨8, 0⟩), .inl .poll, .inl .run, .inl (.complete (.sent false)),
      .inl .callback, .inl .callbackReturn, .inl .poll, .inl .run, .inl .recvMsg, .inl .poll]
    rfl
  exact absurd (always _ _ run (.replyReturned 2 (.ok ⟨1, 0⟩)) (by decide) 2 ⟨1, 0⟩ rfl) (by decide)

/-! ### SURVEYOR0 -/

/-- **`SurveyResponses` yields responses to its own survey, in exactly the runs in which `next` and
`try_next` never receive over a message that `recovered_msg` held when the survey was sent.** -/
theorem survey_matched_iff {M : Type} {answers : M → Nat}
    {trace : List (Transition (State M × Exchanges) (Action M ⊕ HandleAction) (ExchangeEvent M))}
    {s : State M × Exchanges} (run : (requester .Surveyor0 answers).Run trace s) :
    (∀ event ∈ events trace, ∀ exchange message, event.yields = some (exchange, message) →
      answers message.inner = exchange) ↔ ∀ t ∈ trace, ¬ReceivesLeftover t :=
  matched_events.symm.trans (matched_iff run)

/-- A response recovered from a dropped `next` is yielded by the same survey's `try_next`. -/
theorem survey_matched_recovered :
    ∃ (trace : List (Transition (State Nat × Exchanges) (Action Nat ⊕ HandleAction)
        (ExchangeEvent Nat))) (s : State Nat × Exchanges),
      (requester .Surveyor0 id).Run trace s ∧
        .tryNextReturned 1 (some (.ok (some ⟨1, 0⟩))) ∈ events trace ∧
        ∀ event ∈ events trace, ∀ exchange message, event.yields = some (exchange, message) →
          id message.inner = exchange := by
  have run := run_of_replay (M := requester .Surveyor0 (id : Nat → Nat))
    [.inl (.sendMsg ⟨9, 0⟩), .inl .poll, .inl .run, .inl (.complete (.sent false)), .inl .callback,
      .inl .callbackReturn, .inl .poll, .inl .run, .inl .recvMsg, .inl .poll, .inl .run,
      .inl (.complete (.received 1)), .inl .callback, .inl .callbackReturn, .inl .drop, .inl .run,
      .inl .run, .inl (.tryRecvMsg ⟨0, none⟩), .inl (.tryRecvMsg ⟨8, none⟩)]
    rfl
  exact ⟨_, _, run, by decide, (survey_matched_iff run).mpr (by decide)⟩

/-- **Not every response is matched**: one recovered from a dropped `next` is yielded by the next
survey. -/
theorem survey_mismatched :
    ¬∀ (trace : List (Transition (State Nat × Exchanges) (Action Nat ⊕ HandleAction)
        (ExchangeEvent Nat))) (s : State Nat × Exchanges),
      (requester .Surveyor0 id).Run trace s →
        ∀ event ∈ events trace, ∀ exchange message, event.yields = some (exchange, message) →
          id message.inner = exchange := by
  intro always
  have run := run_of_replay (M := requester .Surveyor0 (id : Nat → Nat))
    [.inl (.sendMsg ⟨9, 0⟩), .inl .poll, .inl .run, .inl (.complete (.sent false)), .inl .callback,
      .inl .callbackReturn, .inl .poll, .inl .run, .inl .recvMsg, .inl .poll, .inl .run,
      .inl (.complete (.received 1)), .inl .callback, .inl .callbackReturn, .inl .drop, .inl .run,
      .inl .run, .inr .dropHandle, .inl (.sendMsg ⟨8, 0⟩), .inl .poll, .inl .run,
      .inl (.complete (.sent false)), .inl .callback, .inl .callbackReturn, .inl .poll, .inl .run,
      .inl (.tryRecvMsg ⟨8, none⟩)]
    rfl
  exact absurd
    (always _ _ run (.tryNextReturned 2 (some (.ok (some ⟨1, 0⟩)))) (by decide) 2 ⟨1, 0⟩ rfl)
    (by decide)

end NngRs.Anng
