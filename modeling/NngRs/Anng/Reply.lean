/-
**Replies go to the request they were handed out with: REP0 and RESPONDENT0.**

`receive`, `try_receive`, `next_survey` and `try_next_survey` return what the context's `recv_msg` or
`try_recv_msg` returns, with a responder that borrows the context. `reply` and `respond` consume it
and send on the context; a failed send gives it back. What the responder answers is nowhere in the
wrapper: the library's context answers the request it dequeued last.

The watcher keeps that hidden state (`current`), numbers the requests it sees returned, and follows
the responder. A reply is routed when it is handed to the library (`target`).

* `Replying` — the invariant of a context, its responder and the history.
* `Replying.step` — kept by every step.
* `replies_go_to_their_request` — over every run: a returned request is the one the library would
  answer, and stays so as long as its responder lives; replies are routed to it; and at most one
  reply is sent for each.
-/

import NngRs.Anng.Moves
import NngRs.Machine.Watch

namespace NngRs.Anng

open NngRs.Sys EventMachine

/-- Which of the two protocols. -/
inductive Replier
  | Rep0
  | Respondent0
deriving DecidableEq, Repr

/-- What the caller holds. `sent` is the field of a `Responder`; a `SurveyResponder` has none, and
nothing reads it there. -/
inductive Holding
  | listening
  /-- A `receive` or `next_survey` future. -/
  | receiving
  /-- A responder. -/
  | responding (sent : Bool)
  /-- A `reply` or `respond` future, which holds the responder. -/
  | replying (sent : Bool)
deriving DecidableEq, Repr

/-- The watcher's state. -/
structure Replies (M : Type) where
  /-- What the library's context would answer: the request it dequeued last. -/
  current : Option M
  /-- How many requests were returned, which is the number of the last responder. -/
  returned : Nat
  /-- The request returned with the last responder. -/
  request : Option M
  /-- Where the last reply handed to the library is routed. -/
  target : Option M
  holding : Holding
deriving DecidableEq, Repr

/-- What the caller and the peers see. -/
inductive ReplyEvent (M : Type)
  /-- A request was returned, while the library's context would answer `answers`. -/
  | received (responder : Nat) (message : Message M) (answers : Option M)
  | receiveReturned (result : Except AioError Unit)
  /-- The library took the reply, for the sender of `request`. -/
  | routed (responder : Nat) (request : Option M)
  | replied (responder : Nat)
  | replyFailed (responder : Nat) (error : AioError × Message M)
  /-- "REP0 Responder dropped" -/
  | warned (responder : Nat)
deriving DecidableEq

/-- What the caller does besides polling and dropping futures. -/
inductive ResponderAction
  | dropResponder
deriving DecidableEq, Repr

/-- A responder is held, or its reply is in progress. -/
def Holding.responder : Holding → Bool
  | .responding _ | .replying _ => true
  | .listening | .receiving => false

section Definitions

variable {M : Type}

/-- `Drop` of the responder: only REP0 warns. -/
def Replier.dropped (p : Replier) (responder : Nat) (sent : Bool) : List (ReplyEvent M) :=
  match p, sent with
  | .Rep0, false => [.warned responder]
  | _, _ => []

/-- The calls that the borrows allow, and what the caller holds after them. -/
def Holding.call (holding : Holding) : Action M → Option Holding
  | .recvMsg => match holding with
    | .listening => some .receiving
    | _ => none
  | .tryRecvMsg _ | .close => match holding with
    | .listening => some .listening
    | _ => none
  | .sendMsg _ => match holding with
    | .responding sent => some (.replying sent)
    | _ => none
  | _ => some holding

/-- A request is returned with a fresh responder. -/
def Replies.hand (g : Replies M) (message : Message M) : Replies M × List (ReplyEvent M) :=
  ({ g with
      returned := g.returned + 1
      request := some message.inner
      holding := .responding false },
    [.received (g.returned + 1) message g.current])

/-- The watcher after one event of a step. -/
def Replies.see (p : Replier) (g : Replies M) :
    Event M → Option (Replies M × List (ReplyEvent M))
  | .started .nng_ctx_send =>
    some ({ g with target := g.current, holding := .replying true }, [])
  | .consumed _ => some (g, [.routed g.returned g.target])
  | .delivered msg => some ({ g with current := some msg }, [])
  | .sendReturned (.ok ()) =>
    some ({ g with holding := .listening }, [.replied g.returned])
  | .sendReturned (.error e) =>
    some ({ g with holding := .responding true }, [.replyFailed g.returned e])
  | .recvReturned (.ok message) => some (g.hand message)
  | .recvReturned (.error e) =>
    some ({ g with holding := .listening }, [.receiveReturned (.error e)])
  | .tryRecvReturned (.ok (some message)) => some (g.hand message)
  | .tryRecvReturned (.ok none) => some (g, [.receiveReturned (.ok ())])
  | .tryRecvReturned (.error e) => some (g, [.receiveReturned (.error e)])
  | .cancelled =>
    match g.holding with
    | .replying sent => some ({ g with holding := .listening }, p.dropped g.returned sent)
    | _ => some ({ g with holding := .listening }, [])
  | _ => some (g, [])

/-- The watcher of one context. -/
def replies (M : Type) (p : Replier) :
    Watcher (State M) (Action M) (Event M) (Replies M) ResponderAction (ReplyEvent M) where
  start := ⟨none, 0, none, none, .listening⟩
  react g t :=
    match g.holding.call t.act with
    | none => none
    | some holding => observe (Replies.see p) { g with holding } t.out
  own _ g
    | .dropResponder =>
      match g.holding with
      | .responding sent => some ({ g with holding := .listening }, p.dropped g.returned sent)
      | _ => none

/-- `ContextfulSocket<Rep0>` or `ContextfulSocket<Respondent0>`, with its requests numbered. -/
abbrev replier (M : Type) (p : Replier) := (machine M .Context).watched (replies M p)

/-- The responder whose reply the library took. -/
def ReplyEvent.routedFor : ReplyEvent M → Option Nat
  | .routed responder _ => some responder
  | _ => none

end Definitions

section Invariant

variable {M : Type} {p : Replier}

/-- What the caller holds at each point of the context's future. -/
def Holding.Fits : Holding → Future M → Prop
  | .listening, .none | .responding _, .none | .receiving, .recvNew
  | .receiving, .waiting .Received _ | .replying _, .sendNew _ | .replying _, .waiting .Sent _ => True
  | _, _ => False

/-- The library has taken the reply in progress. -/
def State.replySent (s : State M) : Prop :=
  (∃ point, s.future = .waiting .Sent point) ∧ s.succeeded

/-- **The invariant of a context, its responder and the history.** -/
structure Replying (history : List (ReplyEvent M)) (s : State M) (g : Replies M) : Prop where
  fits : g.holding.Fits s.future
  /-- A recovered request is the one the library would answer. -/
  recovered : ∀ message, s.endpoint.recoveredMsg = some message → g.current = some message.inner
  slot : ∀ point, s.future = .waiting .Received point → ∀ msg, s.endpoint.aio.aio.msg = some msg →
    g.current = some msg
  /-- A live responder's request is the one the library would answer. -/
  answers : g.holding.responder = true → g.current = g.request ∧
    ∃ message answers, .received g.returned message answers ∈ history ∧
      g.request = some message.inner
  target : ∀ point, s.future = .waiting .Sent point → g.target = g.request
  received : ∀ responder message answers, .received responder message answers ∈ history →
    answers = some message.inner
  routed : ∀ responder request, .routed responder request ∈ history → responder ≤ g.returned ∧
    ∃ message answers, .received responder message answers ∈ history ∧
      request = some message.inner
  /-- A live responder's reply is not sent yet, but for the one that is in progress. -/
  unanswered : g.holding.responder = true → ¬s.replySent → ∀ request,
    .routed g.returned request ∉ history
  once : (history.filterMap ReplyEvent.routedFor).Nodup

theorem replying_start (p : Replier) :
    Replying [] (machine M .Context).start (replies M p).start where
  fits := trivial
  recovered := nofun
  slot := nofun
  answers := nofun
  target := nofun
  received := nofun
  routed := nofun
  unanswered := nofun
  once := List.nodup_nil

variable {s s' : State M} {g g' : Replies M} {act : Action M} {out : List (Event M)}
  {history shown : List (ReplyEvent M)}

/-- Events that neither return a request nor send a reply. -/
def Quiet (shown : List (ReplyEvent M)) : Prop :=
  (∀ responder message answers, .received responder message answers ∉ shown) ∧
    ∀ responder request, .routed responder request ∉ shown

theorem quiet_nil : Quiet ([] : List (ReplyEvent M)) := ⟨nofun, nofun⟩

theorem quiet_dropped (p : Replier) (responder : Nat) (sent : Bool) :
    Quiet (p.dropped (M := M) responder sent) := by
  unfold Replier.dropped
  split
  · exact ⟨by simp, by simp⟩
  · exact quiet_nil

theorem routedFor_of_quiet (quiet : Quiet shown) : shown.filterMap ReplyEvent.routedFor = [] := by
  refine List.filterMap_eq_nil_iff.mpr fun event member => ?_
  cases event with
  | routed responder request => exact absurd member (quiet.2 responder request)
  | _ => rfl

/-- **A quiet step**: it keeps the number and the request of the responder, and a live responder was
live before, with the same answer to send. -/
theorem Replying.quietly (inv : Replying history s g) (quiet : Quiet shown)
    (same : g'.returned = g.returned ∧ g'.request = g.request) (fits : g'.holding.Fits s'.future)
    (recovered : ∀ message, s'.endpoint.recoveredMsg = some message →
      g'.current = some message.inner)
    (slot : ∀ point, s'.future = .waiting .Received point → ∀ msg,
      s'.endpoint.aio.aio.msg = some msg → g'.current = some msg)
    (live : g'.holding.responder = true → g.holding.responder = true ∧ g'.current = g.current ∧
      (¬s'.replySent → ¬s.replySent))
    (target : ∀ point, s'.future = .waiting .Sent point → g'.target = g'.request) :
    Replying (history ++ shown) s' g' := by
  obtain ⟨number, request⟩ := same
  refine ⟨fits, recovered, slot, fun responder => ?_, target, fun r message answers member => ?_,
    fun r asked member => ?_, fun responder unsent asked member => ?_, ?_⟩
  · obtain ⟨before, current, _⟩ := live responder
    obtain ⟨agrees, message, answers, member, known⟩ := inv.answers before
    rw [current, request, number]
    exact ⟨agrees, message, answers, List.mem_append_left _ member, known⟩
  · rcases List.mem_append.mp member with member | member
    · exact inv.received r message answers member
    · exact absurd member (quiet.1 r message answers)
  · rcases List.mem_append.mp member with member | member
    · obtain ⟨older, message, answers, returned, known⟩ := inv.routed r asked member
      rw [number]
      exact ⟨older, message, answers, List.mem_append_left _ returned, known⟩
    · exact absurd member (quiet.2 r asked)
  · obtain ⟨before, _, sent⟩ := live responder
    rw [number] at member
    rcases List.mem_append.mp member with member | member
    · exact inv.unanswered before (sent unsent) asked member
    · exact absurd member (quiet.2 _ asked)
  · rw [List.filterMap_append, routedFor_of_quiet quiet, List.append_nil]
    exact inv.once

/-- **A request is returned**: it is the one the library would answer, and its responder is new. -/
theorem Replying.hand (inv : Replying history s g) {message : Message M}
    (free : s'.future = .none) (vacant : s'.endpoint.recoveredMsg = none)
    (current : g.current = some message.inner) :
    Replying (history ++ (g.hand message).2) s' (g.hand message).1 := by
  have returned : .received (g.returned + 1) message g.current ∈ history ++ (g.hand message).2 :=
    List.mem_append_right _ (List.mem_singleton.mpr rfl)
  refine ⟨?_, ?_, ?_, fun _ => ⟨current, message, g.current, returned, rfl⟩, ?_,
    fun r other answers member => ?_, fun r asked member => ?_, fun _ _ asked member => ?_, ?_⟩
  · rw [free]
    trivial
  · rw [vacant]
    nofun
  · rw [free]
    nofun
  · rw [free]
    nofun
  · rcases List.mem_append.mp member with member | member
    · exact inv.received r other answers member
    · cases List.mem_singleton.mp member
      exact current
  · rcases List.mem_append.mp member with member | member
    · obtain ⟨older, other, answers, found, known⟩ := inv.routed r asked member
      exact ⟨Nat.le_succ_of_le older, other, answers, List.mem_append_left _ found, known⟩
    · cases List.mem_singleton.mp member
  · rcases List.mem_append.mp member with member | member
    · exact absurd (inv.routed _ asked member).1 (Nat.not_succ_le_self g.returned)
    · cases List.mem_singleton.mp member
  · rw [List.filterMap_append]
    exact (List.append_nil _).symm ▸ inv.once

/-- **The library takes the reply**: for the responder's request, and for the first time. -/
theorem Replying.route (inv : Replying history s g) (responder : g.holding.responder = true)
    (unsent : ¬s.replySent) (routed : g.target = g.request) (fits : g.holding.Fits s'.future)
    {point : WaitPoint} (live : s'.future = .waiting .Sent point) (sent : s'.replySent)
    (recovered : s'.endpoint.recoveredMsg = s.endpoint.recoveredMsg) :
    Replying (history ++ [.routed g.returned g.target]) s' g := by
  obtain ⟨agrees, message, answers, returned, known⟩ := inv.answers responder
  refine ⟨fits, ?_, fun _ other => (nomatch live.symm.trans other), fun _ => ⟨agrees, message, answers,
    List.mem_append_left _ returned, known⟩, fun _ _ => routed, fun r other answers member => ?_,
    fun r asked member => ?_, fun _ not => absurd sent not, ?_⟩
  · rw [recovered]
    exact inv.recovered
  · rcases List.mem_append.mp member with member | member
    · exact inv.received r other answers member
    · cases List.mem_singleton.mp member
  · rcases List.mem_append.mp member with member | member
    · obtain ⟨older, other, answers, found, known⟩ := inv.routed r asked member
      exact ⟨older, other, answers, List.mem_append_left _ found, known⟩
    · cases List.mem_singleton.mp member
      exact ⟨le_rfl, message, answers, List.mem_append_left _ returned, routed.trans known⟩
  · rw [List.filterMap_append]
    refine inv.once.append (List.nodup_singleton _) ?_
    refine List.disjoint_singleton.mpr fun member => ?_
    obtain ⟨event, found, same⟩ := List.mem_filterMap.mp member
    cases event with
    | routed r asked =>
      cases same
      exact inv.unanswered responder unsent asked found
    | _ => cases same

/-- A wait that goes on with the same messages and outcome. -/
theorem Replying.goesOn {implication : ImplicationOnMessage} {point point' : WaitPoint}
    (inv : Replying history s g) (before : s.future = .waiting implication point)
    (after : s'.future = .waiting implication point')
    (msg : s'.endpoint.aio.aio.msg = s.endpoint.aio.aio.msg)
    (recovered : s'.endpoint.recoveredMsg = s.endpoint.recoveredMsg)
    (done : s.succeeded → s'.succeeded) : Replying (history ++ []) s' g := by
  have fits := inv.fits
  rw [before] at fits
  refine inv.quietly quiet_nil ⟨rfl, rfl⟩ ?_ ?_ (fun _ live => ?_) (fun responder =>
    ⟨responder, rfl, mt fun ⟨⟨_, live⟩, ok⟩ => ?_⟩) (fun _ live => ?_)
  · rw [after]
    cases holding : g.holding <;> rw [holding] at fits <;> cases implication <;> exact fits
  · rw [recovered]
    exact inv.recovered
  · cases after.symm.trans live
    rw [msg]
    exact inv.slot point before
  · cases before.symm.trans live
    exact ⟨⟨point', after⟩, done ok⟩
  · cases after.symm.trans live
    exact inv.target point before

/-- A step that leaves the context without a future and without a responder. -/
theorem Replying.listen (inv : Replying history s g) (quiet : Quiet shown)
    (free : s'.future = .none) (recovered : ∀ message,
      s'.endpoint.recoveredMsg = some message → g.current = some message.inner) :
    Replying (history ++ shown) s' { g with holding := .listening } := by
  refine inv.quietly quiet ⟨rfl, rfl⟩ ?_ recovered (fun _ live => ?_) nofun fun _ live => ?_
  · rw [free]
    trivial
  · exact nomatch free.symm.trans live
  · exact nomatch free.symm.trans live

theorem not_replySent_of_free (free : s.future = .none) : ¬s.replySent := by
  rintro ⟨⟨_, live⟩, _⟩
  exact nomatch free.symm.trans live

theorem call_recv {holding holding' : Holding}
    (called : holding.call (.recvMsg : Action M) = some holding') :
    holding = .listening ∧ holding' = .receiving := by
  cases holding <;> cases called
  exact ⟨rfl, rfl⟩

theorem call_tryRecv {holding holding' : Holding} {returned : Recvmsg M}
    (called : holding.call (.tryRecvMsg returned) = some holding') :
    holding = .listening ∧ holding' = .listening := by
  cases holding <;> cases called
  exact ⟨rfl, rfl⟩

theorem call_send {holding holding' : Holding} {message : Message M}
    (called : holding.call (.sendMsg message) = some holding') :
    ∃ sent, holding = .responding sent ∧ holding' = .replying sent := by
  cases holding <;> cases called
  exact ⟨_, rfl, rfl⟩

/-- The reaction to a step: the call is allowed, and the events are seen in order. -/
theorem replies_react (reacted : (replies M p).react g ⟨s, act, s', out⟩ = some (g', shown)) :
    ∃ holding, g.holding.call act = some holding ∧
      observe (Replies.see p) { g with holding } out = some (g', shown) := by
  simp only [replies] at reacted
  cases called : g.holding.call act with
  | none => rw [called] at reacted; cases reacted
  | some holding =>
    rw [called] at reacted
    exact ⟨holding, rfl, reacted⟩

theorem Holding.fits_sending {holding : Holding} {point : WaitPoint}
    (fits : holding.Fits (.waiting .Sent point : Future M)) : ∃ sent, holding = .replying sent := by
  cases holding <;> first | exact ⟨_, rfl⟩ | cases fits

theorem Holding.fits_sendNew {holding : Holding} {message : Message M}
    (fits : holding.Fits (.sendNew message)) : ∃ sent, holding = .replying sent := by
  cases holding <;> first | exact ⟨_, rfl⟩ | cases fits

theorem Holding.fits_receiving {holding : Holding} {point : WaitPoint}
    (fits : holding.Fits (.waiting .Received point : Future M)) : holding = .receiving := by
  cases holding <;> first | rfl | cases fits

theorem Holding.fits_recvNew {holding : Holding} (fits : holding.Fits (.recvNew : Future M)) :
    holding = .receiving := by
  cases holding <;> first | rfl | cases fits

/-! One lemma for each move that changes what the caller holds or what the library would answer. -/

/-- A reply or response is asked for. -/
theorem Replying.sendMsg {sent : Bool} (inv : Replying history s g) (message : Message M)
    (free : s.future = .none) (before : g.holding = .responding sent) :
    Replying (history ++ []) { s with future := .sendNew message }
      { g with holding := .replying sent } := by
  refine inv.quietly quiet_nil ⟨rfl, rfl⟩ trivial inv.recovered nofun (fun _ => ?_) nofun
  exact ⟨by rw [before]; rfl, rfl, fun _ => not_replySent_of_free free⟩

/-- A receive is asked for. -/
theorem Replying.recvMsg (inv : Replying history s g) :
    Replying (history ++ []) { s with future := .recvNew } { g with holding := .receiving } :=
  inv.quietly quiet_nil ⟨rfl, rfl⟩ trivial inv.recovered nofun nofun nofun

/-- A request is there at once: the library dequeues it and it is returned in the same call. -/
theorem Replying.tryReceived (inv : Replying history s g) (msg : M) (free : s.future = .none)
    (vacant : s.endpoint.recoveredMsg = none) :
    Replying (history ++ [.received (g.returned + 1) (.fromRawUnchecked msg) (some msg)]) s
      ({ g with current := some msg, holding := .listening }.hand (.fromRawUnchecked msg)).1 := by
  have dequeued : Replying (history ++ []) s { g with current := some msg, holding := .listening } :=
    inv.quietly quiet_nil ⟨rfl, rfl⟩ (by rw [free]; trivial) (by rw [vacant]; nofun)
      (fun _ live => nomatch free.symm.trans live) nofun fun _ live => nomatch free.symm.trans live
  rw [List.append_nil] at dequeued
  exact dequeued.hand free vacant rfl

/-- No request is there, or the call failed. -/
theorem Replying.tryRefused {result : Except AioError (Option (Message M))} {call : NngCall}
    (inv : Replying history s g) (free : s.future = .none) (empty : ∀ msg, result ≠ .ok (some msg))
    (observed : observe (Replies.see p) { g with holding := .listening }
      [.called call, .tryRecvReturned result] = some (g', shown)) :
    Replying (history ++ shown) s g' := by
  match result, empty with
  | .ok none, _ | .error _, _ =>
    cases observed
    exact inv.listen ⟨by simp, by simp⟩ free inv.recovered
  | .ok (some msg), empty => exact absurd rfl (empty msg)

/-- A send starts: the reply goes where the library's context would answer, and this is the request
of the responder. -/
theorem Replying.sendStart {message : Message M} (inv : Replying history s g)
    (live : s.future = .sendNew message) :
    Replying (history ++ []) (s.begun .Sent (some message.intoPtr))
      { g with target := g.current, holding := .replying true } := by
  have fits := inv.fits
  rw [live] at fits
  obtain ⟨sent, before⟩ := Holding.fits_sendNew fits
  have responder : g.holding.responder = true := by rw [before]; rfl
  refine inv.quietly quiet_nil ⟨rfl, rfl⟩ trivial inv.recovered nofun (fun _ => ?_) fun _ _ => ?_
  · refine ⟨responder, rfl, fun _ => ?_⟩
    rintro ⟨⟨_, other⟩, _⟩
    exact nomatch live.symm.trans other
  · exact (inv.answers responder).1

/-- A receive starts, and nobody holds a responder then. -/
theorem Replying.recvStart (inv : Replying history s g) (live : s.future = .recvNew) :
    Replying (history ++ []) (s.begun .Received none) g := by
  have fits := inv.fits
  rw [live] at fits
  have receiving : g.holding = .receiving := Holding.fits_recvNew fits
  refine inv.quietly quiet_nil ⟨rfl, rfl⟩ ?_ inv.recovered nofun (fun responder => ?_) nofun
  · rw [receiving]
    trivial
  · rw [receiving] at responder
    cases responder

/-- The library takes the reply. -/
theorem Replying.completeSent {point : WaitPoint} {aio : NngAio M} (inv : Replying history s g)
    (live : s.future = .waiting .Sent point) (running : s.endpoint.aio.aio.stage.running = true)
    (ok : (s.withNng aio).succeeded) :
    Replying (history ++ [.routed g.returned g.target]) (s.withNng aio) g := by
  have fits := inv.fits
  have fits' : g.holding.Fits (s.withNng aio).future := inv.fits
  rw [live] at fits
  obtain ⟨sent, replying⟩ := Holding.fits_sending fits
  have responder : g.holding.responder = true := by rw [replying]; rfl
  exact inv.route responder (fun sent => not_succeeded_of_running running sent.2)
    (inv.target point live) fits' live ⟨⟨point, live⟩, ok⟩ rfl

/-- The library dequeues a request for the receive in progress. -/
theorem Replying.completeReceived {point : WaitPoint} (sound : Sound s) (inv : Replying history s g)
    (msg : M) (live : s.future = .waiting .Received point) :
    Replying (history ++ []) (s.withNng ⟨some msg, NNG_OK, .completed⟩)
      { g with current := some msg } := by
  have fits := inv.fits
  have fits' : g.holding.Fits (s.withNng ⟨some msg, NNG_OK, .completed⟩).future := inv.fits
  rw [live] at fits
  have receiving : g.holding = .receiving := Holding.fits_receiving fits
  refine inv.quietly quiet_nil ⟨rfl, rfl⟩ fits' (fun message recovered => ?_)
    (fun _ _ other same => same) (fun responder => ?_) (fun _ other => nomatch live.symm.trans other)
  · exact nomatch (sound.recovered_none live).symm.trans recovered
  · rw [show g.holding.responder = false by rw [receiving]; rfl] at responder
    cases responder

/-- The send fails, and the responder is given back. -/
theorem Replying.sendFailed {point : WaitPoint} (inv : Replying history s g)
    (e : AioError × Message M) (live : s.future = .waiting .Sent point)
    (failed : s.endpoint.aio.aio.result ≠ NNG_OK) :
    Replying (history ++ [.replyFailed g.returned e]) (s.ended s.endpoint.recoveredMsg)
      { g with holding := .responding true } := by
  have fits := inv.fits
  rw [live] at fits
  obtain ⟨sent, replying⟩ := Holding.fits_sending fits
  refine inv.quietly ⟨by simp, by simp⟩ ⟨rfl, rfl⟩ trivial inv.recovered nofun (fun _ => ?_) nofun
  exact ⟨by rw [replying]; rfl, rfl, fun _ sent => not_succeeded_of_failed failed sent.2⟩

/-- A future is dropped, and with a reply its responder. -/
theorem Replying.cancelled (inv : Replying history s g) (free : s'.future = .none)
    (recovered : ∀ message, s'.endpoint.recoveredMsg = some message →
      g.current = some message.inner)
    (observed : Replies.see p g .cancelled = some (g', shown)) :
    Replying (history ++ shown) s' g' := by
  cases holding : g.holding with
  | replying sent =>
    simp only [Replies.see, holding] at observed
    cases observed
    exact inv.listen (quiet_dropped p g.returned sent) free recovered
  | listening | receiving | responding =>
    simp only [Replies.see, holding] at observed
    cases observed
    exact inv.listen quiet_nil free recovered

theorem observe_freed (msg : M) :
    observe (Replies.see p) g [.freed msg, .cancelled] = Replies.see p g .cancelled := by
  rw [observe]
  simp only [Replies.see, observe_singleton]
  cases g.holding <;> rfl

/-- **A step keeps the invariant**, but for the one that drops the context. -/
theorem Replying.step (sound : Sound s) (inv : Replying history s g)
    (move : Move .Context s act s' out) (open' : act ≠ .close)
    (reacted : (replies M p).react g ⟨s, act, s', out⟩ = some (g', shown)) :
    Replying (history ++ shown) s' g' := by
  obtain ⟨holding, called, observed⟩ := replies_react reacted
  cases move with
  | close => exact absurd rfl open'
  | sendMsg message free =>
    obtain ⟨sent, before, rfl⟩ := call_send called
    cases observed
    exact inv.sendMsg message free before
  | recvMsg free =>
    obtain ⟨_, rfl⟩ := call_recv called
    cases observed
    exact inv.recvMsg
  | tryRecovered _ message free recovered =>
    cases observed
    exact inv.hand free rfl (inv.recovered message recovered)
  | tryReceived msg free vacant =>
    obtain ⟨_, rfl⟩ := call_tryRecv called
    cases observed
    exact inv.tryReceived msg free vacant
  | tryRefused _ result free vacant empty =>
    obtain ⟨_, rfl⟩ := call_tryRecv called
    exact inv.tryRefused free empty observed
  | tryPanicked _ _ free vacant =>
    obtain ⟨_, rfl⟩ := call_tryRecv called
    cases observed
    exact inv.listen quiet_nil free inv.recovered
  | sendStart message live =>
    cases called
    cases observed
    exact inv.sendStart live
  | recvStart live vacant =>
    cases called
    cases observed
    exact inv.recvStart live
  | recvRecovered message live recovered =>
    cases called
    cases observed
    exact inv.hand rfl rfl (inv.recovered message recovered)
  | turn _ implication point point' thread live =>
    rcases thread with rfl | rfl | rfl <;> cases called <;> cases observed <;>
      exact inv.goesOn live rfl rfl rfl id
  | callback implication point live stage =>
    cases called
    cases observed
    exact inv.goesOn live rfl rfl rfl fun done => ⟨rfl, done.2⟩
  | callbackReturn implication point live stage =>
    cases called
    cases observed
    exact inv.goesOn live live rfl rfl fun done => ⟨rfl, done.2⟩
  | completeFailed implication point err live stage =>
    cases called
    cases observed
    refine inv.goesOn live live rfl rfl fun done => ?_
    exact absurd done (not_succeeded_of_running (by rw [stage]; rfl))
  | completeSent point msg stale live stage held =>
    cases called
    cases observed
    exact inv.completeSent live (by rw [stage]; rfl) ⟨rfl, rfl⟩
  | completeReceived point msg live stage vacant =>
    cases called
    cases observed
    exact inv.completeReceived sound msg live
  | sendOk live =>
    cases called
    cases observed
    exact inv.listen ⟨by simp, by simp⟩ rfl inv.recovered
  | sendFailed msg e live stage failed =>
    cases called
    cases observed
    exact inv.sendFailed (e, .fromRawUnchecked msg) live failed
  | recvOk msg live _ _ held =>
    have dequeued := inv.slot _ live msg held
    cases called
    cases observed
    exact inv.hand rfl (sound.recovered_none live) dequeued
  | recvFailed e live =>
    cases called
    cases observed
    exact inv.listen ⟨by simp, by simp⟩ rfl inv.recovered
  | dropSendNew message live =>
    cases called
    exact inv.cancelled rfl inv.recovered ((observe_freed message.inner).symm.trans observed)
  | sendDroppedFailed msg live =>
    cases called
    exact inv.cancelled rfl inv.recovered ((observe_freed msg).symm.trans observed)
  | dropRecvNew | sendDroppedOk | recvDroppedFailed =>
    cases called
    exact inv.cancelled rfl inv.recovered ((observe_singleton ..).symm.trans observed)
  | recvDroppedOk msg live _ held _ =>
    have dequeued := inv.slot _ live msg held
    cases called
    refine inv.cancelled rfl (fun message recovered => ?_) ((observe_singleton ..).symm.trans observed)
    cases recovered
    exact dequeued

/-- Dropping the responder. -/
theorem Replying.dropResponder {b : ResponderAction} (inv : Replying history s g)
    (taken : (replies M p).own s g b = some (g', shown)) : Replying (history ++ shown) s g' := by
  cases b
  have fits := inv.fits
  cases holding : g.holding with
  | responding sent =>
    simp only [replies, holding] at taken
    cases taken
    rw [holding] at fits
    cases free : s.future with
    | none => exact inv.listen (quiet_dropped p g.returned sent) free inv.recovered
    | sendNew | recvNew => rw [free] at fits; cases fits
    | waiting implication => rw [free] at fits; cases implication <;> cases fits
  | listening | receiving | replying =>
    simp only [replies, holding] at taken
    cases taken

end Invariant

/-! ### Runs -/

section Runs

variable {M : Type} {p : Replier} {s : State M × Replies M}
  {trace : List (Transition (State M × Replies M) (Action M ⊕ ResponderAction) (ReplyEvent M))}

/-- What outlives the context: no reply went astray, and none was sent twice. -/
structure Answered (history : List (ReplyEvent M)) : Prop where
  received : ∀ responder message answers, .received responder message answers ∈ history →
    answers = some message.inner
  routed : ∀ responder request, .routed responder request ∈ history →
    ∃ message answers, .received responder message answers ∈ history ∧
      request = some message.inner
  once : (history.filterMap ReplyEvent.routedFor).Nodup

theorem Replying.answered {history : List (ReplyEvent M)} {s : State M} {g : Replies M}
    (inv : Replying history s g) : Answered history :=
  ⟨inv.received, fun responder request member => (inv.routed responder request member).2, inv.once⟩

theorem Answered.quietly {history shown : List (ReplyEvent M)} (answered : Answered history)
    (quiet : Quiet shown) : Answered (history ++ shown) := by
  refine ⟨fun r message answers member => ?_, fun r request member => ?_, ?_⟩
  · rcases List.mem_append.mp member with member | member
    · exact answered.received r message answers member
    · exact absurd member (quiet.1 r message answers)
  · rcases List.mem_append.mp member with member | member
    · obtain ⟨message, answers, returned, known⟩ := answered.routed r request member
      exact ⟨message, answers, List.mem_append_left _ returned, known⟩
    · exact absurd member (quiet.2 r request)
  · rw [List.filterMap_append, routedFor_of_quiet quiet, List.append_nil]
    exact answered.once

/-- **The invariant holds as long as the context is open**, and its history is sound for good. -/
theorem replying_of_run (run : (replier M p).Run trace s) :
    (s.1.status = .live → Replying (events trace) s.1 s.2) ∧ Answered (events trace) := by
  refine run.watched_invariant (fun _ reached => sound_of_reachable reached) (fun _ => True)
    (I := fun history state => (state.1.status = .live → Replying history state.1 state.2) ∧
      Answered history)
    ⟨fun _ => replying_start p, (replying_start p).answered⟩ ?_ ?_ fun _ _ => trivial
  · rintro history s g a s' out g' shown sound _ ⟨inv, _⟩ stepped reacted _
    obtain ⟨live, move⟩ := step_move sound stepped
    by_cases shut : a = .close
    · subst shut
      cases move with
      | turn _ _ _ _ thread => simp at thread
      | close free =>
        have quiet : shown = [] := by
          obtain ⟨_, _, observed⟩ := replies_react reacted
          cases recovered : s.endpoint.recoveredMsg <;> rw [recovered] at observed <;>
            cases observed <;> rfl
        rw [quiet, List.append_nil]
        exact ⟨nofun, (inv live).answered⟩
    · have kept := (inv live).step sound move shut reacted
      exact ⟨fun _ => kept, kept.answered⟩
  · rintro history s g b g' shown _ ⟨inv, answered⟩ taken _
    refine ⟨fun open' => (inv open').dropResponder taken, answered.quietly ?_⟩
    cases b
    cases holding : g.holding with
    | responding sent =>
      simp only [replies, holding] at taken
      cases taken
      exact quiet_dropped p g.returned sent
    | listening | receiving | replying =>
      simp only [replies, holding] at taken
      cases taken

end Runs

/-- **Replies go to the request they were handed out with.** In every run of a `Rep0` or
`Respondent0` context: a request is returned when it is the one the library would answer; as long as
its responder lives the library would answer it; a reply the library takes is for the request of the
responder that sent it; and for each returned request the library takes at most one reply. -/
theorem replies_go_to_their_request {M : Type} {p : Replier}
    {trace : List (Transition (State M × Replies M) (Action M ⊕ ResponderAction) (ReplyEvent M))}
    {s : State M × Replies M} (run : (replier M p).Run trace s) :
    (∀ responder message answers, .received responder message answers ∈ events trace →
      answers = some message.inner) ∧
      (s.1.status = .live → s.2.holding.responder = true →
        ∃ message answers, .received s.2.returned message answers ∈ events trace ∧
          s.2.current = some message.inner) ∧
      (∀ responder request, .routed responder request ∈ events trace →
        ∃ message answers, .received responder message answers ∈ events trace ∧
          request = some message.inner) ∧
      ((events trace).filterMap ReplyEvent.routedFor).Nodup := by
  obtain ⟨inv, answered⟩ := replying_of_run run
  refine ⟨answered.received, fun live responder => ?_, answered.routed, answered.once⟩
  obtain ⟨agrees, message, answers, member, known⟩ := (inv live).answers responder
  exact ⟨message, answers, member, agrees.trans known⟩

/-- A request comes out of `recovered_msg`; its reply fails once, is retried and sent. -/
theorem replies_go_to_recovered_request :
    ∃ (trace : List (Transition (State Nat × Replies Nat) (Action Nat ⊕ ResponderAction)
        (ReplyEvent Nat))) (s : State Nat × Replies Nat),
      (replier Nat .Rep0).Run trace s ∧
        events trace = [.received 1 ⟨5, 0⟩ (some 5), .replyFailed 1 (.TimedOut, ⟨9, 0⟩),
          .routed 1 (some 5), .replied 1] ∧
        (∃ message answers, .received 1 message answers ∈ events trace ∧
          some 5 = some message.inner) ∧
        ((events trace).filterMap ReplyEvent.routedFor).Nodup := by
  have run := run_of_replay (M := replier Nat .Rep0)
    [.inl .recvMsg, .inl .poll, .inl .run, .inl (.complete (.received 5)), .inl .drop, .inl .run,
      .inl .callback, .inl .callbackReturn, .inl .run, .inl .recvMsg, .inl .poll,
      .inl (.sendMsg ⟨9, 4⟩), .inl .poll, .inl .run, .inl (.complete (.failed ⟨5, by decide⟩)),
      .inl .callback, .inl .callbackReturn, .inl .poll, .inl .run, .inl (.sendMsg ⟨9, 0⟩),
      .inl .poll, .inl .run, .inl (.complete (.sent true)), .inl .callback, .inl .callbackReturn,
      .inl .poll, .inl .run]
    rfl
  obtain ⟨_, _, routed, once⟩ := replies_go_to_their_request run
  exact ⟨_, _, run, rfl, routed 1 (some 5) (by decide), once⟩

end NngRs.Anng
