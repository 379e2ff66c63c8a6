/-
**From a request to its answer, between any number of requesters and repliers.**

Contexts of REQ0 and SURVEYOR0 ask, contexts of REP0 and RESPONDENT0 answer, in one program or in many.
Between them is the library. It hands a replier only copies of requests that it took, and a requester
only copies of answers that it took, each in the exchange that its context is in; it may lose them,
repeat them and hand one request to many. `exchange` is the exchange of a message that was handed over,
and `body` is what a copy has in common with the message that it is a copy of.

The watcher of a requester and that of a replier run for each party, with the messages that the library
took.

* `Move.inbound` — what a step returns was handed over before it or by it.
* `Exchanging.yields_returned`, `observe_current` — the same for a handle, and for a responder.
* `Conversing` — the invariant: the invariants of all parties, and how each message got where it is.
* `answers_come_from_their_requests` — every answer that a requester yields was sent through the
  responder that came with a copy of its own request, in this order.
-/

import NngRs.Anng.Exchange
import NngRs.Anng.Reply
import NngRs.Machine.Parties

namespace NngRs.Anng

open NngRs.Sys EventMachine

/-! ## Where the messages of a context come from -/

section Inbound

variable {M : Type} {s s' : State M} {h : Handle} {act : Action M} {out : List (Event M)}

/-- A message that was handed over and not returned yet: in `recovered_msg`, or in the slot of a
receive. -/
def State.inbound (s : State M) (msg : M) : Prop :=
  (∃ message, s.endpoint.recoveredMsg = some message ∧ message.inner = msg) ∨
    ∃ point, s.future = .waiting .Received point ∧ s.endpoint.aio.aio.msg = some msg

/-- The message that a call returns. -/
def Event.returns : Event M → Option M
  | .recvReturned (.ok message) => some message.inner
  | .tryRecvReturned (.ok (some message)) => some message.inner
  | _ => none

def Event.delivers : Event M → Option M
  | .delivered msg => some msg
  | _ => none

def Event.consumes : Event M → Option M
  | .consumed msg => some msg
  | _ => none

theorem delivers_mem {msg : M} (delivered : .delivered msg ∈ out) : msg ∈ out.filterMap Event.delivers :=
  List.mem_filterMap.mpr ⟨_, delivered, rfl⟩

/-- A context that receives nothing has only what is in `recovered_msg`. -/
theorem inbound_of_recovered {msg : M} (held : s'.inbound msg)
    (recovered : s'.endpoint.recoveredMsg = s.endpoint.recoveredMsg)
    (elsewhere : ∀ point, s'.future ≠ .waiting .Received point) : s.inbound msg := by
  rcases held with ⟨message, held, same⟩ | ⟨point, live, -⟩
  · exact .inl ⟨message, recovered ▸ held, same⟩
  · exact absurd live (elsewhere point)

/-- **Whatever a context holds for its caller was handed over to it.** -/
theorem Move.inbound (move : Move h s act s' out) {msg : M} (held : s'.inbound msg) :
    s.inbound msg ∨ .delivered msg ∈ out := by
  cases move with
  | sendMsg | recvMsg | sendStart | dropSendNew | dropRecvNew | sendOk | sendFailed | recvOk
  | recvFailed | sendDroppedOk | sendDroppedFailed | recvDroppedFailed =>
    exact .inl (inbound_of_recovered held rfl fun _ live => nomatch live)
  | tryReceived | tryRefused | tryPanicked => exact .inl held
  | tryRecovered returned message free | close free =>
    rcases held with ⟨_, held, _⟩ | ⟨_, live, _⟩
    · cases held
    · exact nomatch free.symm.trans live
  | recvRecovered =>
    rcases held with ⟨_, held, _⟩ | ⟨_, live, _⟩
    · cases held
    · cases live
  | recvStart live vacant =>
    rcases held with ⟨message, held, same⟩ | ⟨_, _, held⟩
    · exact .inl (.inl ⟨message, held, same⟩)
    · cases held
  | turn _ implication point point' _ live =>
    rcases held with ⟨message, held, same⟩ | ⟨_, live', held⟩
    · exact .inl (.inl ⟨message, held, same⟩)
    · cases live'
      exact .inl (.inr ⟨point, live, held⟩)
  | recvDroppedOk msg live _ slot =>
    rcases held with ⟨_, held, rfl⟩ | ⟨_, live', _⟩
    · cases held
      exact .inl (.inr ⟨_, live, slot⟩)
    · cases live'
  | completeSent point msg stale live =>
    rcases held with ⟨message, held, same⟩ | ⟨_, live', _⟩
    · exact .inl (.inl ⟨message, held, same⟩)
    · exact nomatch live.symm.trans live'
  | completeReceived point msg live =>
    rcases held with ⟨message, held, same⟩ | ⟨_, _, held⟩
    · exact .inl (.inl ⟨message, held, same⟩)
    · cases held
      exact .inr (List.mem_singleton.mpr rfl)
  | completeFailed | callbackReturn =>
    exact .inl held
  | callback implication point live =>
    rcases held with ⟨message, held, same⟩ | ⟨_, live', held⟩
    · exact .inl (.inl ⟨message, held, same⟩)
    · cases live'
      exact .inl (.inr ⟨point, live, held⟩)

/-- **What a call returns was handed over.** -/
theorem Move.returned (move : Move h s act s' out) {event : Event M} (member : event ∈ out) {msg : M}
    (returns : event.returns = some msg) : s.inbound msg ∨ .delivered msg ∈ out := by
  cases move with
  | tryRecovered returned message free held =>
    cases List.mem_singleton.mp member
    cases returns
    exact .inl (.inl ⟨message, held, rfl⟩)
  | recvRecovered message live held =>
    cases List.mem_singleton.mp member
    cases returns
    exact .inl (.inl ⟨message, held, rfl⟩)
  | recvOk msg live _ _ held =>
    cases List.mem_singleton.mp member
    cases returns
    exact .inl (.inr ⟨_, live, held⟩)
  | tryReceived msg =>
    refine .inr ?_
    simp only [List.mem_cons, List.not_mem_nil, or_false] at member
    rcases member with rfl | rfl | rfl <;> cases returns
    exact List.mem_cons_of_mem _ (List.mem_cons_self ..)
  | tryRefused _ result _ _ empty =>
    simp only [List.mem_cons, List.not_mem_nil, or_false] at member
    rcases member with rfl | rfl
    · cases returns
    · match result, empty with
      | .ok (some msg), empty => exact absurd rfl (empty msg)
      | .ok none, _ | .error _, _ => cases returns
  | close =>
    cases recovered : s.endpoint.recoveredMsg with
    | none =>
      rw [recovered] at member
      cases member
    | some message =>
      rw [recovered] at member
      cases List.mem_singleton.mp member
      cases returns
  | sendMsg | recvMsg | turn | completeFailed | callback | callbackReturn => cases member
  | sendStart | recvStart | sendOk | sendFailed | recvFailed | dropRecvNew | sendDroppedOk
  | recvDroppedOk | recvDroppedFailed | completeSent | completeReceived =>
    cases List.mem_singleton.mp member
    cases returns
  | dropSendNew | sendDroppedFailed | tryPanicked =>
    simp only [List.mem_cons, List.not_mem_nil, or_false] at member
    rcases member with rfl | rfl <;> cases returns

end Inbound

/-! ## What the two ends see of them -/

section Requester

variable {M : Type} {p : Requester} {answers : M → Nat} {s s' : State M} {g g' : Exchanges}
  {act : Action M} {out : List (Event M)} {shown : List (ExchangeEvent M)}

/-- What a handle yields is what its context returned, in the last exchange or an earlier one. -/
def Yields (answers : M → Nat) (sends : Nat) (out : List (Event M)) (shown : List (ExchangeEvent M)) :
    Prop :=
  ∀ event ∈ shown, ∀ exchange message, event.yields = some (exchange, message) →
    exchange = sends ∧ answers message.inner ≤ exchange ∧
      ∃ e ∈ out, e.returns = some message.inner

theorem yields_nil : Yields answers g.sends out [] := fun _ member => nomatch member

theorem yields_silent {event : ExchangeEvent M} (silent : event.yields = none) :
    Yields answers g.sends out [event] := by
  intro event' member exchange message yields
  cases List.mem_singleton.mp member
  cases silent.symm.trans yields

theorem yields_singleton {event : ExchangeEvent M} {message : Message M} {e : Event M}
    (yields : event.yields = some (g.handle, message)) (current : g.handle = g.sends)
    (past : answers message.inner ≤ g.sends) (member : e ∈ out)
    (returns : e.returns = some message.inner) : Yields answers g.sends out [event] := by
  intro event' shown exchange message' yields'
  cases List.mem_singleton.mp shown
  cases yields.symm.trans yields'
  exact ⟨current, current ▸ past, e, member, returns⟩

/-- **A handle yields what its context returns**, and its number is that of the last exchange. -/
theorem Exchanging.yields_returned (inv : Exchanging p answers s g) (move : Move .Context s act s' out)
    (reacted : (exchanges p answers).react g ⟨s, act, s', out⟩ = some (g', shown)) :
    Yields answers g.sends out shown := by
  obtain ⟨fits, current, fresh, stale, filled, slot, sent, once⟩ := inv
  have past (message : Message M) (held : s.endpoint.recoveredMsg = some message) :
      answers message.inner ≤ g.sends := by
    cases leftover : g.leftover with
    | true => exact (stale message held leftover).le
    | false => exact (fresh message held leftover).le
  cases move with
  | turn _ implication point point' thread live =>
    rcases thread with rfl | rfl | rfl <;> cases reacted <;> exact yields_nil
  | callback | callbackReturn | completeFailed | completeSent | sendStart | recvStart | dropSendNew
  | dropRecvNew | sendDroppedOk | sendDroppedFailed | recvDroppedOk | recvDroppedFailed =>
    cases reacted
    exact yields_nil
  | completeReceived =>
    simp only [exchanges, Requester.call, observe_singleton, Exchanges.see] at reacted
    split_ifs at reacted
    cases reacted
    exact yields_nil
  | sendMsg | recvMsg =>
    simp only [exchanges, Requester.call] at reacted
    split_ifs at reacted
    cases reacted
    exact yields_nil
  | close =>
    simp only [exchanges, Requester.call] at reacted
    split_ifs at reacted
    cases recovered : s.endpoint.recoveredMsg <;> rw [recovered] at reacted <;> cases reacted <;>
      exact yields_nil
  | tryRecovered returned message free recovered =>
    simp only [exchanges, Requester.call] at reacted
    split_ifs at reacted with holding
    cases reacted
    exact yields_singleton rfl (current (.inl holding.1)) (past message recovered)
      (List.mem_singleton.mpr rfl) rfl
  | tryReceived msg free vacant =>
    simp only [exchanges, Requester.call] at reacted
    split_ifs at reacted with holding
    simp only [observe, Exchanges.see] at reacted
    split_ifs at reacted with answer
    · cases reacted
      refine yields_singleton (e := .tryRecvReturned (.ok (some (.fromRawUnchecked msg)))) rfl
        (current (.inl holding.1)) answer.le ?_ rfl
      exact List.mem_cons_of_mem _ (List.mem_cons_of_mem _ (List.mem_singleton.mpr rfl))
    · cases reacted
  | tryRefused _ result free vacant nothing =>
    simp only [exchanges, Requester.call] at reacted
    split_ifs at reacted with holding
    rcases result with e | _ | msg
    · cases reacted
      exact yields_silent (tryNext_empty nothing _)
    · cases reacted
      exact yields_silent (tryNext_empty nothing _)
    · exact absurd rfl (nothing msg)
  | tryPanicked =>
    simp only [exchanges, Requester.call] at reacted
    split_ifs at reacted
    cases reacted
    exact yields_nil
  | recvRecovered message live recovered =>
    rw [live] at fits
    cases reacted
    exact yields_singleton (received_ok p g.handle message) (current (.inr fits))
      (past message recovered) (List.mem_singleton.mpr rfl) rfl
  | recvOk msg live _ _ held =>
    have answer := slot _ live msg held
    rw [live] at fits
    cases reacted
    exact yields_singleton (received_ok p _ _) (current (.inr fits)) answer.le
      (List.mem_singleton.mpr rfl) rfl
  | sendOk | sendFailed =>
    cases reacted
    exact yields_silent rfl
  | recvFailed e =>
    cases reacted
    exact yields_silent (received_error p _ _)

end Requester

section Replier

variable {M : Type} {p : Replier} {s s' : State M} {act : Action M}

/-- Events with a request that the library handed over before or among these. -/
def FromLibrary (current : Option M) (out : List (Event M)) (answers : Option M) : Prop :=
  answers = current ∨ ∃ msg, .delivered msg ∈ out ∧ answers = some msg

/-- One event: what the library would answer changes only when it hands over a request. -/
theorem see_current {g g' : Replies M} {e : Event M} {shown : List (ReplyEvent M)}
    (seen : g.see p e = some (g', shown)) :
    FromLibrary g.current [e] g'.current ∧ ∀ responder message answers,
      .received responder message answers ∈ shown → answers = g.current := by
  have dropped (responder : Nat) (sent : Bool) (message : Message M) (answers : Option M) (r : Nat) :
      ReplyEvent.received r message answers ∉ p.dropped responder sent :=
    (quiet_dropped p responder sent).1 r message answers
  unfold Replies.see at seen
  split at seen
  case h_3 msg =>
    cases seen
    exact ⟨.inr ⟨msg, List.mem_singleton.mpr rfl, rfl⟩, fun _ _ _ member => nomatch member⟩
  case h_6 | h_8 =>
    cases seen
    refine ⟨.inl rfl, fun responder message answers member => ?_⟩
    cases List.mem_singleton.mp member
    rfl
  case h_11 =>
    split at seen <;> cases seen
    · exact ⟨.inl rfl, fun _ _ _ member => absurd member (dropped _ _ _ _ _)⟩
    · exact ⟨.inl rfl, fun _ _ _ member => nomatch member⟩
  all_goals
    cases seen
    exact ⟨.inl rfl, by simp⟩

/-- **What the library would answer is what it handed over.** -/
theorem observe_current : ∀ {out : List (Event M)} {g g' : Replies M} {shown : List (ReplyEvent M)},
    observe (Replies.see p) g out = some (g', shown) → FromLibrary g.current out g'.current ∧
      ∀ responder message answers, .received responder message answers ∈ shown →
        FromLibrary g.current out answers := by
  intro out
  induction out with
  | nil =>
    intro g g' shown observed
    cases observed
    exact ⟨.inl rfl, fun _ _ _ member => nomatch member⟩
  | cons e rest ih =>
    intro g g' shown observed
    rw [observe] at observed
    cases seen : g.see p e with
    | none =>
      rw [seen] at observed
      cases observed
    | some first =>
      obtain ⟨middle, before⟩ := first
      rw [seen] at observed
      obtain ⟨⟨last, after⟩, observed', same⟩ := Option.map_eq_some_iff.mp observed
      cases same
      obtain ⟨moved, received⟩ := see_current seen
      obtain ⟨moved', received'⟩ := ih observed'
      -- what is known of the rest, from the state before the first event
      have earlier {answers : Option M} (known : FromLibrary middle.current rest answers) :
          FromLibrary g.current (e :: rest) answers := by
        rcases known with rfl | ⟨msg, member, same⟩
        · rcases moved with same | ⟨msg, member, same⟩
          · exact .inl same
          · cases List.mem_singleton.mp member
            exact .inr ⟨msg, List.mem_cons_self .., same⟩
        · exact .inr ⟨msg, List.mem_cons_of_mem _ member, same⟩
      refine ⟨earlier moved', fun responder message answers member => ?_⟩
      rcases List.mem_append.mp member with member | member
      · exact .inl (received responder message answers member)
      · exact earlier (received' responder message answers member)

/-- **The library takes a reply for the request of its responder.** -/
theorem Replying.consumes {history : List (ReplyEvent M)} {g : Replies M} {out : List (Event M)}
    (inv : Replying history s g) (move : Move .Context s act s' out) {msg : M}
    (consumed : .consumed msg ∈ out) : ∃ message answers,
      .received g.returned message answers ∈ history ∧ g.target = some message.inner := by
  cases move with
  | completeSent point _ _ live =>
    have fits := inv.fits
    rw [live] at fits
    obtain ⟨sent, replying⟩ := Holding.fits_sending fits
    have responder : g.holding.responder = true := by
      rw [replying]
      rfl
    obtain ⟨_, message, answers, returned, known⟩ := inv.answers responder
    exact ⟨message, answers, returned, (inv.target point live).trans known⟩
  | close =>
    cases recovered : s.endpoint.recoveredMsg <;> rw [recovered] at consumed <;>
      simp only [dropped_none, dropped_some, List.mem_cons, List.not_mem_nil, reduceCtorEq,
        or_self] at consumed
  | _ => simp at consumed

end Replier

/-! ## Requesters and repliers -/

/-- What a context is used for. -/
inductive Part
  | requester (p : Requester)
  | replier (p : Replier)
deriving DecidableEq, Repr

/-- What the watcher knows of all parties, and the messages that the library took. -/
structure Conversations (M : Type) where
  requesters : Nat → Exchanges
  repliers : Nat → Replies M
  /-- The requests, with the requester and the number of the exchange. -/
  requests : List ((Nat × Nat) × M)
  /-- The answers, with the exchange of the request that the library answers with them. -/
  answers : List ((Nat × Nat) × M)

inductive ConversationEvent (M : Type)
  /-- The library took the request of this exchange. -/
  | asked (party exchange : Nat) (msg : M)
  | requester (party : Nat) (event : ExchangeEvent M)
  /-- The library took the answer sent through this responder. -/
  | answered (party responder : Nat) (msg : M)
  | replier (party : Nat) (event : ReplyEvent M)
deriving DecidableEq

inductive ConversationAction
  | dropHandle (party : Nat)
  | dropResponder (party : Nat)
deriving DecidableEq, Repr

section Definitions

variable {M β : Type} [DecidableEq β] (exchange : M → Nat × Nat) (body : M → β)

/-- The library has taken a message that this is a copy of, in the same exchange. -/
def Copies (taken : List ((Nat × Nat) × M)) (msg : M) : Prop :=
  ∃ sent ∈ taken, sent.1 = exchange msg ∧ body sent.2 = body msg

instance (taken : List ((Nat × Nat) × M)) (msg : M) : Decidable (Copies exchange body taken msg) :=
  inferInstanceAs (Decidable (∃ sent ∈ taken, _))

/-- A step of a requester. -/
def Conversations.request (g : Conversations M) (i : Nat) (p : Requester)
    (t : Transition (State M) (Action M) (Event M)) :
    Option (Conversations M × List (ConversationEvent M)) :=
  if ∀ msg ∈ t.out.filterMap Event.delivers, (exchange msg).1 = i ∧
      Copies exchange body g.answers msg then
    ((exchanges p fun msg => (exchange msg).2).react (g.requesters i) t).map fun seen =>
      let sends := (g.requesters i).sends
      let taken := t.out.filterMap Event.consumes
      ({ g with
          requesters := Function.update g.requesters i seen.1
          requests := taken.map (((i, sends), ·)) ++ g.requests },
        taken.map (.asked i sends) ++ seen.2.map (.requester i))
  else none

/-- A step of a replier. -/
def Conversations.reply (g : Conversations M) (i : Nat) (p : Replier)
    (t : Transition (State M) (Action M) (Event M)) :
    Option (Conversations M × List (ConversationEvent M)) :=
  if ∀ msg ∈ t.out.filterMap Event.delivers, Copies exchange body g.requests msg then
    ((replies M p).react (g.repliers i) t).map fun seen =>
      let own := g.repliers i
      let taken := t.out.filterMap Event.consumes
      ({ g with
          repliers := Function.update g.repliers i seen.1
          answers := (taken.filterMap fun msg => own.target.map fun request =>
            (exchange request, msg)) ++ g.answers },
        taken.map (.answered i own.returned) ++ seen.2.map (.replier i))
  else none

/-- The watcher of all parties. -/
def conversations : Watcher (List (Part × State M)) (PartyAction Part (Action M)) (Nat × Event M)
    (Conversations M) ConversationAction (ConversationEvent M) where
  start := ⟨fun _ => (exchanges .Req0 fun _ : M => 0).start, fun _ => (replies M .Rep0).start, [], []⟩
  react g t :=
    match t.act with
    | .join _ => some (g, [])
    | .act i a =>
      match t.pre[i]?, t.post[i]? with
      | some (.requester p, s), some (_, s') =>
        g.request exchange body i p ⟨s, a, s', t.out.map Prod.snd⟩
      | some (.replier p, s), some (_, s') =>
        g.reply exchange body i p ⟨s, a, s', t.out.map Prod.snd⟩
      | _, _ => none
  own all g
    | .dropHandle i =>
      match all[i]? with
      | some (.requester p, s) =>
        ((exchanges p fun msg => (exchange msg).2).own s (g.requesters i) .dropHandle).map fun seen =>
          ({ g with requesters := Function.update g.requesters i seen.1 }, seen.2.map (.requester i))
      | _ => none
    | .dropResponder i =>
      match all[i]? with
      | some (.replier p, s) =>
        ((replies M p).own s (g.repliers i) .dropResponder).map fun seen =>
          ({ g with repliers := Function.update g.repliers i seen.1 }, seen.2.map (.replier i))
      | _ => none

/-- Requesters and repliers with the library between them. -/
abbrev conversation :=
  (parties fun _ : Part => machine M .Context).watched (conversations exchange body)

/-- A requester receives over a message that it recovered in an earlier exchange. -/
def ConversesLeftover (t : Transition (List (Part × State M) × Conversations M)
    (PartyAction Part (Action M) ⊕ ConversationAction) (ConversationEvent M)) : Prop :=
  match t.act with
  | .inl (.act i a) =>
    match t.pre.1[i]? with
    | some (.requester _, s) => Receives s.future (.inl a) = true ∧
        s.endpoint.recoveredMsg.isSome = true ∧ (t.pre.2.requesters i).leftover = true
    | _ => False
  | _ => False

instance (t : Transition (List (Part × State M) × Conversations M)
    (PartyAction Part (Action M) ⊕ ConversationAction) (ConversationEvent M)) :
    Decidable (ConversesLeftover t) := by
  unfold ConversesLeftover
  split
  · split <;> infer_instance
  · infer_instance

end Definitions

/-! ### How a message got where it is -/

section History

variable {M β : Type} {exchange : M → Nat × Nat} {body : M → β}

/-- A message is a copy of a request that the library took. -/
def Requested (exchange : M → Nat × Nat) (body : M → β) (history : List (ConversationEvent M))
    (msg : M) : Prop :=
  ∃ request, .asked (exchange msg).1 (exchange msg).2 request ∈ history ∧ body request = body msg

/-- A request was asked before it was handed out. -/
def HandedOut (exchange : M → Nat × Nat) (body : M → β) (history : List (ConversationEvent M))
    (j responder : Nat) (message : Message M) (answers : Option M) : Prop :=
  ∃ request, [.asked (exchange message.inner).1 (exchange message.inner).2 request,
      .replier j (.received responder message answers)].Sublist history ∧
    body request = body message.inner

/-- An answer was sent through the responder of a request of this exchange. -/
def AnsweredIn (body : M → β) (history : List (ConversationEvent M)) (x : Nat × Nat) (answer : M) :
    Prop :=
  ∃ request j responder message answers,
    [.asked x.1 x.2 request, .replier j (.received responder message answers),
      .answered j responder answer].Sublist history ∧
    body request = body message.inner

/-- A message is a copy of an answer to a request of this requester. -/
def Conversed (exchange : M → Nat × Nat) (body : M → β) (history : List (ConversationEvent M))
    (i : Nat) (msg : M) : Prop :=
  (exchange msg).1 = i ∧
    ∃ answer, AnsweredIn body history (exchange msg) answer ∧ body answer = body msg

/-- **From a request to its answer**, in the order in which it happened. -/
def Told (strict : Prop) (body : M → β) (history : List (ConversationEvent M)) (i : Nat)
    (event : ExchangeEvent M) (x : Nat) (message : Message M) : Prop :=
  ∃ k ≤ x, (strict → k = x) ∧ ∃ request j responder message' answers answer,
    [.asked i k request, .replier j (.received responder message' answers),
      .answered j responder answer, .requester i event].Sublist history ∧
    body request = body message'.inner ∧ body answer = body message.inner

/-- What one party showed as a replier. -/
def repliesOf (j : Nat) (history : List (ConversationEvent M)) : List (ReplyEvent M) :=
  history.filterMap fun
    | .replier party event => if party = j then some event else none
    | _ => none

variable {history shown : List (ConversationEvent M)} {i j : Nat} {msg : M}

theorem Requested.more (known : Requested exchange body history msg) :
    Requested exchange body (history ++ shown) msg := by
  obtain ⟨request, member, same⟩ := known
  exact ⟨request, List.mem_append_left _ member, same⟩

theorem HandedOut.more {responder : Nat} {message : Message M} {answers : Option M}
    (known : HandedOut exchange body history j responder message answers) :
    HandedOut exchange body (history ++ shown) j responder message answers := by
  obtain ⟨request, order, same⟩ := known
  exact ⟨request, order.trans (List.sublist_append_left ..), same⟩

theorem AnsweredIn.more {x : Nat × Nat} (known : AnsweredIn body history x msg) :
    AnsweredIn body (history ++ shown) x msg := by
  obtain ⟨request, j, responder, message, answers, order, same⟩ := known
  exact ⟨request, j, responder, message, answers, order.trans (List.sublist_append_left ..), same⟩

theorem Conversed.more (known : Conversed exchange body history i msg) :
    Conversed exchange body (history ++ shown) i msg := by
  obtain ⟨own, answer, given, same⟩ := known
  exact ⟨own, answer, given.more, same⟩

theorem Told.more {strict : Prop} {event : ExchangeEvent M} {x : Nat} {message : Message M}
    (told : Told strict body history i event x message) :
    Told strict body (history ++ shown) i event x message := by
  obtain ⟨k, past, same, request, j, responder, message', answers, answer, order, bodies⟩ := told
  exact ⟨k, past, same, request, j, responder, message', answers, answer,
    order.trans (List.sublist_append_left ..), bodies⟩

/-- One more event, after some that happened before. -/
theorem sublist_then {before : List (ConversationEvent M)} {event : ConversationEvent M}
    (order : before.Sublist history) (member : event ∈ shown) :
    (before ++ [event]).Sublist (history ++ shown) :=
  order.append (List.singleton_sublist.mpr member)

theorem repliesOf_append (j : Nat) : repliesOf j (history ++ shown) =
    repliesOf j history ++ repliesOf j shown := List.filterMap_append

theorem mem_repliesOf {event : ReplyEvent M} (member : event ∈ repliesOf j history) :
    .replier j event ∈ history := by
  obtain ⟨shown, there, same⟩ := List.mem_filterMap.mp member
  cases shown with
  | replier party event' =>
    obtain ⟨own, same⟩ := Option.ite_none_right_eq_some.mp same
    have same : event' = event := Option.some.inj same
    rw [← own, ← same]
    exact there
  | _ => cases same

/-- What a party shows as a replier. -/
theorem repliesOf_own (taken : List M) (responder : Nat) (events : List (ReplyEvent M)) :
    repliesOf i (taken.map (.answered i responder) ++ events.map (.replier i)) = events := by
  rw [repliesOf_append]
  have answered : repliesOf i (taken.map (.answered i responder)) = [] := by
    rw [repliesOf, List.filterMap_map]
    exact List.filterMap_eq_nil_iff.mpr fun _ _ => rfl
  have replied : repliesOf i (events.map (.replier i)) = events := by
    rw [repliesOf, List.filterMap_map]
    refine (List.filterMap_congr fun event _ => ?_).trans List.filterMap_some
    exact if_pos rfl
  rw [answered, replied, List.nil_append]

/-- The other parties show nothing in its step. -/
theorem repliesOf_other (other : j ≠ i) (taken : List M) (responder : Nat)
    (events : List (ReplyEvent M)) :
    repliesOf j (taken.map (.answered i responder) ++ events.map (.replier i)) = [] := by
  refine List.filterMap_eq_nil_iff.mpr fun event member => ?_
  rcases List.mem_append.mp member with member | member
  · obtain ⟨_, _, rfl⟩ := List.mem_map.mp member
    rfl
  · obtain ⟨_, _, rfl⟩ := List.mem_map.mp member
    exact if_neg other.symm

theorem repliesOf_requester (j : Nat) (taken : List M) (sends : Nat)
    (events : List (ExchangeEvent M)) :
    repliesOf j (taken.map (.asked i sends) ++ events.map (.requester i)) = [] := by
  refine List.filterMap_eq_nil_iff.mpr fun event member => ?_
  rcases List.mem_append.mp member with member | member
  · obtain ⟨_, _, rfl⟩ := List.mem_map.mp member
    rfl
  · obtain ⟨_, _, rfl⟩ := List.mem_map.mp member
    rfl

end History

/-! ## Runs -/

section Runs

variable {M β : Type} [DecidableEq β] {exchange : M → Nat × Nat} {body : M → β} {strict : Prop}

/-- **The invariant of requesters and repliers**, and how each message got where it is. -/
structure Conversing (exchange : M → Nat × Nat) (body : M → β) (strict : Prop)
    (history : List (ConversationEvent M)) (s : List (Part × State M) × Conversations M) : Prop where
  requester : ∀ i p own, s.1[i]? = some (.requester p, own) → own.status = .live →
    Exchanging p (fun msg => (exchange msg).2) own (s.2.requesters i) ∧
      ∀ msg, own.inbound msg → Conversed exchange body history i msg
  replier : ∀ i p own, s.1[i]? = some (.replier p, own) → own.status = .live →
    Replying (repliesOf i history) own (s.2.repliers i) ∧
      ∀ msg, (s.2.repliers i).current = some msg → Requested exchange body history msg
  absent : ∀ i, s.1[i]? = none → s.2.requesters i = ⟨0, 0, .idle, false⟩ ∧
    s.2.repliers i = ⟨none, 0, none, none, .listening⟩ ∧ repliesOf i history = []
  requests : ∀ sent ∈ s.2.requests, .asked sent.1.1 sent.1.2 sent.2 ∈ history
  answers : ∀ sent ∈ s.2.answers, AnsweredIn body history sent.1 sent.2
  handedOut : ∀ j responder message answers,
    .replier j (.received responder message answers) ∈ history →
      HandedOut exchange body history j responder message answers
  told : ∀ i event x message, .requester i event ∈ history → event.yields = some (x, message) →
    Told strict body history i event x message

variable {history shown : List (ConversationEvent M)} {all : List (Part × State M)}
  {g g' : Conversations M} {i : Nat} {part : Part} {own own' : State M}

omit [DecidableEq β] in
/-- A step of one party: what is left to check is what it shows. -/
theorem Conversing.frame (kept : Conversing exchange body strict history (all, g))
    (found : all[i]? = some (part, own))
    (others : ∀ j ≠ i, g'.requesters j = g.requesters j ∧ g'.repliers j = g.repliers j ∧
      repliesOf j shown = [])
    (requester : ∀ p, part = .requester p → own'.status = .live →
      Exchanging p (fun msg => (exchange msg).2) own' (g'.requesters i) ∧
        ∀ msg, own'.inbound msg → Conversed exchange body (history ++ shown) i msg)
    (replier : ∀ p, part = .replier p → own'.status = .live →
      Replying (repliesOf i (history ++ shown)) own' (g'.repliers i) ∧
        ∀ msg, (g'.repliers i).current = some msg → Requested exchange body (history ++ shown) msg)
    (requests : ∀ sent ∈ g'.requests, sent ∈ g.requests ∨ .asked sent.1.1 sent.1.2 sent.2 ∈ shown)
    (answers : ∀ sent ∈ g'.answers, sent ∈ g.answers ∨
      AnsweredIn body (history ++ shown) sent.1 sent.2)
    (handedOut : ∀ j responder message answers,
      .replier j (.received responder message answers) ∈ shown →
        HandedOut exchange body (history ++ shown) j responder message answers)
    (told : ∀ j event x message, .requester j event ∈ shown → event.yields = some (x, message) →
      Told strict body (history ++ shown) j event x message) :
    Conversing exchange body strict (history ++ shown) (all.set i (part, own'), g') := by
  constructor
  · intro j p at' there live
    rcases getElem?_set_cases found there with ⟨rfl, same⟩ | ⟨other, there⟩
    · cases same
      exact requester p rfl live
    · obtain ⟨inv, inbound⟩ := kept.requester j p at' there live
      rw [(others j other).1]
      exact ⟨inv, fun msg held => (inbound msg held).more⟩
  · intro j p at' there live
    rcases getElem?_set_cases found there with ⟨rfl, same⟩ | ⟨other, there⟩
    · cases same
      exact replier p rfl live
    · obtain ⟨inv, current⟩ := kept.replier j p at' there live
      obtain ⟨-, same, silent⟩ := others j other
      rw [repliesOf_append, silent, List.append_nil, same]
      exact ⟨inv, fun msg held => (current msg held).more⟩
  · intro j nobody
    have before : all[j]? = none := by
      rw [List.getElem?_eq_none_iff] at nobody ⊢
      rwa [List.length_set] at nobody
    have other : j ≠ i := by
      rintro rfl
      cases before.symm.trans found
    obtain ⟨exchanges, same, silent⟩ := others j other
    obtain ⟨idle, listening, nothing⟩ := kept.absent j before
    rw [exchanges, same, repliesOf_append, silent, nothing]
    exact ⟨idle, listening, rfl⟩
  · intro sent member
    rcases requests sent member with old | new
    · exact List.mem_append_left _ (kept.requests sent old)
    · exact List.mem_append_right _ new
  · intro sent member
    rcases answers sent member with old | new
    · exact (kept.answers sent old).more
    · exact new
  · intro j responder message answers member
    rcases List.mem_append.mp member with old | new
    · exact (kept.handedOut j responder message answers old).more
    · exact handedOut j responder message answers new
  · intro j event x message member yields
    rcases List.mem_append.mp member with old | new
    · exact (kept.told j event x message old yields).more
    · exact told j event x message new yields

omit [DecidableEq β] in
/-- One more party. -/
theorem Conversing.join (kept : Conversing exchange body strict history (all, g)) (part : Part) :
    Conversing exchange body strict history (all ++ [(part, (machine M .Context).start)], g) := by
  obtain ⟨idle, listening, nothing⟩ := kept.absent all.length (List.getElem?_eq_none le_rfl)
  have nobody (msg : M) : ¬(machine M .Context).start.inbound msg := by
    rintro (⟨_, held, _⟩ | ⟨_, live, _⟩)
    · cases held
    · cases live
  refine ⟨?_, ?_, ?_, kept.requests, kept.answers, kept.handedOut, kept.told⟩
  · intro j p own there live
    rcases getElem?_concat_cases there with ⟨rfl, new⟩ | ⟨-, there⟩
    · cases new
      dsimp only
      rw [idle]
      exact ⟨exchanging_start .Context p _, fun msg held => absurd held (nobody msg)⟩
    · exact kept.requester j p own there live
  · intro j p own there live
    rcases getElem?_concat_cases there with ⟨rfl, new⟩ | ⟨-, there⟩
    · cases new
      dsimp only
      rw [listening, nothing]
      exact ⟨replying_start p, nofun⟩
    · exact kept.replier j p own there live
  · intro j there
    refine kept.absent j (List.getElem?_eq_none ?_)
    have bound := List.getElem?_eq_none_iff.mp there
    rw [List.length_append] at bound
    exact (Nat.le_add_right ..).trans bound

/-- **A step of a requester keeps the invariant.** -/
theorem Conversing.request {p : Requester} {a : Action M} {out : List (Event M)}
    (kept : Conversing exchange body strict history (all, g))
    (found : all[i]? = some (.requester p, own)) (sound : Sound own)
    (moved : step .Context own a = some (own', out))
    (reacted : g.request exchange body i p ⟨own, a, own', out⟩ = some (g', shown))
    (strictly : strict → ¬(Receives own.future (.inl a) = true ∧
      own.endpoint.recoveredMsg.isSome = true ∧ (g.requesters i).leftover = true)) :
    Conversing exchange body strict (history ++ shown) (all.set i (.requester p, own'), g') := by
  obtain ⟨live, move⟩ := step_move sound moved
  obtain ⟨admitted, both⟩ := Option.ite_none_right_eq_some.mp reacted
  obtain ⟨⟨seen, events⟩, reacted', same⟩ := Option.map_eq_some_iff.mp both
  cases same
  obtain ⟨inv, inbound⟩ := kept.requester i p own found live
  have conversed (msg : M) (known : own.inbound msg ∨ .delivered msg ∈ out) :
      Conversed exchange body history i msg := by
    rcases known with held | delivered
    · exact inbound msg held
    · obtain ⟨mine, sent, member, same, copy⟩ := admitted msg (delivers_mem delivered)
      exact ⟨mine, sent.2, same ▸ kept.answers sent member, copy⟩
  refine kept.frame found (fun j other => ?_) (fun q same open' => ?_) (fun q => nofun) ?_
    (fun sent member => .inl member) (fun j responder message answers member => ?_) ?_
  · exact ⟨Function.update_of_ne other .., rfl, repliesOf_requester j ..⟩
  · cases same
    have kept' : a ≠ .close := by
      rintro rfl
      cases move with
      | close => cases open'
      | turn _ _ _ _ thread => simp at thread
    refine ⟨?_, fun msg held => (conversed msg (move.inbound held)).more⟩
    dsimp only
    rw [Function.update_self]
    exact inv.step sound move kept' reacted'
  · intro sent member
    rcases List.mem_append.mp member with new | old
    · obtain ⟨msg, taken, rfl⟩ := List.mem_map.mp new
      exact .inr (List.mem_append_left _ (List.mem_map_of_mem taken))
    · exact .inl old
  · exfalso
    rcases List.mem_append.mp member with member | member <;>
      · obtain ⟨_, _, same⟩ := List.mem_map.mp member
        cases same
  · intro j event x message member yields
    have there : j = i ∧ event ∈ events := by
      rcases List.mem_append.mp member with member | member
      · obtain ⟨_, _, same⟩ := List.mem_map.mp member
        cases same
      · obtain ⟨_, there, same⟩ := List.mem_map.mp member
        cases same
        exact ⟨rfl, there⟩
    obtain ⟨rfl, there⟩ := there
    obtain ⟨-, past, e, returned, returns⟩ :=
      inv.yields_returned move reacted' event there x message yields
    obtain ⟨mine, answer, ⟨request, j', responder, message', answers, order, asked⟩, copy⟩ :=
      conversed message.inner (move.returned returned returns)
    refine ⟨(exchange message.inner).2, past, fun strict => ?_, request, j', responder, message',
      answers, answer, ?_, asked, copy⟩
    · exact (inv.matched move reacted').mpr (strictly strict) event there x message yields
    · rw [mine] at order
      exact sublist_then order member

/-- **A step of a replier keeps the invariant.** -/
theorem Conversing.reply {p : Replier} {a : Action M} {out : List (Event M)}
    (kept : Conversing exchange body strict history (all, g))
    (found : all[i]? = some (.replier p, own)) (sound : Sound own)
    (moved : step .Context own a = some (own', out))
    (reacted : g.reply exchange body i p ⟨own, a, own', out⟩ = some (g', shown)) :
    Conversing exchange body strict (history ++ shown) (all.set i (.replier p, own'), g') := by
  obtain ⟨live, move⟩ := step_move sound moved
  obtain ⟨admitted, both⟩ := Option.ite_none_right_eq_some.mp reacted
  obtain ⟨⟨seen, events⟩, reacted', same⟩ := Option.map_eq_some_iff.mp both
  cases same
  obtain ⟨inv, current⟩ := kept.replier i p own found live
  obtain ⟨_, _, observed⟩ := replies_react reacted'
  obtain ⟨now, received⟩ := observe_current observed
  -- the library hands over only copies of requests that it took
  have requested {msg : M} {answers : Option M} (known : FromLibrary (g.repliers i).current out answers)
      (same : answers = some msg) : Requested exchange body history msg := by
    rcases known with before | ⟨other, delivered, equal⟩
    · exact current msg (before.symm.trans same)
    · cases equal.symm.trans same
      obtain ⟨sent, member, same, copy⟩ := admitted msg (delivers_mem delivered)
      exact ⟨sent.2, same ▸ kept.requests sent member, copy⟩
  have quiet (closed : a = .close) : events = [] := by
    subst closed
    cases move with
    | turn _ _ _ _ thread => simp at thread
    | close free =>
      cases recovered : own.endpoint.recoveredMsg <;> rw [recovered] at observed <;>
        cases observed <;> rfl
  have replying (open' : a ≠ .close) : Replying (repliesOf i history ++ events) own' seen :=
    inv.step sound move open' reacted'
  refine kept.frame found (fun j other => ?_) (fun q => nofun) (fun q same open' => ?_)
    (fun sent member => .inl member) ?_ ?_ ?_
  · exact ⟨rfl, Function.update_of_ne other .., repliesOf_other other ..⟩
  · have kept' : a ≠ .close := by
      rintro rfl
      cases move with
      | close => cases open'
      | turn _ _ _ _ thread => simp at thread
    dsimp only
    rw [repliesOf_append, repliesOf_own, Function.update_self]
    exact ⟨replying kept', fun msg same => (requested now same).more⟩
  · intro sent member
    rcases List.mem_append.mp member with new | old
    · right
      obtain ⟨msg, taken, same⟩ := List.mem_filterMap.mp new
      obtain ⟨e, shown, consumed⟩ := List.mem_filterMap.mp taken
      have consumed : e = .consumed msg := by
        cases e <;> cases consumed
        rfl
      subst consumed
      obtain ⟨message, answers, returned, target⟩ := inv.consumes move shown
      rw [target] at same
      cases same
      obtain ⟨request, order, copy⟩ := kept.handedOut i _ message answers (mem_repliesOf returned)
      refine ⟨request, i, _, message, answers, sublist_then order ?_, copy⟩
      exact List.mem_append_left _ (List.mem_map_of_mem taken)
    · exact .inl old
  · intro j responder message answers member
    have there : j = i ∧ .received responder message answers ∈ events := by
      rcases List.mem_append.mp member with member | member
      · obtain ⟨_, _, same⟩ := List.mem_map.mp member
        cases same
      · obtain ⟨_, there, same⟩ := List.mem_map.mp member
        cases same
        exact ⟨rfl, there⟩
    obtain ⟨rfl, there⟩ := there
    have open' : a ≠ .close := fun closed => by
      rw [quiet closed] at there
      cases there
    have same := (replying open').received responder message answers (List.mem_append_right _ there)
    obtain ⟨request, asked, copy⟩ := requested (received responder message answers there) same
    exact ⟨request, sublist_then (List.singleton_sublist.mpr asked) member, copy⟩
  · intro j event x message member
    exfalso
    rcases List.mem_append.mp member with member | member <;>
      · obtain ⟨_, _, same⟩ := List.mem_map.mp member
        cases same

omit [DecidableEq β] in
/-- The parties are as they were. -/
theorem Conversing.same (kept : Conversing exchange body strict history (all.set i (part, own), g))
    (found : all[i]? = some (part, own)) : Conversing exchange body strict history (all, g) := by
  obtain ⟨bound, here⟩ := List.getElem?_eq_some_iff.mp found
  rwa [← here, List.set_getElem_self] at kept

omit [DecidableEq β] in
/-- A handle is dropped. -/
theorem Conversing.dropHandle {p : Requester} {seen : Exchanges} {events : List (ExchangeEvent M)}
    (kept : Conversing exchange body strict history (all, g))
    (found : all[i]? = some (.requester p, own))
    (taken : (exchanges p fun msg => (exchange msg).2).own own (g.requesters i) .dropHandle =
      some (seen, events)) :
    Conversing exchange body strict (history ++ events.map (.requester i))
      (all, { g with requesters := Function.update g.requesters i seen }) := by
  have silent : events = [] := by
    simp only [exchanges] at taken
    split_ifs at taken
    cases taken
    rfl
  subst silent
  refine Conversing.same ?_ found
  refine kept.frame found (fun j other => ?_) (fun q same live => ?_) (fun q same => by cases same)
    (fun sent member => .inl member) (fun sent member => .inl member)
    (fun _ _ _ _ member => absurd member List.not_mem_nil)
    fun _ _ _ _ member => absurd member List.not_mem_nil
  · exact ⟨Function.update_of_ne other .., rfl, rfl⟩
  · cases same
    obtain ⟨inv, inbound⟩ := kept.requester i p own found live
    dsimp only
    rw [Function.update_self]
    exact ⟨(inv.dropHandle taken).1, fun msg held => (inbound msg held).more⟩

omit [DecidableEq β] in
/-- A responder is dropped. -/
theorem Conversing.dropResponder {p : Replier} {seen : Replies M} {events : List (ReplyEvent M)}
    (kept : Conversing exchange body strict history (all, g))
    (found : all[i]? = some (.replier p, own))
    (taken : (replies M p).own own (g.repliers i) .dropResponder = some (seen, events)) :
    Conversing exchange body strict (history ++ events.map (.replier i))
      (all, { g with repliers := Function.update g.repliers i seen }) := by
  have quiet : Quiet events ∧ seen.current = (g.repliers i).current := by
    simp only [replies] at taken
    split at taken
    · cases taken
      exact ⟨quiet_dropped .., rfl⟩
    · cases taken
  refine Conversing.same ?_ found
  refine kept.frame found (fun j other => ?_) (fun q same => by cases same) (fun q same live => ?_)
    (fun sent member => .inl member) (fun sent member => .inl member)
    (fun j responder message answers member => ?_) fun j event x message member => ?_
  · exact ⟨rfl, Function.update_of_ne other .., repliesOf_other other [] 0 events⟩
  · cases same
    obtain ⟨inv, current⟩ := kept.replier i p own found live
    dsimp only
    rw [Function.update_self, repliesOf_append,
      show repliesOf i (events.map (.replier i)) = events from repliesOf_own [] 0 events, quiet.2]
    exact ⟨inv.dropResponder taken, fun msg held => (current msg held).more⟩
  · obtain ⟨event, there, same⟩ := List.mem_map.mp member
    cases same
    exact absurd there (quiet.1.1 responder message answers)
  · obtain ⟨_, _, same⟩ := List.mem_map.mp member
    cases same

/-- **The invariant holds over every run.** -/
theorem conversing_of_run
    {trace : List (Transition (List (Part × State M) × Conversations M)
      (PartyAction Part (Action M) ⊕ ConversationAction) (ConversationEvent M))}
    {s : List (Part × State M) × Conversations M} (run : (conversation exchange body).Run trace s)
    (strictly : ∀ t ∈ trace, strict → ¬ConversesLeftover t) :
    Conversing exchange body strict (events trace) s := by
  have base (all : List (Part × State M))
      (reached : (parties fun _ : Part => machine M .Context).Reachable all) :
      ∀ p ∈ all, Sound p.2 := fun p member => sound_of_reachable (reached.party p member)
  refine run.watched_invariant base (fun t => strict → ¬ConversesLeftover t) ?_ ?_ ?_ strictly
  · refine ⟨fun i p own found => ?_, fun i p own found => ?_, fun i _ => ⟨rfl, rfl, rfl⟩, nofun,
      nofun, nofun, nofun⟩ <;> cases found
  · rintro history all g (part | ⟨i, a⟩) all' out g' shown sound - kept stepped reacted strictly
    · cases stepped
      cases reacted
      rw [List.append_nil]
      exact kept.join part
    · obtain ⟨part, own, own', out, found, moved, rfl, rfl⟩ := parties_act stepped
      have bound := (List.getElem?_eq_some_iff.mp found).choose
      have after : (all.set i (part, own'))[i]? = some (part, own') := List.getElem?_set_self bound
      have plain : (out.map (i, ·)).map Prod.snd = out := by
        rw [List.map_map]
        exact List.map_id out
      have here := sound _ (List.mem_of_getElem? found)
      simp only [conversations, found, after, plain] at reacted
      cases part with
      | requester p =>
        refine kept.request found here moved reacted fun strict => ?_
        have never := strictly strict
        simpa only [ConversesLeftover, found] using never
      | replier p => exact kept.reply found here moved reacted
  · rintro history all g (i | i) g' shown _ kept taken _ <;> simp only [conversations] at taken <;>
      split at taken
    · next p own found =>
      obtain ⟨⟨seen, events⟩, taken', same⟩ := Option.map_eq_some_iff.mp taken
      cases same
      exact kept.dropHandle found taken'
    · cases taken
    · next p own found =>
      obtain ⟨⟨seen, events⟩, taken', same⟩ := Option.map_eq_some_iff.mp taken
      cases same
      exact kept.dropResponder found taken'
    · cases taken

/-- **Every answer that a requester yields was sent through the responder that came with a copy of one
of its requests**, and the library took the request first, then handed it out, then took the answer.
The request is of the exchange that the requester yields the answer in, or of an earlier one; it is of
that one if the requesters never receive over a message that they recovered in an earlier exchange. -/
theorem answers_come_from_their_requests
    {trace : List (Transition (List (Part × State M) × Conversations M)
      (PartyAction Part (Action M) ⊕ ConversationAction) (ConversationEvent M))}
    {s : List (Part × State M) × Conversations M} (run : (conversation exchange body).Run trace s)
    {i x : Nat} {event : ExchangeEvent M} {message : Message M}
    (shown : .requester i event ∈ events trace) (yields : event.yields = some (x, message)) :
    ∃ k ≤ x, ((∀ t ∈ trace, ¬ConversesLeftover t) → k = x) ∧
      ∃ request j responder message' answers answer,
        [.asked i k request, .replier j (.received responder message' answers),
          .answered j responder answer, .requester i event].Sublist (events trace) ∧
        body request = body message'.inner ∧ body answer = body message.inner :=
  (conversing_of_run run fun t member never => never t member).told i event x message shown yields

end Runs

/-- A message is sent, and what the library takes of it. -/
def sends (party msg : Nat) : List (PartyAction Part (Action Nat)) :=
  [.act party (.sendMsg ⟨msg, 0⟩), .act party .poll, .act party .run,
    .act party (.complete (.sent false)), .act party .callback, .act party .callbackReturn,
    .act party .poll, .act party .run]

/-- A message is received. -/
def receives (party msg : Nat) : List (PartyAction Part (Action Nat)) :=
  [.act party .recvMsg, .act party .poll, .act party .run, .act party (.complete (.received msg)),
    .act party .callback, .act party .callbackReturn, .act party .poll, .act party .run]

/-- Two requesters ask one replier, and the second one gets its answer. -/
def secondAnswered : List (PartyAction Part (Action Nat)) :=
  [.join (.requester .Req0), .join (.requester .Req0), .join (.replier .Rep0)] ++ sends 0 10 ++
    sends 1 20 ++ receives 2 21 ++ sends 2 30 ++ receives 1 31

/-- There, copies of a message have the same tens. -/
theorem answers_come_from_their_requests_second :
    ∃ (trace : List (Transition (List (Part × State Nat) × Conversations Nat)
        (PartyAction Part (Action Nat) ⊕ ConversationAction) (ConversationEvent Nat)))
      (s : List (Part × State Nat) × Conversations Nat),
      (conversation (fun msg => (msg % 10, 1)) (· / 10)).Run trace s ∧
        (∀ t ∈ trace, ¬ConversesLeftover t) ∧
        ∃ k ≤ 1, ((∀ t ∈ trace, ¬ConversesLeftover t) → k = 1) ∧
          ∃ request j responder message' answers answer,
            [.asked 1 k request, .replier j (.received responder message' answers),
              .answered j responder answer,
              .requester 1 (.replyReturned 1 (.ok ⟨31, 0⟩))].Sublist (events trace) ∧
            request / 10 = message'.inner / 10 ∧ answer / 10 = 31 / 10 := by
  have computed : ((conversation (fun msg => (msg % 10, 1)) (· / 10)).replay
      (conversation (fun msg => (msg % 10, 1)) (· / 10)).start (secondAnswered.map .inl)).map
      (fun ran => (decide (∀ t ∈ ran.1, ¬ConversesLeftover t),
        decide (.requester 1 (.replyReturned 1 (.ok ⟨31, 0⟩)) ∈ events ran.1))) =
        some (true, true) := by decide +kernel
  obtain ⟨⟨trace, s⟩, found, same⟩ := Option.map_eq_some_iff.mp computed
  obtain ⟨never, shown⟩ := Prod.mk.inj same
  have run := run_of_replay _ found
  exact ⟨trace, s, run, of_decide_eq_true never,
    answers_come_from_their_requests run (of_decide_eq_true shown) rfl⟩

end NngRs.Anng
