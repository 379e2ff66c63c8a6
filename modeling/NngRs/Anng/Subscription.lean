/-
**Topics and what is delivered under them: SUB0.**

`next` and `try_next` are the `recv_msg` and `try_recv_msg` of the context. `subscribe_to`,
`disable_filtering` (the empty topic) and `unsubscribe_from` change the set of topics that the library
keeps, and the library hands over only messages that start with one of them. They need the context
unborrowed, so never while a `next` is live.

A receive cancelled under one set of topics recovers its message into `recovered_msg`, which the
subscription calls do not look at: the message is returned under whatever topics there are by then.

* `Filtered` — the invariant: what an operation in progress has received matches.
* `Filtered.returns` — a step returns a message that matches no topic exactly when it receives over
  such a recovered message.
* `subscription_filters_iff` — so the runs in which every message returned matches a topic of that
  moment are exactly those that never do.
* `filtered_without_unsubscribe` — in particular those that never take a topic away.
-/

import NngRs.Anng.Moves
import NngRs.Machine.Watch

namespace NngRs.Anng

open NngRs.Sys EventMachine

/-- Where the subscription calls panic. -/
inductive SubPanic
  /-- "errno is never negative" -/
  | negativeErrno
  /-- "OOM" -/
  | outOfMemory
  /-- "this is a sub0 socket" -/
  | notSub0
  /-- "socket is still open" -/
  | socketClosed
  /-- "nng_sub0_socket_subscribe documentation claims errno {errno} is never returned", and the same
  of `nng_sub0_socket_unsubscribe`. -/
  | undocumented (errno : UInt32)
deriving DecidableEq, Repr

/-- The error arms that the subscription calls share, `errno` not zero. -/
def subscriptionError (errno : UInt32) : SubPanic :=
  if errno = ErrorCode.ENOMEM.value then .outOfMemory
  else if errno = ErrorCode.ENOTSUP.value then .notSub0
  else if errno = ErrorCode.ECLOSED.value then .socketClosed
  else .undocumented errno

/-- The match that ends `subscribe_to` and `disable_filtering`. -/
def subscribeResult (errno : Int) : Except SubPanic Unit :=
  if errno < 0 then .error .negativeErrno
  else if errno = 0 then .ok ()
  else .error (subscriptionError (UInt32.ofNat errno.toNat))

/-- The match that ends `unsubscribe_from`. Its arm for `ENOENT` comes after those it shares. -/
def unsubscribeResult (errno : Int) : Except SubPanic Bool :=
  if errno < 0 then .error .negativeErrno
  else if errno = 0 then .ok true
  else
    match subscriptionError (UInt32.ofNat errno.toNat) with
    | .undocumented err =>
      if err = ErrorCode.ENOENT.value then .ok false else .error (.undocumented err)
    | panic => .error panic

/-- A byte string that subscribes to everything starting with it. -/
abbrev Topic := List UInt8

/-- Whether a body starts with one of the topics. -/
def matchesAny (topics : List Topic) (body : List UInt8) : Bool :=
  topics.any fun topic => topic.isPrefixOf body

/-- What the caller does besides receiving; each comes with what the library returns. -/
inductive SubAction
  | subscribeTo (topic : Topic) (errno : Int)
  | disableFiltering (errno : Int)
  | unsubscribeFrom (topic : Topic) (errno : Int)
deriving DecidableEq, Repr

/-- What the caller sees; a message that is returned comes with the topics of that moment. -/
inductive SubEvent (M : Type)
  | nextReturned (result : Except AioError (Message M)) (topics : List Topic)
  | tryNextReturned (result : Except AioError (Option (Message M))) (topics : List Topic)
  | subscribed
  | unsubscribed (result : Bool)
  | panicked (panic : SubPanic)
deriving DecidableEq

section Definitions

variable {M : Type}

/-- The message an event returns, with the topics of that moment. -/
def SubEvent.returns : SubEvent M → Option (Message M × List Topic)
  | .nextReturned (.ok message) topics => some (message, topics)
  | .tryNextReturned (.ok (some message)) topics => some (message, topics)
  | _ => none

/-- The topics after a subscription call: `nng_sub0_ctx_subscribe` adds a topic that is new. -/
def subscribe (topics : List Topic) (topic : Topic) (errno : Int) :
    List Topic × List (SubEvent M) :=
  match subscribeResult errno with
  | .ok () => (topics.insert topic, [.subscribed])
  | .error panic => (topics, [.panicked panic])

/-- `unsubscribe_from`. -/
def unsubscribe (topics : List Topic) (topic : Topic) (errno : Int) :
    List Topic × List (SubEvent M) :=
  match unsubscribeResult errno with
  | .ok true => (topics.filter (· ≠ topic), [.unsubscribed true])
  | .ok false => (topics, [.unsubscribed false])
  | .error panic => (topics, [.panicked panic])

/-- A subscription call. The library says whether it had a topic to remove. -/
def subscriptionStep (topics : List Topic) : SubAction → Option (List Topic × List (SubEvent M))
  | .subscribeTo topic errno => some (subscribe topics topic errno)
  | .disableFiltering errno => some (subscribe topics [] errno)
  | .unsubscribeFrom topic errno =>
    if (errno = 0 → topic ∈ topics) ∧ (errno = ErrorCode.ENOENT.value.toNat → topic ∉ topics) then
      some (unsubscribe topics topic errno)
    else none

/-- The watcher after one event of a step. The library hands over only what matches. -/
def seeSubscribed (body : M → List UInt8) (topics : List Topic) :
    Event M → Option (List Topic × List (SubEvent M))
  | .delivered msg => if matchesAny topics (body msg) = true then some (topics, []) else none
  | .recvReturned result => some (topics, [.nextReturned result topics])
  | .tryRecvReturned result => some (topics, [.tryNextReturned result topics])
  | _ => some (topics, [])

/-- A context of SUB0 does not send. -/
def Action.subscriber : Action M → Bool
  | .sendMsg _ => false
  | _ => true

/-- The watcher of one context: the topics the library keeps for it. -/
def subscriptions (body : M → List UInt8) :
    Watcher (State M) (Action M) (Event M) (List Topic) SubAction (SubEvent M) where
  start := []
  react topics t := if t.act.subscriber then observe (seeSubscribed body) topics t.out else none
  own s topics action :=
    match s.status, s.future with
    | .live, .none => subscriptionStep topics action
    | _, _ => none

/-- `ContextfulSocket<Sub0>`; `body` is what the messages carry. -/
abbrev subscriber (body : M → List UInt8) := (machine M .Context).watched (subscriptions body)

/-- The first poll of `next`, or a `try_next`: the steps that look at `recovered_msg`. -/
def consults (future : Future M) : Action M → Bool
  | .poll =>
    match future with
    | .recvNew => true
    | _ => false
  | .tryRecvMsg _ => true
  | _ => false

/-- A receive over a recovered message that matches none of the topics there are. -/
def ReceivesUnmatched (body : M → List UInt8)
    (t : Transition (State M × List Topic) (Action M ⊕ SubAction) (SubEvent M)) : Prop :=
  match t.act with
  | .inl a => consults t.pre.1.future a = true ∧
      t.pre.1.endpoint.recoveredMsg.any (fun msg => !matchesAny t.pre.2 (body msg.inner)) = true
  | .inr _ => False

instance (body : M → List UInt8)
    (t : Transition (State M × List Topic) (Action M ⊕ SubAction) (SubEvent M)) :
    Decidable (ReceivesUnmatched body t) :=
  match act : t.act with
  | .inl a => decidable_of_iff (consults t.pre.1.future a = true ∧
      t.pre.1.endpoint.recoveredMsg.any (fun msg => !matchesAny t.pre.2 (body msg.inner)) = true)
      (by rw [ReceivesUnmatched, act])
  | .inr _ => .isFalse (by rw [ReceivesUnmatched, act]; exact id)

/-- Every message a step returns starts with a topic of that moment. -/
def ReturnsMatched (body : M → List UInt8) (shown : List (SubEvent M)) : Prop :=
  ∀ event ∈ shown, ∀ message topics, event.returns = some (message, topics) →
    ∃ topic ∈ topics, topic <+: body message.inner

/-- **The invariant of a context and its topics**: what an operation in progress has received
matches. -/
def Filtered (body : M → List UInt8) (s : State M) (topics : List Topic) : Prop :=
  ∀ point, s.future = .waiting .Received point → ∀ msg, s.endpoint.aio.aio.msg = some msg →
    matchesAny topics (body msg) = true

end Definitions

section Steps

variable {M : Type} {body : M → List UInt8} {s s' : State M} {topics topics' : List Topic}
  {act : Action M} {out : List (Event M)} {shown : List (SubEvent M)}

theorem matchesAny_iff {text : List UInt8} :
    matchesAny topics text = true ↔ ∃ topic ∈ topics, topic <+: text := by
  simp only [matchesAny, List.any_eq_true, List.isPrefixOf_iff_prefix]

theorem filtered_of_free (free : ∀ point, s.future ≠ .waiting .Received point) :
    Filtered body s topics := fun point live => absurd live (free point)

/-- A wait that goes on with the same message. -/
theorem Filtered.goesOn {implication : ImplicationOnMessage} {point point' : WaitPoint}
    (inv : Filtered body s topics) (before : s.future = .waiting implication point)
    (after : s'.future = .waiting implication point')
    (msg : s'.endpoint.aio.aio.msg = s.endpoint.aio.aio.msg) : Filtered body s' topics := by
  intro other live held held'
  cases after.symm.trans live
  exact inv point before held (msg.symm.trans held')

/-- No step but a subscription call changes the topics. -/
theorem seeSubscribed_topics {event : Event M} (seen : seeSubscribed body topics event =
    some (topics', shown)) : topics' = topics := by
  cases event with
  | delivered msg =>
    simp only [seeSubscribed] at seen
    split_ifs at seen
    cases seen
    rfl
  | _ =>
    cases seen
    rfl

theorem returnsMatched_nil : ReturnsMatched body ([] : List (SubEvent M)) := by
  intro event member
  cases member

theorem returnsMatched_singleton {event : SubEvent M} :
    ReturnsMatched body [event] ↔ ∀ message topics, event.returns = some (message, topics) →
      ∃ topic ∈ topics, topic <+: body message.inner := List.forall_mem_singleton

theorem returnsMatched_of_silent {event : SubEvent M} (silent : event.returns = none) :
    ReturnsMatched body [event] := by
  refine returnsMatched_singleton.mpr fun message topics returns => ?_
  rw [silent] at returns
  cases returns

theorem returnsMatched_message {event : SubEvent M} {message : Message M}
    (returns : event.returns = some (message, topics)) :
    ReturnsMatched body [event] ↔ matchesAny topics (body message.inner) = true := by
  rw [returnsMatched_singleton, returns, matchesAny_iff]
  constructor
  · exact fun all => all _ _ rfl
  · rintro found _ _ ⟨⟩
    exact found

/-- A step of the context leaves the topics alone. -/
theorem react_topics (reacted : (subscriptions body).react topics ⟨s, act, s', out⟩ =
    some (topics', shown)) :
    act.subscriber = true ∧ observe (seeSubscribed body) topics out = some (topics', shown) ∧
      topics' = topics := by
  simp only [subscriptions] at reacted
  split_ifs at reacted with allowed
  refine ⟨allowed, reacted, ?_⟩
  clear allowed
  induction out generalizing topics shown with
  | nil =>
    cases reacted
    rfl
  | cons event rest ih =>
    rw [observe] at reacted
    cases seen : seeSubscribed body topics event with
    | none => rw [seen] at reacted; cases reacted
    | some answer =>
      obtain ⟨later, more⟩ := answer
      obtain rfl := seeSubscribed_topics seen
      rw [seen] at reacted
      obtain ⟨tail, observed, same⟩ := Option.map_eq_some_iff.mp reacted
      cases same
      exact ih observed

/-- **A step keeps the invariant.** -/
theorem Filtered.step (inv : Filtered body s topics) (move : Move .Context s act s' out)
    (reacted : (subscriptions body).react topics ⟨s, act, s', out⟩ = some (topics', shown)) :
    Filtered body s' topics' := by
  obtain ⟨_, observed, rfl⟩ := react_topics reacted
  cases move with
  | sendMsg | recvMsg | sendStart | recvRecovered | sendOk | sendFailed | recvOk | recvFailed
  | dropSendNew | dropRecvNew | sendDroppedOk | sendDroppedFailed | recvDroppedOk
  | recvDroppedFailed => exact filtered_of_free fun point live => by cases live
  | tryRecovered _ _ free | tryReceived _ free | tryRefused _ _ free | tryPanicked _ _ free
  | close free => exact filtered_of_free fun point live => by cases free.symm.trans live
  | recvStart =>
    intro point _ msg held
    cases held
  | turn _ implication point point' _ live | callback implication point live =>
    exact inv.goesOn live rfl rfl
  | callbackReturn implication point live | completeFailed implication point _ live =>
    exact inv.goesOn live live rfl
  | completeSent point msg stale live =>
    exact filtered_of_free fun point live' => by cases live.symm.trans live'
  | completeReceived point msg live =>
    simp only [observe_singleton, seeSubscribed] at observed
    split_ifs at observed with answer
    intro _ _ other held
    cases held
    exact answer

/-- **A step returns a message that matches no topic exactly when it receives over one that was
recovered.** -/
theorem Filtered.returns (inv : Filtered body s topics) (move : Move .Context s act s' out)
    (reacted : (subscriptions body).react topics ⟨s, act, s', out⟩ = some (topics', shown)) :
    ReturnsMatched body shown ↔
      ¬ReceivesUnmatched body ⟨(s, topics), .inl act, (s', topics'), shown⟩ := by
  obtain ⟨allowed, observed, rfl⟩ := react_topics reacted
  have elsewhere (other : consults s.future act = false) :
      ¬ReceivesUnmatched body ⟨(s, topics'), .inl act, (s', topics'), shown⟩ := by
    rintro ⟨consulted, _⟩
    cases other.symm.trans consulted
  have empty (vacant : s.endpoint.recoveredMsg = none) :
      ¬ReceivesUnmatched body ⟨(s, topics'), .inl act, (s', topics'), shown⟩ := by
    rintro ⟨_, held⟩
    rw [show s.endpoint.recoveredMsg = none from vacant] at held
    cases held
  -- over a recovered message both sides ask whether it matches
  have past (message : Message M) (held : s.endpoint.recoveredMsg = some message)
      (consulted : consults s.future act = true) :
      matchesAny topics' (body message.inner) = true ↔
        ¬ReceivesUnmatched body ⟨(s, topics'), .inl act, (s', topics'), shown⟩ := by
    simp only [ReceivesUnmatched, consulted, held, Option.any_some, true_and, Bool.not_eq_true',
      Bool.not_eq_false]
  cases move with
  | sendMsg => cases allowed
  | turn _ implication point point' thread live =>
    cases observed
    refine iff_of_true returnsMatched_nil (elsewhere ?_)
    rcases thread with rfl | rfl | rfl
    · rw [live]
      rfl
    · rfl
    · rfl
  | recvMsg | callback | callbackReturn | completeFailed | completeSent | sendOk | sendFailed
  | dropSendNew | dropRecvNew | sendDroppedOk | sendDroppedFailed | recvDroppedOk
  | recvDroppedFailed =>
    cases observed
    exact iff_of_true returnsMatched_nil (elsewhere rfl)
  | completeReceived =>
    simp only [observe_singleton, seeSubscribed] at observed
    split_ifs at observed
    cases observed
    exact iff_of_true returnsMatched_nil (elsewhere rfl)
  | close =>
    cases recovered : s.endpoint.recoveredMsg <;> rw [recovered] at observed <;> cases observed <;>
      exact iff_of_true returnsMatched_nil (elsewhere rfl)
  | sendStart message live =>
    cases observed
    exact iff_of_true returnsMatched_nil (elsewhere (by rw [live]; rfl))
  | recvStart live vacant =>
    cases observed
    exact iff_of_true returnsMatched_nil (empty vacant)
  | tryRecovered returned message free recovered =>
    cases observed
    exact (returnsMatched_message rfl).trans (past message recovered rfl)
  | recvRecovered message live recovered =>
    cases observed
    exact (returnsMatched_message rfl).trans (past message recovered (by rw [live]; rfl))
  | tryReceived msg free vacant =>
    simp only [observe, seeSubscribed] at observed
    split_ifs at observed with answer
    · cases observed
      exact iff_of_true ((returnsMatched_message rfl).mpr answer) (empty vacant)
    · cases observed
  | tryRefused returned result free vacant nothing =>
    refine iff_of_true ?_ (empty vacant)
    cases observed
    rcases result with e | _ | msg
    · exact returnsMatched_of_silent rfl
    · exact returnsMatched_of_silent rfl
    · exact absurd rfl (nothing msg)
  | tryPanicked _ _ free vacant =>
    cases observed
    exact iff_of_true returnsMatched_nil (empty vacant)
  | recvOk msg live _ _ held =>
    cases observed
    exact iff_of_true ((returnsMatched_message rfl).mpr (inv _ live msg held)) (elsewhere rfl)
  | recvFailed =>
    cases observed
    exact iff_of_true (returnsMatched_of_silent rfl) (elsewhere rfl)

/-- A subscription call returns no message, and finds no operation in progress. -/
theorem subscription_own {b : SubAction}
    (taken : (subscriptions body).own s topics b = some (topics', shown)) :
    s.status = .live ∧ s.future = .none ∧ subscriptionStep topics b = some (topics', shown) := by
  simp only [subscriptions] at taken
  split at taken
  · exact ⟨‹_›, ‹_›, taken⟩
  · cases taken

theorem subscriptionStep_returns {b : SubAction}
    (taken : subscriptionStep topics b = some (topics', shown)) : ReturnsMatched body shown := by
  have silent : ∃ event : SubEvent M, shown = [event] ∧ event.returns = none := by
    cases b with
    | subscribeTo topic errno | disableFiltering errno =>
      simp only [subscriptionStep, subscribe, Option.some.injEq] at taken
      cases result : subscribeResult errno <;> rw [result] at taken <;> cases taken <;>
        exact ⟨_, rfl, rfl⟩
    | unsubscribeFrom topic errno =>
      simp only [subscriptionStep, unsubscribe] at taken
      split_ifs at taken
      rcases result : unsubscribeResult errno with panic | _ | _ <;> rw [result] at taken <;>
        cases taken <;> exact ⟨_, rfl, rfl⟩
  obtain ⟨event, rfl, silent⟩ := silent
  exact returnsMatched_of_silent silent

/-- A subscription call that takes no topic away keeps every topic. -/
theorem subscriptionStep_keeps {b : SubAction} {topic : Topic}
    (taken : subscriptionStep topics b = some (topics', shown)) (kept : .unsubscribed true ∉ shown)
    (known : topic ∈ topics) : topic ∈ topics' := by
  cases b with
  | subscribeTo other errno | disableFiltering errno =>
    simp only [subscriptionStep, subscribe, Option.some.injEq] at taken
    cases result : subscribeResult errno <;> rw [result] at taken <;> cases taken
    · exact known
    · exact List.mem_insert_of_mem known
  | unsubscribeFrom other errno =>
    simp only [subscriptionStep, unsubscribe] at taken
    split_ifs at taken
    rcases result : unsubscribeResult errno with panic | _ | _ <;> rw [result] at taken <;>
      cases taken
    · exact known
    · exact known
    · exact absurd (List.mem_singleton.mpr rfl) kept

/-- A recovered message was there before, or was received by the operation in progress. -/
theorem Move.recoveredFrom {h : Handle} {message : Message M} (move : Move h s act s' out)
    (held : s'.endpoint.recoveredMsg = some message) :
    s.endpoint.recoveredMsg = some message ∨ ∃ point msg, s.future = .waiting .Received point ∧
      s.endpoint.aio.aio.msg = some msg ∧ message = .fromRawUnchecked msg := by
  cases move with
  | tryRecovered | recvRecovered | close => cases held
  | recvDroppedOk msg live _ slot =>
    cases held
    exact .inr ⟨_, msg, live, slot, rfl⟩
  | _ => exact .inl held

end Steps

/-! ### Runs -/

section Runs

variable {M : Type} {body : M → List UInt8} {s : State M × List Topic}
  {trace : List (Transition (State M × List Topic) (Action M ⊕ SubAction) (SubEvent M))}

/-- **The invariant holds along every run.** -/
theorem filtered_of_reachable (reached : (subscriber body).Reachable s) :
    Filtered body s.1 s.2 := by
  obtain ⟨trace, run⟩ := reached
  refine run.watched_invariant (fun _ reached => sound_of_reachable reached) (fun _ => True)
    (I := fun _ state => Filtered body state.1 state.2) (fun _ live => by cases live) ?_ ?_
    fun _ _ => trivial
  · intro _ s topics a s' out topics' shown sound _ inv stepped reacted _
    exact inv.step (step_move sound stepped).2 reacted
  · intro _ s topics b topics' shown _ _ taken _
    obtain ⟨_, free, _⟩ := subscription_own taken
    exact filtered_of_free fun point live => by cases free.symm.trans live

theorem returnsMatched_events :
    (∀ t ∈ trace, ReturnsMatched body t.out) ↔ ReturnsMatched body (events trace) := by
  simp only [ReturnsMatched, mem_events]
  exact ⟨fun all event ⟨t, member, shown⟩ => all t member event shown,
    fun all t member event shown => all event ⟨t, member, shown⟩⟩

/-- As long as no topic is taken away, a recovered message matches. -/
theorem recovered_matches (run : (subscriber body).Run trace s)
    (kept : .unsubscribed true ∉ events trace) :
    ∀ message, s.1.endpoint.recoveredMsg = some message →
      matchesAny s.2 (body message.inner) = true := by
  suffices both : Filtered body s.1 s.2 ∧ (.unsubscribed true ∉ events trace →
      ∀ message, s.1.endpoint.recoveredMsg = some message →
        matchesAny s.2 (body message.inner) = true) from both.2 kept
  refine run.watched_invariant (fun _ reached => sound_of_reachable reached) (fun _ => True)
    (I := fun history state => Filtered body state.1 state.2 ∧ (.unsubscribed true ∉ history →
      ∀ message, state.1.endpoint.recoveredMsg = some message →
        matchesAny state.2 (body message.inner) = true))
    ⟨filtered_of_free nofun, fun _ => nofun⟩ ?_ ?_ fun _ _ => trivial
  · rintro history s topics a s' out topics' shown sound _ ⟨inv, matched⟩ stepped reacted _
    have move := (step_move sound stepped).2
    refine ⟨inv.step move reacted, fun kept message held => ?_⟩
    obtain rfl := (react_topics reacted).2.2
    rcases move.recoveredFrom held with before | ⟨point, msg, live, slot, rfl⟩
    · exact matched (fun shown => kept (List.mem_append_left _ shown)) message before
    · exact inv point live msg slot
  · rintro history s topics b topics' shown _ ⟨_, matched⟩ taken _
    obtain ⟨_, free, taken⟩ := subscription_own taken
    refine ⟨filtered_of_free fun point live => (nomatch free.symm.trans live),
      fun kept message held => ?_⟩
    have before := matched (fun shown => kept (List.mem_append_left _ shown)) message held
    obtain ⟨topic, known, starts⟩ := matchesAny_iff.mp before
    have still : topic ∈ topics' := subscriptionStep_keeps taken
      (fun shown => kept (List.mem_append_right _ shown)) known
    exact matchesAny_iff.mpr ⟨topic, still, starts⟩

/-- The steps of a run return only matching messages exactly when none receives over a recovered message
that matches no topic. -/
theorem returnsMatched_iff_of_run (run : (subscriber body).Run trace s) :
    (∀ t ∈ trace, ReturnsMatched body t.out) ↔ ∀ t ∈ trace, ¬ReceivesUnmatched body t := by
  refine forall₂_congr fun t member => ?_
  obtain ⟨reached, stepped⟩ := run.before t member
  have inv := filtered_of_reachable reached
  obtain ⟨⟨s, topics⟩, a | b, ⟨s', topics'⟩, shown⟩ := t
  · obtain ⟨out, went, reacted⟩ := watched_inl stepped
    exact inv.returns (step_move (sound_of_reachable reached.unwatched) went).2 reacted
  · obtain ⟨_, taken⟩ := watched_inr stepped
    exact iff_of_true (subscriptionStep_returns (subscription_own taken).2.2) id

/-- **Every message returned starts with a topic that is subscribed at that moment, in exactly the
runs in which no `next` or `try_next` receives over a recovered message that matches none.** -/
theorem subscription_filters_iff (run : (subscriber body).Run trace s) :
    (∀ event ∈ events trace, ∀ message topics, event.returns = some (message, topics) →
      ∃ topic ∈ topics, topic <+: body message.inner) ↔
      ∀ t ∈ trace, ¬ReceivesUnmatched body t :=
  returnsMatched_events.symm.trans (returnsMatched_iff_of_run run)

/-- A message is recovered, and returned under the topic that stays when another one is taken away. -/
theorem subscription_filters_recovered :
    ∃ (trace : List (Transition (State (List UInt8) × List Topic) (Action (List UInt8) ⊕ SubAction)
        (SubEvent (List UInt8)))) (s : State (List UInt8) × List Topic),
      (subscriber id).Run trace s ∧
        .tryNextReturned (.ok (some ⟨[1, 2, 3], 0⟩)) [[1, 2]] ∈ events trace ∧
        ∀ event ∈ events trace, ∀ message topics, event.returns = some (message, topics) →
          ∃ topic ∈ topics, topic <+: id message.inner := by
  have run := run_of_replay (M := subscriber (id : List UInt8 → List UInt8))
    [.inr (.subscribeTo [1] 0), .inr (.subscribeTo [1, 2] 0), .inl .recvMsg, .inl .poll, .inl .run,
      .inl (.complete (.received [1, 2, 3])), .inl .drop, .inl .run, .inl .callback,
      .inl .callbackReturn, .inl .run, .inr (.unsubscribeFrom [1] 0), .inr (.unsubscribeFrom [9] 12),
      .inl (.tryRecvMsg ⟨8, none⟩)]
    rfl
  exact ⟨_, _, run, by decide, (subscription_filters_iff run).mpr (by decide)⟩

/-- **Not every message returned matches**: one recovered from a dropped `next` is returned after its
topic is gone. -/
theorem subscription_leaks :
    ¬∀ (trace : List (Transition (State (List UInt8) × List Topic) (Action (List UInt8) ⊕ SubAction)
        (SubEvent (List UInt8)))) (s : State (List UInt8) × List Topic),
      (subscriber id).Run trace s →
        ∀ event ∈ events trace, ∀ message topics, event.returns = some (message, topics) →
          ∃ topic ∈ topics, topic <+: id message.inner := by
  intro always
  have run := run_of_replay (M := subscriber (id : List UInt8 → List UInt8))
    [.inr (.subscribeTo [1] 0), .inl .recvMsg, .inl .poll, .inl .run,
      .inl (.complete (.received [1, 2, 3])), .inl .drop, .inl .run, .inl .callback,
      .inl .callbackReturn, .inl .run, .inr (.unsubscribeFrom [1] 0), .inl .recvMsg, .inl .poll]
    rfl
  have found := always _ _ run (.nextReturned (.ok ⟨[1, 2, 3], 0⟩) []) (by decide) ⟨[1, 2, 3], 0⟩ []
    rfl
  exact absurd found (by decide)

/-- **Messages are filtered as long as no topic is taken away**: then a recovered message still
matches the topic it came in under. -/
theorem filtered_without_unsubscribe (run : (subscriber body).Run trace s)
    (kept : .unsubscribed true ∉ events trace) : ReturnsMatched body (events trace) := by
  refine returnsMatched_events.mp ((returnsMatched_iff_of_run run).mpr fun t member unmatched => ?_)
  obtain ⟨k, bound, rfl⟩ := List.getElem_of_mem member
  have early : .unsubscribed true ∉ events (trace.take k) := fun shown => by
    obtain ⟨t, member, shown⟩ := mem_events.mp shown
    exact kept (mem_events.mpr ⟨t, List.mem_of_mem_take member, shown⟩)
  have matched := recovered_matches (run.upTo bound) early
  unfold ReceivesUnmatched at unmatched
  split at unmatched
  · obtain ⟨message, held, differs⟩ := (Option.any_eq_true _ _).mp unmatched.2
    rw [matched message held] at differs
    cases differs
  · exact unmatched

end Runs

end NngRs.Anng
