/-
**Every message has exactly one owner.**

The ledger watches a handle. It keeps what the handle cannot show: the messages its caller, the
library and the heap's free list hold. The other two owners are read off the handle: the aio slot
and `recovered_msg`. A pointer that a successful send left in the slot is stale, the message is the
library's; a message inside an unpolled `send_msg` future is still the caller's.

The ledger refuses what the caller cannot do (send or free a message it does not hold) and what the
library does not do (hand over a message that is neither its own nor fresh). It never refuses what
the handle does.

* `Move.balance`, `Ledger.see_balance` — what a step moves in and out of the handle, and of the rest.
* `kept_of_run` — so custody is linear along every run.
* `messages_have_one_owner` — with where the message of a send ends up, by the way the send ended.
-/

import NngRs.Anng.Moves
import NngRs.Machine.Custody
import NngRs.Machine.Watch
import Mathlib.Tactic.Abel

namespace NngRs.Anng

open NngRs.Sys EventMachine Custody

/-- Who can own a message. -/
inductive Owner
  | caller
  | slot
  | nng
  | recovered
  | freed
deriving DecidableEq, Repr

instance : Fintype Owner :=
  ⟨{.caller, .slot, .nng, .recovered, .freed}, fun o => by cases o <;> decide⟩

/-- What the ledger keeps; `sending` is the message of the last `send_msg`. -/
structure Ledger (M : Type) where
  caller : Multiset M
  nng : Multiset M
  freed : Multiset M
  known : Multiset M
  sending : Option M

/-- What the caller does with its messages besides sending them. -/
inductive CallerAction (M : Type)
  | alloc (msg : M)
  | free (msg : M)
deriving DecidableEq, Repr

section Definitions

variable {M : Type} [DecidableEq M]

/-- The ledger after one event. -/
def Ledger.see (g : Ledger M) : Event M → Option (Ledger M)
  | .consumed msg => some { g with nng := msg ::ₘ g.nng }
  | .delivered msg =>
    if msg ∈ g.nng then some { g with nng := g.nng.erase msg }
    else if msg ∈ g.known then none
    else some { g with known := msg ::ₘ g.known }
  | .freed msg => some { g with freed := msg ::ₘ g.freed }
  | .sendReturned (.error (_, message)) => some { g with caller := message.inner ::ₘ g.caller }
  | .recvReturned (.ok message) => some { g with caller := message.inner ::ₘ g.caller }
  | .tryRecvReturned (.ok (some message)) => some { g with caller := message.inner ::ₘ g.caller }
  | _ => some g

/-- The ledger after the events of a step. -/
def Ledger.seeAll (g : Ledger M) : List (Event M) → Option (Ledger M)
  | [] => some g
  | event :: rest =>
    match g.see event with
    | some g' => g'.seeAll rest
    | none => none

/-- A caller hands a message it holds to `send_msg`. -/
def Ledger.send (g : Ledger M) (message : Message M) : Option (Ledger M) :=
  if message.inner ∈ g.caller then
    some { g with caller := g.caller.erase message.inner, sending := some message.inner }
  else none

/-- The ledger of one handle. -/
def ledger (M : Type) [DecidableEq M] :
    Watcher (State M) (Action M) (Event M) (Ledger M) (CallerAction M) (Event M) where
  start := ⟨0, 0, 0, 0, none⟩
  react g t :=
    match t.act with
    | .sendMsg message => (g.send message).map (·, t.out)
    | _ => (g.seeAll t.out).map (·, t.out)
  own _ g
    | .alloc msg =>
      if msg ∈ g.known then none
      else some ({ g with caller := msg ::ₘ g.caller, known := msg ::ₘ g.known }, [])
    | .free msg =>
      if msg ∈ g.caller then
        some ({ g with caller := g.caller.erase msg, freed := msg ::ₘ g.freed }, [.freed msg])
      else none

/-- A handle with its ledger. -/
abbrev ledgered (M : Type) [DecidableEq M] (h : Handle) :=
  (machine M h).watched (ledger M)

end Definitions

section Holdings

variable {M : Type}

/-- The message an aio owns. -/
def State.slot (s : State M) : Option M :=
  match s.future with
  | .waiting .Sent _ => if s.succeeded then none else s.endpoint.aio.aio.msg
  | _ => s.endpoint.aio.aio.msg

/-- The message inside an unpolled `send_msg` future. -/
def Future.message : Future M → Option M
  | .sendNew message => some message.inner
  | _ => .none

/-- At most one message, as a multiset. -/
def one (msg : Option M) : Multiset M := Multiset.ofList msg.toList

@[simp] theorem one_none : one (none : Option M) = 0 := rfl

@[simp] theorem one_some (msg : M) : one (some msg) = {msg} := rfl

/-- **Who holds what.** -/
def holdings (s : State M) (g : Ledger M) : Owner → Multiset M
  | .caller => g.caller + one s.future.message
  | .slot => one s.slot
  | .nng => g.nng
  | .recovered => one (s.endpoint.recoveredMsg.map Message.inner)
  | .freed => g.freed

/-- What is inside a handle and its future. -/
def State.inside (s : State M) : Multiset M :=
  one s.future.message + one s.slot + one (s.endpoint.recoveredMsg.map Message.inner)

/-- What the ledger holds. -/
def Ledger.outside (g : Ledger M) : Multiset M := g.caller + g.nng + g.freed

theorem sum_holdings (s : State M) (g : Ledger M) :
    ∑ o, holdings s g o = s.inside + g.outside := by
  rw [show (Finset.univ : Finset Owner) = {.caller, .slot, .nng, .recovered, .freed} from rfl]
  simp only [Finset.sum_insert, Finset.mem_insert, Finset.mem_singleton, reduceCtorEq, or_self,
    not_false_eq_true, Finset.sum_singleton, holdings, State.inside, Ledger.outside]
  abel

/-- What an event takes into the handle. -/
@[simp] def Event.arrives : Event M → Multiset M
  | .delivered msg => {msg}
  | _ => 0

/-- What an event takes out of the handle. -/
@[simp] def Event.departs : Event M → Multiset M
  | .consumed msg | .freed msg => {msg}
  | .sendReturned (.error (_, message)) => {message.inner}
  | .recvReturned (.ok message) => {message.inner}
  | .tryRecvReturned (.ok (some message)) => {message.inner}
  | _ => 0

/-! ### What a step moves -/

/-- The library hands over a message of its own, or a fresh one. -/
theorem Ledger.see_delivered [DecidableEq M] {g g' : Ledger M} {msg : M}
    (seen : g.see (.delivered msg) = some g') :
    (∃ rest, g.nng = msg ::ₘ rest ∧ g' = { g with nng := rest }) ∨
      (msg ∉ g.known ∧ g' = { g with known := msg ::ₘ g.known }) := by
  simp only [Ledger.see] at seen
  split_ifs at seen with own known
  · cases seen
    exact .inl ⟨g.nng.erase msg, (Multiset.cons_erase own).symm, rfl⟩
  · cases seen
    exact .inr ⟨known, rfl⟩

/-- The ledger takes over what leaves the handle. -/
theorem Ledger.see_balance [DecidableEq M] {g g' : Ledger M} {event : Event M}
    (seen : g.see event = some g') :
    g'.outside + g.known + event.arrives = g.outside + g'.known + event.departs := by
  match event with
  | .delivered msg =>
    rcases see_delivered seen with ⟨rest, split, rfl⟩ | ⟨_, rfl⟩
    · simp only [Ledger.outside, Event.arrives, Event.departs, split, ← Multiset.singleton_add]
      abel
    · simp only [Ledger.outside, Event.arrives, Event.departs, ← Multiset.singleton_add]
      abel
  | .consumed _ | .freed _ | .sendReturned (.error (_, _)) | .recvReturned (.ok _)
  | .tryRecvReturned (.ok (some _)) =>
    cases seen
    simp only [Ledger.outside, Event.arrives, Event.departs, ← Multiset.singleton_add]
    abel
  | .started _ | .called _ | .sendReturned (.ok _) | .recvReturned (.error _)
  | .tryRecvReturned (.ok none) | .tryRecvReturned (.error _) | .cancelled | .panicked _ =>
    cases seen
    simp only [Event.arrives, Event.departs]

/-- The ledger after a whole step takes over what left the handle. -/
theorem Ledger.seeAll_balance [DecidableEq M] {out : List (Event M)} :
    ∀ {g g' : Ledger M}, g.seeAll out = some g' →
      g'.outside + g.known + (out.map Event.arrives).sum =
        g.outside + g'.known + (out.map Event.departs).sum := by
  induction out with
  | nil =>
    intro g g' seen
    cases seen
    rfl
  | cons event rest ih =>
    intro g g' seen
    unfold Ledger.seeAll at seen
    cases first : g.see event with
    | none => rw [first] at seen; cases seen
    | some between =>
      rw [first] at seen
      have head := see_balance first
      have tail := ih seen
      rw [List.map_cons, List.map_cons, List.sum_cons, List.sum_cons]
      have both := congrArg₂ (· + ·) head tail
      refine add_right_cancel (b := between.outside + between.known) ?_
      calc g'.outside + g.known + (event.arrives + (rest.map Event.arrives).sum) +
            (between.outside + between.known)
          = between.outside + g.known + event.arrives +
            (g'.outside + between.known + (rest.map Event.arrives).sum) := by abel
        _ = g.outside + between.known + event.departs +
            (between.outside + g'.known + (rest.map Event.departs).sum) := both
        _ = g.outside + g'.known + (event.departs + (rest.map Event.departs).sum) +
            (between.outside + between.known) := by abel

/-- The ledger only learns of fresh messages. -/
theorem Ledger.see_distinct [DecidableEq M] {g g' : Ledger M} {event : Event M}
    (seen : g.see event = some g') (distinct : g.known.Nodup) : g'.known.Nodup := by
  match event with
  | .delivered msg =>
    rcases see_delivered seen with ⟨_, _, rfl⟩ | ⟨fresh, rfl⟩
    · exact distinct
    · exact Multiset.nodup_cons.mpr ⟨fresh, distinct⟩
  | .consumed _ | .freed _ | .sendReturned (.error (_, _)) | .recvReturned (.ok _)
  | .tryRecvReturned (.ok (some _)) | .started _ | .called _ | .sendReturned (.ok _)
  | .recvReturned (.error _) | .tryRecvReturned (.ok none) | .tryRecvReturned (.error _)
  | .cancelled | .panicked _ =>
    cases seen
    exact distinct

end Holdings

section Moves

variable {M : Type} {h : Handle} {s s' : State M} {act : Action M} {out : List (Event M)}

theorem slot_of_not_sending (live : ∀ point, s.future ≠ .waiting .Sent point) :
    s.slot = s.endpoint.aio.aio.msg := by
  unfold State.slot
  split
  · exact absurd ‹_› (live _)
  · rfl

theorem slot_of_receiving {point : WaitPoint} (live : s.future = .waiting .Received point) :
    s.slot = s.endpoint.aio.aio.msg :=
  slot_of_not_sending fun _ same => nomatch live.symm.trans same

/-- The library has taken the message of a send. -/
theorem slot_of_consumed {point : WaitPoint} (live : s.future = .waiting .Sent point)
    (done : s.succeeded) : s.slot = none := by
  rw [State.slot, live]
  exact if_pos done

/-- The library has not taken the message of a send. -/
theorem slot_of_unsent {point : WaitPoint} (live : s.future = .waiting .Sent point)
    (kept : ¬s.succeeded) : s.slot = s.endpoint.aio.aio.msg := by
  rw [State.slot, live]
  exact if_neg kept

/-- The callback changes nothing the slot depends on. -/
theorem slot_congr {t : State M} (future : t.future = s.future)
    (msg : t.endpoint.aio.aio.msg = s.endpoint.aio.aio.msg)
    (done : t.succeeded ↔ s.succeeded) : t.slot = s.slot := by
  simp only [State.slot, future, msg, done]

theorem inside_of_waiting {implication : ImplicationOnMessage} {point : WaitPoint}
    (live : s.future = .waiting implication point) :
    s.inside = one s.slot + one (s.endpoint.recoveredMsg.map Message.inner) := by
  rw [State.inside, live]
  exact congrArg (· + _) (zero_add _)

/-- A handle whose future does not wait: its slot is empty. -/
theorem inside_of_idle (live : ∀ implication point, s.future ≠ .waiting implication point)
    (idle : s.endpoint.aio.Idle) :
    s.inside = one s.future.message + one (s.endpoint.recoveredMsg.map Message.inner) := by
  rw [State.inside, slot_of_not_sending (live _), idle.msgNull, one_none, add_zero]

theorem inside_ended (recovered : Option (Message M)) :
    (s.ended recovered).inside = one (recovered.map Message.inner) := by
  rw [inside_of_idle (s := s.ended recovered) (fun _ _ => by nofun) (idleAio_idle _)]
  exact zero_add _

/-- **What a step moves in and out of a handle**, but for the message given to `send_msg`. -/
theorem Move.balance (sound : Sound s) (move : Move h s act s' out)
    (notSend : ∀ message, act ≠ .sendMsg message) :
    s'.inside + (out.map Event.departs).sum = s.inside + (out.map Event.arrives).sum := by
  cases move with
  | sendMsg message => exact absurd rfl (notSend message)
  | recvMsg live | dropRecvNew live => simp [State.inside, State.slot, Future.message, live]
  | tryReceived | tryPanicked => simp
  | tryRefused _ result _ _ empty =>
    match result, empty with
    | .ok none, _ | .error _, _ => simp
    | .ok (some msg), empty => exact absurd rfl (empty msg)
  | tryRecovered _ _ live recovered | recvRecovered _ live recovered =>
    simp [State.inside, State.slot, State.recover, Future.message, live, recovered]
  | close live =>
    cases recovered : s.endpoint.recoveredMsg <;>
      simp [State.inside, State.slot, State.recover, Future.message, live, recovered]
  | dropSendNew message live =>
    simp [State.inside, State.slot, Future.message, live, add_comm]
  | sendStart message live =>
    have idle := sound.idle fun _ _ => by rw [live]; nofun
    rw [inside_of_waiting (s := s.begun .Sent _) rfl, slot_of_unsent (s := s.begun .Sent _) rfl
      (not_succeeded_of_running rfl), inside_of_idle (fun _ _ => by rw [live]; nofun) idle, live]
    rfl
  | recvStart live =>
    have idle := sound.idle fun _ _ => by rw [live]; nofun
    rw [inside_of_waiting (s := s.begun .Received _) rfl,
      slot_of_receiving (s := s.begun .Received _) rfl,
      inside_of_idle (fun _ _ => by rw [live]; nofun) idle, live]
    rfl
  | turn _ implication _ point' _ live =>
    rw [inside_of_waiting (s := s.turned implication point') rfl, inside_of_waiting live]
    cases implication with
    | Sent => rw [State.slot, State.slot, live]; rfl
    | Received => rw [slot_of_receiving live]; rfl
  | sendOk live stage ok | sendDroppedOk live stage ok =>
    rw [inside_ended, inside_of_waiting live, slot_of_consumed live ⟨by rw [stage]; rfl, ok⟩]
    simp
  | sendFailed msg _ live _ failed held | sendDroppedFailed msg live _ failed held =>
    rw [inside_ended, inside_of_waiting live, slot_of_unsent live (not_succeeded_of_failed failed),
      held]
    simp [add_comm]
  | recvOk msg live _ _ held =>
    rw [inside_ended, inside_of_waiting live, slot_of_receiving live, held]
    simp [add_comm]
  | recvFailed _ live _ _ vacant | recvDroppedFailed live _ vacant =>
    rw [inside_ended, inside_of_waiting live, slot_of_receiving live, vacant]
    simp
  | recvDroppedOk msg live _ held vacant =>
    rw [inside_ended, inside_of_waiting live, slot_of_receiving live, held, vacant]
    simp
  | completeSent _ msg stale live stage held =>
    rw [inside_of_waiting live, inside_of_waiting (s := s.withNng ⟨_, NNG_OK, .completed⟩) live,
      slot_of_consumed (s := s.withNng ⟨_, NNG_OK, .completed⟩) live ⟨rfl, rfl⟩,
      slot_of_unsent live (not_succeeded_of_running (by rw [stage]; rfl)), held]
    simp [State.withNng, add_comm]
  | completeReceived _ msg live _ vacant =>
    rw [inside_of_waiting live, inside_of_waiting (s := s.withNng ⟨_, NNG_OK, .completed⟩) live,
      slot_of_receiving (s := s.withNng ⟨_, NNG_OK, .completed⟩) live, slot_of_receiving live,
      vacant]
    simp [State.withNng, add_comm]
  | completeFailed implication _ err live stage =>
    rw [inside_of_waiting live, inside_of_waiting (s := s.withNng ⟨_, err.val, .completed⟩) live]
    cases implication with
    | Sent =>
      rw [slot_of_unsent (s := s.withNng ⟨_, err.val, .completed⟩) live
          (not_succeeded_of_failed err.property),
        slot_of_unsent live (not_succeeded_of_running (by rw [stage]; rfl))]
      rfl
    | Received =>
      rw [slot_of_receiving (s := s.withNng ⟨_, err.val, .completed⟩) live, slot_of_receiving live]
      rfl
  | callback implication point live stage =>
    have same := slot_congr (s := s)
      (t := (s.withNng { s.endpoint.aio.aio with stage := .notified }).turned implication point)
      live.symm rfl (succeeded_congr (by rw [stage]; rfl) rfl)
    rw [inside_of_waiting live, inside_of_waiting (s := State.turned _ implication point) rfl, same]
    rfl
  | callbackReturn implication _ live stage =>
    rw [inside_of_waiting live,
      inside_of_waiting (s := s.withNng { s.endpoint.aio.aio with stage := .idle }) live,
      slot_congr (s := s) (t := s.withNng { s.endpoint.aio.aio with stage := .idle }) rfl rfl
        (succeeded_congr (by rw [stage]; rfl) rfl)]
    rfl

/-- **Where the message of the last `send_msg` is while its future is live.** -/
structure Tracked (s : State M) (g : Ledger M) : Prop where
  unpolled : ∀ message, s.future = .sendNew message → g.sending = some message.inner
  waiting : ∀ point, s.future = .waiting .Sent point → ∃ msg, g.sending = some msg ∧
    (s.succeeded → msg ∈ g.nng) ∧ (¬s.succeeded → s.endpoint.aio.aio.msg = some msg)

theorem tracked_of_not_sending {g : Ledger M} (unpolled : ∀ message, s.future ≠ .sendNew message)
    (waiting : ∀ point, s.future ≠ .waiting .Sent point) : Tracked s g :=
  ⟨fun _ live => absurd live (unpolled _), fun _ live => absurd live (waiting _)⟩

/-- A wait that goes on with the same message and outcome. -/
theorem Tracked.goesOn {g : Ledger M} {implication : ImplicationOnMessage} {point point' : WaitPoint}
    (tracked : Tracked s g) (before : s.future = .waiting implication point)
    (after : s'.future = .waiting implication point')
    (msg : s'.endpoint.aio.aio.msg = s.endpoint.aio.aio.msg)
    (done : s'.succeeded ↔ s.succeeded) : Tracked s' g := by
  refine ⟨fun _ live => (nomatch after.symm.trans live), fun _ live => ?_⟩
  cases after.symm.trans live
  rw [msg, done]
  exact tracked.waiting point before

/-- The ledger keeps track of the message being sent. -/
theorem Move.tracked [DecidableEq M] {g g' : Ledger M} (move : Move h s act s' out)
    (notSend : ∀ message, act ≠ .sendMsg message) (tracked : Tracked s g)
    (seen : g.seeAll out = some g') : Tracked s' g' := by
  cases move with
  | sendMsg message => exact absurd rfl (notSend message)
  | recvMsg | recvRecovered | recvStart | sendOk | sendFailed | recvOk | recvFailed | dropSendNew
  | dropRecvNew | sendDroppedOk | sendDroppedFailed | recvDroppedOk | recvDroppedFailed =>
    exact tracked_of_not_sending nofun nofun
  | tryRecovered _ _ free | tryReceived _ free | tryRefused _ _ free | tryPanicked _ _ free
  | close free =>
    exact tracked_of_not_sending (fun _ live => nomatch free.symm.trans live)
      fun _ live => nomatch free.symm.trans live
  | sendStart message live =>
    cases seen
    exact ⟨nofun, fun _ _ => ⟨message.inner, tracked.unpolled message live,
      fun done => absurd done (not_succeeded_of_running rfl), fun _ => rfl⟩⟩
  | turn _ implication point point' _ live =>
    cases seen
    exact tracked.goesOn live rfl rfl (succeeded_congr rfl rfl)
  | callback implication point live stage =>
    cases seen
    exact tracked.goesOn live rfl rfl (succeeded_congr (by rw [stage]; rfl) rfl)
  | callbackReturn implication point live stage =>
    cases seen
    exact tracked.goesOn live live rfl (succeeded_congr (by rw [stage]; rfl) rfl)
  | completeSent point msg stale live stage held =>
    cases seen
    obtain ⟨sent, sending, _, kept⟩ := tracked.waiting point live
    have same := held.symm.trans (kept (not_succeeded_of_running (by rw [stage]; rfl)))
    cases same
    refine ⟨fun _ other => (nomatch live.symm.trans other), fun _ _ => ⟨msg, sending, ?_, ?_⟩⟩
    · exact fun _ => Multiset.mem_cons_self msg _
    · exact fun failed => absurd ⟨rfl, rfl⟩ failed
  | completeReceived point msg live =>
    exact tracked_of_not_sending (fun _ other => nomatch live.symm.trans other)
      fun _ other => nomatch live.symm.trans other
  | completeFailed implication point err live stage =>
    cases seen
    refine ⟨fun _ other => (nomatch live.symm.trans other), fun _ other => ?_⟩
    cases live.symm.trans other
    obtain ⟨sent, sending, _, kept⟩ := tracked.waiting point live
    refine ⟨sent, sending, fun done => absurd done (not_succeeded_of_failed err.property), ?_⟩
    exact fun _ => kept (not_succeeded_of_running (by rw [stage]; rfl))

/-- **Where the message of a send ends up**, in a step that ends its future. -/
structure SendOutcome (pre post : State M × Ledger M) (out : List (Event M)) : Prop where
  /-- It returned `Ok`: the library has the message. -/
  sent : .sendReturned (.ok ()) ∈ out → ∃ msg, pre.2.sending = some msg ∧ msg ∈ post.2.nng
  /-- It returned `Err`: the caller has that same message. -/
  returned : ∀ e message, .sendReturned (.error (e, message)) ∈ out →
    pre.2.sending = some message.inner ∧ message.inner ∈ post.2.caller
  /-- It was dropped after its first poll: the message is the library's or freed, by the outcome. -/
  cancelled : ∀ point, pre.1.future = .waiting .Sent point → .cancelled ∈ out →
    ∃ msg, pre.2.sending = some msg ∧
      if pre.1.endpoint.aio.aio.result = NNG_OK then msg ∈ post.2.nng else msg ∈ post.2.freed
  /-- It was dropped before its first poll: the message is freed. -/
  unpolled : ∀ message, pre.1.future = .sendNew message → .cancelled ∈ out →
    message.inner ∈ post.2.freed

theorem sendOutcome_of_silent {pre post : State M × Ledger M} {out : List (Event M)}
    (noSend : ∀ result, .sendReturned result ∉ out) (noCancel : .cancelled ∉ out) :
    SendOutcome pre post out :=
  ⟨fun shown => absurd shown (noSend _), fun _ _ shown => absurd shown (noSend _),
    fun _ _ shown => absurd shown noCancel, fun _ _ shown => absurd shown noCancel⟩

end Moves

/-! ### Runs -/

section Runs

variable {M : Type} [DecidableEq M] {h : Handle}

/-- Freeing one more message counts it once. -/
theorem count_freed (other msg : M) (freed : Multiset M) :
    (other ::ₘ freed).count msg = freed.count msg + [Event.freed other].count (.freed msg) := by
  by_cases same : other = msg
  · subst same
    simp
  · simp [same, Multiset.count_cons_of_ne (Ne.symm same)]

/-- The ledger counts the frees. -/
theorem Ledger.seeAll_freed {out : List (Event M)} (msg : M) :
    ∀ {g g' : Ledger M}, g.seeAll out = some g' →
      g'.freed.count msg = g.freed.count msg + out.count (.freed msg) := by
  induction out with
  | nil =>
    intro g g' seen
    cases seen
    rfl
  | cons event rest ih =>
    intro g g' seen
    unfold Ledger.seeAll at seen
    cases first : g.see event with
    | none => rw [first] at seen; cases seen
    | some between =>
      rw [first] at seen
      have head : between.freed.count msg = g.freed.count msg + [event].count (.freed msg) := by
        match event with
        | .delivered _ => rcases see_delivered first with ⟨_, _, rfl⟩ | ⟨_, rfl⟩ <;> simp
        | .freed other =>
          cases first
          exact count_freed other msg g.freed
        | .consumed _ | .sendReturned (.error (_, _)) | .recvReturned (.ok _)
        | .tryRecvReturned (.ok (some _)) | .started _ | .called _ | .sendReturned (.ok _)
        | .recvReturned (.error _) | .tryRecvReturned (.ok none) | .tryRecvReturned (.error _)
        | .cancelled | .panicked _ =>
          cases first
          simp
      rw [ih seen, head, show event :: rest = [event] ++ rest from rfl, List.count_append,
        Nat.add_assoc]

theorem Ledger.seeAll_distinct {out : List (Event M)} :
    ∀ {g g' : Ledger M}, g.seeAll out = some g' → g.known.Nodup → g'.known.Nodup := by
  induction out with
  | nil =>
    intro g g' seen distinct
    cases seen
    exact distinct
  | cons event rest ih =>
    intro g g' seen distinct
    unfold Ledger.seeAll at seen
    cases first : g.see event with
    | none => rw [first] at seen; cases seen
    | some between =>
      rw [first] at seen
      exact ih seen (see_distinct first distinct)

theorem ledger_react {g : Ledger M} {t : Transition (State M) (Action M) (Event M)}
    (notSend : ∀ message, t.act ≠ .sendMsg message) :
    (ledger M).react g t = (g.seeAll t.out).map (·, t.out) := by
  obtain ⟨pre, act, post, out⟩ := t
  cases act with
  | sendMsg message => exact absurd rfl (notSend message)
  | _ => rfl

/-- The invariant of a handle with its ledger. -/
structure Kept (history : List (Event M)) (s : State M × Ledger M) : Prop where
  linear : Linear (holdings s.1 s.2) s.2.known
  tracked : Tracked s.1 s.2
  frees : ∀ msg, history.count (.freed msg) = s.2.freed.count msg

/-- The caller gives a message to `send_msg`: it stays the caller's, inside the future. -/
theorem Kept.send {history : List (Event M)} {s : State M} {g g' : Ledger M} {message : Message M}
    (kept : Kept history (s, g)) (free : s.future = .none) (sent : g.send message = some g') :
    Kept history ({ s with future := .sendNew message }, g') := by
  unfold Ledger.send at sent
  split_ifs at sent with own
  cases sent
  obtain ⟨linear, _, frees⟩ := kept
  refine ⟨linear.step ?_ linear.distinct, ?_, frees⟩
  · obtain ⟨rest, split⟩ := Multiset.exists_cons_of_mem own
    have erased : g.caller.erase message.inner = rest := by rw [split, Multiset.erase_cons_head]
    have slot : s.slot = s.endpoint.aio.aio.msg :=
      slot_of_not_sending fun _ live => nomatch free.symm.trans live
    have slot' : State.slot { s with future := .sendNew message } = s.endpoint.aio.aio.msg :=
      slot_of_not_sending fun _ live => nomatch live
    simp only [sum_holdings, State.inside, Ledger.outside, slot, slot', free, Future.message, erased,
      one_some, one_none]
    rw [split, ← Multiset.singleton_add]
    abel
  · refine ⟨fun other live => ?_, fun _ live => (nomatch live)⟩
    cases live
    rfl

/-- What the caller does with its own messages. -/
theorem Kept.own {history shown : List (Event M)} {s : State M} {g g' : Ledger M}
    {b : CallerAction M} (kept : Kept history (s, g))
    (taken : (ledger M).own s g b = some (g', shown)) :
    Kept (history ++ shown) (s, g') := by
  obtain ⟨linear, tracked, frees⟩ := kept
  cases b with
  | alloc msg =>
    simp only [ledger] at taken
    split_ifs at taken with fresh
    cases taken
    refine ⟨linear.step ?_ (Multiset.nodup_cons.mpr ⟨fresh, linear.distinct⟩),
      ⟨tracked.unpolled, tracked.waiting⟩, fun m => by rw [List.append_nil]; exact frees m⟩
    simp only [sum_holdings, Ledger.outside, ← Multiset.singleton_add]
    abel
  | free msg =>
    simp only [ledger] at taken
    split_ifs at taken with own
    cases taken
    refine ⟨linear.step ?_ linear.distinct, ⟨tracked.unpolled, tracked.waiting⟩, fun m => ?_⟩
    · obtain ⟨rest, split⟩ := Multiset.exists_cons_of_mem own
      have erased : g.caller.erase msg = rest := by rw [split, Multiset.erase_cons_head]
      simp only [sum_holdings, Ledger.outside, erased]
      rw [split, ← Multiset.singleton_add, ← Multiset.singleton_add]
      abel
    · rw [List.count_append, frees m]
      exact (count_freed msg m g.freed).symm

/-- **Custody is kept along every run.** -/
theorem kept_of_run
    {trace : List (Transition (State M × Ledger M) (Action M ⊕ CallerAction M) (Event M))}
    {s : State M × Ledger M} (run : (ledgered M h).Run trace s) : Kept (events trace) s := by
  refine run.watched_invariant (fun _ reached => sound_of_reachable reached) (fun _ => True)
    ?_ ?_ ?_ fun _ _ => trivial
  · refine ⟨⟨by rw [sum_holdings]; rfl, Multiset.nodup_zero⟩, tracked_of_not_sending nofun nofun,
      fun _ => rfl⟩
  · intro history s g a s' out g' shown sound _ kept stepped reacted _
    obtain ⟨_, move⟩ := step_move sound stepped
    by_cases sends : ∃ message, a = .sendMsg message
    · obtain ⟨message, rfl⟩ := sends
      cases move with
      | turn _ _ _ _ thread => simp at thread
      | sendMsg _ free =>
        obtain ⟨_, sent, same⟩ := Option.map_eq_some_iff.mp reacted
        cases same
        rw [List.append_nil]
        exact kept.send free sent
    · have notSend : ∀ message, a ≠ .sendMsg message := fun message same => sends ⟨message, same⟩
      rw [ledger_react notSend] at reacted
      obtain ⟨_, seen, same⟩ := Option.map_eq_some_iff.mp reacted
      cases same
      obtain ⟨linear, tracked, frees⟩ := kept
      refine ⟨linear.step ?_ (Ledger.seeAll_distinct seen linear.distinct),
        move.tracked notSend tracked seen, fun msg => ?_⟩
      · have inside := move.balance sound notSend
        have outside := Ledger.seeAll_balance seen
        rw [sum_holdings, sum_holdings]
        have both := congrArg₂ (· + ·) inside outside
        refine add_right_cancel
          (b := (out.map Event.departs).sum + (out.map Event.arrives).sum) ?_
        calc s'.inside + g'.outside + g.known +
              ((out.map Event.departs).sum + (out.map Event.arrives).sum)
            = s'.inside + (out.map Event.departs).sum +
              (g'.outside + g.known + (out.map Event.arrives).sum) := by abel
          _ = s.inside + (out.map Event.arrives).sum +
              (g.outside + g'.known + (out.map Event.departs).sum) := both
          _ = s.inside + g.outside + g'.known +
              ((out.map Event.departs).sum + (out.map Event.arrives).sum) := by abel
      · rw [List.count_append, frees msg, Ledger.seeAll_freed msg seen]
  · intro history s g b g' shown _ kept taken _
    exact kept.own taken

theorem Move.sendOutcome {s s' : State M} {a : Action M} {out : List (Event M)} {g g' : Ledger M}
    (tracked : Tracked s g) (move : Move h s a s' out) (seen : g.seeAll out = some g') :
    SendOutcome (s, g) (s', g') out := by
  cases move with
  | sendMsg | recvMsg | tryRecovered | tryReceived | tryRefused | tryPanicked | sendStart
  | recvRecovered | recvStart | turn | recvOk | recvFailed | completeSent | completeReceived
  | completeFailed | callback | callbackReturn =>
    exact sendOutcome_of_silent (fun _ => by simp) (by simp)
  | close =>
    cases recovered : s.endpoint.recoveredMsg <;>
      exact sendOutcome_of_silent (fun _ => by simp) (by simp)
  | dropRecvNew live | recvDroppedOk _ live | recvDroppedFailed live =>
    exact ⟨by simp, by simp, fun _ other => (nomatch live.symm.trans other),
      fun _ other => (nomatch live.symm.trans other)⟩
  | sendOk live stage ok =>
    cases seen
    obtain ⟨msg, sending, taken, _⟩ := tracked.waiting _ live
    have own := taken ⟨by rw [stage]; rfl, ok⟩
    exact ⟨fun _ => ⟨msg, sending, own⟩, by simp, by simp, by simp⟩
  | sendFailed msg e live _ failed held =>
    cases seen
    obtain ⟨sent, sending, _, kept⟩ := tracked.waiting _ live
    cases held.symm.trans (kept (not_succeeded_of_failed failed))
    refine ⟨by simp, fun _ message shown => ?_, by simp, by simp⟩
    simp only [List.mem_singleton, Event.sendReturned.injEq, Except.error.injEq, Prod.mk.injEq]
      at shown
    obtain ⟨rfl, rfl⟩ := shown
    exact ⟨sending, Multiset.mem_cons_self _ _⟩
  | dropSendNew message live =>
    cases seen
    refine ⟨by simp, by simp, fun _ other => (nomatch live.symm.trans other), fun _ other _ => ?_⟩
    cases live.symm.trans other
    exact Multiset.mem_cons_self _ _
  | sendDroppedOk live stage ok =>
    cases seen
    obtain ⟨msg, sending, taken, _⟩ := tracked.waiting _ live
    have own := taken ⟨by rw [stage]; rfl, ok⟩
    exact ⟨by simp, by simp, fun _ _ _ => ⟨msg, sending, (if_pos ok).mpr own⟩,
      fun _ other => (nomatch live.symm.trans other)⟩
  | sendDroppedFailed msg live _ failed held =>
    cases seen
    obtain ⟨sent, sending, _, kept⟩ := tracked.waiting _ live
    cases held.symm.trans (kept (not_succeeded_of_failed failed))
    refine ⟨by simp, by simp, fun _ _ _ => ⟨msg, sending, ?_⟩,
      fun _ other => (nomatch live.symm.trans other)⟩
    rw [if_neg failed]
    exact Multiset.mem_cons_self msg _

/-- The outcome of a send, in a step of the handle or of its caller. -/
theorem sendOutcome_of_step {s s' : State M} {g g' : Ledger M} {act : Action M ⊕ CallerAction M}
    {shown : List (Event M)} (sound : Sound s) (tracked : Tracked s g)
    (stepped : (ledgered M h).step (s, g) act = some ((s', g'), shown)) :
    SendOutcome (s, g) (s', g') shown := by
  rcases act with a | b
  · obtain ⟨out, went, reacted⟩ := watched_inl stepped
    obtain ⟨_, move⟩ := step_move sound went
    by_cases sends : ∃ message, a = .sendMsg message
    · obtain ⟨message, rfl⟩ := sends
      cases move with
      | turn _ _ _ _ thread => simp at thread
      | sendMsg _ free =>
        obtain ⟨_, _, same⟩ := Option.map_eq_some_iff.mp reacted
        cases same
        exact sendOutcome_of_silent (fun _ => by simp) (by simp)
    · rw [ledger_react fun message same => sends ⟨message, same⟩] at reacted
      obtain ⟨_, seen, same⟩ := Option.map_eq_some_iff.mp reacted
      cases same
      exact move.sendOutcome tracked seen
  · obtain ⟨_, taken⟩ := watched_inr stepped
    have silent : shown = [] ∨ ∃ msg, shown = [.freed msg] := by
      cases b with
      | alloc msg =>
        simp only [ledger] at taken
        split_ifs at taken
        cases taken
        exact .inl rfl
      | free msg =>
        simp only [ledger] at taken
        split_ifs at taken
        cases taken
        exact .inr ⟨msg, rfl⟩
    rcases silent with rfl | ⟨msg, rfl⟩ <;> exact sendOutcome_of_silent (fun _ => by simp) (by simp)

/-- **Every message has exactly one owner, at every step of every run**: the caller, the aio slot,
the library, `recovered_msg` or the free list. No message is freed twice, no future leaves a message
in the aio slot, a dropped handle owns nothing, and the message of a send ends up where its outcome
says. -/
theorem messages_have_one_owner
    {trace : List (Transition (State M × Ledger M) (Action M ⊕ CallerAction M) (Event M))}
    {s : State M × Ledger M} (run : (ledgered M h).Run trace s) :
    (∀ msg ∈ s.2.known, ∃! o, msg ∈ holdings s.1 s.2 o) ∧
      (∀ o, (holdings s.1 s.2 o).Nodup ∧ ∀ msg ∈ holdings s.1 s.2 o, msg ∈ s.2.known) ∧
      (∀ msg, (events trace).count (.freed msg) ≤ 1) ∧
      (s.1.future = .none → s.1.endpoint.aio.aio.msg = none) ∧
      (s.1.status = .closed → holdings s.1 s.2 .slot = 0 ∧ holdings s.1 s.2 .recovered = 0) ∧
      ∀ t ∈ trace, SendOutcome t.pre t.post t.out := by
  obtain ⟨linear, _, frees⟩ := kept_of_run run
  have reached : (machine M h).Reachable s.1 := Reachable.unwatched ⟨trace, run⟩
  have empty (free : s.1.future = .none) : s.1.endpoint.aio.aio.msg = none :=
    ((sound_of_reachable reached).idle fun _ _ => by rw [free]; nofun).msgNull
  refine ⟨fun msg known => linear.existsUnique known,
    fun o => ⟨linear.nodup o, fun msg owned => linear.known_of_mem owned⟩, fun msg => ?_, empty,
    fun closed => ?_, fun t member => ?_⟩
  · rw [frees msg]
    exact Multiset.nodup_iff_count_le_one.mp (linear.nodup .freed) msg
  · obtain ⟨free, vacant⟩ := closed_empty reached closed
    have slot := slot_of_not_sending (s := s.1) fun _ live => nomatch free.symm.trans live
    refine ⟨?_, ?_⟩
    · rw [holdings, slot, empty free]
      rfl
    · rw [holdings, vacant]
      rfl
  · obtain ⟨⟨earlier, before⟩, stepped⟩ := run.before t member
    exact sendOutcome_of_step (sound_of_reachable (Reachable.unwatched ⟨earlier, before⟩))
      (kept_of_run before).tracked stepped

end Runs

/-- One message is cancelled and freed, the next is sent, and the reply to it is dropped with the
handle. -/
theorem messages_have_one_owner_closed :
    ∃ (trace : List (Transition (State Nat × Ledger Nat) (Action Nat ⊕ CallerAction Nat) (Event Nat)))
      (s : State Nat × Ledger Nat), (ledgered Nat .Socket).Run trace s ∧
        s.1.status = .closed ∧ s.2.known = {3, 2, 1} ∧ s.2.nng = {2} ∧ s.2.freed = {3, 1} ∧
        (∃! o, 1 ∈ holdings s.1 s.2 o) ∧ (events trace).count (.freed 1) ≤ 1 ∧
        holdings s.1 s.2 .slot = 0 ∧ holdings s.1 s.2 .recovered = 0 := by
  have run := run_of_replay (M := ledgered Nat .Socket)
    [.inr (.alloc 1), .inr (.alloc 2), .inl (.sendMsg ⟨1, 0⟩), .inl .poll, .inl .run, .inl .drop,
      .inl .run, .inl (.complete (.failed ⟨20, by decide⟩)), .inl .callback, .inl .callbackReturn,
      .inl .run, .inl (.sendMsg ⟨2, 0⟩), .inl .poll, .inl .run, .inl (.complete (.sent true)),
      .inl .callback, .inl .callbackReturn, .inl .poll, .inl .run, .inl .recvMsg, .inl .poll,
      .inl .run, .inl (.complete (.received 3)), .inl .drop, .inl .callback, .inl .callbackReturn,
      .inl .run, .inl .run, .inl .close]
    rfl
  obtain ⟨owner, _, frees, _, shut, _⟩ := messages_have_one_owner run
  exact ⟨_, _, run, rfl, rfl, rfl, rfl, owner 1 (by decide), frees 1, shut rfl⟩

end NngRs.Anng
