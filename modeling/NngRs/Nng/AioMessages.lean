/-
**Where the messages of an `Aio` end up, also when it is dropped under an operation.**

A call brings a message when its send is accepted, or when the library finishes its receive. The
message is then with the `Aio` on its way to the closure (`carried`), with the library (`consumed`), or
with the user (`invoked`). An invocation that finds the `Arc` gone returns without looking at the
`nng_aio`, and a message that waits there is with nobody (`lost`).

* `Flight.accounts` — what a flight brought is what is carried, taken, handed out and lost.
* `lost_iff` — a move loses a message exactly when it is such an invocation and the `nng_aio` has one.
* `aio_messages_settled_iff` — so the runs that keep every message with exactly one owner are exactly
  those without such a step.
-/

import NngRs.Machine.Custody
import NngRs.Nng.AioStory
import Mathlib.Tactic.Abel

namespace NngRs.Nng

open NngRs.Sys EventMachine

variable {M : Type}

/-! ### Who has a message -/

/-- The message that an event brings into the care of the `Aio`. -/
def AioEvent.brings : AioEvent M → List M
  | .accepted _ c => (c.message.map Message.intoPtr).toList
  | .completed _ (.received msg) => [msg]
  | _ => []

/-- The message that an event gives to the library. -/
def AioEvent.takes : AioEvent M → List M
  | .consumed _ msg => [msg]
  | _ => []

/-- The message in an `AioResult`. -/
def AioResult.messages : AioResult M → List M
  | .Send (.error (msg, _)) => [msg.intoPtr]
  | .Recv (.ok msg) => [msg.intoPtr]
  | .Send (.ok _) | .Recv (.error _) | .Sleep _ => []

/-- The message that an event gives to the user's closure. -/
def AioEvent.hands : AioEvent M → List M
  | .invoked _ res => res.messages
  | _ => []

/-- The message a flight brought, while the closure is still to be called with it. -/
def Flight.carried (f : Flight M) : List M :=
  match f.stage with
  | .user | .refused | .returned => []
  | .accepted | .armed | .pending | .completed | .entered | .upgraded | .loaded _ | .resulted _ _
  | .judged _ | .cleared _ =>
    match f.outcome with
    | none => (f.call.message.map Message.intoPtr).toList
    | some o => (f.call.unclaimed o).toList

/-- The message a flight left in the `nng_aio` when its invocation did not call the closure. -/
def Flight.lost (f : Flight M) : List M :=
  match f.stage, f.answer, f.outcome with
  | .refused, none, some o | .returned, none, some o => (f.call.unclaimed o).toList
  | _, _, _ => []

/-- Who can have a message. -/
inductive Keeper
  | aio
  | library
  | user
deriving DecidableEq, Repr

instance : Fintype Keeper := ⟨{.aio, .library, .user}, fun o => by cases o <;> decide⟩

/-- The messages of a call that each keeper has. -/
def held (history : List (AioEvent M)) (a : Aio M) (k : Nat) : Keeper → Multiset M
  | .aio => a.flights[k]?.elim 0 fun f => f.carried
  | .library => (about k history).flatMap AioEvent.takes
  | .user => (about k history).flatMap AioEvent.hands

/-- The messages a call has brought. -/
def known (k : Nat) (history : List (AioEvent M)) : Multiset M :=
  (about k history).flatMap AioEvent.brings

/-- **Every message of every call has exactly one keeper**, and a freed `nng_aio` is not one. -/
def Settled (history : List (AioEvent M)) (a : Aio M) : Prop :=
  (∀ k, Custody.Linear (held history a k) (known k history)) ∧
    (a.life = .freed → ∀ k, held history a k .aio = 0)

/-- There is a message in the `nng_aio` for the callback: a send failed, or a receive did not. -/
def Aio.unclaimed (a : Aio M) : Bool :=
  a.word == AioState.Sending.asUsize && a.result != 0 ||
    a.word == AioState.Receiving.asUsize && a.result == 0

/-- The trampoline is about to upgrade. -/
def Stage.isEntered : Stage M → Bool
  | entered => true
  | _ => false

/-- **What a step must not do**: upgrade with no `Arc` left and a message in the `nng_aio`. -/
def Aio.abandons (a : Aio M) : AioAction M → Bool
  | .advance k =>
    a.flights[k]?.any (fun f => f.stage.isEntered) && a.strong == 0 && a.unclaimed
  | _ => false

/-! ### The account of one flight -/

section Account

variable {k : Nat} {f : Flight M} {c : Call M} {o : Outcome M} {res : AioResult M}

/-- The message an outcome brings. -/
def Outcome.brings : Outcome M → List M
  | .received msg => [msg]
  | .sent _ | .slept | .failed _ => []

/-- What a call and its outcome brought was taken by the library or left for the callback. -/
theorem Call.accounts (allowed : c.Allows o) :
    (c.message.map Message.intoPtr).toList ++ o.brings = c.taken o ++ (c.unclaimed o).toList := by
  cases o with
  | sent stale => rfl
  | received msg =>
    rw [Call.message_eq_none allowed nofun]
    rfl
  | slept =>
    rw [Call.message_eq_none allowed nofun]
    rfl
  | failed code => exact List.append_nil _

theorem Answers.messages (right : Answers c o res) : res.messages = (c.unclaimed o).toList := by
  cases right with
  | sent | received | slept => rfl
  | sendFailed msg code passed =>
    rw [Call.unclaimed, passed]
    rfl
  | recvFailed code kind | sleepFailed code kind =>
    have other : c.state ≠ .Sending := by
      rw [kind]
      rintro ⟨⟩
    rw [Call.unclaimed, Call.message_eq_none rfl other]
    rfl

theorem story_brings : (f.story k).flatMap AioEvent.brings =
    (f.call.message.map Message.intoPtr).toList ++ (f.outcome.elim [] Outcome.brings) := by
  unfold Flight.story Flight.startStory Flight.outcomeStory Flight.answerStory
  have silent : ∀ messages : List M,
      (messages.map (AioEvent.consumed k)).flatMap AioEvent.brings = [] := fun messages => by
    rw [List.flatMap_map]
    exact List.flatMap_eq_nil_iff.mpr fun _ _ => rfl
  cases f.stage.borrows <;> cases f.outcome with
  | none => cases f.answer <;> simp [AioEvent.brings]
  | some o => cases f.answer <;> cases o <;> simp [AioEvent.brings, Outcome.brings, silent]

theorem story_takes : (f.story k).flatMap AioEvent.takes = f.outcome.elim [] f.call.taken := by
  unfold Flight.story Flight.startStory Flight.outcomeStory Flight.answerStory
  have all : ∀ messages : List M,
      (messages.map (AioEvent.consumed k)).flatMap AioEvent.takes = messages := fun messages => by
    rw [List.flatMap_map]
    exact List.flatMap_singleton' messages
  cases f.stage.borrows <;> cases f.outcome <;> cases f.answer <;> simp [AioEvent.takes, all]

theorem story_hands : (f.story k).flatMap AioEvent.hands = f.answer.elim [] AioResult.messages := by
  unfold Flight.story Flight.startStory Flight.outcomeStory Flight.answerStory
  have silent : ∀ messages : List M,
      (messages.map (AioEvent.consumed k)).flatMap AioEvent.hands = [] := fun messages => by
    rw [List.flatMap_map]
    exact List.flatMap_eq_nil_iff.mpr fun _ _ => rfl
  cases f.stage.borrows <;> cases f.outcome <;> cases f.answer <;> simp [AioEvent.hands, silent]

/-- What is left for the callback is carried to the closure, given to it, or lost. -/
theorem Flight.left_over {slot : Option M} {result : NngErr} (sound : f.Sound slot result)
    (finished : f.outcome = some o) :
    (f.call.unclaimed o).toList = f.carried ++ f.answer.elim [] AioResult.messages ++ f.lost := by
  have given : ∀ res, f.AnsweredBy res → res.messages = (f.call.unclaimed o).toList := by
    rintro res ⟨o', finished', right⟩
    obtain rfl : o = o' := Option.some.inj (finished.symm.trans finished')
    exact right.messages
  unfold Flight.Sound at sound
  unfold Flight.carried Flight.lost
  cases stage : f.stage with
  | accepted =>
    rw [stage] at sound
    exact nomatch finished.symm.trans sound.1
  | armed | pending =>
    rw [stage] at sound
    exact nomatch finished.symm.trans sound.1
  | completed | entered | upgraded =>
    rw [stage] at sound
    simp [finished, sound.unanswered]
  | loaded | resulted =>
    rw [stage] at sound
    simp [finished, sound.1.unanswered]
  | judged | cleared =>
    rw [stage] at sound
    simp [finished, sound.2]
  | user =>
    rw [stage] at sound
    obtain ⟨res, right, answered⟩ := sound
    simp [answered, given res right]
  | refused =>
    rw [stage] at sound
    simp [finished, sound.2]
  | returned =>
    rw [stage] at sound
    cases answered : f.answer with
    | none => simp [finished]
    | some res => simp [given res (sound.2 res answered)]

/-- **The account of a flight.** -/
theorem Flight.accounts {slot : Option M} {result : NngErr} (sound : f.Sound slot result) :
    (f.story k).flatMap AioEvent.brings =
      (f.story k).flatMap AioEvent.takes ++
        (f.carried ++ (f.story k).flatMap AioEvent.hands ++ f.lost) := by
  rw [story_brings, story_takes, story_hands]
  rcases sound.progress with ⟨unfinished, unanswered, early⟩ | ⟨o, finished, allowed⟩
  · unfold Flight.carried Flight.lost
    rcases early with stage | stage | stage <;> simp [stage, unfinished, unanswered]
  · rw [← f.left_over sound finished, finished]
    exact Call.accounts allowed

end Account

/-! ### Losing a message -/

/-- No flight has lost its message. -/
def Aio.Intact (a : Aio M) : Prop :=
  ∀ (k : Nat) (f : Flight M), a.flights[k]? = some f → f.lost = []

section Losing

variable {a a' base : Aio M} {k : Nat} {f f' : Flight M} {action : AioAction M}
  {out : List (AioEvent M)} {o : Outcome M}

theorem Call.unclaimed_iff {result : NngErr} (c : Call M) (allowed : c.Allows o)
    (same : result = o.result) :
    (c.unclaimed o).isSome = true ↔
      c.state = .Sending ∧ result ≠ 0 ∨ c.state = .Receiving ∧ result = 0 := by
  subst same
  cases o with
  | sent stale =>
    have kind : c.state = .Sending := allowed
    simp [Call.unclaimed, Outcome.result, kind, NNG_OK]
  | received msg =>
    have kind : c.state = .Receiving := allowed
    simp [Call.unclaimed, Outcome.result, kind, NNG_OK]
  | slept =>
    have kind : c.state = .Sleeping := allowed
    simp [Call.unclaimed, kind]
  | failed code =>
    have wrong : (Outcome.failed code : Outcome M).result ≠ 0 := code.property
    simp only [Call.unclaimed, Option.isSome_map, wrong, ne_eq, not_false_eq_true, and_true,
      and_false, or_false]
    constructor
    · intro passed
      obtain ⟨msg, passed⟩ := Option.isSome_iff_exists.mp passed
      exact Call.state_of_message passed
    · intro kind
      obtain ⟨msg, passed⟩ := Call.message_of_sending kind
      rw [passed]
      rfl

theorem Aio.unclaimed_iff :
    a.unclaimed = true ↔ a.word = AioState.Sending.asUsize ∧ a.result ≠ 0 ∨
      a.word = AioState.Receiving.asUsize ∧ a.result = 0 := by
  simp [Aio.unclaimed]

/-- The state word and the result tell whether a flight left a message. -/
theorem unclaimed_of_unread (unread : f.Unread a.msg a.result)
    (word : a.word = f.call.state.asUsize) (finished : f.outcome = some o) :
    (f.call.unclaimed o).toList = [] ↔ a.unclaimed = false := by
  obtain ⟨o', finished', allowed, same, _⟩ := unread.finished
  obtain rfl : o = o' := Option.some.inj (finished.symm.trans finished')
  have read : ∀ state : AioState, a.word = state.asUsize ↔ f.call.state = state := fun state => by
    rw [word]
    exact ⟨AioState.asUsize_injective, congrArg _⟩
  rw [Option.toList_eq_nil_iff, ← Option.not_isSome_iff_eq_none, f.call.unclaimed_iff allowed same,
    ← read, ← read, ← Aio.unclaimed_iff, Bool.not_eq_true]

theorem Aio.abandons_of_stage (found : a.flights[k]? = some f) (other : f.stage.isEntered = false) :
    a.abandons (.advance k) = false := by
  rw [Aio.abandons, found, Option.any_some, other]
  rfl

theorem Hop.lost_iff (hop : Hop a k f action base f' out) (found : a.flights[k]? = some f)
    (sound : a.Sound) : f'.lost = [] ↔ f.lost = [] ∧ a.abandons action = false := by
  have known := sound.flights k f found
  cases hop with
  | sent _ _ stage | received _ stage | slept stage | failed _ stage | callback stage =>
    exact iff_of_true rfl ⟨by simp [Flight.lost, stage], rfl⟩
  | arm _ stage | load stage | read stage | judge _ stage | clear _ stage | invoke _ stage =>
    refine iff_of_true rfl ⟨by simp [Flight.lost, stage], Aio.abandons_of_stage found ?_⟩
    rw [stage]
    rfl
  | start at' =>
    rcases at' with ⟨stage, _⟩ | stage
    · refine iff_of_true rfl ⟨by simp [Flight.lost, stage], Aio.abandons_of_stage found ?_⟩
      rw [stage]
      rfl
    · refine iff_of_true rfl ⟨by simp [Flight.lost, stage], Aio.abandons_of_stage found ?_⟩
      rw [stage]
      rfl
  | upgrade stage alive =>
    refine iff_of_true rfl ⟨by simp [Flight.lost, stage], ?_⟩
    have live : (a.strong == 0) = false := beq_false_of_ne (Nat.pos_iff_ne_zero.mp alive)
    rw [Aio.abandons, live, Bool.and_false]
    rfl
  | refuse stage gone =>
    -- the one step that gives a message up
    unfold Flight.Sound at known
    rw [stage] at known
    obtain ⟨o, finished, _⟩ := known.finished
    have word := (sound.owned.holder k f found (by rw [stage]; rfl)).1
    have before : f.lost = [] := by simp [Flight.lost, stage]
    have after : Flight.lost { f with stage := .refused } = (f.call.unclaimed o).toList := by
      simp [Flight.lost, known.unanswered, finished]
    have enters : a.abandons (.advance k) = a.unclaimed := by
      simp [Aio.abandons, found, stage, Stage.isEntered, gone]
    rw [after, enters, and_iff_right before]
    exact unclaimed_of_unread known word finished
  | finish at' =>
    rcases at' with ⟨stage, _⟩ | stage
    · unfold Flight.Sound at known
      rw [stage] at known
      obtain ⟨res, _, answered⟩ := known
      refine iff_of_true ?_ ⟨by simp [Flight.lost, stage], Aio.abandons_of_stage found ?_⟩
      · simp [Flight.lost, answered]
      · rw [stage]
        rfl
    · have same : Flight.lost { f with stage := .returned } = f.lost := by
        simp only [Flight.lost, stage]
        cases f.answer <;> cases f.outcome <;> rfl
      rw [same, and_iff_left (Aio.abandons_of_stage found (by rw [stage]; rfl))]

/-- **A move loses a message exactly when it abandons one.** -/
theorem Move.intact_iff (move : Move a action a' out) (sound : a.Sound) :
    a'.Intact ↔ a.Intact ∧ a.abandons action = false := by
  cases move with
  | reject | lock | lockRejected | unlock | clone | drop | dropLast | stop =>
    exact (and_iff_left rfl).symm
  | nothing action which => rcases which with rfl | rfl <;> exact (and_iff_left rfl).symm
  | accept c =>
    refine Iff.trans ⟨fun intact k f found => ?_, fun intact k f at' => ?_⟩ (and_iff_left rfl).symm
    · have bound := (List.getElem?_eq_some_iff.mp found).1
      exact intact k f ((List.getElem?_append_left bound).trans found)
    · rcases getElem?_concat_cases at' with ⟨_, rfl⟩ | ⟨_, at'⟩
      · rfl
      · exact intact k f at'
  | @hop k f f' base _ _ found hop =>
    have found' : base.flights[k]? = some f := hop.frame.1 ▸ found
    have bound := (List.getElem?_eq_some_iff.mp found').1
    have lost := hop.lost_iff found sound
    constructor
    · intro intact
      have own := lost.mp (intact k f' (List.getElem?_set_self bound))
      refine ⟨fun j g at' => ?_, own.2⟩
      by_cases same : j = k
      · subst same
        obtain rfl := Option.some.inj (found.symm.trans at')
        exact own.1
      · refine intact j g ((List.getElem?_set_ne (Ne.symm same)).trans ?_)
        rw [hop.frame.1]
        exact at'
    · rintro ⟨intact, keeps⟩ j g at'
      rcases Aio.put_get found' at' with ⟨rfl, rfl⟩ | ⟨_, at'⟩
      · exact lost.mpr ⟨intact j f found, keeps⟩
      · rw [hop.frame.1] at at'
        exact intact j g at'

theorem intact_of_run {trace : List (Transition (Aio M) (AioAction M) (AioEvent M))}
    (run : (Aio.machine M).Run trace a) :
    a.Intact ↔ ∀ t ∈ trace, t.pre.abandons t.act = false := by
  induction run with
  | nil => exact iff_of_true (fun _ _ found => absurd found Aio.fresh_get) (by simp)
  | snoc earlier stepped ih =>
    have sound := (told_of_run earlier).1
    rw [List.forall_mem_append, List.forall_mem_singleton, ← ih]
    exact (step_move sound stepped).2.intact_iff sound

end Losing

/-! ### The messages of a run -/

section Settling

variable {a : Aio M} {k : Nat} {f : Flight M} {history : List (AioEvent M)}

/-- A call brings one message at most. -/
theorem story_brings_nodup {slot : Option M} {result : NngErr} (sound : f.Sound slot result) :
    ((f.story k).flatMap AioEvent.brings).Nodup := by
  rw [story_brings]
  have one : (f.call.message.map Message.intoPtr).toList.Nodup := by
    cases f.call.message <;> simp
  rcases sound.progress with ⟨unfinished, _⟩ | ⟨o, finished, allowed⟩
  · rw [unfinished, Option.elim_none, List.append_nil]
    exact one
  · rw [finished, Option.elim_some]
    cases o with
    | received msg =>
      rw [Call.message_eq_none allowed nofun]
      exact List.nodup_singleton msg
    | sent | slept | failed =>
      rw [Outcome.brings, List.append_nil]
      exact one

/-- The keepers of a flight's messages have everything but what is lost. -/
theorem held_add_lost (told : Told history a) (sound : a.Sound) (found : a.flights[k]? = some f) :
    ∑ o, held history a k o + (f.lost : Multiset M) = known k history := by
  have story := told.flights k f found
  have account := f.accounts (k := k) (sound.flights k f found)
  have three : ∑ o, held history a k o =
      held history a k .aio + (held history a k .library + held history a k .user) := by
    rw [show (Finset.univ : Finset Keeper) = {.aio, .library, .user} from rfl]
    simp only [Finset.sum_insert, Finset.mem_insert, Finset.mem_singleton, reduceCtorEq, or_self,
      not_false_eq_true, Finset.sum_singleton]
  rw [three]
  unfold held known
  rw [story, found, account]
  simp only [Option.elim_some, ← Multiset.coe_add]
  abel

theorem linear_iff (told : Told history a) (sound : a.Sound) :
    (∀ k, Custody.Linear (held history a k) (known k history)) ↔ a.Intact := by
  constructor
  · intro linear k f found
    have all := held_add_lost told sound found
    rw [(linear k).total] at all
    exact (Multiset.coe_eq_zero _).mp (add_eq_left.mp all)
  · intro intact k
    cases found : a.flights[k]? with
    | none =>
      have nothing := told.others k found
      have none' : known k history = 0 := by
        unfold known
        rw [nothing]
        rfl
      refine ⟨?_, none' ▸ Multiset.nodup_zero⟩
      rw [none']
      refine Finset.sum_eq_zero fun o _ => ?_
      cases o <;> simp [held, found, nothing]
    | some f =>
      have all := held_add_lost told sound found
      rw [intact k f found, Multiset.coe_nil, add_zero] at all
      refine ⟨all, ?_⟩
      unfold known
      rw [told.flights k f found]
      exact Multiset.coe_nodup.mpr (story_brings_nodup (sound.flights k f found))

/-- In a freed `Aio` every flight is over. -/
theorem carried_of_freed (sound : a.Sound) (freed : a.life = .freed)
    (found : a.flights[k]? = some f) : f.carried = [] := by
  have quiet := List.all_eq_true.mp (sound.freed freed) f (List.mem_of_getElem? found)
  have gone : a.pool = 0 := by
    rcases sound.life with ⟨alive, _⟩ | ⟨_, none⟩
    · rw [freed] at alive
      cases alive
    · exact (Aio.strong_eq_zero none).1
  have idle : f.stage.borrows = false := Bool.eq_false_iff.mpr fun borrows => by
    have handles := sound.borrow (Bool.or_eq_true_iff.mpr
      (.inr (List.any_eq_true.mpr ⟨f, List.mem_of_getElem? found, borrows⟩)))
    omega
  unfold Flight.carried
  cases stage : f.stage with
  | user | refused | returned => rfl
  | accepted | armed =>
    rw [stage] at idle
    cases idle
  | pending | completed | entered | upgraded | loaded | resulted | judged | cleared =>
    rw [stage] at quiet
    cases quiet

/-- **No message is lost in exactly these runs**: no invocation of the trampoline finds the `Arc` gone
while a failed send or a successful receive waits in the `nng_aio`. In them, and in no others, every
message that a call brought has exactly one keeper: the `Aio` on its way to the closure, the library,
or the user; and once the `nng_aio` is freed, it is not the `Aio`. -/
theorem aio_messages_settled_iff {trace : List (Transition (Aio M) (AioAction M) (AioEvent M))}
    (run : (Aio.machine M).Run trace a) :
    Settled (events trace) a ↔ ∀ t ∈ trace, t.pre.abandons t.act = false := by
  obtain ⟨sound, told⟩ := told_of_run run
  have past : a.life = .freed → ∀ k, held (events trace) a k .aio = 0 := by
    intro freed k
    cases found : a.flights[k]? with
    | none => simp [held, found]
    | some f => simp [held, found, carried_of_freed sound freed found]
  exact (and_iff_left past).trans ((linear_iff told sound).trans (intact_of_run run))

end Settling

/-- The last handle goes while a send is pending, and the send succeeds all the same. -/
theorem aio_messages_settled_sent :
    ∃ (trace : List (Transition (Aio Nat) (AioAction Nat) (AioEvent Nat))) (a : Aio Nat),
      (Aio.machine Nat).Run trace a ∧ a.life = .freed ∧ Settled (events trace) a := by
  have run := run_of_replay (M := Aio.machine Nat)
    [.call (.sendSocket (.fromPtr 7)), .advance 0, .advance 0, .dropHandle none,
      .complete 0 (.sent false), .callback 0, .advance 0, .advance 0, .stop]
    rfl
  exact ⟨_, _, run, rfl, (aio_messages_settled_iff run).mpr (by decide)⟩

/-- **Not every message is settled**: the last handle goes while a send is pending, `nng_aio_stop`
aborts the send, and its callback finds the `Arc` gone; the message is left in the freed `nng_aio`. -/
theorem aio_message_lost :
    ¬∀ (trace : List (Transition (Aio Nat) (AioAction Nat) (AioEvent Nat))) (a : Aio Nat),
      (Aio.machine Nat).Run trace a → Settled (events trace) a := by
  intro always
  have run := run_of_replay (M := Aio.machine Nat)
    [.call (.sendSocket (.fromPtr 7)), .advance 0, .advance 0, .dropHandle none,
      .complete 0 (.failed ⟨20, by decide⟩), .callback 0, .advance 0, .advance 0, .stop]
    rfl
  exact absurd ((always _ _ run).1 0).total (by decide)

end NngRs.Nng
