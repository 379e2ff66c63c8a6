/-
**What holds of a shared `Aio` at every moment.**

* `Answers` — what a call is answered with, for what the library did: the variant of its own kind, and
  `Ok` or `Err` as `nng_aio_result` has it.
* `Flight.Sound` — what is known of a flight at each of its stages. While it has the state word, the
  slot and the result of the `nng_aio` are its own.
* `Aio.Sound` — the state word belongs to one flight or to one call of `set_timeout` at a time; a call
  runs on a live handle; `Inner::drop` begins when the last `Arc` goes.
-/

import NngRs.Nng.Aio

namespace NngRs.Nng

open NngRs.Sys EventMachine

variable {M : Type}

/-- **What a call is to be answered with.** -/
inductive Answers : Call M → Outcome M → AioResult M → Prop
  | sent (c : Call M) (stale : Bool) : c.state = .Sending →
      Answers c (.sent stale) (.Send (.ok ()))
  | sendFailed (c : Call M) (msg : Message M) (code : NonZeroU32) : c.message = some msg →
      Answers c (.failed code) (.Send (.error (.fromPtr msg.intoPtr, .fromCode code)))
  | received (c : Call M) (msg : M) : c.state = .Receiving →
      Answers c (.received msg) (.Recv (.ok (.fromPtr msg)))
  | recvFailed (c : Call M) (code : NonZeroU32) : c.state = .Receiving →
      Answers c (.failed code) (.Recv (.error (.fromCode code)))
  | slept (c : Call M) : c.state = .Sleeping → Answers c .slept (.Sleep (.ok ()))
  | sleepFailed (c : Call M) (code : NonZeroU32) : c.state = .Sleeping →
      Answers c (.failed code) (.Sleep (.error (.fromCode code)))

/-- `nng_aio_result` after an outcome. -/
def Outcome.result : Outcome M → NngErr
  | .sent _ | .received _ | .slept => NNG_OK
  | .failed code => code.val

/-- The message an outcome leaves in the slot for the callback. -/
def Call.unclaimed (c : Call M) : Outcome M → Option M
  | .sent _ | .slept => none
  | .received msg => some msg
  | .failed _ => c.message.map Message.intoPtr

/-- The outcomes an operation can have. -/
def Call.Allows (c : Call M) : Outcome M → Prop
  | .sent _ => c.state = .Sending
  | .received _ => c.state = .Receiving
  | .slept => c.state = .Sleeping
  | .failed _ => True

/-- The result and the message of a finished flight are still in the `nng_aio`. -/
structure Flight.Unread (f : Flight M) (slot : Option M) (result : NngErr) : Prop where
  finished : ∃ o, f.outcome = some o ∧ f.call.Allows o ∧ result = o.result ∧
    ∀ msg, f.call.unclaimed o = some msg → slot = some msg
  unanswered : f.answer = none

/-- The library has finished a flight. -/
def Flight.Finished (f : Flight M) : Prop := ∃ o, f.outcome = some o ∧ f.call.Allows o

/-- An answer is right, for what the library did. -/
def Flight.AnsweredBy (f : Flight M) (res : AioResult M) : Prop :=
  ∃ o, f.outcome = some o ∧ Answers f.call o res

/-- **What is known of a flight at each stage.** -/
def Flight.Sound (f : Flight M) (slot : Option M) (result : NngErr) : Prop :=
  match f.stage with
  | .accepted => f.outcome = none ∧ f.answer = none
  | .armed | .pending => f.outcome = none ∧ f.answer = none ∧
      ∀ msg, f.call.message = some msg → slot = some msg.intoPtr
  | .completed | .entered | .upgraded => f.Unread slot result
  | .loaded state => f.Unread slot result ∧ state = f.call.state
  | .resulted state rv => f.Unread slot result ∧ state = f.call.state ∧ rv = result
  | .judged res | .cleared res => f.AnsweredBy res ∧ f.answer = none
  | .user => ∃ res, f.AnsweredBy res ∧ f.answer = some res
  | .refused => f.Finished ∧ f.answer = none
  | .returned => f.Finished ∧ ∀ res, f.answer = some res → f.AnsweredBy res

namespace Aio

/-- The state word belongs to the flights in `holder` or to the calls of `set_timeout`, never to two
of them at once. -/
structure WordOwned (a : Aio M) : Prop where
  holder : ∀ (k : Nat) (f : Flight M), a.flights[k]? = some f → f.stage.holdsWord = true →
    a.word = f.call.state.asUsize ∧ a.locks = [] ∧
      ∀ (j : Nat) (g : Flight M), a.flights[j]? = some g → g.stage.holdsWord = true → j = k
  locked : ∀ ms, ms ∈ a.locks → a.locks = [ms] ∧ a.word = AioState.Sleeping.asUsize

/-- **The invariant of a shared `Aio`.** -/
structure Sound (a : Aio M) : Prop where
  owned : a.WordOwned
  flights : ∀ (k : Nat) (f : Flight M), a.flights[k]? = some f → f.Sound a.msg a.result
  borrow : a.borrowed = true → 0 < a.pool
  life : (a.life = .alive ∧ 0 < a.strong) ∨
    ((a.life = .freed ∨ ∃ closure, a.life = .stopping closure) ∧ a.strong = 0)
  freed : a.life = .freed → a.quiet = true

end Aio

/-! ### Flights and the word -/

theorem Call.state_ne_inactive (c : Call M) : c.state ≠ .Inactive := by
  cases c <;> nofun

theorem Call.message_of_sending {c : Call M} (sends : c.state = .Sending) :
    ∃ msg, c.message = some msg := by
  cases c with
  | sendSocket msg | sendCtx msg => exact ⟨msg, rfl⟩
  | recvSocket | recvCtx | sleep => cases sends

theorem Call.state_of_message {c : Call M} {msg : Message M} (passes : c.message = some msg) :
    c.state = .Sending := by
  cases c with
  | sendSocket | sendCtx => rfl
  | recvSocket | recvCtx | sleep => cases passes

theorem Call.message_eq_none {c : Call M} {state : AioState} (kind : c.state = state)
    (other : state ≠ .Sending) : c.message = none := by
  cases passed : c.message with
  | none => rfl
  | some msg => exact absurd (kind.symm.trans (Call.state_of_message passed)) other

theorem Answers.allows {c : Call M} {o : Outcome M} {res : AioResult M} (right : Answers c o res) :
    c.Allows o := by
  cases right with
  | sent _ kind | received _ kind | slept kind => exact kind
  | sendFailed | recvFailed | sleepFailed => trivial

theorem Flight.AnsweredBy.finished {f : Flight M} {res : AioResult M} (right : f.AnsweredBy res) :
    f.Finished := by
  obtain ⟨o, finished, answers⟩ := right
  exact ⟨o, finished, answers.allows⟩

/-- What a call is answered with, computed. -/
def Call.answer (c : Call M) : Outcome M → AioResult M
  | .sent _ => .Send (.ok ())
  | .received msg => .Recv (.ok (.fromPtr msg))
  | .slept => .Sleep (.ok ())
  | .failed code =>
    match c with
    | .sendSocket msg | .sendCtx msg => .Send (.error (.fromPtr msg.intoPtr, .fromCode code))
    | .recvSocket | .recvCtx => .Recv (.error (.fromCode code))
    | .sleep _ => .Sleep (.error (.fromCode code))

/-- A call has one answer. -/
theorem Answers.eq {c : Call M} {o : Outcome M} {res : AioResult M} (right : Answers c o res) :
    res = c.answer o := by
  cases right with
  | sent | received | slept => rfl
  | sendFailed msg code passes =>
    cases c with
    | sendSocket | sendCtx =>
      cases passes
      rfl
    | recvSocket | recvCtx | sleep => cases passes
  | recvFailed code kind =>
    cases c with
    | recvSocket | recvCtx => rfl
    | sendSocket | sendCtx | sleep => cases kind
  | sleepFailed code kind =>
    cases c with
    | sleep => rfl
    | sendSocket | sendCtx | recvSocket | recvCtx => cases kind

/-- An answer is one, for what the library did. -/
theorem Flight.AnsweredBy.eq {f : Flight M} {o : Outcome M} {res : AioResult M} (right : f.AnsweredBy res)
    (finished : f.outcome = some o) : res = f.call.answer o := by
  obtain ⟨o', finished', answers⟩ := right
  cases finished.symm.trans finished'
  exact answers.eq

/-- A flight is before its outcome, or has one. -/
theorem Flight.Sound.progress {f : Flight M} {slot : Option M} {result : NngErr}
    (sound : f.Sound slot result) :
    (f.outcome = none ∧ f.answer = none ∧
      (f.stage = .accepted ∨ f.stage = .armed ∨ f.stage = .pending)) ∨ f.Finished := by
  unfold Flight.Sound at sound
  cases stage : f.stage with
  | accepted =>
    rw [stage] at sound
    exact .inl ⟨sound.1, sound.2, .inl rfl⟩
  | armed =>
    rw [stage] at sound
    exact .inl ⟨sound.1, sound.2.1, .inr (.inl rfl)⟩
  | pending =>
    rw [stage] at sound
    exact .inl ⟨sound.1, sound.2.1, .inr (.inr rfl)⟩
  | completed | entered | upgraded =>
    rw [stage] at sound
    obtain ⟨o, finished, allowed, _⟩ := sound.finished
    exact .inr ⟨o, finished, allowed⟩
  | loaded | resulted =>
    rw [stage] at sound
    obtain ⟨o, finished, allowed, _⟩ := sound.1.finished
    exact .inr ⟨o, finished, allowed⟩
  | judged | cleared =>
    rw [stage] at sound
    exact .inr sound.1.finished
  | user =>
    rw [stage] at sound
    obtain ⟨res, right, _⟩ := sound
    exact .inr right.finished
  | refused | returned =>
    rw [stage] at sound
    exact .inr sound.1

/-- A flight without the word does not depend on the `nng_aio`. -/
theorem Flight.Sound.frame {f : Flight M} {slot slot' : Option M} {result result' : NngErr}
    (sound : f.Sound slot result) (free : f.stage.holdsWord = false) : f.Sound slot' result' := by
  unfold Flight.Sound at sound ⊢
  cases stage : f.stage with
  | cleared | user | refused | returned => rw [stage] at sound; exact sound
  | accepted | armed | pending | completed | entered | upgraded | loaded | resulted | judged =>
    rw [stage] at free
    cases free

namespace Aio

/-- An inactive word belongs to nobody. -/
theorem WordOwned.free_of_inactive {a : Aio M} (owned : a.WordOwned)
    (inactive : a.word = AioState.Inactive.asUsize) :
    a.locks = [] ∧ ∀ (k : Nat) (f : Flight M), a.flights[k]? = some f → f.stage.holdsWord = false := by
  constructor
  · refine List.eq_nil_iff_forall_not_mem.mpr fun ms member => ?_
    cases inactive.symm.trans (owned.locked ms member).2
  · intro k f found
    refine Bool.eq_false_iff.mpr fun holds => ?_
    have same := inactive.symm.trans (owned.holder k f found holds).1
    exact f.call.state_ne_inactive (AioState.asUsize_injective same).symm

theorem put_get {a : Aio M} {k j : Nat} {f f' g : Flight M} (found : a.flights[k]? = some f)
    (at' : (a.put k f').flights[j]? = some g) :
    (j = k ∧ g = f') ∨ (j ≠ k ∧ a.flights[j]? = some g) := by
  unfold Aio.put at at'
  exact getElem?_set_cases found at'

/-- The number of `Arc`s after a flight has moved. -/
theorem strong_put {a : Aio M} {k : Nat} {f f' : Flight M} (found : a.flights[k]? = some f) :
    (a.put k f').strong + (if f.stage.holdsArc = true then 1 else 0) =
      a.strong + if f'.stage.holdsArc = true then 1 else 0 := by
  obtain ⟨bound, here⟩ := List.getElem?_eq_some_iff.mp found
  have counted : (if f.stage.holdsArc = true then 1 else 0) ≤
      a.flights.countP fun g => g.stage.holdsArc := by
    split_ifs with holds
    · exact List.one_le_countP_iff.mpr ⟨f, List.mem_of_getElem? found, holds⟩
    · exact Nat.zero_le _
  show a.pool + (a.flights.set k f').countP _ + _ = a.pool + a.flights.countP _ + _
  rw [List.countP_set bound, here]
  omega

theorem strong_eq_zero {a : Aio M} (none : a.strong = 0) :
    a.pool = 0 ∧ ∀ (k : Nat) (f : Flight M), a.flights[k]? = some f → f.stage.holdsArc = false := by
  unfold strong at none
  refine ⟨by omega, fun k f found => ?_⟩
  have counted : a.flights.countP (fun g => g.stage.holdsArc) = 0 := by omega
  exact Bool.eq_false_iff.mpr (List.countP_eq_zero.mp counted f (List.mem_of_getElem? found))

theorem Sound.alive_of_pool {a : Aio M} (sound : a.Sound) (handles : 0 < a.pool) :
    a.life = .alive := by
  rcases sound.life with ⟨alive, _⟩ | ⟨_, none⟩
  · exact alive
  · have := (strong_eq_zero none).1
    omega

/-- A call of `set_timeout` that is under way runs on a live handle. -/
theorem Sound.pool_of_locked {a : Aio M} (sound : a.Sound) {ms : Int} (only : a.locks = [ms]) :
    0 < a.pool := by
  refine sound.borrow ?_
  unfold borrowed
  rw [only]
  rfl

theorem fresh_get {k : Nat} {f : Flight M} : (fresh : Aio M).flights[k]? ≠ some f := by
  rw [show (fresh : Aio M).flights = [] from rfl, List.getElem?_nil]
  exact (Option.some_ne_none f).symm

theorem fresh_sound : (fresh : Aio M).Sound where
  owned := ⟨fun _ _ found => absurd found fresh_get, fun _ member => absurd member List.not_mem_nil⟩
  flights := fun _ _ found => absurd found fresh_get
  borrow := fun borrowed => absurd borrowed Bool.false_ne_true
  life := .inl ⟨rfl, Nat.zero_lt_one⟩
  freed := fun freed => by cases freed

end Aio

end NngRs.Nng
