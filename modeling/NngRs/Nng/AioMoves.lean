/-
**What a step of a sound `Aio` can be.**

* `Hop` — one constructor for each way a flight goes on: the `Aio` as the step leaves it, before the
  flight is put back, the flight, and the events.
* `Move` — a hop of one flight, or a step of the users' threads, or the end of `nng_aio_stop`. The
  arms of the bounce closure that panic are gone.
* `step_move` — every step of a sound `Aio` is a move, and `Move.sound` — a move leaves a sound one, so
  every reachable `Aio` is sound. `Hop.stepped` — every hop is a step.
-/

import NngRs.Nng.AioSound

namespace NngRs.Nng

open NngRs.Sys EventMachine

variable {M : Type}

/-- **How a flight goes on.** -/
inductive Hop (a : Aio M) (k : Nat) (f : Flight M) :
    AioAction M → Aio M → Flight M → List (AioEvent M) → Prop
  | arm (msg : Message M) : f.stage = .accepted → f.call.message = some msg →
      Hop a k f (.advance k) { a with msg := some msg.intoPtr } { f with stage := .armed } []
  | start : f.stage = .accepted ∧ f.call.message = none ∨ f.stage = .armed →
      Hop a k f (.advance k) a { f with stage := .pending }
        [.started k f.call.native, .returned f.call.ok]
  | sent (msg : M) (stale : Bool) : f.stage = .pending → f.call.state = .Sending →
      a.msg = some msg →
      Hop a k f (.complete k (.sent stale))
        { a with msg := if stale then some msg else none, result := NNG_OK }
        { f with stage := .completed, outcome := some (.sent stale) }
        [.completed k (.sent stale), .consumed k msg]
  | received (msg : M) : f.stage = .pending → f.call.state = .Receiving →
      Hop a k f (.complete k (.received msg)) { a with msg := some msg, result := NNG_OK }
        { f with stage := .completed, outcome := some (.received msg) } [.completed k (.received msg)]
  | slept : f.stage = .pending → f.call.state = .Sleeping →
      Hop a k f (.complete k .slept) { a with result := NNG_OK }
        { f with stage := .completed, outcome := some .slept } [.completed k .slept]
  | failed (code : NonZeroU32) : f.stage = .pending →
      Hop a k f (.complete k (.failed code)) { a with result := code.val }
        { f with stage := .completed, outcome := some (.failed code) } [.completed k (.failed code)]
  | callback : f.stage = .completed → Hop a k f (.callback k) a { f with stage := .entered } []
  | upgrade : f.stage = .entered → 0 < a.strong →
      Hop a k f (.advance k) a { f with stage := .upgraded } []
  | refuse : f.stage = .entered → a.strong = 0 →
      Hop a k f (.advance k) a { f with stage := .refused } []
  | load : f.stage = .upgraded →
      Hop a k f (.advance k) a { f with stage := .loaded f.call.state } []
  | read : f.stage = .loaded f.call.state →
      Hop a k f (.advance k) a { f with stage := .resulted f.call.state a.result } []
  | judge (res : AioResult M) : f.stage = .resulted f.call.state a.result → f.AnsweredBy res →
      Hop a k f (.advance k) a { f with stage := .judged res } []
  | clear (res : AioResult M) : f.stage = .judged res →
      Hop a k f (.advance k) { a with word := AioState.Inactive.asUsize }
        { f with stage := .cleared res } []
  | invoke (res : AioResult M) : f.stage = .cleared res →
      Hop a k f (.advance k) { a with pool := a.pool + 1 }
        { f with stage := .user, answer := some res } [.invoked k res]
  | finish : f.stage = .user ∧ a.life ≠ .stopping (some k) ∨ f.stage = .refused →
      Hop a k f (.advance k) a { f with stage := .returned } []

/-- **The steps of a sound `Aio`.** -/
inductive Move (a : Aio M) : AioAction M → Aio M → List (AioEvent M) → Prop
  | accept (c : Call M) : 0 < a.pool → a.word = AioState.Inactive.asUsize →
      Move a (.call c)
        { a with
          word := c.state.asUsize
          flights := a.flights ++ [⟨c, none, none, .accepted⟩] }
        [.accepted a.flights.length c]
  | reject (c : Call M) : 0 < a.pool → a.word ≠ AioState.Inactive.asUsize →
      Move a (.call c) a [.returned c.incorrectState]
  | lock (dur : Option Duration) : 0 < a.pool → a.word = AioState.Inactive.asUsize →
      Move a (.setTimeout dur)
        { a with word := AioState.Sleeping.asUsize, locks := [durationToNng dur] } []
  | lockRejected (dur : Option Duration) : 0 < a.pool → a.word ≠ AioState.Inactive.asUsize →
      Move a (.setTimeout dur) a [.returned (.result (.error .IncorrectState))]
  | unlock (ms : Int) : a.locks = [ms] →
      Move a (.storeTimeout 0)
        { a with timeout := ms, word := AioState.Inactive.asUsize, locks := [] }
        [.timeoutSet ms, .returned (.result (.ok ()))]
  | nothing (action : AioAction M) : action = .cancel ∨ action = .wait → 0 < a.pool →
      Move a action a []
  | clone : 0 < a.pool → Move a .clone { a with pool := a.pool + 1 } []
  | drop (closure : Option Nat) : 0 < a.pool → (a.pool = 1 → a.borrowed = false) → 1 < a.strong →
      Move a (.dropHandle closure) { a with pool := a.pool - 1 } []
  | dropLast (closure : Option Nat) : a.pool = 1 → a.borrowed = false → a.runs closure = true →
      a.strong = 1 → Move a (.dropHandle closure) { a with pool := 0, life := .stopping closure } []
  | hop {k : Nat} {f f' : Flight M} {base : Aio M} {action : AioAction M} {out : List (AioEvent M)} :
      a.flights[k]? = some f → Hop a k f action base f' out → Move a action (base.put k f') out
  | stop (closure : Option Nat) : a.life = .stopping closure → a.quiet = true →
      Move a .stop { a with life := .freed } []

/-! ### Every step of a sound `Aio` is a move -/

section StepMove

variable {a a' : Aio M} {k : Nat} {f : Flight M} {out : List (AioEvent M)}

theorem nonZero_val (code : NonZeroU32) : Aio.nonZero code.val = some code := dif_pos code.property

/-- **The bounce closure does not panic**, and builds the right answer. -/
theorem bounceResult_answers {slot : Option M} {result : NngErr} (unread : f.Unread slot result) :
    ∃ res, Aio.bounceResult slot f.call.state result = .ok res ∧ f.AnsweredBy res := by
  obtain ⟨o, finished, allowed, rfl, claimed⟩ := unread.finished
  cases o with
  | sent stale =>
    have sends : f.call.state = .Sending := allowed
    refine ⟨.Send (.ok ()), ?_, _, finished, .sent _ _ sends⟩
    rw [sends]
    rfl
  | received msg =>
    have receives : f.call.state = .Receiving := allowed
    refine ⟨.Recv (.ok (.fromPtr msg)), ?_, _, finished, .received _ _ receives⟩
    rw [receives, claimed msg rfl]
    rfl
  | slept =>
    have sleeps : f.call.state = .Sleeping := allowed
    refine ⟨.Sleep (.ok ()), ?_, _, finished, .slept _ sleeps⟩
    rw [sleeps]
    rfl
  | failed code =>
    have wrong : ¬(Outcome.failed code : Outcome M).result = 0 := code.property
    have read : Aio.nonZero (Outcome.failed code : Outcome M).result = some code := nonZero_val code
    cases kind : f.call.state with
    | Inactive => exact absurd kind f.call.state_ne_inactive
    | Sending =>
      obtain ⟨msg, passed⟩ := Call.message_of_sending kind
      have held : slot = some msg.intoPtr := claimed msg.intoPtr (by
        rw [Call.unclaimed, passed, Option.map_some])
      refine ⟨.Send (.error (.fromPtr msg.intoPtr, .fromCode code)), ?_, _, finished,
        .sendFailed _ _ _ passed⟩
      simp only [Aio.bounceResult, wrong, if_false, held, read]
    | Receiving =>
      refine ⟨.Recv (.error (.fromCode code)), ?_, _, finished, .recvFailed _ _ kind⟩
      simp only [Aio.bounceResult, wrong, if_false, read]
    | Sleeping =>
      refine ⟨.Sleep (.error (.fromCode code)), ?_, _, finished, .sleepFailed _ _ kind⟩
      simp only [Aio.bounceResult, wrong, if_false, read]

theorem advance_move (sound : a.Sound) (found : a.flights[k]? = some f)
    (stepped : a.advance k f = some (a', out)) : Move a (.advance k) a' out := by
  have known := sound.flights k f found
  unfold Flight.Sound at known
  unfold Aio.advance at stepped
  cases stage : f.stage with
  | pending | completed | returned => rw [stage] at stepped; cases stepped
  | accepted =>
    simp only [stage] at stepped
    cases passed : f.call.message with
    | some msg =>
      rw [passed] at stepped
      cases stepped
      exact .hop found (.arm msg stage passed)
    | none =>
      rw [passed] at stepped
      cases stepped
      exact .hop found (.start (.inl ⟨stage, passed⟩))
  | armed =>
    simp only [stage] at stepped
    cases stepped
    exact .hop found (.start (.inr stage))
  | entered =>
    simp only [stage] at stepped
    by_cases gone : a.strong = 0
    · rw [if_pos gone] at stepped
      cases stepped
      exact .hop found (.refuse stage gone)
    · rw [if_neg gone] at stepped
      cases stepped
      exact .hop found (.upgrade stage (Nat.pos_of_ne_zero gone))
  | upgraded =>
    have word := (sound.owned.holder k f found (by rw [stage]; rfl)).1
    simp only [stage, word, AioState.fromUsize_asUsize] at stepped
    cases stepped
    exact .hop found (.load stage)
  | loaded state =>
    rw [stage] at known
    obtain ⟨_, rfl⟩ := known
    simp only [stage] at stepped
    cases stepped
    exact .hop found (.read stage)
  | resulted state rv =>
    rw [stage] at known
    obtain ⟨unread, rfl, rfl⟩ := known
    obtain ⟨res, built, right⟩ := bounceResult_answers unread
    simp only [stage, built] at stepped
    cases stepped
    exact .hop found (.judge res stage right)
  | judged res =>
    simp only [stage] at stepped
    cases stepped
    exact .hop found (.clear res stage)
  | cleared res =>
    simp only [stage] at stepped
    cases stepped
    exact .hop found (.invoke res stage)
  | user =>
    simp only [stage] at stepped
    by_cases own : a.life = .stopping (some k)
    · rw [if_pos own] at stepped
      cases stepped
    · rw [if_neg own] at stepped
      cases stepped
      exact .hop found (.finish (.inl ⟨stage, own⟩))
  | refused =>
    simp only [stage] at stepped
    cases stepped
    exact .hop found (.finish (.inr stage))

theorem complete_move (found : a.flights[k]? = some f) {outcome : Outcome M}
    (stepped : a.complete k f outcome = some (a', out)) : Move a (.complete k outcome) a' out := by
  unfold Aio.complete at stepped
  cases stage : f.stage with
  | pending =>
    simp only [stage] at stepped
    cases outcome with
    | failed code =>
      cases stepped
      exact .hop found (.failed code stage)
    | sent stale =>
      cases kind : f.call.state with
      | Inactive | Receiving | Sleeping => rw [kind] at stepped; cases stepped
      | Sending =>
        rw [kind] at stepped
        cases held : a.msg with
        | none => simp only [held] at stepped; cases stepped
        | some msg =>
          simp only [held] at stepped
          cases stepped
          exact .hop found (.sent msg stale stage kind held)
    | received msg =>
      cases kind : f.call.state with
      | Inactive | Sending | Sleeping => rw [kind] at stepped; cases stepped
      | Receiving =>
        rw [kind] at stepped
        cases stepped
        exact .hop found (.received msg stage kind)
    | slept =>
      cases kind : f.call.state with
      | Inactive | Sending | Receiving => rw [kind] at stepped; cases stepped
      | Sleeping =>
        rw [kind] at stepped
        cases stepped
        exact .hop found (.slept stage kind)
  | accepted | armed | completed | entered | upgraded | loaded | resulted | judged | cleared | user
  | refused | returned => rw [stage] at stepped; cases stepped

theorem callback_move (found : a.flights[k]? = some f)
    (stepped : a.callback k f = some (a', out)) : Move a (.callback k) a' out := by
  unfold Aio.callback at stepped
  cases stage : f.stage with
  | completed =>
    rw [stage] at stepped
    cases stepped
    exact .hop found (.callback stage)
  | accepted | armed | pending | entered | upgraded | loaded | resulted | judged | cleared | user
  | refused | returned => rw [stage] at stepped; cases stepped

theorem call_move (handles : 0 < a.pool) (c : Call M) :
    Move a (.call c) (a.call c).1 (a.call c).2 := by
  unfold Aio.call Aio.compareExchange
  by_cases inactive : a.word = AioState.Inactive.asUsize
  · rw [if_pos inactive]
    exact .accept c handles inactive
  · rw [if_neg inactive]
    exact .reject c handles inactive

theorem setTimeout_move (sound : a.Sound) (handles : 0 < a.pool) (dur : Option Duration) :
    Move a (.setTimeout dur) (a.setTimeout dur).1 (a.setTimeout dur).2 := by
  unfold Aio.setTimeout Aio.compareExchange
  by_cases inactive : a.word = AioState.Inactive.asUsize
  · rw [if_pos inactive]
    have shape := Move.lock (a := a) dur handles inactive
    rw [← (sound.owned.free_of_inactive inactive).1] at shape
    exact shape
  · rw [if_neg inactive]
    exact .lockRejected dur handles inactive

/-- **Every step of a sound `Aio` is a move**, and the `Inner` was there. -/
theorem step_move (sound : a.Sound) {action : AioAction M}
    (stepped : a.step action = some (a', out)) :
    a.life ≠ .freed ∧ Move a action a' out := by
  unfold Aio.step at stepped
  split_ifs at stepped with past
  refine ⟨fun freed => past (.inl freed), ?_⟩
  unfold Aio.act at stepped
  cases action with
  | call c =>
    simp only at stepped
    split_ifs at stepped with handles
    have move := call_move handles c
    rw [Option.some.inj stepped] at move
    exact move
  | setTimeout dur =>
    simp only at stepped
    split_ifs at stepped with handles
    have move := setTimeout_move sound handles dur
    rw [Option.some.inj stepped] at move
    exact move
  | storeTimeout lock =>
    simp only at stepped
    cases found : a.locks[lock]? with
    | none => rw [found] at stepped; cases stepped
    | some ms =>
      rw [found] at stepped
      have only := (sound.owned.locked ms (List.mem_of_getElem? found)).1
      rw [only] at found
      cases lock with
      | succ lock => cases found
      | zero =>
        simp only [Aio.storeTimeout, only] at stepped
        cases stepped
        exact .unlock ms only
  | cancel =>
    simp only at stepped
    split_ifs at stepped with handles
    cases stepped
    exact .nothing .cancel (.inl rfl) handles
  | wait =>
    simp only at stepped
    split_ifs at stepped with ready
    cases stepped
    exact .nothing .wait (.inr rfl) ready.1
  | clone =>
    simp only at stepped
    split_ifs at stepped with handles
    cases stepped
    exact .clone handles
  | dropHandle closure =>
    simp only at stepped
    split_ifs at stepped with free
    obtain ⟨handles, idle, running⟩ := free
    unfold Aio.dropHandle at stepped
    by_cases last : a.strong = 1
    · rw [if_pos last] at stepped
      have single : a.pool = 1 := by
        unfold Aio.strong at last
        omega
      cases stepped
      have shape := Move.dropLast closure single (idle single) running last
      simp only [single]
      exact shape
    · rw [if_neg last] at stepped
      cases stepped
      refine .drop closure handles idle ?_
      unfold Aio.strong at last ⊢
      omega
  | advance k =>
    simp only at stepped
    cases found : a.flights[k]? with
    | none => rw [found] at stepped; cases stepped
    | some f =>
      rw [found] at stepped
      exact advance_move sound found stepped
  | complete k outcome =>
    simp only at stepped
    cases found : a.flights[k]? with
    | none => rw [found] at stepped; cases stepped
    | some f =>
      rw [found] at stepped
      exact complete_move found stepped
  | callback k =>
    simp only at stepped
    cases found : a.flights[k]? with
    | none => rw [found] at stepped; cases stepped
    | some f =>
      rw [found] at stepped
      exact callback_move found stepped
  | stop =>
    simp only at stepped
    cases life : a.life with
    | alive | freed | aborted => rw [life] at stepped; cases stepped
    | stopping closure =>
      simp only [life] at stepped
      split_ifs at stepped with ready
      cases stepped
      exact .stop closure life ready

/-- **And every hop is a step.** -/
theorem Hop.stepped {base : Aio M} {f' : Flight M} {action : AioAction M} (sound : a.Sound)
    (exists' : a.life ≠ .freed ∧ a.life ≠ .aborted) (found : a.flights[k]? = some f)
    (hop : Hop a k f action base f' out) :
    (Aio.machine M).step a action = some (base.put k f', out) := by
  have known := sound.flights k f found
  unfold Flight.Sound at known
  show a.step action = _
  unfold Aio.step
  rw [if_neg (not_or.mpr exists')]
  cases hop with
  | arm msg stage passed => simp only [Aio.act, found, Aio.advance, stage, passed]
  | start at' =>
    rcases at' with ⟨stage, passed⟩ | stage
    · simp only [Aio.act, found, Aio.advance, stage, passed, Aio.start]
    · simp only [Aio.act, found, Aio.advance, stage, Aio.start]
  | sent msg stale stage kind held => simp only [Aio.act, found, Aio.complete, stage, kind, held]
  | received msg stage kind => simp only [Aio.act, found, Aio.complete, stage, kind]
  | slept stage kind => simp only [Aio.act, found, Aio.complete, stage, kind]
  | failed code stage => simp only [Aio.act, found, Aio.complete, stage]
  | callback stage => simp only [Aio.act, found, Aio.callback, stage]
  | upgrade stage some =>
    simp only [Aio.act, found, Aio.advance, stage, if_neg (Nat.ne_of_gt some)]
  | refuse stage gone => simp only [Aio.act, found, Aio.advance, stage, if_pos gone]
  | load stage =>
    have word := (sound.owned.holder k f found (by rw [stage]; rfl)).1
    simp only [Aio.act, found, Aio.advance, stage, word, AioState.fromUsize_asUsize]
  | read stage => simp only [Aio.act, found, Aio.advance, stage]
  | judge res stage right =>
    rw [stage] at known
    obtain ⟨res', built, right'⟩ := bounceResult_answers known.1
    obtain ⟨o, finished, _⟩ := id right
    rw [right'.eq finished] at built
    rw [right.eq finished]
    simp only [Aio.act, found, Aio.advance, stage, built]
  | clear res stage => simp only [Aio.act, found, Aio.advance, stage]
  | invoke res stage => simp only [Aio.act, found, Aio.advance, stage]
  | finish at' =>
    rcases at' with ⟨stage, other⟩ | stage
    · simp only [Aio.act, found, Aio.advance, stage, if_neg other]
    · simp only [Aio.act, found, Aio.advance, stage]

end StepMove

/-! ### Hops keep the invariant -/

section HopSound

variable {a base : Aio M} {k : Nat} {f f' : Flight M} {action : AioAction M} {out : List (AioEvent M)}

theorem Hop.frame (hop : Hop a k f action base f' out) :
    base.flights = a.flights ∧ base.locks = a.locks ∧ base.life = a.life ∧ f'.call = f.call := by
  cases hop <;> exact ⟨rfl, rfl, rfl, rfl⟩

/-- A hop that keeps the word had it before. -/
theorem Hop.holds (hop : Hop a k f action base f' out) (holds : f'.stage.holdsWord = true) :
    f.stage.holdsWord = true ∧ base.word = a.word := by
  cases hop with
  | start at' =>
    refine ⟨?_, rfl⟩
    rcases at' with ⟨stage, _⟩ | stage <;> rw [stage] <;> rfl
  | arm _ stage | sent _ _ stage | received _ stage | slept stage | failed _ stage | callback stage
  | upgrade stage | load stage | read stage | judge _ stage => exact ⟨by rw [stage]; rfl, rfl⟩
  | refuse | clear | invoke | finish => cases holds

/-- A hop without the word leaves the `nng_aio` and the word alone. -/
theorem Hop.untouched (hop : Hop a k f action base f' out) (free : f.stage.holdsWord = false) :
    base.msg = a.msg ∧ base.result = a.result ∧ base.word = a.word := by
  cases hop with
  | arm _ stage | sent _ _ stage | received _ stage | slept stage | failed _ stage
  | clear _ stage => rw [stage] at free; cases free
  | start | callback | upgrade | refuse | load | read | judge | invoke | finish =>
    exact ⟨rfl, rfl, rfl⟩

theorem Hop.borrows (hop : Hop a k f action base f' out) :
    (f'.stage.borrows = true → f.stage.borrows = true) ∧ a.pool ≤ base.pool := by
  cases hop with
  | arm _ stage => exact ⟨fun _ => (by rw [stage]; rfl), Nat.le_refl _⟩
  | invoke => exact ⟨fun borrows => (by cases borrows), Nat.le_succ _⟩
  | start | sent | received | slept | failed | callback | upgrade | refuse | load | read | judge
  | clear | finish => exact ⟨fun borrows => (by cases borrows), Nat.le_refl _⟩

/-- Only an upgrade makes an `Arc`, and only where there is one. -/
theorem Hop.strong (hop : Hop a k f action base f' out) (found : a.flights[k]? = some f) :
    (base.put k f').strong = a.strong ∨ 0 < a.strong ∧ (base.put k f').strong = a.strong + 1 := by
  have counted : (base.put k f').strong + _ = base.strong + _ :=
    Aio.strong_put (hop.frame.1 ▸ found)
  have before : base.strong + a.pool = a.strong + base.pool := by
    unfold Aio.strong
    rw [hop.frame.1]
    omega
  cases hop with
  | upgrade stage alive =>
    rw [stage] at counted
    exact .inr ⟨alive, counted⟩
  | invoke res stage =>
    rw [stage] at counted
    simp only [Stage.holdsArc, if_true, Bool.false_eq_true, if_false] at counted before
    exact .inl (by omega)
  | start at' =>
    rcases at' with ⟨stage, _⟩ | stage <;> rw [stage] at counted <;> exact .inl counted
  | finish at' =>
    rcases at' with ⟨stage, _⟩ | stage <;> rw [stage] at counted <;> exact .inl counted
  | load stage | read stage | judge _ stage | clear _ stage =>
    rw [stage] at counted
    exact .inl (Nat.succ.inj counted)
  | arm _ stage | sent _ _ stage | received _ stage | slept stage | failed _ stage | callback stage
  | refuse stage =>
    rw [stage] at counted
    exact .inl counted

theorem Hop.flightSound (hop : Hop a k f action base f' out) (sound : f.Sound a.msg a.result) :
    f'.Sound base.msg base.result := by
  unfold Flight.Sound at sound ⊢
  cases hop with
  | arm msg stage passed =>
    rw [stage] at sound
    refine ⟨sound.1, sound.2, fun other same => ?_⟩
    rw [passed] at same
    cases same
    rfl
  | start at' =>
    rcases at' with ⟨stage, empty⟩ | stage
    · rw [stage] at sound
      refine ⟨sound.1, sound.2, fun msg same => ?_⟩
      rw [empty] at same
      cases same
    · rw [stage] at sound
      exact sound
  | sent msg stale stage kind held =>
    rw [stage] at sound
    exact ⟨⟨_, rfl, kind, rfl, nofun⟩, sound.2.1⟩
  | received msg stage kind =>
    rw [stage] at sound
    exact ⟨⟨_, rfl, kind, rfl, fun _ same => same⟩, sound.2.1⟩
  | slept stage kind =>
    rw [stage] at sound
    exact ⟨⟨_, rfl, kind, rfl, nofun⟩, sound.2.1⟩
  | failed code stage =>
    rw [stage] at sound
    refine ⟨⟨_, rfl, trivial, rfl, fun msgp same => ?_⟩, sound.2.1⟩
    obtain ⟨msg, passed, rfl⟩ := Option.map_eq_some_iff.mp same
    exact sound.2.2 msg passed
  | callback stage | upgrade stage =>
    rw [stage] at sound
    exact ⟨sound.finished, sound.unanswered⟩
  | refuse stage =>
    rw [stage] at sound
    obtain ⟨o, finished, allowed, _⟩ := sound.finished
    exact ⟨⟨o, finished, allowed⟩, sound.unanswered⟩
  | load stage =>
    rw [stage] at sound
    exact ⟨⟨sound.finished, sound.unanswered⟩, rfl⟩
  | read stage =>
    rw [stage] at sound
    exact ⟨⟨sound.1.finished, sound.1.unanswered⟩, rfl, rfl⟩
  | judge res stage right =>
    rw [stage] at sound
    exact ⟨right, sound.1.unanswered⟩
  | clear res stage =>
    rw [stage] at sound
    exact sound
  | invoke res stage =>
    rw [stage] at sound
    exact ⟨res, sound.1, rfl⟩
  | finish at' =>
    rcases at' with ⟨stage, _⟩ | stage
    · rw [stage] at sound
      obtain ⟨res, right, answered⟩ := sound
      refine ⟨right.finished, fun res' same => ?_⟩
      obtain rfl : res = res' := Option.some.inj (answered.symm.trans same)
      exact right
    · rw [stage] at sound
      exact ⟨sound.1, fun res same => nomatch sound.2.symm.trans same⟩

theorem Hop.wordOwned (hop : Hop a k f action base f' out) (found : a.flights[k]? = some f)
    (owned : a.WordOwned) : (base.put k f').WordOwned := by
  obtain ⟨flights, locks, _, call⟩ := hop.frame
  have found' : base.flights[k]? = some f := flights ▸ found
  have moved : ∀ {j : Nat} {g : Flight M}, (base.put k f').flights[j]? = some g →
      g.stage.holdsWord = true → (j = k ∧ g = f') ∨ j ≠ k ∧ a.flights[j]? = some g := by
    intro j g at' _
    rw [← flights]
    exact Aio.put_get found' at'
  constructor
  · intro j g at' holds
    show base.word = _ ∧ base.locks = [] ∧ _
    rw [locks]
    rcases moved at' holds with ⟨rfl, rfl⟩ | ⟨other, at'⟩
    · obtain ⟨held, word⟩ := hop.holds holds
      obtain ⟨own, unlocked, only⟩ := owned.holder j f found held
      refine ⟨by rw [word, own, call], unlocked, fun i g at'' holds' => ?_⟩
      rcases moved at'' holds' with ⟨same, _⟩ | ⟨_, at''⟩
      · exact same
      · exact only i g at'' holds'
    · obtain ⟨own, unlocked, only⟩ := owned.holder j g at' holds
      have free : f.stage.holdsWord = false :=
        Bool.eq_false_iff.mpr fun held => other (only k f found held).symm
      refine ⟨by rw [(hop.untouched free).2.2, own], unlocked, fun i g' at'' holds' => ?_⟩
      rcases moved at'' holds' with ⟨_, rfl⟩ | ⟨_, at''⟩
      · rw [(hop.holds holds').1] at free
        cases free
      · exact only i g' at'' holds'
  · intro ms member
    show base.locks = [ms] ∧ base.word = _
    have member : ms ∈ a.locks := locks ▸ member
    have free : f.stage.holdsWord = false := Bool.eq_false_iff.mpr fun held => by
      rw [(owned.holder k f found held).2.1] at member
      cases member
    rw [locks, (hop.untouched free).2.2]
    exact owned.locked ms member

theorem Hop.flightsSound (hop : Hop a k f action base f' out) (found : a.flights[k]? = some f)
    (sound : a.Sound) (j : Nat) (g : Flight M) (at' : (base.put k f').flights[j]? = some g) :
    g.Sound base.msg base.result := by
  rcases Aio.put_get (hop.frame.1 ▸ found) at' with ⟨rfl, rfl⟩ | ⟨other, at'⟩
  · exact hop.flightSound (sound.flights j f found)
  · rw [hop.frame.1] at at'
    have known := sound.flights j g at'
    cases held : f.stage.holdsWord with
    | true =>
      refine known.frame (Bool.eq_false_iff.mpr fun holds => other ?_)
      exact (sound.owned.holder k f found held).2.2 j g at' holds
    | false =>
      obtain ⟨msg, result, _⟩ := hop.untouched held
      rw [msg, result]
      exact known

theorem Hop.borrowed (hop : Hop a k f action base f' out) (found : a.flights[k]? = some f)
    (borrowed : (base.put k f').borrowed = true) : a.borrowed = true := by
  obtain ⟨flights, locks, _, _⟩ := hop.frame
  unfold Aio.borrowed at borrowed ⊢
  rw [Bool.or_eq_true] at borrowed ⊢
  refine borrowed.imp (fun held => locks ▸ held) fun running => ?_
  obtain ⟨g, member, borrows⟩ := List.any_eq_true.mp running
  obtain ⟨j, at'⟩ := List.mem_iff_getElem?.mp member
  refine List.any_eq_true.mpr ?_
  rcases Aio.put_get (flights ▸ found) at' with ⟨rfl, rfl⟩ | ⟨_, at'⟩
  · exact ⟨f, List.mem_of_getElem? found, hop.borrows.1 borrows⟩
  · exact ⟨g, List.mem_of_getElem? (flights ▸ at'), borrows⟩

end HopSound

/-! ### Moves keep the invariant -/

section MoveSound

variable {a a' : Aio M} {action : AioAction M} {out : List (AioEvent M)}

/-- A live `Aio` with a handle: what a step of a user's thread has to keep. -/
theorem Aio.Sound.ofUser (owned : a'.WordOwned)
    (flights : ∀ (k : Nat) (f : Flight M), a'.flights[k]? = some f → f.Sound a'.msg a'.result)
    (alive : a'.life = .alive) (handles : 0 < a'.pool) : a'.Sound where
  owned := owned
  flights := flights
  borrow := fun _ => handles
  life := .inl ⟨alive, Nat.lt_of_lt_of_le handles (Nat.le_add_right _ _)⟩
  freed := fun freed => by rw [alive] at freed; cases freed

theorem Aio.WordOwned.accept (owned : a.WordOwned) (inactive : a.word = AioState.Inactive.asUsize)
    (c : Call M) :
    Aio.WordOwned { a with
      word := c.state.asUsize
      flights := a.flights ++ [⟨c, none, none, .accepted⟩] } := by
  obtain ⟨unlocked, free⟩ := owned.free_of_inactive inactive
  have only : ∀ (j : Nat) (g : Flight M),
      (a.flights ++ [⟨c, none, none, .accepted⟩])[j]? = some g → g.stage.holdsWord = true →
        j = a.flights.length ∧ g = ⟨c, none, none, .accepted⟩ := by
    intro j g at' holds
    rcases getElem?_concat_cases at' with new | ⟨_, old⟩
    · exact new
    · rw [free j g old] at holds
      cases holds
  constructor
  · intro k f at' holds
    obtain ⟨rfl, rfl⟩ := only k f at' holds
    exact ⟨rfl, unlocked, fun j g at'' holds' => (only j g at'' holds').1⟩
  · intro ms member
    rw [show ms ∈ a.locks ↔ ms ∈ [] by rw [unlocked]] at member
    cases member

/-- Nobody has the word: it can be locked, or given back. -/
theorem Aio.WordOwned.relock (free : ∀ (k : Nat) (f : Flight M), a.flights[k]? = some f →
      f.stage.holdsWord = false) {word : Nat} {timeout : Int} {locks : List Int}
    (locked : ∀ ms, ms ∈ locks → locks = [ms] ∧ word = AioState.Sleeping.asUsize) :
    Aio.WordOwned { a with word, timeout, locks } where
  holder := fun k f found holds => by
    rw [free k f found] at holds
    cases holds
  locked := locked

theorem Aio.borrowed_released (a : Aio M) (pool : Nat) (life : Life) :
    Aio.borrowed { a with pool, life } = a.borrowed := rfl

theorem Aio.strong_released (a : Aio M) (pool : Nat) (life : Life) :
    Aio.strong { a with pool, life } + a.pool = a.strong + pool := by
  show pool + a.flights.countP _ + a.pool = a.pool + a.flights.countP _ + pool
  omega

/-- **A move leaves a sound `Aio`.** -/
theorem Move.sound (sound : a.Sound) (exists' : a.life ≠ .freed) (move : Move a action a' out) :
    a'.Sound := by
  cases move with
  | accept c handles inactive =>
    refine .ofUser (sound.owned.accept inactive c) (fun k f at' => ?_)
      (sound.alive_of_pool handles) handles
    rcases getElem?_concat_cases at' with ⟨_, rfl⟩ | ⟨_, at'⟩
    · exact ⟨rfl, rfl⟩
    · exact sound.flights k f at'
  | reject c handles => exact sound
  | lock dur handles inactive =>
    have free := (sound.owned.free_of_inactive inactive).2
    refine .ofUser (.relock free fun ms member => ?_) sound.flights
      (sound.alive_of_pool handles) handles
    cases List.mem_singleton.mp member
    exact ⟨rfl, rfl⟩
  | lockRejected => exact sound
  | unlock ms only =>
    have handles := sound.pool_of_locked only
    have free : ∀ (k : Nat) (f : Flight M), a.flights[k]? = some f → f.stage.holdsWord = false :=
      fun k f found => Bool.eq_false_iff.mpr fun holds => by
        have unlocked := (sound.owned.holder k f found holds).2.1
        rw [only] at unlocked
        cases unlocked
    exact .ofUser (.relock free nofun) sound.flights (sound.alive_of_pool handles) handles
  | nothing => exact sound
  | clone handles =>
    exact .ofUser ⟨sound.owned.holder, sound.owned.locked⟩ sound.flights
      (sound.alive_of_pool handles) (Nat.succ_pos _)
  | drop closure handles idle many =>
    have alive := sound.alive_of_pool handles
    refine ⟨⟨sound.owned.holder, sound.owned.locked⟩, sound.flights, fun borrowed => ?_,
      .inl ⟨alive, ?_⟩, fun freed => absurd freed exists'⟩
    · by_cases last : a.pool = 1
      · rw [Aio.borrowed_released, idle last] at borrowed
        cases borrowed
      · show 0 < a.pool - 1
        omega
    · have released := a.strong_released (a.pool - 1) a.life
      omega
  | dropLast closure single idle running last =>
    refine ⟨⟨sound.owned.holder, sound.owned.locked⟩, sound.flights, fun borrowed => ?_,
      .inr ⟨.inr ⟨closure, rfl⟩, ?_⟩, nofun⟩
    · rw [Aio.borrowed_released, idle] at borrowed
      cases borrowed
    · have released := a.strong_released 0 (.stopping closure)
      omega
  | hop found hop =>
    obtain ⟨_, _, life, _⟩ := hop.frame
    refine ⟨hop.wordOwned found sound.owned, hop.flightsSound found sound, fun borrowed => ?_, ?_,
      fun freed => absurd (life ▸ freed) exists'⟩
    · exact Nat.lt_of_lt_of_le (sound.borrow (hop.borrowed found borrowed)) hop.borrows.2
    · show (Aio.life _ = _ ∧ _) ∨ (Aio.life _ = _ ∨ ∃ closure, Aio.life _ = _) ∧ _
      rw [show Aio.life (Aio.put _ _ _) = a.life from life]
      refine sound.life.imp (fun live => ⟨live.1, ?_⟩) fun gone => ⟨gone.1, ?_⟩
      · have before := live.2
        rcases hop.strong found with same | ⟨_, more⟩ <;> omega
      · have before := gone.2
        rcases hop.strong found with same | ⟨positive, _⟩ <;> omega
  | stop closure life ready =>
    refine ⟨⟨sound.owned.holder, sound.owned.locked⟩, sound.flights, sound.borrow,
      .inr ⟨.inl rfl, ?_⟩, fun _ => ready⟩
    rcases sound.life with ⟨alive, _⟩ | ⟨_, none⟩
    · rw [life] at alive
      cases alive
    · exact none

/-- **A step leaves a sound `Aio`.** -/
theorem Aio.Sound.step (sound : a.Sound) (stepped : a.step action = some (a', out)) : a'.Sound := by
  obtain ⟨exists', move⟩ := step_move sound stepped
  exact move.sound sound exists'

theorem sound_of_reachable (reached : (Aio.machine M).Reachable a) : a.Sound :=
  reached.invariant (I := Aio.Sound) Aio.fresh_sound fun _ _ _ _ sound stepped => sound.step stepped

end MoveSound

end NngRs.Nng
