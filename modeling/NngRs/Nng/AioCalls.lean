/-
**Every accepted call is answered exactly once.**

* `Stage.rank` — how many steps a flight is from its invocation, at most. Its own steps lower it, no
  other step changes it, and one of its own is always enabled (`work_enabled`).
* `Served` — a flight over its whole life: accepted, started, completed and invoked once each, with the
  right answer.
* `aio_calls_answered_once` — while a handle is kept, the word admits one operation at a time, a
  rejected call changes nothing, nothing panics, and every accepted call is served or on its way.
-/

import NngRs.Nng.AioStory

namespace NngRs.Nng

open NngRs.Sys EventMachine

variable {M : Type}

/-- The flight whose step an action is. -/
def AioAction.flight : AioAction M → Option Nat
  | .advance k | .complete k _ | .callback k => some k
  | .call _ | .setTimeout _ | .storeTimeout _ | .cancel | .wait | .clone | .dropHandle _
  | .stop => none

/-- How many steps of its own a flight is from its invocation, at most. -/
def Stage.rank : Stage M → Nat
  | accepted => 10
  | armed => 9
  | pending => 8
  | completed => 7
  | entered => 6
  | upgraded => 5
  | loaded _ => 4
  | resulted _ _ => 3
  | judged _ => 2
  | cleared _ => 1
  | user | refused | returned => 0

/-- The steps of a flight in a trace. -/
def work (k : Nat) (trace : List (Transition (Aio M) (AioAction M) (AioEvent M))) : Nat :=
  trace.countP fun t => t.act.flight == some k

/-- **A call that has been answered**: everything the history tells about it. -/
def Served (k : Nat) (c : Call M) (history : List (AioEvent M)) : Prop :=
  ∃ o res, Answers c o res ∧
    about k history = .accepted k c :: .started k c.native :: .completed k o ::
      ((c.taken o).map (.consumed k) ++ [.invoked k res])

/-- **A call on its way**: not invoked yet, one of its own steps is enabled, and it has taken fewer
than ten. -/
def OnItsWay (k : Nat) (trace : List (Transition (Aio M) (AioAction M) (AioEvent M))) (a : Aio M) :
    Prop :=
  (∀ res, .invoked k res ∉ events trace) ∧
    (∃ action, action.flight = some k ∧ (a.step action).isSome = true) ∧ work k trace < 10

/-! ### Steps of a flight -/

section Work

variable {a a' base : Aio M} {k : Nat} {f f' : Flight M} {action : AioAction M}
  {out : List (AioEvent M)}

theorem Hop.flight (hop : Hop a k f action base f' out) : action.flight = some k := by
  cases hop <;> rfl

theorem Hop.rank (hop : Hop a k f action base f' out) :
    f'.stage.rank < f.stage.rank ∨ f'.stage.rank = 0 := by
  cases hop with
  | finish | refuse | invoke => exact .inr rfl
  | start at' =>
    refine .inl ?_
    rcases at' with ⟨stage, _⟩ | stage
    · rw [stage]
      exact (by decide : 8 < 10)
    · rw [stage]
      exact (by decide : 8 < 9)
  | arm _ stage | sent _ _ stage | received _ stage | slept stage | failed _ stage | callback stage
  | upgrade stage | load stage | read stage | judge _ stage | clear _ stage =>
    refine .inl ?_
    rw [stage]
    exact Nat.lt_succ_self _

/-- **A flight that is not over can go on**, whatever the others do. -/
theorem work_enabled (alive : a.life = .alive) (found : a.flights[k]? = some f)
    (open' : 0 < f.stage.rank) :
    ∃ action : AioAction M, action.flight = some k ∧ (a.step action).isSome = true := by
  have going : ∀ action : AioAction M, a.step action = a.act action := fun action => by
    unfold Aio.step
    rw [if_neg (by rw [alive]; rintro (same | same) <;> cases same)]
  cases stage : f.stage with
  | user | refused | returned =>
    rw [stage] at open'
    exact absurd open' (Nat.lt_irrefl 0)
  | pending =>
    refine ⟨.complete k (.failed ⟨1, by decide⟩), rfl, ?_⟩
    simp only [going, Aio.act, found, Aio.complete, stage, Option.isSome_some]
  | completed =>
    refine ⟨.callback k, rfl, ?_⟩
    simp only [going, Aio.act, found, Aio.callback, stage, Option.isSome_some]
  | armed | loaded | judged | cleared =>
    refine ⟨.advance k, rfl, ?_⟩
    simp only [going, Aio.act, found, Aio.advance, stage, Option.isSome_some]
  | accepted | entered | upgraded | resulted =>
    refine ⟨.advance k, rfl, ?_⟩
    simp only [going, Aio.act, found, Aio.advance, stage]
    split <;> rfl

/-- What the steps a flight has taken leave of its way. -/
structure Budget (trace : List (Transition (Aio M) (AioAction M) (AioEvent M))) (a : Aio M) :
    Prop where
  flights : ∀ (k : Nat) (f : Flight M), a.flights[k]? = some f → 0 < f.stage.rank →
    work k trace + f.stage.rank ≤ 10
  others : ∀ k, a.flights[k]? = none → work k trace = 0

theorem work_append {trace : List (Transition (Aio M) (AioAction M) (AioEvent M))}
    {t : Transition (Aio M) (AioAction M) (AioEvent M)} :
    work k (trace ++ [t]) = work k trace + if t.act.flight = some k then 1 else 0 := by
  unfold work
  rw [List.countP_append, List.countP_singleton]
  simp only [beq_iff_eq]

theorem work_idle {trace : List (Transition (Aio M) (AioAction M) (AioEvent M))}
    {t : Transition (Aio M) (AioAction M) (AioEvent M)} (idle : t.act.flight = none) :
    work k (trace ++ [t]) = work k trace := by
  rw [work_append, idle]
  rfl

/-- A step of no flight takes nothing from any budget. -/
theorem Budget.idly {trace : List (Transition (Aio M) (AioAction M) (AioEvent M))}
    (budget : Budget trace a) (same : a'.flights = a.flights) (idle : action.flight = none) :
    Budget (trace ++ [⟨a, action, a', out⟩]) a' := by
  constructor
  · intro k f found open'
    rw [work_idle idle]
    exact budget.flights k f (same ▸ found) open'
  · intro k missing
    rw [work_idle idle]
    exact budget.others k (same ▸ missing)

theorem Move.budget {trace : List (Transition (Aio M) (AioAction M) (AioEvent M))}
    (budget : Budget trace a) (move : Move a action a' out) :
    Budget (trace ++ [⟨a, action, a', out⟩]) a' := by
  cases move with
  | reject | lock | lockRejected | unlock | clone | drop | dropLast | stop =>
    exact budget.idly rfl rfl
  | nothing action which =>
    refine budget.idly rfl ?_
    rcases which with rfl | rfl <;> rfl
  | accept c =>
    constructor
    · intro k f at' open'
      rw [work_idle rfl]
      rcases getElem?_concat_cases at' with ⟨rfl, rfl⟩ | ⟨_, at'⟩
      · rw [budget.others _ (List.getElem?_eq_none_iff.mpr (Nat.le_refl _))]
        exact Nat.le_refl _
      · exact budget.flights k f at' open'
    · intro k missing
      rw [work_idle rfl]
      refine budget.others k (List.getElem?_eq_none_iff.mpr ?_)
      have beyond := List.getElem?_eq_none_iff.mp missing
      rw [List.length_append] at beyond
      omega
  | @hop k f f' base _ _ found hop =>
    have flights : base.flights = a.flights := hop.frame.1
    constructor
    · intro j g at' open'
      rw [work_append, hop.flight]
      rcases Aio.put_get (flights ▸ found) at' with ⟨rfl, rfl⟩ | ⟨other, at'⟩
      · rw [if_pos rfl]
        rcases hop.rank with lower | past
        · have before := budget.flights j f found (by omega)
          omega
        · omega
      · rw [if_neg fun same => other (Option.some.inj same).symm]
        exact budget.flights j g (flights ▸ at') open'
    · intro j missing
      have beyond := List.getElem?_eq_none_iff.mp missing
      rw [Aio.put, List.length_set, flights] at beyond
      have bound := (List.getElem?_eq_some_iff.mp found).1
      rw [work_append, hop.flight, if_neg fun same => by cases same; omega]
      exact budget.others j (List.getElem?_eq_none_iff.mpr beyond)

theorem budget_of_run {trace : List (Transition (Aio M) (AioAction M) (AioEvent M))}
    (run : (Aio.machine M).Run trace a) : Budget trace a := by
  induction run with
  | nil => exact ⟨fun _ _ found => absurd found Aio.fresh_get, fun _ _ => rfl⟩
  | snoc earlier stepped ih =>
    exact (step_move (told_of_run earlier).1 stepped).2.budget ih

end Work

/-! ### While a handle is kept -/

section Kept

variable {a a' base : Aio M} {k : Nat} {f f' : Flight M} {action : AioAction M}
  {out : List (AioEvent M)}

/-- No invocation has found the `Arc` gone: whatever is over has been answered. -/
def Aio.Upgraded (a : Aio M) : Prop :=
  ∀ (k : Nat) (f : Flight M), a.flights[k]? = some f → f.stage.rank = 0 → f.answer.isSome = true

theorem Move.upgraded (upgraded : a.Upgraded) (move : Move a action a' out) (handles : 0 < a'.pool) :
    a'.Upgraded := by
  cases move with
  | reject | lock | lockRejected | unlock | nothing | clone | drop | dropLast | stop =>
    exact upgraded
  | accept c =>
    intro k f at' past
    rcases getElem?_concat_cases at' with ⟨_, rfl⟩ | ⟨_, at'⟩
    · cases past
    · exact upgraded k f at' past
  | @hop k f f' base _ _ found hop =>
    intro j g at' past
    have flights : base.flights = a.flights := hop.frame.1
    rcases Aio.put_get (flights ▸ found) at' with ⟨rfl, rfl⟩ | ⟨_, at'⟩
    · cases hop with
      | arm | sent | received | slept | failed | callback | upgrade | load | read | judge | clear =>
        cases past
      | start => cases past
      | refuse _ gone =>
        have none := (Aio.strong_eq_zero gone).1
        exact absurd none (Nat.pos_iff_ne_zero.mp handles)
      | invoke => rfl
      | finish at'' =>
        refine upgraded j f found ?_
        rcases at'' with ⟨stage, _⟩ | stage <;> rw [stage] <;> rfl
    · exact upgraded j g (flights ▸ at') past

theorem upgraded_of_run {trace : List (Transition (Aio M) (AioAction M) (AioEvent M))}
    (run : (Aio.machine M).Run trace a) (kept : ∀ t ∈ trace, 0 < t.post.pool) : a.Upgraded := by
  induction run with
  | nil => exact fun _ _ found => absurd found Aio.fresh_get
  | snoc earlier stepped ih =>
    rw [List.forall_mem_append, List.forall_mem_singleton] at kept
    exact (step_move (told_of_run earlier).1 stepped).2.upgraded (ih kept.1) kept.2

theorem pool_of_run {trace : List (Transition (Aio M) (AioAction M) (AioEvent M))}
    (run : (Aio.machine M).Run trace a) (kept : ∀ t ∈ trace, 0 < t.post.pool) : 0 < a.pool := by
  cases run with
  | nil => exact Nat.one_pos
  | snoc earlier stepped => exact kept _ (List.mem_append_right _ (List.mem_singleton.mpr rfl))

/-- A flight that is over and answered has its whole life in the history. -/
theorem served_of_answered {history : List (AioEvent M)} (told : Told history a) (sound : a.Sound)
    (found : a.flights[k]? = some f) (past : f.stage.rank = 0) {res : AioResult M}
    (answered : f.answer = some res) : Served k f.call history := by
  have known := sound.flights k f found
  unfold Flight.Sound at known
  have right : f.AnsweredBy res := by
    cases stage : f.stage with
    | user =>
      rw [stage] at known
      obtain ⟨res', right, same⟩ := known
      obtain rfl : res = res' := Option.some.inj (answered.symm.trans same)
      exact right
    | refused =>
      rw [stage] at known
      exact nomatch answered.symm.trans known.2
    | returned =>
      rw [stage] at known
      exact known.2 res answered
    | accepted | armed | pending | completed | entered | upgraded | loaded | resulted | judged
    | cleared =>
      rw [stage] at past
      cases past
  have started : f.stage.borrows = false := by
    cases stage : f.stage with
    | accepted | armed => rw [stage] at past; cases past
    | pending | completed | entered | upgraded | loaded | resulted | judged | cleared | user
    | refused | returned => rfl
  obtain ⟨o, finished, right⟩ := right
  refine ⟨o, res, right, ?_⟩
  rw [told.flights k f found, Flight.story, Flight.startStory, Flight.outcomeStory,
    Flight.answerStory, started, finished, answered]
  rfl

/-- A flight before its invocation has no answer. -/
theorem answer_of_rank (sound : f.Sound a.msg a.result) (open' : 0 < f.stage.rank) :
    f.answer = none := by
  unfold Flight.Sound at sound
  cases stage : f.stage with
  | user | refused | returned =>
    rw [stage] at open'
    exact absurd open' (Nat.lt_irrefl 0)
  | accepted => rw [stage] at sound; exact sound.2
  | armed | pending => rw [stage] at sound; exact sound.2.1
  | completed | entered | upgraded => rw [stage] at sound; exact sound.unanswered
  | loaded | resulted => rw [stage] at sound; exact sound.1.unanswered
  | judged | cleared => rw [stage] at sound; exact sound.2

end Kept

/-! ### The calls of a run -/

/-- **What a call comes to at its `compare_exchange`**: it is accepted, or changes nothing and returns
`IncorrectState`, a send with its own message. -/
def Decided (t : Transition (Aio M) (AioAction M) (AioEvent M)) : Prop :=
  match t.act with
  | .call c =>
    if t.pre.word = AioState.Inactive.asUsize then t.out = [.accepted t.pre.flights.length c]
    else t.post = t.pre ∧ t.out = [.returned c.incorrectState]
  | .setTimeout _ =>
    if t.pre.word = AioState.Inactive.asUsize then t.out = []
    else t.post = t.pre ∧ t.out = [.returned (.result (.error .IncorrectState))]
  | _ => True

theorem Move.decided {a a' : Aio M} {action : AioAction M} {out : List (AioEvent M)}
    (move : Move a action a' out) : Decided ⟨a, action, a', out⟩ := by
  unfold Decided
  cases move with
  | accept c handles inactive =>
    simp only [inactive, if_true]
  | lock dur handles inactive =>
    simp only [inactive, if_true]
  | reject c handles taken =>
    simp only [taken, if_false, and_self]
  | lockRejected dur handles taken =>
    simp only [taken, if_false, and_self]
  | nothing action which => rcases which with rfl | rfl <;> trivial
  | unlock | clone | drop | dropLast | stop => trivial
  | hop found hop => cases hop <;> trivial

/-- **Every accepted call is answered exactly once**, while a handle is kept. The word decides each
call; nothing panics; one flight at a time is between its `compare_exchange` and the store of
`Inactive`, so one operation at most is in the library; and every accepted call has been served, its
closure invoked once and with the right answer, or is on its way to that. -/
theorem aio_calls_answered_once {trace : List (Transition (Aio M) (AioAction M) (AioEvent M))}
    {a : Aio M} (run : (Aio.machine M).Run trace a) (kept : ∀ t ∈ trace, 0 < t.post.pool) :
    (∀ t ∈ trace, Decided t) ∧ (∀ panic, .panicked panic ∉ events trace) ∧
      (∀ (j k : Nat) (f g : Flight M), a.flights[j]? = some f → a.flights[k]? = some g →
        f.stage.holdsWord = true → g.stage.holdsWord = true → j = k) ∧
      ∀ (k : Nat) (c : Call M), .accepted k c ∈ events trace →
        Served k c (events trace) ∨ OnItsWay k trace a := by
  obtain ⟨sound, told⟩ := told_of_run run
  refine ⟨fun t member => ?_, told.calm, fun j k f g here there holds holds' => ?_,
    fun k c member => ?_⟩
  · obtain ⟨reached, stepped⟩ := run.before t member
    exact (step_move (sound_of_reachable reached) stepped).2.decided
  · exact (sound.owned.holder k g there holds').2.2 j f here holds
  · obtain ⟨f, found, mentioned, story⟩ := told.flight member rfl
    obtain rfl := Flight.accepted_mem_story mentioned
    by_cases past : f.stage.rank = 0
    · obtain ⟨res, answered⟩ := Option.isSome_iff_exists.mp
        (upgraded_of_run run kept k f found past)
      exact .inl (served_of_answered told sound found past answered)
    · have open' := Nat.pos_of_ne_zero past
      refine .inr ⟨fun res invoked => ?_, ?_, ?_⟩
      · have answered := Flight.invoked_mem_story (story ▸ mem_about.mpr ⟨invoked, rfl⟩)
        rw [answer_of_rank (sound.flights k f found) open'] at answered
        cases answered
      · exact work_enabled (sound.alive_of_pool (pool_of_run run kept)) found open'
      · have budget := (budget_of_run run).flights k f found open'
        omega

/-- A failed send is answered while its closure has already started a receive. -/
theorem aio_calls_answered_pipelined :
    ∃ (trace : List (Transition (Aio Nat) (AioAction Nat) (AioEvent Nat))) (a : Aio Nat),
      (Aio.machine Nat).Run trace a ∧ Served 0 (.sendSocket (.fromPtr 7)) (events trace) ∧
        OnItsWay 1 trace a := by
  have run := run_of_replay (M := Aio.machine Nat)
    [.call (.sendSocket (.fromPtr 7)), .call .recvCtx, .advance 0, .setTimeout none, .advance 0,
      .cancel, .complete 0 (.failed ⟨20, by decide⟩), .callback 0, .advance 0, .advance 0, .advance 0,
      .advance 0, .advance 0, .advance 0, .call .recvCtx, .advance 1, .complete 1 (.received 8),
      .advance 0]
    rfl
  have answered := (aio_calls_answered_once run (by decide)).2.2.2
  refine ⟨_, _, run, ?_, ?_⟩
  · exact (answered 0 _ (by decide)).resolve_right fun way =>
      way.1 (.Send (.error (.fromPtr 7, .Canceled))) (by decide)
  · refine (answered 1 .recvCtx (by decide)).resolve_left fun served => ?_
    obtain ⟨o, res, _, story⟩ := served
    have long := (congrArg List.length story).symm.trans (rfl : _ = 3)
    simp only [List.length_cons, List.length_append, List.length_nil] at long
    omega

end NngRs.Nng
