/-
**An `Aio` of the `nng` crate is one slot for an operation.**

The state word, the `nng_aio`, the threads inside the calls and the bounce closure, and the count of the
handles come down to a slot: it takes a call when it is empty, the library starts and completes it, and
at some moment after that the slot is empty again and the closure is due. `set_timeout` takes the slot
for the time it needs.

* `slot` — the machine with a slot.
* `Pictured` — how a sound `Aio` is seen as a slot, kept by each kind of hop (`Pictured.put`).
* `slot_simulates` — a slot answers each step of an `Aio`; the moment of its release is the store of
  `Inactive`.
* `aio_simulates` — an `Aio` answers each step of a slot, with all the steps that lie between.
* `aio_shows_iff_slot` — so both show the same.
-/

import NngRs.Machine.Refinement
import NngRs.Nng.AioProgress

namespace NngRs.Nng

open NngRs.Sys EventMachine

/-! ## A slot -/

/-- How far the operation in the slot is. -/
inductive Progress (M : Type)
  | accepted
  | started
  | completed (outcome : Outcome M)
deriving DecidableEq

structure Slot (M : Type) where
  /-- How many calls were accepted, which is the number of the next one. -/
  calls : Nat
  /-- The operation in the slot, with its number. -/
  busy : Option (Nat × Call M × Progress M)
  /-- A `set_timeout` has the slot. -/
  setting : Option Int
  /-- What the closure is still to be called with, by the numbers. -/
  due : Nat → Option (AioResult M)

inductive SlotAction (M : Type)
  | call (call : Call M)
  | setTimeout (dur : Option Duration)
  | storeTimeout
  | start
  | complete (outcome : Outcome M)
  | release
  | tell (call : Nat)
deriving DecidableEq

section Definitions

variable {M : Type}

instance (c : Call M) (o : Outcome M) : Decidable (c.Allows o) := by
  unfold Call.Allows
  split <;> infer_instance

/-- A step of a slot. -/
def Slot.step (s : Slot M) : SlotAction M → Option (Slot M × List (AioEvent M))
  | .call c =>
    match s.busy, s.setting with
    | none, none =>
      some ({ s with calls := s.calls + 1, busy := some (s.calls, c, .accepted) },
        [.accepted s.calls c])
    | _, _ => some (s, [.returned c.incorrectState])
  | .setTimeout dur =>
    match s.busy, s.setting with
    | none, none => some ({ s with setting := some (durationToNng dur) }, [])
    | _, _ => some (s, [.returned (.result (.error .IncorrectState))])
  | .storeTimeout =>
    s.setting.map fun ms => ({ s with setting := none }, [.timeoutSet ms, .returned (.result (.ok ()))])
  | .start =>
    match s.busy with
    | some (k, c, .accepted) =>
      some ({ s with busy := some (k, c, .started) }, [.started k c.native, .returned c.ok])
    | _ => none
  | .complete o =>
    match s.busy with
    | some (k, c, .started) =>
      if c.Allows o then
        some ({ s with busy := some (k, c, .completed o) },
          .completed k o :: (c.taken o).map (.consumed k))
      else none
    | _ => none
  | .release =>
    match s.busy with
    | some (k, c, .completed o) =>
      some ({ s with busy := none, due := Function.update s.due k (some (c.answer o)) }, [])
    | _ => none
  | .tell k =>
    (s.due k).map fun res => ({ s with due := Function.update s.due k none }, [.invoked k res])

/-- A slot, empty at first. -/
def slot (M : Type) : EventMachine (Slot M) (SlotAction M) (AioEvent M) where
  start := ⟨0, none, none, fun _ => none⟩
  step := Slot.step

/-! ## An `Aio` seen as a slot -/

/-- How far a flight is. -/
def Flight.progress (f : Flight M) : Progress M :=
  match f.outcome with
  | some o => .completed o
  | none => if f.stage.borrows then .accepted else .started

/-- What the closure is still to be called with for a flight. -/
def Flight.due (f : Flight M) : Option (AioResult M) :=
  match f.stage with
  | .cleared res => some res
  | _ => none

/-- **How a sound `Aio` is seen as a slot.** What a slot without handles holds does not matter. -/
structure Pictured (a : Aio M) (t : Slot M) : Prop where
  sound : a.Sound
  held : a.Held
  calls : t.calls = a.flights.length
  busy : ∀ (k : Nat) (f : Flight M), a.flights[k]? = some f → f.stage.holdsWord = true →
    t.busy = some (k, f.call, f.progress)
  free : 0 < a.strong →
    (∀ (k : Nat) (f : Flight M), a.flights[k]? = some f → f.stage.holdsWord = false) → t.busy = none
  setting : a.locks = t.setting.toList
  due : ∀ k, t.due k = a.flights[k]?.bind Flight.due

end Definitions

section Pictured

variable {M : Type} {a a' base : Aio M} {t t' : Slot M} {k : Nat} {f f' : Flight M}
  {action : AioAction M} {out : List (AioEvent M)}

/-- **A flight moves, and the slot with it.** -/
theorem Pictured.put (seen : Pictured a t) (found : a.flights[k]? = some f)
    (hop : Hop a k f action base f' out) (exists' : a.life ≠ .freed)
    (calls : t'.calls = t.calls) (setting : t'.setting = t.setting)
    (due : ∀ j, t'.due j = if j = k then f'.due else t.due j)
    (holder : f.stage.holdsWord = true →
      (f'.stage.holdsWord = true → t'.busy = some (k, f.call, f'.progress)) ∧
        (f'.stage.holdsWord = false → a.strong = 0 ∨ t'.busy = none))
    (other : f.stage.holdsWord = false → t'.busy = t.busy) : Pictured (base.put k f') t' := by
  obtain ⟨flights, locks, life, call⟩ := hop.frame
  have move : Move a action (base.put k f') out := .hop found hop
  have bound := (List.getElem?_eq_some_iff.mp found).choose
  have flights' : (base.put k f').flights = a.flights.set k f' := by
    show base.flights.set k f' = _
    rw [flights]
  have here : (base.put k f').flights[k]? = some f' := by
    rw [flights', List.getElem?_set_self bound]
  have elsewhere (j : Nat) (different : j ≠ k) : (base.put k f').flights[j]? = a.flights[j]? := by
    rw [flights', List.getElem?_set_ne (Ne.symm different)]
  refine ⟨move.sound seen.sound exists', move.held seen.held, ?_, ?_, ?_, ?_, ?_⟩
  · rw [flights', List.length_set, calls, seen.calls]
  · intro j g there holds
    by_cases same : j = k
    · subst same
      cases here.symm.trans there
      rw [call]
      exact (holder (hop.holds holds).1).1 holds
    · rw [elsewhere j same] at there
      cases held : f.stage.holdsWord with
      | true => exact absurd ((seen.sound.owned.holder k f found held).2.2 j g there holds) same
      | false => exact (other held).trans (seen.busy j g there holds)
  · intro alive nobody
    have alive' : 0 < a.strong := by
      rcases hop.strong found with same | ⟨positive, _⟩
      · omega
      · exact positive
    cases held : f.stage.holdsWord with
    | true => exact ((holder held).2 (nobody k f' here)).resolve_left (Nat.ne_of_gt alive')
    | false =>
      refine (other held).trans (seen.free alive' fun j g there => ?_)
      by_cases same : j = k
      · subst same
        cases found.symm.trans there
        exact held
      · exact nobody j g ((elsewhere j same).trans there)
  · show base.locks = _
    rw [locks, seen.setting, setting]
  · intro j
    rw [due j]
    by_cases same : j = k
    · subst same
      rw [if_pos rfl, here]
      rfl
    · rw [if_neg same, elsewhere j same, seen.due j]

/-- A step of a flight that the slot does not see. -/
theorem Pictured.quiet (seen : Pictured a t) (found : a.flights[k]? = some f)
    (hop : Hop a k f action base f' out) (exists' : a.life ≠ .freed) (silent : f.due = f'.due)
    (holder : f.stage.holdsWord = true → (f'.stage.holdsWord = true → f'.progress = f.progress) ∧
      (f'.stage.holdsWord = false → a.strong = 0)) : Pictured (base.put k f') t := by
  refine seen.put found hop exists' rfl rfl (fun j => ?_) (fun held => ⟨fun holds => ?_, fun free => ?_⟩)
    fun _ => rfl
  · by_cases same : j = k
    · subst same
      rw [if_pos rfl, seen.due j, found, ← silent]
      rfl
    · rw [if_neg same]
  · rw [(holder held).1 holds]
    exact seen.busy k f found held
  · exact .inl ((holder held).2 free)

/-- A flight that keeps the word has nothing to tell. -/
theorem Flight.due_of_holdsWord (held : f.stage.holdsWord = true) : f.due = none := by
  unfold Flight.due
  cases stage : f.stage with
  | cleared => rw [stage] at held; cases held
  | accepted | armed | pending | completed | entered | upgraded | loaded | resulted | judged | user
  | refused | returned => rfl

/-- A step between the two ends of a call or of an invocation. -/
theorem Pictured.within (seen : Pictured a t) (found : a.flights[k]? = some f)
    (hop : Hop a k f action base f' out) (exists' : a.life ≠ .freed)
    (held : f.stage.holdsWord = true) (held' : f'.stage.holdsWord = true)
    (outcome : f'.outcome = f.outcome) (borrows : f'.stage.borrows = f.stage.borrows) :
    Pictured (base.put k f') t := by
  refine seen.quiet found hop exists' ?_ fun _ => ⟨fun _ => ?_, fun free => ?_⟩
  · rw [Flight.due_of_holdsWord held, Flight.due_of_holdsWord held']
  · unfold Flight.progress
    rw [outcome, borrows]
  · rw [held'] at free
    cases free

/-- The library gets the operation. -/
theorem Pictured.start (seen : Pictured a t) (found : a.flights[k]? = some f)
    (hop : Hop a k f action base { f with stage := .pending } out) (exists' : a.life ≠ .freed)
    (stage : f.stage.borrows = true) (open' : f.outcome = none) :
    Pictured (base.put k { f with stage := .pending })
      { t with busy := some (k, f.call, .started) } := by
  have held : f.stage.holdsWord = true := by
    revert stage
    cases f.stage <;> first | exact fun _ => rfl | exact nofun
  refine seen.put found hop exists' rfl rfl (fun j => ?_) (fun _ => ⟨fun _ => ?_, nofun⟩) fun free => ?_
  · by_cases same : j = k
    · subst same
      rw [if_pos rfl]
      show t.due j = _
      rw [seen.due j, found]
      exact Flight.due_of_holdsWord held
    · rw [if_neg same]
  · show some _ = some (k, f.call, Flight.progress _)
    unfold Flight.progress
    dsimp only
    rw [open']
    rfl
  · rw [held] at free
    cases free

/-- The library completes the operation. -/
theorem Pictured.complete {o : Outcome M} (seen : Pictured a t) (found : a.flights[k]? = some f)
    (hop : Hop a k f action base { f with stage := .completed, outcome := some o } out)
    (exists' : a.life ≠ .freed) (stage : f.stage = .pending) :
    Pictured (base.put k { f with stage := .completed, outcome := some o })
      { t with busy := some (k, f.call, .completed o) } := by
  refine seen.put found hop exists' rfl rfl (fun j => ?_) (fun _ => ⟨fun _ => rfl, nofun⟩) fun free => ?_
  · by_cases same : j = k
    · subst same
      rw [if_pos rfl]
      show t.due j = _
      rw [seen.due j, found]
      exact Flight.due_of_holdsWord (by rw [stage]; rfl)
    · rw [if_neg same]
  · rw [stage] at free
    cases free

/-- `Inactive` is stored. -/
theorem Pictured.release {o : Outcome M} {res : AioResult M} (seen : Pictured a t)
    (found : a.flights[k]? = some f) (hop : Hop a k f action base { f with stage := .cleared res } out)
    (exists' : a.life ≠ .freed) (stage : f.stage = .judged res) (answer : res = f.call.answer o) :
    Pictured (base.put k { f with stage := .cleared res })
      { t with busy := none, due := Function.update t.due k (some (f.call.answer o)) } := by
  refine seen.put found hop exists' rfl rfl (fun j => ?_) (fun _ => ⟨nofun, fun _ => .inr rfl⟩)
    fun free => ?_
  · dsimp only
    rw [Function.update_apply, ← answer]
    rfl
  · rw [stage] at free
    cases free

/-- The closure is called. -/
theorem Pictured.tell {res : AioResult M} (seen : Pictured a t) (found : a.flights[k]? = some f)
    (hop : Hop a k f action base { f with stage := .user, answer := some res } out)
    (exists' : a.life ≠ .freed) (stage : f.stage = .cleared res) :
    Pictured (base.put k { f with stage := .user, answer := some res })
      { t with due := Function.update t.due k none } := by
  refine seen.put found hop exists' rfl rfl (fun j => ?_) (fun held => ?_) fun _ => rfl
  · dsimp only
    rw [Function.update_apply]
    rfl
  · rw [stage] at held
    cases held

/-- A step that moves no flight. -/
theorem Pictured.idly (seen : Pictured a t) (move : Move a action a' out) (exists' : a.life ≠ .freed)
    (flights : a'.flights = a.flights) (alive : 0 < a'.strong → 0 < a.strong)
    (setting : Option Int) (locks : a'.locks = setting.toList) : Pictured a' { t with setting } where
  sound := move.sound seen.sound exists'
  held := move.held seen.held
  calls := seen.calls.trans (congrArg List.length flights).symm
  busy := fun k f found => seen.busy k f (flights ▸ found)
  free := fun alive' nobody => seen.free (alive alive') fun k f found => nobody k f (flights ▸ found)
  setting := locks
  due := fun k => by rw [flights]; exact seen.due k

/-- A call is accepted. -/
theorem Pictured.accept {c : Call M} (seen : Pictured a t) (exists' : a.life ≠ .freed)
    (handles : 0 < a.pool) (inactive : a.word = AioState.Inactive.asUsize) :
    Pictured
      { a with word := c.state.asUsize, flights := a.flights ++ [⟨c, none, none, .accepted⟩] }
      { t with calls := t.calls + 1, busy := some (t.calls, c, .accepted) } := by
  have move := Move.accept c handles inactive
  have nobody := (seen.sound.owned.free_of_inactive inactive).2
  refine ⟨move.sound seen.sound exists', move.held seen.held, ?_, ?_, ?_, seen.setting, ?_⟩
  · show t.calls + 1 = (a.flights ++ [_]).length
    rw [List.length_append, seen.calls]
    rfl
  · intro k f found holds
    rcases getElem?_concat_cases found with ⟨rfl, rfl⟩ | ⟨_, before⟩
    · show some (t.calls, c, Progress.accepted) = some (a.flights.length, c, .accepted)
      rw [seen.calls]
    · rw [nobody k f before] at holds
      cases holds
  · intro _ empty
    have new : (a.flights ++ [(⟨c, none, none, .accepted⟩ : Flight M)])[a.flights.length]? = _ :=
      List.getElem?_concat_length
    cases empty _ _ new
  · intro k
    show t.due k = (a.flights ++ [_])[k]?.bind Flight.due
    rw [seen.due k]
    by_cases before : k < a.flights.length
    · rw [List.getElem?_append_left before]
    · rw [List.getElem?_append_right (Nat.le_of_not_lt before),
        List.getElem?_eq_none (Nat.le_of_not_lt before)]
      cases k - a.flights.length <;> rfl

/-! ### What a slot holds -/

/-- An operation in the slot is that of a flight, as long as there is a handle. -/
theorem Pictured.flight (seen : Pictured a t) (alive : 0 < a.strong) {c : Call M} {p : Progress M}
    (busy : t.busy = some (k, c, p)) :
    ∃ f, a.flights[k]? = some f ∧ f.stage.holdsWord = true ∧ f.call = c ∧ f.progress = p := by
  by_contra none
  have nobody (j : Nat) (g : Flight M) (there : a.flights[j]? = some g) :
      g.stage.holdsWord = false := by
    refine Bool.eq_false_iff.mpr fun holds => none ?_
    cases busy.symm.trans (seen.busy j g there holds)
    exact ⟨g, there, holds, rfl, rfl⟩
  cases busy.symm.trans (seen.free alive nobody)

/-- An empty slot is an inactive word, as long as there is a handle. -/
theorem Pictured.inactive_iff (seen : Pictured a t) (alive : 0 < a.strong) :
    a.word = AioState.Inactive.asUsize ↔ t.busy = none ∧ t.setting = none := by
  constructor
  · intro inactive
    obtain ⟨unlocked, nobody⟩ := seen.sound.owned.free_of_inactive inactive
    refine ⟨seen.free alive nobody, ?_⟩
    rw [seen.setting] at unlocked
    cases setting : t.setting with
    | none => rfl
    | some ms =>
      rw [setting] at unlocked
      cases unlocked
  · rintro ⟨empty, unset⟩
    by_contra taken
    rcases seen.held alive taken with ⟨k, f, found, holds⟩ | locked
    · cases empty.symm.trans (seen.busy k f found holds)
    · rw [seen.setting, unset] at locked
      exact locked rfl

theorem pictured_start : Pictured (Aio.machine M).start (slot M).start where
  sound := Aio.fresh_sound
  held := fun _ taken => absurd rfl taken
  calls := rfl
  busy := fun _ _ found => absurd found Aio.fresh_get
  free := fun _ _ => rfl
  setting := rfl
  due := fun _ => rfl

/-! ### A slot answers an `Aio` -/

/-- The slot's answer to a call. -/
theorem Pictured.call_step (seen : Pictured a t) (handles : 0 < a.pool) (c : Call M) :
    (slot M).step t (.call c) =
      if a.word = AioState.Inactive.asUsize then
        some ({ t with calls := t.calls + 1, busy := some (t.calls, c, .accepted) },
          [.accepted t.calls c])
      else some (t, [.returned c.incorrectState]) := by
  have empty := seen.inactive_iff (Nat.lt_of_lt_of_le handles (Nat.le_add_right _ _))
  show Slot.step t (.call c) = _
  unfold Slot.step
  by_cases inactive : a.word = AioState.Inactive.asUsize
  · obtain ⟨idle, unset⟩ := empty.mp inactive
    rw [if_pos inactive]
    simp only [idle, unset]
  · rw [if_neg inactive]
    dsimp only
    split
    · exact absurd (empty.mpr ⟨‹_›, ‹_›⟩) inactive
    · rfl

theorem Pictured.setTimeout_step (seen : Pictured a t) (handles : 0 < a.pool) (dur : Option Duration) :
    (slot M).step t (.setTimeout dur) =
      if a.word = AioState.Inactive.asUsize then
        some ({ t with setting := some (durationToNng dur) }, [])
      else some (t, [.returned (.result (.error .IncorrectState))]) := by
  have empty := seen.inactive_iff (Nat.lt_of_lt_of_le handles (Nat.le_add_right _ _))
  show Slot.step t (.setTimeout dur) = _
  unfold Slot.step
  by_cases inactive : a.word = AioState.Inactive.asUsize
  · obtain ⟨idle, unset⟩ := empty.mp inactive
    rw [if_pos inactive]
    simp only [idle, unset]
  · rw [if_neg inactive]
    dsimp only
    split
    · exact absurd (empty.mpr ⟨‹_›, ‹_›⟩) inactive
    · rfl

theorem Pictured.completes {o : Outcome M} (seen : Pictured a t) (found : a.flights[k]? = some f)
    (stage : f.stage = .pending) (allowed : f.call.Allows o) :
    (slot M).step t (.complete o) = some ({ t with busy := some (k, f.call, .completed o) },
      .completed k o :: (f.call.taken o).map (.consumed k)) := by
  have known := seen.sound.flights k f found
  unfold Flight.Sound at known
  rw [stage] at known
  have busy := seen.busy k f found (by rw [stage]; rfl)
  unfold Flight.progress at busy
  rw [known.1, stage] at busy
  show Slot.step t (.complete o) = _
  unfold Slot.step
  simp only [busy, Stage.borrows, Bool.false_eq_true, if_false, if_pos allowed]

/-- **A slot answers each hop of a flight.** -/
theorem Pictured.hop (seen : Pictured a t) (exists' : a.life ≠ .freed)
    (found : a.flights[k]? = some f) (hop : Hop a k f action base f' out) :
    (slot M).Answers Pictured t out (base.put k f') := by
  have known := seen.sound.flights k f found
  unfold Flight.Sound at known
  have original := hop
  cases hop with
  | start at' =>
    have early : f.stage.borrows = true := by
      rcases at' with ⟨stage, _⟩ | stage <;> rw [stage] <;> rfl
    have open' : f.outcome = none := by
      rcases at' with ⟨stage, _⟩ | stage <;> rw [stage] at known <;> exact known.1
    have busy := seen.busy k f found (by
      rcases at' with ⟨stage, _⟩ | stage <;> rw [stage] <;> rfl)
    unfold Flight.progress at busy
    rw [open', early] at busy
    refine .step (b := .start) ?_ (seen.start found original exists' early open')
    show Slot.step t .start = _
    unfold Slot.step
    simp only [busy, if_true]
  | sent msg stale stage kind held =>
    have answer := seen.completes (o := .sent stale) found stage kind
    refine .step (b := .complete (.sent stale)) ?_
      (seen.complete found original exists' stage)
    refine answer.trans ?_
    obtain ⟨msg', passed⟩ := Call.message_of_sending kind
    rw [stage] at known
    obtain rfl : msg = msg'.intoPtr := Option.some.inj (held.symm.trans (known.2.2 msg' passed))
    rw [Call.taken, passed]
    rfl
  | received msg stage kind =>
    exact .step (seen.completes (o := .received msg) found stage kind)
      (seen.complete found original exists' stage)
  | slept stage kind =>
    exact .step (seen.completes (o := .slept) found stage kind)
      (seen.complete found original exists' stage)
  | failed code stage =>
    exact .step (seen.completes (o := .failed code) found stage trivial)
      (seen.complete found original exists' stage)
  | arm _ stage | callback stage | upgrade stage | load stage | read stage | judge _ stage =>
    exact .silent (seen.within found original exists' (by rw [stage]; rfl) rfl rfl (by rw [stage]; rfl))
  | refuse stage gone =>
    refine .silent (seen.quiet found original exists' ?_ fun _ =>
      ⟨fun holds => (by cases holds), fun _ => gone⟩)
    unfold Flight.due
    rw [stage]
  | clear res stage =>
    rw [stage] at known
    obtain ⟨o, finished, right⟩ := known.1
    have busy := seen.busy k f found (by rw [stage]; rfl)
    unfold Flight.progress at busy
    rw [finished] at busy
    refine .step (b := .release) ?_ (seen.release found original exists' stage right.eq)
    show Slot.step t .release = _
    unfold Slot.step
    simp only [busy]
  | invoke res stage =>
    refine .step (b := .tell k) ?_ (seen.tell found original exists' stage)
    have due := seen.due k
    rw [found, Option.bind_some, Flight.due, stage] at due
    show Slot.step t (.tell k) = _
    unfold Slot.step
    simp only [due, Option.map_some]
  | finish at' =>
    refine .silent (seen.quiet found original exists' ?_ fun held => ?_)
    · unfold Flight.due
      rcases at' with ⟨stage, _⟩ | stage <;> rw [stage]
    · rcases at' with ⟨stage, _⟩ | stage <;> rw [stage] at held <;> cases held

/-- **A slot answers each step of an `Aio`.** -/
theorem Pictured.move (seen : Pictured a t) (exists' : a.life ≠ .freed) (move : Move a action a' out) :
    (slot M).Answers Pictured t out a' := by
  cases move with
  | hop found hop => exact seen.hop exists' found hop
  | accept c handles inactive =>
    have answer := seen.call_step handles c
    rw [if_pos inactive] at answer
    have pictured := seen.accept (c := c) exists' handles inactive
    rw [← seen.calls]
    exact .step answer pictured
  | reject c handles taken =>
    have answer := seen.call_step handles c
    rw [if_neg taken] at answer
    exact .step answer seen
  | lock dur handles inactive =>
    have answer := seen.setTimeout_step handles dur
    rw [if_pos inactive] at answer
    exact .step answer (seen.idly (.lock dur handles inactive) exists' rfl id (some _) rfl)
  | lockRejected dur handles taken =>
    have answer := seen.setTimeout_step handles dur
    rw [if_neg taken] at answer
    exact .step answer seen
  | unlock ms only =>
    have setting : t.setting = some ms := by
      have same := seen.setting.symm.trans only
      cases set : t.setting with
      | none => rw [set] at same; cases same
      | some other => rw [set] at same; cases same; rfl
    refine .step (b := .storeTimeout) ?_
      (seen.idly (.unlock ms only) exists' rfl id none rfl)
    show Slot.step t .storeTimeout = _
    unfold Slot.step
    rw [setting]
    rfl
  | nothing => exact .silent seen
  | clone handles =>
    exact .silent (seen.idly (.clone handles) exists' rfl
      (fun _ => Nat.lt_of_lt_of_le handles (Nat.le_add_right _ _)) _ seen.setting)
  | drop closure handles idle many =>
    exact .silent (seen.idly (.drop closure handles idle many) exists' rfl
      (fun _ => Nat.lt_of_succ_lt many) _ seen.setting)
  | dropLast closure single idle running last =>
    exact .silent (seen.idly (.dropLast closure single idle running last) exists' rfl
      (fun _ => Nat.lt_of_lt_of_eq Nat.zero_lt_one last.symm) _ seen.setting)
  | stop closure life ready =>
    exact .silent (seen.idly (.stop closure life ready) exists' rfl id _ seen.setting)

/-- A slot simulates an `Aio`. -/
theorem slot_simulates : Simulation (Aio.machine M) (slot M) Pictured where
  start := pictured_start
  answered := by
    intro a t action a' out seen stepped
    obtain ⟨exists', move⟩ := step_move seen.sound stepped
    exact seen.move exists' move

end Pictured

/-! ## An `Aio` answers a slot -/

section Staged

variable {M : Type}

/-- Between two steps of a slot: accepted, in the library, completed, or with `Inactive` stored. -/
def Stage.settled : Stage M → Bool
  | accepted | pending | completed | cleared _ | user => true
  | armed | entered | upgraded | loaded _ | resulted _ _ | judged _ | refused | returned => false

/-- An `Aio` with a handle, between two steps of a slot. -/
structure Staged (t : Slot M) (a : Aio M) : Prop where
  seen : Pictured a t
  handles : 0 < a.pool
  settled : ∀ (k : Nat) (f : Flight M), a.flights[k]? = some f → f.stage.settled = true

/-- The same, while one flight goes on. -/
structure Underway (k : Nat) (f : Flight M) (a : Aio M) (t : Slot M) : Prop where
  seen : Pictured a t
  handles : 0 < a.pool
  found : a.flights[k]? = some f
  others : ∀ (j : Nat) (g : Flight M), j ≠ k → a.flights[j]? = some g → g.stage.settled = true

variable {a base : Aio M} {t t' : Slot M} {k : Nat} {f f' : Flight M} {action : AioAction M}
  {out : List (AioEvent M)} {o : Outcome M}

namespace Underway

theorem alive (way : Underway k f a t) : a.life = .alive :=
  way.seen.sound.alive_of_pool way.handles

theorem exists' (way : Underway k f a t) : a.life ≠ .freed := by
  rw [way.alive]
  nofun

theorem strong (way : Underway k f a t) : 0 < a.strong :=
  Nat.lt_of_lt_of_le way.handles (Nat.le_add_right _ _)

theorem stepped (way : Underway k f a t) (hop : Hop a k f action base f' out) :
    (Aio.machine M).step a action = some (base.put k f', out) := by
  refine hop.stepped way.seen.sound ?_ way.found
  rw [way.alive]
  exact ⟨nofun, nofun⟩

theorem next (way : Underway k f a t) (hop : Hop a k f action base f' out)
    (seen : Pictured (base.put k f') t') : Underway k f' (base.put k f') t' := by
  have flights := hop.frame.1
  have bound := (List.getElem?_eq_some_iff.mp way.found).choose
  refine ⟨seen, Nat.lt_of_lt_of_le way.handles hop.borrows.2, ?_, fun j g other there => ?_⟩
  · show (base.flights.set k f')[k]? = some f'
    rw [flights, List.getElem?_set_self bound]
  · rcases Aio.put_get (flights ▸ way.found) there with ⟨same, _⟩ | ⟨_, before⟩
    · exact absurd same other
    · exact way.others j g other (flights ▸ before)

/-- A step that the slot does not see. -/
theorem within (way : Underway k f a t) (hop : Hop a k f action base f' out)
    (held : f.stage.holdsWord = true) (held' : f'.stage.holdsWord = true)
    (outcome : f'.outcome = f.outcome) (borrows : f'.stage.borrows = f.stage.borrows) :
    Underway k f' (base.put k f') t :=
  way.next hop (way.seen.within way.found hop way.exists' held held' outcome borrows)

theorem settle (way : Underway k f a t) (settled : f.stage.settled = true) : Staged t a := by
  refine ⟨way.seen, way.handles, fun j g there => ?_⟩
  by_cases same : j = k
  · subst same
    cases way.found.symm.trans there
    exact settled
  · exact way.others j g same there

/-- The rest of a call. -/
theorem start (way : Underway k f a t) (stage : f.stage = .accepted) (open' : f.outcome = none) :
    (Aio.machine M).Answers Staged a [.started k f.call.native, .returned f.call.ok]
      { t with busy := some (k, f.call, .started) } := by
  cases passed : f.call.message with
  | none =>
    have hop : Hop a k f _ _ _ _ := .start (.inl ⟨stage, passed⟩)
    have seen := way.seen.start way.found hop way.exists' (by rw [stage]; rfl) open'
    exact .step (way.stepped hop) ((way.next hop seen).settle rfl)
  | some msg =>
    have hop : Hop a k f _ _ _ _ := .arm msg stage passed
    have armed := way.within hop (by rw [stage]; rfl) rfl rfl (by rw [stage]; rfl)
    have seen := armed.seen.start armed.found (.start (.inr rfl)) armed.exists' rfl open'
    exact .after (way.stepped hop)
      (.step (armed.stepped (.start (.inr rfl))) ((armed.next (.start (.inr rfl)) seen).settle rfl))

/-- The library finishes the operation. -/
theorem complete (way : Underway k f a t) (stage : f.stage = .pending) (allowed : f.call.Allows o) :
    (Aio.machine M).Answers Staged a (.completed k o :: (f.call.taken o).map (.consumed k))
      { t with busy := some (k, f.call, .completed o) } := by
  have known := way.seen.sound.flights k f way.found
  unfold Flight.Sound at known
  rw [stage] at known
  have finish {base : Aio M} (hop : Hop a k f (.complete k o) base
      { f with stage := .completed, outcome := some o }
      (.completed k o :: (f.call.taken o).map (.consumed k))) :
      (Aio.machine M).Answers Staged a (.completed k o :: (f.call.taken o).map (.consumed k))
        { t with busy := some (k, f.call, .completed o) } :=
    .step (way.stepped hop)
      ((way.next hop (way.seen.complete way.found hop way.exists' stage)).settle rfl)
  cases o with
  | sent stale =>
    obtain ⟨msg, passed⟩ := Call.message_of_sending allowed
    have held : a.msg = some msg.intoPtr := known.2.2 msg passed
    rw [Call.taken, passed] at finish ⊢
    exact finish (.sent msg.intoPtr stale stage allowed held)
  | received msg => exact finish (.received msg stage allowed)
  | slept => exact finish (.slept stage allowed)
  | failed code => exact finish (.failed code stage)

/-- The callback, up to the store of `Inactive`. -/
theorem release (way : Underway k f a t) (stage : f.stage = .completed) (finished : f.outcome = some o) :
    (Aio.machine M).Answers Staged a []
      { t with busy := none, due := Function.update t.due k (some (f.call.answer o)) } := by
  have entered := way.within (.callback stage) (by rw [stage]; rfl) rfl rfl (by rw [stage]; rfl)
  have upgraded := entered.within (.upgrade rfl entered.strong) rfl rfl rfl rfl
  have loaded := upgraded.within (.load rfl) rfl rfl rfl rfl
  have resulted := loaded.within (.read rfl) rfl rfl rfl rfl
  obtain ⟨res, _, right⟩ := bounceResult_answers (resulted.seen.sound.flights k _ resulted.found).1
  have judged := resulted.within (.judge res rfl right) rfl rfl rfl rfl
  have seen := judged.seen.release judged.found (.clear res rfl) judged.exists' rfl
    (Flight.AnsweredBy.eq right finished)
  exact .after (way.stepped (.callback stage))
    (.after (entered.stepped (.upgrade rfl entered.strong))
      (.after (upgraded.stepped (.load rfl))
        (.after (loaded.stepped (.read rfl))
          (.after (resulted.stepped (.judge res rfl right))
            (.step (judged.stepped (.clear res rfl)) ((judged.next (.clear res rfl) seen).settle rfl))))))

/-- The closure is called. -/
theorem tell {res : AioResult M} (way : Underway k f a t) (stage : f.stage = .cleared res) :
    (Aio.machine M).Answers Staged a [.invoked k res]
      { t with due := Function.update t.due k none } := by
  have hop : Hop a k f _ _ _ _ := .invoke res stage
  exact .step (way.stepped hop)
    ((way.next hop (way.seen.tell way.found hop way.exists' stage)).settle rfl)

end Underway

namespace Staged

theorem alive (staged : Staged t a) : a.life = .alive :=
  staged.seen.sound.alive_of_pool staged.handles

theorem strong (staged : Staged t a) : 0 < a.strong :=
  Nat.lt_of_lt_of_le staged.handles (Nat.le_add_right _ _)

theorem underway (staged : Staged t a) (found : a.flights[k]? = some f) : Underway k f a t :=
  ⟨staged.seen, staged.handles, found, fun j g _ there => staged.settled j g there⟩

theorem act (staged : Staged t a) : (Aio.machine M).step a action = a.act action := by
  show a.step action = _
  unfold Aio.step
  rw [if_neg (by rw [staged.alive]; rintro (same | same) <;> cases same)]

/-- The operation in the slot is that of a flight, at the stage that goes with it. -/
theorem flight (staged : Staged t a) {c : Call M} {p : Progress M} (busy : t.busy = some (k, c, p)) :
    ∃ f, Underway k f a t ∧ f.call = c ∧
      match p with
      | .accepted => f.stage = .accepted ∧ f.outcome = none
      | .started => f.stage = .pending
      | .completed o => f.stage = .completed ∧ f.outcome = some o := by
  obtain ⟨f, found, holds, call, progress⟩ := staged.seen.flight staged.strong busy
  refine ⟨f, staged.underway found, call, ?_⟩
  have settled := staged.settled k f found
  have known := staged.seen.sound.flights k f found
  unfold Flight.Sound at known
  unfold Flight.progress at progress
  cases stage : f.stage with
  | armed | entered | upgraded | loaded | resulted | judged | refused | returned =>
    rw [stage] at settled
    cases settled
  | cleared | user => rw [stage] at holds; cases holds
  | accepted =>
    rw [stage] at known progress
    rw [known.1] at progress
    subst progress
    exact ⟨rfl, known.1⟩
  | pending =>
    rw [stage] at known progress
    rw [known.1] at progress
    subst progress
    rfl
  | completed =>
    rw [stage] at known progress
    obtain ⟨o, finished, _⟩ := known.finished
    rw [finished] at progress
    subst progress
    exact ⟨rfl, finished⟩

/-- What the closure is still to be called with is that of a flight. -/
theorem cleared (staged : Staged t a) {res : AioResult M} (due : t.due k = some res) :
    ∃ f, Underway k f a t ∧ f.stage = .cleared res := by
  rw [staged.seen.due k] at due
  obtain ⟨f, found, told⟩ := Option.bind_eq_some_iff.mp due
  refine ⟨f, staged.underway found, ?_⟩
  unfold Flight.due at told
  cases stage : f.stage with
  | cleared res' =>
    rw [stage] at told
    cases told
    rfl
  | accepted | armed | pending | completed | entered | upgraded | loaded | resulted | judged | user
  | refused | returned => rw [stage] at told; cases told

/-- **An `Aio` answers each step of a slot.** -/
theorem answered {t t' : Slot M} {action : SlotAction M} (staged : Staged t a)
    (stepped : t.step action = some (t', out)) : (Aio.machine M).Answers Staged a out t' := by
  have exists' : a.life ≠ .freed := by
    rw [staged.alive]
    nofun
  have handles := staged.handles
  cases action with
  | call c =>
    have answer := (staged.seen.call_step handles c).symm.trans stepped
    by_cases inactive : a.word = AioState.Inactive.asUsize
    · rw [if_pos inactive] at answer
      cases answer
      have pictured := staged.seen.accept (c := c) exists' handles inactive
      rw [staged.seen.calls] at pictured ⊢
      refine .step (b := .call c) ?_ ⟨pictured, handles, fun k f found => ?_⟩
      · rw [staged.act]
        simp only [Aio.act, if_pos handles, Aio.call, Aio.compareExchange, if_pos inactive]
      · rcases getElem?_concat_cases found with ⟨_, rfl⟩ | ⟨_, before⟩
        · rfl
        · exact staged.settled k f before
    · rw [if_neg inactive] at answer
      cases answer
      refine .step (b := .call c) ?_ staged
      rw [staged.act]
      simp only [Aio.act, if_pos handles, Aio.call, Aio.compareExchange, if_neg inactive]
  | setTimeout dur =>
    have answer := (staged.seen.setTimeout_step handles dur).symm.trans stepped
    by_cases inactive : a.word = AioState.Inactive.asUsize
    · rw [if_pos inactive] at answer
      cases answer
      have unlocked := (staged.seen.sound.owned.free_of_inactive inactive).1
      have pictured := staged.seen.idly (.lock dur handles inactive) exists' rfl id (some _) rfl
      refine .step (b := .setTimeout dur) ?_ ⟨pictured, handles, staged.settled⟩
      rw [staged.act]
      simp only [Aio.act, if_pos handles, Aio.setTimeout, Aio.compareExchange, if_pos inactive,
        unlocked]
    · rw [if_neg inactive] at answer
      cases answer
      refine .step (b := .setTimeout dur) ?_ staged
      rw [staged.act]
      simp only [Aio.act, if_pos handles, Aio.setTimeout, Aio.compareExchange, if_neg inactive]
  | storeTimeout =>
    obtain ⟨ms, setting, answer⟩ := Option.map_eq_some_iff.mp stepped
    cases answer
    have only : a.locks = [ms] := by
      rw [staged.seen.setting, setting]
      rfl
    have pictured := staged.seen.idly (.unlock ms only) exists' rfl id none rfl
    refine .step (b := .storeTimeout 0) ?_ ⟨pictured, handles, staged.settled⟩
    rw [staged.act]
    simp only [Aio.act, only, List.getElem?_cons_zero, Aio.storeTimeout, List.eraseIdx_cons_zero]
  | start =>
    unfold Slot.step at stepped
    dsimp only at stepped
    split at stepped
    · rename_i k c busy
      cases stepped
      obtain ⟨f, way, rfl, stage, open'⟩ := staged.flight busy
      exact way.start stage open'
    · cases stepped
  | complete o =>
    unfold Slot.step at stepped
    dsimp only at stepped
    split at stepped
    · rename_i k c busy
      split_ifs at stepped with allowed
      cases stepped
      obtain ⟨f, way, rfl, stage⟩ := staged.flight busy
      exact way.complete stage allowed
    · cases stepped
  | release =>
    unfold Slot.step at stepped
    dsimp only at stepped
    split at stepped
    · rename_i k c o busy
      cases stepped
      obtain ⟨f, way, rfl, stage, finished⟩ := staged.flight busy
      exact way.release stage finished
    · cases stepped
  | tell k =>
    obtain ⟨res, due, answer⟩ := Option.map_eq_some_iff.mp stepped
    cases answer
    obtain ⟨f, way, stage⟩ := staged.cleared due
    exact way.tell stage

end Staged

/-- An `Aio` simulates a slot. -/
theorem aio_simulates : Simulation (slot M) (Aio.machine M) Staged where
  start := ⟨pictured_start, Nat.zero_lt_one, fun _ _ found => absurd found Aio.fresh_get⟩
  answered := fun _ _ _ _ _ staged stepped => staged.answered stepped

/-- **An `Aio` is a slot.** On any number of threads, over any interleaving of their calls with the
library and the callbacks, its handles show what a slot shows, and a slot shows nothing else: what the
calls return, what the library gets and takes over, and what the closure is called with. -/
theorem aio_shows_iff_slot (shown : List (AioEvent M)) :
    (Aio.machine M).Shows shown ↔ (slot M).Shows shown :=
  shows_iff slot_simulates aio_simulates shown

end Staged

end NngRs.Nng
