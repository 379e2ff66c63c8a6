/-
**Where an `Aio` is torn down.**

`Inner::drop` runs where the last `Arc` goes: on a thread of its own, or in a running closure of the
same `Aio`, which got a handle by value. There `nng_aio_stop` waits for the invocation it is called in.

* `teardown_inside_never_ends` — such a teardown stays in `nng_aio_stop`.
* `aio_teardown_iff` — the runs that are never torn down from inside are exactly those in which no
  closure releases the last `Arc`; in the narrower sense that no invocation at all is on a stack while
  `Inner::drop` runs, those in which the last `Arc` goes while none is and the trampoline is not called
  after that.
* `aio_drop_returns_iff` — once `Inner::drop` is in `nng_aio_stop`, only few steps are left in all, and
  the last of them frees the `nng_aio` exactly when it was not called from inside.
-/

import Mathlib.Algebra.BigOperators.Group.List.Basic
import NngRs.Machine.Parties
import NngRs.Machine.Progress
import NngRs.Nng.AioMoves

namespace NngRs.Nng

open NngRs.Sys EventMachine

variable {M : Type}

/-- No invocation of the trampoline is on a stack. -/
def Aio.OffStack (a : Aio M) : Prop := ∀ f ∈ a.flights, f.stage.onStack = false

instance (a : Aio M) : Decidable a.OffStack := inferInstanceAs (Decidable (∀ f ∈ a.flights, _))

/-- **Never torn down from inside**: `nng_aio_stop` was not called in a closure of this `Aio`, and when
the closure is freed, no invocation is on a stack. -/
def Aio.TornOutside (a : Aio M) : Prop :=
  (∀ k, a.life ≠ .stopping (some k)) ∧ (a.life = .freed → a.OffStack)

/-- **Torn down only in quiet**: no invocation is on a stack while `Inner::drop` runs, nor after. -/
def Aio.TornInQuiet (a : Aio M) : Prop := a.life ≠ .alive → a.OffStack

instance (a : Aio M) : Decidable a.TornInQuiet :=
  inferInstanceAs (Decidable (a.life ≠ .alive → a.OffStack))

/-- No closure releases the last `Arc`. -/
def ReleasesOutside (t : Transition (Aio M) (AioAction M) (AioEvent M)) : Prop :=
  match t.act with
  | .dropHandle (some _) => t.pre.strong ≠ 1
  | _ => True

/-- The last `Arc` is released with no invocation on a stack, and the trampoline is not called
after that. -/
def ReleasesInQuiet (t : Transition (Aio M) (AioAction M) (AioEvent M)) : Prop :=
  match t.act with
  | .dropHandle _ => t.pre.strong = 1 → t.pre.OffStack
  | .callback _ => t.pre.life = .alive
  | _ => True

instance (t : Transition (Aio M) (AioAction M) (AioEvent M)) : Decidable (ReleasesOutside t) := by
  unfold ReleasesOutside
  split <;> infer_instance

instance (t : Transition (Aio M) (AioAction M) (AioEvent M)) : Decidable (ReleasesInQuiet t) := by
  unfold ReleasesInQuiet
  split <;> infer_instance

section Teardown

variable {a a' base : Aio M} {k : Nat} {f f' : Flight M} {action : AioAction M}
  {out : List (AioEvent M)}

theorem Aio.offStack_of_quiet (quiet : a.quiet = true) : a.OffStack := by
  intro f member
  have still := List.all_eq_true.mp quiet f member
  rw [Bool.and_eq_true, Bool.not_eq_true', Bool.not_eq_true'] at still
  exact still.2

theorem Hop.releasesOutside (hop : Hop a k f action base f' out) (s : Aio M)
    (shown : List (AioEvent M)) : ReleasesOutside ⟨a, action, s, shown⟩ := by
  cases hop <;> trivial

/-- **A step keeps the teardown outside exactly when it releases outside.** -/
theorem Move.tornOutside_iff (exists' : a.life ≠ .freed) (torn : a.TornOutside)
    (move : Move a action a' out) : a'.TornOutside ↔ ReleasesOutside ⟨a, action, a', out⟩ := by
  have same : ∀ {s : Aio M}, s.life = a.life → s.TornOutside := fun {s} life =>
    ⟨fun k => by rw [life]; exact torn.1 k, fun freed => absurd (life ▸ freed) exists'⟩
  cases move with
  | accept | reject | lock | lockRejected | unlock | clone =>
    exact iff_of_true (same rfl) trivial
  | nothing action which =>
    rcases which with rfl | rfl <;> exact iff_of_true (same rfl) trivial
  | drop closure handles idle many =>
    refine iff_of_true (same rfl) ?_
    cases closure with
    | none => trivial
    | some k => exact Nat.ne_of_gt many
  | dropLast closure single idle running last =>
    cases closure with
    | none => exact iff_of_true ⟨nofun, nofun⟩ trivial
    | some k => exact iff_of_false (fun torn' => torn'.1 k rfl) fun outside => outside last
  | hop found hop =>
    exact iff_of_true (same hop.frame.2.2.1) (hop.releasesOutside _ _)
  | stop closure life ready =>
    exact iff_of_true ⟨nofun, fun _ => Aio.offStack_of_quiet ready⟩ trivial

theorem Aio.offStack_put (found : base.flights[k]? = some f) (off : base.OffStack)
    (still : f'.stage.onStack = false) : (base.put k f').OffStack := by
  intro g member
  obtain ⟨j, at'⟩ := List.mem_iff_getElem?.mp member
  rcases Aio.put_get found at' with ⟨_, rfl⟩ | ⟨_, at'⟩
  · exact still
  · exact off g (List.mem_of_getElem? at')

/-- With no invocation on a stack, only the trampoline's call puts one there. -/
theorem Hop.offStack_iff (hop : Hop a k f action base f' out) (found : a.flights[k]? = some f)
    (off : a.OffStack) (gone : a.life ≠ .alive) (s : Aio M) (shown : List (AioEvent M)) :
    (base.put k f').OffStack ↔ ReleasesInQuiet ⟨a, action, s, shown⟩ := by
  have found' : base.flights[k]? = some f := hop.frame.1 ▸ found
  have off' : base.OffStack := fun g member => off g (hop.frame.1 ▸ member)
  have idle := off f (List.mem_of_getElem? found)
  cases hop with
  | callback stage =>
    refine iff_of_false (fun still => ?_) gone
    have entered := still { f with stage := .entered }
      (List.mem_of_getElem? (List.getElem?_set_self (List.getElem?_eq_some_iff.mp found').1))
    cases entered
  | arm | start | sent | received | slept | failed =>
    exact iff_of_true (Aio.offStack_put found' off' rfl) trivial
  | upgrade stage | refuse stage | load stage | read stage | judge _ stage | clear _ stage
  | invoke _ stage =>
    rw [stage] at idle
    cases idle
  | finish at' => rcases at' with ⟨stage, _⟩ | stage <;> rw [stage] at idle <;> cases idle

/-- **A step keeps the teardown quiet exactly when it releases in quiet.** -/
theorem Move.tornInQuiet_iff (sound : a.Sound) (torn : a.TornInQuiet)
    (move : Move a action a' out) : a'.TornInQuiet ↔ ReleasesInQuiet ⟨a, action, a', out⟩ := by
  have alive : ∀ {s : Aio M}, 0 < a.pool → s.life = a.life → s.TornInQuiet := fun {s} handles life =>
    fun gone => absurd (life.trans (sound.alive_of_pool handles)) gone
  cases move with
  | accept _ handles | reject _ handles | lock _ handles | lockRejected _ handles | clone handles =>
    exact iff_of_true (alive handles rfl) trivial
  | unlock ms only =>
    exact iff_of_true (alive (sound.pool_of_locked only) rfl) trivial
  | nothing action which handles =>
    rcases which with rfl | rfl <;> exact iff_of_true (alive handles rfl) trivial
  | drop closure handles idle many =>
    exact iff_of_true (alive handles rfl) fun last => absurd last (Nat.ne_of_gt many)
  | dropLast closure single idle running last =>
    show (_ → a.OffStack) ↔ (_ → a.OffStack)
    exact ⟨fun torn' _ => torn' nofun, fun quiet _ => quiet last⟩
  | @hop k f f' base _ _ found hop =>
    have life : base.life = a.life := hop.frame.2.2.1
    by_cases live : a.life = .alive
    · refine iff_of_true (fun gone => absurd (life.trans live) gone) ?_
      cases hop with
      | callback => exact live
      | arm | start | sent | received | slept | failed | upgrade | refuse | load | read | judge
      | clear | invoke | finish => trivial
    · have gone : (base.put k f').life ≠ .alive := fun same => live (life.symm.trans same)
      exact (forall_prop_of_true gone).trans (hop.offStack_iff found (torn live) live _ _)
  | stop closure life ready =>
    exact iff_of_true (fun _ => Aio.offStack_of_quiet ready) trivial

/-- The closure that runs `Inner::drop` is running. -/
def Aio.Waits (a : Aio M) : Prop := ∀ k, a.life = .stopping (some k) → a.runs (some k) = true

theorem Aio.runs_iff : a.runs (some k) = true ↔ ∃ f, a.flights[k]? = some f ∧ f.stage = .user := by
  unfold Aio.runs
  rw [Option.any_eq_true]
  refine exists_congr fun f => and_congr_right fun _ => ?_
  cases f.stage <;> simp [Stage.isUser]

/-- No step takes a closure out of the `Inner::drop` it runs. -/
theorem Move.waits (sound : a.Sound) (waits : a.Waits) (move : Move a action a' out) :
    a'.Waits ∧ ∀ k, a.life = .stopping (some k) → a'.life = .stopping (some k) := by
  have live : ∀ {s : Aio M}, 0 < a.pool → s.life = a.life →
      s.Waits ∧ ∀ k, a.life = .stopping (some k) → s.life = .stopping (some k) := by
    intro s handles life
    have alive := sound.alive_of_pool handles
    refine ⟨fun k inside => ?_, fun k inside => ?_⟩
    · rw [life, alive] at inside
      cases inside
    · rw [alive] at inside
      cases inside
  cases move with
  | accept _ handles | reject _ handles | lock _ handles | lockRejected _ handles | clone handles
  | nothing _ _ handles | drop _ handles => exact live handles rfl
  | unlock ms only => exact live (sound.pool_of_locked only) rfl
  | dropLast closure single idle running last =>
    refine ⟨fun k inside => ?_, fun k inside => ?_⟩
    · cases inside
      exact running
    · rw [sound.alive_of_pool (by omega)] at inside
      cases inside
  | @hop j f f' base _ _ found hop =>
    have life : base.life = a.life := hop.frame.2.2.1
    refine ⟨fun k inside => ?_, fun k inside => life.trans inside⟩
    have inside : a.life = .stopping (some k) := life.symm.trans inside
    obtain ⟨g, at', user⟩ := Aio.runs_iff.mp (waits k inside)
    have other : k ≠ j := by
      -- the flight in its closure has no hop left but the return it is kept from
      rintro rfl
      obtain rfl := Option.some.inj (found.symm.trans at')
      cases hop with
      | arm _ stage | sent _ _ stage | received _ stage | slept stage | failed _ stage
      | callback stage | upgrade stage | refuse stage | load stage | read stage | judge _ stage
      | clear _ stage | invoke _ stage => cases user.symm.trans stage
      | start at'' => rcases at'' with ⟨stage, _⟩ | stage <;> cases user.symm.trans stage
      | finish at'' =>
        rcases at'' with ⟨_, out⟩ | stage
        · exact out inside
        · cases user.symm.trans stage
    refine Aio.runs_iff.mpr ⟨g, ?_, user⟩
    rw [Aio.put, List.getElem?_set_ne (Ne.symm other), hop.frame.1]
    exact at'
  | stop closure life ready =>
    refine ⟨fun k freed => ?_, fun k inside => ?_⟩
    · cases freed
    obtain ⟨g, at', user⟩ := Aio.runs_iff.mp (waits k inside)
    have still := Aio.offStack_of_quiet ready g (List.mem_of_getElem? at')
    rw [user] at still
    cases still

/-- **A teardown from inside never gets past `nng_aio_stop`.** -/
theorem teardown_inside_never_ends {trace : List (Transition (Aio M) (AioAction M) (AioEvent M))}
    (run : (Aio.machine M).Run trace a) {t : Transition (Aio M) (AioAction M) (AioEvent M)}
    (member : t ∈ trace) (inside : t.post.life = .stopping (some k)) :
    a.life = .stopping (some k) := by
  have both : a.Waits ∧ ∀ t ∈ trace, t.post.life = .stopping (some k) →
      a.life = .stopping (some k) := by
    clear member inside t
    induction run with
    | nil => exact ⟨nofun, fun _ member => absurd member List.not_mem_nil⟩
    | snoc earlier stepped ih =>
      have sound := sound_of_reachable ⟨_, earlier⟩
      obtain ⟨waits, stays⟩ := (step_move sound stepped).2.waits sound ih.1
      refine ⟨waits, fun t member inside => ?_⟩
      rcases List.mem_append.mp member with old | new
      · exact stays k (ih.2 t old inside)
      · cases List.mem_singleton.mp new
        exact inside
  exact both.2 t member inside

/-- **An `Aio` is torn down outside its callbacks in exactly these runs**: no closure releases the last
`Arc`. And no invocation at all is on a stack while `Inner::drop` runs in exactly these: the last `Arc`
is released with none on a stack, and the trampoline is not called after that. -/
theorem aio_teardown_iff {trace : List (Transition (Aio M) (AioAction M) (AioEvent M))}
    (run : (Aio.machine M).Run trace a) :
    ((∀ t ∈ trace, t.post.TornOutside) ↔ ∀ t ∈ trace, ReleasesOutside t) ∧
      ((∀ t ∈ trace, t.post.TornInQuiet) ↔ ∀ t ∈ trace, ReleasesInQuiet t) := by
  constructor
  · refine run.forall_post_iff (I := Aio.Sound) Aio.fresh_sound ⟨nofun, nofun⟩
      (fun _ _ _ _ sound stepped => sound.step stepped) ?_
    intro a action a' out sound torn stepped
    obtain ⟨exists', move⟩ := step_move sound stepped
    exact move.tornOutside_iff exists' torn
  · refine run.forall_post_iff (I := Aio.Sound) Aio.fresh_sound (fun gone => absurd rfl gone)
      (fun _ _ _ _ sound stepped => sound.step stepped) ?_
    intro a action a' out sound torn stepped
    exact (step_move sound stepped).2.tornInQuiet_iff sound torn

end Teardown

/-- An operation is answered, and the last handle goes on a thread of its own after that. -/
theorem aio_teardown_after_callback :
    ∃ (trace : List (Transition (Aio Nat) (AioAction Nat) (AioEvent Nat))) (a : Aio Nat),
      (Aio.machine Nat).Run trace a ∧ a.life = .freed ∧
        (∀ t ∈ trace, t.post.TornOutside) ∧ ∀ t ∈ trace, t.post.TornInQuiet := by
  have run := run_of_replay (M := Aio.machine Nat)
    [.call .recvCtx, .advance 0, .complete 0 (.received 7), .callback 0, .advance 0, .advance 0,
      .advance 0, .advance 0, .advance 0, .advance 0, .dropHandle (some 0), .advance 0,
      .dropHandle none, .stop]
    rfl
  have exact' := aio_teardown_iff run
  exact ⟨_, _, run, rfl, exact'.1.mpr (by decide), exact'.2.mpr (by decide)⟩

/-- **Not every tear-down is quiet**: the user's handle goes while the closure runs, and the closure
drops its own, the last one; `Inner::drop` runs inside the callback, and `nng_aio_stop` waits for it. -/
theorem aio_teardown_inside :
    (¬∀ (trace : List (Transition (Aio Nat) (AioAction Nat) (AioEvent Nat))) (a : Aio Nat),
      (Aio.machine Nat).Run trace a → ∀ t ∈ trace, t.post.TornOutside) ∧
    ¬∀ (trace : List (Transition (Aio Nat) (AioAction Nat) (AioEvent Nat))) (a : Aio Nat),
      (Aio.machine Nat).Run trace a → ∀ t ∈ trace, t.post.TornInQuiet := by
  have run := run_of_replay (M := Aio.machine Nat)
    [.call .recvCtx, .advance 0, .complete 0 (.received 7), .callback 0, .advance 0, .advance 0,
      .advance 0, .advance 0, .advance 0, .advance 0, .dropHandle none, .dropHandle (some 0)]
    rfl
  constructor
  · intro always
    exact absurd (fun t member => (always _ _ run t member).1 0) (by decide)
  · intro always
    exact absurd (always _ _ run) (by decide)

/-! ### The end of `Inner::drop` -/

/-- How many steps a flight has left when no `Arc` is left. -/
def Stage.left : Stage M → Nat
  | .pending => 4
  | .completed => 3
  | .entered => 2
  | .user | .refused => 1
  | .accepted | .armed | .upgraded | .loaded _ | .resulted _ _ | .judged _ | .cleared _
  | .returned => 0

/-- How many steps are left, the end of `nng_aio_stop` with them. -/
def Aio.left (a : Aio M) : Nat :=
  (a.flights.map fun f => f.stage.left).sum + if a.life = .freed then 0 else 1

/-- `Inner::drop` is under way, or over. -/
def Aio.Stopped (c : Option Nat) (a : Aio M) : Prop := a.life = .stopping c ∨ a.life = .freed

section Drop

variable {a a' base : Aio M} {k : Nat} {f f' : Flight M} {action : AioAction M}
  {out : List (AioEvent M)} {c : Option Nat}

theorem Aio.Sound.no_arc (sound : a.Sound) (stopping : a.life = .stopping c) : a.strong = 0 := by
  rcases sound.life with ⟨alive, _⟩ | ⟨_, none⟩
  · rw [alive] at stopping
    cases stopping
  · exact none

/-- Without an `Arc` no call is running, and no invocation has upgraded. -/
theorem Aio.Sound.stage_left (sound : a.Sound) (none : a.strong = 0) (found : a.flights[k]? = some f) :
    f.stage.borrows = false ∧ f.stage.holdsArc = false := by
  obtain ⟨pool, arcs⟩ := Aio.strong_eq_zero none
  refine ⟨Bool.eq_false_iff.mpr fun borrows => ?_, arcs k f found⟩
  have borrowed : a.borrowed = true := by
    unfold Aio.borrowed
    rw [Bool.or_eq_true]
    exact .inr (List.any_eq_true.mpr ⟨f, List.mem_of_getElem? found, borrows⟩)
  have handles := sound.borrow borrowed
  omega

/-- A flight comes closer to its return. -/
theorem Hop.left (hop : Hop a k f action base f' out) (none : a.strong = 0)
    (early : f.stage.borrows = false) (arc : f.stage.holdsArc = false) :
    f'.stage.left < f.stage.left := by
  cases hop with
  | arm _ stage =>
    rw [stage] at early
    cases early
  | start at' => rcases at' with ⟨stage, _⟩ | stage <;> rw [stage] at early <;> cases early
  | load stage | read stage | judge _ stage | clear _ stage | invoke _ stage =>
    rw [stage] at arc
    cases arc
  | upgrade _ some => exact absurd none (Nat.ne_of_gt some)
  | sent _ _ stage | received _ stage | slept stage | failed _ stage | callback stage | refuse stage =>
    rw [stage]
    exact Nat.lt_succ_self _
  | finish at' =>
    rcases at' with ⟨stage, _⟩ | stage <;> rw [stage] <;> exact Nat.zero_lt_one

/-- **Every step from `nng_aio_stop` on comes closer to the end.** -/
theorem Move.left (sound : a.Sound) (stopping : a.life = .stopping c)
    (move : Move a action a' out) : a'.left < a.left ∧ a'.Stopped c := by
  have none := sound.no_arc stopping
  have empty := (Aio.strong_eq_zero none).1
  have ongoing : a.life ≠ .freed := by
    rw [stopping]
    exact fun other => by cases other
  cases move with
  | accept _ handles | reject _ handles | lock _ handles | lockRejected _ handles | clone handles
  | nothing _ _ handles | drop _ handles => omega
  | unlock ms only =>
    have handles := sound.pool_of_locked only
    omega
  | dropLast _ single => omega
  | @hop k f f' base _ _ found hop =>
    obtain ⟨flights, _, life, _⟩ := hop.frame
    obtain ⟨early, arc⟩ := sound.stage_left none found
    have lower := hop.left none early arc
    have moved := sum_map_set (fun g : Flight M => g.stage.left) f' found
    refine ⟨?_, .inl (life.trans stopping)⟩
    show ((base.flights.set k f').map _).sum + (if base.life = .freed then 0 else 1) < a.left
    rw [flights, life, Aio.left]
    omega
  | stop closure life ready =>
    refine ⟨?_, .inr rfl⟩
    show (a.flights.map _).sum + 0 < a.left
    rw [Aio.left, if_neg ongoing]
    exact Nat.lt_succ_self _

/-- **Outside the closures a step is possible until the end.** -/
theorem Aio.drop_enabled (sound : a.Sound) (stopping : a.life = .stopping none) :
    ∃ action a' out, (Aio.machine M).step a action = some (a', out) := by
  have none' := sound.no_arc stopping
  have exists' : a.life ≠ .freed ∧ a.life ≠ .aborted := by
    rw [stopping]
    exact ⟨fun other => (by cases other), fun other => (by cases other)⟩
  by_cases quiet : a.quiet = true
  · refine ⟨.stop, { a with life := .freed }, [], ?_⟩
    show a.step .stop = _
    unfold Aio.step
    rw [if_neg (not_or.mpr exists')]
    simp only [Aio.act, stopping, if_pos quiet]
  · -- a flight that `nng_aio_stop` waits for goes on
    have waits : ∃ g ∈ a.flights, ¬(!g.stage.inLibrary && !g.stage.onStack) = true := by
      by_contra calm
      push Not at calm
      exact quiet (List.all_eq_true.mpr calm)
    obtain ⟨g, member, busy⟩ := waits
    obtain ⟨j, found⟩ := List.mem_iff_getElem?.mp member
    obtain ⟨early, arc⟩ := sound.stage_left none' found
    have goes {act : AioAction M} {base : Aio M} {g' : Flight M} {out : List (AioEvent M)}
        (hop : Hop a j g act base g' out) :
        ∃ action a' out, (Aio.machine M).step a action = some (a', out) :=
      ⟨_, _, _, hop.stepped sound exists' found⟩
    cases stage : g.stage with
    | accepted | armed =>
      rw [stage] at early
      cases early
    | upgraded | loaded | resulted | judged | cleared =>
      rw [stage] at arc
      cases arc
    | returned =>
      rw [stage] at busy
      exact absurd rfl busy
    | pending => exact goes (.failed ⟨1, by decide⟩ stage)
    | completed => exact goes (.callback stage)
    | entered => exact goes (.refuse stage none')
    | refused => exact goes (.finish (.inr stage))
    | user =>
      refine goes (.finish (.inl ⟨stage, ?_⟩))
      rw [stopping]
      exact fun other => by cases other

/-- **What is left after the last `Arc`**, outside the closures: every step counts. -/
theorem drop_drains : Drains (Aio.machine M)
    (fun a => (Aio.machine M).Reachable a ∧ a.Stopped none) (fun _ _ => true) Aio.left
    (fun a => a.life = .freed) where
  kept := by
    rintro a action a' out ⟨reached, stopped⟩ _ stepped
    refine ⟨reached.step stepped, ?_⟩
    have sound := sound_of_reachable reached
    obtain ⟨exists', move⟩ := step_move sound stepped
    exact (move.left sound (stopped.resolve_right exists')).2
  lower := by
    rintro a action a' out ⟨reached, stopped⟩ ongoing _ stepped
    have sound := sound_of_reachable reached
    exact ((step_move sound stepped).2.left sound (stopped.resolve_right ongoing)).1
  able := by
    rintro a ⟨reached, stopped⟩ ongoing
    obtain ⟨action, a', out, stepped⟩ :=
      Aio.drop_enabled (sound_of_reachable reached) (stopped.resolve_right ongoing)
    exact ⟨action, a', out, rfl, stepped⟩

/-- A closure in `Inner::drop` is running, in every reachable `Aio`. -/
theorem waits_of_reachable (reached : (Aio.machine M).Reachable a) : a.Sound ∧ a.Waits := by
  refine reached.invariant (I := fun a => a.Sound ∧ a.Waits) ⟨Aio.fresh_sound, fun _ inside => ?_⟩ ?_
  · cases inside
  · rintro s action s' out ⟨sound, waits⟩ stepped
    exact ⟨sound.step stepped, ((step_move sound stepped).2.waits sound waits).1⟩

/-- **`Inner::drop` returns exactly when it is not called from inside.** Once it is in `nng_aio_stop`, on a
thread of its own, every run takes at most `left` more steps, whatever the library and the closures still
do, and can go on until the `nng_aio` is freed. In a closure of the same `Aio` it is never freed. -/
theorem aio_drop_returns_iff {a : Aio M} (reached : (Aio.machine M).Reachable a)
    (stopping : a.life = .stopping c) :
    (c = none → ∀ later a', ((Aio.machine M).startedAt a).Run later a' →
      later.length + a'.left ≤ a.left ∧ (a'.life = .freed ∨
        ∃ action a'' out, (Aio.machine M).step a' action = some (a'', out))) ∧
    (c ≠ none → ∀ later a', ((Aio.machine M).startedAt a).Run later a' → a'.life = .stopping c) := by
  constructor
  · rintro rfl later a' run
    have past : ∀ t ∈ later, ¬t.pre.life = .freed := fun t member freed => by
      have stepped := (run.before t member).2
      change Aio.step t.pre t.act = _ at stepped
      rw [Aio.step, if_pos (.inl freed)] at stepped
      cases stepped
    obtain ⟨⟨reached', stopped⟩, short⟩ :=
      drop_drains.length_le ⟨reached, .inl stopping⟩ run (fun _ _ => rfl) past
    exact ⟨short, stopped.symm.imp_right fun ongoing =>
      Aio.drop_enabled (sound_of_reachable reached') ongoing⟩
  · intro inside later a' run
    obtain ⟨k, rfl⟩ := Option.ne_none_iff_exists'.mp inside
    have inside' : (a'.Sound ∧ a'.Waits) ∧ a'.life = .stopping (some k) := by
      refine Reachable.invariant (M := (Aio.machine M).startedAt a)
        (I := fun s => (s.Sound ∧ s.Waits) ∧ s.life = .stopping (some k))
        ⟨waits_of_reachable reached, stopping⟩ ?_ ⟨later, run⟩
      rintro s action s' out ⟨⟨sound, waits⟩, still⟩ stepped
      obtain ⟨waits', stays⟩ := (step_move sound stepped).2.waits sound waits
      exact ⟨⟨sound.step stepped, waits'⟩, stays k still⟩
    exact inside'.2

/-- The last handle goes while a receive is under way and a closure is still running: the drop waits for
both, and ends in at most six steps. -/
theorem aio_drop_returns_busy : ∃ a : Aio Nat, (Aio.machine Nat).Reachable a ∧
    a.life = .stopping none ∧ ∀ later a', ((Aio.machine Nat).startedAt a).Run later a' →
      later.length + a'.left ≤ 6 ∧ (a'.life = .freed ∨
        ∃ action a'' out, (Aio.machine Nat).step a' action = some (a'', out)) := by
  have run := run_of_replay (M := Aio.machine Nat)
    [.call .recvCtx, .advance 0, .complete 0 (.received 7), .callback 0, .advance 0, .advance 0,
      .advance 0, .advance 0, .advance 0, .advance 0, .call .recvCtx, .advance 1,
      .dropHandle (some 0), .dropHandle none]
    rfl
  exact ⟨_, ⟨_, run⟩, rfl, (aio_drop_returns_iff ⟨_, run⟩ rfl).1 rfl⟩

end Drop

end NngRs.Nng
