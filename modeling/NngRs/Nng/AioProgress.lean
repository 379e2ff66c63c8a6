/-
**The state word of an `Aio` is always given back.**

A call that finds the word taken returns `IncorrectState`. The word is taken by one accepted call until
its bounce closure stores `Inactive`, or by one `set_timeout` until it has stored the timeout.

* `Aio.owes` — the steps of the holder of the word, and of the library on its behalf.
* `Aio.Held` — a word that is not `Inactive` has a holder, as long as there is a handle.
* `aio_word_returns` — so the word is `Inactive` again after at most nine of those steps, whatever other
  threads call in between, and one of them is possible until then.
-/

import Mathlib.Algebra.BigOperators.Group.List.Basic
import NngRs.Machine.Parties
import NngRs.Machine.Progress
import NngRs.Nng.AioCalls

namespace NngRs.Nng

open NngRs.Sys EventMachine

variable {M : Type}

/-- The steps that the holder of the word and the library owe. -/
def Aio.owes (a : Aio M) : AioAction M → Bool
  | .storeTimeout _ => true
  | .advance k | .complete k _ | .callback k => a.flights[k]?.any fun f => f.stage.holdsWord
  | .call _ | .setTimeout _ | .cancel | .wait | .clone | .dropHandle _ | .stop => false

/-- How many of its steps are left until a flight gives the word back, at most. -/
def Stage.wordRank (stage : Stage M) : Nat := stage.rank - 1

/-- How many owed steps are left at most. -/
def Aio.rank (a : Aio M) : Nat := (a.flights.map fun f => f.stage.wordRank).sum + a.locks.length

/-- **A word that is not `Inactive` has a holder.** -/
def Aio.Held (a : Aio M) : Prop :=
  0 < a.strong → a.word ≠ AioState.Inactive.asUsize →
    (∃ (k : Nat) (f : Flight M), a.flights[k]? = some f ∧ f.stage.holdsWord = true) ∨ a.locks ≠ []

/-- The word is free, or nobody is left to want it. -/
def Aio.WordFree (a : Aio M) : Prop := a.word = AioState.Inactive.asUsize ∨ a.strong = 0

section Word

variable {a a' base : Aio M} {k : Nat} {f f' : Flight M} {action : AioAction M}
  {out : List (AioEvent M)}

theorem Stage.wordRank_pos {stage : Stage M} : 0 < stage.wordRank ↔ stage.holdsWord = true := by
  cases stage <;> simp [wordRank, rank, holdsWord]

theorem Stage.wordRank_free {stage : Stage M} (free : stage.holdsWord = false) :
    stage.wordRank = 0 := by
  by_contra positive
  rw [Stage.wordRank_pos.mp (Nat.pos_of_ne_zero positive)] at free
  cases free

theorem Stage.wordRank_le (stage : Stage M) : stage.wordRank ≤ 9 := by
  cases stage <;> simp [wordRank, rank]

/-- A flight that has the word comes closer to giving it back. -/
theorem Hop.wordRank (hop : Hop a k f action base f' out) (holds : f.stage.holdsWord = true) :
    f'.stage.wordRank < f.stage.wordRank := by
  have positive := Stage.wordRank_pos.mpr holds
  unfold Stage.wordRank at positive ⊢
  rcases hop.rank with lower | ended <;> omega

/-- A flight without it never gets it back. -/
theorem Hop.stays_free (hop : Hop a k f action base f' out) (free : f.stage.holdsWord = false) :
    f'.stage.holdsWord = false := by
  refine Bool.eq_false_iff.mpr fun holds => ?_
  rw [(hop.holds holds).1] at free
  cases free

theorem Hop.rank_put (hop : Hop a k f action base f' out) (found : a.flights[k]? = some f) :
    (base.put k f').rank + f.stage.wordRank = a.rank + f'.stage.wordRank := by
  obtain ⟨flights, locks, _, _⟩ := hop.frame
  have moved := sum_map_set (fun g : Flight M => g.stage.wordRank) f' found
  show ((base.flights.set k f').map _).sum + base.locks.length + _ = _
  rw [flights, locks, Aio.rank]
  omega

theorem Aio.owes_advance (found : a.flights[k]? = some f) (own : action.flight = some k) :
    a.owes action = f.stage.holdsWord := by
  cases action with
  | advance | complete | callback =>
    cases own
    rw [Aio.owes, found, Option.any_some]
  | call | setTimeout | storeTimeout | cancel | wait | clone | dropHandle | stop => cases own

/-- **An owed step lowers the rank, and no step raises it while the word is taken.** -/
theorem Move.wordRank (taken : a.word ≠ AioState.Inactive.asUsize)
    (move : Move a action a' out) : a'.rank ≤ a.rank ∧ (a.owes action = true → a'.rank < a.rank) := by
  cases move with
  | accept _ _ inactive | lock _ _ inactive => exact absurd inactive taken
  | reject | lockRejected | clone | drop | dropLast | stop => exact ⟨le_refl _, nofun⟩
  | nothing action which => rcases which with rfl | rfl <;> exact ⟨le_refl _, nofun⟩
  | unlock ms only =>
    have lower : (a.flights.map fun f => f.stage.wordRank).sum + 0 < a.rank := by
      rw [Aio.rank, only]
      exact Nat.lt_succ_self _
    exact ⟨Nat.le_of_lt lower, fun _ => lower⟩
  | hop found hop =>
    have moved := hop.rank_put found
    rw [Aio.owes_advance found hop.flight]
    cases held : Stage.holdsWord _ with
    | true =>
      have lower := hop.wordRank held
      exact ⟨by omega, fun _ => by omega⟩
    | false =>
      have before := Stage.wordRank_free held
      have after := Stage.wordRank_free (hop.stays_free held)
      exact ⟨by omega, nofun⟩

/-- The holder stays the holder, until the word is free. -/
theorem Hop.keeps_word (hop : Hop a k f action base f' out) (holds : f.stage.holdsWord = true)
    (alive : 0 < a.strong) :
    f'.stage.holdsWord = true ∨ base.word = AioState.Inactive.asUsize := by
  cases hop with
  | clear => exact .inr rfl
  | refuse _ none => exact absurd none (Nat.ne_of_gt alive)
  | invoke _ stage =>
    rw [stage] at holds
    cases holds
  | finish at' => rcases at' with ⟨stage, _⟩ | stage <;> rw [stage] at holds <;> cases holds
  | arm | start | sent | received | slept | failed | callback | upgrade | load | read | judge =>
    exact .inl rfl

theorem Move.held (held : a.Held) (move : Move a action a' out) : a'.Held := by
  cases move with
  | accept c _ _ =>
    intro _ _
    refine .inl ⟨a.flights.length, _, List.getElem?_concat_length, rfl⟩
  | lock => exact fun _ _ => .inr (List.cons_ne_nil _ _)
  | unlock => exact fun _ taken => absurd rfl taken
  | reject | lockRejected | nothing => exact held
  | clone handles =>
    intro _ taken
    exact held (Nat.lt_of_lt_of_le handles (Nat.le_add_right _ _)) taken
  | drop _ _ _ many => exact fun _ taken => held (Nat.lt_of_succ_lt many) taken
  | dropLast closure single _ _ last =>
    intro alive _
    have released := a.strong_released 0 (.stopping closure)
    omega
  | stop =>
    intro alive taken
    exact held alive taken
  | @hop k f f' base _ _ found hop =>
    intro alive taken
    have alive' : 0 < a.strong := by
      rcases hop.strong found with same | ⟨positive, _⟩
      · omega
      · exact positive
    obtain ⟨flights, locks, _, _⟩ := hop.frame
    show (∃ (j : Nat) (g : Flight M), (base.flights.set k f')[j]? = some g ∧ _) ∨ base.locks ≠ []
    rw [flights, locks]
    cases own : f.stage.holdsWord with
    | true =>
      have holds := (hop.keeps_word own alive').resolve_right taken
      have bound := (List.getElem?_eq_some_iff.mp found).choose
      exact .inl ⟨k, f', List.getElem?_set_self bound, holds⟩
    | false =>
      have word := (hop.untouched own).2.2
      refine (held alive' (word ▸ taken)).imp_left ?_
      rintro ⟨j, g, at', holds⟩
      have other : k ≠ j := by
        rintro rfl
        obtain rfl := Option.some.inj (found.symm.trans at')
        rw [own] at holds
        cases holds
      exact ⟨j, g, (List.getElem?_set_ne other).trans at', holds⟩

theorem held_of_reachable (reached : (Aio.machine M).Reachable a) : a.Held := by
  suffices both : a.Sound ∧ a.Held from both.2
  refine reached.invariant (I := fun a => a.Sound ∧ a.Held)
    ⟨Aio.fresh_sound, fun _ taken => absurd rfl taken⟩ ?_
  rintro a action a' out ⟨sound, held⟩ stepped
  exact ⟨sound.step stepped, (step_move sound stepped).2.held held⟩

/-- A total of which no party has a part. -/
theorem sum_wordRank_free {flights : List (Flight M)}
    (free : ∀ f ∈ flights, f.stage.holdsWord = false) :
    (flights.map fun f => f.stage.wordRank).sum = 0 := by
  refine List.sum_eq_zero fun n member => ?_
  obtain ⟨f, inside, rfl⟩ := List.mem_map.mp member
  exact Stage.wordRank_free (free f inside)

/-- The word has one holder, so few owed steps are left. -/
theorem Aio.rank_le (sound : a.Sound) : a.rank ≤ 9 := by
  by_cases someone : ∃ (k : Nat) (f : Flight M), a.flights[k]? = some f ∧ f.stage.holdsWord = true
  · obtain ⟨k, f, found, holds⟩ := someone
    obtain ⟨_, unlocked, only⟩ := sound.owned.holder k f found holds
    -- with its holder gone, the total is zero
    have others : ∀ g ∈ a.flights.set k { f with stage := .returned }, g.stage.holdsWord = false := by
      intro g member
      obtain ⟨j, at'⟩ := List.mem_iff_getElem?.mp member
      rcases getElem?_set_cases found at' with ⟨_, rfl⟩ | ⟨other, at'⟩
      · rfl
      · exact Bool.eq_false_iff.mpr fun also => other (only j g at' also)
    have moved := sum_map_set (fun g : Flight M => g.stage.wordRank)
      { f with stage := .returned } found
    rw [sum_wordRank_free others] at moved
    have few := f.stage.wordRank_le
    rw [Aio.rank, unlocked, List.length_nil]
    exact le_trans (le_of_eq moved.symm) (le_trans (le_of_eq (Nat.zero_add _)) few)
  · have free : ∀ f ∈ a.flights, f.stage.holdsWord = false := by
      intro f member
      obtain ⟨k, found⟩ := List.mem_iff_getElem?.mp member
      exact Bool.eq_false_iff.mpr fun holds => someone ⟨k, f, found, holds⟩
    rw [Aio.rank, sum_wordRank_free free, Nat.zero_add]
    cases locks : a.locks with
    | nil => exact Nat.zero_le _
    | cons ms rest =>
      have only := (sound.owned.locked ms (by rw [locks]; exact List.mem_cons_self)).1
      rw [← locks, only]
      exact (by decide : 1 ≤ 9)

/-- **As long as the word is taken, an owed step is possible.** -/
theorem Aio.owed_enabled (reached : (Aio.machine M).Reachable a) (taken : ¬a.WordFree) :
    ∃ action a' out, a.owes action = true ∧ a.step action = some (a', out) := by
  have sound := sound_of_reachable reached
  have some : 0 < a.strong := Nat.pos_of_ne_zero fun none => taken (.inr none)
  have alive : a.life = .alive := by
    rcases sound.life with ⟨alive, _⟩ | ⟨_, none⟩
    · exact alive
    · exact absurd none (Nat.ne_of_gt some)
  rcases held_of_reachable reached some fun inactive => taken (.inl inactive) with
    ⟨k, f, found, holds⟩ | locked
  · have positive := Stage.wordRank_pos.mpr holds
    obtain ⟨action, own, possible⟩ := work_enabled alive found (by unfold Stage.wordRank at positive; omega)
    obtain ⟨⟨a', out⟩, stepped⟩ := Option.isSome_iff_exists.mp possible
    exact ⟨action, a', out, (Aio.owes_advance found own).trans holds, stepped⟩
  · cases locks : a.locks with
    | nil => exact absurd locks locked
    | cons ms rest =>
      refine ⟨.storeTimeout 0, (a.storeTimeout 0 ms).1, (a.storeTimeout 0 ms).2, rfl, ?_⟩
      unfold Aio.step
      rw [if_neg (by rw [alive]; rintro (same | same) <;> cases same), Aio.act, locks]
      rfl

/-- **The owed steps lead to a free word.** -/
theorem word_settles :
    Settles (Aio.machine M) (Aio.machine M).Reachable Aio.owes Aio.rank Aio.WordFree where
  kept := fun _ _ _ _ reached _ stepped => reached.step stepped
  always := fun _ _ _ _ reached stepped => reached.step stepped
  lower := fun _ _ _ _ reached taken due stepped =>
    ((step_move (sound_of_reachable reached) stepped).2.wordRank fun free => taken (.inl free)).2 due
  steady := fun _ _ _ _ reached taken stepped =>
    ((step_move (sound_of_reachable reached) stepped).2.wordRank fun free => taken (.inl free)).1
  able := fun _ reached taken => Aio.owed_enabled reached taken

end Word

/-- **The state word is always given back.** As long as it is taken and a handle is left, a run holds at
most nine steps of its holder and of the library, whatever the other threads call in between; one more
is possible; and those steps alone make the word `Inactive`, unless the last handle goes. -/
theorem aio_word_returns {a : Aio M} (reached : (Aio.machine M).Reachable a) :
    (∀ later a', ((Aio.machine M).startedAt a).Run later a' → (∀ t ∈ later, ¬t.pre.WordFree) →
      owedSteps Aio.owes later ≤ 9 ∧ (¬a'.WordFree →
        ∃ action a'' out, a'.owes action = true ∧ a'.step action = some (a'', out))) ∧
      ∃ later a', ((Aio.machine M).startedAt a).Run later a' ∧
        (∀ t ∈ later, t.pre.owes t.act = true) ∧ a'.WordFree ∧ later.length ≤ 9 := by
  have start := Aio.rank_le (sound_of_reachable reached)
  constructor
  · intro later a' run before
    have paid := word_settles.count_le reached run before
    have inside := word_settles.kept_run reached ⟨_, run⟩
    exact ⟨by omega, word_settles.able a' inside⟩
  · obtain ⟨later, a', run, dues, ended, short⟩ := word_settles.reaches reached
    exact ⟨later, a', run, dues, ended, le_trans short start⟩

/-- A send has just been accepted: its own steps and the library's give the word back. -/
theorem aio_word_returns_send :
    ∃ a : Aio Nat, (Aio.machine Nat).Reachable a ∧ ¬a.WordFree ∧
      ∃ later a', ((Aio.machine Nat).startedAt a).Run later a' ∧
        (∀ t ∈ later, t.pre.owes t.act = true) ∧ a'.WordFree ∧ later.length ≤ 9 := by
  have run := run_of_replay (M := Aio.machine Nat) [.call (.sendSocket (.fromPtr 7))] rfl
  refine ⟨_, ⟨_, run⟩, ?_, (aio_word_returns ⟨_, run⟩).2⟩
  rintro (free | none)
  · cases free
  · cases none

end NngRs.Nng
