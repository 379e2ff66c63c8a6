/-
**What the events tell about one call.**

* `about` — the events of one flight in a history.
* `Flight.story` — what they must be for a flight at its stage: accepted, started, completed, and
  invoked, each once and in this order.
* `told_of_run` — in every run they are, for every flight, and nothing panics.
-/

import NngRs.Nng.AioMoves

namespace NngRs.Nng

open NngRs.Sys EventMachine

variable {M : Type}

/-- The flight an event is about. -/
def AioEvent.flight : AioEvent M → Option Nat
  | .accepted k _ | .started k _ | .completed k _ | .consumed k _ | .invoked k _ => some k
  | .returned _ | .timeoutSet _ | .panicked _ => none

/-- The events about a flight. -/
def about (k : Nat) (history : List (AioEvent M)) : List (AioEvent M) :=
  history.filter fun event => event.flight == some k

/-- The message the library takes over with an outcome. -/
def Call.taken (c : Call M) : Outcome M → List M
  | .sent _ => (c.message.map Message.intoPtr).toList
  | .received _ | .slept | .failed _ => []

namespace Flight

def startStory (k : Nat) (f : Flight M) : List (AioEvent M) :=
  if f.stage.borrows then [] else [.started k f.call.native]

def outcomeStory (k : Nat) (f : Flight M) : List (AioEvent M) :=
  match f.outcome with
  | none => []
  | some o => .completed k o :: (f.call.taken o).map (.consumed k)

def answerStory (k : Nat) (f : Flight M) : List (AioEvent M) :=
  match f.answer with
  | none => []
  | some res => [.invoked k res]

/-- **The events about a flight, at its stage.** -/
def story (k : Nat) (f : Flight M) : List (AioEvent M) :=
  .accepted k f.call :: (f.startStory k ++ f.outcomeStory k ++ f.answerStory k)

end Flight

/-- The history tells the story of every flight, and of no other. -/
structure Told (history : List (AioEvent M)) (a : Aio M) : Prop where
  flights : ∀ (k : Nat) (f : Flight M), a.flights[k]? = some f → about k history = f.story k
  others : ∀ k, a.flights[k]? = none → about k history = []
  calm : ∀ panic, .panicked panic ∉ history

section About

variable {k : Nat} {history later : List (AioEvent M)} {event : AioEvent M}

theorem about_append : about k (history ++ later) = about k history ++ about k later :=
  List.filter_append _ _

theorem mem_about : event ∈ about k history ↔ event ∈ history ∧ event.flight = some k := by
  rw [about, List.mem_filter, beq_iff_eq]

theorem about_eq_nil (foreign : ∀ event ∈ history, event.flight ≠ some k) : about k history = [] :=
  List.filter_eq_nil_iff.mpr fun event member same => foreign event member (beq_iff_eq.mp same)

theorem about_eq_self (own : ∀ event ∈ history, event.flight = some k) : about k history = history :=
  List.filter_eq_self.mpr fun event member => beq_iff_eq.mpr (own event member)

end About

section Story

variable {k : Nat} {f : Flight M} {event : AioEvent M}

theorem Flight.mem_startStory :
    event ∈ f.startStory k ↔ f.stage.borrows = false ∧ event = .started k f.call.native := by
  unfold startStory
  cases early : f.stage.borrows <;> simp

theorem Flight.mem_outcomeStory :
    event ∈ f.outcomeStory k ↔ ∃ o, f.outcome = some o ∧
      (event = .completed k o ∨ ∃ msg ∈ f.call.taken o, event = .consumed k msg) := by
  unfold outcomeStory
  cases f.outcome <;> simp [eq_comm]

theorem Flight.mem_answerStory :
    event ∈ f.answerStory k ↔ ∃ res, f.answer = some res ∧ event = .invoked k res := by
  unfold answerStory
  cases f.answer <;> simp

theorem Flight.accepted_mem_story {c : Call M} (member : .accepted k c ∈ f.story k) : c = f.call := by
  rcases List.mem_cons.mp member with same | member
  · cases same
    rfl
  · rcases List.mem_append.mp member with member | member
    · rcases List.mem_append.mp member with member | member
      · cases (Flight.mem_startStory.mp member).2
      · obtain ⟨_, _, same | ⟨_, _, same⟩⟩ := Flight.mem_outcomeStory.mp member <;> cases same
    · obtain ⟨_, _, same⟩ := Flight.mem_answerStory.mp member
      cases same

theorem Flight.invoked_mem_story {res : AioResult M} (member : .invoked k res ∈ f.story k) :
    f.answer = some res := by
  rcases List.mem_cons.mp member with same | member
  · cases same
  · rcases List.mem_append.mp member with member | member
    · rcases List.mem_append.mp member with member | member
      · cases (Flight.mem_startStory.mp member).2
      · obtain ⟨_, _, same | ⟨_, _, same⟩⟩ := Flight.mem_outcomeStory.mp member <;> cases same
    · obtain ⟨_, answered, same⟩ := Flight.mem_answerStory.mp member
      cases same
      exact answered

end Story

section Telling

variable {a a' base : Aio M} {k : Nat} {f f' : Flight M} {action : AioAction M}
  {history out : List (AioEvent M)}

/-- The events of a hop are about its flight, or about none. -/
theorem Hop.foreign (hop : Hop a k f action base f' out) :
    ∀ event ∈ out, event.flight = some k ∨ ∃ result, event = .returned result := by
  intro event member
  cases hop with
  | start =>
    rcases List.mem_pair.mp member with rfl | rfl
    · exact .inl rfl
    · exact .inr ⟨_, rfl⟩
  | sent =>
    rcases List.mem_pair.mp member with rfl | rfl <;> exact .inl rfl
  | received | slept | failed | invoke =>
    cases List.mem_singleton.mp member
    exact .inl rfl
  | arm | callback | upgrade | refuse | load | read | judge | clear | finish => cases member

theorem Hop.about_other (hop : Hop a k f action base f' out) {j : Nat} (other : j ≠ k) :
    about j out = [] := by
  refine about_eq_nil fun event member => ?_
  rcases hop.foreign event member with own | ⟨result, rfl⟩
  · rw [own]
    exact fun same => other (Option.some.inj same).symm
  · exact (Option.some_ne_none j).symm

theorem Hop.calm (hop : Hop a k f action base f' out) (panic : AioPanic) :
    .panicked panic ∉ out := by
  intro member
  rcases hop.foreign _ member with own | ⟨result, same⟩
  · cases own
  · cases same

/-- A hop tells what it adds to the story. -/
theorem Hop.story (hop : Hop a k f action base f' out) (sound : f.Sound a.msg a.result) :
    f'.story k = f.story k ++ about k out := by
  unfold Flight.Sound at sound
  unfold Flight.story Flight.startStory Flight.outcomeStory Flight.answerStory
  cases hop with
  | arm msg stage =>
    rw [stage]
    exact (List.append_nil _).symm
  | start at' =>
    have early : f.outcome = none ∧ f.answer = none ∧ f.stage.borrows = true := by
      rcases at' with ⟨stage, _⟩ | stage
      · rw [stage] at sound ⊢
        exact ⟨sound.1, sound.2, rfl⟩
      · rw [stage] at sound ⊢
        exact ⟨sound.1, sound.2.1, rfl⟩
    simp only [early.1, early.2.1, early.2.2, if_true]
    have alone : about k [AioEvent.started k f.call.native, .returned f.call.ok] =
        [.started k f.call.native] := by simp [about, AioEvent.flight]
    rw [alone]
    rfl
  | sent msg stale stage kind held =>
    rw [stage] at sound ⊢
    obtain ⟨passed, has⟩ := Call.message_of_sending kind
    obtain rfl : msg = passed.intoPtr := Option.some.inj (held.symm.trans (sound.2.2 passed has))
    rw [about_eq_self fun event member => by
      rcases List.mem_pair.mp member with rfl | rfl <;> rfl]
    simp only [sound.1, sound.2.1, Call.taken, has, Option.map_some]
    rfl
  | received msg stage | slept stage | failed code stage =>
    rw [stage] at sound ⊢
    rw [about_eq_self fun event member => by cases List.mem_singleton.mp member; rfl]
    simp only [sound.1, sound.2.1, Call.taken]
    rfl
  | invoke res stage =>
    rw [stage] at sound ⊢
    rw [about_eq_self fun event member => by cases List.mem_singleton.mp member; rfl]
    simp only [sound.2, List.append_nil]
    rfl
  | callback stage | upgrade stage | refuse stage | load stage | read stage | judge _ stage
  | clear _ stage =>
    rw [stage]
    exact (List.append_nil _).symm
  | finish at' =>
    have late : f.stage.borrows = false := by
      rcases at' with ⟨stage, _⟩ | stage <;> rw [stage] <;> rfl
    rw [late]
    exact (List.append_nil _).symm

/-- Events about no flight, and no panic, change no story. -/
theorem Told.quietly (told : Told history a) (same : a'.flights = a.flights)
    (silent : ∀ event ∈ out, event.flight = none ∧ ∀ panic, event ≠ .panicked panic) :
    Told (history ++ out) a' := by
  have nothing : ∀ k, about k out = [] := fun k => about_eq_nil fun event member => by
    rw [(silent event member).1]
    exact (Option.some_ne_none k).symm
  refine ⟨fun k f found => ?_, fun k missing => ?_, fun panic member => ?_⟩
  · rw [about_append, nothing, List.append_nil]
    exact told.flights k f (same ▸ found)
  · rw [about_append, nothing, List.append_nil]
    exact told.others k (same ▸ missing)
  · rcases List.mem_append.mp member with old | new
    · exact told.calm panic old
    · exact (silent _ new).2 panic rfl

theorem Move.told (sound : a.Sound) (told : Told history a) (move : Move a action a' out) :
    Told (history ++ out) a' := by
  cases move with
  | accept c handles inactive =>
    have new : about a.flights.length history = [] := told.others _ (by simp)
    have here : about a.flights.length [AioEvent.accepted a.flights.length c] =
        [.accepted a.flights.length c] :=
      about_eq_self fun event member => by cases List.mem_singleton.mp member; rfl
    have elsewhere : ∀ k, k ≠ a.flights.length →
        about k [AioEvent.accepted a.flights.length c] = [] := fun k other =>
      about_eq_nil fun event member => by
        cases List.mem_singleton.mp member
        exact fun same => other (Option.some.inj same).symm
    refine ⟨fun k f at' => ?_, fun k missing => ?_, fun panic member => ?_⟩
    · rw [about_append]
      rcases getElem?_concat_cases at' with ⟨rfl, rfl⟩ | ⟨other, at'⟩
      · rw [new, here]
        rfl
      · rw [elsewhere k other, List.append_nil]
        exact told.flights k f at'
    · have beyond := List.getElem?_eq_none_iff.mp missing
      rw [List.length_append, List.length_singleton] at beyond
      rw [about_append, elsewhere k (by omega), List.append_nil]
      exact told.others k (List.getElem?_eq_none_iff.mpr (by omega))
    · rcases List.mem_append.mp member with old | new
      · exact told.calm panic old
      · cases List.mem_singleton.mp new
  | reject | lockRejected =>
    refine told.quietly rfl fun event member => ?_
    cases List.mem_singleton.mp member
    exact ⟨rfl, nofun⟩
  | lock | nothing | clone | drop | dropLast | stop =>
    exact told.quietly rfl (List.forall_mem_nil _)
  | unlock =>
    refine told.quietly rfl fun event member => ?_
    rcases List.mem_pair.mp member with rfl | rfl <;> exact ⟨rfl, nofun⟩
  | @hop k f f' base _ _ found hop =>
    have same : base.flights = a.flights := hop.frame.1
    refine ⟨fun j g at' => ?_, fun j missing => ?_, fun panic member => ?_⟩
    · rw [about_append]
      rcases Aio.put_get (same ▸ found) at' with ⟨rfl, rfl⟩ | ⟨other, at'⟩
      · rw [told.flights j f found, hop.story (sound.flights j f found)]
      · rw [hop.about_other other, List.append_nil]
        exact told.flights j g (same ▸ at')
    · have beyond : a.flights.length ≤ j := by
        have beyond := List.getElem?_eq_none_iff.mp missing
        rw [Aio.put, List.length_set, same] at beyond
        exact beyond
      have other : j ≠ k := by
        have bound := (List.getElem?_eq_some_iff.mp found).1
        omega
      rw [about_append, hop.about_other other, List.append_nil]
      exact told.others j (List.getElem?_eq_none_iff.mpr beyond)
    · rcases List.mem_append.mp member with old | new
      · exact told.calm panic old
      · exact hop.calm panic new

/-- **The history of a run tells the story of every flight.** -/
theorem told_of_run {trace : List (Transition (Aio M) (AioAction M) (AioEvent M))}
    (run : (Aio.machine M).Run trace a) : a.Sound ∧ Told (events trace) a := by
  refine run.invariant (I := fun history a => a.Sound ∧ Told history a)
    ⟨Aio.fresh_sound, fun _ _ found => absurd found Aio.fresh_get, fun _ _ => rfl, nofun⟩ ?_
  rintro history a action a' out ⟨sound, told⟩ stepped
  exact ⟨sound.step stepped, (step_move sound stepped).2.told sound told⟩

/-- A flight the history mentions is there, and the history tells its story. -/
theorem Told.flight (told : Told history a) {event : AioEvent M} (member : event ∈ history)
    (own : event.flight = some k) :
    ∃ f, a.flights[k]? = some f ∧ event ∈ f.story k ∧ about k history = f.story k := by
  have here := mem_about.mpr ⟨member, own⟩
  cases found : a.flights[k]? with
  | none =>
    rw [told.others k found] at here
    cases here
  | some f =>
    have story := told.flights k f found
    exact ⟨f, rfl, story ▸ here, story⟩

end Telling

end NngRs.Nng
