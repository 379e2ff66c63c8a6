/-
**How long the pipe-event callback and its `Inner` live.**

* `PipeSocket.Sound` — the invariant: the lock excludes writers from readers, so what a running
  activation saw stored is still stored; only borrowed handles are used, so nothing but activations is
  left when the last handle goes; and one `Inner::drop` runs, on one stack.
* `outlived_iff_of_run` — the `Inner` is gone only when no activation is on a stack, in exactly the runs
  in which no `Inner::drop` that was started inside an activation comes to its end.
* `pipe_callback_lifetime` — with a library whose `nng_socket_close` does not return on top of a callback
  of the socket, as NNG's, an activation only runs the closure that was stored when it took the lock, and
  the `Inner` outlives all activations, in every run.
* `lifetime_iff_waits` — no other library will do.
* `lifetime_outside` — any will in the runs in which no callback releases the last handle.
* `running_lastStored` — what an activation runs stays the closure stored last while it runs.
-/

import NngRs.Nng.PipeNotify

namespace NngRs.Nng

open NngRs.Sys EventMachine

/-! ### Frames and stacks -/

/-- What is below the topmost frame of `Inner::drop`. -/
def belowDrop : List Frame → Option (List Frame)
  | [] => none
  | f :: rest => if f.isDrop then some rest else belowDrop rest

section Put

variable {s base : PipeSocket} {thread : Nat} {stack stack' : List Frame}

theorem PipeSocket.mem_frames {f : Frame} :
    f ∈ s.frames ↔ ∃ (t : Nat) (stack : List Frame), s.threads[t]? = some stack ∧ f ∈ stack := by
  unfold PipeSocket.frames
  rw [List.mem_flatten]
  constructor
  · rintro ⟨stack, member, inside⟩
    obtain ⟨t, found⟩ := List.mem_iff_getElem?.mp member
    exact ⟨t, stack, found, inside⟩
  · rintro ⟨t, stack, found, inside⟩
    exact ⟨stack, List.mem_of_getElem? found, inside⟩

/-- The threads after one of them got another stack. -/
theorem PipeSocket.put_get (found : base.threads[thread]? = some stack) {t : Nat} {st : List Frame}
    (after : (base.put thread stack').threads[t]? = some st) :
    (t = thread ∧ st = stack') ∨ (t ≠ thread ∧ base.threads[t]? = some st) := by
  unfold PipeSocket.put at after
  exact getElem?_set_cases found after

/-- A frame of the new stack, or one that was there. -/
theorem PipeSocket.mem_frames_put (found : base.threads[thread]? = some stack) {f : Frame}
    (member : f ∈ (base.put thread stack').frames) : f ∈ stack' ∨ f ∈ base.frames := by
  obtain ⟨t, st, at', inside⟩ := PipeSocket.mem_frames.mp member
  rcases PipeSocket.put_get found at' with ⟨-, rfl⟩ | ⟨-, at'⟩
  · exact .inl inside
  · exact .inr (PipeSocket.mem_frames.mpr ⟨t, st, at', inside⟩)

variable {P : Frame → Prop} {f g : Frame}

theorem PipeSocket.frames_push (found : base.threads[thread]? = some stack) (new : P f)
    (old : ∀ g ∈ base.frames, P g) : ∀ g ∈ (base.put thread (f :: stack)).frames, P g := by
  intro g member
  rcases PipeSocket.mem_frames_put found member with inside | there
  · rcases List.mem_cons.mp inside with rfl | inside
    · exact new
    · exact old g (PipeSocket.mem_frames.mpr ⟨thread, stack, found, inside⟩)
  · exact old g there

theorem PipeSocket.frames_swap (found : base.threads[thread]? = some (g :: stack)) (new : P f)
    (old : ∀ g ∈ base.frames, P g) : ∀ g ∈ (base.put thread (f :: stack)).frames, P g := by
  intro g' member
  rcases PipeSocket.mem_frames_put found member with inside | there
  · rcases List.mem_cons.mp inside with rfl | inside
    · exact new
    · exact old g' (PipeSocket.mem_frames.mpr ⟨thread, _, found, List.mem_cons_of_mem _ inside⟩)
  · exact old g' there

theorem PipeSocket.frames_pop (found : base.threads[thread]? = some (g :: stack))
    (old : ∀ g ∈ base.frames, P g) : ∀ g ∈ (base.put thread stack).frames, P g := by
  intro g' member
  rcases PipeSocket.mem_frames_put found member with inside | there
  · exact old g' (PipeSocket.mem_frames.mpr ⟨thread, _, found, List.mem_cons_of_mem _ inside⟩)
  · exact old g' there

theorem PipeSocket.top_mem (found : base.threads[thread]? = some (g :: stack)) : g ∈ base.frames :=
  PipeSocket.mem_frames.mpr ⟨thread, _, found, List.mem_cons_self⟩

end Put

/-! ### The invariant -/

/-- **The invariant of a socket.** -/
structure PipeSocket.Sound (s : PipeSocket) : Prop where
  /-- The handles keep the `Inner` alive. -/
  alive : s.life = .alive ↔ 0 < s.handles
  /-- A borrowed handle is there. -/
  borrowed : ∀ f ∈ s.frames, f.borrows = true → 0 < s.handles
  /-- Nobody writes, or nobody reads. -/
  excluded : (∀ f ∈ s.frames, f.writes = false) ∨ ∀ f ∈ s.frames, f.reads = false
  /-- What a reader saw stored is stored. -/
  seen : s.life ≠ .freed → ∀ f ∈ s.frames, ∀ stored, f.seen = some stored → s.closure = stored
  /-- A running closure is the one that was stored. -/
  runs : ∀ f ∈ s.frames, ∀ closure stored, f = .running closure stored → stored = some closure
  /-- One `Inner::drop` runs, on the thread that released the last handle. -/
  drops : ∀ (t : Nat) (stack below : List Frame), s.threads[t]? = some stack →
    belowDrop stack = some below →
      s.life = .dropping t (below.any Frame.isActivation) ∧ belowDrop below = none
  /-- Nothing is left of a freed `Inner`. -/
  gone : s.life = .freed → s.closed = true ∧ s.closure = none

section Sound

variable {outside : Outside} {s s' : PipeSocket} {thread : Nat} {stack : List Frame} {a : PipeAction}
  {out : List PipeEvent}

theorem Frame.seen_none {f : Frame} (silent : f.reads = false) : f.seen = none := by
  cases f <;> first | rfl | cases silent

theorem PipeHop.alive (hop : PipeHop outside s thread stack a s' out)
    (found : s.threads[thread]? = some stack) (sound : s.Sound) : s'.life = .alive ↔ 0 < s'.handles := by
  have alive := sound.alive
  cases hop with
  | clone handles => exact iff_of_true (alive.mpr handles) (Nat.succ_pos _)
  | release handles same => exact iff_of_true (alive.mpr (by omega)) (Nat.succ_pos _)
  | releaseLast => exact iff_of_false (by rintro ⟨⟩) (Nat.lt_irrefl 0)
  | freed rest shape =>
    subst shape
    have dropping := (sound.drops _ _ rest found rfl).1
    refine iff_of_false (by rintro ⟨⟩) fun handles => ?_
    rw [alive.mpr handles] at dropping
    cases dropping
  | _ => exact alive

theorem PipeHop.borrowed (hop : PipeHop outside s thread stack a s' out)
    (found : s.threads[thread]? = some stack) (sound : s.Sound) :
    ∀ f ∈ s'.frames, f.borrows = true → 0 < s'.handles := by
  have old := sound.borrowed
  cases hop with
  | clone handles => exact fun _ _ _ => Nat.succ_pos _
  | release handles same => exact fun _ _ _ => Nat.succ_pos _
  | releaseLast single free =>
    refine PipeSocket.frames_push found (by rintro ⟨⟩) fun f member borrows => ?_
    exact absurd ((free f member).symm.trans borrows) (by decide)
  | pipeNotify closure handles => exact PipeSocket.frames_push found (fun _ => handles) old
  | close handles => exact PipeSocket.frames_push found (fun _ => handles) old
  | fire => exact PipeSocket.frames_push found (by rintro ⟨⟩) old
  | register rv registered events result result' ev rest shape =>
    subst shape
    exact PipeSocket.frames_swap found (fun _ => old _ (PipeSocket.top_mem found) rfl) old
  | lock rest shape =>
    subst shape
    exact PipeSocket.frames_swap found (by rintro ⟨⟩) old
  | invoke stored closure rest shape =>
    subst shape
    exact PipeSocket.frames_swap found (by rintro ⟨⟩) old
  | store closure rest shape =>
    subst shape
    exact PipeSocket.frames_swap found (fun _ => old _ (PipeSocket.top_mem found) rfl) old
  | unlock rest shape =>
    subst shape
    exact PipeSocket.frames_swap found (fun _ => old _ (PipeSocket.top_mem found) rfl) old
  | fini rest shape =>
    subst shape
    exact PipeSocket.frames_swap found (by rintro ⟨⟩) old
  | finish closure stored rest shape | skip stored rest shape | notified result rest shape
  | closed rest shape | freed rest shape =>
    subst shape
    exact PipeSocket.frames_pop found old

/-- What a hop may put on top of a stack. -/
inductive Fresh (s : PipeSocket) : Frame → Prop
  | plain {f : Frame} : f.reads = false → f.writes = false → Fresh s f
  | locked : (∀ f ∈ s.frames, f.writes = false) → Fresh s (.locked s.closure)
  | running {stored : Option Nat} {closure : Nat} : .locked stored ∈ s.frames →
      s.closure = some closure → Fresh s (.running closure stored)
  | writing : (∀ f ∈ s.frames, f.reads = false) → Fresh s .writing

/-- **What one hop leaves on the threads**: the frames that were there, and one fresh one at most. -/
theorem PipeHop.fresh (hop : PipeHop outside s thread stack a s' out)
    (found : s.threads[thread]? = some stack) :
    ∃ top, Fresh s top ∧ ∀ f ∈ s'.frames, f = top ∨ f ∈ s.frames := by
  have old : ∀ f ∈ s.frames, f = Frame.closing ∨ f ∈ s.frames := fun _ => .inr
  cases hop with
  | clone | release => exact ⟨_, .plain rfl rfl, old⟩
  | releaseLast | pipeNotify | close | fire =>
    exact ⟨_, .plain rfl rfl, PipeSocket.frames_push found (.inl rfl) fun _ => .inr⟩
  | register rv registered events result result' ev rest shape =>
    subst shape
    exact ⟨_, .plain rfl rfl, PipeSocket.frames_swap found (.inl rfl) fun _ => .inr⟩
  | unlock rest shape | fini rest shape =>
    subst shape
    exact ⟨_, .plain rfl rfl, PipeSocket.frames_swap found (.inl rfl) fun _ => .inr⟩
  | lock rest shape quiet =>
    subst shape
    exact ⟨_, .locked quiet, PipeSocket.frames_swap found (.inl rfl) fun _ => .inr⟩
  | invoke stored closure rest shape held =>
    subst shape
    exact ⟨_, .running (PipeSocket.top_mem found) held,
      PipeSocket.frames_swap found (.inl rfl) fun _ => .inr⟩
  | store closure rest shape _ free =>
    subst shape
    exact ⟨_, .writing free, PipeSocket.frames_swap found (.inl rfl) fun _ => .inr⟩
  | finish closure stored rest shape | skip stored rest shape | notified result rest shape
  | closed rest shape | freed rest shape =>
    subst shape
    exact ⟨_, .plain rfl rfl, PipeSocket.frames_pop found old⟩

theorem PipeHop.excluded (hop : PipeHop outside s thread stack a s' out)
    (found : s.threads[thread]? = some stack) (sound : s.Sound) :
    (∀ f ∈ s'.frames, f.writes = false) ∨ ∀ f ∈ s'.frames, f.reads = false := by
  obtain ⟨top, fresh, frames⟩ := hop.fresh found
  have all {p : Frame → Bool} (new : p top = false) (old : ∀ f ∈ s.frames, p f = false) :
      ∀ f ∈ s'.frames, p f = false := by
    intro f member
    rcases frames f member with rfl | there
    · exact new
    · exact old f there
  cases fresh with
  | plain reads writes => exact sound.excluded.imp (all writes) (all reads)
  | locked quiet => exact .inl (all rfl quiet)
  | running member =>
    refine .inl (all rfl (sound.excluded.resolve_right fun free => ?_))
    exact Bool.false_ne_true (free _ member).symm
  | writing free => exact .inr (all rfl free)

/-- A freed `Inner` stays freed. -/
theorem PipeHop.freed_stays (hop : PipeHop outside s thread stack a s' out) (sound : s.Sound)
    (freed : s.life = .freed) : s'.life = .freed := by
  cases hop with
  | releaseLast single =>
    have alive := sound.alive.mpr (by omega)
    rw [freed] at alive
    cases alive
  | freed => rfl
  | _ => exact freed

/-- The closure changes only where nobody reads, or where the `Inner` is freed. -/
theorem PipeHop.closure (hop : PipeHop outside s thread stack a s' out)
    (found : s.threads[thread]? = some stack) :
    s'.closure = s.closure ∨ (∀ f ∈ s'.frames, f.reads = false) ∨ s'.life = .freed := by
  cases hop with
  | store closure rest shape _ free =>
    subst shape
    exact .inr (.inl (PipeSocket.frames_swap found rfl free))
  | freed => exact .inr (.inr rfl)
  | _ => exact .inl rfl

theorem PipeHop.seen (hop : PipeHop outside s thread stack a s' out)
    (found : s.threads[thread]? = some stack) (sound : s.Sound) (exists' : s'.life ≠ .freed) :
    ∀ f ∈ s'.frames, ∀ stored, f.seen = some stored → s'.closure = stored := by
  intro f member stored seen
  have before := sound.seen fun freed => exists' (hop.freed_stays sound freed)
  rcases hop.closure found with same | free | freed
  · rw [same]
    obtain ⟨top, fresh, frames⟩ := hop.fresh found
    rcases frames f member with rfl | there
    · cases fresh with
      | plain reads => cases seen.symm.trans (Frame.seen_none reads)
      | locked => exact Option.some.inj seen
      | running locked => exact before _ locked _ seen
      | writing => cases seen
    · exact before f there stored seen
  · cases seen.symm.trans (Frame.seen_none (free f member))
  · exact absurd freed exists'

theorem PipeHop.runs (hop : PipeHop outside s thread stack a s' out)
    (found : s.threads[thread]? = some stack) (sound : s.Sound) :
    ∀ f ∈ s'.frames, ∀ closure stored, f = .running closure stored → stored = some closure := by
  rintro f member closure stored rfl
  obtain ⟨top, fresh, frames⟩ := hop.fresh found
  rcases frames _ member with rfl | there
  · cases fresh with
    | plain reads => cases reads
    | running locked held =>
      by_cases freed : s.life = .freed
      · cases held.symm.trans (sound.gone freed).2
      · exact (sound.seen freed _ locked _ rfl).symm.trans held
  · exact sound.runs _ there closure stored rfl

theorem PipeHop.gone (hop : PipeHop outside s thread stack a s' out)
    (found : s.threads[thread]? = some stack) (sound : s.Sound) (freed : s'.life = .freed) :
    s'.closed = true ∧ s'.closure = none := by
  have gone := sound.gone
  cases hop with
  | releaseLast => cases freed
  | freed => exact ⟨rfl, rfl⟩
  | closed => exact ⟨rfl, (gone freed).2⟩
  | fini => exact ⟨by rw [PipeSocket.put, (gone freed).1, Bool.true_or], (gone freed).2⟩
  | store closure rest shape =>
    subst shape
    have alive := sound.alive.mpr (sound.borrowed _ (PipeSocket.top_mem found) rfl)
    cases alive.symm.trans freed
  | _ => exact gone freed

/-- A hop moves no frame of `Inner::drop`, but for the two that start and end it. -/
theorem PipeHop.belowDrop_same (hop : PipeHop outside s thread stack a s' out)
    (found : s.threads[thread]? = some stack) :
    (s'.life = s.life ∧ ∀ (t : Nat) (st : List Frame), s'.threads[t]? = some st →
      ∃ st', s.threads[t]? = some st' ∧ belowDrop st = belowDrop st') ∨
    (s.handles = 1 ∧ s'.life = .dropping thread (stack.any Frame.isActivation) ∧
      s'.threads = s.threads.set thread (.dropping :: stack)) ∨
    ∃ rest, stack = .tearing :: rest ∧ s'.life = .freed ∧ s'.threads = s.threads.set thread rest := by
  have put {base : PipeSocket} {stack' : List Frame} (threads : base.threads[thread]? = some stack)
      (same : belowDrop stack' = belowDrop stack) (t : Nat) (st : List Frame)
      (after : (base.put thread stack').threads[t]? = some st) :
      ∃ st', base.threads[t]? = some st' ∧ belowDrop st = belowDrop st' := by
    rcases PipeSocket.put_get threads after with ⟨rfl, rfl⟩ | ⟨-, there⟩
    · exact ⟨stack, threads, same⟩
    · exact ⟨st, there, rfl⟩
  cases hop with
  | clone | release => exact .inl ⟨rfl, fun _ st after => ⟨st, after, rfl⟩⟩
  | releaseLast single => exact .inr (.inl ⟨single, rfl, rfl⟩)
  | pipeNotify | close | fire => exact .inl ⟨rfl, put found rfl⟩
  | register rv registered events result result' ev rest shape =>
    subst shape
    exact .inl ⟨rfl, put found rfl⟩
  | lock rest shape | invoke stored closure rest shape | store closure rest shape
  | unlock rest shape | fini rest shape =>
    subst shape
    exact .inl ⟨rfl, put found rfl⟩
  | finish closure stored rest shape | skip stored rest shape | notified result rest shape
  | closed rest shape =>
    subst shape
    exact .inl ⟨rfl, put found rfl⟩
  | freed rest shape => exact .inr (.inr ⟨rest, shape, rfl, rfl⟩)

theorem PipeHop.drops (hop : PipeHop outside s thread stack a s' out)
    (found : s.threads[thread]? = some stack) (sound : s.Sound) (t : Nat) (st below : List Frame)
    (after : s'.threads[t]? = some st)
    (drop : belowDrop st = some below) :
    s'.life = .dropping t (below.any Frame.isActivation) ∧ belowDrop below = none := by
  rcases hop.belowDrop_same found with ⟨life, same⟩ | ⟨single, life, threads⟩ |
    ⟨rest, shape, life, threads⟩
  · obtain ⟨st', there, below'⟩ := same t st after
    rw [life]
    exact sound.drops t st' below there (below'.symm.trans drop)
  · -- the handle kept the `Inner` alive so far: no other drop has begun
    have none' (t : Nat) (st : List Frame) (there : s.threads[t]? = some st) : belowDrop st = none := by
      cases begun : belowDrop st with
      | none => rfl
      | some below =>
        have dropping := (sound.drops t st below there begun).1
        rw [sound.alive.mpr (by omega)] at dropping
        cases dropping
    rw [threads] at after
    rcases PipeSocket.put_get found after with ⟨rfl, rfl⟩ | ⟨-, there⟩
    · cases drop
      exact ⟨life, none' _ _ found⟩
    · cases drop.symm.trans (none' t st there)
  · subst shape
    have ended := sound.drops thread _ rest found rfl
    rw [threads] at after
    rcases PipeSocket.put_get found after with ⟨rfl, rfl⟩ | ⟨other, there⟩
    · cases drop.symm.trans ended.2
    · have dropping := (sound.drops t st below there drop).1
      rw [ended.1, PipeLife.dropping.injEq] at dropping
      exact absurd dropping.1.symm other

/-- **Every hop keeps the invariant.** -/
theorem PipeHop.sound (hop : PipeHop outside s thread stack a s' out)
    (found : s.threads[thread]? = some stack) (sound : s.Sound) : s'.Sound :=
  ⟨hop.alive found sound, hop.borrowed found sound, hop.excluded found sound, hop.seen found sound,
    hop.runs found sound, hop.drops found sound, hop.gone found sound⟩

theorem PipeSocket.sound_start : (pipeMachine outside).start.Sound where
  alive := iff_of_true rfl Nat.zero_lt_one
  borrowed := fun _ member => absurd member List.not_mem_nil
  excluded := .inl fun _ member => absurd member List.not_mem_nil
  seen := fun _ _ member => absurd member List.not_mem_nil
  runs := fun _ member => absurd member List.not_mem_nil
  drops := fun _ _ _ found => by cases found
  gone := by rintro ⟨⟩

theorem PipeSocket.frames_spawn :
    PipeSocket.frames { s with threads := s.threads ++ [[]] } = s.frames := by
  simp [PipeSocket.frames]

theorem PipeSocket.Sound.spawn (sound : s.Sound) :
    PipeSocket.Sound { s with threads := s.threads ++ [[]] } where
  alive := sound.alive
  borrowed := by
    rw [PipeSocket.frames_spawn]
    exact sound.borrowed
  excluded := by
    rw [PipeSocket.frames_spawn]
    exact sound.excluded
  seen := by
    rw [PipeSocket.frames_spawn]
    exact sound.seen
  runs := by
    rw [PipeSocket.frames_spawn]
    exact sound.runs
  drops := by
    intro t stack below found drop
    rw [List.getElem?_append] at found
    split_ifs at found
    · exact sound.drops t stack below found drop
    · obtain rfl := List.mem_singleton.mp (List.mem_of_getElem? found)
      cases drop
  gone := sound.gone

/-- **Every step keeps the invariant.** -/
theorem PipeSocket.Sound.step (sound : s.Sound) (stepped : pipeStep outside s a = some (s', out)) :
    s'.Sound := by
  rcases step_hop stepped with ⟨-, rfl⟩ | ⟨stack, found, hop⟩
  · exact sound.spawn
  · exact hop.sound found sound

theorem pipe_sound_of_reachable (reached : (pipeMachine outside).Reachable s) : s.Sound :=
  reached.invariant PipeSocket.sound_start fun _ _ _ _ sound stepped => sound.step stepped

end Sound

/-! ### The two properties -/

/-- **Activations run what was stored**: the closure each of them runs is the one that was stored when
it took the read lock. -/
def PipeSocket.RunsStored (s : PipeSocket) : Prop :=
  ∀ f ∈ s.frames, ∀ closure stored, f = .running closure stored → stored = some closure

/-- **The `Inner` outlives the activations**: when it is freed, none is on a stack. -/
def PipeSocket.Outlived (s : PipeSocket) : Prop :=
  s.life = .freed → ∀ f ∈ s.frames, f.isActivation = false

instance (s : PipeSocket) : Decidable s.Outlived :=
  inferInstanceAs (Decidable (s.life = .freed → ∀ f ∈ s.frames, f.isActivation = false))

/-- The frame on top of a thread's stack. -/
def PipeSocket.top (s : PipeSocket) (thread : Nat) : Option Frame := s.threads[thread]?.bind List.head?

/-- An `Inner::drop` that was started inside an activation comes to its end. -/
def EndsInside (t : Transition PipeSocket PipeAction PipeEvent) : Prop :=
  match t.act with
  | .advance thread => t.pre.life = .dropping thread true ∧ t.pre.top thread = some .tearing
  | _ => False

instance (t : Transition PipeSocket PipeAction PipeEvent) : Decidable (EndsInside t) := by
  unfold EndsInside
  split <;> infer_instance

/-- A callback releases the last handle. -/
def ReleasesInside (t : Transition PipeSocket PipeAction PipeEvent) : Prop :=
  match t.act with
  | .dropHandle thread =>
    t.pre.handles = 1 ∧ ∃ stack ∈ t.pre.threads[thread]?, stack.any Frame.isActivation = true
  | _ => False

section Lifetime

variable {outside : Outside} {s s' : PipeSocket} {thread : Nat} {stack : List Frame} {a : PipeAction}
  {out : List PipeEvent} {steps : List (Transition PipeSocket PipeAction PipeEvent)}

/-- Once the socket is closed no activation starts. -/
theorem PipeHop.no_activation (hop : PipeHop outside s thread stack a s' out)
    (found : s.threads[thread]? = some stack) (closed : s.closed = true)
    (none : ∀ f ∈ s.frames, f.isActivation = false) : ∀ f ∈ s'.frames, f.isActivation = false := by
  cases hop with
  | clone | release => exact none
  | releaseLast | pipeNotify | close => exact PipeSocket.frames_push found rfl none
  | fire ev live => exact absurd (closed.symm.trans live) (by decide)
  | register rv registered events result result' ev rest shape =>
    subst shape
    exact PipeSocket.frames_swap found rfl none
  | lock rest shape | invoke stored closure rest shape =>
    subst shape
    exact absurd (none _ (PipeSocket.top_mem found)).symm Bool.false_ne_true
  | store closure rest shape | unlock rest shape | fini rest shape =>
    subst shape
    exact PipeSocket.frames_swap found rfl none
  | finish closure stored rest shape | skip stored rest shape | notified result rest shape
  | closed rest shape | freed rest shape =>
    subst shape
    exact PipeSocket.frames_pop found none

/-- The end of an `Inner::drop` frees the `Inner`. -/
theorem PipeHop.freed_of_ends (hop : PipeHop outside s thread stack a s' out)
    (found : s.threads[thread]? = some stack) (ends : EndsInside ⟨s, a, s', out⟩) :
    s'.life = .freed ∧ s.life ≠ .freed := by
  have top {f : Frame} {rest : List Frame} (shape : stack = f :: rest) : s.top thread = some f := by
    rw [PipeSocket.top, found, shape]
    rfl
  have alive (dropping : s.life = .dropping thread true) : s.life ≠ .freed := by
    rw [dropping]
    rintro ⟨⟩
  cases hop with
  | clone | release | releaseLast | pipeNotify | close | fire | register | finish => cases ends
  | freed => exact ⟨rfl, alive ends.1⟩
  | lock rest shape | invoke stored closure rest shape | skip stored rest shape
  | store closure rest shape | unlock rest shape | notified result rest shape | closed rest shape
  | fini rest shape => cases (top shape).symm.trans ends.2

theorem PipeSocket.idle_iff : s.idle outside thread = true ↔
    ∀ (t : Nat) (st : List Frame), s.threads[t]? = some st →
      (t = thread → outside.returnsInside = false) → ∀ f ∈ st, f.isActivation = false := by
  simp only [PipeSocket.idle, List.all_eq_true, List.mem_flatten, Bool.not_eq_true']
  by_cases inside : outside.returnsInside = true
  · simp only [inside, if_true, List.mem_eraseIdx_iff_getElem?]
    constructor
    · intro idle t st found other f member
      exact idle f ⟨st, ⟨t, fun own => Bool.noConfusion (other own), found⟩, member⟩
    · rintro idle f ⟨st, ⟨t, other, found⟩, member⟩
      exact idle t st found (fun own => absurd own other) f member
  · rw [Bool.not_eq_true] at inside
    simp only [inside, Bool.false_eq_true, if_false]
    constructor
    · exact fun idle t st found _ f member => idle f ⟨st, List.mem_of_getElem? found, member⟩
    · rintro idle f ⟨st, there, member⟩
      obtain ⟨t, found⟩ := List.mem_iff_getElem?.mp there
      exact idle t st found (fun _ => trivial) f member

/-- Where an `Inner::drop` ends, only the stack it ends on may hold activations. -/
theorem PipeSocket.outlived_freed (sound : s.Sound) {rest : List Frame}
    (found : s.threads[thread]? = some (.tearing :: rest)) (idle : s.idle outside thread = true) :
    PipeSocket.Outlived
        (PipeSocket.put { s with closed := true, closure := none, life := .freed } thread rest) ↔
      s.life ≠ .dropping thread true := by
  have dropping := (sound.drops _ _ rest found rfl).1
  rw [dropping, ne_eq, PipeLife.dropping.injEq, and_iff_right rfl, Bool.not_eq_true, List.any_eq_false]
  constructor
  · intro outlived f member
    refine Bool.not_eq_true _ ▸ outlived rfl f (PipeSocket.mem_frames.mpr ⟨thread, rest, ?_, member⟩)
    exact List.getElem?_set_self (List.getElem?_eq_some_iff.mp found).choose
  · intro none _ f member
    obtain ⟨t, st, at', inside⟩ := PipeSocket.mem_frames.mp member
    rcases PipeSocket.put_get found at' with ⟨-, rfl⟩ | ⟨other, there⟩
    · exact Bool.eq_false_of_not_eq_true (none f inside)
    · exact PipeSocket.idle_iff.mp idle t st there (fun own => absurd own other) f inside

theorem PipeHop.outlived_iff (hop : PipeHop outside s thread stack a s' out)
    (found : s.threads[thread]? = some stack) (sound : s.Sound) (outlived : s.Outlived) :
    s'.Outlived ↔ ¬EndsInside ⟨s, a, s', out⟩ := by
  have ends := hop.freed_of_ends found
  by_cases new : s'.life = .freed ∧ s.life ≠ .freed
  · cases hop with
    | freed rest shape idle =>
      subst shape
      have top : s.top thread = some .tearing := by
        rw [PipeSocket.top, found]
        rfl
      exact (PipeSocket.outlived_freed sound found idle).trans
        (not_congr (and_iff_left top).symm)
    | releaseLast => cases new.1
    | _ => exact absurd new.1 new.2
  · refine iff_of_true (fun freed => ?_) fun inside => new (ends inside)
    have before : s.life = .freed := by_contra fun alive => new ⟨freed, alive⟩
    exact hop.no_activation found (sound.gone before).1 (outlived before)

/-- **One step keeps the activations outlived**, unless an `Inner::drop` ends inside one. -/
theorem PipeSocket.Outlived.step_iff (sound : s.Sound) (outlived : s.Outlived)
    (stepped : pipeStep outside s a = some (s', out)) :
    s'.Outlived ↔ ¬EndsInside ⟨s, a, s', out⟩ := by
  rcases step_hop stepped with ⟨rfl, rfl⟩ | ⟨stack, found, hop⟩
  · refine iff_of_true ?_ id
    unfold PipeSocket.Outlived
    rw [PipeSocket.frames_spawn]
    exact outlived
  · exact hop.outlived_iff found sound outlived

/-- An activation runs the closure that was stored when it took the read lock, in every run. -/
theorem runsStored_of_run (run : (pipeMachine outside).Run steps s) :
    ∀ t ∈ steps, t.post.RunsStored := by
  intro t member
  obtain ⟨reached, stepped⟩ := run.before t member
  exact ((pipe_sound_of_reachable reached).step stepped).runs

/-- Activations are outlived in exactly the runs in which no `Inner::drop` ends inside one. -/
theorem outlived_iff_of_run (run : (pipeMachine outside).Run steps s) :
    (∀ t ∈ steps, t.post.Outlived) ↔ ∀ t ∈ steps, ¬EndsInside t := by
  refine run.forall_post_iff PipeSocket.sound_start ?_
    (fun _ _ _ _ sound stepped => sound.step stepped)
    fun _ _ _ _ sound outlived stepped => outlived.step_iff sound stepped
  rintro ⟨⟩

/-- Where `nng_socket_close` waits for the callback it was called in, no `Inner::drop` ends inside
one. -/
theorem PipeHop.not_endsInside (hop : PipeHop outside s thread stack a s' out)
    (found : s.threads[thread]? = some stack) (sound : s.Sound)
    (waits : outside.returnsInside = false) : ¬EndsInside ⟨s, a, s', out⟩ := by
  intro ends
  obtain ⟨freed, exists'⟩ := hop.freed_of_ends found ends
  cases hop with
  | freed rest shape idle =>
    subst shape
    have below : rest.any Frame.isActivation = true := by
      have dropping := (sound.drops _ _ rest found rfl).1.symm.trans ends.1
      rw [PipeLife.dropping.injEq] at dropping
      exact dropping.2
    obtain ⟨f, member, active⟩ := List.any_eq_true.mp below
    have still := PipeSocket.idle_iff.mp idle _ _ found (fun _ => waits) f
      (List.mem_cons_of_mem _ member)
    exact Bool.false_ne_true (still.symm.trans active)
  | releaseLast => cases freed
  | _ => exact exists' freed

theorem not_endsInside_of_run (waits : outside.returnsInside = false)
    (run : (pipeMachine outside).Run steps s) : ∀ t ∈ steps, ¬EndsInside t := by
  intro t member
  obtain ⟨reached, stepped⟩ := run.before t member
  rcases step_hop stepped with ⟨spawned, -⟩ | ⟨stack, found, hop⟩
  · unfold EndsInside
    rw [spawned]
    exact id
  · exact hop.not_endsInside found (pipe_sound_of_reachable reached) waits

/-- **An activation runs the closure most recently stored when it took the read lock, and the `Inner`
is freed only when no activation is on a stack**: in every run, with a library whose `nng_socket_close`
does not return on top of a callback of the socket. -/
theorem pipe_callback_lifetime (waits : outside.returnsInside = false)
    (run : (pipeMachine outside).Run steps s) : ∀ t ∈ steps, t.post.RunsStored ∧ t.post.Outlived :=
  fun t member => ⟨runsStored_of_run run t member,
    (outlived_iff_of_run run).mpr (not_endsInside_of_run waits run) t member⟩

end Lifetime

/-- A callback drops a handle that is not the last one; the last one goes on another thread while it
runs, and the `Inner` is freed after it. -/
theorem pipe_callback_lifetime_dropped :
    ∃ (steps : List (Transition PipeSocket PipeAction PipeEvent)) (s : PipeSocket),
      (pipeMachine ⟨false, false, true⟩).Run steps s ∧ s.life = .freed ∧ .invoked 8 ∈ events steps ∧
        ∀ t ∈ steps, t.post.RunsStored ∧ t.post.Outlived := by
  have run := run_of_replay (M := pipeMachine ⟨false, false, true⟩)
    [.spawn, .spawn, .clone 0, .pipeNotify 0 8, .advance 0, .advance 0, .register 0 0, .register 0 0,
      .register 0 0, .advance 0, .fire 1 .NNG_PIPE_EV_ADD_POST, .advance 1, .advance 1, .dropHandle 1,
      .dropHandle 0, .advance 0, .finish 1, .advance 0]
    rfl
  exact ⟨_, _, run, rfl, by decide, pipe_callback_lifetime rfl run⟩

/-- A running callback takes the last handle and drops it. -/
theorem freed_inside {outside : Outside} (inside : outside.returnsInside = true) :
    ∃ (steps : List (Transition PipeSocket PipeAction PipeEvent)) (s : PipeSocket),
      (pipeMachine outside).Run steps s ∧ ¬∀ t ∈ steps, t.post.Outlived := by
  obtain ⟨_, lastInit, readersPass⟩ := outside
  subst inside
  cases lastInit <;> cases readersPass <;>
    exact ⟨_, _, run_of_replay
      [.spawn, .spawn, .pipeNotify 0 8, .advance 0, .advance 0, .register 0 0, .register 0 0,
        .register 0 0, .advance 0, .fire 1 .NNG_PIPE_EV_ADD_POST, .advance 1, .advance 1, .dropHandle 1,
        .advance 1, .advance 1] rfl, by decide⟩

/-- **The `Inner` outlives the activations in every run only if `nng_socket_close` does not return on top
of a callback.** -/
theorem lifetime_iff_waits {outside : Outside} :
    (∀ (steps : List (Transition PipeSocket PipeAction PipeEvent)) (s : PipeSocket),
      (pipeMachine outside).Run steps s → ∀ t ∈ steps, t.post.Outlived) ↔
        outside.returnsInside = false := by
  constructor
  · intro always
    by_contra inside
    obtain ⟨steps, s, run, early⟩ := freed_inside (Bool.of_not_eq_false inside)
    exact early (always steps s run)
  · exact fun waits steps s run => (outlived_iff_of_run run).mpr (not_endsInside_of_run waits run)

section Outside

variable {outside : Outside} {s s' : PipeSocket} {thread : Nat} {stack : List Frame} {a : PipeAction}
  {out : List PipeEvent} {steps : List (Transition PipeSocket PipeAction PipeEvent)}

/-- Only the release of the last handle inside a callback starts an `Inner::drop` there. -/
theorem PipeHop.notInside (hop : PipeHop outside s thread stack a s' out)
    (found : s.threads[thread]? = some stack)
    (before : ∀ t, s.life ≠ .dropping t true) (releases : ¬ReleasesInside ⟨s, a, s', out⟩) (t : Nat) :
    s'.life ≠ .dropping t true := by
  cases hop with
  | releaseLast single =>
    intro dropping
    rw [PipeSocket.put, PipeLife.dropping.injEq] at dropping
    exact releases ⟨single, stack, found, dropping.2⟩
  | freed => rintro ⟨⟩
  | _ => exact before t

/-- **Activations are outlived as long as no callback releases the last handle.** -/
theorem lifetime_outside (run : (pipeMachine outside).Run steps s)
    (releases : ∀ t ∈ steps, ¬ReleasesInside t) :
    ∀ t ∈ steps, t.post.RunsStored ∧ t.post.Outlived := by
  suffices none : ∀ t ∈ steps, ¬EndsInside t from fun t member =>
    ⟨runsStored_of_run run t member, (outlived_iff_of_run run).mpr none t member⟩
  intro t member ends
  obtain ⟨k, bound, rfl⟩ := List.getElem_of_mem member
  have life : ∀ thread, steps[k].pre.life ≠ .dropping thread true := by
    refine (run.upTo bound).invariant_of (fun t => ¬ReleasesInside t)
      (I := fun _ s => ∀ thread, s.life ≠ .dropping thread true) (by rintro _ ⟨⟩) ?_
      fun t member => releases t (List.mem_of_mem_take member)
    intro _ s a s' out before stepped releases
    rcases step_hop stepped with ⟨rfl, rfl⟩ | ⟨stack, found, hop⟩
    · exact before
    · exact hop.notInside found before releases
  unfold EndsInside at ends
  split at ends
  · exact life _ ends.1
  · exact ends

/-- The closure a step stored. -/
def PipeEvent.stored? : PipeEvent → Option Nat
  | .stored closure => some closure
  | .invoked _ | .notifyReturned _ | .nng_fini | .freed => none

/-- The closure stored last. -/
def lastStored (history : List PipeEvent) : Option Nat :=
  (history.filterMap PipeEvent.stored?).getLast?

theorem PipeHop.stores (hop : PipeHop outside s thread stack a s' out) (exists' : s'.life ≠ .freed) :
    (out.filterMap PipeEvent.stored? = [] ∧ s'.closure = s.closure) ∨
      ∃ closure, out = [.stored closure] ∧ s'.closure = some closure := by
  cases hop with
  | store closure => exact .inr ⟨closure, rfl, rfl⟩
  | freed => exact absurd rfl exists'
  | _ => exact .inl ⟨rfl, rfl⟩

/-- **What the lock protects is the closure stored last**, until the `Inner` is freed. -/
theorem closure_lastStored (run : (pipeMachine outside).Run steps s) (exists' : s.life ≠ .freed) :
    s.closure = lastStored (events steps) := by
  suffices both : s.Sound ∧ (s.life ≠ .freed → s.closure = lastStored (events steps)) from
    both.2 exists'
  refine run.invariant (I := fun history s => PipeSocket.Sound s ∧
    (s.life ≠ .freed → s.closure = lastStored history)) ⟨PipeSocket.sound_start, fun _ => rfl⟩ ?_
  rintro history s a s' out ⟨sound, last⟩ stepped
  refine ⟨sound.step stepped, fun exists' => ?_⟩
  unfold lastStored at last ⊢
  rw [List.filterMap_append, List.getLast?_append]
  rcases step_hop stepped with ⟨rfl, rfl⟩ | ⟨stack, found, hop⟩
  · cases stepped
    exact last exists'
  · have last := last fun freed => exists' (hop.freed_stays sound freed)
    rcases hop.stores exists' with ⟨silent, same⟩ | ⟨closure, rfl, same⟩
    · rw [silent, same, last]
      rfl
    · rw [same]
      rfl

/-- **A running activation runs the closure stored last**, for as long as it runs. -/
theorem running_lastStored (run : (pipeMachine outside).Run steps s) (exists' : s.life ≠ .freed)
    {closure : Nat} {stored : Option Nat} (running : .running closure stored ∈ s.frames) :
    lastStored (events steps) = some closure := by
  have sound := pipe_sound_of_reachable ⟨steps, run⟩
  calc lastStored (events steps) = s.closure := (closure_lastStored run exists').symm
    _ = stored := sound.seen exists' _ running _ rfl
    _ = some closure := sound.runs _ running _ _ rfl

end Outside

end NngRs.Nng
