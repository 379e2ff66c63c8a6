/-
**When every call on a socket returns.**

The lock of the pipe-event callback does not say whether a waiting writer goes before new readers. The
calls return either way, when the callback leaves `pipe_notify`, `close` and the last handle alone, and
the library runs no callback on a thread that has the lock.

* `PipeSocket.Orderly` — these conditions on a step; `PipeSocket.Tidy` — what the stacks then look like.
* `pipe_drains` — some owed step that overtakes no writer is possible as long as a thread is busy.
* `pipe_calls_return` — in every orderly run the owed steps alone empty all stacks, in whatever order
  they are taken and whichever way the lock goes.
-/

import NngRs.Machine.Parties
import NngRs.Machine.Progress
import NngRs.Nng.PipeDeadlock

namespace NngRs.Nng

open NngRs.Sys EventMachine

/-- The thread has the lock. -/
def holdsLock (stack : List Frame) : Bool := stack.any fun f => f.reads || f.writes

/-- A call into the library, which may run a callback there. -/
def Frame.calls : Frame → Bool
  | .registering _ _ | .closing | .dropping | .tearing => true
  | .entered | .locked _ | .running _ _ | .storing _ | .writing => false

/-- **The order that callers and the library keep**: `pipe_notify`, `close` and the drop of the last
handle stand outside the callback, and no callback runs where the lock is held. -/
def PipeSocket.Orderly (s : PipeSocket) (a : PipeAction) : Prop :=
  match a with
  | .pipeNotify thread _ | .close thread => s.threads[thread]? = some []
  | .dropHandle thread => s.handles = 1 → s.threads[thread]? = some []
  | .fire thread _ => ∀ stack ∈ s.threads[thread]?, holdsLock stack = false
  | .spawn | .clone _ | .register _ _ | .finish _ | .advance _ => True

instance (s : PipeSocket) (a : PipeAction) : Decidable (s.Orderly a) := by
  unfold PipeSocket.Orderly
  split <;> infer_instance

/-- A reader takes the lock before a writer that waits for it. -/
def PipeSocket.overtakes (s : PipeSocket) : PipeAction → Bool
  | .advance thread => decide (s.top thread = some .entered) && s.frames.any Frame.awaitsWrite
  | .spawn | .clone _ | .dropHandle _ | .pipeNotify _ _ | .close _ | .fire _ _ | .register _ _
  | .finish _ => false

/-- The owed steps that every lock allows. -/
def PipeSocket.due (s : PipeSocket) (a : PipeAction) : Bool := a.owed && !s.overtakes a

/-- The stacks of an orderly run: one frame, or an activation on a call. -/
def tidy : List Frame → Bool
  | [] | [_] => true
  | [top, base] => top.isActivation && base.calls
  | _ :: _ :: _ :: _ => false

def PipeSocket.Tidy (s : PipeSocket) : Prop :=
  ∀ (t : Nat) (stack : List Frame), s.threads[t]? = some stack → tidy stack = true

/-- How many owed steps the threads are from the end, at most. -/
def PipeSocket.rank (s : PipeSocket) : Nat := (s.threads.map stackRank).sum

/-- No thread is busy. -/
def PipeSocket.Quiet (s : PipeSocket) : Prop := ∀ stack ∈ s.threads, stack = []

section Tidy

variable {outside : Outside} {s s' : PipeSocket} {thread : Nat} {stack stack' rest : List Frame}
  {a : PipeAction}
  {out : List PipeEvent} {top f : Frame}

theorem tidy_rest (neat : tidy (top :: rest) = true) : tidy rest = true := by
  rcases rest with _ | ⟨base, _ | ⟨_, _⟩⟩
  · rfl
  · rfl
  · cases neat

theorem tidy_swap (neat : tidy (top :: rest) = true) (same : f.isActivation = top.isActivation) :
    tidy (f :: rest) = true := by
  rcases rest with _ | ⟨base, _ | ⟨_, _⟩⟩
  · rfl
  · rw [tidy, same]
    exact neat
  · cases neat

/-- Nothing but a call into the library is below another frame. -/
theorem tidy_top (neat : tidy stack = true) (inside : f ∈ stack) (call : f.calls = false) :
    ∃ rest, stack = f :: rest := by
  rcases stack with _ | ⟨top, _ | ⟨base, _ | ⟨_, _⟩⟩⟩
  · cases inside
  · exact ⟨[], by rw [List.mem_singleton.mp inside]⟩
  · rcases List.mem_cons.mp inside with rfl | below
    · exact ⟨[base], rfl⟩
    · rw [List.mem_singleton.mp below] at call
      rw [tidy, call, Bool.and_false] at neat
      cases neat
  · cases neat

/-- A callback is run on top of a call at most. -/
theorem tidy_entered (neat : tidy stack = true) (library : libraryTop stack = true)
    (free : holdsLock stack = false) : tidy (.entered :: stack) = true := by
  rcases stack with _ | ⟨top, _ | ⟨base, _ | ⟨_, _⟩⟩⟩
  · rfl
  · cases top with
    | running | writing => simp [holdsLock, Frame.reads, Frame.writes] at free
    | registering | closing | dropping | tearing => rfl
    | entered | locked | storing => cases library
  · cases top with
    | running => simp [holdsLock, Frame.reads, Frame.writes] at free
    | writing | registering | closing | dropping | tearing => cases neat
    | entered | locked | storing => cases library
  · cases neat

theorem fire_top (found : s.threads[thread]? = some stack) {ev : PipeEv}
    (stepped : pipeStep outside s (.fire thread ev) = some (s', out)) : libraryTop stack = true := by
  unfold pipeStep at stepped
  simp only [PipeAction.thread, found, PipeSocket.stepOn] at stepped
  split_ifs at stepped with able
  rw [Bool.and_eq_true, Bool.and_eq_true] at able
  exact able.1.1

theorem PipeHop.tidy (hop : PipeHop outside s thread stack a s' out)
    (found : s.threads[thread]? = some stack)
    (neat : tidy stack = true) (orderly : s.Orderly a)
    (stepped : pipeStep outside s a = some (s', out)) :
    ∃ stack', s'.threads = s.threads.set thread stack' ∧ tidy stack' = true := by
  have same : s.threads = s.threads.set thread stack := by
    obtain ⟨bound, here⟩ := List.getElem?_eq_some_iff.mp found
    rw [← here, List.set_getElem_self]
  cases hop with
  | clone | release => exact ⟨stack, same, neat⟩
  | releaseLast single =>
    obtain rfl := Option.some.inj (found.symm.trans (orderly single))
    exact ⟨_, rfl, rfl⟩
  | pipeNotify | close =>
    obtain rfl := Option.some.inj (found.symm.trans orderly)
    exact ⟨_, rfl, rfl⟩
  | fire => exact ⟨_, rfl, tidy_entered neat (fire_top found stepped) (orderly _ found)⟩
  | register _ _ _ _ _ _ _ shape | lock _ shape | invoke _ _ _ shape | store _ _ shape
  | unlock _ shape | fini _ shape =>
    subst shape
    exact ⟨_, rfl, tidy_swap neat rfl⟩
  | finish _ _ _ shape | skip _ _ shape | notified _ _ shape | closed _ shape | freed _ shape =>
    subst shape
    exact ⟨_, rfl, tidy_rest neat⟩

/-- **Orderly steps keep the stacks tidy.** -/
theorem PipeSocket.Tidy.step (neat : s.Tidy) (orderly : s.Orderly a)
    (stepped : pipeStep outside s a = some (s', out)) : s'.Tidy := by
  intro t st after
  rcases step_hop stepped with ⟨-, rfl⟩ | ⟨stack, found, hop⟩
  · rcases getElem?_concat_cases after with ⟨-, rfl⟩ | ⟨-, there⟩
    · rfl
    · exact neat t st there
  · obtain ⟨stack', threads, neat'⟩ := hop.tidy found (neat _ _ found) orderly stepped
    rw [threads] at after
    rcases getElem?_set_cases found after with ⟨-, rfl⟩ | ⟨-, there⟩
    · exact neat'
    · exact neat t st there

theorem orderly_of_owed (goes : a.owed = true) : s.Orderly a := by
  cases a with
  | register | finish | advance => trivial
  | _ => cases goes

/-- An owed step leaves less to do. -/
theorem rank_lt (goes : a.owed = true) (stepped : pipeStep outside s a = some (s', out)) :
    s'.rank < s.rank := by
  rcases step_hop stepped with ⟨rfl, -⟩ | ⟨stack, found, hop⟩
  · cases goes
  · obtain ⟨stack', threads, ⟨kept, -⟩ | ⟨-, top, rest, above, rfl, rfl, lower⟩⟩ := hop.onStack found
    · rw [goes] at kept
      cases kept
    · have total := sum_map_set stackRank (above ++ rest) found
      have split : stackRank (top :: rest) = top.rank + stackRank rest := List.sum_cons
      rw [stackRank_append, split] at total
      unfold PipeSocket.rank
      rw [threads]
      omega

/-! ### Some thread goes on -/

/-- The frames that neither wait for anything nor are a thread's whole stack. -/
theorem due_of_free (found : s.threads[thread]? = some (top :: rest)) (free : s.Free outside thread top)
    (first : top = .entered → s.frames.any Frame.awaitsWrite = false) :
    ∃ a s' out, s.due a = true ∧ pipeStep outside s a = some (s', out) := by
  obtain ⟨a, s', out, goes, rfl, stepped⟩ := owed_of_free found free
  refine ⟨a, s', out, ?_, stepped⟩
  rw [PipeSocket.due, goes, Bool.true_and, Bool.not_eq_true']
  cases a with
  | advance thread =>
    rw [PipeSocket.overtakes, PipeSocket.top, show s.threads[thread]? = some (top :: rest) from found,
      Option.bind_some, List.head?_cons]
    by_cases reader : top = .entered
    · rw [first reader, Bool.and_false]
    · rw [decide_eq_false fun same => reader (Option.some.inj same), Bool.false_and]
  | _ => rfl

/-- **A busy thread means that some thread goes on**, and overtakes no writer. -/
theorem able_of_busy (neat : s.Tidy) (busy : ¬s.Quiet) :
    ∃ a s' out, s.due a = true ∧ pipeStep outside s a = some (s', out) := by
  by_contra stuck
  have none {t : Nat} {top : Frame} {rest : List Frame} (found : s.threads[t]? = some (top :: rest))
      (free : s.Free outside t top) (first : top = .entered → s.frames.any Frame.awaitsWrite = false) :
      False :=
    stuck (due_of_free found free first)
  -- A frame that is not a call is on top, so it waits.
  have absent {p : Frame → Bool} (low : ∀ f, p f = true → f.calls = false)
      (goes : ∀ (t : Nat) (f : Frame), p f = true → s.Free outside t f ∧
        (f = .entered → s.frames.any Frame.awaitsWrite = false)) : ∀ f ∈ s.frames, p f = false := by
    intro f member
    by_contra holds
    rw [Bool.not_eq_false] at holds
    obtain ⟨t, stack, there, inside⟩ := PipeSocket.mem_frames.mp member
    obtain ⟨rest, rfl⟩ := tidy_top (neat t stack there) inside (low f holds)
    exact none there (goes t f holds).1 (goes t f holds).2
  have unread : ∀ f ∈ s.frames, f.reads = false := by
    refine absent (fun f reads => ?_) fun t f reads => ⟨fun _ _ _ => ?_, fun same => ?_⟩
    · cases f <;> first | rfl | cases reads
    · cases f <;> first | rfl | cases reads
    · rw [same] at reads
      cases reads
  have unwritten : ∀ f ∈ s.frames, f.writes = false := by
    refine absent (fun f writes => ?_) fun t f writes => ⟨fun _ _ _ => ?_, fun same => ?_⟩
    · cases f <;> first | rfl | cases writes
    · cases f <;> first | rfl | cases writes
    · rw [same] at writes
      cases writes
  have unwaited : ∀ f ∈ s.frames, f.awaitsWrite = false := by
    refine absent (fun f waits => ?_) fun t f waits => ⟨fun u stack there => ?_, ?_⟩
    · cases f <;> first | rfl | cases waits
    · cases f with
      | storing =>
        rw [Frame.waits, any_eq_false_of unwritten there, any_eq_false_of unread there]
        rfl
      | _ => cases waits
    · rintro rfl
      cases waits
  have idle : ∀ f ∈ s.frames, f.isActivation = false := by
    intro f member
    by_contra active
    rw [Bool.not_eq_false] at active
    cases f with
    | entered =>
      have entered := absent (p := fun f => decide (f = .entered))
        (fun f same => by rw [of_decide_eq_true same]; rfl) fun t f same => by
          rw [of_decide_eq_true same]
          refine ⟨fun u stack there => ?_,
            fun _ => List.any_eq_false.mpr fun f member => Bool.eq_false_iff.mp (unwaited f member)⟩
          rw [Frame.waits, any_eq_false_of unwritten there, any_eq_false_of unwaited there,
            Bool.and_false]
          rfl
      exact of_decide_eq_false (entered _ member) rfl
    | locked | running => cases unread _ member
    | _ => cases active
  refine busy fun stack member => ?_
  obtain ⟨t, found⟩ := List.mem_iff_getElem?.mp member
  cases stack with
  | nil => rfl
  | cons top rest =>
    refine (none found (fun u stack there => ?_) ?_).elim
    · have here := PipeSocket.top_mem found
      have calm := any_eq_false_of idle there
      cases top with
      | entered | locked | running => cases idle _ here
      | storing => cases unwaited _ here
      | closing | tearing =>
        rw [Frame.waits, calm, Bool.and_false]
      | dropping =>
        rw [Frame.waits, calm, Bool.and_false, Bool.and_false]
      | writing | registering => rfl
    · rintro rfl
      cases idle _ (PipeSocket.top_mem found)

theorem not_quiet_of_owed (goes : a.owed = true) (stepped : pipeStep outside s a = some (s', out)) :
    ¬s.Quiet := by
  intro quiet
  rcases step_hop stepped with ⟨rfl, -⟩ | ⟨stack, found, hop⟩
  · cases goes
  · exact (owed_changes found hop goes).1 (quiet stack (List.mem_of_getElem? found))

/-- **Owed steps empty the stacks**, where they are tidy. -/
theorem pipe_drains : Drains (pipeMachine outside) PipeSocket.Tidy PipeSocket.due PipeSocket.rank
    PipeSocket.Quiet where
  kept := fun _ _ _ _ neat due stepped =>
    neat.step (orderly_of_owed (Bool.and_eq_true_iff.mp due).1) stepped
  lower := fun _ _ _ _ _ _ due stepped => rank_lt (Bool.and_eq_true_iff.mp due).1 stepped
  able := fun _ neat busy => able_of_busy neat busy

/-- The same, for a lock that lets readers overtake. -/
theorem pipe_drains_owed : Drains (pipeMachine outside) PipeSocket.Tidy (fun _ => PipeAction.owed)
    PipeSocket.rank PipeSocket.Quiet where
  kept := fun _ _ _ _ neat goes stepped => neat.step (orderly_of_owed goes) stepped
  lower := fun _ _ _ _ _ _ goes stepped => rank_lt goes stepped
  able := fun s neat busy => by
    obtain ⟨a, s', out, due, stepped⟩ := able_of_busy neat busy
    exact ⟨a, s', out, (Bool.and_eq_true_iff.mp due).1, stepped⟩

variable {steps : List (Transition PipeSocket PipeAction PipeEvent)}

theorem tidy_of_run (run : (pipeMachine outside).Run steps s)
    (orderly : ∀ t ∈ steps, t.pre.Orderly t.act) :
    s.Tidy :=
  run.invariant_of (fun t => t.pre.Orderly t.act) (I := fun _ s => PipeSocket.Tidy s)
    (fun t stack found => by cases found)
    (fun _ _ _ _ _ neat stepped orderly => neat.step orderly stepped) orderly

/-- **Every call returns, in every orderly run.** Owed steps can be taken until no thread is busy, and
none of them lets a reader overtake a writer; however they are taken, there are at most
`PipeSocket.rank` of them, and where no more is possible no thread is busy. -/
theorem pipe_calls_return (run : (pipeMachine outside).Run steps s)
    (orderly : ∀ t ∈ steps, t.pre.Orderly t.act) :
    (∃ later s', ((pipeMachine outside).startedAt s).Run later s' ∧
      (∀ t ∈ later, t.pre.due t.act = true) ∧
      s'.Quiet ∧ later.length ≤ s.rank) ∧
    ∀ later s', ((pipeMachine outside).startedAt s).Run later s' → (∀ t ∈ later, t.act.owed = true) →
      later.length ≤ s.rank ∧ ((∀ a, s'.due a = true → pipeStep outside s' a = none) → s'.Quiet) := by
  have neat := tidy_of_run run orderly
  refine ⟨pipe_drains.reaches neat, fun later s' run' owed => ?_⟩
  obtain ⟨neat', short⟩ := pipe_drains_owed.length_le neat run' owed fun t member =>
    not_quiet_of_owed (owed t member) (run'.before t member).2
  refine ⟨by omega, fun stuck => ?_⟩
  by_contra busy
  obtain ⟨a, s'', out, due, stepped⟩ := able_of_busy neat' busy
  rw [stuck a due] at stepped
  cases stepped

end Tidy

/-- A callback runs while a second thread registers another closure and a third one closes the socket:
all three calls return. -/
theorem pipe_calls_return_callback :
    ∃ (steps : List (Transition PipeSocket PipeAction PipeEvent)) (s : PipeSocket),
      (pipeMachine ⟨false, false, true⟩).Run steps s ∧ s.rank = 8 ∧
        s.threads = [[.storing 9], [.running 8 (some 8)], [.closing]] ∧
        ∃ later s', ((pipeMachine ⟨false, false, true⟩).startedAt s).Run later s' ∧
          (∀ t ∈ later, t.pre.due t.act = true) ∧
          s'.Quiet ∧ later.length ≤ s.rank := by
  have run := run_of_replay (M := pipeMachine ⟨false, false, true⟩)
    [.spawn, .spawn, .spawn, .pipeNotify 0 8, .advance 0, .advance 0, .register 0 0, .register 0 0,
      .register 0 0, .advance 0, .fire 1 .NNG_PIPE_EV_ADD_POST, .advance 1, .advance 1, .pipeNotify 0 9,
      .close 2]
    rfl
  exact ⟨_, _, run, by decide, rfl, (pipe_calls_return run (by decide)).1⟩

end NngRs.Nng
