/-
**When the pipe-event callback deadlocks.**

A frame on top of a stack goes on unless it waits: a reader for the write lock to be released, and for
the writers that wait where those go first; a writer for both locks; a call that closes the socket for
the activations on the other threads, and for those below it where it does not return inside one. All
results are for either policy of the lock and for either kind of library.

* `Frame.waits` — what a frame waits for; `PipeHop.free`, `owed_of_free` — the code on top of a stack
  goes on exactly when it waits for no stack.
* `pipe_waiting` — a frame that waits for a stack stays where it is as long as that stack is there, so
  threads that wait for each other wait for ever.
* `pipe_stuck_iff` — nothing that is owed is possible exactly when each busy thread waits for one, and
  exactly when nothing is ever taken off a busy stack again.
* `close_inside_hangs` — with NNG, a call that closes the socket inside a callback never returns.
* `notify_inside_hangs` — `pipe_notify` in a running callback never returns; no closure is stored any
  more, and no thread gets out of `nng_socket_close`.
-/

import NngRs.Machine.Deadlock
import NngRs.Nng.PipeLifetime

namespace NngRs.Nng

open NngRs.Sys EventMachine

/-- `nng_socket_close` on thread `thread` waits for the activations of `other`. -/
def awaited (outside : Outside) (thread other : Nat) : Bool :=
  decide (other ≠ thread) || !outside.returnsInside

/-- **What a frame of thread `thread` waits for**: `other` has it on its stack. -/
def Frame.waits (top : Frame) (outside : Outside) (thread other : Nat) (stack : List Frame) : Bool :=
  match top with
  | .entered => stack.any Frame.writes || (!outside.readersPass && stack.any Frame.awaitsWrite)
  | .storing _ => stack.any Frame.writes || stack.any Frame.reads
  | .closing | .tearing => awaited outside thread other && stack.any Frame.isActivation
  | .dropping => outside.lastInit && (awaited outside thread other && stack.any Frame.isActivation)
  | .locked _ | .running _ _ | .writing | .registering _ _ => false

/-- The steps that the threads and the library owe: a closure returns, and so does `nng_pipe_notify`. -/
def PipeAction.owed : PipeAction → Bool
  | .register _ _ | .finish _ | .advance _ => true
  | .spawn | .clone _ | .dropHandle _ | .pipeNotify _ _ | .close _ | .fire _ _ => false

/-- How many owed steps a frame is from its end, at most. -/
def Frame.rank : Frame → Nat
  | .entered => 3
  | .locked _ => 2
  | .running _ _ => 1
  | .storing _ => 6
  | .writing => 5
  | .registering events _ => events.length + 1
  | .closing => 1
  | .dropping => 2
  | .tearing => 1

/-- A stack that a thread has, perhaps with more on top. -/
def PipeSocket.Keeps (s : PipeSocket) (thread : Nat) (stack : List Frame) : Prop :=
  ∃ above, s.threads[thread]? = some (above ++ stack)

/-- The top of a stack waits for another stack. -/
def StackBlocks (outside : Outside) (thread : Nat) (stack : List Frame) (other : Nat)
    (stack' : List Frame) : Prop :=
  ∃ top rest, stack = top :: rest ∧ top.waits outside thread other stack' = true

section Waiting

variable {outside : Outside} {s s' : PipeSocket} {thread other : Nat} {stack rest : List Frame}
  {a : PipeAction}
  {out : List PipeEvent} {top : Frame}

/-- More frames on a stack do not end a wait for it. -/
theorem Frame.waits_above {above stack : List Frame}
    (waits : top.waits outside thread other stack = true) :
    top.waits outside thread other (above ++ stack) = true := by
  cases top <;> simp only [Frame.waits, List.any_append, Bool.or_eq_true, Bool.and_eq_true] at waits ⊢
  case entered => exact waits.imp .inr fun late => ⟨late.1, .inr late.2⟩
  case storing => exact waits.imp .inr .inr
  case closing | tearing => exact ⟨waits.1, .inr waits.2⟩
  case dropping => exact ⟨waits.1, waits.2.1, .inr waits.2.2⟩
  all_goals cases waits

/-- A top frame that waits for nothing on any stack. -/
def PipeSocket.Free (s : PipeSocket) (outside : Outside) (thread : Nat) (top : Frame) : Prop :=
  ∀ (other : Nat) (stack : List Frame), s.threads[other]? = some stack →
    top.waits outside thread other stack = false

theorem PipeSocket.mem_of_at (there : s.threads[other]? = some stack) {f : Frame} (inside : f ∈ stack) :
    f ∈ s.frames := PipeSocket.mem_frames.mpr ⟨other, stack, there, inside⟩

theorem any_eq_false_of {p : Frame → Bool} (none : ∀ f ∈ s.frames, p f = false)
    (there : s.threads[other]? = some stack) : stack.any p = false :=
  List.any_eq_false.mpr fun f inside => by
    rw [none f (PipeSocket.mem_of_at there inside)]
    exact Bool.false_ne_true

/-- Where nothing is to be waited for, no stack is. -/
theorem not_awaited (idle : s.idle outside thread = true) (there : s.threads[other]? = some stack) :
    (awaited outside thread other && stack.any Frame.isActivation) = false := by
  rw [Bool.and_eq_false_iff]
  by_cases waits : awaited outside thread other = true
  · have own : other = thread → outside.returnsInside = false := by
      rintro rfl
      simpa [awaited] using waits
    refine .inr (List.any_eq_false.mpr fun f inside => ?_)
    rw [PipeSocket.idle_iff.mp idle other stack there own f inside]
    exact Bool.false_ne_true
  · exact .inl (Bool.eq_false_of_not_eq_true waits)

/-- **A hop that touches the top of its stack found it free.** -/
theorem PipeHop.free (hop : PipeHop outside s thread (top :: rest) a s' out) (goes : a.owed = true) :
    s.Free outside thread top := by
  intro other stack there
  cases hop with
  | clone | release | releaseLast | pipeNotify | close | fire => cases goes
  | register _ _ _ _ _ _ _ shape | finish _ _ _ shape | invoke _ _ _ shape | skip _ _ shape
  | unlock _ shape | notified _ _ shape =>
    cases shape
    rfl
  | lock _ shape free first =>
    cases shape
    rw [Frame.waits, any_eq_false_of free there, Bool.false_or, Bool.and_eq_false_iff]
    cases policy : outside.readersPass
    · exact .inr (any_eq_false_of (first policy) there)
    · exact .inl rfl
  | store _ _ shape unwritten unread =>
    cases shape
    rw [Frame.waits, any_eq_false_of unwritten there, any_eq_false_of unread there]
    rfl
  | closed _ shape idle | freed _ shape idle =>
    cases shape
    exact not_awaited idle there
  | fini _ shape idle =>
    cases shape
    cases last : outside.lastInit
    · rw [Frame.waits, last, Bool.false_and]
    · rw [Frame.waits, not_awaited (idle last) there, Bool.and_false]

/-- How many owed steps a stack is from its end, at most. -/
def stackRank (stack : List Frame) : Nat := (stack.map Frame.rank).sum

/-- What a hop does to the stack it is taken on: more on top, or an owed step nearer to the end. -/
theorem PipeHop.onStack (hop : PipeHop outside s thread stack a s' out)
    (found : s.threads[thread]? = some stack) :
    ∃ stack', s'.threads = s.threads.set thread stack' ∧
      ((a.owed = false ∧ ∃ above, stack' = above ++ stack) ∨
        (a.owed = true ∧ ∃ top rest above, stack = top :: rest ∧ stack' = above ++ rest ∧
          stackRank above < top.rank)) := by
  have same : s.threads = s.threads.set thread stack := by
    obtain ⟨bound, here⟩ := List.getElem?_eq_some_iff.mp found
    rw [← here, List.set_getElem_self]
  cases hop with
  | clone | release => exact ⟨stack, same, .inl ⟨rfl, [], rfl⟩⟩
  | releaseLast | pipeNotify | close | fire => exact ⟨_, rfl, .inl ⟨rfl, [_], rfl⟩⟩
  | register _ _ events _ _ _ rest shape =>
    refine ⟨_, rfl, .inr ⟨rfl, _, rest, [_], shape, rfl, ?_⟩⟩
    exact Nat.lt_succ_self (events.length + 1)
  | finish _ _ rest shape | notified _ rest shape | closed rest shape | freed rest shape =>
    exact ⟨_, rfl, .inr ⟨rfl, _, rest, [], shape, rfl, Nat.zero_lt_one⟩⟩
  | skip _ rest shape => exact ⟨_, rfl, .inr ⟨rfl, _, rest, [], shape, rfl, Nat.zero_lt_two⟩⟩
  | lock rest shape | invoke _ _ rest shape | store _ rest shape | unlock rest shape
  | fini rest shape => exact ⟨_, rfl, .inr ⟨rfl, _, rest, [_], shape, rfl, Nat.lt_succ_self _⟩⟩

/-- **A frame that waits for a stack stays where it is while that stack is there.** -/
theorem pipe_waiting : Waiting (pipeMachine outside) PipeSocket.Keeps (StackBlocks outside) where
  stays := by
    rintro s a s' out t _ u under ⟨above, mine⟩ ⟨above', theirs⟩ ⟨top, rest, rfl, waits⟩ stepped
    rcases step_hop stepped with ⟨-, rfl⟩ | ⟨stack, found, hop⟩
    · have bound := (List.getElem?_eq_some_iff.mp mine).choose
      exact ⟨above, (List.getElem?_append_left bound).trans mine⟩
    · obtain ⟨stack', threads, moved⟩ := hop.onStack found
      have bound := (List.getElem?_eq_some_iff.mp found).choose
      by_cases here : a.thread = t
      · subst here
        obtain rfl := Option.some.inj (found.symm.trans mine)
        have after : s'.threads[a.thread]? = some stack' := by
          rw [threads]
          exact List.getElem?_set_self bound
        rcases moved with ⟨-, more, rfl⟩ | ⟨goes, top', rest', more, shape, rfl, -⟩
        · exact ⟨more ++ above, by rw [after, List.append_assoc]⟩
        · cases above with
          | nil =>
            cases shape
            have free := hop.free goes _ _ theirs
            rw [Frame.waits_above waits] at free
            cases free
          | cons f above =>
            obtain ⟨-, rfl⟩ := List.cons.inj (List.cons_append.symm.trans shape)
            exact ⟨more ++ above, by rw [after, List.append_assoc]⟩
      · exact ⟨above, by rw [threads, List.getElem?_set_ne here]; exact mine⟩

/-! ### A free top frame goes on -/

theorem PipeSocket.frames_any_eq_false {p : Frame → Bool}
    (none : ∀ (t : Nat) (st : List Frame), s.threads[t]? = some st → st.any p = false) :
    s.frames.any p = false := by
  refine List.any_eq_false.mpr fun f member => ?_
  obtain ⟨t, st, there, inside⟩ := PipeSocket.mem_frames.mp member
  exact List.any_eq_false.mp (none t st there) f inside

theorem PipeSocket.idle_of (none : ∀ (t : Nat) (st : List Frame), s.threads[t]? = some st →
    (awaited outside thread t && st.any Frame.isActivation) = false) :
    s.idle outside thread = true := by
  refine PipeSocket.idle_iff.mpr fun t st there own f inside => ?_
  have waits : awaited outside thread t = true := by
    by_cases same : t = thread
    · simp [awaited, own same]
    · simp [awaited, same]
  have calm := none t st there
  rw [waits, Bool.true_and] at calm
  exact Bool.eq_false_iff.mpr (List.any_eq_false.mp calm f inside)

/-- A reader that waits for no stack gets the lock. -/
theorem PipeSocket.readBlocked_of (free : s.Free outside thread .entered) :
    s.readBlocked outside = false := by
  have both := fun (t : Nat) (st : List Frame) (there : s.threads[t]? = some st) =>
    Bool.or_eq_false_iff.mp (free t st there)
  rw [PipeSocket.readBlocked, PipeSocket.frames_any_eq_false fun t st there => (both t st there).1,
    Bool.false_or]
  cases policy : outside.readersPass
  · refine PipeSocket.frames_any_eq_false fun t st there => ?_
    have late := (both t st there).2
    rw [policy] at late
    exact late
  · rfl

/-- **A top frame that waits for nothing goes on.** -/
theorem owed_of_free (found : s.threads[thread]? = some (top :: rest))
    (free : s.Free outside thread top) : ∃ a s' out, PipeAction.owed a = true ∧ a.thread = thread ∧
      pipeStep outside s a = some (s', out) := by
  have going : ∀ a : PipeAction, a.owed = true → a.thread = thread →
      pipeStep outside s a = s.stepOn outside (top :: rest) a := by
    rintro a goes rfl
    cases a with
    | register | finish | advance =>
      unfold pipeStep
      simp only [found]
    | _ => cases goes
  cases top with
  | entered =>
    refine ⟨.advance thread, ?_⟩
    rw [going _ rfl rfl, PipeSocket.stepOn, PipeSocket.advance, PipeSocket.readBlocked_of free]
    exact ⟨_, _, rfl, rfl, rfl⟩
  | locked stored =>
    refine ⟨.advance thread, ?_⟩
    rw [going _ rfl rfl, PipeSocket.stepOn, PipeSocket.advance]
    cases s.closure <;> exact ⟨_, _, rfl, rfl, rfl⟩
  | running closure stored =>
    refine ⟨.finish thread, ?_⟩
    rw [going _ rfl rfl]
    exact ⟨_, _, rfl, rfl, rfl⟩
  | storing closure =>
    have both := fun (t : Nat) (st : List Frame) (there : s.threads[t]? = some st) =>
      Bool.or_eq_false_iff.mp (free t st there)
    refine ⟨.advance thread, ?_⟩
    rw [going _ rfl rfl, PipeSocket.stepOn, PipeSocket.advance,
      PipeSocket.frames_any_eq_false fun t st there => (both t st there).1,
      PipeSocket.frames_any_eq_false fun t st there => (both t st there).2]
    exact ⟨_, _, rfl, rfl, rfl⟩
  | writing =>
    refine ⟨.advance thread, ?_⟩
    rw [going _ rfl rfl]
    exact ⟨_, _, rfl, rfl, rfl⟩
  | dropping =>
    refine ⟨.advance thread, ?_⟩
    rw [going _ rfl rfl, PipeSocket.stepOn, PipeSocket.advance]
    cases last : outside.lastInit
    · exact ⟨_, _, rfl, rfl, rfl⟩
    · have idle := PipeSocket.idle_of fun t st there => by
        have calm := free t st there
        rwa [Frame.waits, last, Bool.true_and] at calm
      rw [idle]
      exact ⟨_, _, rfl, rfl, rfl⟩
  | registering events result =>
    cases events with
    | nil =>
      refine ⟨.advance thread, ?_⟩
      rw [going _ rfl rfl]
      exact ⟨_, _, rfl, rfl, rfl⟩
    | cons ev events =>
      refine ⟨.register thread NNG_OK, ?_⟩
      rw [going _ rfl rfl]
      exact ⟨_, _, rfl, rfl, rfl⟩
  | closing | tearing =>
    refine ⟨.advance thread, ?_⟩
    rw [going _ rfl rfl, PipeSocket.stepOn, PipeSocket.advance, PipeSocket.idle_of free]
    exact ⟨_, _, rfl, rfl, rfl⟩

/-- No owed step is possible exactly when each busy thread waits for one. -/
theorem stuck_iff : (∀ a, PipeAction.owed a = true → pipeStep outside s a = none) ↔
    ∀ (t : Nat) (top : Frame) (rest : List Frame), s.threads[t]? = some (top :: rest) →
      ∃ (u : Nat) (stack : List Frame), s.threads[u]? = some stack ∧
        top.waits outside t u stack = true := by
  constructor
  · intro stuck t top rest found
    by_contra free
    obtain ⟨a, s', out, goes, -, stepped⟩ := owed_of_free found fun u stack there =>
      Bool.eq_false_iff.mpr fun waits => free ⟨u, stack, there, waits⟩
    rw [stuck a goes] at stepped
    cases stepped
  · intro waiting a goes
    by_contra possible
    obtain ⟨⟨s', out⟩, stepped⟩ := Option.ne_none_iff_exists'.mp possible
    rcases step_hop stepped with ⟨rfl, -⟩ | ⟨stack, found, hop⟩
    · cases goes
    · obtain ⟨_, -, ⟨kept, -⟩ | ⟨-, top, rest, -, rfl, -, -⟩⟩ := hop.onStack found
      · rw [goes] at kept
        cases kept
      · obtain ⟨u, stack, there, waits⟩ := waiting _ _ _ found
        have free := hop.free goes u stack there
        rw [waits] at free
        cases free

theorem stackRank_append {above below : List Frame} :
    stackRank (above ++ below) = stackRank above + stackRank below := by
  unfold stackRank
  rw [List.map_append, List.sum_append]

/-- An owed step takes something off a busy stack. -/
theorem owed_changes {stack : List Frame} (found : s.threads[a.thread]? = some stack)
    (hop : PipeHop outside s a.thread stack a s' out) (goes : a.owed = true) :
    stack ≠ [] ∧ ¬s'.Keeps a.thread stack := by
  obtain ⟨stack', threads, ⟨kept, -⟩ | ⟨-, top, rest, above, rfl, rfl, lower⟩⟩ := hop.onStack found
  · rw [goes] at kept
    cases kept
  · refine ⟨List.cons_ne_nil _ _, ?_⟩
    rintro ⟨more, there⟩
    have bound := (List.getElem?_eq_some_iff.mp found).choose
    rw [threads, List.getElem?_set_self bound] at there
    have same := congrArg stackRank (Option.some.inj there)
    have split : stackRank (top :: rest) = top.rank + stackRank rest := List.sum_cons
    rw [stackRank_append, stackRank_append, split] at same
    omega

/-- **When the threads are stuck**: nothing that is owed is possible exactly when each busy thread waits
for one, perhaps for itself, and exactly when no busy thread ever takes anything off its stack again,
whatever user code, the library and new threads do. -/
theorem pipe_stuck_iff (outside : Outside) (s : PipeSocket) :
    ((∀ a, PipeAction.owed a = true → pipeStep outside s a = none) ↔
      ∀ (t : Nat) (top : Frame) (rest : List Frame), s.threads[t]? = some (top :: rest) →
        ∃ (u : Nat) (stack : List Frame), s.threads[u]? = some stack ∧
          top.waits outside t u stack = true) ∧
    ((∀ a, PipeAction.owed a = true → pipeStep outside s a = none) ↔
      ∀ s', ((pipeMachine outside).startedAt s).Reachable s' → ∀ (t : Nat) (stack : List Frame),
        s.threads[t]? = some stack → stack ≠ [] → s'.Keeps t stack) := by
  refine ⟨stuck_iff, ?_, ?_⟩
  · intro stuck s' later t stack found busy
    have waiting := stuck_iff.mp stuck
    have dead : Deadlocked PipeSocket.Keeps (StackBlocks outside)
        {t | ∃ top rest, s.threads[t]? = some (top :: rest)}
        (fun t => s.threads[t]?.getD []) s := by
      constructor
      · rintro t ⟨top, rest, found⟩
        exact ⟨[], by rw [found]; rfl⟩
      · rintro t ⟨top, rest, found⟩
        obtain ⟨u, other, there, waits⟩ := waiting t top rest found
        refine ⟨u, ?_, top, rest, ?_, ?_⟩
        · cases other with
          | nil => cases top <;> simp [Frame.waits] at waits
          | cons f more => exact ⟨f, more, there⟩
        · rw [found]
          rfl
        · rw [there]
          exact waits
    obtain ⟨top, rest, rfl⟩ := List.exists_cons_of_ne_nil busy
    have kept := (pipe_waiting.forever dead later).keeps t ⟨top, rest, found⟩
    rw [found] at kept
    exact kept
  · intro kept a goes
    by_contra possible
    obtain ⟨⟨s', out⟩, stepped⟩ := Option.ne_none_iff_exists'.mp possible
    rcases step_hop stepped with ⟨rfl, -⟩ | ⟨stack, found, hop⟩
    · cases goes
    · obtain ⟨busy, changes⟩ := owed_changes found hop goes
      exact changes (kept s' (Reachable.start.step stepped) _ _ found busy)

/-! ### Calls inside a callback -/

/-- **A call that closes the socket inside a callback never returns**, where the library waits for the
callback it was called in: neither `Socket::close` nor the drop of the last handle. -/
theorem close_inside_hangs (waits : outside.returnsInside = false)
    (found : s.threads[thread]? = some (top :: stack)) (closes : top = .closing ∨ top = .tearing)
    (inside : stack.any Frame.isActivation = true)
    (later : ((pipeMachine outside).startedAt s).Reachable s') : s'.Keeps thread (top :: stack) := by
  have own : top.waits outside thread thread (top :: stack) = true := by
    have all : (awaited outside thread thread && (top :: stack).any Frame.isActivation) = true := by
      rw [awaited, waits, List.any_cons, inside, Bool.or_true, Bool.not_false, Bool.or_true]
      rfl
    rcases closes with rfl | rfl <;> exact all
  have dead : Deadlocked PipeSocket.Keeps (StackBlocks outside) {thread} (fun _ => top :: stack) s := by
    constructor
    · rintro t rfl
      exact ⟨[], found⟩
    · rintro t rfl
      exact ⟨t, rfl, top, stack, rfl, own⟩
  exact (pipe_waiting.forever dead later).keeps thread rfl

/-- Where neither user code nor the library can start anything, only owed steps are possible. -/
theorem owed_of_quiet (found : s.threads[a.thread]? = some stack) (user : userTop stack = false)
    (library : libraryTop stack = false) (stepped : pipeStep outside s a = some (s', out)) :
    a = .spawn ∨ a.owed = true := by
  cases a with
  | spawn => exact .inl rfl
  | register | finish | advance => exact .inr rfl
  | clone | dropHandle | pipeNotify | close | fire =>
    unfold pipeStep at stepped
    simp [found, PipeSocket.stepOn, user, library] at stepped

/-- A stack that `pipe_notify` was called on with the lock held below. -/
def PipeSocket.Hangs (s : PipeSocket) (thread closure : Nat) (stack : List Frame) : Prop :=
  s.threads[thread]? = some (.storing closure :: stack) ∧
    (stack.any Frame.writes || stack.any Frame.reads) = true

variable {closure : Nat}

/-- Nobody gets the write lock. -/
theorem PipeSocket.Hangs.not_free (hangs : s.Hangs thread closure stack) {c : Nat} :
    ¬s.Free outside other (.storing c) := by
  intro free
  have waits := free _ _ hangs.1
  simp only [Frame.waits, List.any_cons, Frame.writes, Frame.reads, Bool.false_or] at waits
  rw [hangs.2] at waits
  cases waits

/-- **It stays as it is.** -/
theorem PipeSocket.Hangs.step (hangs : s.Hangs thread closure stack)
    (stepped : pipeStep outside s a = some (s', out)) : s'.Hangs thread closure stack := by
  refine ⟨?_, hangs.2⟩
  rcases step_hop stepped with ⟨-, rfl⟩ | ⟨other, found, hop⟩
  · have bound := (List.getElem?_eq_some_iff.mp hangs.1).choose
    exact (List.getElem?_append_left bound).trans hangs.1
  · by_cases here : a.thread = thread
    · subst here
      obtain rfl := Option.some.inj (found.symm.trans hangs.1)
      rcases owed_of_quiet found rfl rfl stepped with rfl | goes
      · cases hop
      · exact absurd (hop.free goes) hangs.not_free
    · obtain ⟨stack', threads, -⟩ := hop.onStack found
      rw [threads, List.getElem?_set_ne here]
      exact hangs.1

theorem PipeHop.stored_top (hop : PipeHop outside s thread stack a s' out) {c : Nat}
    (showed : .stored c ∈ out) : a.owed = true ∧ ∃ rest, stack = .storing c :: rest := by
  cases hop with
  | store closure rest shape =>
    cases List.mem_singleton.mp showed
    exact ⟨rfl, rest, shape⟩
  | _ => simp at showed

theorem PipeHop.freed_top (hop : PipeHop outside s thread stack a s' out) (showed : .freed ∈ out) :
    ∃ rest, stack = .tearing :: rest := by
  cases hop with
  | freed rest shape => exact ⟨rest, shape⟩
  | _ => simp at showed

/-- While a call hangs no `pipe_notify` stores a closure, and the `Inner` is not freed; nor does an
`nng_socket_close` return, if the call was made in a callback. -/
theorem PipeSocket.Hangs.silent (hangs : s.Hangs thread closure stack) (sound : s.Sound)
    (stepped : pipeStep outside s a = some (s', out)) :
    (∀ c, .stored c ∉ out) ∧ .freed ∉ out ∧
      (stack.any Frame.isActivation = true → ∀ other, a = .advance other →
        s.top other ≠ some .closing) := by
  rcases step_hop stepped with ⟨rfl, -⟩ | ⟨here, found, hop⟩
  · cases stepped
    exact ⟨fun _ => List.not_mem_nil, List.not_mem_nil, fun _ _ going => by cases going⟩
  · refine ⟨fun c showed => ?_, fun showed => ?_, fun running other going top => ?_⟩
    · obtain ⟨goes, rest, rfl⟩ := hop.stored_top showed
      exact hangs.not_free (hop.free goes)
    · obtain ⟨rest, rfl⟩ := hop.freed_top showed
      -- The hanging call borrows a handle, so no `Inner::drop` has started.
      have borrowed := sound.borrowed _ (PipeSocket.mem_of_at hangs.1 List.mem_cons_self) rfl
      have alive := sound.alive.mpr borrowed
      rw [(sound.drops _ _ _ found rfl).1] at alive
      cases alive
    · subst going
      rw [PipeSocket.top, show s.threads[other]? = some here from found, Option.bind_some] at top
      obtain ⟨rest, rfl⟩ := List.head?_eq_some_iff.mp top
      have idle := hop.free rfl _ _ hangs.1
      rw [Frame.waits, awaited, Bool.and_eq_false_iff, Bool.or_eq_false_iff, decide_eq_false_iff_not,
        not_not] at idle
      rcases idle with ⟨same, -⟩ | idle
      · subst same
        cases hangs.1.symm.trans found
      · rw [List.any_cons, running, Bool.or_true] at idle
        cases idle

/-- **`pipe_notify` never returns where it is called in a callback, or while another `pipe_notify` drops
the closure it replaced.** From then on no call stores a closure, the `Inner` is not freed, and, if it
was in a callback, no `nng_socket_close` returns. -/
theorem notify_inside_hangs {before later : List (Transition PipeSocket PipeAction PipeEvent)}
    {s₁ : PipeSocket} (run : (pipeMachine outside).Run before s)
    (found : s.threads[thread]? = some stack)
    (inside : stack ≠ []) (called : pipeStep outside s (.pipeNotify thread closure) = some (s₁, out))
    (run' : ((pipeMachine outside).startedAt s₁).Run later s') :
    s'.threads[thread]? = some (.storing closure :: stack) ∧
      ∀ t ∈ later, (∀ c, .stored c ∉ t.out) ∧ .freed ∉ t.out ∧
        (stack.any Frame.isActivation = true → ∀ other, t.act = .advance other →
          t.pre.top other ≠ some .closing) := by
  have start : s₁.Hangs thread closure stack := by
    unfold pipeStep at called
    simp only [PipeAction.thread, found, PipeSocket.stepOn] at called
    split_ifs at called with able
    cases called
    refine ⟨List.getElem?_set_self (List.getElem?_eq_some_iff.mp found).choose, ?_⟩
    rw [Bool.and_eq_true] at able
    cases stack with
    | nil => exact absurd rfl inside
    | cons top rest =>
      cases top <;> first | exact Bool.or_true _ | rfl | cases able.1
  have hangs {s' : PipeSocket} (reached : ((pipeMachine outside).startedAt s₁).Reachable s') :
      s'.Hangs thread closure stack :=
    Reachable.invariant (M := (pipeMachine outside).startedAt s₁)
      (I := fun s => PipeSocket.Hangs s thread closure stack) start
      (fun _ _ _ _ hangs stepped => hangs.step stepped) reached
  refine ⟨(hangs ⟨_, run'⟩).1, fun t member => ?_⟩
  obtain ⟨reached, stepped⟩ := run'.before t member
  have calling : (pipeMachine outside).step s (.pipeNotify thread closure) = some (s₁, out) := called
  have first : (pipeMachine outside).Reachable s₁ := Reachable.step ⟨_, run⟩ calling
  exact (hangs reached).silent (pipe_sound_of_reachable (first.further reached)) stepped

end Waiting

/-- A callback registers another closure, while the library runs a callback on a second thread and a
third one closes the socket. -/
theorem notify_inside_hangs_closing :
    ∃ (before later : List (Transition PipeSocket PipeAction PipeEvent)) (s s₁ s' : PipeSocket),
      (pipeMachine ⟨false, false, true⟩).Run before s ∧
        pipeStep ⟨false, false, true⟩ s (.pipeNotify 1 9) = some (s₁, []) ∧
        ((pipeMachine ⟨false, false, true⟩).startedAt s₁).Run later s' ∧ later.length = 6 ∧
        s'.threads[1]? = some [.storing 9, .running 8 (some 8)] ∧
        ∀ t ∈ later, (∀ c, .stored c ∉ t.out) ∧ .freed ∉ t.out ∧
          (([.running 8 (some 8)] : List Frame).any Frame.isActivation = true →
            ∀ other, t.act = .advance other → t.pre.top other ≠ some .closing) := by
  have run := run_of_replay (M := pipeMachine ⟨false, false, true⟩)
    [.spawn, .spawn, .spawn, .pipeNotify 0 8, .advance 0, .advance 0, .register 0 0, .register 0 0,
      .register 0 0, .advance 0, .fire 1 .NNG_PIPE_EV_ADD_POST, .advance 1, .advance 1]
    rfl
  have later := run_of_replay
    (M := (pipeMachine ⟨false, false, true⟩).startedAt
      ⟨1, some 8, [.NNG_PIPE_EV_REM_POST, .NNG_PIPE_EV_ADD_POST, .NNG_PIPE_EV_ADD_PRE], false, .alive,
        [[], [.storing 9, .running 8 (some 8)], []]⟩)
    [.close 0, .fire 2 .NNG_PIPE_EV_ADD_POST, .advance 2, .advance 2, .finish 2, .clone 2]
    rfl
  exact ⟨_, _, _, _, _, run, rfl, later, rfl,
    notify_inside_hangs run rfl (List.cons_ne_nil _ _) rfl later⟩

end NngRs.Nng
