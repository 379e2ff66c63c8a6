/-
**The pipe-event callback of a socket, as a machine of threads.**

All handles of a socket share one `Inner`, which keeps the user's closure in an `RwLock`. The library
gets a raw pointer to `Inner` that no handle counts, and calls `trampoline` with it. Every thread has a
stack of frames: user code runs where a stack is empty, in a running closure, and while `pipe_notify`
drops the previous closure. There it may clone, drop and close handles and register closures, as long
as a handle is alive. A running `pipe_notify` or `close` borrows one.

What is assumed of the library is in `fire` and in the frames that close the socket: a callback runs for
a registered event, on a thread of the library or of a caller of the library; and `nng_socket_close`
returns only when no callback runs on another thread, after which none starts. What is left open is a
parameter of the machine.

* `Outside` — whether `nng_socket_close` returns with a callback below it on its own stack (NNG's does
  not), whether `nng_fini` is the last one, and which of two policies the `RwLock` has: its
  documentation promises none.
* `PipeHop` — what a step does to the stack it is taken on, and to the rest.
* `step_hop` — every step of the machine is one of these, or a new thread.
-/

import NngRs.Machine.Run
import NngRs.Sys.ErrorKind

namespace NngRs.Nng

open NngRs.Sys EventMachine

/-- `nng_pipe_ev`. -/
inductive PipeEv
  | NNG_PIPE_EV_ADD_PRE
  | NNG_PIPE_EV_ADD_POST
  | NNG_PIPE_EV_REM_POST
deriving DecidableEq, Repr

/-- A frame of a thread's stack. Closures are told apart by numbers. -/
inductive Frame
  /-- `trampoline`, before it has the read lock. -/
  | entered
  /-- `trampoline`, with the read lock; what was stored when it got it. -/
  | locked (stored : Option Nat)
  /-- `trampoline`, in the closure. -/
  | running (closure : Nat) (stored : Option Nat)
  /-- `pipe_notify`, before it has the write lock. -/
  | storing (closure : Nat)
  /-- `pipe_notify`, with the write lock, dropping the closure it replaced. -/
  | writing
  /-- `pipe_notify`, with the events it has not registered yet, and its result so far. -/
  | registering (events : List PipeEv) (result : Except NngErr Unit)
  /-- `Socket::close`, in `nng_socket_close`. -/
  | closing
  /-- `Inner::drop`, before `nng_fini`. -/
  | dropping
  /-- `Inner::drop`, in `nng_socket_close`. -/
  | tearing
deriving DecidableEq

namespace Frame

/-- An activation of `trampoline`. -/
def isActivation : Frame → Bool
  | entered | locked _ | running _ _ => true
  | storing _ | writing | registering _ _ | closing | dropping | tearing => false

/-- A frame that holds the read lock. -/
def reads : Frame → Bool
  | locked _ | running _ _ => true
  | entered | storing _ | writing | registering _ _ | closing | dropping | tearing => false

/-- The frame that holds the write lock. -/
def writes : Frame → Bool
  | writing => true
  | entered | locked _ | running _ _ | storing _ | registering _ _ | closing | dropping | tearing =>
    false

/-- A frame that borrows a handle. -/
def borrows : Frame → Bool
  | storing _ | writing | registering _ _ | closing => true
  | entered | locked _ | running _ _ | dropping | tearing => false

/-- A frame of `Inner::drop`. -/
def isDrop : Frame → Bool
  | dropping | tearing => true
  | entered | locked _ | running _ _ | storing _ | writing | registering _ _ | closing => false

/-- A `pipe_notify` that waits for the write lock. -/
def awaitsWrite : Frame → Bool
  | storing _ => true
  | entered | locked _ | running _ _ | writing | registering _ _ | closing | dropping | tearing => false

/-- What was stored when the read lock was taken. -/
def seen : Frame → Option (Option Nat)
  | locked stored | running _ stored => some stored
  | entered | storing _ | writing | registering _ _ | closing | dropping | tearing => none

end Frame

/-- How far the `Inner` is. A drop remembers its thread, and whether it was started in a callback;
nothing reads the latter. -/
inductive PipeLife
  | alive
  | dropping (thread : Nat) (inside : Bool)
  | freed
deriving DecidableEq, Repr

/-- **What the source does not decide.** -/
structure Outside where
  /-- `nng_socket_close` returns although a callback of the socket is below it on the same stack. -/
  returnsInside : Bool
  /-- No other socket holds the library, so `nng_fini` closes this one. -/
  lastInit : Bool
  /-- The `RwLock` lets a reader past the writers that wait; otherwise they go first. -/
  readersPass : Bool
deriving DecidableEq

/-- A socket and the threads of the process. -/
structure PipeSocket where
  /-- The handles that are alive: the strong count of the `Arc`. -/
  handles : Nat
  /-- `Inner::pipe_notify`. -/
  closure : Option Nat
  /-- The events the library has the trampoline registered for. -/
  registered : List PipeEv
  /-- An `nng_socket_close` has returned. -/
  closed : Bool
  life : PipeLife
  threads : List (List Frame)
deriving DecidableEq

inductive PipeAction
  /-- A thread starts. -/
  | spawn
  /-- User code clones a handle. -/
  | clone (thread : Nat)
  /-- User code drops a handle. -/
  | dropHandle (thread : Nat)
  /-- User code calls `pipe_notify` with a closure. -/
  | pipeNotify (thread closure : Nat)
  /-- User code calls `Socket::close`. -/
  | close (thread : Nat)
  /-- The library runs the callback for an event. -/
  | fire (thread : Nat) (ev : PipeEv)
  /-- `nng_pipe_notify` returns. -/
  | register (thread : Nat) (rv : NngErr)
  /-- The closure returns. -/
  | finish (thread : Nat)
  /-- The code on top of a stack goes on. -/
  | advance (thread : Nat)
deriving DecidableEq, Repr

inductive PipeEvent
  /-- `pipe_notify` stored a closure. -/
  | stored (closure : Nat)
  /-- `trampoline` called a closure. -/
  | invoked (closure : Nat)
  /-- `pipe_notify` returned. -/
  | notifyReturned (result : Except NngErr Unit)
  | nng_fini
  /-- The `Inner` is gone, with its lock and its closure. -/
  | freed
deriving DecidableEq

/-- The events `pipe_notify` registers. -/
def notifyEvents : List PipeEv :=
  [.NNG_PIPE_EV_ADD_PRE, .NNG_PIPE_EV_ADD_POST, .NNG_PIPE_EV_REM_POST]

/-- `rv2res!`. -/
def rv2res (rv : NngErr) : Except NngErr Unit := if rv = NNG_OK then .ok () else .error rv

/-- `Result::and`. -/
def resultAnd (first second : Except NngErr Unit) : Except NngErr Unit :=
  match first with
  | .ok () => second
  | .error e => .error e

/-- Where user code runs. -/
def userTop : List Frame → Bool
  | [] | .running _ _ :: _ | .writing :: _ => true
  | _ => false

/-- Where the library may run a callback: on a thread of its own, or in a call made to it. -/
def libraryTop : List Frame → Bool
  | [] | .running _ _ :: _ | .writing :: _ | .registering _ _ :: _ | .closing :: _ | .dropping :: _
  | .tearing :: _ => true
  | _ => false

namespace PipeSocket

/-- All frames. -/
def frames (s : PipeSocket) : List Frame := s.threads.flatten

/-- The callbacks that `nng_socket_close` waits for have returned: those on the other threads, and, if
it does not return inside one, those on its own. -/
def idle (s : PipeSocket) (outside : Outside) (thread : Nat) : Bool :=
  (if outside.returnsInside then s.threads.eraseIdx thread else s.threads).flatten.all fun f =>
    !f.isActivation

/-- A reader has to wait. -/
def readBlocked (s : PipeSocket) (outside : Outside) : Bool :=
  s.frames.any Frame.writes || (!outside.readersPass && s.frames.any Frame.awaitsWrite)

/-- The socket with another stack on one thread. -/
def put (s : PipeSocket) (thread : Nat) (stack : List Frame) : PipeSocket :=
  { s with threads := s.threads.set thread stack }

/-- User code on a stack drops a handle; the last one is not borrowed and takes the `Inner` with
it. -/
def dropHandle (s : PipeSocket) (thread : Nat) (stack : List Frame) : Option PipeSocket :=
  match s.handles with
  | 0 => none
  | 1 =>
    if s.frames.any Frame.borrows then none
    else
      some (PipeSocket.put
        { s with handles := 0, life := .dropping thread (stack.any Frame.isActivation) } thread
        (.dropping :: stack))
  | handles + 2 => some { s with handles := handles + 1 }

/-- The code on top of a stack goes on. A closure and `nng_pipe_notify` have actions of their own. -/
def advance (s : PipeSocket) (outside : Outside) (thread : Nat) :
    List Frame → Option (PipeSocket × List PipeEvent)
  | .entered :: rest =>
    if s.readBlocked outside then none else some (s.put thread (.locked s.closure :: rest), [])
  | .locked stored :: rest =>
    match s.closure with
    | some closure => some (s.put thread (.running closure stored :: rest), [.invoked closure])
    | none => some (s.put thread rest, [])
  | .storing closure :: rest =>
    if s.frames.any Frame.writes || s.frames.any Frame.reads then none
    else some (PipeSocket.put { s with closure := some closure } thread (.writing :: rest),
      [.stored closure])
  | .writing :: rest => some (s.put thread (.registering notifyEvents (.ok ()) :: rest), [])
  | .registering [] result :: rest => some (s.put thread rest, [.notifyReturned result])
  | .closing :: rest =>
    if s.idle outside thread then some (PipeSocket.put { s with closed := true } thread rest, [])
    else none
  | .dropping :: rest =>
    if outside.lastInit && !s.idle outside thread then none
    else some (PipeSocket.put { s with closed := s.closed || outside.lastInit } thread
      (.tearing :: rest), [.nng_fini])
  | .tearing :: rest =>
    if s.idle outside thread then
      some (PipeSocket.put { s with closed := true, closure := none, life := .freed } thread rest,
        [.freed])
    else none
  | [] | .running _ _ :: _ | .registering (_ :: _) _ :: _ => none

/-- A step on a thread with this stack. -/
def stepOn (s : PipeSocket) (outside : Outside) (stack : List Frame) :
    PipeAction → Option (PipeSocket × List PipeEvent)
  | .spawn => none
  | .clone _ =>
    if userTop stack && decide (0 < s.handles) then some ({ s with handles := s.handles + 1 }, [])
    else none
  | .dropHandle thread =>
    if userTop stack then (s.dropHandle thread stack).map fun s' => (s', []) else none
  | .pipeNotify thread closure =>
    if userTop stack && decide (0 < s.handles) then some (s.put thread (.storing closure :: stack), [])
    else none
  | .close thread =>
    if userTop stack && decide (0 < s.handles) then some (s.put thread (.closing :: stack), [])
    else none
  | .fire thread ev =>
    if libraryTop stack && decide (ev ∈ s.registered) && !s.closed then
      some (s.put thread (.entered :: stack), [])
    else none
  | .register thread rv =>
    match stack with
    | .registering (ev :: events) result :: rest =>
      let registered := if rv = NNG_OK then ev :: s.registered else s.registered
      some (PipeSocket.put { s with registered } thread
        (.registering events (resultAnd result (rv2res rv)) :: rest), [])
    | _ => none
  | .finish thread =>
    match stack with
    | .running _ _ :: rest => some (s.put thread rest, [])
    | _ => none
  | .advance thread => s.advance outside thread stack

end PipeSocket

/-- The thread an action is taken on. -/
def PipeAction.thread : PipeAction → Nat
  | .spawn => 0
  | .clone thread | .dropHandle thread | .pipeNotify thread _ | .close thread | .fire thread _
  | .register thread _ | .finish thread | .advance thread => thread

/-- One step. -/
def pipeStep (outside : Outside) (s : PipeSocket) (a : PipeAction) :
    Option (PipeSocket × List PipeEvent) :=
  match a with
  | .spawn => some ({ s with threads := s.threads ++ [[]] }, [])
  | a =>
    match s.threads[a.thread]? with
    | some stack => s.stepOn outside stack a
    | none => none

/-! ### What a step can be -/

/-- **The steps on a thread with a given stack.** -/
inductive PipeHop (outside : Outside) (s : PipeSocket) (thread : Nat) (stack : List Frame) :
    PipeAction → PipeSocket → List PipeEvent → Prop
  | clone : 0 < s.handles →
      PipeHop outside s thread stack (.clone thread) { s with handles := s.handles + 1 } []
  | release (handles : Nat) : s.handles = handles + 2 →
      PipeHop outside s thread stack (.dropHandle thread) { s with handles := handles + 1 } []
  | releaseLast : s.handles = 1 → (∀ f ∈ s.frames, f.borrows = false) →
      PipeHop outside s thread stack (.dropHandle thread)
        (PipeSocket.put
          { s with handles := 0, life := .dropping thread (stack.any Frame.isActivation) } thread
          (.dropping :: stack)) []
  | pipeNotify (closure : Nat) : 0 < s.handles →
      PipeHop outside s thread stack (.pipeNotify thread closure)
        (s.put thread (.storing closure :: stack)) []
  | close : 0 < s.handles →
      PipeHop outside s thread stack (.close thread) (s.put thread (.closing :: stack)) []
  | fire (ev : PipeEv) : s.closed = false →
      PipeHop outside s thread stack (.fire thread ev) (s.put thread (.entered :: stack)) []
  | register (rv : NngErr) (registered events' : List PipeEv) (result result' : Except NngErr Unit)
      (ev : PipeEv) (rest : List Frame) : stack = .registering (ev :: events') result :: rest →
      PipeHop outside s thread stack (.register thread rv)
        (PipeSocket.put { s with registered } thread (.registering events' result' :: rest)) []
  | finish (closure : Nat) (stored : Option Nat) (rest : List Frame) :
      stack = .running closure stored :: rest →
      PipeHop outside s thread stack (.finish thread) (s.put thread rest) []
  | lock (rest : List Frame) : stack = .entered :: rest → (∀ f ∈ s.frames, f.writes = false) →
      (outside.readersPass = false → ∀ f ∈ s.frames, f.awaitsWrite = false) →
      PipeHop outside s thread stack (.advance thread) (s.put thread (.locked s.closure :: rest)) []
  | invoke (stored : Option Nat) (closure : Nat) (rest : List Frame) :
      stack = .locked stored :: rest → s.closure = some closure →
      PipeHop outside s thread stack (.advance thread) (s.put thread (.running closure stored :: rest))
        [.invoked closure]
  | skip (stored : Option Nat) (rest : List Frame) : stack = .locked stored :: rest →
      PipeHop outside s thread stack (.advance thread) (s.put thread rest) []
  | store (closure : Nat) (rest : List Frame) : stack = .storing closure :: rest →
      (∀ f ∈ s.frames, f.writes = false) → (∀ f ∈ s.frames, f.reads = false) →
      PipeHop outside s thread stack (.advance thread)
        (PipeSocket.put { s with closure := some closure } thread (.writing :: rest))
        [.stored closure]
  | unlock (rest : List Frame) : stack = .writing :: rest →
      PipeHop outside s thread stack (.advance thread)
        (s.put thread (.registering notifyEvents (.ok ()) :: rest)) []
  | notified (result : Except NngErr Unit) (rest : List Frame) :
      stack = .registering [] result :: rest →
      PipeHop outside s thread stack (.advance thread) (s.put thread rest) [.notifyReturned result]
  | closed (rest : List Frame) : stack = .closing :: rest → s.idle outside thread = true →
      PipeHop outside s thread stack (.advance thread)
        (PipeSocket.put { s with closed := true } thread rest) []
  | fini (rest : List Frame) : stack = .dropping :: rest →
      (outside.lastInit = true → s.idle outside thread = true) →
      PipeHop outside s thread stack (.advance thread)
        (PipeSocket.put { s with closed := s.closed || outside.lastInit } thread (.tearing :: rest))
        [.nng_fini]
  | freed (rest : List Frame) : stack = .tearing :: rest → s.idle outside thread = true →
      PipeHop outside s thread stack (.advance thread)
        (PipeSocket.put { s with closed := true, closure := none, life := .freed } thread rest)
        [.freed]

section Hops

variable {outside : Outside} {s s' : PipeSocket} {stack : List Frame} {out : List PipeEvent}

theorem none_of_any {p : Frame → Bool} {frames : List Frame} (none : ¬frames.any p = true) :
    ∀ f ∈ frames, p f = false := by
  simpa using none

theorem advance_hop {thread : Nat} (went : s.advance outside thread stack = some (s', out)) :
    PipeHop outside s thread stack (.advance thread) s' out := by
  cases stack with
  | nil => cases went
  | cons top rest =>
    cases top with
    | entered =>
      simp only [PipeSocket.advance] at went
      split_ifs at went with blocked
      cases went
      rw [PipeSocket.readBlocked, Bool.or_eq_true, Bool.and_eq_true, not_or, not_and] at blocked
      refine .lock rest rfl (none_of_any blocked.1) fun first => none_of_any (blocked.2 ?_)
      rw [first]
      rfl
    | locked stored =>
      simp only [PipeSocket.advance] at went
      cases held : s.closure <;> rw [held] at went <;> cases went
      · exact .skip stored rest rfl
      · exact .invoke stored _ rest rfl held
    | running => cases went
    | storing closure =>
      simp only [PipeSocket.advance, Bool.or_eq_true] at went
      split_ifs at went with busy
      cases went
      rw [not_or] at busy
      exact .store closure rest rfl (none_of_any busy.1) (none_of_any busy.2)
    | writing =>
      cases went
      exact .unlock rest rfl
    | registering events result =>
      cases events <;> cases went
      exact .notified result rest rfl
    | closing =>
      simp only [PipeSocket.advance] at went
      split_ifs at went with idle
      cases went
      exact .closed rest rfl idle
    | dropping =>
      simp only [PipeSocket.advance, Bool.and_eq_true, Bool.not_eq_true'] at went
      split_ifs at went with busy
      cases went
      exact .fini rest rfl fun last => Bool.of_not_eq_false fun active => busy ⟨last, active⟩
    | tearing =>
      simp only [PipeSocket.advance] at went
      split_ifs at went with idle
      cases went
      exact .freed rest rfl idle

theorem stepOn_pipeHop {a : PipeAction} (stepped : s.stepOn outside stack a = some (s', out)) :
    PipeHop outside s a.thread stack a s' out := by
  cases a with
  | spawn => cases stepped
  | clone thread =>
    simp only [PipeSocket.stepOn, Bool.and_eq_true, decide_eq_true_eq] at stepped
    split_ifs at stepped with able
    cases stepped
    exact .clone able.2
  | dropHandle thread =>
    simp only [PipeSocket.stepOn] at stepped
    split_ifs at stepped
    obtain ⟨after, dropped, same⟩ := Option.map_eq_some_iff.mp stepped
    cases same
    unfold PipeSocket.dropHandle at dropped
    split at dropped
    · cases dropped
    · split_ifs at dropped with borrowed
      cases dropped
      exact .releaseLast ‹_› (none_of_any borrowed)
    · cases dropped
      exact .release _ ‹_›
  | pipeNotify thread closure =>
    simp only [PipeSocket.stepOn, Bool.and_eq_true, decide_eq_true_eq] at stepped
    split_ifs at stepped with able
    cases stepped
    exact .pipeNotify closure able.2
  | close thread =>
    simp only [PipeSocket.stepOn, Bool.and_eq_true, decide_eq_true_eq] at stepped
    split_ifs at stepped with able
    cases stepped
    exact .close able.2
  | fire thread ev =>
    simp only [PipeSocket.stepOn, Bool.and_eq_true, decide_eq_true_eq, Bool.not_eq_true'] at stepped
    split_ifs at stepped with able
    cases stepped
    exact .fire ev able.2
  | register thread rv =>
    simp only [PipeSocket.stepOn] at stepped
    split at stepped <;> cases stepped
    exact .register rv _ _ _ _ _ _ rfl
  | finish thread =>
    simp only [PipeSocket.stepOn] at stepped
    split at stepped <;> cases stepped
    exact .finish _ _ _ rfl
  | advance thread => exact advance_hop stepped

/-- **Every step starts a thread, or is a hop on the stack of the thread it names.** -/
theorem step_hop {a : PipeAction} (stepped : pipeStep outside s a = some (s', out)) :
    (a = .spawn ∧ s' = { s with threads := s.threads ++ [[]] }) ∨
      ∃ stack, s.threads[a.thread]? = some stack ∧ PipeHop outside s a.thread stack a s' out := by
  unfold pipeStep at stepped
  split at stepped
  · cases stepped
    exact .inl ⟨rfl, rfl⟩
  · split at stepped
    · exact .inr ⟨_, ‹_›, stepOn_pipeHop stepped⟩
    · cases stepped

end Hops

/-- A new socket, with one handle. -/
def pipeMachine (outside : Outside) : EventMachine PipeSocket PipeAction PipeEvent where
  start := ⟨1, none, [], false, .alive, []⟩
  step := pipeStep outside

end NngRs.Nng
