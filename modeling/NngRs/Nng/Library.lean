/-
**Who keeps the library initialised: sockets and `Params` handles of the `nng` crate.**

The library counts its users: a successful `nng_init` adds one, `nng_fini` takes one away, and at zero
the library is torn down. `Socket::new` ignores what `nng_init` returned and opens; `RawSocket::new`
only opens; both end in the same `Inner`, whose `drop` calls `nng_fini` first and `nng_socket_close`
second. `Params::init` hands out a handle whose `drop` calls `nng_fini`.

What the library returns is part of the action. With parameters `nng_init` fails with `EBUSY` while
the library is initialised.

* `Balanced` — the counter is the number of live sockets and `Params` handles.
* `step_accounted` — a single step from a balanced state, exactly.
* `library_accounted_iff` — the runs that stay balanced and call the library on a socket only while it
  is initialised are exactly those in which no raw socket opens, `Socket::new` never half succeeds,
  and the last user to go is never a socket.
-/

import NngRs.Machine.Run
import NngRs.Sys.ErrorKind

namespace NngRs.Nng

open NngRs.Sys EventMachine

/-- The library's count of its users. -/
structure Library where
  counter : Int
deriving DecidableEq, Repr

namespace Library

def initialised (l : Library) : Bool := 0 < l.counter

/-- `nng_init`, when it returned `rv`. -/
def nngInit (l : Library) (rv : NngErr) : Library :=
  if rv = NNG_OK then { l with counter := l.counter + 1 } else l

/-- `nng_fini`. -/
def nngFini (l : Library) : Library := { l with counter := l.counter - 1 }

end Library

/-- The `Inner` of a socket: how many handles share it besides the first. -/
structure Inner where
  clones : Nat
deriving DecidableEq, Repr

structure World where
  library : Library
  /-- The live sockets, cooked or raw. -/
  sockets : List Inner
  /-- The live handles of `Params::init`. -/
  params : Nat
deriving DecidableEq, Repr

/-- A library call on a socket. -/
inductive SocketCall
  | nng_socket_close
  /-- Any other. -/
  | other
deriving DecidableEq, Repr

inductive LibraryEvent
  /-- A constructor returned. -/
  | returned (result : Except NngErr Unit)
  /-- A call on a socket, and whether the library was initialised then. -/
  | called (call : SocketCall) (initialised : Bool)
deriving DecidableEq

inductive LibraryAction
  /-- `Socket::new`, with what `nng_init` and the open call return. -/
  | socketNew (initRv openRv : NngErr)
  /-- `RawSocket::new`, with what the open call returns. -/
  | rawSocketNew (openRv : NngErr)
  /-- Clone a handle of a socket. -/
  | clone (socket : Nat)
  /-- Drop a handle of a socket. -/
  | drop (socket : Nat)
  /-- `Socket::close`. -/
  | close (socket : Nat)
  /-- Any other method that calls the library on a socket. -/
  | use (socket : Nat)
  /-- `Params::init`, with what `nng_init` returns. -/
  | paramsInit (rv : NngErr)
  /-- Drop a handle of `Params::init`. -/
  | paramsDrop
deriving DecidableEq, Repr

/-- The end of both constructors: `rv2res!`, or the match on the error. -/
def World.opened (w : World) (openRv : NngErr) : World × List LibraryEvent :=
  if openRv = NNG_OK then ({ w with sockets := ⟨0⟩ :: w.sockets }, [.returned (.ok ())])
  else (w, [.returned (.error openRv)])

/-- `Socket::new`. -/
def socketNew (w : World) (initRv openRv : NngErr) : World × List LibraryEvent :=
  World.opened { w with library := w.library.nngInit initRv } openRv

/-- `RawSocket::new`. -/
def rawSocketNew (w : World) (openRv : NngErr) : World × List LibraryEvent := w.opened openRv

/-- `Inner::close` and the other methods: a call on a socket. -/
def World.callOn (w : World) (call : SocketCall) : World × List LibraryEvent :=
  (w, [.called call w.library.initialised])

/-- `Inner::drop`: `nng_fini`, then `Inner::close`. -/
def innerDrop (w : World) (socket : Nat) : World × List LibraryEvent :=
  World.callOn { w with library := w.library.nngFini, sockets := w.sockets.eraseIdx socket }
    .nng_socket_close

/-- Dropping a handle: the last one drops the `Inner`. -/
def socketDrop (w : World) (socket : Nat) : Inner → World × List LibraryEvent
  | ⟨0⟩ => innerDrop w socket
  | ⟨clones + 1⟩ => ({ w with sockets := w.sockets.set socket ⟨clones⟩ }, [])

/-- `Params::init`. -/
def paramsInit (w : World) (rv : NngErr) : World × List LibraryEvent :=
  if rv = NNG_OK then
    ({ w with library := w.library.nngInit rv, params := w.params + 1 }, [.returned (.ok ())])
  else (w, [.returned (.error rv)])

def libraryStep (w : World) : LibraryAction → Option (World × List LibraryEvent)
  | .socketNew initRv openRv => some (socketNew w initRv openRv)
  | .rawSocketNew openRv => some (rawSocketNew w openRv)
  | .clone socket =>
    match w.sockets[socket]? with
    | some ⟨clones⟩ => some ({ w with sockets := w.sockets.set socket ⟨clones + 1⟩ }, [])
    | none => none
  | .drop socket =>
    match w.sockets[socket]? with
    | some inner => some (socketDrop w socket inner)
    | none => none
  | .close socket =>
    match w.sockets[socket]? with
    | some _ => some (w.callOn .nng_socket_close)
    | none => none
  | .use socket =>
    match w.sockets[socket]? with
    | some _ => some (w.callOn .other)
    | none => none
  | .paramsInit rv =>
    if w.library.initialised = true ∧ rv ≠ ErrorCode.EBUSY.value then none
    else some (paramsInit w rv)
  | .paramsDrop =>
    match w.params with
    | 0 => none
    | params + 1 => some ({ w with library := w.library.nngFini, params }, [])

/-- A process, from its start on. -/
def libraryMachine : EventMachine World LibraryAction LibraryEvent where
  start := ⟨⟨0⟩, [], 0⟩
  step := libraryStep

/-- **The counter is the number of live sockets and `Params` handles.** -/
def Balanced (w : World) : Prop := w.library.counter = w.sockets.length + w.params

/-- Every call on a socket is made while the library is initialised. -/
def CallsInitialised (out : List LibraryEvent) : Prop :=
  ∀ call initialised, .called call initialised ∈ out → initialised = true

/-- The last handle of a socket. -/
def World.lastHandle (w : World) (socket : Nat) : Prop := w.sockets[socket]? = some ⟨0⟩

/-- **What a step must not do**: open a raw socket, initialise without opening or open without
initialising, or drop a socket that is the library's last user. -/
def Accounted (t : Transition World LibraryAction LibraryEvent) : Prop :=
  match t.act with
  | .socketNew initRv openRv => initRv = NNG_OK ↔ openRv = NNG_OK
  | .rawSocketNew openRv => openRv ≠ NNG_OK
  | .drop socket => t.pre.lastHandle socket → t.pre.library.counter ≠ 1
  | _ => True

instance (t : Transition World LibraryAction LibraryEvent) : Decidable (Accounted t) := by
  unfold Accounted
  cases t.act <;> unfold World.lastHandle <;> infer_instance

section Steps

variable {w w' : World} {a : LibraryAction} {out : List LibraryEvent}

/-- A live socket of a balanced world keeps the library initialised. -/
theorem Balanced.counter_pos (balanced : Balanced w) {socket : Nat} {inner : Inner}
    (live : w.sockets[socket]? = some inner) : 0 < w.library.counter := by
  obtain ⟨bound, _⟩ := List.getElem?_eq_some_iff.mp live
  unfold Balanced at balanced
  omega

theorem outcome_eq {outcome : World × List LibraryEvent}
    (stepped : some outcome = some (w', out)) : w' = outcome.1 ∧ out = outcome.2 := by
  cases stepped
  exact ⟨rfl, rfl⟩

theorem calls_nil : CallsInitialised [] := nofun

theorem calls_returned (result : Except NngErr Unit) : CallsInitialised [.returned result] :=
  fun _ _ member => nomatch List.mem_singleton.mp member

theorem calls_called {call : SocketCall} {initialised : Bool} :
    CallsInitialised [.called call initialised] ↔ initialised = true := by
  constructor
  · exact fun all => all call initialised (List.mem_singleton.mpr rfl)
  · rintro same _ _ member
    cases List.mem_singleton.mp member
    exact same

theorem opened_balanced (w : World) (openRv : NngErr) :
    (Balanced (w.opened openRv).1 ↔
      w.library.counter = w.sockets.length + w.params + if openRv = NNG_OK then 1 else 0) ∧
      CallsInitialised (w.opened openRv).2 := by
  unfold World.opened Balanced
  by_cases ok : openRv = NNG_OK
  · rw [if_pos ok, if_pos ok]
    refine ⟨?_, calls_returned _⟩
    simp only [List.length_cons]
    omega
  · rw [if_neg ok, if_neg ok]
    refine ⟨?_, calls_returned _⟩
    rw [add_zero]

/-- `Socket::new` keeps the account when both calls succeed, or neither does. -/
theorem socketNew_accounted (balanced : Balanced w) (initRv openRv : NngErr) :
    (Balanced (socketNew w initRv openRv).1 ∧ CallsInitialised (socketNew w initRv openRv).2) ↔
      (initRv = NNG_OK ↔ openRv = NNG_OK) := by
  have count : w.library.counter = w.sockets.length + w.params := balanced
  obtain ⟨opens, calls⟩ := opened_balanced { w with library := w.library.nngInit initRv } openRv
  refine (and_iff_left calls).trans (opens.trans ?_)
  show (w.library.nngInit initRv).counter = (w.sockets.length : Int) + w.params + _ ↔
    (initRv = NNG_OK ↔ openRv = NNG_OK)
  unfold Library.nngInit
  by_cases init : initRv = NNG_OK
  · rw [if_pos init, count, iff_true_left init]
    by_cases ok : openRv = NNG_OK
    · exact iff_of_true (by rw [if_pos ok]) ok
    · refine iff_of_false ?_ ok
      rw [if_neg ok]
      show ¬(w.sockets.length : Int) + w.params + 1 = w.sockets.length + w.params + 0
      omega
  · rw [if_neg init, count, iff_false_left init]
    by_cases ok : openRv = NNG_OK
    · exact iff_of_false (by rw [if_pos ok]; omega) (not_not.mpr ok)
    · exact iff_of_true (by rw [if_neg ok, add_zero]) ok

/-- `RawSocket::new` keeps the account when it opens nothing. -/
theorem rawSocketNew_accounted (balanced : Balanced w) (openRv : NngErr) :
    (Balanced (rawSocketNew w openRv).1 ∧ CallsInitialised (rawSocketNew w openRv).2) ↔
      openRv ≠ NNG_OK := by
  have count : w.library.counter = w.sockets.length + w.params := balanced
  obtain ⟨opens, calls⟩ := opened_balanced w openRv
  refine (and_iff_left calls).trans (opens.trans ?_)
  rw [count]
  by_cases ok : openRv = NNG_OK
  · exact iff_of_false (by rw [if_pos ok]; omega) (not_not.mpr ok)
  · exact iff_of_true (by rw [if_neg ok, add_zero]) ok

/-- The drop of the last handle: `nng_fini` comes first, so the close is in time when another user is
left. -/
theorem innerDrop_accounted {socket : Nat} (balanced : Balanced w)
    (live : w.sockets[socket]? = some ⟨0⟩) :
    (Balanced (innerDrop w socket).1 ∧ CallsInitialised (innerDrop w socket).2) ↔
      w.library.counter ≠ 1 := by
  have count : w.library.counter = w.sockets.length + w.params := balanced
  have positive := balanced.counter_pos live
  obtain ⟨bound, _⟩ := List.getElem?_eq_some_iff.mp live
  have kept : Balanced (innerDrop w socket).1 := by
    show w.library.counter - 1 = ((w.sockets.eraseIdx socket).length : Int) + w.params
    rw [List.length_eraseIdx_of_lt bound]
    omega
  rw [and_iff_right kept]
  refine calls_called.trans ?_
  show decide (0 < w.library.counter - 1) = true ↔ _
  rw [decide_eq_true_iff]
  omega

/-- A socket gets another number of handles. -/
theorem Balanced.setSocket (balanced : Balanced w) (socket : Nat) (inner : Inner) :
    Balanced { w with sockets := w.sockets.set socket inner } := by
  show _ = ((w.sockets.set socket inner).length : Int) + _
  rw [List.length_set]
  exact balanced

theorem socketDrop_accounted {socket : Nat} {inner : Inner} (balanced : Balanced w)
    (live : w.sockets[socket]? = some inner) :
    (Balanced (socketDrop w socket inner).1 ∧ CallsInitialised (socketDrop w socket inner).2) ↔
      (w.lastHandle socket → w.library.counter ≠ 1) := by
  unfold World.lastHandle
  rw [live]
  obtain ⟨clones⟩ := inner
  cases clones with
  | zero =>
    refine (innerDrop_accounted balanced live).trans ?_
    simp only [true_imp_iff]
  | succ clones => exact iff_of_true ⟨balanced.setSocket socket ⟨clones⟩, calls_nil⟩ nofun

/-- `Params::init` keeps the account. -/
theorem paramsInit_accounted (balanced : Balanced w) (rv : NngErr) :
    Balanced (paramsInit w rv).1 ∧ CallsInitialised (paramsInit w rv).2 := by
  have count : w.library.counter = w.sockets.length + w.params := balanced
  unfold paramsInit
  by_cases ok : rv = NNG_OK
  · rw [if_pos ok]
    refine ⟨?_, calls_returned _⟩
    simp only [Balanced, Library.nngInit, ok, if_true, count, Nat.cast_add, Nat.cast_one]
    omega
  · rw [if_neg ok]
    exact ⟨balanced, calls_returned _⟩

/-- **A step from a balanced world stays balanced, with its calls made in time, exactly when it is
accounted for.** -/
theorem step_accounted (balanced : Balanced w) (stepped : libraryStep w a = some (w', out)) :
    (Balanced w' ∧ CallsInitialised out) ↔ Accounted ⟨w, a, w', out⟩ := by
  cases a with
  | socketNew initRv openRv =>
    obtain ⟨rfl, rfl⟩ := outcome_eq stepped
    exact socketNew_accounted balanced initRv openRv
  | rawSocketNew openRv =>
    obtain ⟨rfl, rfl⟩ := outcome_eq stepped
    exact rawSocketNew_accounted balanced openRv
  | clone socket =>
    simp only [libraryStep] at stepped
    cases live : w.sockets[socket]? with
    | none => simp only [live] at stepped; cases stepped
    | some inner =>
      simp only [live] at stepped
      cases stepped
      exact iff_of_true ⟨balanced.setSocket socket _, calls_nil⟩ trivial
  | drop socket =>
    simp only [libraryStep] at stepped
    cases live : w.sockets[socket]? with
    | none => simp only [live] at stepped; cases stepped
    | some inner =>
      simp only [live] at stepped
      obtain ⟨rfl, rfl⟩ := outcome_eq stepped
      exact socketDrop_accounted balanced live
  | close socket | use socket =>
    simp only [libraryStep] at stepped
    cases live : w.sockets[socket]? with
    | none => simp only [live] at stepped; cases stepped
    | some inner =>
      simp only [live] at stepped
      cases stepped
      refine iff_of_true ⟨balanced, calls_called.mpr ?_⟩ trivial
      exact decide_eq_true (balanced.counter_pos live)
  | paramsInit rv =>
    simp only [libraryStep] at stepped
    split_ifs at stepped
    obtain ⟨rfl, rfl⟩ := outcome_eq stepped
    exact iff_of_true (paramsInit_accounted balanced rv) trivial
  | paramsDrop =>
    have count : w.library.counter = w.sockets.length + w.params := balanced
    simp only [libraryStep] at stepped
    cases handles : w.params with
    | zero => simp only [handles] at stepped; cases stepped
    | succ params =>
      simp only [handles] at stepped
      cases stepped
      refine iff_of_true ⟨?_, calls_nil⟩ trivial
      simp only [Balanced, Library.nngFini]
      omega

end Steps

/-- **The library is accounted for in exactly these runs**: no raw socket opens, `Socket::new` never
initialises without opening or opens without initialising, and no socket is dropped for good while
the counter is one. In them, and in no others, every state has the counter at the number of live
sockets and `Params` handles and every call on a socket is made while the library is initialised. -/
theorem library_accounted_iff {trace : List (Transition World LibraryAction LibraryEvent)}
    {w : World} (run : libraryMachine.Run trace w) :
    (∀ t ∈ trace, Balanced t.post ∧ CallsInitialised t.out) ↔ ∀ t ∈ trace, Accounted t :=
  run.forall_iff (I := fun _ => True) trivial (show Balanced libraryMachine.start from rfl)
    (fun _ _ _ _ _ _ => trivial) fun _ _ _ _ _ balanced stepped => step_accounted balanced stepped

/-- A `Params` handle that outlives the sockets keeps them accounted for. -/
theorem library_accounted_params :
    ∃ (trace : List (Transition World LibraryAction LibraryEvent)) (w : World),
      libraryMachine.Run trace w ∧ w = ⟨⟨0⟩, [], 0⟩ ∧
        ∀ t ∈ trace, Balanced t.post ∧ CallsInitialised t.out := by
  have run := run_of_replay (M := libraryMachine)
    [.paramsInit NNG_OK, .socketNew NNG_OK NNG_OK, .paramsInit ErrorCode.EBUSY.value, .clone 0,
      .use 0, .drop 0, .close 0, .drop 0, .paramsDrop]
    rfl
  exact ⟨_, _, run, rfl, (library_accounted_iff run).mpr (by decide)⟩

/-- **Not every run is balanced**: a raw socket comes and goes next to a cooked one, and the counter
is zero while the cooked socket lives. -/
theorem library_not_accounted :
    ¬∀ (trace : List (Transition World LibraryAction LibraryEvent)) (w : World),
      libraryMachine.Run trace w → ∀ t ∈ trace, Balanced t.post ∧ CallsInitialised t.out := by
  intro always
  have run := run_of_replay (M := libraryMachine)
    [.socketNew NNG_OK NNG_OK, .rawSocketNew NNG_OK, .drop 0] rfl
  have last := (always _ _ run ⟨⟨⟨1⟩, [⟨0⟩, ⟨0⟩], 0⟩, .drop 0, ⟨⟨0⟩, [⟨0⟩], 0⟩,
    [.called .nng_socket_close false]⟩ (by decide)).1
  exact absurd (show (0 : Int) = 1 from last) (by decide)

end NngRs.Nng
