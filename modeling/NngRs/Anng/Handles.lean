/-
**The values of the `anng` crate and the library's objects behind them.**

A `Socket` owns a socket of the library. A `ContextfulSocket`, a `Dialer`, a `Listener` and the future of
a dial borrow the `Socket` they are made from, so a safe program drops or forgets a `Socket` only when
none of them is left. Dropping a `Socket` or a `ContextfulSocket` closes its object; dropping a `Dialer`
or `Listener` does nothing; a dial closes its dialer when it fails. The worker of a dial goes on when the
future is dropped, and borrows nothing. Nor does a message borrow the pipe that it came through, which
`remote_addr` asks the library about; connections come and go as the library likes.

What the library returns is part of the action, and every call to it is an event that tells whether its
object was open. A pipe that is gone is answered with `NNG_ENOENT`.

* `Scene` — the library's objects in the middle of a step, with what the step has shown so far.
* `Lending` — a value that is left has an open object; `Sound` — so no call so far found a closed one.
* `Sound.attach`, `lentStep_sound` — kept by what the functions are made of, and so by every step.
* `library_calls_find_open` — over every run: no object is closed twice, and no call finds its object
  closed, except the `nng_dialer_start` of a dial that was dropped before its `Socket`, and the two calls
  of a `remote_addr` that then returns `None`.
-/

import NngRs.Anng.Attach
import NngRs.Anng.Clone
import NngRs.Machine.Forest
import NngRs.Machine.Run

namespace NngRs.Anng

open Net NngRs.Sys EventMachine

/-! ## The model -/

/-- What a safe program has of an object. -/
inductive Value (E : Type)
  | socket
  /-- A `ContextfulSocket`. -/
  | context
  | listener
  | dialer
  /-- The future of a dial, with what its worker ended with, if it has. -/
  | dialing (worker : Option (Outcome E Unit))
  /-- The worker of a dial whose future is gone. -/
  | detached (worker : Option (Outcome E Unit))
  /-- Messages that came through this pipe. -/
  | pipe
  /-- Nothing any more. -/
  | gone
deriving DecidableEq

/-- A value that owns the object, or borrows the `Socket` it belongs to. -/
def Value.held {E : Type} : Value E → Bool
  | .socket | .context | .listener | .dialer | .dialing _ => true
  | .detached _ | .pipe | .gone => false

/-- The calls to the library. -/
inductive ObjectCall
  | nng_socket_close
  | nng_ctx_open
  | nng_ctx_close
  | nng_listener_create
  | nng_listener_set_bool
  | nng_listener_start
  | nng_listener_get_url
  | nng_listener_close
  | nng_dialer_create
  | nng_dialer_start
  | nng_dialer_close
  | nng_pipe_peer_addr
  | nng_pipe_get_scheme
  /-- A send, a receive or an option, on a socket or context. -/
  | other
deriving DecidableEq, Repr

def ObjectCall.closes : ObjectCall → Bool
  | .nng_socket_close | .nng_ctx_close | .nng_listener_close | .nng_dialer_close => true
  | .nng_ctx_open | .nng_listener_create | .nng_listener_set_bool | .nng_listener_start
  | .nng_listener_get_url | .nng_dialer_create | .nng_dialer_start | .nng_pipe_peer_addr
  | .nng_pipe_get_scheme | .other => false

inductive LentEvent (E : Type)
  /-- A call on an object, and whether it was open. -/
  | called (call : ObjectCall) (object : Nat) (opened : Bool)
  /-- `create_socket` or `context` ends. -/
  | made (result : Except InitPanic Nat)
  /-- Adding an endpoint ends. -/
  | ended (result : Outcome E Nat)
  /-- `remote_addr` ends. -/
  | remote (result : Except RemotePanic (Option Url))
deriving DecidableEq

inductive LentAction (E : Type)
  /-- `create_socket`, with what the open call and `nng_aio_alloc` return. -/
  | createSocket (openErrno : Int) (allocErrno : NngErr)
  /-- `Socket::context`, with what `nng_ctx_open` and `nng_aio_alloc` return. -/
  | context (socket : Nat) (openErrno : Int) (allocErrno : NngErr)
  /-- `listen`, `listen_with_opts` and `listen_tcp`, with the options that the callback sets. -/
  | listen (socket : Nat) (createErrno : Int32) (options : Nat) (preStart : Except E Unit)
    (closeErrno startErrno : Int32)
  /-- `dial` and `dial_with_opts`, up to the worker. -/
  | dial (socket : Nat) (allocErrno : NngErr) (createErrno : Int32) (preStart : Except E Unit)
    (closeErrno : Int32)
  /-- The worker of a dial calls `nng_dialer_start`. -/
  | dialStart (dialer : Nat) (errno : Int32)
  /-- Poll a dial whose worker has ended. -/
  | resume (dialer : Nat)
  /-- Any other method that calls the library on a `Socket` or `ContextfulSocket`. -/
  | use (object : Nat)
  /-- `Listener::local_addr`. -/
  | localAddr (listener : Nat)
  /-- The library makes a connection of a socket, through one of its endpoints. -/
  | pipeAdd (socket : Nat)
  /-- The library loses a connection. -/
  | pipeLost (pipe : Nat)
  /-- `Message::remote_addr` of a message that came through this pipe, with what the library answers to
  the two calls, and whether the pipe goes between them. -/
  | remoteAddr (pipe : Nat) (peer : NngErr × NngSockaddr) (scheme : NngErr × List UInt8) (lost : Bool)
  /-- Drop a value. -/
  | drop (object : Nat)
  /-- `mem::forget` a value. -/
  | forget (object : Nat)

/-- The library's objects in the middle of a step, and what the step has shown. -/
structure Scene (E : Type) where
  objects : Forest (Value E)
  out : List (LentEvent E)

section Steps

variable {E : Type}

namespace Scene

/-- A call to the library on an object. -/
def call (w : Scene E) (call : ObjectCall) (k : Nat) : Scene E :=
  { w with out := w.out ++ [.called call k (w.objects.isOpen k)] }

/-- A call that closes an object, and what is left of the value. -/
def close (w : Scene E) (call : ObjectCall) (k : Nat) (value : Value E) : Scene E where
  objects := w.objects.change k (fun _ => value) true
  out := w.out ++ [.called call k (w.objects.isOpen k)]

/-- A value takes the place of another. -/
def put (w : Scene E) (k : Nat) (value : Value E) : Scene E :=
  { w with objects := w.objects.put k value }

/-- A new object, of which there is no value yet, and its number. -/
def make (w : Scene E) (owner : Option Nat) : Scene E × Nat :=
  ({ w with objects := w.objects.add .gone owner }, w.objects.nodes.length)

def tell (w : Scene E) (event : LentEvent E) : Scene E := { w with out := w.out ++ [event] }

/-- `create_socket`, after `init_nng(None)`. A panic of `Aio::new` leaves the socket open. -/
def createSocket (w : Scene E) (openErrno : Int) (allocErrno : NngErr) : Scene E :=
  match openResult openErrno with
  | .error p => w.tell (.made (.error p))
  | .ok () =>
    let (w, k) := w.make none
    match aioNew allocErrno with
    | .error p => w.tell (.made (.error p))
    | .ok () => (w.put k .socket).tell (.made (.ok k))

/-- `Socket::context`, whose match on the errno is that of `create_socket`. A panic of `Aio::new` drops
the `Context`. -/
def context (w : Scene E) (socket : Nat) (openErrno : Int) (allocErrno : NngErr) : Scene E :=
  let w := w.call .nng_ctx_open socket
  match openResult openErrno with
  | .error p => w.tell (.made (.error p))
  | .ok () =>
    let (w, k) := w.make (some socket)
    match aioNew allocErrno with
    | .error p => (w.close .nng_ctx_close k .gone).tell (.made (.error p))
    | .ok () => (w.put k .context).tell (.made (.ok k))

/-- The create and close calls of the two near copies. -/
def createCall : Role → ObjectCall
  | .Listener => .nng_listener_create
  | .Dialer => .nng_dialer_create

def closeCall : Role → ObjectCall
  | .Listener => .nng_listener_close
  | .Dialer => .nng_dialer_close

/-- Creating an endpoint and handing it to the callback, which sets some options; the endpoint, or how
the call ends. -/
def attach (w : Scene E) (role : Role) (socket : Nat) (createErrno : Int32) (options : Nat)
    (preStart : Except E Unit) (closeErrno : Int32) : Scene E × Except (Outcome E Nat) Nat :=
  let w := w.call (createCall role) socket
  match createResult role createErrno with
  | .error p => (w, .error (.error p))
  | .ok (.error e) => (w, .error (.ok (.error e)))
  | .ok (.ok ()) =>
    let (w, k) := w.make (some socket)
    let w := (List.range options).foldl (fun w _ => w.call .nng_listener_set_bool k) w
    match preStart with
    | .error e =>
      (w.close (closeCall role) k .gone, .error ((closeResult role closeErrno e).map (·.map fun _ => k)))
    | .ok () => (w, .ok k)

/-- `add_listener_to_socket`, and the handle made of its result. -/
def listen (w : Scene E) (socket : Nat) (createErrno : Int32) (options : Nat)
    (preStart : Except E Unit) (closeErrno startErrno : Int32) : Scene E :=
  match w.attach .Listener socket createErrno options preStart closeErrno with
  | (w, .error result) => w.tell (.ended result)
  | (w, .ok k) =>
    let w := w.call .nng_listener_start k
    match startListener startErrno with
    | .error p => w.tell (.ended (.error p))
    | .ok (.error e) => w.tell (.ended (.ok (.error e)))
    | .ok (.ok ()) => (w.put k .listener).tell (.ended (.ok (.ok k)))

/-- `add_dialer_to_socket`, up to the worker. -/
def dial (w : Scene E) (socket : Nat) (allocErrno : NngErr) (createErrno : Int32)
    (preStart : Except E Unit) (closeErrno : Int32) : Scene E :=
  match aioNew allocErrno with
  | .error p => w.tell (.ended (.error (.aioNew p)))
  | .ok () =>
    match w.attach .Dialer socket createErrno 0 preStart closeErrno with
    | (w, .error result) => w.tell (.ended result)
    | (w, .ok k) => w.put k (.dialing none)

/-- `add_dialer_to_socket`, from the end of the worker on. -/
def resume (w : Scene E) (k : Nat) : Outcome E Unit → Scene E
  | .ok (.ok ()) => (w.put k .dialer).tell (.ended (.ok (.ok k)))
  | .ok (.error e) => (w.close .nng_dialer_close k .gone).tell (.ended (.ok (.error e)))
  | .error p => (w.close .nng_dialer_close k .gone).tell (.ended (.ok (.error (.join p))))

/-- A connection is lost. -/
def lose (w : Scene E) (k : Nat) : Scene E :=
  { w with objects := w.objects.change k (fun _ => .pipe) true }

/-- `Message::remote_addr`, from the pipe on. -/
def remoteAddr (endian : Endian) (w : Scene E) (k : Nat) (peer : NngErr × NngSockaddr)
    (scheme : NngErr × List UInt8) (lost : Bool) : Scene E :=
  let result := PipedMessage.remoteAddrOf endian ⟨fun _ => peer, fun _ => scheme⟩ 0
  let w := w.call .nng_pipe_peer_addr k
  if peer.1 = NNG_OK then
    let w := if lost then w.lose k else w
    (w.call .nng_pipe_get_scheme k).tell (.remote result)
  else w.tell (.remote result)

/-- A value goes without a call. -/
def leave (w : Scene E) (k : Nat) : Value E → Scene E
  | .dialing worker => w.put k (.detached worker)
  | .pipe => w.put k .pipe
  | .socket | .context | .listener | .dialer | .detached _ | .gone => w.put k .gone

/-- A value is dropped. -/
def drop (w : Scene E) (k : Nat) : Value E → Scene E
  | .socket => w.close .nng_socket_close k .gone
  | .context => w.close .nng_ctx_close k .gone
  | .listener => w.leave k .listener
  | .dialer => w.leave k .dialer
  | .dialing worker => w.leave k (.dialing worker)
  | .detached worker => w.leave k (.detached worker)
  | .pipe => w.leave k .pipe
  | .gone => w.leave k .gone

end Scene

/-- A value is left that borrows this `Socket`. -/
def borrowed (f : Forest (Value E)) (socket : Nat) : Bool :=
  f.nodes.any fun n => n.owner == some socket && n.value.held

/-- What a safe program, a worker or the executor does next. -/
def lentScene (endian : Endian) (f : Forest (Value E)) (action : LentAction E) : Option (Scene E) :=
  let value (k : Nat) : Value E := (f.nodes[k]?.map Forest.Node.value).getD .gone
  match action with
  | .createSocket openErrno allocErrno => some (Scene.createSocket ⟨f, []⟩ openErrno allocErrno)
  | .context socket openErrno allocErrno =>
    match value socket with
    | .socket => some (Scene.context ⟨f, []⟩ socket openErrno allocErrno)
    | _ => none
  | .listen socket createErrno options preStart closeErrno startErrno =>
    match value socket with
    | .socket => some (Scene.listen ⟨f, []⟩ socket createErrno options preStart closeErrno startErrno)
    | _ => none
  | .dial socket allocErrno createErrno preStart closeErrno =>
    match value socket with
    | .socket => some (Scene.dial ⟨f, []⟩ socket allocErrno createErrno preStart closeErrno)
    | _ => none
  | .dialStart k errno =>
    match value k with
    | .dialing none =>
      some ((Scene.call ⟨f, []⟩ .nng_dialer_start k).put k (.dialing (some (dialWorker errno))))
    | .detached none =>
      some ((Scene.call ⟨f, []⟩ .nng_dialer_start k).put k (.detached (some (dialWorker errno))))
    | _ => none
  | .resume k =>
    match value k with
    | .dialing (some outcome) => some (Scene.resume ⟨f, []⟩ k outcome)
    | _ => none
  | .use k =>
    match value k with
    | .socket | .context => some (Scene.call ⟨f, []⟩ .other k)
    | _ => none
  | .localAddr k =>
    match value k with
    | .listener => some (Scene.call ⟨f, []⟩ .nng_listener_get_url k)
    | _ => none
  | .pipeAdd k =>
    match f.nodes[k]? with
    | some n =>
      -- what belongs to nothing is a socket
      if n.owner = none ∧ f.isOpen k = true then some ⟨f.add .pipe (some k), []⟩ else none
    | none => none
  | .pipeLost k =>
    match value k with
    | .pipe => some (Scene.lose ⟨f, []⟩ k)
    | _ => none
  | .remoteAddr k peer scheme lost =>
    match value k with
    | .pipe =>
      if (peer.1 = ErrorCode.ENOENT.value ↔ f.isOpen k = false) ∧
          (scheme.1 = ErrorCode.ENOENT.value ↔ (f.isOpen k && !lost) = false) then
        some (Scene.remoteAddr endian ⟨f, []⟩ k peer scheme lost)
      else none
    | _ => none
  | .drop k =>
    if (value k).held = true ∧ borrowed f k = false then some (Scene.drop ⟨f, []⟩ k (value k)) else none
  | .forget k =>
    if (value k).held = true ∧ borrowed f k = false then some (Scene.leave ⟨f, []⟩ k (value k)) else none

/-- A process, from its start on. -/
def lentMachine (E : Type) (endian : Endian) :
    EventMachine (Forest (Value E)) (LentAction E) (LentEvent E) where
  start := .empty
  step f action := (lentScene endian f action).map fun w => (w.objects, w.out)

/-- The objects that were closed, in order. -/
def closed (history : List (LentEvent E)) : List Nat :=
  history.filterMap fun
    | .called call k _ => if call.closes then some k else none
    | .made _ | .ended _ | .remote _ => none

/-! ## The invariant -/

/-- **A value that is left has an open object**: it is not shut, and what it belongs to is a `Socket` that
is left as well. A worker that has not started its dialer has one that is not shut. -/
structure Lending (f : Forest (Value E)) : Prop where
  held : ∀ (k : Nat) (n : Forest.Node (Value E)), f.nodes[k]? = some n → n.value.held = true →
    n.shut = false ∧ ∀ j, n.owner = some j → ∃ o, f.nodes[j]? = some o ∧ o.value = .socket
  sockets : ∀ (k : Nat) (n : Forest.Node (Value E)), f.nodes[k]? = some n → n.value = .socket →
    n.owner = none
  dials : ∀ (k : Nat) (n : Forest.Node (Value E)), f.nodes[k]? = some n →
    n.value = .dialing none ∨ n.value = .detached none → n.shut = false ∧ ∃ s, n.owner = some s

/-- **No call of a step so far found a closed object, and none was closed twice.** -/
structure Scene.Sound (history : List (LentEvent E)) (w : Scene E) : Prop where
  lending : Lending w.objects
  opened : ∀ call k, .called call k false ∉ w.out
  once : (closed (history ++ w.out)).Nodup
  shut : ∀ k ∈ closed (history ++ w.out), ∃ n, w.objects.nodes[k]? = some n ∧ n.shut = true

/-- An object without a value, which nothing was done with yet. -/
structure Scene.Fresh (w : Scene E) (k : Nat) (owner : Option Nat) : Prop where
  node : ∃ n, w.objects.nodes[k]? = some n ∧ n.value = .gone ∧ n.shut = false ∧ n.owner = owner
  owned : ∀ j, owner = some j → ∃ o, w.objects.nodes[j]? = some o ∧ o.value = .socket

section Sound

variable {f : Forest (Value E)} {w : Scene E} {history : List (LentEvent E)} {k : Nat}
  {n : Forest.Node (Value E)} {value : Value E} {c : ObjectCall} {owner : Option Nat}

/-- **A value that is left has an open object.** -/
theorem Lending.isOpen (lending : Lending f) (found : f.nodes[k]? = some n)
    (held : n.value.held = true) : f.isOpen k = true := by
  obtain ⟨unshut, owners⟩ := lending.held k n found held
  refine (Forest.isOpen_iff found).mpr ⟨unshut, fun j owns => ?_⟩
  obtain ⟨o, there, socket⟩ := owners j owns
  have free := (lending.held j o there (by rw [socket]; rfl)).1
  refine (Forest.isOpen_iff there).mpr ⟨free, fun i owns' => ?_⟩
  rw [lending.sockets j o there socket] at owns'
  cases owns'

/-- Nothing borrows what is not a `Socket`. -/
theorem Lending.unborrowed (lending : Lending f) (found : f.nodes[k]? = some n)
    (free : n.value = .socket → borrowed f k = false) {j : Nat} {m : Forest.Node (Value E)}
    (there : f.nodes[j]? = some m) (held : m.value.held = true) : m.owner ≠ some k := by
  intro owns
  obtain ⟨o, here, socket⟩ := (lending.held j m there held).2 k owns
  cases found.symm.trans here
  have borrows : borrowed f k = true := by
    refine List.any_eq_true.mpr ⟨m, List.mem_of_getElem? there, ?_⟩
    rw [owns, held, beq_self_eq_true]
    rfl
  rw [free socket] at borrows
  cases borrows

/-- An object gets another value, and is perhaps shut, while nothing borrows it. -/
theorem Lending.change (lending : Lending f) (found : f.nodes[k]? = some n) {shut : Bool}
    (free : n.value = .socket → borrowed f k = false)
    (held : value.held = true → (n.shut || shut) = false ∧
      ∀ j, n.owner = some j → ∃ o, f.nodes[j]? = some o ∧ o.value = .socket)
    (root : value = .socket → n.owner = none)
    (dials : value = .dialing none ∨ value = .detached none →
      (n.shut || shut) = false ∧ ∃ s, n.owner = some s) :
    Lending (f.change k (fun _ => value) shut) := by
  -- what a value that is left belongs to is another object
  have owners {j : Nat} (other : j ≠ k)
      (there : ∃ o, f.nodes[j]? = some o ∧ o.value = .socket) :
      ∃ o, (f.change k (fun _ => value) shut).nodes[j]? = some o ∧ o.value = .socket := by
    obtain ⟨o, here, socket⟩ := there
    refine ⟨o, ?_, socket⟩
    rw [Forest.getElem?_change, here, Option.map_some, if_neg (Ne.symm other)]
  refine ⟨fun j m there left => ?_, fun j m there socket => ?_, fun j m there dial => ?_⟩
  · rcases Forest.change_cases there with ⟨rfl, o, here, rfl⟩ | ⟨_, before⟩
    · cases found.symm.trans here
      refine ⟨(held left).1, fun i owns => owners ?_ ((held left).2 i owns)⟩
      exact Nat.ne_of_lt (Forest.owner_found found owns).1
    · obtain ⟨unshut, above⟩ := lending.held j m before left
      refine ⟨unshut, fun i owns => owners ?_ (above i owns)⟩
      rintro rfl
      exact lending.unborrowed found free before left owns
  · rcases Forest.change_cases there with ⟨rfl, o, here, rfl⟩ | ⟨_, before⟩
    · cases found.symm.trans here
      exact root socket
    · exact lending.sockets j m before socket
  · rcases Forest.change_cases there with ⟨rfl, o, here, rfl⟩ | ⟨_, before⟩
    · cases found.symm.trans here
      exact dials dial
    · exact lending.dials j m before dial

theorem closed_append (first second : List (LentEvent E)) :
    closed (first ++ second) = closed first ++ closed second := List.filterMap_append

namespace Scene

/-- A call on an open object. -/
theorem Sound.call (sound : Sound history w) (opened : w.objects.isOpen k = true)
    (keeps : c.closes = false) : Sound history (w.call c k) := by
  have same : closed (history ++ (w.call c k).out) = closed (history ++ w.out) := by
    show closed (history ++ (w.out ++ [_])) = _
    rw [← List.append_assoc, closed_append]
    simp [closed, keeps]
  refine ⟨sound.lending, fun call' k' member => ?_, same ▸ sound.once, same ▸ sound.shut⟩
  rcases List.mem_append.mp member with before | last
  · exact sound.opened call' k' before
  · rw [opened] at last
    cases List.mem_singleton.mp last

theorem Sound.tell (sound : Sound history w) {event : LentEvent E}
    (silent : ∀ call k opened, event ≠ .called call k opened) : Sound history (w.tell event) := by
  have same : closed (history ++ (w.tell event).out) = closed (history ++ w.out) := by
    show closed (history ++ (w.out ++ [_])) = _
    rw [← List.append_assoc, closed_append]
    cases event with
    | called call k opened => exact absurd rfl (silent call k opened)
    | made | ended | remote => exact List.append_nil _
  refine ⟨sound.lending, fun call' k' member => ?_, same ▸ sound.once, same ▸ sound.shut⟩
  rcases List.mem_append.mp member with before | last
  · exact sound.opened call' k' before
  · exact silent _ _ _ (List.mem_singleton.mp last).symm

theorem Sound.put (sound : Sound history w) (found : w.objects.nodes[k]? = some n)
    (free : n.value = .socket → borrowed w.objects k = false)
    (held : value.held = true → n.shut = false ∧
      ∀ j, n.owner = some j → ∃ o, w.objects.nodes[j]? = some o ∧ o.value = .socket)
    (root : value = .socket → n.owner = none)
    (dials : value = .dialing none ∨ value = .detached none → n.shut = false ∧ ∃ s, n.owner = some s) :
    Sound history (w.put k value) := by
  refine ⟨?_, sound.opened, sound.once, fun j member => ?_⟩
  · refine sound.lending.change found free ?_ root ?_
    · rw [Bool.or_false]
      exact held
    · rw [Bool.or_false]
      exact dials
  · obtain ⟨m, there, shut⟩ := sound.shut j member
    refine ⟨_, (Forest.getElem?_change _ _).trans (congrArg _ there), ?_⟩
    split
    · exact (Bool.or_false _).trans shut
    · exact shut

/-- The first close of an open object, with nothing left that borrows it. -/
theorem Sound.close (sound : Sound history w) (found : w.objects.nodes[k]? = some n)
    (opened : w.objects.isOpen k = true) (free : n.value = .socket → borrowed w.objects k = false)
    (closes : c.closes = true) : Sound history (w.close c k .gone) := by
  have unshut := ((Forest.isOpen_iff found).mp opened).1
  have one : closed (history ++ (w.close c k .gone).out) = closed (history ++ w.out) ++ [k] := by
    show closed (history ++ (w.out ++ [_])) = _
    rw [← List.append_assoc, closed_append]
    simp [closed, closes]
  have after : (w.close c k .gone).objects.nodes[k]? = some ⟨.gone, n.above, true⟩ := by
    show (w.objects.change k _ true).nodes[k]? = _
    rw [Forest.getElem?_change, found, Option.map_some, if_pos rfl, Bool.or_true]
  refine ⟨?_, fun call' k' member => ?_, ?_, fun j member => ?_⟩
  · exact sound.lending.change found free (fun left => by cases left) (fun other => by cases other)
      fun other => by rcases other with other | other <;> cases other
  · rcases List.mem_append.mp member with before | last
    · exact sound.opened call' k' before
    · rw [opened] at last
      cases List.mem_singleton.mp last
  · rw [one]
    refine sound.once.append (List.nodup_singleton k) fun j before last => ?_
    cases List.mem_singleton.mp last
    obtain ⟨m, there, shut⟩ := sound.shut k before
    cases found.symm.trans there
    rw [unshut] at shut
    cases shut
  · by_cases same : j = k
    · subst same
      exact ⟨_, after, rfl⟩
    · rw [one] at member
      rcases List.mem_append.mp member with before | last
      · obtain ⟨m, there, shut⟩ := sound.shut j before
        refine ⟨m, ?_, shut⟩
        show (w.objects.change k _ true).nodes[j]? = _
        rw [Forest.getElem?_change, there, Option.map_some, if_neg (Ne.symm same)]
      · exact absurd (List.mem_singleton.mp last) same

/-- A new object that is not a value of the program's. -/
theorem Sound.add (sound : Sound history w) (left : value.held = false)
    (dial : value ≠ .detached none) (owner : Option Nat) :
    Sound history { w with objects := w.objects.add value owner } := by
  have only {j : Nat} {m : Forest.Node (Value E)}
      (there : (w.objects.add value owner).nodes[j]? = some m) :
      m.value = value ∨ w.objects.nodes[j]? = some m :=
    (getElem?_concat_cases there).imp (fun new => by rw [new.2]) (·.2)
  refine ⟨⟨fun j m there held => ?_, fun j m there socket => ?_, fun j m there dials => ?_⟩,
    sound.opened, sound.once, fun j member => ?_⟩
  · rcases only there with new | before
    · rw [new, left] at held
      cases held
    · obtain ⟨unshut, owners⟩ := sound.lending.held j m before held
      exact ⟨unshut, fun i owns => (owners i owns).imp fun o here => ⟨Forest.getElem?_add here.1, here.2⟩⟩
  · rcases only there with new | before
    · rw [← new, socket] at left
      cases left
    · exact sound.lending.sockets j m before socket
  · rcases only there with new | before
    · rw [new] at dials
      rcases dials with dials | dials
      · rw [dials] at left
        cases left
      · exact absurd dials dial
    · exact sound.lending.dials j m before dials
  · obtain ⟨m, there, shut⟩ := sound.shut j member
    exact ⟨m, Forest.getElem?_add there, shut⟩

/-- A new object. -/
theorem Sound.make (sound : Sound history w)
    (owned : ∀ j, owner = some j → ∃ o, w.objects.nodes[j]? = some o ∧ o.value = .socket) :
    Sound history (w.make owner).1 ∧ (w.make owner).1.Fresh (w.make owner).2 owner := by
  refine ⟨sound.add rfl (fun other => by cases other) owner, ⟨_, Forest.getElem?_new, rfl, rfl, ?_⟩,
    fun j owns => (owned j owns).imp fun o there => ⟨Forest.getElem?_add there.1, there.2⟩⟩
  exact Forest.owner_new fun j owns => (owned j owns).imp fun o there => there.1

/-- A lost connection leaves every value as it is. -/
theorem lending_lose (lending : Lending f) (found : f.nodes[k]? = some n) (pipe : n.value = .pipe) :
    Lending (f.change k (fun _ => .pipe) true) := by
  refine lending.change found (fun socket => ?_) (fun left => by cases left)
    (fun socket => by cases socket) fun dial => by rcases dial with other | other <;> cases other
  rw [pipe] at socket
  cases socket

/-- What is shut stays shut. -/
theorem shut_change {value : Value E → Value E} {shut : Bool} {j : Nat} {m : Forest.Node (Value E)}
    (found : f.nodes[j]? = some m) (closed : m.shut = true) :
    ∃ m', (f.change k value shut).nodes[j]? = some m' ∧ m'.shut = true := by
  refine ⟨_, (Forest.getElem?_change _ _).trans (congrArg _ found), ?_⟩
  split
  · exact Bool.or_eq_true_iff.mpr (.inl closed)
  · exact closed

theorem Sound.lose (sound : Sound history w) (found : w.objects.nodes[k]? = some n)
    (pipe : n.value = .pipe) : Sound history (w.lose k) := by
  refine ⟨lending_lose sound.lending found pipe, sound.opened, sound.once, fun j member => ?_⟩
  obtain ⟨m, there, shut⟩ := sound.shut j member
  exact shut_change there shut

/-! ### The functions -/

/-- A new object is open. -/
theorem Fresh.isOpen (fresh : w.Fresh k owner) (sound : Sound history w) :
    w.objects.isOpen k = true := by
  obtain ⟨n, found, _, unshut, owns⟩ := fresh.node
  refine (Forest.isOpen_iff found).mpr ⟨unshut, fun j owns' => ?_⟩
  obtain ⟨o, there, socket⟩ := fresh.owned j (owns ▸ owns')
  exact sound.lending.isOpen there (by rw [socket]; rfl)

theorem Fresh.call (fresh : w.Fresh k owner) {j : Nat} : (w.call c j).Fresh k owner :=
  ⟨fresh.node, fresh.owned⟩

/-- A new object gets its value. -/
theorem Sound.give (sound : Sound history w) (fresh : w.Fresh k owner)
    (root : value = .socket → owner = none)
    (dials : value = .dialing none ∨ value = .detached none → ∃ s, owner = some s) :
    Sound history (w.put k value) := by
  obtain ⟨n, found, gone, unshut, owns⟩ := fresh.node
  refine sound.put found (fun socket => ?_) (fun _ => ⟨unshut, fun j owns' => ?_⟩) ?_ fun dial => ?_
  · rw [gone] at socket
    cases socket
  · exact fresh.owned j (owns ▸ owns')
  · exact fun socket => owns.trans (root socket)
  · exact ⟨unshut, (dials dial).imp fun s same => owns.trans same⟩

/-- A new object is given up. -/
theorem Sound.discard (sound : Sound history w) (fresh : w.Fresh k owner) (closes : c.closes = true) :
    Sound history (w.close c k .gone) := by
  obtain ⟨n, found, gone, _⟩ := fresh.node
  refine sound.close found (fresh.isOpen sound) (fun socket => ?_) closes
  rw [gone] at socket
  cases socket

theorem Sound.createSocket (sound : Sound history w) (openErrno : Int) (allocErrno : NngErr) :
    Sound history (w.createSocket openErrno allocErrno) := by
  unfold Scene.createSocket
  cases openResult openErrno with
  | error p => exact sound.tell fun _ _ _ other => by cases other
  | ok =>
    obtain ⟨made, fresh⟩ : Sound history (w.make none).1 ∧ _ :=
      sound.make fun _ other => by cases other
    dsimp only
    cases aioNew allocErrno with
    | error p => exact made.tell fun _ _ _ other => by cases other
    | ok =>
      refine (made.give fresh (fun _ => rfl) fun other => ?_).tell fun _ _ _ other => by cases other
      rcases other with other | other <;> cases other

theorem Sound.context (sound : Sound history w) (found : w.objects.nodes[k]? = some n)
    (socket : n.value = .socket) (openErrno : Int) (allocErrno : NngErr) :
    Sound history (w.context k openErrno allocErrno) := by
  have opened := sound.lending.isOpen found (by rw [socket]; rfl)
  have called := sound.call (c := .nng_ctx_open) opened rfl
  unfold Scene.context
  dsimp only
  cases openResult openErrno with
  | error p => exact called.tell fun _ _ _ other => by cases other
  | ok =>
    obtain ⟨made, fresh⟩ : Sound history ((w.call .nng_ctx_open k).make (some k)).1 ∧ _ :=
      called.make fun j same => by
        cases same
        exact ⟨n, found, socket⟩
    dsimp only
    cases aioNew allocErrno with
    | error p => exact (made.discard fresh rfl).tell fun _ _ _ other => by cases other
    | ok =>
      refine (made.give fresh (fun other => ?_) fun _ => ⟨k, rfl⟩).tell fun _ _ _ other => by cases other
      cases other

/-- Setting options. -/
theorem Sound.calls (options : List Nat) (sound : Sound history w) (fresh : w.Fresh k owner)
    (keeps : c.closes = false) : Sound history (options.foldl (fun w _ => w.call c k) w) ∧
      (options.foldl (fun w _ => w.call c k) w).Fresh k owner := by
  induction options generalizing w with
  | nil => exact ⟨sound, fresh⟩
  | cons _ options ih => exact ih (sound.call (fresh.isOpen sound) keeps) fresh.call

/-- **What `attach` leaves**: a new endpoint, or nothing. -/
theorem Sound.attach (sound : Sound history w) (found : w.objects.nodes[k]? = some n)
    (socket : n.value = .socket) (role : Role) (createErrno : Int32) (options : Nat)
    (preStart : Except E Unit) (closeErrno : Int32) :
    Sound history (w.attach role k createErrno options preStart closeErrno).1 ∧
      ∀ j, (w.attach role k createErrno options preStart closeErrno).2 = .ok j →
        (w.attach role k createErrno options preStart closeErrno).1.Fresh j (some k) := by
  have opened := sound.lending.isOpen found (by rw [socket]; rfl)
  have creates : (createCall role).closes = false := by cases role <;> rfl
  have closes : (closeCall role).closes = true := by cases role <;> rfl
  have called := sound.call opened creates
  unfold Scene.attach
  dsimp only
  cases createResult role createErrno with
  | error p => exact ⟨called, fun _ other => by cases other⟩
  | ok result =>
    cases result with
    | error e => exact ⟨called, fun _ other => by cases other⟩
    | ok =>
      obtain ⟨made, fresh⟩ : Sound history ((w.call (createCall role) k).make (some k)).1 ∧ _ :=
        called.make fun j same => by
          cases same
          exact ⟨n, found, socket⟩
      obtain ⟨set, fresh⟩ := made.calls (c := .nng_listener_set_bool) (List.range options) fresh rfl
      cases preStart with
      | error e => exact ⟨set.discard fresh closes, fun _ other => by cases other⟩
      | ok =>
        refine ⟨set, fun j same => ?_⟩
        cases same
        exact fresh

theorem Sound.listen (sound : Sound history w) (found : w.objects.nodes[k]? = some n)
    (socket : n.value = .socket) (createErrno : Int32) (options : Nat) (preStart : Except E Unit)
    (closeErrno startErrno : Int32) :
    Sound history (w.listen k createErrno options preStart closeErrno startErrno) := by
  obtain ⟨attached, fresh⟩ := sound.attach found socket .Listener createErrno options preStart closeErrno
  unfold Scene.listen
  split
  · rename_i w' result same
    rw [same] at attached
    exact attached.tell fun _ _ _ other => by cases other
  · rename_i w' j same
    rw [same] at attached fresh
    have fresh := fresh j rfl
    have started := attached.call (c := .nng_listener_start) (fresh.isOpen attached) rfl
    dsimp only
    cases startListener startErrno with
    | error p => exact started.tell fun _ _ _ other => by cases other
    | ok result =>
      cases result with
      | error e => exact started.tell fun _ _ _ other => by cases other
      | ok =>
        refine (started.give fresh.call (fun other => ?_) fun _ => ⟨k, rfl⟩).tell
          fun _ _ _ other => by cases other
        cases other

theorem Sound.dial (sound : Sound history w) (found : w.objects.nodes[k]? = some n)
    (socket : n.value = .socket) (allocErrno : NngErr) (createErrno : Int32)
    (preStart : Except E Unit) (closeErrno : Int32) :
    Sound history (w.dial k allocErrno createErrno preStart closeErrno) := by
  unfold Scene.dial
  cases aioNew allocErrno with
  | error p => exact sound.tell fun _ _ _ other => by cases other
  | ok =>
    obtain ⟨attached, fresh⟩ := sound.attach found socket .Dialer createErrno 0 preStart closeErrno
    dsimp only
    split
    · rename_i w' result same
      rw [same] at attached
      exact attached.tell fun _ _ _ other => by cases other
    · rename_i w' j same
      rw [same] at attached fresh
      exact attached.give (fresh j rfl) (fun other => by cases other) fun _ => ⟨k, rfl⟩

/-- What a value that is left belongs to, when another takes its place. -/
theorem Sound.replace (sound : Sound history w) (found : w.objects.nodes[k]? = some n)
    (left : n.value.held = true) (other : n.value ≠ .socket) (next : value ≠ .socket)
    (dials : value = .dialing none ∨ value = .detached none → ∃ s, n.owner = some s) :
    Sound history (w.put k value) := by
  obtain ⟨unshut, owners⟩ := sound.lending.held k n found left
  exact sound.put found (fun socket => absurd socket other) (fun _ => ⟨unshut, owners⟩)
    (fun socket => absurd socket next) fun dial => ⟨unshut, dials dial⟩

/-- The start of a dial whose future is awaited. -/
theorem Sound.dialStart (sound : Sound history w) (found : w.objects.nodes[k]? = some n)
    (waits : n.value = .dialing none) (errno : Int32) :
    Sound history ((w.call .nng_dialer_start k).put k (.dialing (some (dialWorker errno)))) := by
  have left : n.value.held = true := by
    rw [waits]
    rfl
  have called := sound.call (c := .nng_dialer_start) (sound.lending.isOpen found left) rfl
  refine called.replace found left ?_ (fun other => by cases other) fun dial => ?_
  · rw [waits]
    exact fun other => by cases other
  · rcases dial with other | other <;> cases other

theorem Sound.resume (sound : Sound history w) (found : w.objects.nodes[k]? = some n)
    {outcome : Outcome E Unit} (waits : n.value = .dialing (some outcome)) :
    Sound history (w.resume k outcome) := by
  have left : n.value.held = true := by
    rw [waits]
    rfl
  have other : n.value ≠ .socket := by
    rw [waits]
    exact fun same => by cases same
  have closed : Sound history (w.close .nng_dialer_close k .gone) :=
    sound.close found (sound.lending.isOpen found left) (fun socket => absurd socket other) rfl
  unfold Scene.resume
  split
  · refine (sound.replace found left other (fun same => by cases same) fun dial => ?_).tell
      fun _ _ _ other => by cases other
    rcases dial with same | same <;> cases same
  · exact closed.tell fun _ _ _ other => by cases other
  · exact closed.tell fun _ _ _ other => by cases other

/-- A value that nothing borrows goes without a call. -/
theorem Sound.leave (sound : Sound history w) (found : w.objects.nodes[k]? = some n)
    (left : n.value.held = true) (free : borrowed w.objects k = false) :
    Sound history (w.leave k n.value) := by
  have gone : Sound history (w.put k .gone) :=
    sound.put found (fun _ => free) (fun other => by cases other) (fun other => by cases other)
      fun other => by rcases other with other | other <;> cases other
  cases value : n.value with
  | socket | context | listener | dialer | gone => exact gone
  | detached => exact gone
  | pipe =>
    rw [value] at left
    cases left
  | dialing worker =>
    refine sound.replace found left ?_ (fun same => by cases same) fun dial => ?_
    · rw [value]
      exact fun same => by cases same
    · rcases dial with same | same
      · cases same
      · cases same
        exact (sound.lending.dials k n found (.inl value)).2

/-- A value that nothing borrows is dropped. -/
theorem Sound.drop (sound : Sound history w) (found : w.objects.nodes[k]? = some n)
    (left : n.value.held = true) (free : borrowed w.objects k = false) :
    Sound history (w.drop k n.value) := by
  have opened := sound.lending.isOpen found left
  have leave := sound.leave found left free
  cases value : n.value with
  | socket | context => exact sound.close found opened (fun _ => free) rfl
  | listener | dialer | dialing | detached | pipe | gone =>
    rw [value] at leave
    exact leave

end Scene

/-! ### Steps and runs -/

/-- The value of an object, if there is one. -/
theorem value_found {v : Value E} (same : (f.nodes[k]?.map Forest.Node.value).getD .gone = v)
    (left : v ≠ .gone) : ∃ n, f.nodes[k]? = some n ∧ n.value = v := by
  cases found : f.nodes[k]? with
  | none =>
    rw [found] at same
    exact absurd same.symm left
  | some n =>
    rw [found] at same
    exact ⟨n, rfl, same⟩

/-- The start of a dial whose future is gone. -/
def StartsDetached (f : Forest (Value E)) (w : Scene E) : Prop :=
  ∃ k n errno, f.nodes[k]? = some n ∧ n.value = .detached none ∧
    w = (Scene.call ⟨f, []⟩ .nng_dialer_start k).put k (.detached (some (dialWorker errno)))

/-- A `remote_addr` that finds its pipe gone, at the first call or at the second. -/
def AsksGone (f : Forest (Value E)) (w : Scene E) : Prop :=
  ∃ k n, f.nodes[k]? = some n ∧ n.value = .pipe ∧
    (w = (Scene.call ⟨f, []⟩ .nng_pipe_peer_addr k).tell (.remote (.ok none)) ∨
      w = (((Scene.call ⟨f, []⟩ .nng_pipe_peer_addr k).lose k).call .nng_pipe_get_scheme k).tell
        (.remote (.ok none)))

/-- **`remote_addr` asks about an open pipe, or returns `None`.** -/
theorem remoteAddr_sound (sound : Scene.Sound history ⟨f, []⟩) (found : f.nodes[k]? = some n)
    (pipe : n.value = .pipe) {endian : Endian} {peer : NngErr × NngSockaddr}
    {scheme : NngErr × List UInt8} {lost : Bool}
    (first : peer.1 = ErrorCode.ENOENT.value ↔ f.isOpen k = false)
    (second : scheme.1 = ErrorCode.ENOENT.value ↔ (f.isOpen k && !lost) = false) :
    Scene.Sound history (Scene.remoteAddr endian ⟨f, []⟩ k peer scheme lost) ∨
      AsksGone f (Scene.remoteAddr endian ⟨f, []⟩ k peer scheme lost) := by
  obtain ⟨err, addr⟩ := peer
  obtain ⟨err', text⟩ := scheme
  unfold Scene.remoteAddr
  dsimp only at first second ⊢
  by_cases ok : err = NNG_OK
  · have opened : f.isOpen k = true := Bool.of_not_eq_false fun gone => by
      rw [ok] at first
      exact absurd (first.mpr gone) (by decide)
    have asked := sound.call (c := .nng_pipe_peer_addr) opened rfl
    rw [if_pos ok]
    cases lost with
    | false => exact .inl ((asked.call opened rfl).tell fun _ _ _ other => by cases other)
    | true =>
      have gone : err' = ErrorCode.ENOENT.value := second.mpr (Bool.and_false _)
      refine .inr ⟨k, n, found, pipe, .inr ?_⟩
      rw [PipedMessage.remoteAddrOf, ok, gone]
      rfl
  · rw [if_neg ok]
    cases opened : f.isOpen k with
    | true => exact .inl ((sound.call opened rfl).tell fun _ _ _ other => by cases other)
    | false =>
      refine .inr ⟨k, n, found, pipe, .inl ?_⟩
      rw [PipedMessage.remoteAddrOf, first.mpr opened]
      rfl

/-- **A step calls the library on open objects**, unless it starts a dial whose future is gone or asks
about a pipe that is gone. -/
theorem lentStep_sound {endian : Endian} {action : LentAction E} (sound : Scene.Sound history ⟨f, []⟩)
    (stepped : lentScene endian f action = some w) :
    Scene.Sound history w ∨ StartsDetached f w ∨ AsksGone f w := by
  unfold lentScene at stepped
  cases action with
  | createSocket openErrno allocErrno =>
    cases stepped
    exact .inl (sound.createSocket openErrno allocErrno)
  | context socket openErrno allocErrno =>
    dsimp only at stepped
    split at stepped
    · rename_i same
      cases stepped
      obtain ⟨n, found, value⟩ := value_found same fun other => by cases other
      exact .inl (sound.context found value openErrno allocErrno)
    · cases stepped
  | listen socket createErrno options preStart closeErrno startErrno =>
    dsimp only at stepped
    split at stepped
    · rename_i same
      cases stepped
      obtain ⟨n, found, value⟩ := value_found same fun other => by cases other
      exact .inl (sound.listen found value createErrno options preStart closeErrno startErrno)
    · cases stepped
  | dial socket allocErrno createErrno preStart closeErrno =>
    dsimp only at stepped
    split at stepped
    · rename_i same
      cases stepped
      obtain ⟨n, found, value⟩ := value_found same fun other => by cases other
      exact .inl (sound.dial found value allocErrno createErrno preStart closeErrno)
    · cases stepped
  | dialStart k errno =>
    dsimp only at stepped
    split at stepped
    · rename_i same
      cases stepped
      obtain ⟨n, found, value⟩ := value_found same fun other => by cases other
      exact .inl (sound.dialStart found value errno)
    · rename_i same
      cases stepped
      obtain ⟨n, found, value⟩ := value_found same fun other => by cases other
      exact .inr (.inl ⟨k, n, errno, found, value, rfl⟩)
    · cases stepped
  | resume k =>
    dsimp only at stepped
    split at stepped
    · rename_i outcome same
      cases stepped
      obtain ⟨n, found, value⟩ := value_found same fun other => by cases other
      exact .inl (sound.resume found value)
    · cases stepped
  | use k =>
    dsimp only at stepped
    split at stepped
    · rename_i same
      cases stepped
      obtain ⟨n, found, value⟩ := value_found same fun other => by cases other
      exact .inl (sound.call (sound.lending.isOpen found (by rw [value]; rfl)) rfl)
    · rename_i same
      cases stepped
      obtain ⟨n, found, value⟩ := value_found same fun other => by cases other
      exact .inl (sound.call (sound.lending.isOpen found (by rw [value]; rfl)) rfl)
    · cases stepped
  | localAddr k =>
    dsimp only at stepped
    split at stepped
    · rename_i same
      cases stepped
      obtain ⟨n, found, value⟩ := value_found same fun other => by cases other
      exact .inl (sound.call (sound.lending.isOpen found (by rw [value]; rfl)) rfl)
    · cases stepped
  | pipeAdd k =>
    dsimp only at stepped
    split at stepped
    · split_ifs at stepped
      cases stepped
      exact .inl (sound.add rfl (fun other => by cases other) (some k))
    · cases stepped
  | pipeLost k =>
    dsimp only at stepped
    split at stepped
    · rename_i same
      cases stepped
      obtain ⟨n, found, value⟩ := value_found same fun other => by cases other
      exact .inl (sound.lose found value)
    · cases stepped
  | remoteAddr k peer scheme lost =>
    dsimp only at stepped
    split at stepped
    · rename_i same
      split_ifs at stepped with answers
      cases stepped
      obtain ⟨n, found, value⟩ := value_found same fun other => by cases other
      exact (remoteAddr_sound sound found value answers.1 answers.2).imp_right .inr
    · cases stepped
  | drop k =>
    dsimp only at stepped
    split_ifs at stepped with ready
    cases stepped
    obtain ⟨n, found, value⟩ := value_found (f := f) (k := k) rfl fun gone => by
      rw [gone] at ready
      cases ready.1
    rw [← value] at ready ⊢
    exact .inl (sound.drop found ready.1 ready.2)
  | forget k =>
    dsimp only at stepped
    split_ifs at stepped with ready
    cases stepped
    obtain ⟨n, found, value⟩ := value_found (f := f) (k := k) rfl fun gone => by
      rw [gone] at ready
      cases ready.1
    rw [← value] at ready ⊢
    exact .inl (sound.leave found ready.1 ready.2)

/-- The account of a step joins the history. -/
theorem Scene.Sound.settle (sound : w.Sound history) :
    Scene.Sound (history ++ w.out) ⟨w.objects, []⟩ := by
  have same : closed (history ++ w.out ++ []) = closed (history ++ w.out) := by rw [List.append_nil]
  exact ⟨sound.lending, fun _ _ member => absurd member List.not_mem_nil, same ▸ sound.once,
    same ▸ sound.shut⟩

/-- A step that closes nothing by name keeps the account, also where it found something closed. -/
theorem Scene.Sound.past (sound : Scene.Sound history ⟨f, []⟩) (lending : Lending w.objects)
    (none : closed w.out = [])
    (stays : ∀ (j : Nat) (m : Forest.Node (Value E)), f.nodes[j]? = some m → m.shut = true →
      ∃ m' : Forest.Node (Value E), w.objects.nodes[j]? = some m' ∧ m'.shut = true) :
    Scene.Sound (history ++ w.out) ⟨w.objects, []⟩ := by
  have same : closed (history ++ w.out ++ []) = closed (history ++ ([] : List (LentEvent E))) := by
    rw [List.append_nil, List.append_nil, closed_append, none, List.append_nil]
  refine ⟨lending, fun _ _ member => absurd member List.not_mem_nil, same ▸ sound.once, ?_⟩
  rw [same]
  intro j member
  obtain ⟨m, there, shut⟩ := sound.shut j member
  exact stays j m there shut

/-- **The calls that find their object closed**: `nng_dialer_start` of a dial whose future is gone and
whose `Socket` is gone too, and those of a `remote_addr` that returns `None`. -/
def Late (f : Forest (Value E)) (out : List (LentEvent E)) (c : ObjectCall) (k : Nat) : Prop :=
  (c = .nng_dialer_start ∧ ∃ n s, f.nodes[k]? = some n ∧ n.value = .detached none ∧
    n.owner = some s ∧ f.isOpen s = false) ∨
  ((c = .nng_pipe_peer_addr ∨ c = .nng_pipe_get_scheme) ∧
    (∃ n, f.nodes[k]? = some n ∧ n.value = .pipe) ∧ .remote (.ok none) ∈ out)

/-- The start of a detached dial keeps the account, and finds its dialer closed only when the `Socket` is
gone. -/
theorem StartsDetached.settle (sound : Scene.Sound history ⟨f, []⟩) (starts : StartsDetached f w) :
    Scene.Sound (history ++ w.out) ⟨w.objects, []⟩ ∧
      ∀ c j, .called c j false ∈ w.out → Late f w.out c j := by
  obtain ⟨k, n, errno, found, value, rfl⟩ := starts
  obtain ⟨unshut, s, owns⟩ := sound.lending.dials k n found (.inr value)
  constructor
  · have put : Scene.Sound history (Scene.put ⟨f, []⟩ k (.detached (some (dialWorker errno)))) := by
      refine sound.put found (fun other => ?_) (fun other => by cases other)
        (fun other => by cases other) fun other => by rcases other with other | other <;> cases other
      rw [value] at other
      cases other
    exact sound.past put.lending rfl fun j m there shut => Scene.shut_change there shut
  · intro c j member
    have only : LentEvent.called c j false = .called .nng_dialer_start k (f.isOpen k) :=
      List.mem_singleton.mp member
    injection only with call object gone
    subst call object
    refine .inl ⟨rfl, n, s, found, value, owns, Bool.eq_false_iff.mpr fun opened => ?_⟩
    have here : f.isOpen j = true := (Forest.isOpen_iff found).mpr ⟨unshut, fun i owns' => by
      cases owns.symm.trans owns'
      exact opened⟩
    rw [here] at gone
    cases gone

/-- So does a `remote_addr` that finds its pipe gone. -/
theorem AsksGone.settle (sound : Scene.Sound history ⟨f, []⟩) (asks : AsksGone f w) :
    Scene.Sound (history ++ w.out) ⟨w.objects, []⟩ ∧
      ∀ c j, .called c j false ∈ w.out → Late f w.out c j := by
  obtain ⟨k, n, found, pipe, rfl | rfl⟩ := asks
  · refine ⟨sound.past sound.lending rfl fun j m there shut => ⟨m, there, shut⟩, fun c j member => ?_⟩
    rcases List.mem_append.mp member with call | last
    · injection List.mem_singleton.mp call with call object
      subst call object
      exact .inr ⟨.inl rfl, ⟨n, found, pipe⟩, List.mem_append_right _ List.mem_cons_self⟩
    · cases List.mem_singleton.mp last
  · refine ⟨sound.past (Scene.lending_lose sound.lending found pipe) rfl fun j m there shut =>
      Scene.shut_change there shut, fun c j member => ?_⟩
    have remote : LentEvent.remote (.ok none) ∈
        ((((Scene.call ⟨f, []⟩ .nng_pipe_peer_addr k).lose k).call .nng_pipe_get_scheme k).tell
          (.remote (.ok none))).out := List.mem_append_right _ List.mem_cons_self
    rcases List.mem_append.mp member with calls | last
    · rcases List.mem_append.mp calls with call | call
      · injection List.mem_singleton.mp call with call object
        subst call object
        exact .inr ⟨.inl rfl, ⟨n, found, pipe⟩, remote⟩
      · injection List.mem_singleton.mp call with call object
        subst call object
        exact .inr ⟨.inr rfl, ⟨n, found, pipe⟩, remote⟩
    · cases List.mem_singleton.mp last

/-- **Every step keeps the account.** -/
theorem lentStep_settle {endian : Endian} {action : LentAction E}
    (sound : Scene.Sound history ⟨f, []⟩) (stepped : lentScene endian f action = some w) :
    Scene.Sound (history ++ w.out) ⟨w.objects, []⟩ ∧
      ∀ c j, .called c j false ∈ w.out → Late f w.out c j := by
  rcases lentStep_sound sound stepped with fine | starts | asks
  · exact ⟨fine.settle, fun c k closed => absurd closed (fine.opened c k)⟩
  · exact starts.settle sound
  · exact asks.settle sound

theorem sound_of_run {endian : Endian}
    {trace : List (Transition (Forest (Value E)) (LentAction E) (LentEvent E))}
    (run : (lentMachine E endian).Run trace f) : Scene.Sound (events trace) ⟨f, []⟩ ∧
      ∀ t ∈ trace, ∀ c k, .called c k false ∈ t.out → Late t.pre t.out c k := by
  induction run with
  | nil =>
    refine ⟨⟨⟨fun _ _ found => ?_, fun _ _ found => ?_, fun _ _ found => ?_⟩, fun _ _ member => ?_,
      List.nodup_nil, fun _ member => ?_⟩, fun _ member => absurd member List.not_mem_nil⟩
    · cases found
    · cases found
    · cases found
    · cases member
    · cases member
  | snoc earlier stepped ih =>
    obtain ⟨w, acted, same⟩ := Option.map_eq_some_iff.mp stepped
    cases same
    obtain ⟨sound, past⟩ := ih
    obtain ⟨settled, late⟩ := lentStep_settle sound acted
    rw [events_append, events_singleton]
    refine ⟨settled, fun t member c k closed => ?_⟩
    rcases List.mem_append.mp member with before | last
    · exact past t before c k closed
    · cases List.mem_singleton.mp last
      exact late c k closed

end Sound

end Steps

/-- **Every call to the library finds its object open.** Over every run of a safe program that makes,
uses, drops and forgets any number of `Socket`s, `ContextfulSocket`s, dials and listeners, and asks
messages where they came from: no object of the library is closed twice; no call finds its object closed
except the `nng_dialer_start` of a dial whose future was dropped and whose `Socket` was dropped after it,
and the calls of a `remote_addr` on a pipe that is gone, which returns `None`; and a value that is left
has an open object. -/
theorem library_calls_find_open {E : Type} {endian : Endian} {f : Forest (Value E)}
    {trace : List (Transition (Forest (Value E)) (LentAction E) (LentEvent E))}
    (run : (lentMachine E endian).Run trace f) :
    (closed (events trace)).Nodup ∧
    (∀ t ∈ trace, ∀ c k, .called c k false ∈ t.out → Late t.pre t.out c k) ∧
    ∀ (k : Nat) (n : Forest.Node (Value E)), f.nodes[k]? = some n → n.value.held = true →
      f.isOpen k = true := by
  obtain ⟨sound, late⟩ := sound_of_run run
  have once := sound.once
  rw [List.append_nil] at once
  exact ⟨once, late, fun k n found held => sound.lending.isOpen found held⟩

/-- A dial is dropped, and then its `Socket`, before the worker gets to `nng_dialer_start`; a message is
kept, and asked for its address: the socket is closed once, the worker finds its dialer gone, and the
message has no address any more. -/
theorem library_calls_find_open_detached : ∃ f trace, (lentMachine Unit .little).Run trace f ∧
    (closed (events trace)).Nodup ∧ .called .nng_dialer_start 1 false ∈ events trace ∧
      .called .nng_pipe_peer_addr 2 false ∈ events trace ∧
      ∀ t ∈ trace, ∀ c k, .called c k false ∈ t.out → Late t.pre t.out c k := by
  have run := run_of_replay (M := lentMachine Unit .little)
    [.createSocket 0 0, .dial 0 0 0 (.ok ()) 0, .pipeAdd 0, .use 0, .drop 1, .drop 0, .dialStart 1 12,
      .remoteAddr 2 (ErrorCode.ENOENT.value, PipedMessage.inprocPeer .little)
        (ErrorCode.ENOENT.value, []) false] rfl
  obtain ⟨once, late, _⟩ := library_calls_find_open run
  exact ⟨_, _, run, once, by decide, by decide, late⟩

end NngRs.Anng
