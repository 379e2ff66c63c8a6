/-
**Adding a listener or a dialer to a socket: `add_listener_to_socket` and `add_dialer_to_socket`.**

Both create an endpoint, hand it to a callback that sets it up, and start it. What the library
answers is part of the input. Of the library it is assumed that a successful create attaches a new
endpoint to the socket, that it stays attached until `nng_listener_close` or `nng_dialer_close`, and
that starting it changes nothing about that.

A dialer is started on a blocking thread, whose panics the caller sees as a `JoinError`.
`dialWorker` is that thread's part, `dialStart` and `dialFinish` what the future does before and
after it.

* `startListener_error` — the two codes a listener's failing start is reported with.
* `adding_is_atomic_iff` — a call that fails leaves the socket as it was, and one that succeeds adds
  the endpoint it returns, except where a listener fails to start.
-/

import Mathlib.Data.Finset.Insert
import NngRs.Anng.Aio
import NngRs.Anng.Init

namespace NngRs.Anng

open NngRs.Sys

/-- Which of the two near copies. -/
inductive Role
  | Listener
  | Dialer
deriving DecidableEq, Repr

/-- An `nng_listener` or `nng_dialer`. -/
structure EndpointId where
  role : Role
  id : UInt32
deriving DecidableEq, Repr

/-- Where the modelled code panics. -/
inductive EndpointPanic
  /-- "errno is never negative" -/
  | negativeErrno
  /-- "OOM" -/
  | outOfMemory
  /-- "0 is checked above" -/
  | zeroErrno
  /-- "nng_listener_create documentation claims errno {errno} is never returned" -/
  | createUndocumented (role : Role) (errno : UInt32)
  /-- "the listener handle is valid" -/
  | handleValid (role : Role)
  /-- "nng_listener_close documentation claims errno {errno} is never returned" -/
  | closeUndocumented (role : Role) (errno : UInt32)
  /-- "nng_listener_start documentation claims errno {errno} is never returned" -/
  | startUndocumented (role : Role) (errno : UInt32)
  /-- "nng is not torn down" -/
  | notTornDown
  /-- "the listener is not already started", "the dialer has not been started" -/
  | notStarted (role : Role)
  /-- "always handled in outer variant" -/
  | handledInOuterVariant
  /-- "nng never exposes this publicly" -/
  | neverExposed
  /-- A panic of `Aio::new`. -/
  | aioNew (panic : InitPanic)
deriving DecidableEq, Repr

/-- `io::Error`, by what it was made from. -/
inductive IoError (E : Type)
  /-- An error of the `pre_start` callback. -/
  | preStart (e : E)
  /-- `io::Error::from(AioError)`. -/
  | aio (kind : IoErrorKind) (e : AioError)
  /-- `io::Error::from(JoinError)`: the worker panicked. -/
  | join (panic : EndpointPanic)
deriving DecidableEq, Repr

/-! ### Errors -/

/-- `impl From<AioError> for io::Error`, the kind. -/
def AioError.ioErrorKind : AioError → Except EndpointPanic IoErrorKind
  | .TimedOut => .ok .TimedOut
  | .Cancelled => .ok .Interrupted
  | .Operation (.NngError kind) =>
    match kind with
    | .ETIMEDOUT | .ECANCELED => .error .handledInOuterVariant
    | .EINTR => .error .neverExposed
    | .EBUSY => .ok .ResourceBusy
    | .EAGAIN => .ok .WouldBlock
    | .ENOTSUP => .ok .Unsupported
    | .EADDRINUSE => .ok .AddrInUse
    | .ENOENT => .ok .NotFound
    | .EPERM => .ok .PermissionDenied
    | .EMSGSIZE => .ok .InvalidData
    | .ECONNABORTED => .ok .ConnectionAborted
    | .ENOFILES => .ok .QuotaExceeded
    | .ENOSPC => .ok .StorageFull
    | .EEXIST => .ok .AlreadyExists
    | .EREADONLY | .EWRITEONLY => .ok .Unsupported
    | .EBADTYPE | .EADDRINVAL | .EINVAL => .ok .InvalidInput
    | .ECONNSHUT | .ECLOSED => .ok .BrokenPipe
    | .ECONNREFUSED => .ok .ConnectionRefused
    | .ECONNRESET => .ok .ConnectionReset
    | .ENOMEM => .ok .OutOfMemory
    | .EPEERAUTH => .ok .ConnectionAborted
    | .EUNREACHABLE => .ok .HostUnreachable
    | .ESTATE | .EPROTO | .ECRYPTO | .ESTOPPED | .EINTERNAL => .ok .Other
  | .Operation (.Transport _) => .ok .Other
  | .Operation (.System kind) => .ok kind
  | .Operation (.Other _) => .ok .Other

/-- What a call ends with: a panic, or a result. -/
abbrev Outcome (E α : Type) := Except EndpointPanic (Except (IoError E) α)

section Calls

variable {E : Type}

/-- `Err(io::Error::from(e))`. -/
def failWith (e : AioError) {α : Type} : Outcome E α :=
  match e.ioErrorKind with
  | .error p => .error p
  | .ok kind => .ok (.error (.aio kind e))

/-- `Err(io::Error::from(AioError::Operation(ErrorKind::from_nz_u32(err))))`. -/
def failWithCode (err : UInt32) {α : Type} : Outcome E α :=
  match ErrorKind.fromNngErr err with
  | none => .error .zeroErrno
  | some kind => failWith (.Operation kind)

/-- `u32::try_from(errno).expect("errno is never negative")`, `0` apart. -/
def matchErrno (errno : Int32) {α : Type} (ok : Outcome E α) (arms : UInt32 → Outcome E α) :
    Outcome E α :=
  if errno < 0 then .error .negativeErrno
  else if errno = 0 then ok
  else arms errno.toUInt32

/-! ### The calls to the library -/

/-- What `nng_listener_create` or `nng_dialer_create` answers on a socket: on success an endpoint
that was not attached before. -/
structure Created (role : Role) (attached : Finset EndpointId) where
  errno : Int32
  id : UInt32
  fresh : errno = 0 → ⟨role, id⟩ ∉ attached

/-- The match on the errno of `nng_listener_create` and `nng_dialer_create`. -/
def createResult (role : Role) (errno : Int32) : Outcome E Unit :=
  matchErrno errno (.ok (.ok ())) fun err =>
    if err = ErrorCode.ENOMEM.value then .error .outOfMemory
    else if err = ErrorCode.ECLOSED.value ∨ err = ErrorCode.EADDRINVAL.value ∨
        err = ErrorCode.EINVAL.value ∨ err = ErrorCode.ENOTSUP.value then failWithCode err
    else .error (.createUndocumented role err)

/-- The match on the errno of `nng_listener_close` and `nng_dialer_close` after the callback failed
with `e`. -/
def closeResult (role : Role) (errno : Int32) (e : E) : Outcome E UInt32 :=
  matchErrno errno (.ok (.error (.preStart e))) fun err =>
    if err = ErrorCode.ECLOSED.value then .error (.handleValid role)
    else .error (.closeUndocumented role err)

/-- The match on the errno of `nng_listener_start`. -/
def startListener (errno : Int32) : Outcome E Unit :=
  matchErrno errno (.ok (.ok ())) fun err =>
    if err = ErrorCode.ECLOSED.value then .error (.handleValid .Listener)
    else if err = ErrorCode.ESTOPPED.value then .error .notTornDown
    else if err = ErrorCode.ESTATE.value then .error (.notStarted .Listener)
    else if err = ErrorCode.EADDRINUSE.value ∨ err = ErrorCode.EPERM.value then failWithCode err
    else .error (.startUndocumented .Listener err)

/-- The worker of a dial: the match on the errno of `nng_dialer_start`. -/
def dialWorker (errno : Int32) : Outcome E Unit :=
  matchErrno errno (.ok (.ok ())) fun err =>
    if err = ErrorCode.ECANCELED.value then failWith .Cancelled
    else if err = ErrorCode.ECLOSED.value then failWith (.Operation (.NngError .ECLOSED))
    else if err = ErrorCode.ESTOPPED.value then failWith (.Operation (.NngError .ESTOPPED))
    else if err = ErrorCode.ESTATE.value then .error (.notStarted .Dialer)
    -- a temporary failure of name resolution, reported as a bad address
    else if err = ErrorCode.EAGAIN.value then failWith (.Operation (.NngError .EADDRINVAL))
    else if err = ErrorCode.ENOMEM.value then .error .outOfMemory
    else if err = ErrorCode.ETIMEDOUT.value then failWith .TimedOut
    else if err = ErrorCode.EADDRINVAL.value ∨ err = ErrorCode.ECONNABORTED.value ∨
        err = ErrorCode.ECONNSHUT.value ∨ err = ErrorCode.ECRYPTO.value ∨
        err = ErrorCode.ECONNREFUSED.value ∨ err = ErrorCode.ECONNRESET.value ∨
        err = ErrorCode.EINVAL.value ∨ err = ErrorCode.EPEERAUTH.value ∨
        err = ErrorCode.EPROTO.value ∨ err = ErrorCode.EUNREACHABLE.value then failWithCode err
    else .error (.startUndocumented .Dialer err)

/-- Creating an endpoint and handing it to the callback; an endpoint whose callback fails is closed.
The endpoint, or how the call ends, and what is attached then. -/
def createEndpoint (role : Role) (attached : Finset EndpointId) (created : Created role attached)
    (preStart : UInt32 → Except E Unit) (closeErrno : Int32) : Outcome E UInt32 × Finset EndpointId :=
  match createResult role created.errno with
  | .error p => (.error p, attached)
  | .ok (.error e) => (.ok (.error e), attached)
  | .ok (.ok ()) =>
    let attached := insert ⟨role, created.id⟩ attached
    match preStart created.id with
    | .error e => (closeResult role closeErrno e, attached.erase ⟨role, created.id⟩)
    | .ok () => (.ok (.ok created.id), attached)

/-- `add_listener_to_socket`. -/
def addListenerToSocket (attached : Finset EndpointId) (created : Created .Listener attached)
    (preStart : UInt32 → Except E Unit) (closeErrno startErrno : Int32) :
    Outcome E UInt32 × Finset EndpointId :=
  match createEndpoint .Listener attached created preStart closeErrno with
  | (.ok (.ok listener), attached) =>
    match startListener startErrno with
    | .error p => (.error p, attached)
    | .ok (.error e) => (.ok (.error e), attached)
    | .ok (.ok ()) => (.ok (.ok listener), attached)
  | ended => ended

/-- `add_dialer_to_socket`, up to the worker. -/
def dialStart (attached : Finset EndpointId) (allocErrno : NngErr)
    (created : Created .Dialer attached) (preStart : UInt32 → Except E Unit) (closeErrno : Int32) :
    Outcome E UInt32 × Finset EndpointId :=
  match aioNew allocErrno with
  | .error p => (.error (.aioNew p), attached)
  | .ok () => createEndpoint .Dialer attached created preStart closeErrno

/-- `add_dialer_to_socket`, from the end of the worker on. What `nng_dialer_close` returns is not
looked at. -/
def dialFinish (attached : Finset EndpointId) (dialer : UInt32) (worker : Outcome E Unit) :
    Except (IoError E) UInt32 × Finset EndpointId :=
  match worker with
  | .ok (.ok ()) => (.ok dialer, attached)
  | .ok (.error e) => (.error e, attached.erase ⟨.Dialer, dialer⟩)
  | .error p => (.error (.join p), attached.erase ⟨.Dialer, dialer⟩)

/-- `add_dialer_to_socket`, awaited to its end. -/
def addDialerToSocket (attached : Finset EndpointId) (allocErrno : NngErr)
    (created : Created .Dialer attached) (preStart : UInt32 → Except E Unit)
    (closeErrno startErrno : Int32) : Outcome E UInt32 × Finset EndpointId :=
  match dialStart attached allocErrno created preStart closeErrno with
  | (.ok (.ok dialer), attached) =>
    let (result, attached) := dialFinish attached dialer (dialWorker startErrno)
    (.ok result, attached)
  | ended => ended

/-! ### What they leave attached -/

/-- **Adding an endpoint is atomic**: an error leaves what was attached, and success adds the
endpoint that is returned. -/
def Atomic (role : Role) (attached : Finset EndpointId)
    (ended : Outcome E UInt32 × Finset EndpointId) : Prop :=
  (∀ e, ended.1 = .ok (.error e) → ended.2 = attached) ∧
    ∀ id, ended.1 = .ok (.ok id) → ended.2 = insert ⟨role, id⟩ attached

/-! ### The errors -/

theorem failWith_ne_ok {α : Type} (e : AioError) (a : α) :
    (failWith e : Outcome E α) ≠ .ok (.ok a) := by
  unfold failWith
  cases e.ioErrorKind <;> nofun

theorem failWithCode_ne_ok {α : Type} (err : UInt32) (a : α) :
    (failWithCode err : Outcome E α) ≠ .ok (.ok a) := by
  unfold failWithCode
  cases ErrorKind.fromNngErr err with
  | none => nofun
  | some kind => exact failWith_ne_ok _ a

/-- A result is `ok`'s own, or one of an arm whose errno is not zero. -/
theorem matchErrno_cases {α : Type} {errno : Int32} {ok result : Outcome E α}
    {arms : UInt32 → Outcome E α} (matched : matchErrno errno ok arms = result)
    (ended : result.isOk = true) :
    (errno = 0 ∧ ok = result) ∨ arms errno.toUInt32 = result := by
  unfold matchErrno at matched
  split_ifs at matched with negative zero
  · subst matched
    cases ended
  · exact .inl ⟨zero, matched⟩
  · exact .inr matched

theorem createResult_ok {role : Role} {errno : Int32}
    (created : createResult role errno = (.ok (.ok ()) : Outcome E Unit)) : errno = 0 := by
  rcases matchErrno_cases created rfl with ⟨zero, -⟩ | arm
  · exact zero
  · split_ifs at arm
    exact absurd arm (failWithCode_ne_ok _ _)

/-- What a caller of `add_listener_to_socket` is told when the start fails. -/
theorem startListener_error {errno : Int32} {e : IoError E}
    (failed : startListener errno = .ok (.error e)) :
    (errno.toUInt32 = ErrorCode.EADDRINUSE.value ∧
        e = .aio .AddrInUse (.Operation (.NngError .EADDRINUSE))) ∨
      (errno.toUInt32 = ErrorCode.EPERM.value ∧
        e = .aio .PermissionDenied (.Operation (.NngError .EPERM))) := by
  rcases matchErrno_cases failed rfl with ⟨-, ok⟩ | arm
  · cases ok
  · split_ifs at arm with _ _ _ known
    rcases known with used | forbidden
    · rw [used] at arm
      cases arm
      exact .inl ⟨used, rfl⟩
    · rw [forbidden] at arm
      cases arm
      exact .inr ⟨forbidden, rfl⟩

/-- **A start fails with an error exactly on `EADDRINUSE` and `EPERM`**; every other code panics. -/
theorem startListener_error_iff {errno : Int32} :
    (∃ e : IoError E, startListener errno = .ok (.error e)) ↔
      errno.toUInt32 = ErrorCode.EADDRINUSE.value ∨ errno.toUInt32 = ErrorCode.EPERM.value := by
  constructor
  · rintro ⟨e, failed⟩
    exact (startListener_error failed).imp And.left And.left
  · rintro (used | forbidden)
    · obtain rfl : errno = 10 := congrArg Int32.ofUInt32 used
      exact ⟨_, rfl⟩
    · obtain rfl : errno = 16 := congrArg Int32.ofUInt32 forbidden
      exact ⟨_, rfl⟩

/-! ### Atomicity -/

section Adding

variable {role : Role} {attached attached' : Finset EndpointId} {created : Created role attached}
  {preStart : UInt32 → Except E Unit} {closeErrno startErrno : Int32}

/-- Creating an endpoint takes back what it attached unless the callback succeeds. -/
theorem createEndpoint_undone {result : Outcome E UInt32} (refused : ∀ id, result ≠ .ok (.ok id))
    (ended : createEndpoint role attached created preStart closeErrno = (result, attached')) :
    attached' = attached := by
  unfold createEndpoint at ended
  rcases made : (createResult role created.errno : Outcome E Unit) with p | _ | _ <;>
    simp only [made] at ended
  · exact (congrArg Prod.snd ended).symm
  · exact (congrArg Prod.snd ended).symm
  · cases called : preStart created.id <;> simp only [called] at ended
    · exact (congrArg Prod.snd ended).symm.trans
        (Finset.erase_insert (created.fresh (createResult_ok made)))
    · exact absurd (congrArg Prod.fst ended).symm (refused _)

theorem closeResult_ne_ok (e : E) (id : UInt32) :
    closeResult role closeErrno e ≠ .ok (.ok id) := by
  intro closed
  rcases matchErrno_cases closed rfl with ⟨-, ok⟩ | arm
  · cases ok
  · split_ifs at arm

/-- An endpoint is there to be started when it was created and its callback succeeded. -/
theorem createEndpoint_ok_iff {id : UInt32} :
    createEndpoint role attached created preStart closeErrno = (.ok (.ok id), attached') ↔
      created.errno = 0 ∧ preStart created.id = .ok () ∧ id = created.id ∧
        attached' = insert ⟨role, id⟩ attached := by
  unfold createEndpoint
  constructor
  · intro ended
    rcases result : (createResult role created.errno : Outcome E Unit) with p | _ | _ <;>
      simp only [result] at ended
    · cases ended
    · cases ended
    · cases called : preStart created.id <;> simp only [called] at ended
      · exact absurd (congrArg Prod.fst ended) (closeResult_ne_ok _ _)
      · cases ended
        exact ⟨createResult_ok result, rfl, rfl, rfl⟩
  · rintro ⟨zero, called, rfl, rfl⟩
    have result : (createResult role created.errno : Outcome E Unit) = .ok (.ok ()) := by
      rw [zero]
      rfl
    simp only [result, called]

theorem atomic_panicked (p : EndpointPanic) (left : Finset EndpointId) :
    Atomic role attached ((.error p, left) : Outcome E UInt32 × Finset EndpointId) := by
  constructor <;> rintro _ ⟨⟩

theorem createEndpoint_atomic :
    Atomic role attached (createEndpoint role attached created preStart closeErrno) := by
  refine ⟨fun e failed => ?_, fun id added => ?_⟩
  · exact createEndpoint_undone (by rintro _ ⟨⟩) (Prod.ext failed rfl)
  · exact (createEndpoint_ok_iff.mp (Prod.ext added rfl)).2.2.2

/-- Adding a listener changes no dialers. -/
theorem addListenerToSocket_dialers {created : Created .Listener attached} (dialer : UInt32) :
    ⟨.Dialer, dialer⟩ ∈ (addListenerToSocket attached created preStart closeErrno startErrno).2 ↔
      ⟨.Dialer, dialer⟩ ∈ attached := by
  have other : (⟨.Dialer, dialer⟩ : EndpointId) ≠ ⟨.Listener, created.id⟩ := by
    rintro ⟨⟩
  unfold addListenerToSocket
  rcases begun : createEndpoint .Listener attached created preStart closeErrno with
    ⟨p | e | listener, attached'⟩
  · rw [createEndpoint_undone (by rintro _ ⟨⟩) begun]
  · rw [createEndpoint_undone (by rintro _ ⟨⟩) begun]
  · obtain ⟨-, -, rfl, rfl⟩ := createEndpoint_ok_iff.mp begun
    rcases (startListener startErrno : Outcome E Unit) with p | e | _ <;>
      exact Finset.mem_insert.trans (or_iff_right other)

/-- **Adding a dialer is atomic**, whatever the worker ends with. -/
theorem addDialerToSocket_atomic {created : Created .Dialer attached} {allocErrno : NngErr} :
    Atomic .Dialer attached
      (addDialerToSocket attached allocErrno created preStart closeErrno startErrno) := by
  unfold addDialerToSocket dialStart
  cases aioNew allocErrno with
  | error p => exact atomic_panicked _ _
  | ok _ =>
    have atomic : Atomic .Dialer attached
      (createEndpoint .Dialer attached created preStart closeErrno) := createEndpoint_atomic
    rcases begun : createEndpoint .Dialer attached created preStart closeErrno with
      ⟨p | e | dialer, attached'⟩
    · exact atomic_panicked _ _
    · rw [begun] at atomic
      exact atomic
    · obtain ⟨zero, -, rfl, rfl⟩ := createEndpoint_ok_iff.mp begun
      have undone := Finset.erase_insert (created.fresh zero)
      rcases (dialWorker startErrno : Outcome E Unit) with p | e | _ <;>
        simp only [dialFinish]
      · exact ⟨fun _ _ => undone, by rintro _ ⟨⟩⟩
      · exact ⟨fun _ _ => undone, by rintro _ ⟨⟩⟩
      · refine ⟨by rintro _ ⟨⟩, ?_⟩
        rintro id ⟨⟩
        rfl

/-- **Adding a listener is atomic, except where its start fails with an error.** -/
theorem addListenerToSocket_atomic_iff {created : Created .Listener attached} :
    Atomic .Listener attached
        (addListenerToSocket attached created preStart closeErrno startErrno) ↔
      ¬(created.errno = 0 ∧ preStart created.id = .ok () ∧
        (startErrno.toUInt32 = ErrorCode.EADDRINUSE.value ∨
          startErrno.toUInt32 = ErrorCode.EPERM.value)) := by
  have atomic : Atomic .Listener attached
    (createEndpoint .Listener attached created preStart closeErrno) := createEndpoint_atomic
  unfold addListenerToSocket
  rcases begun : createEndpoint .Listener attached created preStart closeErrno with
    ⟨p | e | listener, attached'⟩
  · refine iff_of_true (atomic_panicked _ _) fun reached => ?_
    cases begun.symm.trans (createEndpoint_ok_iff.mpr ⟨reached.1, reached.2.1, rfl, rfl⟩)
  · rw [begun] at atomic
    refine iff_of_true atomic fun reached => ?_
    cases begun.symm.trans (createEndpoint_ok_iff.mpr ⟨reached.1, reached.2.1, rfl, rfl⟩)
  · obtain ⟨zero, called, rfl, rfl⟩ := createEndpoint_ok_iff.mp begun
    have grown : insert ⟨.Listener, created.id⟩ attached ≠ attached :=
      fun same => created.fresh zero (Finset.insert_eq_self.mp same)
    rw [← startListener_error_iff (E := E)]
    rcases started : (startListener startErrno : Outcome E Unit) with p | e | _ <;> dsimp only
    · refine iff_of_true (atomic_panicked _ _) ?_
      rintro ⟨-, -, e, failed⟩
      cases failed
    · refine iff_of_false (fun atomic => grown (atomic.1 e rfl)) ?_
      exact not_not.mpr ⟨zero, called, e, rfl⟩
    · refine iff_of_true ⟨by rintro _ ⟨⟩, ?_⟩ ?_
      · rintro id ⟨⟩
        rfl
      · rintro ⟨-, -, e, failed⟩
        cases failed

end Adding

/-- **Adding an endpoint is atomic for every socket, callback and answer of the library**, except where
a listener was created and set up and its start fails with `EADDRINUSE` or `EPERM`: that listener is
never closed. -/
theorem adding_is_atomic_iff (attached : Finset EndpointId) (listener : Created .Listener attached)
    (dialer : Created .Dialer attached) (preStart : UInt32 → Except E Unit)
    (closeErrno startErrno : Int32) (allocErrno : NngErr) :
    (Atomic .Listener attached
        (addListenerToSocket attached listener preStart closeErrno startErrno) ↔
      ¬(listener.errno = 0 ∧ preStart listener.id = .ok () ∧
        (startErrno.toUInt32 = ErrorCode.EADDRINUSE.value ∨
          startErrno.toUInt32 = ErrorCode.EPERM.value))) ∧
      Atomic .Dialer attached
        (addDialerToSocket attached allocErrno dialer preStart closeErrno startErrno) :=
  ⟨addListenerToSocket_atomic_iff, addDialerToSocket_atomic⟩

end Calls

/-- **Adding a listener is not always atomic**: an address in use leaves the listener attached. -/
theorem failed_listener_stays :
    ¬∀ (attached : Finset EndpointId) (listener : Created .Listener attached)
        (preStart : UInt32 → Except Unit Unit) (closeErrno startErrno : Int32),
      Atomic .Listener attached
        (addListenerToSocket attached listener preStart closeErrno startErrno) := by
  intro always
  let listener : Created .Listener ∅ := ⟨0, 7, fun _ => Finset.notMem_empty _⟩
  have undone := (always ∅ listener (fun _ => .ok ()) 0 10).1
    (.aio .AddrInUse (.Operation (.NngError .EADDRINUSE))) rfl
  exact absurd undone (by decide)

end NngRs.Anng
