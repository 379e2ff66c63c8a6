/-
**The errors that `anng` builds, and their conversion to `io::Error`.**

`impl From<AioError> for io::Error` has three `unreachable!`: a timeout and a cancellation are variants
of `AioError` and never an `Operation`, and NNG never exposes `EINTR`. Nothing in the type says so. It
is a discipline of the places that build an `AioError`: `wait`, `try_recv_msg`, adding a listener or a
dialer, and the four functions that write to a message.

* `AioError.Normalised` — an error that keeps to it, and so is converted.
* `errorOf_normalised`, `recvmsgResult_normalised`, `addListenerToSocket_normalised`,
  `addDialerToSocket_normalised`, `msgResult_normalised` — every place builds only such errors.
* `Move.normalised`, `dialStep_normalised` — so does every step of a handle, and of the dials on a
  socket.
* `aioErrors_normalised` — every place, and every run.
-/

import NngRs.Anng.Buffer
import NngRs.Anng.Dial
import NngRs.Anng.Moves

namespace NngRs.Anng

open NngRs.Sys EventMachine

/-! ### Normalised errors -/

/-- **An error that the conversion expects**: a timeout and a cancellation are variants of their own,
and no `unreachable!` is reached. -/
structure AioError.Normalised (e : AioError) : Prop where
  timedOut : e ≠ .Operation (.NngError .ETIMEDOUT)
  cancelled : e ≠ .Operation (.NngError .ECANCELED)
  converts : ∃ kind, e.ioErrorKind = .ok kind

/-- The panics of `impl From<AioError> for io::Error`. -/
inductive EndpointPanic.OfConversion : EndpointPanic → Prop
  | handledInOuterVariant : OfConversion .handledInOuterVariant
  | neverExposed : OfConversion .neverExposed

/-- The three values that the conversion panics on. -/
theorem AioError.ioErrorKind_panic {e : AioError} {p : EndpointPanic}
    (panics : e.ioErrorKind = .error p) :
    e = .Operation (.NngError .ETIMEDOUT) ∨ e = .Operation (.NngError .ECANCELED) ∨
      e = .Operation (.NngError .EINTR) := by
  rcases e with _ | _ | code | _ | _ | _
  case Operation.NngError =>
    cases code
    case ETIMEDOUT => exact .inl rfl
    case ECANCELED => exact .inr (.inl rfl)
    case EINTR => exact .inr (.inr rfl)
    all_goals cases panics
  all_goals cases panics

theorem AioError.normalised_of_ne {e : AioError}
    (timedOut : e ≠ .Operation (.NngError .ETIMEDOUT))
    (cancelled : e ≠ .Operation (.NngError .ECANCELED))
    (exposed : e ≠ .Operation (.NngError .EINTR)) : e.Normalised := by
  refine ⟨timedOut, cancelled, ?_⟩
  cases converted : e.ioErrorKind with
  | ok kind => exact ⟨kind, rfl⟩
  | error p =>
    rcases AioError.ioErrorKind_panic converted with same | same | same
    · exact absurd same timedOut
    · exact absurd same cancelled
    · exact absurd same exposed

theorem AioError.normalised_timedOut : AioError.TimedOut.Normalised :=
  normalised_of_ne (by rintro ⟨⟩) (by rintro ⟨⟩) (by rintro ⟨⟩)

theorem AioError.normalised_cancelled : AioError.Cancelled.Normalised :=
  normalised_of_ne (by rintro ⟨⟩) (by rintro ⟨⟩) (by rintro ⟨⟩)

/-- A code that is neither a timeout nor a cancellation, and that NNG exposes. -/
def Ordinary (err : NngErr) : Prop :=
  err ≠ ErrorCode.ETIMEDOUT.value ∧ err ≠ ErrorCode.ECANCELED.value ∧ err ≠ ErrorCode.EINTR.value

instance (err : NngErr) : Decidable (Ordinary err) := inferInstanceAs (Decidable (_ ∧ _ ∧ _))

/-- **Decoding an ordinary code gives a normalised error**, whatever its markers. -/
theorem operation_normalised {err : NngErr} {kind : ErrorKind} (ordinary : Ordinary err)
    (decoded : ErrorKind.fromNngErr err = some kind) : (AioError.Operation kind).Normalised := by
  have other {code : ErrorCode} (differs : err ≠ code.value) :
      AioError.Operation kind ≠ .Operation (.NngError code) := by
    rintro ⟨⟩
    exact differs (ErrorKind.value_of_fromNngErr decoded).symm
  exact AioError.normalised_of_ne (other ordinary.1) (other ordinary.2.1) (other ordinary.2.2)

theorem operation_code_normalised {code : ErrorCode} (ordinary : Ordinary code.value) :
    (AioError.Operation (.NngError code)).Normalised :=
  operation_normalised ordinary (ErrorCode.fromNngErr_value code)

/-! ### `wait` and `try_recv_msg` -/

section Handles

variable {M : Type}

theorem errorOf_normalised {err : NngErr} {e : AioError} (exposed : err ≠ ErrorCode.EINTR.value)
    (built : Aio.errorOf err = some e) : e.Normalised := by
  unfold Aio.errorOf at built
  by_cases canceled : err = ErrorCode.ECANCELED.value
  · rw [if_pos canceled] at built
    cases built
    exact AioError.normalised_cancelled
  · rw [if_neg canceled] at built
    by_cases timedOut : err = ErrorCode.ETIMEDOUT.value
    · rw [if_pos timedOut] at built
      cases built
      exact AioError.normalised_timedOut
    · rw [if_neg timedOut] at built
      obtain ⟨kind, decoded, rfl⟩ := Option.map_eq_some_iff.mp built
      exact operation_normalised ⟨timedOut, canceled, exposed⟩ decoded

/-- What `wait` reports is what it makes of the result of the operation. -/
theorem waitResult_error {a a' : Aio M} {implication : ImplicationOnMessage} {e : AioError}
    (reported : a.waitResult implication = .ok (.error e, a')) :
    Aio.errorOf a.aio.result = some e := by
  unfold Aio.waitResult at reported
  by_cases busy : a.aio.busy = true
  · rw [if_pos busy] at reported
    cases reported
  · rw [if_neg busy] at reported
    by_cases ok : a.aio.result = NNG_OK
    · rw [if_pos ok] at reported
      cases implication <;> cases reported
    · rw [if_neg ok] at reported
      cases built : Aio.errorOf a.aio.result <;> rw [built] at reported <;> cases reported
      rfl

theorem recvmsgError_normalised {errno : UInt32} {e : AioError}
    (reported : recvmsgError (M := M) errno = .ok (.error e)) : e.Normalised := by
  unfold recvmsgError at reported
  repeat' split at reported
  all_goals cases reported
  · exact operation_code_normalised (by decide)
  · exact operation_code_normalised (by decide)
  · exact AioError.normalised_timedOut

theorem recvmsgResult_normalised {returned : Recvmsg M} {e : AioError}
    (reported : recvmsgResult returned = .ok (.error e)) : e.Normalised := by
  unfold recvmsgResult at reported
  by_cases negative : returned.errno < 0
  · rw [if_pos negative] at reported
    cases reported
  · rw [if_neg negative] at reported
    by_cases ok : returned.errno = 0
    · rw [if_pos ok] at reported
      cases slot : returned.msg <;> rw [slot] at reported <;> cases reported
    · rw [if_neg ok] at reported
      exact recvmsgError_normalised reported

end Handles

/-! ### Adding a listener or a dialer -/

section Endpoints

variable {E α : Type}

/-- What an `io::Error` was made from is normalised, and no conversion made the worker panic. -/
def IoError.Normalised : IoError E → Prop
  | .preStart _ => True
  | .aio kind e => e.Normalised ∧ e.ioErrorKind = .ok kind
  | .join p => ¬p.OfConversion

/-- A call ends without a panic of the conversion, and with a normalised error if any. -/
def NormalisedOutcome : Outcome E α → Prop
  | .error p => ¬p.OfConversion
  | .ok (.error e) => e.Normalised
  | .ok (.ok _) => True

theorem failWith_normalised {e : AioError} (normal : e.Normalised) :
    NormalisedOutcome (failWith e : Outcome E α) := by
  obtain ⟨kind, converted⟩ := normal.converts
  unfold failWith
  rw [converted]
  exact ⟨normal, converted⟩

theorem failWithCode_normalised {err : UInt32} (ordinary : Ordinary err) :
    NormalisedOutcome (failWithCode err : Outcome E α) := by
  unfold failWithCode
  cases decoded : ErrorKind.fromNngErr err with
  | none => rintro ⟨⟩
  | some kind => exact failWith_normalised (operation_normalised ordinary decoded)

/-- An arm of the match on an errno. -/
theorem normalised_ite {c : Prop} [Decidable c] {arm rest : Outcome E α}
    (here : c → NormalisedOutcome arm) (later : ¬c → NormalisedOutcome rest) :
    NormalisedOutcome (if c then arm else rest) := iteInduction here later

theorem matchErrno_normalised {errno : Int32} {ok : Outcome E α} {arms : UInt32 → Outcome E α}
    (zero : NormalisedOutcome ok) (other : ∀ err, NormalisedOutcome (arms err)) :
    NormalisedOutcome (matchErrno errno ok arms) := by
  unfold matchErrno
  split_ifs
  · rintro ⟨⟩
  · exact zero
  · exact other _

theorem createResult_normalised (role : Role) (errno : Int32) :
    NormalisedOutcome (createResult role errno : Outcome E Unit) := by
  refine matchErrno_normalised trivial fun err => ?_
  refine normalised_ite (fun _ => by rintro ⟨⟩) fun _ => ?_
  refine normalised_ite (fun known => ?_) fun _ => by rintro ⟨⟩
  refine failWithCode_normalised ?_
  rcases known with rfl | rfl | rfl | rfl <;> decide

theorem closeResult_normalised (role : Role) (errno : Int32) (e : E) :
    NormalisedOutcome (closeResult role errno e) := by
  refine matchErrno_normalised trivial fun err => ?_
  split_ifs <;> rintro ⟨⟩

theorem startListener_normalised (errno : Int32) :
    NormalisedOutcome (startListener errno : Outcome E Unit) := by
  refine matchErrno_normalised trivial fun err => ?_
  refine normalised_ite (fun _ => by rintro ⟨⟩) fun _ => ?_
  refine normalised_ite (fun _ => by rintro ⟨⟩) fun _ => ?_
  refine normalised_ite (fun _ => by rintro ⟨⟩) fun _ => ?_
  refine normalised_ite (fun known => ?_) fun _ => by rintro ⟨⟩
  refine failWithCode_normalised ?_
  rcases known with rfl | rfl <;> decide

theorem dialWorker_normalised (errno : Int32) :
    NormalisedOutcome (dialWorker errno : Outcome E Unit) := by
  have cancelled := failWith_normalised (E := E) (α := Unit) AioError.normalised_cancelled
  have timedOut := failWith_normalised (E := E) (α := Unit) AioError.normalised_timedOut
  have code (code : ErrorCode) (ordinary : Ordinary code.value) :=
    failWith_normalised (E := E) (α := Unit) (operation_code_normalised ordinary)
  refine matchErrno_normalised trivial fun err => ?_
  refine normalised_ite (fun _ => cancelled) fun _ => ?_
  refine normalised_ite (fun _ => code .ECLOSED (by decide)) fun _ => ?_
  refine normalised_ite (fun _ => code .ESTOPPED (by decide)) fun _ => ?_
  refine normalised_ite (fun _ => by rintro ⟨⟩) fun _ => ?_
  -- a temporary failure of name resolution is reported as another code
  refine normalised_ite (fun _ => code .EADDRINVAL (by decide)) fun _ => ?_
  refine normalised_ite (fun _ => by rintro ⟨⟩) fun _ => ?_
  refine normalised_ite (fun _ => timedOut) fun _ => ?_
  refine normalised_ite (fun known => ?_) fun _ => by rintro ⟨⟩
  refine failWithCode_normalised ?_
  rcases known with rfl | rfl | rfl | rfl | rfl | rfl | rfl | rfl | rfl | rfl <;> decide

variable {attached : Finset EndpointId} (preStart : UInt32 → Except E Unit)
  (closeErrno startErrno : Int32) (allocErrno : NngErr)

theorem createEndpoint_normalised {role : Role} (created : Created role attached) :
    NormalisedOutcome (createEndpoint role attached created preStart closeErrno).1 := by
  have result := createResult_normalised (E := E) role created.errno
  unfold createEndpoint
  rcases made : (createResult role created.errno : Outcome E Unit) with p | e | _
  · rw [made] at result
    exact result
  · rw [made] at result
    exact result
  · dsimp only
    cases preStart created.id with
    | error e => exact closeResult_normalised role closeErrno e
    | ok _ => trivial

theorem addListenerToSocket_normalised (listener : Created .Listener attached) :
    NormalisedOutcome
      (addListenerToSocket attached listener preStart closeErrno startErrno).1 := by
  have begun := createEndpoint_normalised preStart closeErrno listener
  have started := startListener_normalised (E := E) startErrno
  unfold addListenerToSocket
  rcases made : createEndpoint .Listener attached listener preStart closeErrno with
    ⟨p | e | id, left⟩
  · rw [made] at begun
    exact begun
  · rw [made] at begun
    exact begun
  · rcases result : (startListener startErrno : Outcome E Unit) with p | e | _
    · rw [result] at started
      exact started
    · rw [result] at started
      exact started
    · trivial

theorem dialStart_normalised (dialer : Created .Dialer attached) :
    NormalisedOutcome (dialStart attached allocErrno dialer preStart closeErrno).1 := by
  unfold dialStart
  cases aioNew allocErrno with
  | error p => rintro ⟨⟩
  | ok _ => exact createEndpoint_normalised preStart closeErrno dialer

/-- A panic of the worker reaches the caller as a `JoinError`. -/
theorem dialFinish_normalised {worker : Outcome E Unit} (normal : NormalisedOutcome worker)
    (dialer : UInt32) :
    NormalisedOutcome (.ok (dialFinish attached dialer worker).1 : Outcome E UInt32) := by
  rcases worker with p | e | _
  · exact normal
  · exact normal
  · trivial

theorem addDialerToSocket_normalised (dialer : Created .Dialer attached) :
    NormalisedOutcome
      (addDialerToSocket attached allocErrno dialer preStart closeErrno startErrno).1 := by
  have begun := dialStart_normalised preStart closeErrno allocErrno dialer
  unfold addDialerToSocket
  rcases made : dialStart attached allocErrno dialer preStart closeErrno with ⟨p | e | id, left⟩
  · rw [made] at begun
    exact begun
  · rw [made] at begun
    exact begun
  · exact dialFinish_normalised (dialWorker_normalised startErrno) id

end Endpoints

/-! ### Writing to a message -/

section Writing

/-- The library's functions that add bytes to a message. -/
inductive MsgCall
  | nng_msg_append
  | nng_msg_insert
  | nng_msg_header_append
  | nng_msg_header_insert
deriving DecidableEq, Repr

/-- Where writing to a message panics. -/
inductive WritePanic
  /-- A panic of `Message::reserve`. -/
  | reserve (panic : BufferPanic)
  /-- "errno is never negative" -/
  | negativeErrno
  /-- "nng_msg_append documentation claims errno {errno} is never returned", and the same of the
  others. -/
  | undocumented (call : MsgCall) (errno : UInt32)
  /-- A panic of the conversion to `io::Error`. -/
  | conversion (panic : EndpointPanic)
deriving DecidableEq, Repr

/-- How writing to a message ends. No callback takes part. -/
abbrev WriteOutcome := Except WritePanic (Except (IoError Empty) Nat)

/-- The match on the errno that follows the call. -/
def msgResult (call : MsgCall) (buf : List UInt8) (errno : Int32) : WriteOutcome :=
  if errno < 0 then .error .negativeErrno
  else if errno = 0 then .ok (.ok buf.length)
  else if errno.toUInt32 = ErrorCode.ENOMEM.value then
    match (AioError.Operation (.NngError .ENOMEM)).ioErrorKind with
    | .error p => .error (.conversion p)
    | .ok kind => .ok (.error (.aio kind (.Operation (.NngError .ENOMEM))))
  else .error (.undocumented call errno.toUInt32)

/-- `io::Write::write`, by what `reserve` ends with. -/
def writeResult (reserved : Except BufferPanic Unit) (buf : List UInt8) (errno : Int32) :
    WriteOutcome :=
  match reserved with
  | .error p => .error (.reserve p)
  | .ok () => msgResult .nng_msg_append buf errno

/-- `Message::prepend`. -/
def prependResult (buf : List UInt8) (errno : Int32) : WriteOutcome :=
  msgResult .nng_msg_insert buf errno

/-- `Message::write_header`. -/
def writeHeaderResult (buf : List UInt8) (errno : Int32) : WriteOutcome :=
  msgResult .nng_msg_header_append buf errno

/-- `Message::prepend_header`. -/
def prependHeaderResult (buf : List UInt8) (errno : Int32) : WriteOutcome :=
  msgResult .nng_msg_header_insert buf errno

/-- A write ends without a panic of the conversion, and with a normalised error if any. -/
def NormalisedWrite : WriteOutcome → Prop
  | .error (.conversion _) => False
  | .error _ => True
  | .ok (.error e) => e.Normalised
  | .ok (.ok _) => True

theorem msgResult_normalised (call : MsgCall) (buf : List UInt8) (errno : Int32) :
    NormalisedWrite (msgResult call buf errno) := by
  unfold msgResult
  split_ifs
  · trivial
  · trivial
  · exact ⟨operation_code_normalised (by decide), rfl⟩
  · trivial

theorem writeResult_normalised (reserved : Except BufferPanic Unit) (buf : List UInt8)
    (errno : Int32) : NormalisedWrite (writeResult reserved buf errno) := by
  cases reserved with
  | error p => trivial
  | ok _ => exact msgResult_normalised .nng_msg_append buf errno

end Writing

/-! ### The runs of a handle -/

section Runs

variable {M : Type} {h : Handle} {s s' : State M}

/-- An error that a call of a handle returned is normalised. -/
def Event.Normalised : Event M → Prop
  | .sendReturned (.error (e, _)) => e.Normalised
  | .recvReturned (.error e) => e.Normalised
  | .tryRecvReturned (.error e) => e.Normalised
  | _ => True

/-- The code an operation fails with. -/
def Action.failure : Action M → Option NngErr
  | .complete (.failed err) => some err.val
  | _ => none

/-- NNG does not expose `EINTR` as the result of an operation. -/
def HidesEintr (a : Action M) : Prop := a.failure ≠ some ErrorCode.EINTR.value

instance (a : Action M) : Decidable (HidesEintr a) := inferInstanceAs (Decidable (_ ≠ _))

/-- **Every step of a handle returns normalised errors only.** -/
theorem Move.normalised {a : Action M} {out : List (Event M)} (move : Move h s a s' out)
    (hides : HidesEintr a) (result : s.endpoint.aio.aio.result ≠ ErrorCode.EINTR.value) :
    s'.endpoint.aio.aio.result ≠ ErrorCode.EINTR.value ∧ ∀ event ∈ out, event.Normalised := by
  have fine : NNG_OK ≠ ErrorCode.EINTR.value := by decide
  cases move with
  | tryRefused returned outcome _ _ _ answer =>
    refine ⟨result, List.forall_mem_cons.mpr ⟨trivial, List.forall_mem_singleton.mpr ?_⟩⟩
    cases outcome with
    | error e => exact recvmsgResult_normalised answer
    | ok _ => trivial
  | sendFailed msg e _ _ _ _ built =>
    exact ⟨result, List.forall_mem_singleton.mpr (errorOf_normalised result built)⟩
  | recvFailed e _ _ _ _ built =>
    exact ⟨result, List.forall_mem_singleton.mpr (errorOf_normalised result built)⟩
  | completeSent | completeReceived => exact ⟨fine, List.forall_mem_singleton.mpr trivial⟩
  | completeFailed _ _ err =>
    exact ⟨fun same => hides (congrArg some same), List.forall_mem_nil _⟩
  | close =>
    refine ⟨result, ?_⟩
    cases s.endpoint.recoveredMsg with
    | none => exact List.forall_mem_nil _
    | some msg => exact List.forall_mem_singleton.mpr trivial
  | _ =>
    refine ⟨result, ?_⟩
    simp only [List.forall_mem_cons, List.not_mem_nil, Event.Normalised, false_implies,
      implies_true, and_self]

/-- Every run of a handle returns normalised errors only. -/
theorem handle_normalised {steps : List (Transition (State M) (Action M) (Event M))}
    (run : (machine M h).Run steps s) (hides : ∀ t ∈ steps, HidesEintr t.act) :
    ∀ event ∈ events steps, event.Normalised := by
  refine (run.invariant_of (fun t => HidesEintr t.act)
    (I := fun history s => Sound s ∧ s.endpoint.aio.aio.result ≠ ErrorCode.EINTR.value ∧
      ∀ event ∈ history, event.Normalised) ?_ ?_ hides).2.2
  · refine ⟨sound_start h, ?_, List.forall_mem_nil _⟩
    show NNG_OK ≠ ErrorCode.EINTR.value
    decide
  · rintro history s a s' out ⟨sound, result, earlier⟩ stepped hides
    have move := (step_move sound stepped).2
    obtain ⟨result', shown⟩ := move.normalised hides result
    exact ⟨move.sound sound, result', List.forall_mem_append.mpr ⟨earlier, shown⟩⟩

end Runs

/-! ### The runs of the dials on a socket -/

section Dials

variable {E : Type} {s s' : DialSocket E} {out : List (DialEvent E)}

/-- What the workers ended with, those included that nobody waits for. -/
def NormalisedWorkers (s : DialSocket E) : Prop :=
  ∀ call ∈ s.calls, ∀ outcome, call.worker = some outcome → NormalisedOutcome outcome

theorem NormalisedWorkers.put {k : Nat} {call : DialCall E} (workers : NormalisedWorkers s)
    (ended : ∀ outcome, call.worker = some outcome → NormalisedOutcome outcome) :
    NormalisedWorkers (s.put k call) := forall_mem_set workers ended

/-- **Every step of the dials on a socket reports normalised errors only.** -/
theorem dialStep_normalised {a : DialAction E} (workers : NormalisedWorkers s)
    (stepped : dialStep s a = some (s', out)) :
    NormalisedWorkers s' ∧ ∀ event ∈ out, NormalisedOutcome event.result := by
  cases a with
  | dial allocErrno createErrno id preStart closeErrno =>
    simp only [dialStep, dialCall] at stepped
    split_ifs at stepped with _ fresh
    have result := dialStart_normalised (fun _ => preStart) closeErrno allocErrno
      ⟨createErrno, id, fresh⟩
    rcases begun : dialStart s.attached allocErrno ⟨createErrno, id, fresh⟩ (fun _ => preStart)
      closeErrno with ⟨p | e | dialer, attached⟩ <;> rw [begun] at result <;>
      simp only [begun] at stepped <;> cases stepped
    · exact ⟨workers, List.forall_mem_singleton.mpr result⟩
    · exact ⟨workers, List.forall_mem_singleton.mpr result⟩
    · refine ⟨fun call member => ?_, List.forall_mem_nil _⟩
      rcases List.mem_append.mp member with old | new
      · exact workers call old
      · cases List.mem_singleton.mp new
        rintro _ ⟨⟩
  | listen createErrno id preStart closeErrno startErrno =>
    simp only [dialStep, listenCall] at stepped
    split_ifs at stepped with _ fresh
    cases stepped
    exact ⟨workers,
      List.forall_mem_singleton.mpr (addListenerToSocket_normalised _ closeErrno startErrno _)⟩
  | worker k errno =>
    simp only [dialStep] at stepped
    cases found : s.calls[k]? with
    | none =>
      rw [found] at stepped
      cases stepped
    | some call =>
      simp only [found] at stepped
      split_ifs at stepped
      cases stepped
      refine ⟨workers.put ?_, List.forall_mem_nil _⟩
      rintro outcome ⟨⟩
      exact dialWorker_normalised errno
  | resume k =>
    simp only [dialStep] at stepped
    rcases found : s.calls[k]? with _ | ⟨dialer, _ | _ | _, _ | outcome, before⟩ <;>
      simp only [found] at stepped <;> cases stepped
    have ended := workers _ (List.mem_of_getElem? found) outcome rfl
    refine ⟨NormalisedWorkers.put (s := s) workers ?_,
      List.forall_mem_singleton.mpr (dialFinish_normalised ended dialer)⟩
    rintro _ ⟨⟩
    exact ended
  | drop k =>
    simp only [dialStep] at stepped
    rcases found : s.calls[k]? with _ | ⟨dialer, _ | _ | _, worker, before⟩ <;>
      simp only [found] at stepped <;> cases stepped
    have ended := workers _ (List.mem_of_getElem? found)
    exact ⟨workers.put ended, List.forall_mem_nil _⟩
  | close =>
    simp only [dialStep] at stepped
    split_ifs at stepped
    cases stepped
    exact ⟨workers, List.forall_mem_nil _⟩

/-- Every run of the dials on a socket reports normalised errors only, and so does every worker. -/
theorem dials_normalised {attached : Finset EndpointId}
    {steps : List (Transition (DialSocket E) (DialAction E) (DialEvent E))}
    (run : (dialing E attached).Run steps s) :
    NormalisedWorkers s ∧ ∀ event ∈ events steps, NormalisedOutcome event.result := by
  refine run.invariant
    (I := fun history s => NormalisedWorkers s ∧ ∀ event ∈ history, NormalisedOutcome event.result)
    ⟨fun call member => ?_, List.forall_mem_nil _⟩ ?_
  · cases member
  · rintro history s a s' out ⟨workers, earlier⟩ stepped
    obtain ⟨workers', shown⟩ := dialStep_normalised workers stepped
    exact ⟨workers', List.forall_mem_append.mpr ⟨earlier, shown⟩⟩

end Dials

/-! ### All of them -/

/-- **Every `AioError` is normalised**: for every code but `EINTR`, wherever one is built, and so in
every run of a handle and of the dials on a socket. No conversion to `io::Error` panics. -/
theorem aioErrors_normalised (M E : Type) :
    (∀ (aio aio' : Aio M) (implication : ImplicationOnMessage) (e : AioError),
        aio.aio.result ≠ ErrorCode.EINTR.value →
        aio.waitResult implication = .ok (.error e, aio') → e.Normalised)
      ∧ (∀ (returned : Recvmsg M) (e : AioError),
        recvmsgResult returned = .ok (.error e) → e.Normalised)
      ∧ (∀ (attached : Finset EndpointId) (listener : Created .Listener attached)
        (dialer : Created .Dialer attached) (preStart : UInt32 → Except E Unit)
        (closeErrno startErrno : Int32) (allocErrno : NngErr),
        NormalisedOutcome (addListenerToSocket attached listener preStart closeErrno startErrno).1
          ∧ NormalisedOutcome
            (addDialerToSocket attached allocErrno dialer preStart closeErrno startErrno).1)
      ∧ (∀ (reserved : Except BufferPanic Unit) (buf : List UInt8) (errno : Int32),
        NormalisedWrite (writeResult reserved buf errno)
          ∧ NormalisedWrite (prependResult buf errno)
          ∧ NormalisedWrite (writeHeaderResult buf errno)
          ∧ NormalisedWrite (prependHeaderResult buf errno))
      ∧ (∀ (h : Handle) (steps : List (Transition (State M) (Action M) (Event M))) (s : State M),
        (machine M h).Run steps s → (∀ t ∈ steps, HidesEintr t.act) →
        ∀ event ∈ events steps, event.Normalised)
      ∧ ∀ (attached : Finset EndpointId)
        (steps : List (Transition (DialSocket E) (DialAction E) (DialEvent E))) (s : DialSocket E),
        (dialing E attached).Run steps s →
        NormalisedWorkers s ∧ ∀ event ∈ events steps, NormalisedOutcome event.result := by
  refine ⟨?_, ?_, ?_, ?_, ?_, ?_⟩
  · intro aio aio' implication e exposed reported
    exact errorOf_normalised exposed (waitResult_error reported)
  · intro returned e reported
    exact recvmsgResult_normalised reported
  · intro attached listener dialer preStart closeErrno startErrno allocErrno
    exact ⟨addListenerToSocket_normalised preStart closeErrno startErrno listener,
      addDialerToSocket_normalised preStart closeErrno startErrno allocErrno dialer⟩
  · intro reserved buf errno
    exact ⟨writeResult_normalised reserved buf errno, msgResult_normalised _ buf errno,
      msgResult_normalised _ buf errno, msgResult_normalised _ buf errno⟩
  · intro h steps s run hides
    exact handle_normalised run hides
  · intro attached steps s run
    exact dials_normalised run

/-- A receive that times out in the library, and a dial that does. -/
theorem aioErrors_normalised_timeout :
    (∃ (steps : List (Transition (State Nat) (Action Nat) (Event Nat))) (s : State Nat),
      (machine Nat .Context).Run steps s ∧ .recvReturned (.error .TimedOut) ∈ events steps ∧
        ∀ event ∈ events steps, event.Normalised) ∧
      ∃ (steps : List (Transition (DialSocket Unit) (DialAction Unit) (DialEvent Unit)))
        (s : DialSocket Unit),
        (dialing Unit ∅).Run steps s ∧
          ⟨.Dialer, .ok (.error (.aio .TimedOut .TimedOut))⟩ ∈ events steps ∧
          ∀ event ∈ events steps, NormalisedOutcome event.result := by
  have normal := aioErrors_normalised Nat Unit
  have receive := run_of_replay (M := machine Nat .Context)
    [.recvMsg, .poll, .complete (.failed ⟨5, by decide⟩), .callback, .callbackReturn, .run, .run] rfl
  have dial := run_of_replay (M := dialing Unit ∅)
    [.dial NNG_OK 0 2 (.ok ()) 0, .worker 0 5, .resume 0] rfl
  exact ⟨⟨_, _, receive, by decide, normal.2.2.2.2.1 _ _ _ receive (by decide)⟩,
    ⟨_, _, dial, List.mem_cons_self .., (normal.2.2.2.2.2 _ _ _ dial).2⟩⟩

end NngRs.Anng
