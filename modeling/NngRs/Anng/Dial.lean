/-
**Dialing, with futures that are dropped.**

Several dials may be under way on one socket, since a dial only borrows it. Each is a future and a
worker on a blocking thread. Dropping the future detaches the worker, which goes on to the end of
`nng_dialer_start`; what closes the dialer after a failure comes after the await, in the future.

* `Dialing` — the invariant: every dial that has not returned has its own dialer attached, one that
  was not there before.
* `cancelled_dial_stays` — so a dropped dial leaves its dialer behind in every run, whatever its
  worker ends with, for as long as the socket is open.
-/

import NngRs.Anng.Attach
import NngRs.Machine.Run

namespace NngRs.Anng

open NngRs.Sys EventMachine

/-- Where the future of a dial is, from the spawn of its worker on. -/
inductive DialFuture
  | awaiting
  | dropped
  | returned
deriving DecidableEq, Repr

/-- A dial. -/
structure DialCall (E : Type) where
  dialer : UInt32
  future : DialFuture
  /-- What the worker ended with, if it has. -/
  worker : Option (Outcome E Unit)
  /-- What was attached before the call; nothing reads it. -/
  before : Finset EndpointId

/-- A socket: what is attached to it, and the dials that came as far as their worker. -/
structure DialSocket (E : Type) where
  attached : Finset EndpointId
  calls : List (DialCall E)
  closed : Bool

inductive DialAction (E : Type)
  /-- Poll a dial for the first time; with what `Aio::new`, the create, the callback and, if it
  fails, the close answer. -/
  | dial (allocErrno : NngErr) (createErrno : Int32) (id : UInt32) (preStart : Except E Unit)
    (closeErrno : Int32)
  /-- Add a listener; with what the create, the callback, the close and the start answer. -/
  | listen (createErrno : Int32) (id : UInt32) (preStart : Except E Unit)
    (closeErrno startErrno : Int32)
  /-- `nng_dialer_start` returns in the worker of a dial. -/
  | worker (call : Nat) (errno : Int32)
  /-- Poll a dial whose worker has ended. -/
  | resume (call : Nat)
  /-- Drop the future of a dial. -/
  | drop (call : Nat)
  /-- Drop the `Socket`. -/
  | close

/-- What a call to add an endpoint ends with. -/
structure DialEvent (E : Type) where
  role : Role
  result : Outcome E UInt32

section Steps

variable {E : Type}

/-- A dial up to its worker. The library creates endpoints that are not there yet. -/
def dialCall (s : DialSocket E) (allocErrno : NngErr) (createErrno : Int32) (id : UInt32)
    (preStart : Except E Unit) (closeErrno : Int32) : Option (DialSocket E × List (DialEvent E)) :=
  if fresh : createErrno = 0 → ⟨.Dialer, id⟩ ∉ s.attached then
    match dialStart s.attached allocErrno ⟨createErrno, id, fresh⟩ (fun _ => preStart) closeErrno with
    | (.ok (.ok dialer), attached) =>
      some ({ s with attached, calls := s.calls ++ [⟨dialer, .awaiting, none, s.attached⟩] }, [])
    | (result, attached) => some ({ s with attached }, [⟨.Dialer, result⟩])
  else none

/-- Adding a listener. -/
def listenCall (s : DialSocket E) (createErrno : Int32) (id : UInt32) (preStart : Except E Unit)
    (closeErrno startErrno : Int32) : Option (DialSocket E × List (DialEvent E)) :=
  if fresh : createErrno = 0 → ⟨.Listener, id⟩ ∉ s.attached then
    let (result, attached) := addListenerToSocket s.attached ⟨createErrno, id, fresh⟩
      (fun _ => preStart) closeErrno startErrno
    some ({ s with attached }, [⟨.Listener, result⟩])
  else none

/-- The socket with one of its dials changed. -/
def DialSocket.put (s : DialSocket E) (k : Nat) (call : DialCall E) : DialSocket E :=
  { s with calls := s.calls.set k call }

/-- One step. A worker goes on after the socket is closed; nobody can call any more. -/
def dialStep (s : DialSocket E) : DialAction E → Option (DialSocket E × List (DialEvent E))
  | .dial allocErrno createErrno id preStart closeErrno =>
    if s.closed then none else dialCall s allocErrno createErrno id preStart closeErrno
  | .listen createErrno id preStart closeErrno startErrno =>
    if s.closed then none else listenCall s createErrno id preStart closeErrno startErrno
  | .worker k errno =>
    match s.calls[k]? with
    | some call =>
      if call.worker.isNone then some (s.put k { call with worker := some (dialWorker errno) }, [])
      else none
    | none => none
  | .resume k =>
    match s.calls[k]? with
    | some ⟨dialer, .awaiting, some outcome, before⟩ =>
      let (result, attached) := dialFinish s.attached dialer outcome
      some ({ s.put k ⟨dialer, .returned, some outcome, before⟩ with attached },
        [⟨.Dialer, .ok result⟩])
    | _ => none
  | .drop k =>
    match s.calls[k]? with
    | some ⟨dialer, .awaiting, worker, before⟩ => some (s.put k ⟨dialer, .dropped, worker, before⟩, [])
    | _ => none
  | .close =>
    -- an awaited dial borrows the socket
    if s.closed ∨ ∃ call ∈ s.calls, call.future = .awaiting then none
    else some ({ s with attached := ∅, closed := true }, [])

end Steps

/-- A socket with endpoints attached, on which nobody dials yet. -/
def dialing (E : Type) (attached : Finset EndpointId) :
    EventMachine (DialSocket E) (DialAction E) (DialEvent E) where
  start := ⟨attached, [], false⟩
  step := dialStep

/-! ### The invariant -/

section Invariant

variable {E : Type} {s s' : DialSocket E} {out : List (DialEvent E)}

/-- **Every dial that has not returned has a dialer of its own attached**, which was not there before
the call. -/
structure Dialing (s : DialSocket E) : Prop where
  attached : s.closed = false → ∀ (k : Nat) (call : DialCall E), s.calls[k]? = some call →
    call.future ≠ .returned → ⟨.Dialer, call.dialer⟩ ∈ s.attached
  fresh : ∀ (k : Nat) (call : DialCall E), s.calls[k]? = some call →
    ⟨.Dialer, call.dialer⟩ ∉ call.before
  own : s.closed = false → ∀ (j k : Nat) (c d : DialCall E), s.calls[j]? = some c →
    s.calls[k]? = some d → c.future ≠ .returned → d.future ≠ .returned → c.dialer = d.dialer → j = k

theorem dialing_start (attached : Finset EndpointId) : Dialing (dialing E attached).start := by
  refine ⟨fun _ _ _ found => ?_, fun _ _ found => ?_, fun _ _ _ _ _ found => ?_⟩ <;> cases found

/-- A step that keeps the calls, and the dialers that are attached. -/
theorem Dialing.congr (sound : Dialing s) (calls : s'.calls = s.calls)
    (live : s'.closed = false → s.closed = false)
    (kept : s'.closed = false → ∀ dialer, ⟨.Dialer, dialer⟩ ∈ s.attached →
      ⟨.Dialer, dialer⟩ ∈ s'.attached) : Dialing s' := by
  refine ⟨fun opened k call found unreturned => ?_, fun k call found => ?_,
    fun opened j k c d first second => ?_⟩
  · rw [calls] at found
    exact kept opened _ (sound.attached (live opened) k call found unreturned)
  · rw [calls] at found
    exact sound.fresh k call found
  · rw [calls] at first second
    exact sound.own (live opened) j k c d first second

/-- A new dial, whose dialer was not attached. -/
theorem Dialing.begin (sound : Dialing s) (opened : s.closed = false) {dialer : UInt32}
    (fresh : ⟨.Dialer, dialer⟩ ∉ s.attached) :
    Dialing { s with
      attached := insert ⟨.Dialer, dialer⟩ s.attached
      calls := s.calls ++ [⟨dialer, .awaiting, none, s.attached⟩] } := by
  have cases {k : Nat} {call : DialCall E}
      (found : (s.calls ++ [⟨dialer, .awaiting, none, s.attached⟩])[k]? = some call) :
      s.calls[k]? = some call ∨
        (k = s.calls.length ∧ call = ⟨dialer, .awaiting, none, s.attached⟩) :=
    (getElem?_concat_cases found).symm.imp And.right id
  -- a dialer that is attached already is another one
  have differs {k : Nat} {call : DialCall E} (found : s.calls[k]? = some call)
      (unreturned : call.future ≠ .returned) : call.dialer ≠ dialer := by
    rintro rfl
    exact fresh (sound.attached opened k call found unreturned)
  refine ⟨fun _ k call found unreturned => ?_, fun k call found => ?_,
    fun _ j k c d first second cLive dLive same => ?_⟩
  · rcases cases found with old | ⟨-, rfl⟩
    · exact Finset.mem_insert_of_mem (sound.attached opened k call old unreturned)
    · exact Finset.mem_insert_self _ _
  · rcases cases found with old | ⟨-, rfl⟩
    · exact sound.fresh k call old
    · exact fresh
  · rcases cases first with old | ⟨rfl, rfl⟩ <;> rcases cases second with old' | ⟨rfl, rfl⟩
    · exact sound.own opened j k c d old old' cLive dLive same
    · exact absurd same (differs old cLive)
    · exact absurd same.symm (differs old' dLive)
    · rfl

/-- What a change of one call leaves of the list. -/
theorem get_put {k j : Nat} {call call' c : DialCall E} (found : s.calls[k]? = some call)
    (after : (s.put k call').calls[j]? = some c) :
    (j = k ∧ c = call') ∨ (j ≠ k ∧ s.calls[j]? = some c) := by
  unfold DialSocket.put at after
  exact getElem?_set_cases found after

/-- A dial goes on, and what its return closes is its own dialer. -/
theorem Dialing.put (sound : Dialing s) {k : Nat} {call : DialCall E} (call' : DialCall E)
    (found : s.calls[k]? = some call) (dialer : call'.dialer = call.dialer)
    (before : call'.before = call.before)
    (unreturned : call'.future ≠ .returned → call.future ≠ .returned) (attached : Finset EndpointId)
    (kept : attached = s.attached ∨ (call.future ≠ .returned ∧ call'.future = .returned ∧
      attached = s.attached.erase ⟨.Dialer, call.dialer⟩)) :
    Dialing { s.put k call' with attached } := by
  have old (j : Nat) (c : DialCall E) (after : (s.put k call').calls[j]? = some c) :
      ∃ c', s.calls[j]? = some c' ∧ c.dialer = c'.dialer ∧ c.before = c'.before ∧
        (c.future ≠ .returned → c'.future ≠ .returned) := by
    rcases get_put found after with ⟨rfl, rfl⟩ | ⟨-, same⟩
    · exact ⟨call, found, dialer, before, unreturned⟩
    · exact ⟨c, same, rfl, rfl, id⟩
  refine ⟨fun opened j c after live => ?_, fun j c after => ?_,
    fun opened i j c d first second cLive dLive same => ?_⟩
  · obtain ⟨c', held, dialer', -, live'⟩ := old j c after
    have here := sound.attached opened j c' held (live' live)
    rw [dialer']
    rcases kept with rfl | ⟨callLive, ended, rfl⟩
    · exact here
    · refine Finset.mem_erase.mpr ⟨fun same => ?_, here⟩
      have own := sound.own opened j k c' call held found (live' live) callLive
        (congrArg EndpointId.id same)
      rcases get_put found after with ⟨-, rfl⟩ | ⟨other, -⟩
      · exact live ended
      · exact other own
  · obtain ⟨c', held, dialer', before', -⟩ := old j c after
    rw [dialer', before']
    exact sound.fresh j c' held
  · obtain ⟨c', heldC, dialerC, -, liveC⟩ := old i c first
    obtain ⟨d', heldD, dialerD, -, liveD⟩ := old j d second
    exact sound.own opened i j c' d' heldC heldD (liveC cLive) (liveD dLive)
      (dialerC.symm.trans (same.trans dialerD))

theorem dialFinish_attached {attached : Finset EndpointId} {dialer : UInt32}
    {worker : Outcome E Unit} :
    (dialFinish attached dialer worker).2 = attached ∨
      (dialFinish attached dialer worker).2 = attached.erase ⟨.Dialer, dialer⟩ := by
  rcases worker with p | e | _
  · exact .inr rfl
  · exact .inr rfl
  · exact .inl rfl

theorem dialStart_ok {attached attached' : Finset EndpointId} {allocErrno : NngErr}
    {created : Created .Dialer attached} {preStart : UInt32 → Except E Unit} {closeErrno : Int32}
    {dialer : UInt32}
    (begun : dialStart attached allocErrno created preStart closeErrno =
      (.ok (.ok dialer), attached')) :
    ⟨.Dialer, dialer⟩ ∉ attached ∧ attached' = insert ⟨.Dialer, dialer⟩ attached := by
  unfold dialStart at begun
  cases allocated : aioNew allocErrno with
  | error p =>
    rw [allocated] at begun
    cases begun
  | ok _ =>
    rw [allocated] at begun
    obtain ⟨zero, -, rfl, rfl⟩ := createEndpoint_ok_iff.mp begun
    exact ⟨created.fresh zero, rfl⟩

theorem dialStart_undone {attached attached' : Finset EndpointId} {allocErrno : NngErr}
    {created : Created .Dialer attached} {preStart : UInt32 → Except E Unit} {closeErrno : Int32}
    {result : Outcome E UInt32} (refused : ∀ id, result ≠ .ok (.ok id))
    (begun : dialStart attached allocErrno created preStart closeErrno = (result, attached')) :
    attached' = attached := by
  unfold dialStart at begun
  cases allocated : aioNew allocErrno with
  | error p =>
    rw [allocated] at begun
    exact (congrArg Prod.snd begun).symm
  | ok _ =>
    rw [allocated] at begun
    exact createEndpoint_undone refused begun

theorem Dialing.dialCall {allocErrno : NngErr} {createErrno : Int32} {id : UInt32}
    {preStart : Except E Unit} {closeErrno : Int32} (sound : Dialing s) (opened : s.closed = false)
    (called : dialCall s allocErrno createErrno id preStart closeErrno = some (s', out)) :
    Dialing s' := by
  unfold Anng.dialCall at called
  split_ifs at called with fresh
  rcases begun : dialStart s.attached allocErrno ⟨createErrno, id, fresh⟩ (fun _ => preStart)
    closeErrno with ⟨p | e | dialer, attached⟩ <;> simp only [begun] at called <;> cases called
  · obtain rfl := dialStart_undone (by rintro _ ⟨⟩) begun
    exact sound
  · obtain rfl := dialStart_undone (by rintro _ ⟨⟩) begun
    exact sound
  · obtain ⟨new, rfl⟩ := dialStart_ok begun
    exact sound.begin opened new

theorem Dialing.resume {dialer : UInt32} {outcome : Outcome E Unit} {before : Finset EndpointId}
    {k : Nat} (sound : Dialing s)
    (found : s.calls[k]? = some ⟨dialer, .awaiting, some outcome, before⟩) :
    Dialing { s.put k ⟨dialer, .returned, some outcome, before⟩ with
      attached := (dialFinish s.attached dialer outcome).2 } := by
  refine sound.put ⟨dialer, .returned, some outcome, before⟩ found rfl rfl
    (fun live => (live rfl).elim) _ ?_
  refine dialFinish_attached.imp id fun erased => ⟨?_, rfl, erased⟩
  rintro ⟨⟩

/-- **Every step keeps the invariant.** -/
theorem Dialing.step {a : DialAction E} (sound : Dialing s)
    (stepped : dialStep s a = some (s', out)) : Dialing s' := by
  cases a with
  | dial allocErrno createErrno id preStart closeErrno =>
    simp only [dialStep] at stepped
    split_ifs at stepped with closed
    exact sound.dialCall (Bool.eq_false_of_not_eq_true closed) stepped
  | listen createErrno endpoint preStart closeErrno startErrno =>
    simp only [dialStep, listenCall] at stepped
    split_ifs at stepped
    cases stepped
    exact sound.congr rfl id fun _ dialer => (addListenerToSocket_dialers dialer).mpr
  | worker k errno =>
    simp only [dialStep] at stepped
    cases found : s.calls[k]? with
    | none =>
      rw [found] at stepped
      cases stepped
    | some call =>
      simp only [found] at stepped
      split_ifs at stepped
      cases stepped
      exact sound.put { call with worker := some (dialWorker errno) } found rfl rfl id _ (.inl rfl)
  | resume k =>
    simp only [dialStep] at stepped
    rcases found : s.calls[k]? with _ | ⟨dialer, _ | _ | _, _ | outcome, before⟩ <;>
      simp only [found] at stepped <;> cases stepped
    exact sound.resume found
  | drop k =>
    simp only [dialStep] at stepped
    rcases found : s.calls[k]? with _ | ⟨dialer, _ | _ | _, worker, before⟩ <;>
      simp only [found] at stepped <;> cases stepped
    exact sound.put ⟨dialer, .dropped, worker, before⟩ found rfl rfl (fun _ => by rintro ⟨⟩) _
      (.inl rfl)
  | close =>
    simp only [dialStep] at stepped
    split_ifs at stepped
    cases stepped
    exact sound.congr rfl (fun opened => by cases opened) fun opened => by cases opened

end Invariant

/-! ### Dropped dials -/

/-- The dialers among what is attached. -/
def dialers (attached : Finset EndpointId) : Finset EndpointId := attached.filter (·.role = .Dialer)

theorem dialing_of_reachable {E : Type} {attached : Finset EndpointId} {s : DialSocket E}
    (reached : (dialing E attached).Reachable s) : Dialing s :=
  reached.invariant (dialing_start attached) fun _ _ _ _ sound stepped => sound.step stepped

/-- **A dropped dial leaves its dialer behind**: in every run, whether its worker has ended or not and
whatever it ended with, the dialer is still attached to the open socket, and the dialers of the
socket are not those from before the call. -/
theorem cancelled_dial_stays {E : Type} {attached : Finset EndpointId} {s : DialSocket E}
    {steps : List (Transition (DialSocket E) (DialAction E) (DialEvent E))}
    (run : (dialing E attached).Run steps s) (opened : s.closed = false) {call : DialCall E}
    (member : call ∈ s.calls) (cancelled : call.future = .dropped) :
    ⟨.Dialer, call.dialer⟩ ∈ s.attached ∧ dialers s.attached ≠ dialers call.before := by
  have sound := dialing_of_reachable ⟨steps, run⟩
  obtain ⟨k, found⟩ := List.mem_iff_getElem?.mp member
  have unreturned : call.future ≠ .returned := by
    rw [cancelled]
    decide
  have still := sound.attached opened k call found unreturned
  refine ⟨still, fun same => sound.fresh k call found ?_⟩
  have kept : ⟨.Dialer, call.dialer⟩ ∈ dialers s.attached := Finset.mem_filter.mpr ⟨still, rfl⟩
  rw [same] at kept
  exact (Finset.mem_filter.mp kept).1

/-- Two dials on a socket with a listener: one is dropped and its worker refused, the other fails
under the eyes of its caller. Only the first leaves its dialer behind. -/
theorem cancelled_dial_stays_refused :
    ∃ (steps : List (Transition (DialSocket Unit) (DialAction Unit) (DialEvent Unit)))
        (s : DialSocket Unit),
      (dialing Unit {⟨.Listener, 1⟩}).Run steps s ∧ ⟨.Dialer, 2⟩ ∈ s.attached ∧
        dialers s.attached ≠ dialers {⟨.Listener, 1⟩} ∧ ⟨.Dialer, 3⟩ ∉ s.attached := by
  have run := run_of_replay (M := dialing Unit {⟨.Listener, 1⟩})
    [.dial NNG_OK 0 2 (.ok ()) 0, .dial NNG_OK 0 3 (.ok ()) 0, .drop 0, .worker 1 6, .worker 0 6,
      .resume 1]
    rfl
  have stays := cancelled_dial_stays run rfl (List.mem_cons_self ..) rfl
  exact ⟨_, _, run, stays.1, stays.2, by decide⟩

/-- **Not every dropped dial is undone**: a connected dialer stays. -/
theorem cancelled_dial_leaks :
    ¬∀ (steps : List (Transition (DialSocket Unit) (DialAction Unit) (DialEvent Unit)))
        (s : DialSocket Unit), (dialing Unit ∅).Run steps s → s.closed = false →
      ∀ call ∈ s.calls, call.future = .dropped → ∀ outcome, call.worker = some outcome →
        ⟨.Dialer, call.dialer⟩ ∉ s.attached ∧ dialers s.attached = dialers call.before := by
  intro always
  have run := run_of_replay (M := dialing Unit ∅)
    [.dial NNG_OK 0 2 (.ok ()) 0, .drop 0, .worker 0 0] rfl
  have undone := always _ _ run rfl _ (List.mem_cons_self ..) rfl _ rfl
  exact absurd undone.1 (by decide)

end NngRs.Anng
