/-
**`Message`: its header, and the two ways to copy a message.**

`clone` is one call of the library, which copies the message as it is, with the pipe it came from.
`clone_from` rebuilds the message in place, from its body, its header and its read position; no call it
makes sets the pipe. It may panic half-way, so the message it leaves is kept next to whether it
returned.

* `cloneFrom_becomes` — `clone_from` leaves the body, the header and the read position of its source.
* `cloneFrom_returns` — it returns when no allocation fails.
* `cloneFrom_observed_iff` — over any two messages: the result can be told from a clone exactly when the
  two messages come from different pipes.
-/

import NngRs.Anng.Reserve
import NngRs.Anng.Url
import NngRs.Sys.ErrorKind

namespace NngRs.Anng

open Net Sys

namespace Message

variable {α : Type}

/-! ## The methods -/

section Methods

variable (target : Target) (capacity : Capacity)

/-- `Message::header`. -/
def header (msg : Message (NngMsg α)) : List α := msg.inner.header

/-- `Message::header_len`. -/
def headerLen (msg : Message (NngMsg α)) : Nat := msg.header.length

/-- `Message::header_truncate`. -/
def headerTruncate (msg : Message (NngMsg α)) (len : Nat) : Message (NngMsg α) :=
  match Target.checkedSub msg.headerLen len with
  | none => msg
  | some chop => { msg with inner := msg.inner.headerChop chop }

/-- `Message::header_truncate_front`. -/
def headerTruncateFront (msg : Message (NngMsg α)) (len : Nat) : Message (NngMsg α) :=
  match Target.checkedSub msg.headerLen len with
  | none => msg
  | some trim => { msg with inner := msg.inner.headerTrim trim }

/-- `Message::write_header`; `none` is an error or a panic. -/
def writeHeader (granted : Bool) (msg : Message (NngMsg α)) (buf : List α) :
    Option (Message (NngMsg α)) :=
  (msg.inner.headerAppend granted buf).map fun inner => { msg with inner }

/-- `Message::prepend_header`; `none` is an error or a panic. -/
def prependHeader (granted : Bool) (msg : Message (NngMsg α)) (buf : List α) :
    Option (Message (NngMsg α)) :=
  (msg.inner.headerInsert granted buf).map fun inner => { msg with inner }

/-- `Message::clear`. -/
def clear (msg : Message (NngMsg α)) : Message (NngMsg α) :=
  { (msg.truncate 0).headerTruncate 0 with pos := 0 }

/-- `Message::new`. -/
def new (before body after : List α) : Except BufferPanic (Message (NngMsg α)) :=
  withCapacity target 0 before body after

/-- `From<&[u8]>::from`; `false` is the panic "write to new message should never fail". -/
def fromSlice (before body after : List α) (reserving appending : Placement α) (data : List α) :
    Except BufferPanic (Bool × Message (NngMsg α)) :=
  match withCapacity target data.length before body after with
  | .error p => .error p
  | .ok msg => msg.write target capacity reserving appending data

/-- `Clone::clone`. -/
def clone (placement : Placement α) (msg : Message (NngMsg α)) :
    Except BufferPanic (Message (NngMsg α)) :=
  match msg.inner.dup target placement with
  | none => .error .outOfMemory
  | some inner => .ok { inner, pos := msg.pos }

/-- `Clone::clone_from`: whether it returned, and the message it leaves. -/
def cloneFrom (reserving appending : Placement α) (granted : Bool)
    (msg source : Message (NngMsg α)) : Bool × Message (NngMsg α) :=
  let msg := msg.truncate 0
  match msg.write target capacity reserving appending source.asSlice with
  | .error _ => (false, msg)
  | .ok (false, msg) => (false, msg)
  | .ok (true, msg) =>
    let msg := msg.headerTruncate 0
    match msg.writeHeader granted source.header with
    | none => (false, msg)
    | some msg => (true, { msg with pos := source.pos })

end Methods

/-! ## What they do -/

variable {target : Target} {capacity : Capacity} {msg msg' source : Message (NngMsg α)}
  {reserving appending placement : Placement α} {granted : Bool}

/-- `msg'` is `msg` but for its header. -/
def HeaderChanged (msg msg' : Message (NngMsg α)) (header : List α) : Prop :=
  msg' = { msg with inner := { msg.inner with header } }

theorem headerTruncate_changed (msg : Message (NngMsg α)) (len : Nat) :
    HeaderChanged msg (msg.headerTruncate len) (msg.header.take len) := by
  rw [HeaderChanged, headerTruncate, Target.checkedSub, headerLen]
  by_cases shorter : len ≤ msg.header.length
  · have kept : msg.header.length - (msg.header.length - len) = len := Nat.sub_sub_self shorter
    rw [if_pos shorter]
    show Message.mk { msg.inner with
      header := msg.header.take (msg.header.length - (msg.header.length - len)) } msg.pos = _
    rw [kept]
  · rw [if_neg shorter, List.take_of_length_le (Nat.le_of_not_le shorter)]
    rfl

theorem headerTruncateFront_changed (msg : Message (NngMsg α)) (len : Nat) :
    HeaderChanged msg (msg.headerTruncateFront len) (msg.header.drop (msg.headerLen - len)) := by
  rw [HeaderChanged, headerTruncateFront, Target.checkedSub]
  by_cases shorter : len ≤ msg.headerLen
  · rw [if_pos shorter]
    rfl
  · rw [if_neg shorter, Nat.sub_eq_zero_of_le (Nat.le_of_not_le shorter), List.drop_zero]
    rfl

theorem writeHeader_changed {buf : List α} (written : msg.writeHeader granted buf = some msg') :
    HeaderChanged msg msg' (msg.header ++ buf) := by
  obtain ⟨inner, appended, rfl⟩ := Option.map_eq_some_iff.mp written
  obtain ⟨-, same⟩ := Option.ite_none_right_eq_some.mp appended
  cases same
  rfl

theorem prependHeader_changed {buf : List α}
    (written : msg.prependHeader granted buf = some msg') :
    HeaderChanged msg msg' (buf ++ msg.header) := by
  obtain ⟨inner, inserted, rfl⟩ := Option.map_eq_some_iff.mp written
  obtain ⟨-, same⟩ := Option.ite_none_right_eq_some.mp inserted
  cases same
  rfl

/-- The header is not part of what makes a message valid. -/
theorem HeaderChanged.valid {header : List α} (changed : HeaderChanged msg msg' header)
    (valid : msg.Valid target) : msg'.Valid target := by
  rw [changed]
  exact ⟨valid.positioned, valid.fits⟩

/-- A copy has the header, the body and the read position. -/
theorem clone_becomes (cloned : msg.clone target placement = .ok msg') :
    Becomes target msg msg' msg.asSlice msg.pos := by
  rw [clone] at cloned
  cases copied : msg.inner.dup target placement with
  | none =>
    rw [copied] at cloned
    cases cloned
  | some inner =>
    rw [copied] at cloned
    cases cloned
    obtain ⟨header, body, -, fits⟩ := NngMsg.place_some copied
    exact ⟨header, body, rfl, fits⟩

/-- An emptied message has no body, and is read from its start. -/
theorem truncate_zero (msg : Message (NngMsg α)) :
    (msg.truncate 0).asSlice = [] ∧ (msg.truncate 0).pos = 0
      ∧ (msg.truncate 0).inner.size = msg.inner.size := by
  rw [truncate, Target.checkedSub, if_pos (Nat.zero_le _)]
  dsimp only
  have body : (msg.inner.chop (msg.len - 0)).body = [] := by
    rw [NngMsg.chop, Nat.sub_zero, len, asSlice, Nat.sub_self, List.take_zero]
  by_cases read : 0 < msg.pos
  · rw [if_pos read]
    exact ⟨body, rfl, NngMsg.chop_size _ _⟩
  · rw [if_neg read]
    exact ⟨body, Nat.eq_zero_of_not_pos read, NngMsg.chop_size _ _⟩

/-- **What `clone_from` leaves**: when it returns, the body, the header and the read position of its
source; otherwise a message that is read from its start. -/
theorem cloneFrom_becomes {returned : Bool}
    (done : msg.cloneFrom target capacity reserving appending granted source = (returned, msg')) :
    (msg.inner.Fits target → msg'.inner.Fits target)
      ∧ if returned then
          msg'.asSlice = source.asSlice ∧ msg'.header = source.header ∧ msg'.pos = source.pos
        else msg'.pos = 0 := by
  obtain ⟨empty, start, size⟩ := msg.truncate_zero
  have fits : msg.inner.Fits target → (msg.truncate 0).inner.Fits target := by
    intro small
    rw [NngMsg.Fits, size]
    exact small
  rw [cloneFrom] at done
  dsimp only at done
  cases written : (msg.truncate 0).write target capacity reserving appending source.asSlice with
  | error p =>
    rw [written] at done
    cases done
    exact ⟨fits, start⟩
  | ok outcome =>
    obtain ⟨all, filled⟩ := outcome
    have becomes := write_ok written
    rw [written] at done
    cases all with
    | false =>
      cases done
      exact ⟨becomes.fits ∘ fits, becomes.pos.trans start⟩
    | true =>
      dsimp only at done
      have chopped := headerTruncate_changed filled 0
      rw [HeaderChanged, List.take_zero] at chopped
      rw [chopped] at done
      cases headed : writeHeader granted
          { filled with inner := { filled.inner with header := [] } } source.header with
      | none =>
        rw [headed] at done
        cases done
        exact ⟨becomes.fits ∘ fits, becomes.pos.trans start⟩
      | some last =>
        rw [headed] at done
        cases done
        have changed := writeHeader_changed headed
        rw [HeaderChanged] at changed
        rw [changed]
        refine ⟨becomes.fits ∘ fits, ?_, List.nil_append _, rfl⟩
        show filled.inner.body = source.asSlice
        rw [becomes.body, empty, List.nil_append, if_pos rfl]

/-! ### Without a failed allocation -/

/-- The library grants what a `write` asks for. -/
def WriteGranted (target : Target) (capacity : Capacity) (reserving appending : Placement α)
    (msg : Message (NngMsg α)) (buf : List α) : Prop :=
  msg.reserve target capacity reserving buf.length ≠ .error .outOfMemory
    ∧ ∀ roomy, msg.reserve target capacity reserving buf.length = .ok roomy →
      roomy.inner.append target appending buf ≠ none

/-- **A `reserve` of no more than a `usize` can count returns**, unless an allocation fails. -/
theorem reserve_returns {additional : Nat} (small : msg.len + additional ≤ target.usizeMax)
    (allocated : msg.reserve target capacity placement additional ≠ .error .outOfMemory) :
    ∃ roomy, msg.reserve target capacity placement additional = .ok roomy := by
  have added : target.add msg.len additional = some (msg.len + additional) :=
    Target.add_eq_of_le small
  rw [reserve, added] at allocated ⊢
  dsimp only at allocated ⊢
  by_cases full : msg.inner.capacity capacity < msg.len + additional
  · rw [if_pos full] at allocated ⊢
    have again := target.add_roundUp small (msg.inner.capacity capacity)
    rw [reserveExact, again] at allocated ⊢
    dsimp only at allocated ⊢
    cases placed : msg.inner.reserve target capacity placement _ with
    | none =>
      rw [placed] at allocated
      exact absurd rfl allocated
    | some inner => exact ⟨_, rfl⟩
  · rw [if_neg full]
    exact ⟨msg, rfl⟩

theorem write_returns {buf : List α} (small : msg.len + buf.length ≤ target.usizeMax)
    (granted : msg.WriteGranted target capacity reserving appending buf) :
    ∃ written, msg.write target capacity reserving appending buf = .ok (true, written) := by
  obtain ⟨roomy, reserved⟩ := reserve_returns small granted.1
  obtain ⟨inner, appended⟩ := Option.ne_none_iff_exists'.mp (granted.2 roomy reserved)
  rw [write, reserved]
  dsimp only
  rw [appended]
  exact ⟨_, rfl⟩

/-- **`clone_from` returns** when no allocation fails. -/
theorem cloneFrom_returns (fits : source.inner.Fits target)
    (allocated : (msg.truncate 0).WriteGranted target capacity reserving appending source.asSlice) :
    ∃ msg', msg.cloneFrom target capacity reserving appending true source = (true, msg') := by
  have empty : (msg.truncate 0).len = 0 := congrArg List.length msg.truncate_zero.1
  have object : source.asSlice.length ≤ target.isizeMax := len_le fits
  have twice := target.usizeMax_eq
  obtain ⟨written, wrote⟩ := write_returns (by omega) allocated
  rw [cloneFrom]
  dsimp only
  rw [wrote]
  exact ⟨_, rfl⟩

end Message

/-! ## The pipe of a message -/

/-- A message, with the pipe that the library's message is associated with, `0` for none. Only the
library sets it. -/
structure PipedMessage (α : Type) where
  message : Message (NngMsg α)
  pipeId : UInt32
deriving DecidableEq, Repr

/-- What the library answers about a pipe: an error code, and what it writes on success. -/
structure PipeLibrary where
  /-- `nng_pipe_peer_addr`. -/
  peerAddr : UInt32 → NngErr × NngSockaddr
  /-- `nng_pipe_get_scheme`: the bytes of the scheme. -/
  getScheme : UInt32 → NngErr × List UInt8

/-- How `remote_addr` fails to return. -/
inductive RemotePanic
  /-- "documentation claims err … is never returned" -/
  | neverReturned (err : NngErr)
  | decoding (trap : Trap)
deriving DecidableEq, Repr

namespace PipedMessage

variable {α : Type}

/-- `Message::pipe`. -/
def pipe (msg : PipedMessage α) : Option UInt32 := if 0 < msg.pipeId then some msg.pipeId else none

/-- `remote_addr`, from a pipe. -/
def remoteAddrOf (endian : Endian) (library : PipeLibrary) (pipe : UInt32) :
    Except RemotePanic (Option Url) :=
  let (err, addr) := library.peerAddr pipe
  if err = NNG_OK then
    let (err, scheme) := library.getScheme pipe
    if err = NNG_OK then
      match Url.fromNng endian addr scheme with
      | .ok url => .ok url
      | .error trap => .error (.decoding trap)
    -- the pipe was closed meanwhile, or it has neither a dialer nor a listener
    else if err = ErrorCode.ENOENT.value then .ok none
    else if err = ErrorCode.ENOTSUP.value then .ok none
    else .error (.neverReturned err)
  else if err = ErrorCode.ENOTSUP.value then .ok none
  else if err = ErrorCode.ENOENT.value then .ok none
  else if err &&& NNG_ESYSERR ≠ 0 then .ok none
  else .error (.neverReturned err)

/-- `Message::remote_addr`. -/
def remoteAddr (endian : Endian) (library : PipeLibrary) (msg : PipedMessage α) :
    Except RemotePanic (Option Url) :=
  match msg.pipe with
  | none => .ok none
  | some pipe => remoteAddrOf endian library pipe

section Copies

variable (target : Target) (capacity : Capacity)

/-- `Clone::clone`; `nng_msg_dup` duplicates the association too. -/
def clone (placement : Placement α) (msg : PipedMessage α) : Except BufferPanic (PipedMessage α) :=
  (msg.message.clone target placement).map fun message => { msg with message }

/-- `Clone::clone_from`. -/
def cloneFrom (reserving appending : Placement α) (granted : Bool) (msg source : PipedMessage α) :
    Bool × PipedMessage α :=
  let (returned, message) :=
    msg.message.cloneFrom target capacity reserving appending granted source.message
  (returned, { msg with message })

end Copies

/-! ## Clones and copies in place -/

/-- Two messages that cannot be told apart by their contents, by where reading them goes on, or by
where they came from. -/
structure SameObserved (endian : Endian) (msg msg' : PipedMessage α) : Prop where
  body : msg.message.asSlice = msg'.message.asSlice
  header : msg.message.header = msg'.message.header
  pos : msg.message.pos = msg'.message.pos
  remote : ∀ library, msg.remoteAddr endian library = msg'.remoteAddr endian library

/-- The address of a nameless `inproc` peer. -/
def inprocPeer (endian : Endian) : NngSockaddr :=
  match endian with
  | .big => ⟨[0, 1] ++ List.replicate 134 0, rfl⟩
  | .little => ⟨[1, 0] ++ List.replicate 134 0, rfl⟩

/-- A library where one pipe has a peer, and every other was closed. -/
def onlyPipe (endian : Endian) (pipe : UInt32) : PipeLibrary where
  peerAddr p := (if p = pipe then NNG_OK else ErrorCode.ENOENT.value, inprocPeer endian)
  getScheme _ := (NNG_OK, Utf8.encode "inproc")

theorem fromNng_inprocPeer (endian : Endian) :
    Url.fromNng endian (inprocPeer endian) (Utf8.encode "inproc") = .ok (some ⟨"inproc://"⟩) := by
  cases endian <;> decide

theorem remoteAddrOf_onlyPipe (endian : Endian) (pipe p : UInt32) :
    remoteAddrOf endian (onlyPipe endian pipe) p =
      .ok (if p = pipe then some ⟨"inproc://"⟩ else none) := by
  rw [remoteAddrOf, onlyPipe]
  dsimp only
  by_cases same : p = pipe
  · rw [if_pos same, if_pos rfl, if_pos rfl, fromNng_inprocPeer, if_pos same]
  · rw [if_neg same, if_neg (by decide), if_neg (by decide), if_pos rfl, if_neg same]

/-- **`remote_addr` shows the pipe**: two messages have the same, whatever the library answers, exactly
when they come from the same pipe. -/
theorem remoteAddr_iff (endian : Endian) (msg msg' : PipedMessage α) :
    (∀ library, msg.remoteAddr endian library = msg'.remoteAddr endian library) ↔
      msg.pipe = msg'.pipe := by
  constructor
  · intro same
    cases one : msg.pipe with
    | none =>
      cases other : msg'.pipe with
      | none => rfl
      | some pipe =>
        have shown := same (onlyPipe endian pipe)
        rw [remoteAddr, remoteAddr, one, other] at shown
        dsimp only at shown
        rw [remoteAddrOf_onlyPipe, if_pos rfl] at shown
        cases shown
    | some pipe =>
      have shown := same (onlyPipe endian pipe)
      rw [remoteAddr, remoteAddr, one] at shown
      dsimp only at shown
      rw [remoteAddrOf_onlyPipe, if_pos rfl] at shown
      cases other : msg'.pipe with
      | none =>
        rw [other] at shown
        cases shown
      | some pipe' =>
        rw [other] at shown
        dsimp only at shown
        rw [remoteAddrOf_onlyPipe] at shown
        by_cases equal : pipe' = pipe
        · rw [equal]
        · rw [if_neg equal] at shown
          cases shown
  · intro same library
    rw [remoteAddr, remoteAddr, same]

variable {target : Target} {capacity : Capacity} {reserving appending placement : Placement α}

/-- **`clone_from` is equivalent to `clone` exactly when the two messages come from the same pipe.** It
always returns, with the body, the header and the read position of its source; but it keeps its own
pipe. -/
theorem cloneFrom_observed_iff (endian : Endian) (msg source copy : PipedMessage α)
    (fits : source.message.inner.Fits target)
    (allocated : (msg.message.truncate 0).WriteGranted target capacity reserving appending
      source.message.asSlice)
    (cloned : source.clone target placement = .ok copy) :
    ∃ msg', msg.cloneFrom target capacity reserving appending true source = (true, msg')
      ∧ (SameObserved endian msg' copy ↔ msg.pipe = source.pipe) := by
  obtain ⟨message, returned⟩ := Message.cloneFrom_returns fits allocated
  obtain ⟨-, body, header, pos⟩ := Message.cloneFrom_becomes returned
  rw [clone] at cloned
  cases copied : source.message.clone target placement with
  | error p =>
    rw [copied] at cloned
    cases cloned
  | ok twin =>
    rw [copied] at cloned
    cases cloned
    have becomes := Message.clone_becomes copied
    refine ⟨{ msg with message }, ?_, ?_⟩
    · rw [cloneFrom, returned]
    · rw [← remoteAddr_iff endian]
      exact ⟨fun same => same.remote, fun remote => ⟨body.trans becomes.body.symm,
        header.trans becomes.header.symm, pos.trans becomes.pos.symm, remote⟩⟩

end PipedMessage

/-- Two bytes that came through pipe one, the first of them read. -/
def fromPipeOne : PipedMessage Nat := ⟨⟨⟨[7], [0], [1, 2], []⟩, 1⟩, 1⟩

/-- A message that came through pipe two, with room for two bytes. -/
def fromPipeTwo : PipedMessage Nat := ⟨⟨⟨[], [], [5], [0]⟩, 0⟩, 2⟩

theorem fromPipeTwo_granted : (fromPipeTwo.message.truncate 0).WriteGranted .x64 .contents .keep .keep
    fromPipeOne.message.asSlice := by
  have reserved : (fromPipeTwo.message.truncate 0).reserve .x64 .contents .keep 2 =
      .ok ⟨⟨[], [], [], [5, 0]⟩, 0⟩ := by decide
  refine ⟨fun failed => ?_, fun roomy same => ?_⟩
  · cases reserved.symm.trans failed
  · cases reserved.symm.trans same
    decide

/-- A copy in place of a message that came through the same pipe. -/
theorem cloneFrom_observed_same_pipe :
    ∃ msg', PipedMessage.cloneFrom .x64 .contents .keep .keep true ⟨fromPipeTwo.message, 1⟩
        fromPipeOne = (true, msg') ∧ PipedMessage.SameObserved .little msg' fromPipeOne := by
  have fits : fromPipeOne.message.inner.Fits .x64 := by decide
  have cloned : fromPipeOne.clone .x64 .keep = .ok fromPipeOne := rfl
  obtain ⟨msg', returned, observed⟩ := PipedMessage.cloneFrom_observed_iff .little
    ⟨fromPipeTwo.message, 1⟩ fromPipeOne fromPipeOne fits fromPipeTwo_granted cloned
  exact ⟨msg', returned, observed.mpr rfl⟩

/-- **Not every `clone_from` is a clone**: one message came through pipe one and the other through pipe
two, and afterwards it still says that it came through pipe two. -/
theorem cloneFrom_keeps_pipe :
    ¬ ∀ (target : Target) (capacity : Capacity) (reserving appending placement : Placement Nat)
      (endian : Endian) (msg source copy msg' : PipedMessage Nat),
      source.message.inner.Fits target → msg.message.inner.Fits target →
        source.clone target placement = .ok copy →
        msg.cloneFrom target capacity reserving appending true source = (true, msg') →
        PipedMessage.SameObserved endian msg' copy := by
  intro always
  have cloned : fromPipeOne.clone .x64 .keep = .ok fromPipeOne := rfl
  have returned : fromPipeTwo.cloneFrom .x64 .contents .keep .keep true fromPipeOne =
      (true, ⟨⟨⟨[7], [], [1, 2], []⟩, 1⟩, 2⟩) := by decide
  have same := always .x64 .contents .keep .keep .keep .little fromPipeTwo fromPipeOne fromPipeOne _
    (by decide) (by decide) cloned returned
  exact absurd ((PipedMessage.remoteAddr_iff .little _ _).mp same.remote) (by decide)

end NngRs.Anng
