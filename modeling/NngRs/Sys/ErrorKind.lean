/-
**Error codes: `nng_err`, `ErrorCode` and `ErrorKind::from_nng_err`.**

NNG reports a `u32`. `fromNngErr` is the decoder of the bindings: the known codes by name, then the
transport marker, then the system marker, then everything else as an unknown nonzero code; on zero
it panics. Where the source keeps the kind of an operating-system error, the model asks the standard
library's table for it (`decodeErrorKind`, as the standard library has it on Linux).

* `fromNngErr_isSome` — the decoder panics on zero only.
* `ErrorCode.fromNngErr_value` — every named code is decoded to its own name.
* `ErrorKind.value_of_fromNngErr` — and nothing else is.
-/

import Mathlib.Data.UInt

namespace NngRs.Sys

/-- A C error value, `0` for success. -/
abbrev NngErr := UInt32

/-- `NNG_OK`. -/
def NNG_OK : NngErr := 0

/-- The marker of an operating-system error. -/
def NNG_ESYSERR : NngErr := 268435456

/-- The marker of a transport error. -/
def NNG_ETRANERR : NngErr := 536870912

/-- The error codes the bindings name. -/
inductive ErrorCode
  | EINTR | ENOMEM | EINVAL | EBUSY | ETIMEDOUT | ECONNREFUSED | ECLOSED | EAGAIN | ENOTSUP
  | EADDRINUSE | ESTATE | ENOENT | EPROTO | EUNREACHABLE | EADDRINVAL | EPERM | EMSGSIZE
  | ECONNABORTED | ECONNRESET | ECANCELED | ENOFILES | ENOSPC | EEXIST | EREADONLY | EWRITEONLY
  | ECRYPTO | EPEERAUTH | EBADTYPE | ECONNSHUT | ESTOPPED | EINTERNAL
deriving DecidableEq, Repr

/-- The discriminant, `code as u32`. -/
def ErrorCode.value : ErrorCode → NngErr
  | .EINTR => 1
  | .ENOMEM => 2
  | .EINVAL => 3
  | .EBUSY => 4
  | .ETIMEDOUT => 5
  | .ECONNREFUSED => 6
  | .ECLOSED => 7
  | .EAGAIN => 8
  | .ENOTSUP => 9
  | .EADDRINUSE => 10
  | .ESTATE => 11
  | .ENOENT => 12
  | .EPROTO => 13
  | .EUNREACHABLE => 14
  | .EADDRINVAL => 15
  | .EPERM => 16
  | .EMSGSIZE => 17
  | .ECONNABORTED => 18
  | .ECONNRESET => 19
  | .ECANCELED => 20
  | .ENOFILES => 21
  | .ENOSPC => 22
  | .EEXIST => 23
  | .EREADONLY => 24
  | .EWRITEONLY => 25
  | .ECRYPTO => 26
  | .EPEERAUTH => 27
  | .EBADTYPE => 30
  | .ECONNSHUT => 31
  | .ESTOPPED => 999
  | .EINTERNAL => 1000

/-- `std::io::ErrorKind`. -/
inductive IoErrorKind
  | NotFound | PermissionDenied | ConnectionRefused | ConnectionReset | HostUnreachable
  | NetworkUnreachable | ConnectionAborted | NotConnected | AddrInUse | AddrNotAvailable
  | NetworkDown | BrokenPipe | AlreadyExists | WouldBlock | NotADirectory | IsADirectory
  | DirectoryNotEmpty | ReadOnlyFilesystem | FilesystemLoop | StaleNetworkFileHandle | InvalidInput
  | InvalidData | TimedOut | WriteZero | StorageFull | NotSeekable | QuotaExceeded | FileTooLarge
  | ResourceBusy | ExecutableFileBusy | Deadlock | CrossesDevices | TooManyLinks | InvalidFilename
  | ArgumentListTooLong | Interrupted | Unsupported | UnexpectedEof | OutOfMemory | InProgress
  | Other | Uncategorized
deriving DecidableEq, Repr

/-- `std::io::Error::from_raw_os_error(errno).kind()` on Linux. -/
def decodeErrorKind (errno : UInt32) : IoErrorKind :=
  match errno.toNat with
  | 1 | 13 => .PermissionDenied
  | 2 => .NotFound
  | 4 => .Interrupted
  | 7 => .ArgumentListTooLong
  | 11 => .WouldBlock
  | 12 => .OutOfMemory
  | 16 => .ResourceBusy
  | 17 => .AlreadyExists
  | 18 => .CrossesDevices
  | 20 => .NotADirectory
  | 21 => .IsADirectory
  | 22 => .InvalidInput
  | 26 => .ExecutableFileBusy
  | 27 => .FileTooLarge
  | 28 => .StorageFull
  | 29 => .NotSeekable
  | 30 => .ReadOnlyFilesystem
  | 31 => .TooManyLinks
  | 32 => .BrokenPipe
  | 35 => .Deadlock
  | 36 => .InvalidFilename
  | 38 | 95 => .Unsupported
  | 39 => .DirectoryNotEmpty
  | 40 => .FilesystemLoop
  | 98 => .AddrInUse
  | 99 => .AddrNotAvailable
  | 100 => .NetworkDown
  | 101 => .NetworkUnreachable
  | 103 => .ConnectionAborted
  | 104 => .ConnectionReset
  | 107 => .NotConnected
  | 110 => .TimedOut
  | 111 => .ConnectionRefused
  | 113 => .HostUnreachable
  | 115 => .InProgress
  | 116 => .StaleNetworkFileHandle
  | 122 => .QuotaExceeded
  | _ => .Uncategorized

/-- `NonZeroU32`. -/
abbrev NonZeroU32 := {code : UInt32 // code ≠ 0}

/-- `nng_sys::ErrorKind`. -/
inductive ErrorKind
  | NngError (code : ErrorCode)
  | Transport (code : UInt32)
  | System (kind : IoErrorKind)
  | Other (code : NonZeroU32)
deriving DecidableEq, Repr

/-- The code a value names, if it names one: the arms `nng_err::NNG_E..` of the decoder. -/
def ErrorCode.ofNngErr (err : NngErr) : Option ErrorCode :=
  match err.toNat with
  | 1 => some .EINTR
  | 2 => some .ENOMEM
  | 3 => some .EINVAL
  | 4 => some .EBUSY
  | 5 => some .ETIMEDOUT
  | 6 => some .ECONNREFUSED
  | 7 => some .ECLOSED
  | 8 => some .EAGAIN
  | 9 => some .ENOTSUP
  | 10 => some .EADDRINUSE
  | 11 => some .ESTATE
  | 12 => some .ENOENT
  | 13 => some .EPROTO
  | 14 => some .EUNREACHABLE
  | 15 => some .EADDRINVAL
  | 16 => some .EPERM
  | 17 => some .EMSGSIZE
  | 18 => some .ECONNABORTED
  | 19 => some .ECONNRESET
  | 20 => some .ECANCELED
  | 21 => some .ENOFILES
  | 22 => some .ENOSPC
  | 23 => some .EEXIST
  | 24 => some .EREADONLY
  | 25 => some .EWRITEONLY
  | 26 => some .ECRYPTO
  | 27 => some .EPEERAUTH
  | 30 => some .EBADTYPE
  | 31 => some .ECONNSHUT
  | 999 => some .ESTOPPED
  | 1000 => some .EINTERNAL
  | _ => none

/-- `ErrorKind::from_nng_err`; `none` is its panic on a zero code. -/
def ErrorKind.fromNngErr (err : NngErr) : Option ErrorKind :=
  match ErrorCode.ofNngErr err with
  | some code => some (.NngError code)
  | none =>
    if err &&& NNG_ETRANERR ≠ 0 then some (.Transport (err &&& ~~~NNG_ETRANERR))
    else if err &&& NNG_ESYSERR ≠ 0 then
      some (.System (decodeErrorKind (err &&& ~~~NNG_ESYSERR)))
    else if nonzero : err ≠ 0 then some (.Other ⟨err, nonzero⟩)
    else none

/-- Every named code is decoded to its own name. -/
theorem ErrorCode.fromNngErr_value (code : ErrorCode) :
    ErrorKind.fromNngErr code.value = some (.NngError code) := by
  cases code <;> rfl

/-- What `ofNngErr` names has the value it was read from. -/
theorem ErrorCode.value_of_ofNngErr {err : NngErr} {code : ErrorCode}
    (named : ErrorCode.ofNngErr err = some code) : code.value = err := by
  apply UInt32.toNat.inj
  unfold ErrorCode.ofNngErr at named
  split at named <;> cases named <;> simp only [*] <;> rfl

/-- Only the value of a named code is decoded to that code: the markers never lead to one. -/
theorem ErrorKind.value_of_fromNngErr {err : NngErr} {code : ErrorCode}
    (decoded : ErrorKind.fromNngErr err = some (.NngError code)) : code.value = err := by
  unfold ErrorKind.fromNngErr at decoded
  cases named : ErrorCode.ofNngErr err with
  | some other =>
    rw [named] at decoded
    cases decoded
    exact ErrorCode.value_of_ofNngErr named
  | none =>
    rw [named] at decoded
    dsimp only at decoded
    split_ifs at decoded <;> cases decoded

/-- The decoder panics on zero only. -/
theorem ErrorKind.fromNngErr_isSome {err : NngErr} (nonzero : err ≠ 0) :
    (ErrorKind.fromNngErr err).isSome = true := by
  unfold ErrorKind.fromNngErr
  split
  · rfl
  · split_ifs <;> rfl

end NngRs.Sys
