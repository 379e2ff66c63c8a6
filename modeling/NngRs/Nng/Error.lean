/-
**Errors of the `nng` crate: `Error` and its conversion from a code.**

`Error::from` names the codes it knows by their own variants. What it has no arm for is told apart by
the system marker first and the transport marker second, and is an unknown code otherwise; so
`NNG_ESTOPPED`, which the bindings name, is unknown here.

* `Error.fromCode_value`, `Error.named_injective` — a code with an arm of its own is converted by it,
  and two such codes are told apart.
-/

import NngRs.Sys.ErrorKind

namespace NngRs.Nng

open NngRs.Sys

/-- `nng::Error`. -/
inductive Error
  | Interrupted | OutOfMemory | InvalidInput | Busy | TimedOut | ConnectionRefused | Closed
  | TryAgain | NotSupported | AddressInUse | IncorrectState | EntryNotFound | Protocol
  | DestUnreachable | AddressInvalid | PermissionDenied | MessageTooLarge | ConnectionAborted
  | ConnectionReset | Canceled | OutOfFiles | OutOfSpace | ResourceExists | ReadOnly | WriteOnly
  | Crypto | PeerAuth | NoArgument | Ambiguous | BadType | ConnectionShutdown | Internal
  | SystemErr (code : UInt32)
  | TransportErr (code : UInt32)
  | Unknown (code : UInt32)
deriving DecidableEq, Repr

/-- The arm of `Error::from` for a code, where it has one. -/
def Error.named : ErrorCode → Option Error
  | .EINTR => some .Interrupted
  | .ENOMEM => some .OutOfMemory
  | .EINVAL => some .InvalidInput
  | .EBUSY => some .Busy
  | .ETIMEDOUT => some .TimedOut
  | .ECONNREFUSED => some .ConnectionRefused
  | .ECLOSED => some .Closed
  | .EAGAIN => some .TryAgain
  | .ENOTSUP => some .NotSupported
  | .EADDRINUSE => some .AddressInUse
  | .ESTATE => some .IncorrectState
  | .ENOENT => some .EntryNotFound
  | .EPROTO => some .Protocol
  | .EUNREACHABLE => some .DestUnreachable
  | .EADDRINVAL => some .AddressInvalid
  | .EPERM => some .PermissionDenied
  | .EMSGSIZE => some .MessageTooLarge
  | .ECONNABORTED => some .ConnectionAborted
  | .ECONNRESET => some .ConnectionReset
  | .ECANCELED => some .Canceled
  | .ENOFILES => some .OutOfFiles
  | .ENOSPC => some .OutOfSpace
  | .EEXIST => some .ResourceExists
  | .EREADONLY => some .ReadOnly
  | .EWRITEONLY => some .WriteOnly
  | .ECRYPTO => some .Crypto
  | .EPEERAUTH => some .PeerAuth
  | .EBADTYPE => some .BadType
  | .ECONNSHUT => some .ConnectionShutdown
  | .EINTERNAL => some .Internal
  | .ESTOPPED => none

/-- `impl From<NonZeroU32> for Error`. -/
def Error.fromCode (code : NonZeroU32) : Error :=
  match (ErrorCode.ofNngErr code.val).bind Error.named with
  | some error => error
  | none =>
    if code.val &&& NNG_ESYSERR ≠ 0 then .SystemErr (code.val &&& ~~~NNG_ESYSERR)
    else if code.val &&& NNG_ETRANERR ≠ 0 then .TransportErr (code.val &&& ~~~NNG_ETRANERR)
    else .Unknown code.val

/-- The code an error names: `Error.named` backwards. -/
def Error.code : Error → Option ErrorCode
  | .Interrupted => some .EINTR
  | .OutOfMemory => some .ENOMEM
  | .InvalidInput => some .EINVAL
  | .Busy => some .EBUSY
  | .TimedOut => some .ETIMEDOUT
  | .ConnectionRefused => some .ECONNREFUSED
  | .Closed => some .ECLOSED
  | .TryAgain => some .EAGAIN
  | .NotSupported => some .ENOTSUP
  | .AddressInUse => some .EADDRINUSE
  | .IncorrectState => some .ESTATE
  | .EntryNotFound => some .ENOENT
  | .Protocol => some .EPROTO
  | .DestUnreachable => some .EUNREACHABLE
  | .AddressInvalid => some .EADDRINVAL
  | .PermissionDenied => some .EPERM
  | .MessageTooLarge => some .EMSGSIZE
  | .ConnectionAborted => some .ECONNABORTED
  | .ConnectionReset => some .ECONNRESET
  | .Canceled => some .ECANCELED
  | .OutOfFiles => some .ENOFILES
  | .OutOfSpace => some .ENOSPC
  | .ResourceExists => some .EEXIST
  | .ReadOnly => some .EREADONLY
  | .WriteOnly => some .EWRITEONLY
  | .Crypto => some .ECRYPTO
  | .PeerAuth => some .EPEERAUTH
  | .BadType => some .EBADTYPE
  | .ConnectionShutdown => some .ECONNSHUT
  | .Internal => some .EINTERNAL
  | .NoArgument | .Ambiguous | .SystemErr _ | .TransportErr _ | .Unknown _ => none

theorem Error.code_of_named {code : ErrorCode} {error : Error} (arm : Error.named code = some error) :
    error.code = some code := by
  cases code <;> cases arm <;> rfl

/-- Two codes with an arm of their own are told apart. -/
theorem Error.named_injective {code code' : ErrorCode} {error : Error}
    (arm : Error.named code = some error) (arm' : Error.named code' = some error) :
    code = code' := by
  have known := Error.code_of_named arm
  rw [Error.code_of_named arm'] at known
  exact (Option.some.inj known).symm

/-- A code with an arm of its own is converted by that arm. -/
theorem Error.fromCode_value {code : ErrorCode} {error : Error} (arm : Error.named code = some error)
    (nonzero : code.value ≠ 0) : Error.fromCode ⟨code.value, nonzero⟩ = error := by
  cases code <;> cases arm <;> rfl

end NngRs.Nng
