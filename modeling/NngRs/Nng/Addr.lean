/-
**`nng::SocketAddr`: an address decoded from the union, and its text.**

* `SocketAddr.fromNng_inproc`, `fromNng_ipc` — a terminated name or path is read up to its zero.
* `SocketAddr.fromNng_inet`, `fromNng_inet6` — the address is the stored one; the port is as the
  host reads it, and the scope is gone.
* `SocketAddr.fromNng_abstract` — an abstract address is decoded as no address at all.
-/

import NngRs.Sys.Sockaddr

namespace NngRs.Nng

open Net Sys

inductive SocketAddr
  | InProc (name : String)
  /-- A `PathBuf`: the bytes of a path. -/
  | Ipc (path : List UInt8)
  | Inet (addr : SocketAddrV4)
  | Inet6 (addr : SocketAddrV6)
  | Abstract (name : List UInt8)
  | Unspecified
deriving DecidableEq

namespace SocketAddr

/-- `impl Display for SocketAddr`. -/
def display : SocketAddr → String
  | InProc s => "inproc://" ++ s
  | Ipc s => "ipc://" ++ Utf8.fromUtf8Lossy s
  | Inet s => "tcp://" ++ s.display
  | Inet6 s => "tcp://" ++ s.display
  | Abstract s => "abstract://" ++ percentEncode s
  | Unspecified => "unspecified"

/-- `buf_to_string`. -/
def bufToString (buf : List UInt8) : String :=
  -- `position(..).unwrap_or(len)`
  let nullByte := buf.findIdx (· == 0)
  Utf8.fromUtf8Lossy (buf.take nullByte)

/-- `From<nng_sockaddr>`. -/
def fromNng (endian : Endian) (addr : NngSockaddr) : Except Trap SocketAddr :=
  match NngSockaddrFamily.tryConvertFrom (addr.sFamily endian).toNat with
  | some .NNG_AF_INPROC => .ok (InProc (bufToString addr.saName))
  | some .NNG_AF_IPC => .ok (Ipc (Utf8.encode (bufToString addr.saName)))
  | some .NNG_AF_INET =>
    let v4Addr := Ipv4Addr.fromBits (endian.u32FromBe (addr.sIn endian).saAddr)
    .ok (Inet ⟨v4Addr, (addr.sIn endian).saPort⟩)
  | some .NNG_AF_INET6 =>
    let v6Addr : Ipv6Addr := ⟨(addr.sIn6 endian).saAddr⟩
    .ok (Inet6 ⟨v6Addr, (addr.sIn6 endian).saPort, 0, 0⟩)
  | some .NNG_AF_ABSTRACT => do
    let name ← sliceTo (addr.sAbstract endian).saName (addr.sAbstract endian).saLen.toNat
    .ok (Abstract name)
  | some .NNG_AF_UNSPEC | none => .ok Unspecified

/-- Up to the first zero byte, or to the end. -/
theorem bufToString_eq (buf : List UInt8) :
    bufToString buf = Utf8.fromUtf8Lossy (buf.takeWhile (· ≠ 0)) := by
  have zero : (fun byte : UInt8 => byte == 0) = fun byte => !decide (byte ≠ 0) := by
    funext byte
    by_cases byte = 0 <;> simp_all
  rw [bufToString, List.takeWhile_eq_take_findIdx_not, zero]

variable {endian : Endian} {addr : NngSockaddr}

/-- The conversion of the family is the one of `NngSockaddrFamily.tryConvertFrom_value`. -/
theorem tryConvertFrom_family {family : NngSockaddrFamily}
    (read : (addr.sFamily endian).toNat = family.value) (known : family ≠ .NNG_AF_ABSTRACT) :
    NngSockaddrFamily.tryConvertFrom (addr.sFamily endian).toNat = some family := by
  rw [read, NngSockaddrFamily.tryConvertFrom_value, if_neg known]

theorem fromNng_inproc
    (family : (addr.sFamily endian).toNat = NngSockaddrFamily.NNG_AF_INPROC.value) :
    fromNng endian addr =
      .ok (InProc (Utf8.fromUtf8Lossy (addr.saName.takeWhile (· ≠ 0)))) := by
  rw [fromNng, tryConvertFrom_family family (by decide), bufToString_eq]

theorem fromNng_ipc
    (family : (addr.sFamily endian).toNat = NngSockaddrFamily.NNG_AF_IPC.value) :
    fromNng endian addr =
      .ok (Ipc (Utf8.encode (Utf8.fromUtf8Lossy (addr.saName.takeWhile (· ≠ 0))))) := by
  rw [fromNng, tryConvertFrom_family family (by decide), bufToString_eq]

theorem fromNng_inet
    (family : (addr.sFamily endian).toNat = NngSockaddrFamily.NNG_AF_INET.value) :
    fromNng endian addr =
      .ok (Inet ⟨⟨addr.field 4 4, addr.length_field (by decide)⟩,
        endian.readU16 (addr.field 2 2)⟩) := by
  rw [fromNng, tryConvertFrom_family family (by decide)]
  dsimp only
  rw [NngSockaddr.fromBits_saAddr]
  rfl

theorem fromNng_inet6
    (family : (addr.sFamily endian).toNat = NngSockaddrFamily.NNG_AF_INET6.value) :
    fromNng endian addr =
      .ok (Inet6 ⟨⟨(addr.sIn6 endian).saAddr⟩, endian.readU16 (addr.field 2 2), 0, 0⟩) := by
  rw [fromNng, tryConvertFrom_family family (by decide)]
  rfl

/-- **An abstract address is decoded as no address at all**, whatever its name. -/
theorem fromNng_abstract
    (family : (addr.sFamily endian).toNat = NngSockaddrFamily.NNG_AF_ABSTRACT.value) :
    fromNng endian addr = .ok Unspecified := by
  rw [fromNng, family, NngSockaddrFamily.tryConvertFrom_value, if_pos rfl]

end SocketAddr

end NngRs.Nng
