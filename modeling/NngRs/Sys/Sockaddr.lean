/-
**`nng_sockaddr`, the union in which NNG reports an address.**

Every member starts with the family and lies over the same bytes, and its integers are read in the
byte order of the host. NNG writes ports and internet addresses in network order, names and paths
with a final zero, and an abstract name with its length.

* `NngSockaddrFamily.tryConvertFrom_value` — the conversion of family numbers leaves one out.
* `NngSockaddr.Stores` — what NNG stored, for the five families that carry an address.
* `NngSockaddr.readU16_port_iff` — the host reads the stored port as it is exactly when it is
  big-endian or the two bytes are equal.
-/

import NngRs.Runtime.Utf8
import NngRs.Runtime.Net

namespace NngRs.Sys

open Net

/-- The families of addresses. -/
inductive NngSockaddrFamily
  | NNG_AF_UNSPEC | NNG_AF_INPROC | NNG_AF_IPC | NNG_AF_INET | NNG_AF_INET6 | NNG_AF_ABSTRACT
deriving DecidableEq, Repr

namespace NngSockaddrFamily

/-- The discriminant, `family as i32`. -/
def value : NngSockaddrFamily → Nat
  | NNG_AF_UNSPEC => 0
  | NNG_AF_INPROC => 1
  | NNG_AF_IPC => 2
  | NNG_AF_INET => 3
  | NNG_AF_INET6 => 4
  | NNG_AF_ABSTRACT => 5

/-- `nng_sockaddr_family::try_convert_from`, which leaves one family out. -/
def tryConvertFrom (value : Nat) : Option NngSockaddrFamily :=
  if value = NNG_AF_UNSPEC.value then some NNG_AF_UNSPEC
  else if value = NNG_AF_INPROC.value then some NNG_AF_INPROC
  else if value = NNG_AF_IPC.value then some NNG_AF_IPC
  else if value = NNG_AF_INET.value then some NNG_AF_INET
  else if value = NNG_AF_INET6.value then some NNG_AF_INET6
  else none

/-- **The conversion knows every family but the abstract one.** -/
theorem tryConvertFrom_value (family : NngSockaddrFamily) :
    tryConvertFrom family.value = if family = NNG_AF_ABSTRACT then none else some family := by
  cases family <;> rfl

end NngSockaddrFamily

/-- How a decoder fails to return. -/
inductive Trap
  /-- A slice index is past the end: a panic. -/
  | sliceIndex
  /-- A C string has no final zero in its array: undefined behaviour. -/
  | unterminated
  /-- `unimplemented!`: a panic. -/
  | unimplemented (family : Nat)
deriving DecidableEq, Repr

/-- `buf[..len]`. -/
def sliceTo (buf : List UInt8) (len : Nat) : Except Trap (List UInt8) :=
  if len ≤ buf.length then .ok (buf.take len) else .error .sliceIndex

/-- The bytes of `CStr::from_ptr`: up to the first zero. -/
def cStr (buf : List UInt8) : Except Trap (List UInt8) :=
  if 0 ∈ buf then .ok (buf.takeWhile (· ≠ 0)) else .error .unterminated

/-- The loop with which both crates write an abstract name. -/
def percentEncode (name : List UInt8) : String :=
  String.ofList (name.flatMap fun byte =>
    -- `is_ascii_graphic`
    if 33 ≤ byte.toNat ∧ byte.toNat ≤ 126 then [Char.ofNat byte.toNat]
    else '%' :: (lowerHex2 byte.toNat).toList)

/-- `nng_sockaddr_in`, without the family. -/
structure NngSockaddrIn where
  saPort : UInt16
  saAddr : UInt32

/-- `nng_sockaddr_in6`, without the family. -/
structure NngSockaddrIn6 where
  saPort : UInt16
  saScope : UInt32
  saAddr : Octets 16

/-- `nng_sockaddr_abstract`, without the family. -/
structure NngSockaddrAbstract where
  saLen : UInt16
  saName : List UInt8

/-- The bytes of the union. -/
structure NngSockaddr where
  bytes : List UInt8
  size : bytes.length = 136

namespace NngSockaddr

variable (endian : Endian) (addr : NngSockaddr)

/-- The bytes of one field. -/
def field (addr : NngSockaddr) (offset size : Nat) : List UInt8 :=
  (addr.bytes.drop offset).take size

theorem length_field {offset size : Nat} (inside : offset + size ≤ 136) :
    (addr.field offset size).length = size := by
  rw [field, List.length_take, List.length_drop, addr.size]
  omega

def sFamily : UInt16 := endian.readU16 (addr.field 0 2)

def sIn : NngSockaddrIn := ⟨endian.readU16 (addr.field 2 2), endian.readU32 (addr.field 4 4)⟩

def sIn6 : NngSockaddrIn6 :=
  ⟨endian.readU16 (addr.field 2 2), endian.readU32 (addr.field 4 4), addr.field 8 16,
    addr.length_field (by decide)⟩

/-- `s_inproc.sa_name` and `s_ipc.sa_path`, which are laid out alike. -/
def saName : List UInt8 := addr.field 2 128

def sAbstract : NngSockaddrAbstract := ⟨endian.readU16 (addr.field 2 2), addr.field 4 107⟩

end NngSockaddr

/-! ## What is stored -/

/-- An address as NNG means it. -/
inductive Stored
  | inproc (name : List UInt8)
  | ipc (path : List UInt8)
  | inet (ip : Ipv4Addr) (port : UInt16)
  | inet6 (ip : Ipv6Addr) (port : UInt16) (scope : UInt32)
  | abstract (name : List UInt8)
deriving DecidableEq

namespace Stored

/-- The scheme of a transport that uses the family. -/
def scheme : Stored → String
  | inproc _ => "inproc"
  | ipc _ => "ipc"
  | inet _ _ | inet6 _ _ _ => "tcp"
  | abstract _ => "abstract"

/-- The part of the URL after the scheme. -/
def location : Stored → String
  | inproc name => Utf8.fromUtf8Lossy name
  | ipc path => Utf8.fromUtf8Lossy path
  | inet ip port => ip.display ++ ":" ++ toString port.toNat
  | inet6 ip port scope => (SocketAddrV6.mk ip port 0 scope).display
  | abstract name => percentEncode name

/-- The URL of an address. -/
def url (stored : Stored) : String := stored.scheme ++ "://" ++ stored.location

end Stored

namespace NngSockaddr

/-- The port, in network order. -/
def port (addr : NngSockaddr) : UInt16 := UInt16.ofNat (beNat (addr.field 2 2))

/-- What NNG stored in a union of a family that carries an address. A name or a path is terminated,
and an abstract name is not longer than its array. -/
inductive Stores (endian : Endian) (addr : NngSockaddr) : Stored → Prop
  | inproc (family : (addr.sFamily endian).toNat = NngSockaddrFamily.NNG_AF_INPROC.value)
      (terminated : 0 ∈ addr.saName) :
      Stores endian addr (.inproc (addr.saName.takeWhile (· ≠ 0)))
  | ipc (family : (addr.sFamily endian).toNat = NngSockaddrFamily.NNG_AF_IPC.value)
      (terminated : 0 ∈ addr.saName) :
      Stores endian addr (.ipc (addr.saName.takeWhile (· ≠ 0)))
  | inet (family : (addr.sFamily endian).toNat = NngSockaddrFamily.NNG_AF_INET.value) :
      Stores endian addr (.inet ⟨addr.field 4 4, addr.length_field (by decide)⟩ addr.port)
  | inet6 (family : (addr.sFamily endian).toNat = NngSockaddrFamily.NNG_AF_INET6.value) :
      Stores endian addr
        (.inet6 ⟨(addr.sIn6 endian).saAddr⟩ addr.port (addr.sIn6 endian).saScope)
  | abstract (family : (addr.sFamily endian).toNat = NngSockaddrFamily.NNG_AF_ABSTRACT.value)
      (inside : (addr.sAbstract endian).saLen.toNat ≤ 107) :
      Stores endian addr
        (.abstract ((addr.sAbstract endian).saName.take (addr.sAbstract endian).saLen.toNat))

variable (endian : Endian) (addr : NngSockaddr)

/-- **The port of an internet address is read as it is stored on a big-endian host, or when its two
bytes are equal.** -/
theorem readU16_port_iff :
    endian.readU16 (addr.field 2 2) = addr.port ↔
      endian = .big ∨ (addr.field 2 2).reverse = addr.field 2 2 :=
  endian.readU16_eq_iff (addr.length_field (by decide))

/-- `from_be` shows the stored port. -/
theorem u16FromBe_port : endian.u16FromBe (endian.readU16 (addr.field 2 2)) = addr.port :=
  endian.u16FromBe_readU16 (addr.length_field (by decide))

/-- `from_be` shows the stored address. -/
theorem fromBits_saAddr :
    Ipv4Addr.fromBits (endian.u32FromBe (addr.sIn endian).saAddr) =
      ⟨addr.field 4 4, addr.length_field (by decide)⟩ := by
  have size : (addr.field 4 4).length = 4 := addr.length_field (by decide)
  calc Ipv4Addr.fromBits (endian.u32FromBe (endian.readU32 (addr.field 4 4)))
      = Ipv4Addr.fromBits (UInt32.ofNat (beNat (addr.field 4 4))) := by
        rw [endian.u32FromBe_readU32 size]
    _ = ⟨addr.field 4 4, size⟩ := Ipv4Addr.fromBits_beNat ⟨addr.field 4 4, size⟩

end NngSockaddr

end NngRs.Sys
