/-
**Byte order and internet addresses, as the standard library has them.**

An integer in memory is read in the byte order of the host; `from_be` turns a value that was stored
in network order and read natively into the value that was stored, on a host of either order. The
texts of the addresses are those of their `Display`.

* `beBytes_beNat` — writing the big-endian value of some bytes gives the bytes.
* `Endian.fromBe_read` — `from_be` after a native read is the big-endian value.
* `Ipv6Addr.fromBits_beNat` — an address made of the big-endian value of its bytes has these bytes.
-/

import Mathlib.Data.Vector.Basic
import Mathlib.Data.UInt
import Mathlib.Algebra.Order.Monoid.NatCast

namespace Net

/-- `[u8; n]`. -/
abbrev Octets (n : Nat) := List.Vector UInt8 n

/-! ## Byte order -/

/-- The value of bytes in network order: `from_be_bytes`. -/
def beNat (bytes : List UInt8) : Nat := bytes.foldl (fun n byte => 256 * n + byte.toNat) 0

/-- The bytes of a value in network order: `to_be_bytes`. -/
def beBytes : Nat → Nat → List UInt8
  | 0, _ => []
  | width + 1, n => beBytes width (n / 256) ++ [UInt8.ofNat n]

@[simp] theorem length_beBytes (width n : Nat) : (beBytes width n).length = width := by
  induction width generalizing n with
  | zero => rfl
  | succ width ih => rw [beBytes, List.length_append, ih, List.length_singleton]

theorem beNat_concat (bytes : List UInt8) (byte : UInt8) :
    beNat (bytes ++ [byte]) = 256 * beNat bytes + byte.toNat := by
  rw [beNat, List.foldl_append]
  rfl

theorem beNat_lt (bytes : List UInt8) : beNat bytes < 256 ^ bytes.length := by
  induction bytes using List.reverseRecOn with
  | nil => exact Nat.one_pos
  | append_singleton bytes byte ih =>
    have small : byte.toNat < 256 := byte.toNat_lt
    rw [beNat_concat, List.length_append, List.length_singleton, pow_succ]
    omega

/-- **Writing the value of some bytes gives the bytes.** -/
theorem beBytes_beNat (bytes : List UInt8) : beBytes bytes.length (beNat bytes) = bytes := by
  induction bytes using List.reverseRecOn with
  | nil => rfl
  | append_singleton bytes byte ih =>
    have small : byte.toNat < 256 := byte.toNat_lt
    have high : (256 * beNat bytes + byte.toNat) / 256 = beNat bytes := by omega
    have low : UInt8.ofNat (256 * beNat bytes + byte.toNat) = byte := by
      apply UInt8.toNat_inj.mp
      rw [UInt8.toNat_ofNat']
      omega
    rw [beNat_concat, List.length_append, List.length_singleton, beBytes, high, low, ih]

theorem beNat_inj {bytes bytes' : List UInt8} (sizes : bytes.length = bytes'.length)
    (values : beNat bytes = beNat bytes') : bytes = bytes' := by
  rw [← beBytes_beNat bytes, ← beBytes_beNat bytes', sizes, values]

/-- The byte order of the host. -/
inductive Endian
  | big
  | little
deriving DecidableEq, Repr

namespace Endian

/-- The integer a host reads from memory. -/
def read : Endian → List UInt8 → Nat
  | .big, bytes => beNat bytes
  | .little, bytes => beNat bytes.reverse

/-- `from_be` on integers of `width` bytes: nothing, or `swap_bytes`. -/
def fromBe : Endian → Nat → Nat → Nat
  | .big, _, n => n
  | .little, width, n => beNat (beBytes width n).reverse

theorem read_lt (endian : Endian) (bytes : List UInt8) :
    endian.read bytes < 256 ^ bytes.length := by
  cases endian with
  | big => exact beNat_lt bytes
  | little =>
    have small := beNat_lt bytes.reverse
    rw [List.length_reverse] at small
    exact small

/-- **What was stored in network order comes back**, on a host of either byte order. -/
theorem fromBe_read (endian : Endian) (bytes : List UInt8) :
    endian.fromBe bytes.length (endian.read bytes) = beNat bytes := by
  cases endian with
  | big => rfl
  | little =>
    have written := beBytes_beNat bytes.reverse
    rw [List.length_reverse] at written
    rw [fromBe, read, written, List.reverse_reverse]

/-- A `u16` in memory. -/
def readU16 (endian : Endian) (bytes : List UInt8) : UInt16 := UInt16.ofNat (endian.read bytes)

/-- A `u32` in memory. -/
def readU32 (endian : Endian) (bytes : List UInt8) : UInt32 := UInt32.ofNat (endian.read bytes)

/-- `u16::from_be`. -/
def u16FromBe (endian : Endian) (n : UInt16) : UInt16 := UInt16.ofNat (endian.fromBe 2 n.toNat)

/-- `u32::from_be`. -/
def u32FromBe (endian : Endian) (n : UInt32) : UInt32 := UInt32.ofNat (endian.fromBe 4 n.toNat)

theorem u16FromBe_readU16 (endian : Endian) {bytes : List UInt8} (size : bytes.length = 2) :
    endian.u16FromBe (endian.readU16 bytes) = UInt16.ofNat (beNat bytes) := by
  have small := endian.read_lt bytes
  rw [size] at small
  have back := endian.fromBe_read bytes
  rw [size] at back
  rw [u16FromBe, readU16, UInt16.toNat_ofNat_of_lt' small, back]

theorem u32FromBe_readU32 (endian : Endian) {bytes : List UInt8} (size : bytes.length = 4) :
    endian.u32FromBe (endian.readU32 bytes) = UInt32.ofNat (beNat bytes) := by
  have small := endian.read_lt bytes
  rw [size] at small
  have back := endian.fromBe_read bytes
  rw [size] at back
  rw [u32FromBe, readU32, UInt32.toNat_ofNat_of_lt' small, back]

/-- A host reads what was stored in network order as it is exactly when it is big-endian or the
bytes are the same backwards. -/
theorem readU16_eq_iff (endian : Endian) {bytes : List UInt8} (size : bytes.length = 2) :
    endian.readU16 bytes = UInt16.ofNat (beNat bytes) ↔
      endian = .big ∨ bytes.reverse = bytes := by
  have read := endian.read_lt bytes
  have stored := beNat_lt bytes
  rw [size] at read stored
  have values : endian.readU16 bytes = UInt16.ofNat (beNat bytes) ↔
      endian.read bytes = beNat bytes := by
    rw [← UInt16.toNat_inj, readU16, UInt16.toNat_ofNat_of_lt' read,
      UInt16.toNat_ofNat_of_lt' stored]
  rw [values]
  cases endian with
  | big => exact iff_of_true rfl (Or.inl rfl)
  | little =>
    constructor
    · intro same
      exact Or.inr (beNat_inj (List.length_reverse) same)
    · rintro (different | same)
      · exact absurd different (by decide)
      · exact congrArg beNat same

end Endian

/-! ## Addresses and their texts -/

/-- The digits of `{:x}`. -/
def lowerHex (n : Nat) : String := String.ofList (Nat.toDigits 16 n)

/-- The digits of `{:02x}`. -/
def lowerHex2 (n : Nat) : String := String.ofList ((Nat.toDigits 16 n).leftpad 2 '0')

structure Ipv4Addr where
  octets : Octets 4
deriving DecidableEq

namespace Ipv4Addr

/-- `Ipv4Addr::from_bits`, also `From<u32>`. -/
def fromBits (bits : UInt32) : Ipv4Addr := ⟨⟨beBytes 4 bits.toNat, length_beBytes 4 _⟩⟩

/-- `a.b.c.d`. -/
def display (ip : Ipv4Addr) : String :=
  ".".intercalate (ip.octets.toList.map fun octet => toString octet.toNat)

theorem fromBits_beNat (octets : Octets 4) :
    fromBits (UInt32.ofNat (beNat octets.toList)) = ⟨octets⟩ := by
  have small := beNat_lt octets.toList
  have written := beBytes_beNat octets.toList
  rw [List.Vector.toList_length] at small written
  rw [fromBits, UInt32.toNat_ofNat_of_lt' small]
  exact congrArg mk (Subtype.ext written)

end Ipv4Addr

structure Ipv6Addr where
  octets : Octets 16
deriving DecidableEq

/-- A run of segments. -/
structure Span where
  start : Nat
  len : Nat
deriving DecidableEq, Repr

namespace Ipv6Addr

/-- `Ipv6Addr::from_bits`. -/
def fromBits (bits : BitVec 128) : Ipv6Addr := ⟨⟨beBytes 16 bits.toNat, length_beBytes 16 _⟩⟩

/-- The eight 16-bit parts: `Ipv6Addr::segments`. -/
def segmentsOf : List UInt8 → List Nat
  | high :: low :: rest => beNat [high, low] :: segmentsOf rest
  | _ => []

def segments (ip : Ipv6Addr) : List Nat := segmentsOf ip.octets.toList

/-- `Ipv6Addr::to_ipv4_mapped`: the last four octets of `::ffff:a.b.c.d`. -/
def toIpv4Mapped (ip : Ipv6Addr) : Option (List UInt8) :=
  if ip.octets.toList.take 12 = List.replicate 10 0 ++ [255, 255] then
    some (ip.octets.toList.drop 12)
  else
    none

/-- The loop that looks for the longest run of zero segments, the first of the longest. -/
def longestZeroes : Nat → Span → Span → List Nat → Span
  | _, longest, _, [] => longest
  | i, longest, current, segment :: rest =>
    if segment = 0 then
      let current : Span := ⟨if current.len = 0 then i else current.start, current.len + 1⟩
      longestZeroes (i + 1) (if longest.len < current.len then current else longest) current rest
    else
      longestZeroes (i + 1) longest ⟨0, 0⟩ rest

/-- `fmt_subslice`. -/
def fmtSubslice (chunk : List Nat) : String := ":".intercalate (chunk.map lowerHex)

/-- The text of an address: the longest run of two or more zero segments is left out. -/
def display (ip : Ipv6Addr) : String :=
  match ip.toIpv4Mapped with
  | some octets => "::ffff:" ++ ".".intercalate (octets.map fun octet => toString octet.toNat)
  | none =>
    let zeroes := longestZeroes 0 ⟨0, 0⟩ ⟨0, 0⟩ ip.segments
    if 1 < zeroes.len then
      fmtSubslice (ip.segments.take zeroes.start) ++ "::"
        ++ fmtSubslice (ip.segments.drop (zeroes.start + zeroes.len))
    else
      fmtSubslice ip.segments

example : (Ipv6Addr.fromBits 1).display = "::1" := by decide

example : (Ipv6Addr.fromBits 0x00010000000000020000000000000003).display = "1:0:0:2::3" := by decide

example : (Ipv6Addr.fromBits 0xffff01020304).display = "::ffff:1.2.3.4" := by decide

theorem fromBits_beNat (octets : Octets 16) :
    fromBits (BitVec.ofNat 128 (beNat octets.toList)) = ⟨octets⟩ := by
  have small := beNat_lt octets.toList
  have written := beBytes_beNat octets.toList
  rw [List.Vector.toList_length] at small written
  have value : (BitVec.ofNat 128 (beNat octets.toList)).toNat = beNat octets.toList :=
    (BitVec.toNat_ofNat _ _).trans (Nat.mod_eq_of_lt small)
  rw [fromBits]
  exact congrArg mk (Subtype.ext ((congrArg (beBytes 16) value).trans written))

end Ipv6Addr

structure SocketAddrV4 where
  ip : Ipv4Addr
  port : UInt16
deriving DecidableEq

/-- `ip:port`. -/
def SocketAddrV4.display (addr : SocketAddrV4) : String :=
  addr.ip.display ++ ":" ++ toString addr.port.toNat

structure SocketAddrV6 where
  ip : Ipv6Addr
  port : UInt16
  flowinfo : UInt32
  scopeId : UInt32
deriving DecidableEq

/-- `[ip]:port`, or `[ip%scope]:port` with a scope. -/
def SocketAddrV6.display (addr : SocketAddrV6) : String :=
  if addr.scopeId = 0 then
    "[" ++ addr.ip.display ++ "]:" ++ toString addr.port.toNat
  else
    "[" ++ addr.ip.display ++ "%" ++ toString addr.scopeId.toNat ++ "]:" ++ toString addr.port.toNat

end Net
