/-
**`Url::from_nng`, and the two decoders of an address next to each other.**

Both crates turn the union in which NNG reports an address into a text. `Url::from_nng` writes what
NNG stored, whatever the byte order of the host. `nng::SocketAddr` reads the port without `from_be`,
drops the scope, and does not know the abstract family.

* `Url.fromNng_location`, `Url.fromNng_stored` — over every address that NNG stores: the URL is the one
  of what it stored.
* `decoders_agree_iff` — the two texts agree exactly on names, on paths, and on internet addresses
  without a scope whose port the host reads as it is stored.
-/

import NngRs.Nng.Addr

namespace NngRs.Anng

open Net Sys

/-- A URL that was built from an address. -/
structure Url where
  text : String
deriving DecidableEq, Repr

namespace Url

/-- `Url::from_nng`, with the bytes of the scheme. -/
def fromNng (endian : Endian) (addr : NngSockaddr) (scheme : List UInt8) :
    Except Trap (Option Url) :=
  match Utf8.fromUtf8 scheme with
  | none => .ok none
  | some scheme =>
    let sFamily := (addr.sFamily endian).toNat
    if sFamily = NngSockaddrFamily.NNG_AF_UNSPEC.value then .ok none
    else if sFamily = NngSockaddrFamily.NNG_AF_INET.value then
      let saAddr := endian.u32FromBe (addr.sIn endian).saAddr
      let saPort := endian.u16FromBe (addr.sIn endian).saPort
      let ip := Ipv4Addr.fromBits saAddr
      .ok (some ⟨scheme ++ "://" ++ (ip.display ++ ":" ++ toString saPort.toNat)⟩)
    else if sFamily = NngSockaddrFamily.NNG_AF_INET6.value then
      let saPort := endian.u16FromBe (addr.sIn6 endian).saPort
      -- `u128::from_be_bytes`
      let bits := BitVec.ofNat 128 (beNat (addr.sIn6 endian).saAddr.toList)
      let sockAddr : SocketAddrV6 := ⟨Ipv6Addr.fromBits bits, saPort, 0, (addr.sIn6 endian).saScope⟩
      .ok (some ⟨scheme ++ "://" ++ sockAddr.display⟩)
    else if sFamily = NngSockaddrFamily.NNG_AF_IPC.value then do
      let path ← cStr addr.saName
      .ok (some ⟨scheme ++ "://" ++ Utf8.fromUtf8Lossy path⟩)
    else if sFamily = NngSockaddrFamily.NNG_AF_ABSTRACT.value then do
      let name ← sliceTo (addr.sAbstract endian).saName (addr.sAbstract endian).saLen.toNat
      .ok (some ⟨scheme ++ "://" ++ percentEncode name⟩)
    else if sFamily = NngSockaddrFamily.NNG_AF_INPROC.value then do
      let name ← cStr addr.saName
      .ok (some ⟨scheme ++ "://" ++ Utf8.fromUtf8Lossy name⟩)
    else .error (.unimplemented sFamily)

variable {endian : Endian} {addr : NngSockaddr} {what : Stored}

/-- **The URL shows what NNG stored**, on a host of either byte order, under any scheme. -/
theorem fromNng_location (stored : addr.Stores endian what) (scheme : String) :
    fromNng endian addr (Utf8.encode scheme) = .ok (some ⟨scheme ++ "://" ++ what.location⟩) := by
  rw [fromNng, Utf8.fromUtf8_encode]
  dsimp only
  cases stored with
  | inproc family terminated =>
    simp only [family, NngSockaddrFamily.value, cStr, if_pos terminated]
    rfl
  | ipc family terminated =>
    simp only [family, NngSockaddrFamily.value, cStr, if_pos terminated]
    rfl
  | inet family =>
    have port := addr.u16FromBe_port endian
    have ip := addr.fromBits_saAddr endian
    simp only [family, NngSockaddrFamily.value, NngSockaddr.sIn] at ip ⊢
    rw [port, ip]
    rfl
  | inet6 family =>
    have port := addr.u16FromBe_port endian
    have ip := Ipv6Addr.fromBits_beNat (addr.sIn6 endian).saAddr
    simp only [family, NngSockaddrFamily.value, NngSockaddr.sIn6] at ip ⊢
    rw [port, ip]
    rfl
  | abstract family inside =>
    have slice : sliceTo (addr.sAbstract endian).saName (addr.sAbstract endian).saLen.toNat =
        .ok ((addr.sAbstract endian).saName.take (addr.sAbstract endian).saLen.toNat) := by
      rw [sliceTo, if_pos]
      exact inside.trans (addr.length_field (by decide)).ge
    simp only [family, NngSockaddrFamily.value, slice]
    rfl

/-- **The URL is the one of what NNG stored**, on a host of either byte order. -/
theorem fromNng_stored (stored : addr.Stores endian what) :
    fromNng endian addr (Utf8.encode what.scheme) = .ok (some ⟨what.url⟩) :=
  fromNng_location stored what.scheme

end Url

/-! ## The two decoders -/

/-- Both decoders return on the address, neither says that there is none, and the text of the one is
the URL of the other and of what NNG stored. -/
def DecodersAgree (endian : Endian) (addr : NngSockaddr) (what : Stored) : Prop :=
  ∃ shown url, Nng.SocketAddr.fromNng endian addr = .ok shown
    ∧ Url.fromNng endian addr (Utf8.encode what.scheme) = .ok (some url)
    ∧ shown ≠ .Unspecified ∧ shown.display = url.text ∧ url.text = what.url

/-- The host reads the port of an internet address as it is stored: the host is big-endian, or the
two bytes of the port are equal. -/
def PortKept (endian : Endian) (addr : NngSockaddr) : Prop :=
  endian = .big ∨ (addr.field 2 2).reverse = addr.field 2 2

/-- What `nng::SocketAddr` shows as it is stored. -/
def ShownAsStored (endian : Endian) (addr : NngSockaddr) : Stored → Prop
  | .inproc _ | .ipc _ => True
  | .inet _ _ => PortKept endian addr
  | .inet6 _ _ scope => PortKept endian addr ∧ scope = 0
  | .abstract _ => False

variable {endian : Endian} {addr : NngSockaddr} {what : Stored}

/-- `Url::from_nng` is right, so it is about what `nng::SocketAddr` shows. -/
theorem decodersAgree_iff_display (stored : addr.Stores endian what) {shown : Nng.SocketAddr}
    (decoded : Nng.SocketAddr.fromNng endian addr = .ok shown) :
    DecodersAgree endian addr what ↔ shown ≠ .Unspecified ∧ shown.display = what.url := by
  constructor
  · rintro ⟨shown', url, decoded', -, known, text, right⟩
    obtain rfl : shown = shown' := Except.ok.inj (decoded.symm.trans decoded')
    exact ⟨known, text.trans right⟩
  · rintro ⟨known, text⟩
    exact ⟨shown, ⟨what.url⟩, decoded, Url.fromNng_stored stored, known, text, rfl⟩

theorem toString_port_inj {port port' : UInt16} :
    toString port.toNat = toString port'.toNat ↔ port = port' := by
  constructor
  · intro same
    have digits : Nat.toDigits 10 port.toNat = Nat.toDigits 10 port'.toNat :=
      String.ofList_injective same
    have value := congrArg (fun digits => Nat.ofDigitChars 10 digits 0) digits
    simp only [Nat.ofDigitChars_toDigits (by decide : 1 < 10) (Nat.le_refl 10)] at value
    exact UInt16.toNat_inj.mp value
  · rintro rfl
    rfl

/-- The text shows the port that was read. -/
theorem display_inet (ip : Ipv4Addr) (port port' : UInt16) :
    (Nng.SocketAddr.Inet ⟨ip, port⟩).display = (Stored.inet ip port').url ↔ port = port' := by
  show "tcp://" ++ (ip.display ++ ":" ++ toString port.toNat) =
    "tcp://" ++ (ip.display ++ ":" ++ toString port'.toNat) ↔ _
  rw [String.append_right_inj, String.append_right_inj, toString_port_inj]

/-- The text shows the port that was read, and no scope. -/
theorem display_inet6 (ip : Ipv6Addr) (port port' : UInt16) (scope : UInt32) :
    (Nng.SocketAddr.Inet6 ⟨ip, port, 0, 0⟩).display = (Stored.inet6 ip port' scope).url ↔
      port = port' ∧ scope = 0 := by
  show "tcp://" ++ ("[" ++ ip.display ++ "]:" ++ toString port.toNat) =
    "tcp://" ++ (SocketAddrV6.mk ip port' 0 scope).display ↔ _
  rw [String.append_right_inj, SocketAddrV6.display]
  by_cases zero : scope = 0
  · rw [if_pos zero, String.append_right_inj, toString_port_inj, and_iff_left zero]
  · rw [if_neg zero]
    refine iff_of_false ?_ (fun both => zero both.2)
    -- after the address, one text goes on with `]` and the other with `%`
    simp only [String.append_assoc, String.append_right_inj]
    intro same
    have first := congrArg (fun text => text.toList.head?) same
    simp only [String.toList_append] at first
    exact absurd first (by simp)

/-- **The two texts of an address agree exactly on names, on paths, and on internet addresses
without a scope whose port the host reads as it is stored.** -/
theorem decoders_agree_iff (endian : Endian) (addr : NngSockaddr) (what : Stored)
    (stored : addr.Stores endian what) :
    DecodersAgree endian addr what ↔ ShownAsStored endian addr what := by
  cases stored with
  | inproc family terminated =>
    rw [decodersAgree_iff_display (.inproc family terminated)
      (Nng.SocketAddr.fromNng_inproc family)]
    exact iff_of_true ⟨by rintro ⟨⟩, rfl⟩ trivial
  | ipc family terminated =>
    rw [decodersAgree_iff_display (.ipc family terminated) (Nng.SocketAddr.fromNng_ipc family)]
    refine iff_of_true ⟨by rintro ⟨⟩, ?_⟩ trivial
    -- the lossy text of the path is taken a second time
    rw [Nng.SocketAddr.display, Utf8.fromUtf8Lossy_encode]
    rfl
  | inet family =>
    rw [decodersAgree_iff_display (.inet family) (Nng.SocketAddr.fromNng_inet family),
      display_inet, addr.readU16_port_iff]
    exact and_iff_right (by rintro ⟨⟩)
  | inet6 family =>
    rw [decodersAgree_iff_display (.inet6 family) (Nng.SocketAddr.fromNng_inet6 family),
      display_inet6, addr.readU16_port_iff]
    exact and_iff_right (by rintro ⟨⟩)
  | abstract family inside =>
    rw [decodersAgree_iff_display (.abstract family inside)
      (Nng.SocketAddr.fromNng_abstract family)]
    exact iff_of_false (fun both => both.1 rfl) id

/-- `[::1]` with the port `10794`, whose two bytes are equal, on a little-endian host. -/
def loopback6 : NngSockaddr :=
  ⟨[4, 0, 42, 42, 0, 0, 0, 0] ++ List.replicate 15 0 ++ [1] ++ List.replicate 112 0, rfl⟩

/-- What `loopback6` stores. -/
def loopback6Stored : Stored := .inet6 ⟨⟨List.replicate 15 0 ++ [1], rfl⟩⟩ 10794 0

theorem decoders_agree_loopback6 : DecodersAgree .little loopback6 loopback6Stored := by
  have stored : loopback6.Stores .little loopback6Stored := .inet6 rfl
  exact (decoders_agree_iff .little loopback6 loopback6Stored stored).mpr ⟨Or.inr rfl, rfl⟩

/-- `127.0.0.1` with the port `8080`, on a little-endian host. -/
def loopback : NngSockaddr := ⟨[3, 0, 31, 144, 127, 0, 0, 1] ++ List.replicate 128 0, rfl⟩

example : (Url.fromNng .little loopback (Utf8.encode "tcp")) =
    .ok (some ⟨"tcp://127.0.0.1:8080"⟩) := by decide

/-- **Not every address is shown alike**: `nng::SocketAddr` shows `127.0.0.1:8080` with the two bytes
of the port swapped. -/
theorem loopback_shown_differently :
    (Nng.SocketAddr.fromNng .little loopback).map Nng.SocketAddr.display =
        .ok "tcp://127.0.0.1:36895"
      ∧ ¬ ∀ endian addr what, addr.Stores endian what → DecodersAgree endian addr what := by
  have decoded : Nng.SocketAddr.fromNng .little loopback =
      .ok (.Inet ⟨⟨⟨[127, 0, 0, 1], rfl⟩⟩, 36895⟩) := Nng.SocketAddr.fromNng_inet rfl
  constructor
  · rw [decoded]
    decide
  · intro always
    have stored : loopback.Stores .little (.inet ⟨⟨[127, 0, 0, 1], rfl⟩⟩ 8080) := .inet rfl
    have agree := always .little loopback _ stored
    rw [decodersAgree_iff_display stored decoded, display_inet] at agree
    exact absurd agree.2 (by decide)

end NngRs.Anng
