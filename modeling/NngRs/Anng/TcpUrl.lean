/-
**The URL of an internet address, and `parse_tcp_url`.**

`Url::from_nng` writes an address under the scheme of its endpoint, and `parse_tcp_url` takes the scheme
off again and gives the rest to the standard library. That library's `FromStr` of `SocketAddr` is a
parameter; what is assumed of it is that it reads back what `Display` writes of the address at hand.

* `socketAddr` — what NNG stores in a union of one of the two internet families.
* `Url.scheme_append` — a URL shows the scheme it was made under.
* `tcp_url_round_trip` — over every internet address and every scheme of TCP: what is parsed is what was
  stored, and different addresses have different URLs.
-/

import NngRs.Anng.Url
import NngRs.Runtime.Str
import NngRs.Sys.ErrorKind

namespace Net

/-- `std::net::SocketAddr`. -/
inductive SocketAddr
  | V4 (addr : SocketAddrV4)
  | V6 (addr : SocketAddrV6)
deriving DecidableEq

/-- `Display` of a `SocketAddr`. -/
def SocketAddr.display : SocketAddr → String
  | V4 addr => addr.display
  | V6 addr => addr.display

end Net

namespace NngRs.Anng

open Net Sys

/-- The `io::Error` of a URL that cannot be parsed. -/
structure ParseError where
  kind : IoErrorKind
  message : String
deriving DecidableEq, Repr

/-- The valid schemes of TCP and of TLS. -/
def tcpSchemes : List String := ["tcp", "tcp4", "tcp6", "tls+tcp", "tls+tcp4", "tls+tcp6"]

/-- `parse_tcp_url`, with the standard library's `str::parse::<SocketAddr>`, which fails with a text. -/
def parseTcpUrl (parse : String → Except String SocketAddr) (urlStr : String) :
    Except ParseError SocketAddr :=
  match Str.splitOnce urlStr "://" with
  | none => .error ⟨.InvalidData, "malformed URL: " ++ urlStr⟩
  | some (scheme, addrPart) =>
    if scheme ∈ tcpSchemes then
      match parse addrPart with
      | .ok addr => .ok addr
      | .error e =>
        .error ⟨.InvalidData, "failed to parse socket address from " ++ addrPart ++ ": " ++ e⟩
    else .error ⟨.InvalidData, "unexpected URL scheme in " ++ urlStr⟩

/-- `Url::scheme`; `none` is the panic "Url invariant violated: missing '://' separator". -/
def Url.scheme (url : Url) : Option String := (Str.splitOnce url.text "://").map Prod.fst

/-- What NNG stored in a union of an internet family: the address and the port in network order, the
scope in the order of the host. -/
def socketAddr (endian : Endian) (addr : NngSockaddr) : Option SocketAddr :=
  if (addr.sFamily endian).toNat = NngSockaddrFamily.NNG_AF_INET.value then
    some (.V4 ⟨⟨addr.field 4 4, addr.length_field (by decide)⟩, addr.port⟩)
  else if (addr.sFamily endian).toNat = NngSockaddrFamily.NNG_AF_INET6.value then
    some (.V6 ⟨⟨(addr.sIn6 endian).saAddr⟩, addr.port, 0, (addr.sIn6 endian).saScope⟩)
  else none

variable {endian : Endian} {addr addr' : NngSockaddr} {sockAddr sockAddr' : SocketAddr}
  {scheme : String} {parse : String → Except String SocketAddr}

/-- A URL shows the scheme it was made under. -/
theorem Url.scheme_append {rest : String} (absent : ':' ∉ scheme.toList) :
    Url.scheme ⟨scheme ++ "://" ++ rest⟩ = some scheme := by
  rw [Url.scheme, Str.splitOnce_append absent, Option.map_some]

/-- No scheme of TCP has a colon. -/
theorem colon_not_mem (known : scheme ∈ tcpSchemes) : ':' ∉ scheme.toList := by
  have all : ∀ scheme ∈ tcpSchemes, ':' ∉ scheme.toList := by decide
  exact all scheme known

/-- **The URL of an internet address is its text**, after the scheme. -/
theorem Url.fromNng_internet (stored : socketAddr endian addr = some sockAddr) (scheme : String) :
    Url.fromNng endian addr (Utf8.encode scheme) =
      .ok (some ⟨scheme ++ "://" ++ sockAddr.display⟩) := by
  rw [socketAddr] at stored
  by_cases inet : (addr.sFamily endian).toNat = NngSockaddrFamily.NNG_AF_INET.value
  · rw [if_pos inet] at stored
    cases stored
    exact fromNng_location (.inet inet) scheme
  · rw [if_neg inet] at stored
    obtain ⟨inet6, same⟩ := Option.ite_none_right_eq_some.mp stored
    cases same
    exact fromNng_location (.inet6 inet6) scheme

/-- What is parsed is what was written, under a scheme of TCP. -/
theorem parseTcpUrl_display (known : scheme ∈ tcpSchemes)
    (inverse : parse sockAddr.display = .ok sockAddr) :
    parseTcpUrl parse (scheme ++ "://" ++ sockAddr.display) = .ok sockAddr := by
  rw [parseTcpUrl, Str.splitOnce_append (colon_not_mem known)]
  dsimp only
  rw [if_pos known, inverse]

/-- **Internet addresses survive the way through their URL.** For every address of one of the two
families, under every scheme of TCP: there is a URL, which shows the scheme, and parsing it gives the
address, the port and the scope that NNG stored; and an address with the same URL is the same. -/
theorem tcp_url_round_trip (stored : socketAddr endian addr = some sockAddr)
    (known : scheme ∈ tcpSchemes) (inverse : parse sockAddr.display = .ok sockAddr) :
    ∃ url, Url.fromNng endian addr (Utf8.encode scheme) = .ok (some url)
      ∧ url.scheme = some scheme ∧ parseTcpUrl parse url.text = .ok sockAddr
      ∧ ∀ addr' sockAddr', socketAddr endian addr' = some sockAddr' →
        parse sockAddr'.display = .ok sockAddr' →
        Url.fromNng endian addr' (Utf8.encode scheme) = .ok (some url) → sockAddr' = sockAddr := by
  have parsed := parseTcpUrl_display known inverse
  refine ⟨_, Url.fromNng_internet stored scheme, Url.scheme_append (colon_not_mem known), parsed, ?_⟩
  intro addr' sockAddr' stored' inverse' same
  have url' := Url.fromNng_internet stored' scheme
  have texts : scheme ++ "://" ++ sockAddr'.display = scheme ++ "://" ++ sockAddr.display :=
    congrArg Url.text (Option.some.inj (Except.ok.inj (url'.symm.trans same)))
  have parsed' := parseTcpUrl_display known inverse'
  rw [texts] at parsed'
  exact Except.ok.inj (parsed'.symm.trans parsed)

/-- `[::1%7]` with the last port, on a little-endian host. -/
def scopedLoopback6 : NngSockaddr :=
  ⟨[4, 0, 255, 255, 7, 0, 0, 0] ++ List.replicate 15 0 ++ [1] ++ List.replicate 112 0, rfl⟩

/-- What `scopedLoopback6` stores. -/
def scopedLoopback6Stored : SocketAddr :=
  .V6 ⟨⟨⟨[0, 0, 0, 0, 0, 0, 0, 0, 0, 0, 0, 0, 0, 0, 0, 1], rfl⟩⟩, 65535, 0, 7⟩

/-- `str::parse::<SocketAddr>`, on the text of that address. -/
def parseScopedLoopback6 (text : String) : Except String SocketAddr :=
  if text = "[::1%7]:65535" then .ok scopedLoopback6Stored else .error "invalid socket address syntax"

theorem tcp_url_scoped_loopback6 :
    ∃ url, Url.fromNng .little scopedLoopback6 (Utf8.encode "tls+tcp6") = .ok (some url)
      ∧ url.scheme = some "tls+tcp6"
      ∧ parseTcpUrl parseScopedLoopback6 url.text = .ok scopedLoopback6Stored := by
  have stored : socketAddr .little scopedLoopback6 = some scopedLoopback6Stored := by decide
  have known : "tls+tcp6" ∈ tcpSchemes := by decide
  have inverse : parseScopedLoopback6 scopedLoopback6Stored.display = .ok scopedLoopback6Stored :=
    if_pos (by decide)
  obtain ⟨url, made, scheme, parsed, -⟩ := tcp_url_round_trip stored known inverse
  exact ⟨url, made, scheme, parsed⟩

end NngRs.Anng
