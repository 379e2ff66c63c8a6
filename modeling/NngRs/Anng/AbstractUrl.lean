/-
**The URL of an abstract address, decoded again.**

Both crates write the graphic bytes of an abstract name as they are, and the others as percent escapes.
The percent sign is a graphic byte, so a name that holds the text of an escape has the URL of another
name. A decoder may take a percent sign without digits as it is or refuse it, and both are considered.

* `decodeAfter_encodeName_iff` — an encoded name is decoded to itself exactly when it is reversible.
* `abstract_url_iff` — over every abstract name: the URL of `Url::from_nng` and the text of
  `nng::SocketAddr` give the name back exactly when it is reversible, and then no other one has them.
-/

import NngRs.Anng.Url
import NngRs.Runtime.Percent
import NngRs.Runtime.Str

namespace NngRs.Anng

open Net Sys Percent

/-- A byte that is the code of a hexadecimal digit. -/
def isHex (byte : UInt8) : Bool := (hexDigit (Char.ofNat byte.toNat)).isSome

/-- Two such bytes come first. -/
def startsHexPair : List UInt8 → Bool
  | high :: low :: _ => isHex high && isHex low
  | _ => false

/-- A percent sign and two such bytes occur. -/
def hasEscape : List UInt8 → Bool
  | [] => false
  | byte :: rest => byte == 37 && startsHexPair rest || hasEscape rest

/-- **A name that its text can be decoded to**: it has no percent sign, or none that begins an escape,
for a decoder that takes the others as they are. -/
def Reversible (malformed : Malformed) (name : List UInt8) : Prop :=
  match malformed with
  | .literal => hasEscape name = false
  | .refused => 37 ∉ name

instance (malformed : Malformed) (name : List UInt8) : Decidable (Reversible malformed name) := by
  unfold Reversible
  cases malformed <;> infer_instance

/-- The name in a URL: what follows the scheme, decoded. -/
def abstractName (malformed : Malformed) (url : String) : Option (List UInt8) :=
  (Str.splitOnce url "://").bind fun parts => decode malformed parts.2

/-! ### One byte -/

/-- The characters of one byte of a name. -/
def encodeByte (byte : UInt8) : List Char :=
  if 33 ≤ byte.toNat ∧ byte.toNat ≤ 126 then [Char.ofNat byte.toNat]
  else '%' :: (lowerHex2 byte.toNat).toList

/-- The characters of a name. -/
def encodeName (name : List UInt8) : List Char := name.flatMap encodeByte

theorem toList_percentEncode (name : List UInt8) : (percentEncode name).toList = encodeName name :=
  String.toList_ofList

section Bytes

variable {byte : UInt8}

theorem toNat_byteChar (byte : UInt8) : (Char.ofNat byte.toNat).toNat = byte.toNat := by
  have all : ∀ n < 256, (Char.ofNat n).toNat = n := by decide +kernel
  exact all byte.toNat byte.toNat_lt

/-- An escape of a byte is decoded to it. -/
theorem hexPair_lowerHex2 (byte : UInt8) : ∃ high low, (lowerHex2 byte.toNat).toList = [high, low] ∧
    ∀ text, hexPair (high :: low :: text) = some byte := by
  have digits : ∀ n < 256, (lowerHex2 n).toList = [Nat.digitChar (n / 16), Nat.digitChar (n % 16)] := by
    decide +kernel
  have values : ∀ n < 16, hexDigit (Nat.digitChar n) = some n := by decide
  have small := byte.toNat_lt
  refine ⟨_, _, digits byte.toNat small, fun text => ?_⟩
  rw [hexPair, values _ (by omega), values _ (by omega)]
  dsimp only
  rw [Nat.div_add_mod, UInt8.ofNat_toNat]

/-- A graphic byte is its own encoding. -/
theorem utf8EncodeChar_graphic (graphic : byte.toNat ≤ 126) :
    String.utf8EncodeChar (Char.ofNat byte.toNat) = [byte] := by
  have all : ∀ n < 127, String.utf8EncodeChar (Char.ofNat n) = [UInt8.ofNat n] := by
    decide +kernel
  rw [all byte.toNat (by omega), UInt8.ofNat_toNat]

/-- The codes of digits are graphic bytes. -/
theorem graphic_of_isHex (hex : isHex byte = true) : 33 ≤ byte.toNat ∧ byte.toNat ≤ 126 := by
  rw [isHex, hexDigit, toNat_byteChar] at hex
  split_ifs at hex
  · omega
  · omega
  · omega
  · cases hex

theorem encodeByte_isHex (hex : isHex byte = true) : encodeByte byte = [Char.ofNat byte.toNat] :=
  if_pos (graphic_of_isHex hex)

/-- The first character of a byte is a digit only if the byte is the code of one. -/
theorem encodeByte_hex {c : Char} {more : List Char} (encoded : encodeByte byte = c :: more) :
    (hexDigit c).isSome = isHex byte ∧ (isHex byte = true → more = []) := by
  by_cases graphic : 33 ≤ byte.toNat ∧ byte.toNat ≤ 126
  · rw [encodeByte, if_pos graphic] at encoded
    cases encoded
    exact ⟨rfl, fun _ => rfl⟩
  · rw [encodeByte, if_neg graphic] at encoded
    cases encoded
    have percent : (hexDigit '%').isSome = false := by decide
    have other : isHex byte = false := by
      rw [Bool.eq_false_iff]
      exact fun hex => graphic (graphic_of_isHex hex)
    rw [percent, other]
    exact ⟨rfl, fun hex => absurd hex Bool.false_ne_true⟩

theorem encodeByte_cons (byte : UInt8) : ∃ c more, encodeByte byte = c :: more := by
  by_cases graphic : 33 ≤ byte.toNat ∧ byte.toNat ≤ 126
  · exact ⟨_, _, if_pos graphic⟩
  · exact ⟨_, _, if_neg graphic⟩

end Bytes

/-! ### A whole name -/

variable {malformed : Malformed} {byte : UInt8} {name rest : List UInt8} {text : List Char}

/-- A byte that is no percent sign is decoded to itself. -/
theorem decodeAfter_byte (other : byte ≠ 37) :
    decodeAfter malformed 0 (encodeByte byte ++ text) =
      (decodeAfter malformed 0 text).map (byte :: ·) := by
  by_cases graphic : 33 ≤ byte.toNat ∧ byte.toNat ≤ 126
  · have sign : Char.ofNat byte.toNat ≠ '%' := by
      intro same
      have code := congrArg Char.toNat same
      rw [toNat_byteChar] at code
      exact other (UInt8.toNat_inj.mp code)
    rw [encodeByte, if_pos graphic, List.singleton_append, decodeAfter_other sign,
      utf8EncodeChar_graphic graphic.2]
    rfl
  · obtain ⟨high, low, digits, pair⟩ := hexPair_lowerHex2 byte
    rw [encodeByte, if_neg graphic, digits]
    exact decodeAfter_escape (pair text)

/-- The text of a name begins with two digits exactly when the name does. -/
theorem hexPair_encodeName (rest : List UInt8) :
    (hexPair (encodeName rest)).isSome = startsHexPair rest := by
  cases rest with
  | nil => rfl
  | cons high rest =>
    obtain ⟨c, more, encoded⟩ := encodeByte_cons high
    obtain ⟨digit, single⟩ := encodeByte_hex encoded
    rw [encodeName, List.flatMap_cons, encoded, List.cons_append]
    by_cases hex : isHex high = true
    · rw [single hex, List.nil_append]
      cases rest with
      | nil => rfl
      | cons low rest =>
        obtain ⟨c', more', encoded'⟩ := encodeByte_cons low
        rw [List.flatMap_cons, encoded', List.cons_append, hexPair_isSome, digit,
          (encodeByte_hex encoded').1]
        rfl
    · rw [Bool.not_eq_true] at hex
      have starts : startsHexPair (high :: rest) = false := by
        cases rest with
        | nil => rfl
        | cons low rest =>
          rw [startsHexPair, hex]
          rfl
      rw [starts]
      cases tail : more ++ List.flatMap encodeByte rest with
      | nil => rfl
      | cons c' text => rw [hexPair_isSome, digit, hex, Bool.false_and]

/-- What a decoder makes of a percent sign in a name: an escape with the next two bytes, or what it makes
of a malformed one. -/
theorem decodeAfter_percent (malformed : Malformed) (rest : List UInt8) :
    (∃ high low rest' byte, rest = high :: low :: rest' ∧ startsHexPair rest = true
        ∧ decodeAfter malformed 0 (encodeName (37 :: rest)) =
          (decodeAfter malformed 0 (encodeName rest')).map (byte :: ·))
      ∨ startsHexPair rest = false
        ∧ decodeAfter malformed 0 (encodeName (37 :: rest)) =
          if malformed = .literal then (decodeAfter malformed 0 (encodeName rest)).map (37 :: ·)
          else none := by
  have pair := hexPair_encodeName rest
  cases starts : startsHexPair rest with
  | false =>
    rw [starts, Option.isSome_eq_false_iff, Option.isNone_iff_eq_none] at pair
    exact Or.inr ⟨rfl, decodeAfter_malformed pair⟩
  | true =>
    match rest with
    | [] | [_] => cases starts
    | high :: low :: rest' =>
      obtain ⟨hex, hex'⟩ := Bool.and_eq_true_iff.mp starts
      have shown : encodeName (high :: low :: rest') =
          Char.ofNat high.toNat :: Char.ofNat low.toNat :: encodeName rest' := by
        rw [encodeName, List.flatMap_cons, List.flatMap_cons, encodeByte_isHex hex, encodeByte_isHex hex']
        rfl
      rw [shown, starts] at pair
      obtain ⟨byte, found⟩ := Option.isSome_iff_exists.mp pair
      refine Or.inl ⟨high, low, rest', byte, rfl, rfl, ?_⟩
      show decodeAfter malformed 0 ('%' :: encodeName (high :: low :: rest')) = _
      rw [shown]
      exact decodeAfter_escape found

/-- **Decoding the text of a name gives no more bytes than the name has.** -/
theorem length_decodeAfter_encodeName (name : List UInt8) {bytes : List UInt8}
    (decoded : decodeAfter malformed 0 (encodeName name) = some bytes) :
    bytes.length ≤ name.length := by
  match name with
  | [] =>
    cases decoded
    exact Nat.le_refl 0
  | byte :: rest =>
    by_cases sign : byte = 37
    · rw [sign] at decoded
      obtain ⟨high, low, rest', byte', shape, -, escape⟩ | ⟨-, single⟩ :=
        decodeAfter_percent malformed rest
      · rw [escape] at decoded
        obtain ⟨later, found, rfl⟩ := Option.map_eq_some_iff.mp decoded
        have shorter := length_decodeAfter_encodeName rest' found
        rw [shape]
        simp only [List.length_cons]
        omega
      · rw [single] at decoded
        obtain ⟨-, same⟩ := Option.ite_none_right_eq_some.mp decoded
        obtain ⟨later, found, rfl⟩ := Option.map_eq_some_iff.mp same
        exact Nat.succ_le_succ (length_decodeAfter_encodeName rest found)
    · rw [encodeName, List.flatMap_cons, decodeAfter_byte sign] at decoded
      obtain ⟨later, found, rfl⟩ := Option.map_eq_some_iff.mp decoded
      exact Nat.succ_le_succ (length_decodeAfter_encodeName rest found)
termination_by name.length
decreasing_by
  · rw [shape, List.length_cons, List.length_cons, List.length_cons]
    omega
  · exact Nat.lt_succ_self _
  · exact Nat.lt_succ_self _

theorem reversible_cons (other : byte ≠ 37) :
    Reversible malformed (byte :: rest) ↔ Reversible malformed rest := by
  cases malformed with
  | literal =>
    have differs : (byte == 37) = false := beq_eq_false_iff_ne.mpr other
    rw [Reversible, Reversible, hasEscape, differs, Bool.false_and, Bool.false_or]
  | refused =>
    rw [Reversible, Reversible, List.mem_cons, not_or]
    exact and_iff_right other.symm

theorem reversible_percent : Reversible malformed (37 :: rest) ↔
    malformed = .literal ∧ startsHexPair rest = false ∧ Reversible malformed rest := by
  cases malformed with
  | literal =>
    rw [Reversible, Reversible, hasEscape, Bool.or_eq_false_iff]
    exact (and_iff_right rfl).symm
  | refused =>
    rw [Reversible]
    exact iff_of_false (fun absent => absent List.mem_cons_self) (fun both => nomatch both.1)

theorem map_cons_eq_some {decoded : Option (List UInt8)} :
    decoded.map (byte :: ·) = some (byte :: rest) ↔ decoded = some rest := by
  cases decoded with
  | none => exact iff_of_false (fun same => nomatch same) (fun same => nomatch same)
  | some bytes => rw [Option.map_some, Option.some.injEq, Option.some.injEq, List.cons_inj_right]

/-- **The text of a name is decoded to the name exactly when the name is reversible.** -/
theorem decodeAfter_encodeName_iff (name : List UInt8) :
    decodeAfter malformed 0 (encodeName name) = some name ↔ Reversible malformed name := by
  induction name with
  | nil =>
    refine iff_of_true rfl ?_
    cases malformed with
    | literal => rfl
    | refused => exact List.not_mem_nil
  | cons byte rest ih =>
    by_cases sign : byte = 37
    · rw [sign, reversible_percent]
      obtain ⟨high, low, rest', byte', shape, starts, escape⟩ | ⟨starts, single⟩ :=
        decodeAfter_percent malformed rest
      · refine iff_of_false (fun decoded => ?_) (fun both => ?_)
        · -- the escape gives one byte for three
          rw [escape] at decoded
          obtain ⟨later, found, same⟩ := Option.map_eq_some_iff.mp decoded
          have shorter := length_decodeAfter_encodeName rest' found
          have length := congrArg List.length same
          rw [shape] at length
          simp only [List.length_cons] at length
          omega
        · rw [starts] at both
          cases both.2.1
      · rw [single]
        by_cases literal : malformed = .literal
        · rw [if_pos literal, map_cons_eq_some, ih]
          exact ⟨fun reversible => ⟨literal, starts, reversible⟩, fun both => both.2.2⟩
        · rw [if_neg literal]
          exact iff_of_false (fun same => nomatch same) (fun both => literal both.1)
    · rw [encodeName, List.flatMap_cons, decodeAfter_byte sign, map_cons_eq_some,
        reversible_cons sign]
      exact ih

/-- A URL of the scheme `abstract` gives its name back exactly when the name is reversible. -/
theorem abstractName_iff (malformed : Malformed) (name : List UInt8) :
    abstractName malformed ("abstract://" ++ percentEncode name) = some name ↔
      Reversible malformed name := by
  have scheme : "abstract://" = "abstract" ++ "://" := by decide
  have absent : ':' ∉ "abstract".toList := by decide
  rw [← decodeAfter_encodeName_iff, abstractName, scheme, Str.splitOnce_append absent,
    Option.bind_some, decode, toList_percentEncode]

/-- **The text of an abstract name gives the name back exactly when the name is reversible**, in the URL
of `Url::from_nng` and in the text of `nng::SocketAddr`; and reversible names have different texts. -/
theorem abstract_url_iff (endian : Endian) (malformed : Malformed) (name : List UInt8) :
    (∀ addr : NngSockaddr, addr.Stores endian (.abstract name) →
        ∃ url, Url.fromNng endian addr (Utf8.encode "abstract") = .ok (some url)
          ∧ (abstractName malformed url.text = some name ↔ Reversible malformed name))
      ∧ (abstractName malformed (Nng.SocketAddr.Abstract name).display = some name ↔
          Reversible malformed name)
      ∧ ∀ name', Reversible malformed name → Reversible malformed name' →
          percentEncode name = percentEncode name' → name = name' := by
  refine ⟨fun addr stored => ?_, abstractName_iff malformed name, ?_⟩
  · have url : (Stored.abstract name).url = "abstract://" ++ percentEncode name :=
      congrArg (· ++ percentEncode name) (by decide : "abstract" ++ "://" = "abstract://")
    refine ⟨_, Url.fromNng_stored stored, ?_⟩
    dsimp only
    rw [url]
    exact abstractName_iff malformed name
  · intro name' reversible reversible' same
    have decoded := (abstractName_iff malformed name).mpr reversible
    have decoded' := (abstractName_iff malformed name').mpr reversible'
    rw [same] at decoded
    exact Option.some.inj (decoded.symm.trans decoded')

/-- An address with a name of three bytes, on a little-endian host. -/
def escapeLike : NngSockaddr := ⟨[5, 0, 3, 0, 37, 48, 48] ++ List.replicate 129 0, rfl⟩

/-- An address with a name of one zero byte, on a little-endian host. -/
def zeroName : NngSockaddr := ⟨[5, 0, 1, 0] ++ List.replicate 132 0, rfl⟩

/-- **Not every abstract name is given back**: the three bytes of `%00` have the URL of a zero byte. -/
theorem abstract_url_ambiguous :
    Url.fromNng .little escapeLike (Utf8.encode "abstract") =
        Url.fromNng .little zeroName (Utf8.encode "abstract")
      ∧ ¬ ∀ (endian : Endian) (addr : NngSockaddr) (malformed : Malformed) (name : List UInt8),
        addr.Stores endian (.abstract name) → ∀ url,
          Url.fromNng endian addr (Utf8.encode "abstract") = .ok (some url) →
          abstractName malformed url.text = some name := by
  have stored : escapeLike.Stores .little (.abstract [37, 48, 48]) := .abstract rfl (by decide)
  have stored' : zeroName.Stores .little (.abstract [0]) := .abstract rfl (by decide)
  have url := Url.fromNng_stored stored
  have url' := Url.fromNng_stored stored'
  have texts : (Stored.abstract [37, 48, 48]).url = (Stored.abstract [0]).url := by decide
  refine ⟨?_, fun always => ?_⟩
  · rw [texts] at url
    exact url.trans url'.symm
  · have name := always .little escapeLike .literal _ stored _ url
    have zero := always .little zeroName .literal _ stored' _ url'
    dsimp only at name zero
    rw [texts, zero] at name
    exact absurd name (by decide)

end NngRs.Anng
