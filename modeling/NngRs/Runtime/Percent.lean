/-
**Percent-decoding of a text.**

A percent sign and two hexadecimal digits stand for a byte, and every other character for the bytes of
its encoding. Decoders differ in what they make of a percent sign without two digits behind it: some
take it as it is, others refuse the text.

* `decodeAfter_escape` — an escape is decoded to its byte.
* `decodeAfter_other` — a character that is no percent sign is decoded to itself.
-/

import Mathlib.Data.UInt

namespace Percent

/-- The value of a hexadecimal digit: `char::to_digit(16)`. -/
def hexDigit (c : Char) : Option Nat :=
  if 48 ≤ c.toNat ∧ c.toNat ≤ 57 then some (c.toNat - 48)
  else if 97 ≤ c.toNat ∧ c.toNat ≤ 102 then some (c.toNat - 87)
  else if 65 ≤ c.toNat ∧ c.toNat ≤ 70 then some (c.toNat - 55)
  else none

/-- The byte of two hexadecimal digits at the start of a text. -/
def hexPair : List Char → Option UInt8
  | high :: low :: _ =>
    match hexDigit high, hexDigit low with
    | some high, some low => some (UInt8.ofNat (16 * high + low))
    | _, _ => none
  | _ => none

/-- What a decoder makes of a percent sign without two digits behind it. -/
inductive Malformed
  | literal
  | refused
deriving DecidableEq, Repr

/-- The bytes of the first character of a text, or of the escape it begins, and how many more characters
that has. -/
def first (malformed : Malformed) (c : Char) (text : List Char) : Option (List UInt8 × Nat) :=
  if c = '%' then
    match hexPair text with
    | some byte => some ([byte], 2)
    | none => if malformed = .literal then some ([37], 0) else none
  else some (String.utf8EncodeChar c, 0)

/-- The bytes of a text, after `skip` more characters of the escape before. -/
def decodeAfter (malformed : Malformed) : Nat → List Char → Option (List UInt8)
  | _, [] => some []
  | skip + 1, _ :: text => decodeAfter malformed skip text
  | 0, c :: text =>
    (first malformed c text).bind fun part => (decodeAfter malformed part.2 text).map (part.1 ++ ·)

/-- Percent-decoding. -/
def decode (malformed : Malformed) (text : String) : Option (List UInt8) :=
  decodeAfter malformed 0 text.toList

example : decode .refused "hello%20world" = decode .literal "hello world" := by decide

variable {malformed : Malformed} {text : List Char}

/-- **An escape is decoded to its byte.** -/
theorem decodeAfter_escape {high low : Char} {byte : UInt8}
    (pair : hexPair (high :: low :: text) = some byte) :
    decodeAfter malformed 0 ('%' :: high :: low :: text) =
      (decodeAfter malformed 0 text).map (byte :: ·) := by
  rw [decodeAfter, first, if_pos rfl, pair]
  rfl

/-- A percent sign without two digits behind it is as the decoder has it. -/
theorem decodeAfter_malformed (pair : hexPair text = none) :
    decodeAfter malformed 0 ('%' :: text) =
      if malformed = .literal then (decodeAfter malformed 0 text).map (37 :: ·) else none := by
  rw [decodeAfter, first, if_pos rfl, pair]
  by_cases literal : malformed = .literal
  · rw [if_pos literal]
    dsimp only
    rw [if_pos literal]
    rfl
  · rw [if_neg literal]
    dsimp only
    rw [if_neg literal]
    rfl

/-- **A character that is no percent sign is decoded to itself.** -/
theorem decodeAfter_other {c : Char} (other : c ≠ '%') :
    decodeAfter malformed 0 (c :: text) =
      (decodeAfter malformed 0 text).map (String.utf8EncodeChar c ++ ·) := by
  rw [decodeAfter, first, if_neg other]
  rfl

/-- Two characters are a pair exactly when both are digits. -/
theorem hexPair_isSome {high low : Char} :
    (hexPair (high :: low :: text)).isSome = ((hexDigit high).isSome && (hexDigit low).isSome) := by
  rw [hexPair]
  cases hexDigit high with
  | none => rfl
  | some value => cases hexDigit low <;> rfl

end Percent
