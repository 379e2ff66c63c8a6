/-
**UTF-8 text, as the standard library reads it from bytes.**

A byte string is a sequence of chunks: a character that its bytes encode, or an invalid chunk, the
longest run of bytes that starts an encoding and does not finish it. The strict reading refuses
every invalid chunk and the lossy one shows each as one replacement character.

* `chunks_encode` — the chunks of an encoded text are its characters.
* `fromUtf8_encode`, `fromUtf8Lossy_encode` — both readings give an encoded text back.
-/

import Mathlib.Data.List.Basic

namespace Utf8

/-- The bytes of a text: `str::as_bytes`. -/
def encode (text : String) : List UInt8 := text.toList.flatMap String.utf8EncodeChar

/-- The character that the first bytes encode, if they do. -/
def char? (bytes : List UInt8) : Option Char := bytes.toByteArray.utf8DecodeChar? 0

/-- `0x80..=0xBF`. -/
def isContinuation (byte : UInt8) : Bool := 128 ≤ byte && byte ≤ 191

/-- Whether an encoding of three or four bytes may start with these two. -/
def mayFollow (first second : UInt8) : Bool :=
  (first == 224 && 160 ≤ second && second ≤ 191)
    || (225 ≤ first && first ≤ 236 && isContinuation second)
    || (first == 237 && 128 ≤ second && second ≤ 159)
    || (238 ≤ first && first ≤ 239 && isContinuation second)
    || (first == 240 && 144 ≤ second && second ≤ 191)
    || (241 ≤ first && first ≤ 243 && isContinuation second)
    || (first == 244 && 128 ≤ second && second ≤ 143)

/-- The length of the invalid chunk at the start of bytes that do not start with a character. -/
def invalidLen : List UInt8 → Nat
  | first :: second :: third :: _ =>
    if mayFollow first second then if 240 ≤ first && isContinuation third then 3 else 2 else 1
  | [first, second] => if mayFollow first second then 2 else 1
  | _ => 1

/-- The chunks after `skip` more bytes of the chunk before: a character, or `none` for an invalid
chunk. -/
def chunksAfter : Nat → List UInt8 → List (Option Char)
  | _, [] => []
  | skip + 1, _ :: bytes => chunksAfter skip bytes
  | 0, byte :: bytes =>
    match char? (byte :: bytes) with
    | some c => some c :: chunksAfter (c.utf8Size - 1) bytes
    | none => none :: chunksAfter (invalidLen (byte :: bytes) - 1) bytes

/-- `[u8]::utf8_chunks`, a character at a time. -/
def chunks (bytes : List UInt8) : List (Option Char) := chunksAfter 0 bytes

/-- `str::from_utf8`. -/
def fromUtf8 (bytes : List UInt8) : Option String := ((chunks bytes).mapM id).map String.ofList

/-- `char::REPLACEMENT_CHARACTER`. -/
def replacement : Char := '\uFFFD'

/-- `String::from_utf8_lossy`. -/
def fromUtf8Lossy (bytes : List UInt8) : String :=
  String.ofList ((chunks bytes).map fun chunk => chunk.getD replacement)

example : fromUtf8Lossy [97, 226, 130, 172, 226, 130, 97, 255] = "a€\uFFFDa\uFFFD" := by decide

/-! ## Reading an encoded text -/

theorem char?_encoded (c : Char) (rest : List UInt8) :
    char? (String.utf8EncodeChar c ++ rest) = some c := by
  rw [char?, List.toByteArray_append, ByteArray.utf8DecodeChar?_utf8EncodeChar_append]

theorem chunksAfter_append (done rest : List UInt8) :
    chunksAfter done.length (done ++ rest) = chunksAfter 0 rest := by
  induction done with
  | nil => rfl
  | cons byte done ih => rw [List.length_cons, List.cons_append, chunksAfter, ih]

/-- A character that is encoded is one chunk. -/
theorem chunksAfter_char (c : Char) (rest : List UInt8) :
    chunksAfter 0 (String.utf8EncodeChar c ++ rest) = some c :: chunksAfter 0 rest := by
  have read := char?_encoded c rest
  have size := String.length_utf8EncodeChar c
  cases bytes : String.utf8EncodeChar c with
  | nil =>
    rw [bytes, List.length_nil] at size
    exact absurd size.symm (Nat.ne_of_gt c.utf8Size_pos)
  | cons byte more =>
    rw [bytes, List.cons_append] at read
    rw [bytes, List.length_cons] at size
    rw [List.cons_append, chunksAfter, read]
    dsimp only
    rw [← size, Nat.add_sub_cancel, chunksAfter_append]

theorem chunksAfter_encode (text : List Char) :
    chunksAfter 0 (text.flatMap String.utf8EncodeChar) = text.map some := by
  induction text with
  | nil => rfl
  | cons c text ih => rw [List.flatMap_cons, chunksAfter_char, ih, List.map_cons]

/-- **The chunks of an encoded text are its characters.** -/
theorem chunks_encode (text : String) : chunks (encode text) = text.toList.map some :=
  chunksAfter_encode text.toList

theorem mapM_some {α : Type} (l : List α) : (l.map some).mapM id = some l := by
  induction l with
  | nil => rfl
  | cons a l ih => rw [List.map_cons, List.mapM_cons, ih]; rfl

theorem fromUtf8_encode (text : String) : fromUtf8 (encode text) = some text := by
  rw [fromUtf8, chunks_encode, mapM_some, Option.map_some, String.ofList_toList]

/-- **The lossy reading loses nothing of a text.** -/
theorem fromUtf8Lossy_encode (text : String) : fromUtf8Lossy (encode text) = text := by
  rw [fromUtf8Lossy, chunks_encode, List.map_map]
  have kept : (fun chunk : Option Char => chunk.getD replacement) ∘ some = id := by
    funext c
    rfl
  rw [kept, List.map_id, String.ofList_toList]

end Utf8
