/-
**The two decoders of an error code: `Error::from` and `ErrorKind::from_nng_err`.**

Both have an arm for each code they know and tell the rest apart by the two markers. They differ in
one arm, which `Error::from` lacks, and in the marker they look at first.

* `Alike` — the two results say the same of the code.
* `fromCode_of_unnamed`, `fromNngErr_of_unnamed` — what either makes of a code without an arm.
* `classify_alike_iff` — over every nonzero code: they say the same exactly when the code is not
  `NNG_ESTOPPED` and does not carry both markers.
-/

import NngRs.Nng.Error

namespace NngRs.Nng

open NngRs.Sys

/-- **An `Error` and an `ErrorKind` say the same of a code**: the same NNG error, an operating-system
error with the same errno, a transport error with the same number, or the same unknown code. -/
inductive Alike : Error → ErrorKind → Prop
  | named {error : Error} {code : ErrorCode} : error.code = some code →
      Alike error (.NngError code)
  | system (errno : UInt32) : Alike (.SystemErr errno) (.System (decodeErrorKind errno))
  | transport (number : UInt32) : Alike (.TransportErr number) (.Transport number)
  | unknown (code : NonZeroU32) : Alike (.Unknown code.val) (.Other code)

theorem alike_nngError_iff {error : Error} {code : ErrorCode} :
    Alike error (.NngError code) ↔ error.code = some code := by
  constructor
  · rintro ⟨known⟩
    exact known
  · exact .named

/-- Both decoders say the same of a code, and neither panics. -/
def ClassifiedAlike (code : NonZeroU32) : Prop :=
  ∃ kind, ErrorKind.fromNngErr code.val = some kind ∧ Alike (Error.fromCode code) kind

/-! ### Codes with an arm -/

/-- Every named code but `NNG_ESTOPPED` has an arm of its own. -/
theorem named_isSome {code : ErrorCode} (known : code ≠ .ESTOPPED) :
    ∃ error, Error.named code = some error := by
  cases code <;> first | exact ⟨_, rfl⟩ | exact absurd rfl known

section Codes

variable {code : NonZeroU32}

theorem fromNngErr_of_named {named : ErrorCode} (found : ErrorCode.ofNngErr code.val = some named) :
    ErrorKind.fromNngErr code.val = some (.NngError named) := by
  unfold ErrorKind.fromNngErr
  rw [found]

theorem fromCode_of_named {named : ErrorCode} {error : Error}
    (found : ErrorCode.ofNngErr code.val = some named) (arm : Error.named named = some error) :
    Error.fromCode code = error := by
  unfold Error.fromCode
  rw [found, Option.bind_some, arm]

/-- A code both decoders name is named alike. -/
theorem classifiedAlike_of_named {named : ErrorCode}
    (found : ErrorCode.ofNngErr code.val = some named) (known : named ≠ .ESTOPPED) :
    ClassifiedAlike code := by
  obtain ⟨error, arm⟩ := named_isSome known
  refine ⟨_, fromNngErr_of_named found, ?_⟩
  rw [fromCode_of_named found arm]
  exact .named (Error.code_of_named arm)

/-! ### The rest -/

/-- `Error::from` looks for the marker of an operating-system error first. -/
theorem fromCode_of_unnamed (rest : ErrorCode.ofNngErr code.val = none) :
    Error.fromCode code =
      if code.val &&& NNG_ESYSERR ≠ 0 then .SystemErr (code.val &&& ~~~NNG_ESYSERR)
      else if code.val &&& NNG_ETRANERR ≠ 0 then .TransportErr (code.val &&& ~~~NNG_ETRANERR)
      else .Unknown code.val := by
  unfold Error.fromCode
  rw [rest, Option.bind_none]

/-- `from_nng_err` looks for the marker of a transport error first. -/
theorem fromNngErr_of_unnamed (rest : ErrorCode.ofNngErr code.val = none) :
    ErrorKind.fromNngErr code.val =
      some (if code.val &&& NNG_ETRANERR ≠ 0 then .Transport (code.val &&& ~~~NNG_ETRANERR)
        else if code.val &&& NNG_ESYSERR ≠ 0 then
          .System (decodeErrorKind (code.val &&& ~~~NNG_ESYSERR))
        else .Other code) := by
  unfold ErrorKind.fromNngErr
  rw [rest]
  dsimp only
  by_cases transport : code.val &&& NNG_ETRANERR ≠ 0
  · rw [if_pos transport, if_pos transport]
  · rw [if_neg transport, if_neg transport]
    by_cases system : code.val &&& NNG_ESYSERR ≠ 0
    · rw [if_pos system, if_pos system]
    · rw [if_neg system, if_neg system, dif_pos code.property]

/-- A code without an arm is classified alike unless it carries both markers. -/
theorem classifiedAlike_of_unnamed_iff (rest : ErrorCode.ofNngErr code.val = none) :
    ClassifiedAlike code ↔
      ¬(code.val &&& NNG_ESYSERR ≠ 0 ∧ code.val &&& NNG_ETRANERR ≠ 0) := by
  have ours := fromCode_of_unnamed rest
  have theirs := fromNngErr_of_unnamed rest
  unfold ClassifiedAlike
  by_cases system : code.val &&& NNG_ESYSERR ≠ 0 <;>
    by_cases transport : code.val &&& NNG_ETRANERR ≠ 0
  · -- each decoder sees its own marker
    rw [if_pos system] at ours
    rw [if_pos transport] at theirs
    rw [ours, theirs]
    refine iff_of_false ?_ (fun fine => fine ⟨system, transport⟩)
    rintro ⟨kind, ⟨⟩, ⟨⟩⟩
  · rw [if_pos system] at ours
    rw [if_neg transport, if_pos system] at theirs
    rw [ours, theirs]
    exact iff_of_true ⟨_, rfl, .system _⟩ fun both => transport both.2
  · rw [if_neg system, if_pos transport] at ours
    rw [if_pos transport] at theirs
    rw [ours, theirs]
    exact iff_of_true ⟨_, rfl, .transport _⟩ fun both => system both.1
  · rw [if_neg system, if_neg transport] at ours
    rw [if_neg transport, if_neg system] at theirs
    rw [ours, theirs]
    exact iff_of_true ⟨_, rfl, .unknown code⟩ fun both => system both.1

/-! ### Where they agree -/

/-- `NNG_ESTOPPED` is named by the bindings and unknown to `Error::from`. -/
theorem stopped_not_alike : ¬ClassifiedAlike ⟨ErrorCode.ESTOPPED.value, by decide⟩ := by
  rintro ⟨kind, decoded, alike⟩
  have named := ErrorCode.fromNngErr_value .ESTOPPED
  obtain rfl := Option.some.inj (decoded.symm.trans named)
  have unknown : Error.fromCode ⟨ErrorCode.ESTOPPED.value, by decide⟩ = .Unknown 999 := rfl
  rw [unknown, alike_nngError_iff] at alike
  cases alike

/-- No code with an arm carries a marker. -/
theorem named_unmarked (code : ErrorCode) : code.value &&& NNG_ESYSERR = 0 := by
  cases code <;> rfl

end Codes

/-- **The decoders classify a code alike exactly when** it is not `NNG_ESTOPPED` and does not carry
both markers. -/
theorem classify_alike_iff (code : NonZeroU32) :
    ClassifiedAlike code ↔
      code.val ≠ ErrorCode.ESTOPPED.value
        ∧ ¬(code.val &&& NNG_ESYSERR ≠ 0 ∧ code.val &&& NNG_ETRANERR ≠ 0) := by
  cases found : ErrorCode.ofNngErr code.val with
  | none =>
    have known : code.val ≠ ErrorCode.ESTOPPED.value := by
      intro stopped
      rw [stopped] at found
      cases found
    rw [classifiedAlike_of_unnamed_iff found, and_iff_right known]
  | some named =>
    have value := ErrorCode.value_of_ofNngErr found
    have unmarked : code.val &&& NNG_ESYSERR = 0 := by
      rw [← value]
      exact named_unmarked named
    constructor
    · intro alike
      refine ⟨fun stopped => ?_, fun both => both.1 unmarked⟩
      obtain rfl : code = ⟨ErrorCode.ESTOPPED.value, by decide⟩ := Subtype.ext stopped
      exact stopped_not_alike alike
    · rintro ⟨known, -⟩
      refine classifiedAlike_of_named found ?_
      rintro rfl
      exact known value.symm

/-- **The decoders do not classify every code alike**: they differ on `NNG_ESTOPPED`, and on a code
with both markers. -/
theorem classify_alike_fails :
    (Error.fromCode ⟨999, by decide⟩ = .Unknown 999
      ∧ ErrorKind.fromNngErr 999 = some (.NngError .ESTOPPED))
    ∧ (Error.fromCode ⟨805306373, by decide⟩ = .SystemErr 536870917
      ∧ ErrorKind.fromNngErr 805306373 = some (.Transport 268435461))
    ∧ ¬∀ code : NonZeroU32, ClassifiedAlike code :=
  ⟨⟨rfl, rfl⟩, ⟨rfl, rfl⟩, fun always => stopped_not_alike (always _)⟩

end NngRs.Nng
