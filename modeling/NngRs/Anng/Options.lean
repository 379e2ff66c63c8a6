/-
**Options of `anng` that take a duration: `set_socket_ms`, `set_socket_ms_opt`, `set_ctx_ms_opt` and
`set_survey_timeout`.**

All four convert a duration to milliseconds, hand it to the library, and match on the errno. A duration
whose milliseconds are no `i32` is refused by a panic, before the library is called. What the library
answers is part of the input.

* `durationToNngMs_eq` — the conversion, with a comparison and a cast where `nng` clamps.
* `setMs_passed` — so what reaches the library is "forever" only where that was asked for.
* `durations_agree` — every conversion of either crate gives the same number, and none gives a
  sentinel but that of `None`.
-/

import NngRs.Nng.Duration
import NngRs.Sys.ErrorKind

namespace NngRs.Anng

open NngRs.Sys
open NngRs.Nng (Duration durationToNng durationToNng_eq durationToNng_nonneg durationToNng_monotone
  durationToNng_infinite_iff i32Max NNG_DURATION_INFINITE NNG_DURATION_DEFAULT)

/-- The library's setters of a duration. -/
inductive SetMs
  | nng_socket_set_ms
  | nng_ctx_set_ms
deriving DecidableEq, Repr

/-- Where the modelled code panics. -/
inductive OptionsPanic
  /-- "{label} is too large: {duration:?}" -/
  | tooLarge (label : String) (duration : Duration)
  /-- "errno is never negative" -/
  | negativeErrno
  /-- "{fn_name}({label}): NNG returned ECLOSED on a borrowed, live handle", and the same of `EINVAL`,
  `ENOTSUP` and `EREADONLY`. -/
  | setMs (fnName : SetMs) (label : String) (code : ErrorCode)
  /-- "{fn_name}({label}) returned errno {errno}, which is not documented for `nng_*_set_ms` — NNG
  behaviour likely changed; update this match" -/
  | setMsUndocumented (fnName : SetMs) (label : String) (errno : UInt32)
  /-- "context is still open", "timeout value should be valid", "surveyor context should support
  SURVEYTIME option" and "SURVEYTIME is not read-only" -/
  | surveyTime (code : ErrorCode)
  /-- "nng_ctx_set_ms documentation claims errno {errno} is never returned" -/
  | surveyTimeUndocumented (errno : UInt32)
deriving DecidableEq, Repr

/-- A call of a setter: which, the name of the option, and the milliseconds. -/
structure SetMsCall where
  fnName : SetMs
  option : String
  ms : Int
deriving DecidableEq, Repr

/-- What a function hands to the library, if it comes to that, and what it ends with. -/
structure Setting (α : Type) where
  passed : Option SetMsCall
  result : Except OptionsPanic α
deriving DecidableEq

/-- `as c_int`, of an unsigned number. -/
def asCInt (n : Nat) : Int := Int.bmod n 4294967296

/-! ### Conversions -/

/-- `duration_to_nng_ms`. -/
def durationToNngMs (duration : Duration) (label : String) : Except OptionsPanic Int :=
  let ms := duration.asMillis
  if (ms : Int) > i32Max then .error (.tooLarge label duration)
  else .ok (asCInt ms)

/-- `duration_opt_to_nng_ms`. -/
def durationOptToNngMs (duration : Option Duration) (label : String) : Except OptionsPanic Int :=
  match duration with
  | some duration => durationToNngMs duration label
  | none => .ok NNG_DURATION_INFINITE

/-! ### Setters -/

/-- `check_map_set_ms_errno`. -/
def checkMapSetMsErrno (errno : UInt32) (label : String) (fnName : SetMs) :
    Except OptionsPanic (Except ErrorKind Unit) :=
  if errno = 0 then .ok (.ok ())
  else if errno = ErrorCode.ECLOSED.value then .error (.setMs fnName label .ECLOSED)
  else if errno = ErrorCode.EINVAL.value then .error (.setMs fnName label .EINVAL)
  else if errno = ErrorCode.ENOTSUP.value then .error (.setMs fnName label .ENOTSUP)
  else if errno = ErrorCode.EREADONLY.value then .error (.setMs fnName label .EREADONLY)
  else if errno = ErrorCode.ESTATE.value then .ok (.error (.NngError .ESTATE))
  else .error (.setMsUndocumented fnName label errno)

/-- A call of a setter with a converted duration, and the match on the errno it returns. -/
def setMs (fnName : SetMs) (option : String) (ms : Except OptionsPanic Int) (label : String)
    (rawErrno : Int32) : Setting (Except ErrorKind Unit) :=
  match ms with
  | .error p => ⟨none, .error p⟩
  | .ok ms =>
    { passed := some ⟨fnName, option, ms⟩
      result :=
        if rawErrno < 0 then .error .negativeErrno
        else checkMapSetMsErrno rawErrno.toUInt32 label fnName }

/-- `set_socket_ms`. -/
def setSocketMs (option : String) (duration : Duration) (label : String) (rawErrno : Int32) :
    Setting (Except ErrorKind Unit) :=
  setMs .nng_socket_set_ms option (durationToNngMs duration label) label rawErrno

/-- `set_socket_ms_opt`. -/
def setSocketMsOpt (option : String) (duration : Option Duration) (label : String)
    (rawErrno : Int32) : Setting (Except ErrorKind Unit) :=
  setMs .nng_socket_set_ms option (durationOptToNngMs duration label) label rawErrno

/-- `set_ctx_ms_opt`. -/
def setCtxMsOpt (option : String) (duration : Option Duration) (label : String)
    (rawErrno : Int32) : Setting (Except ErrorKind Unit) :=
  setMs .nng_ctx_set_ms option (durationOptToNngMs duration label) label rawErrno

/-- `NNG_OPT_SURVEYOR_SURVEYTIME`. -/
def NNG_OPT_SURVEYOR_SURVEYTIME : String := "surveyor:survey-time"

/-- The match on the errno in `set_survey_timeout`. -/
def surveyTimeResult (errno : Int32) : Except OptionsPanic Unit :=
  if errno < 0 then .error .negativeErrno
  else if errno = 0 then .ok ()
  else if errno.toUInt32 = ErrorCode.ECLOSED.value then .error (.surveyTime .ECLOSED)
  else if errno.toUInt32 = ErrorCode.EINVAL.value then .error (.surveyTime .EINVAL)
  else if errno.toUInt32 = ErrorCode.ENOTSUP.value then .error (.surveyTime .ENOTSUP)
  else if errno.toUInt32 = ErrorCode.EREADONLY.value then .error (.surveyTime .EREADONLY)
  else .error (.surveyTimeUndocumented errno.toUInt32)

/-- `set_survey_timeout`. -/
def setSurveyTimeout (timeout : Duration) (errno : Int32) : Setting Unit :=
  let timeoutMs := timeout.asMillis
  if (timeoutMs : Int) > i32Max then ⟨none, .error (.tooLarge "survey timeout" timeout)⟩
  else
    { passed := some ⟨.nng_ctx_set_ms, NNG_OPT_SURVEYOR_SURVEYTIME, asCInt timeoutMs⟩
      result := surveyTimeResult errno }

/-! ### The conversions agree -/

/-- The cast keeps a number that is an `i32`. -/
theorem asCInt_eq {n : Nat} (small : (n : Int) ≤ i32Max) : asCInt n = n := by
  unfold i32Max at small
  unfold asCInt
  apply Int.bmod_eq_of_le
  · omega
  · omega

/-- Where the comparison lets a duration pass, the cast gives what `nng` converts it to. -/
theorem asCInt_asMillis {d : Duration} (small : (d.millis : Int) ≤ i32Max) :
    asCInt d.asMillis = durationToNng (some d) := by
  rw [d.asMillis_eq_millis, asCInt_eq small, durationToNng_eq, min_eq_left small]

/-- A comparison and a cast, against the clamp of `nng`. -/
theorem checked_cast {α : Type} (d : Duration) (refuse : α) (pass : Int → α) :
    (if (d.asMillis : Int) > i32Max then refuse else pass (asCInt d.asMillis)) =
      if (d.millis : Int) ≤ i32Max then pass (durationToNng (some d)) else refuse := by
  by_cases small : (d.millis : Int) ≤ i32Max
  · rw [if_pos small, asCInt_asMillis small, d.asMillis_eq_millis, if_neg (not_lt.mpr small)]
  · rw [if_neg small, d.asMillis_eq_millis, if_pos (not_le.mp small)]

theorem durationToNngMs_eq (d : Duration) (label : String) :
    durationToNngMs d label =
      if (d.millis : Int) ≤ i32Max then .ok (durationToNng (some d))
      else .error (.tooLarge label d) :=
  checked_cast d _ _

-- the last duration that is converted, and the first that is not
example : durationToNngMs ⟨2147483, 647999999, by decide, by decide⟩ "resend time" =
    .ok 2147483647 := rfl

example : durationToNngMs ⟨2147483, 648000000, by decide, by decide⟩ "resend time" =
    .error (.tooLarge "resend time" ⟨2147483, 648000000, by decide, by decide⟩) := rfl

theorem setSurveyTimeout_eq (d : Duration) (errno : Int32) :
    setSurveyTimeout d errno =
      if (d.millis : Int) ≤ i32Max then
        ⟨some ⟨.nng_ctx_set_ms, NNG_OPT_SURVEYOR_SURVEYTIME, durationToNng (some d)⟩,
          surveyTimeResult errno⟩
      else ⟨none, .error (.tooLarge "survey timeout" d)⟩ := by
  let pass (ms : Int) : Setting Unit :=
    ⟨some ⟨.nng_ctx_set_ms, NNG_OPT_SURVEYOR_SURVEYTIME, ms⟩, surveyTimeResult errno⟩
  exact checked_cast d _ pass

/-- A converted duration is what `nng` converts it to. -/
theorem durationToNngMs_ok {d : Duration} {label : String} {ms : Int}
    (converted : durationToNngMs d label = .ok ms) : ms = durationToNng (some d) := by
  rw [durationToNngMs_eq] at converted
  split_ifs at converted
  exact (Except.ok.inj converted).symm

/-- So is a converted optional duration. -/
theorem durationOptToNngMs_ok {dur : Option Duration} {label : String} {ms : Int}
    (converted : durationOptToNngMs dur label = .ok ms) : ms = durationToNng dur := by
  cases dur with
  | none => exact (Except.ok.inj converted).symm
  | some d => exact durationToNngMs_ok converted

theorem durationOptToNngMs_infinite_iff (dur : Option Duration) (label : String) :
    durationOptToNngMs dur label = .ok NNG_DURATION_INFINITE ↔ dur = none := by
  constructor
  · intro infinite
    exact (durationToNng_infinite_iff dur).mp (durationOptToNngMs_ok infinite).symm
  · rintro rfl
    rfl

/-- A nonnegative number is no sentinel. -/
theorem ne_sentinel {ms : Int} (nonneg : 0 ≤ ms) :
    ms ≠ NNG_DURATION_INFINITE ∧ ms ≠ NNG_DURATION_DEFAULT := by
  rw [NNG_DURATION_INFINITE, NNG_DURATION_DEFAULT]
  omega

theorem durationToNng_ne_default (dur : Option Duration) :
    durationToNng dur ≠ NNG_DURATION_DEFAULT := by
  cases dur with
  | none => decide
  | some d => exact (ne_sentinel (durationToNng_nonneg d)).2

/-- **What a setter is handed** is the duration it was called with: "forever" where there is none and
only there, and never the library's default. -/
theorem setMs_passed {fnName : SetMs} {option label : String} {dur : Option Duration}
    {rawErrno : Int32} {call : SetMsCall}
    (passed : (setMs fnName option (durationOptToNngMs dur label) label rawErrno).passed =
      some call) :
    call = ⟨fnName, option, durationToNng dur⟩
      ∧ (call.ms = NNG_DURATION_INFINITE ↔ dur = none)
      ∧ call.ms ≠ NNG_DURATION_DEFAULT := by
  unfold setMs at passed
  cases converted : durationOptToNngMs dur label with
  | error p =>
    rw [converted] at passed
    cases passed
  | ok ms =>
    rw [converted] at passed
    cases passed
    obtain rfl := durationOptToNngMs_ok converted
    exact ⟨rfl, durationToNng_infinite_iff dur, durationToNng_ne_default dur⟩

/-- **The conversions agree and never produce a sentinel**: `nng` clamps the milliseconds of a
duration, `anng` converts it to the same number or panics, in its options and in the survey timeout,
and both give "forever" for `None` only. -/
theorem durations_agree (d : Duration) (dur : Option Duration) (label : String) (errno : Int32) :
    durationToNng (some d) = min (d.millis : Int) i32Max
      ∧ 0 ≤ durationToNng (some d)
      ∧ durationToNng (some d) ≠ NNG_DURATION_INFINITE
      ∧ durationToNng (some d) ≠ NNG_DURATION_DEFAULT
      ∧ Monotone (fun d : Duration => durationToNng (some d))
      ∧ durationToNngMs d label =
        (if (d.millis : Int) ≤ i32Max then .ok (durationToNng (some d))
          else .error (.tooLarge label d))
      ∧ setSurveyTimeout d errno =
        (if (d.millis : Int) ≤ i32Max then
          ⟨some ⟨.nng_ctx_set_ms, NNG_OPT_SURVEYOR_SURVEYTIME, durationToNng (some d)⟩,
            surveyTimeResult errno⟩
          else ⟨none, .error (.tooLarge "survey timeout" d)⟩)
      ∧ (durationToNng dur = NNG_DURATION_INFINITE ↔ dur = none)
      ∧ (durationOptToNngMs dur label = .ok NNG_DURATION_INFINITE ↔ dur = none) := by
  have sentinel := ne_sentinel (durationToNng_nonneg d)
  exact ⟨durationToNng_eq d, durationToNng_nonneg d, sentinel.1, sentinel.2, durationToNng_monotone,
    durationToNngMs_eq d label, setSurveyTimeout_eq d errno, durationToNng_infinite_iff dur,
    durationOptToNngMs_infinite_iff dur label⟩

end NngRs.Anng
