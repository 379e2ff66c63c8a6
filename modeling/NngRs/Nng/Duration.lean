/-
**Durations of the `nng` crate: `duration_to_nng`.**

`Duration` is the standard library's: whole seconds, a `u64`, and a rest of less than a second in
nanoseconds. An `nng_duration` is an `i32` of milliseconds, where `-1` waits forever.

* `durationToNng_nonneg` — a duration is never taken for "forever".
* `durationToNng_eq` — clamping the seconds and saturating twice is one clamp of the milliseconds.
* `durationToNng_monotone` — a longer duration is not converted to a shorter one.
-/

import Mathlib.Data.Int.ConditionallyCompleteOrder
import Mathlib.Data.Int.SuccPred
import Mathlib.Data.Prod.Lex

namespace NngRs.Nng

/-- `std::time::Duration`. -/
structure Duration where
  secs : Nat
  nanos : Nat
  secs_lt : secs < 18446744073709551616
  nanos_lt : nanos < 1000000000
deriving DecidableEq, Repr

/-- `Duration::subsec_millis`. -/
def Duration.subsecMillis (d : Duration) : Nat := d.nanos / 1000000

/-- `i32::MAX`. -/
def i32Max : Int := 2147483647

/-- `i32::MIN`. -/
def i32Min : Int := -2147483648

/-- A value clamped to `i32`, as `saturating_mul` and `saturating_add` do. -/
def saturate (value : Int) : Int := max i32Min (min value i32Max)

/-- `NNG_DURATION_INFINITE`. -/
def NNG_DURATION_INFINITE : Int := -1

/-- `NNG_DURATION_DEFAULT`. -/
def NNG_DURATION_DEFAULT : Int := -2

/-- `duration_to_nng`. -/
def durationToNng : Option Duration → Int
  | none => NNG_DURATION_INFINITE
  | some d =>
    let secs := if (d.secs : Int) > i32Max then i32Max else (d.secs : Int)
    saturate (saturate (secs * 1000) + (d.subsecMillis : Int))

theorem saturate_nonneg {value : Int} (nonneg : 0 ≤ value) : 0 ≤ saturate value := by
  unfold saturate i32Min i32Max
  omega

/-- **A duration is never taken for "forever".** -/
theorem durationToNng_nonneg (d : Duration) : 0 ≤ durationToNng (some d) := by
  have whole : 0 ≤ (if (d.secs : Int) > i32Max then i32Max else (d.secs : Int)) * 1000 := by
    unfold i32Max
    split_ifs <;> omega
  have rest := saturate_nonneg whole
  exact saturate_nonneg (by omega)

/-! ### The value and the order -/

namespace Duration

/-- `Duration::as_nanos`. -/
def asNanos (d : Duration) : Nat := d.secs * 1000000000 + d.nanos

/-- `Duration::as_millis`. -/
def asMillis (d : Duration) : Nat := d.secs * 1000 + d.nanos / 1000000

/-- The whole milliseconds of a duration. -/
def millis (d : Duration) : Nat := d.asNanos / 1000000

theorem asMillis_eq_millis (d : Duration) : d.asMillis = d.millis := by
  unfold asMillis millis asNanos
  omega

/-- Durations are compared by their seconds, and then by the rest. -/
instance : PartialOrder Duration :=
  PartialOrder.lift (fun d => toLex (d.secs, d.nanos)) (by
    intro first second equal
    cases first
    cases second
    cases equal
    rfl)

/-- Which compares their lengths. -/
theorem le_iff_asNanos {d e : Duration} : d ≤ e ↔ d.asNanos ≤ e.asNanos := by
  have first := d.nanos_lt
  have second := e.nanos_lt
  show toLex (d.secs, d.nanos) ≤ toLex (e.secs, e.nanos) ↔ _
  rw [Prod.Lex.toLex_le_toLex]
  unfold asNanos
  dsimp only
  omega

theorem millis_mono {d e : Duration} (le : d ≤ e) : d.millis ≤ e.millis :=
  Nat.div_le_div_right (le_iff_asNanos.mp le)

end Duration

/-- **The conversion is one clamp** of the milliseconds. -/
theorem durationToNng_eq (d : Duration) : durationToNng (some d) = min (d.millis : Int) i32Max := by
  have rest := d.nanos_lt
  have small : d.subsecMillis < 1000 := by
    unfold Duration.subsecMillis
    omega
  have value : d.millis = d.secs * 1000 + d.subsecMillis := d.asMillis_eq_millis.symm
  rw [value, durationToNng, saturate, saturate, i32Min, i32Max]
  split_ifs <;> omega

theorem durationToNng_monotone : Monotone fun d : Duration => durationToNng (some d) := by
  intro d e le
  show durationToNng (some d) ≤ durationToNng (some e)
  have millis := Duration.millis_mono le
  rw [durationToNng_eq, durationToNng_eq]
  omega

/-- **The optional conversion gives "forever" for `None` only.** -/
theorem durationToNng_infinite_iff (dur : Option Duration) :
    durationToNng dur = NNG_DURATION_INFINITE ↔ dur = none := by
  cases dur with
  | none => exact iff_of_true rfl rfl
  | some d =>
    have nonneg := durationToNng_nonneg d
    refine iff_of_false (fun infinite => ?_) (Option.some_ne_none d)
    rw [infinite, NNG_DURATION_INFINITE] at nonneg
    omega

end NngRs.Nng
