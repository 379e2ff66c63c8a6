/-
**Arithmetic on `usize`, for a target of any width.**

A plain addition that overflows panics or wraps, as the program was compiled. No allocation is larger
than `isize::MAX`, so the lengths of two objects never overflow together.
-/

import Mathlib.Algebra.Group.Nat.Defs
import Mathlib.Algebra.Order.Monoid.NatCast
import Mathlib.Data.Nat.Log

/-- What the program is compiled for. -/
structure Target where
  /-- `usize::BITS`. -/
  bits : Nat
  wide : 16 ≤ bits
  overflowChecks : Bool

namespace Target

/-- A 64-bit target, with overflow checks. -/
def x64 : Target := ⟨64, by decide, true⟩

/-- `usize::MAX`. -/
def usizeMax (target : Target) : Nat := 2 ^ target.bits - 1

/-- `isize::MAX`. -/
def isizeMax (target : Target) : Nat := 2 ^ (target.bits - 1) - 1

/-- `a + b`; `none` is the overflow panic. -/
def add (target : Target) (a b : Nat) : Option Nat :=
  if a + b ≤ target.usizeMax then some (a + b)
  else if target.overflowChecks then none
  else some ((a + b) % 2 ^ target.bits)

/-- `usize::saturating_add`. -/
def saturatingAdd (target : Target) (a b : Nat) : Nat := min (a + b) target.usizeMax

/-- `usize::checked_sub`. -/
def checkedSub (a b : Nat) : Option Nat := if b ≤ a then some (a - b) else none

/-- `usize::checked_next_power_of_two`: the smallest power of two that is not less, if it is a
`usize`. -/
def checkedNextPowerOfTwo (target : Target) (n : Nat) : Option Nat :=
  if 2 ^ Nat.clog 2 n ≤ target.usizeMax then some (2 ^ Nat.clog 2 n) else none

variable (target : Target)

theorem usizeMax_eq : target.usizeMax = 2 * target.isizeMax + 1 := by
  obtain ⟨bits, same⟩ := Nat.exists_eq_add_of_le' ((by decide : 1 ≤ 16).trans target.wide)
  have positive : 0 < 2 ^ bits := Nat.two_pow_pos bits
  rw [usizeMax, isizeMax, same, Nat.add_sub_cancel, Nat.pow_succ]
  omega

theorem wide_isizeMax : 32767 ≤ target.isizeMax := by
  have grows : 2 ^ 15 ≤ 2 ^ (target.bits - 1) :=
    Nat.pow_le_pow_right (by decide) (Nat.le_sub_of_add_le target.wide)
  rw [isizeMax]
  omega

/-- Nothing overflows among the lengths of two objects. -/
theorem add_of_le {a b : Nat} (left : a ≤ target.isizeMax) (right : b ≤ target.isizeMax) :
    target.add a b = some (a + b) := by
  have max := target.usizeMax_eq
  rw [add, if_pos (by omega)]

end Target
