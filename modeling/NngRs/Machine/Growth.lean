/-
**Buffers that grow to the next power of two: how often they grow, and how much is moved.**

A buffer that is too small grows to what is required or to the next power of two of its capacity,
whichever is more. From a power of two that may be one byte, so a single growth need not double the
capacity. Two of them do: each growth raises the floor or the ceiling of the capacity's logarithm.

* `Growth.rank_lt` — a growth raises the sum of the two logarithms.
* `Growth.paid_le` — what the growths up to a capacity have moved stays within `paid`.
* `Account.Kept` — the invariant of a buffer that is only written to; `Kept.write` and `Kept.grow`
  keep it, and `Kept.grown_le` and `Kept.moved_le` are the two bounds.
-/

import Mathlib.Algebra.Group.Nat.Defs
import Mathlib.Algebra.Order.Monoid.NatCast
import Mathlib.Data.Nat.Log

/-- A growth of a capacity: more than before, and at least the next power of two. -/
structure Growth (capacity capacity' : Nat) : Prop where
  more : capacity < capacity'
  rounded : 2 ^ Nat.clog 2 capacity ≤ capacity'

namespace Growth

/-- The two logarithms of a capacity, rounded down and up. -/
def rank (capacity : Nat) : Nat := Nat.log 2 capacity + Nat.clog 2 capacity

/-- What may have been moved when a buffer of this capacity grows. -/
def paid (capacity : Nat) : Nat := 2 * 2 ^ Nat.log 2 capacity + 2 ^ Nat.clog 2 capacity + capacity

variable {capacity capacity' : Nat}

theorem clog_le_log (growth : Growth capacity capacity') :
    Nat.clog 2 capacity ≤ Nat.log 2 capacity' :=
  Nat.le_log_of_pow_le Nat.one_lt_two growth.rounded

theorem log_lt_clog (growth : Growth capacity capacity') (positive : 1 ≤ capacity) :
    Nat.log 2 capacity < Nat.clog 2 capacity' := by
  have floor : 2 ^ Nat.log 2 capacity ≤ capacity :=
    Nat.pow_log_le_self 2 (Nat.one_le_iff_ne_zero.mp positive)
  exact (Nat.lt_clog_iff_pow_lt Nat.one_lt_two).mpr (Nat.lt_of_le_of_lt floor growth.more)

/-- **A growth raises the rank.** -/
theorem rank_lt (growth : Growth capacity capacity') (positive : 1 ≤ capacity) :
    rank capacity < rank capacity' := by
  have floor := growth.clog_le_log
  have ceiling := growth.log_lt_clog positive
  rw [rank, rank]
  omega

/-- **What was paid before a growth, and all of the new capacity, is paid after it.** -/
theorem paid_le (growth : Growth capacity capacity') (positive : 1 ≤ capacity) :
    paid capacity + capacity' ≤ paid capacity' := by
  have floor : 2 ^ Nat.clog 2 capacity ≤ 2 ^ Nat.log 2 capacity' :=
    Nat.pow_le_pow_right Nat.two_pos growth.clog_le_log
  have ceiling : 2 ^ (Nat.log 2 capacity + 1) ≤ 2 ^ Nat.clog 2 capacity' :=
    Nat.pow_le_pow_right Nat.two_pos (growth.log_lt_clog positive)
  have above : capacity ≤ 2 ^ Nat.clog 2 capacity := Nat.le_pow_clog Nat.one_lt_two capacity
  rw [Nat.pow_succ] at ceiling
  rw [paid, paid]
  omega

theorem clog_le_log_succ (capacity : Nat) : Nat.clog 2 capacity ≤ Nat.log 2 capacity + 1 :=
  Nat.clog_le_of_le_pow (Nat.le_of_lt (Nat.lt_pow_succ_log_self Nat.one_lt_two capacity))

theorem paid_le_mul (positive : 1 ≤ capacity) : paid capacity ≤ 5 * capacity := by
  have floor : 2 ^ Nat.log 2 capacity ≤ capacity :=
    Nat.pow_log_le_self 2 (Nat.one_le_iff_ne_zero.mp positive)
  have ceiling : 2 ^ Nat.clog 2 capacity ≤ 2 ^ (Nat.log 2 capacity + 1) :=
    Nat.pow_le_pow_right Nat.two_pos (clog_le_log_succ capacity)
  rw [Nat.pow_succ] at ceiling
  rw [paid]
  omega

end Growth

/-- A buffer: its length, its capacity, how often it has grown and how much it moved for that. -/
structure Account where
  length : Nat
  capacity : Nat
  grown : Nat
  moved : Nat
deriving DecidableEq, Repr

namespace Account

/-- **What holds of a buffer that is only written to.** Before its last growth it was shorter than it
is now, and its capacity then bounds how often it has grown and how much it moved. -/
structure Kept (account : Account) : Prop where
  fits : account.length ≤ account.capacity
  positive : 1 ≤ account.capacity
  last : account.grown = 0 ∧ account.moved = 0 ∨
    ∃ before, 1 ≤ before ∧ before < account.length ∧ Growth before account.capacity
      ∧ account.grown ≤ Growth.rank before + 1 ∧ account.moved ≤ Growth.paid before

variable {account : Account}

/-- A write within the capacity. -/
theorem Kept.write (kept : account.Kept) {length : Nat} (longer : account.length ≤ length)
    (fits : length ≤ account.capacity) : Kept { account with length } := by
  refine ⟨fits, kept.positive, ?_⟩
  obtain none' | ⟨before, positive, shorter, growth, grown, moved⟩ := kept.last
  · exact Or.inl none'
  · exact Or.inr ⟨before, positive, Nat.lt_of_lt_of_le shorter longer, growth, grown, moved⟩

/-- A write beyond the capacity moves no more than there is. -/
theorem Kept.grow (kept : account.Kept) {length capacity moved : Nat}
    (beyond : account.capacity < length) (fits : length ≤ capacity)
    (growth : Growth account.capacity capacity) (less : moved ≤ account.length) :
    Kept ⟨length, capacity, account.grown + 1, account.moved + moved⟩ := by
  have positive := kept.positive
  have held := kept.fits
  refine ⟨fits, positive.trans (Nat.le_of_lt growth.more), Or.inr
    ⟨account.capacity, positive, beyond, growth, ?_, ?_⟩⟩
  · show account.grown + 1 ≤ Growth.rank account.capacity + 1
    obtain ⟨none', -⟩ | ⟨before, one, -, earlier, grown, -⟩ := kept.last
    · omega
    · have raised := earlier.rank_lt one
      omega
  · show account.moved + moved ≤ Growth.paid account.capacity
    obtain ⟨-, none'⟩ | ⟨before, one, -, earlier, -, paid⟩ := kept.last
    · rw [none', Nat.zero_add]
      exact less.trans (held.trans (Nat.le_add_left _ _))
    · have more := earlier.paid_le one
      omega

/-- **A buffer grows at most twice for each doubling of its length.** -/
theorem Kept.grown_le (kept : account.Kept) :
    account.grown ≤ 2 * Nat.log 2 account.length + 2 := by
  obtain ⟨none', -⟩ | ⟨before, -, shorter, -, grown, -⟩ := kept.last
  · omega
  · have rounded := Growth.clog_le_log_succ before
    have monotone : Nat.log 2 before ≤ Nat.log 2 account.length :=
      Nat.log_mono_right (Nat.le_of_lt shorter)
    rw [Growth.rank] at grown
    omega

/-- **What its growths move is at most five times its length.** -/
theorem Kept.moved_le (kept : account.Kept) : account.moved ≤ 5 * account.length := by
  obtain ⟨-, none'⟩ | ⟨before, positive, shorter, -, -, moved⟩ := kept.last
  · omega
  · have bound := Growth.paid_le_mul positive
    omega

end Account
