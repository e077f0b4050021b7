import Mathlib.Algebra.Group.Nat.Defs
import Mathlib.Algebra.Order.Group.Unbundled.Basic
import Mathlib.Algebra.Order.Group.Defs
import Mathlib.Algebra.Order.Monoid.Unbundled.Pow

/-! # Doubling up to a limit

A delay that doubles without ever passing its limit, not even in between, is the
closed form of the doubling cut at the limit. -/
set_option autoImplicit false
namespace Ioniq5Ecan.Library

variable {Delay : Type} [AddCommGroup Delay] [LinearOrder Delay] [IsOrderedAddMonoid Delay]

/-- One doubling; the difference is taken where the sum could pass the limit. -/
def doubled (limit delay : Delay) : Delay := if limit - delay ≤ delay then limit else delay + delay

theorem doubled_min {limit delay : Delay} (limitNonneg : 0 ≤ limit) (nonneg : 0 ≤ delay) :
    doubled limit (min delay limit) = min (delay + delay) limit := by
  have grows : delay ≤ delay + delay := le_add_of_nonneg_left nonneg
  unfold doubled
  rcases le_total limit delay with reached | below
  · rw [min_eq_right reached, min_eq_right (reached.trans grows), sub_self, if_pos limitNonneg]
  · rw [min_eq_left below]
    by_cases past : limit - delay ≤ delay
    · rw [if_pos past]
      exact (min_eq_right (sub_le_iff_le_add.mp past)).symm
    · rw [if_neg past]
      exact (min_eq_left (le_of_not_ge (mt sub_le_iff_le_add.mpr past))).symm

theorem doubled_pow {limit unit : Delay} (limitNonneg : 0 ≤ limit) (nonneg : 0 ≤ unit)
    (count : Nat) :
    doubled limit (min (2 ^ count • unit) limit) = min (2 ^ (count + 1) • unit) limit := by
  rw [doubled_min limitNonneg (nsmul_nonneg nonneg _), ← two_nsmul, ← mul_nsmul, Nat.pow_succ]

end Ioniq5Ecan.Library
