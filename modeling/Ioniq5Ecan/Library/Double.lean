import Mathlib.Algebra.Order.Ring.Rat

/-! # Doubles as their comparisons see them

A finite `Double` carries its exact rational value: rounding is not modelled,
but infinities and NaN are, because comparisons against them decide branches. -/
set_option autoImplicit false
namespace Ioniq5Ecan.Library

inductive Double
  | finite (value : Rat)
  | infinite (negative : Bool)
  | nan
  deriving DecidableEq

namespace Double

def zero : Double := .finite 0

def isFinite : Double → Bool
  | .finite _ => true
  | _ => false

/-- `a < b`; false as soon as one side is NaN. -/
def lt : Double → Double → Bool
  | .finite a, .finite b => decide (a < b)
  | .finite _, .infinite negative => !negative
  | .infinite negative, .finite _ => negative
  | .infinite a, .infinite b => a && !b
  | _, _ => false

def le : Double → Double → Bool
  | .finite a, .finite b => decide (a ≤ b)
  | .finite _, .infinite negative => !negative
  | .infinite negative, .finite _ => negative
  | .infinite a, .infinite b => a || !b
  | _, _ => false

def abs : Double → Double
  | .finite a => .finite (if a < 0 then -a else a)
  | .infinite _ => .infinite false
  | .nan => .nan

/-- Away from NaN a failed `a < b` is `b <= a`. -/
theorem le_of_lt_eq_false {a b : Double} (numberA : a ≠ .nan) (numberB : b ≠ .nan)
    (notLess : a.lt b = false) : b.le a = true := by
  cases a with
  | finite x =>
      cases b with
      | finite y =>
          have ordered : y ≤ x := by simpa [lt] using notLess
          simpa [le] using ordered
      | infinite negative => simpa [lt, le] using notLess
      | nan => exact absurd rfl numberB
  | infinite negative =>
      cases b with
      | finite y => simpa [lt, le] using notLess
      | infinite other => cases negative <;> cases other <;> simp_all [lt, le]
      | nan => exact absurd rfl numberB
  | nan => exact absurd rfl numberA

theorem lt_of_le_eq_false {a b : Double} (numberA : a ≠ .nan) (numberB : b ≠ .nan)
    (notLessEq : a.le b = false) : b.lt a = true := by
  cases a with
  | finite x =>
      cases b with
      | finite y =>
          have ordered : y < x := by simpa [le] using notLessEq
          simpa [lt] using ordered
      | infinite negative => simpa [lt, le] using notLessEq
      | nan => exact absurd rfl numberB
  | infinite negative =>
      cases b with
      | finite y => simpa [lt, le] using notLessEq
      | infinite other => cases negative <;> cases other <;> simp_all [lt, le]
      | nan => exact absurd rfl numberB
  | nan => exact absurd rfl numberA

/-- `a < b` excludes `b <= a`, NaN or not. -/
theorem le_eq_false_of_lt {a b : Double} (less : a.lt b = true) : b.le a = false := by
  cases a with
  | finite x =>
      cases b with
      | finite y =>
          have ordered : x < y := by simpa [lt] using less
          simpa [le] using ordered
      | infinite negative => simpa [lt, le] using less
      | nan => cases less
  | infinite negative =>
      cases b with
      | finite y => simpa [lt, le] using less
      | infinite other => cases negative <;> cases other <;> simp_all [lt, le]
      | nan => cases less
  | nan => cases b <;> cases less

theorem lt_eq_false_of_lt {a b : Double} (less : a.lt b = true) : b.lt a = false := by
  cases a with
  | finite x =>
      cases b with
      | finite y =>
          have ordered : x < y := by simpa [lt] using less
          simpa [lt] using ordered.le
      | infinite negative => simpa [lt] using less
      | nan => cases less
  | infinite negative =>
      cases b with
      | finite y => simpa [lt] using less
      | infinite other => cases negative <;> cases other <;> simp_all [lt]
      | nan => cases less
  | nan => cases b <;> cases less

theorem abs_ne_nan {a : Double} (number : a ≠ .nan) : a.abs ≠ .nan := by
  cases a <;> simp_all [abs]

theorem ne_nan_of_isFinite {a : Double} (isFinite : a.isFinite = true) : a ≠ .nan := by
  rintro rfl
  cases isFinite

end Double
end Ioniq5Ecan.Library
