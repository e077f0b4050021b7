import Ioniq5Ecan.Library.Double
import Mathlib.Data.Rat.Floor

/-! # Saturation of doubles

`std::min`, `std::max` and `std::clamp` by their comparisons, so that NaN goes
where these send it.  What rounds is a parameter: an `Arithmetic` may be any
rounding of the four operations and any two functions for the tangents. -/
set_option autoImplicit false
namespace Ioniq5Ecan.Library

structure Arithmetic where
  add : Double → Double → Double
  sub : Double → Double → Double
  mul : Double → Double → Double
  div : Double → Double → Double
  tan : Double → Double
  atan : Double → Double
  /-- What `lround` returns where no `long` is the result. -/
  unrepresentable : Double → Int

/-- Without rounding, and NaN as soon as an operand is not finite. -/
def Arithmetic.exact (tan atan : Double → Double) : Arithmetic where
  add := fun
    | .finite a, .finite b => .finite (a + b)
    | _, _ => .nan
  sub := fun
    | .finite a, .finite b => .finite (a - b)
    | _, _ => .nan
  mul := fun
    | .finite a, .finite b => .finite (a * b)
    | _, _ => .nan
  div := fun
    | .finite a, .finite b => if b = 0 then .nan else .finite (a / b)
    | _, _ => .nan
  tan := tan
  atan := atan
  unrepresentable := fun _ => 0

/-- What a factor zero does: the product is zero, or NaN where the other factor is not finite;
neither of them moves an integer that a double holds, but to NaN. -/
structure Arithmetic.ZeroLaws (arithmetic : Arithmetic) : Prop where
  mul_zero : ∀ value, arithmetic.mul value .zero = .zero ∨ arithmetic.mul value .zero = .nan
  add_zero : ∀ count : Int, |count| ≤ 2 ^ 53 →
    arithmetic.add (.finite count) .zero = .finite count
  add_nan : ∀ value, arithmetic.add value .nan = .nan

theorem Arithmetic.exact_zeroLaws (tan atan : Double → Double) :
    (Arithmetic.exact tan atan).ZeroLaws where
  mul_zero value := by
    cases value with
    | finite number => exact .inl (congrArg Double.finite (Rat.mul_zero number))
    | infinite negative => exact .inr rfl
    | nan => exact .inr rfl
  add_zero count _ := congrArg Double.finite (Rat.add_zero _)
  add_nan value := by
    cases value with
    | finite number => rfl
    | infinite negative => rfl
    | nan => rfl

namespace Double

def neg : Double → Double
  | .finite a => .finite (-a)
  | .infinite negative => .infinite (!negative)
  | .nan => .nan

def max (a b : Double) : Double := if a.lt b then b else a

def min (a b : Double) : Double := if b.lt a then b else a

def clamp (value lower upper : Double) : Double :=
  if value.lt lower then lower else if upper.lt value then upper else value

def ofInt (value : Int) : Double := .finite value

def round (value : Rat) : Int := if value < 0 then -⌊-value + 1 / 2⌋ else ⌊value + 1 / 2⌋

def lround (arithmetic : Arithmetic) : Double → Int
  | .finite value =>
      if -2 ^ 63 ≤ round value ∧ round value < 2 ^ 63 then round value
      else arithmetic.unrepresentable (.finite value)
  | value => arithmetic.unrepresentable value

/-- A finite double between two numbers. -/
def Between (lower upper : Rat) (value : Double) : Prop :=
  ∃ number, value = .finite number ∧ lower ≤ number ∧ number ≤ upper

section Range
variable {lower upper value : Double} {low high : Rat}

theorem between_clamp {a b c d : Rat} (lowerIn : Between a b lower) (upperIn : Between c d upper)
    (below : low ≤ a) (above : d ≤ high) (ordered : b ≤ high) (under : low ≤ c) (number : Rat) :
    Between low high ((Double.finite number).clamp lower upper) := by
  obtain ⟨x, rfl, lowX, highX⟩ := lowerIn
  obtain ⟨y, rfl, lowY, highY⟩ := upperIn
  simp only [clamp, lt]
  by_cases less : number < x
  · simp only [less, decide_true, if_true]
    exact ⟨x, rfl, below.trans lowX, highX.trans ordered⟩
  · simp only [less, decide_false, Bool.false_eq_true, if_false]
    by_cases more : y < number
    · simp only [more, decide_true, if_true]
      exact ⟨y, rfl, under.trans lowY, highY.trans above⟩
    · simp only [more, decide_false, Bool.false_eq_true, if_false]
      exact ⟨number, rfl, (below.trans lowX).trans (not_lt.mp less),
        (not_lt.mp more).trans (highY.trans above)⟩

/-- Saturation from above at `limit` and then from below at zero, whatever the value is. -/
theorem between_max_min (limit : Rat) (positive : 0 ≤ limit) (value : Double) :
    Between 0 limit (((Double.finite limit).min value).max .zero) := by
  unfold max min zero
  cases value with
  | finite number =>
      by_cases less : number < limit
      · simp only [lt, less, decide_true, if_true]
        by_cases negative : number < 0
        · simp only [negative, decide_true, if_true]
          exact ⟨0, rfl, le_refl _, positive⟩
        · simp only [negative, decide_false, Bool.false_eq_true, if_false]
          exact ⟨number, rfl, not_lt.mp negative, less.le⟩
      · simp only [lt, less, decide_false, Bool.false_eq_true, if_false, not_lt.mpr positive]
        exact ⟨limit, rfl, positive, le_refl _⟩
  | infinite negative =>
      cases negative with
      | true => exact ⟨0, rfl, le_refl _, positive⟩
      | false =>
          simp only [lt, Bool.false_eq_true, if_false, not_lt.mpr positive, decide_false]
          exact ⟨limit, rfl, positive, le_refl _⟩
  | nan =>
      simp only [lt, Bool.false_eq_true, if_false, not_lt.mpr positive, decide_false]
      exact ⟨limit, rfl, positive, le_refl _⟩

theorem between_min_max (limit : Rat) (positive : 0 ≤ limit) (value : Double) :
    Between (-limit) 0 (((Double.finite (-limit)).max value).min .zero) := by
  have under : ¬ 0 < -limit := by
    have negated := neg_nonpos.mpr positive
    exact not_lt.mpr negated
  have least : -limit ≤ 0 := not_lt.mp under
  unfold max min zero
  cases value with
  | finite number =>
      by_cases less : -limit < number
      · simp only [lt, less, decide_true, if_true]
        by_cases above : 0 < number
        · simp only [above, decide_true, if_true]
          exact ⟨0, rfl, least, le_refl _⟩
        · simp only [above, decide_false, Bool.false_eq_true, if_false]
          exact ⟨number, rfl, less.le, not_lt.mp above⟩
      · simp only [lt, less, decide_false, Bool.false_eq_true, if_false, under]
        exact ⟨-limit, rfl, le_refl _, least⟩
  | infinite negative =>
      cases negative with
      | true =>
          simp only [lt, Bool.not_true, Bool.false_eq_true, if_false, under, decide_false]
          exact ⟨-limit, rfl, le_refl _, least⟩
      | false => exact ⟨0, rfl, least, le_refl _⟩
  | nan =>
      simp only [lt, Bool.false_eq_true, if_false, under, decide_false]
      exact ⟨-limit, rfl, le_refl _, least⟩

theorem round_between {limit : Int} {number : Rat} (low : -(limit : Rat) ≤ number)
    (high : number ≤ limit) : -limit ≤ round number ∧ round number ≤ limit := by
  unfold round
  split_ifs with negative
  · have upper : ⌊-number + 1 / 2⌋ < limit + 1 := by
      rw [Int.floor_lt]
      push_cast
      linarith
    have lower : 0 ≤ ⌊-number + 1 / 2⌋ := Int.floor_nonneg.mpr (by linarith)
    omega
  · have upper : ⌊number + 1 / 2⌋ < limit + 1 := by
      rw [Int.floor_lt]
      push_cast
      linarith
    have lower : 0 ≤ ⌊number + 1 / 2⌋ := Int.floor_nonneg.mpr (by linarith)
    omega

theorem lround_between (arithmetic : Arithmetic) {limit : Int} (small : limit < 2 ^ 63)
    (within : Between (-limit) limit value) :
    -limit ≤ lround arithmetic value ∧ lround arithmetic value ≤ limit := by
  obtain ⟨number, rfl, low, high⟩ := within
  have bounds := round_between low high
  rw [lround, if_pos (by omega)]
  exact bounds

theorem round_intCast (count : Int) : round count = count := by
  have half (number : Int) : ⌊(number : Rat) + 1 / 2⌋ = number := by
    rw [Int.floor_eq_iff]
    constructor
    · linarith
    · linarith
  unfold round
  split_ifs with negative
  · have moved := half (-count)
    rw [Int.cast_neg] at moved
    rw [moved]
    omega
  · exact half count

theorem lround_intCast (arithmetic : Arithmetic) {count : Int} (low : -2 ^ 63 ≤ count)
    (high : count < 2 ^ 63) : lround arithmetic (.finite count) = count := by
  rw [lround, round_intCast, if_pos ⟨low, high⟩]

theorem clamp_inside {low high number : Rat} (above : low ≤ number) (below : number ≤ high) :
    (Double.finite number).clamp (.finite low) (.finite high) = .finite number := by
  simp only [clamp, lt, not_lt.mpr above, not_lt.mpr below, decide_false, Bool.false_eq_true,
    if_false]

end Range
end Double
end Ioniq5Ecan.Library
