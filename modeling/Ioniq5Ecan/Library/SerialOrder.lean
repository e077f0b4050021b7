import Mathlib.Algebra.Group.Nat.Defs
import Mathlib.Data.List.MinMax

/-! # Serial numbers

Numbers that wrap, compared by their difference.  Within a window of half the
range that is the order of their offsets from its base.  The newest of a list
is its first element with the greatest offset; one more element moves it or
does not. -/
set_option autoImplicit false
namespace Ioniq5Ecan.Library

section Serial
variable {candidate previous base : UInt32}

/-- How far a serial number is into the window that starts at `base`. -/
def serialOffset (base serial : UInt32) : Nat := (serial - base).toNat

theorem serial_newer_iff (candidateWithin : serialOffset base candidate < 2 ^ 31)
    (previousWithin : serialOffset base previous < 2 ^ 31) :
    (candidate - previous ≠ 0 ∧ candidate - previous < 0x80000000) ↔
      serialOffset base previous < serialOffset base candidate := by
  have half : (0x80000000 : UInt32).toNat = 2 ^ 31 := by decide
  have zero : (0 : UInt32).toNat = 0 := rfl
  have difference (first second : UInt32) :
      (first - second).toNat = (2 ^ 32 - second.toNat + first.toNat) % 2 ^ 32 :=
    UInt32.toNat_sub first second
  have := candidate.toNat_lt
  have := previous.toNat_lt
  have := base.toNat_lt
  unfold serialOffset at *
  rw [ne_eq, ← UInt32.toNat_inj, UInt32.lt_iff_toNat_lt, half, zero]
  simp only [difference] at *
  omega

end Serial

section Newest
variable {Item : Type} {offset : Item → Nat} {items : List Item} {item : Item}

theorem newest_append_of_le (known : ∃ earlier ∈ items, offset item ≤ offset earlier) :
    (items ++ [item]).argmax offset = items.argmax offset := by
  obtain ⟨earlier, member, above⟩ := known
  rw [List.argmax_concat]
  cases newest : items.argmax offset with
  | none =>
      rw [List.argmax_eq_none.mp newest] at member
      cases member
  | some best =>
      have bound := List.le_of_mem_argmax member newest
      simp only
      rw [if_neg (by omega)]

theorem newest_append_of_lt (newer : ∀ earlier ∈ items, offset earlier < offset item) :
    (items ++ [item]).argmax offset = some item := by
  rw [List.argmax_concat]
  cases newest : items.argmax offset with
  | none => rfl
  | some best =>
      simp only
      rw [if_pos (newer best (List.argmax_mem newest))]

end Newest
end Ioniq5Ecan.Library
