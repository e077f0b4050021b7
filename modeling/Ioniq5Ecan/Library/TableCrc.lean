import Mathlib.Data.BitVec

/-! # Remainders and their tables

A CRC that shifts its remainder out at the top is linear in exclusive or, so
several shifts at once are a table entry of the bits shifted out and a move of
the others. -/
set_option autoImplicit false
namespace Ioniq5Ecan.Library.Crc

variable {width : Nat}

def shiftOut (polynomial remainder : BitVec width) : BitVec width :=
  if remainder.msb then (remainder <<< 1) ^^^ polynomial else remainder <<< 1

def shiftsOut (polynomial : BitVec width) : Nat → BitVec width → BitVec width
  | 0, remainder => remainder
  | count + 1, remainder => shiftsOut polynomial count (shiftOut polynomial remainder)

section Linear
variable (polynomial : BitVec width)

theorem reduced_xor (first second : BitVec width) (used otherUsed : Bool) :
    (if used ^^ otherUsed then (first ^^^ second) ^^^ polynomial else first ^^^ second) =
      (if used then first ^^^ polynomial else first) ^^^
        if otherUsed then second ^^^ polynomial else second := by
  cases used with
  | false =>
      cases otherUsed with
      | false => rfl
      | true =>
          simp only [Bool.false_xor, if_true, Bool.false_eq_true, if_false]
          exact BitVec.xor_assoc ..
  | true =>
      cases otherUsed with
      | false =>
          simp only [Bool.xor_false, if_true, Bool.false_eq_true, if_false]
          rw [BitVec.xor_assoc, BitVec.xor_assoc, BitVec.xor_comm polynomial]
      | true =>
          simp only [Bool.xor_self, if_true, Bool.false_eq_true, if_false]
          rw [BitVec.xor_assoc, BitVec.xor_comm polynomial, BitVec.xor_assoc, BitVec.xor_self,
            BitVec.xor_zero]

theorem shiftOut_xor (first second : BitVec width) :
    shiftOut polynomial (first ^^^ second) =
      shiftOut polynomial first ^^^ shiftOut polynomial second := by
  unfold shiftOut
  rw [BitVec.msb_xor, BitVec.shiftLeft_xor_distrib]
  exact reduced_xor polynomial _ _ _ _

theorem shiftsOut_xor (count : Nat) :
    ∀ first second : BitVec width, shiftsOut polynomial count (first ^^^ second) =
      shiftsOut polynomial count first ^^^ shiftsOut polynomial count second := by
  induction count with
  | zero => intro first second; rfl
  | succ count ih =>
      intro first second
      rw [shiftsOut, shiftOut_xor, ih]
      rfl

theorem shiftsOut_clear (count : Nat) :
    ∀ remainder : BitVec width, (∀ index < count, remainder.getMsbD index = false) →
      shiftsOut polynomial count remainder = remainder <<< count := by
  induction count with
  | zero => intro remainder _; exact (BitVec.shiftLeft_zero _).symm
  | succ count ih =>
      intro remainder clear
      have top : remainder.msb = false := clear 0 (Nat.succ_pos _)
      have moved : shiftOut polynomial remainder = remainder <<< 1 := by
        unfold shiftOut
        rw [top, if_neg Bool.false_ne_true]
      have rest (index : Nat) (within : index < count) :
          (remainder <<< 1).getMsbD index = false := by
        rw [BitVec.getMsbD_shiftLeft]
        exact clear (index + 1) (by omega)
      rw [shiftsOut, moved, ih _ rest, ← BitVec.shiftLeft_add, Nat.add_comm]

/-- A remainder is its top bits and the others. -/
theorem split_top (count : Nat) (remainder : BitVec width) (within : count ≤ width) :
    remainder = (remainder >>> (width - count)) <<< (width - count) ^^^
      (remainder <<< count) >>> count := by
  apply BitVec.eq_of_getLsbD_eq
  intro index inside
  rw [BitVec.getLsbD_xor, BitVec.getLsbD_shiftLeft, BitVec.getLsbD_ushiftRight,
    BitVec.getLsbD_ushiftRight, BitVec.getLsbD_shiftLeft]
  by_cases low : index < width - count
  · have moved : count + index - count = index := by omega
    have kept : count + index < width := by omega
    simp [low, inside, moved, kept]
  · have moved : width - count + (index - (width - count)) = index := by omega
    have dropped : ¬ count + index < width := by omega
    simp [low, inside, moved, dropped]

/-- Several shifts are one table entry. -/
theorem shiftsOut_table (count : Nat) (remainder : BitVec width) (within : count ≤ width) :
    shiftsOut polynomial count remainder =
      (remainder <<< count) ^^^
        shiftsOut polynomial count
          ((remainder >>> (width - count)) <<< (width - count)) := by
  have clear (index : Nat) (early : index < count) :
      ((remainder <<< count) >>> count).getMsbD index = false := by
    rw [BitVec.getMsbD_ushiftRight]
    simp [early]
  have low : (remainder <<< count) >>> count <<< count = remainder <<< count := by
    apply BitVec.eq_of_getLsbD_eq
    intro index inside
    rw [BitVec.getLsbD_shiftLeft, BitVec.getLsbD_ushiftRight, BitVec.getLsbD_shiftLeft,
      BitVec.getLsbD_shiftLeft]
    by_cases early : index < count
    · simp [early]
    · have moved : count + (index - count) = index := by omega
      simp [moved, inside, early]
  conv_lhs => rw [split_top count remainder within]
  rw [shiftsOut_xor, shiftsOut_clear polynomial count _ clear, low, BitVec.xor_comm]

end Linear
end Ioniq5Ecan.Library.Crc
