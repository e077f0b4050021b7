import Ioniq5Ecan.Library.TableCrc

/-! # Bursts

A message fed bit by bit into a remainder.  A polynomial with a constant term
loses no remainder, and as many bits as the remainder is wide all leave a trace:
two messages that differ within such a window have different remainders
(`feed_burst`). -/
set_option autoImplicit false
namespace Ioniq5Ecan.Library.Crc

variable {width : Nat}

def feedBit (polynomial remainder : BitVec width) (bit : Bool) : BitVec width :=
  if remainder.msb ^^ bit then (remainder <<< 1) ^^^ polynomial else remainder <<< 1

/-- The remainder after `count` bits of a message, from a place of it on. -/
def feed (polynomial : BitVec width) (message : Nat → Bool) :
    Nat → Nat → BitVec width → BitVec width
  | 0, _, remainder => remainder
  | count + 1, place, remainder =>
      feed polynomial message count (place + 1) (feedBit polynomial remainder (message place))

section Feed
variable {polynomial : BitVec width} {first second : Nat → Bool}

theorem feedBit_xor (remainder other : BitVec width) (bit otherBit : Bool) :
    feedBit polynomial (remainder ^^^ other) (bit ^^ otherBit) =
      feedBit polynomial remainder bit ^^^ feedBit polynomial other otherBit := by
  have regroup : (remainder.msb ^^ other.msb ^^ (bit ^^ otherBit)) =
      ((remainder.msb ^^ bit) ^^ (other.msb ^^ otherBit)) := by
    cases remainder.msb <;> cases other.msb <;> cases bit <;> cases otherBit <;> rfl
  unfold feedBit
  rw [BitVec.msb_xor, BitVec.shiftLeft_xor_distrib, regroup]
  exact reduced_xor polynomial _ _ _ _

theorem feed_xor (count : Nat) :
    ∀ (place : Nat) (remainder other : BitVec width),
      feed polynomial (fun index => first index ^^ second index) count place (remainder ^^^ other) =
        feed polynomial first count place remainder ^^^
          feed polynomial second count place other := by
  induction count with
  | zero => intro place remainder other; rfl
  | succ count ih =>
      intro place remainder other
      rw [feed, feedBit_xor, ih]
      rfl

theorem feed_add (count more : Nat) :
    ∀ (place : Nat) (remainder : BitVec width),
      feed polynomial first (count + more) place remainder =
        feed polynomial first more (place + count)
          (feed polynomial first count place remainder) := by
  induction count with
  | zero =>
      intro place remainder
      rw [Nat.zero_add]
      rfl
  | succ count ih =>
      intro place remainder
      rw [Nat.succ_add, feed, ih, feed, Nat.add_assoc, Nat.add_comm 1 count]

theorem feed_congr (count : Nat) :
    ∀ (place : Nat) (remainder : BitVec width),
      (∀ index < count, first (place + index) = second (place + index)) →
        feed polynomial first count place remainder =
          feed polynomial second count place remainder := by
  induction count with
  | zero => intro place remainder _; rfl
  | succ count ih =>
      intro place remainder same
      have here : first place = second place := same 0 (Nat.succ_pos _)
      rw [feed, feed, here]
      refine ih _ _ fun index within => ?_
      have next := same (index + 1) (Nat.succ_lt_succ within)
      rwa [Nat.add_assoc, Nat.add_comm 1 index]

/-- A chunk of the message, taken into the remainder at once. -/
theorem feed_eq_shiftsOut (count : Nat) :
    ∀ (place : Nat) (remainder chunk : BitVec width), count ≤ width →
      (∀ index < width, chunk.getMsbD index = (decide (index < count) && first (place + index))) →
        feed polynomial first count place remainder =
          shiftsOut polynomial count (remainder ^^^ chunk) := by
  induction count with
  | zero =>
      intro place remainder chunk _ holds
      have empty : chunk = 0 := by
        apply BitVec.eq_of_getMsbD_eq
        intro index inside
        rw [holds index inside]
        simp
      rw [empty]
      exact (BitVec.xor_zero).symm
  | succ count ih =>
      intro place remainder chunk within holds
      have top : chunk.msb = first place := by
        have bit := holds 0 (by omega)
        simpa [BitVec.msb] using bit
      have step : shiftOut polynomial (remainder ^^^ chunk) =
          feedBit polynomial remainder (first place) ^^^ (chunk <<< 1) := by
        unfold shiftOut feedBit
        rw [BitVec.msb_xor, top, BitVec.shiftLeft_xor_distrib]
        have once := reduced_xor polynomial (remainder <<< 1) (chunk <<< 1)
          (remainder.msb ^^ first place) false
        rwa [Bool.xor_false, if_neg Bool.false_ne_true] at once
      rw [feed, shiftsOut, step]
      refine ih _ _ _ (by omega) fun index inside => ?_
      rw [BitVec.getMsbD_shiftLeft]
      by_cases last : index + 1 < width
      · rw [holds _ last, Nat.add_assoc, Nat.add_comm 1 index]
        simp
      · have past : ¬ index < count := by omega
        rw [BitVec.getMsbD_of_ge _ _ (by omega)]
        simp [past]

end Feed

/-! ## Nothing is lost -/

section Constant
variable {polynomial : BitVec width} (constant : polynomial.getLsbD 0 = true)
  {message first second : Nat → Bool}
include constant

theorem feedBit_clear {remainder : BitVec width} {bit : Bool}
    (clear : (feedBit polynomial remainder bit).getLsbD 0 = false) :
    remainder.msb = bit ∧ feedBit polynomial remainder bit = remainder <<< 1 := by
  unfold feedBit at clear ⊢
  cases used : remainder.msb ^^ bit with
  | true =>
      rw [used, if_pos rfl, BitVec.getLsbD_xor, constant, BitVec.getLsbD_shiftLeft] at clear
      simp at clear
  | false =>
      rw [if_neg Bool.false_ne_true]
      exact ⟨(bne_eq_false_iff_eq).mp used, rfl⟩

theorem feed_eq_zero (count : Nat) :
    ∀ (place : Nat) (remainder : BitVec width), count ≤ width →
      feed polynomial message count place remainder = 0 → ∀ index < width,
        remainder.getMsbD index = (decide (index < count) && message (place + index)) := by
  induction count with
  | zero =>
      intro place remainder _ none index inside
      rw [feed] at none
      rw [none]
      simp
  | succ count ih =>
      intro place remainder within none index inside
      have rest := ih (place + 1) _ (by omega) none
      have lowest := rest (width - 1) (by omega)
      have past : ¬ width - 1 < count := by omega
      have clear : (feedBit polynomial remainder (message place)).getLsbD 0 = false := by
        have last : width - 1 - (width - 1) = 0 := Nat.sub_self _
        rw [BitVec.getMsbD, last, decide_eq_true (by omega), Bool.true_and] at lowest
        rw [lowest, decide_eq_false past, Bool.false_and]
      obtain ⟨top, moved⟩ := feedBit_clear constant clear
      cases index with
      | zero =>
          have first : remainder.getMsbD 0 = message place := top
          rw [first]
          simp
      | succ index =>
          have bit := rest index (by omega)
          rw [moved, BitVec.getMsbD_shiftLeft] at bit
          rw [bit, Nat.add_assoc, Nat.add_comm 1 index]
          simp

omit constant in
theorem feed_clear (count : Nat) :
    ∀ place, (∀ index < count, message (place + index) = false) →
      feed polynomial message count place 0 = 0 := by
  induction count with
  | zero => intro place _; rfl
  | succ count ih =>
      intro place clear
      have here : message place = false := clear 0 (Nat.succ_pos _)
      have step : feedBit polynomial 0 false = 0 := by
        unfold feedBit
        simp
      rw [feed, here, step]
      refine ih _ fun index within => ?_
      have next := clear (index + 1) (Nat.succ_lt_succ within)
      rwa [Nat.add_assoc, Nat.add_comm 1 index]

theorem feed_clear_eq_zero (count : Nat) :
    ∀ (place : Nat) (remainder : BitVec width),
      (∀ index < count, message (place + index) = false) →
        feed polynomial message count place remainder = 0 → remainder = 0 := by
  induction count with
  | zero => intro place remainder _ none; exact none
  | succ count ih =>
      intro place remainder clear none
      have here : message place = false := clear 0 (Nat.succ_pos _)
      rw [feed, here] at none
      have step := ih (place + 1) _ (fun index within => by
        have next := clear (index + 1) (Nat.succ_lt_succ within)
        rwa [Nat.add_assoc, Nat.add_comm 1 index]) none
      obtain ⟨top, moved⟩ := feedBit_clear constant (by rw [step]; exact BitVec.getLsbD_zero)
      rw [moved] at step
      apply BitVec.eq_of_getMsbD_eq
      intro index inside
      cases index with
      | zero => exact top.trans BitVec.getMsbD_zero.symm
      | succ index =>
          have bit := congrArg (fun word => BitVec.getMsbD word index) step
          simp only [BitVec.getMsbD_shiftLeft] at bit
          rw [bit]
          exact BitVec.getMsbD_zero.trans BitVec.getMsbD_zero.symm

/-- Messages that differ, and only within one window of the remainder's width,
leave different remainders. -/
theorem feed_burst {start count low : Nat} (remainder : BitVec width)
    (differ : ∃ place, start ≤ place ∧ place < start + count ∧ first place ≠ second place)
    (window : ∀ place, start ≤ place → place < start + count → first place ≠ second place →
      low ≤ place ∧ place < low + width) :
    feed polynomial first count start remainder ≠
      feed polynomial second count start remainder := by
  intro same
  obtain ⟨place, late, early, bit⟩ := differ
  obtain ⟨above, below⟩ := window place late early bit
  have equal (place : Nat) (late : start ≤ place) (early : place < start + count)
      (outside : ¬ (low ≤ place ∧ place < low + width)) : (first place ^^ second place) = false :=
    bne_eq_false_iff_eq.mpr (Decidable.not_not.mp (mt (window place late early) outside))
  -- The difference of the messages, from a clear remainder.
  have none : feed polynomial (fun index => first index ^^ second index) count start 0 = 0 := by
    have split := @feed_xor width polynomial first second count start remainder remainder
    rw [same, BitVec.xor_self, BitVec.xor_self] at split
    exact split
  -- What comes before the window, the window and what comes after it.
  obtain ⟨before, beforeEq⟩ : ∃ before, before = max low start - start := ⟨_, rfl⟩
  obtain ⟨size, sizeEq⟩ : ∃ size, size = min (low + width) (start + count) - (start + before) :=
    ⟨_, rfl⟩
  obtain ⟨after, total⟩ : ∃ after, count = before + (size + after) :=
    ⟨count - before - size, by omega⟩
  rw [total, feed_add, feed_add,
    feed_clear before start fun index within => equal _ (by omega) (by omega) (by omega)] at none
  have window := feed_clear_eq_zero constant after _ _
    (fun index within => equal _ (by omega) (by omega) (by omega)) none
  have bits := feed_eq_zero constant size _ 0 (by omega) window (place - (start + before))
    (by omega)
  have here : start + before + (place - (start + before)) = place := by omega
  rw [here, decide_eq_true (by omega), Bool.true_and] at bits
  exact bit (bne_eq_false_iff_eq.mp (bits.symm.trans BitVec.getMsbD_zero))

end Constant
end Ioniq5Ecan.Library.Crc
