import Mathlib.Data.List.Nodup
import Mathlib.Data.Nat.Bitwise
import Mathlib.Logic.Function.Basic

/-! # Fields over a bit memory

A field is a list of positions, the least significant bit of its value first.
`write` stores a value in a field and `read` loads one; `overlay` writes
several fields over a memory, each of which reads back where they are disjoint. -/
set_option autoImplicit false
namespace Ioniq5Ecan.Library.BitField

variable {Position : Type} [DecidableEq Position]

def write : List Position → Nat → (Position → Bool) → Position → Bool
  | [], _, bits => bits
  | position :: rest, value, bits =>
      write rest (value / 2) (Function.update bits position (value.testBit 0))

omit [DecidableEq Position] in
def read : List Position → (Position → Bool) → Nat
  | [], _ => 0
  | position :: rest, bits => (bits position).toNat + 2 * read rest bits

section One
variable {positions : List Position} {bits other : Position → Bool} {position : Position}

theorem write_outside (positions : List Position) (outside : position ∉ positions) :
    ∀ value bits, write positions value bits position = bits position := by
  induction positions with
  | nil => intro value bits; rfl
  | cons head rest ih =>
      intro value bits
      obtain ⟨notHead, notRest⟩ := not_or.mp (mt List.mem_cons.mpr outside)
      rw [write, ih notRest, Function.update_of_ne notHead]

theorem write_congr (positions : List Position) (same : bits position = other position) :
    ∀ value, write positions value bits position = write positions value other position := by
  induction positions generalizing bits other with
  | nil => intro value; exact same
  | cons head rest ih =>
      intro value
      refine ih ?_ _
      by_cases isHead : position = head
      · subst isHead
        simp only [Function.update_self]
      · simp only [Function.update_of_ne isHead, same]

omit [DecidableEq Position] in
theorem read_congr (same : ∀ position ∈ positions, bits position = other position) :
    read positions bits = read positions other := by
  induction positions with
  | nil => rfl
  | cons head rest ih =>
      have tail := ih fun position member => same position (List.mem_cons_of_mem _ member)
      simp only [read, tail, same head (List.mem_cons_self ..)]

omit [DecidableEq Position] in
theorem read_lt (positions : List Position) (bits : Position → Bool) :
    read positions bits < 2 ^ positions.length := by
  induction positions with
  | nil => simp [read]
  | cons head rest ih =>
      have bit := (bits head).toNat_le
      simp only [read, List.length_cons, Nat.pow_succ]
      omega

/-- A field reads back what was written, as far as it fits. -/
theorem read_write (positions : List Position) (distinct : positions.Nodup) :
    ∀ value bits, read positions (write positions value bits) = value % 2 ^ positions.length := by
  induction positions with
  | nil => intro value bits; simp [read, Nat.mod_one]
  | cons head rest ih =>
      intro value bits
      obtain ⟨notRest, distinctRest⟩ := List.nodup_cons.mp distinct
      have low : write (head :: rest) value bits head = value.testBit 0 := by
        rw [write, write_outside rest notRest, Function.update_self]
      have high : read rest (write (head :: rest) value bits) = value / 2 % 2 ^ rest.length :=
        ih distinctRest _ _
      rw [read, low, high, List.length_cons, Nat.pow_succ', Nat.mod_mul]
      congr 1
      simp only [Nat.testBit_zero]
      rcases Nat.mod_two_eq_zero_or_one value with even | odd
      · simp [even]
      · simp [odd]

theorem write_append (first second : List Position) :
    ∀ value bits, write (first ++ second) value bits =
      write second (value / 2 ^ first.length) (write first value bits) := by
  induction first with
  | nil => intro value bits; simp [write]
  | cons head rest ih =>
      intro value bits
      simp only [List.cons_append, write, ih, List.length_cons]
      rw [Nat.div_div_eq_div_mul, Nat.pow_succ', Nat.mul_comm]

omit [DecidableEq Position] in
theorem read_append (first second : List Position) (bits : Position → Bool) :
    read (first ++ second) bits = read first bits + 2 ^ first.length * read second bits := by
  induction first with
  | nil => simp [read]
  | cons head rest ih =>
      simp only [List.cons_append, read, ih, List.length_cons, Nat.pow_succ', Nat.mul_add,
        Nat.mul_assoc, Nat.add_assoc]

/-- A write to a position outside a field may come before the field or after it. -/
theorem write_update (positions : List Position) (outside : position ∉ positions) (bit : Bool) :
    ∀ value bits, write positions value (Function.update bits position bit) =
      Function.update (write positions value bits) position bit := by
  intro value bits
  funext place
  by_cases same : place = position
  · subst same
    rw [write_outside positions outside, Function.update_self, Function.update_self]
  · rw [Function.update_of_ne same]
    exact write_congr positions (by rw [Function.update_of_ne same]) value

/-- Writes to fields apart from each other commute. -/
theorem write_comm (first second : List Position) (apart : List.Disjoint first second) :
    ∀ (firstValue secondValue : Nat) (bits : Position → Bool),
      write second secondValue (write first firstValue bits) =
        write first firstValue (write second secondValue bits) := by
  induction first with
  | nil => intro firstValue secondValue bits; rfl
  | cons head rest ih =>
      intro firstValue secondValue bits
      obtain ⟨headApart, restApart⟩ := List.disjoint_cons_left.mp apart
      rw [write, ih restApart, write_update second headApart, write]

end One

/-! ## Fields of a number -/

/-- The bytes as one number, the first byte lowest. -/
def fromLittleEndian : List UInt8 → Nat
  | [] => 0
  | byte :: rest => 2 ^ 8 * fromLittleEndian rest + byte.toNat

theorem testBit_fromLittleEndian (bytes : List UInt8) :
    ∀ index, (fromLittleEndian bytes).testBit index =
      (bytes.getD (index / 8) 0).toNat.testBit (index % 8) := by
  induction bytes with
  | nil => intro index; simp [fromLittleEndian]
  | cons byte rest ih =>
      intro index
      rw [fromLittleEndian, Nat.testBit_two_pow_mul_add _ byte.toNat_lt]
      by_cases here : index < 8
      · have first : index / 8 = 0 := by omega
        have place : index % 8 = index := by omega
        rw [if_pos here, first, place, List.getD_cons_zero]
      · have later : index / 8 = (index - 8) / 8 + 1 := by omega
        have place : index % 8 = (index - 8) % 8 := by omega
        rw [if_neg here, ih, later, place, List.getD_cons_succ]

/-- Neighbouring bits of a number, read as a field, are what a shift and a mask leave. -/
theorem read_number (number length : Nat) :
    ∀ start, read (List.range' start length) number.testBit = number / 2 ^ start % 2 ^ length := by
  induction length with
  | zero => intro start; simp [read, Nat.mod_one]
  | succ length ih =>
      intro start
      rw [List.range'_succ, read, ih, Nat.pow_succ' (n := length), Nat.mod_mul,
        Nat.div_div_eq_div_mul, ← Nat.pow_succ, Nat.testBit_eq_decide_div_mod_eq]
      rcases Nat.mod_two_eq_zero_or_one (number / 2 ^ start) with bit | bit
      · simp [bit]
      · simp [bit]

theorem and_sign {raw place : Nat} (short : raw < 2 ^ (place + 1)) :
    (raw &&& 2 ^ place != 0) = decide (2 ^ place ≤ raw) := by
  rw [Nat.and_two_pow, Nat.testBit_eq_decide_div_mod_eq]
  rw [Nat.pow_succ] at short
  by_cases set : 2 ^ place ≤ raw
  · have one : raw / 2 ^ place = 1 := by
      have above : 1 ≤ raw / 2 ^ place := (Nat.one_le_div_iff (Nat.two_pow_pos place)).mpr set
      have below : raw / 2 ^ place < 2 := Nat.div_lt_of_lt_mul (by omega)
      omega
    rw [one, decide_eq_true set]
    simp
  · rw [Nat.div_eq_of_lt (by omega), decide_eq_false set]
    simp

theorem xor_sign_of_clear {low place : Nat} (clear : low < 2 ^ place) :
    low ^^^ 2 ^ place = 2 ^ place + low := by
  apply Nat.eq_of_testBit_eq
  intro index
  rw [Nat.testBit_xor, Nat.testBit_two_pow]
  rcases Nat.lt_trichotomy index place with below | here | above
  · rw [Nat.testBit_two_pow_add_gt below]
    simp [Nat.ne_of_gt below]
  · subst here
    rw [Nat.testBit_two_pow_add_eq]
    simp
  · have sum : 2 ^ place + low < 2 ^ index := by
      have next : (2 : Nat) ^ (place + 1) ≤ 2 ^ index := Nat.pow_le_pow_right (by decide) above
      rw [Nat.pow_succ] at next
      omega
    have small : low < 2 ^ index := by omega
    rw [Nat.testBit_lt_two_pow small, Nat.testBit_lt_two_pow sum]
    simp [Nat.ne_of_lt above]

/-! ## Several fields -/

structure Assignment (Position : Type) where
  positions : List Position
  value : Nat

def owned (assignments : List (Assignment Position)) : List Position :=
  assignments.flatMap Assignment.positions

def overlay : List (Assignment Position) → (Position → Bool) → Position → Bool
  | [], bits => bits
  | assignment :: rest, bits => overlay rest (write assignment.positions assignment.value bits)

section Several
variable {position : Position}

theorem overlay_outside (assignments : List (Assignment Position))
    (outside : position ∉ owned assignments) :
    ∀ bits, overlay assignments bits position = bits position := by
  induction assignments with
  | nil => intro bits; rfl
  | cons assignment rest ih =>
      intro bits
      simp only [owned, List.flatMap_cons, List.mem_append, not_or] at outside
      rw [overlay, ih outside.2, write_outside _ outside.1]

/-- Where no position is owned twice, every field reads back its own value. -/
theorem read_overlay (assignments : List (Assignment Position)) (disjoint : (owned assignments).Nodup)
    {assignment : Assignment Position} (member : assignment ∈ assignments) :
    ∀ bits, read assignment.positions (overlay assignments bits) =
      assignment.value % 2 ^ assignment.positions.length := by
  induction assignments with
  | nil => cases member
  | cons head rest ih =>
      intro bits
      obtain ⟨distinct, disjointRest, apart⟩ := List.nodup_append'.mp disjoint
      rcases List.mem_cons.mp member with isHead | inRest
      · subst isHead
        rw [← read_write assignment.positions distinct assignment.value bits]
        refine read_congr fun position inside => ?_
        exact overlay_outside rest (fun again => apart inside again) _
      · exact ih disjointRest inRest _

end Several
end Ioniq5Ecan.Library.BitField
