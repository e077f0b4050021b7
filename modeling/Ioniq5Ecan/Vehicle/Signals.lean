import Ioniq5Ecan.Library.BitFields
import Ioniq5Ecan.Vehicle.ButtonFrames

/-! # Signals in two byte orders

`bit_codec.hpp`: `set_signal` and `get_signal` move a signal bit by bit, upwards
from its start in little-endian order and along the Motorola numbering, most
significant bit first, in big-endian order.  Both are one field of the bits of
the payload. -/
set_option autoImplicit false
namespace Ioniq5Ecan

open Library

inductive ByteOrder
  | littleEndian
  | bigEndian
  deriving DecidableEq

/-- The bit after `dbcBit` in Motorola order. -/
def nextDbcBit (dbcBit : Nat) : Nat := if dbcBit % 8 = 0 then dbcBit + 15 else dbcBit - 1

def rawBit (raw : UInt64) (index : Nat) : Bool := (raw >>> UInt64.ofNat index) &&& 1 != 0

def setBit {size : Nat} (data : Vector UInt8 size) (bit : Nat) (value : Bool) :
    Vector UInt8 size :=
  let mask : UInt8 := 1 <<< UInt8.ofNat (bit % 8)
  data.setIfInBounds (bit / 8)
    ((data.getD (bit / 8) 0 &&& ~~~mask) ||| if value then mask else 0)

/-- The Motorola loop of `set_signal`. -/
def setMotorola {size : Nat} (raw : UInt64) :
    Nat → Nat → Vector UInt8 size → Option (Vector UInt8 size)
  | 0, _, data => some data
  | source + 1, dbcBit, data =>
      if size * 8 ≤ dbcBit then none
      else setMotorola raw source (nextDbcBit dbcBit) (setBit data dbcBit (rawBit raw source))

/-- `none` is an exception.  Positions do not wrap: the `unsigned` and `int` of the source hold them
while `8 * size + 64 < 2 ^ 31`. -/
def setSignal {size : Nat} (data : Vector UInt8 size) (startBit bitLength : Nat) (raw : UInt64)
    (order : ByteOrder) : Option (Vector UInt8 size) :=
  if bitLength == 0 || decide (64 < bitLength) then none
  else
    match order with
    | .littleEndian =>
        if size * 8 < startBit + bitLength then none
        else some ((List.range bitLength).foldl
          (fun data index => setBit data (startBit + index) (rawBit raw index)) data)
    | .bigEndian => setMotorola raw bitLength startBit data

/-- The Motorola loop of `get_signal`. -/
def getMotorola {size : Nat} (data : Vector UInt8 size) : Nat → Nat → UInt64 → Option UInt64
  | 0, _, raw => some raw
  | remaining + 1, dbcBit, raw =>
      if size * 8 ≤ dbcBit then none
      else getMotorola data remaining (nextDbcBit dbcBit)
        ((raw <<< 1) |||
          ((data.getD (dbcBit / 8) 0 >>> UInt8.ofNat (dbcBit % 8)) &&& 1).toUInt64)

/-- `get_signal` in either order. -/
def getSignalIn {size : Nat} (order : ByteOrder) (data : Vector UInt8 size)
    (startBit bitLength : Nat) : Option UInt64 :=
  match order with
  | .littleEndian => getSignal data startBit bitLength
  | .bigEndian =>
      if bitLength == 0 || decide (64 < bitLength) then none
      else getMotorola data bitLength startBit 0

/-! ## Bits -/

def bitAt {size : Nat} (data : Vector UInt8 size) (position : Nat) : Bool :=
  (data.getD (position / 8) 0).toBitVec.getLsbD (position % 8)

section Bits
variable {size : Nat} {data : Vector UInt8 size}

theorem bit_mask (byte mask : UInt8) (bit place : Fin 8)
    (single : mask.toBitVec.getLsbD place = decide (place = bit)) (value : Bool) :
    ((byte &&& ~~~mask) ||| if value then mask else 0).toBitVec.getLsbD place =
      if place = bit then value else byte.toBitVec.getLsbD place := by
  cases value with
  | false =>
      simp only [Bool.false_eq_true, if_false, UInt8.toBitVec_or, UInt8.toBitVec_and,
        UInt8.toBitVec_not, BitVec.getLsbD_or, BitVec.getLsbD_and, BitVec.getLsbD_not, single]
      by_cases same : place = bit <;> simp [same, place.isLt]
  | true =>
      simp only [if_true, UInt8.toBitVec_or, UInt8.toBitVec_and, UInt8.toBitVec_not,
        BitVec.getLsbD_or, BitVec.getLsbD_and, BitVec.getLsbD_not, single]
      by_cases same : place = bit <;> simp [same, place.isLt]

theorem single_bit : ∀ bit place : Fin 8,
    ((1 : UInt8) <<< UInt8.ofNat bit).toBitVec.getLsbD place = decide (place = bit) := by
  decide +kernel

theorem bitAt_setBit (bit : Nat) (inside : bit < size * 8) (value : Bool) :
    bitAt (setBit data bit value) = Function.update (bitAt data) bit value := by
  funext place
  have byte : bit / 8 < size := by omega
  have masked := bit_mask (data.getD (bit / 8) 0) _ ⟨bit % 8, by omega⟩ ⟨place % 8, by omega⟩
    (single_bit _ _) value
  simp only [Fin.mk.injEq] at masked
  by_cases sameByte : place / 8 = bit / 8
  · have read : (setBit data bit value).getD (place / 8) 0 =
        (data.getD (bit / 8) 0 &&& ~~~((1 : UInt8) <<< UInt8.ofNat (bit % 8))) |||
          if value then (1 : UInt8) <<< UInt8.ofNat (bit % 8) else 0 := by
      simp [setBit, Vector.getD, sameByte, byte]
    rw [bitAt, read, masked]
    by_cases same : place = bit
    · subst same
      simp
    · have bitDiffers : ¬ place % 8 = bit % 8 := by omega
      rw [if_neg bitDiffers, Function.update_of_ne same, bitAt, sameByte]
  · have read : (setBit data bit value).getD (place / 8) 0 = data.getD (place / 8) 0 := by
      by_cases inData : place / 8 < size
      · simp [setBit, Vector.getD, inData, Ne.symm sameByte]
      · simp [Vector.getD, inData]
    have differs : place ≠ bit := fun same => sameByte (congrArg (· / 8) same)
    rw [bitAt, read, Function.update_of_ne differs, bitAt]

theorem rawBit_eq (raw : UInt64) (index : Nat) (inside : index < 64) :
    rawBit raw index = raw.toNat.testBit index := by
  have shift : (raw >>> UInt64.ofNat index).toNat = raw.toNat >>> index := by
    rw [UInt64.toNat_shiftRight, UInt64.toNat_ofNat', Nat.mod_mod_of_dvd _ (by decide),
      Nat.mod_eq_of_lt inside]
  have masked : ((raw >>> UInt64.ofNat index) &&& 1).toNat = raw.toNat >>> index % 2 := by
    rw [UInt64.toNat_and, shift]
    exact Nat.and_one_is_mod _
  rw [rawBit, Nat.testBit_eq_decide_div_mod_eq, ← Nat.shiftRight_eq_div_pow, ← masked]
  have small : ((raw >>> UInt64.ofNat index) &&& 1).toNat < 2 := by
    rw [masked]
    omega
  by_cases none : (raw >>> UInt64.ofNat index) &&& 1 = 0
  · simp [none]
  · have one : ((raw >>> UInt64.ofNat index) &&& 1).toNat = 1 := by
      have positive : ((raw >>> UInt64.ofNat index) &&& 1).toNat ≠ 0 := fun zero =>
        none (UInt64.toNat_inj.mp zero)
      omega
    simp only [one, decide_true]
    exact bne_iff_ne.mpr none

end Bits

/-! ## Fields -/

def motorolaBits : Nat → Nat → List Nat
  | 0, _ => []
  | count + 1, dbcBit => dbcBit :: motorolaBits count (nextDbcBit dbcBit)

/-- The bits of a signal, least significant first. -/
def signalBits (order : ByteOrder) (startBit bitLength : Nat) : List Nat :=
  match order with
  | .littleEndian => List.range' startBit bitLength
  | .bigEndian => (motorolaBits bitLength startBit).reverse

structure SignalFits (order : ByteOrder) (startBit bitLength size : Nat) : Prop where
  positive : 0 < bitLength
  word : bitLength ≤ 64
  distinct : (signalBits order startBit bitLength).Nodup
  inside : ∀ bit ∈ signalBits order startBit bitLength, bit < size * 8

instance (order : ByteOrder) (startBit bitLength size : Nat) :
    Decidable (SignalFits order startBit bitLength size) :=
  decidable_of_iff (0 < bitLength ∧ bitLength ≤ 64 ∧ (signalBits order startBit bitLength).Nodup ∧
      ∀ bit ∈ signalBits order startBit bitLength, bit < size * 8)
    ⟨fun ⟨positive, word, distinct, inside⟩ => ⟨positive, word, distinct, inside⟩,
      fun ⟨positive, word, distinct, inside⟩ => ⟨positive, word, distinct, inside⟩⟩

@[simp]
theorem length_motorolaBits (count : Nat) : ∀ dbcBit, (motorolaBits count dbcBit).length = count := by
  induction count with
  | zero => intro dbcBit; rfl
  | succ count ih => intro dbcBit; simp [motorolaBits, ih]

@[simp]
theorem length_signalBits (order : ByteOrder) (startBit bitLength : Nat) :
    (signalBits order startBit bitLength).length = bitLength := by
  cases order <;> simp [signalBits]

section Fields
variable {size : Nat} {data : Vector UInt8 size} {startBit bitLength : Nat} {raw : UInt64}

theorem bitAt_littleEndian (count : Nat) (word : count ≤ 64) (inside : startBit + count ≤ size * 8) :
    bitAt ((List.range count).foldl
        (fun data index => setBit data (startBit + index) (rawBit raw index)) data) =
      BitField.write (List.range' startBit count) raw.toNat (bitAt data) := by
  induction count with
  | zero => rfl
  | succ count ih =>
      rw [List.range_succ, List.foldl_append, List.foldl_cons, List.foldl_nil,
        bitAt_setBit _ (by omega), ih (by omega) (by omega), List.range'_1_concat,
        BitField.write_append, rawBit_eq raw count (by omega)]
      simp [BitField.write, Nat.testBit_eq_decide_div_mod_eq]

theorem bitAt_bigEndian (count : Nat) (word : count ≤ 64) :
    ∀ (dbcBit : Nat) (data : Vector UInt8 size), (motorolaBits count dbcBit).Nodup →
      (∀ bit ∈ motorolaBits count dbcBit, bit < size * 8) →
        ∃ written, setMotorola raw count dbcBit data = some written ∧
          bitAt written =
            BitField.write (motorolaBits count dbcBit).reverse raw.toNat (bitAt data) := by
  induction count with
  | zero => intro dbcBit data _ _; exact ⟨data, rfl, rfl⟩
  | succ count ih =>
      intro dbcBit data distinct inside
      obtain ⟨fresh, distinctRest⟩ := List.nodup_cons.mp distinct
      have here : dbcBit < size * 8 := inside dbcBit (List.mem_cons_self ..)
      obtain ⟨written, wrote, bits⟩ := ih (by omega) (nextDbcBit dbcBit)
        (setBit data dbcBit (rawBit raw count)) distinctRest
        (fun bit member => inside bit (List.mem_cons_of_mem _ member))
      refine ⟨written, ?_, ?_⟩
      · rw [setMotorola, if_neg (by omega), wrote]
      · have notIn : dbcBit ∉ (motorolaBits count (nextDbcBit dbcBit)).reverse := by
          simpa using fresh
        rw [bits, bitAt_setBit _ here, BitField.write_update _ notIn, motorolaBits,
          List.reverse_cons, BitField.write_append, rawBit_eq raw count (by omega)]
        simp [BitField.write, Nat.testBit_eq_decide_div_mod_eq]

/-- `set_signal` writes one field. -/
theorem setSignal_bits {order : ByteOrder} (fits : SignalFits order startBit bitLength size) :
    ∃ written, setSignal data startBit bitLength raw order = some written ∧
      bitAt written = BitField.write (signalBits order startBit bitLength) raw.toNat (bitAt data) := by
  obtain ⟨positive, word, distinct, inside⟩ := fits
  have length : (bitLength == 0 || decide (64 < bitLength)) = false := by
    simp
    omega
  cases order with
  | littleEndian =>
      have fits : startBit + bitLength ≤ size * 8 := by
        have last := inside (startBit + (bitLength - 1)) (by simp [signalBits]; omega)
        omega
      refine ⟨_, ?_, bitAt_littleEndian bitLength word fits⟩
      simp only [setSignal, length, Bool.false_eq_true, if_false]
      rw [if_neg (by omega)]
  | bigEndian =>
      obtain ⟨written, wrote, bits⟩ := @bitAt_bigEndian size raw bitLength word startBit data
        (List.nodup_reverse.mp distinct) (fun bit member => inside bit (List.mem_reverse.mpr member))
      refine ⟨written, ?_, bits⟩
      simp only [setSignal, length, Bool.false_eq_true, if_false, wrote]

theorem loaded_bit (bit : Nat) :
    (((data.getD (bit / 8) 0 >>> UInt8.ofNat (bit % 8)) &&& 1).toUInt64).toNat =
      (bitAt data bit).toNat := by
  have shift : (UInt8.ofNat (bit % 8)).toNat % 8 = bit % 8 := by
    rw [UInt8.toNat_ofNat']
    omega
  rw [UInt8.toNat_toUInt64, UInt8.toNat_and, UInt8.toNat_shiftRight, shift]
  show _ &&& 1 = _
  rw [Nat.and_one_is_mod, bitAt, ← BitVec.testBit_toNat, UInt8.toNat_toBitVec,
    Nat.testBit_eq_decide_div_mod_eq, Nat.shiftRight_eq_div_pow]
  rcases Nat.mod_two_eq_zero_or_one ((data.getD (bit / 8) 0).toNat / 2 ^ (bit % 8)) with bit | bit
  · simp [bit]
  · simp [bit]

theorem or_shifted_toNat (raw bit : UInt64) (count : Nat) (word : count < 64)
    (low : raw.toNat < 2 ^ count) (single : bit.toNat < 2) :
    (raw ||| bit <<< UInt64.ofNat count).toNat = raw.toNat + 2 ^ count * bit.toNat := by
  have shift : (UInt64.ofNat count).toNat % 64 = count := by
    rw [UInt64.toNat_ofNat']
    omega
  have small : bit.toNat * 2 ^ count < 2 ^ 64 := by
    have bound : (2 : Nat) ^ count ≤ 2 ^ 63 := Nat.pow_le_pow_right (by decide) (by omega)
    have step : bit.toNat * 2 ^ count ≤ 1 * 2 ^ 63 := Nat.mul_le_mul (by omega) bound
    omega
  rw [UInt64.toNat_or, UInt64.toNat_shiftLeft, shift, Nat.shiftLeft_eq, Nat.mod_eq_of_lt small,
    Nat.mul_comm bit.toNat, Nat.or_comm, ← Nat.two_pow_add_eq_or_of_lt low, Nat.add_comm]

theorem shifted_or_toNat (raw bit : UInt64) (low : raw.toNat < 2 ^ 63) (single : bit.toNat < 2) :
    ((raw <<< 1) ||| bit).toNat = 2 * raw.toNat + bit.toNat := by
  have shift : (raw <<< 1).toNat = 2 ^ 1 * raw.toNat := by
    have one : (1 : UInt64).toNat % 64 = 1 := rfl
    rw [UInt64.toNat_shiftLeft, one, Nat.shiftLeft_eq, Nat.mul_comm]
    exact Nat.mod_eq_of_lt (by omega)
  have bit_lt : bit.toNat < 2 ^ 1 := by omega
  rw [UInt64.toNat_or, shift, ← Nat.two_pow_add_eq_or_of_lt bit_lt]

theorem getSignal_bits (positive : 0 < bitLength) (word : bitLength ≤ 64)
    (inside : startBit + bitLength ≤ size * 8) :
    getSignal data startBit bitLength =
      some (.ofNat (BitField.read (List.range' startBit bitLength) (bitAt data))) := by
  have loop (count : Nat) (within : count ≤ 64) :
      ((List.range count).foldl (fun raw index =>
        let source := startBit + index
        raw ||| ((data.getD (source / 8) 0 >>> UInt8.ofNat (source % 8)) &&& 1).toUInt64 <<<
          UInt64.ofNat index) 0).toNat =
        BitField.read (List.range' startBit count) (bitAt data) := by
    induction count with
    | zero => rfl
    | succ count ih =>
        have before := ih (by omega)
        have low := BitField.read_lt (List.range' startBit count) (bitAt data)
        rw [List.length_range', ← before] at low
        have single := (bitAt data (startBit + count)).toNat_lt
        rw [List.range_succ, List.foldl_append, List.foldl_cons, List.foldl_nil,
          List.range'_1_concat, BitField.read_append]
        rw [or_shifted_toNat _ _ count (by omega) low (by rw [loaded_bit]; exact single), before,
          loaded_bit]
        simp [BitField.read]
  unfold getSignal
  rw [if_neg (by simp; omega), if_neg (by omega), ← loop bitLength word, UInt64.ofNat_toNat]

theorem read_byte (data : Vector UInt8 size) (index : Nat) :
    BitField.read (List.range' (index * 8) 8) (bitAt data) = (data.getD index 0).toNat := by
  have low (count : Nat) (within : count ≤ 8) :
      BitField.read (List.range' (index * 8) count) (bitAt data) =
        (data.getD index 0).toNat % 2 ^ count := by
    induction count with
    | zero => simp [BitField.read, Nat.mod_one]
    | succ count ih =>
        have byte : (index * 8 + count) / 8 = index := by omega
        have place : (index * 8 + count) % 8 = count := by omega
        rw [List.range'_1_concat, BitField.read_append, ih (by omega), Nat.mod_pow_succ]
        simp only [List.length_range', BitField.read, bitAt, byte, place, Nat.mul_zero, Nat.add_zero]
        rw [← BitVec.testBit_toNat, UInt8.toNat_toBitVec, Nat.testBit_eq_decide_div_mod_eq]
        rcases Nat.mod_two_eq_zero_or_one ((data.getD index 0).toNat / 2 ^ count) with bit | bit
        · simp [bit]
        · simp [bit]
  rw [low 8 (Nat.le_refl _)]
  exact Nat.mod_eq_of_lt (data.getD index 0).toNat_lt

theorem getMotorola_bits (count : Nat) :
    ∀ (dbcBit before : Nat) (raw : UInt64), before + count ≤ 64 → raw.toNat < 2 ^ before →
      (∀ bit ∈ motorolaBits count dbcBit, bit < size * 8) →
        ∃ loaded, getMotorola data count dbcBit raw = some loaded ∧
          loaded.toNat = 2 ^ count * raw.toNat +
            BitField.read (motorolaBits count dbcBit).reverse (bitAt data) := by
  induction count with
  | zero =>
      intro dbcBit before raw word low inside
      exact ⟨raw, rfl, by simp [motorolaBits, BitField.read]⟩
  | succ count ih =>
      intro dbcBit before raw word low inside
      have here : dbcBit < size * 8 := inside dbcBit (List.mem_cons_self ..)
      have single := (bitAt data dbcBit).toNat_lt
      have bound : (2 : Nat) ^ before ≤ 2 ^ 63 := Nat.pow_le_pow_right (by decide) (by omega)
      have value := shifted_or_toNat raw
        ((data.getD (dbcBit / 8) 0 >>> UInt8.ofNat (dbcBit % 8)) &&& 1).toUInt64 (by omega)
        (by rw [loaded_bit]; exact single)
      rw [loaded_bit] at value
      obtain ⟨loaded, reads, total⟩ := ih (nextDbcBit dbcBit) (before + 1) _ (by omega)
        (by rw [value, Nat.pow_succ]; omega)
        (fun bit member => inside bit (List.mem_cons_of_mem _ member))
      refine ⟨loaded, ?_, ?_⟩
      · rw [getMotorola, if_neg (by omega), reads]
      · rw [total, value, motorolaBits, List.reverse_cons, BitField.read_append]
        simp only [List.length_reverse, length_motorolaBits, BitField.read, Nat.pow_succ,
          Nat.mul_add, Nat.mul_assoc]
        omega

/-- `get_signal` reads one field. -/
theorem getSignalIn_bits {order : ByteOrder} (fits : SignalFits order startBit bitLength size) :
    getSignalIn order data startBit bitLength =
      some (.ofNat (BitField.read (signalBits order startBit bitLength) (bitAt data))) := by
  obtain ⟨positive, word, distinct, inside⟩ := fits
  cases order with
  | littleEndian =>
      refine getSignal_bits positive word ?_
      have last := inside (startBit + (bitLength - 1)) (by simp [signalBits]; omega)
      omega
  | bigEndian =>
      have length : (bitLength == 0 || decide (64 < bitLength)) = false := by
        simp
        omega
      obtain ⟨loaded, reads, value⟩ := @getMotorola_bits size data bitLength startBit 0 0
        (by omega) (by decide) (fun bit member => inside bit (List.mem_reverse.mpr member))
      simp only [getSignalIn, length, Bool.false_eq_true, if_false, reads, signalBits]
      have same := congrArg UInt64.ofNat value
      rw [UInt64.ofNat_toNat] at same
      rw [same]
      simp

end Fields
end Ioniq5Ecan
