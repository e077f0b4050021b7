import Ioniq5Ecan.Vehicle.BitCodec

/-! # The signal decoder

`ecan_signal_decoder.py` decodes the fields of `ecan_signals.json` on its own: a
shift and a mask of the payload as one integer in little-endian order, a list of
positions in big-endian order.  `decode_eq_host` compares it with `get_signal`
and `sign_extend`. -/
set_option autoImplicit false
namespace Ioniq5Ecan

open Library

/-- What a field reads of its entry in `ecan_signals.json`. -/
structure SignalSpec (Value : Type) where
  startBit : Nat
  bits : Nat
  endian : String
  signed : Bool
  factor : Value
  offset : Value

structure Field (Value : Type) where
  startBit : Nat
  bits : Nat
  little : Bool
  signed : Bool
  factor : Value
  offset : Value
  positions : List Nat
  lastByte : Nat

namespace Field
variable {Value : Type}

/-- `_positions`, most significant bit first. -/
def positionsOf (little : Bool) (startBit bits : Nat) : List Nat :=
  if little then (List.range' startBit bits).reverse
  else
    ((List.range bits).foldl
      (fun (positions, position) _ => (positions ++ [position], nextDbcBit position))
      (([], startBit) : List Nat × Nat)).1

/-- `__init__`; `none` is the exception of `max` on no position. -/
def init (spec : SignalSpec Value) : Option (Field Value) :=
  let little := spec.endian == "little"
  let positions := positionsOf little spec.startBit spec.bits
  positions.max?.map fun last =>
    { startBit := spec.startBit, bits := spec.bits, little, signed := spec.signed,
      factor := spec.factor, offset := spec.offset, positions, lastByte := last / 8 }

def raw (field : Field Value) (data : List UInt8) (asInt : Nat) : Nat :=
  if field.little then (asInt >>> field.startBit) &&& ((1 <<< field.bits) - 1)
  else
    field.positions.foldl (fun raw position =>
      (raw <<< 1) ||| (((data.getD (position >>> 3) 0).toNat >>> (position &&& 7)) &&& 1)) 0

/-- `decode`; the check of `last_byte` keeps every index inside `data`. -/
def decode [IntCast Value] [Mul Value] [Add Value] (field : Field Value) (data : List UInt8)
    (asInt : Nat) : Option Value :=
  if data.length ≤ field.lastByte then none
  else
    let raw := field.raw data asInt
    let number : Int :=
      if field.signed && raw &&& (1 <<< (field.bits - 1)) != 0 then
        (raw : Int) - (1 <<< field.bits : Nat)
      else raw
    some ((number : Value) * field.factor + field.offset)

end Field

def SignalSpec.order {Value : Type} (spec : SignalSpec Value) : ByteOrder :=
  if spec.endian == "little" then .littleEndian else .bigEndian

def payloadOf (data : List UInt8) : Vector UInt8 data.length := ⟨data.toArray, rfl⟩

/-! ## Positions -/

section Positions
variable {startBit bits : Nat}

theorem walked_positions (count : Nat) :
    ∀ (position : Nat) (before : List Nat) (steps : List Nat), steps.length = count →
      (steps.foldl (fun (positions, position) _ => (positions ++ [position], nextDbcBit position))
        ((before, position) : List Nat × Nat)).1 = before ++ motorolaBits count position := by
  induction count with
  | zero =>
      intro position before steps empty
      rw [List.length_eq_zero_iff.mp empty, motorolaBits, List.append_nil]
      rfl
  | succ count ih =>
      intro position before steps length
      obtain ⟨step, rest, rfl⟩ := List.exists_cons_of_length_eq_add_one length
      rw [List.foldl_cons, ih _ _ rest (Nat.succ.inj length), motorolaBits, List.append_assoc]
      rfl

/-- The positions of the script are those of the codec, from the other end. -/
theorem positionsOf_eq (little : Bool) :
    Field.positionsOf little startBit bits =
      (signalBits (if little then .littleEndian else .bigEndian) startBit bits).reverse := by
  cases little with
  | true => rfl
  | false =>
      have walk := walked_positions bits startBit [] (List.range bits) List.length_range
      rw [List.nil_append] at walk
      simp only [Field.positionsOf, Bool.false_eq_true, if_false, signalBits, List.reverse_reverse,
        walk]

theorem lastByte_lt_iff {positions : List Nat} {last size : Nat}
    (largest : positions.max? = some last) :
    last / 8 < size ↔ ∀ position ∈ positions, position < size * 8 := by
  obtain ⟨member, above⟩ := List.max?_eq_some_iff.mp largest
  constructor
  · intro within position inside
    have := above position inside
    omega
  · intro inside
    have := inside last member
    omega

end Positions

/-! ## Values -/

section Values
variable {data : List UInt8}

theorem bitAt_payloadOf (bit : Nat) :
    bitAt (payloadOf data) bit = (data.getD (bit / 8) 0).toNat.testBit (bit % 8) := by
  have byte : (payloadOf data).getD (bit / 8) 0 = data.getD (bit / 8) 0 := by
    simp [payloadOf, Vector.getD, List.getD_eq_getElem?_getD]
  rw [bitAt, byte, ← BitVec.testBit_toNat, UInt8.toNat_toBitVec]

theorem walked_bits (positions : List Nat) (data : List UInt8) :
    ∀ raw, positions.foldl (fun raw position =>
        (raw <<< 1) ||| (((data.getD (position >>> 3) 0).toNat >>> (position &&& 7)) &&& 1)) raw =
      raw * 2 ^ positions.length + BitField.read positions.reverse (bitAt (payloadOf data)) := by
  induction positions with
  | nil => intro raw; simp [BitField.read]
  | cons position rest ih =>
      intro raw
      have bit : ((data.getD (position >>> 3) 0).toNat >>> (position &&& 7)) &&& 1 =
          (bitAt (payloadOf data) position).toNat := by
        have place : position &&& 7 = position % 8 := Nat.and_two_pow_sub_one_eq_mod position 3
        rw [Nat.and_one_is_mod, place, Nat.shiftRight_eq_div_pow, Nat.shiftRight_eq_div_pow,
          bitAt_payloadOf, Nat.testBit_eq_decide_div_mod_eq]
        generalize (data.getD (position / 2 ^ 3) 0).toNat / 2 ^ (position % 8) = number
        rcases Nat.mod_two_eq_zero_or_one number with even | odd
        · simp [even]
        · simp [odd]
      have next : (raw <<< 1) ||| (bitAt (payloadOf data) position).toNat =
          2 * raw + (bitAt (payloadOf data) position).toNat := by
        have single : (bitAt (payloadOf data) position).toNat < 2 ^ 1 := Bool.toNat_lt _
        rw [Nat.shiftLeft_eq, Nat.mul_comm, ← Nat.two_pow_add_eq_or_of_lt single]
      rw [List.foldl_cons, bit, next, ih, List.reverse_cons, BitField.read_append,
        List.length_reverse, List.length_cons, Nat.pow_succ]
      simp only [BitField.read, Nat.mul_zero, Nat.add_zero]
      ring

end Values

/-! ## The two decoders -/

section Decoders
variable {Value : Type} {spec : SignalSpec Value} {field : Field Value} {data : List UInt8}

/-- A field as `__init__` makes it. -/
structure Field.Of (spec : SignalSpec Value) (field : Field Value) : Prop where
  startBit : field.startBit = spec.startBit
  bits : field.bits = spec.bits
  little : field.little = (spec.endian == "little")
  signed : field.signed = spec.signed
  scale : field.factor = spec.factor ∧ field.offset = spec.offset
  positions : field.positions = (signalBits spec.order spec.startBit spec.bits).reverse
  inside : ∀ size, field.lastByte < size ↔
    ∀ bit ∈ signalBits spec.order spec.startBit spec.bits, bit < size * 8

theorem init_of (built : Field.init spec = some field) : field.Of spec := by
  obtain ⟨last, largest, rfl⟩ := Option.map_eq_some_iff.mp built
  have positions := @positionsOf_eq spec.startBit spec.bits (spec.endian == "little")
  refine ⟨rfl, rfl, rfl, rfl, ⟨rfl, rfl⟩, positions, fun size => ?_⟩
  rw [lastByte_lt_iff largest, positions]
  simp only [List.mem_reverse]
  rfl

theorem init_isSome (positive : 0 < spec.bits) : (Field.init spec).isSome := by
  have positions := @positionsOf_eq spec.startBit spec.bits (spec.endian == "little")
  have length : (Field.positionsOf (spec.endian == "little") spec.startBit spec.bits).length =
      spec.bits := by
    rw [positions, List.length_reverse, length_signalBits]
  rw [Field.init, Option.isSome_map]
  cases walk : Field.positionsOf (spec.endian == "little") spec.startBit spec.bits with
  | nil =>
      rw [walk] at length
      simp only [List.length_nil] at length
      omega
  | cons first rest => rfl

theorem raw_eq (built : field.Of spec) :
    field.raw data (BitField.fromLittleEndian data) =
      BitField.read (signalBits spec.order spec.startBit spec.bits) (bitAt (payloadOf data)) := by
  unfold Field.raw
  by_cases little : (spec.endian == "little") = true
  · have order : spec.order = .littleEndian := if_pos little
    rw [built.little, if_pos little, built.startBit, built.bits, order, Nat.shiftRight_eq_div_pow,
      Nat.one_shiftLeft, Nat.and_two_pow_sub_one_eq_mod, ← BitField.read_number]
    refine BitField.read_congr fun bit _ => ?_
    rw [BitField.testBit_fromLittleEndian, bitAt_payloadOf]
  · rw [built.little, if_neg little, walked_bits, built.positions, List.reverse_reverse,
      Nat.zero_mul, Nat.zero_add]

theorem signExtend_masked {bits raw : Nat} (positive : 0 < bits) (word : bits ≤ 64)
    (short : raw < 2 ^ bits) :
    signExtend (.ofNat raw) bits =
      some (if raw &&& (1 <<< (bits - 1)) != 0 then (raw : Int) - (1 <<< bits : Nat) else raw) := by
  obtain ⟨place, rfl⟩ := Nat.exists_eq_add_of_le' positive
  rw [signExtend_low positive word short, Nat.add_sub_cancel, Nat.one_shiftLeft, Nat.one_shiftLeft,
    BitField.and_sign short]
  congr 1
  by_cases clear : raw < 2 ^ place
  · have unset : ¬ 2 ^ place ≤ raw := Nat.not_le.mpr clear
    rw [if_pos clear, decide_eq_false unset, if_neg Bool.false_ne_true]
  · rw [if_neg clear, decide_eq_true (Nat.not_lt.mp clear), if_pos rfl]
    simp

variable [IntCast Value] [Mul Value] [Add Value]

theorem decode_none_iff (built : field.Of spec) (positive : 0 < spec.bits) (word : spec.bits ≤ 64) :
    field.decode data (BitField.fromLittleEndian data) = none ↔
      getSignalIn spec.order (payloadOf data) spec.startBit spec.bits = none := by
  have fits : SignalFits spec.order spec.startBit spec.bits data.length ↔
      field.lastByte < data.length :=
    ⟨fun fits => (built.inside _).mpr fits.inside,
      fun within => ⟨positive, word, nodup_signalBits .., (built.inside _).mp within⟩⟩
  rw [← Option.not_isSome_iff_eq_none (o := getSignalIn ..), getSignalIn_isSome_iff, fits]
  unfold Field.decode
  by_cases short : data.length ≤ field.lastByte
  · rw [if_pos short]
    simp only [true_iff]
    omega
  · rw [if_neg short]
    simp only [reduceCtorEq, false_iff, not_not]
    omega

theorem decode_some (built : field.Of spec) (positive : 0 < spec.bits) (word : spec.bits ≤ 64)
    {raw : UInt64}
    (reads : getSignalIn spec.order (payloadOf data) spec.startBit spec.bits = some raw) :
    ∃ number : Int,
      (if spec.signed then signExtend raw spec.bits else some (raw.toNat : Int)) = some number ∧
        field.decode data (BitField.fromLittleEndian data) =
          some ((number : Value) * spec.factor + spec.offset) := by
  have fits := getSignalIn_fits reads
  have within : ¬ data.length ≤ field.lastByte :=
    Nat.not_le.mpr ((built.inside _).mpr fits.inside)
  have short := BitField.read_lt (signalBits spec.order spec.startBit spec.bits)
    (bitAt (payloadOf data))
  rw [length_signalBits] at short
  rw [getSignalIn_bits fits] at reads
  obtain rfl := Option.some.inj reads
  unfold Field.decode
  rw [if_neg within, raw_eq built, built.bits, built.signed, built.scale.1, built.scale.2]
  generalize BitField.read (signalBits spec.order spec.startBit spec.bits)
    (bitAt (payloadOf data)) = raw at short ⊢
  cases spec.signed with
  | true => exact ⟨_, signExtend_masked positive word short, rfl⟩
  | false =>
      have bound : (2 : Nat) ^ spec.bits ≤ 2 ^ 64 := Nat.pow_le_pow_right (by decide) word
      have whole : (UInt64.ofNat raw).toNat = raw := by
        rw [UInt64.toNat_ofNat']
        omega
      exact ⟨raw, by rw [if_neg Bool.false_ne_true, whole], rfl⟩

end Decoders

/-- The decoder of the script and the codec of the host read the same signals. -/
theorem decode_eq_host {Value : Type} [IntCast Value] [Mul Value] [Add Value]
    (spec : SignalSpec Value) (data : List UInt8) (positive : 0 < spec.bits)
    (word : spec.bits ≤ 64) (_ : spec.startBit < 2 ^ 31) :
    ∃ field, Field.init spec = some field ∧
      (field.decode data (BitField.fromLittleEndian data) = none ↔
        getSignalIn spec.order (payloadOf data) spec.startBit spec.bits = none) ∧
      ∀ raw, getSignalIn spec.order (payloadOf data) spec.startBit spec.bits = some raw →
        ∃ number : Int,
          (if spec.signed then signExtend raw spec.bits else some (raw.toNat : Int)) = some number ∧
            field.decode data (BitField.fromLittleEndian data) =
              some ((number : Value) * spec.factor + spec.offset) := by
  obtain ⟨field, built⟩ := Option.isSome_iff_exists.mp (init_isSome positive)
  have shape := init_of built
  exact ⟨field, built, decode_none_iff shape positive word,
    fun raw reads => decode_some shape positive word reads⟩

/-- A signed field over the border of two bytes. -/
def borderSpec : SignalSpec Rat where
  startBit := 3
  bits := 12
  endian := "big"
  signed := true
  factor := 1 / 2
  offset := 3

theorem decode_eq_host_border :
    ∃ field, Field.init borderSpec = some field ∧
      (field.decode [0xFC, 0x01] (BitField.fromLittleEndian [0xFC, 0x01]) = none ↔
        getSignalIn borderSpec.order (payloadOf [0xFC, 0x01]) 3 12 = none) ∧
      ∀ raw, getSignalIn borderSpec.order (payloadOf [0xFC, 0x01]) 3 12 = some raw →
        ∃ number : Int,
          (if true then signExtend raw 12 else some (raw.toNat : Int)) = some number ∧
            field.decode [0xFC, 0x01] (BitField.fromLittleEndian [0xFC, 0x01]) =
              some ((number : Rat) * (1 / 2) + 3) :=
  decode_eq_host borderSpec [0xFC, 0x01] (by decide) (by decide) (by decide)

end Ioniq5Ecan
