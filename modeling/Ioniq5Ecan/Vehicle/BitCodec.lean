import Ioniq5Ecan.Vehicle.StateParser

/-! # The laws of the bit codec

`bit_codec.hpp`, on every frame size and every layout.  Counted from the most
significant bit of each byte, a Motorola walk takes neighbouring bits, so both
orders name an interval of the frame.  A position is a natural number here and
`unsigned` or `int` in the source: the two agree for every frame of `size` bytes
with `8 * size + 64 < 2 ^ 31`. -/
set_option autoImplicit false
namespace Ioniq5Ecan

open Library

/-! ## The Motorola numbering -/

/-- The number of a bit where each byte counts from its most significant bit. -/
def mirrored (bit : Nat) : Nat := bit / 8 * 8 + (7 - bit % 8)

@[simp]
theorem mirrored_mirrored (bit : Nat) : mirrored (mirrored bit) = bit := by
  unfold mirrored
  omega

theorem mirrored_lt {bit size : Nat} : mirrored bit < size * 8 ↔ bit < size * 8 := by
  unfold mirrored
  omega

theorem mirrored_nextDbcBit (dbcBit : Nat) :
    mirrored (nextDbcBit dbcBit) = mirrored dbcBit + 1 := by
  unfold mirrored nextDbcBit
  split <;> omega

theorem mirrored_injective : Function.Injective mirrored := by
  intro first second same
  rw [← mirrored_mirrored first, same, mirrored_mirrored]

theorem motorolaBits_eq (count : Nat) :
    ∀ dbcBit, motorolaBits count dbcBit = (List.range' (mirrored dbcBit) count).map mirrored := by
  induction count with
  | zero => intro dbcBit; rfl
  | succ count ih =>
      intro dbcBit
      rw [motorolaBits, ih, mirrored_nextDbcBit, List.range'_succ, List.map_cons, mirrored_mirrored]

theorem nodup_signalBits (order : ByteOrder) (startBit bitLength : Nat) :
    (signalBits order startBit bitLength).Nodup := by
  cases order with
  | littleEndian => exact List.nodup_range'
  | bigEndian =>
      rw [signalBits, List.nodup_reverse, motorolaBits_eq]
      exact List.Nodup.map mirrored_injective List.nodup_range'

/-! ## What fits -/

section Fits
variable {size startBit bitLength : Nat} {order : ByteOrder} {raw : UInt64}
  {data written : Vector UInt8 size}

/-- Where a signal starts in the numbering of its order. -/
def firstPlace (order : ByteOrder) (startBit : Nat) : Nat :=
  match order with
  | .littleEndian => startBit
  | .bigEndian => mirrored startBit

theorem signalBits_inside (positive : 0 < bitLength) :
    (∀ bit ∈ signalBits order startBit bitLength, bit < size * 8) ↔
      firstPlace order startBit + bitLength ≤ size * 8 := by
  constructor
  · intro inside
    cases order with
    | littleEndian =>
        have last := inside (startBit + (bitLength - 1)) (by simp [signalBits]; omega)
        simp only [firstPlace]
        omega
    | bigEndian =>
        have last := inside (mirrored (mirrored startBit + (bitLength - 1)))
          (by simp [signalBits, motorolaBits_eq, mirrored_injective.eq_iff]; omega)
        rw [mirrored_lt] at last
        simp only [firstPlace]
        omega
  · intro within bit member
    cases order with
    | littleEndian =>
        rw [signalBits, List.mem_range'_1] at member
        simp only [firstPlace] at within
        omega
    | bigEndian =>
        rw [signalBits, List.mem_reverse, motorolaBits_eq, List.mem_map] at member
        obtain ⟨place, member, rfl⟩ := member
        rw [List.mem_range'_1] at member
        rw [mirrored_lt]
        simp only [firstPlace] at within
        omega

theorem signalFits_iff :
    SignalFits order startBit bitLength size ↔
      0 < bitLength ∧ bitLength ≤ 64 ∧ firstPlace order startBit + bitLength ≤ size * 8 := by
  constructor
  · intro fits
    exact ⟨fits.positive, fits.word, (signalBits_inside fits.positive).mp fits.inside⟩
  · rintro ⟨positive, word, within⟩
    exact ⟨positive, word, nodup_signalBits .., (signalBits_inside positive).mpr within⟩

/-- A Motorola loop that throws past the frame, and returns, has walked inside it. -/
theorem walk_inside {State Result : Type} {walk : Nat → Nat → State → Option Result}
    (throws : ∀ count dbcBit state, size * 8 ≤ dbcBit → walk (count + 1) dbcBit state = none)
    (steps : ∀ count dbcBit state, ¬ size * 8 ≤ dbcBit →
      ∃ next, walk (count + 1) dbcBit state = walk count (nextDbcBit dbcBit) next) (count : Nat) :
    ∀ (dbcBit : Nat) (state : State) (result : Result), walk count dbcBit state = some result →
      ∀ bit ∈ motorolaBits count dbcBit, bit < size * 8 := by
  induction count with
  | zero => intro dbcBit state result _ bit member; cases member
  | succ count ih =>
      intro dbcBit state result returns bit member
      by_cases outside : size * 8 ≤ dbcBit
      · rw [throws count dbcBit state outside] at returns
        cases returns
      · obtain ⟨next, walks⟩ := steps count dbcBit state outside
        rw [walks] at returns
        rcases List.mem_cons.mp member with rfl | later
        · omega
        · exact ih _ next result returns bit later

theorem setMotorola_inside {count dbcBit : Nat}
    (wrote : setMotorola raw count dbcBit data = some written) :
    ∀ bit ∈ motorolaBits count dbcBit, bit < size * 8 :=
  walk_inside (fun _ _ _ outside => if_pos outside)
    (fun _ _ _ inside => ⟨_, if_neg inside⟩) count dbcBit data written wrote

theorem getMotorola_inside {count dbcBit : Nat} {loaded : UInt64}
    (reads : getMotorola data count dbcBit raw = some loaded) :
    ∀ bit ∈ motorolaBits count dbcBit, bit < size * 8 :=
  walk_inside (fun _ _ _ outside => if_pos outside)
    (fun _ _ _ inside => ⟨_, if_neg inside⟩) count dbcBit raw loaded reads

theorem bounds_of_length (length : ¬ (bitLength == 0 || decide (64 < bitLength)) = true) :
    0 < bitLength ∧ bitLength ≤ 64 := by
  simp at length
  omega

theorem setSignal_fits (wrote : setSignal data startBit bitLength raw order = some written) :
    SignalFits order startBit bitLength size := by
  unfold setSignal at wrote
  by_cases length : (bitLength == 0 || decide (64 < bitLength)) = true
  · rw [if_pos length] at wrote
    cases wrote
  · rw [if_neg length] at wrote
    have bounds := bounds_of_length length
    cases order with
    | littleEndian =>
        simp only at wrote
        by_cases outside : size * 8 < startBit + bitLength
        · rw [if_pos outside] at wrote
          cases wrote
        · exact signalFits_iff.mpr ⟨bounds.1, bounds.2, by simp only [firstPlace]; omega⟩
    | bigEndian =>
        refine ⟨bounds.1, bounds.2, nodup_signalBits .., fun bit member => ?_⟩
        exact setMotorola_inside wrote bit (List.mem_reverse.mp member)

theorem getSignalIn_fits {loaded : UInt64}
    (reads : getSignalIn order data startBit bitLength = some loaded) :
    SignalFits order startBit bitLength size := by
  cases order with
  | littleEndian =>
      unfold getSignalIn getSignal at reads
      simp only at reads
      by_cases length : (bitLength == 0 || decide (64 < bitLength)) = true
      · rw [if_pos length] at reads
        cases reads
      · rw [if_neg length] at reads
        by_cases outside : size * 8 < startBit + bitLength
        · rw [if_pos outside] at reads
          cases reads
        · have bounds := bounds_of_length length
          exact signalFits_iff.mpr ⟨bounds.1, bounds.2, by simp only [firstPlace]; omega⟩
  | bigEndian =>
      unfold getSignalIn at reads
      simp only at reads
      by_cases length : (bitLength == 0 || decide (64 < bitLength)) = true
      · rw [if_pos length] at reads
        cases reads
      · rw [if_neg length] at reads
        have bounds := bounds_of_length length
        refine ⟨bounds.1, bounds.2, nodup_signalBits .., fun bit member => ?_⟩
        exact getMotorola_inside reads bit (List.mem_reverse.mp member)

theorem setSignal_isSome_iff :
    (setSignal data startBit bitLength raw order).isSome ↔
      SignalFits order startBit bitLength size := by
  constructor
  · intro wrote
    obtain ⟨written, wrote⟩ := Option.isSome_iff_exists.mp wrote
    exact setSignal_fits wrote
  · intro fits
    obtain ⟨written, wrote, _⟩ := @setSignal_bits size data startBit bitLength raw order fits
    rw [wrote]
    rfl

theorem getSignalIn_isSome_iff :
    (getSignalIn order data startBit bitLength).isSome ↔
      SignalFits order startBit bitLength size := by
  constructor
  · intro reads
    obtain ⟨loaded, reads⟩ := Option.isSome_iff_exists.mp reads
    exact getSignalIn_fits reads
  · intro fits
    rw [getSignalIn_bits fits]
    rfl

theorem setSignal_some (wrote : setSignal data startBit bitLength raw order = some written) :
    bitAt written =
      BitField.write (signalBits order startBit bitLength) raw.toNat (bitAt data) := by
  obtain ⟨result, result_eq, bits⟩ :=
    @setSignal_bits size data startBit bitLength raw order (setSignal_fits wrote)
  rw [wrote] at result_eq
  obtain rfl := Option.some.inj result_eq
  exact bits

end Fits

/-! ## The laws -/

section Laws
variable {size startBit bitLength otherStart otherLength : Nat} {order otherOrder : ByteOrder}
  {raw otherRaw : UInt64} {data written : Vector UInt8 size}

/-- A payload is the bits it holds. -/
theorem bitAt_injective : Function.Injective (@bitAt size) := by
  intro first second same
  apply Vector.ext
  intro index inside
  apply UInt8.toBitVec_inj.mp
  apply BitVec.eq_of_getLsbD_eq
  intro place low
  have bit := congrFun same (index * 8 + place)
  have byte : (index * 8 + place) / 8 = index := by omega
  have rest : (index * 8 + place) % 8 = place := by omega
  simpa [bitAt, byte, rest, Vector.getD, inside] using bit

theorem getSignalIn_setSignal
    (wrote : setSignal data startBit bitLength raw order = some written) :
    getSignalIn order written startBit bitLength =
      some (.ofNat (raw.toNat % 2 ^ bitLength)) := by
  have fits := setSignal_fits wrote
  rw [getSignalIn_bits fits, setSignal_some wrote, BitField.read_write _ fits.distinct,
    length_signalBits]

theorem setSignal_outside
    (wrote : setSignal data startBit bitLength raw order = some written) {bit : Nat}
    (outside : bit ∉ signalBits order startBit bitLength) :
    bitAt written bit = bitAt data bit := by
  rw [setSignal_some wrote]
  exact BitField.write_outside _ outside _ _

theorem setSignal_comm
    (apart : List.Disjoint (signalBits order startBit bitLength)
      (signalBits otherOrder otherStart otherLength)) :
    ((setSignal data startBit bitLength raw order).bind fun data =>
        setSignal data otherStart otherLength otherRaw otherOrder) =
      (setSignal data otherStart otherLength otherRaw otherOrder).bind fun data =>
        setSignal data startBit bitLength raw order := by
  by_cases fits : SignalFits order startBit bitLength size
  · by_cases otherFits : SignalFits otherOrder otherStart otherLength size
    · obtain ⟨first, wroteFirst, firstBits⟩ := @setSignal_bits size data _ _ raw _ fits
      obtain ⟨second, wroteSecond, secondBits⟩ := @setSignal_bits size data _ _ otherRaw _ otherFits
      obtain ⟨both, wroteBoth, bothBits⟩ := @setSignal_bits size first _ _ otherRaw _ otherFits
      obtain ⟨swapped, wroteSwapped, swappedBits⟩ := @setSignal_bits size second _ _ raw _ fits
      rw [wroteFirst, wroteSecond, Option.bind_some, Option.bind_some, wroteBoth, wroteSwapped]
      congr 1
      apply bitAt_injective
      rw [bothBits, firstBits, swappedBits, secondBits]
      exact BitField.write_comm _ _ apart _ _ _
    · have refused (data : Vector UInt8 size) :
          setSignal data otherStart otherLength otherRaw otherOrder = none :=
        Option.not_isSome_iff_eq_none.mp (mt setSignal_isSome_iff.mp otherFits)
      simp only [refused, Option.bind_none, Option.bind_fun_none]
  · have refused (data : Vector UInt8 size) : setSignal data startBit bitLength raw order = none :=
      Option.not_isSome_iff_eq_none.mp (mt setSignal_isSome_iff.mp fits)
    simp only [refused, Option.bind_none, Option.bind_fun_none]

theorem signExtend_lowBits (number : Int) (positive : 0 < bitLength) (word : bitLength ≤ 64)
    (above : -2 ^ (bitLength - 1) ≤ number) (below : number < 2 ^ (bitLength - 1)) :
    signExtend (.ofNat (number % 2 ^ bitLength).toNat) bitLength = some number := by
  obtain ⟨place, rfl⟩ := Nat.exists_eq_add_of_le' positive
  rw [Nat.add_sub_cancel] at above below
  have wide : (2 : Int) ^ (place + 1) = 2 * 2 ^ place := by rw [Int.pow_succ, Int.mul_comm]
  have bound : ((2 ^ (place + 1) : Nat) : Int) = 2 * 2 ^ place := by
    rw [Int.natCast_pow, ← wide]
    rfl
  have short (low : Int) (below : low < 2 * 2 ^ place) (clear : 0 ≤ low) :
      low.toNat < 2 ^ (place + 1) := by
    rw [← bound] at below
    exact (Int.toNat_lt clear).mpr below
  by_cases negative : number < 0
  · have low : number % 2 ^ (place + 1) = number + 2 * 2 ^ place := by
      rw [wide, ← Int.add_emod_right]
      exact Int.emod_eq_of_lt (by omega) (by omega)
    rw [low, signExtend_low positive word (short _ (by omega) (by omega)), Nat.add_sub_cancel,
      if_neg (by omega), wide]
    congr 1
    omega
  · have low : number % 2 ^ (place + 1) = number := by
      rw [wide]
      exact Int.emod_eq_of_lt (by omega) (by omega)
    rw [low, signExtend_low positive word (short _ (by omega) (by omega)), Nat.add_sub_cancel,
      if_pos (by omega)]
    congr 1
    omega

end Laws

/-- The laws of frames whose positions the `unsigned` and `int` of the source hold. -/
theorem codec_laws :
    (∀ {size : Nat} (data written : Vector UInt8 size) (startBit bitLength : Nat) (raw : UInt64)
        (order : ByteOrder), startBit < size * 8 →
        setSignal data startBit bitLength raw order = some written →
        getSignalIn order written startBit bitLength =
            some (.ofNat (raw.toNat % 2 ^ bitLength)) ∧
          ∀ bit, bit ∉ signalBits order startBit bitLength →
            bitAt written bit = bitAt data bit) ∧
      (∀ {size : Nat} (data : Vector UInt8 size) (startBit bitLength : Nat) (raw : UInt64)
        (order : ByteOrder), startBit < size * 8 →
        ((setSignal data startBit bitLength raw order).isSome ↔
          (getSignalIn order data startBit bitLength).isSome)) ∧
      (∀ {size : Nat} (data : Vector UInt8 size) (startBit bitLength otherStart otherLength : Nat)
        (raw otherRaw : UInt64) (order otherOrder : ByteOrder),
        startBit < size * 8 → otherStart < size * 8 →
        List.Disjoint (signalBits order startBit bitLength)
          (signalBits otherOrder otherStart otherLength) →
        ((setSignal data startBit bitLength raw order).bind fun data =>
            setSignal data otherStart otherLength otherRaw otherOrder) =
          (setSignal data otherStart otherLength otherRaw otherOrder).bind fun data =>
            setSignal data startBit bitLength raw order) ∧
      (∀ (bitLength : Nat) (number : Int), 0 < bitLength → bitLength ≤ 64 →
        -2 ^ (bitLength - 1) ≤ number → number < 2 ^ (bitLength - 1) →
        signExtend (.ofNat (number % 2 ^ bitLength).toNat) bitLength = some number) := by
  refine ⟨?_, ?_, ?_, ?_⟩
  · intro size data written startBit bitLength raw order _ wrote
    exact ⟨getSignalIn_setSignal wrote, fun bit outside => setSignal_outside wrote outside⟩
  · intro size data startBit bitLength raw order _
    rw [setSignal_isSome_iff, getSignalIn_isSome_iff]
  · intro size data startBit bitLength otherStart otherLength raw otherRaw order otherOrder _ _ apart
    exact setSignal_comm apart
  · intro bitLength number positive word above below
    exact signExtend_lowBits number positive word above below

/-- Nine Motorola bits across a byte border, an Intel signal next to them, and the number -3. -/
theorem straddling_signal_laws :
    (getSignalIn .bigEndian (#v[0x5A, 26, 80, 0xFF] : Vector UInt8 4) 12 9 =
        some (.ofNat ((0x1A5 : UInt64).toNat % 2 ^ 9)) ∧
      bitAt (#v[0x5A, 26, 80, 0xFF] : Vector UInt8 4) 24 =
        bitAt (#v[0x5A, 0, 0, 0xFF] : Vector UInt8 4) 24) ∧
      (setSignal (#v[0x5A, 0, 0, 0xFF] : Vector UInt8 4) 12 9 0x1A5 .bigEndian).isSome ∧
      ((setSignal (#v[0x5A, 0, 0, 0xFF] : Vector UInt8 4) 12 9 0x1A5 .bigEndian).bind fun data =>
          setSignal data 3 5 7 .littleEndian) =
        ((setSignal (#v[0x5A, 0, 0, 0xFF] : Vector UInt8 4) 3 5 7 .littleEndian).bind fun data =>
          setSignal data 12 9 0x1A5 .bigEndian) ∧
      signExtend (.ofNat ((-3 : Int) % 2 ^ 5).toNat) 5 = some (-3) := by
  obtain ⟨roundTrip, returns, commute, signed⟩ := codec_laws
  have written : setSignal (#v[0x5A, 0, 0, 0xFF] : Vector UInt8 4) 12 9 0x1A5 .bigEndian =
      some #v[0x5A, 26, 80, 0xFF] := by decide
  have trip := roundTrip _ _ 12 9 0x1A5 .bigEndian (by decide) written
  refine ⟨⟨trip.1, trip.2 24 (by decide)⟩, ?_, ?_, ?_⟩
  · refine (returns _ 12 9 0x1A5 .bigEndian (by decide)).mpr ?_
    decide
  · have apart : List.Disjoint (signalBits .bigEndian 12 9) (signalBits .littleEndian 3 5) :=
      List.disjoint_left.mpr (by decide)
    exact commute _ 12 9 3 5 0x1A5 7 .bigEndian .littleEndian (by decide) (by decide) apart
  · exact signed 5 (-3) (by decide) (by decide) (by decide) (by decide)

/-! ## What an exception leaves -/

inductive SignalError
  | invalidLength
  | exceedsFrame
  | motorolaExceedsFrame
  deriving DecidableEq

def SignalError.what : SignalError → String
  | .invalidLength => "invalid CAN signal length"
  | .exceedsFrame => "CAN signal exceeds frame"
  | .motorolaExceedsFrame => "Motorola CAN signal exceeds frame"

/-- The Motorola loop of `set_signal` on the array of the caller, who sees what
it wrote before an exception. -/
def storeMotorola {size : Nat} (raw : UInt64) :
    Nat → Nat → Vector UInt8 size → Vector UInt8 size × Option SignalError
  | 0, _, data => (data, none)
  | source + 1, dbcBit, data =>
      if size * 8 ≤ dbcBit then (data, some .motorolaExceedsFrame)
      else storeMotorola raw source (nextDbcBit dbcBit) (setBit data dbcBit (rawBit raw source))

/-- `set_signal` with the array it leaves, by a return or by an exception. -/
def storeSignal {size : Nat} (data : Vector UInt8 size) (startBit bitLength : Nat) (raw : UInt64)
    (order : ByteOrder) : Vector UInt8 size × Option SignalError :=
  if bitLength == 0 || decide (64 < bitLength) then (data, some .invalidLength)
  else
    match order with
    | .littleEndian =>
        if size * 8 < startBit + bitLength then (data, some .exceedsFrame)
        else ((List.range bitLength).foldl
          (fun data index => setBit data (startBit + index) (rawBit raw index)) data, none)
    | .bigEndian => storeMotorola raw bitLength startBit data

/-- The array after a call that returns. -/
def returned {size : Nat} :
    Vector UInt8 size × Option SignalError → Option (Vector UInt8 size)
  | (data, none) => some data
  | (_, some _) => none

section Stores
variable {size startBit bitLength : Nat} {order : ByteOrder} {raw : UInt64}
  {data : Vector UInt8 size}

theorem returned_storeMotorola (count : Nat) :
    ∀ (dbcBit : Nat) (data : Vector UInt8 size),
      returned (storeMotorola raw count dbcBit data) = setMotorola raw count dbcBit data := by
  induction count with
  | zero => intro dbcBit data; rfl
  | succ count ih =>
      intro dbcBit data
      rw [storeMotorola, setMotorola]
      by_cases outside : size * 8 ≤ dbcBit
      · rw [if_pos outside, if_pos outside]
        rfl
      · rw [if_neg outside, if_neg outside]
        exact ih _ _

theorem returned_storeSignal :
    returned (storeSignal data startBit bitLength raw order) =
      setSignal data startBit bitLength raw order := by
  unfold storeSignal setSignal
  by_cases length : (bitLength == 0 || decide (64 < bitLength)) = true
  · rw [if_pos length, if_pos length]
    rfl
  · rw [if_neg length, if_neg length]
    cases order with
    | littleEndian =>
        by_cases outside : size * 8 < startBit + bitLength
        · simp only [if_pos outside]
          rfl
        · simp only [if_neg outside]
          rfl
    | bigEndian => exact returned_storeMotorola _ _ _

theorem bitAt_storeMotorola (count : Nat) (word : count ≤ 64) :
    ∀ (dbcBit : Nat) (data : Vector UInt8 size) (bit : Nat),
      bitAt (storeMotorola raw count dbcBit data).1 bit =
        if mirrored dbcBit ≤ mirrored bit ∧ mirrored bit < mirrored dbcBit + count ∧
            bit < size * 8 then
          raw.toNat.testBit (count - 1 - (mirrored bit - mirrored dbcBit))
        else bitAt data bit := by
  induction count with
  | zero =>
      intro dbcBit data bit
      rw [if_neg (by omega)]
      rfl
  | succ count ih =>
      intro dbcBit data bit
      rw [storeMotorola]
      by_cases outside : size * 8 ≤ dbcBit
      · -- The walk is past the frame, and so is every later bit of it.
        have past : ¬ mirrored dbcBit < size * 8 := fun inside =>
          Nat.not_lt.mpr outside (mirrored_lt.mp inside)
        have apart : ¬ (mirrored dbcBit ≤ mirrored bit ∧
            mirrored bit < mirrored dbcBit + (count + 1) ∧ bit < size * 8) := by
          rintro ⟨later, _, inside⟩
          have := mirrored_lt.mpr inside
          omega
        rw [if_pos outside, if_neg apart]
      · rw [if_neg outside, ih (by omega), mirrored_nextDbcBit, bitAt_setBit _ (by omega)]
        by_cases here : bit = dbcBit
        · subst here
          rw [if_neg (by omega), if_pos ⟨Nat.le_refl _, by omega, by omega⟩, Function.update_self,
            rawBit_eq raw count (by omega)]
          congr 1
          omega
        · have differs : mirrored bit ≠ mirrored dbcBit := fun same =>
            here (mirrored_injective same)
          rw [Function.update_of_ne here]
          by_cases later : mirrored dbcBit + 1 ≤ mirrored bit ∧
              mirrored bit < mirrored dbcBit + 1 + count ∧ bit < size * 8
          · rw [if_pos later, if_pos (by omega)]
            congr 1
            omega
          · rw [if_neg later, if_neg (by omega)]

/-- Every bit of the walk before the end of the frame holds what it is to hold. -/
def HeldInFrame {size : Nat} (data : Vector UInt8 size) (startBit bitLength : Nat) (raw : UInt64) :
    Prop :=
  ∀ index < bitLength, mirrored startBit + index < size * 8 →
    bitAt data (mirrored (mirrored startBit + index)) =
      raw.toNat.testBit (bitLength - 1 - index)

instance (startBit bitLength : Nat) (raw : UInt64) (data : Vector UInt8 size) :
    Decidable (HeldInFrame data startBit bitLength raw) :=
  inferInstanceAs (Decidable (∀ index < bitLength, _ → _))

theorem storeMotorola_unchanged_iff (word : bitLength ≤ 64) :
    (storeMotorola raw bitLength startBit data).1 = data ↔
      HeldInFrame data startBit bitLength raw := by
  constructor
  · intro unchanged index within inside
    have written := @bitAt_storeMotorola size raw bitLength word startBit data
      (mirrored (mirrored startBit + index))
    have walked : mirrored (mirrored startBit + index) < size * 8 := mirrored_lt.mpr inside
    rw [unchanged, mirrored_mirrored, if_pos ⟨by omega, by omega, walked⟩] at written
    rw [written]
    congr 1
    omega
  · intro held
    apply bitAt_injective
    funext bit
    rw [bitAt_storeMotorola bitLength word]
    by_cases walked : mirrored startBit ≤ mirrored bit ∧
        mirrored bit < mirrored startBit + bitLength ∧ bit < size * 8
    · obtain ⟨later, before, inside⟩ := walked
      rw [if_pos ⟨later, before, inside⟩]
      have place : mirrored startBit + (mirrored bit - mirrored startBit) = mirrored bit := by omega
      have same := held (mirrored bit - mirrored startBit) (by omega)
        (by rw [place]; exact mirrored_lt.mpr inside)
      rw [place, mirrored_mirrored] at same
      rw [same]
    · rw [if_neg walked]

theorem storeSignal_throws_iff :
    (storeSignal data startBit bitLength raw order).2.isSome ↔
      ¬ SignalFits order startBit bitLength size := by
  rw [← @setSignal_isSome_iff size startBit bitLength order raw data, ← returned_storeSignal]
  cases storeSignal data startBit bitLength raw order with
  | mk left error => cases error <;> simp [returned]

theorem storeSignal_unchanged_badLength (length : bitLength = 0 ∨ 64 < bitLength) :
    (storeSignal data startBit bitLength raw order).1 = data := by
  unfold storeSignal
  rw [if_pos (by simpa using length)]

theorem storeSignal_unchanged_littleEndian
    (throws : (storeSignal data startBit bitLength raw .littleEndian).2.isSome) :
    (storeSignal data startBit bitLength raw .littleEndian).1 = data := by
  unfold storeSignal at throws ⊢
  by_cases length : (bitLength == 0 || decide (64 < bitLength)) = true
  · rw [if_pos length]
  · rw [if_neg length] at throws ⊢
    by_cases outside : size * 8 < startBit + bitLength
    · simp only [if_pos outside]
    · simp only [if_neg outside, Option.isSome_none, Bool.false_eq_true] at throws

theorem storeSignal_bigEndian (positive : 0 < bitLength) (word : bitLength ≤ 64) :
    storeSignal data startBit bitLength raw .bigEndian =
      storeMotorola raw bitLength startBit data := by
  unfold storeSignal
  rw [if_neg (by simp; omega)]

end Stores

/-- A call that throws has written nothing, but for a Motorola signal past the end. -/
theorem storeSignal_all_or_nothing_iff {size : Nat} (data : Vector UInt8 size)
    (startBit bitLength : Nat) (raw : UInt64) (order : ByteOrder) (_ : startBit < size * 8) :
    ((storeSignal data startBit bitLength raw order).2.isSome →
        (storeSignal data startBit bitLength raw order).1 = data) ↔
      bitLength = 0 ∨ 64 < bitLength ∨ order = .littleEndian ∨
        mirrored startBit + bitLength ≤ size * 8 ∨ HeldInFrame data startBit bitLength raw := by
  by_cases badLength : bitLength = 0 ∨ 64 < bitLength
  · constructor
    · intro _
      rcases badLength with none | long
      · exact .inl none
      · exact .inr (.inl long)
    · intro _ _
      exact storeSignal_unchanged_badLength badLength
  · have positive : 0 < bitLength := by omega
    have word : bitLength ≤ 64 := by omega
    cases order with
    | littleEndian =>
        constructor
        · intro _
          exact .inr (.inr (.inl rfl))
        · intro _ throws
          exact storeSignal_unchanged_littleEndian throws
    | bigEndian =>
        rw [storeSignal_throws_iff, signalFits_iff, storeSignal_bigEndian positive word,
          storeMotorola_unchanged_iff word]
        constructor
        · intro kept
          by_cases within : mirrored startBit + bitLength ≤ size * 8
          · exact .inr (.inr (.inr (.inl within)))
          · exact .inr (.inr (.inr (.inr (kept fun fits => within fits.2.2))))
        · rintro (none | long | little | within | held) exceeds
          · omega
          · omega
          · cases little
          · exact absurd ⟨positive, word, within⟩ exceeds
          · exact held

/-- The last bit of the last byte and one more: the first of the two is written. -/
theorem storeSignal_torn :
    ¬ ∀ {size : Nat} (data : Vector UInt8 size) (startBit bitLength : Nat) (raw : UInt64)
        (order : ByteOrder), startBit < size * 8 →
        (storeSignal data startBit bitLength raw order).2.isSome →
          (storeSignal data startBit bitLength raw order).1 = data := by
  intro kept
  have same := kept (.replicate 8 0 : Vector UInt8 8) 56 2 2 .bigEndian (by decide)
    (by decide +kernel)
  have torn : storeSignal (.replicate 8 0 : Vector UInt8 8) 56 2 2 .bigEndian =
      (#v[0, 0, 0, 0, 0, 0, 0, 1], some .motorolaExceedsFrame) := by decide +kernel
  rw [torn] at same
  exact absurd same (by decide)

theorem storeSignal_all_or_nothing_at_end :
    ((storeSignal (.replicate 8 0 : Vector UInt8 8) 56 2 1 .bigEndian).2.isSome →
        (storeSignal (.replicate 8 0 : Vector UInt8 8) 56 2 1 .bigEndian).1 = .replicate 8 0) ↔
      (2 = 0 ∨ 64 < 2 ∨ ByteOrder.bigEndian = .littleEndian ∨ mirrored 56 + 2 ≤ 8 * 8 ∨
        HeldInFrame (.replicate 8 0 : Vector UInt8 8) 56 2 1) :=
  storeSignal_all_or_nothing_iff _ 56 2 1 .bigEndian (by decide)

end Ioniq5Ecan
