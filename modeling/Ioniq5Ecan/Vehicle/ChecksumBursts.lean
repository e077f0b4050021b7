import Ioniq5Ecan.Library.CrcBursts
import Ioniq5Ecan.Vehicle.BitCodec
import Ioniq5Ecan.Vehicle.CanDashboard

/-! # What the checksum detects

`HyundaiCanFdCodec::checksum` feeds the payload behind the checksum and the low
half of the address into one remainder.  The polynomial loses nothing, so a
change within sixteen bits of that message moves the checksum. -/
set_option autoImplicit false
namespace Ioniq5Ecan

open Library

/-! ## The message under the checksum -/

namespace CanFrame

/-- The bits fed into the remainder: from the third byte on, most significant
bit first, and the two low bytes of the address. -/
def messageBit (frame : CanFrame) (place : Nat) : Bool :=
  if place < frame.size.toNat * 8 then bitAt frame.data (mirrored place)
  else frame.address.toNat.testBit (mirrored (place - frame.size.toNat * 8))

end CanFrame

section Steps
variable {message : Nat → Bool}

theorem getMsbD_byte (byte : UInt8) (index : Nat) (inside : index < 16) :
    (byte.toUInt16 <<< 8).toBitVec.getMsbD index =
      (decide (index < 8) && byte.toNat.testBit (7 - index)) := by
  have shift : ((8 : UInt16).toBitVec % 16).toNat = 8 := by decide
  rw [UInt16.toBitVec_shiftLeft, UInt8.toBitVec_toUInt16, BitVec.shiftLeft_eq', shift,
    BitVec.getMsbD_shiftLeft, BitVec.getMsbD]
  by_cases low : index < 8
  · have place : 16 - 1 - (index + 8) = 7 - index := by omega
    rw [decide_eq_true low, decide_eq_true (by omega), place, BitVec.getLsbD_setWidth,
      decide_eq_true (by omega), Bool.true_and, ← UInt8.toNat_toBitVec, BitVec.testBit_toNat]
  · have past : ¬ index + 8 < 16 := by omega
    rw [decide_eq_false low, decide_eq_false past, Bool.false_and, Bool.false_and]

theorem crcStep_feed (place : Nat) (crc : UInt16) (byte : UInt8)
    (holds : ∀ index < 8, message (place + index) = byte.toNat.testBit (7 - index)) :
    (crcStep crc byte).toBitVec = Crc.feed 0x1021 message 8 place crc.toBitVec := by
  unfold crcStep
  rw [crcRounds_toBitVec, UInt16.toBitVec_xor]
  symm
  apply Crc.feed_eq_shiftsOut 8 place _ _ (by decide)
  intro index inside
  rw [getMsbD_byte byte index inside]
  by_cases low : index < 8
  · rw [holds index low]
  · simp [low]

theorem crcSteps_feed (bytes : List UInt8) :
    ∀ (place : Nat) (crc : UInt16),
      (∀ index < bytes.length * 8,
        message (place + index) = (bytes.getD (index / 8) 0).toNat.testBit (7 - index % 8)) →
        (bytes.foldl crcStep crc).toBitVec =
          Crc.feed 0x1021 message (bytes.length * 8) place crc.toBitVec := by
  induction bytes with
  | nil => intro place crc _; rfl
  | cons byte rest ih =>
      intro place crc holds
      have first := crcStep_feed place crc byte fun index within => by
        have bit := holds index (by rw [List.length_cons]; omega)
        have here : index / 8 = 0 := by omega
        have low : index % 8 = index := by omega
        rwa [here, low] at bit
      have later := ih (place + 8) (crcStep crc byte) fun index within => by
        have bit := holds (index + 8) (by rw [List.length_cons]; omega)
        have next : (index + 8) / 8 = index / 8 + 1 := by omega
        have low : (index + 8) % 8 = index % 8 := by omega
        rw [next, low, List.getD_cons_succ] at bit
        rw [← bit]
        congr 1
        omega
      have size : (byte :: rest).length * 8 = 8 + rest.length * 8 := by
        rw [List.length_cons]
        omega
      rw [List.foldl_cons, later, first, size, Crc.feed_add]

end Steps

section Frames
variable {frame : CanFrame} {xorOut : UInt16}

theorem size_cases (sized : CanDashboardData.xorOut frame.size.toNat = some xorOut) :
    8 ≤ frame.size.toNat ∧ frame.size.toNat ≤ 32 := by
  rcases xorOut_cases sized with ⟨size, _⟩ | ⟨size, _⟩ | ⟨size, _⟩ | ⟨size, _⟩
  all_goals
    rw [size]
    decide

theorem length_checkedBytes (sized : CanDashboardData.xorOut frame.size.toNat = some xorOut) :
    frame.checkedBytes.length = frame.size.toNat := by
  have bounds := size_cases sized
  rw [CanFrame.checkedBytes, List.length_append, List.length_drop, List.length_take,
    Vector.length_toList]
  simp only [List.length_cons, List.length_nil]
  omega

theorem lowAddress_toNat (address : UInt32) :
    ((address &&& 0xFF).toUInt8).toNat = address.toNat % 2 ^ 8 := by
  rw [UInt32.toNat_toUInt8, UInt32.toNat_and]
  show (address.toNat &&& (2 ^ 8 - 1)) % 2 ^ 8 = _
  rw [Nat.and_two_pow_sub_one_eq_mod, Nat.mod_mod]

theorem highAddress_toNat (address : UInt32) :
    (((address >>> 8) &&& 0xFF).toUInt8).toNat = address.toNat / 2 ^ 8 % 2 ^ 8 := by
  rw [lowAddress_toNat, UInt32.toNat_shiftRight, Nat.shiftRight_eq_div_pow]
  rfl

theorem testBit_addressBytes (address : UInt32) (index : Nat) (inside : index < 16) :
    (([(address &&& 0xFF).toUInt8, ((address >>> 8) &&& 0xFF).toUInt8] :
      List UInt8).getD (index / 8) 0).toNat.testBit (7 - index % 8) =
      address.toNat.testBit (mirrored index) := by
  by_cases low : index < 8
  · have first : index / 8 = 0 := by omega
    have place : mirrored index = 7 - index % 8 := by
      unfold mirrored
      omega
    rw [first, List.getD_cons_zero, lowAddress_toNat, Nat.testBit_mod_two_pow,
      decide_eq_true (by omega), Bool.true_and, place]
  · have second : index / 8 = 1 := by omega
    have place : mirrored index = 7 - index % 8 + 8 := by
      unfold mirrored
      omega
    rw [second, List.getD_cons_succ, List.getD_cons_zero, highAddress_toNat,
      Nat.testBit_mod_two_pow, decide_eq_true (by omega), Bool.true_and, Nat.testBit_div_two_pow,
      place]

theorem testBit_dataByte (frame : CanFrame) (place : Nat) :
    (frame.data.getD (place / 8) 0).toNat.testBit (7 - place % 8) =
      bitAt frame.data (mirrored place) := by
  have byte : mirrored place / 8 = place / 8 := by
    unfold mirrored
    omega
  have low : mirrored place % 8 = 7 - place % 8 := by
    unfold mirrored
    omega
  rw [bitAt, byte, low, ← BitVec.testBit_toNat, UInt8.toNat_toBitVec]

theorem checkedBytes_bit (sized : CanDashboardData.xorOut frame.size.toNat = some xorOut)
    (index : Nat) (inside : index < frame.size.toNat * 8) :
    frame.messageBit (16 + index) =
      (frame.checkedBytes.getD (index / 8) 0).toNat.testBit (7 - index % 8) := by
  have bounds := size_cases sized
  have payload : ((frame.data.toList.take frame.size.toNat).drop 2).length =
      frame.size.toNat - 2 := by
    rw [List.length_drop, List.length_take, Vector.length_toList]
    omega
  unfold CanFrame.messageBit CanFrame.checkedBytes
  by_cases inPayload : 16 + index < frame.size.toNat * 8
  · have byte : (16 + index) / 8 = 2 + index / 8 := by omega
    have low : (16 + index) % 8 = index % 8 := by omega
    have taken : ((frame.data.toList.take frame.size.toNat).drop 2).getD (index / 8) 0 =
        frame.data.getD (2 + index / 8) 0 := by
      rw [← getD_toList, List.getD_eq_getElem?_getD, List.getD_eq_getElem?_getD,
        List.getElem?_drop, List.getElem?_take_of_lt (by omega)]
    rw [if_pos inPayload, ← testBit_dataByte, byte, low, List.getD_append _ _ _ _ (by omega), taken]
  · have byte : index / 8 - (frame.size.toNat - 2) = (16 + index - frame.size.toNat * 8) / 8 := by
      omega
    have low : index % 8 = (16 + index - frame.size.toNat * 8) % 8 := by omega
    rw [if_neg inPayload, List.getD_append_right _ _ _ _ (by omega), payload, byte, low,
      testBit_addressBytes _ _ (by omega)]

/-- The checksum as the remainder of the message bits. -/
theorem checkedBytes_feed (sized : CanDashboardData.xorOut frame.size.toNat = some xorOut) :
    (frame.checkedBytes.foldl crcStep 0).toBitVec =
      Crc.feed 0x1021 frame.messageBit (frame.size.toNat * 8) 16 0 := by
  have length := length_checkedBytes sized
  have steps := @crcSteps_feed frame.messageBit frame.checkedBytes 16 0 fun index within => by
    rw [length] at within
    exact checkedBytes_bit sized index within
  rw [length] at steps
  exact steps

/-- A frame whose checksum bytes stand is refused as soon as its message moves
within sixteen bits. -/
theorem moved_refused {changed : CanFrame} {low : Nat}
    (sized : CanDashboardData.xorOut frame.size.toNat = some xorOut)
    (valid : frame.checksumValid = some true) (size : changed.size = frame.size)
    (received : changed.received = frame.received)
    (differ : ∃ place, 16 ≤ place ∧ place < 16 + frame.size.toNat * 8 ∧
      changed.messageBit place ≠ frame.messageBit place)
    (window : ∀ place, 16 ≤ place → place < 16 + frame.size.toNat * 8 →
      changed.messageBit place ≠ frame.messageBit place → low ≤ place ∧ place < low + 16) :
    changed.checksumValid = some false := by
  have constant : (0x1021 : BitVec 16).getLsbD 0 = true := by decide
  have moved := Crc.feed_burst constant 0 differ window
  have sizedChanged : CanDashboardData.xorOut changed.size.toNat = some xorOut := by
    rw [size]
    exact sized
  have changedFeed := checkedBytes_feed sizedChanged
  rw [size] at changedFeed
  rw [← changedFeed, ← checkedBytes_feed sized] at moved
  rw [checksumValid_steps sized] at valid
  rw [checksumValid_steps sizedChanged, received, beq_iff_eq.mp (Option.some.inj valid)]
  congr 1
  refine beq_eq_false_iff_ne.mpr fun same => moved ?_
  rw [UInt16.xor_left_inj] at same
  rw [same]

theorem valid_sized (valid : frame.checksumValid = some true) :
    ∃ xorOut, CanDashboardData.xorOut frame.size.toNat = some xorOut := by
  unfold CanFrame.checksumValid at valid
  by_cases other : (frame.size != 8 && frame.size != 16 && frame.size != 24 &&
      frame.size != 32) = true
  · rw [if_pos other] at valid
    cases valid
  · simp only [Bool.and_eq_true, bne_iff_ne, ne_eq, not_and_or, not_not] at other
    rcases other with ((size | size) | size) | size
    all_goals
      rw [size]
      exact ⟨_, rfl⟩

/-! ## Changes -/

variable {data : Vector UInt8 64}

theorem byte_congr {index : Nat}
    (same : ∀ place, index * 8 ≤ place → place < index * 8 + 8 →
      bitAt data (mirrored place) = bitAt frame.data (mirrored place)) :
    data.getD index 0 = frame.data.getD index 0 := by
  apply UInt8.toNat_inj.mp
  rw [← read_byte, ← read_byte]
  refine BitField.read_congr fun bit member => ?_
  have bounds := List.mem_range'_1.mp member
  rw [← mirrored_mirrored bit]
  exact same (mirrored bit) (by unfold mirrored; omega) (by unfold mirrored; omega)

theorem received_inj {changed : CanFrame} (same : changed.received = frame.received) :
    changed.data.getD 0 0 = frame.data.getD 0 0 ∧ changed.data.getD 1 0 = frame.data.getD 1 0 := by
  have numbers := congrArg UInt16.toNat same
  rw [CanFrame.received, CanFrame.received, received_toNat, received_toNat] at numbers
  simp only [BitField.fromLittleEndian] at numbers
  have low := (frame.data.getD 0 0).toNat_lt
  have changedLow := (changed.data.getD 0 0).toNat_lt
  constructor
  · apply UInt8.toNat_inj.mp
    omega
  · apply UInt8.toNat_inj.mp
    omega

theorem burst_refused {low : Nat} (valid : frame.checksumValid = some true)
    (differ : ∃ place, bitAt data (mirrored place) ≠ bitAt frame.data (mirrored place))
    (window : ∀ place, bitAt data (mirrored place) ≠ bitAt frame.data (mirrored place) →
      16 ≤ place ∧ place < frame.size.toNat * 8 ∧ low ≤ place ∧ place < low + 16) :
    ({ frame with data := data } : CanFrame).checksumValid = some false := by
  obtain ⟨xorOut, sized⟩ := valid_sized valid
  have untouched (index : Nat) (checksum : index < 2) :
      data.getD index 0 = frame.data.getD index 0 := by
    refine byte_congr fun place above below => Decidable.not_not.mp fun changed => ?_
    have := (window place changed).1
    omega
  refine @moved_refused frame xorOut _ low sized valid rfl ?_ ?_ ?_
  · unfold CanFrame.received
    rw [untouched 0 (by decide), untouched 1 (by decide)]
  · obtain ⟨place, changed⟩ := differ
    obtain ⟨above, below, _⟩ := window place changed
    refine ⟨place, above, by omega, ?_⟩
    unfold CanFrame.messageBit
    rwa [if_pos below, if_pos below]
  · intro place above _ changed
    unfold CanFrame.messageBit at changed
    by_cases below : place < frame.size.toNat * 8
    · rw [if_pos below, if_pos below] at changed
      exact (window place changed).2.2
    · rw [if_neg below, if_neg below] at changed
      exact absurd rfl changed

theorem rewritten_refused (valid : frame.checksumValid = some true) (changed : data ≠ frame.data)
    (same : ∀ index, 2 ≤ index → data.getD index 0 = frame.data.getD index 0) :
    ({ frame with data := data } : CanFrame).checksumValid = some false := by
  obtain ⟨xorOut, sized⟩ := valid_sized valid
  have steps : (({ frame with data := data } : CanFrame).checkedBytes.foldl crcStep 0) =
      frame.checkedBytes.foldl crcStep 0 := by
    apply UInt16.toBitVec_inj.mp
    rw [checkedBytes_feed sized, @checkedBytes_feed { frame with data := data } xorOut sized]
    refine Crc.feed_congr _ _ _ fun index _ => ?_
    unfold CanFrame.messageBit
    have byte : data.getD ((16 + index) / 8) 0 = frame.data.getD ((16 + index) / 8) 0 :=
      same _ (by omega)
    have bit := testBit_dataByte { frame with data := data } (16 + index)
    rw [byte, testBit_dataByte] at bit
    rw [bit]
  rw [checksumValid_steps sized] at valid
  rw [@checksumValid_steps { frame with data := data } xorOut sized, steps,
    ← beq_iff_eq.mp (Option.some.inj valid)]
  congr 1
  refine beq_eq_false_iff_ne.mpr fun received => changed ?_
  obtain ⟨first, second⟩ := received_inj received
  apply bitAt_injective
  funext bit
  unfold bitAt
  by_cases checksum : bit / 8 < 2
  · have : bit / 8 = 0 ∨ bit / 8 = 1 := by omega
    rcases this with byte | byte
    · rw [byte, first]
    · rw [byte, second]
  · rw [same _ (by omega)]

theorem readdressed_refused {address : UInt32} (valid : frame.checksumValid = some true)
    (other : address.toNat % 2 ^ 16 ≠ frame.address.toNat % 2 ^ 16) :
    ({ frame with address := address } : CanFrame).checksumValid = some false := by
  obtain ⟨xorOut, sized⟩ := valid_sized valid
  have bounds := size_cases sized
  refine @moved_refused frame xorOut _ (frame.size.toNat * 8) sized valid rfl rfl ?_ ?_
  · have differs : ∃ bit < 16, address.toNat.testBit bit ≠ frame.address.toNat.testBit bit := by
      refine Classical.byContradiction fun equal => other ?_
      apply Nat.eq_of_testBit_eq
      intro bit
      rw [Nat.testBit_mod_two_pow, Nat.testBit_mod_two_pow]
      by_cases low : bit < 16
      · rw [Decidable.not_not.mp fun differs => equal ⟨bit, low, differs⟩]
      · rw [decide_eq_false low, Bool.false_and, Bool.false_and]
    obtain ⟨bit, low, differs⟩ := differs
    have place : mirrored bit < 2 * 8 := mirrored_lt.mpr low
    have behind : ¬ frame.size.toNat * 8 + mirrored bit < frame.size.toNat * 8 := by omega
    refine ⟨frame.size.toNat * 8 + mirrored bit, by omega, by omega, ?_⟩
    unfold CanFrame.messageBit
    rw [if_neg behind, if_neg behind, Nat.add_sub_cancel_left, mirrored_mirrored]
    exact differs
  · intro place _ early changed
    unfold CanFrame.messageBit at changed
    by_cases below : place < frame.size.toNat * 8
    · rw [if_pos below, if_pos below] at changed
      exact absurd rfl changed
    · omega

end Frames

/-- What a valid checksum excludes: a burst, other checksum bytes, another address. -/
theorem checksum_detects (frame : CanFrame) (valid : frame.checksumValid = some true) :
    (∀ (data : Vector UInt8 64) (low : Nat),
        (∃ place, bitAt data (mirrored place) ≠ bitAt frame.data (mirrored place)) →
        (∀ place, bitAt data (mirrored place) ≠ bitAt frame.data (mirrored place) →
          16 ≤ place ∧ place < frame.size.toNat * 8 ∧ low ≤ place ∧ place < low + 16) →
        ({ frame with data := data } : CanFrame).checksumValid = some false) ∧
      (∀ data : Vector UInt8 64, data ≠ frame.data →
        (∀ index, 2 ≤ index → data.getD index 0 = frame.data.getD index 0) →
        ({ frame with data := data } : CanFrame).checksumValid = some false) ∧
      ∀ address : UInt32, address.toNat % 2 ^ 16 ≠ frame.address.toNat % 2 ^ 16 →
        ({ frame with address := address } : CanFrame).checksumValid = some false :=
  ⟨fun _ _ differ window => burst_refused valid differ window,
    fun _ changed same => rewritten_refused valid changed same,
    fun _ other => readdressed_refused valid other⟩

/-- The lane keeping frame of the codec's tests. -/
def goldenLfa : CanFrame where
  address := 0x12A
  bus := 0
  size := 16
  data := (#v[0xBE, 0xBF, 0x00, 0x02, 0x80, 0xC8, 0x18, 0x00, 0x00, 0x00, 0x00, 0x00, 0x00, 0x64,
    0x00, 0x00] : Vector UInt8 16) ++ (.replicate 48 0 : Vector UInt8 48)
  receivedAt := 0

theorem goldenLfa_detects :
    goldenLfa.checksumValid = some true ∧
      ({ goldenLfa with address := 0x12B } : CanFrame).checksumValid = some false := by
  have valid : goldenLfa.checksumValid = some true := by decide +kernel
  exact ⟨valid, (checksum_detects goldenLfa valid).2.2 0x12B (by decide)⟩

end Ioniq5Ecan
