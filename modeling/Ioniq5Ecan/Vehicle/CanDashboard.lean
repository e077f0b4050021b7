import Ioniq5Ecan.Vehicle.StateParser
import Ioniq5Ecan.Library.TableCrc

/-! # CanDashboardData

The display decoder of `can_dashboard_data.py`: `checksum_valid` and `feed`, on
the messages `publish_raw_can` makes.  Floats are exact rationals.
`feed_signals` says that it holds what a frame reports unless the frame is
extended. -/
set_option autoImplicit false
namespace Ioniq5Ecan

open Library

/-! ## The messages -/

/-- `publish_raw_can`, without its time stamp. -/
def BusFrame.rawCan (frame : BusFrame) : RawCanFrame where
  address := frame.address
  bus := frame.bus
  fd := frame.fd
  extended := frame.extended
  returned := frame.returned
  rejected := frame.rejected
  data := frame.data.toList.take frame.size.toNat

/-! ## The checksum -/

/-- The table of `binascii.crc_hqx`. -/
def crctabHqx (index : UInt8) : UInt16 :=
  .ofBitVec (Crc.shiftsOut 0x1021 8 (index.toUInt16 <<< 8).toBitVec)

def crcHqx (data : List UInt8) (crc : UInt16) : UInt16 :=
  data.foldl (fun crc byte => (crc <<< 8) ^^^ crctabHqx ((crc >>> 8).toUInt8 ^^^ byte)) crc

namespace CanDashboardData

def xorOut : Nat → Option UInt16
  | 8 => some 0x5F29
  | 16 => some 0x041D
  | 24 => some 0x819D
  | 32 => some 0x9F5B
  | _ => none

def checksumValid (address : UInt32) (data : List UInt8) : Bool :=
  match xorOut data.length with
  | none => false
  | some xorOut =>
      let suffix := [(address &&& 0xFF).toUInt8, ((address >>> 8) &&& 0xFF).toUInt8]
      let crc := crcHqx (data.drop 2 ++ suffix) 0 ^^^ xorOut
      BitField.fromLittleEndian (data.take 2) == crc.toNat

def sizes (address : UInt32) : Option Nat :=
  if address == 0x04A then some 32
  else if address == 0x0E5 then some 32
  else if address == 0x125 then some 16
  else if address == 0x0EA then some 24
  else if address == 0x0A0 then some 24
  else if address == 0x175 then some 24
  else if address == 0x035 then some 32
  else none

end CanDashboardData

/-! ## The values -/

/-- `values`: a value with its time for each name held. -/
structure DashboardValues where
  yawRateDegS : Option (Rat × Rat) := none
  lateralAccelMps2 : Option (Rat × Rat) := none
  longitudinalAccelMps2 : Option (Rat × Rat) := none
  steeringAngleDeg : Option (Rat × Rat) := none
  driverTorqueCounts : Option (Rat × Rat) := none
  epsTorqueNm : Option (Rat × Rat) := none
  epsFault : Option (Bool × Rat) := none
  wheelSpeedsKph : Option ((Rat × Rat × Rat × Rat) × Rat) := none
  speedKph : Option (Rat × Rat) := none
  brakePressed : Option (Bool × Rat) := none
  accFault : Option (Bool × Rat) := none
  acceleratorRaw : Option (Nat × Rat) := none
  gearRaw : Option (Nat × Rat) := none

def DashboardValues.update (values decoded : DashboardValues) : DashboardValues where
  yawRateDegS := decoded.yawRateDegS <|> values.yawRateDegS
  lateralAccelMps2 := decoded.lateralAccelMps2 <|> values.lateralAccelMps2
  longitudinalAccelMps2 := decoded.longitudinalAccelMps2 <|> values.longitudinalAccelMps2
  steeringAngleDeg := decoded.steeringAngleDeg <|> values.steeringAngleDeg
  driverTorqueCounts := decoded.driverTorqueCounts <|> values.driverTorqueCounts
  epsTorqueNm := decoded.epsTorqueNm <|> values.epsTorqueNm
  epsFault := decoded.epsFault <|> values.epsFault
  wheelSpeedsKph := decoded.wheelSpeedsKph <|> values.wheelSpeedsKph
  speedKph := decoded.speedKph <|> values.speedKph
  brakePressed := decoded.brakePressed <|> values.brakePressed
  accFault := decoded.accFault <|> values.accFault
  acceleratorRaw := decoded.acceleratorRaw <|> values.acceleratorRaw
  gearRaw := decoded.gearRaw <|> values.gearRaw

structure CanDashboardData where
  bus : UInt8 := 0
  times : List Rat := []
  ids : List (UInt32 × Bool) := []
  total : Nat := 0
  crcErrors : Nat := 0
  sizeErrors : Nat := 0
  qualityErrors : Nat := 0
  lastFrame : Option (UInt32 × Nat × List UInt8) := none
  values : DashboardValues := {}

namespace CanDashboardData

def bits (raw start length : Nat) : Nat := (raw >>> start) &&& ((1 <<< length) - 1)

/-- The values of a message of `SIZES`; `none` is a quality error. -/
def decode (address : UInt32) (raw : Nat) (now : Rat) : Option DashboardValues :=
  if address == 0x04A || address == 0x0E5 then
    if [24, 28, 32].any fun start => bits raw start 4 != 0 then none
    else some
      { yawRateDegS := some (bits raw 64 16 * 0.005 - 163.84, now)
        lateralAccelMps2 := some ((bits raw 80 16 * 0.000127465 - 4.17677312) * 9.80665, now)
        longitudinalAccelMps2 :=
          some ((bits raw 96 16 * 0.000127465 - 4.17677312) * 9.80665, now) }
  else if address == 0x125 then
    let angle := bits raw 24 16
    let signed : Int := if angle &&& 0x8000 != 0 then (angle : Int) - 65536 else angle
    some { steeringAngleDeg := some (signed * 0.1, now) }
  else if address == 0x0EA then
    some
      { driverTorqueCounts := some (bits raw 80 13 - 4095, now)
        epsTorqueNm := some (bits raw 64 12 * 0.1 - 204.8, now)
        epsFault := some (bits raw 54 2 != 0, now) }
  else if address == 0x0A0 then
    let wheel (start : Nat) : Rat := bits raw start 14 * 0.03125
    some
      { wheelSpeedsKph := some ((wheel 64, wheel 80, wheel 96, wheel 112), now)
        speedKph := some ((wheel 64 + wheel 80 + wheel 96 + wheel 112) / 4, now) }
  else if address == 0x175 then
    some
      { brakePressed := some (bits raw 81 1 != 0, now)
        accFault := some (bits raw 66 2 != 0, now) }
  else
    some
      { acceleratorRaw := some (bits raw 40 8, now)
        gearRaw := some (bits raw 192 3, now) }

/-- The counters of a frame of the bus. -/
def count (dashboard : CanDashboardData) (message : RawCanFrame) (now : Rat) :
    CanDashboardData :=
  let id := (message.address, message.extended)
  let kept := if dashboard.times.length < 20000 then dashboard.times else dashboard.times.tail
  { dashboard with
    total := dashboard.total + 1
    times := kept ++ [now]
    ids := if dashboard.ids.length < 4096 then dashboard.ids.insert id else dashboard.ids
    lastFrame := some (message.address, message.data.length, message.data.take 16) }

def feed (dashboard : CanDashboardData) (message : RawCanFrame) (now : Rat) : CanDashboardData :=
  if message.bus != dashboard.bus || message.returned || message.rejected then dashboard
  else
    let dashboard := dashboard.count message now
    if message.extended then dashboard
    else
      match sizes message.address with
      | none => dashboard
      | some size =>
          if message.data.length != size then
            { dashboard with sizeErrors := dashboard.sizeErrors + 1 }
          -- ESC_02_10ms has no checksum field.
          else if message.address != 0x0E5 && !checksumValid message.address message.data then
            { dashboard with crcErrors := dashboard.crcErrors + 1 }
          else
            match decode message.address (BitField.fromLittleEndian message.data) now with
            | none => { dashboard with qualityErrors := dashboard.qualityErrors + 1 }
            | some decoded => { dashboard with values := dashboard.values.update decoded }

end CanDashboardData

/-! ## The two checksums -/

section Checksum
variable {crc : UInt16} {byte : UInt8} {frame : CanFrame} {size : Nat}

/-- One round of the C++ loop shifts one bit out. -/
theorem crcRound_toBitVec :
    (if crc &&& 0x8000 != 0 then (crc <<< 1) ^^^ 0x1021 else crc <<< 1).toBitVec =
      Crc.shiftOut 0x1021 crc.toBitVec := by
  have top : (crc &&& 0x8000 != 0) = crc.toBitVec.msb := by
    have masked : (crc &&& 0x8000).toNat = crc.toNat &&& 2 ^ 15 := UInt16.toNat_and ..
    have high : crc.toBitVec.msb = crc.toNat.testBit 15 := BitVec.msb_eq_getLsbD_last _
    rw [high, Bool.eq_iff_iff, bne_iff_ne, ne_eq, ← UInt16.toNat_inj, masked, Nat.and_two_pow]
    cases crc.toNat.testBit 15 <;> simp
  unfold Crc.shiftOut
  rw [top]
  split
  · rfl
  · rfl

theorem crcRounds_toBitVec (count : Nat) :
    ∀ crc : UInt16, ((List.range count).foldl (fun (crc : UInt16) _ =>
        if crc &&& 0x8000 != 0 then (crc <<< 1) ^^^ 0x1021 else crc <<< 1) crc).toBitVec =
      Crc.shiftsOut 0x1021 count crc.toBitVec := by
  induction count with
  | zero => intro crc; rfl
  | succ count ih =>
      intro crc
      rw [List.range_succ_eq_map, List.foldl_cons, List.foldl_map, ih, crcRound_toBitVec]
      rfl

/-- `crc_step` is one table step of `crc_hqx`. -/
theorem crcStep_eq : crcStep crc byte = (crc <<< 8) ^^^ crctabHqx ((crc >>> 8).toUInt8 ^^^ byte) := by
  have top : ((crc ^^^ byte.toUInt16 <<< 8).toBitVec >>> (16 - 8)) <<< (16 - 8) =
      ((((crc >>> 8).toUInt8 ^^^ byte).toUInt16) <<< 8).toBitVec := by
    apply BitVec.eq_of_getLsbD_eq
    intro index inside
    by_cases low : index < 8
    · simp [low, inside]
    · have moved : 8 + (index - 8) = index := by omega
      have within : index - 8 < 8 := by omega
      have shift : ((8 : UInt16).toBitVec % 16).toNat = 8 := by decide
      simp only [Nat.reduceSub, BitVec.getLsbD_shiftLeft, BitVec.getLsbD_ushiftRight,
        UInt16.toBitVec_xor, UInt16.toBitVec_shiftLeft, UInt16.toBitVec_shiftRight,
        UInt8.toBitVec_toUInt16, UInt8.toBitVec_xor, UInt16.toBitVec_toUInt8, BitVec.getLsbD_xor,
        BitVec.getLsbD_setWidth, BitVec.shiftLeft_eq', BitVec.ushiftRight_eq', shift, moved, low,
        inside, within, decide_true, decide_false, Bool.not_false, Bool.true_and]
      have here : index - 8 < 16 := by omega
      simp only [here, decide_true, Bool.true_and]
  have rest : (crc ^^^ byte.toUInt16 <<< 8).toBitVec <<< 8 = (crc <<< 8).toBitVec := by
    apply BitVec.eq_of_getLsbD_eq
    intro index inside
    have above : (decide (index - 8 < 16) && !decide (index - 8 < 8) &&
        (decide (index - 8 - 8 < 16) && byte.toBitVec.getLsbD (index - 8 - 8))) = false := by
      have early : index - 8 < 8 := by omega
      simp [early]
    simp [above]
  apply UInt16.toBitVec_inj.mp
  unfold crcStep crctabHqx
  rw [crcRounds_toBitVec, Crc.shiftsOut_table 0x1021 8 _ (by decide), top, rest]
  rfl

theorem crcHqx_eq (data : List UInt8) : ∀ crc, crcHqx data crc = data.foldl crcStep crc := by
  induction data with
  | nil => intro crc; rfl
  | cons byte rest ih =>
      intro crc
      rw [List.foldl_cons, crcStep_eq]
      exact ih _

theorem received_toNat (low high : UInt8) :
    (low.toUInt16 ||| high.toUInt16 <<< 8).toNat = BitField.fromLittleEndian [low, high] := by
  have shifted : (high.toUInt16 <<< 8).toNat = 2 ^ 8 * high.toNat := by
    have bound := high.toNat_lt
    rw [UInt16.toNat_shiftLeft, UInt8.toNat_toUInt16, Nat.shiftLeft_eq]
    have place : (8 : UInt16).toNat % 16 = 8 := by decide
    rw [place, Nat.mul_comm]
    exact Nat.mod_eq_of_lt (by omega)
  rw [UInt16.toNat_or, UInt8.toNat_toUInt16, shifted, Nat.or_comm,
    ← Nat.two_pow_add_eq_or_of_lt low.toNat_lt]
  unfold BitField.fromLittleEndian BitField.fromLittleEndian BitField.fromLittleEndian
  omega

theorem getD_toList (data : Vector UInt8 64) (index : Nat) :
    data.toList.getD index 0 = data.getD index 0 := by
  simp [Vector.getD]

theorem take_two {α : Type} (list : List α) (default : α) (long : 2 ≤ list.length) :
    list.take 2 = [list.getD 0 default, list.getD 1 default] := by
  match list, long with
  | first :: second :: rest, _ => rfl

def CanFrame.checkedBytes (frame : CanFrame) : List UInt8 :=
  (frame.data.toList.take frame.size.toNat).drop 2 ++
    [(frame.address &&& 0xFF).toUInt8, ((frame.address >>> 8) &&& 0xFF).toUInt8]

def CanFrame.received (frame : CanFrame) : UInt16 :=
  (frame.data.getD 0 0).toUInt16 ||| ((frame.data.getD 1 0).toUInt16 <<< 8)

theorem xorOut_cases {xorOut : UInt16}
    (sized : CanDashboardData.xorOut frame.size.toNat = some xorOut) :
    frame.size = 8 ∧ xorOut = 0x5F29 ∨ frame.size = 16 ∧ xorOut = 0x041D ∨
      frame.size = 24 ∧ xorOut = 0x819D ∨ frame.size = 32 ∧ xorOut = 0x9F5B := by
  unfold CanDashboardData.xorOut at sized
  split at sized
  · next size => exact .inl ⟨UInt8.toNat_inj.mp size, (Option.some.inj sized).symm⟩
  · next size => exact .inr (.inl ⟨UInt8.toNat_inj.mp size, (Option.some.inj sized).symm⟩)
  · next size => exact .inr (.inr (.inl ⟨UInt8.toNat_inj.mp size, (Option.some.inj sized).symm⟩))
  · next size => exact .inr (.inr (.inr ⟨UInt8.toNat_inj.mp size, (Option.some.inj sized).symm⟩))
  · cases sized

theorem checksumValid_steps {xorOut : UInt16}
    (sized : CanDashboardData.xorOut frame.size.toNat = some xorOut) :
    frame.checksumValid =
      some (frame.received == frame.checkedBytes.foldl crcStep 0 ^^^ xorOut) := by
  have sizes := xorOut_cases sized
  have checksum : frame.checksum = some (frame.checkedBytes.foldl crcStep 0 ^^^ xorOut) := by
    unfold CanFrame.checkedBytes
    rw [List.foldl_append]
    unfold CanFrame.checksum
    rcases sizes with ⟨size, xor⟩ | ⟨size, xor⟩ | ⟨size, xor⟩ | ⟨size, xor⟩
    all_goals
      rw [size, xor]
      rfl
  have supported : (frame.size != 8 && frame.size != 16 && frame.size != 24 &&
      frame.size != 32) = false := by
    rcases sizes with ⟨size, _⟩ | ⟨size, _⟩ | ⟨size, _⟩ | ⟨size, _⟩
    all_goals
      rw [size]
      rfl
  unfold CanFrame.checksumValid
  rw [supported, checksum, if_neg Bool.false_ne_true]
  rfl

/-- On the payload of a frame both checksum tests agree. -/
theorem checksumValid_eq (frame : CanFrame) {xorOut : UInt16}
    (sized : CanDashboardData.xorOut frame.size.toNat = some xorOut) :
    CanDashboardData.checksumValid frame.address (frame.data.toList.take frame.size.toNat) =
      (frame.checksumValid == some true) := by
  have long : 8 ≤ frame.size.toNat ∧ frame.size.toNat ≤ 64 := by
    rcases xorOut_cases sized with ⟨size, _⟩ | ⟨size, _⟩ | ⟨size, _⟩ | ⟨size, _⟩
    all_goals
      rw [size]
      decide
  have length : (frame.data.toList.take frame.size.toNat).length = frame.size.toNat := by
    rw [List.length_take, Vector.length_toList]
    omega
  have received : BitField.fromLittleEndian ((frame.data.toList.take frame.size.toNat).take 2) =
      frame.received.toNat := by
    have within : min 2 frame.size.toNat = 2 := by omega
    rw [CanFrame.received, received_toNat, List.take_take, within, take_two _ 0 (by simp),
      getD_toList, getD_toList]
  rw [checksumValid_steps sized]
  unfold CanDashboardData.checksumValid
  rw [length, sized]
  dsimp only
  rw [received, crcHqx_eq, Bool.eq_iff_iff]
  simp only [beq_iff_eq, Option.some.injEq, UInt16.toNat_inj]
  rfl

end Checksum

/-! ## The two readings of a signal -/

section Readings
variable {frame : CanFrame} {size start length : Nat}

theorem testBit_payload (inside : start < size * 8) :
    (BitField.fromLittleEndian (frame.data.toList.take size)).testBit start =
      bitAt frame.data start := by
  have byte : start / 8 < size := by omega
  have same : (frame.data.toList.take size).getD (start / 8) 0 = frame.data.getD (start / 8) 0 := by
    rw [← getD_toList, List.getD_eq_getElem?_getD, List.getD_eq_getElem?_getD,
      List.getElem?_take_of_lt byte]
  rw [BitField.testBit_fromLittleEndian, same]
  unfold bitAt
  rw [← BitVec.testBit_toNat, UInt8.toNat_toBitVec]

theorem bits_eq_field (inside : start + length ≤ size * 8) :
    CanDashboardData.bits (BitField.fromLittleEndian (frame.data.toList.take size)) start length =
      frame.field start length := by
  unfold CanDashboardData.bits CanFrame.field
  rw [Nat.shiftRight_eq_div_pow, Nat.one_shiftLeft, Nat.and_two_pow_sub_one_eq_mod,
    ← BitField.read_number]
  refine BitField.read_congr fun bit member => testBit_payload ?_
  have bounds := List.mem_range'_1.mp member
  omega

/-- The sign of sixteen bits, by mask or by size. -/
theorem signed_eq (frame : CanFrame) (start : Nat) :
    (if frame.field start 16 &&& 0x8000 != 0 then (frame.field start 16 : Int) - 65536
      else frame.field start 16) = frame.signedField start := by
  have sign : (frame.field start 16 &&& 0x8000 != 0) = decide (2 ^ 15 ≤ frame.field start 16) :=
    BitField.and_sign (field_lt frame start 16)
  unfold CanFrame.signedField
  rw [sign]
  by_cases negative : 2 ^ 15 ≤ frame.field start 16
  · rw [if_pos (by simpa using negative), if_neg (by omega)]
    rfl
  · rw [if_neg (by simpa using negative), if_pos (by omega)]

end Readings

/-! ## What the dashboard holds -/

/-- The vehicle signals of the dashboard, in its units. -/
structure DashboardSignals where
  yawRateDegS : Option Rat := none
  lateralAccelMps2 : Option Rat := none
  longitudinalAccelMps2 : Option Rat := none
  steeringAngleDeg : Option Rat := none
  driverTorqueCounts : Option Rat := none
  epsTorqueNm : Option Rat := none
  epsFault : Option Bool := none
  wheelSpeedsKph : Option (Rat × Rat × Rat × Rat) := none
  speedKph : Option Rat := none
  brakePressed : Option Bool := none
  accFault : Option Bool := none
  acceleratorRaw : Option Nat := none
  gearRaw : Option Nat := none

def DashboardValues.signals (values : DashboardValues) : DashboardSignals where
  yawRateDegS := values.yawRateDegS.map Prod.fst
  lateralAccelMps2 := values.lateralAccelMps2.map Prod.fst
  longitudinalAccelMps2 := values.longitudinalAccelMps2.map Prod.fst
  steeringAngleDeg := values.steeringAngleDeg.map Prod.fst
  driverTorqueCounts := values.driverTorqueCounts.map Prod.fst
  epsTorqueNm := values.epsTorqueNm.map Prod.fst
  epsFault := values.epsFault.map Prod.fst
  wheelSpeedsKph := values.wheelSpeedsKph.map Prod.fst
  speedKph := values.speedKph.map Prod.fst
  brakePressed := values.brakePressed.map Prod.fst
  accFault := values.accFault.map Prod.fst
  acceleratorRaw := values.acceleratorRaw.map Prod.fst
  gearRaw := values.gearRaw.map Prod.fst

def DashboardSignals.hold (signals : DashboardSignals) : Measurement → DashboardSignals
  | .dynamics yawRate lateral longitudinal =>
      { signals with
        yawRateDegS := some yawRate
        lateralAccelMps2 := some lateral
        longitudinalAccelMps2 := some longitudinal }
  | .steering angle => { signals with steeringAngleDeg := some angle }
  | .mdps driverTorque epsTorque epsFault =>
      { signals with
        driverTorqueCounts := some driverTorque
        epsTorqueNm := some epsTorque
        epsFault := some epsFault }
  | .wheels first second third fourth =>
      { signals with
        wheelSpeedsKph := some (first, second, third, fourth)
        speedKph := some ((first + second + third + fourth) / 4) }
  | .tcs brakePressed accFault =>
      { signals with brakePressed := some brakePressed, accFault := some accFault }
  | .accelerator pedal gear =>
      { signals with acceleratorRaw := some pedal, gearRaw := some gear }

def DashboardSignals.holdAny (signals : DashboardSignals) : Option Measurement → DashboardSignals
  | some measurement => signals.hold measurement
  | none => signals

namespace CanDashboardData

section Feed
variable {dashboard : CanDashboardData} {frame : BusFrame} {now : Rat}

/-- What a payload adds to the values. -/
def Decodes (address : UInt32) (data : List UInt8) (now : Rat) (measured : Option Measurement) :
    Prop :=
  ∀ values : DashboardValues,
    (match decode address (BitField.fromLittleEndian data) now with
      | none => values
      | some decoded => values.update decoded).signals = values.signals.holdAny measured

theorem decodes_motion (frame : CanFrame) {address : UInt32}
    (motion : (address == 0x04A || address == 0x0E5) = true) :
    Decodes address (frame.data.toList.take 32) now frame.motion := by
  intro values
  have read (start length : Nat) (inside : start + length ≤ 32 * 8) :=
    @bits_eq_field frame 32 start length inside
  have quality : ([24, 28, 32].any fun start => frame.field start 4 != 0) = !frame.motionValid := by
    unfold CanFrame.motionValid
    simp only [List.any_cons, List.any_nil, Bool.or_false, bne, Bool.not_and, Bool.or_assoc]
  unfold decode CanFrame.motion
  simp only [motion, if_true, List.any_cons, List.any_nil, read 24 4 (by decide),
    read 28 4 (by decide), read 32 4 (by decide), read 64 16 (by decide), read 80 16 (by decide),
    read 96 16 (by decide)]
  simp only [List.any_cons, List.any_nil] at quality
  rw [quality]
  cases frame.motionValid with
  | true => rfl
  | false => rfl

theorem decodes_steering (frame : CanFrame) :
    Decodes 0x125 (frame.data.toList.take 16) now
      (some (.steering (frame.signedField 24 * 0.1))) := by
  intro values
  have angle := @bits_eq_field frame 16 24 16 (by decide)
  unfold decode
  simp only [angle, signed_eq]
  rfl

theorem decodes_mdps (frame : CanFrame) :
    Decodes 0x0EA (frame.data.toList.take 24) now
      (some (.mdps (frame.field 80 13 - 4095) (frame.field 64 12 * 0.1 - 204.8)
        (frame.field 54 2 != 0))) := by
  intro values
  have read (start length : Nat) (inside : start + length ≤ 24 * 8) :=
    @bits_eq_field frame 24 start length inside
  unfold decode
  simp only [read 80 13 (by decide), read 64 12 (by decide), read 54 2 (by decide)]
  rfl

theorem decodes_wheels (frame : CanFrame) :
    Decodes 0x0A0 (frame.data.toList.take 24) now
      (some (.wheels (frame.field 64 14 * 0.03125) (frame.field 80 14 * 0.03125)
        (frame.field 96 14 * 0.03125) (frame.field 112 14 * 0.03125))) := by
  intro values
  have read (start : Nat) (inside : start + 14 ≤ 24 * 8) :=
    @bits_eq_field frame 24 start 14 inside
  unfold decode
  simp only [read 64 (by decide), read 80 (by decide), read 96 (by decide), read 112 (by decide)]
  rfl

theorem decodes_tcs (frame : CanFrame) :
    Decodes 0x175 (frame.data.toList.take 24) now
      (some (.tcs (frame.field 81 1 != 0) (frame.field 66 2 != 0))) := by
  intro values
  have brake := @bits_eq_field frame 24 81 1 (by decide)
  have fault := @bits_eq_field frame 24 66 2 (by decide)
  unfold decode
  simp only [brake, fault]
  rfl

theorem decodes_accelerator (frame : CanFrame) :
    Decodes 0x035 (frame.data.toList.take 32) now
      (some (.accelerator (frame.field 40 8) (frame.field 192 3))) := by
  intro values
  have pedal := @bits_eq_field frame 32 40 8 (by decide)
  have gear := @bits_eq_field frame 32 192 3 (by decide)
  unfold decode
  simp only [pedal, gear]
  rfl

theorem count_bus (message : RawCanFrame) : (dashboard.count message now).bus = dashboard.bus := by
  unfold count
  rfl

theorem count_values (message : RawCanFrame) :
    (dashboard.count message now).values = dashboard.values := by
  unfold count
  rfl

theorem feed_bus (message : RawCanFrame) : (dashboard.feed message now).bus = dashboard.bus := by
  have counted := @count_bus dashboard now message
  unfold feed
  generalize dashboard.count message now = after at counted ⊢
  split
  · rfl
  dsimp only
  split
  · exact counted
  split
  · exact counted
  split
  · exact counted
  split
  · exact counted
  split
  · exact counted
  · exact counted

theorem feed_sized {size : UInt8} {hasCrc : Bool} {measured : Option Measurement}
    (heard : (frame.bus != dashboard.bus || frame.returned || frame.rejected) = false)
    (standard : frame.extended = false) (sized : sizes frame.address = some size.toNat)
    (supported : ∃ xor, xorOut size.toNat = some xor)
    (crc : (frame.address != 0x0E5) = hasCrc)
    (decodes : Decodes frame.address (frame.data.toList.take size.toNat) now measured) :
    (dashboard.feed frame.rawCan now).values.signals =
      dashboard.values.signals.holdAny
        (if frame.wellFormed size hasCrc then measured else none) := by
  obtain ⟨xor, supported⟩ := supported
  have short : size.toNat ≤ 32 := by
    unfold xorOut at supported
    split at supported
    · omega
    · omega
    · omega
    · omega
    · cases supported
  have length : (frame.rawCan.data.length != size.toNat) = (frame.size != size) := by
    have taken : frame.rawCan.data.length = min frame.size.toNat 64 := by
      unfold BusFrame.rawCan
      rw [List.length_take, Vector.length_toList]
    rw [taken, Bool.eq_iff_iff, bne_iff_ne, bne_iff_ne, ne_eq, ne_eq, not_iff_not,
      ← UInt8.toNat_inj]
    omega
  have test : frame.size = size → checksumValid frame.address frame.rawCan.data =
      (frame.checksumValid == some true) := by
    intro same
    have own : xorOut frame.size.toNat = some xor := by rw [same, supported]
    exact checksumValid_eq frame.toCanFrame own
  have counted := @count_values dashboard now frame.rawCan
  have here : (frame.rawCan.bus != dashboard.bus || frame.rawCan.returned ||
      frame.rawCan.rejected) = false := heard
  have base : frame.rawCan.extended = false := standard
  have own : sizes frame.rawCan.address = some size.toNat := sized
  unfold feed CanFrame.wellFormed
  generalize dashboard.count frame.rawCan now = after at counted ⊢
  rw [here, base, own, ← counted]
  simp only [Bool.false_eq_true, if_false, length]
  by_cases same : frame.size = size
  · have payload : frame.rawCan.data = frame.data.toList.take size.toNat := by
      rw [← same]
      rfl
    have values := decodes after.values
    rw [← payload] at values
    have tested : (frame.rawCan.address != 0x0E5 &&
        !checksumValid frame.rawCan.address frame.rawCan.data) =
          !(!hasCrc || frame.checksumValid == some true) := by
      rw [← test same, ← crc, Bool.not_or, Bool.not_not]
      rfl
    rw [tested]
    simp only [same, bne_self_eq_false, Bool.false_eq_true, if_false, beq_self_eq_true,
      Bool.true_and]
    cases (!hasCrc || frame.checksumValid == some true) with
    | false => rfl
    | true =>
        simp only [Bool.not_true, Bool.false_eq_true, if_false, if_true]
        rw [← values]
        change DashboardValues.signals (CanDashboardData.values
          (match decode frame.address (BitField.fromLittleEndian frame.rawCan.data) now with
            | none => { after with qualityErrors := after.qualityErrors + 1 }
            | some decoded => { after with values := after.values.update decoded })) = _
        cases decode frame.address (BitField.fromLittleEndian frame.rawCan.data) now with
        | none => rfl
        | some decoded => rfl
  · rw [if_pos (by simp [same]), if_neg (by simp [same])]
    rfl

end Feed

end CanDashboardData

/-! ## What a message adds -/

theorem BusFrame.reported_of_heard {frame : BusFrame} {bus : UInt8}
    (heard : (frame.bus != bus || frame.returned || frame.rejected) = false) :
    frame.reported bus = frame.measurement := by
  unfold BusFrame.reported
  rw [Bool.or_comm frame.rejected, Bool.or_comm, ← Bool.or_assoc, heard, if_neg Bool.false_ne_true]

namespace CanDashboardData

section Reports
variable {dashboard : CanDashboardData} {frame : BusFrame} {now : Rat}

theorem feed_ignored (heard : (frame.bus != dashboard.bus || frame.returned || frame.rejected) = false)
    (ignored : frame.extended = true ∨ sizes frame.address = none) :
    dashboard.feed frame.rawCan now = dashboard.count frame.rawCan now := by
  have here : (frame.rawCan.bus != dashboard.bus || frame.rawCan.returned ||
      frame.rawCan.rejected) = false := heard
  unfold feed
  rw [here, if_neg Bool.false_ne_true]
  dsimp only
  rcases ignored with extended | unknown
  · have flagged : frame.rawCan.extended = true := extended
    rw [flagged, if_pos rfl]
  · have unsized : sizes frame.rawCan.address = none := unknown
    rw [unsized]
    exact ite_self _

theorem feed_heard (heard : (frame.bus != dashboard.bus || frame.returned || frame.rejected) = false)
    (standard : frame.extended = false) :
    (dashboard.feed frame.rawCan now).values.signals =
      dashboard.values.signals.holdAny frame.measurement := by
  have sized {size : UInt8} {hasCrc : Bool} {measured : Option Measurement} :=
    @feed_sized dashboard frame now size hasCrc measured heard standard
  unfold CanFrame.measurement
  by_cases imu : (frame.address == 0x04A) = true
  · rw [if_pos imu]
    rw [beq_iff_eq.mp imu] at sized
    exact @sized 32 true _ rfl ⟨_, rfl⟩ rfl (decodes_motion frame.toCanFrame rfl)
  rw [if_neg imu]
  by_cases esc : (frame.address == 0x0E5) = true
  · rw [if_pos esc]
    rw [beq_iff_eq.mp esc] at sized
    exact @sized 32 false _ rfl ⟨_, rfl⟩ rfl (decodes_motion frame.toCanFrame rfl)
  rw [if_neg esc]
  by_cases steering : (frame.address == 0x125) = true
  · rw [if_pos steering]
    rw [beq_iff_eq.mp steering] at sized
    exact @sized 16 true _ rfl ⟨_, rfl⟩ rfl (decodes_steering frame.toCanFrame)
  rw [if_neg steering]
  by_cases mdps : (frame.address == 0x0EA) = true
  · rw [if_pos mdps]
    rw [beq_iff_eq.mp mdps] at sized
    exact @sized 24 true _ rfl ⟨_, rfl⟩ rfl (decodes_mdps frame.toCanFrame)
  rw [if_neg mdps]
  by_cases wheels : (frame.address == 0x0A0) = true
  · rw [if_pos wheels]
    rw [beq_iff_eq.mp wheels] at sized
    exact @sized 24 true _ rfl ⟨_, rfl⟩ rfl (decodes_wheels frame.toCanFrame)
  rw [if_neg wheels]
  by_cases tcs : (frame.address == 0x175) = true
  · rw [if_pos tcs]
    rw [beq_iff_eq.mp tcs] at sized
    exact @sized 24 true _ rfl ⟨_, rfl⟩ rfl (decodes_tcs frame.toCanFrame)
  rw [if_neg tcs]
  by_cases accelerator : (frame.address == 0x035) = true
  · rw [if_pos accelerator]
    rw [beq_iff_eq.mp accelerator] at sized
    exact @sized 32 true _ rfl ⟨_, rfl⟩ rfl (decodes_accelerator frame.toCanFrame)
  rw [if_neg accelerator]
  have unknown : sizes frame.address = none := by
    unfold sizes
    rw [if_neg imu, if_neg esc, if_neg steering, if_neg mdps, if_neg wheels, if_neg tcs,
      if_neg accelerator]
  rw [feed_ignored heard (.inr unknown), count_values]
  rfl

/-- A message adds what its frame reports, unless the frame is extended. -/
theorem feed_signals (dashboard : CanDashboardData) (frame : BusFrame) (now : Rat) :
    (dashboard.feed frame.rawCan now).values.signals =
      dashboard.values.signals.holdAny
        (if frame.extended then none else frame.reported dashboard.bus) := by
  cases heard : (frame.bus != dashboard.bus || frame.returned || frame.rejected) with
  | true =>
      have silent : frame.reported dashboard.bus = none := by
        unfold BusFrame.reported
        rw [Bool.or_comm frame.rejected, Bool.or_comm, ← Bool.or_assoc, heard, if_pos rfl]
      have same : dashboard.feed frame.rawCan now = dashboard := if_pos heard
      rw [same, silent, ite_self]
      rfl
  | false =>
      cases extended : frame.extended with
      | false =>
          rw [if_neg Bool.false_ne_true, BusFrame.reported_of_heard heard]
          exact feed_heard heard extended
      | true =>
          rw [feed_ignored heard (.inl extended), count_values, if_pos rfl]
          rfl

end Reports

end CanDashboardData

end Ioniq5Ecan
