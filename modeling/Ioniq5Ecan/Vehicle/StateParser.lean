import Ioniq5Ecan.Vehicle.Signals
import Ioniq5Ecan.Panda.PacketStream
import Mathlib.Algebra.Order.Ring.Rat
import Mathlib.Tactic.Ring

/-! # VehicleStateParser

`update` on every message, with the `parse_` functions of the vehicle messages.
Doubles are exact rationals.  `measurement` says what a frame tells of the
vehicle, in fields of its bits; `update_parsed` that an update holds just
that. -/
set_option autoImplicit false
namespace Ioniq5Ecan

open Library

def kphToMps : Rat := 1 / 3.6
def standardGravityMps2 : Rat := 9.80665

/-- `sign_extend`; `none` is an exception. -/
def signExtend (value : UInt64) (bitLength : Nat) : Option Int :=
  if bitLength == 0 || decide (64 < bitLength) then none
  else if bitLength == 64 then some value.toInt64.toInt
  else
    let sign : UInt64 := 1 <<< UInt64.ofNat (bitLength - 1)
    some ((value ^^^ sign) - sign).toInt64.toInt

/-- The parser with what all messages read and write. -/
structure StateParser extends FrameParser where
  havePreviousAngle : Bool := false
  previousAngleDeg : Rat := 0
  previousAngleTime : TimePoint := 0

namespace StateParser

/-! ## The messages -/

def parseDynamics (parser : StateParser) (frame : CanFrame) : Option StateParser := do
  let data := frame.payloadAs 32
  let first ← getSignalIn .littleEndian data 24 4
  let second ← getSignalIn .littleEndian data 28 4
  let third ← getSignalIn .littleEndian data 32 4
  if first == 0 && second == 0 && third == 0 then
    let yawRaw ← getSignalIn .littleEndian data 64 16
    let lateralRaw ← getSignalIn .littleEndian data 80 16
    let longitudinalRaw ← getSignalIn .littleEndian data 96 16
    some { parser with
      state := { parser.state with
        yawRateDegS := .finite (yawRaw.toNat * 0.005 - 163.84)
        lateralAccelMps2 :=
          .finite ((lateralRaw.toNat * 0.000127465 - 4.17677312) * standardGravityMps2)
        longitudinalAccelMps2 :=
          .finite ((longitudinalRaw.toNat * 0.000127465 - 4.17677312) * standardGravityMps2) } }
  else some parser

/-- The sign of the steering rate, from the angle before. -/
def signedRate (parser : StateParser) (angleDeg reportedRate : Rat) (receivedAt : TimePoint) :
    Rat :=
  if parser.havePreviousAngle && decide (parser.previousAngleTime < receivedAt) then
    let dt : Rat := (receivedAt - parser.previousAngleTime : Int) / 1000000000
    let finiteDifference := (angleDeg - parser.previousAngleDeg) / dt
    if 0.2 < finiteDifference then reportedRate
    else if finiteDifference < -0.2 then -reportedRate
    else 0
  else 0

def parseSteering (parser : StateParser) (frame : CanFrame) : Option StateParser := do
  let data := frame.payloadAs 16
  let angle ← getSignalIn .littleEndian data 24 16
  let angleRaw ← signExtend angle 16
  let rate ← getSignalIn .littleEndian data 40 8
  let angleDeg : Rat := angleRaw * 0.1
  let reportedRate : Rat := rate.toNat * 4
  some { parser with
    state := { parser.state with
      steeringAngleDeg := .finite angleDeg
      steeringRateDegS := .finite (parser.signedRate angleDeg reportedRate frame.receivedAt)
      updatedAt := frame.receivedAt }
    steeringTime := frame.receivedAt
    previousAngleDeg := angleDeg
    previousAngleTime := frame.receivedAt
    havePreviousAngle := true }

def parseMdps (parser : StateParser) (frame : CanFrame) : Option StateParser := do
  let data := frame.payloadAs 24
  let driverTorque ← getSignalIn .littleEndian data 80 13
  let epsTorque ← getSignalIn .littleEndian data 64 12
  let epsFault ← getSignalIn .littleEndian data 54 2
  some { parser with
    state := { parser.state with
      driverTorque := .finite (driverTorque.toNat - 4095)
      epsTorqueNm := .finite (epsTorque.toNat * 0.1 - 204.8)
      epsFault := epsFault != 0 }
    mdpsTime := frame.receivedAt }

def wheelMps (raw : UInt64) : Rat := raw.toNat * 0.03125 * kphToMps

def parseWheelSpeeds (parser : StateParser) (frame : CanFrame) : Option StateParser := do
  let data := frame.payloadAs 24
  let first ← getSignalIn .littleEndian data 64 14
  let second ← getSignalIn .littleEndian data 80 14
  let third ← getSignalIn .littleEndian data 96 14
  let fourth ← getSignalIn .littleEndian data 112 14
  let speeds := [wheelMps first, wheelMps second, wheelMps third, wheelMps fourth]
  some { parser with
    state := { parser.state with
      wheelSpeedFl := .finite (wheelMps first)
      wheelSpeedFr := .finite (wheelMps second)
      wheelSpeedRl := .finite (wheelMps third)
      wheelSpeedRr := .finite (wheelMps fourth)
      speedMps :=
        .finite ((wheelMps first + wheelMps second + wheelMps third + wheelMps fourth) / 4)
      standstill := speeds.all fun speed => decide (speed ≤ 0.375 * kphToMps) }
    wheelTime := frame.receivedAt }

def parseTcs (parser : StateParser) (frame : CanFrame) : Option StateParser := do
  let data := frame.payloadAs 24
  let brake ← getSignalIn .bigEndian data 81 1
  let fault ← getSignalIn .bigEndian data 67 2
  some { parser with
    state := { parser.state with brakePressed := brake != 0, accFault := fault != 0 }
    tcsTime := frame.receivedAt }

def parseAccelerator (parser : StateParser) (frame : CanFrame) : Option StateParser := do
  let data := frame.payloadAs 32
  let pedal ← getSignalIn .littleEndian data 40 8
  let gear ← getSignalIn .littleEndian data 192 3
  some { parser with
    state := { parser.state with
      acceleratorPedal := .finite pedal.toNat
      gasPressed := decide (0 < pedal.toNat)
      gear := gear.toUInt8 } }

def parseScc (parser : StateParser) (frame : CanFrame) : Option StateParser := do
  let mode ← getSignalIn .littleEndian (frame.payloadAs 32) 68 3
  some { parser with
    state := { parser.state with cruiseEngaged := mode == 1 || mode == 2 } }

def parseButtons (parser : StateParser) (frame : CanFrame) (alternate : Bool) :
    Option StateParser :=
  (parser.toFrameParser.parseButtons frame alternate).map fun parsed =>
    { parser with toFrameParser := parsed }

/-! ## update -/

def malformed (parser : StateParser) : StateParser :=
  { parser with malformedFrames := parser.malformedFrames + 1 }

def crcFailed (parser : StateParser) : StateParser :=
  { parser with checksumFailures := parser.checksumFailures + 1 }

/-- One case of the switch: the size, the checksum where the message has one, the signals. -/
def accept (parser : StateParser) (frame : CanFrame) (onBus : Bool) (size : UInt8)
    (hasCrc : Bool) (parse : StateParser → CanFrame → Option StateParser) :
    Option (StateParser × Bool) :=
  if !onBus || frame.size != size then some (parser.malformed, false)
  else if hasCrc then
    frame.checksumValid.bind fun valid =>
      if valid then (parse parser frame).map fun parsed => (parsed, true)
      else some (parser.crcFailed.malformed, false)
  else (parse parser frame).map fun parsed => (parsed, true)

/-- The switch of `update`. -/
def dispatch (parser : StateParser) (frame : CanFrame) (onEcan onCamera : Bool) :
    Option (StateParser × Bool) :=
  if frame.address == 0x04A then parser.accept frame onEcan 32 true parseDynamics
  -- ESC_02_10ms carries the same signals but has no checksum.
  else if frame.address == 0x0E5 then parser.accept frame onEcan 32 false parseDynamics
  else if frame.address == 0x125 then parser.accept frame onEcan 16 true parseSteering
  else if frame.address == 0x0EA then parser.accept frame onEcan 24 true parseMdps
  else if frame.address == 0x0A0 then parser.accept frame onEcan 24 true parseWheelSpeeds
  else if frame.address == 0x175 then parser.accept frame onEcan 24 true parseTcs
  else if frame.address == 0x035 then parser.accept frame onEcan 32 true parseAccelerator
  else if frame.address == 0x1CF then
    if parser.alternateButtons then some (parser, false)
    else parser.accept frame onEcan 8 false fun parser frame => parser.parseButtons frame false
  else if frame.address == 0x1AA then
    if !parser.alternateButtons then some (parser, false)
    else parser.accept frame onEcan 16 true fun parser frame => parser.parseButtons frame true
  else if frame.address == 0x1A0 then parser.accept frame (onEcan || onCamera) 32 true parseScc
  else some (parser, false)

def update (parser : StateParser) (frame : BusFrame) : Option (StateParser × Bool) :=
  if frame.rejected || frame.returned then some (parser, false)
  else
    let onEcan := frame.bus == parser.ecanBus
    let onCamera := parser.useCameraBus && frame.bus == parser.cameraBus
    if !onEcan && !onCamera then some (parser, false)
    else parser.dispatch frame.toCanFrame onEcan onCamera

/-! On the button messages it is the parser of `ButtonFrames`. -/

theorem accept_buttons (parser : StateParser) (frame : CanFrame) (onEcan : Bool) :
    (parser.accept frame onEcan 8 false fun parser frame => parser.parseButtons frame false).map
        (Prod.map toFrameParser id) =
      if !onEcan || frame.size != 8 then some (parser.toFrameParser.malformed, false)
      else (parser.toFrameParser.parseButtons frame false).map fun parsed => (parsed, true) := by
  unfold accept parseButtons
  split
  · rfl
  · rw [if_neg Bool.false_ne_true, Option.map_map, Option.map_map]
    rfl

theorem accept_alternateButtons (parser : StateParser) (frame : CanFrame) (onEcan : Bool) :
    (parser.accept frame onEcan 16 true fun parser frame => parser.parseButtons frame true).map
        (Prod.map toFrameParser id) =
      if !onEcan || frame.size != 16 then some (parser.toFrameParser.malformed, false)
      else (parser.toFrameParser.requireCrc frame).bind fun checked =>
        if checked.2 then (checked.1.parseButtons frame true).map fun parsed => (parsed, true)
        else some (FrameParser.malformed checked.1, false) := by
  unfold accept parseButtons FrameParser.requireCrc
  split
  · rfl
  · cases frame.checksumValid with
    | none => rfl
    | some valid =>
        cases valid with
        | false => rfl
        | true =>
            simp only [if_true, Option.bind_some, Option.map_some, Option.map_map]
            rfl

/-- The case of each button message, left to the other one by `alternate_buttons`. -/
theorem dispatch_buttons (parser : StateParser) (frame : CanFrame) (onEcan onCamera : Bool)
    (plain : frame.address = 0x1CF) :
    parser.dispatch frame onEcan onCamera =
      if parser.alternateButtons then some (parser, false)
      else parser.accept frame onEcan 8 false
        fun parser frame => parser.parseButtons frame false := by
  unfold dispatch
  rw [plain]
  rfl

theorem dispatch_alternateButtons (parser : StateParser) (frame : CanFrame)
    (onEcan onCamera : Bool) (alternate : frame.address = 0x1AA) :
    parser.dispatch frame onEcan onCamera =
      if !parser.alternateButtons then some (parser, false)
      else parser.accept frame onEcan 16 true
        fun parser frame => parser.parseButtons frame true := by
  unfold dispatch
  rw [alternate]
  rfl

/-- On the two button messages the whole parser is the one of the buttons alone. -/
theorem update_buttons (parser : StateParser) (frame : BusFrame)
    (buttons : frame.address = 0x1CF ∨ frame.address = 0x1AA) :
    (parser.update frame).map (Prod.map toFrameParser id) =
      parser.toFrameParser.update frame.toCanFrame := by
  unfold update FrameParser.update
  split
  · rfl
  dsimp only
  split
  · rfl
  rcases buttons with plain | alternate
  · rw [dispatch_buttons parser frame.toCanFrame _ _ plain, plain]
    simp only [beq_self_eq_true, if_true]
    split
    · rfl
    · exact accept_buttons ..
  · have other : ((0x1AA : UInt32) == 0x1CF) = false := rfl
    rw [dispatch_alternateButtons parser frame.toCanFrame _ _ alternate, alternate, other]
    simp only [beq_self_eq_true, if_true, Bool.false_eq_true, if_false]
    split
    · rfl
    · exact accept_alternateButtons ..
end StateParser

/-! ## What a frame tells -/

/-- A vehicle message, in the units of its signals. -/
inductive Measurement
  | dynamics (yawRateDegS lateralMps2 longitudinalMps2 : Rat)
  | steering (angleDeg : Rat)
  | mdps (driverTorque epsTorqueNm : Rat) (epsFault : Bool)
  | wheels (first second third fourth : Rat)
  | tcs (brakePressed accFault : Bool)
  | accelerator (pedal gear : Nat)

namespace CanFrame

def field (frame : CanFrame) (startBit bitLength : Nat) : Nat :=
  BitField.read (List.range' startBit bitLength) (bitAt frame.data)

def signedField (frame : CanFrame) (startBit : Nat) : Int :=
  if frame.field startBit 16 < 2 ^ 15 then frame.field startBit 16
  else (frame.field startBit 16 : Int) - 2 ^ 16

/-- The quality of the motion signals. -/
def motionValid (frame : CanFrame) : Bool :=
  frame.field 24 4 == 0 && frame.field 28 4 == 0 && frame.field 32 4 == 0

def acceleration (raw : Nat) : Rat := (raw * 0.000127465 - 4.17677312) * standardGravityMps2

def motion (frame : CanFrame) : Option Measurement :=
  if frame.motionValid then
    some (.dynamics (frame.field 64 16 * 0.005 - 163.84) (acceleration (frame.field 80 16))
      (acceleration (frame.field 96 16)))
  else none

/-- The frame has the size of its message and, where the message has one, a valid checksum. -/
def wellFormed (frame : CanFrame) (size : UInt8) (hasCrc : Bool) : Bool :=
  frame.size == size && (!hasCrc || frame.checksumValid == some true)

/-- What a frame on the bus tells of the vehicle. -/
def measurement (frame : CanFrame) : Option Measurement :=
  if frame.address == 0x04A then if frame.wellFormed 32 true then frame.motion else none
  else if frame.address == 0x0E5 then if frame.wellFormed 32 false then frame.motion else none
  else if frame.address == 0x125 then
    if frame.wellFormed 16 true then some (.steering (frame.signedField 24 * 0.1)) else none
  else if frame.address == 0x0EA then
    if frame.wellFormed 24 true then
      some (.mdps (frame.field 80 13 - 4095) (frame.field 64 12 * 0.1 - 204.8)
        (frame.field 54 2 != 0))
    else none
  else if frame.address == 0x0A0 then
    if frame.wellFormed 24 true then
      some (.wheels (frame.field 64 14 * 0.03125) (frame.field 80 14 * 0.03125)
        (frame.field 96 14 * 0.03125) (frame.field 112 14 * 0.03125))
    else none
  else if frame.address == 0x175 then
    if frame.wellFormed 24 true then
      some (.tcs (frame.field 81 1 != 0) (frame.field 66 2 != 0))
    else none
  else if frame.address == 0x035 then
    if frame.wellFormed 32 true then some (.accelerator (frame.field 40 8) (frame.field 192 3))
    else none
  else none

end CanFrame

/-! ## The signals the parser holds -/

/-- The vehicle signals of the state, in the units of the state. -/
structure StateSignals where
  yawRateDegS : Double
  lateralAccelMps2 : Double
  longitudinalAccelMps2 : Double
  steeringAngleDeg : Double
  driverTorque : Double
  epsTorqueNm : Double
  epsFault : Bool
  wheelSpeedFl : Double
  wheelSpeedFr : Double
  wheelSpeedRl : Double
  wheelSpeedRr : Double
  speedMps : Double
  brakePressed : Bool
  accFault : Bool
  acceleratorPedal : Double
  gear : Nat
  deriving DecidableEq

def VehicleStateData.signals (state : VehicleStateData) : StateSignals where
  yawRateDegS := state.yawRateDegS
  lateralAccelMps2 := state.lateralAccelMps2
  longitudinalAccelMps2 := state.longitudinalAccelMps2
  steeringAngleDeg := state.steeringAngleDeg
  driverTorque := state.driverTorque
  epsTorqueNm := state.epsTorqueNm
  epsFault := state.epsFault
  wheelSpeedFl := state.wheelSpeedFl
  wheelSpeedFr := state.wheelSpeedFr
  wheelSpeedRl := state.wheelSpeedRl
  wheelSpeedRr := state.wheelSpeedRr
  speedMps := state.speedMps
  brakePressed := state.brakePressed
  accFault := state.accFault
  acceleratorPedal := state.acceleratorPedal
  gear := state.gear.toNat

/-- A measurement replaces the signals it carries. -/
def StateSignals.hold (signals : StateSignals) : Measurement → StateSignals
  | .dynamics yawRate lateral longitudinal =>
      { signals with
        yawRateDegS := .finite yawRate
        lateralAccelMps2 := .finite lateral
        longitudinalAccelMps2 := .finite longitudinal }
  | .steering angle => { signals with steeringAngleDeg := .finite angle }
  | .mdps driverTorque epsTorque epsFault =>
      { signals with
        driverTorque := .finite driverTorque
        epsTorqueNm := .finite epsTorque
        epsFault := epsFault }
  | .wheels first second third fourth =>
      { signals with
        wheelSpeedFl := .finite (first * kphToMps)
        wheelSpeedFr := .finite (second * kphToMps)
        wheelSpeedRl := .finite (third * kphToMps)
        wheelSpeedRr := .finite (fourth * kphToMps)
        speedMps := .finite ((first + second + third + fourth) / 4 * kphToMps) }
  | .tcs brakePressed accFault =>
      { signals with brakePressed := brakePressed, accFault := accFault }
  | .accelerator pedal gear =>
      { signals with acceleratorPedal := .finite pedal, gear := gear }

def StateSignals.holdAny (signals : StateSignals) : Option Measurement → StateSignals
  | some measurement => signals.hold measurement
  | none => signals

/-! ## Signals as fields -/

theorem toInt64_toInt (word : UInt64) :
    word.toInt64.toInt =
      if word.toNat < 2 ^ 63 then (word.toNat : Int) else (word.toNat : Int) - 2 ^ 64 := by
  have signed : word.toInt64.toInt =
      if 2 * word.toNat < 2 ^ 64 then (word.toNat : Int) else (word.toNat : Int) - 2 ^ 64 :=
    BitVec.toInt_eq_toNat_cond word.toBitVec
  rw [signed]
  split <;> split <;> omega

theorem signExtend_low {bitLength value : Nat} (positive : 0 < bitLength) (word : bitLength ≤ 64)
    (short : value < 2 ^ bitLength) :
    signExtend (.ofNat value) bitLength =
      some (if value < 2 ^ (bitLength - 1) then (value : Int)
        else (value : Int) - 2 ^ bitLength) := by
  have bound : (2 : Nat) ^ bitLength ≤ 2 ^ 64 := Nat.pow_le_pow_right (by decide) word
  have whole : (UInt64.ofNat value).toNat = value := by
    rw [UInt64.toNat_ofNat']
    omega
  unfold signExtend
  rw [if_neg (by simp; omega)]
  by_cases full : bitLength = 64
  · subst full
    rw [if_pos (by decide), toInt64_toInt, whole]
  · obtain ⟨place, rfl⟩ := Nat.exists_eq_add_of_le' positive
    have half : (2 : Nat) ^ place ≤ 2 ^ 62 := Nat.pow_le_pow_right (by decide) (by omega)
    have sign : ((1 : UInt64) <<< UInt64.ofNat place).toNat = 2 ^ place := by
      have shift : (UInt64.ofNat place).toNat % 64 = place := by
        rw [UInt64.toNat_ofNat']
        omega
      rw [UInt64.toNat_shiftLeft, shift, Nat.shiftLeft_eq, UInt64.toNat_one, Nat.one_mul]
      exact Nat.mod_eq_of_lt (Nat.lt_of_le_of_lt half (by decide))
    rw [Nat.pow_succ] at short
    rw [if_neg (by simpa using full), Nat.add_sub_cancel]
    dsimp only
    rw [toInt64_toInt, UInt64.toNat_sub, UInt64.toNat_xor, whole, sign]
    congr 1
    by_cases clear : value < 2 ^ place
    · rw [BitField.xor_sign_of_clear clear, if_pos clear, if_pos (by omega)]
      omega
    · -- The set sign bit is flipped away, and the difference wraps.
      obtain ⟨low, rfl⟩ := Nat.exists_eq_add_of_le (Nat.le_of_not_lt clear)
      have flipped : (2 ^ place + low) ^^^ 2 ^ place = low := by
        rw [← BitField.xor_sign_of_clear (by omega), Nat.xor_assoc, Nat.xor_self, Nat.xor_zero]
      have wide : (2 : Int) ^ (place + 1) = 2 * ((2 ^ place : Nat) : Int) := by
        rw [Int.pow_succ, Int.natCast_pow, Int.mul_comm]
        rfl
      rw [flipped, if_neg clear, if_neg (by omega), wide]
      generalize 2 ^ place = half at *
      omega

section Signals
variable {frame : CanFrame} {size startBit bitLength : Nat}

theorem bitAt_payloadAs {bit : Nat} (inside : bit < size * 8) (short : size ≤ 64) :
    bitAt (frame.payloadAs size) bit = bitAt frame.data bit := by
  have byte : bit / 8 < size := by omega
  have whole : bit / 8 < 64 := by omega
  have same : (frame.payloadAs size).getD (bit / 8) 0 = frame.data.getD (bit / 8) 0 := by
    simp [CanFrame.payloadAs, Vector.getD, byte]
  unfold bitAt
  rw [same]

theorem field_lt (frame : CanFrame) (startBit bitLength : Nat) :
    frame.field startBit bitLength < 2 ^ bitLength := by
  have bound := BitField.read_lt (List.range' startBit bitLength) (bitAt frame.data)
  rw [List.length_range'] at bound
  exact bound

theorem getSignalIn_field (positive : 0 < bitLength) (word : bitLength ≤ 64)
    (inside : startBit + bitLength ≤ size * 8) (short : size ≤ 64) :
    getSignalIn .littleEndian (frame.payloadAs size) startBit bitLength =
      some (.ofNat (frame.field startBit bitLength)) := by
  have same : BitField.read (List.range' startBit bitLength) (bitAt (frame.payloadAs size)) =
      frame.field startBit bitLength := by
    refine BitField.read_congr fun bit member => bitAt_payloadAs ?_ short
    have bounds := List.mem_range'_1.mp member
    omega
  rw [← same]
  exact getSignal_bits positive word inside

theorem getSignalIn_motorola {dbcBit : Nat} (fits : SignalFits .bigEndian dbcBit bitLength size)
    (neighbours : signalBits .bigEndian dbcBit bitLength = List.range' startBit bitLength)
    (short : size ≤ 64) :
    getSignalIn .bigEndian (frame.payloadAs size) dbcBit bitLength =
      some (.ofNat (frame.field startBit bitLength)) := by
  rw [getSignalIn_bits fits]
  congr 2
  unfold CanFrame.field
  rw [← neighbours]
  exact BitField.read_congr fun bit member => bitAt_payloadAs (fits.inside bit member) short

theorem ofNat_field_toNat (short : bitLength ≤ 64) :
    (UInt64.ofNat (frame.field startBit bitLength)).toNat = frame.field startBit bitLength := by
  have bound := field_lt frame startBit bitLength
  have word : (2 : Nat) ^ bitLength ≤ 2 ^ 64 := Nat.pow_le_pow_right (by decide) short
  rw [UInt64.toNat_ofNat']
  exact Nat.mod_eq_of_lt (by omega)

theorem ofNat_field_beq_zero (short : bitLength ≤ 64) :
    (UInt64.ofNat (frame.field startBit bitLength) == 0) = (frame.field startBit bitLength == 0) := by
  have value := @ofNat_field_toNat frame startBit bitLength short
  rw [Bool.eq_iff_iff, beq_iff_eq, beq_iff_eq, ← UInt64.toNat_inj, value]
  rfl

end Signals

/-! ## What the parse functions hold -/

namespace StateParser

structure Parsed (before after : StateParser) (measured : Option Measurement) : Prop where
  ecanBus : after.ecanBus = before.ecanBus
  useCameraBus : after.useCameraBus = before.useCameraBus
  signals : after.state.signals = before.state.signals.holdAny measured

section Parse
variable (parser : StateParser) (frame : CanFrame)

theorem parseDynamics_parsed :
    ∃ after, parser.parseDynamics frame = some after ∧ Parsed parser after frame.motion := by
  have read (startBit bitLength : Nat) (inside : startBit + bitLength ≤ 32 * 8)
      (positive : 0 < bitLength) (word : bitLength ≤ 64) :=
    @getSignalIn_field frame 32 startBit bitLength positive word inside (by decide)
  have zero (startBit : Nat) := @ofNat_field_beq_zero frame startBit 4 (by decide)
  have raw (startBit : Nat) := @ofNat_field_toNat frame startBit 16 (by decide)
  unfold parseDynamics CanFrame.motion CanFrame.motionValid
  simp only [read 24 4 (by decide) (by decide) (by decide),
    read 28 4 (by decide) (by decide) (by decide), read 32 4 (by decide) (by decide) (by decide),
    read 64 16 (by decide) (by decide) (by decide), read 80 16 (by decide) (by decide) (by decide),
    read 96 16 (by decide) (by decide) (by decide), Option.bind_eq_bind, Option.bind_some, zero, raw]
  split
  · exact ⟨_, rfl, rfl, rfl, rfl⟩
  · exact ⟨_, rfl, rfl, rfl, rfl⟩

theorem parseSteering_parsed :
    ∃ after, parser.parseSteering frame = some after ∧
      Parsed parser after (some (.steering (frame.signedField 24 * 0.1))) := by
  have angle := @getSignalIn_field frame 16 24 16 (by decide) (by decide) (by decide) (by decide)
  have rate := @getSignalIn_field frame 16 40 8 (by decide) (by decide) (by decide) (by decide)
  have signed := signExtend_low (by decide) (by decide) (field_lt frame 24 16)
  unfold parseSteering
  simp only [angle, rate, signed, Option.bind_eq_bind, Option.bind_some]
  exact ⟨_, rfl, rfl, rfl, rfl⟩

theorem parseMdps_parsed :
    ∃ after, parser.parseMdps frame = some after ∧
      Parsed parser after (some (.mdps (frame.field 80 13 - 4095) (frame.field 64 12 * 0.1 - 204.8)
        (frame.field 54 2 != 0))) := by
  have driver := @getSignalIn_field frame 24 80 13 (by decide) (by decide) (by decide) (by decide)
  have eps := @getSignalIn_field frame 24 64 12 (by decide) (by decide) (by decide) (by decide)
  have fault := @getSignalIn_field frame 24 54 2 (by decide) (by decide) (by decide) (by decide)
  have driverRaw := @ofNat_field_toNat frame 80 13 (by decide)
  have epsRaw := @ofNat_field_toNat frame 64 12 (by decide)
  have zero := @ofNat_field_beq_zero frame 54 2 (by decide)
  unfold parseMdps
  simp only [driver, eps, fault, Option.bind_eq_bind, Option.bind_some, driverRaw, epsRaw, bne, zero]
  exact ⟨_, rfl, rfl, rfl, rfl⟩

theorem wheelMps_field (startBit : Nat) :
    wheelMps (.ofNat (frame.field startBit 14)) = frame.field startBit 14 * 0.03125 * kphToMps := by
  unfold wheelMps
  rw [ofNat_field_toNat (by decide)]

theorem parseWheelSpeeds_parsed :
    ∃ after, parser.parseWheelSpeeds frame = some after ∧
      Parsed parser after (some (.wheels (frame.field 64 14 * 0.03125) (frame.field 80 14 * 0.03125)
        (frame.field 96 14 * 0.03125) (frame.field 112 14 * 0.03125))) := by
  have read (startBit : Nat) (inside : startBit + 14 ≤ 24 * 8) :=
    @getSignalIn_field frame 24 startBit 14 (by decide) (by decide) inside (by decide)
  unfold parseWheelSpeeds
  simp only [read 64 (by decide), read 80 (by decide), read 96 (by decide), read 112 (by decide),
    Option.bind_eq_bind, Option.bind_some, wheelMps_field]
  refine ⟨_, rfl, rfl, rfl, ?_⟩
  -- The mean of the converted speeds is the converted mean.
  have mean (first second third fourth factor : Rat) :
      (first * factor + second * factor + third * factor + fourth * factor) / 4 =
        (first + second + third + fourth) / 4 * factor := by ring
  unfold StateSignals.holdAny StateSignals.hold
  dsimp only
  rw [← mean]
  rfl

theorem parseTcs_parsed :
    ∃ after, parser.parseTcs frame = some after ∧
      Parsed parser after (some (.tcs (frame.field 81 1 != 0) (frame.field 66 2 != 0))) := by
  have brake := @getSignalIn_motorola frame 24 81 1 81 (by decide) (by decide) (by decide)
  have fault := @getSignalIn_motorola frame 24 66 2 67 (by decide) (by decide) (by decide)
  have brakeZero := @ofNat_field_beq_zero frame 81 1 (by decide)
  have faultZero := @ofNat_field_beq_zero frame 66 2 (by decide)
  unfold parseTcs
  simp only [brake, fault, Option.bind_eq_bind, Option.bind_some, bne, brakeZero, faultZero]
  exact ⟨_, rfl, rfl, rfl, rfl⟩

theorem parseAccelerator_parsed :
    ∃ after, parser.parseAccelerator frame = some after ∧
      Parsed parser after (some (.accelerator (frame.field 40 8) (frame.field 192 3))) := by
  have pedal := @getSignalIn_field frame 32 40 8 (by decide) (by decide) (by decide) (by decide)
  have gear := @getSignalIn_field frame 32 192 3 (by decide) (by decide) (by decide) (by decide)
  have pedalRaw := @ofNat_field_toNat frame 40 8 (by decide)
  have byte : (UInt64.ofNat (frame.field 192 3)).toUInt8.toNat = frame.field 192 3 := by
    have bound := field_lt frame 192 3
    rw [UInt64.toNat_toUInt8, ofNat_field_toNat (by decide)]
    omega
  unfold parseAccelerator
  simp only [pedal, gear, Option.bind_eq_bind, Option.bind_some, pedalRaw]
  refine ⟨_, rfl, rfl, rfl, ?_⟩
  unfold StateSignals.holdAny StateSignals.hold VehicleStateData.signals
  dsimp only
  rw [byte]

end Parse

end StateParser

/-! ## What an update holds -/

/-- What a received frame of the bus tells of the vehicle. -/
def BusFrame.reported (bus : UInt8) (frame : BusFrame) : Option Measurement :=
  if frame.rejected || frame.returned || frame.bus != bus then none else frame.measurement

theorem checksumValid_some (frame : CanFrame) : ∃ valid, frame.checksumValid = some valid := by
  unfold CanFrame.checksumValid
  split
  · exact ⟨false, rfl⟩
  · next sizes =>
    have checksum : ∃ crc, frame.checksum = some crc := by
      unfold CanFrame.checksum
      simp only [Bool.and_eq_true, bne_iff_ne, not_and, not_not] at sizes
      by_cases eight : frame.size = 8
      · exact ⟨_, by rw [eight]; rfl⟩
      by_cases sixteen : frame.size = 16
      · exact ⟨_, by rw [sixteen]; rfl⟩
      by_cases twentyFour : frame.size = 24
      · exact ⟨_, by rw [twentyFour]; rfl⟩
      · have last : frame.size = 32 := sizes ⟨⟨eight, sixteen⟩, twentyFour⟩
        exact ⟨_, by rw [last]; rfl⟩
    obtain ⟨crc, computed⟩ := checksum
    exact ⟨_, by rw [computed]; rfl⟩

namespace StateParser

section Update
variable {parser : StateParser} {frame : CanFrame}

theorem parseScc_parsed (parser : StateParser) (frame : CanFrame) :
    ∃ after, parser.parseScc frame = some after ∧ Parsed parser after none := by
  have mode := @getSignalIn_field frame 32 68 3 (by decide) (by decide) (by decide) (by decide)
  unfold parseScc
  simp only [mode, Option.bind_eq_bind, Option.bind_some]
  exact ⟨_, rfl, rfl, rfl, rfl⟩

theorem countButtons_signals (counted : FrameParser) (current : UInt8) (laneKeepButton : Bool) :
    (counted.countButtons current laneKeepButton).state.signals = counted.state.signals := by
  unfold FrameParser.countButtons
  dsimp only
  split_ifs
  all_goals rfl

theorem parseButtons_parsed (alternate : Bool) (parser : StateParser) (frame : CanFrame) :
    ∃ after, parser.parseButtons frame alternate = some after ∧ Parsed parser after none := by
  have counts (current : UInt8) (laneKeepButton : Bool) :
      Parsed parser
        { parser with toFrameParser := parser.toFrameParser.countButtons current laneKeepButton }
        none :=
    ⟨rfl, rfl, countButtons_signals parser.toFrameParser current laneKeepButton⟩
  unfold parseButtons FrameParser.parseButtons
  cases alternate with
  | true =>
      have button := @getSignalIn_field frame 16 36 3 (by decide) (by decide) (by decide) (by decide)
      have lda := @getSignalIn_field frame 16 39 1 (by decide) (by decide) (by decide) (by decide)
      unfold getSignalIn at button lda
      simp only [if_true, button, lda, Option.bind_eq_bind, Option.bind_some, Option.map_some]
      exact ⟨_, rfl, counts _ _⟩
  | false =>
      have button := @getSignalIn_field frame 8 16 3 (by decide) (by decide) (by decide) (by decide)
      have lda := @getSignalIn_field frame 8 23 1 (by decide) (by decide) (by decide) (by decide)
      unfold getSignalIn at button lda
      simp only [Bool.false_eq_true, if_false, button, lda, Option.bind_eq_bind, Option.bind_some,
        Option.map_some]
      exact ⟨_, rfl, counts _ _⟩

theorem Parsed.none_of_signals {after : StateParser} (ecanBus : after.ecanBus = parser.ecanBus)
    (useCameraBus : after.useCameraBus = parser.useCameraBus) (same : after.state = parser.state) :
    Parsed parser after none :=
  ⟨ecanBus, useCameraBus, congrArg VehicleStateData.signals same⟩

theorem accept_parsed {size : UInt8} {hasCrc : Bool}
    {parse : StateParser → CanFrame → Option StateParser} {measured : Option Measurement}
    (parses : ∀ parser, ∃ after, parse parser frame = some after ∧ Parsed parser after measured) :
    ∃ after read, parser.accept frame true size hasCrc parse = some (after, read) ∧
      Parsed parser after (if frame.wellFormed size hasCrc then measured else none) := by
  obtain ⟨valid, checked⟩ := checksumValid_some frame
  obtain ⟨after, parsed, held⟩ := parses parser
  unfold accept CanFrame.wellFormed
  rw [checked]
  by_cases sized : frame.size = size
  · simp only [sized, bne_self_eq_false, Bool.not_true, Bool.or_false, Bool.false_eq_true, if_false,
      beq_self_eq_true, Bool.true_and]
    cases hasCrc with
    | false =>
        simp only [Bool.not_false, Bool.true_or, if_true, Bool.false_eq_true, if_false, parsed,
          Option.map_some]
        exact ⟨after, true, rfl, held⟩
    | true =>
        cases valid with
        | true =>
            simp only [Option.bind_some, if_true, parsed, Option.map_some, beq_self_eq_true,
              Bool.or_true]
            exact ⟨after, true, rfl, held⟩
        | false =>
            refine ⟨parser.crcFailed.malformed, false, rfl, ?_⟩
            exact .none_of_signals rfl rfl rfl
  · refine ⟨parser.malformed, false, ?_, ?_⟩
    · rw [if_pos (by simp [sized])]
    · rw [if_neg (by simp [sized])]
      exact .none_of_signals rfl rfl rfl

theorem dispatch_parsed (parser : StateParser) (frame : CanFrame) :
    ∃ after read, parser.dispatch frame true false = some (after, read) ∧
      Parsed parser after frame.measurement := by
  have still : Parsed parser parser none := .none_of_signals rfl rfl rfl
  have noMeasurement (wellFormed : Bool) :
      (if wellFormed then none else none : Option Measurement) = none := ite_self _
  unfold dispatch CanFrame.measurement
  by_cases imu : (frame.address == 0x04A) = true
  · rw [if_pos imu, if_pos imu]
    exact accept_parsed fun parser => parser.parseDynamics_parsed frame
  rw [if_neg imu, if_neg imu]
  by_cases esc : (frame.address == 0x0E5) = true
  · rw [if_pos esc, if_pos esc]
    exact accept_parsed fun parser => parser.parseDynamics_parsed frame
  rw [if_neg esc, if_neg esc]
  by_cases steering : (frame.address == 0x125) = true
  · rw [if_pos steering, if_pos steering]
    exact accept_parsed fun parser => parser.parseSteering_parsed frame
  rw [if_neg steering, if_neg steering]
  by_cases mdps : (frame.address == 0x0EA) = true
  · rw [if_pos mdps, if_pos mdps]
    exact accept_parsed fun parser => parser.parseMdps_parsed frame
  rw [if_neg mdps, if_neg mdps]
  by_cases wheels : (frame.address == 0x0A0) = true
  · rw [if_pos wheels, if_pos wheels]
    exact accept_parsed fun parser => parser.parseWheelSpeeds_parsed frame
  rw [if_neg wheels, if_neg wheels]
  by_cases tcs : (frame.address == 0x175) = true
  · rw [if_pos tcs, if_pos tcs]
    exact accept_parsed fun parser => parser.parseTcs_parsed frame
  rw [if_neg tcs, if_neg tcs]
  by_cases accelerator : (frame.address == 0x035) = true
  · rw [if_pos accelerator, if_pos accelerator]
    exact accept_parsed fun parser => parser.parseAccelerator_parsed frame
  rw [if_neg accelerator, if_neg accelerator]
  by_cases buttons : (frame.address == 0x1CF) = true
  · rw [if_pos buttons]
    split
    · exact ⟨parser, false, rfl, still⟩
    · rw [← noMeasurement (frame.wellFormed 8 false)]
      exact accept_parsed fun parser => parser.parseButtons_parsed false frame
  rw [if_neg buttons]
  by_cases alternate : (frame.address == 0x1AA) = true
  · rw [if_pos alternate]
    split
    · exact ⟨parser, false, rfl, still⟩
    · rw [← noMeasurement (frame.wellFormed 16 true)]
      exact accept_parsed fun parser => parser.parseButtons_parsed true frame
  rw [if_neg alternate]
  split
  · rw [← noMeasurement (frame.wellFormed 32 true)]
    exact accept_parsed fun parser => parser.parseScc_parsed frame
  · exact ⟨parser, false, rfl, still⟩

/-- Without a camera bus an update holds what the frame reports, and nothing else. -/
theorem update_parsed (parser : StateParser) (noCamera : parser.useCameraBus = false)
    (frame : BusFrame) :
    ∃ after read, parser.update frame = some (after, read) ∧
      Parsed parser after (frame.reported parser.ecanBus) := by
  have still : Parsed parser parser none := .none_of_signals rfl rfl rfl
  unfold update BusFrame.reported
  cases echoed : (frame.rejected || frame.returned) with
  | true => exact ⟨parser, false, rfl, still⟩
  | false =>
      cases here : (frame.bus == parser.ecanBus) with
      | false =>
          rw [noCamera, bne, here]
          exact ⟨parser, false, rfl, still⟩
      | true =>
          rw [noCamera, bne, here]
          exact parser.dispatch_parsed frame.toCanFrame

end Update

end StateParser

end Ioniq5Ecan
