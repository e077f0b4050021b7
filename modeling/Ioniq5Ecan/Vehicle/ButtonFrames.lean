import Ioniq5Ecan.Node.Sampling
import Ioniq5Ecan.Firmware.Session

/-! # Cruise button frames on the host

`VehicleStateParser::update` on CRUISE_BUTTONS and CRUISE_BUTTONS_ALT, down to
the signals and the checksum.  The frame is the one `unpack_frames` makes of the
packet the firmware checks. -/
set_option autoImplicit false
namespace Ioniq5Ecan

structure CanFrame where
  address : UInt32
  bus : UInt8
  returned : Bool := false
  rejected : Bool := false
  size : UInt8
  data : Vector UInt8 64
  receivedAt : TimePoint
  deriving DecidableEq

/-- The frame the host unpacks when the Panda forwards `msg`. -/
def CanPacket.frame (msg : CanPacket) (receivedAt : TimePoint) : CanFrame where
  address := msg.addr
  bus := msg.bus
  size := UInt8.ofNat msg.data.length
  data := .ofFn fun index => msg.byte index
  receivedAt := receivedAt

@[simp]
theorem frame_address (msg : CanPacket) (receivedAt : TimePoint) :
    (msg.frame receivedAt).address = msg.addr := rfl

/-! ## Signals -/

/-- `get_signal` in little-endian order; `none` is an exception. -/
def getSignal {size : Nat} (data : Vector UInt8 size) (startBit bitLength : Nat) : Option UInt64 :=
  if bitLength == 0 || decide (64 < bitLength) then none
  else if size * 8 < startBit + bitLength then none
  else some ((List.range bitLength).foldl (fun raw index =>
    let source := startBit + index
    raw ||| ((data.getD (source / 8) 0 >>> UInt8.ofNat (source % 8)) &&& 1).toUInt64 <<<
      UInt64.ofNat index) 0)

namespace CanFrame

def payloadAs (size : Nat) (frame : CanFrame) : Vector UInt8 size :=
  .ofFn fun index => frame.data.getD index 0

end CanFrame

/-! ## The checksum -/

def crcStep (crc : UInt16) (byte : UInt8) : UInt16 :=
  (List.range 8).foldl
    (fun crc _ => if crc &&& 0x8000 != 0 then (crc <<< 1) ^^^ 0x1021 else crc <<< 1)
    (crc ^^^ (byte.toUInt16 <<< 8))

namespace CanFrame

/-- `HyundaiCanFdCodec::checksum`; `none` is an exception. -/
def checksum (frame : CanFrame) : Option UInt16 :=
  if decide (frame.size < 3) || decide (64 < frame.size) then none
  else
    let crc := ((frame.data.toList.take frame.size.toNat).drop 2).foldl crcStep 0
    let crc := crcStep crc (frame.address &&& 0xFF).toUInt8
    let crc := crcStep crc ((frame.address >>> 8) &&& 0xFF).toUInt8
    if frame.size == 8 then some (crc ^^^ 0x5F29)
    else if frame.size == 16 then some (crc ^^^ 0x041D)
    else if frame.size == 24 then some (crc ^^^ 0x819D)
    else if frame.size == 32 then some (crc ^^^ 0x9F5B)
    else none

/-- `HyundaiCanFdCodec::checksum_valid`; `none` is an exception. -/
def checksumValid (frame : CanFrame) : Option Bool :=
  if frame.size != 8 && frame.size != 16 && frame.size != 24 && frame.size != 32 then some false
  else
    let received := (frame.data.getD 0 0).toUInt16 ||| ((frame.data.getD 1 0).toUInt16 <<< 8)
    frame.checksum.map fun checksum => received == checksum

end CanFrame

/-! ## The button messages -/

/-- The parser with what the button messages read and write. -/
structure FrameParser extends VehicleStateParser where
  ecanBus : UInt8 := 0
  cameraBus : UInt8 := 2
  alternateButtons : Bool := false
  useCameraBus : Bool := false
  previousButton : UInt8 := 0
  previousLaneKeepButton : Bool := false
  checksumFailures : UInt64 := 0
  malformedFrames : UInt64 := 0
  deriving DecidableEq

namespace FrameParser

def requireCrc (parser : FrameParser) (frame : CanFrame) : Option (FrameParser × Bool) :=
  frame.checksumValid.map fun valid =>
    if valid then (parser, true)
    else ({ parser with checksumFailures := parser.checksumFailures + 1 }, false)

/-- `parse_buttons` once the two signals are read. -/
def countButtons (parser : FrameParser) (current : UInt8) (laneKeepButton : Bool) : FrameParser :=
  let state := parser.state
  let state :=
    if laneKeepButton && !parser.previousLaneKeepButton then
      { state with laneKeepButtonEvents := state.laneKeepButtonEvents + 1 }
    else state
  let state :=
    if parser.previousButton == 2 && current == 0 then
      { state with setButtonEvents := state.setButtonEvents + 1 }
    else state
  let state :=
    if current == 4 && parser.previousButton != 4 then
      { state with cancelButtonEvents := state.cancelButtonEvents + 1 }
    else state
  { parser with
    state := { state with cruiseButton := current, laneKeepButtonPressed := laneKeepButton }
    previousButton := current
    previousLaneKeepButton := laneKeepButton }

theorem countButtons_laneKeepButtonEvents (parser : FrameParser) (current : UInt8)
    (laneKeepButton : Bool) :
    (parser.countButtons current laneKeepButton).state.laneKeepButtonEvents =
      if laneKeepButton && !parser.previousLaneKeepButton then
        parser.state.laneKeepButtonEvents + 1
      else parser.state.laneKeepButtonEvents := by
  unfold countButtons
  dsimp only
  split_ifs <;> rfl

theorem countButtons_setButtonEvents (parser : FrameParser) (current : UInt8)
    (laneKeepButton : Bool) :
    (parser.countButtons current laneKeepButton).state.setButtonEvents =
      if parser.previousButton == 2 && current == 0 then parser.state.setButtonEvents + 1
      else parser.state.setButtonEvents := by
  unfold countButtons
  dsimp only
  split_ifs <;> rfl

def parseButtons (parser : FrameParser) (frame : CanFrame) (alternate : Bool) :
    Option FrameParser :=
  if alternate then do
    let data := frame.payloadAs 16
    let current ← getSignal data 36 3
    let laneKeepButton ← getSignal data 39 1
    some (parser.countButtons current.toUInt8 (laneKeepButton != 0))
  else do
    let data := frame.payloadAs 8
    let current ← getSignal data 16 3
    let laneKeepButton ← getSignal data 23 1
    some (parser.countButtons current.toUInt8 (laneKeepButton != 0))

def malformed (parser : FrameParser) : FrameParser :=
  { parser with malformedFrames := parser.malformedFrames + 1 }

/-- `update` on the two button messages; the cases of the other messages are left out, and
`none` is an exception. -/
def update (parser : FrameParser) (frame : CanFrame) : Option (FrameParser × Bool) :=
  if frame.rejected || frame.returned then some (parser, false)
  else
    let onEcan := frame.bus == parser.ecanBus
    let onCamera := parser.useCameraBus && frame.bus == parser.cameraBus
    if !onEcan && !onCamera then some (parser, false)
    else if frame.address == 0x1CF then
      if parser.alternateButtons then some (parser, false)
      else if !onEcan || frame.size != 8 then some (parser.malformed, false)
      else (parser.parseButtons frame false).map fun parsed => (parsed, true)
    else if frame.address == 0x1AA then
      if !parser.alternateButtons then some (parser, false)
      else if !onEcan || frame.size != 16 then some (parser.malformed, false)
      else do
        let (checked, valid) ← parser.requireCrc frame
        if valid then (checked.parseButtons frame true).map fun parsed => (parsed, true)
        else some (checked.malformed, false)
    else some (parser, false)

end FrameParser

/-! ## Both sides read the same button -/

/-- `length` bits of one byte from bit `start` on. -/
def byteSignal (byte : UInt8) (start length : Nat) : UInt64 :=
  (List.range length).foldl (fun raw index =>
    raw ||| ((byte >>> UInt8.ofNat (start + index)) &&& 1).toUInt64 <<< UInt64.ofNat index) 0

theorem getSignal_byte {size : Nat} (data : Vector UInt8 size) (startBit bitLength : Nat)
    (nonempty : 0 < bitLength) (inByte : startBit % 8 + bitLength ≤ 8)
    (inFrame : startBit + bitLength ≤ size * 8) :
    getSignal data startBit bitLength =
      some (byteSignal (data.getD (startBit / 8) 0) (startBit % 8) bitLength) := by
  unfold getSignal byteSignal
  rw [if_neg (by simp; omega), if_neg (by omega)]
  congr 1
  apply List.foldl_ext
  intro raw index member
  have inside : index < bitLength := List.mem_range.mp member
  have sameByte : (startBit + index) / 8 = startBit / 8 := by omega
  have sameBit : (startBit + index) % 8 = startBit % 8 + index := by omega
  simp only [sameByte, sameBit]

/-- What the firmware masks out of a byte. -/
theorem byteSignal_masked (byte : UInt8) :
    (byteSignal byte 0 3).toUInt8 = byte &&& 7 ∧
      (byteSignal byte 4 3).toUInt8 = (byte >>> 4) &&& 7 ∧
      (byteSignal byte 7 1 != 0) = (byte &&& 128 != 0) := by
  have all : ∀ value < 256,
      (byteSignal (UInt8.ofNat value) 0 3).toUInt8 = UInt8.ofNat value &&& 7 ∧
        (byteSignal (UInt8.ofNat value) 4 3).toUInt8 = (UInt8.ofNat value >>> 4) &&& 7 ∧
        (byteSignal (UInt8.ofNat value) 7 1 != 0) = (UInt8.ofNat value &&& 128 != 0) := by
    decide +kernel
  simpa using all byte.toNat byte.toNat_lt

theorem payloadAs_frame (msg : CanPacket) (receivedAt : TimePoint) (size index : Nat)
    (inPayload : index < size) (inFrame : index < 64) :
    ((msg.frame receivedAt).payloadAs size).getD index 0 = msg.byte index := by
  simp [CanFrame.payloadAs, CanPacket.frame, Vector.getD, inPayload, inFrame]

namespace FrameParser

/-- An unpacked button frame counts the button the firmware reads from the packet. -/
theorem parseButtons_frame (parser : FrameParser) (msg : CanPacket) (receivedAt : TimePoint)
    (alternate : Bool) :
    parser.parseButtons (msg.frame receivedAt) alternate =
      some (parser.countButtons (msg.cruiseButton alternate) (msg.ldaButton alternate)) := by
  have low (index : Nat) := (byteSignal_masked (msg.byte index)).1
  have high (index : Nat) := (byteSignal_masked (msg.byte index)).2.1
  have top (index : Nat) := (byteSignal_masked (msg.byte index)).2.2
  cases alternate with
  | false =>
      unfold parseButtons
      simp only [Bool.false_eq_true, if_false]
      rw [getSignal_byte _ 16 3 (by decide) (by decide) (by decide),
        getSignal_byte _ 23 1 (by decide) (by decide) (by decide),
        payloadAs_frame _ _ _ _ (by decide) (by decide)]
      exact congrArg some (congrArg₂ parser.countButtons (low 2) (top 2))
  | true =>
      unfold parseButtons
      simp only [if_true]
      rw [getSignal_byte _ 36 3 (by decide) (by decide) (by decide),
        getSignal_byte _ 39 1 (by decide) (by decide) (by decide),
        payloadAs_frame _ _ _ _ (by decide) (by decide)]
      exact congrArg some (congrArg₂ parser.countButtons (high 4) (top 4))

theorem requireCrc_valid {parser checked : FrameParser} {frame : CanFrame}
    (passed : parser.requireCrc frame = some (checked, true)) : checked = parser := by
  obtain ⟨valid, -, outcome⟩ := Option.map_eq_some_iff.mp passed
  split at outcome
  · exact (congrArg Prod.fst outcome).symm
  · cases congrArg Prod.snd outcome

theorem update_accepted {parser next : FrameParser} {msg : CanPacket} {receivedAt : TimePoint}
    (accepted : parser.update (msg.frame receivedAt) = some (next, true)) :
    msg.addr = (if parser.alternateButtons then 0x1AA else 0x1CF) ∧
      next = parser.countButtons (msg.cruiseButton parser.alternateButtons)
        (msg.ldaButton parser.alternateButtons) := by
  have parsed (alternate : Bool)
      (result : (parser.parseButtons (msg.frame receivedAt) alternate).map
        (fun parsed => (parsed, true)) = some (next, true)) :
      next = parser.countButtons (msg.cruiseButton alternate) (msg.ldaButton alternate) := by
    rw [parseButtons_frame] at result
    exact (congrArg Prod.fst (Option.some.inj result)).symm
  unfold update at accepted
  split at accepted
  · cases accepted
  · dsimp only at accepted
    split at accepted
    · cases accepted
    · split at accepted
      · rename_i address
        have plain : msg.addr = 0x1CF := by simpa using address
        split at accepted
        · cases accepted
        · rename_i primary
          split at accepted
          · cases accepted
          · have main : parser.alternateButtons = false := by simpa using primary
            simpa [main, plain] using parsed false accepted
      · split at accepted
        · rename_i address
          have plain : msg.addr = 0x1AA := by simpa using address
          split at accepted
          · cases accepted
          · rename_i secondary
            split at accepted
            · cases accepted
            · have alternate : parser.alternateButtons = true := by simpa using secondary
              obtain ⟨⟨checked, valid⟩, crc, result⟩ := Option.bind_eq_some_iff.mp accepted
              cases valid with
              | false => cases result
              | true =>
                  cases requireCrc_valid crc
                  simpa [alternate, plain] using parsed true result
        · cases accepted

end FrameParser
end Ioniq5Ecan
