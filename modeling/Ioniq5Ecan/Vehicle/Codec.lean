import Ioniq5Ecan.Vehicle.Signals
import Ioniq5Ecan.Panda.PacketStream
import Mathlib.Data.Rat.Floor

/-! # HyundaiCanFdCodec

The frames the node sends: `make_lfa`, `make_scc_control`, `make_lfa_cluster`
and `make_fca_warning`, their counters and the stock SCC_CONTROL template.  Each
frame is a list of signals written over a payload, the checksum last.  Doubles
are exact rationals. -/
set_option autoImplicit false
namespace Ioniq5Ecan

open Library

structure HyundaiCanFdCodec where
  lfaCounter : UInt8 := 0
  sccCounter : UInt8 := 0
  clusterCounter : UInt8 := 0
  fcaWarningCounter : UInt8 := 0
  sccTemplate : Vector UInt8 32 := .replicate 32 0
  hasSccTemplate : Bool := false
  deriving DecidableEq

def sccControlAddress : UInt32 := 0x1A0
def lfaAddress : UInt32 := 0x12A
def lfaClusterAddress : UInt32 := 0x1E0
def fcaWarningAddress : UInt32 := 0x160

/-! ## A payload and its signals -/

structure SignalWrite where
  startBit : Nat
  bitLength : Nat
  raw : UInt64
  order : ByteOrder := .littleEndian

def setSignals {size : Nat} : Vector UInt8 size → List SignalWrite → Option (Vector UInt8 size)
  | data, [] => some data
  | data, write :: rest =>
      match setSignal data write.startBit write.bitLength write.raw write.order with
      | none => none
      | some written => setSignals written rest

/-- `finish_frame` on a frame with its address and bus. -/
def finishFrame {size : Nat} (address : UInt32) (bus : UInt8) (data : Vector UInt8 size) :
    BusFrame where
  address := address
  bus := bus
  fd := true
  size := UInt8.ofNat size
  data := .ofFn fun index => data.getD index.val 0
  receivedAt := 0

def writeChecksum {size : Nat} (address : UInt32) (data : Vector UInt8 size) :
    Option (Vector UInt8 size) :=
  (finishFrame address 0 data).checksum.map fun (crc : UInt16) =>
    (data.setIfInBounds 0 (crc &&& 0xFF).toUInt8).setIfInBounds 1 (crc >>> 8).toUInt8

/-- The common end of the four `make_` functions. -/
def encodeFrame {size : Nat} (address : UInt32) (bus : UInt8) (data : Vector UInt8 size)
    (writes : List SignalWrite) : Option BusFrame :=
  match setSignals data writes with
  | none => none
  | some written => (writeChecksum address written).map (finishFrame address bus)

def physicalToRaw (value factor offset : Rat) (bits : Nat) : UInt64 :=
  let rounded := ⌊(value - offset) / factor + 1 / 2⌋
  .ofNat (max 0 (min rounded (2 ^ bits - 1))).toNat

def clamp (value lower upper : Rat) : Rat :=
  if value < lower then lower else if upper < value then upper else value

def flag (value : Bool) : UInt64 := if value then 1 else 0

/-! ## The frames -/

namespace HyundaiCanFdCodec

def lfaWrites (counter : UInt8) (torque : Int) (enabled torqueRequest : Bool) :
    List SignalWrite :=
  let torque := max (-1021) (min torque 1021)
  [{ startBit := 16, bitLength := 8, raw := counter.toUInt64 },
    { startBit := 24, bitLength := 3, raw := 2 },
    { startBit := 27, bitLength := 3, raw := 0 },
    { startBit := 38, bitLength := 3, raw := if enabled then 2 else 1 },
    { startBit := 41, bitLength := 11, raw := .ofNat (torque + 1024).toNat },
    { startBit := 52, bitLength := 2, raw := flag torqueRequest },
    { startBit := 60, bitLength := 4, raw := 0 },
    { startBit := 104, bitLength := 8, raw := 100 },
    { startBit := 80, bitLength := 2, raw := 0 }]

def makeLfa (codec : HyundaiCanFdCodec) (torque : Int) (enabled torqueRequest : Bool)
    (bus : UInt8) : Option (HyundaiCanFdCodec × BusFrame) :=
  (encodeFrame lfaAddress bus (.replicate 16 0)
    (lfaWrites codec.lfaCounter torque enabled torqueRequest)).map fun frame =>
      ({ codec with lfaCounter := codec.lfaCounter + 1 }, frame)

def makeLfaCluster (codec : HyundaiCanFdCodec) (enabled : Bool) (bus : UInt8) :
    Option (HyundaiCanFdCodec × BusFrame) :=
  (encodeFrame lfaClusterAddress bus (.replicate 16 0)
    [{ startBit := 16, bitLength := 8, raw := codec.clusterCounter.toUInt64 },
      { startBit := 31, bitLength := 1, raw := flag enabled },
      { startBit := 47, bitLength := 2, raw := if enabled then 2 else 0 }]).map fun frame =>
        ({ codec with clusterCounter := codec.clusterCounter + 1 }, frame)

def makeFcaWarning (codec : HyundaiCanFdCodec) (bus : UInt8) :
    Option (HyundaiCanFdCodec × BusFrame) :=
  (encodeFrame fcaWarningAddress bus (.replicate 16 0)
    [{ startBit := 16, bitLength := 8, raw := codec.fcaWarningCounter.toUInt64 },
      { startBit := 24, bitLength := 2, raw := 1 },
      { startBit := 56, bitLength := 8, raw := 0x02 },
      { startBit := 64, bitLength := 8, raw := 0xFF },
      { startBit := 72, bitLength := 8, raw := 0xFC },
      { startBit := 80, bitLength := 8, raw := 0x09 }]).map fun frame =>
        ({ codec with fcaWarningCounter := codec.fcaWarningCounter + 1 }, frame)

end HyundaiCanFdCodec

/-- The arguments of `make_scc_control`. -/
structure SccRequest where
  accelRawMps2 : Double
  accelValueMps2 : Double
  enabled : Bool
  stopping : Bool
  gasOverride : Bool
  setSpeedKph : Double
  jerkMps3 : Double
  bus : UInt8 := 0
  deriving DecidableEq

/-- The finite values, saturated at what the signals represent. -/
structure SccValues where
  accelRaw : Rat
  accelValue : Rat
  setSpeed : Rat
  jerk : Rat

def SccRequest.values (request : SccRequest) : Option SccValues :=
  match request.accelRawMps2, request.accelValueMps2, request.setSpeedKph, request.jerkMps3 with
  | .finite accelRaw, .finite accelValue, .finite setSpeed, .finite jerk => some {
      accelRaw := clamp accelRaw (-1023 / 100) (1024 / 100)
      accelValue := clamp accelValue (-1023 / 100) (1024 / 100)
      jerk := clamp jerk 0 (127 / 10)
      setSpeed := clamp setSpeed 0 255 }
  | _, _, _, _ => none

namespace HyundaiCanFdCodec

def sccWrites (counter : UInt8) (request : SccRequest) (values : SccValues) : List SignalWrite :=
  [{ startBit := 16, bitLength := 8, raw := counter.toUInt64 },
    { startBit := 24, bitLength := 11, raw := 10 },
    { startBit := 45, bitLength := 2, raw := 3, order := .bigEndian },
    { startBit := 46, bitLength := 1, raw := 0, order := .bigEndian },
    { startBit := 55, bitLength := 8, raw := 0x64, order := .bigEndian },
    { startBit := 66, bitLength := 1, raw := 1 },
    { startBit := 68, bitLength := 3
      raw := if request.enabled then (if request.gasOverride then 2 else 1) else 0 },
    { startBit := 76, bitLength := 1, raw := flag request.stopping },
    { startBit := 88, bitLength := 3, raw := 4 },
    { startBit := 103, bitLength := 8, raw := physicalToRaw values.setSpeed 1 0 8
      order := .bigEndian },
    { startBit := 105, bitLength := 3, raw := 4 },
    { startBit := 128, bitLength := 11
      raw := physicalToRaw values.accelValue (1 / 100) (-1023 / 100) 11 },
    { startBit := 140, bitLength := 11
      raw := physicalToRaw values.accelRaw (1 / 100) (-1023 / 100) 11 },
    { startBit := 158, bitLength := 7
      raw := physicalToRaw (if request.enabled then values.jerk else 3) (1 / 10) 0 7
      order := .bigEndian },
    { startBit := 166, bitLength := 7
      raw := physicalToRaw (if request.enabled then values.jerk else 1) (1 / 10) 0 7
      order := .bigEndian },
    { startBit := 176, bitLength := 3, raw := 2 },
    { startBit := 184, bitLength := 1, raw := flag request.stopping, order := .bigEndian }]

/-- What the signals are written over. -/
def sccPayload (codec : HyundaiCanFdCodec) : Vector UInt8 32 :=
  if codec.hasSccTemplate then codec.sccTemplate else .replicate 32 0

/-- `none` is an exception; the counter has not moved by then. -/
def makeSccControl (codec : HyundaiCanFdCodec) (request : SccRequest) :
    Option (HyundaiCanFdCodec × BusFrame) :=
  match request.values with
  | none => none
  | some values =>
      (encodeFrame sccControlAddress request.bus codec.sccPayload
        (sccWrites codec.sccCounter request values)).map fun frame =>
          ({ codec with sccCounter := codec.sccCounter + 1 }, frame)

/-! ## The template -/

def setSccControlTemplate (codec : HyundaiCanFdCodec) (frame : BusFrame) :
    Option HyundaiCanFdCodec :=
  if frame.address != sccControlAddress || frame.size != 32 || frame.extended then none
  else some { codec with
    sccTemplate := .ofFn fun index => frame.data.getD index.val 0
    hasSccTemplate := true
    sccCounter := frame.data.getD 2 0 + 1 }

def clearSccControlTemplate (codec : HyundaiCanFdCodec) : HyundaiCanFdCodec :=
  { codec with sccTemplate := .replicate 32 0, hasSccTemplate := false }

def resetCounters (codec : HyundaiCanFdCodec) (lfa scc cluster fcaWarning : UInt8) :
    HyundaiCanFdCodec :=
  { codec with
    lfaCounter := lfa, sccCounter := scc, clusterCounter := cluster
    fcaWarningCounter := fcaWarning }

end HyundaiCanFdCodec

/-! ## What an encoded frame carries -/

def SignalWrite.assignment (write : SignalWrite) : BitField.Assignment Nat where
  positions := signalBits write.order write.startBit write.bitLength
  value := write.raw.toNat

/-- The bits the writes own. -/
def ownedBits (writes : List SignalWrite) : List Nat :=
  BitField.owned (writes.map SignalWrite.assignment)

def SignalWrite.Fits (write : SignalWrite) (size : Nat) : Prop :=
  SignalFits write.order write.startBit write.bitLength size

instance (write : SignalWrite) (size : Nat) : Decidable (write.Fits size) :=
  inferInstanceAs (Decidable (SignalFits _ _ _ _))

section Encoding
variable {size : Nat} {data other : Vector UInt8 size} {writes : List SignalWrite}
  {address : UInt32} {bus : UInt8}

theorem setSignals_bits (fits : ∀ write ∈ writes, write.Fits size) :
    ∀ data : Vector UInt8 size, ∃ written, setSignals data writes = some written ∧
      bitAt written = BitField.overlay (writes.map SignalWrite.assignment) (bitAt data) := by
  induction writes with
  | nil => intro data; exact ⟨data, rfl, rfl⟩
  | cons write rest ih =>
      intro data
      obtain ⟨first, wrote, firstBits⟩ :=
        @setSignal_bits size data write.startBit write.bitLength write.raw write.order
          (fits write (List.mem_cons_self ..))
      obtain ⟨last, wroteRest, lastBits⟩ :=
        ih (fun other member => fits other (List.mem_cons_of_mem _ member)) first
      refine ⟨last, ?_, ?_⟩
      · simp only [setSignals, wrote, wroteRest]
      · rw [lastBits, firstBits]
        rfl

theorem finishFrame_byte (sized : size ≤ 64) (index : Nat) :
    (finishFrame address bus data).data.getD index 0 = data.getD index 0 := by
  by_cases inside : index < 64
  · simp [finishFrame, Vector.getD, inside]
  · have outside : ¬ index < size := by omega
    simp [finishFrame, Vector.getD, inside, outside]

theorem finishFrame_bit (sized : size ≤ 64) (bit : Nat) :
    bitAt (finishFrame address bus data).data bit = bitAt data bit := by
  rw [bitAt, finishFrame_byte sized, bitAt]

theorem checksum_congr {frame second : CanFrame} (address : frame.address = second.address)
    (size : frame.size = second.size)
    (same : ∀ index, 2 ≤ index → frame.data.getD index 0 = second.data.getD index 0) :
    frame.checksum = second.checksum := by
  have bytes : (frame.data.toList.take frame.size.toNat).drop 2 =
      (second.data.toList.take frame.size.toNat).drop 2 := by
    apply List.ext_getElem
    · simp
    · intro index inFrame inSecond
      simp only [List.length_drop, List.length_take, Vector.length_toList] at inFrame
      have inside : 2 + index < 64 := by omega
      have byte := same (2 + index) (by omega)
      simpa [Vector.getD, inside] using byte
  unfold CanFrame.checksum
  rw [bytes, address, size]

theorem checksum_sized (sized : size = 8 ∨ size = 16 ∨ size = 24 ∨ size = 32) :
    ∃ crc, (finishFrame address bus data).checksum = some crc := by
  unfold CanFrame.checksum
  rcases sized with rfl | rfl | rfl | rfl
  all_goals
    exact ⟨_, rfl⟩

theorem split_checksum (crc : UInt16) :
    (crc &&& 0xFF).toUInt8.toUInt16 ||| ((crc >>> 8).toUInt8.toUInt16 <<< 8) = crc := by
  have bound := crc.toNat_lt
  have low : (crc &&& 0xFF).toUInt8.toUInt16.toNat = crc.toNat % 256 := by
    rw [UInt8.toNat_toUInt16, UInt16.toNat_toUInt8, UInt16.toNat_and]
    show (crc.toNat &&& 2 ^ 8 - 1) % 2 ^ 8 = _
    rw [Nat.and_two_pow_sub_one_eq_mod]
    omega
  have high : ((crc >>> 8).toUInt8.toUInt16 <<< 8).toNat = 2 ^ 8 * (crc.toNat / 256) := by
    have eight : (8 : UInt16).toNat % 16 = 8 := rfl
    rw [UInt16.toNat_shiftLeft, UInt8.toNat_toUInt16, UInt16.toNat_toUInt8, UInt16.toNat_shiftRight,
      eight, Nat.shiftLeft_eq, Nat.shiftRight_eq_div_pow]
    omega
  apply UInt16.toNat_inj.mp
  rw [UInt16.toNat_or, low, high, Nat.or_comm, ← Nat.two_pow_add_eq_or_of_lt (by omega)]
  omega

/-- A frame the codec made of a payload by the writes. -/
structure Encoded (frame : BusFrame) (address : UInt32) (bus : UInt8) (data : Vector UInt8 size)
    (writes : List SignalWrite) : Prop where
  address : frame.address = address
  bus : frame.bus = bus
  fd : frame.fd = true
  extended : frame.extended = false
  size : frame.size = UInt8.ofNat size
  checksum : frame.checksumValid = some true
  bits : ∀ bit, 16 ≤ bit →
    bitAt frame.data bit = BitField.overlay (writes.map SignalWrite.assignment) (bitAt data) bit

theorem encodeFrame_encoded (sized : size = 8 ∨ size = 16 ∨ size = 24 ∨ size = 32)
    (fits : ∀ write ∈ writes, write.Fits size) (address : UInt32) (bus : UInt8)
    (data : Vector UInt8 size) :
    ∃ frame, encodeFrame address bus data writes = some frame ∧
      Encoded frame address bus data writes := by
  have small : size ≤ 64 := by omega
  obtain ⟨written, wrote, bits⟩ := setSignals_bits fits data
  obtain ⟨crc, summed⟩ := @checksum_sized size written address 0 sized
  have stamped : writeChecksum address written =
      some ((written.setIfInBounds 0 (crc &&& 0xFF).toUInt8).setIfInBounds 1
        (crc >>> 8).toUInt8) := by
    rw [writeChecksum, summed]
    rfl
  generalize carries : (written.setIfInBounds 0 (crc &&& 0xFF).toUInt8).setIfInBounds 1
    (crc >>> 8).toUInt8 = payload at stamped
  have kept (index : Nat) (above : 2 ≤ index) : payload.getD index 0 = written.getD index 0 := by
    subst carries
    by_cases inside : index < size
    · have notZero : 0 ≠ index := by omega
      have notOne : 1 ≠ index := by omega
      simp [Vector.getD, inside, notZero, notOne]
    · simp [Vector.getD, inside]
  have first : payload.getD 0 0 = (crc &&& 0xFF).toUInt8 := by
    subst carries
    have inside : 0 < size := by omega
    simp [Vector.getD, inside]
  have second : payload.getD 1 0 = (crc >>> 8).toUInt8 := by
    subst carries
    have inside : 1 < size := by omega
    simp [Vector.getD, inside]
  refine ⟨finishFrame address bus payload, ?_, rfl, rfl, rfl, rfl, rfl, ?_, ?_⟩
  · simp only [encodeFrame, wrote, stamped, Option.map_some]
  · have same : (finishFrame address bus payload).checksum = some crc := by
      rw [← summed]
      refine checksum_congr rfl rfl fun index above => ?_
      rw [finishFrame_byte small, finishFrame_byte small, kept index above]
    have supported : ((finishFrame address bus payload).size != 8 &&
        (finishFrame address bus payload).size != 16 &&
        (finishFrame address bus payload).size != 24 &&
        (finishFrame address bus payload).size != 32) = false := by
      rcases sized with rfl | rfl | rfl | rfl <;> rfl
    unfold CanFrame.checksumValid
    rw [supported]
    simp only [Bool.false_eq_true, if_false]
    rw [same, finishFrame_byte small, finishFrame_byte small, first, second, split_checksum]
    simp
  · intro bit above
    rw [finishFrame_bit small, bitAt, kept _ (by omega), ← bits, bitAt]

variable {frame : BusFrame}

theorem encodeFrame_address (encodes : encodeFrame address bus data writes = some frame) :
    frame.address = address := by
  unfold encodeFrame at encodes
  split at encodes
  · cases encodes
  · obtain ⟨stamped, -, rfl⟩ := Option.map_eq_some_iff.mp encodes
    rfl

theorem encodeFrame_some (sized : size = 8 ∨ size = 16 ∨ size = 24 ∨ size = 32)
    (fits : ∀ write ∈ writes, write.Fits size)
    (encodes : encodeFrame address bus data writes = some frame) :
    Encoded frame address bus data writes := by
  obtain ⟨other, same, encoded⟩ := encodeFrame_encoded sized fits address bus data
  cases Option.some.inj (encodes.symm.trans same)
  exact encoded

theorem Encoded.reads (encoded : Encoded frame address bus data writes)
    (disjoint : (ownedBits writes).Nodup) (above : ∀ bit ∈ ownedBits writes, 16 ≤ bit)
    (small : size ≤ 64) {write : SignalWrite} (fits : write.Fits size) (member : write ∈ writes) :
    getSignalIn write.order frame.data write.startBit write.bitLength =
      some (.ofNat (write.raw.toNat % 2 ^ write.bitLength)) := by
  have inFrame : SignalFits write.order write.startBit write.bitLength 64 :=
    ⟨fits.positive, fits.word, fits.distinct, fun bit inField => by
      have within := fits.inside bit inField
      omega⟩
  have assigned : write.assignment ∈ writes.map SignalWrite.assignment :=
    List.mem_map_of_mem member
  have value := BitField.read_overlay _ disjoint assigned (bitAt data)
  rw [getSignalIn_bits inFrame]
  congr 2
  refine (BitField.read_congr fun bit inField => ?_).trans
    (value.trans (by simp [SignalWrite.assignment]))
  exact encoded.bits bit (above bit (List.mem_flatMap.mpr ⟨_, assigned, inField⟩))

theorem Encoded.unowned (encoded : Encoded frame address bus data writes) {bit : Nat}
    (above : 16 ≤ bit) (outside : bit ∉ ownedBits writes) :
    bitAt frame.data bit = bitAt data bit := by
  rw [encoded.bits bit above, BitField.overlay_outside _ outside]

end Encoding
end Ioniq5Ecan
