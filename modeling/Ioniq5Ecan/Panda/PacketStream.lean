import Mathlib.Data.Nat.Bitwise
import Ioniq5Ecan.Library.Framing
import Ioniq5Ecan.Vehicle.ButtonFrames

/-! # CAN packets on the Panda's USB endpoints

`pack_frames`, `unpack_frames` and `decode_bulk_read`.  A packet is a header of
six bytes, with the DLC, the bus, the address and a checksum, and the payload.
Byte vectors are lists; an exception is the text it carries. -/
set_option autoImplicit false
namespace Ioniq5Ecan

open Library (Scan drain Encodes Undecoded feed feed_starts)

/-- `CanFrame` with its two remaining flags. -/
structure BusFrame extends CanFrame where
  fd : Bool := false
  extended : Bool := false
  deriving DecidableEq

/-- `RawCanFrame.msg`, without its time stamp. -/
structure RawCanFrame where
  address : UInt32
  bus : UInt8
  fd : Bool
  extended : Bool
  returned : Bool
  rejected : Bool
  data : List UInt8
  deriving DecidableEq

def canHeaderSize : Nat := 6

def dlcToLength : List UInt8 := [0, 1, 2, 3, 4, 5, 6, 7, 8, 12, 16, 20, 24, 32, 48, 64]

def lengthToDlc (length : UInt8) : Except String UInt8 :=
  match dlcToLength.findIdx? (· == length) with
  | some index => .ok (UInt8.ofNat index)
  | none => .error "CAN-FD payload length is not representable by a DLC"

def xorChecksum (data : List UInt8) : UInt8 := data.foldl (· ^^^ ·) 0

/-! ## Packing -/

namespace BusFrame

def addressable (frame : BusFrame) : Bool :=
  !(decide (7 < frame.bus) || decide (0x20000000 ≤ frame.address) ||
    (!frame.extended && decide (0x800 ≤ frame.address)))

/-- The address with the three flag bits below it. -/
def word (frame : BusFrame) : UInt32 := (frame.address <<< 3) ||| (if frame.extended then 4 else 0)

def payload (frame : BusFrame) : List UInt8 := frame.data.toList.take frame.size.toNat

/-- The header up to its checksum. -/
def header (frame : BusFrame) (dlc : UInt8) : List UInt8 :=
  [(dlc <<< 4) ||| (frame.bus <<< 1) ||| (if frame.fd then 1 else 0),
    (frame.word &&& 0xFF).toUInt8, ((frame.word >>> 8) &&& 0xFF).toUInt8,
    ((frame.word >>> 16) &&& 0xFF).toUInt8, ((frame.word >>> 24) &&& 0xFF).toUInt8]

end BusFrame

/-- One round of the loop of `pack_frames_into`; the checksum is taken over its own zero. -/
def packFrame (frame : BusFrame) : Except String (List UInt8) :=
  if !frame.addressable then .error "invalid Panda CAN address or bus"
  else
    match lengthToDlc frame.size with
    | .error what => .error what
    | .ok dlc =>
        let header := frame.header dlc
        .ok (header ++ xorChecksum (header ++ 0 :: frame.payload) :: frame.payload)

def packFrames : List BusFrame → Except String (List UInt8)
  | [] => .ok []
  | frame :: rest =>
      match packFrame frame with
      | .error what => .error what
      | .ok packet =>
          match packFrames rest with
          | .error what => .error what
          | .ok packets => .ok (packet ++ packets)

/-! ## Unpacking -/

def hexByte (byte : UInt8) : String :=
  String.ofList [Nat.digitChar (byte >>> 4).toNat, Nat.digitChar (byte &&& 15).toNat]

def checksumFailure (position : Nat) (bytes : List UInt8) (packetSize : Nat) : String :=
  "Panda USB CAN packet checksum failure: offset=" ++ toString position ++ " buffered=" ++
    toString (position + bytes.length) ++ " packet_size=" ++ toString packetSize ++ " header=" ++
    String.join ((bytes.take canHeaderSize).map hexByte)

def wordAt (bytes : List UInt8) : UInt32 :=
  (bytes.getD 1 0).toUInt32 ||| ((bytes.getD 2 0).toUInt32 <<< 8) |||
    ((bytes.getD 3 0).toUInt32 <<< 16) ||| ((bytes.getD 4 0).toUInt32 <<< 24)

/-- The frame of a complete packet at the front of the buffer. -/
def frameAt (receivedAt : TimePoint) (length : UInt8) (bytes : List UInt8) : BusFrame where
  fd := bytes.getD 0 0 &&& 1 != 0
  bus := (bytes.getD 0 0 >>> 1) &&& 7
  extended := wordAt bytes &&& 4 != 0
  rejected := bytes.getD 1 0 &&& 1 != 0
  returned := bytes.getD 1 0 &&& 2 != 0
  address := wordAt bytes >>> 3
  size := length
  receivedAt := receivedAt
  data := .ofFn fun index =>
    if index.val < length.toNat then bytes.getD (canHeaderSize + index.val) 0 else 0

def scanPacket (receivedAt : TimePoint) (position : Nat) (bytes : List UInt8) :
    Scan BusFrame String :=
  if bytes.length < canHeaderSize then .incomplete
  else
    match dlcToLength[(bytes.getD 0 0 >>> 4).toNat]? with
    | none => .failed "invalid DLC in Panda CAN packet"
    | some length =>
        let packetSize := canHeaderSize + length.toNat
        if bytes.length < packetSize then .incomplete
        else if xorChecksum (bytes.take packetSize) != 0 then
          .failed (checksumFailure position bytes packetSize)
        else .packet (frameAt receivedAt length bytes) packetSize

/-- The new carry, and the frames or the exception; an exception leaves no carry. -/
def unpackFrames (carry bytes : List UInt8) (receivedAt : TimePoint) :
    List UInt8 × Except String (List BusFrame) :=
  match drain (scanPacket receivedAt) (carry ++ bytes).length 0 (carry ++ bytes) with
  | .error what => ([], .error what)
  | .ok (frames, rest) => (rest, .ok frames)

def libusbErrorTimeout : Int := -7

/-- A read buffer, as long as its capacity, and what `libusb_bulk_transfer` reports about it. -/
structure BulkRead where
  bytes : List UInt8
  status : Int
  transferred : Int
  receivedAt : TimePoint

def decodeBulkRead (libusbErrorName : Int → String) (carry : List UInt8) (read : BulkRead) :
    List UInt8 × Except String (List BusFrame) :=
  if read.status ≠ 0 ∧ read.status ≠ libusbErrorTimeout then
    (carry, .error ("Red Panda CAN read failed: " ++ libusbErrorName read.status))
  else if read.transferred < 0 ∨ (read.bytes.length : Int) < read.transferred then
    (carry, .error "Red Panda CAN read returned an invalid byte count")
  else unpackFrames carry (read.bytes.take read.transferred.toNat) read.receivedAt

/-- Successive reads until one throws, with all frames they returned. -/
def decodeReads (libusbErrorName : Int → String) :
    List UInt8 → List BulkRead → List UInt8 × Except String (List BusFrame)
  | carry, [] => (carry, .ok [])
  | carry, read :: reads =>
      match decodeBulkRead libusbErrorName carry read with
      | (rest, .error what) => (rest, .error what)
      | (rest, .ok frames) =>
          match decodeReads libusbErrorName rest reads with
          | (last, .error what) => (last, .error what)
          | (last, .ok more) => (last, .ok (frames ++ more))

/-! ## The header -/

theorem lengthToDlc_sound {length dlc : UInt8} (found : lengthToDlc length = .ok dlc) :
    dlc < 16 ∧ dlcToLength[dlc.toNat]? = some length := by
  unfold lengthToDlc at found
  split at found
  · rename_i index at'
    cases found
    obtain ⟨inside, isLength, _⟩ := List.findIdx?_eq_some_iff_getElem.mp at'
    have bounded : index < 16 := inside
    have same : (UInt8.ofNat index).toNat = index := by
      rw [UInt8.toNat_ofNat']
      omega
    refine ⟨UInt8.lt_iff_toNat_lt.mpr (by rw [same]; exact bounded), ?_⟩
    rw [same, List.getElem?_eq_getElem inside]
    exact congrArg some (by simpa using isLength)
  · cases found

theorem first_byte {dlc bus : UInt8} (isDlc : dlc < 16) (isBus : bus ≤ 7) (fd : Bool) :
    ((dlc <<< 4) ||| (bus <<< 1) ||| (if fd then 1 else 0)) >>> 4 = dlc ∧
      (((dlc <<< 4) ||| (bus <<< 1) ||| (if fd then 1 else 0)) >>> 1) &&& 7 = bus ∧
      (((dlc <<< 4) ||| (bus <<< 1) ||| (if fd then 1 else 0)) &&& 1 != 0) = fd := by
  have all : ∀ dlc < 16, ∀ bus < 8, ∀ fd : Bool,
      let first := ((UInt8.ofNat dlc <<< 4) ||| (UInt8.ofNat bus <<< 1) ||| (if fd then 1 else 0))
      first >>> 4 = UInt8.ofNat dlc ∧ (first >>> 1) &&& 7 = UInt8.ofNat bus ∧
        (first &&& 1 != 0) = fd := by decide +kernel
  have some := all dlc.toNat (UInt8.lt_iff_toNat_lt.mp isDlc) bus.toNat
    (Nat.lt_succ_of_le (UInt8.le_iff_toNat_le.mp isBus)) fd
  simpa only [UInt8.ofNat_toNat] using some

theorem bytes_join {number : Nat} (bounded : number < 2 ^ 32) :
    number % 2 ^ 8 % 2 ^ 8 ||| (number >>> 8 % 2 ^ 8 % 2 ^ 8) <<< 8 % 2 ^ 32 |||
      (number >>> 16 % 2 ^ 8 % 2 ^ 8) <<< 16 % 2 ^ 32 |||
      (number >>> 24 % 2 ^ 8 % 2 ^ 8) <<< 24 % 2 ^ 32 = number := by
  apply Nat.eq_of_testBit_eq
  intro index
  simp only [Nat.testBit_or, Nat.testBit_mod_two_pow, Nat.testBit_shiftLeft, Nat.testBit_shiftRight]
  by_cases inside : index < 32
  · rcases (by omega : index < 8 ∨ 8 ≤ index ∧ index < 16 ∨ 16 ≤ index ∧ index < 24 ∨ 24 ≤ index)
      with byte | byte | byte | byte
    all_goals simp [byte]
    all_goals grind
  · have high : number.testBit index = false :=
      Nat.testBit_lt_two_pow (Nat.lt_of_lt_of_le bounded (Nat.pow_le_pow_right (by omega) (by omega)))
    grind

theorem word_join (word : UInt32) :
    (word &&& 0xFF).toUInt8.toUInt32 ||| (((word >>> 8) &&& 0xFF).toUInt8.toUInt32 <<< 8) |||
      (((word >>> 16) &&& 0xFF).toUInt8.toUInt32 <<< 16) |||
      (((word >>> 24) &&& 0xFF).toUInt8.toUInt32 <<< 24) = word := by
  have low (number : Nat) : number &&& 255 = number % 2 ^ 8 := Nat.and_two_pow_sub_one_eq_mod number 8
  apply UInt32.toNat_inj.mp
  simp
  simp only [low]
  exact bytes_join word.toNat_lt

section Word
variable {frame : BusFrame}

theorem addressable_iff : frame.addressable = true ↔
    frame.bus ≤ 7 ∧ frame.address < 0x20000000 ∧ (frame.extended = true ∨ frame.address < 0x800) := by
  simp [BusFrame.addressable, and_assoc]

theorem word_address (bounded : frame.address < 0x20000000) : frame.word >>> 3 = frame.address := by
  have inRange : frame.address.toNat < 536870912 := UInt32.lt_iff_toNat_lt.mp bounded
  have noWrap : frame.address.toNat <<< 3 % 4294967296 = frame.address.toNat <<< 3 := by
    rw [Nat.shiftLeft_eq]
    omega
  have drops (number : Nat) : (number <<< 3 ||| 4) >>> 3 = number := by
    rw [Nat.shiftRight_or_distrib]
    simp
  apply UInt32.toNat_inj.mp
  unfold BusFrame.word
  cases frame.extended <;> simp [noWrap, drops]

theorem word_toNat : frame.word.toNat =
    frame.address.toNat <<< 3 % 2 ^ 32 ||| (if frame.extended then 4 else 0) := by
  unfold BusFrame.word
  cases frame.extended <;> simp

theorem word_bits : frame.word.toNat.testBit 0 = false ∧ frame.word.toNat.testBit 1 = false ∧
    frame.word.toNat.testBit 2 = frame.extended := by
  simp only [word_toNat, Nat.testBit_or, Nat.testBit_mod_two_pow, Nat.testBit_shiftLeft]
  cases frame.extended <;> refine ⟨?_, ?_, ?_⟩ <;> rfl

theorem flag_of_bit {byte : UInt8} {index : Nat} (low : index < 8) (clear : byte.toNat.testBit index = false) :
    byte &&& UInt8.ofNat (2 ^ index) = 0 := by
  apply UInt8.toNat_inj.mp
  have small : 2 ^ index < 256 := Nat.pow_lt_pow_of_lt (by omega) low
  rw [UInt8.toNat_and, UInt8.toNat_ofNat', Nat.mod_eq_of_lt small, Nat.and_two_pow, clear]
  exact Nat.zero_mul _

theorem word_extended : (frame.word &&& 4 != 0) = frame.extended := by
  have bit : (frame.word &&& 4).toNat = frame.extended.toNat * 4 := by
    rw [UInt32.toNat_and, ← word_bits.2.2]
    exact Nat.and_two_pow frame.word.toNat 2
  cases extended : frame.extended with
  | true =>
      rw [bne_iff_ne]
      intro zero
      rw [zero, extended] at bit
      cases bit
  | false =>
      rw [extended] at bit
      have zero : frame.word &&& 4 = 0 := UInt32.toNat_inj.mp bit
      rw [zero]
      rfl

theorem low_byte : (frame.word &&& 0xFF).toUInt8 &&& 1 = 0 ∧
    (frame.word &&& 0xFF).toUInt8 &&& 2 = 0 := by
  have same : (frame.word &&& 0xFF).toUInt8.toNat = frame.word.toNat % 2 ^ 8 % 2 ^ 8 := by
    rw [UInt32.toNat_toUInt8, UInt32.toNat_and]
    exact congrArg (· % 2 ^ 8) (Nat.and_two_pow_sub_one_eq_mod frame.word.toNat 8)
  obtain ⟨rejected, returned, _⟩ := @word_bits frame
  constructor
  · refine flag_of_bit (by omega : 0 < 8) ?_
    simp only [same, Nat.testBit_mod_two_pow, rejected, Bool.and_false]
  · refine flag_of_bit (by omega : 1 < 8) ?_
    simp only [same, Nat.testBit_mod_two_pow, returned, Bool.and_false]

end Word

/-! ## The checksum -/

theorem xor_from (data : List UInt8) : ∀ start : UInt8,
    data.foldl (· ^^^ ·) start = start ^^^ xorChecksum data := by
  induction data with
  | nil => intro start; simp [xorChecksum]
  | cons byte data ih =>
      intro start
      have here : xorChecksum (byte :: data) = byte ^^^ xorChecksum data := by
        rw [← ih byte]
        simp [xorChecksum]
      rw [here, List.foldl_cons, ih, UInt8.xor_assoc]

theorem xorChecksum_append (first second : List UInt8) :
    xorChecksum (first ++ second) = xorChecksum first ^^^ xorChecksum second := by
  unfold xorChecksum
  rw [List.foldl_append, xor_from]
  rfl

theorem xorChecksum_cons (byte : UInt8) (data : List UInt8) :
    xorChecksum (byte :: data) = byte ^^^ xorChecksum data := by
  rw [← xor_from]
  simp [xorChecksum]

/-- The checksum cancels what it was taken over. -/
theorem xorChecksum_closed (first second : List UInt8) :
    xorChecksum (first ++ xorChecksum (first ++ 0 :: second) :: second) = 0 := by
  simp only [xorChecksum_append, xorChecksum_cons, UInt8.zero_xor]
  rw [UInt8.xor_assoc (xorChecksum first), UInt8.xor_self, UInt8.xor_zero, UInt8.xor_self]

/-! ## One packet -/

namespace BusFrame

/-- The frame as the other end of the stream sees it. -/
def sent (frame : BusFrame) : BusFrame :=
  { frame with
    returned := false
    rejected := false
    receivedAt := 0
    data := .ofFn fun index =>
      if index.val < frame.size.toNat then frame.data.getD index.val 0 else 0 }

def untimed (frame : BusFrame) : BusFrame := { frame with receivedAt := 0 }

end BusFrame

section Packet
variable {frame : BusFrame} {packet : List UInt8}

theorem packFrame_parts (packed : packFrame frame = .ok packet) :
    frame.addressable = true ∧ ∃ dlc, lengthToDlc frame.size = .ok dlc ∧
      packet = frame.header dlc ++
        xorChecksum (frame.header dlc ++ 0 :: frame.payload) :: frame.payload := by
  unfold packFrame at packed
  split at packed
  · cases packed
  · rename_i addressable
    split at packed
    · cases packed
    · rename_i dlc found
      cases packed
      exact ⟨by simpa using addressable, dlc, found, rfl⟩

theorem size_le (found : ∃ dlc, lengthToDlc frame.size = .ok dlc) : frame.size.toNat ≤ 64 := by
  obtain ⟨dlc, found⟩ := found
  have member := List.mem_of_getElem? (lengthToDlc_sound found).2
  have all : (dlcToLength.all fun length => decide (length.toNat ≤ 64)) = true := by decide
  exact of_decide_eq_true (List.all_eq_true.mp all _ member)

theorem packet_length (packed : packFrame frame = .ok packet) :
    packet.length = canHeaderSize + frame.size.toNat := by
  obtain ⟨_, dlc, found, rfl⟩ := packFrame_parts packed
  have bounded := size_le ⟨dlc, found⟩
  simp [BusFrame.header, BusFrame.payload, canHeaderSize]
  omega

theorem packet_dlc (packed : packFrame frame = .ok packet) (rest : List UInt8) :
    dlcToLength[((packet ++ rest).getD 0 0 >>> 4).toNat]? = some frame.size := by
  obtain ⟨addressable, dlc, found, rfl⟩ := packFrame_parts packed
  obtain ⟨isDlc, isLength⟩ := lengthToDlc_sound found
  have first := (first_byte isDlc (addressable_iff.mp addressable).1 frame.fd).1
  simp only [BusFrame.header, List.cons_append, List.getD_cons_zero]
  rw [first, isLength]

theorem payload_byte (sized : frame.size.toNat ≤ 64) (dlc checksum : UInt8) (rest : List UInt8)
    {index : Nat} (inside : index < frame.size.toNat) :
    (frame.header dlc ++ checksum :: frame.payload ++ rest).getD (canHeaderSize + index) 0 =
      frame.data.getD index 0 := by
  have skip : (frame.header dlc ++ checksum :: frame.payload ++ rest).getD
      (canHeaderSize + index) 0 = (frame.payload ++ rest).getD index 0 := by
    rw [Nat.add_comm]
    rfl
  have inData : index < 64 := by omega
  rw [skip]
  simp [BusFrame.payload, List.getD_eq_getElem?_getD, List.getElem?_append, inside, inData,
    Vector.getD]

theorem frameAt_packet (packed : packFrame frame = .ok packet) (receivedAt : TimePoint)
    (rest : List UInt8) :
    (frameAt receivedAt frame.size (packet ++ rest)).untimed = frame.sent := by
  obtain ⟨addressable, dlc, found, rfl⟩ := packFrame_parts packed
  obtain ⟨isBus, isAddress, _⟩ := addressable_iff.mp addressable
  obtain ⟨_, bus, fd⟩ := first_byte (lengthToDlc_sound found).1 isBus frame.fd
  obtain ⟨rejected, returned⟩ := @low_byte frame
  have payload := @payload_byte frame (size_le ⟨dlc, found⟩) dlc
    (xorChecksum (frame.header dlc ++ 0 :: frame.payload)) rest
  have word : wordAt (frame.header dlc ++ xorChecksum (frame.header dlc ++ 0 :: frame.payload) ::
      frame.payload ++ rest) = frame.word := word_join frame.word
  have data : (frameAt receivedAt frame.size (frame.header dlc ++
      xorChecksum (frame.header dlc ++ 0 :: frame.payload) :: frame.payload ++ rest)).data =
      frame.sent.data := by
    refine congrArg Vector.ofFn (funext fun index => ?_)
    split
    · rename_i inside
      exact payload inside
    · rfl
  have fields : ∀ {left right : BusFrame}, left.address = right.address → left.bus = right.bus →
      left.returned = right.returned → left.rejected = right.rejected → left.size = right.size →
      left.data = right.data → left.receivedAt = right.receivedAt → left.fd = right.fd →
      left.extended = right.extended → left = right := by
    rintro ⟨⟨_, _, _, _, _, _, _⟩, _, _⟩ ⟨⟨_, _, _, _, _, _, _⟩, _, _⟩
    rintro rfl rfl rfl rfl rfl rfl rfl rfl rfl
    rfl
  refine fields ?_ bus ?_ ?_ rfl data rfl fd ?_
  · show wordAt _ >>> 3 = frame.address
    rw [word, word_address isAddress]
  · show ((frame.word &&& 0xFF).toUInt8 &&& 2 != 0) = false
    rw [returned]
    rfl
  · show ((frame.word &&& 0xFF).toUInt8 &&& 1 != 0) = false
    rw [rejected]
    rfl
  · show (wordAt _ &&& 4 != 0) = frame.extended
    rw [word, word_extended]

theorem packet_encodes (packed : packFrame frame = .ok packet) :
    Encodes scanPacket BusFrame.untimed packet frame.sent where
  nonempty := by
    rw [packet_length packed]
    exact Nat.lt_of_lt_of_le (by decide) (Nat.le_add_right canHeaderSize _)
  complete := by
    intro receivedAt position rest
    have length := packet_length packed
    have enough : ¬ (packet ++ rest).length < canHeaderSize := by
      rw [List.length_append]
      omega
    have whole : ¬ (packet ++ rest).length < canHeaderSize + frame.size.toNat := by
      rw [List.length_append]
      omega
    have closed : xorChecksum ((packet ++ rest).take (canHeaderSize + frame.size.toNat)) = 0 := by
      rw [← length, List.take_left]
      obtain ⟨_, dlc, _, rfl⟩ := packFrame_parts packed
      exact xorChecksum_closed _ _
    refine ⟨frameAt receivedAt frame.size (packet ++ rest), ?_, frameAt_packet packed receivedAt rest⟩
    simp only [scanPacket, if_neg enough, packet_dlc packed rest, if_neg whole, closed]
    rw [length]
    rfl
  cut := by
    intro receivedAt position bytes starts short
    unfold scanPacket
    by_cases enough : bytes.length < canHeaderSize
    · rw [if_pos enough]
    · have length := packet_length packed
      have first : bytes.getD 0 0 = packet.getD 0 0 := by
        obtain ⟨tail, rfl⟩ := starts
        cases bytes with
        | nil => exact absurd (by decide) enough
        | cons byte bytes => rfl
      have dlc : dlcToLength[(bytes.getD 0 0 >>> 4).toNat]? = some frame.size := by
        rw [first]
        simpa using packet_dlc packed []
      simp only [if_neg enough, dlc]
      rw [if_pos (by omega)]

end Packet

/-! ## The stream -/

namespace BulkRead

def delivered (read : BulkRead) : List UInt8 := read.bytes.take read.transferred.toNat

/-- A transfer that succeeded or ran into its timeout. -/
structure Completes (read : BulkRead) : Prop where
  status : read.status = 0 ∨ read.status = libusbErrorTimeout
  count : 0 ≤ read.transferred ∧ read.transferred ≤ read.bytes.length

end BulkRead

section Stream
variable {libusbErrorName : Int → String}

theorem packFrames_packets {frames : List BusFrame} : ∀ {bytes : List UInt8},
    packFrames frames = .ok bytes →
      ∃ packets, List.Forall₂ (fun frame packet => packFrame frame = .ok packet) frames packets ∧
        bytes = packets.flatten := by
  induction frames with
  | nil =>
      intro bytes packed
      cases packed
      exact ⟨[], .nil, rfl⟩
  | cons frame frames ih =>
      intro bytes packed
      unfold packFrames at packed
      split at packed
      · cases packed
      · rename_i packet first
        split at packed
        · cases packed
        · rename_i rest others
          cases packed
          obtain ⟨packets, all, rfl⟩ := ih others
          exact ⟨packet :: packets, .cons first all, rfl⟩

theorem packFrames_of_packets {frames : List BusFrame} {packets : List (List UInt8)}
    (all : List.Forall₂ (fun frame packet => packFrame frame = .ok packet) frames packets) :
    packFrames frames = .ok packets.flatten := by
  induction all with
  | nil => rfl
  | cons first _ ih => simp only [packFrames, first, ih, List.flatten_cons]

theorem packets_encode {frames : List BusFrame} {packets : List (List UInt8)}
    (all : List.Forall₂ (fun frame packet => packFrame frame = .ok packet) frames packets) :
    List.Forall₂ (Encodes scanPacket BusFrame.untimed) packets (frames.map BusFrame.sent) := by
  induction all with
  | nil => exact .nil
  | cons first _ ih => exact .cons (packet_encodes first) ih

theorem scanPacket_waits (receivedAt : TimePoint) (position : Nat) :
    scanPacket receivedAt position [] = .incomplete := rfl

/-- Reads that complete feed their bytes to the scanner. -/
theorem decodeReads_feed {reads : List BulkRead} : ∀ {carry rest : List UInt8}
    {decoded : List BusFrame}, (∀ read ∈ reads, read.Completes) →
      feed scanPacket carry (reads.map fun read => (read.receivedAt, read.delivered)) =
        .ok (decoded, rest) →
      decodeReads libusbErrorName carry reads = (rest, .ok decoded) := by
  induction reads with
  | nil =>
      intro carry rest decoded _ fed
      cases fed
      rfl
  | cons read reads ih =>
      intro carry rest decoded completes fed
      obtain ⟨⟨status, count⟩, others⟩ := List.forall_mem_cons.mp completes
      have decodes : decodeBulkRead libusbErrorName carry read =
          unpackFrames carry read.delivered read.receivedAt := by
        unfold decodeBulkRead
        rw [if_neg (by omega), if_neg (by omega)]
        rfl
      simp only [List.map_cons, feed] at fed
      split at fed
      · cases fed
      · rename_i values left drained
        split at fed
        · cases fed
        · rename_i more last later
          cases fed
          simp only [decodeReads, decodes, unpackFrames, drained, ih others later]

/-- What a decoder that received these bytes has decoded, and that its carry is the suffix that
no complete packet is in. -/
structure PartlyDecoded (frames : List BusFrame) (received carry : List UInt8)
    (decoded : List BusFrame) (count : Nat) : Prop where
  content : decoded.map BusFrame.untimed = (frames.take count).map BusFrame.sent
  split : ∃ packed, packFrames (frames.take count) = .ok packed ∧ received = packed ++ carry
  short : ∀ frame ∈ (frames.drop count).head?, carry.length < canHeaderSize + frame.size.toNat

theorem partly_decoded {frames : List BusFrame} {packets : List (List UInt8)}
    {reads : List BulkRead}
    (all : List.Forall₂ (fun frame packet => packFrame frame = .ok packet) frames packets)
    (completes : ∀ read ∈ reads, read.Completes)
    (starts : (reads.map BulkRead.delivered).flatten <+: packets.flatten) :
    ∃ carry decoded count, decodeReads libusbErrorName [] reads = (carry, .ok decoded) ∧
      PartlyDecoded frames (reads.map BulkRead.delivered).flatten carry decoded count ∧
      count ≤ packets.length ∧ Undecoded packets count carry ∧
      (reads.map BulkRead.delivered).flatten = (packets.take count).flatten ++ carry := by
  have delivered : (reads.map fun read => (read.receivedAt, read.delivered)).map Prod.snd =
      reads.map BulkRead.delivered := by simp
  have nothing : Undecoded packets 0 [] := by
    refine ⟨List.nil_prefix, ?_⟩
    intro next isNext
    obtain ⟨frame, _, packed⟩ : ∃ frame ∈ frames, packFrame frame = .ok next := by
      cases all with
      | nil => cases isNext
      | cons first =>
          cases isNext
          exact ⟨_, List.mem_cons_self .., first⟩
    rw [packet_length packed]
    exact Nat.lt_of_lt_of_le (by decide) (Nat.le_add_right canHeaderSize _)
  obtain ⟨decoded, carry, count, fed, viewed, split, most, undecoded⟩ :=
    feed_starts scanPacket_waits (reads.map fun read => (read.receivedAt, read.delivered)) packets
      (frames.map BusFrame.sent) [] (packets_encode all) nothing (by simpa [delivered] using starts)
  rw [delivered, List.nil_append] at split
  refine ⟨carry, decoded, count, decodeReads_feed completes fed, ⟨?_, ?_, ?_⟩, most, undecoded, split⟩
  · rw [viewed, List.map_take]
  · exact ⟨_, packFrames_of_packets (List.forall₂_take count all), split⟩
  · intro frame isNext
    have later := List.forall₂_drop count all
    cases remaining : frames.drop count with
    | nil => rw [remaining] at isNext; cases isNext
    | cons next others =>
        rw [remaining] at isNext later
        cases isNext
        obtain ⟨packet, rest, packed, _, left⟩ := List.forall₂_cons_left_iff.mp later
        rw [← packet_length packed]
        exact undecoded.short packet (by rw [left]; rfl)

/-- However the packed bytes are cut into reads, the frames come out in order, the carry is the
undecoded suffix at every cut, and it is empty at the end. -/
theorem packet_stream_roundTrip (frames : List BusFrame) (bytes : List UInt8)
    (reads : List BulkRead) (packed : packFrames frames = .ok bytes)
    (completes : ∀ read ∈ reads, read.Completes)
    (cut : (reads.map BulkRead.delivered).flatten = bytes) :
    (∃ decoded, decodeReads libusbErrorName [] reads = ([], .ok decoded) ∧
      decoded.map BusFrame.untimed = frames.map BusFrame.sent) ∧
    ∀ first last, reads = first ++ last → ∃ carry decoded count,
      decodeReads libusbErrorName [] first = (carry, .ok decoded) ∧
        PartlyDecoded frames (first.map BulkRead.delivered).flatten carry decoded count := by
  obtain ⟨packets, all, rfl⟩ := packFrames_packets packed
  constructor
  · obtain ⟨carry, decoded, count, decodes, parts, most, undecoded, split⟩ :=
      partly_decoded all completes (cut ▸ List.prefix_rfl)
    obtain ⟨rfl, rfl⟩ := undecoded.whole most (cut.symm.trans split)
    refine ⟨decoded, decodes, ?_⟩
    rw [parts.content, ← all.length_eq, List.take_length]
  · rintro first last rfl
    have starts : (first.map BulkRead.delivered).flatten <+: packets.flatten := by
      rw [← cut, List.map_append, List.flatten_append]
      exact List.prefix_append ..
    obtain ⟨carry, decoded, count, decodes, parts, _⟩ := partly_decoded all
      (fun read member => completes read (List.mem_append_left _ member)) starts
    exact ⟨carry, decoded, count, decodes, parts⟩

end Stream

/-! ## The frame of the protocol test, its header cut -/

def lfaFrame : BusFrame where
  address := 0x12A
  bus := 0
  fd := true
  size := 16
  data := .ofFn fun index => if index.val < 16 then UInt8.ofNat index.val else 0
  receivedAt := 0

def lfaPacket : List UInt8 :=
  [0xA1, 0x50, 0x09, 0, 0, 0xF8, 0, 1, 2, 3, 4, 5, 6, 7, 8, 9, 10, 11, 12, 13, 14, 15]

/-- Three bytes, a timeout without any, and the rest with a timeout. -/
def cutReads : List BulkRead :=
  [{ bytes := lfaPacket.take 3, status := 0, transferred := 3, receivedAt := 1 },
    { bytes := [0], status := libusbErrorTimeout, transferred := 0, receivedAt := 2 },
    { bytes := lfaPacket.drop 3, status := libusbErrorTimeout, transferred := 19, receivedAt := 3 }]

theorem cut_header_roundTrip :
    (∃ decoded, decodeReads (fun _ => "") [] cutReads = ([], .ok decoded) ∧
      decoded.map BusFrame.untimed = [lfaFrame].map BusFrame.sent) ∧
    ∀ first last, cutReads = first ++ last → ∃ carry decoded count,
      decodeReads (fun _ => "") [] first = (carry, .ok decoded) ∧
        PartlyDecoded [lfaFrame] (first.map BulkRead.delivered).flatten carry decoded count := by
  refine packet_stream_roundTrip [lfaFrame] lfaPacket cutReads (by decide +kernel) ?_ (by decide)
  simp only [cutReads, List.forall_mem_cons]
  exact ⟨⟨Or.inl rfl, by decide⟩, ⟨Or.inr rfl, by decide⟩, ⟨Or.inr rfl, by decide⟩, by simp⟩

end Ioniq5Ecan
