import Ioniq5Ecan.Panda.PacketStream
import Ioniq5Ecan.Library.BitFields
import Ioniq5Ecan.Library.Runs

/-! # The recorder's packets

`PacketDecoder.feed` of `can_logger.py` reads the stream that `unpack_frames`
reads, with its own table and its own integers.  `scan_drain` sets the two loops
side by side; `same_frames` is about every call of a stream. -/
set_option autoImplicit false
namespace Ioniq5Ecan

open Library

structure RawFrame where
  address : Nat
  bus : Nat
  fd : Bool
  extended : Bool
  returned : Bool
  rejected : Bool
  data : List UInt8
  unixTimeNs : Int
  monotonicTimeNs : Int
  rosTimeNs : Int
  deriving DecidableEq

structure ReadTimes where
  unixNs : Int
  monotonicNs : Int
  rosNs : Int

namespace PacketDecoder

def dlcLengths : List Nat := [0, 1, 2, 3, 4, 5, 6, 7, 8, 12, 16, 20, 24, 32, 48, 64]

def checksumError : String :=
  "Panda USB CAN checksum failure; capture stopped without reset/resync"

def rawFrame (times : ReadTimes) (packet : List UInt8) : RawFrame :=
  let first := (packet.getD 0 0).toNat
  let word := BitField.fromLittleEndian ((packet.drop 1).take 4)
  { address := word >>> 3
    bus := (first >>> 1) &&& 7
    fd := first &&& 1 != 0
    extended := word &&& 4 != 0
    returned := word &&& 2 != 0
    rejected := word &&& 1 != 0
    data := packet.drop 6
    unixTimeNs := times.unixNs
    monotonicTimeNs := times.monotonicNs
    rosTimeNs := times.rosNs }

/-- The loop of `feed`: the frames and the position behind them. -/
def scan (times : ReadTimes) (carry : List UInt8) (position : Nat) :
    Except String (List RawFrame × Nat) :=
  if carry.length - position < 6 then .ok ([], position)
  else
    let size := 6 + dlcLengths.getD ((carry.getD position 0).toNat >>> 4) 0
    if carry.length - position < size then .ok ([], position)
    else
      let packet := (carry.drop position).take size
      if packet.foldl (· ^^^ ·) 0 != 0 then .error checksumError
      else
        match scan times carry (position + size) with
        | .error what => .error what
        | .ok (frames, last) => .ok (rawFrame times packet :: frames, last)
  termination_by carry.length - position

/-- The new carry, and the frames or the exception. -/
def feed (carry data : List UInt8) (times : ReadTimes) :
    List UInt8 × Except String (List RawFrame) :=
  match scan times (carry ++ data) 0 with
  | .error what => ([], .error what)
  | .ok (frames, position) => ((carry ++ data).drop position, .ok frames)

end PacketDecoder

/-! ## One packet -/

structure SameFrame (frame : BusFrame) (raw : RawFrame) : Prop where
  address : raw.address = frame.address.toNat
  bus : raw.bus = frame.bus.toNat
  fd : raw.fd = frame.fd
  extended : raw.extended = frame.extended
  returned : raw.returned = frame.returned
  rejected : raw.rejected = frame.rejected
  payload : raw.data = frame.payload

section Packet
variable {bytes : List UInt8} {length : UInt8}

theorem dlc_same (first : UInt8) :
    ∃ length, dlcToLength[(first >>> 4).toNat]? = some length ∧
      PacketDecoder.dlcLengths.getD (first.toNat >>> 4) 0 = length.toNat ∧ length.toNat ≤ 64 := by
  have index : (first >>> 4).toNat = first.toNat >>> 4 := UInt8.toNat_shiftRight ..
  have short : first.toNat >>> 4 < 16 := by
    have bound := first.toNat_lt
    rw [Nat.shiftRight_eq_div_pow]
    omega
  have table : ∀ index < 16, ∃ length, dlcToLength[index]? = some length ∧
      PacketDecoder.dlcLengths.getD index 0 = length.toNat ∧ length.toNat ≤ 64 := by
    intro index short
    have inside : index < dlcToLength.length := short
    refine ⟨dlcToLength[index], List.getElem?_eq_getElem inside, ?_⟩
    revert index
    decide
  rw [index]
  exact table _ short

theorem toUInt32_shiftLeft (byte : UInt8) {place : Nat} (low : place ≤ 24) :
    (byte.toUInt32 <<< UInt32.ofNat place).toNat = 2 ^ place * byte.toNat := by
  have bound := byte.toNat_lt
  have power : 2 ^ place ≤ 2 ^ 24 := Nat.pow_le_pow_right (by decide) low
  have small : 2 ^ place * byte.toNat < 2 ^ 32 := by
    have product : 2 ^ place * byte.toNat ≤ 2 ^ 24 * byte.toNat := Nat.mul_le_mul_right _ power
    omega
  have shift : (UInt32.ofNat place).toNat % 32 = place := by
    rw [UInt32.toNat_ofNat']
    omega
  rw [UInt32.toNat_shiftLeft, UInt8.toNat_toUInt32, shift, Nat.shiftLeft_eq, Nat.mul_comm]
  exact Nat.mod_eq_of_lt small

theorem wordAt_toNat (long : 5 ≤ bytes.length) :
    (wordAt bytes).toNat = BitField.fromLittleEndian ((bytes.drop 1).take 4) := by
  match bytes, long with
  | header :: first :: second :: third :: fourth :: rest, _ =>
      have firstBound := first.toNat_lt
      have secondBound := second.toNat_lt
      have thirdBound := third.toNat_lt
      have read : BitField.fromLittleEndian [first, second, third, fourth] =
          first.toNat + 2 ^ 8 * second.toNat + 2 ^ 16 * third.toNat + 2 ^ 24 * fourth.toNat := by
        simp only [BitField.fromLittleEndian]
        omega
      have join (low high place : Nat) (below : low < 2 ^ place) :
          low ||| 2 ^ place * high = low + 2 ^ place * high := by
        rw [Nat.or_comm, ← Nat.two_pow_add_eq_or_of_lt below, Nat.add_comm]
      have two := @toUInt32_shiftLeft second 8 (by decide)
      have three := @toUInt32_shiftLeft third 16 (by decide)
      have four := @toUInt32_shiftLeft fourth 24 (by decide)
      have word : (wordAt (header :: first :: second :: third :: fourth :: rest)).toNat =
          ((first.toNat ||| 2 ^ 8 * second.toNat) ||| 2 ^ 16 * third.toNat) |||
            2 ^ 24 * fourth.toNat := by
        rw [← two, ← three, ← four, ← UInt8.toNat_toUInt32 first, ← UInt32.toNat_or,
          ← UInt32.toNat_or, ← UInt32.toNat_or]
        rfl
      rw [word, join _ _ 8 firstBound, join _ _ 16 (by omega), join _ _ 24 (by omega)]
      exact read.symm

theorem mask_testBit (number place : Nat) : (number &&& 2 ^ place != 0) = number.testBit place := by
  rw [Nat.and_two_pow]
  cases number.testBit place with
  | true => simp
  | false => simp

theorem mask_first (byte : UInt8) (rest : List UInt8) {place : Nat} (low : place < 8) :
    (BitField.fromLittleEndian (byte :: rest) &&& 2 ^ place != 0) =
      (byte &&& UInt8.ofNat (2 ^ place) != 0) := by
  have small : 2 ^ place < 256 := Nat.pow_lt_pow_of_lt (by omega) low
  have masked : (byte &&& UInt8.ofNat (2 ^ place)).toNat = byte.toNat &&& 2 ^ place := by
    rw [UInt8.toNat_and, UInt8.toNat_ofNat', Nat.mod_eq_of_lt small]
  have here : place / 8 = 0 := by omega
  have within : place % 8 = place := by omega
  have mask : (byte &&& UInt8.ofNat (2 ^ place) != 0) = (byte.toNat &&& 2 ^ place != 0) := by
    rw [Bool.eq_iff_iff, bne_iff_ne, bne_iff_ne, ne_eq, ne_eq, ← UInt8.toNat_inj, masked]
    rfl
  rw [mask, mask_testBit, mask_testBit, BitField.testBit_fromLittleEndian, here, within,
    List.getD_cons_zero]

theorem payload_frameAt (receivedAt : TimePoint) (short : length.toNat ≤ 64)
    (complete : canHeaderSize + length.toNat ≤ bytes.length) :
    (frameAt receivedAt length bytes).payload =
      (bytes.drop canHeaderSize).take length.toNat := by
  apply List.ext_getElem
  · simp [BusFrame.payload, frameAt]
    omega
  · intro index inside _
    have below : index < length.toNat := by
      have bound := inside
      simp [BusFrame.payload, frameAt] at bound
      omega
    have within : canHeaderSize + index < bytes.length := by omega
    simp [BusFrame.payload, frameAt, below, List.getD_eq_getElem?_getD, within]

theorem header_bytes (complete : canHeaderSize ≤ bytes.length) :
    ∃ zero first second third fourth checksum rest,
      bytes = zero :: first :: second :: third :: fourth :: checksum :: rest := by
  match bytes, complete with
  | zero :: first :: second :: third :: fourth :: checksum :: rest, _ =>
      exact ⟨zero, first, second, third, fourth, checksum, rest, rfl⟩

theorem frameAt_same (times : ReadTimes) (receivedAt : TimePoint) (short : length.toNat ≤ 64)
    (complete : canHeaderSize + length.toNat ≤ bytes.length) :
    SameFrame (frameAt receivedAt length bytes)
      (PacketDecoder.rawFrame times (bytes.take (canHeaderSize + length.toNat))) := by
  have payload := payload_frameAt receivedAt short complete
  obtain ⟨zero, first, second, third, fourth, checksum, rest, rfl⟩ :=
    header_bytes ((Nat.le_add_right ..).trans complete)
  have word : (wordAt (zero :: first :: second :: third :: fourth :: checksum :: rest)).toNat =
      BitField.fromLittleEndian [first, second, third, fourth] :=
    wordAt_toNat (Nat.le_add_left 5 _)
  have packet : (zero :: first :: second :: third :: fourth :: checksum :: rest).take
      (canHeaderSize + length.toNat) =
        zero :: first :: second :: third :: fourth :: checksum :: rest.take length.toNat := by
    rw [Nat.add_comm]
    rfl
  rw [packet]
  constructor
  · show BitField.fromLittleEndian [first, second, third, fourth] >>> 3 =
      (wordAt _ >>> 3).toNat
    rw [UInt32.toNat_shiftRight, word]
    rfl
  · show (zero.toNat >>> 1) &&& 7 = ((zero >>> 1) &&& 7).toNat
    rw [UInt8.toNat_and, UInt8.toNat_shiftRight]
    rfl
  · have alone : BitField.fromLittleEndian [zero] = zero.toNat := Nat.zero_add _
    have flag := mask_first zero [] (by decide : 0 < 8)
    rw [alone] at flag
    exact flag
  · show (BitField.fromLittleEndian [first, second, third, fourth] &&& 4 != 0) =
      (wordAt _ &&& 4 != 0)
    rw [Bool.eq_iff_iff, bne_iff_ne, bne_iff_ne, ne_eq, ne_eq, ← UInt32.toNat_inj,
      UInt32.toNat_and, word]
    rfl
  · exact mask_first first _ (by decide : 1 < 8)
  · exact mask_first first _ (by decide : 0 < 8)
  · exact payload.symm

end Packet

/-! ## One call -/

section Call
variable {carry : List UInt8} {times : ReadTimes} {receivedAt : TimePoint}

/-- What the two loops make of one buffer. -/
inductive SameScan (carry : List UInt8) : Except String (List BusFrame × List UInt8) →
    Except String (List RawFrame × Nat) → Prop
  | frames {frames : List BusFrame} {raws : List RawFrame} {last : Nat}
      (same : List.Forall₂ SameFrame frames raws) :
      SameScan carry (.ok (frames, carry.drop last)) (.ok (raws, last))
  | checksum (position : Nat) (bytes : List UInt8) (size : Nat) :
      SameScan carry (.error (checksumFailure position bytes size))
        (.error PacketDecoder.checksumError)

/-- The two loops run in step, a packet a round. -/
theorem scan_drain (fuel : Nat) :
    ∀ position, position ≤ carry.length → carry.length - position ≤ fuel →
      SameScan carry (drain (scanPacket receivedAt) fuel position (carry.drop position))
        (PacketDecoder.scan times carry position) := by
  induction fuel with
  | zero =>
      intro position _ enough
      have short : carry.length - position < 6 := by omega
      rw [PacketDecoder.scan, if_pos short]
      exact .frames .nil
  | succ fuel ih =>
      intro position inside enough
      have remaining : (carry.drop position).length = carry.length - position := List.length_drop ..
      have front : (carry.drop position).getD 0 0 = carry.getD position 0 := by
        simp [List.getD_eq_getElem?_getD]
      obtain ⟨length, dlc, table, small⟩ := dlc_same (carry.getD position 0)
      have header : canHeaderSize = 6 := rfl
      rw [PacketDecoder.scan, drain, scanPacket, remaining, front, dlc, table]
      dsimp only
      rw [header]
      by_cases short : carry.length - position < 6
      · rw [if_pos short, if_pos short]
        exact .frames .nil
      rw [if_neg short, if_neg short]
      by_cases cut : carry.length - position < 6 + length.toNat
      · rw [if_pos cut, if_pos cut]
        exact .frames .nil
      rw [if_neg cut, if_neg cut]
      have complete : canHeaderSize + length.toNat ≤ (carry.drop position).length := by
        rw [remaining, header]
        omega
      have frame := frameAt_same times receivedAt small complete
      rw [header] at frame
      have checked : xorChecksum ((carry.drop position).take (6 + length.toNat)) =
          ((carry.drop position).take (6 + length.toNat)).foldl (· ^^^ ·) 0 := rfl
      rw [checked]
      by_cases broken : (((carry.drop position).take (6 + length.toNat)).foldl (· ^^^ ·) 0 != 0) = true
      · rw [if_pos broken, if_pos broken]
        exact .checksum ..
      rw [if_neg broken, if_neg broken]
      dsimp only
      rw [List.drop_drop]
      have rest := ih (position + (6 + length.toNat)) (by omega) (by omega)
      generalize drain (scanPacket receivedAt) fuel (position + (6 + length.toNat))
        (carry.drop (position + (6 + length.toNat))) = drained at rest ⊢
      generalize PacketDecoder.scan times carry (position + (6 + length.toNat)) = scanned at rest ⊢
      cases rest with
      | frames same => exact .frames (.cons frame same)
      | checksum position bytes size => exact .checksum position bytes size

/-- A read, as both decoders get it. -/
structure Chunk where
  bytes : List UInt8
  receivedAt : TimePoint
  times : ReadTimes

def PandaUsb.unpacker : CallMachine (List UInt8) Chunk (Except String (List BusFrame)) where
  call carry chunk := unpackFrames carry chunk.bytes chunk.receivedAt

def PacketDecoder.recorder : CallMachine (List UInt8) Chunk (Except String (List RawFrame)) where
  call carry chunk := feed carry chunk.bytes chunk.times

/-- The same frames, or a checksum error that leaves no carry. -/
inductive SameAnswer (carry : List UInt8) :
    Except String (List BusFrame) → Except String (List RawFrame) → Prop
  | frames {frames : List BusFrame} {raws : List RawFrame}
      (same : List.Forall₂ SameFrame frames raws) : SameAnswer carry (.ok frames) (.ok raws)
  | checksum (position : Nat) (bytes : List UInt8) (size : Nat) (emptied : carry = []) :
      SameAnswer carry (.error (checksumFailure position bytes size))
        (.error PacketDecoder.checksumError)

/-- A call that finds the two decoders with the same carry and leaves them so. -/
structure SameCall (carry recorded : List UInt8) (chunk : Chunk) : Prop where
  before : recorded = carry
  after : (PacketDecoder.recorder.call recorded chunk).1 = (PandaUsb.unpacker.call carry chunk).1
  answer : SameAnswer (PandaUsb.unpacker.call carry chunk).1
    (PandaUsb.unpacker.call carry chunk).2 (PacketDecoder.recorder.call recorded chunk).2

theorem same_call (carry : List UInt8) (chunk : Chunk) : SameCall carry carry chunk := by
  have scanned := @scan_drain (carry ++ chunk.bytes) chunk.times chunk.receivedAt
    (carry ++ chunk.bytes).length 0 (Nat.zero_le _) (Nat.le_refl _)
  have unpacked : PandaUsb.unpacker.call carry chunk =
      unpackFrames carry chunk.bytes chunk.receivedAt := rfl
  have fed : PacketDecoder.recorder.call carry chunk =
      PacketDecoder.feed carry chunk.bytes chunk.times := rfl
  rw [List.drop_zero] at scanned
  refine ⟨rfl, ?_, ?_⟩
  all_goals
    rw [unpacked, fed]
    unfold unpackFrames PacketDecoder.feed
    generalize drain (scanPacket chunk.receivedAt) (carry ++ chunk.bytes).length 0
      (carry ++ chunk.bytes) = drained at scanned ⊢
    generalize PacketDecoder.scan chunk.times (carry ++ chunk.bytes) 0 = read at scanned ⊢
  · cases scanned with
    | frames same => rfl
    | checksum position bytes size => rfl
  · cases scanned with
    | frames same => exact .frames same
    | checksum position bytes size => exact .checksum position bytes size rfl

end Call

/-- After any calls, the next one finds equal carries, and both decoders return the same frames or
fail on it with a checksum error. -/
theorem same_frames (earlier : List Chunk) (chunk : Chunk) :
    SameCall (PandaUsb.unpacker.run [] earlier) (PacketDecoder.recorder.run [] earlier) chunk := by
  have carries : ∀ (calls : List Chunk) (carry : List UInt8),
      PacketDecoder.recorder.run carry calls = PandaUsb.unpacker.run carry calls := by
    intro calls
    induction calls with
    | nil => intro carry; rfl
    | cons call rest ih =>
        intro carry
        have next := (same_call carry call).after
        rw [CallMachine.run, CallMachine.run, next]
        exact ih _
  rw [carries]
  exact same_call _ chunk

end Ioniq5Ecan
