import Ioniq5Ecan.Library.Dialogue
import Ioniq5Ecan.Panda.PacketStream

/-! # The USB driver

`panda_usb.cpp` over libusb: `connect` with its checks and its initial drain,
`disconnect`, the control transfers, `health`, `receive` and `send`.  libusb
and the steady clock are asked; a handle is a pointer, null being `none`. -/
set_option autoImplicit false
namespace Ioniq5Ecan.Usb

open Library (Dialogue Program)

structure PandaUsbConfig where
  commandSessionParam : UInt16 := 0
  serial : List UInt8 := []
  nominalBitrateKbps : Int := 500
  dataBitrateKbps : Int := 2000
  readTimeoutMs : Int := 20
  writeTimeoutMs : Int := 10
  ecanOnly : Bool := true

structure PandaUsb where
  context : Bool := false
  handle : Option Nat := none
  handleOpen : Bool := false
  ready : Bool := false
  serial : List UInt8 := []
  receiveCarry : List UInt8 := []

/-! ## libusb and the clock -/

structure DeviceDescriptor where
  idVendor : UInt16
  idProduct : UInt16
  iSerialNumber : UInt8

inductive UsbAsk
  | init
  | getDeviceList
  | getDeviceDescriptor (device : Nat)
  | openDevice (device : Nat)
  | getStringDescriptor (handle : Option Nat) (index : UInt8)
  | close (handle : Option Nat)
  | freeDeviceList
  | setAutoDetachKernelDriver (handle : Option Nat)
  | claimInterface (handle : Option Nat)
  | releaseInterface (handle : Option Nat)
  | exit
  | controlOut (handle : Option Nat) (request : UInt8) (value index : UInt16)
  | controlIn (handle : Option Nat) (request : UInt8) (value index size : UInt16)
  | bulkIn (handle : Option Nat) (capacity : Nat) (timeoutMs : Int)
  | bulkOut (handle : Option Nat) (bytes : List UInt8) (timeoutMs : Int)
  | steadyClock
  | drainClock

structure DescriptorAnswer where
  status : Int
  descriptor : DeviceDescriptor

structure OpenAnswer where
  status : Int
  candidate : Option Nat

/-- A transfer's status or count, and what the buffer holds after it. -/
structure DataAnswer where
  status : Int
  data : List UInt8

structure BulkAnswer where
  status : Int
  transferred : Int
  data : List UInt8

/-- The readings of one round of the initial drain: at the loop's head, at the heartbeat check, and
after a heartbeat. -/
structure DrainRound where
  head : TimePoint
  check : TimePoint
  sent : TimePoint

/-- The first two readings and one round after the other, until the clock passes the deadline. -/
structure DrainClock where
  start : TimePoint
  due : TimePoint
  rounds : List DrainRound

def UsbAnswer : UsbAsk → Type
  | .init => Int
  | .getDeviceList => Int
  | .getDeviceDescriptor _ => DescriptorAnswer
  | .openDevice _ => OpenAnswer
  | .getStringDescriptor _ _ => DataAnswer
  | .close _ => Unit
  | .freeDeviceList => Unit
  | .setAutoDetachKernelDriver _ => Int
  | .claimInterface _ => Int
  | .releaseInterface _ => Int
  | .exit => Unit
  | .controlOut _ _ _ _ => Int
  | .controlIn _ _ _ _ _ => DataAnswer
  | .bulkIn _ _ _ => BulkAnswer
  | .bulkOut _ _ _ => BulkAnswer
  | .steadyClock => TimePoint
  | .drainClock => DrainClock

abbrev Driver (Value : Type) : Type := Program UsbAsk UsbAnswer PandaUsb String Value

open Library.Program (ask fetch change raise raiseIf)

section Questions

def libusbInit : Driver Int := ask UsbAsk.init
def libusbGetDeviceList : Driver Int := ask UsbAsk.getDeviceList
def libusbGetDeviceDescriptor (device : Nat) : Driver DescriptorAnswer :=
  ask (UsbAsk.getDeviceDescriptor device)
def libusbOpen (device : Nat) : Driver OpenAnswer := ask (UsbAsk.openDevice device)
def libusbGetStringDescriptor (handle : Option Nat) (index : UInt8) : Driver DataAnswer :=
  ask (UsbAsk.getStringDescriptor handle index)
def libusbClose (handle : Option Nat) : Driver Unit := ask (UsbAsk.close handle)
def libusbFreeDeviceList : Driver Unit := ask UsbAsk.freeDeviceList
def libusbSetAutoDetachKernelDriver (handle : Option Nat) : Driver Int :=
  ask (UsbAsk.setAutoDetachKernelDriver handle)
def libusbClaimInterface (handle : Option Nat) : Driver Int := ask (UsbAsk.claimInterface handle)
def libusbReleaseInterface (handle : Option Nat) : Driver Int := ask (UsbAsk.releaseInterface handle)
def libusbExit : Driver Unit := ask UsbAsk.exit
def controlOut (handle : Option Nat) (request : UInt8) (value index : UInt16) : Driver Int :=
  ask (UsbAsk.controlOut handle request value index)
def controlIn (handle : Option Nat) (request : UInt8) (value index size : UInt16) :
    Driver DataAnswer :=
  ask (UsbAsk.controlIn handle request value index size)
def bulkIn (handle : Option Nat) (capacity : Nat) (timeoutMs : Int) : Driver BulkAnswer :=
  ask (UsbAsk.bulkIn handle capacity timeoutMs)
def bulkOut (handle : Option Nat) (bytes : List UInt8) (timeoutMs : Int) : Driver BulkAnswer :=
  ask (UsbAsk.bulkOut handle bytes timeoutMs)
def steadyClock : Driver TimePoint := ask UsbAsk.steadyClock
def drainClock : Driver DrainClock := ask UsbAsk.drainClock

end Questions

def byteAt (data : List UInt8) (offset : Nat) : UInt8 := data.getD offset 0

def u16At (data : List UInt8) (offset : Nat) : UInt16 :=
  (byteAt data offset).toUInt16 ||| ((byteAt data (offset + 1)).toUInt16 <<< 8)

def u32At (data : List UInt8) (offset : Nat) : UInt32 :=
  (byteAt data offset).toUInt32 ||| ((byteAt data (offset + 1)).toUInt32 <<< 8) |||
    ((byteAt data (offset + 2)).toUInt32 <<< 16) ||| ((byteAt data (offset + 3)).toUInt32 <<< 24)

def kSafetyNoOutput : UInt16 := 19
def kEcanOnlyIgnoredFaults : UInt32 := ((1 : UInt32) <<< 3) ||| ((1 : UInt32) <<< 4)
def kPinnedHealthPacketVersion : UInt32 := 0x290DAE03
def kPinnedCanPacketVersion : UInt32 := 0x75ABF276
def kRedPandaHardwareType : UInt8 := 0x07
def kCommandSessionMagic : UInt32 := 0x49355231

def pandaUsbId (descriptor : DeviceDescriptor) : Bool :=
  (descriptor.idVendor == 0xBBAA || descriptor.idVendor == 0x3801) &&
    (descriptor.idProduct == 0xDDEE || descriptor.idProduct == 0xDDCC)

def usbSerial (handle : Option Nat) (index : UInt8) : Driver (List UInt8) := do
  if index == 0 then
    pure []
  else
    let answer ← libusbGetStringDescriptor handle index
    pure (if 0 < answer.status then answer.data.take answer.status.toNat else [])

/-! ## Transfers -/

section Calls
variable (libusbErrorName : Int → String) (config : PandaUsbConfig)

def ensureConnected : Driver Unit := do
  let self ← fetch
  raiseIf (!self.handleOpen || self.handle.isNone) "Red Panda is not connected"

def controlWrite (request : UInt8) (value index : UInt16) : Driver Unit := do
  ensureConnected
  let self ← fetch
  let status ← controlOut self.handle request value index
  if status < 0 then
    change fun self => { self with ready := false }
    raise ("Red Panda control write failed: " ++ libusbErrorName status)

def controlRead (request : UInt8) (value index size : UInt16) : Driver DataAnswer := do
  ensureConnected
  let self ← fetch
  let answer ← controlIn self.handle request value index size
  if answer.status < 0 then
    change fun self => { self with ready := false }
    raise ("Red Panda control read failed: " ++ libusbErrorName answer.status)
  else
    pure answer

def configureBuses : List UInt16 → Driver Unit
  | [] => pure ()
  | bus :: rest => do
      controlWrite libusbErrorName 0xDE bus (UInt16.ofInt (config.nominalBitrateKbps * 10))
      controlWrite libusbErrorName 0xF9 bus (UInt16.ofInt (config.dataBitrateKbps * 10))
      controlWrite libusbErrorName 0xE8 bus 1
      configureBuses rest

def configureCan : Driver Unit :=
  configureBuses libusbErrorName config (if config.ecanOnly then [0] else [0, 1, 2])

def setSafetyMode (mode param : UInt16) : Driver Unit := do
  if mode == 17 then
    raise "SAFETY_ALLOUTPUT is forbidden by this driver"
  else
    controlWrite libusbErrorName 0xDC mode param

def sendHeartbeat (engaged : Bool) : Driver Unit :=
  controlWrite libusbErrorName 0xF3 (if engaged then 1 else 0) 0

def dropLongitudinalPermission : Driver Unit := controlWrite libusbErrorName 0xB8 1 0

/-! ## The initial drain -/

def receiveCapacity : Nat := 16384

def initialReceiveBoundary (capacity : Nat) (status transferred : Int) : Except String Bool :=
  if status ≠ 0 ∧ status ≠ libusbErrorTimeout then
    .error ("Red Panda initial CAN drain failed: " ++ libusbErrorName status)
  else if capacity = 0 ∨ capacity % 64 ≠ 0 ∨ transferred < 0 ∨ (capacity : Int) < transferred then
    .error "Red Panda initial CAN drain returned an invalid byte count/capacity"
  else .ok (decide (status = 0) && decide (transferred < capacity))

/-- The loop of `synchronize_can_receive`; the clock's readings end no later than its deadline. -/
def drainReceive (deadline : TimePoint) : TimePoint → List DrainRound → Driver Unit
  | _, [] => raise "Red Panda initial CAN stream did not reach a packet boundary"
  | heartbeatDue, round :: rest => do
      if deadline ≤ round.head then
        raise "Red Panda initial CAN stream did not reach a packet boundary"
      else
        let due := decide (heartbeatDue ≤ round.check)
        (sendHeartbeat libusbErrorName false).runIf due
        let self ← fetch
        let answer ← bulkIn self.handle receiveCapacity 100
        match initialReceiveBoundary libusbErrorName receiveCapacity answer.status
            answer.transferred with
        | .error what => raise what
        | .ok true => change fun self => { self with receiveCarry := [] }
        | .ok false =>
            drainReceive deadline
              (if due then round.sent + 200 * nanosecondsPerMillisecond else heartbeatDue) rest

def synchronizeCanReceive : Driver Unit := do
  let clock ← drainClock
  drainReceive libusbErrorName (clock.start + seconds 2) clock.due clock.rounds

/-! ## Sessions -/

/-- `disconnect` on the handle it found, with the flag that says whether it was claimed. -/
def giveBackHandle (handle : Option Nat) (interfaceClaimed : Bool) : Driver Unit := do
  Program.runIf (do let _ ← libusbReleaseInterface handle) interfaceClaimed
  libusbClose handle
  change fun self => { self with handle := none }

def giveBackContext : Driver Unit := do
  libusbExit
  change fun self => { self with context := false }

def disconnect : Driver Unit := do
  change fun self => { self with ready := false }
  let self ← fetch
  change fun self => { self with handleOpen := false }
  (giveBackHandle self.handle self.handleOpen).runIf self.handle.isSome
  giveBackContext.runIf self.context
  change fun self => { self with receiveCarry := [] }

/-- The loop over the devices, which ends with the first Panda of the wanted serial. -/
def openPanda : List Nat → Driver Unit
  | [] => pure ()
  | device :: rest => do
      let descriptor ← libusbGetDeviceDescriptor device
      if descriptor.status != 0 || !pandaUsbId descriptor.descriptor then
        openPanda rest
      else
        let opened ← libusbOpen device
        if opened.status != 0 || opened.candidate.isNone then
          openPanda rest
        else
          let candidateSerial ← usbSerial opened.candidate descriptor.descriptor.iSerialNumber
          if !config.serial.isEmpty && candidateSerial != config.serial then
            libusbClose opened.candidate
            openPanda rest
          else
            change fun self =>
              { self with handle := opened.candidate, serial := candidateSerial }

def enterCommandSession : Driver Unit := do
  let session ← controlRead libusbErrorName 0xB7 0 0 8
  raiseIf (session.status != 8 || u32At session.data 0 != kCommandSessionMagic)
    "Panda lacks Ioniq5 command-session firmware; flash the tested image"
  setSafetyMode libusbErrorName kSafetyNoOutput config.commandSessionParam

/-- The body of the `try` block of `connect`. -/
def setUp : Driver Unit := do
  controlWrite libusbErrorName 0xC0 0 0
  let versions ← controlRead libusbErrorName 0xDD 0 0 8
  raiseIf (versions.status != 8 || u32At versions.data 0 != kPinnedHealthPacketVersion ||
      u32At versions.data 4 != kPinnedCanPacketVersion)
    "Panda protocol version mismatch; flash the pinned firmware"
  let hardware ← controlRead libusbErrorName 0xC1 0 0 1
  raiseIf (hardware.status != 1 || byteAt hardware.data 0 != kRedPandaHardwareType)
    "connected Panda is not a Red Panda"
  controlWrite libusbErrorName 0xE7 0 0
  configureCan libusbErrorName config
  setSafetyMode libusbErrorName kSafetyNoOutput 0
  synchronizeCanReceive libusbErrorName
  (enterCommandSession libusbErrorName config).runIf (config.commandSessionParam != 0)
  sendHeartbeat libusbErrorName false
  change fun self => { self with ready := true }

/-- `disconnect(); throw`. -/
def abandon (what : String) : Driver Unit := do
  disconnect
  raise what

/-- `connect` once a Panda has been opened or not. -/
def claimPanda : Driver Unit := do
  let self ← fetch
  if self.handle.isNone then
    abandon "requested Red Panda was not found"
  else
    let _ ← libusbSetAutoDetachKernelDriver self.handle
    let claimed ← libusbClaimInterface self.handle
    if claimed ≠ 0 then
      abandon "failed to claim Red Panda USB interface; check udev rules"
    else
      change fun self => { self with handleOpen := true, receiveCarry := [] }
      (setUp libusbErrorName config).catching abandon

def connect : Driver Unit := do
  let self ← fetch
  if self.ready then
    pure ()
  else
    disconnect
    let status ← libusbInit
    if status ≠ 0 then
      raise "libusb initialization failed"
    else
      change fun self => { self with context := true }
      let count ← libusbGetDeviceList
      if count < 0 then
        abandon "failed to enumerate USB devices"
      else
        openPanda config (List.range count.toNat)
        libusbFreeDeviceList
        claimPanda libusbErrorName config

/-! ## Traffic -/

/-- `PandaHealthPacket` by the offsets of its packed fields. -/
def parseHealth (data : List UInt8) : PandaHealth where
  connected := true
  ignitionOn := byteAt data 32 != 0 || byteAt data 33 != 0
  controlsAllowed := byteAt data 34 != 0
  heartbeatLost := byteAt data 41 != 0
  safetyRxChecksInvalid := byteAt data 49 != 0
  faults := u32At data 28
  ignoredFaults := if config.ecanOnly then kEcanOnlyIgnoredFaults else 0
  faultStatus := byteAt data 39
  harnessStatus := byteAt data 35
  safetyMode := byteAt data 36
  safetyParam := u16At data 37
  safetyTxBlocked := u32At data 12
  safetyRxInvalid := u32At data 16
  txBufferOverflow := u32At data 20
  rxBufferOverflow := u32At data 24

/-- The second word of the command-session status. -/
def withSession (result : PandaHealth) (session : UInt32) : PandaHealth :=
  { result with
    lateralSelected := session &&& 1 != 0
    longitudinalSelected := session &&& 2 != 0
    commandSessionReady := session &&& 4 != 0
    commandSessionBlocked := session &&& 8 != 0
    commandSessionActive := session &&& 16 != 0 }

/-- `bus_off` or `error_passive` of a `PandaCanHealthPacket`. -/
def canImpaired (data : List UInt8) : Bool := byteAt data 0 != 0 || byteAt data 6 != 0

def canHealth : List UInt16 → PandaHealth → Driver PandaHealth
  | [], result => pure result
  | bus :: rest, result => do
      let can ← controlRead libusbErrorName 0xC2 bus 0 64
      canHealth rest
        (if can.status = 64 ∧ (config.ecanOnly = false ∨ bus = 0) then
          { result with busOff := result.busOff || canImpaired can.data }
        else result)

def sessionHealth (result : PandaHealth) : Driver PandaHealth := do
  if config.commandSessionParam == 0 then
    pure result
  else
    let session ← controlRead libusbErrorName 0xB7 0 0 8
    raiseIf (session.status != 8 || u32At session.data 0 != kCommandSessionMagic)
      "Panda command-session status mismatch"
    pure (withSession result (u32At session.data 4))

def health : Driver PandaHealth := do
  let packet ← controlRead libusbErrorName 0xD2 0 0 63
  raiseIf (packet.status != 63) "Panda health packet ABI mismatch; reflash pinned firmware"
  let result ← sessionHealth libusbErrorName config (parseHealth config packet.data)
  let result ← canHealth libusbErrorName config [0, 1, 2] result
  let updatedAt ← steadyClock
  pure { result with updatedAt := updatedAt }

/-- The zeroed buffer after a transfer has written into it. -/
def receiveBuffer (data : List UInt8) : List UInt8 :=
  (data ++ List.replicate receiveCapacity 0).take receiveCapacity

def receive : Driver (List BusFrame) := do
  ensureConnected
  let self ← fetch
  let answer ← bulkIn self.handle receiveCapacity config.readTimeoutMs
  Program.runIf (change fun self => { self with ready := false })
    (decide (answer.status ≠ 0 ∧ answer.status ≠ libusbErrorTimeout))
  let now ← steadyClock
  let decoded := decodeBulkRead libusbErrorName self.receiveCarry
    ⟨receiveBuffer answer.data, answer.status, answer.transferred, now⟩
  change fun self => { self with receiveCarry := decoded.1 }
  match decoded.2 with
  | .error what => raise what
  | .ok frames => pure frames

/-- The loop of `send`.  A transfer that goes on takes a byte at least, so the fuel only has to
reach the number of bytes. -/
def writeBytes : Nat → List UInt8 → Driver Unit
  | 0, _ => pure ()
  | fuel + 1, rest => do
      if rest.isEmpty then
        pure ()
      else
        let self ← fetch
        let answer ← bulkOut self.handle rest config.writeTimeoutMs
        if answer.status ≠ 0 ∨ answer.transferred ≤ 0 then
          Program.runIf (change fun self => { self with ready := false })
            (decide (answer.status ≠ libusbErrorTimeout))
          raise ("Red Panda CAN write failed: " ++ libusbErrorName answer.status)
        else
          writeBytes fuel (rest.drop answer.transferred.toNat)

def send (frames : List BusFrame) : Driver Unit := do
  ensureConnected
  if frames.isEmpty then
    pure ()
  else
    ensureConnected
    match packFrames frames with
    | .error what => raise what
    | .ok buffer => writeBytes libusbErrorName config buffer.length buffer

end Calls
end Ioniq5Ecan.Usb
