import Ioniq5Ecan.Library.Dialogue
import Ioniq5Ecan.Node.ControlFrames

/-! # Diagnostics while frames arrive

`uds_request`, `disable_ecu`, `restore_ecu`, `confirm_ecu_restored` and
`maintain_disabled_ecus`, called under the actuation mutex.  Between two of
their accesses to what the receive thread writes, that thread may observe any
frames: `meanwhile` is answered by them. -/
set_option autoImplicit false
namespace Ioniq5Ecan.Ecus

open Library (Program)

structure EcuFlags where
  disabled : Bool := false
  lastTesterPresent : TimePoint := 0
  deriving DecidableEq

/-- The codec, `vehicle_safety_mode_`, `recovery_pending_` and `recovery_retry_`. -/
structure ModeMembers where
  codec : HyundaiCanFdCodec := {}
  vehicleSafetyMode : Bool := false
  recoveryPending : Bool := false
  recoveryRetry : RecoveryRetry := {}

structure EcuNode where
  frames : ControlFrames := {}
  camera : EcuFlags := {}
  radar : EcuFlags := {}
  mode : ModeMembers := {}

namespace EcuNode

def flags (node : EcuNode) : EcuId → EcuFlags
  | .camera => node.camera
  | .radar => node.radar

def setFlags (node : EcuNode) (ecu : EcuId) (value : EcuFlags) : EcuNode :=
  match ecu with
  | .camera => { node with camera := value }
  | .radar => { node with radar := value }

def setDisabled (node : EcuNode) (ecu : EcuId) (disabled : Bool) : EcuNode :=
  node.setFlags ecu { node.flags ecu with disabled := disabled }

def setUds (node : EcuNode) (uds : UdsSlot) : EcuNode :=
  { node with frames := { node.frames with uds := uds } }

end EcuNode

/-- One round of a waiting loop: what its condition reads, and the time that
`maintain_disabled_ecus` gets. -/
structure WaitRound where
  running : Bool
  now : TimePoint
  tick : TimePoint

/-- The atomic members that other threads store. -/
inductive SharedMember
  | recoveryPending
  | moveLicence
  | preserveCommandSession
  | operatorDisarmed
  | lateralAllowed
  | longitudinalAllowed

inductive EcuAsk
  | meanwhile
  | clock
  | send (frame : BusFrame)
  | rounds
  | sendFrames (frames : List BusFrame)
  | sendRaw (frame : BusFrame)
  | heartbeat (engaged : Bool)
  | setSafetyMode (mode param : UInt16)
  | health
  | healthPolls
  | dropPermission
  | connect
  | disconnect
  | connected
  | load (member : SharedMember)

def EcuAnswer : EcuAsk → Type
  | .meanwhile => List BusFrame
  | .clock => TimePoint
  | .send _ => WriteOutcome
  | .rounds => List WaitRound
  | .sendFrames _ => WriteOutcome
  | .sendRaw _ => WriteOutcome
  | .heartbeat _ => UsbOutcome
  | .setSafetyMode _ _ => UsbOutcome
  | .health => Except String PandaHealth
  | .healthPolls => Nat
  | .dropPermission => UsbOutcome
  | .connect => UsbOutcome
  | .disconnect => Unit
  | .connected => Bool
  | .load _ => Bool

abbrev EcuProgram (Value : Type) : Type := Program EcuAsk EcuAnswer EcuNode String Value

open Library.Program (ask fetch change raise raiseIf)

def meanwhile : EcuProgram (List BusFrame) := ask EcuAsk.meanwhile
def steadyNow : EcuProgram TimePoint := ask EcuAsk.clock
def writeFrame (frame : BusFrame) : EcuProgram WriteOutcome := ask (EcuAsk.send frame)
def waitRounds : EcuProgram (List WaitRound) := ask EcuAsk.rounds

def kTesterPresentPeriod : Milliseconds := 800
def kEcuQuietObservation : Milliseconds := 350
def kEcuRestoreObservation : Milliseconds := 500

def requestAddress : EcuId → UInt32
  | .camera => kCameraRequestAddress
  | .radar => kRadarRequestAddress

def startsWith (value wanted : List UInt8) : Bool :=
  decide (wanted.length ≤ value.length) && value.take wanted.length == wanted

def bytesAsHex (bytes : List UInt8) : String :=
  " ".intercalate (bytes.map hexByte)

section Calls
variable (ecanBus : UInt8)

/-- The receive thread runs up to the next access. -/
def interfere : EcuProgram Unit := do
  let received ← meanwhile
  change fun node => { node with frames := observeAll ecanBus node.frames received }

def sendFrame (frame : BusFrame) : EcuProgram Unit := do
  match ← writeFrame frame with
  | .delivered => pure ()
  | .failed _ what => raise what

def udsFrame (address : UInt32) (payload : List UInt8) : BusFrame where
  address := address
  bus := ecanBus
  size := 8
  data := .ofFn fun index => (UInt8.ofNat payload.length :: payload).getD index.val 0
  receivedAt := 0

def notSingleFrame (payload : List UInt8) : Bool :=
  payload.isEmpty || decide (7 < payload.length)

def sendUds (address : UInt32) (payload : List UInt8) : EcuProgram Unit := do
  raiseIf (notSingleFrame payload)
    "only single-frame UDS payloads are supported"
  sendFrame (udsFrame ecanBus address payload)

/-- What `uds_request` makes of a response. -/
def judgeResponse (wanted : List UInt8) (response : List UInt8) :
    Except String (List UInt8) :=
  if response.head? == some 0x7F then
    .error ("UDS negative response: " ++ bytesAsHex response)
  else if !startsWith response wanted then
    .error ("unexpected UDS response: " ++ bytesAsHex response)
  else .ok response

def judge (wanted : List UInt8) (response : List UInt8) : EcuProgram (List UInt8) :=
  match judgeResponse wanted response with
  | .ok response => pure response
  | .error what => raise what

/-- `uds_request` up to the end of its send. -/
def registerAndSend (ecu : EcuId) (payload : List UInt8) : EcuProgram Unit := do
  interfere ecanBus
  let node ← fetch
  raiseIf node.frames.uds.waiting "another UDS request is already pending"
  change fun node => node.setUds
    { waiting := true, responseAddress := ecuResponseAddress ecu, response := [] }
  interfere ecanBus
  (sendUds ecanBus (requestAddress ecu) payload).catching fun what => do
    interfere ecanBus
    change fun node => node.setUds { node.frames.uds with waiting := false, responseAddress := 0 }
    raise what

/-- The wait ends with an answer, or with its timeout, the node's end or a lost connection. -/
def udsRequest (ecu : EcuId) (payload wanted : List UInt8) : EcuProgram (List UInt8) := do
  registerAndSend ecanBus ecu payload
  interfere ecanBus
  let node ← fetch
  if node.frames.uds.waiting || node.frames.uds.response.isEmpty then
    change fun node => node.setUds { node.frames.uds with waiting := false, responseAddress := 0 }
    raise ("UDS response timeout for " ++ bytesAsHex payload)
  else
    change fun node => node.setUds { node.frames.uds with response := [], responseAddress := 0 }
    judge wanted node.frames.uds.response

def sendTesterPresent (ecu : EcuId) : EcuProgram Unit := do
  sendUds ecanBus (requestAddress ecu) [0x3E, 0x80]
  let now ← steadyNow
  change fun node => node.setFlags ecu { node.flags ecu with lastTesterPresent := now }

def maintainEcu (now : TimePoint) (ecu : EcuId) : EcuProgram Unit := do
  let node ← fetch
  (sendTesterPresent ecanBus ecu).runIf
    ((node.flags ecu).disabled && ((node.flags ecu).lastTesterPresent == 0 ||
      decide (kTesterPresentPeriod * nanosecondsPerMillisecond ≤
        now - (node.flags ecu).lastTesterPresent)))

def maintainDisabledEcus (now : TimePoint) : EcuProgram Unit := do
  maintainEcu ecanBus now .camera
  maintainEcu ecanBus now .radar

/-- The observation loop of `disable_ecu`. -/
def observeQuiet (deadline : TimePoint) : List WaitRound → EcuProgram Unit
  | [] => pure ()
  | round :: rest => do
      if round.running && decide (round.now < deadline) then
        maintainDisabledEcus ecanBus round.tick
        interfere ecanBus
        observeQuiet deadline rest
      else
        pure ()

/-- The loop of `restore_ecu` and `confirm_ecu_restored`, which ends with the first counted frame. -/
def awaitStock (ecu : EcuId) (before : UInt64) (deadline : TimePoint) :
    List WaitRound → EcuProgram Unit
  | [] => pure ()
  | round :: rest => do
      let node ← fetch
      if round.running && decide (round.now < deadline) && node.frames.count ecu == before then
        interfere ecanBus
        awaitStock ecu before deadline rest
      else
        pure ()

/-- The frames counted from the first reading of `owned_count` to the last. -/
def countOwned (ecu : EcuId) (wait : UInt64 → EcuProgram Unit) : EcuProgram UInt64 := do
  interfere ecanBus
  let node ← fetch
  wait (node.frames.count ecu)
  interfere ecanBus
  let later ← fetch
  pure (later.frames.count ecu - node.frames.count ecu)

def waitQuiet (_before : UInt64) : EcuProgram Unit := do
  let start ← steadyNow
  let rounds ← waitRounds
  observeQuiet ecanBus (start + kEcuQuietObservation * nanosecondsPerMillisecond) rounds

def waitResumed (ecu : EcuId) (before : UInt64) : EcuProgram Unit := do
  let start ← steadyNow
  let rounds ← waitRounds
  awaitStock ecanBus ecu before (start + kEcuRestoreObservation * nanosecondsPerMillisecond) rounds

def disableEcu (ecu : EcuId) : EcuProgram Unit := do
  let node ← fetch
  if (node.flags ecu).disabled then
    pure ()
  else
    let _ ← udsRequest ecanBus ecu [0x10, 0x03] [0x50, 0x03]
    sendUds ecanBus (requestAddress ecu) [0x28, 0x83, 0x01]
    change fun node => node.setDisabled ecu true
    sendTesterPresent ecanBus ecu
    let observed ← countOwned ecanBus ecu (waitQuiet ecanBus)
    raiseIf (observed != 0) (ecu.port.label ++ " disable failed: observed " ++
      toString observed.toNat ++ " stock 0x" ++ ecu.port.ownedAddress ++ " frames")

def restoreRequests (ecu : EcuId) : EcuProgram Unit := do
  let _ ← udsRequest ecanBus ecu [0x10, 0x03] [0x50, 0x03]
  let _ ← udsRequest ecanBus ecu [0x28, 0x00, 0x01] [0x68, 0x00]
  let _ ← udsRequest ecanBus ecu [0x10, 0x01] [0x50, 0x01]

/-- `failures` is that of the recovery retry. -/
def restoreEcu (failures : UInt64) (ecu : EcuId) : EcuProgram Unit := do
  let node ← fetch
  if !(node.flags ecu).disabled then
    pure ()
  else if failures != 0 then
    let resumed ← countOwned ecanBus ecu (waitResumed ecanBus ecu)
    if resumed != 0 then
      change fun node => node.setDisabled ecu false
    else
      restoreRequests ecanBus ecu
  else
    restoreRequests ecanBus ecu

def confirmEcuRestored (ecu : EcuId) : EcuProgram Unit := do
  let node ← fetch
  if !(node.flags ecu).disabled then
    pure ()
  else
    let resumed ← countOwned ecanBus ecu (waitResumed ecanBus ecu)
    raiseIf (resumed == 0)
      (ecu.port.label ++ " stock 0x" ++ ecu.port.ownedAddress ++ " did not resume")
    change fun node => node.setDisabled ecu false

end Calls

def copyRecentSccTemplate (frames : ControlFrames) (now : TimePoint) : Option BusFrame :=
  match frames.latestStockScc with
  | some frame =>
      if frame.receivedAt == 0 || decide (now < frame.receivedAt) ||
          decide (kStockSccTimeout * nanosecondsPerMillisecond < now - frame.receivedAt) then none
      else some frame
  | none => none

end Ioniq5Ecan.Ecus
