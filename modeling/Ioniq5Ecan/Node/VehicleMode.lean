import Ioniq5Ecan.Node.EcuSessions
import Ioniq5Ecan.Node.RawGate
import Ioniq5Ecan.Vehicle.DecisionFrames

/-! # Everything that is done under the actuation mutex

`enter_vehicle_safety_mode`, `enter_no_output_mode`, the frames of a control
iteration, a raw frame, and the connection and its loss.  The calls follow each
other in any order, as the threads get the mutex, and the receive thread
observes frames during each.  The atomic members that other threads store are
questions. -/
set_option autoImplicit false
namespace Ioniq5Ecan.Ecus

open Library (Program Double)
open Library.Program (ask fetch change raise raiseIf)

def kSafetyElm327 : UInt16 := 3
def kSafetyNoOutput : UInt16 := 19
def kSafetyHyundaiCanFd : UInt16 := 28

namespace EcuNode

def setCodec (node : EcuNode) (codec : HyundaiCanFdCodec) : EcuNode :=
  { node with mode := { node.mode with codec := codec } }

def setVehicleMode (node : EcuNode) (vehicleSafetyMode : Bool) : EcuNode :=
  { node with mode := { node.mode with vehicleSafetyMode := vehicleSafetyMode } }

def setPending (node : EcuNode) (recoveryPending : Bool) : EcuNode :=
  { node with mode := { node.mode with recoveryPending := recoveryPending } }

def setRetry (node : EcuNode) (retry : RecoveryRetry) : EcuNode :=
  { node with mode := { node.mode with recoveryRetry := retry } }

end EcuNode

/-! ## Calls of the Panda -/

def orThrow {Value : Type} : Except String Value → EcuProgram Value
  | .ok value => pure value
  | .error what => raise what

def sendHeartbeat (engaged : Bool) : EcuProgram Unit := do
  let outcome ← (ask (EcuAsk.heartbeat engaged) : EcuProgram UsbOutcome)
  orThrow outcome

def setSafetyMode (mode param : UInt16) : EcuProgram Unit := do
  let outcome ← (ask (EcuAsk.setSafetyMode mode param) : EcuProgram UsbOutcome)
  orThrow outcome

def readHealth : EcuProgram PandaHealth := do
  let outcome ← (ask EcuAsk.health : EcuProgram (Except String PandaHealth))
  orThrow outcome

def load (member : SharedMember) : EcuProgram Bool := ask (EcuAsk.load member)

def writeRaw (frame : BusFrame) : EcuProgram WriteOutcome := ask (EcuAsk.sendRaw frame)

def writeFrames (frames : List BusFrame) : EcuProgram WriteOutcome := ask (EcuAsk.sendFrames frames)

def sendFrames (frames : List BusFrame) : EcuProgram Unit := do
  match ← writeFrames frames with
  | .delivered => pure ()
  | .failed _ what => raise what

section Mode
variable (settings : FrameSettings)

/-! ## enter_vehicle_safety_mode -/

def vehicleError : String := "vehicle state or EPS is not ready for ADAS ECU disable"

def checkTakeover (vehicle : VehicleStateData) (commandGapResume : Bool) : EcuProgram Unit := do
  let pending ← load .recoveryPending
  let node ← fetch
  raiseIf (node.mode.recoveryPending || pending) "ECU restoration must finish before rearming"
  raiseIf (!vehicle.valid || vehicle.epsFault) vehicleError
  let licence ← load .moveLicence
  raiseIf ((!vehicle.standstill || aboveDisableSpeed vehicle) &&
    !(commandGapResume && licence && settings.safety.resumeOnCommandReturn)) stationaryError

def stockTemplate (vehicle : VehicleStateData) : EcuProgram (Option BusFrame) :=
  if settings.safety.allowLongitudinal then do
    raiseIf (vehicle.gear != 5) "longitudinal control must be armed in D (gear=5)"
    let now ← steadyNow
    interfere settings.ecanBus
    let node ← fetch
    raiseIf (copyRecentSccTemplate node.frames now).isNone
      "no recent stock ECAN SCC_CONTROL 0x1A0 template"
    pure (copyRecentSccTemplate node.frames now)
  else pure none

def disableRadar : EcuProgram Unit := do
  disableEcu settings.ecanBus .radar
  sendHeartbeat false

def silenceEcus : EcuProgram Unit := do
  sendHeartbeat false
  setSafetyMode kSafetyElm327
    (if settings.safety.resumeOnCommandReturn then settings.safety.requiredSafetyParam
      else kElm327EcanParam)
  disableEcu settings.ecanBus .camera
  sendHeartbeat false
  (disableRadar settings).runIf settings.safety.allowLongitudinal

def loadTemplate : Option BusFrame → EcuProgram Unit
  | none => pure ()
  | some stock => do
      let node ← fetch
      match node.mode.codec.setSccControlTemplate stock with
      | none => raise "invalid stock SCC_CONTROL template"
      | some codec => change fun node => node.setCodec codec

def resetCodec (stock : Option BusFrame) : EcuProgram Unit := do
  change fun node => node.setCodec (node.mode.codec.resetCounters 0 0 0 0)
  loadTemplate stock

def sessionError (readiness : PandaHealth) : String :=
  "Panda command-session CAN did not become ready after takeover: active=" ++
    toString readiness.commandSessionActive.toNat ++ " blocked=" ++
    toString readiness.commandSessionBlocked.toNat ++ " rx_invalid=" ++
    toString readiness.safetyRxInvalid.toNat ++ " rx_checks_invalid=" ++
    toString readiness.safetyRxChecksInvalid.toNat ++ " faults=" ++ toString readiness.faults.toNat

/-- The wait for the session, as many health reads as the clock leaves time for. -/
def awaitSession : Nat → PandaHealth → EcuProgram Unit
  | 0, readiness => raiseIf (!readiness.commandSessionReady) (sessionError readiness)
  | polls + 1, readiness =>
      if readiness.commandSessionReady then pure ()
      else do
        let readiness ← readHealth
        awaitSession polls readiness

def sessionReady : EcuProgram Unit := do
  let readiness ← readHealth
  let polls ← (ask EcuAsk.healthPolls : EcuProgram Nat)
  awaitSession polls readiness

/-- The health reads of `verify_longitudinal_firmware`: the last one, or the first that differs. -/
def pollBlocked (before : PandaHealth) : Nat → PandaHealth → EcuProgram PandaHealth
  | 0, after => pure after
  | attempts + 1, _ => do
      let after ← readHealth
      if after.safetyTxBlocked != before.safetyTxBlocked then pure after
      else pollBlocked before attempts after

def probeRequest : SccRequest where
  accelRawMps2 := .zero
  accelValueMps2 := .zero
  enabled := false
  stopping := false
  gasOverride := false
  setSpeedKph := settings.setSpeedKph
  jerkMps3 := .finite 1
  bus := settings.ecanBus

def sccValueError : String := "SCC_CONTROL contains a non-finite value"

def sendProbe : EcuProgram Unit := do
  let node ← fetch
  match node.mode.codec.makeSccControl (probeRequest settings) with
  | none => raise sccValueError
  | some (codec, frame) => do
      change fun node => node.setCodec codec
      sendFrame frame

def verifyLongitudinalFirmware : EcuProgram Unit := do
  let before ← readHealth
  sendProbe settings
  let after ← pollBlocked before 5 before
  raiseIf (after.safetyTxBlocked != before.safetyTxBlocked)
    "Panda firmware does not allow HYUNDAI longitudinal; flash pinned DEBUG firmware"

/-- The mode change and its confirmation. -/
def enableVehicleMode : EcuProgram Unit := do
  setSafetyMode kSafetyHyundaiCanFd settings.safety.requiredSafetyParam
  sessionReady.runIf settings.safety.resumeOnCommandReturn
  (verifyLongitudinalFirmware settings).runIf settings.safety.allowLongitudinal
  let health ← readHealth
  raiseIf (health.safetyMode.toUInt16 != kSafetyHyundaiCanFd ||
    health.safetyParam != settings.safety.requiredSafetyParam)
    "Panda rejected the requested Hyundai CAN-FD safety mode"
  let now ← steadyNow
  maintainDisabledEcus settings.ecanBus now
  change fun node => node.setVehicleMode true

def takeOver (vehicle : VehicleStateData) (commandGapResume : Bool) : EcuProgram Unit := do
  checkTakeover settings vehicle commandGapResume
  let stock ← stockTemplate settings vehicle
  silenceEcus settings
  resetCodec stock
  enableVehicleMode settings

def enterVehicleSafetyMode (vehicle : VehicleStateData) (commandGapResume : Bool) :
    EcuProgram Unit := do
  let node ← fetch
  if node.mode.vehicleSafetyMode then pure () else takeOver settings vehicle commandGapResume

/-! ## enter_no_output_mode -/

def elmMode : EcuProgram Unit := do
  let preserve ← load .preserveCommandSession
  setSafetyMode kSafetyElm327
    (if preserve then settings.safety.requiredSafetyParam else kElm327EcanParam)

def elmRestoreMode : EcuProgram Unit := do
  let node ← fetch
  (elmMode settings).runIf (node.camera.disabled || node.radar.disabled)

def restoreAndBeat (ecu : EcuId) : EcuProgram Unit := do
  let node ← fetch
  restoreEcu settings.ecanBus node.mode.recoveryRetry.failures ecu
  sendHeartbeat false

def restoreEcuIf (elmReady : Bool) (ecu : EcuId) : EcuProgram Unit := do
  let node ← fetch
  (restoreAndBeat settings ecu).runIf (elmReady && (node.flags ecu).disabled)

def confirmEcuIf (elmReady : Bool) (ecu : EcuId) : EcuProgram Unit := do
  let node ← fetch
  (confirmEcuRestored settings.ecanBus ecu).runIf (elmReady && (node.flags ecu).disabled)

def clearProfile (standbyParam : UInt16) : EcuProgram Unit := do
  let preserve ← load .preserveCommandSession
  (setSafetyMode kSafetyNoOutput 0).runIf (standbyParam != 0 && !preserve)

def standDown : EcuProgram Unit := do
  let preserve ← load .preserveCommandSession
  let disarmed ← load .operatorDisarmed
  let standbyParam := recoveryStandbyParam settings.safety.requiredSafetyParam preserve
    settings.safety.resumeOnCommandReturn disarmed
  clearProfile standbyParam
  setSafetyMode kSafetyNoOutput standbyParam
  let health ← readHealth
  raiseIf (health.safetyMode.toUInt16 != kSafetyNoOutput || health.safetyParam != standbyParam ||
    health.controlsAllowed) "Panda NO_OUTPUT confirmation failed"

/-- The end, with the errors recorded so far. -/
def endRestoration (errors : List String) : EcuProgram Unit := do
  change fun node => node.setCodec (node.mode.codec.clearSccControlTemplate.resetCounters 0 0 0 0)
  if errors.isEmpty then
    change fun node => (node.setRetry node.mode.recoveryRetry.restored).setPending false
  else do
    let now ← steadyNow
    change fun node => node.setRetry (node.mode.recoveryRetry.failed now)
    raise (joinedErrors errors)

/-- Both ECUs, each tried whatever failed before it, and both confirmed after both are restored. -/
def restoreEcus (elmReady : Bool) (errors : List String) : EcuProgram (List String) := do
  let radar ← (restoreEcuIf settings elmReady .radar).outcome
  let camera ← (restoreEcuIf settings elmReady .camera).outcome
  let radarStock ← (confirmEcuIf settings elmReady .radar).outcome
  let cameraStock ← (confirmEcuIf settings elmReady .camera).outcome
  pure (recordError "camera stock confirmation"
    (recordError "radar stock confirmation"
      (recordError "camera restore" (recordError "radar restore" errors radar) camera)
      radarStock) cameraStock)

def enterNoOutputMode : EcuProgram Unit := do
  change fun node => (node.setVehicleMode false).setPending true
  let now ← steadyNow
  change fun node => node.setRetry (node.mode.recoveryRetry.request now)
  let heartbeat ← (sendHeartbeat false).outcome
  let elm ← (elmRestoreMode settings).outcome
  let errors ← restoreEcus settings elm.isOk
    (recordError "ELM327 restore mode" (recordError "heartbeat" [] heartbeat) elm)
  let noOutput ← (standDown settings).outcome
  endRestoration (recordError "NO_OUTPUT" errors noOutput)

/-! ## The other holders of the mutex -/

def assembleAndSend (frameIndex : UInt64) (decision : SafetyDecision) (output : ControlOutput)
    (vehicle : VehicleStateData) (now : TimePoint) : EcuProgram Unit := do
  let node ← fetch
  let made := assembleFrames settings node.mode.codec frameIndex decision output vehicle
  change fun node => node.setCodec made.1
  match made.2 with
  | none =>
      raise (if made.1.hasSccTemplate then sccValueError else "stock SCC_CONTROL template was lost")
  | some frames => do
      sendFrames frames
      maintainDisabledEcus settings.ecanBus now

def sendControlFrames (frameIndex : UInt64) (decision : SafetyDecision) (output : ControlOutput)
    (vehicle : VehicleStateData) (sessionReady : Bool) (now : TimePoint) : EcuProgram Unit := do
  let connected ← (ask EcuAsk.connected : EcuProgram Bool)
  let node ← fetch
  (assembleAndSend settings frameIndex decision output vehicle now).runIf
    (node.mode.vehicleSafetyMode && connected &&
      (!settings.safety.resumeOnCommandReturn || sessionReady))

/-- What becomes of a raw frame is only counted. -/
def countRaw (frame : BusFrame) : EcuProgram Unit := do
  let _ ← writeRaw frame

/-- `raw_can_tx_callback` of a valid message. -/
def sendRaw (frame : BusFrame) : EcuProgram Unit := do
  let longitudinalAllowed ← load .longitudinalAllowed
  let lateralAllowed ← load .lateralAllowed
  let connected ← (ask EcuAsk.connected : EcuProgram Bool)
  let node ← fetch
  (countRaw frame).runIf
    (!(frame.address == lfaAddress && !lateralAllowed) && node.mode.vehicleSafetyMode &&
      connected && longitudinalAllowed)

/-- The arm request of an inactive session. -/
def installListener : EcuProgram Unit := do
  setSafetyMode kSafetyNoOutput settings.safety.requiredSafetyParam
  let _ ← readHealth

def dropLongitudinalPermission : EcuProgram Unit := do
  let outcome ← (ask EcuAsk.dropPermission : EcuProgram UsbOutcome)
  orThrow outcome

/-- The connection in `receive_loop`. -/
def connectPanda : EcuProgram Unit := do
  let outcome ← (ask EcuAsk.connect : EcuProgram UsbOutcome)
  orThrow outcome
  change fun node => node.setVehicleMode false

/-- The error handler of `receive_loop`. -/
def losePanda : EcuProgram Unit := do
  let _ ← (ask EcuAsk.disconnect : EcuProgram Unit)
  change fun node => node.setVehicleMode false

/-! ## Any of them -/

inductive ModeCall
  | takeover (vehicle : VehicleStateData) (commandGapResume : Bool)
  | restoration
  | iteration (frameIndex : UInt64) (decision : SafetyDecision) (output : ControlOutput)
      (vehicle : VehicleStateData) (sessionReady : Bool) (now : TimePoint)
  | raw (message : RawCanFrame)
  | heartbeat (engaged : Bool)
  | listener
  | dropPermission
  | connection
  | loss
  | internalDisarm

def runModeCall : ModeCall → EcuProgram Unit
  | .takeover vehicle commandGapResume => enterVehicleSafetyMode settings vehicle commandGapResume
  | .restoration => enterNoOutputMode settings
  | .iteration frameIndex decision output vehicle sessionReady now =>
      sendControlFrames settings frameIndex decision output vehicle sessionReady now
  | .raw message => (sendRaw message.frame).runIf message.valid
  | .heartbeat engaged => sendHeartbeat engaged
  | .listener => installListener settings
  | .dropPermission => dropLongitudinalPermission
  | .connection => connectPanda
  | .loss => losePanda
  | .internalDisarm => change fun node => node.setPending true

def serveModeCalls : List ModeCall → EcuProgram (List UsbOutcome)
  | [] => pure []
  | call :: rest => do
      let outcome ← (runModeCall settings call).outcome
      let later ← serveModeCalls rest
      pure (outcome :: later)

end Mode
end Ioniq5Ecan.Ecus
