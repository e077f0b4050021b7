import Mathlib.Data.Rat.Floor
import Ioniq5Ecan.Library.Dialogue
import Ioniq5Ecan.Library.Double
import Ioniq5Ecan.Node.EcuPrograms

/-! # steering_sweep.py

The bench script that silences the camera, and the radar for a speed test, waits
for the driver to arm the Panda, drives the steering and restores everything,
whatever failed.  The Panda library and the clock are questions, and any of
their calls may raise; how many rounds a loop makes before its deadline is a
question, too. -/
set_option autoImplicit false
namespace Ioniq5Ecan.Sweep

open Library (Program Double)
open Library.Program (ask fetch change raise raiseIf)
open Ecus (requestAddress ecuResponseAddress startsWith bytesAsHex)

/-! ## The parties -/

/-- A Python exception: the two that `main` handles, any other `Exception`, and the key interrupt,
which is none. -/
inductive Failure
  | sweepError (text : String)
  | osError (text : String)
  | exception (text : String)
  | interrupt
  deriving DecidableEq

structure RxFrame where
  address : UInt32
  data : List UInt8
  bus : Nat
  deriving DecidableEq

/-- The frames as the arguments of the functions that pack them. -/
inductive SweepFrame
  | lfa (torque : Int) (enabled steerRequest : Bool)
  | cluster (active : Bool)
  | sccControl (template : List UInt8) (counter : Nat) (accelRaw accelValue : Rat) (enabled : Bool)
      (setSpeedKph : Rat) (stopping : Bool)
  | fcaWarning
  deriving DecidableEq

structure SweepHealth where
  carHarnessStatus : Nat
  ignitionLine : Bool
  faults : UInt32
  safetyMode : Nat
  safetyParam : Nat
  safetyRxChecksInvalid : Bool
  controlsAllowed : Bool
  safetyTxBlocked : Nat

/-- What is set up before the diagnostics. -/
inductive PandaSetup
  | canResetCommunications
  | setPowerSave
  | setCanSpeed
  | setCanDataSpeed
  | setCanFdAuto
  | canClear

inductive SweepAsk
  | openPanda (serial : String)
  | monotonic
  | rounds
  | canRecv
  | canSend (address : UInt32) (data : List UInt8)
  | canSendMany (frames : List SweepFrame)
  | sendHeartbeat (engaged : Bool)
  | health
  | setSafetyMode (mode param : Nat)
  | getVersion
  | setUp (step : PandaSetup)
  | close

/-- What a question is answered with, unless it raises. -/
def SweepValue : SweepAsk → Type
  | .openPanda _ => Unit
  | .monotonic => Rat
  | .rounds => Nat
  | .canRecv => List RxFrame
  | .canSend _ _ => Unit
  | .canSendMany _ => Unit
  | .sendHeartbeat _ => Unit
  | .health => SweepHealth
  | .setSafetyMode _ _ => Unit
  | .getVersion => String
  | .setUp _ => Unit
  | .close => Unit

def SweepAnswer (question : SweepAsk) : Type := Except Failure (SweepValue question)

def pinnedVersion : String := "IONIQ5ECAN-dd8a5b3d-DEBUG"
def hyundaiCanFd : Nat := 28
def noOutput : Nat := 19
def elm327 : Nat := 3
def elm327EcanParam : Nat := 1
def ecanSteeringTestParam : Nat := 1 ||| 4 ||| 1024 ||| 2048
def ignoredNonEcanFaults : UInt32 := ((1 : UInt32) <<< 3) ||| ((1 : UInt32) <<< 4)
def testerPresent : List UInt8 := [0x02, 0x3E, 0x80, 0x00, 0x00, 0x00, 0x00, 0x00]
def maxSteerTorque : Int := 270
def maxAngleForContinuousRequestDeg : Rat := 85
def maxAngleRequestFrames : Nat := 89
def maxAngleRequestCutFrames : Nat := 2

/-! ## Numbers and texts -/

def clip (value lower upper : Rat) : Rat := min (max value lower) upper

def clipTorque (value lower upper : Int) : Int := min (max value lower) upper

def rateLimitTorque (desired previous : Int) : Int :=
  if 0 < previous then clipTorque desired (previous - 3) (previous + 2)
  else if previous < 0 then clipTorque desired (previous - 2) (previous + 3)
  else clipTorque desired (-2) 2

/-- `round`: halves go to the even neighbour. -/
def roundHalfEven (value : Rat) : Int :=
  let low := ⌊value⌋
  let rest := value - low
  if rest < 1 / 2 then low
  else if 1 / 2 < rest then low + 1
  else if low % 2 = 0 then low
  else low + 1

/-- A number with some decimals, as `:.1f` and `:.2f` print it. -/
def fixedPoint (decimals : Nat) (value : Rat) : String :=
  let scaled := roundHalfEven (|value| * 10 ^ decimals)
  let whole := scaled / 10 ^ decimals
  let fraction := toString (scaled % 10 ^ decimals)
  (if value < 0 then "-" else "") ++ toString whole ++ "." ++
    String.ofList (List.replicate (decimals - fraction.length) '0') ++ fraction

def hexAddress (address : UInt32) : String :=
  "0x" ++ (String.ofList (Nat.toDigits 16 address.toNat)).toUpper

/-- Text or `None`. -/
def orNone {Value : Type} (text : Value → String) : Option Value → String
  | some value => text value
  | none => "None"

def boolText (value : Bool) : String := if value then "True" else "False"

def wordAt (data : List UInt8) (index : Nat) : Nat :=
  (data.getD index 0).toNat + 256 * (data.getD (index + 1) 0).toNat

def signedWordAt (data : List UInt8) (index : Nat) : Int :=
  if wordAt data index < 0x8000 then wordAt data index else wordAt data index - 0x10000

def angleOf (data : List UInt8) : Rat := signedWordAt data 3 / 10

def wheelOf (data : List UInt8) : Rat :=
  [10, 12, 14].foldl (fun fastest index => max fastest ((wordAt data index % 0x4000 : Nat) / 32))
    ((wordAt data 8 % 0x4000 : Nat) / 32)

/-! ## The arguments -/

structure SweepArgs where
  serial : String
  offsetDeg : Double := .finite 45
  rollingTest : Bool := false
  rollingMinKph : Double := .finite 1
  rollingMaxKph : Double := .finite 5
  timedHoldS : Double := .zero
  targetSpeedKph : Double := .zero
  accelMaxMps2 : Double := .finite (7 / 10)
  decelMaxMps2 : Double := .finite (7 / 10)
  combinedCycles : Int := 0
  combinedSegmentS : Double := .finite 2
  steeringCycles : Int := 1
  torqueSweep : Bool := false
  execute : Bool := false

namespace SweepArgs

/-- Outside of a closed range, or no number. -/
def outside (value lower upper : Double) : Bool :=
  !value.isFinite || value.lt lower || upper.lt value

def rollingMaxLimit (args : SweepArgs) : Double :=
  match args.targetSpeedKph with
  | .finite target => if 0 < target then .finite (target + 1) else .finite 10
  | .infinite negative => if negative then .finite 10 else .infinite false
  | .nan => .finite 10

def printed : Double → String
  | .finite value => fixedPoint 1 value
  | .infinite negative => if negative then "-inf" else "inf"
  | .nan => "nan"

/-- The checks of `main` in their order. -/
def refusals (args : SweepArgs) : List (Bool × String) :=
  let driven := Double.zero.lt args.targetSpeedKph
  let timed := Double.zero.lt args.timedHoldS
  [(!args.execute, "--execute is required"),
    (args.serial.length != 24, "--serial must be 24 characters"),
    (outside args.offsetDeg .zero (.finite 45) || args.offsetDeg == .zero,
      "--offset-deg must be within (0,45]"),
    (!args.rollingMinKph.isFinite || !args.rollingMaxKph.isFinite,
      "rolling speed limits must be finite"),
    (args.rollingMinKph.lt (.finite (1 / 2)) || args.rollingMaxLimit.lt args.rollingMaxKph,
      "rolling speed range must stay within 0.5-" ++ printed args.rollingMaxLimit ++ " km/h"),
    (args.rollingMaxKph.le args.rollingMinKph,
      "--rolling-min-kph must be lower than --rolling-max-kph"),
    (outside args.timedHoldS .zero (.finite 5), "--timed-hold-s must be within [0,5]"),
    (outside args.targetSpeedKph .zero (.finite 15), "--target-speed-kph must be within [0,15]"),
    (driven && args.targetSpeedKph.lt (.finite 5),
      "non-zero --target-speed-kph must be at least 5 km/h"),
    (outside args.accelMaxMps2 (.finite (1 / 10)) (.finite (7 / 10)),
      "--accel-max-mps2 must be within [0.1,0.7]"),
    (outside args.decelMaxMps2 (.finite (1 / 10)) (.finite 1),
      "--decel-max-mps2 must be within [0.1,1.0]"),
    (args.combinedCycles < 0 || 10 < args.combinedCycles,
      "--combined-cycles must be within [0,10]"),
    (outside args.combinedSegmentS (.finite (1 / 2)) (.finite 5),
      "--combined-segment-s must be within [0.5,5.0]"),
    (args.steeringCycles < 1 || 10 < args.steeringCycles,
      "--steering-cycles must be within [1,10]"),
    (driven && !args.rollingTest, "--target-speed-kph requires --rolling-test"),
    (decide (0 < args.combinedCycles) && !driven,
      "--combined-cycles requires a non-zero --target-speed-kph"),
    (decide (1 < args.steeringCycles) && !timed,
      "--steering-cycles above 1 requires --timed-hold-s"),
    (args.torqueSweep && !timed, "--torque-sweep requires --timed-hold-s"),
    (args.torqueSweep && (args.rollingTest || driven), "--torque-sweep is standstill-only"),
    (driven && timed,
      "straight acceleration and timed steering modes are mutually exclusive")]

/-- The text of `parser.error`. -/
def refused (args : SweepArgs) : Option String :=
  (args.refusals.find? Prod.fst).map Prod.snd

def number : Double → Rat
  | .finite value => value
  | _ => 0

end SweepArgs

/-- The arguments as the run reads them. -/
structure SweepSettings where
  serial : String
  offsetDeg : Rat
  rollingTest : Bool
  rollingMinKph : Rat
  /-- `runtime_max_kph`. -/
  rollingMaxKph : Rat
  timedHoldS : Rat
  targetSpeedKph : Rat
  accelMaxMps2 : Rat
  decelMaxMps2 : Rat
  combinedCycles : Nat
  steeringCycles : Nat
  torqueSweep : Bool

namespace SweepSettings

def longitudinalTest (settings : SweepSettings) : Bool := decide (0 < settings.targetSpeedKph)

/-- `ecu_sessions`. -/
def ecuSessions (settings : SweepSettings) : List EcuId :=
  if settings.longitudinalTest then [.camera, .radar] else [.camera]

end SweepSettings

def SweepArgs.settings (args : SweepArgs) : SweepSettings where
  serial := args.serial
  offsetDeg := number args.offsetDeg
  rollingTest := args.rollingTest
  rollingMinKph := number args.rollingMinKph
  rollingMaxKph :=
    if 0 < number args.targetSpeedKph then number args.targetSpeedKph + 1
    else number args.rollingMaxKph
  timedHoldS := number args.timedHoldS
  targetSpeedKph := number args.targetSpeedKph
  accelMaxMps2 := number args.accelMaxMps2
  decelMaxMps2 := number args.decelMaxMps2
  combinedCycles := args.combinedCycles.toNat
  steeringCycles := args.steeringCycles.toNat
  torqueSweep := args.torqueSweep

/-! ## The members -/

/-- The members of an `EcuSession` that change. -/
structure SessionMembers where
  disabled : Bool := false
  lastTesterPresent : Rat := 0

/-- The members of `SteeringSweep`. -/
structure SweepMembers where
  sccControlTemplate : Option (List UInt8) := none
  sccControlCounter : Nat := 0
  angleDeg : Option Rat := none
  maxWheelKph : Option Rat := none
  driverTorque : Option Int := none
  gear : Option Nat := none
  acceleratorPedal : Option Nat := none
  brakePressed : Option Bool := none
  cruiseButton : Option Nat := none
  angleTime : Rat := 0
  wheelTime : Rat := 0
  frame : Nat := 0
  appliedTorque : Int := 0
  torquePolarity : Int := 1
  lastHeartbeat : Rat := 0
  lastHealth : Rat := 0
  initialTxBlocked : Nat := 0
  accelLast : Rat := 0
  angleLimitCounter : Nat := 0
  torquePolarityChecked : Bool := false
  rejectedTxAddresses : List UInt32 := []

/-- The sessions, and `sweep` once it is made. -/
structure SweepState where
  camera : SessionMembers := {}
  radar : SessionMembers := {}
  sweep : SweepMembers := {}
  made : Bool := false

namespace SweepState

def session (state : SweepState) : EcuId → SessionMembers
  | .camera => state.camera
  | .radar => state.radar

def setSession (state : SweepState) (ecu : EcuId) (members : SessionMembers) : SweepState :=
  match ecu with
  | .camera => { state with camera := members }
  | .radar => { state with radar := members }

def setSweep (state : SweepState) (members : SweepMembers) : SweepState :=
  { state with sweep := members }

end SweepState

abbrev SweepProgram (Value : Type) : Type := Program SweepAsk SweepAnswer SweepState Failure Value

def settle {Value : Type} : Except Failure Value → SweepProgram Value
  | .ok value => pure value
  | .error what => raise what

/-- A call of the library or the clock. -/
def call (question : SweepAsk) : SweepProgram (SweepValue question) := do
  let answer ← (ask question : SweepProgram (SweepAnswer question))
  settle answer

def monotonic : SweepProgram Rat := call .monotonic
def loopRounds : SweepProgram Nat := call .rounds
def canRecv : SweepProgram (List RxFrame) := call .canRecv
def readHealth : SweepProgram SweepHealth := call .health
def getVersion : SweepProgram String := call .getVersion
def openPanda (serial : String) : SweepProgram Unit := call (.openPanda serial)
def canSend (address : UInt32) (data : List UInt8) : SweepProgram Unit :=
  call (.canSend address data)
def canSendMany (frames : List SweepFrame) : SweepProgram Unit := call (.canSendMany frames)
def sendHeartbeat (engaged : Bool) : SweepProgram Unit := call (.sendHeartbeat engaged)
def setSafetyMode (mode param : Nat) : SweepProgram Unit := call (.setSafetyMode mode param)
def setUp (step : PandaSetup) : SweepProgram Unit := call (.setUp step)
def closePanda : SweepProgram Unit := call .close

def members : SweepProgram SweepMembers := do
  let state ← fetch
  pure state.sweep

def update (step : SweepMembers → SweepMembers) : SweepProgram Unit :=
  change fun state => state.setSweep (step state.sweep)

/-- `except Exception`, with a warning: the key interrupt goes on. -/
def warned (program : SweepProgram Unit) : SweepProgram Unit :=
  program.catching fun what => if what = .interrupt then raise what else pure ()

/-! ## EcuSession -/

def label : EcuId → String
  | .camera => "CAMERA"
  | .radar => "RADAR"

def quietAddress : EcuId → UInt32
  | .camera => 0x12A
  | .radar => 0x1A0

/-- A response of the ECU, without its length. -/
def responseOf (ecu : EcuId) (frame : RxFrame) : Option (List UInt8) :=
  let length := (frame.data.getD 0 0).toNat
  if frame.bus != 0 || frame.address != ecuResponseAddress ecu || frame.data.length != 8 then none
  else if length / 16 != 0 || decide (7 < length % 16) then none
  else some ((frame.data.drop 1).take (length % 16))

/-- The first negative or expected response. -/
def firstResponse (ecu : EcuId) (expected : List UInt8) (frames : List RxFrame) :
    Option (List UInt8) :=
  (frames.filterMap (responseOf ecu)).find? fun response =>
    startsWith response [0x7F] || startsWith response expected

def singleFrame (payload : List UInt8) : List UInt8 :=
  UInt8.ofNat payload.length :: payload ++ List.replicate (7 - payload.length) 0

def sendSingleFrame (ecu : EcuId) (payload : List UInt8) : SweepProgram Unit := do
  raiseIf (payload.isEmpty || decide (7 < payload.length))
    (.exception "only single-frame UDS payloads are supported")
  canSend (requestAddress ecu) (singleFrame payload)

def awaitResponse (ecu : EcuId) (payload expected : List UInt8) :
    Nat → SweepProgram (List UInt8)
  | 0 => raise (.sweepError (label ecu ++ " UDS response timeout for " ++ bytesAsHex payload))
  | rounds + 1 => do
      let frames ← canRecv
      match firstResponse ecu expected frames with
      | none => awaitResponse ecu payload expected rounds
      | some response =>
          if startsWith response [0x7F] then
            raise (.sweepError (label ecu ++ " UDS negative response: " ++ bytesAsHex response))
          else pure response

def request (ecu : EcuId) (payload expected : List UInt8) : SweepProgram (List UInt8) := do
  sendSingleFrame ecu payload
  let rounds ← loopRounds
  awaitResponse ecu payload expected rounds

def sendTesterPresent (ecu : EcuId) : SweepProgram Unit := do
  canSend (requestAddress ecu) testerPresent
  let now ← monotonic
  change fun state => state.setSession ecu { state.session ecu with lastTesterPresent := now }

def keepAlive (ecu : EcuId) : SweepProgram Unit := do
  let state ← fetch
  let now ← monotonic
  (sendTesterPresent ecu).runIf (decide (4 / 5 ≤ now - (state.session ecu).lastTesterPresent))

def maybeKeepAlive (ecu : EcuId) : SweepProgram Unit := do
  let state ← fetch
  (keepAlive ecu).runIf (state.session ecu).disabled

def quietFrames (ecu : EcuId) (frames : List RxFrame) : Nat :=
  frames.countP fun frame => frame.bus == 0 && frame.address == quietAddress ecu

def countQuiet (ecu : EcuId) : Nat → Nat → SweepProgram Nat
  | 0, observed => pure observed
  | rounds + 1, observed => do
      maybeKeepAlive ecu
      let frames ← canRecv
      countQuiet ecu rounds (observed + quietFrames ecu frames)

def disable (ecu : EcuId) : SweepProgram Unit := do
  setSafetyMode elm327 elm327EcanParam
  let _ ← request ecu [0x10, 0x03] [0x50, 0x03]
  sendSingleFrame ecu [0x28, 0x83, 0x01]
  change fun state => state.setSession ecu { state.session ecu with disabled := true }
  sendTesterPresent ecu
  let _ ← canRecv
  let rounds ← loopRounds
  let observed ← countQuiet ecu rounds 0
  raiseIf (observed != 0) (.sweepError (label ecu ++ " ECU disable failed: observed " ++
    toString observed ++ " stock " ++ hexAddress (quietAddress ecu) ++ " frames"))

def awaitResumed (ecu : EcuId) : Nat → SweepProgram Nat
  | 0 => pure 0
  | rounds + 1 => do
      let frames ← canRecv
      if quietFrames ecu frames != 0 then pure (quietFrames ecu frames)
      else awaitResumed ecu rounds

def restoreDisabled (ecu : EcuId) : SweepProgram Unit := do
  setSafetyMode elm327 elm327EcanParam
  let response ← request ecu [0x28, 0x00, 0x01] [0x68, 0x00]
  let _ ← request ecu [0x10, 0x01] [0x50, 0x01]
  change fun state => state.setSession ecu { state.session ecu with disabled := false }
  let rounds ← loopRounds
  let resumed ← awaitResumed ecu rounds
  raiseIf (resumed == 0) (.sweepError (label ecu ++ " restore response " ++ bytesAsHex response ++
    " received but stock " ++ hexAddress (quietAddress ecu) ++ " did not resume"))

def restore (ecu : EcuId) : SweepProgram Unit := do
  let state ← fetch
  (restoreDisabled ecu).runIf (state.session ecu).disabled

/-! ## Before the diagnostics -/

/-- The locals of `require_stationary_before_adas_disable`. -/
structure Standing where
  angleDeg : Option Rat := none
  maxWheelKph : Option Rat := none
  gear : Option Nat := none
  acceleratorPedal : Option Nat := none
  sccControlTemplate : Option (List UInt8) := none

def Standing.received (standing : Standing) (frame : RxFrame) : Standing :=
  if frame.bus != 0 then standing
  else if frame.address == 0x1A0 && frame.data.length == 32 then
    { standing with sccControlTemplate := some frame.data }
  else if frame.address == 0x125 && frame.data.length == 16 then
    { standing with angleDeg := some (angleOf frame.data) }
  else if frame.address == 0xA0 && frame.data.length == 24 then
    { standing with maxWheelKph := some (wheelOf frame.data) }
  else if frame.address == 0x35 && frame.data.length == 32 then
    { standing with
      acceleratorPedal := some (frame.data.getD 5 0).toNat
      gear := some ((frame.data.getD 24 0).toNat % 8) }
  else standing

def Standing.complete (requireDrive : Bool) (standing : Standing) : Bool :=
  standing.angleDeg.isSome && standing.maxWheelKph.isSome &&
    (!requireDrive || (standing.gear.isSome && standing.sccControlTemplate.isSome))

def awaitStanding (requireDrive : Bool) : Nat → Standing → SweepProgram Standing
  | 0, standing => pure standing
  | rounds + 1, standing => do
      let frames ← canRecv
      let standing := frames.foldl Standing.received standing
      if standing.complete requireDrive then pure standing
      else awaitStanding requireDrive rounds standing

def requireStationaryBeforeAdasDisable (requireDrive : Bool) :
    SweepProgram (Option (List UInt8)) := do
  let rounds ← loopRounds
  let standing ← awaitStanding requireDrive rounds {}
  raiseIf (standing.angleDeg.isNone || standing.maxWheelKph.isNone)
    (.sweepError "standstill preflight did not receive steering angle and wheel speeds")
  raiseIf (decide (1 / 2 < standing.maxWheelKph.getD 0)) (.sweepError
    ("vehicle is moving before ADAS disable: " ++ fixedPoint 2 (standing.maxWheelKph.getD 0) ++
      " km/h"))
  raiseIf (requireDrive && standing.gear != some 5) (.sweepError
    ("longitudinal test must start in D before ADAS disable; got gear=" ++
      orNone toString standing.gear ++
      ". Hold the brake, select D, then run the command again without shifting afterward"))
  raiseIf (requireDrive && standing.sccControlTemplate.isNone)
    (.sweepError "longitudinal test did not receive stock ECAN 0x1A0 before ADAS disable")
  pure standing.sccControlTemplate

/-! ## SteeringSweep -/

def SweepMembers.received (now : Rat) (members : SweepMembers) (frame : RxFrame) : SweepMembers :=
  if 192 ≤ frame.bus then
    { members with rejectedTxAddresses := members.rejectedTxAddresses.insert frame.address }
  else if frame.bus != 0 then members
  else if frame.address == 0x125 && frame.data.length == 16 then
    { members with angleDeg := some (angleOf frame.data), angleTime := now }
  else if frame.address == 0xA0 && frame.data.length == 24 then
    { members with maxWheelKph := some (wheelOf frame.data), wheelTime := now }
  else if frame.address == 0xEA && frame.data.length == 24 then
    { members with driverTorque := some ((wordAt frame.data 10 % 0x2000 : Nat) - 4095) }
  else if frame.address == 0x35 && frame.data.length == 32 then
    { members with
      acceleratorPedal := some (frame.data.getD 5 0).toNat
      gear := some ((frame.data.getD 24 0).toNat % 8) }
  else if frame.address == 0x175 && frame.data.length == 24 then
    { members with brakePressed := some ((frame.data.getD 10 0).toNat / 2 % 2 == 1) }
  else if frame.address == 0x1CF && frame.data.length == 8 then
    { members with cruiseButton := some ((frame.data.getD 2 0).toNat % 8) }
  else members

def updateState : SweepProgram Unit := do
  let now ← monotonic
  let frames ← canRecv
  update fun members => frames.foldl (SweepMembers.received now) members

/-- What `send_control` is called with. -/
structure ControlCall where
  torque : Int
  active : Bool
  heartbeatEngaged : Bool
  longitudinalEnabled : Bool := false
  accelRaw : Rat := 0
  accelValue : Rat := 0
  stopping : Bool := false

/-- The angle limit, which cuts the request after 89 frames at a high angle. -/
def countAngle (members : SweepMembers) (active : Bool) : Nat :=
  if active && decide (maxAngleForContinuousRequestDeg ≤ |members.angleDeg.getD 0|) then
    members.angleLimitCounter + 1
  else 0

def steerRequest (counter : Nat) (active : Bool) : Bool :=
  active && decide (counter ≤ maxAngleRequestFrames)

def keptAngleCounter (counter : Nat) : Nat :=
  if maxAngleRequestFrames + maxAngleRequestCutFrames ≤ counter then 0 else counter

section Methods
variable (settings : SweepSettings)

/-- The frames of a call; the SCC frame needs the template. -/
def controlFrames (members : SweepMembers) (control : ControlCall) : Option (List SweepFrame) :=
  let counter := countAngle members control.active
  let lateral := SweepFrame.lfa control.torque control.active (steerRequest counter control.active) ::
    if members.frame % 5 = 0 then [.cluster control.active] else []
  if settings.longitudinalTest && members.frame % 2 == 0 then
    members.sccControlTemplate.map fun template =>
      lateral ++
        [.sccControl template members.sccControlCounter
          (if control.longitudinalEnabled then control.accelRaw else 0)
          (if control.longitudinalEnabled then control.accelValue else 0)
          control.longitudinalEnabled settings.targetSpeedKph
          (control.longitudinalEnabled && control.stopping),
        .fcaWarning]
  else some lateral

def countScc (members : SweepMembers) : SweepMembers :=
  { members with
    sccControlCounter :=
      if settings.longitudinalTest && members.frame % 2 == 0 then
        (members.sccControlCounter + 1) % 256
      else members.sccControlCounter }

def beat (engaged : Bool) (now : Rat) : SweepProgram Unit := do
  sendHeartbeat engaged
  update fun members => { members with lastHeartbeat := now }

def keepAllAlive : List EcuId → SweepProgram Unit
  | [] => pure ()
  | ecu :: rest => do
      maybeKeepAlive ecu
      keepAllAlive rest

def sendControl (control : ControlCall) : SweepProgram Unit := do
  let before ← members
  update fun members =>
    { members with angleLimitCounter := keptAngleCounter (countAngle before control.active) }
  match controlFrames settings before control with
  | none => raise (.exception "")
  | some frames => do
      update (countScc settings)
      canSendMany frames
      let now ← monotonic
      (beat control.heartbeatEngaged now).runIf (decide (1 / 4 ≤ now - before.lastHeartbeat))
      keepAllAlive settings.ecuSessions
      update fun members => { members with frame := members.frame + 1 }

/-! ### verify_runtime -/

/-- The addresses that the Panda gave back, in order. -/
def rejectedText (members : SweepMembers) (nothing : String) : String :=
  if members.rejectedTxAddresses.isEmpty then nothing
  else ",".intercalate ((members.rejectedTxAddresses.mergeSort fun first second => first ≤ second).map
    hexAddress)

def driverText (members : SweepMembers) : String :=
  "pedal=" ++ orNone toString members.acceleratorPedal ++ " brake=" ++
    orNone boolText members.brakePressed ++ " gear=" ++ orNone toString members.gear ++ " button=" ++
    orNone toString members.cruiseButton

def speedLimit (allowRolling requireRolling : Bool) : Rat :=
  if allowRolling || requireRolling then settings.rollingMaxKph else 1 / 2

def checkSensors (members : SweepMembers) (now : Rat) (allowRolling requireRolling : Bool) :
    SweepProgram Unit := do
  raiseIf (members.angleDeg.isNone || decide (1 / 4 < now - members.angleTime))
    (.sweepError "STEERING_SENSORS timeout")
  raiseIf (members.maxWheelKph.isNone || decide (1 / 4 < now - members.wheelTime))
    (.sweepError "WHEEL_SPEEDS timeout")
  raiseIf (requireRolling && decide (members.maxWheelKph.getD 0 < settings.rollingMinKph))
    (.sweepError ("rolling speed fell below " ++ fixedPoint 1 settings.rollingMinKph ++ " km/h: " ++
      fixedPoint 2 (members.maxWheelKph.getD 0) ++ " km/h"))
  raiseIf (decide (speedLimit settings allowRolling requireRolling < members.maxWheelKph.getD 0))
    (.sweepError ("speed limit " ++ fixedPoint 1 (speedLimit settings allowRolling requireRolling) ++
      " km/h exceeded: " ++ fixedPoint 2 (members.maxWheelKph.getD 0) ++ " km/h"))

def checkHealth (members : SweepMembers) (health : SweepHealth) (requireControls : Bool) :
    SweepProgram Unit := do
  raiseIf (health.carHarnessStatus != 1) (.sweepError
    ("harness orientation changed to " ++ toString health.carHarnessStatus))
  raiseIf (health.safetyMode != hyundaiCanFd || health.safetyParam != ecanSteeringTestParam)
    (.sweepError ("safety mode drifted to " ++ toString health.safetyMode ++ "/" ++
      toString health.safetyParam))
  raiseIf (health.faults &&& ~~~ignoredNonEcanFaults != 0 || health.safetyRxChecksInvalid)
    (.sweepError ("Panda safety fault: faults=" ++ toString health.faults.toNat ++ " rx_invalid=" ++
      boolText health.safetyRxChecksInvalid))
  raiseIf (requireControls && !health.controlsAllowed) (.sweepError
    ("Panda controls_allowed became false: " ++ driverText members ++ " rejected=" ++
      rejectedText members "none"))
  raiseIf (health.safetyTxBlocked != members.initialTxBlocked) (.sweepError
    ("Panda blocked CAN address(es): " ++ rejectedText members "unknown" ++ "; controls=" ++
      boolText health.controlsAllowed ++ " " ++ driverText members))

def pollHealth (requireControls : Bool) (now : Rat) : SweepProgram Unit := do
  let health ← readHealth
  let members ← members
  checkHealth members health requireControls
  update fun members => { members with rejectedTxAddresses := [], lastHealth := now }

def verifyRuntime (requireControls allowRolling requireRolling : Bool) : SweepProgram Unit := do
  let now ← monotonic
  let members ← members
  checkSensors settings members now allowRolling requireRolling
  (pollHealth requireControls now).runIf (decide (1 / 5 ≤ now - members.lastHealth))

/-! ### Waiting -/

def rateLimit (desired : Int) : SweepProgram Int := do
  update fun members =>
    { members with appliedTorque := rateLimitTorque desired members.appliedTorque }
  let members ← members
  pure members.appliedTorque

def inactiveTick : SweepProgram Unit := do
  updateState
  let torque ← rateLimit 0
  sendControl settings { torque := torque, active := false, heartbeatEngaged := false }

def inactiveTicks : Nat → SweepProgram Unit
  | 0 => pure ()
  | rounds + 1 => do
      inactiveTick settings
      inactiveTicks rounds

/-- The end of `wait_for_arm`. -/
def armed : SweepProgram Unit := do
  sendHeartbeat true
  let now ← monotonic
  update fun members => { members with lastHeartbeat := now }

def awaitArm (rolling : Bool) : Nat → SweepProgram Unit
  | 0 => raise (.sweepError "LDA arm timeout")
  | rounds + 1 => do
      inactiveTick settings
      verifyRuntime settings false rolling rolling
      let health ← readHealth
      if health.controlsAllowed then armed else awaitArm rolling rounds

def waitForArm (rolling : Bool) : SweepProgram Unit := do
  let rounds ← loopRounds
  awaitArm settings rolling rounds

def awaitRolling : Nat → SweepProgram Unit
  | 0 => raise (.sweepError "rolling speed entry timeout")
  | rounds + 1 => do
      updateState
      sendControl settings { torque := 0, active := false, heartbeatEngaged := false }
      verifyRuntime settings false true false
      let members ← members
      if settings.rollingMinKph ≤ members.maxWheelKph.getD 0 ∧
          members.maxWheelKph.getD 0 ≤ settings.rollingMaxKph then pure ()
      else awaitRolling rounds

def waitForRolling : SweepProgram Unit := do
  let rounds ← loopRounds
  awaitRolling settings rounds

/-! ### Driving -/

/-- The angle at the start of a phase. -/
def startAngle : SweepProgram Rat := do
  let members ← members
  match members.angleDeg with
  | none => raise (.sweepError "steering angle is unavailable")
  | some angle => pure angle

def flipPolarity : SweepProgram Unit :=
  update fun members => { members with torquePolarity := -members.torquePolarity }

/-- The wheel has moved by a degree: does it follow the torque? -/
def checkPolarity (checked : Bool) (start direction : Rat) : SweepProgram Bool := do
  let members ← members
  let moved := members.angleDeg.getD 0 - start
  if !checked && decide (1 ≤ |moved|) then
    flipPolarity.runIf (decide (moved * direction < 0))
    pure true
  else pure checked

def desiredTorque (gain bound error : Rat) : Int :=
  roundHalfEven (clip (gain * error) (-bound) bound)

/-- The torque toward a target, in the polarity found. -/
def torqueToward (target : Rat) : SweepProgram Int := do
  let members ← members
  rateLimit (desiredTorque 7 260 ((target - members.angleDeg.getD 0) * members.torquePolarity))

def steering (torque : Int) : ControlCall where
  torque := torque
  active := true
  heartbeatEngaged := true

def moveRounds (label : String) (target start : Rat) : Nat → Bool → Option Rat → SweepProgram Unit
  | 0, _, _ => do
      let members ← members
      raise (.sweepError (label ++ " target timeout at " ++ fixedPoint 1 (members.angleDeg.getD 0) ++
        " deg"))
  | rounds + 1, checked, stableSince => do
      updateState
      verifyRuntime settings true false settings.rollingTest
      let members ← members
      let checked ← checkPolarity checked start (target - start)
      let torque ← torqueToward target
      sendControl settings (steering torque)
      if |target - members.angleDeg.getD 0| ≤ 2 then
        let now ← monotonic
        if decide (3 / 10 ≤ now - stableSince.getD now) then pure ()
        else moveRounds label target start rounds checked (some (stableSince.getD now))
      else moveRounds label target start rounds checked none

def moveTo (label : String) (target : Rat) : SweepProgram Unit := do
  let start ← startAngle
  let rounds ← loopRounds
  moveRounds settings label target start rounds false none

def drivingRounds (target start : Rat) : Nat → Bool → SweepProgram Unit
  | 0, _ => pure ()
  | rounds + 1, checked => do
      updateState
      verifyRuntime settings true false settings.rollingTest
      let checked ← checkPolarity checked start (target - start)
      let torque ← torqueToward target
      sendControl settings (steering torque)
      drivingRounds target start rounds checked

def driveTowardFor (target : Rat) : SweepProgram Unit := do
  let start ← startAngle
  let rounds ← loopRounds
  drivingRounds settings target start rounds false

def maxTorqueRounds (label : String) (direction : Int) (start : Rat) :
    Nat → Option Rat → SweepProgram Unit
  | 0, _ => raise (.sweepError (label ++ " could not hold maximum torque for " ++
      fixedPoint 1 settings.timedHoldS ++ " s"))
  | rounds + 1, holdStarted => do
      updateState
      verifyRuntime settings true false false
      let before ← members
      let checked ← checkPolarity before.torquePolarityChecked start direction
      update fun members => { members with torquePolarityChecked := checked }
      let members ← members
      let target := direction * members.torquePolarity * maxSteerTorque
      let torque ← rateLimit target
      sendControl settings (steering torque)
      let now ← monotonic
      if torque = target then
        if holdStarted.isSome && decide (settings.timedHoldS ≤ now - holdStarted.getD now) then pure ()
        else maxTorqueRounds label direction start rounds (some (holdStarted.getD now))
      else maxTorqueRounds label direction start rounds holdStarted

def driveMaxTorqueFor (label : String) (direction : Int) : SweepProgram Unit := do
  let start ← startAngle
  let rounds ← loopRounds
  maxTorqueRounds settings label direction start rounds none

/-! ### Speed -/

/-- The acceleration that the speed asks for. -/
def requestedAccel (wheelKph : Rat) : Rat :=
  if settings.targetSpeedKph - 1 / 5 ≤ wheelKph then 0
  else clip (2 / 5 * (max 0 (settings.targetSpeedKph - wheelKph) / (18 / 5))) (1 / 10)
    settings.accelMaxMps2

/-- `accel_last` follows in steps of 0.01. -/
def followAccel (accelRaw : Rat) : SweepProgram Rat := do
  update fun members =>
    { members with
      accelLast := clip accelRaw (members.accelLast - 1 / 100) (members.accelLast + 1 / 100) }
  let members ← members
  pure members.accelLast

def longitudinalRequest : SweepProgram (Rat × Rat) := do
  let members ← members
  let accelRaw := requestedAccel settings (members.maxWheelKph.getD 0)
  let accelValue ← followAccel accelRaw
  pure (accelRaw, accelValue)

def torqueStraight (center : Rat) : SweepProgram Int := do
  let members ← members
  rateLimit (desiredTorque 3 100 (center - members.angleDeg.getD 0))

def steeringWith (torque : Int) (accel : Rat × Rat) (stopping : Bool) : ControlCall where
  torque := torque
  active := true
  heartbeatEngaged := true
  longitudinalEnabled := true
  accelRaw := accel.1
  accelValue := accel.2
  stopping := stopping

def accelerateRounds (center : Rat) : Nat → Option Rat → SweepProgram Unit
  | 0, _ => do
      let members ← members
      raise (.sweepError (fixedPoint 1 settings.targetSpeedKph ++
        " km/h acceleration timeout at " ++ fixedPoint 2 (members.maxWheelKph.getD 0) ++ " km/h"))
  | rounds + 1, stableSince => do
      updateState
      verifyRuntime settings true true false
      let accel ← longitudinalRequest settings
      let torque ← torqueStraight center
      sendControl settings (steeringWith torque accel false)
      let members ← members
      if settings.targetSpeedKph - 1 / 5 ≤ members.maxWheelKph.getD 0 ∧
          members.accelLast ≤ 1 / 20 then
        let now ← monotonic
        if decide (3 / 10 ≤ now - stableSince.getD now) then pure ()
        else accelerateRounds center rounds (some (stableSince.getD now))
      else accelerateRounds center rounds none

def accelerateStraight (center : Rat) : SweepProgram Unit := do
  let rounds ← loopRounds
  accelerateRounds settings center rounds none

def decelRequest (wheelKph : Rat) : Rat :=
  if wheelKph ≤ 3 / 10 then min (3 / 10) settings.decelMaxMps2
  else clip (7 / 20 * (wheelKph / (18 / 5))) (3 / 20) settings.decelMaxMps2

def decelerateRounds (center : Rat) : Nat → Option Rat → SweepProgram Unit
  | 0, _ => do
      let members ← members
      raise (.sweepError ("deceleration timeout at " ++
        fixedPoint 2 (members.maxWheelKph.getD 0) ++ " km/h"))
  | rounds + 1, stoppedSince => do
      updateState
      verifyRuntime settings true true false
      let members ← members
      let wheelKph := members.maxWheelKph.getD 0
      let accelValue ← followAccel (-decelRequest settings wheelKph)
      let torque ← torqueStraight center
      sendControl settings
        (steeringWith torque (-decelRequest settings wheelKph, accelValue) (decide (wheelKph ≤ 2)))
      let now ← monotonic
      if wheelKph ≤ 3 / 10 then
        if decide (1 ≤ now - stoppedSince.getD now) then pure ()
        else decelerateRounds center rounds (some (stoppedSince.getD now))
      else decelerateRounds center rounds none

def decelerateToStop (center : Rat) : SweepProgram Unit := do
  let rounds ← loopRounds
  decelerateRounds settings center rounds none

def combinedRounds (target start : Rat) : Nat → Bool → SweepProgram Unit
  | 0, _ => pure ()
  | rounds + 1, checked => do
      updateState
      verifyRuntime settings true false true
      let checked ← checkPolarity checked start (target - start)
      let torque ← torqueToward target
      let accel ← longitudinalRequest settings
      sendControl settings (steeringWith torque accel false)
      combinedRounds target start rounds checked

def combinedSegment (target : Rat) : SweepProgram Unit := do
  let start ← startAngle
  let rounds ← loopRounds
  combinedRounds settings target start rounds (decide (|target - start| < 1))

/-! ### ramp_down -/

def rampRounds : Nat → SweepProgram Unit
  | 0 => pure ()
  | rounds + 1 => do
      updateState
      let torque ← rateLimit 0
      sendControl settings
        { torque := torque, active := torque != 0, heartbeatEngaged := false }
      if torque = 0 then pure () else rampRounds rounds

def zeroRounds : Nat → SweepProgram Unit
  | 0 => pure ()
  | rounds + 1 => do
      updateState
      sendControl settings { torque := 0, active := false, heartbeatEngaged := false }
      zeroRounds rounds

def rampDown : SweepProgram Unit := do
  rampRounds settings 100
  zeroRounds settings 5

/-! ### run -/

def forCycles (body : Nat → SweepProgram Unit) : List Nat → SweepProgram Unit
  | [] => pure ()
  | cycle :: rest => do
      body cycle
      forCycles body rest

/-- `range(1, cycles + 1)`. -/
def cycles (count : Nat) : List Nat := (List.range count).map (· + 1)

def longitudinalRun (center : Rat) : SweepProgram Unit := do
  raiseIf (decide (5 < |center|)) (.sweepError
    ("straight acceleration requires steering within +/-5 deg, got " ++ fixedPoint 1 center))
  waitForRolling settings
  waitForArm settings true
  if 0 < settings.combinedCycles then
    forCycles (fun _ => do
      combinedSegment settings (center + settings.offsetDeg)
      combinedSegment settings center
      combinedSegment settings (center - settings.offsetDeg)
      combinedSegment settings center) (cycles settings.combinedCycles)
  else
    accelerateStraight settings center
    decelerateToStop settings center

def sweepCycle (center : Rat) (cycle : Nat) : SweepProgram Unit :=
  if settings.torqueSweep then do
    driveMaxTorqueFor settings ("CYCLE_" ++ toString cycle ++ "_LEFT") 1
    driveMaxTorqueFor settings ("CYCLE_" ++ toString cycle ++ "_RIGHT") (-1)
  else do
    driveTowardFor settings (center + settings.offsetDeg)
    driveTowardFor settings (center - settings.offsetDeg)

def timedRun (center : Rat) : SweepProgram Unit := do
  forCycles (sweepCycle settings center) (cycles settings.steeringCycles)
  (moveTo settings "CENTER" center).runIf (!settings.torqueSweep)

def steeringRun (center : Rat) : SweepProgram Unit := do
  (waitForRolling settings).runIf settings.rollingTest
  waitForArm settings settings.rollingTest
  if 0 < settings.timedHoldS then timedRun settings center
  else
    moveTo settings "LEFT" (center + settings.offsetDeg)
    moveTo settings "CENTER" center
    moveTo settings "RIGHT" (center - settings.offsetDeg)
    moveTo settings "CENTER" center

def run : SweepProgram Unit := do
  inactiveTicks settings 20
  verifyRuntime settings false false false
  let members ← members
  let center := members.angleDeg.getD 0
  raiseIf (!settings.torqueSweep && decide (80 < |center| + settings.offsetDeg)) (.sweepError
    ("initial angle " ++ fixedPoint 1 center ++ " deg is too far from center"))
  raiseIf (settings.torqueSweep && decide (5 < |center|)) (.sweepError
    ("maximum torque sweep requires steering within +/-5 deg, got " ++ fixedPoint 1 center))
  if settings.longitudinalTest then longitudinalRun settings center
  else steeringRun settings center

/-! ## main -/

def setUpAll : List PandaSetup → SweepProgram Unit
  | [] => pure ()
  | step :: rest => do
      setUp step
      setUpAll rest

def disableAll : List EcuId → SweepProgram Unit
  | [] => pure ()
  | ecu :: rest => do
      disable ecu
      disableAll rest

def checkVersion : SweepProgram Unit := do
  let version ← getVersion
  if version != pinnedVersion then
    let version ← getVersion
    raise (.sweepError ("unexpected firmware '" ++ version ++ "'"))
  else pure ()

def checkHarness (health : SweepHealth) : SweepProgram Unit := do
  raiseIf (health.carHarnessStatus == 2) (.sweepError
    ("OBD-C orientation is FLIPPED(2); power off the vehicle and rotate the " ++
      "OBD-C connector 180 degrees so the ECAN-only firmware reports NORMAL(1)"))
  raiseIf (health.carHarnessStatus != 1 || !health.ignitionLine) (.sweepError
    ("requires NORMAL harness_status=1 and ignition_line=1, got " ++
      toString health.carHarnessStatus ++ "/" ++ boolText health.ignitionLine))

/-- `SteeringSweep(...)` and its `initial_tx_blocked`. -/
def makeSweep (template : Option (List UInt8)) (health : SweepHealth) : SweepProgram Unit :=
  change fun state => { state with
    made := true
    sweep := {
      sccControlTemplate := template
      sccControlCounter := (template.elim 0 fun data => (data.getD 2 0).toNat + 1) % 256
      initialTxBlocked := health.safetyTxBlocked } }

def attempt : SweepProgram Unit := do
  checkVersion
  let health ← readHealth
  checkHarness health
  setUpAll [.canResetCommunications, .setPowerSave, .setCanSpeed, .setCanDataSpeed, .setCanFdAuto,
    .canClear]
  setSafetyMode elm327 elm327EcanParam
  let template ← requireStationaryBeforeAdasDisable settings.longitudinalTest
  disableAll settings.ecuSessions
  setSafetyMode hyundaiCanFd ecanSteeringTestParam
  let health ← readHealth
  raiseIf (health.safetyMode != hyundaiCanFd || health.safetyParam != ecanSteeringTestParam)
    (.sweepError ("ECAN safety mode rejected: " ++ toString health.safetyMode ++ "/" ++
      toString health.safetyParam))
  makeSweep template health
  run settings

/-- The `try` with its `except (SweepError, OSError)`, and the return value. -/
def handled : SweepProgram Nat :=
  (do attempt settings; pure 0 : SweepProgram Nat).catching fun what =>
    match what with
    | .sweepError _ => pure 1
    | .osError _ => pure 1
    | other => raise other

def restoreAll : List EcuId → SweepProgram Unit
  | [] => pure ()
  | ecu :: rest => do
      warned (restore ecu)
      restoreAll rest

/-- The `finally`. -/
def cleanUp : SweepProgram Unit := do
  let state ← fetch
  (warned (rampDown settings)).runIf state.made
  warned (sendHeartbeat false)
  restoreAll settings.ecuSessions.reverse
  warned (setSafetyMode noOutput 0)
  closePanda

end Methods

/-- `main` of arguments that the parser accepts, from the opened Panda on. -/
def main (args : SweepArgs) : SweepProgram Nat := do
  openPanda args.serial
  let outcome ← (handled args.settings).outcome
  cleanUp args.settings
  settle outcome

end Ioniq5Ecan.Sweep
