import Ioniq5Ecan.Library.Runs
import Ioniq5Ecan.Types

/-! # The safety supervisor

`safety_supervisor.cpp`: the configuration the constructor accepts, the state,
`request_arm` and `update`.  `update` is cut at its section boundaries:
`observe` is everything before the first gate (buttons, selection, brake and
ACC latches, Panda health, TX rejections); `gateArm`, `gateCommand` and `drive`
are the ordered early returns that follow. -/
set_option autoImplicit false
namespace Ioniq5Ecan

open Library (Double CallMachine)

structure SafetyConfig where
  allowActuation : Bool := false
  allowLongitudinal : Bool := false
  resumeOnCommandReturn : Bool := false
  lateralButtonToggle : Bool := true
  longitudinalButtonToggle : Bool := true
  lateralDisengageOnBrake : Bool := false
  longitudinalDisengageOnBrake : Bool := true
  disengageOnCancel : Bool := true
  longitudinalOverrideOnGas : Bool := true
  maxActiveSpeedMps : Double := .zero
  maxAbsSteeringAngleDeg : Double := .zero
  requiredSafetyMode : UInt8 := 28
  requiredSafetyParam : UInt16 := 3073
  requiredHarnessStatus : UInt8 := 1
  commandTimeout : Milliseconds := 100
  pandaTimeout : Milliseconds := 250
  deriving DecidableEq

/-- The configurations the constructor does not throw on. -/
def SafetyConfig.accepted (config : SafetyConfig) : Bool :=
  !(!config.maxActiveSpeedMps.isFinite || !config.maxAbsSteeringAngleDeg.isFinite ||
    config.maxActiveSpeedMps.lt .zero || config.maxAbsSteeringAngleDeg.lt .zero ||
    decide (config.commandTimeout ≤ 0) || decide (config.pandaTimeout ≤ 0))

structure AcceptedConfig extends SafetyConfig where
  isAccepted : toSafetyConfig.accepted = true

structure SafetyDecision where
  state : ControlState := .disconnected
  lateralAllowed : Bool := false
  longitudinalAllowed : Bool := false
  lateralArmed : Bool := false
  longitudinalArmed : Bool := false
  useVehicleSafetyMode : Bool := false
  heartbeatEngaged : Bool := false
  reason : String := "not initialized"
  softDisableRemainingMs : UInt32 := 0
  waitingForCommand : Bool := false
  deriving DecidableEq

structure SafetySupervisor where
  state : ControlState := .disconnected
  armRequested : Bool := false
  lateralEnabled : Bool := false
  longitudinalEnabled : Bool := false
  longitudinalLatchedOff : Bool := false
  lastLaneKeepButtonEvents : UInt64 := 0
  lastSetButtonEvents : UInt64 := 0
  lastCancelButtonEvents : UInt64 := 0
  lastTxBlocked : UInt32 := 0
  softDisableDeadline : TimePoint := 0
  waitingForCommand : Bool := false
  reason : String := "waiting for Panda"
  deriving DecidableEq

/-- The constructor: it throws on a configuration it does not accept. -/
def SafetySupervisor.construct (config : SafetyConfig) :
    Except String (AcceptedConfig × SafetySupervisor) :=
  if isAccepted : config.accepted then .ok (⟨config, isAccepted⟩, {})
  else .error "invalid safety supervisor configuration"

def softDisableTime : Int := seconds 3

def isEngaged (state : ControlState) : Bool := state == .active || state == .softDisabling

namespace SafetySupervisor

def transition (self : SafetySupervisor) (next : ControlState) (reason : String) :
    SafetySupervisor :=
  { self with
    softDisableDeadline := if next = .softDisabling then self.softDisableDeadline else 0
    state := next
    reason := reason }

/-- What every disarming exit clears. -/
def withdrawArm (self : SafetySupervisor) : SafetySupervisor :=
  { self with armRequested := false, lateralEnabled := false, longitudinalEnabled := false }

def setWaiting (self : SafetySupervisor) (waiting : Bool) : SafetySupervisor :=
  { self with waitingForCommand := waiting }

def setDeadline (self : SafetySupervisor) (deadline : TimePoint) : SafetySupervisor :=
  { self with softDisableDeadline := deadline }

def disarm (self : SafetySupervisor) (reason : String) : SafetySupervisor :=
  self.withdrawArm.transition .passive reason

def fault (self : SafetySupervisor) (reason : String) : SafetySupervisor :=
  self.withdrawArm.transition .fault reason

def requestArm (config : SafetyConfig) (self : SafetySupervisor) (arm : Bool) :
    SafetySupervisor × Bool :=
  if arm && !config.allowActuation then
    (self.transition .passive "actuation disabled by YAML", false)
  else
    let self := if arm && self.state == .fault then
      self.transition .passive "fault acknowledged by rearm" else self
    let self := if arm && !self.armRequested then
      { self with lateralEnabled := false, longitudinalEnabled := false,
                  longitudinalLatchedOff := false } else self
    let self := { self with armRequested := arm }
    if !arm then
      let self := { self with lateralEnabled := false, longitudinalEnabled := false }
      (if self.state != .disconnected then self.transition .passive "operator disarmed" else self,
        true)
    else (self, true)

/-- The `decision` lambda of `update`, evaluated in the state it is called in. -/
def decision (config : SafetyConfig) (self : SafetySupervisor) (now : TimePoint)
    (lateralAllowed longitudinalAllowed useVehicleSafetyMode heartbeatEngaged : Bool) :
    SafetyDecision where
  state := self.state
  lateralAllowed := lateralAllowed
  longitudinalAllowed := longitudinalAllowed
  lateralArmed := self.lateralEnabled
  longitudinalArmed := config.allowLongitudinal && self.longitudinalEnabled
  useVehicleSafetyMode := useVehicleSafetyMode
  heartbeatEngaged := heartbeatEngaged
  reason := self.reason
  softDisableRemainingMs :=
    if self.state = .softDisabling ∧ now < self.softDisableDeadline then
      ((self.softDisableDeadline - now) / nanosecondsPerMillisecond).toNat.toUInt32
    else 0
  waitingForCommand := self.waitingForCommand

def answer (config : SafetyConfig) (self : SafetySupervisor) (now : TimePoint)
    (lateral longitudinal vehicleMode heartbeat : Bool) : SafetySupervisor × SafetyDecision :=
  (self, self.decision config now lateral longitudinal vehicleMode heartbeat)

def pandaFresh (config : SafetyConfig) (now : TimePoint) (panda : PandaHealth) : Bool :=
  panda.connected && recent panda.updatedAt now config.pandaTimeout

def commandFresh (config : SafetyConfig) (now : TimePoint) (command : CommandSample) : Bool :=
  recent command.receivedAt now config.commandTimeout

def laneKeepButtonEvent (self : SafetySupervisor) (vehicle : VehicleStateData) : Bool :=
  vehicle.laneKeepButtonEvents != self.lastLaneKeepButtonEvents

def setButtonEvent (self : SafetySupervisor) (vehicle : VehicleStateData) : Bool :=
  vehicle.setButtonEvents != self.lastSetButtonEvents

def cancelEvent (self : SafetySupervisor) (vehicle : VehicleStateData) : Bool :=
  vehicle.cancelButtonEvents != self.lastCancelButtonEvents

def recordButtons (self : SafetySupervisor) (vehicle : VehicleStateData) : SafetySupervisor :=
  { self with
    lastLaneKeepButtonEvents := vehicle.laneKeepButtonEvents
    lastSetButtonEvents := vehicle.setButtonEvents }

/-- Command-session profile: the firmware selection is authoritative, the longitudinal
latch is not. -/
def selectFromFirmware (self : SafetySupervisor) (vehicle : VehicleStateData)
    (panda : PandaHealth) (setEvent : Bool) : SafetySupervisor × Bool :=
  let latchedOff :=
    if setEvent && !vehicle.brakePressed && !vehicle.accFault then false
    else self.longitudinalLatchedOff
  ({ self with
     longitudinalLatchedOff := latchedOff
     lateralEnabled := panda.lateralSelected
     longitudinalEnabled := panda.longitudinalSelected && !latchedOff },
    (self.lateralEnabled || self.longitudinalEnabled) &&
      !panda.lateralSelected && !panda.longitudinalSelected)

def toggleLateralOnly (config : SafetyConfig) (self : SafetySupervisor) :
    SafetySupervisor × Bool :=
  let lateralOnlySelected := self.lateralEnabled && !self.longitudinalEnabled
  let turnOff := config.lateralButtonToggle && lateralOnlySelected
  ({ self with lateralEnabled := !turnOff, longitudinalEnabled := false }, turnOff)

def toggleCombined (config : SafetyConfig) (self : SafetySupervisor) :
    SafetySupervisor × Bool :=
  let combinedSelected := self.lateralEnabled && self.longitudinalEnabled
  let turnOff := config.longitudinalButtonToggle && combinedSelected
  ({ self with lateralEnabled := !turnOff, longitudinalEnabled := !turnOff }, turnOff)

/-- Channel selection; the second component is `selected_mode_turned_off`. -/
def selectChannels (config : SafetyConfig) (self : SafetySupervisor) (vehicle : VehicleStateData)
    (panda : PandaHealth) (laneKeepEvent setEvent : Bool) : SafetySupervisor × Bool :=
  let selected :=
    if config.resumeOnCommandReturn && self.armRequested then
      self.selectFromFirmware vehicle panda setEvent
    else if self.armRequested && laneKeepEvent then self.toggleLateralOnly config
    else (self, false)
  if !config.resumeOnCommandReturn && selected.1.armRequested && setEvent then
    selected.1.toggleCombined config
  else selected

/-- Brake intervention; the second component is `longitudinal_disengaged_by_brake`. -/
def disengageOnBrake (config : SafetyConfig) (self : SafetySupervisor)
    (vehicle : VehicleStateData) : SafetySupervisor × Bool :=
  if vehicle.brakePressed then
    ({ self with
       longitudinalLatchedOff := self.longitudinalLatchedOff || config.longitudinalDisengageOnBrake
       lateralEnabled := self.lateralEnabled && !config.lateralDisengageOnBrake
       longitudinalEnabled := self.longitudinalEnabled && !config.longitudinalDisengageOnBrake },
      config.longitudinalDisengageOnBrake && self.longitudinalEnabled)
  else (self, false)

/-- ACC fault; the second component is `longitudinal_disengaged_by_acc_fault`. -/
def disengageOnAccFault (config : SafetyConfig) (self : SafetySupervisor)
    (vehicle : VehicleStateData) : SafetySupervisor × Bool :=
  if vehicle.accFault && config.allowLongitudinal && self.longitudinalEnabled then
    ({ self with longitudinalLatchedOff := true, longitudinalEnabled := false }, true)
  else (self, false)

def effectiveFaults (panda : PandaHealth) : UInt32 := panda.faults &&& ~~~panda.ignoredFaults

def ignoredFaultIsOnlyFault (panda : PandaHealth) : Bool :=
  panda.faults != 0 && effectiveFaults panda == 0 && panda.ignoredFaults != 0

/-- The Panda conditions that fault in every state. -/
def pandaHealthFault (panda : PandaHealth) : Bool :=
  panda.commandSessionBlocked || panda.heartbeatLost || panda.safetyRxChecksInvalid ||
    panda.busOff || effectiveFaults panda != 0 ||
    (panda.faultStatus != 0 && !ignoredFaultIsOnlyFault panda)

def knownActuatorAddress (address : UInt32) : Bool :=
  address == 0x12A || address == 0x1A0 || address == 0x160

def longitudinalAddress (address : UInt32) : Bool := address == 0x1A0 || address == 0x160

/-- Panda health and TX rejections; the second component is `longitudinal_tx_rejected`. -/
def observePanda (self : SafetySupervisor) (panda : PandaHealth)
    (selectedModeTurnedOff disengagedByBrake : Bool) : SafetySupervisor × Bool :=
  if pandaHealthFault panda then (self.fault "Panda safety or CAN health fault", false)
  else if isEngaged self.state && decide (self.lastTxBlocked < panda.safetyTxBlocked) then
    let buttonOffRejection :=
      selectedModeTurnedOff && !self.lateralEnabled && !self.longitudinalEnabled &&
        knownActuatorAddress panda.lastRejectedAddress
    if buttonOffRejection then (self, false)
    else if (longitudinalAddress panda.lastRejectedAddress || disengagedByBrake) &&
        self.lateralEnabled then
      ({ self with longitudinalEnabled := false, longitudinalLatchedOff := true }, true)
    else (self.fault "Panda rejected an active lateral or unknown control frame", false)
  else (self, false)

/-- What `update` has established when it reaches its first gate. -/
structure Observed where
  supervisor : SafetySupervisor
  cancelEvent : Bool
  disengagedByBrake : Bool
  disengagedByAccFault : Bool
  longitudinalTxRejected : Bool

/-- `update` from the button counters to `last_tx_blocked_`. -/
def observe (config : SafetyConfig) (self : SafetySupervisor) (vehicle : VehicleStateData)
    (panda : PandaHealth) : Observed :=
  let laneKeepEvent := self.laneKeepButtonEvent vehicle
  let setEvent := self.setButtonEvent vehicle
  let selected := (self.recordButtons vehicle).selectChannels config vehicle panda
    laneKeepEvent setEvent
  let cancel := selected.1.cancelEvent vehicle
  let recorded := { selected.1 with lastCancelButtonEvents := vehicle.cancelButtonEvents }
  let braked := recorded.disengageOnBrake config vehicle
  let accChecked := braked.1.disengageOnAccFault config vehicle
  let rejected := accChecked.1.observePanda panda selected.2 braked.2
  { supervisor := { rejected.1 with lastTxBlocked := panda.safetyTxBlocked }
    cancelEvent := cancel
    disengagedByBrake := braked.2
    disengagedByAccFault := accChecked.2
    longitudinalTxRejected := rejected.2 }

def speedLimitExceeded (config : SafetyConfig) (vehicle : VehicleStateData) : Bool :=
  Double.zero.lt config.maxActiveSpeedMps && config.maxActiveSpeedMps.lt vehicle.speedMps

def angleLimitExceeded (config : SafetyConfig) (vehicle : VehicleStateData) : Bool :=
  Double.zero.lt config.maxAbsSteeringAngleDeg &&
    config.maxAbsSteeringAngleDeg.le vehicle.steeringAngleDeg.abs

def configuredMode (config : SafetyConfig) (panda : PandaHealth) : Bool :=
  panda.safetyMode == config.requiredSafetyMode && panda.safetyParam == config.requiredSafetyParam

def standbyMode (config : SafetyConfig) (panda : PandaHealth) : Bool :=
  config.resumeOnCommandReturn && panda.commandSessionActive && panda.safetyMode == 19 &&
    panda.safetyParam == config.requiredSafetyParam

def activeReason (observed : Observed) (lateral longitudinal : Bool) : String :=
  if lateral && longitudinal then "active: lateral + longitudinal"
  else if observed.disengagedByBrake then "active: lateral; longitudinal disengaged by brake"
  else if observed.disengagedByAccFault then
    "active: lateral; longitudinal disengaged by ACC fault"
  else if observed.longitudinalTxRejected then "active: lateral; longitudinal frame rejected"
  else "active: lateral"

def gasOverride (config : SafetyConfig) (vehicle : VehicleStateData) : Bool :=
  config.longitudinalOverrideOnGas && vehicle.gasPressed

/-- The tail of `update` once an EPS pause is over or never began. -/
def activate (config : SafetyConfig) (self : SafetySupervisor) (now : TimePoint)
    (vehicle : VehicleStateData) (panda : PandaHealth) (observed : Observed) :
    SafetySupervisor × SafetyDecision :=
  if !panda.controlsAllowed then
    (self.transition .armed "Panda controls_allowed is false").answer config now
      false false true false
  else
    let lateral := self.lateralEnabled
    let longitudinal :=
      config.allowLongitudinal && self.longitudinalEnabled && !gasOverride config vehicle
    if !lateral && !longitudinal then
      (self.transition .armed "longitudinal arm paused by gas override").answer config now
        false false true false
    else
      (self.transition .active (activeReason observed lateral longitudinal)).answer config now
        lateral longitudinal true true

/-- The EPS soft-disable window and what follows it. -/
def drive (config : SafetyConfig) (self : SafetySupervisor) (now : TimePoint)
    (vehicle : VehicleStateData) (panda : PandaHealth) (observed : Observed) :
    SafetySupervisor × SafetyDecision :=
  let longitudinalRequested := config.allowLongitudinal && self.longitudinalEnabled
  if !self.lateralEnabled && !longitudinalRequested then
    (self.transition .armed "waiting for LDA lateral-only or SET combined arm").answer config now
      false false true false
  else if vehicle.epsFault && self.state != .softDisabling && self.state != .active then
    (self.transition .armed "waiting for temporary EPS fault to clear").answer config now
      false false true false
  else
    let self :=
      if vehicle.epsFault && self.state != .softDisabling then
        (self.setDeadline (now + softDisableTime)).transition .softDisabling
          "temporary EPS fault; lateral paused"
      else self
    if self.state == .softDisabling then
      if self.softDisableDeadline ≤ now then
        (self.fault "temporary EPS fault recovery timed out").answer config now
          false false false false
      else if vehicle.epsFault || !panda.controlsAllowed then
        (self.transition .softDisabling
          (if vehicle.epsFault then "temporary EPS fault; lateral paused"
           else "EPS fault cleared; waiting for Panda controls_allowed")).answer config now
          false (longitudinalRequested && panda.controlsAllowed && !gasOverride config vehicle)
          true true
      else self.activate config now vehicle panda observed
    else self.activate config now vehicle panda observed

/-- Command freshness, validity, deadman, standby mode and session readiness. -/
def gateCommand (config : SafetyConfig) (self : SafetySupervisor) (now : TimePoint)
    (vehicle : VehicleStateData) (panda : PandaHealth) (command : CommandSample)
    (observed : Observed) : SafetySupervisor × SafetyDecision :=
  if !commandFresh config now command then
    if config.resumeOnCommandReturn && self.state != .softDisabling && !vehicle.epsFault then
      ((self.setWaiting true).transition .passive
        "waiting for fresh command; preserve buttons and restore stock").answer config now
        false false false false
    else if isEngaged self.state then
      (self.fault "control command timeout").answer config now false false false false
    else
      (self.disarm "waiting for fresh command; restore stock communication").answer config now
        false false false false
  else if !command.valid then
    (self.fault "control command contains a non-finite value").answer config now
      false false false false
  else if !command.enable then
    (self.transition .armed "command deadman is false").answer config now false false true false
  else if standbyMode config panda then
    (self.transition .armed "fresh command; waiting for verified ECU takeover").answer config now
      false false false false
  else if config.resumeOnCommandReturn && !panda.commandSessionReady then
    if isEngaged self.state then
      (self.fault "Panda command-session CAN freshness lost").answer config now
        false false false false
    else
      (self.transition .armed "waiting for validated command-session CAN").answer config now
        false false true false
  else self.drive config now vehicle panda observed

/-- Arm request, harness, ignition, latched fault, vehicle limits, CANCEL and safety mode. -/
def gateArm (config : SafetyConfig) (self : SafetySupervisor) (now : TimePoint)
    (vehicle : VehicleStateData) (panda : PandaHealth) (command : CommandSample)
    (observed : Observed) : SafetySupervisor × SafetyDecision :=
  if !self.armRequested then
    (if self.state != .fault then self.transition .passive "waiting for arm request"
     else self).answer config now false false false false
  else if panda.harnessStatus != config.requiredHarnessStatus then
    (self.fault "Panda harness orientation does not expose ECAN on logical bus 0").answer
      config now false false false false
  else if config.resumeOnCommandReturn && !panda.ignitionOn then
    (self.fault "vehicle ignition lost during command session").answer config now
      false false false false
  else if self.state == .fault then self.answer config now false false false false
  else if !vehicle.valid then
    (self.fault "critical vehicle state timeout").answer config now false false false false
  else if speedLimitExceeded config vehicle then
    (self.fault "configured active speed limit exceeded").answer config now
      false false false false
  else if angleLimitExceeded config vehicle then
    (self.fault "steering angle safety limit exceeded").answer config now
      false false false false
  else if config.disengageOnCancel && observed.cancelEvent then
    (self.disarm "cancel button pressed").answer config now false false false false
  else if !configuredMode config panda && (!standbyMode config panda || isEngaged self.state) then
    if isEngaged self.state || config.resumeOnCommandReturn then
      (self.fault "Panda safety mode changed while active").answer config now
        false false false false
    else
      (self.transition .armed "waiting for configured Panda safety mode").answer config now
        false false false false
  else self.gateCommand config now vehicle panda command observed

def update (config : SafetyConfig) (self : SafetySupervisor) (now : TimePoint)
    (vehicle : VehicleStateData) (panda : PandaHealth) (command : CommandSample) :
    SafetySupervisor × SafetyDecision :=
  let self := self.setWaiting false
  if !pandaFresh config now panda then
    (self.withdrawArm.transition .disconnected "Panda disconnected or health timeout").answer
      config now false false false false
  else if !config.allowActuation then
    (self.withdrawArm.transition .passive "actuation disabled by YAML").answer config now
      false false false false
  else
    let observed := self.observe config vehicle panda
    observed.supervisor.gateArm config now vehicle panda command observed

end SafetySupervisor

/-- One call on a supervisor. -/
inductive SupervisorCall
  | requestArm (arm : Bool)
  | update (now : TimePoint) (vehicle : VehicleStateData) (panda : PandaHealth)
      (command : CommandSample)

/-- The supervisor as a called machine; only `update` answers with a decision. -/
def supervisorMachine (config : SafetyConfig) :
    CallMachine SafetySupervisor SupervisorCall (Option SafetyDecision) where
  call
    | self, .requestArm arm => ((self.requestArm config arm).1, none)
    | self, .update now vehicle panda command =>
        let result := self.update config now vehicle panda command
        (result.1, some result.2)

/-! ## The samples of the supervisor tests (`FixtureData`) -/

def actuationConfig : AcceptedConfig := ⟨{ allowActuation := true }, by decide +kernel⟩

def fixtureNow : TimePoint := seconds 1

def fixtureVehicle : VehicleStateData := { valid := true }

def fixturePanda : PandaHealth :=
  { connected := true, controlsAllowed := true, harnessStatus := 1, safetyMode := 28,
    safetyParam := 3073, updatedAt := fixtureNow }

def fixtureCommand : CommandSample := { enable := true, valid := true, receivedAt := fixtureNow }

def fixtureUpdate (vehicle : VehicleStateData) : SupervisorCall :=
  .update fixtureNow vehicle fixturePanda fixtureCommand

end Ioniq5Ecan
