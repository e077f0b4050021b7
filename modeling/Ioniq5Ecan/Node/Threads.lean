import Ioniq5Ecan.Node.Recovery
import Ioniq5Ecan.Node.Sampling

/-! # The three threads of the node

The main thread (the arm service and the destructor), the control loop and the
receive loop, interleaved.  Each atomic access is one step, and so are taking
`actuation_mutex_` and the USB work done while holding it; purely local work is
done with the access before it.  A step takes what the code does not decide
(samples, clocks, outcomes of USB calls) from its input. -/
set_option autoImplicit false
namespace Ioniq5Ecan

open Library (Double EventSystem)

inductive ThreadId
  | main
  | control
  | receive
  deriving DecidableEq

/-- The atomics, with `ready_` of the Panda as `connected`. -/
structure SharedFlags where
  running : Bool := true
  requestedArm : Bool := false
  appliedArm : Bool := false
  autoArmInhibited : Bool := false
  recoveryPending : Bool := false
  recoveryRearmRequired : Bool := false
  armRequestGeneration : UInt64 := 0
  vehicleSafetyMode : Bool := false
  preserveCommandSession : Bool := false
  commandGapResumeQualified : Bool := false
  operatorDisarmed : Bool := false
  buttonRearmTakeover : Bool := false
  connected : Bool := false
  deriving DecidableEq

/-! ## request_internal_disarm -/

inductive DisarmPoint
  | preserve
  | gap
  | button
  | requested
  | applied
  | vehicle
  | inhibited
  | rearm
  | pending
  | generation
  deriving DecidableEq

/-- Where `was_armed && require_operator_rearm` leads once `was_armed` is known to hold. -/
def DisarmPoint.wasArmed (requireOperatorRearm : Bool) : DisarmPoint :=
  if requireOperatorRearm then .inhibited else .pending

/-- One access of `request_internal_disarm`; `none` is its return, with the generation just
stored as its value. -/
def disarmStep (flags : SharedFlags) (requireOperatorRearm : Bool) :
    DisarmPoint → SharedFlags × Option DisarmPoint
  | .preserve => ({ flags with preserveCommandSession := false }, some .gap)
  | .gap => ({ flags with commandGapResumeQualified := false }, some .button)
  | .button => ({ flags with buttonRearmTakeover := false }, some .requested)
  | .requested =>
      ({ flags with requestedArm := false },
        some (if flags.requestedArm then .wasArmed requireOperatorRearm else .applied))
  | .applied =>
      (flags, some (if flags.appliedArm then .wasArmed requireOperatorRearm else .vehicle))
  | .vehicle =>
      (flags, some (if flags.vehicleSafetyMode then .wasArmed requireOperatorRearm else .pending))
  | .inhibited => ({ flags with autoArmInhibited := true }, some .rearm)
  | .rearm => ({ flags with recoveryRearmRequired := true }, some .pending)
  | .pending => ({ flags with recoveryPending := true }, some .generation)
  | .generation => ({ flags with armRequestGeneration := flags.armRequestGeneration + 1 }, none)

/-! ## The program points -/

/-- `enter_no_output_mode`. -/
inductive RestorePoint
  | lock
  | vehicle
  | pending
  | work
  | clear
  | inhibited (errors : List String)
  | rearm (errors : List String)
  deriving DecidableEq

/-- `enter_vehicle_safety_mode`. -/
inductive TakeoverPoint
  | lock
  | vehicle
  | pending
  | gap
  | button
  | work
  | storeVehicle
  | storeButton
  deriving DecidableEq

/-- The first block of `retry_no_output_recovery`. -/
inductive RetryPoint
  | lock
  | pending
  | requested
  | applied
  | vehicle
  | connected
  deriving DecidableEq

inductive ArmPoint
  | inhibited
  | operator
  | button
  | gap
  | preserve
  | rearm
  | requested
  | generation
  deriving DecidableEq

inductive DestroyPoint
  | inhibited
  | operator
  | button
  | preserve
  | gap
  | requested
  | generation
  | connected
  deriving DecidableEq

/-- The main thread; `restored` says how the destructor's `enter_no_output_mode` ended. -/
inductive MainPoint
  | idle
  | armPending
  | arm (data : Bool) (point : ArmPoint)
  | destroy (point : DestroyPoint)
  | destroyRestore (point : RestorePoint)
  | stop (restored : Bool)
  | joinReceive (restored : Bool)
  | joinControl (restored : Bool)
  | disconnect (restored : Bool)
  | destroyed (restored : Bool)
  deriving DecidableEq

/-- The destructor has been called. -/
def MainPoint.destroying : MainPoint → Bool
  | .idle | .armPending | .arm _ _ => false
  | _ => true

inductive ReceivePoint
  | loop
  | connected
  | connect
  | connectVehicle
  | reconnectDisarm (point : DisarmPoint)
  | poll
  | lost
  | lostVehicle
  | lostDisarm (point : DisarmPoint)
  | lostApplied
  | stopped
  deriving DecidableEq

inductive RetrySite
  | loopStart
  | disarmRequest
  | modeFailure
  deriving DecidableEq

inductive RestoreSite
  | retry (site : RetrySite)
  | disarmRequest
  | commandGap
  | cleanup
  deriving DecidableEq

inductive DisarmSite
  | modeFailure
  | armRefused
  | dropPermission
  | commandGap
  | takeover
  | cleanup
  | adapter
  | transmit
  deriving DecidableEq

inductive TakeoverSite
  | armRequest
  | session
  deriving DecidableEq

inductive ControlPoint
  | loop
  | retry (site : RetrySite) (point : RetryPoint)
  | restore (site : RestoreSite) (point : RestorePoint)
  | disarm (site : DisarmSite) (requireOperatorRearm : Bool) (point : DisarmPoint)
  | takeover (site : TakeoverSite) (point : TakeoverPoint)
  | sample
  | engageOperator
  | engageRequested
  | engageInhibited
  | engageRearm
  | engageClearInhibited
  | engageClearRearm
  | engageTakeover
  | autoInhibited
  | autoPending
  | autoRequested
  | autoStore
  | autoGeneration
  | loadRequested
  | loadGeneration
  | loadConnected
  | applyArm
  | standby
  | applyConnected
  | disarmPending
  | disarmVehicle
  | modeFailureApplied
  | modeFailureConnected
  | armRefusedApplied
  | update
  | dropPermission
  | clearGap
  | gapVehicle
  | gapQualified
  | gapPreserve
  | movingGap
  | movingButton
  | readyApplied
  | readyRequested
  | readyVehicle
  | readyPending
  | takeoverHealth
  | cleanupCheck
  | cleanupApplied
  | cleanupConnected
  | adapter
  | transmit
  | heartbeat
  | stopped
  deriving DecidableEq

/-! ## The state -/

/-- What one control iteration samples; `sccRecent` is whether a recent SCC template exists. -/
structure LoopSample where
  now : TimePoint := 0
  command : CommandSample := {}
  panda : PandaHealth := {}
  vehicle : VehicleStateData := {}
  sccRecent : Bool := false
  deriving DecidableEq

/-- The local variables of `control_loop` and the members only the control thread uses. -/
structure LoopLocals where
  sample : LoopSample := {}
  engagePress : Bool := false
  rearmLaneKeepEvents : UInt64 := 0
  rearmSetEvents : UInt64 := 0
  requested : Bool := false
  requestGeneration : UInt64 := 0
  appliedArmGeneration : UInt64 := 0
  supervisor : SafetySupervisor := {}
  decision : SafetyDecision := {}
  movingResume : Bool := false
  previousState : ControlState := .disconnected
  deriving DecidableEq

structure NodeState where
  flags : SharedFlags := {}
  actuationMutex : Option ThreadId := none
  ecus : EcuPair := {}
  retry : RecoveryRetry := {}
  main : MainPoint := .idle
  control : ControlPoint := .loop
  receive : ReceivePoint := .loop
  locals : LoopLocals := {}
  deriving DecidableEq

/-- What a step takes from outside; `stillConnected` is whether a call that throws leaves `ready_`, as
a timed-out bulk write and a short answer do. -/
structure StepInput where
  clock : TimePoint := 0
  sample : LoopSample := {}
  usb : UsbOutcome := .ok ()
  stillConnected : Bool := true
  connectDue : Bool := true
  takeover : TakeoverOutcomes := {}
  restore : RestoreOutcomes := {}

namespace NodeState

def setFlags (state : NodeState) (flags : SharedFlags) : NodeState := { state with flags := flags }

/-- A USB call that returns leaves `ready_`; one that throws has cleared it unless `kept`. -/
def afterUsb (state : NodeState) (returned kept : Bool) : NodeState :=
  { state with
    flags := { state.flags with connected := state.flags.connected && (returned || kept) } }

end NodeState

/-! ## enter_no_output_mode -/

inductive RestoreNext
  | goto (point : RestorePoint)
  | returned
  | threw (what : String)

def restoreStep (config : NodeConfig) (thread : ThreadId) (state : NodeState) (input : StepInput) :
    RestorePoint → Option (NodeState × RestoreNext)
  | .lock =>
      match state.actuationMutex with
      | none => some ({ state with actuationMutex := some thread }, .goto .vehicle)
      | some _ => none
  | .vehicle =>
      some (state.setFlags { state.flags with vehicleSafetyMode := false }, .goto .pending)
  | .pending =>
      some ({ state with
        flags := { state.flags with recoveryPending := true }
        retry := state.retry.request input.clock }, .goto .work)
  | .work =>
      let standbyParam := recoveryStandbyParam config.safety.requiredSafetyParam
        state.flags.preserveCommandSession config.safety.resumeOnCommandReturn
        state.flags.operatorDisarmed
      let result := restoreWork standbyParam state.flags.preserveCommandSession
        state.retry.failures state.ecus input.restore
      some ({ state.afterUsb result.2.isEmpty
          (input.restore.controlWrites && input.stillConnected) with ecus := result.1 },
        .goto (if result.2.isEmpty then .clear else .inhibited result.2))
  | .clear =>
      some ({ state with
        flags := { state.flags with recoveryPending := false }
        retry := state.retry.restored
        actuationMutex := none }, .returned)
  | .inhibited errors =>
      some (state.setFlags { state.flags with autoArmInhibited := true }, .goto (.rearm errors))
  | .rearm errors =>
      some ({ state with
        flags := { state.flags with recoveryRearmRequired := true }
        retry := state.retry.failed input.clock
        actuationMutex := none }, .threw (joinedErrors errors))

/-! ## enter_vehicle_safety_mode -/

inductive TakeoverNext
  | goto (point : TakeoverPoint)
  | returned
  | threw (what : String)

def NodeState.unlocked (state : NodeState) : NodeState := { state with actuationMutex := none }

/-- `speed_mps > kDisableMaximumSpeedMps`, 0.5 km/h. -/
def aboveDisableSpeed (vehicle : VehicleStateData) : Bool :=
  (Double.finite (5 / 36)).lt vehicle.speedMps

/-- The checks after the moving-takeover check: gear and SCC template. -/
def longitudinalPrecondition (config : NodeConfig) (sample : LoopSample) : UsbOutcome := do
  if config.safety.allowLongitudinal then
    if sample.vehicle.gear != 5 then
      throw "longitudinal control must be armed in D (gear=5)"
    if !sample.sccRecent then
      throw "no recent stock ECAN SCC_CONTROL 0x1A0 template"

/-- Either starts the USB work or throws. -/
def startTakeover (config : NodeConfig) (state : NodeState) : NodeState × TakeoverNext :=
  match longitudinalPrecondition config state.locals.sample with
  | .ok () => (state, .goto .work)
  | .error what => (state.unlocked, .threw what)

def stationaryError : String := "ADAS ECUs may only be disabled while the vehicle is stationary"

def takeoverStep (config : NodeConfig) (state : NodeState) (input : StepInput)
    (commandGapResume : Bool) : TakeoverPoint → Option (NodeState × TakeoverNext)
  | .lock =>
      match state.actuationMutex with
      | none => some ({ state with actuationMutex := some .control }, .goto .vehicle)
      | some _ => none
  | .vehicle =>
      if state.flags.vehicleSafetyMode then some (state.unlocked, .returned)
      else some (state, .goto .pending)
  | .pending =>
      let vehicle := state.locals.sample.vehicle
      if state.flags.recoveryPending then
        some (state.unlocked, .threw "ECU restoration must finish before rearming")
      else if !vehicle.valid || vehicle.epsFault then
        some (state.unlocked, .threw "vehicle state or EPS is not ready for ADAS ECU disable")
      else if !vehicle.standstill || aboveDisableSpeed vehicle then
        if commandGapResume then some (state, .goto .gap)
        else some (state.unlocked, .threw stationaryError)
      else some (startTakeover config state)
  | .gap =>
      if !state.flags.commandGapResumeQualified then some (state, .goto .button)
      else if config.safety.resumeOnCommandReturn then some (startTakeover config state)
      else some (state.unlocked, .threw stationaryError)
  | .button =>
      if state.flags.buttonRearmTakeover && config.safety.resumeOnCommandReturn then
        some (startTakeover config state)
      else some (state.unlocked, .threw stationaryError)
  | .work =>
      let result := takeoverWork config.safety state.ecus input.takeover
      let state := { state.afterUsb result.2.isOk
        (input.takeover.controlWrites && input.stillConnected) with ecus := result.1 }
      match result.2 with
      | .ok () => some (state, .goto .storeVehicle)
      | .error what => some (state.unlocked, .threw what)
  | .storeVehicle =>
      some (state.setFlags { state.flags with vehicleSafetyMode := true }, .goto .storeButton)
  | .storeButton =>
      some ((state.setFlags { state.flags with buttonRearmTakeover := false }).unlocked, .returned)

/-! ## The main thread -/

def armStep (flags : SharedFlags) (data : Bool) : ArmPoint → SharedFlags × Option ArmPoint
  | .inhibited => ({ flags with autoArmInhibited := !data }, some .operator)
  | .operator => ({ flags with operatorDisarmed := !data }, some .button)
  | .button => ({ flags with buttonRearmTakeover := false }, some .gap)
  | .gap => ({ flags with commandGapResumeQualified := false }, some .preserve)
  | .preserve =>
      ({ flags with preserveCommandSession := false }, some (if data then .rearm else .requested))
  | .rearm => ({ flags with recoveryRearmRequired := false }, some .requested)
  | .requested => ({ flags with requestedArm := data }, some .generation)
  | .generation => ({ flags with armRequestGeneration := flags.armRequestGeneration + 1 }, none)

def destroyStep (flags : SharedFlags) : DestroyPoint → SharedFlags × MainPoint
  | .inhibited => ({ flags with autoArmInhibited := true }, .destroy .operator)
  | .operator => ({ flags with operatorDisarmed := true }, .destroy .button)
  | .button => ({ flags with buttonRearmTakeover := false }, .destroy .preserve)
  | .preserve => ({ flags with preserveCommandSession := false }, .destroy .gap)
  | .gap => ({ flags with commandGapResumeQualified := false }, .destroy .requested)
  | .requested => ({ flags with requestedArm := false }, .destroy .generation)
  | .generation =>
      ({ flags with armRequestGeneration := flags.armRequestGeneration + 1 }, .destroy .connected)
  | .connected => (flags, if flags.connected then .destroyRestore .lock else .stop false)

def mainStep (config : NodeConfig) (state : NodeState) (input : StepInput) : Option NodeState :=
  match state.main with
  | .idle => none
  | .armPending =>
      -- A pending restoration refuses the request.
      some { state with
        main := if state.flags.recoveryPending then .idle else .arm true .inhibited }
  | .arm data point =>
      let result := armStep state.flags data point
      some { state with
        flags := result.1
        main := match result.2 with
          | some next => .arm data next
          | none => .idle }
  | .destroy point =>
      let result := destroyStep state.flags point
      some { state with flags := result.1, main := result.2 }
  | .destroyRestore point =>
      match restoreStep config .main state input point with
      | none => none
      | some (next, .goto point) => some { next with main := .destroyRestore point }
      | some (next, .returned) => some { next with main := .stop true }
      | some (next, .threw _) => some { next with main := .stop false }
  | .stop restored =>
      some { state with
        flags := { state.flags with running := false }
        main := .joinReceive restored }
  | .joinReceive restored =>
      if state.receive = .stopped then some { state with main := .joinControl restored } else none
  | .joinControl restored =>
      if state.control = .stopped then some { state with main := .disconnect restored } else none
  | .disconnect restored =>
      some { state with
        flags := { state.flags with connected := false }
        main := .destroyed restored }
  | .destroyed _ => none

def callArm (config : NodeConfig) (state : NodeState) (data : Bool) : Option NodeState :=
  match state.main with
  | .idle =>
      if data && !config.safety.allowActuation then some state
      else some { state with main := if data then .armPending else .arm false .inhibited }
  | _ => none

def callDestructor (state : NodeState) : Option NodeState :=
  match state.main with
  | .idle => some { state with main := .destroy .inhibited }
  | _ => none

/-! ## The receive loop -/

def receiveStep (state : NodeState) (input : StepInput) : Option NodeState :=
  match state.receive with
  | .loop => some { state with receive := if state.flags.running then .connected else .stopped }
  | .connected =>
      some { state with
        receive := if state.flags.connected then .poll
          else if input.connectDue then .connect else .loop }
  | .connect =>
      match state.actuationMutex with
      | some _ => none
      | none => match input.usb with
        | .ok () =>
            some { state with
              flags := { state.flags with connected := true }
              actuationMutex := some .receive
              receive := .connectVehicle }
        | .error _ =>
            some { state with
              flags := { state.flags with connected := false }, receive := .lost }
  | .connectVehicle =>
      some { state with
        flags := { state.flags with vehicleSafetyMode := false }
        actuationMutex := none
        receive := if state.ecus.anyDisabled then .reconnectDisarm .preserve else .poll }
  | .reconnectDisarm point =>
      let result := disarmStep state.flags true point
      some { state with
        flags := result.1
        receive := match result.2 with
          | some next => .reconnectDisarm next
          | none => .poll }
  | .poll =>
      some { state.afterUsb input.usb.isOk input.stillConnected with
        receive := match input.usb with
          | .ok () => .loop
          | .error _ => .lost }
  | .lost =>
      match state.actuationMutex with
      | some _ => none
      | none =>
          some { state with
            flags := { state.flags with connected := false }
            actuationMutex := some .receive
            receive := .lostVehicle }
  | .lostVehicle =>
      some { state with
        flags := { state.flags with vehicleSafetyMode := false }
        actuationMutex := none
        receive := .lostDisarm .preserve }
  | .lostDisarm point =>
      let result := disarmStep state.flags true point
      some { state with
        flags := result.1
        receive := match result.2 with
          | some next => .lostDisarm next
          | none => .lostApplied }
  | .lostApplied =>
      some { state with flags := { state.flags with appliedArm := false }, receive := .loop }
  | .stopped => none

end Ioniq5Ecan
