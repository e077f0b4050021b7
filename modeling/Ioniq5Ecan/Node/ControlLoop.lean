import Ioniq5Ecan.Node.Threads

/-! # The control loop

`control_loop` from the head of its `while` to the heartbeat, and the system of
the three threads.  The points follow the source: the retry of a pending
restoration, the sample, the button re-engagement, the automatic arming, the
generation handshake, `update`, the command-session branch, the cleanup and the
transmission. -/
set_option autoImplicit false
namespace Ioniq5Ecan

open Library (EventSystem)

section Conditions
variable (config : NodeConfig) (locals : LoopLocals)

def LoopLocals.commandFresh : Bool :=
  recent locals.sample.command.receivedAt locals.sample.now config.safety.commandTimeout

def LoopLocals.commandUsable : Bool :=
  locals.commandFresh config && locals.sample.command.valid && locals.sample.command.enable

def LoopLocals.longitudinalPreflightReady : Bool :=
  !config.safety.allowLongitudinal ||
    (locals.sample.vehicle.standstill && !aboveDisableSpeed locals.sample.vehicle &&
      locals.sample.vehicle.gear == 5 && locals.sample.sccRecent)

def LoopLocals.listenerReady : Bool :=
  let panda := locals.sample.panda
  config.safety.resumeOnCommandReturn && panda.ignitionOn && panda.safetyMode == safetyNoOutput &&
    panda.safetyParam == config.safety.requiredSafetyParam && panda.commandSessionActive &&
    panda.commandSessionReady && !panda.commandSessionBlocked

/-- `auto_arm_ready` but for its two loads. -/
def LoopLocals.autoArmReady : Bool :=
  config.safety.allowActuation && locals.sample.vehicle.valid && !locals.sample.vehicle.epsFault &&
    locals.sample.panda.connected &&
    (locals.listenerReady config ||
      (locals.commandUsable config && locals.longitudinalPreflightReady config &&
        !config.safety.resumeOnCommandReturn))

/-- `moving_resume` once one of its two licences was loaded. -/
def LoopLocals.sessionHealthy : Bool :=
  locals.sample.panda.commandSessionActive && locals.sample.panda.commandSessionReady &&
    !locals.sample.panda.commandSessionBlocked

def LoopLocals.channelArmed : Bool :=
  locals.decision.lateralArmed || locals.decision.longitudinalArmed

/-- `takeover_ready` between its second and its third load. -/
def LoopLocals.pandaStandby : Bool :=
  locals.sample.panda.safetyMode == safetyNoOutput &&
    locals.sample.panda.safetyParam == config.safety.requiredSafetyParam

/-- `takeover_ready` after its last load. -/
def LoopLocals.takeoverReady : Bool :=
  locals.decision.state == .armed && locals.channelArmed && locals.commandUsable config &&
    locals.sample.panda.commandSessionReady &&
    (locals.sample.vehicle.standstill || locals.movingResume)

def LoopLocals.inactiveCommandWait : Bool :=
  locals.decision.state == .passive && !locals.commandFresh config

def LoopLocals.takeSample (sample : LoopSample) : LoopLocals :=
  { locals with
    sample := sample
    engagePress := decide (locals.rearmLaneKeepEvents < sample.vehicle.laneKeepButtonEvents) ||
      decide (locals.rearmSetEvents < sample.vehicle.setButtonEvents)
    rearmLaneKeepEvents := sample.vehicle.laneKeepButtonEvents
    rearmSetEvents := sample.vehicle.setButtonEvents }

end Conditions

/-! ## Where a branch leads -/

section Branches
variable (config : NodeConfig) (locals : LoopLocals)

def toAutoArm : ControlPoint := if config.autoArmOnCommand then .autoInhibited else .loadRequested

def afterRetry : RetrySite → ControlPoint
  | .loopStart => .sample
  | .disarmRequest => .update
  | .modeFailure => .update

def afterRestore : RestoreSite → ControlPoint
  | .retry site => afterRetry site
  | .disarmRequest => .update
  | .commandGap => .loop
  | .cleanup => .loop

/-- Retries and the cleanup swallow the exception. -/
def restoreThrew : RestoreSite → ControlPoint
  | .retry site => afterRetry site
  | .disarmRequest => .disarm .modeFailure true .preserve
  | .commandGap => .disarm .commandGap true .preserve
  | .cleanup => .loop

def afterDisarm : DisarmSite → ControlPoint
  | .modeFailure => .modeFailureApplied
  | .armRefused => .armRefusedApplied
  | .dropPermission => .loop
  | .commandGap => .loop
  | .takeover => .loop
  | .cleanup => .cleanupApplied
  | .adapter => .transmit
  | .transmit => .heartbeat

def takeoverThrew : TakeoverSite → ControlPoint
  | .armRequest => .disarm .modeFailure true .preserve
  | .session => .disarm .takeover true .preserve

def afterTakeover : TakeoverSite → ControlPoint
  | .armRequest => .loop
  | .session => .takeoverHealth

def toCleanup : ControlPoint :=
  if !locals.supervisor.armRequested then .cleanupCheck else .adapter

def afterClearGap : ControlPoint :=
  if locals.decision.waitingForCommand then .gapVehicle else .movingGap

def afterDrop : ControlPoint := if !locals.channelArmed then .clearGap else afterClearGap locals

def afterUpdate : ControlPoint :=
  if config.safety.resumeOnCommandReturn then
    if !locals.decision.longitudinalArmed && locals.sample.panda.longitudinalSelected then
      .dropPermission
    else afterDrop locals
  else toCleanup locals

end Branches

namespace NodeState

def goto (state : NodeState) (point : ControlPoint) : NodeState := { state with control := point }

def setLocals (state : NodeState) (locals : LoopLocals) : NodeState :=
  { state with locals := locals }

def recordState (state : NodeState) : NodeState :=
  state.setLocals { state.locals with previousState := state.locals.decision.state }

end NodeState

/-! ## The steps -/

/-- The block of `retry_no_output_recovery` that decides whether to try. -/
def retryStep (state : NodeState) (input : StepInput) (site : RetrySite) :
    RetryPoint → Option NodeState
  | .lock =>
      match state.actuationMutex with
      | none =>
          some ({ state with actuationMutex := some .control }.goto (.retry site .pending))
      | some _ => none
  | .pending =>
      if state.flags.recoveryPending then some (state.goto (.retry site .requested))
      else some (state.unlocked.goto (afterRetry site))
  | .requested =>
      if state.flags.requestedArm then some (state.unlocked.goto (afterRetry site))
      else some (state.goto (.retry site .applied))
  | .applied =>
      if state.flags.appliedArm then some (state.unlocked.goto (afterRetry site))
      else some (state.goto (.retry site .vehicle))
  | .vehicle =>
      if state.flags.vehicleSafetyMode then some (state.unlocked.goto (afterRetry site))
      else some (state.goto (.retry site .connected))
  | .connected =>
      if !state.flags.connected then some (state.unlocked.goto (afterRetry site))
      else
        let retry := state.retry.request input.clock
        some ({ state.unlocked with retry := retry }.goto
          (if retry.due input.clock then .restore (.retry site) .lock else afterRetry site))

/-- The return of `request_internal_disarm` at each of its sites; the cleanup takes the
generation it returns as applied. -/
def finishDisarm (state : NodeState) (site : DisarmSite) : NodeState :=
  match site with
  | .cleanup =>
      (state.setLocals { state.locals with
        appliedArmGeneration := state.flags.armRequestGeneration }).goto (afterDisarm .cleanup)
  | site => state.goto (afterDisarm site)

/-- The generation is recorded as applied, and the request passed to the supervisor. -/
def applyArmStep (config : NodeConfig) (state : NodeState) : NodeState :=
  let result := state.locals.supervisor.requestArm config.safety state.locals.requested
  let locals := { state.locals with
    appliedArmGeneration := state.locals.requestGeneration, supervisor := result.1 }
  let state := state.setLocals locals
  if result.2 then
    (state.setFlags { state.flags with appliedArm := locals.requested }).goto
      (if locals.requested && config.safety.resumeOnCommandReturn then
        if !locals.sample.panda.commandSessionActive then .standby else .update
      else .applyConnected)
  else state.goto (.disarm .armRefused true .preserve)

def updateStep (config : NodeConfig) (state : NodeState) : NodeState :=
  let sample := state.locals.sample
  let result := state.locals.supervisor.update config.safety sample.now sample.vehicle
    sample.panda sample.command
  let locals := { state.locals with supervisor := result.1, decision := result.2 }
  (state.setLocals locals).goto (afterUpdate config locals)

def controlStep (config : NodeConfig) (state : NodeState) (input : StepInput) :
    Option NodeState :=
  match state.control with
  | .loop => some (state.goto (if state.flags.running then .retry .loopStart .lock else .stopped))
  | .retry site point => retryStep state input site point
  | .restore site point =>
      match restoreStep config .control state input point with
      | none => none
      | some (next, .goto point) => some (next.goto (.restore site point))
      | some (next, .returned) => some (next.goto (afterRestore site))
      | some (next, .threw _) => some (next.goto (restoreThrew site))
  | .disarm site requireOperatorRearm point =>
      let result := disarmStep state.flags requireOperatorRearm point
      let next := state.setFlags result.1
      some (match result.2 with
        | some point => next.goto (.disarm site requireOperatorRearm point)
        | none => finishDisarm next site)
  | .takeover site point =>
      match takeoverStep config state input
          (site == .session && state.locals.movingResume) point with
      | none => none
      | some (next, .goto point) => some (next.goto (.takeover site point))
      | some (next, .returned) => some (next.goto (afterTakeover site))
      | some (next, .threw _) => some (next.goto (takeoverThrew site))
  | .sample =>
      let locals := state.locals.takeSample input.sample
      some ((state.setLocals locals).goto
        (if locals.engagePress && config.safety.resumeOnCommandReturn then .engageOperator
        else toAutoArm config))
  | .engageOperator =>
      some (state.goto
        (if state.flags.operatorDisarmed then toAutoArm config else .engageRequested))
  | .engageRequested =>
      some (state.goto (if state.flags.requestedArm then toAutoArm config else .engageInhibited))
  | .engageInhibited =>
      some (state.goto
        (if state.flags.autoArmInhibited then .engageClearInhibited else .engageRearm))
  | .engageRearm =>
      some (state.goto
        (if state.flags.recoveryRearmRequired then .engageClearInhibited else toAutoArm config))
  | .engageClearInhibited =>
      some ((state.setFlags { state.flags with autoArmInhibited := false }).goto .engageClearRearm)
  | .engageClearRearm =>
      some ((state.setFlags { state.flags with recoveryRearmRequired := false }).goto
        .engageTakeover)
  | .engageTakeover =>
      some ((state.setFlags { state.flags with buttonRearmTakeover := true }).goto
        (toAutoArm config))
  | .autoInhibited =>
      some (state.goto (if state.flags.autoArmInhibited then .loadRequested else .autoPending))
  | .autoPending =>
      some (state.goto
        (if !state.flags.recoveryPending && state.locals.autoArmReady config then .autoRequested
        else .loadRequested))
  | .autoRequested =>
      some (state.goto (if state.flags.requestedArm then .loadRequested else .autoStore))
  | .autoStore =>
      some ((state.setFlags { state.flags with requestedArm := true }).goto .autoGeneration)
  | .autoGeneration =>
      some ((state.setFlags { state.flags with
        armRequestGeneration := state.flags.armRequestGeneration + 1 }).goto .loadRequested)
  | .loadRequested =>
      some ((state.setLocals { state.locals with requested := state.flags.requestedArm }).goto
        .loadGeneration)
  | .loadGeneration =>
      let locals := { state.locals with requestGeneration := state.flags.armRequestGeneration }
      some ((state.setLocals locals).goto
        (if locals.requestGeneration = locals.appliedArmGeneration then .update
        else if locals.requested then .loadConnected else .applyArm))
  | .loadConnected =>
      some (state.goto (if state.flags.connected then .applyArm else .update))
  | .applyArm => some (applyArmStep config state)
  | .standby =>
      match state.actuationMutex with
      | some _ => none
      | none =>
          some ((state.afterUsb input.usb.isOk input.stillConnected).goto (match input.usb with
            | .ok () => .loop
            | .error _ => .disarm .modeFailure true .preserve))
  | .applyConnected =>
      some (state.goto
        (if !state.flags.connected then .update
        else if state.locals.requested then .takeover .armRequest .lock else .disarmPending))
  | .disarmPending =>
      some (state.goto
        (if state.flags.recoveryPending then .disarmVehicle else .restore .disarmRequest .lock))
  | .disarmVehicle =>
      some (state.goto
        (if !state.flags.vehicleSafetyMode then .retry .disarmRequest .lock
        else .restore .disarmRequest .lock))
  | .modeFailureApplied =>
      let supervisor := (state.locals.supervisor.requestArm config.safety false).1
      some (((state.setLocals { state.locals with supervisor := supervisor }).setFlags
        { state.flags with appliedArm := false }).goto .modeFailureConnected)
  | .modeFailureConnected =>
      some (state.goto (if state.flags.connected then .retry .modeFailure .lock else .update))
  | .armRefusedApplied =>
      some ((state.setFlags { state.flags with appliedArm := false }).goto .update)
  | .update => some (updateStep config state)
  | .dropPermission =>
      match state.actuationMutex with
      | some _ => none
      | none =>
          some ((state.afterUsb input.usb.isOk false).goto (match input.usb with
            | .ok () => afterDrop state.locals
            | .error _ => .disarm .dropPermission true .preserve))
  | .clearGap =>
      some ((state.setFlags { state.flags with commandGapResumeQualified := false }).goto
        (afterClearGap state.locals))
  | .gapVehicle =>
      some (state.goto (if state.flags.vehicleSafetyMode then .gapQualified else .movingGap))
  | .gapQualified =>
      some ((state.setFlags { state.flags with
        commandGapResumeQualified :=
          state.locals.previousState == .active && state.locals.channelArmed }).goto .gapPreserve)
  | .gapPreserve =>
      -- The source records the state after the restoration, which does not read it.
      some (((state.setFlags { state.flags with preserveCommandSession := true }).recordState).goto
        (.restore .commandGap .lock))
  | .movingGap =>
      let qualified := state.flags.commandGapResumeQualified
      some ((state.setLocals { state.locals with
        movingResume := qualified && state.locals.sessionHealthy }).goto
        (if qualified then .readyApplied else .movingButton))
  | .movingButton =>
      some ((state.setLocals { state.locals with
        movingResume := state.flags.buttonRearmTakeover && state.locals.sessionHealthy }).goto
        .readyApplied)
  | .readyApplied =>
      some (state.goto (if state.flags.appliedArm then .readyRequested else toCleanup state.locals))
  | .readyRequested =>
      some (state.goto
        (if state.flags.requestedArm && state.locals.pandaStandby config then .readyVehicle
        else toCleanup state.locals))
  | .readyVehicle =>
      some (state.goto
        (if !state.flags.vehicleSafetyMode then .readyPending else toCleanup state.locals))
  | .readyPending =>
      some (state.goto
        (if !state.flags.recoveryPending && state.locals.takeoverReady config then
          .takeover .session .lock
        else toCleanup state.locals))
  | .takeoverHealth =>
      some ((state.afterUsb input.usb.isOk input.stillConnected).goto (match input.usb with
        | .ok () => .loop
        | .error _ => .disarm .takeover true .preserve))
  | .cleanupCheck =>
      some (state.goto
        (if state.flags.appliedArm then
          .disarm .cleanup (!state.locals.inactiveCommandWait config) .preserve
        else .adapter))
  | .cleanupApplied =>
      some ((state.setFlags { state.flags with appliedArm := false }).goto .cleanupConnected)
  | .cleanupConnected =>
      some (state.recordState.goto
        (if state.flags.connected then .restore .cleanup .lock else .loop))
  | .adapter =>
      match input.usb with
      | .ok () => some (state.goto .transmit)
      | .error _ =>
          some ((state.setLocals { state.locals with
            decision := { state.locals.decision with
              lateralAllowed := false, longitudinalAllowed := false, heartbeatEngaged := false }
            }).goto (.disarm .adapter true .preserve))
  | .transmit =>
      match state.actuationMutex with
      | some _ => none
      | none =>
          let sends := state.flags.vehicleSafetyMode && state.flags.connected &&
            (!config.safety.resumeOnCommandReturn ||
              state.locals.sample.panda.commandSessionReady)
          some (if sends then
            (state.afterUsb input.usb.isOk input.stillConnected).goto (match input.usb with
              | .ok () => .heartbeat
              | .error _ => .disarm .transmit true .preserve)
            else state.goto .heartbeat)
  | .heartbeat =>
      match state.actuationMutex with
      | some _ => none
      | none => some ((state.afterUsb input.usb.isOk false).recordState.goto .loop)
  | .stopped => none

/-! ## The system -/

inductive NodeEvent
  | callArm (data : Bool)
  | callDestructor
  | main (input : StepInput)
  | control (input : StepInput)
  | receive (input : StepInput)

def nodeStep (config : NodeConfig) (state : NodeState) : NodeEvent → Option NodeState
  | .callArm data => callArm config state data
  | .callDestructor => callDestructor state
  | .main input => mainStep config state input
  | .control input => controlStep config state input
  | .receive input => receiveStep state input

def nodeSystem (config : NodeConfig) : EventSystem NodeState NodeEvent where
  step := nodeStep config

/-- The states of some run from the constructor on. -/
def NodeReachable (config : NodeConfig) (state : NodeState) : Prop :=
  ∃ events, (nodeSystem config).exec {} events = some state

/-! ## Runs on the supervisor tests' samples -/

def fixtureSample : LoopSample :=
  { now := fixtureNow, command := fixtureCommand, panda := fixturePanda, vehicle := fixtureVehicle }

def fixtureInput : StepInput where
  clock := fixtureNow
  sample := fixtureSample
  takeover := { health := .ok { safetyMode := safetyHyundaiCanFd, safetyParam := 3073 } }
  restore := { health := .ok { safetyMode := safetyNoOutput } }

def mainSteps (count : Nat) : List NodeEvent := List.replicate count (.main fixtureInput)

def controlSteps (count : Nat) : List NodeEvent := List.replicate count (.control fixtureInput)

def receiveSteps (count : Nat) : List NodeEvent := List.replicate count (.receive fixtureInput)

/-- A connected node, and its first iteration: the automatic arming and the takeover. -/
def takenOver : List NodeEvent := receiveSteps 4 ++ controlSteps 20

/-- The next iteration samples a Panda that is gone, and gets to the cleanup's disarm. -/
def lostPanda : List NodeEvent :=
  controlSteps 3 ++
    [.control { fixtureInput with sample := { fixtureSample with panda := {} } }] ++ controlSteps 6

def onCall : List NodeEvent := .callArm true :: mainSteps 9

def offCall : List NodeEvent := .callArm false :: mainSteps 7

def NodeState.after (config : NodeConfig) (events : List NodeEvent) : NodeState :=
  ((nodeSystem config).exec {} events).getD {}

end Ioniq5Ecan
