import Ioniq5Ecan.Node.ArmHandshake

/-! # The licences of a moving takeover

A takeover of a moving vehicle needs one of two licences, `command_gap_resume_qualified_` and
`button_rearm_takeover_`.  This module says which steps of a history grant them and which revoke
them, and what the state keeps between two steps when a service call, an error handling or
reconnect of the receive loop and an iteration of the control loop are never interleaved. -/
set_option autoImplicit false
namespace Ioniq5Ecan

/-! ## Undivided steps -/

def ControlPoint.resting : ControlPoint → Bool
  | .loop | .stopped => true
  | _ => false

def ReceivePoint.resting : ReceivePoint → Bool
  | .loop | .connected | .connect | .poll | .lost | .stopped => true
  | .connectVehicle | .reconnectDisarm _ | .lostVehicle | .lostDisarm _ | .lostApplied => false

def ReceivePoint.polling : ReceivePoint → Bool
  | .loop | .connected | .poll => true
  | _ => false

/-- A call, an iteration, an error handling or a reconnect ends before another one begins. -/
def Undivided (state : NodeState) : NodeEvent → Prop
  | .control _ => state.main = .idle ∧ state.receive.resting = true
  | .receive _ =>
      state.receive.polling = true ∨ state.control.resting = true ∧ state.main = .idle
  | .main _ | .callArm _ | .callDestructor =>
      state.control.resting = true ∧ state.receive.resting = true

instance (state : NodeState) : ∀ event, Decidable (Undivided state event)
  | .control _ | .main _ | .callArm _ | .callDestructor => inferInstanceAs (Decidable (_ ∧ _))
  | .receive _ => inferInstanceAs (Decidable (_ ∨ _ ∧ _))

/-! ## What a step of the history was -/

abbrev TakenStep := NodeState × NodeEvent

def ControlPoint.beginsDisarm : ControlPoint → Bool
  | .disarm _ _ .preserve => true
  | _ => false

def ReceivePoint.beginsDisarm : ReceivePoint → Bool
  | .reconnectDisarm .preserve | .lostDisarm .preserve => true
  | _ => false

def ControlPoint.takesOver : ControlPoint → Bool
  | .takeover _ _ | .takeoverHealth => true
  | _ => false

namespace TakenStep

def disarms : TakenStep → Bool
  | (state, .control _) => state.control.beginsDisarm
  | (state, .receive _) => state.receive.beginsDisarm
  | _ => false

/-- A call of `arm_callback`, whatever it answers. -/
def calls : TakenStep → Bool
  | (_, .callArm _) => true
  | _ => false

/-- The receive loop's error handling begins, or a USB call of another thread clears `ready_`.  A
failed poll counts by its error handling. -/
def losesUsb (config : NodeConfig) : TakenStep → Bool
  | (state, .receive _) => state.receive == .lost
  | (state, event) =>
      state.flags.connected && (nodeStep config state event).any fun next => !next.flags.connected

def seesNoChannel (config : NodeConfig) : TakenStep → Bool
  | (state, .control _) =>
      state.control == .update && !(updateStep config state).locals.channelArmed
  | _ => false

def leavesVehicleMode (config : NodeConfig) : TakenStep → Bool
  | (state, event) =>
      state.flags.vehicleSafetyMode &&
        (nodeStep config state event).any fun next => !next.flags.vehicleSafetyMode

def takesGap : TakenStep → Bool
  | (state, .control _) => state.control == .gapQualified
  | _ => false

def restoresGap : TakenStep → Bool
  | (state, .control _) => state.control == .restore .commandGap .vehicle
  | _ => false

/-- The command-gap branch is taken in vehicle mode with `previous_state` Active and a channel
armed. -/
def qualifies : TakenStep → Bool
  | (state, .control _) =>
      state.control == .gapQualified && state.flags.vehicleSafetyMode &&
        (state.locals.previousState == .active && state.locals.channelArmed)
  | _ => false

/-- A new LDA or SET event is sampled while not operator-disarmed. -/
def presses : TakenStep → Bool
  | (state, .control input) =>
      state.control == .sample && (state.locals.takeSample input.sample).engagePress &&
        !state.flags.operatorDisarmed
  | _ => false

def failsTakeover (config : NodeConfig) : TakenStep → Bool
  | (state, .control input) =>
      state.control.takesOver &&
        (controlStep config state input).any (·.control.beginsDisarm)
  | _ => false

end TakenStep

/-! ## The licences -/

section Licences
variable (config : NodeConfig)

/-- The steps that leave the exit by the command gap the last one, and its licence. -/
def keepsGap (step : TakenStep) : Bool :=
  !step.takesGap && (!step.leavesVehicleMode config || step.restoresGap) &&
    !step.seesNoChannel config && !step.disarms && !step.calls && !step.losesUsb config

/-- The steps that leave the licence of a press. -/
def keepsPress (step : TakenStep) : Bool :=
  !step.failsTakeover config && !step.disarms && !step.calls

/-- The command-gap branch was taken, vehicle mode was left since, and every later step kept the
licence. -/
def GapLicensed (history : List TakenStep) : Prop :=
  ∃ later start earlier, history = later ++ start :: earlier ∧ start.qualifies = true ∧
    (∀ step ∈ later, keepsGap config step = true) ∧
      ∃ exit ∈ later, exit.leavesVehicleMode config = true

/-- A press was sampled, and every later step kept the licence. -/
def PressLicensed (history : List TakenStep) : Prop :=
  ∃ later start earlier, history = later ++ start :: earlier ∧ start.presses = true ∧
    ∀ step ∈ later, keepsPress config step = true

/-- The command-session profile with one of the two licences. -/
def TakeoverLicensed (history : List TakenStep) : Prop :=
  config.safety.resumeOnCommandReturn = true ∧
    (GapLicensed config history ∨ PressLicensed config history)

end Licences

/-- Not at standstill or above 0.5 km/h. -/
def movingVehicle (vehicle : VehicleStateData) : Bool :=
  !vehicle.standstill || aboveDisableSpeed vehicle

def NodeState.gapLicence (state : NodeState) : Bool := state.flags.commandGapResumeQualified

def NodeState.buttonLicence (state : NodeState) : Bool := state.flags.buttonRearmTakeover

/-! ## Where the code leaves a licence standing -/

/-- `arm_callback` refuses an ON request, by either of its checks, while a licence stands. -/
def RefusesLicensed (config : NodeConfig) (state : NodeState) : NodeEvent → Prop
  | .callArm data =>
      (data && !config.safety.allowActuation) = true ∧
        (state.gapLicence || state.buttonLicence) = true
  | .main _ =>
      state.main = .armPending ∧ state.flags.recoveryPending = true ∧
        (state.gapLicence || state.buttonLicence) = true
  | _ => False

/-- The heartbeat finds the Panda gone while the licence of the gap stands. -/
def HeartbeatLosesUsb (state : NodeState) : NodeEvent → Prop
  | .control input =>
      state.control = .heartbeat ∧ state.flags.connected = true ∧ input.usb.isOk = false ∧
        state.gapLicence = true
  | _ => False

instance (config : NodeConfig) (state : NodeState) : ∀ event,
    Decidable (RefusesLicensed config state event)
  | .callArm _ | .main _ => inferInstanceAs (Decidable (_ ∧ _))
  | .callDestructor | .control _ | .receive _ => isFalse id

instance (state : NodeState) : ∀ event, Decidable (HeartbeatLosesUsb state event)
  | .control _ => inferInstanceAs (Decidable (_ ∧ _))
  | .callArm _ | .callDestructor | .main _ | .receive _ => isFalse id

/-- An undivided step, neither a refused call nor a failed heartbeat beside a licence. -/
def Revocable (config : NodeConfig) (state : NodeState) (event : NodeEvent) : Prop :=
  Undivided state event ∧ ¬ RefusesLicensed config state event ∧ ¬ HeartbeatLosesUsb state event

instance (config : NodeConfig) (state : NodeState) (event : NodeEvent) :
    Decidable (Revocable config state event) :=
  inferInstanceAs (Decidable (_ ∧ _))

/-! ## What holds between the steps

First, where the licence of the gap has been revoked by the call in progress. -/

def DisarmPoint.pastGap : DisarmPoint → Bool
  | .preserve | .gap => false
  | _ => true

def MainPoint.pastGap : MainPoint → Bool
  | .arm _ .preserve | .arm _ .rearm | .arm _ .requested | .arm _ .generation => true
  | _ => false

def ReceivePoint.pastGap : ReceivePoint → Bool
  | .lostDisarm point | .reconnectDisarm point => point.pastGap
  | _ => false

/-! Where a thread is about to revoke the licence of the gap. -/

def ControlPoint.revokesGap (locals : LoopLocals) : ControlPoint → Bool
  | .disarm _ _ .preserve | .disarm _ _ .gap => true
  | .restore .commandGap (.inhibited _) | .restore .commandGap (.rearm _) => true
  | .dropPermission | .clearGap => !locals.channelArmed
  | _ => false

def MainPoint.revokesGap : MainPoint → Bool
  | .armPending | .arm _ .inhibited | .arm _ .operator | .arm _ .button | .arm _ .gap => true
  | main => main.destroying

def ReceivePoint.revokesGap : ReceivePoint → Bool
  | .lostVehicle | .lostDisarm .preserve | .lostDisarm .gap | .reconnectDisarm .preserve
  | .reconnectDisarm .gap => true
  | _ => false

def NodeState.revokingGap (state : NodeState) : Bool :=
  state.control.revokesGap state.locals || state.main.revokesGap || state.receive.revokesGap

/-! Where a thread is about to revoke the licence of a press. -/

def ControlPoint.revokesPress : ControlPoint → Bool
  | .disarm _ _ .preserve | .disarm _ _ .gap | .disarm _ _ .button => true
  | _ => false

def MainPoint.revokesPress : MainPoint → Bool
  | .armPending | .arm _ .inhibited | .arm _ .operator | .arm _ .button => true
  | _ => false

def ReceivePoint.revokesPress : ReceivePoint → Bool
  | .lostDisarm .preserve | .lostDisarm .gap | .lostDisarm .button | .reconnectDisarm .preserve
  | .reconnectDisarm .gap | .reconnectDisarm .button => true
  | _ => false

def NodeState.revokingPress (state : NodeState) : Bool :=
  state.control.revokesPress || state.main.revokesPress || state.receive.revokesPress

/-- The command-gap branch between its grant and the end of its restoration. -/
def ControlPoint.restoringGap : ControlPoint → Bool
  | .gapPreserve | .restore .commandGap _ => true
  | .disarm .commandGap _ .preserve | .disarm .commandGap _ .gap => true
  | _ => false

section Phases
variable (config : NodeConfig) (pressed : Prop) (state : NodeState)

/-- The supervisor is not armed. -/
def Unarmed : Prop := state.locals.supervisor.armRequested = false

/-- The request stands, or the control loop has applied its withdrawal. -/
def Current : Prop :=
  state.flags.requestedArm = true ∨
    state.flags.armRequestGeneration = state.locals.appliedArmGeneration

/-- The supervisor is armed for a current request only. -/
def Covered : Prop := state.locals.supervisor.armRequested = true → Current state

def Waiting : Prop := state.locals.decision.waitingForCommand = true → Current state

def Loaded : Prop := state.locals.requested = state.flags.requestedArm

/-- Without a request the licence of the gap is gone. -/
def Withdrawn : Prop := state.flags.requestedArm = false → state.gapLicence = false

/-- A takeover of a moving vehicle has one of the licences. -/
def Permitted : Prop :=
  movingVehicle state.locals.sample.vehicle = true →
    config.safety.resumeOnCommandReturn = true ∧
      (state.gapLicence = true ∨ state.buttonLicence = true)

def AtRetry : RetrySite → Prop
  | .loopStart => True
  | .disarmRequest => Covered state ∧ state.gapLicence = false
  | .modeFailure => Unarmed state

def AtRestore : RestoreSite → Prop
  | .retry site =>
      AtRetry state site ∧ state.flags.vehicleSafetyMode = false ∧ state.gapLicence = false
  | .disarmRequest => Covered state ∧ state.gapLicence = false
  | .cleanup => state.gapLicence = false
  | .commandGap => True

def AtDisarm : DisarmSite → Prop
  | .armRefused => config.safety.allowActuation = false
  | _ => True

def AtTakeover : TakeoverPoint → Prop
  | .pending | .gap | .button => state.flags.vehicleSafetyMode = false
  | .work => state.flags.vehicleSafetyMode = false ∧ Permitted config state
  | .storeVehicle =>
      state.flags.vehicleSafetyMode = false ∧ state.ecus.camera.disabled = true ∧
        Permitted config state
  | .lock | .vehicle | .storeButton => True

/-- What each point of an iteration relies on. -/
def AtPoint : ControlPoint → Prop
  | .retry site point =>
      AtRetry state site ∧
        (point ≠ .lock ∧ point ≠ .pending → state.gapLicence = false) ∧
        (point = .connected → state.flags.vehicleSafetyMode = false)
  | .restore site point =>
      AtRestore state site ∧
        (point = .pending ∨ point = .work → state.flags.vehicleSafetyMode = false)
  | .disarm site _ point =>
      AtDisarm config site ∧ (point.pastGap = true → state.gapLicence = false)
  | .armRefusedApplied => config.safety.allowActuation = false
  | .takeover _ point => AtTakeover config state point
  | .engageOperator => state.flags.operatorDisarmed = false → pressed
  | .engageRequested | .engageInhibited | .engageRearm | .engageClearInhibited
  | .engageClearRearm | .engageTakeover => pressed
  | .autoGeneration => state.flags.requestedArm = true
  | .loadGeneration => Loaded state
  | .loadConnected => state.flags.requestedArm = true ∧ Loaded state ∧
      state.locals.requestGeneration = state.flags.armRequestGeneration
  | .applyArm => Loaded state ∧
      state.locals.requestGeneration = state.flags.armRequestGeneration ∧ Withdrawn state
  | .applyConnected => Covered state ∧ Loaded state ∧ Withdrawn state
  | .disarmPending | .disarmVehicle => Covered state ∧ state.gapLicence = false
  | .modeFailureConnected => Unarmed state
  | .update => config.safety.allowActuation = true → Covered state
  | .dropPermission | .clearGap => config.safety.resumeOnCommandReturn = true ∧ Waiting state
  | .gapVehicle => config.safety.resumeOnCommandReturn = true ∧ Current state
  | .gapQualified =>
      config.safety.resumeOnCommandReturn = true ∧ Current state ∧
        state.flags.vehicleSafetyMode = true
  | .cleanupApplied | .cleanupConnected => state.gapLicence = false
  | _ => True

end Phases

/-- The licences, traced to what is known of the history. -/
structure Tracked (config : NodeConfig) (gapKnown pressKnown : Prop) (state : NodeState) : Prop where
  controlAlone : state.control.resting = false →
    state.main = .idle ∧ state.receive.resting = true
  mainAlone : state.main ≠ .idle → state.receive.resting = true
  gap : state.gapLicence = true → gapKnown ∨ state.revokingGap = true
  press : state.buttonLicence = true → pressKnown ∨ state.revokingPress = true
  revoked : (state.main.pastGap || state.receive.pastGap) = true → state.gapLicence = false
  request : state.gapLicence = true → Current state ∨ state.main.destroying = true
  pending : state.gapLicence = true → state.flags.recoveryPending = true →
    state.control.restoringGap = true ∨ state.main.destroying = true
  profile : state.gapLicence = true → config.safety.resumeOnCommandReturn = true
  camera : state.flags.vehicleSafetyMode = true → state.ecus.camera.disabled = true ∨
    state.main.destroying = true
  atPoint : AtPoint config pressKnown state state.control

theorem initial_tracked (config : NodeConfig) (gapKnown pressKnown : Prop) :
    Tracked config gapKnown pressKnown {} where
  controlAlone := nofun
  mainAlone := fun busy => absurd rfl busy
  gap := nofun
  press := nofun
  revoked := nofun
  request := nofun
  pending := nofun
  profile := nofun
  camera := nofun
  atPoint := trivial

end Ioniq5Ecan
