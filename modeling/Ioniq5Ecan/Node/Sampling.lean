import Ioniq5Ecan.Supervisor.Latch

/-! # Sampling in the control loop

One control iteration captures `now` and then copies the command, the Panda
health and the vehicle state, each under its own mutex, while the command
callback and the receive thread stamp and store new samples.  Every mutex block
and every clock reading is one step.  The signals a frame decodes to are left
open: `accept` takes the decoded state and records which critical stamp moved. -/
set_option autoImplicit false
namespace Ioniq5Ecan

open Library (Double EventSystem)

structure NodeConfig where
  safety : SafetyConfig := {}
  vehicleStateTimeout : Milliseconds := 100
  useEnableField : Bool := false
  autoArmOnCommand : Bool := true

def actuationNode : NodeConfig := { safety := actuationConfig.toSafetyConfig }

/-! ## The command callback -/

structure ActuationCommand where
  sequence : UInt32 := 0
  enable : Bool := false
  lateral : Double := .zero
  acceleration : Double := .zero
  deriving DecidableEq

/-- What `command_mutex_` protects. -/
structure CommandInput where
  latestCommand : CommandSample := {}
  lastSequence : UInt32 := 0
  deriving DecidableEq

namespace CommandInput

def discards (config : NodeConfig) (input : CommandInput) (message : ActuationCommand)
    (receivedAt : TimePoint) : Bool :=
  message.sequence != 0 && input.lastSequence != 0 &&
    recent input.latestCommand.receivedAt receivedAt config.safety.commandTimeout &&
    !sequenceIsNewer message.sequence input.lastSequence

def commandCallback (config : NodeConfig) (input : CommandInput) (message : ActuationCommand)
    (receivedAt : TimePoint) : CommandInput :=
  if input.discards config message receivedAt then input
  else if !message.lateral.isFinite || !message.acceleration.isFinite then
    { input with
      latestCommand := { input.latestCommand with
        valid := false, enable := false, receivedAt := receivedAt } }
  else
    { lastSequence := if message.sequence != 0 then message.sequence else input.lastSequence
      latestCommand :=
        { lateral := message.lateral
          accelerationMps2 := message.acceleration
          enable := !config.useEnableField || message.enable
          valid := true
          sequence := message.sequence
          receivedAt := receivedAt } }

/-- A message that is not discarded stamps the command, whether finite or not. -/
theorem commandCallback_receivedAt (config : NodeConfig) (input : CommandInput)
    (message : ActuationCommand) (receivedAt : TimePoint) :
    (input.commandCallback config message receivedAt).latestCommand.receivedAt =
      if input.discards config message receivedAt then input.latestCommand.receivedAt
      else receivedAt := by
  unfold commandCallback
  split
  · rfl
  · split <;> rfl

end CommandInput

/-! ## The vehicle state parser -/

/-- The frames whose arrival `snapshot` insists on. -/
inductive CriticalMessage
  | steering
  | mdps
  | wheelSpeeds
  | tcs
  deriving DecidableEq

structure VehicleStateParser where
  state : VehicleStateData := {}
  steeringTime : TimePoint := 0
  mdpsTime : TimePoint := 0
  wheelTime : TimePoint := 0
  tcsTime : TimePoint := 0
  deriving DecidableEq

namespace VehicleStateParser

def snapshot (parser : VehicleStateParser) (now : TimePoint) (criticalTimeout : Milliseconds) :
    VehicleStateData :=
  { parser.state with
    valid := recent parser.steeringTime now criticalTimeout &&
      recent parser.mdpsTime now criticalTimeout &&
      recent parser.wheelTime now criticalTimeout &&
      recent parser.tcsTime now criticalTimeout }

def stamp (parser : VehicleStateParser) : CriticalMessage → TimePoint
  | .steering => parser.steeringTime
  | .mdps => parser.mdpsTime
  | .wheelSpeeds => parser.wheelTime
  | .tcs => parser.tcsTime

/-- The effect of an accepted frame; `none` is a frame without a critical stamp. -/
def accept (parser : VehicleStateParser) (message : Option CriticalMessage)
    (decoded : VehicleStateData) (receivedAt : TimePoint) : VehicleStateParser :=
  match message with
  | none => { parser with state := decoded }
  | some .steering =>
      { parser with state := { decoded with updatedAt := receivedAt }, steeringTime := receivedAt }
  | some .mdps => { parser with state := decoded, mdpsTime := receivedAt }
  | some .wheelSpeeds => { parser with state := decoded, wheelTime := receivedAt }
  | some .tcs => { parser with state := decoded, tcsTime := receivedAt }

theorem snapshot_valid_iff (parser : VehicleStateParser) (now : TimePoint)
    (criticalTimeout : Milliseconds) :
    (parser.snapshot now criticalTimeout).valid = true ↔
      ∀ message, recent (parser.stamp message) now criticalTimeout = true := by
  simp only [snapshot, Bool.and_eq_true]
  constructor
  · rintro ⟨⟨⟨steering, mdps⟩, wheel⟩, tcs⟩ message
    cases message with
    | steering => exact steering
    | mdps => exact mdps
    | wheelSpeeds => exact wheel
    | tcs => exact tcs
  · intro all
    exact ⟨⟨⟨all .steering, all .mdps⟩, all .wheelSpeeds⟩, all .tcs⟩

theorem accept_stamp (parser : VehicleStateParser) (accepted : Option CriticalMessage)
    (decoded : VehicleStateData) (receivedAt : TimePoint) (message : CriticalMessage) :
    (parser.accept accepted decoded receivedAt).stamp message =
      if accepted = some message then receivedAt else parser.stamp message := by
  cases accepted with
  | none => cases message <;> rfl
  | some kind => cases kind <;> cases message <;> rfl

end VehicleStateParser

/-! ## The threads -/

/-- The receive thread between two mutex blocks. -/
inductive ReceiveThread
  | idle
  | frames (receivedAt : TimePoint) (remaining : List (Option CriticalMessage × VehicleStateData))
  | health (sample : PandaHealth)
  deriving DecidableEq

/-- The control thread from the clock reading to the call of `update`. -/
inductive SamplingThread
  | idle
  | captured (now : TimePoint)
  | commandCopied (now : TimePoint) (command : CommandSample)
  | healthCopied (now : TimePoint) (command : CommandSample) (panda : PandaHealth)
  | sampled (now : TimePoint) (command : CommandSample) (panda : PandaHealth)
      (parser : VehicleStateParser)
  deriving DecidableEq

structure SamplingState where
  clock : TimePoint
  commands : CommandInput := {}
  latestHealth : PandaHealth := {}
  parser : VehicleStateParser := {}
  receive : ReceiveThread := .idle
  control : SamplingThread := .idle
  supervisor : SafetySupervisor := {}
  decision : SafetyDecision := {}
  deriving DecidableEq

inductive SamplingEvent
  | advance (elapsed : Nat)
  | command (message : ActuationCommand)
  | receiveFrames (received : List (Option CriticalMessage × VehicleStateData))
  | parseFrame
  | readHealth (health : PandaHealth)
  | storeHealth (epochUnchanged : Bool)
  | receiveError
  | capture
  | copyCommand
  | copyHealth
  | snapshot
  | requestArm (arm : Bool)
  | transitionHealth (health : PandaHealth)
  | update
  | abandon
  deriving DecidableEq

/-- `panda_->health()`: connected, stamped when the last transfer is done. -/
def stampedHealth (health : PandaHealth) (clock : TimePoint) : PandaHealth :=
  { health with connected := true, updatedAt := clock }

def samplingStep (config : NodeConfig) (state : SamplingState) :
    SamplingEvent → Option SamplingState
  | .advance elapsed => some { state with clock := state.clock + elapsed }
  | .command message =>
      some { state with commands := state.commands.commandCallback config message state.clock }
  | .receiveFrames received =>
      match state.receive with
      | .idle => some { state with receive := .frames state.clock received }
      | _ => none
  | .parseFrame =>
      match state.receive with
      | .frames _ [] => some { state with receive := .idle }
      | .frames receivedAt ((message, decoded) :: rest) =>
          some { state with
            parser := state.parser.accept message decoded receivedAt
            receive := .frames receivedAt rest }
      | _ => none
  | .readHealth health =>
      match state.receive with
      | .idle => some { state with receive := .health (stampedHealth health state.clock) }
      | _ => none
  | .storeHealth epochUnchanged =>
      match state.receive with
      | .health sample =>
          some { state with
            latestHealth := if epochUnchanged then sample else state.latestHealth
            receive := .idle }
      | _ => none
  | .receiveError => some { state with receive := .idle, latestHealth := {} }
  | .capture =>
      match state.control with
      | .idle => some { state with control := .captured state.clock }
      | _ => none
  | .copyCommand =>
      match state.control with
      | .captured now =>
          some { state with control := .commandCopied now state.commands.latestCommand }
      | _ => none
  | .copyHealth =>
      match state.control with
      | .commandCopied now command =>
          some { state with control := .healthCopied now command state.latestHealth }
      | _ => none
  | .snapshot =>
      match state.control with
      | .healthCopied now command panda =>
          some { state with control := .sampled now command panda state.parser }
      | _ => none
  | .requestArm arm =>
      match state.control with
      | .sampled .. =>
          some { state with supervisor := (state.supervisor.requestArm config.safety arm).1 }
      | _ => none
  | .transitionHealth health =>
      -- The safety transitions of the control thread store a sample of their own.
      match state.control with
      | .idle | .sampled .. =>
          some { state with latestHealth := stampedHealth health state.clock }
      | _ => none
  | .update =>
      match state.control with
      | .sampled now command panda parser =>
          let result := state.supervisor.update config.safety now
            (parser.snapshot now config.vehicleStateTimeout) panda command
          some { state with
            supervisor := result.1, decision := result.2, control := .idle }
      | _ => none
  | .abandon =>
      -- `continue` after a mode change: the next iteration samples again.
      match state.control with
      | .sampled .. => some { state with control := .idle }
      | _ => none

def samplingSystem (config : NodeConfig) : EventSystem SamplingState SamplingEvent where
  step := samplingStep config

/-! ## What an iteration sees -/

/-- The five stamps an iteration depends on. -/
inductive Source
  | command
  | health
  | vehicle (message : CriticalMessage)
  deriving DecidableEq

/-- `now` of the running iteration. -/
def SamplingThread.capturedAt : SamplingThread → Option TimePoint
  | .idle => none
  | .captured now => some now
  | .commandCopied now _ => some now
  | .healthCopied now _ _ => some now
  | .sampled now _ _ _ => some now

def SamplingThread.copied : SamplingThread → Source → Option TimePoint
  | .commandCopied _ command, .command => some command.receivedAt
  | .healthCopied _ command _, .command => some command.receivedAt
  | .healthCopied _ _ panda, .health => some panda.updatedAt
  | .sampled _ command _ _, .command => some command.receivedAt
  | .sampled _ _ panda _, .health => some panda.updatedAt
  | .sampled _ _ _ parser, .vehicle message => some (parser.stamp message)
  | _, _ => none

namespace SamplingState

def slotStamp (state : SamplingState) : Source → TimePoint
  | .command => state.commands.latestCommand.receivedAt
  | .health => state.latestHealth.updatedAt
  | .vehicle message => state.parser.stamp message

/-- The stamp the running iteration has copied, or would copy now. -/
def seenStamp (state : SamplingState) (source : Source) : TimePoint :=
  (state.control.copied source).getD (state.slotStamp source)

/-- The stamp the receive thread has pending for a source. -/
def pendingStamp (state : SamplingState) : Source → Option TimePoint
  | .command => none
  | .health => match state.receive with
      | .health sample => some sample.updatedAt
      | _ => none
  | .vehicle _ => match state.receive with
      | .frames receivedAt _ => some receivedAt
      | _ => none

/-- The source a writer's step stores into, with the stamp it stores. -/
def stored (config : NodeConfig) (state : SamplingState) :
    SamplingEvent → Option (Source × TimePoint)
  | .command message =>
      if state.commands.discards config message state.clock then none
      else some (.command, state.clock)
  | .parseFrame => match state.receive with
      | .frames receivedAt ((some message, _) :: _) => some (.vehicle message, receivedAt)
      | _ => none
  | .storeHealth epochUnchanged => match state.receive with
      | .health sample => if epochUnchanged then some (.health, sample.updatedAt) else none
      | _ => none
  | _ => none

/-- A writer overtakes the iteration: it stores a sample stamped after `now` into a source the
iteration has still to copy. -/
def Overtakes (config : NodeConfig) (state : SamplingState) (event : SamplingEvent) : Prop :=
  ∃ now source stamp, state.control.capturedAt = some now ∧ state.control.copied source = none ∧
    state.stored config event = some (source, stamp) ∧ now < stamp

end SamplingState

end Ioniq5Ecan
