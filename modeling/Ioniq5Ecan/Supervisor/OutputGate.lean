import Ioniq5Ecan.Supervisor.Exits

/-! # The output gate

`OutputGate` collects every condition an actuator permission stands for.  Only
the `paused` and `active` exits of `update` grant one, and each of them carries
the gates that were passed on the way. -/
set_option autoImplicit false
namespace Ioniq5Ecan
namespace SafetySupervisor

open Library (Double CallMachine)

/-- What a granted permission says about the call that granted it. -/
structure OutputGate (config : SafetyConfig) (now : TimePoint) (vehicle : VehicleStateData)
    (panda : PandaHealth) (command : CommandSample) (after : SafetySupervisor)
    (decision : SafetyDecision) : Prop where
  allowActuation : config.allowActuation = true
  armed : after.armRequested = true
  pandaConnected : panda.connected = true
  pandaAge : 0 ≤ now - panda.updatedAt ∧
    now - panda.updatedAt ≤ config.pandaTimeout * nanosecondsPerMillisecond
  commandValid : command.valid = true
  commandEnable : command.enable = true
  commandAge : 0 ≤ now - command.receivedAt ∧
    now - command.receivedAt ≤ config.commandTimeout * nanosecondsPerMillisecond
  vehicleValid : vehicle.valid = true
  harness : panda.harnessStatus = config.requiredHarnessStatus
  mode : panda.safetyMode = config.requiredSafetyMode
  param : panda.safetyParam = config.requiredSafetyParam
  controls : panda.controlsAllowed = true
  notBlocked : panda.commandSessionBlocked = false
  heartbeatSeen : panda.heartbeatLost = false
  rxChecks : panda.safetyRxChecksInvalid = false
  busOn : panda.busOff = false
  faultBits : panda.faults &&& ~~~panda.ignoredFaults = 0
  faultStatus : panda.faultStatus = 0 ∨ panda.faults ≠ 0 ∧ panda.ignoredFaults ≠ 0
  speed : Double.zero.lt config.maxActiveSpeedMps = true →
    config.maxActiveSpeedMps.lt vehicle.speedMps = false ∧
      (vehicle.speedMps ≠ .nan → vehicle.speedMps.le config.maxActiveSpeedMps = true)
  angle : Double.zero.lt config.maxAbsSteeringAngleDeg = true →
    config.maxAbsSteeringAngleDeg.le vehicle.steeringAngleDeg.abs = false ∧
      (vehicle.steeringAngleDeg ≠ .nan →
        vehicle.steeringAngleDeg.abs.lt config.maxAbsSteeringAngleDeg = true)
  session : config.resumeOnCommandReturn = true →
    panda.ignitionOn = true ∧ panda.commandSessionReady = true
  heartbeat : decision.heartbeatEngaged = true
  vehicleMode : decision.useVehicleSafetyMode = true
  lateral : decision.lateralAllowed = true →
    decision.state = .active ∧ decision.lateralArmed = true ∧ vehicle.epsFault = false
  longitudinal : decision.longitudinalAllowed = true →
    (decision.state = .active ∨ decision.state = .softDisabling) ∧
      config.allowLongitudinal = true ∧ decision.longitudinalArmed = true ∧
      ¬ (config.longitudinalOverrideOnGas = true ∧ vehicle.gasPressed = true)

section Observation
variable (config : SafetyConfig) (self : SafetySupervisor) (vehicle : VehicleStateData)
  (panda : PandaHealth)

theorem observePanda_healthy (turnedOff byBrake : Bool)
    (armed : (self.observePanda panda turnedOff byBrake).1.armRequested = true) :
    pandaHealthFault panda = false := by
  by_cases unhealthy : pandaHealthFault panda = true
  · rw [observePanda, if_pos unhealthy] at armed
    cases armed
  · simpa using unhealthy

theorem observe_healthy
    (armed : (self.observe config vehicle panda).supervisor.armRequested = true) :
    pandaHealthFault panda = false :=
  observePanda_healthy _ panda _ _ armed

end Observation

section Permission
variable {config : SafetyConfig} {now : TimePoint} {vehicle : VehicleStateData}
  {panda : PandaHealth} {command : CommandSample} {self after : SafetySupervisor}
  {observed : Observed} {decision : SafetyDecision}

/-- What the two permitting exits have in common. -/
structure Granted (config : SafetyConfig) (now : TimePoint) (vehicle : VehicleStateData)
    (panda : PandaHealth) (command : CommandSample) (supervisor : SafetySupervisor)
    (observed : Observed) (after : SafetySupervisor) (decision : SafetyDecision) : Prop where
  gates : ArmGates config vehicle panda supervisor observed.cancelEvent
  commandGates : CommandGates config now panda command
  controls : panda.controlsAllowed = true
  armed : after.armRequested = true
  heartbeat : decision.heartbeatEngaged = true
  vehicleMode : decision.useVehicleSafetyMode = true
  lateral : decision.lateralAllowed = true →
    decision.state = .active ∧ decision.lateralArmed = true ∧ vehicle.epsFault = false
  longitudinal : decision.longitudinalAllowed = true →
    (decision.state = .active ∨ decision.state = .softDisabling) ∧
      config.allowLongitudinal = true ∧ decision.longitudinalArmed = true ∧
      gasOverride config vehicle = false

theorem granted_of_exit
    (exit : GateExit config now vehicle panda command self observed (after, decision))
    (permitted : decision.lateralAllowed = true ∨ decision.longitudinalAllowed = true) :
    Granted config now vehicle panda command self observed after decision := by
  cases exit with
  | unarmed | latched | faulted | disarmed | waiting | armed =>
      rcases permitted with denied | denied <;> cases denied
  | paused gates commandGates requested deadline window inTime cause reason _ =>
      rcases permitted with denied | longitudinal
      · cases denied
      · have parts : (config.allowLongitudinal && self.longitudinalEnabled &&
            panda.controlsAllowed && !gasOverride config vehicle) = true := longitudinal
        simp only [Bool.and_eq_true, Bool.not_eq_true'] at parts
        obtain ⟨⟨⟨allowed, enabled⟩, controls⟩, noGas⟩ := parts
        exact
          { gates, commandGates, controls
            armed := gates.armed
            heartbeat := rfl
            vehicleMode := rfl
            lateral := fun denied => by cases denied
            longitudinal := fun _ =>
              ⟨Or.inr rfl, allowed, by simp [decision, allowed, enabled], noGas⟩ }
  | active gates commandGates noEpsFault controls inTime requested reason _ =>
      refine
        { gates, commandGates, controls
          armed := gates.armed
          heartbeat := rfl
          vehicleMode := rfl
          lateral := fun lateral => ⟨rfl, lateral, noEpsFault⟩
          longitudinal := ?_ }
      intro longitudinal
      have parts : (config.allowLongitudinal && self.longitudinalEnabled &&
          !gasOverride config vehicle) = true := longitudinal
      simp only [Bool.and_eq_true, Bool.not_eq_true'] at parts
      obtain ⟨⟨allowed, enabled⟩, noGas⟩ := parts
      exact ⟨Or.inl rfl, allowed, by simp [decision, allowed, enabled], noGas⟩

end Permission

section Gate
variable {config : SafetyConfig} {vehicle : VehicleStateData} {panda : PandaHealth}

theorem healthy_parts (healthy : pandaHealthFault panda = false) :
    panda.commandSessionBlocked = false ∧ panda.heartbeatLost = false ∧
      panda.safetyRxChecksInvalid = false ∧ panda.busOff = false ∧
      panda.faults &&& ~~~panda.ignoredFaults = 0 ∧
      (panda.faultStatus = 0 ∨ panda.faults ≠ 0 ∧ panda.ignoredFaults ≠ 0) := by
  simp only [pandaHealthFault, ignoredFaultIsOnlyFault, effectiveFaults,
    Bool.or_eq_false_iff] at healthy
  grind

theorem mode_of_gates {self : SafetySupervisor} {cancel : Bool} {now : TimePoint}
    {command : CommandSample} (gates : ArmGates config vehicle panda self cancel)
    (commandGates : CommandGates config now panda command) :
    panda.safetyMode = config.requiredSafetyMode ∧
      panda.safetyParam = config.requiredSafetyParam := by
  rcases gates.mode with configured | ⟨standby, _⟩
  · simpa [configuredMode] using configured
  · rw [commandGates.notStandby] at standby
    cases standby

theorem limits_not_nan (accepted : config.accepted = true) :
    config.maxActiveSpeedMps ≠ .nan ∧ config.maxAbsSteeringAngleDeg ≠ .nan := by
  simp only [SafetyConfig.accepted, Bool.not_eq_true', Bool.or_eq_false_iff,
    Bool.not_eq_false'] at accepted
  obtain ⟨⟨⟨⟨⟨speed, angle⟩, _⟩, _⟩, _⟩, _⟩ := accepted
  exact ⟨Double.ne_nan_of_isFinite speed, Double.ne_nan_of_isFinite angle⟩

theorem speed_respected (accepted : config.accepted = true)
    (inLimit : speedLimitExceeded config vehicle = false)
    (enabled : Double.zero.lt config.maxActiveSpeedMps = true) :
    config.maxActiveSpeedMps.lt vehicle.speedMps = false ∧
      (vehicle.speedMps ≠ .nan → vehicle.speedMps.le config.maxActiveSpeedMps = true) := by
  have notOver : config.maxActiveSpeedMps.lt vehicle.speedMps = false := by
    simpa [speedLimitExceeded, enabled] using inLimit
  exact ⟨notOver, fun number =>
    Double.le_of_lt_eq_false (limits_not_nan accepted).1 number notOver⟩

theorem angle_respected (accepted : config.accepted = true)
    (inLimit : angleLimitExceeded config vehicle = false)
    (enabled : Double.zero.lt config.maxAbsSteeringAngleDeg = true) :
    config.maxAbsSteeringAngleDeg.le vehicle.steeringAngleDeg.abs = false ∧
      (vehicle.steeringAngleDeg ≠ .nan →
        vehicle.steeringAngleDeg.abs.lt config.maxAbsSteeringAngleDeg = true) := by
  have notReached : config.maxAbsSteeringAngleDeg.le vehicle.steeringAngleDeg.abs = false := by
    simpa [angleLimitExceeded, enabled] using inLimit
  exact ⟨notReached, fun number =>
    Double.lt_of_le_eq_false (limits_not_nan accepted).2 (Double.abs_ne_nan number) notReached⟩

end Gate

/-- After any run, a permission is only granted through every gate. -/
theorem permission_passes_output_gate (config : AcceptedConfig) (calls : List SupervisorCall)
    (now : TimePoint) (vehicle : VehicleStateData) (panda : PandaHealth) (command : CommandSample)
    (after : SafetySupervisor) (decision : SafetyDecision)
    (returned : ((supervisorMachine config.toSafetyConfig).run {} calls).update
      config.toSafetyConfig now vehicle panda command = (after, decision))
    (permitted : decision.lateralAllowed = true ∨ decision.longitudinalAllowed = true) :
    OutputGate config.toSafetyConfig now vehicle panda command after decision := by
  have exit := update_exit config.toSafetyConfig
    ((supervisorMachine config.toSafetyConfig).run {} calls) now vehicle panda command
  rw [returned] at exit
  cases exit with
  | lostPanda | passiveYaml => rcases permitted with denied | denied <;> cases denied
  | gated fresh allowed observed observes exit =>
      have granted := granted_of_exit exit permitted
      have gates := granted.gates
      subst observes
      obtain ⟨connected, recentPanda⟩ : panda.connected = true ∧
          recent panda.updatedAt now config.pandaTimeout = true := by
        simpa [pandaFresh] using fresh
      obtain ⟨_, pandaPast, pandaAge⟩ := (recent_iff _ _ _).mp recentPanda
      obtain ⟨_, commandPast, commandAge⟩ := (recent_iff _ _ _).mp granted.commandGates.fresh
      obtain ⟨blocked, lost, checks, bus, bits, status⟩ :=
        healthy_parts (observe_healthy config.toSafetyConfig _ vehicle panda gates.armed)
      obtain ⟨mode, param⟩ := mode_of_gates gates granted.commandGates
      exact
        { allowActuation := allowed
          armed := granted.armed
          pandaConnected := connected
          pandaAge := ⟨Int.sub_nonneg.mpr pandaPast, pandaAge⟩
          commandValid := granted.commandGates.valid
          commandEnable := granted.commandGates.enable
          commandAge := ⟨Int.sub_nonneg.mpr commandPast, commandAge⟩
          vehicleValid := gates.vehicleValid
          harness := gates.harness
          mode := mode
          param := param
          controls := granted.controls
          notBlocked := blocked
          heartbeatSeen := lost
          rxChecks := checks
          busOn := bus
          faultBits := bits
          faultStatus := status
          speed := speed_respected config.isAccepted gates.speed
          angle := angle_respected config.isAccepted gates.angle
          session := fun profile => ⟨gates.ignition profile, granted.commandGates.ready profile⟩
          heartbeat := granted.heartbeat
          vehicleMode := granted.vehicleMode
          lateral := granted.lateral
          longitudinal := fun longitudinal => by
            obtain ⟨state, allowedLong, armedLong, noGas⟩ := granted.longitudinal longitudinal
            exact ⟨state, allowedLong, armedLong, by simpa [gasOverride] using noGas⟩ }

/-- The first LDA press of an armed supervisor passes the gate. -/
theorem lane_keep_press_passes_output_gate :
    let result := ((supervisorMachine actuationConfig.toSafetyConfig).run {}
      [.requestArm true, fixtureUpdate fixtureVehicle]).update actuationConfig.toSafetyConfig
        fixtureNow { fixtureVehicle with laneKeepButtonEvents := 1 } fixturePanda fixtureCommand
    result.2.lateralAllowed = true ∧
      OutputGate actuationConfig.toSafetyConfig fixtureNow
        { fixtureVehicle with laneKeepButtonEvents := 1 } fixturePanda fixtureCommand
        result.1 result.2 := by
  have gate := permission_passes_output_gate actuationConfig
    [.requestArm true, fixtureUpdate fixtureVehicle] fixtureNow
    { fixtureVehicle with laneKeepButtonEvents := 1 } fixturePanda fixtureCommand _ _ rfl
  exact ⟨by decide +kernel, gate (Or.inl (by decide +kernel))⟩

end SafetySupervisor
end Ioniq5Ecan
