import Ioniq5Ecan.Supervisor.Passing

/-! # Healthy updates of a command session

While nothing is wrong with the samples, an update of the session profile only
copies the firmware selection, masked by the longitudinal latch, and a SET
press clears the latch: `update_healthy`. -/
set_option autoImplicit false
namespace Ioniq5Ecan
namespace SafetySupervisor

/-- Samples with nothing to object to; the command may be stale, but not invalid. -/
@[mk_iff]
structure HealthySample (config : SafetyConfig) (supervisor : SafetySupervisor) (now : TimePoint)
    (vehicle : VehicleStateData) (panda : PandaHealth) (command : CommandSample) : Prop where
  fresh : pandaFresh config now panda = true
  noPandaFault : pandaHealthFault panda = false
  noRejection : ¬ supervisor.lastTxBlocked < panda.safetyTxBlocked
  harness : panda.harnessStatus = config.requiredHarnessStatus
  ignition : panda.ignitionOn = true
  ready : panda.commandSessionReady = true
  mode : configuredMode config panda = true ∨
    standbyMode config panda = true ∧ isEngaged supervisor.state = false
  vehicleValid : vehicle.valid = true
  speed : speedLimitExceeded config vehicle = false
  angle : angleLimitExceeded config vehicle = false
  noCancel : supervisor.cancelEvent vehicle = false
  brakeReleased : vehicle.brakePressed = false
  noAccFault : vehicle.accFault = false
  noEpsFault : vehicle.epsFault = false
  command : commandFresh config now command = true → command.valid = true

instance (config : SafetyConfig) (supervisor : SafetySupervisor) (now : TimePoint)
    (vehicle : VehicleStateData) (panda : PandaHealth) (command : CommandSample) :
    Decidable (HealthySample config supervisor now vehicle panda command) :=
  decidable_of_iff' _ (healthySample_iff ..)

section Healthy
variable {config : SafetyConfig} {now : TimePoint} {vehicle : VehicleStateData}
  {panda : PandaHealth} {command : CommandSample} {self : SafetySupervisor}

theorem HealthySample.openGates (session : config.resumeOnCommandReturn = true)
    (healthy : HealthySample config self now vehicle panda command) :
    OpenGates config self.state now vehicle panda command :=
  { harness := healthy.harness
    ignition := fun _ => healthy.ignition
    vehicleValid := healthy.vehicleValid
    speed := healthy.speed
    angle := healthy.angle
    mode := by
      rcases healthy.mode with configured | ⟨standby, notEngaged⟩
      · exact Or.inl configured
      · exact Or.inr ⟨notEngaged, Or.inl standby⟩
    noEpsFault := healthy.noEpsFault
    valid := healthy.command
    stale := fun _ => session
    ready := fun _ => Or.inl healthy.ready }

/-- What a healthy update leaves behind, seen from the state before it. -/
structure SessionUpdated (before : SafetySupervisor) (vehicle : VehicleStateData)
    (panda : PandaHealth) (after : SafetySupervisor) : Prop where
  engageable : after.Engageable
  lateral : after.lateralEnabled = panda.lateralSelected
  latch : after.longitudinalLatchedOff =
    (before.longitudinalLatchedOff && !before.setButtonEvent vehicle)
  longitudinal : after.longitudinalEnabled =
    (panda.longitudinalSelected && !after.longitudinalLatchedOff)
  seen : after.lastSetButtonEvents = vehicle.setButtonEvents

theorem update_healthy (session : config.resumeOnCommandReturn = true)
    (allowed : config.allowActuation = true) (engageable : self.Engageable)
    (healthy : HealthySample config self now vehicle panda command) :
    SessionUpdated self vehicle panda (self.update config now vehicle panda command).1 := by
  have recorded : ((self.setWaiting false).recordButtons vehicle).armRequested = true :=
    engageable.armed
  have selection : (self.setWaiting false).selectedChannels config vehicle panda =
      ((self.setWaiting false).recordButtons vehicle).selectFromFirmware vehicle panda
        (self.setButtonEvent vehicle) :=
    selectChannels_session config vehicle panda recorded session _ _
  obtain ⟨waiting, next, reason, notFault, notSoft, result⟩ := update_passes allowed engageable
    healthy.fresh healthy.brakeReleased healthy.noAccFault healthy.noPandaFault
    (fun _ => healthy.noRejection) (by simp [healthy.noCancel]) (healthy.openGates session)
  rw [result, afterButtons, selection]
  refine ⟨⟨engageable.armed, notFault, notSoft⟩, rfl, ?_, rfl, rfl⟩
  change (if (self.setButtonEvent vehicle && !vehicle.brakePressed && !vehicle.accFault) = true
    then false else self.longitudinalLatchedOff) = _
  rw [healthy.brakeReleased, healthy.noAccFault]
  cases self.setButtonEvent vehicle <;> simp

end Healthy
end SafetySupervisor
end Ioniq5Ecan
