import Ioniq5Ecan.Supervisor.LongitudinalLatch
import Mathlib.Tactic.MkIffOfInductiveProp

/-! # Updates that pass every gate

`update_answered` reads the decision off the supervisor an update leaves.
`OpenGates` are the samples no gate objects to: such an update keeps the arm
flag and the selection, and only moves between Passive, Armed and Active. -/
set_option autoImplicit false
namespace Ioniq5Ecan
namespace SafetySupervisor

open Library (Double)

section Answer
variable {config : SafetyConfig} {now : TimePoint} {vehicle : VehicleStateData}
  {panda : PandaHealth} {command : CommandSample} {self : SafetySupervisor}

/-- Every exit answers in the state it leaves. -/
theorem update_answered :
    ∃ lateral longitudinal vehicleMode heartbeat,
      self.update config now vehicle panda command =
        (self.update config now vehicle panda command).1.answer config now lateral longitudinal
          vehicleMode heartbeat := by
  have exit := update_exit config self now vehicle panda command
  generalize self.update config now vehicle panda command = result at exit ⊢
  cases exit with
  | lostPanda _ => exact ⟨_, _, _, _, rfl⟩
  | passiveYaml _ _ => exact ⟨_, _, _, _, rfl⟩
  | gated _ _ observed _ exit =>
      cases exit with
      | unarmed | latched | faulted | disarmed | waiting | armed | paused | active =>
          exact ⟨_, _, _, _, rfl⟩

theorem update_lateralArmed :
    (self.update config now vehicle panda command).2.lateralArmed =
      (self.update config now vehicle panda command).1.lateralEnabled := by
  obtain ⟨lateral, longitudinal, vehicleMode, heartbeat, answered⟩ :=
    @update_answered config now vehicle panda command self
  exact congrArg (·.2.lateralArmed) answered

end Answer

/-! ## Open gates -/

/-- Samples no gate objects to, for a supervisor in the given state without an EPS fault. -/
@[mk_iff]
structure OpenGates (config : SafetyConfig) (state : ControlState) (now : TimePoint)
    (vehicle : VehicleStateData) (panda : PandaHealth) (command : CommandSample) : Prop where
  harness : panda.harnessStatus = config.requiredHarnessStatus
  ignition : config.resumeOnCommandReturn = true → panda.ignitionOn = true
  vehicleValid : vehicle.valid = true
  speed : speedLimitExceeded config vehicle = false
  angle : angleLimitExceeded config vehicle = false
  mode : configuredMode config panda = true ∨
    isEngaged state = false ∧ (standbyMode config panda = true ∨
      config.resumeOnCommandReturn = false)
  noEpsFault : vehicle.epsFault = false
  valid : commandFresh config now command = true → command.valid = true
  stale : commandFresh config now command = false → config.resumeOnCommandReturn = true
  ready : config.resumeOnCommandReturn = true →
    panda.commandSessionReady = true ∨ isEngaged state = false

instance (config : SafetyConfig) (state : ControlState) (now : TimePoint)
    (vehicle : VehicleStateData) (panda : PandaHealth) (command : CommandSample) :
    Decidable (OpenGates config state now vehicle panda command) :=
  decidable_of_iff' _ (openGates_iff ..)

/-- Armed, and neither faulted nor in an EPS pause. -/
structure Engageable (supervisor : SafetySupervisor) : Prop where
  armed : supervisor.armRequested = true
  notFault : supervisor.state ≠ .fault
  notSoft : supervisor.state ≠ .softDisabling

/-- Where an open gate leaves: without a fault, with every flag as observed. -/
def Passed (self : SafetySupervisor) (result : SafetySupervisor × SafetyDecision) : Prop :=
  ∃ waiting next reason, next ≠ ControlState.fault ∧ next ≠ .softDisabling ∧
    result.1 = (self.setWaiting waiting).transition next reason

section Gates
variable {config : SafetyConfig} {now : TimePoint} {vehicle : VehicleStateData}
  {panda : PandaHealth} {command : CommandSample} {self : SafetySupervisor} {observed : Observed}

theorem Passed.step {next : ControlState} (notFault : next ≠ .fault)
    (notSoft : next ≠ .softDisabling) (reason : String) (lateral longitudinal mode beat : Bool) :
    Passed self ((self.transition next reason).answer config now lateral longitudinal mode beat) :=
  ⟨self.waitingForCommand, next, reason, notFault, notSoft, rfl⟩

theorem activate_passed : Passed self (self.activate config now vehicle panda observed) := by
  unfold activate
  split
  · exact .step (by decide) (by decide) ..
  · dsimp only
    split
    · exact .step (by decide) (by decide) ..
    · exact .step (by decide) (by decide) ..

theorem drive_passed (engageable : self.Engageable) (noEpsFault : vehicle.epsFault = false) :
    Passed self (self.drive config now vehicle panda observed) := by
  unfold drive
  dsimp only
  split
  · exact .step (by decide) (by decide) ..
  · simp only [noEpsFault, Bool.false_and, Bool.false_eq_true, if_false]
    rw [if_neg (by simpa using engageable.notSoft)]
    exact activate_passed

theorem gateCommand_passed (engageable : self.Engageable)
    (gates : OpenGates config self.state now vehicle panda command) :
    Passed self (self.gateCommand config now vehicle panda command observed) := by
  unfold gateCommand
  by_cases fresh : commandFresh config now command = true
  · rw [if_neg (by simp [fresh]), if_neg (by simp [gates.valid fresh])]
    split
    · exact .step (by decide) (by decide) ..
    split
    · exact .step (by decide) (by decide) ..
    split
    · rename_i unready
      obtain ⟨session, notReady⟩ : config.resumeOnCommandReturn = true ∧
          panda.commandSessionReady = false := by simpa using unready
      have notEngaged : isEngaged self.state = false := by
        rcases gates.ready session with ready | notEngaged
        · rw [ready] at notReady
          cases notReady
        · exact notEngaged
      rw [if_neg (by simp [notEngaged])]
      exact .step (by decide) (by decide) ..
    · exact drive_passed engageable gates.noEpsFault
  · have stale : commandFresh config now command = false := by simpa using fresh
    rw [if_pos (by simp [stale]),
      if_pos (by simp [gates.stale stale, gates.noEpsFault, engageable.notSoft])]
    exact ⟨true, .passive, _, by decide, by decide, rfl⟩

theorem gateArm_passed (engageable : self.Engageable)
    (noCancel : (config.disengageOnCancel && observed.cancelEvent) = false)
    (gates : OpenGates config self.state now vehicle panda command) :
    Passed self (self.gateArm config now vehicle panda command observed) := by
  have ignition : ¬ (config.resumeOnCommandReturn && !panda.ignitionOn) = true := by
    intro lost
    obtain ⟨session, off⟩ : config.resumeOnCommandReturn = true ∧ panda.ignitionOn = false := by
      simpa using lost
    rw [gates.ignition session] at off
    cases off
  unfold gateArm
  rw [if_neg (by simp [engageable.armed]), if_neg (by simp [gates.harness]), if_neg ignition,
    if_neg (by simpa using engageable.notFault), if_neg (by simp [gates.vehicleValid]),
    if_neg (by simp [gates.speed]), if_neg (by simp [gates.angle]), if_neg (by simp [noCancel])]
  split
  · rename_i drifted
    have notEngaged : isEngaged self.state = false ∧ config.resumeOnCommandReturn = false := by
      rcases gates.mode with configured | ⟨notEngaged, standby | legacy⟩
      · simp [configured] at drifted
      · simp [standby, notEngaged] at drifted
      · exact ⟨notEngaged, legacy⟩
    rw [if_neg (by simp [notEngaged])]
    exact .step (by decide) (by decide) ..
  · exact gateCommand_passed engageable gates

end Gates

/-! ## Samples the observation stages leave the selection to -/

section Observation
variable {config : SafetyConfig} {now : TimePoint} {vehicle : VehicleStateData}
  {panda : PandaHealth} {command : CommandSample} {self : SafetySupervisor}

theorem disengageOnBrake_released (released : vehicle.brakePressed = false) :
    self.disengageOnBrake config vehicle = (self, false) := by
  rw [disengageOnBrake, if_neg (by simp [released])]

theorem disengageOnAccFault_clear (clear : vehicle.accFault = false) :
    self.disengageOnAccFault config vehicle = (self, false) := by
  rw [disengageOnAccFault, if_neg (by simp [clear])]

theorem observePanda_passes (noFault : pandaHealthFault panda = false)
    (noRejection : isEngaged self.state = true → ¬ self.lastTxBlocked < panda.safetyTxBlocked)
    (turnedOff byBrake : Bool) : self.observePanda panda turnedOff byBrake = (self, false) := by
  have quiet : ¬ (isEngaged self.state &&
      decide (self.lastTxBlocked < panda.safetyTxBlocked)) = true := by
    intro rejected
    obtain ⟨engaged, more⟩ := Bool.and_eq_true_iff.mp rejected
    exact noRejection engaged (by simpa using more)
  rw [observePanda, if_neg (by simp [noFault]), if_neg quiet]

def afterButtons (config : SafetyConfig) (self : SafetySupervisor) (vehicle : VehicleStateData)
    (panda : PandaHealth) : SafetySupervisor :=
  { (self.selectedChannels config vehicle panda).1 with
    lastCancelButtonEvents := vehicle.cancelButtonEvents
    lastTxBlocked := panda.safetyTxBlocked }

theorem selectedChannels_cancel :
    (self.selectedChannels config vehicle panda).1.lastCancelButtonEvents =
      self.lastCancelButtonEvents := by
  unfold selectedChannels selectChannels selectFromFirmware toggleLateralOnly toggleCombined
  dsimp only
  split_ifs <;> rfl

theorem selectedChannels_state :
    (self.selectedChannels config vehicle panda).1.state = self.state ∧
      (self.selectedChannels config vehicle panda).1.armRequested = self.armRequested ∧
      (self.selectedChannels config vehicle panda).1.lastTxBlocked = self.lastTxBlocked := by
  unfold selectedChannels selectChannels selectFromFirmware toggleLateralOnly toggleCombined
  dsimp only
  split_ifs <;> exact ⟨rfl, rfl, rfl⟩

/-- Without brake, ACC fault, Panda fault or rejection, only the buttons are observed. -/
theorem observe_passes (brakeReleased : vehicle.brakePressed = false)
    (noAccFault : vehicle.accFault = false) (noPandaFault : pandaHealthFault panda = false)
    (noRejection : isEngaged self.state = true → ¬ self.lastTxBlocked < panda.safetyTxBlocked) :
    (self.observe config vehicle panda).supervisor = self.afterButtons config vehicle panda ∧
      (self.observe config vehicle panda).cancelEvent = self.cancelEvent vehicle := by
  obtain ⟨state, _, txBlocked⟩ := @selectedChannels_state config vehicle panda self
  constructor
  · rw [(observe_supervisor config self vehicle panda).1]
    simp only [disengageOnBrake_released brakeReleased, disengageOnAccFault_clear noAccFault]
    rw [observePanda_passes noPandaFault]
    · rfl
    · intro engaged
      have before : isEngaged self.state = true := by
        rw [← state]
        exact engaged
      have kept : ((self.selectedChannels config vehicle panda).1.afterSelection
          vehicle).lastTxBlocked = self.lastTxBlocked := txBlocked
      rw [kept]
      exact noRejection before
  · have event : (self.observe config vehicle panda).cancelEvent =
        (self.selectedChannels config vehicle panda).1.cancelEvent vehicle := rfl
    rw [event, cancelEvent, selectedChannels_cancel]
    rfl

/-- The whole update on such samples: the buttons, and a step without a fault. -/
theorem update_passes (allowed : config.allowActuation = true) (engageable : self.Engageable)
    (fresh : pandaFresh config now panda = true) (brakeReleased : vehicle.brakePressed = false)
    (noAccFault : vehicle.accFault = false) (noPandaFault : pandaHealthFault panda = false)
    (noRejection : isEngaged self.state = true → ¬ self.lastTxBlocked < panda.safetyTxBlocked)
    (noCancel : (config.disengageOnCancel && self.cancelEvent vehicle) = false)
    (gates : OpenGates config self.state now vehicle panda command) :
    Passed ((self.setWaiting false).afterButtons config vehicle panda)
      (self.update config now vehicle panda command) := by
  obtain ⟨observed, cancel⟩ := @observe_passes config vehicle panda (self.setWaiting false)
    brakeReleased noAccFault noPandaFault noRejection
  obtain ⟨state, armed, _⟩ := @selectedChannels_state config vehicle panda (self.setWaiting false)
  have sameState : ((self.setWaiting false).observe config vehicle panda).supervisor.state =
      self.state := by
    rw [observed]
    exact state
  have selected : ((self.setWaiting false).observe config vehicle panda).supervisor.Engageable := by
    refine ⟨?_, by rw [sameState]; exact engageable.notFault,
      by rw [sameState]; exact engageable.notSoft⟩
    rw [observed]
    exact armed.trans engageable.armed
  unfold update
  dsimp only
  rw [if_neg (by simp [fresh]), if_neg (by simp [allowed]), ← observed]
  refine gateArm_passed selected ?_ ?_
  · rw [cancel]
    exact noCancel
  · rw [sameState]
    exact gates

end Observation
end SafetySupervisor
end Ioniq5Ecan
