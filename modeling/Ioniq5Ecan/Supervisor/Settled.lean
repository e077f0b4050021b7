import Ioniq5Ecan.Supervisor.Driving

/-! # What a sample leaves settled

One pass of the stages before the gates leaves the supervisor `Settled` on its
sample: the counters are consumed, and in the session profile the channel flags
are what firmware, brake and latch make of them.  A settled supervisor is a
fixed point of these stages (`observe_again`). -/
set_option autoImplicit false
namespace Ioniq5Ecan
namespace SafetySupervisor

/-- What the selection and the brake leave of a sample. -/
structure Braked (config : SafetyConfig) (vehicle : VehicleStateData) (panda : PandaHealth)
    (supervisor : SafetySupervisor) : Prop where
  consumed : supervisor.consumed = vehicle.presses
  cancel : supervisor.lastCancelButtonEvents = vehicle.cancelButtonEvents
  lateral : config.resumeOnCommandReturn = true → supervisor.armRequested = true →
    supervisor.lateralEnabled =
      (panda.lateralSelected && !(vehicle.brakePressed && config.lateralDisengageOnBrake))
  longitudinal : config.resumeOnCommandReturn = true → supervisor.armRequested = true →
    supervisor.longitudinalEnabled = (panda.longitudinalSelected && !supervisor.longitudinalLatchedOff)
  brakeLateral : vehicle.brakePressed = true → config.lateralDisengageOnBrake = true →
    supervisor.lateralEnabled = false
  brakeLongitudinal : vehicle.brakePressed = true → config.longitudinalDisengageOnBrake = true →
    supervisor.longitudinalLatchedOff = true ∧ supervisor.longitudinalEnabled = false

/-- What the stages before the gates leave of a sample without a Panda fault. -/
structure Settled (config : SafetyConfig) (vehicle : VehicleStateData) (panda : PandaHealth)
    (supervisor : SafetySupervisor) : Prop extends Braked config vehicle panda supervisor where
  accFault : vehicle.accFault = true → config.allowLongitudinal = true →
    supervisor.longitudinalEnabled = false

section Observation
variable {config : SafetyConfig} {vehicle : VehicleStateData} {panda : PandaHealth}
  {self : SafetySupervisor}

theorem selectedChannels_firmware (session : config.resumeOnCommandReturn = true)
    (armed : (self.selectedChannels config vehicle panda).1.armRequested = true) :
    (self.selectedChannels config vehicle panda).1.lateralEnabled = panda.lateralSelected ∧
      (self.selectedChannels config vehicle panda).1.longitudinalEnabled =
        (panda.longitudinalSelected &&
          !(self.selectedChannels config vehicle panda).1.longitudinalLatchedOff) := by
  have wasArmed : (self.recordButtons vehicle).armRequested = true :=
    (@selectedChannels_state config vehicle panda self).2.1.symm.trans armed
  unfold selectedChannels
  rw [selectChannels_session config vehicle panda wasArmed session]
  exact ⟨rfl, rfl⟩

theorem disengageOnBrake_braked
    (consumed : self.consumed = vehicle.presses)
    (cancel : self.lastCancelButtonEvents = vehicle.cancelButtonEvents)
    (firmware : config.resumeOnCommandReturn = true → self.armRequested = true →
      self.lateralEnabled = panda.lateralSelected ∧
        self.longitudinalEnabled = (panda.longitudinalSelected && !self.longitudinalLatchedOff)) :
    Braked config vehicle panda (self.disengageOnBrake config vehicle).1 := by
  unfold disengageOnBrake
  by_cases pressed : vehicle.brakePressed = true
  · rw [if_pos pressed]
    refine ⟨consumed, cancel, ?_, ?_, ?_, ?_⟩
    · intro session armed
      simp only [(firmware session armed).1, pressed, Bool.true_and]
    · intro session armed
      simp only [(firmware session armed).2, Bool.not_or, Bool.and_assoc]
    · intro _ drops
      simp only [drops, Bool.not_true, Bool.and_false]
    · intro _ drops
      simp only [drops, Bool.not_true, Bool.and_false, Bool.or_true, and_self]
  · rw [if_neg pressed]
    refine ⟨consumed, cancel, ?_, fun session armed => (firmware session armed).2,
      fun other => absurd other pressed, fun other => absurd other pressed⟩
    intro session armed
    rw [(firmware session armed).1]
    simp [pressed]

theorem Settled.latch (settled : Settled config vehicle panda self) :
    Settled config vehicle panda
      { self with longitudinalEnabled := false, longitudinalLatchedOff := true } where
  consumed := settled.consumed
  cancel := settled.cancel
  lateral := settled.lateral
  longitudinal := by
    intro _ _
    simp only [Bool.not_true, Bool.and_false]
  brakeLateral := settled.brakeLateral
  brakeLongitudinal := fun _ _ => ⟨rfl, rfl⟩
  accFault := fun _ _ => rfl

theorem Settled.withdraw (settled : Settled config vehicle panda self) :
    Settled config vehicle panda self.withdrawArm where
  consumed := settled.consumed
  cancel := settled.cancel
  lateral := fun _ armed => absurd armed Bool.false_ne_true
  longitudinal := fun _ armed => absurd armed Bool.false_ne_true
  brakeLateral := fun _ _ => rfl
  brakeLongitudinal := fun pressed drops => ⟨(settled.brakeLongitudinal pressed drops).1, rfl⟩
  accFault := fun _ _ => rfl

theorem Settled.move (settled : Settled config vehicle panda self) (next : ControlState)
    (deadline : TimePoint) (waiting : Bool) (reason : String) (blocked : UInt32) :
    Settled config vehicle panda
      { self with state := next, softDisableDeadline := deadline, waitingForCommand := waiting,
                  reason := reason, lastTxBlocked := blocked } :=
  ⟨⟨settled.consumed, settled.cancel, settled.lateral, settled.longitudinal,
    settled.brakeLateral, settled.brakeLongitudinal⟩, settled.accFault⟩

theorem disengageOnAccFault_settled (braked : Braked config vehicle panda self) :
    Settled config vehicle panda (self.disengageOnAccFault config vehicle).1 := by
  unfold disengageOnAccFault
  split
  · refine ⟨⟨braked.consumed, braked.cancel, braked.lateral, ?_, braked.brakeLateral,
      fun _ _ => ⟨rfl, rfl⟩⟩, fun _ _ => rfl⟩
    intro _ _
    simp only [Bool.not_true, Bool.and_false]
  · rename_i clear
    refine ⟨braked, ?_⟩
    intro acc allowed
    simpa [acc, allowed] using clear

theorem observePanda_settled (settled : Settled config vehicle panda self)
    (turnedOff byBrake : Bool) :
    Settled config vehicle panda (self.observePanda panda turnedOff byBrake).1 := by
  rcases observePanda_cases panda self turnedOff byBrake with
    ⟨reason, _, faulted⟩ | ⟨_, dropped⟩ | passed
  · rw [faulted]
    exact settled.withdraw.move ..
  · rw [dropped]
    exact settled.latch
  · rw [passed]
    exact settled

theorem observe_settled :
    Settled config vehicle panda (self.observe config vehicle panda).supervisor := by
  have braked := @disengageOnBrake_braked config vehicle panda
    ((self.selectedChannels config vehicle panda).1.afterSelection vehicle)
    selectedChannels_consumed rfl (fun session armed => selectedChannels_firmware session armed)
  have settled := observePanda_settled (disengageOnAccFault_settled braked)
    (self.selectedChannels config vehicle panda).2
    (((self.selectedChannels config vehicle panda).1.afterSelection vehicle).disengageOnBrake
      config vehicle).2
  rw [(observe_supervisor config self vehicle panda).1]
  exact settled.move ..

theorem selectedChannels_settled (settled : Settled config vehicle panda self) :
    ∃ lateral turnedOff, self.selectedChannels config vehicle panda =
        ({ self with lateralEnabled := lateral }, turnedOff) ∧
      (lateral && !(vehicle.brakePressed && config.lateralDisengageOnBrake)) =
        self.lateralEnabled := by
  have laneKeep : self.lastLaneKeepButtonEvents = vehicle.laneKeepButtonEvents :=
    congrArg PressCounters.laneKeep settled.consumed
  have set : self.lastSetButtonEvents = vehicle.setButtonEvents :=
    congrArg PressCounters.set settled.consumed
  have recorded : self.recordButtons vehicle = self := by
    unfold recordButtons
    rw [← laneKeep, ← set]
  have noLaneKeep : self.laneKeepButtonEvent vehicle = false := by
    simp [laneKeepButtonEvent, laneKeep]
  have noSet : self.setButtonEvent vehicle = false := by
    simp [setButtonEvent, set]
  unfold selectedChannels
  rw [recorded, noLaneKeep, noSet]
  by_cases firmware : config.resumeOnCommandReturn = true ∧ self.armRequested = true
  · obtain ⟨session, armed⟩ := firmware
    rw [selectChannels_session config vehicle panda armed session]
    refine ⟨panda.lateralSelected, _, Prod.ext ?_ rfl, (settled.lateral session armed).symm⟩
    unfold selectFromFirmware
    simp only [Bool.false_and, Bool.false_eq_true, if_false]
    rw [← settled.longitudinal session armed]
  · refine ⟨self.lateralEnabled, false, ?_, ?_⟩
    · have noFirmware : (config.resumeOnCommandReturn && self.armRequested) = false := by
        simpa using firmware
      simp [selectChannels, noFirmware]
    · by_cases drops : vehicle.brakePressed = true ∧ config.lateralDisengageOnBrake = true
      · simp [settled.brakeLateral drops.1 drops.2]
      · have kept : (vehicle.brakePressed && config.lateralDisengageOnBrake) = false := by
          simpa using drops
        simp [kept]

theorem disengageOnBrake_restores (settled : Settled config vehicle panda self) {lateral : Bool}
    (dropped : (lateral && !(vehicle.brakePressed && config.lateralDisengageOnBrake)) =
      self.lateralEnabled) :
    (disengageOnBrake config { self with lateralEnabled := lateral } vehicle).1 = self := by
  unfold disengageOnBrake
  by_cases pressed : vehicle.brakePressed = true
  · rw [if_pos pressed]
    rw [pressed, Bool.true_and] at dropped
    have latched : (self.longitudinalLatchedOff || config.longitudinalDisengageOnBrake) =
        self.longitudinalLatchedOff := by
      by_cases drops : config.longitudinalDisengageOnBrake = true
      · simp [settled.brakeLongitudinal pressed drops]
      · simp [drops]
    have longitudinal : (self.longitudinalEnabled && !config.longitudinalDisengageOnBrake) =
        self.longitudinalEnabled := by
      by_cases drops : config.longitudinalDisengageOnBrake = true
      · simp [settled.brakeLongitudinal pressed drops]
      · simp [drops]
    simp only [dropped, latched, longitudinal]
  · rw [if_neg pressed]
    have kept : lateral = self.lateralEnabled := by simpa [pressed] using dropped
    rw [kept]

theorem disengageOnAccFault_stays (settled : Settled config vehicle panda self) :
    self.disengageOnAccFault config vehicle = (self, false) := by
  rw [disengageOnAccFault, if_neg]
  intro fires
  obtain ⟨⟨acc, allowed⟩, selected⟩ : (vehicle.accFault = true ∧ config.allowLongitudinal = true) ∧
      self.longitudinalEnabled = true := by simpa using fires
  rw [settled.accFault acc allowed] at selected
  exact Bool.false_ne_true selected

/-- A settled supervisor is a fixed point of the stages before the Panda checks. -/
theorem observe_rechecked (settled : Settled config vehicle panda self) :
    ∃ turnedOff byBrake, (self.observe config vehicle panda).supervisor =
        { (self.observePanda panda turnedOff byBrake).1 with
          lastTxBlocked := panda.safetyTxBlocked } ∧
      (self.observe config vehicle panda).cancelEvent = false := by
  obtain ⟨lateral, turnedOff, selected, dropped⟩ := selectedChannels_settled settled
  have afterSelection : (self.selectedChannels config vehicle panda).1.afterSelection vehicle =
      { self with lateralEnabled := lateral } := by
    rw [selected]
    unfold SafetySupervisor.afterSelection
    rw [← settled.cancel]
  refine ⟨turnedOff, (disengageOnBrake config { self with lateralEnabled := lateral } vehicle).2,
    ?_, ?_⟩
  · rw [(observe_supervisor config self vehicle panda).1, afterSelection,
      disengageOnBrake_restores settled dropped, disengageOnAccFault_stays settled, selected]
  · have event : (self.observe config vehicle panda).cancelEvent =
        (self.selectedChannels config vehicle panda).1.cancelEvent vehicle := rfl
    rw [event, selected]
    simp [cancelEvent, settled.cancel]

theorem observe_unhealthy (unhealthy : pandaHealthFault panda = true) :
    (self.observe config vehicle panda).supervisor.fault "Panda safety or CAN health fault" =
      (self.observe config vehicle panda).supervisor := by
  rw [(observe_supervisor config self vehicle panda).1, observePanda, if_pos unhealthy]
  rfl

/-- Seen once, the sample is a fixed point of the stages. -/
theorem observe_again (settled : Settled config vehicle panda self)
    (txBlocked : self.lastTxBlocked = panda.safetyTxBlocked)
    (faulted : pandaHealthFault panda = true →
      self.fault "Panda safety or CAN health fault" = self) :
    (self.observe config vehicle panda).supervisor = self ∧
      (self.observe config vehicle panda).cancelEvent = false := by
  obtain ⟨turnedOff, byBrake, rechecked, noCancel⟩ := observe_rechecked settled
  refine ⟨?_, noCancel⟩
  rw [rechecked]
  by_cases unhealthy : pandaHealthFault panda = true
  · rw [observePanda, if_pos unhealthy, faulted unhealthy, ← txBlocked]
  · rw [observePanda_passes (by simpa using unhealthy), ← txBlocked]
    intro _ less
    rw [txBlocked] at less
    exact absurd less (UInt32.lt_irrefl _)

end Observation

section Update
variable {config : SafetyConfig} {now : TimePoint} {vehicle : VehicleStateData}
  {panda : PandaHealth} {command : CommandSample} {self : SafetySupervisor}

theorem gateExit_settled {observed : Observed} {result : SafetySupervisor × SafetyDecision}
    (exit : GateExit config now vehicle panda command self observed result)
    (settled : Settled config vehicle panda self) : Settled config vehicle panda result.1 := by
  cases exit with
  | unarmed => exact settled.move ..
  | latched => exact settled
  | faulted => exact settled.withdraw.move ..
  | disarmed => exact settled.withdraw.move ..
  | waiting => exact settled.move ..
  | armed => exact settled.move ..
  | paused => exact settled.move ..
  | active => exact settled.move ..

theorem update_settled (allowed : config.allowActuation = true)
    (fresh : pandaFresh config now panda = true) :
    Settled config vehicle panda (self.update config now vehicle panda command).1 := by
  rw [update_observed allowed fresh]
  exact gateExit_settled gateArm_exit observe_settled

end Update

end SafetySupervisor
end Ioniq5Ecan
