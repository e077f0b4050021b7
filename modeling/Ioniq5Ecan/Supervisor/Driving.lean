import Ioniq5Ecan.Supervisor.Observation

/-! # Updates while driving

On samples with nothing to object to but a brake press or a TX rejection, and
with a fresh command whose deadman is held, an update selects, intervenes,
checks the rejection counter and settles: `update_driving`. -/
set_option autoImplicit false
namespace Ioniq5Ecan
namespace SafetySupervisor

/-- Healthy samples with the deadman held; the brake and the counters are left open. -/
structure DrivingSample (config : SafetyConfig) (now : TimePoint) (vehicle : VehicleStateData)
    (panda : PandaHealth) (command : CommandSample) : Prop where
  fresh : pandaFresh config now panda = true
  noPandaFault : pandaHealthFault panda = false
  harness : panda.harnessStatus = config.requiredHarnessStatus
  ignition : config.resumeOnCommandReturn = true → panda.ignitionOn = true
  vehicleValid : vehicle.valid = true
  speed : speedLimitExceeded config vehicle = false
  angle : angleLimitExceeded config vehicle = false
  mode : configuredMode config panda = true
  noEpsFault : vehicle.epsFault = false
  noAccFault : vehicle.accFault = false
  command : CommandGates config now panda command

def settledState (config : SafetyConfig) (self : SafetySupervisor) (vehicle : VehicleStateData)
    (panda : PandaHealth) : ControlState :=
  if panda.controlsAllowed && (self.lateralEnabled ||
      config.allowLongitudinal && self.longitudinalEnabled && !gasOverride config vehicle)
  then .active else .armed

section Settling
variable {config : SafetyConfig} {now : TimePoint} {vehicle : VehicleStateData}
  {panda : PandaHealth} {command : CommandSample} {self : SafetySupervisor} {observed : Observed}

theorem settledState_ne (self : SafetySupervisor) (vehicle : VehicleStateData)
    (panda : PandaHealth) : settledState config self vehicle panda ≠ .fault ∧
      settledState config self vehicle panda ≠ .softDisabling := by
  unfold settledState
  split
  · exact ⟨by decide, by decide⟩
  · exact ⟨by decide, by decide⟩

/-- With the longitudinal channel selected only beside the lateral one, the permission and the
lateral channel decide. -/
theorem settled_engaged (led : self.longitudinalEnabled = true → self.lateralEnabled = true) :
    isEngaged (settledState config self vehicle panda) =
      (panda.controlsAllowed && self.lateralEnabled) := by
  unfold settledState
  cases lateral : self.lateralEnabled with
  | true => cases panda.controlsAllowed <;> rfl
  | false =>
      have noLongitudinal : self.longitudinalEnabled = false := by
        by_contra on
        rw [led (by simpa using on)] at lateral
        cases lateral
      rw [noLongitudinal]
      cases panda.controlsAllowed <;> cases config.allowLongitudinal <;> rfl

theorem activate_settles : ∃ reason, (self.activate config now vehicle panda observed).1 =
    self.transition (settledState config self vehicle panda) reason := by
  unfold activate
  by_cases controls : panda.controlsAllowed = true
  · rw [if_neg (by simp [controls])]
    dsimp only
    rw [← Bool.not_or]
    by_cases used : (self.lateralEnabled || config.allowLongitudinal &&
        self.longitudinalEnabled && !gasOverride config vehicle) = true
    · rw [settledState, used, controls]
      exact ⟨_, rfl⟩
    · have unused := Bool.eq_false_of_not_eq_true used
      rw [settledState, unused, Bool.and_false]
      exact ⟨_, rfl⟩
  · have blocked : panda.controlsAllowed = false := by simpa using controls
    rw [if_pos (by simp [blocked]), settledState, blocked]
    exact ⟨_, rfl⟩

theorem drive_settles (notSoft : self.state ≠ .softDisabling) (noEpsFault : vehicle.epsFault = false) :
    ∃ reason, (self.drive config now vehicle panda observed).1 =
      self.transition (settledState config self vehicle panda) reason := by
  unfold drive
  dsimp only
  split
  · rename_i unselected
    obtain ⟨noLateral, noLongitudinal⟩ := Bool.and_eq_true_iff.mp unselected
    have unused : (self.lateralEnabled || config.allowLongitudinal &&
        self.longitudinalEnabled && !gasOverride config vehicle) = false := by
      rw [Bool.not_eq_true'] at noLateral noLongitudinal
      rw [noLateral, noLongitudinal]
      rfl
    rw [settledState, unused, Bool.and_false]
    exact ⟨_, rfl⟩
  · simp only [noEpsFault, Bool.false_and, Bool.false_eq_true, if_false]
    rw [if_neg (by simpa using notSoft)]
    exact activate_settles

theorem gateArm_settles (engageable : self.Engageable)
    (sample : DrivingSample config now vehicle panda command)
    (noCancel : observed.cancelEvent = false) :
    ∃ reason, (self.gateArm config now vehicle panda command observed).1 =
      self.transition (settledState config self vehicle panda) reason := by
  have gates : ArmGates config vehicle panda self observed.cancelEvent :=
    { armed := engageable.armed
      harness := sample.harness
      ignition := sample.ignition
      notFault := engageable.notFault
      vehicleValid := sample.vehicleValid
      speed := sample.speed
      angle := sample.angle
      noCancel := fun _ => noCancel
      mode := Or.inl sample.mode }
  rw [gateArm_open gates, gateCommand_open sample.command]
  exact drive_settles engageable.notSoft sample.noEpsFault

theorem gateArm_faulted (unarmed : self.armRequested = false) (faulted : self.state = .fault) :
    (self.gateArm config now vehicle panda command observed).1 = self := by
  rw [gateArm_latched unarmed faulted, answer_fst]

end Settling

/-! ## The whole update -/

/-- The selection after the brake, and the flags the rejection check is told. -/
structure Intervened where
  supervisor : SafetySupervisor
  turnedOff : Bool
  byBrake : Bool

def intervene (config : SafetyConfig) (self : SafetySupervisor) (vehicle : VehicleStateData)
    (panda : PandaHealth) : Intervened :=
  let selected := (self.setWaiting false).selectedChannels config vehicle panda
  let braked := (selected.1.afterSelection vehicle).disengageOnBrake config vehicle
  ⟨braked.1, selected.2, braked.2⟩

/-- The TX rejection an update counts while engaged. -/
def countsRejection (self : SafetySupervisor) (panda : PandaHealth) : Bool :=
  isEngaged self.state && decide (self.lastTxBlocked < panda.safetyTxBlocked)

def Intervened.isButtonOff (intervened : Intervened) (panda : PandaHealth) : Bool :=
  intervened.turnedOff && !intervened.supervisor.lateralEnabled &&
    !intervened.supervisor.longitudinalEnabled && knownActuatorAddress panda.lastRejectedAddress

def Intervened.isLongitudinal (intervened : Intervened) (panda : PandaHealth) : Bool :=
  (longitudinalAddress panda.lastRejectedAddress || intervened.byBrake) &&
    intervened.supervisor.lateralEnabled

section Update
variable {config : SafetyConfig} {now : TimePoint} {vehicle : VehicleStateData}
  {panda : PandaHealth} {command : CommandSample} {self : SafetySupervisor}

theorem intervene_frame (config : SafetyConfig) (self : SafetySupervisor)
    (vehicle : VehicleStateData) (panda : PandaHealth) :
    (self.intervene config vehicle panda).supervisor.state = self.state ∧
      (self.intervene config vehicle panda).supervisor.armRequested = self.armRequested ∧
      (self.intervene config vehicle panda).supervisor.lastTxBlocked = self.lastTxBlocked ∧
      (self.intervene config vehicle panda).supervisor.consumed = vehicle.presses ∧
      (self.intervene config vehicle panda).supervisor.lastCancelButtonEvents =
        vehicle.cancelButtonEvents := by
  obtain ⟨state, armed, blocked⟩ :=
    @selectedChannels_state config vehicle panda (self.setWaiting false)
  have consumed := @selectedChannels_consumed config vehicle panda (self.setWaiting false)
  unfold intervene disengageOnBrake
  dsimp only
  split
  · exact ⟨state, armed, blocked, consumed, rfl⟩
  · exact ⟨state, armed, blocked, consumed, rfl⟩

def checked (intervened : Intervened) (self : SafetySupervisor) (panda : PandaHealth) :
    SafetySupervisor :=
  if self.countsRejection panda && !intervened.isButtonOff panda then
    if intervened.isLongitudinal panda then
      { intervened.supervisor with longitudinalEnabled := false, longitudinalLatchedOff := true }
    else intervened.supervisor.fault "Panda rejected an active lateral or unknown control frame"
  else intervened.supervisor

theorem checked_memory (intervened : Intervened) (self : SafetySupervisor) (panda : PandaHealth) :
    (checked intervened self panda).consumed = intervened.supervisor.consumed ∧
      (checked intervened self panda).lastCancelButtonEvents =
        intervened.supervisor.lastCancelButtonEvents := by
  unfold checked
  split
  · split
    · exact ⟨rfl, rfl⟩
    · exact ⟨rfl, rfl⟩
  · exact ⟨rfl, rfl⟩

theorem observe_checked (sample : DrivingSample config now vehicle panda command) :
    ((self.setWaiting false).observe config vehicle panda).supervisor =
      { checked (self.intervene config vehicle panda) self panda with
        lastTxBlocked := panda.safetyTxBlocked } := by
  obtain ⟨state, _, blocked, _, _⟩ := intervene_frame config self vehicle panda
  have rejection : (isEngaged (self.intervene config vehicle panda).supervisor.state &&
      decide ((self.intervene config vehicle panda).supervisor.lastTxBlocked <
        panda.safetyTxBlocked)) = self.countsRejection panda := by
    rw [state, blocked]
    rfl
  have observed : ((self.setWaiting false).observe config vehicle panda).supervisor =
      { ((self.intervene config vehicle panda).supervisor.observePanda panda
          (self.intervene config vehicle panda).turnedOff
          (self.intervene config vehicle panda).byBrake).1 with
        lastTxBlocked := panda.safetyTxBlocked } := by
    rw [(observe_supervisor config (self.setWaiting false) vehicle panda).1]
    simp only [disengageOnAccFault_clear sample.noAccFault]
    rfl
  rw [observed, observePanda, if_neg (by simp [sample.noPandaFault]), rejection]
  unfold checked
  by_cases counted : self.countsRejection panda = true
  · rw [if_pos counted, counted, Bool.true_and]
    dsimp only
    by_cases buttonOff : (self.intervene config vehicle panda).isButtonOff panda = true
    · have raw := buttonOff
      unfold Intervened.isButtonOff at raw
      rw [if_pos raw, if_neg (by simp [buttonOff])]
    · have raw := buttonOff
      unfold Intervened.isButtonOff at raw
      have remains : (!(self.intervene config vehicle panda).isButtonOff panda) = true := by
        simpa using buttonOff
      rw [if_neg raw, if_pos remains]
      by_cases longitudinal : (self.intervene config vehicle panda).isLongitudinal panda = true
      · have rawLongitudinal := longitudinal
        unfold Intervened.isLongitudinal at rawLongitudinal
        rw [if_pos rawLongitudinal, if_pos longitudinal]
      · have rawLongitudinal := longitudinal
        unfold Intervened.isLongitudinal at rawLongitudinal
        rw [if_neg rawLongitudinal, if_neg longitudinal]
  · rw [if_neg counted, if_neg (by simp [counted])]

theorem update_observed (allowed : config.allowActuation = true)
    (fresh : pandaFresh config now panda = true) :
    self.update config now vehicle panda command =
      ((self.setWaiting false).observe config vehicle panda).supervisor.gateArm config now vehicle
        panda command ((self.setWaiting false).observe config vehicle panda) := by
  unfold update
  dsimp only
  rw [if_neg (by simp [fresh]), if_neg (by simp [allowed])]

theorem observe_cancelEvent :
    ((self.setWaiting false).observe config vehicle panda).cancelEvent =
      self.cancelEvent vehicle := by
  have event : ((self.setWaiting false).observe config vehicle panda).cancelEvent =
      ((self.setWaiting false).selectedChannels config vehicle panda).1.cancelEvent vehicle := rfl
  rw [event, cancelEvent, selectedChannels_cancel]
  rfl

theorem checked_engageable (engageable : self.Engageable)
    (notFault : (checked (self.intervene config vehicle panda) self panda).state ≠ .fault) :
    (checked (self.intervene config vehicle panda) self panda).Engageable := by
  obtain ⟨state, armed, _⟩ := intervene_frame config self vehicle panda
  have frame : (self.intervene config vehicle panda).supervisor.Engageable :=
    ⟨armed.trans engageable.armed, by rw [state]; exact engageable.notFault,
      by rw [state]; exact engageable.notSoft⟩
  unfold checked at notFault ⊢
  split at notFault
  · rename_i counted
    rw [if_pos counted]
    split at notFault
    · rename_i longitudinal
      rw [if_pos longitudinal]
      exact ⟨frame.armed, frame.notFault, frame.notSoft⟩
    · exact absurd rfl notFault
  · rename_i uncounted
    rw [if_neg uncounted]
    exact frame

/-- An update on a driving sample settles what the checks let through, or leaves a fault. -/
theorem update_driving (allowed : config.allowActuation = true) (engageable : self.Engageable)
    (sample : DrivingSample config now vehicle panda command)
    (noCancel : self.cancelEvent vehicle = false) :
    ((checked (self.intervene config vehicle panda) self panda).state = .fault →
      (self.update config now vehicle panda command).1.state = .fault ∧
        (self.update config now vehicle panda command).1.Disengaged) ∧
    ((checked (self.intervene config vehicle panda) self panda).state ≠ .fault →
      ∃ reason, (self.update config now vehicle panda command).1 =
        ({ checked (self.intervene config vehicle panda) self panda with
            lastTxBlocked := panda.safetyTxBlocked }.transition
          (settledState config (checked (self.intervene config vehicle panda) self panda) vehicle
            panda) reason)) := by
  have observed := @observe_checked config now vehicle panda command self sample
  rw [update_observed allowed sample.fresh]
  constructor
  · intro faulted
    have off : (checked (self.intervene config vehicle panda) self panda).Disengaged := by
      obtain ⟨state, _⟩ := intervene_frame config self vehicle panda
      unfold checked at faulted ⊢
      split
      · rename_i counted
        rw [if_pos counted] at faulted
        split
        · rename_i longitudinal
          rw [if_pos longitudinal] at faulted
          exact absurd (state.symm.trans faulted) engageable.notFault
        · exact fault_disengaged _ _
      · rename_i uncounted
        rw [if_neg uncounted] at faulted
        exact absurd (state.symm.trans faulted) engageable.notFault
    have kept : (((self.setWaiting false).observe config vehicle panda).supervisor.gateArm config
        now vehicle panda command ((self.setWaiting false).observe config vehicle panda)).1 =
        ((self.setWaiting false).observe config vehicle panda).supervisor :=
      gateArm_faulted (by rw [observed]; exact off.unarmed) (by rw [observed]; exact faulted)
    rw [kept, observed]
    exact ⟨faulted, off.unarmed, off.noLateral, off.noLongitudinal⟩
  · intro notFault
    have next := checked_engageable engageable notFault
    have nextObserved :
        ((self.setWaiting false).observe config vehicle panda).supervisor.Engageable := by
      rw [observed]
      exact ⟨next.armed, next.notFault, next.notSoft⟩
    obtain ⟨reason, settled⟩ := @gateArm_settles config now vehicle panda command _
      ((self.setWaiting false).observe config vehicle panda) nextObserved sample
      (observe_cancelEvent.trans noCancel)
    refine ⟨reason, settled.trans ?_⟩
    rw [observed]
    rfl

end Update
end SafetySupervisor
end Ioniq5Ecan
