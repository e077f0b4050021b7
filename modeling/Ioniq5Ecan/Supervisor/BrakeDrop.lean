import Ioniq5Ecan.Supervisor.Settled

/-! # Steering dropped by the brake

With `lateral_disengage_on_brake` a brake press clears the lateral flag.  Outside
the session profile it stays clear until a button or a new arm; in the session
profile every update reads the flag from the firmware again and nothing latches
it, so it is back as soon as the pedal is released (`dropped_steering_iff`). -/
set_option autoImplicit false
namespace Ioniq5Ecan
namespace SafetySupervisor

open Library (CallMachine)

/-- The command gates that leave an armed supervisor of the session profile armed. -/
def keepsCommand (config : SafetyConfig) (self : SafetySupervisor) (now : TimePoint)
    (vehicle : VehicleStateData) (panda : PandaHealth) (command : CommandSample) : Bool :=
  if commandFresh config now command then
    command.valid && (!command.enable || standbyMode config panda ||
      if panda.commandSessionReady then
        !(self.state == .softDisabling && decide (self.softDisableDeadline ≤ now))
      else !isEngaged self.state)
  else self.state != .softDisabling && !vehicle.epsFault

/-- The conditions of the vehicle and Panda sample that no state makes up for. -/
def keepsSample (config : SafetyConfig) (vehicle : VehicleStateData) (panda : PandaHealth) :
    Bool :=
  panda.harnessStatus == config.requiredHarnessStatus && panda.ignitionOn && vehicle.valid &&
    !speedLimitExceeded config vehicle && !angleLimitExceeded config vehicle

/-- No check of an update in the session profile disarms, with steering selected. -/
def keepsArm (config : SafetyConfig) (self : SafetySupervisor) (now : TimePoint)
    (vehicle : VehicleStateData) (panda : PandaHealth) (command : CommandSample) : Bool :=
  !pandaHealthFault panda &&
    !(self.countsRejection panda && !longitudinalAddress panda.lastRejectedAddress) &&
    keepsSample config vehicle panda &&
    !(config.disengageOnCancel && self.cancelEvent vehicle) &&
    (configuredMode config panda || standbyMode config panda && !isEngaged self.state) &&
    self.keepsCommand config now vehicle panda command

/-- A new button event is observed, or a new arm is requested. -/
def ReselectsSteering (config : SafetyConfig) (self : SafetySupervisor) : SupervisorCall → Prop
  | .requestArm arm => arm = true ∧ self.armRequested = false
  | .update now vehicle panda _ => readsButtons config now panda = true ∧
      (self.laneKeepButtonEvent vehicle = true ∨ self.setButtonEvent vehicle = true)

/-- The firmware flag selects steering again: an update of an armed supervisor in the session
profile that finds the flag set and the brake released, and nothing to disarm for. -/
def ResumesSteering (config : SafetyConfig) (self : SafetySupervisor) : SupervisorCall → Prop
  | .requestArm _ => False
  | .update now vehicle panda command => config.resumeOnCommandReturn = true ∧
      self.armRequested = true ∧ pandaFresh config now panda = true ∧
      panda.lateralSelected = true ∧ vehicle.brakePressed = false ∧
      self.keepsArm config now vehicle panda command = true

/-- No decision steers. -/
def WithholdsSteering (answer : Option SafetyDecision) : Prop :=
  ∀ decision ∈ answer, decision.lateralArmed = false ∧ decision.lateralAllowed = false

section Gates
variable {config : SafetyConfig} {now : TimePoint} {vehicle : VehicleStateData}
  {panda : PandaHealth} {command : CommandSample} {self : SafetySupervisor} {observed : Observed}

theorem activate_armRequested :
    (self.activate config now vehicle panda observed).1.armRequested = self.armRequested := by
  unfold activate
  split
  · rfl
  · dsimp only
    split
    · rfl
    · rfl

theorem drive_armRequested (armed : self.armRequested = true)
    (lateral : self.lateralEnabled = true) :
    (self.drive config now vehicle panda observed).1.armRequested =
      !(self.state == .softDisabling && decide (self.softDisableDeadline ≤ now)) := by
  unfold drive
  dsimp only
  rw [if_neg (by simp [lateral])]
  by_cases waits : (vehicle.epsFault && self.state != .softDisabling && self.state != .active) =
      true
  · obtain ⟨⟨_, notSoft⟩, _⟩ : (vehicle.epsFault = true ∧ self.state ≠ .softDisabling) ∧
        self.state ≠ .active := by simpa using waits
    rw [if_pos waits]
    simp [armed, notSoft]
  rw [if_neg waits]
  by_cases soft : self.state = .softDisabling
  · have entered : ¬ (vehicle.epsFault && self.state != .softDisabling) = true := by
      simp [soft]
    rw [if_neg entered, if_pos (by simp [soft])]
    by_cases runOut : self.softDisableDeadline ≤ now
    · rw [if_pos runOut]
      simp [soft, runOut, fault, withdrawArm]
    · rw [if_neg runOut]
      have result : (!(self.state == .softDisabling && decide (self.softDisableDeadline ≤ now))) =
          true := by
        simp [runOut]
      rw [result]
      split
      · exact armed
      · exact activate_armRequested.trans armed
  · have result : (!(self.state == .softDisabling && decide (self.softDisableDeadline ≤ now))) =
        true := by
      simp [soft]
    rw [result]
    by_cases entering : (vehicle.epsFault && self.state != .softDisabling) = true
    · -- A pause that begins now has three seconds left.
      have ahead : ¬ now + softDisableTime ≤ now := by
        simp [softDisableTime, seconds]
      rw [if_pos entering]
      simp only [transition_state, beq_self_eq_true, if_true]
      rw [if_neg (by exact ahead),
        if_pos (by simp [(Bool.and_eq_true_iff.mp entering).1])]
      exact armed
    · rw [if_neg entering, if_neg (by simpa using soft)]
      exact activate_armRequested.trans armed

theorem gateCommand_armRequested (session : config.resumeOnCommandReturn = true)
    (armed : self.armRequested = true) (lateral : self.lateralEnabled = true) :
    (self.gateCommand config now vehicle panda command observed).1.armRequested =
      self.keepsCommand config now vehicle panda command := by
  unfold gateCommand keepsCommand
  by_cases fresh : commandFresh config now command = true
  · rw [if_neg (by simp [fresh]), if_pos fresh]
    by_cases valid : command.valid = true
    · rw [if_neg (by simp [valid]), valid, Bool.true_and]
      by_cases enable : command.enable = true
      · rw [if_neg (by simp [enable]), enable, Bool.not_true, Bool.false_or]
        by_cases standby : standbyMode config panda = true
        · rw [if_pos standby, standby, Bool.true_or]
          exact armed
        · rw [if_neg standby]
          have noStandby : standbyMode config panda = false := by simpa using standby
          rw [noStandby, Bool.false_or]
          by_cases ready : panda.commandSessionReady = true
          · rw [if_neg (by simp [ready]), if_pos ready]
            exact drive_armRequested armed lateral
          · rw [if_pos (by simp [session, ready]), if_neg ready]
            by_cases engaged : isEngaged self.state = true
            · rw [if_pos engaged, engaged]
              rfl
            · rw [if_neg engaged]
              simp [engaged, armed]
      · rw [if_pos (by simp [enable])]
        simp [enable, armed]
    · rw [if_pos (by simp [valid])]
      simp [valid, fault, withdrawArm]
  · rw [if_pos (by simp [fresh]), if_neg fresh]
    by_cases gap : (self.state != .softDisabling && !vehicle.epsFault) = true
    · rw [if_pos (by simpa [session] using gap), gap]
      exact armed
    · rw [if_neg (by simpa [session] using gap)]
      have lost : (self.state != .softDisabling && !vehicle.epsFault) = false := by
        simpa using gap
      rw [lost]
      split
      · rfl
      · rfl

theorem gateArm_armRequested (session : config.resumeOnCommandReturn = true)
    (armed : self.armRequested = true) (notFault : self.state ≠ .fault)
    (lateral : self.lateralEnabled = true) :
    (self.gateArm config now vehicle panda command observed).1.armRequested =
      (keepsSample config vehicle panda && !(config.disengageOnCancel && observed.cancelEvent) &&
        (configuredMode config panda || standbyMode config panda && !isEngaged self.state) &&
        self.keepsCommand config now vehicle panda command) := by
  unfold gateArm keepsSample
  rw [if_neg (by simp [armed])]
  by_cases harness : panda.harnessStatus = config.requiredHarnessStatus
  · rw [if_neg (by simp [harness])]
    by_cases ignition : panda.ignitionOn = true
    · rw [if_neg (by simp [ignition]), if_neg (by simpa using notFault)]
      by_cases valid : vehicle.valid = true
      · rw [if_neg (by simp [valid])]
        by_cases speed : speedLimitExceeded config vehicle = true
        · rw [if_pos speed]
          simp [speed, fault, withdrawArm]
        rw [if_neg speed]
        by_cases angle : angleLimitExceeded config vehicle = true
        · rw [if_pos angle]
          simp [angle, fault, withdrawArm]
        rw [if_neg angle]
        by_cases cancel : (config.disengageOnCancel && observed.cancelEvent) = true
        · rw [if_pos cancel, cancel]
          simp [disarm, withdrawArm]
        rw [if_neg cancel]
        have mode : (configuredMode config panda ||
            standbyMode config panda && !isEngaged self.state) =
              !(!configuredMode config panda &&
                (!standbyMode config panda || isEngaged self.state)) := by
          simp
        rw [mode]
        by_cases drifted : (!configuredMode config panda &&
            (!standbyMode config panda || isEngaged self.state)) = true
        · rw [if_pos drifted, if_pos (by simp [session]), drifted]
          simp [fault, withdrawArm]
        · rw [if_neg drifted, gateCommand_armRequested session armed lateral]
          simp only [Bool.not_eq_true] at speed angle cancel drifted
          simp [harness, ignition, valid, speed, angle, cancel, drifted]
      · rw [if_pos (by simp [valid])]
        simp [valid, fault, withdrawArm]
    · rw [if_pos (by simp [session, ignition])]
      simp [ignition, fault, withdrawArm]
  · rw [if_pos (by simpa using harness)]
    simp [harness, fault, withdrawArm]

end Gates

section Update
variable {config : SafetyConfig} {now : TimePoint} {vehicle : VehicleStateData}
  {panda : PandaHealth} {command : CommandSample} {self : SafetySupervisor}

theorem observePanda_armRequested (armed : self.armRequested = true)
    (lateral : self.lateralEnabled = true) (turnedOff : Bool) :
    (self.observePanda panda turnedOff false).1.armRequested =
      (!pandaHealthFault panda &&
        !(self.countsRejection panda && !longitudinalAddress panda.lastRejectedAddress)) := by
  unfold observePanda countsRejection
  by_cases unhealthy : pandaHealthFault panda = true
  · rw [if_pos unhealthy, unhealthy]
    rfl
  rw [if_neg unhealthy]
  have healthy : pandaHealthFault panda = false := by simpa using unhealthy
  by_cases counted : (isEngaged self.state &&
      decide (self.lastTxBlocked < panda.safetyTxBlocked)) = true
  · rw [if_pos counted, counted, healthy]
    dsimp only
    rw [if_neg (by simp [lateral])]
    by_cases longitudinal : longitudinalAddress panda.lastRejectedAddress = true
    · rw [if_pos (by simp [longitudinal, lateral]), longitudinal]
      exact armed
    · rw [if_neg (by simp [longitudinal])]
      simp [longitudinal, fault, withdrawArm]
  · have uncounted : (isEngaged self.state &&
        decide (self.lastTxBlocked < panda.safetyTxBlocked)) = false := by simpa using counted
    rw [if_neg counted, uncounted, healthy]
    exact armed

theorem observe_armRequested (session : config.resumeOnCommandReturn = true)
    (armed : self.armRequested = true) (selected : panda.lateralSelected = true)
    (released : vehicle.brakePressed = false) :
    (self.observe config vehicle panda).supervisor.armRequested =
      (!pandaHealthFault panda &&
        !(self.countsRejection panda && !longitudinalAddress panda.lastRejectedAddress)) := by
  obtain ⟨state, isArmed, blocked⟩ := @selectedChannels_state config vehicle panda self
  have lateral : (self.selectedChannels config vehicle panda).1.lateralEnabled = true :=
    (selectedChannels_masked session armed).1.trans selected
  rw [(observe_supervisor config self vehicle panda).1, disengageOnBrake_released released]
  dsimp only
  have acc (before : SafetySupervisor) :
      (before.disengageOnAccFault config vehicle).1.armRequested = before.armRequested ∧
        (before.disengageOnAccFault config vehicle).1.lateralEnabled = before.lateralEnabled ∧
        (before.disengageOnAccFault config vehicle).1.countsRejection panda =
          before.countsRejection panda := by
    unfold disengageOnAccFault
    split
    · exact ⟨rfl, rfl, rfl⟩
    · exact ⟨rfl, rfl, rfl⟩
  obtain ⟨accArmed, accLateral, accCounts⟩ :=
    acc ((self.selectedChannels config vehicle panda).1.afterSelection vehicle)
  have counts : ((self.selectedChannels config vehicle panda).1.afterSelection
      vehicle).countsRejection panda = self.countsRejection panda := by
    unfold countsRejection afterSelection
    dsimp only
    rw [state, blocked]
  rw [observePanda_armRequested (accArmed.trans (isArmed.trans armed))
    (accLateral.trans lateral), accCounts, counts]

/-- An armed update of the session profile with steering selected and no brake stays armed if and
only if nothing disarms. -/
theorem update_armRequested (session : config.resumeOnCommandReturn = true)
    (allowed : config.allowActuation = true) (armed : self.armRequested = true)
    (notFault : self.state ≠ .fault) (fresh : pandaFresh config now panda = true)
    (selected : panda.lateralSelected = true) (released : vehicle.brakePressed = false) :
    (self.update config now vehicle panda command).1.armRequested =
      self.keepsArm config now vehicle panda command := by
  have observed := @observe_armRequested config vehicle panda (self.setWaiting false) session armed
    selected released
  rw [update_observed allowed fresh]
  unfold keepsArm
  by_cases passes : (!pandaHealthFault panda &&
      !(self.countsRejection panda && !longitudinalAddress panda.lastRejectedAddress)) = true
  · rw [passes, Bool.true_and]
    have stays := observed.trans passes
    have kept : Frame (self.setWaiting false)
        ((self.setWaiting false).observe config vehicle panda).supervisor := by
      rcases observe_arm config vehicle panda (self.setWaiting false) with kept | faulted
      · exact kept
      · rw [faulted.disengaged.unarmed] at stays
        exact absurd stays Bool.false_ne_true
    have stillNotFault : ((self.setWaiting false).observe config vehicle
        panda).supervisor.state ≠ .fault := by
      rw [kept.state]
      exact notFault
    obtain ⟨_, deadline⟩ := observe_paused config vehicle panda (self.setWaiting false)
      stillNotFault
    have lateral : ((self.setWaiting false).observe config vehicle
        panda).supervisor.lateralEnabled = true := by
      have chosen : ((self.setWaiting false).selectedChannels config vehicle
          panda).1.lateralEnabled = true :=
        (@selectedChannels_masked config vehicle panda (self.setWaiting false) session
          armed).1.trans selected
      rw [observe_lateral config vehicle panda (self.setWaiting false) stillNotFault, chosen,
        released]
      rfl
    have command : ((self.setWaiting false).observe config vehicle
        panda).supervisor.keepsCommand config now vehicle panda command =
          self.keepsCommand config now vehicle panda command := by
      unfold keepsCommand
      rw [kept.state, deadline]
      rfl
    rw [gateArm_armRequested session stays stillNotFault lateral, command, observe_cancelEvent,
      kept.state]
    rfl
  · have fails : (!pandaHealthFault panda && !(self.countsRejection panda &&
        !longitudinalAddress panda.lastRejectedAddress)) = false := by simpa using passes
    have unarmed := observed.trans fails
    have narrowed := gateExit_narrowed (@gateArm_exit config now vehicle panda command
      ((self.setWaiting false).observe config vehicle panda).supervisor
      ((self.setWaiting false).observe config vehicle panda))
    rw [fails, Bool.false_and, Bool.false_and, Bool.false_and, Bool.false_and]
    by_contra stillArmed
    have before := narrowed.armed (by simpa using stillArmed)
    rw [unarmed] at before
    exact Bool.false_ne_true before

theorem selectedChannels_withheld (off : self.lateralEnabled = false)
    (noLaneKeep : self.laneKeepButtonEvent vehicle = false)
    (noSet : self.setButtonEvent vehicle = false)
    (host : ¬ (config.resumeOnCommandReturn = true ∧ self.armRequested = true)) :
    (self.selectedChannels config vehicle panda).1.lateralEnabled = false := by
  have noFirmware : (config.resumeOnCommandReturn && (self.recordButtons vehicle).armRequested) =
      false := by
    simpa [recordButtons] using host
  unfold selectedChannels selectChannels
  rw [noLaneKeep, noSet, noFirmware]
  simpa [recordButtons] using off

theorem update_withholds (inv : ArmInvariant config self) (off : self.lateralEnabled = false)
    (drops : config.lateralDisengageOnBrake = true)
    (unselected : ¬ ReselectsSteering config self (.update now vehicle panda command))
    (unresumed : ¬ ResumesSteering config self (.update now vehicle panda command)) :
    (self.update config now vehicle panda command).1.lateralEnabled = false := by
  by_cases reads : readsButtons config now panda = true
  · obtain ⟨fresh, allowed⟩ := Bool.and_eq_true_iff.mp reads
    by_cases firmware : config.resumeOnCommandReturn = true ∧ self.armRequested = true
    · obtain ⟨session, armed⟩ := firmware
      have after := update_invariant config now vehicle panda command inv
      by_cases stays : (self.update config now vehicle panda command).1.armRequested = true
      · have settled := @update_settled config now vehicle panda command self allowed fresh
        rw [settled.lateral session stays, drops, Bool.and_true]
        by_contra on
        obtain ⟨selected, released⟩ : panda.lateralSelected = true ∧
            vehicle.brakePressed = false := by simpa using on
        have notFault : self.state ≠ .fault := by
          intro faulted
          rw [(inv.faulted faulted).1] at armed
          exact Bool.false_ne_true armed
        refine unresumed ⟨session, armed, fresh, selected, released, ?_⟩
        rw [← update_armRequested session allowed armed notFault fresh selected released]
        exact stays
      · exact (after.unarmed (by simpa using stays)).noLateral
    · have noLaneKeep : self.laneKeepButtonEvent vehicle = false := by
        by_contra event
        exact unselected ⟨reads, Or.inl (by simpa using event)⟩
      have noSet : self.setButtonEvent vehicle = false := by
        by_contra event
        exact unselected ⟨reads, Or.inr (by simpa using event)⟩
      have chosen := @selectedChannels_withheld config vehicle panda (self.setWaiting false) off
        noLaneKeep noSet firmware
      by_contra on
      have before := (@update_narrowed config now vehicle panda command self reads).lateral
        (by simpa using on)
      rw [chosen] at before
      exact Bool.false_ne_true before
  · exact (update_unread (by simpa using reads)).2.noLateral

theorem update_resumes (inv : ArmInvariant config self)
    (resumes : ResumesSteering config self (.update now vehicle panda command)) :
    (self.update config now vehicle panda command).2.lateralArmed = true := by
  obtain ⟨session, armed, fresh, selected, released, keeps⟩ := resumes
  have allowed : config.allowActuation = true := by
    by_contra passive
    rw [inv.passive (by simpa using passive)] at armed
    exact Bool.false_ne_true armed
  have notFault : self.state ≠ .fault := by
    intro faulted
    rw [(inv.faulted faulted).1] at armed
    exact Bool.false_ne_true armed
  have stays := (update_armRequested session allowed armed notFault fresh selected released).trans
    keeps
  have settled := @update_settled config now vehicle panda command self allowed fresh
  rw [update_lateralArmed, settled.lateral session stays, selected, released]
  rfl

theorem update_braked (drops : config.lateralDisengageOnBrake = true)
    (fresh : pandaFresh config now panda = true) (braked : vehicle.brakePressed = true) :
    (self.update config now vehicle panda command).1.lateralEnabled = false := by
  by_cases allowed : config.allowActuation = true
  · exact (update_settled allowed fresh).brakeLateral braked drops
  · have unread : readsButtons config now panda = false := by
      simp [readsButtons, allowed]
    exact (update_unread unread).2.noLateral

theorem update_steering_withheld (off : (self.update config now vehicle panda command).1.lateralEnabled =
      false) :
    WithholdsSteering (some (self.update config now vehicle panda command).2) := by
  intro decision member
  obtain rfl : (self.update config now vehicle panda command).2 = decision := by simpa using member
  have unarmed := update_lateralArmed.trans off
  refine ⟨unarmed, ?_⟩
  by_contra permitted
  have armed := update_lateralAllowed (by simpa using permitted)
  rw [unarmed] at armed
  exact Bool.false_ne_true armed

end Update

section Calls
variable {config : SafetyConfig} {self : SafetySupervisor}

/-- What is held from the brake press on. -/
def SteeringDropped (config : SafetyConfig) (supervisor : SafetySupervisor) : Prop :=
  ArmInvariant config supervisor ∧ supervisor.lateralEnabled = false

theorem requestArm_withholds (arm : Bool) (off : self.lateralEnabled = false) :
    (self.requestArm config arm).1.lateralEnabled = false := by
  unfold requestArm
  dsimp only
  split_ifs <;> first | exact off | rfl

theorem call_withholds (drops : config.lateralDisengageOnBrake = true) (call : SupervisorCall)
    (dropped : SteeringDropped config self) (unselected : ¬ ReselectsSteering config self call)
    (unresumed : ¬ ResumesSteering config self call) :
    SteeringDropped config ((supervisorMachine config).call self call).1 ∧
      WithholdsSteering ((supervisorMachine config).call self call).2 := by
  obtain ⟨inv, off⟩ := dropped
  cases call with
  | requestArm arm =>
      exact ⟨⟨requestArm_invariant config inv arm, requestArm_withholds arm off⟩,
        fun decision member => by cases member⟩
  | update now vehicle panda command =>
      have stays := update_withholds inv off drops unselected unresumed
      exact ⟨⟨update_invariant config now vehicle panda command inv, stays⟩, update_steering_withheld stays⟩

theorem call_resumes (call : SupervisorCall) (dropped : SteeringDropped config self)
    (resumes : ResumesSteering config self call) :
    ¬ WithholdsSteering ((supervisorMachine config).call self call).2 := by
  cases call with
  | requestArm arm => exact absurd resumes id
  | update now vehicle panda command =>
      intro withheld
      have unarmed := (withheld _ rfl).1
      rw [update_resumes dropped.1 resumes] at unarmed
      exact Bool.false_ne_true unarmed.symm

end Calls

/-- From a brake press on, and until a button event or a new arm, steering stays withheld if and
only if no update finds it selected in the firmware again. -/
theorem dropped_steering_iff (config : AcceptedConfig)
    (drops : config.lateralDisengageOnBrake = true) (calls later : List SupervisorCall)
    (now : TimePoint) (vehicle : VehicleStateData) (panda : PandaHealth)
    (command : CommandSample) (fresh : pandaFresh config.toSafetyConfig now panda = true)
    (braked : vehicle.brakePressed = true) :
    let machine := supervisorMachine config.toSafetyConfig
    let after := ((machine.run {} calls).update config.toSafetyConfig now vehicle panda command).1
    machine.Quiet (ReselectsSteering config.toSafetyConfig) after later →
      ((∀ answer ∈ machine.answers after later, WithholdsSteering answer) ↔
        machine.Quiet (ResumesSteering config.toSafetyConfig) after later) := by
  intro machine after quiet
  have dropped : SteeringDropped config.toSafetyConfig after :=
    ⟨update_invariant config.toSafetyConfig now vehicle panda command
      (run_invariant config.toSafetyConfig calls), update_braked drops fresh braked⟩
  exact machine.answers_iff_quiet (SteeringDropped config.toSafetyConfig) _ _ WithholdsSteering
    (fun _ call held unselected unresumed => call_withholds drops call held unselected unresumed)
    (fun _ call held _ resumes => call_resumes call held resumes) later after dropped quiet

def brakeDropConfig : AcceptedConfig :=
  ⟨{ allowActuation := true, resumeOnCommandReturn := true, lateralDisengageOnBrake := true },
    by decide +kernel⟩

def selectedPanda : PandaHealth :=
  { fixturePanda with ignitionOn := true, commandSessionReady := true, lateralSelected := true }

def brakedVehicle : VehicleStateData := { fixtureVehicle with brakePressed := true }

def selectedCalls : List SupervisorCall :=
  [.requestArm true, .update fixtureNow fixtureVehicle selectedPanda fixtureCommand]

def releasedCalls : List SupervisorCall :=
  [.update fixtureNow fixtureVehicle selectedPanda fixtureCommand]

def brakedSupervisor : SafetySupervisor :=
  (((supervisorMachine brakeDropConfig.toSafetyConfig).run {} selectedCalls).update
    brakeDropConfig.toSafetyConfig fixtureNow brakedVehicle selectedPanda fixtureCommand).1

theorem released_without_event :
    (supervisorMachine brakeDropConfig.toSafetyConfig).Quiet
      (ReselectsSteering brakeDropConfig.toSafetyConfig) brakedSupervisor releasedCalls := by
  refine ⟨?_, trivial⟩
  rintro ⟨_, laneKeep | set⟩
  · exact absurd laneKeep (by decide +kernel)
  · exact absurd set (by decide +kernel)

/-- The brake drops steering, and its release brings it back: no button, no new arm. -/
theorem released_brake_resteers :
    (supervisorMachine brakeDropConfig.toSafetyConfig).Quiet
        (ReselectsSteering brakeDropConfig.toSafetyConfig) brakedSupervisor releasedCalls ∧
      brakedSupervisor.lateralEnabled = false ∧
      ((supervisorMachine brakeDropConfig.toSafetyConfig).answers brakedSupervisor
        releasedCalls).map (Option.map fun decision =>
          (decision.lateralArmed, decision.lateralAllowed)) = [some (true, true)] := by
  exact ⟨released_without_event, by decide +kernel, by decide +kernel⟩

/-- The same run, seen by the criterion: the release is a call that resumes steering. -/
theorem released_brake_resumes :
    (∀ answer ∈ (supervisorMachine brakeDropConfig.toSafetyConfig).answers brakedSupervisor
        releasedCalls, WithholdsSteering answer) ↔
      (supervisorMachine brakeDropConfig.toSafetyConfig).Quiet
        (ResumesSteering brakeDropConfig.toSafetyConfig) brakedSupervisor releasedCalls :=
  dropped_steering_iff brakeDropConfig rfl selectedCalls releasedCalls fixtureNow brakedVehicle
    selectedPanda fixtureCommand (by decide +kernel) rfl released_without_event

end SafetySupervisor
end Ioniq5Ecan
