import Ioniq5Ecan.Supervisor.Observation

/-! # Steering does not see the longitudinal inputs

In the command session, with the brake not allowed to disengage steering, the
part of the supervisor that `SteeringAgrees` compares evolves by itself: brake,
ACC fault, gas, SET presses and the longitudinal firmware flag change neither
it nor the steering view of a decision (`steering_independent`). -/
set_option autoImplicit false
namespace Ioniq5Ecan
namespace SafetySupervisor

open Library (CallMachine)

/-- What a decision says about everything but the longitudinal channel. -/
structure SteeringView where
  state : ControlState
  lateralAllowed : Bool
  lateralArmed : Bool
  heartbeatEngaged : Bool
  useVehicleSafetyMode : Bool
  deriving DecidableEq

def steeringView (decision : SafetyDecision) : SteeringView :=
  ⟨decision.state, decision.lateralAllowed, decision.lateralArmed, decision.heartbeatEngaged,
    decision.useVehicleSafetyMode⟩

/-- Equal up to the longitudinal channel, the SET counter and the reason. -/
structure SteeringAgrees (left right : SafetySupervisor) : Prop where
  state : left.state = right.state
  armRequested : left.armRequested = right.armRequested
  lateralEnabled : left.lateralEnabled = right.lateralEnabled
  lastCancel : left.lastCancelButtonEvents = right.lastCancelButtonEvents
  lastTxBlocked : left.lastTxBlocked = right.lastTxBlocked
  deadline : left.softDisableDeadline = right.softDisableDeadline

/-- Two calls with the same steering inputs, each with the longitudinal flag only where the
lateral one is. -/
inductive SameSteering : SupervisorCall → SupervisorCall → Prop
  | requestArm (arm : Bool) : SameSteering (.requestArm arm) (.requestArm arm)
  | update (now : TimePoint) (vehicle : VehicleStateData) (panda : PandaHealth)
      (command : CommandSample) (brake acc gas longitudinal : Bool) (set : UInt64)
      (left : panda.longitudinalSelected = true → panda.lateralSelected = true)
      (right : longitudinal = true → panda.lateralSelected = true) :
      SameSteering (.update now vehicle panda command)
        (.update now { vehicle with
          brakePressed := brake, accFault := acc, gasPressed := gas, setButtonEvents := set }
          { panda with longitudinalSelected := longitudinal } command)

/-- A TX rejection counted while engaged. -/
def RejectsEngaged (supervisor : SafetySupervisor) : SupervisorCall → Prop
  | .requestArm _ => False
  | .update _ _ panda _ =>
      isEngaged supervisor.state = true ∧ supervisor.lastTxBlocked < panda.safetyTxBlocked

section Stages
variable {config : SafetyConfig} {left right : SafetySupervisor}

theorem SteeringAgrees.symm (agrees : SteeringAgrees left right) : SteeringAgrees right left :=
  ⟨agrees.state.symm, agrees.armRequested.symm, agrees.lateralEnabled.symm,
    agrees.lastCancel.symm, agrees.lastTxBlocked.symm, agrees.deadline.symm⟩

theorem SteeringAgrees.trans {middle : SafetySupervisor} (first : SteeringAgrees left middle)
    (second : SteeringAgrees middle right) : SteeringAgrees left right :=
  ⟨first.state.trans second.state, first.armRequested.trans second.armRequested,
    first.lateralEnabled.trans second.lateralEnabled, first.lastCancel.trans second.lastCancel,
    first.lastTxBlocked.trans second.lastTxBlocked, first.deadline.trans second.deadline⟩

theorem SteeringAgrees.transition (agrees : SteeringAgrees left right) (next : ControlState)
    (reason reason' : String) :
    SteeringAgrees (left.transition next reason) (right.transition next reason') :=
  ⟨rfl, agrees.armRequested, agrees.lateralEnabled, agrees.lastCancel, agrees.lastTxBlocked, by
    simp only [SafetySupervisor.transition, agrees.deadline]⟩

theorem SteeringAgrees.withdrawArm (agrees : SteeringAgrees left right) :
    SteeringAgrees left.withdrawArm right.withdrawArm :=
  ⟨agrees.state, rfl, rfl, agrees.lastCancel, agrees.lastTxBlocked, agrees.deadline⟩

theorem SteeringAgrees.fault (agrees : SteeringAgrees left right) (reason : String) :
    SteeringAgrees (left.fault reason) (right.fault reason) :=
  agrees.withdrawArm.transition .fault reason reason

theorem SteeringAgrees.disarm (agrees : SteeringAgrees left right) (reason : String) :
    SteeringAgrees (left.disarm reason) (right.disarm reason) :=
  agrees.withdrawArm.transition .passive reason reason

theorem SteeringAgrees.setWaiting (agrees : SteeringAgrees left right) (waiting : Bool) :
    SteeringAgrees (left.setWaiting waiting) (right.setWaiting waiting) :=
  ⟨agrees.state, agrees.armRequested, agrees.lateralEnabled, agrees.lastCancel,
    agrees.lastTxBlocked, agrees.deadline⟩

theorem SteeringAgrees.setDeadline (agrees : SteeringAgrees left right) (deadline : TimePoint) :
    SteeringAgrees (left.setDeadline deadline) (right.setDeadline deadline) :=
  ⟨agrees.state, agrees.armRequested, agrees.lateralEnabled, agrees.lastCancel,
    agrees.lastTxBlocked, rfl⟩

theorem requestArm_agrees (agrees : SteeringAgrees left right) (arm : Bool) :
    SteeringAgrees (left.requestArm config arm).1 (right.requestArm config arm).1 := by
  obtain ⟨state, armedEq, lateral, cancel, blocked, deadline⟩ := agrees
  cases arm with
  | false =>
      simp only [requestArm, Bool.false_and, Bool.false_eq_true, if_false, Bool.not_false, if_true]
      by_cases known : (left.state != .disconnected) = true
      · rw [if_pos known, if_pos (by rw [← state]; exact known)]
        exact ⟨rfl, rfl, rfl, cancel, blocked, rfl⟩
      · rw [if_neg known, if_neg (by rw [← state]; exact known)]
        exact ⟨state, rfl, rfl, cancel, blocked, deadline⟩
  | true =>
      cases allowed : config.allowActuation with
      | false =>
          simp only [requestArm, allowed, Bool.not_false, Bool.and_true, if_true]
          exact ⟨rfl, armedEq, lateral, cancel, blocked, rfl⟩
      | true =>
          cases armed : left.armRequested with
          | false =>
              rw [requestArm_granted allowed armed,
                requestArm_granted allowed (armedEq.symm.trans armed), ← state]
              by_cases faulted : left.state = .fault
              · rw [if_pos faulted, if_pos faulted]
                exact ⟨rfl, rfl, rfl, cancel, blocked, rfl⟩
              · rw [if_neg faulted, if_neg faulted]
                exact ⟨state, rfl, rfl, cancel, blocked, deadline⟩
          | true =>
              rw [requestArm_repeated allowed armed,
                requestArm_repeated allowed (armedEq.symm.trans armed), ← state]
              by_cases faulted : left.state = .fault
              · rw [if_pos faulted, if_pos faulted]
                exact ⟨rfl, rfl, lateral, cancel, blocked, rfl⟩
              · rw [if_neg faulted, if_neg faulted]
                exact ⟨state, rfl, lateral, cancel, blocked, deadline⟩

/-- The supervisors agree after a call, and so do the answers. -/
structure AnswersAgree (left right : SafetySupervisor × SafetyDecision) : Prop where
  supervisor : SteeringAgrees left.1 right.1
  view : steeringView left.2 = steeringView right.2

theorem SteeringAgrees.answer (agrees : SteeringAgrees left right) (now : TimePoint)
    (lateral longitudinal longitudinal' vehicleMode heartbeat : Bool) :
    AnswersAgree (left.answer config now lateral longitudinal vehicleMode heartbeat)
      (right.answer config now lateral longitudinal' vehicleMode heartbeat) := by
  refine ⟨agrees, ?_⟩
  simp only [SafetySupervisor.answer, steeringView, decision, agrees.state, agrees.lateralEnabled]

end Stages

section Update
variable {config : SafetyConfig} {now : TimePoint} {vehicle : VehicleStateData}
  {panda : PandaHealth} {command : CommandSample} {left right : SafetySupervisor}
  {observed observed' : Observed} {brake acc gas longitudinal : Bool} {set : UInt64}

/-- The longitudinal channel is selected only where the lateral one is. -/
def Led (supervisor : SafetySupervisor) : Prop :=
  supervisor.longitudinalEnabled = true → supervisor.lateralEnabled = true

theorem activate_agrees (agrees : SteeringAgrees left right)
    (lateral : left.lateralEnabled = true) :
    AnswersAgree (left.activate config now vehicle panda observed)
      (right.activate config now { vehicle with
        brakePressed := brake, accFault := acc, gasPressed := gas, setButtonEvents := set }
        { panda with longitudinalSelected := longitudinal } observed') := by
  have lateral' : right.lateralEnabled = true := agrees.lateralEnabled.symm.trans lateral
  unfold activate
  dsimp only
  by_cases controls : panda.controlsAllowed = true
  · rw [if_neg (by simp [controls]), if_neg (by simp [lateral]), if_neg (by simp [controls]),
      if_neg (by simp [lateral'])]
    rw [lateral, lateral']
    exact (agrees.transition .active _ _).answer _ _ _ _ _ _
  · rw [if_pos (by simpa using controls), if_pos (by simpa using controls)]
    exact (agrees.transition .armed _ _).answer _ _ _ _ _ _

theorem paused_agrees (agrees : SteeringAgrees left right) (lateral : left.lateralEnabled = true)
    (requested requested' : Bool) (reason reason' : String) :
    AnswersAgree
      (if (left.state == .softDisabling) = true then
        if left.softDisableDeadline ≤ now then
          (left.fault "temporary EPS fault recovery timed out").answer config now
            false false false false
        else if (vehicle.epsFault || !panda.controlsAllowed) = true then
          (left.transition .softDisabling reason).answer config now
            false (requested && panda.controlsAllowed && !gasOverride config vehicle) true true
        else left.activate config now vehicle panda observed
      else left.activate config now vehicle panda observed)
      (if (right.state == .softDisabling) = true then
        if right.softDisableDeadline ≤ now then
          (right.fault "temporary EPS fault recovery timed out").answer config now
            false false false false
        else if (vehicle.epsFault || !panda.controlsAllowed) = true then
          (right.transition .softDisabling reason').answer config now
            false (requested' && panda.controlsAllowed && !gasOverride config { vehicle with
              brakePressed := brake, accFault := acc, gasPressed := gas, setButtonEvents := set })
            true true
        else right.activate config now { vehicle with
          brakePressed := brake, accFault := acc, gasPressed := gas, setButtonEvents := set }
          { panda with longitudinalSelected := longitudinal } observed'
      else right.activate config now { vehicle with
        brakePressed := brake, accFault := acc, gasPressed := gas, setButtonEvents := set }
        { panda with longitudinalSelected := longitudinal } observed') := by
  rw [← agrees.state, ← agrees.deadline]
  by_cases soft : (left.state == .softDisabling) = true
  · rw [if_pos soft, if_pos soft]
    by_cases expired : left.softDisableDeadline ≤ now
    · rw [if_pos expired, if_pos expired]
      exact (agrees.fault _).answer _ _ _ _ _ _
    · rw [if_neg expired, if_neg expired]
      by_cases cause : (vehicle.epsFault || !panda.controlsAllowed) = true
      · rw [if_pos cause, if_pos cause]
        exact (agrees.transition .softDisabling _ _).answer _ _ _ _ _ _
      · rw [if_neg cause, if_neg cause]
        exact activate_agrees agrees lateral
  · rw [if_neg soft, if_neg soft]
    exact activate_agrees agrees lateral

theorem drive_agrees (agrees : SteeringAgrees left right) (led : Led left) (led' : Led right) :
    AnswersAgree (left.drive config now vehicle panda observed)
      (right.drive config now { vehicle with
        brakePressed := brake, accFault := acc, gasPressed := gas, setButtonEvents := set }
        { panda with longitudinalSelected := longitudinal } observed') := by
  unfold drive
  dsimp only
  by_cases lateral : left.lateralEnabled = true
  · have lateral' : right.lateralEnabled = true := agrees.lateralEnabled.symm.trans lateral
    have requested : ∀ request : Bool, ¬ (!left.lateralEnabled && !request) = true := by
      simp [lateral]
    have requested' : ∀ request : Bool, ¬ (!right.lateralEnabled && !request) = true := by
      simp [lateral']
    rw [if_neg (requested _), if_neg (requested' _), ← agrees.state]
    by_cases waiting : (vehicle.epsFault && left.state != .softDisabling &&
        left.state != .active) = true
    · rw [if_pos waiting, if_pos waiting]
      exact (agrees.transition .armed _ _).answer _ _ _ _ _ _
    rw [if_neg waiting, if_neg waiting]
    by_cases entering : (vehicle.epsFault && left.state != .softDisabling) = true
    · simp only [entering, if_true]
      have opened := (agrees.setDeadline (now + softDisableTime)).transition .softDisabling
        "temporary EPS fault; lateral paused" "temporary EPS fault; lateral paused"
      exact paused_agrees opened lateral _ _ _ _
    · simp only [entering]
      exact paused_agrees agrees lateral _ _ _ _
  · have noLateral : left.lateralEnabled = false := by simpa using lateral
    have noLateral' : right.lateralEnabled = false := agrees.lateralEnabled.symm.trans noLateral
    have none : left.longitudinalEnabled = false := by
      by_contra on
      exact lateral (led (by simpa using on))
    have none' : right.longitudinalEnabled = false := by
      by_contra on
      have both := led' (by simpa using on)
      rw [noLateral'] at both
      cases both
    have unselected : (!left.lateralEnabled &&
        !(config.allowLongitudinal && left.longitudinalEnabled)) = true := by
      simp [noLateral, none]
    have unselected' : (!right.lateralEnabled &&
        !(config.allowLongitudinal && right.longitudinalEnabled)) = true := by
      simp [noLateral', none']
    rw [if_pos unselected, if_pos unselected']
    exact (agrees.transition .armed _ _).answer _ _ _ _ _ _

theorem gateCommand_agrees (agrees : SteeringAgrees left right) (led : Led left)
    (led' : Led right) :
    AnswersAgree (left.gateCommand config now vehicle panda command observed)
      (right.gateCommand config now { vehicle with
        brakePressed := brake, accFault := acc, gasPressed := gas, setButtonEvents := set }
        { panda with longitudinalSelected := longitudinal } command observed') := by
  have standby : standbyMode config { panda with longitudinalSelected := longitudinal } =
      standbyMode config panda := rfl
  unfold gateCommand
  dsimp only
  rw [standby, ← agrees.state]
  by_cases fresh : (!commandFresh config now command) = true
  · rw [if_pos fresh, if_pos fresh]
    by_cases gap : (config.resumeOnCommandReturn && left.state != .softDisabling &&
        !vehicle.epsFault) = true
    · rw [if_pos gap, if_pos gap]
      exact ((agrees.setWaiting true).transition .passive _ _).answer _ _ _ _ _ _
    rw [if_neg gap, if_neg gap]
    by_cases engaged : isEngaged left.state = true
    · rw [if_pos engaged, if_pos engaged]
      exact (agrees.fault _).answer _ _ _ _ _ _
    · rw [if_neg engaged, if_neg engaged]
      exact (agrees.disarm _).answer _ _ _ _ _ _
  rw [if_neg fresh, if_neg fresh]
  by_cases invalid : (!command.valid) = true
  · rw [if_pos invalid, if_pos invalid]
    exact (agrees.fault _).answer _ _ _ _ _ _
  rw [if_neg invalid, if_neg invalid]
  by_cases released : (!command.enable) = true
  · rw [if_pos released, if_pos released]
    exact (agrees.transition .armed _ _).answer _ _ _ _ _ _
  rw [if_neg released, if_neg released]
  by_cases inStandby : standbyMode config panda = true
  · rw [if_pos inStandby, if_pos inStandby]
    exact (agrees.transition .armed _ _).answer _ _ _ _ _ _
  rw [if_neg inStandby, if_neg inStandby]
  by_cases unready : (config.resumeOnCommandReturn && !panda.commandSessionReady) = true
  · rw [if_pos unready, if_pos unready]
    by_cases engaged : isEngaged left.state = true
    · rw [if_pos engaged, if_pos engaged]
      exact (agrees.fault _).answer _ _ _ _ _ _
    · rw [if_neg engaged, if_neg engaged]
      exact (agrees.transition .armed _ _).answer _ _ _ _ _ _
  rw [if_neg unready, if_neg unready]
  exact drive_agrees agrees led led'

theorem gateArm_agrees (agrees : SteeringAgrees left right)
    (cancel : observed.cancelEvent = observed'.cancelEvent)
    (led : left.armRequested = true → left.state ≠ .fault → Led left)
    (led' : right.armRequested = true → right.state ≠ .fault → Led right) :
    AnswersAgree (left.gateArm config now vehicle panda command observed)
      (right.gateArm config now { vehicle with
        brakePressed := brake, accFault := acc, gasPressed := gas, setButtonEvents := set }
        { panda with longitudinalSelected := longitudinal } command observed') := by
  have speed : speedLimitExceeded config { vehicle with
      brakePressed := brake, accFault := acc, gasPressed := gas, setButtonEvents := set } =
      speedLimitExceeded config vehicle := rfl
  have angle : angleLimitExceeded config { vehicle with
      brakePressed := brake, accFault := acc, gasPressed := gas, setButtonEvents := set } =
      angleLimitExceeded config vehicle := rfl
  have configured : configuredMode config { panda with longitudinalSelected := longitudinal } =
      configuredMode config panda := rfl
  have standby : standbyMode config { panda with longitudinalSelected := longitudinal } =
      standbyMode config panda := rfl
  rw [← agrees.armRequested, ← agrees.state] at led'
  unfold gateArm
  dsimp only
  rw [speed, angle, configured, standby, ← cancel, ← agrees.state, ← agrees.armRequested]
  by_cases unarmed : (!left.armRequested) = true
  · rw [if_pos unarmed, if_pos unarmed]
    by_cases notFault : (left.state != .fault) = true
    · rw [if_pos notFault, if_pos notFault]
      exact (agrees.transition .passive _ _).answer _ _ _ _ _ _
    · rw [if_neg notFault, if_neg notFault]
      exact agrees.answer _ _ _ _ _ _
  rw [if_neg unarmed, if_neg unarmed]
  by_cases harness : (panda.harnessStatus != config.requiredHarnessStatus) = true
  · rw [if_pos harness, if_pos harness]
    exact (agrees.fault _).answer _ _ _ _ _ _
  rw [if_neg harness, if_neg harness]
  by_cases ignition : (config.resumeOnCommandReturn && !panda.ignitionOn) = true
  · rw [if_pos ignition, if_pos ignition]
    exact (agrees.fault _).answer _ _ _ _ _ _
  rw [if_neg ignition, if_neg ignition]
  by_cases faulted : (left.state == .fault) = true
  · rw [if_pos faulted, if_pos faulted]
    exact agrees.answer _ _ _ _ _ _
  rw [if_neg faulted, if_neg faulted]
  by_cases invalid : (!vehicle.valid) = true
  · rw [if_pos invalid, if_pos invalid]
    exact (agrees.fault _).answer _ _ _ _ _ _
  rw [if_neg invalid, if_neg invalid]
  by_cases fast : speedLimitExceeded config vehicle = true
  · rw [if_pos fast, if_pos fast]
    exact (agrees.fault _).answer _ _ _ _ _ _
  rw [if_neg fast, if_neg fast]
  by_cases turned : angleLimitExceeded config vehicle = true
  · rw [if_pos turned, if_pos turned]
    exact (agrees.fault _).answer _ _ _ _ _ _
  rw [if_neg turned, if_neg turned]
  by_cases cancelled : (config.disengageOnCancel && observed.cancelEvent) = true
  · rw [if_pos cancelled, if_pos cancelled]
    exact (agrees.disarm _).answer _ _ _ _ _ _
  rw [if_neg cancelled, if_neg cancelled]
  by_cases drifted : (!configuredMode config panda &&
      (!standbyMode config panda || isEngaged left.state)) = true
  · rw [if_pos drifted, if_pos drifted]
    by_cases engaged : (isEngaged left.state || config.resumeOnCommandReturn) = true
    · rw [if_pos engaged, if_pos engaged]
      exact (agrees.fault _).answer _ _ _ _ _ _
    · rw [if_neg engaged, if_neg engaged]
      exact (agrees.transition .armed _ _).answer _ _ _ _ _ _
  rw [if_neg drifted, if_neg drifted]
  have armed : left.armRequested = true := by simpa using unarmed
  have notFault : left.state ≠ .fault := by simpa using faulted
  exact gateCommand_agrees agrees (led armed notFault) (led' armed notFault)

theorem selectedChannels_agrees (session : config.resumeOnCommandReturn = true)
    (agrees : SteeringAgrees left right) :
    SteeringAgrees ((left.selectedChannels config vehicle panda).1.afterSelection vehicle)
      ((right.selectedChannels config { vehicle with
        brakePressed := brake, accFault := acc, gasPressed := gas, setButtonEvents := set }
        { panda with longitudinalSelected := longitudinal }).1.afterSelection { vehicle with
          brakePressed := brake, accFault := acc, gasPressed := gas, setButtonEvents := set }) := by
  by_cases armed : left.armRequested = true
  · have recorded : (left.recordButtons vehicle).armRequested = true := armed
    have recorded' : (right.recordButtons { vehicle with
        brakePressed := brake, accFault := acc, gasPressed := gas,
        setButtonEvents := set }).armRequested = true := agrees.armRequested.symm.trans armed
    unfold selectedChannels
    rw [selectChannels_session config _ _ recorded session,
      selectChannels_session config _ _ recorded' session]
    exact ⟨agrees.state, agrees.armRequested, rfl, rfl, agrees.lastTxBlocked, agrees.deadline⟩
  · have unarmed : left.armRequested = false := by simpa using armed
    have recorded : (left.recordButtons vehicle).armRequested = false := unarmed
    have recorded' : (right.recordButtons { vehicle with
        brakePressed := brake, accFault := acc, gasPressed := gas,
        setButtonEvents := set }).armRequested = false := agrees.armRequested.symm.trans unarmed
    unfold selectedChannels
    rw [selectChannels_unarmed config _ _ recorded, selectChannels_unarmed config _ _ recorded']
    exact ⟨agrees.state, agrees.armRequested, agrees.lateralEnabled, rfl, agrees.lastTxBlocked,
      agrees.deadline⟩

theorem interventions_agree (keeps : config.lateralDisengageOnBrake = false)
    (self : SafetySupervisor) (seen : VehicleStateData) :
    SteeringAgrees self
      ((self.disengageOnBrake config seen).1.disengageOnAccFault config seen).1 := by
  have brake : SteeringAgrees self (self.disengageOnBrake config seen).1 := by
    unfold disengageOnBrake
    split
    · exact ⟨rfl, rfl, by simp [keeps], rfl, rfl, rfl⟩
    · exact ⟨rfl, rfl, rfl, rfl, rfl, rfl⟩
  refine brake.trans ?_
  unfold disengageOnAccFault
  split
  · exact ⟨rfl, rfl, rfl, rfl, rfl, rfl⟩
  · exact ⟨rfl, rfl, rfl, rfl, rfl, rfl⟩

theorem observePanda_agrees (agrees : SteeringAgrees left right)
    (noRejection : ¬ (isEngaged left.state = true ∧ left.lastTxBlocked < panda.safetyTxBlocked))
    (turnedOff byBrake turnedOff' byBrake' : Bool) :
    SteeringAgrees (left.observePanda panda turnedOff byBrake).1
      (right.observePanda { panda with longitudinalSelected := longitudinal }
        turnedOff' byBrake').1 := by
  by_cases healthFault : pandaHealthFault panda = true
  · have healthFault' : pandaHealthFault { panda with longitudinalSelected := longitudinal } =
        true := healthFault
    rw [observePanda, observePanda, if_pos healthFault, if_pos healthFault']
    exact agrees.fault _
  · have healthy : pandaHealthFault panda = false := by simpa using healthFault
    rw [observePanda_passes healthy (fun engaged more => noRejection ⟨engaged, more⟩),
      @observePanda_passes { panda with longitudinalSelected := longitudinal } right healthy
        (fun engaged more => noRejection ⟨agrees.state ▸ engaged, agrees.lastTxBlocked ▸ more⟩)]
    exact agrees

/-- In the session an armed, fault-free observation selects the longitudinal channel only where
the firmware has selected the lateral one. -/
theorem observe_led {self : SafetySupervisor} (session : config.resumeOnCommandReturn = true)
    (keeps : config.lateralDisengageOnBrake = false)
    (flags : panda.longitudinalSelected = true → panda.lateralSelected = true)
    (armed : (self.observe config vehicle panda).supervisor.armRequested = true)
    (notFault : (self.observe config vehicle panda).supervisor.state ≠ .fault) :
    Led (self.observe config vehicle panda).supervisor := by
  intro on
  have before : self.armRequested = true := by
    rcases observe_arm config vehicle panda self with same | faulted
    · exact same.armRequested.symm.trans armed
    · exact absurd faulted.state notFault
  have recorded : (self.recordButtons vehicle).armRequested = true := before
  have selected := (observe_narrowed config vehicle panda self).longitudinal on
  have selection : self.selectedChannels config vehicle panda =
      (self.recordButtons vehicle).selectFromFirmware vehicle panda
        (self.setButtonEvent vehicle) :=
    selectChannels_session config vehicle panda recorded session _ _
  rw [observe_lateral config vehicle panda self notFault, keeps, selection, Bool.and_false,
    Bool.not_false, Bool.and_true]
  rw [selection] at selected
  exact flags (Bool.and_eq_true_iff.mp selected).1

theorem observe_agrees (session : config.resumeOnCommandReturn = true)
    (keeps : config.lateralDisengageOnBrake = false) (agrees : SteeringAgrees left right)
    (noRejection : ¬ (isEngaged left.state = true ∧ left.lastTxBlocked < panda.safetyTxBlocked)) :
    SteeringAgrees (left.observe config vehicle panda).supervisor
        (right.observe config { vehicle with
          brakePressed := brake, accFault := acc, gasPressed := gas, setButtonEvents := set }
          { panda with longitudinalSelected := longitudinal }).supervisor ∧
      (left.observe config vehicle panda).cancelEvent =
        (right.observe config { vehicle with
          brakePressed := brake, accFault := acc, gasPressed := gas, setButtonEvents := set }
          { panda with longitudinalSelected := longitudinal }).cancelEvent := by
  constructor
  · have selected := @selectedChannels_agrees config vehicle panda left right brake acc gas
      longitudinal set session agrees
    have checked := ((interventions_agree keeps _ vehicle).symm.trans selected).trans
      (interventions_agree keeps _ { vehicle with
        brakePressed := brake, accFault := acc, gasPressed := gas, setButtonEvents := set })
    obtain ⟨state, _, blocked⟩ := @selectedChannels_state config vehicle panda left
    have same := (interventions_agree keeps
      ((left.selectedChannels config vehicle panda).1.afterSelection vehicle) vehicle).symm
    have last := @observePanda_agrees panda _ _ longitudinal checked (by
      rw [same.state, same.lastTxBlocked]
      change ¬ (isEngaged (left.selectedChannels config vehicle panda).1.state = true ∧
        (left.selectedChannels config vehicle panda).1.lastTxBlocked < panda.safetyTxBlocked)
      rw [state, blocked]
      exact noRejection)
      (left.selectedChannels config vehicle panda).2
      (((left.selectedChannels config vehicle panda).1.afterSelection vehicle).disengageOnBrake
        config vehicle).2
      (right.selectedChannels config { vehicle with
        brakePressed := brake, accFault := acc, gasPressed := gas, setButtonEvents := set }
        { panda with longitudinalSelected := longitudinal }).2
      (((right.selectedChannels config { vehicle with
        brakePressed := brake, accFault := acc, gasPressed := gas, setButtonEvents := set }
        { panda with longitudinalSelected := longitudinal }).1.afterSelection { vehicle with
          brakePressed := brake, accFault := acc, gasPressed := gas,
          setButtonEvents := set }).disengageOnBrake config { vehicle with
            brakePressed := brake, accFault := acc, gasPressed := gas, setButtonEvents := set }).2
    rw [(observe_supervisor config left vehicle panda).1, (observe_supervisor config right
      { vehicle with
        brakePressed := brake, accFault := acc, gasPressed := gas, setButtonEvents := set }
      { panda with longitudinalSelected := longitudinal }).1]
    exact ⟨last.state, last.armRequested, last.lateralEnabled, last.lastCancel, rfl, last.deadline⟩
  · have event : ∀ (self : SafetySupervisor) (seen : VehicleStateData) (sample : PandaHealth),
        (self.observe config seen sample).cancelEvent = self.cancelEvent seen := by
      intro self seen sample
      have raw : (self.observe config seen sample).cancelEvent =
          (self.selectedChannels config seen sample).1.cancelEvent seen := rfl
      rw [raw, cancelEvent, selectedChannels_cancel]
      rfl
    rw [event, event, cancelEvent, cancelEvent, agrees.lastCancel]

theorem update_agrees (session : config.resumeOnCommandReturn = true)
    (keeps : config.lateralDisengageOnBrake = false) (agrees : SteeringAgrees left right)
    (noRejection : ¬ (isEngaged left.state = true ∧ left.lastTxBlocked < panda.safetyTxBlocked))
    (flags : panda.longitudinalSelected = true → panda.lateralSelected = true)
    (flags' : longitudinal = true → panda.lateralSelected = true) :
    AnswersAgree (left.update config now vehicle panda command)
      (right.update config now { vehicle with
        brakePressed := brake, accFault := acc, gasPressed := gas, setButtonEvents := set }
        { panda with longitudinalSelected := longitudinal } command) := by
  have fresh : pandaFresh config now { panda with longitudinalSelected := longitudinal } =
      pandaFresh config now panda := rfl
  unfold update
  dsimp only
  rw [fresh]
  by_cases stale : (!pandaFresh config now panda) = true
  · rw [if_pos stale, if_pos stale]
    exact ((agrees.setWaiting false).withdrawArm.transition .disconnected _ _).answer _ _ _ _ _ _
  rw [if_neg stale, if_neg stale]
  by_cases passive : (!config.allowActuation) = true
  · rw [if_pos passive, if_pos passive]
    exact ((agrees.setWaiting false).withdrawArm.transition .passive _ _).answer _ _ _ _ _ _
  rw [if_neg passive, if_neg passive]
  obtain ⟨observed, cancel⟩ := @observe_agrees config vehicle panda _ _ brake acc gas longitudinal
    set session keeps (agrees.setWaiting false) noRejection
  exact gateArm_agrees observed cancel (observe_led session keeps flags)
    (observe_led session keeps flags')

end Update
/-- Two runs of the command session with the same steering inputs show the same steering view
after every update. -/
theorem steering_independent (config : AcceptedConfig)
    (session : config.resumeOnCommandReturn = true)
    (keeps : config.lateralDisengageOnBrake = false) (self : SafetySupervisor)
    (calls others : List SupervisorCall) (same : List.Forall₂ SameSteering calls others)
    (noRejection : (supervisorMachine config.toSafetyConfig).Quiet RejectsEngaged self calls) :
    ((supervisorMachine config.toSafetyConfig).answers self calls).map (Option.map steeringView) =
      ((supervisorMachine config.toSafetyConfig).answers self others).map
        (Option.map steeringView) := by
  refine (supervisorMachine config.toSafetyConfig).answers_agree SteeringAgrees SameSteering
    RejectsEngaged (Option.map steeringView) ?_ same self self ⟨rfl, rfl, rfl, rfl, rfl, rfl⟩
    noRejection
  intro left right call call' agrees pair quiet
  cases pair with
  | requestArm arm => exact ⟨requestArm_agrees agrees arm, rfl⟩
  | update now vehicle panda command brake acc gas longitudinal set flags flags' =>
      have next := @update_agrees config.toSafetyConfig now vehicle panda command left right brake
        acc gas longitudinal set session keeps agrees quiet flags flags'
      exact ⟨next.supervisor, congrArg some next.view⟩

def steeredConfig : AcceptedConfig :=
  ⟨{ allowActuation := true, allowLongitudinal := true, resumeOnCommandReturn := true },
    by decide +kernel⟩

def steeredPanda : PandaHealth :=
  { fixturePanda with
    commandSessionActive := true, commandSessionReady := true, ignitionOn := true,
    lateralSelected := true, longitudinalSelected := true }

/-- Braking and pressing SET while Active steers on exactly as the undisturbed run. -/
theorem braking_steers_on :
    let machine := supervisorMachine steeredConfig.toSafetyConfig
    let active : SupervisorCall := .update fixtureNow fixtureVehicle steeredPanda fixtureCommand
    let braked : SupervisorCall := .update fixtureNow
      { fixtureVehicle with
        brakePressed := true, accFault := true, gasPressed := true, setButtonEvents := 1 }
      { steeredPanda with longitudinalSelected := false } fixtureCommand
    (machine.answers {} [.requestArm true, active, active]).map (Option.map steeringView) =
        (machine.answers {} [.requestArm true, active, braked]).map (Option.map steeringView) ∧
      (machine.run {} [.requestArm true, active, braked]).state = .active := by
  intro machine active braked
  have pairs : List.Forall₂ SameSteering [.requestArm true, active, active]
      [.requestArm true, active, braked] :=
    .cons (.requestArm true) (.cons (.update fixtureNow fixtureVehicle steeredPanda fixtureCommand
      false false false true 0 (fun _ => rfl) (fun _ => rfl)) (.cons
        (.update fixtureNow fixtureVehicle steeredPanda fixtureCommand true true true false 1
          (fun _ => rfl) (fun _ => rfl)) .nil))
  refine ⟨steering_independent steeredConfig rfl rfl {} _ _ pairs ⟨id, ?_, ?_, trivial⟩,
    by decide +kernel⟩
  · rintro ⟨_, more⟩
    exact absurd more (by decide +kernel)
  · rintro ⟨_, more⟩
    exact absurd more (by decide +kernel)

end SafetySupervisor
end Ioniq5Ecan
