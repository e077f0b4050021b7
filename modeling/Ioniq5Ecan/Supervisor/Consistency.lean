import Ioniq5Ecan.Supervisor.RecoveryWindow
import Ioniq5Ecan.Supervisor.Settled
import Mathlib.Data.List.Induction

/-! # What the flags of the supervisor say about each other

After an update, state, arm flag, channel flags, pause deadline, waiting flag
and the permissions of the decision are related as `Consistent` lists.  The
deadline alone needs the history of the run: it is the reading of the clock at
the update that began the pause, three seconds on. -/
set_option autoImplicit false
namespace Ioniq5Ecan
namespace SafetySupervisor

open Library (CallMachine)

/-- A channel is selected that the configuration lets the node use. -/
def usableSelected (config : SafetyConfig) (self : SafetySupervisor) : Bool :=
  self.lateralEnabled || config.allowLongitudinal && self.longitudinalEnabled

/-- The relations between the flags after an update. -/
structure Consistent (config : SafetyConfig) (after : SafetySupervisor)
    (decision : SafetyDecision) : Prop where
  reported : decision.state = after.state ∧
    decision.waitingForCommand = after.waitingForCommand
  stopped : after.state = .fault ∨ after.state = .disconnected → after.Disengaged
  heartbeat : decision.heartbeatEngaged = true ↔
    after.state = .active ∨ after.state = .softDisabling
  engaged : after.state = .active ∨ after.state = .softDisabling →
    after.armRequested = true ∧ decision.useVehicleSafetyMode = true ∧
      after.usableSelected config = true
  active : after.state = .active →
    decision.lateralAllowed = true ∨ decision.longitudinalAllowed = true
  permitted : decision.lateralAllowed = true ∨ decision.longitudinalAllowed = true →
    after.state = .active ∨ after.state = .softDisabling
  lateral : decision.lateralAllowed = true → decision.lateralArmed = true
  longitudinal : decision.longitudinalAllowed = true → decision.longitudinalArmed = true
  deadline : after.softDisableDeadline ≠ 0 → after.state = .softDisabling
  waiting : after.state = .passive ∧ after.armRequested = true ↔ after.waitingForCommand = true
  session : after.waitingForCommand = true → config.resumeOnCommandReturn = true

/-! ## The deadline outside a pause -/

/-- A deadline stands only while pausing. -/
def Deadlined (self : SafetySupervisor) : Prop :=
  self.softDisableDeadline ≠ 0 → self.state = .softDisabling

/-- State and deadline are kept, or the state is left and the deadline cleared. -/
inductive PauseStep (before after : SafetySupervisor) : Prop
  | kept (state : after.state = before.state)
      (deadline : after.softDisableDeadline = before.softDisableDeadline)
  | cleared (notSoft : after.state ≠ .softDisabling) (deadline : after.softDisableDeadline = 0)

section Deadline
variable {config : SafetyConfig} {now : TimePoint} {vehicle : VehicleStateData}
  {panda : PandaHealth} {command : CommandSample} {self after : SafetySupervisor}

theorem PauseStep.deadlined (step : PauseStep self after) (deadlined : self.Deadlined) :
    after.Deadlined := by
  intro stands
  cases step with
  | kept state deadline =>
      rw [state]
      exact deadlined (deadline ▸ stands)
  | cleared _ deadline => exact absurd deadline stands

theorem transition_deadlined {next : ControlState} (notSoft : next ≠ .softDisabling)
    (reason : String) : (self.transition next reason).Deadlined :=
  fun stands => absurd (if_neg notSoft) stands

theorem transition_clears {next : ControlState} (notSoft : next ≠ .softDisabling)
    (reason : String) : PauseStep self (after.transition next reason) :=
  .cleared notSoft (if_neg notSoft)

theorem requestArm_pauseStep (arm : Bool) : PauseStep self (self.requestArm config arm).1 := by
  cases arm with
  | false =>
      by_cases lost : self.state = .disconnected
      · exact .kept (by simp [requestArm, lost]) (by simp [requestArm, lost])
      · exact .cleared (by simp [requestArm, lost]) (by simp [requestArm, lost, transition])
  | true =>
      by_cases allowed : config.allowActuation = true
      · by_cases faulted : self.state = .fault
        · exact .cleared (by simp [requestArm_acknowledges allowed faulted])
            (by simp [requestArm, allowed, faulted, apply_ite, transition])
        · obtain ⟨state, deadline⟩ := requestArm_kept allowed faulted
          exact .kept state deadline
      · refine .cleared ?_ ?_
        · simp [requestArm, allowed]
        · simp [requestArm, allowed, transition]

theorem observePanda_pauseStep (turnedOff byBrake : Bool) :
    PauseStep self (self.observePanda panda turnedOff byBrake).1 := by
  rcases observePanda_cases panda self turnedOff byBrake with
    ⟨reason, _, faulted⟩ | ⟨_, dropped⟩ | passed
  · rw [faulted]
    exact transition_clears (by decide) _
  · rw [dropped]
    exact .kept rfl rfl
  · rw [passed]
    exact .kept rfl rfl

theorem observe_deadlined (deadlined : self.Deadlined) :
    (self.observe config vehicle panda).supervisor.Deadlined := by
  have chosen : PauseStep self ((self.selectedChannels config vehicle panda).1.afterSelection
      vehicle) :=
    .kept selectedChannels_state.1 (selectedChannels_deadline config vehicle panda self)
  have braked : PauseStep ((self.selectedChannels config vehicle panda).1.afterSelection vehicle)
      (((self.selectedChannels config vehicle panda).1.afterSelection vehicle).disengageOnBrake
        config vehicle).1 :=
    .kept (disengageOnBrake_frame config vehicle _).state (disengageOnBrake_deadline config vehicle _)
  have checked := PauseStep.kept
    (disengageOnAccFault_frame config vehicle (((self.selectedChannels config vehicle
      panda).1.afterSelection vehicle).disengageOnBrake config vehicle).1).state
    (disengageOnAccFault_deadline config vehicle _)
  have before := checked.deadlined (braked.deadlined (chosen.deadlined deadlined))
  rw [(observe_supervisor config self vehicle panda).1]
  exact (observePanda_pauseStep _ _).deadlined before

end Deadline

/-! ## One update -/

section Update
variable {config : SafetyConfig} {now : TimePoint} {vehicle : VehicleStateData}
  {panda : PandaHealth} {command : CommandSample} {self : SafetySupervisor}

theorem idle_consistent (vehicleMode : Bool)
    (idle : ¬ (self.state = .active ∨ self.state = .softDisabling))
    (stopped : self.state = .fault ∨ self.state = .disconnected → self.Disengaged)
    (deadlined : self.Deadlined)
    (waiting : self.state = .passive ∧ self.armRequested = true ↔ self.waitingForCommand = true)
    (session : self.waitingForCommand = true → config.resumeOnCommandReturn = true) :
    Consistent config self (self.decision config now false false vehicleMode false) where
  reported := ⟨rfl, rfl⟩
  stopped := stopped
  heartbeat := ⟨fun beat => absurd beat Bool.false_ne_true, fun engaged => absurd engaged idle⟩
  engaged := fun engaged => absurd engaged idle
  active := fun active => absurd (Or.inl active) idle
  permitted := by
    rintro (lateral | longitudinal)
    · exact absurd lateral Bool.false_ne_true
    · exact absurd longitudinal Bool.false_ne_true
  lateral := fun lateral => absurd lateral Bool.false_ne_true
  longitudinal := fun longitudinal => absurd longitudinal Bool.false_ne_true
  deadline := deadlined
  waiting := waiting
  session := session

theorem Disengaged.consistent (off : self.Disengaged) (deadlined : self.Deadlined)
    (quiet : self.waitingForCommand = false)
    (idle : ¬ (self.state = .active ∨ self.state = .softDisabling)) :
    Consistent config self (self.decision config now false false false false) := by
  refine idle_consistent false idle (fun _ => off) deadlined ?_ ?_
  · rw [off.unarmed, quiet]
    simp
  · intro waiting
    rw [quiet] at waiting
    exact absurd waiting Bool.false_ne_true

theorem engaged_consistent (lateral longitudinal : Bool)
    (engaged : self.state = .active ∨ self.state = .softDisabling)
    (armed : self.armRequested = true) (quiet : self.waitingForCommand = false)
    (deadlined : self.Deadlined) (selected : self.usableSelected config = true)
    (active : self.state = .active → lateral = true ∨ longitudinal = true)
    (steers : lateral = true → self.lateralEnabled = true)
    (drives : longitudinal = true → (config.allowLongitudinal && self.longitudinalEnabled) = true) :
    Consistent config self (self.decision config now lateral longitudinal true true) where
  reported := ⟨rfl, rfl⟩
  stopped := by
    rintro (faulted | lost)
    · rcases engaged with active | soft <;> simp_all
    · rcases engaged with active | soft <;> simp_all
  heartbeat := ⟨fun _ => engaged, fun _ => rfl⟩
  engaged := fun _ => ⟨armed, rfl, selected⟩
  active := active
  permitted := fun _ => engaged
  lateral := steers
  longitudinal := drives
  deadline := deadlined
  waiting := by
    rw [quiet]
    rcases engaged with active | soft <;> simp_all
  session := by
    intro waiting
    rw [quiet] at waiting
    exact absurd waiting Bool.false_ne_true

theorem gateExit_consistent {observed : Observed} {result : SafetySupervisor × SafetyDecision}
    (unarmedOff : self.armRequested = false → self.Disengaged)
    (faultedOff : self.state = .fault → self.Disengaged) (deadlined : self.Deadlined)
    (quiet : self.waitingForCommand = false)
    (exit : GateExit config now vehicle panda command self observed result) :
    Consistent config result.1 result.2 := by
  cases exit with
  | unarmed unarmed =>
      exact ((unarmedOff unarmed).transition .passive _).consistent
        (transition_deadlined (by decide) _) quiet (by simp)
  | latched faulted =>
      exact (faultedOff faulted).consistent deadlined quiet (by simp [faulted])
  | faulted reason =>
      exact (self.fault_disengaged reason).consistent (transition_deadlined (by decide) _) quiet
        (by simp [fault])
  | disarmed armed reason =>
      exact (self.disarm_disengaged reason).consistent (transition_deadlined (by decide) _) quiet
        (by simp [disarm])
  | waiting armed profile =>
      refine idle_consistent false (by simp) (by simp) (transition_deadlined (by decide) _) ?_
        (fun _ => profile)
      exact ⟨fun _ => rfl, fun _ => ⟨rfl, armed⟩⟩
  | armed armed notFault reason explained vehicleMode =>
      refine idle_consistent vehicleMode (by simp) (by simp) (transition_deadlined (by decide) _)
        ?_ ?_
      · simp [transition, quiet]
      · intro waiting
        exact absurd (waiting.symm.trans quiet) (by decide)
  | paused gates commandGates requested deadline window inTime cause reason =>
      refine engaged_consistent _ _ (Or.inr rfl) gates.armed quiet (fun _ => rfl) requested
        (fun active => absurd active (by simp)) (fun lateral => absurd lateral (by decide)) ?_
      intro longitudinal
      simp only [Bool.and_eq_true] at longitudinal ⊢
      exact longitudinal.1.1
  | active gates commandGates noEpsFault controls inTime permitted reason =>
      obtain lateral | ⟨driven, unpressed⟩ : self.lateralEnabled = true ∨
          (config.allowLongitudinal && self.longitudinalEnabled) = true ∧
            (!gasOverride config vehicle) = true := by
        simpa only [Bool.or_eq_true, Bool.and_eq_true] using permitted
      · refine engaged_consistent _ _ (Or.inl rfl) gates.armed quiet
          (transition_deadlined (by decide) _) ?_ (fun _ => Or.inl lateral) id ?_
        · exact Bool.or_eq_true_iff.mpr (Or.inl lateral)
        · exact fun longitudinal => (Bool.and_eq_true_iff.mp longitudinal).1
      · refine engaged_consistent _ _ (Or.inl rfl) gates.armed quiet
          (transition_deadlined (by decide) _) ?_ (fun _ => Or.inr ?_) id ?_
        · exact Bool.or_eq_true_iff.mpr (Or.inr driven)
        · exact Bool.and_eq_true_iff.mpr ⟨driven, unpressed⟩
        · exact fun longitudinal => (Bool.and_eq_true_iff.mp longitudinal).1

theorem update_consistent (inv : ArmInvariant config self) (deadlined : self.Deadlined) :
    Consistent config (self.update config now vehicle panda command).1
      (self.update config now vehicle panda command).2 := by
  have exit := update_exit config self now vehicle panda command
  generalize self.update config now vehicle panda command = result at exit ⊢
  cases exit with
  | lostPanda _ =>
      have off := (self.setWaiting false).withdrawArm_disengaged.transition .disconnected
        "Panda disconnected or health timeout"
      exact off.consistent (transition_deadlined (by decide) _) rfl (by simp)
  | passiveYaml _ _ =>
      have off := (self.setWaiting false).withdrawArm_disengaged.transition .passive
        "actuation disabled by YAML"
      exact off.consistent (transition_deadlined (by decide) _) rfl (by simp)
  | gated _ _ observed observes exit =>
      subst observes
      have restarted : (self.setWaiting false).Deadlined := deadlined
      exact gateExit_consistent (observe_unarmed config vehicle panda inv.restart)
        (observe_faulted config vehicle panda inv.restart) (observe_deadlined restarted)
        observe_waiting exit

theorem call_deadlined (inv : ArmInvariant config self) (deadlined : self.Deadlined)
    (call : SupervisorCall) : ((supervisorMachine config).call self call).1.Deadlined := by
  cases call with
  | requestArm arm => exact (requestArm_pauseStep arm).deadlined deadlined
  | update now vehicle panda command => exact (update_consistent inv deadlined).deadline

end Update

/-! ## Runs -/

section Runs
variable {config : SafetyConfig}

theorem run_deadlined (calls : List SupervisorCall) :
    ((supervisorMachine config).run {} calls).Deadlined := by
  have both := (supervisorMachine config).run_keeps
    (fun supervisor => ArmInvariant config supervisor ∧ supervisor.Deadlined) ?_ calls {}
    ⟨initial_invariant config, fun stands => absurd rfl stands⟩
  · exact both.2
  · rintro state call ⟨inv, deadlined⟩
    refine ⟨?_, call_deadlined inv deadlined call⟩
    cases call with
    | requestArm arm => exact requestArm_invariant config inv arm
    | update now vehicle panda command =>
        exact update_invariant config now vehicle panda command inv

/-- A call after which the supervisor does not pause. -/
def PauseOver (config : SafetyConfig) (self : SafetySupervisor) (call : SupervisorCall) : Prop :=
  ((supervisorMachine config).call self call).1.state ≠ .softDisabling

/-- An update of the run, called in Active at the clock reading `entered`, began the pause that
no later call has ended. -/
def BeganPause (config : SafetyConfig) (calls : List SupervisorCall) (entered : TimePoint) : Prop :=
  ∃ earlier later vehicle panda command,
    calls = earlier ++ .update entered vehicle panda command :: later ∧
      ((supervisorMachine config).run {} earlier).state = .active ∧
      (supervisorMachine config).Quiet (PauseOver config)
        ((supervisorMachine config).run {} earlier) (.update entered vehicle panda command :: later)

theorem BeganPause.append {calls : List SupervisorCall} {call : SupervisorCall}
    {entered : TimePoint} (began : BeganPause config calls entered)
    (soft : ((supervisorMachine config).run {} (calls ++ [call])).state = .softDisabling) :
    BeganPause config (calls ++ [call]) entered := by
  obtain ⟨earlier, later, vehicle, panda, command, rfl, active, quiet⟩ := began
  refine ⟨earlier, later ++ [call], vehicle, panda, command, by simp, active, ?_⟩
  rw [CallMachine.run_append, CallMachine.run_append] at soft
  rw [← List.cons_append, CallMachine.quiet_append]
  exact ⟨quiet, fun ends => ends soft, trivial⟩

/-- In every pause the deadline is three seconds after the update that began it. -/
theorem run_paused (config : SafetyConfig) (calls : List SupervisorCall)
    (soft : ((supervisorMachine config).run {} calls).state = .softDisabling) :
    ∃ entered, BeganPause config calls entered ∧
      ((supervisorMachine config).run {} calls).softDisableDeadline = entered + softDisableTime := by
  induction calls using List.reverseRecOn with
  | nil => cases soft
  | append_singleton calls call ih =>
      have after := soft
      rw [CallMachine.run_append] at soft ⊢
      cases call with
      | requestArm arm =>
          have step := @requestArm_pauseStep config ((supervisorMachine config).run {} calls) arm
          cases step with
          | kept state deadline =>
              obtain ⟨entered, began, same⟩ := ih (state.symm.trans soft)
              exact ⟨entered, began.append after, deadline.trans same⟩
          | cleared notSoft _ => exact absurd soft notSoft
      | update now vehicle panda command =>
          obtain ⟨_, window, _, _⟩ := update_paused soft
          rcases window with ⟨wasSoft, kept⟩ | ⟨active, _, fresh⟩
          · obtain ⟨entered, began, same⟩ := ih wasSoft
            exact ⟨entered, began.append after, kept.trans same⟩
          · exact ⟨now, ⟨calls, [], vehicle, panda, command, rfl, active, fun ends => ends soft,
              trivial⟩, fresh⟩

/-- After each update of a run the flags are consistent, and the deadline of a pause is three
seconds after the update that began it, so zero in no pause but one begun at the clock reading
-3 s. -/
theorem run_consistent (config : AcceptedConfig) (calls : List SupervisorCall) (now : TimePoint)
    (vehicle : VehicleStateData) (panda : PandaHealth) (command : CommandSample) :
    let machine := supervisorMachine config.toSafetyConfig
    let result := (machine.run {} calls).update config.toSafetyConfig now vehicle panda command
    Consistent config.toSafetyConfig result.1 result.2 ∧
      (result.1.state = .softDisabling → ∃ entered,
        BeganPause config.toSafetyConfig (calls ++ [.update now vehicle panda command]) entered ∧
          result.1.softDisableDeadline = entered + softDisableTime ∧
          (result.1.softDisableDeadline ≠ 0 ↔ entered ≠ -softDisableTime)) := by
  intro machine result
  refine ⟨update_consistent (run_invariant config.toSafetyConfig calls) (run_deadlined calls), ?_⟩
  intro soft
  have last : machine.run {} (calls ++ [.update now vehicle panda command]) = result.1 := by
    rw [CallMachine.run_append]
    rfl
  obtain ⟨entered, began, deadline⟩ := run_paused config.toSafetyConfig
    (calls ++ [.update now vehicle panda command])
    ((congrArg SafetySupervisor.state last).trans soft)
  have value : result.1.softDisableDeadline = entered + softDisableTime :=
    (congrArg SafetySupervisor.softDisableDeadline last).symm.trans deadline
  refine ⟨entered, began, value, ?_⟩
  rw [value]
  exact not_congr add_eq_zero_iff_eq_neg

end Runs

/-! ## The clock reading that hides a deadline -/

/-- Three seconds before the value a default-constructed `TimePoint` has. -/
def beforeEpoch : TimePoint := -softDisableTime

def epochCall (vehicle : VehicleStateData) : SupervisorCall :=
  .update beforeEpoch vehicle { fixturePanda with updatedAt := beforeEpoch }
    { fixtureCommand with receivedAt := beforeEpoch }

/-- An EPS pause begun at -3 s has a deadline of zero. -/
theorem hidden_deadline :
    let paused := (supervisorMachine actuationConfig.toSafetyConfig).run {}
      [.requestArm true, epochCall fixtureVehicle,
        epochCall { fixtureVehicle with laneKeepButtonEvents := 1 },
        epochCall { fixtureVehicle with laneKeepButtonEvents := 1, epsFault := true }]
    ¬ (paused.softDisableDeadline ≠ 0 ↔ paused.state = .softDisabling) := by
  decide +kernel

end SafetySupervisor
end Ioniq5Ecan
