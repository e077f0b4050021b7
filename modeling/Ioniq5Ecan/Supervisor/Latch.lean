import Ioniq5Ecan.Supervisor.Exits

/-! # What stays off

A disarmed supervisor grants nothing until `request_arm(true)`, whatever
happened on the way (`Disengaged`), and a latched longitudinal channel stays
off until a SET press that may clear it or a new arm (`LongitudinalOff`).  Both
are latches in the sense of `CallMachine.held_of_quiet`. -/
set_option autoImplicit false
namespace Ioniq5Ecan
namespace SafetySupervisor

open Library (CallMachine)

/-! ## Disengagement -/

/-- Not armed, and no channel selected. -/
structure Disengaged (supervisor : SafetySupervisor) : Prop where
  unarmed : supervisor.armRequested = false
  noLateral : supervisor.lateralEnabled = false
  noLongitudinal : supervisor.longitudinalEnabled = false

structure NoOutput (decision : SafetyDecision) : Prop where
  lateralAllowed : decision.lateralAllowed = false
  longitudinalAllowed : decision.longitudinalAllowed = false
  lateralArmed : decision.lateralArmed = false
  longitudinalArmed : decision.longitudinalArmed = false
  useVehicleSafetyMode : decision.useVehicleSafetyMode = false
  heartbeatEngaged : decision.heartbeatEngaged = false

theorem withdrawArm_disengaged (self : SafetySupervisor) : self.withdrawArm.Disengaged :=
  ⟨rfl, rfl, rfl⟩

theorem Disengaged.transition {self : SafetySupervisor} (off : self.Disengaged)
    (next : ControlState) (reason : String) : (self.transition next reason).Disengaged :=
  ⟨off.unarmed, off.noLateral, off.noLongitudinal⟩

theorem fault_disengaged (self : SafetySupervisor) (reason : String) :
    (self.fault reason).Disengaged :=
  self.withdrawArm_disengaged.transition .fault reason

theorem disarm_disengaged (self : SafetySupervisor) (reason : String) :
    (self.disarm reason).Disengaged :=
  self.withdrawArm_disengaged.transition .passive reason

theorem Disengaged.noOutput {self : SafetySupervisor} (off : self.Disengaged)
    (config : SafetyConfig) (now : TimePoint) :
    NoOutput (self.answer config now false false false false).2 :=
  ⟨rfl, rfl, off.noLateral, by simp [answer, decision, off.noLongitudinal], rfl, rfl⟩

section Observation
variable (config : SafetyConfig) (vehicle : VehicleStateData) (panda : PandaHealth)

theorem selectChannels_unarmed {self : SafetySupervisor} (unarmed : self.armRequested = false)
    (laneKeepEvent setEvent : Bool) :
    self.selectChannels config vehicle panda laneKeepEvent setEvent = (self, false) := by
  simp [selectChannels, unarmed]

theorem selectChannels_session {self : SafetySupervisor} (armed : self.armRequested = true)
    (session : config.resumeOnCommandReturn = true) (laneKeepEvent setEvent : Bool) :
    self.selectChannels config vehicle panda laneKeepEvent setEvent =
      self.selectFromFirmware vehicle panda setEvent := by
  simp [selectChannels, armed, session]

theorem selectChannels_legacy {self : SafetySupervisor} (armed : self.armRequested = true)
    (legacy : config.resumeOnCommandReturn = false) (laneKeepEvent setEvent : Bool) :
    self.selectChannels config vehicle panda laneKeepEvent setEvent =
      if setEvent = true then
        (if laneKeepEvent = true then (self.toggleLateralOnly config).1 else self).toggleCombined
          config
      else if laneKeepEvent = true then self.toggleLateralOnly config else (self, false) := by
  cases laneKeepEvent <;> cases setEvent <;>
    simp [selectChannels, toggleLateralOnly, armed, legacy]

theorem disengageOnBrake_disengaged {self : SafetySupervisor} (off : self.Disengaged) :
    (self.disengageOnBrake config vehicle).1.Disengaged := by
  unfold disengageOnBrake
  split
  · exact ⟨off.unarmed, by simp [off.noLateral], by simp [off.noLongitudinal]⟩
  · exact off

theorem disengageOnAccFault_disengaged {self : SafetySupervisor} (off : self.Disengaged) :
    (self.disengageOnAccFault config vehicle).1.Disengaged := by
  unfold disengageOnAccFault
  split
  · exact ⟨off.unarmed, off.noLateral, rfl⟩
  · exact off

theorem observePanda_disengaged {self : SafetySupervisor} (off : self.Disengaged)
    (turnedOff byBrake : Bool) : (self.observePanda panda turnedOff byBrake).1.Disengaged := by
  rcases observePanda_cases panda self turnedOff byBrake with
    ⟨reason, _, faulted⟩ | ⟨_, dropped⟩ | passed
  · rw [faulted]
    exact self.fault_disengaged reason
  · rw [dropped]
    exact ⟨off.unarmed, off.noLateral, rfl⟩
  · rw [passed]
    exact off

theorem observe_disengaged {self : SafetySupervisor} (off : self.Disengaged) :
    (self.observe config vehicle panda).supervisor.Disengaged := by
  have recorded : (self.recordButtons vehicle).Disengaged :=
    ⟨off.unarmed, off.noLateral, off.noLongitudinal⟩
  have selected := selectChannels_unarmed config vehicle panda recorded.unarmed
    (self.laneKeepButtonEvent vehicle) (self.setButtonEvent vehicle)
  have cancelled : Disengaged { (self.recordButtons vehicle) with
      lastCancelButtonEvents := vehicle.cancelButtonEvents } :=
    ⟨recorded.unarmed, recorded.noLateral, recorded.noLongitudinal⟩
  have braked := disengageOnBrake_disengaged config vehicle cancelled
  have accChecked := disengageOnAccFault_disengaged config vehicle braked
  unfold observe
  dsimp only
  rw [selected]
  have last := observePanda_disengaged panda accChecked false
    ({ (self.recordButtons vehicle) with
        lastCancelButtonEvents := vehicle.cancelButtonEvents }.disengageOnBrake config vehicle).2
  exact ⟨last.unarmed, last.noLateral, last.noLongitudinal⟩

theorem selectChannels_waiting (self : SafetySupervisor) (laneKeepEvent setEvent : Bool) :
    (self.selectChannels config vehicle panda laneKeepEvent setEvent).1.waitingForCommand =
      self.waitingForCommand := by
  unfold selectChannels selectFromFirmware toggleLateralOnly toggleCombined
  dsimp only
  split_ifs <;> rfl

theorem observePanda_waiting (self : SafetySupervisor) (turnedOff byBrake : Bool) :
    (self.observePanda panda turnedOff byBrake).1.waitingForCommand = self.waitingForCommand := by
  rcases observePanda_cases panda self turnedOff byBrake with
    ⟨reason, _, faulted⟩ | ⟨_, dropped⟩ | passed
  · rw [faulted]
    rfl
  · rw [dropped]
  · rw [passed]

theorem observe_waiting {config : SafetyConfig} {vehicle : VehicleStateData} {panda : PandaHealth}
    {self : SafetySupervisor} :
    (self.observe config vehicle panda).supervisor.waitingForCommand = self.waitingForCommand := by
  unfold observe
  dsimp only
  rw [observePanda_waiting]
  unfold disengageOnAccFault disengageOnBrake
  dsimp only
  split_ifs <;> exact selectChannels_waiting ..

end Observation

section Update
variable {config : SafetyConfig} {now : TimePoint} {vehicle : VehicleStateData}
  {panda : PandaHealth} {command : CommandSample} {self after : SafetySupervisor}
  {observed : Observed} {decision : SafetyDecision}

theorem gateExit_disengaged (off : self.Disengaged)
    (exit : GateExit config now vehicle panda command self observed (after, decision)) :
    after.Disengaged ∧ NoOutput decision := by
  cases exit with
  | unarmed _ _ =>
      have kept := off.transition .passive "waiting for arm request"
      exact ⟨kept, kept.noOutput config now⟩
  | latched _ => exact ⟨off, off.noOutput config now⟩
  | faulted reason _ =>
      have kept := self.fault_disengaged reason
      exact ⟨kept, kept.noOutput config now⟩
  | disarmed _ reason _ =>
      have kept := self.disarm_disengaged reason
      exact ⟨kept, kept.noOutput config now⟩
  | waiting armed _ _ _ => rw [off.unarmed] at armed; cases armed
  | armed armed _ _ _ _ => rw [off.unarmed] at armed; cases armed
  | paused gates => have armed := gates.armed; rw [off.unarmed] at armed; cases armed
  | active gates => have armed := gates.armed; rw [off.unarmed] at armed; cases armed

theorem update_disengaged (off : self.Disengaged) :
    (self.update config now vehicle panda command).1.Disengaged ∧
      NoOutput (self.update config now vehicle panda command).2 := by
  have exit := update_exit config self now vehicle panda command
  generalize self.update config now vehicle panda command = result at exit ⊢
  obtain ⟨after, decision⟩ := result
  have restarted : (self.setWaiting false).Disengaged :=
    ⟨off.unarmed, off.noLateral, off.noLongitudinal⟩
  cases exit with
  | lostPanda _ =>
      have kept := (self.setWaiting false).withdrawArm_disengaged.transition
        .disconnected "Panda disconnected or health timeout"
      exact ⟨kept, kept.noOutput config now⟩
  | passiveYaml _ _ =>
      have kept := (self.setWaiting false).withdrawArm_disengaged.transition
        .passive "actuation disabled by YAML"
      exact ⟨kept, kept.noOutput config now⟩
  | gated _ _ observed observes exit =>
      have observedOff := observe_disengaged config vehicle panda restarted
      rw [← observes] at observedOff
      exact gateExit_disengaged observedOff exit

end Update

/-- What the stages of `observe` before `observePanda` leave alone. -/
structure Frame (before after : SafetySupervisor) : Prop where
  armRequested : after.armRequested = before.armRequested
  state : after.state = before.state
  reason : after.reason = before.reason

theorem Frame.trans {first second third : SafetySupervisor} (left : Frame first second)
    (right : Frame second third) : Frame first third :=
  ⟨right.armRequested.trans left.armRequested, right.state.trans left.state,
    right.reason.trans left.reason⟩

/-- What every call keeps of the arm flag, the channel flags and the Fault state. -/
structure ArmInvariant (config : SafetyConfig) (supervisor : SafetySupervisor) : Prop where
  unarmed : supervisor.armRequested = false → supervisor.Disengaged
  faulted : supervisor.state = .fault →
    supervisor.armRequested = false ∧ config.allowActuation = true
  passive : config.allowActuation = false → supervisor.armRequested = false

section Invariant
variable (config : SafetyConfig) (now : TimePoint) (vehicle : VehicleStateData)
  (panda : PandaHealth) (command : CommandSample)

theorem Disengaged.invariant {self : SafetySupervisor} (off : self.Disengaged)
    (notFault : self.state ≠ .fault) : ArmInvariant config self :=
  ⟨fun _ => off, fun faulted => absurd faulted notFault, fun _ => off.unarmed⟩

theorem initial_invariant : ArmInvariant config {} :=
  Disengaged.invariant config ⟨rfl, rfl, rfl⟩ (by decide)

theorem requestArm_invariant {self : SafetySupervisor} (inv : ArmInvariant config self)
    (arm : Bool) : ArmInvariant config (self.requestArm config arm).1 := by
  cases arm with
  | false =>
      have off : Disengaged { self with armRequested := false, lateralEnabled := false,
                                        longitudinalEnabled := false } := ⟨rfl, rfl, rfl⟩
      simp only [requestArm, Bool.false_and, Bool.false_eq_true, if_false, Bool.not_false, if_true]
      split
      · exact (off.transition .passive _).invariant config (by simp)
      · rename_i disconnected
        exact off.invariant config (by simp_all)
  | true =>
      by_cases allowed : config.allowActuation = true
      · -- A granted arm leaves Fault and is armed.
        simp only [requestArm, allowed, Bool.not_true, Bool.and_false, Bool.false_eq_true,
          if_false, Bool.true_and]
        refine ⟨fun unarmed => by simp at unarmed, fun faulted => ?_, fun passive => by simp_all⟩
        exfalso
        revert faulted
        split <;> split <;> simp_all
      · have passive : config.allowActuation = false := by simpa using allowed
        have off := inv.unarmed (inv.passive passive)
        simp only [requestArm, passive, Bool.not_false, Bool.and_true, if_true]
        exact (off.transition .passive _).invariant config (by simp)

theorem selectChannels_frame (self : SafetySupervisor) (laneKeepEvent setEvent : Bool) :
    Frame self (self.selectChannels config vehicle panda laneKeepEvent setEvent).1 := by
  unfold selectChannels selectFromFirmware toggleLateralOnly toggleCombined
  dsimp only
  constructor <;> split_ifs <;> rfl

theorem disengageOnBrake_frame (self : SafetySupervisor) :
    Frame self (self.disengageOnBrake config vehicle).1 := by
  unfold disengageOnBrake
  split <;> exact ⟨rfl, rfl, rfl⟩

theorem disengageOnAccFault_frame (self : SafetySupervisor) :
    Frame self (self.disengageOnAccFault config vehicle).1 := by
  unfold disengageOnAccFault
  split <;> exact ⟨rfl, rfl, rfl⟩

/-- A fault of the observation stages. -/
structure ObservedFault (supervisor : SafetySupervisor) : Prop where
  disengaged : supervisor.Disengaged
  state : supervisor.state = .fault
  reason : supervisor.reason ∈ observationFaults

theorem observePanda_arm (self : SafetySupervisor) (turnedOff byBrake : Bool) :
    Frame self (self.observePanda panda turnedOff byBrake).1 ∨
      ObservedFault (self.observePanda panda turnedOff byBrake).1 := by
  rcases observePanda_cases panda self turnedOff byBrake with
    ⟨reason, listed, faulted⟩ | ⟨_, dropped⟩ | passed
  · rw [faulted]
    exact Or.inr ⟨self.fault_disengaged reason, rfl, listed⟩
  · rw [dropped]
    exact Or.inl ⟨rfl, rfl, rfl⟩
  · rw [passed]
    exact Or.inl ⟨rfl, rfl, rfl⟩

theorem observe_arm (self : SafetySupervisor) :
    Frame self (self.observe config vehicle panda).supervisor ∨
      ObservedFault (self.observe config vehicle panda).supervisor := by
  unfold observe
  dsimp only
  set selected := (self.recordButtons vehicle).selectChannels config vehicle panda
    (self.laneKeepButtonEvent vehicle) (self.setButtonEvent vehicle) with selectedEq
  set recorded : SafetySupervisor :=
    { selected.1 with lastCancelButtonEvents := vehicle.cancelButtonEvents }
  have select := selectChannels_frame config vehicle panda (self.recordButtons vehicle)
    (self.laneKeepButtonEvent vehicle) (self.setButtonEvent vehicle)
  rw [← selectedEq] at select
  have record : Frame self recorded := ⟨select.armRequested, select.state, select.reason⟩
  have acc := (record.trans (disengageOnBrake_frame config vehicle recorded)).trans
    (disengageOnAccFault_frame config vehicle (recorded.disengageOnBrake config vehicle).1)
  rcases observePanda_arm panda ((recorded.disengageOnBrake config vehicle).1.disengageOnAccFault
    config vehicle).1 selected.2 (recorded.disengageOnBrake config vehicle).2 with kept | faulted
  · have all := acc.trans kept
    exact Or.inl ⟨all.armRequested, all.state, all.reason⟩
  · have off := faulted.disengaged
    exact Or.inr ⟨⟨off.unarmed, off.noLateral, off.noLongitudinal⟩, faulted.state, faulted.reason⟩

theorem observe_unarmed {self : SafetySupervisor} (inv : ArmInvariant config self)
    (unarmed : (self.observe config vehicle panda).supervisor.armRequested = false) :
    (self.observe config vehicle panda).supervisor.Disengaged := by
  rcases observe_arm config vehicle panda self with kept | faulted
  · exact observe_disengaged config vehicle panda
      (inv.unarmed (kept.armRequested.symm.trans unarmed))
  · exact faulted.disengaged

theorem observe_faulted {self : SafetySupervisor} (inv : ArmInvariant config self)
    (faulted : (self.observe config vehicle panda).supervisor.state = .fault) :
    (self.observe config vehicle panda).supervisor.Disengaged := by
  rcases observe_arm config vehicle panda self with kept | observedFault
  · have unarmed := (inv.faulted (kept.state.symm.trans faulted)).1
    exact observe_disengaged config vehicle panda (inv.unarmed unarmed)
  · exact observedFault.disengaged

theorem ArmInvariant.restart {self : SafetySupervisor} (inv : ArmInvariant config self) :
    ArmInvariant config (self.setWaiting false) :=
  ⟨fun unarmed => ⟨unarmed, (inv.unarmed unarmed).noLateral, (inv.unarmed unarmed).noLongitudinal⟩,
    inv.faulted, inv.passive⟩

theorem update_invariant {self : SafetySupervisor} (inv : ArmInvariant config self) :
    ArmInvariant config (self.update config now vehicle panda command).1 := by
  have restarted := inv.restart
  have exit := update_exit config self now vehicle panda command
  generalize self.update config now vehicle panda command = result at exit ⊢
  cases exit with
  | lostPanda _ =>
      exact ((self.setWaiting false).withdrawArm_disengaged.transition
        .disconnected _).invariant config (by simp)
  | passiveYaml _ _ =>
      exact ((self.setWaiting false).withdrawArm_disengaged.transition
        .passive _).invariant config (by simp)
  | gated fresh allowed observed observes exit =>
      subst observes
      have armedInvariant : ∀ next : SafetySupervisor, next.armRequested = true →
          next.state ≠ .fault → ArmInvariant config next := by
        intro next armed notFault
        exact ⟨fun unarmed => by simp [armed] at unarmed, fun faulted => absurd faulted notFault,
          fun passive => by simp [allowed] at passive⟩
      cases exit with
      | unarmed unarmed notFault =>
          exact ((observe_unarmed config vehicle panda restarted unarmed).transition
            .passive _).invariant config (by simp)
      | latched faulted =>
          have off := observe_faulted config vehicle panda restarted faulted
          exact ⟨fun _ => off, fun _ => ⟨off.unarmed, allowed⟩, fun _ => off.unarmed⟩
      | faulted reason _ =>
          have off := fault_disengaged ((self.setWaiting false).observe config vehicle panda).supervisor reason
          exact ⟨fun _ => off, fun _ => ⟨off.unarmed, allowed⟩, fun _ => off.unarmed⟩
      | disarmed _ reason _ => exact (disarm_disengaged _ reason).invariant config (by simp [disarm])
      | waiting armed _ _ _ => exact armedInvariant _ armed (by simp)
      | armed armed _ _ _ _ => exact armedInvariant _ armed (by simp)
      | paused gates => exact armedInvariant _ gates.armed (by simp)
      | active gates => exact armedInvariant _ gates.armed (by simp)

theorem run_invariant (calls : List SupervisorCall) :
    ArmInvariant config ((supervisorMachine config).run {} calls) := by
  refine (supervisorMachine config).run_keeps (ArmInvariant config) ?_ calls {}
    (initial_invariant config)
  intro state call inv
  cases call with
  | requestArm arm => exact requestArm_invariant config inv arm
  | update now vehicle panda command => exact update_invariant config now vehicle panda command inv

end Invariant

section Disengagement
variable {config : SafetyConfig} {now : TimePoint} {vehicle : VehicleStateData}
  {panda : PandaHealth} {command : CommandSample} {self : SafetySupervisor}

theorem update_disconnected
    (lost : (self.update config now vehicle panda command).1.state = .disconnected) :
    (self.update config now vehicle panda command).1.Disengaged ∧
      pandaFresh config now panda = false := by
  have exit := update_exit config self now vehicle panda command
  generalize self.update config now vehicle panda command = result at exit lost ⊢
  cases exit with
  | lostPanda stale =>
      exact ⟨(self.setWaiting false).withdrawArm_disengaged.transition _ _, stale⟩
  | passiveYaml _ _ => cases lost
  | gated _ _ observed _ exit =>
      cases exit with
      | latched faulted => rw [show observed.supervisor.state = .disconnected from lost] at faulted; cases faulted
      | unarmed | faulted | disarmed | waiting | armed | paused | active => cases lost

/-- A latched Fault is left by `update` through a lost Panda only. -/
theorem update_fault (inv : ArmInvariant config self) (faulted : self.state = .fault) :
    (self.update config now vehicle panda command).1.state = .fault ∨
      (self.update config now vehicle panda command).1.state = .disconnected ∧
        pandaFresh config now panda = false := by
  have allowed := (inv.faulted faulted).2
  have exit := update_exit config self now vehicle panda command
  generalize self.update config now vehicle panda command = result at exit ⊢
  cases exit with
  | lostPanda stale => exact Or.inr ⟨rfl, stale⟩
  | passiveYaml _ passive => rw [allowed] at passive; cases passive
  | gated _ _ observed observes exit =>
      subst observes
      have unarmed := (inv.faulted faulted).1
      have stays : ((self.setWaiting false).observe config vehicle panda).supervisor.state = .fault := by
        rcases observe_arm config vehicle panda (self.setWaiting false) with
          kept | disengaged
        · exact kept.state.trans faulted
        · exact disengaged.state
      have off := observe_faulted config vehicle panda inv.restart stays
      cases exit with
      | unarmed _ notFault => exact absurd stays notFault
      | latched faulted => exact Or.inl stays
      | faulted reason _ => exact Or.inl rfl
      | disarmed armed _ _ => rw [off.unarmed] at armed; cases armed
      | waiting armed _ _ _ => rw [off.unarmed] at armed; cases armed
      | armed armed _ _ _ _ => rw [off.unarmed] at armed; cases armed
      | paused gates => have armed := gates.armed; rw [off.unarmed] at armed; cases armed
      | active gates => have armed := gates.armed; rw [off.unarmed] at armed; cases armed

end Disengagement

theorem requestArm_off_disengaged (config : SafetyConfig) (self : SafetySupervisor) :
    (self.requestArm config false).1.Disengaged := by
  simp only [requestArm, Bool.false_and, Bool.false_eq_true, if_false, Bool.not_false, if_true]
  split
  · exact ⟨rfl, rfl, rfl⟩
  · exact ⟨rfl, rfl, rfl⟩

/-- A call that is not `request_arm(true)` keeps a disengaged supervisor disengaged. -/
theorem call_disengaged (config : SafetyConfig) (self : SafetySupervisor) (call : SupervisorCall)
    (off : self.Disengaged) (notArm : call ≠ .requestArm true) :
    ((supervisorMachine config).call self call).1.Disengaged := by
  cases call with
  | requestArm arm =>
      have isOff : arm = false := by
        cases arm with
        | false => rfl
        | true => exact absurd rfl notArm
      subst isOff
      exact requestArm_off_disengaged config self
  | update now vehicle panda command => exact (update_disengaged off).1

/-- Disengagement is latched until `request_arm(true)`, and Fault until a lost Panda or an
arm request. -/
theorem disengagement_latched (config : AcceptedConfig) (calls later : List SupervisorCall)
    (now : TimePoint) (vehicle : VehicleStateData) (panda : PandaHealth)
    (command : CommandSample) :
    let machine := supervisorMachine config.toSafetyConfig
    let before := machine.run {} calls
    let after := (before.update config.toSafetyConfig now vehicle panda command).1
    ((after.state = .fault ∨ after.state = .disconnected ∨
        before.armRequested = true ∧ after.armRequested = false) →
      SupervisorCall.requestArm true ∉ later →
      ∀ (now' : TimePoint) (vehicle' : VehicleStateData) (panda' : PandaHealth)
        (command' : CommandSample),
        NoOutput ((machine.run after later).update config.toSafetyConfig now' vehicle' panda'
          command').2) ∧
    (before.state = .fault → after.state = .fault ∨
      after.state = .disconnected ∧ pandaFresh config.toSafetyConfig now panda = false) := by
  intro machine before after
  have inv : ArmInvariant config.toSafetyConfig before := run_invariant config.toSafetyConfig calls
  have invAfter : ArmInvariant config.toSafetyConfig after :=
    update_invariant config.toSafetyConfig now vehicle panda command inv
  refine ⟨?_, fun faulted => update_fault inv faulted⟩
  intro ended noArm now' vehicle' panda' command'
  have off : after.Disengaged := by
    rcases ended with faulted | lost | ⟨_, unarmed⟩
    · exact invAfter.unarmed (invAfter.faulted faulted).1
    · exact (update_disconnected lost).1
    · exact invAfter.unarmed unarmed
  have laterOff : (machine.run after later).Disengaged := by
    refine machine.held_of_quiet Disengaged (fun _ call => call = .requestArm true)
      (call_disengaged config.toSafetyConfig) later after off ?_
    refine machine.quiet_of_forall _ later ?_ after
    intro call member _ isArm
    exact noArm (isArm ▸ member)
  exact (update_disengaged laterOff).2

def lateralCalls : List SupervisorCall :=
  [.requestArm true, fixtureUpdate fixtureVehicle,
    fixtureUpdate { fixtureVehicle with laneKeepButtonEvents := 1 }]

/-- A safety-mode drift while Active faults, and a later LDA press grants nothing. -/
theorem mode_drift_latched :
    let machine := supervisorMachine actuationConfig.toSafetyConfig
    let drifted := ((machine.run {} lateralCalls).update actuationConfig.toSafetyConfig fixtureNow
      { fixtureVehicle with laneKeepButtonEvents := 1 }
      { fixturePanda with safetyMode := 19 } fixtureCommand).1
    drifted.state = .fault ∧
      NoOutput ((machine.run drifted []).update actuationConfig.toSafetyConfig fixtureNow
        { fixtureVehicle with laneKeepButtonEvents := 2 } fixturePanda fixtureCommand).2 := by
  have latched := (disengagement_latched actuationConfig lateralCalls [] fixtureNow
    { fixtureVehicle with laneKeepButtonEvents := 1 } { fixturePanda with safetyMode := 19 }
    fixtureCommand).1
  refine ⟨by decide +kernel, ?_⟩
  exact latched (Or.inl (by decide +kernel)) List.not_mem_nil fixtureNow
    { fixtureVehicle with laneKeepButtonEvents := 2 } fixturePanda fixtureCommand

end SafetySupervisor
end Ioniq5Ecan
