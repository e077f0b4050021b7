import Ioniq5Ecan.Supervisor.Passing

/-! # What the observation stages keep

Before the gates an update consumes the press counters, lets buttons or firmware
flags select the channels, and from there on only clears them (`Narrowed`); the
deadline of a pause is kept unless a fault is found (`observe_paused`).  Every
law about selections over a run is derived from these facts. -/
set_option autoImplicit false
namespace Ioniq5Ecan

structure PressCounters where
  laneKeep : UInt64 := 0
  set : UInt64 := 0
  deriving DecidableEq

def VehicleStateData.presses (vehicle : VehicleStateData) : PressCounters :=
  ⟨vehicle.laneKeepButtonEvents, vehicle.setButtonEvents⟩

namespace SafetySupervisor

def consumed (self : SafetySupervisor) : PressCounters :=
  ⟨self.lastLaneKeepButtonEvents, self.lastSetButtonEvents⟩

/-! ## Channel flags after the selection -/

/-- Only the selection sets a channel flag, and only `recordButtons` consumes a press. -/
structure Narrowed (before after : SafetySupervisor) : Prop where
  armed : after.armRequested = true → before.armRequested = true
  lateral : after.lateralEnabled = true → before.lateralEnabled = true
  longitudinal : after.longitudinalEnabled = true → before.longitudinalEnabled = true
  latched : before.longitudinalLatchedOff = true → after.longitudinalLatchedOff = true
  consumed : after.consumed = before.consumed

theorem Narrowed.refl (self : SafetySupervisor) : Narrowed self self :=
  ⟨id, id, id, id, rfl⟩

theorem Narrowed.trans {first second third : SafetySupervisor} (left : Narrowed first second)
    (right : Narrowed second third) : Narrowed first third :=
  ⟨fun on => left.armed (right.armed on), fun on => left.lateral (right.lateral on),
    fun on => left.longitudinal (right.longitudinal on),
    fun on => right.latched (left.latched on), right.consumed.trans left.consumed⟩

section Narrowing
variable (config : SafetyConfig) (vehicle : VehicleStateData) (panda : PandaHealth)
  (self : SafetySupervisor)

theorem fault_narrowed (reason : String) : Narrowed self (self.fault reason) :=
  ⟨fun on => absurd on Bool.false_ne_true, fun on => absurd on Bool.false_ne_true,
    fun on => absurd on Bool.false_ne_true, id, rfl⟩

theorem disarm_narrowed (reason : String) : Narrowed self (self.disarm reason) :=
  ⟨fun on => absurd on Bool.false_ne_true, fun on => absurd on Bool.false_ne_true,
    fun on => absurd on Bool.false_ne_true, id, rfl⟩

theorem transition_narrowed (next : ControlState) (reason : String) :
    Narrowed self (self.transition next reason) :=
  ⟨id, id, id, id, rfl⟩

theorem disengageOnBrake_narrowed : Narrowed self (self.disengageOnBrake config vehicle).1 := by
  unfold disengageOnBrake
  split
  · refine ⟨id, fun on => ?_, fun on => ?_, fun on => ?_, rfl⟩
    · exact (Bool.and_eq_true_iff.mp on).1
    · exact (Bool.and_eq_true_iff.mp on).1
    · exact Bool.or_eq_true_iff.mpr (Or.inl on)
  · exact .refl self

theorem disengageOnAccFault_narrowed :
    Narrowed self (self.disengageOnAccFault config vehicle).1 := by
  unfold disengageOnAccFault
  split
  · exact ⟨id, id, fun on => absurd on Bool.false_ne_true, fun _ => rfl, rfl⟩
  · exact .refl self

theorem observePanda_narrowed (turnedOff byBrake : Bool) :
    Narrowed self (self.observePanda panda turnedOff byBrake).1 := by
  rcases observePanda_cases panda self turnedOff byBrake with
    ⟨reason, _, faulted⟩ | ⟨_, dropped⟩ | passed
  · rw [faulted]
    exact self.fault_narrowed reason
  · rw [dropped]
    exact ⟨id, id, fun on => absurd on Bool.false_ne_true, fun _ => rfl, rfl⟩
  · rw [passed]
    exact .refl self

/-- What the stages after the selection do to the flags the selection chose. -/
theorem observe_narrowed :
    Narrowed (self.selectedChannels config vehicle panda).1
      (self.observe config vehicle panda).supervisor := by
  have select : Narrowed (self.selectedChannels config vehicle panda).1
      ((self.selectedChannels config vehicle panda).1.afterSelection vehicle) :=
    ⟨id, id, id, id, rfl⟩
  have brake := disengageOnBrake_narrowed config vehicle
    ((self.selectedChannels config vehicle panda).1.afterSelection vehicle)
  have acc := disengageOnAccFault_narrowed config vehicle
    (((self.selectedChannels config vehicle panda).1.afterSelection vehicle).disengageOnBrake
      config vehicle).1
  have health := observePanda_narrowed panda
    ((((self.selectedChannels config vehicle panda).1.afterSelection vehicle).disengageOnBrake
      config vehicle).1.disengageOnAccFault config vehicle).1
    (self.selectedChannels config vehicle panda).2
    (((self.selectedChannels config vehicle panda).1.afterSelection vehicle).disengageOnBrake
      config vehicle).2
  have all := ((select.trans brake).trans acc).trans health
  rw [(observe_supervisor config self vehicle panda).1]
  exact ⟨all.armed, all.lateral, all.longitudinal, all.latched, all.consumed⟩

end Narrowing

section Update
variable {config : SafetyConfig} {now : TimePoint} {vehicle : VehicleStateData}
  {panda : PandaHealth} {command : CommandSample} {self : SafetySupervisor}

theorem gateExit_narrowed {observed : Observed} {result : SafetySupervisor × SafetyDecision}
    (exit : GateExit config now vehicle panda command self observed result) :
    Narrowed self result.1 := by
  cases exit with
  | unarmed _ _ => exact self.transition_narrowed _ _
  | latched _ => exact .refl self
  | faulted reason _ => exact self.fault_narrowed reason
  | disarmed _ reason _ => exact self.disarm_narrowed reason
  | waiting _ _ _ _ => exact ⟨id, id, id, id, rfl⟩
  | armed _ _ reason _ _ => exact self.transition_narrowed _ _
  | paused => exact ⟨id, id, id, id, rfl⟩
  | active => exact self.transition_narrowed _ _

def readsButtons (config : SafetyConfig) (now : TimePoint) (panda : PandaHealth) : Bool :=
  pandaFresh config now panda && config.allowActuation

theorem update_narrowed (reads : readsButtons config now panda = true) :
    Narrowed ((self.setWaiting false).selectedChannels config vehicle panda).1
      (self.update config now vehicle panda command).1 := by
  obtain ⟨fresh, allowed⟩ := Bool.and_eq_true_iff.mp reads
  have exit := update_exit config self now vehicle panda command
  generalize self.update config now vehicle panda command = result at exit ⊢
  cases exit with
  | lostPanda stale => rw [fresh] at stale; cases stale
  | passiveYaml _ passive => rw [allowed] at passive; cases passive
  | gated _ _ observed observes exit =>
      subst observes
      exact (observe_narrowed config vehicle panda (self.setWaiting false)).trans
        (gateExit_narrowed exit)

theorem update_unread (unread : readsButtons config now panda = false) :
    (self.update config now vehicle panda command).1.consumed = self.consumed ∧
      (self.update config now vehicle panda command).1.Disengaged := by
  have exit := update_exit config self now vehicle panda command
  generalize self.update config now vehicle panda command = result at exit ⊢
  cases exit with
  | lostPanda _ => exact ⟨rfl, rfl, rfl, rfl⟩
  | passiveYaml _ _ => exact ⟨rfl, rfl, rfl, rfl⟩
  | gated fresh allowed => rw [readsButtons, fresh, allowed] at unread; cases unread

theorem update_reads_of_engaged
    (engaged : isEngaged (self.update config now vehicle panda command).1.state = true) :
    readsButtons config now panda = true := by
  have exit := update_exit config self now vehicle panda command
  generalize self.update config now vehicle panda command = result at exit engaged
  cases exit with
  | lostPanda _ => cases engaged
  | passiveYaml _ _ => cases engaged
  | gated fresh allowed => rw [readsButtons, fresh, allowed]; rfl

theorem selectedChannels_consumed :
    (self.selectedChannels config vehicle panda).1.consumed = vehicle.presses := by
  unfold selectedChannels selectChannels selectFromFirmware toggleLateralOnly toggleCombined
  dsimp only
  split_ifs <;> rfl

theorem update_consumed :
    (self.update config now vehicle panda command).1.consumed =
      if readsButtons config now panda = true then vehicle.presses else self.consumed := by
  by_cases reads : readsButtons config now panda = true
  · rw [if_pos reads, (update_narrowed reads).consumed, selectedChannels_consumed]
  · rw [if_neg reads]
    exact (update_unread (by simpa using reads)).1

theorem requestArm_consumed (arm : Bool) :
    (self.requestArm config arm).1.consumed = self.consumed := by
  unfold requestArm
  dsimp only
  split_ifs <;> rfl

theorem update_lateralAllowed
    (allowed : (self.update config now vehicle panda command).2.lateralAllowed = true) :
    (self.update config now vehicle panda command).2.lateralArmed = true := by
  have exit := update_exit config self now vehicle panda command
  generalize self.update config now vehicle panda command = result at exit allowed ⊢
  cases exit with
  | lostPanda _ => cases allowed
  | passiveYaml _ _ => cases allowed
  | gated _ _ observed _ exit =>
      cases exit with
      | unarmed | latched | faulted | disarmed | waiting | armed | paused => cases allowed
      | active => exact allowed

end Update

/-! ## The deadline before the gates -/

section Observation
variable (config : SafetyConfig) (vehicle : VehicleStateData) (panda : PandaHealth)
  (self : SafetySupervisor)

theorem selectedChannels_deadline :
    (self.selectedChannels config vehicle panda).1.softDisableDeadline =
      self.softDisableDeadline := by
  unfold selectedChannels selectChannels selectFromFirmware toggleLateralOnly toggleCombined
  dsimp only
  split_ifs <;> rfl

theorem disengageOnBrake_deadline :
    (self.disengageOnBrake config vehicle).1.softDisableDeadline = self.softDisableDeadline := by
  unfold disengageOnBrake
  split <;> rfl

theorem disengageOnAccFault_deadline :
    (self.disengageOnAccFault config vehicle).1.softDisableDeadline =
      self.softDisableDeadline := by
  unfold disengageOnAccFault
  split <;> rfl

theorem observePanda_unfaulted (turnedOff byBrake : Bool)
    (notFault : (self.observePanda panda turnedOff byBrake).1.state ≠ .fault) :
    (self.observePanda panda turnedOff byBrake).1 = self ∨
      (self.observePanda panda turnedOff byBrake).1 =
        { self with longitudinalEnabled := false, longitudinalLatchedOff := true } := by
  rcases observePanda_cases panda self turnedOff byBrake with
    ⟨reason, _, faulted⟩ | ⟨_, dropped⟩ | passed
  · rw [faulted] at notFault
    exact absurd rfl notFault
  · exact Or.inr (congrArg Prod.fst dropped)
  · exact Or.inl (congrArg Prod.fst passed)

/-- A fault is the only transition of the observation, so the only one to clear the deadline. -/
theorem observePanda_deadline (turnedOff byBrake : Bool)
    (notFault : (self.observePanda panda turnedOff byBrake).1.state ≠ .fault) :
    (self.observePanda panda turnedOff byBrake).1.softDisableDeadline =
      self.softDisableDeadline := by
  rcases observePanda_unfaulted panda self turnedOff byBrake notFault with same | dropped
  · rw [same]
  · rw [dropped]

theorem observe_paused
    (notFault : (self.observe config vehicle panda).supervisor.state ≠ .fault) :
    (self.observe config vehicle panda).supervisor.state = self.state ∧
      (self.observe config vehicle panda).supervisor.softDisableDeadline =
        self.softDisableDeadline := by
  constructor
  · rcases observe_arm config vehicle panda self with kept | faulted
    · exact kept.state
    · exact absurd faulted.state notFault
  · rw [(observe_supervisor config self vehicle panda).1] at notFault ⊢
    dsimp only at notFault ⊢
    rw [observePanda_deadline panda _ _ _ notFault, disengageOnAccFault_deadline,
      disengageOnBrake_deadline]
    exact selectedChannels_deadline config vehicle panda self

end Observation

/-! ## Channel flags a fault-free observation leaves -/

section Observation
variable (config : SafetyConfig) (vehicle : VehicleStateData) (panda : PandaHealth)
  (self : SafetySupervisor)

theorem observePanda_lateral (turnedOff byBrake : Bool)
    (notFault : (self.observePanda panda turnedOff byBrake).1.state ≠ .fault) :
    (self.observePanda panda turnedOff byBrake).1.lateralEnabled = self.lateralEnabled := by
  rcases observePanda_unfaulted panda self turnedOff byBrake notFault with same | dropped
  · rw [same]
  · rw [dropped]

/-- The brake is the one stage that takes the lateral channel without a fault. -/
theorem observe_lateral
    (notFault : (self.observe config vehicle panda).supervisor.state ≠ .fault) :
    (self.observe config vehicle panda).supervisor.lateralEnabled =
      ((self.selectedChannels config vehicle panda).1.lateralEnabled &&
        !(vehicle.brakePressed && config.lateralDisengageOnBrake)) := by
  rw [(observe_supervisor config self vehicle panda).1] at notFault ⊢
  dsimp only at notFault ⊢
  rw [observePanda_lateral panda _ _ _ notFault]
  have acc : ∀ braked : SafetySupervisor,
      (braked.disengageOnAccFault config vehicle).1.lateralEnabled = braked.lateralEnabled := by
    intro braked
    unfold disengageOnAccFault
    split <;> rfl
  rw [acc]
  unfold disengageOnBrake
  split
  · rename_i pressed
    rw [pressed, Bool.true_and]
    rfl
  · rename_i released
    simp only [Bool.not_eq_true] at released
    rw [released, Bool.false_and, Bool.not_false, Bool.and_true]
    rfl

/-- Off while selected means latched off. -/
def Masked (selected : Bool) (supervisor : SafetySupervisor) : Prop :=
  supervisor.longitudinalEnabled = false →
    selected = false ∨ supervisor.longitudinalLatchedOff = true

variable {self} {selected : Bool}

theorem disengageOnBrake_masked (masked : Masked selected self) :
    Masked selected (self.disengageOnBrake config vehicle).1 := by
  unfold disengageOnBrake
  split
  · intro off
    cases configured : config.longitudinalDisengageOnBrake with
    | true => exact Or.inr (by simp)
    | false =>
        have before : self.longitudinalEnabled = false := by simpa [configured] using off
        rcases masked before with unselected | latched
        · exact Or.inl unselected
        · exact Or.inr (by simp [latched])
  · exact masked

theorem disengageOnAccFault_masked (masked : Masked selected self) :
    Masked selected (self.disengageOnAccFault config vehicle).1 := by
  unfold disengageOnAccFault
  split
  · exact fun _ => Or.inr rfl
  · exact masked

theorem observePanda_masked (masked : Masked selected self) (turnedOff byBrake : Bool)
    (notFault : (self.observePanda panda turnedOff byBrake).1.state ≠ .fault) :
    Masked selected (self.observePanda panda turnedOff byBrake).1 := by
  rcases observePanda_unfaulted panda self turnedOff byBrake notFault with same | dropped
  · rw [same]
    exact masked
  · rw [dropped]
    exact fun _ => Or.inr rfl

theorem observe_masked (masked : Masked selected (self.selectedChannels config vehicle panda).1)
    (notFault : (self.observe config vehicle panda).supervisor.state ≠ .fault) :
    Masked selected (self.observe config vehicle panda).supervisor := by
  have selection : Masked selected
      ((self.selectedChannels config vehicle panda).1.afterSelection vehicle) := masked
  have accChecked := disengageOnAccFault_masked config vehicle
    (disengageOnBrake_masked config vehicle selection)
  rw [(observe_supervisor config self vehicle panda).1] at notFault ⊢
  exact observePanda_masked panda accChecked _ _ notFault

end Observation

/-! ## Arm requests -/

section Arm
variable {config : SafetyConfig} {self : SafetySupervisor}

/-- A granted arm request made while disarmed. -/
theorem requestArm_granted (allowed : config.allowActuation = true)
    (unarmed : self.armRequested = false) :
    (self.requestArm config true).1 =
      { (if self.state = .fault then self.transition .passive "fault acknowledged by rearm"
         else self) with
        armRequested := true, lateralEnabled := false, longitudinalEnabled := false,
        longitudinalLatchedOff := false } := by
  by_cases faulted : self.state = .fault
  · simp [requestArm, allowed, unarmed, faulted]
  · simp [requestArm, allowed, unarmed, faulted]

/-- Repeated while armed, it only acknowledges a fault. -/
theorem requestArm_repeated (allowed : config.allowActuation = true)
    (armed : self.armRequested = true) :
    (self.requestArm config true).1 =
      { (if self.state = .fault then self.transition .passive "fault acknowledged by rearm"
         else self) with armRequested := true } := by
  by_cases faulted : self.state = .fault
  · simp [requestArm, allowed, armed, faulted]
  · simp [requestArm, allowed, armed, faulted]

end Arm

section Session
variable {config : SafetyConfig} {vehicle : VehicleStateData} {panda : PandaHealth}
  {self : SafetySupervisor}

theorem selectedChannels_masked (session : config.resumeOnCommandReturn = true)
    (armed : self.armRequested = true) :
    (self.selectedChannels config vehicle panda).1.lateralEnabled = panda.lateralSelected ∧
      Masked panda.longitudinalSelected (self.selectedChannels config vehicle panda).1 := by
  have recorded : (self.recordButtons vehicle).armRequested = true := armed
  have selected : self.selectedChannels config vehicle panda =
      (self.recordButtons vehicle).selectFromFirmware vehicle panda
        (self.setButtonEvent vehicle) :=
    selectChannels_session config vehicle panda recorded session _ _
  rw [selected]
  refine ⟨rfl, fun off => ?_⟩
  rcases Bool.and_eq_false_iff.mp off with unselected | latched
  · exact Or.inl unselected
  · exact Or.inr (@Bool.not_inj _ true latched)

end Session
end SafetySupervisor
end Ioniq5Ecan
