import Ioniq5Ecan.Supervisor.Latch

/-! # The longitudinal latch

A brake press, an ACC fault or a rejected longitudinal frame latches the
longitudinal channel off.  `LongitudinalOff` is what the latch keeps; the calls
that may release it are `ReselectsLongitudinal`. -/
set_option autoImplicit false
namespace Ioniq5Ecan
namespace SafetySupervisor

open Library (CallMachine)

/-- The channel flags right after buttons or firmware samples selected them. -/
def selectedChannels (config : SafetyConfig) (self : SafetySupervisor) (vehicle : VehicleStateData)
    (panda : PandaHealth) : SafetySupervisor × Bool :=
  (self.recordButtons vehicle).selectChannels config vehicle panda
    (self.laneKeepButtonEvent vehicle) (self.setButtonEvent vehicle)

/-- Why an update, called in state `self`, latches the longitudinal channel off. -/
inductive LongitudinalCause (config : SafetyConfig) (self : SafetySupervisor)
    (vehicle : VehicleStateData) (panda : PandaHealth) : Prop
  | brake (pressed : vehicle.brakePressed = true)
      (configured : config.longitudinalDisengageOnBrake = true)
  | accFault (fault : vehicle.accFault = true) (allowed : config.allowLongitudinal = true)
      (selected : ((self.setWaiting false).selectedChannels config vehicle
        panda).1.longitudinalEnabled = true)
  | rejection (rejected : ((self.setWaiting false).observe config vehicle
      panda).longitudinalTxRejected = true)

structure LongitudinalOff (config : SafetyConfig) (supervisor : SafetySupervisor) : Prop where
  latched : supervisor.longitudinalLatchedOff = true
  off : config.allowLongitudinal = true → supervisor.longitudinalEnabled = false

section Observation
variable {config : SafetyConfig} {vehicle : VehicleStateData} {panda : PandaHealth}
  {self : SafetySupervisor}

theorem LongitudinalOff.withdraw (off : LongitudinalOff config self) :
    LongitudinalOff config self.withdrawArm :=
  ⟨off.latched, fun _ => rfl⟩

theorem LongitudinalOff.transition (off : LongitudinalOff config self) (next : ControlState)
    (reason : String) : LongitudinalOff config (self.transition next reason) :=
  ⟨off.latched, off.off⟩

theorem disengageOnBrake_off (off : LongitudinalOff config self) :
    LongitudinalOff config (self.disengageOnBrake config vehicle).1 := by
  unfold disengageOnBrake
  split
  · exact ⟨by simp [off.latched], fun allowed => by simp [off.off allowed]⟩
  · exact off

theorem disengageOnAccFault_off (off : LongitudinalOff config self) :
    LongitudinalOff config (self.disengageOnAccFault config vehicle).1 := by
  unfold disengageOnAccFault
  split
  · exact ⟨rfl, fun _ => rfl⟩
  · exact off

theorem observePanda_off (off : LongitudinalOff config self) (panda : PandaHealth)
    (turnedOff byBrake : Bool) :
    LongitudinalOff config (self.observePanda panda turnedOff byBrake).1 := by
  rcases observePanda_cases panda self turnedOff byBrake with
    ⟨reason, _, faulted⟩ | ⟨_, dropped⟩ | passed
  · rw [faulted]
    exact off.withdraw.transition .fault reason
  · rw [dropped]
    exact ⟨rfl, fun _ => rfl⟩
  · rw [passed]
    exact off

theorem observePanda_rejected (turnedOff byBrake : Bool)
    (rejected : (self.observePanda panda turnedOff byBrake).2 = true) :
    LongitudinalOff config (self.observePanda panda turnedOff byBrake).1 := by
  rcases observePanda_cases panda self turnedOff byBrake with
    ⟨reason, _, faulted⟩ | ⟨_, dropped⟩ | passed
  · rw [faulted] at rejected
    cases rejected
  · rw [dropped]
    exact ⟨rfl, fun _ => rfl⟩
  · rw [passed] at rejected
    cases rejected

/-- The stages after the selection, with the names `observe` gives their results. -/
def afterSelection (self : SafetySupervisor) (vehicle : VehicleStateData) : SafetySupervisor :=
  { self with lastCancelButtonEvents := vehicle.cancelButtonEvents }

theorem observe_supervisor (config : SafetyConfig) (self : SafetySupervisor)
    (vehicle : VehicleStateData) (panda : PandaHealth) :
    let selected := self.selectedChannels config vehicle panda
    let braked := (selected.1.afterSelection vehicle).disengageOnBrake config vehicle
    let accChecked := braked.1.disengageOnAccFault config vehicle
    let rejected := accChecked.1.observePanda panda selected.2 braked.2
    (self.observe config vehicle panda).supervisor =
        { rejected.1 with lastTxBlocked := panda.safetyTxBlocked } ∧
      (self.observe config vehicle panda).longitudinalTxRejected = rejected.2 := by
  exact ⟨rfl, rfl⟩

theorem observe_off_of_accChecked
    (off : LongitudinalOff config
      ((((self.selectedChannels config vehicle panda).1.afterSelection vehicle).disengageOnBrake
        config vehicle).1.disengageOnAccFault config vehicle).1) :
    LongitudinalOff config (self.observe config vehicle panda).supervisor := by
  rw [(observe_supervisor config self vehicle panda).1]
  have last := observePanda_off off panda (self.selectedChannels config vehicle panda).2
    (((self.selectedChannels config vehicle panda).1.afterSelection vehicle).disengageOnBrake
      config vehicle).2
  exact ⟨last.latched, last.off⟩

theorem brake_off (pressed : vehicle.brakePressed = true)
    (configured : config.longitudinalDisengageOnBrake = true) :
    LongitudinalOff config (self.disengageOnBrake config vehicle).1 := by
  rw [disengageOnBrake, if_pos pressed]
  exact ⟨by simp [configured], fun _ => by simp [configured]⟩

theorem accFault_off (fault : vehicle.accFault = true) (allowed : config.allowLongitudinal = true)
    (selected : self.longitudinalEnabled = true) :
    LongitudinalOff config
      ((self.disengageOnBrake config vehicle).1.disengageOnAccFault config vehicle).1 := by
  by_cases byBrake : vehicle.brakePressed = true ∧ config.longitudinalDisengageOnBrake = true
  · exact disengageOnAccFault_off (brake_off byBrake.1 byBrake.2)
  · have still : (self.disengageOnBrake config vehicle).1.longitudinalEnabled = true := by
      unfold disengageOnBrake
      split
      · rename_i pressed
        have notConfigured : config.longitudinalDisengageOnBrake = false := by
          simpa [pressed] using byBrake
        simp [selected, notConfigured]
      · exact selected
    rw [disengageOnAccFault, if_pos (by simp [fault, allowed, still])]
    exact ⟨rfl, fun _ => rfl⟩

theorem observe_cause (cause : LongitudinalCause config self vehicle panda) :
    LongitudinalOff config ((self.setWaiting false).observe config vehicle panda).supervisor := by
  cases cause with
  | brake pressed configured =>
      exact observe_off_of_accChecked (disengageOnAccFault_off (brake_off pressed configured))
  | accFault fault allowed selected =>
      exact observe_off_of_accChecked (accFault_off fault allowed selected)
  | rejection rejected =>
      have parts := observe_supervisor config (self.setWaiting false) vehicle panda
      rw [parts.2] at rejected
      rw [parts.1]
      have off : LongitudinalOff config _ := observePanda_rejected _ _ rejected
      exact ⟨off.latched, off.off⟩

end Observation

/-- The SET press that may select the longitudinal channel again: seen with a fresh Panda, ACC
fault clear, and brake released unless the legacy profile ignores the brake. -/
def ReselectsLongitudinal (config : SafetyConfig) (self : SafetySupervisor) (now : TimePoint)
    (vehicle : VehicleStateData) (panda : PandaHealth) : Prop :=
  pandaFresh config now panda = true ∧ self.setButtonEvent vehicle = true ∧
    vehicle.accFault = false ∧
      (vehicle.brakePressed = false ∨
        config.resumeOnCommandReturn = false ∧ config.longitudinalDisengageOnBrake = false)

/-- The calls that may release the longitudinal latch. -/
def ReleasesLongitudinal (config : SafetyConfig) (self : SafetySupervisor) :
    SupervisorCall → Prop
  | .requestArm arm => arm = true ∧ self.armRequested = false
  | .update now vehicle panda _ => ReselectsLongitudinal config self now vehicle panda

section Selection
variable {config : SafetyConfig} {now : TimePoint} {vehicle : VehicleStateData}
  {panda : PandaHealth} {self : SafetySupervisor}

theorem selectFromFirmware_off (latched : self.longitudinalLatchedOff = true) {setEvent : Bool}
    (kept : (setEvent && !vehicle.brakePressed && !vehicle.accFault) = false) :
    LongitudinalOff config (self.selectFromFirmware vehicle panda setEvent).1 := by
  constructor
  · simp [selectFromFirmware, kept, latched]
  · intro _
    simp [selectFromFirmware, kept, latched]

theorem selectedChannels_off (off : LongitudinalOff config self)
    (fresh : pandaFresh config now panda = true)
    (kept : ¬ ReselectsLongitudinal config self now vehicle panda) :
    (self.selectedChannels config vehicle panda).1.longitudinalLatchedOff = true ∧
      (LongitudinalOff config (self.selectedChannels config vehicle panda).1 ∨
        vehicle.accFault = true ∨
        vehicle.brakePressed = true ∧ config.longitudinalDisengageOnBrake = true) := by
  have recorded : LongitudinalOff config (self.recordButtons vehicle) := ⟨off.latched, off.off⟩
  unfold selectedChannels
  cases armed : self.armRequested with
  | false =>
      have recordedUnarmed : (self.recordButtons vehicle).armRequested = false := armed
      rw [selectChannels_unarmed config vehicle panda recordedUnarmed]
      exact ⟨recorded.latched, Or.inl recorded⟩
  | true =>
      have recordedArmed : (self.recordButtons vehicle).armRequested = true := armed
      cases session : config.resumeOnCommandReturn with
      | true =>
          -- A SET press needs the brake released and the ACC fault clear.
          have noSet : (self.setButtonEvent vehicle && !vehicle.brakePressed &&
              !vehicle.accFault) = false := by
            simp only [ReselectsLongitudinal, fresh, session] at kept
            revert kept
            cases self.setButtonEvent vehicle <;> cases vehicle.brakePressed <;>
              cases vehicle.accFault <;> simp
          have selected : LongitudinalOff config ((self.recordButtons vehicle).selectFromFirmware
              vehicle panda (self.setButtonEvent vehicle)).1 :=
            selectFromFirmware_off recorded.latched noSet
          rw [selectChannels_session config vehicle panda recordedArmed session]
          exact ⟨selected.latched, Or.inl selected⟩
      | false =>
          rw [selectChannels_legacy config vehicle panda recordedArmed session]
          split
          · -- The SET press toggles both channels on.
            rename_i setEvent
            have latched : ∀ condition : Bool,
                ((if condition = true then ((self.recordButtons vehicle).toggleLateralOnly
                  config).1 else self.recordButtons vehicle).toggleCombined
                    config).1.longitudinalLatchedOff = true := by
              intro condition
              cases condition <;> exact recorded.latched
            refine ⟨latched _, Or.inr ?_⟩
            by_contra neither
            rw [not_or, not_and] at neither
            refine kept ⟨fresh, setEvent, by simpa using neither.1, ?_⟩
            by_cases brake : vehicle.brakePressed = true
            · exact Or.inr ⟨session, by simpa using neither.2 brake⟩
            · exact Or.inl (by simpa using brake)
          · split
            · exact ⟨recorded.latched, Or.inl ⟨recorded.latched, fun _ => rfl⟩⟩
            · exact ⟨recorded.latched, Or.inl recorded⟩

theorem accChecked_off (off : LongitudinalOff config self)
    (fresh : pandaFresh config now panda = true)
    (kept : ¬ ReselectsLongitudinal config self now vehicle panda) :
    LongitudinalOff config
      ((((self.selectedChannels config vehicle panda).1.afterSelection vehicle).disengageOnBrake
        config vehicle).1.disengageOnAccFault config vehicle).1 := by
  obtain ⟨latched, still | cleared⟩ := selectedChannels_off off fresh kept
  · have selected : LongitudinalOff config
        ((self.selectedChannels config vehicle panda).1.afterSelection vehicle) :=
      ⟨still.latched, still.off⟩
    exact disengageOnAccFault_off (disengageOnBrake_off selected)
  · rcases cleared with fault | ⟨pressed, configured⟩
    · by_cases usable : config.allowLongitudinal = true ∧
          (self.selectedChannels config vehicle panda).1.longitudinalEnabled = true
      · exact accFault_off fault usable.1 usable.2
      · have selected : LongitudinalOff config
            ((self.selectedChannels config vehicle panda).1.afterSelection vehicle) :=
          ⟨latched, fun allowed => by simpa [afterSelection, allowed] using usable⟩
        exact disengageOnAccFault_off (disengageOnBrake_off selected)
    · exact disengageOnAccFault_off (brake_off pressed configured)

end Selection

section Latch
variable {config : SafetyConfig} {now : TimePoint} {vehicle : VehicleStateData}
  {panda : PandaHealth} {command : CommandSample} {self : SafetySupervisor}

theorem gateExit_off {observed : Observed} {result : SafetySupervisor × SafetyDecision}
    (off : LongitudinalOff config self)
    (exit : GateExit config now vehicle panda command self observed result) :
    LongitudinalOff config result.1 := by
  cases exit with
  | unarmed _ _ => exact off.transition .passive _
  | latched _ => exact off
  | faulted reason _ => exact off.withdraw.transition .fault reason
  | disarmed _ reason _ => exact off.withdraw.transition .passive reason
  | waiting _ _ _ _ => exact ⟨off.latched, off.off⟩
  | armed _ _ reason _ _ => exact off.transition .armed reason
  | paused => exact ⟨off.latched, off.off⟩
  | active => exact off.transition .active _

/-- The armed flag of a decision is the channel flag it leaves behind, and no permission goes
beyond it. -/
theorem update_longitudinal :
    (self.update config now vehicle panda command).2.longitudinalArmed =
        (config.allowLongitudinal &&
          (self.update config now vehicle panda command).1.longitudinalEnabled) ∧
      ((self.update config now vehicle panda command).2.longitudinalAllowed = true →
        (self.update config now vehicle panda command).2.longitudinalArmed = true) := by
  have exit := update_exit config self now vehicle panda command
  generalize self.update config now vehicle panda command = result at exit ⊢
  cases exit with
  | lostPanda _ => exact ⟨rfl, fun allowed => by cases allowed⟩
  | passiveYaml _ _ => exact ⟨rfl, fun allowed => by cases allowed⟩
  | gated _ _ observed _ exit =>
      cases exit with
      | unarmed | latched | faulted | disarmed | waiting | armed =>
          exact ⟨rfl, fun allowed => by cases allowed⟩
      | paused =>
          refine ⟨rfl, fun allowed => ?_⟩
          simp only [answer, decision, Bool.and_eq_true] at allowed ⊢
          exact allowed.1.1
      | active =>
          refine ⟨rfl, fun allowed => ?_⟩
          simp only [answer, decision, Bool.and_eq_true] at allowed ⊢
          exact allowed.1

theorem update_withheld
    (off : LongitudinalOff config (self.update config now vehicle panda command).1 ∨
      (self.update config now vehicle panda command).1.Disengaged) :
    (self.update config now vehicle panda command).2.longitudinalArmed = false ∧
      (self.update config now vehicle panda command).2.longitudinalAllowed = false := by
  obtain ⟨armedEq, within⟩ := @update_longitudinal config now vehicle panda command self
  have unarmed : (self.update config now vehicle panda command).2.longitudinalArmed = false := by
    rw [armedEq]
    rcases off with latchedOff | disengaged
    · cases allowed : config.allowLongitudinal with
      | false => rfl
      | true => simp [latchedOff.off allowed]
    · simp [disengaged.noLongitudinal]
  refine ⟨unarmed, ?_⟩
  cases allowed : (self.update config now vehicle panda command).2.longitudinalAllowed with
  | false => rfl
  | true => rw [within allowed] at unarmed; cases unarmed

/-- What the latch keeps over a run: off, or never to be armed at all. -/
structure HeldOff (config : SafetyConfig) (supervisor : SafetySupervisor) : Prop where
  active : config.allowActuation = true → LongitudinalOff config supervisor
  passive : config.allowActuation = false → supervisor.Disengaged

theorem HeldOff.withheld
    (held : HeldOff config (self.update config now vehicle panda command).1) :
    (self.update config now vehicle panda command).2.longitudinalArmed = false ∧
      (self.update config now vehicle panda command).2.longitudinalAllowed = false := by
  cases allowed : config.allowActuation with
  | true => exact update_withheld (Or.inl (held.active allowed))
  | false => exact update_withheld (Or.inr (held.passive allowed))

theorem update_off_of_observed
    (lost : pandaFresh config now panda = false → LongitudinalOff config self)
    (observedOff : pandaFresh config now panda = true → LongitudinalOff config
      ((self.setWaiting false).observe config vehicle panda).supervisor)
    (allowed : config.allowActuation = true) :
    LongitudinalOff config (self.update config now vehicle panda command).1 := by
  have exit := update_exit config self now vehicle panda command
  generalize self.update config now vehicle panda command = result at exit ⊢
  cases exit with
  | lostPanda stale =>
      have off := lost stale
      exact ⟨off.latched, fun _ => rfl⟩
  | passiveYaml _ passive => rw [allowed] at passive; cases passive
  | gated fresh _ observed observes exit =>
      subst observes
      exact gateExit_off (observedOff fresh) exit

theorem update_heldOff_of_cause (inv : ArmInvariant config self)
    (fresh : pandaFresh config now panda = true)
    (cause : LongitudinalCause config self vehicle panda) :
    HeldOff config (self.update config now vehicle panda command).1 := by
  constructor
  · intro allowed
    exact update_off_of_observed (fun stale => by rw [fresh] at stale; cases stale)
      (fun _ => observe_cause cause) allowed
  · intro passive
    exact (update_disengaged (inv.unarmed (inv.passive passive))).1

/-- The latch step: a call that does not release the latch keeps it. -/
theorem call_heldOff (config : SafetyConfig) (self : SafetySupervisor) (call : SupervisorCall)
    (held : HeldOff config self) (kept : ¬ ReleasesLongitudinal config self call) :
    HeldOff config ((supervisorMachine config).call self call).1 := by
  cases call with
  | update now vehicle panda command =>
      constructor
      · intro allowed
        have off := held.active allowed
        refine update_off_of_observed (fun _ => off) (fun fresh => ?_) allowed
        refine observe_off_of_accChecked (accChecked_off ?_ fresh kept)
        exact ⟨off.latched, off.off⟩
      · intro passive
        exact (update_disengaged (held.passive passive)).1
  | requestArm arm =>
      have notFresh : ¬ (arm = true ∧ self.armRequested = false) := kept
      constructor
      · intro allowed
        have off := held.active allowed
        cases arm with
        | false =>
            simp only [supervisorMachine, requestArm, Bool.false_and, Bool.false_eq_true, if_false,
              Bool.not_false, if_true]
            split <;> exact ⟨off.latched, fun _ => rfl⟩
        | true =>
            have armed : self.armRequested = true := by simpa using notFresh
            simp only [supervisorMachine, requestArm, allowed, Bool.not_true, Bool.and_false,
              Bool.false_eq_true, if_false, Bool.true_and]
            split <;> simp only [transition_armRequested, armed] <;> exact ⟨off.latched, off.off⟩
      · intro passive
        have off := held.passive passive
        cases arm with
        | false =>
            exact call_disengaged config self (.requestArm false) off (by simp)
        | true => exact absurd ⟨rfl, off.unarmed⟩ notFresh

end Latch

/-- Longitudinal stays withheld from the update that sees a cause until a SET press that may
reselect it or an arm request made while disarmed. -/
theorem longitudinal_latched_off (config : AcceptedConfig) (calls : List SupervisorCall)
    (now : TimePoint) (vehicle : VehicleStateData) (panda : PandaHealth) (command : CommandSample)
    (fresh : pandaFresh config.toSafetyConfig now panda = true)
    (cause : LongitudinalCause config.toSafetyConfig
      ((supervisorMachine config.toSafetyConfig).run {} calls) vehicle panda) :
    let machine := supervisorMachine config.toSafetyConfig
    let before := machine.run {} calls
    let result := before.update config.toSafetyConfig now vehicle panda command
    (result.2.longitudinalArmed = false ∧ result.2.longitudinalAllowed = false) ∧
      ∀ (later : List SupervisorCall) (now' : TimePoint) (vehicle' : VehicleStateData)
        (panda' : PandaHealth) (command' : CommandSample),
        machine.Quiet (ReleasesLongitudinal config.toSafetyConfig) result.1
          (later ++ [.update now' vehicle' panda' command']) →
        ((machine.run result.1 later).update config.toSafetyConfig now' vehicle' panda'
            command').2.longitudinalArmed = false ∧
          ((machine.run result.1 later).update config.toSafetyConfig now' vehicle' panda'
            command').2.longitudinalAllowed = false := by
  intro machine before result
  have held : HeldOff config.toSafetyConfig result.1 :=
    update_heldOff_of_cause (run_invariant config.toSafetyConfig calls) fresh cause
  refine ⟨held.withheld, ?_⟩
  intro later now' vehicle' panda' command' quiet
  obtain ⟨quietLater, quietLast, _⟩ := (machine.quiet_append _ _ _ _).mp quiet
  have heldLater : HeldOff config.toSafetyConfig (machine.run result.1 later) :=
    machine.held_of_quiet (HeldOff config.toSafetyConfig)
      (ReleasesLongitudinal config.toSafetyConfig) (call_heldOff config.toSafetyConfig) later
      result.1 held quietLater
  exact (call_heldOff config.toSafetyConfig _ (.update now' vehicle' panda' command') heldLater
    quietLast).withheld

def longitudinalConfig : AcceptedConfig :=
  ⟨{ allowActuation := true, allowLongitudinal := true }, by decide +kernel⟩

def combinedCalls : List SupervisorCall :=
  [.requestArm true, fixtureUpdate fixtureVehicle,
    fixtureUpdate { fixtureVehicle with setButtonEvents := 1 }]

theorem braked_after_set_latched_off :
    let machine := supervisorMachine longitudinalConfig.toSafetyConfig
    let before := machine.run {} combinedCalls
    let braked := before.update longitudinalConfig.toSafetyConfig fixtureNow
      { fixtureVehicle with setButtonEvents := 1, brakePressed := true } fixturePanda fixtureCommand
    let released := (machine.run braked.1 []).update longitudinalConfig.toSafetyConfig fixtureNow
      { fixtureVehicle with setButtonEvents := 1 } fixturePanda fixtureCommand
    before.longitudinalEnabled = true ∧ released.2.longitudinalArmed = false := by
  refine ⟨by decide +kernel, ?_⟩
  refine ((longitudinal_latched_off longitudinalConfig combinedCalls fixtureNow
    { fixtureVehicle with setButtonEvents := 1, brakePressed := true } fixturePanda fixtureCommand
    (by decide +kernel) (.brake rfl rfl)).2 [] fixtureNow
    { fixtureVehicle with setButtonEvents := 1 } fixturePanda fixtureCommand ⟨?_, trivial⟩).1
  rintro ⟨_, setEvent, _⟩
  revert setEvent
  decide +kernel

/-- The legacy profile with the brake check switched off. -/
def brakeIgnoredConfig : AcceptedConfig :=
  ⟨{ allowActuation := true, allowLongitudinal := true, longitudinalDisengageOnBrake := false },
    by decide +kernel⟩

/-- There a SET press during braking selects the channel an ACC fault had latched off. -/
theorem braked_set_press_reselects :
    let config := brakeIgnoredConfig.toSafetyConfig
    let machine := supervisorMachine config
    let before := machine.run {} combinedCalls
    let faultSeen : VehicleStateData := { fixtureVehicle with setButtonEvents := 1, accFault := true }
    let pressedBraking : VehicleStateData :=
      { fixtureVehicle with setButtonEvents := 2, brakePressed := true }
    let latched := before.update config fixtureNow faultSeen fixturePanda fixtureCommand
    let pressed := latched.1.update config fixtureNow pressedBraking fixturePanda fixtureCommand
    pandaFresh config fixtureNow fixturePanda = true ∧
      LongitudinalCause config before faultSeen fixturePanda ∧
      latched.2.longitudinalArmed = false ∧
      machine.Quiet
        (fun state call => match call with
          | .requestArm arm => arm = true ∧ state.armRequested = false
          | .update _ vehicle _ _ => state.setButtonEvent vehicle = true ∧
              vehicle.brakePressed = false ∧ vehicle.accFault = false)
        latched.1 [fixtureUpdate pressedBraking] ∧
      pressed.2.longitudinalArmed = true ∧ pressed.2.longitudinalAllowed = true := by
  refine ⟨by decide +kernel, .accFault rfl rfl (by decide +kernel), by decide +kernel,
    ⟨?_, trivial⟩, by decide +kernel, by decide +kernel⟩
  rintro ⟨_, released, _⟩
  cases released

end SafetySupervisor
end Ioniq5Ecan
