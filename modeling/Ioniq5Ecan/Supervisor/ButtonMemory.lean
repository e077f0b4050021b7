import Ioniq5Ecan.Supervisor.Observation

/-! # The presses an update remembers

`update` consumes the button counters after its first two early returns, so a
press carried by an update without a fresh Panda is consumed later, by the
first update with one (`run_consumed`).  Outside the command session this
decides exactly whether an arm request can select a channel on its own
(`rearm_selects_nothing_iff`). -/
set_option autoImplicit false
namespace Ioniq5Ecan

open Library (Double CallMachine)

namespace SafetySupervisor

/-! ## The counters a run consumes -/

/-- The counters passed to the last update of a run, if there was one. -/
def lastPassed : Option PressCounters → List SupervisorCall → Option PressCounters
  | seen, [] => seen
  | seen, .requestArm _ :: rest => lastPassed seen rest
  | _, .update _ vehicle _ _ :: rest => lastPassed (some vehicle.presses) rest

/-- The counters passed to the last update of a run with a fresh Panda. -/
def lastWithPanda (config : SafetyConfig) : PressCounters → List SupervisorCall → PressCounters
  | seen, [] => seen
  | seen, .requestArm _ :: rest => lastWithPanda config seen rest
  | seen, .update now vehicle panda _ :: rest =>
      lastWithPanda config (if pandaFresh config now panda then vehicle.presses else seen) rest

theorem run_consumed {config : SafetyConfig} (allowed : config.allowActuation = true)
    (calls : List SupervisorCall) :
    ∀ self, ((supervisorMachine config).run self calls).consumed =
      lastWithPanda config self.consumed calls := by
  induction calls with
  | nil => intro self; rfl
  | cons call rest ih =>
      intro self
      cases call with
      | requestArm arm =>
          have step := ih (self.requestArm config arm).1
          rw [requestArm_consumed] at step
          exact step
      | update now vehicle panda command =>
          have step := ih (self.update config now vehicle panda command).1
          rw [update_consumed, readsButtons, allowed, Bool.and_true] at step
          exact step

/-! ## Arming without a new press -/

/-- Nothing is selected, and nothing but `counters` was consumed. -/
structure Unselected (counters : PressCounters) (supervisor : SafetySupervisor) : Prop where
  noLateral : supervisor.lateralEnabled = false
  noLongitudinal : supervisor.longitudinalEnabled = false
  consumed : supervisor.consumed = counters

structure NoChannel (decision : SafetyDecision) : Prop where
  lateralArmed : decision.lateralArmed = false
  longitudinalArmed : decision.longitudinalArmed = false
  lateralAllowed : decision.lateralAllowed = false
  longitudinalAllowed : decision.longitudinalAllowed = false

def AllCarry (counters : PressCounters) (calls : List SupervisorCall) : Prop :=
  ∀ now vehicle panda command, SupervisorCall.update now vehicle panda command ∈ calls →
    vehicle.presses = counters

section Rearm
variable {config : SafetyConfig} {now : TimePoint} {vehicle : VehicleStateData}
  {panda : PandaHealth} {command : CommandSample} {self : SafetySupervisor}
  {counters : PressCounters}

theorem noChannel_of_unselected
    (noLateral : (self.update config now vehicle panda command).1.lateralEnabled = false)
    (noLongitudinal :
      (self.update config now vehicle panda command).1.longitudinalEnabled = false) :
    NoChannel (self.update config now vehicle panda command).2 := by
  obtain ⟨armedEq, within⟩ := @update_longitudinal config now vehicle panda command self
  have lateralArmed := (@update_lateralArmed config now vehicle panda command self).trans noLateral
  have longitudinalArmed :
      (self.update config now vehicle panda command).2.longitudinalArmed = false := by
    rw [armedEq, noLongitudinal, Bool.and_false]
  refine ⟨lateralArmed, longitudinalArmed, ?_, ?_⟩
  · by_contra permitted
    rw [update_lateralAllowed (by simpa using permitted)] at lateralArmed
    cases lateralArmed
  · by_contra permitted
    rw [within (by simpa using permitted)] at longitudinalArmed
    cases longitudinalArmed

theorem selectedChannels_repeated (legacy : config.resumeOnCommandReturn = false)
    (same : vehicle.presses = self.consumed) :
    (self.selectedChannels config vehicle panda).1 = self.recordButtons vehicle := by
  obtain ⟨laneKeep, set⟩ := (PressCounters.mk.injEq ..).mp same
  have noLaneKeep : self.laneKeepButtonEvent vehicle = false := by
    simp [laneKeepButtonEvent, laneKeep]
  have noSet : self.setButtonEvent vehicle = false := by simp [setButtonEvent, set]
  unfold selectedChannels
  rw [noLaneKeep, noSet]
  simp [selectChannels, legacy]

/-- Repeated counters select nothing, whatever else an update sees. -/
theorem update_unselected (legacy : config.resumeOnCommandReturn = false)
    (off : Unselected counters self) (same : vehicle.presses = counters) :
    Unselected counters (self.update config now vehicle panda command).1 := by
  by_cases reads : readsButtons config now panda = true
  · have narrowed := @update_narrowed config now vehicle panda command self reads
    have selected := @selectedChannels_repeated config vehicle panda (self.setWaiting false) legacy
      (same.trans off.consumed.symm)
    rw [selected] at narrowed
    refine ⟨?_, ?_, ?_⟩
    · by_contra on
      have before : self.lateralEnabled = true := narrowed.lateral (by simpa using on)
      rw [off.noLateral] at before
      cases before
    · by_contra on
      have before : self.longitudinalEnabled = true := narrowed.longitudinal (by simpa using on)
      rw [off.noLongitudinal] at before
      cases before
    · exact narrowed.consumed.trans same
  · obtain ⟨consumed, disengaged⟩ := @update_unread config now vehicle panda command self
      (by simpa using reads)
    exact ⟨disengaged.noLateral, disengaged.noLongitudinal, consumed.trans off.consumed⟩

theorem requestArm_unselected (off : Unselected counters self) (arm : Bool) :
    Unselected counters (self.requestArm config arm).1 := by
  refine ⟨?_, ?_, (requestArm_consumed arm).trans off.consumed⟩
  · unfold requestArm
    dsimp only
    split_ifs <;> first | rfl | exact off.noLateral
  · unfold requestArm
    dsimp only
    split_ifs <;> first | rfl | exact off.noLongitudinal

theorem run_unselected (legacy : config.resumeOnCommandReturn = false)
    (calls : List SupervisorCall) :
    ∀ self, Unselected counters self → AllCarry counters calls →
      Unselected counters ((supervisorMachine config).run self calls) := by
  induction calls with
  | nil => intro self off _; exact off
  | cons call rest ih =>
      intro self off carry
      have later : AllCarry counters rest := fun now vehicle panda command member =>
        carry now vehicle panda command (List.mem_cons_of_mem _ member)
      cases call with
      | requestArm arm => exact ih _ (requestArm_unselected off arm) later
      | update now vehicle panda command =>
          have same := carry now vehicle panda command (List.mem_cons_self ..)
          exact ih _ (update_unselected legacy off same) later

end Rearm

/-! ## A remembered press

A press that no update consumed is taken as new by the next update with a fresh
Panda, here one whose deadman is released. -/

/-- While disarmed the supervisor is in none of the states a gate pauses in. -/
def IdleUnarmed (supervisor : SafetySupervisor) : Prop :=
  supervisor.armRequested = false → supervisor.state ≠ .softDisabling

section Remembered
variable {config : SafetyConfig} {now : TimePoint} {vehicle : VehicleStateData}
  {panda : PandaHealth} {command : CommandSample} {self : SafetySupervisor}
  {counters : PressCounters}

theorem gateExit_idleUnarmed {observed : Observed} {result : SafetySupervisor × SafetyDecision}
    (exit : GateExit config now vehicle panda command self observed result) :
    IdleUnarmed result.1 := by
  intro unarmed
  cases exit with
  | unarmed _ _ => simp
  | latched faulted => rw [answer_fst, faulted]; decide
  | faulted reason _ => simp [fault]
  | disarmed _ reason _ => simp [disarm]
  | waiting _ _ _ _ => simp
  | armed _ _ reason _ _ => simp
  | paused gates =>
      have off : self.armRequested = false := unarmed
      rw [gates.armed] at off
      cases off
  | active => simp

theorem run_idleUnarmed (config : SafetyConfig) (calls : List SupervisorCall) :
    IdleUnarmed ((supervisorMachine config).run {} calls) := by
  refine (supervisorMachine config).run_keeps IdleUnarmed ?_ calls {} (fun _ => by decide)
  intro state call idle
  cases call with
  | requestArm arm =>
      intro unarmed
      cases arm with
      | true =>
          cases allowed : config.allowActuation with
          | false => simp [supervisorMachine, requestArm, allowed]
          | true => simp [supervisorMachine, requestArm, allowed] at unarmed
      | false =>
          by_cases lost : state.state = .disconnected
          · simp [supervisorMachine, requestArm, lost]
          · simp [supervisorMachine, requestArm, lost]
  | update now vehicle panda command =>
      have exit := update_exit config state now vehicle panda command
      change IdleUnarmed (state.update config now vehicle panda command).1
      generalize state.update config now vehicle panda command = result at exit ⊢
      cases exit with
      | lostPanda _ => intro _; simp
      | passiveYaml _ _ => intro _; simp
      | gated _ _ observed _ exit => exact gateExit_idleUnarmed exit

theorem requestArm_engageable (allowed : config.allowActuation = true)
    (idle : IdleUnarmed self) (unarmed : self.armRequested = false) :
    (self.requestArm config true).1.Engageable ∧
      Unselected self.consumed (self.requestArm config true).1 := by
  rw [requestArm_granted allowed unarmed]
  by_cases faulted : self.state = .fault
  · rw [if_pos faulted]
    exact ⟨⟨rfl, by simp, by simp⟩, rfl, rfl, rfl⟩
  · rw [if_neg faulted]
    exact ⟨⟨rfl, faulted, idle unarmed⟩, rfl, rfl, rfl⟩

theorem selectedChannels_pressed (legacy : config.resumeOnCommandReturn = false)
    (armed : self.armRequested = true) (noLateral : self.lateralEnabled = false)
    (pressed : vehicle.presses ≠ self.consumed) :
    (self.selectedChannels config vehicle panda).1.lateralEnabled = true := by
  have moved : self.laneKeepButtonEvent vehicle = true ∨ self.setButtonEvent vehicle = true := by
    by_contra neither
    rw [not_or] at neither
    refine pressed ((PressCounters.mk.injEq ..).mpr ⟨?_, ?_⟩)
    · simpa [laneKeepButtonEvent] using neither.1
    · simpa [setButtonEvent] using neither.2
  have recorded : (self.recordButtons vehicle).armRequested = true := armed
  unfold selectedChannels
  rw [selectChannels_legacy config vehicle panda recorded legacy]
  by_cases set : self.setButtonEvent vehicle = true
  · rw [if_pos set]
    by_cases laneKeep : self.laneKeepButtonEvent vehicle = true
    · simp [laneKeep, toggleCombined, toggleLateralOnly]
    · simp [laneKeep, toggleCombined, recordButtons, noLateral]
  · have laneKeep := moved.resolve_right set
    simp [set, laneKeep, toggleLateralOnly, recordButtons, noLateral]

end Remembered

/-- Samples that pass every gate with the deadman released. -/
def releasedVehicle (counters : PressCounters) (cancel : UInt64) : VehicleStateData :=
  { valid := true, laneKeepButtonEvents := counters.laneKeep, setButtonEvents := counters.set,
    cancelButtonEvents := cancel }

def configuredPanda (config : SafetyConfig) : PandaHealth :=
  { connected := true, harnessStatus := config.requiredHarnessStatus,
    safetyMode := config.requiredSafetyMode, safetyParam := config.requiredSafetyParam,
    ignitionOn := true, commandSessionReady := true, updatedAt := 1 }

def releasedCommand : CommandSample := { valid := true, receivedAt := 1 }

section Released
variable (config : AcceptedConfig)

theorem accepted_timeouts : 0 < config.commandTimeout ∧ 0 < config.pandaTimeout := by
  have accepted := config.isAccepted
  simp only [SafetyConfig.accepted, Bool.not_eq_true', Bool.or_eq_false_iff,
    decide_eq_false_iff_not, not_le] at accepted
  exact ⟨accepted.1.2, accepted.2⟩

theorem recent_at_once {timeout : Milliseconds} (positive : 0 < timeout) :
    recent 1 1 timeout = true := by
  have product : 0 ≤ timeout * nanosecondsPerMillisecond :=
    Int.mul_nonneg positive.le (by decide)
  exact (recent_iff ..).mpr ⟨by decide, le_refl _, by simpa using product⟩

theorem configuredPanda_fresh :
    pandaFresh config.toSafetyConfig 1 (configuredPanda config.toSafetyConfig) = true :=
  Bool.and_eq_true_iff.mpr ⟨rfl, recent_at_once (accepted_timeouts config).2⟩

theorem released_openGates (state : ControlState) (counters : PressCounters) (cancel : UInt64) :
    OpenGates config.toSafetyConfig state 1 (releasedVehicle counters cancel)
      (configuredPanda config.toSafetyConfig) releasedCommand := by
  have fresh : commandFresh config.toSafetyConfig 1 releasedCommand = true :=
    recent_at_once (accepted_timeouts config).1
  have speed : speedLimitExceeded config.toSafetyConfig (releasedVehicle counters cancel) =
      false := by
    rw [speedLimitExceeded, Bool.and_eq_false_imp]
    exact Double.lt_eq_false_of_lt
  have angle : angleLimitExceeded config.toSafetyConfig (releasedVehicle counters cancel) =
      false := by
    rw [angleLimitExceeded, Bool.and_eq_false_imp]
    exact Double.le_eq_false_of_lt
  exact
    { harness := rfl
      ignition := fun _ => rfl
      vehicleValid := rfl
      speed := speed
      angle := angle
      mode := Or.inl (by simp [configuredMode, configuredPanda])
      noEpsFault := rfl
      valid := fun _ => rfl
      stale := fun stale => by rw [fresh] at stale; cases stale
      ready := fun _ => Or.inl rfl }

/-- A counter that differs from the consumed one selects the lateral channel. -/
theorem remembered_press_selects {self : SafetySupervisor}
    (legacy : config.resumeOnCommandReturn = false) (allowed : config.allowActuation = true)
    (engageable : self.Engageable) (noLateral : self.lateralEnabled = false)
    (counters : PressCounters) (pressed : counters ≠ self.consumed) :
    (self.update config.toSafetyConfig 1
      (releasedVehicle counters self.lastCancelButtonEvents)
      (configuredPanda config.toSafetyConfig) releasedCommand).2.lateralArmed = true := by
  have noFault : pandaHealthFault (configuredPanda config.toSafetyConfig) = false := by
    simp [pandaHealthFault, configuredPanda, effectiveFaults]
  obtain ⟨waiting, next, reason, _, _, result⟩ := update_passes allowed engageable
    (configuredPanda_fresh config) rfl rfl noFault (fun _ => by simp [configuredPanda])
    (by simp [cancelEvent, releasedVehicle])
    (released_openGates config self.state counters self.lastCancelButtonEvents)
  rw [update_lateralArmed, result]
  exact selectedChannels_pressed legacy engageable.armed noLateral pressed

end Released

/-! ## The law -/

/-- Arming with unchanged counters selects nothing exactly when those counters were consumed:
the last update before the request carried them together with a fresh Panda, or carried the
same ones as the last update that did. -/
theorem rearm_selects_nothing_iff (config : AcceptedConfig)
    (legacy : config.resumeOnCommandReturn = false) (calls : List SupervisorCall)
    (counters : PressCounters) (_passed : lastPassed none calls = some counters)
    (unarmed : ((supervisorMachine config.toSafetyConfig).run {} calls).armRequested = false) :
    (∀ (later : List SupervisorCall) (now : TimePoint) (vehicle : VehicleStateData)
        (panda : PandaHealth) (command : CommandSample),
        AllCarry counters (later ++ [.update now vehicle panda command]) →
        NoChannel ((((supervisorMachine config.toSafetyConfig).run {}
          (calls ++ .requestArm true :: later)).update config.toSafetyConfig now vehicle panda
            command).2)) ↔
      (config.allowActuation = true →
        lastWithPanda config.toSafetyConfig {} calls = counters) := by
  set machine := supervisorMachine config.toSafetyConfig with machineEq
  set before := machine.run {} calls with beforeEq
  have continues : ∀ later : List SupervisorCall,
      machine.run {} (calls ++ .requestArm true :: later) =
        machine.run (before.requestArm config.toSafetyConfig true).1 later := by
    intro later
    rw [machine.run_append, ← beforeEq]
    rfl
  constructor
  · intro silent allowed
    -- The update right after the request tells the counters apart.
    by_contra differs
    have consumed := run_consumed allowed calls {}
    obtain ⟨engageable, noLateral, _, same⟩ := requestArm_engageable allowed
      (run_idleUnarmed config.toSafetyConfig calls) unarmed
    have pressed : counters ≠ (before.requestArm config.toSafetyConfig true).1.consumed := by
      rw [same]
      intro equal
      exact differs (consumed.symm.trans equal.symm)
    have selects := remembered_press_selects config legacy allowed engageable noLateral counters
      pressed
    have carry : AllCarry counters ([] ++ [.update 1
        (releasedVehicle counters
          (before.requestArm config.toSafetyConfig true).1.lastCancelButtonEvents)
        (configuredPanda config.toSafetyConfig) releasedCommand]) := by
      intro now vehicle panda command member
      obtain ⟨_, rfl, _, _⟩ := (SupervisorCall.update.injEq ..).mp (List.mem_singleton.mp member)
      rfl
    have withheld := (silent [] _ _ _ _ carry).lateralArmed
    rw [continues] at withheld
    exact absurd (selects.symm.trans withheld) (by decide)
  · intro remembered later now vehicle panda command carry
    have lastCarries : vehicle.presses = counters :=
      carry now vehicle panda command (List.mem_append_right _ (List.mem_singleton_self _))
    have laterCarry : AllCarry counters later := fun now' vehicle' panda' command' member =>
      carry now' vehicle' panda' command' (List.mem_append_left _ member)
    cases allowed : config.allowActuation with
    | false =>
        have whole := run_invariant config.toSafetyConfig (calls ++ .requestArm true :: later)
        obtain ⟨_, withheld⟩ := @update_disengaged config.toSafetyConfig now vehicle panda command
          _ (whole.unarmed (whole.passive allowed))
        exact ⟨withheld.lateralArmed, withheld.longitudinalArmed, withheld.lateralAllowed,
          withheld.longitudinalAllowed⟩
    | true =>
        have consumed : before.consumed = counters :=
          (run_consumed allowed calls {}).trans (remembered allowed)
        obtain ⟨_, unselected⟩ := requestArm_engageable allowed
          (run_idleUnarmed config.toSafetyConfig calls) unarmed
        rw [consumed] at unselected
        have kept := @update_unselected config.toSafetyConfig now vehicle panda command _ _ legacy
          (run_unselected legacy later _ unselected laterCarry) lastCarries
        rw [continues]
        exact noChannel_of_unselected kept.noLateral kept.noLongitudinal

/-- Armed, then a first LDA press carried by an update with a stale Panda sample. -/
def pressedWithoutPanda : List SupervisorCall :=
  [.requestArm true, fixtureUpdate fixtureVehicle,
    .update fixtureNow { fixtureVehicle with laneKeepButtonEvents := 1 } {} fixtureCommand]

/-- The request disarmed by the lost Panda is repeated, and the counters stand still: the
press seen without a Panda selects the lateral channel. -/
theorem unread_press_selects_after_rearm :
    let machine := supervisorMachine actuationConfig.toSafetyConfig
    let before := machine.run {} pressedWithoutPanda
    let pressed : VehicleStateData := { fixtureVehicle with laneKeepButtonEvents := 1 }
    let result := (machine.run {} (pressedWithoutPanda ++ [.requestArm true])).update
      actuationConfig.toSafetyConfig fixtureNow pressed fixturePanda fixtureCommand
    actuationConfig.resumeOnCommandReturn = false ∧ before.armRequested = false ∧
      lastPassed none pressedWithoutPanda = some pressed.presses ∧
      result.2.lateralArmed = true ∧ result.2.lateralAllowed = true := by
  decide +kernel

/-- The same press carried by an update with a fresh Panda is spent. -/
def pressedWithPanda : List SupervisorCall :=
  [.requestArm true, fixtureUpdate { fixtureVehicle with laneKeepButtonEvents := 1 },
    .requestArm false]

theorem read_press_selects_nothing :
    NoChannel (((supervisorMachine actuationConfig.toSafetyConfig).run {}
      (pressedWithPanda ++ [.requestArm true])).update actuationConfig.toSafetyConfig fixtureNow
        { fixtureVehicle with laneKeepButtonEvents := 1 } fixturePanda fixtureCommand).2 := by
  refine (rearm_selects_nothing_iff actuationConfig rfl pressedWithPanda ⟨1, 0⟩ rfl
    (by decide +kernel)).mpr (fun _ => by decide +kernel) [] fixtureNow _ fixturePanda
    fixtureCommand ?_
  intro now vehicle panda command member
  obtain ⟨_, rfl, _, _⟩ := (SupervisorCall.update.injEq ..).mp (List.mem_singleton.mp member)
  rfl

end SafetySupervisor
end Ioniq5Ecan
