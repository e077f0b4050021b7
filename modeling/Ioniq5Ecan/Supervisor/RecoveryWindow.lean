import Ioniq5Ecan.Supervisor.Observation

/-! # The EPS recovery window

The update that pauses steering writes the deadline; `transition` clears it on
the way to any other state and every later pause keeps it (`update_paused`).
`recovery_window_fixed` follows a pause over any run of updates that stay in
it. -/
set_option autoImplicit false
namespace Ioniq5Ecan
namespace SafetySupervisor

open Library (CallMachine)

/-! ## One update -/

section Update
variable {config : SafetyConfig} {now : TimePoint} {vehicle : VehicleStateData}
  {panda : PandaHealth} {command : CommandSample} {self : SafetySupervisor}

structure Paused (before : SafetySupervisor) (now : TimePoint) (vehicle : VehicleStateData)
    (result : SafetySupervisor × SafetyDecision) : Prop where
  inTime : now < result.1.softDisableDeadline
  window : before.state = .softDisabling ∧
      result.1.softDisableDeadline = before.softDisableDeadline ∨
    before.state = .active ∧ vehicle.epsFault = true ∧
      result.1.softDisableDeadline = now + softDisableTime
  withheld : result.2.lateralAllowed = false
  remaining : result.2.softDisableRemainingMs =
    ((result.1.softDisableDeadline - now) / nanosecondsPerMillisecond).toNat.toUInt32

theorem update_paused
    (soft : (self.update config now vehicle panda command).1.state = .softDisabling) :
    Paused self now vehicle (self.update config now vehicle panda command) := by
  have exit := update_exit config self now vehicle panda command
  generalize self.update config now vehicle panda command = result at exit soft ⊢
  cases exit with
  | lostPanda _ => cases soft
  | passiveYaml _ _ => cases soft
  | gated _ _ observed observes exit =>
      subst observes
      cases exit with
      | latched faulted =>
          rw [answer_fst, faulted] at soft
          cases soft
      | unarmed | faulted | disarmed | waiting | armed | active => cases soft
      | paused gates _ _ deadline window inTime =>
          obtain ⟨state, kept⟩ := observe_paused config vehicle panda (self.setWaiting false)
            gates.notFault
          rw [state, kept] at window
          exact ⟨inTime, window, rfl, if_pos ⟨rfl, inTime⟩⟩

theorem update_active
    (active : (self.update config now vehicle panda command).1.state = .active) :
    vehicle.epsFault = false ∧ panda.controlsAllowed = true ∧
      (self.state = .softDisabling → now < self.softDisableDeadline) := by
  have exit := update_exit config self now vehicle panda command
  generalize self.update config now vehicle panda command = result at exit active ⊢
  cases exit with
  | lostPanda _ => cases active
  | passiveYaml _ _ => cases active
  | gated _ _ observed observes exit =>
      subst observes
      cases exit with
      | latched faulted =>
          rw [answer_fst, faulted] at active
          cases active
      | unarmed | faulted | disarmed | waiting | armed | paused => cases active
      | active gates _ noEpsFault controls inTime =>
          obtain ⟨state, kept⟩ := observe_paused config vehicle panda (self.setWaiting false)
            gates.notFault
          rw [state, kept] at inTime
          exact ⟨noEpsFault, controls, inTime⟩

theorem update_permitted
    (permitted : (self.update config now vehicle panda command).2.lateralAllowed = true ∨
      (self.update config now vehicle panda command).2.longitudinalAllowed = true) :
    isEngaged (self.update config now vehicle panda command).1.state = true := by
  have exit := update_exit config self now vehicle panda command
  generalize self.update config now vehicle panda command = result at exit permitted ⊢
  cases exit with
  | lostPanda _ => rcases permitted with lateral | longitudinal <;> contradiction
  | passiveYaml _ _ => rcases permitted with lateral | longitudinal <;> contradiction
  | gated _ _ observed _ exit =>
      cases exit with
      | unarmed | latched | faulted | disarmed | waiting | armed =>
          rcases permitted with lateral | longitudinal <;> contradiction
      | paused => rfl
      | active => rfl

theorem update_expired (soft : self.state = .softDisabling)
    (expired : self.softDisableDeadline ≤ now) :
    isEngaged (self.update config now vehicle panda command).1.state = false := by
  by_contra engaged
  have left : (self.update config now vehicle panda command).1.state = .active ∨
      (self.update config now vehicle panda command).1.state = .softDisabling := by
    simpa [isEngaged, or_iff_not_imp_left] using engaged
  rcases left with active | still
  · exact absurd ((update_active active).2.2 soft) (not_lt.mpr expired)
  · obtain ⟨inTime, ⟨_, kept⟩ | ⟨active, _⟩, _, _⟩ := update_paused still
    · rw [kept] at inTime
      exact absurd inTime (not_lt.mpr expired)
    · rw [soft] at active
      cases active

end Update

/-! ## Runs -/

/-- An update that does not leave the state SoftDisabling. -/
def LeavesPause (config : SafetyConfig) (self : SafetySupervisor) : SupervisorCall → Prop
  | .requestArm _ => False
  | .update now vehicle panda command =>
      (self.update config now vehicle panda command).1.state ≠ .softDisabling

/-- Paused until `deadline`, or withdrawn by a disarm request no update has seen yet. -/
def PausedUntil (deadline : TimePoint) (supervisor : SafetySupervisor) : Prop :=
  supervisor.state = .softDisabling ∧ supervisor.softDisableDeadline = deadline ∨
    isEngaged supervisor.state = false

section Runs
variable {config : SafetyConfig} {deadline : TimePoint} {self : SafetySupervisor}

theorem requestArm_kept (allowed : config.allowActuation = true) (notFault : self.state ≠ .fault) :
    (self.requestArm config true).1.state = self.state ∧
      (self.requestArm config true).1.softDisableDeadline = self.softDisableDeadline := by
  by_cases armed : self.armRequested = true
  · simp [requestArm, allowed, armed, notFault]
  · simp [requestArm, allowed, armed, notFault]

theorem requestArm_acknowledges (allowed : config.allowActuation = true)
    (faulted : self.state = .fault) : (self.requestArm config true).1.state = .passive := by
  by_cases armed : self.armRequested = true
  · simp [requestArm, allowed, armed, faulted]
  · simp [requestArm, allowed, armed, faulted]

theorem requestArm_withdraws : isEngaged (self.requestArm config false).1.state = false := by
  by_cases lost : self.state = .disconnected
  · simp [requestArm, lost, isEngaged]
  · simp [requestArm, lost, isEngaged]

theorem requestArm_pausedUntil (arm : Bool) (paused : PausedUntil deadline self) :
    PausedUntil deadline (self.requestArm config arm).1 := by
  cases arm with
  | false => exact Or.inr requestArm_withdraws
  | true =>
      cases allowed : config.allowActuation with
      | false => exact Or.inr (by simp [requestArm, allowed, isEngaged])
      | true =>
          by_cases faulted : self.state = .fault
          · exact Or.inr (by rw [requestArm_acknowledges allowed faulted]; rfl)
          · obtain ⟨state, kept⟩ := requestArm_kept allowed faulted
            rcases paused with ⟨soft, same⟩ | idle
            · exact Or.inl ⟨state.trans soft, kept.trans same⟩
            · exact Or.inr (by rw [state]; exact idle)

theorem update_pausedUntil {now : TimePoint} {vehicle : VehicleStateData} {panda : PandaHealth}
    {command : CommandSample} (paused : PausedUntil deadline self)
    (soft : (self.update config now vehicle panda command).1.state = .softDisabling) :
    (self.update config now vehicle panda command).1.softDisableDeadline = deadline := by
  rcases (update_paused soft).window with ⟨before, kept⟩ | ⟨active, _⟩
  · rcases paused with ⟨_, same⟩ | idle
    · exact kept.trans same
    · rw [before] at idle
      cases idle
  · rcases paused with ⟨before, _⟩ | idle
    · rw [active] at before
      cases before
    · rw [active] at idle
      cases idle

theorem run_pausedUntil (calls : List SupervisorCall) (paused : PausedUntil deadline self)
    (stays : (supervisorMachine config).Quiet (LeavesPause config) self calls) :
    PausedUntil deadline ((supervisorMachine config).run self calls) := by
  refine (supervisorMachine config).held_of_quiet (PausedUntil deadline) (LeavesPause config) ?_
    calls self paused stays
  intro state call held stay
  cases call with
  | requestArm arm => exact requestArm_pausedUntil arm held
  | update now vehicle panda command =>
      have soft : (state.update config now vehicle panda command).1.state = .softDisabling := by
        by_contra left
        exact stay left
      exact Or.inl ⟨soft, update_pausedUntil held soft⟩

end Runs

/-- The whole milliseconds from `now` to a point of time, as the diagnostics report them. -/
def wholeMilliseconds (now deadline : TimePoint) : Nat :=
  ((deadline - now) / nanosecondsPerMillisecond).toNat

theorem remaining_fits {start now deadline : TimePoint}
    (window : deadline = start + softDisableTime) (later : start ≤ now) :
    (wholeMilliseconds now deadline).toUInt32.toNat = wholeMilliseconds now deadline := by
  have bound : wholeMilliseconds now deadline ≤ 3000 := by
    have elapsed : (0 : Int) ≤ now - start := Int.sub_nonneg.mpr later
    unfold wholeMilliseconds nanosecondsPerMillisecond
    rw [window, softDisableTime, seconds]
    omega
  have fits : wholeMilliseconds now deadline < 2 ^ 32 := by omega
  simpa using Nat.mod_eq_of_lt fits

/-- The window an EPS fault opens keeps its deadline while the pause lasts, withholds steering,
ends at the deadline, and is left for Active only before it. -/
theorem recovery_window_fixed (config : AcceptedConfig) (calls later : List SupervisorCall)
    (start : TimePoint) (vehicle : VehicleStateData) (panda : PandaHealth)
    (command : CommandSample) :
    let machine := supervisorMachine config.toSafetyConfig
    let before := machine.run {} calls
    let entry := before.update config.toSafetyConfig start vehicle panda command
    let current := machine.run entry.1 later
    before.state = .active → entry.1.state = .softDisabling →
    machine.Quiet (LeavesPause config.toSafetyConfig) entry.1 later →
      (entry.2.lateralAllowed = false ∧ entry.2.softDisableRemainingMs = 3000) ∧
      (current.state = .softDisabling →
        current.softDisableDeadline = start + softDisableTime) ∧
      ∀ (now : TimePoint) (vehicle' : VehicleStateData) (panda' : PandaHealth)
        (command' : CommandSample), start ≤ now →
        let next := current.update config.toSafetyConfig now vehicle' panda' command'
        (next.1.state = .softDisabling →
          next.1.softDisableDeadline = start + softDisableTime ∧ next.2.lateralAllowed = false ∧
            next.2.softDisableRemainingMs.toNat =
              wholeMilliseconds now (start + softDisableTime)) ∧
        (current.state = .softDisabling → start + softDisableTime ≤ now →
          next.1.state ≠ .softDisabling ∧ next.2.lateralAllowed = false ∧
            next.2.longitudinalAllowed = false) ∧
        (current.state = .softDisabling → next.1.state = .active →
          now < start + softDisableTime ∧ vehicle'.epsFault = false ∧
            panda'.controlsAllowed = true) := by
  intro machine before entry current active entered stays
  have opened := update_paused entered
  have deadline : entry.1.softDisableDeadline = start + softDisableTime := by
    rcases opened.window with ⟨soft, _⟩ | ⟨_, _, set⟩
    · rw [active] at soft
      cases soft
    · exact set
  have held : PausedUntil (start + softDisableTime) current :=
    run_pausedUntil later (Or.inl ⟨entered, deadline⟩) stays
  have kept : current.state = .softDisabling →
      current.softDisableDeadline = start + softDisableTime := by
    intro soft
    rcases held with ⟨_, same⟩ | idle
    · exact same
    · rw [soft] at idle
      cases idle
  refine ⟨⟨opened.withheld, ?_⟩, kept, ?_⟩
  · have whole : start + softDisableTime - start = seconds 3 := add_sub_cancel_left ..
    rw [opened.remaining, deadline, whole]
    rfl
  intro now vehicle' panda' command' after next
  refine ⟨fun soft => ?_, fun soft expired => ?_, fun soft returned => ?_⟩
  · have same := update_pausedUntil held soft
    have paused := update_paused soft
    refine ⟨same, paused.withheld, ?_⟩
    rw [paused.remaining, same]
    exact remaining_fits rfl after
  · have ended := @update_expired config.toSafetyConfig now vehicle' panda' command' current soft
      (by rw [kept soft]; exact expired)
    refine ⟨fun still => ?_, ?_, ?_⟩
    · rw [still] at ended
      cases ended
    · by_contra permitted
      rw [update_permitted (Or.inl (by simpa using permitted))] at ended
      cases ended
    · by_contra permitted
      rw [update_permitted (Or.inr (by simpa using permitted))] at ended
      cases ended
  · obtain ⟨clear, controls, inTime⟩ := update_active returned
    rw [kept soft] at inTime
    exact ⟨inTime soft, clear, controls⟩

def fixtureUpdateAt (now : TimePoint) (vehicle : VehicleStateData) : SupervisorCall :=
  .update now vehicle { fixturePanda with updatedAt := now } { fixtureCommand with receivedAt := now }

/-- One millisecond before the deadline the pause still reports one millisecond. -/
theorem repeated_fault_keeps_window :
    let machine := supervisorMachine actuationConfig.toSafetyConfig
    let faulted : VehicleStateData := { fixtureVehicle with laneKeepButtonEvents := 1, epsFault := true }
    let entry := (machine.run {} lateralCalls).update actuationConfig.toSafetyConfig fixtureNow
      faulted fixturePanda fixtureCommand
    let current := machine.run entry.1 [fixtureUpdateAt (seconds 2) faulted]
    let last : TimePoint := fixtureNow + softDisableTime - nanosecondsPerMillisecond
    let next := current.update actuationConfig.toSafetyConfig last faulted
      { fixturePanda with updatedAt := last } { fixtureCommand with receivedAt := last }
    next.1.state = .softDisabling ∧ next.2.softDisableRemainingMs.toNat = 1 := by
  intro machine faulted entry current last next
  have soft : next.1.state = .softDisabling := by decide +kernel
  have window := (recovery_window_fixed actuationConfig lateralCalls
    [fixtureUpdateAt (seconds 2) faulted] fixtureNow faulted fixturePanda fixtureCommand
    (by decide +kernel) (by decide +kernel) ⟨?_, trivial⟩).2.2 last faulted
      { fixturePanda with updatedAt := last } { fixtureCommand with receivedAt := last }
      (by decide +kernel)
  · exact ⟨soft, (window.1 soft).2.2.trans (by decide +kernel)⟩
  · intro left
    exact left (by decide +kernel)

end SafetySupervisor
end Ioniq5Ecan
