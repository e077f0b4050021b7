import Ioniq5Ecan.Supervisor.ButtonMemory
import Ioniq5Ecan.Supervisor.RecoveryWindow

/-! # EPS faults that outlive their window

A pause ends in Fault at its deadline, but three ordinary inputs end it earlier
without a fault and with the selection kept (`EndsPause`).  Where none of them
occurs, what follows the window is `Spent`: nothing usable is selected, and
nothing the firmware flags could select again. -/
set_option autoImplicit false
namespace Ioniq5Ecan
namespace SafetySupervisor

open Library (CallMachine)

/-! ## Why an update ends Armed -/

section Armed
variable (config : SafetyConfig) (now : TimePoint) (vehicle : VehicleStateData)
  (panda : PandaHealth) (command : CommandSample)

inductive ArmedCause (self : SafetySupervisor) : Prop
  | idle (notEngaged : isEngaged self.state = false)
  | deadman (fresh : commandFresh config now command = true) (valid : command.valid = true)
      (released : command.enable = false)
  | standby (standby : standbyMode config panda = true)
      (mode : configuredMode config panda = true ∨ isEngaged self.state = false)
  | unselected (none : (self.lateralEnabled ||
      config.allowLongitudinal && self.longitudinalEnabled) = false)
  | blocked (noEpsFault : vehicle.epsFault = false)
      (inTime : self.state = .softDisabling → now < self.softDisableDeadline)

variable {config now vehicle panda command}
variable {self : SafetySupervisor} {observed : Observed}

theorem drive_armed
    (armed : (self.drive config now vehicle panda observed).1.state = .armed) :
    ArmedCause config now vehicle panda command self := by
  unfold drive at armed
  dsimp only at armed
  by_cases none : (self.lateralEnabled || config.allowLongitudinal && self.longitudinalEnabled)
      = false
  · exact .unselected none
  rw [if_neg (by
    intro unselected
    obtain ⟨noLateral, noLongitudinal⟩ := Bool.and_eq_true_iff.mp unselected
    simp_all)] at armed
  by_cases waiting : (vehicle.epsFault && self.state != .softDisabling && self.state != .active)
      = true
  · refine .idle ?_
    obtain ⟨⟨_, notSoft⟩, notActive⟩ : (vehicle.epsFault = true ∧ self.state ≠ .softDisabling) ∧
        self.state ≠ .active := by simpa using waiting
    simp [isEngaged, notSoft, notActive]
  rw [if_neg waiting] at armed
  by_cases entering : (vehicle.epsFault && self.state != .softDisabling) = true
  · -- The update that opens the pause falls into its body.
    have eps : vehicle.epsFault = true := (Bool.and_eq_true_iff.mp entering).1
    rw [if_pos entering, if_pos (by rfl), if_pos (by simp [eps] : (vehicle.epsFault ||
      !panda.controlsAllowed) = true)] at armed
    split at armed
    · cases armed
    · cases armed
  rw [if_neg entering] at armed
  by_cases soft : self.state = .softDisabling
  · rw [if_pos (by simp [soft])] at armed
    split at armed
    · cases armed
    rename_i inTime
    by_cases paused : (vehicle.epsFault || !panda.controlsAllowed) = true
    · rw [if_pos paused] at armed
      cases armed
    · obtain ⟨clear, _⟩ : vehicle.epsFault = false ∧ panda.controlsAllowed = true := by
        simpa using paused
      exact .blocked clear (fun _ => by simpa using inTime)
  · exact .blocked (by simpa [soft] using entering) (fun still => absurd still soft)

theorem gateCommand_armed
    (mode : configuredMode config panda = true ∨ isEngaged self.state = false)
    (armed : (self.gateCommand config now vehicle panda command observed).1.state = .armed) :
    ArmedCause config now vehicle panda command self := by
  have exit := @gateCommand_cases config now vehicle panda command self observed
  generalize self.gateCommand config now vehicle panda command observed = result at exit armed
  cases exit with
  | faulted reason explained => cases armed
  | disarmed stale => cases armed
  | waiting profile stale notSoft => cases armed
  | deadman fresh valid released => exact .deadman fresh valid released
  | standby standby => exact .standby standby mode
  | unready notEngaged => exact .idle notEngaged
  | driven commandGates => exact drive_armed armed

theorem gateArm_armed
    (armed : (self.gateArm config now vehicle panda command observed).1.state = .armed) :
    ArmedCause config now vehicle panda command self := by
  have exit := @gateArm_cases config now vehicle panda command self observed
  generalize self.gateArm config now vehicle panda command observed = result at exit armed
  cases exit with
  | unarmed unarmed notFault => cases armed
  | latched faulted =>
      rw [answer_fst, faulted] at armed
      cases armed
  | faulted reason explained => cases armed
  | cancelled wasArmed => cases armed
  | drifted wasArmed notFault notEngaged => exact .idle notEngaged
  | passed gates => exact gateCommand_armed (gates.mode.imp_right And.right) armed

theorem update_armed
    (armed : (self.update config now vehicle panda command).1.state = .armed) :
    ArmedCause config now vehicle panda command
      ((self.setWaiting false).observe config vehicle panda).supervisor := by
  unfold update at armed
  dsimp only at armed
  split_ifs at armed
  · cases armed
  · cases armed
  · exact gateArm_armed armed

end Armed

/-! ## After the window -/

/-- The two selection flags of a Panda sample. -/
structure FirmwareFlags where
  lateral : Bool := false
  longitudinal : Bool := false
  deriving DecidableEq

/-- No driver intent: the counters stand still, no firmware flag rises, nobody arms. -/
def NoIntent (counters : PressCounters) : FirmwareFlags → List SupervisorCall → Prop
  | _, [] => True
  | flags, .requestArm arm :: rest => arm = false ∧ NoIntent counters flags rest
  | flags, .update _ vehicle panda _ :: rest =>
      vehicle.presses = counters ∧
        (panda.lateralSelected = true → flags.lateral = true) ∧
        (panda.longitudinalSelected = true → flags.longitudinal = true) ∧
        NoIntent counters ⟨panda.lateralSelected, panda.longitudinalSelected⟩ rest

/-- Nothing usable is selected, and no firmware flag is up that would select it. -/
structure Spent (config : SafetyConfig) (flags : FirmwareFlags) (supervisor : SafetySupervisor) :
    Prop where
  noLateral : supervisor.lateralEnabled = false
  noLongitudinal : config.allowLongitudinal = true → supervisor.longitudinalEnabled = false
  session : config.resumeOnCommandReturn = true → supervisor.armRequested = true →
    flags.lateral = false ∧ (config.allowLongitudinal = true →
      flags.longitudinal = false ∨ supervisor.longitudinalLatchedOff = true)

theorem Disengaged.spent {supervisor : SafetySupervisor} (off : supervisor.Disengaged)
    (config : SafetyConfig) (flags : FirmwareFlags) : Spent config flags supervisor :=
  ⟨off.noLateral, fun _ => off.noLongitudinal, fun _ armed => by
    rw [off.unarmed] at armed
    cases armed⟩

section Spent
variable {config : SafetyConfig} {now : TimePoint} {vehicle : VehicleStateData}
  {panda : PandaHealth} {command : CommandSample} {self : SafetySupervisor}
  {flags : FirmwareFlags}

theorem selectedChannels_spent (spent : Spent config flags self)
    (same : vehicle.presses = self.consumed)
    (lateral : panda.lateralSelected = true → flags.lateral = true)
    (longitudinal : panda.longitudinalSelected = true → flags.longitudinal = true) :
    Spent config ⟨panda.lateralSelected, panda.longitudinalSelected⟩
      (self.selectedChannels config vehicle panda).1 := by
  cases session : config.resumeOnCommandReturn with
  | false =>
      rw [selectedChannels_repeated session same]
      exact ⟨spent.noLateral, spent.noLongitudinal, fun on => by rw [session] at on; cases on⟩
  | true =>
      cases armed : self.armRequested with
      | false =>
          have recorded : (self.recordButtons vehicle).armRequested = false := armed
          have unchanged : self.selectedChannels config vehicle panda =
              (self.recordButtons vehicle, false) :=
            selectChannels_unarmed config vehicle panda recorded _ _
          rw [unchanged]
          refine ⟨spent.noLateral, spent.noLongitudinal, fun _ on => ?_⟩
          have before : self.armRequested = true := on
          rw [armed] at before
          cases before
      | true =>
          obtain ⟨noLateral, masked⟩ := spent.session session armed
          have lateralOff : panda.lateralSelected = false := by
            by_contra on
            rw [lateral (by simpa using on)] at noLateral
            cases noLateral
          have noSet : self.setButtonEvent vehicle = false := by
            obtain ⟨_, set⟩ := (PressCounters.mk.injEq ..).mp same
            simp [setButtonEvent, set]
          have recorded : (self.recordButtons vehicle).armRequested = true := armed
          have selected : self.selectedChannels config vehicle panda =
              (self.recordButtons vehicle).selectFromFirmware vehicle panda false := by
            rw [← noSet]
            exact selectChannels_session config vehicle panda recorded session _ _
          have later : config.allowLongitudinal = true → panda.longitudinalSelected = false ∨
              self.longitudinalLatchedOff = true := by
            intro allowed
            rcases masked allowed with unselected | latched
            · refine Or.inl ?_
              by_contra on
              rw [longitudinal (by simpa using on)] at unselected
              cases unselected
            · exact Or.inr latched
          rw [selected]
          refine ⟨lateralOff, fun allowed => ?_, fun _ _ => ⟨lateralOff, later⟩⟩
          rcases later allowed with unselected | latched
          · simp [selectFromFirmware, unselected]
          · simp [selectFromFirmware, recordButtons, latched]

theorem Narrowed.spent {before after : SafetySupervisor} (narrowed : Narrowed before after)
    (spent : Spent config flags before) : Spent config flags after := by
  refine ⟨?_, fun allowed => ?_, fun session armed => ?_⟩
  · by_contra on
    have earlier := narrowed.lateral (by simpa using on)
    rw [spent.noLateral] at earlier
    cases earlier
  · by_contra on
    have earlier := narrowed.longitudinal (by simpa using on)
    rw [spent.noLongitudinal allowed] at earlier
    cases earlier
  · obtain ⟨noLateral, masked⟩ := spent.session session (narrowed.armed armed)
    exact ⟨noLateral, fun allowed => (masked allowed).imp id narrowed.latched⟩

theorem update_spent (spent : Spent config flags self)
    (same : vehicle.presses = self.consumed)
    (lateral : panda.lateralSelected = true → flags.lateral = true)
    (longitudinal : panda.longitudinalSelected = true → flags.longitudinal = true) :
    Spent config ⟨panda.lateralSelected, panda.longitudinalSelected⟩
      (self.update config now vehicle panda command).1 := by
  by_cases reads : readsButtons config now panda = true
  · have restarted : Spent config flags (self.setWaiting false) :=
      ⟨spent.noLateral, spent.noLongitudinal, spent.session⟩
    exact (update_narrowed reads).spent (selectedChannels_spent restarted same lateral longitudinal)
  · obtain ⟨_, off⟩ := @update_unread config now vehicle panda command self (by simpa using reads)
    exact off.spent config _

theorem Spent.withheld
    (spent : Spent config flags (self.update config now vehicle panda command).1) :
    (self.update config now vehicle panda command).2.lateralAllowed = false ∧
      (self.update config now vehicle panda command).2.longitudinalAllowed = false := by
  obtain ⟨armedEq, within⟩ := @update_longitudinal config now vehicle panda command self
  constructor
  · by_contra permitted
    have armed := update_lateralAllowed (by simpa using permitted)
    rw [update_lateralArmed, spent.noLateral] at armed
    cases armed
  · by_contra permitted
    have armed := within (by simpa using permitted)
    rw [armedEq] at armed
    obtain ⟨allowed, enabled⟩ := Bool.and_eq_true_iff.mp armed
    rw [spent.noLongitudinal allowed] at enabled
    cases enabled

end Spent

/-! ## Through the window -/

/-- The inputs that end a pause without a fault, with the selection kept: a released deadman,
the standby mode where it is the configured one, and, under a command session that lets the
brake disengage steering, the brake. -/
inductive EndsPause (config : SafetyConfig) (now : TimePoint) (vehicle : VehicleStateData)
    (panda : PandaHealth) (command : CommandSample) : Prop
  | deadman (fresh : commandFresh config now command = true) (valid : command.valid = true)
      (released : command.enable = false)
  | standby (configured : configuredMode config panda = true)
      (standby : standbyMode config panda = true)
  | brake (session : config.resumeOnCommandReturn = true)
      (configured : config.lateralDisengageOnBrake = true) (pressed : vehicle.brakePressed = true)

section Window
variable {config : SafetyConfig} {now : TimePoint} {vehicle : VehicleStateData}
  {panda : PandaHealth} {command : CommandSample} {self : SafetySupervisor}

theorem observe_spent (notFault :
      ((self.setWaiting false).observe config vehicle panda).supervisor.state ≠ .fault)
    (kept : ¬ EndsPause config now vehicle panda command)
    (none : (((self.setWaiting false).observe config vehicle panda).supervisor.lateralEnabled ||
      config.allowLongitudinal &&
        ((self.setWaiting false).observe config vehicle panda).supervisor.longitudinalEnabled)
      = false) :
    Spent config ⟨panda.lateralSelected, panda.longitudinalSelected⟩
      ((self.setWaiting false).observe config vehicle panda).supervisor := by
  obtain ⟨noLateral, noLongitudinal⟩ := Bool.or_eq_false_iff.mp none
  have off : config.allowLongitudinal = true →
      ((self.setWaiting false).observe config vehicle panda).supervisor.longitudinalEnabled =
        false := by
    intro allowed
    simpa [allowed] using noLongitudinal
  refine ⟨noLateral, off, fun session armed => ?_⟩
  have before : (self.setWaiting false).armRequested = true := by
    rcases observe_arm config vehicle panda (self.setWaiting false) with same | faulted
    · exact same.armRequested.symm.trans armed
    · exact absurd faulted.state notFault
  obtain ⟨lateral, masked⟩ := @selectedChannels_masked config vehicle panda
    (self.setWaiting false) session before
  have notBraked : (vehicle.brakePressed && config.lateralDisengageOnBrake) = false := by
    by_contra braked
    obtain ⟨pressed, configured⟩ := Bool.and_eq_true_iff.mp (Bool.eq_true_of_not_eq_false braked)
    exact kept (.brake session configured pressed)
  rw [observe_lateral config vehicle panda _ notFault, lateral, notBraked] at noLateral
  exact ⟨by simpa using noLateral,
    fun allowed => observe_masked config vehicle panda masked notFault (off allowed)⟩

/-- One update from the pause: under the fault or past the deadline it stays, or ends spent. -/
theorem pause_step (inv : ArmInvariant config self) (soft : self.state = .softDisabling)
    (kept : ¬ EndsPause config now vehicle panda command)
    (ended : vehicle.epsFault = true ∨ self.softDisableDeadline ≤ now) :
    (self.update config now vehicle panda command).1.state = .softDisabling ∨
      Spent config ⟨panda.lateralSelected, panda.longitudinalSelected⟩
        (self.update config now vehicle panda command).1 := by
  have after := update_invariant config now vehicle panda command inv
  have armedCause := @update_armed config now vehicle panda command self
  have exit := update_exit config self now vehicle panda command
  generalize self.update config now vehicle panda command = result at exit after armedCause ⊢
  cases exit with
  | lostPanda _ => exact Or.inr (Disengaged.spent ⟨rfl, rfl, rfl⟩ config _)
  | passiveYaml _ _ => exact Or.inr (Disengaged.spent ⟨rfl, rfl, rfl⟩ config _)
  | gated _ _ observed observes exit =>
      subst observes
      have observedSoft : ((self.setWaiting false).observe config vehicle panda).supervisor.state ≠
          .fault →
          ((self.setWaiting false).observe config vehicle panda).supervisor.state =
              .softDisabling ∧
            ((self.setWaiting false).observe config vehicle panda).supervisor.softDisableDeadline =
              self.softDisableDeadline := by
        intro notFault
        obtain ⟨state, deadline⟩ := observe_paused config vehicle panda (self.setWaiting false)
          notFault
        exact ⟨state.trans soft, deadline⟩
      have notOver : vehicle.epsFault = false → ¬ now < self.softDisableDeadline := by
        intro clear inTime
        rcases ended with eps | expired
        · rw [clear] at eps
          cases eps
        · exact absurd inTime (not_lt.mpr expired)
      cases exit with
      | unarmed unarmed _ => exact Or.inr ((after.unarmed unarmed).spent config _)
      | latched faulted =>
          exact Or.inr ((after.unarmed (after.faulted faulted).1).spent config _)
      | faulted reason _ => exact Or.inr ((fault_disengaged _ reason).spent config _)
      | disarmed _ reason _ => exact Or.inr ((disarm_disengaged _ reason).spent config _)
      | waiting armed _ _ notSoft =>
          exfalso
          rcases observe_arm config vehicle panda (self.setWaiting false) with same | faulted
          · exact notSoft (same.state.trans soft)
          · rw [faulted.disengaged.unarmed] at armed
            cases armed
      | armed _ notFault reason _ _ =>
          right
          obtain ⟨state, deadline⟩ := observedSoft notFault
          cases armedCause rfl with
          | idle notEngaged => rw [state] at notEngaged; cases notEngaged
          | deadman fresh valid released => exact absurd (.deadman fresh valid released) kept
          | standby standby mode =>
              rcases mode with configured | notEngaged
              · exact absurd (.standby configured standby) kept
              · rw [state] at notEngaged; cases notEngaged
          | unselected none =>
              have spent := observe_spent notFault kept none
              exact ⟨spent.noLateral, spent.noLongitudinal, spent.session⟩
          | blocked clear inTime =>
              rw [deadline] at inTime
              exact absurd (inTime state) (notOver clear)
      | paused => exact Or.inl rfl
      | active gates _ clear _ inTime =>
          obtain ⟨state, deadline⟩ := observedSoft gates.notFault
          rw [deadline] at inTime
          exact absurd (inTime state) (notOver clear)

/-- What holds from the opening of the window on. -/
structure Outliving (config : SafetyConfig) (deadline : TimePoint) (counters : PressCounters)
    (flags : FirmwareFlags) (supervisor : SafetySupervisor) : Prop where
  invariant : ArmInvariant config supervisor
  consumed : supervisor.consumed = counters
  phase : supervisor.state = .softDisabling ∧ supervisor.softDisableDeadline = deadline ∨
    Spent config flags supervisor

variable {deadline : TimePoint} {counters : PressCounters} {flags : FirmwareFlags}

theorem update_same_consumed (consumed : self.consumed = counters)
    (same : vehicle.presses = counters) :
    (self.update config now vehicle panda command).1.consumed = counters := by
  rw [update_consumed]
  split
  · exact same
  · exact consumed

theorem update_outliving (outliving : Outliving config deadline counters flags self)
    (same : vehicle.presses = counters)
    (lateral : panda.lateralSelected = true → flags.lateral = true)
    (longitudinal : panda.longitudinalSelected = true → flags.longitudinal = true)
    (kept : ¬ EndsPause config now vehicle panda command)
    (ended : vehicle.epsFault = true ∨ deadline ≤ now) :
    Outliving config deadline counters ⟨panda.lateralSelected, panda.longitudinalSelected⟩
      (self.update config now vehicle panda command).1 := by
  refine ⟨update_invariant config now vehicle panda command outliving.invariant,
    update_same_consumed outliving.consumed same, ?_⟩
  rcases outliving.phase with ⟨soft, same'⟩ | spent
  · rw [← same'] at ended
    rcases pause_step outliving.invariant soft kept ended with still | spent
    · refine Or.inl ⟨still, ?_⟩
      exact update_pausedUntil (Or.inl ⟨soft, same'⟩) still
    · exact Or.inr spent
  · exact Or.inr (update_spent spent (same.trans outliving.consumed.symm) lateral longitudinal)

/-- Under the fault, and with none of the inputs that end a pause quietly. -/
def EpsPersists (config : SafetyConfig) (calls : List SupervisorCall) : Prop :=
  ∀ now vehicle panda command, SupervisorCall.update now vehicle panda command ∈ calls →
    vehicle.epsFault = true ∧ ¬ EndsPause config now vehicle panda command

theorem run_outliving (window rest : List SupervisorCall) :
    ∀ (self : SafetySupervisor) (flags : FirmwareFlags),
      Outliving config deadline counters flags self → EpsPersists config window →
      NoIntent counters flags (window ++ rest) →
        ∃ last, Outliving config deadline counters last
            ((supervisorMachine config).run self window) ∧ NoIntent counters last rest := by
  induction window with
  | nil => intro self flags outliving _ silent; exact ⟨flags, outliving, silent⟩
  | cons call window ih =>
      intro self flags outliving persists silent
      have later : EpsPersists config window := fun now vehicle panda command member =>
        persists now vehicle panda command (List.mem_cons_of_mem _ member)
      cases call with
      | requestArm arm =>
          obtain ⟨rfl, silentRest⟩ := silent
          refine ih _ flags ⟨requestArm_invariant config outliving.invariant false,
            (@requestArm_consumed config self false).trans outliving.consumed, Or.inr ?_⟩ later silentRest
          exact (requestArm_off_disengaged config _).spent config flags
      | update now vehicle panda command =>
          obtain ⟨same, lateral, longitudinal, silentRest⟩ := silent
          obtain ⟨eps, kept⟩ := persists now vehicle panda command (List.mem_cons_self ..)
          exact ih _ _ (update_outliving outliving same lateral longitudinal kept (Or.inl eps))
            later silentRest

theorem run_spent (calls rest : List SupervisorCall) :
    ∀ (self : SafetySupervisor) (flags : FirmwareFlags),
      Spent config flags self → self.consumed = counters →
      NoIntent counters flags (calls ++ rest) →
        ∃ last, Spent config last ((supervisorMachine config).run self calls) ∧
          ((supervisorMachine config).run self calls).consumed = counters ∧
          NoIntent counters last rest := by
  induction calls with
  | nil => intro self flags spent consumed silent; exact ⟨flags, spent, consumed, silent⟩
  | cons call calls ih =>
      intro self flags spent consumed silent
      cases call with
      | requestArm arm =>
          obtain ⟨rfl, silentRest⟩ := silent
          exact ih _ flags ((requestArm_off_disengaged config _).spent config flags)
            ((@requestArm_consumed config self false).trans consumed) silentRest
      | update now vehicle panda command =>
          obtain ⟨same, lateral, longitudinal, silentRest⟩ := silent
          exact ih _ _ (update_spent spent (same.trans consumed.symm) lateral longitudinal)
            (update_same_consumed consumed same) silentRest

end Window

def Unpermitted (decision : SafetyDecision) : Prop :=
  decision.lateralAllowed = false ∧ decision.longitudinalAllowed = false

/-- An EPS fault that lasts through its window, with no input that ends the pause quietly, is
resumed by nothing but new driver intent. -/
theorem outlived_fault_stays_off (config : AcceptedConfig) (calls window : List SupervisorCall)
    (start finish : TimePoint) (vehicle faulted : VehicleStateData) (panda pandaAfter : PandaHealth)
    (command commandAfter : CommandSample) :
    let machine := supervisorMachine config.toSafetyConfig
    let before := machine.run {} calls
    let entry := before.update config.toSafetyConfig start vehicle panda command
    let last := (machine.run entry.1 window).update config.toSafetyConfig finish faulted pandaAfter
      commandAfter
    before.state = .active → entry.1.state = .softDisabling →
    EpsPersists config.toSafetyConfig window →
    ¬ EndsPause config.toSafetyConfig finish faulted pandaAfter commandAfter →
    start + softDisableTime ≤ finish →
    NoIntent vehicle.presses ⟨panda.lateralSelected, panda.longitudinalSelected⟩
      (window ++ [.update finish faulted pandaAfter commandAfter]) →
      Unpermitted last.2 ∧
      ∀ (later : List SupervisorCall) (now : TimePoint) (vehicle' : VehicleStateData)
        (panda' : PandaHealth) (command' : CommandSample),
        NoIntent vehicle.presses ⟨panda.lateralSelected, panda.longitudinalSelected⟩
          (window ++ .update finish faulted pandaAfter commandAfter ::
            (later ++ [.update now vehicle' panda' command'])) →
        Unpermitted ((machine.run last.1 later).update config.toSafetyConfig now vehicle' panda'
          command').2 := by
  intro machine before entry last active entered persists kept expired silent
  have opened : Outliving config.toSafetyConfig (start + softDisableTime) vehicle.presses
      ⟨panda.lateralSelected, panda.longitudinalSelected⟩ entry.1 := by
    refine ⟨update_invariant config.toSafetyConfig start vehicle panda command
      (run_invariant config.toSafetyConfig calls), ?_, Or.inl ⟨entered, ?_⟩⟩
    · have reads : readsButtons config.toSafetyConfig start panda = true :=
        update_reads_of_engaged (by rw [entered]; rfl)
      exact update_consumed.trans (if_pos reads)
    · rcases (update_paused entered).window with ⟨soft, _⟩ | ⟨_, _, set⟩
      · rw [active] at soft
        cases soft
      · exact set
  -- The update past the deadline leaves nothing usable selected.
  have spentAfter : ∀ rest, NoIntent vehicle.presses
      ⟨panda.lateralSelected, panda.longitudinalSelected⟩
        (window ++ .update finish faulted pandaAfter commandAfter :: rest) →
      Spent config.toSafetyConfig ⟨pandaAfter.lateralSelected, pandaAfter.longitudinalSelected⟩
          last.1 ∧ last.1.consumed = vehicle.presses ∧
        NoIntent vehicle.presses
          ⟨pandaAfter.lateralSelected, pandaAfter.longitudinalSelected⟩ rest := by
    intro rest silentRest
    obtain ⟨flags, current, same, lateral, longitudinal, silentTail⟩ :=
      run_outliving window _ _ _ opened persists silentRest
    have next := update_outliving current same lateral longitudinal kept (Or.inr expired)
    refine ⟨?_, next.consumed, silentTail⟩
    rcases current.phase with ⟨soft, deadline⟩ | spent
    · rcases next.phase with ⟨still, _⟩ | spent
      · have ended := @update_expired config.toSafetyConfig finish faulted pandaAfter commandAfter _
          soft (by rw [deadline]; exact expired)
        rw [still] at ended
        cases ended
      · exact spent
    · exact update_spent spent (same.trans current.consumed.symm) lateral longitudinal
  refine ⟨(spentAfter [] silent).1.withheld, ?_⟩
  intro later now vehicle' panda' command' silentLater
  obtain ⟨spent, consumed, silentRest⟩ := spentAfter _ silentLater
  obtain ⟨flags, spentLater, consumedLater, same, lateral, longitudinal, _⟩ :=
    run_spent later _ _ _ spent consumed silentRest
  exact (update_spent spentLater (same.trans consumedLater.symm) lateral longitudinal).withheld

def epsFaulted : VehicleStateData :=
  { fixtureVehicle with laneKeepButtonEvents := 1, epsFault := true }

def fixturePandaAt (now : TimePoint) : PandaHealth := { fixturePanda with updatedAt := now }

def fixtureCommandAt (now : TimePoint) (enable : Bool) : CommandSample :=
  { fixtureCommand with enable := enable, receivedAt := now }

theorem timed_out_fault_withheld :
    let machine := supervisorMachine actuationConfig.toSafetyConfig
    let entry := (machine.run {} lateralCalls).update actuationConfig.toSafetyConfig fixtureNow
      epsFaulted fixturePanda fixtureCommand
    let window : List SupervisorCall := [.update (seconds 2) epsFaulted (fixturePandaAt (seconds 2))
      (fixtureCommandAt (seconds 2) true)]
    Unpermitted ((machine.run entry.1 window).update actuationConfig.toSafetyConfig (seconds 4)
      epsFaulted (fixturePandaAt (seconds 4)) (fixtureCommandAt (seconds 4) true)).2 := by
  intro machine entry window
  have enabled : ∀ now, ¬ EndsPause actuationConfig.toSafetyConfig now epsFaulted
      (fixturePandaAt now) (fixtureCommandAt now true) := by
    intro now ends
    cases ends with
    | deadman _ _ released => cases released
    | standby _ standby => cases standby
    | brake session _ _ => cases session
  refine (outlived_fault_stays_off actuationConfig lateralCalls window fixtureNow (seconds 4)
    epsFaulted epsFaulted fixturePanda (fixturePandaAt (seconds 4)) fixtureCommand
    (fixtureCommandAt (seconds 4) true) (by decide +kernel) (by decide +kernel) ?_ (enabled _)
    (by decide) ⟨rfl, id, id, rfl, id, id, trivial⟩).1
  intro now vehicle panda command member
  obtain ⟨rfl, rfl, rfl, rfl⟩ := (SupervisorCall.update.injEq ..).mp (List.mem_singleton.mp member)
  exact ⟨rfl, enabled _⟩

/-- Releasing the deadman during the window forgets the deadline: the fault is still
there at the deadline, and the next clear sample permits steering again. -/
theorem released_deadman_outlives_window :
    let machine := supervisorMachine actuationConfig.toSafetyConfig
    let before := machine.run {} lateralCalls
    let entry := before.update actuationConfig.toSafetyConfig fixtureNow epsFaulted fixturePanda
      fixtureCommand
    let window : List SupervisorCall := [.update (seconds 2) epsFaulted (fixturePandaAt (seconds 2))
      (fixtureCommandAt (seconds 2) false)]
    let finish : SupervisorCall := .update (seconds 4) epsFaulted (fixturePandaAt (seconds 4))
      (fixtureCommandAt (seconds 4) true)
    let clear : VehicleStateData := { epsFaulted with epsFault := false }
    let resumed := (machine.run entry.1 (window ++ [finish])).update actuationConfig.toSafetyConfig
      (seconds 5) clear (fixturePandaAt (seconds 5)) (fixtureCommandAt (seconds 5) true)
    before.state = .active ∧ entry.1.state = .softDisabling ∧
      fixtureNow + softDisableTime ≤ seconds 4 ∧
      NoIntent epsFaulted.presses ⟨fixturePanda.lateralSelected, fixturePanda.longitudinalSelected⟩
        (window ++ finish :: [.update (seconds 5) clear (fixturePandaAt (seconds 5))
          (fixtureCommandAt (seconds 5) true)]) ∧
      resumed.2.state = .active ∧ resumed.2.lateralAllowed = true := by
  refine ⟨by decide +kernel, by decide +kernel, by decide,
    ⟨rfl, id, id, rfl, id, id, rfl, id, id, trivial⟩, by decide +kernel, by decide +kernel⟩

end SafetySupervisor
end Ioniq5Ecan
