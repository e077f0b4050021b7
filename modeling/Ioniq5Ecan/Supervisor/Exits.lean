import Ioniq5Ecan.Supervisor.Update

/-! # The exits of `update`

`update_exit` says once where a call of `update` can leave from and what was
tested on the way; the temporal laws of the supervisor are derived from it and
from the field lemmas of `observe`, never from the branches themselves.  Laws
that need the reason of a gate use `gateArm_cases` and `gateCommand_cases`. -/
set_option autoImplicit false
namespace Ioniq5Ecan
namespace SafetySupervisor

open Library (Double)

section Fields
variable (self : SafetySupervisor) (next : ControlState) (reason : String)

@[simp] theorem transition_state : (self.transition next reason).state = next := rfl

@[simp] theorem transition_armRequested :
    (self.transition next reason).armRequested = self.armRequested := rfl

@[simp] theorem transition_longitudinalEnabled :
    (self.transition next reason).longitudinalEnabled = self.longitudinalEnabled := rfl

@[simp] theorem setDeadline_longitudinalEnabled (deadline : TimePoint) :
    (self.setDeadline deadline).longitudinalEnabled = self.longitudinalEnabled := rfl

@[simp] theorem answer_fst (config : SafetyConfig) (now : TimePoint)
    (lateral longitudinal vehicleMode heartbeat : Bool) :
    (self.answer config now lateral longitudinal vehicleMode heartbeat).1 = self := rfl

end Fields

def observationFaults : List String :=
  ["Panda safety or CAN health fault", "Panda rejected an active lateral or unknown control frame"]

/-- What the Panda check does: it faults, drops the longitudinal channel next to a steering one, or
passes. -/
theorem observePanda_cases (panda : PandaHealth) (self : SafetySupervisor)
    (turnedOff byBrake : Bool) :
    (∃ reason ∈ observationFaults,
      self.observePanda panda turnedOff byBrake = (self.fault reason, false)) ∨
    (self.lateralEnabled = true ∧
      self.observePanda panda turnedOff byBrake =
        ({ self with longitudinalEnabled := false, longitudinalLatchedOff := true }, true)) ∨
    self.observePanda panda turnedOff byBrake = (self, false) := by
  unfold observePanda
  dsimp only
  split_ifs with _ _ _ longitudinal
  · exact .inl ⟨_, List.mem_cons_self .., rfl⟩
  · exact .inr (.inr rfl)
  · exact .inr (.inl ⟨(Bool.and_eq_true_iff.mp longitudinal).2, rfl⟩)
  · exact .inl ⟨_, List.mem_cons_of_mem _ (List.mem_cons_self ..), rfl⟩
  · exact .inr (.inr rfl)

section Exits
variable (config : SafetyConfig) (now : TimePoint) (vehicle : VehicleStateData)
  (panda : PandaHealth) (command : CommandSample)

/-- What holds once `gateArm` lets a call through to the command gates. -/
structure ArmGates (supervisor : SafetySupervisor) (cancel : Bool) : Prop where
  armed : supervisor.armRequested = true
  harness : panda.harnessStatus = config.requiredHarnessStatus
  ignition : config.resumeOnCommandReturn = true → panda.ignitionOn = true
  notFault : supervisor.state ≠ .fault
  vehicleValid : vehicle.valid = true
  speed : speedLimitExceeded config vehicle = false
  angle : angleLimitExceeded config vehicle = false
  noCancel : config.disengageOnCancel = true → cancel = false
  mode : configuredMode config panda = true ∨
    standbyMode config panda = true ∧ isEngaged supervisor.state = false

/-- What holds once `gateCommand` lets a call through to `drive`. -/
structure CommandGates : Prop where
  fresh : commandFresh config now command = true
  valid : command.valid = true
  enable : command.enable = true
  notStandby : standbyMode config panda = false
  ready : config.resumeOnCommandReturn = true → panda.commandSessionReady = true

def commandTimeoutReasons : List String :=
  ["waiting for fresh command; preserve buttons and restore stock", "control command timeout",
    "waiting for fresh command; restore stock communication"]

/-- A reason that reports a timeout is given only where the timeout was found. -/
structure Explained (reason : String) : Prop where
  vehicle : reason = "critical vehicle state timeout" → vehicle.valid = false
  command : reason ∈ commandTimeoutReasons → commandFresh config now command = false

/-- The exits of the gates, reached from the observed supervisor `self`. -/
inductive GateExit (self : SafetySupervisor) (observed : Observed) :
    SafetySupervisor × SafetyDecision → Prop
  | unarmed (unarmed : self.armRequested = false) (notFault : self.state ≠ .fault) :
      GateExit self observed
        ((self.transition .passive "waiting for arm request").answer config now
          false false false false)
  | latched (faulted : self.state = .fault) :
      GateExit self observed (self.answer config now false false false false)
  | faulted (reason : String) (explained : Explained config now vehicle command reason) :
      GateExit self observed ((self.fault reason).answer config now false false false false)
  | disarmed (armed : self.armRequested = true) (reason : String)
      (explained : Explained config now vehicle command reason) :
      GateExit self observed ((self.disarm reason).answer config now false false false false)
  | waiting (armed : self.armRequested = true) (profile : config.resumeOnCommandReturn = true)
      (stale : commandFresh config now command = false)
      (notSoft : self.state ≠ .softDisabling) :
      GateExit self observed
        (((self.setWaiting true).transition .passive
          "waiting for fresh command; preserve buttons and restore stock").answer config now
          false false false false)
  | armed (armed : self.armRequested = true) (notFault : self.state ≠ .fault)
      (reason : String) (explained : Explained config now vehicle command reason)
      (vehicleMode : Bool) :
      GateExit self observed
        ((self.transition .armed reason).answer config now false false vehicleMode false)
  | paused (gates : ArmGates config vehicle panda self observed.cancelEvent)
      (commandGates : CommandGates config now panda command)
      (requested : (self.lateralEnabled || config.allowLongitudinal && self.longitudinalEnabled)
        = true)
      (deadline : TimePoint)
      (window : self.state = .softDisabling ∧ deadline = self.softDisableDeadline ∨
        self.state = .active ∧ vehicle.epsFault = true ∧ deadline = now + softDisableTime)
      (inTime : now < deadline)
      (cause : vehicle.epsFault = true ∨ panda.controlsAllowed = false) (reason : String)
      (explained : Explained config now vehicle command reason) :
      GateExit self observed
        (((self.setDeadline deadline).transition .softDisabling reason).answer
          config now false
          (config.allowLongitudinal && self.longitudinalEnabled && panda.controlsAllowed &&
            !gasOverride config vehicle) true true)
  | active (gates : ArmGates config vehicle panda self observed.cancelEvent)
      (commandGates : CommandGates config now panda command)
      (noEpsFault : vehicle.epsFault = false)
      (controls : panda.controlsAllowed = true)
      (inTime : self.state = .softDisabling → now < self.softDisableDeadline)
      (permitted : (self.lateralEnabled || config.allowLongitudinal && self.longitudinalEnabled &&
        !gasOverride config vehicle) = true) (reason : String)
      (explained : Explained config now vehicle command reason) :
      GateExit self observed
        ((self.transition .active reason).answer config now self.lateralEnabled
          (config.allowLongitudinal && self.longitudinalEnabled && !gasOverride config vehicle)
          true true)

variable {config now vehicle panda command}
variable {self : SafetySupervisor} {observed : Observed}

theorem explained_of_other {reason : String} (notVehicle : reason ≠ "critical vehicle state timeout")
    (notCommand : reason ∉ commandTimeoutReasons) :
    Explained config now vehicle command reason :=
  ⟨fun same => absurd same notVehicle, fun listed => absurd listed notCommand⟩

theorem explained_of_stale {reason : String} (notVehicle : reason ≠ "critical vehicle state timeout")
    (stale : commandFresh config now command = false) :
    Explained config now vehicle command reason :=
  ⟨fun same => absurd same notVehicle, fun _ => stale⟩

theorem activeReason_explained (lateral longitudinal : Bool) :
    Explained config now vehicle command (activeReason observed lateral longitudinal) := by
  unfold activeReason
  split
  · exact explained_of_other (by decide) (by decide)
  split
  · exact explained_of_other (by decide) (by decide)
  split
  · exact explained_of_other (by decide) (by decide)
  split
  · exact explained_of_other (by decide) (by decide)
  · exact explained_of_other (by decide) (by decide)

theorem activate_exit (gates : ArmGates config vehicle panda self observed.cancelEvent)
    (commandGates : CommandGates config now panda command) (noEpsFault : vehicle.epsFault = false)
    (inTime : self.state = .softDisabling → now < self.softDisableDeadline) :
    GateExit config now vehicle panda command self observed
      (self.activate config now vehicle panda observed) := by
  unfold activate
  by_cases controls : panda.controlsAllowed = true
  · rw [if_neg (by simp [controls])]
    dsimp only
    split
    · exact .armed gates.armed gates.notFault _ (explained_of_other (by decide) (by decide)) true
    · rename_i usable
      have permitted : (self.lateralEnabled || config.allowLongitudinal &&
          self.longitudinalEnabled && !gasOverride config vehicle) = true := by
        cases lateral : self.lateralEnabled with
        | true => rfl
        | false => simpa [lateral] using usable
      exact .active gates commandGates noEpsFault controls inTime permitted _
        (activeReason_explained _ _)
  · rw [if_pos (by simpa using controls)]
    exact .armed gates.armed gates.notFault _ (explained_of_other (by decide) (by decide)) true

theorem drive_exit (gates : ArmGates config vehicle panda self observed.cancelEvent)
    (commandGates : CommandGates config now panda command) :
    GateExit config now vehicle panda command self observed
      (self.drive config now vehicle panda observed) := by
  unfold drive
  dsimp only
  split
  · exact .armed gates.armed gates.notFault _ (explained_of_other (by decide) (by decide)) true
  rename_i selected
  have requested : (self.lateralEnabled || config.allowLongitudinal && self.longitudinalEnabled)
      = true := by
    cases lateral : self.lateralEnabled with
    | true => rfl
    | false => simpa [lateral] using selected
  split
  · exact .armed gates.armed gates.notFault _ (explained_of_other (by decide) (by decide)) true
  rename_i notWaiting
  by_cases entering : (vehicle.epsFault && self.state != .softDisabling) = true
  · -- The update that enters the pause falls into its body with the fresh deadline.
    obtain ⟨eps, notSoft⟩ : vehicle.epsFault = true ∧ self.state ≠ .softDisabling := by
      simpa using entering
    have wasActive : self.state = .active := by simpa [eps, notSoft] using notWaiting
    rw [if_pos entering]
    simp only [transition_state, beq_self_eq_true, if_true]
    split
    · exact .faulted _ (explained_of_other (by decide) (by decide))
    · rename_i inTime
      rw [if_pos (by simp [eps])]
      refine .paused gates commandGates requested (now + softDisableTime)
        (Or.inr ⟨wasActive, eps, rfl⟩) ?_ (Or.inl eps) _
        (explained_of_other (by decide) (by decide))
      simpa [transition, setDeadline] using inTime
  · rw [if_neg entering]
    by_cases soft : self.state = .softDisabling
    · rw [if_pos (by simp [soft])]
      split
      · exact .faulted _ (explained_of_other (by decide) (by decide))
      rename_i inTime
      by_cases cause : (vehicle.epsFault || !panda.controlsAllowed) = true
      · rw [if_pos cause]
        refine .paused gates commandGates requested self.softDisableDeadline
          (Or.inl ⟨soft, rfl⟩) (by simpa using inTime) (by simpa using cause) _ ?_
        split
        · exact explained_of_other (by decide) (by decide)
        · exact explained_of_other (by decide) (by decide)
      · rw [if_neg cause]
        obtain ⟨noEpsFault, _⟩ : vehicle.epsFault = false ∧ panda.controlsAllowed = true := by
          simpa using cause
        exact activate_exit gates commandGates noEpsFault (fun _ => by simpa using inTime)
    · rw [if_neg (by simpa using soft)]
      exact activate_exit gates commandGates (by simpa [soft] using entering)
        (fun h => absurd h soft)

theorem armGates_of_tests (armed : ¬ (!self.armRequested) = true)
    (harness : ¬ (panda.harnessStatus != config.requiredHarnessStatus) = true)
    (ignition : ¬ (config.resumeOnCommandReturn && !panda.ignitionOn) = true)
    (notFault : ¬ (self.state == .fault) = true) (valid : ¬ (!vehicle.valid) = true)
    (speed : ¬ speedLimitExceeded config vehicle = true)
    (angle : ¬ angleLimitExceeded config vehicle = true)
    (cancel : ¬ (config.disengageOnCancel && observed.cancelEvent) = true)
    (mode : ¬ (!configuredMode config panda &&
      (!standbyMode config panda || isEngaged self.state)) = true) :
    ArmGates config vehicle panda self observed.cancelEvent where
  armed := by simpa using armed
  harness := by simpa using harness
  ignition := by
    intro profile
    simpa [profile] using ignition
  notFault := by simpa using notFault
  vehicleValid := by simpa using valid
  speed := by simpa using speed
  angle := by simpa using angle
  noCancel := by
    intro enabled
    simpa [enabled] using cancel
  mode := by
    by_cases configured : configuredMode config panda = true
    · exact Or.inl configured
    · exact Or.inr (by simpa [configured] using mode)

theorem gateArm_unarmed (unarmed : self.armRequested = false) (notFault : self.state ≠ .fault) :
    self.gateArm config now vehicle panda command observed =
      (self.transition .passive "waiting for arm request").answer config now
        false false false false := by
  unfold gateArm
  rw [if_pos (by simp [unarmed]), if_pos (by simpa using notFault)]

theorem gateArm_latched (unarmed : self.armRequested = false) (faulted : self.state = .fault) :
    self.gateArm config now vehicle panda command observed =
      self.answer config now false false false false := by
  unfold gateArm
  rw [if_pos (by simp [unarmed]), if_neg (by simp [faulted])]

theorem gateArm_open (gates : ArmGates config vehicle panda self observed.cancelEvent) :
    self.gateArm config now vehicle panda command observed =
      self.gateCommand config now vehicle panda command observed := by
  have ignition : ¬ (config.resumeOnCommandReturn && !panda.ignitionOn) = true := by
    intro lost
    obtain ⟨session, off⟩ : config.resumeOnCommandReturn = true ∧ panda.ignitionOn = false := by
      simpa using lost
    rw [gates.ignition session] at off
    cases off
  have noCancel : ¬ (config.disengageOnCancel && observed.cancelEvent) = true := by
    intro pressed
    obtain ⟨enabled, cancel⟩ := Bool.and_eq_true_iff.mp pressed
    rw [gates.noCancel enabled] at cancel
    exact Bool.false_ne_true cancel
  unfold gateArm
  rw [if_neg (by simp [gates.armed]), if_neg (by simp [gates.harness]), if_neg ignition,
    if_neg (by simpa using gates.notFault), if_neg (by simp [gates.vehicleValid]),
    if_neg (by simp [gates.speed]), if_neg (by simp [gates.angle]), if_neg noCancel, if_neg]
  rcases gates.mode with configured | ⟨standby, notEngaged⟩
  · simp [configured]
  · simp [standby, notEngaged]

theorem gateCommand_open (gates : CommandGates config now panda command) :
    self.gateCommand config now vehicle panda command observed =
      self.drive config now vehicle panda observed := by
  unfold gateCommand
  rw [if_neg (by simp [gates.fresh]), if_neg (by simp [gates.valid]),
    if_neg (by simp [gates.enable]), if_neg (by simp [gates.notStandby]), if_neg]
  intro unready
  obtain ⟨session, notReady⟩ : config.resumeOnCommandReturn = true ∧
      panda.commandSessionReady = false := by simpa using unready
  rw [gates.ready session] at notReady
  cases notReady

section Cases
variable (config now vehicle panda command self observed)

/-- Where `gateCommand` leaves, or that it drives. -/
inductive CommandExit : SafetySupervisor × SafetyDecision → Prop
  | faulted (reason : String) (explained : Explained config now vehicle command reason) :
      CommandExit ((self.fault reason).answer config now false false false false)
  | disarmed (stale : commandFresh config now command = false) :
      CommandExit ((self.disarm "waiting for fresh command; restore stock communication").answer
        config now false false false false)
  | waiting (profile : config.resumeOnCommandReturn = true)
      (stale : commandFresh config now command = false) (notSoft : self.state ≠ .softDisabling) :
      CommandExit (((self.setWaiting true).transition .passive
        "waiting for fresh command; preserve buttons and restore stock").answer config now
        false false false false)
  | deadman (fresh : commandFresh config now command = true) (valid : command.valid = true)
      (released : command.enable = false) :
      CommandExit ((self.transition .armed "command deadman is false").answer config now
        false false true false)
  | standby (standby : standbyMode config panda = true) :
      CommandExit ((self.transition .armed
        "fresh command; waiting for verified ECU takeover").answer config now
        false false false false)
  | unready (notEngaged : isEngaged self.state = false) :
      CommandExit ((self.transition .armed "waiting for validated command-session CAN").answer
        config now false false true false)
  | driven (commandGates : CommandGates config now panda command) :
      CommandExit (self.drive config now vehicle panda observed)

/-- Where `gateArm` leaves, or that it hands over to the command gates. -/
inductive ArmExit : SafetySupervisor × SafetyDecision → Prop
  | unarmed (unarmed : self.armRequested = false) (notFault : self.state ≠ .fault) :
      ArmExit ((self.transition .passive "waiting for arm request").answer config now
        false false false false)
  | latched (faulted : self.state = .fault) :
      ArmExit (self.answer config now false false false false)
  | faulted (reason : String) (explained : Explained config now vehicle command reason) :
      ArmExit ((self.fault reason).answer config now false false false false)
  | cancelled (armed : self.armRequested = true) :
      ArmExit ((self.disarm "cancel button pressed").answer config now false false false false)
  | drifted (armed : self.armRequested = true) (notFault : self.state ≠ .fault)
      (notEngaged : isEngaged self.state = false) :
      ArmExit ((self.transition .armed "waiting for configured Panda safety mode").answer
        config now false false false false)
  | passed (gates : ArmGates config vehicle panda self observed.cancelEvent) :
      ArmExit (self.gateCommand config now vehicle panda command observed)

end Cases

theorem gateCommand_cases :
    CommandExit config now vehicle panda command self observed
      (self.gateCommand config now vehicle panda command observed) := by
  unfold gateCommand
  by_cases fresh : commandFresh config now command = true
  · rw [if_neg (by simp [fresh])]
    split
    · exact .faulted _ (explained_of_other (by decide) (by decide))
    rename_i valid
    split
    · rename_i released
      exact .deadman fresh (by simpa using valid) (by simpa using released)
    rename_i enable
    split
    · rename_i standby
      exact .standby standby
    rename_i notStandby
    split
    · split
      · exact .faulted _ (explained_of_other (by decide) (by decide))
      · rename_i notEngaged
        exact .unready (by simpa using notEngaged)
    · rename_i ready
      have sessionReady : config.resumeOnCommandReturn = true → panda.commandSessionReady = true := by
        intro profile
        simpa [profile] using ready
      exact .driven ⟨fresh, by simpa using valid, by simpa using enable,
        by simpa using notStandby, sessionReady⟩
  · have stale : commandFresh config now command = false := by simpa using fresh
    rw [if_pos (by simpa using fresh)]
    split
    · rename_i gap
      obtain ⟨⟨profile, notSoft⟩, _⟩ : (config.resumeOnCommandReturn = true ∧
          self.state ≠ .softDisabling) ∧ vehicle.epsFault = false := by simpa using gap
      exact .waiting profile stale notSoft
    · split
      · exact .faulted _ (explained_of_stale (by decide) stale)
      · exact .disarmed stale

theorem gateArm_cases :
    ArmExit config now vehicle panda command self observed
      (self.gateArm config now vehicle panda command observed) := by
  by_cases unarmed : self.armRequested = false
  · by_cases faulted : self.state = .fault
    · rw [gateArm_latched unarmed faulted]
      exact .latched faulted
    · rw [gateArm_unarmed unarmed faulted]
      exact .unarmed unarmed faulted
  have armed : self.armRequested = true := by simpa using unarmed
  have requested : ¬ (!self.armRequested) = true := by simp [armed]
  unfold gateArm
  rw [if_neg requested]
  by_cases harness : (panda.harnessStatus != config.requiredHarnessStatus) = true
  · rw [if_pos harness]
    exact .faulted _ (explained_of_other (by decide) (by decide))
  rw [if_neg harness]
  by_cases ignition : (config.resumeOnCommandReturn && !panda.ignitionOn) = true
  · rw [if_pos ignition]
    exact .faulted _ (explained_of_other (by decide) (by decide))
  rw [if_neg ignition]
  by_cases faulted : (self.state == .fault) = true
  · rw [if_pos faulted]
    exact .latched (by simpa using faulted)
  rw [if_neg faulted]
  by_cases invalid : (!vehicle.valid) = true
  · rw [if_pos invalid]
    exact .faulted _ ⟨fun _ => by simpa using invalid, fun listed => absurd listed (by decide)⟩
  rw [if_neg invalid]
  by_cases speed : speedLimitExceeded config vehicle = true
  · rw [if_pos speed]
    exact .faulted _ (explained_of_other (by decide) (by decide))
  rw [if_neg speed]
  by_cases angle : angleLimitExceeded config vehicle = true
  · rw [if_pos angle]
    exact .faulted _ (explained_of_other (by decide) (by decide))
  rw [if_neg angle]
  by_cases cancel : (config.disengageOnCancel && observed.cancelEvent) = true
  · rw [if_pos cancel]
    exact .cancelled armed
  rw [if_neg cancel]
  by_cases drifted : (!configuredMode config panda &&
      (!standbyMode config panda || isEngaged self.state)) = true
  · rw [if_pos drifted]
    split
    · exact .faulted _ (explained_of_other (by decide) (by decide))
    · rename_i lax
      obtain ⟨notEngaged, _⟩ : isEngaged self.state = false ∧
          config.resumeOnCommandReturn = false := by simpa using lax
      exact .drifted armed (by simpa using faulted) notEngaged
  · rw [if_neg drifted]
    exact .passed
      (armGates_of_tests requested harness ignition faulted invalid speed angle cancel drifted)

theorem gateCommand_exit (gates : ArmGates config vehicle panda self observed.cancelEvent) :
    GateExit config now vehicle panda command self observed
      (self.gateCommand config now vehicle panda command observed) := by
  have exit := @gateCommand_cases config now vehicle panda command self observed
  generalize self.gateCommand config now vehicle panda command observed = result at exit
  cases exit with
  | faulted reason explained => exact .faulted reason explained
  | disarmed stale => exact .disarmed gates.armed _ (explained_of_stale (by decide) stale)
  | waiting profile stale notSoft => exact .waiting gates.armed profile stale notSoft
  | deadman fresh valid released =>
      exact .armed gates.armed gates.notFault _ (explained_of_other (by decide) (by decide)) true
  | standby standby =>
      exact .armed gates.armed gates.notFault _ (explained_of_other (by decide) (by decide)) false
  | unready notEngaged =>
      exact .armed gates.armed gates.notFault _ (explained_of_other (by decide) (by decide)) true
  | driven commandGates => exact drive_exit gates commandGates

theorem gateArm_exit :
    GateExit config now vehicle panda command self observed
      (self.gateArm config now vehicle panda command observed) := by
  have exit := @gateArm_cases config now vehicle panda command self observed
  generalize self.gateArm config now vehicle panda command observed = result at exit
  cases exit with
  | unarmed unarmed notFault => exact .unarmed unarmed notFault
  | latched faulted => exact .latched faulted
  | faulted reason explained => exact .faulted reason explained
  | cancelled armed => exact .disarmed armed _ (explained_of_other (by decide) (by decide))
  | drifted armed notFault notEngaged =>
      exact .armed armed notFault _ (explained_of_other (by decide) (by decide)) false
  | passed gates => exact gateCommand_exit gates

/-- The exits of `update`. -/
inductive UpdateExit (config : SafetyConfig) (now : TimePoint) (vehicle : VehicleStateData)
    (panda : PandaHealth) (command : CommandSample) (self : SafetySupervisor) :
    SafetySupervisor × SafetyDecision → Prop
  | lostPanda (stale : pandaFresh config now panda = false) :
      UpdateExit config now vehicle panda command self
        (((self.setWaiting false).withdrawArm.transition .disconnected
          "Panda disconnected or health timeout").answer config now false false false false)
  | passiveYaml (fresh : pandaFresh config now panda = true)
      (passive : config.allowActuation = false) :
      UpdateExit config now vehicle panda command self
        (((self.setWaiting false).withdrawArm.transition .passive
          "actuation disabled by YAML").answer config now false false false false)
  | gated (fresh : pandaFresh config now panda = true) (allowed : config.allowActuation = true)
      (observed : Observed)
      (observes : observed =
        (self.setWaiting false).observe config vehicle panda)
      {result : SafetySupervisor × SafetyDecision}
      (exit : GateExit config now vehicle panda command observed.supervisor observed result) :
      UpdateExit config now vehicle panda command self result

theorem update_exit (config : SafetyConfig) (self : SafetySupervisor) (now : TimePoint)
    (vehicle : VehicleStateData) (panda : PandaHealth) (command : CommandSample) :
    UpdateExit config now vehicle panda command self
      (self.update config now vehicle panda command) := by
  unfold update
  dsimp only
  by_cases fresh : pandaFresh config now panda = true
  · rw [if_neg (by simp [fresh])]
    by_cases allowed : config.allowActuation = true
    · rw [if_neg (by simp [allowed])]
      exact .gated fresh allowed _ rfl gateArm_exit
    · rw [if_pos (by simpa using allowed)]
      exact .passiveYaml fresh (by simpa using allowed)
  · rw [if_pos (by simpa using fresh)]
    exact .lostPanda (by simpa using fresh)

end Exits
end SafetySupervisor
end Ioniq5Ecan
