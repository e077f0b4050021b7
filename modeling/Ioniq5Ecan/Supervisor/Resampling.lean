import Ioniq5Ecan.Supervisor.Settled

/-! # The same sample again

The 100 Hz loop hands each 10 Hz health sample to `update` several times.  The
first call leaves the supervisor settled on the sample; the gates of the second
one then leave by an exit with the same state and decision, and only the reason
may be another (`update_again`). -/
set_option autoImplicit false
namespace Ioniq5Ecan
namespace SafetySupervisor

/-- Equal in every field except the reason text. -/
def SameState (second first : SafetySupervisor) : Prop :=
  { second with reason := first.reason } = first

def SameDecision (second first : SafetyDecision) : Prop :=
  { second with reason := first.reason } = first

structure SameAnswer (second first : SafetySupervisor × SafetyDecision) : Prop where
  state : SameState second.1 first.1
  decision : SameDecision second.2 first.2

section Answers
variable {config : SafetyConfig} {now : TimePoint} {second first : SafetySupervisor}

theorem SameState.refl (self : SafetySupervisor) : SameState self self := rfl

theorem SameState.answer (same : SameState second first)
    (lateral longitudinal vehicleMode heartbeat : Bool) :
    SameAnswer (second.answer config now lateral longitudinal vehicleMode heartbeat)
      (first.answer config now lateral longitudinal vehicleMode heartbeat) := by
  refine ⟨same, ?_⟩
  unfold SameState at same
  rw [← same]
  rfl

/-- A transition made a second time only renews the reason. -/
theorem transition_again (quiet : first.waitingForCommand = false) (next : ControlState)
    (reason reason' : String) :
    SameState (((first.transition next reason).setWaiting false).transition next reason')
      (first.transition next reason) := by
  unfold SameState transition setWaiting
  rw [quiet]
  by_cases soft : next = .softDisabling
  · simp only [if_pos soft]
  · simp only [if_neg soft]

end Answers

/-! ## The gates -/

section Gates
variable {config : SafetyConfig} {now : TimePoint} {vehicle : VehicleStateData}
  {panda : PandaHealth} {command : CommandSample} {self : SafetySupervisor} {observed : Observed}

/-- A later pass of the gates, without a new CANCEL press, leaves `result` as it is. -/
def Repeats (config : SafetyConfig) (now : TimePoint) (vehicle : VehicleStateData)
    (panda : PandaHealth) (command : CommandSample)
    (result : SafetySupervisor × SafetyDecision) : Prop :=
  ∀ again : Observed, again.cancelEvent = false →
    SameAnswer ((result.1.setWaiting false).gateArm config now vehicle panda command again) result

theorem CommandGates.configured (commandGates : CommandGates config now panda command)
    {cancel : Bool} (gates : ArmGates config vehicle panda self cancel) :
    configuredMode config panda = true := by
  rcases gates.mode with configured | ⟨standby, _⟩
  · exact configured
  · rw [commandGates.notStandby] at standby
    cases standby

theorem ArmGates.move {cancel again : Bool} (gates : ArmGates config vehicle panda self cancel)
    (moved : SafetySupervisor) (armed : moved.armRequested = self.armRequested)
    (notFault : moved.state ≠ .fault)
    (mode : configuredMode config panda = true ∨ isEngaged moved.state = false)
    (noCancel : config.disengageOnCancel = true → again = false) :
    ArmGates config vehicle panda moved again where
  armed := armed.trans gates.armed
  harness := gates.harness
  ignition := gates.ignition
  notFault := notFault
  vehicleValid := gates.vehicleValid
  speed := gates.speed
  angle := gates.angle
  noCancel := noCancel
  mode := by
    rcases mode with configured | notEngaged
    · exact Or.inl configured
    · rcases gates.mode with configured | ⟨standby, _⟩
      · exact Or.inl configured
      · exact Or.inr ⟨standby, notEngaged⟩

/-- Outside a pause and without an EPS fault, a requested channel is driven. -/
theorem drive_activates (requested : ¬ (!self.lateralEnabled && !(config.allowLongitudinal &&
      self.longitudinalEnabled)) = true) (noEpsFault : vehicle.epsFault = false)
    (notSoft : self.state ≠ .softDisabling) :
    self.drive config now vehicle panda observed =
      self.activate config now vehicle panda observed := by
  unfold drive
  dsimp only
  rw [if_neg requested, if_neg (by simp [noEpsFault])]
  simp only [noEpsFault, Bool.false_and, Bool.false_eq_true, if_false]
  rw [if_neg (by simpa using notSoft)]

theorem drive_pauses (soft : self.state = .softDisabling)
    (requested : ¬ (!self.lateralEnabled && !(config.allowLongitudinal &&
      self.longitudinalEnabled)) = true) (inTime : ¬ self.softDisableDeadline ≤ now)
    (cause : (vehicle.epsFault || !panda.controlsAllowed) = true) :
    self.drive config now vehicle panda observed =
      (self.transition .softDisabling
        (if vehicle.epsFault then "temporary EPS fault; lateral paused"
         else "EPS fault cleared; waiting for Panda controls_allowed")).answer config now
        false (config.allowLongitudinal && self.longitudinalEnabled && panda.controlsAllowed &&
          !gasOverride config vehicle) true true := by
  have entered : ¬ (vehicle.epsFault && self.state != .softDisabling) = true := by
    simp [soft]
  unfold drive
  dsimp only
  rw [if_neg requested, if_neg (by simp [soft]), if_neg entered, if_pos (by simp [soft]),
    if_neg inTime, if_pos cause]

theorem latched_repeats (quiet : self.waitingForCommand = false)
    (stays : ∀ again : Observed, self.gateArm config now vehicle panda command again =
      self.answer config now false false false false) :
    Repeats config now vehicle panda command
      (self.answer config now false false false false) := by
  intro again _
  have kept : self.setWaiting false = self := by
    unfold setWaiting
    rw [← quiet]
  rw [answer_fst, kept, stays again]
  exact (SameState.refl _).answer ..

theorem unarmed_repeats (quiet : self.waitingForCommand = false)
    (unarmed : self.armRequested = false) (reason : String) :
    Repeats config now vehicle panda command
      ((self.transition .passive reason).answer config now false false false false) := by
  intro again _
  have notFault : ((self.transition .passive reason).setWaiting false).state ≠ .fault := by
    simp [setWaiting]
  have stays : ((self.transition .passive reason).setWaiting false).armRequested = false := unarmed
  rw [answer_fst, gateArm_unarmed stays notFault]
  exact (transition_again quiet .passive reason _).answer ..

theorem disarm_repeats (quiet : self.waitingForCommand = false) (reason : String) :
    Repeats config now vehicle panda command
      ((self.disarm reason).answer config now false false false false) :=
  @unarmed_repeats config now vehicle panda command self.withdrawArm quiet rfl reason

theorem fault_repeats (quiet : self.waitingForCommand = false) (reason : String) :
    Repeats config now vehicle panda command
      ((self.fault reason).answer config now false false false false) :=
  @latched_repeats config now vehicle panda command (self.fault reason) quiet
    (fun _ => gateArm_latched rfl rfl)

section Open
variable (quiet : self.waitingForCommand = false)
  (gates : ArmGates config vehicle panda self observed.cancelEvent)

include quiet gates in
theorem repeats_of_gateCommand {next : ControlState} (notFault : next ≠ .fault)
    (mode : configuredMode config panda = true ∨ isEngaged next = false) {reason : String}
    {lateral longitudinal vehicleMode heartbeat : Bool}
    (repeated : ∀ again : Observed, ∃ reason',
      ((self.transition next reason).setWaiting false).gateCommand config now vehicle panda
          command again =
        (((self.transition next reason).setWaiting false).transition next reason').answer config
          now lateral longitudinal vehicleMode heartbeat) :
    Repeats config now vehicle panda command ((self.transition next reason).answer config now
      lateral longitudinal vehicleMode heartbeat) := by
  intro again noCancel
  obtain ⟨reason', result⟩ := repeated again
  have opened : ArmGates config vehicle panda ((self.transition next reason).setWaiting false)
      again.cancelEvent := gates.move _ rfl notFault mode (fun _ => noCancel)
  rw [answer_fst, gateArm_open opened, result]
  exact (transition_again quiet next reason reason').answer ..

variable (commandGates : CommandGates config now panda command)

include quiet gates commandGates in
theorem repeats_of_drive {next : ControlState} (notFault : next ≠ .fault) {reason : String}
    {lateral longitudinal vehicleMode heartbeat : Bool}
    (repeated : ∀ again : Observed, ∃ reason',
      ((self.transition next reason).setWaiting false).drive config now vehicle panda again =
        (((self.transition next reason).setWaiting false).transition next reason').answer config
          now lateral longitudinal vehicleMode heartbeat) :
    Repeats config now vehicle panda command ((self.transition next reason).answer config now
      lateral longitudinal vehicleMode heartbeat) := by
  refine repeats_of_gateCommand quiet gates notFault (Or.inl (commandGates.configured gates)) ?_
  intro again
  rw [gateCommand_open commandGates]
  exact repeated again

include quiet gates commandGates in
theorem activate_repeats (requested : ¬ (!self.lateralEnabled && !(config.allowLongitudinal &&
      self.longitudinalEnabled)) = true) (noEpsFault : vehicle.epsFault = false) :
    Repeats config now vehicle panda command
      (self.activate config now vehicle panda observed) := by
  have again_activates (next : ControlState) (notSoft : next ≠ .softDisabling) (reason : String)
      (again : Observed) :
      ((self.transition next reason).setWaiting false).drive config now vehicle panda again =
        ((self.transition next reason).setWaiting false).activate config now vehicle panda again :=
    drive_activates requested noEpsFault notSoft
  unfold activate
  by_cases controls : panda.controlsAllowed = true
  · rw [if_neg (by simp [controls])]
    dsimp only
    by_cases unusable : (!self.lateralEnabled && !(config.allowLongitudinal &&
        self.longitudinalEnabled && !gasOverride config vehicle)) = true
    · rw [if_pos unusable]
      refine repeats_of_drive quiet gates commandGates (by decide) ?_
      intro again
      refine ⟨"longitudinal arm paused by gas override", ?_⟩
      rw [again_activates .armed (by decide), activate, if_neg (by simp [controls])]
      exact if_pos unusable
    · rw [if_neg unusable]
      refine repeats_of_drive quiet gates commandGates (by decide) ?_
      intro again
      refine ⟨activeReason again self.lateralEnabled (config.allowLongitudinal &&
        self.longitudinalEnabled && !gasOverride config vehicle), ?_⟩
      rw [again_activates .active (by decide), activate, if_neg (by simp [controls])]
      exact if_neg unusable
  · rw [if_pos (by simpa using controls)]
    refine repeats_of_drive quiet gates commandGates (by decide) ?_
    intro again
    refine ⟨"Panda controls_allowed is false", ?_⟩
    rw [again_activates .armed (by decide), activate, if_pos (by simpa using controls)]

include quiet gates commandGates in
theorem pause_repeats
    (requested : ¬ (!self.lateralEnabled && !(config.allowLongitudinal &&
      self.longitudinalEnabled)) = true) (inTime : ¬ self.softDisableDeadline ≤ now)
    (cause : (vehicle.epsFault || !panda.controlsAllowed) = true) (reason : String) :
    Repeats config now vehicle panda command
      ((self.transition .softDisabling reason).answer config now false
        (config.allowLongitudinal && self.longitudinalEnabled && panda.controlsAllowed &&
          !gasOverride config vehicle) true true) := by
  refine repeats_of_drive quiet gates commandGates (by decide) ?_
  intro again
  exact ⟨_, drive_pauses rfl requested (by simpa [setWaiting, transition] using inTime) cause⟩

include quiet gates commandGates in
theorem drive_repeats :
    Repeats config now vehicle panda command (self.drive config now vehicle panda observed) := by
  unfold drive
  dsimp only
  by_cases idle : (!self.lateralEnabled && !(config.allowLongitudinal &&
      self.longitudinalEnabled)) = true
  · rw [if_pos idle]
    refine repeats_of_drive quiet gates commandGates (by decide) ?_
    intro again
    exact ⟨_, if_pos idle⟩
  rw [if_neg idle]
  by_cases waits : (vehicle.epsFault && self.state != .softDisabling && self.state != .active) =
      true
  · rw [if_pos waits]
    obtain ⟨⟨eps, _⟩, _⟩ : (vehicle.epsFault = true ∧ self.state ≠ .softDisabling) ∧
        self.state ≠ .active := by simpa using waits
    refine repeats_of_drive quiet gates commandGates (by decide) ?_
    intro again
    refine ⟨"waiting for temporary EPS fault to clear", ?_⟩
    have requested := idle
    unfold drive
    dsimp only
    rw [if_neg (by exact requested), if_pos (by simp [eps, setWaiting])]
  rw [if_neg waits]
  by_cases entering : (vehicle.epsFault && self.state != .softDisabling) = true
  · -- The call that starts the pause: from the second one on it is in the pause.
    have eps : vehicle.epsFault = true := (Bool.and_eq_true_iff.mp entering).1
    rw [if_pos entering]
    simp only [transition_state, beq_self_eq_true, if_true]
    split
    · exact @fault_repeats config now vehicle panda command
        ((self.setDeadline (now + softDisableTime)).transition .softDisabling _) quiet _
    · rename_i inTime
      rw [if_pos (by simp [eps])]
      have engaged := gates.move ((self.setDeadline (now + softDisableTime)).transition
        .softDisabling "temporary EPS fault; lateral paused") rfl (by simp)
        (Or.inl (commandGates.configured gates)) gates.noCancel
      exact @pause_repeats config now vehicle panda command
        ((self.setDeadline (now + softDisableTime)).transition .softDisabling
          "temporary EPS fault; lateral paused") observed quiet engaged commandGates idle inTime
        (by simp [eps]) _
  · rw [if_neg entering]
    by_cases soft : self.state = .softDisabling
    · rw [if_pos (by simp [soft])]
      split
      · exact fault_repeats quiet _
      rename_i inTime
      by_cases cause : (vehicle.epsFault || !panda.controlsAllowed) = true
      · rw [if_pos cause]
        exact pause_repeats quiet gates commandGates idle inTime cause _
      · rw [if_neg cause]
        have noEpsFault : vehicle.epsFault = false := by
          cases eps : vehicle.epsFault with
          | false => rfl
          | true => simp [eps] at cause
        exact activate_repeats quiet gates commandGates idle noEpsFault
    · rw [if_neg (by simpa using soft)]
      exact activate_repeats quiet gates commandGates idle (by simpa [soft] using entering)

end Open

theorem gateCommand_repeats (quiet : self.waitingForCommand = false)
    (gates : ArmGates config vehicle panda self observed.cancelEvent) :
    Repeats config now vehicle panda command
      (self.gateCommand config now vehicle panda command observed) := by
  unfold gateCommand
  by_cases stale : (!commandFresh config now command) = true
  · rw [if_pos stale]
    by_cases gap : (config.resumeOnCommandReturn && self.state != .softDisabling &&
        !vehicle.epsFault) = true
    · rw [if_pos gap]
      intro again noCancel
      obtain ⟨⟨session, _⟩, noEpsFault⟩ : (config.resumeOnCommandReturn = true ∧
          self.state ≠ .softDisabling) ∧ vehicle.epsFault = false := by simpa using gap
      have opened : ArmGates config vehicle panda (((self.setWaiting true).transition .passive
          "waiting for fresh command; preserve buttons and restore stock").setWaiting false)
          again.cancelEvent :=
        gates.move _ rfl (by simp [setWaiting]) (Or.inr rfl) (fun _ => noCancel)
      rw [answer_fst, gateArm_open opened, gateCommand, if_pos stale,
        if_pos (by simp [session, noEpsFault, setWaiting])]
      refine SameState.answer ?_ ..
      rfl
    · rw [if_neg gap]
      split
      · exact fault_repeats quiet _
      · exact disarm_repeats quiet _
  rw [if_neg stale]
  split
  · exact fault_repeats quiet _
  rename_i valid
  by_cases released : (!command.enable) = true
  · rw [if_pos released]
    refine repeats_of_gateCommand quiet gates (by decide) (Or.inr rfl) ?_
    intro again
    refine ⟨"command deadman is false", ?_⟩
    rw [gateCommand, if_neg stale, if_neg valid, if_pos released]
  rw [if_neg released]
  by_cases standby : standbyMode config panda = true
  · rw [if_pos standby]
    refine repeats_of_gateCommand quiet gates (by decide) (Or.inr rfl) ?_
    intro again
    refine ⟨"fresh command; waiting for verified ECU takeover", ?_⟩
    rw [gateCommand, if_neg stale, if_neg valid, if_neg released, if_pos standby]
  rw [if_neg standby]
  by_cases unready : (config.resumeOnCommandReturn && !panda.commandSessionReady) = true
  · rw [if_pos unready]
    split
    · exact fault_repeats quiet _
    · refine repeats_of_gateCommand quiet gates (by decide) (Or.inr rfl) ?_
      intro again
      refine ⟨"waiting for validated command-session CAN", ?_⟩
      rw [gateCommand, if_neg stale, if_neg valid, if_neg released, if_neg standby,
        if_pos unready]
      rfl
  · rw [if_neg unready]
    have ready : config.resumeOnCommandReturn = true → panda.commandSessionReady = true := by
      intro session
      simpa [session] using unready
    exact drive_repeats quiet gates ⟨by simpa using stale, by simpa using valid,
      by simpa using released, by simpa using standby, ready⟩

theorem gateArm_repeats (quiet : self.waitingForCommand = false) :
    Repeats config now vehicle panda command
      (self.gateArm config now vehicle panda command observed) := by
  unfold gateArm
  by_cases unarmed : (!self.armRequested) = true
  · have isUnarmed : self.armRequested = false := by simpa using unarmed
    rw [if_pos unarmed]
    by_cases faulted : self.state = .fault
    · rw [if_neg (by simp [faulted])]
      exact latched_repeats quiet (fun _ => gateArm_latched isUnarmed faulted)
    · rw [if_pos (by simpa using faulted)]
      exact unarmed_repeats quiet isUnarmed _
  rw [if_neg unarmed]
  by_cases harness : (panda.harnessStatus != config.requiredHarnessStatus) = true
  · rw [if_pos harness]
    exact fault_repeats quiet _
  rw [if_neg harness]
  by_cases ignition : (config.resumeOnCommandReturn && !panda.ignitionOn) = true
  · rw [if_pos ignition]
    exact fault_repeats quiet _
  rw [if_neg ignition]
  by_cases faulted : (self.state == .fault) = true
  · rw [if_pos faulted]
    refine latched_repeats quiet ?_
    intro again
    rw [gateArm, if_neg unarmed, if_neg harness, if_neg ignition, if_pos faulted]
  rw [if_neg faulted]
  by_cases invalid : (!vehicle.valid) = true
  · rw [if_pos invalid]
    exact fault_repeats quiet _
  rw [if_neg invalid]
  by_cases speed : speedLimitExceeded config vehicle = true
  · rw [if_pos speed]
    exact fault_repeats quiet _
  rw [if_neg speed]
  by_cases angle : angleLimitExceeded config vehicle = true
  · rw [if_pos angle]
    exact fault_repeats quiet _
  rw [if_neg angle]
  by_cases cancel : (config.disengageOnCancel && observed.cancelEvent) = true
  · rw [if_pos cancel]
    exact disarm_repeats quiet _
  rw [if_neg cancel]
  by_cases drifted : (!configuredMode config panda &&
      (!standbyMode config panda || isEngaged self.state)) = true
  · rw [if_pos drifted]
    by_cases strict : (isEngaged self.state || config.resumeOnCommandReturn) = true
    · rw [if_pos strict]
      exact fault_repeats quiet _
    · -- Outside the session profile a supervisor waits in Armed for the configured mode.
      rw [if_neg strict]
      intro again noCancel
      obtain ⟨_, legacy⟩ : isEngaged self.state = false ∧ config.resumeOnCommandReturn = false := by
        simpa using strict
      obtain ⟨drift, _⟩ := Bool.and_eq_true_iff.mp drifted
      have noStandby : standbyMode config panda = false := by
        simp [standbyMode, legacy]
      have stillDrifted : (!configuredMode config panda && (!standbyMode config panda ||
          isEngaged ControlState.armed)) = true := by
        rw [drift, noStandby]
        rfl
      have stillLax : ¬ (isEngaged ControlState.armed || config.resumeOnCommandReturn) = true := by
        rw [legacy]
        decide
      have result : ((self.transition .armed "waiting for configured Panda safety mode").setWaiting
            false).gateArm config now vehicle panda command again =
          (((self.transition .armed "waiting for configured Panda safety mode").setWaiting
            false).transition .armed "waiting for configured Panda safety mode").answer config now
              false false false false := by
        rw [gateArm, if_neg (by exact unarmed), if_neg harness, if_neg ignition,
          if_neg (by simp [setWaiting]), if_neg invalid, if_neg speed, if_neg angle,
          if_neg (by simp [noCancel]), if_pos (by exact stillDrifted), if_neg (by exact stillLax)]
      rw [answer_fst, result]
      exact (transition_again quiet .armed _ _).answer ..
  · rw [if_neg drifted]
    exact gateCommand_repeats quiet
      (armGates_of_tests unarmed harness ignition faulted invalid speed angle cancel drifted)

end Gates

/-! ## The update -/

section Update
variable {config : SafetyConfig} {now : TimePoint} {vehicle : VehicleStateData}
  {panda : PandaHealth} {command : CommandSample} {self : SafetySupervisor}

theorem gateExit_txBlocked {observed : Observed} {result : SafetySupervisor × SafetyDecision}
    (exit : GateExit config now vehicle panda command self observed result) :
    result.1.lastTxBlocked = self.lastTxBlocked := by
  cases exit with
  | unarmed | latched | faulted | disarmed | waiting | armed | paused | active => rfl

theorem gateArm_again (quiet : self.waitingForCommand = false) :
    let observed := self.observe config vehicle panda
    let result := observed.supervisor.gateArm config now vehicle panda command observed
    let again := (result.1.setWaiting false).observe config vehicle panda
    again.supervisor = result.1.setWaiting false ∧ again.cancelEvent = false := by
  intro observed result again
  have exit := @gateArm_exit config now vehicle panda command observed.supervisor observed
  have settled : Settled config vehicle panda (result.1.setWaiting false) :=
    (gateExit_settled exit observe_settled).move _ _ false _ _
  refine observe_again settled (gateExit_txBlocked exit) ?_
  intro unhealthy
  have faulted := @observe_unhealthy config vehicle panda self unhealthy
  have unarmed : observed.supervisor.armRequested = false :=
    congrArg SafetySupervisor.armRequested faulted.symm
  have isFault : observed.supervisor.state = .fault :=
    congrArg SafetySupervisor.state faulted.symm
  have stays : result.1.setWaiting false = observed.supervisor := by
    have waiting : observed.supervisor.waitingForCommand = false :=
      observe_waiting.trans quiet
    have latched : result = observed.supervisor.answer config now false false false false :=
      gateArm_latched unarmed isFault
    rw [latched, answer_fst]
    unfold setWaiting
    rw [← waiting]
  rw [stays]
  exact faulted

theorem withdrawn_again (next : ControlState) (notSoft : next ≠ .softDisabling) (reason : String) :
    let first := (self.setWaiting false).withdrawArm.transition next reason
    SameState ((first.setWaiting false).withdrawArm.transition next reason) first := by
  unfold SameState transition
  simp only [if_neg notSoft]
  rfl

/-- Calling `update` again with the same arguments changes nothing but the reason, whatever
state it is called in. -/
theorem update_again (config : SafetyConfig) (self : SafetySupervisor) (now : TimePoint)
    (vehicle : VehicleStateData) (panda : PandaHealth) (command : CommandSample) :
    let first := self.update config now vehicle panda command
    let second := first.1.update config now vehicle panda command
    { second.1 with reason := first.1.reason } = first.1 ∧
      { second.2 with reason := first.2.reason } = first.2 := by
  intro first second
  have whole : SameAnswer second first := by
    by_cases stale : (!pandaFresh config now panda) = true
    · have lost (before : SafetySupervisor) :
          before.update config now vehicle panda command =
            ((before.setWaiting false).withdrawArm.transition .disconnected
              "Panda disconnected or health timeout").answer config now false false false false :=
        if_pos stale
      show SameAnswer (first.1.update config now vehicle panda command)
        (self.update config now vehicle panda command)
      rw [lost first.1, show first = _ from lost self, lost self]
      exact (withdrawn_again .disconnected (by decide) _).answer ..
    by_cases passive : (!config.allowActuation) = true
    · have off (before : SafetySupervisor) :
          before.update config now vehicle panda command =
            ((before.setWaiting false).withdrawArm.transition .passive
              "actuation disabled by YAML").answer config now false false false false := by
        unfold update
        rw [if_neg stale, if_pos passive]
      show SameAnswer (first.1.update config now vehicle panda command)
        (self.update config now vehicle panda command)
      rw [off first.1, show first = _ from off self, off self]
      exact (withdrawn_again .passive (by decide) _).answer ..
    have fresh : pandaFresh config now panda = true := by simpa using stale
    have allowed : config.allowActuation = true := by simpa using passive
    have quiet : ((self.setWaiting false).observe config vehicle
        panda).supervisor.waitingForCommand = false := observe_waiting
    obtain ⟨same, noCancel⟩ := @gateArm_again config now vehicle panda command
      (self.setWaiting false) rfl
    have repeated := @gateArm_repeats config now vehicle panda command _
      ((self.setWaiting false).observe config vehicle panda) quiet _ noCancel
    have firstStep : first = ((self.setWaiting false).observe config vehicle
        panda).supervisor.gateArm config now vehicle panda command
          ((self.setWaiting false).observe config vehicle panda) :=
      update_observed allowed fresh
    have secondStep : second = ((first.1.setWaiting false).observe config vehicle
        panda).supervisor.gateArm config now vehicle panda command
          ((first.1.setWaiting false).observe config vehicle panda) :=
      update_observed allowed fresh
    rw [secondStep, firstStep, same]
    exact repeated
  exact ⟨whole.state, whole.decision⟩

end Update

end SafetySupervisor
end Ioniq5Ecan
