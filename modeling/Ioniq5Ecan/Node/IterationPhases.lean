import Ioniq5Ecan.Node.TakeoverLicences

/-! # The phases of an iteration

What each point of the control loop relies on (`AtPoint`) is established by the step before it.
Nothing here depends on the history of the run but the press that the re-engagement starts from. -/
set_option autoImplicit false
namespace Ioniq5Ecan

/-! ## The supervisor is armed, or waits, only where it was armed -/

namespace SafetySupervisor
section Arm
variable {config : SafetyConfig} {now : TimePoint} {vehicle : VehicleStateData}
  {panda : PandaHealth} {command : CommandSample} {self : SafetySupervisor}

theorem requestArm_refused {arm : Bool} (refused : (self.requestArm config arm).2 = false) :
    config.allowActuation = false := by
  unfold requestArm at refused
  split at refused
  · rename_i passive
    simpa using (Bool.and_eq_true_iff.mp passive).2
  · dsimp only at refused
    split at refused <;> cases refused

/-- After `update` the supervisor is armed, or the decision waits for a command, only if it was
armed before. -/
theorem update_stays_armed
    (armed : (self.update config now vehicle panda command).1.armRequested = true ∨
      (self.update config now vehicle panda command).2.waitingForCommand = true) :
    config.allowActuation = true ∧ self.armRequested = true := by
  have exit := update_exit config self now vehicle panda command
  generalize self.update config now vehicle panda command = result at exit armed
  cases exit with
  | lostPanda _ => rcases armed with armed | waiting <;> contradiction
  | passiveYaml _ _ => rcases armed with armed | waiting <;> contradiction
  | gated _ allowed observed observes exit =>
      refine ⟨allowed, ?_⟩
      have notWaiting : observed.supervisor.waitingForCommand = false := by
        rw [observes]
        exact observe_waiting
      have observedArmed : observed.supervisor.armRequested = true → self.armRequested = true := by
        intro stays
        rw [observes] at stays
        rcases observe_arm config vehicle panda (self.setWaiting false) with kept | faulted
        · exact kept.armRequested.symm.trans stays
        · rw [faulted.disengaged.unarmed] at stays
          cases stays
      apply observedArmed
      cases exit with
      | unarmed _ _ | latched _ =>
          rcases armed with armed | waiting
          · exact armed
          · exact absurd (notWaiting.symm.trans waiting) nofun
      | faulted _ _ =>
          rcases armed with armed | waiting
          · cases armed
          · exact absurd (notWaiting.symm.trans waiting) nofun
      | disarmed stillArmed | waiting stillArmed | armed stillArmed => exact stillArmed
      | paused gates | active gates => exact gates.armed

end Arm
end SafetySupervisor

theorem disableEcu_ok {port : EcuPort} {ecu : Ecu} {outcome : DisableOutcome}
    (success : (disableEcu port ecu outcome).2 = .ok ()) :
    (disableEcu port ecu outcome).1.disabled = true := by
  unfold disableEcu at success ⊢
  split at success
  · rename_i already
    rw [if_pos already]
    exact already
  · rename_i enabled
    rw [if_neg enabled]
    split at success
    · cases success
    split at success
    · cases success
    · rfl

/-- A takeover that reaches its last step has silenced the camera. -/
theorem takeoverWork_camera {config : SafetyConfig} {ecus : EcuPair} {outcomes : TakeoverOutcomes}
    (success : (takeoverWork config ecus outcomes).2 = .ok ()) :
    (takeoverWork config ecus outcomes).1.camera.disabled = true := by
  unfold takeoverWork at success ⊢
  split at success
  · cases success
  dsimp only at success ⊢
  split at success
  · cases success
  rename_i silenced
  have camera : (disableEcu cameraPort ecus.camera outcomes.camera).2 = .ok () := by
    cases disabled : (disableEcu cameraPort ecus.camera outcomes.camera).2 with
    | ok => rfl
    | error what => rw [disabled] at silenced; cases silenced
  split
  · exact disableEcu_ok camera
  · exact disableEcu_ok camera

/-! ## Where a branch of the control loop leads -/

section Branches
variable {config : NodeConfig} {pressed : Prop} {state : NodeState}

theorem Unarmed.covered (unarmed : Unarmed state) : Covered state :=
  fun armed => absurd (unarmed.symm.trans armed) nofun

theorem toAutoArm_at : AtPoint config pressed state (toAutoArm config) := by
  unfold toAutoArm
  split <;> exact trivial

theorem afterRetry_at {site : RetrySite} (retrying : AtRetry state site) :
    AtPoint config pressed state (afterRetry site) := by
  cases site with
  | loopStart => exact trivial
  | disarmRequest => exact fun _ => retrying.1
  | modeFailure => exact fun _ => Unarmed.covered retrying

theorem afterRestore_at {site : RestoreSite} (restoring : AtRestore state site) :
    AtPoint config pressed state (afterRestore site) := by
  cases site with
  | retry site => exact afterRetry_at restoring.1
  | disarmRequest => exact fun _ => restoring.1
  | commandGap | cleanup => exact trivial

theorem restoreThrew_at {site : RestoreSite} (restoring : AtRestore state site) :
    AtPoint config pressed state (restoreThrew site) := by
  cases site with
  | retry site => exact afterRetry_at restoring.1
  | disarmRequest | commandGap => exact ⟨trivial, nofun⟩
  | cleanup => exact trivial

theorem toCleanup_at : AtPoint config pressed state (toCleanup state.locals) := by
  unfold toCleanup
  split <;> exact trivial

theorem afterClearGap_at (profile : config.safety.resumeOnCommandReturn = true)
    (waits : Waiting state) : AtPoint config pressed state (afterClearGap state.locals) := by
  unfold afterClearGap
  split
  · rename_i waiting
    exact ⟨profile, waits waiting⟩
  · exact trivial

theorem afterDrop_at (profile : config.safety.resumeOnCommandReturn = true)
    (waits : Waiting state) : AtPoint config pressed state (afterDrop state.locals) := by
  unfold afterDrop
  split
  · exact ⟨profile, waits⟩
  · exact afterClearGap_at profile waits

theorem afterUpdate_at (waits : Waiting state) :
    AtPoint config pressed state (afterUpdate config state.locals) := by
  unfold afterUpdate
  split
  · rename_i profile
    split
    · exact ⟨profile, waits⟩
    · exact afterDrop_at profile waits
  · exact toCleanup_at

end Branches

/-! ## Where a step leads -/

/-- The points whose step neither grants nor revokes a licence. -/
def ControlPoint.ordinary : ControlPoint → Bool
  | .update | .dropPermission | .clearGap | .gapQualified | .restore _ _ | .disarm _ _ _
  | .takeover _ _ | .takeoverHealth => false
  | _ => true

/-- The ordinary points whose step leaves all that the licences rest on. -/
def ControlPoint.quiet : ControlPoint → Bool
  | .engageTakeover | .autoStore | .autoGeneration | .loadGeneration | .applyArm => false
  | point => point.ordinary

structure SameLicences (state next : NodeState) : Prop where
  gap : next.gapLicence = state.gapLicence
  button : next.buttonLicence = state.buttonLicence
  vehicle : next.flags.vehicleSafetyMode = state.flags.vehicleSafetyMode
  requested : next.flags.requestedArm = state.flags.requestedArm
  generation : next.flags.armRequestGeneration = state.flags.armRequestGeneration
  applied : next.locals.appliedArmGeneration = state.locals.appliedArmGeneration
  request : next.locals.requestGeneration = state.locals.requestGeneration
  pending : next.flags.recoveryPending = state.flags.recoveryPending
  ecus : next.ecus = state.ecus

section Steps
variable {config : NodeConfig} {state next : NodeState} {input : StepInput}

theorem resting_quiet {receive : ReceivePoint} (resting : receive.resting = true) :
    receive.revokesGap = false ∧ receive.revokesPress = false ∧ receive.pastGap = false := by
  cases receive with
  | loop | connected | connect | poll | lost | stopped => exact ⟨rfl, rfl, rfl⟩
  | connectVehicle | reconnectDisarm | lostVehicle | lostDisarm | lostApplied => cases resting

theorem retry_same {site : RetrySite} {point : RetryPoint}
    (step : retryStep state input site point = some next) : SameLicences state next := by
  cases point with
  | lock =>
      simp only [retryStep] at step
      split at step
      · cases Option.some.inj step
        exact ⟨rfl, rfl, rfl, rfl, rfl, rfl, rfl, rfl, rfl⟩
      · cases step
  | pending | requested | applied | vehicle | connected =>
      simp only [retryStep] at step
      split at step <;> cases Option.some.inj step <;> exact ⟨rfl, rfl, rfl, rfl, rfl, rfl, rfl, rfl, rfl⟩

theorem quiet_same (step : controlStep config state input = some next)
    (quiet : state.control.quiet = true) : SameLicences state next := by
  unfold controlStep at step
  cases point : state.control with
  | retry site retryPoint =>
      simp only [point] at step
      exact retry_same step
  | standby =>
      simp only [point] at step
      split at step
      · cases step
      · cases Option.some.inj step
        exact ⟨rfl, rfl, rfl, rfl, rfl, rfl, rfl, rfl, rfl⟩
  | adapter =>
      simp only [point] at step
      cases usb : input.usb <;> simp only [usb] at step <;> cases step <;>
        exact ⟨rfl, rfl, rfl, rfl, rfl, rfl, rfl, rfl, rfl⟩
  | transmit =>
      simp only [point] at step
      split at step
      · cases step
      · cases Option.some.inj step
        split <;> exact ⟨rfl, rfl, rfl, rfl, rfl, rfl, rfl, rfl, rfl⟩
  | heartbeat =>
      simp only [point] at step
      split at step
      · cases step
      · cases Option.some.inj step
        exact ⟨rfl, rfl, rfl, rfl, rfl, rfl, rfl, rfl, rfl⟩
  | stopped => simp only [point] at step; cases step
  | restore | engageTakeover | autoStore | autoGeneration | loadGeneration | applyArm | update
  | dropPermission | clearGap | gapQualified | disarm | takeover | takeoverHealth =>
      rw [point] at quiet
      cases quiet
  | loop | sample | engageOperator | engageRequested | engageInhibited | engageRearm
  | engageClearInhibited | engageClearRearm | autoInhibited | autoPending | autoRequested
  | loadRequested | loadConnected | applyConnected | disarmPending | disarmVehicle
  | modeFailureApplied | modeFailureConnected | armRefusedApplied | gapVehicle | gapPreserve
  | movingGap | movingButton | readyApplied | readyRequested | readyVehicle | readyPending
  | cleanupCheck | cleanupApplied | cleanupConnected =>
      simp only [point] at step
      cases Option.some.inj step
      exact ⟨rfl, rfl, rfl, rfl, rfl, rfl, rfl, rfl, rfl⟩

theorem ordinary_point (ordinary : state.control.ordinary = true) :
    state.control.beginsDisarm = false ∧ state.control.takesOver = false ∧
      state.control.revokesGap state.locals = false ∧ state.control.revokesPress = false := by
  cases point : state.control <;> rw [point] at ordinary <;>
    first | exact ⟨rfl, rfl, rfl, rfl⟩ | cases ordinary

theorem retry_at {pressed : Prop} {site : RetrySite} {point : RetryPoint}
    (retrying : AtRetry state site)
    (withdrawn : point ≠ .lock → state.flags.recoveryPending = true → state.gapLicence = false)
    (gone : point ≠ .lock ∧ point ≠ .pending → state.gapLicence = false)
    (idle : point = .connected → state.flags.vehicleSafetyMode = false)
    (step : retryStep state input site point = some next) :
    AtPoint config pressed next next.control := by
  cases point with
  | lock =>
      simp only [retryStep] at step
      split at step
      · cases Option.some.inj step
        exact ⟨retrying, fun inner => absurd rfl inner.2, by rintro ⟨⟩⟩
      · cases step
  | pending =>
      simp only [retryStep] at step
      split at step
      · rename_i pending
        cases Option.some.inj step
        exact ⟨retrying, fun _ => withdrawn (by rintro ⟨⟩) pending, by rintro ⟨⟩⟩
      · cases Option.some.inj step
        exact afterRetry_at retrying
  | requested | applied =>
      have gone : state.gapLicence = false := gone ⟨by rintro ⟨⟩, by rintro ⟨⟩⟩
      simp only [retryStep] at step
      split at step
      all_goals cases Option.some.inj step
      all_goals first
        | exact ⟨retrying, fun _ => gone, by rintro ⟨⟩⟩
        | exact afterRetry_at retrying
  | vehicle =>
      have gone : state.gapLicence = false := gone ⟨by rintro ⟨⟩, by rintro ⟨⟩⟩
      simp only [retryStep] at step
      split at step
      · cases Option.some.inj step
        exact afterRetry_at retrying
      · rename_i standby
        cases Option.some.inj step
        have standby : state.flags.vehicleSafetyMode = false := by simpa using standby
        exact ⟨retrying, fun _ => gone, fun _ => standby⟩
  | connected =>
      have gone : state.gapLicence = false := gone ⟨by rintro ⟨⟩, by rintro ⟨⟩⟩
      simp only [retryStep] at step
      split at step
      · cases Option.some.inj step
        exact afterRetry_at retrying
      · cases Option.some.inj step
        split
        · exact ⟨⟨retrying, idle rfl, gone⟩, by rintro (same | same) <;> cases same⟩
        · exact afterRetry_at retrying

theorem applyArm_at (loaded : Loaded state) (withdrawn : Withdrawn state)
    (generation : state.locals.requestGeneration = state.flags.armRequestGeneration)
    {pressed : Prop} :
    AtPoint config pressed (applyArmStep config state) (applyArmStep config state).control := by
  have current : state.flags.armRequestGeneration = state.locals.requestGeneration :=
    generation.symm
  unfold applyArmStep
  dsimp only
  split
  · split
    · split
      · exact trivial
      · exact fun _ _ => Or.inr current
    · exact ⟨fun _ => Or.inr current, loaded, withdrawn⟩
  · rename_i refused
    exact ⟨SafetySupervisor.requestArm_refused (by simpa using refused), nofun⟩

theorem applyArm_same : SameLicences
    (state.setLocals { state.locals with appliedArmGeneration := state.locals.requestGeneration })
    (applyArmStep config state) := by
  unfold applyArmStep
  dsimp only
  split <;> exact ⟨rfl, rfl, rfl, rfl, rfl, rfl, rfl, rfl, rfl⟩

theorem finishDisarm_at {pressed : Prop} {site : DisarmSite} (disarming : AtDisarm config site)
    (revoked : state.gapLicence = false) :
    AtPoint config pressed (finishDisarm state site) (finishDisarm state site).control := by
  cases site with
  | armRefused => exact disarming
  | cleanup => exact revoked
  | modeFailure | dropPermission | commandGap | takeover | adapter | transmit => exact trivial

theorem startTakeover_goto {after : NodeState} {following : TakeoverPoint}
    (taken : startTakeover config state = (after, .goto following)) :
    after = state ∧ following = .work := by
  unfold startTakeover at taken
  split at taken
  · cases taken
    exact ⟨rfl, rfl⟩
  · cases taken

/-- The check of `enter_vehicle_safety_mode` lets a moving vehicle through with a licence only. -/
theorem takeover_at {resume : Bool} {point : TakeoverPoint} {after : NodeState}
    {following : TakeoverPoint} (phase : AtTakeover config state point)
    (taken : takeoverStep config state input resume point = some (after, .goto following)) :
    AtTakeover config after following := by
  have starts : state.flags.vehicleSafetyMode = false → Permitted config state →
      some (startTakeover config state) = some (after, .goto following) →
      AtTakeover config after following := by
    intro standby permitted started
    obtain ⟨rfl, rfl⟩ := startTakeover_goto (Option.some.inj started)
    exact ⟨standby, permitted⟩
  cases point with
  | lock =>
      simp only [takeoverStep] at taken
      split at taken
      · cases taken
        exact trivial
      · cases taken
  | vehicle =>
      simp only [takeoverStep] at taken
      split at taken
      · cases taken
      · rename_i standby
        cases taken
        exact (by simpa using standby : state.flags.vehicleSafetyMode = false)
  | pending =>
      simp only [takeoverStep] at taken
      split_ifs at taken with pending unready moving resumes
      · cases taken
      · cases taken
      · cases taken
        exact phase
      · cases taken
      · exact starts phase (fun moves => absurd moves moving) taken
  | gap =>
      simp only [takeoverStep] at taken
      split_ifs at taken with unqualified profile
      · cases taken
        exact phase
      · refine starts phase (fun _ => ⟨profile, Or.inl ?_⟩) taken
        simpa [NodeState.gapLicence] using unqualified
      · cases taken
  | button =>
      simp only [takeoverStep] at taken
      split_ifs at taken with licensed
      · obtain ⟨button, profile⟩ := Bool.and_eq_true_iff.mp licensed
        exact starts phase (fun _ => ⟨profile, Or.inr button⟩) taken
      · cases taken
  | work =>
      simp only [takeoverStep] at taken
      split at taken
      · rename_i success
        cases taken
        exact ⟨phase.1, takeoverWork_camera success, phase.2⟩
      · cases taken
  | storeVehicle =>
      cases taken
      exact trivial
  | storeButton => cases taken

theorem afterTakeover_at {pressed : Prop} {site : TakeoverSite} :
    AtPoint config pressed state (afterTakeover site) := by
  cases site <;> exact trivial

theorem takeoverThrew_at {pressed : Prop} {site : TakeoverSite} :
    AtPoint config pressed state (takeoverThrew site) := by
  cases site with
  | armRequest | session => exact ⟨trivial, nofun⟩

theorem takeover_taken {site : TakeoverSite} {takeoverPoint : TakeoverPoint}
    (point : state.control = .takeover site takeoverPoint)
    (step : controlStep config state input = some next) :
    ∃ resume after outcome,
      takeoverStep config state input resume takeoverPoint = some (after, outcome) ∧
        next = after.goto (outcome.control site) := by
  unfold controlStep at step
  simp only [point] at step
  split at step
  · cases step
  all_goals
    rename_i taken
    cases Option.some.inj step
    exact ⟨_, _, _, taken, rfl⟩

/-- A USB call of a quiet point that clears `ready_` is answered by a disarm, but the heartbeat. -/
theorem quiet_usb (step : controlStep config state input = some next)
    (quiet : state.control.quiet = true)
    (kept : ¬ HeartbeatLosesUsb state (.control input)) (licence : state.gapLicence = true) :
    next.flags.connected = state.flags.connected ∨ next.control.revokesGap next.locals = true := by
  unfold controlStep at step
  cases point : state.control with
  | retry site retryPoint =>
      simp only [point] at step
      refine Or.inl ?_
      cases retryPoint with
      | lock =>
          simp only [retryStep] at step
          split at step
          · cases Option.some.inj step
            rfl
          · cases step
      | pending | requested | applied | vehicle | connected =>
          simp only [retryStep] at step
          split at step <;> cases Option.some.inj step <;> rfl
  | standby =>
      simp only [point] at step
      split at step
      · cases step
      · cases usb : input.usb <;> simp only [usb] at step <;> cases step
        · exact Or.inr rfl
        · exact Or.inl (by simp [NodeState.afterUsb, NodeState.goto, Except.isOk, Except.toBool])
  | adapter =>
      simp only [point] at step
      cases usb : input.usb <;> simp only [usb] at step <;> cases step <;> exact Or.inl rfl
  | transmit =>
      simp only [point] at step
      split at step
      · cases step
      · cases Option.some.inj step
        split
        · cases usb : input.usb
          · exact Or.inr rfl
          · exact Or.inl (by simp [NodeState.afterUsb, NodeState.goto, Except.isOk, Except.toBool])
        · exact Or.inl rfl
  | heartbeat =>
      simp only [point] at step
      split at step
      · cases step
      · cases Option.some.inj step
        refine Or.inl ?_
        cases connected : state.flags.connected with
        | false =>
            simp [NodeState.afterUsb, NodeState.goto, NodeState.recordState, NodeState.setLocals,
              connected]
        | true =>
            cases answered : input.usb.isOk with
            | true =>
                simp [NodeState.afterUsb, NodeState.goto, NodeState.recordState,
                  NodeState.setLocals, connected]
            | false => exact absurd ⟨point, connected, answered, licence⟩ kept
  | stopped => simp only [point] at step; cases step
  | restore | engageTakeover | autoStore | autoGeneration | loadGeneration | applyArm | update
  | dropPermission | clearGap | gapQualified | disarm | takeover | takeoverHealth =>
      rw [point] at quiet
      cases quiet
  | loop | sample | engageOperator | engageRequested | engageInhibited | engageRearm
  | engageClearInhibited | engageClearRearm | autoInhibited | autoPending | autoRequested
  | loadRequested | loadConnected | applyConnected | disarmPending | disarmVehicle
  | modeFailureApplied | modeFailureConnected | armRefusedApplied | gapVehicle | gapPreserve
  | movingGap | movingButton | readyApplied | readyRequested | readyVehicle | readyPending
  | cleanupCheck | cleanupApplied | cleanupConnected =>
      simp only [point] at step
      cases Option.some.inj step
      exact Or.inl rfl

/-- The iteration that sees no channel armed is about to revoke the licence of the gap. -/
theorem afterUpdate_revokes {locals : LoopLocals}
    (profile : config.safety.resumeOnCommandReturn = true) (none : locals.channelArmed = false) :
    (afterUpdate config locals).revokesGap locals = true := by
  unfold afterUpdate afterDrop
  rw [if_pos profile, none]
  split <;> simp [ControlPoint.revokesGap, none]

end Steps
end Ioniq5Ecan
