import Ioniq5Ecan.Node.IterationPhases

/-! # Licensed iterations

A step of the control loop keeps `Tracked`.  Its points fall in two kinds: the ordinary ones, which
neither grant nor revoke a licence, and the rest, each with a lemma of its own. -/
set_option autoImplicit false
namespace Ioniq5Ecan

/-- The licence of the gap is known after the step. -/
def GapAfter (config : NodeConfig) (gapKnown : Prop) (step : TakenStep) : Prop :=
  step.qualifies = true ∨ keepsGap config step = true ∧ gapKnown

def PressAfter (config : NodeConfig) (pressKnown : Prop) (step : TakenStep) : Prop :=
  step.presses = true ∨ keepsPress config step = true ∧ pressKnown

section Control
variable {config : NodeConfig} {gapKnown pressKnown : Prop} {state next : NodeState}
  {input : StepInput}

theorem keepsPress_control (notTakeover : state.control.takesOver = false)
    (notDisarm : state.control.beginsDisarm = false) :
    keepsPress config (state, .control input) = true := by
  simp [keepsPress, TakenStep.failsTakeover, TakenStep.disarms, TakenStep.calls, notTakeover,
    notDisarm]

theorem pressed_after (ordinary : state.control.ordinary = true) (known : pressKnown) :
    PressAfter config pressKnown (state, .control input) := by
  obtain ⟨notDisarm, notTakeover, _⟩ := ordinary_point ordinary
  exact Or.inr ⟨keepsPress_control notTakeover notDisarm, known⟩

theorem Tracked.current (held : Tracked config gapKnown pressKnown state)
    (idle : state.main = .idle) (licence : state.gapLicence = true) : Current state := by
  refine (held.request licence).resolve_right ?_
  rw [idle]
  exact nofun

/-- Outside the command-gap branch a restoration is pending without its licence only. -/
theorem Tracked.unlicensed (held : Tracked config gapKnown pressKnown state)
    (idle : state.main = .idle) (outside : state.control.restoringGap = false)
    (pending : state.flags.recoveryPending = true) : state.gapLicence = false := by
  cases licence : state.gapLicence with
  | false => rfl
  | true =>
      rcases held.pending licence pending with restoring | destroying
      · exact absurd (outside.symm.trans restoring) nofun
      · rw [idle] at destroying
        cases destroying

theorem quiet_at (held : Tracked config gapKnown pressKnown state) (idle : state.main = .idle)
    (step : controlStep config state input = some next) (quiet : state.control.quiet = true) :
    AtPoint config (PressAfter config pressKnown (state, .control input)) next next.control := by
  have phase := held.atPoint
  have known : state.control.ordinary = true → pressKnown →
      PressAfter config pressKnown (state, .control input) := pressed_after
  unfold controlStep at step
  cases point : state.control with
  | loop =>
      simp only [point] at step
      cases Option.some.inj step
      split
      · exact ⟨trivial, fun inner => absurd rfl inner.1, nofun⟩
      · exact trivial
  | retry site retryPoint =>
      rw [point] at phase
      simp only [point] at step
      refine retry_at phase.1 (fun _ pending => ?_) phase.2.1 phase.2.2 step
      exact held.unlicensed idle (by rw [point]; rfl) pending
  | sample =>
      simp only [point] at step
      cases Option.some.inj step
      split
      · rename_i pressed
        intro notOff
        have notOff : state.flags.operatorDisarmed = false := notOff
        refine Or.inl ?_
        simp [TakenStep.presses, point, (Bool.and_eq_true_iff.mp pressed).1, notOff]
      · exact toAutoArm_at
  | engageOperator =>
      rw [point] at phase known
      simp only [point] at step
      cases Option.some.inj step
      split
      · exact toAutoArm_at
      · rename_i notOff
        exact known rfl (phase (by simpa using notOff))
  | engageRequested | engageInhibited | engageRearm =>
      rw [point] at phase known
      simp only [point] at step
      cases Option.some.inj step
      split
      all_goals first | exact toAutoArm_at | exact known rfl phase
  | engageClearInhibited | engageClearRearm =>
      rw [point] at phase known
      simp only [point] at step
      cases Option.some.inj step
      exact known rfl phase
  | autoInhibited | autoPending | autoRequested =>
      simp only [point] at step
      cases Option.some.inj step
      split <;> exact trivial
  | loadRequested =>
      simp only [point] at step
      cases Option.some.inj step
      rfl
  | loadConnected =>
      rw [point] at phase
      obtain ⟨requested, loaded, generation⟩ := phase
      simp only [point] at step
      cases Option.some.inj step
      split
      · exact ⟨loaded, generation, fun off => absurd (requested.symm.trans off) nofun⟩
      · exact fun _ _ => Or.inl requested
  | standby =>
      simp only [point] at step
      split at step
      · cases step
      · cases usb : input.usb <;> simp only [usb] at step <;> cases step
        · exact ⟨trivial, nofun⟩
        · exact trivial
  | applyConnected =>
      rw [point] at phase
      obtain ⟨covered, loaded, withdrawn⟩ := phase
      simp only [point] at step
      cases Option.some.inj step
      split
      · exact fun _ => covered
      split
      · exact trivial
      · rename_i off
        exact ⟨covered, withdrawn (by rw [← loaded]; simpa using off)⟩
  | disarmPending =>
      rw [point] at phase
      simp only [point] at step
      cases Option.some.inj step
      split
      · exact phase
      · exact ⟨phase, nofun⟩
  | disarmVehicle =>
      rw [point] at phase
      simp only [point] at step
      cases Option.some.inj step
      split
      · exact ⟨phase, fun _ => phase.2, nofun⟩
      · exact ⟨phase, nofun⟩
  | modeFailureApplied =>
      simp only [point] at step
      cases Option.some.inj step
      exact (SafetySupervisor.requestArm_off_disengaged config.safety _).unarmed
  | modeFailureConnected =>
      rw [point] at phase
      simp only [point] at step
      cases Option.some.inj step
      split
      · exact ⟨phase, fun inner => absurd rfl inner.1, nofun⟩
      · exact fun _ => Unarmed.covered phase
  | armRefusedApplied =>
      rw [point] at phase
      simp only [point] at step
      cases Option.some.inj step
      exact fun allowed => absurd (phase.symm.trans allowed) nofun
  | gapVehicle =>
      rw [point] at phase
      simp only [point] at step
      cases Option.some.inj step
      split
      · rename_i vehicle
        exact ⟨phase.1, phase.2, vehicle⟩
      · exact trivial
  | gapPreserve =>
      simp only [point] at step
      cases Option.some.inj step
      exact ⟨trivial, nofun⟩
  | movingGap =>
      simp only [point] at step
      cases Option.some.inj step
      split <;> exact trivial
  | movingButton =>
      simp only [point] at step
      cases Option.some.inj step
      exact trivial
  | readyApplied | readyRequested | readyVehicle | readyPending =>
      simp only [point] at step
      cases Option.some.inj step
      split
      · exact trivial
      · exact toCleanup_at
  | cleanupCheck =>
      simp only [point] at step
      cases Option.some.inj step
      split
      · exact ⟨trivial, nofun⟩
      · exact trivial
  | cleanupApplied =>
      rw [point] at phase
      simp only [point] at step
      cases Option.some.inj step
      exact phase
  | cleanupConnected =>
      rw [point] at phase
      simp only [point] at step
      cases Option.some.inj step
      split
      · exact ⟨phase, nofun⟩
      · exact trivial
  | adapter =>
      simp only [point] at step
      cases usb : input.usb <;> simp only [usb] at step <;> cases step
      · exact ⟨trivial, nofun⟩
      · exact trivial
  | transmit =>
      simp only [point] at step
      split at step
      · cases step
      · cases Option.some.inj step
        split
        · cases usb : input.usb
          · exact ⟨trivial, nofun⟩
          · exact trivial
        · exact trivial
  | heartbeat =>
      simp only [point] at step
      split at step
      · cases step
      · cases Option.some.inj step
        exact trivial
  | stopped => simp only [point] at step; cases step
  | restore | engageTakeover | autoStore | autoGeneration | loadGeneration | applyArm | update
  | dropPermission | clearGap | gapQualified | disarm | takeover | takeoverHealth =>
      rw [point] at quiet
      cases quiet

theorem keepsGap_control (step : controlStep config state input = some next)
    (notGap : state.control ≠ .gapQualified)
    (channel : state.control = .update → (updateStep config state).locals.channelArmed = true)
    (notDisarm : state.control.beginsDisarm = false)
    (vehicle : state.flags.vehicleSafetyMode = true → next.flags.vehicleSafetyMode = true ∨
      state.control = .restore .commandGap .vehicle)
    (usb : next.flags.connected = state.flags.connected) :
    keepsGap config (state, .control input) = true := by
  have taken : nodeStep config state (.control input) = some next := step
  have leaves : (!TakenStep.leavesVehicleMode config (state, .control input) ||
      TakenStep.restoresGap (state, .control input)) = true := by
    simp only [TakenStep.leavesVehicleMode, TakenStep.restoresGap, taken, Option.any_some]
    cases mode : state.flags.vehicleSafetyMode with
    | false => rfl
    | true => rcases vehicle mode with kept | point <;> simp [*]
  have sees : TakenStep.seesNoChannel config (state, .control input) = false := by
    rw [Bool.eq_false_iff]
    intro none
    obtain ⟨point, none⟩ := Bool.and_eq_true_iff.mp none
    simp [channel (by simpa using point)] at none
  have lost : TakenStep.losesUsb config (state, .control input) = false := by
    simp [TakenStep.losesUsb, taken, usb]
  simp [keepsGap, TakenStep.takesGap, TakenStep.disarms, TakenStep.calls, lost, notGap, sees,
    notDisarm, leaves]

/-- Where no thread is about to revoke the licence of the gap, it is known. -/
theorem Tracked.gap_known (held : Tracked config gapKnown pressKnown state)
    (idle : state.main = .idle) (resting : state.receive.resting = true)
    (kept : state.control.revokesGap state.locals = false) (licence : state.gapLicence = true) :
    gapKnown := by
  refine (held.gap licence).resolve_right ?_
  rw [NodeState.revokingGap, kept, idle, (resting_quiet resting).1]
  exact nofun

theorem Tracked.press_known (held : Tracked config gapKnown pressKnown state)
    (idle : state.main = .idle) (resting : state.receive.resting = true)
    (kept : state.control.revokesPress = false) (licence : state.buttonLicence = true) :
    pressKnown := by
  refine (held.press licence).resolve_right ?_
  rw [NodeState.revokingPress, kept, idle, (resting_quiet resting).2.1]
  exact nofun

theorem Tracked.camera_off (held : Tracked config gapKnown pressKnown state)
    (idle : state.main = .idle) (mode : state.flags.vehicleSafetyMode = true) :
    state.ecus.camera.disabled = true := by
  refine (held.camera mode).resolve_right ?_
  rw [idle]
  exact nofun

/-- A step of the control loop keeps `Tracked` once the licences, the arm request and the vehicle
mode are accounted for. -/
theorem Tracked.control (idle : state.main = .idle) (resting : state.receive.resting = true)
    (step : controlStep config state input = some next)
    (gap : next.gapLicence = true →
      GapAfter config gapKnown (state, .control input) ∨ next.control.revokesGap next.locals = true)
    (press : next.buttonLicence = true →
      PressAfter config pressKnown (state, .control input) ∨ next.control.revokesPress = true)
    (request : next.gapLicence = true → Current next)
    (pending : next.gapLicence = true → next.flags.recoveryPending = true →
      next.control.restoringGap = true)
    (profile : next.gapLicence = true → config.safety.resumeOnCommandReturn = true)
    (camera : next.flags.vehicleSafetyMode = true → next.ecus.camera.disabled = true)
    (atPoint : AtPoint config (PressAfter config pressKnown (state, .control input)) next
      next.control) :
    Tracked config (GapAfter config gapKnown (state, .control input))
      (PressAfter config pressKnown (state, .control input)) next := by
  obtain ⟨main, receive⟩ := control_threads (control_move step)
  have idleAfter : next.main = .idle := main.trans idle
  have restingAfter : next.receive.resting = true := receive ▸ resting
  refine {
    controlAlone := fun _ => ⟨idleAfter, restingAfter⟩
    mainAlone := fun _ => restingAfter
    gap := fun licence => ?_
    press := fun licence => ?_
    revoked := ?_
    request := fun licence => Or.inl (request licence)
    pending := fun licence standing => Or.inl (pending licence standing)
    profile := profile
    camera := fun mode => Or.inl (camera mode)
    atPoint := atPoint }
  · refine (gap licence).imp_right fun revokes => ?_
    rw [NodeState.revokingGap, revokes]
    rfl
  · refine (press licence).imp_right fun revokes => ?_
    rw [NodeState.revokingPress, revokes]
    rfl
  · rw [idleAfter, (resting_quiet restingAfter).2.2]
    exact nofun

theorem Tracked.ordinary (held : Tracked config gapKnown pressKnown state)
    (idle : state.main = .idle) (resting : state.receive.resting = true)
    (step : controlStep config state input = some next)
    (ordinary : state.control.ordinary = true)
    (gap : next.gapLicence = true → state.gapLicence = true)
    (button : next.buttonLicence = true → state.buttonLicence = true ∨ pressKnown)
    (vehicle : state.flags.vehicleSafetyMode = true → next.flags.vehicleSafetyMode = true)
    (usb : state.gapLicence = true → next.flags.connected = state.flags.connected ∨
      next.control.revokesGap next.locals = true)
    (request : next.gapLicence = true → Current next)
    (pending : next.gapLicence = true → next.flags.recoveryPending = true →
      next.control.restoringGap = true)
    (camera : next.flags.vehicleSafetyMode = true → next.ecus.camera.disabled = true)
    (atPoint : AtPoint config (PressAfter config pressKnown (state, .control input)) next
      next.control) :
    Tracked config (GapAfter config gapKnown (state, .control input))
      (PressAfter config pressKnown (state, .control input)) next := by
  obtain ⟨notDisarm, notTakeover, keepsGap, keepsPress⟩ := ordinary_point ordinary
  refine Tracked.control idle resting step (fun licence => ?_)
    (fun licence => Or.inl (pressed_after ordinary ?_)) request pending
    (fun licence => held.profile (gap licence)) camera atPoint
  · refine (usb (gap licence)).imp_left fun same => Or.inr ⟨?_, ?_⟩
    · refine keepsGap_control step ?_ ?_ notDisarm (fun mode => Or.inl (vehicle mode)) same
      all_goals
        intro point
        rw [point] at ordinary
        cases ordinary
    · exact held.gap_known idle resting keepsGap (gap licence)
  · rcases button licence with before | known
    · exact held.press_known idle resting keepsPress before
    · exact known

theorem Tracked.quiet (held : Tracked config gapKnown pressKnown state)
    (idle : state.main = .idle) (resting : state.receive.resting = true)
    (step : controlStep config state input = some next)
    (quiet : state.control.quiet = true)
    (kept : ¬ HeartbeatLosesUsb state (.control input)) :
    Tracked config (GapAfter config gapKnown (state, .control input))
      (PressAfter config pressKnown (state, .control input)) next := by
  have ordinary : state.control.ordinary = true := by
    cases point : state.control <;> rw [point] at quiet <;> first | exact quiet | cases quiet
  have same := quiet_same step quiet
  have gap : next.gapLicence = true → state.gapLicence = true := fun after => same.gap ▸ after
  refine held.ordinary idle resting step ordinary gap (fun after => Or.inl (same.button ▸ after))
    (fun mode => same.vehicle.trans mode) (quiet_usb step quiet kept) (fun after => ?_)
    (fun after standing => ?_) (fun mode => ?_) (quiet_at held idle step quiet)
  · exact (held.current idle (gap after)).imp same.requested.trans
      fun current => same.generation.trans (current.trans same.applied.symm)
  · have standing : state.flags.recoveryPending = true := same.pending ▸ standing
    cases restoring : state.control.restoringGap with
    | false =>
        have gone := held.unlicensed idle restoring standing
        exact absurd (gone.symm.trans (gap after)) nofun
    | true =>
        cases point : state.control with
        | gapPreserve =>
            unfold controlStep at step
            simp only [point] at step
            cases Option.some.inj step
            rfl
        | restore | disarm =>
            rw [point] at quiet
            cases quiet
        | _ =>
            rw [point] at restoring
            cases restoring
  · rw [same.ecus]
    exact held.camera_off idle (same.vehicle ▸ mode)

/-- A step of `enter_no_output_mode` in the control loop, once its point is accounted for. -/
theorem Tracked.restoring (held : Tracked config gapKnown pressKnown state)
    (idle : state.main = .idle) (resting : state.receive.resting = true) {site : RestoreSite}
    {restorePoint : RestorePoint} (point : state.control = .restore site restorePoint)
    (step : controlStep config state input = some next)
    (gap : next.gapLicence = true → state.gapLicence = true ∧
      (next.flags.connected = state.flags.connected ∧
          state.control.revokesGap state.locals = false ∨
        next.control.revokesGap next.locals = true))
    (button : next.buttonLicence = state.buttonLicence)
    (vehicle : next.gapLicence = true → state.flags.vehicleSafetyMode = true →
      next.flags.vehicleSafetyMode = true ∨ state.control = .restore .commandGap .vehicle)
    (current : Current state → Current next)
    (pending : next.gapLicence = true → next.flags.recoveryPending = true →
      next.control.restoringGap = true)
    (camera : next.flags.vehicleSafetyMode = true → next.ecus.camera.disabled = true)
    (atPoint : AtPoint config (PressAfter config pressKnown (state, .control input)) next
      next.control) :
    Tracked config (GapAfter config gapKnown (state, .control input))
      (PressAfter config pressKnown (state, .control input)) next := by
  have notDisarm : state.control.beginsDisarm = false := by rw [point]; rfl
  have notTakeover : state.control.takesOver = false := by rw [point]; rfl
  refine Tracked.control idle resting step (fun licence => ?_)
    (fun licence => Or.inl (Or.inr ⟨keepsPress_control notTakeover notDisarm, ?_⟩))
    (fun licence => current (held.current idle (gap licence).1)) pending
    (fun licence => held.profile (gap licence).1) camera atPoint
  · obtain ⟨before, stays⟩ := gap licence
    refine stays.imp_left fun ⟨same, quiet⟩ => Or.inr ⟨?_, ?_⟩
    · refine keepsGap_control step ?_ ?_ notDisarm (vehicle licence) same
      all_goals
        rw [point]
        exact nofun
    · exact held.gap_known idle resting quiet before
  · exact held.press_known idle resting (by rw [point]; rfl) (button ▸ licence)

/-- `enter_no_output_mode` leaves vehicle mode where the licence of the gap is gone or exempt, and
works on the ECUs out of vehicle mode. -/
theorem Tracked.restore (held : Tracked config gapKnown pressKnown state)
    (idle : state.main = .idle) (resting : state.receive.resting = true) {site : RestoreSite}
    {restorePoint : RestorePoint} (point : state.control = .restore site restorePoint)
    (step : controlStep config state input = some next) :
    Tracked config (GapAfter config gapKnown (state, .control input))
      (PressAfter config pressKnown (state, .control input)) next := by
  have phase := held.atPoint
  rw [point] at phase
  obtain ⟨restoring, standby⟩ := phase
  have gone : site ≠ .commandGap → state.gapLicence = false := by
    intro other
    cases site with
    | retry site => exact restoring.2.2
    | disarmRequest => exact restoring.2
    | cleanup => exact restoring
    | commandGap => exact absurd rfl other
  -- Only the restoration of the command-gap branch has the licence.
  have licensed : state.gapLicence = true → site = .commandGap := by
    intro licence
    by_contra other
    exact Bool.false_ne_true ((gone other).symm.trans licence)
  have camera := held.camera_off idle
  have taken := step
  unfold controlStep at taken
  simp only [point] at taken
  cases restorePoint with
  | lock =>
      simp only [restoreStep] at taken
      cases mutex : state.actuationMutex with
      | none =>
          simp only [mutex] at taken
          cases Option.some.inj taken
          refine held.restoring idle resting point step
            (fun licence => ⟨licence, Or.inl ⟨rfl, ?_⟩⟩) rfl (fun _ => Or.inl) id
            (fun licence _ => ?_) camera ⟨restoring, by rintro (same | same) <;> cases same⟩
          · rw [point]
            cases site <;> rfl
          · cases licensed licence
            rfl
      | some holder =>
          simp only [mutex] at taken
          cases taken
  | vehicle =>
      simp only [restoreStep] at taken
      cases Option.some.inj taken
      refine held.restoring idle resting point step
        (fun licence => ⟨licence, Or.inl ⟨rfl, ?_⟩⟩) rfl (fun licence _ => Or.inr ?_) id
        (fun licence _ => ?_) (by rintro ⟨⟩) ⟨?_, fun _ => rfl⟩
      · rw [point]
        cases site <;> rfl
      · cases licensed licence
        exact point
      · cases licensed licence
        rfl
      · cases site with
        | retry site => exact ⟨restoring.1, rfl, restoring.2.2⟩
        | disarmRequest | commandGap | cleanup => exact restoring
  | pending =>
      simp only [restoreStep] at taken
      cases Option.some.inj taken
      refine held.restoring idle resting point step
        (fun licence => ⟨licence, Or.inl ⟨rfl, ?_⟩⟩) rfl (fun _ => Or.inl) id
        (fun licence _ => ?_) camera ⟨restoring, fun _ => standby (Or.inl rfl)⟩
      · rw [point]
        cases site <;> rfl
      · cases licensed licence
        rfl
  | work =>
      simp only [restoreStep] at taken
      cases Option.some.inj taken
      refine held.restoring idle resting point step (fun licence => ⟨licence, ?_⟩) rfl
        (fun _ => Or.inl) id (fun licence _ => ?_)
        (fun mode => absurd ((standby (Or.inr rfl)).symm.trans mode) Bool.false_ne_true)
        ⟨restoring, ?_⟩
      · cases licensed licence
        split
        · rename_i complete
          refine Or.inl ⟨?_, by rw [point]; rfl⟩
          simp [NodeState.afterUsb, NodeState.goto, complete]
        · exact Or.inr rfl
      · cases licensed licence
        split <;> rfl
      · split <;> rintro (same | same) <;> cases same
  | clear =>
      simp only [restoreStep] at taken
      cases Option.some.inj taken
      refine held.restoring idle resting point step
        (fun licence => ⟨licence, Or.inl ⟨rfl, ?_⟩⟩) rfl (fun _ => Or.inl) id
        (fun _ pending => absurd pending Bool.false_ne_true) camera (afterRestore_at restoring)
      rw [point]
      cases site <;> rfl
  | inhibited errors =>
      simp only [restoreStep] at taken
      cases Option.some.inj taken
      refine held.restoring idle resting point step (fun licence => ⟨licence, Or.inr ?_⟩) rfl
        (fun _ => Or.inl) id (fun licence _ => ?_) camera
        ⟨restoring, by rintro (same | same) <;> cases same⟩
      all_goals
        cases licensed licence
        rfl
  | rearm errors =>
      simp only [restoreStep] at taken
      cases Option.some.inj taken
      refine held.restoring idle resting point step (fun licence => ⟨licence, Or.inr ?_⟩) rfl
        (fun _ => Or.inl) id (fun licence _ => ?_) camera (restoreThrew_at restoring)
      all_goals
        cases licensed licence
        rfl

theorem Tracked.arming (held : Tracked config gapKnown pressKnown state)
    (idle : state.main = .idle) (resting : state.receive.resting = true)
    (step : controlStep config state input = some next)
    (ordinary : state.control.ordinary = true) (notQuiet : state.control.quiet = false) :
    Tracked config (GapAfter config gapKnown (state, .control input))
      (PressAfter config pressKnown (state, .control input)) next := by
  have phase := held.atPoint
  have taken := step
  unfold controlStep at taken
  have camera := held.camera_off idle
  have current := held.current idle
  have unlicensed : state.control.restoringGap = false → state.gapLicence = true →
      state.flags.recoveryPending = true → next.control.restoringGap = true :=
    fun outside licence pending =>
      absurd ((held.unlicensed idle outside pending).symm.trans licence) Bool.false_ne_true
  cases point : state.control with
  | engageTakeover =>
      rw [point] at phase unlicensed
      simp only [point] at taken
      cases Option.some.inj taken
      exact held.ordinary idle resting step ordinary id (fun _ => Or.inr phase) id
        (fun _ => Or.inl rfl) current (unlicensed rfl) camera toAutoArm_at
  | autoStore =>
      rw [point] at unlicensed
      simp only [point] at taken
      cases Option.some.inj taken
      exact held.ordinary idle resting step ordinary id Or.inl id (fun _ => Or.inl rfl)
        (fun _ => Or.inl rfl) (unlicensed rfl) camera rfl
  | autoGeneration =>
      rw [point] at phase unlicensed
      simp only [point] at taken
      cases Option.some.inj taken
      exact held.ordinary idle resting step ordinary id Or.inl id (fun _ => Or.inl rfl)
        (fun _ => Or.inl phase) (unlicensed rfl) camera trivial
  | loadGeneration =>
      rw [point] at phase unlicensed
      simp only [point] at taken
      cases Option.some.inj taken
      refine held.ordinary idle resting step ordinary id Or.inl id (fun _ => Or.inl rfl) current
        (unlicensed rfl) camera ?_
      split
      · rename_i same
        exact fun _ _ => Or.inr same
      · rename_i raised
        split
        · rename_i wanted
          exact ⟨phase.symm.trans wanted, phase, rfl⟩
        · refine ⟨phase, rfl, fun off => Bool.eq_false_iff.mpr fun licence => ?_⟩
          rcases current licence with requested | applied
          · exact absurd (requested.symm.trans off) nofun
          · exact raised applied
  | applyArm =>
      rw [point] at phase unlicensed
      obtain ⟨loaded, generation, withdrawn⟩ := phase
      simp only [point] at taken
      cases Option.some.inj taken
      have same := @applyArm_same config state
      have gap : (applyArmStep config state).gapLicence = true → state.gapLicence = true :=
        fun after => same.gap ▸ after
      refine held.ordinary idle resting step ordinary gap
        (fun after => Or.inl (same.button ▸ after)) (fun mode => same.vehicle.trans mode)
        (fun _ => Or.inl ?_) (fun _ => Or.inr ?_) (fun after pending => ?_) (fun mode => ?_)
        (applyArm_at loaded withdrawn generation)
      · unfold applyArmStep
        dsimp only
        split <;> rfl
      · rw [same.applied, same.generation]
        exact generation.symm
      · exact unlicensed rfl (gap after) (same.pending ▸ pending)
      · rw [same.ecus]
        exact camera (same.vehicle ▸ mode)
  | loop | retry | sample | engageOperator | engageRequested | engageInhibited | engageRearm
  | engageClearInhibited | engageClearRearm | autoInhibited | autoPending | autoRequested
  | loadRequested | loadConnected | standby | applyConnected | disarmPending | disarmVehicle
  | modeFailureApplied | modeFailureConnected | armRefusedApplied | gapVehicle | gapPreserve
  | movingGap | movingButton | readyApplied | readyRequested | readyVehicle | readyPending
  | cleanupCheck | cleanupApplied | cleanupConnected | adapter | transmit | heartbeat | stopped =>
      rw [point] at notQuiet
      cases notQuiet
  | restore | update | dropPermission | clearGap | gapQualified | disarm | takeover
  | takeoverHealth =>
      rw [point] at ordinary
      cases ordinary

theorem Tracked.disarming (held : Tracked config gapKnown pressKnown state)
    (idle : state.main = .idle) (resting : state.receive.resting = true)
    (step : controlStep config state input = some next)
    (inside : state.control.takesOver = false ∧ state.control.beginsDisarm = false)
    (revoked : next.gapLicence = false)
    (press : next.buttonLicence = true →
      state.buttonLicence = true ∧ state.control.revokesPress = false)
    (camera : next.flags.vehicleSafetyMode = true → next.ecus.camera.disabled = true)
    (atPoint : AtPoint config (PressAfter config pressKnown (state, .control input)) next
      next.control) :
    Tracked config (GapAfter config gapKnown (state, .control input))
      (PressAfter config pressKnown (state, .control input)) next := by
  have noLicence : ∀ {conclusion : Prop}, next.gapLicence = true → conclusion :=
    fun licence => absurd (revoked.symm.trans licence) nofun
  refine Tracked.control idle resting step noLicence (fun licence => ?_) noLicence noLicence
    noLicence camera atPoint
  obtain ⟨before, keeps⟩ := press licence
  exact Or.inl (Or.inr ⟨keepsPress_control inside.1 inside.2,
    held.press_known idle resting keeps before⟩)

theorem Tracked.disarm (held : Tracked config gapKnown pressKnown state)
    (idle : state.main = .idle) (resting : state.receive.resting = true) {site : DisarmSite}
    {require : Bool} {disarmPoint : DisarmPoint}
    (point : state.control = .disarm site require disarmPoint)
    (step : controlStep config state input = some next) :
    Tracked config (GapAfter config gapKnown (state, .control input))
      (PressAfter config pressKnown (state, .control input)) next := by
  have phase := held.atPoint
  rw [point] at phase
  obtain ⟨disarming, revoked⟩ := phase
  have taken := step
  unfold controlStep at taken
  simp only [point] at taken
  have camera := held.camera_off idle
  cases disarmPoint with
  | preserve =>
      simp only [disarmStep] at taken
      cases Option.some.inj taken
      refine Tracked.control idle resting step (fun _ => Or.inr rfl) (fun _ => Or.inr rfl)
        (held.current idle) (fun licence pending => ?_) held.profile camera ⟨disarming, nofun⟩
      rcases held.pending licence pending with restoring | destroying
      · rw [point] at restoring
        cases site <;> first | rfl | cases restoring
      · rw [idle] at destroying
        cases destroying
  | gap =>
      simp only [disarmStep] at taken
      cases Option.some.inj taken
      exact Tracked.control idle resting step nofun (fun _ => Or.inr rfl) nofun nofun nofun camera
        ⟨disarming, fun _ => rfl⟩
  | button =>
      simp only [disarmStep] at taken
      cases Option.some.inj taken
      exact held.disarming idle resting step ⟨by rw [point]; rfl, by rw [point]; rfl⟩ (revoked rfl)
        nofun camera ⟨disarming, revoked⟩
  | requested | applied | vehicle | inhibited | rearm | pending =>
      simp only [disarmStep] at taken
      cases Option.some.inj taken
      exact held.disarming idle resting step ⟨by rw [point]; rfl, by rw [point]; rfl⟩ (revoked rfl)
        (fun licence => ⟨licence, by rw [point]; rfl⟩) camera ⟨disarming, fun _ => revoked rfl⟩
  | generation =>
      simp only [disarmStep] at taken
      cases Option.some.inj taken
      have atPoint : AtPoint config (PressAfter config pressKnown (state, .control input)) _ _ :=
        @finishDisarm_at config (state.setFlags { state.flags with
          armRequestGeneration := state.flags.armRequestGeneration + 1 }) _ site disarming
          (revoked rfl)
      have inside : state.control.takesOver = false ∧ state.control.beginsDisarm = false := by
        rw [point]
        exact ⟨rfl, rfl⟩
      cases site <;>
        exact held.disarming idle resting step inside (revoked rfl)
          (fun licence => ⟨licence, by rw [point]; rfl⟩) camera atPoint

/-- A step of a takeover keeps what is known of a press, or fails and is about to revoke it. -/
theorem press_takeover (step : controlStep config state input = some next)
    (takes : state.control.takesOver = true) (known : pressKnown) :
    PressAfter config pressKnown (state, .control input) ∨ next.control.revokesPress = true := by
  cases failing : next.control.beginsDisarm with
  | true =>
      refine Or.inr ?_
      cases point : next.control <;> rw [point] at failing <;> first
        | cases failing
        | (rename_i disarmPoint; cases disarmPoint <;> first | rfl | cases failing)
  | false =>
      have notDisarm : state.control.beginsDisarm = false := by
        cases point : state.control <;> rw [point] at takes <;> first | rfl | cases takes
      refine Or.inl (Or.inr ⟨?_, known⟩)
      simp [keepsPress, TakenStep.failsTakeover, TakenStep.disarms, TakenStep.calls, step,
        failing, notDisarm]

/-- A step of a takeover: where its USB call fails, a disarm follows. -/
theorem Tracked.taking (held : Tracked config gapKnown pressKnown state)
    (idle : state.main = .idle) (resting : state.receive.resting = true)
    (step : controlStep config state input = some next)
    (takes : state.control.takesOver = true)
    (gap : next.gapLicence = state.gapLicence)
    (button : next.buttonLicence = true → state.buttonLicence = true)
    (vehicle : state.flags.vehicleSafetyMode = true → next.flags.vehicleSafetyMode = true)
    (usb : next.flags.connected = state.flags.connected ∨
      next.control.revokesGap next.locals = true)
    (current : Current state → Current next)
    (pending : next.flags.recoveryPending = state.flags.recoveryPending)
    (camera : next.flags.vehicleSafetyMode = true → next.ecus.camera.disabled = true)
    (atPoint : AtPoint config (PressAfter config pressKnown (state, .control input)) next
      next.control) :
    Tracked config (GapAfter config gapKnown (state, .control input))
      (PressAfter config pressKnown (state, .control input)) next := by
  have inside : state.control ≠ .gapQualified ∧ state.control ≠ .update ∧
      state.control.beginsDisarm = false ∧ state.control.revokesGap state.locals = false ∧
      state.control.revokesPress = false ∧ state.control.restoringGap = false := by
    cases point : state.control with
    | takeover | takeoverHealth => exact ⟨nofun, nofun, rfl, rfl, rfl, rfl⟩
    | _ =>
        rw [point] at takes
        cases takes
  obtain ⟨notGap, notUpdate, notDisarm, keepsGap, keepsPress, outside⟩ := inside
  refine Tracked.control idle resting step (fun licence => ?_)
    (fun licence => press_takeover step takes ?_) (fun licence => ?_) (fun licence standing => ?_)
    (fun licence => ?_) camera atPoint
  · refine usb.imp_left fun same => Or.inr ⟨?_, ?_⟩
    · exact keepsGap_control step notGap (fun point => absurd point notUpdate) notDisarm
        (fun mode => Or.inl (vehicle mode)) same
    · exact held.gap_known idle resting keepsGap (gap ▸ licence)
  · exact held.press_known idle resting keepsPress (button licence)
  · exact current (held.current idle (gap ▸ licence))
  · have gone := held.unlicensed idle outside (pending ▸ standing)
    exact absurd (gone.symm.trans (gap.symm.trans licence)) nofun
  · exact held.profile (gap ▸ licence)

theorem Tracked.takeover (held : Tracked config gapKnown pressKnown state)
    (idle : state.main = .idle) (resting : state.receive.resting = true) {site : TakeoverSite}
    {takeoverPoint : TakeoverPoint} (point : state.control = .takeover site takeoverPoint)
    (step : controlStep config state input = some next) :
    Tracked config (GapAfter config gapKnown (state, .control input))
      (PressAfter config pressKnown (state, .control input)) next := by
  have takes : state.control.takesOver = true := by
    rw [point]
    rfl
  have checked := held.atPoint
  rw [point] at checked
  obtain ⟨resume, after, outcome, taken, rfl⟩ := takeover_taken point step
  have atPoint : AtPoint config (PressAfter config pressKnown (state, .control input))
      (after.goto (outcome.control site)) (outcome.control site) := by
    cases outcome with
    | goto following =>
        have checkedAfter : AtTakeover config after following := takeover_at checked taken
        exact checkedAfter
    | returned => exact afterTakeover_at
    | threw what => exact takeoverThrew_at
  have camera := held.camera_off idle
  have current : Current state → Current state := id
  cases takeover_move taken with
  | lock | check | leave =>
      exact held.taking idle resting step takes rfl id id (Or.inl rfl) current rfl camera atPoint
  | worked success =>
      refine held.taking idle resting step takes rfl id id (Or.inl ?_) current rfl
        (fun mode => ?_) atPoint
      · simp [NodeState.afterUsb, NodeState.goto, success, Except.isOk, Except.toBool]
      · exact absurd (checked.1.symm.trans mode) Bool.false_ne_true
  | failed =>
      refine held.taking idle resting step takes rfl id id (Or.inr ?_) current rfl
        (fun mode => ?_) atPoint
      · cases site <;> rfl
      · exact absurd (checked.1.symm.trans mode) Bool.false_ne_true
  | storeVehicle =>
      exact held.taking idle resting step takes rfl id (fun _ => rfl) (Or.inl rfl) current rfl
        (fun _ => checked.2.1) atPoint
  | storeButton =>
      exact held.taking idle resting step takes rfl (fun set => absurd set Bool.false_ne_true) id
        (Or.inl rfl) current rfl camera atPoint

theorem Tracked.takeoverHealth (held : Tracked config gapKnown pressKnown state)
    (idle : state.main = .idle) (resting : state.receive.resting = true)
    (point : state.control = .takeoverHealth) (step : controlStep config state input = some next) :
    Tracked config (GapAfter config gapKnown (state, .control input))
      (PressAfter config pressKnown (state, .control input)) next := by
  have takes : state.control.takesOver = true := by
    rw [point]
    rfl
  have taken := step
  unfold controlStep at taken
  simp only [point] at taken
  cases Option.some.inj taken
  refine held.taking idle resting step takes rfl id id ?_ id rfl (held.camera_off idle) ?_
  · cases input.usb with
    | ok => exact Or.inl (by simp [NodeState.afterUsb, NodeState.goto, Except.isOk, Except.toBool])
    | error what => exact Or.inr rfl
  · cases input.usb with
    | ok => exact trivial
    | error what => exact ⟨trivial, fun never => by cases never⟩

def ControlPoint.deciding : ControlPoint → Bool
  | .update | .dropPermission | .gapQualified => true
  | _ => false

theorem deciding_press (held : Tracked config gapKnown pressKnown state)
    (idle : state.main = .idle) (resting : state.receive.resting = true)
    (deciding : state.control.deciding = true) (licence : state.buttonLicence = true) :
    PressAfter config pressKnown (state, .control input) := by
  have quiet : state.control.takesOver = false ∧ state.control.beginsDisarm = false ∧
      state.control.revokesPress = false := by
    cases point : state.control with
    | update | dropPermission | gapQualified => exact ⟨rfl, rfl, rfl⟩
    | _ =>
        rw [point] at deciding
        cases deciding
  exact Or.inr ⟨keepsPress_control quiet.1 quiet.2.1,
    held.press_known idle resting quiet.2.2 licence⟩

theorem Tracked.update (held : Tracked config gapKnown pressKnown state)
    (idle : state.main = .idle) (resting : state.receive.resting = true)
    (point : state.control = .update) (step : controlStep config state input = some next) :
    Tracked config (GapAfter config gapKnown (state, .control input))
      (PressAfter config pressKnown (state, .control input)) next := by
  have covered := held.atPoint
  rw [point] at covered
  have taken := step
  unfold controlStep at taken
  simp only [point] at taken
  cases Option.some.inj taken
  have waits : Waiting (updateStep config state) := by
    intro waiting
    obtain ⟨allowed, before⟩ := SafetySupervisor.update_stays_armed (Or.inr waiting)
    exact covered allowed before
  refine Tracked.control idle resting step (fun licence => ?_)
    (fun licence => Or.inl (deciding_press held idle resting (by rw [point]; rfl) licence))
    (held.current idle) (fun licence pending => ?_) held.profile (held.camera_off idle)
    (afterUpdate_at waits)
  · cases channel : (updateStep config state).locals.channelArmed with
    | true =>
        refine Or.inl (Or.inr ⟨keepsGap_control step ?_ (fun _ => channel) ?_
          (fun mode => Or.inl mode) rfl, held.gap_known idle resting ?_ licence⟩)
        all_goals rw [point]
        · exact nofun
        · rfl
        · rfl
    | false => exact Or.inr (afterUpdate_revokes (held.profile licence) channel)
  · have gone := held.unlicensed idle (by rw [point]; rfl) pending
    exact absurd (gone.symm.trans licence) nofun

theorem Tracked.dropPermission (held : Tracked config gapKnown pressKnown state)
    (idle : state.main = .idle) (resting : state.receive.resting = true)
    (point : state.control = .dropPermission) (step : controlStep config state input = some next) :
    Tracked config (GapAfter config gapKnown (state, .control input))
      (PressAfter config pressKnown (state, .control input)) next := by
  have phase := held.atPoint
  rw [point] at phase
  obtain ⟨profile, waits⟩ := phase
  have known : state.locals.channelArmed = true → state.gapLicence = true →
      next.flags.vehicleSafetyMode = state.flags.vehicleSafetyMode →
      next.flags.connected = state.flags.connected →
      GapAfter config gapKnown (state, .control input) := by
    intro channel licence same usb
    refine Or.inr ⟨keepsGap_control step ?_ ?_ ?_ (fun mode => Or.inl (same.trans mode)) usb,
      held.gap_known idle resting ?_ licence⟩
    all_goals rw [point]
    · rintro ⟨⟩
    · rintro ⟨⟩
    · rfl
    · simp [ControlPoint.revokesGap, channel]
  have taken := step
  unfold controlStep at taken
  simp only [point] at taken
  split at taken
  · cases taken
  cases Option.some.inj taken
  refine Tracked.control idle resting step (fun licence => ?_)
    (fun licence => Or.inl (deciding_press held idle resting (by rw [point]; rfl) licence))
    (held.current idle) (fun licence pending => ?_) held.profile (held.camera_off idle) ?_
  · cases answered : input.usb with
    | error what => exact Or.inr rfl
    | ok =>
        cases channel : state.locals.channelArmed with
        | true =>
            refine Or.inl (known channel licence rfl ?_)
            simp [NodeState.afterUsb, NodeState.goto, answered, Except.isOk, Except.toBool]
        | false =>
            refine Or.inr ?_
            show (afterDrop state.locals).revokesGap state.locals = true
            simp [afterDrop, ControlPoint.revokesGap, channel]
  · have gone := held.unlicensed idle (by rw [point]; rfl) pending
    exact absurd (gone.symm.trans licence) Bool.false_ne_true
  · cases input.usb with
    | ok => exact afterDrop_at profile waits
    | error what => exact ⟨trivial, by rintro ⟨⟩⟩

theorem Tracked.clearGap (held : Tracked config gapKnown pressKnown state)
    (idle : state.main = .idle) (resting : state.receive.resting = true)
    (point : state.control = .clearGap) (step : controlStep config state input = some next) :
    Tracked config (GapAfter config gapKnown (state, .control input))
      (PressAfter config pressKnown (state, .control input)) next := by
  have phase := held.atPoint
  rw [point] at phase
  have taken := step
  unfold controlStep at taken
  simp only [point] at taken
  cases Option.some.inj taken
  refine held.disarming idle resting step ?_ rfl (fun licence => ⟨licence, ?_⟩)
    (held.camera_off idle) (afterClearGap_at phase.1 phase.2)
  all_goals rw [point]
  · exact ⟨rfl, rfl⟩
  · rfl

theorem Tracked.gapQualified (held : Tracked config gapKnown pressKnown state)
    (idle : state.main = .idle) (resting : state.receive.resting = true)
    (point : state.control = .gapQualified) (step : controlStep config state input = some next) :
    Tracked config (GapAfter config gapKnown (state, .control input))
      (PressAfter config pressKnown (state, .control input)) next := by
  have phase := held.atPoint
  rw [point] at phase
  obtain ⟨profile, current, mode⟩ := phase
  have taken := step
  unfold controlStep at taken
  simp only [point] at taken
  cases Option.some.inj taken
  refine Tracked.control idle resting step (fun licence => Or.inl (Or.inl ?_))
    (fun licence => Or.inl (deciding_press held idle resting (by rw [point]; rfl) licence))
    (fun _ => current) (fun _ _ => rfl) (fun _ => profile) (held.camera_off idle) trivial
  have qualified : (state.locals.previousState == .active && state.locals.channelArmed) = true :=
    licence
  simp [TakenStep.qualifies, point, mode, qualified]

theorem control_tracked (held : Tracked config gapKnown pressKnown state)
    (idle : state.main = .idle) (resting : state.receive.resting = true)
    (kept : ¬ HeartbeatLosesUsb state (.control input))
    (step : controlStep config state input = some next) :
    Tracked config (GapAfter config gapKnown (state, .control input))
      (PressAfter config pressKnown (state, .control input)) next := by
  cases quiet : state.control.quiet with
  | true => exact held.quiet idle resting step quiet kept
  | false =>
      cases point : state.control with
      | restore => exact held.restore idle resting point step
      | disarm => exact held.disarm idle resting point step
      | takeover => exact held.takeover idle resting point step
      | takeoverHealth => exact held.takeoverHealth idle resting point step
      | update => exact held.update idle resting point step
      | dropPermission => exact held.dropPermission idle resting point step
      | clearGap => exact held.clearGap idle resting point step
      | gapQualified => exact held.gapQualified idle resting point step
      | engageTakeover | autoStore | autoGeneration | loadGeneration | applyArm =>
          refine held.arming idle resting step ?_ quiet
          rw [point]
          rfl
      | _ =>
          rw [point] at quiet
          cases quiet

end Control
end Ioniq5Ecan
