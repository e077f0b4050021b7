import Ioniq5Ecan.Library.History
import Ioniq5Ecan.Node.LicensedIteration

/-! # Takeovers of a moving vehicle

The other threads keep `Tracked` between two iterations, and so does every undivided run.  Over a
run each licence goes back to the step of the history that granted it. -/
set_option autoImplicit false
namespace Ioniq5Ecan

/-! ## Steps of the other threads -/

def NodeEvent.elsewhere : NodeEvent → Bool
  | .control _ => false
  | _ => true

section Elsewhere
variable {config : NodeConfig} {gapKnown pressKnown : Prop} {state next : NodeState}
  {input : StepInput}

theorem control_at_rest (resting : state.control.resting = true) :
    state.control.revokesGap state.locals = false ∧ state.control.revokesPress = false ∧
      state.control.restoringGap = false := by
  cases point : state.control with
  | loop | stopped => exact ⟨rfl, rfl, rfl⟩
  | _ =>
      rw [point] at resting
      cases resting

/-- The control loop relies on nothing between two iterations. -/
theorem rest_at {pressed : Prop} (resting : state.control.resting = true)
    (control : next.control = state.control) : AtPoint config pressed next next.control := by
  rw [control]
  cases point : state.control with
  | loop | stopped => exact trivial
  | _ =>
      rw [point] at resting
      cases resting

theorem Tracked.elsewhere (held : Tracked config gapKnown pressKnown state) {event : NodeEvent}
    (resting : state.control.resting = true) (control : next.control = state.control)
    (alone : next.main ≠ .idle → next.receive.resting = true)
    (gap : next.gapLicence = true →
      state.gapLicence = true ∧ (GapAfter config gapKnown (state, event) ∨ next.revokingGap = true))
    (press : next.buttonLicence = true →
      PressAfter config pressKnown (state, event) ∨ next.revokingPress = true)
    (revoked : (next.main.pastGap || next.receive.pastGap) = true → next.gapLicence = false)
    (request : next.gapLicence = true → Current next ∨ next.main.destroying = true)
    (pending : next.gapLicence = true → next.flags.recoveryPending = true →
      next.main.destroying = true)
    (camera : next.flags.vehicleSafetyMode = true → next.ecus.camera.disabled = true ∨
      next.main.destroying = true) :
    Tracked config (GapAfter config gapKnown (state, event))
      (PressAfter config pressKnown (state, event)) next where
  controlAlone := by
    rw [control, resting]
    exact nofun
  mainAlone := alone
  gap := fun licence => (gap licence).2
  press := press
  revoked := revoked
  request := request
  pending := fun licence standing => Or.inr (pending licence standing)
  profile := fun licence => held.profile (gap licence).1
  camera := camera
  atPoint := rest_at resting control

/-- Between two iterations a restoration is pending without the licence of the gap only. -/
theorem Tracked.pending_elsewhere (held : Tracked config gapKnown pressKnown state)
    (resting : state.control.resting = true) (licence : state.gapLicence = true)
    (pending : state.flags.recoveryPending = true) : state.main.destroying = true := by
  refine (held.pending licence pending).resolve_left ?_
  rw [(control_at_rest resting).2.2]
  exact nofun

theorem keepsGap_elsewhere {event : NodeEvent} (step : nodeStep config state event = some next)
    (elsewhere : event.elsewhere = true)
    (notCall : TakenStep.calls (state, event) = false)
    (notDisarm : TakenStep.disarms (state, event) = false)
    (notLost : TakenStep.losesUsb config (state, event) = false)
    (vehicle : state.flags.vehicleSafetyMode = true → next.flags.vehicleSafetyMode = true) :
    keepsGap config (state, event) = true := by
  have leaves : TakenStep.leavesVehicleMode config (state, event) = false := by
    simp only [TakenStep.leavesVehicleMode, step, Option.any_some]
    cases mode : state.flags.vehicleSafetyMode with
    | false => rfl
    | true => rw [vehicle mode]; rfl
  cases event with
  | control input => cases elsewhere
  | callArm | callDestructor | main | receive =>
      simp [keepsGap, TakenStep.takesGap, TakenStep.seesNoChannel, notCall, notDisarm, notLost,
        leaves]

theorem keepsPress_elsewhere {event : NodeEvent} (elsewhere : event.elsewhere = true)
    (notCall : TakenStep.calls (state, event) = false)
    (notDisarm : TakenStep.disarms (state, event) = false) :
    keepsPress config (state, event) = true := by
  cases event with
  | control input => cases elsewhere
  | callArm | callDestructor | main | receive =>
      simp [keepsPress, TakenStep.failsTakeover, notCall, notDisarm]

/-- A call that `arm_callback` does not refuse at once is about to revoke both licences. -/
theorem callArm_tracked (held : Tracked config gapKnown pressKnown state) {data : Bool}
    (resting : state.control.resting = true) (receiving : state.receive.resting = true)
    (answered : ¬ RefusesLicensed config state (.callArm data))
    (step : callArm config state data = some next) :
    Tracked config (GapAfter config gapKnown (state, .callArm data))
      (PressAfter config pressKnown (state, .callArm data)) next := by
  have main := callArm_idle step
  obtain ⟨_, _, receivePast⟩ := resting_quiet receiving
  have camera := held.camera
  rw [main] at camera
  have taken := step
  unfold callArm at taken
  simp only [main] at taken
  split at taken
  · rename_i refused
    have unlicensed : ¬ (state.gapLicence || state.buttonLicence) = true :=
      fun licence => answered ⟨refused, licence⟩
    rw [Bool.or_eq_true, not_or] at unlicensed
    cases Option.some.inj taken
    refine held.elsewhere resting rfl (fun _ => receiving)
      (fun licence => absurd licence unlicensed.1) (fun licence => absurd licence unlicensed.2) ?_
      held.request (fun licence => absurd licence unlicensed.1) held.camera
    rw [main, receivePast]
    exact nofun
  · cases Option.some.inj taken
    refine held.elsewhere resting rfl (fun _ => receiving)
      (fun licence => ⟨licence, Or.inr ?_⟩) (fun _ => Or.inr ?_) ?_
      (fun licence => Or.inl ((held.request licence).resolve_right ?_))
      (fun licence pending => absurd (held.pending_elsewhere resting licence pending) ?_)
      (fun mode => Or.inl ((camera mode).resolve_right nofun))
    · cases data <;> simp [NodeState.revokingGap, MainPoint.revokesGap]
    · cases data <;> simp [NodeState.revokingPress, MainPoint.revokesPress]
    · cases data <;> simp [MainPoint.pastGap, receivePast]
    all_goals
      rw [main]
      exact nofun

theorem callDestructor_tracked (held : Tracked config gapKnown pressKnown state)
    (resting : state.control.resting = true) (receiving : state.receive.resting = true)
    (step : callDestructor state = some next) :
    Tracked config (GapAfter config gapKnown (state, .callDestructor))
      (PressAfter config pressKnown (state, .callDestructor)) next := by
  have main := callDestructor_idle step
  obtain ⟨_, receivePress, receivePast⟩ := resting_quiet receiving
  have taken := step
  unfold callDestructor at taken
  simp only [main] at taken
  cases Option.some.inj taken
  refine held.elsewhere resting rfl (fun _ => receiving) (fun licence => ⟨licence, Or.inr ?_⟩)
    (fun licence => Or.inl (Or.inr ⟨keepsPress_elsewhere rfl rfl rfl, ?_⟩)) ?_
    (fun _ => Or.inr rfl) (fun _ _ => rfl) (fun _ => Or.inr rfl)
  · simp [NodeState.revokingGap, MainPoint.revokesGap, MainPoint.destroying]
  · refine (held.press licence).resolve_right ?_
    rw [NodeState.revokingPress, (control_at_rest resting).2.1, main, receivePress]
    exact fun never => by cases never
  · simp [MainPoint.pastGap, receivePast]

theorem armPending_tracked (held : Tracked config gapKnown pressKnown state)
    (main : state.main = .armPending)
    (resting : state.control.resting = true) (receiving : state.receive.resting = true)
    (answered : ¬ RefusesLicensed config state (.main input))
    (step : mainStep config state input = some next) :
    Tracked config (GapAfter config gapKnown (state, .main input))
      (PressAfter config pressKnown (state, .main input)) next := by
  obtain ⟨_, _, receivePast⟩ := resting_quiet receiving
  have camera := held.camera
  have request := held.request
  rw [main] at camera request
  have taken := step
  unfold mainStep at taken
  simp only [main] at taken
  cases Option.some.inj taken
  cases pending : state.flags.recoveryPending with
  | true =>
      have unlicensed : ¬ (state.gapLicence || state.buttonLicence) = true :=
        fun licence => answered ⟨main, pending, licence⟩
      rw [Bool.or_eq_true, not_or] at unlicensed
      refine held.elsewhere resting rfl (fun _ => receiving)
        (fun licence => absurd licence unlicensed.1) (fun licence => absurd licence unlicensed.2)
        ?_ (fun licence => absurd licence unlicensed.1) (fun licence => absurd licence unlicensed.1)
        (fun mode => Or.inl ((camera mode).resolve_right nofun))
      simp [MainPoint.pastGap, receivePast]
  | false =>
      refine held.elsewhere resting rfl (fun _ => receiving) (fun licence => ⟨licence, Or.inr ?_⟩)
        (fun _ => Or.inr ?_) ?_ (fun licence => Or.inl ((request licence).resolve_right nofun))
        (fun _ standing => absurd (pending.symm.trans standing) nofun)
        (fun mode => Or.inl ((camera mode).resolve_right nofun))
      · simp [NodeState.revokingGap, MainPoint.revokesGap]
      · simp [NodeState.revokingPress, MainPoint.revokesPress]
      · simp [MainPoint.pastGap, receivePast]

theorem arm_tracked (held : Tracked config gapKnown pressKnown state) {data : Bool}
    {point : ArmPoint} (main : state.main = .arm data point)
    (resting : state.control.resting = true) (receiving : state.receive.resting = true)
    (step : mainStep config state input = some next) :
    Tracked config (GapAfter config gapKnown (state, .main input))
      (PressAfter config pressKnown (state, .main input)) next := by
  obtain ⟨_, receivePress, receivePast⟩ := resting_quiet receiving
  have camera : state.flags.vehicleSafetyMode = true → state.ecus.camera.disabled = true := by
    refine fun mode => (held.camera mode).resolve_right ?_
    rw [main]
    rintro ⟨⟩
  have current : state.gapLicence = true → Current state := by
    refine fun licence => (held.request licence).resolve_right ?_
    rw [main]
    rintro ⟨⟩
  have settled : ∀ {conclusion : Prop}, state.gapLicence = true →
      state.flags.recoveryPending = true → conclusion := by
    intro conclusion licence pending
    have destroying := held.pending_elsewhere resting licence pending
    rw [main] at destroying
    cases destroying
  have press : MainPoint.revokesPress (.arm data point) = false → state.buttonLicence = true →
      PressAfter config pressKnown (state, .main input) := by
    intro quiet licence
    refine Or.inr ⟨keepsPress_elsewhere rfl rfl rfl, (held.press licence).resolve_right ?_⟩
    rw [NodeState.revokingPress, (control_at_rest resting).2.1, main, quiet, receivePress]
    rintro ⟨⟩
  have revoked : MainPoint.pastGap (.arm data point) = true → state.gapLicence = false := by
    intro past
    refine held.revoked ?_
    rw [main, past]
    rfl
  have unlicensed : ∀ {conclusion : Prop}, MainPoint.pastGap (.arm data point) = true →
      state.gapLicence = true → conclusion :=
    fun past licence => absurd ((revoked past).symm.trans licence) Bool.false_ne_true
  have taken := step
  unfold mainStep at taken
  simp only [main] at taken
  cases Option.some.inj taken
  cases point with
  | inhibited | operator =>
      refine held.elsewhere resting rfl (fun _ => receiving)
        (fun licence => ⟨licence, Or.inr ?_⟩) (fun _ => Or.inr ?_) ?_
        (fun licence => Or.inl (current licence)) settled (fun mode => Or.inl (camera mode))
      · simp [NodeState.revokingGap, armStep, MainPoint.revokesGap]
      · simp [NodeState.revokingPress, armStep, MainPoint.revokesPress]
      · simp [armStep, MainPoint.pastGap, receivePast]
  | button =>
      refine held.elsewhere resting rfl (fun _ => receiving)
        (fun licence => ⟨licence, Or.inr ?_⟩) (by rintro ⟨⟩) ?_
        (fun licence => Or.inl (current licence)) settled (fun mode => Or.inl (camera mode))
      · simp [NodeState.revokingGap, armStep, MainPoint.revokesGap]
      · simp [armStep, MainPoint.pastGap, receivePast]
  | gap =>
      exact held.elsewhere resting rfl (fun _ => receiving) (by rintro ⟨⟩)
        (fun licence => Or.inl (press rfl licence)) (fun _ => rfl) (by rintro ⟨⟩) (by rintro ⟨⟩)
        (fun mode => Or.inl (camera mode))
  | preserve | rearm | requested | generation =>
      exact held.elsewhere resting rfl (fun _ => receiving) (unlicensed rfl)
        (fun licence => Or.inl (press rfl licence)) (fun _ => revoked rfl) (unlicensed rfl)
        (fun licence => unlicensed rfl licence) (fun mode => Or.inl (camera mode))

structure Destroyed (state next : NodeState) : Prop where
  destroying : next.main.destroying = true
  gap : next.gapLicence = true → state.gapLicence = true
  button : next.buttonLicence = true → state.buttonLicence = true
  receive : next.receive = state.receive

theorem destroy_step (destroying : state.main.destroying = true)
    (step : mainStep config state input = some next) : Destroyed state next := by
  cases main_move step with
  | armPending main | arm data point main =>
      rw [main] at destroying
      cases destroying
  | destroy point =>
      cases point with
      | button => exact ⟨rfl, id, nofun, rfl⟩
      | gap => exact ⟨rfl, nofun, id, rfl⟩
      | inhibited | operator | preserve | requested | generation => exact ⟨rfl, id, id, rfl⟩
      | connected =>
          refine ⟨?_, id, id, rfl⟩
          dsimp only [destroyStep]
          split <;> rfl
  | destroyRestore point main after outcome taken =>
      have ends : outcome.main.destroying = true := by cases outcome <;> rfl
      cases point with
      | lock =>
          simp only [restoreStep] at taken
          split at taken
          · cases Option.some.inj taken
            exact ⟨ends, id, id, rfl⟩
          · cases taken
      | vehicle | pending | work | clear | inhibited | rearm =>
          cases Option.some.inj taken
          exact ⟨ends, id, id, rfl⟩
  | stop | joinReceive | joinControl | disconnect => exact ⟨rfl, id, id, rfl⟩

theorem destroying_points {main : MainPoint} (destroying : main.destroying = true) :
    main.revokesPress = false ∧ main.pastGap = false ∧ main.revokesGap = true := by
  cases main with
  | idle | armPending | arm => cases destroying
  | _ => exact ⟨rfl, rfl, rfl⟩

theorem destroying_tracked (held : Tracked config gapKnown pressKnown state)
    (destroying : state.main.destroying = true)
    (resting : state.control.resting = true) (receiving : state.receive.resting = true)
    (step : mainStep config state input = some next) :
    Tracked config (GapAfter config gapKnown (state, .main input))
      (PressAfter config pressKnown (state, .main input)) next := by
  obtain ⟨control, _⟩ := mainStep_threads step
  have effect := destroy_step destroying step
  obtain ⟨_, receivePress, receivePast⟩ := resting_quiet receiving
  obtain ⟨mainPress, _⟩ := destroying_points destroying
  obtain ⟨_, pastGap, revokesGap⟩ := destroying_points effect.destroying
  refine held.elsewhere resting control (fun _ => ?_) (fun licence => ⟨effect.gap licence, ?_⟩)
    (fun licence => Or.inl (Or.inr ⟨keepsPress_elsewhere rfl rfl rfl, ?_⟩)) ?_
    (fun _ => Or.inr effect.destroying) (fun _ _ => effect.destroying)
    (fun _ => Or.inr effect.destroying)
  · rw [effect.receive]
    exact receiving
  · refine Or.inr ?_
    simp [NodeState.revokingGap, revokesGap]
  · refine (held.press (effect.button licence)).resolve_right ?_
    rw [NodeState.revokingPress, (control_at_rest resting).2.1, mainPress, receivePress]
    rintro ⟨⟩
  · rw [pastGap, effect.receive, receivePast]
    rintro ⟨⟩

theorem main_tracked (held : Tracked config gapKnown pressKnown state)
    (resting : state.control.resting = true) (receiving : state.receive.resting = true)
    (answered : ¬ RefusesLicensed config state (.main input))
    (step : mainStep config state input = some next) :
    Tracked config (GapAfter config gapKnown (state, .main input))
      (PressAfter config pressKnown (state, .main input)) next := by
  cases main : state.main with
  | idle =>
      unfold mainStep at step
      simp only [main] at step
      cases step
  | armPending => exact armPending_tracked held main resting receiving answered step
  | arm => exact arm_tracked held main resting receiving step
  | destroy | destroyRestore | stop | joinReceive | joinControl | disconnect | destroyed =>
      refine destroying_tracked held ?_ resting receiving step
      rw [main]
      rfl

theorem polled_at {pressed after : Prop} (known : pressed → after) (connected : Bool)
    (receive : ReceivePoint) {point : ControlPoint} (phase : AtPoint config pressed state point) :
    AtPoint config after
      { state with flags := { state.flags with connected := connected }, receive := receive }
      point := by
  cases point with
  | engageOperator => exact fun notOff => known (phase notOff)
  | engageRequested | engageInhibited | engageRearm | engageClearInhibited | engageClearRearm
  | engageTakeover => exact known phase
  | _ => exact phase

theorem poll_step (polling : state.receive.polling = true)
    (step : receiveStep state input = some next) :
    ∃ connected receive, receive.resting = true ∧
      next =
        { state with flags := { state.flags with connected := connected }, receive := receive } := by
  cases receive_move step with
  | loop =>
      refine ⟨_, _, ?_, rfl⟩
      split <;> rfl
  | connected =>
      refine ⟨_, _, ?_, rfl⟩
      split_ifs <;> rfl
  | poll =>
      refine ⟨_, _, ?_, rfl⟩
      cases input.usb <;> rfl
  | connect receive | connectFailed receive | connectVehicle receive | reconnectDisarm _ receive
  | lost receive | lostVehicle receive | lostDisarm _ receive | lostApplied receive =>
      rw [receive] at polling
      cases polling

theorem polling_tracked (held : Tracked config gapKnown pressKnown state)
    (polling : state.receive.polling = true) (step : receiveStep state input = some next) :
    Tracked config (GapAfter config gapKnown (state, .receive input))
      (PressAfter config pressKnown (state, .receive input)) next := by
  have quiet : state.receive.revokesGap = false ∧ state.receive.revokesPress = false ∧
      state.receive.beginsDisarm = false ∧ (state.receive == .lost) = false := by
    cases point : state.receive with
    | loop | connected | poll => exact ⟨rfl, rfl, rfl, rfl⟩
    | _ =>
        rw [point] at polling
        cases polling
  obtain ⟨notGap, notPress, notDisarm, notLost⟩ := quiet
  obtain ⟨connected, receive, resting, rfl⟩ := poll_step polling step
  obtain ⟨_, _, noPast⟩ := resting_quiet resting
  have known : pressKnown → PressAfter config pressKnown (state, .receive input) :=
    fun known => Or.inr ⟨keepsPress_elsewhere rfl rfl notDisarm, known⟩
  refine {
    controlAlone := fun busy => ⟨(held.controlAlone busy).1, resting⟩
    mainAlone := fun _ => resting
    gap := fun licence => ?_
    press := fun licence => (held.press licence).imp known fun revoking => ?_
    revoked := fun past => held.revoked ?_
    request := held.request
    pending := held.pending
    profile := held.profile
    camera := held.camera
    atPoint := polled_at known connected receive held.atPoint }
  · refine (held.gap licence).imp (fun known => Or.inr ⟨?_, known⟩) fun revoking => ?_
    · exact keepsGap_elsewhere step rfl rfl notDisarm notLost id
    · rw [NodeState.revokingGap, notGap, Bool.or_false] at revoking
      simp [NodeState.revokingGap, revoking]
  · rw [NodeState.revokingPress, notPress, Bool.or_false] at revoking
    simp [NodeState.revokingPress, revoking]
  · have past : (state.main.pastGap || receive.pastGap) = true := past
    rw [noPast, Bool.or_false] at past
    rw [past]
    rfl

/-- The receive loop's `request_internal_disarm`, at one of its two sites. -/
def disarmReceive (state : NodeState) (point : DisarmPoint) (again : DisarmPoint → ReceivePoint)
    (done : ReceivePoint) : NodeState :=
  let result := disarmStep state.flags true point
  { state with
    flags := result.1
    receive := match result.2 with
      | some next => again next
      | none => done }

/-- Where a disarm of the receive loop stands. -/
structure DisarmSeat (again : DisarmPoint → ReceivePoint) : Prop where
  revokesGap : ∀ point, (again point).revokesGap = !point.pastGap
  revokesPress : ∀ point, (again point).revokesPress =
    (point == .preserve || point == .gap || point == .button)
  pastGap : ∀ point, (again point).pastGap = point.pastGap
  begins : ∀ point, (again point).beginsDisarm = (point == .preserve)

theorem disarmReceive_tracked (held : Tracked config gapKnown pressKnown state)
    {point : DisarmPoint} {again : DisarmPoint → ReceivePoint} {done : ReceivePoint}
    (seat : DisarmSeat again) (receiving : state.receive = again point)
    (resting : state.control.resting = true) (idle : state.main = .idle) :
    Tracked config (GapAfter config gapKnown (state, .receive input))
      (PressAfter config pressKnown (state, .receive input))
      (disarmReceive state point again done) := by
  have alone : ∀ {conclusion : Prop}, state.main ≠ .idle → conclusion :=
    fun busy => absurd idle busy
  have settled : ∀ {conclusion : Prop}, state.gapLicence = true →
      state.flags.recoveryPending = true → conclusion := by
    intro conclusion licence pending
    have destroying := held.pending_elsewhere resting licence pending
    rw [idle] at destroying
    cases destroying
  have revoked : point.pastGap = true → state.gapLicence = false := by
    intro past
    refine held.revoked ?_
    rw [receiving, seat.pastGap, past, Bool.or_true]
  have unlicensed : ∀ {conclusion : Prop}, point.pastGap = true → state.gapLicence = true →
      conclusion := fun past licence => absurd ((revoked past).symm.trans licence) Bool.false_ne_true
  have mainPast : state.main.pastGap = false := by
    rw [idle]
    rfl
  have press : point ≠ .preserve ∧ point ≠ .gap ∧ point ≠ .button → state.buttonLicence = true →
      PressAfter config pressKnown (state, .receive input) := by
    rintro ⟨notPreserve, notGap, notButton⟩ licence
    have notDisarm : TakenStep.disarms (state, .receive input) = false := by
      simp [TakenStep.disarms, receiving, seat.begins, notPreserve]
    refine Or.inr ⟨keepsPress_elsewhere rfl rfl notDisarm, (held.press licence).resolve_right ?_⟩
    rw [NodeState.revokingPress, (control_at_rest resting).2.1, idle, receiving, seat.revokesPress]
    simp [notPreserve, notGap, notButton, MainPoint.revokesPress]
  cases point with
  | preserve =>
      refine held.elsewhere resting rfl alone (fun licence => ⟨licence, Or.inr ?_⟩)
        (fun _ => Or.inr ?_) ?_ held.request settled held.camera
      · simp [NodeState.revokingGap, disarmReceive, disarmStep, seat.revokesGap, DisarmPoint.pastGap]
      · simp [NodeState.revokingPress, disarmReceive, disarmStep, seat.revokesPress]
      · simp [disarmReceive, disarmStep, seat.pastGap, DisarmPoint.pastGap, mainPast]
  | gap =>
      refine held.elsewhere resting rfl alone Bool.false_ne_true.elim (fun _ => Or.inr ?_)
        (fun _ => rfl) Bool.false_ne_true.elim Bool.false_ne_true.elim held.camera
      simp [NodeState.revokingPress, disarmReceive, disarmStep, seat.revokesPress]
  | button =>
      exact held.elsewhere resting rfl alone (unlicensed rfl) Bool.false_ne_true.elim
        (fun _ => revoked rfl) (unlicensed rfl) (fun licence => unlicensed rfl licence) held.camera
  | requested | applied | vehicle | inhibited | rearm | pending | generation =>
      exact held.elsewhere resting rfl alone (unlicensed rfl)
        (fun licence => Or.inl (press ⟨by rintro ⟨⟩, by rintro ⟨⟩, by rintro ⟨⟩⟩ licence))
        (fun _ => revoked rfl) (unlicensed rfl) (fun licence => unlicensed rfl licence) held.camera

theorem lostDisarm_seat : DisarmSeat .lostDisarm where
  revokesGap point := by cases point <;> rfl
  revokesPress point := by cases point <;> rfl
  pastGap _ := rfl
  begins point := by cases point <;> rfl

theorem reconnectDisarm_seat : DisarmSeat .reconnectDisarm where
  revokesGap point := by cases point <;> rfl
  revokesPress point := by cases point <;> rfl
  pastGap _ := rfl
  begins point := by cases point <;> rfl

/-- Between two iterations with no call of the main thread, what the receive loop leaves alone is
still accounted for. -/
theorem Tracked.receiving (held : Tracked config gapKnown pressKnown state)
    (resting : state.control.resting = true) (idle : state.main = .idle)
    (quiet : state.receive.revokesPress = false) (notDisarm : state.receive.beginsDisarm = false)
    (step : receiveStep state input = some next)
    (gap : next.gapLicence = true → state.gapLicence = true ∧
      (GapAfter config gapKnown (state, .receive input) ∨ next.revokingGap = true))
    (button : next.buttonLicence = state.buttonLicence)
    (current : Current state → Current next)
    (pending : next.flags.recoveryPending = state.flags.recoveryPending)
    (pastGap : next.receive.pastGap = false)
    (camera : next.flags.vehicleSafetyMode = true → state.flags.vehicleSafetyMode = true) :
    Tracked config (GapAfter config gapKnown (state, .receive input))
      (PressAfter config pressKnown (state, .receive input)) next := by
  obtain ⟨main, control, _, ecus⟩ := receiveStep_threads step
  refine held.elsewhere resting control (fun busy => absurd (main.trans idle) busy) gap
    (fun licence => Or.inl (Or.inr ⟨keepsPress_elsewhere rfl rfl notDisarm, ?_⟩)) ?_
    (fun licence => ?_) (fun licence standing => ?_) (fun mode => ?_)
  · refine (held.press (button ▸ licence)).resolve_right ?_
    rw [NodeState.revokingPress, (control_at_rest resting).2.1, idle, quiet]
    rintro ⟨⟩
  · rw [main, idle, pastGap]
    rintro ⟨⟩
  · rw [main]
    exact (held.request (gap licence).1).imp_left current
  · rw [main]
    exact held.pending_elsewhere resting (gap licence).1 (pending ▸ standing)
  · rw [ecus, main]
    exact held.camera (camera mode)

theorem Tracked.received_gap (held : Tracked config gapKnown pressKnown state)
    (resting : state.control.resting = true) (idle : state.main = .idle)
    (quiet : state.receive.revokesGap = false) (licence : state.gapLicence = true)
    (keeps : keepsGap config (state, .receive input) = true) :
    GapAfter config gapKnown (state, .receive input) := by
  refine Or.inr ⟨keeps, (held.gap licence).resolve_right ?_⟩
  rw [NodeState.revokingGap, (control_at_rest resting).1, idle, quiet]
  rintro ⟨⟩

theorem receive_passing (held : Tracked config gapKnown pressKnown state)
    (point : state.receive = .connect ∨ state.receive = .lostApplied)
    (resting : state.control.resting = true) (idle : state.main = .idle)
    (step : receiveStep state input = some next) :
    Tracked config (GapAfter config gapKnown (state, .receive input))
      (PressAfter config pressKnown (state, .receive input)) next := by
  have quiet : state.receive.revokesGap = false ∧ state.receive.revokesPress = false ∧
      state.receive.beginsDisarm = false ∧ (state.receive == .lost) = false := by
    rcases point with point | point <;> rw [point] <;> exact ⟨rfl, rfl, rfl, rfl⟩
  obtain ⟨notGap, notPress, notDisarm, notLost⟩ := quiet
  have passes : SameLicences state next ∧ next.receive.pastGap = false := by
    have taken := step
    unfold receiveStep at taken
    rcases point with point | point <;> simp only [point] at taken
    · split at taken
      · cases taken
      · split at taken <;> cases Option.some.inj taken <;>
          exact ⟨⟨rfl, rfl, rfl, rfl, rfl, rfl, rfl, rfl, rfl⟩, rfl⟩
    · cases Option.some.inj taken
      exact ⟨⟨rfl, rfl, rfl, rfl, rfl, rfl, rfl, rfl, rfl⟩, rfl⟩
  obtain ⟨same, pastGap⟩ := passes
  refine held.receiving resting idle notPress notDisarm step (fun licence => ?_) same.button
    (fun current => ?_) same.pending pastGap (fun mode => same.vehicle.symm.trans mode)
  · have before : state.gapLicence = true := same.gap ▸ licence
    refine ⟨before, Or.inl (held.received_gap resting idle notGap before ?_)⟩
    exact keepsGap_elsewhere step rfl rfl notDisarm notLost fun mode => same.vehicle.trans mode
  · exact current.imp same.requested.trans
      fun applied => same.generation.trans (applied.trans same.applied.symm)

/-- The step that finds the device gone, and the one that leaves vehicle mode for it. -/
theorem lost_tracked (held : Tracked config gapKnown pressKnown state)
    (point : state.receive = .lost ∨ state.receive = .lostVehicle)
    (resting : state.control.resting = true) (idle : state.main = .idle)
    (step : receiveStep state input = some next) :
    Tracked config (GapAfter config gapKnown (state, .receive input))
      (PressAfter config pressKnown (state, .receive input)) next := by
  have taken := step
  unfold receiveStep at taken
  rcases point with point | point <;> simp only [point] at taken
  · split at taken
    · cases taken
    · cases Option.some.inj taken
      refine held.receiving resting idle (by rw [point]; rfl) (by rw [point]; rfl) step
        (fun licence => ⟨licence, Or.inr ?_⟩) rfl id rfl rfl id
      simp [NodeState.revokingGap, ReceivePoint.revokesGap]
  · cases Option.some.inj taken
    refine held.receiving resting idle (by rw [point]; rfl) (by rw [point]; rfl) step
      (fun licence => ⟨licence, Or.inr ?_⟩) rfl id rfl rfl (by rintro ⟨⟩)
    simp [NodeState.revokingGap, ReceivePoint.revokesGap]

/-- A reconnect leaves vehicle mode with its camera still silenced, or was not in it. -/
theorem connectVehicle_tracked (held : Tracked config gapKnown pressKnown state)
    (point : state.receive = .connectVehicle)
    (resting : state.control.resting = true) (idle : state.main = .idle)
    (step : receiveStep state input = some next) :
    Tracked config (GapAfter config gapKnown (state, .receive input))
      (PressAfter config pressKnown (state, .receive input)) next := by
  have quiet : state.receive.revokesGap = false ∧ state.receive.revokesPress = false ∧
      state.receive.beginsDisarm = false ∧ (state.receive == .lost) = false := by
    rw [point]
    exact ⟨rfl, rfl, rfl, rfl⟩
  obtain ⟨notGap, notPress, notDisarm, notLost⟩ := quiet
  have taken := step
  unfold receiveStep at taken
  simp only [point] at taken
  cases disabled : state.ecus.anyDisabled with
  | true =>
      simp only [disabled] at taken
      cases Option.some.inj taken
      refine held.receiving resting idle notPress notDisarm step
        (fun licence => ⟨licence, Or.inr ?_⟩) rfl id rfl rfl (by rintro ⟨⟩)
      simp [NodeState.revokingGap, ReceivePoint.revokesGap]
  | false =>
      simp only [disabled] at taken
      cases Option.some.inj taken
      refine held.receiving resting idle notPress notDisarm step
        (fun licence => ⟨licence, Or.inl (held.received_gap resting idle notGap licence ?_)⟩) rfl
        id rfl rfl (by rintro ⟨⟩)
      refine keepsGap_elsewhere step rfl rfl notDisarm notLost fun mode => ?_
      have camera : state.ecus.camera.disabled = true := by
        refine (held.camera mode).resolve_right ?_
        rw [idle]
        rintro ⟨⟩
      simp [EcuPair.anyDisabled, camera] at disabled

theorem receive_tracked (held : Tracked config gapKnown pressKnown state)
    (undivided : Undivided state (.receive input))
    (step : receiveStep state input = some next) :
    Tracked config (GapAfter config gapKnown (state, .receive input))
      (PressAfter config pressKnown (state, .receive input)) next := by
  rcases undivided with polling | ⟨resting, idle⟩
  · exact polling_tracked held polling step
  cases point : state.receive with
  | loop | connected | poll =>
      refine polling_tracked held ?_ step
      rw [point]
      rfl
  | connect => exact receive_passing held (Or.inl point) resting idle step
  | lostApplied => exact receive_passing held (Or.inr point) resting idle step
  | connectVehicle => exact connectVehicle_tracked held point resting idle step
  | lost => exact lost_tracked held (Or.inl point) resting idle step
  | lostVehicle => exact lost_tracked held (Or.inr point) resting idle step
  | lostDisarm =>
      have taken := step
      unfold receiveStep at taken
      simp only [point] at taken
      cases Option.some.inj taken
      exact disarmReceive_tracked held lostDisarm_seat point resting idle
  | reconnectDisarm =>
      have taken := step
      unfold receiveStep at taken
      simp only [point] at taken
      cases Option.some.inj taken
      exact disarmReceive_tracked held reconnectDisarm_seat point resting idle
  | stopped =>
      unfold receiveStep at step
      simp only [point] at step
      cases step

end Elsewhere

/-! ## Undivided runs -/

open Library (EventSystem Since since_iff)

theorem step_tracked {config : NodeConfig} {gapKnown pressKnown : Prop} {state next : NodeState}
    {event : NodeEvent} (held : Tracked config gapKnown pressKnown state)
    (revocable : Revocable config state event) (step : nodeStep config state event = some next) :
    Tracked config (GapAfter config gapKnown (state, event))
      (PressAfter config pressKnown (state, event)) next := by
  obtain ⟨undivided, answered, kept⟩ := revocable
  cases event with
  | control input => exact control_tracked held undivided.1 undivided.2 kept step
  | main input => exact main_tracked held undivided.1 undivided.2 answered step
  | receive input => exact receive_tracked held undivided step
  | callArm data => exact callArm_tracked held undivided.1 undivided.2 answered step
  | callDestructor => exact callDestructor_tracked held undivided.1 undivided.2 step

/-- Some step of the history granted the licence of the gap, and no later one revoked it. -/
def GapKnown (config : NodeConfig) (history : List TakenStep) : Prop :=
  Since (fun step => keepsGap config step = true) (fun step => TakenStep.qualifies step = true)
    history

def PressKnown (config : NodeConfig) (history : List TakenStep) : Prop :=
  Since (fun step => keepsPress config step = true) (fun step => TakenStep.presses step = true)
    history

theorem GapLicensed.known {config : NodeConfig} {history : List TakenStep}
    (licensed : GapLicensed config history) : GapKnown config history := by
  obtain ⟨later, start, earlier, split, starts, keeps, _⟩ := licensed
  exact (since_iff _).mpr ⟨later, start, earlier, split, starts, keeps⟩

theorem PressLicensed.known {config : NodeConfig} {history : List TakenStep}
    (licensed : PressLicensed config history) : PressKnown config history :=
  (since_iff _).mpr licensed

theorem run_tracked (config : NodeConfig) (events : List NodeEvent) {state : NodeState}
    (run : (nodeSystem config).exec {} events = some state)
    (revocable : (nodeSystem config).Meets (Revocable config) {} events) :
    Tracked config (GapKnown config ((nodeSystem config).history {} events))
      (PressKnown config ((nodeSystem config).history {} events)) state := by
  have tracked := (nodeSystem config).history_invariant
    (fun history state => Tracked config (GapKnown config history) (PressKnown config history) state)
    (Revocable config) (fun _ _ _ _ held revocable step => step_tracked held revocable step) events
    [] {} state (initial_tracked config _ _) revocable run
  rwa [List.append_nil] at tracked

/-- The branch leaves the vehicle mode it qualifies in to the restoration after it. -/
theorem qualifies_inside {config : NodeConfig} {step : TakenStep} (starts : step.qualifies = true) :
    step.1.flags.vehicleSafetyMode = true ∧ step.leavesVehicleMode config = false := by
  obtain ⟨state, event⟩ := step
  cases event with
  | control input =>
      simp only [TakenStep.qualifies, Bool.and_eq_true, beq_iff_eq] at starts
      obtain ⟨⟨point, mode⟩, _⟩ := starts
      refine ⟨mode, ?_⟩
      simp [TakenStep.leavesVehicleMode, nodeStep, controlStep, point, NodeState.setFlags,
        NodeState.goto]
  | callArm | callDestructor | main | receive => cases starts

/-- A takeover of a moving vehicle has a licence that some step of the run granted, and that no
later step revoked. -/
theorem moving_takeover_licensed (config : NodeConfig) (events : List NodeEvent)
    (state : NodeState) (site : TakeoverSite)
    (run : (nodeSystem config).exec {} events = some state)
    (revocable : (nodeSystem config).Meets (Revocable config) {} events)
    (store : state.control = .takeover site .storeVehicle)
    (moving : movingVehicle state.locals.sample.vehicle = true) :
    TakeoverLicensed config ((nodeSystem config).history {} events) := by
  have tracked := run_tracked config events run revocable
  obtain ⟨idle, resting⟩ := tracked.controlAlone (by rw [store]; rfl)
  have phase := tracked.atPoint
  rw [store] at phase
  obtain ⟨standby, _, permitted⟩ := phase
  obtain ⟨profile, licence⟩ := permitted moving
  refine ⟨profile, ?_⟩
  rcases licence with gap | button
  · have known := tracked.gap_known idle resting (by rw [store]; rfl) gap
    obtain ⟨later, start, earlier, split, starts, keeps⟩ := (since_iff _).mp known
    obtain ⟨mode, inside⟩ := @qualifies_inside config start starts
    obtain ⟨exit, place, up, falls⟩ := (nodeSystem config).history_falls_since
      (fun state => state.flags.vehicleSafetyMode) events {} state later start earlier run split mode
      standby
    have leaves : TakenStep.leavesVehicleMode config exit = true :=
      Bool.and_eq_true_iff.mpr ⟨up, falls⟩
    refine Or.inl ⟨later, start, earlier, split, starts, keeps, exit, place.resolve_left ?_, leaves⟩
    rintro rfl
    exact absurd (inside.symm.trans leaves) nofun
  · have known := tracked.press_known idle resting (by rw [store]; rfl) button
    exact Or.inr ((since_iff _).mp known)

/-! ## A takeover by each licence -/

def sessionNode : NodeConfig :=
  { safety := { allowActuation := true, resumeOnCommandReturn := true } }

def standbyPanda : PandaHealth :=
  { fixturePanda with
    safetyMode := 19, safetyParam := 3073, ignitionOn := true, commandSessionActive := true
    commandSessionReady := true, lateralSelected := true }

def drivingPanda : PandaHealth := { standbyPanda with safetyMode := 28, controlsAllowed := true }

def sessionSample (panda : PandaHealth) (standstill : Bool) : LoopSample :=
  { fixtureSample with
    panda := panda, vehicle := { fixtureVehicle with standstill := standstill } }

def sessionInput (sample : LoopSample) : StepInput where
  clock := fixtureNow
  sample := sample
  takeover := { health := .ok { safetyMode := 28, safetyParam := 3073, commandSessionReady := true } }
  restore := { health := .ok { safetyMode := 19, safetyParam := 3073 } }

def sampledSteps (input : StepInput) (count : Nat) : List NodeEvent :=
  List.replicate count (.control input)

/-- A connected node takes over at standstill. -/
def stationaryTakeover : List NodeEvent :=
  receiveSteps 4 ++ sampledSteps (sessionInput (sessionSample standbyPanda true)) 27

/-- It drives until its command is 200 ms old, and restores the ECUs. -/
def gapRestored : List NodeEvent :=
  let driving := sessionSample drivingPanda false
  let stale := { fixtureCommand with receivedAt := fixtureNow - 200000000 }
  stationaryTakeover ++ sampledSteps (sessionInput driving) 16 ++
    sampledSteps (sessionInput { driving with command := stale }) 17

/-- With a fresh command it gets to the next takeover while moving. -/
def gapTakeover : List NodeEvent :=
  gapRestored ++ sampledSteps (sessionInput (sessionSample standbyPanda false)) 20

theorem gap_takeover_licensed :
    TakeoverLicensed sessionNode ((nodeSystem sessionNode).history {} gapTakeover) :=
  moving_takeover_licensed sessionNode gapTakeover (NodeState.after sessionNode gapTakeover) .session
    (by decide +kernel) (by decide +kernel) (by decide +kernel) (by decide +kernel)

/-- The heartbeat of the next iteration finds the Panda gone, and the receive loop reconnects with
both ECUs restored, before the fresh command comes. -/
def reconnectTakeover : List NodeEvent :=
  let waiting := sessionInput { sessionSample standbyPanda false with
    command := { fixtureCommand with receivedAt := fixtureNow - 200000000 } }
  gapRestored ++ sampledSteps waiting 18 ++
    [.control { waiting with usb := .error "Red Panda control write failed: LIBUSB_ERROR_IO" }] ++ receiveSteps 5 ++
    sampledSteps (sessionInput (sessionSample standbyPanda false)) 20

/-- The reconnect does not revoke the licence of the gap. -/
theorem reconnect_keeps_licence :
    let system := nodeSystem sessionNode
    let state := NodeState.after sessionNode reconnectTakeover
    system.exec {} reconnectTakeover = some state ∧
      system.Meets Undivided {} reconnectTakeover ∧
      state.control = .takeover .session .storeVehicle ∧
      movingVehicle state.locals.sample.vehicle = true ∧
      ¬ TakeoverLicensed sessionNode (system.history {} reconnectTakeover) := by
  refine ⟨by decide +kernel, by decide +kernel, by decide +kernel, by decide +kernel, ?_⟩
  rintro ⟨_, gap | press⟩
  · have known := gap.known
    revert known
    unfold GapKnown
    decide +kernel
  · have known := press.known
    revert known
    unfold PressKnown
    decide +kernel

end Ioniq5Ecan
