import Ioniq5Ecan.Node.ActuationMutex

/-! # No silenced ECU is forgotten

A silenced ECU is flagged as disabled unless the write of the disable request
reports an error after delivering it.  A flagged ECU has `vehicle_safety_mode_`
or `recovery_pending_` set; while one of the threads is on its way from
clearing the first, or from disabling the ECU, to setting one of them, it is
`marking`. -/
set_option autoImplicit false
namespace Ioniq5Ecan

open Library (EventSystem)

/-! ## On the way to a marker -/

def MainPoint.marking : MainPoint → Bool
  | .destroyRestore point => point == .pending
  | _ => false

def ControlPoint.marking : ControlPoint → Bool
  | .restore _ point => point == .pending
  | .takeover _ point => point == .storeVehicle
  | .disarm _ _ point => !(point == .generation)
  | _ => false

def ReceivePoint.marking : ReceivePoint → Bool
  | .reconnectDisarm point | .lostDisarm point => !(point == .generation)
  | _ => false

def NodeState.marking (state : NodeState) : ThreadId → Bool
  | .main => state.main.marking
  | .control => state.control.marking
  | .receive => state.receive.marking

/-- The next step of the control loop is the USB work of a takeover. -/
def ControlPoint.working : ControlPoint → Bool
  | .takeover _ point => point == .work
  | _ => false

/-- A takeover whose write of a disable request reports an error after delivering it. -/
def UnreportedDelivery (state : NodeState) : NodeEvent → Prop
  | .control input => state.control.working = true ∧
      (input.takeover.camera.disableRequest.reported = false ∨
        input.takeover.radar.disableRequest.reported = false)
  | _ => False

instance (state : NodeState) : ∀ event, Decidable (UnreportedDelivery state event)
  | .control _ => inferInstanceAs (Decidable (_ ∧ (_ ∨ _)))
  | .callArm _ | .callDestructor | .main _ | .receive _ => isFalse id

structure Accounted (state : NodeState) : Prop where
  guarded : actuationLock.Guarded state
  known : state.ecus.Known
  marked : state.ecus.anyDisabled = true → state.flags.vehicleSafetyMode = true ∨
    state.flags.recoveryPending = true ∨ ∃ thread, state.marking thread = true
  clearedByControl : ∀ site, state.control = .restore site .clear → state.ecus.anyDisabled = false
  clearedByMain : state.main = .destroyRestore .clear → state.ecus.anyDisabled = false

theorem initial_accounted : Accounted {} where
  guarded := initial_guarded
  known := ⟨enabled_known, enabled_known⟩
  marked := nofun
  clearedByControl := nofun
  clearedByMain := nofun

/-! ## What a step does to the markers -/

structure MarkStep (thread : ThreadId) (state next : NodeState) : Prop where
  others : ∀ other, other ≠ thread → next.marking other = state.marking other
  kept : state.ecus.anyDisabled = true → next.ecus.anyDisabled = true →
    state.flags.vehicleSafetyMode = true ∨ state.flags.recoveryPending = true ∨
      state.marking thread = true →
    next.flags.vehicleSafetyMode = true ∨ next.flags.recoveryPending = true ∨
      next.marking thread = true
  fresh : state.ecus.anyDisabled = false → next.ecus.anyDisabled = true →
    next.marking thread = true

section Marking
variable {config : NodeConfig} {state next : NodeState} {input : StepInput} {thread : ThreadId}

theorem MarkStep.marked (step : MarkStep thread state next)
    (held : state.ecus.anyDisabled = true → state.flags.vehicleSafetyMode = true ∨
      state.flags.recoveryPending = true ∨ ∃ thread, state.marking thread = true)
    (disabled : next.ecus.anyDisabled = true) : next.flags.vehicleSafetyMode = true ∨
      next.flags.recoveryPending = true ∨ ∃ thread, next.marking thread = true := by
  have ofOwn : next.flags.vehicleSafetyMode = true ∨ next.flags.recoveryPending = true ∨
      next.marking thread = true → next.flags.vehicleSafetyMode = true ∨
        next.flags.recoveryPending = true ∨ ∃ thread, next.marking thread = true :=
    fun own => own.imp id (Or.imp id fun marking => ⟨thread, marking⟩)
  cases before : state.ecus.anyDisabled with
  | false => exact ofOwn (Or.inr (Or.inr (step.fresh before disabled)))
  | true =>
      rcases held before with vehicle | pending | ⟨other, marking⟩
      · exact ofOwn (step.kept before disabled (Or.inl vehicle))
      · exact ofOwn (step.kept before disabled (Or.inr (Or.inl pending)))
      · by_cases own : other = thread
        · subst own
          exact ofOwn (step.kept before disabled (Or.inr (Or.inr marking)))
        · exact Or.inr (Or.inr ⟨other, (step.others other own).trans marking⟩)

theorem MarkStep.ofSame (others : ∀ other, other ≠ thread → next.marking other = state.marking other)
    (vehicle : next.flags.vehicleSafetyMode = state.flags.vehicleSafetyMode)
    (pending : next.flags.recoveryPending = state.flags.recoveryPending)
    (ecus : next.ecus = state.ecus)
    (marking : state.marking thread = true → next.marking thread = true) :
    MarkStep thread state next where
  others := others
  kept := by
    intro _ _ held
    rw [vehicle, pending]
    exact held.imp id (Or.imp id marking)
  fresh := by
    intro enabled disabled
    rw [ecus, enabled] at disabled
    cases disabled

theorem MarkStep.ofMarked
    (others : ∀ other, other ≠ thread → next.marking other = state.marking other)
    (ecus : state.ecus.anyDisabled = false → next.ecus.anyDisabled = true →
      next.marking thread = true)
    (marked : next.flags.vehicleSafetyMode = true ∨ next.flags.recoveryPending = true ∨
      next.marking thread = true) : MarkStep thread state next :=
  ⟨others, fun _ _ _ => marked, ecus⟩

theorem othersMark_control (main : next.main = state.main) (receive : next.receive = state.receive) :
    ∀ other, other ≠ ThreadId.control → next.marking other = state.marking other := by
  intro other different
  cases other with
  | main => exact congrArg MainPoint.marking main
  | control => exact absurd rfl different
  | receive => exact congrArg ReceivePoint.marking receive

theorem othersMark_main (control : next.control = state.control)
    (receive : next.receive = state.receive) :
    ∀ other, other ≠ ThreadId.main → next.marking other = state.marking other := by
  intro other different
  cases other with
  | main => exact absurd rfl different
  | control => exact congrArg ControlPoint.marking control
  | receive => exact congrArg ReceivePoint.marking receive

theorem othersMark_receive (main : next.main = state.main) (control : next.control = state.control) :
    ∀ other, other ≠ ThreadId.receive → next.marking other = state.marking other := by
  intro other different
  cases other with
  | main => exact congrArg MainPoint.marking main
  | control => exact congrArg ControlPoint.marking control
  | receive => exact absurd rfl different

/-- `enter_no_output_mode` clears `vehicle_safety_mode_` just before it sets `recovery_pending_`,
and clears that only for enabled ECUs. -/
theorem restoreStep_kept {point : RestorePoint} {result : NodeState × RestoreNext}
    (step : restoreStep config thread state input point = some result)
    (cleared : point = .clear → state.ecus.anyDisabled = false)
    (disabled : state.ecus.anyDisabled = true)
    (marked : state.flags.vehicleSafetyMode = true ∨ state.flags.recoveryPending = true ∨
      point = .pending) :
    result.1.flags.vehicleSafetyMode = true ∨ result.1.flags.recoveryPending = true ∨
      result.2 = .goto .pending := by
  cases point with
  | lock =>
      simp only [restoreStep] at step
      split at step
      · cases Option.some.inj step
        exact marked.imp id (Or.imp id (by rintro ⟨⟩))
      · cases step
  | vehicle =>
      cases Option.some.inj step
      exact Or.inr (Or.inr rfl)
  | pending =>
      cases Option.some.inj step
      exact Or.inr (Or.inl rfl)
  | work | inhibited errors | rearm errors =>
      cases Option.some.inj step
      exact marked.imp id (Or.imp id (by rintro ⟨⟩))
  | clear => exact absurd (disabled.symm.trans (cleared rfl)) (by rintro ⟨⟩)

theorem restore_mark {site : RestoreSite} {point : RestorePoint}
    (at' : state.control = .restore site point) {after : NodeState} {outcome : RestoreNext}
    (taken : restoreStep config .control state input point = some (after, outcome))
    (cleared : point = .clear → state.ecus.anyDisabled = false) :
    MarkStep .control state (after.goto (outcome.control site)) := by
  obtain ⟨main, _, receive, _⟩ := restoreStep_threads taken
  refine ⟨othersMark_control main receive, ?_, ?_⟩
  · intro disabled _ marked
    have own : state.marking .control = true → point = .pending := by
      show state.control.marking = true → _
      rw [at']
      exact beq_iff_eq.mp
    rcases restoreStep_kept taken cleared disabled (marked.imp id (Or.imp id own)) with
      vehicle | pending | following
    · exact Or.inl vehicle
    · exact Or.inr (Or.inl pending)
    · refine Or.inr (Or.inr ?_)
      rw [show outcome = .goto .pending from following]
      rfl
  · intro enabled disabled
    have still := restoreStep_anyDisabled enabled taken
    exact absurd (disabled.symm.trans still) nofun

theorem takeover_mark {site : TakeoverSite} {point : TakeoverPoint} {resume : Bool}
    (at' : state.control = .takeover site point) {after : NodeState} {outcome : TakeoverNext}
    (taken : takeoverStep config state input resume point = some (after, outcome)) :
    MarkStep .control state (after.goto (outcome.control site)) := by
  obtain ⟨main, _, receive, _⟩ := takeoverStep_threads taken
  have others : ∀ other, other ≠ ThreadId.control →
      (after.goto (outcome.control site)).marking other = state.marking other :=
    othersMark_control main receive
  have idle (outside : point ≠ .storeVehicle) : state.marking .control ≠ true := by
    show state.control.marking ≠ true
    rw [at']
    exact fun marking => outside (beq_iff_eq.mp marking)
  cases takeover_move taken with
  | check _ _ inner | leave _ inner =>
      refine .ofSame others rfl rfl rfl fun marking => absurd marking (idle ?_)
      rintro rfl
      cases inner
  | lock | storeButton =>
      exact .ofSame others rfl rfl rfl fun marking => absurd marking (idle nofun)
  | worked => exact .ofMarked others (fun _ _ => rfl) (Or.inr (Or.inr rfl))
  | failed =>
      have throws : (takeoverThrew site).marking = true := by cases site <;> rfl
      exact .ofMarked others (fun _ _ => throws) (Or.inr (Or.inr throws))
  | storeVehicle => exact .ofMarked others (fun enabled disabled =>
      absurd (disabled.symm.trans enabled) nofun) (Or.inl rfl)

/-- `request_internal_disarm` is on its way to the marker until it has set it. -/
theorem disarmStep_mark {flags : SharedFlags} {require : Bool} {point following : DisarmPoint}
    (continues : (disarmStep flags require point).2 = some following) :
    (disarmStep flags require point).1.recoveryPending = true ∨
      (following == .generation) = false := by
  cases point with
  | pending => exact Or.inl rfl
  | generation => cases continues
  | preserve | gap | button | inhibited | rearm =>
      cases Option.some.inj continues
      exact Or.inr rfl
  | requested | applied | vehicle =>
      cases Option.some.inj continues
      refine Or.inr ?_
      cases require <;> split <;> rfl

theorem control_mark (move : ControlMove config state input next)
    (cleared : ∀ site, state.control = .restore site .clear → state.ecus.anyDisabled = false) :
    MarkStep .control state next := by
  have same (main : next.main = state.main) (receive : next.receive = state.receive)
      (vehicle : next.flags.vehicleSafetyMode = state.flags.vehicleSafetyMode)
      (pending : next.flags.recoveryPending = state.flags.recoveryPending)
      (ecus : next.ecus = state.ecus) (idle : state.control.marking = false) :
      MarkStep .control state next :=
    .ofSame (othersMark_control main receive) vehicle pending ecus fun marking =>
      absurd (idle.symm.trans marking) nofun
  cases move with
  | plain source arm =>
      refine same arm.main arm.receive arm.vehicle arm.pending arm.ecus ?_
      cases point : state.control with
      | restore | disarm | takeover => rw [point] at source; cases source
      | _ => rfl
  | restore site point at' after outcome taken =>
      exact restore_mark at' taken fun clear => cleared site (clear ▸ at')
  | takeover site resume point at' after outcome taken => exact takeover_mark at' taken
  | disarm site require point following at' continues =>
      refine .ofMarked (othersMark_control rfl rfl) (fun enabled disabled =>
        absurd (disabled.symm.trans enabled) nofun) (Or.inr ?_)
      refine (disarmStep_mark continues).imp id fun before => ?_
      show (!(following == .generation)) = true
      rw [before]
      rfl
  | disarmed site require at' => cases site <;> exact same rfl rfl rfl rfl rfl (by rw [at']; rfl)
  | engageCheck after point =>
      refine same rfl rfl rfl rfl rfl ?_
      rcases point with point | point | point <;> rw [point] <;> rfl
  | dropApplied locals after _ moved =>
      refine same rfl rfl rfl rfl rfl ?_
      rcases moved with ⟨point, _⟩ | ⟨point, _⟩ | ⟨point, _⟩ <;> rw [point] <;> rfl
  | retryLock site point | retryPending site point | retryCheck site before after point
  | retryLeave site before point | retryDue site point | engageStart point | engageClear point
  | autoStart point | autoPass point | autoFree point | autoStore point | autoGeneration point
  | loadRequested point | loadGeneration point | loadConnected point | applied point
  | refused point | armTakeover point | cleanupRestore locals same' point | readyRequested point
  | readyVehicle point | readyPending point =>
      exact same rfl rfl rfl rfl rfl (by rw [point]; rfl)

theorem main_mark (step : mainStep config state input = some next)
    (cleared : state.main = .destroyRestore .clear → state.ecus.anyDisabled = false) :
    MarkStep .main state next := by
  have same (control : next.control = state.control) (receive : next.receive = state.receive)
      (vehicle : next.flags.vehicleSafetyMode = state.flags.vehicleSafetyMode)
      (pending : next.flags.recoveryPending = state.flags.recoveryPending)
      (ecus : next.ecus = state.ecus) (idle : state.main.marking = false) :
      MarkStep .main state next :=
    .ofSame (othersMark_main control receive) vehicle pending ecus fun marking =>
      absurd (idle.symm.trans marking) nofun
  cases main_move step with
  | armPending main | stop restored main | joinReceive restored main | joinControl restored main
  | disconnect restored main =>
      exact same rfl rfl rfl rfl rfl (by rw [main]; rfl)
  | arm data point main => cases point <;> exact same rfl rfl rfl rfl rfl (by rw [main]; rfl)
  | destroy point main => cases point <;> exact same rfl rfl rfl rfl rfl (by rw [main]; rfl)
  | destroyRestore point main after outcome taken =>
      have own : state.marking .main = true → point = .pending := by
        show state.main.marking = true → _
        rw [main]
        exact beq_iff_eq.mp
      have clear : point = .clear → state.ecus.anyDisabled = false := by
        rintro rfl
        exact cleared main
      obtain ⟨_, control, receive, _⟩ := restoreStep_threads taken
      have kept := restoreStep_kept taken clear
      have enabled := fun before => restoreStep_anyDisabled before taken
      refine ⟨othersMark_main control receive, ?_, fun before disabled =>
        absurd (disabled.symm.trans (enabled before)) nofun⟩
      intro disabled _ marked
      rcases kept disabled (marked.imp id (Or.imp id own)) with vehicle | pending | following
      · exact Or.inl vehicle
      · exact Or.inr (Or.inl pending)
      · cases following
        exact Or.inr (Or.inr rfl)

theorem receive_mark (step : receiveStep state input = some next) :
    MarkStep .receive state next := by
  obtain ⟨main, control, _, ecus⟩ := receiveStep_threads step
  have others := othersMark_receive main control
  have enabled : state.ecus.anyDisabled = false → next.ecus.anyDisabled = true →
      next.marking .receive = true := by
    intro before disabled
    rw [ecus, before] at disabled
    cases disabled
  have same (vehicle : next.flags.vehicleSafetyMode = state.flags.vehicleSafetyMode)
      (pending : next.flags.recoveryPending = state.flags.recoveryPending)
      (idle : state.receive.marking = false) : MarkStep .receive state next :=
    .ofSame others vehicle pending ecus fun marking => absurd (idle.symm.trans marking) nofun
  cases receive_move step with
  | loop receive | connected receive | connect receive | connectFailed receive | poll receive
  | lost receive | lostApplied receive => exact same rfl rfl (by rw [receive]; rfl)
  | connectVehicle =>
      refine ⟨others, ?_, enabled⟩
      intro disabled _ _
      refine Or.inr (Or.inr ?_)
      show ReceivePoint.marking (if _ then _ else _) = true
      rw [if_pos disabled]
      rfl
  | lostVehicle => exact .ofMarked others (fun _ _ => rfl) (Or.inr (Or.inr rfl))
  | reconnectDisarm point receive | lostDisarm point receive =>
      rcases disarmStep_continues state.flags true point with rfl | ⟨following, continues⟩
      · exact same rfl rfl (by rw [receive]; rfl)
      · refine .ofMarked others enabled (Or.inr ((disarmStep_mark continues).imp id ?_))
        intro before
        simp only [NodeState.marking, continues, ReceivePoint.marking, before, Bool.not_false]

end Marking

/-! ## What a step does to the flags of the ECUs -/

section Flags
variable {config : NodeConfig} {state next : NodeState} {input : StepInput}

theorem restoreStep_known {thread : ThreadId} {point : RestorePoint}
    {result : NodeState × RestoreNext} (known : state.ecus.Known)
    (step : restoreStep config thread state input point = some result) : result.1.ecus.Known := by
  cases point with
  | lock =>
      simp only [restoreStep] at step
      split at step
      · cases Option.some.inj step
        exact known
      · cases step
  | work =>
      cases Option.some.inj step
      exact restoreWork_known known rfl
  | vehicle | pending | clear | inhibited errors | rearm errors =>
      cases Option.some.inj step
      exact known

structure EcuEffect (state next : NodeState) (input : StepInput) : Prop where
  known : state.ecus.Known → (state.control.working = true →
    input.takeover.camera.disableRequest.reported = true ∧
      input.takeover.radar.disableRequest.reported = true) → next.ecus.Known
  enabled : state.control.locked = false → state.ecus.anyDisabled = false →
    next.ecus.anyDisabled = false
  cleared : ∀ site, next.control = .restore site .clear → next.ecus.anyDisabled = false

theorem EcuEffect.ofSame (ecus : next.ecus = state.ecus)
    (elsewhere : ∀ site, next.control ≠ .restore site .clear) : EcuEffect state next input where
  known := fun known _ => ecus ▸ known
  enabled := fun _ enabled => ecus ▸ enabled
  cleared := fun site point => absurd point (elsewhere site)

theorem not_clear_of_entry {point : ControlPoint} (entry : point.entry = true)
    (site : RestoreSite) : point ≠ .restore site .clear := by
  rintro rfl
  cases site <;> cases entry

theorem restore_ecus {site : RestoreSite} {point : RestorePoint} {after : NodeState}
    {outcome : RestoreNext}
    (taken : restoreStep config .control state input point = some (after, outcome)) :
    EcuEffect state (after.goto (outcome.control site)) input where
  known := fun known _ => restoreStep_known known taken
  enabled := fun _ enabled => restoreStep_anyDisabled enabled taken
  cleared := by
    intro other clear
    cases outcome with
    | goto following =>
        cases clear
        have enabled := restoreStep_clear taken
        exact enabled
    | returned => exact absurd clear (not_clear_of_entry (afterRestore_entry site) other)
    | threw what => exact absurd clear (not_clear_of_entry (restoreThrew_entry site) other)

theorem takeover_ecus {site : TakeoverSite} {point : TakeoverPoint} {resume : Bool}
    (at' : state.control = .takeover site point) {after : NodeState} {outcome : TakeoverNext}
    (taken : takeoverStep config state input resume point = some (after, outcome)) :
    EcuEffect state (after.goto (outcome.control site)) input := by
  have elsewhere (other : RestoreSite) : outcome.control site ≠ .restore other .clear := by
    cases outcome with
    | goto following => exact nofun
    | returned => exact not_clear_of_entry (afterTakeover_entry site) other
    | threw what => exact not_clear_of_entry (takeoverThrew_entry site) other
  have working (work : point = .work)
      (ecus : after.ecus = (takeoverWork config.safety state.ecus input.takeover).1) :
      EcuEffect state (after.goto (outcome.control site)) input := by
    refine ⟨?_, ?_, fun other clear => absurd clear (elsewhere other)⟩
    · intro known reported
      obtain ⟨camera, radar⟩ := reported (by rw [at', work]; rfl)
      show after.ecus.Known
      rw [ecus]
      exact takeoverWork_known known camera radar
    · intro outside
      rw [at', work] at outside
      cases outside
  cases takeover_move taken with
  | lock | check | leave | storeVehicle | storeButton => exact .ofSame rfl elsewhere
  | worked => exact working rfl rfl
  | failed => exact working rfl rfl

theorem control_ecus (move : ControlMove config state input next) : EcuEffect state next input := by
  cases move with
  | plain _ same _ entry => exact .ofSame same.ecus (not_clear_of_entry entry)
  | retryLeave site => exact .ofSame rfl (not_clear_of_entry (afterRetry_entry site))
  | restore site point at' after outcome taken => exact restore_ecus taken
  | takeover site resume point at' after outcome taken => exact takeover_ecus at' taken
  | disarmed site => cases site <;> exact .ofSame rfl nofun
  | engageCheck after point moved =>
      rcases moved with rfl | rfl | rfl <;> exact .ofSame rfl nofun
  | loadGeneration point after moved =>
      rcases moved with rfl | ⟨rfl, _⟩ | ⟨rfl, _⟩ <;> exact .ofSame rfl nofun
  | applied point supervisor after moved =>
      rcases moved with rfl | rfl | rfl <;> exact .ofSame rfl nofun
  | dropApplied locals after same moved =>
      rcases moved with ⟨_, rfl⟩ | ⟨_, rfl⟩ | ⟨_, rfl⟩ <;> exact .ofSame rfl nofun
  | retryLock | retryPending | retryCheck | retryDue | disarm | engageStart | engageClear
  | autoStart | autoPass | autoFree | autoStore | autoGeneration | loadRequested | loadConnected
  | refused | armTakeover | cleanupRestore | readyRequested | readyVehicle | readyPending =>
      exact .ofSame rfl nofun

structure MainEcuEffect (state next : NodeState) : Prop where
  known : state.ecus.Known → next.ecus.Known
  enabled : state.ecus.anyDisabled = false → next.ecus.anyDisabled = false
  cleared : next.main = .destroyRestore .clear → next.ecus.anyDisabled = false

theorem main_ecus (step : mainStep config state input = some next) : MainEcuEffect state next := by
  have same (ecus : next.ecus = state.ecus) (elsewhere : next.main ≠ .destroyRestore .clear) :
      MainEcuEffect state next :=
    ⟨fun known => ecus ▸ known, fun enabled => ecus ▸ enabled, fun clear => absurd clear elsewhere⟩
  cases main_move step with
  | armPending | arm data point =>
      refine same rfl ?_
      dsimp only
      split <;> exact nofun
  | stop | joinReceive | joinControl | disconnect => exact same rfl nofun
  | destroy point =>
      refine same rfl ?_
      cases point with
      | connected =>
          dsimp only [destroyStep]
          split <;> exact nofun
      | inhibited | operator | button | preserve | gap | requested | generation => exact nofun
  | destroyRestore point main after outcome taken =>
      refine ⟨fun before => restoreStep_known before taken,
        fun before => restoreStep_anyDisabled before taken, ?_⟩
      intro clear
      cases outcome with
      | goto following =>
          cases clear
          have cleared := restoreStep_clear taken
          exact cleared
      | returned | threw => cases clear

end Flags

/-! ## Runs -/

section Runs
variable {config : NodeConfig} {state next : NodeState} {event : NodeEvent}

theorem accounted_main {input : StepInput} (held : Accounted state)
    (guarded : actuationLock.Guarded next) (step : mainStep config state input = some next) :
    Accounted next := by
  obtain ⟨known, enabled, cleared⟩ := main_ecus step
  obtain ⟨control, _⟩ := mainStep_threads step
  refine ⟨guarded, known held.known, (main_mark step held.clearedByMain).marked held.marked, ?_,
    cleared⟩
  intro site clear
  exact enabled (held.clearedByControl site (control ▸ clear))

theorem accounted_control {input : StepInput} (held : Accounted state)
    (guarded : actuationLock.Guarded next) (step : controlStep config state input = some next)
    (reported : ¬ UnreportedDelivery state (.control input)) : Accounted next := by
  have move : ControlMove config state input next := control_move step
  obtain ⟨known, enabled, cleared⟩ := control_ecus move
  obtain ⟨main, _⟩ := control_threads move
  refine ⟨guarded, ?_, (control_mark move held.clearedByControl).marked held.marked, cleared, ?_⟩
  · refine known held.known fun work => ⟨?_, ?_⟩
    · by_contra unreported
      exact reported ⟨work, Or.inl (by simpa using unreported)⟩
    · by_contra unreported
      exact reported ⟨work, Or.inr (by simpa using unreported)⟩
  · intro clear
    have destroying : state.main = .destroyRestore .clear := main ▸ clear
    refine enabled ?_ (held.clearedByMain destroying)
    -- The destructor holds the mutex, so the control loop is not inside it.
    cases locked : state.control.locked with
    | false => rfl
    | true =>
        have inControl : actuationLock.inside state .control = true := locked
        have inMain : actuationLock.inside state .main = true := by
          show state.main.locked = true
          rw [destroying]
          rfl
        cases held.guarded.exclusive inControl inMain

theorem accounted_call (held : Accounted state) (idle : state.main = .idle) {main : MainPoint}
    (guarded : actuationLock.Guarded { state with main := main })
    (unmarked : main ≠ .destroyRestore .clear) : Accounted { state with main := main } := by
  have step : MarkStep .main state { state with main := main } := by
    refine .ofSame (othersMark_main rfl rfl) rfl rfl rfl ?_
    show state.main.marking = true → _
    rw [idle]
    exact nofun
  exact ⟨guarded, held.known, step.marked held.marked, held.clearedByControl,
    fun clear => absurd clear unmarked⟩

theorem accounted_step (held : Accounted state) (step : nodeStep config state event = some next)
    (reported : ¬ UnreportedDelivery state event) : Accounted next := by
  have guarded := guarded_step held.guarded step
  cases event with
  | callArm data =>
      have idle := callArm_idle step
      simp only [nodeStep, callArm, idle] at step
      split at step <;> cases Option.some.inj step
      · exact held
      · refine accounted_call held idle guarded ?_
        cases data <;> rintro ⟨⟩
  | callDestructor =>
      have idle := callDestructor_idle step
      simp only [nodeStep, callDestructor, idle] at step
      cases Option.some.inj step
      exact accounted_call held idle guarded (by rintro ⟨⟩)
  | main input => exact accounted_main held guarded step
  | control input => exact accounted_control held guarded step reported
  | receive input =>
      obtain ⟨main, control, _, ecus⟩ := receiveStep_threads step
      refine ⟨guarded, ecus ▸ held.known, (receive_mark step).marked held.marked, ?_, ?_⟩
      · rw [control, ecus]
        exact held.clearedByControl
      · rw [main, ecus]
        exact held.clearedByMain

end Runs

section Runs
variable (config : NodeConfig)

/-- In a run without an unreported delivery no silenced ECU is forgotten: between two iterations,
with no thread on its way to a marker, it is flagged as disabled, and the vehicle safety mode is on
or a restoration pending. -/
theorem silenced_ecu_remembered (events : List NodeEvent) {state : NodeState}
    (reached : (nodeSystem config).exec {} events = some state)
    (reported : (nodeSystem config).Meets (fun state event => ¬ UnreportedDelivery state event) {}
      events)
    (between : state.control = .loop) (receiving : state.receive.marking = false)
    (alive : state.main.marking = false) {ecu : Ecu}
    (either : ecu = state.ecus.camera ∨ ecu = state.ecus.radar) (silenced : ecu.silenced = true) :
    ecu.disabled = true ∧
      (state.flags.vehicleSafetyMode = true ∨ state.flags.recoveryPending = true) := by
  have held : Accounted state := by
    refine (nodeSystem config).exec_keeps Accounted
      (fun state event => ¬ UnreportedDelivery state event) ?_ events {} state initial_accounted
      reported reached
    intro state event next inv side step
    exact accounted_step inv step side
  have disabled : ecu.disabled = true := by
    rcases either with rfl | rfl
    · exact held.known.camera silenced
    · exact held.known.radar silenced
  refine ⟨disabled, ?_⟩
  have anyDisabled : state.ecus.anyDisabled = true := by
    rcases either with rfl | rfl
    · exact Bool.or_eq_true_iff.mpr (Or.inl disabled)
    · exact Bool.or_eq_true_iff.mpr (Or.inr disabled)
  rcases held.marked anyDisabled with vehicle | pending | ⟨thread, marking⟩
  · exact Or.inl vehicle
  · exact Or.inr pending
  · cases thread with
    | main => exact absurd (alive.symm.trans marking) nofun
    | control =>
        have inside : state.control.marking = true := marking
        rw [between] at inside
        cases inside
    | receive => exact absurd (receiving.symm.trans marking) nofun

end Runs

/-! ## A disable request whose acknowledgement is lost -/

theorem taken_over_camera_remembered :
    let state := NodeState.after actuationNode takenOver
    state.ecus.camera.silenced = true ∧ state.ecus.camera.disabled = true ∧
      (state.flags.vehicleSafetyMode = true ∨ state.flags.recoveryPending = true) := by
  have reached : (nodeSystem actuationNode).exec {} takenOver =
      some (NodeState.after actuationNode takenOver) := by decide +kernel
  refine ⟨by decide +kernel, silenced_ecu_remembered actuationNode takenOver reached
    (by decide +kernel) (by decide +kernel) (by decide +kernel) (by decide +kernel) (Or.inl rfl)
    (by decide +kernel)⟩

/-- The write of the camera's disable request is delivered and times out. -/
def timedOutTakeover : NodeEvent :=
  .control { fixtureInput with
    takeover := { camera := { disableRequest := .failed true "Red Panda CAN write failed" } } }

/-- The restoration that follows finds no ECU to restore and reports success: the camera is silent
with every marker clear. -/
theorem timed_out_camera_forgotten :
    let events := receiveSteps 4 ++ controlSteps 17 ++ [timedOutTakeover] ++ controlSteps 26
    let state := NodeState.after actuationNode events
    (nodeSystem actuationNode).exec {} events = some state ∧ state.control = .loop ∧
      state.main = .idle ∧ state.receive = .poll ∧ state.flags.connected = true ∧
      state.ecus.camera.silenced = true ∧ state.ecus.camera.disabled = false ∧
      state.flags.vehicleSafetyMode = false ∧ state.flags.recoveryPending = false := by
  refine ⟨by decide +kernel, by decide +kernel, by decide +kernel, by decide +kernel,
    by decide +kernel, by decide +kernel, by decide +kernel, by decide +kernel, by decide +kernel⟩

end Ioniq5Ecan
