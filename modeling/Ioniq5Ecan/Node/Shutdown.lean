import Ioniq5Ecan.Node.ExplicitOff

/-! # Shutdown

The destructor withdraws the request like an explicit OFF and then restores
the ECUs.  A control loop that had already decided on a takeover when the
destructor takes `actuation_mutex_` performs it after the restoration; every
other one finds the request withdrawn and takes nothing over. -/
set_option autoImplicit false
namespace Ioniq5Ecan

open Library (EventSystem)

/-- The control loop has decided on a takeover: it has applied or is applying a request it has
seen, or it has seen `requested_arm_` for `takeover_ready`. -/
def NodeState.decided (state : NodeState) : Bool :=
  match state.control with
  | .loadGeneration | .loadConnected | .applyArm | .applyConnected => state.locals.requested
  | .readyVehicle | .readyPending | .takeover _ _ => true
  | _ => false

/-- A decision survives the destructor: a window overlaps its stores, or the decision is already
made when it takes the mutex. -/
def SurvivesShutdown (state : NodeState) : NodeEvent → Prop
  | .main input => state.main.destroying = true ∧ OverlapsOff state (.main input) ∨
      state.main = .destroyRestore .lock ∧ state.decided = true
  | .control input => state.main.destroying = true ∧ OverlapsOff state (.control input)
  | .callArm _ | .callDestructor | .receive _ => False

instance (state : NodeState) : ∀ event, Decidable (SurvivesShutdown state event)
  | .main _ => inferInstanceAs (Decidable (_ ∧ _ ∨ _ ∧ _))
  | .control _ => inferInstanceAs (Decidable (_ ∧ _))
  | .callArm _ | .callDestructor | .receive _ => isFalse id

/-- The destructor holds the mutex for its restoration, or has completed it. -/
def MainPoint.settled : MainPoint → Bool
  | .destroyRestore .lock => false
  | .destroyRestore _ => true
  | .stop restored | .joinReceive restored | .joinControl restored | .disconnect restored
  | .destroyed restored => restored
  | _ => false

/-- The destructor's restoration has recorded no error. -/
def MainPoint.confirmed : MainPoint → Bool
  | .destroyRestore .clear => true
  | .stop restored | .joinReceive restored | .joinControl restored | .disconnect restored
  | .destroyed restored => restored
  | _ => false

/-- What holds from the destructor's call on. -/
structure Shutdown (state : NodeState) : Prop where
  withdrawing : Withdrawing state
  undecided : state.main.settled = true → state.decided = false
  enabled : state.main.confirmed = true → state.ecus.anyDisabled = false

theorem off_of_settled {state : NodeState} (withdrawing : Withdrawing state)
    (settled : state.main.settled = true) : Off state := by
  unfold Withdrawing at withdrawing
  cases main : state.main with
  | destroyRestore | stop | joinReceive | joinControl | disconnect | destroyed =>
      rw [main] at withdrawing
      exact withdrawing
  | idle | armPending | arm | destroy => rw [main] at settled; cases settled

theorem settled_of_confirmed {main : MainPoint} (confirmed : main.confirmed = true) :
    main.settled = true := by
  cases main with
  | destroyRestore point =>
      cases point with
      | clear => rfl
      | lock | vehicle | pending | work | inhibited | rearm => cases confirmed
  | stop | joinReceive | joinControl | disconnect | destroyed => exact confirmed
  | idle | armPending | arm | destroy => cases confirmed

/-! ## The control loop -/

section Control
variable {config : NodeConfig} {state next : NodeState} {input : StepInput}

theorem undecided_of_entry (entry : next.control.entry = true) : next.decided = false := by
  unfold NodeState.decided
  split
  all_goals
    first
    | rfl
    | (rename_i point
       rw [point] at entry
       cases entry)

theorem control_undecided (off : Off state) (undecided : state.decided = false)
    (move : ControlMove config state input next) : next.decided = false := by
  have absurdly {Goal : Prop} (decided : state.decided = true) : Goal := by
    rw [undecided] at decided
    cases decided
  cases move with
  | plain _ _ _ entry => exact undecided_of_entry entry
  | retryLeave site => exact undecided_of_entry (afterRetry_entry site)
  | restore site point at' after outcome taken =>
      cases outcome with
      | goto point => rfl
      | returned => exact undecided_of_entry (afterRestore_entry site)
      | threw what => exact undecided_of_entry (restoreThrew_entry site)
  | disarmed site => cases site <;> rfl
  | takeover site resume point at' =>
      exact absurdly (by simp only [NodeState.decided, at'])
  | engageCheck after point moved => rcases moved with rfl | rfl | rfl <;> rfl
  | loadRequested point => exact off.requested
  | loadGeneration point after moved =>
      have notRequested : state.locals.requested = false := by
        simpa only [NodeState.decided, point] using undecided
      rcases moved with rfl | ⟨rfl, _⟩ | ⟨rfl, _⟩
      · rfl
      · exact notRequested
      · exact notRequested
  | loadConnected point =>
      have notRequested : state.locals.requested = false := by
        simpa only [NodeState.decided, point] using undecided
      exact notRequested
  | applied point supervisor after moved =>
      have notRequested : state.locals.requested = false := by
        simpa only [NodeState.decided, point] using undecided
      rcases moved with rfl | rfl | rfl
      · rfl
      · rfl
      · exact notRequested
  | armTakeover point requested =>
      exact absurdly (by simpa only [NodeState.decided, point] using requested)
  | readyRequested point requested =>
      rw [off.requested] at requested
      cases requested
  | readyVehicle point | readyPending point =>
      exact absurdly (by simp only [NodeState.decided, point])
  | dropApplied locals after same moved =>
      rcases moved with ⟨_, rfl⟩ | ⟨_, rfl⟩ | ⟨_, rfl⟩ <;> rfl
  | retryLock | retryPending | retryCheck | retryDue | disarm | engageStart | engageClear
  | autoStart | autoPass | autoFree | autoStore | autoGeneration | refused | cleanupRestore => rfl

/-- Only a decided takeover disables an ECU. -/
theorem control_enabled (undecided : state.decided = false)
    (enabled : state.ecus.anyDisabled = false) (move : ControlMove config state input next) :
    next.ecus.anyDisabled = false := by
  cases move with
  | plain _ same => rw [same.ecus]; exact enabled
  | restore site point at' after outcome taken =>
      exact restoreStep_anyDisabled enabled taken
  | disarmed site => cases site <;> exact enabled
  | takeover site resume point at' =>
      simp only [NodeState.decided, at'] at undecided
      cases undecided
  | retryLock | retryPending | retryCheck | retryLeave | retryDue | disarm | engageStart
  | engageCheck | engageClear | autoStart | autoPass | autoFree | autoStore | autoGeneration
  | loadRequested | loadGeneration | loadConnected | applied | refused | armTakeover
  | dropApplied | cleanupRestore | readyRequested | readyVehicle | readyPending => exact enabled

end Control

/-! ## The destructor -/

section Main
variable {config : NodeConfig} {state next : NodeState} {input : StepInput}

theorem main_settled (step : mainStep config state input = some next)
    (settled : next.main.settled = true) :
    state.main.settled = true ∨ state.main = .destroyRestore .lock := by
  cases main_move step with
  | armPending | arm =>
      dsimp only at settled
      split at settled <;> cases settled
  | destroy point =>
      cases point with
      | connected =>
          simp only [destroyStep] at settled
          split at settled <;> cases settled
      | inhibited | operator | button | preserve | gap | requested | generation => cases settled
  | destroyRestore point main =>
      rw [main]
      cases point with
      | lock => exact Or.inr rfl
      | vehicle | pending | work | clear | inhibited | rearm => exact Or.inl rfl
  | stop restored main | joinReceive restored main | joinControl restored main
  | disconnect restored main =>
      rw [main]
      exact Or.inl settled

theorem main_confirmed (enabled : state.main.confirmed = true → state.ecus.anyDisabled = false)
    (step : mainStep config state input = some next) (confirmed : next.main.confirmed = true) :
    next.ecus.anyDisabled = false := by
  cases main_move step with
  | armPending | arm =>
      dsimp only at confirmed
      split at confirmed <;> cases confirmed
  | destroy point =>
      cases point with
      | connected =>
          simp only [destroyStep] at confirmed
          split at confirmed <;> cases confirmed
      | inhibited | operator | button | preserve | gap | requested | generation => cases confirmed
  | destroyRestore point main after outcome taken =>
      rw [main] at enabled
      cases outcome with
      | goto following =>
          cases following with
          | clear =>
              have cleared := restoreStep_clear taken
              exact cleared
          | lock | vehicle | pending | work | inhibited | rearm => cases confirmed
      | returned =>
          obtain ⟨rfl, ecus⟩ := restoreStep_returned taken
          show after.ecus.anyDisabled = false
          rw [ecus]
          exact enabled rfl
      | threw => cases confirmed
  | stop restored main | joinReceive restored main | joinControl restored main
  | disconnect restored main =>
      rw [main] at enabled
      exact enabled confirmed

end Main

/-! ## Runs -/

section Runs
variable {config : NodeConfig} {state next : NodeState} {event : NodeEvent}

theorem mainStep_destroying {input : StepInput} (step : mainStep config state input = some next)
    (destroying : next.main.destroying = true) : state.main.destroying = true := by
  cases main_move step with
  | armPending | arm =>
      dsimp only at destroying
      split at destroying <;> cases destroying
  | destroy point main | destroyRestore point main | stop restored main | joinReceive restored main
  | joinControl restored main | disconnect restored main =>
      rw [main]
      rfl

theorem shutdown_main {input : StepInput} (held : Shutdown state)
    (step : mainStep config state input = some next) (destroying : state.main.destroying = true)
    (dropped : ¬ SurvivesShutdown state (.main input)) : Shutdown next := by
  have inTime : ¬ OverlapsOff state (.main input) := fun overlaps =>
    dropped (Or.inl ⟨destroying, overlaps⟩)
  have same : next.decided = state.decided := by
    obtain ⟨control, locals⟩ := mainStep_threads step
    unfold NodeState.decided
    rw [control, locals]
  refine ⟨main_withdrawing held.withdrawing step inTime, ?_, main_confirmed held.enabled step⟩
  intro settled
  rw [same]
  rcases main_settled step settled with before | locks
  · exact held.undecided before
  · rw [← Bool.not_eq_true]
    exact fun decided => dropped (Or.inr ⟨locks, decided⟩)

theorem shutdown_step (held : state.main.destroying = true → Shutdown state)
    (step : nodeStep config state event = some next) (dropped : ¬ SurvivesShutdown state event)
    (destroying : next.main.destroying = true) : Shutdown next := by
  cases event with
  | callArm data =>
      have idle := callArm_idle step
      simp only [nodeStep, callArm, idle] at step
      split at step <;> cases Option.some.inj step
      · rw [idle] at destroying; cases destroying
      · cases data <;> cases destroying
  | callDestructor =>
      have idle := callDestructor_idle step
      simp only [nodeStep, callDestructor, idle] at step
      cases Option.some.inj step
      exact ⟨trivial, (by rintro ⟨⟩), by rintro ⟨⟩⟩
  | main input =>
      have before := mainStep_destroying step destroying
      exact shutdown_main (held before) step before dropped
  | control input =>
      have move : ControlMove config state input next := control_move step
      obtain ⟨main, _⟩ := control_threads move
      rw [main] at destroying
      obtain ⟨withdrawing, undecided, enabled⟩ := held destroying
      have inTime : ¬ OverlapsOff state (.control input) := fun overlaps =>
        dropped ⟨destroying, overlaps⟩
      refine ⟨withdrawing_step withdrawing step rfl inTime, ?_, ?_⟩
      · rw [main]
        intro settled
        exact control_undecided (off_of_settled withdrawing settled) (undecided settled) move
      · rw [main]
        intro confirmed
        exact control_enabled (undecided (settled_of_confirmed confirmed)) (enabled confirmed) move
  | receive input =>
      obtain ⟨main, control, locals, ecus⟩ := receiveStep_threads step
      rw [main] at destroying
      obtain ⟨withdrawing, undecided, enabled⟩ := held destroying
      have same : next.decided = state.decided := by
        unfold NodeState.decided
        rw [control, locals]
      refine ⟨withdrawing_step withdrawing step rfl id, ?_, ?_⟩
      · rw [main, same]
        exact undecided
      · rw [main, ecus]
        exact enabled

end Runs

section Runs
variable (config : NodeConfig)

/-- In a run where no decision survives the destructor, its restoration leaves no ECU disabled:
neither when the Panda is disconnected nor afterwards. -/
theorem shutdown_leaves_none_disabled (events : List NodeEvent) {state : NodeState}
    (reached : (nodeSystem config).exec {} events = some state)
    (dropped : (nodeSystem config).Meets (fun state event => ¬ SurvivesShutdown state event) {}
      events)
    (restored : state.main = .disconnect true ∨ state.main = .destroyed true) :
    state.ecus.camera.disabled = false ∧ state.ecus.radar.disabled = false := by
  have held : state.main.destroying = true → Shutdown state := by
    refine (nodeSystem config).exec_keeps
      (fun state => state.main.destroying = true → Shutdown state)
      (fun state event => ¬ SurvivesShutdown state event) ?_ events {} state nofun dropped reached
    intro state event next inv side step
    exact shutdown_step inv step side
  have enabled : state.ecus.anyDisabled = false := by
    rcases restored with main | main <;> rw [main] at held <;>
      exact (held rfl).enabled (by rw [main]; rfl)
  exact Bool.or_eq_false_iff.mp enabled

end Runs

/-! ## The destructor after and during a takeover -/

/-- The destructor up to `running_ = false`, from a connected node. -/
def destructorCall : List NodeEvent := .callDestructor :: mainSteps 14

/-- Both loops see that they are to stop, the receive loop after its poll. -/
def joined (control : Nat) : List NodeEvent := receiveSteps 2 ++ controlSteps control ++ mainSteps 3

theorem shutdown_after_takeover :
    let events := takenOver ++ destructorCall ++ joined 1
    let state := NodeState.after actuationNode events
    (NodeState.after actuationNode takenOver).ecus.camera.disabled = true ∧
      state.main = .destroyed true ∧ state.ecus.camera.disabled = false := by
  have reached : (nodeSystem actuationNode).exec {} (takenOver ++ destructorCall ++ joined 1) =
      some (NodeState.after actuationNode (takenOver ++ destructorCall ++ joined 1)) := by
    decide +kernel
  have main : (NodeState.after actuationNode
      (takenOver ++ destructorCall ++ joined 1)).main = .destroyed true := by decide +kernel
  exact ⟨by decide +kernel, main, (shutdown_leaves_none_disabled actuationNode _ reached
    (by decide +kernel) (Or.inr main)).1⟩

/-- The control loop waits for the mutex at the head of `enter_vehicle_safety_mode` while the
destructor restores, and silences the camera afterwards. -/
theorem takeover_after_restoration :
    let events := receiveSteps 4 ++ controlSteps 14 ++ destructorCall ++ controlSteps 6 ++ joined 1
    let state := NodeState.after actuationNode events
    (nodeSystem actuationNode).exec {} events = some state ∧
      (NodeState.after actuationNode (receiveSteps 4 ++ controlSteps 14)).control =
        .takeover .armRequest .lock ∧
      state.main = .destroyed true ∧ state.ecus.camera.disabled = true ∧
      state.ecus.camera.silenced = true := by
  refine ⟨by decide +kernel, by decide +kernel, by decide +kernel, by decide +kernel,
    by decide +kernel⟩

end Ioniq5Ecan
