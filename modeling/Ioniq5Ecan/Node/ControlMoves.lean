import Ioniq5Ecan.Node.ControlLoop

/-! # The moves of the control loop

`control_move` is the inversion of `controlStep`: most points only sample,
compute and branch (`plain`), and the moves that touch a shared arm flag, the
generation handshake or an ECU are listed.  The interleaving arguments use the
moves and never the step function. -/
set_option autoImplicit false
namespace Ioniq5Ecan

/-- The points a plain move can lead to: none of them holds the mutex or stands between a check
and the store it licenses. -/
def ControlPoint.entry : ControlPoint → Bool
  | .retry _ point => point == .lock
  | .restore (.retry _) _ | .restore .cleanup _ => false
  | .restore _ point => point == .lock
  | .disarm _ _ point => point == .preserve
  | .takeover _ _ => false
  | .engageRequested | .engageInhibited | .engageRearm | .engageClearInhibited => false
  | .autoPending | .autoRequested | .autoStore | .autoGeneration => false
  | .loadGeneration | .loadConnected | .applyArm | .applyConnected => false
  | .modeFailureApplied | .armRefusedApplied | .cleanupApplied | .cleanupConnected => false
  | .readyVehicle | .readyPending => false
  | _ => true

/-- The points that move plainly: no call in progress, and no store or handshake access next. -/
def ControlPoint.branching : ControlPoint → Bool
  | .retry _ _ | .restore _ _ | .disarm _ _ _ | .takeover _ _ => false
  | .engageClearInhibited | .autoStore | .autoGeneration => false
  | .loadRequested | .loadGeneration | .applyArm => false
  | .modeFailureApplied | .armRefusedApplied | .cleanupApplied => false
  | _ => true

/-- Nothing the arm flags, the handshake and the ECUs depend on has moved. -/
structure SameArm (state next : NodeState) : Prop where
  requested : next.flags.requestedArm = state.flags.requestedArm
  applied : next.flags.appliedArm = state.flags.appliedArm
  inhibited : next.flags.autoArmInhibited = state.flags.autoArmInhibited
  operator : next.flags.operatorDisarmed = state.flags.operatorDisarmed
  pending : next.flags.recoveryPending = state.flags.recoveryPending
  vehicle : next.flags.vehicleSafetyMode = state.flags.vehicleSafetyMode
  generation : next.flags.armRequestGeneration = state.flags.armRequestGeneration
  connected : next.flags.connected = true → state.flags.connected = true
  localRequested : next.locals.requested = state.locals.requested
  localGeneration : next.locals.requestGeneration = state.locals.requestGeneration
  appliedGeneration : next.locals.appliedArmGeneration = state.locals.appliedArmGeneration
  ecus : next.ecus = state.ecus
  main : next.main = state.main
  receive : next.receive = state.receive

theorem SameArm.goto (state : NodeState) (point : ControlPoint) :
    SameArm state (state.goto point) :=
  ⟨rfl, rfl, rfl, rfl, rfl, rfl, rfl, id, rfl, rfl, rfl, rfl, rfl, rfl⟩

def RestoreNext.control (site : RestoreSite) : RestoreNext → ControlPoint
  | .goto point => .restore site point
  | .returned => afterRestore site
  | .threw _ => restoreThrew site

def TakeoverNext.control (site : TakeoverSite) : TakeoverNext → ControlPoint
  | .goto point => .takeover site point
  | .returned => afterTakeover site
  | .threw _ => takeoverThrew site

inductive ControlMove (config : NodeConfig) (state : NodeState) (input : StepInput) :
    NodeState → Prop
  | plain {next : NodeState} (source : state.control.branching = true) (same : SameArm state next)
      (mutex : next.actuationMutex = state.actuationMutex) (entry : next.control.entry = true) :
      ControlMove config state input next
  | retryLock (site : RetrySite) (point : state.control = .retry site .lock)
      (free : state.actuationMutex = none) :
      ControlMove config state input
        ({ state with actuationMutex := some .control }.goto (.retry site .pending))
  | retryPending (site : RetrySite) (point : state.control = .retry site .pending)
      (pending : state.flags.recoveryPending = true) :
      ControlMove config state input (state.goto (.retry site .requested))
  | retryCheck (site : RetrySite) (before after : RetryPoint)
      (point : state.control = .retry site before)
      (inner : before ≠ .lock ∧ before ≠ .pending) (next : after ≠ .lock ∧ after ≠ .pending) :
      ControlMove config state input (state.goto (.retry site after))
  | retryLeave (site : RetrySite) (before : RetryPoint)
      (point : state.control = .retry site before) (inner : before ≠ .lock)
      (retry : RecoveryRetry) :
      ControlMove config state input ({ state.unlocked with retry := retry }.goto (afterRetry site))
  | retryDue (site : RetrySite) (point : state.control = .retry site .connected)
      (retry : RecoveryRetry) :
      ControlMove config state input
        ({ state.unlocked with retry := retry }.goto (.restore (.retry site) .lock))
  | restore (site : RestoreSite) (point : RestorePoint)
      (at' : state.control = .restore site point) (after : NodeState) (outcome : RestoreNext)
      (taken : restoreStep config .control state input point = some (after, outcome)) :
      ControlMove config state input (after.goto (outcome.control site))
  | disarm (site : DisarmSite) (requireOperatorRearm : Bool) (point following : DisarmPoint)
      (at' : state.control = .disarm site requireOperatorRearm point)
      (continues : (disarmStep state.flags requireOperatorRearm point).2 = some following) :
      ControlMove config state input
        ((state.setFlags (disarmStep state.flags requireOperatorRearm point).1).goto
          (.disarm site requireOperatorRearm following))
  | disarmed (site : DisarmSite) (requireOperatorRearm : Bool)
      (at' : state.control = .disarm site requireOperatorRearm .generation) :
      ControlMove config state input
        (finishDisarm (state.setFlags { state.flags with
          armRequestGeneration := state.flags.armRequestGeneration + 1 }) site)
  | takeover (site : TakeoverSite) (resume : Bool) (point : TakeoverPoint)
      (at' : state.control = .takeover site point) (after : NodeState) (outcome : TakeoverNext)
      (taken : takeoverStep config state input resume point = some (after, outcome)) :
      ControlMove config state input (after.goto (outcome.control site))
  | engageStart (point : state.control = .engageOperator)
      (notOff : state.flags.operatorDisarmed = false) :
      ControlMove config state input (state.goto .engageRequested)
  | engageCheck (after : ControlPoint)
      (point : state.control = .engageRequested ∨ state.control = .engageInhibited ∨
        state.control = .engageRearm)
      (next : after = .engageInhibited ∨ after = .engageRearm ∨ after = .engageClearInhibited) :
      ControlMove config state input (state.goto after)
  | engageClear (point : state.control = .engageClearInhibited) :
      ControlMove config state input
        ((state.setFlags { state.flags with autoArmInhibited := false }).goto .engageClearRearm)
  | autoStart (point : state.control = .autoInhibited)
      (notInhibited : state.flags.autoArmInhibited = false) :
      ControlMove config state input (state.goto .autoPending)
  | autoPass (point : state.control = .autoPending)
      (notPending : state.flags.recoveryPending = false)
      (ready : state.locals.autoArmReady config = true) :
      ControlMove config state input (state.goto .autoRequested)
  | autoFree (point : state.control = .autoRequested) :
      ControlMove config state input (state.goto .autoStore)
  | autoStore (point : state.control = .autoStore) :
      ControlMove config state input
        ((state.setFlags { state.flags with requestedArm := true }).goto .autoGeneration)
  | autoGeneration (point : state.control = .autoGeneration) :
      ControlMove config state input
        ((state.setFlags { state.flags with
          armRequestGeneration := state.flags.armRequestGeneration + 1 }).goto .loadRequested)
  | loadRequested (point : state.control = .loadRequested) :
      ControlMove config state input
        ((state.setLocals { state.locals with requested := state.flags.requestedArm }).goto
          .loadGeneration)
  | loadGeneration (point : state.control = .loadGeneration) (after : ControlPoint)
      (next : after = .update ∨
        after = .loadConnected ∧ state.locals.requested = true ∨
        after = .applyArm ∧ state.locals.requested = false) :
      ControlMove config state input
        ((state.setLocals { state.locals with
          requestGeneration := state.flags.armRequestGeneration }).goto after)
  | loadConnected (point : state.control = .loadConnected)
      (connected : state.flags.connected = true) :
      ControlMove config state input (state.goto .applyArm)
  | applied (point : state.control = .applyArm) (supervisor : SafetySupervisor)
      (after : ControlPoint)
      (next : after = .standby ∨ after = .update ∨ after = .applyConnected) :
      ControlMove config state input
        (((state.setLocals { state.locals with
          appliedArmGeneration := state.locals.requestGeneration, supervisor := supervisor }).setFlags
          { state.flags with appliedArm := state.locals.requested }).goto after)
  | refused (point : state.control = .applyArm) (supervisor : SafetySupervisor) :
      ControlMove config state input
        ((state.setLocals { state.locals with
          appliedArmGeneration := state.locals.requestGeneration, supervisor := supervisor }).goto
          (.disarm .armRefused true .preserve))
  | armTakeover (point : state.control = .applyConnected)
      (requested : state.locals.requested = true) :
      ControlMove config state input (state.goto (.takeover .armRequest .lock))
  | dropApplied (locals : LoopLocals) (after : ControlPoint)
      (sameLocals : locals.requested = state.locals.requested ∧
        locals.requestGeneration = state.locals.requestGeneration ∧
        locals.appliedArmGeneration = state.locals.appliedArmGeneration)
      (point : state.control = .modeFailureApplied ∧ after = .modeFailureConnected ∨
        state.control = .armRefusedApplied ∧ after = .update ∨
        state.control = .cleanupApplied ∧ after = .cleanupConnected) :
      ControlMove config state input
        (((state.setLocals locals).setFlags { state.flags with appliedArm := false }).goto after)
  | cleanupRestore (locals : LoopLocals)
      (sameLocals : locals.requested = state.locals.requested ∧
        locals.requestGeneration = state.locals.requestGeneration ∧
        locals.appliedArmGeneration = state.locals.appliedArmGeneration)
      (point : state.control = .cleanupConnected) :
      ControlMove config state input ((state.setLocals locals).goto (.restore .cleanup .lock))
  | readyRequested (point : state.control = .readyRequested)
      (requested : state.flags.requestedArm = true) :
      ControlMove config state input (state.goto .readyVehicle)
  | readyVehicle (point : state.control = .readyVehicle) :
      ControlMove config state input (state.goto .readyPending)
  | readyPending (point : state.control = .readyPending) :
      ControlMove config state input (state.goto (.takeover .session .lock))

/-! ## enter_vehicle_safety_mode -/

/-- The checks made under the mutex before the USB work. -/
def TakeoverPoint.checks : TakeoverPoint → Bool
  | .vehicle | .pending | .gap | .button => true
  | _ => false

def TakeoverNext.leaves : TakeoverNext → Bool
  | .goto _ => false
  | _ => true

inductive TakeoverMove (config : NodeConfig) (state : NodeState) (input : StepInput) :
    TakeoverPoint → NodeState × TakeoverNext → Prop
  | lock (free : state.actuationMutex = none) :
      TakeoverMove config state input .lock
        ({ state with actuationMutex := some .control }, .goto .vehicle)
  | check (point after : TakeoverPoint) (inner : point.checks = true)
      (next : after.checks = true ∨ after = .work) :
      TakeoverMove config state input point (state, .goto after)
  | leave (point : TakeoverPoint) (inner : point.checks = true) (outcome : TakeoverNext)
      (leaves : outcome.leaves = true) : TakeoverMove config state input point (state.unlocked, outcome)
  | worked
      (success : (takeoverWork config.safety state.ecus input.takeover).2 = .ok ()) :
      TakeoverMove config state input .work
        ({ state.afterUsb (takeoverWork config.safety state.ecus input.takeover).2.isOk
            (input.takeover.controlWrites && input.stillConnected) with
          ecus := (takeoverWork config.safety state.ecus input.takeover).1 }, .goto .storeVehicle)
  | failed (what : String) :
      TakeoverMove config state input .work
        (NodeState.unlocked {
          state.afterUsb (takeoverWork config.safety state.ecus input.takeover).2.isOk
            (input.takeover.controlWrites && input.stillConnected) with
          ecus := (takeoverWork config.safety state.ecus input.takeover).1 }, .threw what)
  | storeVehicle :
      TakeoverMove config state input .storeVehicle
        (state.setFlags { state.flags with vehicleSafetyMode := true }, .goto .storeButton)
  | storeButton :
      TakeoverMove config state input .storeButton
        ((state.setFlags { state.flags with buttonRearmTakeover := false }).unlocked, .returned)

section Takeover
variable {config : NodeConfig} {state : NodeState} {input : StepInput} {resume : Bool}
  {point : TakeoverPoint} {result : NodeState × TakeoverNext}

theorem startTakeover_move (inner : point.checks = true) :
    TakeoverMove config state input point (startTakeover config state) := by
  unfold startTakeover
  split
  · exact .check point .work inner (Or.inr rfl)
  · exact .leave point inner _ rfl

theorem takeover_move (step : takeoverStep config state input resume point = some result) :
    TakeoverMove config state input point result := by
  cases point with
  | lock =>
      simp only [takeoverStep] at step
      split at step
      · rename_i free
        cases Option.some.inj step
        exact .lock free
      · cases step
  | vehicle =>
      simp only [takeoverStep] at step
      split at step
      · cases Option.some.inj step
        exact .leave _ rfl _ rfl
      · cases Option.some.inj step
        exact .check _ _ rfl (Or.inl rfl)
  | pending =>
      simp only [takeoverStep] at step
      split_ifs at step <;> cases Option.some.inj step
      · exact .leave _ rfl _ rfl
      · exact .leave _ rfl _ rfl
      · exact .check _ _ rfl (Or.inl rfl)
      · exact .leave _ rfl _ rfl
      · exact startTakeover_move rfl
  | gap =>
      simp only [takeoverStep] at step
      split_ifs at step <;> cases Option.some.inj step
      · exact .check _ _ rfl (Or.inl rfl)
      · exact startTakeover_move rfl
      · exact .leave _ rfl _ rfl
  | button =>
      simp only [takeoverStep] at step
      split_ifs at step <;> cases Option.some.inj step
      · exact startTakeover_move rfl
      · exact .leave _ rfl _ rfl
  | work =>
      simp only [takeoverStep] at step
      split at step
      · rename_i success
        cases Option.some.inj step
        exact .worked success
      · cases Option.some.inj step
        exact .failed _
  | storeVehicle =>
      cases Option.some.inj step
      exact .storeVehicle
  | storeButton =>
      cases Option.some.inj step
      exact .storeButton

end Takeover

/-! ## The branches end at entries -/

section Entries
variable (config : NodeConfig) (locals : LoopLocals)

theorem entry_ite {condition : Prop} [Decidable condition] {first second : ControlPoint}
    (left : first.entry = true) (right : second.entry = true) :
    (if condition then first else second).entry = true := by
  split
  · exact left
  · exact right

theorem toAutoArm_entry : (toAutoArm config).entry = true := entry_ite rfl rfl

theorem toCleanup_entry : (toCleanup locals).entry = true := entry_ite rfl rfl

theorem afterClearGap_entry : (afterClearGap locals).entry = true := entry_ite rfl rfl

theorem afterDrop_entry : (afterDrop locals).entry = true :=
  entry_ite rfl (afterClearGap_entry locals)

theorem afterUpdate_entry : (afterUpdate config locals).entry = true :=
  entry_ite (entry_ite rfl (afterDrop_entry locals)) (toCleanup_entry locals)

theorem afterRetry_entry (site : RetrySite) : (afterRetry site).entry = true := by
  cases site <;> rfl

theorem afterRestore_entry (site : RestoreSite) : (afterRestore site).entry = true := by
  cases site with
  | retry site => exact afterRetry_entry site
  | disarmRequest | commandGap | cleanup => rfl

theorem restoreThrew_entry (site : RestoreSite) : (restoreThrew site).entry = true := by
  cases site with
  | retry site => exact afterRetry_entry site
  | disarmRequest | commandGap | cleanup => rfl

theorem takeoverThrew_entry (site : TakeoverSite) : (takeoverThrew site).entry = true := by
  cases site <;> rfl

theorem afterTakeover_entry (site : TakeoverSite) : (afterTakeover site).entry = true := by
  cases site <;> rfl

end Entries

/-! ## The inversion -/

section Inversion
variable {config : NodeConfig} {state next : NodeState} {input : StepInput}

theorem retry_move {site : RetrySite} {point : RetryPoint}
    (at' : state.control = .retry site point)
    (step : retryStep state input site point = some next) : ControlMove config state input next := by
  cases point with
  | lock =>
      simp only [retryStep] at step
      split at step
      · rename_i free
        cases Option.some.inj step
        exact .retryLock site at' free
      · cases step
  | pending =>
      simp only [retryStep] at step
      split at step
      · rename_i pending
        cases Option.some.inj step
        exact .retryPending site at' pending
      · cases Option.some.inj step
        exact .retryLeave site _ at' nofun state.retry
  | requested | applied | vehicle =>
      simp only [retryStep] at step
      split at step
      · cases Option.some.inj step
        exact .retryLeave site _ at' nofun state.retry
      · cases Option.some.inj step
        exact .retryCheck site _ _ at' ⟨nofun, nofun⟩ ⟨nofun, nofun⟩
  | connected =>
      simp only [retryStep] at step
      split at step
      · cases Option.some.inj step
        exact .retryLeave site _ at' nofun state.retry
      · cases Option.some.inj step
        split
        · exact .retryDue site at' _
        · exact .retryLeave site _ at' nofun _

theorem disarm_move {site : DisarmSite} {requireOperatorRearm : Bool} {point : DisarmPoint}
    (at' : state.control = .disarm site requireOperatorRearm point) :
    ControlMove config state input
      (match (disarmStep state.flags requireOperatorRearm point).2 with
        | some following =>
            (state.setFlags (disarmStep state.flags requireOperatorRearm point).1).goto
              (.disarm site requireOperatorRearm following)
        | none =>
            finishDisarm (state.setFlags (disarmStep state.flags requireOperatorRearm point).1)
              site) := by
  split
  · rename_i following continues
    exact .disarm site requireOperatorRearm point following at' continues
  · rename_i returns
    cases point with
    | generation => exact .disarmed site requireOperatorRearm at'
    | preserve | gap | button | requested | applied | vehicle | inhibited | rearm | pending =>
        cases returns

theorem ControlMove.branch {after : ControlPoint} (source : state.control.branching = true)
    (entry : after.entry = true) : ControlMove config state input (state.goto after) :=
  .plain source (.goto state after) rfl entry

theorem ControlMove.usb {after : ControlPoint} {returned kept : Bool}
    (source : state.control.branching = true) (entry : after.entry = true) :
    ControlMove config state input ((state.afterUsb returned kept).goto after) := by
  refine .plain source ⟨rfl, rfl, rfl, rfl, rfl, rfl, rfl, ?_, rfl, rfl, rfl, rfl, rfl, rfl⟩ rfl entry
  intro connected
  exact (Bool.and_eq_true_iff.mp connected).1

theorem control_move (step : controlStep config state input = some next) :
    ControlMove config state input next := by
  unfold controlStep at step
  cases point : state.control with
  | retry site retryPoint =>
      simp only [point] at step
      exact retry_move point step
  | restore site restorePoint =>
      simp only [point] at step
      split at step
      · cases step
      all_goals
        rename_i taken
        cases Option.some.inj step
      · exact .restore site restorePoint point _ _ taken
      · exact .restore site restorePoint point _ _ taken
      · exact .restore site restorePoint point _ _ taken
  | disarm site require disarmPoint =>
      simp only [point] at step
      cases Option.some.inj step
      exact disarm_move point
  | takeover site takeoverPoint =>
      simp only [point] at step
      split at step
      · cases step
      all_goals
        rename_i taken
        cases Option.some.inj step
      · exact .takeover site _ takeoverPoint point _ _ taken
      · exact .takeover site _ takeoverPoint point _ _ taken
      · exact .takeover site _ takeoverPoint point _ _ taken
  | loop | gapVehicle | disarmPending | disarmVehicle | modeFailureConnected | cleanupCheck =>
      simp only [point] at step
      cases Option.some.inj step
      exact .branch (by rw [point]; rfl) (entry_ite rfl rfl)
  | readyApplied =>
      simp only [point] at step
      cases Option.some.inj step
      exact .branch (by rw [point]; rfl) (entry_ite rfl (toCleanup_entry _))
  | engageOperator =>
      simp only [point] at step
      cases Option.some.inj step
      split
      · exact .branch (by rw [point]; rfl) (toAutoArm_entry config)
      · rename_i notOff
        exact .engageStart point (by simpa using notOff)
  | engageRequested =>
      simp only [point] at step
      cases Option.some.inj step
      split
      · exact .branch (by rw [point]; rfl) (toAutoArm_entry config)
      · exact .engageCheck _ (Or.inl point) (Or.inl rfl)
  | engageInhibited =>
      simp only [point] at step
      cases Option.some.inj step
      split
      · exact .engageCheck _ (Or.inr (Or.inl point)) (Or.inr (Or.inr rfl))
      · exact .engageCheck _ (Or.inr (Or.inl point)) (Or.inr (Or.inl rfl))
  | engageRearm =>
      simp only [point] at step
      cases Option.some.inj step
      split
      · exact .engageCheck _ (Or.inr (Or.inr point)) (Or.inr (Or.inr rfl))
      · exact .branch (by rw [point]; rfl) (toAutoArm_entry config)
  | engageClearInhibited =>
      simp only [point] at step
      cases Option.some.inj step
      exact .engageClear point
  | autoInhibited =>
      simp only [point] at step
      cases Option.some.inj step
      split
      · exact .branch (by rw [point]; rfl) rfl
      · rename_i notInhibited
        exact .autoStart point (by simpa using notInhibited)
  | autoPending =>
      simp only [point] at step
      cases Option.some.inj step
      split
      · rename_i ready
        obtain ⟨notPending, ready⟩ := Bool.and_eq_true_iff.mp ready
        exact .autoPass point (by simpa using notPending) ready
      · exact .branch (by rw [point]; rfl) rfl
  | autoRequested =>
      simp only [point] at step
      cases Option.some.inj step
      split
      · exact .branch (by rw [point]; rfl) rfl
      · exact .autoFree point
  | autoStore =>
      simp only [point] at step
      cases Option.some.inj step
      exact .autoStore point
  | autoGeneration =>
      simp only [point] at step
      cases Option.some.inj step
      exact .autoGeneration point
  | loadRequested =>
      simp only [point] at step
      cases Option.some.inj step
      exact .loadRequested point
  | loadGeneration =>
      simp only [point] at step
      cases Option.some.inj step
      refine .loadGeneration point _ ?_
      split
      · exact Or.inl rfl
      split
      · rename_i requested
        exact Or.inr (Or.inl ⟨rfl, requested⟩)
      · rename_i notRequested
        exact Or.inr (Or.inr ⟨rfl, by simpa using notRequested⟩)
  | loadConnected =>
      simp only [point] at step
      cases Option.some.inj step
      split
      · rename_i connected
        exact .loadConnected point connected
      · exact .branch (by rw [point]; rfl) rfl
  | applyArm =>
      simp only [point] at step
      cases Option.some.inj step
      unfold applyArmStep
      dsimp only
      split
      · refine .applied point _ _ ?_
        split
        · split
          · exact Or.inl rfl
          · exact Or.inr (Or.inl rfl)
        · exact Or.inr (Or.inr rfl)
      · exact .refused point _
  | applyConnected =>
      simp only [point] at step
      cases Option.some.inj step
      split
      · exact .branch (by rw [point]; rfl) rfl
      split
      · rename_i requested
        exact .armTakeover point requested
      · exact .branch (by rw [point]; rfl) rfl
  | modeFailureApplied =>
      simp only [point] at step
      cases Option.some.inj step
      exact .dropApplied _ _ ⟨rfl, rfl, rfl⟩ (Or.inl ⟨point, rfl⟩)
  | armRefusedApplied =>
      simp only [point] at step
      cases Option.some.inj step
      exact .dropApplied state.locals _ ⟨rfl, rfl, rfl⟩ (Or.inr (Or.inl ⟨point, rfl⟩))
  | cleanupApplied =>
      simp only [point] at step
      cases Option.some.inj step
      exact .dropApplied state.locals _ ⟨rfl, rfl, rfl⟩ (Or.inr (Or.inr ⟨point, rfl⟩))
  | cleanupConnected =>
      simp only [point] at step
      cases Option.some.inj step
      split
      · exact .cleanupRestore _ ⟨rfl, rfl, rfl⟩ point
      · exact .plain (by rw [point]; rfl)
          ⟨rfl, rfl, rfl, rfl, rfl, rfl, rfl, id, rfl, rfl, rfl, rfl, rfl, rfl⟩ rfl rfl
  | readyRequested =>
      simp only [point] at step
      cases Option.some.inj step
      split
      · rename_i ready
        exact .readyRequested point (Bool.and_eq_true_iff.mp ready).1
      · exact .branch (by rw [point]; rfl) (toCleanup_entry _)
  | readyVehicle =>
      simp only [point] at step
      cases Option.some.inj step
      split
      · exact .readyVehicle point
      · exact .branch (by rw [point]; rfl) (toCleanup_entry _)
  | readyPending =>
      simp only [point] at step
      cases Option.some.inj step
      split
      · exact .readyPending point
      · exact .branch (by rw [point]; rfl) (toCleanup_entry _)
  | sample | engageClearRearm | engageTakeover | update | clearGap | gapQualified | gapPreserve
  | movingGap | movingButton =>
      simp only [point] at step
      cases Option.some.inj step
      refine .plain (by rw [point]; rfl)
        ⟨rfl, rfl, rfl, rfl, rfl, rfl, rfl, id, rfl, rfl, rfl, rfl, rfl, rfl⟩ rfl ?_
      first
      | rfl
      | exact toAutoArm_entry config
      | exact afterClearGap_entry _
      | exact afterUpdate_entry config _
      | exact entry_ite rfl rfl
      | exact entry_ite rfl (toAutoArm_entry config)
  | standby | dropPermission =>
      simp only [point] at step
      split at step
      · cases step
      · cases Option.some.inj step
        refine .usb (by rw [point]; rfl) ?_
        cases input.usb <;> first | rfl | exact afterDrop_entry _
  | takeoverHealth =>
      simp only [point] at step
      cases Option.some.inj step
      refine .usb (by rw [point]; rfl) ?_
      cases input.usb <;> rfl
  | adapter =>
      simp only [point] at step
      split at step
      · cases Option.some.inj step
        exact .branch (by rw [point]; rfl) rfl
      · cases Option.some.inj step
        exact .plain (by rw [point]; rfl)
          ⟨rfl, rfl, rfl, rfl, rfl, rfl, rfl, id, rfl, rfl, rfl, rfl, rfl, rfl⟩ rfl rfl
  | transmit =>
      simp only [point] at step
      split at step
      · cases step
      · cases Option.some.inj step
        split
        · refine .usb (by rw [point]; rfl) ?_
          cases input.usb <;> rfl
        · exact .branch (by rw [point]; rfl) rfl
  | heartbeat =>
      simp only [point] at step
      split at step
      · cases step
      · cases Option.some.inj step
        refine .plain (by rw [point]; rfl)
          ⟨rfl, rfl, rfl, rfl, rfl, rfl, rfl, ?_, rfl, rfl, rfl, rfl, rfl, rfl⟩ rfl rfl
        intro connected
        exact (Bool.and_eq_true_iff.mp connected).1
  | stopped => simp only [point] at step; cases step

end Inversion

/-! ## What a restoration does to the ECUs -/

section Restoration
variable {config : NodeConfig} {state : NodeState} {input : StepInput}

theorem restoreStep_anyDisabled {thread : ThreadId} {point : RestorePoint}
    {result : NodeState × RestoreNext} (enabled : state.ecus.anyDisabled = false)
    (step : restoreStep config thread state input point = some result) :
    result.1.ecus.anyDisabled = false := by
  cases point with
  | lock =>
      simp only [restoreStep] at step
      split at step
      · cases Option.some.inj step
        exact enabled
      · cases step
  | work =>
      cases Option.some.inj step
      exact restoreWork_anyDisabled enabled rfl
  | vehicle | pending | clear | inhibited errors | rearm errors =>
      cases Option.some.inj step
      exact enabled

/-- The restoration clears its marker only once both ECUs are confirmed. -/
theorem restoreStep_clear {thread : ThreadId} {point : RestorePoint} {after : NodeState}
    (step : restoreStep config thread state input point = some (after, .goto .clear)) :
    after.ecus.anyDisabled = false := by
  cases point with
  | lock =>
      simp only [restoreStep] at step
      split at step <;> cases step
  | work =>
      simp only [restoreStep, Option.some.injEq, Prod.mk.injEq, RestoreNext.goto.injEq] at step
      obtain ⟨rfl, next⟩ := step
      split at next
      · rename_i success
        exact restoreWork_enabled (List.isEmpty_iff.mp success)
      · cases next
  | vehicle | pending | clear | inhibited errors | rearm errors => cases step

theorem restoreStep_returned {thread : ThreadId} {point : RestorePoint} {after : NodeState}
    (step : restoreStep config thread state input point = some (after, .returned)) :
    point = .clear ∧ after.ecus = state.ecus := by
  cases point with
  | lock =>
      simp only [restoreStep] at step
      split at step <;> cases step
  | clear =>
      cases step
      exact ⟨rfl, rfl⟩
  | vehicle | pending | work | inhibited errors | rearm errors => cases step

end Restoration

/-! ## Only the own thread moves -/

section Threads
variable {config : NodeConfig} {state next : NodeState} {input : StepInput}

structure SameThreads (state next : NodeState) : Prop where
  main : next.main = state.main
  control : next.control = state.control
  receive : next.receive = state.receive
  locals : next.locals = state.locals

theorem restoreStep_threads {thread : ThreadId} {point : RestorePoint}
    {result : NodeState × RestoreNext}
    (step : restoreStep config thread state input point = some result) :
    SameThreads state result.1 := by
  cases point with
  | lock =>
      simp only [restoreStep] at step
      split at step
      · cases Option.some.inj step
        exact ⟨rfl, rfl, rfl, rfl⟩
      · cases step
  | vehicle | pending | work | clear | inhibited | rearm =>
      cases Option.some.inj step
      exact ⟨rfl, rfl, rfl, rfl⟩

theorem takeoverStep_threads {resume : Bool} {point : TakeoverPoint}
    {result : NodeState × TakeoverNext}
    (step : takeoverStep config state input resume point = some result) :
    SameThreads state result.1 := by
  cases takeover_move step <;> exact ⟨rfl, rfl, rfl, rfl⟩

theorem control_threads (move : ControlMove config state input next) :
    next.main = state.main ∧ next.receive = state.receive := by
  cases move with
  | plain _ same => exact ⟨same.main, same.receive⟩
  | restore site point at' after outcome taken =>
      have threads := restoreStep_threads taken
      exact ⟨threads.main, threads.receive⟩
  | disarmed site => cases site <;> exact ⟨rfl, rfl⟩
  | takeover site resume point at' after outcome taken =>
      have threads := takeoverStep_threads taken
      exact ⟨threads.main, threads.receive⟩
  | retryLock | retryPending | retryCheck | retryLeave | retryDue | disarm | engageStart
  | engageCheck | engageClear | autoStart | autoPass | autoFree | autoStore | autoGeneration
  | loadRequested | loadGeneration | loadConnected | applied | refused | armTakeover
  | dropApplied | cleanupRestore | readyRequested | readyVehicle | readyPending =>
      exact ⟨rfl, rfl⟩

/-- Only the `fetch_add` ends `request_internal_disarm`. -/
theorem disarmStep_continues (flags : SharedFlags) (require : Bool) (point : DisarmPoint) :
    point = .generation ∨ ∃ following, (disarmStep flags require point).2 = some following := by
  cases point with
  | generation => exact Or.inl rfl
  | preserve | gap | button | requested | applied | vehicle | inhibited | rearm | pending =>
      exact Or.inr ⟨_, rfl⟩

inductive ReceiveMove (state : NodeState) (input : StepInput) : NodeState → Prop
  | loop (receive : state.receive = .loop) :
      ReceiveMove state input { state with
        receive := if state.flags.running then .connected else .stopped }
  | connected (receive : state.receive = .connected) :
      ReceiveMove state input { state with
        receive := if state.flags.connected then .poll
          else if input.connectDue then .connect else .loop }
  | connect (receive : state.receive = .connect) (free : state.actuationMutex = none) :
      ReceiveMove state input { state with
        flags := { state.flags with connected := true }
        actuationMutex := some .receive
        receive := .connectVehicle }
  | connectFailed (receive : state.receive = .connect) :
      ReceiveMove state input { state with
        flags := { state.flags with connected := false }, receive := .lost }
  | connectVehicle (receive : state.receive = .connectVehicle) :
      ReceiveMove state input { state with
        flags := { state.flags with vehicleSafetyMode := false }
        actuationMutex := none
        receive := if state.ecus.anyDisabled then .reconnectDisarm .preserve else .poll }
  | reconnectDisarm (point : DisarmPoint) (receive : state.receive = .reconnectDisarm point) :
      ReceiveMove state input { state with
        flags := (disarmStep state.flags true point).1
        receive := match (disarmStep state.flags true point).2 with
          | some next => .reconnectDisarm next
          | none => .poll }
  | poll (receive : state.receive = .poll) :
      ReceiveMove state input { state.afterUsb input.usb.isOk input.stillConnected with
        receive := match input.usb with
          | .ok () => .loop
          | .error _ => .lost }
  | lost (receive : state.receive = .lost) (free : state.actuationMutex = none) :
      ReceiveMove state input { state with
        flags := { state.flags with connected := false }
        actuationMutex := some .receive
        receive := .lostVehicle }
  | lostVehicle (receive : state.receive = .lostVehicle) :
      ReceiveMove state input { state with
        flags := { state.flags with vehicleSafetyMode := false }
        actuationMutex := none
        receive := .lostDisarm .preserve }
  | lostDisarm (point : DisarmPoint) (receive : state.receive = .lostDisarm point) :
      ReceiveMove state input { state with
        flags := (disarmStep state.flags true point).1
        receive := match (disarmStep state.flags true point).2 with
          | some next => .lostDisarm next
          | none => .lostApplied }
  | lostApplied (receive : state.receive = .lostApplied) :
      ReceiveMove state input { state with
        flags := { state.flags with appliedArm := false }, receive := .loop }

theorem receive_move (step : receiveStep state input = some next) :
    ReceiveMove state input next := by
  unfold receiveStep at step
  cases receive : state.receive with
  | loop =>
      simp only [receive] at step
      cases Option.some.inj step
      exact .loop receive
  | connected =>
      simp only [receive] at step
      cases Option.some.inj step
      exact .connected receive
  | connect =>
      simp only [receive] at step
      split at step
      · cases step
      · rename_i free
        split at step
        · cases Option.some.inj step
          exact .connect receive free
        · cases Option.some.inj step
          exact .connectFailed receive
  | connectVehicle =>
      simp only [receive] at step
      cases Option.some.inj step
      exact .connectVehicle receive
  | reconnectDisarm point =>
      simp only [receive] at step
      cases Option.some.inj step
      exact .reconnectDisarm point receive
  | poll =>
      simp only [receive] at step
      cases Option.some.inj step
      exact .poll receive
  | lost =>
      simp only [receive] at step
      split at step
      · cases step
      · rename_i free
        cases Option.some.inj step
        exact .lost receive free
  | lostVehicle =>
      simp only [receive] at step
      cases Option.some.inj step
      exact .lostVehicle receive
  | lostDisarm point =>
      simp only [receive] at step
      cases Option.some.inj step
      exact .lostDisarm point receive
  | lostApplied =>
      simp only [receive] at step
      cases Option.some.inj step
      exact .lostApplied receive
  | stopped => simp only [receive] at step; cases step

theorem receiveStep_threads (step : receiveStep state input = some next) :
    next.main = state.main ∧ next.control = state.control ∧ next.locals = state.locals ∧
      next.ecus = state.ecus := by
  cases receive_move step <;> exact ⟨rfl, rfl, rfl, rfl⟩

/-- Where `enter_no_output_mode` leads the destructor. -/
def RestoreNext.main : RestoreNext → MainPoint
  | .goto point => .destroyRestore point
  | .returned => .stop true
  | .threw _ => .stop false

inductive MainMove (config : NodeConfig) (state : NodeState) (input : StepInput) :
    NodeState → Prop
  | armPending (main : state.main = .armPending) :
      MainMove config state input { state with
        main := if state.flags.recoveryPending then .idle else .arm true .inhibited }
  | arm (data : Bool) (point : ArmPoint) (main : state.main = .arm data point) :
      MainMove config state input { state with
        flags := (armStep state.flags data point).1
        main := match (armStep state.flags data point).2 with
          | some next => .arm data next
          | none => .idle }
  | destroy (point : DestroyPoint) (main : state.main = .destroy point) :
      MainMove config state input { state with
        flags := (destroyStep state.flags point).1
        main := (destroyStep state.flags point).2 }
  | destroyRestore (point : RestorePoint) (main : state.main = .destroyRestore point)
      (after : NodeState) (outcome : RestoreNext)
      (taken : restoreStep config .main state input point = some (after, outcome)) :
      MainMove config state input { after with main := outcome.main }
  | stop (restored : Bool) (main : state.main = .stop restored) :
      MainMove config state input { state with
        flags := { state.flags with running := false }, main := .joinReceive restored }
  | joinReceive (restored : Bool) (main : state.main = .joinReceive restored)
      (stopped : state.receive = .stopped) :
      MainMove config state input { state with main := .joinControl restored }
  | joinControl (restored : Bool) (main : state.main = .joinControl restored)
      (stopped : state.control = .stopped) :
      MainMove config state input { state with main := .disconnect restored }
  | disconnect (restored : Bool) (main : state.main = .disconnect restored) :
      MainMove config state input { state with
        flags := { state.flags with connected := false }, main := .destroyed restored }

theorem main_move (step : mainStep config state input = some next) :
    MainMove config state input next := by
  unfold mainStep at step
  cases main : state.main with
  | idle | destroyed => simp only [main] at step; cases step
  | armPending =>
      simp only [main] at step
      cases Option.some.inj step
      exact .armPending main
  | arm data point =>
      simp only [main] at step
      cases Option.some.inj step
      exact .arm data point main
  | destroy point =>
      simp only [main] at step
      cases Option.some.inj step
      exact .destroy point main
  | destroyRestore point =>
      simp only [main] at step
      split at step
      · cases step
      all_goals
        rename_i taken
        cases Option.some.inj step
        exact .destroyRestore point main _ _ taken
  | stop restored =>
      simp only [main] at step
      cases Option.some.inj step
      exact .stop restored main
  | joinReceive restored =>
      simp only [main] at step
      split at step
      · rename_i stopped
        cases Option.some.inj step
        exact .joinReceive restored main stopped
      · cases step
  | joinControl restored =>
      simp only [main] at step
      split at step
      · rename_i stopped
        cases Option.some.inj step
        exact .joinControl restored main stopped
      · cases step
  | disconnect restored =>
      simp only [main] at step
      cases Option.some.inj step
      exact .disconnect restored main

theorem mainStep_threads (step : mainStep config state input = some next) :
    next.control = state.control ∧ next.locals = state.locals := by
  cases main_move step with
  | destroyRestore point main after outcome taken =>
      exact ⟨(restoreStep_threads taken).control, (restoreStep_threads taken).locals⟩
  | armPending | arm | destroy | stop | joinReceive | joinControl | disconnect => exact ⟨rfl, rfl⟩

theorem callArm_idle {data : Bool} (step : callArm config state data = some next) :
    state.main = .idle := by
  unfold callArm at step
  split at step
  · rename_i main
    exact main
  · cases step

theorem callDestructor_idle (step : callDestructor state = some next) : state.main = .idle := by
  unfold callDestructor at step
  split at step
  · rename_i main
    exact main
  · cases step

end Threads
end Ioniq5Ecan
