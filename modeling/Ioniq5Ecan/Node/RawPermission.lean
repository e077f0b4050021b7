import Ioniq5Ecan.Node.RawGate
import Ioniq5Ecan.Node.MovingTakeover

/-! # What the raw gate permits

A decision goes from `update` to `latest_decision_` without gaining a
permission, and the vehicle mode holds still while the callback has the mutex.
A frame is then sent under the last decision computed, except where the callback
copies a permission that is already superseded. -/
set_option autoImplicit false
namespace Ioniq5Ecan

open Library (EventSystem LockView LockStep)

structure SafetyDecision.Within (decision other : SafetyDecision) : Prop where
  lateral : decision.lateralAllowed = true → other.lateralAllowed = true
  longitudinal : decision.longitudinalAllowed = true → other.longitudinalAllowed = true

theorem SafetyDecision.Within.refl (decision : SafetyDecision) : decision.Within decision :=
  ⟨id, id⟩

section Node
variable {config : NodeConfig} {state next : NodeState} {input : StepInput}

/-- Whoever moves the vehicle mode holds `actuation_mutex_`. -/
theorem control_vehicleMode (move : ControlMove config state input next) :
    next.flags.vehicleSafetyMode = state.flags.vehicleSafetyMode ∨ state.control.locked = true := by
  cases move with
  | plain _ same => exact Or.inl same.vehicle
  | restore site point at' after outcome taken =>
      by_cases lock : point = .lock
      · subst lock
        simp only [restoreStep] at taken
        split at taken <;> cases taken
        exact Or.inl rfl
      · right
        rw [at']
        simpa [ControlPoint.locked] using lock
  | takeover site resume point at' after outcome taken =>
      by_cases lock : point = .lock
      · subst lock
        simp only [takeoverStep] at taken
        split at taken <;> cases taken
        exact Or.inl rfl
      · right
        rw [at']
        simpa [ControlPoint.locked] using lock
  | disarm site require point =>
      left
      cases point <;> rfl
  | disarmed site => cases site <;> exact Or.inl rfl
  | retryLock | retryPending | retryCheck | retryLeave | retryDue | engageStart | engageCheck
  | engageClear | autoStart | autoPass | autoFree | autoStore | autoGeneration | loadRequested
  | loadGeneration | loadConnected | applied | refused | armTakeover | dropApplied
  | cleanupRestore | readyRequested | readyVehicle | readyPending => exact Or.inl rfl

theorem receive_vehicleMode (step : receiveStep state input = some next) :
    next.flags.vehicleSafetyMode = state.flags.vehicleSafetyMode ∨ state.receive.locked = true := by
  cases receive_move step with
  | connectVehicle receive | lostVehicle receive =>
      rw [receive]
      exact Or.inr rfl
  | reconnectDisarm point | lostDisarm point => cases point <;> exact Or.inl rfl
  | loop | connected | connect | connectFailed | poll | lost | lostApplied => exact Or.inl rfl

/-- Between two updates a decision only loses permissions. -/
theorem control_decision (step : controlStep config state input = some next)
    (other : state.control ≠ .update) :
    next.locals.decision.Within state.locals.decision := by
  have same (locals : next.locals.decision = state.locals.decision) :
      next.locals.decision.Within state.locals.decision := locals ▸ .refl _
  unfold controlStep at step
  cases point : state.control with
  | update => exact absurd point other
  | retry site retryPoint =>
      simp only [point] at step
      unfold retryStep at step
      repeat' split at step
      all_goals
        cases step
      all_goals
        exact same rfl
  | restore site restorePoint =>
      simp only [point] at step
      split at step
      · cases step
      all_goals
        rename_i taken
        cases Option.some.inj step
        exact same (congrArg LoopLocals.decision (restoreStep_threads taken).locals)
  | takeover site takeoverPoint =>
      simp only [point] at step
      split at step
      · cases step
      all_goals
        rename_i taken
        cases Option.some.inj step
        exact same (congrArg LoopLocals.decision (takeoverStep_threads taken).locals)
  | disarm site require disarmPoint =>
      simp only [point] at step
      cases Option.some.inj step
      refine same ?_
      split
      · rfl
      · cases site <;> rfl
  | applyArm =>
      simp only [point] at step
      cases Option.some.inj step
      refine same ?_
      unfold applyArmStep
      dsimp only
      split <;> rfl
  | adapter =>
      simp only [point] at step
      split at step <;> cases Option.some.inj step
      · exact same rfl
      · exact ⟨nofun, nofun⟩
  | standby | dropPermission | heartbeat =>
      simp only [point] at step
      split at step
      · cases step
      · cases Option.some.inj step
        exact same rfl
  | transmit =>
      simp only [point] at step
      split at step
      · cases step
      · cases Option.some.inj step
        refine same ?_
        split <;> rfl
  | _ =>
      simp only [point] at step
      first
        | (cases step; done)
        | (cases Option.some.inj step; exact same rfl)

end Node
/-! ## The mutex -/

def gateLock : LockView GateState ThreadId where
  holder state := state.node.actuationMutex
  inside state
    | .main => state.node.main.locked || state.raw.locked
    | .control => state.node.control.locked
    | .receive => state.node.receive.locked

section Gate
variable {config : NodeConfig} {allowRawCanTx : Bool} {state after : GateState} {next : NodeState}
  {input : StepInput}

theorem gate_lockStep {thread : ThreadId} (other : thread ≠ .main)
    (step : LockStep actuationLock thread state.node next) (node : after.node = next)
    (raw : after.raw = state.raw) : LockStep gateLock thread state after := by
  have same {state : GateState} : gateLock.inside state thread =
      actuationLock.inside state.node thread := by
    cases thread with
    | main => exact absurd rfl other
    | control | receive => rfl
  have others (stay : actuationLock.OthersStay thread state.node next) :
      gateLock.OthersStay thread state after := by
    intro second different
    have kept := stay second different
    cases second with
    | main =>
        have main : next.main.locked = state.node.main.locked := kept
        show (after.node.main.locked || after.raw.locked) = _
        rw [node, raw, main]
        rfl
    | control | receive =>
        subst node
        exact kept
  subst node
  cases step with
  | kept holder inside stay => exact .kept holder (by rw [same, same]; exact inside) (others stay)
  | taken free holder stay => exact .taken free holder (others stay)
  | released inside free outside stay =>
      exact .released (same.trans inside) free (same.trans outside) (others stay)

theorem vehicleMode_held (guarded : gateLock.Guarded state) (locked : state.raw.locked = true)
    {thread : ThreadId} (other : thread ≠ .main)
    (moves : next.flags.vehicleSafetyMode = state.node.flags.vehicleSafetyMode ∨
      gateLock.inside state thread = true) :
    next.flags.vehicleSafetyMode = state.node.flags.vehicleSafetyMode := by
  rcases moves with same | inside
  · exact same
  · have main : gateLock.inside state .main = true := by
      show (state.node.main.locked || state.raw.locked) = true
      rw [locked, Bool.or_true]
    exact absurd (guarded.exclusive inside main) other

/-- What the callback has in hand is permitted by the last decision computed. -/
def RawPoint.Covered (computed : SafetyDecision) (vehicleMode : Bool) : RawPoint → Prop
  | .vehicle frame longitudinalAllowed => longitudinalAllowed = true →
      computed.longitudinalAllowed = true ∧
        (frame.address = lfaAddress → computed.lateralAllowed = true)
  | .connected frame longitudinalAllowed => vehicleMode = true ∧ (longitudinalAllowed = true →
      computed.longitudinalAllowed = true ∧
        (frame.address = lfaAddress → computed.lateralAllowed = true))
  | .send frame => vehicleMode = true ∧ computed.longitudinalAllowed = true ∧
      (frame.address = lfaAddress → computed.lateralAllowed = true)
  | _ => True

theorem RawPoint.Covered.moved {raw : RawPoint} {computed newer : SafetyDecision}
    {mode newMode : Bool} (covered : raw.Covered computed mode)
    (held : raw.locked = true → newMode = mode)
    (same : raw.permitted = true → newer = computed) : raw.Covered newer newMode := by
  cases raw with
  | idle | lock | decision => trivial
  | vehicle frame longitudinalAllowed =>
      intro permitted
      rw [same permitted]
      exact covered permitted
  | connected frame longitudinalAllowed =>
      obtain ⟨vehicle, permits⟩ := covered
      refine ⟨(held rfl).trans vehicle, fun permitted => ?_⟩
      rw [same permitted]
      exact permits permitted
  | send frame =>
      obtain ⟨vehicle, permits⟩ := covered
      refine ⟨(held rfl).trans vehicle, ?_⟩
      rw [same rfl]
      exact permits

structure GateSound (state : GateState) : Prop where
  guarded : gateLock.Guarded state
  alone : state.raw ≠ .idle → state.node.main = .idle
  bounded : state.node.locals.decision.Within state.computed
  published : state.unpublished = false → state.latestDecision.Within state.computed
  covered : state.raw.Covered state.computed state.node.flags.vehicleSafetyMode

theorem gateSound_initial : GateSound {} := by
  refine ⟨?_, fun runs => absurd rfl runs, .refl _, fun _ => .refl _, trivial⟩
  intro thread inside
  cases thread <;> cases inside

theorem gateSound_control (sound : GateSound state)
    (current : ReadsCurrent state (.node (.control input)))
    (step : gateControlStep config state input = some after) : GateSound after := by
  unfold gateControlStep at step
  cases publishing : state.publishing with
  | true =>
      simp only [publishing, if_true] at step
      cases Option.some.inj step
      exact ⟨sound.guarded, sound.alone, sound.bounded, fun _ => sound.bounded, sound.covered⟩
  | false =>
      simp only [publishing, Bool.false_eq_true, if_false] at step
      obtain ⟨next, taken, rfl⟩ := Option.map_eq_some_iff.mp step
      have move := control_move taken
      have different : ThreadId.control ≠ .main := nofun
      have guarded := sound.guarded.step
        (@gate_lockStep state { state with node := next } next _ different (control_lockStep move) rfl rfl)
      have held (locked : state.raw.locked = true) :=
        vehicleMode_held sound.guarded locked different (control_vehicleMode move)
      have alone (runs : state.raw ≠ .idle) : next.main = .idle :=
        (control_threads move).1.trans (sound.alone runs)
      by_cases update : state.node.control = .update
      · have none : state.raw.permitted = false := current update publishing
        have computes : (state.node.control == ControlPoint.update) = true := by simp [update]
        simp only [computes, if_true, Bool.true_or]
        exact ⟨guarded, alone, .refl _, nofun, sound.covered.moved held fun permitted =>
          absurd (none.symm.trans permitted) nofun⟩
      · have same : (state.node.control == ControlPoint.update) = false := by simpa using update
        have within := control_decision taken update
        simp only [same, Bool.false_eq_true, if_false, Bool.false_or]
        exact ⟨guarded, alone, ⟨sound.bounded.lateral ∘ within.lateral,
          sound.bounded.longitudinal ∘ within.longitudinal⟩, sound.published,
          sound.covered.moved held fun _ => rfl⟩

theorem gateSound_receive (sound : GateSound state) (step : receiveStep state.node input = some next) :
    GateSound { state with node := next } := by
  have different : ThreadId.receive ≠ .main := nofun
  have guarded := sound.guarded.step
    (@gate_lockStep state { state with node := next } next _ different (receive_lockStep step) rfl rfl)
  have held (locked : state.raw.locked = true) :=
    vehicleMode_held sound.guarded locked different (receive_vehicleMode step)
  have locals : next.locals = state.node.locals := (receiveStep_threads step).2.2.1
  exact ⟨guarded, fun runs => (receiveStep_threads step).1.trans (sound.alone runs),
    by rw [locals]; exact sound.bounded, sound.published, sound.covered.moved held fun _ => rfl⟩

theorem gateSound_main {event : NodeEvent} (sound : GateSound state) (idle : state.raw = .idle)
    (main : ∀ input, event ≠ .control input) (step : nodeStep config state.node event = some next) :
    GateSound { state with node := next } := by
  have same {node : NodeState} : gateLock.Guarded { state with node := node } ↔
      actuationLock.Guarded node := by
    refine forall_congr' fun thread => ?_
    cases thread with
    | main =>
        show ((node.main.locked || state.raw.locked) = true → _) ↔ _
        rw [idle]
        simp [actuationLock, gateLock, RawPoint.locked]
    | control | receive => exact Iff.rfl
  have locals : next.locals = state.node.locals := by
    cases event with
    | callArm data =>
        simp only [nodeStep, callArm, callArm_idle step] at step
        split at step <;> cases Option.some.inj step <;> rfl
    | callDestructor =>
        simp only [nodeStep, callDestructor, callDestructor_idle step] at step
        cases Option.some.inj step
        rfl
    | main input => exact (mainStep_threads step).2
    | control input => exact absurd rfl (main input)
    | receive input => exact (receiveStep_threads step).2.2.1
  refine ⟨same.mpr (guarded_step (same.mp sound.guarded) step), fun runs => absurd idle runs, ?_,
    sound.published, ?_⟩
  · rw [locals]
    exact sound.bounded
  · rw [idle]
    trivial

theorem othersStay_raw (control : after.node.control = state.node.control)
    (receive : after.node.receive = state.node.receive) :
    gateLock.OthersStay .main state after := by
  intro other different
  cases other with
  | main => exact absurd rfl different
  | control => exact congrArg ControlPoint.locked control
  | receive => exact congrArg ReceivePoint.locked receive

/-- While the callback is inside the mutex the main thread is inside no call. -/
theorem GateSound.inside (sound : GateSound state) (locked : state.raw.locked = true) :
    state.node.main = .idle ∧ gateLock.inside state .main = true := by
  constructor
  · refine sound.alone fun idle => ?_
    rw [idle] at locked
    cases locked
  · show (state.node.main.locked || state.raw.locked) = true
    rw [locked, Bool.or_true]

theorem gateSound_returns (sound : GateSound state) (locked : state.raw.locked = true)
    (flags : SharedFlags) (sent dropped : UInt64) :
    GateSound { state with
      node := (state.node.setFlags flags).unlocked, raw := .idle
      rawCanTxCount := sent, rawCanTxDropCount := dropped } := by
  obtain ⟨main, inside⟩ := sound.inside locked
  refine ⟨sound.guarded.step (.released inside rfl ?_ (othersStay_raw rfl rfl)),
    fun runs => absurd rfl runs, sound.bounded, sound.published, trivial⟩
  show (state.node.main.locked || false) = false
  rw [main]
  rfl

theorem gateSound_proceeds (sound : GateSound state) (locked : state.raw.locked = true)
    {point : RawPoint} (covered : point.Covered state.computed state.node.flags.vehicleSafetyMode) :
    GateSound { state with raw := point } := by
  obtain ⟨main, inside⟩ := sound.inside locked
  exact ⟨sound.guarded.step (.kept rfl (fun _ => inside) (othersStay_raw rfl rfl)), fun _ => main,
    sound.bounded, sound.published, covered⟩

theorem gateSound_raw (sound : GateSound state) (current : ReadsCurrent state (.raw input))
    (step : rawStep state input = some after) : GateSound after := by
  unfold rawStep at step
  have covered := sound.covered
  cases point : state.raw with
  | idle => simp only [point] at step; cases step
  | lock frame =>
      simp only [point] at step
      cases free : state.node.actuationMutex with
      | some holder => simp only [free] at step; cases step
      | none =>
          simp only [free] at step
          cases Option.some.inj step
          have main := sound.alone (by rw [point]; nofun)
          exact ⟨sound.guarded.step (.taken free rfl (othersStay_raw rfl rfl)), fun _ => main,
            sound.bounded, sound.published, trivial⟩
  | decision frame =>
      have locked : state.raw.locked = true := by rw [point]; rfl
      simp only [point] at step
      cases Option.some.inj step
      split
      · exact gateSound_returns sound locked state.node.flags _ _
      · rename_i passes
        refine gateSound_proceeds sound locked fun permits => ?_
        have within := sound.published (current (by rw [point]; rfl) permits)
        refine ⟨within.longitudinal permits, fun isLfa => within.lateral ?_⟩
        simpa [isLfa] using passes
  | vehicle frame longitudinalAllowed =>
      have locked : state.raw.locked = true := by rw [point]; rfl
      simp only [point] at step
      cases Option.some.inj step
      rw [point] at covered
      split
      · exact gateSound_returns sound locked state.node.flags _ _
      · rename_i mode
        exact gateSound_proceeds sound locked ⟨by simpa using mode, covered⟩
  | connected frame longitudinalAllowed =>
      have locked : state.raw.locked = true := by rw [point]; rfl
      simp only [point] at step
      cases Option.some.inj step
      rw [point] at covered
      split
      · exact gateSound_returns sound locked state.node.flags _ _
      · rename_i passes
        have permits : longitudinalAllowed = true := by simp at passes; exact passes.2
        exact gateSound_proceeds sound locked ⟨covered.1, covered.2 permits⟩
  | send frame =>
      have locked : state.raw.locked = true := by rw [point]; rfl
      simp only [point] at step
      cases Option.some.inj step
      split <;> exact gateSound_returns sound locked _ _ _

theorem gateSound_step {event : GateEvent} (sound : GateSound state)
    (current : ReadsCurrent state event)
    (step : gateStep config allowRawCanTx state event = some after) : GateSound after := by
  have main {event : NodeEvent} (other : ∀ input, event ≠ .control input)
      (step : (if state.raw = .idle then
        (nodeStep config state.node event).map fun next => { state with node := next }
        else none) = some after) : GateSound after := by
    split at step
    · rename_i idle
      obtain ⟨next, taken, rfl⟩ := Option.map_eq_some_iff.mp step
      exact gateSound_main sound idle other taken
    · cases step
  cases event with
  | node event =>
      cases event with
      | control input => exact gateSound_control sound current step
      | receive input =>
          obtain ⟨next, taken, rfl⟩ := Option.map_eq_some_iff.mp step
          exact gateSound_receive sound taken
      | callArm data => exact main (fun _ same => by cases same) step
      | callDestructor => exact main (fun _ same => by cases same) step
      | main input => exact main (fun _ same => by cases same) step
  | callRaw message =>
      simp only [gateStep, callRaw] at step
      split at step
      · rename_i free
        have same (dropped : UInt64) : GateSound { state with rawCanTxDropCount := dropped } :=
          ⟨sound.guarded, sound.alone, sound.bounded, sound.published, sound.covered⟩
        split at step
        · cases Option.some.inj step
          exact sound
        · split at step
          · cases Option.some.inj step
            exact same _
          · cases Option.some.inj step
            refine ⟨?_, fun _ => free.2, sound.bounded, sound.published, trivial⟩
            refine @Library.LockView.Guarded.step _ _ gateLock state _ .main sound.guarded
              (.kept rfl ?_ (othersStay_raw rfl rfl))
            intro inside
            change (state.node.main.locked || false) = true at inside
            rw [free.2] at inside
            cases inside
      · cases step
  | raw input => exact gateSound_raw sound current step

end Gate

/-! ## Runs -/

section Runs
variable {config : NodeConfig} {allowRawCanTx : Bool} {events : List GateEvent} {state : GateState}
  {frame : BusFrame}

/-- In a run whose callbacks read current decisions, the raw gate follows the last one computed. -/
theorem raw_send_follows_latest
    (run : (gateSystem config allowRawCanTx).exec {} events = some state)
    (current : (gateSystem config allowRawCanTx).Meets ReadsCurrent {} events)
    (sends : state.raw = .send frame) :
    state.node.flags.vehicleSafetyMode = true ∧ state.computed.longitudinalAllowed = true ∧
      (frame.address = lfaAddress → state.computed.lateralAllowed = true) := by
  have sound := (gateSystem config allowRawCanTx).exec_keeps GateSound ReadsCurrent
    (fun _ _ _ sound current step => gateSound_step sound current step) events {} state
    gateSound_initial current run
  have covered := sound.covered
  rw [sends] at covered
  exact covered

end Runs

/-! ## A brake press that is not published yet -/

def longitudinalNode : NodeConfig :=
  { sessionNode with safety := { sessionNode.safety with allowLongitudinal := true } }

def longitudinalSample (panda : PandaHealth) (standstill : Bool) : LoopSample :=
  let sample := sessionSample { panda with longitudinalSelected := true } standstill
  { sample with vehicle := { sample.vehicle with gear := 5 }, sccRecent := true }

def gatedSteps (input : StepInput) (count : Nat) : List GateEvent :=
  (sampledSteps input count).map .node

/-- A takeover at standstill, and an iteration that publishes a decision for both channels. -/
def drivenGate : List GateEvent :=
  (receiveSteps 4).map .node ++
    gatedSteps (sessionInput (longitudinalSample standbyPanda true)) 27 ++
    gatedSteps (sessionInput (longitudinalSample drivingPanda false)) 17

def stockMessage : RawCanFrame where
  address := 0x1A0
  bus := 1
  fd := true
  extended := false
  returned := false
  rejected := false
  data := List.replicate 32 0

/-- A call of the callback, up to its `send`. -/
def rawCall : List GateEvent :=
  .callRaw stockMessage :: List.replicate 4 (.raw (sessionInput {}))

def GateState.after (events : List GateEvent) : GateState :=
  ((gateSystem longitudinalNode true).exec {} events).getD {}

theorem driven_send_follows_latest :
    (GateState.after (drivenGate ++ rawCall)).node.flags.vehicleSafetyMode = true ∧
      (GateState.after (drivenGate ++ rawCall)).computed.longitudinalAllowed = true ∧
      (stockMessage.frame.address = lfaAddress →
        (GateState.after (drivenGate ++ rawCall)).computed.lateralAllowed = true) :=
  @raw_send_follows_latest longitudinalNode true (drivenGate ++ rawCall) _ stockMessage.frame
    (by decide +kernel) (by decide +kernel) (by decide +kernel)

/-- The driver brakes; `update` withdraws longitudinal, the Panda latches it off, and the iteration
gets to the adapter, before the store of its decision. -/
def unpublishedBrake : List GateEvent :=
  let driving := longitudinalSample drivingPanda false
  let braking := sessionInput
    { driving with vehicle := { driving.vehicle with brakePressed := true } }
  drivenGate ++ gatedSteps braking 14

theorem send_before_publication :
    ¬ ∀ (config : NodeConfig) (allowRawCanTx : Bool) (events : List GateEvent) (state : GateState)
      (frame : BusFrame), (gateSystem config allowRawCanTx).exec {} events = some state →
        state.raw = .send frame →
        state.node.flags.vehicleSafetyMode = true ∧ state.computed.longitudinalAllowed = true ∧
          (frame.address = lfaAddress → state.computed.lateralAllowed = true) := by
  intro always
  have permitted := (always longitudinalNode true (unpublishedBrake ++ rawCall)
    (GateState.after (unpublishedBrake ++ rawCall)) stockMessage.frame (by decide +kernel)
    (by decide +kernel)).2.1
  revert permitted
  decide +kernel

end Ioniq5Ecan
