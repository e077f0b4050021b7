import Ioniq5Ecan.Node.ControlMoves

/-! # An explicit OFF

The control loop sets `requested_arm_` and clears `auto_arm_inhibited_` only at
the end of two windows that begin with a check of the flags an OFF sets.  When
no window overlaps the stores of the OFF, the flags stay withdrawn until the
next `arm_callback(true)`; otherwise the store at the end of the window undoes
the OFF. -/
set_option autoImplicit false
namespace Ioniq5Ecan

open Library (EventSystem)

/-- Between the passed check of `operator_disarmed_` and the store it licenses. -/
def ControlPoint.inEngage : ControlPoint → Bool
  | .engageRequested | .engageInhibited | .engageRearm | .engageClearInhibited => true
  | _ => false

/-- Between the passed check of `auto_arm_inhibited_` and the store it licenses. -/
def ControlPoint.inAuto : ControlPoint → Bool
  | .autoPending | .autoRequested | .autoStore => true
  | _ => false

theorem outside_of_entry {point : ControlPoint} (entry : point.entry = true) :
    point.inEngage = false ∧ point.inAuto = false := by
  cases point <;> first | exact ⟨rfl, rfl⟩ | cases entry

/-! ## What a step does to the arm flags -/

/-- The request is at most withdrawn, the inhibition and the operator's OFF at most set. -/
structure ArmFrame (before after : SharedFlags) : Prop where
  requested : after.requestedArm = true → before.requestedArm = true
  inhibited : before.autoArmInhibited = true → after.autoArmInhibited = true
  operator : before.operatorDisarmed = true → after.operatorDisarmed = true

theorem ArmFrame.refl (flags : SharedFlags) : ArmFrame flags flags := ⟨id, id, id⟩

theorem SameArm.armFrame {state next : NodeState} (same : SameArm state next) :
    ArmFrame state.flags next.flags where
  requested := fun requested => same.requested ▸ requested
  inhibited := fun inhibited => same.inhibited.trans inhibited
  operator := fun operator => same.operator.trans operator

structure ArmingEffect (state next : NodeState) : Prop where
  requested : next.flags.requestedArm = true →
    state.flags.requestedArm = true ∨ state.control = .autoStore
  inhibited : state.flags.autoArmInhibited = true →
    next.flags.autoArmInhibited = true ∨ state.control = .engageClearInhibited
  operator : state.flags.operatorDisarmed = true → next.flags.operatorDisarmed = true
  engage : next.control.inEngage = true → state.control.inEngage = true ∨
    state.control = .engageOperator ∧ state.flags.operatorDisarmed = false
  auto : next.control.inAuto = true → state.control.inAuto = true ∨
    state.control = .autoInhibited ∧ state.flags.autoArmInhibited = false

section Frames
variable {config : NodeConfig} {state next : NodeState} {input : StepInput}

theorem disarmStep_frame (flags : SharedFlags) (require : Bool) (point : DisarmPoint) :
    ArmFrame flags (disarmStep flags require point).1 := by
  cases point with
  | requested => exact ⟨nofun, id, id⟩
  | inhibited => exact ⟨id, fun _ => rfl, id⟩
  | preserve | gap | button | applied | vehicle | rearm | pending | generation =>
      exact ⟨id, id, id⟩

theorem restoreStep_frame {thread : ThreadId} {point : RestorePoint}
    {result : NodeState × RestoreNext}
    (step : restoreStep config thread state input point = some result) :
    ArmFrame state.flags result.1.flags := by
  cases point with
  | lock =>
      simp only [restoreStep] at step
      split at step
      · cases Option.some.inj step
        exact .refl _
      · cases step
  | vehicle | pending | work | clear | rearm errors =>
      cases Option.some.inj step
      exact ⟨id, id, id⟩
  | inhibited errors =>
      cases Option.some.inj step
      exact ⟨id, fun _ => rfl, id⟩

theorem takeoverStep_frame {resume : Bool} {point : TakeoverPoint}
    {result : NodeState × TakeoverNext}
    (step : takeoverStep config state input resume point = some result) :
    ArmFrame state.flags result.1.flags := by
  cases takeover_move step with
  | lock | check | leave => exact .refl _
  | worked | failed | storeVehicle | storeButton => exact ⟨id, id, id⟩

theorem ArmingEffect.ofFrame (frame : ArmFrame state.flags next.flags)
    (outside : next.control.inEngage = false ∧ next.control.inAuto = false) :
    ArmingEffect state next where
  requested := fun requested => Or.inl (frame.requested requested)
  inhibited := fun inhibited => Or.inl (frame.inhibited inhibited)
  operator := frame.operator
  engage := fun inside => by rw [outside.1] at inside; cases inside
  auto := fun inside => by rw [outside.2] at inside; cases inside

theorem control_arming (move : ControlMove config state input next) : ArmingEffect state next := by
  cases move with
  | plain _ same _ entry => exact .ofFrame same.armFrame (outside_of_entry entry)
  | retryLock | retryPending | retryCheck | retryDue =>
      exact .ofFrame (.refl _) ⟨rfl, rfl⟩
  | retryLeave site =>
      exact .ofFrame (.refl _) (outside_of_entry (afterRetry_entry site))
  | restore site point at' after outcome taken =>
      refine .ofFrame (restoreStep_frame taken) ?_
      cases outcome with
      | goto point => exact ⟨rfl, rfl⟩
      | returned => exact outside_of_entry (afterRestore_entry site)
      | threw what => exact outside_of_entry (restoreThrew_entry site)
  | disarm site require point following at' continues =>
      exact .ofFrame (disarmStep_frame state.flags require point) ⟨rfl, rfl⟩
  | disarmed site require at' =>
      cases site <;> exact .ofFrame ⟨id, id, id⟩ ⟨rfl, rfl⟩
  | takeover site resume point at' after outcome taken =>
      refine .ofFrame (takeoverStep_frame taken) ?_
      cases outcome with
      | goto point => exact ⟨rfl, rfl⟩
      | returned => exact outside_of_entry (afterTakeover_entry site)
      | threw what => exact outside_of_entry (takeoverThrew_entry site)
  | engageStart point notOff =>
      exact ⟨Or.inl, Or.inl, id, fun _ => Or.inr ⟨point, notOff⟩, nofun⟩
  | engageCheck after point moved =>
      have inside : state.control.inEngage = true := by
        rcases point with point | point | point <;> rw [point] <;> rfl
      refine ⟨Or.inl, Or.inl, id, fun _ => Or.inl inside, ?_⟩
      rcases moved with rfl | rfl | rfl <;> exact nofun
  | engageClear point => exact ⟨Or.inl, fun _ => Or.inr point, id, nofun, nofun⟩
  | autoStart point notInhibited =>
      exact ⟨Or.inl, Or.inl, id, nofun, fun _ => Or.inr ⟨point, notInhibited⟩⟩
  | autoPass point =>
      exact ⟨Or.inl, Or.inl, id, nofun, fun _ => Or.inl (by rw [point]; rfl)⟩
  | autoFree point =>
      exact ⟨Or.inl, Or.inl, id, nofun, fun _ => Or.inl (by rw [point]; rfl)⟩
  | autoStore point => exact ⟨fun _ => Or.inr point, Or.inl, id, nofun, nofun⟩
  | loadGeneration point after moved =>
      refine .ofFrame (.refl _) ?_
      rcases moved with rfl | ⟨rfl, _⟩ | ⟨rfl, _⟩ <;> exact ⟨rfl, rfl⟩
  | applied point supervisor after moved =>
      refine .ofFrame ⟨id, id, id⟩ ?_
      rcases moved with rfl | rfl | rfl <;> exact ⟨rfl, rfl⟩
  | dropApplied locals after sameLocals moved =>
      refine .ofFrame ⟨id, id, id⟩ ?_
      rcases moved with ⟨_, rfl⟩ | ⟨_, rfl⟩ | ⟨_, rfl⟩ <;> exact ⟨rfl, rfl⟩
  | autoGeneration | loadRequested | loadConnected | refused | armTakeover | cleanupRestore
  | readyRequested | readyVehicle | readyPending => exact .ofFrame ⟨id, id, id⟩ ⟨rfl, rfl⟩

theorem receive_frame (step : receiveStep state input = some next) :
    ArmFrame state.flags next.flags := by
  cases receive_move step with
  | reconnectDisarm point | lostDisarm point => exact disarmStep_frame state.flags true point
  | loop | connected | connect | connectFailed | connectVehicle | poll | lost | lostVehicle
  | lostApplied => exact ⟨id, id, id⟩

end Frames

/-! ## The stores of an OFF -/

/-- How far an OFF has come: the service's, or the destructor's. -/
inductive OffStage
  | inhibited
  | operator
  | between
  | requested
  | finished
  deriving DecidableEq

def MainPoint.offStage : MainPoint → Option OffStage
  | .arm false .inhibited | .destroy .inhibited => some .inhibited
  | .arm false .operator | .destroy .operator => some .operator
  | .arm false .requested | .destroy .requested => some .requested
  | .arm false .generation => some .finished
  | .destroy .generation | .destroy .connected => some .finished
  | .arm false _ | .destroy _ => some .between
  | .arm true _ | .armPending | .idle => none
  | _ => some .finished

/-- Withdrawn, with the control loop outside both windows. -/
structure Off (state : NodeState) : Prop where
  requested : state.flags.requestedArm = false
  inhibited : state.flags.autoArmInhibited = true
  operator : state.flags.operatorDisarmed = true
  notEngage : state.control.inEngage = false
  notAuto : state.control.inAuto = false

/-- What the stores made so far have established. -/
def OffProgress (state : NodeState) : OffStage → Prop
  | .inhibited => True
  | .operator => state.flags.autoArmInhibited = true ∧ state.control.inEngage = false
  | .between | .requested =>
      state.flags.autoArmInhibited = true ∧ state.flags.operatorDisarmed = true ∧
        state.control.inEngage = false
  | .finished => Off state

def Withdrawing (state : NodeState) : Prop :=
  match state.main.offStage with
  | some stage => OffProgress state stage
  | none => state.main = .idle ∧ Off state

/-- The control loop stands in a window, or enters one, while the OFF makes the store that the
window's check would have seen. -/
def OverlapsOff (state : NodeState) : NodeEvent → Prop
  | .main _ =>
      state.main.offStage = some .inhibited ∧ state.control.inEngage = true ∨
        state.main.offStage = some .requested ∧ state.control.inAuto = true
  | .control _ =>
      state.main.offStage = some .operator ∧ state.control = .engageOperator ∧
        state.flags.operatorDisarmed = false
  | _ => False

instance (state : NodeState) : ∀ event, Decidable (OverlapsOff state event)
  | .main _ => inferInstanceAs (Decidable (_ ∧ _ ∨ _ ∧ _))
  | .control _ => inferInstanceAs (Decidable (_ ∧ _ ∧ _))
  | .callArm _ | .callDestructor | .receive _ => isFalse id

section Off
variable {config : NodeConfig} {state next : NodeState} {input : StepInput}

theorem Off.kept (off : Off state) (effect : ArmingEffect state next) : Off next where
  requested := by
    by_contra requested
    rcases effect.requested (by simpa using requested) with before | point
    · rw [off.requested] at before; cases before
    · have inside := off.notAuto
      rw [point] at inside
      cases inside
  inhibited := by
    rcases effect.inhibited off.inhibited with after | point
    · exact after
    · have inside := off.notEngage
      rw [point] at inside
      cases inside
  operator := effect.operator off.operator
  notEngage := by
    by_contra inside
    rcases effect.engage (by simpa using inside) with before | ⟨_, notOff⟩
    · rw [off.notEngage] at before; cases before
    · rw [off.operator] at notOff; cases notOff
  notAuto := by
    by_contra inside
    rcases effect.auto (by simpa using inside) with before | ⟨_, notInhibited⟩
    · rw [off.notAuto] at before; cases before
    · rw [off.inhibited] at notInhibited; cases notInhibited

/-- A step elsewhere keeps the progress of an OFF, unless it enters the window between two of
its stores. -/
theorem OffProgress.kept {stage : OffStage} (progress : OffProgress state stage)
    (effect : ArmingEffect state next)
    (inTime : stage = .operator → next.control.inEngage = true → state.control.inEngage = true) :
    OffProgress next stage := by
  have kept : state.flags.autoArmInhibited = true → state.control.inEngage = false →
      next.flags.autoArmInhibited = true := by
    intro inhibited notEngage
    rcases effect.inhibited inhibited with after | point
    · exact after
    · rw [point] at notEngage; cases notEngage
  cases stage with
  | inhibited => trivial
  | operator =>
      obtain ⟨inhibited, notEngage⟩ := progress
      refine ⟨kept inhibited notEngage, ?_⟩
      by_contra inside
      have before := inTime rfl (by simpa using inside)
      rw [notEngage] at before
      cases before
  | between | requested =>
      obtain ⟨inhibited, operator, notEngage⟩ := progress
      refine ⟨kept inhibited notEngage, effect.operator operator, ?_⟩
      by_contra inside
      rcases effect.engage (by simpa using inside) with before | ⟨_, notOff⟩
      · rw [notEngage] at before; cases before
      · rw [operator] at notOff; cases notOff
  | finished => exact Off.kept progress effect

theorem ArmingEffect.ofElsewhere (frame : ArmFrame state.flags next.flags)
    (control : next.control = state.control) : ArmingEffect state next where
  requested := fun requested => Or.inl (frame.requested requested)
  inhibited := fun inhibited => Or.inl (frame.inhibited inhibited)
  operator := frame.operator
  engage := fun inside => Or.inl (control ▸ inside)
  auto := fun inside => Or.inl (control ▸ inside)

theorem Off.elsewhere (off : Off state) (frame : ArmFrame state.flags next.flags)
    (control : next.control = state.control) : Off next :=
  off.kept (.ofElsewhere frame control)

theorem Withdrawing.kept (withdrawing : Withdrawing state) (effect : ArmingEffect state next)
    (main : next.main = state.main)
    (inTime : state.main.offStage = some .operator → next.control.inEngage = true →
      state.control.inEngage = true) : Withdrawing next := by
  unfold Withdrawing at withdrawing ⊢
  rw [main]
  cases stage : state.main.offStage with
  | some reached =>
      simp only [stage] at withdrawing ⊢
      refine OffProgress.kept withdrawing effect fun operator => inTime ?_
      rw [stage, operator]
  | none =>
      simp only [stage] at withdrawing ⊢
      exact ⟨withdrawing.1, withdrawing.2.kept effect⟩

def MainPoint.arming : MainPoint → Bool
  | .armPending | .arm true _ => true
  | _ => false

theorem main_frame (notArming : state.main.arming = false)
    (step : mainStep config state input = some next) :
    ArmFrame state.flags next.flags ∧ next.control = state.control ∧
      next.main.arming = false := by
  cases main_move step with
  | armPending main => rw [main] at notArming; cases notArming
  | arm data point main =>
      cases data with
      | true => rw [main] at notArming; cases notArming
      | false =>
          cases point with
          | inhibited => exact ⟨⟨id, fun _ => rfl, id⟩, rfl, rfl⟩
          | operator => exact ⟨⟨id, id, fun _ => rfl⟩, rfl, rfl⟩
          | requested => exact ⟨⟨nofun, id, id⟩, rfl, rfl⟩
          | button | gap | preserve | rearm | generation => exact ⟨⟨id, id, id⟩, rfl, rfl⟩
  | destroy point =>
      cases point with
      | inhibited => exact ⟨⟨id, fun _ => rfl, id⟩, rfl, rfl⟩
      | operator => exact ⟨⟨id, id, fun _ => rfl⟩, rfl, rfl⟩
      | requested => exact ⟨⟨nofun, id, id⟩, rfl, rfl⟩
      | button | gap | preserve | generation => exact ⟨⟨id, id, id⟩, rfl, rfl⟩
      | connected =>
          refine ⟨.refl _, rfl, ?_⟩
          dsimp only [destroyStep]
          split <;> rfl
  | destroyRestore point main after outcome taken =>
      refine ⟨restoreStep_frame taken, (restoreStep_threads taken).control, ?_⟩
      cases outcome <;> rfl
  | stop | joinReceive | joinControl | disconnect => exact ⟨⟨id, id, id⟩, rfl, rfl⟩

theorem main_withdrawing (withdrawing : Withdrawing state)
    (step : mainStep config state input = some next)
    (inTime : ¬ OverlapsOff state (.main input)) : Withdrawing next := by
  unfold Withdrawing at withdrawing
  simp only [OverlapsOff, not_or, not_and, Bool.not_eq_true] at inTime
  have finished : Off state → state.main.arming = false → Off next := by
    intro off notArming
    obtain ⟨frame, control, _⟩ := main_frame notArming step
    exact off.elsewhere frame control
  cases main_move step with
  | armPending main => rw [main] at withdrawing; cases withdrawing.1
  | arm data point main =>
      rw [main] at withdrawing inTime finished
      cases data with
      | true => cases withdrawing.1
      | false =>
          cases point with
          | inhibited => exact ⟨rfl, inTime.1 rfl⟩
          | operator => exact ⟨withdrawing.1, rfl, withdrawing.2⟩
          | button | gap | preserve | rearm => exact withdrawing
          | requested =>
              exact ⟨rfl, withdrawing.1, withdrawing.2.1, withdrawing.2.2, inTime.2 rfl⟩
          | generation => exact ⟨rfl, finished withdrawing rfl⟩
  | destroy point main =>
      rw [main] at withdrawing inTime finished
      cases point with
      | inhibited => exact ⟨rfl, inTime.1 rfl⟩
      | operator => exact ⟨withdrawing.1, rfl, withdrawing.2⟩
      | button | gap | preserve => exact withdrawing
      | requested =>
          exact ⟨rfl, withdrawing.1, withdrawing.2.1, withdrawing.2.2, inTime.2 rfl⟩
      | generation => exact finished withdrawing rfl
      | connected =>
          have off := finished withdrawing rfl
          revert off
          dsimp only [destroyStep]
          split <;> exact id
  | destroyRestore point main after outcome =>
      rw [main] at withdrawing finished
      have off := finished withdrawing rfl
      cases outcome <;> exact off
  | stop restored main | joinReceive restored main | joinControl restored main
  | disconnect restored main =>
      rw [main] at withdrawing finished
      exact finished withdrawing rfl

end Off

/-! ## Runs -/

def NodeEvent.isCall : NodeEvent → Bool
  | .callArm _ | .callDestructor => true
  | _ => false

section Runs
variable {config : NodeConfig} {state next : NodeState} {event : NodeEvent}

theorem withdrawing_step (withdrawing : Withdrawing state)
    (step : nodeStep config state event = some next) (noCall : event.isCall = false)
    (inTime : ¬ OverlapsOff state event) : Withdrawing next := by
  cases event with
  | callArm | callDestructor => cases noCall
  | main input => exact main_withdrawing withdrawing step inTime
  | control input =>
      have move : ControlMove config state input next := control_move step
      have effect := control_arming move
      refine withdrawing.kept effect (control_threads move).1 fun operator inside => ?_
      rcases effect.engage inside with before | late
      · exact before
      · exact absurd ⟨operator, late⟩ inTime
  | receive input =>
      obtain ⟨main, control, _⟩ := receiveStep_threads step
      exact withdrawing.kept (.ofElsewhere (receive_frame step) control) main fun _ inside => control ▸ inside

/-- The withdrawn state: kept by every event but a call of `arm_callback(true)`. -/
structure StaysOff (state : NodeState) : Prop where
  off : Off state
  notArming : state.main.arming = false

theorem staysOff_step (held : StaysOff state) (step : nodeStep config state event = some next)
    (notArm : event ≠ .callArm true) : StaysOff next := by
  cases event with
  | callArm data =>
      cases data with
      | true => exact absurd rfl notArm
      | false =>
          simp only [nodeStep, callArm] at step
          split at step
          · cases Option.some.inj step
            exact ⟨held.off.elsewhere (.refl _) rfl, rfl⟩
          · cases step
  | callDestructor =>
      simp only [nodeStep, callDestructor] at step
      split at step
      · cases Option.some.inj step
        exact ⟨held.off.elsewhere (.refl _) rfl, rfl⟩
      · cases step
  | main input =>
      obtain ⟨frame, control, notArming⟩ := main_frame held.notArming step
      exact ⟨held.off.elsewhere frame control, notArming⟩
  | control input =>
      have move : ControlMove config state input next := control_move step
      exact ⟨held.off.kept (control_arming move), (control_threads move).1 ▸ held.notArming⟩
  | receive input =>
      obtain ⟨main, control, _⟩ := receiveStep_threads step
      exact ⟨held.off.elsewhere (receive_frame step) control, main ▸ held.notArming⟩

end Runs

section Runs
variable (config : NodeConfig)

/-- An OFF that no window overlaps stays: whatever state it is called in, from the return of
`arm_callback(false)` to the next `arm_callback(true)` the request is withdrawn in every state. -/
theorem explicit_off_held (calling later : List NodeEvent)
    {before called returned final : NodeState}
    (call : (nodeSystem config).step before (.callArm false) = some called)
    (inCall : ∀ event ∈ calling, event.isCall = false)
    (ran : (nodeSystem config).exec called calling = some returned)
    (returns : returned.main = .idle)
    (apart : (nodeSystem config).Meets (fun state event => ¬ OverlapsOff state event) called calling)
    (noArm : ∀ event ∈ later, event ≠ .callArm true)
    (onward : (nodeSystem config).exec returned later = some final) :
    final.flags.requestedArm = false := by
  have begun : Withdrawing called := by
    simp only [nodeSystem, nodeStep, callArm] at call
    split at call
    · cases Option.some.inj call
      trivial
    · cases call
  have withdrawing : Withdrawing returned := by
    refine (nodeSystem config).exec_keeps Withdrawing
      (fun state event => ¬ OverlapsOff state event ∧ event.isCall = false) ?_ calling called
      returned begun ?_ ran
    · intro state event next inv side step
      exact withdrawing_step inv step side.2 side.1
    · exact (nodeSystem config).meets_and calling called apart
        ((nodeSystem config).meets_of_forall calling (fun event member _ => inCall event member) _)
  have held : StaysOff returned := by
    unfold Withdrawing at withdrawing
    rw [returns] at withdrawing
    exact ⟨withdrawing.2, by rw [returns]; rfl⟩
  have kept : StaysOff final := by
    refine (nodeSystem config).exec_keeps StaysOff (fun _ event => event ≠ .callArm true) ?_ later
      returned final held ?_ onward
    · intro state event next inv side step
      exact staysOff_step inv step side
    · exact (nodeSystem config).meets_of_forall later (fun event member _ => noArm event member) _
  exact kept.off.requested

end Runs

/-! ## An OFF during an iteration -/

/-- An OFF before the iteration holds: the automatic arming sees the inhibition. -/
theorem off_before_iteration_held :
    (NodeState.after actuationNode
      (receiveSteps 4 ++ offCall ++ controlSteps 8)).flags.requestedArm = false := by
  have call : (nodeSystem actuationNode).step (NodeState.after actuationNode (receiveSteps 4))
      (.callArm false) =
        some (NodeState.after actuationNode (receiveSteps 4 ++ [.callArm false])) := by
    decide +kernel
  have ran : (nodeSystem actuationNode).exec
      (NodeState.after actuationNode (receiveSteps 4 ++ [.callArm false])) (mainSteps 7) =
        some (NodeState.after actuationNode (receiveSteps 4 ++ offCall)) := by decide +kernel
  have onward : (nodeSystem actuationNode).exec
      (NodeState.after actuationNode (receiveSteps 4 ++ offCall)) (controlSteps 8) =
        some (NodeState.after actuationNode (receiveSteps 4 ++ offCall ++ controlSteps 8)) := by
    decide +kernel
  refine explicit_off_held actuationNode (mainSteps 7) (controlSteps 8) call ?_ ran
    (by decide +kernel) (by decide +kernel) ?_ onward
  · intro event member
    rw [List.eq_of_mem_replicate member]
    rfl
  · intro event member
    rw [List.eq_of_mem_replicate member]
    exact nofun

/-- The same OFF while the control loop stands before its store is overridden by it. -/
theorem automatic_arming_overrides_off :
    let system := nodeSystem actuationNode
    let returned := NodeState.after actuationNode (receiveSteps 4 ++ controlSteps 7 ++ offCall)
    system.exec {} (receiveSteps 4 ++ controlSteps 7 ++ offCall) = some returned ∧
      returned.main = .idle ∧ returned.flags.operatorDisarmed = true ∧
      returned.flags.requestedArm = false ∧
      ∃ final, system.exec returned (controlSteps 1) = some final ∧
        final.flags.requestedArm = true := by
  refine ⟨by decide +kernel, by decide +kernel, by decide +kernel, by decide +kernel,
    NodeState.after actuationNode (receiveSteps 4 ++ controlSteps 7 ++ offCall ++ controlSteps 1),
    ?_, ?_⟩
  · decide +kernel
  · decide +kernel

end Ioniq5Ecan
