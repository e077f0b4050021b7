import Ioniq5Ecan.Node.ExplicitOff
import Ioniq5Ecan.Supervisor.Latch

/-! # Automatic arming after the supervisor disarmed itself

The cleanup at the end of an iteration tells a missing command from the other
causes of a disarm by the state and the command's age alone: a CANCEL that
meets a stale command looks like a missing command and does not inhibit
automatic arming.  Every other disarm inhibits it until a button press is
sampled or `arm_callback(true)` gets past its checks. -/
set_option autoImplicit false
namespace Ioniq5Ecan

open Library (EventSystem)

/-! ## The causes of a disarm -/

inductive DisarmCause
  | fault
  | pandaLoss
  | cancel
  | missingCommand
  deriving DecidableEq

def DisarmCause.Of (decision : SafetyDecision) : DisarmCause → Prop
  | .fault => decision.state = .fault
  | .pandaLoss => decision.state = .disconnected
  | .cancel => decision.state = .passive ∧ decision.reason = "cancel button pressed"
  | .missingCommand =>
      decision.state = .passive ∧
        decision.reason = "waiting for fresh command; restore stock communication"

instance (decision : SafetyDecision) : ∀ cause : DisarmCause, Decidable (cause.Of decision)
  | .fault | .pandaLoss => inferInstanceAs (Decidable (_ = _))
  | .cancel | .missingCommand => inferInstanceAs (Decidable (_ ∧ _))

namespace SafetySupervisor

section Causes
variable {config : SafetyConfig} {now : TimePoint} {vehicle : VehicleStateData}
  {panda : PandaHealth} {command : CommandSample} {observed : Observed}

/-- An answer that keeps the arm request or reports one of the causes. -/
def Accountable (result : SafetySupervisor × SafetyDecision) : Prop :=
  result.1.armRequested = true ∨ ∃ cause : DisarmCause, cause.Of result.2

theorem accountable_fault (self : SafetySupervisor) (reason : String) :
    Accountable ((self.fault reason).answer config now false false false false) :=
  Or.inr ⟨.fault, rfl⟩

theorem activate_accountable {self : SafetySupervisor} (armed : self.armRequested = true) :
    Accountable (self.activate config now vehicle panda observed) := by
  unfold activate
  split
  · exact Or.inl armed
  dsimp only
  split
  · exact Or.inl armed
  · exact Or.inl armed

theorem drive_accountable {self : SafetySupervisor} (armed : self.armRequested = true) :
    Accountable (self.drive config now vehicle panda observed) := by
  unfold drive
  dsimp only
  split
  · exact Or.inl armed
  split
  · exact Or.inl armed
  have entered : (if vehicle.epsFault && self.state != .softDisabling then
      (self.setDeadline (now + softDisableTime)).transition .softDisabling
        "temporary EPS fault; lateral paused" else self).armRequested = true := by
    split
    · exact armed
    · exact armed
  revert entered
  generalize (if vehicle.epsFault && self.state != .softDisabling then
      (self.setDeadline (now + softDisableTime)).transition .softDisabling
        "temporary EPS fault; lateral paused" else self) = paused
  intro entered
  split
  · split
    · exact accountable_fault paused _
    split
    · exact Or.inl entered
    · exact activate_accountable entered
  · exact activate_accountable entered

theorem gateCommand_accountable {self : SafetySupervisor} (armed : self.armRequested = true) :
    Accountable (self.gateCommand config now vehicle panda command observed) := by
  have exit := @gateCommand_cases config now vehicle panda command self observed
  generalize self.gateCommand config now vehicle panda command observed = result at exit
  cases exit with
  | faulted reason explained => exact accountable_fault self reason
  | disarmed stale => exact Or.inr ⟨.missingCommand, rfl, rfl⟩
  | waiting profile stale notSoft => exact Or.inl armed
  | deadman fresh valid released => exact Or.inl armed
  | standby standby => exact Or.inl armed
  | unready notEngaged => exact Or.inl armed
  | driven commandGates => exact drive_accountable armed

theorem gateArm_accountable {self : SafetySupervisor}
    (armed : self.armRequested = true ∨ self.state = .fault) :
    Accountable (self.gateArm config now vehicle panda command observed) := by
  have exit := @gateArm_cases config now vehicle panda command self observed
  generalize self.gateArm config now vehicle panda command observed = result at exit
  cases exit with
  | unarmed unarmed notFault =>
      rcases armed with armed | faulted
      · rw [unarmed] at armed
        cases armed
      · exact absurd faulted notFault
  | latched faulted => exact Or.inr ⟨.fault, by simp [faulted, answer, decision, DisarmCause.Of]⟩
  | faulted reason explained => exact accountable_fault self reason
  | cancelled wasArmed => exact Or.inr ⟨.cancel, rfl, rfl⟩
  | drifted wasArmed notFault notEngaged => exact Or.inl wasArmed
  | passed gates => exact gateCommand_accountable gates.armed

/-- A supervisor that disarms itself does so for one of the four causes. -/
theorem disarm_cause {self : SafetySupervisor} (allowed : config.allowActuation = true)
    (armed : self.armRequested = true)
    (disarmed : (self.update config now vehicle panda command).1.armRequested = false) :
    ∃ cause : DisarmCause, cause.Of (self.update config now vehicle panda command).2 := by
  have accountable : Accountable (self.update config now vehicle panda command) := by
    unfold update
    dsimp only
    split
    · exact Or.inr ⟨.pandaLoss, rfl⟩
    split
    · rename_i refused
      rw [allowed] at refused
      cases refused
    · apply gateArm_accountable
      rcases observe_arm config vehicle panda (self.setWaiting false) with kept | faulted
      · exact Or.inl (kept.armRequested.trans armed)
      · exact Or.inr faulted.state
  rcases accountable with stillArmed | caused
  · rw [disarmed] at stillArmed
    cases stillArmed
  · exact caused

end Causes
end SafetySupervisor

/-! ## The cleanup's disarm -/

/-- `was_armed`, as far as it is still to be read, or the inhibition it would set. -/
def DisarmPoint.armedOrInhibited (flags : SharedFlags) : DisarmPoint → Bool
  | .preserve | .gap | .button | .requested =>
      flags.requestedArm || flags.appliedArm || flags.vehicleSafetyMode || flags.autoArmInhibited
  | .applied => flags.appliedArm || flags.vehicleSafetyMode || flags.autoArmInhibited
  | .vehicle => flags.vehicleSafetyMode || flags.autoArmInhibited
  | _ => true

def DisarmPoint.reading : DisarmPoint → Bool
  | .rearm | .pending | .generation => false
  | _ => true

def NodeState.accounted (state : NodeState) : Bool :=
  match state.control with
  | .disarm .cleanup true point => point.armedOrInhibited state.flags
  | _ => true

/-- While the cleanup's disarm is still to read the flags, no other thread takes the last of them
away. -/
def LeavesArmed (config : NodeConfig) (state : NodeState) : NodeEvent → Prop
  | .control _ => True
  | event => (nodeStep config state event).all NodeState.accounted = true

instance (config : NodeConfig) (state : NodeState) :
    ∀ event, Decidable (LeavesArmed config state event)
  | .control _ => isTrue trivial
  | .callArm _ | .callDestructor | .main _ | .receive _ => inferInstanceAs (Decidable (_ = true))

/-- A button press is sampled, or an `arm_callback(true)` that got past its checks makes its first
store. -/
def Releases (state : NodeState) : NodeEvent → Prop
  | .main _ => state.main = .arm true .inhibited
  | .control input =>
      state.control = .sample ∧ (state.locals.takeSample input.sample).engagePress = true
  | _ => False

instance (state : NodeState) : ∀ event, Decidable (Releases state event)
  | .main _ => inferInstanceAs (Decidable (_ = _))
  | .control _ => inferInstanceAs (Decidable (_ ∧ _))
  | .callArm _ | .callDestructor | .receive _ => isFalse id

/-- Automatic arming is inhibited, and no window that would end in it is open. -/
structure Inhibited (state : NodeState) : Prop where
  flag : state.flags.autoArmInhibited = true
  notEngaging : state.control ≠ .engageOperator
  notEngage : state.control.inEngage = false
  notAuto : state.control.inAuto = false

/-- The cleanup is about to inhibit automatic arming, or it is inhibited. -/
def Inhibiting (state : NodeState) : Prop :=
  Inhibited state ∨ ∃ point, state.control = .disarm .cleanup true point ∧
    point.reading = true ∧ point.armedOrInhibited state.flags = true

section Steps
variable {config : NodeConfig} {state next : NodeState} {input : StepInput}

theorem ite_ne {condition : Prop} [Decidable condition] {first second point : ControlPoint}
    (left : first ≠ point) (right : second ≠ point) :
    (if condition then first else second) ≠ point := by
  split
  · exact left
  · exact right

theorem toAutoArm_ne : toAutoArm config ≠ .engageOperator := ite_ne nofun nofun

theorem toCleanup_ne (locals : LoopLocals) : toCleanup locals ≠ .engageOperator := ite_ne nofun nofun

theorem afterDrop_ne (locals : LoopLocals) : afterDrop locals ≠ .engageOperator :=
  ite_ne nofun (ite_ne nofun nofun)

theorem afterRetry_ne (site : RetrySite) : afterRetry site ≠ .engageOperator := by
  cases site <;> nofun

theorem engageOperator_sampled (step : controlStep config state input = some next)
    (reached : next.control = .engageOperator) :
    state.control = .sample ∧ (state.locals.takeSample input.sample).engagePress = true := by
  have move : ControlMove config state input next := control_move step
  cases move with
  | plain source =>
      unfold controlStep at step
      cases point : state.control with
      | sample =>
          simp only [point] at step
          cases Option.some.inj step
          refine ⟨rfl, ?_⟩
          by_contra noPress
          have skipped := (if_neg (by simp [noPress])).symm.trans reached
          exact toAutoArm_ne skipped
      | loop | disarmPending | disarmVehicle | modeFailureConnected | gapVehicle | cleanupCheck
      | cleanupConnected | loadConnected | autoInhibited | autoPending | autoRequested
      | movingGap =>
          simp only [point] at step
          cases Option.some.inj step
          exact absurd reached (ite_ne nofun nofun)
      | applyConnected =>
          simp only [point] at step
          cases Option.some.inj step
          exact absurd reached (ite_ne nofun (ite_ne nofun nofun))
      | update =>
          simp only [point] at step
          cases Option.some.inj step
          exact absurd reached (ite_ne (ite_ne nofun (afterDrop_ne _)) (toCleanup_ne _))
      | engageOperator | engageRearm =>
          simp only [point] at step
          cases Option.some.inj step
          first
          | exact absurd reached (ite_ne toAutoArm_ne (by decide))
          | exact absurd reached (ite_ne (by decide) toAutoArm_ne)
      | engageRequested =>
          simp only [point] at step
          cases Option.some.inj step
          exact absurd reached (ite_ne toAutoArm_ne nofun)
      | engageInhibited =>
          simp only [point] at step
          cases Option.some.inj step
          exact absurd reached (ite_ne nofun nofun)
      | readyApplied | readyRequested | readyVehicle | readyPending =>
          simp only [point] at step
          cases Option.some.inj step
          exact absurd reached (ite_ne nofun (toCleanup_ne _))
      | engageClearRearm | gapQualified | gapPreserve | movingButton =>
          simp only [point] at step
          cases Option.some.inj step
          cases reached
      | engageTakeover =>
          simp only [point] at step
          cases Option.some.inj step
          exact absurd reached toAutoArm_ne
      | clearGap =>
          simp only [point] at step
          cases Option.some.inj step
          exact absurd reached (ite_ne nofun nofun)
      | standby =>
          simp only [point] at step
          split at step
          · cases step
          · cases usb : input.usb <;> simp only [usb] at step <;> cases step <;> cases reached
      | takeoverHealth | adapter =>
          simp only [point] at step
          cases usb : input.usb <;> simp only [usb] at step <;> cases step <;> cases reached
      | dropPermission =>
          simp only [point] at step
          split at step
          · cases step
          · cases usb : input.usb <;> simp only [usb] at step <;> cases step
            · cases reached
            · exact absurd reached (afterDrop_ne _)
      | transmit =>
          simp only [point] at step
          split at step
          · cases step
          · cases Option.some.inj step
            split at reached
            · cases usb : input.usb <;> simp only [usb] at reached <;> cases reached
            · cases reached
      | heartbeat =>
          simp only [point] at step
          split at step
          · cases step
          · cases step
            cases reached
      | stopped => simp only [point] at step; cases step
      | retry | restore | disarm | takeover | engageClearInhibited | autoStore | autoGeneration
      | loadRequested | loadGeneration | applyArm | modeFailureApplied | armRefusedApplied
      | cleanupApplied => rw [point] at source; cases source
  | retryLeave site => exact absurd reached (afterRetry_ne site)
  | restore site point at' after outcome =>
      cases outcome with
      | goto point => cases reached
      | returned => 
          cases site with
          | retry site => exact absurd reached (afterRetry_ne site)
          | disarmRequest | commandGap | cleanup => cases reached
      | threw what =>
          cases site with
          | retry site => exact absurd reached (afterRetry_ne site)
          | disarmRequest | commandGap | cleanup => cases reached
  | disarmed site => cases site <;> cases reached
  | takeover site resume point at' after outcome =>
      cases outcome <;> cases site <;> cases reached
  | engageCheck after point moved => rcases moved with rfl | rfl | rfl <;> cases reached
  | loadGeneration point after moved => rcases moved with rfl | ⟨rfl, _⟩ | ⟨rfl, _⟩ <;> cases reached
  | applied point supervisor after moved => rcases moved with rfl | rfl | rfl <;> cases reached
  | dropApplied locals after sameLocals moved =>
      rcases moved with ⟨_, rfl⟩ | ⟨_, rfl⟩ | ⟨_, rfl⟩ <;> cases reached
  | retryLock | retryPending | retryCheck | retryDue | disarm | engageStart | engageClear
  | autoStart | autoPass | autoFree | autoStore | autoGeneration | loadRequested | loadConnected
  | refused | armTakeover | cleanupRestore | readyRequested | readyVehicle | readyPending =>
      cases reached

theorem inhibited_control (held : Inhibited state)
    (step : controlStep config state input = some next)
    (quiet : ¬ Releases state (.control input)) : Inhibited next := by
  have move : ControlMove config state input next := control_move step
  have effect := control_arming move
  refine ⟨?_, ?_, ?_, ?_⟩
  · rcases effect.inhibited held.flag with after | point
    · exact after
    · have inside := held.notEngage
      rw [point] at inside
      cases inside
  · exact fun reached => quiet (engageOperator_sampled step reached)
  · by_contra inside
    rcases effect.engage (by simpa using inside) with before | ⟨point, _⟩
    · rw [held.notEngage] at before; cases before
    · exact held.notEngaging point
  · by_contra inside
    rcases effect.auto (by simpa using inside) with before | ⟨_, notInhibited⟩
    · rw [held.notAuto] at before; cases before
    · rw [held.flag] at notInhibited; cases notInhibited

theorem main_inhibited (step : mainStep config state input = some next)
    (quiet : state.main ≠ .arm true .inhibited) :
    (state.flags.autoArmInhibited = true → next.flags.autoArmInhibited = true) ∧
      next.control = state.control := by
  cases arming : state.main.arming with
  | false =>
      obtain ⟨frame, control, _⟩ := main_frame arming step
      exact ⟨frame.inhibited, control⟩
  | true =>
      refine ⟨?_, (mainStep_threads step).1⟩
      cases main_move step with
      | armPending => exact id
      | arm data point main =>
          cases data with
          | false => rw [main] at arming; cases arming
          | true =>
              cases point with
              | inhibited => exact absurd main quiet
              | operator | button | gap | preserve | rearm | requested | generation => exact id
      | destroy point main | destroyRestore point main | stop restored main
      | joinReceive restored main | joinControl restored main | disconnect restored main =>
          rw [main] at arming
          cases arming

theorem inhibited_elsewhere (held : Inhibited state)
    (kept : state.flags.autoArmInhibited = true → next.flags.autoArmInhibited = true)
    (control : next.control = state.control) : Inhibited next :=
  ⟨kept held.flag, control ▸ held.notEngaging, control ▸ held.notEngage, control ▸ held.notAuto⟩

theorem disarmStep_armed (flags : SharedFlags) {point : DisarmPoint} (reading : point.reading = true)
    (armed : point.armedOrInhibited flags = true) :
    ∃ following, (disarmStep flags true point).2 = some following ∧
      (following.reading = true ∧
          following.armedOrInhibited (disarmStep flags true point).1 = true ∨
        (disarmStep flags true point).1.autoArmInhibited = true) := by
  cases point with
  | preserve | gap | button => exact ⟨_, rfl, Or.inl ⟨rfl, armed⟩⟩
  | requested =>
      cases requested : flags.requestedArm with
      | true => exact ⟨.inhibited, by simp [disarmStep, requested, DisarmPoint.wasArmed], Or.inl ⟨rfl, rfl⟩⟩
      | false =>
          refine ⟨.applied, by simp [disarmStep, requested], Or.inl ⟨rfl, ?_⟩⟩
          simpa [DisarmPoint.armedOrInhibited, disarmStep, requested] using armed
  | applied =>
      cases applied : flags.appliedArm with
      | true => exact ⟨.inhibited, by simp [disarmStep, applied, DisarmPoint.wasArmed], Or.inl ⟨rfl, rfl⟩⟩
      | false =>
          refine ⟨.vehicle, by simp [disarmStep, applied], Or.inl ⟨rfl, ?_⟩⟩
          simpa [DisarmPoint.armedOrInhibited, disarmStep, applied] using armed
  | vehicle =>
      cases vehicle : flags.vehicleSafetyMode with
      | true => exact ⟨.inhibited, by simp [disarmStep, vehicle, DisarmPoint.wasArmed], Or.inl ⟨rfl, rfl⟩⟩
      | false =>
          refine ⟨.pending, by simp [disarmStep, vehicle], Or.inr ?_⟩
          simpa [DisarmPoint.armedOrInhibited, disarmStep, vehicle] using armed
  | inhibited => exact ⟨.rearm, rfl, Or.inr rfl⟩
  | rearm | pending | generation => cases reading

theorem reading_control {point : DisarmPoint} (at' : state.control = .disarm .cleanup true point)
    (reading : point.reading = true) (armed : point.armedOrInhibited state.flags = true)
    (step : controlStep config state input = some next) : Inhibiting next := by
  obtain ⟨following, continues, progress⟩ := disarmStep_armed state.flags reading armed
  simp only [controlStep, at', continues] at step
  cases Option.some.inj step
  rcases progress with ⟨stillReading, stillArmed⟩ | inhibited
  · exact Or.inr ⟨following, rfl, stillReading, stillArmed⟩
  · exact Or.inl ⟨inhibited, nofun, rfl, rfl⟩

theorem inhibiting_step {event : NodeEvent} (held : Inhibiting state)
    (step : nodeStep config state event = some next) (quiet : ¬ Releases state event)
    (apart : LeavesArmed config state event) : Inhibiting next := by
  have reading (control : next.control = state.control)
      (accounted : (nodeStep config state event).all NodeState.accounted = true) (point : DisarmPoint)
      (at' : state.control = .disarm .cleanup true point) (unread : point.reading = true) :
      Inhibiting next := by
    rw [step] at accounted
    simp only [Option.all_some, NodeState.accounted, control, at'] at accounted
    exact Or.inr ⟨point, control.trans at', unread, accounted⟩
  cases event with
  | control input =>
      rcases held with inhibited | ⟨point, at', unread, armed⟩
      · exact Or.inl (inhibited_control inhibited step quiet)
      · exact reading_control at' unread armed step
  | main input =>
      obtain ⟨kept, control⟩ := main_inhibited step quiet
      rcases held with inhibited | ⟨point, at', unread, _⟩
      · exact Or.inl (inhibited_elsewhere inhibited kept control)
      · exact reading control apart point at' unread
  | receive input =>
      obtain ⟨_, control, _⟩ := receiveStep_threads step
      rcases held with inhibited | ⟨point, at', unread, _⟩
      · exact Or.inl (inhibited_elsewhere inhibited (receive_frame step).inhibited control)
      · exact reading control apart point at' unread
  | callArm data =>
      have same : next.flags = state.flags ∧ next.control = state.control := by
        simp only [nodeStep, callArm] at step
        split at step
        · split at step <;> cases Option.some.inj step <;> exact ⟨rfl, rfl⟩
        · cases step
      rcases held with inhibited | ⟨point, at', unread, _⟩
      · exact Or.inl (inhibited_elsewhere inhibited (fun flag => same.1 ▸ flag) same.2)
      · exact reading same.2 apart point at' unread
  | callDestructor =>
      have same : next.flags = state.flags ∧ next.control = state.control := by
        simp only [nodeStep, callDestructor] at step
        split at step
        · cases Option.some.inj step
          exact ⟨rfl, rfl⟩
        · cases step
      rcases held with inhibited | ⟨point, at', unread, _⟩
      · exact Or.inl (inhibited_elsewhere inhibited (fun flag => same.1 ▸ flag) same.2)
      · exact reading same.2 apart point at' unread

end Steps

/-! ## Runs -/

section Runs
variable {config : NodeConfig}

/-- The cleanup takes every other cause for what it is, unless a CANCEL meets a stale command. -/
theorem inactiveCommandWait_of_cause {locals : LoopLocals} {cause : DisarmCause}
    (caused : cause.Of locals.decision) (other : cause ≠ .missingCommand)
    (fresh : cause = .cancel → locals.commandFresh config = true) :
    locals.inactiveCommandWait config = false := by
  unfold LoopLocals.inactiveCommandWait
  cases cause with
  | fault => rw [show locals.decision.state = .fault from caused]; rfl
  | pandaLoss => rw [show locals.decision.state = .disconnected from caused]; rfl
  | cancel => simp [fresh rfl]
  | missingCommand => exact absurd rfl other

/-- In every run from a cleanup that finds the request applied: once its internal disarm has
returned, automatic arming is inhibited and makes no request, until a press is sampled or an
`arm_callback(true)` gets past its checks. -/
theorem disarm_inhibits_rearm {state final : NodeState} {cause : DisarmCause}
    (caused : cause.Of state.locals.decision) (other : cause ≠ .missingCommand)
    (fresh : cause = .cancel → state.locals.commandFresh config = true)
    (cleanup : state.control = .cleanupCheck) (found : state.flags.appliedArm = true)
    (input : StepInput) (later : List NodeEvent)
    (apart : (nodeSystem config).Meets (LeavesArmed config) state (.control input :: later))
    (quiet : (nodeSystem config).Meets (fun state event => ¬ Releases state event) state
      (.control input :: later))
    (run : (nodeSystem config).exec state (.control input :: later) = some final) :
    final.control ≠ .autoStore ∧
      ((∀ require point, final.control ≠ .disarm .cleanup require point) →
        final.flags.autoArmInhibited = true) := by
  obtain ⟨next, step, tail⟩ := EventSystem.exec_cons run
  have begun : Inhibiting next := by
    have taken : controlStep config state input = some next := step
    simp only [controlStep, cleanup, found, if_true,
      inactiveCommandWait_of_cause caused other fresh] at taken
    cases Option.some.inj taken
    refine Or.inr ⟨.preserve, rfl, rfl, ?_⟩
    simp [DisarmPoint.armedOrInhibited, NodeState.goto, found]
  have held : Inhibiting final := by
    refine (nodeSystem config).exec_keeps Inhibiting
      (fun state event => ¬ Releases state event ∧ LeavesArmed config state event) ?_ later
      next final begun ?_ tail
    · intro state event after inv side taken
      exact inhibiting_step inv taken side.1 side.2
    · exact (nodeSystem config).meets_and later next (quiet.2 next step) (apart.2 next step)
  rcases held with inhibited | ⟨point, at', _, _⟩
  · refine ⟨fun reached => ?_, fun _ => inhibited.flag⟩
    have outside := inhibited.notAuto
    rw [reached] at outside
    cases outside
  · rw [at']
    exact ⟨nofun, fun left => absurd rfl (left true point)⟩

end Runs

/-! ## A CANCEL in the iteration that finds the command stale -/

/-- A connected node with the takeover made, whose next iteration samples the CANCEL button and a
command of this age. -/
def cancelled (age : Int) : List NodeEvent :=
  let vehicle := { fixtureVehicle with cancelButtonEvents := 1 }
  let command := { fixtureCommand with receivedAt := fixtureNow - age }
  takenOver ++ controlSteps 3 ++
    [.control { fixtureInput with
      sample := { fixtureSample with vehicle := vehicle, command := command } }]

/-- With a fresh command the CANCEL inhibits automatic arming. -/
theorem fresh_cancel_inhibits :
    (NodeState.after actuationNode (cancelled 0 ++ controlSteps 18)).flags.autoArmInhibited =
      true := by
  have run : (nodeSystem actuationNode).exec
      (NodeState.after actuationNode (cancelled 0 ++ controlSteps 6))
      (.control fixtureInput :: controlSteps 11) =
      some (NodeState.after actuationNode (cancelled 0 ++ controlSteps 18)) := by decide +kernel
  refine (@disarm_inhibits_rearm actuationNode _ _ .cancel (by decide +kernel) (by decide)
    (by decide +kernel) (by decide +kernel) (by decide +kernel) fixtureInput (controlSteps 11)
    (by decide +kernel) (by decide +kernel) run).2 ?_
  intro require point
  have left : (NodeState.after actuationNode (cancelled 0 ++ controlSteps 18)).control =
      .restore .cleanup .vehicle := by decide +kernel
  rw [left]
  exact nofun

/-- With a command 200 ms old the next iteration arms again, with no press and no service call. -/
theorem stale_cancel_rearms :
    let system := nodeSystem actuationNode
    let state := NodeState.after actuationNode (cancelled 200000000 ++ controlSteps 5)
    system.exec {} (cancelled 200000000 ++ controlSteps 5) = some state ∧
      state.control = .cleanupCheck ∧ state.flags.appliedArm = true ∧
      DisarmCause.cancel.Of state.locals.decision ∧
      system.Meets (LeavesArmed actuationNode) state (controlSteps 22) ∧
      system.Meets (fun state event => ¬ Releases state event) state (controlSteps 22) ∧
      ∃ final, system.exec state (controlSteps 21) = some final ∧
        final.flags.autoArmInhibited = false ∧ final.control = .autoStore := by
  refine ⟨by decide +kernel, by decide +kernel, by decide +kernel, by decide +kernel,
    by decide +kernel, by decide +kernel,
    NodeState.after actuationNode (cancelled 200000000 ++ controlSteps 26), ?_, ?_, ?_⟩
  · decide +kernel
  · decide +kernel
  · decide +kernel

end Ioniq5Ecan
