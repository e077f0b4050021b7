import Ioniq5Ecan.Scripts.SweepDriving

/-! # The phases of the run

Every round of a phase brings the sensors up to date, checks them, moves the
torque by one step and sends it.  Waiting leaves the torque at zero, and
`wait_for_arm` returns with the permission of the Panda. -/
set_option autoImplicit false
namespace Ioniq5Ecan.Sweep

open Library (Monitor Program)
open Library.Program (ask fetch change raise raiseIf Within Keeping keeping_bind keeping_pure
  keeping_raise keeping_ite keeping_raiseIf keeping_runIf keeping_weaken)

/-! ## A torque and its frames -/

/-- This torque may be sent next. -/
structure Turned (settings : SweepSettings) (torque : Int) (state : SweepState) (view : SweepView) :
    Prop where
  steady : Steady settings state view
  drives : view.Drives settings
  applied : torque = state.sweep.appliedTorque
  limited : ∃ desired, torque = rateLimitTorque desired view.torque

section Turning
variable {settings : SweepSettings} {state : SweepState} {view : SweepView}

theorem within_rateLimit {desired : Int} {post : Int → SweepState → SweepView → Prop}
    {thrown : Failure → SweepState → SweepView → Prop}
    (returns : post (rateLimitTorque desired state.sweep.appliedTorque)
      (state.setSweep { state.sweep with
        appliedTorque := rateLimitTorque desired state.sweep.appliedTorque }) view) :
    Within (sweepMonitor settings) (rateLimit desired) post thrown state view := by
  simp only [rateLimit, members, update, Program.within_bind, Program.within_change,
    Program.within_fetch, Program.within_pure]
  exact returns

theorem Working.turned (working : Working settings state view) (drives : view.Drives settings)
    {desired : Int} (wanted : -270 ≤ desired ∧ desired ≤ 270) :
    Turned settings (rateLimitTorque desired state.sweep.appliedTorque)
      (state.setSweep { state.sweep with
        appliedTorque := rateLimitTorque desired state.sweep.appliedTorque }) view :=
  ⟨working.1.limited wanted, drives, rfl, desired, by rw [working.2]⟩

theorem within_torqueToward {target : Rat} {post : Int → SweepState → SweepView → Prop}
    {thrown : Failure → SweepState → SweepView → Prop} (working : Working settings state view)
    (drives : view.Drives settings)
    (returns : ∀ torque left, Turned settings torque left view → post torque left view) :
    Within (sweepMonitor settings) (torqueToward target) post thrown state view := by
  simp only [torqueToward, members, Program.within_bind, Program.within_fetch,
    Program.within_pure]
  apply within_rateLimit
  apply returns
  apply working.turned drives
  have wanted := @desiredTorque_between 7 260
    ((target - state.sweep.angleDeg.getD 0) * state.sweep.torquePolarity) 260 (by norm_num)
    (by norm_num)
  omega

theorem within_torqueStraight {center : Rat} {post : Int → SweepState → SweepView → Prop}
    {thrown : Failure → SweepState → SweepView → Prop} (working : Working settings state view)
    (drives : view.Drives settings)
    (returns : ∀ torque left, Turned settings torque left view → post torque left view) :
    Within (sweepMonitor settings) (torqueStraight center) post thrown state view := by
  simp only [torqueStraight, members, Program.within_bind, Program.within_fetch,
    Program.within_pure]
  apply within_rateLimit
  apply returns
  apply working.turned drives
  have wanted := @desiredTorque_between 3 100 (center - state.sweep.angleDeg.getD 0) 100
    (by norm_num) (by norm_num)
  omega

theorem within_followAccel {accelRaw : Rat} {post : Rat → SweepState → SweepView → Prop}
    {thrown : Failure → SweepState → SweepView → Prop}
    (returns : post (clip accelRaw (state.sweep.accelLast - 1 / 100)
        (state.sweep.accelLast + 1 / 100))
      (state.setSweep { state.sweep with
        accelLast := clip accelRaw (state.sweep.accelLast - 1 / 100)
          (state.sweep.accelLast + 1 / 100) }) view) :
    Within (sweepMonitor settings) (followAccel accelRaw) post thrown state view := by
  simp only [followAccel, members, update, Program.within_bind, Program.within_change,
    Program.within_fetch, Program.within_pure]
  exact returns

theorem requestedAccel_accelerates (accepted : settings.Accepted) (wheelKph : Rat) :
    settings.Accelerates (requestedAccel settings wheelKph) := by
  unfold requestedAccel
  split
  · exact accepted.standing
  · refine ⟨le_trans ?_ (clip_between accepted.accel).1, (clip_between accepted.accel).2⟩
    linarith [accepted.decel]

/-- The deceleration is positive and at most the one of the arguments. -/
theorem decelRequest_accelerates (accepted : settings.Accepted) (wheelKph : Rat) :
    settings.Accelerates (-decelRequest settings wheelKph) := by
  have positive : 0 ≤ decelRequest settings wheelKph ∧
      decelRequest settings wheelKph ≤ settings.decelMaxMps2 := by
    have decel := accepted.decel
    unfold decelRequest
    split
    · exact ⟨le_min (by norm_num) (by linarith), min_le_right _ _⟩
    · exact ⟨le_min (le_max_of_le_right (by norm_num)) (by linarith), min_le_right _ _⟩
  exact ⟨neg_le_neg positive.2, by linarith [positive.1, accepted.accel]⟩

theorem within_longitudinalRequest {post : Rat × Rat → SweepState → SweepView → Prop}
    {thrown : Failure → SweepState → SweepView → Prop} (accepted : settings.Accepted)
    (returns : ∀ accelRaw, settings.Accelerates accelRaw →
      post (accelRaw, clip accelRaw (state.sweep.accelLast - 1 / 100)
          (state.sweep.accelLast + 1 / 100))
        (state.setSweep { state.sweep with
          accelLast := clip accelRaw (state.sweep.accelLast - 1 / 100)
            (state.sweep.accelLast + 1 / 100) }) view) :
    Within (sweepMonitor settings) (longitudinalRequest settings) post thrown state view := by
  simp only [longitudinalRequest, members, Program.within_bind, Program.within_fetch,
    Program.within_pure]
  exact within_followAccel (returns _ (requestedAccel_accelerates accepted _))

/-- A torque toward some target, with its frames, while the car may be driven. -/
theorem within_driving {control : ControlCall} (turned : Turned settings control.torque state view)
    (speed : control.longitudinalEnabled = true →
      settings.Accelerates control.accelRaw ∧ settings.Accelerates control.accelValue) :
    Within (sweepMonitor settings) (sendControl settings control)
      (fun _ left later => Working settings left later ∧ Permitted left later)
      (fun _ left later => Working settings left later) state view := by
  have sendable : Sendable settings state view control :=
    ⟨turned.applied, turned.limited, .inl turned.drives,
      fun enabled => ⟨turned.drives, speed enabled⟩, fun _ => turned.drives.1⟩
  refine Program.within_mono (within_sendControl turned.steady sendable) ?_ fun _ _ _ kept => kept.1
  exact fun _ _ _ kept => ⟨kept.1, kept.2.2.1.trans turned.drives.1⟩

theorem within_steering {torque : Int} (turned : Turned settings torque state view) :
    Within (sweepMonitor settings) (sendControl settings (steering torque))
      (fun _ left later => Working settings left later ∧ Permitted left later)
      (fun _ left later => Working settings left later) state view :=
  within_driving turned (by rintro ⟨⟩)

theorem within_steeringWith {torque : Int} {accelRaw accelValue : Rat} {stopping : Bool}
    (turned : Turned settings torque state view) (raw : settings.Accelerates accelRaw)
    (value : settings.Accelerates accelValue) :
    Within (sweepMonitor settings)
      (sendControl settings (steeringWith torque (accelRaw, accelValue) stopping))
      (fun _ left later => Working settings left later ∧ Permitted left later)
      (fun _ left later => Working settings left later) state view :=
  within_driving turned fun _ => ⟨raw, value⟩

end Turning

/-! ## Rounds -/

section Rounds
variable {settings : SweepSettings} {pre : SweepState → SweepView → Prop}

theorem keeps_monotonic : Keeps settings pre monotonic (fun _ => pre) :=
  fun _ _ working held =>
    within_monotonic working.1.opened (fun _ => ⟨working, held⟩) fun _ => working.missed

theorem keeps_loopRounds : Keeps settings pre loopRounds (fun _ => pre) :=
  fun _ _ working held =>
    within_loopRounds working.1.opened (fun _ => ⟨working, held⟩) fun _ => working.missed

theorem keeps_members {Value : Type} {next : SweepMembers → SweepProgram Value}
    {post : Value → SweepState → SweepView → Prop}
    (goes : ∀ members, Keeps settings pre (next members) post) :
    Keeps settings pre (members >>= next) post :=
  fun state view working held => goes state.sweep state view working held

theorem keeps_startAngle : Keeps settings pre startAngle (fun _ => pre) := by
  refine keeps_members fun members => ?_
  cases members.angleDeg with
  | none => exact keeping_raise
  | some angle => exact keeping_pure fun _ _ _ held => held

theorem speedLimit_capped {allowRolling requireRolling : Bool}
    (rolling : (allowRolling || requireRolling) = true → settings.rollingTest = true) :
    speedLimit settings allowRolling requireRolling ≤ settings.speedCap := by
  unfold speedLimit SweepSettings.speedCap
  split
  · rename_i allowed
    rw [if_pos (rolling allowed)]
    exact le_max_right _ _
  · split
    · exact le_max_left _ _
    · exact le_rfl

/-- The sensors and the checks before every torque. -/
theorem keeps_checked {Value : Type} {allowRolling requireRolling : Bool}
    {next : SweepProgram Value} {post : Value → SweepState → SweepView → Prop}
    (rolling : (allowRolling || requireRolling) = true → settings.rollingTest = true)
    (goes : Keeps settings (Driving settings) next post) :
    Keeps settings Permitted
      (do updateState; verifyRuntime settings true allowRolling requireRolling; next) post := by
  refine keeping_bind _ keeps_updateState fun _ => ?_
  exact keeping_bind _ (keeps_verifyRuntime (speedLimit_capped rolling)) fun _ => goes

theorem keeps_steeredToward {Value : Type} {target : Rat} {next : SweepProgram Value}
    {post : Value → SweepState → SweepView → Prop} (goes : Keeps settings Permitted next post) :
    Keeps settings (Driving settings)
      (do let torque ← torqueToward target; sendControl settings (steering torque); next) post := by
  intro state view working drives
  rw [Program.within_bind]
  apply within_torqueToward working drives
  intro torque left turned
  rw [Program.within_bind]
  refine Program.within_mono (within_steering turned) ?_ fun _ _ _ kept => kept
  exact fun _ left later kept => goes left later kept.1 kept.2

theorem keeps_moveRounds (label : String) (target start : Rat) (rounds : Nat) :
    ∀ checked stableSince,
      Keeps settings Permitted (moveRounds settings label target start rounds checked stableSince)
        (fun _ => Permitted) := by
  induction rounds with
  | zero => exact fun checked stableSince => keeps_members fun members => keeping_raise
  | succ rounds ih =>
      intro checked stableSince
      refine keeps_checked (by simp) ?_
      refine keeps_members fun members => ?_
      refine keeping_bind _ (keeps_checkPolarity (SweepView.Drives settings) _ _ _) fun checked => ?_
      refine keeps_steeredToward ?_
      apply keeping_ite
      · intro _
        refine keeping_bind _ keeps_monotonic fun now => ?_
        exact keeping_ite (fun _ => keeping_pure fun _ _ _ held => held) fun _ => ih _ _
      · exact fun _ => ih _ _

theorem keeps_moveTo (label : String) (target : Rat) :
    Keeps settings Permitted (moveTo settings label target) (fun _ => Permitted) := by
  refine keeping_bind _ keeps_startAngle fun start => ?_
  exact keeping_bind _ keeps_loopRounds fun rounds => keeps_moveRounds label target start rounds _ _

theorem keeps_drivingRounds (target start : Rat) (rounds : Nat) :
    ∀ checked, Keeps settings Permitted (drivingRounds settings target start rounds checked)
      (fun _ => Permitted) := by
  induction rounds with
  | zero => exact fun checked => keeping_pure fun _ _ _ held => held
  | succ rounds ih =>
      intro checked
      refine keeps_checked (by simp) ?_
      refine keeping_bind _ (keeps_checkPolarity (SweepView.Drives settings) _ _ _) fun checked => ?_
      exact keeps_steeredToward (ih checked)

theorem keeps_driveTowardFor (target : Rat) :
    Keeps settings Permitted (driveTowardFor settings target) (fun _ => Permitted) := by
  refine keeping_bind _ keeps_startAngle fun start => ?_
  exact keeping_bind _ keeps_loopRounds fun rounds => keeps_drivingRounds target start rounds _

/-! ### drive_max_torque_for -/

/-- Either polarity leads to a torque at the bound. -/
theorem within_maxTorque {direction : Int} {state : SweepState} {view : SweepView}
    {post : Int → SweepState → SweepView → Prop} {thrown : Failure → SweepState → SweepView → Prop}
    (isDirection : direction = 1 ∨ direction = -1) (working : Working settings state view)
    (drives : view.Drives settings)
    (returns : ∀ torque left, Turned settings torque left view → post torque left view) :
    Within (sweepMonitor settings)
      (rateLimit (direction * state.sweep.torquePolarity * maxSteerTorque)) post thrown state view := by
  apply within_rateLimit
  apply returns
  apply working.turned drives
  rcases isDirection with isDirection | isDirection <;>
    rcases working.1.polarity with polarity | polarity <;>
      rw [isDirection, polarity] <;> decide

theorem keeps_maxTorqueRounds (label : String) {direction : Int}
    (isDirection : direction = 1 ∨ direction = -1) (start : Rat) (rounds : Nat) :
    ∀ holdStarted,
      Keeps settings Permitted (maxTorqueRounds settings label direction start rounds holdStarted)
        (fun _ => Permitted) := by
  induction rounds with
  | zero => exact fun holdStarted => keeping_raise
  | succ rounds ih =>
      intro holdStarted
      refine keeps_checked (by rintro ⟨⟩) ?_
      refine keeps_members fun before => ?_
      refine keeping_bind _ (keeps_checkPolarity (SweepView.Drives settings) _ _ _) fun checked => ?_
      refine keeping_bind (fun _ => Driving settings) ?_ fun _ => ?_
      · exact fun _ _ working drives =>
          ⟨⟨working.1.moved ⟨rfl, rfl, rfl, rfl⟩ rfl, working.2⟩, drives⟩
      intro state view working drives
      simp only [members, Program.within_bind, Program.within_fetch, Program.within_pure]
      apply within_maxTorque isDirection working drives
      intro torque left turned
      refine Program.within_mono (within_steering turned) ?_ fun _ _ _ kept => kept
      rintro _ left later ⟨kept, permitted⟩
      rw [← Program.within_bind]
      refine keeping_bind _ keeps_monotonic (fun now => ?_) left later kept permitted
      refine keeping_ite (fun _ => ?_) fun _ => ih _
      exact keeping_ite (fun _ => keeping_pure fun _ _ _ held => held) fun _ => ih _

theorem keeps_driveMaxTorqueFor (label : String) {direction : Int}
    (isDirection : direction = 1 ∨ direction = -1) :
    Keeps settings Permitted (driveMaxTorqueFor settings label direction) (fun _ => Permitted) := by
  refine keeping_bind _ keeps_startAngle fun start => ?_
  exact keeping_bind _ keeps_loopRounds fun rounds =>
    keeps_maxTorqueRounds label isDirection start rounds _

end Rounds

/-! ## Speed -/

section Speed
variable {settings : SweepSettings} (accepted : settings.Accepted)
  (rolling : settings.rollingTest = true)
include accepted rolling

theorem keeps_accelerateRounds (center : Rat) (rounds : Nat) :
    ∀ stableSince, Keeps settings Permitted (accelerateRounds settings center rounds stableSince)
      (fun _ => Permitted) := by
  induction rounds with
  | zero => exact fun stableSince => keeps_members fun members => keeping_raise
  | succ rounds ih =>
      intro stableSince
      refine keeps_checked (fun _ => rolling) ?_
      intro state view working drives
      rw [Program.within_bind]
      apply within_longitudinalRequest accepted
      intro accelRaw raw
      rw [Program.within_bind]
      have followed := working.1.followed raw
      apply within_torqueStraight ⟨followed, working.2⟩ drives
      intro torque left turned
      rw [Program.within_bind]
      refine Program.within_mono (within_steeringWith turned raw followed.accel) ?_
        fun _ _ _ kept => kept
      rintro _ left later ⟨kept, permitted⟩
      refine keeps_members (fun members => ?_) left later kept permitted
      apply keeping_ite
      · intro _
        refine keeping_bind _ keeps_monotonic fun now => ?_
        exact keeping_ite (fun _ => keeping_pure fun _ _ _ held => held) fun _ => ih _
      · exact fun _ => ih _

theorem keeps_decelerateRounds (center : Rat) (rounds : Nat) :
    ∀ stoppedSince, Keeps settings Permitted (decelerateRounds settings center rounds stoppedSince)
      (fun _ => Permitted) := by
  induction rounds with
  | zero => exact fun stoppedSince => keeps_members fun members => keeping_raise
  | succ rounds ih =>
      intro stoppedSince
      refine keeps_checked (fun _ => rolling) ?_
      refine keeps_members fun members => ?_
      have raw := decelRequest_accelerates accepted (members.maxWheelKph.getD 0)
      intro state view working drives
      rw [Program.within_bind]
      apply within_followAccel
      rw [Program.within_bind]
      have followed := working.1.followed raw
      apply within_torqueStraight ⟨followed, working.2⟩ drives
      intro torque left turned
      rw [Program.within_bind]
      refine Program.within_mono (within_steeringWith turned raw followed.accel) ?_
        fun _ _ _ kept => kept
      rintro _ left later ⟨kept, permitted⟩
      refine keeping_bind _ keeps_monotonic (fun now => ?_) left later kept permitted
      refine keeping_ite (fun _ => ?_) fun _ => ih _
      exact keeping_ite (fun _ => keeping_pure fun _ _ _ held => held) fun _ => ih _

theorem keeps_combinedRounds (target start : Rat) (rounds : Nat) :
    ∀ checked, Keeps settings Permitted (combinedRounds settings target start rounds checked)
      (fun _ => Permitted) := by
  induction rounds with
  | zero => exact fun checked => keeping_pure fun _ _ _ held => held
  | succ rounds ih =>
      intro checked
      refine keeps_checked (fun _ => rolling) ?_
      refine keeping_bind _ (keeps_checkPolarity (SweepView.Drives settings) _ _ _) fun checked => ?_
      intro state view working drives
      rw [Program.within_bind]
      apply within_torqueToward working drives
      intro torque left turned
      rw [Program.within_bind]
      apply within_longitudinalRequest accepted
      intro accelRaw raw
      rw [Program.within_bind]
      -- only the acceleration has changed since the torque was limited
      have followed := turned.steady.followed raw
      refine Program.within_mono (within_steeringWith
        ⟨followed, turned.drives, turned.applied, turned.limited⟩ raw followed.accel) ?_
        fun _ _ _ kept => kept
      exact fun _ left later kept => ih checked left later kept.1 kept.2

theorem keeps_accelerateStraight (center : Rat) :
    Keeps settings Permitted (accelerateStraight settings center) (fun _ => Permitted) :=
  keeping_bind _ keeps_loopRounds fun rounds =>
    keeps_accelerateRounds accepted rolling center rounds _

theorem keeps_decelerateToStop (center : Rat) :
    Keeps settings Permitted (decelerateToStop settings center) (fun _ => Permitted) :=
  keeping_bind _ keeps_loopRounds fun rounds =>
    keeps_decelerateRounds accepted rolling center rounds _

theorem keeps_combinedSegment (target : Rat) :
    Keeps settings Permitted (combinedSegment settings target) (fun _ => Permitted) := by
  refine keeping_bind _ keeps_startAngle fun start => ?_
  exact keeping_bind _ keeps_loopRounds fun rounds =>
    keeps_combinedRounds accepted rolling target start rounds _

end Speed

/-! ## Waiting and ramping down -/

/-- No torque is applied. -/
def Idle (_ : SweepState) (view : SweepView) : Prop := view.torque = 0

section Waiting
variable {settings : SweepSettings} {state : SweepState} {view : SweepView}

theorem keeps_idleState : Keeps settings Idle updateState (fun _ => Idle) := by
  intro state view working idle
  refine Program.within_mono (within_updateState working) ?_ fun _ _ _ kept => kept.1
  exact fun _ _ _ left => ⟨left.1, left.2.2.2.trans idle⟩

theorem keeps_idleRuntime {allowRolling requireRolling : Bool} :
    Keeps settings Idle (verifyRuntime settings false allowRolling requireRolling)
      (fun _ => Idle) := by
  intro state view working idle
  refine Program.within_mono (within_verifyRuntime working false allowRolling requireRolling) ?_
    fun _ _ _ kept => kept
  exact fun _ _ _ left => ⟨left.1, left.2.1.trans idle⟩

/-- Frames without a torque, after a torque of zero. -/
theorem within_released (working : Working settings state view) (idle : Idle state view) :
    Within (sweepMonitor settings)
      (sendControl settings { torque := 0, active := false, heartbeatEngaged := false })
      (fun _ left later => (Working settings left later ∧ Idle left later) ∧
        later.failures = view.failures)
      (fun _ left later => Working settings left later ∧ view.failures < later.failures)
      state view := by
  have sendable : Sendable settings state view
      { torque := 0, active := false, heartbeatEngaged := false } := by
    have still : (0 : Int) = rateLimitTorque 0 view.torque := by
      rw [show view.torque = 0 from idle]
      decide
    exact ⟨(working.2.symm.trans idle).symm, ⟨0, still⟩, .inr still, by rintro ⟨⟩, by rintro ⟨⟩⟩
  refine Program.within_mono (within_sendControl working.1 sendable) ?_ fun _ _ _ kept => kept
  exact fun _ left later kept => ⟨⟨kept.1, kept.1.2.trans kept.2.1⟩, kept.2.2.2⟩

theorem keeps_released :
    Keeps settings Idle
      (sendControl settings { torque := 0, active := false, heartbeatEngaged := false })
      (fun _ => Idle) := fun _ _ working idle =>
  Program.within_mono (within_released working idle) (fun _ _ _ kept => kept.1)
    fun _ _ _ kept => kept.1

theorem keeps_inactiveTick : Keeps settings Idle (inactiveTick settings) (fun _ => Idle) := by
  refine keeping_bind _ keeps_idleState fun _ => ?_
  intro state view working idle
  rw [Program.within_bind]
  apply within_rateLimit
  have resting : state.sweep.appliedTorque = 0 := working.2.symm.trans idle
  have still : rateLimitTorque 0 state.sweep.appliedTorque = 0 := by
    rw [resting]
    decide
  rw [still]
  apply keeps_released
  · exact ⟨still ▸ working.1.limited (by decide), idle⟩
  · exact idle

theorem keeps_inactiveTicks (rounds : Nat) :
    Keeps settings Idle (inactiveTicks settings rounds) (fun _ => Idle) := by
  induction rounds with
  | zero => exact keeping_pure fun _ _ _ held => held
  | succ rounds ih => exact keeping_bind _ keeps_inactiveTick fun _ => ih

theorem keeps_armed : Keeps settings Permitted armed (fun _ => Permitted) := by
  refine keeping_bind (fun _ => Permitted) ?_ fun _ => ?_
  · intro state view working permitted
    exact within_sendHeartbeat working.1.opened (fun _ => permitted) ⟨working, permitted⟩ fun _ => working.missed
  · refine keeping_bind _ keeps_monotonic fun now => ?_
    exact fun _ _ working permitted =>
      ⟨⟨working.1.moved ⟨rfl, rfl, rfl, rfl⟩ rfl, working.2⟩, permitted⟩

/-- The wait ends with the permission of a health packet. -/
theorem keeps_awaitArm (rolling : Bool) (rounds : Nat) :
    Keeps settings Idle (awaitArm settings rolling rounds) (fun _ => Permitted) := by
  induction rounds with
  | zero => exact keeping_raise
  | succ rounds ih =>
      refine keeping_bind _ keeps_inactiveTick fun _ => ?_
      refine keeping_bind _ keeps_idleRuntime fun _ => ?_
      refine keeping_bind (fun health _ view =>
        view.torque = 0 ∧ view.permitted = health.controlsAllowed) ?_ fun health => ?_
      · exact fun state view working idle => within_readHealth working.1.opened
          (fun health => ⟨working.permit health.controlsAllowed, idle, rfl⟩)
          fun _ => working.missed
      · apply keeping_ite
        · exact fun allowed => keeping_weaken keeps_armed
            (fun _ _ _ start => start.2.trans allowed) fun _ _ _ _ ends => ends
        · exact fun _ => keeping_weaken ih (fun _ _ _ start => start.1) fun _ _ _ _ ends => ends

theorem keeps_waitForArm (rolling : Bool) :
    Keeps settings Idle (waitForArm settings rolling) (fun _ => Permitted) :=
  keeping_bind _ keeps_loopRounds fun rounds => keeps_awaitArm rolling rounds

theorem keeps_awaitRolling (rounds : Nat) :
    Keeps settings Idle (awaitRolling settings rounds) (fun _ => Idle) := by
  induction rounds with
  | zero => exact keeping_raise
  | succ rounds ih =>
      refine keeping_bind _ keeps_idleState fun _ => ?_
      refine keeping_bind _ keeps_released fun _ => ?_
      refine keeping_bind _ keeps_idleRuntime fun _ => ?_
      refine keeps_members fun members => ?_
      exact keeping_ite (fun _ => keeping_pure fun _ _ _ held => held) fun _ => ih

theorem keeps_waitForRolling :
    Keeps settings Idle (waitForRolling settings) (fun _ => Idle) :=
  keeping_bind _ keeps_loopRounds fun rounds => keeps_awaitRolling rounds

/-- Three counts a round bring every torque to zero; only a failed call ends the ramp before. -/
theorem within_rampRounds (rounds : Nat) :
    ∀ {state : SweepState} {view : SweepView}, Working settings state view →
      view.torque.natAbs ≤ 3 * rounds →
      Within (sweepMonitor settings) (rampRounds settings rounds)
        (fun _ left later => (Working settings left later ∧ Idle left later) ∧
          later.failures = view.failures)
        (fun _ left later => Working settings left later ∧ view.failures < later.failures)
        state view := by
  induction rounds with
  | zero =>
      intro state view working near
      exact ⟨⟨working, Int.natAbs_eq_zero.mp (Nat.le_zero.mp near)⟩, rfl⟩
  | succ rounds ih =>
      intro state view working near
      simp only [rampRounds, Program.within_bind]
      refine Program.within_mono (within_updateState working) ?_ fun _ _ _ kept => kept
      rintro _ middle seen ⟨steady, _, failures, torque⟩
      apply within_rateLimit
      have nearer := rateLimitTorque_zero middle.sweep.appliedTorque
      rw [← steady.2] at nearer ⊢
      have sendable : Sendable settings
          (middle.setSweep { middle.sweep with
            appliedTorque := rateLimitTorque 0 seen.torque }) seen
          { torque := rateLimitTorque 0 seen.torque
            active := rateLimitTorque 0 seen.torque != 0, heartbeatEngaged := false } :=
        ⟨rfl, ⟨0, rfl⟩, .inr rfl, by rintro ⟨⟩, by rintro ⟨⟩⟩
      have limited := steady.1.limited (show -270 ≤ (0 : Int) ∧ (0 : Int) ≤ 270 by decide)
      rw [← steady.2] at limited
      refine Program.within_mono (within_sendControl limited sendable) ?_ ?_
      · rintro _ left later ⟨kept, applied, _, same⟩
        have sent : later.torque = rateLimitTorque 0 seen.torque := kept.2.trans applied
        rw [Program.within_ite]
        constructor
        · exact fun zero => ⟨⟨kept, sent.trans zero⟩, same.trans failures⟩
        · intro _
          have bounded : later.torque.natAbs ≤ 3 * rounds := by
            rw [sent, nearer, torque]
            omega
          rw [← failures, ← same]
          exact ih kept bounded
      · rintro _ left later ⟨kept, more⟩
        exact ⟨kept, failures ▸ more⟩

theorem within_zeroRounds (rounds : Nat) :
    ∀ {state : SweepState} {view : SweepView}, Working settings state view → Idle state view →
      Within (sweepMonitor settings) (zeroRounds settings rounds)
        (fun _ left later => (Working settings left later ∧ Idle left later) ∧
          later.failures = view.failures)
        (fun _ left later => Working settings left later ∧ view.failures < later.failures)
        state view := by
  induction rounds with
  | zero => exact fun working idle => ⟨⟨working, idle⟩, rfl⟩
  | succ rounds ih =>
      intro state view working idle
      simp only [zeroRounds, Program.within_bind]
      refine Program.within_mono (within_updateState working) ?_ fun _ _ _ kept => kept
      rintro _ middle seen ⟨steady, _, failures, torque⟩
      rw [← failures]
      refine Program.within_mono (within_released steady (torque.trans idle)) ?_
        fun _ _ _ kept => kept
      rintro _ left later ⟨⟨kept, still⟩, same⟩
      rw [← same]
      exact ih kept still

/-- `ramp_down` sends a torque of zero in the end, unless one of its calls fails. -/
theorem within_rampDown (working : Working settings state view) :
    Within (sweepMonitor settings) (rampDown settings)
      (fun _ left later => (Working settings left later ∧ Idle left later) ∧
        later.failures = view.failures)
      (fun _ left later => Working settings left later ∧ view.failures < later.failures)
      state view := by
  have bound := working.1.bound
  rw [← working.2] at bound
  simp only [rampDown, Program.within_bind]
  refine Program.within_mono (within_rampRounds 100 working (by omega)) ?_ fun _ _ _ kept => kept
  rintro _ left later ⟨⟨kept, idle⟩, same⟩
  rw [← same]
  exact within_zeroRounds 5 kept idle

end Waiting

/-! ## run -/

section Run
variable {settings : SweepSettings} {pre : SweepState → SweepView → Prop}

theorem keeps_forCycles {body : Nat → SweepProgram Unit}
    (keeps : ∀ cycle, Keeps settings pre (body cycle) (fun _ => pre)) (cycles : List Nat) :
    Keeps settings pre (forCycles body cycles) (fun _ => pre) := by
  induction cycles with
  | nil => exact keeping_pure fun _ _ _ held => held
  | cons cycle rest ih => exact keeping_bind _ (keeps cycle) fun _ => ih

theorem keeps_longitudinalRun (accepted : settings.Accepted)
    (rolling : settings.rollingTest = true) (center : Rat) :
    Keeps settings Idle (longitudinalRun settings center) (fun _ => Permitted) := by
  refine keeping_bind (fun _ => Idle) (keeping_raiseIf fun _ _ _ _ idle => idle) fun _ => ?_
  refine keeping_bind _ keeps_waitForRolling fun _ => ?_
  refine keeping_bind _ (keeps_waitForArm true) fun _ => ?_
  apply keeping_ite
  · intro _
    refine keeps_forCycles (fun cycle => ?_) _
    refine keeping_bind _ (keeps_combinedSegment accepted rolling _) fun _ => ?_
    refine keeping_bind _ (keeps_combinedSegment accepted rolling _) fun _ => ?_
    refine keeping_bind _ (keeps_combinedSegment accepted rolling _) fun _ => ?_
    exact keeps_combinedSegment accepted rolling _
  · intro _
    refine keeping_bind _ (keeps_accelerateStraight accepted rolling center) fun _ => ?_
    exact keeps_decelerateToStop accepted rolling center

theorem keeps_sweepCycle (center : Rat) (cycle : Nat) :
    Keeps settings Permitted (sweepCycle settings center cycle) (fun _ => Permitted) := by
  apply keeping_ite
  · intro _
    refine keeping_bind _ (keeps_driveMaxTorqueFor _ (.inl rfl)) fun _ => ?_
    exact keeps_driveMaxTorqueFor _ (.inr rfl)
  · intro _
    refine keeping_bind _ (keeps_driveTowardFor _) fun _ => ?_
    exact keeps_driveTowardFor _

theorem keeps_steeringRun (center : Rat) :
    Keeps settings Idle (steeringRun settings center) (fun _ => Permitted) := by
  refine keeping_bind (fun _ => Idle)
    (keeping_runIf (fun _ => keeps_waitForRolling) fun _ _ _ _ idle => idle) fun _ => ?_
  refine keeping_bind _ (keeps_waitForArm settings.rollingTest) fun _ => ?_
  apply keeping_ite
  · intro _
    refine keeping_bind _ (keeps_forCycles (keeps_sweepCycle center) _) fun _ => ?_
    exact keeping_runIf (fun _ => keeps_moveTo _ _) fun _ _ _ _ held => held
  · intro _
    refine keeping_bind _ (keeps_moveTo _ _) fun _ => ?_
    refine keeping_bind _ (keeps_moveTo _ _) fun _ => ?_
    refine keeping_bind _ (keeps_moveTo _ _) fun _ => ?_
    exact keeps_moveTo _ _

theorem keeps_run (accepted : settings.Accepted) :
    Keeps settings Idle (run settings) (fun _ => Permitted) := by
  refine keeping_bind _ (keeps_inactiveTicks 20) fun _ => ?_
  refine keeping_bind _ keeps_idleRuntime fun _ => ?_
  refine keeps_members fun members => ?_
  refine keeping_bind (fun _ => Idle) (keeping_raiseIf fun _ _ _ _ idle => idle) fun _ => ?_
  refine keeping_bind (fun _ => Idle) (keeping_raiseIf fun _ _ _ _ idle => idle) fun _ => ?_
  apply keeping_ite
  · exact fun longitudinal => keeps_longitudinalRun accepted (accepted.rolling longitudinal) _
  · exact fun _ => keeps_steeringRun _

end Run

end Ioniq5Ecan.Sweep
