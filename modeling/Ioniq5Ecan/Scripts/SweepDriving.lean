import Ioniq5Ecan.Scripts.SweepMonitor

/-! # The sweep while it drives

`update_state`, `verify_runtime` and `send_control` keep the members and the bus
in step, and every phase of `run` is made of them. -/
set_option autoImplicit false
namespace Ioniq5Ecan.Sweep

open Library (Monitor Program)
open Library.Program (ask fetch change raise raiseIf Within Keeping Preserving preserving_bind
  preserving_pure preserving_raise preserving_raiseIf preserving_runIf preserving_ite
  preserving_fetch preserving_change keeping_of_preserving)
open Ecus (requestAddress startsWith)

/-! ## Calls -/

section Calls
variable {settings : SweepSettings} {state : SweepState} {view : SweepView} {Value : Type}

theorem within_call {question : SweepAsk}
    {post : SweepValue question → SweepState → SweepView → Prop}
    {thrown : Failure → SweepState → SweepView → Prop}
    (opened : view.closed = false) (permits : view.Permits settings question)
    (returns : ∀ value, post value state (view.notes question (.ok value)))
    (raises : ∀ what, thrown what state (view.notes question (.error what))) :
    Within (sweepMonitor settings) (call question) post thrown state view := by
  simp only [call, Program.within_bind]
  refine ⟨⟨opened, permits⟩, fun answer => ?_⟩
  cases answer with
  | ok value => exact returns value
  | error what => exact raises what

/-- One more call has failed. -/
def SweepView.missed (view : SweepView) : SweepView :=
  { view with failures := view.failures + 1 }

theorem within_canSend {address : UInt32} {data : List UInt8}
    {post : Unit → SweepState → SweepView → Prop}
    {thrown : Failure → SweepState → SweepView → Prop}
    (opened : view.closed = false) (diagnostic : view.Diagnostic settings address data)
    (returns : post () state (view.wrote address data true))
    (raises : ∀ what, thrown what state (view.wrote address data false).missed) :
    Within (sweepMonitor settings) (canSend address data) post thrown state view :=
  within_call opened diagnostic (fun _ => returns) raises

theorem within_canRecv {post : List RxFrame → SweepState → SweepView → Prop}
    {thrown : Failure → SweepState → SweepView → Prop} (opened : view.closed = false)
    (returns : ∀ frames, post frames state (view.saw frames))
    (raises : ∀ what, thrown what state view.missed) :
    Within (sweepMonitor settings) canRecv post thrown state view :=
  within_call opened trivial returns raises

/-- A call that leaves nothing behind, and what it answers. -/
theorem within_quiet {question : SweepAsk}
    {post : SweepValue question → SweepState → SweepView → Prop}
    {thrown : Failure → SweepState → SweepView → Prop}
    (opened : view.closed = false) (permits : view.Permits settings question)
    (unnoted : ∀ answer, view.notesAnswer question answer = view)
    (returns : ∀ value, post value state view)
    (raises : ∀ what, thrown what state view.missed) :
    Within (sweepMonitor settings) (call question) post thrown state view := by
  apply within_call opened permits
  · intro value
    have same : view.notes question (.ok value) = view :=
      congrArg (SweepView.failed · (.ok value : Except Failure (SweepValue question)))
        (unnoted (.ok value))
    rw [same]
    exact returns value
  · intro what
    have same : view.notes question (.error what) = view.missed :=
      congrArg (SweepView.failed · (.error what : Except Failure (SweepValue question)))
        (unnoted (.error what))
    rw [same]
    exact raises what

end Calls

/-! ## What holds all the time -/

/-- The Panda is open, and an ECU that is silent is one of the sessions and flagged. -/
structure Tied (settings : SweepSettings) (state : SweepState) (view : SweepView) : Prop where
  opened : view.closed = false
  disabled : ∀ ecu, view.silenced ecu = true → (state.session ecu).disabled = true
  used : ∀ ecu, view.silenced ecu = true → ecu ∈ settings.ecuSessions

/-- The sweep is made and the Panda in the mode of the test; the members are what the bus shows, but
for the torque. -/
structure Steady (settings : SweepSettings) (state : SweepState) (view : SweepView) : Prop
    extends Tied settings state view where
  made : state.made = true
  test : view.InTest
  bound : -270 ≤ state.sweep.appliedTorque ∧ state.sweep.appliedTorque ≤ 270
  polarity : state.sweep.torquePolarity = 1 ∨ state.sweep.torquePolarity = -1
  wheel : ∀ wheel, state.sweep.maxWheelKph = some wheel → view.wheel = some wheel
  template : settings.longitudinalTest = true → state.sweep.sccControlTemplate.isSome = true
  accel : settings.Accelerates state.sweep.accelLast
  accepted : settings.Accepted

/-- The torque that was applied last is the one that was sent last. -/
def Working (settings : SweepSettings) (state : SweepState) (view : SweepView) : Prop :=
  Steady settings state view ∧ view.torque = state.sweep.appliedTorque

section Holding
variable {settings : SweepSettings} {state : SweepState} {view : SweepView}

theorem Tied.missed (tied : Tied settings state view) : Tied settings state view.missed :=
  ⟨tied.opened, tied.disabled, tied.used⟩

theorem Steady.missed (steady : Steady settings state view) : Steady settings state view.missed :=
  ⟨steady.toTied.missed, steady.made, steady.test, steady.bound, steady.polarity, steady.wheel,
    steady.template, steady.accel, steady.accepted⟩

theorem Working.missed (working : Working settings state view) :
    Working settings state view.missed :=
  ⟨working.1.missed, working.2⟩

/-! ### Tester presents -/

theorem wrote_testerPresent (ecu : EcuId) (returned : Bool) :
    view.wrote (requestAddress ecu) testerPresent returned = view := by
  obtain ⟨mode, torque, permitted, wheel, replies, silenced, standby, closed, failures⟩ := view
  have silence : testerPresent ≠ silenceRequest := by decide
  have enable : testerPresent ≠ enableRequest := by decide
  simp [SweepView.wrote, silence, enable]

theorem Tied.setSession (tied : Tied settings state view) (ecu : EcuId) (now : Rat) :
    Tied settings (state.setSession ecu { state.session ecu with lastTesterPresent := now }) view := by
  refine ⟨tied.opened, fun other silent => ?_, tied.used⟩
  have flagged := tied.disabled other silent
  cases ecu <;> cases other <;> exact flagged

theorem Steady.setSession (steady : Steady settings state view) (ecu : EcuId) (now : Rat) :
    Steady settings (state.setSession ecu { state.session ecu with lastTesterPresent := now })
      view := by
  refine ⟨steady.toTied.setSession ecu now, ?_, steady.test, ?_, ?_, ?_, ?_, ?_,
    steady.accepted⟩ <;> cases ecu
  all_goals first
    | exact steady.made
    | exact steady.bound
    | exact steady.polarity
    | exact steady.wheel
    | exact steady.template
    | exact steady.accel

end Holding

/-- What the calls of one session may rely on and leave true. -/
structure Stable (holds : SweepState → SweepView → Prop) : Prop where
  opened : ∀ state view, holds state view → view.closed = false
  session : ∀ state view, holds state view → view.InElm327 ∨ view.InTest
  missed : ∀ state view, holds state view → holds state view.missed
  present : ∀ state view ecu now, holds state view →
    holds (state.setSession ecu { state.session ecu with lastTesterPresent := now }) view

section Present
variable {settings : SweepSettings} {state : SweepState} {view : SweepView}
  {holds : SweepState → SweepView → Prop}

theorem within_monotonic {post : Rat → SweepState → SweepView → Prop}
    {thrown : Failure → SweepState → SweepView → Prop} (opened : view.closed = false)
    (returns : ∀ now, post now state view) (raises : ∀ what, thrown what state view.missed) :
    Within (sweepMonitor settings) monotonic post thrown state view :=
  within_quiet opened trivial (fun _ => rfl) returns raises

theorem within_loopRounds {post : Nat → SweepState → SweepView → Prop}
    {thrown : Failure → SweepState → SweepView → Prop} (opened : view.closed = false)
    (returns : ∀ rounds, post rounds state view) (raises : ∀ what, thrown what state view.missed) :
    Within (sweepMonitor settings) loopRounds post thrown state view :=
  within_quiet opened trivial (fun _ => rfl) returns raises

theorem within_sendTesterPresent (stable : Stable holds) (held : holds state view) (ecu : EcuId) :
    Within (sweepMonitor settings) (sendTesterPresent ecu)
      (fun _ left later => holds left later ∧ later = view)
      (fun _ left later => holds left later ∧ view.failures < later.failures) state view := by
  simp only [sendTesterPresent, Program.within_bind]
  apply within_canSend (stable.opened _ _ held) (.testerPresent ecu rfl rfl (stable.session _ _ held))
  · rw [wrote_testerPresent]
    apply within_monotonic (stable.opened _ _ held)
    · exact fun now => ⟨stable.present _ _ ecu now held, rfl⟩
    · exact fun _ => ⟨stable.missed _ _ held, Nat.lt_succ_self _⟩
  · intro _
    rw [wrote_testerPresent]
    exact ⟨stable.missed _ _ held, Nat.lt_succ_self _⟩

theorem within_maybeKeepAlive (stable : Stable holds) (held : holds state view) (ecu : EcuId) :
    Within (sweepMonitor settings) (maybeKeepAlive ecu)
      (fun _ left later => holds left later ∧ later = view)
      (fun _ left later => holds left later ∧ view.failures < later.failures) state view := by
  simp only [maybeKeepAlive, keepAlive, Program.within_bind, Program.within_fetch,
    Program.within_runIf]
  refine ⟨fun _ => ?_, fun _ => ⟨held, trivial⟩⟩
  apply within_monotonic (stable.opened _ _ held)
  · exact fun now => ⟨fun _ => within_sendTesterPresent stable held ecu, fun _ => ⟨held, rfl⟩⟩
  · exact fun _ => ⟨stable.missed _ _ held, Nat.lt_succ_self _⟩

theorem within_keepAllAlive (stable : Stable holds) (ecus : List EcuId) :
    ∀ {state : SweepState}, holds state view →
      Within (sweepMonitor settings) (keepAllAlive ecus)
        (fun _ left later => holds left later ∧ later = view)
        (fun _ left later => holds left later ∧ view.failures < later.failures) state view := by
  induction ecus with
  | nil => intro state held; exact ⟨held, rfl⟩
  | cons ecu rest ih =>
      intro state held
      simp only [keepAllAlive, Program.within_bind]
      refine Program.within_mono (within_maybeKeepAlive stable held ecu) ?_ fun _ _ _ => id
      rintro _ left later ⟨kept, rfl⟩
      exact ih kept

theorem stable_working (torque : Int) : Stable fun state view =>
    Working settings state view ∧ state.sweep.appliedTorque = torque where
  opened _ _ held := held.1.1.opened
  session _ _ held := .inr held.1.1.test
  missed _ _ held := ⟨held.1.missed, held.2⟩
  present _ _ ecu now held := by
    refine ⟨⟨held.1.1.setSession ecu now, ?_⟩, ?_⟩ <;> cases ecu
    all_goals first
      | exact held.1.2
      | exact held.2

end Present

/-! ## update_state -/

/-- The members that no received frame changes. -/
structure SameDrive (before after : SweepMembers) : Prop where
  torque : after.appliedTorque = before.appliedTorque
  polarity : after.torquePolarity = before.torquePolarity
  template : after.sccControlTemplate = before.sccControlTemplate
  accel : after.accelLast = before.accelLast

theorem sameDrive_received (now : Rat) (members : SweepMembers) (frame : RxFrame) :
    SameDrive members (members.received now frame) := by
  unfold SweepMembers.received
  repeat' split
  all_goals exact ⟨rfl, rfl, rfl, rfl⟩

theorem wheel_received (now : Rat) (members : SweepMembers) (frame : RxFrame) :
    (members.received now frame).maxWheelKph =
      SweepView.wheelAfter members.maxWheelKph frame := by
  have sensor : SweepView.wheelFrame frame = true →
      members.received now frame =
        { members with maxWheelKph := some (wheelOf frame.data), wheelTime := now } := by
    intro isWheel
    simp only [SweepView.wheelFrame, Bool.and_eq_true, beq_iff_eq] at isWheel
    obtain ⟨⟨bus, address⟩, size⟩ := isWheel
    simp [SweepMembers.received, bus, address, size]
  unfold SweepView.wheelAfter
  split
  · rename_i isWheel
    rw [sensor isWheel]
  · rename_i notWheel
    simp only [SweepView.wheelFrame] at notWheel
    unfold SweepMembers.received
    repeat' split
    all_goals first
      | rfl
      | simp_all

theorem sameDrive_foldl (now : Rat) (frames : List RxFrame) :
    ∀ members, SameDrive members (frames.foldl (SweepMembers.received now) members) := by
  induction frames with
  | nil => exact fun members => ⟨rfl, rfl, rfl, rfl⟩
  | cons frame rest ih =>
      intro members
      have first := sameDrive_received now members frame
      have later := ih (members.received now frame)
      exact ⟨later.torque.trans first.torque, later.polarity.trans first.polarity,
        later.template.trans first.template, later.accel.trans first.accel⟩

theorem wheel_foldl (now : Rat) (frames : List RxFrame) :
    ∀ (members : SweepMembers) (wheel : Option Rat),
      (∀ speed, members.maxWheelKph = some speed → wheel = some speed) →
      ∀ speed, (frames.foldl (SweepMembers.received now) members).maxWheelKph = some speed →
        frames.foldl SweepView.wheelAfter wheel = some speed := by
  induction frames with
  | nil => exact fun members wheel known => known
  | cons frame rest ih =>
      intro members wheel known
      refine ih (members.received now frame) (SweepView.wheelAfter wheel frame) ?_
      intro speed isSpeed
      rw [wheel_received] at isSpeed
      unfold SweepView.wheelAfter at isSpeed ⊢
      split
      · rename_i isWheel
        rwa [if_pos isWheel] at isSpeed
      · rename_i notWheel
        rw [if_neg notWheel] at isSpeed
        exact known speed isSpeed

section Steps
variable {settings : SweepSettings} {state : SweepState} {view : SweepView} {control : ControlCall}

theorem Steady.received (steady : Steady settings state view) (now : Rat) (frames : List RxFrame) :
    Steady settings (state.setSweep (frames.foldl (SweepMembers.received now) state.sweep))
      (view.saw frames) := by
  have same := sameDrive_foldl now frames state.sweep
  refine ⟨⟨steady.opened, steady.disabled, steady.used⟩, steady.made, steady.test, ?_, ?_,
    wheel_foldl now frames state.sweep view.wheel steady.wheel, ?_, ?_, steady.accepted⟩
  · have bound := steady.bound
    rw [← same.torque] at bound
    exact bound
  · have polarity := steady.polarity
    rw [← same.polarity] at polarity
    exact polarity
  · intro longitudinal
    have template := steady.template longitudinal
    rw [← same.template] at template
    exact template
  · have accel := steady.accel
    rw [← same.accel] at accel
    exact accel

/-- What `update_state` leaves: nothing but the sensors has changed. -/
theorem within_updateState (working : Working settings state view) :
    Within (sweepMonitor settings) updateState
      (fun _ left later => Working settings left later ∧ later.permitted = view.permitted ∧
        later.failures = view.failures ∧ later.torque = view.torque)
      (fun _ left later => Working settings left later ∧ view.failures < later.failures)
      state view := by
  simp only [updateState, update, Program.within_bind, Program.within_change]
  apply within_monotonic working.1.opened
  · intro now
    apply within_canRecv working.1.opened
    · intro frames
      refine ⟨⟨working.1.received now frames, ?_⟩, rfl, rfl, rfl⟩
      exact working.2.trans (sameDrive_foldl now frames state.sweep).torque.symm
    · exact fun _ => ⟨working.missed, Nat.lt_succ_self _⟩
  · exact fun _ => ⟨working.missed, Nat.lt_succ_self _⟩

/-! ## send_control -/

/-- No acceleration is within every bound. -/
theorem SweepSettings.Accepted.standing (accepted : settings.Accepted) : settings.Accelerates 0 :=
  ⟨by linarith [accepted.decel], by linarith [accepted.accel]⟩

/-- What a call may send, in the view before it. -/
structure Sendable (settings : SweepSettings) (state : SweepState) (view : SweepView)
    (control : ControlCall) : Prop where
  applied : control.torque = state.sweep.appliedTorque
  limited : ∃ desired, control.torque = rateLimitTorque desired view.torque
  drives : view.Drives settings ∨ control.torque = rateLimitTorque 0 view.torque
  speed : control.longitudinalEnabled = true → view.Drives settings ∧
    settings.Accelerates control.accelRaw ∧ settings.Accelerates control.accelValue
  engaged : control.heartbeatEngaged = true → view.permitted = true

theorem controlFrames_control {frames : List SweepFrame} (steady : Steady settings state view)
    (sendable : Sendable settings state view control)
    (isFrames : controlFrames settings state.sweep control = some frames) :
    (∀ frame ∈ frames, view.Control settings frame) ∧
      frames.foldl SweepView.torqueAfter view.torque = control.torque := by
  have lfa : view.Control settings (.lfa control.torque control.active
      (steerRequest (countAngle state.sweep control.active) control.active)) := by
    refine ⟨?_, sendable.limited, fun requested => ?_, sendable.drives⟩
    · rw [sendable.applied]
      exact steady.bound
    · exact (Bool.and_eq_true_iff.mp requested).1
  have bounded (enabled : Bool) (value : Rat)
      (within : enabled = true → settings.Accelerates value) :
      settings.Accelerates (if enabled then value else 0) := by
    cases enabled with
    | false => exact steady.accepted.standing
    | true => exact within rfl
  unfold controlFrames at isFrames
  dsimp only at isFrames
  split at isFrames
  · rename_i longitudinal
    obtain ⟨template, _, same⟩ := Option.map_eq_some_iff.mp isFrames
    subst same
    have isTest := (Bool.and_eq_true_iff.mp longitudinal).1
    constructor
    · intro frame member
      simp only [List.cons_append, List.mem_cons, List.mem_append, List.not_mem_nil, or_false]
        at member
      rcases member with rfl | inCluster | rfl | rfl
      · exact lfa
      · split at inCluster
        · rw [List.mem_singleton] at inCluster
          subst inCluster
          trivial
        · cases inCluster
      · exact ⟨isTest, fun enabled => (sendable.speed enabled).1,
          bounded _ _ fun enabled => (sendable.speed enabled).2.1,
          bounded _ _ fun enabled => (sendable.speed enabled).2.2⟩
      · exact isTest
    · split <;> rfl
  · cases isFrames
    constructor
    · intro frame member
      rcases List.mem_cons.mp member with rfl | inCluster
      · exact lfa
      · split at inCluster
        · rw [List.mem_singleton] at inCluster
          subst inCluster
          trivial
        · cases inCluster
    · split <;> rfl

theorem controlFrames_some (steady : Steady settings state view) (control : ControlCall) :
    ∃ frames, controlFrames settings state.sweep control = some frames := by
  unfold controlFrames
  dsimp only
  split
  · rename_i longitudinal
    have needed := steady.template (Bool.and_eq_true_iff.mp longitudinal).1
    obtain ⟨template, isTemplate⟩ := Option.isSome_iff_exists.mp needed
    exact ⟨_, by rw [isTemplate]; rfl⟩
  · exact ⟨_, rfl⟩

theorem Steady.moved (steady : Steady settings state view) {members : SweepMembers}
    (same : SameDrive state.sweep members)
    (wheel : members.maxWheelKph = state.sweep.maxWheelKph) :
    Steady settings (state.setSweep members) view := by
  refine ⟨⟨steady.opened, steady.disabled, steady.used⟩, steady.made, steady.test, ?_, ?_,
    fun speed isSpeed => steady.wheel speed (wheel ▸ isSpeed), ?_, ?_, steady.accepted⟩
  · have bound := steady.bound
    rw [← same.torque] at bound
    exact bound
  · have polarity := steady.polarity
    rw [← same.polarity] at polarity
    exact polarity
  · intro longitudinal
    have template := steady.template longitudinal
    rw [← same.template] at template
    exact template
  · have accel := steady.accel
    rw [← same.accel] at accel
    exact accel

theorem within_canSendMany {frames : List SweepFrame}
    {post : Unit → SweepState → SweepView → Prop}
    {thrown : Failure → SweepState → SweepView → Prop} (opened : view.closed = false)
    (test : view.InTest)
    (controls : ∀ frame ∈ frames, view.Control settings frame)
    (returns : post () state (view.sent frames))
    (raises : ∀ what, thrown what state (view.sent frames).missed) :
    Within (sweepMonitor settings) (canSendMany frames) post thrown state view :=
  within_call opened ⟨test, controls⟩ (fun _ => returns) raises

theorem within_sendHeartbeat {engaged : Bool} {post : Unit → SweepState → SweepView → Prop}
    {thrown : Failure → SweepState → SweepView → Prop} (opened : view.closed = false)
    (permitted : engaged = true → view.permitted = true) (returns : post () state view)
    (raises : ∀ what, thrown what state view.missed) :
    Within (sweepMonitor settings) (sendHeartbeat engaged) post thrown state view :=
  within_quiet opened permitted (fun _ => rfl) (fun _ => returns) raises

/-- The call sends its torque, and leaves the rest of the view as it was. -/
theorem within_sendControl (steady : Steady settings state view)
    (sendable : Sendable settings state view control) :
    Within (sweepMonitor settings) (sendControl settings control)
      (fun _ left later => Working settings left later ∧
        left.sweep.appliedTorque = control.torque ∧ later.permitted = view.permitted ∧
        later.failures = view.failures)
      (fun _ left later => Working settings left later ∧ view.failures < later.failures)
      state view := by
  simp only [sendControl, members, update, Program.within_bind, Program.within_fetch,
    Program.within_pure, Program.within_change]
  obtain ⟨frames, isFrames⟩ := controlFrames_some steady control
  obtain ⟨controls, sent⟩ := controlFrames_control steady sendable isFrames
  rw [isFrames]
  simp only [Program.within_bind, Program.within_change]
  generalize isCounted : (state.setSweep _).setSweep _ = counted
  have steadily : Steady settings counted view := by
    rw [← isCounted]
    exact (steady.moved ⟨rfl, rfl, rfl, rfl⟩ rfl).moved ⟨rfl, rfl, rfl, rfl⟩ rfl
  have torque : control.torque = counted.sweep.appliedTorque := by
    rw [← isCounted]
    exact sendable.applied
  have working : Working settings counted (view.sent frames) :=
    ⟨⟨⟨steadily.opened, steadily.disabled, steadily.used⟩, steadily.made, steadily.test,
      steadily.bound, steadily.polarity, steadily.wheel, steadily.template, steadily.accel,
      steadily.accepted⟩,
      sent.trans torque⟩
  apply within_canSendMany steady.opened steady.test controls
  · apply within_monotonic working.1.opened
    · intro now
      have rest {left : SweepState} (held : Working settings left (view.sent frames) ∧
          left.sweep.appliedTorque = control.torque) :=
        @within_keepAllAlive settings _ _ (stable_working control.torque) settings.ecuSessions left
          held
      have ends {left : SweepState} {later : SweepView}
          (held : (Working settings left later ∧ left.sweep.appliedTorque = control.torque) ∧
            later = view.sent frames) :
          Working settings (left.setSweep { left.sweep with frame := left.sweep.frame + 1 }) later ∧
            left.sweep.appliedTorque = control.torque ∧ later.permitted = view.permitted ∧
              later.failures = view.failures := by
        obtain ⟨⟨kept, applied⟩, rfl⟩ := held
        exact ⟨⟨kept.1.moved ⟨rfl, rfl, rfl, rfl⟩ rfl, kept.2⟩, applied, rfl, rfl⟩
      simp only [Program.within_runIf]
      constructor
      · intro _
        simp only [beat, update, Program.within_bind, Program.within_change]
        apply within_sendHeartbeat working.1.opened (show _ → (view.sent frames).permitted = true from sendable.engaged)
        · exact Program.within_mono (rest ⟨⟨working.1.moved ⟨rfl, rfl, rfl, rfl⟩ rfl, working.2⟩,
            torque.symm⟩) (fun _ _ _ => ends) fun _ _ _ held => ⟨held.1.1, held.2⟩
        · exact fun _ => ⟨working.missed, Nat.lt_succ_self _⟩
      · intro _
        exact Program.within_mono (rest ⟨working, torque.symm⟩) (fun _ _ _ => ends)
          fun _ _ _ held => ⟨held.1.1, held.2⟩
    · exact fun _ => ⟨working.missed, Nat.lt_succ_self _⟩
  · exact fun _ => ⟨working.missed, Nat.lt_succ_self _⟩

end Steps

/-! ## verify_runtime -/

abbrev Keeps {Value : Type} (settings : SweepSettings) (pre : SweepState → SweepView → Prop)
    (program : SweepProgram Value) (post : Value → SweepState → SweepView → Prop) : Prop :=
  Keeping (sweepMonitor settings) (Working settings) pre program post

/-- The last health packet allows controls. -/
def Permitted (_ : SweepState) (view : SweepView) : Prop := view.permitted = true

/-- And the car is slow enough. -/
def Driving (settings : SweepSettings) (_ : SweepState) (view : SweepView) : Prop :=
  view.Drives settings

section Verify
variable {settings : SweepSettings} {state : SweepState} {view : SweepView}

theorem within_readHealth {post : SweepHealth → SweepState → SweepView → Prop}
    {thrown : Failure → SweepState → SweepView → Prop} (opened : view.closed = false)
    (returns : ∀ health, post health state { view with permitted := health.controlsAllowed })
    (raises : ∀ what, thrown what state view.missed) :
    Within (sweepMonitor settings) readHealth post thrown state view :=
  within_call opened trivial returns raises

theorem Working.permit (working : Working settings state view) (permitted : Bool) :
    Working settings state { view with permitted := permitted } :=
  ⟨⟨⟨working.1.opened, working.1.disabled, working.1.used⟩, working.1.made, working.1.test,
    working.1.bound, working.1.polarity, working.1.wheel, working.1.template, working.1.accel,
    working.1.accepted⟩,
    working.2⟩

/-- With controls required, a permission is only kept while every health packet gives it. -/
theorem within_pollHealth (working : Working settings state view) (requireControls : Bool)
    (now : Rat) :
    Within (sweepMonitor settings) (pollHealth requireControls now)
      (fun _ left later => Working settings left later ∧ later.torque = view.torque ∧
        later.wheel = view.wheel ∧ (requireControls = true → later.permitted = true))
      (fun _ left later => Working settings left later) state view := by
  simp only [pollHealth, members, update, Program.within_bind, Program.within_fetch,
    Program.within_pure, Program.within_change]
  apply within_readHealth working.1.opened
  · intro health
    have permits := working.permit health.controlsAllowed
    simp only [checkHealth, Program.within_bind, Program.within_raiseIf]
    refine ⟨fun _ => permits, fun _ => ⟨fun _ => permits, fun _ => ⟨fun _ => permits, fun _ =>
      ⟨fun _ => permits, fun allowed => ⟨fun _ => permits, fun _ => ?_⟩⟩⟩⟩⟩
    refine ⟨⟨permits.1.moved ⟨rfl, rfl, rfl, rfl⟩ rfl, permits.2⟩, trivial, trivial,
      fun required => ?_⟩
    rw [required] at allowed
    simpa using allowed
  · exact fun _ => working.missed

theorem within_verifyRuntime (working : Working settings state view)
    (requireControls allowRolling requireRolling : Bool) :
    Within (sweepMonitor settings)
      (verifyRuntime settings requireControls allowRolling requireRolling)
      (fun _ left later => Working settings left later ∧ later.torque = view.torque ∧
        (∃ wheel, later.wheel = some wheel ∧
          wheel ≤ speedLimit settings allowRolling requireRolling) ∧
        (requireControls = true → view.permitted = true → later.permitted = true))
      (fun _ left later => Working settings left later) state view := by
  simp only [verifyRuntime, members, checkSensors, Program.within_bind, Program.within_fetch,
    Program.within_pure, Program.within_raiseIf, Program.within_runIf]
  apply within_monotonic working.1.opened
  · intro now
    refine ⟨fun _ => working, fun _ => ⟨fun _ => working, fun hasWheel => ⟨fun _ => working,
      fun _ => ⟨fun _ => working, fun slow => ?_⟩⟩⟩⟩
    have known : ∃ wheel, view.wheel = some wheel ∧
        wheel ≤ speedLimit settings allowRolling requireRolling := by
      cases isWheel : state.sweep.maxWheelKph with
      | none => simp [isWheel] at hasWheel
      | some wheel =>
          refine ⟨wheel, working.1.wheel wheel isWheel, ?_⟩
          simpa [isWheel] using slow
    constructor
    · intro _
      refine Program.within_mono (within_pollHealth working requireControls now) ?_
        fun _ _ _ kept => kept
      rintro _ left later ⟨kept, torque, wheel, permitted⟩
      refine ⟨kept, torque, ?_, fun required _ => permitted required⟩
      rw [wheel]
      exact known
    · exact fun _ => ⟨working, rfl, known, fun _ permitted => permitted⟩
  · exact fun _ => working.missed

theorem keeps_updateState : Keeps settings Permitted updateState (fun _ => Permitted) := by
  intro state view working permitted
  refine Program.within_mono (within_updateState working) ?_ fun _ _ _ kept => kept.1
  exact fun _ _ _ left => ⟨left.1, left.2.1.trans permitted⟩

theorem keeps_verifyRuntime {allowRolling requireRolling : Bool}
    (capped : speedLimit settings allowRolling requireRolling ≤ settings.speedCap) :
    Keeps settings Permitted (verifyRuntime settings true allowRolling requireRolling)
      (fun _ => Driving settings) := by
  intro state view working permitted
  refine Program.within_mono (within_verifyRuntime working true allowRolling requireRolling) ?_
    fun _ _ _ kept => kept
  rintro _ left later ⟨kept, _, ⟨wheel, isWheel, slow⟩, permits⟩
  exact ⟨kept, permits rfl permitted, wheel, isWheel, slow.trans capped⟩

end Verify

/-! ## A step of the wheel -/

section Drive
variable {settings : SweepSettings} {state : SweepState} {view : SweepView} {Value : Type}

theorem Steady.limited (steady : Steady settings state view) {desired : Int}
    (wanted : -270 ≤ desired ∧ desired ≤ 270) :
    Steady settings (state.setSweep { state.sweep with
      appliedTorque := rateLimitTorque desired state.sweep.appliedTorque }) view :=
  ⟨⟨steady.opened, steady.disabled, steady.used⟩, steady.made, steady.test,
    rateLimitTorque_bound wanted steady.bound, steady.polarity, steady.wheel, steady.template,
    steady.accel, steady.accepted⟩

theorem clip_accel {accelRaw last : Rat} (raw : settings.Accelerates accelRaw)
    (bound : settings.Accelerates last) :
    settings.Accelerates (clip accelRaw (last - 1 / 100) (last + 1 / 100)) :=
  ⟨le_min (le_max_of_le_left raw.1) (by linarith [bound.1]),
    (min_le_left _ _).trans (max_le raw.2 (by linarith [bound.2]))⟩

theorem Steady.followed (steady : Steady settings state view) {accelRaw : Rat}
    (raw : settings.Accelerates accelRaw) :
    Steady settings (state.setSweep { state.sweep with
      accelLast := clip accelRaw (state.sweep.accelLast - 1 / 100)
        (state.sweep.accelLast + 1 / 100) }) view :=
  ⟨⟨steady.opened, steady.disabled, steady.used⟩, steady.made, steady.test, steady.bound,
    steady.polarity, steady.wheel, steady.template, clip_accel raw steady.accel, steady.accepted⟩

theorem Working.flipped (working : Working settings state view) :
    Working settings (state.setSweep
      { state.sweep with torquePolarity := -state.sweep.torquePolarity }) view := by
  refine ⟨⟨⟨working.1.opened, working.1.disabled, working.1.used⟩, working.1.made, working.1.test,
    working.1.bound, ?_, working.1.wheel, working.1.template, working.1.accel,
    working.1.accepted⟩, working.2⟩
  rcases working.1.polarity with same | same
  · exact .inr (congrArg (- ·) same)
  · exact .inl (congrArg (- ·) same)

theorem keeps_checkPolarity (pre : SweepView → Prop) (checked : Bool) (start direction : Rat) :
    Keeps settings (fun _ view => pre view) (checkPolarity checked start direction)
      (fun _ _ view => pre view) := by
  apply keeping_of_preserving
  refine preserving_bind (preserving_fetch fun _ => preserving_pure _) fun members => ?_
  apply preserving_ite
  · intro _
    refine preserving_bind (preserving_runIf fun _ => ?_) fun _ => preserving_pure true
    exact preserving_change fun _ _ held => ⟨held.1.flipped, held.2⟩
  · intro _
    exact preserving_pure checked

end Drive

end Ioniq5Ecan.Sweep
