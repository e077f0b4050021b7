import Ioniq5Ecan.Node.VehicleMode

/-! # What may be written on the bus

`wireMonitor` follows the safety mode and the ECUs that were silenced, and says
which frames may be written.  Most of what the holders of the actuation mutex do
is calm: it changes neither the mode, nor the flags, nor who is silent. -/
set_option autoImplicit false
namespace Ioniq5Ecan.Ecus

open Library (Dialogue Exchange Monitor Program)
open Library.Program (ask fetch change raise raiseIf Within Keeping)

/-! ## What the exchanges show -/

/-- The safety mode that was set last, if it is known; whether the vehicle mode was set since the
last ELM327 mode, connection or loss; the ECUs that the node's diagnostics silenced and did not ask
to talk again; and the frames observed. -/
structure WireView where
  mode : Option (UInt16 × UInt16) := none
  vehicle : Bool := false
  silent : EcuId → Bool := fun _ => false
  received : List BusFrame := []

section Wire
variable (settings : FrameSettings)

def enableFrame (ecanBus : UInt8) (ecu : EcuId) : BusFrame :=
  udsFrame ecanBus (requestAddress ecu) [0x28, 0x00, 0x01]

def defaultSessionFrame (ecanBus : UInt8) (ecu : EcuId) : BusFrame :=
  udsFrame ecanBus (requestAddress ecu) [0x10, 0x01]

namespace WireView

def saw (view : WireView) (frames : List BusFrame) : WireView :=
  { view with received := view.received ++ frames }

/-- A request to talk counts from its first attempt, one to be silent once it is delivered. -/
def wrote (view : WireView) (ecanBus : UInt8) (frame : BusFrame) (outcome : WriteOutcome) :
    WireView :=
  { view with
    silent := fun ecu =>
      if frame = silenceFrame ecanBus ecu then
        view.silent ecu || decide (outcome = .delivered)
      else view.silent ecu &&
        !(frame == enableFrame ecanBus ecu || frame == defaultSessionFrame ecanBus ecu) }

def changedMode (view : WireView) (mode param : UInt16) (outcome : UsbOutcome) : WireView :=
  { view with
    mode := if outcome.isOk then some (mode, param) else none
    vehicle :=
      if mode = kSafetyElm327 then false
      else if mode = kSafetyHyundaiCanFd ∧ outcome.isOk = true then true
      else view.vehicle }

def reconnected (view : WireView) : WireView := { view with mode := none, vehicle := false }

def notes (view : WireView) (ecanBus : UInt8) : (question : EcuAsk) → EcuAnswer question → WireView
  | .meanwhile, (frames : List BusFrame) => view.saw frames
  | .send frame, (outcome : WriteOutcome) => view.wrote ecanBus frame outcome
  | .setSafetyMode mode param, (outcome : UsbOutcome) => view.changedMode mode param outcome
  | .connect, (outcome : UsbOutcome) =>
      if outcome.isOk then view.reconnected else { view with mode := none }
  | .disconnect, _ => view.reconnected
  | _, _ => view

def InElm327 (view : WireView) : Prop := ∃ param, view.mode = some (kSafetyElm327, param)

def Known (view : WireView) (ecanBus : UInt8) (stock : BusFrame) : Prop :=
  stock ∈ view.received ∧ stockFrame ecanBus .radar stock = true

/-- The ECUs that the configuration takes over are silent. -/
structure Quieted (view : WireView) : Prop where
  camera : view.silent .camera = true
  radar : settings.safety.allowLongitudinal = true → view.silent .radar = true

/-- Tester presents go out in both modes. -/
inductive Diagnostic (view : WireView) (ecanBus : UInt8) (frame : BusFrame) : Prop
  | request (ecu : EcuId) (payload : List UInt8)
      (isRequest : frame = udsFrame ecanBus (requestAddress ecu) payload)
      (mode : view.InElm327) : Diagnostic view ecanBus frame
  | testerPresent (ecu : EcuId)
      (isRequest : frame = udsFrame ecanBus (requestAddress ecu) [0x3E, 0x80])
      (mode : view.InElm327 ∨ view.vehicle = true) : Diagnostic view ecanBus frame

/-- The frame is the stock frame but for the bits of the node's own signals and the checksum. -/
def Overlays (frame stock : BusFrame) : Prop :=
  ∀ bit, 16 ≤ bit → bit < 256 → bit ∉ sccOwnedBits → bitAt frame.data bit = bitAt stock.data bit

/-- The frames of a control iteration and the probe of the firmware. -/
inductive Control (view : WireView) (frame : BusFrame) : Prop
  | lateral (address : frame.address = lfaAddress ∨ frame.address = lfaClusterAddress)
      (mode : view.vehicle = true) (quiet : view.Quieted settings) : Control view frame
  | fcaWarning (address : frame.address = fcaWarningAddress)
      (longitudinal : settings.safety.allowLongitudinal = true)
      (mode : view.vehicle = true) (quiet : view.Quieted settings) : Control view frame
  | scc (address : frame.address = sccControlAddress)
      (longitudinal : settings.safety.allowLongitudinal = true)
      (mode : view.vehicle = true) (quiet : view.Quieted settings)
      (stock : BusFrame) (known : view.Known settings.ecanBus stock)
      (overlays : Overlays frame stock) : Control view frame

def allows (view : WireView) : EcuAsk → Prop
  | .send frame => view.Diagnostic settings.ecanBus frame ∨ view.Control settings frame
  | .sendFrames frames => ∀ frame ∈ frames, view.Control settings frame
  | .sendRaw _ => view.vehicle = true ∧ view.Quieted settings
  | .setSafetyMode mode _ => mode = kSafetyHyundaiCanFd → view.Quieted settings
  | _ => True

end WireView

def wireMonitor : Monitor EcuAsk EcuAnswer WireView where
  allows := WireView.allows settings
  notes view question answer := view.notes settings.ecanBus question answer

end Wire

/-! ## What no call for one ECU changes -/

/-- The members and the mode are as they were, and a template is one of the frames observed. -/
structure Onward (ecanBus : UInt8) (node : EcuNode) (view : WireView) (left : EcuNode)
    (later : WireView) : Prop where
  idle : left.frames.uds.waiting = false
  members : left.mode = node.mode
  mode : later.mode = view.mode
  vehicle : later.vehicle = view.vehicle
  received : ∀ frame ∈ view.received, frame ∈ later.received
  stock : ∀ frame, left.frames.latestStockScc = some frame →
    node.frames.latestStockScc = some frame ∨ later.Known ecanBus frame

/-- Nor are the flags and the silent ECUs changed. -/
structure Calm (ecanBus : UInt8) (node : EcuNode) (view : WireView) (left : EcuNode)
    (later : WireView) : Prop extends Onward ecanBus node view left later where
  disabled : ∀ ecu, (left.flags ecu).disabled = (node.flags ecu).disabled
  silent : later.silent = view.silent

section Relations
variable {ecanBus : UInt8} {node left last : EcuNode} {view later final : WireView} {ecu : EcuId}

theorem Onward.refl (idle : node.frames.uds.waiting = false) :
    Onward ecanBus node view node view :=
  ⟨idle, rfl, rfl, rfl, fun _ member => member, fun _ isStock => .inl isStock⟩

theorem Onward.known {frame : BusFrame} (onward : Onward ecanBus node view left later)
    (known : view.Known ecanBus frame) : later.Known ecanBus frame :=
  ⟨onward.received frame known.1, known.2⟩

theorem Onward.trans (first : Onward ecanBus node view left later)
    (second : Onward ecanBus left later last final) : Onward ecanBus node view last final where
  idle := second.idle
  members := second.members.trans first.members
  mode := second.mode.trans first.mode
  vehicle := second.vehicle.trans first.vehicle
  received frame member := second.received frame (first.received frame member)
  stock frame isStock := by
    rcases second.stock frame isStock with isLeft | known
    · exact (first.stock frame isLeft).imp_right second.known
    · exact .inr known

theorem Calm.refl (idle : node.frames.uds.waiting = false) : Calm ecanBus node view node view :=
  ⟨.refl idle, fun _ => rfl, rfl⟩

theorem Calm.trans (first : Calm ecanBus node view left later)
    (second : Calm ecanBus left later last final) : Calm ecanBus node view last final :=
  ⟨first.toOnward.trans second.toOnward,
    fun ecu => (second.disabled ecu).trans (first.disabled ecu),
    second.silent.trans first.silent⟩

theorem stock_of_last {frames : List BusFrame} {frame : BusFrame}
    (template : ((frames.filter (stockFrame ecanBus .radar)).getLast?).or
      node.frames.latestStockScc = some frame) :
    node.frames.latestStockScc = some frame ∨
      (frame ∈ frames ∧ stockFrame ecanBus .radar frame = true) := by
  cases isLast : (frames.filter (stockFrame ecanBus .radar)).getLast? with
  | none =>
      rw [isLast] at template
      exact .inl template
  | some other =>
      rw [isLast] at template
      have same := Option.some.inj template
      subst same
      exact .inr (List.mem_filter.mp (List.mem_of_getLast? isLast))

theorem calm_observed (idle : node.frames.uds.waiting = false) (frames : List BusFrame) :
    Calm ecanBus node view (node.observed ecanBus frames) (view.saw frames) := by
  refine ⟨⟨?_, rfl, rfl, rfl, fun frame member => List.mem_append_left _ member, ?_⟩,
    fun ecu => ?_, rfl⟩
  · rw [observed_idle idle]
    exact idle
  · intro frame template
    rw [show (node.observed ecanBus frames).frames.latestStockScc = _ from
      observeAll_template frames _] at template
    exact (stock_of_last template).imp_right fun known =>
      ⟨List.mem_append_right _ known.1, known.2⟩
  · cases ecu <;> rfl

theorem onward_requested {earlier before after : List BusFrame} {frame : BusFrame}
    {outcome : WriteOutcome}
    (leaves : LeavesFlags ecanBus (earlier ++ (before ++ after)) node left) :
    Onward ecanBus node view left
      ((((view.saw earlier).saw before).wrote ecanBus frame outcome).saw after) := by
  refine ⟨leaves.idle, leaves.mode, rfl, rfl, fun other member => ?_, fun other template => ?_⟩
  · simp only [WireView.saw, WireView.wrote, List.mem_append]
    exact .inl (.inl (.inl member))
  · rw [leaves.template] at template
    refine (stock_of_last template).imp_right fun known => ⟨?_, known.2⟩
    have member := known.1
    simp only [WireView.saw, WireView.wrote, List.mem_append] at member ⊢
    rcases member with inEarlier | inBefore | inAfter
    · exact .inl (.inl (.inr inEarlier))
    · exact .inl (.inr inBefore)
    · exact .inr inAfter

theorem flags_of_leaves {received : List BusFrame}
    (leaves : LeavesFlags ecanBus received node left) (ecu : EcuId) :
    (left.flags ecu).disabled = (node.flags ecu).disabled := by
  cases ecu with
  | camera => exact congrArg EcuFlags.disabled leaves.camera
  | radar => exact congrArg EcuFlags.disabled leaves.radar

end Relations

/-! ## Calm programs -/

abbrev WireKeeps {Value : Type} (settings : FrameSettings) (inv pre : EcuNode → WireView → Prop)
    (program : EcuProgram Value) (post : Value → EcuNode → WireView → Prop) : Prop :=
  Keeping (wireMonitor settings) inv pre program post

/-- From a view that meets `start`, all that goes on is calm. -/
abbrev Calms {Value : Type} (settings : FrameSettings) (start : WireView → Prop)
    (program : EcuProgram Value) : Prop :=
  ∀ node view, start view → WireKeeps settings (Calm settings.ecanBus node view) (fun _ _ => True)
    program (fun _ _ _ => True)

section Calmness
variable {settings : FrameSettings} {ecu : EcuId} {node left : EcuNode} {view later : WireView}
  {payload wanted : List UInt8} {start : WireView → Prop}

/-- A mode in which tester presents may go out. -/
def WireView.InSession (view : WireView) : Prop := view.InElm327 ∨ view.vehicle = true

theorem allows_diagnostic {frame : BusFrame} (diagnostic : view.Diagnostic settings.ecanBus frame) :
    (wireMonitor settings).allows view (.send frame) :=
  Or.inl diagnostic

theorem Calm.inElm327 {ecanBus : UInt8} (calm : Calm ecanBus node view left later)
    (elm : view.InElm327) : later.InElm327 := by
  obtain ⟨param, isMode⟩ := elm
  exact ⟨param, calm.mode.trans isMode⟩

theorem Calm.inSession {ecanBus : UInt8} (calm : Calm ecanBus node view left later)
    (session : view.InSession) : later.InSession :=
  session.imp calm.inElm327 fun vehicle => calm.vehicle.trans vehicle

/-- The requests that make no ECU silent and none talk. -/
def neutral (payload : List UInt8) : Bool :=
  payload.getD 1 0 != 0x83 && payload.getD 1 0 != 0x00 && payload.getD 1 0 != 0x01

theorem udsFrame_second {ecanBus : UInt8} {first second : UInt32} {payload other : List UInt8}
    (same : udsFrame ecanBus first payload = udsFrame ecanBus second other) :
    payload.getD 1 0 = other.getD 1 0 := by
  have bytes (address : UInt32) (payload : List UInt8) :
      (udsFrame ecanBus address payload).data[2] = payload.getD 1 0 := Vector.getElem_ofFn (by omega)
  rw [← bytes first, same, bytes]

theorem silent_neutral {ecanBus : UInt8} {address : UInt32} (isNeutral : neutral payload = true)
    (outcome : WriteOutcome) :
    (view.wrote ecanBus (udsFrame ecanBus address payload) outcome).silent = view.silent := by
  simp only [neutral, Bool.and_eq_true, bne_iff_ne] at isNeutral
  obtain ⟨⟨noSilence, noEnable⟩, noDefault⟩ := isNeutral
  funext ecu
  have silence : udsFrame ecanBus address payload ≠ silenceFrame ecanBus ecu := fun same =>
    noSilence (udsFrame_second same)
  have enable : udsFrame ecanBus address payload ≠ enableFrame ecanBus ecu := fun same =>
    noEnable (udsFrame_second same)
  have default : udsFrame ecanBus address payload ≠ defaultSessionFrame ecanBus ecu := fun same =>
    noDefault (udsFrame_second same)
  simp [WireView.wrote, silence, enable, default]

theorem Calms.within {Value : Type} {program : EcuProgram Value}
    (calms : Calms settings start program) (idle : node.frames.uds.waiting = false)
    (starts : start view) :
    Within (wireMonitor settings) program
      (fun _ left later => Calm settings.ecanBus node view left later)
      (fun _ left later => Calm settings.ecanBus node view left later) node view :=
  Program.within_mono (calms node view starts node view (.refl idle) trivial)
    (fun _ _ _ kept => kept.1) (fun _ _ _ kept => kept)

theorem calms_bind {Value Other : Type} {program : EcuProgram Other}
    {next : Other → EcuProgram Value} (before : Calms settings start program)
    (after : ∀ value, Calms settings start (next value)) :
    Calms settings start (program >>= next) :=
  fun node view starts => Program.keeping_bind (fun _ _ _ => True) (before node view starts)
    (fun value => after value node view starts)

theorem calms_pure {Value : Type} (value : Value) :
    Calms settings start (pure value : EcuProgram Value) :=
  fun _ _ _ => Program.keeping_pure fun _ _ _ _ => trivial

theorem calms_orThrow {Value : Type} (outcome : Except String Value) :
    Calms settings start (orThrow outcome) := by
  cases outcome with
  | ok value => exact calms_pure value
  | error what => exact fun _ _ _ => Program.keeping_raise

theorem calms_raiseIf (condition : Bool) (what : String) :
    Calms settings start (raiseIf condition what) :=
  fun _ _ _ => Program.keeping_raiseIf fun _ _ _ _ _ => trivial

theorem calms_runIf {condition : Bool} {program : EcuProgram Unit}
    (calms : Calms settings start program) : Calms settings start (program.runIf condition) :=
  fun node view starts => Program.keeping_runIf (fun _ => calms node view starts)
    fun _ _ _ _ _ => trivial

theorem calms_ask (question : EcuAsk) (allowed : ∀ view, WireView.allows settings view question)
    (unnoted : ∀ (view : WireView) answer, view.notes settings.ecanBus question answer = view) :
    Calms settings start (ask question : EcuProgram (EcuAnswer question)) := by
  intro node view _ left later calm _
  refine ⟨allowed later, fun answer => ?_⟩
  show Calm _ _ _ left (later.notes settings.ecanBus question answer) ∧ True
  rw [unnoted]
  exact ⟨calm, trivial⟩

theorem calms_readHealth : Calms settings start readHealth :=
  calms_bind (calms_ask .health (fun _ => trivial) fun _ _ => rfl) fun _ => calms_orThrow _

theorem calms_sendHeartbeat (engaged : Bool) : Calms settings start (sendHeartbeat engaged) :=
  calms_bind (calms_ask (.heartbeat engaged) (fun _ => trivial) fun _ _ => rfl)
    fun _ => calms_orThrow _

theorem calms_load (member : SharedMember) : Calms settings start (load member) :=
  calms_ask (.load member) (fun _ => trivial) fun _ _ => rfl

theorem calms_steadyNow : Calms settings start steadyNow :=
  calms_ask .clock (fun _ => trivial) fun _ _ => rfl

theorem calms_interfere : Calms settings start (interfere settings.ecanBus) :=
  fun _ _ _ _ _ calm _ =>
    ⟨trivial, fun frames => ⟨calm.trans (calm_observed calm.idle frames), trivial⟩⟩

theorem calm_sent {ecanBus : UInt8} (calm : Calm ecanBus node view left later) {address : UInt32}
    (isNeutral : neutral payload = true) (outcome : WriteOutcome) :
    Calm ecanBus node view left
      (later.wrote ecanBus (udsFrame ecanBus address payload) outcome) :=
  ⟨⟨calm.idle, calm.members, calm.mode, calm.vehicle, calm.received, calm.stock⟩, calm.disabled,
    (silent_neutral isNeutral outcome).trans calm.silent⟩

theorem calms_testerPresent :
    Calms settings WireView.InSession (sendTesterPresent settings.ecanBus ecu) := by
  have sends : Calms settings WireView.InSession
      (sendUds settings.ecanBus (requestAddress ecu) [0x3E, 0x80]) := by
    intro node view session left later calm _
    simp only [sendUds, Program.within_bind, Program.within_raiseIf]
    refine ⟨fun _ => calm, fun _ => ?_⟩
    apply within_sendFrame (allows_diagnostic (.testerPresent ecu rfl (calm.inSession session)))
    · exact ⟨calm_sent calm rfl _, trivial⟩
    · intro arrived what
      exact calm_sent calm rfl _
  refine calms_bind sends fun _ => calms_bind calms_steadyNow fun now => ?_
  intro node view _ left later calm _
  refine ⟨⟨⟨?_, ?_, calm.mode, calm.vehicle, calm.received, ?_⟩, fun other => ?_, calm.silent⟩,
    trivial⟩
  · rw [frames_setFlags]
    exact calm.idle
  · rw [← calm.members]
    cases ecu <;> rfl
  · rw [frames_setFlags]
    exact calm.stock
  · rw [← calm.disabled]
    cases ecu <;> cases other <;> rfl

theorem calms_maintainEcu (now : TimePoint) :
    Calms settings WireView.InSession (maintainEcu settings.ecanBus now ecu) := by
  intro node view session left later calm _
  simp only [maintainEcu, Program.within_bind, Program.within_fetch, Program.within_runIf]
  exact ⟨fun _ => calms_testerPresent node view session left later calm trivial,
    fun _ => ⟨calm, trivial⟩⟩

theorem calms_maintain (now : TimePoint) :
    Calms settings WireView.InSession (maintainDisabledEcus settings.ecanBus now) :=
  calms_bind (calms_maintainEcu now) fun _ => calms_maintainEcu now

theorem calms_openSession : Calms settings WireView.InElm327
    (udsRequest settings.ecanBus ecu [0x10, 0x03] [0x50, 0x03]) := by
  intro node view elm left later calm _
  have kept : ∀ (earlier before after : List BusFrame) (outcome : WriteOutcome) (last : EcuNode),
      LeavesFlags settings.ecanBus (earlier ++ (before ++ after)) left last →
        Calm settings.ecanBus node view last
          ((((later.saw earlier).saw before).wrote settings.ecanBus
            (udsFrame settings.ecanBus (requestAddress ecu) [0x10, 0x03]) outcome).saw after) :=
    fun earlier before after outcome last leaves =>
      calm.trans ⟨onward_requested leaves, flags_of_leaves leaves, silent_neutral rfl outcome⟩
  apply within_udsRequest calm.idle (fun _ => trivial)
  · intro unfit
    cases unfit
  · intro _ earlier before
    exact allows_diagnostic (.request ecu _ rfl (calm.inElm327 elm))
  · intro _ earlier before arrived what after last leaves
    exact kept _ _ _ _ _ leaves
  · intro _ earlier before after last leaves _
    exact kept _ _ _ _ _ leaves
  · intro _ earlier before after last response what leaves _ _
    exact kept _ _ _ _ _ leaves
  · intro _ earlier before after last response leaves _ _
    exact ⟨kept _ _ _ _ _ leaves, trivial⟩

theorem calms_observeQuiet (deadline : TimePoint) (rounds : List WaitRound) :
    Calms settings WireView.InSession (observeQuiet settings.ecanBus deadline rounds) := by
  induction rounds with
  | nil => exact calms_pure ()
  | cons round rest ih =>
      intro node view session
      apply Program.keeping_ite
      · intro _
        exact calms_bind (calms_maintain _) (fun _ => calms_bind calms_interfere fun _ => ih) node view
          session
      · intro _
        exact Program.keeping_pure fun _ _ _ _ => trivial

theorem calms_awaitStock (before : UInt64) (deadline : TimePoint) (rounds : List WaitRound) :
    Calms settings start (awaitStock settings.ecanBus ecu before deadline rounds) := by
  induction rounds with
  | nil => exact calms_pure ()
  | cons round rest ih =>
      intro node view starts left later calm _
      simp only [awaitStock, Program.within_bind, Program.within_fetch, Program.within_ite,
        Program.within_pure, within_interfere]
      refine ⟨fun _ => ⟨trivial, fun frames => ?_⟩, fun _ => ⟨calm, trivial⟩⟩
      exact ih node view starts _ _ (calm.trans (calm_observed calm.idle frames)) trivial

theorem calms_waitQuiet (before : UInt64) :
    Calms settings WireView.InSession (waitQuiet settings.ecanBus before) :=
  calms_bind calms_steadyNow fun _ =>
    calms_bind (calms_ask .rounds (fun _ => trivial) fun _ _ => rfl) fun rounds =>
      calms_observeQuiet _ rounds

theorem calms_waitResumed (before : UInt64) :
    Calms settings start (waitResumed settings.ecanBus ecu before) :=
  calms_bind calms_steadyNow fun _ =>
    calms_bind (calms_ask .rounds (fun _ => trivial) fun _ _ => rfl) fun rounds =>
      calms_awaitStock before _ rounds

theorem calms_fetch {Value : Type} {next : EcuNode → EcuProgram Value}
    (calms : ∀ node, Calms settings start (next node)) : Calms settings start (fetch >>= next) :=
  fun node view starts left later calm _ => calms left node view starts left later calm trivial

theorem calms_countOwned {wait : UInt64 → EcuProgram Unit}
    (calms : ∀ before, Calms settings start (wait before)) :
    Calms settings start (countOwned settings.ecanBus ecu wait) :=
  calms_bind calms_interfere fun _ => calms_fetch fun _ => calms_bind (calms _) fun _ =>
    calms_bind calms_interfere fun _ => calms_fetch fun _ => calms_pure _

end Calmness

end Ioniq5Ecan.Ecus
