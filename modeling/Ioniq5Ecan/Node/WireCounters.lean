import Ioniq5Ecan.Node.EcuFrameRule
import Ioniq5Ecan.Node.VehicleMode

/-! # The alive counters on the bus

An ECU that receives LFA, SCC_CONTROL, the cluster or the FCA warning frame
expects each counter to follow the one before.  `reset_counters` and the stock
template start them when the vehicle mode is set, and the probe of the firmware
is one of the SCC frames. -/
set_option autoImplicit false
namespace Ioniq5Ecan.Ecus

open Library (Exchange Monitor Program Double)
open Library.Program (ask fetch change raise raiseIf Within Keeping Preserving
  keeping_of_preserving preserving_bind preserving_change preserving_fetch preserving_ite
  preserving_outcome preserving_pure preserving_raise preserving_raiseIf preserving_runIf)

/-! ## The counted frames -/

inductive AliveFrame
  | lfa
  | cluster
  | scc
  | fcaWarning
  deriving DecidableEq

namespace AliveFrame

def address : AliveFrame → UInt32
  | .lfa => lfaAddress
  | .cluster => lfaClusterAddress
  | .scc => sccControlAddress
  | .fcaWarning => fcaWarningAddress

def counter (codec : HyundaiCanFdCodec) : AliveFrame → UInt8
  | .lfa => codec.lfaCounter
  | .cluster => codec.clusterCounter
  | .scc => codec.sccCounter
  | .fcaWarning => codec.fcaWarningCounter

def Used (settings : FrameSettings) (kind : AliveFrame) : Prop :=
  kind = .lfa ∨ kind = .cluster ∨ settings.safety.allowLongitudinal = true

theorem address_injective {kind other : AliveFrame} (same : kind.address = other.address) :
    kind = other := by
  cases kind <;> cases other <;> first | rfl | exact absurd same (by decide)

theorem address_not_request (kind : AliveFrame) (ecu : EcuId) :
    requestAddress ecu ≠ kind.address := by
  cases kind <;> cases ecu <;> decide

end AliveFrame

/-- The counter of any of the four frames. -/
def counterByte (frame : BusFrame) : UInt8 := frame.data.getD 2 0

/-- `make` gives the frame its counter and counts on, and no other counter moves. -/
structure Counts (kind : AliveFrame) (codec next : HyundaiCanFdCodec) (frame : BusFrame) : Prop where
  address : frame.address = kind.address
  carried : counterByte frame = kind.counter codec
  moved : kind.counter next = kind.counter codec + 1
  others : ∀ other : AliveFrame, other ≠ kind → other.counter next = other.counter codec
  template : next.hasSccTemplate = codec.hasSccTemplate

section Frames
variable {codec next : HyundaiCanFdCodec} {frame : BusFrame} {bus : UInt8}

def layout (writes : List SignalWrite) : List (Nat × Nat × ByteOrder) :=
  writes.map fun write => (write.startBit, write.bitLength, write.order)

structure SoundLayout (size : Nat) (signals : List (Nat × Nat × ByteOrder)) : Prop where
  fits : ∀ signal ∈ signals, SignalFits signal.2.2 signal.1 signal.2.1 size
  distinct : (signals.flatMap fun signal => signalBits signal.2.2 signal.1 signal.2.1).Nodup
  above : ∀ bit ∈ signals.flatMap fun signal => signalBits signal.2.2 signal.1 signal.2.1, 16 ≤ bit

theorem counterByte_encoded {size : Nat} {address : UInt32} {data : Vector UInt8 size}
    {writes : List SignalWrite} {signals : List (Nat × Nat × ByteOrder)} {counter : UInt8}
    (sized : size = 16 ∨ size = 32) (sound : SoundLayout size signals)
    (encodes : encodeFrame address bus data writes = some frame) (laid : layout writes = signals)
    (member : { startBit := 16, bitLength := 8, raw := counter.toUInt64 } ∈ writes) :
    counterByte frame = counter := by
  have owned : ownedBits writes =
      signals.flatMap fun signal => signalBits signal.2.2 signal.1 signal.2.1 := by
    rw [← laid, layout, List.flatMap_map]
    unfold ownedBits Library.BitField.owned
    rw [List.flatMap_map]
    rfl
  have fits : ∀ write ∈ writes, write.Fits size := fun write isWrite =>
    sound.fits (write.startBit, write.bitLength, write.order)
      (laid ▸ List.mem_map.mpr ⟨write, isWrite, rfl⟩)
  have encoded := encodeFrame_some (by omega) fits encodes
  have reads := encoded.reads (owned ▸ sound.distinct) (owned ▸ sound.above) (by omega)
    (fits _ member) member
  have whole := @getSignal_bits 64 frame.data 16 8 (by decide) (by decide) (by decide)
  have same := Option.some.inj (whole.symm.trans reads)
  have byte := read_byte frame.data 2
  rw [byte] at same
  apply UInt8.toNat_inj.mp
  have small := (frame.data.getD 2 0).toNat_lt
  have values := congrArg UInt64.toNat same
  simp only [UInt64.toNat_ofNat'] at values
  have range := counter.toNat_lt
  simp at values
  unfold counterByte
  omega

def lfaClusterSignals : List (Nat × Nat × ByteOrder) :=
  [(16, 8, .littleEndian), (31, 1, .littleEndian), (47, 2, .littleEndian)]

def fcaWarningSignals : List (Nat × Nat × ByteOrder) :=
  [(16, 8, .littleEndian), (24, 2, .littleEndian), (56, 8, .littleEndian), (64, 8, .littleEndian),
    (72, 8, .littleEndian), (80, 8, .littleEndian)]

theorem lfa_sound : SoundLayout 16 lfaSignals :=
  ⟨lfaSignals_fit, by decide +kernel, by decide +kernel⟩

theorem lfaCluster_sound : SoundLayout 16 lfaClusterSignals :=
  ⟨by decide +kernel, by decide +kernel, by decide +kernel⟩

theorem fcaWarning_sound : SoundLayout 16 fcaWarningSignals :=
  ⟨by decide +kernel, by decide +kernel, by decide +kernel⟩

theorem scc_sound : SoundLayout 32 sccSignals :=
  ⟨sccSignals_fit, by decide +kernel, by decide +kernel⟩

theorem counts_lfa {torque : Int} {enabled torqueRequest : Bool}
    (makes : codec.makeLfa torque enabled torqueRequest bus = some (next, frame)) :
    Counts .lfa codec next frame := by
  obtain ⟨made, encodes, same⟩ := Option.map_eq_some_iff.mp makes
  cases same
  refine ⟨makeLfa_address makes, ?_, rfl, fun other different => ?_, rfl⟩
  · exact counterByte_encoded (.inl rfl) lfa_sound encodes lfa_layout
      (List.mem_of_getElem? (i := 0) rfl)
  · cases other <;> first | exact absurd rfl different | rfl

theorem counts_lfaCluster {enabled : Bool}
    (makes : codec.makeLfaCluster enabled bus = some (next, frame)) :
    Counts .cluster codec next frame := by
  obtain ⟨made, encodes, same⟩ := Option.map_eq_some_iff.mp makes
  cases same
  refine ⟨makeLfaCluster_address makes, ?_, rfl, fun other different => ?_, rfl⟩
  · exact counterByte_encoded (.inl rfl) lfaCluster_sound encodes rfl
      (List.mem_of_getElem? (i := 0) rfl)
  · cases other <;> first | exact absurd rfl different | rfl

theorem counts_fcaWarning (makes : codec.makeFcaWarning bus = some (next, frame)) :
    Counts .fcaWarning codec next frame := by
  obtain ⟨made, encodes, same⟩ := Option.map_eq_some_iff.mp makes
  cases same
  refine ⟨makeFcaWarning_address makes, ?_, rfl, fun other different => ?_, rfl⟩
  · exact counterByte_encoded (.inl rfl) fcaWarning_sound encodes rfl
      (List.mem_of_getElem? (i := 0) rfl)
  · cases other <;> first | exact absurd rfl different | rfl

theorem counts_scc {request : SccRequest}
    (makes : codec.makeSccControl request = some (next, frame)) :
    Counts .scc codec next frame := by
  have address := makeSccControl_address makes
  unfold HyundaiCanFdCodec.makeSccControl at makes
  split at makes
  · cases makes
  · obtain ⟨made, encodes, same⟩ := Option.map_eq_some_iff.mp makes
    cases same
    refine ⟨address, ?_, rfl, fun other different => ?_, rfl⟩
    · exact counterByte_encoded (.inr rfl) scc_sound encodes scc_layout
        (List.mem_of_getElem? (i := 0) rfl)
    · cases other <;> first | exact absurd rfl different | rfl

/-! The LFA, the cluster and the FCA warning frame can always be made, an SCC frame of finite values. -/

theorem encodeFrame_isSome {size : Nat} {writes : List SignalWrite} {address : UInt32}
    {data : Vector UInt8 size} {signals : List (Nat × Nat × ByteOrder)}
    (sized : size = 16 ∨ size = 32) (sound : SoundLayout size signals)
    (laid : layout writes = signals) : (encodeFrame address bus data writes).isSome = true := by
  have fits : ∀ write ∈ writes, write.Fits size := fun write isWrite =>
    sound.fits (write.startBit, write.bitLength, write.order)
      (laid ▸ List.mem_map.mpr ⟨write, isWrite, rfl⟩)
  obtain ⟨frame, encodes, _⟩ := encodeFrame_encoded (by omega) fits address bus data
  rw [encodes]
  rfl

theorem makeLfa_isSome (torque : Int) (enabled torqueRequest : Bool) :
    (codec.makeLfa torque enabled torqueRequest bus).isSome = true := by
  rw [HyundaiCanFdCodec.makeLfa, Option.isSome_map]
  exact encodeFrame_isSome (.inl rfl) lfa_sound lfa_layout

theorem makeLfaCluster_isSome (enabled : Bool) :
    (codec.makeLfaCluster enabled bus).isSome = true := by
  rw [HyundaiCanFdCodec.makeLfaCluster, Option.isSome_map]
  exact encodeFrame_isSome (.inl rfl) lfaCluster_sound rfl

theorem makeFcaWarning_isSome : (codec.makeFcaWarning bus).isSome = true := by
  rw [HyundaiCanFdCodec.makeFcaWarning, Option.isSome_map]
  exact encodeFrame_isSome (.inl rfl) fcaWarning_sound rfl

theorem makeSccControl_isSome {request : SccRequest} (finite : request.values.isSome = true) :
    (codec.makeSccControl request).isSome = true := by
  obtain ⟨values, isValues⟩ := Option.isSome_iff_exists.mp finite
  rw [HyundaiCanFdCodec.makeSccControl, isValues]
  dsimp only
  rw [Option.isSome_map]
  exact encodeFrame_isSome (.inr rfl) scc_sound scc_layout

end Frames

/-! ## What the receivers expect -/

/-- The next counter of each kind, and the frames that were observed.  An SCC frame without a next
counter goes on after a stock frame. -/
structure AliveView where
  next : AliveFrame → Option UInt8 := fun _ => none
  received : List BusFrame := []

namespace AliveView

def saw (view : AliveView) (frames : List BusFrame) : AliveView :=
  { view with received := view.received ++ frames }

def sent (view : AliveView) (frame : BusFrame) : AliveView :=
  { view with
    next := fun kind =>
      if frame.address = kind.address then some (counterByte frame + 1) else view.next kind }

/-- The vehicle mode starts the counters again. -/
def restarted (view : AliveView) : AliveView :=
  { view with next := fun kind => if kind = .scc then none else some 0 }

def Continues (view : AliveView) (ecanBus : UInt8) (kind : AliveFrame) (counter : UInt8) : Prop :=
  match view.next kind with
  | some next => counter = next
  | none => ∃ stock ∈ view.received, stockFrame ecanBus .radar stock = true ∧
      counter = counterByte stock + 1

def Expects (view : AliveView) (ecanBus : UInt8) (frame : BusFrame) : Prop :=
  ∀ kind : AliveFrame, frame.address = kind.address →
    view.Continues ecanBus kind (counterByte frame)

def ExpectsAll (ecanBus : UInt8) : AliveView → List BusFrame → Prop
  | _, [] => True
  | view, frame :: rest => view.Expects ecanBus frame ∧ ExpectsAll ecanBus (view.sent frame) rest

def notes (view : AliveView) : (question : EcuAsk) → EcuAnswer question → AliveView
  | .meanwhile, (frames : List BusFrame) => view.saw frames
  | .send frame, _ => view.sent frame
  | .sendFrames frames, _ => frames.foldl sent view
  | .setSafetyMode mode _, _ => if mode = kSafetyHyundaiCanFd then view.restarted else view
  | _, _ => view

def allows (view : AliveView) (ecanBus : UInt8) : EcuAsk → Prop
  | .send frame => view.Expects ecanBus frame
  | .sendFrames frames => ExpectsAll ecanBus view frames
  | _ => True

theorem expectsAll_append {ecanBus : UInt8} (first second : List BusFrame) :
    ∀ view : AliveView, ExpectsAll ecanBus view (first ++ second) ↔
      ExpectsAll ecanBus view first ∧ ExpectsAll ecanBus (first.foldl sent view) second := by
  induction first with
  | nil => intro view; simp [ExpectsAll]
  | cons frame rest ih =>
      intro view
      simp only [List.cons_append, ExpectsAll, List.foldl_cons, ih, and_assoc]

theorem received_sent (frames : List BusFrame) :
    ∀ view : AliveView, (frames.foldl sent view).received = view.received := by
  induction frames with
  | nil => intro view; rfl
  | cons frame rest ih => intro view; exact ih (view.sent frame)

theorem Continues.saw {view : AliveView} {ecanBus : UInt8} {kind : AliveFrame} {counter : UInt8}
    (continues : view.Continues ecanBus kind counter) (frames : List BusFrame) :
    (view.saw frames).Continues ecanBus kind counter := by
  unfold Continues at continues ⊢
  rw [show (view.saw frames).next kind = view.next kind from rfl]
  cases known : view.next kind with
  | some next =>
      rw [known] at continues
      exact continues
  | none =>
      rw [known] at continues
      obtain ⟨stock, member, isStock, same⟩ := continues
      exact ⟨stock, List.mem_append_left _ member, isStock, same⟩

theorem sent_request (view : AliveView) (ecanBus : UInt8) (ecu : EcuId) (payload : List UInt8) :
    view.sent (udsFrame ecanBus (requestAddress ecu) payload) = view := by
  obtain ⟨next, received⟩ := view
  simp [sent, udsFrame, AliveFrame.address_not_request]

end AliveView

def aliveMonitor (settings : FrameSettings) : Monitor EcuAsk EcuAnswer AliveView where
  allows view question := view.allows settings.ecanBus question
  notes := AliveView.notes

/-! ## The codec in step -/

/-- The counters of the codec are the ones expected next, and a template is loaded where one is
needed. -/
structure InStep (settings : FrameSettings) (codec : HyundaiCanFdCodec) (view : AliveView) :
    Prop where
  continues : ∀ kind : AliveFrame, kind.Used settings →
    view.Continues settings.ecanBus kind (kind.counter codec)
  template : settings.safety.allowLongitudinal = true → codec.hasSccTemplate = true

section Steps
variable {settings : FrameSettings} {codec next : HyundaiCanFdCodec} {view : AliveView}
  {frame : BusFrame} {kind : AliveFrame}

theorem InStep.saw (inStep : InStep settings codec view) (frames : List BusFrame) :
    InStep settings codec (view.saw frames) :=
  ⟨fun kind used => (inStep.continues kind used).saw frames, inStep.template⟩

theorem InStep.expects (inStep : InStep settings codec view) (used : kind.Used settings)
    (counts : Counts kind codec next frame) : view.Expects settings.ecanBus frame := by
  intro other isOther
  have same := AliveFrame.address_injective (counts.address.symm.trans isOther)
  subst same
  rw [counts.carried]
  exact inStep.continues kind used

theorem InStep.sent (inStep : InStep settings codec view) (counts : Counts kind codec next frame) :
    InStep settings next (view.sent frame) := by
  refine ⟨fun other used => ?_, fun longitudinal => counts.template.trans (inStep.template longitudinal)⟩
  by_cases same : other = kind
  · subst same
    unfold AliveView.Continues
    rw [show (view.sent frame).next other = some (counterByte frame + 1) from
      if_pos counts.address]
    exact counts.moved.trans (congrArg (· + 1) counts.carried.symm)
  · have foreign : frame.address ≠ other.address := fun isOther =>
      same (AliveFrame.address_injective (counts.address.symm.trans isOther)).symm
    have continues := inStep.continues other used
    unfold AliveView.Continues at continues ⊢
    rw [counts.others other same, show (view.sent frame).next other = view.next other from
      if_neg foreign]
    exact continues

def MadeInStep (settings : FrameSettings) (view : AliveView)
    (made : HyundaiCanFdCodec × Option (List BusFrame)) : Prop :=
  ∃ frames, made.2 = some frames ∧ AliveView.ExpectsAll settings.ecanBus view frames ∧
    InStep settings made.1 (frames.foldl AliveView.sent view)

theorem MadeInStep.push {made : HyundaiCanFdCodec × Option (List BusFrame)}
    {make : HyundaiCanFdCodec → Option (HyundaiCanFdCodec × BusFrame)}
    (inStep : MadeInStep settings view made) (used : kind.Used settings)
    (makes : (make made.1).isSome = true)
    (counts : ∀ next frame, make made.1 = some (next, frame) → Counts kind made.1 next frame) :
    MadeInStep settings view (pushFrame made make) := by
  obtain ⟨frames, isMade, expected, after⟩ := inStep
  obtain ⟨⟨next, frame⟩, isNext⟩ := Option.isSome_iff_exists.mp makes
  have counted := counts next frame isNext
  refine ⟨frames ++ [frame], ?_, ?_, ?_⟩
  · simp only [pushFrame, isMade, isNext]
  · rw [AliveView.expectsAll_append]
    exact ⟨expected, after.expects used counted, trivial⟩
  · rw [List.foldl_append]
    have codec : (pushFrame made make).1 = next := by simp only [pushFrame, isMade, isNext]
    rw [codec]
    exact after.sent counted

/-- The values of an SCC frame are finite where the adapter's acceleration and the settings are. -/
theorem sccRequest_finite (speed : settings.setSpeedKph.isFinite = true)
    (jerk : settings.jerkLimitMps3.isFinite = true) {output : ControlOutput}
    (acceleration : output.accelerationMps2.isFinite = true) (decision : SafetyDecision)
    (vehicle : VehicleStateData) :
    (sccRequest settings decision output vehicle).values.isSome = true := by
  have finite : ∀ value : Double, value.isFinite = true → ∃ rational, value = .finite rational := by
    intro value isFinite
    cases value with
    | finite rational => exact ⟨rational, rfl⟩
    | infinite negative => cases isFinite
    | nan => cases isFinite
  obtain ⟨speedValue, isSpeed⟩ := finite _ speed
  obtain ⟨jerkValue, isJerk⟩ := finite _ jerk
  obtain ⟨value, isValue⟩ := finite _ acceleration
  simp only [sccRequest, SccRequest.values, isSpeed, isJerk, isValue]
  cases decision.longitudinalAllowed <;> cases output.longitudinalActive <;> rfl

theorem assembled_inStep (inStep : InStep settings codec view)
    (speed : settings.setSpeedKph.isFinite = true) (jerk : settings.jerkLimitMps3.isFinite = true)
    {output : ControlOutput} (acceleration : output.accelerationMps2.isFinite = true)
    (frameIndex : UInt64) (decision : SafetyDecision) (vehicle : VehicleStateData) :
    MadeInStep settings view (assembleFrames settings codec frameIndex decision output vehicle) := by
  have start : MadeInStep settings view (codec, some []) := ⟨[], rfl, trivial, inStep⟩
  have lfa : MadeInStep settings view (pushFrame (codec, some [])
      (·.makeLfa output.steeringTorque decision.lateralAllowed output.steeringRequest
        settings.ecanBus)) :=
    start.push (.inl rfl) (makeLfa_isSome _ _ _) fun _ _ makes => counts_lfa makes
  unfold assembleFrames
  dsimp only
  generalize pushFrame (codec, some []) _ = first at lfa ⊢
  have cluster : MadeInStep settings view
      (if frameIndex % 5 = 0 then
        pushFrame first (·.makeLfaCluster decision.lateralAllowed settings.ecanBus)
      else first) := by
    split
    · exact lfa.push (.inr (.inl rfl)) (makeLfaCluster_isSome _) fun _ _ makes =>
        counts_lfaCluster makes
    · exact lfa
  generalize (if frameIndex % 5 = 0 then
    pushFrame first (·.makeLfaCluster decision.lateralAllowed settings.ecanBus) else first) = second
    at cluster ⊢
  split
  · rename_i wanted
    have used (kind : AliveFrame) : kind.Used settings := .inr (.inr wanted.1)
    have loaded : second.1.hasSccTemplate = true := by
      obtain ⟨_, _, _, after⟩ := cluster
      exact after.template wanted.1
    rw [if_neg (by simp [loaded])]
    have scc : MadeInStep settings view (pushFrame second
        (·.makeSccControl (sccRequest settings decision output vehicle))) :=
      cluster.push (used .scc)
        (makeSccControl_isSome (sccRequest_finite speed jerk acceleration decision vehicle))
        fun _ _ makes => counts_scc makes
    exact scc.push (used .fcaWarning) makeFcaWarning_isSome fun _ _ makes => counts_fcaWarning makes
  · exact cluster

end Steps

/-! ## The node in step -/

/-- The newest stock frame was observed. -/
def StockObserved (settings : FrameSettings) (node : EcuNode) (view : AliveView) : Prop :=
  ∀ frame, node.frames.latestStockScc = some frame →
    frame ∈ view.received ∧ stockFrame settings.ecanBus .radar frame = true

/-- In vehicle mode the codec is in step. -/
def NodeInStep (settings : FrameSettings) (node : EcuNode) (view : AliveView) : Prop :=
  StockObserved settings node view ∧
    (node.mode.vehicleSafetyMode = true → InStep settings node.mode.codec view)

abbrev KeepsCounts {Value : Type} (settings : FrameSettings) (pre : EcuNode → AliveView → Prop)
    (program : EcuProgram Value) (post : Value → EcuNode → AliveView → Prop) : Prop :=
  Keeping (aliveMonitor settings) (NodeInStep settings) pre program post

section Invariant
variable {settings : FrameSettings} {Value : Type} {node : EcuNode} {view : AliveView}
  {holds : EcuNode → AliveView → Prop}

theorem preserves_unnoted (question : EcuAsk)
    (allowed : ∀ view, (aliveMonitor settings).allows view question)
    (unnoted : ∀ view answer, (aliveMonitor settings).notes view question answer = view) :
    Preserving (aliveMonitor settings) holds (ask question : EcuProgram (EcuAnswer question)) := by
  intro node view held _
  refine ⟨allowed view, fun answer => ?_⟩
  show holds node ((aliveMonitor settings).notes view question answer) ∧ True
  rw [unnoted]
  exact ⟨held, trivial⟩

theorem preserves_orThrow {View : Type} {monitor : Monitor EcuAsk EcuAnswer View}
    {holds : EcuNode → View → Prop} (outcome : Except String Value) :
    Preserving monitor holds (orThrow outcome) := by
  cases outcome with
  | ok value => exact preserving_pure value
  | error what => exact preserving_raise what

theorem preserves_readHealth : Preserving (aliveMonitor settings) holds readHealth :=
  preserving_bind (preserves_unnoted .health (fun _ => trivial) fun _ _ => rfl)
    fun _ => preserves_orThrow _

theorem preserves_sendHeartbeat (engaged : Bool) :
    Preserving (aliveMonitor settings) holds (sendHeartbeat engaged) :=
  preserving_bind (preserves_unnoted (.heartbeat engaged) (fun _ => trivial) fun _ _ => rfl)
    fun _ => preserves_orThrow _

theorem preserves_load (member : SharedMember) :
    Preserving (aliveMonitor settings) holds (load member) :=
  preserves_unnoted (.load member) (fun _ => trivial) fun _ _ => rfl

theorem preserves_now : Preserving (aliveMonitor settings) holds steadyNow :=
  preserves_unnoted .clock (fun _ => trivial) fun _ _ => rfl

theorem preserves_otherMode {mode : UInt16} (other : mode ≠ kSafetyHyundaiCanFd) (param : UInt16) :
    Preserving (aliveMonitor settings) holds (setSafetyMode mode param) :=
  preserving_bind (preserves_unnoted (.setSafetyMode mode param) (fun _ => trivial)
    fun _ _ => if_neg other) fun _ => preserves_orThrow _

theorem undisturbed_mode {tells : ModeMembers → AliveView → Prop}
    (grows : ∀ mode view frames, tells mode view → tells mode (view.saw frames)) :
    Undisturbed settings.ecanBus (aliveMonitor settings) fun node view => tells node.mode view where
  observes node view held := ⟨trivial, fun frames => grows node.mode view frames held⟩
  clock node view held := ⟨trivial, fun _ => held⟩
  rounds node view held := ⟨trivial, fun _ => held⟩
  requests node view ecu payload held := by
    refine ⟨fun kind isKind => ?_, fun outcome => ?_⟩
    · exact absurd isKind (kind.address_not_request ecu)
    · show tells node.mode (view.sent _)
      rw [AliveView.sent_request]
      exact held
  slot node view uds held := held
  flags node view ecu flags held := by
    cases ecu <;> exact held

theorem undisturbed_stock :
    Undisturbed settings.ecanBus (aliveMonitor settings) (StockObserved settings) where
  observes node view held := by
    refine ⟨trivial, fun frames frame template => ?_⟩
    rw [show (node.observed settings.ecanBus frames).frames.latestStockScc = _ from
      observeAll_template frames _] at template
    cases isLast : (frames.filter (stockFrame settings.ecanBus .radar)).getLast? with
    | none =>
        rw [isLast] at template
        obtain ⟨member, isStock⟩ := held frame template
        exact ⟨List.mem_append_left _ member, isStock⟩
    | some other =>
        rw [isLast] at template
        have same := Option.some.inj template
        subst same
        obtain ⟨member, isStock⟩ := List.mem_filter.mp (List.mem_of_getLast? isLast)
        exact ⟨List.mem_append_right _ member, isStock⟩
  clock node view held := ⟨trivial, fun _ => held⟩
  rounds node view held := ⟨trivial, fun _ => held⟩
  requests node view ecu payload held := by
    refine ⟨fun kind isKind => ?_, fun outcome => ?_⟩
    · exact absurd isKind (kind.address_not_request ecu)
    · show StockObserved settings node (view.sent _)
      rw [AliveView.sent_request]
      exact held
  slot node view uds held := held
  flags node view ecu flags held := by
    cases ecu <;> exact held

theorem undisturbed_counted :
    Undisturbed settings.ecanBus (aliveMonitor settings) (NodeInStep settings) :=
  undisturbed_stock.and (@undisturbed_mode settings
    (fun mode view => mode.vehicleSafetyMode = true → InStep settings mode.codec view)
    fun _ _ frames driven driving => (driven driving).saw frames)

/-! ## enter_vehicle_safety_mode -/

/-- Not in vehicle mode, with what the mode's members say besides. -/
def Halted (tells : ModeMembers → AliveView → Prop) (node : EcuNode) (view : AliveView) : Prop :=
  node.mode.vehicleSafetyMode = false ∧ tells node.mode view

def Grows (tells : ModeMembers → AliveView → Prop) : Prop :=
  ∀ mode view frames, tells mode view → tells mode (view.saw frames)

theorem undisturbed_halted {tells : ModeMembers → AliveView → Prop} (grows : Grows tells) :
    Undisturbed settings.ecanBus (aliveMonitor settings)
      (fun node view => NodeInStep settings node view ∧ Halted tells node view) :=
  undisturbed_counted.and (@undisturbed_mode settings
    (fun mode view => mode.vehicleSafetyMode = false ∧ tells mode view)
    fun mode view frames held => ⟨held.1, grows mode view frames held.2⟩)

/-- A template of the stock frame, if there is one, and one where one is needed. -/
def Stocked (settings : FrameSettings) (stock : Option BusFrame) (_ : ModeMembers)
    (view : AliveView) : Prop :=
  (∀ frame, stock = some frame →
    frame ∈ view.received ∧ stockFrame settings.ecanBus .radar frame = true) ∧
  (settings.safety.allowLongitudinal = true → stock.isSome = true)

def Loaded (settings : FrameSettings) (mode : ModeMembers) (view : AliveView) : Prop :=
  InStep settings mode.codec view.restarted

def Restarted (settings : FrameSettings) (mode : ModeMembers) (view : AliveView) : Prop :=
  InStep settings mode.codec view

theorem stocked_grows (stock : Option BusFrame) : Grows (Stocked settings stock) :=
  fun _ _ _ held => ⟨fun frame isStock =>
    ⟨List.mem_append_left _ (held.1 frame isStock).1, (held.1 frame isStock).2⟩, held.2⟩

theorem restarted_grows : Grows (Restarted settings) :=
  fun _ _ frames held => InStep.saw held frames

theorem nothing_grows : Grows fun _ _ => True :=
  fun _ _ _ held => held

theorem NodeInStep.setCodec (counted : NodeInStep settings node view)
    (halted : node.mode.vehicleSafetyMode = false) (codec : HyundaiCanFdCodec) :
    NodeInStep settings (node.setCodec codec) view :=
  ⟨counted.1, fun driving => absurd (halted.symm.trans driving) Bool.false_ne_true⟩

theorem counts_checkTakeover (vehicle : VehicleStateData) (commandGapResume : Bool) :
    Preserving (aliveMonitor settings) holds (checkTakeover settings vehicle commandGapResume) := by
  refine preserving_bind (preserves_load _) fun pending => preserving_fetch fun node => ?_
  refine preserving_bind (preserving_raiseIf _ _) fun _ => ?_
  refine preserving_bind (preserving_raiseIf _ _) fun _ => ?_
  exact preserving_bind (preserves_load _) fun licence => preserving_raiseIf _ _

theorem counts_stockTemplate (vehicle : VehicleStateData) :
    KeepsCounts settings (Halted fun _ _ => True) (stockTemplate settings vehicle)
      (fun stock => Halted (Stocked settings stock)) := by
  apply Program.keeping_ite
  · intro longitudinal
    apply Program.keeping_bind (fun _ => Halted fun _ _ => True)
      (keeping_of_preserving (preserving_raiseIf _ _))
    intro _
    apply Program.keeping_bind (fun _ => Halted fun _ _ => True)
      (keeping_of_preserving preserves_now)
    intro now
    apply Program.keeping_bind (fun _ => Halted fun _ _ => True)
      (keeping_of_preserving (preserves_interfere (undisturbed_halted nothing_grows)))
    intro _ node view counted halted
    simp only [Program.within_bind, Program.within_fetch, Program.within_raiseIf,
      Program.within_pure]
    refine ⟨fun _ => counted, fun present => ⟨counted, halted.1, fun frame recent => ?_, fun _ => ?_⟩⟩
    · apply counted.1 frame
      unfold copyRecentSccTemplate at recent
      split at recent
      · rename_i stock isStock
        split at recent
        · cases recent
        · rw [isStock, recent]
      · cases recent
    · exact Option.isSome_iff_ne_none.mpr fun none => by simp [none] at present
  · intro lateral
    exact Program.keeping_pure fun _ _ _ halted =>
      ⟨halted.1, fun _ never => (by cases never), fun longitudinal => absurd longitudinal lateral⟩

theorem counts_silenceEcus {tells : ModeMembers → AliveView → Prop} (grows : Grows tells) :
    KeepsCounts settings (Halted tells) (silenceEcus settings) (fun _ => Halted tells) := by
  have still := @undisturbed_halted settings tells grows
  apply keeping_of_preserving
  refine preserving_bind (preserves_sendHeartbeat false) fun _ => ?_
  refine preserving_bind (preserves_otherMode (by decide) _) fun _ => ?_
  refine preserving_bind (preserves_disableEcu still .camera) fun _ => ?_
  refine preserving_bind (preserves_sendHeartbeat false) fun _ => ?_
  refine preserving_runIf fun _ => ?_
  exact preserving_bind (preserves_disableEcu still .radar) fun _ => preserves_sendHeartbeat false

theorem counts_resetCodec (stock : Option BusFrame) :
    KeepsCounts settings (Halted (Stocked settings stock)) (resetCodec stock)
      (fun _ => Halted (Loaded settings)) := by
  intro node view counted halted
  simp only [resetCodec, Program.within_bind, Program.within_change]
  have kept := NodeInStep.setCodec counted halted.1 (node.mode.codec.resetCounters 0 0 0 0)
  obtain ⟨isHalted, known, needed⟩ := halted
  cases stock with
  | none =>
      refine ⟨kept, isHalted, fun kind used => ?_, fun longitudinal => absurd (needed longitudinal)
        Bool.false_ne_true⟩
      have notLongitudinal : settings.safety.allowLongitudinal ≠ true := fun longitudinal =>
        absurd (needed longitudinal) Bool.false_ne_true
      rcases used with rfl | rfl | longitudinal
      · rfl
      · rfl
      · exact absurd longitudinal notLongitudinal
  | some frame =>
      simp only [loadTemplate, Program.within_bind, Program.within_fetch]
      cases accepted : (node.setCodec (node.mode.codec.resetCounters 0 0 0 0)).mode.codec
          |>.setSccControlTemplate frame with
      | none => exact kept
      | some codec =>
          refine ⟨NodeInStep.setCodec kept isHalted codec, isHalted, ?_⟩
          unfold HyundaiCanFdCodec.setSccControlTemplate at accepted
          split at accepted
          · cases accepted
          · cases accepted
            refine ⟨fun kind _ => ?_, fun _ => rfl⟩
            cases kind with
            | scc => exact ⟨frame, (known frame rfl).1, (known frame rfl).2, rfl⟩
            | lfa => rfl
            | cluster => rfl
            | fcaWarning => rfl

theorem counts_vehicleMode (param : UInt16) :
    KeepsCounts settings (Halted (Loaded settings)) (setSafetyMode kSafetyHyundaiCanFd param)
      (fun _ => Halted (Restarted settings)) := by
  intro node view counted halted
  simp only [setSafetyMode, Program.within_bind]
  refine ⟨trivial, fun (outcome : UsbOutcome) => ?_⟩
  have kept : NodeInStep settings node view.restarted :=
    ⟨counted.1, fun driving => absurd (halted.1.symm.trans driving) Bool.false_ne_true⟩
  cases outcome with
  | error what => exact kept
  | ok _ => exact ⟨kept, halted⟩

theorem preserves_awaitSession (polls : Nat) :
    ∀ readiness, Preserving (aliveMonitor settings) holds (awaitSession polls readiness) := by
  induction polls with
  | zero => intro readiness; exact preserving_raiseIf _ _
  | succ polls ih =>
      intro readiness
      apply preserving_ite
      · intro _
        exact preserving_pure ()
      · intro _
        exact preserving_bind preserves_readHealth ih

theorem preserves_pollBlocked (before : PandaHealth) (attempts : Nat) :
    ∀ after, Preserving (aliveMonitor settings) holds (pollBlocked before attempts after) := by
  induction attempts with
  | zero => intro after; exact preserving_pure after
  | succ attempts ih =>
      intro _
      refine preserving_bind preserves_readHealth fun after => ?_
      apply preserving_ite
      · intro _
        exact preserving_pure after
      · intro _
        exact ih after

theorem counts_sendProbe (longitudinal : settings.safety.allowLongitudinal = true) :
    KeepsCounts settings (Halted (Restarted settings)) (sendProbe settings)
      (fun _ => Halted (Restarted settings)) := by
  intro node view counted halted
  simp only [sendProbe, Program.within_bind, Program.within_fetch]
  cases makes : node.mode.codec.makeSccControl (probeRequest settings) with
  | none => exact counted
  | some made =>
      obtain ⟨codec, frame⟩ := made
      have scc := counts_scc makes
      have used : AliveFrame.scc.Used settings := .inr (.inr longitudinal)
      have after : InStep settings codec (view.sent frame) := halted.2.sent scc
      have kept : NodeInStep settings (node.setCodec codec) (view.sent frame) :=
        ⟨counted.1, fun driving => absurd (halted.1.symm.trans driving) Bool.false_ne_true⟩
      simp only [Program.within_bind, Program.within_change]
      apply within_sendFrame (show (aliveMonitor settings).allows view (.send frame) from
        halted.2.expects used scc)
      · exact ⟨kept, halted.1, after⟩
      · exact fun _ _ => kept

theorem counts_verify (longitudinal : settings.safety.allowLongitudinal = true) :
    KeepsCounts settings (Halted (Restarted settings)) (verifyLongitudinalFirmware settings)
      (fun _ => Halted (Restarted settings)) := by
  apply Program.keeping_bind (fun _ => Halted (Restarted settings))
    (keeping_of_preserving preserves_readHealth)
  intro before
  apply Program.keeping_bind _ (counts_sendProbe longitudinal)
  intro _
  apply Program.keeping_bind (fun _ => Halted (Restarted settings))
    (keeping_of_preserving (preserves_pollBlocked before 5 before))
  intro after
  exact keeping_of_preserving (preserving_raiseIf _ _)

theorem counts_enableVehicleMode :
    KeepsCounts settings (Halted (Loaded settings)) (enableVehicleMode settings)
      (fun _ _ _ => True) := by
  have still := @undisturbed_halted settings (Restarted settings) restarted_grows
  apply Program.keeping_bind _ (counts_vehicleMode _)
  intro _
  apply Program.keeping_bind (fun _ => Halted (Restarted settings))
  · apply keeping_of_preserving
    refine preserving_runIf fun _ => preserving_bind preserves_readHealth fun readiness => ?_
    exact preserving_bind (preserves_unnoted .healthPolls (fun _ => trivial) fun _ _ => rfl)
      fun polls => preserves_awaitSession polls readiness
  intro _
  apply Program.keeping_bind (fun _ => Halted (Restarted settings))
  · exact Program.keeping_runIf counts_verify fun _ _ _ _ halted => halted
  intro _
  apply Program.keeping_bind (fun _ => Halted (Restarted settings))
    (keeping_of_preserving preserves_readHealth)
  intro health
  apply Program.keeping_bind (fun _ => Halted (Restarted settings))
    (keeping_of_preserving (preserving_raiseIf _ _))
  intro _
  apply Program.keeping_bind (fun _ => Halted (Restarted settings))
    (keeping_of_preserving preserves_now)
  intro now
  apply Program.keeping_bind (fun _ => Halted (Restarted settings))
    (keeping_of_preserving (preserves_maintain still now))
  intro _
  exact Program.keeping_change fun node view counted halted =>
    ⟨⟨counted.1, fun _ => halted.2⟩, trivial⟩

theorem counts_enterVehicleSafetyMode (vehicle : VehicleStateData) (commandGapResume : Bool) :
    KeepsCounts settings (fun _ _ => True)
      (enterVehicleSafetyMode settings vehicle commandGapResume) (fun _ _ _ => True) := by
  intro node view counted _
  simp only [enterVehicleSafetyMode, Program.within_bind, Program.within_fetch]
  rw [Program.within_ite]
  refine ⟨fun _ => ⟨counted, trivial⟩, fun notVehicle => ?_⟩
  have takes : KeepsCounts settings (Halted fun _ _ => True)
      (takeOver settings vehicle commandGapResume) (fun _ _ _ => True) := by
    apply Program.keeping_bind (fun _ => Halted fun _ _ => True)
      (keeping_of_preserving (counts_checkTakeover vehicle commandGapResume))
    intro _
    apply Program.keeping_bind _ (counts_stockTemplate vehicle)
    intro stock
    apply Program.keeping_bind _ (counts_silenceEcus (stocked_grows stock))
    intro _
    apply Program.keeping_bind _ (counts_resetCodec stock)
    intro _
    exact counts_enableVehicleMode
  exact takes node view counted ⟨Bool.eq_false_iff.mpr notVehicle, trivial⟩

/-! ## enter_no_output_mode -/

theorem counts_restoreEcus (elmReady : Bool) (errors : List String) :
    Preserving (aliveMonitor settings)
      (fun node view => NodeInStep settings node view ∧ Halted (fun _ _ => True) node view)
      (restoreEcus settings elmReady errors) := by
  have still := @undisturbed_halted settings _ nothing_grows
  have restores (ecu : EcuId) : Preserving (aliveMonitor settings)
      (fun node view => NodeInStep settings node view ∧ Halted (fun _ _ => True) node view)
      (restoreEcuIf settings elmReady ecu) := by
    refine preserving_fetch fun node => preserving_runIf fun _ => preserving_fetch fun node => ?_
    exact preserving_bind (preserves_restoreEcu still _ ecu) fun _ => preserves_sendHeartbeat false
  have confirms (ecu : EcuId) : Preserving (aliveMonitor settings)
      (fun node view => NodeInStep settings node view ∧ Halted (fun _ _ => True) node view)
      (confirmEcuIf settings elmReady ecu) :=
    preserving_fetch fun node => preserving_runIf fun _ => preserves_confirm still ecu
  refine preserving_bind (preserving_outcome (restores .radar)) fun _ => ?_
  refine preserving_bind (preserving_outcome (restores .camera)) fun _ => ?_
  refine preserving_bind (preserving_outcome (confirms .radar)) fun _ => ?_
  exact preserving_bind (preserving_outcome (confirms .camera)) fun _ => preserving_pure _

theorem preserves_standDown : Preserving (aliveMonitor settings) holds (standDown settings) := by
  refine preserving_bind (preserves_load _) fun preserve => ?_
  refine preserving_bind (preserves_load _) fun disarmed => ?_
  refine preserving_bind (preserving_bind (preserves_load _) fun _ =>
    preserving_runIf fun _ => preserves_otherMode (by decide) _) fun _ => ?_
  refine preserving_bind (preserves_otherMode (by decide) _) fun _ => ?_
  exact preserving_bind preserves_readHealth fun health => preserving_raiseIf _ _

theorem counts_endRestoration (errors : List String) :
    KeepsCounts settings (Halted fun _ _ => True) (endRestoration errors) (fun _ _ _ => True) := by
  apply Program.keeping_bind (fun _ => Halted fun _ _ => True)
  · exact Program.keeping_change fun node view counted halted =>
      ⟨NodeInStep.setCodec counted halted.1 _, halted⟩
  intro _
  apply Program.keeping_ite
  · intro _
    exact Program.keeping_change fun node view counted halted => ⟨counted, trivial⟩
  · intro _
    apply Program.keeping_bind (fun _ => Halted fun _ _ => True) (keeping_of_preserving preserves_now)
    intro now
    apply Program.keeping_bind (fun _ => Halted fun _ _ => True)
    · exact Program.keeping_change fun node view counted halted => ⟨counted, halted⟩
    intro _
    exact Program.keeping_raise

theorem counts_enterNoOutputMode :
    KeepsCounts settings (fun _ _ => True) (enterNoOutputMode settings) (fun _ _ _ => True) := by
  apply Program.keeping_bind (fun _ => Halted fun _ _ => True)
  · exact Program.keeping_change fun node view counted _ =>
      ⟨⟨counted.1, fun never => (by cases never)⟩, rfl, trivial⟩
  intro _
  apply Program.keeping_bind (fun _ => Halted fun _ _ => True) (keeping_of_preserving preserves_now)
  intro now
  apply Program.keeping_bind (fun _ => Halted fun _ _ => True)
  · exact Program.keeping_change fun node view counted halted => ⟨counted, halted⟩
  intro _
  apply Program.keeping_bind (fun _ => Halted fun _ _ => True)
    (keeping_of_preserving (preserving_outcome (preserves_sendHeartbeat false)))
  intro heartbeat
  apply Program.keeping_bind (fun _ => Halted fun _ _ => True)
  · apply keeping_of_preserving
    refine preserving_outcome (preserving_fetch fun node => preserving_runIf fun _ => ?_)
    exact preserving_bind (preserves_load _) fun _ => preserves_otherMode (by decide) _
  intro elm
  apply Program.keeping_bind (fun _ => Halted fun _ _ => True)
    (keeping_of_preserving (counts_restoreEcus _ _))
  intro errors
  apply Program.keeping_bind (fun _ => Halted fun _ _ => True)
    (keeping_of_preserving (preserving_outcome preserves_standDown))
  intro noOutput
  exact counts_endRestoration _

/-! ## The other holders of the mutex -/

theorem counts_assembleAndSend (speed : settings.setSpeedKph.isFinite = true)
    (jerk : settings.jerkLimitMps3.isFinite = true) (frameIndex : UInt64)
    (decision : SafetyDecision) {output : ControlOutput}
    (acceleration : output.accelerationMps2.isFinite = true) (vehicle : VehicleStateData)
    (now : TimePoint) :
    KeepsCounts settings (fun node _ => node.mode.vehicleSafetyMode = true)
      (assembleAndSend settings frameIndex decision output vehicle now) (fun _ _ _ => True) := by
  intro node view counted driving
  obtain ⟨frames, isMade, expected, after⟩ := assembled_inStep (counted.2 driving) speed jerk
    acceleration frameIndex decision vehicle
  simp only [assembleAndSend, Program.within_bind, Program.within_fetch, Program.within_change,
    isMade, sendFrames, writeFrames]
  have kept : NodeInStep settings
      (node.setCodec (assembleFrames settings node.mode.codec frameIndex decision output vehicle).1)
      (frames.foldl AliveView.sent view) := by
    refine ⟨fun frame isStock => ?_, fun _ => after⟩
    rw [AliveView.received_sent]
    exact counted.1 frame isStock
  refine ⟨expected, fun (outcome : WriteOutcome) => ?_⟩
  cases outcome with
  | delivered => exact preserves_maintain undisturbed_counted now _ _ kept trivial
  | failed arrived what => exact kept

/-- An iteration with the acceleration that the adapter makes. -/
def FiniteCall : ModeCall → Prop
  | .iteration _ _ output _ _ _ => output.accelerationMps2.isFinite = true
  | _ => True

theorem counts_runModeCall (speed : settings.setSpeedKph.isFinite = true)
    (jerk : settings.jerkLimitMps3.isFinite = true) {call : ModeCall} (finite : FiniteCall call) :
    KeepsCounts settings (fun _ _ => True) (runModeCall settings call) (fun _ _ _ => True) := by
  cases call with
  | takeover vehicle commandGapResume =>
      exact counts_enterVehicleSafetyMode vehicle commandGapResume
  | restoration => exact counts_enterNoOutputMode
  | iteration frameIndex decision output vehicle sessionReady now =>
      refine preserving_bind (preserves_unnoted .connected (fun _ => trivial) fun _ _ => rfl) ?_
      intro (connected : Bool) node view counted _
      simp only [Program.within_bind, Program.within_fetch, Program.within_runIf, Bool.and_eq_true]
      exact ⟨fun met => counts_assembleAndSend speed jerk frameIndex decision finite vehicle now node
        view counted met.1.1, fun _ => ⟨counted, trivial⟩⟩
  | raw message =>
      refine preserving_runIf fun _ => preserving_bind (preserves_load _) fun _ => ?_
      refine preserving_bind (preserves_load _) fun _ => ?_
      refine preserving_bind (preserves_unnoted .connected (fun _ => trivial) fun _ _ => rfl)
        fun (connected : Bool) => preserving_fetch fun node => preserving_runIf fun _ => ?_
      exact preserving_bind (preserves_unnoted (.sendRaw message.frame) (fun _ => trivial)
        fun _ _ => rfl) fun _ => preserving_pure ()
  | heartbeat engaged => exact preserves_sendHeartbeat engaged
  | listener =>
      exact preserving_bind (preserves_otherMode (by decide) _) fun _ =>
        preserving_bind preserves_readHealth fun _ => preserving_pure ()
  | dropPermission =>
      exact preserving_bind (preserves_unnoted .dropPermission (fun _ => trivial) fun _ _ => rfl)
        fun _ => preserves_orThrow _
  | connection =>
      refine preserving_bind (preserves_unnoted .connect (fun _ => trivial) fun _ _ => rfl)
        fun (outcome : UsbOutcome) => preserving_bind (preserves_orThrow _) fun _ => ?_
      exact preserving_change fun node view counted => ⟨counted.1, fun never => (by cases never)⟩
  | loss =>
      refine preserving_bind (preserves_unnoted .disconnect (fun _ => trivial) fun _ _ => rfl)
        fun _ => ?_
      exact preserving_change fun node view counted => ⟨counted.1, fun never => (by cases never)⟩
  | internalDisarm => exact preserving_change fun node view counted => counted

theorem counts_serveModeCalls (speed : settings.setSpeedKph.isFinite = true)
    (jerk : settings.jerkLimitMps3.isFinite = true) (calls : List ModeCall) :
    ∀ {node : EcuNode} {view : AliveView}, (∀ call ∈ calls, FiniteCall call) →
      NodeInStep settings node view →
      Within (aliveMonitor settings) (serveModeCalls settings calls)
        (fun _ node view => NodeInStep settings node view) (fun _ _ _ => False) node view := by
  induction calls with
  | nil => intro node view _ counted; exact counted
  | cons call rest ih =>
      intro node view finite counted
      obtain ⟨first, others⟩ := List.forall_mem_cons.mp finite
      simp only [serveModeCalls, Program.within_bind, Program.within_outcome, Program.within_pure]
      refine Program.within_mono (counts_runModeCall speed jerk first node view counted trivial) ?_ ?_
      · intro _ node view reached
        exact Program.within_mono (ih others reached.1) (fun _ _ _ kept => kept) fun _ _ _ => id
      · intro _ node view kept
        exact Program.within_mono (ih others kept) (fun _ _ _ kept => kept) fun _ _ _ => id

end Invariant

/-- Whatever calls follow each other and whatever the Panda, the bus and the other threads answer:
from the vehicle mode on, the LFA, cluster and FCA warning frames written count from zero and the
SCC frames, the probe included, from an observed stock frame, each counter one more than that of the
frame of its kind before it. -/
theorem wire_counters (settings : FrameSettings) (speed : settings.setSpeedKph.isFinite = true)
    (jerk : settings.jerkLimitMps3.isFinite = true) (calls : List ModeCall)
    (finite : ∀ call ∈ calls, FiniteCall call)
    (party : List (Exchange EcuAsk EcuAnswer) → (question : EcuAsk) → EcuAnswer question) :
    ∃ exchanges node outcomes,
      (serveModeCalls settings calls {}).hold party [] = (exchanges, node, .ok outcomes) ∧
        (aliveMonitor settings).Obeyed {} exchanges ∧
        (node.mode.vehicleSafetyMode = true →
          InStep settings node.mode.codec ((aliveMonitor settings).follow {} exchanges)) := by
  have fresh : NodeInStep settings {} {} :=
    ⟨fun _ never => (by cases never), fun never => (by cases never)⟩
  obtain ⟨exchanges, node, outcomes, run, obeyed, counted⟩ :=
    Program.exists_run party (counts_serveModeCalls speed jerk calls finite fresh)
  exact ⟨exchanges, node, outcomes, run, obeyed, counted.2⟩

def longitudinalFrames : FrameSettings := { safety := { allowLongitudinal := true } }

def confirmingFrames (past : List (Exchange EcuAsk EcuAnswer)) : List BusFrame :=
  match past.getLast? with
  | some ⟨.send request, _⟩ =>
      [{ request with
        address := request.address + 8
        data := request.data.setIfInBounds 1 (request.data.getD 1 0 + 0x40) }]
  | _ =>
      if 4 < past.length then []
      else ((encodeFrame sccControlAddress 0 (.replicate 32 0)
        [{ startBit := 16, bitLength := 8, raw := 0xFE }]).map fun stock =>
          { stock with receivedAt := 1000000000 }).toList

def confirmingBus (past : List (Exchange EcuAsk EcuAnswer)) :
    (question : EcuAsk) → EcuAnswer question
  | .meanwhile => confirmingFrames past
  | .clock => (1000000000 : TimePoint)
  | .send _ => WriteOutcome.delivered
  | .rounds => ([] : List WaitRound)
  | .sendFrames _ => WriteOutcome.delivered
  | .sendRaw _ => WriteOutcome.delivered
  | .heartbeat _ => (.ok () : UsbOutcome)
  | .setSafetyMode _ _ => (.ok () : UsbOutcome)
  | .health =>
      (.ok {
        safetyMode := longitudinalFrames.safety.requiredSafetyMode
        safetyParam := longitudinalFrames.safety.requiredSafetyParam } : Except String PandaHealth)
  | .healthPolls => (0 : Nat)
  | .dropPermission => (.ok () : UsbOutcome)
  | .connect => (.ok () : UsbOutcome)
  | .disconnect => ()
  | .connected => true
  | .load _ => false

/-- A takeover and two iterations: the SCC frames go on from the stock counter 0xFE. -/
theorem counters_after_takeover :
    ∃ exchanges node outcomes,
      (serveModeCalls longitudinalFrames [.connection,
        .takeover { valid := true, standstill := true, gear := 5 } false,
        .iteration 0 {} {} {} true 0, .iteration 1 {} {} {} true 0] {}).hold confirmingBus [] =
          (exchanges, node, .ok outcomes) ∧
        (aliveMonitor longitudinalFrames).Obeyed {} exchanges ∧
        (node.mode.vehicleSafetyMode = true → InStep longitudinalFrames node.mode.codec
          ((aliveMonitor longitudinalFrames).follow {} exchanges)) :=
  wire_counters longitudinalFrames rfl rfl _ (by simp [FiniteCall, Double.isFinite, Double.zero])
    confirmingBus

end Ioniq5Ecan.Ecus
