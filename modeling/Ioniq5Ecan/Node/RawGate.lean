import Ioniq5Ecan.Node.ActuationMutex
import Ioniq5Ecan.Vehicle.Codec

/-! # raw_can_tx_callback

The callback beside the three threads, and `latest_decision_`, which the control
loop stores a while after it computes a decision.  The callback runs in the main
thread, between calls of the service.  `computed` and `unpublished` are no
variables of the node: they keep what the last `update` returned, and whether
`latest_decision_` has been stored since. -/
set_option autoImplicit false
namespace Ioniq5Ecan

open Library (EventSystem LockView LockStep)

/-! ## The message -/

def canPayloadSizes : List UInt8 := [0, 1, 2, 3, 4, 5, 6, 7, 8, 12, 16, 20, 24, 32, 48, 64]

namespace RawCanFrame

def size (message : RawCanFrame) : UInt8 :=
  if message.data.length ≤ 64 then UInt8.ofNat message.data.length else 0

def valid (message : RawCanFrame) : Bool :=
  decide (message.data.length ≤ 64) && decide (message.bus < 3) &&
    decide (message.address < 0x20000000) &&
    (message.extended || decide (message.address < 0x800)) &&
    canPayloadSizes.contains message.size && (message.fd || decide (message.size ≤ 8)) &&
    !message.returned && !message.rejected

def frame (message : RawCanFrame) : BusFrame where
  address := message.address
  bus := message.bus
  fd := message.fd
  extended := message.extended
  size := message.size
  data := .ofFn fun index => message.data.getD index.val 0
  receivedAt := 0

end RawCanFrame

/-! ## The state -/

/-- The callback; past `decision` it holds what it copied of the decision. -/
inductive RawPoint
  | idle
  | lock (frame : BusFrame)
  | decision (frame : BusFrame)
  | vehicle (frame : BusFrame) (longitudinalAllowed : Bool)
  | connected (frame : BusFrame) (longitudinalAllowed : Bool)
  | send (frame : BusFrame)
  deriving DecidableEq

namespace RawPoint

def locked : RawPoint → Bool
  | .idle | .lock _ => false
  | _ => true

def reads : RawPoint → Bool
  | .decision _ => true
  | _ => false

def permitted : RawPoint → Bool
  | .vehicle _ longitudinalAllowed | .connected _ longitudinalAllowed => longitudinalAllowed
  | .send _ => true
  | _ => false

end RawPoint

structure GateState where
  node : NodeState := {}
  latestDecision : SafetyDecision := {}
  publishing : Bool := false
  raw : RawPoint := .idle
  rawCanTxCount : UInt64 := 0
  rawCanTxDropCount : UInt64 := 0
  computed : SafetyDecision := {}
  unpublished : Bool := false
  deriving DecidableEq

/-! ## The steps -/

/-- The store of `latest_decision_` is the next thing the control loop does. -/
def publishDue : ControlPoint → ControlPoint → Bool
  | .adapter, .transmit | .disarm .adapter _ _, .transmit => true
  | .restore .commandGap _, .loop | .disarm .commandGap _ _, .loop => true
  | .restore .cleanup _, .loop | .cleanupConnected, .loop => true
  | _, _ => false

def publishStep (state : GateState) : GateState :=
  { state with
    latestDecision := state.node.locals.decision, publishing := false, unpublished := false }

def gateControlStep (config : NodeConfig) (state : GateState) (input : StepInput) :
    Option GateState :=
  if state.publishing then some (publishStep state)
  else
    (controlStep config state.node input).map fun next =>
      let computes := state.node.control == .update
      { state with
        node := next
        publishing := publishDue state.node.control next.control
        computed := if computes then next.locals.decision else state.computed
        unpublished := computes || state.unpublished }

/-- Another call of the callback: a malformed message is dropped before any lock. -/
def callRaw (allowRawCanTx : Bool) (state : GateState) (message : RawCanFrame) :
    Option GateState :=
  if state.raw = .idle ∧ state.node.main = .idle then
    if !allowRawCanTx then some state
    else if !message.valid then
      some { state with rawCanTxDropCount := state.rawCanTxDropCount + 1 }
    else some { state with raw := .lock message.frame }
  else none

def dropRaw (state : GateState) : GateState :=
  { state with
    node := state.node.unlocked, raw := .idle, rawCanTxDropCount := state.rawCanTxDropCount + 1 }

def rawStep (state : GateState) (input : StepInput) : Option GateState :=
  match state.raw with
  | .idle => none
  | .lock frame =>
      match state.node.actuationMutex with
      | some _ => none
      | none => some { state with
          node := { state.node with actuationMutex := some .main }, raw := .decision frame }
  | .decision frame =>
      some (if frame.address == lfaAddress && !state.latestDecision.lateralAllowed then dropRaw state
        else { state with raw := .vehicle frame state.latestDecision.longitudinalAllowed })
  | .vehicle frame longitudinalAllowed =>
      some (if !state.node.flags.vehicleSafetyMode then dropRaw state
        else { state with raw := .connected frame longitudinalAllowed })
  | .connected frame longitudinalAllowed =>
      some (if !state.node.flags.connected || !longitudinalAllowed then dropRaw state
        else { state with raw := .send frame })
  | .send _ =>
      let node := state.node.afterUsb input.usb.isOk input.stillConnected
      let after := { state with node := node.unlocked, raw := .idle }
      some (match input.usb with
        | .ok () => { after with rawCanTxCount := state.rawCanTxCount + 1 }
        | .error _ => { after with rawCanTxDropCount := state.rawCanTxDropCount + 1 })

inductive GateEvent
  | node (event : NodeEvent)
  | callRaw (message : RawCanFrame)
  | raw (input : StepInput)

/-- The main thread does nothing else while the callback runs. -/
def gateStep (config : NodeConfig) (allowRawCanTx : Bool) (state : GateState) :
    GateEvent → Option GateState
  | .node (.control input) => gateControlStep config state input
  | .node (.receive input) =>
      (receiveStep state.node input).map fun next => { state with node := next }
  | .node event =>
      if state.raw = .idle then
        (nodeStep config state.node event).map fun next => { state with node := next }
      else none
  | .callRaw message => callRaw allowRawCanTx state message
  | .raw input => rawStep state input

def gateSystem (config : NodeConfig) (allowRawCanTx : Bool) : EventSystem GateState GateEvent where
  step := gateStep config allowRawCanTx

/-- The callback does not copy a permission that a later `update` has superseded, and no `update`
runs while the callback has one in hand. -/
def ReadsCurrent (state : GateState) : GateEvent → Prop
  | .raw _ => state.raw.reads = true →
      state.latestDecision.longitudinalAllowed = true → state.unpublished = false
  | .node (.control _) =>
      state.node.control = .update → state.publishing = false → state.raw.permitted = false
  | _ => True

instance : ∀ state event, Decidable (ReadsCurrent state event)
  | _, .raw _ => inferInstanceAs (Decidable (_ → _ → _))
  | _, .node (.control _) => inferInstanceAs (Decidable (_ → _ → _))
  | _, .node (.callArm _) => isTrue trivial
  | _, .node .callDestructor => isTrue trivial
  | _, .node (.main _) => isTrue trivial
  | _, .node (.receive _) => isTrue trivial
  | _, .callRaw _ => isTrue trivial

end Ioniq5Ecan
