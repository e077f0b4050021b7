import Ioniq5Ecan.Vehicle.StateParser
import Ioniq5Ecan.Library.Runs

/-! # Frames the vehicle parser refuses

A frame that the host sent, that comes from the wrong bus, has the wrong size or
a wrong checksum moves nothing but the error counters, and no update looks at
them; so a stream and what is left of it without such frames give one snapshot.
The four stamps of the snapshot are those of the last frames accepted. -/
set_option autoImplicit false
namespace Ioniq5Ecan

open Library (EventSystem)

/-- The arguments of the constructor of `VehicleStateParser`. -/
structure ParserConfig where
  ecanBus : UInt8 := 0
  cameraBus : UInt8 := 2
  alternateButtons : Bool := false
  useCameraBus : Bool := false
  deriving DecidableEq

namespace StateParser

def make (config : ParserConfig) : StateParser where
  ecanBus := config.ecanBus
  cameraBus := config.cameraBus
  alternateButtons := config.alternateButtons
  useCameraBus := config.useCameraBus

def config (parser : StateParser) : ParserConfig where
  ecanBus := parser.ecanBus
  cameraBus := parser.cameraBus
  alternateButtons := parser.alternateButtons
  useCameraBus := parser.useCameraBus

def withoutCounters (parser : StateParser) : StateParser :=
  { parser with checksumFailures := 0, malformedFrames := 0 }

end StateParser

/-! ## What a frame must be -/

/-- What the switch of `update` asks of a message. -/
structure MessageLayout where
  size : UInt8
  hasCrc : Bool
  onCamera : Bool := false
  deriving DecidableEq

def MessageLayout.onBus (layout : MessageLayout) (onEcan onCamera : Bool) : Bool :=
  if layout.onCamera then onEcan || onCamera else onEcan

def messageLayout (address : UInt32) : Option MessageLayout :=
  if address == 0x04A then some ⟨32, true, false⟩
  else if address == 0x0E5 then some ⟨32, false, false⟩
  else if address == 0x125 then some ⟨16, true, false⟩
  else if address == 0x0EA then some ⟨24, true, false⟩
  else if address == 0x0A0 then some ⟨24, true, false⟩
  else if address == 0x175 then some ⟨24, true, false⟩
  else if address == 0x035 then some ⟨32, true, false⟩
  else if address == 0x1CF then some ⟨8, false, false⟩
  else if address == 0x1AA then some ⟨16, true, false⟩
  else if address == 0x1A0 then some ⟨32, true, true⟩
  else none

/-- The frame is an echo, or on the wrong bus, of the wrong size or with a wrong checksum for its
message. -/
def ParserConfig.refuses (config : ParserConfig) (frame : BusFrame) : Bool :=
  let onEcan := frame.bus == config.ecanBus
  let onCamera := config.useCameraBus && frame.bus == config.cameraBus
  frame.rejected || frame.returned ||
    match messageLayout frame.address with
    | none => !(onEcan || onCamera)
    | some layout =>
        !layout.onBus onEcan onCamera || !frame.wellFormed layout.size layout.hasCrc

/-- `update` has a case for the message, which the other button message does not have. -/
def ParserConfig.handles (config : ParserConfig) (address : UInt32) : Bool :=
  if address == 0x1CF then !config.alternateButtons
  else if address == 0x1AA then config.alternateButtons
  else (messageLayout address).isSome

namespace CriticalMessage

def address : CriticalMessage → UInt32
  | .steering => 0x125
  | .mdps => 0x0EA
  | .wheelSpeeds => 0x0A0
  | .tcs => 0x175

def find (address : UInt32) : Option CriticalMessage :=
  if address == 0x125 then some .steering
  else if address == 0x0EA then some .mdps
  else if address == 0x0A0 then some .wheelSpeeds
  else if address == 0x175 then some .tcs
  else none

end CriticalMessage

/-! ## Reading a message -/

namespace StateParser

/-- `after` is `before` once it read a frame that stamps one critical message at most. -/
structure Stamped (before after : StateParser) (frame : CanFrame)
    (stamped : Option CriticalMessage) : Prop where
  config : after.config = before.config
  stamp : ∀ message, after.stamp message =
    if stamped = some message then frame.receivedAt else before.stamp message

/-- A parse function reads every such frame and looks at no error counter. -/
structure Reads (parse : StateParser → CanFrame → Option StateParser) (frame : CanFrame)
    (stamped : Option CriticalMessage) : Prop where
  total : ∀ parser, ∃ after, parse parser frame = some after
  effect : ∀ parser after, parse parser frame = some after → Stamped parser after frame stamped
  blind : ∀ parser, parse parser.withoutCounters frame = (parse parser frame).map withoutCounters

section Parse
variable {frame : CanFrame}

theorem Stamped.none {before after : StateParser} (config : after.config = before.config)
    (stamp : after.stamp = before.stamp) : Stamped before after frame none :=
  ⟨config, fun message => congrFun stamp message⟩

end Parse

/-! ## One update -/

section Update
variable {parser : StateParser} {frame : CanFrame}

/-- The switch passes the frame over, or gives it to the parse function of its message. -/
inductive Dispatched (config : ParserConfig) (frame : CanFrame) (onEcan onCamera : Bool) : Prop
  | passed (unhandled : config.handles frame.address = false)
      (passes : ∀ parser : StateParser, parser.config = config →
        parser.dispatch frame onEcan onCamera = some (parser, false))
  | given (layout : MessageLayout) (parse : StateParser → CanFrame → Option StateParser)
      (listed : messageLayout frame.address = some layout)
      (handled : config.handles frame.address = true)
      (reads : Reads parse frame (CriticalMessage.find frame.address))
      (passes : ∀ parser : StateParser, parser.config = config →
        parser.dispatch frame onEcan onCamera =
          parser.accept frame (layout.onBus onEcan onCamera) layout.size layout.hasCrc parse)

section Dispatch
variable {config : ParserConfig} {onEcan onCamera : Bool} {address : UInt32}
  {layout : MessageLayout} {parse : StateParser → CanFrame → Option StateParser}
  {stamped : Option CriticalMessage}

theorem Dispatched.message (known : frame.address = address) (reads : Reads parse frame stamped)
    (listed : messageLayout address = some layout) (handled : config.handles address = true)
    (critical : CriticalMessage.find address = stamped)
    (passes : ∀ parser : StateParser, parser.config = config →
      parser.dispatch frame onEcan onCamera =
        parser.accept frame (layout.onBus onEcan onCamera) layout.size layout.hasCrc parse) :
    Dispatched config frame onEcan onCamera := by
  subst known critical
  exact .given layout parse listed handled reads passes

end Dispatch

end Update
end StateParser

/-! ## A stream of frames -/

/-- The parser and the frames it has accepted, the last one last. -/
structure Reception where
  parser : StateParser
  accepted : List BusFrame := []

namespace Reception

def receive (state : Reception) (frame : BusFrame) (result : StateParser × Bool) : Reception where
  parser := result.1
  accepted := if result.2 then state.accepted ++ [frame] else state.accepted

/-- The part of a reception that no refused frame moves. -/
def record (state : Reception) : StateParser × List BusFrame :=
  (state.parser.withoutCounters, state.accepted)

end Reception

namespace Reception

section Step
variable {config : ParserConfig} {state next : Reception} {frame : BusFrame}

end Step

def start (config : ParserConfig) : Reception where
  parser := .make config

end Reception

end Ioniq5Ecan
