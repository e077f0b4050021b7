import Ioniq5Ecan.Node.ControlFrames
import Ioniq5Ecan.Vehicle.StateParser

/-! # What the node knows of the bus

The frames of `receive_loop`: a bulk read is decoded, and each of its frames is
observed and parsed.  Where the bytes are cut into reads decides when a frame is
received, and nothing else. -/
set_option autoImplicit false
namespace Ioniq5Ecan

open Library Ecus

/-! ## A packet of the Panda -/

/-- A complete packet with a valid checksum, also of a frame that is returned or rejected. -/
def IsPacket (packet : List UInt8) (frame : BusFrame) : Prop :=
  scanPacket 0 0 packet = .packet frame packet.length

section Packets
variable {packet bytes rest : List UInt8} {frame : BusFrame} {length : UInt8}

structure PacketParts (packet : List UInt8) (length : UInt8) : Prop where
  dlc : dlcToLength[(packet.getD 0 0 >>> 4).toNat]? = some length
  size : packet.length = canHeaderSize + length.toNat
  checksum : xorChecksum packet = 0

theorem IsPacket.parts (isPacket : IsPacket packet frame) :
    ∃ length, PacketParts packet length ∧ frame = frameAt 0 length packet := by
  unfold IsPacket scanPacket at isPacket
  split at isPacket
  · cases isPacket
  split at isPacket
  · cases isPacket
  rename_i length dlc
  dsimp only at isPacket
  split at isPacket
  · cases isPacket
  split at isPacket
  · cases isPacket
  rename_i sum
  obtain ⟨isFrame, size⟩ := Scan.packet.inj isPacket
  refine ⟨length, ⟨dlc, size.symm, ?_⟩, isFrame.symm⟩
  rw [size, List.take_length] at sum
  simpa using sum

theorem getD_packet {index : Nat} (inside : index < packet.length) :
    (packet ++ rest).getD index 0 = packet.getD index 0 := by
  rw [List.getD_append _ _ _ _ inside]

theorem frameAt_append (parts : PacketParts packet length) (receivedAt : TimePoint) :
    frameAt receivedAt length (packet ++ rest) = { frameAt 0 length packet with receivedAt } := by
  have header {index : Nat} (inside : index < canHeaderSize) :
      (packet ++ rest).getD index 0 = packet.getD index 0 :=
    getD_packet (by rw [parts.size]; omega)
  have word : wordAt (packet ++ rest) = wordAt packet := by
    simp only [wordAt, header (by decide : 1 < canHeaderSize),
      header (by decide : 2 < canHeaderSize), header (by decide : 3 < canHeaderSize),
      header (by decide : 4 < canHeaderSize)]
  have data : (frameAt receivedAt length (packet ++ rest)).data = (frameAt 0 length packet).data := by
    apply Vector.ext
    intro index inside
    simp only [frameAt, Vector.getElem_ofFn]
    split
    · exact getD_packet (by rw [parts.size]; omega)
    · rfl
  simp only [frameAt, word, header (by decide : 0 < canHeaderSize),
    header (by decide : 1 < canHeaderSize)] at data ⊢
  rw [data]

theorem IsPacket.encodes (isPacket : IsPacket packet frame) :
    Encodes scanPacket BusFrame.untimed packet frame.untimed := by
  obtain ⟨length, parts, rfl⟩ := isPacket.parts
  have long : canHeaderSize ≤ packet.length := by
    rw [parts.size]
    exact Nat.le_add_right ..
  refine ⟨Nat.lt_of_lt_of_le (by decide) long, fun receivedAt position rest => ?_,
    fun receivedAt position bytes starts short => ?_⟩
  · refine ⟨{ frameAt 0 length packet with receivedAt }, ?_, rfl⟩
    have whole : canHeaderSize + length.toNat ≤ (packet ++ rest).length := by
      rw [List.length_append, ← parts.size]
      exact Nat.le_add_right ..
    have dlc : dlcToLength[((packet ++ rest).getD 0 0 >>> 4).toNat]? = some length := by
      rw [getD_packet (Nat.lt_of_lt_of_le (by decide) long)]
      exact parts.dlc
    unfold scanPacket
    rw [if_neg (by omega), dlc]
    dsimp only
    rw [if_neg (by omega), ← parts.size, List.take_left, parts.checksum,
      frameAt_append parts receivedAt]
    rfl
  · obtain ⟨rest, rfl⟩ := starts
    unfold scanPacket
    by_cases header : bytes.length < canHeaderSize
    · rw [if_pos header]
    · have dlc : dlcToLength[(bytes.getD 0 0 >>> 4).toNat]? = some length := by
        rw [← @getD_packet bytes rest 0 (Nat.lt_of_lt_of_le (by decide) (Nat.le_of_not_lt header))]
        exact parts.dlc
      rw [if_neg header, dlc]
      dsimp only
      rw [if_pos (by rw [← parts.size]; exact short)]

end Packets

/-! ## But for the times -/

/-- A frame but for the time it was received. -/
def CanFrame.untimed (frame : CanFrame) : CanFrame := { frame with receivedAt := 0 }

/-- The parser without the times of its frames and the rate that is computed from them. -/
def StateParser.timeless (parser : StateParser) : StateParser :=
  { parser with
    state := { parser.state with steeringRateDegS := .zero, updatedAt := 0 }
    steeringTime := 0
    mdpsTime := 0
    wheelTime := 0
    tcsTime := 0
    previousAngleTime := 0 }

def Ecus.ControlFrames.timeless (frames : ControlFrames) : ControlFrames :=
  { frames with latestStockScc := frames.latestStockScc.map BusFrame.untimed }

namespace StateParser

/-- A parse function makes nothing but times of the times. -/
def Untimed (parse : StateParser → CanFrame → Option StateParser) : Prop :=
  ∀ parser frame, (parse parser frame).map timeless =
    (parse parser.timeless frame.untimed).map timeless

theorem map_bind_same {Value : Type} {read : Option Value}
    {first second : Value → Option StateParser}
    (same : ∀ value, (first value).map timeless = (second value).map timeless) :
    (read >>= first).map timeless = (read >>= second).map timeless := by
  cases read with
  | none => rfl
  | some value => exact same value

theorem parseDynamics_untimed : Untimed parseDynamics := by
  intro parser frame
  unfold parseDynamics
  apply map_bind_same
  intro first
  apply map_bind_same
  intro second
  apply map_bind_same
  intro third
  split
  · apply map_bind_same
    intro yaw
    apply map_bind_same
    intro lateral
    apply map_bind_same
    intro longitudinal
    rfl
  · rfl

theorem parseSteering_untimed : Untimed parseSteering := by
  intro parser frame
  unfold parseSteering
  apply map_bind_same
  intro angle
  apply map_bind_same
  intro angleRaw
  apply map_bind_same
  intro rate
  rfl

theorem parseMdps_untimed : Untimed parseMdps := by
  intro parser frame
  unfold parseMdps
  apply map_bind_same
  intro driverTorque
  apply map_bind_same
  intro epsTorque
  apply map_bind_same
  intro epsFault
  rfl

theorem parseWheelSpeeds_untimed : Untimed parseWheelSpeeds := by
  intro parser frame
  unfold parseWheelSpeeds
  apply map_bind_same
  intro first
  apply map_bind_same
  intro second
  apply map_bind_same
  intro third
  apply map_bind_same
  intro fourth
  rfl

theorem parseTcs_untimed : Untimed parseTcs := by
  intro parser frame
  unfold parseTcs
  apply map_bind_same
  intro brake
  apply map_bind_same
  intro fault
  rfl

theorem parseAccelerator_untimed : Untimed parseAccelerator := by
  intro parser frame
  unfold parseAccelerator
  apply map_bind_same
  intro pedal
  apply map_bind_same
  intro gear
  rfl

theorem parseScc_untimed : Untimed parseScc := by
  intro parser frame
  unfold parseScc
  apply map_bind_same
  intro mode
  rfl

theorem countButtons_untimed (parser : StateParser) (current : UInt8) (laneKeepButton : Bool) :
    timeless { parser with
        toFrameParser := parser.toFrameParser.countButtons current laneKeepButton } =
      timeless { parser.timeless with
        toFrameParser := parser.timeless.toFrameParser.countButtons current laneKeepButton } := by
  unfold FrameParser.countButtons
  rw [show parser.timeless.previousLaneKeepButton = parser.previousLaneKeepButton from rfl,
    show parser.timeless.previousButton = parser.previousButton from rfl]
  cases laneKeepButton && !parser.previousLaneKeepButton <;>
    cases parser.previousButton == 2 && current == 0 <;>
      cases current == 4 && parser.previousButton != 4 <;> rfl

theorem countRead_untimed (parser : StateParser) (current laneKeepButton : Option UInt64) :
    ((do
      let current ← current
      let laneKeepButton ← laneKeepButton
      some (parser.toFrameParser.countButtons current.toUInt8 (laneKeepButton != 0))).map
        fun parsed => timeless { parser with toFrameParser := parsed }) =
      (do
        let current ← current
        let laneKeepButton ← laneKeepButton
        some (parser.timeless.toFrameParser.countButtons current.toUInt8
          (laneKeepButton != 0))).map
        fun parsed => timeless { parser.timeless with toFrameParser := parsed } := by
  cases current with
  | none => rfl
  | some current =>
      cases laneKeepButton with
      | none => rfl
      | some laneKeepButton => exact congrArg some (countButtons_untimed parser _ _)

theorem parseButtons_untimed (alternate : Bool) :
    Untimed fun parser frame => parser.parseButtons frame alternate := by
  intro parser frame
  simp only [parseButtons, FrameParser.parseButtons, Option.map_map]
  cases alternate with
  | true => exact countRead_untimed parser _ _
  | false => exact countRead_untimed parser _ _

/-! ## update -/

def untimedResult (result : Option (StateParser × Bool)) : Option (StateParser × Bool) :=
  result.map fun updated => (updated.1.timeless, updated.2)

theorem checksumValid_untimed (frame : CanFrame) : frame.untimed.checksumValid = frame.checksumValid :=
  rfl

theorem accept_untimed {parse : StateParser → CanFrame → Option StateParser}
    (untimed : Untimed parse) (parser : StateParser) (frame : CanFrame) (onBus : Bool)
    (size : UInt8) (hasCrc : Bool) :
    untimedResult (parser.accept frame onBus size hasCrc parse) =
      untimedResult (parser.timeless.accept frame.untimed onBus size hasCrc parse) := by
  have parsed : untimedResult ((parse parser frame).map fun parsed => (parsed, true)) =
      untimedResult ((parse parser.timeless frame.untimed).map fun parsed => (parsed, true)) := by
    have same := congrArg (Option.map fun parser => (parser, true)) (untimed parser frame)
    simp only [untimedResult, Option.map_map] at same ⊢
    exact same
  unfold accept
  rw [checksumValid_untimed, show frame.untimed.size = frame.size from rfl]
  split
  · rfl
  · split
    · cases frame.checksumValid with
      | none => rfl
      | some valid =>
          cases valid with
          | true => exact parsed
          | false => rfl
    · exact parsed

theorem ite_untimed {condition : Prop} [Decidable condition]
    {first second other another : Option (StateParser × Bool)}
    (yes : untimedResult first = untimedResult other)
    (no : untimedResult second = untimedResult another) :
    untimedResult (if condition then first else second) =
      untimedResult (if condition then other else another) := by
  split
  · exact yes
  · exact no

theorem dispatch_untimed (parser : StateParser) (frame : CanFrame) (onEcan onCamera : Bool) :
    untimedResult (parser.dispatch frame onEcan onCamera) =
      untimedResult (parser.timeless.dispatch frame.untimed onEcan onCamera) := by
  have still : untimedResult (some (parser, false)) =
      untimedResult (some (parser.timeless, false)) := rfl
  unfold dispatch
  rw [show frame.untimed.address = frame.address from rfl,
    show parser.timeless.alternateButtons = parser.alternateButtons from rfl]
  apply ite_untimed (accept_untimed parseDynamics_untimed ..)
  apply ite_untimed (accept_untimed parseDynamics_untimed ..)
  apply ite_untimed (accept_untimed parseSteering_untimed ..)
  apply ite_untimed (accept_untimed parseMdps_untimed ..)
  apply ite_untimed (accept_untimed parseWheelSpeeds_untimed ..)
  apply ite_untimed (accept_untimed parseTcs_untimed ..)
  apply ite_untimed (accept_untimed parseAccelerator_untimed ..)
  apply ite_untimed (ite_untimed still (accept_untimed (parseButtons_untimed false) ..))
  apply ite_untimed (ite_untimed still (accept_untimed (parseButtons_untimed true) ..))
  exact ite_untimed (accept_untimed parseScc_untimed ..) still

theorem update_untimed (parser : StateParser) (frame : BusFrame) :
    untimedResult (parser.update frame) = untimedResult (parser.timeless.update frame.untimed) := by
  unfold update
  rw [show frame.untimed.rejected = frame.rejected from rfl,
    show frame.untimed.returned = frame.returned from rfl,
    show frame.untimed.bus = frame.bus from rfl,
    show parser.timeless.ecanBus = parser.ecanBus from rfl,
    show parser.timeless.useCameraBus = parser.useCameraBus from rfl,
    show parser.timeless.cameraBus = parser.cameraBus from rfl]
  dsimp only
  split
  · rfl
  split
  · rfl
  · exact dispatch_untimed parser frame.toCanFrame _ _

end StateParser

/-! ## observe_control_frame -/

section Observed
variable (ecanBus : UInt8) (frames : ControlFrames) (frame : BusFrame)

@[simp] theorem map_untimed_untimed (stock : Option BusFrame) :
    (stock.map BusFrame.untimed).map BusFrame.untimed = stock.map BusFrame.untimed := by
  cases stock <;> rfl

@[simp] theorem untimed_untimed : frame.untimed.untimed = frame.untimed := rfl

theorem observeResponse_untimed :
    (observeResponse frames frame).timeless =
      (observeResponse frames.timeless frame.untimed).timeless := by
  unfold observeResponse
  rw [show frame.untimed.size = frame.size from rfl,
    show frame.untimed.address = frame.address from rfl,
    show frame.untimed.data = frame.data from rfl]
  split
  · simp [ControlFrames.timeless, -Option.map_map]
  · dsimp only
    split
    · simp [ControlFrames.timeless, -Option.map_map]
    · simp [ControlFrames.timeless, -Option.map_map]

theorem observe_untimed :
    (observeControlFrame ecanBus frames frame).timeless =
      (observeControlFrame ecanBus frames.timeless frame.untimed).timeless := by
  cases inside : fromBus ecanBus frame with
  | false =>
      have outside : fromBus ecanBus frame.untimed = false := inside
      rw [observe_outside inside, observe_outside outside]
      simp only [ControlFrames.timeless, map_untimed_untimed]
      rfl
  | true =>
      have within : fromBus ecanBus frame.untimed = true := inside
      rw [observe_inside inside, observe_inside within,
        show stockFrame ecanBus .camera frame.untimed = stockFrame ecanBus .camera frame from rfl,
        show stockFrame ecanBus .radar frame.untimed = stockFrame ecanBus .radar frame from rfl]
      split
      · simp [ControlFrames.timeless, -Option.map_map]
      split
      · simp [ControlFrames.timeless]
      · exact observeResponse_untimed frames frame

end Observed

/-! ## receive_loop -/

/-- What the receive thread keeps of the bytes and of the frames. -/
structure ReceiveMembers where
  carry : List UInt8 := []
  frames : ControlFrames := {}
  parser : StateParser := {}

namespace ReceiveMembers

/-- What is known but for the times; the undecoded bytes are not known yet. -/
def known (members : ReceiveMembers) : ControlFrames × StateParser :=
  (members.frames.timeless, members.parser.timeless)

end ReceiveMembers

section Receive
variable (libusbErrorName : Int → String) (ecanBus : UInt8)

/-- One frame of the loop; `none` is an exception. -/
def takeFrame (members : ReceiveMembers) (frame : BusFrame) : Option ReceiveMembers :=
  (members.parser.update frame).map fun updated =>
    { members with
      frames := observeControlFrame ecanBus members.frames frame
      parser := updated.1 }

def takeFrames (members : ReceiveMembers) (frames : List BusFrame) : Option ReceiveMembers :=
  frames.foldlM (takeFrame ecanBus) members

/-- A round of `receive_loop` that reads; an exception ends in the disconnection. -/
def receiveRound (members : ReceiveMembers) (read : BulkRead) : Option ReceiveMembers :=
  match decodeBulkRead libusbErrorName members.carry read with
  | (_, .error _) => none
  | (rest, .ok frames) => takeFrames ecanBus { members with carry := rest } frames

def receiveRounds (members : ReceiveMembers) (reads : List BulkRead) : Option ReceiveMembers :=
  reads.foldlM (receiveRound libusbErrorName ecanBus) members

end Receive

/-! ## No frame throws -/

namespace StateParser

theorem ite_total {Value : Type} {condition : Prop} [Decidable condition]
    {first second : Option Value} (yes : ∃ value, first = some value)
    (no : ∃ value, second = some value) :
    ∃ value, (if condition then first else second) = some value := by
  split
  · exact yes
  · exact no

theorem dispatch_camera (parser : StateParser) (frame : CanFrame) :
    ∃ updated, parser.dispatch frame false true = some updated := by
  have elsewhere (size : UInt8) (hasCrc : Bool)
      (parse : StateParser → CanFrame → Option StateParser) :
      ∃ updated, parser.accept frame false size hasCrc parse = some updated := ⟨_, rfl⟩
  unfold dispatch
  apply ite_total (elsewhere ..)
  apply ite_total (elsewhere ..)
  apply ite_total (elsewhere ..)
  apply ite_total (elsewhere ..)
  apply ite_total (elsewhere ..)
  apply ite_total (elsewhere ..)
  apply ite_total (elsewhere ..)
  apply ite_total (ite_total ⟨_, rfl⟩ (elsewhere ..))
  apply ite_total (ite_total ⟨_, rfl⟩ (elsewhere ..))
  refine ite_total ?_ ⟨_, rfl⟩
  obtain ⟨after, read, accepts, _⟩ := @accept_parsed parser frame 32 true _ none
    fun parser => parser.parseScc_parsed frame
  exact ⟨_, accepts⟩

theorem update_total (parser : StateParser) (frame : BusFrame) :
    ∃ updated, parser.update frame = some updated := by
  unfold update
  refine ite_total ⟨_, rfl⟩ ?_
  cases onEcan : frame.bus == parser.ecanBus with
  | true =>
      obtain ⟨after, read, dispatches, _⟩ := parser.dispatch_parsed frame.toCanFrame
      cases parser.useCameraBus && frame.bus == parser.cameraBus with
      | true => exact ⟨_, dispatches⟩
      | false => exact ⟨_, dispatches⟩
  | false =>
      cases parser.useCameraBus && frame.bus == parser.cameraBus with
      | true => exact parser.dispatch_camera frame.toCanFrame
      | false => exact ⟨_, rfl⟩

end StateParser

/-! ## Frames that differ in their times -/

section Same
variable {libusbErrorName : Int → String} {ecanBus : UInt8} {members other : ReceiveMembers}

theorem takeFrame_known {frame same : BusFrame} (agree : members.known = other.known)
    (content : frame.untimed = same.untimed) :
    (takeFrame ecanBus members frame).map ReceiveMembers.known =
      (takeFrame ecanBus other same).map ReceiveMembers.known := by
  obtain ⟨frames, parser⟩ := Prod.mk.inj agree
  have observed : (observeControlFrame ecanBus members.frames frame).timeless =
      (observeControlFrame ecanBus other.frames same).timeless := by
    rw [observe_untimed, frames, content, ← observe_untimed]
  have updated := members.parser.update_untimed frame
  rw [parser, content, ← StateParser.update_untimed] at updated
  obtain ⟨first, isFirst⟩ := members.parser.update_total frame
  obtain ⟨second, isSecond⟩ := other.parser.update_total same
  rw [isFirst, isSecond] at updated
  simp only [takeFrame, isFirst, isSecond, Option.map_some, ReceiveMembers.known, observed,
    (Prod.mk.inj (Option.some.inj updated)).1]

theorem takeFrame_some (frame : BusFrame) :
    ∃ left, takeFrame ecanBus members frame = some left ∧ left.carry = members.carry := by
  obtain ⟨updated, isUpdated⟩ := members.parser.update_total frame
  refine ⟨{ members with
    frames := observeControlFrame ecanBus members.frames frame, parser := updated.1 }, ?_, rfl⟩
  rw [takeFrame, isUpdated]
  rfl

theorem takeFrames_some (frames : List BusFrame) : ∀ members,
    ∃ left, takeFrames ecanBus members frames = some left ∧ left.carry = members.carry := by
  induction frames with
  | nil => intro members; exact ⟨members, rfl, rfl⟩
  | cons frame rest ih =>
      intro members
      obtain ⟨first, taken, kept⟩ := @takeFrame_some ecanBus members frame
      obtain ⟨left, later, still⟩ := ih first
      refine ⟨left, ?_, still.trans kept⟩
      simp only [takeFrames, List.foldlM_cons, taken, Option.bind_eq_bind, Option.bind_some]
      exact later

theorem takeFrames_known (frames : List BusFrame) : ∀ (same : List BusFrame) members other,
    ReceiveMembers.known members = ReceiveMembers.known other →
      frames.map BusFrame.untimed = same.map BusFrame.untimed →
        (takeFrames ecanBus members frames).map ReceiveMembers.known =
          (takeFrames ecanBus other same).map ReceiveMembers.known := by
  induction frames with
  | nil =>
      intro same members other agree contents
      have none : same = [] := by simpa using contents.symm
      subst none
      exact congrArg some agree
  | cons frame rest ih =>
      intro same members other agree contents
      cases same with
      | nil => simp at contents
      | cons first later =>
          obtain ⟨content, contents⟩ := List.cons.inj contents
          obtain ⟨left, taken, _⟩ := @takeFrame_some ecanBus members frame
          obtain ⟨right, alsoTaken, _⟩ := @takeFrame_some ecanBus other first
          have known := @takeFrame_known ecanBus members other frame first agree content
          rw [taken, alsoTaken] at known
          simp only [takeFrames, List.foldlM_cons, taken, alsoTaken, Option.bind_eq_bind,
            Option.bind_some]
          exact ih later left right (Option.some.inj known) contents

theorem takeFrames_carry (carry : List UInt8) (frames : List BusFrame) : ∀ members,
    takeFrames ecanBus { members with carry := carry } frames =
      (takeFrames ecanBus members frames).map fun left => { left with carry := carry } := by
  induction frames with
  | nil => intro members; rfl
  | cons frame rest ih =>
      intro members
      obtain ⟨updated, isUpdated⟩ := members.parser.update_total frame
      simp only [takeFrames, List.foldlM_cons, takeFrame, isUpdated, Option.map_some,
        Option.bind_eq_bind, Option.bind_some]
      exact ih { members with
        frames := observeControlFrame ecanBus members.frames frame, parser := updated.1 }

theorem receiveRounds_decoded (reads : List BulkRead) : ∀ members {rest : List UInt8}
    {decoded : List BusFrame},
    decodeReads libusbErrorName (ReceiveMembers.carry members) reads = (rest, .ok decoded) →
      receiveRounds libusbErrorName ecanBus members reads =
        (takeFrames ecanBus members decoded).map fun left => { left with carry := rest } := by
  induction reads with
  | nil =>
      intro members rest decoded decodes
      cases decodes
      rfl
  | cons read reads ih =>
      intro members rest decoded decodes
      unfold decodeReads at decodes
      split at decodes
      · cases decodes
      rename_i mid frames first
      split at decodes
      · cases decodes
      rename_i last more others
      cases decodes
      obtain ⟨left, taken, kept⟩ := @takeFrames_some ecanBus frames members
      have round : receiveRound libusbErrorName ecanBus members read =
          some { left with carry := mid } := by
        rw [receiveRound, first]
        show takeFrames ecanBus { members with carry := mid } frames = _
        rw [takeFrames_carry, taken]
        rfl
      have later := ih { left with carry := mid } others
      rw [takeFrames_carry] at later
      simp only [receiveRounds, List.foldlM_cons, round, Option.bind_eq_bind, Option.bind_some]
        at later ⊢
      have both : takeFrames ecanBus members (frames ++ more) = takeFrames ecanBus left more := by
        unfold takeFrames at taken ⊢
        rw [List.foldlM_append, taken, Option.bind_eq_bind, Option.bind_some]
      rw [later, both, Option.map_map]
      rfl

end Same

/-- However the bytes of a stream of packets are cut into reads and whenever these are received: the
bytes so far are the first packets and a part of the next one, which is kept, and the node knows
what it had known if the frames of those packets were received one by one. -/
theorem received_state (libusbErrorName : Int → String) (ecanBus : UInt8) (start : ReceiveMembers)
    (packets : List (List UInt8)) (frames : List BusFrame) (reads : List BulkRead)
    (stream : List.Forall₂ IsPacket packets frames) (fresh : start.carry = [])
    (completes : ∀ read ∈ reads, read.Completes)
    (cut : (reads.map BulkRead.delivered).flatten <+: packets.flatten) :
    ∃ members count,
      receiveRounds libusbErrorName ecanBus start reads = some members ∧
        (reads.map BulkRead.delivered).flatten = (packets.take count).flatten ++ members.carry ∧
        Undecoded packets count members.carry ∧ count ≤ packets.length ∧
        (takeFrames ecanBus start (frames.take count)).map ReceiveMembers.known =
          some members.known := by
  have encodes : List.Forall₂ (Encodes scanPacket BusFrame.untimed) packets
      (frames.map BusFrame.untimed) := by
    rw [List.forall₂_map_right_iff]
    exact stream.imp fun _ _ isPacket => isPacket.encodes
  have nothing : Undecoded packets 0 start.carry := by
    rw [fresh]
    refine ⟨List.nil_prefix, fun next isNext => ?_⟩
    cases stream with
    | nil => cases isNext
    | cons first _ =>
        cases isNext
        exact first.encodes.nonempty
  have delivered : (reads.map fun read => (read.receivedAt, read.delivered)).map Prod.snd =
      reads.map BulkRead.delivered := by simp
  obtain ⟨decoded, rest, count, fed, viewed, split, most, undecoded⟩ :=
    feed_starts scanPacket_waits (reads.map fun read => (read.receivedAt, read.delivered)) packets
      (frames.map BusFrame.untimed) start.carry encodes nothing (by rw [delivered, fresh]; exact cut)
  rw [delivered, fresh, List.nil_append] at split
  obtain ⟨left, taken, _⟩ := @takeFrames_some ecanBus decoded start
  have rounds := @receiveRounds_decoded libusbErrorName ecanBus reads start rest decoded
    (decodeReads_feed completes fed)
  rw [taken] at rounds
  refine ⟨{ left with carry := rest }, count, rounds, split, undecoded, most, ?_⟩
  have known := @takeFrames_known ecanBus decoded (frames.take count) start start rfl
    (by rw [viewed, List.map_take])
  rw [taken] at known
  exact known.symm

/-- The stock LFA packet of the protocol test in two reads, the second one a timeout. -/
theorem lfa_received_in_two :
    ∃ members count,
      receiveRounds (fun _ => "") 0 {} [
          { bytes := lfaPacket.take 3, status := 0, transferred := 3, receivedAt := 1 },
          { bytes := lfaPacket.drop 3, status := libusbErrorTimeout, transferred := 19,
            receivedAt := 2 }] = some members ∧
        lfaPacket.take 3 ++ lfaPacket.drop 3 = ([lfaPacket].take count).flatten ++ members.carry ∧
        Undecoded [lfaPacket] count members.carry ∧ count ≤ 1 ∧
        (takeFrames 0 {} ([frameAt 0 16 lfaPacket].take count)).map ReceiveMembers.known =
          some members.known := by
  refine received_state (fun _ => "") 0 {} [lfaPacket] [frameAt 0 16 lfaPacket] [
    { bytes := lfaPacket.take 3, status := 0, transferred := 3, receivedAt := 1 },
    { bytes := lfaPacket.drop 3, status := libusbErrorTimeout, transferred := 19, receivedAt := 2 }]
    (.cons ?_ .nil) rfl ?_ (by decide)
  · rfl
  · simp only [List.forall_mem_cons]
    exact ⟨⟨Or.inl rfl, by decide⟩, ⟨Or.inr rfl, by decide⟩, by simp⟩

end Ioniq5Ecan
