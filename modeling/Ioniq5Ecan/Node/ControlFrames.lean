import Ioniq5Ecan.Node.RestoreOutcome
import Ioniq5Ecan.Vehicle.Codec

/-! # Frames the receive thread keeps for the control thread

`observe_control_frame`: the address of the last rejected frame, the counts of
the stock LFA and SCC frames, the newest stock SCC frame, and the answer to a
pending UDS request.  What a list of frames leaves of each is said by the
frames alone, so that the other thread can be reasoned about between any two of
its own accesses. -/
set_option autoImplicit false
namespace Ioniq5Ecan.Ecus

def kCameraRequestAddress : UInt32 := 0x730
def kCameraResponseAddress : UInt32 := 0x738
def kRadarRequestAddress : UInt32 := 0x7D0
def kRadarResponseAddress : UInt32 := 0x7D8
def kStockSccTimeout : Milliseconds := 500

/-- `uds_waiting_`, `uds_response_address_` and `uds_response_`. -/
structure UdsSlot where
  waiting : Bool := false
  responseAddress : UInt32 := 0
  response : List UInt8 := []
  deriving DecidableEq

/-- `latest_stock_scc_` is `none` until `have_stock_scc_` is set. -/
structure ControlFrames where
  lastRejectedAddress : UInt32 := 0
  stockLfaCount : UInt64 := 0
  stockSccCount : UInt64 := 0
  latestStockScc : Option BusFrame := none
  uds : UdsSlot := {}
  deriving DecidableEq

/-! ## One frame -/

section Frames
variable (ecanBus : UInt8)

/-- The end of `observe_control_frame`, under the UDS mutex. -/
def UdsSlot.offer (slot : UdsSlot) (address : UInt32) (payload : List UInt8) : UdsSlot :=
  if !slot.waiting || address != slot.responseAddress then slot
  else { slot with response := payload, waiting := false }

def observeResponse (frames : ControlFrames) (frame : BusFrame) : ControlFrames :=
  if frame.size != 8 ||
      (frame.address != kCameraResponseAddress && frame.address != kRadarResponseAddress) then
    frames
  else
    let first := frame.data.getD 0 0
    let payloadSize := first &&& 0x0F
    if first &&& 0xF0 != 0 || payloadSize == 0 || decide (7 < payloadSize) then frames
    else
      { frames with
        uds := frames.uds.offer frame.address
          ((frame.data.toList.drop 1).take payloadSize.toNat) }

def observeControlFrame (frames : ControlFrames) (frame : BusFrame) : ControlFrames :=
  if frame.rejected then { frames with lastRejectedAddress := frame.address }
  else if frame.returned || frame.bus != ecanBus then frames
  else if frame.address == lfaAddress then
    if frame.size != 16 || frame.checksumValid != some true then frames
    else observeResponse { frames with stockLfaCount := frames.stockLfaCount + 1 } frame
  else if frame.address == sccControlAddress then
    if frame.size != 32 || frame.checksumValid != some true then frames
    else
      observeResponse
        { frames with
          stockSccCount := frames.stockSccCount + 1
          latestStockScc := some frame }
        frame
  else observeResponse frames frame

def observeAll (frames : ControlFrames) (received : List BusFrame) : ControlFrames :=
  received.foldl (observeControlFrame ecanBus) frames

/-! ## What a frame is -/

/-- The frame of a bus member, not the echo or the refusal of one the host sent. -/
def fromBus (frame : BusFrame) : Bool :=
  !frame.rejected && !frame.returned && frame.bus == ecanBus

def stockFrame (ecu : EcuId) (frame : BusFrame) : Bool :=
  fromBus ecanBus frame && frame.checksumValid == some true &&
    match ecu with
    | .camera => frame.address == lfaAddress && frame.size == 16
    | .radar => frame.address == sccControlAddress && frame.size == 32

def ecuResponseAddress : EcuId → UInt32
  | .camera => kCameraResponseAddress
  | .radar => kRadarResponseAddress

def ownedAddress : EcuId → UInt32
  | .camera => lfaAddress
  | .radar => sccControlAddress

def answerPayload (address : UInt32) (frame : BusFrame) : Option (List UInt8) :=
  let first := frame.data.getD 0 0
  if fromBus ecanBus frame && frame.address == address && frame.size == 8 &&
      !(first &&& 0xF0 != 0 || first &&& 0x0F == 0 || decide (7 < first &&& 0x0F)) then
    some ((frame.data.toList.drop 1).take (first &&& 0x0F).toNat)
  else none

def firstAnswer (address : UInt32) (received : List BusFrame) : Option (List UInt8) :=
  (received.filterMap (answerPayload ecanBus address)).head?

end Frames

def ControlFrames.count (frames : ControlFrames) : EcuId → UInt64
  | .camera => frames.stockLfaCount
  | .radar => frames.stockSccCount

/-! ## One frame, by what it is -/

section Observe
variable {ecanBus : UInt8} {frames : ControlFrames} {frame : BusFrame}

theorem observeResponse_other (other : ∀ ecu, frame.address ≠ ecuResponseAddress ecu) :
    observeResponse frames frame = frames := by
  unfold observeResponse
  rw [if_pos]
  simp only [Bool.or_eq_true, Bool.and_eq_true, bne_iff_ne]
  exact .inr ⟨other .camera, other .radar⟩

theorem observe_outside (outside : fromBus ecanBus frame = false) :
    observeControlFrame ecanBus frames frame = { frames with
      lastRejectedAddress :=
        if frame.rejected then frame.address else frames.lastRejectedAddress } := by
  unfold observeControlFrame
  unfold fromBus at outside
  cases rejected : frame.rejected with
  | true => rfl
  | false =>
      have other : (frame.returned || frame.bus != ecanBus) = true := by
        simpa [rejected, bne, Bool.or_eq_true, imp_iff_not_or] using outside
      simp [other]

theorem observe_inside (inside : fromBus ecanBus frame = true) :
    observeControlFrame ecanBus frames frame =
      if stockFrame ecanBus .camera frame then
        { frames with stockLfaCount := frames.stockLfaCount + 1 }
      else if stockFrame ecanBus .radar frame then
        { frames with
          stockSccCount := frames.stockSccCount + 1
          latestStockScc := some frame }
      else observeResponse frames frame := by
  have parts := inside
  simp only [fromBus, Bool.and_eq_true, Bool.not_eq_true', beq_iff_eq] at parts
  obtain ⟨⟨rejected, returned⟩, bus⟩ := parts
  have owned : frame.address = lfaAddress ∨ frame.address = sccControlAddress →
      ∀ frames, observeResponse frames frame = frames := by
    intro isOwned frames
    apply observeResponse_other
    intro ecu
    rcases isOwned with isLfa | isScc
    · rw [isLfa]
      cases ecu <;> decide
    · rw [isScc]
      cases ecu <;> decide
  simp only [observeControlFrame, rejected, returned, bus, stockFrame, inside, Bool.true_and]
  have other : lfaAddress ≠ sccControlAddress := by decide
  by_cases lfa : frame.address = lfaAddress
  · by_cases valid : frame.size = 16 ∧ frame.checksumValid = some true
    · simp [owned (.inl lfa), lfa, valid.1, valid.2]
    · rcases not_and_or.mp valid with no | no <;> simp [owned (.inl lfa), lfa, other, no]
  · by_cases scc : frame.address = sccControlAddress
    · by_cases valid : frame.size = 32 ∧ frame.checksumValid = some true
      · simp [owned (.inr scc), scc, other.symm, valid.1, valid.2]
      · rcases not_and_or.mp valid with no | no <;> simp [owned (.inr scc), scc, other.symm, no]
    · simp [lfa, scc]

theorem stock_camera_radar (stock : stockFrame ecanBus .camera frame = true) :
    stockFrame ecanBus .radar frame = false := by
  simp only [stockFrame, Bool.and_eq_true, beq_iff_eq] at stock
  simp [stockFrame, stock.2.1, lfaAddress, sccControlAddress]

theorem observeResponse_count (ecu : EcuId) :
    (observeResponse frames frame).count ecu = frames.count ecu := by
  unfold observeResponse
  dsimp only
  split
  · rfl
  · split
    · rfl
    · cases ecu <;> rfl

theorem observeResponse_template :
    (observeResponse frames frame).latestStockScc = frames.latestStockScc := by
  unfold observeResponse
  dsimp only
  split
  · rfl
  · split <;> rfl

theorem observe_count (ecu : EcuId) :
    (observeControlFrame ecanBus frames frame).count ecu =
      if stockFrame ecanBus ecu frame then frames.count ecu + 1 else frames.count ecu := by
  cases inside : fromBus ecanBus frame with
  | false =>
      have never : stockFrame ecanBus ecu frame = false := by simp [stockFrame, inside]
      rw [observe_outside inside, never]
      cases ecu <;> rfl
  | true =>
      rw [observe_inside inside]
      cases camera : stockFrame ecanBus .camera frame with
      | true => cases ecu <;> simp [camera, stock_camera_radar camera, ControlFrames.count]
      | false =>
          cases radar : stockFrame ecanBus .radar frame with
          | true => cases ecu <;> simp [camera, radar, ControlFrames.count]
          | false => cases ecu <;> simp [camera, radar, observeResponse_count]

theorem observe_template :
    (observeControlFrame ecanBus frames frame).latestStockScc =
      if stockFrame ecanBus .radar frame then some frame else frames.latestStockScc := by
  cases inside : fromBus ecanBus frame with
  | false =>
      have never : stockFrame ecanBus .radar frame = false := by simp [stockFrame, inside]
      rw [observe_outside inside, never]
      rfl
  | true =>
      rw [observe_inside inside]
      cases camera : stockFrame ecanBus .camera frame with
      | true => simp [stock_camera_radar camera]
      | false =>
          cases radar : stockFrame ecanBus .radar frame <;> simp [observeResponse_template]

/-! ## The pending answer -/

/-- A slot that waits, waits for one of the two ECUs. -/
def UdsSlot.Addressed (slot : UdsSlot) : Prop :=
  slot.waiting = true → ∃ ecu, slot.responseAddress = ecuResponseAddress ecu

/-- The slot after a frame: an answer from the expected address fills it. -/
def UdsSlot.after (ecanBus : UInt8) (slot : UdsSlot) (frame : BusFrame) : UdsSlot :=
  match slot.waiting, answerPayload ecanBus slot.responseAddress frame with
  | true, some payload => { slot with response := payload, waiting := false }
  | _, _ => slot

theorem stock_address {owner : EcuId} (stock : stockFrame ecanBus owner frame = true) :
    frame.address = ownedAddress owner := by
  have parts := (Bool.and_eq_true_iff.mp stock).2
  cases owner with
  | camera => exact beq_iff_eq.mp (Bool.and_eq_true_iff.mp parts).1
  | radar => exact beq_iff_eq.mp (Bool.and_eq_true_iff.mp parts).1

theorem answer_not_stock {ecu owner : EcuId} (stock : stockFrame ecanBus owner frame = true) :
    answerPayload ecanBus (ecuResponseAddress ecu) frame = none := by
  have other : ownedAddress owner ≠ ecuResponseAddress ecu := by
    cases owner <;> cases ecu <;> decide
  simp [answerPayload, stock_address stock, other]

theorem UdsSlot.after_silent {slot : UdsSlot}
    (silent : slot.waiting = true → answerPayload ecanBus slot.responseAddress frame = none) :
    slot.after ecanBus frame = slot := by
  unfold UdsSlot.after
  cases waiting : slot.waiting with
  | false => rfl
  | true => rw [silent waiting]

theorem observeResponse_uds (inside : fromBus ecanBus frame = true)
    (addressed : frames.uds.Addressed) :
    (observeResponse frames frame).uds = frames.uds.after ecanBus frame := by
  unfold observeResponse UdsSlot.after UdsSlot.offer
  cases waiting : frames.uds.waiting with
  | false =>
      dsimp only
      split
      · rfl
      · split <;> rfl
  | true =>
      obtain ⟨ecu, address⟩ := addressed waiting
      rw [address]
      by_cases same : frame.address = ecuResponseAddress ecu
      · have known : (ecuResponseAddress ecu != kCameraResponseAddress &&
            ecuResponseAddress ecu != kRadarResponseAddress) = false := by
          cases ecu <;> rfl
        simp only [known, Bool.or_false, answerPayload, inside, same, beq_self_eq_true,
          Bool.true_and]
        by_cases sized : frame.size = 8
        · simp only [sized, bne_self_eq_false, Bool.false_eq_true, if_false, beq_self_eq_true,
            Bool.true_and, Bool.not_true, Bool.or_self]
          cases bad : (frame.data.getD 0 0 &&& 240 != 0 || frame.data.getD 0 0 &&& 15 == 0 ||
            decide (7 < frame.data.getD 0 0 &&& 15)) <;> simp
        · simp [sized]
      · have silent : answerPayload ecanBus (ecuResponseAddress ecu) frame = none := by
          simp [answerPayload, same]
        rw [silent]
        dsimp only
        split
        · rfl
        · split
          · rfl
          · simp [same]

theorem observe_uds (addressed : frames.uds.Addressed) :
    (observeControlFrame ecanBus frames frame).uds = frames.uds.after ecanBus frame := by
  cases inside : fromBus ecanBus frame with
  | false =>
      rw [observe_outside inside, UdsSlot.after_silent]
      intro _
      simp [answerPayload, inside]
  | true =>
      have stays : ∀ owner, stockFrame ecanBus owner frame = true →
          frames.uds.after ecanBus frame = frames.uds := by
        intro owner stock
        apply UdsSlot.after_silent
        intro waiting
        obtain ⟨ecu, address⟩ := addressed waiting
        rw [address]
        exact answer_not_stock stock
      rw [observe_inside inside]
      split
      · rename_i stock
        exact (stays .camera stock).symm
      · split
        · rename_i stock
          exact (stays .radar stock).symm
        · exact observeResponse_uds inside addressed

theorem UdsSlot.Addressed.after {slot : UdsSlot} (addressed : slot.Addressed) :
    (slot.after ecanBus frame).Addressed := by
  unfold UdsSlot.after
  split
  · intro waiting
    cases waiting
  · exact addressed

end Observe

/-! ## A list of frames -/

section Lists
variable {ecanBus : UInt8}

theorem observeAll_count (ecu : EcuId) (received : List BusFrame) :
    ∀ frames, (observeAll ecanBus frames received).count ecu =
      frames.count ecu + UInt64.ofNat (received.countP (stockFrame ecanBus ecu)) := by
  induction received with
  | nil => intro frames; simp [observeAll]
  | cons frame rest ih =>
      intro frames
      rw [observeAll, List.foldl_cons]
      rw [show rest.foldl (observeControlFrame ecanBus) (observeControlFrame ecanBus frames frame) =
        observeAll ecanBus (observeControlFrame ecanBus frames frame) rest from rfl, ih,
        observe_count, List.countP_cons]
      cases stock : stockFrame ecanBus ecu frame with
      | false => simp
      | true =>
          rw [if_pos rfl, if_pos rfl, UInt64.ofNat_add, UInt64.add_assoc]
          congr 1
          exact UInt64.add_comm _ _

theorem observeAll_template (received : List BusFrame) :
    ∀ frames, (observeAll ecanBus frames received).latestStockScc =
      ((received.filter (stockFrame ecanBus .radar)).getLast?).or frames.latestStockScc := by
  induction received with
  | nil => intro frames; rfl
  | cons frame rest ih =>
      intro frames
      rw [observeAll, List.foldl_cons]
      rw [show rest.foldl (observeControlFrame ecanBus) (observeControlFrame ecanBus frames frame) =
        observeAll ecanBus (observeControlFrame ecanBus frames frame) rest from rfl, ih,
        observe_template]
      cases stock : stockFrame ecanBus .radar frame with
      | false => simp [stock]
      | true =>
          rw [List.filter_cons_of_pos stock, List.getLast?_cons]
          cases (rest.filter (stockFrame ecanBus .radar)).getLast? <;> rfl

theorem observeAll_uds (received : List BusFrame) :
    ∀ frames : ControlFrames, frames.uds.Addressed →
      (observeAll ecanBus frames received).uds = received.foldl (UdsSlot.after ecanBus) frames.uds := by
  induction received with
  | nil => intro frames _; rfl
  | cons frame rest ih =>
      intro frames addressed
      have kept : (observeControlFrame ecanBus frames frame).uds.Addressed := by
        rw [observe_uds addressed]
        exact addressed.after
      rw [observeAll, List.foldl_cons, List.foldl_cons, ← observe_uds addressed]
      exact ih _ kept

theorem after_full (received : List BusFrame) :
    ∀ slot : UdsSlot, slot.waiting = false → received.foldl (UdsSlot.after ecanBus) slot = slot := by
  induction received with
  | nil => intro slot _; rfl
  | cons frame rest ih =>
      intro slot full
      have same : slot.after ecanBus frame = slot := by simp [UdsSlot.after, full]
      rw [List.foldl_cons, same]
      exact ih slot full

theorem after_waiting (received : List BusFrame) :
    ∀ slot : UdsSlot, slot.waiting = true →
      received.foldl (UdsSlot.after ecanBus) slot =
        match firstAnswer ecanBus slot.responseAddress received with
        | some payload => { slot with response := payload, waiting := false }
        | none => slot := by
  induction received with
  | nil => intro slot _; rfl
  | cons frame rest ih =>
      intro slot waiting
      rw [List.foldl_cons]
      cases answer : answerPayload ecanBus slot.responseAddress frame with
      | none =>
          have same : slot.after ecanBus frame = slot := by simp [UdsSlot.after, answer]
          rw [same, ih slot waiting, firstAnswer, firstAnswer, List.filterMap_cons_none answer]
      | some payload =>
          have filled : slot.after ecanBus frame =
              { slot with response := payload, waiting := false } := by
            simp [UdsSlot.after, waiting, answer]
          rw [filled, after_full rest _ rfl, firstAnswer, List.filterMap_cons_some answer]
          rfl

theorem answer_nonempty {address : UInt32} {frame : BusFrame} {payload : List UInt8}
    (answers : answerPayload ecanBus address frame = some payload) : payload ≠ [] := by
  unfold answerPayload at answers
  dsimp only at answers
  split at answers
  · rename_i accepted
    rw [Bool.and_eq_true_iff] at accepted
    have positive : frame.data.getD 0 0 &&& 15 ≠ 0 := by
      have good := accepted.2
      simp only [Bool.not_eq_true', Bool.or_eq_false_iff, beq_eq_false_iff_ne] at good
      exact good.1.2
    have size : 0 < (frame.data.getD 0 0 &&& 15).toNat :=
      Nat.pos_of_ne_zero fun zero => positive (UInt8.toNat_inj.mp zero)
    intro empty
    have length := congrArg List.length (Option.some.inj answers)
    rw [empty, List.length_take, List.length_drop, Vector.length_toList, List.length_nil] at length
    omega
  · cases answers

theorem firstAnswer_nonempty {address : UInt32} {received : List BusFrame} {payload : List UInt8}
    (answers : firstAnswer ecanBus address received = some payload) : payload ≠ [] := by
  have member := List.mem_of_mem_head? (Option.mem_def.mpr answers)
  obtain ⟨frame, _, answered⟩ := List.mem_filterMap.mp member
  exact answer_nonempty answered

end Lists
end Ioniq5Ecan.Ecus
