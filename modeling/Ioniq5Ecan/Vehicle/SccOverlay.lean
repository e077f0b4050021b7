import Ioniq5Ecan.Vehicle.Codec
import Ioniq5Ecan.Library.Runs

/-! # The SCC_CONTROL overlay

`make_scc_control` over any stock template: what the signals decode to, which
bits stay the template's, and how the counter runs on between two templates. -/
set_option autoImplicit false
namespace Ioniq5Ecan

open Library (CallMachine Double)

/-! ## Rounding -/

/-- `raw` steps of `factor` above `offset` are `value` rounded, halves upwards. -/
structure RoundsTo (raw : Nat) (value factor offset : Rat) : Prop where
  floor : (raw : Int) = ⌊(value - offset) / factor + 1 / 2⌋
  nearest : |offset + raw * factor - value| ≤ factor / 2

theorem clamp_mem {value lower upper : Rat} (ordered : lower ≤ upper) :
    lower ≤ clamp value lower upper ∧ clamp value lower upper ≤ upper := by
  unfold clamp
  split_ifs with below above
  · exact ⟨le_refl _, ordered⟩
  · exact ⟨ordered, le_refl _⟩
  · exact ⟨not_lt.mp below, not_lt.mp above⟩

theorem physicalToRaw_rounds {value factor offset : Rat} {bits : Nat} (positive : 0 < factor)
    (word : bits ≤ 64) (low : offset ≤ value) (high : value ≤ offset + (2 ^ bits - 1) * factor) :
    (physicalToRaw value factor offset bits).toNat < 2 ^ bits ∧
      RoundsTo (physicalToRaw value factor offset bits).toNat value factor offset := by
  have steps : 0 ≤ (value - offset) / factor := div_nonneg (sub_nonneg.mpr low) positive.le
  have most : (value - offset) / factor ≤ 2 ^ bits - 1 := by
    rw [div_le_iff₀ positive]
    linarith
  generalize scaled : (value - offset) / factor = step at steps most
  have lower : 0 ≤ ⌊step + 1 / 2⌋ := Int.floor_nonneg.mpr (by linarith)
  have upper : ⌊step + 1 / 2⌋ ≤ 2 ^ bits - 1 := by
    have below : ⌊step + 1 / 2⌋ < 2 ^ bits := by
      rw [Int.floor_lt]
      push_cast
      linarith
    omega
  have raw : ((physicalToRaw value factor offset bits).toNat : Int) = ⌊step + 1 / 2⌋ := by
    have size : (2 : Nat) ^ bits ≤ 2 ^ 64 := Nat.pow_le_pow_right (by decide) word
    have power : ((2 ^ bits : Nat) : Int) = 2 ^ bits := by push_cast; rfl
    rw [physicalToRaw, scaled, UInt64.toNat_ofNat']
    simp only [min_eq_left upper, max_eq_right lower]
    have small : ⌊step + 1 / 2⌋.toNat < 2 ^ 64 := by omega
    rw [Nat.mod_eq_of_lt small, Int.toNat_of_nonneg lower]
  refine ⟨?_, ⟨by rw [raw, scaled], ?_⟩⟩
  · have power : ((2 ^ bits : Nat) : Int) = 2 ^ bits := by push_cast; rfl
    omega
  · have floorLow : (⌊step + 1 / 2⌋ : Rat) ≤ step + 1 / 2 := Int.floor_le _
    have floorHigh : step + 1 / 2 < ⌊step + 1 / 2⌋ + 1 := Int.lt_floor_add_one _
    have cast : ((physicalToRaw value factor offset bits).toNat : Rat) = (⌊step + 1 / 2⌋ : Int) := by
      exact_mod_cast congrArg (Int.cast : Int → Rat) raw
    have whole : value = offset + step * factor := by
      rw [← scaled, div_mul_cancel₀ _ positive.ne']
      ring
    rw [cast, whole]
    have difference : offset + (⌊step + 1 / 2⌋ : Rat) * factor - (offset + step * factor) =
        ((⌊step + 1 / 2⌋ : Rat) - step) * factor := by ring
    rw [difference, abs_mul, abs_of_pos positive]
    have half : |(⌊step + 1 / 2⌋ : Rat) - step| ≤ 1 / 2 := abs_le.mpr ⟨by linarith, by linarith⟩
    calc |(⌊step + 1 / 2⌋ : Rat) - step| * factor ≤ 1 / 2 * factor :=
          mul_le_mul_of_nonneg_right half positive.le
      _ = factor / 2 := by ring

/-! ## One frame -/

/-- The signals of SCC_CONTROL that the node owns, the counter first. -/
def sccSignals : List (Nat × Nat × ByteOrder) :=
  [(16, 8, .littleEndian), (24, 11, .littleEndian), (45, 2, .bigEndian), (46, 1, .bigEndian),
    (55, 8, .bigEndian), (66, 1, .littleEndian), (68, 3, .littleEndian), (76, 1, .littleEndian),
    (88, 3, .littleEndian), (103, 8, .bigEndian), (105, 3, .littleEndian),
    (128, 11, .littleEndian), (140, 11, .littleEndian), (158, 7, .bigEndian),
    (166, 7, .bigEndian), (176, 3, .littleEndian), (184, 1, .bigEndian)]

def sccOwnedBits : List Nat :=
  sccSignals.flatMap fun (startBit, bitLength, order) => signalBits order startBit bitLength

/-- The owned signals that are always the same. -/
def sccConstants : List (Nat × Nat × ByteOrder × Nat) :=
  [(24, 11, .littleEndian, 10), (45, 2, .bigEndian, 3), (46, 1, .bigEndian, 0),
    (55, 8, .bigEndian, 0x64), (66, 1, .littleEndian, 1), (88, 3, .littleEndian, 4),
    (105, 3, .littleEndian, 4), (176, 3, .littleEndian, 2)]

/-- `make_scc_control` on finite values. -/
structure SccTarget where
  accelRaw : Rat
  accelValue : Rat
  enabled : Bool
  stopping : Bool
  gasOverride : Bool
  setSpeed : Rat
  jerk : Rat
  bus : UInt8

def SccTarget.request (target : SccTarget) : SccRequest where
  accelRawMps2 := .finite target.accelRaw
  accelValueMps2 := .finite target.accelValue
  enabled := target.enabled
  stopping := target.stopping
  gasOverride := target.gasOverride
  setSpeedKph := .finite target.setSpeed
  jerkMps3 := .finite target.jerk
  bus := target.bus

def SccTarget.values (target : SccTarget) : SccValues where
  accelRaw := clamp target.accelRaw (-1023 / 100) (1024 / 100)
  accelValue := clamp target.accelValue (-1023 / 100) (1024 / 100)
  setSpeed := clamp target.setSpeed 0 255
  jerk := clamp target.jerk 0 (127 / 10)

/-- A signal decodes to a value that meets the condition. -/
def Decodes (frame : BusFrame) (order : ByteOrder) (startBit bitLength : Nat)
    (meets : Nat → Prop) : Prop :=
  ∃ raw, getSignalIn order frame.data startBit bitLength = some raw ∧ meets raw.toNat

structure SccOverlay (frame : BusFrame) (payload : Vector UInt8 32) (counter : UInt8)
    (target : SccTarget) : Prop where
  checksum : frame.checksumValid = some true
  counter : frame.data.getD 2 0 = counter
  accelRaw : Decodes frame .littleEndian 140 11
    (RoundsTo · (clamp target.accelRaw (-1023 / 100) (1024 / 100)) (1 / 100) (-1023 / 100))
  accelValue : Decodes frame .littleEndian 128 11
    (RoundsTo · (clamp target.accelValue (-1023 / 100) (1024 / 100)) (1 / 100) (-1023 / 100))
  setSpeed : Decodes frame .bigEndian 103 8 (RoundsTo · (clamp target.setSpeed 0 255) 1 0)
  jerkUpper : Decodes frame .bigEndian 158 7
    (RoundsTo · (if target.enabled then clamp target.jerk 0 (127 / 10) else 3) (1 / 10) 0)
  jerkLower : Decodes frame .bigEndian 166 7
    (RoundsTo · (if target.enabled then clamp target.jerk 0 (127 / 10) else 1) (1 / 10) 0)
  accMode : Decodes frame .littleEndian 68 3
    (· = if target.enabled then (if target.gasOverride then 2 else 1) else 0)
  stopRequest : Decodes frame .littleEndian 76 1 (· = target.stopping.toNat)
  stopSignal : Decodes frame .bigEndian 184 1 (· = target.stopping.toNat)
  constants : ∀ signal ∈ sccConstants,
    Decodes frame signal.2.2.1 signal.1 signal.2.1 (· = signal.2.2.2)
  unowned : ∀ bit, 16 ≤ bit → bit < 256 → bit ∉ sccOwnedBits →
    bitAt frame.data bit = bitAt payload bit

section Frame
variable {codec : HyundaiCanFdCodec} {request : SccRequest} {values : SccValues} {frame : BusFrame}
  {payload : Vector UInt8 32} {counter bus : UInt8}

theorem sccSignals_fit : ∀ signal ∈ sccSignals,
    SignalFits signal.2.2 signal.1 signal.2.1 32 := by
  decide +kernel

theorem scc_layout : (HyundaiCanFdCodec.sccWrites counter request values).map
    (fun write => (write.startBit, write.bitLength, write.order)) = sccSignals := rfl

theorem scc_fits : ∀ write ∈ HyundaiCanFdCodec.sccWrites counter request values,
    write.Fits 32 := by
  intro write member
  have listed : (write.startBit, write.bitLength, write.order) ∈ sccSignals := by
    rw [← @scc_layout request values counter]
    exact List.mem_map.mpr ⟨write, member, rfl⟩
  exact sccSignals_fit _ listed

theorem sccOwned_distinct : sccOwnedBits.Nodup ∧ ∀ bit ∈ sccOwnedBits, 16 ≤ bit := by
  decide +kernel

theorem scc_reads (encoded : Encoded frame sccControlAddress bus payload
      (HyundaiCanFdCodec.sccWrites counter request values)) {write : SignalWrite}
    (member : write ∈ HyundaiCanFdCodec.sccWrites counter request values) :
    getSignalIn write.order frame.data write.startBit write.bitLength =
      some (.ofNat (write.raw.toNat % 2 ^ write.bitLength)) :=
  encoded.reads sccOwned_distinct.1 sccOwned_distinct.2 (by decide) (scc_fits write member) member

theorem physicalToRaw_decodes (encoded : Encoded frame sccControlAddress bus payload
      (HyundaiCanFdCodec.sccWrites counter request values)) {startBit bits : Nat}
    {order : ByteOrder} {value factor offset : Rat}
    (member : { startBit := startBit, bitLength := bits
                raw := physicalToRaw value factor offset bits, order := order } ∈
      HyundaiCanFdCodec.sccWrites counter request values)
    (positive : 0 < factor) (low : offset ≤ value) (high : value ≤ offset + (2 ^ bits - 1) * factor) :
    Decodes frame order startBit bits (RoundsTo · value factor offset) := by
  have word : bits ≤ 64 := (scc_fits _ member).word
  obtain ⟨small, rounds⟩ := physicalToRaw_rounds positive word low high
  have reads := scc_reads encoded member
  simp only [Nat.mod_eq_of_lt small, UInt64.ofNat_toNat] at reads
  exact ⟨_, reads, rounds⟩

theorem raw_decodes (encoded : Encoded frame sccControlAddress bus payload
      (HyundaiCanFdCodec.sccWrites counter request values)) {startBit bits value : Nat}
    {order : ByteOrder} {raw : UInt64}
    (member : { startBit := startBit, bitLength := bits, raw := raw, order := order } ∈
      HyundaiCanFdCodec.sccWrites counter request values)
    (small : raw.toNat < 2 ^ bits) (value_eq : raw.toNat = value) :
    Decodes frame order startBit bits (· = value) := by
  have reads := scc_reads encoded member
  simp only [Nat.mod_eq_of_lt small, UInt64.ofNat_toNat] at reads
  exact ⟨_, reads, value_eq⟩

theorem counter_byte (encoded : Encoded frame sccControlAddress bus payload
      (HyundaiCanFdCodec.sccWrites counter request values)) : frame.data.getD 2 0 = counter := by
  have reads := scc_reads encoded (List.mem_of_getElem? (i := 0) rfl)
  have whole := @getSignal_bits 64 frame.data 16 8 (by decide) (by decide) (by decide)
  have same := Option.some.inj (whole.symm.trans reads)
  have byte := read_byte frame.data 2
  rw [byte] at same
  apply UInt8.toNat_inj.mp
  have small := (frame.data.getD 2 0).toNat_lt
  have values := congrArg UInt64.toNat same
  simp only [UInt64.toNat_ofNat'] at values
  have range := counter.toNat_lt
  simp at values
  omega

end Frame

theorem flag_toNat (value : Bool) : (flag value).toNat = value.toNat := by
  cases value <;> rfl

theorem accMode_toNat (enabled gasOverride : Bool) :
    (if enabled then (if gasOverride then 2 else 1) else 0 : UInt64).toNat =
      if enabled then (if gasOverride then 2 else 1) else 0 := by
  cases enabled <;> cases gasOverride <;> rfl

/-- Every finite request is encoded over the payload. -/
theorem makeSccControl_overlay (codec : HyundaiCanFdCodec) (target : SccTarget) :
    ∃ frame, codec.makeSccControl target.request =
        some ({ codec with sccCounter := codec.sccCounter + 1 }, frame) ∧
      SccOverlay frame codec.sccPayload codec.sccCounter target := by
  obtain ⟨frame, encodes, encoded⟩ := @encodeFrame_encoded 32
    (HyundaiCanFdCodec.sccWrites codec.sccCounter target.request target.values) (by decide)
    scc_fits sccControlAddress target.bus codec.sccPayload
  have accel (value : Rat) := @clamp_mem value (-1023 / 100) (1024 / 100) (by norm_num)
  have speed := @clamp_mem target.setSpeed 0 255 (by norm_num)
  have jerk := @clamp_mem target.jerk 0 (127 / 10) (by norm_num)
  refine ⟨frame, ?_, ?_⟩
  · simp only [HyundaiCanFdCodec.makeSccControl, SccTarget.request, SccRequest.values]
    exact congrArg (Option.map _) encodes
  · have constant {startBit bits value : Nat} {order : ByteOrder} {raw : UInt64}
        (member : { startBit := startBit, bitLength := bits, raw := raw, order := order } ∈
          HyundaiCanFdCodec.sccWrites codec.sccCounter target.request target.values) :=
      @raw_decodes target.request target.values frame _ _ _ encoded startBit bits value order raw member
    exact {
      checksum := encoded.checksum
      counter := counter_byte encoded
      accelRaw := physicalToRaw_decodes encoded (List.mem_of_getElem? (i := 12) rfl) (by norm_num)
        (accel _).1 ((accel _).2.trans (by norm_num))
      accelValue := physicalToRaw_decodes encoded (List.mem_of_getElem? (i := 11) rfl) (by norm_num)
        (accel _).1 ((accel _).2.trans (by norm_num))
      setSpeed := physicalToRaw_decodes encoded (List.mem_of_getElem? (i := 9) rfl) (by norm_num)
        speed.1 (speed.2.trans (by norm_num))
      jerkUpper := by
        refine physicalToRaw_decodes encoded (List.mem_of_getElem? (i := 13) rfl) (by norm_num) ?_ ?_
        · split_ifs
          · exact jerk.1
          · norm_num
        · split_ifs
          · exact jerk.2.trans (by norm_num)
          · norm_num
      jerkLower := by
        refine physicalToRaw_decodes encoded (List.mem_of_getElem? (i := 14) rfl) (by norm_num) ?_ ?_
        · split_ifs
          · exact jerk.1
          · norm_num
        · split_ifs
          · exact jerk.2.trans (by norm_num)
          · norm_num
      accMode := by
        refine constant (List.mem_of_getElem? (i := 6) rfl) ?_ (accMode_toNat _ _)
        rw [accMode_toNat]
        split_ifs <;> decide
      stopRequest := by
        refine constant (List.mem_of_getElem? (i := 7) rfl) ?_ (flag_toNat _)
        rw [flag_toNat]
        exact target.stopping.toNat_lt
      stopSignal := by
        refine constant (List.mem_of_getElem? (i := 16) rfl) ?_ (flag_toNat _)
        rw [flag_toNat]
        exact target.stopping.toNat_lt
      constants := by
        simp only [sccConstants, List.forall_mem_cons, List.not_mem_nil, false_implies, implies_true,
          and_true]
        exact ⟨constant (List.mem_of_getElem? (i := 1) rfl) (by decide) rfl,
          constant (List.mem_of_getElem? (i := 2) rfl) (by decide) rfl,
          constant (List.mem_of_getElem? (i := 3) rfl) (by decide) rfl,
          constant (List.mem_of_getElem? (i := 4) rfl) (by decide) rfl,
          constant (List.mem_of_getElem? (i := 5) rfl) (by decide) rfl,
          constant (List.mem_of_getElem? (i := 8) rfl) (by decide) rfl,
          constant (List.mem_of_getElem? (i := 10) rfl) (by decide) rfl,
          constant (List.mem_of_getElem? (i := 15) rfl) (by decide) rfl⟩
      unowned := fun bit above _ outside => encoded.unowned above outside }

/-! ## Calls of the codec -/

inductive CodecCall
  | makeLfa (torque : Int) (enabled torqueRequest : Bool) (bus : UInt8)
  | makeSccControl (request : SccRequest)
  | makeLfaCluster (enabled : Bool) (bus : UInt8)
  | makeFcaWarning (bus : UInt8)
  | setSccControlTemplate (frame : BusFrame)
  | clearSccControlTemplate
  | resetCounters (lfa scc cluster fcaWarning : UInt8)

/-- The frame is absent for an exception and for a call without one. -/
def callCodec (codec : HyundaiCanFdCodec) (call : CodecCall) : HyundaiCanFdCodec × Option BusFrame :=
  let made : Option (HyundaiCanFdCodec × BusFrame) → HyundaiCanFdCodec × Option BusFrame
    | some (next, frame) => (next, some frame)
    | none => (codec, none)
  match call with
  | .makeLfa torque enabled torqueRequest bus => made (codec.makeLfa torque enabled torqueRequest bus)
  | .makeSccControl request => made (codec.makeSccControl request)
  | .makeLfaCluster enabled bus => made (codec.makeLfaCluster enabled bus)
  | .makeFcaWarning bus => made (codec.makeFcaWarning bus)
  | .setSccControlTemplate frame => ((codec.setSccControlTemplate frame).getD codec, none)
  | .clearSccControlTemplate => (codec.clearSccControlTemplate, none)
  | .resetCounters lfa scc cluster fcaWarning =>
      (codec.resetCounters lfa scc cluster fcaWarning, none)

def codecMachine : CallMachine HyundaiCanFdCodec CodecCall (Option BusFrame) where
  call := callCodec

def CodecCall.makesScc : CodecCall → Option BusFrame → Bool
  | .makeSccControl _, some _ => true
  | _, _ => false

def sccFrames (codec : HyundaiCanFdCodec) (calls : List CodecCall) : Nat :=
  (calls.zip (codecMachine.answers codec calls)).countP fun (call, answer) => call.makesScc answer

/-- The call starts the SCC counter afresh. -/
def RestartsScc (codec : HyundaiCanFdCodec) : CodecCall → Prop
  | .setSccControlTemplate frame => (codec.setSccControlTemplate frame).isSome = true
  | .resetCounters .. => True
  | _ => False

def CodecCall.clears : CodecCall → Bool
  | .clearSccControlTemplate => true
  | _ => false

section Calls
variable {codec : HyundaiCanFdCodec} {call : CodecCall}

theorem callCodec_scc (running : ¬ RestartsScc codec call) :
    (callCodec codec call).1.sccCounter =
        codec.sccCounter + UInt8.ofNat (call.makesScc (callCodec codec call).2).toNat ∧
      (callCodec codec call).1.sccPayload =
        if call.clears then .replicate 32 0 else codec.sccPayload := by
  have kept : codec.sccCounter = codec.sccCounter + UInt8.ofNat false.toNat :=
    (UInt8.add_zero _).symm
  cases call with
  | makeLfa torque enabled torqueRequest bus =>
      simp only [callCodec, HyundaiCanFdCodec.makeLfa]
      generalize encodeFrame lfaAddress bus _ _ = made
      cases made <;> exact ⟨kept, rfl⟩
  | makeLfaCluster enabled bus =>
      simp only [callCodec, HyundaiCanFdCodec.makeLfaCluster]
      generalize encodeFrame lfaClusterAddress bus _ _ = made
      cases made <;> exact ⟨kept, rfl⟩
  | makeFcaWarning bus =>
      simp only [callCodec, HyundaiCanFdCodec.makeFcaWarning]
      generalize encodeFrame fcaWarningAddress bus _ _ = made
      cases made <;> exact ⟨kept, rfl⟩
  | makeSccControl request =>
      simp only [callCodec, HyundaiCanFdCodec.makeSccControl]
      cases request.values with
      | none => exact ⟨kept, rfl⟩
      | some values =>
          dsimp only
          generalize encodeFrame sccControlAddress request.bus _ _ = made
          cases made with
          | none => exact ⟨kept, rfl⟩
          | some frame => exact ⟨rfl, rfl⟩
  | setSccControlTemplate frame =>
      have refused : codec.setSccControlTemplate frame = none := by
        simpa [RestartsScc] using running
      simp only [callCodec, refused]
      exact ⟨kept, rfl⟩
  | clearSccControlTemplate => exact ⟨kept, rfl⟩
  | resetCounters => exact absurd trivial running

/-- Along a run between two templates the counter counts the SCC frames. -/
theorem run_scc (calls : List CodecCall) :
    ∀ codec, codecMachine.Quiet RestartsScc codec calls →
      (codecMachine.run codec calls).sccCounter =
          codec.sccCounter + UInt8.ofNat (sccFrames codec calls) ∧
        (codecMachine.run codec calls).sccPayload =
          if calls.any CodecCall.clears then .replicate 32 0 else codec.sccPayload := by
  induction calls with
  | nil => intro codec _; exact ⟨(UInt8.add_zero _).symm, rfl⟩
  | cons call rest ih =>
      intro codec quiet
      obtain ⟨running, quietRest⟩ := quiet
      obtain ⟨counter, payload⟩ := callCodec_scc running
      obtain ⟨counterRest, payloadRest⟩ := ih _ quietRest
      have frames : sccFrames codec (call :: rest) =
          (call.makesScc (callCodec codec call).2).toNat + sccFrames (callCodec codec call).1 rest := by
        simp only [sccFrames, CallMachine.answers, List.zip_cons_cons, List.countP_cons]
        rw [Nat.add_comm]
        cases made : call.makesScc (callCodec codec call).2 <;> simp [codecMachine, made]
      refine ⟨?_, ?_⟩
      · rw [CallMachine.run, counterRest]
        show (callCodec codec call).1.sccCounter + _ = _
        rw [counter, frames, UInt8.ofNat_add, UInt8.add_assoc]
        rfl
      · rw [CallMachine.run, payloadRest]
        show (if _ then _ else (callCodec codec call).1.sccPayload) = _
        rw [payload, List.any_cons]
        cases call.clears <;> cases rest.any CodecCall.clears <;> rfl

end Calls

/-! ## The overlay -/

def templateBytes (stock : BusFrame) : Vector UInt8 32 :=
  .ofFn fun index => stock.data.getD index.val 0

theorem setSccControlTemplate_loads {start loaded : HyundaiCanFdCodec} {stock : BusFrame}
    (accepted : start.setSccControlTemplate stock = some loaded) :
    loaded.sccCounter = stock.data.getD 2 0 + 1 ∧ loaded.sccPayload = templateBytes stock := by
  unfold HyundaiCanFdCodec.setSccControlTemplate at accepted
  split at accepted
  · cases accepted
  · cases accepted
    exact ⟨rfl, rfl⟩

theorem counter_after (byte : UInt8) (count : Nat) :
    UInt8.ofNat (byte.toNat + 1 + count) = byte + 1 + UInt8.ofNat count := by
  rw [UInt8.ofNat_add, UInt8.ofNat_add, UInt8.ofNat_toNat]
  rfl

/-- Every finite request is encoded over the template; the counter counts on from the stock
frame's, whatever else is called in between. -/
theorem scc_control_overlay :
    (∀ (codec : HyundaiCanFdCodec) (target : SccTarget), ∃ next frame,
      codec.makeSccControl target.request = some (next, frame) ∧
        SccOverlay frame codec.sccPayload codec.sccCounter target) ∧
    ∀ (start loaded : HyundaiCanFdCodec) (stock : BusFrame) (calls : List CodecCall)
      (target : SccTarget), start.setSccControlTemplate stock = some loaded →
        codecMachine.Quiet RestartsScc loaded calls → ∃ next frame,
          (codecMachine.run loaded calls).makeSccControl target.request = some (next, frame) ∧
            SccOverlay frame
              (if calls.any CodecCall.clears then .replicate 32 0 else templateBytes stock)
              (.ofNat ((stock.data.getD 2 0).toNat + 1 + sccFrames loaded calls)) target := by
  refine ⟨fun codec target => ?_, fun start loaded stock calls target accepted quiet => ?_⟩
  · obtain ⟨frame, made, overlay⟩ := makeSccControl_overlay codec target
    exact ⟨_, frame, made, overlay⟩
  · obtain ⟨frame, made, overlay⟩ := makeSccControl_overlay (codecMachine.run loaded calls) target
    obtain ⟨counter, payload⟩ := run_scc calls loaded quiet
    obtain ⟨first, bytes⟩ := setSccControlTemplate_loads accepted
    refine ⟨_, frame, made, ?_⟩
    rw [counter, payload, first, bytes] at overlay
    rw [counter_after]
    exact overlay

/-- A stock frame with every byte set. -/
def stockScc : BusFrame where
  address := sccControlAddress
  bus := 0
  fd := true
  size := 32
  data := .replicate 64 0xFF
  receivedAt := 0

def drivingScc : SccTarget where
  accelRaw := 7 / 10
  accelValue := 7 / 10
  enabled := true
  stopping := false
  gasOverride := false
  setSpeed := 30
  jerk := 5
  bus := 0

def stockLoaded : HyundaiCanFdCodec :=
  { sccTemplate := templateBytes stockScc, hasSccTemplate := true, sccCounter := 0 }

def eachFrame : List CodecCall :=
  [.makeLfa 5 true true 0, .makeSccControl drivingScc.request, .makeLfaCluster true 0,
    .makeFcaWarning 0]

/-- The second SCC frame after a template with counter 255. -/
theorem scc_control_after_stock : ∃ next frame,
    (codecMachine.run stockLoaded eachFrame).makeSccControl drivingScc.request =
        some (next, frame) ∧
      SccOverlay frame (templateBytes stockScc) 1 drivingScc := by
  have frames : sccFrames stockLoaded eachFrame = 1 := by decide +kernel
  have overlay := scc_control_overlay.2 {} stockLoaded stockScc eachFrame drivingScc rfl
    ⟨id, id, id, id, trivial⟩
  rw [frames] at overlay
  exact overlay

def standbyScc : SccTarget := { drivingScc with enabled := false }

/-- While not enabled, the jerk limits are the two constants. -/
theorem disabled_jerk_constant :
    ¬ ∀ (codec : HyundaiCanFdCodec) (target : SccTarget), ∃ next frame,
      codec.makeSccControl target.request = some (next, frame) ∧
        Decodes frame .bigEndian 158 7 (RoundsTo · (clamp target.jerk 0 (127 / 10)) (1 / 10) 0) := by
  intro always
  obtain ⟨next, frame, made, raw, reads, rounds⟩ := always {} standbyScc
  have signal : (({} : HyundaiCanFdCodec).makeSccControl standbyScc.request).bind
      (fun made => getSignalIn .bigEndian made.2.data 158 7) = some 30 := by decide +kernel
  rw [made, Option.bind_some, reads] at signal
  cases signal
  have floor := rounds.floor
  norm_num [clamp, standbyScc, drivingScc] at floor
  exact absurd floor (by decide)

end Ioniq5Ecan
