import Ioniq5Ecan.Supervisor.Update
import Ioniq5Ecan.Vehicle.CommandAdapter
import Ioniq5Ecan.Vehicle.SccOverlay

/-! # From a decision to the frames

The end of an iteration of `control_loop`: the adapter, with the fallback for a
command it cannot represent, and the frames handed to `PandaUsb::send`.  The
firmware refuses an SCC frame that moves the car without its permission. -/
set_option autoImplicit false
namespace Ioniq5Ecan

open Library (Double Arithmetic)

/-- The adapter, the decision after the fallback, and the output; `none` is an exception that
nothing catches. -/
def adaptDecision (arithmetic : Arithmetic) (adapter : CommandAdapter) (command : CommandSample)
    (vehicle : VehicleStateData) (dt : Double) (decision : SafetyDecision) :
    Option (CommandAdapter × SafetyDecision × ControlOutput) :=
  match adapter.update arithmetic command vehicle dt decision.lateralAllowed
      decision.longitudinalAllowed with
  | (adapter, .ok output) => some (adapter, decision, output)
  | (adapter, .error _) =>
      let decision := { decision with
        lateralAllowed := false, longitudinalAllowed := false, heartbeatEngaged := false }
      match adapter.update arithmetic {} vehicle dt false false with
      | (adapter, .ok output) => some (adapter, decision, output)
      | (_, .error _) => none

/-! ## The frames -/

/-- The members of the node that the frames are made with. -/
structure FrameSettings where
  safety : SafetyConfig
  setSpeedKph : Double := .finite 30
  jerkLimitMps3 : Double := .finite (127 / 10)
  ecanBus : UInt8 := 0

def pushFrame (made : HyundaiCanFdCodec × Option (List BusFrame))
    (make : HyundaiCanFdCodec → Option (HyundaiCanFdCodec × BusFrame)) :
    HyundaiCanFdCodec × Option (List BusFrame) :=
  match made.2 with
  | none => made
  | some frames =>
      match make made.1 with
      | none => (made.1, none)
      | some (codec, frame) => (codec, some (frames ++ [frame]))

def sccRequest (settings : FrameSettings) (decision : SafetyDecision) (output : ControlOutput)
    (vehicle : VehicleStateData) : SccRequest :=
  let target := if output.longitudinalActive then output.accelerationMps2 else .zero
  let accEnabled := decision.longitudinalAllowed
  { accelRawMps2 := if accEnabled then target else .zero
    accelValueMps2 := if accEnabled then target else .zero
    enabled := accEnabled
    stopping := output.stopping
    gasOverride := settings.safety.longitudinalOverrideOnGas && vehicle.gasPressed
    setSpeedKph := settings.setSpeedKph
    jerkMps3 := settings.jerkLimitMps3
    bus := settings.ecanBus }

/-- The frames of one iteration; `none` is an exception, and the codec is left as it was then. -/
def assembleFrames (settings : FrameSettings) (codec : HyundaiCanFdCodec) (frameIndex : UInt64)
    (decision : SafetyDecision) (output : ControlOutput) (vehicle : VehicleStateData) :
    HyundaiCanFdCodec × Option (List BusFrame) :=
  let made := pushFrame (codec, some [])
    (·.makeLfa output.steeringTorque decision.lateralAllowed output.steeringRequest
      settings.ecanBus)
  let made :=
    if frameIndex % 5 = 0 then
      pushFrame made (·.makeLfaCluster decision.lateralAllowed settings.ecanBus)
    else made
  if settings.safety.allowLongitudinal ∧ frameIndex % 2 = 0 then
    if !made.1.hasSccTemplate then (made.1, none)
    else
      let made := pushFrame made (·.makeSccControl (sccRequest settings decision output vehicle))
      pushFrame made (·.makeFcaWarning settings.ecanBus)
  else made

/-! ## The firmware's check -/

/-- The accelerations the transmit hook reads of an SCC frame. -/
structure AccelReading where
  desiredAccelRaw : BusFrame → Int
  desiredAccelVal : BusFrame → Int

/-- The hook reads the two acceleration signals, in steps from their zero. -/
structure AccelReading.Documented (reading : AccelReading) : Prop where
  raw : ∀ (frame : BusFrame) (raw : UInt64),
    getSignalIn .littleEndian frame.data 140 11 = some raw →
      reading.desiredAccelRaw frame = raw.toNat - 1023
  val : ∀ (frame : BusFrame) (raw : UInt64),
    getSignalIn .littleEndian frame.data 128 11 = some raw →
      reading.desiredAccelVal frame = raw.toNat - 1023

/-- The clause of `hyundai_canfd_tx_hook` for the split button arm. -/
def splitArmViolation (reading : AccelReading) (longitudinalControlsAllowed : Bool)
    (frame : BusFrame) : Bool :=
  let accMode := (frame.data.getD 8 0 >>> 4) &&& 7
  !longitudinalControlsAllowed && (reading.desiredAccelRaw frame != 0 ||
    reading.desiredAccelVal frame != 0 || accMode != 0)

/-! ## Where the frames come from -/

section Frames
variable {settings : FrameSettings} {codec next : HyundaiCanFdCodec} {frameIndex : UInt64}
  {decision : SafetyDecision} {output : ControlOutput} {vehicle : VehicleStateData}
  {frames : List BusFrame} {frame : BusFrame}

theorem pushFrame_mem {made : HyundaiCanFdCodec × Option (List BusFrame)}
    {make : HyundaiCanFdCodec → Option (HyundaiCanFdCodec × BusFrame)}
    (pushed : (pushFrame made make).2 = some frames) (member : frame ∈ frames) :
    (∃ earlier, made.2 = some earlier ∧ frame ∈ earlier) ∨
      ∃ next, make made.1 = some (next, frame) := by
  unfold pushFrame at pushed
  cases before : made.2 with
  | none =>
      simp only [before] at pushed
      cases pushed
  | some earlier =>
      simp only [before] at pushed
      cases result : make made.1 with
      | none =>
          simp only [result] at pushed
          cases pushed
      | some pair =>
          simp only [result] at pushed
          cases pushed
          rcases List.mem_append.mp member with old | new
          · exact Or.inl ⟨earlier, rfl, old⟩
          · cases List.mem_singleton.mp new
            exact Or.inr ⟨pair.1, rfl⟩

/-- The function of the codec that made a frame of the iteration. -/
inductive MadeBy (settings : FrameSettings) (decision : SafetyDecision) (output : ControlOutput)
    (vehicle : VehicleStateData) (frame : BusFrame) : Prop
  | lfa (codec next : HyundaiCanFdCodec)
      (makes : codec.makeLfa output.steeringTorque decision.lateralAllowed output.steeringRequest
        settings.ecanBus = some (next, frame))
  | cluster (codec next : HyundaiCanFdCodec)
      (makes : codec.makeLfaCluster decision.lateralAllowed settings.ecanBus = some (next, frame))
  | scc (codec next : HyundaiCanFdCodec)
      (makes : codec.makeSccControl (sccRequest settings decision output vehicle) =
        some (next, frame))
  | fcaWarning (codec next : HyundaiCanFdCodec)
      (makes : codec.makeFcaWarning settings.ecanBus = some (next, frame))

theorem assembleFrames_made
    (assembled : (assembleFrames settings codec frameIndex decision output vehicle).2 = some frames)
    (member : frame ∈ frames) : MadeBy settings decision output vehicle frame := by
  have first {frames : List BusFrame} {frame : BusFrame}
      (pushed : (pushFrame (codec, some []) (·.makeLfa output.steeringTorque
        decision.lateralAllowed output.steeringRequest settings.ecanBus)).2 = some frames)
      (member : frame ∈ frames) : MadeBy settings decision output vehicle frame := by
    rcases pushFrame_mem pushed member with ⟨earlier, none, old⟩ | ⟨next, makes⟩
    · cases none
      cases old
    · exact .lfa _ _ makes
  unfold assembleFrames at assembled
  dsimp only at assembled
  generalize pushFrame (codec, some []) _ = lfa at assembled first
  have second {frames : List BusFrame} {frame : BusFrame}
      (pushed : (if frameIndex % 5 = 0 then
        pushFrame lfa (·.makeLfaCluster decision.lateralAllowed settings.ecanBus) else lfa).2 =
          some frames)
      (member : frame ∈ frames) : MadeBy settings decision output vehicle frame := by
    split at pushed
    · rcases pushFrame_mem pushed member with ⟨earlier, before, old⟩ | ⟨next, makes⟩
      · exact first before old
      · exact .cluster _ _ makes
    · exact first pushed member
  generalize (if frameIndex % 5 = 0 then
    pushFrame lfa (·.makeLfaCluster decision.lateralAllowed settings.ecanBus) else lfa) = cluster
    at assembled second
  split at assembled
  · split at assembled
    · cases assembled
    · rcases pushFrame_mem assembled member with ⟨earlier, before, old⟩ | ⟨next, makes⟩
      · rcases pushFrame_mem before old with ⟨earliest, start, oldest⟩ | ⟨next, makes⟩
        · exact second start oldest
        · exact .scc _ _ makes
      · exact .fcaWarning _ _ makes
  · exact second assembled member

theorem makeLfa_address {torque : Int} {enabled torqueRequest : Bool} {bus : UInt8}
    (makes : codec.makeLfa torque enabled torqueRequest bus = some (next, frame)) :
    frame.address = lfaAddress := by
  obtain ⟨other, encodes, same⟩ := Option.map_eq_some_iff.mp makes
  cases same
  exact encodeFrame_address encodes

theorem makeLfaCluster_address {enabled : Bool} {bus : UInt8}
    (makes : codec.makeLfaCluster enabled bus = some (next, frame)) :
    frame.address = lfaClusterAddress := by
  obtain ⟨other, encodes, same⟩ := Option.map_eq_some_iff.mp makes
  cases same
  exact encodeFrame_address encodes

theorem makeFcaWarning_address {bus : UInt8}
    (makes : codec.makeFcaWarning bus = some (next, frame)) :
    frame.address = fcaWarningAddress := by
  obtain ⟨other, encodes, same⟩ := Option.map_eq_some_iff.mp makes
  cases same
  exact encodeFrame_address encodes

theorem makeSccControl_address {request : SccRequest}
    (makes : codec.makeSccControl request = some (next, frame)) :
    frame.address = sccControlAddress := by
  unfold HyundaiCanFdCodec.makeSccControl at makes
  split at makes
  · cases makes
  · obtain ⟨other, encodes, same⟩ := Option.map_eq_some_iff.mp makes
    cases same
    exact encodeFrame_address encodes

/-! ## The LFA frame -/

def lfaSignals : List (Nat × Nat × ByteOrder) :=
  [(16, 8, .littleEndian), (24, 3, .littleEndian), (27, 3, .littleEndian), (38, 3, .littleEndian),
    (41, 11, .littleEndian), (52, 2, .littleEndian), (60, 4, .littleEndian),
    (104, 8, .littleEndian), (80, 2, .littleEndian)]

theorem lfaSignals_fit : ∀ signal ∈ lfaSignals,
    SignalFits signal.2.2 signal.1 signal.2.1 16 := by
  decide +kernel

section Lfa
variable {counter : UInt8} {torque : Int} {enabled torqueRequest : Bool} {bus : UInt8}

theorem lfa_layout : (HyundaiCanFdCodec.lfaWrites counter torque enabled torqueRequest).map
    (fun write => (write.startBit, write.bitLength, write.order)) = lfaSignals := rfl

theorem lfa_fits : ∀ write ∈ HyundaiCanFdCodec.lfaWrites counter torque enabled torqueRequest,
    write.Fits 16 := by
  intro write member
  have listed : (write.startBit, write.bitLength, write.order) ∈ lfaSignals := by
    rw [← @lfa_layout counter torque enabled torqueRequest]
    exact List.mem_map.mpr ⟨write, member, rfl⟩
  exact lfaSignals_fit _ listed

theorem lfaOwned_distinct :
    (ownedBits (HyundaiCanFdCodec.lfaWrites counter torque enabled torqueRequest)).Nodup ∧
      ∀ bit ∈ ownedBits (HyundaiCanFdCodec.lfaWrites counter torque enabled torqueRequest),
        16 ≤ bit := by
  have owned : ownedBits (HyundaiCanFdCodec.lfaWrites counter torque enabled torqueRequest) =
      lfaSignals.flatMap fun signal => signalBits signal.2.2 signal.1 signal.2.1 := rfl
  rw [owned]
  decide +kernel

structure LfaFrame (frame : BusFrame) (torque : Int) (enabled torqueRequest : Bool) : Prop where
  checksum : frame.checksumValid = some true
  torque : Decodes frame .littleEndian 41 11 fun raw => (raw : Int) - 1024 = torque
  request : Decodes frame .littleEndian 52 2 (· = torqueRequest.toNat)
  indicator : Decodes frame .littleEndian 38 3 (· = if enabled then 2 else 1)

theorem makeLfa_frame (inRange : -1021 ≤ torque ∧ torque ≤ 1021)
    (makes : codec.makeLfa torque enabled torqueRequest bus = some (next, frame)) :
    LfaFrame frame torque enabled torqueRequest := by
  obtain ⟨other, encodes, same⟩ := Option.map_eq_some_iff.mp makes
  cases same
  have encoded := encodeFrame_some (by decide) lfa_fits encodes
  have decodes {startBit bits : Nat} {raw : UInt64} {meets : Nat → Prop}
      (member : { startBit := startBit, bitLength := bits, raw := raw } ∈
        HyundaiCanFdCodec.lfaWrites codec.lfaCounter torque enabled torqueRequest)
      (small : raw.toNat < 2 ^ bits) (met : meets raw.toNat) :
      Decodes frame .littleEndian startBit bits meets := by
    have reads := encoded.reads lfaOwned_distinct.1 lfaOwned_distinct.2 (by decide)
      (lfa_fits _ member) member
    simp only [Nat.mod_eq_of_lt small, UInt64.ofNat_toNat] at reads
    exact ⟨raw, reads, met⟩
  refine ⟨encoded.checksum, ?_, ?_, ?_⟩
  · have saturated : max (-1021) (min torque 1021) = torque := by omega
    have raw : (UInt64.ofNat (max (-1021) (min torque 1021) + 1024).toNat).toNat =
        (torque + 1024).toNat := by
      rw [saturated, UInt64.toNat_ofNat']
      omega
    refine decodes (List.mem_of_getElem? (i := 4) rfl) ?_ ?_
    · rw [raw]
      omega
    · rw [raw]
      omega
  · refine decodes (List.mem_of_getElem? (i := 5) rfl) ?_ (flag_toNat _)
    rw [flag_toNat]
    have bound := torqueRequest.toNat_lt
    omega
  · refine decodes (List.mem_of_getElem? (i := 3) rfl) ?_ ?_
    · cases enabled <;> decide
    · cases enabled <;> rfl

end Lfa

/-! ## The SCC frame -/

theorem makeSccControl_some {request : SccRequest}
    (makes : codec.makeSccControl request = some (next, frame)) :
    ∃ target : SccTarget, target.request = request ∧
      SccOverlay frame codec.sccPayload codec.sccCounter target := by
  obtain ⟨accelRaw, accelValue, enabled, stopping, gasOverride, setSpeed, jerk, bus⟩ := request
  have finite : ∃ target : SccTarget, target.request =
      ⟨accelRaw, accelValue, enabled, stopping, gasOverride, setSpeed, jerk, bus⟩ := by
    unfold HyundaiCanFdCodec.makeSccControl SccRequest.values at makes
    dsimp only at makes
    split at makes
    · cases makes
    · rename_i values present
      split at present
      · rename_i a b c d
        exact ⟨⟨a, b, enabled, stopping, gasOverride, c, d, bus⟩, rfl⟩
      · cases present
  obtain ⟨target, same⟩ := finite
  obtain ⟨other, encodes, overlay⟩ := makeSccControl_overlay codec target
  rw [same, makes] at encodes
  cases encodes
  exact ⟨target, same, overlay⟩

/-- Zero acceleration, no ACC mode and no stop bit, which the firmware lets pass. -/
structure SccStandby (reading : AccelReading) (frame : BusFrame) : Prop where
  accMode : Decodes frame .littleEndian 68 3 (· = 0)
  accelRaw : Decodes frame .littleEndian 140 11 (· = 1023)
  accelValue : Decodes frame .littleEndian 128 11 (· = 1023)
  stopRequest : Decodes frame .littleEndian 76 1 (· = 0)
  stopSignal : Decodes frame .bigEndian 184 1 (· = 0)
  permitted : splitArmViolation reading false frame = false

theorem standstill_raw {raw : Nat}
    (rounds : RoundsTo raw (clamp 0 (-1023 / 100) (1024 / 100)) (1 / 100) (-1023 / 100)) :
    raw = 1023 := by
  have floor := rounds.floor
  norm_num [clamp] at floor
  have half : ⌊(2047 / 2 : Rat)⌋ = 1023 := by
    rw [Int.floor_eq_iff]
    norm_num
  omega

theorem accMode_byte (mode : Decodes frame .littleEndian 68 3 (· = 0)) :
    (frame.data.getD 8 0 >>> 4) &&& 7 = 0 := by
  obtain ⟨raw, reads, zero⟩ := mode
  have whole := getSignal_byte frame.data 68 3 (by decide) (by decide) (by decide)
  have same := Option.some.inj (whole.symm.trans reads)
  have none : raw = 0 := UInt64.toNat_inj.mp zero
  rw [none] at same
  rw [← (byteSignal_masked (frame.data.getD 8 0)).2.1, same]
  rfl

theorem makeSccControl_standby {reading : AccelReading} (documented : reading.Documented)
    {target : SccTarget} {payload : Vector UInt8 32} {counter : UInt8}
    (overlay : SccOverlay frame payload counter target) (disabled : target.enabled = false)
    (accelRaw : target.accelRaw = 0) (accelValue : target.accelValue = 0)
    (moving : target.stopping = false) : SccStandby reading frame := by
  have accMode : Decodes frame .littleEndian 68 3 (· = 0) := by
    obtain ⟨raw, reads, mode⟩ := overlay.accMode
    rw [disabled] at mode
    exact ⟨raw, reads, mode⟩
  obtain ⟨raw, readsRaw, roundsRaw⟩ := overlay.accelRaw
  obtain ⟨value, readsValue, roundsValue⟩ := overlay.accelValue
  rw [accelRaw] at roundsRaw
  rw [accelValue] at roundsValue
  have zeroRaw := standstill_raw roundsRaw
  have zeroValue := standstill_raw roundsValue
  refine ⟨accMode, ⟨raw, readsRaw, zeroRaw⟩, ⟨value, readsValue, zeroValue⟩, ?_, ?_, ?_⟩
  · obtain ⟨stop, reads, requested⟩ := overlay.stopRequest
    rw [moving] at requested
    exact ⟨stop, reads, requested⟩
  · obtain ⟨stop, reads, requested⟩ := overlay.stopSignal
    rw [moving] at requested
    exact ⟨stop, reads, requested⟩
  · unfold splitArmViolation
    rw [documented.raw frame raw readsRaw, documented.val frame value readsValue, zeroRaw, zeroValue,
      accMode_byte accMode]
    decide

/-- The firmware's clause asks for exactly these three signals. -/
theorem splitArmViolation_iff {reading : AccelReading} (documented : reading.Documented)
    {raw value : UInt64} (readsRaw : getSignalIn .littleEndian frame.data 140 11 = some raw)
    (readsValue : getSignalIn .littleEndian frame.data 128 11 = some value) :
    splitArmViolation reading false frame = false ↔
      raw.toNat = 1023 ∧ value.toNat = 1023 ∧ (frame.data.getD 8 0 >>> 4) &&& 7 = 0 := by
  unfold splitArmViolation
  rw [documented.raw frame raw readsRaw, documented.val frame value readsValue]
  simp only [Bool.not_false, Bool.true_and, Bool.or_eq_false_iff, bne_eq_false_iff_eq, sub_eq_zero,
    and_assoc]
  norm_cast

end Frames

/-! ## The adapter's answer -/

section Adapted
variable {arithmetic : Arithmetic} {config : CommandAdapterConfig} {adapter next : CommandAdapter}
  {command : CommandSample} {vehicle : VehicleStateData} {dt : Double}
  {decision used : SafetyDecision} {output : ControlOutput}

/-- What the loop has in hand after the adapter, the fallback included. -/
structure Adapted (config : CommandAdapterConfig) (decision used : SafetyDecision)
    (next : CommandAdapter) (output : ControlOutput) : Prop where
  lateral : used.lateralAllowed = true → decision.lateralAllowed = true
  longitudinal : used.longitudinalAllowed = true → decision.longitudinalAllowed = true
  limits : 0 ≤ config.maxTorque ∧ config.maxTorque ≤ kMaxValidTorque
  torque : output.steeringTorque = next.lastTorque ∧
    -config.maxTorque ≤ output.steeringTorque ∧ output.steeringTorque ≤ config.maxTorque
  released : used.lateralAllowed = false →
    output.steeringTorque = 0 ∧ output.steeringRequest = false
  withheld : used.longitudinalAllowed = false → output.stopping = false

theorem stepped_adapted {start : CommandAdapter} {answer : ControlOutput}
    (limits : 0 ≤ config.maxTorque ∧ config.maxTorque ≤ kMaxValidTorque)
    (lateral : used.lateralAllowed = true → decision.lateralAllowed = true)
    (longitudinal : used.longitudinalAllowed = true → decision.longitudinalAllowed = true)
    (same : start.config = config)
    (stepped : CommandAdapter.Stepped start next used.lateralAllowed
      (start.longitudinalOutput arithmetic command vehicle used.longitudinalAllowed) answer) :
    Adapted config decision used next answer := by
  have configured := stepped.config.trans same
  refine ⟨lateral, longitudinal, limits, ⟨stepped.torque, ?_⟩, stepped.released, fun withheld => ?_⟩
  · rw [stepped.torque, ← configured]
    exact stepped.limited.torque
  · rw [stepped.longitudinal.2.2, withheld]
    rfl

theorem adaptDecision_adapted (reached : CommandAdapter.Reachable arithmetic config adapter)
    (adapted : adaptDecision arithmetic adapter command vehicle dt decision =
      some (next, used, output)) : Adapted config decision used next output := by
  obtain ⟨limited, configured⟩ := reached.limited
  have limits : 0 ≤ config.maxTorque ∧ config.maxTorque ≤ kMaxValidTorque :=
    configured ▸ limited.valid
  unfold adaptDecision at adapted
  rcases @CommandAdapter.update_cases arithmetic adapter command vehicle dt limited
      decision.lateralAllowed decision.longitudinalAllowed with
    ⟨start, what, startLimited, same, threw⟩ | ⟨start, after, answer, _, same, updated, stepped⟩
  · rw [threw] at adapted
    dsimp only at adapted
    rcases @CommandAdapter.update_cases arithmetic start {} vehicle dt startLimited false false with
      ⟨_, _, _, _, threwAgain⟩ | ⟨again, after, answer, _, sameAgain, updated, stepped⟩
    · rw [threwAgain] at adapted
      cases adapted
    · rw [updated] at adapted
      cases adapted
      exact stepped_adapted limits nofun nofun (sameAgain.trans (same.trans configured)) stepped
  · rw [updated] at adapted
    cases adapted
    exact stepped_adapted limits id id (same.trans configured) stepped

end Adapted

/-! ## The frames of an iteration -/

section Iteration
variable {arithmetic : Arithmetic} {config : CommandAdapterConfig} {adapter next : CommandAdapter}
  {command : CommandSample} {vehicle : VehicleStateData} {dt : Double}
  {decision used : SafetyDecision} {output : ControlOutput} {settings : FrameSettings}
  {codec : HyundaiCanFdCodec} {frameIndex : UInt64} {reading : AccelReading}
  {frames : List BusFrame}

/-- The two frames the firmware checks, as the decision allows them. -/
structure SafeFrame (reading : AccelReading) (used : SafetyDecision) (torque : Int)
    (frame : BusFrame) : Prop where
  lfa : frame.address = lfaAddress → frame.checksumValid = some true ∧
    Decodes frame .littleEndian 41 11 (fun raw =>
      (raw : Int) - 1024 = torque ∧ 3 ≤ raw ∧ raw ≤ 2045) ∧
    (used.lateralAllowed = false → torque = 0 ∧ Decodes frame .littleEndian 52 2 (· = 0) ∧
      Decodes frame .littleEndian 38 3 (· = 1))
  scc : frame.address = sccControlAddress → frame.checksumValid = some true ∧
    (used.longitudinalAllowed = false → SccStandby reading frame)

theorem decision_frames_safe (reached : CommandAdapter.Reachable arithmetic config adapter)
    (documented : reading.Documented)
    (adapted : adaptDecision arithmetic adapter command vehicle dt decision =
      some (next, used, output))
    (assembled : (assembleFrames settings codec frameIndex used output vehicle).2 = some frames) :
    (used.lateralAllowed = true → decision.lateralAllowed = true) ∧
      (used.longitudinalAllowed = true → decision.longitudinalAllowed = true) ∧
      -config.maxTorque ≤ output.steeringTorque ∧ output.steeringTorque ≤ config.maxTorque ∧
      (∀ frame ∈ frames, SafeFrame reading used output.steeringTorque frame) ∧
      ∀ (frame : BusFrame) (raw value : UInt64),
        getSignalIn .littleEndian frame.data 140 11 = some raw →
        getSignalIn .littleEndian frame.data 128 11 = some value →
          (splitArmViolation reading false frame = false ↔
            raw.toNat = 1023 ∧ value.toNat = 1023 ∧ (frame.data.getD 8 0 >>> 4) &&& 7 = 0) := by
  obtain ⟨lateral, longitudinal, limits, ⟨-, low, high⟩, released, withheld⟩ :=
    adaptDecision_adapted reached adapted
  unfold kMaxValidTorque at limits
  refine ⟨lateral, longitudinal, low, high, fun frame member => ?_,
    fun frame raw value => splitArmViolation_iff documented⟩
  cases assembleFrames_made assembled member with
  | lfa before after makes =>
      have lfa := makeLfa_frame (by omega) makes
      refine ⟨fun _ => ⟨lfa.checksum, ?_, fun none => ?_⟩, fun isScc => ?_⟩
      · obtain ⟨raw, reads, torque⟩ := lfa.torque
        exact ⟨raw, reads, torque, by omega, by omega⟩
      · obtain ⟨noTorque, noRequest⟩ := released none
        refine ⟨noTorque, ?_, ?_⟩
        · have request := lfa.request
          rw [noRequest] at request
          exact request
        · have indicator := lfa.indicator
          rw [none] at indicator
          exact indicator
      · exact absurd ((makeLfa_address makes).symm.trans isScc) (by decide)
  | scc before after makes =>
      obtain ⟨target, same, overlay⟩ := makeSccControl_some makes
      refine ⟨fun isLfa => absurd ((makeSccControl_address makes).symm.trans isLfa) (by decide),
        fun _ => ⟨overlay.checksum, fun none => ?_⟩⟩
      have enabled : target.enabled = used.longitudinalAllowed :=
        congrArg SccRequest.enabled same
      have stopping : target.stopping = output.stopping := congrArg SccRequest.stopping same
      have accelRaw : Double.finite target.accelRaw = .zero := by
        have value := congrArg SccRequest.accelRawMps2 same
        simpa [sccRequest, none, SccTarget.request] using value
      have accelValue : Double.finite target.accelValue = .zero := by
        have value := congrArg SccRequest.accelValueMps2 same
        simpa [sccRequest, none, SccTarget.request] using value
      exact makeSccControl_standby documented overlay (enabled.trans none)
        (Double.finite.inj accelRaw) (Double.finite.inj accelValue) (stopping.trans (withheld none))
  | cluster before after makes =>
      have address := makeLfaCluster_address makes
      exact ⟨fun isLfa => absurd (address.symm.trans isLfa) (by decide),
        fun isScc => absurd (address.symm.trans isScc) (by decide)⟩
  | fcaWarning before after makes =>
      have address := makeFcaWarning_address makes
      exact ⟨fun isLfa => absurd (address.symm.trans isLfa) (by decide),
        fun isScc => absurd (address.symm.trans isScc) (by decide)⟩

end Iteration

/-! ## A steering command without longitudinal permission -/

def signalReading : AccelReading where
  desiredAccelRaw frame :=
    ((getSignalIn .littleEndian frame.data 140 11).getD 0).toNat - 1023
  desiredAccelVal frame :=
    ((getSignalIn .littleEndian frame.data 128 11).getD 0).toNat - 1023

theorem signalReading_documented : signalReading.Documented where
  raw frame raw reads := by simp only [signalReading, reads, Option.getD_some]
  val frame raw reads := by simp only [signalReading, reads, Option.getD_some]

def directConfig : CommandAdapterConfig := { lateralMode := .directTorque }

def directCommand : CommandSample := { lateral := .finite (1234 / 10) }

def lateralDecision : SafetyDecision := { state := .active, lateralAllowed := true }

def directOutput : CommandAdapter × SafetyDecision × ControlOutput :=
  (adaptDecision (.exact id id) { config := directConfig } directCommand {} (.finite (1 / 100))
    lateralDecision).getD ({ config := directConfig }, {}, {})

def directFrames : List BusFrame :=
  (assembleFrames { safety := { allowLongitudinal := true } } stockLoaded 0 lateralDecision
    directOutput.2.2 {}).2.getD []

/-- Four frames: the torque 123, and an SCC frame over the stock template that stands by. -/
theorem direct_frames_safe : directFrames.length = 4 ∧ directOutput.2.2.steeringTorque = 123 ∧
    ∀ frame ∈ directFrames, SafeFrame signalReading lateralDecision 123 frame := by
  have torque : directOutput.2.2.steeringTorque = 123 := by decide +kernel
  have safe := @decision_frames_safe (.exact id id) directConfig { config := directConfig }
    directOutput.1 directCommand {} (.finite (1 / 100)) lateralDecision lateralDecision
    directOutput.2.2 { safety := { allowLongitudinal := true } } stockLoaded 0 signalReading
    directFrames (.created (by decide +kernel)) signalReading_documented (by decide +kernel)
    (by decide +kernel)
  rw [torque] at safe
  exact ⟨by decide +kernel, torque, safe.2.2.2.2.1⟩

end Ioniq5Ecan
