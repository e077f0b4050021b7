import Ioniq5Ecan.Types
import Mathlib.Tactic.MkIffOfInductiveProp

/-! # The firmware command session

`ioniq5_command_session.h` with the split-button hook of `hyundai_canfd.h` and
the 0xB7 and 0xB8 requests.  The code the patches leave as it is upstream
(message checks, the common button check, the generic checks) is the parameter
`Opendbc`; each of its members returns only the variables it writes. -/
set_option autoImplicit false
namespace Ioniq5Ecan

structure CanPacket where
  addr : UInt32
  bus : UInt8
  data : List UInt8
  deriving DecidableEq

namespace CanPacket

def byte (msg : CanPacket) (index : Nat) : UInt8 := msg.data.getD index 0

def getBit (msg : CanPacket) (bit : Nat) : Bool :=
  msg.byte (bit / 8) &&& (1 <<< UInt8.ofNat (bit % 8)) != 0

/-- The three-bit cruise button of CRUISE_BUTTONS or CRUISE_BUTTONS_ALT. -/
def cruiseButton (alternate : Bool) (msg : CanPacket) : UInt8 :=
  if alternate then (msg.byte 4 >>> 4) &&& 7 else msg.byte 2 &&& 7

def mainButton (alternate : Bool) (msg : CanPacket) : Bool :=
  if alternate then msg.getBit 34 else msg.getBit 19

def ldaButton (alternate : Bool) (msg : CanPacket) : Bool :=
  if alternate then msg.getBit 39 else msg.getBit 23

end CanPacket

def hyundaiBtnSet : UInt8 := 2
def hyundaiBtnCancel : UInt8 := 4
def safetyHyundaiCanfd : UInt16 := 28

/-- One receive check with the status the safety layer keeps of it. -/
structure RxCheck where
  addr : UInt32
  msgSeen : Bool := false
  validChecksum : Bool := false
  validQualityFlag : Bool := false
  wrongCounters : Nat := 0
  lastTimestamp : UInt32 := 0
  deriving DecidableEq

/-- The variables of the safety layer that the patched code reads or writes. -/
structure Firmware where
  sessionProfile : UInt16 := 0
  sessionBlocked : Bool := false
  sessionLateral : Bool := false
  sessionLongitudinal : Bool := false
  sessionLdaPrev : Bool := false
  sessionCruisePrev : UInt8 := 0
  sessionButtonSeen : Bool := false
  sessionIgnoreSetRelease : Bool := false
  altButtons : Bool := false
  splitButtonArm : Bool := false
  hyundaiLongitudinal : Bool := false
  ldaButtonPrev : Bool := false
  lateralControlsAllowed : Bool := false
  longitudinalControlsAllowed : Bool := false
  cruiseButtonPrev : UInt8 := 0
  controlsAllowed : Bool := false
  relayMalfunction : Bool := false
  safetyRxChecksInvalid : Bool := false
  currentSafetyMode : UInt16 := 0
  rxChecks : List RxCheck := []
  deriving DecidableEq

/-- What `rx_msg_safety_check` finds and writes. -/
structure RxChecked where
  valid : Bool
  rxChecks : List RxCheck
  controlsAllowed : Bool

/-- The upstream code around the patches. -/
structure Opendbc where
  maxWrongCounters : Nat
  /-- The bus whose frames the hook reads. -/
  powertrainBus : UInt8
  /-- `safety_get_ts_elapsed`. -/
  tsElapsed : UInt32 → UInt32 → UInt32
  rxMsgSafetyCheck : Firmware → UInt32 → CanPacket → RxChecked
  whitelisted : Firmware → CanPacket → Bool
  /-- `hyundai_common_cruise_buttons_check`: `controls_allowed` and `cruise_button_prev`. -/
  cruiseButtonsCheck : Firmware → UInt8 → Bool → Bool × UInt8
  /-- The signals of the hook that the patches leave alone: `controls_allowed`. -/
  otherSignals : Firmware → CanPacket → Bool
  /-- The receive hook in use outside a session. -/
  hooksRx : Firmware → CanPacket → Firmware
  /-- `generic_rx_checks` and `stock_ecu_check`: `controls_allowed` and `relay_malfunction`. -/
  genericChecks : Firmware → CanPacket → Bool × Bool

namespace Firmware

def abort (firmware : Firmware) : Firmware :=
  if firmware.sessionProfile != 0 then
    { firmware with
      sessionBlocked := true
      sessionLateral := false
      sessionLongitudinal := false
      lateralControlsAllowed := false
      longitudinalControlsAllowed := false
      controlsAllowed := false }
  else firmware

def ready (opendbc : Opendbc) (firmware : Firmware) (now : UInt32) : Bool :=
  if firmware.sessionProfile == 0 || firmware.sessionBlocked || firmware.relayMalfunction ||
      firmware.safetyRxChecksInvalid || firmware.rxChecks.length == 0 then false
  else firmware.rxChecks.all fun check =>
    check.msgSeen && check.validChecksum && check.validQualityFlag &&
      decide (check.wrongCounters < opendbc.maxWrongCounters) &&
      decide (opendbc.tsElapsed now check.lastTimestamp ≤ 100000)

def enforce (opendbc : Opendbc) (firmware : Firmware) (now : UInt32) (valid : Bool) : Firmware :=
  if firmware.sessionProfile != 0 then
    let firmware :=
      if !valid || firmware.relayMalfunction || firmware.safetyRxChecksInvalid then firmware.abort
      else firmware
    let firmware :=
      if firmware.sessionBlocked then
        { firmware with lateralControlsAllowed := false, longitudinalControlsAllowed := false }
      else firmware
    let firmware :=
      { firmware with
        sessionLateral := firmware.lateralControlsAllowed
        sessionLongitudinal := firmware.longitudinalControlsAllowed
        sessionLdaPrev := firmware.ldaButtonPrev
        sessionCruisePrev := firmware.cruiseButtonPrev }
    { firmware with
      controlsAllowed := firmware.currentSafetyMode == safetyHyundaiCanfd &&
        firmware.ready opendbc now && (firmware.sessionLateral || firmware.sessionLongitudinal) }
  else firmware

/-- LDA edge: lateral-only on, or off when it already is. -/
def toggleLateralOnly (firmware : Firmware) : Firmware :=
  let lateralOnly :=
    firmware.lateralControlsAllowed && !firmware.longitudinalControlsAllowed
  { firmware with lateralControlsAllowed := !lateralOnly, longitudinalControlsAllowed := false }

/-- SET release: both channels on, or off when both already are. -/
def toggleCombined (firmware : Firmware) : Firmware :=
  let combined := firmware.lateralControlsAllowed && firmware.longitudinalControlsAllowed
  { firmware with lateralControlsAllowed := !combined, longitudinalControlsAllowed := !combined }

/-- The cruise button block of `hyundai_canfd_rx_hook`. -/
def buttons (opendbc : Opendbc) (firmware : Firmware) (msg : CanPacket) : Firmware :=
  let alternate := msg.addr != 0x1CF
  let cruiseButton := msg.cruiseButton alternate
  let ldaButton := msg.ldaButton alternate
  let setReleased :=
    cruiseButton != hyundaiBtnSet && firmware.cruiseButtonPrev == hyundaiBtnSet
  let checked := opendbc.cruiseButtonsCheck firmware cruiseButton (msg.mainButton alternate)
  let firmware := { firmware with controlsAllowed := checked.1, cruiseButtonPrev := checked.2 }
  let firmware :=
    if firmware.splitButtonArm then
      let firmware :=
        if ldaButton && !firmware.ldaButtonPrev then firmware.toggleLateralOnly else firmware
      let firmware :=
        if firmware.hyundaiLongitudinal && setReleased then firmware.toggleCombined else firmware
      { firmware with
        controlsAllowed :=
          firmware.lateralControlsAllowed || firmware.longitudinalControlsAllowed }
    else firmware
  { firmware with ldaButtonPrev := ldaButton }

def brake (firmware : Firmware) (msg : CanPacket) : Firmware :=
  if firmware.splitButtonArm && msg.getBit 81 then
    { firmware with
      longitudinalControlsAllowed := false
      controlsAllowed := firmware.lateralControlsAllowed }
  else firmware

def buttonAddress (firmware : Firmware) : UInt32 := if firmware.altButtons then 0x1AA else 0x1CF

def canfdRxHook (opendbc : Opendbc) (firmware : Firmware) (msg : CanPacket) : Firmware :=
  let firmware :=
    if msg.bus == opendbc.powertrainBus && msg.addr == firmware.buttonAddress then
      firmware.buttons opendbc msg
    else firmware
  let firmware :=
    if msg.bus == opendbc.powertrainBus && msg.addr == 0x175 then firmware.brake msg
    else firmware
  { firmware with controlsAllowed := opendbc.otherSignals firmware msg }

def sessionRx (opendbc : Opendbc) (firmware : Firmware) (msg : CanPacket) : Firmware :=
  let onButton := msg.addr == firmware.buttonAddress && msg.bus == 0
  let cruise := msg.cruiseButton firmware.altButtons
  -- A button held at a cold start is not a new press.
  let firmware :=
    if !firmware.sessionButtonSeen && onButton then
      { firmware with
        ldaButtonPrev := msg.ldaButton firmware.altButtons
        cruiseButtonPrev := cruise
        sessionButtonSeen := true
        sessionIgnoreSetRelease := cruise == hyundaiBtnSet }
    else firmware
  let firmware :=
    if firmware.sessionIgnoreSetRelease && onButton then
      { firmware with
        cruiseButtonPrev := cruise
        sessionIgnoreSetRelease :=
          if cruise != hyundaiBtnSet then false else firmware.sessionIgnoreSetRelease }
    else firmware
  let firmware := firmware.canfdRxHook opendbc msg
  if onButton && firmware.cruiseButtonPrev == hyundaiBtnCancel then firmware.abort else firmware

/-- `safety_rx_hook`; the second component is its return value. -/
def safetyRxHook (opendbc : Opendbc) (firmware : Firmware) (now : UInt32) (msg : CanPacket) :
    Firmware × Bool :=
  let checked := opendbc.rxMsgSafetyCheck firmware now msg
  let whitelisted := opendbc.whitelisted firmware msg
  let firmware :=
    { firmware with rxChecks := checked.rxChecks, controlsAllowed := checked.controlsAllowed }
  let firmware :=
    if checked.valid && whitelisted then
      if firmware.sessionProfile != 0 then firmware.sessionRx opendbc msg
      else opendbc.hooksRx firmware msg
    else firmware
  let generic := opendbc.genericChecks firmware msg
  let firmware :=
    { firmware with controlsAllowed := generic.1, relayMalfunction := generic.2 }
  (firmware.enforce opendbc now checked.valid, checked.valid)

/-- `ioniq5_session_status`, the answer to request 0xB7. -/
def sessionStatus (opendbc : Opendbc) (firmware : Firmware) (now : UInt32) : UInt32 :=
  (if firmware.sessionLateral then 1 else 0) |||
    (if firmware.sessionLongitudinal then 2 else 0) |||
    (if firmware.ready opendbc now then 4 else 0) |||
    (if firmware.sessionBlocked then 8 else 0) |||
    (if firmware.sessionProfile != 0 then 16 else 0)

/-- Request 0xB8. -/
def dropPermission (opendbc : Opendbc) (firmware : Firmware) (now : UInt32) (param1 : UInt16) :
    Firmware :=
  if param1 == 1 && firmware.sessionProfile != 0 then
    let firmware :=
      { firmware with sessionLongitudinal := false, longitudinalControlsAllowed := false }
    firmware.enforce opendbc now true
  else firmware

end Firmware

/-- `PandaUsb::health`, the session part: the five bits of the status word. -/
def PandaHealth.withSession (health : PandaHealth) (status : UInt32) : PandaHealth :=
  { health with
    lateralSelected := status &&& 1 != 0
    longitudinalSelected := status &&& 2 != 0
    commandSessionReady := status &&& 4 != 0
    commandSessionBlocked := status &&& 8 != 0
    commandSessionActive := status &&& 16 != 0 }

/-- The host reads back the five facts the firmware packed. -/
theorem withSession_status (opendbc : Opendbc) (firmware : Firmware) (now : UInt32)
    (health : PandaHealth) :
    health.withSession (firmware.sessionStatus opendbc now) =
      { health with
        lateralSelected := firmware.sessionLateral
        longitudinalSelected := firmware.sessionLongitudinal
        commandSessionReady := firmware.ready opendbc now
        commandSessionBlocked := firmware.sessionBlocked
        commandSessionActive := firmware.sessionProfile != 0 } := by
  unfold PandaHealth.withSession Firmware.sessionStatus
  generalize firmware.sessionLateral = lateral
  generalize firmware.sessionLongitudinal = longitudinal
  generalize firmware.ready opendbc now = ready
  generalize firmware.sessionBlocked = blocked
  generalize (firmware.sessionProfile != 0) = active
  cases lateral <;> cases longitudinal <;> cases ready <;> cases blocked <;> cases active <;> rfl

/-! ## A running session -/

/-- What the common button check does for the session code: it stores the button. -/
def Opendbc.StoresButton (opendbc : Opendbc) : Prop :=
  ∀ firmware button mainButton, firmware.hyundaiLongitudinal = true →
    (opendbc.cruiseButtonsCheck firmware button mainButton).2 = button

namespace Firmware

/-- An unblocked session of the combined profile with LDA released; `setHeld` says whether the
last button frame had SET pressed. -/
@[mk_iff]
structure Running (firmware : Firmware) (lateral longitudinal setHeld : Bool) : Prop where
  profile : (firmware.sessionProfile != 0) = true
  notBlocked : firmware.sessionBlocked = false
  relay : firmware.relayMalfunction = false
  rxChecks : firmware.safetyRxChecksInvalid = false
  split : firmware.splitButtonArm = true
  combinedProfile : firmware.hyundaiLongitudinal = true
  buttonSeen : firmware.sessionButtonSeen = true
  releaseCounts : firmware.sessionIgnoreSetRelease = false
  ldaReleased : firmware.ldaButtonPrev = false
  set : (firmware.cruiseButtonPrev == hyundaiBtnSet) = setHeld
  lateralAllowed : firmware.lateralControlsAllowed = lateral
  longitudinalAllowed : firmware.longitudinalControlsAllowed = longitudinal

@[mk_iff]
structure Live (firmware : Firmware) (lateral longitudinal setHeld : Bool) : Prop
    extends Running firmware lateral longitudinal setHeld where
  lateralSession : firmware.sessionLateral = lateral
  longitudinalSession : firmware.sessionLongitudinal = longitudinal

@[mk_iff]
structure SetFrame (opendbc : Opendbc) (firmware : Firmware) (pressed : Bool) (msg : CanPacket) :
    Prop where
  bus : msg.bus = opendbc.powertrainBus
  addr : msg.addr = firmware.buttonAddress
  lda : msg.ldaButton firmware.altButtons = false
  notCancel : msg.cruiseButton firmware.altButtons ≠ hyundaiBtnCancel
  set : (msg.cruiseButton firmware.altButtons == hyundaiBtnSet) = pressed

structure OtherFrame (opendbc : Opendbc) (firmware : Firmware) (msg : CanPacket) : Prop where
  notButton : msg.addr ≠ firmware.buttonAddress
  noBrake : msg.bus = opendbc.powertrainBus → msg.addr = 0x175 → msg.getBit 81 = false

instance (firmware : Firmware) (lateral longitudinal setHeld : Bool) :
    Decidable (Running firmware lateral longitudinal setHeld) :=
  decidable_of_iff' _ (running_iff ..)

instance (firmware : Firmware) (lateral longitudinal setHeld : Bool) :
    Decidable (Live firmware lateral longitudinal setHeld) :=
  decidable_of_iff' _ (live_iff ..)

instance (opendbc : Opendbc) (firmware : Firmware) (pressed : Bool) (msg : CanPacket) :
    Decidable (SetFrame opendbc firmware pressed msg) :=
  decidable_of_iff' _ (setFrame_iff ..)

section Session
variable {opendbc : Opendbc} {firmware : Firmware} {now : UInt32} {msg : CanPacket}
  {lateral longitudinal setHeld pressed : Bool}

theorem Running.enforce (running : Running firmware lateral longitudinal setHeld) :
    Live (firmware.enforce opendbc now true) lateral longitudinal setHeld := by
  have enforced : firmware.enforce opendbc now true =
      { firmware with
        sessionLateral := firmware.lateralControlsAllowed
        sessionLongitudinal := firmware.longitudinalControlsAllowed
        sessionLdaPrev := firmware.ldaButtonPrev
        sessionCruisePrev := firmware.cruiseButtonPrev
        controlsAllowed := (firmware.enforce opendbc now true).controlsAllowed } := by
    simp [Firmware.enforce, running.profile, running.relay, running.rxChecks, running.notBlocked]
  rw [enforced]
  exact { running with
    lateralSession := running.lateralAllowed, longitudinalSession := running.longitudinalAllowed }

theorem Live.drop (live : Live firmware lateral longitudinal setHeld) :
    Live (firmware.dropPermission opendbc now 1) lateral false setHeld := by
  unfold dropPermission
  rw [if_pos (by simp [live.profile])]
  exact Running.enforce { live.toRunning with longitudinalAllowed := rfl }

/-- Once a button frame has been seen and its SET release counts, only the hook and CANCEL are
left of `sessionRx`. -/
theorem Running.sessionRx_eq (running : Running firmware lateral longitudinal setHeld) :
    firmware.sessionRx opendbc msg =
      if (msg.addr == firmware.buttonAddress && msg.bus == 0 &&
          (firmware.canfdRxHook opendbc msg).cruiseButtonPrev == hyundaiBtnCancel) = true then
        (firmware.canfdRxHook opendbc msg).abort
      else firmware.canfdRxHook opendbc msg := by
  simp [Firmware.sessionRx, running.buttonSeen, running.releaseCounts]

theorem Running.other (running : Running firmware lateral longitudinal setHeld)
    (other : OtherFrame opendbc firmware msg) :
    Running (firmware.sessionRx opendbc msg) lateral longitudinal setHeld := by
  have hooked : firmware.canfdRxHook opendbc msg =
      { firmware with controlsAllowed := opendbc.otherSignals firmware msg } := by
    unfold canfdRxHook
    rw [if_neg (by simp [other.notButton])]
    split
    · rename_i braking
      obtain ⟨bus, addr⟩ : msg.bus = opendbc.powertrainBus ∧ msg.addr = 0x175 := by
        simpa using braking
      simp [brake, other.noBrake bus addr]
    · rfl
  rw [running.sessionRx_eq, if_neg (by simp [other.notButton]), hooked]
  exact { running with }

theorem Running.toggleCombined (running : Running firmware lateral longitudinal setHeld) :
    Running firmware.toggleCombined (!(lateral && longitudinal)) (!(lateral && longitudinal))
      setHeld :=
  { running with
    lateralAllowed := by
      simp [Firmware.toggleCombined, running.lateralAllowed, running.longitudinalAllowed]
    longitudinalAllowed := by
      simp [Firmware.toggleCombined, running.lateralAllowed, running.longitudinalAllowed] }

def checkedButtons (opendbc : Opendbc) (firmware : Firmware) (msg : CanPacket) : Firmware :=
  let checked := opendbc.cruiseButtonsCheck firmware (msg.cruiseButton firmware.altButtons)
    (msg.mainButton firmware.altButtons)
  { firmware with controlsAllowed := checked.1, cruiseButtonPrev := checked.2 }

/-- With LDA released the button block is SET's falling edge. -/
theorem Running.buttons_eq (running : Running firmware lateral longitudinal setHeld)
    (frame : SetFrame opendbc firmware pressed msg) :
    ∃ controls, firmware.buttons opendbc msg =
      { (if (setHeld && !pressed) = true then (firmware.checkedButtons opendbc msg).toggleCombined
          else firmware.checkedButtons opendbc msg) with
        controlsAllowed := controls, ldaButtonPrev := false } := by
  have alternate : (msg.addr != 0x1CF) = firmware.altButtons := by
    rw [frame.addr, buttonAddress]
    cases firmware.altButtons <;> rfl
  have edge : (msg.cruiseButton firmware.altButtons != hyundaiBtnSet &&
      firmware.cruiseButtonPrev == hyundaiBtnSet) = (setHeld && !pressed) := by
    rw [bne, frame.set, running.set, Bool.and_comm]
  unfold Firmware.buttons
  simp only [alternate, edge, frame.lda, Bool.false_and, Bool.false_eq_true, if_false]
  rw [if_pos running.split]
  cases released : (setHeld && !pressed) with
  | true =>
      rw [if_pos (by simp [running.combinedProfile])]
      exact ⟨_, rfl⟩
  | false =>
      rw [if_neg (by simp)]
      exact ⟨_, rfl⟩

theorem Running.buttons (stores : opendbc.StoresButton)
    (running : Running firmware lateral longitudinal setHeld)
    (frame : SetFrame opendbc firmware pressed msg) :
    Running (firmware.buttons opendbc msg)
        (if setHeld && !pressed then !(lateral && longitudinal) else lateral)
        (if setHeld && !pressed then !(lateral && longitudinal) else longitudinal) pressed ∧
      (firmware.buttons opendbc msg).cruiseButtonPrev =
        msg.cruiseButton firmware.altButtons := by
  have stored : (firmware.checkedButtons opendbc msg).cruiseButtonPrev =
      msg.cruiseButton firmware.altButtons := stores _ _ _ running.combinedProfile
  have checked : Running (firmware.checkedButtons opendbc msg) lateral longitudinal pressed :=
    { running with set := by rw [stored]; exact frame.set }
  obtain ⟨controls, equation⟩ := running.buttons_eq frame
  rw [equation]
  split
  · exact ⟨{ checked.toggleCombined with ldaReleased := rfl }, stored⟩
  · exact ⟨{ checked with ldaReleased := rfl }, stored⟩

theorem Running.button (stores : opendbc.StoresButton)
    (running : Running firmware lateral longitudinal setHeld)
    (frame : SetFrame opendbc firmware pressed msg) :
    Running (firmware.sessionRx opendbc msg)
      (if setHeld && !pressed then !(lateral && longitudinal) else lateral)
      (if setHeld && !pressed then !(lateral && longitudinal) else longitudinal) pressed := by
  obtain ⟨pushed, stored⟩ := running.buttons stores frame
  have notBrake : msg.addr ≠ 0x175 := by
    rw [frame.addr, buttonAddress]
    cases firmware.altButtons <;> decide
  have hooked : firmware.canfdRxHook opendbc msg =
      { firmware.buttons opendbc msg with
        controlsAllowed := opendbc.otherSignals (firmware.buttons opendbc msg) msg } := by
    unfold canfdRxHook
    rw [if_pos (by simp [frame.bus, frame.addr])]
    dsimp only
    rw [if_neg (by simp [notBrake])]
  have noAbort : ((firmware.canfdRxHook opendbc msg).cruiseButtonPrev == hyundaiBtnCancel) =
      false := by
    rw [hooked]
    simpa [stored] using frame.notCancel
  rw [running.sessionRx_eq, if_neg (by simp [noAbort]), hooked]
  exact { pushed with }

structure Received (opendbc : Opendbc) (firmware : Firmware) (now : UInt32) (msg : CanPacket) :
    Prop where
  valid : (opendbc.rxMsgSafetyCheck firmware now msg).valid = true
  relay : ∀ after : Firmware, after.relayMalfunction = false →
    (opendbc.genericChecks after msg).2 = false

theorem Live.received (live : Live firmware lateral longitudinal setHeld)
    (received : Received opendbc firmware now msg) {lateral' longitudinal' setHeld' : Bool}
    (hook : opendbc.whitelisted firmware msg = true → ∀ before : Firmware,
      Running before lateral longitudinal setHeld → before.altButtons = firmware.altButtons →
        Running (before.sessionRx opendbc msg) lateral' longitudinal' setHeld')
    (ignored : opendbc.whitelisted firmware msg = false →
      lateral' = lateral ∧ longitudinal' = longitudinal ∧ setHeld' = setHeld) :
    Live (firmware.safetyRxHook opendbc now msg).1 lateral' longitudinal' setHeld' := by
  have checked : Running { firmware with
      rxChecks := (opendbc.rxMsgSafetyCheck firmware now msg).rxChecks
      controlsAllowed := (opendbc.rxMsgSafetyCheck firmware now msg).controlsAllowed }
      lateral longitudinal setHeld := { live.toRunning with }
  unfold safetyRxHook
  simp only [received.valid, Bool.true_and]
  by_cases listed : opendbc.whitelisted firmware msg = true
  · have hooked := hook listed _ checked rfl
    rw [if_pos listed, if_pos live.profile]
    exact Running.enforce { hooked with relay := received.relay _ hooked.relay }
  · obtain ⟨sameLateral, sameLongitudinal, sameSet⟩ := ignored (by simpa using listed)
    subst sameLateral sameLongitudinal sameSet
    rw [if_neg listed]
    exact Running.enforce { checked with relay := received.relay _ checked.relay }

theorem Live.other (live : Live firmware lateral longitudinal setHeld)
    (received : Received opendbc firmware now msg) (other : OtherFrame opendbc firmware msg) :
    Live (firmware.safetyRxHook opendbc now msg).1 lateral longitudinal setHeld := by
  refine live.received received (fun _ before running same => running.other ?_)
    fun _ => ⟨rfl, rfl, rfl⟩
  exact ⟨by rw [buttonAddress, same]; exact other.notButton, other.noBrake⟩

/-- A whitelisted SET frame: pressing changes nothing yet, releasing toggles both channels. -/
theorem Live.button (stores : opendbc.StoresButton)
    (live : Live firmware lateral longitudinal setHeld)
    (received : Received opendbc firmware now msg)
    (listed : opendbc.whitelisted firmware msg = true)
    (frame : SetFrame opendbc firmware pressed msg) :
    Live (firmware.safetyRxHook opendbc now msg).1
      (if setHeld && !pressed then !(lateral && longitudinal) else lateral)
      (if setHeld && !pressed then !(lateral && longitudinal) else longitudinal) pressed := by
  refine live.received received (fun _ before running same => running.button stores ?_)
    fun ignored => ?_
  · exact
      { bus := frame.bus
        addr := by rw [buttonAddress, same]; exact frame.addr
        lda := by rw [same]; exact frame.lda
        notCancel := by rw [same]; exact frame.notCancel
        set := by rw [same]; exact frame.set }
  · rw [listed] at ignored
    cases ignored

end Session
end Firmware

/-! ## Valid frames -/

def validFrames : Opendbc where
  maxWrongCounters := 5
  powertrainBus := 0
  tsElapsed now last := now - last
  rxMsgSafetyCheck firmware now msg :=
    { valid := true
      rxChecks := firmware.rxChecks.map fun check =>
        if check.addr == msg.addr then
          { check with
            msgSeen := true, validChecksum := true, validQualityFlag := true
            lastTimestamp := now }
        else check
      controlsAllowed := firmware.controlsAllowed }
  whitelisted firmware msg :=
    msg.bus == 0 && firmware.rxChecks.any fun check => check.addr == msg.addr
  cruiseButtonsCheck firmware button _ :=
    if firmware.hyundaiLongitudinal then
      let released (code : UInt8) : Bool := button != code && firmware.cruiseButtonPrev == code
      (button != hyundaiBtnCancel &&
        (released hyundaiBtnSet || released 1 || firmware.controlsAllowed), button)
    else (firmware.controlsAllowed, firmware.cruiseButtonPrev)
  otherSignals firmware _ := firmware.controlsAllowed
  hooksRx firmware _ := firmware
  genericChecks firmware _ := (firmware.controlsAllowed, firmware.relayMalfunction)

theorem validFrames_stores : validFrames.StoresButton := by
  intro firmware button mainButton combined
  simp [validFrames, combined]

def buttonsMsg (cruiseButton : UInt8) : CanPacket :=
  { addr := 0x1CF, bus := 0, data := [0, 0, cruiseButton, 0, 0, 0, 0, 0] }

def brakeMsg (pressed : Bool) : CanPacket :=
  { addr := 0x175, bus := 0
    data := [0, 0, 0, 0, 0, 0, 0, 0, 0, 0, if pressed then 2 else 0, 0] }

end Ioniq5Ecan
