import Ioniq5Ecan.Firmware.Session
import Ioniq5Ecan.Library.Runs

/-! # The hooks of the safety layer

`set_safety_hooks` and `safety_tick` around the session calls of the patches,
and the calls the Panda makes of the layer: received frames, the tick, mode
changes, request 0xB8 and the abort of a heartbeat mismatch.  What the patches
leave to upstream code is a member of `OpendbcHooks`, which again returns only
the variables it writes. -/
set_option autoImplicit false
namespace Ioniq5Ecan

open Library (CallMachine EventSystem)

def safetyModeElm327 : UInt16 := 3
def safetyModeNoOutput : UInt16 := 19

/-- The safety layer with the time of the last mode change. -/
structure SafetyLayer extends Firmware where
  sessionInitTs : UInt32 := 0
  deriving DecidableEq

/-- What `set_safety_hooks` resets before any init. -/
structure ModeReset where
  controlsAllowed : Bool
  relayMalfunction : Bool
  safetyRxChecksInvalid : Bool
  cruiseButtonPrev : UInt8

structure ModeInit where
  currentSafetyMode : UInt16
  hyundaiLongitudinal : Bool
  rxChecks : List RxCheck

structure OpendbcHooks extends Opendbc where
  modeReset : Firmware → UInt16 → UInt16 → ModeReset
  /-- `hyundai_common_init`: `hyundai_longitudinal`. -/
  longitudinalParam : UInt16 → Bool
  /-- The receive checks of `hyundai_canfd_init`. -/
  canfdChecks : UInt16 → List UInt32
  otherInit : Firmware → UInt16 → UInt16 → ModeInit
  /-- The lag limit of `safety_tick`, in microseconds. -/
  lagLimit : RxCheck → Nat
  /-- `is_msg_valid`. -/
  isMsgValid : RxCheck → Bool

/-! ## set_safety_hooks -/

def sessionRequested (mode param : UInt16) : Bool :=
  let base := param &&& ~~~((4 : UInt16) ||| 32)
  (mode == safetyModeNoOutput || mode == safetyModeElm327 || mode == safetyHyundaiCanfd) &&
    base == (1 ||| 1024 ||| 2048 ||| 4096)

/-- The session profile a mode change asks for; 0 is none. -/
def requestedProfile (mode param : UInt16) : UInt16 :=
  if sessionRequested mode param then param else 0

namespace Firmware

/-- `ioniq5_session_prepare`. -/
def prepare (firmware : Firmware) (mode param : UInt16) : Firmware :=
  let profile := requestedProfile mode param
  let firmware :=
    if profile != firmware.sessionProfile || profile == 0 then
      { firmware with
        sessionBlocked := false
        sessionLateral := false
        sessionLongitudinal := false
        sessionLdaPrev := false
        sessionCruisePrev := 0
        sessionButtonSeen := false
        sessionIgnoreSetRelease := false }
    else if firmware.relayMalfunction || firmware.safetyRxChecksInvalid then firmware.abort
    else firmware
  { firmware with sessionProfile := profile }

/-- `hyundai_canfd_init`, by way of `ioniq5_session_passive_init` or not: the checks start with
an empty status. -/
def canfdInit (hooks : OpendbcHooks) (firmware : Firmware) (mode param : UInt16) : Firmware :=
  { firmware with
    currentSafetyMode := mode
    hyundaiLongitudinal := hooks.longitudinalParam param
    altButtons := param &&& 32 != 0
    splitButtonArm := param &&& 1024 != 0
    ldaButtonPrev := false
    lateralControlsAllowed := false
    longitudinalControlsAllowed := false
    rxChecks := (hooks.canfdChecks param).map fun addr => { addr := addr } }

/-- The upstream body of `set_safety_hooks` between its two session calls. -/
def changeMode (hooks : OpendbcHooks) (firmware : Firmware) (mode param : UInt16) : Firmware :=
  let reset := hooks.modeReset firmware mode param
  let firmware := { firmware with
    controlsAllowed := reset.controlsAllowed
    relayMalfunction := reset.relayMalfunction
    safetyRxChecksInvalid := reset.safetyRxChecksInvalid
    cruiseButtonPrev := reset.cruiseButtonPrev }
  if firmware.sessionProfile != 0 || mode == safetyHyundaiCanfd then
    firmware.canfdInit hooks mode param
  else
    let other := hooks.otherInit firmware mode param
    { firmware with
      currentSafetyMode := other.currentSafetyMode
      hyundaiLongitudinal := other.hyundaiLongitudinal
      rxChecks := other.rxChecks }

/-- `ioniq5_session_finish_init`, without its time stamp. -/
def finishInit (firmware : Firmware) : Firmware :=
  if firmware.sessionProfile != 0 then
    { firmware with
      lateralControlsAllowed := firmware.sessionLateral
      longitudinalControlsAllowed := firmware.sessionLongitudinal
      ldaButtonPrev := firmware.sessionLdaPrev
      cruiseButtonPrev := firmware.sessionCruisePrev
      controlsAllowed := false }
  else firmware

end Firmware

namespace SafetyLayer

def setSafetyHooks (hooks : OpendbcHooks) (layer : SafetyLayer) (now : UInt32)
    (mode param : UInt16) : SafetyLayer :=
  let firmware := ((layer.toFirmware.prepare mode param).changeMode hooks mode param)
  { toFirmware := firmware.finishInit
    sessionInitTs := if firmware.sessionProfile != 0 then now else layer.sessionInitTs }

/-! ## safety_tick -/

def rxInitializing (hooks : OpendbcHooks) (layer : SafetyLayer) (check : RxCheck) (now : UInt32) :
    Bool :=
  layer.sessionProfile != 0 && !layer.sessionBlocked && !check.msgSeen &&
    decide (hooks.tsElapsed now layer.sessionInitTs ≤ 100000)

def lagging (hooks : OpendbcHooks) (check : RxCheck) (now : UInt32) : Bool :=
  decide (hooks.lagLimit check < (hooks.tsElapsed now check.lastTimestamp).toNat)

def rxChecksInvalid (hooks : OpendbcHooks) (layer : SafetyLayer) (now : UInt32) : Bool :=
  layer.rxChecks.any fun check =>
    !layer.rxInitializing hooks check now && (lagging hooks check now || !hooks.isMsgValid check)

def ticked (hooks : OpendbcHooks) (layer : SafetyLayer) (now : UInt32) : Firmware :=
  let withdraws := layer.rxChecks.any fun check =>
    layer.rxInitializing hooks check now || lagging hooks check now || !hooks.isMsgValid check
  { layer.toFirmware with
    controlsAllowed := layer.controlsAllowed && !withdraws
    safetyRxChecksInvalid := layer.rxChecksInvalid hooks now }

def safetyTick (hooks : OpendbcHooks) (layer : SafetyLayer) (now : UInt32) : SafetyLayer :=
  { layer with
    toFirmware := (layer.ticked hooks now).enforce hooks.toOpendbc now
      (!layer.rxChecksInvalid hooks now) }

end SafetyLayer

/-! ## The calls -/

inductive SafetyCall
  | rx (msg : CanPacket)
  | tick
  | setSafetyHooks (mode param : UInt16)
  | dropPermission (param1 : UInt16)
  | heartbeatAbort
  deriving DecidableEq

namespace SafetyLayer

def call (hooks : OpendbcHooks) (layer : SafetyLayer) (now : UInt32) : SafetyCall → SafetyLayer
  | .rx msg => { layer with toFirmware := (layer.safetyRxHook hooks.toOpendbc now msg).1 }
  | .tick => layer.safetyTick hooks now
  | .setSafetyHooks mode param => layer.setSafetyHooks hooks now mode param
  | .dropPermission param1 =>
      { layer with toFirmware := layer.toFirmware.dropPermission hooks.toOpendbc now param1 }
  | .heartbeatAbort => { layer with toFirmware := { layer.abort with controlsAllowed := false } }

end SafetyLayer

/-- What the session relies on of the upstream code. -/
structure OpendbcHooks.Documented (hooks : OpendbcHooks) : Prop where
  /-- The receive hook outside a session does not touch the session. -/
  keepsProfile : ∀ firmware msg, (hooks.hooksRx firmware msg).sessionProfile = firmware.sessionProfile
  /-- `safety_get_ts_elapsed` is the wrapped difference. -/
  elapsed : ∀ now last, hooks.tsElapsed now last = now - last
  /-- A check is stamped when its message is received, and not otherwise. -/
  stamps : ∀ firmware now msg, ∀ check ∈ (hooks.rxMsgSafetyCheck firmware now msg).rxChecks,
    check.msgSeen = true → check.lastTimestamp = now ∨ ∃ old ∈ firmware.rxChecks,
      old.msgSeen = true ∧ old.lastTimestamp = check.lastTimestamp
  /-- A check is found lagging before the timer comes round. -/
  lag : ∀ check, hooks.lagLimit check + 1000000 < 2 ^ 32

/-! ## What the end of a hook does -/

namespace Firmware

/-- The permission `ioniq5_session_enforce` grants. -/
def permitted (opendbc : Opendbc) (firmware : Firmware) (now : UInt32) : Bool :=
  firmware.currentSafetyMode == safetyHyundaiCanfd && firmware.ready opendbc now &&
    (firmware.sessionLateral || firmware.sessionLongitudinal)

/-- The abort condition of `ioniq5_session_enforce`. -/
def faulty (firmware : Firmware) (valid : Bool) : Bool :=
  !valid || firmware.relayMalfunction || firmware.safetyRxChecksInvalid

structure SameSetting (before after : Firmware) : Prop where
  profile : after.sessionProfile = before.sessionProfile
  mode : after.currentSafetyMode = before.currentSafetyMode
  rxChecks : after.rxChecks = before.rxChecks
  invalid : after.safetyRxChecksInvalid = before.safetyRxChecksInvalid
  alternate : after.altButtons = before.altButtons
  split : after.splitButtonArm = before.splitButtonArm
  combined : after.hyundaiLongitudinal = before.hyundaiLongitudinal
  staysBlocked : before.sessionBlocked = true → after.sessionBlocked = true

/-- `ioniq5_session_enforce` in a session. -/
structure Enforced (opendbc : Opendbc) (before after : Firmware) (now : UInt32) (valid : Bool) :
    Prop extends SameSetting before after where
  relay : after.relayMalfunction = before.relayMalfunction
  blocked : after.sessionBlocked = (before.sessionBlocked || before.faulty valid)
  lateral : after.sessionLateral = (before.lateralControlsAllowed && !after.sessionBlocked)
  longitudinal : after.sessionLongitudinal =
    (before.longitudinalControlsAllowed && !after.sessionBlocked)
  lateralLive : after.lateralControlsAllowed = after.sessionLateral
  longitudinalLive : after.longitudinalControlsAllowed = after.sessionLongitudinal
  lda : after.sessionLdaPrev = before.ldaButtonPrev
  cruise : after.sessionCruisePrev = before.cruiseButtonPrev
  ldaLive : after.ldaButtonPrev = before.ldaButtonPrev
  cruiseLive : after.cruiseButtonPrev = before.cruiseButtonPrev
  buttonSeen : after.sessionButtonSeen = before.sessionButtonSeen
  ignoreSet : after.sessionIgnoreSetRelease = before.sessionIgnoreSetRelease
  controls : after.controlsAllowed = after.permitted opendbc now

theorem permitted_of_blocked {opendbc : Opendbc} {firmware : Firmware} {now : UInt32}
    (blocked : firmware.sessionBlocked = true) : firmware.permitted opendbc now = false := by
  have notReady : firmware.ready opendbc now = false := by
    unfold ready
    simp [blocked]
  unfold permitted
  rw [notReady, Bool.and_false, Bool.false_and]

theorem abort_eq (firmware : Firmware) (profile : firmware.sessionProfile ≠ 0) :
    firmware.abort = { firmware with
      sessionBlocked := true
      sessionLateral := false
      sessionLongitudinal := false
      lateralControlsAllowed := false
      longitudinalControlsAllowed := false
      controlsAllowed := false } :=
  if_pos (bne_iff_ne.mpr profile)

theorem enforced (opendbc : Opendbc) (firmware : Firmware) (now : UInt32) (valid : Bool)
    (profile : firmware.sessionProfile ≠ 0) :
    Enforced opendbc firmware (firmware.enforce opendbc now valid) now valid := by
  unfold enforce
  rw [if_pos (bne_iff_ne.mpr profile)]
  dsimp only
  rw [show (!valid || firmware.relayMalfunction || firmware.safetyRxChecksInvalid) =
    firmware.faulty valid from rfl]
  cases fault : firmware.faulty valid with
  | true =>
      simp only [if_true, firmware.abort_eq profile]
      exact
        { profile := rfl, mode := rfl, rxChecks := rfl, relay := rfl, invalid := rfl
          alternate := rfl, split := rfl, combined := rfl, staysBlocked := fun _ => rfl
          blocked := by rw [fault, Bool.or_true]
          lateral := (Bool.and_false _).symm, longitudinal := (Bool.and_false _).symm
          lateralLive := rfl, longitudinalLive := rfl, lda := rfl, cruise := rfl
          ldaLive := rfl, cruiseLive := rfl, buttonSeen := rfl, ignoreSet := rfl
          controls := rfl }
  | false =>
      simp only [Bool.false_eq_true, if_false]
      cases blocked : firmware.sessionBlocked with
      | true =>
          simp only [if_true]
          exact
            { profile := rfl, mode := rfl, rxChecks := rfl, relay := rfl, invalid := rfl
              alternate := rfl, split := rfl, combined := rfl, staysBlocked := fun _ => rfl
              blocked := by simp only [blocked, Bool.true_or]
              lateral := by simp only [Bool.not_true, Bool.and_false]
              longitudinal := by simp only [Bool.not_true, Bool.and_false]
              lateralLive := rfl, longitudinalLive := rfl, lda := rfl, cruise := rfl
              ldaLive := rfl, cruiseLive := rfl, buttonSeen := rfl, ignoreSet := rfl
              controls := rfl }
      | false =>
          simp only [Bool.false_eq_true, if_false]
          exact
            { profile := rfl, mode := rfl, rxChecks := rfl, relay := rfl, invalid := rfl
              alternate := rfl, split := rfl, combined := rfl, staysBlocked := id
              blocked := by simp only [blocked, fault, Bool.or_false]
              lateral := by simp only [blocked, Bool.not_false, Bool.and_true]
              longitudinal := by simp only [blocked, Bool.not_false, Bool.and_true]
              lateralLive := rfl, longitudinalLive := rfl, lda := rfl, cruise := rfl
              ldaLive := rfl, cruiseLive := rfl, buttonSeen := rfl, ignoreSet := rfl
              controls := rfl }

/-! ## The parts of a received message -/

/-- `ioniq5_session_rx` up to the call of the hook. -/
def primed (firmware : Firmware) (msg : CanPacket) : Firmware :=
  let onButton := msg.addr == firmware.buttonAddress && msg.bus == 0
  let cruise := msg.cruiseButton firmware.altButtons
  let firmware :=
    if !firmware.sessionButtonSeen && onButton then
      { firmware with
        ldaButtonPrev := msg.ldaButton firmware.altButtons
        cruiseButtonPrev := cruise
        sessionButtonSeen := true
        sessionIgnoreSetRelease := cruise == hyundaiBtnSet }
    else firmware
  if firmware.sessionIgnoreSetRelease && onButton then
    { firmware with
      cruiseButtonPrev := cruise
      sessionIgnoreSetRelease :=
        if cruise != hyundaiBtnSet then false else firmware.sessionIgnoreSetRelease }
  else firmware

def setReleased (firmware : Firmware) (msg : CanPacket) : Bool :=
  msg.cruiseButton (msg.addr != 0x1CF) != hyundaiBtnSet &&
    firmware.cruiseButtonPrev == hyundaiBtnSet

def ldaPressed (firmware : Firmware) (msg : CanPacket) : Bool :=
  msg.ldaButton (msg.addr != 0x1CF) && !firmware.ldaButtonPrev

def onButton (firmware : Firmware) (msg : CanPacket) : Bool :=
  msg.addr == firmware.buttonAddress && msg.bus == 0

/-- The hook as `ioniq5_session_rx` calls it. -/
def hooked (opendbc : Opendbc) (firmware : Firmware) (msg : CanPacket) : Firmware :=
  (firmware.primed msg).canfdRxHook opendbc msg

/-- The CANCEL press that aborts in `ioniq5_session_rx`. -/
def cancels (opendbc : Opendbc) (firmware : Firmware) (msg : CanPacket) : Bool :=
  firmware.onButton msg && (firmware.hooked opendbc msg).cruiseButtonPrev == hyundaiBtnCancel

def checked (opendbc : Opendbc) (firmware : Firmware) (now : UInt32) (msg : CanPacket) :
    Firmware :=
  { firmware with
    rxChecks := (opendbc.rxMsgSafetyCheck firmware now msg).rxChecks
    controlsAllowed := (opendbc.rxMsgSafetyCheck firmware now msg).controlsAllowed }

def handled (opendbc : Opendbc) (firmware : Firmware) (now : UInt32) (msg : CanPacket) :
    Firmware :=
  if (opendbc.rxMsgSafetyCheck firmware now msg).valid && opendbc.whitelisted firmware msg then
    if firmware.sessionProfile != 0 then (firmware.checked opendbc now msg).sessionRx opendbc msg
    else opendbc.hooksRx (firmware.checked opendbc now msg) msg
  else firmware.checked opendbc now msg

/-- `safety_rx_hook` up to its session call. -/
def received (opendbc : Opendbc) (firmware : Firmware) (now : UInt32) (msg : CanPacket) :
    Firmware :=
  { firmware.handled opendbc now msg with
    controlsAllowed := (opendbc.genericChecks (firmware.handled opendbc now msg) msg).1
    relayMalfunction := (opendbc.genericChecks (firmware.handled opendbc now msg) msg).2 }

section Message
variable (opendbc : Opendbc) (firmware : Firmware) (now : UInt32) (msg : CanPacket)

/-- What the hook's button block does with its two edges. -/
theorem buttons_edges :
    firmware.buttons opendbc msg =
      let checked := opendbc.cruiseButtonsCheck firmware (msg.cruiseButton (msg.addr != 0x1CF))
        (msg.mainButton (msg.addr != 0x1CF))
      let stored :=
        { firmware with controlsAllowed := checked.1, cruiseButtonPrev := checked.2 }
      let toggled :=
        if stored.splitButtonArm then
          let lateral := if firmware.ldaPressed msg then stored.toggleLateralOnly else stored
          let combined :=
            if lateral.hyundaiLongitudinal && firmware.setReleased msg then lateral.toggleCombined
            else lateral
          { combined with
            controlsAllowed :=
              combined.lateralControlsAllowed || combined.longitudinalControlsAllowed }
        else stored
      { toggled with ldaButtonPrev := msg.ldaButton (msg.addr != 0x1CF) } := rfl

theorem sessionRx_eq : firmware.sessionRx opendbc msg =
    if firmware.cancels opendbc msg then (firmware.hooked opendbc msg).abort
    else firmware.hooked opendbc msg :=
  rfl

theorem safetyRxHook_eq : (firmware.safetyRxHook opendbc now msg).1 =
    (firmware.received opendbc now msg).enforce opendbc now
      (opendbc.rxMsgSafetyCheck firmware now msg).valid :=
  rfl

theorem SameSetting.refl : SameSetting firmware firmware :=
  ⟨rfl, rfl, rfl, rfl, rfl, rfl, rfl, id⟩

variable {opendbc firmware now msg} {before middle after other : Firmware}

theorem SameSetting.trans (first : SameSetting before middle) (second : SameSetting middle after) :
    SameSetting before after where
  profile := second.profile.trans first.profile
  mode := second.mode.trans first.mode
  rxChecks := second.rxChecks.trans first.rxChecks
  invalid := second.invalid.trans first.invalid
  alternate := second.alternate.trans first.alternate
  split := second.split.trans first.split
  combined := second.combined.trans first.combined
  staysBlocked := fun blocked => second.staysBlocked (first.staysBlocked blocked)

theorem SameSetting.ite {condition : Bool} (first : SameSetting before after)
    (second : SameSetting before other) :
    SameSetting before (if condition then after else other) := by
  split
  · exact first
  · exact second

variable (opendbc firmware now msg)

theorem abort_setting : SameSetting firmware firmware.abort :=
  .ite ⟨rfl, rfl, rfl, rfl, rfl, rfl, rfl, fun _ => rfl⟩ (.refl _)

theorem buttons_setting : SameSetting firmware (firmware.buttons opendbc msg) := by
  unfold buttons
  dsimp only
  split_ifs
  all_goals exact ⟨rfl, rfl, rfl, rfl, rfl, rfl, rfl, id⟩

theorem brake_setting : SameSetting firmware (firmware.brake msg) :=
  .ite ⟨rfl, rfl, rfl, rfl, rfl, rfl, rfl, id⟩ (.refl _)

theorem canfdRxHook_setting : SameSetting firmware (firmware.canfdRxHook opendbc msg) := by
  have buttons : SameSetting firmware
      (if msg.bus == opendbc.powertrainBus && msg.addr == firmware.buttonAddress then
        firmware.buttons opendbc msg else firmware) :=
    .ite (buttons_setting ..) (.refl _)
  generalize stage : (if msg.bus == opendbc.powertrainBus && msg.addr == firmware.buttonAddress then
    firmware.buttons opendbc msg else firmware) = pushed at buttons
  have brakes : SameSetting pushed
      (if msg.bus == opendbc.powertrainBus && msg.addr == 0x175 then pushed.brake msg
        else pushed) :=
    .ite (brake_setting ..) (.refl _)
  unfold canfdRxHook
  rw [stage]
  exact (buttons.trans brakes).trans ⟨rfl, rfl, rfl, rfl, rfl, rfl, rfl, id⟩

theorem primed_setting : SameSetting firmware (firmware.primed msg) := by
  unfold primed
  dsimp only
  split
  · split
    all_goals exact ⟨rfl, rfl, rfl, rfl, rfl, rfl, rfl, id⟩
  · split
    all_goals exact ⟨rfl, rfl, rfl, rfl, rfl, rfl, rfl, id⟩

theorem sessionRx_setting : SameSetting firmware (firmware.sessionRx opendbc msg) := by
  rw [sessionRx_eq]
  have hook : SameSetting firmware (firmware.hooked opendbc msg) :=
    (firmware.primed_setting msg).trans (canfdRxHook_setting ..)
  exact .ite (hook.trans (abort_setting _)) hook

theorem received_setting (profile : firmware.sessionProfile ≠ 0) :
    SameSetting (firmware.checked opendbc now msg) (firmware.received opendbc now msg) := by
  have handles : SameSetting (firmware.checked opendbc now msg)
      (firmware.handled opendbc now msg) := by
    unfold handled
    rw [if_pos (bne_iff_ne.mpr profile)]
    exact .ite (sessionRx_setting ..) (.refl _)
  exact handles.trans ⟨rfl, rfl, rfl, rfl, rfl, rfl, rfl, id⟩

end Message

/-! ## Between two hooks -/

/-- The hook reads the buttons of the session profile, with the split arm. -/
structure Configured (hooks : OpendbcHooks) (firmware : Firmware) : Prop where
  alternate : firmware.altButtons = (firmware.sessionProfile &&& 32 != 0)
  split : firmware.splitButtonArm = true
  combined : firmware.hyundaiLongitudinal = hooks.longitudinalParam firmware.sessionProfile

/-- Between two hooks of a session the variables of the receive hook repeat the session's. -/
structure Settled (hooks : OpendbcHooks) (firmware : Firmware) : Prop
    extends Configured hooks firmware where
  lateral : firmware.lateralControlsAllowed = firmware.sessionLateral
  longitudinal : firmware.longitudinalControlsAllowed = firmware.sessionLongitudinal
  lda : firmware.ldaButtonPrev = firmware.sessionLdaPrev
  cruise : firmware.cruiseButtonPrev = firmware.sessionCruisePrev

structure ModeChanged (hooks : OpendbcHooks) (prepared after : Firmware) (mode param : UInt16) :
    Prop extends Settled hooks after where
  profile : after.sessionProfile = prepared.sessionProfile
  blocked : after.sessionBlocked = prepared.sessionBlocked
  lateralKept : after.sessionLateral = prepared.sessionLateral
  longitudinalKept : after.sessionLongitudinal = prepared.sessionLongitudinal
  ldaKept : after.sessionLdaPrev = prepared.sessionLdaPrev
  cruiseKept : after.sessionCruisePrev = prepared.sessionCruisePrev
  buttonSeen : after.sessionButtonSeen = prepared.sessionButtonSeen
  ignoreSet : after.sessionIgnoreSetRelease = prepared.sessionIgnoreSetRelease
  controls : after.controlsAllowed = false
  rxChecks : after.rxChecks = (hooks.canfdChecks param).map fun addr => { addr := addr }
  relay : after.relayMalfunction = (hooks.modeReset prepared mode param).relayMalfunction
  invalid : after.safetyRxChecksInvalid =
    (hooks.modeReset prepared mode param).safetyRxChecksInvalid

section Between
variable {hooks : OpendbcHooks} {before after : Firmware} {now : UInt32} {valid : Bool}
  {mode param : UInt16}

theorem Configured.same (configured : Configured hooks before)
    (setting : SameSetting before after) : Configured hooks after where
  alternate := by rw [setting.alternate, setting.profile, configured.alternate]
  split := by rw [setting.split, configured.split]
  combined := by rw [setting.combined, setting.profile, configured.combined]

theorem Enforced.settled (configured : Configured hooks before)
    (enforced : Enforced hooks.toOpendbc before after now valid) : Settled hooks after :=
  { configured.same enforced.toSameSetting with
    lateral := enforced.lateralLive
    longitudinal := enforced.longitudinalLive
    lda := enforced.ldaLive.trans enforced.lda.symm
    cruise := enforced.cruiseLive.trans enforced.cruise.symm }

/-- A requested session profile is the parameter itself, and has the split arm. -/
theorem requestedProfile_spec (session : requestedProfile mode param ≠ 0) :
    requestedProfile mode param = param ∧ param &&& 1024 = 1024 := by
  unfold requestedProfile at session ⊢
  split at session
  · next requested =>
    rw [if_pos requested]
    refine ⟨rfl, ?_⟩
    have base : param &&& ~~~((4 : UInt16) ||| 32) = 1 ||| 1024 ||| 2048 ||| 4096 :=
      eq_of_beq (Bool.and_eq_true_iff.mp requested).2
    calc param &&& 1024
        = (param &&& ~~~((4 : UInt16) ||| 32)) &&& 1024 := by
          rw [UInt16.and_assoc]
          rfl
      _ = 1024 := by
          rw [base]
          rfl
  · exact absurd rfl session

theorem prepare_profile (firmware : Firmware) :
    (firmware.prepare mode param).sessionProfile = requestedProfile mode param := by
  unfold prepare
  rfl

theorem modeChanged (layer : SafetyLayer) (session : requestedProfile mode param ≠ 0) :
    ModeChanged hooks (layer.toFirmware.prepare mode param)
      (layer.setSafetyHooks hooks now mode param).toFirmware mode param := by
  obtain ⟨same, split⟩ := requestedProfile_spec session
  have profile : (layer.toFirmware.prepare mode param).sessionProfile = param :=
    (prepare_profile _).trans same
  have inSession : (param != 0) = true := bne_iff_ne.mpr (same ▸ session)
  generalize prepared : layer.toFirmware.prepare mode param = firmware at profile
  unfold SafetyLayer.setSafetyHooks
  rw [prepared]
  dsimp only
  unfold changeMode finishInit canfdInit
  simp only [profile, inSession, Bool.true_or, if_true]
  exact
    { alternate := rfl
      split := by rw [split]; rfl
      combined := rfl
      lateral := rfl, longitudinal := rfl, lda := rfl, cruise := rfl
      profile := profile.symm, blocked := rfl, lateralKept := rfl, longitudinalKept := rfl
      ldaKept := rfl, cruiseKept := rfl, buttonSeen := rfl, ignoreSet := rfl
      controls := rfl, rxChecks := rfl, relay := rfl, invalid := rfl }

end Between

end Firmware

/-! ## What each call ends with -/

namespace SafetyLayer
open Firmware

section Ends
variable {hooks : OpendbcHooks} {layer : SafetyLayer} {now : UInt32}

theorem rx_enforced (active : layer.sessionProfile ≠ 0) (msg : CanPacket) :
    Enforced hooks.toOpendbc (layer.toFirmware.received hooks.toOpendbc now msg)
      (layer.call hooks now (.rx msg)).toFirmware now
      (hooks.rxMsgSafetyCheck layer.toFirmware now msg).valid := by
  have profile := (received_setting hooks.toOpendbc layer.toFirmware now msg active).profile
  exact enforced _ _ _ _ (profile ▸ active)

theorem tick_enforced (active : layer.sessionProfile ≠ 0) :
    Enforced hooks.toOpendbc (layer.ticked hooks now) (layer.call hooks now .tick).toFirmware now
      (!layer.rxChecksInvalid hooks now) :=
  enforced _ _ _ _ active

theorem request_enforced (active : layer.sessionProfile ≠ 0) :
    Enforced hooks.toOpendbc
      { layer.toFirmware with sessionLongitudinal := false, longitudinalControlsAllowed := false }
      (layer.call hooks now (.dropPermission 1)).toFirmware now true := by
  have drops : (layer.call hooks now (.dropPermission 1)).toFirmware =
      Firmware.enforce hooks.toOpendbc { layer.toFirmware with
        sessionLongitudinal := false, longitudinalControlsAllowed := false } now true :=
    if_pos (by simp [active])
  rw [drops]
  exact enforced _ _ _ _ active

variable {mode param : UInt16}

theorem setSafetyHooks_profile :
    (layer.setSafetyHooks hooks now mode param).sessionProfile = requestedProfile mode param := by
  have prepared : (layer.toFirmware.prepare mode param).sessionProfile =
      requestedProfile mode param := prepare_profile _
  rw [← prepared]
  unfold setSafetyHooks finishInit changeMode canfdInit
  dsimp only
  split_ifs
  all_goals rfl

theorem setSafetyHooks_blocked :
    (layer.setSafetyHooks hooks now mode param).sessionBlocked =
      (layer.toFirmware.prepare mode param).sessionBlocked := by
  unfold setSafetyHooks finishInit changeMode canfdInit
  dsimp only
  split_ifs
  all_goals rfl

theorem request_ignored {param1 : UInt16} (other : param1 ≠ 1) :
    layer.call hooks now (.dropPermission param1) = layer := by
  have ignored : layer.toFirmware.dropPermission hooks.toOpendbc now param1 = layer.toFirmware :=
    if_neg (by simp [other])
  show ({ layer with
    toFirmware := layer.toFirmware.dropPermission hooks.toOpendbc now param1 } : SafetyLayer) = _
  rw [ignored]

theorem idle_call (documented : hooks.Documented) {call : SafetyCall}
    (idle : layer.sessionProfile = 0) (noChange : ∀ mode param, call ≠ .setSafetyHooks mode param) :
    (layer.call hooks now call).sessionProfile = 0 := by
  have none : ¬ (layer.sessionProfile != 0) = true := by simp [idle]
  cases call with
  | rx msg =>
      have handled : (layer.toFirmware.handled hooks.toOpendbc now msg).sessionProfile = 0 := by
        unfold Firmware.handled
        rw [if_neg none]
        split
        · exact (documented.keepsProfile _ _).trans idle
        · exact idle
      have received :
          ¬ ((layer.toFirmware.received hooks.toOpendbc now msg).sessionProfile != 0) = true := by
        rw [bne_iff_ne, not_not]
        exact handled
      have ends : (layer.call hooks now (.rx msg)).toFirmware =
          layer.toFirmware.received hooks.toOpendbc now msg := if_neg received
      exact (congrArg Firmware.sessionProfile ends).trans handled
  | tick =>
      have ends : (layer.call hooks now .tick).toFirmware = layer.ticked hooks now := if_neg none
      exact (congrArg Firmware.sessionProfile ends).trans idle
  | setSafetyHooks mode param => exact absurd rfl (noChange mode param)
  | dropPermission param1 =>
      have ends : (layer.call hooks now (.dropPermission param1)).toFirmware =
          layer.toFirmware := if_neg (by simp [idle])
      exact (congrArg Firmware.sessionProfile ends).trans idle
  | heartbeatAbort =>
      have ends : layer.toFirmware.abort = layer.toFirmware := if_neg none
      exact (congrArg Firmware.sessionProfile ends).trans idle

theorem settled_rx (settled : Settled hooks layer.toFirmware) (session : layer.sessionProfile ≠ 0)
    (msg : CanPacket) : Settled hooks (layer.call hooks now (.rx msg)).toFirmware := by
  have checked : Configured hooks (layer.toFirmware.checked hooks.toOpendbc now msg) :=
    { settled.toConfigured with }
  have received := checked.same
    (received_setting hooks.toOpendbc layer.toFirmware now msg session)
  exact (rx_enforced session msg).settled received

theorem settled_tick (settled : Settled hooks layer.toFirmware)
    (session : layer.sessionProfile ≠ 0) :
    Settled hooks (layer.call hooks now .tick).toFirmware := by
  have ticked : Configured hooks (layer.ticked hooks now) := { settled.toConfigured with }
  exact (tick_enforced session).settled ticked

theorem settled_request (settled : Settled hooks layer.toFirmware)
    (session : layer.sessionProfile ≠ 0) (param1 : UInt16) :
    Settled hooks (layer.call hooks now (.dropPermission param1)).toFirmware := by
  by_cases drops : param1 = 1
  · subst drops
    have dropped : Configured hooks { layer.toFirmware with
        sessionLongitudinal := false, longitudinalControlsAllowed := false } :=
      { settled.toConfigured with }
    exact (request_enforced session).settled dropped
  · rw [request_ignored drops]
    exact settled

theorem settled_heartbeat (settled : Settled hooks layer.toFirmware)
    (session : layer.sessionProfile ≠ 0) :
    Settled hooks (layer.call hooks now .heartbeatAbort).toFirmware := by
  show Settled hooks { layer.toFirmware.abort with controlsAllowed := false }
  rw [abort_eq _ session]
  exact { settled with lateral := rfl, longitudinal := rfl }

/-- Every call leaves a session settled, and settles the one it starts. -/
theorem settled_call (documented : hooks.Documented) {call : SafetyCall}
    (settled : layer.sessionProfile ≠ 0 → Settled hooks layer.toFirmware)
    (session : (layer.call hooks now call).sessionProfile ≠ 0) :
    Settled hooks (layer.call hooks now call).toFirmware := by
  by_cases change : ∃ mode param, call = .setSafetyHooks mode param
  · obtain ⟨mode, param, rfl⟩ := change
    exact (modeChanged layer fun none => session (setSafetyHooks_profile.trans none)).toSettled
  · have active : layer.sessionProfile ≠ 0 := fun idle =>
      session (idle_call documented idle fun mode param same => change ⟨mode, param, same⟩)
    cases call with
    | rx msg => exact settled_rx (settled active) active msg
    | tick => exact settled_tick (settled active) active
    | setSafetyHooks mode param => exact absurd ⟨mode, param, rfl⟩ change
    | dropPermission param1 => exact settled_request (settled active) active param1
    | heartbeatAbort => exact settled_heartbeat (settled active) active

end Ends

end SafetyLayer

/-! ## Valid frames -/

def validHooks : OpendbcHooks :=
  { validFrames with
    modeReset := fun _ _ _ => ⟨false, false, false, 0⟩
    longitudinalParam := fun param => param &&& 4 != 0
    canfdChecks := fun param => [0x175, if param &&& 32 != 0 then 0x1AA else 0x1CF]
    otherInit := fun _ mode _ => ⟨mode, false, []⟩
    lagLimit := fun _ => 1000000
    isMsgValid := fun check =>
      check.validChecksum && check.validQualityFlag && decide (check.wrongCounters < 5) }

theorem validHooks_documented : validHooks.Documented where
  keepsProfile _ _ := rfl
  elapsed _ _ := rfl
  stamps firmware now msg check member seen := by
    obtain ⟨old, oldMember, rfl⟩ := List.mem_map.mp member
    by_cases same : (old.addr == msg.addr) = true
    · left
      rw [if_pos same]
    · rw [if_neg same] at seen ⊢
      exact .inr ⟨old, oldMember, seen, rfl⟩
  lag _ := (by decide : 1000000 + 1000000 < 2 ^ 32)

def sessionParam : UInt16 := 7173

end Ioniq5Ecan
