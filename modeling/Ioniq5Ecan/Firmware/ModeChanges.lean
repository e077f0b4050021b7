import Ioniq5Ecan.Firmware.ToggleLockstep

/-! # Mode changes and driver intent

`DriverIntent` is what a session is for: the channels the driver selected and
what decides the next edge, as a function of the messages alone.  Between two
hooks it is the session's copy; the receive hook works on its own, which
`enforce` copies back and a mode change reloads.  `received_intent` says that a
message takes the firmware where it takes the model, `changed_intent` that a
mode change leaves it. -/
set_option autoImplicit false
namespace Ioniq5Ecan

open Library (CallMachine)

/-! ## The intent of the driver -/

structure DriverIntent where
  blocked : Bool
  selection : Selection
  memory : Firmware.HookMemory

/-- The presses of a button frame, against the remembered buttons. -/
def Firmware.HookMemory.presses (memory : HookMemory) (button : UInt8) (lda : Bool) : List Press :=
  (if lda && !memory.lda then [.laneKeep] else []) ++
    (if button != hyundaiBtnSet && memory.cruise == hyundaiBtnSet then [.set] else [])

namespace DriverIntent

def isButton (intent : DriverIntent) (msg : CanPacket) : Bool :=
  msg.addr == if intent.memory.alternate then 0x1AA else 0x1CF

/-- The first button frame of the session's bus is remembered as held. -/
def prime (intent : DriverIntent) (msg : CanPacket) : DriverIntent :=
  if intent.isButton msg && msg.bus == 0 then
    { intent with
      memory := intent.memory.prime (msg.cruiseButton intent.memory.alternate)
        (msg.ldaButton intent.memory.alternate) }
  else intent

def push (powertrainBus : UInt8) (intent : DriverIntent) (msg : CanPacket) : DriverIntent :=
  let button := msg.cruiseButton intent.memory.alternate
  let lda := msg.ldaButton intent.memory.alternate
  if msg.bus == powertrainBus && intent.isButton msg then
    { intent with
      selection := intent.selection.pressAll intent.memory.combined
        (intent.memory.presses button lda)
      memory := intent.memory.store button lda }
  else intent

def brake (powertrainBus : UInt8) (intent : DriverIntent) (msg : CanPacket) : DriverIntent :=
  if msg.bus == powertrainBus && msg.addr == 0x175 && msg.getBit 81 then
    { intent with selection := { intent.selection with longitudinal := false } }
  else intent

def cancel (intent : DriverIntent) (msg : CanPacket) : DriverIntent :=
  if intent.isButton msg && msg.bus == 0 && intent.memory.cruise == hyundaiBtnCancel then
    { intent with blocked := true }
  else intent

def settle (intent : DriverIntent) : DriverIntent :=
  { intent with
    selection :=
      ⟨intent.selection.lateral && !intent.blocked,
        intent.selection.longitudinal && !intent.blocked⟩ }

def receive (powertrainBus : UInt8) (intent : DriverIntent) (msg : CanPacket) : DriverIntent :=
  ((((intent.prime msg).push powertrainBus msg).brake powertrainBus msg).cancel msg).settle

end DriverIntent

namespace Firmware

def intent (firmware : Firmware) : DriverIntent where
  blocked := firmware.sessionBlocked
  selection := ⟨firmware.sessionLateral, firmware.sessionLongitudinal⟩
  memory :=
    { firmware.memory with lda := firmware.sessionLdaPrev, cruise := firmware.sessionCruisePrev }

/-- The copy the receive hook works on. -/
def liveIntent (firmware : Firmware) : DriverIntent where
  blocked := firmware.sessionBlocked
  selection := firmware.selection
  memory := firmware.memory

section Intent
variable {hooks : OpendbcHooks} {opendbc : Opendbc} {firmware before after : Firmware}
  {msg : CanPacket} {now : UInt32} {valid : Bool}

theorem Settled.liveIntent (settled : Settled hooks firmware) :
    firmware.liveIntent = firmware.intent := by
  unfold Firmware.liveIntent intent selection memory
  rw [settled.lateral, settled.longitudinal, settled.lda, settled.cruise]

theorem Enforced.intent (enforced : Enforced opendbc before after now valid)
    (sound : before.faulty valid = false) : after.intent = before.liveIntent.settle := by
  have blocked : after.sessionBlocked = before.sessionBlocked := by
    rw [enforced.blocked, sound, Bool.or_false]
  unfold Firmware.intent Firmware.liveIntent DriverIntent.settle memory selection
  rw [enforced.lateral, enforced.longitudinal, blocked, enforced.profile, enforced.alternate,
    enforced.combined, enforced.buttonSeen, enforced.ignoreSet, enforced.lda, enforced.cruise]

theorem isButton_iff : firmware.liveIntent.isButton msg = (msg.addr == firmware.buttonAddress) :=
  rfl

theorem primed_liveIntent :
    (firmware.primed msg).liveIntent = firmware.liveIntent.prime msg := by
  unfold DriverIntent.prime
  rw [isButton_iff]
  by_cases onButton : (msg.addr == firmware.buttonAddress && msg.bus == 0) = true
  · rw [if_pos onButton]
    obtain ⟨address, bus⟩ := Bool.and_eq_true_iff.mp onButton
    have remembered := @primed_memory firmware msg (eq_of_beq address) (eq_of_beq bus)
    have untouched : (firmware.primed msg).sessionBlocked = firmware.sessionBlocked ∧
        (firmware.primed msg).selection = firmware.selection := by
      unfold primed
      dsimp only
      split_ifs
      all_goals exact ⟨rfl, rfl⟩
    unfold liveIntent
    rw [remembered, untouched.1, untouched.2]
    rfl
  · rw [if_neg onButton]
    unfold primed
    rw [Bool.not_eq_true] at onButton
    simp only [onButton, Bool.and_false, Bool.false_eq_true, if_false]

theorem presses_memory (address : msg.addr = firmware.buttonAddress) :
    firmware.presses msg =
      firmware.memory.presses (msg.cruiseButton firmware.altButtons)
        (msg.ldaButton firmware.altButtons) := by
  unfold presses HookMemory.presses ldaPressed setReleased
  rw [alternate_of_address address]
  rfl

theorem buttons_liveIntent (tracks : opendbc.TracksButton) (split : firmware.splitButtonArm = true)
    (address : msg.addr = firmware.buttonAddress) :
    (firmware.buttons opendbc msg).liveIntent =
      { firmware.liveIntent with
        selection := firmware.selection.pressAll firmware.hyundaiLongitudinal
          (firmware.memory.presses (msg.cruiseButton firmware.altButtons)
            (msg.ldaButton firmware.altButtons))
        memory := firmware.memory.store (msg.cruiseButton firmware.altButtons)
          (msg.ldaButton firmware.altButtons) } := by
  have toggles := (@buttons_selection opendbc firmware msg split).1
  have remembers := @buttons_memory opendbc firmware msg tracks
  have untouched : (firmware.buttons opendbc msg).sessionBlocked = firmware.sessionBlocked := by
    rw [buttons_edges]
    dsimp only
    split_ifs
    all_goals rfl
  rw [presses_memory address] at toggles
  rw [alternate_of_address address] at remembers
  unfold liveIntent
  rw [toggles, remembers, untouched]

theorem pushed_liveIntent (tracks : opendbc.TracksButton) (split : firmware.splitButtonArm = true) :
    (if msg.bus == opendbc.powertrainBus && msg.addr == firmware.buttonAddress then
        firmware.buttons opendbc msg else firmware).liveIntent =
      firmware.liveIntent.push opendbc.powertrainBus msg := by
  unfold DriverIntent.push
  rw [isButton_iff]
  by_cases button : (msg.bus == opendbc.powertrainBus && msg.addr == firmware.buttonAddress) = true
  · rw [if_pos button, if_pos button]
    exact buttons_liveIntent tracks split (eq_of_beq (Bool.and_eq_true_iff.mp button).2)
  · rw [if_neg button, if_neg button]

theorem braked_liveIntent (split : firmware.splitButtonArm = true) :
    (if msg.bus == opendbc.powertrainBus && msg.addr == 0x175 then firmware.brake msg
        else firmware).liveIntent =
      firmware.liveIntent.brake opendbc.powertrainBus msg := by
  unfold DriverIntent.brake Firmware.brake
  cases here : (msg.bus == opendbc.powertrainBus && msg.addr == 0x175) with
  | false => rfl
  | true =>
      cases pressed : msg.getBit 81 with
      | false => simp only [split, Bool.and_false, if_true, if_false, Bool.false_eq_true]
      | true =>
          simp only [split, Bool.and_true, if_true]
          rfl

theorem canfdRxHook_liveIntent (tracks : opendbc.TracksButton)
    (split : firmware.splitButtonArm = true) :
    (firmware.canfdRxHook opendbc msg).liveIntent =
      (firmware.liveIntent.push opendbc.powertrainBus msg).brake opendbc.powertrainBus msg := by
  have still : SameSetting firmware
      (if msg.bus == opendbc.powertrainBus && msg.addr == firmware.buttonAddress then
        firmware.buttons opendbc msg else firmware) :=
    .ite (buttons_setting ..) (.refl _)
  rw [← pushed_liveIntent tracks split, ← braked_liveIntent (still.split.trans split)]
  rfl

theorem sessionRx_liveIntent (tracks : opendbc.TracksButton)
    (session : firmware.sessionProfile ≠ 0) (split : firmware.splitButtonArm = true) :
    (firmware.sessionRx opendbc msg).liveIntent.settle =
      firmware.liveIntent.receive opendbc.powertrainBus msg := by
  have primes := firmware.primed_setting msg
  have hooks : SameSetting firmware (firmware.hooked opendbc msg) :=
    primes.trans (canfdRxHook_setting ..)
  have hooked : (firmware.hooked opendbc msg).liveIntent =
      ((firmware.liveIntent.prime msg).push opendbc.powertrainBus msg).brake
        opendbc.powertrainBus msg := by
    rw [← primed_liveIntent]
    exact canfdRxHook_liveIntent tracks (primes.split.trans split)
  have sameButton : (firmware.hooked opendbc msg).liveIntent.isButton msg =
      (msg.addr == firmware.buttonAddress) := by
    rw [isButton_iff]
    unfold buttonAddress
    rw [hooks.alternate]
  unfold DriverIntent.receive DriverIntent.cancel
  rw [← hooked, sameButton, sessionRx_eq]
  have cancelled : (firmware.hooked opendbc msg).liveIntent.memory.cruise =
      (firmware.hooked opendbc msg).cruiseButtonPrev := rfl
  rw [cancelled]
  unfold cancels onButton
  by_cases cancel : (msg.addr == firmware.buttonAddress && msg.bus == 0 &&
      (firmware.hooked opendbc msg).cruiseButtonPrev == hyundaiBtnCancel) = true
  · have active : (firmware.hooked opendbc msg).sessionProfile ≠ 0 := by
      rw [hooks.profile]
      exact session
    rw [if_pos cancel, if_pos cancel, abort_eq _ active]
    unfold DriverIntent.settle liveIntent selection
    simp only [Bool.not_true, Bool.and_false]
    rfl
  · rw [if_neg cancel, if_neg cancel]

@[mk_iff]
structure Passed (opendbc : Opendbc) (firmware : Firmware) (now : UInt32) (msg : CanPacket) :
    Prop where
  valid : (opendbc.rxMsgSafetyCheck firmware now msg).valid = true
  whitelisted : opendbc.whitelisted firmware msg = true
  sound : (firmware.received opendbc now msg).faulty true = false

theorem received_intent {layer : SafetyLayer} (tracks : hooks.toOpendbc.TracksButton)
    (settled : Settled hooks layer.toFirmware) (session : layer.sessionProfile ≠ 0)
    (passed : Passed hooks.toOpendbc layer.toFirmware now msg) :
    (layer.call hooks now (.rx msg)).intent = layer.intent.receive hooks.powertrainBus msg := by
  have ends := @SafetyLayer.rx_enforced hooks layer now session msg
  have handled : (layer.toFirmware.received hooks.toOpendbc now msg).liveIntent =
      ((layer.toFirmware.checked hooks.toOpendbc now msg).sessionRx hooks.toOpendbc
        msg).liveIntent := by
    have reaches : layer.toFirmware.handled hooks.toOpendbc now msg =
        (layer.toFirmware.checked hooks.toOpendbc now msg).sessionRx hooks.toOpendbc msg := by
      unfold Firmware.handled
      rw [passed.valid, passed.whitelisted, Bool.and_self, if_pos rfl,
        if_pos (bne_iff_ne.mpr session)]
    rw [← reaches]
    rfl
  have hook := @sessionRx_liveIntent hooks.toOpendbc
    (layer.toFirmware.checked hooks.toOpendbc now msg) msg tracks session settled.split
  rw [passed.valid] at ends
  rw [ends.intent passed.sound, handled, hook, ← settled.liveIntent]
  rfl

theorem changed_intent {layer : SafetyLayer} {mode param : UInt16}
    (settled : Settled hooks layer.toFirmware) (session : layer.sessionProfile ≠ 0)
    (same : requestedProfile mode param = layer.sessionProfile)
    (sound : (layer.relayMalfunction || layer.safetyRxChecksInvalid) = false) :
    (layer.call hooks now (.setSafetyHooks mode param)).intent = layer.intent := by
  have prepared : layer.toFirmware.prepare mode param = layer.toFirmware := by
    unfold prepare
    simp only [same, bne_self_eq_false, Bool.false_or, beq_iff_eq, session, if_false, sound,
      Bool.false_eq_true]
  have changed := @modeChanged hooks now mode param layer (same ▸ session)
  rw [prepared] at changed
  have configured := changed.toConfigured
  unfold SafetyLayer.call intent memory
  dsimp only
  rw [changed.blocked, changed.lateralKept, changed.longitudinalKept, changed.ldaKept,
    changed.cruiseKept, changed.buttonSeen, changed.ignoreSet, configured.alternate,
    configured.combined, changed.profile, settled.alternate, settled.combined]

end Intent

end Firmware

/-! ## Runs with mode changes -/

instance (opendbc : Opendbc) (firmware : Firmware) (now : UInt32) (msg : CanPacket) :
    Decidable (Firmware.Passed opendbc firmware now msg) :=
  decidable_of_iff' _ (Firmware.passed_iff ..)

def SafetyCall.isModeChange : SafetyCall → Bool
  | .setSafetyHooks _ _ => true
  | _ => false

/-- The calls of the Panda; a message answers with the intent it leaves. -/
def OpendbcHooks.intentCalls (hooks : OpendbcHooks) :
    CallMachine SafetyLayer (UInt32 × SafetyCall) (Option DriverIntent) where
  call layer entry :=
    let next := layer.call hooks entry.1 entry.2
    match entry.2 with
    | .rx _ => (next, some next.intent)
    | _ => (next, none)

def OpendbcHooks.intents (hooks : OpendbcHooks) (layer : SafetyLayer)
    (entries : List (UInt32 × SafetyCall)) : List DriverIntent :=
  (hooks.intentCalls.answers layer entries).reduceOption

/-- A valid whitelisted message, or a mode change with the session's profile, without a fault. -/
def PassedOrChanged (hooks : OpendbcHooks) (layer : SafetyLayer) : UInt32 × SafetyCall → Prop
  | (now, .rx msg) => Firmware.Passed hooks.toOpendbc layer.toFirmware now msg
  | (_, .setSafetyHooks mode param) =>
      requestedProfile mode param = layer.sessionProfile ∧
        (layer.relayMalfunction || layer.safetyRxChecksInvalid) = false
  | _ => False

instance (hooks : OpendbcHooks) (layer : SafetyLayer) :
    ∀ entry, Decidable (PassedOrChanged hooks layer entry)
  | (_, .rx _) => inferInstanceAs (Decidable (Firmware.Passed ..))
  | (_, .setSafetyHooks _ _) => inferInstanceAs (Decidable (_ ∧ _))
  | (_, .tick) => isFalse id
  | (_, .dropPermission _) => isFalse id
  | (_, .heartbeatAbort) => isFalse id

section Run
variable {hooks : OpendbcHooks} {layer : SafetyLayer}

open Firmware

theorem intentCalls_call (entry : UInt32 × SafetyCall) :
    (hooks.intentCalls.call layer entry).1 = layer.call hooks entry.1 entry.2 := by
  obtain ⟨now, call⟩ := entry
  cases call <;> rfl

theorem reached_settled (documented : hooks.Documented) (earlier : List (UInt32 × SafetyCall)) :
    (hooks.intentCalls.run {} earlier).sessionProfile ≠ 0 →
      Settled hooks (hooks.intentCalls.run {} earlier).toFirmware := by
  refine hooks.intentCalls.run_keeps
    (fun layer => layer.sessionProfile ≠ 0 → Settled hooks layer.toFirmware) ?_ earlier _ ?_
  · intro layer entry settled session
    rw [intentCalls_call] at session ⊢
    exact SafetyLayer.settled_call documented settled session
  · exact fun session => absurd rfl session

/-- An undisturbed run shows what the messages alone make of the intent. -/
theorem intents_trace (tracks : hooks.toOpendbc.TracksButton)
    (entries : List (UInt32 × SafetyCall)) (session : layer.sessionProfile ≠ 0)
    (settled : Settled hooks layer.toFirmware)
    (undisturbed : hooks.intentCalls.Quiet (fun layer entry => ¬ PassedOrChanged hooks layer entry)
      layer entries) :
    hooks.intents layer entries =
      CallMachine.trace
        (fun intent entry =>
          match entry.2 with
          | .rx msg => intent.receive hooks.powertrainBus msg
          | _ => intent)
        layer.intent (entries.filter fun entry => !entry.2.isModeChange) := by
  refine hooks.intentCalls.answers_trace _ (fun layer => layer.intent)
    (fun layer => layer.sessionProfile ≠ 0 ∧ Settled hooks layer.toFirmware) _
    (fun entry => entry.2.isModeChange) ?_ ?_ entries layer ⟨session, settled⟩ undisturbed
  · rintro layer ⟨now, call⟩ ⟨session, settled⟩ smooth change
    cases call with
    | setSafetyHooks mode param =>
        obtain ⟨same, sound⟩ := not_not.mp smooth
        have changed := @modeChanged hooks now mode param layer (same ▸ session)
        have profile := @SafetyLayer.setSafetyHooks_profile hooks layer now mode param
        refine ⟨⟨?_, changed.toSettled⟩, changed_intent settled session same sound, rfl⟩
        rw [intentCalls_call]
        show (layer.setSafetyHooks hooks now mode param).sessionProfile ≠ 0
        rw [profile, same]
        exact session
    | rx msg => cases change
    | tick => cases change
    | dropPermission param1 => cases change
    | heartbeatAbort => cases change
  · rintro layer ⟨now, call⟩ ⟨session, settled⟩ smooth message
    cases call with
    | rx msg =>
        have passed : Passed hooks.toOpendbc layer.toFirmware now msg := not_not.mp smooth
        have setting := received_setting hooks.toOpendbc layer.toFirmware now msg session
        have ends := @SafetyLayer.rx_enforced hooks layer now session msg
        refine ⟨⟨?_, SafetyLayer.settled_rx settled session msg⟩,
          received_intent tracks settled session passed, rfl⟩
        rw [intentCalls_call, ends.profile.trans setting.profile]
        exact session
    | setSafetyHooks mode param => cases message
    | tick => exact (smooth id).elim
    | dropPermission param1 => exact (smooth id).elim
    | heartbeatAbort => exact (smooth id).elim

/-- From any session reached, mode changes with its profile do not show in the selections and the
remembered buttons after each message. -/
theorem mode_changes_transparent (hooks : OpendbcHooks) (documented : hooks.Documented)
    (tracks : hooks.toOpendbc.TracksButton) (earlier entries : List (UInt32 × SafetyCall))
    (session : (hooks.intentCalls.run {} earlier).sessionProfile ≠ 0)
    (undisturbed : hooks.intentCalls.Quiet (fun layer entry => ¬ PassedOrChanged hooks layer entry)
      (hooks.intentCalls.run {} earlier) entries)
    (messagesUndisturbed : hooks.intentCalls.Quiet
      (fun layer entry => ¬ PassedOrChanged hooks layer entry) (hooks.intentCalls.run {} earlier)
      (entries.filter fun entry => !entry.2.isModeChange)) :
    hooks.intents (hooks.intentCalls.run {} earlier) entries =
      hooks.intents (hooks.intentCalls.run {} earlier)
        (entries.filter fun entry => !entry.2.isModeChange) := by
  have settled := reached_settled documented earlier session
  rw [intents_trace tracks entries session settled undisturbed,
    intents_trace tracks _ session settled messagesUndisturbed, List.filter_filter]
  simp only [Bool.and_self]

end Run

/-! ## A SET press with mode changes in between -/

theorem validHooks_tracks : validHooks.toOpendbc.TracksButton := by
  intro firmware button mainButton
  show (if firmware.hyundaiLongitudinal then _ else _ : Bool × UInt8).2 = _
  split
  · rfl
  · rfl

def sessionStart : List (UInt32 × SafetyCall) :=
  [(0, .setSafetyHooks safetyModeNoOutput sessionParam), (10000, .rx (brakeMsg false)),
    (20000, .rx (buttonsMsg 0))]

def pressWithModeChanges : List (UInt32 × SafetyCall) :=
  [(30000, .rx (buttonsMsg 2)), (40000, .setSafetyHooks safetyModeElm327 sessionParam),
    (50000, .rx (buttonsMsg 0)), (60000, .rx (brakeMsg true)),
    (70000, .setSafetyHooks safetyHyundaiCanfd sessionParam), (80000, .rx (brakeMsg false))]

theorem press_with_mode_changes :
    validHooks.intents (validHooks.intentCalls.run {} sessionStart) pressWithModeChanges =
      validHooks.intents (validHooks.intentCalls.run {} sessionStart)
        (pressWithModeChanges.filter fun entry => !entry.2.isModeChange) :=
  mode_changes_transparent validHooks validHooks_documented validHooks_tracks sessionStart
    pressWithModeChanges (by decide +kernel) (by decide +kernel) (by decide +kernel)

end Ioniq5Ecan
