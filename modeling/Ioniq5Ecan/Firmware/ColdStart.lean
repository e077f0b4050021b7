import Ioniq5Ecan.Firmware.ModeChanges

/-! # Buttons held at a cold start

A session remembers of its button messages what `hear` makes of them: the last
buttons, and whether SET has been held since the first one.  Mode changes with
the session's profile reload what they save, so that only the messages count.
A toggle then needs an edge seen whole: the button before it and the button
after it, and for SET also its absence earlier. -/
set_option autoImplicit false
namespace Ioniq5Ecan

open Library (CallMachine)

/-- What a button message shows of LDA and the cruise button. -/
structure ButtonMessage where
  cruise : UInt8
  lda : Bool
  deriving DecidableEq

def CanPacket.buttonMessage (alternate : Bool) (msg : CanPacket) : ButtonMessage :=
  ⟨msg.cruiseButton alternate, msg.ldaButton alternate⟩

/-! ## The memory of a list of button messages -/

namespace Firmware.HookMemory

def hear (memory : HookMemory) (message : ButtonMessage) : HookMemory :=
  (memory.prime message.cruise message.lda).store message.cruise message.lda

def hearAll (memory : HookMemory) (messages : List ButtonMessage) : HookMemory :=
  messages.foldl hear memory

structure Heard (messages : List ButtonMessage) (memory : HookMemory) : Prop where
  first : messages = [] → memory.seen = false
  seen : messages ≠ [] → memory.seen = true
  lda : ∀ last ∈ messages.getLast?, memory.lda = last.lda
  cruise : memory.combined = true → ∀ last ∈ messages.getLast?, memory.cruise = last.cruise
  ignoring : messages ≠ [] →
    memory.ignoring = messages.all fun message => message.cruise == hyundaiBtnSet

theorem Heard.hear {messages : List ButtonMessage} {memory : HookMemory}
    (heard : Heard messages memory) (message : ButtonMessage) :
    Heard (messages ++ [message]) (memory.hear message) where
  first := fun empty => absurd empty (by simp)
  seen := fun _ => rfl
  lda := by
    intro last member
    obtain rfl : message = last := by simpa using member
    rfl
  cruise := by
    intro combined last member
    obtain rfl : message = last := by simpa using member
    exact if_pos combined
  ignoring := by
    intro _
    have held : (memory.hear message).ignoring =
        ((if memory.seen then memory.ignoring else message.cruise == hyundaiBtnSet) &&
          message.cruise == hyundaiBtnSet) := rfl
    rw [held, List.all_append, List.all_cons, List.all_nil, Bool.and_true]
    by_cases empty : messages = []
    · rw [heard.first empty, empty]
      simp
    · rw [heard.seen empty, if_pos rfl, heard.ignoring empty]

theorem heard_all {memory : HookMemory} (fresh : memory.seen = false)
    (messages : List ButtonMessage) : Heard messages (memory.hearAll messages) := by
  induction messages using List.reverseRecOn with
  | nil =>
      exact
        { first := fun _ => fresh
          seen := fun some => absurd rfl some
          lda := fun last member => absurd member (by simp)
          cruise := fun _ last member => absurd member (by simp)
          ignoring := fun some => absurd rfl some }
  | append_singleton messages message ih =>
      unfold hearAll
      rw [List.foldl_append]
      exact ih.hear message

section Edges
variable {messages : List ButtonMessage} {memory : HookMemory} {message : ButtonMessage}

/-- An LDA edge of the hook was seen whole. -/
theorem Heard.ldaEdge (heard : Heard messages memory)
    (edge : (message.lda && !(memory.prime message.cruise message.lda).lda) = true) :
    ∃ last ∈ messages.getLast?, last.lda = false ∧ message.lda = true := by
  obtain ⟨pressed, released⟩ : message.lda = true ∧
      (memory.prime message.cruise message.lda).lda = false := by simpa using edge
  by_cases empty : messages = []
  · -- The first message is remembered before its own edge is looked for.
    have primed : (memory.prime message.cruise message.lda).lda = message.lda := by
      unfold prime
      simp [heard.first empty]
    rw [primed, pressed] at released
    cases released
  · have primed : (memory.prime message.cruise message.lda).lda = memory.lda := by
      unfold prime
      simp [heard.seen empty]
    have last := List.getLast?_eq_some_getLast empty
    refine ⟨messages.getLast empty, last, ?_, pressed⟩
    rw [← heard.lda _ last, ← primed]
    exact released

/-- So was a SET release, with SET let go before. -/
theorem Heard.setEdge (heard : Heard messages memory) (combined : memory.combined = true)
    (edge : (message.cruise != hyundaiBtnSet &&
      (memory.prime message.cruise message.lda).cruise == hyundaiBtnSet) = true) :
    ∃ last ∈ messages.getLast?, last.cruise = hyundaiBtnSet ∧ message.cruise ≠ hyundaiBtnSet ∧
      ∃ other ∈ messages, other.cruise ≠ hyundaiBtnSet := by
  obtain ⟨released, held⟩ : message.cruise ≠ hyundaiBtnSet ∧
      (memory.prime message.cruise message.lda).cruise = hyundaiBtnSet := by simpa using edge
  have compared : memory.seen = true ∧ memory.ignoring = false := by
    by_contra other
    have primed : (memory.prime message.cruise message.lda).cruise = message.cruise := by
      unfold prime
      cases seen : memory.seen with
      | false => simp
      | true => simp [seen] at other; simp [other]
    exact released (primed.symm.trans held)
  have some : messages ≠ [] := by
    intro empty
    have unseen := heard.first empty
    rw [compared.1] at unseen
    cases unseen
  have primed : (memory.prime message.cruise message.lda).cruise = memory.cruise := by
    unfold prime
    simp [compared]
  have last := List.getLast?_eq_some_getLast some
  refine ⟨messages.getLast some, last, ?_, released, ?_⟩
  · rw [← heard.cruise combined _ last, ← primed]
    exact held
  · have notAll := (heard.ignoring some).symm.trans compared.2
    simpa using notAll

end Edges
end Firmware.HookMemory

/-! ## The button messages of a session -/

def SafetyLayer.heard (hooks : OpendbcHooks) (layer : SafetyLayer) :
    UInt32 × SafetyCall → List ButtonMessage
  | (now, .rx msg) =>
      if layer.acceptsButton hooks.toOpendbc now msg then [msg.buttonMessage layer.altButtons]
      else []
  | _ => []

def OpendbcHooks.buttonMessages (hooks : OpendbcHooks) :
    SafetyLayer → List (UInt32 × SafetyCall) → List ButtonMessage
  | _, [] => []
  | layer, entry :: rest =>
      layer.heard hooks entry ++ hooks.buttonMessages (layer.call hooks entry.1 entry.2) rest

namespace Firmware

section Memory
variable {opendbc : Opendbc} {firmware : Firmware} {now : UInt32} {msg : CanPacket}

theorem sessionRx_other (bus : opendbc.powertrainBus = 0)
    (notButton : (msg.addr == firmware.buttonAddress && msg.bus == 0) = false) :
    (firmware.sessionRx opendbc msg).memory = firmware.memory := by
  have primed : firmware.primed msg = firmware := by
    unfold primed
    simp only [notButton, Bool.and_false, Bool.false_eq_true, if_false]
  have notRead : (msg.bus == opendbc.powertrainBus && msg.addr == firmware.buttonAddress) =
      false := by
    rw [bus, Bool.and_comm]
    exact notButton
  have hooked : (firmware.hooked opendbc msg).memory = firmware.memory := by
    unfold hooked canfdRxHook
    rw [primed, if_neg (by rw [notRead]; decide)]
    dsimp only
    split
    · exact brake_memory
    · rfl
  have keeps : firmware.cancels opendbc msg = false := by
    unfold cancels onButton
    rw [notButton, Bool.false_and]
  rw [sessionRx_eq, if_neg (by rw [keeps]; decide)]
  exact hooked

theorem safetyRxHook_other (bus : opendbc.powertrainBus = 0) (session : firmware.sessionProfile ≠ 0)
    (other : firmware.acceptsButton opendbc now msg = false) :
    (firmware.safetyRxHook opendbc now msg).1.memory = firmware.memory := by
  rw [safetyRxHook_eq, enforce_memory]
  show (firmware.handled opendbc now msg).memory = firmware.memory
  unfold handled
  by_cases passes : ((opendbc.rxMsgSafetyCheck firmware now msg).valid &&
      opendbc.whitelisted firmware msg) = true
  · rw [if_pos passes, if_pos (bne_iff_ne.mpr session)]
    have notButton : (msg.addr == firmware.buttonAddress && msg.bus == 0) = false := by
      obtain ⟨valid, listed⟩ := Bool.and_eq_true_iff.mp passes
      have profile : (firmware.sessionProfile != 0) = true := bne_iff_ne.mpr session
      unfold acceptsButton at other
      rw [profile, valid, listed, bus] at other
      cases address : (msg.addr == firmware.buttonAddress) with
      | false => rfl
      | true => simpa [address] using other
    exact @sessionRx_other opendbc (firmware.checked opendbc now msg) msg bus notButton
  · rw [if_neg passes]
    rfl

end Memory
end Firmware

namespace SafetyLayer
open Firmware

section Session
variable {hooks : OpendbcHooks} {layer : SafetyLayer} {now : UInt32} {profile : UInt16}

/-- A settled session of a profile. -/
structure InSession (hooks : OpendbcHooks) (profile : UInt16) (layer : SafetyLayer) : Prop where
  some : profile ≠ 0
  installed : layer.sessionProfile = profile
  settled : Settled hooks layer.toFirmware

def KeepsProfile (profile : UInt16) (call : SafetyCall) : Prop :=
  ∀ mode param, call = .setSafetyHooks mode param → requestedProfile mode param = profile

theorem InSession.active (session : InSession hooks profile layer) : layer.sessionProfile ≠ 0 := by
  rw [session.installed]
  exact session.some

theorem prepare_saved {mode param : UInt16} (session : InSession hooks profile layer)
    (same : requestedProfile mode param = profile) :
    (layer.toFirmware.prepare mode param).sessionLdaPrev = layer.sessionLdaPrev ∧
      (layer.toFirmware.prepare mode param).sessionCruisePrev = layer.sessionCruisePrev ∧
      (layer.toFirmware.prepare mode param).sessionButtonSeen = layer.sessionButtonSeen ∧
      (layer.toFirmware.prepare mode param).sessionIgnoreSetRelease =
        layer.sessionIgnoreSetRelease := by
  have stays : ¬ ((requestedProfile mode param != layer.sessionProfile ||
      requestedProfile mode param == 0) = true) := by
    rw [same, session.installed]
    simp [session.some]
  unfold prepare
  dsimp only
  rw [if_neg stays, abort_eq _ session.active]
  split
  · exact ⟨rfl, rfl, rfl, rfl⟩
  · exact ⟨rfl, rfl, rfl, rfl⟩

/-- A mode change with the session's profile reloads what the session has saved. -/
theorem changed_memory {mode param : UInt16} (session : InSession hooks profile layer)
    (same : requestedProfile mode param = profile) :
    (layer.setSafetyHooks hooks now mode param).memory = layer.memory := by
  have requested : requestedProfile mode param ≠ 0 := by
    rw [same]
    exact session.some
  have changed := @modeChanged hooks now mode param layer requested
  obtain ⟨lda, cruise, seen, ignoring⟩ := prepare_saved session same
  have profiles : (layer.setSafetyHooks hooks now mode param).sessionProfile =
      layer.sessionProfile := by
    rw [setSafetyHooks_profile, same, session.installed]
  have settled := session.settled
  unfold memory
  rw [changed.alternate, changed.combined, changed.lda, changed.cruise, changed.buttonSeen,
    changed.ignoreSet, changed.ldaKept, changed.cruiseKept, lda, cruise, seen, ignoring, profiles,
    settled.alternate, settled.combined, settled.lda, settled.cruise]

theorem InSession.call (session : InSession hooks profile layer) {call : SafetyCall}
    (keeps : KeepsProfile profile call) : InSession hooks profile (layer.call hooks now call) := by
  have active := session.active
  cases call with
  | rx msg =>
      have setting := received_setting hooks.toOpendbc layer.toFirmware now msg active
      have ends := @rx_enforced hooks layer now active msg
      exact ⟨session.some, (ends.profile.trans setting.profile).trans session.installed,
        settled_rx session.settled active msg⟩
  | tick =>
      exact ⟨session.some, (tick_enforced active).profile.trans session.installed,
        settled_tick session.settled active⟩
  | setSafetyHooks mode param =>
      have same := keeps mode param rfl
      have requested : requestedProfile mode param ≠ 0 := by
        rw [same]
        exact session.some
      exact ⟨session.some, setSafetyHooks_profile.trans same, (modeChanged layer requested).toSettled⟩
  | dropPermission param1 =>
      refine ⟨session.some, ?_, settled_request session.settled active param1⟩
      by_cases drops : param1 = 1
      · subst drops
        exact (request_enforced active).profile.trans session.installed
      · rw [request_ignored drops]
        exact session.installed
  | heartbeatAbort =>
      exact ⟨session.some, (abort_setting _).profile.trans session.installed,
        settled_heartbeat session.settled active⟩

theorem call_memory (tracks : hooks.toOpendbc.TracksButton) (bus : hooks.powertrainBus = 0)
    (session : InSession hooks profile layer) {call : SafetyCall}
    (keeps : KeepsProfile profile call) :
    (layer.call hooks now call).memory = layer.memory.hearAll (layer.heard hooks (now, call)) := by
  cases call with
  | rx msg =>
      unfold heard
      dsimp only
      by_cases accepted : layer.acceptsButton hooks.toOpendbc now msg = true
      · rw [if_pos accepted]
        exact (safetyRxHook_memory tracks accepted).2
      · rw [if_neg accepted]
        exact safetyRxHook_other bus session.active (by simpa using accepted)
  | tick => exact enforce_memory _
  | setSafetyHooks mode param => exact changed_memory session (keeps mode param rfl)
  | dropPermission param1 =>
      by_cases drops : param1 = 1
      · subst drops
        have drops : layer.toFirmware.dropPermission hooks.toOpendbc now 1 =
            Firmware.enforce hooks.toOpendbc { layer.toFirmware with
              sessionLongitudinal := false, longitudinalControlsAllowed := false } now true :=
          if_pos (by simp [session.active])
        show (layer.toFirmware.dropPermission hooks.toOpendbc now 1).memory = _
        rw [drops]
        exact enforce_memory _
      · rw [request_ignored drops]
        rfl
  | heartbeatAbort => exact abort_memory

/-- In a session the memory is what the messages heard make of it. -/
theorem run_memory (tracks : hooks.toOpendbc.TracksButton) (bus : hooks.powertrainBus = 0)
    (entries : List (UInt32 × SafetyCall)) (keeps : ∀ entry ∈ entries, KeepsProfile profile entry.2) :
    ∀ layer, InSession hooks profile layer →
      InSession hooks profile (hooks.intentCalls.run layer entries) ∧
        (hooks.intentCalls.run layer entries).memory =
          layer.memory.hearAll (hooks.buttonMessages layer entries) := by
  induction entries with
  | nil =>
      intro layer session
      exact ⟨session, rfl⟩
  | cons entry rest ih =>
      intro layer session
      obtain ⟨now, call⟩ := entry
      have kept := keeps (now, call) (List.mem_cons_self ..)
      obtain ⟨final, memory⟩ := ih (fun other member => keeps other (List.mem_cons_of_mem _ member))
        _ (session.call kept)
      have stepped : hooks.intentCalls.run layer ((now, call) :: rest) =
          hooks.intentCalls.run (layer.call hooks now call) rest :=
        congrArg (fun next => hooks.intentCalls.run next rest) (intentCalls_call (now, call))
      rw [stepped]
      refine ⟨final, memory.trans ?_⟩
      rw [call_memory tracks bus session kept]
      unfold HookMemory.hearAll
      rw [← List.foldl_append]
      rfl

end Session
end SafetyLayer

/-! ## Toggles -/

namespace Firmware

def reachesButtons (opendbc : Opendbc) (firmware : Firmware) (now : UInt32) (msg : CanPacket) :
    Bool :=
  firmware.sessionProfile != 0 && (opendbc.rxMsgSafetyCheck firmware now msg).valid &&
    opendbc.whitelisted firmware msg && msg.bus == opendbc.powertrainBus &&
    msg.addr == firmware.buttonAddress

def togglesLateral (opendbc : Opendbc) (firmware : Firmware) (now : UInt32) (msg : CanPacket) :
    Bool :=
  firmware.reachesButtons opendbc now msg && (firmware.atHook opendbc now msg).splitButtonArm &&
    (firmware.atHook opendbc now msg).ldaPressed msg

def togglesBoth (opendbc : Opendbc) (firmware : Firmware) (now : UInt32) (msg : CanPacket) :
    Bool :=
  firmware.reachesButtons opendbc now msg && (firmware.atHook opendbc now msg).splitButtonArm &&
    (firmware.atHook opendbc now msg).hyundaiLongitudinal &&
    (firmware.atHook opendbc now msg).setReleased msg

section Toggles
variable {opendbc : Opendbc} {firmware : Firmware} {now : UInt32} {msg : CanPacket}

theorem accepts_of_reaches (bus : opendbc.powertrainBus = 0)
    (reaches : firmware.reachesButtons opendbc now msg = true) :
    firmware.acceptsButton opendbc now msg = true ∧ msg.addr = firmware.buttonAddress := by
  simp only [reachesButtons, Bool.and_eq_true, beq_iff_eq, bus] at reaches
  obtain ⟨⟨⟨⟨session, valid⟩, listed⟩, onBus⟩, address⟩ := reaches
  refine ⟨?_, address⟩
  simp only [acceptsButton, Bool.and_eq_true, beq_iff_eq, bus]
  exact ⟨⟨⟨⟨⟨session, valid⟩, listed⟩, address⟩, onBus⟩, onBus⟩

theorem edges_memory (tracks : opendbc.TracksButton)
    (accepted : firmware.acceptsButton opendbc now msg = true)
    (address : msg.addr = firmware.buttonAddress) :
    let message := msg.buttonMessage firmware.altButtons
    let primed := firmware.memory.prime message.cruise message.lda
    (firmware.atHook opendbc now msg).ldaPressed msg = (message.lda && !primed.lda) ∧
      (firmware.atHook opendbc now msg).setReleased msg =
        (message.cruise != hyundaiBtnSet && primed.cruise == hyundaiBtnSet) ∧
      (firmware.atHook opendbc now msg).hyundaiLongitudinal = firmware.memory.combined := by
  intro message primed
  have memory : (firmware.atHook opendbc now msg).memory = primed :=
    (safetyRxHook_memory tracks accepted).1
  have lda : (firmware.atHook opendbc now msg).ldaButtonPrev = primed.lda :=
    congrArg HookMemory.lda memory
  have cruise : (firmware.atHook opendbc now msg).cruiseButtonPrev = primed.cruise :=
    congrArg HookMemory.cruise memory
  unfold ldaPressed setReleased
  rw [alternate_of_address address, lda, cruise]
  exact ⟨rfl, rfl, congrArg HookMemory.combined memory⟩

theorem buttons_untoggled (lateral : firmware.ldaPressed msg = false)
    (both : (firmware.hyundaiLongitudinal && firmware.setReleased msg) = false) :
    (firmware.buttons opendbc msg).selection = firmware.selection := by
  rw [buttons_edges]
  simp only [lateral, both, Bool.false_eq_true, if_false]
  split
  · rfl
  · rfl

end Toggles

section Session
variable {hooks : OpendbcHooks} {layer : SafetyLayer} {now : UInt32} {profile : UInt16}
  {msg : CanPacket}

theorem atHook_selection (firmware : Firmware) :
    (firmware.atHook hooks.toOpendbc now msg).selection = firmware.selection := by
  unfold atHook primed
  dsimp only
  split_ifs <;> rfl

/-- A message that reaches the button block and does not cancel runs it, and nothing else moves
the channels. -/
theorem received_selection {firmware : Firmware}
    (reaches : firmware.reachesButtons hooks.toOpendbc now msg = true)
    (goesOn : (firmware.received hooks.toOpendbc now msg).sessionBlocked = false) :
    (firmware.received hooks.toOpendbc now msg).selection =
      ((firmware.atHook hooks.toOpendbc now msg).buttons hooks.toOpendbc msg).selection := by
  simp only [reachesButtons, Bool.and_eq_true, beq_iff_eq] at reaches
  obtain ⟨⟨⟨⟨session, valid⟩, listed⟩, onBus⟩, address⟩ := reaches
  let checked := firmware.checked hooks.toOpendbc now msg
  have handled : firmware.handled hooks.toOpendbc now msg =
      checked.sessionRx hooks.toOpendbc msg := by
    unfold Firmware.handled
    rw [valid, listed, Bool.and_self, if_pos rfl, if_pos session]
  have active : (checked.hooked hooks.toOpendbc msg).sessionProfile ≠ 0 := by
    have setting : SameSetting checked (checked.hooked hooks.toOpendbc msg) :=
      (checked.primed_setting msg).trans (canfdRxHook_setting ..)
    rw [setting.profile]
    exact bne_iff_ne.mp session
  have keeps : checked.cancels hooks.toOpendbc msg = false := by
    by_contra cancels
    have blocked : (firmware.received hooks.toOpendbc now msg).sessionBlocked = true := by
      show (firmware.handled hooks.toOpendbc now msg).sessionBlocked = true
      rw [handled, sessionRx_eq, if_pos (by simpa using cancels), abort_eq _ active]
    rw [goesOn] at blocked
    exact Bool.false_ne_true blocked
  obtain ⟨controls, hooked⟩ := @canfdRxHook_button hooks.toOpendbc (checked.primed msg) msg
    (address.trans (@primed_buttonAddress checked msg).symm) onBus
  show (firmware.handled hooks.toOpendbc now msg).selection = _
  rw [handled, sessionRx_eq, if_neg (by rw [keeps]; decide)]
  unfold Firmware.hooked
  rw [hooked]
  rfl

/-- A button message that toggles nothing leaves the session's selection, or blocks it. -/
theorem untoggled_selection (session : layer.InSession hooks profile)
    (reaches : layer.reachesButtons hooks.toOpendbc now msg = true)
    (noLateral : layer.togglesLateral hooks.toOpendbc now msg = false)
    (noBoth : layer.togglesBoth hooks.toOpendbc now msg = false)
    (goesOn : (layer.call hooks now (.rx msg)).sessionBlocked = false) :
    (layer.call hooks now (.rx msg)).sessionLateral = layer.sessionLateral ∧
      (layer.call hooks now (.rx msg)).sessionLongitudinal = layer.sessionLongitudinal := by
  have ends := @SafetyLayer.rx_enforced hooks layer now session.active msg
  have receivedOn : (layer.toFirmware.received hooks.toOpendbc now msg).sessionBlocked = false := by
    by_contra blocked
    have after := ends.staysBlocked (by simpa using blocked)
    rw [goesOn] at after
    exact Bool.false_ne_true after
  have split : (layer.atHook hooks.toOpendbc now msg).splitButtonArm = true :=
    ((layer.toFirmware.checked hooks.toOpendbc now msg).primed_setting msg).split.trans
      session.settled.split
  unfold togglesLateral at noLateral
  unfold togglesBoth at noBoth
  rw [reaches, split, Bool.true_and, Bool.true_and] at noLateral noBoth
  have kept := (received_selection reaches receivedOn).trans
    ((buttons_untoggled noLateral noBoth).trans (atHook_selection layer.toFirmware))
  have lateral := congrArg Selection.lateral kept
  have longitudinal := congrArg Selection.longitudinal kept
  have settled := session.settled
  rw [ends.lateral, ends.longitudinal, goesOn, Bool.not_false, Bool.and_true, Bool.and_true]
  exact ⟨lateral.trans settled.lateral, longitudinal.trans settled.longitudinal⟩

theorem installed_session {mode param : UInt16} (layer : SafetyLayer)
    (isSession : requestedProfile mode param ≠ 0)
    (isNew : requestedProfile mode param ≠ layer.sessionProfile) :
    (layer.setSafetyHooks hooks now mode param).InSession hooks (requestedProfile mode param) ∧
      (layer.setSafetyHooks hooks now mode param).memory.seen = false := by
  have changed := @modeChanged hooks now mode param layer isSession
  refine ⟨⟨isSession, SafetyLayer.setSafetyHooks_profile, changed.toSettled⟩, ?_⟩
  show (layer.setSafetyHooks hooks now mode param).sessionButtonSeen = false
  rw [changed.buttonSeen]
  unfold prepare
  dsimp only
  rw [if_pos (by simp [isNew])]

end Session
end Firmware

/-- After a mode change that installs a session profile, whatever calls follow, a button message
toggles only on an edge seen whole: LDA clear in the message before and set in this one, or SET in
the message before, not in this one and not in some earlier message.  Any other button message
leaves the selection, unless it blocks the session. -/
theorem held_buttons_ignored (hooks : OpendbcHooks) (tracks : hooks.toOpendbc.TracksButton)
    (bus : hooks.powertrainBus = 0) (layer : SafetyLayer) (installedAt now : UInt32)
    (mode param : UInt16) (isSession : requestedProfile mode param ≠ 0)
    (isNew : requestedProfile mode param ≠ layer.sessionProfile)
    (entries : List (UInt32 × SafetyCall))
    (keeps : ∀ entry ∈ entries, SafetyLayer.KeepsProfile (requestedProfile mode param) entry.2)
    (msg : CanPacket) :
    let start := layer.setSafetyHooks hooks installedAt mode param
    let reached := hooks.intentCalls.run start entries
    let earlier := hooks.buttonMessages start entries
    let message := msg.buttonMessage reached.altButtons
    let after := reached.call hooks now (.rx msg)
    (reached.togglesLateral hooks.toOpendbc now msg = true →
      ∃ last ∈ earlier.getLast?, last.lda = false ∧ message.lda = true) ∧
    (reached.togglesBoth hooks.toOpendbc now msg = true →
      ∃ last ∈ earlier.getLast?, last.cruise = hyundaiBtnSet ∧ message.cruise ≠ hyundaiBtnSet ∧
        ∃ other ∈ earlier, other.cruise ≠ hyundaiBtnSet) ∧
    (reached.reachesButtons hooks.toOpendbc now msg = true →
      reached.togglesLateral hooks.toOpendbc now msg = false →
      reached.togglesBoth hooks.toOpendbc now msg = false → after.sessionBlocked = false →
        after.sessionLateral = reached.sessionLateral ∧
          after.sessionLongitudinal = reached.sessionLongitudinal) := by
  intro start reached earlier message after
  obtain ⟨session, fresh⟩ :=
    @Firmware.installed_session hooks installedAt mode param layer isSession isNew
  obtain ⟨inSession, memory⟩ := SafetyLayer.run_memory tracks bus entries keeps start session
  have heard : Firmware.HookMemory.Heard earlier reached.memory := by
    rw [memory]
    exact Firmware.HookMemory.heard_all fresh earlier
  refine ⟨?_, ?_, fun reaches noLateral noBoth goesOn =>
    Firmware.untoggled_selection inSession reaches noLateral noBoth goesOn⟩
  · intro toggles
    simp only [Firmware.togglesLateral, Bool.and_eq_true] at toggles
    obtain ⟨⟨reaches, _⟩, edge⟩ := toggles
    obtain ⟨accepted, address⟩ := Firmware.accepts_of_reaches bus reaches
    rw [(Firmware.edges_memory tracks accepted address).1] at edge
    exact heard.ldaEdge edge
  · intro toggles
    simp only [Firmware.togglesBoth, Bool.and_eq_true] at toggles
    obtain ⟨⟨⟨reaches, _⟩, combined⟩, edge⟩ := toggles
    obtain ⟨accepted, address⟩ := Firmware.accepts_of_reaches bus reaches
    obtain ⟨_, released, profile⟩ := Firmware.edges_memory tracks accepted address
    rw [released] at edge
    exact heard.setEdge (profile.symm.trans combined) edge

/-! ## LDA held at the start, then pressed again -/

def heldAtStart : List (UInt32 × SafetyCall) :=
  [(10000, .rx (brakeMsg false)), (20000, .rx (buttonsMsg 2)),
    (30000, .setSafetyHooks safetyHyundaiCanfd sessionParam), (40000, .rx (buttonsMsg 0)),
    (50000, .rx (buttonsMsg 2))]

theorem heldAtStart_keeps : ∀ entry ∈ heldAtStart,
    SafetyLayer.KeepsProfile (requestedProfile safetyModeNoOutput sessionParam) entry.2 := by
  intro entry member mode param change
  unfold heldAtStart at member
  simp only [List.mem_cons, List.not_mem_nil, or_false] at member
  rcases member with rfl | rfl | rfl | rfl | rfl
  · cases change
  · cases change
  · obtain ⟨rfl, rfl⟩ := SafetyCall.setSafetyHooks.inj change
    decide +kernel
  · cases change
  · cases change

/-- SET held at the start and let go toggles nothing; its second release toggles, as the messages
before it show. -/
theorem second_release_toggles :
    let start := SafetyLayer.setSafetyHooks validHooks {} 0 safetyModeNoOutput sessionParam
    let reached := validHooks.intentCalls.run start heldAtStart
    reached.sessionLateral = false ∧
      reached.togglesBoth validHooks.toOpendbc 60000 (buttonsMsg 0) = true ∧
      ∃ last ∈ (validHooks.buttonMessages start heldAtStart).getLast?,
        last.cruise = hyundaiBtnSet ∧
          ((buttonsMsg 0).buttonMessage reached.altButtons).cruise ≠ hyundaiBtnSet ∧
          ∃ other ∈ validHooks.buttonMessages start heldAtStart, other.cruise ≠ hyundaiBtnSet := by
  have toggles : (validHooks.intentCalls.run
      (SafetyLayer.setSafetyHooks validHooks {} 0 safetyModeNoOutput sessionParam)
      heldAtStart).togglesBoth validHooks.toOpendbc 60000 (buttonsMsg 0) = true := by
    decide +kernel
  refine ⟨by decide +kernel, toggles, ?_⟩
  exact (held_buttons_ignored validHooks validHooks_tracks (by decide) {} 0 60000 safetyModeNoOutput
    sessionParam (by decide +kernel) (by decide +kernel) heldAtStart heldAtStart_keeps (buttonsMsg 0)).2.1 toggles

end Ioniq5Ecan
