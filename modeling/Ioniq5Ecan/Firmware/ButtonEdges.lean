import Ioniq5Ecan.Vehicle.ButtonFrames
import Ioniq5Ecan.Firmware.SetAfterBrake
import Ioniq5Ecan.Firmware.Hooks

/-! # Button edges on both sides

The host counts button edges in `parse_buttons`, the command session toggles on
the edges its hook computes.  Each side keeps its own previous button.  They
differ on LDA or SET held in the first frame, on SET changing directly to
another button and, without longitudinal control, on every SET release;
`SameButtons` leaves out exactly these. -/
set_option autoImplicit false
namespace Ioniq5Ecan

open Library (EventSystem)

namespace Firmware

/-! ## The edges of the hook -/

def atHook (opendbc : Opendbc) (firmware : Firmware) (now : UInt32) (msg : CanPacket) :
    Firmware :=
  let checked := opendbc.rxMsgSafetyCheck firmware now msg
  { firmware with
    rxChecks := checked.rxChecks, controlsAllowed := checked.controlsAllowed }.primed msg

/-! ## The variables that carry the edges -/

/-- What the hook remembers of the buttons, with the two parameter bits it depends on. -/
structure HookMemory where
  active : Bool
  alternate : Bool
  combined : Bool
  seen : Bool
  ignoring : Bool
  lda : Bool
  cruise : UInt8

def memory (firmware : Firmware) : HookMemory where
  active := firmware.sessionProfile != 0
  alternate := firmware.altButtons
  combined := firmware.hyundaiLongitudinal
  seen := firmware.sessionButtonSeen
  ignoring := firmware.sessionIgnoreSetRelease
  lda := firmware.ldaButtonPrev
  cruise := firmware.cruiseButtonPrev

/-- A cruise button frame of the session's bus that the receive checks pass to the hook. -/
def acceptsButton (opendbc : Opendbc) (firmware : Firmware) (now : UInt32) (msg : CanPacket) :
    Bool :=
  firmware.sessionProfile != 0 && (opendbc.rxMsgSafetyCheck firmware now msg).valid &&
    opendbc.whitelisted firmware msg && msg.addr == firmware.buttonAddress && msg.bus == 0 &&
    msg.bus == opendbc.powertrainBus

end Firmware

/-- `hyundai_common_cruise_buttons_check` stores the button under longitudinal control only. -/
def Opendbc.TracksButton (opendbc : Opendbc) : Prop :=
  ∀ firmware button mainButton,
    (opendbc.cruiseButtonsCheck firmware button mainButton).2 =
      if firmware.hyundaiLongitudinal then button else firmware.cruiseButtonPrev

namespace Firmware

/-- The first button frame is remembered as held; so is SET until it is let go. -/
def HookMemory.prime (memory : HookMemory) (button : UInt8) (lda : Bool) : HookMemory :=
  let ignoring := if memory.seen then memory.ignoring else button == hyundaiBtnSet
  { memory with
    seen := true
    ignoring := ignoring && button == hyundaiBtnSet
    lda := if memory.seen then memory.lda else lda
    cruise := if memory.seen && !ignoring then memory.cruise else button }

def HookMemory.store (memory : HookMemory) (button : UInt8) (lda : Bool) : HookMemory :=
  { memory with lda := lda, cruise := if memory.combined then button else memory.cruise }

section Memory
variable {opendbc : Opendbc} {firmware : Firmware} {now : UInt32} {msg : CanPacket}

@[simp]
theorem abort_memory : firmware.abort.memory = firmware.memory := by
  unfold abort
  split_ifs <;> rfl

@[simp]
theorem enforce_memory (valid : Bool) :
    (firmware.enforce opendbc now valid).memory = firmware.memory := by
  unfold enforce
  split
  · have aborted : (if (!valid || firmware.relayMalfunction || firmware.safetyRxChecksInvalid) = true
        then firmware.abort else firmware).memory = firmware.memory := by
      split
      · exact abort_memory
      · rfl
    dsimp only
    rw [← aborted]
    generalize (if (!valid || firmware.relayMalfunction || firmware.safetyRxChecksInvalid) = true
      then firmware.abort else firmware) = checked
    split <;> rfl
  · rfl

@[simp]
theorem brake_memory : (firmware.brake msg).memory = firmware.memory := by
  unfold brake
  split_ifs <;> rfl

theorem buttons_memory (tracks : opendbc.TracksButton) :
    (firmware.buttons opendbc msg).memory =
      firmware.memory.store (msg.cruiseButton (msg.addr != 0x1CF))
        (msg.ldaButton (msg.addr != 0x1CF)) := by
  have stored := tracks firmware (msg.cruiseButton (msg.addr != 0x1CF))
    (msg.mainButton (msg.addr != 0x1CF))
  unfold memory HookMemory.store
  rw [buttons_edges]
  dsimp only
  split_ifs <;> simp_all [toggleLateralOnly, toggleCombined]

theorem alternate_of_address (address : msg.addr = firmware.buttonAddress) :
    (msg.addr != 0x1CF) = firmware.altButtons := by
  rw [address, buttonAddress]
  cases firmware.altButtons <;> rfl

theorem primed_memory (address : msg.addr = firmware.buttonAddress) (bus : msg.bus = 0) :
    (firmware.primed msg).memory =
      firmware.memory.prime (msg.cruiseButton firmware.altButtons)
        (msg.ldaButton firmware.altButtons) := by
  unfold primed memory HookMemory.prime
  simp only [address, bus, beq_self_eq_true, Bool.and_true]
  cases seen : firmware.sessionButtonSeen with
  | false =>
      cases held : (msg.cruiseButton firmware.altButtons == hyundaiBtnSet) <;> simp [bne, held]
  | true =>
      cases ignoring : firmware.sessionIgnoreSetRelease <;>
        cases held : (msg.cruiseButton firmware.altButtons == hyundaiBtnSet) <;>
        simp [bne, held, ignoring, seen]

@[simp]
theorem primed_buttonAddress : (firmware.primed msg).buttonAddress = firmware.buttonAddress := by
  unfold primed
  dsimp only
  split_ifs <;> rfl

theorem canfdRxHook_button (address : msg.addr = firmware.buttonAddress)
    (bus : msg.bus = opendbc.powertrainBus) :
    ∃ controls, firmware.canfdRxHook opendbc msg =
      { firmware.buttons opendbc msg with controlsAllowed := controls } := by
  have notBrake : msg.addr ≠ 0x175 := by
    rw [address, buttonAddress]
    cases firmware.altButtons <;> decide
  refine ⟨opendbc.otherSignals (firmware.buttons opendbc msg) msg, ?_⟩
  unfold canfdRxHook
  rw [if_pos (by simp [bus, address])]
  dsimp only
  rw [if_neg (by simp [notBrake])]

theorem canfdRxHook_memory (tracks : opendbc.TracksButton)
    (address : msg.addr = firmware.buttonAddress) (bus : msg.bus = opendbc.powertrainBus) :
    (firmware.canfdRxHook opendbc msg).memory =
      firmware.memory.store (msg.cruiseButton firmware.altButtons)
        (msg.ldaButton firmware.altButtons) := by
  obtain ⟨controls, hooked⟩ := @canfdRxHook_button opendbc firmware msg address bus
  rw [hooked, ← alternate_of_address address, ← buttons_memory tracks]
  rfl

theorem safetyRxHook_memory (tracks : opendbc.TracksButton)
    (accepted : firmware.acceptsButton opendbc now msg = true) :
    (firmware.atHook opendbc now msg).memory =
        firmware.memory.prime (msg.cruiseButton firmware.altButtons)
          (msg.ldaButton firmware.altButtons) ∧
      (firmware.safetyRxHook opendbc now msg).1.memory =
        (firmware.memory.prime (msg.cruiseButton firmware.altButtons)
          (msg.ldaButton firmware.altButtons)).store (msg.cruiseButton firmware.altButtons)
          (msg.ldaButton firmware.altButtons) := by
  simp only [acceptsButton, Bool.and_eq_true, beq_iff_eq] at accepted
  obtain ⟨⟨⟨⟨⟨active, valid⟩, listed⟩, address⟩, bus⟩, powertrain⟩ := accepted
  let checked : Firmware :=
    { firmware with
      rxChecks := (opendbc.rxMsgSafetyCheck firmware now msg).rxChecks
      controlsAllowed := (opendbc.rxMsgSafetyCheck firmware now msg).controlsAllowed }
  have primed : (checked.primed msg).memory =
      firmware.memory.prime (msg.cruiseButton firmware.altButtons)
        (msg.ldaButton firmware.altButtons) :=
    @primed_memory checked msg address bus
  have alternate : (checked.primed msg).altButtons = firmware.altButtons :=
    congrArg HookMemory.alternate primed
  have hooked : (checked.sessionRx opendbc msg).memory =
      (firmware.memory.prime (msg.cruiseButton firmware.altButtons)
        (msg.ldaButton firmware.altButtons)).store (msg.cruiseButton firmware.altButtons)
        (msg.ldaButton firmware.altButtons) := by
    have stored := @canfdRxHook_memory opendbc (checked.primed msg) msg tracks
      (address.trans (@primed_buttonAddress checked msg).symm) powertrain
    rw [primed, alternate] at stored
    rw [sessionRx_eq]
    split
    · exact abort_memory.trans stored
    · exact stored
  refine ⟨primed, ?_⟩
  unfold safetyRxHook
  simp only [valid, listed, Bool.and_self, if_true, enforce_memory]
  rw [if_pos active]
  exact hooked

end Memory
end Firmware

/-! ## The two sides on one frame -/

structure ButtonState where
  firmware : Firmware
  parser : FrameParser

structure ButtonArrival where
  now : UInt32
  msg : CanPacket
  receivedAt : TimePoint

/-- A cruise button frame that both sides accept. -/
def buttonStep (opendbc : Opendbc) (state : ButtonState) (arrival : ButtonArrival) :
    Option ButtonState :=
  if state.firmware.acceptsButton opendbc arrival.now arrival.msg then
    match state.parser.update (arrival.msg.frame arrival.receivedAt) with
    | some (parser, true) =>
        some
          { firmware := (state.firmware.safetyRxHook opendbc arrival.now arrival.msg).1
            parser := parser }
    | _ => none
  else none

def buttonFrames (opendbc : Opendbc) : EventSystem ButtonState ButtonArrival where
  step := buttonStep opendbc

/-- Which of `set_button_events` and `lane_keep_button_events` a frame increments. -/
def hostEdges (before after : FrameParser) : Bool × Bool :=
  (after.state.setButtonEvents != before.state.setButtonEvents,
    after.state.laneKeepButtonEvents != before.state.laneKeepButtonEvents)

def firmwareEdges (opendbc : Opendbc) (firmware : Firmware) (arrival : ButtonArrival) :
    Bool × Bool :=
  let firmware := firmware.atHook opendbc arrival.now arrival.msg
  (firmware.setReleased arrival.msg, firmware.ldaPressed arrival.msg)

def SameEdges (opendbc : Opendbc) (state : ButtonState) (arrival : ButtonArrival) : Prop :=
  ∀ next ∈ buttonStep opendbc state arrival,
    hostEdges state.parser next.parser = firmwareEdges opendbc state.firmware arrival

instance (opendbc : Opendbc) (state : ButtonState) (arrival : ButtonArrival) :
    Decidable (SameEdges opendbc state arrival) :=
  inferInstanceAs (Decidable (∀ next ∈ buttonStep opendbc state arrival, _))

namespace ButtonArrival

def button (alternate : Bool) (arrival : ButtonArrival) : UInt8 :=
  arrival.msg.cruiseButton alternate

def lda (alternate : Bool) (arrival : ButtonArrival) : Bool :=
  arrival.msg.ldaButton alternate

end ButtonArrival

section Frame
variable {opendbc : Opendbc} {state next : ButtonState} {arrival : ButtonArrival}

/-- Both sides read the same of the two messages. -/
theorem countButtons_of_accepted {firmware : Firmware} {parser after : FrameParser} {msg : CanPacket}
    {receivedAt : TimePoint} (address : msg.addr = firmware.buttonAddress)
    (accepted : parser.update (msg.frame receivedAt) = some (after, true)) :
    after = parser.countButtons (msg.cruiseButton firmware.altButtons)
      (msg.ldaButton firmware.altButtons) := by
  obtain ⟨read, counted⟩ := FrameParser.update_accepted accepted
  have same : parser.alternateButtons = firmware.altButtons := by
    rw [read, Firmware.buttonAddress] at address
    revert address
    cases parser.alternateButtons <;> cases firmware.altButtons <;> decide
  rw [counted, same]

theorem buttonStep_accepted (step : buttonStep opendbc state arrival = some next) :
    state.firmware.acceptsButton opendbc arrival.now arrival.msg = true ∧
      next.firmware = (state.firmware.safetyRxHook opendbc arrival.now arrival.msg).1 ∧
      next.parser = state.parser.countButtons (arrival.button state.firmware.altButtons)
        (arrival.lda state.firmware.altButtons) := by
  unfold buttonStep at step
  split at step
  · rename_i accepted
    split at step
    · rename_i parser updated
      cases step
      have address : arrival.msg.addr = state.firmware.buttonAddress := by
        simp only [Firmware.acceptsButton, Bool.and_eq_true, beq_iff_eq] at accepted
        exact accepted.1.1.2
      exact ⟨accepted, rfl, countButtons_of_accepted address updated⟩
    · cases step
  · cases step

theorem counted_bne (count : UInt64) (edge : Bool) :
    ((if edge then count + 1 else count) != count) = edge := by
  cases edge <;> simp

theorem buttonStep_edges (tracks : opendbc.TracksButton)
    (step : buttonStep opendbc state arrival = some next) :
    let button := arrival.button state.firmware.altButtons
    let lda := arrival.lda state.firmware.altButtons
    let primed := state.firmware.memory.prime button lda
    hostEdges state.parser next.parser =
        (state.parser.previousButton == 2 && button == 0,
          lda && !state.parser.previousLaneKeepButton) ∧
      firmwareEdges opendbc state.firmware arrival =
        (button != hyundaiBtnSet && primed.cruise == hyundaiBtnSet, lda && !primed.lda) := by
  obtain ⟨accepted, -, counted⟩ := buttonStep_accepted step
  intro button lda primed
  constructor
  · unfold hostEdges
    rw [counted, FrameParser.countButtons_setButtonEvents,
      FrameParser.countButtons_laneKeepButtonEvents, counted_bne, counted_bne]
  · have address : arrival.msg.addr = state.firmware.buttonAddress := by
      simp only [Firmware.acceptsButton, Bool.and_eq_true, beq_iff_eq] at accepted
      exact accepted.1.1.2
    have memory := (Firmware.safetyRxHook_memory tracks accepted).1
    have cruise := congrArg Firmware.HookMemory.cruise memory
    have held := congrArg Firmware.HookMemory.lda memory
    unfold firmwareEdges Firmware.setReleased Firmware.ldaPressed
    rw [Firmware.alternate_of_address address]
    exact congrArg₂ Prod.mk
      (congrArg (fun previous => button != hyundaiBtnSet && previous == hyundaiBtnSet) cruise)
      (congrArg (fun previous => lda && !previous) held)

end Frame

/-! ## Whole sequences -/

structure Fresh (state : ButtonState) : Prop where
  seen : state.firmware.sessionButtonSeen = false
  ignoring : state.firmware.sessionIgnoreSetRelease = false
  previousButton : state.parser.previousButton = 0
  previousLaneKeepButton : state.parser.previousLaneKeepButton = false

/-- Two successive codes on which the SET release is the same on both sides: a session without
longitudinal control computes no release at all. -/
def SameRelease (combined : Bool) (previous button : UInt8) : Prop :=
  if combined then previous = 2 → button = 2 ∨ button = 0 else ¬ (previous = 2 ∧ button = 0)

instance (combined : Bool) (previous button : UInt8) :
    Decidable (SameRelease combined previous button) :=
  inferInstanceAs (Decidable (if combined then _ else _))

/-- The frames on which both sides find the same edges: LDA is released at first, SET held at first
is not let go to no button, and SET pressed later is. -/
@[mk_iff]
structure SameButtons (combined : Bool) (buttons : List UInt8) (firstLda : Option Bool) :
    Prop where
  lda : firstLda ≠ some true
  held : combined = true → buttons.head? = some 2 →
    (buttons.dropWhile (· == 2)).head? ≠ some 0
  releases : (if combined then buttons.dropWhile (· == 2) else buttons).IsChain
    (SameRelease combined)

/-- Both sides after a frame with `button` and `lda`; `held` says that SET has been held from the
first frame on. -/
structure Following (alternate combined held : Bool) (button : UInt8) (lda : Bool)
    (state : ButtonState) : Prop where
  sameAlternate : state.firmware.memory.alternate = alternate
  sameCombined : state.firmware.memory.combined = combined
  seen : state.firmware.memory.seen = true
  ignoring : state.firmware.memory.ignoring = held
  ldaPrev : state.firmware.memory.lda = lda
  previousLaneKeepButton : state.parser.previousLaneKeepButton = lda
  previousButton : state.parser.previousButton = button
  setHeld : held = true → button = 2
  cruisePrev : held = false →
    if combined then state.firmware.memory.cruise = button else state.firmware.memory.cruise ≠ 2

section Sequence
variable {opendbc : Opendbc} {state next : ButtonState} {arrival : ButtonArrival}

theorem sameEdges_iff (tracks : opendbc.TracksButton)
    (step : buttonStep opendbc state arrival = some next) :
    let button := arrival.button state.firmware.altButtons
    let lda := arrival.lda state.firmware.altButtons
    let primed := state.firmware.memory.prime button lda
    SameEdges opendbc state arrival ↔
      (state.parser.previousButton == 2 && button == 0) =
          (button != hyundaiBtnSet && primed.cruise == hyundaiBtnSet) ∧
        (lda && !state.parser.previousLaneKeepButton) = (lda && !primed.lda) := by
  obtain ⟨host, firmware⟩ := buttonStep_edges tracks step
  intro button lda primed
  unfold SameEdges
  rw [step]
  simp only [Option.mem_def, Option.some.injEq, forall_eq']
  rw [host, firmware, Prod.mk.injEq]

theorem buttonStep_remembers (tracks : opendbc.TracksButton)
    (step : buttonStep opendbc state arrival = some next) :
    let button := arrival.button state.firmware.altButtons
    let lda := arrival.lda state.firmware.altButtons
    next.firmware.memory = (state.firmware.memory.prime button lda).store button lda ∧
      next.parser.previousButton = button ∧ next.parser.previousLaneKeepButton = lda := by
  obtain ⟨accepted, hooked, counted⟩ := buttonStep_accepted step
  intro button lda
  rw [hooked, counted]
  exact ⟨(Firmware.safetyRxHook_memory tracks accepted).2, rfl, rfl⟩

theorem Fresh.first (fresh : Fresh state) (tracks : opendbc.TracksButton)
    (step : buttonStep opendbc state arrival = some next) :
    Following state.firmware.altButtons state.firmware.hyundaiLongitudinal
        (arrival.button state.firmware.altButtons == 2)
        (arrival.button state.firmware.altButtons) (arrival.lda state.firmware.altButtons) next ∧
      (SameEdges opendbc state arrival ↔ arrival.lda state.firmware.altButtons = false) := by
  have edges := sameEdges_iff tracks step
  obtain ⟨memory, previousButton, previousLda⟩ := buttonStep_remembers tracks step
  dsimp only at edges memory previousButton previousLda
  have unseen : state.firmware.memory.seen = false := fresh.seen
  generalize arrival.button state.firmware.altButtons = button at *
  generalize arrival.lda state.firmware.altButtons = lda at *
  constructor
  · exact
      { sameAlternate := by rw [memory]; rfl
        sameCombined := by rw [memory]; rfl
        seen := by rw [memory]; rfl
        ignoring := by
          rw [memory]
          simp [Firmware.HookMemory.store, Firmware.HookMemory.prime, unseen, hyundaiBtnSet]
        ldaPrev := by rw [memory]; rfl
        previousLaneKeepButton := previousLda
        previousButton := previousButton
        setHeld := fun held => by simpa using held
        cruisePrev := fun released => by
          have combined : state.firmware.memory.combined = state.firmware.hyundaiLongitudinal := rfl
          rw [memory]
          simp only [Firmware.HookMemory.store, Firmware.HookMemory.prime, unseen, combined]
          split
          · rfl
          · simpa using released }
  · rw [edges, fresh.previousButton, fresh.previousLaneKeepButton]
    simp [Firmware.HookMemory.prime, unseen]

theorem Following.step {alternate combined held lda : Bool} {button : UInt8}
    (following : Following alternate combined held button lda state)
    (tracks : opendbc.TracksButton) (step : buttonStep opendbc state arrival = some next) :
    Following alternate combined (held && arrival.button alternate == 2) (arrival.button alternate)
        (arrival.lda alternate) next ∧
      (SameEdges opendbc state arrival ↔
        SameRelease (combined && !held) button (arrival.button alternate)) := by
  have edges := sameEdges_iff tracks step
  obtain ⟨memory, previousButton, previousLda⟩ := buttonStep_remembers tracks step
  have same : state.firmware.altButtons = alternate := following.sameAlternate
  dsimp only at edges memory previousButton previousLda
  rw [same] at edges memory previousButton previousLda
  have ignoring := following.ignoring
  have seen := following.seen
  have profile := following.sameCombined
  generalize arrival.button alternate = code at *
  generalize arrival.lda alternate = pressed at *
  constructor
  · exact
      { sameAlternate := by rw [memory]; exact following.sameAlternate
        sameCombined := by rw [memory]; exact following.sameCombined
        seen := by rw [memory]; rfl
        ignoring := by
          rw [memory]
          simp [Firmware.HookMemory.store, Firmware.HookMemory.prime, seen, ignoring,
            hyundaiBtnSet]
        ldaPrev := by rw [memory]; rfl
        previousLaneKeepButton := previousLda
        previousButton := previousButton
        setHeld := fun still => by
          have both : held = true ∧ code = 2 := by simpa using still
          exact both.2
        cruisePrev := fun released => by
          rw [memory]
          simp only [Firmware.HookMemory.store, Firmware.HookMemory.prime, seen, ignoring, profile]
          cases combined with
          | true => rfl
          | false =>
              cases held with
              | true => simpa using released
              | false => simpa using following.cruisePrev rfl }
  · rw [edges, following.previousButton, following.previousLaneKeepButton]
    simp only [Firmware.HookMemory.prime, seen, ignoring, following.ldaPrev, hyundaiBtnSet,
      if_true, and_true, Bool.true_and]
    cases held with
    | true => simp [SameRelease, bne]
    | false =>
        have cruisePrev := following.cruisePrev rfl
        cases combined with
        | true =>
            have cruise : state.firmware.memory.cruise = button := cruisePrev
            rw [Bool.eq_iff_iff]
            simp only [SameRelease, Bool.not_false, Bool.and_self, if_true, cruise,
              Bool.and_eq_true, beq_iff_eq, bne_iff_ne]
            grind
        | false =>
            have cruise : state.firmware.memory.cruise ≠ 2 := cruisePrev
            rw [Bool.eq_iff_iff]
            simp [SameRelease, cruise]

theorem meets_cons_iff {side : ButtonState → ButtonArrival → Prop} {rest : List ButtonArrival}
    (step : buttonStep opendbc state arrival = some next) :
    (buttonFrames opendbc).Meets side state (arrival :: rest) ↔
      side state arrival ∧ (buttonFrames opendbc).Meets side next rest := by
  constructor
  · intro met
    exact ⟨met.1, met.2 next step⟩
  · rintro ⟨here, later⟩
    refine ⟨here, fun other otherStep => ?_⟩
    cases step.symm.trans otherStep
    exact later

/-- Once the SET release counts, every pair of successive codes decides for itself. -/
theorem Following.counting {alternate combined : Bool} (tracks : opendbc.TracksButton)
    (arrivals : List ButtonArrival) :
    ∀ {held lda : Bool} {button : UInt8} {state final : ButtonState},
      Following alternate combined held button lda state → (combined = true → held = false) →
        (buttonFrames opendbc).exec state arrivals = some final →
          ((buttonFrames opendbc).Meets (SameEdges opendbc) state arrivals ↔
            (button :: arrivals.map (ButtonArrival.button alternate)).IsChain
              (SameRelease combined)) := by
  induction arrivals with
  | nil =>
      intro held lda button state final _ _ _
      exact iff_of_true trivial (List.IsChain.singleton button)
  | cons arrival rest ih =>
      intro held lda button state final following counts run
      obtain ⟨next, step, tail⟩ := EventSystem.exec_cons run
      obtain ⟨follows, here⟩ := following.step tracks step
      have decisive : (combined && !held) = combined := by
        cases combined with
        | true => simp [counts rfl]
        | false => rfl
      rw [meets_cons_iff step, here, decisive, List.map_cons, List.isChain_cons_cons,
        ih follows (fun profile => by simp [counts profile]) tail]

theorem Following.holding {alternate : Bool} (tracks : opendbc.TracksButton)
    (arrivals : List ButtonArrival) :
    ∀ {lda : Bool} {state final : ButtonState}, Following alternate true true 2 lda state →
      (buttonFrames opendbc).exec state arrivals = some final →
        ((buttonFrames opendbc).Meets (SameEdges opendbc) state arrivals ↔
          ((arrivals.map (ButtonArrival.button alternate)).dropWhile (· == 2)).head? ≠ some 0 ∧
            ((arrivals.map (ButtonArrival.button alternate)).dropWhile (· == 2)).IsChain
              (SameRelease true)) := by
  induction arrivals with
  | nil =>
      intro lda state final _ _
      exact iff_of_true trivial ⟨by simp, List.IsChain.nil⟩
  | cons arrival rest ih =>
      intro lda state final following run
      obtain ⟨next, step, tail⟩ := EventSystem.exec_cons run
      obtain ⟨follows, here⟩ := following.step tracks step
      rw [meets_cons_iff step, here, List.map_cons]
      by_cases set : arrival.button alternate = 2
      · simp only [set, Bool.true_and, beq_self_eq_true] at follows
        have same : SameRelease (true && !true) 2 (arrival.button alternate) := by
          simp [SameRelease, set]
        rw [List.dropWhile_cons_of_pos (by simpa using set)]
        exact (and_iff_right same).trans (ih follows tail)
      · have released : (arrival.button alternate == 2) = false := by simpa using set
        rw [released, Bool.and_false] at follows
        rw [List.dropWhile_cons_of_neg (by simpa using set),
          follows.counting tracks rest (fun _ => rfl) tail]
        simp [SameRelease]

end Sequence

/-- On every sequence of button frames that both sides accept, `parse_buttons` counts exactly the
SET releases and the LDA edges of the command session if and only if the buttons are such. -/
theorem same_edges_iff (opendbc : Opendbc) (tracks : opendbc.TracksButton) (state : ButtonState)
    (fresh : Fresh state) (arrivals : List ButtonArrival) (final : ButtonState)
    (accepted : (buttonFrames opendbc).exec state arrivals = some final) :
    (buttonFrames opendbc).Meets (SameEdges opendbc) state arrivals ↔
      SameButtons state.firmware.hyundaiLongitudinal
        (arrivals.map (ButtonArrival.button state.firmware.altButtons))
        (arrivals.head?.map (ButtonArrival.lda state.firmware.altButtons)) := by
  cases arrivals with
  | nil =>
      refine iff_of_true trivial ⟨by simp, fun _ => by simp, ?_⟩
      split <;> exact List.IsChain.nil
  | cons arrival rest =>
      obtain ⟨next, step, tail⟩ := EventSystem.exec_cons accepted
      obtain ⟨following, first⟩ := fresh.first tracks step
      rw [meets_cons_iff step, first, sameButtons_iff]
      generalize state.firmware.altButtons = alternate at *
      generalize state.firmware.hyundaiLongitudinal = combined at *
      have released : (arrival.lda alternate = false) =
          ((arrival :: rest).head?.map (ButtonArrival.lda alternate) ≠ some true) := by simp
      rw [released, List.map_cons]
      cases combined with
      | false =>
          rw [following.counting tracks rest (by simp) tail]
          simp
      | true =>
          by_cases set : arrival.button alternate = 2
          · rw [set, beq_self_eq_true] at following
            rw [following.holding tracks rest tail, set]
            simp
          · have notSet : (arrival.button alternate == 2) = false := by simpa using set
            rw [notSet] at following
            rw [following.counting tracks rest (fun _ => rfl) tail]
            simp [set]

/-! ## SET let go, and SET changed to RES -/

theorem validFrames_tracks : validFrames.TracksButton := by
  intro firmware button mainButton
  unfold validFrames
  dsimp only
  split <;> rfl

def freshButtons : ButtonState where
  firmware :=
    { sessionProfile := 7173, splitButtonArm := true, hyundaiLongitudinal := true
      currentSafetyMode := safetyHyundaiCanfd, rxChecks := [{ addr := 0x175 }, { addr := 0x1CF }] }
  parser := {}

theorem freshButtons_fresh : Fresh freshButtons := ⟨rfl, rfl, rfl, rfl⟩

def buttonArrival (button : UInt8) : ButtonArrival where
  now := 0
  msg := buttonsMsg button
  receivedAt := fixtureNow

theorem same_edges_on_release :
    let arrivals := [buttonArrival 0, buttonArrival 2, buttonArrival 2, buttonArrival 0]
    ∃ final, (buttonFrames validFrames).exec freshButtons arrivals = some final ∧
      (buttonFrames validFrames).Meets (SameEdges validFrames) freshButtons arrivals := by
  refine ⟨_, rfl, (same_edges_iff validFrames validFrames_tracks freshButtons freshButtons_fresh
    _ _ rfl).mpr ⟨by decide, fun _ => by decide, ?_⟩⟩
  exact .cons_cons (by decide) (.cons_cons (by decide) (.cons_cons (by decide) (.singleton _)))

/-- SET changed directly to RES: the firmware computes a release, the host counts none. -/
theorem direct_change_differs :
    let arrivals := [buttonArrival 0, buttonArrival 2, buttonArrival 1]
    validFrames.TracksButton ∧ Fresh freshButtons ∧
      ∃ final, (buttonFrames validFrames).exec freshButtons arrivals = some final ∧
        ¬ (buttonFrames validFrames).Meets (SameEdges validFrames) freshButtons arrivals := by
  refine ⟨validFrames_tracks, freshButtons_fresh, _, rfl, ?_⟩
  decide +kernel

end Ioniq5Ecan
