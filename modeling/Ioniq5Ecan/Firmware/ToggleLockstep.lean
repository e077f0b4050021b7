import Ioniq5Ecan.Firmware.ButtonEdges
import Ioniq5Ecan.Supervisor.Observation
import Mathlib.Data.List.Induction

/-! # Channel toggles on both sides

Outside a command session the firmware toggles once per button edge, in order,
and the supervisor once per counter that changed, LDA before SET.
`toggles_in_step_iff` says on which batches of presses between two updates both
end with the same selection. -/
set_option autoImplicit false
namespace Ioniq5Ecan

open Library (EventSystem)

/-! ## Toggling a selection -/

inductive Press
  | laneKeep
  | set
  deriving DecidableEq

structure Selection where
  lateral : Bool
  longitudinal : Bool
  deriving DecidableEq

namespace Selection

def toggleLateralOnly (selection : Selection) : Selection :=
  ⟨!(selection.lateral && !selection.longitudinal), false⟩

def toggleCombined (selection : Selection) : Selection :=
  ⟨!(selection.lateral && selection.longitudinal), !(selection.lateral && selection.longitudinal)⟩

/-- The firmware on one edge; SET is left alone without longitudinal control. -/
def press (combined : Bool) (selection : Selection) : Press → Selection
  | .laneKeep => selection.toggleLateralOnly
  | .set => if combined then selection.toggleCombined else selection

def pressAll (combined : Bool) (selection : Selection) (presses : List Press) : Selection :=
  presses.foldl (press combined) selection

def observe (selection : Selection) (laneKeepEvent setEvent : Bool) : Selection :=
  let lateral := if laneKeepEvent then selection.toggleLateralOnly else selection
  if setEvent then lateral.toggleCombined else lateral

/-! A toggle undoes itself once it has been used, but not on the selection it was first used on. -/

@[simp]
theorem toggleLateralOnly_thrice (selection : Selection) :
    selection.toggleLateralOnly.toggleLateralOnly.toggleLateralOnly =
      selection.toggleLateralOnly := by
  obtain ⟨lateral, longitudinal⟩ := selection
  cases lateral <;> cases longitudinal <;> rfl

@[simp]
theorem toggleCombined_thrice (selection : Selection) :
    selection.toggleCombined.toggleCombined.toggleCombined = selection.toggleCombined := by
  obtain ⟨lateral, longitudinal⟩ := selection
  cases lateral <;> cases longitudinal <;> rfl

theorem toggleLateralOnly_twice_ne (selection : Selection) :
    selection.toggleLateralOnly.toggleLateralOnly ≠ selection.toggleLateralOnly := by
  obtain ⟨lateral, longitudinal⟩ := selection
  cases lateral <;> cases longitudinal <;> decide

theorem toggleCombined_twice_ne (selection : Selection) :
    selection.toggleCombined.toggleCombined ≠ selection.toggleCombined := by
  obtain ⟨lateral, longitudinal⟩ := selection
  cases lateral <;> cases longitudinal <;> decide

/-- Repeating an operation whose third use is its first: the parity decides. -/
theorem iterate_parity {operation : Selection → Selection}
    (thrice : ∀ selection, operation (operation (operation selection)) = operation selection)
    (selection : Selection) (count : Nat) :
    operation^[count + 1] selection =
      if count % 2 = 0 then operation selection else operation (operation selection) := by
  induction count with
  | zero => rfl
  | succ count ih =>
      rw [Function.iterate_succ_apply', ih]
      by_cases even : count % 2 = 0
      · rw [if_pos even, if_neg (by omega)]
      · rw [if_neg even, if_pos (by omega), thrice]

theorem iterate_eq_once_iff {operation : Selection → Selection}
    (thrice : ∀ selection, operation (operation (operation selection)) = operation selection)
    (twice : ∀ selection, operation (operation selection) ≠ operation selection)
    (selection : Selection) {count : Nat} (used : count ≠ 0) :
    operation^[count] selection = operation selection ↔ count % 2 = 1 := by
  obtain ⟨less, rfl⟩ := Nat.exists_eq_succ_of_ne_zero used
  rw [iterate_parity thrice]
  by_cases even : less % 2 = 0
  · rw [if_pos even]
    exact iff_of_true rfl (by omega)
  · rw [if_neg even]
    exact iff_of_false (twice selection) (by omega)

theorem pressAll_replicate (combined : Bool) (selection : Selection) (count : Nat) (one : Press) :
    selection.pressAll combined (List.replicate count one) =
      (fun selection => selection.press combined one)^[count] selection := by
  induction count generalizing selection with
  | zero => rfl
  | succ count ih => exact ih (selection.press combined one)

theorem pressAll_append (combined : Bool) (selection : Selection) (early late : List Press) :
    selection.pressAll combined (early ++ late) =
      (selection.pressAll combined early).pressAll combined late :=
  List.foldl_append

theorem pressAll_set_ignored (selection : Selection) (edge : Bool) :
    selection.pressAll false (if edge then [.set] else []) = selection := by
  cases edge <;> rfl

end Selection

/-! ## Batches both sides answer alike -/

/-- The presses of SET after the last press of LDA. -/
def setsAfterLaneKeep (presses : List Press) : Nat :=
  (presses.reverse.takeWhile (· == .set)).length

/-- With longitudinal control both sides agree on a batch whatever is selected: one button an odd
number of times, or both with SET an odd number of times after the last LDA.  Without it the
firmware ignores SET, and what the supervisor had selected decides. -/
def SameToggles (combined : Bool) (selected : Selection) (presses : List Press) : Prop :=
  let laneKeep := presses.count .laneKeep
  let set := presses.count .set
  if combined then
    if laneKeep = 0 then set = 0 ∨ set % 2 = 1
    else if set = 0 then laneKeep % 2 = 1
    else setsAfterLaneKeep presses % 2 = 1
  else
    if set = 0 then
      laneKeep = 0 ∨ (laneKeep % 2 = 1 ↔ ¬ (selected.lateral && selected.longitudinal) = true)
    else if laneKeep = 0 then (selected.lateral && !selected.longitudinal) = true
    else laneKeep % 2 = 1 ↔ selected.lateral = false

instance (combined : Bool) (selected : Selection) (presses : List Press) :
    Decidable (SameToggles combined selected presses) := by
  delta SameToggles
  infer_instance

section Batch
variable (selected : Selection) (presses : List Press)

theorem eq_replicate_set (none : presses.count .laneKeep = 0) :
    presses = List.replicate (presses.count .set) .set := by
  have all : ∀ one ∈ presses, one = Press.set := by
    intro one member
    cases one with
    | set => rfl
    | laneKeep => exact absurd member (List.count_eq_zero.mp none)
  have repeated := List.eq_replicate_of_mem all
  rw [repeated, List.count_replicate_self]

theorem eq_replicate_laneKeep (none : presses.count .set = 0) :
    presses = List.replicate (presses.count .laneKeep) .laneKeep := by
  have all : ∀ one ∈ presses, one = Press.laneKeep := by
    intro one member
    cases one with
    | laneKeep => rfl
    | set => exact absurd member (List.count_eq_zero.mp none)
  have repeated := List.eq_replicate_of_mem all
  rw [repeated, List.count_replicate_self]

theorem exists_last_laneKeep (some : presses.count .laneKeep ≠ 0) :
    ∃ early, presses = early ++ .laneKeep :: List.replicate (setsAfterLaneKeep presses) .set := by
  induction presses using List.reverseRecOn with
  | nil => exact absurd rfl some
  | append_singleton early last ih =>
      cases last with
      | laneKeep => exact ⟨early, by simp [setsAfterLaneKeep]⟩
      | set =>
          obtain ⟨before, split⟩ := ih (by simpa using some)
          have one : setsAfterLaneKeep (early ++ [.set]) = setsAfterLaneKeep early + 1 := by
            simp [setsAfterLaneKeep]
          refine ⟨before, ?_⟩
          rw [one, List.replicate_succ', ← List.cons_append, ← List.append_assoc, ← split]

theorem combined_agree_iff :
    selected.pressAll true presses =
        selected.observe (presses.count .laneKeep != 0) (presses.count .set != 0) ↔
      SameToggles true selected presses := by
  unfold SameToggles
  dsimp only
  by_cases noLaneKeep : presses.count .laneKeep = 0
  · rw [if_pos rfl, if_pos noLaneKeep, noLaneKeep]
    have repeated := eq_replicate_set presses noLaneKeep
    by_cases noSet : presses.count .set = 0
    · rw [repeated, noSet]
      exact iff_of_true rfl (Or.inl (by simp))
    · have toggled : selected.pressAll true presses =
          Selection.toggleCombined^[presses.count .set] selected := by
        conv_lhs => rw [repeated]
        exact selected.pressAll_replicate true _ _
      have event : (presses.count .set != 0) = true := by simpa using noSet
      rw [toggled, event, or_iff_right noSet]
      exact Selection.iterate_eq_once_iff Selection.toggleCombined_thrice
        Selection.toggleCombined_twice_ne selected noSet
  · have laneKeepEvent : (presses.count .laneKeep != 0) = true := by simpa using noLaneKeep
    rw [if_pos rfl, if_neg noLaneKeep, laneKeepEvent]
    by_cases noSet : presses.count .set = 0
    · have toggled : selected.pressAll true presses =
          Selection.toggleLateralOnly^[presses.count .laneKeep] selected := by
        conv_lhs => rw [eq_replicate_laneKeep presses noSet]
        exact selected.pressAll_replicate true _ _
      rw [if_pos noSet, toggled, noSet]
      exact Selection.iterate_eq_once_iff Selection.toggleLateralOnly_thrice
        Selection.toggleLateralOnly_twice_ne selected noLaneKeep
    · obtain ⟨early, split⟩ := exists_last_laneKeep presses noLaneKeep
      have setEvent : (presses.count .set != 0) = true := by simpa using noSet
      have toggled : selected.pressAll true presses =
          Selection.toggleCombined^[setsAfterLaneKeep presses]
            (selected.pressAll true early).toggleLateralOnly := by
        conv_lhs => rw [split, Selection.pressAll_append]
        exact Selection.pressAll_replicate true _ _ _
      have reset : (selected.observe true true) =
          (selected.pressAll true early).toggleLateralOnly.toggleCombined := by
        simp [Selection.observe, Selection.toggleLateralOnly, Selection.toggleCombined]
      rw [if_neg noSet, toggled, setEvent, reset]
      by_cases last : setsAfterLaneKeep presses = 0
      · rw [last]
        refine iff_of_false ?_ (by decide)
        simp [Selection.toggleLateralOnly, Selection.toggleCombined]
      · exact Selection.iterate_eq_once_iff Selection.toggleCombined_thrice
          Selection.toggleCombined_twice_ne _ last

theorem pressAll_lateralOnly (lateral : Bool) :
    Selection.pressAll false ⟨lateral, false⟩ presses =
      ⟨lateral ^^ decide (presses.count .laneKeep % 2 = 1), false⟩ := by
  induction presses generalizing lateral with
  | nil => simp [Selection.pressAll]
  | cons one rest ih =>
      cases one with
      | laneKeep =>
          have pressed : Selection.pressAll false ⟨lateral, false⟩ (.laneKeep :: rest) =
              Selection.pressAll false ⟨!lateral, false⟩ rest := by
            simp [Selection.pressAll, Selection.press, Selection.toggleLateralOnly]
          rw [pressed, ih, List.count_cons_self]
          congr 1
          by_cases odd : rest.count .laneKeep % 2 = 1
          · have even : ¬ (rest.count .laneKeep + 1) % 2 = 1 := by omega
            simp [odd, even]
          · have next : (rest.count .laneKeep + 1) % 2 = 1 := by omega
            simp [odd, next]
      | set =>
          have ignored : Selection.pressAll false ⟨lateral, false⟩ (.set :: rest) =
              Selection.pressAll false ⟨lateral, false⟩ rest := rfl
          rw [ignored, ih, List.count_cons_of_ne (by decide)]

theorem lateral_agree_iff :
    (Selection.pressAll false ⟨selected.lateral, false⟩ presses).lateral =
        (selected.observe (presses.count .laneKeep != 0) (presses.count .set != 0)).lateral ↔
      SameToggles false selected presses := by
  rw [pressAll_lateralOnly]
  obtain ⟨lateral, longitudinal⟩ := selected
  unfold SameToggles Selection.observe Selection.toggleLateralOnly Selection.toggleCombined
  generalize presses.count .laneKeep = laneKeep
  generalize presses.count .set = set
  by_cases noLaneKeep : laneKeep = 0 <;> by_cases noSet : set = 0 <;>
    by_cases odd : laneKeep % 2 = 1 <;> cases lateral <;> cases longitudinal <;>
    simp [noLaneKeep, noSet, odd]

end Batch

/-! ## The firmware on a button frame -/

namespace Firmware

def selection (firmware : Firmware) : Selection :=
  ⟨firmware.lateralControlsAllowed, firmware.longitudinalControlsAllowed⟩

def presses (firmware : Firmware) (msg : CanPacket) : List Press :=
  (if firmware.ldaPressed msg then [.laneKeep] else []) ++
    (if firmware.setReleased msg then [.set] else [])

section Hook
variable {opendbc : Opendbc} {firmware : Firmware} {msg : CanPacket}

theorem buttons_selection (split : firmware.splitButtonArm = true) :
    (firmware.buttons opendbc msg).selection =
        firmware.selection.pressAll firmware.hyundaiLongitudinal (firmware.presses msg) ∧
      (firmware.buttons opendbc msg).splitButtonArm = true := by
  rw [buttons_edges]
  unfold presses Selection.pressAll
  dsimp only
  rw [if_pos split]
  cases firmware.ldaPressed msg <;> cases firmware.setReleased msg <;>
    cases firmware.hyundaiLongitudinal <;>
    simp [split, selection, Firmware.toggleLateralOnly, Firmware.toggleCombined,
      Selection.press, Selection.toggleLateralOnly, Selection.toggleCombined]

end Hook
end Firmware

/-! ## The supervisor on an update -/

namespace SafetySupervisor

def selection (self : SafetySupervisor) : Selection := ⟨self.lateralEnabled, self.longitudinalEnabled⟩

structure LegacyToggles (config : SafetyConfig) : Prop where
  legacy : config.resumeOnCommandReturn = false
  lateralToggle : config.lateralButtonToggle = true
  longitudinalToggle : config.longitudinalButtonToggle = true

section Update
variable {config : SafetyConfig} {now : TimePoint} {vehicle : VehicleStateData}
  {panda : PandaHealth} {command : CommandSample} {self : SafetySupervisor}

theorem selectedChannels_selection (legacy : LegacyToggles config)
    (armed : self.armRequested = true) :
    (self.selectedChannels config vehicle panda).1.selection =
      self.selection.observe (self.laneKeepButtonEvent vehicle) (self.setButtonEvent vehicle) := by
  have recorded : (self.recordButtons vehicle).armRequested = true := armed
  unfold selectedChannels
  rw [selectChannels_legacy config vehicle panda recorded legacy.legacy]
  cases self.laneKeepButtonEvent vehicle <;> cases self.setButtonEvent vehicle <;>
    simp [selection, recordButtons, toggleLateralOnly, toggleCombined, Selection.observe,
      Selection.toggleLateralOnly, Selection.toggleCombined, legacy.lateralToggle,
      legacy.longitudinalToggle]

theorem observePanda_selection {turnedOff byBrake : Bool}
    (notRejected : (self.observePanda panda turnedOff byBrake).2 = false)
    (armed : (self.observePanda panda turnedOff byBrake).1.armRequested = true) :
    (self.observePanda panda turnedOff byBrake).1.selection = self.selection := by
  rcases observePanda_cases panda self turnedOff byBrake with
    ⟨reason, _, faulted⟩ | ⟨_, dropped⟩ | passed
  · rw [faulted] at armed
    cases armed
  · rw [dropped] at notRejected
    cases notRejected
  · rw [passed]

/-- Without brake, ACC fault and a rejected longitudinal frame, an update that stays armed keeps
what the buttons selected. -/
theorem observe_selection (brakeReleased : vehicle.brakePressed = false)
    (noAccFault : vehicle.accFault = false)
    (notRejected : (self.observe config vehicle panda).longitudinalTxRejected = false)
    (armed : (self.observe config vehicle panda).supervisor.armRequested = true) :
    (self.observe config vehicle panda).supervisor.selection =
      (self.selectedChannels config vehicle panda).1.selection := by
  obtain ⟨supervisor, rejected⟩ := observe_supervisor config self vehicle panda
  rw [rejected] at notRejected
  rw [supervisor] at armed ⊢
  simp only [disengageOnBrake_released brakeReleased, disengageOnAccFault_clear noAccFault] at *
  exact observePanda_selection notRejected armed

theorem gateExit_selection {observed : Observed} {result : SafetySupervisor × SafetyDecision}
    (exit : GateExit config now vehicle panda command self observed result)
    (armed : result.1.armRequested = true) : result.1.selection = self.selection := by
  cases exit with
  | unarmed | latched | waiting | armed | paused | active => rfl
  | faulted | disarmed => cases armed

theorem update_selection (legacy : LegacyToggles config) (armed : self.armRequested = true)
    (brakeReleased : vehicle.brakePressed = false) (noAccFault : vehicle.accFault = false)
    (notRejected : ((self.setWaiting false).observe config vehicle panda).longitudinalTxRejected =
      false)
    (stays : (self.update config now vehicle panda command).1.armRequested = true) :
    (self.update config now vehicle panda command).1.selection =
        self.selection.observe (self.laneKeepButtonEvent vehicle) (self.setButtonEvent vehicle) ∧
      (self.update config now vehicle panda command).1.consumed = vehicle.presses := by
  have exit := update_exit config self now vehicle panda command
  have consumed := @update_consumed config now vehicle panda command self
  generalize self.update config now vehicle panda command = result at exit stays consumed ⊢
  cases exit with
  | lostPanda _ => cases stays
  | passiveYaml _ _ => cases stays
  | gated fresh allowed observed observes exit =>
      subst observes
      constructor
      · rw [gateExit_selection exit stays, observe_selection brakeReleased noAccFault notRejected
          ((gateExit_narrowed exit).armed stays)]
        exact @selectedChannels_selection config vehicle panda (self.setWaiting false) legacy armed
      · rw [consumed, if_pos]
        exact Bool.and_eq_true_iff.mpr ⟨fresh, allowed⟩

end Update
end SafetySupervisor

/-! ## The two sides together -/

structure LockstepState where
  firmware : Firmware
  parser : FrameParser
  supervisor : SafetySupervisor

/-- A cruise button frame that the split-button hook reads and the parser accepts. -/
def deliver (opendbc : Opendbc) (state : LockstepState) (arrival : ButtonArrival) :
    Option LockstepState :=
  if arrival.msg.addr == state.firmware.buttonAddress &&
      arrival.msg.bus == opendbc.powertrainBus then
    match state.parser.update (arrival.msg.frame arrival.receivedAt) with
    | some (parser, true) =>
        some
          { state with
            firmware := state.firmware.canfdRxHook opendbc arrival.msg, parser := parser }
    | _ => none
  else none

def delivery (opendbc : Opendbc) : EventSystem LockstepState ButtonArrival where
  step := deliver opendbc

/-- Button frames and the update that follows them; everything else the update reads is free. -/
structure Round where
  frames : List ButtonArrival
  now : TimePoint
  vehicle : VehicleStateData
  panda : PandaHealth
  command : CommandSample

/-- The update samples the press counters after the last frame. -/
def roundStep (config : SafetyConfig) (opendbc : Opendbc) (state : LockstepState) (round : Round) :
    Option LockstepState := do
  let delivered ← (delivery opendbc).exec state round.frames
  if round.vehicle.presses = delivered.parser.state.presses then
    some
      { delivered with
        supervisor :=
          (delivered.supervisor.update config round.now round.vehicle round.panda round.command).1 }
  else none

def lockstep (config : SafetyConfig) (opendbc : Opendbc) : EventSystem LockstepState Round where
  step := roundStep config opendbc

def batch (alternate : Bool) : UInt8 → Bool → List ButtonArrival → List Press
  | _, _, [] => []
  | previousButton, previousLda, arrival :: rest =>
      (if arrival.lda alternate && !previousLda then [.laneKeep] else []) ++
        (if previousButton == 2 && arrival.button alternate == 0 then [.set] else []) ++
        batch alternate (arrival.button alternate) (arrival.lda alternate) rest

def Round.presses (state : LockstepState) (round : Round) : List Press :=
  batch state.firmware.altButtons state.parser.previousButton state.parser.previousLaneKeepButton
    round.frames

/-- The selections agree, the longitudinal one as far as it is allowed. -/
@[mk_iff]
structure InStep (config : SafetyConfig) (state : LockstepState) : Prop where
  lateral : state.supervisor.lateralEnabled = state.firmware.lateralControlsAllowed
  longitudinal : (config.allowLongitudinal && state.supervisor.longitudinalEnabled) =
    state.firmware.longitudinalControlsAllowed

/-- LDA presses and SET releases only, fewer than the counters hold; no brake, no fault, and the
host stays armed. -/
@[mk_iff]
structure Undisturbed (config : SafetyConfig) (state : LockstepState) (round : Round) : Prop where
  buttons : ∀ arrival ∈ round.frames, arrival.button state.firmware.altButtons = 0 ∨
    arrival.button state.firmware.altButtons = 2
  short : (round.presses state).length < 2 ^ 64
  brakeReleased : round.vehicle.brakePressed = false
  noAccFault : round.vehicle.accFault = false
  notRejected : ((state.supervisor.setWaiting false).observe config round.vehicle
    round.panda).longitudinalTxRejected = false
  armed : (state.supervisor.update config round.now round.vehicle round.panda
    round.command).1.armRequested = true

instance (config : SafetyConfig) (state : LockstepState) : Decidable (InStep config state) :=
  decidable_of_iff' _ (inStep_iff ..)

instance (config : SafetyConfig) (state : LockstepState) (round : Round) :
    Decidable (Undisturbed config state round) :=
  decidable_of_iff' _ (undisturbed_iff ..)

structure Aligned (firmware : Firmware) (parser : FrameParser) : Prop where
  split : firmware.splitButtonArm = true
  lda : firmware.ldaButtonPrev = parser.previousLaneKeepButton
  button : firmware.hyundaiLongitudinal = true → firmware.cruiseButtonPrev = parser.previousButton

structure Lockstep (config : SafetyConfig) (state : LockstepState) : Prop where
  aligned : Aligned state.firmware state.parser
  profile : state.firmware.hyundaiLongitudinal = config.allowLongitudinal
  armed : state.supervisor.armRequested = true
  consumed : state.supervisor.consumed = state.parser.state.presses

section Delivery
variable {opendbc : Opendbc} {state next : LockstepState} {arrival : ButtonArrival}

structure Delivered (state : LockstepState) (presses : List Press) (final : LockstepState) :
    Prop where
  aligned : Aligned final.firmware final.parser
  profile : final.firmware.hyundaiLongitudinal = state.firmware.hyundaiLongitudinal
  alternate : final.firmware.altButtons = state.firmware.altButtons
  supervisor : final.supervisor = state.supervisor
  selection : final.firmware.selection =
    state.firmware.selection.pressAll state.firmware.hyundaiLongitudinal presses
  laneKeep : final.parser.state.laneKeepButtonEvents =
    state.parser.state.laneKeepButtonEvents + UInt64.ofNat (presses.count .laneKeep)
  set : final.parser.state.setButtonEvents =
    state.parser.state.setButtonEvents + UInt64.ofNat (presses.count .set)

theorem Delivered.trans {middle final : LockstepState} {early late : List Press}
    (first : Delivered state early middle) (second : Delivered middle late final) :
    Delivered state (early ++ late) final where
  aligned := second.aligned
  profile := second.profile.trans first.profile
  alternate := second.alternate.trans first.alternate
  supervisor := second.supervisor.trans first.supervisor
  selection := by
    rw [second.selection, first.selection, first.profile, Selection.pressAll_append]
  laneKeep := by
    rw [second.laneKeep, first.laneKeep, List.count_append, UInt64.ofNat_add, UInt64.add_assoc]
  set := by
    rw [second.set, first.set, List.count_append, UInt64.ofNat_add, UInt64.add_assoc]

theorem deliver_accepted (step : deliver opendbc state arrival = some next) :
    arrival.msg.addr = state.firmware.buttonAddress ∧ arrival.msg.bus = opendbc.powertrainBus ∧
      next = { state with
        firmware := state.firmware.canfdRxHook opendbc arrival.msg
        parser := state.parser.countButtons (arrival.button state.firmware.altButtons)
          (arrival.lda state.firmware.altButtons) } := by
  unfold deliver at step
  split at step
  · rename_i read
    obtain ⟨address, bus⟩ : arrival.msg.addr = state.firmware.buttonAddress ∧
        arrival.msg.bus = opendbc.powertrainBus := by simpa using read
    split at step
    · rename_i parser updated
      cases step
      refine ⟨address, bus, ?_⟩
      rw [countButtons_of_accepted address updated]
      rfl
    · cases step
  · cases step

theorem pressAll_presses {firmware : Firmware} {parser : FrameParser}
    (aligned : Aligned firmware parser) (address : arrival.msg.addr = firmware.buttonAddress)
    (button : arrival.button firmware.altButtons = 0 ∨ arrival.button firmware.altButtons = 2)
    (selection : Selection) :
    selection.pressAll firmware.hyundaiLongitudinal (firmware.presses arrival.msg) =
      selection.pressAll firmware.hyundaiLongitudinal
        (batch firmware.altButtons parser.previousButton parser.previousLaneKeepButton
          [arrival]) := by
  have lda : firmware.ldaPressed arrival.msg =
      (arrival.lda firmware.altButtons && !parser.previousLaneKeepButton) := by
    unfold Firmware.ldaPressed
    rw [Firmware.alternate_of_address address, aligned.lda]
    rfl
  unfold Firmware.presses batch
  rw [lda, batch, List.append_nil]
  cases combined : firmware.hyundaiLongitudinal with
  | true =>
      have set : firmware.setReleased arrival.msg =
          (parser.previousButton == 2 && arrival.button firmware.altButtons == 0) := by
        have code : arrival.msg.cruiseButton firmware.altButtons =
          arrival.button firmware.altButtons := rfl
        unfold Firmware.setReleased
        rw [Firmware.alternate_of_address address, aligned.button combined, code]
        rcases button with none | held
        · rw [none, Bool.and_comm]
          rfl
        · rw [held, Bool.and_comm]
          rfl
      rw [set]
  | false =>
      rw [Selection.pressAll_append, Selection.pressAll_append, Selection.pressAll_set_ignored,
        Selection.pressAll_set_ignored]

theorem deliver_delivered (tracks : opendbc.TracksButton)
    (aligned : Aligned state.firmware state.parser)
    (button : arrival.button state.firmware.altButtons = 0 ∨
      arrival.button state.firmware.altButtons = 2)
    (step : deliver opendbc state arrival = some next) :
    Delivered state (batch state.firmware.altButtons state.parser.previousButton
        state.parser.previousLaneKeepButton [arrival]) next ∧
      next.parser.previousButton = arrival.button state.firmware.altButtons ∧
      next.parser.previousLaneKeepButton = arrival.lda state.firmware.altButtons := by
  obtain ⟨address, bus, rfl⟩ := deliver_accepted step
  obtain ⟨controls, hooked⟩ := @Firmware.canfdRxHook_button opendbc state.firmware arrival.msg
    address bus
  have memory := @Firmware.canfdRxHook_memory opendbc state.firmware arrival.msg tracks address bus
  obtain ⟨toggled, split⟩ := @Firmware.buttons_selection opendbc state.firmware arrival.msg
    aligned.split
  have profile : (state.firmware.canfdRxHook opendbc arrival.msg).hyundaiLongitudinal =
      state.firmware.hyundaiLongitudinal := congrArg Firmware.HookMemory.combined memory
  refine ⟨?_, rfl, rfl⟩
  exact
    { aligned :=
        { split := by rw [hooked]; exact split
          lda := congrArg Firmware.HookMemory.lda memory
          button := fun combined => by
            have stored := congrArg Firmware.HookMemory.cruise memory
            refine stored.trans (if_pos ?_)
            exact profile.symm.trans combined }
      profile := profile
      alternate := congrArg Firmware.HookMemory.alternate memory
      supervisor := rfl
      selection := by
        rw [← pressAll_presses aligned address button, ← toggled, hooked]
        rfl
      laneKeep := by
        rw [FrameParser.countButtons_laneKeepButtonEvents]
        unfold batch batch
        split <;> split <;> simp
      set := by
        rw [FrameParser.countButtons_setButtonEvents]
        unfold batch batch
        split <;> split <;> simp }

theorem exec_delivered (tracks : opendbc.TracksButton) (frames : List ButtonArrival) :
    ∀ {state final : LockstepState}, Aligned state.firmware state.parser →
      (∀ arrival ∈ frames, arrival.button state.firmware.altButtons = 0 ∨
        arrival.button state.firmware.altButtons = 2) →
      (delivery opendbc).exec state frames = some final →
        Delivered state (batch state.firmware.altButtons state.parser.previousButton
          state.parser.previousLaneKeepButton frames) final := by
  induction frames with
  | nil =>
      intro state final aligned _ run
      cases Option.some.inj run
      exact
        { aligned := aligned
          profile := rfl
          alternate := rfl
          supervisor := rfl
          selection := rfl
          laneKeep := by simp [batch]
          set := by simp [batch] }
  | cons arrival rest ih =>
      intro state final aligned buttons run
      obtain ⟨next, step, tail⟩ := EventSystem.exec_cons run
      obtain ⟨first, button, lda⟩ := deliver_delivered tracks aligned
        (buttons arrival (List.mem_cons_self ..)) step
      have later := ih first.aligned
        (fun other member => by
          rw [first.alternate]
          exact buttons other (List.mem_cons_of_mem _ member)) tail
      rw [first.alternate, button, lda] at later
      have both := first.trans later
      rwa [batch, batch, List.append_nil] at both

end Delivery

section Rounds
variable {config : SafetyConfig} {opendbc : Opendbc} {state next : LockstepState} {round : Round}

/-- A counter that rose fewer than 2^64 times changed if it rose at all. -/
theorem counter_changed (counter : UInt64) {presses : Nat} (short : presses < 2 ^ 64) :
    (counter + UInt64.ofNat presses != counter) = (presses != 0) := by
  by_cases unpressed : presses = 0
  · simp [unpressed]
  · have moved : UInt64.ofNat presses ≠ 0 := by
      intro zero
      have value := congrArg UInt64.toNat zero
      rw [UInt64.toNat_ofNat_of_lt' short] at value
      exact unpressed value
    rw [bne_iff_ne.mpr unpressed, bne_iff_ne]
    exact fun same => moved (UInt64.add_eq_left.mp same)

theorem roundStep_cases (step : roundStep config opendbc state round = some next) :
    ∃ delivered, (delivery opendbc).exec state round.frames = some delivered ∧
      round.vehicle.presses = delivered.parser.state.presses ∧
      next = { delivered with
        supervisor := (delivered.supervisor.update config round.now round.vehicle round.panda
          round.command).1 } := by
  obtain ⟨delivered, exec, answered⟩ := Option.bind_eq_some_iff.mp step
  refine ⟨delivered, exec, ?_⟩
  split at answered
  · rename_i sampled
    cases answered
    exact ⟨sampled, rfl⟩
  · cases answered

theorem Lockstep.afterRound (legacy : SafetySupervisor.LegacyToggles config)
    (tracks : opendbc.TracksButton) (lockstep : Lockstep config state)
    (undisturbed : Undisturbed config state round)
    (step : roundStep config opendbc state round = some next) :
    Lockstep config next ∧
      next.firmware.selection =
        state.firmware.selection.pressAll config.allowLongitudinal (round.presses state) ∧
      next.supervisor.selection =
        state.supervisor.selection.observe ((round.presses state).count .laneKeep != 0)
          ((round.presses state).count .set != 0) := by
  obtain ⟨delivered, exec, sampled, rfl⟩ := roundStep_cases step
  have frames := exec_delivered tracks round.frames lockstep.aligned undisturbed.buttons exec
  have profile := lockstep.profile
  obtain ⟨laneKeepLast, setLast⟩ := PressCounters.mk.inj lockstep.consumed
  obtain ⟨laneKeepSample, setSample⟩ := PressCounters.mk.inj sampled
  have laneKeepEvent : state.supervisor.laneKeepButtonEvent round.vehicle =
      ((round.presses state).count .laneKeep != 0) := by
    unfold SafetySupervisor.laneKeepButtonEvent
    rw [laneKeepLast, laneKeepSample, frames.laneKeep]
    exact counter_changed _ (Nat.lt_of_le_of_lt List.count_le_length undisturbed.short)
  have setEvent : state.supervisor.setButtonEvent round.vehicle =
      ((round.presses state).count .set != 0) := by
    unfold SafetySupervisor.setButtonEvent
    rw [setLast, setSample, frames.set]
    exact counter_changed _ (Nat.lt_of_le_of_lt List.count_le_length undisturbed.short)
  obtain ⟨selected, consumed⟩ := SafetySupervisor.update_selection legacy lockstep.armed
    undisturbed.brakeReleased undisturbed.noAccFault undisturbed.notRejected undisturbed.armed
  rw [laneKeepEvent, setEvent] at selected
  refine ⟨?_, ?_, ?_⟩
  · exact
      { aligned := frames.aligned
        profile := frames.profile.trans profile
        armed := by rw [frames.supervisor]; exact undisturbed.armed
        consumed := by rw [frames.supervisor]; exact consumed.trans sampled }
  · rw [← profile]
    exact frames.selection
  · rw [frames.supervisor]
    exact selected

/-- Sides in step before a round are in step after it on the batches of `SameToggles`. -/
theorem InStep.afterRound (legacy : SafetySupervisor.LegacyToggles config)
    (tracks : opendbc.TracksButton) (lockstep : Lockstep config state) (same : InStep config state)
    (undisturbed : Undisturbed config state round)
    (step : roundStep config opendbc state round = some next) :
    InStep config next ↔
      SameToggles config.allowLongitudinal state.supervisor.selection (round.presses state) := by
  obtain ⟨_, firmware, supervisor⟩ := lockstep.afterRound legacy tracks undisturbed step
  have before := same.longitudinal
  cases combined : config.allowLongitudinal with
  | true =>
      have equal : state.firmware.selection = state.supervisor.selection := by
        unfold Firmware.selection SafetySupervisor.selection
        rw [same.lateral, ← before, combined, Bool.true_and]
      rw [combined, equal] at firmware
      rw [← combined_agree_iff, ← firmware, ← supervisor]
      constructor
      · intro after
        unfold Firmware.selection SafetySupervisor.selection
        rw [after.lateral, ← after.longitudinal, combined, Bool.true_and]
      · intro equal
        obtain ⟨lateral, longitudinal⟩ := Selection.mk.inj equal
        exact ⟨lateral.symm, by rw [combined, Bool.true_and]; exact longitudinal.symm⟩
  | false =>
      have equal : state.firmware.selection = ⟨state.supervisor.selection.lateral, false⟩ := by
        unfold Firmware.selection
        rw [← same.lateral, ← before, combined]
        rfl
      rw [combined, equal] at firmware
      rw [← lateral_agree_iff, ← firmware, ← supervisor]
      constructor
      · intro after
        exact after.lateral.symm
      · intro lateral
        refine ⟨lateral.symm, ?_⟩
        rw [pressAll_lateralOnly] at firmware
        rw [combined]
        exact (congrArg Selection.longitudinal firmware).symm

end Rounds

/-- In every run the selections agree after every update exactly when every batch of presses
between two updates is one of `SameToggles`. -/
theorem toggles_in_step_iff (config : SafetyConfig)
    (legacy : SafetySupervisor.LegacyToggles config) (opendbc : Opendbc)
    (tracks : opendbc.TracksButton) (rounds : List Round) (state final : LockstepState)
    (start : Lockstep config state) (same : InStep config state)
    (undisturbed : (lockstep config opendbc).Meets (Undisturbed config) state rounds)
    (run : (lockstep config opendbc).exec state rounds = some final) :
    (lockstep config opendbc).Meets
        (fun state round => ∀ next ∈ roundStep config opendbc state round, InStep config next)
        state rounds ↔
      (lockstep config opendbc).Meets
        (fun state round => SameToggles config.allowLongitudinal state.supervisor.selection
          (round.presses state))
        state rounds := by
  induction rounds generalizing state with
  | nil => exact iff_of_true trivial trivial
  | cons round rest ih =>
      obtain ⟨next, step, tail⟩ := EventSystem.exec_cons run
      have later := (start.afterRound legacy tracks undisturbed.1 step).1
      have here := same.afterRound legacy tracks start undisturbed.1 step
      constructor
      · intro agree
        have after := agree.1 next step
        refine ⟨here.mp after, fun other otherStep => ?_⟩
        cases step.symm.trans otherStep
        exact (ih next later after (undisturbed.2 next step) tail).mp (agree.2 next step)
      · intro batches
        have after := here.mpr batches.1
        refine ⟨fun other otherStep => ?_, fun other otherStep => ?_⟩
        · cases step.symm.trans otherStep
          exact after
        · cases step.symm.trans otherStep
          exact (ih next later after (undisturbed.2 next step) tail).mpr (batches.2 next step)

/-! ## Two presses between two updates -/

def ldaMsg (pressed : Bool) : CanPacket :=
  { addr := 0x1CF, bus := 0, data := [0, 0, if pressed then 128 else 0, 0, 0, 0, 0, 0] }

def lockstepArrival (msg : CanPacket) : ButtonArrival where
  now := 0
  msg := msg
  receivedAt := fixtureNow

def fixtureRound (msgs : List CanPacket) (laneKeep set : UInt64) : Round where
  frames := msgs.map lockstepArrival
  now := fixtureNow
  vehicle :=
    { fixtureVehicle with laneKeepButtonEvents := laneKeep, setButtonEvents := set }
  panda := fixturePanda
  command := fixtureCommand

def armedLockstep : LockstepState where
  firmware := { splitButtonArm := true, hyundaiLongitudinal := true }
  parser := {}
  supervisor := (supervisorMachine SafetySupervisor.longitudinalConfig.toSafetyConfig).run {}
    [.requestArm true, fixtureUpdate fixtureVehicle]

theorem armedLockstep_start : Lockstep SafetySupervisor.longitudinalConfig.toSafetyConfig armedLockstep where
  aligned := ⟨rfl, rfl, fun _ => rfl⟩
  profile := rfl
  armed := by decide +kernel
  consumed := by decide +kernel

theorem longitudinalConfig_legacy :
    SafetySupervisor.LegacyToggles SafetySupervisor.longitudinalConfig.toSafetyConfig :=
  ⟨rfl, rfl, rfl⟩

theorem single_presses_in_step :
    let config := SafetySupervisor.longitudinalConfig.toSafetyConfig
    let rounds := [fixtureRound [ldaMsg true, ldaMsg false] 1 0,
      fixtureRound [buttonsMsg 2, buttonsMsg 0] 1 1]
    ∃ final, (lockstep config validFrames).exec armedLockstep rounds = some final ∧
      (lockstep config validFrames).Meets
        (fun state round => ∀ next ∈ roundStep config validFrames state round, InStep config next)
        armedLockstep rounds := by
  refine ⟨_, rfl, (toggles_in_step_iff SafetySupervisor.longitudinalConfig.toSafetyConfig longitudinalConfig_legacy
    validFrames validFrames_tracks _ armedLockstep _ armedLockstep_start
    (by decide +kernel) (by decide +kernel) rfl).mpr ?_⟩
  decide +kernel

/-- Two LDA presses before one update: the firmware is off again, the supervisor on. -/
theorem double_press_out_of_step :
    let config := SafetySupervisor.longitudinalConfig.toSafetyConfig
    let rounds := [fixtureRound [ldaMsg true, ldaMsg false, ldaMsg true, ldaMsg false] 2 0]
    SafetySupervisor.LegacyToggles config ∧ validFrames.TracksButton ∧
      Lockstep config armedLockstep ∧ InStep config armedLockstep ∧
      (lockstep config validFrames).Meets (Undisturbed config) armedLockstep rounds ∧
      ∃ final, (lockstep config validFrames).exec armedLockstep rounds = some final ∧
        ¬ InStep config final := by
  refine ⟨longitudinalConfig_legacy, validFrames_tracks, armedLockstep_start, ?_, ?_, _, rfl, ?_⟩
  · decide +kernel
  · decide +kernel
  · decide +kernel

end Ioniq5Ecan
