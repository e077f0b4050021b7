import Ioniq5Ecan.Supervisor.Driving

/-! # Channels withdrawn by the driver

A driver action makes the firmware withdraw a channel and reject the frames of
it that are in flight.  The host learns of the action, of the rejection and of
the rejected address in any order (`Facts`); `withdrawal_unreported_iff` says
for which orders the withdrawal is not taken for a fault. -/
set_option autoImplicit false
namespace Ioniq5Ecan
namespace SafetySupervisor

open Library (CallMachine)

/-! ## Driver actions -/

inductive Withdrawal
  | ldaOff
  | setOff
  | ldaToLateral
  | brake
  deriving DecidableEq

namespace Withdrawal

/-- The actions that withdraw both channels. -/
def turnsOff : Withdrawal → Bool
  | .ldaOff | .setOff => true
  | .ldaToLateral | .brake => false

def combined : Withdrawal → Bool
  | .ldaOff => false
  | .setOff | .ldaToLateral | .brake => true

def presses (action : Withdrawal) (before : PressCounters) (moved : UInt64) (pressed : Bool) :
    PressCounters :=
  match action with
  | .ldaOff | .ldaToLateral => if pressed then { before with laneKeep := moved } else before
  | .setOff => if pressed then { before with set := moved } else before
  | .brake => before

def Moves (action : Withdrawal) (before : PressCounters) (moved : UInt64) : Prop :=
  match action with
  | .ldaOff | .ldaToLateral => moved ≠ before.laneKeep
  | .setOff => moved ≠ before.set
  | .brake => True

/-- The actuator frames of the withdrawn channels. -/
def owns (action : Withdrawal) (address : UInt32) : Bool :=
  match action with
  | .ldaOff => address == 0x12A
  | .setOff => knownActuatorAddress address
  | .ldaToLateral | .brake => longitudinalAddress address

end Withdrawal

/-- The facts an update of the host has been told. -/
structure Facts where
  evidence : Bool := false
  selection : Bool := false
  blocked : Bool := false
  address : Bool := false
  controls : Bool := true
  deriving DecidableEq

/-- Facts are not forgotten; the firmware permission may change either way. -/
structure Facts.Ascends (before after : Facts) : Prop where
  evidence : before.evidence = true → after.evidence = true
  selection : before.selection = true → after.selection = true
  blocked : before.blocked = true → after.blocked = true
  address : before.address = true → after.address = true

/-- One withdrawal: the configuration, the action, and the values the samples show before and
after it. -/
structure WithdrawalCase where
  config : AcceptedConfig
  action : Withdrawal
  before : PressCounters
  moved : UInt64
  cancel : UInt64
  blocked : UInt32
  rejected : UInt32
  stale : UInt32
  address : UInt32
  allowed : config.allowActuation = true
  allowsLongitudinal : action.combined = true → config.allowLongitudinal = true
  moves : action.Moves before moved
  more : blocked < rejected
  belongs : action.owns address = true

/-- Healthy samples that show exactly the given facts. -/
structure Shows (scenario : WithdrawalCase) (facts : Facts) (now : TimePoint)
    (vehicle : VehicleStateData) (panda : PandaHealth) (command : CommandSample) : Prop where
  driving : DrivingSample scenario.config.toSafetyConfig now vehicle panda command
  presses : vehicle.presses =
    scenario.action.presses scenario.before scenario.moved facts.evidence
  cancel : vehicle.cancelButtonEvents = scenario.cancel
  brake : vehicle.brakePressed = (facts.evidence && scenario.action == .brake)
  lateral : scenario.config.resumeOnCommandReturn = true →
    panda.lateralSelected = !(facts.selection && scenario.action.turnsOff)
  longitudinal : scenario.config.resumeOnCommandReturn = true →
    panda.longitudinalSelected = (scenario.action.combined && !facts.selection)
  blocked : panda.safetyTxBlocked = if facts.blocked then scenario.rejected else scenario.blocked
  address : panda.lastRejectedAddress =
    if facts.address then scenario.address else scenario.stale
  controls : panda.controlsAllowed = facts.controls

/-! ## The channel flags of a withdrawal -/

structure Channels where
  lateral : Bool
  longitudinal : Bool
  latched : Bool
  deriving DecidableEq

def channels (self : SafetySupervisor) : Channels :=
  ⟨self.lateralEnabled, self.longitudinalEnabled, self.longitudinalLatchedOff⟩

namespace WithdrawalCase
variable (scenario : WithdrawalCase)

def select (facts : Facts) (event : Bool) (from' : Channels) : Channels × Bool :=
  if scenario.config.resumeOnCommandReturn then
    let latched := from'.latched && !(event && scenario.action == .setOff)
    (⟨!(facts.selection && scenario.action.turnsOff),
        scenario.action.combined && !facts.selection && !latched, latched⟩,
      (from'.lateral || from'.longitudinal) && (facts.selection && scenario.action.turnsOff))
  else if event then
    match scenario.action with
    | .ldaOff | .ldaToLateral =>
        let turnOff := scenario.config.lateralButtonToggle && (from'.lateral && !from'.longitudinal)
        (⟨!turnOff, false, from'.latched⟩, turnOff)
    | .setOff =>
        let turnOff := scenario.config.longitudinalButtonToggle &&
          (from'.lateral && from'.longitudinal)
        (⟨!turnOff, !turnOff, from'.latched⟩, turnOff)
    | .brake => (from', false)
  else (from', false)

def brakeStage (facts : Facts) (selected : Channels) : Channels × Bool :=
  if facts.evidence && scenario.action == .brake then
    (⟨selected.lateral && !scenario.config.lateralDisengageOnBrake,
        selected.longitudinal && !scenario.config.longitudinalDisengageOnBrake,
        selected.latched || scenario.config.longitudinalDisengageOnBrake⟩,
      scenario.config.longitudinalDisengageOnBrake && selected.longitudinal)
  else (selected, false)

end WithdrawalCase

section Refinement
variable {scenario : WithdrawalCase} {before facts : Facts} {now : TimePoint}
  {vehicle : VehicleStateData} {panda : PandaHealth} {command : CommandSample}
  {self : SafetySupervisor}

theorem events_of_presses (consumed : self.consumed =
      scenario.action.presses scenario.before scenario.moved before.evidence)
    (shows : Shows scenario facts now vehicle panda command)
    (ascends : before.Ascends facts) :
    self.laneKeepButtonEvent vehicle =
        ((facts.evidence && !before.evidence) &&
          (scenario.action == .ldaOff || scenario.action == .ldaToLateral)) ∧
      self.setButtonEvent vehicle =
        ((facts.evidence && !before.evidence) && scenario.action == .setOff) := by
  have laneKeep := congrArg PressCounters.laneKeep shows.presses
  have setPress := congrArg PressCounters.set shows.presses
  have laneKeepSeen := congrArg PressCounters.laneKeep consumed
  have setSeen := congrArg PressCounters.set consumed
  have moves := scenario.moves
  have kept := ascends.evidence
  simp only [VehicleStateData.presses] at laneKeep setPress
  simp only [SafetySupervisor.consumed] at laneKeepSeen setSeen
  unfold laneKeepButtonEvent setButtonEvent
  rw [laneKeep, setPress, laneKeepSeen, setSeen]
  generalize before.evidence = pressed at kept ⊢
  generalize facts.evidence = pressing at kept ⊢
  generalize scenario.action = action at moves ⊢
  cases action <;> cases pressed <;> cases pressing <;>
    simp_all [Withdrawal.presses, Withdrawal.Moves]

theorem selectedChannels_channels (armed : self.armRequested = true)
    (consumed : self.consumed =
      scenario.action.presses scenario.before scenario.moved before.evidence)
    (shows : Shows scenario facts now vehicle panda command) (ascends : before.Ascends facts) :
    let selected := (self.setWaiting false).selectedChannels scenario.config.toSafetyConfig
      vehicle panda
    (channels selected.1, selected.2) =
      scenario.select facts (facts.evidence && !before.evidence) self.channels := by
  intro selected
  obtain ⟨laneKeep, setPress⟩ := events_of_presses consumed shows ascends
  have recorded : ((self.setWaiting false).recordButtons vehicle).armRequested = true := armed
  have expanded : selected = ((self.setWaiting false).recordButtons vehicle).selectChannels
      scenario.config.toSafetyConfig vehicle panda (self.laneKeepButtonEvent vehicle)
      (self.setButtonEvent vehicle) := rfl
  rw [expanded, laneKeep, setPress]
  cases session : scenario.config.resumeOnCommandReturn with
  | true =>
      rw [selectChannels_session _ _ _ recorded session]
      have lateral := shows.lateral session
      have longitudinal := shows.longitudinal session
      simp only [selectFromFirmware, channels, WithdrawalCase.select, session, if_true, lateral,
        longitudinal, shows.brake, shows.driving.noAccFault, recordButtons, setWaiting]
      generalize scenario.action = action
      cases action <;> cases facts.selection <;> cases facts.evidence && !before.evidence <;>
        simp [Withdrawal.turnsOff, Withdrawal.combined]
  | false =>
      rw [selectChannels_legacy _ _ _ recorded session]
      simp only [WithdrawalCase.select, session, Bool.false_eq_true, if_false]
      generalize scenario.action = action
      cases action <;> cases facts.evidence && !before.evidence <;>
        simp [channels, toggleLateralOnly, toggleCombined, recordButtons, setWaiting]

theorem intervene_channels (armed : self.armRequested = true)
    (consumed : self.consumed =
      scenario.action.presses scenario.before scenario.moved before.evidence)
    (shows : Shows scenario facts now vehicle panda command) (ascends : before.Ascends facts) :
    let intervened := self.intervene scenario.config.toSafetyConfig vehicle panda
    let selected := scenario.select facts (facts.evidence && !before.evidence) self.channels
    channels intervened.supervisor = (scenario.brakeStage facts selected.1).1 ∧
      intervened.turnedOff = selected.2 ∧
      intervened.byBrake = (scenario.brakeStage facts selected.1).2 := by
  intro intervened selected
  have selection := selectedChannels_channels armed consumed shows ascends
  obtain ⟨flags, turnedOff⟩ := Prod.mk.inj selection
  have stage : ∀ supervisor : SafetySupervisor,
      (channels (supervisor.disengageOnBrake scenario.config.toSafetyConfig vehicle).1,
        (supervisor.disengageOnBrake scenario.config.toSafetyConfig vehicle).2) =
        scenario.brakeStage facts (channels supervisor) := by
    intro supervisor
    rw [disengageOnBrake, WithdrawalCase.brakeStage, shows.brake]
    split
    · rfl
    · rfl
  obtain ⟨braked, byBrake⟩ := Prod.mk.inj (stage
    (((self.setWaiting false).selectedChannels scenario.config.toSafetyConfig vehicle
      panda).1.afterSelection vehicle))
  have unchanged : channels (((self.setWaiting false).selectedChannels
      scenario.config.toSafetyConfig vehicle panda).1.afterSelection vehicle) = selected.1 := flags
  rw [unchanged] at braked byBrake
  exact ⟨braked, turnedOff, byBrake⟩

end Refinement

/-! ## Runs of a withdrawal -/

structure WithdrawalStep (scenario : WithdrawalCase) where
  facts : Facts
  now : TimePoint
  vehicle : VehicleStateData
  panda : PandaHealth
  command : CommandSample
  shows : Shows scenario facts now vehicle panda command

def WithdrawalStep.call {scenario : WithdrawalCase} (step : WithdrawalStep scenario) :
    SupervisorCall :=
  .update step.now step.vehicle step.panda step.command

def Ascending {scenario : WithdrawalCase} : Facts → List (WithdrawalStep scenario) → Prop
  | _, [] => True
  | facts, step :: rest => facts.Ascends step.facts ∧ Ascending step.facts rest

def lastFacts {scenario : WithdrawalCase} : Facts → List (WithdrawalStep scenario) → Facts
  | facts, [] => facts
  | _, step :: rest => lastFacts step.facts rest

/-- What the supervisor remembers of the facts. -/
structure Remembers (scenario : WithdrawalCase) (facts : Facts) (supervisor : SafetySupervisor) :
    Prop where
  engageable : supervisor.Engageable
  consumed : supervisor.consumed =
    scenario.action.presses scenario.before scenario.moved facts.evidence
  cancel : supervisor.lastCancelButtonEvents = scenario.cancel
  blocked : supervisor.lastTxBlocked =
    if facts.blocked then scenario.rejected else scenario.blocked

section Steps
variable {scenario : WithdrawalCase} {before : Facts} {self : SafetySupervisor}

def WithdrawalStep.after (step : WithdrawalStep scenario) (self : SafetySupervisor) :
    SafetySupervisor :=
  (self.update scenario.config.toSafetyConfig step.now step.vehicle step.panda step.command).1

def WithdrawalStep.checked (step : WithdrawalStep scenario) (self : SafetySupervisor) :
    SafetySupervisor :=
  SafetySupervisor.checked
    (self.intervene scenario.config.toSafetyConfig step.vehicle step.panda) self step.panda

theorem Remembers.noCancel (remembers : Remembers scenario before self)
    (step : WithdrawalStep scenario) : self.cancelEvent step.vehicle = false := by
  simp [cancelEvent, remembers.cancel, step.shows.cancel]

theorem step_faults (remembers : Remembers scenario before self) (step : WithdrawalStep scenario)
    (faulted : (step.checked self).state = .fault) :
    (step.after self).state = .fault ∧ (step.after self).Disengaged :=
  (update_driving scenario.allowed remembers.engageable step.shows.driving
    (remembers.noCancel step)).1 faulted

theorem step_settles (remembers : Remembers scenario before self) (step : WithdrawalStep scenario)
    (notFault : (step.checked self).state ≠ .fault) :
    Remembers scenario step.facts (step.after self) ∧
      channels (step.after self) = channels (step.checked self) ∧
      (step.after self).state = settledState scenario.config.toSafetyConfig (step.checked self)
        step.vehicle step.panda := by
  obtain ⟨reason, settled⟩ := (update_driving scenario.allowed remembers.engageable
    step.shows.driving (remembers.noCancel step)).2 notFault
  have next : (step.checked self).Engageable := checked_engageable remembers.engageable notFault
  obtain ⟨notFaultAfter, notSoft⟩ := @settledState_ne scenario.config.toSafetyConfig
    (step.checked self) step.vehicle step.panda
  obtain ⟨_, _, _, consumed, cancel⟩ := intervene_frame scenario.config.toSafetyConfig self
    step.vehicle step.panda
  obtain ⟨memory, cancelMemory⟩ := checked_memory
    (self.intervene scenario.config.toSafetyConfig step.vehicle step.panda) self step.panda
  have after : step.after self = _ := settled
  rw [after]
  refine ⟨⟨⟨next.armed, notFaultAfter, notSoft⟩, ?_, ?_, ?_⟩, rfl, rfl⟩
  · exact (memory.trans consumed).trans step.shows.presses
  · exact (cancelMemory.trans cancel).trans step.shows.cancel
  · exact step.shows.blocked

end Steps
/-! ## The flags of a withdrawal -/

namespace WithdrawalCase
variable (scenario : WithdrawalCase)

def quiet (facts : Facts) : Channels :=
  let braked := facts.evidence && scenario.action == .brake &&
    scenario.config.longitudinalDisengageOnBrake
  if scenario.config.resumeOnCommandReturn then
    ⟨!(facts.selection && scenario.action.turnsOff),
      scenario.action.combined && !facts.selection && !braked, braked⟩
  else match scenario.action with
    | .ldaOff => ⟨!(facts.evidence && scenario.config.lateralButtonToggle), false, false⟩
    | .setOff =>
        ⟨!(facts.evidence && scenario.config.longitudinalButtonToggle),
          !(facts.evidence && scenario.config.longitudinalButtonToggle), false⟩
    | .ldaToLateral => ⟨true, !facts.evidence, false⟩
    | .brake => ⟨true, !braked, braked⟩

/-- The brake disengages steering, which the firmware never does. -/
def brakeSteers : Bool :=
  scenario.action == .brake && scenario.config.lateralDisengageOnBrake

def quietStep (before facts : Facts) (from' : Channels) : Channels :=
  (scenario.brakeStage facts
    (scenario.select facts (facts.evidence && !before.evidence) from').1).1

/-- The flags are those of the facts; the latch counts in the session only. -/
structure Tracked (facts : Facts) (flags : Channels) : Prop where
  lateral : flags.lateral = (scenario.quiet facts).lateral
  longitudinal : flags.longitudinal = (scenario.quiet facts).longitudinal
  latched : scenario.config.resumeOnCommandReturn = true → scenario.action.combined = true →
    flags.latched = (scenario.quiet facts).latched

variable {scenario} {before facts : Facts} {flags : Channels}

theorem tracked_step (steers : scenario.brakeSteers = false)
    (tracked : scenario.Tracked before flags) (ascends : before.Ascends facts) :
    scenario.Tracked facts (scenario.quietStep before facts flags) := by
  obtain ⟨lateral, longitudinal, latched⟩ := tracked
  have evidence := ascends.evidence
  unfold brakeSteers at steers
  unfold quietStep brakeStage select
  unfold quiet at lateral longitudinal latched
  constructor
  all_goals
    unfold quiet
    generalize scenario.action = action at *
    cases session : scenario.config.resumeOnCommandReturn <;> cases action <;>
      simp only [Withdrawal.turnsOff, Withdrawal.combined, session] at * <;> grind

/-- The flags the rejection check is told, for tracked channels. -/
theorem tracked_turnedOff (tracked : scenario.Tracked before flags)
    (ascends : before.Ascends facts) :
    (scenario.select facts (facts.evidence && !before.evidence) flags).2 =
      (scenario.action.turnsOff && (scenario.quiet before).lateral &&
        !(scenario.quiet facts).lateral) := by
  obtain ⟨lateral, longitudinal, latched⟩ := tracked
  have evidence := ascends.evidence
  have selection := ascends.selection
  unfold select
  unfold quiet at lateral longitudinal ⊢
  generalize scenario.action = action at *
  cases session : scenario.config.resumeOnCommandReturn <;> cases action <;>
    simp only [Withdrawal.turnsOff, Withdrawal.combined, session] at * <;> grind

theorem tracked_byBrake (tracked : scenario.Tracked before flags)
    (ascends : before.Ascends facts) :
    (scenario.brakeStage facts
        (scenario.select facts (facts.evidence && !before.evidence) flags).1).2 =
      (scenario.action == .brake && scenario.config.longitudinalDisengageOnBrake &&
        facts.evidence && !before.evidence &&
          !(scenario.config.resumeOnCommandReturn && facts.selection)) := by
  obtain ⟨lateral, longitudinal, latched⟩ := tracked
  have evidence := ascends.evidence
  unfold brakeStage select
  unfold quiet at lateral longitudinal latched
  generalize scenario.action = action at *
  cases session : scenario.config.resumeOnCommandReturn <;> cases action <;>
    simp only [Withdrawal.turnsOff, Withdrawal.combined, session] at * <;> grind

theorem quiet_led (facts : Facts) (on : (scenario.quiet facts).longitudinal = true) :
    (scenario.quiet facts).lateral = true := by
  unfold quiet at on ⊢
  generalize scenario.action = action at *
  cases session : scenario.config.resumeOnCommandReturn <;> cases action <;>
    simp_all [Withdrawal.turnsOff, Withdrawal.combined]

/-! ### After a rejection taken for the longitudinal channel -/

/-- The flags after such a rejection, counted by an update that had `seen` the evidence or not. -/
def Dropped (scenario : WithdrawalCase) (seen : Bool) (facts : Facts) (flags : Channels) : Prop :=
  if scenario.config.resumeOnCommandReturn then
    flags.lateral = !(facts.selection && scenario.action.turnsOff) ∧
      (facts.selection = true → flags.longitudinal = false)
  else match scenario.action with
    | .ldaOff => flags.lateral = (scenario.quiet facts).lateral ∧ flags.longitudinal = false
    | .setOff => flags.lateral = true ∧ (facts.evidence = false → flags.longitudinal = false)
    | .ldaToLateral =>
        flags.lateral = !(scenario.config.lateralButtonToggle && facts.evidence && !seen) ∧
          flags.longitudinal = false ∧ (seen = true → facts.evidence = true)
    | .brake => flags.lateral = true ∧ flags.longitudinal = false

theorem dropped_step {seen : Bool} (steers : scenario.brakeSteers = false)
    (dropped : scenario.Dropped seen before flags) (ascends : before.Ascends facts) :
    scenario.Dropped seen facts (scenario.quietStep before facts flags) := by
  have evidence := ascends.evidence
  have selection := ascends.selection
  unfold brakeSteers at steers
  unfold Dropped quiet at dropped ⊢
  unfold quietStep brakeStage select
  generalize scenario.action = action at *
  cases session : scenario.config.resumeOnCommandReturn <;> cases action <;>
    simp only [Withdrawal.turnsOff, Withdrawal.combined, session] at * <;> grind

/-! ### The verdict -/

def held (scenario : WithdrawalCase) (facts : Facts) : Bool :=
  facts.controls && (scenario.quiet facts).lateral

/-- The host's own toggles withdraw what the firmware withdraws. -/
def mirrors (scenario : WithdrawalCase) : Bool :=
  scenario.config.resumeOnCommandReturn ||
    match scenario.action with
    | .ldaOff => scenario.config.lateralButtonToggle
    | .setOff => scenario.config.longitudinalButtonToggle
    | .ldaToLateral => true
    | .brake => scenario.config.longitudinalDisengageOnBrake

/-- Whether a withdrawal whose rejection is first counted by an update that shows `facts` and
the address `rejected`, after one that showed `before`, goes unreported. -/
def tolerated (scenario : WithdrawalCase) (before facts : Facts) (rejected : UInt32) : Bool :=
  let engaged := scenario.held before
  match scenario.config.resumeOnCommandReturn, scenario.action with
  | true, .ldaOff | true, .setOff =>
      !engaged || (if facts.selection then knownActuatorAddress rejected
        else longitudinalAddress rejected)
  | true, .ldaToLateral => !engaged || longitudinalAddress rejected
  | true, .brake =>
      !scenario.config.lateralDisengageOnBrake &&
        (!engaged || longitudinalAddress rejected ||
          scenario.config.longitudinalDisengageOnBrake && facts.evidence && !before.evidence &&
            !facts.selection)
  | false, .ldaOff =>
      scenario.config.lateralButtonToggle &&
        (!engaged || (if facts.evidence then knownActuatorAddress rejected
          else longitudinalAddress rejected))
  | false, .setOff =>
      scenario.config.longitudinalButtonToggle &&
        (!engaged || facts.evidence && knownActuatorAddress rejected)
  | false, .ldaToLateral =>
      !engaged || longitudinalAddress rejected &&
        (facts.evidence || !scenario.config.lateralButtonToggle)
  | false, .brake =>
      !scenario.config.lateralDisengageOnBrake &&
        (if scenario.config.longitudinalDisengageOnBrake then
          !engaged || longitudinalAddress rejected || facts.evidence && !before.evidence
        else engaged && longitudinalAddress rejected)

def buttonOff (scenario : WithdrawalCase) (before facts : Facts) (rejected : UInt32) : Bool :=
  scenario.action.turnsOff && (scenario.quiet before).lateral &&
    !(scenario.quiet facts).lateral && !(scenario.quiet facts).longitudinal &&
      knownActuatorAddress rejected

def drops (scenario : WithdrawalCase) (before facts : Facts) (rejected : UInt32) : Bool :=
  (longitudinalAddress rejected ||
    scenario.action == .brake && scenario.config.longitudinalDisengageOnBrake &&
      facts.evidence && !before.evidence &&
        !(scenario.config.resumeOnCommandReturn && facts.selection)) &&
    (scenario.quiet facts).lateral

/-- The channels a drop leaves behind are those of the withdrawal in the end. -/
def dropMirrors (scenario : WithdrawalCase) (facts : Facts) : Bool :=
  scenario.config.resumeOnCommandReturn ||
    match scenario.action with
    | .ldaOff => scenario.config.lateralButtonToggle
    | .setOff => false
    | .ldaToLateral => facts.evidence || !scenario.config.lateralButtonToggle
    | .brake => true

theorem longitudinal_known {address : UInt32} (longitudinal : longitudinalAddress address = true) :
    knownActuatorAddress address = true := by
  unfold longitudinalAddress at longitudinal
  unfold knownActuatorAddress
  rw [Bool.or_assoc, longitudinal, Bool.or_true]

/-- The verdict, by the way the rejection is counted. -/
theorem tolerated_eq (steers : scenario.brakeSteers = false) (ascends : before.Ascends facts)
    (rejected : UInt32) :
    scenario.tolerated before facts rejected =
      if (!scenario.held before || scenario.buttonOff before facts rejected) = true then
        scenario.mirrors
      else scenario.drops before facts rejected && scenario.dropMirrors facts := by
  have evidence := ascends.evidence
  have selection := ascends.selection
  unfold brakeSteers at steers
  unfold tolerated held buttonOff drops mirrors dropMirrors quiet
  have known : longitudinalAddress rejected = true → knownActuatorAddress rejected = true :=
    longitudinal_known
  generalize scenario.action = action at *
  generalize scenario.config.lateralButtonToggle = lateralToggle
  generalize scenario.config.longitudinalButtonToggle = longitudinalToggle
  generalize scenario.config.lateralDisengageOnBrake = lateralBrake at *
  generalize scenario.config.longitudinalDisengageOnBrake = longitudinalBrake
  generalize longitudinalAddress rejected = isLongitudinal at *
  generalize knownActuatorAddress rejected = isKnown at *
  cases scenario.config.resumeOnCommandReturn <;> cases action <;>
    simp only [Withdrawal.turnsOff, Withdrawal.combined] at * <;> grind

end WithdrawalCase
/-! ## Steps without and with a counted rejection -/

section Counted
variable {scenario : WithdrawalCase} {before : Facts} {self : SafetySupervisor}

theorem not_counted (remembers : Remembers scenario before self) (step : WithdrawalStep scenario)
    (same : before.blocked = step.facts.blocked) :
    self.countsRejection step.panda = false := by
  rw [countsRejection, remembers.blocked, step.shows.blocked, same]
  simp

theorem checked_uncounted (step : WithdrawalStep scenario)
    (uncounted : (self.countsRejection step.panda &&
      !(self.intervene scenario.config.toSafetyConfig step.vehicle step.panda).isButtonOff
        step.panda) = false) :
    step.checked self =
      (self.intervene scenario.config.toSafetyConfig step.vehicle step.panda).supervisor := by
  rw [WithdrawalStep.checked, checked, if_neg (by simp [uncounted])]

theorem quiet_step (remembers : Remembers scenario before self) (step : WithdrawalStep scenario)
    (ascends : before.Ascends step.facts)
    (uncounted : (self.countsRejection step.panda &&
      !(self.intervene scenario.config.toSafetyConfig step.vehicle step.panda).isButtonOff
        step.panda) = false) :
    Remembers scenario step.facts (step.after self) ∧
      channels (step.after self) = scenario.quietStep before step.facts (channels self) ∧
      (step.after self).state = settledState scenario.config.toSafetyConfig (step.checked self)
        step.vehicle step.panda := by
  obtain ⟨flags, _, _⟩ := intervene_channels remembers.engageable.armed remembers.consumed
    step.shows ascends
  have same := checked_uncounted step uncounted
  obtain ⟨state, _⟩ := intervene_frame scenario.config.toSafetyConfig self step.vehicle step.panda
  have notFault : (step.checked self).state ≠ .fault := by
    rw [same, state]
    exact remembers.engageable.notFault
  obtain ⟨next, nextFlags, nextState⟩ := step_settles remembers step notFault
  refine ⟨next, ?_, nextState⟩
  rw [nextFlags, same, flags]
  rfl

theorem drop_step (remembers : Remembers scenario before self) (step : WithdrawalStep scenario)
    (ascends : before.Ascends step.facts)
    (counted : (self.countsRejection step.panda &&
      !(self.intervene scenario.config.toSafetyConfig step.vehicle step.panda).isButtonOff
        step.panda) = true)
    (longitudinal : (self.intervene scenario.config.toSafetyConfig step.vehicle
      step.panda).isLongitudinal step.panda = true) :
    Remembers scenario step.facts (step.after self) ∧
      channels (step.after self) =
        { scenario.quietStep before step.facts (channels self) with
          longitudinal := false, latched := true } := by
  obtain ⟨flags, _, _⟩ := intervene_channels remembers.engageable.armed remembers.consumed
    step.shows ascends
  have dropped : step.checked self =
      { (self.intervene scenario.config.toSafetyConfig step.vehicle step.panda).supervisor with
        longitudinalEnabled := false, longitudinalLatchedOff := true } := by
    rw [WithdrawalStep.checked, checked, if_pos counted, if_pos longitudinal]
  obtain ⟨state, _⟩ := intervene_frame scenario.config.toSafetyConfig self step.vehicle step.panda
  have notFault : (step.checked self).state ≠ .fault := by
    rw [dropped]
    change (self.intervene scenario.config.toSafetyConfig step.vehicle
      step.panda).supervisor.state ≠ .fault
    rw [state]
    exact remembers.engageable.notFault
  obtain ⟨next, nextFlags, _⟩ := step_settles remembers step notFault
  refine ⟨next, ?_⟩
  have lateral := congrArg Channels.lateral flags
  rw [nextFlags, dropped]
  exact congrArg (fun lateral => (⟨lateral, false, true⟩ : Channels)) lateral

theorem fault_step (remembers : Remembers scenario before self) (step : WithdrawalStep scenario)
    (counted : (self.countsRejection step.panda &&
      !(self.intervene scenario.config.toSafetyConfig step.vehicle step.panda).isButtonOff
        step.panda) = true)
    (other : (self.intervene scenario.config.toSafetyConfig step.vehicle
      step.panda).isLongitudinal step.panda = false) :
    (step.after self).state = .fault := by
  refine (step_faults remembers step ?_).1
  rw [WithdrawalStep.checked, checked, if_pos counted, if_neg (by simp [other])]
  rfl

end Counted

/-! ## Runs -/

def Reports (config : SafetyConfig) (self : SafetySupervisor) (call : SupervisorCall) : Prop :=
  ((supervisorMachine config).call self call).1.state = .fault ∨
    ((supervisorMachine config).call self call).1.armRequested = false

section Runs
variable {scenario : WithdrawalCase}

def callsOf (steps : List (WithdrawalStep scenario)) : List SupervisorCall :=
  steps.map WithdrawalStep.call

theorem remembers_unreported {facts : Facts} {self : SafetySupervisor}
    {step : WithdrawalStep scenario} (remembers : Remembers scenario facts (step.after self)) :
    ¬ Reports scenario.config.toSafetyConfig self step.call := by
  rintro (faulted | unarmed)
  · exact remembers.engageable.notFault faulted
  · have armed : (step.after self).armRequested = true := remembers.engageable.armed
    exact absurd (armed.symm.trans unarmed) (by decide)

theorem settled_run (keeps : Facts → Channels → Prop)
    (kept : ∀ before facts flags, keeps before flags → before.Ascends facts →
      keeps facts (scenario.quietStep before facts flags))
    (steps : List (WithdrawalStep scenario)) :
    ∀ (before : Facts) (self : SafetySupervisor), Remembers scenario before self →
      keeps before (channels self) → before.blocked = true → Ascending before steps →
        (supervisorMachine scenario.config.toSafetyConfig).Quiet
            (Reports scenario.config.toSafetyConfig) self (callsOf steps) ∧
          keeps (lastFacts before steps)
            (channels ((supervisorMachine scenario.config.toSafetyConfig).run self
              (callsOf steps))) := by
  induction steps with
  | nil => intro before self _ keep _ _; exact ⟨trivial, keep⟩
  | cons step rest ih =>
      intro before self remembers keep blocked ascending
      have same : before.blocked = step.facts.blocked :=
        blocked.trans (ascending.1.blocked blocked).symm
      obtain ⟨next, flags, _⟩ := quiet_step remembers step ascending.1
        (by rw [not_counted remembers step same, Bool.false_and])
      have keepNext : keeps step.facts (channels (step.after self)) := by
        rw [flags]
        exact kept _ _ _ keep ascending.1
      obtain ⟨quiet, last⟩ := ih step.facts (step.after self) next keepNext
        (ascending.1.blocked blocked) ascending.2
      exact ⟨⟨remembers_unreported next, quiet⟩, last⟩

structure Tracks (scenario : WithdrawalCase) (facts : Facts) (supervisor : SafetySupervisor) :
    Prop where
  remembers : Remembers scenario facts supervisor
  tracked : scenario.Tracked facts (channels supervisor)
  engaged : isEngaged supervisor.state = scenario.held facts

theorem tracks_step {before : Facts} {self : SafetySupervisor}
    (steers : scenario.brakeSteers = false) (tracks : Tracks scenario before self)
    (step : WithdrawalStep scenario) (ascends : before.Ascends step.facts)
    (uncounted : (self.countsRejection step.panda &&
      !(self.intervene scenario.config.toSafetyConfig step.vehicle step.panda).isButtonOff
        step.panda) = false) : Tracks scenario step.facts (step.after self) := by
  obtain ⟨next, flags, state⟩ := quiet_step tracks.remembers step ascends uncounted
  have tracked : scenario.Tracked step.facts (channels (step.after self)) := by
    rw [flags]
    exact WithdrawalCase.tracked_step steers tracks.tracked ascends
  have same : channels (step.checked self) = channels (step.after self) := by
    rw [checked_uncounted step uncounted, flags]
    exact (intervene_channels tracks.remembers.engageable.armed tracks.remembers.consumed
      step.shows ascends).1
  have lateral : (step.checked self).lateralEnabled = (scenario.quiet step.facts).lateral :=
    (congrArg Channels.lateral same).trans tracked.lateral
  have longitudinal : (step.checked self).longitudinalEnabled =
      (scenario.quiet step.facts).longitudinal :=
    (congrArg Channels.longitudinal same).trans tracked.longitudinal
  refine ⟨next, tracked, ?_⟩
  rw [state, settled_engaged, step.shows.controls, lateral]
  · rfl
  · intro on
    rw [lateral]
    exact WithdrawalCase.quiet_led step.facts (longitudinal.symm.trans on)

theorem tracks_run (steers : scenario.brakeSteers = false)
    (steps : List (WithdrawalStep scenario)) :
    ∀ (before : Facts) (self : SafetySupervisor), Tracks scenario before self →
      before.blocked = false → (∀ step ∈ steps, step.facts.blocked = false) →
        Ascending before steps →
          Tracks scenario (lastFacts before steps)
              ((supervisorMachine scenario.config.toSafetyConfig).run self (callsOf steps)) ∧
            (lastFacts before steps).blocked = false ∧
            (supervisorMachine scenario.config.toSafetyConfig).Quiet
              (Reports scenario.config.toSafetyConfig) self (callsOf steps) := by
  induction steps with
  | nil => intro before self tracks unblocked _ _; exact ⟨tracks, unblocked, trivial⟩
  | cons step rest ih =>
      intro before self tracks unblocked unblockedSteps ascending
      have unblockedStep := unblockedSteps step (List.mem_cons_self ..)
      have next := tracks_step steers tracks step ascending.1 (by
        rw [not_counted tracks.remembers step (unblocked.trans unblockedStep.symm),
          Bool.false_and])
      obtain ⟨last, unblockedLast, quiet⟩ := ih step.facts (step.after self) next unblockedStep
        (fun other member => unblockedSteps other (List.mem_cons_of_mem _ member)) ascending.2
      exact ⟨last, unblockedLast, remembers_unreported next.remembers, quiet⟩

theorem ascending_append (first second : List (WithdrawalStep scenario)) :
    ∀ before, Ascending before (first ++ second) →
      Ascending before first ∧ Ascending (lastFacts before first) second := by
  induction first with
  | nil => intro before ascending; exact ⟨trivial, ascending⟩
  | cons step rest ih =>
      intro before ascending
      obtain ⟨left, right⟩ := ih step.facts ascending.2
      exact ⟨⟨ascending.1, left⟩, right⟩

theorem lastFacts_append (first second : List (WithdrawalStep scenario)) :
    ∀ before, lastFacts before (first ++ second) = lastFacts (lastFacts before first) second := by
  induction first with
  | nil => intro before; rfl
  | cons step rest ih => intro before; exact ih step.facts

end Runs

/-! ## The law -/

structure Arrived (facts : Facts) : Prop where
  evidence : facts.evidence = true
  selection : facts.selection = true
  blocked : facts.blocked = true
  address : facts.address = true

/-- Active, with the channels of the action selected and the values of the scenario consumed. -/
structure Driven (scenario : WithdrawalCase) (supervisor : SafetySupervisor) : Prop where
  active : supervisor.state = .active
  lateral : supervisor.lateralEnabled = true
  longitudinal : supervisor.longitudinalEnabled = scenario.action.combined
  consumed : supervisor.consumed = scenario.before
  cancel : supervisor.lastCancelButtonEvents = scenario.cancel
  blocked : supervisor.lastTxBlocked = scenario.blocked

/-- No step faults or disarms, and exactly the withdrawn channels end up off. -/
structure Unreported (scenario : WithdrawalCase) (start : SafetySupervisor)
    (calls : List SupervisorCall) : Prop where
  never : (supervisorMachine scenario.config.toSafetyConfig).Quiet
    (Reports scenario.config.toSafetyConfig) start calls
  lateral : ((supervisorMachine scenario.config.toSafetyConfig).run start calls).lateralEnabled =
    !scenario.action.turnsOff
  longitudinal : (scenario.config.allowLongitudinal &&
    ((supervisorMachine scenario.config.toSafetyConfig).run start calls).longitudinalEnabled) =
      false

namespace WithdrawalCase
variable {scenario : WithdrawalCase} {facts : Facts} {flags : Channels}

def Withdrawn (scenario : WithdrawalCase) (flags : Channels) : Prop :=
  flags.lateral = (!scenario.action.turnsOff) ∧
    (scenario.config.allowLongitudinal && flags.longitudinal) = false

theorem tracked_withdrawn (tracked : scenario.Tracked facts flags) (arrived : Arrived facts) :
    scenario.Withdrawn flags ↔ scenario.mirrors = true := by
  have allows := scenario.allowsLongitudinal
  obtain ⟨lateral, longitudinal, _⟩ := tracked
  obtain ⟨evidence, selection, _, _⟩ := arrived
  unfold Withdrawn mirrors
  unfold quiet at lateral longitudinal
  rw [lateral, longitudinal]
  generalize scenario.action = action at *
  cases session : scenario.config.resumeOnCommandReturn <;> cases action <;>
    simp_all [Withdrawal.turnsOff, Withdrawal.combined]

theorem dropped_withdrawn {seen : Facts} (dropped : scenario.Dropped seen.evidence facts flags)
    (arrived : Arrived facts) :
    scenario.Withdrawn flags ↔ scenario.dropMirrors seen = true := by
  have allows := scenario.allowsLongitudinal
  obtain ⟨evidence, selection, _, _⟩ := arrived
  unfold Withdrawn dropMirrors
  unfold Dropped quiet at dropped
  generalize scenario.action = action at *
  cases session : scenario.config.resumeOnCommandReturn <;> cases action <;>
    simp_all [Withdrawal.turnsOff, Withdrawal.combined]
  grind

end WithdrawalCase

section Law
variable {scenario : WithdrawalCase}

def Unlatched (config : SafetyConfig) (supervisor : SafetySupervisor) : Prop :=
  config.resumeOnCommandReturn = true → supervisor.longitudinalEnabled = true →
    supervisor.longitudinalLatchedOff = false

theorem gateExit_latch {config : SafetyConfig} {now : TimePoint} {vehicle : VehicleStateData}
    {panda : PandaHealth} {command : CommandSample} {self : SafetySupervisor}
    {observed : Observed} {result : SafetySupervisor × SafetyDecision}
    (exit : GateExit config now vehicle panda command self observed result) :
    result.1.longitudinalLatchedOff = self.longitudinalLatchedOff := by
  cases exit with
  | unarmed | latched | faulted | disarmed | waiting | armed | paused | active => rfl

theorem observePanda_unlatched {config : SafetyConfig} {panda : PandaHealth}
    {self : SafetySupervisor} (unlatched : Unlatched config self) (turnedOff byBrake : Bool) :
    Unlatched config (self.observePanda panda turnedOff byBrake).1 := by
  rcases observePanda_cases panda self turnedOff byBrake with
    ⟨reason, _, faulted⟩ | ⟨_, dropped⟩ | passed
  · rw [faulted]
    intro _ on
    cases on
  · rw [dropped]
    intro _ on
    cases on
  · rw [passed]
    exact unlatched

theorem observe_unlatched {config : SafetyConfig} {vehicle : VehicleStateData}
    {panda : PandaHealth} {self : SafetySupervisor} (unlatched : Unlatched config self) :
    Unlatched config (self.observe config vehicle panda).supervisor := by
  intro session on
  have selected : Unlatched config (self.selectedChannels config vehicle panda).1 := by
    intro _ enabled
    cases armed : self.armRequested with
    | false =>
        have recorded : (self.recordButtons vehicle).armRequested = false := armed
        unfold selectedChannels at enabled ⊢
        rw [selectChannels_unarmed config _ _ recorded] at enabled ⊢
        exact unlatched session enabled
    | true =>
        have recorded : (self.recordButtons vehicle).armRequested = true := armed
        unfold selectedChannels at enabled ⊢
        rw [selectChannels_session config _ _ recorded session] at enabled ⊢
        have mask := (Bool.and_eq_true_iff.mp enabled).2
        exact @Bool.not_inj _ false mask
  have braked : Unlatched config
      (((self.selectedChannels config vehicle panda).1.afterSelection vehicle).disengageOnBrake
        config vehicle).1 := by
    intro _ enabled
    unfold disengageOnBrake at enabled ⊢
    split at enabled
    · rename_i pressed
      rw [if_pos pressed]
      obtain ⟨before, keeps⟩ := Bool.and_eq_true_iff.mp enabled
      have unlatchedBefore := selected session before
      simp only [afterSelection]
      rw [unlatchedBefore, Bool.false_or]
      exact @Bool.not_inj _ false keeps
    · rename_i released
      rw [if_neg released]
      exact selected session enabled
  have accChecked : Unlatched config
      ((((self.selectedChannels config vehicle panda).1.afterSelection vehicle).disengageOnBrake
        config vehicle).1.disengageOnAccFault config vehicle).1 := by
    intro _ enabled
    unfold disengageOnAccFault at enabled ⊢
    split at enabled
    · cases enabled
    · rename_i clear
      rw [if_neg clear]
      exact braked session enabled
  rw [(observe_supervisor config self vehicle panda).1] at on ⊢
  exact observePanda_unlatched accChecked _ _ session on

theorem requestArm_unlatched {config : SafetyConfig} {self : SafetySupervisor}
    (unlatched : Unlatched config self) (arm : Bool) :
    Unlatched config (self.requestArm config arm).1 := by
  intro session on
  cases arm with
  | false =>
      rw [(requestArm_off_disengaged config self).noLongitudinal] at on
      cases on
  | true =>
      cases allowed : config.allowActuation with
      | false =>
          simp only [requestArm, allowed, Bool.not_false, Bool.and_true, if_true] at on ⊢
          exact unlatched session on
      | true =>
          cases armed : self.armRequested with
          | false => rw [requestArm_granted allowed armed]
          | true =>
              rw [requestArm_repeated allowed armed] at on ⊢
              by_cases faulted : self.state = .fault
              · rw [if_pos faulted] at on ⊢
                exact unlatched session on
              · rw [if_neg faulted] at on ⊢
                exact unlatched session on

theorem run_unlatched (config : SafetyConfig) (calls : List SupervisorCall) :
    Unlatched config ((supervisorMachine config).run {} calls) := by
  refine (supervisorMachine config).run_keeps (Unlatched config) ?_ calls {}
    (fun _ on => by cases on)
  intro state call unlatched
  cases call with
  | requestArm arm => exact requestArm_unlatched unlatched arm
  | update now vehicle panda command =>
      have restarted : Unlatched config (state.setWaiting false) := unlatched
      have exit := update_exit config state now vehicle panda command
      change Unlatched config (state.update config now vehicle panda command).1
      generalize state.update config now vehicle panda command = result at exit ⊢
      intro session on
      cases exit with
      | lostPanda _ => cases on
      | passiveYaml _ _ => cases on
      | gated _ _ observed observes exit =>
          subst observes
          rw [gateExit_latch exit]
          exact observe_unlatched restarted session ((gateExit_narrowed exit).longitudinal on)

theorem Driven.tracks {calls : List SupervisorCall}
    (driven : Driven scenario
      ((supervisorMachine scenario.config.toSafetyConfig).run {} calls)) :
    Tracks scenario {} ((supervisorMachine scenario.config.toSafetyConfig).run {} calls) := by
  have inv := run_invariant scenario.config.toSafetyConfig calls
  have unlatched := run_unlatched scenario.config.toSafetyConfig calls
  generalize (supervisorMachine scenario.config.toSafetyConfig).run {} calls = self at *
  have armed : self.armRequested = true := by
    by_contra unarmed
    have off := inv.unarmed (by simpa using unarmed)
    exact absurd (driven.lateral.symm.trans off.noLateral) (by decide)
  have presses : scenario.action.presses scenario.before scenario.moved false =
      scenario.before := by
    cases scenario.action <;> rfl
  refine ⟨⟨⟨armed, by rw [driven.active]; decide, by rw [driven.active]; decide⟩,
    driven.consumed.trans presses.symm, driven.cancel, driven.blocked⟩, ?_, ?_⟩
  · have longitudinal := driven.longitudinal
    constructor
    · refine driven.lateral.trans ?_
      unfold WithdrawalCase.quiet
      cases scenario.config.resumeOnCommandReturn <;> cases scenario.action <;> rfl
    · refine longitudinal.trans ?_
      unfold WithdrawalCase.quiet
      cases scenario.config.resumeOnCommandReturn <;> cases scenario.action <;> rfl
    · intro session combined
      have before : self.longitudinalLatchedOff = false :=
        unlatched session (longitudinal.trans combined)
      refine before.trans ?_
      unfold WithdrawalCase.quiet
      rw [if_pos session]
      rfl
  · rw [driven.active]
    unfold WithdrawalCase.held WithdrawalCase.quiet
    cases scenario.config.resumeOnCommandReturn <;> cases scenario.action <;> rfl

/-- How the first update with the rejection counts it, in terms of the facts. -/
theorem rejecting_counts {before : Facts} {self : SafetySupervisor}
    (steers : scenario.brakeSteers = false) (tracks : Tracks scenario before self)
    (step : WithdrawalStep scenario) (ascends : before.Ascends step.facts)
    (unblocked : before.blocked = false) (blocked : step.facts.blocked = true) :
    self.countsRejection step.panda = scenario.held before ∧
      (self.intervene scenario.config.toSafetyConfig step.vehicle step.panda).isButtonOff
          step.panda =
        scenario.buttonOff before step.facts step.panda.lastRejectedAddress ∧
      (self.intervene scenario.config.toSafetyConfig step.vehicle step.panda).isLongitudinal
          step.panda =
        scenario.drops before step.facts step.panda.lastRejectedAddress := by
  obtain ⟨flags, turnedOff, byBrake⟩ := intervene_channels tracks.remembers.engageable.armed
    tracks.remembers.consumed step.shows ascends
  have tracked : scenario.Tracked step.facts
      (channels (self.intervene scenario.config.toSafetyConfig step.vehicle
        step.panda).supervisor) := by
    rw [flags]
    exact WithdrawalCase.tracked_step steers tracks.tracked ascends
  have lateral : (self.intervene scenario.config.toSafetyConfig step.vehicle
      step.panda).supervisor.lateralEnabled = (scenario.quiet step.facts).lateral :=
    tracked.lateral
  have longitudinal : (self.intervene scenario.config.toSafetyConfig step.vehicle
      step.panda).supervisor.longitudinalEnabled = (scenario.quiet step.facts).longitudinal :=
    tracked.longitudinal
  refine ⟨?_, ?_, ?_⟩
  · rw [countsRejection, tracks.engaged, tracks.remembers.blocked, step.shows.blocked, unblocked,
      blocked]
    simp [scenario.more]
  · rw [Intervened.isButtonOff, turnedOff, lateral, longitudinal,
      WithdrawalCase.tracked_turnedOff tracks.tracked ascends, WithdrawalCase.buttonOff]
    cases (scenario.quiet step.facts).lateral <;> simp
  · rw [Intervened.isLongitudinal, byBrake, lateral,
      WithdrawalCase.tracked_byBrake tracks.tracked ascends]
    rfl

theorem dropped_of_tracked {facts : Facts} {flags : Channels}
    (tracked : scenario.Tracked facts flags) (lateral : (scenario.quiet facts).lateral = true) :
    scenario.Dropped facts.evidence facts { flags with longitudinal := false, latched := true } := by
  have same := tracked.lateral
  unfold WithdrawalCase.Dropped
  unfold WithdrawalCase.quiet at same lateral ⊢
  generalize scenario.action = action at *
  cases session : scenario.config.resumeOnCommandReturn <;> cases action <;>
    simp_all [Withdrawal.turnsOff]
  grind

/-- Where the brake disengages steering on the host, the withdrawal of the longitudinal channel
takes the lateral one along. -/
theorem braked_run (steers : scenario.brakeSteers = true)
    (steps : List (WithdrawalStep scenario)) :
    ∀ (before : Facts) (self : SafetySupervisor), Remembers scenario before self →
      Ascending before steps → steps ≠ [] →
      (supervisorMachine scenario.config.toSafetyConfig).Quiet
        (Reports scenario.config.toSafetyConfig) self (callsOf steps) →
      (lastFacts before steps).evidence = true →
        ((supervisorMachine scenario.config.toSafetyConfig).run self
          (callsOf steps)).lateralEnabled = false := by
  induction steps with
  | nil => intro _ _ _ _ notEmpty; exact absurd rfl notEmpty
  | cons step rest ih =>
      intro before self remembers ascending _ quiet evidence
      have notFault : (step.checked self).state ≠ .fault := by
        intro faulted
        exact quiet.1 (Or.inl (step_faults remembers step faulted).1)
      obtain ⟨next, flags, _⟩ := step_settles remembers step notFault
      cases rest with
      | cons other others =>
          exact ih step.facts (step.after self) next ascending.2 (by simp) quiet.2 evidence
      | nil =>
          obtain ⟨brake, configured⟩ := Bool.and_eq_true_iff.mp steers
          obtain ⟨intervened, _, _⟩ := intervene_channels remembers.engageable.armed
            remembers.consumed step.shows ascending.1
          have braking : (step.facts.evidence && scenario.action == .brake) = true := by
            rw [brake, Bool.and_true]
            exact evidence
          have lateral : (self.intervene scenario.config.toSafetyConfig step.vehicle
              step.panda).supervisor.lateralEnabled = false := by
            have flag := congrArg Channels.lateral intervened
            refine flag.trans ?_
            rw [WithdrawalCase.brakeStage, if_pos braking, configured]
            exact Bool.and_false _
          have checkedLateral : (step.checked self).lateralEnabled = false := by
            unfold WithdrawalStep.checked checked
            split
            · split
              · exact lateral
              · rfl
            · exact lateral
          exact (congrArg Channels.lateral flags).trans checkedLateral

/-- A withdrawal goes unreported exactly when the update that first counts its rejection
tolerates it. -/
theorem withdrawal_unreported_iff (scenario : WithdrawalCase) (calls : List SupervisorCall)
    (driven : Driven scenario
      ((supervisorMachine scenario.config.toSafetyConfig).run {} calls))
    (earlier later : List (WithdrawalStep scenario)) (rejecting : WithdrawalStep scenario)
    (unblocked : ∀ step ∈ earlier, step.facts.blocked = false)
    (blocked : rejecting.facts.blocked = true)
    (ascending : Ascending {} (earlier ++ rejecting :: later))
    (arrived : Arrived (lastFacts {} (earlier ++ rejecting :: later))) :
    Unreported scenario ((supervisorMachine scenario.config.toSafetyConfig).run {} calls)
        (callsOf (earlier ++ rejecting :: later)) ↔
      scenario.tolerated (lastFacts {} earlier) rejecting.facts
        rejecting.panda.lastRejectedAddress = true := by
  have start := driven.tracks
  generalize (supervisorMachine scenario.config.toSafetyConfig).run {} calls = self at *
  set machine := supervisorMachine scenario.config.toSafetyConfig with machineEq
  obtain ⟨ascendingEarlier, ascends, ascendingLater⟩ := ascending_append earlier _ {} ascending
  have split : callsOf (earlier ++ rejecting :: later) =
      callsOf earlier ++ rejecting.call :: callsOf later := List.map_append
  by_cases steers : scenario.brakeSteers = false
  · obtain ⟨tracks, unblockedBefore, quietBefore⟩ := tracks_run steers earlier {} self start rfl
      unblocked ascendingEarlier
    set before := machine.run self (callsOf earlier) with beforeEq
    set facts := lastFacts {} earlier with factsEq
    rw [lastFacts_append] at arrived
    obtain ⟨counts, buttonOff, longitudinal⟩ := rejecting_counts steers tracks rejecting ascends
      unblockedBefore blocked
    -- The whole run is judged by what follows the rejecting step.
    have judged : ∀ flags, (machine.Quiet (Reports scenario.config.toSafetyConfig)
          (rejecting.after before) (callsOf later)) →
        channels (machine.run (rejecting.after before) (callsOf later)) = flags →
        ¬ Reports scenario.config.toSafetyConfig before rejecting.call →
        (Unreported scenario self (callsOf (earlier ++ rejecting :: later)) ↔
          scenario.Withdrawn flags) := by
      intro flags quietLater last silent
      have run : machine.run self (callsOf (earlier ++ rejecting :: later)) =
          machine.run (rejecting.after before) (callsOf later) := by
        rw [split, machine.run_append]
        rfl
      have never : machine.Quiet (Reports scenario.config.toSafetyConfig) self
          (callsOf (earlier ++ rejecting :: later)) := by
        rw [split, machine.quiet_append]
        exact ⟨quietBefore, silent, quietLater⟩
      rw [← last, ← run]
      constructor
      · intro unreported
        exact ⟨unreported.lateral, unreported.longitudinal⟩
      · intro withdrawn
        exact ⟨never, withdrawn.1, withdrawn.2⟩
    rw [WithdrawalCase.tolerated_eq steers ascends]
    by_cases uncounted : (!scenario.held facts || scenario.buttonOff facts rejecting.facts
        rejecting.panda.lastRejectedAddress) = true
    · rw [if_pos uncounted]
      have next := tracks_step steers tracks rejecting ascends (by
        rw [counts, buttonOff]
        revert uncounted
        cases scenario.held facts <;> simp)
      obtain ⟨quietLater, last⟩ := settled_run scenario.Tracked
        (fun _ _ _ tracked ascends => WithdrawalCase.tracked_step steers tracked ascends) later
        rejecting.facts _ next.remembers next.tracked blocked ascendingLater
      exact (judged _ quietLater rfl (remembers_unreported next.remembers)).trans
        (WithdrawalCase.tracked_withdrawn last arrived)
    · rw [if_neg uncounted]
      have counted : (before.countsRejection rejecting.panda &&
          !(before.intervene scenario.config.toSafetyConfig rejecting.vehicle
            rejecting.panda).isButtonOff rejecting.panda) = true := by
        rw [counts, buttonOff]
        revert uncounted
        cases scenario.held facts <;> simp
      by_cases drops : scenario.drops facts rejecting.facts
          rejecting.panda.lastRejectedAddress = true
      · rw [drops, Bool.true_and]
        obtain ⟨next, flags⟩ := drop_step tracks.remembers rejecting ascends counted
          (longitudinal.trans drops)
        have dropped : scenario.Dropped rejecting.facts.evidence rejecting.facts
            (channels (rejecting.after before)) := by
          rw [flags]
          exact dropped_of_tracked
            (WithdrawalCase.tracked_step steers tracks.tracked ascends)
            (Bool.and_eq_true_iff.mp drops).2
        obtain ⟨quietLater, last⟩ := settled_run (scenario.Dropped rejecting.facts.evidence)
          (fun _ _ _ dropped ascends => WithdrawalCase.dropped_step steers dropped ascends) later
          rejecting.facts _ next dropped blocked ascendingLater
        exact (judged _ quietLater rfl (remembers_unreported next)).trans
          (WithdrawalCase.dropped_withdrawn last arrived)
      · have other : scenario.drops facts rejecting.facts
            rejecting.panda.lastRejectedAddress = false := by simpa using drops
        rw [other, Bool.false_and]
        refine ⟨fun unreported => ?_, fun tolerated => by cases tolerated⟩
        have never := unreported.never
        rw [split, machine.quiet_append] at never
        exact absurd (Or.inl (fault_step tracks.remembers rejecting counted
          (longitudinal.trans other))) never.2.1
  · have brakes : scenario.brakeSteers = true := by simpa using steers
    refine ⟨fun unreported => ?_, fun tolerated => ?_⟩
    · have lateral := braked_run brakes _ {} self start.remembers ascending (by simp)
        unreported.never arrived.evidence
      have kept := unreported.lateral
      obtain ⟨brake, _⟩ := Bool.and_eq_true_iff.mp brakes
      have action : scenario.action = .brake := by simpa using brake
      rw [action] at kept
      exact absurd (lateral.symm.trans kept) (by decide)
    · exfalso
      obtain ⟨brake, configured⟩ := Bool.and_eq_true_iff.mp brakes
      have action : scenario.action = .brake := by simpa using brake
      unfold WithdrawalCase.tolerated at tolerated
      rw [action, configured] at tolerated
      cases session : scenario.config.resumeOnCommandReturn <;>
        simp [session] at tolerated

end Law

/-! ## The LDA press of the supervisor tests -/

/-- LDA OFF from the lateral-only selection of `lateralCalls`. -/
def ldaOffCase : WithdrawalCase where
  config := actuationConfig
  action := .ldaOff
  before := ⟨1, 0⟩
  moved := 2
  cancel := 0
  blocked := 0
  rejected := 1
  stale := 0
  address := 0x12A
  allowed := rfl
  allowsLongitudinal := fun combined => by cases combined
  moves := by
    change (2 : UInt64) ≠ 1
    decide
  more := by decide
  belongs := rfl

theorem fixture_fresh :
    pandaFresh actuationConfig.toSafetyConfig fixtureNow fixturePanda = true ∧
      commandFresh actuationConfig.toSafetyConfig fixtureNow fixtureCommand = true ∧
      pandaHealthFault fixturePanda = false := by
  decide +kernel

def ldaOffStep (facts : Facts) : WithdrawalStep ldaOffCase where
  facts := facts
  now := fixtureNow
  vehicle := { fixtureVehicle with laneKeepButtonEvents := if facts.evidence then 2 else 1 }
  panda :=
    { fixturePanda with
      safetyTxBlocked := if facts.blocked then 1 else 0
      lastRejectedAddress := if facts.address then 0x12A else 0
      controlsAllowed := facts.controls }
  command := fixtureCommand
  shows :=
    { driving :=
        { fresh := fixture_fresh.1
          noPandaFault := fixture_fresh.2.2
          harness := rfl
          ignition := fun session => by cases session
          vehicleValid := rfl
          speed := rfl
          angle := rfl
          mode := rfl
          noEpsFault := rfl
          noAccFault := rfl
          command := ⟨fixture_fresh.2.1, rfl, rfl, rfl, fun session => by cases session⟩ }
      presses := by cases facts.evidence <;> rfl
      cancel := rfl
      brake := by cases facts.evidence <;> rfl
      lateral := fun session => by cases session
      longitudinal := fun session => by cases session
      blocked := rfl
      address := rfl
      controls := rfl }

def allFacts : Facts :=
  { evidence := true, selection := true, blocked := true, address := true, controls := false }

theorem lateralCalls_driven :
    Driven ldaOffCase ((supervisorMachine actuationConfig.toSafetyConfig).run {} lateralCalls) :=
  ⟨by decide +kernel, by decide +kernel, by decide +kernel, by decide +kernel, by decide +kernel,
    by decide +kernel⟩

/-- The order the tests cover: press, counter and address in the same update. -/
theorem simultaneous_press_unreported :
    Unreported ldaOffCase
      ((supervisorMachine actuationConfig.toSafetyConfig).run {} lateralCalls)
      (callsOf [ldaOffStep allFacts]) :=
  (withdrawal_unreported_iff ldaOffCase lateralCalls lateralCalls_driven [] []
    (ldaOffStep allFacts) (fun step member => by cases member) rfl
    ⟨⟨fun _ => rfl, fun _ => rfl, fun _ => rfl, fun _ => rfl⟩, trivial⟩
    ⟨rfl, rfl, rfl, rfl⟩).mpr (by decide +kernel)

/-- The rejection of the LFA frame reaches the host one update before the LDA press that caused
it. -/
theorem rejection_before_press_faults :
    let rejectedFirst : Facts := { blocked := true, address := true, controls := false }
    let steps := [ldaOffStep rejectedFirst, ldaOffStep allFacts]
    let machine := supervisorMachine ldaOffCase.config.toSafetyConfig
    let start := machine.run {} lateralCalls
    Driven ldaOffCase start ∧ Ascending {} steps ∧ Arrived (lastFacts {} steps) ∧
      (machine.run start (callsOf [ldaOffStep rejectedFirst])).state = .fault ∧
      ¬ Unreported ldaOffCase start (callsOf steps) := by
  intro rejectedFirst steps machine start
  have faulted : (machine.run start (callsOf [ldaOffStep rejectedFirst])).state = .fault := by
    decide +kernel
  refine ⟨lateralCalls_driven, ⟨⟨?_, ?_, ?_, ?_⟩, ⟨?_, ?_, ?_, ?_⟩, trivial⟩,
    ⟨rfl, rfl, rfl, rfl⟩, faulted, ?_⟩
  all_goals try exact fun _ => rfl
  · exact fun on => by cases on
  · exact fun on => by cases on
  · intro unreported
    exact unreported.never.1 (Or.inl faulted)

end SafetySupervisor
end Ioniq5Ecan
