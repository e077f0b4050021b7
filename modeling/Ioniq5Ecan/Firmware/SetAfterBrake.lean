import Ioniq5Ecan.Supervisor.HealthySession
import Ioniq5Ecan.Node.Sampling
import Ioniq5Ecan.Firmware.Session

/-! # A SET press after a brake latch

The driver brakes, the longitudinal channel is latched off on both sides, and a
SET press selects it again in the firmware at once.  The host hears of it twice:
the parsed button frame clears its latch, the health sample shows it the new
selection.  A control iteration between the two, on a sample that is ahead of
the button frame, finds longitudinal selected but not armed and sends 0xB8. -/
set_option autoImplicit false
namespace Ioniq5Ecan

open Library (EventSystem)
open Firmware (Live Received SetFrame OtherFrame)

/-! ## The exchange -/

/-- The firmware and what the host's two threads keep of it. -/
structure ExchangeState where
  firmware : Firmware
  latestHealth : PandaHealth := {}
  parser : VehicleStateParser := {}
  supervisor : SafetySupervisor := {}
  deriving DecidableEq

inductive ExchangeEvent
  /-- The firmware receives a frame. -/
  | canFrame (timer : UInt32) (msg : CanPacket)
  /-- The host parses the frame that ends a SET press. -/
  | setRelease
  /-- The host parses another frame. -/
  | vehicleFrame (message : Option CriticalMessage) (decoded : VehicleStateData)
      (receivedAt : TimePoint)
  /-- The receive loop polls the health packets. -/
  | health (timer : UInt32) (report : PandaHealth) (clock : TimePoint)
  /-- One control iteration, from its samples to request 0xB8. -/
  | iterate (timer : UInt32) (now : TimePoint) (command : CommandSample)
  deriving DecidableEq

def parseSetRelease (parser : VehicleStateParser) : VehicleStateParser :=
  parser.accept none
    { parser.state with
      setButtonEvents := parser.state.setButtonEvents + 1, cruiseButton := 0 } 0

/-- `update`, and the permission drop of the session profile. -/
def controlIteration (config : NodeConfig) (opendbc : Opendbc) (state : ExchangeState)
    (timer : UInt32) (now : TimePoint) (command : CommandSample) : ExchangeState :=
  let vehicle := state.parser.snapshot now config.vehicleStateTimeout
  let result := state.supervisor.update config.safety now vehicle state.latestHealth command
  { state with
    supervisor := result.1
    firmware :=
      if config.safety.resumeOnCommandReturn &&
          (!result.2.longitudinalArmed && state.latestHealth.longitudinalSelected) then
        state.firmware.dropPermission opendbc timer 1
      else state.firmware }

def exchangeStep (config : NodeConfig) (opendbc : Opendbc) (state : ExchangeState) :
    ExchangeEvent → ExchangeState
  | .canFrame timer msg =>
      { state with firmware := (state.firmware.safetyRxHook opendbc timer msg).1 }
  | .setRelease => { state with parser := parseSetRelease state.parser }
  | .vehicleFrame message decoded receivedAt =>
      { state with parser := state.parser.accept message decoded receivedAt }
  | .health timer report clock =>
      { state with
        latestHealth := (stampedHealth report clock).withSession
          (state.firmware.sessionStatus opendbc timer) }
  | .iterate timer now command => controlIteration config opendbc state timer now command

def exchange (config : NodeConfig) (opendbc : Opendbc) :
    EventSystem ExchangeState ExchangeEvent where
  step state event := some (exchangeStep config opendbc state event)

/-! ## The gesture -/

inductive SetHeld (opendbc : Opendbc) (before : Firmware) : Firmware → Prop
  | press {timer : UInt32} {msg : CanPacket} (received : Received opendbc before timer msg)
      (listed : opendbc.whitelisted before msg = true)
      (frame : SetFrame opendbc before true msg) :
      SetHeld opendbc before (before.safetyRxHook opendbc timer msg).1
  | hold {firmware : Firmware} {timer : UInt32} {msg : CanPacket}
      (held : SetHeld opendbc before firmware) (received : Received opendbc firmware timer msg)
      (listed : opendbc.whitelisted firmware msg = true)
      (frame : SetFrame opendbc firmware true msg) :
      SetHeld opendbc before (firmware.safetyRxHook opendbc timer msg).1
  | other {firmware : Firmware} {timer : UInt32} {msg : CanPacket}
      (held : SetHeld opendbc before firmware) (received : Received opendbc firmware timer msg)
      (other : OtherFrame opendbc firmware msg) :
      SetHeld opendbc before (firmware.safetyRxHook opendbc timer msg).1

def SetPressed (opendbc : Opendbc) (before after : Firmware) : Prop :=
  ∃ held timer msg, SetHeld opendbc before held ∧ Received opendbc held timer msg ∧
    opendbc.whitelisted held msg = true ∧ SetFrame opendbc held false msg ∧
    after = (held.safetyRxHook opendbc timer msg).1

section Gesture
variable {opendbc : Opendbc} {before after : Firmware} {lateral longitudinal : Bool}

theorem SetHeld.live (stores : opendbc.StoresButton)
    (start : Live before lateral longitudinal false) (held : SetHeld opendbc before after) :
    Live after lateral longitudinal true := by
  induction held with
  | press received listed frame => simpa using start.button stores received listed frame
  | hold _ received listed frame ih => simpa using ih.button stores received listed frame
  | other _ received other ih => exact ih.other received other

/-- One SET press selects both channels, unless both were. -/
theorem SetPressed.live (stores : opendbc.StoresButton)
    (start : Live before lateral longitudinal false)
    (pressed : SetPressed opendbc before after) :
    Live after (!(lateral && longitudinal)) (!(lateral && longitudinal)) false := by
  obtain ⟨held, timer, msg, holding, received, listed, frame, rfl⟩ := pressed
  simpa using (holding.live stores start).button stores received listed frame

end Gesture

/-! ## Healthy events -/

def Healthy (config : NodeConfig) (opendbc : Opendbc) (state : ExchangeState) :
    ExchangeEvent → Prop
  | .canFrame timer msg =>
      Received opendbc state.firmware timer msg ∧
        (OtherFrame opendbc state.firmware msg ∨
          opendbc.whitelisted state.firmware msg = true ∧
            SetFrame opendbc state.firmware false msg)
  | .setRelease => True
  | .vehicleFrame _ decoded _ => decoded.setButtonEvents = state.parser.state.setButtonEvents
  | .health .. => True
  | .iterate _ now command =>
      SafetySupervisor.HealthySample config.safety state.supervisor now
        (state.parser.snapshot now config.vehicleStateTimeout) state.latestHealth command

structure CombinedSession (config : SafetyConfig) : Prop where
  session : config.resumeOnCommandReturn = true
  actuation : config.allowActuation = true
  longitudinal : config.allowLongitudinal = true

def isIterate : ExchangeEvent → Bool
  | .iterate .. => true
  | _ => false

def iteratesOnSample : List ExchangeEvent → Bool
  | [] => false
  | .health .. :: rest => rest.any isIterate
  | _ :: rest => iteratesOnSample rest

/-- The firmware has both channels selected and the host can act on it. -/
structure Selected (state : ExchangeState) : Prop where
  firmware : state.firmware.Live true true false
  engageable : state.supervisor.Engageable

structure Awaiting (state : ExchangeState) : Prop extends Selected state where
  latched : state.supervisor.longitudinalLatchedOff = true
  seen : state.supervisor.lastSetButtonEvents = state.parser.state.setButtonEvents

structure Cleared (state : ExchangeState) : Prop extends Selected state where
  clears : state.supervisor.longitudinalLatchedOff = true →
    state.supervisor.lastSetButtonEvents ≠ state.parser.state.setButtonEvents

section Steps
variable {config : NodeConfig} {opendbc : Opendbc} {state : ExchangeState}
  {event : ExchangeEvent} {longitudinal : Bool}

theorem firmware_kept (live : Live state.firmware true longitudinal false)
    (stores : opendbc.StoresButton) (healthy : Healthy config opendbc state event)
    (passive : isIterate event = false) :
    Live (exchangeStep config opendbc state event).firmware true longitudinal false := by
  cases event with
  | canFrame timer msg =>
      obtain ⟨received, other | ⟨listed, frame⟩⟩ := healthy
      · exact live.other received other
      · simpa [exchangeStep] using live.button stores received listed frame
  | setRelease => exact live
  | vehicleFrame message decoded receivedAt => exact live
  | health timer report clock => exact live
  | iterate timer now command => cases passive

theorem supervisor_kept (passive : isIterate event = false) :
    (exchangeStep config opendbc state event).supervisor = state.supervisor := by
  cases event with
  | canFrame | setRelease | vehicleFrame | health => rfl
  | iterate => cases passive

theorem counter_kept (healthy : Healthy config opendbc state event)
    (other : event ≠ .setRelease) :
    (exchangeStep config opendbc state event).parser.state.setButtonEvents =
      state.parser.state.setButtonEvents := by
  cases event with
  | canFrame | health | iterate => rfl
  | setRelease => exact absurd rfl other
  | vehicleFrame message decoded receivedAt =>
      have same : decoded.setButtonEvents = state.parser.state.setButtonEvents := healthy
      rw [← same]
      cases message with
      | none => rfl
      | some kind => cases kind <;> rfl

theorem sampled_selection (live : Live state.firmware true longitudinal false) (timer : UInt32)
    (report : PandaHealth) (clock : TimePoint) :
    (exchangeStep config opendbc state
      (.health timer report clock)).latestHealth.longitudinalSelected = longitudinal := by
  simp only [exchangeStep, withSession_status]
  exact live.longitudinalSession

/-- What an iteration leaves: the updated supervisor, and the drop if it disagrees. -/
theorem iterated (profile : CombinedSession config.safety)
    (engageable : state.supervisor.Engageable) {timer : UInt32} {now : TimePoint}
    {command : CommandSample} (healthy : Healthy config opendbc state (.iterate timer now command)) :
    let next := exchangeStep config opendbc state (.iterate timer now command)
    SafetySupervisor.SessionUpdated state.supervisor
        (state.parser.snapshot now config.vehicleStateTimeout) state.latestHealth
        next.supervisor ∧
      next.firmware =
        if !next.supervisor.longitudinalEnabled && state.latestHealth.longitudinalSelected then
          state.firmware.dropPermission opendbc timer 1
        else state.firmware := by
  refine ⟨SafetySupervisor.update_healthy profile.session profile.actuation engageable healthy, ?_⟩
  simp only [exchangeStep, controlIteration, profile.session, Bool.true_and,
    SafetySupervisor.update_longitudinal.1, profile.longitudinal]

theorem Awaiting.iterate (profile : CombinedSession config.safety) (awaiting : Awaiting state)
    {timer : UInt32} {now : TimePoint} {command : CommandSample}
    (healthy : Healthy config opendbc state (.iterate timer now command)) :
    let next := exchangeStep config opendbc state (.iterate timer now command)
    (state.latestHealth.longitudinalSelected = false → Awaiting next) ∧
      (state.latestHealth.longitudinalSelected = true →
        Live next.firmware true false false) := by
  intro next
  obtain ⟨updated, firmware⟩ := iterated profile awaiting.engageable healthy
  have noPress : state.supervisor.setButtonEvent
      (state.parser.snapshot now config.vehicleStateTimeout) = false := by
    have same : state.parser.state.setButtonEvents = state.supervisor.lastSetButtonEvents :=
      awaiting.seen.symm
    simpa [SafetySupervisor.setButtonEvent, VehicleStateParser.snapshot] using same
  have latched : next.supervisor.longitudinalLatchedOff = true := by
    rw [updated.latch, awaiting.latched, noPress]
    rfl
  have off : next.supervisor.longitudinalEnabled = false := by
    rw [updated.longitudinal, latched, Bool.not_true, Bool.and_false]
  constructor
  · intro unselected
    rw [unselected, Bool.and_false, if_neg (by simp)] at firmware
    exact
      { firmware := by rw [firmware]; exact awaiting.firmware
        engageable := updated.engageable
        latched := latched
        seen := updated.seen }
  · intro selected
    rw [off, selected, if_pos (by simp)] at firmware
    rw [firmware]
    exact awaiting.firmware.drop

theorem Awaiting.passive (awaiting : Awaiting state) (stores : opendbc.StoresButton)
    (healthy : Healthy config opendbc state event) (passive : isIterate event = false)
    (other : event ≠ .setRelease) : Awaiting (exchangeStep config opendbc state event) :=
  { firmware := firmware_kept awaiting.firmware stores healthy passive
    engageable := by rw [supervisor_kept passive]; exact awaiting.engageable
    latched := by rw [supervisor_kept passive]; exact awaiting.latched
    seen := by
      rw [supervisor_kept passive, counter_kept healthy other]
      exact awaiting.seen }

theorem Awaiting.released (config : NodeConfig) (opendbc : Opendbc) (awaiting : Awaiting state) :
    Cleared (exchangeStep config opendbc state .setRelease) :=
  { firmware := awaiting.firmware
    engageable := awaiting.engageable
    clears := by
      intro _ same
      have unchanged : state.parser.state.setButtonEvents =
          state.parser.state.setButtonEvents + 1 := awaiting.seen.symm.trans same
      simp at unchanged }

theorem Cleared.iterate (profile : CombinedSession config.safety) (cleared : Cleared state)
    {timer : UInt32} {now : TimePoint} {command : CommandSample}
    (healthy : Healthy config opendbc state (.iterate timer now command)) :
    let next := exchangeStep config opendbc state (.iterate timer now command)
    Cleared next ∧
      next.supervisor.longitudinalEnabled = state.latestHealth.longitudinalSelected := by
  intro next
  obtain ⟨updated, firmware⟩ := iterated profile cleared.engageable healthy
  have unlatched : next.supervisor.longitudinalLatchedOff = false := by
    rw [updated.latch]
    cases latched : state.supervisor.longitudinalLatchedOff with
    | false => rfl
    | true =>
        have pressed : state.supervisor.setButtonEvent
            (state.parser.snapshot now config.vehicleStateTimeout) = true := by
          have differs := (cleared.clears latched).symm
          simpa [SafetySupervisor.setButtonEvent, VehicleStateParser.snapshot] using differs
        rw [pressed]
        rfl
  have enabled : next.supervisor.longitudinalEnabled =
      state.latestHealth.longitudinalSelected := by
    rw [updated.longitudinal, unlatched, Bool.not_false, Bool.and_true]
  refine ⟨?_, enabled⟩
  rw [enabled, Bool.not_and_self, if_neg (by simp)] at firmware
  exact
    { firmware := by rw [firmware]; exact cleared.firmware
      engageable := updated.engageable
      clears := by
        intro latched
        rw [unlatched] at latched
        cases latched }

theorem Cleared.step (profile : CombinedSession config.safety) (stores : opendbc.StoresButton)
    (cleared : Cleared state) (healthy : Healthy config opendbc state event)
    (other : event ≠ .setRelease) : Cleared (exchangeStep config opendbc state event) := by
  cases event with
  | iterate timer now command => exact (cleared.iterate profile healthy).1
  | setRelease => exact absurd rfl other
  | canFrame | vehicleFrame | health =>
      exact
        { firmware := firmware_kept cleared.firmware stores healthy rfl
          engageable := cleared.engageable
          clears := by
            rw [counter_kept healthy other]
            exact cleared.clears }

theorem dropped_step (stores : opendbc.StoresButton)
    (dropped : Live state.firmware true false false)
    (healthy : Healthy config opendbc state event) :
    Live (exchangeStep config opendbc state event).firmware true false false := by
  by_cases iterating : isIterate event = true
  · cases event with
    | iterate timer now command =>
        simp only [exchangeStep, controlIteration]
        split
        · exact dropped.drop
        · exact dropped
    | canFrame | setRelease | vehicleFrame | health => cases iterating
  · exact firmware_kept dropped stores healthy (by simpa using iterating)

/-- Once a sample shows the selection, every later sample does. -/
theorem Cleared.reported_step (profile : CombinedSession config.safety)
    (stores : opendbc.StoresButton)
    (cleared : Cleared state ∧ state.latestHealth.longitudinalSelected = true)
    (healthy : Healthy config opendbc state event) (other : event ≠ .setRelease) :
    Cleared (exchangeStep config opendbc state event) ∧
      (exchangeStep config opendbc state event).latestHealth.longitudinalSelected = true := by
  refine ⟨cleared.1.step profile stores healthy other, ?_⟩
  cases event with
  | health timer report clock => exact sampled_selection cleared.1.firmware timer report clock
  | setRelease => exact absurd rfl other
  | canFrame | vehicleFrame | iterate => exact cleared.2

end Steps

section Runs
variable {config : NodeConfig} {opendbc : Opendbc}

def Onward (config : NodeConfig) (opendbc : Opendbc) (state : ExchangeState)
    (event : ExchangeEvent) : Prop :=
  Healthy config opendbc state event ∧ event ≠ .setRelease

theorem meets_onward {events : List ExchangeEvent} {state : ExchangeState}
    (healthy : (exchange config opendbc).Meets (Healthy config opendbc) state events)
    (others : .setRelease ∉ events) :
    (exchange config opendbc).Meets (Onward config opendbc) state events :=
  (exchange config opendbc).meets_and events state healthy
    ((exchange config opendbc).meets_of_forall events
      (fun event member _ => by
        rintro rfl
        exact others member) state)

theorem dropped_run (stores : opendbc.StoresButton) {events : List ExchangeEvent}
    {state final : ExchangeState} (dropped : Live state.firmware true false false)
    (healthy : (exchange config opendbc).Meets (Healthy config opendbc) state events)
    (run : (exchange config opendbc).exec state events = some final) :
    Live final.firmware true false false := by
  refine (exchange config opendbc).exec_keeps (fun state => Live state.firmware true false false)
    (Healthy config opendbc) ?_ events state final dropped healthy run
  intro state event next live met taken
  cases taken
  exact dropped_step stores live met

theorem cleared_run (profile : CombinedSession config.safety) (stores : opendbc.StoresButton)
    {events : List ExchangeEvent} {state final : ExchangeState} (cleared : Cleared state)
    (onward : (exchange config opendbc).Meets (Onward config opendbc) state events)
    (run : (exchange config opendbc).exec state events = some final) : Cleared final := by
  refine (exchange config opendbc).exec_keeps Cleared (Onward config opendbc) ?_ events state
    final cleared onward run
  intro state event next before met taken
  cases taken
  exact before.step profile stores met.1 met.2

theorem reported_run (profile : CombinedSession config.safety) (stores : opendbc.StoresButton)
    {events : List ExchangeEvent} {state final : ExchangeState} (cleared : Cleared state)
    (reported : state.latestHealth.longitudinalSelected = true)
    (onward : (exchange config opendbc).Meets (Onward config opendbc) state events)
    (run : (exchange config opendbc).exec state events = some final) :
    Cleared final ∧ final.latestHealth.longitudinalSelected = true := by
  refine (exchange config opendbc).exec_keeps
    (fun state => Cleared state ∧ state.latestHealth.longitudinalSelected = true)
    (Onward config opendbc) ?_ events state final ⟨cleared, reported⟩ onward run
  intro state event next before met taken
  cases taken
  exact Cleared.reported_step profile stores before met.1 met.2

/-- After a sample of the new selection the first iteration drops it. -/
theorem awaiting_sampled_run (profile : CombinedSession config.safety)
    (stores : opendbc.StoresButton) (events : List ExchangeEvent) :
    ∀ state final, Awaiting state → state.latestHealth.longitudinalSelected = true →
      (exchange config opendbc).Meets (Onward config opendbc) state events →
      (exchange config opendbc).exec state events = some final →
        (events.any isIterate = true → Live final.firmware true false false) ∧
          (events.any isIterate = false → Awaiting final) := by
  induction events with
  | nil =>
      intro state final awaiting _ _ run
      cases Option.some.inj run
      exact ⟨fun iterates => by simp at iterates, fun _ => awaiting⟩
  | cons event rest ih =>
      intro state final awaiting selected onward run
      have healthy := onward.1.1
      have later := onward.2 _ rfl
      by_cases iterating : isIterate event = true
      · cases event with
        | iterate timer now command =>
            have dropped := (awaiting.iterate profile healthy).2 selected
            have kept := (exchange config opendbc).meets_mono (fun _ _ met => met.1) rest _ later
            exact ⟨fun _ => dropped_run stores dropped kept run,
              fun none => by simp [isIterate] at none⟩
        | canFrame | setRelease | vehicleFrame | health => cases iterating
      · have passive : isIterate event = false := by simpa using iterating
        have still := awaiting.passive stores healthy passive onward.1.2
        have shown : (exchangeStep config opendbc state event).latestHealth.longitudinalSelected =
            true := by
          cases event with
          | health timer report clock => exact sampled_selection awaiting.firmware timer report clock
          | iterate => cases passive
          | canFrame | setRelease | vehicleFrame => exact selected
        rw [List.any_cons, passive, Bool.false_or]
        exact ih _ final still shown later run

/-- Up to the release: the selection survives unless an iteration ran on a sample of it. -/
theorem awaiting_run (profile : CombinedSession config.safety) (stores : opendbc.StoresButton)
    (events : List ExchangeEvent) :
    ∀ state final, Awaiting state → state.latestHealth.longitudinalSelected = false →
      (exchange config opendbc).Meets (Onward config opendbc) state events →
      (exchange config opendbc).exec state events = some final →
        (iteratesOnSample events = true → Live final.firmware true false false) ∧
          (iteratesOnSample events = false → Awaiting final) := by
  induction events with
  | nil =>
      intro state final awaiting _ _ run
      cases Option.some.inj run
      exact ⟨fun iterates => by simp [iteratesOnSample] at iterates, fun _ => awaiting⟩
  | cons event rest ih =>
      intro state final awaiting unselected onward run
      have healthy := onward.1.1
      have later := onward.2 _ rfl
      cases event with
      | health timer report clock =>
          exact awaiting_sampled_run profile stores rest _ final
            (awaiting.passive stores healthy rfl onward.1.2)
            (sampled_selection awaiting.firmware timer report clock) later run
      | iterate timer now command =>
          exact ih _ final ((awaiting.iterate profile healthy).1 unselected) unselected later run
      | setRelease => exact absurd rfl onward.1.2
      | canFrame timer msg =>
          exact ih _ final (awaiting.passive stores healthy rfl onward.1.2) unselected later run
      | vehicleFrame message decoded receivedAt =>
          exact ih _ final (awaiting.passive stores healthy rfl onward.1.2) unselected later run

end Runs

/-- Lateral selected, longitudinal latched off by an earlier brake press, nothing in flight. -/
structure AfterBrake (state : ExchangeState) : Prop where
  firmware : state.firmware.Live true false false
  engageable : state.supervisor.Engageable
  lateral : state.supervisor.lateralEnabled = true
  latched : state.supervisor.longitudinalLatchedOff = true
  seen : state.supervisor.lastSetButtonEvents = state.parser.state.setButtonEvents
  reported : state.latestHealth.longitudinalSelected = false

/-- One SET press ends with longitudinal selected on both sides exactly when no control iteration
ran on a health sample of the new selection before the button frame was parsed. -/
theorem set_press_selects_longitudinal (config : NodeConfig) (opendbc : Opendbc)
    (profile : CombinedSession config.safety) (stores : opendbc.StoresButton)
    (state : ExchangeState) (start : AfterBrake state) (selected : Firmware)
    (press : SetPressed opendbc state.firmware selected) (early late after : List ExchangeEvent)
    (onlyRelease : ExchangeEvent.setRelease ∉ early ++ late ++ after)
    (timer timer' : UInt32) (report : PandaHealth) (clock now : TimePoint)
    (command : CommandSample) (final : ExchangeState) :
    let events := early ++ .setRelease :: late ++ .health timer report clock :: after ++
      [.iterate timer' now command]
    (exchange config opendbc).Meets (Healthy config opendbc) { state with firmware := selected }
        events →
      (exchange config opendbc).exec { state with firmware := selected } events = some final →
        (final.firmware.sessionLongitudinal = true ∧
            final.supervisor.longitudinalEnabled = true ↔ iteratesOnSample early = false) := by
  intro events healthy run
  simp only [List.mem_append, not_or] at onlyRelease
  obtain ⟨⟨noneEarly, noneLate⟩, noneAfter⟩ := onlyRelease
  have awaiting : Awaiting { state with firmware := selected } :=
    { firmware := by simpa using press.live stores start.firmware
      engageable := start.engageable
      latched := start.latched
      seen := start.seen }
  obtain ⟨sampled, runSampled, metSampled, metLast, runLast⟩ :=
    (exchange config opendbc).split_run healthy run
  obtain ⟨parsed, runParsed, metParsed, metAfter, runAfter⟩ :=
    (exchange config opendbc).split_run metSampled runSampled
  obtain ⟨before, runEarly, metEarly, metLate, runLate⟩ :=
    (exchange config opendbc).split_run metParsed runParsed
  obtain ⟨dropped, kept⟩ := awaiting_run profile stores early _ before awaiting start.reported
    (meets_onward metEarly noneEarly) runEarly
  constructor
  · -- A dropped channel is still off at the end of the run.
    intro both
    by_contra iterates
    have lost := dropped (by simpa using iterates)
    have lostParsed := dropped_run stores lost metLate runLate
    have lostSampled := dropped_run stores lostParsed metAfter runAfter
    have lostFinal := dropped_run stores lostSampled metLast runLast
    rw [lostFinal.longitudinalSession] at both
    cases both.1
  · intro none
    have released := (kept none).released config opendbc
    have cleared := cleared_run profile stores released
      (meets_onward (metLate.2 _ rfl) noneLate) runLate
    have polled := cleared.step profile stores metAfter.1 (by simp)
    obtain ⟨still, reported⟩ := reported_run profile stores polled
      (sampled_selection cleared.firmware timer report clock)
      (meets_onward (metAfter.2 _ rfl) noneAfter) runAfter
    obtain ⟨last, enabled⟩ := still.iterate profile metLast.1
    cases Option.some.inj runLast
    exact ⟨last.firmware.longitudinalSession, enabled.trans reported⟩

/-! ## A brake press and a SET press -/

def combinedConfig : AcceptedConfig :=
  ⟨{ allowActuation := true, allowLongitudinal := true, resumeOnCommandReturn := true,
     requiredSafetyParam := 7173 }, by decide +kernel⟩

def combinedNode : NodeConfig := { safety := combinedConfig.toSafetyConfig }

/-- Both channels selected by a first SET press, longitudinal lost to the brake. -/
def brakedFirmware : Firmware :=
  [brakeMsg false, buttonsMsg 0, buttonsMsg 2, buttonsMsg 0, brakeMsg true, brakeMsg false].foldl
    (fun firmware msg => (firmware.safetyRxHook validFrames 0 msg).1)
    { sessionProfile := 7173, splitButtonArm := true, hyundaiLongitudinal := true
      currentSafetyMode := safetyHyundaiCanfd, rxChecks := [{ addr := 0x175 }, { addr := 0x1CF }] }

def combinedPanda : PandaHealth :=
  { fixturePanda with
    ignitionOn := true, safetyParam := 7173, commandSessionActive := true
    commandSessionReady := true, lateralSelected := true, longitudinalSelected := true }

def brakedSupervisor : SafetySupervisor :=
  (supervisorMachine combinedNode.safety).run {}
    [.requestArm true, .update fixtureNow fixtureVehicle combinedPanda fixtureCommand,
      .update fixtureNow { fixtureVehicle with brakePressed := true } combinedPanda fixtureCommand,
      .update fixtureNow fixtureVehicle { combinedPanda with longitudinalSelected := false }
        fixtureCommand]

def braked : ExchangeState where
  firmware := brakedFirmware
  latestHealth := { combinedPanda with longitudinalSelected := false }
  parser :=
    { state := fixtureVehicle, steeringTime := fixtureNow, mdpsTime := fixtureNow
      wheelTime := fixtureNow, tcsTime := fixtureNow }
  supervisor := brakedSupervisor

theorem braked_start : AfterBrake braked where
  firmware := by decide +kernel
  engageable := ⟨by decide +kernel, by decide +kernel, by decide +kernel⟩
  lateral := by decide +kernel
  latched := by decide +kernel
  seen := by decide +kernel
  reported := by decide +kernel

def setPressedFirmware : Firmware :=
  (((brakedFirmware.safetyRxHook validFrames 0 (buttonsMsg 2)).1).safetyRxHook validFrames 0
    (buttonsMsg 0)).1

theorem braked_pressed : SetPressed validFrames braked.firmware setPressedFirmware := by
  have received : ∀ firmware msg, Received validFrames firmware 0 msg :=
    fun _ _ => ⟨rfl, fun _ relay => relay⟩
  exact ⟨_, 0, buttonsMsg 0, .press (received _ _) (by decide +kernel) (by decide +kernel),
    received _ _, by decide +kernel, by decide +kernel, rfl⟩

def combinedReport : PandaHealth := { combinedPanda with connected := false, updatedAt := 0 }

def pollHealth : ExchangeEvent := .health 0 combinedReport fixtureNow

def iteration : ExchangeEvent := .iterate 0 fixtureNow fixtureCommand

/-- The sample before the button frame, but no iteration between them. -/
theorem set_press_selects_after_sample :
    let events := [pollHealth] ++ [.setRelease] ++ [pollHealth] ++ [iteration]
    ∃ final, (exchange combinedNode validFrames).exec
        { braked with firmware := setPressedFirmware } events = some final ∧
      final.firmware.sessionLongitudinal = true ∧ final.supervisor.longitudinalEnabled = true := by
  refine ⟨_, rfl, ?_⟩
  refine (set_press_selects_longitudinal combinedNode validFrames ⟨rfl, rfl, rfl⟩
    validFrames_stores braked braked_start setPressedFirmware braked_pressed [pollHealth] [] []
    (by simp [pollHealth]) 0 0 combinedReport fixtureNow fixtureNow fixtureCommand _ ?_ rfl).mpr rfl
  refine ⟨trivial, fun _ step => ?_⟩
  cases step
  refine ⟨trivial, fun _ step => ?_⟩
  cases step
  refine ⟨trivial, fun _ step => ?_⟩
  cases step
  refine ⟨?_, fun _ _ => trivial⟩
  show SafetySupervisor.HealthySample ..
  decide +kernel

theorem set_press_lost_between_sample_and_frame :
    let before : ExchangeState := { braked with firmware := setPressedFirmware }
    let events := [pollHealth, iteration, .setRelease, pollHealth, iteration]
    CombinedSession combinedNode.safety ∧ AfterBrake braked ∧
      SetPressed validFrames braked.firmware setPressedFirmware ∧
      (exchange combinedNode validFrames).Meets (Healthy combinedNode validFrames) before events ∧
      setPressedFirmware.sessionLongitudinal = true ∧
      ∃ final, (exchange combinedNode validFrames).exec before events = some final ∧
        final.firmware.sessionLongitudinal = false ∧
        final.supervisor.longitudinalLatchedOff = false ∧
        final.supervisor.longitudinalEnabled = false := by
  refine ⟨⟨rfl, rfl, rfl⟩, braked_start, braked_pressed, ?_, by decide +kernel, _, rfl,
    by decide +kernel, by decide +kernel, by decide +kernel⟩
  refine ⟨trivial, fun _ step => ?_⟩
  cases step
  refine ⟨?_, fun _ step => ?_⟩
  · show SafetySupervisor.HealthySample ..
    decide +kernel
  cases step
  refine ⟨trivial, fun _ step => ?_⟩
  cases step
  refine ⟨trivial, fun _ step => ?_⟩
  cases step
  refine ⟨?_, fun _ _ => trivial⟩
  show SafetySupervisor.HealthySample ..
  decide +kernel

end Ioniq5Ecan
