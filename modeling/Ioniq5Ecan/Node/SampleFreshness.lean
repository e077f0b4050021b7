import Ioniq5Ecan.Node.Sampling

/-! # Which iterations see fresh samples

An iteration sees a source stamped after its `now` exactly when a writer
overtakes it.  `SeenEarly` is kept by every step that does not overtake,
`SeenLate` is set up by the step that does and kept from there on. -/
set_option autoImplicit false
namespace Ioniq5Ecan

open Library (EventSystem)

section Step
variable {config : NodeConfig} {state next : SamplingState} {event : SamplingEvent}

inductive SlotEffect (config : NodeConfig) (state : SamplingState) (event : SamplingEvent)
    (next : SamplingState) (source : Source) : Prop
  | kept (same : next.slotStamp source = state.slotStamp source)
  | written (stores : state.stored config event = some (source, next.slotStamp source))
  | reset (unstamped : next.slotStamp source = 0)
  | transition (stamped : next.slotStamp source = state.clock)
      (copied : ∀ now, state.control.capturedAt = some now → state.control.copied source ≠ none)

inductive ControlEffect (state : SamplingState) (event : SamplingEvent) (next : SamplingState) :
    Prop
  | stays (same : next.control = state.control)
  | captures (isCapture : event = .capture) (begun : next.control = .captured state.clock)
  | copies (sameNow : next.control.capturedAt = state.control.capturedAt)
      (seen : ∀ source, next.seenStamp source = state.seenStamp source)
  | ends (idle : next.control = .idle)

structure StepEffect (config : NodeConfig) (state : SamplingState) (event : SamplingEvent)
    (next : SamplingState) : Prop where
  clock : state.clock ≤ next.clock
  pending : ∀ source stamp, next.pendingStamp source = some stamp →
    state.pendingStamp source = some stamp ∨ stamp = state.clock
  slot : ∀ source, SlotEffect config state event next source
  control : ControlEffect state event next

theorem StepEffect.ofControl (clock : next.clock = state.clock)
    (receive : next.receive = state.receive)
    (slot : ∀ source, next.slotStamp source = state.slotStamp source)
    (control : ControlEffect state event next) : StepEffect config state event next where
  clock := by rw [clock]
  pending := by
    intro source stamp pending
    left
    cases source with
    | command => cases pending
    | health => simpa [SamplingState.pendingStamp, receive] using pending
    | vehicle kind => simpa [SamplingState.pendingStamp, receive] using pending
  slot := fun source => .kept (slot source)
  control := control

/-- The inversion of a step; the invariants below use nothing else about it. -/
theorem step_effect (step : samplingStep config state event = some next) :
    StepEffect config state event next := by
  cases event with
  | advance elapsed =>
      cases Option.some.inj step
      exact ⟨by simp, fun source stamp pending => Or.inl pending, fun source => .kept rfl, .stays rfl⟩
  | command message =>
      cases Option.some.inj step
      refine ⟨by simp, fun source stamp pending => Or.inl pending, fun source => ?_, .stays rfl⟩
      cases source with
      | command =>
          by_cases discards : state.commands.discards config message state.clock = true
          · apply SlotEffect.kept
            simp [SamplingState.slotStamp, CommandInput.commandCallback_receivedAt, discards]
          · apply SlotEffect.written
            simp [SamplingState.slotStamp, CommandInput.commandCallback_receivedAt, discards,
              SamplingState.stored]
      | health => exact .kept rfl
      | vehicle kind => exact .kept rfl
  | receiveFrames received =>
      simp only [samplingStep] at step
      split at step
      · cases Option.some.inj step
        refine ⟨by simp, ?_, fun source => .kept rfl, .stays rfl⟩
        intro source stamp pending
        right
        cases source <;> simp_all [SamplingState.pendingStamp]
      · cases step
  | parseFrame =>
      simp only [samplingStep] at step
      split at step
      · cases Option.some.inj step
        refine ⟨by simp, ?_, fun source => .kept rfl, .stays rfl⟩
        intro source stamp pending
        cases source <;> simp_all [SamplingState.pendingStamp]
      · rename_i receivedAt message decoded rest pending
        cases Option.some.inj step
        refine ⟨by simp, ?_, ?_, .stays rfl⟩
        · intro source stamp after
          left
          cases source with
          | command => cases after
          | health => simp [SamplingState.pendingStamp] at after
          | vehicle kind => simpa [SamplingState.pendingStamp, pending] using after
        · intro source
          cases source with
          | command => exact .kept rfl
          | health => exact .kept rfl
          | vehicle kind =>
              by_cases same : message = some kind
              · apply SlotEffect.written
                simp [SamplingState.slotStamp, VehicleStateParser.accept_stamp, same,
                  SamplingState.stored, pending]
              · apply SlotEffect.kept
                simp [SamplingState.slotStamp, VehicleStateParser.accept_stamp, same]
      · cases step
  | readHealth health =>
      simp only [samplingStep] at step
      split at step
      · cases Option.some.inj step
        refine ⟨by simp, ?_, fun source => .kept rfl, .stays rfl⟩
        intro source stamp pending
        right
        cases source <;> simp_all [SamplingState.pendingStamp, stampedHealth]
      · cases step
  | storeHealth epochUnchanged =>
      simp only [samplingStep] at step
      split at step
      · rename_i sample pending
        cases Option.some.inj step
        refine ⟨by simp, ?_, ?_, .stays rfl⟩
        · intro source stamp after
          cases source <;> simp [SamplingState.pendingStamp] at after
        · intro source
          cases source with
          | command => exact .kept rfl
          | health =>
              cases epochUnchanged with
              | false => exact .kept rfl
              | true => exact .written (by simp [SamplingState.stored, pending,
                  SamplingState.slotStamp])
          | vehicle kind => exact .kept rfl
      · cases step
  | receiveError =>
      cases Option.some.inj step
      refine ⟨by simp, ?_, ?_, .stays rfl⟩
      · intro source stamp after
        cases source <;> simp [SamplingState.pendingStamp] at after
      · intro source
        cases source with
        | command => exact .kept rfl
        | health => exact .reset rfl
        | vehicle kind => exact .kept rfl
  | capture =>
      simp only [samplingStep] at step
      split at step
      · cases Option.some.inj step
        exact .ofControl rfl rfl (fun source => by cases source <;> rfl) (.captures rfl rfl)
      · cases step
  | copyCommand =>
      simp only [samplingStep] at step
      split at step
      · rename_i now before
        cases Option.some.inj step
        refine .ofControl rfl rfl (fun source => by cases source <;> rfl) (.copies ?_ ?_)
        · simp [before, SamplingThread.capturedAt]
        · intro source
          cases source <;> simp [SamplingState.seenStamp, SamplingThread.copied, before] <;> rfl
      · cases step
  | copyHealth =>
      simp only [samplingStep] at step
      split at step
      · rename_i now command before
        cases Option.some.inj step
        refine .ofControl rfl rfl (fun source => by cases source <;> rfl) (.copies ?_ ?_)
        · simp [before, SamplingThread.capturedAt]
        · intro source
          cases source <;> simp [SamplingState.seenStamp, SamplingThread.copied, before] <;> rfl
      · cases step
  | snapshot =>
      simp only [samplingStep] at step
      split at step
      · rename_i now command panda before
        cases Option.some.inj step
        refine .ofControl rfl rfl (fun source => by cases source <;> rfl) (.copies ?_ ?_)
        · simp [before, SamplingThread.capturedAt]
        · intro source
          cases source <;> simp [SamplingState.seenStamp, SamplingThread.copied, before]; rfl
      · cases step
  | requestArm arm =>
      simp only [samplingStep] at step
      split at step
      · cases Option.some.inj step
        exact .ofControl rfl rfl (fun source => by cases source <;> rfl) (.stays rfl)
      · cases step
  | transitionHealth health =>
      have effect : state.control.capturedAt = none ∨ ∀ source, state.control.copied source ≠ none := by
        simp only [samplingStep] at step
        split at step
        · rename_i idle
          exact Or.inl (by rw [idle]; rfl)
        · rename_i before
          right
          intro source
          cases source <;> simp [before, SamplingThread.copied]
        · cases step
      have stored : next = { state with latestHealth := stampedHealth health state.clock } := by
        simp only [samplingStep] at step
        split at step <;> simp_all
      subst stored
      refine ⟨by simp, fun source stamp pending => Or.inl pending, ?_, .stays rfl⟩
      intro source
      cases source with
      | command => exact .kept rfl
      | health =>
          refine .transition rfl ?_
          intro now captured
          rcases effect with idle | copied
          · rw [idle] at captured; cases captured
          · exact copied .health
      | vehicle kind => exact .kept rfl
  | update =>
      simp only [samplingStep] at step
      split at step
      · cases Option.some.inj step
        exact .ofControl rfl rfl (fun source => by cases source <;> rfl) (.ends rfl)
      · cases step
  | abandon =>
      simp only [samplingStep] at step
      split at step
      · cases Option.some.inj step
        exact .ofControl rfl rfl (fun source => by cases source <;> rfl) (.ends rfl)
      · cases step

/-- A step other than the capture keeps the iteration's `now`; what it sees of a source stays,
is written by this step, or is reset. -/
theorem step_seen (effect : StepEffect config state event next) (running : event ≠ .capture)
    {now : TimePoint} (after : next.control.capturedAt = some now) (source : Source) :
    state.control.capturedAt = some now ∧
      (next.seenStamp source = state.seenStamp source ∨
        state.control.copied source = none ∧
          state.stored config event = some (source, next.seenStamp source) ∨
        next.seenStamp source = 0) := by
  cases effect.control with
  | stays same =>
      rw [same] at after
      refine ⟨after, ?_⟩
      cases copied : state.control.copied source with
      | some stamp => left; simp [SamplingState.seenStamp, same, copied]
      | none =>
          have seen : next.seenStamp source = next.slotStamp source := by
            simp [SamplingState.seenStamp, same, copied]
          have before : state.seenStamp source = state.slotStamp source := by
            simp [SamplingState.seenStamp, copied]
          rw [seen, before]
          cases effect.slot source with
          | kept kept => exact Or.inl kept
          | written stores => exact Or.inr (Or.inl ⟨rfl, stores⟩)
          | reset unstamped => exact Or.inr (Or.inr unstamped)
          | transition _ all => exact absurd copied (all now after)
  | captures isCapture _ => exact absurd isCapture running
  | copies sameNow seen => exact ⟨sameNow.symm.trans after, Or.inl (seen source)⟩
  | ends idle => rw [idle] at after; cases after

/-- A writer stores what the receive thread has pending, or the clock if nothing is. -/
theorem stored_stamp {source : Source} {stamp : TimePoint}
    (stores : state.stored config event = some (source, stamp)) :
    state.pendingStamp source = some stamp ∨
      stamp = state.clock ∧ state.pendingStamp source = none := by
  cases event with
  | command message =>
      simp only [SamplingState.stored] at stores
      split at stores
      · cases stores
      · cases stores
        exact Or.inr ⟨rfl, rfl⟩
  | parseFrame =>
      simp only [SamplingState.stored] at stores
      split at stores
      · rename_i receivedAt message decoded rest pending
        cases stores
        left
        simp [SamplingState.pendingStamp, pending]
      · cases stores
  | storeHealth epochUnchanged =>
      simp only [SamplingState.stored] at stores
      split at stores
      · rename_i sample pending
        split at stores
        · cases stores
          left
          simp [SamplingState.pendingStamp, pending]
        · cases stores
      · cases stores
  | advance | receiveFrames | readHealth | receiveError | capture | copyCommand | copyHealth
  | snapshot | requestArm | transitionHealth | update | abandon => cases stores

theorem written_step (step : samplingStep config state event = some next) {source : Source}
    {stamp : TimePoint} (stores : state.stored config event = some (source, stamp)) :
    next.control = state.control ∧ next.slotStamp source = stamp := by
  cases event with
  | command message =>
      simp only [SamplingState.stored] at stores
      split at stores
      · cases stores
      · rename_i accepted
        cases stores
        cases Option.some.inj step
        refine ⟨rfl, ?_⟩
        simp [SamplingState.slotStamp, CommandInput.commandCallback_receivedAt, accepted]
  | parseFrame =>
      simp only [SamplingState.stored] at stores
      split at stores
      · rename_i receivedAt message decoded rest pending
        cases stores
        simp only [samplingStep, pending] at step
        cases Option.some.inj step
        exact ⟨rfl, by simp [SamplingState.slotStamp, VehicleStateParser.accept_stamp]⟩
      · cases stores
  | storeHealth epochUnchanged =>
      simp only [SamplingState.stored] at stores
      split at stores
      · rename_i sample pending
        split at stores
        · rename_i unchanged
          cases stores
          simp only [samplingStep, pending, unchanged] at step
          cases Option.some.inj step
          exact ⟨rfl, rfl⟩
        · cases stores
      · cases stores
  | advance | receiveFrames | readHealth | receiveError | capture | copyCommand | copyHealth
  | snapshot | requestArm | transitionHealth | update | abandon => cases stores

end Step

/-! ## The invariants of a run -/

/-- No stamp is ahead of the clock. -/
structure Clocked (state : SamplingState) : Prop where
  slot : ∀ source, state.slotStamp source = 0 ∨ state.slotStamp source ≤ state.clock
  pending : ∀ source stamp, state.pendingStamp source = some stamp → stamp ≤ state.clock

/-- All the iteration sees is unstamped or not later than its `now`. -/
def SeenEarly (now : TimePoint) (state : SamplingState) : Prop :=
  ∀ captured, state.control.capturedAt = some captured → captured = now ∧
    ∀ source, state.seenStamp source = 0 ∨ state.seenStamp source ≤ now

/-- A source the iteration sees only unstamped or later than its `now`, and what is pending for
it is later too. -/
structure SeenLate (now : TimePoint) (source : Source) (state : SamplingState) : Prop where
  clock : now < state.clock
  pending : ∀ stamp, state.pendingStamp source = some stamp → now < stamp
  seen : ∀ captured, state.control.capturedAt = some captured → captured = now ∧
    (state.seenStamp source = 0 ∨ now < state.seenStamp source)

section Invariants
variable {config : NodeConfig} {state next : SamplingState} {event : SamplingEvent}

theorem Clocked.step (clocked : Clocked state) (effect : StepEffect config state event next) :
    Clocked next := by
  have stamped : ∀ source stamp, state.pendingStamp source = some stamp ∨ stamp = state.clock →
      stamp ≤ next.clock := by
    rintro source stamp (pending | rfl)
    · exact (clocked.pending source stamp pending).trans effect.clock
    · exact effect.clock
  refine ⟨fun source => ?_, fun source stamp pending => ?_⟩
  · cases effect.slot source with
    | kept same =>
        rw [same]
        exact (clocked.slot source).imp id fun before => before.trans effect.clock
    | written stores =>
        exact Or.inr (stamped source _ ((stored_stamp stores).imp id fun fromClock => fromClock.1))
    | reset unstamped => exact Or.inl unstamped
    | transition stamp _ => exact Or.inr (stamped source _ (Or.inr stamp))
  · exact stamped source stamp (effect.pending source stamp pending)

theorem SeenEarly.step {now : TimePoint} (early : SeenEarly now state)
    (effect : StepEffect config state event next) (running : event ≠ .capture)
    (notOvertaken : ¬ state.Overtakes config event) : SeenEarly now next := by
  intro captured after
  have before := (step_seen effect running after .command).1
  obtain ⟨sameNow, seen⟩ := early captured before
  subst sameNow
  refine ⟨rfl, fun source => ?_⟩
  rcases (step_seen effect running after source).2 with same | ⟨uncopied, stores⟩ | unstamped
  · rw [same]
    exact seen source
  · refine Or.inr (Int.not_lt.mp fun late => notOvertaken ?_)
    exact ⟨captured, source, _, before, uncopied, stores, late⟩
  · exact Or.inl unstamped

theorem SeenLate.step {now : TimePoint} {source : Source} (late : SeenLate now source state)
    (effect : StepEffect config state event next) (running : event ≠ .capture) :
    SeenLate now source next := by
  have stamped : ∀ stamp, state.pendingStamp source = some stamp ∨ stamp = state.clock →
      now < stamp := by
    rintro stamp (pending | rfl)
    · exact late.pending stamp pending
    · exact late.clock
  refine ⟨lt_of_lt_of_le late.clock effect.clock, ?_, ?_⟩
  · intro stamp pending
    exact stamped stamp (effect.pending source stamp pending)
  · intro captured after
    obtain ⟨before, outcome⟩ := step_seen effect running after source
    obtain ⟨sameNow, seen⟩ := late.seen captured before
    refine ⟨sameNow, ?_⟩
    rcases outcome with same | ⟨_, stores⟩ | unstamped
    · rw [same]
      exact seen
    · exact Or.inr (stamped _ ((stored_stamp stores).imp id fun fromClock => fromClock.1))
    · exact Or.inl unstamped

theorem seenLate_of_overtakes (clocked : Clocked state)
    (step : samplingStep config state event = some next)
    (overtakes : state.Overtakes config event) :
    ∃ now source, state.control.capturedAt = some now ∧ SeenLate now source next := by
  obtain ⟨now, source, stamp, captured, uncopied, stores, late⟩ := overtakes
  have effect := step_effect step
  obtain ⟨sameControl, slot⟩ := written_step step stores
  have stampClock : stamp ≤ state.clock := by
    rcases stored_stamp stores with pending | ⟨fromClock, _⟩
    · exact clocked.pending source stamp pending
    · exact fromClock.le
  refine ⟨now, source, captured, ?_, ?_, ?_⟩
  · exact lt_of_lt_of_le late (stampClock.trans effect.clock)
  · intro other pending
    rcases effect.pending source other pending with before | fromClock
    · rcases stored_stamp stores with stored | ⟨_, nothing⟩
      · rw [before] at stored
        cases stored
        exact late
      · rw [before] at nothing
        cases nothing
    · rw [fromClock]
      exact lt_of_lt_of_le late stampClock
  · intro other after
    rw [sameControl, captured] at after
    cases after
    refine ⟨rfl, Or.inr ?_⟩
    rw [SamplingState.seenStamp, sameControl, uncopied]
    exact late.trans_eq slot.symm

end Invariants

/-! ## Timeouts declared by `update` -/

section Declared
variable {config : SafetyConfig} {now : TimePoint} {vehicle : VehicleStateData}
  {panda : PandaHealth} {command : CommandSample} {supervisor : SafetySupervisor}

def TimeoutReason (reason : String) : Prop :=
  reason = "critical vehicle state timeout" ∨ reason ∈ SafetySupervisor.commandTimeoutReasons

instance (reason : String) : Decidable (TimeoutReason reason) :=
  inferInstanceAs (Decidable (_ ∨ _))

/-- `update` declares the Panda disconnected, or the vehicle state or the command timed out; a
Fault kept from before declares nothing new. -/
def DeclaresTimeout (before : SafetySupervisor) (decision : SafetyDecision) : Prop :=
  decision.state = .disconnected ∨
    TimeoutReason decision.reason ∧
      ¬ (before.state = .fault ∧ decision.reason = before.reason)

theorem answer_declares_nothing {before after : SafetySupervisor}
    (connected : after.state ≠ .disconnected)
    (named : TimeoutReason after.reason → before.state = .fault ∧ after.reason = before.reason)
    (lateral longitudinal vehicleMode heartbeat : Bool) :
    ¬ DeclaresTimeout before
      (after.answer config now lateral longitudinal vehicleMode heartbeat).2 := by
  rintro (lost | ⟨timedOut, notKept⟩)
  · exact connected lost
  · exact notKept (named timedOut)

theorem not_timeout_of_explained {reason : String}
    (explained : SafetySupervisor.Explained config now vehicle command reason)
    (valid : vehicle.valid = true)
    (commandIsFresh : SafetySupervisor.commandFresh config now command = true) :
    ¬ TimeoutReason reason := by
  rintro (timedOut | stale)
  · have invalid := explained.vehicle timedOut
    rw [valid] at invalid
    cases invalid
  · have notFresh := explained.command stale
    rw [commandIsFresh] at notFresh
    cases notFresh

theorem observationFaults_not_timeout :
    ∀ reason ∈ SafetySupervisor.observationFaults, ¬ TimeoutReason reason := by
  decide

/-- With three fresh samples no timeout is declared, whatever the supervisor was doing. -/
theorem update_declares_no_timeout
    (pandaIsFresh : SafetySupervisor.pandaFresh config now panda = true)
    (valid : vehicle.valid = true)
    (commandIsFresh : SafetySupervisor.commandFresh config now command = true) :
    ¬ DeclaresTimeout supervisor (supervisor.update config now vehicle panda command).2 := by
  have exit := SafetySupervisor.update_exit config supervisor now vehicle panda command
  generalize supervisor.update config now vehicle panda command = result at exit ⊢
  have other : ∀ {reason : String}, SafetySupervisor.Explained config now vehicle command reason →
      ¬ TimeoutReason reason :=
    fun explained => not_timeout_of_explained explained valid commandIsFresh
  cases exit with
  | lostPanda stale => rw [pandaIsFresh] at stale; cases stale
  | passiveYaml _ _ =>
      have notTimeout : ¬ TimeoutReason "actuation disabled by YAML" := by decide
      exact answer_declares_nothing (by simp) (fun timedOut => absurd timedOut notTimeout) _ _ _ _
  | gated _ _ observed observes exit =>
      subst observes
      cases exit with
      | unarmed _ _ =>
          have notTimeout : ¬ TimeoutReason "waiting for arm request" := by decide
          exact answer_declares_nothing (by simp) (fun timedOut => absurd timedOut notTimeout)
            _ _ _ _
      | latched faulted =>
          refine answer_declares_nothing (by simp [faulted]) (fun timedOut => ?_) _ _ _ _
          rcases SafetySupervisor.observe_arm config vehicle panda (supervisor.setWaiting false) with
            kept | observedFault
          · exact ⟨kept.state.symm.trans faulted, kept.reason⟩
          · exact absurd timedOut (observationFaults_not_timeout _ observedFault.reason)
      | faulted reason explained =>
          exact answer_declares_nothing (by simp [SafetySupervisor.fault])
            (fun timedOut => absurd timedOut (other explained)) _ _ _ _
      | disarmed _ reason explained =>
          exact answer_declares_nothing (by simp [SafetySupervisor.disarm])
            (fun timedOut => absurd timedOut (other explained)) _ _ _ _
      | waiting _ _ stale _ => rw [commandIsFresh] at stale; cases stale
      | armed _ _ reason explained _ =>
          exact answer_declares_nothing (by simp)
            (fun timedOut => absurd timedOut (other explained)) _ _ _ _
      | paused _ _ _ _ _ _ _ reason explained =>
          exact answer_declares_nothing (by simp)
            (fun timedOut => absurd timedOut (other explained)) _ _ _ _
      | active _ _ _ _ _ _ reason explained =>
          exact answer_declares_nothing (by simp)
            (fun timedOut => absurd timedOut (other explained)) _ _ _ _

/-- A Panda sample that is not fresh disarms. -/
theorem update_lost_panda (stale : SafetySupervisor.pandaFresh config now panda = false) :
    (supervisor.update config now vehicle panda command).2.state = .disconnected ∧
      (supervisor.update config now vehicle panda command).1.armRequested = false := by
  have exit := SafetySupervisor.update_exit config supervisor now vehicle panda command
  generalize supervisor.update config now vehicle panda command = result at exit ⊢
  cases exit with
  | lostPanda _ => exact ⟨rfl, rfl⟩
  | passiveYaml fresh _ => rw [stale] at fresh; cases fresh
  | gated fresh _ _ _ _ => rw [stale] at fresh; cases fresh

end Declared

/-! ## One iteration -/

section Iteration
variable {config : NodeConfig} {now : TimePoint} {command : CommandSample} {panda : PandaHealth}
  {parser : VehicleStateParser} {state : SamplingState}

/-- Every sampled source was stamped no earlier than its timeout before `now`. -/
structure StampedInTime (config : NodeConfig) (now : TimePoint) (command : CommandSample)
    (panda : PandaHealth) (parser : VehicleStateParser) : Prop where
  connected : panda.connected = true
  command : command.receivedAt ≠ 0 ∧
    now - command.receivedAt ≤ config.safety.commandTimeout * nanosecondsPerMillisecond
  health : panda.updatedAt ≠ 0 ∧
    now - panda.updatedAt ≤ config.safety.pandaTimeout * nanosecondsPerMillisecond
  vehicle : ∀ message, parser.stamp message ≠ 0 ∧
    now - parser.stamp message ≤ config.vehicleStateTimeout * nanosecondsPerMillisecond

structure AllFresh (config : NodeConfig) (now : TimePoint) (command : CommandSample)
    (panda : PandaHealth) (parser : VehicleStateParser) : Prop where
  panda : SafetySupervisor.pandaFresh config.safety now panda = true
  vehicle : (parser.snapshot now config.vehicleStateTimeout).valid = true
  command : SafetySupervisor.commandFresh config.safety now command = true

theorem recent_iff_not_later {stamp : TimePoint} {timeout : Milliseconds}
    (inTime : stamp ≠ 0 ∧ now - stamp ≤ timeout * nanosecondsPerMillisecond) :
    recent stamp now timeout = true ↔ stamp ≤ now := by
  rw [recent_iff]
  exact ⟨fun fresh => fresh.2.1, fun notLater => ⟨inTime.1, notLater, inTime.2⟩⟩

theorem seenStamp_sampled (sampled : state.control = .sampled now command panda parser)
    (source : Source) :
    state.seenStamp source = match source with
      | .command => command.receivedAt
      | .health => panda.updatedAt
      | .vehicle message => parser.stamp message := by
  unfold SamplingState.seenStamp
  rw [sampled]
  cases source <;> rfl

theorem allFresh_iff (sampled : state.control = .sampled now command panda parser)
    (inTime : StampedInTime config now command panda parser) :
    AllFresh config now command panda parser ↔ ∀ source, state.seenStamp source ≤ now := by
  constructor
  · intro fresh source
    rw [seenStamp_sampled sampled]
    cases source with
    | command => exact (recent_iff_not_later inTime.command).mp fresh.command
    | health =>
        have pandaRecent := fresh.panda
        simp only [SafetySupervisor.pandaFresh, inTime.connected, Bool.true_and] at pandaRecent
        exact (recent_iff_not_later inTime.health).mp pandaRecent
    | vehicle message =>
        exact (recent_iff_not_later (inTime.vehicle message)).mp
          ((parser.snapshot_valid_iff now _).mp fresh.vehicle message)
  · intro notLater
    have commandSeen := notLater .command
    have healthSeen := notLater .health
    rw [seenStamp_sampled sampled] at commandSeen healthSeen
    refine ⟨?_, ?_, (recent_iff_not_later inTime.command).mpr commandSeen⟩
    · simp only [SafetySupervisor.pandaFresh, inTime.connected, Bool.true_and]
      exact (recent_iff_not_later inTime.health).mpr healthSeen
    · refine (parser.snapshot_valid_iff now _).mpr fun message => ?_
      have vehicleSeen := notLater (.vehicle message)
      rw [seenStamp_sampled sampled] at vehicleSeen
      exact (recent_iff_not_later (inTime.vehicle message)).mpr vehicleSeen

theorem seenStamp_ne_zero (sampled : state.control = .sampled now command panda parser)
    (inTime : StampedInTime config now command panda parser) (source : Source) :
    state.seenStamp source ≠ 0 := by
  rw [seenStamp_sampled sampled]
  cases source with
  | command => exact inTime.command.1
  | health => exact inTime.health.1
  | vehicle message => exact (inTime.vehicle message).1

theorem initial_clocked (clock : TimePoint) : Clocked { clock := clock } := by
  refine ⟨fun source => Or.inl ?_, fun source stamp pending => ?_⟩
  · cases source with
    | command | health => rfl
    | vehicle message => cases message <;> rfl
  · cases source <;> cases pending

end Iteration

section Runs
variable (config : NodeConfig)

theorem run_clocked (events : List SamplingEvent) {start state : SamplingState}
    (clocked : Clocked start) (ran : (samplingSystem config).exec start events = some state) :
    Clocked state :=
  (samplingSystem config).exec_invariant Clocked
    (fun _ _ _ inv step => inv.step (step_effect step)) events start state clocked ran

theorem capture_step {before start : SamplingState}
    (captured : (samplingSystem config).step before .capture = some start) :
    start = { before with control := .captured before.clock } := by
  simp only [samplingSystem, samplingStep] at captured
  split at captured
  · exact (Option.some.inj captured).symm
  · cases captured

theorem run_seenEarly (iteration : List SamplingEvent) {before start state : SamplingState}
    (clocked : Clocked before)
    (captured : (samplingSystem config).step before .capture = some start)
    (single : ∀ event ∈ iteration, event ≠ .capture)
    (ran : (samplingSystem config).exec start iteration = some state)
    (met : (samplingSystem config).Meets (fun state event => ¬ state.Overtakes config event)
      start iteration) :
    SeenEarly before.clock state := by
  have early : SeenEarly before.clock start := by
    rw [capture_step config captured]
    intro now atCapture
    cases atCapture
    refine ⟨rfl, fun source => ?_⟩
    have slot := clocked.slot source
    cases source <;> exact slot
  refine (samplingSystem config).exec_keeps (SeenEarly before.clock)
    (fun state event => ¬ state.Overtakes config event ∧ event ≠ .capture) ?_ iteration start state
    early ?_ ran
  · intro middle event next inv side step
    exact inv.step (step_effect step) side.2 side.1
  · exact (samplingSystem config).meets_and iteration start met
      ((samplingSystem config).meets_of_forall iteration
        (fun event member _ => single event member) start)

theorem run_seenLate (iteration : List SamplingEvent) {start state : SamplingState}
    (clocked : Clocked start) (single : ∀ event ∈ iteration, event ≠ .capture)
    (ran : (samplingSystem config).exec start iteration = some state)
    (overtaken : ¬ (samplingSystem config).Meets
      (fun state event => ¬ state.Overtakes config event) start iteration) :
    ∃ now source, SeenLate now source state := by
  obtain ⟨first, event, last, middle, next, split, reached, overtakes, step, rest⟩ :=
    (samplingSystem config).exists_violation iteration start state ran overtaken
  have clockedMiddle := run_clocked config first clocked reached
  obtain ⟨now, source, _, late⟩ :=
    seenLate_of_overtakes clockedMiddle step (not_not.mp overtakes)
  refine ⟨now, source, ?_⟩
  refine (samplingSystem config).exec_keeps (SeenLate now source)
    (fun _ event => event ≠ .capture) ?_ last next state late ?_ rest
  · intro before event after inv running step
    exact inv.step (step_effect step) running
  · refine (samplingSystem config).meets_of_forall last (fun event member _ => ?_) next
    exact single event (by rw [split]; simp [member])

/-- In every run and for every iteration whose sources were all stamped in time, the three
freshness tests hold exactly when no writer overtakes the iteration; then no timeout is declared,
and a health sample that is overtaken disarms. -/
theorem fresh_iff_not_overtaken (clock : TimePoint) (past iteration : List SamplingEvent)
    {before start state : SamplingState} {now : TimePoint} {command : CommandSample}
    {panda : PandaHealth} {parser : VehicleStateParser}
    (reached : (samplingSystem config).exec { clock := clock } past = some before)
    (captured : (samplingSystem config).step before .capture = some start)
    (single : ∀ event ∈ iteration, event ≠ .capture)
    (ran : (samplingSystem config).exec start iteration = some state)
    (sampled : state.control = .sampled now command panda parser)
    (inTime : StampedInTime config now command panda parser) :
    (AllFresh config now command panda parser ↔
        (samplingSystem config).Meets (fun state event => ¬ state.Overtakes config event)
          start iteration) ∧
      (AllFresh config now command panda parser → ∀ supervisor : SafetySupervisor,
        ¬ DeclaresTimeout supervisor (supervisor.update config.safety now
          (parser.snapshot now config.vehicleStateTimeout) panda command).2) ∧
      (now < panda.updatedAt → ∀ supervisor : SafetySupervisor,
        (supervisor.update config.safety now
          (parser.snapshot now config.vehicleStateTimeout) panda command).2.state =
            .disconnected ∧
        (supervisor.update config.safety now
          (parser.snapshot now config.vehicleStateTimeout) panda command).1.armRequested =
            false) := by
  have clocked := run_clocked config past (initial_clocked clock) reached
  have begun : StepEffect config before .capture start := step_effect captured
  have clockedStart := clocked.step begun
  have capturedAt : state.control.capturedAt = some now := by rw [sampled]; rfl
  refine ⟨?_, ?_, ?_⟩
  · rw [allFresh_iff sampled inTime]
    constructor
    · intro notLater
      by_contra overtaken
      obtain ⟨seenNow, source, late⟩ := run_seenLate config iteration clockedStart single ran overtaken
      obtain ⟨sameNow, seen⟩ := late.seen now capturedAt
      rcases seen with unstamped | later
      · exact seenStamp_ne_zero sampled inTime source unstamped
      · rw [← sameNow] at later
        exact absurd (notLater source) (Int.not_le.mpr later)
    · intro met source
      obtain ⟨sameNow, seen⟩ :=
        run_seenEarly config iteration clocked captured single ran met now capturedAt
      rw [sameNow]
      exact (seen source).resolve_left (seenStamp_ne_zero sampled inTime source)
  · intro fresh supervisor
    exact update_declares_no_timeout fresh.panda fresh.vehicle fresh.command
  · intro later supervisor
    refine update_lost_panda ?_
    have notRecent : recent panda.updatedAt now config.safety.pandaTimeout = false := by
      rw [← Bool.not_eq_true, recent_iff]
      exact fun fresh => Int.not_le.mpr later fresh.2.1
    rw [SafetySupervisor.pandaFresh, notRecent, Bool.and_false]

end Runs

/-! ## An iteration that is overtaken -/

/-- The four critical frames of one USB read, with the LDA counter they leave behind. -/
def criticalFrames (laneKeepButtonEvents : UInt64) :
    List (Option CriticalMessage × VehicleStateData) :=
  [some .steering, some .mdps, some .wheelSpeeds, some .tcs].map fun message =>
    (message, { laneKeepButtonEvents := laneKeepButtonEvents })

def writeAll (laneKeepButtonEvents : UInt64) : List SamplingEvent :=
  [.command { lateral := .zero, acceleration := .zero }, .receiveFrames
      (criticalFrames laneKeepButtonEvents), .parseFrame, .parseFrame, .parseFrame, .parseFrame,
    .parseFrame, .readHealth fixturePanda, .storeHealth true]

def copyAll : List SamplingEvent := [.copyCommand, .copyHealth, .snapshot]

def activated : List SamplingEvent :=
  writeAll 0 ++ [.capture] ++ copyAll ++ [.requestArm true, .update] ++
    writeAll 1 ++ [.capture] ++ copyAll ++ [.update]

def SamplingState.after (events : List SamplingEvent) : SamplingState :=
  ((samplingSystem actuationNode).exec { clock := fixtureNow } events).getD { clock := 0 }

/-- A health poll that is read and stored between the capture and the copy. -/
def overtakingPoll : List SamplingEvent :=
  [.copyCommand, .advance 1, .readHealth fixturePanda, .storeHealth true, .copyHealth, .snapshot]

theorem undisturbed_iteration_fresh :
    let before := SamplingState.after activated
    let start := SamplingState.after (activated ++ [.capture])
    AllFresh actuationNode fixtureNow before.commands.latestCommand before.latestHealth
        before.parser ↔
      (samplingSystem actuationNode).Meets
        (fun state event => ¬ state.Overtakes actuationNode event) start copyAll := by
  have reached : (samplingSystem actuationNode).exec { clock := fixtureNow } activated =
      some (SamplingState.after activated) := by decide +kernel
  have captured : (samplingSystem actuationNode).step (SamplingState.after activated) .capture =
      some (SamplingState.after (activated ++ [.capture])) := by decide +kernel
  have ran : (samplingSystem actuationNode).exec (SamplingState.after (activated ++ [.capture]))
      copyAll = some (SamplingState.after (activated ++ .capture :: copyAll)) := by decide +kernel
  exact (fresh_iff_not_overtaken actuationNode fixtureNow activated copyAll reached captured
    (by decide) ran (by decide +kernel)
    ⟨by decide +kernel, by decide +kernel, by decide +kernel,
      fun message => by cases message <;> decide +kernel⟩).1

/-- An active supervisor disconnects and disarms although every sample is in time: the newer
health sample is later than `now`. -/
theorem overtaking_poll_disconnects :
    let before := SamplingState.after activated
    let state := SamplingState.after (activated ++ .capture :: overtakingPoll)
    let finish := SamplingState.after (activated ++ .capture :: overtakingPoll ++ [.update])
    before.decision.state = .active ∧
      (samplingSystem actuationNode).exec { clock := fixtureNow }
        (activated ++ .capture :: overtakingPoll) = some state ∧
      state.control = .sampled fixtureNow state.commands.latestCommand state.latestHealth
        state.parser ∧
      StampedInTime actuationNode fixtureNow state.commands.latestCommand state.latestHealth
        state.parser ∧
      SafetySupervisor.pandaFresh actuationNode.safety fixtureNow before.latestHealth = true ∧
      SafetySupervisor.pandaFresh actuationNode.safety fixtureNow state.latestHealth = false ∧
      DeclaresTimeout state.supervisor finish.decision ∧
      finish.decision.state = .disconnected ∧ finish.supervisor.armRequested = false := by
  refine ⟨by decide +kernel, by decide +kernel, by decide +kernel,
    ⟨by decide +kernel, by decide +kernel, by decide +kernel,
      fun message => by cases message <;> decide +kernel⟩, by decide +kernel, by decide +kernel,
    Or.inl (by decide +kernel), by decide +kernel, by decide +kernel⟩

end Ioniq5Ecan
