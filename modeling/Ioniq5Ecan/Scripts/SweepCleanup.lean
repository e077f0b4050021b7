import Ioniq5Ecan.Scripts.SweepDiagnostics

/-! # The sweep from its arguments to its end

However the body of `main` ends, the sweep has been made and works, or nothing
was applied; from there the `finally` takes everything back that its own calls
allow it to. -/
set_option autoImplicit false
namespace Ioniq5Ecan.Sweep

open Library (Monitor Program Double)
open Library.Program (ask fetch change raise raiseIf Within)

section Attempt
variable {settings : SweepSettings} {made : Bool} {torque : Int} {floor : Nat}
  {state : SweepState} {view : SweepView}

/-! ## Before the diagnostics -/

theorem Resting.permit (resting : Resting settings made torque floor state view)
    (permitted : Bool) :
    Resting settings made torque floor state { view with permitted := permitted } :=
  ⟨⟨resting.opened, resting.disabled, resting.used⟩, resting.isMade, resting.still, resting.count⟩

theorem within_getVersion {post : String → SweepState → SweepView → Prop}
    {thrown : Failure → SweepState → SweepView → Prop} (opened : view.closed = false)
    (returns : ∀ version, post version state view) (raises : ∀ what, thrown what state view.missed) :
    Within (sweepMonitor settings) getVersion post thrown state view :=
  within_quiet opened trivial (fun _ => rfl) returns raises

theorem within_checkVersion (resting : Resting settings made torque floor state view) :
    Within (sweepMonitor settings) checkVersion
      (fun _ left later => Resting settings made torque floor left later)
      (fun _ left later => Resting settings made torque floor left later) state view := by
  simp only [checkVersion, Program.within_bind, Program.within_ite]
  apply within_getVersion resting.opened
  · intro version
    refine ⟨fun _ => ?_, fun _ => resting⟩
    exact within_getVersion resting.opened (fun _ => resting) fun _ => resting.missed
  · exact fun _ => resting.missed

theorem within_setUpAll (steps : List PandaSetup) :
    ∀ {view : SweepView}, Resting settings made torque floor state view →
      Within (sweepMonitor settings) (setUpAll steps)
        (fun _ left later => Resting settings made torque floor left later)
        (fun _ left later => Resting settings made torque floor left later) state view := by
  induction steps with
  | nil => exact fun resting => resting
  | cons step rest ih =>
      intro view resting
      simp only [setUpAll, Program.within_bind]
      exact within_quiet resting.opened trivial (fun _ => rfl) (fun _ => ih resting)
        fun _ => resting.missed

theorem within_awaitStanding {silenced : EcuId → Bool} (requireDrive : Bool) (rounds : Nat) :
    ∀ {view : SweepView} (standing : Standing),
      Diagnosed settings made torque floor silenced state view →
      Within (sweepMonitor settings) (awaitStanding requireDrive rounds standing)
        (fun _ left later => Diagnosed settings made torque floor silenced left later)
        (fun _ left later => Diagnosed settings made torque floor silenced left later)
        state view := by
  induction rounds with
  | zero => exact fun _ diagnosed => diagnosed
  | succ rounds ih =>
      intro view standing diagnosed
      simp only [awaitStanding, Program.within_bind]
      apply within_canRecv diagnosed.opened
      · intro frames
        have seen := diagnosed.saw frames
        rw [Program.within_ite]
        exact ⟨fun _ => seen, fun _ => ih _ seen⟩
      · exact fun _ => diagnosed.missed

/-- The template that a speed test needs was received. -/
theorem within_requireStationary {silenced : EcuId → Bool} {requireDrive : Bool}
    (diagnosed : Diagnosed settings made torque floor silenced state view) :
    Within (sweepMonitor settings) (requireStationaryBeforeAdasDisable requireDrive)
      (fun template left later => Diagnosed settings made torque floor silenced left later ∧
        (requireDrive = true → template.isSome = true))
      (fun _ left later => Diagnosed settings made torque floor silenced left later)
      state view := by
  simp only [requireStationaryBeforeAdasDisable, Program.within_bind, Program.within_raiseIf,
    Program.within_pure]
  apply within_loopRounds diagnosed.opened
  · intro rounds
    refine Program.within_mono (within_awaitStanding requireDrive rounds {} diagnosed) ?_
      fun _ _ _ kept => kept
    intro standing left later kept
    refine ⟨fun _ => kept, fun _ => ⟨fun _ => kept, fun _ => ⟨fun _ => kept, fun _ =>
      ⟨fun _ => kept, fun template => ⟨kept, fun needed => ?_⟩⟩⟩⟩⟩
    simpa [needed] using template
  · exact fun _ => diagnosed.missed

theorem within_disableAll (ecus : List EcuId) :
    ∀ {state : SweepState} {view : SweepView}, Resting settings made torque floor state view →
      (∀ ecu ∈ ecus, ecu ∈ settings.ecuSessions) →
      Within (sweepMonitor settings) (disableAll ecus)
        (fun _ left later => Resting settings made torque floor left later ∧
          ∀ asked, view.silenced asked = true ∨ asked ∈ ecus → later.silenced asked = true)
        (fun _ left later => Resting settings made torque floor left later) state view := by
  induction ecus with
  | nil => exact fun resting _ => ⟨resting, fun asked silent => silent.resolve_right (by simp)⟩
  | cons ecu rest ih =>
      intro state view resting used
      simp only [disableAll, Program.within_bind]
      refine Program.within_mono (within_disable resting (used ecu (List.mem_cons_self ..))) ?_
        fun _ _ _ kept => kept
      intro _ middle seen diagnosed
      refine Program.within_mono (ih diagnosed.toResting
        fun other member => used other (List.mem_cons_of_mem _ member)) ?_ fun _ _ _ kept => kept
      rintro _ left later ⟨kept, silenced⟩
      refine ⟨kept, fun asked silent => silenced asked ?_⟩
      rw [diagnosed.silent, List.mem_cons] at *
      simp only [alsoSilenced, Bool.or_eq_true, beq_iff_eq]
      tauto

/-! ## The body of main -/

/-- Where the body of `main` has ended. -/
structure Ended (settings : SweepSettings) (state : SweepState) (view : SweepView) : Prop
    extends Tied settings state view where
  working : state.made = true → Working settings state view
  idle : state.made = false → view.torque = 0

theorem Resting.ended (resting : Resting settings false 0 floor state view) :
    Ended settings state view :=
  ⟨resting.toTied, fun made => absurd (resting.isMade.symm.trans made) Bool.false_ne_true,
    fun _ => resting.still⟩

theorem Working.ended (working : Working settings state view) : Ended settings state view :=
  ⟨working.1.toTied, fun _ => working,
    fun unmade => absurd (unmade.symm.trans working.1.made) Bool.false_ne_true⟩

/-- The sweep starts without a torque, with the ECUs of the test silent. -/
theorem Resting.makeSweep (resting : Resting settings false 0 floor state view)
    (accepted : settings.Accepted) (test : view.InTest) {template : Option (List UInt8)}
    (needed : settings.longitudinalTest = true → template.isSome = true) (health : SweepHealth) :
    Within (sweepMonitor settings) (makeSweep template health)
      (fun _ left later => Working settings left later ∧ Idle left later)
      (fun _ left later => Working settings left later) state view := by
  have bound : -270 ≤ (0 : Int) ∧ (0 : Int) ≤ 270 := by decide
  refine ⟨⟨⟨⟨resting.opened, fun ecu silent => ?_, resting.used⟩, rfl, test, bound, .inl rfl,
    by rintro _ ⟨⟩, needed, accepted.standing, accepted⟩, resting.still⟩, resting.still⟩
  have flagged := resting.disabled ecu silent
  cases ecu <;> exact flagged

theorem within_attempt (accepted : settings.Accepted)
    (resting : Resting settings false 0 floor state view) :
    Within (sweepMonitor settings) (attempt settings) (fun _ left later => Ended settings left later)
      (fun _ left later => Ended settings left later) state view := by
  simp only [attempt, checkHarness, Program.within_bind, Program.within_raiseIf]
  refine Program.within_mono (within_checkVersion resting) ?_ fun _ _ _ kept => kept.ended
  intro _ state view resting
  apply within_readHealth resting.opened ?_ fun _ => resting.missed.ended
  intro health
  have permitted := resting.permit health.controlsAllowed
  refine ⟨fun _ => permitted.ended, fun _ => ⟨fun _ => permitted.ended, fun _ => ?_⟩⟩
  refine Program.within_mono (within_setUpAll _ permitted) ?_ fun _ _ _ kept => kept.ended
  intro _ state view resting
  apply within_setSafetyMode resting.opened (.inl ⟨rfl, rfl⟩) ?_
    fun _ => (resting.changedMode _ _ _).missed.ended
  refine Program.within_mono (within_requireStationary resting.diagnosed) ?_
    fun _ _ _ kept => kept.toResting.ended
  rintro template state view ⟨diagnosed, needed⟩
  refine Program.within_mono (within_disableAll settings.ecuSessions diagnosed.toResting
    fun _ used => used) ?_ fun _ _ _ kept => kept.ended
  rintro _ state view ⟨resting, silenced⟩
  apply within_setSafetyMode resting.opened
    (.inr (.inr ⟨rfl, rfl, fun ecu used => silenced ecu (.inr used)⟩)) ?_
    fun _ => (resting.changedMode _ _ _).missed.ended
  have changed := resting.changedMode hyundaiCanFd ecanSteeringTestParam true
  apply within_readHealth changed.opened ?_ fun _ => changed.missed.ended
  intro health
  have permitted := changed.permit health.controlsAllowed
  refine ⟨fun _ => permitted.ended, fun _ => ?_⟩
  refine Program.within_mono (permitted.makeSweep accepted rfl needed health) ?_
    fun _ _ _ kept => kept.ended
  rintro _ state view ⟨working, idle⟩
  exact Program.within_mono (keeps_run accepted state view working idle)
    (fun _ _ _ kept => kept.1.ended) fun _ _ _ kept => kept.ended

end Attempt

/-! ## The finally -/

section CleanUp
variable {settings : SweepSettings} {made : Bool} {torque : Int} {floor : Nat}
  {state : SweepState} {view : SweepView}

/-- A warning swallows every exception but the key interrupt. -/
theorem within_warned {program : SweepProgram Unit} {post : Unit → SweepState → SweepView → Prop}
    {thrown : Failure → SweepState → SweepView → Prop}
    (interrupted : ∀ left later, thrown .interrupt left later)
    (ends : Within (sweepMonitor settings) program post (fun _ => post ()) state view) :
    Within (sweepMonitor settings) (warned program) post thrown state view := by
  simp only [warned, Program.within_catching, Program.within_ite]
  refine Program.within_mono ends (fun _ _ _ kept => kept) ?_
  intro what left later kept
  exact ⟨fun isInterrupt => isInterrupt ▸ interrupted left later, fun _ => kept⟩

/-- Only the key interrupt leaves the `finally` before `close`. -/
def Interrupted (what : Failure) (_ : SweepState) (later : SweepView) : Prop :=
  what = .interrupt ∨ later.closed = true ∧ later.standby = true

theorem interrupted_interrupt (left : SweepState) (later : SweepView) :
    Interrupted .interrupt left later := .inl rfl

/-- The torque is zero after the ramp, or a call has failed. -/
theorem within_rampAway (ended : Ended settings state view) :
    Within (sweepMonitor settings) ((warned (rampDown settings)).runIf state.made)
      (fun _ left later => Resting settings left.made later.torque view.failures left later ∧
        (later.failures = view.failures → later.torque = 0))
      Interrupted state view := by
  rw [Program.within_runIf]
  constructor
  · intro made
    apply within_warned interrupted_interrupt
    refine Program.within_mono (within_rampDown (ended.working made)) ?_ ?_
    · rintro _ left later ⟨⟨working, idle⟩, same⟩
      exact ⟨⟨working.1.toTied, rfl, rfl, same.ge⟩, fun _ => idle⟩
    · rintro _ left later ⟨working, more⟩
      exact ⟨⟨working.1.toTied, rfl, rfl, more.le⟩, fun same => absurd same more.ne'⟩
  · exact fun unmade => ⟨⟨ended.toTied, rfl, rfl, le_rfl⟩, fun _ => ended.idle unmade⟩

theorem within_restoreAll (ecus : List EcuId) :
    ∀ {state : SweepState} {view : SweepView},
      Resting settings made torque floor state view →
      Within (sweepMonitor settings) (restoreAll ecus)
        (fun _ left later => Resting settings made torque floor left later ∧
          view.failures ≤ later.failures ∧
          ∀ asked, later.silenced asked = true →
            view.silenced asked = true ∧ (asked ∈ ecus → view.failures < later.failures))
        Interrupted state view := by
  induction ecus with
  | nil => exact fun resting => ⟨resting, le_rfl, fun _ silent => ⟨silent, by simp⟩⟩
  | cons ecu rest ih =>
      intro state view resting
      simp only [restoreAll, Program.within_bind]
      apply within_warned interrupted_interrupt
      have counted : Resting settings made torque view.failures state view :=
        ⟨resting.toTied, resting.isMade, resting.still, le_rfl⟩
      have next {middle : SweepState} {seen : SweepView}
          (kept : Resting settings made torque view.failures middle seen ∧ Eased ecu view seen) :
          Within (sweepMonitor settings) (restoreAll rest)
            (fun _ left later => Resting settings made torque floor left later ∧
              view.failures ≤ later.failures ∧
              ∀ asked, later.silenced asked = true →
                view.silenced asked = true ∧ (asked ∈ ecu :: rest → view.failures < later.failures))
            Interrupted middle seen := by
        obtain ⟨seenResting, eased⟩ := kept
        have floored : Resting settings made torque floor middle seen :=
          ⟨seenResting.toTied, seenResting.isMade, seenResting.still,
            resting.count.trans seenResting.count⟩
        refine Program.within_mono (ih floored) ?_ fun _ _ _ kept => kept
        rintro _ left later ⟨leftResting, more, silent⟩
        refine ⟨leftResting, seenResting.count.trans more, fun asked still => ?_⟩
        obtain ⟨wasSilent, failed⟩ := silent asked still
        obtain ⟨first, failedHere⟩ := eased asked wasSilent
        refine ⟨first, fun member => ?_⟩
        rcases List.mem_cons.mp member with isEcu | later'
        · exact lt_of_lt_of_le (failedHere isEcu) more
        · exact lt_of_le_of_lt seenResting.count (failed later')
      exact Program.within_mono (within_restore counted ecu) (fun _ _ _ kept => next kept)
        fun _ _ _ kept => next kept

/-- The Panda was closed after `NO_OUTPUT` was asked for.  If no call of the `finally` has failed,
the last torque is zero, no ECU is silent, and the mode is set. -/
structure CleanedUp (before later : SweepView) : Prop where
  closed : later.closed = true
  standby : later.standby = true
  whole : later.failures = before.failures →
    later.torque = 0 ∧ (∀ ecu, later.silenced ecu = false) ∧ later.mode = some (noOutput, 0)

theorem within_closePanda {post : Unit → SweepState → SweepView → Prop}
    {thrown : Failure → SweepState → SweepView → Prop} (opened : view.closed = false)
    (returns : post () state { view with closed := true })
    (raises : ∀ what, thrown what state ({ view with closed := true } : SweepView).missed) :
    Within (sweepMonitor settings) closePanda post thrown state view :=
  within_call opened trivial (fun _ => returns) raises

theorem within_cleanUp (ended : Ended settings state view) :
    Within (sweepMonitor settings) (cleanUp settings)
      (fun _ _ later => CleanedUp view later) Interrupted state view := by
  simp only [cleanUp, Program.within_bind, Program.within_fetch]
  refine Program.within_mono (within_rampAway ended) ?_ fun _ _ _ kept => kept
  rintro _ first ramped ⟨resting, still⟩
  have afterBeat {seen : SweepView} (resting : Resting settings first.made ramped.torque
        view.failures first seen)
      (still : seen.failures = view.failures → ramped.torque = 0) :
      Within (sweepMonitor settings) (restoreAll settings.ecuSessions.reverse)
        (fun _ left later => Within (sweepMonitor settings) (warned (setSafetyMode noOutput 0))
          (fun _ left later => Within (sweepMonitor settings) closePanda
            (fun _ _ later => CleanedUp view later) Interrupted left later)
          Interrupted left later)
        Interrupted first seen := by
    refine Program.within_mono (within_restoreAll _ resting) ?_ fun _ _ _ kept => kept
    rintro _ left later ⟨restored, more, silent⟩
    apply within_warned interrupted_interrupt
    apply within_setSafetyMode restored.opened (.inr (.inl ⟨rfl, rfl⟩))
    · apply within_closePanda (restored.changedMode _ _ _).opened
      · refine ⟨rfl, rfl, fun same => ?_⟩
        have least : view.failures ≤ seen.failures := resting.count
        have noneFailed : later.failures = view.failures := same
        refine ⟨restored.still.trans (still (by omega)), fun ecu => ?_, rfl⟩
        by_contra stillSilent
        have isSilent : later.silenced ecu = true := Bool.eq_true_of_not_eq_false stillSilent
        have failed := (silent ecu isSilent).2 (List.mem_reverse.mpr (restored.used ecu isSilent))
        omega
      · exact fun _ => .inr ⟨rfl, rfl⟩
    · intro _
      apply within_closePanda (restored.changedMode _ _ _).missed.opened
      · refine ⟨rfl, rfl, fun same => ?_⟩
        have one : later.failures + 1 = view.failures := same
        have least := restored.count
        omega
      · exact fun _ => .inr ⟨rfl, rfl⟩
  apply within_warned interrupted_interrupt
  apply within_sendHeartbeat resting.opened (by rintro ⟨⟩)
  · exact afterBeat resting still
  · refine fun _ => afterBeat resting.missed fun same => ?_
    have one : ramped.failures + 1 = view.failures := same
    have least := resting.count
    omega

end CleanUp

/-! ## main -/

theorem number_between {value : Double} {lower upper : Rat}
    (inside : SweepArgs.outside value (.finite lower) (.finite upper) = false) :
    lower ≤ SweepArgs.number value ∧ SweepArgs.number value ≤ upper := by
  cases value with
  | finite value =>
      simpa [SweepArgs.outside, SweepArgs.number, Double.isFinite, Double.lt] using inside
  | infinite negative => simp [SweepArgs.outside, Double.isFinite] at inside
  | nan => simp [SweepArgs.outside, Double.isFinite] at inside

theorem driven_of_positive {value : Double} (positive : 0 < SweepArgs.number value) :
    Double.zero.lt value = true := by
  cases value with
  | finite value => simpa [SweepArgs.number, Double.zero, Double.lt] using positive
  | infinite negative => exact absurd positive (lt_irrefl 0)
  | nan => exact absurd positive (lt_irrefl 0)

theorem accepted_of_refused {args : SweepArgs} (accepts : args.refused = none) :
    args.settings.Accepted := by
  have clear := List.find?_eq_none.mp (Option.map_eq_none_iff.mp accepts)
  have accel := clear _ (List.mem_of_getElem? (i := 9) rfl)
  have decel := clear _ (List.mem_of_getElem? (i := 10) rfl)
  have rolling := clear _ (List.mem_of_getElem? (i := 14) rfl)
  refine ⟨fun longitudinal => ?_, (number_between (Bool.eq_false_of_not_eq_true accel)).1,
    (number_between (Bool.eq_false_of_not_eq_true decel)).1⟩
  have driven := driven_of_positive (of_decide_eq_true longitudinal)
  have tested : args.rollingTest = true := by simpa [driven] using rolling
  exact tested

theorem within_openPanda {settings : SweepSettings} {state : SweepState} {view : SweepView}
    {serial : String} {post : Unit → SweepState → SweepView → Prop}
    {thrown : Failure → SweepState → SweepView → Prop} (opened : view.closed = false)
    (returns : post () state view) (raises : ∀ what, thrown what state view.missed) :
    Within (sweepMonitor settings) (openPanda serial) post thrown state view :=
  within_quiet opened trivial (fun _ => rfl) (fun _ => returns) raises

theorem within_handled {settings : SweepSettings} (accepted : settings.Accepted) :
    Within (sweepMonitor settings) (handled settings)
      (fun code left later => (code = 0 ∨ code = 1) ∧ Ended settings left later)
      (fun _ left later => Ended settings left later) {} {} := by
  have resting : Resting settings false 0 0 {} {} :=
    ⟨⟨rfl, by rintro _ ⟨⟩, by rintro _ ⟨⟩⟩, rfl, rfl, le_rfl⟩
  simp only [handled, Program.within_catching, Program.within_bind, Program.within_pure]
  refine Program.within_mono (within_attempt accepted resting) (fun _ _ _ kept => ⟨by simp, kept⟩) ?_
  intro what left later kept
  cases what with
  | sweepError text => exact ⟨.inr rfl, kept⟩
  | osError text => exact ⟨.inr rfl, kept⟩
  | exception text => exact kept
  | interrupt => exact kept

/-- The Panda could not be opened. -/
def Unopened (state : SweepState) (later : SweepView) : Prop :=
  state.made = false ∧ later = ({} : SweepView).missed

/-- Whatever the Panda, the bus and the clock answer and whichever calls raise: the sweep only asks
what the monitor allows.  Unless the Panda could not be opened, or the key interrupt came into the
`finally`, it ends with `NO_OUTPUT` asked for and the Panda closed; and where no call of the `finally`
fails, with a torque of zero, no ECU silent and the mode set. -/
theorem sweep_cleans_up (args : SweepArgs) (accepts : args.refused = none) :
    Within (sweepMonitor args.settings) (main args)
      (fun code _ later => (code = 0 ∨ code = 1) ∧ later.closed = true ∧ later.standby = true)
      (fun what left later => Interrupted what left later ∨ Unopened left later) {} {} ∧
    Within (sweepMonitor args.settings) (handled args.settings)
      (fun _ left later => Ended args.settings left later)
      (fun _ left later => Ended args.settings left later) {} {} ∧
    ∀ state view, Ended args.settings state view →
      Within (sweepMonitor args.settings) (cleanUp args.settings)
        (fun _ _ later => CleanedUp view later) Interrupted state view := by
  have body := within_handled (accepted_of_refused accepts)
  refine ⟨?_, Program.within_mono body (fun _ _ _ kept => kept.2) fun _ _ _ kept => kept,
    fun state view => within_cleanUp⟩
  simp only [main, Program.within_bind, Program.within_outcome]
  apply within_openPanda rfl
  · refine Program.within_mono body ?_ ?_
    · rintro code left later ⟨isCode, ended⟩
      refine Program.within_mono (within_cleanUp ended) ?_ fun _ _ _ kept => .inl kept
      exact fun _ _ _ cleaned => ⟨isCode, cleaned.closed, cleaned.standby⟩
    · intro what left later ended
      refine Program.within_mono (within_cleanUp ended) ?_ fun _ _ _ kept => .inl kept
      exact fun _ _ _ cleaned => .inl (.inr ⟨cleaned.closed, cleaned.standby⟩)
  · exact fun _ => .inr ⟨rfl, rfl⟩

def benchArgs : SweepArgs where
  serial := "000000000000000000000000"
  rollingTest := true
  targetSpeedKph := .finite 10
  execute := true

/-- A straight acceleration to 10 km/h. -/
theorem bench_cleans_up :
    Within (sweepMonitor benchArgs.settings) (main benchArgs)
      (fun code _ later => (code = 0 ∨ code = 1) ∧ later.closed = true ∧ later.standby = true)
      (fun what left later => Interrupted what left later ∨ Unopened left later) {} {} :=
  (sweep_cleans_up benchArgs (by decide +kernel)).1

end Ioniq5Ecan.Sweep
