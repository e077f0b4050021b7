import Ioniq5Ecan.Vehicle.DirectTorque

/-! # The slew over runs

From one frame to the next the torque moves inside the slew's interval.  Behind
zero that interval ends `torque_rate_down` from the last torque, not
`torque_rate_up` from zero, so a frame may overshoot; `slew_bounded_iff` says that
nothing else breaks the bound. -/
set_option autoImplicit false
namespace Ioniq5Ecan

open Library (Double Arithmetic CallMachine)

namespace CommandAdapter

/-- The rates on both sides of zero: the magnitude grows by at most `up`, restarts from zero on
the other side, and shrinks by at most `down` on its own side. -/
structure SlewBounded (up down before after : Int) : Prop where
  grows : |after| ≤ |before| + up
  crosses : 0 < before ∧ after < 0 ∨ before < 0 ∧ 0 < after → |after| ≤ up
  shrinks : 0 < before ∧ 0 ≤ after ∨ before < 0 ∧ after ≤ 0 → |before| - down ≤ |after|

theorem slewBounded_parts {up down before after : Int} : SlewBounded up down before after ↔
    (|after| ≤ |before| + up) ∧ (0 < before ∧ after < 0 ∨ before < 0 ∧ 0 < after → |after| ≤ up) ∧
      (0 < before ∧ 0 ≤ after ∨ before < 0 ∧ after ≤ 0 → |before| - down ≤ |after|) :=
  ⟨fun bounded => ⟨bounded.grows, bounded.crosses, bounded.shrinks⟩,
    fun bounded => ⟨bounded.1, bounded.2.1, bounded.2.2⟩⟩

instance (up down before after : Int) : Decidable (SlewBounded up down before after) :=
  decidable_of_iff _ slewBounded_parts.symm

/-- The wanted torque lies behind zero, further than one rate, and the other rate reaches there. -/
def Overshoots (up down last desired : Int) : Prop :=
  (0 < last ∧ desired < 0 ∨ last < 0 ∧ 0 < desired) ∧ up < |desired| ∧ up < down - |last|

instance (up down last desired : Int) : Decidable (Overshoots up down last desired) :=
  inferInstanceAs (Decidable (_ ∧ _))

section Slew
variable {self : CommandAdapter}

theorem slewBounded_iff (rates : 1 ≤ self.config.torqueRateUp ∧ 1 ≤ self.config.torqueRateDown)
    (desired : Int) :
    SlewBounded self.config.torqueRateUp self.config.torqueRateDown self.lastTorque
        (self.applyTorqueSlew desired) ↔
      ¬ Overshoots self.config.torqueRateUp self.config.torqueRateDown self.lastTorque desired := by
  unfold applyTorqueSlew clampInt Overshoots
  dsimp only
  generalize self.config.torqueRateUp = up at *
  generalize self.config.torqueRateDown = down at *
  generalize self.lastTorque = last at *
  rw [slewBounded_parts]
  simp only [Int.abs_eq_natAbs]
  split_ifs
  all_goals omega

end Slew

/-! ## Frame after frame -/

def frames (answers : List (Except String ControlOutput)) : List ControlOutput :=
  answers.filterMap Except.toOption

/-- Every frame that steers keeps the rates from the frame before it. -/
def SteadySlew (config : CommandAdapterConfig) : Int → List ControlOutput → Prop
  | _, [] => True
  | before, frame :: rest =>
      (frame.lateralActive = true →
        SlewBounded config.torqueRateUp config.torqueRateDown before frame.steeringTorque) ∧
      SteadySlew config frame.steeringTorque rest

instance decidableSteadySlew (config : CommandAdapterConfig) :
    ∀ (before : Int) (outputs : List ControlOutput), Decidable (SteadySlew config before outputs)
  | _, [] => isTrue trivial
  | _, frame :: rest =>
      let _ := decidableSteadySlew config frame.steeringTorque rest
      inferInstanceAs (Decidable (_ ∧ _))

/-- The call steers, with a torque that overshoots. -/
def Overshot (arithmetic : Arithmetic) (adapter : CommandAdapter) (call : AdapterCall) : Prop :=
  call.valid = true ∧ call.lateralAllowed = true ∧
    Overshoots adapter.config.torqueRateUp adapter.config.torqueRateDown adapter.lastTorque
      ((adapter.started call.vehicle).limitedTorque arithmetic call.command call.vehicle
        (period adapter.config call.dtSeconds))

instance (arithmetic : Arithmetic) (adapter : CommandAdapter) (call : AdapterCall) :
    Decidable (Overshot arithmetic adapter call) :=
  inferInstanceAs (Decidable (_ ∧ _))

structure Ready (config : CommandAdapterConfig) (adapter : CommandAdapter) : Prop where
  config : adapter.config = config
  limited : adapter.Limited
  idle : adapter.initialized = false → adapter.lastTorque = 0

section Frames
variable {arithmetic : Arithmetic} {config : CommandAdapterConfig} {adapter : CommandAdapter}
  {call : AdapterCall}

theorem created_ready (created : create config = .ok adapter) :
    Ready config adapter ∧ adapter.lastTorque = 0 := by
  obtain ⟨same, limited⟩ := create_limited created
  have fresh : adapter.lastTorque = 0 := by
    unfold create at created
    split_ifs at created
    cases created
    rfl
  exact ⟨⟨same, limited, fun _ => fresh⟩, fresh⟩

theorem Ready.started (ready : Ready config adapter) (vehicle : VehicleStateData) :
    Ready config (adapter.started vehicle) ∧
      (adapter.started vehicle).lastTorque = adapter.lastTorque ∧
      (adapter.started vehicle).initialized = true := by
  unfold CommandAdapter.started
  cases initialized : adapter.initialized with
  | true => exact ⟨ready, rfl, initialized⟩
  | false =>
      exact ⟨⟨ready.config, ready.limited.reset vehicle, fun _ => rfl⟩, (ready.idle initialized).symm,
        rfl⟩

theorem steer_initialized {command : CommandSample} {vehicle : VehicleStateData} {dt : Double}
    {output : ControlOutput} :
    (adapter.steer arithmetic command vehicle dt output).1.initialized = adapter.initialized := by
  have desired := (@desiredTorque_counter arithmetic adapter command vehicle dt).1
  unfold steer updateSteeringRequest
  dsimp only
  split
  · exact desired
  · exact desired

theorem steered_ready (ready : Ready config adapter) :
    Ready config (steered arithmetic adapter call).1 ∧
      (steered arithmetic adapter call).1.lastTorque =
        (steered arithmetic adapter call).2.steeringTorque ∧
      (steered arithmetic adapter call).2.lateralActive = true ∧
      (SlewBounded config.torqueRateUp config.torqueRateDown adapter.lastTorque
          (steered arithmetic adapter call).2.steeringTorque ↔
        ¬ Overshoots config.torqueRateUp config.torqueRateDown adapter.lastTorque
          ((adapter.started call.vehicle).limitedTorque arithmetic call.command call.vehicle
            (period adapter.config call.dtSeconds))) := by
  obtain ⟨startReady, last, initialized⟩ := ready.started call.vehicle
  have stepped := @steer_stepped arithmetic (adapter.started call.vehicle) call.command call.vehicle
    (period adapter.config call.dtSeconds) startReady.limited
    ((adapter.started call.vehicle).longitudinalOutput arithmetic call.command call.vehicle
      call.longitudinalAllowed)
  refine ⟨⟨stepped.config.trans startReady.config, stepped.limited, fun uninitialized => ?_⟩,
    stepped.torque.symm, rfl, ?_⟩
  · rw [show (steered arithmetic adapter call).1.initialized = _ from steer_initialized,
      initialized] at uninitialized
    cases uninitialized
  · unfold steered
    rw [steer_torque, ← last, ← startReady.config]
    exact slewBounded_iff startReady.limited.rates _

theorem released_ready (ready : Ready config adapter) :
    Ready config (released arithmetic adapter call).1 ∧
      (released arithmetic adapter call).1.lastTorque =
        (released arithmetic adapter call).2.steeringTorque ∧
      (released arithmetic adapter call).2.lateralActive = false := by
  refine ⟨?_, ?_, ?_⟩
  · rw [released_reset]
    exact ⟨ready.config, ready.limited.reset _, fun _ => rfl⟩
  · rfl
  · unfold released releaseSteering longitudinalOutput
    cases call.longitudinalAllowed with
    | true => rfl
    | false => rfl

theorem frames_ok (answer : ControlOutput) (rest : List (Except String ControlOutput)) :
    frames (.ok answer :: rest) = answer :: frames rest := rfl

theorem frames_error (what : String) (rest : List (Except String ControlOutput)) :
    frames (.error what :: rest) = frames rest := rfl

theorem steadySlew_iff (calls : List AdapterCall) :
    ∀ adapter : CommandAdapter, Ready config adapter →
      (SteadySlew config adapter.lastTorque (frames ((machine arithmetic).answers adapter calls)) ↔
        (machine arithmetic).Quiet (Overshot arithmetic) adapter calls) := by
  induction calls with
  | nil => intro adapter _; exact Iff.rfl
  | cons call rest ih =>
      intro adapter ready
      rw [CallMachine.answers, CallMachine.Quiet]
      cases valid : call.valid with
      | false =>
          -- A call that throws sends no frame and keeps the torque.
          have quiet : ¬ Overshot arithmetic adapter call := by
            intro overshot
            rw [overshot.1] at valid
            cases valid
          rw [and_iff_right quiet]
          obtain ⟨startReady, last, _⟩ := ready.started call.vehicle
          obtain ⟨what, thrown | thrown⟩ := @call_invalid arithmetic adapter call valid
          · rw [thrown, frames_error]
            exact ih adapter ready
          · rw [thrown, frames_error, ← last]
            exact ih _ startReady
      | true =>
          cases on : call.lateralAllowed with
          | false =>
              obtain ⟨next, torque, inactive⟩ := @released_ready arithmetic config adapter call ready
              have quiet : ¬ Overshot arithmetic adapter call := by
                intro overshot
                rw [overshot.2.1] at on
                cases on
              rw [call_released valid on, frames_ok, SteadySlew, inactive, ← torque,
                and_iff_right quiet]
              rw [and_iff_right Bool.false_ne_true.elim]
              exact ih _ next
          | true =>
              obtain ⟨next, torque, active, bounded⟩ :=
                @steered_ready arithmetic config adapter call ready
              have overshoots : Overshot arithmetic adapter call ↔
                  Overshoots config.torqueRateUp config.torqueRateDown adapter.lastTorque
                    ((adapter.started call.vehicle).limitedTorque arithmetic call.command
                      call.vehicle (period adapter.config call.dtSeconds)) := by
                unfold Overshot
                rw [valid, on, ready.config, and_iff_right rfl, and_iff_right rfl]
              rw [call_steered valid on, frames_ok, SteadySlew, overshoots, ← bounded, ← torque]
              exact and_congr ⟨fun steady => steady active, fun steady _ => steady⟩ (ih _ next)

/-- The frames of a run keep the rates exactly when no call of it overshoots. -/
theorem slew_bounded_iff {config : CommandAdapterConfig} {adapter : CommandAdapter}
    (created : create config = .ok adapter) (calls : List AdapterCall) :
    SteadySlew config 0 (frames ((machine arithmetic).answers adapter calls)) ↔
      (machine arithmetic).Quiet (Overshot arithmetic) adapter calls := by
  have ready := created_ready created
  rw [← ready.2]
  exact steadySlew_iff calls adapter ready.1

/-- One unit of magnitude a frame, and the whole range back. -/
def unevenConfig : CommandAdapterConfig :=
  { directConfig with torqueRateUp := 1, torqueRateDown := 2 * kMaxValidTorque }

def unevenAdapter : CommandAdapter := { config := unevenConfig }

theorem uneven_created : create unevenConfig = .ok unevenAdapter := by
  decide +kernel

theorem uneven_run_on_one_side :
    SteadySlew unevenConfig 0 (frames ((machine (.exact id id)).answers unevenAdapter
        [directCall 5, directCall 9, directCall 0])) ↔
      (machine (.exact id id)).Quiet (Overshot (.exact id id)) unevenAdapter
        [directCall 5, directCall 9, directCall 0] :=
  slew_bounded_iff uneven_created [directCall 5, directCall 9, directCall 0]

/-- From a torque of 1 to -1021 in one frame. -/
theorem uneven_run_overshoots :
    ¬ SteadySlew unevenConfig 0 (frames ((machine (.exact id id)).answers unevenAdapter
      [directCall 1, directCall (-2000)])) := by
  decide +kernel

/-! ## Rates that never overshoot -/

theorem ready_call (ready : Ready config adapter) (call : AdapterCall) :
    Ready config ((machine arithmetic).call adapter call).1 := by
  cases valid : call.valid with
  | false =>
      obtain ⟨what, thrown | thrown⟩ := @call_invalid arithmetic adapter call valid
      · rw [thrown]
        exact ready
      · rw [thrown]
        exact (ready.started call.vehicle).1
  | true =>
      cases on : call.lateralAllowed with
      | false =>
          rw [call_released valid on]
          exact (@released_ready arithmetic config adapter call ready).1
      | true =>
          rw [call_steered valid on]
          exact (@steered_ready arithmetic config adapter call ready).1

/-- Rates that differ by one downwards at most, or a range within one rate, never overshoot. -/
theorem quiet_of_rates (created : create config = .ok adapter)
    (rates : config.torqueRateDown ≤ config.torqueRateUp + 1 ∨
      config.maxTorque ≤ config.torqueRateUp) (calls : List AdapterCall) :
    (machine arithmetic).Quiet (Overshot arithmetic) adapter calls := by
  refine (machine arithmetic).quiet_of_invariant (Ready config) (Overshot arithmetic)
    (fun state call ready => ready_call ready call) (fun state call ready overshot => ?_) calls
    adapter (created_ready created).1
  obtain ⟨-, -, behind, far, reaches⟩ := overshot
  obtain ⟨startReady, -, -⟩ := ready.started call.vehicle
  have between := @limitedTorque_between arithmetic (state.started call.vehicle) call.command
    call.vehicle (period state.config call.dtSeconds) startReady.limited
  rw [ready.config] at far reaches between
  rw [startReady.config] at between
  rw [Int.abs_eq_natAbs] at far reaches
  omega

end Frames
end CommandAdapter
end Ioniq5Ecan
