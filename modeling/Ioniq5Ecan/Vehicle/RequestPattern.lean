import Ioniq5Ecan.Library.DutyCycle
import Ioniq5Ecan.Vehicle.AdapterRuns

/-! # The request bit at large angles

`update_steering_request` is a duty cycle over the frames that steer at or above the
cutoff angle: the request is there for `steer_request_valid_frames` of them and
dropped for `steer_request_cut_frames`.  A frame without the lateral permission, or
below the angle, starts the cycle again. -/
set_option autoImplicit false
namespace Ioniq5Ecan

open Library (Double Arithmetic CallMachine DutyCycle)

namespace CommandAdapter

/-- A frame sent, with what decides its request. -/
structure RequestFrame where
  active : Bool
  high : Bool
  request : Bool
  deriving DecidableEq

def highAngle (config : CommandAdapterConfig) (call : AdapterCall) : Bool :=
  !call.vehicle.steeringAngleDeg.abs.lt config.steerRequestCutoffAngleDeg

/-- The frames of the answered updates; an update that throws sends none. -/
def requestFrames (config : CommandAdapterConfig) :
    List AdapterCall → List (Except String ControlOutput) → List RequestFrame
  | call :: calls, .ok output :: answers =>
      { active := output.lateralActive, high := highAngle config call,
        request := output.steeringRequest } :: requestFrames config calls answers
  | _ :: calls, .error _ :: answers => requestFrames config calls answers
  | _, _ => []

/-- What can be seen of the request in a list of frames. -/
structure RequestPattern (config : CommandAdapterConfig) (frames : List RequestFrame) : Prop where
  cut : ∀ before block behind, frames = before ++ block ++ behind → block ≠ [] →
    (∀ frame ∈ block, frame.active = true ∧ frame.request = false) →
    (∀ frame ∈ before.getLast?, ¬ (frame.active = true ∧ frame.request = false)) →
      block.length ≤ config.steerRequestCutFrames.toNat ∧
        ∃ earlier requested, before = earlier ++ requested ∧
          config.steerRequestValidFrames.toNat ≤ requested.length ∧
          ∀ frame ∈ requested, frame.active = true ∧ frame.request = true
  requested : ∀ before block behind, frames = before ++ block ++ behind →
    (∀ frame ∈ block, frame.active = true ∧ frame.high = true ∧ frame.request = true) →
      block.length ≤ config.steerRequestValidFrames.toNat

/-! ## The duty cycle -/

def requestCycle (config : CommandAdapterConfig) : DutyCycle where
  on := config.steerRequestValidFrames.toNat
  off := config.steerRequestCutFrames.toNat

def counts (config : CommandAdapterConfig) (call : AdapterCall) : Bool :=
  call.lateralAllowed && highAngle config call

def requestFrame (config : CommandAdapterConfig) (entry : AdapterCall × Bool) : RequestFrame where
  active := entry.1.lateralAllowed
  high := highAngle config entry.1
  request := entry.1.lateralAllowed && entry.2

section Pattern
variable {config : CommandAdapterConfig} {calls : List AdapterCall}

theorem pattern_of_cycle (positiveOn : 0 < config.steerRequestValidFrames.toNat)
    (positiveOff : 0 < config.steerRequestCutFrames.toNat) :
    RequestPattern config
      (((requestCycle config).run (counts config) 0 calls).map (requestFrame config)) := by
  constructor
  · intro before block behind split nonempty allCut leftmost
    obtain ⟨entries, last, whole, parts, rfl⟩ := List.map_eq_append_iff.mp split
    obtain ⟨first, middle, rfl, rfl, rfl⟩ := List.map_eq_append_iff.mp parts
    have hidden (entry : AdapterCall × Bool)
        (frame : (requestFrame config entry).active = true ∧
          (requestFrame config entry).request = false) : entry.2 = false := by
      obtain ⟨active, request⟩ := frame
      unfold requestFrame at active request
      dsimp only at active request
      rwa [active, Bool.true_and] at request
    have cut : ∀ entry ∈ middle, DutyCycle.Cut (counts config) entry := by
      intro entry member
      have off := hidden entry (allCut _ (List.mem_map_of_mem member))
      have inRun : entry ∈ (requestCycle config).run (counts config) 0 calls := by
        rw [whole]
        exact List.mem_append_left _ (List.mem_append_right _ member)
      exact ⟨DutyCycle.counted_of_cut calls 0 entry inRun off, off⟩
    have notCut : ∀ entry ∈ first.getLast?, ¬ DutyCycle.Cut (counts config) entry := by
      intro entry member isCut
      refine leftmost (requestFrame config entry) ?_ ?_
      · rw [List.getLast?_map, member]
        rfl
      · have active : entry.1.lateralAllowed = true := by
          have both := isCut.1
          unfold counts at both
          exact (Bool.and_eq_true_iff.mp both).1
        unfold requestFrame
        rw [active, isCut.2]
        exact ⟨rfl, rfl⟩
    obtain ⟨short, earlier, shown, rfl, length, allShown⟩ :=
      DutyCycle.cut_block positiveOn positiveOff whole (by simpa using nonempty) cut notCut
    refine ⟨by rwa [List.length_map], earlier.map (requestFrame config),
      shown.map (requestFrame config), List.map_append, ?_, ?_⟩
    · rw [List.length_map, length]
      rfl
    · intro frame member
      obtain ⟨entry, inside, rfl⟩ := List.mem_map.mp member
      obtain ⟨counted, visible⟩ := allShown entry inside
      have active : entry.1.lateralAllowed = true := by
        unfold counts at counted
        exact (Bool.and_eq_true_iff.mp counted).1
      unfold requestFrame
      rw [active, visible]
      exact ⟨rfl, rfl⟩
  · intro before block behind split all
    obtain ⟨entries, last, whole, parts, rfl⟩ := List.map_eq_append_iff.mp split
    obtain ⟨first, middle, rfl, rfl, rfl⟩ := List.map_eq_append_iff.mp parts
    rw [List.length_map]
    refine DutyCycle.shown_block positiveOff whole fun entry member => ?_
    obtain ⟨active, high, request⟩ := all _ (List.mem_map_of_mem member)
    unfold requestFrame at active high request
    dsimp only at active high request
    rw [active, Bool.true_and] at request
    refine ⟨?_, request⟩
    unfold counts
    rw [active, high]
    rfl

end Pattern

/-! ## The adapter runs through the cycle -/

section Runs
variable {arithmetic : Arithmetic} {config : CommandAdapterConfig} {adapter : CommandAdapter}
  {call : AdapterCall}

/-- What the constructor and the loaded parameters say of the counts. -/
structure Countable (config : CommandAdapterConfig) : Prop where
  valid : 89 ≤ config.steerRequestValidFrames.toNat
  cut : 1 ≤ config.steerRequestCutFrames.toNat ∧ config.steerRequestCutFrames.toNat ≤ 2
  int : config.steerRequestValidFrames.toNat < 2 ^ 31
  cutoff : Double.zero.lt config.steerRequestCutoffAngleDeg = true

theorem Countable.cycle (countable : Countable config) :
    (config.steerRequestValidFrames + config.steerRequestCutFrames).toNat =
      (requestCycle config).on + (requestCycle config).off := by
  obtain ⟨-, cut, int, -⟩ := countable
  rw [UInt32.toNat_add]
  exact Nat.mod_eq_of_lt (by omega)

/-- The counter stands at a count of the cycle. -/
structure Stands (config : CommandAdapterConfig) (count : Nat) (adapter : CommandAdapter) : Prop where
  same : adapter.config = config
  counter : adapter.highAngleFrames.toNat = count
  within : count < (requestCycle config).on + (requestCycle config).off
  idle : adapter.initialized = false → adapter.highAngleFrames = 0

theorem Stands.started {count : Nat} (stands : Stands config count adapter)
    (vehicle : VehicleStateData) :
    Stands config count (adapter.started vehicle) ∧
      (adapter.started vehicle).initialized = true := by
  unfold CommandAdapter.started
  cases initialized : adapter.initialized with
  | true => exact ⟨stands, initialized⟩
  | false =>
      have zero : count = 0 := by
        rw [← stands.counter, stands.idle initialized]
        rfl
      exact ⟨⟨stands.same, zero.symm, stands.within, fun _ => rfl⟩, rfl⟩

theorem steeringRequest_next (countable : Countable config) {count : Nat}
    (counter : adapter.highAngleFrames.toNat = count) (same : adapter.config = config)
    (within : count < (requestCycle config).on + (requestCycle config).off) :
    (adapter.updateSteeringRequest call.lateralAllowed
        call.vehicle.steeringAngleDeg).1.highAngleFrames.toNat =
        (requestCycle config).next (counts config) count call ∧
      (adapter.updateSteeringRequest call.lateralAllowed call.vehicle.steeringAngleDeg).2 =
        (call.lateralAllowed && (!counts config call || decide (count < (requestCycle config).on))) := by
  have cutoff : (config.steerRequestCutoffAngleDeg == .zero) = false := by
    apply beq_eq_false_iff_ne.mpr
    intro zero
    have positive := countable.cutoff
    rw [zero] at positive
    exact absurd positive (by decide)
  have cycle := countable.cycle
  have restarts : (!call.lateralAllowed || call.vehicle.steeringAngleDeg.abs.lt
      config.steerRequestCutoffAngleDeg) = !counts config call := by
    unfold counts highAngle
    rw [Bool.not_and, Bool.not_not]
  unfold updateSteeringRequest DutyCycle.next
  rw [same, cutoff, Bool.or_false, restarts]
  cases high : counts config call with
  | false =>
      rw [Bool.not_false, if_pos rfl, if_neg Bool.false_ne_true, Bool.true_or, Bool.and_true]
      exact ⟨rfl, rfl⟩
  | true =>
      have active : call.lateralAllowed = true := by
        unfold counts at high
        exact (Bool.and_eq_true_iff.mp high).1
      rw [Bool.not_true, if_neg Bool.false_ne_true, if_pos rfl, Bool.false_or, active,
        Bool.true_and]
      have added : (adapter.highAngleFrames + 1).toNat = count + 1 := by
        have range := countable.int
        have cutRange := countable.cut
        unfold requestCycle at within
        dsimp only at within
        rw [UInt32.toNat_add, counter]
        exact Nat.mod_eq_of_lt (by show count + 1 < 2 ^ 32; omega)
      constructor
      · rw [UInt32.toNat_mod, cycle, added]
      · have position : (adapter.highAngleFrames %
            (config.steerRequestValidFrames + config.steerRequestCutFrames)).toNat = count := by
          rw [UInt32.toNat_mod, cycle, counter]
          exact Nat.mod_eq_of_lt within
        rw [decide_eq_decide, UInt32.lt_iff_toNat_lt, position]
        rfl

theorem steeringRequest_initialized (active : Bool) (angle : Double) :
    (adapter.updateSteeringRequest active angle).1.initialized = adapter.initialized := by
  unfold updateSteeringRequest
  split
  · rfl
  · rfl

theorem next_within (countable : Countable config) (count : Nat) :
    (requestCycle config).next (counts config) count call <
      (requestCycle config).on + (requestCycle config).off := by
  have positive : 0 < (requestCycle config).on + (requestCycle config).off := by
    have valid := countable.valid
    unfold requestCycle
    dsimp only
    omega
  unfold DutyCycle.next
  split
  · exact Nat.mod_lt _ positive
  · exact positive

theorem call_stands (countable : Countable config) {count : Nat}
    (stands : Stands config count adapter) (valid : call.valid = true) :
    Stands config ((requestCycle config).next (counts config) count call)
        ((machine arithmetic).call adapter call).1 ∧
      ∃ answer, ((machine arithmetic).call adapter call).2 = .ok answer ∧
        { active := answer.lateralActive, high := highAngle config call,
          request := answer.steeringRequest } =
          requestFrame config
            (call, !counts config call || decide (count < (requestCycle config).on)) := by
  obtain ⟨started, initialized⟩ := stands.started call.vehicle
  have within := @next_within config call countable count
  cases on : call.lateralAllowed with
  | true =>
      rw [call_steered valid on]
      obtain ⟨same, -⟩ := @desiredTorque_keeps arithmetic (adapter.started call.vehicle) call.command
        call.vehicle (period adapter.config call.dtSeconds)
      obtain ⟨flag, counter⟩ := @desiredTorque_counter arithmetic (adapter.started call.vehicle)
        call.command call.vehicle (period adapter.config call.dtSeconds)
      unfold steered steer
      dsimp only
      generalize (adapter.started call.vehicle).desiredTorque arithmetic call.command call.vehicle
        (period adapter.config call.dtSeconds) = desired at same flag counter ⊢
      generalize desired.1.applyTorqueSlew _ = torque
      have next := @steeringRequest_next config { desired.1 with lastTorque := torque } call countable
        count (by rw [← started.counter, ← counter]) (same.trans started.same) stands.within
      rw [on] at next
      obtain ⟨kept, -⟩ := @steeringRequest_keeps { desired.1 with lastTorque := torque } true
        call.vehicle.steeringAngleDeg
      refine ⟨⟨kept.trans (same.trans started.same), next.1, within, fun idle => ?_⟩, _, rfl, ?_⟩
      · rw [steeringRequest_initialized] at idle
        rw [show desired.1.initialized = true from flag.trans initialized] at idle
        cases idle
      · unfold requestFrame
        rw [on, ← next.2]
  | false =>
      rw [call_released valid on]
      unfold released releaseSteering
      dsimp only
      have next := @steeringRequest_next config { adapter.started call.vehicle with
        torqueIntegral := .zero, previousTorqueError := .zero
        targetAngleDeg := call.vehicle.steeringAngleDeg, targetRateDegS := .zero, lastTorque := 0 }
        call countable count started.counter started.same stands.within
      rw [on] at next
      refine ⟨⟨started.same, next.1, within, fun idle => ?_⟩, _, rfl, ?_⟩
      · rw [steeringRequest_initialized] at idle
        rw [show _ = true from initialized] at idle
        cases idle
      · unfold requestFrame
        rw [on, ← next.2]
        cases call.longitudinalAllowed with
        | true => rfl
        | false => rfl

theorem frames_stand (countable : Countable config) (calls : List AdapterCall) :
    ∀ (adapter : CommandAdapter) (count : Nat), Stands config count adapter →
      requestFrames config calls ((machine arithmetic).answers adapter calls) =
          ((requestCycle config).run (counts config) count (calls.filter AdapterCall.valid)).map
            (requestFrame config) ∧
        ∃ last, Stands config last ((machine arithmetic).run adapter calls) := by
  induction calls with
  | nil => intro adapter count stands; exact ⟨rfl, count, stands⟩
  | cons call rest ih =>
      intro adapter count stands
      rw [CallMachine.answers, CallMachine.run]
      cases valid : call.valid with
      | false =>
          rw [List.filter_cons_of_neg (by simp [valid])]
          obtain ⟨what, thrown | thrown⟩ := @call_invalid arithmetic adapter call valid
          · rw [thrown]
            exact ih adapter count stands
          · rw [thrown]
            exact ih _ count (stands.started call.vehicle).1
      | true =>
          rw [List.filter_cons_of_pos valid, DutyCycle.run, List.map_cons]
          obtain ⟨next, answer, answered, frame⟩ :=
            @call_stands arithmetic config adapter call countable count stands valid
          obtain ⟨later, last, reached⟩ := ih _ _ next
          rw [answered, requestFrames, frame, later]
          exact ⟨rfl, last, reached⟩

/-- After every run the frames show the pattern, the counter is below the cycle, and a frame
without the permission or below the angle sets it to zero. -/
structure KeepsPattern (arithmetic : Arithmetic) (config : CommandAdapterConfig)
    (adapter : CommandAdapter) (calls : List AdapterCall) : Prop where
  counts : 89 ≤ config.steerRequestValidFrames.toNat ∧ config.steerRequestCutFrames.toNat ≤ 2
  pattern : RequestPattern config
    (requestFrames config calls ((machine arithmetic).answers adapter calls))
  counter : ((machine arithmetic).run adapter calls).highAngleFrames.toNat <
    config.steerRequestValidFrames.toNat + config.steerRequestCutFrames.toNat
  restarts : ∀ call : AdapterCall, call.valid = true →
    call.lateralAllowed = false ∨ highAngle config call = false →
      ((machine arithmetic).call ((machine arithmetic).run adapter calls) call).1.highAngleFrames = 0

theorem created_counts (created : create config = .ok adapter) :
    89 ≤ config.steerRequestValidFrames.toNat ∧
      (1 ≤ config.steerRequestCutFrames.toNat ∧ config.steerRequestCutFrames.toNat ≤ 2) ∧
      adapter = { config := config } := by
  unfold create at created
  split_ifs at created with scalars
  cases created
  unfold CommandAdapterConfig.invalidScalars at scalars
  simp only [Bool.or_eq_true, not_or, decide_eq_true_eq, UInt32.lt_iff_toNat_lt] at scalars
  obtain ⟨⟨⟨-, valid⟩, least⟩, most⟩ := scalars
  have eightyNine : (89 : UInt32).toNat = 89 := rfl
  have one : (1 : UInt32).toNat = 1 := rfl
  have two : (2 : UInt32).toNat = 2 := rfl
  exact ⟨by omega, by omega, rfl⟩

theorem high_angle_pattern (created : create config = .ok adapter)
    (cutoff : Double.zero.lt config.steerRequestCutoffAngleDeg = true)
    (int : config.steerRequestValidFrames.toNat < 2 ^ 31) (calls : List AdapterCall) :
    KeepsPattern arithmetic config adapter calls := by
  obtain ⟨valid, cut, rfl⟩ := created_counts created
  have countable : Countable config := ⟨valid, cut, int, cutoff⟩
  have start : Stands config 0 { config := config } := by
    refine ⟨rfl, rfl, ?_, fun _ => rfl⟩
    unfold requestCycle
    dsimp only
    omega
  obtain ⟨frames, last, reached⟩ := @frames_stand arithmetic config countable calls _ 0 start
  refine ⟨⟨valid, cut.2⟩, ?_, ?_, fun call callValid restart => ?_⟩
  · rw [frames]
    exact pattern_of_cycle (by omega) (by omega)
  · rw [reached.counter]
    exact reached.within
  · have next := (@call_stands arithmetic config _ call countable last reached callValid).1.counter
    have uncounted : counts config call = false := by
      unfold counts
      rcases restart with off | low
      · rw [off, Bool.false_and]
      · rw [low, Bool.and_false]
    unfold DutyCycle.next at next
    rw [uncounted, if_neg Bool.false_ne_true] at next
    exact UInt32.toNat_inj.mp next

def sharpCall : AdapterCall :=
  { steeringCall with vehicle := { steeringAngleDeg := .finite 90 } }

/-- One cycle at 90 degrees, and a frame that starts it again. -/
theorem fresh_keeps_pattern :
    KeepsPattern (.exact id id) {} fresh
      (List.replicate 92 sharpCall ++ [offCall, sharpCall, steeringCall]) :=
  high_angle_pattern fresh_created (by decide +kernel) (by decide) _

end Runs
end CommandAdapter
end Ioniq5Ecan
