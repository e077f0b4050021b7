import Ioniq5Ecan.Library.Runs
import Ioniq5Ecan.Vehicle.CommandAdapter

/-! # Runs of the command adapter

`update` as a machine that is called frame after frame.  An update throws
exactly on a call that is not valid; an update without the lateral permission
leaves what `reset` leaves, whatever the run before it was. -/
set_option autoImplicit false
namespace Ioniq5Ecan

open Library (Double Arithmetic CallMachine)

/-- The arguments of an update. -/
structure AdapterCall where
  command : CommandSample
  vehicle : VehicleStateData
  dtSeconds : Double
  lateralAllowed : Bool
  longitudinalAllowed : Bool

/-- An update throws on the others. -/
def AdapterCall.valid (call : AdapterCall) : Bool :=
  call.dtSeconds.isFinite && !call.dtSeconds.le .zero && call.command.lateral.isFinite &&
    call.command.accelerationMps2.isFinite

namespace CommandAdapter

def machine (arithmetic : Arithmetic) :
    CallMachine CommandAdapter AdapterCall (Except String ControlOutput) where
  call adapter call :=
    adapter.update arithmetic call.command call.vehicle call.dtSeconds call.lateralAllowed
      call.longitudinalAllowed

def started (self : CommandAdapter) (vehicle : VehicleStateData) : CommandAdapter :=
  if self.initialized then self else self.reset vehicle

/-- The control period that an update uses. -/
def period (config : CommandAdapterConfig) (dtSeconds : Double) : Double :=
  if config.unfilteredInput then dtSeconds
  else dtSeconds.clamp (.finite (1 / 1000)) (.finite (1 / 20))

section Calls
variable {arithmetic : Arithmetic} {adapter : CommandAdapter} {call : AdapterCall}

theorem started_config (vehicle : VehicleStateData) :
    (adapter.started vehicle).config = adapter.config := by
  unfold started
  split
  · rfl
  · rfl

theorem followTarget_counter (lateral dt : Double) :
    (adapter.followTarget arithmetic lateral dt).initialized = adapter.initialized ∧
      (adapter.followTarget arithmetic lateral dt).highAngleFrames = adapter.highAngleFrames := by
  unfold followTarget followRate followCurvature followRate
  cases adapter.config.lateralMode with
  | steeringRateDegPerSec => exact ⟨rfl, rfl⟩
  | steeringRateRadPerSec => exact ⟨rfl, rfl⟩
  | curvature =>
      dsimp only
      split
      · exact ⟨rfl, rfl⟩
      · exact ⟨rfl, rfl⟩
  | directTorque =>
      dsimp only
      split
      · exact ⟨rfl, rfl⟩
      · exact ⟨rfl, rfl⟩

theorem desiredTorque_counter {command : CommandSample} {vehicle : VehicleStateData} {dt : Double} :
    (adapter.desiredTorque arithmetic command vehicle dt).1.initialized = adapter.initialized ∧
      (adapter.desiredTorque arithmetic command vehicle dt).1.highAngleFrames =
        adapter.highAngleFrames := by
  unfold desiredTorque
  dsimp only
  split
  · exact ⟨rfl, rfl⟩
  · exact followTarget_counter _ dt

def steered (arithmetic : Arithmetic) (adapter : CommandAdapter) (call : AdapterCall) :
    CommandAdapter × ControlOutput :=
  (adapter.started call.vehicle).steer arithmetic call.command call.vehicle
    (period adapter.config call.dtSeconds)
    ((adapter.started call.vehicle).longitudinalOutput arithmetic call.command call.vehicle
      call.longitudinalAllowed)

def released (arithmetic : Arithmetic) (adapter : CommandAdapter) (call : AdapterCall) :
    CommandAdapter × ControlOutput :=
  (adapter.started call.vehicle).releaseSteering call.vehicle
    ((adapter.started call.vehicle).longitudinalOutput arithmetic call.command call.vehicle
      call.longitudinalAllowed)

theorem call_valid (valid : call.valid = true) :
    (machine arithmetic).call adapter call =
      if call.lateralAllowed then
        ((steered arithmetic adapter call).1, .ok (steered arithmetic adapter call).2)
      else ((released arithmetic adapter call).1, .ok (released arithmetic adapter call).2) := by
  simp only [AdapterCall.valid, Bool.and_eq_true, Bool.not_eq_true'] at valid
  obtain ⟨⟨⟨finite, positive⟩, lateral⟩, acceleration⟩ := valid
  unfold machine update steered released period started
  simp only [finite, positive, lateral, acceleration, Bool.not_true, Bool.or_self,
    Bool.false_eq_true, if_false]
  cases call.lateralAllowed with
  | true => rfl
  | false => rfl

theorem call_steered (valid : call.valid = true) (on : call.lateralAllowed = true) :
    (machine arithmetic).call adapter call =
      ((steered arithmetic adapter call).1, .ok (steered arithmetic adapter call).2) := by
  rw [call_valid valid, if_pos on]

theorem call_released (valid : call.valid = true) (off : call.lateralAllowed = false) :
    (machine arithmetic).call adapter call =
      ((released arithmetic adapter call).1, .ok (released arithmetic adapter call).2) := by
  rw [call_valid valid, off, if_neg Bool.false_ne_true]

theorem call_invalid (invalid : call.valid = false) :
    ∃ what, (machine arithmetic).call adapter call = (adapter, .error what) ∨
      (machine arithmetic).call adapter call = (adapter.started call.vehicle, .error what) := by
  unfold machine update started
  dsimp only
  by_cases period : (!call.dtSeconds.isFinite || call.dtSeconds.le .zero) = true
  · rw [if_pos period]
    exact ⟨_, .inl rfl⟩
  rw [if_neg period]
  by_cases numbers : (!call.command.lateral.isFinite ||
      !call.command.accelerationMps2.isFinite) = true
  · rw [if_pos numbers]
    exact ⟨_, .inr rfl⟩
  · simp only [Bool.or_eq_true, not_or, Bool.not_eq_true', Bool.not_eq_false, Bool.not_eq_true]
      at period numbers
    unfold AdapterCall.valid at invalid
    rw [period.1, period.2, numbers.1, numbers.2] at invalid
    cases invalid

/-! ## Without the lateral permission -/

/-- Every field of the adapter but its configuration is what `reset` sets it to. -/
theorem released_reset : (released arithmetic adapter call).1 = adapter.reset call.vehicle := by
  unfold released started
  cases initialized : adapter.initialized with
  | true =>
      rw [if_pos rfl]
      unfold releaseSteering updateSteeringRequest reset
      simp [initialized]
  | false => rfl

structure Released (arithmetic : Arithmetic) (adapter : CommandAdapter) (call : AdapterCall) :
    Prop where
  state : ((machine arithmetic).call adapter call).1 = adapter.reset call.vehicle
  output : ∃ answer other, ((machine arithmetic).call adapter call).2 = .ok answer ∧
    answer.steeringTorque = 0 ∧ answer.steeringRequest = false ∧
    ((machine arithmetic).call adapter { call with lateralAllowed := true }).2 = .ok other ∧
    answer.longitudinalActive = other.longitudinalActive ∧
    answer.accelerationMps2 = other.accelerationMps2 ∧ answer.stopping = other.stopping

theorem released_of_off (valid : call.valid = true) (off : call.lateralAllowed = false) :
    Released arithmetic adapter call := by
  have answered := @call_released arithmetic adapter call valid off
  have other := @call_steered arithmetic adapter { call with lateralAllowed := true } valid rfl
  refine ⟨?_, (released arithmetic adapter call).2,
    (steered arithmetic adapter { call with lateralAllowed := true }).2, ?_, rfl, rfl, ?_, rfl, rfl,
    rfl⟩
  · rw [answered]
    exact @released_reset arithmetic adapter call
  · rw [answered]
  · rw [other]

/-- Two runs that end with the lateral permission off at the same steering angle cannot be told
apart any more. -/
theorem lateral_off_erases_history {config : CommandAdapterConfig} {first second : CommandAdapter}
    {firstOff secondOff : AdapterCall} (firstReached : Reachable arithmetic config first)
    (secondReached : Reachable arithmetic config second) (firstValid : firstOff.valid = true)
    (secondValid : secondOff.valid = true) (off : firstOff.lateralAllowed = false)
    (otherOff : secondOff.lateralAllowed = false)
    (sameAngle : firstOff.vehicle.steeringAngleDeg = secondOff.vehicle.steeringAngleDeg) :
    Released arithmetic first firstOff ∧ Released arithmetic second secondOff ∧
      ∀ later : List AdapterCall,
        (machine arithmetic).answers ((machine arithmetic).call first firstOff).1 later =
          (machine arithmetic).answers ((machine arithmetic).call second secondOff).1 later := by
  have firstReleased := @released_of_off arithmetic first firstOff firstValid off
  have secondReleased := @released_of_off arithmetic second secondOff secondValid otherOff
  have same : first.reset firstOff.vehicle = second.reset secondOff.vehicle := by
    unfold reset
    rw [firstReached.limited.2, secondReached.limited.2, sameAngle]
  refine ⟨firstReleased, secondReleased, fun later => ?_⟩
  rw [firstReleased.state, secondReleased.state, same]

/-- A fresh adapter, and one that has steered before. -/
def fresh : CommandAdapter := { config := {} }

def steeringCall : AdapterCall where
  command := { lateral := .finite 5, accelerationMps2 := .finite 1 }
  vehicle := { steeringAngleDeg := .finite 30 }
  dtSeconds := .finite (1 / 100)
  lateralAllowed := true
  longitudinalAllowed := true

def offCall : AdapterCall := { steeringCall with lateralAllowed := false }

theorem fresh_created : create {} = .ok fresh := by
  decide +kernel

theorem off_erases_steering :
    Released (.exact id id) fresh offCall ∧
      Released (.exact id id) ((machine (.exact id id)).call fresh steeringCall).1 offCall ∧
      ∀ later : List AdapterCall,
        (machine (.exact id id)).answers ((machine (.exact id id)).call fresh offCall).1 later =
          (machine (.exact id id)).answers ((machine (.exact id id)).call
            ((machine (.exact id id)).call fresh steeringCall).1 offCall).1 later :=
  lateral_off_erases_history (.created fresh_created)
    (.updated (.created fresh_created) _ _ _ _ _) (by decide +kernel) (by decide +kernel) rfl rfl rfl

end Calls
end CommandAdapter
end Ioniq5Ecan
