import Ioniq5Ecan.Vehicle.AdapterRuns

/-! # The direct torque

With rates that cross the whole range in a frame and no driver limit the torque
is the rounded command, clamped, whatever the torque before: `limitedTorque` is
then the clamp alone and the slew never binds.  The rounded command is narrowed to
32 bits before it is clamped, so a huge command may end anywhere in the range. -/
set_option autoImplicit false
namespace Ioniq5Ecan

open Library (Double Arithmetic CallMachine)

namespace CommandAdapter

/-- The torque of the mode behind `max_torque` and the driver limit, before the slew. -/
def limitedTorque (arithmetic : Arithmetic) (self : CommandAdapter) (command : CommandSample)
    (vehicle : VehicleStateData) (dt : Double) : Int :=
  self.applyDriverTorqueLimits arithmetic
    (clampInt (self.desiredTorque arithmetic command vehicle dt).2 (-self.config.maxTorque)
      self.config.maxTorque) vehicle.driverTorque

section Steer
variable {arithmetic : Arithmetic} {self : CommandAdapter} {command : CommandSample}
  {vehicle : VehicleStateData} {dt : Double} {output : ControlOutput}

theorem steer_torque :
    (self.steer arithmetic command vehicle dt output).2.steeringTorque =
      self.applyTorqueSlew (self.limitedTorque arithmetic command vehicle dt) := by
  obtain ⟨config, torque⟩ := @desiredTorque_keeps arithmetic self command vehicle dt
  unfold steer limitedTorque applyTorqueSlew applyDriverTorqueLimits
  dsimp only
  rw [config, torque]

theorem limitedTorque_between (limited : self.Limited) :
    -self.config.maxTorque ≤ self.limitedTorque arithmetic command vehicle dt ∧
      self.limitedTorque arithmetic command vehicle dt ≤ self.config.maxTorque :=
  driverTorqueLimits_between limited _ _

end Steer

/-! ## Without a driver limit -/

section Unlimited
variable {arithmetic : Arithmetic} {self : CommandAdapter}

theorem driver_sum (laws : arithmetic.ZeroLaws) {count : Int} (small : |count| ≤ 2 ^ 53)
    (value : Double) :
    arithmetic.add (.finite count) (arithmetic.mul value .zero) = .finite count ∨
      arithmetic.add (.finite count) (arithmetic.mul value .zero) = .nan := by
  rcases laws.mul_zero value with zero | nan
  · rw [zero]
    exact .inl (laws.add_zero count small)
  · rw [nan]
    exact .inr (laws.add_nan _)

/-- With the multiplier zero the driver's torque does not matter, not even where it is NaN. -/
theorem driverTorqueLimits_off (laws : arithmetic.ZeroLaws) (limited : self.Limited)
    (off : self.config.driverTorqueMultiplier = .zero) {desired : Int}
    (low : -self.config.maxTorque ≤ desired) (high : desired ≤ self.config.maxTorque)
    (driverTorque : Double) :
    self.applyDriverTorqueLimits arithmetic desired driverTorque = desired := by
  obtain ⟨⟨nonnegative, small⟩, -, -⟩ := limited
  unfold kMaxValidTorque at small
  generalize maximum : self.config.maxTorque = limit at *
  have positive : (0 : Rat) ≤ limit := by exact_mod_cast nonnegative
  have negated : (Double.ofInt limit).neg = .finite ((-limit : Int) : Rat) := by
    unfold Double.ofInt Double.neg
    rw [Int.cast_neg]
  have bounded : |limit| ≤ 2 ^ 53 := by
    rw [abs_of_nonneg nonnegative]
    omega
  have negatedBounded : |-limit| ≤ 2 ^ 53 := by rwa [abs_neg]
  have upper (value : Double) : ((Double.ofInt limit).min (arithmetic.add (.ofInt limit)
      (arithmetic.mul value .zero))).max .zero = .finite limit := by
    have least : (Double.finite limit).max .zero = .finite limit := by
      simp [Double.max, Double.zero, Double.lt, not_lt.mpr positive]
    rcases driver_sum laws bounded value with same | nan
    · unfold Double.ofInt
      rw [same]
      simp [Double.min, Double.lt, least]
    · unfold Double.ofInt
      rw [nan]
      simp [Double.min, Double.lt, least]
  have lower (value : Double) : ((Double.finite ((-limit : Int) : Rat)).max (arithmetic.add
      (.finite ((-limit : Int) : Rat)) (arithmetic.mul value .zero))).min .zero =
        .finite ((-limit : Int) : Rat) := by
    have greatest : (Double.finite ((-limit : Int) : Rat)).min .zero =
        .finite ((-limit : Int) : Rat) := by
      have under : ¬ (0 : Rat) < -limit := not_lt.mpr (neg_nonpos.mpr positive)
      simp [Double.min, Double.zero, Double.lt, under]
    rcases driver_sum laws negatedBounded value with same | nan
    · rw [same]
      simpa [Double.max, Double.lt] using greatest
    · rw [nan]
      simpa [Double.max, Double.lt] using greatest
  have inside : (Double.ofInt desired).clamp (.finite ((-limit : Int) : Rat)) (.finite limit) =
      .finite desired :=
    Double.clamp_inside (by exact_mod_cast low) (by exact_mod_cast high)
  unfold applyDriverTorqueLimits
  dsimp only
  rw [maximum, off, negated, upper, lower, inside,
    Double.lround_intCast arithmetic (by omega) (by omega)]
  exact toInt32_small (by omega) (by omega)

theorem torqueSlew_off (limited : self.Limited) (up : self.config.torqueRateUp = 2 * kMaxValidTorque)
    (down : self.config.torqueRateDown = 2 * kMaxValidTorque) {desired : Int}
    (low : -self.config.maxTorque ≤ desired) (high : desired ≤ self.config.maxTorque) :
    self.applyTorqueSlew desired = desired := by
  obtain ⟨valid, -, torque⟩ := limited
  unfold applyTorqueSlew clampInt
  dsimp only
  rw [up, down]
  unfold kMaxValidTorque at *
  split_ifs <;> omega

/-! ## The direct torque -/

/-- Narrowed to 32 bits, a count is clamped to what it would be clamped to itself. -/
def NarrowsInside (limit count : Int) : Prop :=
  -2 ^ 31 ≤ count ∧ count < 2 ^ 31 ∨ limit = 0 ∨ 2 ^ 31 ≤ count ∧ limit ≤ toInt32 count ∨
    count < -2 ^ 31 ∧ toInt32 count ≤ -limit

theorem clamp_toInt32 {limit : Int} (nonnegative : 0 ≤ limit) (small : limit ≤ kMaxValidTorque)
    (count : Int) :
    clampInt (toInt32 count) (-limit) limit = clampInt count (-limit) limit ↔
      NarrowsInside limit count := by
  unfold kMaxValidTorque at small
  unfold NarrowsInside
  by_cases inside : -2 ^ 31 ≤ count ∧ count < 2 ^ 31
  · rw [toInt32_small inside.1 inside.2]
    exact iff_of_true rfl (.inl inside)
  · generalize toInt32 count = narrowed
    unfold clampInt
    split_ifs <;> omega

/-- On a run of updates and resets the direct torque is the rounded command, clamped, exactly when
narrowing the rounded command does not change sides. -/
theorem direct_torque_saturates_iff {config : CommandAdapterConfig} {adapter : CommandAdapter}
    (laws : arithmetic.ZeroLaws) (reached : Reachable arithmetic config adapter)
    (direct : config.lateralMode = .directTorque)
    (up : config.torqueRateUp = 2 * kMaxValidTorque)
    (down : config.torqueRateDown = 2 * kMaxValidTorque)
    (off : config.driverTorqueMultiplier = .zero) (call : AdapterCall) (valid : call.valid = true)
    (on : call.lateralAllowed = true) {scaled : Rat}
    (value : arithmetic.add (arithmetic.mul call.command.lateral config.lateralScale)
      config.lateralOffset = .finite scaled)
    (representable : -2 ^ 63 ≤ Double.round scaled ∧ Double.round scaled < 2 ^ 63) :
    (∃ answer, ((machine arithmetic).call adapter call).2 = .ok answer ∧ answer.steeringTorque =
        clampInt (Double.round scaled) (-config.maxTorque) config.maxTorque) ↔
      NarrowsInside config.maxTorque (Double.round scaled) := by
  obtain ⟨limited, same⟩ := reached.limited
  have startLimited : (adapter.started call.vehicle).Limited := by
    unfold started
    split
    · exact limited
    · exact limited.reset _
  have startConfig : (adapter.started call.vehicle).config = config :=
    (started_config _).trans same
  generalize start : adapter.started call.vehicle = started at *
  have limits := startLimited.valid
  rw [startConfig] at limits
  have answered := @call_steered arithmetic adapter call valid on
  have torque : (steered arithmetic adapter call).2.steeringTorque =
      clampInt (toInt32 (Double.round scaled)) (-config.maxTorque) config.maxTorque := by
    have between := @clampInt_between (toInt32 (Double.round scaled)) (-config.maxTorque)
      config.maxTorque (by omega)
    have desired (dt : Double) : started.limitedTorque arithmetic call.command call.vehicle dt =
        clampInt (toInt32 (Double.round scaled)) (-config.maxTorque) config.maxTorque := by
      unfold limitedTorque desiredTorque
      dsimp only
      rw [startConfig, direct, if_pos rfl, value, Double.lround, if_pos representable]
      refine driverTorqueLimits_off laws startLimited (by rw [startConfig, off]) ?_ ?_ _
      · rw [startConfig]; exact between.1
      · rw [startConfig]; exact between.2
    unfold steered
    rw [start, steer_torque, desired]
    refine torqueSlew_off startLimited (by rw [startConfig, up]) (by rw [startConfig, down]) ?_ ?_
    · rw [startConfig]; exact between.1
    · rw [startConfig]; exact between.2
  have sides := clamp_toInt32 limits.1 limits.2 (Double.round scaled)
  rw [← sides, ← torque, answered]
  constructor
  · rintro ⟨answer, shown, same⟩
    cases shown
    exact same
  · intro same
    exact ⟨_, rfl, same⟩

def directConfig : CommandAdapterConfig := { lateralMode := .directTorque }

def directAdapter : CommandAdapter := { config := directConfig }

theorem direct_created : create directConfig = .ok directAdapter := by
  decide +kernel

def directCall (lateral : Rat) : AdapterCall where
  command := { lateral := .finite lateral }
  vehicle := {}
  dtSeconds := .finite (1 / 100)
  lateralAllowed := true
  longitudinalAllowed := false

theorem direct_torque_at_limit :
    (∃ answer, ((machine (.exact id id)).call directAdapter (directCall 5000)).2 = .ok answer ∧
      answer.steeringTorque =
        clampInt (Double.round 5000) (-directConfig.maxTorque) directConfig.maxTorque) ↔
      NarrowsInside directConfig.maxTorque (Double.round 5000) :=
  direct_torque_saturates_iff (Arithmetic.exact_zeroLaws id id) (.created direct_created) rfl rfl
    rfl rfl (directCall 5000) (by decide +kernel) rfl (by decide +kernel) (by decide +kernel)

/-- 2^32 rounds to itself, is narrowed to zero and stays there. -/
theorem direct_torque_wraps :
    ¬ ∃ answer, ((machine (.exact id id)).call directAdapter (directCall 4294967296)).2 =
        .ok answer ∧
      answer.steeringTorque =
        clampInt (Double.round 4294967296) (-directConfig.maxTorque) directConfig.maxTorque := by
  have torque : ((machine (.exact id id)).call directAdapter (directCall 4294967296)).2.toOption.map
      ControlOutput.steeringTorque = some 0 := by
    decide +kernel
  have limit : clampInt (Double.round 4294967296) (-directConfig.maxTorque)
      directConfig.maxTorque = 1021 := by
    decide +kernel
  rintro ⟨answer, answered, same⟩
  rw [answered] at torque
  have zero : answer.steeringTorque = 0 := Option.some.inj torque
  rw [zero, limit] at same
  cases same

end Unlimited
end CommandAdapter
end Ioniq5Ecan
