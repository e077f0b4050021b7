import Ioniq5Ecan.Library.DoubleRange
import Ioniq5Ecan.Types

/-! # CommandAdapter

`command_adapter.cpp`: from a command and a vehicle sample to a steering torque
and an acceleration.  The constructor refuses a configuration it cannot use, and
`update` answers an exception by its text. -/
set_option autoImplicit false
namespace Ioniq5Ecan

open Library (Double Arithmetic)

inductive LateralInputMode
  | steeringRateDegPerSec
  | steeringRateRadPerSec
  | curvature
  | directTorque
  deriving DecidableEq

def lateralModeFromString (value : String) : Except String LateralInputMode :=
  if value == "steering_rate_deg_s" then .ok .steeringRateDegPerSec
  else if value == "steering_rate_rad_s" then .ok .steeringRateRadPerSec
  else if value == "curvature_1pm" then .ok .curvature
  else if value == "direct_torque" then .ok .directTorque
  else .error ("unsupported lateral input mode: " ++ value)

def defaultLowSpeedFactorBpMps : Vector Double 4 := #v[.zero, .finite 10, .finite 20, .finite 30]

def defaultLowSpeedFactorV : Vector Double 4 := #v[.finite 15, .finite 13, .finite 10, .finite 5]

structure CommandAdapterConfig where
  lateralMode : LateralInputMode := .steeringRateDegPerSec
  unfilteredInput : Bool := true
  lateralScale : Double := .finite 1
  lateralOffset : Double := .zero
  accelerationScale : Double := .finite 1
  accelerationOffset : Double := .zero
  wheelbaseM : Double := .finite (297 / 100)
  steeringRatio : Double := .finite (1426 / 100)
  steerActuatorDelayS : Double := .finite (1 / 10)
  torqueKp : Double := .finite 1
  torqueKi : Double := .finite (1 / 10)
  torqueKd : Double := .zero
  torqueKf : Double := .finite 1
  latAccelFactor : Double := .finite (3172929 / 1000000)
  friction : Double := .finite (96019 / 1000000)
  frictionThreshold : Double := .finite (3 / 10)
  steeringAngleDeadzoneDeg : Double := .zero
  integralOutputLimit : Double := .finite (378 / 100)
  integratorFreezeSpeedMps : Double := .zero
  lowSpeedFactorBpMps : Vector Double 4 := defaultLowSpeedFactorBpMps
  lowSpeedFactorV : Vector Double 4 := defaultLowSpeedFactorV
  maxTargetAngleDeg : Double := .finite 175
  maxTargetRateDegS : Double := .finite 500
  torqueOutputScale : Int := 270
  maxTorque : Int := 1021
  torqueRateUp : Int := 2042
  torqueRateDown : Int := 2042
  driverTorqueAllowance : Double := .finite 250
  driverTorqueMultiplier : Double := .zero
  driverTorqueFactor : Double := .finite 1
  steerRequestCutoffAngleDeg : Double := .finite 85
  steerRequestValidFrames : UInt32 := 89
  steerRequestCutFrames : UInt32 := 2
  accelMinMps2 : Double := .finite (-1023 / 100)
  accelMaxMps2 : Double := .finite (1024 / 100)
  jerkLimitMps3 : Double := .finite (127 / 10)
  deriving DecidableEq

def kMaxValidTorque : Int := 1021
def kSccMinAccel : Double := .finite (-1023 / 100)
def kSccMaxAccel : Double := .finite (1024 / 100)

/-! ## The constructor -/

namespace CommandAdapterConfig

def scalars (config : CommandAdapterConfig) : List Double :=
  [config.lateralScale, config.lateralOffset, config.accelerationScale, config.accelerationOffset,
    config.wheelbaseM, config.steeringRatio, config.steerActuatorDelayS, config.torqueKp,
    config.torqueKi, config.torqueKd, config.torqueKf, config.latAccelFactor, config.friction,
    config.frictionThreshold, config.steeringAngleDeadzoneDeg, config.integralOutputLimit,
    config.integratorFreezeSpeedMps, config.maxTargetAngleDeg, config.maxTargetRateDegS,
    config.driverTorqueAllowance, config.driverTorqueMultiplier, config.driverTorqueFactor,
    config.steerRequestCutoffAngleDeg, config.accelMinMps2, config.accelMaxMps2,
    config.jerkLimitMps3]

def positives (config : CommandAdapterConfig) : List Double :=
  [config.wheelbaseM, config.steeringRatio, config.latAccelFactor, config.frictionThreshold,
    config.maxTargetAngleDeg, config.maxTargetRateDegS, config.jerkLimitMps3]

def nonnegatives (config : CommandAdapterConfig) : List Double :=
  [config.steerActuatorDelayS, config.torqueKp, config.torqueKi, config.torqueKd, config.torqueKf,
    config.friction, config.steeringAngleDeadzoneDeg, config.integralOutputLimit,
    config.integratorFreezeSpeedMps, config.driverTorqueAllowance, config.driverTorqueMultiplier,
    config.driverTorqueFactor, config.steerRequestCutoffAngleDeg]

def invalidScalars (config : CommandAdapterConfig) : Bool :=
  !config.scalars.all Double.isFinite || config.positives.any (·.le .zero) ||
    config.nonnegatives.any (·.lt .zero) || decide (config.steerRequestValidFrames < 89) ||
    decide (config.steerRequestCutFrames < 1) || decide (2 < config.steerRequestCutFrames)

def invalidTable (config : CommandAdapterConfig) : Bool :=
  (List.range 4).any fun index =>
    !(config.lowSpeedFactorBpMps.getD index .zero).isFinite ||
      !(config.lowSpeedFactorV.getD index .zero).isFinite ||
      (config.lowSpeedFactorV.getD index .zero).lt .zero ||
      (decide (0 < index) && (config.lowSpeedFactorBpMps.getD index .zero).le
        (config.lowSpeedFactorBpMps.getD (index - 1) .zero))

end CommandAdapterConfig

structure CommandAdapter where
  config : CommandAdapterConfig
  targetAngleDeg : Double := .zero
  targetRateDegS : Double := .zero
  torqueIntegral : Double := .zero
  previousTorqueError : Double := .zero
  lastTorque : Int := 0
  highAngleFrames : UInt32 := 0
  initialized : Bool := false
  deriving DecidableEq

structure ControlOutput where
  steeringTorque : Int := 0
  accelerationMps2 : Double := .zero
  lateralActive : Bool := false
  steeringRequest : Bool := false
  longitudinalActive : Bool := false
  stopping : Bool := false
  deriving DecidableEq

namespace CommandAdapter

def create (config : CommandAdapterConfig) : Except String CommandAdapter :=
  if config.invalidScalars then
    .error "invalid or non-finite command adapter configuration"
  else if config.invalidTable then .error "invalid Carrot low-speed factor table"
  else if config.maxTorque < 0 ∨ kMaxValidTorque < config.maxTorque then
    .error "max_torque must be within [0, 1021]"
  else if config.torqueOutputScale < 1 ∨ kMaxValidTorque < config.torqueOutputScale then
    .error "torque_output_scale must be within [1, 1021]"
  else if config.torqueRateUp < 1 ∨ 2 * kMaxValidTorque < config.torqueRateUp ∨
      config.torqueRateDown < 1 ∨ 2 * kMaxValidTorque < config.torqueRateDown then
    .error "software torque rates must be within [1, 2042]"
  else if config.accelMinMps2.lt kSccMinAccel || kSccMaxAccel.lt config.accelMaxMps2 ||
      config.accelMaxMps2.lt config.accelMinMps2 then
    .error "software acceleration bounds exceed SCC encoding"
  else .ok { config := config }

def reset (self : CommandAdapter) (vehicle : VehicleStateData) : CommandAdapter :=
  { self with
    targetAngleDeg := vehicle.steeringAngleDeg, targetRateDegS := .zero, torqueIntegral := .zero
    previousTorqueError := .zero, lastTorque := 0, highAngleFrames := 0, initialized := true }

/-! ## The steering torque -/

def kRadiansToDegrees : Double := .finite (572957795130823208768 / 10000000000000000000)
def kDegreesToRadians : Double := .finite (10000000000000000000 / 572957795130823208768)

section Torque
variable (arithmetic : Arithmetic)

def interpolate (value : Double) (x y : Vector Double 4) : Double :=
  if value.le (x.getD 0 .zero) then y.getD 0 .zero
  else if (x.getD 3 .zero).le value then y.getD 3 .zero
  else
    match [1, 2, 3].find? fun index => value.le (x.getD index .zero) with
    | none => y.getD 3 .zero
    | some index =>
        let ratio := arithmetic.div (arithmetic.sub value (x.getD (index - 1) .zero))
          (arithmetic.sub (x.getD index .zero) (x.getD (index - 1) .zero))
        arithmetic.add (y.getD (index - 1) .zero) (arithmetic.mul ratio
          (arithmetic.sub (y.getD index .zero) (y.getD (index - 1) .zero)))

/-- The rate, unless the input is passed on unfiltered, within its limit. -/
def limitRate (self : CommandAdapter) (rate : Double) : Double :=
  if self.config.unfilteredInput then rate
  else rate.clamp self.config.maxTargetRateDegS.neg self.config.maxTargetRateDegS

def limitAngle (self : CommandAdapter) (angle : Double) : Double :=
  if self.config.unfilteredInput then angle
  else angle.clamp self.config.maxTargetAngleDeg.neg self.config.maxTargetAngleDeg

/-- A rate command: the target angle moves on by the rate. -/
def followRate (self : CommandAdapter) (rate dt : Double) : CommandAdapter :=
  let rate := self.limitRate rate
  { self with
    targetRateDegS := rate
    targetAngleDeg := arithmetic.add self.targetAngleDeg (arithmetic.mul rate dt) }

def followCurvature (self : CommandAdapter) (lateral dt : Double) : CommandAdapter :=
  let newTarget := arithmetic.mul (arithmetic.mul
    (arithmetic.atan (arithmetic.mul self.config.wheelbaseM lateral)) self.config.steeringRatio)
    kRadiansToDegrees
  let requestedRate := arithmetic.div (arithmetic.sub newTarget self.targetAngleDeg) dt
  if self.config.unfilteredInput then
    { self with targetRateDegS := requestedRate, targetAngleDeg := newTarget }
  else self.followRate arithmetic requestedRate dt

/-- The target angle and rate of the three modes that have them. -/
def followTarget (self : CommandAdapter) (lateral dt : Double) : CommandAdapter :=
  let self :=
    match self.config.lateralMode with
    | .steeringRateDegPerSec => self.followRate arithmetic lateral dt
    | .steeringRateRadPerSec =>
        self.followRate arithmetic (arithmetic.mul lateral kRadiansToDegrees) dt
    | _ => self.followCurvature arithmetic lateral dt
  { self with targetAngleDeg := self.limitAngle self.targetAngleDeg }

def curvatureOf (config : CommandAdapterConfig) (angleDeg : Double) : Double :=
  arithmetic.div (arithmetic.tan
    (arithmetic.div (arithmetic.mul angleDeg kDegreesToRadians) config.steeringRatio))
    config.wheelbaseM

/-- `static_cast<int>`. -/
def toInt32 (value : Int) : Int := value.bmod (2 ^ 32)

/-- The lateral-acceleration controller. -/
def controlTorque (self : CommandAdapter) (vehicle : VehicleStateData) (dt : Double) :
    CommandAdapter × Int :=
  let config := self.config
  let predictedTargetAngle := arithmetic.add self.targetAngleDeg
    (arithmetic.mul self.targetRateDegS config.steerActuatorDelayS)
  let desiredCurvature := curvatureOf arithmetic config (self.limitAngle predictedTargetAngle)
  let actualCurvature := curvatureOf arithmetic config vehicle.steeringAngleDeg
  let speed := vehicle.speedMps.max .zero
  let speedSquared := arithmetic.mul speed speed
  let lowSpeed := interpolate arithmetic speed config.lowSpeedFactorBpMps config.lowSpeedFactorV
  let gain := arithmetic.add speedSquared (arithmetic.mul lowSpeed lowSpeed)
  let setpoint := arithmetic.mul desiredCurvature gain
  let measurement := arithmetic.mul actualCurvature gain
  let torqueError := arithmetic.div (arithmetic.sub setpoint measurement) config.latAccelFactor
  let desiredLateralAccel := arithmetic.mul desiredCurvature speedSquared
  let actualLateralAccel := arithmetic.mul actualCurvature speedSquared
  let curvatureDeadzone := (curvatureOf arithmetic config config.steeringAngleDeadzoneDeg).abs
  let lateralAccelDeadzone := arithmetic.mul curvatureDeadzone speedSquared
  let lateralAccelError := arithmetic.sub desiredLateralAccel actualLateralAccel
  let frictionError :=
    if lateralAccelError.abs.lt lateralAccelDeadzone then .zero else lateralAccelError
  let friction := arithmetic.mul ((arithmetic.div frictionError config.frictionThreshold).clamp
    (.finite (-1)) (.finite 1)) config.friction
  let feedforward := arithmetic.add (arithmetic.div desiredLateralAccel config.latAccelFactor) friction
  let freezeIntegrator := speed.lt config.integratorFreezeSpeedMps ||
    decide (config.maxTorque ≤ |self.lastTorque|)
  let torqueIntegral :=
    if !freezeIntegrator && Double.zero.lt config.torqueKi then
      let integralLimit := arithmetic.div config.integralOutputLimit config.torqueKi
      (arithmetic.add self.torqueIntegral (arithmetic.mul torqueError dt)).clamp
        integralLimit.neg integralLimit
    else self.torqueIntegral
  let derivative := arithmetic.div (arithmetic.sub torqueError self.previousTorqueError) dt
  let normalizedTorque := arithmetic.add (arithmetic.add (arithmetic.add
    (arithmetic.mul config.torqueKp torqueError) (arithmetic.mul config.torqueKi torqueIntegral))
    (arithmetic.mul config.torqueKd derivative)) (arithmetic.mul config.torqueKf feedforward)
  ({ self with torqueIntegral := torqueIntegral, previousTorqueError := torqueError },
    toInt32 (Double.lround arithmetic
      (arithmetic.mul normalizedTorque (.ofInt config.torqueOutputScale))))

/-- The torque before any limit. -/
def desiredTorque (self : CommandAdapter) (command : CommandSample) (vehicle : VehicleStateData)
    (dt : Double) : CommandAdapter × Int :=
  let lateral := arithmetic.add (arithmetic.mul command.lateral self.config.lateralScale)
    self.config.lateralOffset
  if self.config.lateralMode = .directTorque then (self, toInt32 (Double.lround arithmetic lateral))
  else (self.followTarget arithmetic lateral dt).controlTorque arithmetic vehicle dt

def applyDriverTorqueLimits (self : CommandAdapter) (desired : Int) (driverTorque : Double) : Int :=
  let maximum := Double.ofInt self.config.maxTorque
  let minimum := maximum.neg
  let driver := arithmetic.mul driverTorque self.config.driverTorqueFactor
  let driverMaximum := arithmetic.add maximum (arithmetic.mul
    (arithmetic.add self.config.driverTorqueAllowance driver) self.config.driverTorqueMultiplier)
  let driverMinimum := arithmetic.add minimum (arithmetic.mul
    (arithmetic.add self.config.driverTorqueAllowance.neg driver)
    self.config.driverTorqueMultiplier)
  let maximumAllowed := (maximum.min driverMaximum).max .zero
  let minimumAllowed := (minimum.max driverMinimum).min .zero
  toInt32 (Double.lround arithmetic ((Double.ofInt desired).clamp minimumAllowed maximumAllowed))

end Torque

def clampInt (value lower upper : Int) : Int :=
  if value < lower then lower else if upper < value then upper else value

def applyTorqueSlew (self : CommandAdapter) (desired : Int) : Int :=
  let up := self.config.torqueRateUp
  let down := self.config.torqueRateDown
  if 0 < self.lastTorque then clampInt desired (self.lastTorque - down) (self.lastTorque + up)
  else if self.lastTorque < 0 then
    clampInt desired (self.lastTorque - up) (self.lastTorque + down)
  else clampInt desired (-up) up

/-- A cycle that wraps to no frames, which traps in the source, is not distinguished. -/
def updateSteeringRequest (self : CommandAdapter) (active : Bool) (steeringAngleDeg : Double) :
    CommandAdapter × Bool :=
  if !active || self.config.steerRequestCutoffAngleDeg == .zero ||
      steeringAngleDeg.abs.lt self.config.steerRequestCutoffAngleDeg then
    ({ self with highAngleFrames := 0 }, active)
  else
    let cycle := self.config.steerRequestValidFrames + self.config.steerRequestCutFrames
    let position := self.highAngleFrames % cycle
    ({ self with highAngleFrames := (self.highAngleFrames + 1) % cycle },
      decide (position < self.config.steerRequestValidFrames))

/-! ## update -/

def longitudinalOutput (arithmetic : Arithmetic) (self : CommandAdapter) (command : CommandSample)
    (vehicle : VehicleStateData) (longitudinalAllowed : Bool) : ControlOutput :=
  if longitudinalAllowed then
    let requested := arithmetic.add
      (arithmetic.mul command.accelerationMps2 self.config.accelerationScale)
      self.config.accelerationOffset
    let acceleration := requested.clamp self.config.accelMinMps2 self.config.accelMaxMps2
    { longitudinalActive := true
      accelerationMps2 := acceleration
      stopping := acceleration.lt (.finite (-1 / 10)) && vehicle.speedMps.lt (.finite (3 / 10)) }
  else {}

def releaseSteering (self : CommandAdapter) (vehicle : VehicleStateData) (output : ControlOutput) :
    CommandAdapter × ControlOutput :=
  let released := { self with
    torqueIntegral := .zero, previousTorqueError := .zero
    targetAngleDeg := vehicle.steeringAngleDeg, targetRateDegS := .zero, lastTorque := 0 }
  let request := released.updateSteeringRequest false vehicle.steeringAngleDeg
  (request.1, { output with steeringTorque := 0, steeringRequest := request.2 })

def steer (arithmetic : Arithmetic) (self : CommandAdapter) (command : CommandSample)
    (vehicle : VehicleStateData) (dt : Double) (output : ControlOutput) :
    CommandAdapter × ControlOutput :=
  let desired := self.desiredTorque arithmetic command vehicle dt
  let torque := clampInt desired.2 (-self.config.maxTorque) self.config.maxTorque
  let torque := desired.1.applyDriverTorqueLimits arithmetic torque vehicle.driverTorque
  let torque := desired.1.applyTorqueSlew torque
  let request :=
    { desired.1 with lastTorque := torque }.updateSteeringRequest true vehicle.steeringAngleDeg
  (request.1,
    { output with steeringTorque := torque, lateralActive := true, steeringRequest := request.2 })

def update (arithmetic : Arithmetic) (self : CommandAdapter) (command : CommandSample)
    (vehicle : VehicleStateData) (dtSeconds : Double) (lateralAllowed longitudinalAllowed : Bool) :
    CommandAdapter × Except String ControlOutput :=
  if !dtSeconds.isFinite || dtSeconds.le .zero then
    (self, .error "control period must be finite and positive")
  else
    let dt := if self.config.unfilteredInput then dtSeconds
      else dtSeconds.clamp (.finite (1 / 1000)) (.finite (1 / 20))
    let self := if self.initialized then self else self.reset vehicle
    if !command.lateral.isFinite || !command.accelerationMps2.isFinite then
      (self, .error "control command contains a non-finite value")
    else
      let output := self.longitudinalOutput arithmetic command vehicle longitudinalAllowed
      let result :=
        if lateralAllowed then self.steer arithmetic command vehicle dt output
        else self.releaseSteering vehicle output
      (result.1, .ok result.2)

/-! ## The limits -/

/-- What the constructor guarantees of the limits, and the runs of the last torque. -/
structure Limited (adapter : CommandAdapter) : Prop where
  valid : 0 ≤ adapter.config.maxTorque ∧ adapter.config.maxTorque ≤ kMaxValidTorque
  rates : 1 ≤ adapter.config.torqueRateUp ∧ 1 ≤ adapter.config.torqueRateDown
  torque : -adapter.config.maxTorque ≤ adapter.lastTorque ∧
    adapter.lastTorque ≤ adapter.config.maxTorque

section Limits
variable {arithmetic : Arithmetic} {self : CommandAdapter} {command : CommandSample}
  {vehicle : VehicleStateData} {dt : Double} {output : ControlOutput}

theorem create_limited {config : CommandAdapterConfig} (created : create config = .ok self) :
    self.config = config ∧ self.Limited := by
  unfold create at created
  split_ifs at created with scalars table torque scale rates bounds
  cases created
  exact ⟨rfl, by dsimp only; omega, by dsimp only; omega, by dsimp only; omega⟩

theorem Limited.reset (limited : self.Limited) (vehicle : VehicleStateData) :
    (self.reset vehicle).Limited := by
  obtain ⟨valid, rates, torque⟩ := limited
  refine ⟨valid, rates, ?_⟩
  have none : (self.reset vehicle).lastTorque = 0 := rfl
  have same : (self.reset vehicle).config = self.config := rfl
  rw [none, same]
  omega

theorem followTarget_keeps (lateral : Double) :
    (self.followTarget arithmetic lateral dt).config = self.config ∧
      (self.followTarget arithmetic lateral dt).lastTorque = self.lastTorque := by
  unfold followTarget followRate followCurvature followRate
  cases self.config.lateralMode <;> dsimp only <;> first
    | exact ⟨rfl, rfl⟩
    | (split <;> exact ⟨rfl, rfl⟩)

theorem desiredTorque_keeps :
    (self.desiredTorque arithmetic command vehicle dt).1.config = self.config ∧
      (self.desiredTorque arithmetic command vehicle dt).1.lastTorque = self.lastTorque := by
  unfold desiredTorque
  dsimp only
  split
  · exact ⟨rfl, rfl⟩
  · exact followTarget_keeps _

theorem toInt32_small {value : Int} (low : -2 ^ 31 ≤ value) (high : value < 2 ^ 31) :
    toInt32 value = value := by
  unfold toInt32
  apply Int.bmod_eq_of_le
  · omega
  · omega

theorem clampInt_between {value lower upper : Int} (ordered : lower ≤ upper) :
    lower ≤ clampInt value lower upper ∧ clampInt value lower upper ≤ upper := by
  unfold clampInt
  split_ifs <;> omega

theorem driverTorqueLimits_between (limited : self.Limited) (desired : Int)
    (driverTorque : Double) :
    -self.config.maxTorque ≤ self.applyDriverTorqueLimits arithmetic desired driverTorque ∧
      self.applyDriverTorqueLimits arithmetic desired driverTorque ≤ self.config.maxTorque := by
  obtain ⟨⟨nonnegative, small⟩, -, -⟩ := limited
  unfold kMaxValidTorque at small
  have positive : (0 : Rat) ≤ self.config.maxTorque := by exact_mod_cast nonnegative
  unfold applyDriverTorqueLimits
  dsimp only
  generalize arithmetic.mul driverTorque self.config.driverTorqueFactor = driver
  have upper := Double.between_max_min (self.config.maxTorque : Rat) positive
    (arithmetic.add (Double.ofInt self.config.maxTorque) (arithmetic.mul
      (arithmetic.add self.config.driverTorqueAllowance driver) self.config.driverTorqueMultiplier))
  have lower := Double.between_min_max (self.config.maxTorque : Rat) positive
    (arithmetic.add (Double.ofInt self.config.maxTorque).neg (arithmetic.mul
      (arithmetic.add self.config.driverTorqueAllowance.neg driver)
      self.config.driverTorqueMultiplier))
  have within := Double.between_clamp lower upper (le_refl (-(self.config.maxTorque : Rat)))
    (le_refl (self.config.maxTorque : Rat)) positive (by linarith) (desired : Rat)
  have rounded := Double.lround_between arithmetic (by omega) within
  have kept {torque : Int}
      (bounds : -self.config.maxTorque ≤ torque ∧ torque ≤ self.config.maxTorque) :
      -self.config.maxTorque ≤ toInt32 torque ∧ toInt32 torque ≤ self.config.maxTorque := by
    rw [toInt32_small (by omega) (by omega)]
    exact bounds
  exact kept rounded

theorem torqueSlew_between (limited : self.Limited) {desired : Int}
    (within : -self.config.maxTorque ≤ desired ∧ desired ≤ self.config.maxTorque) :
    -self.config.maxTorque ≤ self.applyTorqueSlew desired ∧
      self.applyTorqueSlew desired ≤ self.config.maxTorque := by
  obtain ⟨-, rates, torque⟩ := limited
  unfold applyTorqueSlew clampInt
  dsimp only
  split_ifs <;> omega

theorem steeringRequest_keeps (active : Bool) (angle : Double) :
    (self.updateSteeringRequest active angle).1.config = self.config ∧
      (self.updateSteeringRequest active angle).1.lastTorque = self.lastTorque := by
  unfold updateSteeringRequest
  split <;> exact ⟨rfl, rfl⟩

/-- What a step with the lateral permission leaves of the limits, and what it answers. -/
structure Stepped (adapter next : CommandAdapter) (lateralAllowed : Bool)
    (output answer : ControlOutput) : Prop where
  limited : next.Limited
  config : next.config = adapter.config
  torque : answer.steeringTorque = next.lastTorque
  released : lateralAllowed = false → answer.steeringTorque = 0 ∧ answer.steeringRequest = false
  longitudinal : answer.longitudinalActive = output.longitudinalActive ∧
    answer.accelerationMps2 = output.accelerationMps2 ∧ answer.stopping = output.stopping

theorem steer_stepped (limited : self.Limited) (output : ControlOutput) :
    Stepped self (self.steer arithmetic command vehicle dt output).1 true output
      (self.steer arithmetic command vehicle dt output).2 := by
  obtain ⟨config, torque⟩ := @desiredTorque_keeps arithmetic self command vehicle dt
  unfold steer
  dsimp only
  generalize self.desiredTorque arithmetic command vehicle dt = desired at config torque
  have desiredLimited : desired.1.Limited := by
    obtain ⟨valid, rates, last⟩ := limited
    rw [← config] at valid rates last
    rw [← torque] at last
    exact ⟨valid, rates, last⟩
  have driver := @driverTorqueLimits_between arithmetic desired.1 desiredLimited
    (clampInt desired.2 (-self.config.maxTorque) self.config.maxTorque) vehicle.driverTorque
  have slewed := torqueSlew_between desiredLimited driver
  generalize desired.1.applyTorqueSlew _ = result at slewed
  obtain ⟨kept, last⟩ := @steeringRequest_keeps { desired.1 with lastTorque := result } true
    vehicle.steeringAngleDeg
  refine ⟨⟨?_, ?_, ?_⟩, ?_, ?_, nofun, rfl, rfl, rfl⟩
  · rw [kept]
    exact desiredLimited.valid
  · rw [kept]
    exact desiredLimited.rates
  · rw [kept, last]
    exact slewed
  · exact kept.trans config
  · exact last.symm

theorem release_stepped (limited : self.Limited) (output : ControlOutput) :
    Stepped self (self.releaseSteering vehicle output).1 false output
      (self.releaseSteering vehicle output).2 := by
  obtain ⟨valid, rates, last⟩ := limited
  refine ⟨⟨valid, rates, ?_⟩, rfl, rfl, fun _ => ⟨rfl, rfl⟩, rfl, rfl, rfl⟩
  show -self.config.maxTorque ≤ 0 ∧ 0 ≤ self.config.maxTorque
  omega

/-- `update` throws, keeping to the limits, or steps from the adapter reset when it must be. -/
theorem update_cases (limited : self.Limited) (lateralAllowed longitudinalAllowed : Bool) :
    (∃ start what, start.Limited ∧ start.config = self.config ∧
      self.update arithmetic command vehicle dt lateralAllowed longitudinalAllowed =
        (start, .error what)) ∨
      ∃ start next answer, start.Limited ∧ start.config = self.config ∧
        self.update arithmetic command vehicle dt lateralAllowed longitudinalAllowed =
          (next, .ok answer) ∧
        Stepped start next lateralAllowed
          (start.longitudinalOutput arithmetic command vehicle longitudinalAllowed) answer := by
  have started : (if self.initialized then self else self.reset vehicle).Limited ∧
      (if self.initialized then self else self.reset vehicle).config = self.config := by
    split
    · exact ⟨limited, rfl⟩
    · exact ⟨limited.reset vehicle, rfl⟩
  unfold update
  dsimp only
  generalize (if self.initialized then self else self.reset vehicle) = start at started
  obtain ⟨startLimited, config⟩ := started
  split
  · exact Or.inl ⟨self, _, limited, rfl, rfl⟩
  · split
    · exact Or.inl ⟨start, _, startLimited, config, rfl⟩
    · refine Or.inr ⟨start, ?_⟩
      cases lateralAllowed with
      | true => exact ⟨_, _, startLimited, config, rfl, steer_stepped startLimited _⟩
      | false => exact ⟨_, _, startLimited, config, rfl, release_stepped startLimited _⟩

end Limits

/-! ## Reachable adapters -/

inductive Reachable (arithmetic : Arithmetic) (config : CommandAdapterConfig) :
    CommandAdapter → Prop
  | created {adapter : CommandAdapter} (created : create config = .ok adapter) :
      Reachable arithmetic config adapter
  | reset {adapter : CommandAdapter} (reached : Reachable arithmetic config adapter)
      (vehicle : VehicleStateData) : Reachable arithmetic config (adapter.reset vehicle)
  | updated {adapter : CommandAdapter} (reached : Reachable arithmetic config adapter)
      (command : CommandSample) (vehicle : VehicleStateData) (dt : Double)
      (lateralAllowed longitudinalAllowed : Bool) :
      Reachable arithmetic config
        (adapter.update arithmetic command vehicle dt lateralAllowed longitudinalAllowed).1

theorem Reachable.limited {arithmetic : Arithmetic} {config : CommandAdapterConfig}
    {adapter : CommandAdapter} (reached : Reachable arithmetic config adapter) :
    adapter.Limited ∧ adapter.config = config := by
  induction reached with
  | created created =>
      obtain ⟨same, limited⟩ := create_limited created
      exact ⟨limited, same⟩
  | reset _ vehicle ih => exact ⟨ih.1.reset vehicle, ih.2⟩
  | @updated adapter _ command vehicle dt lateralAllowed longitudinalAllowed ih =>
      rcases @update_cases arithmetic adapter command vehicle dt ih.1 lateralAllowed
        longitudinalAllowed with ⟨start, what, limited, same, threw⟩ |
          ⟨start, next, answer, -, same, stepped, kept⟩
      · rw [threw]
        exact ⟨limited, same.trans ih.2⟩
      · rw [stepped]
        exact ⟨kept.limited, kept.config.trans (same.trans ih.2)⟩

end CommandAdapter
end Ioniq5Ecan
