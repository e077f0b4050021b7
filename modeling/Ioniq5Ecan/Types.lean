import Ioniq5Ecan.Library.Double

/-! # Samples exchanged between the threads

`types.hpp`: the command, vehicle and Panda samples and the control state.
A time point is a count of steady-clock nanoseconds, zero being the value a
default-constructed `TimePoint` has. -/
set_option autoImplicit false
namespace Ioniq5Ecan

open Library (Double)

abbrev TimePoint := Int
abbrev Milliseconds := Int

def nanosecondsPerMillisecond : Int := 1000000

def seconds (count : Int) : Int := count * 1000000000

/-- `recent`: stamped, not after `now`, and at most `timeout` old. -/
def recent (timestamp now : TimePoint) (timeout : Milliseconds) : Bool :=
  timestamp != 0 && decide (timestamp ≤ now) &&
    decide (now - timestamp ≤ timeout * nanosecondsPerMillisecond)

theorem recent_iff (timestamp now : TimePoint) (timeout : Milliseconds) :
    recent timestamp now timeout = true ↔
      timestamp ≠ 0 ∧ timestamp ≤ now ∧
        now - timestamp ≤ timeout * nanosecondsPerMillisecond := by
  simp [recent, and_assoc]

structure CommandSample where
  lateral : Double := .zero
  accelerationMps2 : Double := .zero
  enable : Bool := false
  valid : Bool := false
  sequence : UInt32 := 0
  receivedAt : TimePoint := 0
  deriving DecidableEq

structure VehicleStateData where
  speedMps : Double := .zero
  yawRateDegS : Double := .zero
  lateralAccelMps2 : Double := .zero
  longitudinalAccelMps2 : Double := .zero
  wheelSpeedFl : Double := .zero
  wheelSpeedFr : Double := .zero
  wheelSpeedRl : Double := .zero
  wheelSpeedRr : Double := .zero
  steeringAngleDeg : Double := .zero
  steeringRateDegS : Double := .zero
  driverTorque : Double := .zero
  epsTorqueNm : Double := .zero
  acceleratorPedal : Double := .zero
  brakePressed : Bool := false
  gasPressed : Bool := false
  epsFault : Bool := false
  accFault : Bool := false
  cruiseEngaged : Bool := false
  standstill : Bool := true
  gear : UInt8 := 0
  cruiseButton : UInt8 := 0
  laneKeepButtonPressed : Bool := false
  laneKeepButtonEvents : UInt64 := 0
  setButtonEvents : UInt64 := 0
  cancelButtonEvents : UInt64 := 0
  valid : Bool := false
  updatedAt : TimePoint := 0
  deriving DecidableEq

structure PandaHealth where
  commandSessionActive : Bool := false
  ignitionOn : Bool := false
  commandSessionReady : Bool := false
  commandSessionBlocked : Bool := false
  lateralSelected : Bool := false
  longitudinalSelected : Bool := false
  connected : Bool := false
  controlsAllowed : Bool := false
  heartbeatLost : Bool := false
  safetyRxChecksInvalid : Bool := false
  busOff : Bool := false
  faults : UInt32 := 0
  ignoredFaults : UInt32 := 0
  faultStatus : UInt8 := 0
  harnessStatus : UInt8 := 0
  safetyMode : UInt8 := 0
  safetyParam : UInt16 := 0
  safetyTxBlocked : UInt32 := 0
  lastRejectedAddress : UInt32 := 0
  safetyRxInvalid : UInt32 := 0
  txBufferOverflow : UInt32 := 0
  rxBufferOverflow : UInt32 := 0
  updatedAt : TimePoint := 0
  deriving DecidableEq

inductive ControlState
  | disconnected
  | passive
  | armed
  | active
  | fault
  | softDisabling
  deriving DecidableEq, Repr

/-- `sequence_is_newer`: zero is never ordered, otherwise serial arithmetic modulo 2^32. -/
def sequenceIsNewer (candidate previous : UInt32) : Bool :=
  if candidate == 0 || previous == 0 then true
  else candidate - previous != 0 && decide (candidate - previous < 0x80000000)

end Ioniq5Ecan
