import Mathlib.Tactic.Linarith
import Ioniq5Ecan.Scripts.SteeringSweep

/-! # What the sweep may ask of the Panda

The monitor follows the safety mode, the torque that was sent last, the
permission of the last health packet, the speed that was received last and the
ECUs that are silent. -/
set_option autoImplicit false
namespace Ioniq5Ecan.Sweep

open Library (Monitor Program)
open Library.Program (ask fetch change raise raiseIf Within Keeping)
open Ecus (requestAddress startsWith)

/-! ## The arithmetic -/

theorem rateLimitTorque_bound {desired previous : Int} (wanted : -270 ≤ desired ∧ desired ≤ 270)
    (bound : -270 ≤ previous ∧ previous ≤ 270) :
    -270 ≤ rateLimitTorque desired previous ∧ rateLimitTorque desired previous ≤ 270 := by
  unfold rateLimitTorque clipTorque
  split <;> omega

/-- A torque that only ramps down reaches zero by three counts a step. -/
theorem rateLimitTorque_zero (previous : Int) :
    (rateLimitTorque 0 previous).natAbs = previous.natAbs - 3 := by
  unfold rateLimitTorque clipTorque
  split <;> omega

theorem clip_between {value lower upper : Rat} (ordered : lower ≤ upper) :
    lower ≤ clip value lower upper ∧ clip value lower upper ≤ upper :=
  ⟨le_min (le_max_right _ _) ordered, min_le_right _ _⟩

theorem roundHalfEven_between {value : Rat} {lower upper : Int} (above : (lower : Rat) ≤ value)
    (below : value ≤ upper) : lower ≤ roundHalfEven value ∧ roundHalfEven value ≤ upper := by
  have floor : lower ≤ ⌊value⌋ := Int.le_floor.mpr above
  have least : (⌊value⌋ : Rat) ≤ value := Int.floor_le value
  have atMost : ⌊value⌋ ≤ upper := by
    have : (⌊value⌋ : Rat) ≤ upper := le_trans least below
    exact_mod_cast this
  unfold roundHalfEven
  dsimp only
  -- rounding up needs a fraction, so the floor is below the upper bound
  have up : ¬ value - ⌊value⌋ < 1 / 2 → ⌊value⌋ + 1 ≤ upper := by
    intro fraction
    have less : (⌊value⌋ : Rat) < upper := by linarith
    have strict : ⌊value⌋ < upper := by exact_mod_cast less
    omega
  split
  · omega
  · rename_i fraction
    have room := up fraction
    split
    · omega
    · split <;> omega

theorem desiredTorque_between {gain bound error : Rat} {limit : Int} (isLimit : bound = limit)
    (positive : 0 ≤ bound) :
    -limit ≤ desiredTorque gain bound error ∧ desiredTorque gain bound error ≤ limit := by
  have within := @clip_between (gain * error) (-bound) bound (by linarith)
  apply roundHalfEven_between
  · rw [Int.cast_neg, ← isLimit]
    exact within.1
  · rw [← isLimit]
    exact within.2

/-! ## The view -/

def silenceRequest : List UInt8 := singleFrame [0x28, 0x83, 0x01]
def enableRequest : List UInt8 := singleFrame [0x28, 0x00, 0x01]

structure SweepView where
  mode : Option (Nat × Nat) := none
  torque : Int := 0
  permitted : Bool := false
  wheel : Option Rat := none
  replies : EcuId → List (List UInt8) := fun _ => []
  silenced : EcuId → Bool := fun _ => false
  /-- The last mode asked for was `NO_OUTPUT`. -/
  standby : Bool := false
  closed : Bool := false
  failures : Nat := 0

namespace SweepView

def wheelFrame (frame : RxFrame) : Bool :=
  frame.bus == 0 && frame.address == 0xA0 && frame.data.length == 24

/-- The speed after a frame. -/
def wheelAfter (wheel : Option Rat) (frame : RxFrame) : Option Rat :=
  if wheelFrame frame then some (wheelOf frame.data) else wheel

def saw (view : SweepView) (frames : List RxFrame) : SweepView :=
  { view with
    wheel := frames.foldl wheelAfter view.wheel
    replies := fun ecu => view.replies ecu ++ frames.filterMap (responseOf ecu) }

/-- A request starts the replies of its ECU again; one to be silent counts once the call returns, one
to talk when it is tried. -/
def wrote (view : SweepView) (address : UInt32) (data : List UInt8) (returned : Bool) : SweepView :=
  { view with
    replies := fun ecu =>
      if address = requestAddress ecu ∧ data ≠ testerPresent then [] else view.replies ecu
    silenced := fun ecu =>
      if address = requestAddress ecu ∧ data = silenceRequest then
        view.silenced ecu || returned
      else if address = requestAddress ecu ∧ data = enableRequest then false
      else view.silenced ecu }

/-- The torque of the last LFA frame. -/
def torqueAfter (torque : Int) : SweepFrame → Int
  | .lfa torque _ _ => torque
  | _ => torque

def sent (view : SweepView) (frames : List SweepFrame) : SweepView :=
  { view with torque := frames.foldl torqueAfter view.torque }

def changedMode (view : SweepView) (mode param : Nat) (returned : Bool) : SweepView :=
  { view with
    mode := if returned then some (mode, param) else none
    permitted := false
    standby := mode == noOutput }

def failed (view : SweepView) {Value : Type} (answer : Except Failure Value) : SweepView :=
  { view with failures := if answer.isOk then view.failures else view.failures + 1 }

def notesAnswer (view : SweepView) : (question : SweepAsk) → SweepAnswer question → SweepView
  | .canRecv, (.ok frames : Except Failure (List RxFrame)) => view.saw frames
  | .canSend address data, (answer : Except Failure Unit) => view.wrote address data answer.isOk
  | .canSendMany frames, _ => view.sent frames
  | .health, (.ok health : Except Failure SweepHealth) =>
      { view with permitted := health.controlsAllowed }
  | .setSafetyMode mode param, (answer : Except Failure Unit) =>
      view.changedMode mode param answer.isOk
  | .close, _ => { view with closed := true }
  | _, _ => view

def notes (view : SweepView) (question : SweepAsk) (answer : SweepAnswer question) : SweepView :=
  (view.notesAnswer question answer).failed answer

def InElm327 (view : SweepView) : Prop := view.mode = some (elm327, elm327EcanParam)

def InTest (view : SweepView) : Prop := view.mode = some (hyundaiCanFd, ecanSteeringTestParam)

def Answered (view : SweepView) (ecu : EcuId) (expected : List UInt8) : Prop :=
  ∃ response ∈ view.replies ecu, startsWith response expected = true

end SweepView

section Monitoring
variable (settings : SweepSettings)

/-- The speed up to which the car may be driven. -/
def SweepSettings.speedCap : Rat :=
  if settings.rollingTest then max (1 / 2) settings.rollingMaxKph else 1 / 2

/-- The acceleration is between the bounds of the arguments. -/
def SweepSettings.Accelerates (value : Rat) : Prop :=
  -settings.decelMaxMps2 ≤ value ∧ value ≤ settings.accelMaxMps2

/-- What the parser has checked and the run relies on. -/
structure SweepSettings.Accepted : Prop where
  rolling : settings.longitudinalTest = true → settings.rollingTest = true
  accel : 1 / 10 ≤ settings.accelMaxMps2
  decel : 1 / 10 ≤ settings.decelMaxMps2

namespace SweepView

/-- The Panda allows controls, and the car was slow enough when it was last heard. -/
def Drives (view : SweepView) : Prop :=
  view.permitted = true ∧ ∃ wheel, view.wheel = some wheel ∧ wheel ≤ settings.speedCap

/-- The diagnostics in their order. -/
inductive Diagnostic (view : SweepView) (address : UInt32) (data : List UInt8) : Prop
  | testerPresent (ecu : EcuId) (sentTo : address = requestAddress ecu)
      (isPresent : data = Sweep.testerPresent) (mode : view.InElm327 ∨ view.InTest)
  | session (ecu : EcuId) (sentTo : address = requestAddress ecu)
      (isSession : data = singleFrame [0x10, 0x03]) (mode : view.InElm327)
  | silence (ecu : EcuId) (sentTo : address = requestAddress ecu) (used : ecu ∈ settings.ecuSessions)
      (isSilence : data = silenceRequest) (mode : view.InElm327)
      (answered : view.Answered ecu [0x50, 0x03])
  | enable (ecu : EcuId) (sentTo : address = requestAddress ecu)
      (isEnable : data = enableRequest) (mode : view.InElm327)
  | default (ecu : EcuId) (sentTo : address = requestAddress ecu)
      (isDefault : data = singleFrame [0x10, 0x01]) (mode : view.InElm327)
      (answered : view.Answered ecu [0x68, 0x00])

/-- A torque moves by the rate limit and within its bound.  Without the drive permission it only
ramps down; an enabled SCC frame needs it, and keeps the acceleration bounds. -/
def Control (view : SweepView) : SweepFrame → Prop
  | .lfa torque enabled steerRequest =>
      (-maxSteerTorque ≤ torque ∧ torque ≤ maxSteerTorque) ∧
        (∃ desired, torque = rateLimitTorque desired view.torque) ∧
        (steerRequest = true → enabled = true) ∧
        (view.Drives settings ∨ torque = rateLimitTorque 0 view.torque)
  | .cluster _ => True
  | .sccControl _ _ accelRaw accelValue enabled _ _ =>
      settings.longitudinalTest = true ∧
        (enabled = true → view.Drives settings) ∧
        settings.Accelerates accelRaw ∧ settings.Accelerates accelValue
  | .fcaWarning => settings.longitudinalTest = true

def Permits (view : SweepView) : SweepAsk → Prop
  | .canSend address data => view.Diagnostic settings address data
  | .canSendMany frames => view.InTest ∧ ∀ frame ∈ frames, view.Control settings frame
  | .sendHeartbeat engaged => engaged = true → view.permitted = true
  | .setSafetyMode mode param =>
      (mode = elm327 ∧ param = elm327EcanParam) ∨ (mode = noOutput ∧ param = 0) ∨
        (mode = hyundaiCanFd ∧ param = ecanSteeringTestParam ∧
          ∀ ecu ∈ settings.ecuSessions, view.silenced ecu = true)
  | _ => True

/-- Nothing is asked of a closed Panda. -/
def allows (view : SweepView) (question : SweepAsk) : Prop :=
  view.closed = false ∧ view.Permits settings question

end SweepView

def sweepMonitor : Monitor SweepAsk SweepAnswer SweepView where
  allows := SweepView.allows settings
  notes := SweepView.notes

end Monitoring

end Ioniq5Ecan.Sweep
