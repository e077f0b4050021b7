import Ioniq5Ecan.Vehicle.CanDashboard
import Ioniq5Ecan.Library.Runs

/-! # The two decoders of the vehicle

`VehicleStateParser` and `CanDashboardData` read the same frames.  Each holds
what a frame reports (`update_parsed`, `feed_signals`), the dashboard only of a
frame that is not extended: the parser takes an extended frame whose identifier
has the number of a vehicle message for that message. -/
set_option autoImplicit false
namespace Ioniq5Ecan

open Library

/-! ## Vehicle messages -/

/-- A vehicle message, but for the length of its identifier. -/
structure BusFrame.VehicleMessage (bus : UInt8) (frame : BusFrame) : Prop where
  heard : frame.bus = bus ∧ frame.returned = false ∧ frame.rejected = false
  sized : CanDashboardData.sizes frame.address = some frame.size.toNat
  checked : frame.address ≠ 0x0E5 → frame.checksumValid = some true
  quality : frame.address = 0x04A ∨ frame.address = 0x0E5 → frame.motionValid = true

section Messages
variable {frame : CanFrame}

theorem wellFormed_iff {size : UInt8} {hasCrc : Bool} :
    frame.wellFormed size hasCrc = true ↔
      frame.size.toNat = size.toNat ∧ (hasCrc = true → frame.checksumValid = some true) := by
  unfold CanFrame.wellFormed
  rw [Bool.and_eq_true, beq_iff_eq, UInt8.toNat_inj]
  cases hasCrc with
  | false => simp
  | true => simp

theorem motion_isSome : frame.motion.isSome = frame.motionValid := by
  unfold CanFrame.motion
  cases frame.motionValid with
  | true => rfl
  | false => rfl

theorem wellFormed_isSome {size : UInt8} {hasCrc : Bool} {measured : Option Measurement}
    (sized : CanDashboardData.sizes frame.address = some size.toNat)
    (crc : frame.address ≠ 0x0E5 ↔ hasCrc = true)
    (quality : measured.isSome = true ↔
      (frame.address = 0x04A ∨ frame.address = 0x0E5 → frame.motionValid = true)) :
    (if frame.wellFormed size hasCrc then measured else none).isSome = true ↔
      CanDashboardData.sizes frame.address = some frame.size.toNat ∧
        (frame.address ≠ 0x0E5 → frame.checksumValid = some true) ∧
        (frame.address = 0x04A ∨ frame.address = 0x0E5 → frame.motionValid = true) := by
  rw [sized, crc, ← quality, Option.some.injEq, eq_comm (b := frame.size.toNat), ← and_assoc,
    ← wellFormed_iff]
  cases frame.wellFormed size hasCrc with
  | true => simp
  | false => simp

theorem checked_isSome {size : UInt8} {measured : Measurement} {address : UInt32}
    (known : frame.address = address)
    (sized : CanDashboardData.sizes address = some size.toNat)
    (notImu : address ≠ 0x04A) (notEsc : address ≠ 0x0E5) :
    (if frame.wellFormed size true then some measured else none).isSome = true ↔
      CanDashboardData.sizes frame.address = some frame.size.toNat ∧
        (frame.address ≠ 0x0E5 → frame.checksumValid = some true) ∧
        (frame.address = 0x04A ∨ frame.address = 0x0E5 → frame.motionValid = true) := by
  subst known
  refine wellFormed_isSome sized (iff_of_true notEsc rfl) (iff_of_true rfl ?_)
  rintro (imu | esc)
  · exact absurd imu notImu
  · exact absurd esc notEsc

theorem measurement_isSome :
    frame.measurement.isSome = true ↔
      CanDashboardData.sizes frame.address = some frame.size.toNat ∧
        (frame.address ≠ 0x0E5 → frame.checksumValid = some true) ∧
        (frame.address = 0x04A ∨ frame.address = 0x0E5 → frame.motionValid = true) := by
  have motion : frame.motion.isSome = true ↔ frame.motionValid = true := by rw [motion_isSome]
  unfold CanFrame.measurement
  by_cases imu : (frame.address == 0x04A) = true
  · rw [if_pos imu]
    have address := beq_iff_eq.mp imu
    refine wellFormed_isSome ?_ ?_ ?_
    · rw [address]; rfl
    · rw [address]; decide
    · exact motion.trans ⟨fun valid _ => valid, fun valid => valid (.inl address)⟩
  rw [if_neg imu]
  by_cases esc : (frame.address == 0x0E5) = true
  · rw [if_pos esc]
    have address := beq_iff_eq.mp esc
    refine wellFormed_isSome ?_ ?_ ?_
    · rw [address]; rfl
    · rw [address]; decide
    · exact motion.trans ⟨fun valid _ => valid, fun valid => valid (.inr address)⟩
  rw [if_neg esc]
  by_cases steering : (frame.address == 0x125) = true
  · rw [if_pos steering]
    exact checked_isSome (beq_iff_eq.mp steering) rfl (by decide) (by decide)
  rw [if_neg steering]
  by_cases mdps : (frame.address == 0x0EA) = true
  · rw [if_pos mdps]
    exact checked_isSome (beq_iff_eq.mp mdps) rfl (by decide) (by decide)
  rw [if_neg mdps]
  by_cases wheels : (frame.address == 0x0A0) = true
  · rw [if_pos wheels]
    exact checked_isSome (beq_iff_eq.mp wheels) rfl (by decide) (by decide)
  rw [if_neg wheels]
  by_cases tcs : (frame.address == 0x175) = true
  · rw [if_pos tcs]
    exact checked_isSome (beq_iff_eq.mp tcs) rfl (by decide) (by decide)
  rw [if_neg tcs]
  by_cases accelerator : (frame.address == 0x035) = true
  · rw [if_pos accelerator]
    exact checked_isSome (beq_iff_eq.mp accelerator) rfl (by decide) (by decide)
  rw [if_neg accelerator]
  have unknown : CanDashboardData.sizes frame.address = none := by
    unfold CanDashboardData.sizes
    rw [if_neg imu, if_neg esc, if_neg steering, if_neg mdps, if_neg wheels, if_neg tcs,
      if_neg accelerator]
  rw [unknown]
  simp

end Messages

theorem BusFrame.reported_isSome {bus : UInt8} {frame : BusFrame} :
    (frame.reported bus).isSome = true ↔ frame.VehicleMessage bus := by
  unfold BusFrame.reported
  constructor
  · intro reports
    split at reports
    · cases reports
    · next heard =>
      simp only [Bool.or_eq_true, bne_iff_ne, not_or, Bool.not_eq_true, not_not] at heard
      obtain ⟨sized, checked, quality⟩ := measurement_isSome.mp reports
      exact ⟨⟨heard.2, heard.1.2, heard.1.1⟩, sized, checked, quality⟩
  · intro message
    obtain ⟨bus, returned, rejected⟩ := message.heard
    rw [bus, returned, rejected, bne_self_eq_false]
    exact measurement_isSome.mpr ⟨message.sized, message.checked, message.quality⟩

/-! ## What is refused -/

/-- The frame changes no vehicle signal of a parser of the bus. -/
def StateParser.Refuses (bus : UInt8) (frame : BusFrame) : Prop :=
  ∀ parser : StateParser, parser.ecanBus = bus → parser.useCameraBus = false →
    ∀ after read, parser.update frame = some (after, read) →
      after.state.signals = parser.state.signals

/-- The frame changes no vehicle signal of a dashboard of the bus. -/
def CanDashboardData.Refuses (bus : UInt8) (frame : BusFrame) : Prop :=
  ∀ (dashboard : CanDashboardData) (now : Rat), dashboard.bus = bus →
    (dashboard.feed frame.rawCan now).values.signals = dashboard.values.signals

section Refusals
variable {bus : UInt8} {frame : BusFrame}

theorem StateSignals.exists_hold_ne (measurement : Measurement) :
    ∃ state : VehicleStateData, state.signals.hold measurement ≠ state.signals := by
  cases measurement with
  | dynamics yawRate lateral longitudinal =>
      refine ⟨{ yawRateDegS := .nan }, fun same => ?_⟩
      cases congrArg StateSignals.yawRateDegS same
  | steering angle =>
      refine ⟨{ steeringAngleDeg := .nan }, fun same => ?_⟩
      cases congrArg StateSignals.steeringAngleDeg same
  | mdps driverTorque epsTorque epsFault =>
      refine ⟨{ driverTorque := .nan }, fun same => ?_⟩
      cases congrArg StateSignals.driverTorque same
  | wheels first second third fourth =>
      refine ⟨{ speedMps := .nan }, fun same => ?_⟩
      cases congrArg StateSignals.speedMps same
  | tcs brakePressed accFault =>
      refine ⟨{ brakePressed := !brakePressed }, fun same => ?_⟩
      have brake : brakePressed = !brakePressed := congrArg StateSignals.brakePressed same
      exact (Bool.eq_not_self brakePressed).mp brake
  | accelerator pedal gear =>
      refine ⟨{ acceleratorPedal := .nan }, fun same => ?_⟩
      cases congrArg StateSignals.acceleratorPedal same

theorem DashboardSignals.hold_empty_ne (measurement : Measurement) :
    ({} : DashboardSignals).hold measurement ≠ {} := by
  intro same
  cases measurement with
  | dynamics yawRate lateral longitudinal => cases congrArg DashboardSignals.yawRateDegS same
  | steering angle => cases congrArg DashboardSignals.steeringAngleDeg same
  | mdps driverTorque epsTorque epsFault => cases congrArg DashboardSignals.epsFault same
  | wheels first second third fourth => cases congrArg DashboardSignals.speedKph same
  | tcs brakePressed accFault => cases congrArg DashboardSignals.brakePressed same
  | accelerator pedal gear => cases congrArg DashboardSignals.gearRaw same

theorem StateParser.refuses_iff : StateParser.Refuses bus frame ↔ ¬ frame.VehicleMessage bus := by
  rw [← BusFrame.reported_isSome]
  constructor
  · intro refuses reports
    obtain ⟨measurement, reported⟩ := Option.isSome_iff_exists.mp reports
    obtain ⟨state, changes⟩ := StateSignals.exists_hold_ne measurement
    let parser : StateParser := { state := state, ecanBus := bus }
    obtain ⟨after, read, updated, parsed⟩ := update_parsed parser rfl frame
    have held : after.state.signals = state.signals.holdAny (frame.reported bus) := parsed.signals
    rw [reported] at held
    exact changes (held.symm.trans (refuses parser rfl rfl after read updated))
  · intro silent parser ecan noCamera after read updated
    obtain ⟨other, otherRead, otherUpdated, parsed⟩ := parser.update_parsed noCamera frame
    rw [updated] at otherUpdated
    cases otherUpdated
    have held := parsed.signals
    rw [ecan, Option.not_isSome_iff_eq_none.mp silent] at held
    exact held

theorem CanDashboardData.refuses_iff :
    CanDashboardData.Refuses bus frame ↔ (frame.extended = true ∨ ¬ frame.VehicleMessage bus) := by
  rw [← BusFrame.reported_isSome]
  constructor
  · intro refuses
    by_contra taken
    obtain ⟨standard, reports⟩ := not_or.mp taken
    obtain ⟨measurement, reported⟩ := Option.isSome_iff_exists.mp (not_not.mp reports)
    have held := feed_signals { bus := bus } frame 0
    rw [if_neg standard, refuses { bus := bus } 0 rfl, reported] at held
    exact DashboardSignals.hold_empty_ne measurement held.symm
  · intro ignored dashboard now own
    have held := dashboard.feed_signals frame now
    rcases ignored with extended | silent
    · rw [if_pos extended] at held
      exact held
    · rw [own, Option.not_isSome_iff_eq_none.mp silent, ite_self] at held
      exact held

end Refusals

/-! ## Both decoders on one stream -/

/-- What the dashboard holds in the units of the state, over what the state starts from. -/
def DashboardSignals.over (signals : DashboardSignals) (initial : StateSignals) : StateSignals where
  yawRateDegS := (signals.yawRateDegS.map .finite).getD initial.yawRateDegS
  lateralAccelMps2 := (signals.lateralAccelMps2.map .finite).getD initial.lateralAccelMps2
  longitudinalAccelMps2 :=
    (signals.longitudinalAccelMps2.map .finite).getD initial.longitudinalAccelMps2
  steeringAngleDeg := (signals.steeringAngleDeg.map .finite).getD initial.steeringAngleDeg
  driverTorque := (signals.driverTorqueCounts.map .finite).getD initial.driverTorque
  epsTorqueNm := (signals.epsTorqueNm.map .finite).getD initial.epsTorqueNm
  epsFault := signals.epsFault.getD initial.epsFault
  wheelSpeedFl :=
    (signals.wheelSpeedsKph.map fun speeds => .finite (speeds.1 * kphToMps)).getD
      initial.wheelSpeedFl
  wheelSpeedFr :=
    (signals.wheelSpeedsKph.map fun speeds => .finite (speeds.2.1 * kphToMps)).getD
      initial.wheelSpeedFr
  wheelSpeedRl :=
    (signals.wheelSpeedsKph.map fun speeds => .finite (speeds.2.2.1 * kphToMps)).getD
      initial.wheelSpeedRl
  wheelSpeedRr :=
    (signals.wheelSpeedsKph.map fun speeds => .finite (speeds.2.2.2 * kphToMps)).getD
      initial.wheelSpeedRr
  speedMps :=
    (signals.speedKph.map fun speed => .finite (speed * kphToMps)).getD initial.speedMps
  brakePressed := signals.brakePressed.getD initial.brakePressed
  accFault := signals.accFault.getD initial.accFault
  acceleratorPedal :=
    (signals.acceleratorRaw.map fun (pedal : Nat) => .finite pedal).getD initial.acceleratorPedal
  gear := signals.gearRaw.getD initial.gear

theorem DashboardSignals.hold_over (signals : DashboardSignals) (initial : StateSignals)
    (measurement : Measurement) :
    (signals.hold measurement).over initial = (signals.over initial).hold measurement := by
  cases measurement with
  | dynamics yawRate lateral longitudinal => rfl
  | steering angle => rfl
  | mdps driverTorque epsTorque epsFault => rfl
  | wheels first second third fourth => rfl
  | tcs brakePressed accFault => rfl
  | accelerator pedal gear => rfl

structure Decoders where
  parser : StateParser
  dashboard : CanDashboardData

namespace Decoders

def fresh (ecanBus cameraBus : UInt8) (alternateButtons : Bool) : Decoders where
  parser :=
    { ecanBus := ecanBus, cameraBus := cameraBus, alternateButtons := alternateButtons,
      useCameraBus := false }
  dashboard := { bus := ecanBus }

/-- A received frame, with the time of the dashboard's callback. -/
def system : EventSystem Decoders (BusFrame × Rat) where
  step decoders event :=
    (decoders.parser.update event.1).map fun updated =>
      { parser := updated.1, dashboard := decoders.dashboard.feed event.1.rawCan event.2 }

/-- The dashboard's signals are the parser's, in its units. -/
def Agree (decoders : Decoders) : Prop :=
  decoders.parser.state.signals =
    decoders.dashboard.values.signals.over ({} : VehicleStateData).signals

instance (decoders : Decoders) : Decidable decoders.Agree :=
  inferInstanceAs (Decidable (_ = _))

/-- After every part of the run both hold the same, and of each frame both refuse or neither. -/
structure SameDecoding (start : Decoders) (events : List (BusFrame × Rat)) : Prop where
  held : ∀ first last, events = first ++ last →
    ∃ reached, system.exec start first = some reached ∧ reached.Agree
  refused : ∀ event ∈ events,
    StateParser.Refuses start.parser.ecanBus event.1 ↔
      CanDashboardData.Refuses start.dashboard.bus event.1

structure Aligned (bus : UInt8) (decoders : Decoders) : Prop where
  ecanBus : decoders.parser.ecanBus = bus
  useCameraBus : decoders.parser.useCameraBus = false
  bus : decoders.dashboard.bus = bus
  agree : decoders.Agree

section Runs
variable {bus : UInt8} {decoders : Decoders}

theorem step_aligned (aligned : decoders.Aligned bus) (frame : BusFrame) (now : Rat)
    (noAlias : frame.extended = true → ¬ frame.VehicleMessage bus) :
    ∃ next, system.step decoders (frame, now) = some next ∧ next.Aligned bus := by
  obtain ⟨after, read, updated, parsed⟩ :=
    decoders.parser.update_parsed aligned.useCameraBus frame
  have fed := decoders.dashboard.feed_signals frame now
  have adds : (if frame.extended then none else frame.reported bus) = frame.reported bus := by
    split
    · next extended =>
      exact (Option.not_isSome_iff_eq_none.mp
        (mt BusFrame.reported_isSome.mp (noAlias extended))).symm
    · rfl
  refine ⟨⟨after, decoders.dashboard.feed frame.rawCan now⟩, ?_, ?_, ?_, ?_, ?_⟩
  · unfold system
    dsimp only
    rw [updated, Option.map_some]
  · exact parsed.ecanBus.trans aligned.ecanBus
  · exact parsed.useCameraBus.trans aligned.useCameraBus
  · exact (CanDashboardData.feed_bus _).trans aligned.bus
  · have held := parsed.signals
    rw [aligned.ecanBus, aligned.agree] at held
    rw [aligned.bus, adds] at fed
    unfold Agree
    rw [held, fed]
    cases frame.reported bus with
    | none => rfl
    | some measurement => exact (DashboardSignals.hold_over _ _ measurement).symm

theorem exec_aligned (events : List (BusFrame × Rat)) :
    ∀ decoders : Decoders, decoders.Aligned bus →
      (∀ event ∈ events, event.1.extended = true → ¬ event.1.VehicleMessage bus) →
        ∃ reached, system.exec decoders events = some reached ∧ reached.Aligned bus := by
  induction events with
  | nil =>
      intro decoders aligned _
      exact ⟨decoders, rfl, aligned⟩
  | cons event rest ih =>
      intro decoders aligned noAlias
      obtain ⟨frame, now⟩ := event
      obtain ⟨next, step, stepped⟩ :=
        step_aligned aligned frame now (noAlias _ (List.mem_cons_self ..))
      obtain ⟨reached, run, last⟩ :=
        ih next stepped fun other member => noAlias other (List.mem_cons_of_mem _ member)
      exact ⟨reached, Option.bind_eq_some_iff.mpr ⟨next, step, run⟩, last⟩

theorem fresh_aligned (ecanBus cameraBus : UInt8) (alternateButtons : Bool) :
    (fresh ecanBus cameraBus alternateButtons).Aligned ecanBus :=
  ⟨rfl, rfl, rfl, rfl⟩

/-- The decoders agree on exactly the runs in which no vehicle message is extended. -/
theorem same_decoding_iff (ecanBus cameraBus : UInt8) (alternateButtons : Bool)
    (events : List (BusFrame × Rat)) :
    SameDecoding (fresh ecanBus cameraBus alternateButtons) events ↔
      ∀ event ∈ events, event.1.extended = true → ¬ event.1.VehicleMessage ecanBus := by
  constructor
  · intro same event member extended
    have both := same.refused event member
    exact StateParser.refuses_iff.mp
      (both.mpr (CanDashboardData.refuses_iff.mpr (.inl extended)))
  · intro noAlias
    refine ⟨fun first last whole => ?_, fun event member => ?_⟩
    · obtain ⟨reached, run, aligned⟩ := exec_aligned first _
        (fresh_aligned ecanBus cameraBus alternateButtons) fun event member =>
          noAlias event (by rw [whole]; exact List.mem_append_left _ member)
      exact ⟨reached, run, aligned.agree⟩
    · have silent := noAlias event member
      refine StateParser.refuses_iff.trans (Iff.trans ?_ CanDashboardData.refuses_iff.symm)
      exact ⟨.inr, fun refused => refused.elim silent id⟩

/-- `ESC_02_10ms` under an extended identifier. -/
def extendedEsc : BusFrame where
  address := 0x0E5
  bus := 0
  size := 32
  data := Vector.replicate 64 0
  receivedAt := 0
  extended := true

/-- The parser turns the extended frame into a yaw rate, the dashboard does not. -/
theorem extended_esc_differs : ¬ SameDecoding (fresh 0 2 false) [(extendedEsc, 0)] := by
  intro same
  obtain ⟨reached, run, agree⟩ := same.held [(extendedEsc, 0)] [] rfl
  have differs : (system.exec (fresh 0 2 false) [(extendedEsc, 0)]).all fun reached =>
      !decide reached.Agree := by
    decide +kernel
  rw [run] at differs
  simp [agree] at differs

end Runs

end Decoders

end Ioniq5Ecan
