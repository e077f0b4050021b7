import Ioniq5Ecan.Supervisor.Update

/-! # Silencing and restoring the ADAS ECUs

The work that `enter_vehicle_safety_mode` and `enter_no_output_mode` do on the
Panda while they hold the actuation mutex, with `disable_ecu`, `restore_ecu` and
`confirm_ecu_restored`.  Every USB call takes its outcome from a record: it
returns, or throws with a text.  `silenced` is not a variable of the code but
the state of the wire: the disable request was delivered and neither restore
function has counted a stock frame since. -/
set_option autoImplicit false
namespace Ioniq5Ecan

/-- A call that returns or throws `std::exception` with this text. -/
abbrev UsbOutcome := Except String Unit

def safetyElm327 : UInt8 := 3
def safetyNoOutput : UInt8 := 19
def safetyHyundaiCanFd : UInt8 := 28

/-! ## The retry schedule -/

structure RecoveryRetry where
  pending : Bool := false
  failures : UInt64 := 0
  nextAttempt : TimePoint := 0
  delay : Int := seconds 1
  deriving DecidableEq

namespace RecoveryRetry

def request (self : RecoveryRetry) (now : TimePoint) : RecoveryRetry :=
  if self.pending then self
  else { pending := true, failures := 0, delay := seconds 1, nextAttempt := now }

def due (self : RecoveryRetry) (now : TimePoint) : Bool :=
  self.pending && decide (self.nextAttempt ≤ now)

def failed (self : RecoveryRetry) (now : TimePoint) : RecoveryRetry :=
  if !self.pending then self
  else
    { self with
      failures := self.failures + 1
      nextAttempt := now + self.delay
      delay := if seconds 30 - self.delay ≤ self.delay then seconds 30
        else self.delay + self.delay }

def restored (self : RecoveryRetry) : RecoveryRetry := { self with pending := false }

end RecoveryRetry

def recoveryStandbyParam (profile : UInt16) (preserveSession listenerEnabled operatorDisarmed : Bool) :
    UInt16 :=
  if preserveSession || (listenerEnabled && !operatorDisarmed) then profile else 0

/-! ## One ECU -/

structure Ecu where
  disabled : Bool := false
  silenced : Bool := false
  deriving DecidableEq

structure EcuPort where
  label : String
  ownedAddress : String

def cameraPort : EcuPort := { label := "CAMERA", ownedAddress := "12a" }
def radarPort : EcuPort := { label := "RADAR", ownedAddress := "1a0" }

/-- A CAN write: it may report an error after its bytes were delivered. -/
inductive WriteOutcome
  | delivered
  | failed (delivered : Bool) (what : String)
  deriving DecidableEq

/-- The write does not deliver its bytes and report an error. -/
def WriteOutcome.reported : WriteOutcome → Bool
  | .failed arrived _ => !arrived
  | .delivered => true

/-- The calls of `disable_ecu`: the diagnostic session, the disable request, the first tester
present, those sent while waiting, and the count of owned frames in the observation window. -/
structure DisableOutcome where
  session : UsbOutcome := .ok ()
  disableRequest : WriteOutcome := .delivered
  testerPresent : UsbOutcome := .ok ()
  maintain : UsbOutcome := .ok ()
  observed : Nat := 0

def disableEcu (port : EcuPort) (ecu : Ecu) (outcome : DisableOutcome) : Ecu × UsbOutcome :=
  if ecu.disabled then (ecu, .ok ())
  else match outcome.session with
    | .error what => (ecu, .error what)
    | .ok () => match outcome.disableRequest with
      | .failed delivered what => ({ ecu with silenced := ecu.silenced || delivered }, .error what)
      | .delivered =>
        ({ disabled := true, silenced := true }, do
          outcome.testerPresent
          outcome.maintain
          if outcome.observed != 0 then
            throw (port.label ++ " disable failed: observed " ++ toString outcome.observed ++
              " stock 0x" ++ port.ownedAddress ++ " frames"))

/-- The calls of `restore_ecu` and `confirm_ecu_restored`: the stock frames counted before any
diagnostics, the three requests, and the stock frames counted for the confirmation. -/
structure RestoreOutcome where
  resumedEarly : Nat := 0
  session : UsbOutcome := .ok ()
  enable : UsbOutcome := .ok ()
  defaultSession : UsbOutcome := .ok ()
  resumed : Nat := 1

def restoreEcu (failures : UInt64) (ecu : Ecu) (outcome : RestoreOutcome) : Ecu × UsbOutcome :=
  if !ecu.disabled then (ecu, .ok ())
  else if failures != 0 && outcome.resumedEarly != 0 then ({}, .ok ())
  else
    (ecu, do
      outcome.session
      outcome.enable
      outcome.defaultSession)

def confirmEcuRestored (port : EcuPort) (ecu : Ecu) (outcome : RestoreOutcome) :
    Ecu × UsbOutcome :=
  if !ecu.disabled then (ecu, .ok ())
  else if outcome.resumed == 0 then
    (ecu, .error (port.label ++ " stock 0x" ++ port.ownedAddress ++ " did not resume"))
  else ({}, .ok ())

/-! ## Both ECUs -/

structure EcuPair where
  camera : Ecu := {}
  radar : Ecu := {}
  deriving DecidableEq

/-- The calls of `enter_vehicle_safety_mode` once its checks have passed. -/
structure TakeoverOutcomes where
  heartbeat : UsbOutcome := .ok ()
  elmMode : UsbOutcome := .ok ()
  camera : DisableOutcome := {}
  cameraHeartbeat : UsbOutcome := .ok ()
  radar : DisableOutcome := {}
  radarHeartbeat : UsbOutcome := .ok ()
  canFdMode : UsbOutcome := .ok ()
  sessionReady : UsbOutcome := .ok ()
  longitudinalFirmware : UsbOutcome := .ok ()
  health : Except String PandaHealth := .ok {}
  maintain : UsbOutcome := .ok ()

/-- From the safety-mode change on no ECU flag moves any more. -/
def takeoverTail (config : SafetyConfig) (outcomes : TakeoverOutcomes) : UsbOutcome := do
  outcomes.canFdMode
  if config.resumeOnCommandReturn then outcomes.sessionReady
  if config.allowLongitudinal then outcomes.longitudinalFirmware
  let health ← outcomes.health
  if health.safetyMode != safetyHyundaiCanFd ||
      health.safetyParam != config.requiredSafetyParam then
    throw "Panda rejected the requested Hyundai CAN-FD safety mode"
  outcomes.maintain

/-- None of the control writes throws: `control_write` clears `ready_` before it does. -/
def TakeoverOutcomes.controlWrites (outcomes : TakeoverOutcomes) : Bool :=
  outcomes.heartbeat.isOk && outcomes.elmMode.isOk && outcomes.cameraHeartbeat.isOk &&
    outcomes.radarHeartbeat.isOk && outcomes.canFdMode.isOk

/-- `enter_vehicle_safety_mode` from the first heartbeat to the last tester present. -/
def takeoverWork (config : SafetyConfig) (ecus : EcuPair) (outcomes : TakeoverOutcomes) :
    EcuPair × UsbOutcome :=
  match (do outcomes.heartbeat; outcomes.elmMode : UsbOutcome) with
  | .error what => (ecus, .error what)
  | .ok () =>
    let camera := disableEcu cameraPort ecus.camera outcomes.camera
    let ecus := { ecus with camera := camera.1 }
    match (do camera.2; outcomes.cameraHeartbeat : UsbOutcome) with
    | .error what => (ecus, .error what)
    | .ok () =>
      if config.allowLongitudinal then
        let radar := disableEcu radarPort ecus.radar outcomes.radar
        ({ ecus with radar := radar.1 }, do
          radar.2
          outcomes.radarHeartbeat
          takeoverTail config outcomes)
      else (ecus, takeoverTail config outcomes)

structure RestoreOutcomes where
  heartbeat : UsbOutcome := .ok ()
  elmMode : UsbOutcome := .ok ()
  radar : RestoreOutcome := {}
  radarHeartbeat : UsbOutcome := .ok ()
  camera : RestoreOutcome := {}
  cameraHeartbeat : UsbOutcome := .ok ()
  clearProfile : UsbOutcome := .ok ()
  noOutputMode : UsbOutcome := .ok ()
  health : Except String PandaHealth := .ok {}

def RestoreOutcomes.controlWrites (outcomes : RestoreOutcomes) : Bool :=
  outcomes.heartbeat.isOk && outcomes.elmMode.isOk && outcomes.radarHeartbeat.isOk &&
    outcomes.cameraHeartbeat.isOk && outcomes.clearProfile.isOk && outcomes.noOutputMode.isOk

def recordError (stage : String) (errors : List String) : UsbOutcome → List String
  | .ok () => errors
  | .error what => errors ++ [stage ++ ": " ++ what]

/-- The NO_OUTPUT mode change and its confirmation. -/
def returnToNoOutput (standbyParam : UInt16) (preserveSession : Bool) (outcomes : RestoreOutcomes) :
    UsbOutcome := do
  if standbyParam != 0 && !preserveSession then outcomes.clearProfile
  outcomes.noOutputMode
  let health ← outcomes.health
  if health.safetyMode != safetyNoOutput || health.safetyParam != standbyParam ||
      health.controlsAllowed then
    throw "Panda NO_OUTPUT confirmation failed"

/-- The restore attempt of one ECU, with the heartbeat that follows it. -/
def restoreStage (elmReady : Bool) (failures : UInt64) (ecu : Ecu) (outcome : RestoreOutcome)
    (heartbeat : UsbOutcome) : Ecu × UsbOutcome :=
  if elmReady && ecu.disabled then
    let restored := restoreEcu failures ecu outcome
    (restored.1, do restored.2; heartbeat)
  else (ecu, .ok ())

def confirmStage (elmReady : Bool) (port : EcuPort) (ecu : Ecu) (outcome : RestoreOutcome) :
    Ecu × UsbOutcome :=
  if elmReady && ecu.disabled then confirmEcuRestored port ecu outcome else (ecu, .ok ())

/-- The ELM327 mode is set only where an ECU has to be restored. -/
def elmStage (ecus : EcuPair) (elmMode : UsbOutcome) : UsbOutcome :=
  if ecus.camera.disabled || ecus.radar.disabled then elmMode else .ok ()

/-- `enter_no_output_mode` from the heartbeat to the NO_OUTPUT confirmation: each stage is tried
whatever failed before it, but the ECUs only once the ELM327 mode is set.  The second component
is the list of recorded errors. -/
def restoreWork (standbyParam : UInt16) (preserveSession : Bool) (failures : UInt64)
    (ecus : EcuPair) (outcomes : RestoreOutcomes) : EcuPair × List String :=
  let elm := elmStage ecus outcomes.elmMode
  let radar := restoreStage elm.isOk failures ecus.radar outcomes.radar outcomes.radarHeartbeat
  let camera :=
    restoreStage elm.isOk failures ecus.camera outcomes.camera outcomes.cameraHeartbeat
  let radarStock := confirmStage elm.isOk radarPort radar.1 outcomes.radar
  let cameraStock := confirmStage elm.isOk cameraPort camera.1 outcomes.camera
  let errors := recordError "heartbeat" [] outcomes.heartbeat
  let errors := recordError "ELM327 restore mode" errors elm
  let errors := recordError "radar restore" errors radar.2
  let errors := recordError "camera restore" errors camera.2
  let errors := recordError "radar stock confirmation" errors radarStock.2
  let errors := recordError "camera stock confirmation" errors cameraStock.2
  ({ camera := cameraStock.1, radar := radarStock.1 },
    recordError "NO_OUTPUT" errors (returnToNoOutput standbyParam preserveSession outcomes))

/-- The text `enter_no_output_mode` throws. -/
def joinedErrors (errors : List String) : String := "; ".intercalate errors

/-! ## What the work does to the flags -/

/-- A silenced ECU is known to be disabled. -/
def Ecu.Known (ecu : Ecu) : Prop := ecu.silenced = true → ecu.disabled = true

structure EcuPair.Known (ecus : EcuPair) : Prop where
  camera : ecus.camera.Known
  radar : ecus.radar.Known

def EcuPair.anyDisabled (ecus : EcuPair) : Bool := ecus.camera.disabled || ecus.radar.disabled

section Lemmas
variable {config : SafetyConfig} {port : EcuPort} {ecu : Ecu} {ecus : EcuPair} {failures : UInt64}

theorem disableEcu_known (known : ecu.Known) {outcome : DisableOutcome}
    (reported : outcome.disableRequest.reported = true) :
    (disableEcu port ecu outcome).1.Known := by
  unfold disableEcu
  split
  · exact known
  split
  · exact known
  split
  · rename_i delivered what request
    cases delivered with
    | true => rw [request] at reported; cases reported
    | false => simpa [Ecu.Known] using known
  · exact fun _ => rfl

theorem takeoverWork_known (known : ecus.Known) {outcomes : TakeoverOutcomes}
    (camera : outcomes.camera.disableRequest.reported = true)
    (radar : outcomes.radar.disableRequest.reported = true) :
    (takeoverWork config ecus outcomes).1.Known := by
  have cameraKnown : (disableEcu cameraPort ecus.camera outcomes.camera).1.Known :=
    disableEcu_known known.camera camera
  unfold takeoverWork
  split
  · exact known
  dsimp only
  split
  · exact ⟨cameraKnown, known.radar⟩
  split
  · exact ⟨cameraKnown, disableEcu_known known.radar radar⟩
  · exact ⟨cameraKnown, known.radar⟩

theorem enabled_known : Ecu.Known {} := by
  intro silenced
  cases silenced

theorem restoreStage_known (known : ecu.Known) (elmReady : Bool) (outcome : RestoreOutcome)
    (heartbeat : UsbOutcome) : (restoreStage elmReady failures ecu outcome heartbeat).1.Known := by
  unfold restoreStage restoreEcu
  split
  · dsimp only
    split
    · exact known
    split
    · exact enabled_known
    · exact known
  · exact known

theorem confirmStage_known (known : ecu.Known) (elmReady : Bool) (outcome : RestoreOutcome) :
    (confirmStage elmReady port ecu outcome).1.Known := by
  unfold confirmStage confirmEcuRestored
  split
  · split
    · exact known
    split
    · exact known
    · exact enabled_known
  · exact known

theorem confirmStage_enabled {outcome : RestoreOutcome}
    (success : (confirmStage true port ecu outcome).2 = .ok ()) :
    (confirmStage true port ecu outcome).1.disabled = false := by
  unfold confirmStage confirmEcuRestored at success ⊢
  by_cases disabled : ecu.disabled = true
  · simp only [disabled, Bool.and_self, if_true, Bool.not_true, Bool.false_eq_true, if_false]
      at success ⊢
    split at success
    · cases success
    · rename_i resumed
      rw [if_neg resumed]
  · simp [disabled]

theorem recordError_eq_nil {stage : String} {errors : List String} {outcome : UsbOutcome}
    (none : recordError stage errors outcome = []) : errors = [] ∧ outcome = .ok () := by
  cases outcome with
  | ok value => exact ⟨none, rfl⟩
  | error what => simp [recordError] at none

theorem restoreWork_known {standbyParam : UInt16} {preserveSession : Bool}
    {outcomes : RestoreOutcomes} {result : EcuPair × List String} (known : ecus.Known)
    (work : restoreWork standbyParam preserveSession failures ecus outcomes = result) :
    result.1.Known := by
  subst work
  exact ⟨confirmStage_known (restoreStage_known known.camera _ _ _) _ _,
    confirmStage_known (restoreStage_known known.radar _ _ _) _ _⟩

theorem restoreStage_disabled (elmReady : Bool) (outcome : RestoreOutcome)
    (heartbeat : UsbOutcome) (disabled :
      (restoreStage elmReady failures ecu outcome heartbeat).1.disabled = true) :
    ecu.disabled = true := by
  unfold restoreStage restoreEcu at disabled
  split at disabled
  · rename_i tried
    exact (Bool.and_eq_true_iff.mp tried).2
  · exact disabled

theorem confirmStage_disabled (elmReady : Bool) (outcome : RestoreOutcome)
    (disabled : (confirmStage elmReady port ecu outcome).1.disabled = true) :
    ecu.disabled = true := by
  unfold confirmStage at disabled
  split at disabled
  · rename_i tried
    exact (Bool.and_eq_true_iff.mp tried).2
  · exact disabled

/-- `enter_no_output_mode` disables no ECU. -/
theorem restoreWork_anyDisabled {standbyParam : UInt16} {preserveSession : Bool}
    {outcomes : RestoreOutcomes} {result : EcuPair × List String}
    (enabled : ecus.anyDisabled = false)
    (work : restoreWork standbyParam preserveSession failures ecus outcomes = result) :
    result.1.anyDisabled = false := by
  subst work
  obtain ⟨camera, radar⟩ := Bool.or_eq_false_iff.mp enabled
  refine Bool.or_eq_false_iff.mpr ⟨?_, ?_⟩
  · rw [← Bool.not_eq_true] at camera ⊢
    exact fun disabled =>
      camera (restoreStage_disabled _ _ _ (confirmStage_disabled _ _ disabled))
  · rw [← Bool.not_eq_true] at radar ⊢
    exact fun disabled =>
      radar (restoreStage_disabled _ _ _ (confirmStage_disabled _ _ disabled))

theorem restoreWork_enabled {standbyParam : UInt16} {preserveSession : Bool}
    {outcomes : RestoreOutcomes}
    (success : (restoreWork standbyParam preserveSession failures ecus outcomes).2 = []) :
    (restoreWork standbyParam preserveSession failures ecus outcomes).1.anyDisabled = false := by
  obtain ⟨cameraErrors, _⟩ := recordError_eq_nil success
  obtain ⟨radarErrors, cameraStock⟩ := recordError_eq_nil cameraErrors
  obtain ⟨restoreErrors, radarStock⟩ := recordError_eq_nil radarErrors
  obtain ⟨radarRestoreErrors, _⟩ := recordError_eq_nil restoreErrors
  obtain ⟨elmErrors, _⟩ := recordError_eq_nil radarRestoreErrors
  obtain ⟨_, elm⟩ := recordError_eq_nil elmErrors
  have ready : (elmStage ecus outcomes.elmMode).isOk = true := by rw [elm]; rfl
  rw [ready] at cameraStock radarStock
  have camera := confirmStage_enabled cameraStock
  have radar := confirmStage_enabled radarStock
  simp only [restoreWork, EcuPair.anyDisabled, ready, camera, radar, Bool.or_self]

end Lemmas
end Ioniq5Ecan
