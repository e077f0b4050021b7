import Ioniq5Ecan.Library.Stages
import Ioniq5Ecan.Node.Threads

/-! # The outcome of `enter_no_output_mode`

One call from the actuation mutex to its return or its exception, with every USB
call, every observation of stock frames and every store in the order of the
source.  Each step is recorded with the members it leaves, so that the call can
be judged at every point of every failure pattern.  `enterNoOutputMode_work`
connects it to the single step the thread model makes of the work. -/
set_option autoImplicit false
namespace Ioniq5Ecan

open Library (Stage)

/-! ## The steps -/

inductive EcuId
  | camera
  | radar
  deriving DecidableEq

def EcuId.port : EcuId → EcuPort
  | .camera => cameraPort
  | .radar => radarPort

def EcuPair.ecu (ecus : EcuPair) : EcuId → Ecu
  | .camera => ecus.camera
  | .radar => ecus.radar

def EcuPair.setEcu (ecus : EcuPair) (ecu : EcuId) (value : Ecu) : EcuPair :=
  match ecu with
  | .camera => { ecus with camera := value }
  | .radar => { ecus with radar := value }

def EcuPair.enable (ecus : EcuPair) (ecu : EcuId) : EcuPair := ecus.setEcu ecu {}

theorem EcuPair.ecu_enable_of_ne {ecus : EcuPair} {ecu other : EcuId} (different : other ≠ ecu) :
    (ecus.enable ecu).ecu other = ecus.ecu other := by
  cases ecu with
  | camera =>
      cases other with
      | camera => exact absurd rfl different
      | radar => rfl
  | radar =>
      cases other with
      | camera => rfl
      | radar => exact absurd rfl different

/-- The members the call reads or writes. -/
structure RestoreMembers where
  vehicleSafetyMode : Bool := false
  recoveryPending : Bool := false
  recoveryAttempts : UInt64 := 0
  autoArmInhibited : Bool := false
  recoveryRearmRequired : Bool := false
  preserveCommandSession : Bool := false
  operatorDisarmed : Bool := false
  ecus : EcuPair := {}
  retry : RecoveryRetry := {}
  latestHealth : PandaHealth := {}
  deriving DecidableEq

def RestoreMembers.enable (ecu : EcuId) (members : RestoreMembers) : RestoreMembers :=
  { members with ecus := members.ecus.enable ecu }

inductive RestoreEvent
  | store
  | heartbeat
  | safetyMode (mode : UInt8) (param : UInt16)
  | udsRequest (ecu : EcuId) (payload : List UInt8)
  | observed (ecu : EcuId) (frames : Nat)
  | enabled (ecu : EcuId)
  | health
  deriving DecidableEq

/-- The members, the recorded errors, and the events so far with the members each left, the
newest first. -/
structure Restoration where
  members : RestoreMembers
  errors : List String := []
  trace : List (RestoreEvent × RestoreMembers) := []

namespace Restoration

def perform (restoration : Restoration) (event : RestoreEvent)
    (change : RestoreMembers → RestoreMembers) : Restoration :=
  { restoration with
    members := change restoration.members
    trace := (event, change restoration.members) :: restoration.trace }

def note (event : RestoreEvent) (restoration : Restoration) : Restoration :=
  restoration.perform event id

/-- The handler of every `try` block: `record_error`. -/
def record (stage : String) (what : String) (restoration : Restoration) : Restoration :=
  { restoration with errors := recordError stage restoration.errors (.error what) }

end Restoration

abbrev RestoreStage := Stage Restoration String

/-! ## The stages -/

def kElm327EcanParam : UInt16 := 1

def usbCall (event : RestoreEvent) (outcome : UsbOutcome) : RestoreStage :=
  Stage.call (Restoration.note event) outcome

def restoreRequests (ecu : EcuId) (outcome : RestoreOutcome) : RestoreStage :=
  ((usbCall (.udsRequest ecu [0x10, 0x03]) outcome.session).andThen
    (usbCall (.udsRequest ecu [0x28, 0x00, 0x01]) outcome.enable)).andThen
    (usbCall (.udsRequest ecu [0x10, 0x01]) outcome.defaultSession)

def restoreEcuStage (ecu : EcuId) (outcome : RestoreOutcome) : RestoreStage := fun restoration =>
  if !(restoration.members.ecus.ecu ecu).disabled then (restoration, .ok ())
  else if restoration.members.retry.failures != 0 then
    let restoration := restoration.note (.observed ecu outcome.resumedEarly)
    if outcome.resumedEarly != 0 then
      (restoration.perform (.enabled ecu) (RestoreMembers.enable ecu), .ok ())
    else restoreRequests ecu outcome restoration
  else restoreRequests ecu outcome restoration

def confirmEcuStage (ecu : EcuId) (outcome : RestoreOutcome) : RestoreStage := fun restoration =>
  if !(restoration.members.ecus.ecu ecu).disabled then (restoration, .ok ())
  else
    let restoration := restoration.note (.observed ecu outcome.resumed)
    if outcome.resumed == 0 then
      (restoration, .error (ecu.port.label ++ " stock 0x" ++ ecu.port.ownedAddress ++
        " did not resume"))
    else
      (restoration.perform (.enabled ecu) (RestoreMembers.enable ecu), .ok ())

/-- A restore or confirmation block, guarded by `elm_ready` and the disabled flag. -/
def ecuBlock (elmReady : Bool) (ecu : EcuId) (name : String) (stage : RestoreStage)
    (restoration : Restoration) : Restoration :=
  if elmReady && (restoration.members.ecus.ecu ecu).disabled then
    stage.attempt (Restoration.record name) restoration
  else restoration

def elmBlock (config : SafetyConfig) (elmMode : UsbOutcome) (restoration : Restoration) :
    Restoration :=
  if restoration.members.ecus.anyDisabled then
    (usbCall (.safetyMode safetyElm327
      (if restoration.members.preserveCommandSession then config.requiredSafetyParam
      else kElm327EcanParam)) elmMode).attempt (Restoration.record "ELM327 restore mode") restoration
  else restoration

def confirmNoOutput (standbyParam : UInt16) (health : Except String PandaHealth) :
    RestoreStage := fun restoration =>
  let restoration := restoration.note .health
  match health with
  | .error what => (restoration, .error what)
  | .ok health =>
      if health.safetyMode != safetyNoOutput || health.safetyParam != standbyParam ||
          health.controlsAllowed then
        (restoration, .error "Panda NO_OUTPUT confirmation failed")
      else
        (restoration.perform .store fun members => { members with latestHealth := health }, .ok ())

/-- `standby_param`. -/
def RestoreMembers.standbyParam (config : SafetyConfig) (members : RestoreMembers) : UInt16 :=
  recoveryStandbyParam config.requiredSafetyParam members.preserveCommandSession
    config.resumeOnCommandReturn members.operatorDisarmed

def noOutputStage (config : SafetyConfig) (outcomes : RestoreOutcomes) : RestoreStage :=
  fun restoration =>
    let standbyParam := restoration.members.standbyParam config
    let setMode := (usbCall (.safetyMode safetyNoOutput standbyParam) outcomes.noOutputMode).andThen
      (confirmNoOutput standbyParam outcomes.health)
    -- Unless a command gap preserves the session, the profile is cleared first.
    if standbyParam != 0 && !restoration.members.preserveCommandSession then
      (usbCall (.safetyMode safetyNoOutput 0) outcomes.clearProfile).andThen setMode restoration
    else setMode restoration

def beginRestoration (requestedAt : TimePoint) (members : RestoreMembers) : Restoration :=
  let restoration : Restoration := { members := members }
  let restoration := restoration.perform .store fun members =>
    { members with vehicleSafetyMode := false }
  let restoration := restoration.perform .store fun members =>
    { members with recoveryPending := true }
  let restoration := restoration.perform .store fun members =>
    { members with retry := members.retry.request requestedAt }
  restoration.perform .store fun members =>
    { members with recoveryAttempts := members.retry.failures + 1 }

def restoreBlocks (config : SafetyConfig) (outcomes : RestoreOutcomes) (restoration : Restoration) :
    Restoration :=
  let elmReady := (elmStage restoration.members.ecus outcomes.elmMode).isOk
  let restoration :=
    (usbCall .heartbeat outcomes.heartbeat).attempt (Restoration.record "heartbeat") restoration
  let restoration := elmBlock config outcomes.elmMode restoration
  let restoration := ecuBlock elmReady .radar "radar restore"
    ((restoreEcuStage .radar outcomes.radar).andThen (usbCall .heartbeat outcomes.radarHeartbeat))
    restoration
  let restoration := ecuBlock elmReady .camera "camera restore"
    ((restoreEcuStage .camera outcomes.camera).andThen (usbCall .heartbeat outcomes.cameraHeartbeat))
    restoration
  let restoration := ecuBlock elmReady .radar "radar stock confirmation"
    (confirmEcuStage .radar outcomes.radar) restoration
  let restoration := ecuBlock elmReady .camera "camera stock confirmation"
    (confirmEcuStage .camera outcomes.camera) restoration
  (noOutputStage config outcomes).attempt (Restoration.record "NO_OUTPUT") restoration

def finishRestoration (failedAt : TimePoint) (restoration : Restoration) :
    Restoration × UsbOutcome :=
  if restoration.errors.isEmpty then
    let restoration := restoration.perform .store fun members =>
      { members with retry := members.retry.restored }
    (restoration.perform .store fun members => { members with recoveryPending := false }, .ok ())
  else
    let restoration := restoration.perform .store fun members =>
      { members with autoArmInhibited := true }
    let restoration := restoration.perform .store fun members =>
      { members with recoveryRearmRequired := true }
    (restoration.perform .store fun members =>
      { members with retry := members.retry.failed failedAt },
      .error (joinedErrors restoration.errors))

/-- `enter_no_output_mode`. -/
def enterNoOutputMode (config : SafetyConfig) (requestedAt failedAt : TimePoint)
    (outcomes : RestoreOutcomes) (members : RestoreMembers) : Restoration × UsbOutcome :=
  finishRestoration failedAt (restoreBlocks config outcomes (beginRestoration requestedAt members))

/-! ## What holds at every point -/

def membersBefore (start : RestoreMembers) (earlier : List (RestoreEvent × RestoreMembers)) :
    RestoreMembers :=
  (earlier.head?.map Prod.snd).getD start

/-- Every step that clears the disabled flag comes after a count of stock frames of that ECU. -/
def CountedFirst (start : RestoreMembers) (ecu : EcuId) :
    List (RestoreEvent × RestoreMembers) → Prop
  | [] => True
  | step :: earlier =>
      (((membersBefore start earlier).ecus.ecu ecu).disabled = true →
        (step.2.ecus.ecu ecu).disabled = false →
          ∃ frames, frames ≠ 0 ∧ .observed ecu frames ∈ earlier.map Prod.fst) ∧
      CountedFirst start ecu earlier

/-- What holds of the trace at every point of the call. -/
structure Recorded (start : RestoreMembers) (restoration : Restoration) : Prop where
  current : restoration.members = membersBefore start restoration.trace
  vehicle : restoration.members.vehicleSafetyMode = false
  always : ∀ step ∈ restoration.trace, step.2.vehicleSafetyMode = false
  counted : ∀ ecu, CountedFirst start ecu restoration.trace

/-- The restoration is pending since the second store. -/
structure Restoring (start : RestoreMembers) (restoration : Restoration) : Prop
    extends Recorded start restoration where
  begun : restoration.trace ≠ []
  pending : restoration.members.recoveryPending = true
  stays : ∀ step ∈ restoration.trace.dropLast, step.2.recoveryPending = true

section Invariant
variable {start : RestoreMembers} {restoration : Restoration}

theorem Recorded.perform (recorded : Recorded start restoration) (event : RestoreEvent)
    (change : RestoreMembers → RestoreMembers)
    (vehicle : (change restoration.members).vehicleSafetyMode = false)
    (clears : ∀ ecu, (restoration.members.ecus.ecu ecu).disabled = true →
      ((change restoration.members).ecus.ecu ecu).disabled = false →
        ∃ frames, frames ≠ 0 ∧ .observed ecu frames ∈ restoration.trace.map Prod.fst) :
    Recorded start (restoration.perform event change) where
  current := rfl
  vehicle := vehicle
  always := by
    intro step member
    rcases List.mem_cons.mp member with rfl | earlier
    · exact vehicle
    · exact recorded.always step earlier
  counted := by
    intro ecu
    refine ⟨?_, recorded.counted ecu⟩
    rw [← recorded.current]
    exact clears ecu

theorem Recorded.keep (recorded : Recorded start restoration) (event : RestoreEvent)
    (change : RestoreMembers → RestoreMembers)
    (vehicle : (change restoration.members).vehicleSafetyMode = false)
    (ecus : (change restoration.members).ecus = restoration.members.ecus) :
    Recorded start (restoration.perform event change) := by
  refine recorded.perform event change vehicle fun ecu disabled enabled => ?_
  rw [ecus, disabled] at enabled
  cases enabled

theorem Restoring.step (restoring : Restoring start restoration) {event : RestoreEvent}
    {change : RestoreMembers → RestoreMembers}
    (recorded : Recorded start (restoration.perform event change))
    (pending : (change restoration.members).recoveryPending = true) :
    Restoring start (restoration.perform event change) where
  toRecorded := recorded
  begun := List.cons_ne_nil _ _
  pending := pending
  stays := by
    intro step member
    obtain ⟨first, rest, trace⟩ := List.exists_cons_of_ne_nil restoring.begun
    have stays := restoring.stays
    simp only [Restoration.perform, trace, List.dropLast_cons_cons] at member stays
    rcases List.mem_cons.mp member with rfl | earlier
    · exact pending
    · exact stays step earlier

theorem Restoring.keep (restoring : Restoring start restoration) (event : RestoreEvent)
    (change : RestoreMembers → RestoreMembers)
    (vehicle : (change restoration.members).vehicleSafetyMode = false)
    (ecus : (change restoration.members).ecus = restoration.members.ecus)
    (pending : (change restoration.members).recoveryPending = true) :
    Restoring start (restoration.perform event change) :=
  restoring.step (restoring.toRecorded.keep event change vehicle ecus) pending

theorem Restoring.note (restoring : Restoring start restoration) (event : RestoreEvent) :
    Restoring start (restoration.note event) :=
  restoring.keep event id restoring.vehicle rfl restoring.pending

theorem Restoring.record (restoring : Restoring start restoration) (name what : String) :
    Restoring start (restoration.record name what) :=
  ⟨⟨restoring.current, restoring.vehicle, restoring.always, restoring.counted⟩,
    restoring.begun, restoring.pending, restoring.stays⟩

theorem Restoring.enable (restoring : Restoring start restoration) (ecu : EcuId) {frames : Nat}
    (some : frames ≠ 0) :
    Restoring start ((restoration.note (.observed ecu frames)).perform (.enabled ecu)
      (RestoreMembers.enable ecu)) := by
  have noted := restoring.note (.observed ecu frames)
  refine noted.step ?_ restoring.pending
  refine noted.toRecorded.perform _ _ restoring.vehicle fun other disabled enabled => ?_
  by_cases same : other = ecu
  · subst same
    exact ⟨frames, some, List.mem_cons_self ..⟩
  · have stays : ((restoration.members.ecus.enable ecu).ecu other).disabled = true := by
      rw [EcuPair.ecu_enable_of_ne same]
      exact disabled
    exact absurd (stays.symm.trans enabled) (by decide)

/-! Each stage keeps the invariant, whether it returns or throws. -/

theorem usbCall_keeps (event : RestoreEvent) (outcome : UsbOutcome) :
    Stage.Keeps (Restoring start) (usbCall event outcome) :=
  Stage.keeps_call outcome fun _ restoring => restoring.note event

theorem restoreRequests_keeps (ecu : EcuId) (outcome : RestoreOutcome) :
    Stage.Keeps (Restoring start) (restoreRequests ecu outcome) :=
  ((usbCall_keeps _ _).andThen (usbCall_keeps _ _)).andThen (usbCall_keeps _ _)

theorem restoreEcuStage_keeps (ecu : EcuId) (outcome : RestoreOutcome) :
    Stage.Keeps (Restoring start) (restoreEcuStage ecu outcome) := by
  intro restoration restoring
  unfold restoreEcuStage
  split
  · exact restoring
  split
  · dsimp only
    split
    · rename_i resumed
      exact restoring.enable ecu (by simpa using resumed)
    · exact restoreRequests_keeps ecu outcome _ (restoring.note _)
  · exact restoreRequests_keeps ecu outcome _ restoring

theorem confirmEcuStage_keeps (ecu : EcuId) (outcome : RestoreOutcome) :
    Stage.Keeps (Restoring start) (confirmEcuStage ecu outcome) := by
  intro restoration restoring
  unfold confirmEcuStage
  split
  · exact restoring
  dsimp only
  split
  · exact restoring.note _
  · rename_i resumed
    exact restoring.enable ecu (by simpa using resumed)

theorem confirmNoOutput_keeps (standbyParam : UInt16) (health : Except String PandaHealth) :
    Stage.Keeps (Restoring start) (confirmNoOutput standbyParam health) := by
  intro restoration restoring
  have read := restoring.note .health
  unfold confirmNoOutput
  dsimp only
  split
  · exact read
  split
  · exact read
  · rename_i health _
    exact read.keep .store (fun members => { members with latestHealth := health }) read.vehicle rfl
      read.pending

theorem noOutputStage_keeps (config : SafetyConfig) (outcomes : RestoreOutcomes) :
    Stage.Keeps (Restoring start) (noOutputStage config outcomes) := by
  intro restoration restoring
  have setMode := (usbCall_keeps (.safetyMode safetyNoOutput (restoration.members.standbyParam config))
    outcomes.noOutputMode).andThen
    (@confirmNoOutput_keeps start (restoration.members.standbyParam config) outcomes.health)
  unfold noOutputStage
  dsimp only
  split
  · exact (usbCall_keeps _ _).andThen setMode restoration restoring
  · exact setMode restoration restoring

theorem ecuBlock_keeps (elmReady : Bool) (ecu : EcuId) (name : String) {stage : RestoreStage}
    (keeps : Stage.Keeps (Restoring start) stage) (restoring : Restoring start restoration) :
    Restoring start (ecuBlock elmReady ecu name stage restoration) := by
  unfold ecuBlock
  split
  · exact keeps.attempt (fun what _ recorded => recorded.record name what) _ restoring
  · exact restoring

theorem elmBlock_keeps (config : SafetyConfig) (elmMode : UsbOutcome)
    (restoring : Restoring start restoration) :
    Restoring start (elmBlock config elmMode restoration) := by
  unfold elmBlock
  split
  · exact (usbCall_keeps _ _).attempt (fun what _ recorded => recorded.record _ what) _ restoring
  · exact restoring

theorem beginRestoration_restoring (requestedAt : TimePoint) :
    Restoring start (beginRestoration requestedAt start) := by
  have first : Recorded start ((⟨start, [], []⟩ : Restoration).perform .store fun members =>
      { members with vehicleSafetyMode := false }) :=
    { current := rfl
      vehicle := rfl
      always := by
        intro step member
        rw [List.mem_singleton.mp member]
      counted := fun ecu => ⟨fun disabled enabled => absurd (disabled.symm.trans enabled) (by decide),
        trivial⟩ }
  have pending : Restoring start (((⟨start, [], []⟩ : Restoration).perform .store fun members =>
      { members with vehicleSafetyMode := false }).perform .store fun members =>
      { members with recoveryPending := true }) :=
    { toRecorded := first.keep .store _ rfl rfl
      begun := List.cons_ne_nil _ _
      pending := rfl
      stays := by
        intro step member
        rw [List.mem_singleton.mp member] }
  have requested := pending.keep .store
    (fun members => { members with retry := members.retry.request requestedAt }) rfl rfl rfl
  exact requested.keep .store
    (fun members => { members with recoveryAttempts := members.retry.failures + 1 }) rfl rfl rfl

theorem restoreBlocks_restoring (config : SafetyConfig) (outcomes : RestoreOutcomes)
    (restoring : Restoring start restoration) :
    Restoring start (restoreBlocks config outcomes restoration) := by
  have record (name what : String) (state : Restoration) (recorded : Restoring start state) :
      Restoring start (state.record name what) := recorded.record name what
  have heartbeat := (usbCall_keeps .heartbeat outcomes.heartbeat).attempt (record "heartbeat") _
    restoring
  have elm := elmBlock_keeps config outcomes.elmMode heartbeat
  have restoreRadar := ecuBlock_keeps (elmStage restoration.members.ecus outcomes.elmMode).isOk
    .radar "radar restore" ((restoreEcuStage_keeps .radar outcomes.radar).andThen
      (usbCall_keeps .heartbeat outcomes.radarHeartbeat)) elm
  have restoreCamera := ecuBlock_keeps (elmStage restoration.members.ecus outcomes.elmMode).isOk
    .camera "camera restore" ((restoreEcuStage_keeps .camera outcomes.camera).andThen
      (usbCall_keeps .heartbeat outcomes.cameraHeartbeat)) restoreRadar
  have confirmRadar := ecuBlock_keeps (elmStage restoration.members.ecus outcomes.elmMode).isOk
    .radar "radar stock confirmation" (confirmEcuStage_keeps .radar outcomes.radar) restoreCamera
  have confirmCamera := ecuBlock_keeps (elmStage restoration.members.ecus outcomes.elmMode).isOk
    .camera "camera stock confirmation" (confirmEcuStage_keeps .camera outcomes.camera) confirmRadar
  exact (noOutputStage_keeps config outcomes).attempt (record "NO_OUTPUT") _ confirmCamera

/-- A call that throws leaves the restoration pending at every step. -/
theorem finishRestoration_pending (failedAt : TimePoint)
    (restoring : Restoring start restoration) (failed : restoration.errors ≠ []) :
    Restoring start (finishRestoration failedAt restoration).1 := by
  have threw : ¬ restoration.errors.isEmpty = true := by
    rwa [List.isEmpty_iff]
  unfold finishRestoration
  rw [if_neg threw]
  have inhibited := restoring.keep .store
    (fun members => { members with autoArmInhibited := true }) restoring.vehicle rfl
    restoring.pending
  have rearm := inhibited.keep .store
    (fun members => { members with recoveryRearmRequired := true }) inhibited.vehicle rfl
    inhibited.pending
  exact rearm.keep .store
    (fun members => { members with retry := members.retry.failed failedAt }) rearm.vehicle rfl
    rearm.pending

theorem finishRestoration_recorded (failedAt : TimePoint)
    (restoring : Restoring start restoration) :
    Recorded start (finishRestoration failedAt restoration).1 := by
  by_cases clean : restoration.errors = []
  · have returned : restoration.errors.isEmpty = true := List.isEmpty_iff.mpr clean
    unfold finishRestoration
    rw [if_pos returned]
    have restored := restoring.toRecorded.keep .store
      (fun members => { members with retry := members.retry.restored }) restoring.vehicle rfl
    exact restored.keep .store (fun members => { members with recoveryPending := false })
      restored.vehicle rfl
  · exact (finishRestoration_pending failedAt restoring clean).toRecorded

end Invariant

/-! ## The values the blocks end with -/

section Values
variable (restoration : Restoration)

def Restoration.withEcu (ecu : EcuId) (value : Ecu) (errors : List String)
    (trace : List (RestoreEvent × RestoreMembers)) : Restoration where
  members := { restoration.members with ecus := restoration.members.ecus.setEcu ecu value }
  errors := errors
  trace := trace

theorem restoreRequests_run (ecu : EcuId) (outcome : RestoreOutcome) :
    ∃ trace, restoreRequests ecu outcome restoration =
      ({ restoration with trace := trace }, do
        outcome.session
        outcome.enable
        outcome.defaultSession) := by
  unfold restoreRequests Stage.andThen usbCall Stage.call
  cases outcome.session with
  | error what => exact ⟨_, rfl⟩
  | ok _ =>
      cases outcome.enable with
      | error what => exact ⟨_, rfl⟩
      | ok _ => exact ⟨_, rfl⟩

theorem withEcu_self (ecu : EcuId) (trace : List (RestoreEvent × RestoreMembers)) :
    restoration.withEcu ecu (restoration.members.ecus.ecu ecu) restoration.errors trace =
      { restoration with trace := trace } := by
  cases ecu <;> rfl

theorem restoreEcuStage_run (ecu : EcuId) (outcome : RestoreOutcome) :
    ∃ trace, restoreEcuStage ecu outcome restoration =
      (restoration.withEcu ecu
        (restoreEcu restoration.members.retry.failures (restoration.members.ecus.ecu ecu) outcome).1
        restoration.errors trace,
        (restoreEcu restoration.members.retry.failures (restoration.members.ecus.ecu ecu)
          outcome).2) := by
  unfold restoreEcuStage restoreEcu
  by_cases enabled : (!(restoration.members.ecus.ecu ecu).disabled) = true
  · rw [if_pos enabled, if_pos enabled]
    simp only [withEcu_self]
    exact ⟨_, rfl⟩
  · rw [if_neg enabled, if_neg enabled]
    by_cases retried : (restoration.members.retry.failures != 0) = true
    · rw [if_pos retried]
      dsimp only
      by_cases resumed : (outcome.resumedEarly != 0) = true
      · rw [if_pos resumed, if_pos (by simp [retried, resumed])]
        exact ⟨_, rfl⟩
      · rw [if_neg resumed, if_neg (by simp [resumed])]
        simp only [withEcu_self]
        obtain ⟨trace, requests⟩ :=
          restoreRequests_run (restoration.note (.observed ecu outcome.resumedEarly)) ecu outcome
        exact ⟨trace, requests⟩
    · rw [if_neg retried, if_neg (by simp [retried])]
      simp only [withEcu_self]
      exact restoreRequests_run restoration ecu outcome

theorem confirmEcuStage_run (ecu : EcuId) (outcome : RestoreOutcome) :
    ∃ trace, confirmEcuStage ecu outcome restoration =
      (restoration.withEcu ecu
        (confirmEcuRestored ecu.port (restoration.members.ecus.ecu ecu) outcome).1
        restoration.errors trace,
        (confirmEcuRestored ecu.port (restoration.members.ecus.ecu ecu) outcome).2) := by
  unfold confirmEcuStage confirmEcuRestored
  by_cases enabled : (!(restoration.members.ecus.ecu ecu).disabled) = true
  · rw [if_pos enabled, if_pos enabled]
    simp only [withEcu_self]
    exact ⟨_, rfl⟩
  · rw [if_neg enabled, if_neg enabled]
    dsimp only
    by_cases silent : (outcome.resumed == 0) = true
    · rw [if_pos silent, if_pos silent]
      simp only [withEcu_self]
      exact ⟨_, rfl⟩
    · rw [if_neg silent, if_neg silent]
      exact ⟨_, rfl⟩

theorem ecuBlock_run (elmReady : Bool) (ecu : EcuId) (name : String) {stage : RestoreStage}
    {value : Ecu} {outcome : UsbOutcome}
    (run : ∃ trace, stage restoration =
      (restoration.withEcu ecu value restoration.errors trace, outcome)) :
    ∃ trace, ecuBlock elmReady ecu name stage restoration =
      if elmReady && (restoration.members.ecus.ecu ecu).disabled then
        restoration.withEcu ecu value (recordError name restoration.errors outcome) trace
      else restoration := by
  obtain ⟨trace, run⟩ := run
  refine ⟨trace, ?_⟩
  unfold ecuBlock Stage.attempt
  rw [run]
  split
  · cases outcome <;> rfl
  · rfl

structure Restoration.Left (restoration : Restoration) (members : RestoreMembers)
    (errors : List String) : Prop where
  members : restoration.members = members
  errors : restoration.errors = errors

theorem restoreBlock_left (elmReady : Bool) (ecu : EcuId) (name : String) (outcome : RestoreOutcome)
    (heartbeat : UsbOutcome) {members : RestoreMembers} {errors : List String}
    (left : restoration.Left members errors) :
    let result := restoreStage elmReady members.retry.failures (members.ecus.ecu ecu) outcome
      heartbeat
    (ecuBlock elmReady ecu name ((restoreEcuStage ecu outcome).andThen
        (usbCall .heartbeat heartbeat)) restoration).Left
      { members with ecus := members.ecus.setEcu ecu result.1 }
      (recordError name errors result.2) := by
  obtain ⟨rfl, rfl⟩ := left
  have run : ∃ trace, ((restoreEcuStage ecu outcome).andThen (usbCall .heartbeat heartbeat))
      restoration =
      (restoration.withEcu ecu (restoreEcu restoration.members.retry.failures
        (restoration.members.ecus.ecu ecu) outcome).1 restoration.errors trace, do
        (restoreEcu restoration.members.retry.failures (restoration.members.ecus.ecu ecu) outcome).2
        heartbeat) := by
    obtain ⟨trace, first⟩ := restoreEcuStage_run restoration ecu outcome
    unfold Stage.andThen
    rw [first]
    cases (restoreEcu restoration.members.retry.failures (restoration.members.ecus.ecu ecu)
      outcome).2 with
    | error what => exact ⟨trace, rfl⟩
    | ok _ => exact ⟨_, rfl⟩
  obtain ⟨trace, block⟩ := ecuBlock_run restoration elmReady ecu name run
  intro result
  rw [block]
  unfold result restoreStage
  split
  · exact ⟨rfl, rfl⟩
  · exact ⟨congrArg Restoration.members (withEcu_self restoration ecu []).symm, rfl⟩

theorem confirmBlock_left (elmReady : Bool) (ecu : EcuId) (name : String)
    (outcome : RestoreOutcome) {members : RestoreMembers} {errors : List String}
    (left : restoration.Left members errors) :
    let result := confirmStage elmReady ecu.port (members.ecus.ecu ecu) outcome
    (ecuBlock elmReady ecu name (confirmEcuStage ecu outcome) restoration).Left
      { members with ecus := members.ecus.setEcu ecu result.1 }
      (recordError name errors result.2) := by
  obtain ⟨rfl, rfl⟩ := left
  obtain ⟨trace, block⟩ := ecuBlock_run restoration elmReady ecu name
    (confirmEcuStage_run restoration ecu outcome)
  intro result
  rw [block]
  unfold result confirmStage
  split
  · exact ⟨rfl, rfl⟩
  · exact ⟨congrArg Restoration.members (withEcu_self restoration ecu []).symm, rfl⟩

theorem usbBlock_left (event : RestoreEvent) (name : String) (outcome : UsbOutcome)
    {members : RestoreMembers} {errors : List String} (left : restoration.Left members errors) :
    ((usbCall event outcome).attempt (Restoration.record name) restoration).Left members
      (recordError name errors outcome) := by
  obtain ⟨rfl, rfl⟩ := left
  cases outcome <;> exact ⟨rfl, rfl⟩

theorem elmBlock_left (config : SafetyConfig) (elmMode : UsbOutcome) {members : RestoreMembers}
    {errors : List String} (left : restoration.Left members errors) :
    (elmBlock config elmMode restoration).Left members
      (recordError "ELM327 restore mode" errors (elmStage members.ecus elmMode)) := by
  have setMode := usbBlock_left restoration (.safetyMode safetyElm327
    (if restoration.members.preserveCommandSession then config.requiredSafetyParam
      else kElm327EcanParam)) "ELM327 restore mode" elmMode left
  obtain ⟨rfl, rfl⟩ := left
  unfold elmBlock elmStage EcuPair.anyDisabled
  split
  · exact setMode
  · exact ⟨rfl, rfl⟩

def noOutputConfirmation (standbyParam : UInt16) (outcome : Except String PandaHealth) :
    UsbOutcome := do
  let health ← outcome
  if health.safetyMode != safetyNoOutput || health.safetyParam != standbyParam ||
      health.controlsAllowed then
    throw "Panda NO_OUTPUT confirmation failed"

theorem confirmNoOutput_left (standbyParam : UInt16) (health : Except String PandaHealth) :
    (∃ latest, (confirmNoOutput standbyParam health restoration).1.Left
      { restoration.members with latestHealth := latest } restoration.errors) ∧
    (confirmNoOutput standbyParam health restoration).2 =
      noOutputConfirmation standbyParam health := by
  unfold confirmNoOutput noOutputConfirmation
  dsimp only
  cases health with
  | error what => exact ⟨⟨_, rfl, rfl⟩, rfl⟩
  | ok health =>
      dsimp only [bind, Except.bind]
      split <;> exact ⟨⟨_, rfl, rfl⟩, rfl⟩

theorem setNoOutput_left (standbyParam : UInt16) (outcomes : RestoreOutcomes) :
    let stage := (usbCall (.safetyMode safetyNoOutput standbyParam) outcomes.noOutputMode).andThen
      (confirmNoOutput standbyParam outcomes.health)
    (∃ latest, (stage restoration).1.Left
      { restoration.members with latestHealth := latest } restoration.errors) ∧
    (stage restoration).2 = (do
      outcomes.noOutputMode
      noOutputConfirmation standbyParam outcomes.health) := by
  unfold Stage.andThen usbCall Stage.call
  cases outcomes.noOutputMode with
  | error what => exact ⟨⟨_, rfl, rfl⟩, rfl⟩
  | ok _ =>
      exact confirmNoOutput_left (restoration.note (.safetyMode safetyNoOutput standbyParam)) _ _

theorem noOutputStage_left (config : SafetyConfig) (outcomes : RestoreOutcomes) :
    (∃ latest, (noOutputStage config outcomes restoration).1.Left
      { restoration.members with latestHealth := latest } restoration.errors) ∧
    (noOutputStage config outcomes restoration).2 =
      returnToNoOutput (restoration.members.standbyParam config)
        restoration.members.preserveCommandSession outcomes := by
  unfold noOutputStage returnToNoOutput
  dsimp only
  split
  · unfold Stage.andThen usbCall Stage.call
    cases outcomes.clearProfile with
    | error what => exact ⟨⟨_, rfl, rfl⟩, rfl⟩
    | ok _ => exact setNoOutput_left (restoration.note (.safetyMode safetyNoOutput 0)) _ outcomes
  · exact setNoOutput_left restoration _ outcomes

theorem bind_returns {α : Type} {first : Except String α} {rest : α → UsbOutcome}
    (success : (first >>= rest) = .ok ()) : ∃ value, first = .ok value ∧ rest value = .ok () := by
  cases first with
  | error what => cases success
  | ok value => exact ⟨value, rfl, success⟩

/-- A last block that returns read a health sample that confirms the standby mode. -/
theorem returnToNoOutput_confirms {standbyParam : UInt16} {preserveSession : Bool}
    {outcomes : RestoreOutcomes}
    (success : returnToNoOutput standbyParam preserveSession outcomes = .ok ()) :
    ∃ health, outcomes.health = .ok health ∧ health.safetyMode = safetyNoOutput ∧
      health.safetyParam = standbyParam ∧ health.controlsAllowed = false := by
  have changed : (do
      outcomes.noOutputMode
      noOutputConfirmation standbyParam outcomes.health : UsbOutcome) = .ok () := by
    unfold returnToNoOutput at success
    split at success
    · obtain ⟨_, _, rest⟩ := bind_returns success
      exact rest
    · exact success
  obtain ⟨_, _, confirmed⟩ := bind_returns changed
  obtain ⟨health, read, agrees⟩ := bind_returns confirmed
  refine ⟨health, read, ?_⟩
  split at agrees
  · cases agrees
  · rename_i differs
    simpa [and_assoc] using differs

theorem noOutputBlock_left (config : SafetyConfig) (outcomes : RestoreOutcomes)
    {members : RestoreMembers} {errors : List String} (left : restoration.Left members errors) :
    ∃ latest, ((noOutputStage config outcomes).attempt (Restoration.record "NO_OUTPUT")
        restoration).Left { members with latestHealth := latest }
      (recordError "NO_OUTPUT" errors
        (returnToNoOutput (members.standbyParam config) members.preserveCommandSession outcomes)) := by
  obtain ⟨rfl, rfl⟩ := left
  obtain ⟨⟨latest, left⟩, ended⟩ := noOutputStage_left restoration config outcomes
  refine ⟨latest, ?_⟩
  rw [← ended]
  unfold Stage.attempt
  split
  · rename_i returned
    rw [returned] at left ⊢
    exact left
  · rename_i threw
    rw [threw] at left ⊢
    exact ⟨left.members, congrArg (recordError "NO_OUTPUT" · (.error _)) left.errors⟩

/-- The blocks do the work of the thread model's single step. -/
theorem restoreBlocks_left (config : SafetyConfig) (outcomes : RestoreOutcomes)
    (clean : restoration.errors = []) :
    let members := restoration.members
    let work := restoreWork (members.standbyParam config) members.preserveCommandSession
      members.retry.failures members.ecus outcomes
    ∃ latest, (restoreBlocks config outcomes restoration).Left
      { members with ecus := work.1, latestHealth := latest } work.2 := by
  have begun : restoration.Left restoration.members [] := ⟨rfl, clean⟩
  have heartbeat := usbBlock_left _ .heartbeat "heartbeat" outcomes.heartbeat begun
  have elm := elmBlock_left _ config outcomes.elmMode heartbeat
  let elmReady := (elmStage restoration.members.ecus outcomes.elmMode).isOk
  have restoreRadar := restoreBlock_left _ elmReady .radar "radar restore" outcomes.radar
    outcomes.radarHeartbeat elm
  have restoreCamera := restoreBlock_left _ elmReady .camera "camera restore" outcomes.camera
    outcomes.cameraHeartbeat restoreRadar
  have confirmRadar := confirmBlock_left _ elmReady .radar "radar stock confirmation"
    outcomes.radar restoreCamera
  have confirmCamera := confirmBlock_left _ elmReady .camera "camera stock confirmation"
    outcomes.camera confirmRadar
  exact noOutputBlock_left _ config outcomes confirmCamera

end Values

/-! ## The NO_OUTPUT mode change is attempted -/

def Restoration.Attempted (restoration : Restoration) : Prop :=
  ∃ param, .safetyMode safetyNoOutput param ∈ restoration.trace.map Prod.fst

theorem Restoration.Attempted.perform {restoration : Restoration}
    (attempted : restoration.Attempted) (event : RestoreEvent)
    (change : RestoreMembers → RestoreMembers) : (restoration.perform event change).Attempted := by
  obtain ⟨param, performed⟩ := attempted
  exact ⟨param, List.mem_cons_of_mem _ performed⟩

theorem attempted_note (param : UInt16) (restoration : Restoration) :
    (restoration.note (.safetyMode safetyNoOutput param)).Attempted :=
  ⟨param, List.mem_cons_self ..⟩

theorem confirmNoOutput_attempted (standbyParam : UInt16) (health : Except String PandaHealth) :
    Stage.Keeps Restoration.Attempted (confirmNoOutput standbyParam health) := by
  intro restoration attempted
  have read := attempted.perform .health id
  unfold confirmNoOutput
  dsimp only
  split
  · exact read
  split
  · exact read
  · exact read.perform .store _

/-- The last block begins with a NO_OUTPUT mode change, with or without the profile. -/
theorem noOutputStage_attempted (config : SafetyConfig) (outcomes : RestoreOutcomes)
    (restoration : Restoration) :
    (noOutputStage config outcomes restoration).1.Attempted := by
  have setMode (param : UInt16) (state : Restoration) :
      ((usbCall (.safetyMode safetyNoOutput param) outcomes.noOutputMode).andThen
        (confirmNoOutput param outcomes.health) state).1.Attempted := by
    unfold usbCall
    rw [Stage.andThen_call]
    split
    · exact confirmNoOutput_attempted _ _ _ (attempted_note param state)
    · exact attempted_note param state
  unfold noOutputStage
  dsimp only
  split
  · unfold usbCall
    rw [Stage.andThen_call]
    split
    · exact setMode _ _
    · exact attempted_note 0 restoration
  · exact setMode _ _

theorem restoreBlocks_attempted (config : SafetyConfig) (outcomes : RestoreOutcomes)
    (restoration : Restoration) : (restoreBlocks config outcomes restoration).Attempted := by
  unfold restoreBlocks
  dsimp only
  apply Stage.attempt_left
  · apply noOutputStage_attempted
  · intro _ _ attempted
    exact attempted

theorem finishRestoration_attempted (failedAt : TimePoint) {restoration : Restoration}
    (attempted : restoration.Attempted) :
    (finishRestoration failedAt restoration).1.Attempted := by
  unfold finishRestoration
  split
  · exact (attempted.perform _ _).perform _ _
  · exact ((attempted.perform _ _).perform _ _).perform _ _

/-! ## Every pattern of failures -/

section Outcome

theorem finishRestoration_returned (failedAt : TimePoint) {restoration : Restoration}
    (clean : restoration.errors = []) :
    (finishRestoration failedAt restoration).1.members =
        { restoration.members with
          retry := restoration.members.retry.restored, recoveryPending := false } ∧
      (finishRestoration failedAt restoration).2 = .ok () := by
  have returned : restoration.errors.isEmpty = true := List.isEmpty_iff.mpr clean
  unfold finishRestoration
  rw [if_pos returned]
  exact ⟨rfl, rfl⟩

theorem finishRestoration_threw (failedAt : TimePoint) {restoration : Restoration}
    (failed : restoration.errors ≠ []) :
    (finishRestoration failedAt restoration).1.members =
        { restoration.members with
          autoArmInhibited := true, recoveryRearmRequired := true
          retry := restoration.members.retry.failed failedAt } ∧
      (finishRestoration failedAt restoration).2 = .error (joinedErrors restoration.errors) := by
  have threw : ¬ restoration.errors.isEmpty = true := by
    rwa [List.isEmpty_iff]
  unfold finishRestoration
  rw [if_neg threw]
  exact ⟨rfl, rfl⟩

theorem finishRestoration_ecus (failedAt : TimePoint) (restoration : Restoration) :
    (finishRestoration failedAt restoration).1.members.ecus = restoration.members.ecus := by
  unfold finishRestoration
  split <;> rfl

variable (config : SafetyConfig) (requestedAt failedAt : TimePoint) (outcomes : RestoreOutcomes)
  (start : RestoreMembers)

/-- The ECU flags, the retry schedule and the end of the call are those of the thread model's
steps. -/
theorem enterNoOutputMode_work :
    let retry := start.retry.request requestedAt
    let work := restoreWork (start.standbyParam config) start.preserveCommandSession
      retry.failures start.ecus outcomes
    let result := enterNoOutputMode config requestedAt failedAt outcomes start
    result.1.members.ecus = work.1 ∧
      (work.2 = [] → result.2 = .ok () ∧ result.1.members.retry = retry.restored) ∧
      (work.2 ≠ [] → result.2 = .error (joinedErrors work.2) ∧
        result.1.members.retry = retry.failed failedAt) := by
  obtain ⟨latest, left⟩ :=
    restoreBlocks_left (beginRestoration requestedAt start) config outcomes rfl
  intro retry work result
  have ecus := congrArg RestoreMembers.ecus left.members
  have schedule := congrArg RestoreMembers.retry left.members
  have errors : (restoreBlocks config outcomes (beginRestoration requestedAt start)).errors = work.2 :=
    left.errors
  refine ⟨(finishRestoration_ecus failedAt _).trans ecus, fun clean => ?_, fun failed => ?_⟩
  · obtain ⟨members, ended⟩ := finishRestoration_returned failedAt (errors.trans clean)
    refine ⟨ended, (congrArg RestoreMembers.retry members).trans ?_⟩
    exact congrArg RecoveryRetry.restored schedule
  · obtain ⟨members, ended⟩ := finishRestoration_threw failedAt (errors ▸ failed)
    refine ⟨ended.trans (by rw [errors]), (congrArg RestoreMembers.retry members).trans ?_⟩
    exact congrArg (RecoveryRetry.failed · failedAt) schedule

/-- A call that returns: both ECUs are confirmed and the Panda reported the standby mode. -/
structure Returned (final : RestoreMembers) : Prop where
  camera : final.ecus.camera.disabled = false
  radar : final.ecus.radar.disabled = false
  standby : ∃ health, outcomes.health = .ok health ∧ health.safetyMode = safetyNoOutput ∧
    health.safetyParam = start.standbyParam config ∧ health.controlsAllowed = false
  recoveryPending : final.recoveryPending = false

/-- A call that throws: a further attempt is scheduled and an operator has to rearm. -/
structure Threw (final : Restoration) : Prop where
  recoveryPending : final.members.recoveryPending = true
  stays : ∀ step ∈ final.trace.dropLast, step.2.recoveryPending = true
  inhibited : final.members.autoArmInhibited = true
  rearm : final.members.recoveryRearmRequired = true
  retryPending : final.members.retry.pending = true
  failures : final.members.retry.failures =
    (if start.retry.pending then start.retry.failures else 0) + 1

theorem request_failures (retry : RecoveryRetry) :
    (retry.request requestedAt).pending = true ∧
      (retry.request requestedAt).failures = if retry.pending then retry.failures else 0 := by
  unfold RecoveryRetry.request
  by_cases pending : retry.pending = true
  · rw [if_pos pending, if_pos pending]
    exact ⟨pending, rfl⟩
  · rw [if_neg pending, if_neg pending]
    exact ⟨rfl, rfl⟩

theorem failed_pending {retry : RecoveryRetry} (pending : retry.pending = true) :
    (retry.failed failedAt).pending = true ∧ (retry.failed failedAt).failures = retry.failures + 1 := by
  simp [RecoveryRetry.failed, pending]

theorem enterNoOutputMode_returned
    (clean : (restoreBlocks config outcomes (beginRestoration requestedAt start)).errors = []) :
    Returned config outcomes start
      (enterNoOutputMode config requestedAt failedAt outcomes start).1.members := by
  obtain ⟨latest, left⟩ :=
    restoreBlocks_left (beginRestoration requestedAt start) config outcomes rfl
  have success := left.errors.symm.trans clean
  obtain ⟨camera, radar⟩ := Bool.or_eq_false_iff.mp (restoreWork_enabled success)
  obtain ⟨members, _⟩ := finishRestoration_returned failedAt clean
  unfold enterNoOutputMode
  rw [members, left.members]
  exact {
    camera := camera
    radar := radar
    standby := returnToNoOutput_confirms (recordError_eq_nil success).2
    recoveryPending := rfl }

theorem enterNoOutputMode_threw
    (failed : (restoreBlocks config outcomes (beginRestoration requestedAt start)).errors ≠ []) :
    Threw start (enterNoOutputMode config requestedAt failedAt outcomes start).1 := by
  obtain ⟨latest, left⟩ :=
    restoreBlocks_left (beginRestoration requestedAt start) config outcomes rfl
  obtain ⟨requested, counted⟩ := request_failures requestedAt start.retry
  obtain ⟨pending, failures⟩ := failed_pending failedAt requested
  obtain ⟨members, _⟩ := finishRestoration_threw failedAt failed
  have restoring := finishRestoration_pending failedAt (restoreBlocks_restoring config outcomes
    (@beginRestoration_restoring start requestedAt)) failed
  have schedule : (enterNoOutputMode config requestedAt failedAt outcomes start).1.members.retry =
      (start.retry.request requestedAt).failed failedAt := by
    unfold enterNoOutputMode
    rw [members, left.members]
    rfl
  exact {
    recoveryPending := restoring.pending
    stays := restoring.stays
    inhibited := congrArg RestoreMembers.autoArmInhibited members
    rearm := congrArg RestoreMembers.recoveryRearmRequired members
    retryPending := schedule ▸ pending
    failures := by rw [schedule, failures, counted] }

/-- Whatever fails: the vehicle flag is false from the first step, a NO_OUTPUT mode change is
attempted, a disabled flag is cleared only after a count of stock frames. -/
structure SafeOutcome (result : Restoration × UsbOutcome) : Prop where
  always : ∀ step ∈ result.1.trace, step.2.vehicleSafetyMode = false
  vehicle : result.1.members.vehicleSafetyMode = false
  attempted : ∃ param, .safetyMode safetyNoOutput param ∈ result.1.trace.map Prod.fst
  counted : ∀ ecu, CountedFirst start ecu result.1.trace
  returned : result.2 = .ok () → Returned config outcomes start result.1.members
  threw : ∀ what, result.2 = .error what → Threw start result.1

theorem enterNoOutputMode_safe : SafeOutcome config outcomes start
    (enterNoOutputMode config requestedAt failedAt outcomes start) := by
  have recorded := finishRestoration_recorded failedAt (restoreBlocks_restoring config outcomes
    (@beginRestoration_restoring start requestedAt))
  have attempted := finishRestoration_attempted failedAt
    (restoreBlocks_attempted config outcomes (beginRestoration requestedAt start))
  refine ⟨recorded.always, recorded.vehicle, attempted, recorded.counted, ?_, ?_⟩
  · intro returned
    apply enterNoOutputMode_returned
    by_contra failed
    have threw := (finishRestoration_threw failedAt failed).2
    cases threw.symm.trans returned
  · intro what threw
    apply enterNoOutputMode_threw
    intro clean
    have returned := (finishRestoration_returned failedAt clean).2
    cases returned.symm.trans threw

end Outcome
end Ioniq5Ecan
