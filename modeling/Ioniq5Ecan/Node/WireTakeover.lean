import Ioniq5Ecan.Node.WireView

/-! # The bus during a takeover

`disable_ecu` makes an ECU silent before its flag is set, and
`enter_vehicle_safety_mode` sets the vehicle mode after that. -/
set_option autoImplicit false
namespace Ioniq5Ecan.Ecus

open Library (Dialogue Exchange Monitor Program)
open Library.Program (ask fetch change raise raiseIf Within Keeping)

/-! ## disable_ecu -/

/-- One ECU may have become silent, and is flagged only if it has. -/
structure Silences (ecanBus : UInt8) (ecu : EcuId) (node : EcuNode) (view : WireView)
    (left : EcuNode) (later : WireView) : Prop extends Onward ecanBus node view left later where
  others : ∀ other, other ≠ ecu → (left.flags other).disabled = (node.flags other).disabled ∧
    later.silent other = view.silent other
  kept : view.silent ecu = true → later.silent ecu = true
  flagged : (left.flags ecu).disabled = true →
    (node.flags ecu).disabled = true ∨ later.silent ecu = true

section Disable
variable {settings : FrameSettings} {ecanBus : UInt8} {ecu : EcuId} {node left last : EcuNode}
  {view later final : WireView}

theorem Calm.silences (calm : Calm ecanBus node view left later) :
    Silences ecanBus ecu node view left later := by
  refine ⟨calm.toOnward, fun other _ => ⟨calm.disabled other, by rw [calm.silent]⟩, ?_, ?_⟩
  · rw [calm.silent]
    exact id
  · rw [calm.disabled]
    exact .inl

theorem Silences.calm (silences : Silences ecanBus ecu node view left later)
    (calm : Calm ecanBus left later last final) : Silences ecanBus ecu node view last final := by
  refine ⟨silences.toOnward.trans calm.toOnward, fun other different => ?_, fun silent => ?_,
    fun flagged => ?_⟩
  · rw [calm.disabled, calm.silent]
    exact silences.others other different
  · rw [calm.silent]
    exact silences.kept silent
  · rw [calm.disabled] at flagged
    rw [calm.silent]
    exact silences.flagged flagged

theorem silent_silence_same (outcome : WriteOutcome) :
    (view.wrote ecanBus (silenceFrame ecanBus ecu) outcome).silent ecu =
      (view.silent ecu || decide (outcome = .delivered)) :=
  if_pos rfl

theorem silent_silence_other {other : EcuId} (different : other ≠ ecu) (outcome : WriteOutcome) :
    (view.wrote ecanBus (silenceFrame ecanBus ecu) outcome).silent other = view.silent other := by
  have silence : silenceFrame ecanBus ecu ≠ silenceFrame ecanBus other := by
    intro same
    have address : requestAddress ecu = requestAddress other :=
      congrArg (fun frame : BusFrame => frame.address) same
    cases ecu <;> cases other <;> first | exact different rfl | exact absurd address (by decide)
  have enable : silenceFrame ecanBus ecu ≠ enableFrame ecanBus other := fun same =>
    absurd (udsFrame_second same) (by decide)
  have default : silenceFrame ecanBus ecu ≠ defaultSessionFrame ecanBus other := fun same =>
    absurd (udsFrame_second same) (by decide)
  simp [WireView.wrote, silence, enable, default]

theorem silences_written (idle : node.frames.uds.waiting = false) (outcome : WriteOutcome) :
    Silences ecanBus ecu node view node
      (view.wrote ecanBus (silenceFrame ecanBus ecu) outcome) := by
  refine ⟨⟨idle, rfl, rfl, rfl, fun _ member => member, fun _ isStock => .inl isStock⟩,
    fun other different => ⟨rfl, silent_silence_other different outcome⟩, fun silent => ?_,
    fun flagged => .inl flagged⟩
  rw [silent_silence_same, silent]
  rfl

/-- The flag is set on an ECU that is silent by then. -/
theorem Silences.setDisabled (silences : Silences ecanBus ecu node view left later)
    (silent : later.silent ecu = true) :
    Silences ecanBus ecu node view (left.setDisabled ecu true) later := by
  refine ⟨⟨?_, ?_, silences.mode, silences.vehicle, silences.received, ?_⟩,
    fun other different => ?_, silences.kept, fun _ => .inr silent⟩
  · rw [EcuNode.setDisabled, frames_setFlags]
    exact silences.idle
  · rw [← silences.members]
    cases ecu <;> rfl
  · rw [EcuNode.setDisabled, frames_setFlags]
    exact silences.stock
  · rw [EcuNode.setDisabled, flags_setFlags_other left different]
    exact silences.others other different

theorem Silences.trans (first : Silences ecanBus ecu node view left later)
    (second : Silences ecanBus ecu left later last final) :
    Silences ecanBus ecu node view last final := by
  refine ⟨first.toOnward.trans second.toOnward, fun other different => ?_,
    fun silent => second.kept (first.kept silent), fun flagged => ?_⟩
  · have before := first.others other different
    have after := second.others other different
    exact ⟨after.1.trans before.1, after.2.trans before.2⟩
  · rcases second.flagged flagged with isLeft | silent
    · exact (first.flagged isLeft).imp_right second.kept
    · exact .inr silent

theorem within_disableEcu (idle : node.frames.uds.waiting = false) (elm : view.InElm327) :
    Within (wireMonitor settings) (disableEcu settings.ecanBus ecu)
      (fun _ left later => Silences settings.ecanBus ecu node view left later ∧
        (left.flags ecu).disabled = true)
      (fun _ left later => Silences settings.ecanBus ecu node view left later) node view := by
  simp only [disableEcu, Program.within_bind, Program.within_fetch, Program.within_ite,
    Program.within_pure]
  refine ⟨fun flagged => ⟨(Calm.refl idle).silences, flagged⟩, fun _ => ?_⟩
  refine Program.within_mono (calms_openSession.within idle elm) ?_
    (fun _ left later calm => calm.silences)
  intro _ mid asked opened
  simp only [sendUds, Program.within_bind, Program.within_raiseIf]
  refine ⟨fun unfit => absurd unfit Bool.false_ne_true, fun _ => ?_⟩
  apply within_sendFrame (allows_diagnostic (.request ecu _ rfl (opened.inElm327 elm)))
  · have written := opened.silences.trans (@silences_written settings.ecanBus ecu mid asked
      opened.idle .delivered)
    have silent : (asked.wrote settings.ecanBus (silenceFrame settings.ecanBus ecu)
        .delivered).silent ecu = true := by
      rw [silent_silence_same]
      exact Bool.or_true _
    have disabled := written.setDisabled silent
    have session : (asked.wrote settings.ecanBus (silenceFrame settings.ecanBus ecu)
        .delivered).InSession := .inl (opened.inElm327 elm)
    simp only [Program.within_change]
    have rest : Calms settings WireView.InSession (do
        sendTesterPresent settings.ecanBus ecu
        let observed ← countOwned settings.ecanBus ecu (waitQuiet settings.ecanBus)
        raiseIf (observed != 0) (ecu.port.label ++ " disable failed: observed " ++
          toString observed.toNat ++ " stock 0x" ++ ecu.port.ownedAddress ++ " frames")) :=
      calms_bind calms_testerPresent fun _ =>
        calms_bind (calms_countOwned calms_waitQuiet) fun _ => calms_raiseIf _ _
    have ends := rest.within disabled.idle session
    simp only [Program.within_bind, Program.within_raiseIf] at ends
    refine Program.within_mono ends ?_ (fun _ _ _ calm => disabled.calm calm)
    intro _ left later counting
    refine Program.within_mono counting ?_ (fun _ _ _ calm => disabled.calm calm)
    rintro observed left later ⟨some, none⟩
    have flag : ∀ {left : EcuNode} {later : WireView}, Calm settings.ecanBus
        (mid.setDisabled ecu true) (asked.wrote settings.ecanBus (silenceFrame settings.ecanBus ecu)
          .delivered) left later → (left.flags ecu).disabled = true := by
      intro left later calm
      rw [calm.disabled, EcuNode.setDisabled, flags_setFlags_same]
    exact ⟨fun met => disabled.calm (some met),
      fun unmet => ⟨disabled.calm (none unmet), flag (none unmet)⟩⟩
  · intro arrived what
    exact opened.silences.trans (silences_written opened.idle _)

end Disable

/-! ## The invariant -/

/-- While no recovery is pending a flagged ECU is silent; in vehicle mode all that were taken over
are; a loaded template and the newest stock frame were observed. -/
structure Disciplined (settings : FrameSettings) (node : EcuNode) (view : WireView) : Prop where
  idle : node.frames.uds.waiting = false
  flagged : node.mode.recoveryPending = false → ∀ ecu, (node.flags ecu).disabled = true →
    view.silent ecu = true
  vehicle : node.mode.vehicleSafetyMode = true → view.vehicle = true ∧ view.Quieted settings
  template : node.mode.codec.hasSccTemplate = true →
    ∃ stock, view.Known settings.ecanBus stock ∧ node.mode.codec.sccTemplate = templateBytes stock
  stock : ∀ frame, node.frames.latestStockScc = some frame → view.Known settings.ecanBus frame

def Persists (settings : FrameSettings) (holds : EcuNode → WireView → Prop) : Prop :=
  ∀ node view left later, Calm settings.ecanBus node view left later → holds node view →
    holds left later

abbrev Disciplines {Value : Type} (settings : FrameSettings) (pre : EcuNode → WireView → Prop)
    (program : EcuProgram Value) (post : Value → EcuNode → WireView → Prop) : Prop :=
  WireKeeps settings (Disciplined settings) pre program post

section Invariant
variable {settings : FrameSettings} {ecu : EcuId} {node left : EcuNode} {view later : WireView}

theorem Calm.quieted {ecanBus : UInt8} (calm : Calm ecanBus node view left later)
    (quieted : view.Quieted settings) : later.Quieted settings := by
  constructor
  · rw [calm.silent]
    exact quieted.camera
  · rw [calm.silent]
    exact quieted.radar

theorem disciplined_persists : Persists settings (Disciplined settings) := by
  intro node view left later calm disciplined
  refine ⟨calm.idle, ?_, ?_, ?_, fun frame isStock => ?_⟩
  · intro clear ecu flagged
    rw [calm.members] at clear
    rw [calm.disabled] at flagged
    rw [calm.silent]
    exact disciplined.flagged clear ecu flagged
  · rw [calm.members, calm.vehicle]
    intro vehicle
    exact (disciplined.vehicle vehicle).imp_right calm.quieted
  · rw [calm.members]
    intro loaded
    obtain ⟨stock, known, bytes⟩ := disciplined.template loaded
    exact ⟨stock, calm.known known, bytes⟩
  · rcases calm.stock frame isStock with before | known
    · exact calm.known (disciplined.stock frame before)
    · exact known

theorem keeps_calm {Value : Type} {program : EcuProgram Value} {start : WireView → Prop}
    {inv holds : EcuNode → WireView → Prop} (calms : Calms settings start program)
    (idle : ∀ node view, inv node view → node.frames.uds.waiting = false)
    (stays : Persists settings inv) (persists : Persists settings holds)
    (begins : ∀ node view, inv node view → holds node view → start view) :
    WireKeeps settings inv holds program (fun _ => holds) := by
  intro node view kept held
  refine Program.within_mono
    (calms.within (idle node view kept) (begins node view kept held)) ?_ ?_
  · intro _ left later calm
    exact ⟨stays _ _ _ _ calm kept, persists _ _ _ _ calm held⟩
  · intro _ left later calm
    exact stays _ _ _ _ calm kept

/-! ## enter_vehicle_safety_mode -/

/-- How far a takeover has come. -/
structure TakeoverStage where
  elm : Prop := False
  silenced : EcuId → Prop := fun _ => False
  stock : Option BusFrame := none
  loaded : Prop := False
  vehicle : Prop := False

/-- The node is not in vehicle mode yet, no recovery is pending, and the stage is reached. -/
structure TakingOver (settings : FrameSettings) (stage : TakeoverStage) (node : EcuNode)
    (view : WireView) : Prop where
  parked : node.mode.vehicleSafetyMode = false
  clear : node.mode.recoveryPending = false
  elm : stage.elm → view.InElm327
  silenced : ∀ ecu, stage.silenced ecu → view.silent ecu = true
  stock : ∀ frame, stage.stock = some frame → view.Known settings.ecanBus frame
  loaded : stage.loaded → node.mode.codec.hasSccTemplate = true
  vehicle : stage.vehicle → view.vehicle = true

theorem takingOver_persists (stage : TakeoverStage) :
    Persists settings (TakingOver settings stage) := by
  intro node view left later calm taking
  refine ⟨?_, ?_, fun elm => calm.inElm327 (taking.elm elm), ?_,
    fun frame isStock => calm.known (taking.stock frame isStock), ?_, ?_⟩
  · rw [calm.members]
    exact taking.parked
  · rw [calm.members]
    exact taking.clear
  · rw [calm.silent]
    exact taking.silenced
  · rw [calm.members]
    exact taking.loaded
  · rw [calm.vehicle]
    exact taking.vehicle

theorem disciplined_idle (node : EcuNode) (view : WireView) (disciplined : Disciplined settings node view) :
    node.frames.uds.waiting = false :=
  disciplined.idle

theorem takes_calm {Value : Type} {program : EcuProgram Value} {start : WireView → Prop}
    {stage : TakeoverStage} (calms : Calms settings start program)
    (begins : ∀ node view, TakingOver settings stage node view → start view) :
    Disciplines settings (TakingOver settings stage) program
      (fun _ => TakingOver settings stage) :=
  keeps_calm calms disciplined_idle disciplined_persists (takingOver_persists stage)
    fun node view _ taking => begins node view taking

def Anywhere (_ : WireView) : Prop := True

theorem takes_heartbeat (engaged : Bool) (stage : TakeoverStage) :
    Disciplines settings (TakingOver settings stage) (sendHeartbeat engaged)
      (fun _ => TakingOver settings stage) :=
  takes_calm (calms_sendHeartbeat engaged : Calms settings Anywhere _) fun _ _ _ => trivial

theorem takes_elmMode (param : UInt16) (stage : TakeoverStage) (noVehicle : ¬ stage.vehicle) :
    Disciplines settings (TakingOver settings stage) (setSafetyMode kSafetyElm327 param)
      (fun _ => TakingOver settings { stage with elm := True }) := by
  intro node view disciplined taking
  simp only [setSafetyMode, Program.within_bind]
  refine ⟨fun never => absurd never (by decide), fun (outcome : UsbOutcome) => ?_⟩
  have still : Disciplined settings node (view.changedMode kSafetyElm327 param outcome) :=
    ⟨disciplined.idle, disciplined.flagged, fun vehicle =>
      absurd (taking.parked.symm.trans vehicle) Bool.false_ne_true, disciplined.template,
      disciplined.stock⟩
  cases outcome with
  | error what => exact still
  | ok _ =>
      exact ⟨still, taking.parked, taking.clear, fun _ => ⟨param, rfl⟩, taking.silenced,
        taking.stock, taking.loaded, fun vehicle => absurd vehicle noVehicle⟩

theorem Silences.disciplined (silences : Silences settings.ecanBus ecu node view left later)
    (disciplined : Disciplined settings node view) (clear : node.mode.recoveryPending = false)
    (parked : node.mode.vehicleSafetyMode = false) : Disciplined settings left later := by
  refine ⟨silences.idle, fun _ other flagged => ?_, fun vehicle => ?_, ?_, fun frame isStock => ?_⟩
  · by_cases isEcu : other = ecu
    · subst isEcu
      rcases silences.flagged flagged with before | silent
      · exact silences.kept (disciplined.flagged clear other before)
      · exact silent
    · obtain ⟨sameFlag, sameSilent⟩ := silences.others other isEcu
      rw [sameSilent]
      rw [sameFlag] at flagged
      exact disciplined.flagged clear other flagged
  · rw [silences.members, parked] at vehicle
    cases vehicle
  · rw [silences.members]
    intro loaded
    obtain ⟨stock, known, bytes⟩ := disciplined.template loaded
    exact ⟨stock, silences.known known, bytes⟩
  · rcases silences.stock frame isStock with before | known
    · exact silences.known (disciplined.stock frame before)
    · exact known

theorem takes_disableEcu (stage : TakeoverStage) (elm : stage.elm) :
    Disciplines settings (TakingOver settings stage) (disableEcu settings.ecanBus ecu)
      (fun _ => TakingOver settings
        { stage with silenced := fun other => other = ecu ∨ stage.silenced other }) := by
  intro node view disciplined taking
  refine Program.within_mono (within_disableEcu disciplined.idle (taking.elm elm)) ?_ ?_
  · rintro _ left later ⟨silences, flagged⟩
    have kept := silences.disciplined disciplined taking.clear taking.parked
    have clear : left.mode.recoveryPending = false := by
      rw [silences.members]
      exact taking.clear
    refine ⟨kept, ?_, clear, fun elm => ?_, fun other silenced => ?_,
      fun frame isStock => silences.known (taking.stock frame isStock), ?_, ?_⟩
    · rw [silences.members]
      exact taking.parked
    · obtain ⟨param, isMode⟩ := taking.elm elm
      exact ⟨param, silences.mode.trans isMode⟩
    · by_cases isEcu : other = ecu
      · subst isEcu
        exact kept.flagged clear other flagged
      · rw [(silences.others other isEcu).2]
        exact taking.silenced other (silenced.resolve_left isEcu)
    · rw [silences.members]
      exact taking.loaded
    · rw [silences.vehicle]
      exact taking.vehicle
  · intro _ left later silences
    exact silences.disciplined disciplined taking.clear taking.parked

/-- The ECUs that the configuration takes over. -/
def Wanted (settings : FrameSettings) (ecu : EcuId) : Prop :=
  ecu = .camera ∨ settings.safety.allowLongitudinal = true

def silencedStage (settings : FrameSettings) (stock : Option BusFrame) : TakeoverStage :=
  { elm := True, silenced := Wanted settings, stock := stock }

theorem takes_silenceEcus (stock : Option BusFrame) :
    Disciplines settings (TakingOver settings { stock := stock }) (silenceEcus settings)
      (fun _ => TakingOver settings (silencedStage settings stock)) := by
  apply Program.keeping_bind _ (takes_heartbeat false _)
  intro _
  apply Program.keeping_bind _ (takes_elmMode _ _ id)
  intro _
  apply Program.keeping_bind _ (takes_disableEcu _ trivial)
  intro _
  apply Program.keeping_bind _ (takes_heartbeat false _)
  intro _
  apply Program.keeping_runIf
  · intro longitudinal
    apply Program.keeping_bind _ (takes_disableEcu _ trivial)
    intro _
    refine Program.keeping_weaken (takes_heartbeat false _) (fun _ _ _ taking => taking) ?_
    intro _ node view _ taking
    refine { taking with silenced := fun ecu _ => taking.silenced ecu ?_ }
    cases ecu with
    | camera => exact .inr (.inl rfl)
    | radar => exact .inl rfl
  · intro node view lateral _ taking
    refine { taking with silenced := fun ecu wanted => taking.silenced ecu (.inl ?_) }
    rcases wanted with isCamera | longitudinal
    · exact isCamera
    · exact absurd (lateral.symm.trans longitudinal) Bool.false_ne_true

theorem TakingOver.setCodec {stage : TakeoverStage} (taking : TakingOver settings stage node view)
    {codec : HyundaiCanFdCodec} (loaded : stage.loaded → codec.hasSccTemplate = true) :
    TakingOver settings stage (node.setCodec codec) view :=
  ⟨taking.parked, taking.clear, taking.elm, taking.silenced, taking.stock, loaded, taking.vehicle⟩

theorem Disciplined.setCodec (disciplined : Disciplined settings node view)
    {codec : HyundaiCanFdCodec} (template : codec.hasSccTemplate = true →
      ∃ stock, view.Known settings.ecanBus stock ∧ codec.sccTemplate = templateBytes stock) :
    Disciplined settings (node.setCodec codec) view :=
  ⟨disciplined.idle, fun clear ecu flagged => disciplined.flagged clear ecu (by
    cases ecu <;> exact flagged), disciplined.vehicle, template, disciplined.stock⟩

def loadedStage (settings : FrameSettings) (stock : Option BusFrame) : TakeoverStage :=
  { silencedStage settings stock with loaded := stock.isSome = true }

theorem takes_resetCodec (stock : Option BusFrame) :
    Disciplines settings (TakingOver settings (silencedStage settings stock)) (resetCodec stock)
      (fun _ => TakingOver settings (loadedStage settings stock)) := by
  apply Program.keeping_bind (fun _ => TakingOver settings (silencedStage settings stock))
  · exact Program.keeping_change fun node view disciplined taking =>
      ⟨disciplined.setCodec disciplined.template, taking.setCodec fun never => never.elim⟩
  intro _
  cases stock with
  | none =>
      exact Program.keeping_pure fun _ _ _ taking =>
        { taking with loaded := fun never => absurd never Bool.false_ne_true }
  | some stock =>
      intro node view disciplined taking
      simp only [loadTemplate, Program.within_bind, Program.within_fetch]
      cases accepted : node.mode.codec.setSccControlTemplate stock with
      | none => exact disciplined
      | some codec =>
          have template : codec.hasSccTemplate = true ∧ codec.sccTemplate = templateBytes stock := by
            unfold HyundaiCanFdCodec.setSccControlTemplate at accepted
            split at accepted
            · cases accepted
            · cases accepted
              exact ⟨rfl, rfl⟩
          refine ⟨disciplined.setCodec fun _ => ⟨stock, taking.stock stock rfl, template.2⟩, ?_⟩
          exact { taking.setCodec fun never => never.elim with loaded := fun _ => template.1 }

/-- In vehicle mode, with every wanted ECU silent. -/
def drivingStage (settings : FrameSettings) (stock : Option BusFrame) : TakeoverStage :=
  { silenced := Wanted settings, stock := stock, loaded := stock.isSome = true, vehicle := True }

theorem TakingOver.quieted {stage : TakeoverStage} (taking : TakingOver settings stage node view)
    (wanted : ∀ ecu, Wanted settings ecu → stage.silenced ecu) : view.Quieted settings :=
  ⟨taking.silenced .camera (wanted _ (.inl rfl)),
    fun longitudinal => taking.silenced .radar (wanted _ (.inr longitudinal))⟩

theorem takes_vehicleMode (stock : Option BusFrame) (param : UInt16) :
    Disciplines settings (TakingOver settings (loadedStage settings stock))
      (setSafetyMode kSafetyHyundaiCanFd param)
      (fun _ => TakingOver settings (drivingStage settings stock)) := by
  intro node view disciplined taking
  simp only [setSafetyMode, Program.within_bind]
  refine ⟨fun _ => taking.quieted fun _ => id, fun (outcome : UsbOutcome) => ?_⟩
  have still : Disciplined settings node (view.changedMode kSafetyHyundaiCanFd param outcome) :=
    ⟨disciplined.idle, disciplined.flagged, fun vehicle =>
      absurd (taking.parked.symm.trans vehicle) Bool.false_ne_true, disciplined.template,
      disciplined.stock⟩
  cases outcome with
  | error what => exact still
  | ok _ =>
      exact ⟨still, taking.parked, taking.clear, fun never => never.elim, taking.silenced,
        taking.stock, taking.loaded, fun _ => rfl⟩

theorem calms_awaitSession {start : WireView → Prop} (polls : Nat) :
    ∀ readiness, Calms settings start (awaitSession polls readiness) := by
  induction polls with
  | zero => intro readiness; exact calms_raiseIf _ _
  | succ polls ih =>
      intro readiness node view starts
      apply Program.keeping_ite
      · intro _
        exact Program.keeping_pure fun _ _ _ _ => trivial
      · intro _
        exact calms_bind calms_readHealth ih node view starts

theorem calms_sessionReady {start : WireView → Prop} : Calms settings start sessionReady :=
  calms_bind calms_readHealth fun readiness =>
    calms_bind (calms_ask .healthPolls (fun _ => trivial) fun _ _ => rfl) fun polls =>
      calms_awaitSession polls readiness

theorem calms_pollBlocked {start : WireView → Prop} (before : PandaHealth) (attempts : Nat) :
    ∀ after, Calms settings start (pollBlocked before attempts after) := by
  induction attempts with
  | zero => intro after; exact calms_pure after
  | succ attempts ih =>
      intro _
      refine calms_bind calms_readHealth fun after node view starts => ?_
      apply Program.keeping_ite
      · intro _
        exact Program.keeping_pure fun _ _ _ _ => trivial
      · intro _
        exact ih after node view starts

/-- An SCC frame over a loaded template overlays the stock frame that was loaded. -/
theorem overlays_template {codec next : HyundaiCanFdCodec} {request : SccRequest}
    {frame stock : BusFrame} (makes : codec.makeSccControl request = some (next, frame))
    (loaded : codec.hasSccTemplate = true) (bytes : codec.sccTemplate = templateBytes stock) :
    WireView.Overlays frame stock := by
  obtain ⟨target, _, overlay⟩ := makeSccControl_some makes
  intro bit above inside outside
  have small : bit / 8 < 32 := by omega
  have payload : codec.sccPayload = templateBytes stock := by
    rw [HyundaiCanFdCodec.sccPayload, if_pos loaded, bytes]
  rw [overlay.unowned bit above inside outside, payload, bitAt, bitAt]
  simp [templateBytes, Vector.getD, small]

theorem makeSccControl_template {codec next : HyundaiCanFdCodec} {request : SccRequest}
    {frame : BusFrame} (makes : codec.makeSccControl request = some (next, frame)) :
    next.hasSccTemplate = codec.hasSccTemplate ∧ next.sccTemplate = codec.sccTemplate := by
  unfold HyundaiCanFdCodec.makeSccControl at makes
  split at makes
  · cases makes
  · obtain ⟨_, _, same⟩ := Option.map_eq_some_iff.mp makes
    cases same
    exact ⟨rfl, rfl⟩

theorem calm_foreign {frame : BusFrame} (idle : node.frames.uds.waiting = false)
    (foreign : ∀ ecu, frame.address ≠ requestAddress ecu) (outcome : WriteOutcome) :
    Calm settings.ecanBus node view node (view.wrote settings.ecanBus frame outcome) := by
  refine ⟨⟨idle, rfl, rfl, rfl, fun _ member => member, fun _ isStock => .inl isStock⟩,
    fun _ => rfl, ?_⟩
  funext ecu
  have other : ∀ payload, frame ≠ udsFrame settings.ecanBus (requestAddress ecu) payload :=
    fun payload same => foreign ecu (congrArg (fun frame : BusFrame => frame.address) same)
  simp [WireView.wrote, silenceFrame, enableFrame, defaultSessionFrame, other]

theorem takes_sendProbe {stock : Option BusFrame} (isLoaded : stock.isSome = true)
    (longitudinal : settings.safety.allowLongitudinal = true) :
    Disciplines settings (TakingOver settings (drivingStage settings stock)) (sendProbe settings)
      (fun _ => TakingOver settings (drivingStage settings stock)) := by
  intro node view disciplined taking
  simp only [sendProbe, Program.within_bind, Program.within_fetch]
  cases makes : node.mode.codec.makeSccControl (probeRequest settings) with
  | none => exact disciplined
  | some made =>
      obtain ⟨codec, frame⟩ := made
      obtain ⟨known, bytes⟩ := makeSccControl_template makes
      have loaded := taking.loaded isLoaded
      have address := makeSccControl_address makes
      obtain ⟨template, isKnown, isTemplate⟩ := disciplined.template loaded
      have kept : Disciplined settings (node.setCodec codec) view :=
        disciplined.setCodec fun _ => ⟨template, isKnown, bytes.trans isTemplate⟩
      have stays := @TakingOver.setCodec settings node view _ taking codec
        fun _ => known.trans loaded
      have control : view.Control settings frame :=
        .scc address longitudinal (taking.vehicle trivial) (taking.quieted fun _ => id) template
          isKnown (overlays_template makes loaded isTemplate)
      have sent : ∀ outcome, Calm settings.ecanBus (node.setCodec codec) view
          (node.setCodec codec) (view.wrote settings.ecanBus frame outcome) := by
        apply calm_foreign kept.idle
        intro ecu
        rw [address]
        cases ecu <;> decide
      simp only [Program.within_change, Program.within_bind]
      apply within_sendFrame (show (wireMonitor settings).allows view (.send frame) from
        Or.inr control)
      · exact ⟨disciplined_persists _ _ _ _ (sent _) kept, takingOver_persists _ _ _ _ _ (sent _) stays⟩
      · intro arrived what
        exact disciplined_persists _ _ _ _ (sent _) kept

theorem takes_verify {stock : Option BusFrame} (isLoaded : stock.isSome = true)
    (longitudinal : settings.safety.allowLongitudinal = true) :
    Disciplines settings (TakingOver settings (drivingStage settings stock))
      (verifyLongitudinalFirmware settings)
      (fun _ => TakingOver settings (drivingStage settings stock)) := by
  apply Program.keeping_bind (fun _ => TakingOver settings (drivingStage settings stock))
  · exact takes_calm (calms_readHealth : Calms settings Anywhere _) fun _ _ _ => trivial
  intro before
  apply Program.keeping_bind _ (takes_sendProbe isLoaded longitudinal)
  intro _
  apply Program.keeping_bind (fun _ => TakingOver settings (drivingStage settings stock))
  · exact takes_calm (calms_pollBlocked before 5 before : Calms settings Anywhere _)
      fun _ _ _ => trivial
  intro after
  exact Program.keeping_raiseIf fun _ _ _ _ taking => taking

theorem takes_enableVehicleMode {stock : Option BusFrame}
    (isLoaded : settings.safety.allowLongitudinal = true → stock.isSome = true) :
    Disciplines settings (TakingOver settings (loadedStage settings stock))
      (enableVehicleMode settings) (fun _ _ _ => True) := by
  apply Program.keeping_bind _ (takes_vehicleMode stock _)
  intro _
  apply Program.keeping_bind (fun _ => TakingOver settings (drivingStage settings stock))
  · exact takes_calm (calms_runIf calms_sessionReady : Calms settings Anywhere _)
      fun _ _ _ => trivial
  intro _
  apply Program.keeping_bind (fun _ => TakingOver settings (drivingStage settings stock))
  · exact Program.keeping_runIf (fun longitudinal => takes_verify (isLoaded longitudinal) longitudinal)
      fun _ _ _ _ taking => taking
  intro _
  apply Program.keeping_bind (fun _ => TakingOver settings (drivingStage settings stock))
  · exact takes_calm (calms_readHealth : Calms settings Anywhere _) fun _ _ _ => trivial
  intro health
  apply Program.keeping_bind (fun _ => TakingOver settings (drivingStage settings stock))
  · exact Program.keeping_raiseIf fun _ _ _ _ taking => taking
  intro _
  apply Program.keeping_bind (fun _ => TakingOver settings (drivingStage settings stock))
  · exact takes_calm (calms_steadyNow : Calms settings Anywhere _) fun _ _ _ => trivial
  intro now
  apply Program.keeping_bind (fun _ => TakingOver settings (drivingStage settings stock))
  · exact takes_calm (calms_maintain now) fun _ _ taking => .inr (taking.vehicle trivial)
  intro _
  exact Program.keeping_change fun node view disciplined taking =>
    ⟨⟨disciplined.idle, fun clear ecu flagged => disciplined.flagged clear ecu (by
      cases ecu <;> exact flagged), fun _ => ⟨taking.vehicle trivial, taking.quieted fun _ => id⟩,
      disciplined.template, disciplined.stock⟩, trivial⟩

/-- The node before a takeover. -/
def Parked (node : EcuNode) (_ : WireView) : Prop := node.mode.vehicleSafetyMode = false

theorem takes_checkTakeover (vehicle : VehicleStateData) (commandGapResume : Bool) :
    Disciplines settings Parked (checkTakeover settings vehicle commandGapResume)
      (fun _ => TakingOver settings {}) := by
  have loads (member : SharedMember) (holds : EcuNode → WireView → Prop)
      (persists : Persists settings holds) :
      Disciplines settings holds (load member) (fun _ => holds) :=
    keeps_calm (calms_load member : Calms settings Anywhere _) disciplined_idle disciplined_persists
      persists fun _ _ _ _ => trivial
  apply Program.keeping_bind (fun _ => Parked) (loads .recoveryPending Parked fun _ _ _ _ calm parked =>
    (congrArg ModeMembers.vehicleSafetyMode calm.members).trans parked)
  intro pending node view disciplined parked
  simp only [Program.within_bind, Program.within_fetch, Program.within_raiseIf]
  refine ⟨fun _ => disciplined, fun clear => ⟨fun _ => disciplined, fun _ => ?_⟩⟩
  have taking : TakingOver settings {} node view :=
    ⟨parked, (Bool.or_eq_false_iff.mp clear).1, fun never => never.elim,
      fun _ never => never.elim, fun _ never => (by cases never), fun never => never.elim,
      fun never => never.elim⟩
  refine Program.within_mono (loads .moveLicence (TakingOver settings {}) (takingOver_persists _) node
    view disciplined taking) ?_ fun _ _ _ kept => kept
  intro licence node view reached
  exact ⟨fun _ => reached.1, fun _ => reached⟩

theorem recent_stock {frames : ControlFrames} {now : TimePoint} {frame : BusFrame}
    (recent : copyRecentSccTemplate frames now = some frame) :
    frames.latestStockScc = some frame := by
  unfold copyRecentSccTemplate at recent
  split at recent
  · rename_i stock isStock
    split at recent
    · cases recent
    · rw [isStock, recent]
  · cases recent

theorem takes_stockTemplate (vehicle : VehicleStateData) :
    Disciplines settings (TakingOver settings {}) (stockTemplate settings vehicle)
      (fun stock node view => TakingOver settings { stock := stock } node view ∧
        (settings.safety.allowLongitudinal = true → stock.isSome = true)) := by
  apply Program.keeping_ite
  · intro longitudinal
    apply Program.keeping_bind (fun _ => TakingOver settings {})
    · exact Program.keeping_raiseIf fun _ _ _ _ taking => taking
    intro _
    apply Program.keeping_bind (fun _ => TakingOver settings {})
    · exact takes_calm (calms_steadyNow : Calms settings Anywhere _) fun _ _ _ => trivial
    intro now
    apply Program.keeping_bind (fun _ => TakingOver settings {})
    · exact takes_calm (calms_interfere : Calms settings Anywhere _) fun _ _ _ => trivial
    intro _ node view disciplined taking
    simp only [Program.within_bind, Program.within_fetch, Program.within_raiseIf,
      Program.within_pure]
    refine ⟨fun _ => disciplined, fun recent => ⟨disciplined, ?_, fun _ => ?_⟩⟩
    · exact { taking with stock := fun frame isStock => disciplined.stock frame (recent_stock isStock) }
    · exact Option.isSome_iff_ne_none.mpr fun none => by simp [none] at recent
  · intro lateral
    exact Program.keeping_pure fun _ _ _ taking =>
      ⟨taking, fun longitudinal => absurd longitudinal lateral⟩

theorem keeps_enterVehicleSafetyMode (vehicle : VehicleStateData) (commandGapResume : Bool) :
    Disciplines settings (fun _ _ => True)
      (enterVehicleSafetyMode settings vehicle commandGapResume) (fun _ _ _ => True) := by
  intro node view disciplined _
  simp only [enterVehicleSafetyMode, Program.within_bind, Program.within_fetch]
  rw [Program.within_ite]
  refine ⟨fun _ => ⟨disciplined, trivial⟩, fun notVehicle => ?_⟩
  have takes : Disciplines settings Parked (takeOver settings vehicle commandGapResume)
      (fun _ _ _ => True) := by
    apply Program.keeping_bind _ (takes_checkTakeover vehicle commandGapResume)
    intro _
    apply Program.keeping_bind _ (takes_stockTemplate vehicle)
    intro stock node view disciplined taking
    have rest : Disciplines settings (TakingOver settings { stock := stock })
        (do silenceEcus settings; resetCodec stock; enableVehicleMode settings)
        (fun _ _ _ => True) := by
      apply Program.keeping_bind _ (takes_silenceEcus stock)
      intro _
      apply Program.keeping_bind _ (takes_resetCodec stock)
      intro _
      exact takes_enableVehicleMode taking.2
    exact rest node view disciplined taking.1
  exact takes node view disciplined (Bool.eq_false_iff.mpr notVehicle)

end Invariant

end Ioniq5Ecan.Ecus
