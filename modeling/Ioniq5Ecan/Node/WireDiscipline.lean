import Ioniq5Ecan.Node.WireRestore

/-! # Who may talk on the bus

Whatever the holders of the actuation mutex do, in whatever order and with
whatever failures: a frame that a stock ECU owns is only written once that ECU
was silenced and before it is enabled again, and diagnostic requests are only
written in ELM327 mode. -/
set_option autoImplicit false
namespace Ioniq5Ecan.Ecus

open Library (Dialogue Exchange Monitor Program)
open Library.Program (ask fetch change raise raiseIf Within Keeping)

/-! ## The other calls -/

section Others
variable {settings : FrameSettings} {node : EcuNode} {view : WireView}

/-- While the frames of an iteration are made: the template is that of the start, and every frame
may be sent. -/
structure Making (settings : FrameSettings) (start : HyundaiCanFdCodec) (view : WireView)
    (made : HyundaiCanFdCodec × Option (List BusFrame)) : Prop where
  loaded : made.1.hasSccTemplate = start.hasSccTemplate
  template : made.1.sccTemplate = start.sccTemplate
  controls : ∀ frames, made.2 = some frames → ∀ frame ∈ frames, view.Control settings frame

theorem Making.push {start : HyundaiCanFdCodec}
    {made : HyundaiCanFdCodec × Option (List BusFrame)}
    {make : HyundaiCanFdCodec → Option (HyundaiCanFdCodec × BusFrame)}
    (making : Making settings start view made)
    (keeps : ∀ next frame, make made.1 = some (next, frame) →
      next.hasSccTemplate = made.1.hasSccTemplate ∧ next.sccTemplate = made.1.sccTemplate)
    (controls : ∀ next frame, make made.1 = some (next, frame) → view.Control settings frame) :
    Making settings start view (pushFrame made make) := by
  refine ⟨?_, ?_, fun frames pushed frame member => ?_⟩
  · unfold pushFrame
    split
    · exact making.loaded
    · split
      · exact making.loaded
      · rename_i next frame makes
        exact (keeps next frame makes).1.trans making.loaded
  · unfold pushFrame
    split
    · exact making.template
    · split
      · exact making.template
      · rename_i next frame makes
        exact (keeps next frame makes).2.trans making.template
  · rcases pushFrame_mem pushed member with ⟨earlier, before, old⟩ | ⟨next, makes⟩
    · exact making.controls earlier before frame old
    · exact controls next frame makes

theorem same_template {codec next : HyundaiCanFdCodec} {frame : BusFrame}
    {encoded : Option BusFrame} {counted : HyundaiCanFdCodec}
    (same : counted.hasSccTemplate = codec.hasSccTemplate ∧ counted.sccTemplate = codec.sccTemplate)
    (makes : encoded.map (fun frame => (counted, frame)) = some (next, frame)) :
    next.hasSccTemplate = codec.hasSccTemplate ∧ next.sccTemplate = codec.sccTemplate := by
  obtain ⟨other, _, pair⟩ := Option.map_eq_some_iff.mp makes
  cases pair
  exact same

theorem making_assembled (disciplined : Disciplined settings node view)
    (mode : view.vehicle = true) (quiet : view.Quieted settings) (frameIndex : UInt64)
    (decision : SafetyDecision) (output : ControlOutput) (vehicle : VehicleStateData) :
    Making settings node.mode.codec view
      (assembleFrames settings node.mode.codec frameIndex decision output vehicle) := by
  have start : Making settings node.mode.codec view (node.mode.codec, some []) :=
    ⟨rfl, rfl, fun frames same frame member => by
      cases same
      cases member⟩
  have lfa : Making settings node.mode.codec view (pushFrame (node.mode.codec, some [])
      (·.makeLfa output.steeringTorque decision.lateralAllowed output.steeringRequest
        settings.ecanBus)) :=
    start.push (fun _ _ makes => same_template (by exact ⟨rfl, rfl⟩) makes)
    (fun _ _ makes => .lateral (.inl (makeLfa_address makes)) mode quiet)
  unfold assembleFrames
  dsimp only
  generalize pushFrame (node.mode.codec, some []) _ = first at lfa ⊢
  have cluster : Making settings node.mode.codec view
      (if frameIndex % 5 = 0 then
        pushFrame first (·.makeLfaCluster decision.lateralAllowed settings.ecanBus)
      else first) := by
    split
    · exact lfa.push (fun _ _ makes => same_template (by exact ⟨rfl, rfl⟩) makes)
        (fun _ _ makes => .lateral (.inr (makeLfaCluster_address makes)) mode quiet)
    · exact lfa
  generalize (if frameIndex % 5 = 0 then
    pushFrame first (·.makeLfaCluster decision.lateralAllowed settings.ecanBus) else first) = second
    at cluster ⊢
  split
  · rename_i wanted
    split
    · exact ⟨cluster.loaded, cluster.template, fun frames none => by cases none⟩
    · rename_i isLoaded
      have loaded : second.1.hasSccTemplate = true := by simpa using isLoaded
      obtain ⟨stock, known, bytes⟩ := disciplined.template (cluster.loaded.symm.trans loaded)
      have scc : Making settings node.mode.codec view (pushFrame second
          (·.makeSccControl (sccRequest settings decision output vehicle))) := cluster.push
        (fun _ _ makes => makeSccControl_template makes)
        (fun _ _ makes => .scc (makeSccControl_address makes) wanted.1 mode quiet stock known
          (overlays_template makes loaded (cluster.template.trans bytes)))
      exact scc.push (fun _ _ makes => same_template (by exact ⟨rfl, rfl⟩) makes)
        (fun _ _ makes => .fcaWarning (makeFcaWarning_address makes) wanted.1 mode quiet)
  · exact cluster

theorem keeps_anywhere {Value : Type} {program : EcuProgram Value}
    (calms : Calms settings Anywhere program) :
    Disciplines settings (fun _ _ => True) program (fun _ _ _ => True) :=
  keeps_calm calms disciplined_idle disciplined_persists (fun _ _ _ _ _ => id)
    fun _ _ _ _ => trivial

/-- In vehicle mode, as the node sees it. -/
def Driving (node : EcuNode) (_ : WireView) : Prop := node.mode.vehicleSafetyMode = true

theorem driving_persists : Persists settings Driving :=
  fun _ _ _ _ calm driving => (congrArg ModeMembers.vehicleSafetyMode calm.members).trans driving

theorem within_sendFrames {frames : List BusFrame} {post : Unit → EcuNode → WireView → Prop}
    {thrown : String → EcuNode → WireView → Prop}
    (allowed : (wireMonitor settings).allows view (.sendFrames frames))
    (sends : post () node view) (fails : ∀ what, thrown what node view) :
    Within (wireMonitor settings) (sendFrames frames) post thrown node view := by
  simp only [sendFrames, writeFrames]
  refine ⟨allowed, fun (outcome : WriteOutcome) => ?_⟩
  cases outcome with
  | delivered => exact sends
  | failed arrived what => exact fails what

theorem keeps_assembleAndSend (frameIndex : UInt64) (decision : SafetyDecision)
    (output : ControlOutput) (vehicle : VehicleStateData) (now : TimePoint) :
    Disciplines settings Driving
      (assembleAndSend settings frameIndex decision output vehicle now) (fun _ _ _ => True) := by
  intro node view disciplined driving
  obtain ⟨mode, quiet⟩ := disciplined.vehicle driving
  have making := making_assembled disciplined mode quiet frameIndex decision output vehicle
  simp only [assembleAndSend, Program.within_bind, Program.within_fetch, Program.within_change]
  generalize assembleFrames settings node.mode.codec frameIndex decision output vehicle = made
    at making ⊢
  have kept : Disciplined settings (node.setCodec made.1) view := by
    refine disciplined.setCodec fun loaded => ?_
    obtain ⟨stock, known, bytes⟩ := disciplined.template (making.loaded.symm.trans loaded)
    exact ⟨stock, known, making.template.trans bytes⟩
  cases isMade : made.2 with
  | none => exact kept
  | some frames =>
      simp only [Program.within_bind]
      have maintains := keeps_calm (calms_maintain now : Calms settings _ _) disciplined_idle
        disciplined_persists (driving_persists : Persists settings Driving)
        fun node view disciplined driving => .inr (disciplined.vehicle driving).1
      apply within_sendFrames (making.controls frames isMade)
      · refine Program.within_mono (maintains _ _ kept driving) ?_ fun _ _ _ kept => kept
        exact fun _ _ _ reached => ⟨reached.1, trivial⟩
      · exact fun _ => kept

theorem keeps_sendControlFrames (frameIndex : UInt64) (decision : SafetyDecision)
    (output : ControlOutput) (vehicle : VehicleStateData) (sessionReady : Bool) (now : TimePoint) :
    Disciplines settings (fun _ _ => True)
      (sendControlFrames settings frameIndex decision output vehicle sessionReady now)
      (fun _ _ _ => True) := by
  apply Program.keeping_bind (fun _ _ _ => True)
    (keeps_anywhere (calms_ask .connected (fun _ => trivial) fun _ _ => rfl))
  intro (connected : Bool) node view disciplined _
  simp only [Program.within_bind, Program.within_fetch, Program.within_runIf, Bool.and_eq_true]
  exact ⟨fun met => keeps_assembleAndSend frameIndex decision output vehicle now node view disciplined
    met.1.1, fun _ => ⟨disciplined, trivial⟩⟩

theorem keeps_sendRaw (frame : BusFrame) :
    Disciplines settings (fun _ _ => True) (sendRaw frame) (fun _ _ _ => True) := by
  apply Program.keeping_bind (fun _ _ _ => True) (keeps_anywhere (calms_load .longitudinalAllowed))
  intro longitudinalAllowed
  apply Program.keeping_bind (fun _ _ _ => True) (keeps_anywhere (calms_load .lateralAllowed))
  intro lateralAllowed
  apply Program.keeping_bind (fun _ _ _ => True)
    (keeps_anywhere (calms_ask .connected (fun _ => trivial) fun _ _ => rfl))
  intro (connected : Bool) node view disciplined _
  simp only [countRaw, writeRaw, Program.within_bind, Program.within_fetch, Program.within_runIf,
    Bool.and_eq_true]
  exact ⟨fun met => ⟨disciplined.vehicle met.1.1.2, fun _ => ⟨disciplined, trivial⟩⟩,
    fun _ => ⟨disciplined, trivial⟩⟩

/-- The listener's mode takes nothing back that the vehicle mode showed. -/
theorem vehicle_noOutput (param : UInt16) (outcome : UsbOutcome) :
    (view.changedMode kSafetyNoOutput param outcome).vehicle = view.vehicle := by
  simp [WireView.changedMode, kSafetyNoOutput, kSafetyElm327, kSafetyHyundaiCanFd]

theorem keeps_installListener :
    Disciplines settings (fun _ _ => True) (installListener settings) (fun _ _ _ => True) := by
  apply Program.keeping_bind (fun _ _ _ => True)
  · intro node view disciplined _
    simp only [setSafetyMode, Program.within_bind]
    refine ⟨fun never => absurd never (by decide), fun (outcome : UsbOutcome) => ?_⟩
    have kept (param : UInt16) : Disciplined settings node
        (view.changedMode kSafetyNoOutput param outcome) := by
      refine ⟨disciplined.idle, disciplined.flagged, ?_, disciplined.template, disciplined.stock⟩
      rw [vehicle_noOutput]
      exact fun driving => (disciplined.vehicle driving).imp_right fun quiet =>
        ⟨quiet.camera, quiet.radar⟩
    cases outcome with
    | error what => exact kept _
    | ok _ => exact ⟨kept _, trivial⟩
  intro _
  apply Program.keeping_bind (fun _ _ _ => True) (keeps_anywhere calms_readHealth)
  intro _
  exact Program.keeping_pure fun _ _ _ _ => trivial

theorem keeps_dropPermission :
    Disciplines settings (fun _ _ => True) dropLongitudinalPermission (fun _ _ _ => True) :=
  keeps_anywhere (calms_bind (calms_ask .dropPermission (fun _ => trivial) fun _ _ => rfl)
    fun _ => calms_orThrow _)

theorem Disciplined.reconnected (disciplined : Disciplined settings node view) :
    Disciplined settings (node.setVehicleMode false) view.reconnected :=
  ⟨disciplined.idle, disciplined.flagged, fun never => (by cases never), disciplined.template,
    disciplined.stock⟩

/-! ## Any calls -/

theorem keeps_runModeCall (call : ModeCall) :
    Disciplines settings (fun _ _ => True) (runModeCall settings call) (fun _ _ _ => True) := by
  cases call with
  | takeover vehicle commandGapResume => exact keeps_enterVehicleSafetyMode vehicle commandGapResume
  | restoration => exact keeps_enterNoOutputMode
  | iteration frameIndex decision output vehicle sessionReady now =>
      exact keeps_sendControlFrames frameIndex decision output vehicle sessionReady now
  | raw message =>
      exact Program.keeping_runIf (fun _ => keeps_sendRaw message.frame) fun _ _ _ _ _ => trivial
  | heartbeat engaged => exact keeps_anywhere (calms_sendHeartbeat engaged)
  | listener => exact keeps_installListener
  | dropPermission => exact keeps_dropPermission
  | connection =>
      intro node view disciplined _
      simp only [runModeCall, connectPanda, Program.within_bind]
      refine ⟨trivial, fun (outcome : UsbOutcome) => ?_⟩
      cases outcome with
      | error what =>
          exact ⟨disciplined.idle, disciplined.flagged, fun driving =>
            (disciplined.vehicle driving).imp_right fun quiet => ⟨quiet.camera, quiet.radar⟩,
            disciplined.template, disciplined.stock⟩
      | ok _ => exact ⟨disciplined.reconnected, trivial⟩
  | loss =>
      intro node view disciplined _
      exact ⟨trivial, fun _ => ⟨disciplined.reconnected, trivial⟩⟩
  | internalDisarm =>
      exact Program.keeping_change fun node view disciplined _ =>
        ⟨⟨disciplined.idle, fun never => (by cases never), disciplined.vehicle,
          disciplined.template, disciplined.stock⟩, trivial⟩

theorem keeps_serveModeCalls (calls : List ModeCall) :
    ∀ {node : EcuNode} {view : WireView}, Disciplined settings node view →
      Within (wireMonitor settings) (serveModeCalls settings calls)
        (fun _ node view => Disciplined settings node view) (fun _ _ _ => False) node view := by
  induction calls with
  | nil => intro node view disciplined; exact disciplined
  | cons call rest ih =>
      intro node view disciplined
      simp only [serveModeCalls, Program.within_bind, Program.within_outcome, Program.within_pure]
      refine Program.within_mono (keeps_runModeCall call node view disciplined trivial) ?_ ?_
      · intro _ node view reached
        exact Program.within_mono (ih reached.1) (fun _ _ _ kept => kept) fun _ _ _ => id
      · intro _ node view kept
        exact Program.within_mono (ih kept) (fun _ _ _ kept => kept) fun _ _ _ => id

/-- Whatever calls follow each other, in whatever order, and whatever the Panda, the bus and the
other threads answer: only what the monitor allows is asked of the Panda.  Diagnostic requests are
written in ELM327 mode, tester presents there or in vehicle mode.  The vehicle mode is set, and a
frame of the node's own is written, only while the ECUs taken over are silent, and an SCC frame is a
stock frame that was observed but for the node's signals. -/
theorem wire_discipline (settings : FrameSettings) (calls : List ModeCall)
    (party : List (Exchange EcuAsk EcuAnswer) → (question : EcuAsk) → EcuAnswer question) :
    ∃ exchanges node outcomes,
      (serveModeCalls settings calls {}).hold party [] = (exchanges, node, .ok outcomes) ∧
        (wireMonitor settings).Obeyed {} exchanges ∧
        (node.mode.vehicleSafetyMode = true →
          ((wireMonitor settings).follow {} exchanges).vehicle = true ∧
            ((wireMonitor settings).follow {} exchanges).Quieted settings) := by
  have fresh : Disciplined settings {} {} := by
    refine ⟨rfl, ?_, ?_, ?_, ?_⟩
    · intro _ ecu flagged
      cases ecu <;> cases flagged
    · intro never
      cases never
    · intro never
      cases never
    · intro _ never
      cases never
  obtain ⟨exchanges, node, outcomes, run, obeyed, disciplined⟩ :=
    Program.exists_run party (keeps_serveModeCalls calls fresh)
  exact ⟨exchanges, node, outcomes, run, obeyed, disciplined.vehicle⟩

end Others

end Ioniq5Ecan.Ecus
