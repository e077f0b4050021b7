import Ioniq5Ecan.Node.WireTakeover

/-! # The bus during a restoration

`enter_no_output_mode` asks the ECUs to talk again in ELM327 mode, and ends the
recovery only when no ECU is flagged any more. -/
set_option autoImplicit false
namespace Ioniq5Ecan.Ecus

open Library (Dialogue Exchange Monitor Program)
open Library.Program (ask fetch change raise raiseIf Within Keeping)

/-- Flags only fall while ECUs are restored. -/
structure Lowering (ecanBus : UInt8) (node : EcuNode) (view : WireView) (left : EcuNode)
    (later : WireView) : Prop extends Onward ecanBus node view left later where
  falls : ∀ ecu, (left.flags ecu).disabled = true → (node.flags ecu).disabled = true

abbrev Lowers {Value : Type} (settings : FrameSettings) (program : EcuProgram Value)
    (post : Value → EcuNode → WireView → Prop) : Prop :=
  ∀ node view, view.InElm327 → WireKeeps settings (Lowering settings.ecanBus node view)
    (fun _ _ => True) program post

section Restore
variable {settings : FrameSettings} {ecu : EcuId} {node left last : EcuNode}
  {view later final : WireView}

theorem Onward.inElm327 {ecanBus : UInt8} (onward : Onward ecanBus node view left later)
    (elm : view.InElm327) : later.InElm327 := by
  obtain ⟨param, isMode⟩ := elm
  exact ⟨param, onward.mode.trans isMode⟩

theorem Lowering.calm {ecanBus : UInt8} (lowering : Lowering ecanBus node view left later)
    (calm : Calm ecanBus left later last final) : Lowering ecanBus node view last final := by
  refine ⟨lowering.toOnward.trans calm.toOnward, fun ecu flagged => ?_⟩
  rw [calm.disabled] at flagged
  exact lowering.falls ecu flagged

theorem lowers_calm {Value : Type} {program : EcuProgram Value} {start : WireView → Prop}
    (calms : Calms settings start program) (begins : ∀ view : WireView, view.InElm327 → start view) :
    Lowers settings program (fun _ _ _ => True) := by
  intro node view elm left later lowering _
  refine Program.within_mono
    (calms.within lowering.idle (begins later (lowering.inElm327 elm))) ?_ ?_
  · intro _ last final calm
    exact ⟨lowering.calm calm, trivial⟩
  · intro _ last final calm
    exact lowering.calm calm

theorem lowers_udsRequest {payload wanted : List UInt8} (fit : notSingleFrame payload = false) :
    Lowers settings (udsRequest settings.ecanBus ecu payload wanted) (fun _ _ _ => True) := by
  intro node view elm left later lowering _
  have kept : ∀ (earlier before after : List BusFrame) (outcome : WriteOutcome) (last : EcuNode),
      LeavesFlags settings.ecanBus (earlier ++ (before ++ after)) left last →
        Lowering settings.ecanBus node view last
          ((((later.saw earlier).saw before).wrote settings.ecanBus
            (udsFrame settings.ecanBus (requestAddress ecu) payload) outcome).saw after) := by
    intro earlier before after outcome last leaves
    refine ⟨lowering.toOnward.trans (onward_requested leaves), fun other flagged => ?_⟩
    rw [flags_of_leaves leaves] at flagged
    exact lowering.falls other flagged
  apply within_udsRequest lowering.idle (fun _ => trivial)
  · intro unfit
    exact absurd (fit.symm.trans unfit) Bool.false_ne_true
  · intro _ earlier before
    exact allows_diagnostic (.request ecu _ rfl (lowering.inElm327 elm))
  · intro _ earlier before arrived what after last leaves
    exact kept _ _ _ _ _ leaves
  · intro _ earlier before after last leaves _
    exact kept _ _ _ _ _ leaves
  · intro _ earlier before after last response what leaves _ _
    exact kept _ _ _ _ _ leaves
  · intro _ earlier before after last response leaves _ _
    exact ⟨kept _ _ _ _ _ leaves, trivial⟩

theorem lowers_restoreRequests :
    Lowers settings (restoreRequests settings.ecanBus ecu) (fun _ _ _ => True) := by
  intro node view elm
  apply Program.keeping_bind _ (lowers_udsRequest rfl node view elm)
  intro _
  apply Program.keeping_bind _ (lowers_udsRequest rfl node view elm)
  intro _
  apply Program.keeping_bind _ (lowers_udsRequest rfl node view elm)
  intro _
  exact Program.keeping_pure fun _ _ _ _ => trivial

theorem Lowering.enable (lowering : Lowering settings.ecanBus node view left later) :
    Lowering settings.ecanBus node view (left.setDisabled ecu false) later := by
  refine ⟨⟨?_, ?_, lowering.mode, lowering.vehicle, lowering.received, ?_⟩, fun other flagged => ?_⟩
  · rw [EcuNode.setDisabled, frames_setFlags]
    exact lowering.idle
  · rw [← lowering.members]
    cases ecu <;> rfl
  · rw [EcuNode.setDisabled, frames_setFlags]
    exact lowering.stock
  · by_cases isEcu : other = ecu
    · subst isEcu
      rw [EcuNode.setDisabled, flags_setFlags_same] at flagged
      cases flagged
    · rw [EcuNode.setDisabled, flags_setFlags_other left isEcu] at flagged
      exact lowering.falls other flagged

theorem lowers_countOwned {wait : UInt64 → EcuProgram Unit}
    (calms : ∀ before, Calms settings Anywhere (wait before)) :
    Lowers settings (countOwned settings.ecanBus ecu wait) (fun _ _ _ => True) :=
  lowers_calm (calms_countOwned calms) fun _ _ => trivial

theorem lowers_restoreEcu (failures : UInt64) :
    Lowers settings (restoreEcu settings.ecanBus failures ecu) (fun _ _ _ => True) := by
  intro node view elm left later lowering _
  simp only [restoreEcu, Program.within_bind, Program.within_fetch, Program.within_ite]
  refine ⟨fun _ => ⟨lowering, trivial⟩, fun _ => ⟨fun _ => ?_, fun _ =>
    lowers_restoreRequests node view elm left later lowering trivial⟩⟩
  refine Program.within_mono (lowers_countOwned (fun _ => calms_waitResumed _) node view elm left
    later lowering trivial) ?_ fun _ _ _ kept => kept
  intro resumed last final counted
  refine ⟨fun _ => ⟨counted.1.enable, trivial⟩, fun _ =>
    lowers_restoreRequests node view elm last final counted.1 trivial⟩

theorem lowers_confirm : Lowers settings (confirmEcuRestored settings.ecanBus ecu)
    (fun _ left _ => (left.flags ecu).disabled = false) := by
  intro node view elm left later lowering _
  simp only [confirmEcuRestored, Program.within_bind, Program.within_fetch, Program.within_ite]
  refine ⟨fun clear => ⟨lowering, by simpa using clear⟩, fun _ => ?_⟩
  refine Program.within_mono (lowers_countOwned (fun _ => calms_waitResumed _) node view elm left
    later lowering trivial) ?_ fun _ _ _ kept => kept
  intro resumed last final counted
  rw [Program.within_raiseIf]
  exact ⟨fun _ => counted.1, fun _ => ⟨counted.1.enable,
    congrArg EcuFlags.disabled (flags_setFlags_same last ecu _)⟩⟩

/-- A recovery is pending outside of the vehicle mode.  The ECUs can be asked to talk once `ready`,
and those of `talking` are not flagged any more. -/
structure Restoring (settings : FrameSettings) (ready : Bool) (talking : EcuId → Prop)
    (node : EcuNode) (view : WireView) : Prop where
  idle : node.frames.uds.waiting = false
  parked : node.mode.vehicleSafetyMode = false
  pending : node.mode.recoveryPending = true
  template : node.mode.codec.hasSccTemplate = true →
    ∃ stock, view.Known settings.ecanBus stock ∧ node.mode.codec.sccTemplate = templateBytes stock
  stock : ∀ frame, node.frames.latestStockScc = some frame → view.Known settings.ecanBus frame
  elm : ready = true → view.InElm327 ∨ ∀ ecu, (node.flags ecu).disabled = false
  talking : ∀ ecu, talking ecu → (node.flags ecu).disabled = false

variable {ready : Bool} {talking : EcuId → Prop}

theorem Restoring.lowered (restoring : Restoring settings ready talking node view)
    (lowering : Lowering settings.ecanBus node view left later) :
    Restoring settings ready talking left later := by
  have stays (ecu : EcuId) (clear : (node.flags ecu).disabled = false) :
      (left.flags ecu).disabled = false :=
    Bool.eq_false_iff.mpr fun flagged =>
      absurd ((lowering.falls ecu flagged).symm.trans clear) Bool.false_ne_true.symm
  refine ⟨lowering.idle, ?_, ?_, ?_, fun frame isStock => ?_, fun isReady => ?_,
    fun ecu talks => stays ecu (restoring.talking ecu talks)⟩
  · rw [lowering.members]
    exact restoring.parked
  · rw [lowering.members]
    exact restoring.pending
  · rw [lowering.members]
    intro loaded
    obtain ⟨stock, known, bytes⟩ := restoring.template loaded
    exact ⟨stock, lowering.known known, bytes⟩
  · rcases lowering.stock frame isStock with before | known
    · exact lowering.known (restoring.stock frame before)
    · exact known
  · exact (restoring.elm isReady).imp lowering.inElm327 fun clear ecu => stays ecu (clear ecu)

theorem Lowering.refl {ecanBus : UInt8} (idle : node.frames.uds.waiting = false) :
    Lowering ecanBus node view node view :=
  ⟨.refl idle, fun _ flagged => flagged⟩

theorem restoring_persists : Persists settings (Restoring settings ready talking) :=
  fun _ _ _ _ calm restoring =>
    restoring.lowered ((Lowering.refl restoring.idle).calm calm)

theorem restores_calm {Value : Type} {program : EcuProgram Value}
    (calms : Calms settings Anywhere program) :
    WireKeeps settings (Restoring settings ready talking) (fun _ _ => True) program
      (fun _ _ _ => True) :=
  keeps_calm calms (fun _ _ restoring => restoring.idle) restoring_persists (fun _ _ _ _ _ => id)
    fun _ _ _ _ => trivial

theorem restores_flagged {Value : Type} {program : EcuProgram Value}
    {post : Value → EcuNode → WireView → Prop} (lowers : Lowers settings program post)
    (isReady : ready = true) (flagged : (node.flags ecu).disabled = true)
    (restoring : Restoring settings ready talking node view) :
    Within (wireMonitor settings) program
      (fun value left later => Restoring settings ready talking left later ∧ post value left later)
      (fun _ left later => Restoring settings ready talking left later) node view := by
  have elm : view.InElm327 := (restoring.elm isReady).resolve_right fun clear =>
    absurd (flagged.symm.trans (clear ecu)) Bool.false_ne_true.symm
  refine Program.within_mono (lowers node view elm node view (.refl restoring.idle) trivial) ?_ ?_
  · intro value left later reached
    exact ⟨restoring.lowered reached.1, reached.2⟩
  · intro _ left later lowering
    exact restoring.lowered lowering

theorem restores_restoreEcuIf :
    WireKeeps settings (Restoring settings ready talking) (fun _ _ => True)
      (restoreEcuIf settings ready ecu) (fun _ _ _ => True) := by
  intro node view restoring _
  simp only [restoreEcuIf, restoreAndBeat, Program.within_bind, Program.within_fetch,
    Program.within_runIf, Bool.and_eq_true]
  refine ⟨fun met => ?_, fun _ => ⟨restoring, trivial⟩⟩
  refine Program.within_mono (restores_flagged (lowers_restoreEcu _) met.1 met.2 restoring) ?_
    fun _ _ _ kept => kept
  intro _ left later reached
  exact restores_calm (calms_sendHeartbeat false) left later reached.1 trivial

theorem restores_confirmEcuIf :
    WireKeeps settings (Restoring settings ready talking) (fun _ _ => True)
      (confirmEcuIf settings ready ecu)
      (fun _ left _ => ready = true → (left.flags ecu).disabled = false) := by
  intro node view restoring _
  simp only [confirmEcuIf, Program.within_bind, Program.within_fetch, Program.within_runIf,
    Bool.and_eq_true]
  refine ⟨fun met => ?_, fun unmet => ⟨restoring, fun isReady => ?_⟩⟩
  · refine Program.within_mono (restores_flagged lowers_confirm met.1 met.2 restoring) ?_
      fun _ _ _ kept => kept
    intro _ left later reached
    exact ⟨reached.1, fun _ => reached.2⟩
  · rw [isReady, Bool.true_and] at unmet
    exact unmet

theorem Restoring.confirmed {result : UsbOutcome}
    (restoring : Restoring settings ready talking node view)
    (confirms : ∀ value, result = .ok value → ready = true → (node.flags ecu).disabled = false) :
    Restoring settings ready
      (fun other => talking other ∨ (other = ecu ∧ result = .ok () ∧ ready = true)) node view :=
  { restoring with
    talking := by
      rintro other (talks | ⟨isEcu, isOk, isReady⟩)
      · exact restoring.talking other talks
      · subst isEcu
        exact confirms () isOk isReady }

theorem restores_elmRestoreMode :
    WireKeeps settings (Restoring settings false talking) (fun _ _ => True)
      (elmRestoreMode settings)
      (fun _ left later => later.InElm327 ∨ ∀ ecu, (left.flags ecu).disabled = false) := by
  intro node view restoring _
  simp only [elmRestoreMode, elmMode, Program.within_bind, Program.within_fetch,
    Program.within_runIf]
  refine ⟨fun _ => ?_, fun clear => ⟨restoring, .inr fun ecu => ?_⟩⟩
  · refine Program.within_mono (restores_calm (calms_load .preserveCommandSession) node view
      restoring trivial) ?_ fun _ _ _ kept => kept
    intro preserve left later reached
    simp only [setSafetyMode, Program.within_bind]
    refine ⟨fun never => absurd never (by decide), fun (outcome : UsbOutcome) => ?_⟩
    have kept : ∀ param, Restoring settings false talking left
        (later.changedMode kSafetyElm327 param outcome) := fun param =>
      ⟨reached.1.idle, reached.1.parked, reached.1.pending, reached.1.template, reached.1.stock,
        fun never => absurd never Bool.false_ne_true, reached.1.talking⟩
    cases outcome with
    | error what => exact kept _
    | ok _ => exact ⟨kept _, .inl ⟨_, rfl⟩⟩
  · cases ecu with
    | camera => exact (Bool.or_eq_false_iff.mp clear).1
    | radar => exact (Bool.or_eq_false_iff.mp clear).2

theorem restores_noOutput (param : UInt16) :
    WireKeeps settings (Restoring settings false talking) (fun _ _ => True)
      (setSafetyMode kSafetyNoOutput param) (fun _ _ _ => True) := by
  intro node view restoring _
  simp only [setSafetyMode, Program.within_bind]
  refine ⟨fun never => absurd never (by decide), fun (outcome : UsbOutcome) => ?_⟩
  have kept : Restoring settings false talking node
      (view.changedMode kSafetyNoOutput param outcome) :=
    ⟨restoring.idle, restoring.parked, restoring.pending, restoring.template, restoring.stock,
      fun never => absurd never Bool.false_ne_true, restoring.talking⟩
  cases outcome with
  | error what => exact kept
  | ok _ => exact ⟨kept, trivial⟩

theorem restores_standDown :
    WireKeeps settings (Restoring settings false talking) (fun _ _ => True)
      (standDown settings) (fun _ _ _ => True) := by
  apply Program.keeping_bind _ (restores_calm (calms_load .preserveCommandSession))
  intro preserve
  apply Program.keeping_bind _ (restores_calm (calms_load .operatorDisarmed))
  intro disarmed
  apply Program.keeping_bind (fun _ _ _ => True)
  · apply Program.keeping_bind _ (restores_calm (calms_load .preserveCommandSession))
    intro preserve
    exact Program.keeping_runIf (fun _ => restores_noOutput 0) fun _ _ _ _ _ => trivial
  intro _
  apply Program.keeping_bind _ (restores_noOutput _)
  intro _
  apply Program.keeping_bind _ (restores_calm calms_readHealth)
  intro health
  exact Program.keeping_raiseIf fun _ _ _ _ _ => trivial

theorem Restoring.disciplined (restoring : Restoring settings ready talking node view) :
    Disciplined settings node view :=
  ⟨restoring.idle, fun clear => absurd (restoring.pending.symm.trans clear) Bool.false_ne_true.symm,
    fun vehicle => absurd (restoring.parked.symm.trans vehicle) Bool.false_ne_true,
    restoring.template, restoring.stock⟩

theorem Restoring.eased {fewer : EcuId → Prop}
    (restoring : Restoring settings ready talking node view)
    (talks : ∀ ecu, fewer ecu → talking ecu) : Restoring settings false fewer node view :=
  { restoring with
    elm := fun never => absurd never Bool.false_ne_true
    talking := fun ecu fewer => restoring.talking ecu (talks ecu fewer) }

theorem restores_outcome {program : EcuProgram Unit} {post : Unit → EcuNode → WireView → Prop}
    (keeps : WireKeeps settings (Restoring settings ready talking) (fun _ _ => True) program post)
    {next : UsbOutcome → EcuNode → WireView → Prop} {thrown : String → EcuNode → WireView → Prop}
    (restoring : Restoring settings ready talking node view)
    (goes : ∀ result left later, Restoring settings ready talking left later →
      (∀ value, result = .ok value → post value left later) → next result left later) :
    Within (wireMonitor settings) program.outcome next thrown node view := by
  rw [Program.within_outcome]
  refine Program.within_mono (keeps node view restoring trivial) ?_ ?_
  · intro value left later reached
    exact goes _ left later reached.1 fun other same => by cases same; exact reached.2
  · intro what left later kept
    exact goes _ left later kept fun value same => by cases same

/-- Without an error both ECUs talk, and there was none before. -/
theorem within_restoreEcus (errors : List String)
    (restoring : Restoring settings ready (fun _ => False) node view) :
    Within (wireMonitor settings) (restoreEcus settings ready errors)
      (fun all left later => Restoring settings false (fun _ => all = [] ∧ ready = true) left later ∧
        (all = [] → errors = []))
      (fun _ left later => Disciplined settings left later) node view := by
  simp only [restoreEcus, Program.within_bind, Program.within_pure]
  refine restores_outcome restores_restoreEcuIf restoring fun radar _ _ restoring _ => ?_
  refine restores_outcome restores_restoreEcuIf restoring fun camera _ _ restoring _ => ?_
  refine restores_outcome restores_confirmEcuIf restoring fun radarStock _ _ restoring confirms => ?_
  refine restores_outcome restores_confirmEcuIf (restoring.confirmed confirms)
    fun cameraStock _ _ restoring confirms => ?_
  refine ⟨(restoring.confirmed confirms).eased ?_, fun none => ?_⟩
  · rintro ecu ⟨none, isReady⟩
    obtain ⟨none, cameraOk⟩ := recordError_eq_nil none
    obtain ⟨_, radarOk⟩ := recordError_eq_nil none
    cases ecu with
    | camera => exact .inr ⟨rfl, cameraOk, isReady⟩
    | radar => exact .inl (.inr ⟨rfl, radarOk, isReady⟩)
  · exact (recordError_eq_nil (recordError_eq_nil (recordError_eq_nil
      (recordError_eq_nil none).1).1).1).1

theorem keeps_endRestoration (errors : List String)
    (talks : errors = [] → ∀ ecu, talking ecu)
    (restoring : Restoring settings false talking node view) :
    Within (wireMonitor settings) (endRestoration errors)
      (fun _ left later => Disciplined settings left later ∧ True)
      (fun _ left later => Disciplined settings left later) node view := by
  simp only [endRestoration, Program.within_bind, Program.within_change, Program.within_ite]
  refine ⟨fun none => ?_, fun _ => ?_⟩
  · refine ⟨⟨restoring.idle, fun _ ecu flagged => ?_, fun vehicle => ?_, fun never => ?_,
      restoring.stock⟩, trivial⟩
    · have clear := restoring.talking ecu (talks (List.isEmpty_iff.mp none) ecu)
      cases ecu <;> exact absurd (flagged.symm.trans clear) Bool.false_ne_true.symm
    · exact absurd (restoring.parked.symm.trans vehicle) Bool.false_ne_true
    · cases never
  · have cleared : Restoring settings false (fun _ => False)
        (node.setCodec (node.mode.codec.clearSccControlTemplate.resetCounters 0 0 0 0)) view :=
      ⟨restoring.idle, restoring.parked, restoring.pending, fun never => (by cases never),
        restoring.stock, fun never => absurd never Bool.false_ne_true, fun _ => False.elim⟩
    refine Program.within_mono (restores_calm calms_steadyNow _ _ cleared trivial) ?_
      fun _ _ _ kept => kept.disciplined
    intro now left later reached
    exact ⟨reached.1.idle, fun clear =>
        absurd (reached.1.pending.symm.trans clear) Bool.false_ne_true.symm,
      fun vehicle => absurd (reached.1.parked.symm.trans vehicle) Bool.false_ne_true,
      reached.1.template, reached.1.stock⟩

theorem keeps_enterNoOutputMode :
    Disciplines settings (fun _ _ => True) (enterNoOutputMode settings) (fun _ _ _ => True) := by
  intro node view disciplined _
  simp only [enterNoOutputMode, Program.within_bind, Program.within_change]
  have started : Restoring settings false (fun _ => False)
      ((node.setVehicleMode false).setPending true) view :=
    ⟨disciplined.idle, rfl, rfl, disciplined.template, disciplined.stock,
      fun never => absurd never Bool.false_ne_true, fun _ => False.elim⟩
  refine Program.within_mono (restores_calm calms_steadyNow _ _ started trivial) ?_
    fun _ _ _ kept => kept.disciplined
  rintro now node view ⟨started, -⟩
  have requested : Restoring settings false (fun _ => False)
      (node.setRetry (node.mode.recoveryRetry.request now)) view :=
    ⟨started.idle, started.parked, started.pending, started.template, started.stock, started.elm,
      fun _ => False.elim⟩
  refine restores_outcome (restores_calm (calms_sendHeartbeat false)) requested
    fun heartbeat node view restoring _ => ?_
  refine restores_outcome restores_elmRestoreMode restoring fun elm node view restoring asks => ?_
  have ready : Restoring settings elm.isOk (fun _ => False) node view :=
    { restoring with
      elm := fun isOk => by
        cases elm with
        | ok value => exact asks value rfl
        | error what => cases isOk }
  refine Program.within_mono (within_restoreEcus _ ready) ?_ fun _ _ _ kept => kept
  rintro all node view ⟨restoring, none⟩
  refine restores_outcome restores_standDown restoring fun noOutput node view restoring _ => ?_
  apply keeps_endRestoration _ _ restoring
  intro noErrors ecu
  have noError := (recordError_eq_nil noErrors).1
  refine ⟨noError, ?_⟩
  rw [(recordError_eq_nil (none noError)).2]
  rfl

end Restore

end Ioniq5Ecan.Ecus
