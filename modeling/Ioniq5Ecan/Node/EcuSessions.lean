import Ioniq5Ecan.Node.UdsExchange

/-! # The order of diagnostic requests

What the node writes to the two ADAS ECUs over any calls of `disable_ecu`,
`restore_ecu`, `confirm_ecu_restored` and `maintain_disabled_ecus`: an ECU is
silenced only in a session it has confirmed, and it gets testers present and the
way back to its default session only if it was silenced. -/
set_option autoImplicit false
namespace Ioniq5Ecan.Ecus

open Library (Dialogue Exchange Monitor Program)
open Library.Program (ask fetch change raise raiseIf Within Keeping)

/-! ## The order -/

/-- The last frame written, the frames observed since and between the two last writes, and the ECUs
that a communication-control request was written to. -/
structure DiagnosisView where
  last : Option BusFrame := none
  before : List BusFrame := []
  since : List BusFrame := []
  silenced : EcuId → Bool := fun _ => false

section Order
variable (ecanBus : UInt8)

def silenceFrame (ecu : EcuId) : BusFrame :=
  udsFrame ecanBus (requestAddress ecu) [0x28, 0x83, 0x01]

namespace DiagnosisView

def saw (view : DiagnosisView) (received : List BusFrame) : DiagnosisView :=
  { view with since := view.since ++ received }

def wrote (view : DiagnosisView) (frame : BusFrame) (outcome : WriteOutcome) : DiagnosisView where
  last := if outcome = .delivered then some frame else none
  before := view.since
  since := []
  silenced ecu := view.silenced ecu ||
    (frame == silenceFrame ecanBus ecu && decide (outcome = .delivered))

def notes (view : DiagnosisView) : (question : EcuAsk) → EcuAnswer question → DiagnosisView
  | .meanwhile, (received : List BusFrame) => view.saw received
  | .send frame, (outcome : WriteOutcome) => view.wrote ecanBus frame outcome
  | _, _ => view

/-- The last frame was this request, and the ECU has answered so since the write before it: the
request is registered between the two writes. -/
def Granted (view : DiagnosisView) (ecu : EcuId) (payload wanted : List UInt8) : Prop :=
  view.last = some (udsFrame ecanBus (requestAddress ecu) payload) ∧
    ∃ frame ∈ view.before ++ view.since, ∃ response,
      answerPayload ecanBus (ecuResponseAddress ecu) frame = some response ∧
        startsWith response wanted = true

/-- What may be written to an ECU. -/
inductive Permitted (view : DiagnosisView) (ecu : EcuId) : List UInt8 → Prop
  | session : Permitted view ecu [0x10, 0x03]
  | silence (confirmed : view.Granted ecanBus ecu [0x10, 0x03] [0x50, 0x03]) :
      Permitted view ecu [0x28, 0x83, 0x01]
  | testerPresent (silenced : view.silenced ecu = true) : Permitted view ecu [0x3E, 0x80]
  | enable (silenced : view.silenced ecu = true)
      (confirmed : view.Granted ecanBus ecu [0x10, 0x03] [0x50, 0x03]) :
      Permitted view ecu [0x28, 0x00, 0x01]
  | defaultSession (silenced : view.silenced ecu = true)
      (confirmed : view.Granted ecanBus ecu [0x28, 0x00, 0x01] [0x68, 0x00]) :
      Permitted view ecu [0x10, 0x01]

def allows (view : DiagnosisView) : EcuAsk → Prop
  | .send frame => ∃ ecu payload,
      frame = udsFrame ecanBus (requestAddress ecu) payload ∧ view.Permitted ecanBus ecu payload
  | .meanwhile | .clock | .rounds => True
  | _ => False

end DiagnosisView

def diagnosisMonitor : Monitor EcuAsk EcuAnswer DiagnosisView where
  allows := DiagnosisView.allows ecanBus
  notes := DiagnosisView.notes ecanBus

end Order

/-! ## The calls -/

inductive EcuCall
  | disable (ecu : EcuId)
  | restore (failures : UInt64) (ecu : EcuId)
  | confirm (ecu : EcuId)
  | maintain (now : TimePoint)

section Owner
variable (ecanBus : UInt8)

def runEcuCall : EcuCall → EcuProgram Unit
  | .disable ecu => disableEcu ecanBus ecu
  | .restore failures ecu => restoreEcu ecanBus failures ecu
  | .confirm ecu => confirmEcuRestored ecanBus ecu
  | .maintain now => maintainDisabledEcus ecanBus now

/-- The calls of an owner that goes on after an exception. -/
def serveEcuCalls : List EcuCall → EcuProgram (List UsbOutcome)
  | [] => pure []
  | call :: rest => do
      let outcome ← (runEcuCall ecanBus call).outcome
      let later ← serveEcuCalls rest
      pure (outcome :: later)

end Owner

/-! ## What every call keeps -/

/-- No request is pending, a flagged ECU was silenced, and so were those silenced at the start. -/
structure Steady (start : EcuId → Bool) (node : EcuNode) (view : DiagnosisView) : Prop where
  idle : node.frames.uds.waiting = false
  silenced : ∀ ecu, (node.flags ecu).disabled = true → view.silenced ecu = true
  kept : ∀ ecu, start ecu = true → view.silenced ecu = true

section Steadiness
variable {ecanBus : UInt8} {start : EcuId → Bool} {node : EcuNode} {view : DiagnosisView}
  {ecu : EcuId} {payload wanted : List UInt8}

theorem Granted.saw (granted : view.Granted ecanBus ecu payload wanted)
    (received : List BusFrame) : (view.saw received).Granted ecanBus ecu payload wanted := by
  obtain ⟨last, frame, member, response, answer⟩ := granted
  refine ⟨last, frame, ?_, response, answer⟩
  rw [DiagnosisView.saw, ← List.append_assoc]
  exact List.mem_append_left _ member

theorem Permitted.saw (permitted : view.Permitted ecanBus ecu payload) (received : List BusFrame) :
    (view.saw received).Permitted ecanBus ecu payload := by
  cases permitted with
  | session => exact .session
  | silence confirmed => exact .silence (Granted.saw confirmed received)
  | testerPresent silenced => exact .testerPresent silenced
  | enable silenced confirmed => exact .enable silenced (Granted.saw confirmed received)
  | defaultSession silenced confirmed =>
      exact .defaultSession silenced (Granted.saw confirmed received)

theorem Permitted.fits (permitted : view.Permitted ecanBus ecu payload) :
    notSingleFrame payload = false := by
  cases permitted <;> rfl

theorem silenced_wrote (frame : BusFrame) (outcome : WriteOutcome)
    (silenced : view.silenced ecu = true) :
    (view.wrote ecanBus frame outcome).silenced ecu = true := by
  simp [DiagnosisView.wrote, silenced]

theorem Steady.saw (steady : Steady start node view) (received : List BusFrame) :
    Steady start (node.observed ecanBus received) (view.saw received) := by
  refine ⟨?_, steady.silenced, steady.kept⟩
  rw [observed_idle steady.idle]
  exact steady.idle

theorem Steady.wrote (steady : Steady start node view) (frame : BusFrame) (outcome : WriteOutcome) :
    Steady start node (view.wrote ecanBus frame outcome) :=
  ⟨steady.idle, fun ecu disabled => silenced_wrote frame outcome (steady.silenced ecu disabled),
    fun ecu isStart => silenced_wrote frame outcome (steady.kept ecu isStart)⟩

theorem Steady.of_leaves {left : EcuNode} {received : List BusFrame}
    (steady : Steady start node view) (leaves : LeavesFlags ecanBus received node left) {later : DiagnosisView}
    (kept : ∀ ecu, view.silenced ecu = true → later.silenced ecu = true) :
    Steady start left later := by
  refine ⟨leaves.idle, fun ecu disabled => kept ecu (steady.silenced ecu ?_),
    fun ecu isStart => kept ecu (steady.kept ecu isStart)⟩
  cases ecu with
  | camera =>
      rw [EcuNode.flags, leaves.camera] at disabled
      exact disabled
  | radar =>
      rw [EcuNode.flags, leaves.radar] at disabled
      exact disabled

abbrev Keeps {Value : Type} (ecanBus : UInt8) (start : EcuId → Bool)
    (pre : EcuNode → DiagnosisView → Prop) (program : EcuProgram Value)
    (post : Value → EcuNode → DiagnosisView → Prop) : Prop :=
  Keeping (diagnosisMonitor ecanBus) (Steady start) pre program post

theorem requestView_silenced (frame : BusFrame) (earlier before after : List BusFrame)
    (outcome : WriteOutcome) (silenced : view.silenced ecu = true) :
    (requestView (diagnosisMonitor ecanBus) view frame earlier before outcome after).silenced ecu =
      true := by
  show (DiagnosisView.wrote ecanBus ((view.saw earlier).saw before) frame outcome).silenced ecu = true
  exact silenced_wrote frame outcome silenced

theorem keeps_udsRequest :
    Keeps ecanBus start (fun _ view => view.Permitted ecanBus ecu payload)
      (udsRequest ecanBus ecu payload wanted)
      (fun _ _ view => view.Granted ecanBus ecu payload wanted) := by
  intro node view steady permitted
  apply within_udsRequest steady.idle (fun _ => trivial)
  · intro unfit
    rw [Permitted.fits permitted] at unfit
    cases unfit
  · intro _ earlier before
    exact ⟨ecu, payload, rfl, Permitted.saw (Permitted.saw permitted earlier) before⟩
  · intro _ earlier before arrived what after left leaves
    exact steady.of_leaves leaves fun ecu => requestView_silenced _ _ _ _ _
  · intro _ earlier before after left leaves _
    exact steady.of_leaves leaves fun ecu => requestView_silenced _ _ _ _ _
  · intro _ earlier before after left response what leaves _ _
    exact steady.of_leaves leaves fun ecu => requestView_silenced _ _ _ _ _
  · intro _ earlier before after left response leaves answer judged
    refine ⟨steady.of_leaves leaves fun ecu => requestView_silenced _ _ _ _ _, rfl, ?_⟩
    have member := List.mem_of_mem_head? (Option.mem_def.mpr answer)
    obtain ⟨frame, isMember, answered⟩ := List.mem_filterMap.mp member
    refine ⟨frame, ?_, response, answered, judged_starts judged⟩
    show frame ∈ ((view.saw earlier).saw before).since ++ ([] ++ after)
    rcases List.mem_append.mp isMember with early | late
    · exact List.mem_append_left _ (List.mem_append_right _ early)
    · exact List.mem_append_right _ late

theorem keeps_sendUds {post : Unit → EcuNode → DiagnosisView → Prop}
    (delivers : ∀ node view, Steady start node view → view.Permitted ecanBus ecu payload →
      post () node (view.wrote ecanBus (udsFrame ecanBus (requestAddress ecu) payload) .delivered)) :
    Keeps ecanBus start (fun _ view => view.Permitted ecanBus ecu payload)
      (sendUds ecanBus (requestAddress ecu) payload) post := by
  intro node view steady permitted
  simp only [sendUds, Program.within_bind, Program.within_raiseIf]
  refine ⟨fun _ => steady, fun _ => ?_⟩
  apply within_sendFrame (show (diagnosisMonitor ecanBus).allows view (.send _) from
    ⟨ecu, payload, rfl, permitted⟩)
  · exact ⟨steady.wrote _ _, delivers node view steady permitted⟩
  · intro arrived what
    exact steady.wrote _ _

theorem Steady.of_flags {left : EcuNode} (steady : Steady start node view)
    (frames : left.frames = node.frames)
    (flags : ∀ ecu, (left.flags ecu).disabled = true → (node.flags ecu).disabled = true ∨
      view.silenced ecu = true) : Steady start left view := by
  refine ⟨?_, fun ecu disabled => ?_, steady.kept⟩
  · rw [frames]
    exact steady.idle
  · rcases flags ecu disabled with before | silenced
    · exact steady.silenced ecu before
    · exact silenced

@[simp] theorem flags_setFlags_same (node : EcuNode) (ecu : EcuId) (value : EcuFlags) :
    (node.setFlags ecu value).flags ecu = value := by
  cases ecu <;> rfl

theorem flags_setFlags_other (node : EcuNode) {ecu other : EcuId} (different : other ≠ ecu)
    (value : EcuFlags) : (node.setFlags ecu value).flags other = node.flags other := by
  cases ecu <;> cases other <;> first | rfl | exact absurd rfl different

@[simp] theorem frames_setFlags (node : EcuNode) (ecu : EcuId) (value : EcuFlags) :
    (node.setFlags ecu value).frames = node.frames := by
  cases ecu <;> rfl

theorem Steady.setFlags (steady : Steady start node view) {value : EcuFlags}
    (allowed : value.disabled = true → (node.flags ecu).disabled = true ∨
      view.silenced ecu = true) : Steady start (node.setFlags ecu value) view := by
  apply steady.of_flags (frames_setFlags node ecu value)
  intro other disabled
  by_cases same : other = ecu
  · subst same
    rw [flags_setFlags_same] at disabled
    exact allowed disabled
  · rw [flags_setFlags_other node same] at disabled
    exact .inl disabled

theorem keeps_sendTesterPresent {pre : EcuNode → DiagnosisView → Prop}
    (silenced : ∀ node view, Steady start node view → pre node view →
      view.silenced ecu = true) :
    Keeps ecanBus start pre (sendTesterPresent ecanBus ecu) (fun _ _ _ => True) := by
  unfold sendTesterPresent
  apply Program.keeping_bind (fun _ _ _ => True)
  · have sends : Keeps ecanBus start _ (sendUds ecanBus (requestAddress ecu) [0x3E, 0x80])
        (fun _ _ _ => True) := keeps_sendUds fun _ _ _ _ => trivial
    exact Program.keeping_weaken sends
      (fun node view steady start => .testerPresent (silenced node view steady start))
      (fun _ _ _ _ _ => trivial)
  intro _ node view steady _
  simp only [Program.within_bind, Program.within_change]
  refine ⟨trivial, fun now => ⟨steady.setFlags fun disabled => .inl disabled, trivial⟩⟩

abbrev Stable {Value : Type} (ecanBus : UInt8) (start : EcuId → Bool)
    (program : EcuProgram Value) : Prop :=
  Keeps ecanBus start (fun _ _ => True) program (fun _ _ _ => True)

theorem stable_bind {Value Other : Type} {program : EcuProgram Other}
    {next : Other → EcuProgram Value} (first : Stable ecanBus start program)
    (second : ∀ value, Stable ecanBus start (next value)) : Stable ecanBus start (program >>= next) :=
  Program.keeping_bind (fun _ _ _ => True) first second

theorem stable_maintainEcu (now : TimePoint) : Stable ecanBus start (maintainEcu ecanBus now ecu) := by
  intro node view steady _
  simp only [maintainEcu, Program.within_bind, Program.within_fetch, Program.within_runIf]
  refine ⟨fun due => ?_, fun _ => ⟨steady, trivial⟩⟩
  have disabled := (Bool.and_eq_true_iff.mp due).1
  have pointwise : Keeps ecanBus start (fun first seen => first = node ∧ seen = view)
      (sendTesterPresent ecanBus ecu) (fun _ _ _ => True) := by
    apply keeps_sendTesterPresent
    rintro first seen _ ⟨rfl, rfl⟩
    exact steady.silenced ecu disabled
  exact pointwise node view steady ⟨rfl, rfl⟩

theorem stable_maintainDisabledEcus (now : TimePoint) :
    Stable ecanBus start (maintainDisabledEcus ecanBus now) :=
  stable_bind (stable_maintainEcu now) fun _ => stable_maintainEcu now

theorem stable_interfere : Stable ecanBus start (interfere ecanBus) :=
  fun _ _ steady _ => ⟨trivial, fun received => ⟨steady.saw received, trivial⟩⟩

theorem stable_observeQuiet (deadline : TimePoint) (rounds : List WaitRound) :
    Stable ecanBus start (observeQuiet ecanBus deadline rounds) := by
  induction rounds with
  | nil => exact Program.keeping_pure fun _ _ _ _ => trivial
  | cons round rest ih =>
      unfold observeQuiet
      apply Program.keeping_ite
      · intro _
        apply stable_bind (stable_maintainDisabledEcus _)
        intro _
        exact stable_bind stable_interfere fun _ => ih
      · intro _
        exact Program.keeping_pure fun _ _ _ _ => trivial

theorem stable_awaitStock (before : UInt64) (deadline : TimePoint) (rounds : List WaitRound) :
    Stable ecanBus start (awaitStock ecanBus ecu before deadline rounds) := by
  induction rounds with
  | nil => exact Program.keeping_pure fun _ _ _ _ => trivial
  | cons round rest ih =>
      intro node view steady _
      simp only [awaitStock, Program.within_bind, Program.within_fetch, Program.within_ite,
        Program.within_pure, within_interfere]
      refine ⟨fun _ => ⟨trivial, fun received => ?_⟩, fun _ => ⟨steady, trivial⟩⟩
      exact ih _ _ (steady.saw received) trivial

theorem stable_countOwned {wait : UInt64 → EcuProgram Unit}
    (stable : ∀ before, Stable ecanBus start (wait before)) :
    Stable ecanBus start (countOwned ecanBus ecu wait) := by
  apply stable_bind stable_interfere
  intro _ node view steady _
  simp only [Program.within_bind, Program.within_fetch]
  refine Program.within_mono (stable _ node view steady trivial) ?_ (fun _ _ _ kept => kept)
  intro _ node view reached
  exact ⟨trivial, fun received => ⟨reached.1.saw received, trivial⟩⟩

theorem stable_waitQuiet (before : UInt64) : Stable ecanBus start (waitQuiet ecanBus before) := by
  intro node view steady _
  simp only [waitQuiet, Program.within_bind]
  exact ⟨trivial, fun start => ⟨trivial, fun rounds =>
    stable_observeQuiet _ rounds node view steady trivial⟩⟩

theorem stable_waitResumed (before : UInt64) :
    Stable ecanBus start (waitResumed ecanBus ecu before) := by
  intro node view steady _
  simp only [waitResumed, Program.within_bind]
  exact ⟨trivial, fun start => ⟨trivial, fun rounds =>
    stable_awaitStock before _ rounds node view steady trivial⟩⟩

theorem stable_raiseIf (condition : Bool) (what : String) :
    Stable ecanBus start (raiseIf condition what) :=
  Program.keeping_raiseIf fun _ _ _ _ _ => trivial

theorem stable_enable :
    Stable ecanBus start (change fun node => node.setDisabled ecu false) :=
  Program.keeping_change fun _ _ steady _ =>
    ⟨steady.setFlags fun disabled => absurd disabled Bool.false_ne_true, trivial⟩

/-! ## The ECU calls -/

theorem stable_disableEcu : Stable ecanBus start (disableEcu ecanBus ecu) := by
  unfold disableEcu
  apply Program.keeping_bind (fun _ _ _ => True)
  · exact fun node view steady _ => ⟨steady, trivial⟩
  intro node
  apply Program.keeping_ite
  · intro _
    exact Program.keeping_pure fun _ _ _ _ => trivial
  intro _
  apply Program.keeping_bind (fun _ _ view => view.Granted ecanBus ecu [0x10, 0x03] [0x50, 0x03])
  · exact Program.keeping_weaken keeps_udsRequest (fun _ _ _ _ => .session)
      (fun _ _ _ _ granted => granted)
  intro _
  apply Program.keeping_bind (fun _ _ view => view.silenced ecu = true)
  · refine Program.keeping_weaken (keeps_sendUds ?_) (fun _ _ _ granted => .silence granted)
      (fun _ _ _ _ silenced => silenced)
    intro node view _ _
    simp [DiagnosisView.wrote, silenceFrame]
  intro _
  apply Program.keeping_bind (fun _ _ view => view.silenced ecu = true)
  · exact Program.keeping_change fun _ _ steady silenced =>
      ⟨steady.setFlags fun _ => .inr silenced, silenced⟩
  intro _
  apply Program.keeping_bind (fun _ _ _ => True)
  · exact keeps_sendTesterPresent fun _ _ _ silenced => silenced
  intro _
  exact stable_bind (stable_countOwned stable_waitQuiet) fun _ => stable_raiseIf _ _

/-- The way back to the default session of a silenced ECU. -/
theorem stable_restoreRequests (silenced : start ecu = true) :
    Stable ecanBus start (restoreRequests ecanBus ecu) := by
  unfold restoreRequests
  apply Program.keeping_bind (fun _ _ view => view.Granted ecanBus ecu [0x10, 0x03] [0x50, 0x03])
  · exact Program.keeping_weaken keeps_udsRequest (fun _ _ _ _ => .session)
      (fun _ _ _ _ granted => granted)
  intro _
  apply Program.keeping_bind
    (fun _ _ view => view.Granted ecanBus ecu [0x28, 0x00, 0x01] [0x68, 0x00])
  · exact Program.keeping_weaken keeps_udsRequest
      (fun _ _ steady granted => .enable (steady.kept ecu silenced) granted)
      (fun _ _ _ _ granted => granted)
  intro _
  apply Program.keeping_bind (fun _ _ _ => True)
  · exact Program.keeping_weaken keeps_udsRequest
      (fun _ _ steady granted => .defaultSession (steady.kept ecu silenced) granted)
      (fun _ _ _ _ _ => trivial)
  intro _
  exact Program.keeping_pure fun _ _ _ _ => trivial

theorem Steady.from_here (steady : Steady start node view) : Steady view.silenced node view :=
  ⟨steady.idle, steady.silenced, fun _ silenced => silenced⟩

theorem Steady.rebase {Value : Type} {program : EcuProgram Value} (steady : Steady start node view)
    (stable : Stable ecanBus view.silenced program) :
    Within (diagnosisMonitor ecanBus) program
      (fun _ node view => Steady start node view ∧ True) (fun _ node view => Steady start node view)
      node view := by
  have older : ∀ {left : EcuNode} {later : DiagnosisView}, Steady view.silenced left later →
      Steady start left later := fun kept =>
    ⟨kept.idle, kept.silenced, fun ecu isStart => kept.kept ecu (steady.kept ecu isStart)⟩
  exact Program.within_mono (stable node view steady.from_here trivial)
    (fun _ _ _ kept => ⟨older kept.1, trivial⟩) (fun _ _ _ kept => older kept)

theorem stable_restoreEcu (failures : UInt64) :
    Stable ecanBus start (restoreEcu ecanBus failures ecu) := by
  intro node view steady _
  simp only [restoreEcu, Program.within_bind, Program.within_fetch]
  rw [Program.within_ite, Program.within_ite]
  refine ⟨fun _ => ⟨steady, trivial⟩, fun enabled => ?_⟩
  have silenced : view.silenced ecu = true := steady.silenced ecu (by simpa using enabled)
  refine ⟨fun _ => ?_, fun _ => steady.rebase (stable_restoreRequests silenced)⟩
  apply steady.rebase
  apply stable_bind (stable_countOwned stable_waitResumed)
  intro resumed
  exact Program.keeping_ite (fun _ => stable_enable) (fun _ => stable_restoreRequests silenced)

theorem stable_confirmEcuRestored : Stable ecanBus start (confirmEcuRestored ecanBus ecu) := by
  unfold confirmEcuRestored
  apply Program.keeping_bind (fun _ _ _ => True)
  · exact fun node view steady _ => ⟨steady, trivial⟩
  intro node
  apply Program.keeping_ite
  · intro _
    exact Program.keeping_pure fun _ _ _ _ => trivial
  intro _
  apply stable_bind (stable_countOwned stable_waitResumed)
  intro resumed
  exact stable_bind (stable_raiseIf _ _) fun _ => stable_enable

theorem stable_runEcuCall (call : EcuCall) : Stable ecanBus start (runEcuCall ecanBus call) := by
  cases call with
  | disable ecu => exact stable_disableEcu
  | restore failures ecu => exact stable_restoreEcu failures
  | confirm ecu => exact stable_confirmEcuRestored
  | maintain now => exact stable_maintainDisabledEcus now

theorem within_serveEcuCalls (calls : List EcuCall) :
    ∀ {node : EcuNode} {view : DiagnosisView}, Steady start node view →
      Within (diagnosisMonitor ecanBus) (serveEcuCalls ecanBus calls)
        (fun _ node view => Steady start node view) (fun _ _ _ => False) node view := by
  induction calls with
  | nil => intro node view steady; exact steady
  | cons call rest ih =>
      intro node view steady
      simp only [serveEcuCalls, Program.within_bind, Program.within_outcome, Program.within_pure]
      refine Program.within_mono (stable_runEcuCall call node view steady trivial) ?_ ?_
      · intro _ node view kept
        exact ih kept.1
      · intro _ node view kept
        exact ih kept

end Steadiness

/-- Whatever the ECUs answer, whatever else arrives and whichever writes fail: a
communication-control request is only written after the ECU has confirmed the session request just
before it, the default session is only requested once communication is confirmed to be enabled, and
testers present and restoring requests only go to an ECU that was silenced.  Nothing else is
written, and every ECU flagged as disabled was silenced. -/
theorem diagnostic_order (ecanBus : UInt8) (calls : List EcuCall)
    (party : List (Exchange EcuAsk EcuAnswer) → (question : EcuAsk) → EcuAnswer question) :
    ∃ transcript node outcomes,
      (serveEcuCalls ecanBus calls {}).hold party [] = (transcript, node, .ok outcomes) ∧
        (diagnosisMonitor ecanBus).Obeyed {} transcript ∧
        ∀ ecu, (node.flags ecu).disabled = true →
          ((diagnosisMonitor ecanBus).follow {} transcript).silenced ecu = true := by
  have start : Steady (fun _ => false) {} {} := by
    refine ⟨rfl, fun ecu disabled => ?_, fun _ never => absurd never Bool.false_ne_true⟩
    cases ecu <;> cases disabled
  obtain ⟨transcript, node, outcomes, run, obeyed, steady⟩ :=
    Program.exists_run party (within_serveEcuCalls calls start)
  exact ⟨transcript, node, outcomes, run, obeyed, steady.silenced⟩

end Ioniq5Ecan.Ecus
