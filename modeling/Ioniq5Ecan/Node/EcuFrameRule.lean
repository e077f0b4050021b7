import Ioniq5Ecan.Node.EcuSessions

/-! # What diagnostics leave alone

The calls for one ECU observe frames, look at the clock and write requests, and
change nothing but the UDS slot and the flags of the ECU.  Whatever these keep
true, all the calls keep true, under any monitor. -/
set_option autoImplicit false
namespace Ioniq5Ecan.Ecus

open Library (Monitor Program)
open Library.Program (fetch change raise raiseIf Preserving preserving_bind preserving_catching
  preserving_change preserving_fetch preserving_ite preserving_pure preserving_raise
  preserving_raiseIf preserving_runIf)

/-- The steps of the diagnostics are allowed and keep `holds`. -/
structure Undisturbed {View : Type} (ecanBus : UInt8) (monitor : Monitor EcuAsk EcuAnswer View)
    (holds : EcuNode → View → Prop) : Prop where
  observes : ∀ node view, holds node view → monitor.allows view .meanwhile ∧
    ∀ frames : List BusFrame,
      holds (node.observed ecanBus frames) (monitor.notes view .meanwhile frames)
  clock : ∀ node view, holds node view → monitor.allows view .clock ∧
    ∀ now : TimePoint, holds node (monitor.notes view .clock now)
  rounds : ∀ node view, holds node view → monitor.allows view .rounds ∧
    ∀ rounds : List WaitRound, holds node (monitor.notes view .rounds rounds)
  requests : ∀ node view ecu payload, holds node view →
    monitor.allows view (.send (udsFrame ecanBus (requestAddress ecu) payload)) ∧
      ∀ outcome : WriteOutcome,
        holds node (monitor.notes view (.send (udsFrame ecanBus (requestAddress ecu) payload)) outcome)
  slot : ∀ node view uds, holds node view → holds (EcuNode.setUds node uds) view
  flags : ∀ node view ecu flags, holds node view → holds (EcuNode.setFlags node ecu flags) view

section Rules
variable {View Value Other : Type} {monitor : Monitor EcuAsk EcuAnswer View}
  {holds pre : EcuNode → View → Prop}

theorem preserves_judge (wanted response : List UInt8) :
    Preserving monitor holds (judge wanted response) := by
  unfold judge
  split
  · exact preserving_pure _
  · exact preserving_raise _

theorem Undisturbed.and {ecanBus : UInt8} (first : Undisturbed ecanBus monitor holds)
    (second : Undisturbed ecanBus monitor pre) :
    Undisturbed ecanBus monitor (fun node view => holds node view ∧ pre node view) where
  observes node view held := ⟨(first.observes node view held.1).1, fun frames =>
    ⟨(first.observes node view held.1).2 frames, (second.observes node view held.2).2 frames⟩⟩
  clock node view held := ⟨(first.clock node view held.1).1, fun now =>
    ⟨(first.clock node view held.1).2 now, (second.clock node view held.2).2 now⟩⟩
  rounds node view held := ⟨(first.rounds node view held.1).1, fun rounds =>
    ⟨(first.rounds node view held.1).2 rounds, (second.rounds node view held.2).2 rounds⟩⟩
  requests node view ecu payload held := ⟨(first.requests node view ecu payload held.1).1,
    fun outcome => ⟨(first.requests node view ecu payload held.1).2 outcome,
      (second.requests node view ecu payload held.2).2 outcome⟩⟩
  slot node view uds held := ⟨first.slot node view uds held.1, second.slot node view uds held.2⟩
  flags node view ecu flags held :=
    ⟨first.flags node view ecu flags held.1, second.flags node view ecu flags held.2⟩

end Rules

/-! ## The calls -/

section Calls
variable {View : Type} {ecanBus : UInt8} {monitor : Monitor EcuAsk EcuAnswer View}
  {holds : EcuNode → View → Prop} (still : Undisturbed ecanBus monitor holds)
include still

theorem preserves_interfere : Preserving monitor holds (interfere ecanBus) :=
  fun node view held _ => ⟨(still.observes node view held).1, fun frames =>
    ⟨(still.observes node view held).2 frames, trivial⟩⟩

theorem preserves_steadyNow : Preserving monitor holds steadyNow :=
  fun node view held _ => ⟨(still.clock node view held).1, fun now =>
    ⟨(still.clock node view held).2 now, trivial⟩⟩

theorem preserves_waitRounds : Preserving monitor holds waitRounds :=
  fun node view held _ => ⟨(still.rounds node view held).1, fun rounds =>
    ⟨(still.rounds node view held).2 rounds, trivial⟩⟩

theorem preserves_sendUds (ecu : EcuId) (payload : List UInt8) :
    Preserving monitor holds (sendUds ecanBus (requestAddress ecu) payload) := by
  refine preserving_bind (preserving_raiseIf _ _) fun _ node view held _ => ?_
  obtain ⟨allowed, kept⟩ := still.requests node view ecu payload held
  exact within_sendFrame allowed ⟨kept _, trivial⟩ fun _ _ => kept _

theorem preserves_setUds (uds : EcuNode → UdsSlot) :
    Preserving monitor holds (change fun node => node.setUds (uds node) : EcuProgram Unit) :=
  preserving_change fun node view held => still.slot node view (uds node) held

theorem preserves_setFlags (ecu : EcuId) (flags : EcuNode → EcuFlags) :
    Preserving monitor holds (change fun node => node.setFlags ecu (flags node) : EcuProgram Unit) :=
  preserving_change fun node view held => still.flags node view ecu (flags node) held

theorem preserves_setDisabled (ecu : EcuId) (disabled : Bool) :
    Preserving monitor holds (change fun node => node.setDisabled ecu disabled : EcuProgram Unit) :=
  preserves_setFlags still ecu fun node => { node.flags ecu with disabled := disabled }

theorem preserves_registerAndSend (ecu : EcuId) (payload : List UInt8) :
    Preserving monitor holds (registerAndSend ecanBus ecu payload) := by
  refine preserving_bind (preserves_interfere still) fun _ => preserving_fetch fun node => ?_
  refine preserving_bind (preserving_raiseIf _ _) fun _ => ?_
  refine preserving_bind (preserves_setUds still _) fun _ => ?_
  refine preserving_bind (preserves_interfere still) fun _ => ?_
  refine preserving_catching (preserves_sendUds still ecu payload) fun what => ?_
  refine preserving_bind (preserves_interfere still) fun _ => ?_
  exact preserving_bind (preserves_setUds still _) fun _ => preserving_raise what

theorem preserves_udsRequest (ecu : EcuId) (payload wanted : List UInt8) :
    Preserving monitor holds (udsRequest ecanBus ecu payload wanted) := by
  refine preserving_bind (preserves_registerAndSend still ecu payload) fun _ => ?_
  refine preserving_bind (preserves_interfere still) fun _ => preserving_fetch fun node => ?_
  apply preserving_ite
  · intro _
    exact preserving_bind (preserves_setUds still _) fun _ => preserving_raise _
  · intro _
    exact preserving_bind (preserves_setUds still _) fun _ => preserves_judge wanted _

theorem preserves_testerPresent (ecu : EcuId) :
    Preserving monitor holds (sendTesterPresent ecanBus ecu) := by
  refine preserving_bind (preserves_sendUds still ecu _) fun _ => ?_
  exact preserving_bind (preserves_steadyNow still) fun now => preserves_setFlags still ecu _

theorem preserves_maintainEcu (now : TimePoint) (ecu : EcuId) :
    Preserving monitor holds (maintainEcu ecanBus now ecu) :=
  preserving_fetch fun _ => preserving_runIf fun _ => preserves_testerPresent still ecu

theorem preserves_maintain (now : TimePoint) :
    Preserving monitor holds (maintainDisabledEcus ecanBus now) :=
  preserving_bind (preserves_maintainEcu still now .camera) fun _ =>
    preserves_maintainEcu still now .radar

theorem preserves_observeQuiet (deadline : TimePoint) (rounds : List WaitRound) :
    Preserving monitor holds (observeQuiet ecanBus deadline rounds) := by
  induction rounds with
  | nil => exact preserving_pure ()
  | cons round rest ih =>
      apply preserving_ite
      · intro _
        refine preserving_bind (preserves_maintain still _) fun _ => ?_
        exact preserving_bind (preserves_interfere still) fun _ => ih
      · intro _
        exact preserving_pure ()

theorem preserves_awaitStock (ecu : EcuId) (before : UInt64) (deadline : TimePoint)
    (rounds : List WaitRound) :
    Preserving monitor holds (awaitStock ecanBus ecu before deadline rounds) := by
  induction rounds with
  | nil => exact preserving_pure ()
  | cons round rest ih =>
      refine preserving_fetch fun node => ?_
      apply preserving_ite
      · intro _
        exact preserving_bind (preserves_interfere still) fun _ => ih
      · intro _
        exact preserving_pure ()

theorem preserves_countOwned (ecu : EcuId) {wait : UInt64 → EcuProgram Unit}
    (waits : ∀ before, Preserving monitor holds (wait before)) :
    Preserving monitor holds (countOwned ecanBus ecu wait) := by
  refine preserving_bind (preserves_interfere still) fun _ => preserving_fetch fun node => ?_
  refine preserving_bind (waits _) fun _ => preserving_bind (preserves_interfere still) fun _ => ?_
  exact preserving_fetch fun later => preserving_pure _

theorem preserves_waitQuiet (before : UInt64) :
    Preserving monitor holds (waitQuiet ecanBus before) :=
  preserving_bind (preserves_steadyNow still) fun _ =>
    preserving_bind (preserves_waitRounds still) fun rounds => preserves_observeQuiet still _ rounds

theorem preserves_waitResumed (ecu : EcuId) (before : UInt64) :
    Preserving monitor holds (waitResumed ecanBus ecu before) :=
  preserving_bind (preserves_steadyNow still) fun _ =>
    preserving_bind (preserves_waitRounds still) fun rounds =>
      preserves_awaitStock still ecu before _ rounds

theorem preserves_disableEcu (ecu : EcuId) : Preserving monitor holds (disableEcu ecanBus ecu) := by
  refine preserving_fetch fun node => ?_
  apply preserving_ite
  · intro _
    exact preserving_pure ()
  · intro _
    refine preserving_bind (preserves_udsRequest still ecu _ _) fun _ => ?_
    refine preserving_bind (preserves_sendUds still ecu _) fun _ => ?_
    refine preserving_bind (preserves_setDisabled still ecu true) fun _ => ?_
    refine preserving_bind (preserves_testerPresent still ecu) fun _ => ?_
    refine preserving_bind (preserves_countOwned still ecu (preserves_waitQuiet still)) fun _ => ?_
    exact preserving_raiseIf _ _

theorem preserves_restoreRequests (ecu : EcuId) :
    Preserving monitor holds (restoreRequests ecanBus ecu) := by
  refine preserving_bind (preserves_udsRequest still ecu _ _) fun _ => ?_
  refine preserving_bind (preserves_udsRequest still ecu _ _) fun _ => ?_
  exact preserving_bind (preserves_udsRequest still ecu _ _) fun _ => preserving_pure ()

theorem preserves_restoreEcu (failures : UInt64) (ecu : EcuId) :
    Preserving monitor holds (restoreEcu ecanBus failures ecu) := by
  refine preserving_fetch fun node => ?_
  apply preserving_ite
  · intro _
    exact preserving_pure ()
  · intro _
    apply preserving_ite
    · intro _
      refine preserving_bind
        (preserves_countOwned still ecu (preserves_waitResumed still ecu)) fun _ => ?_
      apply preserving_ite
      · intro _
        exact preserves_setDisabled still ecu false
      · intro _
        exact preserves_restoreRequests still ecu
    · intro _
      exact preserves_restoreRequests still ecu

theorem preserves_confirm (ecu : EcuId) :
    Preserving monitor holds (confirmEcuRestored ecanBus ecu) := by
  refine preserving_fetch fun node => ?_
  apply preserving_ite
  · intro _
    exact preserving_pure ()
  · intro _
    refine preserving_bind
      (preserves_countOwned still ecu (preserves_waitResumed still ecu)) fun _ => ?_
    exact preserving_bind (preserving_raiseIf _ _) fun _ => preserves_setDisabled still ecu false

end Calls

end Ioniq5Ecan.Ecus
