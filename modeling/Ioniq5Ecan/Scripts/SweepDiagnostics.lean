import Ioniq5Ecan.Scripts.SweepPhases

/-! # The diagnostics of the sweep

An ECU is silenced after it has confirmed the session, and asked to talk in the
session it is in.  A response is one of those received since its request. -/
set_option autoImplicit false
namespace Ioniq5Ecan.Sweep

open Library (Monitor Program)
open Library.Program (ask fetch change raise raiseIf Within)
open Ecus (requestAddress startsWith)

/-- Outside of `run`: whether the sweep is made, the torque that was sent last, and that so many
calls have failed at least. -/
structure Resting (settings : SweepSettings) (made : Bool) (torque : Int) (floor : Nat)
    (state : SweepState) (view : SweepView) : Prop extends Tied settings state view where
  isMade : state.made = made
  still : view.torque = torque
  count : floor ≤ view.failures

/-- In ELM327 mode, with these ECUs silent. -/
structure Diagnosed (settings : SweepSettings) (made : Bool) (torque : Int) (floor : Nat)
    (silenced : EcuId → Bool) (state : SweepState) (view : SweepView) : Prop
    extends Resting settings made torque floor state view where
  elm : view.InElm327
  silent : view.silenced = silenced

section Resting
variable {settings : SweepSettings} {made : Bool} {torque : Int} {floor : Nat}
  {silenced : EcuId → Bool} {state : SweepState} {view : SweepView}

theorem Resting.missed (resting : Resting settings made torque floor state view) :
    Resting settings made torque floor state view.missed :=
  ⟨resting.toTied.missed, resting.isMade, resting.still, Nat.le_succ_of_le resting.count⟩

theorem Diagnosed.missed (diagnosed : Diagnosed settings made torque floor silenced state view) :
    Diagnosed settings made torque floor silenced state view.missed :=
  ⟨diagnosed.toResting.missed, diagnosed.elm, diagnosed.silent⟩

theorem Diagnosed.saw (diagnosed : Diagnosed settings made torque floor silenced state view)
    (frames : List RxFrame) :
    Diagnosed settings made torque floor silenced state (view.saw frames) :=
  ⟨⟨⟨diagnosed.opened, diagnosed.disabled, diagnosed.used⟩, diagnosed.isMade, diagnosed.still,
    diagnosed.count⟩, diagnosed.elm, diagnosed.silent⟩

theorem stable_diagnosed : Stable (Diagnosed settings made torque floor silenced) where
  opened _ _ held := held.opened
  session _ _ held := .inl held.elm
  missed _ _ held := held.missed
  present state view ecu now held := by
    refine ⟨⟨held.toTied.setSession ecu now, ?_, held.still, held.count⟩, held.elm, held.silent⟩
    cases ecu <;> exact held.isMade

/-! ## Requests -/

/-- The silent ECUs after a request that silences none. -/
def silencedAfter (silenced : EcuId → Bool) (ecu : EcuId) (data : List UInt8) (other : EcuId) :
    Bool :=
  silenced other && !(other == ecu && data == enableRequest)

theorem requestAddress_inj {ecu other : EcuId} :
    requestAddress ecu = requestAddress other ↔ other = ecu := by
  cases ecu <;> cases other <;> decide

theorem Diagnosed.wrote (diagnosed : Diagnosed settings made torque floor silenced state view)
    (ecu : EcuId) {data : List UInt8} (other : data ≠ silenceRequest) (returned : Bool) :
    Diagnosed settings made torque floor (silencedAfter silenced ecu data) state
      (view.wrote (requestAddress ecu) data returned) := by
  have silent : (view.wrote (requestAddress ecu) data returned).silenced =
      silencedAfter silenced ecu data := by
    funext asked
    have same := congrFun diagnosed.silent asked
    have notBoth : enableRequest ≠ silenceRequest := by decide
    by_cases isEnable : data = enableRequest
    · by_cases isEcu : asked = ecu <;>
        simp [SweepView.wrote, silencedAfter, requestAddress_inj, isEnable, notBoth, isEcu, same]
    · simp [SweepView.wrote, silencedAfter, other, isEnable, same]
  have before : ∀ asked, (view.wrote (requestAddress ecu) data returned).silenced asked = true →
      view.silenced asked = true := by
    intro asked still
    rw [silent] at still
    rw [diagnosed.silent]
    exact (Bool.and_eq_true_iff.mp still).1
  exact ⟨⟨⟨diagnosed.opened, fun asked still => diagnosed.disabled asked (before asked still),
    fun asked still => diagnosed.used asked (before asked still)⟩, diagnosed.isMade,
    diagnosed.still, diagnosed.count⟩, diagnosed.elm, silent⟩

theorem firstResponse_mem {ecu : EcuId} {expected response : List UInt8} {frames : List RxFrame}
    (first : firstResponse ecu expected frames = some response) :
    response ∈ frames.filterMap (responseOf ecu) ∧
      (startsWith response [0x7F] = false → startsWith response expected = true) := by
  refine ⟨List.mem_of_find?_eq_some first, fun positive => ?_⟩
  simpa [positive] using List.find?_some first

/-- The loop ends with a response that was received in it. -/
theorem within_awaitResponse (ecu : EcuId) (payload expected : List UInt8) (rounds : Nat) :
    ∀ {view : SweepView}, Diagnosed settings made torque floor silenced state view →
      Within (sweepMonitor settings) (awaitResponse ecu payload expected rounds)
        (fun _ left later => Diagnosed settings made torque floor silenced left later ∧
          later.Answered ecu expected)
        (fun _ left later => Diagnosed settings made torque floor silenced left later)
        state view := by
  induction rounds with
  | zero => exact fun diagnosed => diagnosed
  | succ rounds ih =>
      intro view diagnosed
      simp only [awaitResponse, Program.within_bind]
      apply within_canRecv diagnosed.opened
      · intro frames
        have seen := diagnosed.saw frames
        cases first : firstResponse ecu expected frames with
        | none => exact ih seen
        | some response =>
            obtain ⟨received, positive⟩ := firstResponse_mem first
            rw [Program.within_ite]
            refine ⟨fun _ => seen, fun notNegative => ⟨seen, response, ?_, ?_⟩⟩
            · exact List.mem_append_right _ received
            · exact positive (Bool.not_eq_true _ ▸ notNegative)
      · exact fun _ => diagnosed.missed

theorem within_request (diagnosed : Diagnosed settings made torque floor silenced state view)
    (ecu : EcuId) {payload expected : List UInt8}
    (single : (payload.isEmpty || decide (7 < payload.length)) = false)
    (other : singleFrame payload ≠ silenceRequest)
    (diagnostic : view.Diagnostic settings (requestAddress ecu) (singleFrame payload)) :
    Within (sweepMonitor settings) (request ecu payload expected)
      (fun _ left later => Diagnosed settings made torque floor
        (silencedAfter silenced ecu (singleFrame payload)) left later ∧ later.Answered ecu expected)
      (fun _ left later => Diagnosed settings made torque floor
        (silencedAfter silenced ecu (singleFrame payload)) left later)
      state view := by
  simp only [request, sendSingleFrame, Program.within_bind, Program.within_raiseIf]
  refine ⟨fun unfit => absurd (single.symm.trans unfit) Bool.false_ne_true, fun _ => ?_⟩
  apply within_canSend diagnosed.opened diagnostic
  · have written := diagnosed.wrote ecu other true
    apply within_loopRounds written.opened
    · exact fun rounds => within_awaitResponse ecu payload expected rounds written
    · exact fun _ => written.missed
  · exact fun _ => (diagnosed.wrote ecu other false).missed

theorem silencedAfter_other {ecu : EcuId} {data : List UInt8} (other : data ≠ enableRequest) :
    silencedAfter silenced ecu data = silenced := by
  funext asked
  simp [silencedAfter, other]

/-! ## Modes -/

theorem within_setSafetyMode {mode param : Nat} {post : Unit → SweepState → SweepView → Prop}
    {thrown : Failure → SweepState → SweepView → Prop}
    (opened : view.closed = false) (permits : view.Permits settings (.setSafetyMode mode param))
    (returns : post () state (view.changedMode mode param true))
    (raises : ∀ what, thrown what state (view.changedMode mode param false).missed) :
    Within (sweepMonitor settings) (setSafetyMode mode param) post thrown state view :=
  within_call opened permits (fun _ => returns) raises

theorem Resting.changedMode (resting : Resting settings made torque floor state view)
    (mode param : Nat) (returned : Bool) :
    Resting settings made torque floor state (view.changedMode mode param returned) :=
  ⟨⟨resting.opened, resting.disabled, resting.used⟩, resting.isMade, resting.still, resting.count⟩

theorem Resting.diagnosed (resting : Resting settings made torque floor state view) :
    Diagnosed settings made torque floor view.silenced state
      (view.changedMode elm327 elm327EcanParam true) :=
  ⟨resting.changedMode elm327 elm327EcanParam true, rfl, rfl⟩

/-! ## disable -/

theorem within_countQuiet (ecu : EcuId) (rounds : Nat) :
    ∀ {state : SweepState} {view : SweepView} (observed : Nat),
      Diagnosed settings made torque floor silenced state view →
      Within (sweepMonitor settings) (countQuiet ecu rounds observed)
        (fun _ left later => Diagnosed settings made torque floor silenced left later)
        (fun _ left later => Diagnosed settings made torque floor silenced left later)
        state view := by
  induction rounds with
  | zero => exact fun _ diagnosed => diagnosed
  | succ rounds ih =>
      intro state view observed diagnosed
      simp only [countQuiet, Program.within_bind]
      refine Program.within_mono (within_maybeKeepAlive stable_diagnosed diagnosed ecu) ?_
        fun _ _ _ kept => kept.1
      rintro _ left later ⟨kept, rfl⟩
      apply within_canRecv kept.opened
      · exact fun frames => ih _ (kept.saw frames)
      · exact fun _ => kept.missed

def alsoSilenced (silenced : EcuId → Bool) (ecu asked : EcuId) : Bool :=
  silenced asked || asked == ecu

/-- The request has returned, and the flag is set. -/
theorem Diagnosed.silence (diagnosed : Diagnosed settings made torque floor silenced state view)
    {ecu : EcuId} (isUsed : ecu ∈ settings.ecuSessions) :
    Diagnosed settings made torque floor (alsoSilenced silenced ecu)
      (state.setSession ecu { state.session ecu with disabled := true })
      (view.wrote (requestAddress ecu) silenceRequest true) := by
  have silent : (view.wrote (requestAddress ecu) silenceRequest true).silenced =
      alsoSilenced silenced ecu := by
    funext asked
    by_cases isEcu : asked = ecu <;>
      simp [SweepView.wrote, alsoSilenced, requestAddress_inj, isEcu,
        show silenceRequest ≠ enableRequest by decide, diagnosed.silent]
  have split : ∀ asked, (view.wrote (requestAddress ecu) silenceRequest true).silenced asked = true →
      view.silenced asked = true ∨ asked = ecu := by
    intro asked still
    rw [silent] at still
    rw [diagnosed.silent]
    simpa [alsoSilenced] using still
  refine ⟨⟨⟨diagnosed.opened, fun asked still => ?_, fun asked still => ?_⟩, ?_, diagnosed.still,
    diagnosed.count⟩, diagnosed.elm, silent⟩
  · rcases split asked still with before | rfl
    · have flagged := diagnosed.disabled asked before
      cases ecu <;> cases asked <;> first | rfl | exact flagged
    · cases asked <;> rfl
  · rcases split asked still with before | rfl
    · exact diagnosed.used asked before
    · exact isUsed
  · cases ecu <;> exact diagnosed.isMade

/-- A failed request silences nothing that is not flagged. -/
theorem Diagnosed.unsilenced (diagnosed : Diagnosed settings made torque floor silenced state view)
    (ecu : EcuId) :
    Diagnosed settings made torque floor silenced state
      (view.wrote (requestAddress ecu) silenceRequest false) := by
  have silent : (view.wrote (requestAddress ecu) silenceRequest false).silenced =
      view.silenced := by
    funext asked
    simp [SweepView.wrote, show silenceRequest ≠ enableRequest by decide]
  exact ⟨⟨⟨diagnosed.opened, fun asked still => diagnosed.disabled asked (silent ▸ still),
    fun asked still => diagnosed.used asked (silent ▸ still)⟩, diagnosed.isMade, diagnosed.still,
    diagnosed.count⟩, diagnosed.elm, silent.trans diagnosed.silent⟩

/-- The ECU is silent once `disable` returns, and flagged if it is silent when it throws. -/
theorem within_disable (resting : Resting settings made torque floor state view) {ecu : EcuId}
    (isUsed : ecu ∈ settings.ecuSessions) :
    Within (sweepMonitor settings) (disable ecu)
      (fun _ left later => Diagnosed settings made torque floor
        (alsoSilenced view.silenced ecu) left later)
      (fun _ left later => Resting settings made torque floor left later) state view := by
  simp only [disable, Program.within_bind]
  apply within_setSafetyMode resting.opened (.inl ⟨rfl, rfl⟩)
  · have diagnosed := resting.diagnosed
    refine Program.within_mono (within_request diagnosed ecu (by decide) (by decide)
      (.session ecu rfl rfl diagnosed.elm)) ?_ fun _ _ _ kept => kept.toResting
    rintro _ asking asked ⟨kept, answered⟩
    rw [silencedAfter_other (by decide)] at kept
    simp only [sendSingleFrame, Program.within_bind, Program.within_raiseIf, Program.within_change]
    refine ⟨by rintro ⟨⟩, fun _ => ?_⟩
    apply within_canSend kept.opened (.silence ecu rfl isUsed rfl kept.elm answered)
    · have silent := kept.silence isUsed
      refine Program.within_mono (within_sendTesterPresent stable_diagnosed silent ecu) ?_
        fun _ _ _ held => held.1.toResting
      rintro _ left later ⟨held, rfl⟩
      apply within_canRecv held.opened
      · intro frames
        have seen := held.saw frames
        apply within_loopRounds seen.opened
        · intro rounds
          refine Program.within_mono (within_countQuiet ecu rounds 0 seen) ?_
            fun _ _ _ held => held.toResting
          exact fun _ _ _ held => ⟨fun _ => held.toResting, fun _ => held⟩
        · exact fun _ => seen.missed.toResting
      · exact fun _ => held.missed.toResting
    · exact fun _ => (kept.unsilenced ecu).missed.toResting
  · exact fun _ => (resting.changedMode _ _ _).missed

/-! ## restore -/

/-- No ECU has become silent, and this one is still silent only where a call has failed. -/
def Eased (ecu : EcuId) (view later : SweepView) : Prop :=
  ∀ asked, later.silenced asked = true →
    view.silenced asked = true ∧ (asked = ecu → view.failures < later.failures)

theorem Diagnosed.eased {ecu : EcuId} {later : SweepView}
    (diagnosed : Diagnosed settings made torque floor
      (silencedAfter view.silenced ecu enableRequest) state later) : Eased ecu view later := by
  intro asked still
  rw [diagnosed.silent] at still
  obtain ⟨before, notEcu⟩ := Bool.and_eq_true_iff.mp still
  refine ⟨before, fun isEcu => ?_⟩
  simp [isEcu] at notEcu

theorem within_awaitResumed (ecu : EcuId) (rounds : Nat) :
    ∀ {view : SweepView}, Diagnosed settings made torque floor silenced state view →
      Within (sweepMonitor settings) (awaitResumed ecu rounds)
        (fun _ left later => Diagnosed settings made torque floor silenced left later)
        (fun _ left later => Diagnosed settings made torque floor silenced left later)
        state view := by
  induction rounds with
  | zero => exact fun diagnosed => diagnosed
  | succ rounds ih =>
      intro view diagnosed
      simp only [awaitResumed, Program.within_bind]
      apply within_canRecv diagnosed.opened
      · intro frames
        have seen := diagnosed.saw frames
        rw [Program.within_ite]
        exact ⟨fun _ => seen, fun _ => ih seen⟩
      · exact fun _ => diagnosed.missed

theorem Diagnosed.enabled {ecu : EcuId}
    (diagnosed : Diagnosed settings made torque floor
      (silencedAfter silenced ecu enableRequest) state view) :
    Diagnosed settings made torque floor (silencedAfter silenced ecu enableRequest)
      (state.setSession ecu { state.session ecu with disabled := false }) view := by
  refine ⟨⟨⟨diagnosed.opened, fun asked still => ?_, diagnosed.used⟩, ?_, diagnosed.still,
    diagnosed.count⟩, diagnosed.elm, diagnosed.silent⟩
  · have flagged := diagnosed.disabled asked still
    rw [diagnosed.silent] at still
    cases ecu <;> cases asked <;> first | exact flagged | simp [silencedAfter] at still
  · cases ecu <;> exact diagnosed.isMade

/-- However `restore` ends, the ECU was asked to talk, or a call has failed. -/
theorem within_restore (resting : Resting settings made torque floor state view) (ecu : EcuId) :
    Within (sweepMonitor settings) (restore ecu)
      (fun _ left later => Resting settings made torque floor left later ∧ Eased ecu view later)
      (fun _ left later => Resting settings made torque floor left later ∧ Eased ecu view later)
      state view := by
  simp only [restore, restoreDisabled, Program.within_bind, Program.within_fetch,
    Program.within_runIf, Program.within_change, Program.within_raiseIf]
  constructor
  · intro _
    apply within_setSafetyMode resting.opened (.inl ⟨rfl, rfl⟩)
    · have diagnosed := resting.diagnosed
      refine Program.within_mono (within_request diagnosed ecu (by decide) (by decide)
        (.enable ecu rfl rfl diagnosed.elm)) ?_ fun _ _ _ kept => ⟨kept.toResting, kept.eased⟩
      rintro _ asking asked ⟨kept, answered⟩
      refine Program.within_mono (within_request kept ecu (by decide) (by decide)
        (.default ecu rfl rfl kept.elm answered)) ?_ ?_
      · rintro _ left later ⟨held, _⟩
        rw [silencedAfter_other (by decide)] at held
        have enabled := Diagnosed.enabled held
        apply within_loopRounds enabled.opened
        · intro rounds
          refine Program.within_mono (within_awaitResumed ecu rounds enabled) ?_
            fun _ _ _ kept => ⟨kept.toResting, kept.eased⟩
          exact fun _ _ _ kept => ⟨fun _ => ⟨kept.toResting, kept.eased⟩,
            fun _ => ⟨kept.toResting, kept.eased⟩⟩
        · exact fun _ => ⟨enabled.missed.toResting, enabled.missed.eased⟩
      · intro _ left later held
        rw [silencedAfter_other (by decide)] at held
        exact ⟨held.toResting, held.eased⟩
    · exact fun _ => ⟨(resting.changedMode _ _ _).missed,
        fun asked still => ⟨still, fun _ => Nat.lt_succ_self _⟩⟩
  · intro enabled
    refine ⟨resting, fun asked still => ⟨still, fun isEcu => ?_⟩⟩
    have flagged := resting.disabled asked still
    rw [isEcu] at flagged
    exact absurd (enabled.symm.trans flagged) Bool.false_ne_true

end Resting
end Ioniq5Ecan.Sweep
