import Ioniq5Ecan.Node.ControlMoves

/-! # The generation handshake

A request is stored first and announced by raising the generation afterwards;
the control loop loads in the same order.  A request that is stored and not
applied is therefore ahead of the applied generation, or its announcement is
still to come, as long as no announcement falls where the control loop takes
the generation it sees next as handled without having seen a request. -/
set_option autoImplicit false
namespace Ioniq5Ecan

open Library (EventSystem)

/-! ## Announcements -/

/-- `arm_callback(true)` between its store and its `fetch_add`. -/
def MainPoint.announces : MainPoint → Bool
  | .arm true .generation => true
  | _ => false

/-- A `fetch_add` of the control thread is still to come. -/
def ControlPoint.announces : ControlPoint → Bool
  | .autoGeneration | .disarm .armRefused _ _ => true
  | _ => false

def Announcing (state : NodeState) : Prop :=
  state.main.announces = true ∨ state.control.announces = true

/-- The exchange of `request_internal_disarm` is done, its `fetch_add` is not. -/
def DisarmPoint.exchanged : DisarmPoint → Bool
  | .preserve | .gap | .button | .requested => false
  | .applied | .vehicle | .inhibited | .rearm | .pending | .generation => true

/-- The generation read next will count as handled, although no request was seen: between the
two loads of the handshake, or inside the cleanup's disarm. -/
def NodeState.acknowledging (state : NodeState) : Bool :=
  match state.control with
  | .loadGeneration => !state.locals.requested
  | .disarm .cleanup _ point => point.exchanged
  | _ => false

/-- A stored request is announced where its generation will count as handled. -/
def AnnouncedUnseen (state : NodeState) : NodeEvent → Prop
  | .main _ => state.main.announces = true ∧ state.flags.requestedArm = true ∧
      state.acknowledging = true
  | _ => False

instance (state : NodeState) : ∀ event, Decidable (AnnouncedUnseen state event)
  | .main _ => inferInstanceAs (Decidable (_ ∧ _ ∧ _))
  | .callArm _ | .callDestructor | .control _ | .receive _ => isFalse id

/-! ## The generation -/

def MainPoint.raises : MainPoint → Bool
  | .arm _ .generation | .destroy .generation => true
  | _ => false

/-- The cleanup's own `fetch_add` is left out: the control loop takes its value as applied. -/
def ControlPoint.raises : ControlPoint → Bool
  | .autoGeneration => true
  | .disarm site _ .generation => site != .cleanup
  | _ => false

def ReceivePoint.raises : ReceivePoint → Bool
  | .reconnectDisarm .generation | .lostDisarm .generation => true
  | _ => false

def raisesGeneration (state : NodeState) : NodeEvent → Bool
  | .main _ => state.main.raises
  | .control _ => state.control.raises
  | .receive _ => state.receive.raises
  | .callArm _ | .callDestructor => false

/-- With a request stored the generation would become the one that the control loop has applied,
or the one that it applies next. -/
def NodeState.comesRound (state : NodeState) : Bool :=
  state.flags.requestedArm &&
    (state.flags.armRequestGeneration + 1 == state.locals.appliedArmGeneration ||
      state.control == .applyArm &&
        state.flags.armRequestGeneration + 1 == state.locals.requestGeneration)

/-- The 64 bits of the generation come round. -/
def ComesRound (state : NodeState) (event : NodeEvent) : Prop :=
  raisesGeneration state event = true ∧ state.comesRound = true

instance (state : NodeState) (event : NodeEvent) : Decidable (ComesRound state event) :=
  inferInstanceAs (Decidable (_ ∧ _))

/-! ## The invariant -/

def ReceivePoint.disconnected : ReceivePoint → Bool
  | .lostVehicle | .lostDisarm _ | .lostApplied => true
  | _ => false

/-- What the points of the handshake rely on. -/
structure AtControl (state : NodeState) : Prop where
  acknowledging : state.acknowledging = true → state.flags.requestedArm = true →
    state.main.announces = true
  loaded : state.control = .loadConnected → state.locals.requested = true
  applying : state.control = .applyArm → state.flags.requestedArm = true →
    state.locals.requested = false ∨ state.receive = .lostApplied →
    state.main.announces = true ∨
      state.locals.requestGeneration ≠ state.flags.armRequestGeneration
  dropping : state.control = .modeFailureApplied ∨ state.control = .armRefusedApplied ∨
      state.control = .cleanupApplied →
    state.flags.requestedArm = true → state.main.announces = true ∨
      state.locals.appliedArmGeneration ≠ state.flags.armRequestGeneration

structure Handshake (state : NodeState) : Prop where
  disconnected : state.receive.disconnected = true → state.flags.connected = false
  announced : state.flags.requestedArm = true →
    state.flags.appliedArm = false ∨ state.receive = .lostApplied →
    state.locals.appliedArmGeneration ≠ state.flags.armRequestGeneration ∨ Announcing state
  atControl : AtControl state

def ControlPoint.calm : ControlPoint → Bool
  | .loadGeneration | .loadConnected | .applyArm => false
  | .modeFailureApplied | .armRefusedApplied | .cleanupApplied => false
  | .disarm .cleanup _ point => !point.exchanged
  | _ => true

theorem AtControl.ofCalm {state : NodeState} (calm : state.control.calm = true) :
    AtControl state := by
  refine ⟨?_, ?_, ?_, ?_⟩
  · intro acknowledging _
    unfold NodeState.acknowledging at acknowledging
    split at acknowledging
    · rename_i point
      rw [point] at calm
      cases calm
    · rename_i require disarmPoint point
      simp only [point, ControlPoint.calm, acknowledging] at calm
      cases calm
    · cases acknowledging
  · intro point
    rw [point] at calm
    cases calm
  · intro point
    rw [point] at calm
    cases calm
  · rintro (point | point | point) <;> rw [point] at calm <;> cases calm

theorem calm_of_entry {point : ControlPoint} (entry : point.entry = true) : point.calm = true := by
  cases point with
  | disarm site require disarmPoint =>
      cases disarmPoint with
      | preserve => cases site <;> rfl
      | gap | button | requested | applied | vehicle | inhibited | rearm | pending | generation =>
          cases entry
  | loadGeneration | loadConnected | applyArm | modeFailureApplied | armRefusedApplied
  | cleanupApplied => cases entry
  | _ => rfl

theorem initial_handshake : Handshake {} where
  disconnected := nofun
  announced := nofun
  atControl := .ofCalm rfl

/-! ## Steps of the main and the receive thread -/

def Raised (state next : NodeState) : Prop :=
  next.flags.armRequestGeneration = state.flags.armRequestGeneration + 1

theorem not_raised {state next : NodeState}
    (same : next.flags.armRequestGeneration = state.flags.armRequestGeneration) :
    ¬ Raised state next := by
  intro raised
  have wrapped := same.symm.trans raised
  have apart : (1 : UInt64) = 0 := by simpa using wrapped.symm
  cases apart

theorem behind_after {state next : NodeState} {seen : UInt64}
    (generation : next.flags.armRequestGeneration = state.flags.armRequestGeneration ∨
      Raised state next)
    (apart : Raised state next → seen ≠ state.flags.armRequestGeneration + 1)
    (behind : seen ≠ state.flags.armRequestGeneration) :
    seen ≠ next.flags.armRequestGeneration := by
  rcases generation with same | raised
  · rw [same]
    exact behind
  · rw [raised]
    exact apart raised

structure OutsideEffect (state next : NodeState) : Prop where
  control : next.control = state.control
  locals : next.locals = state.locals
  generation : next.flags.armRequestGeneration = state.flags.armRequestGeneration ∨
    Raised state next
  requested : next.flags.requestedArm = true →
    state.flags.requestedArm = true ∨ next.main.announces = true
  announces : state.main.announces = true → next.main.announces = true ∨ Raised state next
  unapplied : next.flags.appliedArm = false ∨ next.receive = .lostApplied →
    (state.flags.appliedArm = false ∨ state.receive = .lostApplied) ∨ Raised state next
  lost : next.receive = .lostApplied → state.receive = .lostApplied ∨ Raised state next
  disconnected : next.receive.disconnected = true → state.flags.connected = false →
    next.flags.connected = false
  handled : next.receive.disconnected = true → state.receive.disconnected = true ∨
    next.flags.connected = false

section Outside
variable {config : NodeConfig} {state next : NodeState} {input : StepInput}

theorem applied_apart (stored : state.flags.requestedArm = true)
    (apart : state.comesRound = false) :
    state.locals.appliedArmGeneration ≠ state.flags.armRequestGeneration + 1 := by
  intro same
  simp [NodeState.comesRound, stored, same] at apart

theorem request_apart (point : state.control = .applyArm) (stored : state.flags.requestedArm = true)
    (apart : state.comesRound = false) :
    state.locals.requestGeneration ≠ state.flags.armRequestGeneration + 1 := by
  intro same
  simp [NodeState.comesRound, stored, point, same] at apart

theorem Handshake.outside (held : Handshake state) (effect : OutsideEffect state next)
    (inTime : state.acknowledging = true → state.flags.requestedArm = true →
      state.main.announces = true → next.main.announces = true)
    (apart : Raised state next → state.comesRound = false) : Handshake next := by
  obtain ⟨control, locals, generation, requested, announces, unapplied, lost, disconnected,
    handled⟩ := effect
  have same : next.acknowledging = state.acknowledging := by
    unfold NodeState.acknowledging
    rw [control, locals]
  have appliedApart (stored : state.flags.requestedArm = true) (raised : Raised state next) :
      state.locals.appliedArmGeneration ≠ state.flags.armRequestGeneration + 1 :=
    applied_apart stored (apart raised)
  have appliedBehind (stored : state.flags.requestedArm = true)
      (raised : Raised state next) :
      state.locals.appliedArmGeneration ≠ next.flags.armRequestGeneration :=
    raised ▸ appliedApart stored raised
  refine ⟨?_, ?_, ⟨?_, ?_, ?_, ?_⟩⟩
  · intro handling
    rcases handled handling with before | after
    · exact disconnected handling (held.disconnected before)
    · exact after
  · intro requestedNext notApplied
    rw [locals]
    rcases requested requestedNext with stored | announcing
    · rcases unapplied notApplied with notAppliedBefore | raised
      · rcases held.announced stored notAppliedBefore with behind | main | own
        · exact Or.inl (behind_after generation (appliedApart stored) behind)
        · rcases announces main with still | raised
          · exact Or.inr (Or.inl still)
          · exact Or.inl (appliedBehind stored raised)
        · exact Or.inr (Or.inr (by rw [control]; exact own))
      · exact Or.inl (appliedBehind stored raised)
    · exact Or.inr (Or.inl announcing)
  · intro acknowledging requestedNext
    rw [same] at acknowledging
    rcases requested requestedNext with stored | announcing
    · exact inTime acknowledging stored (held.atControl.acknowledging acknowledging stored)
    · exact announcing
  · rw [control, locals]
    exact held.atControl.loaded
  · rw [control, locals]
    intro point requestedNext withdrawn
    rcases requested requestedNext with stored | announcing
    · have requestApart := fun raised => request_apart point stored (apart raised)
      have requestBehind (raised : Raised state next) :
          state.locals.requestGeneration ≠ next.flags.armRequestGeneration :=
        raised ▸ requestApart raised
      have before : (state.locals.requested = false ∨ state.receive = .lostApplied) ∨
          Raised state next := by
        rcases withdrawn with locally | lostNext
        · exact Or.inl (Or.inl locally)
        · exact (lost lostNext).imp_left Or.inr
      rcases before with before | raised
      · rcases held.atControl.applying point stored before with main | behind
        · exact (announces main).imp_right requestBehind
        · exact Or.inr (behind_after generation requestApart behind)
      · exact Or.inr (requestBehind raised)
    · exact Or.inl announcing
  · rw [control, locals]
    intro point requestedNext
    rcases requested requestedNext with stored | announcing
    · rcases held.atControl.dropping point stored with main | behind
      · exact (announces main).imp_right (appliedBehind stored)
      · exact Or.inr (behind_after generation (appliedApart stored) behind)
    · exact Or.inl announcing

/-- `enter_no_output_mode` and `enter_vehicle_safety_mode` take no part in the handshake. -/
structure SameHandshake (before after : SharedFlags) : Prop where
  requested : after.requestedArm = before.requestedArm
  applied : after.appliedArm = before.appliedArm
  generation : after.armRequestGeneration = before.armRequestGeneration
  connected : before.connected = false → after.connected = false

theorem SameHandshake.refl (flags : SharedFlags) : SameHandshake flags flags :=
  ⟨rfl, rfl, rfl, id⟩

theorem afterUsb_handshake (state : NodeState) (returned kept : Bool) :
    SameHandshake state.flags (state.afterUsb returned kept).flags := by
  refine ⟨rfl, rfl, rfl, ?_⟩
  intro disconnected
  simp only [NodeState.afterUsb, disconnected, Bool.false_and]

theorem restoreStep_handshake {thread : ThreadId} {point : RestorePoint}
    {result : NodeState × RestoreNext}
    (step : restoreStep config thread state input point = some result) :
    SameHandshake state.flags result.1.flags := by
  cases point with
  | lock =>
      simp only [restoreStep] at step
      split at step
      · cases Option.some.inj step
        exact .refl _
      · cases step
  | work =>
      cases Option.some.inj step
      exact afterUsb_handshake state _ _
  | vehicle | pending | clear | inhibited errors | rearm errors =>
      cases Option.some.inj step
      exact ⟨rfl, rfl, rfl, id⟩

theorem OutsideEffect.ofSame (same : SameHandshake state.flags next.flags)
    (control : next.control = state.control) (locals : next.locals = state.locals)
    (announces : state.main.announces = true → next.main.announces = true)
    (receive : next.receive = state.receive) : OutsideEffect state next where
  control := control
  locals := locals
  generation := Or.inl same.generation
  requested := fun requested => Or.inl (same.requested ▸ requested)
  announces := fun before => Or.inl (announces before)
  unapplied := fun unapplied => Or.inl (by rwa [same.applied, receive] at unapplied)
  lost := fun lost => Or.inl (receive ▸ lost)
  disconnected := fun _ => same.connected
  handled := fun handled => Or.inl (receive ▸ handled)

/-- Each access of `arm_callback` and of the destructor. -/
theorem main_outside (step : mainStep config state input = some next) :
    OutsideEffect state next := by
  cases main_move step with
  | armPending main => exact .ofSame (.refl _) rfl rfl (by rw [main]; exact nofun) rfl
  | arm data point main =>
      cases point with
      | requested =>
          refine ⟨rfl, rfl, Or.inl rfl, ?_, ?_, Or.inl, Or.inl, fun _ => id, Or.inl⟩
          · cases data with
            | true => exact fun _ => Or.inr rfl
            | false => exact nofun
          · rw [main]
            cases data <;> exact nofun
      | generation =>
          exact ⟨rfl, rfl, Or.inr rfl, Or.inl, fun _ => Or.inr rfl, Or.inl, Or.inl, fun _ => id,
            Or.inl⟩
      | inhibited | operator | button | gap | preserve | rearm =>
          exact .ofSame ⟨rfl, rfl, rfl, id⟩ rfl rfl (by rw [main]; cases data <;> exact nofun) rfl
  | destroy point main =>
      cases point with
      | requested =>
          exact ⟨rfl, rfl, Or.inl rfl, nofun, by rw [main]; exact nofun, Or.inl, Or.inl,
            fun _ => id, Or.inl⟩
      | generation =>
          exact ⟨rfl, rfl, Or.inr rfl, Or.inl, by rw [main]; exact nofun, Or.inl, Or.inl,
            fun _ => id, Or.inl⟩
      | inhibited | operator | button | preserve | gap | connected =>
          exact .ofSame ⟨rfl, rfl, rfl, id⟩ rfl rfl (by rw [main]; exact nofun) rfl
  | destroyRestore point main after outcome taken =>
      obtain ⟨_, control, receive, locals⟩ := restoreStep_threads taken
      exact .ofSame (restoreStep_handshake taken) control locals (by rw [main]; exact nofun) receive
  | stop restored main =>
      exact .ofSame ⟨rfl, rfl, rfl, id⟩ rfl rfl (by rw [main]; exact nofun) rfl
  | disconnect restored main =>
      exact .ofSame ⟨rfl, rfl, rfl, fun _ => rfl⟩ rfl rfl (by rw [main]; exact nofun) rfl
  | joinReceive restored main | joinControl restored main =>
      exact .ofSame (.refl _) rfl rfl (by rw [main]; exact nofun) rfl

theorem main_raised (step : mainStep config state input = some next) (raised : Raised state next) :
    state.main.raises = true := by
  cases main_move step with
  | arm data point main =>
      cases point with
      | generation => rw [main]; rfl
      | inhibited | operator | button | gap | preserve | rearm | requested =>
          exact absurd raised (not_raised rfl)
  | destroy point main =>
      cases point with
      | generation => rw [main]; rfl
      | inhibited | operator | button | preserve | gap | requested | connected =>
          exact absurd raised (not_raised rfl)
  | destroyRestore point main after outcome taken =>
      exact absurd raised (not_raised (restoreStep_handshake taken).generation)
  | armPending | stop | joinReceive | joinControl | disconnect =>
      exact absurd raised (not_raised rfl)

theorem callArm_outside {data : Bool} (step : callArm config state data = some next) :
    OutsideEffect state next := by
  unfold callArm at step
  split at step
  · rename_i main
    split at step <;> cases Option.some.inj step
    · exact .ofSame (.refl _) rfl rfl id rfl
    · exact .ofSame (.refl _) rfl rfl (by rw [main]; exact nofun) rfl
  · cases step

theorem callDestructor_outside (step : callDestructor state = some next) :
    OutsideEffect state next := by
  unfold callDestructor at step
  split at step
  · rename_i main
    cases Option.some.inj step
    exact .ofSame (.refl _) rfl rfl (by rw [main]; exact nofun) rfl
  · cases step

structure DisarmEffect (point : DisarmPoint) (before after : SharedFlags) : Prop where
  requested : after.requestedArm = true → before.requestedArm = true
  applied : after.appliedArm = before.appliedArm
  generation : after.armRequestGeneration = before.armRequestGeneration ∨
    point = .generation ∧ after.armRequestGeneration = before.armRequestGeneration + 1
  connected : after.connected = before.connected

theorem disarmStep_effect (flags : SharedFlags) (require : Bool) (point : DisarmPoint) :
    DisarmEffect point flags (disarmStep flags require point).1 := by
  cases point with
  | requested => exact ⟨nofun, rfl, Or.inl rfl, rfl⟩
  | generation => exact ⟨id, rfl, Or.inr ⟨rfl, rfl⟩, rfl⟩
  | preserve | gap | button | applied | vehicle | inhibited | rearm | pending =>
      exact ⟨id, rfl, Or.inl rfl, rfl⟩

theorem OutsideEffect.ofQuiet (requested : next.flags.requestedArm = true →
      state.flags.requestedArm = true)
    (applied : next.flags.appliedArm = state.flags.appliedArm)
    (generation : next.flags.armRequestGeneration = state.flags.armRequestGeneration ∨
      Raised state next)
    (control : next.control = state.control) (locals : next.locals = state.locals)
    (main : next.main = state.main) (quiet : next.receive.disconnected = false) :
    OutsideEffect state next := by
  refine ⟨control, locals, generation, fun before => Or.inl (requested before),
    fun announces => Or.inl (main ▸ announces), ?_, ?_, ?_, ?_⟩
  · rintro (unapplied | lost)
    · exact Or.inl (Or.inl (applied ▸ unapplied))
    · rw [lost] at quiet; cases quiet
  · intro lost
    rw [lost] at quiet
    cases quiet
  · intro handling
    rw [quiet] at handling
    cases handling
  · intro handling
    rw [quiet] at handling
    cases handling

/-- The receive loop reaches its store to `applied_arm_` only after the `fetch_add`. -/
theorem receive_outside (step : receiveStep state input = some next) :
    OutsideEffect state next := by
  cases receive_move step with
  | loop | connected | poll | connectVehicle =>
      refine .ofQuiet id rfl (Or.inl rfl) rfl rfl rfl ?_
      dsimp only
      split <;> first | rfl | (split <;> rfl)
  | connect | connectFailed => exact .ofQuiet id rfl (Or.inl rfl) rfl rfl rfl rfl
  | reconnectDisarm point =>
      obtain ⟨requested, applied, generation, _⟩ := disarmStep_effect state.flags true point
      refine .ofQuiet requested applied (generation.imp_right And.right) rfl rfl rfl ?_
      dsimp only
      split <;> rfl
  | lost =>
      exact ⟨rfl, rfl, Or.inl rfl, Or.inl, Or.inl, fun unapplied =>
        Or.inl (unapplied.imp id (by rintro ⟨⟩)), (by rintro ⟨⟩), fun _ _ => rfl,
        fun _ => Or.inr rfl⟩
  | lostVehicle receive =>
      exact ⟨rfl, rfl, Or.inl rfl, Or.inl, Or.inl, fun unapplied =>
        Or.inl (unapplied.imp id (by rintro ⟨⟩)), (by rintro ⟨⟩), fun _ => id,
        fun _ => Or.inl (by rw [receive]; rfl)⟩
  | lostDisarm point receive =>
      obtain ⟨requested, applied, generation, connected⟩ := disarmStep_effect state.flags true point
      have handling : state.receive.disconnected = true := by rw [receive]; rfl
      rcases disarmStep_continues state.flags true point with rfl | ⟨following, continues⟩
      · exact ⟨rfl, rfl, Or.inr rfl, fun before => Or.inl (requested before), Or.inl,
          fun _ => Or.inr rfl, fun _ => Or.inr rfl,
          fun _ disconnected => connected.trans disconnected, fun _ => Or.inl handling⟩
      · simp only [continues]
        exact ⟨rfl, rfl, generation.imp_right And.right, fun before => Or.inl (requested before), Or.inl,
          fun unapplied => Or.inl (Or.inl (unapplied.elim (applied ▸ ·) (by rintro ⟨⟩))),
          (by rintro ⟨⟩), fun _ disconnected => connected.trans disconnected,
          fun _ => Or.inl handling⟩
  | lostApplied receive =>
      exact ⟨rfl, rfl, Or.inl rfl, Or.inl, Or.inl, fun _ => Or.inl (Or.inr receive),
        (by rintro ⟨⟩), (by rintro ⟨⟩), by rintro ⟨⟩⟩

theorem receive_raised (step : receiveStep state input = some next) (raised : Raised state next) :
    state.receive.raises = true := by
  cases receive_move step with
  | reconnectDisarm point receive | lostDisarm point receive =>
      rcases (disarmStep_effect state.flags true point).generation with same | ⟨rfl, _⟩
      · exact absurd raised (not_raised same)
      · rw [receive]; rfl
  | loop | connected | connect | connectFailed | connectVehicle | poll | lost | lostVehicle
  | lostApplied => exact absurd raised (not_raised rfl)

theorem call_not_raised {data : Bool}
    (step : callArm config state data = some next ∨ callDestructor state = some next) :
    ¬ Raised state next := by
  rcases step with step | step
  · unfold callArm at step
    split at step
    · split at step <;> cases Option.some.inj step <;> exact not_raised rfl
    · cases step
  · unfold callDestructor at step
    split at step
    · cases Option.some.inj step
      exact not_raised rfl
    · cases step

end Outside

/-! ## Moves of the control loop -/

structure ControlFrame (state next : NodeState) : Prop where
  requested : next.flags.requestedArm = true → state.flags.requestedArm = true
  applied : next.flags.appliedArm = state.flags.appliedArm
  generation : next.flags.armRequestGeneration = state.flags.armRequestGeneration ∨
    Raised state next
  connected : state.flags.connected = false → next.flags.connected = false
  localGeneration : next.locals.requestGeneration = state.locals.requestGeneration
  appliedGeneration : next.locals.appliedArmGeneration = state.locals.appliedArmGeneration
  main : next.main = state.main
  receive : next.receive = state.receive

section Control
variable {config : NodeConfig} {state next : NodeState} {input : StepInput}

theorem Handshake.framed (held : Handshake state) (frame : ControlFrame state next)
    (announces : state.control.announces = true → next.control.announces = true ∨
      Raised state next)
    (apart : Raised state next → state.comesRound = false) (atControl : AtControl next) :
    Handshake next := by
  obtain ⟨requested, applied, generation, connected, localGeneration, appliedGeneration, main,
    receive⟩ := frame
  refine ⟨?_, ?_, atControl⟩
  · rw [receive]
    intro handling
    exact connected (held.disconnected handling)
  · intro requestedNext notApplied
    have stored := requested requestedNext
    have appliedApart (raised : Raised state next) :
        state.locals.appliedArmGeneration ≠ state.flags.armRequestGeneration + 1 :=
      applied_apart stored (apart raised)
    rw [applied, receive] at notApplied
    rw [appliedGeneration]
    rcases held.announced stored notApplied with behind | fromMain | own
    · exact Or.inl (behind_after generation appliedApart behind)
    · exact Or.inr (Or.inl (by rw [main]; exact fromMain))
    · rcases announces own with still | raised
      · exact Or.inr (Or.inr still)
      · exact Or.inl (raised ▸ appliedApart raised)

theorem Handshake.calmed (held : Handshake state) (frame : ControlFrame state next)
    (same : next.flags.armRequestGeneration = state.flags.armRequestGeneration)
    (silent : state.control.announces = false) (calm : next.control.calm = true) :
    Handshake next := by
  refine held.framed frame ?_ (fun raised => absurd raised (not_raised same)) (.ofCalm calm)
  intro announces
  rw [silent] at announces
  cases announces

theorem SameArm.controlFrame (same : SameArm state next) : ControlFrame state next where
  requested := fun requested => same.requested ▸ requested
  applied := same.applied
  generation := Or.inl same.generation
  connected := by
    intro disconnected
    cases connected : next.flags.connected with
    | false => rfl
    | true => rw [same.connected connected] at disconnected; cases disconnected
  localGeneration := same.localGeneration
  appliedGeneration := same.appliedGeneration
  main := same.main
  receive := same.receive

theorem SameHandshake.controlFrame (same : SameHandshake state.flags next.flags)
    (locals : next.locals = state.locals) (main : next.main = state.main)
    (receive : next.receive = state.receive) : ControlFrame state next where
  requested := fun requested => same.requested ▸ requested
  applied := same.applied
  generation := Or.inl same.generation
  connected := same.connected
  localGeneration := by rw [locals]
  appliedGeneration := by rw [locals]
  main := main
  receive := receive

theorem takeoverStep_handshake {resume : Bool} {point : TakeoverPoint}
    {result : NodeState × TakeoverNext}
    (step : takeoverStep config state input resume point = some result) :
    SameHandshake state.flags result.1.flags := by
  cases takeover_move step with
  | lock | check | leave | storeVehicle | storeButton => exact ⟨rfl, rfl, rfl, id⟩
  | worked | failed => exact afterUsb_handshake state _ _

theorem silent_of_branching {point : ControlPoint} (branching : point.branching = true) :
    point.announces = false := by
  cases point with
  | autoGeneration | disarm => cases branching
  | _ => rfl

/-- The exchange hides every request stored before it from the cleanup. -/
theorem disarm_handshake (held : Handshake state) {site : DisarmSite} {require : Bool}
    {point following : DisarmPoint} (at' : state.control = .disarm site require point)
    (continues : (disarmStep state.flags require point).2 = some following) :
    Handshake ((state.setFlags (disarmStep state.flags require point).1).goto
      (.disarm site require following)) := by
  obtain ⟨requested, applied, generation, connected⟩ := disarmStep_effect state.flags require point
  have same : (disarmStep state.flags require point).1.armRequestGeneration =
      state.flags.armRequestGeneration := by
    rcases generation with same | ⟨rfl, _⟩
    · exact same
    · cases continues
  refine held.framed ⟨requested, applied, Or.inl same, fun before => connected.trans before, rfl,
    rfl, rfl, rfl⟩ ?_ (fun raised => absurd raised (not_raised same)) ?_
  · rw [at']
    cases site <;> exact Or.inl
  cases site with
  | modeFailure | armRefused | dropPermission | commandGap | takeover | adapter | transmit =>
      exact .ofCalm rfl
  | cleanup =>
      refine ⟨?_, nofun, nofun, ?_⟩
      · intro acknowledging requestedNext
        have before : point.exchanged = true → state.main.announces = true := by
          intro exchanged
          refine held.atControl.acknowledging ?_ (requested requestedNext)
          simpa only [NodeState.acknowledging, at'] using exchanged
        cases point with
        | preserve | gap | button => cases Option.some.inj continues; cases acknowledging
        | requested => cases requestedNext
        | applied | vehicle | inhibited | rearm | pending | generation => exact before rfl
      · rintro (point | point | point) <;> cases point

/-- The cleanup's `fetch_add` counts as handled; every other leaves the applied generation
behind. -/
theorem disarmed_handshake (held : Handshake state) {site : DisarmSite} {require : Bool}
    (at' : state.control = .disarm site require .generation)
    (apart : site ≠ .cleanup → state.comesRound = false) :
    Handshake (finishDisarm (state.setFlags { state.flags with
      armRequestGeneration := state.flags.armRequestGeneration + 1 }) site) := by
  have frame (after : ControlPoint) : ControlFrame state ((state.setFlags { state.flags with
      armRequestGeneration := state.flags.armRequestGeneration + 1 }).goto after) :=
    ⟨id, rfl, Or.inr rfl, id, rfl, rfl, rfl, rfl⟩
  cases site with
  | dropPermission | commandGap | takeover | adapter | transmit =>
      exact held.framed (frame _) (fun _ => Or.inr rfl) (fun _ => apart nofun) (.ofCalm rfl)
  | modeFailure | armRefused =>
      refine held.framed (frame _) (fun _ => Or.inr rfl) (fun _ => apart nofun)
        ⟨nofun, nofun, nofun, fun _ requested => Or.inr ?_⟩
      have stored : state.flags.requestedArm = true := requested
      exact applied_apart stored (apart nofun)
  | cleanup =>
      have unseen : state.flags.requestedArm = true → state.main.announces = true := by
        refine held.atControl.acknowledging ?_
        simp only [NodeState.acknowledging, at', DisarmPoint.exchanged]
      refine ⟨held.disconnected, ?_, ?_⟩
      · intro requested _
        exact Or.inr (Or.inl (unseen requested))
      · exact ⟨nofun, nofun, nofun, fun _ requested => Or.inl (unseen requested)⟩

theorem applied_handshake (held : Handshake state) (point : state.control = .applyArm)
    (supervisor : SafetySupervisor) {after : ControlPoint} (calm : after.calm = true) :
    Handshake (((state.setLocals { state.locals with
      appliedArmGeneration := state.locals.requestGeneration, supervisor := supervisor }).setFlags
      { state.flags with appliedArm := state.locals.requested }).goto after) := by
  refine ⟨held.disconnected, ?_, .ofCalm calm⟩
  intro requested notApplied
  rcases held.atControl.applying point requested notApplied with announces | behind
  · exact Or.inr (Or.inl announces)
  · exact Or.inl behind

theorem control_handshake (held : Handshake state) (move : ControlMove config state input next)
    (apart : state.control.raises = true → state.comesRound = false) : Handshake next := by
  cases move with
  | plain source same _ entry =>
      exact held.calmed same.controlFrame same.generation (silent_of_branching source)
        (calm_of_entry entry)
  | retryLock site point free =>
      exact held.calmed ⟨id, rfl, Or.inl rfl, id, rfl, rfl, rfl, rfl⟩ rfl (by rw [point]; rfl) rfl
  | retryPending site point | retryCheck site before after point | retryDue site point =>
      exact held.calmed ⟨id, rfl, Or.inl rfl, id, rfl, rfl, rfl, rfl⟩ rfl (by rw [point]; rfl) rfl
  | retryLeave site before point =>
      exact held.calmed ⟨id, rfl, Or.inl rfl, id, rfl, rfl, rfl, rfl⟩ rfl (by rw [point]; rfl)
        (calm_of_entry (afterRetry_entry site))
  | restore site point at' after outcome taken =>
      obtain ⟨main, _, receive, locals⟩ := restoreStep_threads taken
      have same := restoreStep_handshake taken
      have frame := same.controlFrame locals main receive
      refine held.calmed ⟨frame.1, frame.2, frame.3, frame.4, frame.5, frame.6, frame.7, frame.8⟩
        same.generation (by rw [at']; rfl) ?_
      cases outcome with
      | goto point => rfl
      | returned => exact calm_of_entry (afterRestore_entry site)
      | threw what => exact calm_of_entry (restoreThrew_entry site)
  | disarm site require point following at' continues => exact disarm_handshake held at' continues
  | disarmed site require at' =>
      refine disarmed_handshake held at' fun other => apart ?_
      rw [at']
      cases site <;> first | rfl | exact absurd rfl other
  | takeover site resume point at' after outcome taken =>
      obtain ⟨main, _, receive, locals⟩ := takeoverStep_threads taken
      have same := takeoverStep_handshake taken
      have frame := same.controlFrame locals main receive
      refine held.calmed ⟨frame.1, frame.2, frame.3, frame.4, frame.5, frame.6, frame.7, frame.8⟩
        same.generation (by rw [at']; rfl) ?_
      cases outcome with
      | goto point => rfl
      | returned => exact calm_of_entry (afterTakeover_entry site)
      | threw what => exact calm_of_entry (takeoverThrew_entry site)
  | engageStart point | engageClear point | autoStart point | autoPass point | autoFree point
  | armTakeover point | readyRequested point | readyVehicle point | readyPending point =>
      exact held.calmed ⟨id, rfl, Or.inl rfl, id, rfl, rfl, rfl, rfl⟩ rfl (by rw [point]; rfl) rfl
  | engageCheck after point moved =>
      refine held.calmed ⟨id, rfl, Or.inl rfl, id, rfl, rfl, rfl, rfl⟩ rfl ?_ ?_
      · rcases point with point | point | point <;> rw [point] <;> rfl
      · rcases moved with rfl | rfl | rfl <;> rfl
  | autoStore point =>
      exact ⟨held.disconnected, fun _ _ => Or.inr (Or.inr rfl), .ofCalm rfl⟩
  | autoGeneration point =>
      exact held.framed ⟨id, rfl, Or.inr rfl, id, rfl, rfl, rfl, rfl⟩ (fun _ => Or.inr rfl)
        (fun _ => apart (by rw [point]; rfl)) (.ofCalm rfl)
  | loadRequested point =>
      refine held.framed ⟨id, rfl, Or.inl rfl, id, rfl, rfl, rfl, rfl⟩ ?_
        (fun raised => absurd raised (not_raised rfl)) ⟨?_, nofun, nofun, ?_⟩
      · rw [point]
        exact nofun
      · intro acknowledging requested
        have notRequested : state.flags.requestedArm = false := by
          simpa only [NodeState.acknowledging, NodeState.goto, NodeState.setLocals,
            Bool.not_eq_true'] using acknowledging
        exact absurd (requested.symm.trans notRequested) nofun
      · rintro (point | point | point) <;> cases point
  | loadGeneration point after moved =>
      have unseen : state.locals.requested = false → state.flags.requestedArm = true →
          state.main.announces = true := by
        intro notRequested
        refine held.atControl.acknowledging ?_
        simp only [NodeState.acknowledging, point, notRequested, Bool.not_false]
      have announced (requested : state.flags.requestedArm = true)
          (notApplied : state.flags.appliedArm = false ∨ state.receive = .lostApplied) :
          state.locals.appliedArmGeneration ≠ state.flags.armRequestGeneration ∨
            state.main.announces = true := by
        rcases held.announced requested notApplied with behind | main | own
        · exact Or.inl behind
        · exact Or.inr main
        · rw [point] at own; cases own
      refine ⟨held.disconnected, fun requested notApplied =>
        (announced requested notApplied).imp id Or.inl, ?_⟩
      rcases moved with rfl | ⟨rfl, requested⟩ | ⟨rfl, notRequested⟩
      · exact .ofCalm rfl
      · refine ⟨nofun, fun _ => requested, nofun, ?_⟩
        rintro (point | point | point) <;> cases point
      · refine ⟨nofun, nofun, fun _ requested _ => Or.inl (unseen notRequested requested), ?_⟩
        rintro (point | point | point) <;> cases point
  | loadConnected point connected =>
      have requested := held.atControl.loaded point
      refine held.framed ⟨id, rfl, Or.inl rfl, id, rfl, rfl, rfl, rfl⟩ ?_
        (fun raised => absurd raised (not_raised rfl)) ⟨nofun, nofun, ?_, ?_⟩
      · rw [point]
        exact nofun
      · rintro _ _ (notRequested | lost)
        · exact absurd (requested.symm.trans notRequested) nofun
        · have lost : state.receive = .lostApplied := lost
          have disconnected := held.disconnected (by rw [lost]; rfl)
          exact absurd (connected.symm.trans disconnected) nofun
      · rintro (point | point | point) <;> cases point
  | applied point supervisor after moved =>
      refine applied_handshake held point supervisor ?_
      rcases moved with rfl | rfl | rfl <;> rfl
  | refused point supervisor =>
      exact ⟨held.disconnected, fun _ _ => Or.inr (Or.inr rfl), .ofCalm rfl⟩
  | cleanupRestore locals same point =>
      exact held.calmed ⟨id, rfl, Or.inl rfl, id, same.2.1, same.2.2, rfl, rfl⟩ rfl
        (by rw [point]; rfl) rfl
  | dropApplied locals after same moved =>
      obtain ⟨_, localGeneration, appliedGeneration⟩ := same
      have at' : state.control = .modeFailureApplied ∨ state.control = .armRefusedApplied ∨
          state.control = .cleanupApplied :=
        moved.imp And.left (Or.imp And.left And.left)
      refine ⟨held.disconnected, ?_, .ofCalm ?_⟩
      · intro requested _
        rcases held.atControl.dropping at' requested with main | behind
        · exact Or.inr (Or.inl main)
        · exact Or.inl (appliedGeneration ▸ behind)
      · rcases moved with ⟨_, rfl⟩ | ⟨_, rfl⟩ | ⟨_, rfl⟩ <;> rfl

end Control

/-! ## Runs -/

section Runs
variable {config : NodeConfig} {state next : NodeState} {event : NodeEvent}

theorem handshake_step (held : Handshake state) (step : nodeStep config state event = some next)
    (seen : ¬ AnnouncedUnseen state event) (apart : ¬ ComesRound state event) :
    Handshake next := by
  have notRound (raises : raisesGeneration state event = true) : state.comesRound = false := by
    cases round : state.comesRound with
    | false => rfl
    | true => exact absurd ⟨raises, round⟩ apart
  cases event with
  | callArm data =>
      have idle := callArm_idle step
      refine held.outside (callArm_outside step) (fun _ _ announces => ?_)
        fun raised => absurd raised (call_not_raised (Or.inl step))
      rw [idle] at announces
      cases announces
  | callDestructor =>
      have idle := callDestructor_idle step
      refine held.outside (callDestructor_outside step) (fun _ _ announces => ?_)
        fun raised => absurd raised (@call_not_raised config _ _ true (Or.inr step))
      rw [idle] at announces
      cases announces
  | main input =>
      exact held.outside (main_outside step)
        (fun acknowledging requested announces =>
          absurd ⟨announces, requested, acknowledging⟩ seen)
        fun raised => notRound (main_raised step raised)
  | control input => exact control_handshake held (control_move step) notRound
  | receive input =>
      exact held.outside (receive_outside step)
        (fun _ _ announces => (receiveStep_threads step).1 ▸ announces)
        fun raised => notRound (receive_raised step raised)

/-- Neither `arm_callback` nor `request_internal_disarm` is in progress. -/
structure NoRequestInProgress (state : NodeState) : Prop where
  main : ∀ data point, state.main ≠ .arm data point
  control : ∀ site require point, state.control ≠ .disarm site require point
  receive : ∀ point, state.receive ≠ .lostDisarm point ∧ state.receive ≠ .reconnectDisarm point

theorem NoRequestInProgress.silent (quiet : NoRequestInProgress state)
    (whole : state.control ≠ .autoGeneration) : ¬ Announcing state := by
  rintro (main | own)
  · cases point : state.main with
    | arm data armPoint => exact quiet.main data armPoint point
    | idle | armPending | destroy | destroyRestore | stop | joinReceive | joinControl | disconnect
    | destroyed => rw [point] at main; cases main
  · cases point : state.control with
    | autoGeneration => exact whole point
    | disarm site require disarmPoint => exact quiet.control site require disarmPoint point
    | _ => rw [point] at own; cases own

end Runs

section Runs
variable (config : NodeConfig)

/-- In a run without an unseen announcement and without the generation coming round no accepted
request is lost: between the calls, and outside the automatic arming's own pair of accesses, a
request that is stored and not applied has a generation the control loop has not applied. -/
theorem accepted_request_announced (events : List NodeEvent) {state : NodeState}
    (reached : (nodeSystem config).exec {} events = some state)
    (seen : (nodeSystem config).Meets
      (fun state event => ¬ AnnouncedUnseen state event ∧ ¬ ComesRound state event) {} events)
    (quiet : NoRequestInProgress state) (whole : state.control ≠ .autoGeneration)
    (requested : state.flags.requestedArm = true)
    (notApplied : state.flags.appliedArm = false) :
    state.flags.armRequestGeneration ≠ state.locals.appliedArmGeneration := by
  have held : Handshake state := by
    refine (nodeSystem config).exec_keeps Handshake
      (fun state event => ¬ AnnouncedUnseen state event ∧ ¬ ComesRound state event)
      ?_ events {} state initial_handshake seen reached
    intro state event next inv side step
    exact handshake_step inv step side.1 side.2
  rcases held.announced requested (Or.inl notApplied) with behind | announcing
  · exact behind.symm
  · exact absurd announcing (quiet.silent whole)

end Runs

/-! ## A request before and during the cleanup -/

theorem NoRequestInProgress.ofIdle {state : NodeState} (main : state.main = .idle)
    (control : state.control = .loop) (receive : state.receive = .loop ∨ state.receive = .poll) :
    NoRequestInProgress state where
  main := by rw [main]; exact nofun
  control := by rw [control]; exact nofun
  receive := by
    intro point
    rcases receive with receive | receive <;> rw [receive] <;> exact ⟨nofun, nofun⟩

theorem first_request_announced :
    let state := NodeState.after actuationNode onCall
    state.flags.requestedArm = true ∧ state.flags.appliedArm = false ∧
      state.flags.armRequestGeneration ≠ state.locals.appliedArmGeneration := by
  have reached : (nodeSystem actuationNode).exec {} onCall =
      some (NodeState.after actuationNode onCall) := by decide +kernel
  have quiet : NoRequestInProgress (NodeState.after actuationNode onCall) :=
    .ofIdle (by decide +kernel) (by decide +kernel) (Or.inl (by decide +kernel))
  exact ⟨by decide +kernel, by decide +kernel,
    accepted_request_announced actuationNode onCall reached (by decide +kernel) quiet
      (by decide +kernel) (by decide +kernel) (by decide +kernel)⟩

/-- A request between the exchange and the `fetch_add` of the cleanup is lost: after the
restoration, with both ECUs back, its generation counts as applied. -/
theorem request_during_cleanup_lost :
    let events := takenOver ++ lostPanda ++ controlSteps 4 ++ onCall ++ controlSteps 11
    let state := NodeState.after actuationNode events
    (nodeSystem actuationNode).exec {} events = some state ∧ NoRequestInProgress state ∧
      state.control ≠ .autoGeneration ∧ state.flags.recoveryPending = false ∧
      state.flags.requestedArm = true ∧ state.flags.appliedArm = false ∧
      state.flags.armRequestGeneration = state.locals.appliedArmGeneration := by
  refine ⟨by decide +kernel, .ofIdle (by decide +kernel) (by decide +kernel)
    (Or.inr (by decide +kernel)), by decide +kernel, by decide +kernel, by decide +kernel,
    by decide +kernel, by decide +kernel⟩

end Ioniq5Ecan
