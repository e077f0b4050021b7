import Ioniq5Ecan.Node.ControlMoves

/-! # Arming against restoring

Arming tests `recovery_pending_` and stores `requested_arm_` later; a disarm
withdraws the request and stores `recovery_pending_` later.  As long as the two
windows never overlap, a pending restoration excludes a stored request, except
inside the control loop's own restoration. -/
set_option autoImplicit false
namespace Ioniq5Ecan

open Library (EventSystem)

/-! ## The two windows -/

/-- `arm_callback(true)` has passed its test of `recovery_pending_` and not yet stored. -/
def MainPoint.licensed : MainPoint → Bool
  | .arm true point => !(point == .generation)
  | _ => false

/-- The same for the automatic arming. -/
def ControlPoint.licensed : ControlPoint → Bool
  | .autoRequested | .autoStore => true
  | _ => false

def Licensed (state : NodeState) : Prop :=
  state.main.licensed = true ∨ state.control.licensed = true

/-- Between the exchange of `requested_arm_` and the store to `recovery_pending_`. -/
def DisarmPoint.open : DisarmPoint → Bool
  | .applied | .vehicle | .inhibited | .rearm | .pending => true
  | .preserve | .gap | .button | .requested | .generation => false

def ControlPoint.disarmOpen : ControlPoint → Bool
  | .disarm _ _ point => point.open
  | _ => false

def ReceivePoint.disarmOpen : ReceivePoint → Bool
  | .reconnectDisarm point | .lostDisarm point => point.open
  | _ => false

def DisarmOpen (state : NodeState) : Prop :=
  state.control.disarmOpen = true ∨ state.receive.disarmOpen = true

def ReceivePoint.exchanges : ReceivePoint → Bool
  | .reconnectDisarm point | .lostDisarm point => point == .requested
  | _ => false

def ControlPoint.exchanges : ControlPoint → Bool
  | .disarm _ _ point => point == .requested
  | _ => false

/-- One window opens while the other is open: a request is withdrawn while an arming is licensed,
or an arming is licensed while a disarm has not yet stored `recovery_pending_`. -/
def OverlapsDisarm (config : NodeConfig) (state : NodeState) : NodeEvent → Prop
  | .main _ => state.main = .armPending ∧ state.flags.recoveryPending = false ∧ DisarmOpen state
  | .control _ =>
      state.control.exchanges = true ∧ Licensed state ∨
        state.control = .autoPending ∧ state.flags.recoveryPending = false ∧
          state.locals.autoArmReady config = true ∧ DisarmOpen state
  | .receive _ => state.receive.exchanges = true ∧ Licensed state
  | .callArm _ | .callDestructor => False

instance (state : NodeState) : Decidable (Licensed state) := inferInstanceAs (Decidable (_ ∨ _))

instance (state : NodeState) : Decidable (DisarmOpen state) := inferInstanceAs (Decidable (_ ∨ _))

instance (config : NodeConfig) (state : NodeState) :
    ∀ event, Decidable (OverlapsDisarm config state event)
  | .main _ => inferInstanceAs (Decidable (_ ∧ _ ∧ _))
  | .control _ => inferInstanceAs (Decidable (_ ∧ _ ∨ _ ∧ _ ∧ _ ∧ _))
  | .receive _ => inferInstanceAs (Decidable (_ ∧ _))
  | .callArm _ | .callDestructor => isFalse id

/-! ## The invariant -/

/-- After the store of `recovery_pending_` by `enter_no_output_mode`. -/
def RestorePoint.begun : RestorePoint → Bool
  | .lock | .vehicle | .pending => false
  | .work | .clear | .inhibited _ | .rearm _ => true

/-- The control loop restores for a disarm request or a command gap, which may still be requested,
or it disarms and has not exchanged yet. -/
def ControlPoint.restoring : ControlPoint → Bool
  | .restore .disarmRequest point | .restore .commandGap point => point.begun
  | .disarm _ _ point => !point.open && !(point == .generation)
  | _ => false

/-- Points the control loop reaches only with `recovery_pending_` set. -/
def ControlPoint.recovering : ControlPoint → Bool
  | .retry _ .requested | .retry _ .applied | .retry _ .vehicle | .retry _ .connected => true
  | .restore (.retry _) _ | .restore .cleanup _ => true
  | .disarm .cleanup _ .generation | .cleanupApplied | .cleanupConnected => true
  | _ => false

/-- Nothing is requested, and no arming is licensed to request. -/
structure Unrequested (state : NodeState) : Prop where
  requested : state.flags.requestedArm = false
  unlicensed : ¬ Licensed state

structure Exclusion (state : NodeState) : Prop where
  pending : state.main.destroying = false → state.flags.recoveryPending = true →
    state.control.restoring = false → Unrequested state
  disarming : DisarmOpen state → Unrequested state
  recovering : state.main.destroying = false → state.control.recovering = true →
    state.flags.recoveryPending = true

theorem initial_exclusion : Exclusion {} where
  pending := nofun
  disarming := by rintro (control | receive) <;> contradiction
  recovering := nofun

theorem entry_exclusion {point : ControlPoint} (entry : point.entry = true) :
    point.licensed = false ∧ point.disarmOpen = false ∧ point.recovering = false := by
  cases point with
  | retry site retryPoint =>
      cases retryPoint with
      | lock => exact ⟨rfl, rfl, rfl⟩
      | pending | requested | applied | vehicle | connected => cases entry
  | restore site restorePoint =>
      cases site with
      | retry | cleanup => cases entry
      | disarmRequest | commandGap => exact ⟨rfl, rfl, rfl⟩
  | disarm site require disarmPoint =>
      cases disarmPoint with
      | preserve => cases site <;> exact ⟨rfl, rfl, rfl⟩
      | gap | button | requested | applied | vehicle | inhibited | rearm | pending | generation =>
          cases entry
  | takeover | autoRequested | autoStore | cleanupApplied | cleanupConnected => cases entry
  | _ => exact ⟨rfl, rfl, rfl⟩

theorem branching_not_restoring {point : ControlPoint} (branching : point.branching = true) :
    point.restoring = false := by
  cases point with
  | restore | disarm => cases branching
  | _ => rfl

/-! ## Steps of the main and the receive thread -/

section Outside
variable {config : NodeConfig} {state next : NodeState} {input : StepInput}

theorem Unrequested.kept (unrequested : Unrequested state)
    (requested : next.flags.requestedArm = true → state.flags.requestedArm = true ∨ Licensed state)
    (licensed : Licensed next → Licensed state) : Unrequested next where
  requested := by
    by_contra stored
    rcases requested (by simpa using stored) with before | license
    · rw [unrequested.requested] at before; cases before
    · exact unrequested.unlicensed license
  unlicensed := fun license => unrequested.unlicensed (licensed license)

structure MainEffect (state next : NodeState) : Prop where
  control : next.control = state.control
  receive : next.receive = state.receive
  destroying : state.main.destroying = true → next.main.destroying = true
  pending : next.main.destroying = false →
    next.flags.recoveryPending = state.flags.recoveryPending
  requested : next.flags.requestedArm = true →
    state.flags.requestedArm = true ∨ state.main.licensed = true
  licensed : next.main.licensed = true → state.main.licensed = true ∨
    state.main = .armPending ∧ state.flags.recoveryPending = false

theorem MainEffect.licensed_of_pending (effect : MainEffect state next)
    (pending : state.flags.recoveryPending = true) (licensed : Licensed next) : Licensed state := by
  rcases licensed with main | own
  · rcases effect.licensed main with before | ⟨_, notPending⟩
    · exact Or.inl before
    · rw [pending] at notPending; cases notPending
  · exact Or.inr (effect.control ▸ own)

theorem Exclusion.ofMain (held : Exclusion state) (effect : MainEffect state next)
    (apart : state.main = .armPending → state.flags.recoveryPending = false →
      ¬ DisarmOpen state) : Exclusion next := by
  have before : next.main.destroying = false → state.main.destroying = false := by
    intro after
    by_contra destroying
    have := effect.destroying (by simpa using destroying)
    rw [after] at this
    cases this
  have requested : next.flags.requestedArm = true →
      state.flags.requestedArm = true ∨ Licensed state :=
    fun stored => (effect.requested stored).imp id Or.inl
  refine ⟨?_, ?_, ?_⟩
  · intro alive pending outside
    rw [effect.pending alive] at pending
    rw [effect.control] at outside
    exact (held.pending (before alive) pending outside).kept requested
      (effect.licensed_of_pending pending)
  · intro disarming
    have open' : DisarmOpen state := by
      unfold DisarmOpen at disarming
      rwa [effect.control, effect.receive] at disarming
    refine (held.disarming open').kept requested ?_
    rintro (main | own)
    · rcases effect.licensed main with licensed | ⟨point, notPending⟩
      · exact Or.inl licensed
      · exact absurd open' (apart point notPending)
    · exact Or.inr (effect.control ▸ own)
  · intro alive recovering
    rw [effect.control] at recovering
    rw [effect.pending alive]
    exact held.recovering (before alive) recovering

theorem mainEffect_of_destroying (control : next.control = state.control)
    (receive : next.receive = state.receive)
    (requested : next.flags.requestedArm = true → state.flags.requestedArm = true)
    (destroying : next.main.destroying = true) (unlicensed : next.main.licensed = false) :
    MainEffect state next where
  control := control
  receive := receive
  destroying := fun _ => destroying
  pending := by
    intro alive
    rw [destroying] at alive
    cases alive
  requested := fun stored => Or.inl (requested stored)
  licensed := by
    intro licensed
    rw [unlicensed] at licensed
    cases licensed

theorem restoreStep_requested {thread : ThreadId} {point : RestorePoint}
    {result : NodeState × RestoreNext}
    (step : restoreStep config thread state input point = some result) :
    result.1.flags.requestedArm = state.flags.requestedArm := by
  cases point with
  | lock =>
      simp only [restoreStep] at step
      split at step
      · cases Option.some.inj step
        rfl
      · cases step
  | vehicle | pending | work | clear | inhibited errors | rearm errors =>
      cases Option.some.inj step
      rfl

theorem main_effect (step : mainStep config state input = some next) : MainEffect state next := by
  cases main_move step with
  | armPending main =>
      refine ⟨rfl, rfl, by rw [main]; exact nofun, fun _ => rfl, Or.inl, ?_⟩
      cases state.flags.recoveryPending with
      | true => exact nofun
      | false => exact fun _ => Or.inr ⟨main, rfl⟩
  | arm data point main =>
      cases data with
      | true =>
          cases point with
          | generation =>
              exact ⟨rfl, rfl, by rw [main]; exact nofun, fun _ => rfl, Or.inl, nofun⟩
          | inhibited | operator | button | gap | preserve | rearm | requested =>
              have licensed : state.main.licensed = true := by rw [main]; rfl
              exact ⟨rfl, rfl, by rw [main]; exact nofun, fun _ => rfl, fun _ => Or.inr licensed,
                fun _ => Or.inl licensed⟩
      | false =>
          cases point with
          | requested =>
              exact ⟨rfl, rfl, by rw [main]; exact nofun, fun _ => rfl, nofun, nofun⟩
          | inhibited | operator | button | gap | preserve | rearm | generation =>
              exact ⟨rfl, rfl, by rw [main]; exact nofun, fun _ => rfl, Or.inl, nofun⟩
  | destroy point =>
      cases point with
      | requested => exact mainEffect_of_destroying rfl rfl nofun rfl rfl
      | connected =>
          refine mainEffect_of_destroying rfl rfl id ?_ ?_
          · dsimp only [destroyStep]
            split <;> rfl
          · dsimp only [destroyStep]
            split <;> rfl
      | inhibited | operator | button | preserve | gap | generation =>
          exact mainEffect_of_destroying rfl rfl id rfl rfl
  | destroyRestore point main after outcome taken =>
      obtain ⟨_, control, receive, _⟩ := restoreStep_threads taken
      have requested := restoreStep_requested taken
      refine mainEffect_of_destroying control receive (fun stored => requested ▸ stored) ?_ ?_
      · cases outcome <;> rfl
      · cases outcome <;> rfl
  | stop | joinReceive | joinControl | disconnect =>
      exact mainEffect_of_destroying rfl rfl id rfl rfl

structure DisarmWindow (before after : SharedFlags) (point : DisarmPoint)
    (following : Option DisarmPoint) : Prop where
  requested : after.requestedArm = true → before.requestedArm = true
  exchanged : point = .requested → after.requestedArm = false
  opened : ∀ next, following = some next → next.open = true → point.open = true ∨ point = .requested
  stored : after.recoveryPending = true → before.recoveryPending = true ∨ point.open = true
  kept : before.recoveryPending = true → after.recoveryPending = true

theorem disarmStep_window (flags : SharedFlags) (require : Bool) (point : DisarmPoint) :
    DisarmWindow flags (disarmStep flags require point).1 point
      (disarmStep flags require point).2 := by
  cases point with
  | requested => exact ⟨nofun, fun _ => rfl, fun _ _ _ => Or.inr rfl, Or.inl, id⟩
  | pending => exact ⟨id, nofun, fun _ _ _ => Or.inl rfl, fun _ => Or.inr rfl, fun _ => rfl⟩
  | applied | vehicle | inhibited | rearm =>
      exact ⟨id, nofun, fun _ _ _ => Or.inl rfl, Or.inl, id⟩
  | generation => exact ⟨id, nofun, nofun, Or.inl, id⟩
  | preserve | gap | button =>
      refine ⟨id, nofun, ?_, Or.inl, id⟩
      intro next continues
      cases Option.some.inj continues
      exact nofun

structure ReceiveEffect (state next : NodeState) : Prop where
  requested : next.flags.requestedArm = true → state.flags.requestedArm = true
  opened : next.receive.disarmOpen = true → state.receive.disarmOpen = true ∨
    state.receive.exchanges = true ∧ next.flags.requestedArm = false
  stored : next.flags.recoveryPending = true → state.flags.recoveryPending = true ∨
    state.receive.disarmOpen = true
  kept : state.flags.recoveryPending = true → next.flags.recoveryPending = true

theorem ReceiveEffect.ofQuiet (requested : next.flags.requestedArm = state.flags.requestedArm)
    (pending : next.flags.recoveryPending = state.flags.recoveryPending)
    (quiet : next.receive.disarmOpen = false) : ReceiveEffect state next where
  requested := fun stored => requested ▸ stored
  opened := by
    intro opened
    rw [quiet] at opened
    cases opened
  stored := fun stored => Or.inl (pending ▸ stored)
  kept := fun before => pending.trans before

theorem receive_effect (step : receiveStep state input = some next) :
    ReceiveEffect state next := by
  cases receive_move step with
  | reconnectDisarm point receive | lostDisarm point receive =>
      obtain ⟨requested, exchanged, opened, stored, kept⟩ :=
        disarmStep_window state.flags true point
      refine ⟨requested, ?_, fun pending => (stored pending).imp id (by rw [receive]; exact id),
        kept⟩
      rw [receive]
      dsimp only
      split
      · rename_i following continues
        intro inside
        rcases opened following continues inside with before | exchange
        · exact Or.inl before
        · exact Or.inr ⟨by rw [exchange]; rfl, exchanged exchange⟩
      · rintro ⟨⟩
  | loop | connected | poll | connectVehicle =>
      refine .ofQuiet rfl rfl ?_
      dsimp only
      split <;> first | rfl | (split <;> rfl)
  | connect | connectFailed | lost | lostVehicle | lostApplied => exact .ofQuiet rfl rfl rfl

theorem Exclusion.ofReceive (held : Exclusion state) (effect : ReceiveEffect state next)
    (main : next.main = state.main) (control : next.control = state.control)
    (apart : state.receive.exchanges = true → ¬ Licensed state) : Exclusion next := by
  have licensed : Licensed next → Licensed state := by
    unfold Licensed
    rw [main, control]
    exact id
  have requested : next.flags.requestedArm = true →
      state.flags.requestedArm = true ∨ Licensed state := fun stored => Or.inl (effect.requested stored)
  refine ⟨?_, ?_, ?_⟩
  · rw [main, control]
    intro alive pending outside
    rcases effect.stored pending with before | disarming
    · exact (held.pending alive before outside).kept requested licensed
    · exact (held.disarming (Or.inr disarming)).kept requested licensed
  · rintro (own | receive)
    · exact (held.disarming (Or.inl (control ▸ own))).kept requested licensed
    · rcases effect.opened receive with before | ⟨exchange, withdrawn⟩
      · exact (held.disarming (Or.inr before)).kept requested licensed
      · exact ⟨withdrawn, fun license => apart exchange (licensed license)⟩
  · rw [main, control]
    intro alive recovering
    exact effect.kept (held.recovering alive recovering)

end Outside

/-! ## Moves of the control loop -/

/-- A move that neither requests, nor restores, nor opens a window. -/
structure QuietMove (state next : NodeState) : Prop where
  requested : next.flags.requestedArm = state.flags.requestedArm
  pending : state.main.destroying = false →
    next.flags.recoveryPending = state.flags.recoveryPending
  main : next.main = state.main
  receive : next.receive = state.receive

section Control
variable {config : NodeConfig} {state next : NodeState} {input : StepInput}

theorem Exclusion.quiet (held : Exclusion state) (same : QuietMove state next)
    (licensed : next.control.licensed = true → state.control.licensed = true)
    (opened : next.control.disarmOpen = true → state.control.disarmOpen = true)
    (restoring : next.control.restoring = false → state.control.restoring = false)
    (recovering : state.main.destroying = false → next.control.recovering = true →
      state.flags.recoveryPending = true) : Exclusion next := by
  obtain ⟨requested, pending, main, receive⟩ := same
  have license : Licensed next → Licensed state := by
    rintro (fromMain | own)
    · exact Or.inl (main ▸ fromMain)
    · exact Or.inr (licensed own)
  have stored : next.flags.requestedArm = true →
      state.flags.requestedArm = true ∨ Licensed state := fun stored => Or.inl (requested ▸ stored)
  refine ⟨?_, ?_, ?_⟩
  · rw [main]
    intro alive waiting outside
    rw [pending alive] at waiting
    exact (held.pending alive waiting (restoring outside)).kept stored license
  · rintro (own | receiving)
    · exact (held.disarming (Or.inl (opened own))).kept stored license
    · exact (held.disarming (Or.inr (receive ▸ receiving))).kept stored license
  · rw [main]
    intro alive recovers
    rw [pending alive]
    exact recovering alive recovers

theorem Exclusion.plain (held : Exclusion state) (same : QuietMove state next)
    (outside : state.control.restoring = false)
    (entry : next.control.licensed = false ∧ next.control.disarmOpen = false ∧
      next.control.recovering = false) : Exclusion next := by
  obtain ⟨licensed, opened, recovering⟩ := entry
  refine held.quiet same ?_ ?_ (fun _ => outside) ?_
  · rw [licensed]; exact nofun
  · rw [opened]; exact nofun
  · rw [recovering]; exact fun _ => nofun

theorem SameArm.quietMove (same : SameArm state next) : QuietMove state next :=
  ⟨same.requested, fun _ => same.pending, same.main, same.receive⟩

theorem Exclusion.afterwards (held : Exclusion state)
    (requested : next.flags.requestedArm = state.flags.requestedArm)
    (main : next.main = state.main) (receive : next.receive = state.receive)
    (entry : next.control.licensed = false ∧ next.control.disarmOpen = false ∧
      next.control.recovering = false)
    (pending : next.flags.recoveryPending = true → next.control.restoring = false →
      Unrequested next) : Exclusion next := by
  obtain ⟨licensed, opened, recovering⟩ := entry
  refine ⟨fun _ => pending, ?_, ?_⟩
  · rintro (own | receiving)
    · rw [opened] at own; cases own
    · refine (held.disarming (Or.inr (receive ▸ receiving))).kept
        (fun stored => Or.inl (requested ▸ stored)) ?_
      rintro (fromMain | own)
      · exact Or.inl (main ▸ fromMain)
      · rw [licensed] at own; cases own
  · rw [recovering]
    exact fun _ => nofun

theorem restore_exclusion (held : Exclusion state) {site : RestoreSite} {point : RestorePoint}
    (at' : state.control = .restore site point) {after : NodeState} {outcome : RestoreNext}
    (taken : restoreStep config .control state input point = some (after, outcome)) :
    Exclusion (after.goto (outcome.control site)) := by
  have recovering (following : RestorePoint) : state.main.destroying = false →
      (ControlPoint.restore site following).recovering = true →
        state.flags.recoveryPending = true := by
    intro alive recovers
    refine held.recovering alive ?_
    rw [at']
    cases site <;> exact recovers
  have outside (following : RestorePoint) (same : following.begun = point.begun) :
      (ControlPoint.restore site following).restoring = false →
        state.control.restoring = false := by
    rw [at']
    cases site <;> simp only [ControlPoint.restoring, same] <;> exact id
  cases point with
  | lock =>
      simp only [restoreStep] at taken
      split at taken
      · cases Option.some.inj taken
        exact held.quiet ⟨rfl, fun _ => rfl, rfl, rfl⟩ Bool.false_ne_true.elim
          Bool.false_ne_true.elim (outside _ rfl) (recovering _)
      · cases taken
  | vehicle =>
      cases Option.some.inj taken
      exact held.quiet ⟨rfl, fun _ => rfl, rfl, rfl⟩ Bool.false_ne_true.elim
        Bool.false_ne_true.elim (outside _ rfl) (recovering _)
  | pending =>
      cases Option.some.inj taken
      cases site with
      | disarmRequest | commandGap =>
          exact held.afterwards rfl rfl rfl ⟨rfl, rfl, rfl⟩ (fun _ => by rintro ⟨⟩)
      | retry | cleanup =>
          -- Here the store finds the flag already set.
          exact held.quiet ⟨rfl, fun alive => (recovering .pending alive rfl).symm, rfl, rfl⟩
            Bool.false_ne_true.elim Bool.false_ne_true.elim (fun _ => by rw [at']; rfl)
            (fun alive _ => recovering .pending alive rfl)
  | work =>
      cases Option.some.inj taken
      dsimp only
      split
      · exact held.quiet ⟨rfl, fun _ => rfl, rfl, rfl⟩ Bool.false_ne_true.elim
          Bool.false_ne_true.elim (outside _ rfl) (recovering _)
      · exact held.quiet ⟨rfl, fun _ => rfl, rfl, rfl⟩ Bool.false_ne_true.elim
          Bool.false_ne_true.elim (outside _ rfl) (recovering _)
  | clear =>
      cases Option.some.inj taken
      exact held.afterwards rfl rfl rfl (entry_exclusion (afterRestore_entry site))
        Bool.false_ne_true.elim
  | inhibited errors =>
      cases Option.some.inj taken
      exact held.quiet ⟨rfl, fun _ => rfl, rfl, rfl⟩ Bool.false_ne_true.elim
        Bool.false_ne_true.elim (outside _ rfl) (recovering _)
  | rearm errors =>
      cases Option.some.inj taken
      have entry := entry_exclusion (restoreThrew_entry site)
      cases site with
      | disarmRequest | commandGap => exact held.afterwards rfl rfl rfl entry (fun _ => by rintro ⟨⟩)
      | retry | cleanup =>
          exact held.plain ⟨rfl, fun _ => rfl, rfl, rfl⟩ (by rw [at']; rfl) entry

theorem disarm_exclusion (held : Exclusion state) {site : DisarmSite} {require : Bool}
    {point following : DisarmPoint} (at' : state.control = .disarm site require point)
    (continues : (disarmStep state.flags require point).2 = some following)
    (apart : state.control.exchanges = true → ¬ Licensed state) :
    Exclusion ((state.setFlags (disarmStep state.flags require point).1).goto
      (.disarm site require following)) := by
  obtain ⟨requested, exchanged, opened, stored, kept⟩ := disarmStep_window state.flags require point
  have unlicensed : Licensed ((state.setFlags (disarmStep state.flags require point).1).goto
      (.disarm site require following)) → Licensed state := by
    rintro (main | own)
    · exact Or.inl main
    · cases own
  have withdrawn : point.open = true ∨ point = .requested →
      Unrequested ((state.setFlags (disarmStep state.flags require point).1).goto
        (.disarm site require following)) := by
    rintro (disarming | exchange)
    · refine (held.disarming (Or.inl ?_)).kept (fun after => Or.inl (requested after)) unlicensed
      rw [at']
      exact disarming
    · refine ⟨exchanged exchange, fun license => apart ?_ (unlicensed license)⟩
      rw [at', exchange]
      rfl
  refine ⟨?_, ?_, ?_⟩
  · intro _ _ outside
    refine withdrawn ?_
    cases point with
    | preserve | gap | button => cases Option.some.inj continues; cases outside
    | generation => cases continues
    | requested => exact Or.inr rfl
    | applied | vehicle | inhibited | rearm | pending => exact Or.inl rfl
  · rintro (own | receiving)
    · exact withdrawn (opened following continues own)
    · exact (held.disarming (Or.inr receiving)).kept (fun after => Or.inl (requested after))
        unlicensed
  · intro _ recovering
    cases point with
    | pending => rfl
    | generation => cases continues
    | preserve | gap | button | inhibited | rearm =>
        cases Option.some.inj continues
        cases site <;> cases recovering
    | requested | applied | vehicle =>
        cases Option.some.inj continues
        revert recovering
        cases site <;> cases require <;> simp only [disarmStep] <;> split <;> exact nofun

theorem disarmed_exclusion (held : Exclusion state) {site : DisarmSite} {require : Bool}
    (at' : state.control = .disarm site require .generation) :
    Exclusion (finishDisarm (state.setFlags { state.flags with
      armRequestGeneration := state.flags.armRequestGeneration + 1 }) site) := by
  have outside : state.control.restoring = false := by rw [at']; rfl
  cases site with
  | cleanup =>
      refine held.quiet ⟨rfl, fun _ => rfl, rfl, rfl⟩ nofun nofun (fun _ => outside) ?_
      intro alive _
      exact held.recovering alive (by rw [at']; rfl)
  | modeFailure | armRefused | dropPermission | commandGap | takeover | adapter | transmit =>
      exact held.plain ⟨rfl, fun _ => rfl, rfl, rfl⟩ outside ⟨rfl, rfl, rfl⟩

theorem takeoverStep_pending {resume : Bool} {point : TakeoverPoint}
    {result : NodeState × TakeoverNext}
    (step : takeoverStep config state input resume point = some result) :
    result.1.flags.requestedArm = state.flags.requestedArm ∧
      result.1.flags.recoveryPending = state.flags.recoveryPending := by
  cases takeover_move step <;> exact ⟨rfl, rfl⟩

theorem control_exclusion (held : Exclusion state) (move : ControlMove config state input next)
    (apart : ¬ OverlapsDisarm config state (.control input)) : Exclusion next := by
  cases move with
  | plain source same _ entry =>
      exact held.plain same.quietMove (branching_not_restoring source) (entry_exclusion entry)
  | restore site point at' after outcome taken => exact restore_exclusion held at' taken
  | disarm site require point following at' continues =>
      exact disarm_exclusion held at' continues fun exchange licensed =>
        apart (Or.inl ⟨exchange, licensed⟩)
  | disarmed site require at' => exact disarmed_exclusion held at'
  | takeover site resume point at' after outcome taken =>
      obtain ⟨main, _, receive, _⟩ := takeoverStep_threads taken
      obtain ⟨requested, pending⟩ := takeoverStep_pending taken
      refine held.plain ⟨requested, fun _ => pending, main, receive⟩ (by rw [at']; rfl) ?_
      cases outcome with
      | goto point => exact ⟨rfl, rfl, rfl⟩
      | returned => exact entry_exclusion (afterTakeover_entry site)
      | threw what => exact entry_exclusion (takeoverThrew_entry site)
  | retryPending site point pending =>
      exact held.quiet ⟨rfl, fun _ => rfl, rfl, rfl⟩ nofun nofun (fun _ => by rw [point]; rfl)
        (fun _ _ => pending)
  | retryCheck site before after point inner =>
      refine held.quiet ⟨rfl, fun _ => rfl, rfl, rfl⟩ nofun nofun (fun _ => by rw [point]; rfl) ?_
      intro alive _
      refine held.recovering alive ?_
      rw [point]
      cases before with
      | lock => exact absurd rfl inner.1
      | pending => exact absurd rfl inner.2
      | requested | applied | vehicle | connected => rfl
  | retryDue site point =>
      refine held.quiet ⟨rfl, fun _ => rfl, rfl, rfl⟩ nofun nofun (fun _ => by rw [point]; rfl) ?_
      exact fun alive _ => held.recovering alive (by rw [point]; rfl)
  | retryLeave site before point =>
      exact held.plain ⟨rfl, fun _ => rfl, rfl, rfl⟩ (by rw [point]; rfl)
        (entry_exclusion (afterRetry_entry site))
  | cleanupRestore locals same point =>
      refine held.quiet ⟨rfl, fun _ => rfl, rfl, rfl⟩ nofun nofun (fun _ => by rw [point]; rfl) ?_
      exact fun alive _ => held.recovering alive (by rw [point]; rfl)
  | dropApplied locals after same moved =>
      rcases moved with ⟨point, rfl⟩ | ⟨point, rfl⟩ | ⟨point, rfl⟩
      · exact held.plain ⟨rfl, fun _ => rfl, rfl, rfl⟩ (by rw [point]; rfl) ⟨rfl, rfl, rfl⟩
      · exact held.plain ⟨rfl, fun _ => rfl, rfl, rfl⟩ (by rw [point]; rfl) ⟨rfl, rfl, rfl⟩
      · refine held.quiet ⟨rfl, fun _ => rfl, rfl, rfl⟩ nofun nofun
          (fun _ => by rw [point]; rfl) ?_
        exact fun alive _ => held.recovering alive (by rw [point]; rfl)
  | autoPass point notPending ready =>
      refine ⟨?_, ?_, fun _ => nofun⟩
      · intro _ pending
        exact absurd (notPending.symm.trans pending) nofun
      · rintro (own | receiving)
        · cases own
        · exact absurd (Or.inr ⟨point, notPending, ready, Or.inr receiving⟩) apart
  | autoFree point =>
      exact held.quiet ⟨rfl, fun _ => rfl, rfl, rfl⟩ (fun _ => by rw [point]; rfl) nofun
        (fun _ => by rw [point]; rfl) (fun _ => nofun)
  | autoStore point =>
      have licensed : Licensed state := Or.inr (by rw [point]; rfl)
      refine ⟨?_, ?_, fun _ => nofun⟩
      · intro alive pending _
        exact absurd licensed (held.pending alive pending (by rw [point]; rfl)).unlicensed
      · rintro (own | receiving)
        · cases own
        · exact absurd licensed (held.disarming (Or.inr receiving)).unlicensed
  | engageCheck after point moved =>
      refine held.plain ⟨rfl, fun _ => rfl, rfl, rfl⟩ ?_ ?_
      · rcases point with point | point | point <;> rw [point] <;> rfl
      · rcases moved with rfl | rfl | rfl <;> exact ⟨rfl, rfl, rfl⟩
  | loadGeneration point after moved =>
      refine held.plain ⟨rfl, fun _ => rfl, rfl, rfl⟩ (by rw [point]; rfl) ?_
      rcases moved with rfl | ⟨rfl, _⟩ | ⟨rfl, _⟩ <;> exact ⟨rfl, rfl, rfl⟩
  | applied point supervisor after moved =>
      refine held.plain ⟨rfl, fun _ => rfl, rfl, rfl⟩ (by rw [point]; rfl) ?_
      rcases moved with rfl | rfl | rfl <;> exact ⟨rfl, rfl, rfl⟩
  | retryLock site point | refused point | engageStart point | engageClear point | autoStart point
  | autoGeneration point | loadRequested point | loadConnected point | armTakeover point
  | readyRequested point | readyVehicle point | readyPending point =>
      exact held.plain ⟨rfl, fun _ => rfl, rfl, rfl⟩ (by rw [point]; rfl) ⟨rfl, rfl, rfl⟩

end Control

/-! ## Runs -/

section Runs
variable {config : NodeConfig} {state next : NodeState} {event : NodeEvent}

theorem call_effect {main : MainPoint} (idle : state.main = .idle)
    (unlicensed : main.licensed = false) : MainEffect state { state with main := main } where
  control := rfl
  receive := rfl
  destroying := by rw [idle]; exact nofun
  pending := fun _ => rfl
  requested := Or.inl
  licensed := by
    intro licensed
    rw [unlicensed] at licensed
    cases licensed

theorem exclusion_step (held : Exclusion state) (step : nodeStep config state event = some next)
    (apart : ¬ OverlapsDisarm config state event) : Exclusion next := by
  cases event with
  | callArm data =>
      have idle := callArm_idle step
      refine held.ofMain ?_ (by rw [idle]; exact nofun)
      simp only [nodeStep, callArm, idle] at step
      split at step <;> cases Option.some.inj step
      · exact ⟨rfl, rfl, id, fun _ => rfl, Or.inl, Or.inl⟩
      · exact call_effect idle (by cases data <;> rfl)
  | callDestructor =>
      have idle := callDestructor_idle step
      refine held.ofMain ?_ (by rw [idle]; exact nofun)
      simp only [nodeStep, callDestructor, idle] at step
      cases Option.some.inj step
      exact call_effect idle rfl
  | main input =>
      exact held.ofMain (main_effect step) fun point notPending disarming =>
        apart ⟨point, notPending, disarming⟩
  | control input =>
      have move : ControlMove config state input next := control_move step
      exact control_exclusion held move apart
  | receive input =>
      obtain ⟨main, control, _⟩ := receiveStep_threads step
      exact held.ofReceive (receive_effect step) main control fun exchange licensed =>
        apart ⟨exchange, licensed⟩

end Runs

section Runs
variable (config : NodeConfig)

/-- In a run whose arming and disarming windows never overlap, a pending restoration excludes a
stored request: in every state before the destructor is called, outside the control loop's own
restoration or disarm. -/
theorem pending_excludes_request (events : List NodeEvent) {state : NodeState}
    (reached : (nodeSystem config).exec {} events = some state)
    (apart : (nodeSystem config).Meets (fun state event => ¬ OverlapsDisarm config state event) {}
      events)
    (alive : state.main.destroying = false) (outside : state.control.restoring = false)
    (pending : state.flags.recoveryPending = true) : state.flags.requestedArm = false := by
  have held : Exclusion state := by
    refine (nodeSystem config).exec_keeps Exclusion
      (fun state event => ¬ OverlapsDisarm config state event) ?_ events {} state
      initial_exclusion apart reached
    intro state event next inv side step
    exact exclusion_step inv step side
  exact (held.pending alive pending outside).requested

end Runs

/-! ## A USB loss while the service arms -/

/-- The receive loop loses the Panda and disarms. -/
def usbLoss : List NodeEvent := .receive { fixtureInput with usb := .error "lost" } :: receiveSteps 11

theorem loss_excludes_request :
    (NodeState.after actuationNode (takenOver ++ usbLoss)).flags.requestedArm = false := by
  have reached : (nodeSystem actuationNode).exec {} (takenOver ++ usbLoss) =
      some (NodeState.after actuationNode (takenOver ++ usbLoss)) := by decide +kernel
  exact pending_excludes_request actuationNode (takenOver ++ usbLoss) reached (by decide +kernel)
    (by decide +kernel) (by decide +kernel) (by decide +kernel)

/-- The service has passed its test of `recovery_pending_` when the receive loop disarms; its
store comes afterwards. -/
theorem request_during_loss_stays :
    let events := receiveSteps 4 ++ [.callArm true] ++ mainSteps 1 ++ usbLoss ++ mainSteps 8
    let state := NodeState.after actuationNode events
    (nodeSystem actuationNode).exec {} events = some state ∧ state.main = .idle ∧
      state.control = .loop ∧ state.receive = .loop ∧
      state.flags.recoveryPending = true ∧ state.flags.requestedArm = true := by
  refine ⟨by decide +kernel, by decide +kernel, by decide +kernel, by decide +kernel,
    by decide +kernel, by decide +kernel⟩

end Ioniq5Ecan
