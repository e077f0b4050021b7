import Ioniq5Ecan.Library.Lock
import Ioniq5Ecan.Node.ControlMoves

/-! # actuation_mutex_

The points inside a `lock_guard` of `actuation_mutex_`, and the proof that only
its holder stands at one.  The points that take and release the mutex within
one step do not appear. -/
set_option autoImplicit false
namespace Ioniq5Ecan

open Library (LockView LockStep)

def MainPoint.locked : MainPoint → Bool
  | .destroyRestore point => !(point == .lock)
  | _ => false

def ControlPoint.locked : ControlPoint → Bool
  | .retry _ point => !(point == .lock)
  | .restore _ point => !(point == .lock)
  | .takeover _ point => !(point == .lock)
  | _ => false

def ReceivePoint.locked : ReceivePoint → Bool
  | .connectVehicle | .lostVehicle => true
  | _ => false

def actuationLock : LockView NodeState ThreadId where
  holder := NodeState.actuationMutex
  inside state
    | .main => state.main.locked
    | .control => state.control.locked
    | .receive => state.receive.locked

theorem unlocked_of_entry {point : ControlPoint} (entry : point.entry = true) :
    point.locked = false := by
  cases point with
  | retry site retryPoint => cases retryPoint <;> first | rfl | cases entry
  | restore site restorePoint =>
      cases site with
      | retry | cleanup => cases entry
      | disarmRequest | commandGap =>
          cases restorePoint <;> first | rfl | cases entry
  | takeover => cases entry
  | _ => rfl

section Steps
variable {config : NodeConfig} {state next : NodeState} {input : StepInput}

theorem othersStay_control (main : next.main = state.main) (receive : next.receive = state.receive) :
    actuationLock.OthersStay .control state next := by
  intro other different
  cases other with
  | main => exact congrArg MainPoint.locked main
  | control => exact absurd rfl different
  | receive => exact congrArg ReceivePoint.locked receive

theorem othersStay_main (control : next.control = state.control)
    (receive : next.receive = state.receive) :
    actuationLock.OthersStay .main state next := by
  intro other different
  cases other with
  | main => exact absurd rfl different
  | control => exact congrArg ControlPoint.locked control
  | receive => exact congrArg ReceivePoint.locked receive

theorem othersStay_receive (main : next.main = state.main) (control : next.control = state.control) :
    actuationLock.OthersStay .receive state next := by
  intro other different
  cases other with
  | main => exact congrArg MainPoint.locked main
  | control => exact congrArg ControlPoint.locked control
  | receive => exact absurd rfl different

/-- `enter_no_output_mode` takes the mutex at its head and releases it where it ends. -/
inductive RestoreMutex (thread : ThreadId) (state : NodeState) :
    RestorePoint → NodeState × RestoreNext → Prop
  | takes {after : NodeState} (free : state.actuationMutex = none)
      (holder : after.actuationMutex = some thread) :
      RestoreMutex thread state .lock (after, .goto .vehicle)
  | keeps {point following : RestorePoint} {after : NodeState} (inner : point ≠ .lock)
      (holder : after.actuationMutex = state.actuationMutex) (next : following ≠ .lock) :
      RestoreMutex thread state point (after, .goto following)
  | returns {point : RestorePoint} {after : NodeState} (inner : point ≠ .lock)
      (free : after.actuationMutex = none) : RestoreMutex thread state point (after, .returned)
  | throws {point : RestorePoint} {after : NodeState} {what : String} (inner : point ≠ .lock)
      (free : after.actuationMutex = none) : RestoreMutex thread state point (after, .threw what)

theorem restoreStep_mutex {thread : ThreadId} {point : RestorePoint}
    {result : NodeState × RestoreNext}
    (step : restoreStep config thread state input point = some result) :
    RestoreMutex thread state point result := by
  cases point with
  | lock =>
      simp only [restoreStep] at step
      split at step
      · rename_i free
        cases Option.some.inj step
        exact .takes free rfl
      · cases step
  | vehicle | pending | inhibited errors =>
      cases Option.some.inj step
      exact .keeps (by rintro ⟨⟩) rfl (by rintro ⟨⟩)
  | work =>
      cases Option.some.inj step
      refine .keeps (by rintro ⟨⟩) rfl ?_
      split <;> rintro ⟨⟩
  | clear =>
      cases Option.some.inj step
      exact .returns (by rintro ⟨⟩) rfl
  | rearm errors =>
      cases Option.some.inj step
      exact .throws (by rintro ⟨⟩) rfl

theorem locked_of_inner {site : RestoreSite} {point : RestorePoint} (inner : point ≠ .lock) :
    (ControlPoint.restore site point).locked = true := by
  simpa only [ControlPoint.locked, Bool.not_eq_true', beq_eq_false_iff_ne] using inner

theorem restore_lockStep {site : RestoreSite} {point : RestorePoint}
    (at' : state.control = .restore site point) {after : NodeState} {outcome : RestoreNext}
    (taken : restoreStep config .control state input point = some (after, outcome)) :
    LockStep actuationLock .control state (after.goto (outcome.control site)) := by
  obtain ⟨main, _, receive, _⟩ := restoreStep_threads taken
  cases restoreStep_mutex taken with
  | takes free holder => exact .taken free holder (othersStay_control main receive)
  | keeps inner holder next =>
      refine .kept holder (fun _ => ?_) (othersStay_control main receive)
      show state.control.locked = true
      rw [at']
      exact locked_of_inner inner
  | returns inner free =>
      refine .released ?_ free (unlocked_of_entry (afterRestore_entry site))
        (othersStay_control main receive)
      show state.control.locked = true
      rw [at']
      exact locked_of_inner inner
  | throws inner free =>
      refine .released ?_ free (unlocked_of_entry (restoreThrew_entry site))
        (othersStay_control main receive)
      show state.control.locked = true
      rw [at']
      exact locked_of_inner inner

theorem takeover_lockStep {site : TakeoverSite} {point : TakeoverPoint} {resume : Bool}
    (at' : state.control = .takeover site point) {after : NodeState} {outcome : TakeoverNext}
    (taken : takeoverStep config state input resume point = some (after, outcome)) :
    LockStep actuationLock .control state (after.goto (outcome.control site)) := by
  obtain ⟨main, _, receive, _⟩ := takeoverStep_threads taken
  have locked : point ≠ .lock → state.control.locked = true := by
    intro inner
    rw [at']
    simpa only [ControlPoint.locked, Bool.not_eq_true', beq_eq_false_iff_ne] using inner
  cases takeover_move taken with
  | lock free => exact .taken free rfl (othersStay_control main receive)
  | check _ _ inner =>
      refine .kept rfl (fun _ => locked ?_) (othersStay_control main receive)
      rintro rfl
      cases inner
  | leave _ inner outcome leaves =>
      refine .released (locked ?_) rfl ?_ (othersStay_control main receive)
      · rintro rfl
        cases inner
      · cases outcome with
        | goto => cases leaves
        | returned => exact unlocked_of_entry (afterTakeover_entry site)
        | threw what => exact unlocked_of_entry (takeoverThrew_entry site)
  | worked => exact .kept rfl (fun _ => locked nofun) (othersStay_control main receive)
  | failed =>
      exact .released (locked nofun) rfl (unlocked_of_entry (takeoverThrew_entry site))
        (othersStay_control main receive)
  | storeVehicle => exact .kept rfl (fun _ => locked nofun) (othersStay_control main receive)
  | storeButton =>
      exact .released (locked nofun) rfl (unlocked_of_entry (afterTakeover_entry site))
        (othersStay_control main receive)

theorem lockStep_outside (mutex : next.actuationMutex = state.actuationMutex)
    (main : next.main = state.main) (receive : next.receive = state.receive)
    (outside : next.control.locked = false) : LockStep actuationLock .control state next := by
  refine .kept mutex ?_ (othersStay_control main receive)
  intro (inside : next.control.locked = true)
  rw [outside] at inside
  cases inside

theorem control_lockStep (move : ControlMove config state input next) :
    LockStep actuationLock .control state next := by
  have stay (main : next.main = state.main) (receive : next.receive = state.receive) :=
    othersStay_control main receive
  have inRetry {site : RetrySite} {point : RetryPoint} (at' : state.control = .retry site point)
      (inner : point ≠ .lock) : state.control.locked = true := by
    rw [at']
    simpa only [ControlPoint.locked, Bool.not_eq_true', beq_eq_false_iff_ne] using inner
  cases move with
  | plain _ same mutex entry =>
      exact lockStep_outside mutex same.main same.receive (unlocked_of_entry entry)
  | retryLock site point free => exact .taken free rfl (stay rfl rfl)
  | retryPending site point => exact .kept rfl (fun _ => inRetry point nofun) (stay rfl rfl)
  | retryCheck site before after point inner =>
      exact .kept rfl (fun _ => inRetry point inner.1) (stay rfl rfl)
  | retryLeave site before point inner =>
      exact .released (inRetry point inner) rfl (unlocked_of_entry (afterRetry_entry site))
        (stay rfl rfl)
  | retryDue site point => exact .released (inRetry point nofun) rfl rfl (stay rfl rfl)
  | restore site point at' after outcome taken => exact restore_lockStep at' taken
  | takeover site resume point at' after outcome taken => exact takeover_lockStep at' taken
  | disarmed site => cases site <;> exact lockStep_outside rfl rfl rfl rfl
  | engageCheck after point moved =>
      rcases moved with rfl | rfl | rfl <;> exact lockStep_outside rfl rfl rfl rfl
  | loadGeneration point after moved =>
      rcases moved with rfl | ⟨rfl, _⟩ | ⟨rfl, _⟩ <;> exact lockStep_outside rfl rfl rfl rfl
  | applied point supervisor after moved =>
      rcases moved with rfl | rfl | rfl <;> exact lockStep_outside rfl rfl rfl rfl
  | dropApplied locals after same moved =>
      rcases moved with ⟨_, rfl⟩ | ⟨_, rfl⟩ | ⟨_, rfl⟩ <;> exact lockStep_outside rfl rfl rfl rfl
  | disarm | engageStart | engageClear | autoStart | autoPass | autoFree | autoStore
  | autoGeneration | loadRequested | loadConnected | refused | armTakeover | cleanupRestore
  | readyRequested | readyVehicle | readyPending => exact lockStep_outside rfl rfl rfl rfl

theorem main_lockStep (step : mainStep config state input = some next) :
    LockStep actuationLock .main state next := by
  have outside (mutex : next.actuationMutex = state.actuationMutex)
      (control : next.control = state.control) (receive : next.receive = state.receive)
      (unlocked : next.main.locked = false) : LockStep actuationLock .main state next := by
    refine .kept mutex ?_ (othersStay_main control receive)
    intro (inside : next.main.locked = true)
    rw [unlocked] at inside
    cases inside
  cases main_move step with
  | armPending | arm =>
      refine outside rfl rfl rfl ?_
      dsimp only
      split <;> rfl
  | destroy point =>
      cases point with
      | connected =>
          refine outside rfl rfl rfl ?_
          dsimp only [destroyStep]
          split <;> rfl
      | inhibited | operator | button | preserve | gap | requested | generation =>
          exact outside rfl rfl rfl rfl
  | destroyRestore point main after outcome taken =>
      have locked (inner : point ≠ .lock) : state.main.locked = true := by
        rw [main]
        simpa only [MainPoint.locked, Bool.not_eq_true', beq_eq_false_iff_ne] using inner
      obtain ⟨_, control, receive, _⟩ := restoreStep_threads taken
      have others := @othersStay_main state { after with main := outcome.main } control receive
      cases restoreStep_mutex taken with
      | takes free holder => exact .taken free holder others
      | keeps inner holder next => exact .kept holder (fun _ => locked inner) others
      | returns inner free => exact .released (locked inner) free rfl others
      | throws inner free => exact .released (locked inner) free rfl others
  | stop | joinReceive | joinControl | disconnect => exact outside rfl rfl rfl rfl

theorem receive_lockStep (step : receiveStep state input = some next) :
    LockStep actuationLock .receive state next := by
  obtain ⟨main, control, _⟩ := receiveStep_threads step
  have stay := othersStay_receive main control
  have outside (mutex : next.actuationMutex = state.actuationMutex)
      (unlocked : next.receive.locked = false) : LockStep actuationLock .receive state next := by
    refine .kept mutex ?_ stay
    intro (inside : next.receive.locked = true)
    rw [unlocked] at inside
    cases inside
  cases receive_move step with
  | connect _ free | lost _ free => exact .taken free rfl stay
  | connectFailed | lostApplied => exact outside rfl rfl
  | connectVehicle receive =>
      have locked : state.receive.locked = true := by rw [receive]; rfl
      refine .released locked rfl ?_ stay
      show ReceivePoint.locked (if _ then _ else _) = false
      split <;> rfl
  | lostVehicle receive =>
      have locked : state.receive.locked = true := by rw [receive]; rfl
      exact .released locked rfl rfl stay
  | loop | connected | poll | reconnectDisarm | lostDisarm =>
      refine outside rfl ?_
      dsimp only
      split <;> first | rfl | (split <;> rfl)

end Steps

/-! ## Runs -/

section Runs
variable {config : NodeConfig} {state next : NodeState} {event : NodeEvent}

theorem initial_guarded : actuationLock.Guarded {} := by
  intro thread inside
  cases thread <;> cases inside

theorem guarded_step (guarded : actuationLock.Guarded state)
    (step : nodeStep config state event = some next) : actuationLock.Guarded next := by
  cases event with
  | callArm data =>
      have idle := callArm_idle step
      simp only [nodeStep, callArm, idle] at step
      split at step <;> cases Option.some.inj step
      · exact guarded
      · refine guarded.step (.kept rfl ?_ (othersStay_main rfl rfl))
        intro inside
        cases data <;> cases inside
  | callDestructor =>
      have idle := callDestructor_idle step
      simp only [nodeStep, callDestructor, idle] at step
      cases Option.some.inj step
      refine guarded.step (.kept rfl ?_ (othersStay_main rfl rfl))
      intro inside
      cases inside
  | main input => exact guarded.step (main_lockStep step)
  | control input => exact guarded.step (control_lockStep (control_move step))
  | receive input => exact guarded.step (receive_lockStep step)

theorem reachable_guarded (reached : NodeReachable config state) :
    actuationLock.Guarded state := by
  obtain ⟨events, run⟩ := reached
  refine (nodeSystem config).exec_invariant actuationLock.Guarded ?_ events {} state
    initial_guarded run
  intro before event after guarded step
  exact guarded_step guarded step

/-- Two threads are never inside the mutex, whatever the interleaving. -/
theorem actuation_exclusive (reached : NodeReachable config state) {first second : ThreadId}
    (left : actuationLock.inside state first = true)
    (right : actuationLock.inside state second = true) : first = second :=
  (reachable_guarded reached).exclusive left right

end Runs
end Ioniq5Ecan
