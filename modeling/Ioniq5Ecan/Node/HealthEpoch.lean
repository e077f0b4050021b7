import Ioniq5Ecan.Library.Lock
import Ioniq5Ecan.Library.SeqLock
import Ioniq5Ecan.Node.Threads

/-! # latest_health_ and safety_transition_epoch_

The receive loop's health poll beside the functions that construct a
`SafetyTransition`, with the increments of the epoch, the accesses to
`latest_health_` and the takings of `actuation_mutex_` and `health_mutex_` as
single steps.  What else these functions do is left to the input. -/
set_option autoImplicit false
namespace Ioniq5Ecan

open Library (EventSystem LockView LockStep SeqLock)

/-- Who changes modes: the destructor in the main thread, or the control loop. -/
inductive Changer
  | main
  | control
  deriving DecidableEq

def Changer.thread : Changer → ThreadId
  | .main => .main
  | .control => .control

/-- The standby block of `control_loop`, `enter_vehicle_safety_mode` from its two calls, and
`enter_no_output_mode`. -/
inductive ChangeSite
  | standby
  | armRequest
  | session
  | restore
  deriving DecidableEq

/-- `lockHealth` has the sample `enter_no_output_mode` read and checked before, the other sites
read theirs under the mutex. -/
inductive ChangePoint
  | idle
  | lock (site : ChangeSite)
  | construct (site : ChangeSite)
  | work (site : ChangeSite)
  | lockHealth (site : ChangeSite) (read : Option PandaHealth)
  | readHealth (site : ChangeSite)
  | storeHealth (site : ChangeSite) (health : PandaHealth)
  | unlockHealth (site : ChangeSite)
  | destruct (site : ChangeSite) (returned : Bool)
  | unlock (site : ChangeSite) (returned : Bool)
  deriving DecidableEq

/-- The session takeover stores its sample once its transition has ended. -/
def ChangeSite.storesInside : ChangeSite → Bool
  | .session => false
  | _ => true

namespace ChangePoint

/-- Between the constructor and the destructor of a `SafetyTransition`. -/
def inTransition : ChangePoint → Bool
  | .work _ | .destruct _ _ => true
  | .lockHealth site _ | .readHealth site | .storeHealth site _ | .unlockHealth site =>
      site.storesInside
  | _ => false

def holdsActuation : ChangePoint → Bool
  | .construct _ | .unlock _ _ => true
  | point => point.inTransition

def holdsHealth : ChangePoint → Bool
  | .readHealth _ | .storeHealth _ _ | .unlockHealth _ => true
  | _ => false

end ChangePoint

/-- The receive loop; the poll carries the epoch it loaded and the sample it read. -/
inductive PollPoint
  | loop
  | connect
  | loadEpoch
  | readHealth (epoch : UInt64)
  | lockHealth (epoch : UInt64) (health : PandaHealth)
  | compare (epoch : UInt64) (health : PandaHealth)
  | storeHealth (health : PandaHealth)
  | unlockHealth
  | lost
  | disconnect
  | lockCleared
  | clearHealth
  | unlockCleared
  deriving DecidableEq

namespace PollPoint

def holdsActuation : PollPoint → Bool
  | .connect | .disconnect => true
  | _ => false

def holdsHealth : PollPoint → Bool
  | .compare _ _ | .storeHealth _ | .unlockHealth | .clearHealth | .unlockCleared => true
  | _ => false

/-- The epoch a read in progress began with. -/
def readEpoch : PollPoint → Option UInt64
  | .readHealth epoch | .lockHealth epoch _ | .compare epoch _ => some epoch
  | _ => none

def stores : PollPoint → Bool
  | .storeHealth _ => true
  | _ => false

end PollPoint

structure HealthState where
  epoch : UInt64 := 0
  actuationMutex : Option ThreadId := none
  healthMutex : Option ThreadId := none
  latestHealth : PandaHealth := {}
  change : Changer → ChangePoint := fun _ => .idle
  poll : PollPoint := .loop

namespace HealthState

def setChange (state : HealthState) (changer : Changer) (point : ChangePoint) : HealthState :=
  { state with change := fun other => if other = changer then point else state.change other }

def setPoll (state : HealthState) (point : PollPoint) : HealthState := { state with poll := point }

def inTransition (state : HealthState) : Bool :=
  (state.change .main).inTransition || (state.change .control).inTransition

end HealthState

/-- What the USB calls of a step give, and which branch a loop takes next. -/
structure HealthInput where
  health : Option PandaHealth := some {}
  succeeds : Bool := true
  connects : Bool := false
  healthDue : Bool := true

/-! ## The steps -/

def changeStep (state : HealthState) (changer : Changer) (input : HealthInput) :
    Option HealthState :=
  match state.change changer with
  | .idle => none
  | .lock site =>
      match state.actuationMutex with
      | some _ => none
      | none => some ({ state with actuationMutex := some changer.thread }.setChange changer
          (.construct site))
  | .construct site =>
      some ({ state with epoch := state.epoch + 1 }.setChange changer (.work site))
  | .work site =>
      some (state.setChange changer (match site with
        | .standby => if input.succeeds then .lockHealth site none else .destruct site false
        | .restore => match input.health with
          | some health => .lockHealth site (some health)
          | none => .destruct site false
        | .armRequest | .session => .destruct site input.succeeds))
  | .lockHealth site read =>
      match state.healthMutex with
      | some _ => none
      | none => some ({ state with healthMutex := some changer.thread }.setChange changer
          (match read with
            | some health => .storeHealth site health
            | none => .readHealth site))
  | .readHealth site =>
      some (state.setChange changer (match input.health with
        | some health => .storeHealth site health
        | none => .unlockHealth site))
  | .storeHealth site health =>
      some ({ state with latestHealth := health }.setChange changer (.unlockHealth site))
  | .unlockHealth site =>
      some ({ state with healthMutex := none }.setChange changer
        (if site.storesInside then .destruct site input.succeeds else .idle))
  | .destruct site returned =>
      some ({ state with epoch := state.epoch + 1 }.setChange changer (.unlock site returned))
  | .unlock site returned =>
      some ({ state with actuationMutex := none }.setChange changer
        (if site == ChangeSite.session && returned then .lockHealth site none else .idle))

def pollStep (state : HealthState) (input : HealthInput) : Option HealthState :=
  match state.poll with
  | .loop =>
      if input.connects then
        match state.actuationMutex with
        | some _ => none
        | none => some ({ state with actuationMutex := some .receive }.setPoll .connect)
      else
        -- Reading the frames may throw; the poll of the health is due after them.
        some (state.setPoll (if !input.succeeds then .lost
          else if input.healthDue then .loadEpoch else .loop))
  | .connect =>
      some ({ state with actuationMutex := none }.setPoll (if input.succeeds then .loop else .lost))
  | .loadEpoch => some (state.setPoll (.readHealth state.epoch))
  | .readHealth epoch =>
      some (state.setPoll (match input.health with
        | some health => .lockHealth epoch health
        | none => .lost))
  | .lockHealth epoch health =>
      match state.healthMutex with
      | some _ => none
      | none => some ({ state with healthMutex := some .receive }.setPoll (.compare epoch health))
  | .compare epoch health =>
      some (state.setPoll
        (if epoch % 2 == 0 && epoch == state.epoch then .storeHealth health else .unlockHealth))
  | .storeHealth health => some ({ state with latestHealth := health }.setPoll .unlockHealth)
  | .unlockHealth => some ({ state with healthMutex := none }.setPoll .loop)
  | .lost =>
      match state.actuationMutex with
      | some _ => none
      | none => some ({ state with actuationMutex := some .receive }.setPoll .disconnect)
  | .disconnect => some ({ state with actuationMutex := none }.setPoll .lockCleared)
  | .lockCleared =>
      match state.healthMutex with
      | some _ => none
      | none => some ({ state with healthMutex := some .receive }.setPoll .clearHealth)
  | .clearHealth => some ({ state with latestHealth := {} }.setPoll .unlockCleared)
  | .unlockCleared => some ({ state with healthMutex := none }.setPoll .loop)

inductive HealthEvent
  | begin (changer : Changer) (site : ChangeSite)
  | change (changer : Changer) (input : HealthInput)
  | poll (input : HealthInput)

/-- The main thread only restores. -/
def healthStep (state : HealthState) : HealthEvent → Option HealthState
  | .begin changer site =>
      if state.change changer = .idle ∧ (changer = .main → site = .restore) then
        some (state.setChange changer (.lock site))
      else none
  | .change changer input => changeStep state changer input
  | .poll input => pollStep state input

def healthSystem : EventSystem HealthState HealthEvent where
  step := healthStep

abbrev HealthTaken := HealthState × HealthEvent

namespace HealthTaken

def loads (taken : HealthTaken) : Prop :=
  taken.1.poll = .loadEpoch ∧ ∃ input, taken.2 = .poll input

def compares (taken : HealthTaken) : Prop :=
  (∃ epoch health, taken.1.poll = .compare epoch health) ∧ ∃ input, taken.2 = .poll input

def constructs (changer : Changer) (taken : HealthTaken) : Prop :=
  ∃ site input, taken.1.change changer = .construct site ∧ taken.2 = .change changer input

/-- A store of `latest_health_` made inside a transition. -/
def storesInTransition (changer : Changer) (taken : HealthTaken) : Prop :=
  ∃ site health input, taken.1.change changer = .storeHealth site health ∧
    site.storesInside = true ∧ taken.2 = .change changer input

def storesHealth (taken : HealthTaken) : Prop :=
  (∃ changer site health input, taken.1.change changer = .storeHealth site health ∧
    taken.2 = .change changer input) ∨
  (taken.1.poll = .clearHealth ∨ taken.1.poll.stores = true) ∧ ∃ input, taken.2 = .poll input

end HealthTaken

def epochBumps (state : HealthState) : HealthEvent → Bool
  | .change changer _ => match state.change changer with
    | .construct _ | .destruct _ _ => true
    | _ => false
  | _ => false

def epochLock : SeqLock HealthState HealthEvent where
  period := 2 ^ 64
  epoch state := state.epoch.toNat
  inside := HealthState.inTransition
  bumps := epochBumps

/-! ## The two mutexes -/

def modeLock : LockView HealthState ThreadId where
  holder := HealthState.actuationMutex
  inside state
    | .main => (state.change .main).holdsActuation
    | .control => (state.change .control).holdsActuation
    | .receive => state.poll.holdsActuation

def healthLock : LockView HealthState ThreadId where
  holder := HealthState.healthMutex
  inside state
    | .main => (state.change .main).holdsHealth
    | .control => (state.change .control).holdsHealth
    | .receive => state.poll.holdsHealth

section Steps
variable {state next : HealthState} {changer : Changer} {input : HealthInput}

@[simp] theorem setChange_self (point : ChangePoint) :
    (state.setChange changer point).change changer = point := by
  simp [HealthState.setChange]

theorem setChange_other (point : ChangePoint) {other : Changer} (different : other ≠ changer) :
    (state.setChange changer point).change other = state.change other := by
  simp [HealthState.setChange, different]

@[simp] theorem modeLock_changer :
    modeLock.inside state changer.thread = (state.change changer).holdsActuation := by
  cases changer <;> rfl

@[simp] theorem healthLock_changer :
    healthLock.inside state changer.thread = (state.change changer).holdsHealth := by
  cases changer <;> rfl

theorem othersStay_setChange (view : LockView HealthState ThreadId)
    (poll : view.inside next .receive = view.inside state .receive)
    (others : ∀ other, other ≠ changer →
      view.inside next other.thread = view.inside state other.thread) :
    view.OthersStay changer.thread state next := by
  intro other different
  cases other with
  | main => exact others .main (by rintro rfl; exact different rfl)
  | control => exact others .control (by rintro rfl; exact different rfl)
  | receive => exact poll

structure SamePlace (before after : ChangePoint) : Prop where
  transition : after.inTransition = before.inTransition
  actuation : after.holdsActuation = before.holdsActuation
  health : after.holdsHealth = before.holdsHealth

def ChangePoint.silent : ChangePoint → Bool
  | .construct _ | .destruct _ _ | .storeHealth _ _ => false
  | _ => true

inductive ChangeMove (state : HealthState) (changer : Changer) : HealthState → Prop
  | stays (silent : (state.change changer).silent = true) (after : ChangePoint)
      (place : SamePlace (state.change changer) after) :
      ChangeMove state changer (state.setChange changer after)
  | lock (site : ChangeSite) (point : state.change changer = .lock site)
      (free : state.actuationMutex = none) :
      ChangeMove state changer ({ state with actuationMutex := some changer.thread }.setChange
        changer (.construct site))
  | construct (site : ChangeSite) (point : state.change changer = .construct site) :
      ChangeMove state changer ({ state with epoch := state.epoch + 1 }.setChange changer
        (.work site))
  | lockHealth (site : ChangeSite) (read : Option PandaHealth)
      (point : state.change changer = .lockHealth site read) (free : state.healthMutex = none)
      (after : ChangePoint) (inside : after.holdsHealth = true)
      (transition : after.inTransition = (state.change changer).inTransition)
      (actuation : after.holdsActuation = (state.change changer).holdsActuation) :
      ChangeMove state changer ({ state with healthMutex := some changer.thread }.setChange
        changer after)
  | storeHealth (site : ChangeSite) (health : PandaHealth)
      (point : state.change changer = .storeHealth site health) :
      ChangeMove state changer ({ state with latestHealth := health }.setChange changer
        (.unlockHealth site))
  | unlockHealth (site : ChangeSite) (point : state.change changer = .unlockHealth site)
      (after : ChangePoint) (outside : after.holdsHealth = false)
      (transition : after.inTransition = (state.change changer).inTransition)
      (actuation : after.holdsActuation = (state.change changer).holdsActuation) :
      ChangeMove state changer ({ state with healthMutex := none }.setChange changer after)
  | destruct (site : ChangeSite) (returned : Bool)
      (point : state.change changer = .destruct site returned) :
      ChangeMove state changer ({ state with epoch := state.epoch + 1 }.setChange changer
        (.unlock site returned))
  | unlock (site : ChangeSite) (returned : Bool)
      (point : state.change changer = .unlock site returned) (after : ChangePoint)
      (ended : after.inTransition = false) (actuation : after.holdsActuation = false)
      (health : after.holdsHealth = false) :
      ChangeMove state changer ({ state with actuationMutex := none }.setChange changer after)

theorem change_move (step : changeStep state changer input = some next) :
    ChangeMove state changer next := by
  unfold changeStep at step
  cases point : state.change changer with
  | idle => simp only [point] at step; cases step
  | lock site =>
      simp only [point] at step
      cases free : state.actuationMutex with
      | none =>
          simp only [free] at step
          cases Option.some.inj step
          exact .lock site point free
      | some holder => simp only [free] at step; cases step
  | construct site =>
      simp only [point] at step
      cases Option.some.inj step
      exact .construct site point
  | work site =>
      simp only [point] at step
      cases Option.some.inj step
      refine .stays (by rw [point]; rfl) _ ?_
      rw [point]
      cases site with
      | standby => dsimp only; split <;> exact ⟨rfl, rfl, rfl⟩
      | restore => dsimp only; split <;> exact ⟨rfl, rfl, rfl⟩
      | armRequest | session => exact ⟨rfl, rfl, rfl⟩
  | lockHealth site read =>
      simp only [point] at step
      cases free : state.healthMutex with
      | none =>
          simp only [free] at step
          cases Option.some.inj step
          cases read with
          | none => exact .lockHealth site _ point free _ rfl (by rw [point]; rfl) (by rw [point]; rfl)
          | some health =>
              exact .lockHealth site _ point free _ rfl (by rw [point]; rfl) (by rw [point]; rfl)
      | some holder => simp only [free] at step; cases step
  | readHealth site =>
      simp only [point] at step
      cases Option.some.inj step
      refine .stays (by rw [point]; rfl) _ ?_
      rw [point]
      cases input.health <;> exact ⟨rfl, rfl, rfl⟩
  | storeHealth site health =>
      simp only [point] at step
      cases Option.some.inj step
      exact .storeHealth site health point
  | unlockHealth site =>
      simp only [point] at step
      cases Option.some.inj step
      refine .unlockHealth site point _ ?_ ?_ ?_
      · cases site <;> rfl
      · rw [point]
        cases site <;> rfl
      · rw [point]
        cases site <;> rfl
  | destruct site returned =>
      simp only [point] at step
      cases Option.some.inj step
      exact .destruct site returned point
  | unlock site returned =>
      simp only [point] at step
      cases Option.some.inj step
      refine .unlock site returned point _ ?_ ?_ ?_ <;> split <;> try rfl
      all_goals
        rename_i session
        obtain ⟨rfl, -⟩ : site = .session ∧ returned = true := by simpa using session
        rfl

inductive PollMove (state : HealthState) : HealthState → Prop
  | stays (unloaded : state.poll ≠ .loadEpoch) (unmatched : state.poll.stores = false)
      (after : PollPoint)
      (actuation : after.holdsActuation = state.poll.holdsActuation)
      (health : after.holdsHealth = state.poll.holdsHealth)
      (read : ∀ epoch, after.readEpoch = some epoch → state.poll.readEpoch = some epoch)
      (stores : after.stores = false) : PollMove state (state.setPoll after)
  | load (point : state.poll = .loadEpoch) :
      PollMove state (state.setPoll (.readHealth state.epoch))
  | lockMode (unloaded : state.poll ≠ .loadEpoch) (unmatched : state.poll.stores = false)
      (free : state.actuationMutex = none) (after : PollPoint)
      (health : after.holdsHealth = false) (read : after.readEpoch = none)
      (stores : after.stores = false) :
      PollMove state ({ state with actuationMutex := some .receive }.setPoll after)
  | unlockMode (inside : state.poll.holdsActuation = true) (after : PollPoint)
      (actuation : after.holdsActuation = false) (health : after.holdsHealth = false)
      (read : after.readEpoch = none) (stores : after.stores = false) :
      PollMove state ({ state with actuationMutex := none }.setPoll after)
  | lockHealth (unloaded : state.poll ≠ .loadEpoch) (unmatched : state.poll.stores = false)
      (free : state.healthMutex = none) (after : PollPoint)
      (actuation : after.holdsActuation = false)
      (read : ∀ epoch, after.readEpoch = some epoch → state.poll.readEpoch = some epoch)
      (stores : after.stores = false) :
      PollMove state ({ state with healthMutex := some .receive }.setPoll after)
  | compare (epoch : UInt64) (health : PandaHealth) (point : state.poll = .compare epoch health) :
      PollMove state (state.setPoll
        (if epoch % 2 == 0 && epoch == state.epoch then .storeHealth health else .unlockHealth))
  | storeHealth (health : PandaHealth) (point : state.poll = .storeHealth health) :
      PollMove state ({ state with latestHealth := health }.setPoll .unlockHealth)
  | clearHealth (point : state.poll = .clearHealth) :
      PollMove state ({ state with latestHealth := {} }.setPoll .unlockCleared)
  | unlockHealth (point : state.poll = .unlockHealth ∨ state.poll = .unlockCleared) :
      PollMove state ({ state with healthMutex := none }.setPoll .loop)

theorem poll_move (step : pollStep state input = some next) : PollMove state next := by
  unfold pollStep at step
  cases point : state.poll with
  | loop =>
      simp only [point] at step
      split at step
      · cases free : state.actuationMutex with
        | none =>
            simp only [free] at step
            cases Option.some.inj step
            exact .lockMode (by rw [point]; nofun) (by rw [point]; rfl) free _ rfl rfl rfl
        | some holder => simp only [free] at step; cases step
      · cases Option.some.inj step
        refine .stays (by rw [point]; nofun) (by rw [point]; rfl) _ ?_ ?_ ?_ ?_ <;> try rw [point]
        all_goals repeat' split
        all_goals first | rfl | exact nofun
  | lost =>
      simp only [point] at step
      cases free : state.actuationMutex with
      | none =>
          simp only [free] at step
          cases Option.some.inj step
          exact .lockMode (by rw [point]; nofun) (by rw [point]; rfl) free _ rfl rfl rfl
      | some holder => simp only [free] at step; cases step
  | connect =>
      simp only [point] at step
      cases Option.some.inj step
      refine .unlockMode (by rw [point]; rfl) _ ?_ ?_ ?_ ?_ <;> split <;> rfl
  | disconnect =>
      simp only [point] at step
      cases Option.some.inj step
      exact .unlockMode (by rw [point]; rfl) _ rfl rfl rfl rfl
  | loadEpoch =>
      simp only [point] at step
      cases Option.some.inj step
      exact .load point
  | readHealth epoch =>
      simp only [point] at step
      cases Option.some.inj step
      refine .stays (by rw [point]; nofun) (by rw [point]; rfl) _ ?_ ?_ ?_ ?_ <;> try rw [point]
      all_goals cases input.health
      all_goals first | rfl | exact fun _ same => same | exact nofun
  | lockHealth epoch health =>
      simp only [point] at step
      cases free : state.healthMutex with
      | none =>
          simp only [free] at step
          cases Option.some.inj step
          exact .lockHealth (by rw [point]; nofun) (by rw [point]; rfl) free _ rfl
            (by rw [point]; exact fun _ same => same) rfl
      | some holder => simp only [free] at step; cases step
  | lockCleared =>
      simp only [point] at step
      cases free : state.healthMutex with
      | none =>
          simp only [free] at step
          cases Option.some.inj step
          exact .lockHealth (by rw [point]; nofun) (by rw [point]; rfl) free _ rfl nofun rfl
      | some holder => simp only [free] at step; cases step
  | compare epoch health =>
      simp only [point] at step
      cases Option.some.inj step
      exact .compare epoch health point
  | storeHealth health =>
      simp only [point] at step
      cases Option.some.inj step
      exact .storeHealth health point
  | clearHealth =>
      simp only [point] at step
      cases Option.some.inj step
      exact .clearHealth point
  | unlockHealth =>
      simp only [point] at step
      cases Option.some.inj step
      exact .unlockHealth (Or.inl point)
  | unlockCleared =>
      simp only [point] at step
      cases Option.some.inj step
      exact .unlockHealth (Or.inr point)

theorem poll_frame (step : pollStep state input = some next) :
    next.change = state.change ∧ next.epoch = state.epoch := by
  cases poll_move step <;> exact ⟨rfl, rfl⟩

theorem change_frame (move : ChangeMove state changer next) :
    next.poll = state.poll ∧ ∀ other, other ≠ changer → next.change other = state.change other := by
  cases move with
  | stays | lock | construct | lockHealth | storeHealth | unlockHealth | destruct | unlock =>
      exact ⟨rfl, fun other different => setChange_other _ different⟩

theorem changer_others (move : ChangeMove state changer next) :
    modeLock.OthersStay changer.thread state next ∧
      healthLock.OthersStay changer.thread state next := by
  obtain ⟨poll, others⟩ := change_frame move
  constructor
  · refine othersStay_setChange modeLock (congrArg PollPoint.holdsActuation poll) ?_
    intro other different
    rw [modeLock_changer, modeLock_changer, others other different]
  · refine othersStay_setChange healthLock (congrArg PollPoint.holdsHealth poll) ?_
    intro other different
    rw [healthLock_changer, healthLock_changer, others other different]

theorem change_modeLock (move : ChangeMove state changer next) :
    LockStep modeLock changer.thread state next := by
  have others := (changer_others move).1
  cases move with
  | stays _ after place =>
      exact .kept rfl (fun inside => by simpa [place.actuation] using inside) others
  | lock site point free => exact .taken free rfl others
  | construct site point => exact .kept rfl (fun _ => by rw [modeLock_changer, point]; rfl) others
  | lockHealth site read point free after inside transition actuation =>
      exact .kept rfl (fun inside => by simpa [actuation] using inside) others
  | storeHealth site health point =>
      refine .kept rfl (fun inside => ?_) others
      rw [modeLock_changer] at inside ⊢
      rw [setChange_self] at inside
      rw [point]
      exact inside
  | unlockHealth site point after outside transition actuation =>
      exact .kept rfl (fun inside => by simpa [actuation] using inside) others
  | destruct site returned point =>
      exact .kept rfl (fun _ => by rw [modeLock_changer, point]; rfl) others
  | unlock site returned point after ended actuation health =>
      refine .released (by rw [modeLock_changer, point]; rfl) rfl ?_ others
      rw [modeLock_changer, setChange_self, actuation]

theorem change_healthLock (move : ChangeMove state changer next) :
    LockStep healthLock changer.thread state next := by
  have others := (changer_others move).2
  have outside {after : ChangePoint} {before : HealthState}
      (health : after.holdsHealth = false) {goal : Prop}
      (inside : healthLock.inside (before.setChange changer after) changer.thread = true) : goal := by
    rw [healthLock_changer, setChange_self, health] at inside
    cases inside
  cases move with
  | stays _ after place =>
      exact .kept rfl (fun inside => by simpa [place.health] using inside) others
  | lock site point free => exact .kept rfl (outside rfl) others
  | construct site point => exact .kept rfl (outside rfl) others
  | lockHealth site read point free after inside => exact .taken free rfl others
  | storeHealth site health point =>
      exact .kept rfl (fun _ => by rw [healthLock_changer, point]; rfl) others
  | unlockHealth site point after freed =>
      refine .released (by rw [healthLock_changer, point]; rfl) rfl ?_ others
      rw [healthLock_changer, setChange_self, freed]
  | destruct site returned point => exact .kept rfl (outside rfl) others
  | unlock site returned point after ended actuation health =>
      exact .kept rfl (outside health) others

theorem poll_others (step : pollStep state input = some next) :
    modeLock.OthersStay .receive state next ∧ healthLock.OthersStay .receive state next := by
  obtain ⟨change, _⟩ := poll_frame step
  constructor <;> intro other different <;> cases other with
  | receive => exact absurd rfl different
  | main | control => simp only [modeLock, healthLock, change]

theorem poll_modeLock (step : pollStep state input = some next) :
    LockStep modeLock .receive state next := by
  have others := (poll_others step).1
  cases poll_move step with
  | stays _ _ after actuation => exact .kept rfl (fun inside => actuation.symm.trans inside) others
  | lockMode _ _ free => exact .taken free rfl others
  | unlockMode inside after actuation => exact .released inside rfl actuation others
  | lockHealth _ _ free after actuation =>
      exact .kept rfl (fun inside => absurd (actuation.symm.trans inside) nofun) others
  | compare epoch health =>
      refine .kept rfl (fun inside => ?_) others
      change PollPoint.holdsActuation (if _ then _ else _) = true at inside
      split at inside <;> cases inside
  | load | storeHealth | clearHealth | unlockHealth => exact .kept rfl nofun others

theorem poll_healthLock (step : pollStep state input = some next) :
    LockStep healthLock .receive state next := by
  have others := (poll_others step).2
  have holds {point : PollPoint} (here : state.poll = point) (inside : point.holdsHealth = true) :
      healthLock.inside state .receive = true := by
    change state.poll.holdsHealth = true
    rw [here]
    exact inside
  cases poll_move step with
  | stays _ _ after _ health => exact .kept rfl (fun inside => health.symm.trans inside) others
  | load => exact .kept rfl nofun others
  | lockMode _ _ free after health =>
      exact .kept rfl (fun inside => absurd (health.symm.trans inside) nofun) others
  | unlockMode inside after actuation health =>
      exact .kept rfl (fun inside => absurd (health.symm.trans inside) nofun) others
  | lockHealth _ _ free => exact .taken free rfl others
  | compare epoch health point => exact .kept rfl (fun _ => holds point rfl) others
  | storeHealth health point => exact .kept rfl (fun _ => holds point rfl) others
  | clearHealth point => exact .kept rfl (fun _ => holds point rfl) others
  | unlockHealth point =>
      refine .released ?_ rfl rfl others
      rcases point with point | point <;> exact holds point rfl

end Steps

end Ioniq5Ecan
