import Ioniq5Ecan.Firmware.Hooks
import Ioniq5Ecan.Library.WrappedTime

/-! # The permission of a session

A session recomputes `controls_allowed` at the end of each hook, from receive
checks whose age a wrapping timer tells.  `Watching` says what the tick once a
second adds: a check that still counts is less than a lap old until the next
tick is due, so a permission that was withheld is not granted by time alone. -/
set_option autoImplicit false
namespace Ioniq5Ecan

open Library (EventSystem shown lap age_le_of_later shown_difference watched watched_again)

/-- The longest time between two ticks, in microseconds. -/
def tickPeriod : Nat := 1000000

/-- The layer in time. -/
structure ClockedLayer where
  layer : SafetyLayer := {}
  now : Nat
  lastTick : Nat
  /-- The last `ioniq5_session_enforce`. -/
  evaluated : Nat
  /-- The times at which messages were received. -/
  received : List Nat := []

def SafetyCall.evaluates (profile : UInt16) : SafetyCall → Bool
  | .rx _ => true
  | .tick => true
  | .dropPermission param1 => param1 == 1 && profile != 0
  | _ => false

namespace ClockedLayer

def advance (hooks : OpendbcHooks) (state : ClockedLayer) (time : Nat) (call : SafetyCall) :
    ClockedLayer where
  layer := state.layer.call hooks (shown time) call
  now := time
  lastTick := if call = .tick then time else state.lastTick
  evaluated := if call.evaluates state.layer.sessionProfile then time else state.evaluated
  received :=
    match call with
    | .rx _ => time :: state.received
    | _ => state.received

def step (hooks : OpendbcHooks) (state : ClockedLayer) (event : Nat × SafetyCall) :
    Option ClockedLayer :=
  if state.now ≤ event.1 ∧ event.1 ≤ state.lastTick + tickPeriod then
    some (state.advance hooks event.1 event.2)
  else none

def powerUp (start : Nat) : ClockedLayer where
  now := start
  lastTick := start
  evaluated := start

end ClockedLayer

/-- Calls in time order, with the tick at least once a period. -/
def OpendbcHooks.timed (hooks : OpendbcHooks) : EventSystem ClockedLayer (Nat × SafetyCall) where
  step := ClockedLayer.step hooks

/-- What a granted permission stands on. -/
structure PermissionGrounds (hooks : OpendbcHooks) (state : ClockedLayer) : Prop where
  mode : state.layer.currentSafetyMode = safetyHyundaiCanfd
  notBlocked : state.layer.sessionBlocked = false
  selected : (state.layer.sessionLateral || state.layer.sessionLongitudinal) = true
  checks : ∀ check ∈ state.layer.rxChecks,
    check.msgSeen = true ∧ check.validChecksum = true ∧ check.validQualityFlag = true ∧
      check.wrongCounters < hooks.maxWrongCounters ∧
      ∃ stamp ∈ state.received, check.lastTimestamp = shown stamp ∧ stamp ≤ state.evaluated ∧
        state.evaluated ≤ stamp + 100000

structure NothingGranted (before after : Firmware) : Prop where
  controls : before.controlsAllowed = false → after.controlsAllowed = false
  lateral : before.sessionLateral = false → after.sessionLateral = false
  longitudinal : before.sessionLongitudinal = false → after.sessionLongitudinal = false

/-! ## Readiness in time -/

namespace Firmware

theorem ready_iff {opendbc : Opendbc} {firmware : Firmware} {now : UInt32} :
    firmware.ready opendbc now = true ↔
      (firmware.sessionProfile ≠ 0 ∧ firmware.sessionBlocked = false ∧
        firmware.relayMalfunction = false ∧ firmware.safetyRxChecksInvalid = false ∧
        firmware.rxChecks ≠ []) ∧
      ∀ check ∈ firmware.rxChecks, check.msgSeen = true ∧ check.validChecksum = true ∧
        check.validQualityFlag = true ∧ check.wrongCounters < opendbc.maxWrongCounters ∧
        opendbc.tsElapsed now check.lastTimestamp ≤ 100000 := by
  unfold ready
  split
  · next refused =>
    refine ⟨fun impossible => (by cases impossible), fun ready => ?_⟩
    simp [ready.1] at refused
  · next accepted =>
    simp only [Bool.or_eq_true, not_or, beq_iff_eq, Bool.not_eq_true, List.length_eq_zero_iff]
      at accepted
    simp only [List.all_eq_true, Bool.and_eq_true, decide_eq_true_eq, and_assoc]
    obtain ⟨⟨⟨⟨session, unblocked⟩, relay⟩, invalid⟩, some⟩ := accepted
    exact ⟨fun passes => ⟨session, unblocked, relay, invalid, some, passes⟩,
      fun ⟨_, _, _, _, _, passes⟩ => passes⟩

theorem permitted_iff {opendbc : Opendbc} {firmware : Firmware} {now : UInt32} :
    firmware.permitted opendbc now = true ↔
      firmware.currentSafetyMode = safetyHyundaiCanfd ∧ firmware.ready opendbc now = true ∧
        (firmware.sessionLateral || firmware.sessionLongitudinal) = true := by
  unfold permitted
  simp only [Bool.and_eq_true, beq_iff_eq, and_assoc]

/-- Every seen check carries the shown time of a message received before `evaluated`, and will not
be a lap old before the next tick is due. -/
def Stamped (firmware : Firmware) (received : List Nat) (evaluated lastTick : Nat) : Prop :=
  firmware.sessionBlocked = false → ∀ check ∈ firmware.rxChecks, check.msgSeen = true →
    ∃ stamp ∈ received, check.lastTimestamp = shown stamp ∧ stamp ≤ evaluated ∧
      Library.Watched stamp lastTick tickPeriod

section Readiness
variable {hooks : OpendbcHooks} {firmware : Firmware} {received : List Nat}
  {evaluated lastTick time later : Nat}

/-- Time alone grants nothing before the next tick is due. -/
theorem permitted_before (documented : hooks.Documented)
    (stamped : firmware.Stamped received evaluated lastTick) (reached : evaluated ≤ time)
    (passes : time ≤ later) (due : later ≤ lastTick + tickPeriod)
    (permitted : firmware.permitted hooks.toOpendbc (shown later) = true) :
    firmware.permitted hooks.toOpendbc (shown time) = true := by
  obtain ⟨mode, ready, selected⟩ := permitted_iff.mp permitted
  obtain ⟨session, passed⟩ := ready_iff.mp ready
  refine permitted_iff.mpr ⟨mode, ready_iff.mpr ⟨session, fun check member => ?_⟩, selected⟩
  obtain ⟨seen, checksum, quality, counters, age⟩ := passed check member
  refine ⟨seen, checksum, quality, counters, ?_⟩
  obtain ⟨stamp, -, stampShown, order, watches⟩ := stamped session.2.1 check member seen
  rw [documented.elapsed, stampShown] at age ⊢
  exact age_le_of_later (order.trans reached) passes (watches.near due) age

end Readiness

end Firmware

/-! ## One call -/

/-- What holds of a session between two calls. -/
structure Watching (hooks : OpendbcHooks) (state : ClockedLayer) : Prop where
  settled : Firmware.Settled hooks state.layer.toFirmware
  granted : state.layer.controlsAllowed = true →
    state.layer.permitted hooks.toOpendbc (shown state.evaluated) = true
  withheld : state.layer.controlsAllowed = false → ∀ later, state.now ≤ later →
    later ≤ state.lastTick + tickPeriod →
      state.layer.permitted hooks.toOpendbc (shown later) = false
  stamped : state.layer.Stamped state.received state.evaluated state.lastTick

structure Timely (state : ClockedLayer) : Prop where
  ticked : state.lastTick ≤ state.now
  evaluated : state.evaluated ≤ state.now
  due : state.now ≤ state.lastTick + tickPeriod

section Call
variable {hooks : OpendbcHooks} {state : ClockedLayer} {time : Nat} {call : SafetyCall}

open Firmware SafetyLayer

theorem Timely.advance (timely : Timely state) (passes : state.now ≤ time)
    (due : time ≤ state.lastTick + tickPeriod) : Timely (state.advance hooks time call) := by
  have ticks : (state.advance hooks time call).lastTick = time ∨
      (state.advance hooks time call).lastTick = state.lastTick := ite_eq_or_eq ..
  have evaluates : (state.advance hooks time call).evaluated = time ∨
      (state.advance hooks time call).evaluated = state.evaluated := ite_eq_or_eq ..
  obtain ⟨ticked, evaluated, _⟩ := timely
  have now : (state.advance hooks time call).now = time := rfl
  refine ⟨?_, ?_, ?_⟩
  · omega
  · omega
  · omega

/-- A hook that has just evaluated the permission, with the checks that still count stamped. -/
theorem Watching.of_evaluated (documented : hooks.Documented)
    (settled : Settled hooks state.layer.toFirmware)
    (controls : state.layer.controlsAllowed =
      state.layer.permitted hooks.toOpendbc (shown state.now))
    (evaluated : state.evaluated = state.now)
    (stamped : state.layer.Stamped state.received state.evaluated state.lastTick) :
    Watching hooks state where
  settled := settled
  granted allowed := by
    rw [evaluated, ← controls]
    exact allowed
  withheld refused later passes due := by
    rw [← Bool.not_eq_true]
    intro permitted
    have before := permitted_before documented stamped evaluated.le passes due permitted
    rw [← controls, refused] at before
    cases before
  stamped := stamped

theorem stamped_of_silenced {firmware : Firmware} {received : List Nat} {evaluated lastTick : Nat}
    (blocked : firmware.sessionBlocked = true) :
    firmware.Stamped received evaluated lastTick := by
  intro unblocked
  rw [blocked] at unblocked
  cases unblocked

theorem Watching.rx (documented : hooks.Documented) (watching : Watching hooks state)
    (timely : Timely state) (session : state.layer.sessionProfile ≠ 0) (passes : state.now ≤ time)
    (msg : CanPacket) : Watching hooks (state.advance hooks time (.rx msg)) := by
  have setting := received_setting hooks.toOpendbc state.layer.toFirmware (shown time) msg session
  have ends := @rx_enforced hooks state.layer (shown time) session msg
  refine .of_evaluated documented (settled_rx watching.settled session msg) ends.controls rfl ?_
  intro unblocked check member seen
  have wasUnblocked : state.layer.sessionBlocked = false := by
    rw [← Bool.not_eq_true]
    intro blocked
    have still := ends.staysBlocked (setting.staysBlocked blocked)
    rw [show (state.layer.call hooks (shown time) (.rx msg)).sessionBlocked = false from unblocked]
      at still
    cases still
  have checks : (state.advance hooks time (.rx msg)).layer.rxChecks =
      (hooks.rxMsgSafetyCheck state.layer.toFirmware (shown time) msg).rxChecks :=
    ends.rxChecks.trans setting.rxChecks
  have checked : check ∈ (hooks.rxMsgSafetyCheck state.layer.toFirmware (shown time) msg).rxChecks := by
    rw [← checks]
    exact member
  rcases documented.stamps _ _ _ check checked seen with fresh | ⟨old, oldMember, oldSeen, same⟩
  · refine ⟨time, List.mem_cons_self, fresh, le_rfl, ?_⟩
    exact watched (timely.ticked.trans passes) (by decide)
  · obtain ⟨stamp, stampMember, stampShown, order, watches⟩ :=
      watching.stamped wasUnblocked old oldMember oldSeen
    refine ⟨stamp, List.mem_cons_of_mem _ stampMember, same.symm.trans stampShown, ?_, watches⟩
    exact (order.trans timely.evaluated).trans passes

theorem Watching.tick (documented : hooks.Documented) (watching : Watching hooks state)
    (timely : Timely state) (session : state.layer.sessionProfile ≠ 0) (passes : state.now ≤ time)
    (due : time ≤ state.lastTick + tickPeriod) :
    Watching hooks (state.advance hooks time .tick) := by
  have ends := @tick_enforced hooks state.layer (shown time) session
  refine .of_evaluated documented (settled_tick watching.settled session) ends.controls rfl ?_
  intro unblocked check member seen
  have cleared : (state.layer.sessionBlocked ||
      (state.layer.ticked hooks (shown time)).faulty
        (!state.layer.rxChecksInvalid hooks (shown time))) = false :=
    ends.blocked.symm.trans unblocked
  obtain ⟨wasUnblocked, sound⟩ := Bool.or_eq_false_iff.mp cleared
  have valid : state.layer.rxChecksInvalid hooks (shown time) = false := by
    unfold Firmware.faulty at sound
    simp only [Bool.or_eq_false_iff] at sound
    exact sound.2
  have kept : check ∈ state.layer.rxChecks := ends.rxChecks ▸ member
  -- A seen check has no start-up grace, so the tick has compared its age with the lag limit.
  have within : lagging hooks check (shown time) = false := by
    have judged := List.any_eq_false.mp valid check kept
    simp only [rxInitializing, seen, Bool.not_true, Bool.and_false, Bool.false_and, Bool.not_false,
      Bool.true_and, Bool.not_eq_true, Bool.or_eq_false_iff] at judged
    exact judged.1
  obtain ⟨stamp, stampMember, stampShown, order, watches⟩ :=
    watching.stamped wasUnblocked check kept seen
  have reached : stamp ≤ time := (order.trans timely.evaluated).trans passes
  refine ⟨stamp, stampMember, stampShown, reached, ?_⟩
  refine watched_again watches reached due (documented.lag check) ?_
  unfold lagging at within
  rw [decide_eq_false_iff_not, documented.elapsed, stampShown] at within
  exact Nat.le_of_not_lt within

theorem Watching.request (documented : hooks.Documented) (watching : Watching hooks state)
    (timely : Timely state) (session : state.layer.sessionProfile ≠ 0) (passes : state.now ≤ time)
    (param1 : UInt16) : Watching hooks (state.advance hooks time (.dropPermission param1)) := by
  by_cases drops : param1 = 1
  · subst drops
    have ends := @request_enforced hooks state.layer (shown time) session
    have settled := @settled_request hooks state.layer (shown time) watching.settled session 1
    have evaluated : (state.advance hooks time (.dropPermission 1)).evaluated = time :=
      if_pos (by simp [SafetyCall.evaluates, session])
    refine .of_evaluated documented settled (by exact ends.controls) evaluated ?_
    intro unblocked check member seen
    have wasUnblocked : state.layer.sessionBlocked = false := by
      have cleared := ends.blocked.symm.trans unblocked
      exact (Bool.or_eq_false_iff.mp cleared).1
    obtain ⟨stamp, stampMember, stampShown, order, watches⟩ :=
      watching.stamped wasUnblocked check (ends.rxChecks ▸ member) seen
    refine ⟨stamp, stampMember, stampShown, ?_, watches⟩
    rw [evaluated]
    exact (order.trans timely.evaluated).trans passes
  · have same := @request_ignored hooks state.layer (shown time) param1 drops
    have idle : state.advance hooks time (.dropPermission param1) = { state with now := time } := by
      unfold ClockedLayer.advance SafetyCall.evaluates
      simp [same, drops]
    rw [idle]
    exact
      { settled := watching.settled
        granted := watching.granted
        withheld := fun refused later reached => watching.withheld refused later (passes.trans reached)
        stamped := watching.stamped }

theorem Watching.heartbeat (watching : Watching hooks state)
    (session : state.layer.sessionProfile ≠ 0) :
    Watching hooks (state.advance hooks time .heartbeatAbort) := by
  have aborted := state.layer.toFirmware.abort_eq session
  have silenced : (state.advance hooks time .heartbeatAbort).layer.sessionBlocked = true := by
    show state.layer.toFirmware.abort.sessionBlocked = true
    rw [aborted]
  exact
    { settled := @settled_heartbeat hooks state.layer (shown time) watching.settled session
      granted := fun allowed => by cases allowed
      withheld := fun _ later _ _ => permitted_of_blocked silenced
      stamped := stamped_of_silenced silenced }

theorem watching_modeChange {mode param : UInt16} (session : requestedProfile mode param ≠ 0) :
    Watching hooks (state.advance hooks time (.setSafetyHooks mode param)) := by
  have changed := @modeChanged hooks (shown time) mode param state.layer session
  have unseen (check : RxCheck)
      (member : check ∈ (state.advance hooks time (.setSafetyHooks mode param)).layer.rxChecks) :
      check.msgSeen = false := by
    have started : check ∈ (hooks.canfdChecks param).map fun addr => ({ addr := addr } : RxCheck) :=
      changed.rxChecks ▸ member
    obtain ⟨addr, -, rfl⟩ := List.mem_map.mp started
    rfl
  exact
    { settled := changed.toSettled
      granted := fun allowed => by
        rw [show (state.advance hooks time (.setSafetyHooks mode param)).layer.controlsAllowed =
          false from changed.controls] at allowed
        cases allowed
      withheld := fun _ later _ _ => by
        rw [← Bool.not_eq_true]
        intro permitted
        obtain ⟨-, ready, -⟩ := permitted_iff.mp permitted
        obtain ⟨⟨-, -, -, -, some⟩, passed⟩ := ready_iff.mp ready
        obtain ⟨check, member⟩ := List.exists_mem_of_ne_nil _ some
        have seen := (passed check member).1
        rw [unseen check member] at seen
        cases seen
      stamped := fun _ check member seen => by
        rw [unseen check member] at seen
        cases seen }

end Call

/-! ## Runs from power-up -/

section Run
variable {hooks : OpendbcHooks} {state next : ClockedLayer} {time : Nat} {call : SafetyCall}
  {event : Nat × SafetyCall}

open Firmware SafetyLayer

/-- The invariant of every run from power-up. -/
structure PermissionInvariant (hooks : OpendbcHooks) (state : ClockedLayer) : Prop where
  timely : Timely state
  watching : state.layer.sessionProfile ≠ 0 → Watching hooks state

theorem step_eq (step : hooks.timed.step state event = some next) :
    state.now ≤ event.1 ∧ event.1 ≤ state.lastTick + tickPeriod ∧
      next = state.advance hooks event.1 event.2 := by
  have taken : (if state.now ≤ event.1 ∧ event.1 ≤ state.lastTick + tickPeriod then
      some (state.advance hooks event.1 event.2) else none) = some next := step
  split at taken
  · next enabled => exact ⟨enabled.1, enabled.2, (Option.some.inj taken).symm⟩
  · cases taken

theorem PermissionInvariant.step (documented : hooks.Documented)
    (inv : PermissionInvariant hooks state) (step : hooks.timed.step state event = some next) :
    PermissionInvariant hooks next := by
  obtain ⟨time, call⟩ := event
  obtain ⟨passes, due, rfl⟩ := step_eq step
  refine ⟨inv.timely.advance passes due, fun session => ?_⟩
  cases call with
  | setSafetyHooks mode param =>
      refine watching_modeChange fun none => session ?_
      exact setSafetyHooks_profile.trans none
  | rx msg =>
      by_cases idle : state.layer.sessionProfile = 0
      · exact absurd (idle_call documented idle (fun _ _ same => by cases same)) session
      · exact (inv.watching idle).rx documented inv.timely idle passes msg
  | tick =>
      by_cases idle : state.layer.sessionProfile = 0
      · exact absurd (idle_call documented idle (fun _ _ same => by cases same)) session
      · exact (inv.watching idle).tick documented inv.timely idle passes due
  | dropPermission param1 =>
      by_cases idle : state.layer.sessionProfile = 0
      · exact absurd (idle_call documented idle (fun _ _ same => by cases same)) session
      · exact (inv.watching idle).request documented inv.timely idle passes param1
  | heartbeatAbort =>
      by_cases idle : state.layer.sessionProfile = 0
      · exact absurd (idle_call documented idle (fun _ _ same => by cases same)) session
      · exact (inv.watching idle).heartbeat idle

theorem powerUp_invariant (start : Nat) :
    PermissionInvariant hooks (ClockedLayer.powerUp start) where
  timely := ⟨le_rfl, le_rfl, Nat.le_add_right ..⟩
  watching := fun session => absurd rfl session

theorem Watching.grounds (documented : hooks.Documented) (watching : Watching hooks state)
    (timely : Timely state) (allowed : state.layer.controlsAllowed = true) :
    PermissionGrounds hooks state := by
  obtain ⟨mode, ready, selected⟩ := permitted_iff.mp (watching.granted allowed)
  obtain ⟨session, passed⟩ := ready_iff.mp ready
  refine ⟨mode, session.2.1, selected, fun check member => ?_⟩
  obtain ⟨seen, checksum, quality, counters, age⟩ := passed check member
  obtain ⟨stamp, stampMember, stampShown, order, watches⟩ :=
    watching.stamped session.2.1 check member seen
  refine ⟨seen, checksum, quality, counters, stamp, stampMember, stampShown, order, ?_⟩
  have near : state.evaluated < stamp + lap := watches.near (timely.evaluated.trans timely.due)
  rw [documented.elapsed, stampShown, UInt32.le_iff_toNat_le, shown_difference order near] at age
  have limit : (100000 : UInt32).toNat = 100000 := rfl
  omega

/-- Request 0xB8 evaluates the permission anew, but only after time has passed and a channel may
have gone. -/
theorem Watching.request_grants_nothing (watching : Watching hooks state)
    (session : state.layer.sessionProfile ≠ 0) (passes : state.now ≤ time)
    (due : time ≤ state.lastTick + tickPeriod) :
    NothingGranted state.layer.toFirmware
      (state.layer.call hooks (shown time) (.dropPermission 1)).toFirmware := by
  have ends := @request_enforced hooks state.layer (shown time) session
  have lateral (off : state.layer.sessionLateral = false) :
      (state.layer.call hooks (shown time) (.dropPermission 1)).sessionLateral = false := by
    rw [ends.lateral, watching.settled.lateral, off, Bool.false_and]
  have longitudinal :
      (state.layer.call hooks (shown time) (.dropPermission 1)).sessionLongitudinal = false := by
    rw [ends.longitudinal, Bool.false_and]
  refine ⟨fun withheld => ?_, lateral, fun _ => longitudinal⟩
  rw [ends.controls, ← Bool.not_eq_true]
  intro permitted
  obtain ⟨mode, ready, selected⟩ := permitted_iff.mp permitted
  obtain ⟨⟨_, unblocked, relay, invalid, some⟩, passed⟩ := ready_iff.mp ready
  rw [longitudinal, Bool.or_false] at selected
  have refused := watching.withheld withheld time passes due
  rw [← Bool.not_eq_true] at refused
  refine refused (permitted_iff.mpr ⟨ends.mode.symm.trans mode, ready_iff.mpr ⟨?_, ?_⟩, ?_⟩)
  · have cleared := Bool.or_eq_false_iff.mp (ends.blocked.symm.trans unblocked)
    exact ⟨session, cleared.1, ends.relay.symm.trans relay, ends.invalid.symm.trans invalid,
      ends.rxChecks ▸ some⟩
  · exact fun check member => passed check (ends.rxChecks.symm ▸ member)
  · cases on : state.layer.sessionLateral with
    | true => exact Bool.true_or _
    | false =>
        rw [lateral on] at selected
        cases selected

/-- In every run from power-up a session that allows controls is in HYUNDAI_CANFD, unblocked and
with a channel selected, and each of its checks had been valid and received within 100 ms when
the permission was last evaluated; request 0xB8 never grants anything. -/
theorem session_permission (hooks : OpendbcHooks) (documented : hooks.Documented) (start : Nat)
    (events : List (Nat × SafetyCall)) (state : ClockedLayer)
    (run : hooks.timed.exec (ClockedLayer.powerUp start) events = some state) :
    (state.layer.sessionProfile ≠ 0 → state.layer.controlsAllowed = true →
        PermissionGrounds hooks state) ∧
      ∀ time param1 next,
        hooks.timed.step state (time, .dropPermission param1) = some next →
          NothingGranted state.layer.toFirmware next.layer.toFirmware := by
  have inv : PermissionInvariant hooks state :=
    hooks.timed.exec_invariant (PermissionInvariant hooks)
      (fun _ _ _ held step => held.step documented step) events _ _ (powerUp_invariant start) run
  refine ⟨fun session allowed => (inv.watching session).grounds documented inv.timely allowed, ?_⟩
  intro time param1 next step
  obtain ⟨passes, due, rfl⟩ := step_eq step
  by_cases drops : param1 = 1 ∧ state.layer.sessionProfile ≠ 0
  · obtain ⟨rfl, session⟩ := drops
    exact (inv.watching session).request_grants_nothing session passes due
  · have ignored : state.layer.toFirmware.dropPermission hooks.toOpendbc (shown time) param1 =
        state.layer.toFirmware := if_neg (by simpa using drops)
    have same : (state.advance hooks time (.dropPermission param1)).layer.toFirmware =
        state.layer.toFirmware := ignored
    rw [same]
    exact ⟨id, id, id⟩

end Run

/-! ## LDA across a lap of the timer -/

def ldaAcrossLap : List (Nat × SafetyCall) :=
  [(4294900000, .setSafetyHooks safetyHyundaiCanfd sessionParam),
    (4294910000, .rx (brakeMsg false)), (4294920000, .rx (buttonsMsg 0)),
    (4294930000, .tick),
    (4294960000, .rx { addr := 0x1CF, bus := 0, data := [0, 0, 0x80, 0, 0, 0, 0, 0] }),
    (4294980000, .rx (brakeMsg false)), (4294990000, .tick)]

def lateralSession : ClockedLayer :=
  ((validHooks.timed.exec (ClockedLayer.powerUp 4294900000) ldaAcrossLap).get (by decide +kernel))

theorem lateral_session_permission :
    lateralSession.layer.controlsAllowed = true ∧ PermissionGrounds validHooks lateralSession ∧
      ∀ time param1 next,
        validHooks.timed.step lateralSession (time, .dropPermission param1) = some next →
          NothingGranted lateralSession.layer.toFirmware next.layer.toFirmware := by
  have permission := session_permission validHooks validHooks_documented 4294900000 ldaAcrossLap
    lateralSession (Option.some_get _).symm
  have allowed : lateralSession.layer.controlsAllowed = true := by decide +kernel
  exact ⟨allowed, permission.1 (by decide +kernel) allowed, permission.2⟩

end Ioniq5Ecan
