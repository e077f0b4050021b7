import Ioniq5Ecan.Node.HealthEpoch

/-! # Samples across mode changes

A sample the receive loop stores was read outside of every transition, and it
replaces no sample of a transition that began after its read did, as long as
the epoch does not come round between the load and the comparison. -/
set_option autoImplicit false
namespace Ioniq5Ecan

open Library (EventSystem LockView LockStep SeqLock)

/-! ## The epoch -/

structure MutexesGuarded (state : HealthState) : Prop where
  mode : modeLock.Guarded state
  health : healthLock.Guarded state

section Epoch
variable {state next : HealthState} {event : HealthEvent}

theorem begin_move {changer : Changer} {site : ChangeSite}
    (step : healthStep state (.begin changer site) = some next) :
    ChangeMove state changer next := by
  simp only [healthStep] at step
  split at step
  · rename_i idle
    cases Option.some.inj step
    exact .stays (by rw [idle.1]; rfl) _ (by rw [idle.1]; exact ⟨rfl, rfl, rfl⟩)
  · cases step

theorem guarded_healthStep (guarded : MutexesGuarded state)
    (step : healthStep state event = some next) : MutexesGuarded next := by
  have changed {changer : Changer} (move : ChangeMove state changer next) : MutexesGuarded next :=
    ⟨guarded.mode.step (change_modeLock move), guarded.health.step (change_healthLock move)⟩
  cases event with
  | begin changer site => exact changed (begin_move step)
  | change changer input => exact changed (change_move step)
  | poll input =>
      exact ⟨guarded.mode.step (poll_modeLock step), guarded.health.step (poll_healthLock step)⟩

theorem actuation_of_inTransition {point : ChangePoint} (inside : point.inTransition = true) :
    point.holdsActuation = true := by
  cases point <;> first | rfl | exact inside

theorem inTransition_holder (guarded : MutexesGuarded state) {changer : Changer}
    (holds : (state.change changer).holdsActuation = true) :
    state.inTransition = (state.change changer).inTransition := by
  have others : ∀ other, other ≠ changer → (state.change other).inTransition = false := by
    intro other different
    by_contra inside
    have second := actuation_of_inTransition (Bool.not_eq_false _ ▸ inside)
    rw [← modeLock_changer] at holds second
    have same := guarded.mode.exclusive second holds
    cases other <;> cases changer <;> first | exact different rfl | cases same
  cases changer with
  | main => simp [HealthState.inTransition, others .control nofun]
  | control => simp [HealthState.inTransition, others .main nofun]

theorem inTransition_same {changer : Changer}
    (own : (next.change changer).inTransition = (state.change changer).inTransition)
    (others : ∀ other, other ≠ changer → next.change other = state.change other) :
    next.inTransition = state.inTransition := by
  have all : ∀ other, (next.change other).inTransition = (state.change other).inTransition := by
    intro other
    by_cases same : other = changer
    · rw [same, own]
    · rw [others other same]
  simp only [HealthState.inTransition, all]

/-- A changer's step increments the epoch exactly where it opens or closes a transition. -/
theorem change_counts {changer : Changer} (guarded : MutexesGuarded state)
    (after : MutexesGuarded next) (move : ChangeMove state changer next) (input : HealthInput) :
    epochLock.Counts state (.change changer input) next := by
  have others := (change_frame move).2
  have still (bumps : epochBumps state (.change changer input) = false)
      (epoch : next.epoch = state.epoch)
      (own : (next.change changer).inTransition = (state.change changer).inTransition) :
      epochLock.Counts state (.change changer input) next :=
    ⟨fun bumped => absurd (bumps.symm.trans bumped) nofun,
      fun _ => ⟨congrArg UInt64.toNat epoch, inTransition_same own others⟩⟩
  have bumped (bumps : epochBumps state (.change changer input) = true)
      (epoch : next.epoch = state.epoch + 1)
      (before : (state.change changer).holdsActuation = true)
      (later : (next.change changer).holdsActuation = true)
      (flips : (next.change changer).inTransition = !(state.change changer).inTransition) :
      epochLock.Counts state (.change changer input) next := by
    refine ⟨fun _ => ⟨?_, ?_⟩, fun stays => absurd (bumps.symm.trans stays) nofun⟩
    · show next.epoch.toNat = (state.epoch.toNat + 1) % 2 ^ 64
      rw [epoch, UInt64.toNat_add]
      rfl
    · show next.inTransition = !state.inTransition
      rw [inTransition_holder after later, inTransition_holder guarded before, flips]
  cases move with
  | stays silent point place =>
      refine still ?_ rfl (by rw [setChange_self, place.transition])
      revert silent
      simp only [epochBumps]
      cases state.change changer <;> first | exact fun _ => rfl | exact nofun
  | lock site point free =>
      exact still (by simp only [epochBumps, point]) rfl (by rw [setChange_self, point]; rfl)
  | construct site point =>
      exact bumped (by simp only [epochBumps, point]) rfl (by rw [point]; rfl)
        (by rw [setChange_self]; rfl) (by rw [setChange_self, point]; rfl)
  | lockHealth site read point free after inside transition =>
      exact still (by simp only [epochBumps, point]) rfl (by rw [setChange_self, transition])
  | storeHealth site health point =>
      exact still (by simp only [epochBumps, point]) rfl (by rw [setChange_self, point]; rfl)
  | unlockHealth site point after outside transition =>
      exact still (by simp only [epochBumps, point]) rfl (by rw [setChange_self, transition])
  | destruct site returned point =>
      exact bumped (by simp only [epochBumps, point]) rfl (by rw [point]; rfl)
        (by rw [setChange_self]; rfl) (by rw [setChange_self, point]; rfl)
  | unlock site returned point after ended =>
      exact still (by simp only [epochBumps, point]) rfl (by rw [setChange_self, ended, point]; rfl)

theorem epoch_counts (guarded : MutexesGuarded state)
    (step : healthStep state event = some next) : epochLock.Counts state event next := by
  have after := guarded_healthStep guarded step
  cases event with
  | begin changer site =>
      have counts := change_counts guarded after (begin_move step) {}
      have idle : state.change changer = .idle := by
        simp only [healthStep] at step
        split at step
        · rename_i idle
          exact idle.1
        · cases step
      exact ⟨nofun, fun _ => counts.still (by simp only [epochLock, epochBumps, idle])⟩
  | change changer input => exact change_counts guarded after (change_move step) input
  | poll input =>
      obtain ⟨change, epoch⟩ := poll_frame step
      refine ⟨nofun, fun _ => ⟨congrArg UInt64.toNat epoch, ?_⟩⟩
      simp only [epochLock, HealthState.inTransition, change]

/-! ## The read -/

structure EpochSound (state : HealthState) : Prop where
  guarded : MutexesGuarded state
  balanced : epochLock.Balanced state

theorem epochSound_initial : EpochSound {} := by
  refine ⟨⟨?_, ?_⟩, ⟨?_, ?_⟩⟩
  · intro thread inside
    cases thread <;> cases inside
  · intro thread inside
    cases thread <;> cases inside
  · decide
  · decide

theorem epochSound_step (sound : EpochSound state)
    (step : healthStep state event = some next) : EpochSound next :=
  ⟨guarded_healthStep sound.guarded step,
    sound.balanced.step (by decide) (epoch_counts sound.guarded step)⟩

/-- Without another load, a read in progress keeps the epoch it began with, and no sample
gets past the comparison. -/
theorem read_kept {epoch : UInt64} (step : healthStep state event = some next)
    (unloaded : ¬ HealthTaken.loads (state, event))
    (kept : ∀ read, state.poll.readEpoch = some read → read = epoch) :
    ∀ read, next.poll.readEpoch = some read → read = epoch := by
  cases event with
  | begin changer site => rwa [(change_frame (begin_move step)).1]
  | change changer input => rwa [(change_frame (change_move step)).1]
  | poll input =>
      cases poll_move step with
      | stays _ _ after _ _ read => exact fun found same => kept found (read found same)
      | load point => exact absurd ⟨point, input, rfl⟩ unloaded
      | lockMode _ _ _ after _ read =>
          intro found same
          change after.readEpoch = some found at same
          rw [read] at same
          cases same
      | unlockMode _ after _ _ read =>
          intro found same
          change after.readEpoch = some found at same
          rw [read] at same
          cases same
      | lockHealth _ _ _ after _ read => exact fun found same => kept found (read found same)
      | compare found health =>
          intro other same
          change (if _ then _ else _ : PollPoint).readEpoch = some other at same
          split at same <;> cases same
      | storeHealth | clearHealth | unlockHealth => exact nofun

def PollPoint.past (point : PollPoint) : Prop := point.readEpoch = none ∧ point.stores = false

theorem past_step (step : healthStep state event = some next)
    (unloaded : ¬ HealthTaken.loads (state, event))
    (past : state.poll.past ∨ state.poll.stores = true ∧ ∃ input, event = .poll input) :
    next.poll.past := by
  cases event with
  | begin changer site =>
      rw [(change_frame (begin_move step)).1]
      exact past.resolve_right (by rintro ⟨_, _, same⟩; cases same)
  | change changer input =>
      rw [(change_frame (change_move step)).1]
      exact past.resolve_right (by rintro ⟨_, _, same⟩; cases same)
  | poll input =>
      have ended {epoch : UInt64} (reads : state.poll.readEpoch = some epoch) : False := by
        rcases past with past | ⟨stores, _⟩
        · exact absurd (past.1.symm.trans reads) nofun
        · revert reads stores
          cases state.poll <;> nofun
      have unread {after : PollPoint}
          (read : ∀ epoch, after.readEpoch = some epoch → state.poll.readEpoch = some epoch) :
          after.readEpoch = none := by
        cases found : after.readEpoch with
        | none => rfl
        | some epoch => exact absurd (read epoch found) ended
      cases poll_move step with
      | stays _ _ after _ _ read stores => exact ⟨unread read, stores⟩
      | load point => exact absurd ⟨point, input, rfl⟩ unloaded
      | lockMode _ _ _ after _ read stores => exact ⟨read, stores⟩
      | unlockMode _ after _ _ read stores => exact ⟨read, stores⟩
      | lockHealth _ _ _ after _ read stores => exact ⟨unread read, stores⟩
      | compare epoch health point =>
          have reads : state.poll.readEpoch = some epoch := by rw [point]; rfl
          exact (ended reads).elim
      | storeHealth | clearHealth | unlockHealth => exact ⟨rfl, rfl⟩

/-- While the receive loop holds `health_mutex_`, no changer stores. -/
theorem no_store_beside (sound : EpochSound state) (holds : state.poll.holdsHealth = true)
    (changer : Changer) : ¬ HealthTaken.storesInTransition changer (state, event) := by
  rintro ⟨site, health, input, point, _, _⟩
  have inside : healthLock.inside state changer.thread = true := by
    rw [healthLock_changer, point]
    rfl
  have receiving : healthLock.inside state .receive = true := holds
  have same := sound.guarded.health.exclusive inside receiving
  cases changer <;> cases same

theorem inTransition_of_store {taken : HealthTaken} {changer : Changer}
    (stores : taken.storesInTransition changer) : taken.1.inTransition = true := by
  obtain ⟨site, health, input, point, inside, _⟩ := stores
  have own : (taken.1.change changer).inTransition = true := by
    rw [point]
    exact inside
  cases changer <;> simp [HealthState.inTransition, own]

theorem holdsHealth_of_stores {point : PollPoint} (stores : point.stores = true) :
    point.holdsHealth = true := by
  cases point <;> first | rfl | cases stores

/-- From a comparison on: either the poll waits at its store, and no changer has stored, or it is
past it. -/
def StoreWaits (history : List HealthTaken) (state : HealthState) : Prop :=
  EpochSound state ∧ (state.poll.past ∨
    state.poll.stores = true ∧ ∀ taken ∈ history, ∀ changer, ¬ taken.storesInTransition changer)

theorem waiting_step {history : List HealthTaken} (waiting : StoreWaits history state)
    (unloaded : ¬ HealthTaken.loads (state, event))
    (step : healthStep state event = some next) : StoreWaits ((state, event) :: history) next := by
  refine ⟨epochSound_step waiting.1 step, ?_⟩
  rcases waiting.2 with past | ⟨stores, none⟩
  · exact Or.inl (past_step step unloaded (Or.inl past))
  · have beside : ∀ changer, ¬ HealthTaken.storesInTransition changer (state, event) :=
      no_store_beside waiting.1 (holdsHealth_of_stores stores)
    cases event with
    | begin changer site =>
        refine Or.inr ⟨?_, List.forall_mem_cons.mpr ⟨beside, none⟩⟩
        rw [(change_frame (begin_move step)).1]
        exact stores
    | change changer input =>
        refine Or.inr ⟨?_, List.forall_mem_cons.mpr ⟨beside, none⟩⟩
        rw [(change_frame (change_move step)).1]
        exact stores
    | poll input => exact Or.inl (past_step step unloaded (Or.inr ⟨stores, input, rfl⟩))

end Epoch

/-! ## Runs -/

/-- The sample in `latest_health_` was stored inside a transition that began in these steps,
the newest of which comes first. -/
def HoldsNewer (steps : List HealthTaken) : Prop :=
  ∃ changer newer stored between constructed older,
    steps = newer ++ stored :: (between ++ constructed :: older) ∧
    constructed.constructs changer ∧ (∀ taken ∈ between, ¬ taken.constructs changer) ∧
    stored.storesInTransition changer ∧ ∀ taken ∈ newer, ¬ taken.storesHealth

/-- A run up to a store of the receive loop, split at the load its read began with and at the
comparison it passed. -/
structure ReadToStore (events : List HealthEvent) (final : HealthState)
    (storing : List HealthTaken) (compare : HealthTaken) (reading : List HealthTaken)
    (load : HealthTaken) (earlier : List HealthTaken) : Prop where
  run : healthSystem.exec {} events = some final
  split : healthSystem.history {} events = storing ++ compare :: (reading ++ load :: earlier)
  loads : load.loads
  compares : compare.compares
  unloaded : ∀ taken ∈ storing ++ compare :: reading, ¬ taken.loads
  stores : final.poll.stores = true

section Read
variable {events : List HealthEvent} {state final : HealthState}
  {storing reading earlier : List HealthTaken} {compare load : HealthTaken}

theorem epochSound_run (run : healthSystem.exec {} events = some final) : EpochSound final :=
  healthSystem.exec_invariant EpochSound (fun _ _ _ sound step => epochSound_step sound step) events
    {} final epochSound_initial run

theorem compare_epoch {found : UInt64} {health : PandaHealth}
    (run : healthSystem.exec load.1 events = some compare.1)
    (history : healthSystem.history load.1 events = reading ++ [load])
    (loads : load.loads) (unloaded : ∀ taken ∈ reading, ¬ taken.loads)
    (point : compare.1.poll = .compare found health) : found = load.1.epoch := by
  obtain ⟨before, after, _, reached, _, left, past⟩ :=
    healthSystem.history_split events load.1 compare.1 reading load [] run history
  obtain ⟨next, step, tail⟩ := EventSystem.exec_cons left
  obtain ⟨loading, input, isPoll⟩ := loads
  have begun : next.poll = .readHealth load.1.epoch := by
    change healthStep load.1 load.2 = some next at step
    rw [isPoll] at step
    simp only [healthStep, pollStep, loading] at step
    cases Option.some.inj step
    rfl
  have later : healthSystem.history next after = reading := by
    simp only [EventSystem.history, step] at past
    exact (List.append_inj' past rfl).1
  have kept := healthSystem.exec_keeps
    (fun state => ∀ read, state.poll.readEpoch = some read → read = load.1.epoch)
    (fun state event => ¬ HealthTaken.loads (state, event))
    (fun _ _ _ kept unloaded step => read_kept step unloaded kept) after next compare.1
    (by
      intro read same
      rw [begun] at same
      exact (Option.some.inj same).symm)
    (healthSystem.meets_of_history after next (by rw [later]; exact unloaded) compare.1 tail) tail
  exact kept found (by rw [point]; rfl)

/-- The comparison passes an even epoch that has not moved, or the poll is past its store. -/
theorem compare_step {next : HealthState} {event : HealthEvent} {found : UInt64}
    {health : PandaHealth} (step : healthStep state event = some next)
    (isPoll : ∃ input, event = .poll input) (point : state.poll = .compare found health) :
    next.poll.stores = true ∧ found % 2 = 0 ∧ found = state.epoch ∨ next.poll.past := by
  obtain ⟨input, rfl⟩ := isPoll
  simp only [healthStep, pollStep, point] at step
  cases Option.some.inj step
  by_cases passes : (found % 2 == 0 && found == state.epoch) = true
  · left
    rw [if_pos passes]
    exact ⟨rfl, by simpa using passes⟩
  · right
    rw [if_neg passes]
    exact ⟨rfl, rfl⟩

theorem compare_passed (sound : EpochSound compare.1) {found : UInt64} {health : PandaHealth}
    (run : healthSystem.exec compare.1 events = some final)
    (history : healthSystem.history compare.1 events = storing ++ [compare])
    (compares : compare.compares) (unloaded : ∀ taken ∈ storing, ¬ taken.loads)
    (stores : final.poll.stores = true) (point : compare.1.poll = .compare found health) :
    (found % 2 = 0 ∧ found = compare.1.epoch) ∧
      ∀ taken ∈ storing, ∀ changer, ¬ taken.storesInTransition changer := by
  obtain ⟨before, after, _, _, _, left, past⟩ :=
    healthSystem.history_split events compare.1 final storing compare [] run history
  obtain ⟨next, step, tail⟩ := EventSystem.exec_cons left
  have later : healthSystem.history next after = storing := by
    simp only [EventSystem.history, step] at past
    exact (List.append_inj' past rfl).1
  have met : healthSystem.Meets (fun state event => ¬ HealthTaken.loads (state, event)) next after :=
    healthSystem.meets_of_history after next (by rw [later]; exact unloaded) final tail
  rcases compare_step step compares.2 point with ⟨waits, passed⟩ | gone
  · refine ⟨passed, ?_⟩
    have waiting := healthSystem.history_invariant StoreWaits _
      (fun _ _ _ _ waiting unloaded step => waiting_step waiting unloaded step) after [] next final
      ⟨epochSound_step sound step, Or.inr ⟨waits, by simp⟩⟩ met tail
    rw [later, List.append_nil] at waiting
    rcases waiting.2 with past | ⟨_, none⟩
    · exact absurd (past.2.symm.trans stores) (by rintro ⟨⟩)
    · exact none
  · have past := healthSystem.exec_keeps (fun state => state.poll.past) _
      (fun _ _ _ past unloaded step => past_step step unloaded (Or.inl past)) after next final
      gone met tail
    exact absurd (past.2.symm.trans stores) (by rintro ⟨⟩)

/-- Between the load and the comparison nobody was in a transition, and from the load to the
store no changer stored inside one. -/
theorem read_outside (read : ReadToStore events final storing compare reading load earlier)
    (few : epochLock.bumpCount reading < 2 ^ 64) :
    (∀ taken ∈ compare :: (reading ++ [load]), taken.1.inTransition = false) ∧
      ∀ taken ∈ storing ++ compare :: reading, ∀ changer, ¬ taken.storesInTransition changer := by
  obtain ⟨before, after, _, reached, _, left, history⟩ :=
    healthSystem.history_split events {} final (storing ++ compare :: reading) load earlier read.run
      (by rw [read.split]; simp)
  obtain ⟨toCompare, fromCompare, _, middle, past, right, future⟩ :=
    healthSystem.history_split _ load.1 final storing compare (reading ++ [load]) left
      (by rw [history]; simp)
  have soundLoad := epochSound_run reached
  have soundCompare : EpochSound compare.1 := healthSystem.exec_invariant EpochSound
    (fun _ _ _ sound step => epochSound_step sound step) toCompare load.1 compare.1 soundLoad middle
  have unloadedStoring : ∀ taken ∈ storing, ¬ taken.loads :=
    fun taken member => read.unloaded taken (List.mem_append_left _ member)
  have unloadedReading : ∀ taken ∈ reading, ¬ taken.loads := fun taken member =>
    read.unloaded taken (List.mem_append_right _ (List.mem_cons_of_mem _ member))
  obtain ⟨found, health, point⟩ := read.compares.1
  obtain ⟨⟨even, same⟩, noneAfter⟩ :=
    compare_passed soundCompare right future read.compares unloadedStoring read.stores point
  have loaded := compare_epoch middle past read.loads unloadedReading point
  have loadStays : epochLock.bumps load.1 load.2 = false := by
    obtain ⟨_, input, isPoll⟩ := read.loads
    rw [isPoll]
    rfl
  have count : epochLock.bumpCount (reading ++ [load]) = epochLock.bumpCount reading := by
    simp [SeqLock.bumpCount, loadStays]
  have counts (state : HealthState) (event : HealthEvent) (next : HealthState)
      (sound : EpochSound state) (step : healthSystem.step state event = some next) :
      epochLock.Counts state event next := epoch_counts sound.guarded step
  obtain ⟨last, all⟩ := SeqLock.unmoved
    (fun _ _ _ sound step => epochSound_step sound step) counts soundLoad soundLoad.balanced middle
    (by rw [past, count]; exact few)
    (by show compare.1.epoch.toNat = load.1.epoch.toNat; rw [← same, loaded])
    (by
      show load.1.epoch.toNat % 2 = 0
      rw [← loaded]
      simpa using congrArg UInt64.toNat even)
  rw [past] at all
  have outside : ∀ taken ∈ compare :: (reading ++ [load]), taken.1.inTransition = false :=
    List.forall_mem_cons.mpr ⟨last, fun taken member => (all taken member).1⟩
  refine ⟨outside, ?_⟩
  intro taken member changer stores
  rcases List.mem_append.mp member with member | member
  · exact noneAfter taken member changer stores
  · have held := inTransition_of_store stores
    have free := outside taken (by
      rcases List.mem_cons.mp member with rfl | member
      · exact List.mem_cons_self ..
      · exact List.mem_cons_of_mem _ (List.mem_append_left _ member))
    exact absurd (free.symm.trans held) (by rintro ⟨⟩)

theorem stored_sample_fresh (read : ReadToStore events final storing compare reading load earlier)
    (few : epochLock.bumpCount reading < 2 ^ 64) :
    (∀ taken ∈ compare :: (reading ++ [load]), taken.1.inTransition = false) ∧
      ¬ HoldsNewer (storing ++ compare :: reading) := by
  obtain ⟨outside, none⟩ := read_outside read few
  refine ⟨outside, ?_⟩
  rintro ⟨changer, newer, stored, between, constructed, older, split, _, _, stores, _⟩
  exact none stored (by rw [split]; simp) changer stores

end Read

def pollAt (point : PollPoint) (mutex : Option ThreadId) : HealthTaken :=
  ({ poll := point, healthMutex := mutex }, .poll {})

def storePending : HealthState := { poll := .storeHealth {}, healthMutex := some .receive }

def lockPending : HealthState := storePending.setChange .control (.lock .restore)

def constructPending : HealthState :=
  ({ lockPending with actuationMutex := some .control } : HealthState).setChange .control
    (.construct .restore)

def overtaking : List HealthTaken :=
  [(constructPending, .change .control {}), (lockPending, .change .control {}),
    (storePending, .begin .control .restore)]

theorem overtaken_store_fresh :
    (∀ taken ∈ pollAt (.compare 0 {}) (some .receive) ::
        ([pollAt (.lockHealth 0 {}) none, pollAt (.readHealth 0) none] ++
          [pollAt .loadEpoch none]), taken.1.inTransition = false) ∧
      ¬ HoldsNewer (overtaking ++ pollAt (.compare 0 {}) (some .receive) ::
        [pollAt (.lockHealth 0 {}) none, pollAt (.readHealth 0) none]) := by
  have unloaded {state : HealthState} {event : HealthEvent} (point : state.poll ≠ .loadEpoch) :
      ¬ HealthTaken.loads (state, event) := fun loads => point loads.1
  have split : healthSystem.history {} (List.replicate 5 (.poll {}) ++
      [.begin .control .restore, .change .control {}, .change .control {}]) =
      overtaking ++ pollAt (.compare 0 {}) (some .receive) ::
        ([pollAt (.lockHealth 0 {}) none, pollAt (.readHealth 0) none] ++
          pollAt .loadEpoch none :: [({}, .poll {})]) := rfl
  refine stored_sample_fresh ⟨rfl, split, ⟨rfl, _, rfl⟩, ⟨⟨0, {}, rfl⟩, _, rfl⟩, ?_, rfl⟩ (by decide)
  simp only [overtaking, pollAt, List.cons_append, List.nil_append, List.forall_mem_cons]
  exact ⟨unloaded nofun, unloaded nofun, unloaded nofun, unloaded nofun, unloaded nofun,
    unloaded nofun, by simp⟩

/-! ## The epoch comes round -/

def confirmedHealth : PandaHealth := { connected := true }

def restoration : List HealthEvent :=
  .begin .control .restore :: List.replicate 8 (.change .control { health := some confirmedHealth })

def pollWaits (epoch : UInt64) (latest : PandaHealth) : HealthState where
  epoch := epoch
  latestHealth := latest
  poll := .lockHealth 0 {}

theorem restoration_exec (count : Nat) (latest : PandaHealth) :
    healthSystem.exec (pollWaits (.ofNat count) latest) restoration =
      some (pollWaits (.ofNat (count + 2)) confirmedHealth) := by
  have twice : UInt64.ofNat count + 1 + 1 = UInt64.ofNat (count + 2) := by
    rw [UInt64.ofNat_add, UInt64.add_assoc]
    rfl
  rw [← twice]
  refine congrArg some ?_
  show HealthState.mk _ _ _ _ _ _ = HealthState.mk _ _ _ _ _ _
  congr 1
  funext changer
  cases changer <;> rfl

def ChangePoint.storing : ChangePoint → Bool
  | .storeHealth _ _ => true
  | _ => false

theorem restoration_holdsNewer (epoch : UInt64) (latest : PandaHealth) :
    HoldsNewer (healthSystem.history (pollWaits epoch latest) restoration) := by
  refine ⟨.control, [_, _, _], _, [_, _], _, [_, _], rfl, ⟨.restore, _, rfl, rfl⟩, ?_,
    ⟨.restore, confirmedHealth, _, rfl, rfl, rfl⟩, ?_⟩
  · simp only [List.forall_mem_cons]
    refine ⟨?_, ?_, by simp⟩
    · rintro ⟨site, input, point, _⟩
      cases point
    · rintro ⟨site, input, point, _⟩
      cases point
  · have unstored {state : HealthState} {input : HealthInput}
        (other : (state.change .control).storing = false) :
        ¬ HealthTaken.storesHealth (state, .change .control input) := by
      rintro (⟨changer, site, health, _, stores, same⟩ | ⟨_, _, same⟩)
      · cases same
        change state.change .control = _ at stores
        rw [stores] at other
        cases other
      · cases same
    simp only [List.forall_mem_cons]
    exact ⟨unstored rfl, unstored rfl, unstored rfl, by simp⟩

def restorations (count : Nat) : List HealthEvent := (List.replicate count restoration).flatten

theorem restorations_before (more : Nat) : ∀ count latest, ∃ before,
    healthSystem.exec (pollWaits (.ofNat count) latest) (restorations more) =
      some (pollWaits (.ofNat (count + 2 * more)) before) := by
  induction more with
  | zero => intro count latest; exact ⟨latest, rfl⟩
  | succ more ih =>
      intro count latest
      have split : restorations (more + 1) = restoration ++ restorations more := by
        simp [restorations, List.replicate_succ]
      obtain ⟨before, reached⟩ := ih (count + 2) confirmedHealth
      refine ⟨before, ?_⟩
      rw [split, EventSystem.exec_append, restoration_exec]
      refine reached.trans ?_
      congr 3
      omega

theorem HoldsNewer.extend {steps : List HealthTaken} (newer : HoldsNewer steps)
    (later earlier : List HealthTaken) (unstored : ∀ taken ∈ later, ¬ taken.storesHealth) :
    HoldsNewer (later ++ (steps ++ earlier)) := by
  obtain ⟨changer, after, stored, between, constructed, older, rfl, constructs, only, stores, last⟩ :=
    newer
  refine ⟨changer, later ++ after, stored, between, constructed, older ++ earlier, by simp,
    constructs, only, stores, ?_⟩
  intro taken member
  rcases List.mem_append.mp member with member | member
  · exact unstored taken member
  · exact last taken member

def beginRead : List HealthEvent := [.poll {}, .poll {}, .poll {}]

def pollCompares : HealthState :=
  { pollWaits 0 confirmedHealth with healthMutex := some .receive, poll := .compare 0 {} }

def pollStores : HealthState := { pollCompares with poll := .storeHealth {} }

def endRead : List HealthEvent := [.poll {}, .poll {}]

theorem unloaded_of_changes {events : List HealthEvent} {state : HealthState} {taken : HealthTaken}
    (changes : ∀ event ∈ events, event ∈ restoration)
    (member : taken ∈ healthSystem.history state events) : ¬ taken.loads := by
  rintro ⟨_, input, isPoll⟩
  have inside := changes _ (healthSystem.mem_events_of_history _ _ member)
  rw [isPoll] at inside
  simp [restoration] at inside

theorem mem_restorations {more : Nat} : ∀ event ∈ restorations more, event ∈ restoration := by
  intro event member
  obtain ⟨block, isBlock, inBlock⟩ := List.mem_flatten.mp member
  rwa [(List.mem_replicate.mp isBlock).2] at inBlock

/-- Mode changes that bring the epoch round during a read leave its sample to be stored over
theirs. -/
theorem wrapped_read (more : Nat) (round : UInt64.ofNat (0 + 2 * more + 2) = 0) :
    ∃ events final storing compare reading load earlier,
      ReadToStore events final storing compare reading load earlier ∧
        HoldsNewer (storing ++ compare :: reading) := by
  obtain ⟨before, changed⟩ := restorations_before more 0 {}
  have last := restoration_exec (0 + 2 * more) before
  rw [round] at last
  have begun : healthSystem.exec {} beginRead = some (pollWaits (.ofNat 0) {}) := rfl
  have ended : healthSystem.exec (pollWaits 0 confirmedHealth) endRead =
      some pollStores := rfl
  have historyEnd : healthSystem.history (pollWaits (.ofNat (0 + 2 * more)) before)
      (restoration ++ endRead) = healthSystem.history (pollWaits 0 confirmedHealth) endRead ++
        healthSystem.history (pollWaits (.ofNat (0 + 2 * more)) before) restoration :=
    healthSystem.history_append _ _ _ _ last
  refine ⟨beginRead ++ (restorations more ++ (restoration ++ endRead)),
    pollStores, [],
    (pollCompares, .poll {}),
    (pollWaits 0 confirmedHealth, .poll {}) ::
      (healthSystem.history (pollWaits (.ofNat (0 + 2 * more)) before) restoration ++
        (healthSystem.history (pollWaits (.ofNat 0) {}) (restorations more) ++
          [(({ poll := .readHealth 0 } : HealthState), .poll {})])),
    ({ poll := .loadEpoch }, .poll {}), [({}, .poll {})], ⟨?_, ?_, ⟨rfl, _, rfl⟩, ?_, ?_, rfl⟩, ?_⟩
  · simp only [EventSystem.exec_append, begun, changed, last, ended, Option.bind_some]
  · rw [healthSystem.history_append _ _ _ _ begun, healthSystem.history_append _ _ _ _ changed,
      historyEnd]
    have start : healthSystem.history {} beginRead =
        [({ poll := .readHealth 0 }, .poll {}), ({ poll := .loadEpoch }, .poll {}),
          ({}, .poll {})] := rfl
    have finish : healthSystem.history (pollWaits 0 confirmedHealth) endRead =
        [(pollCompares, .poll {}), (pollWaits 0 confirmedHealth, .poll {})] := rfl
    rw [start, finish]
    simp
  · exact ⟨⟨0, {}, rfl⟩, {}, rfl⟩
  · have unloaded {state : HealthState} {event : HealthEvent} (point : state.poll ≠ .loadEpoch) :
        ¬ HealthTaken.loads (state, event) := fun loads => point loads.1
    simp only [List.nil_append, List.forall_mem_cons, List.forall_mem_append]
    exact ⟨unloaded nofun, unloaded nofun,
      fun taken member => unloaded_of_changes (fun _ inside => inside) member,
      fun taken member => unloaded_of_changes mem_restorations member, unloaded nofun, by simp⟩
  · have unstored {state : HealthState} {input : HealthInput} (clear : state.poll ≠ .clearHealth)
        (other : state.poll.stores = false) : ¬ HealthTaken.storesHealth (state, .poll input) := by
      rintro (⟨_, _, _, _, _, same⟩ | ⟨clears | stores, _⟩)
      · cases same
      · exact clear clears
      · exact absurd (other.symm.trans stores) nofun
    refine (restoration_holdsNewer (.ofNat (0 + 2 * more)) before).extend
      [(pollCompares, .poll {}), (pollWaits 0 confirmedHealth, .poll {})] _ ?_
    simp only [List.forall_mem_cons]
    exact ⟨unstored nofun rfl, unstored nofun rfl, by simp⟩

theorem overwrites_after_wrap :
    ¬ ∀ events final storing compare reading load earlier,
      ReadToStore events final storing compare reading load earlier →
        (∀ taken ∈ compare :: (reading ++ [load]), taken.1.inTransition = false) ∧
          ¬ HoldsNewer (storing ++ compare :: reading) := by
  intro always
  obtain ⟨events, final, storing, compare, reading, load, earlier, read, newer⟩ :=
    wrapped_read (2 ^ 63 - 1) rfl
  exact (always events final storing compare reading load earlier read).2 newer

end Ioniq5Ecan
