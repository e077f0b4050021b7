import Ioniq5Ecan.Library.History

/-! # Sequence counters

A counter is bumped at both ends of every critical section, and a reader that
takes no lock compares what it loaded before its read with what it finds after
it.  The counter wraps at `period`: an unchanged counter means that nothing was
bumped only where fewer bumps than that fit into the read. -/
set_option autoImplicit false
namespace Ioniq5Ecan.Library

section SeqLock
variable {State Event : Type}

structure SeqLock (State Event : Type) where
  period : Nat
  epoch : State → Nat
  inside : State → Bool
  bumps : State → Event → Bool

namespace SeqLock

/-- What a step does to the counter; `open` sections close and closed ones open. -/
structure Counts (lock : SeqLock State Event) (state : State) (event : Event) (next : State) :
    Prop where
  bumped : lock.bumps state event = true →
    lock.epoch next = (lock.epoch state + 1) % lock.period ∧ lock.inside next = !lock.inside state
  still : lock.bumps state event = false →
    lock.epoch next = lock.epoch state ∧ lock.inside next = lock.inside state

/-- The counter is even exactly outside of the critical sections. -/
structure Balanced (lock : SeqLock State Event) (state : State) : Prop where
  bounded : lock.epoch state < lock.period
  parity : lock.epoch state % 2 = if lock.inside state then 1 else 0

def bumpCount (lock : SeqLock State Event) (history : List (State × Event)) : Nat :=
  history.countP fun step => lock.bumps step.1 step.2

variable {lock : SeqLock State Event} {system : EventSystem State Event} {inv : State → Prop}

theorem Balanced.step (even : lock.period % 2 = 0) {state next : State} {event : Event}
    (balanced : lock.Balanced state) (counts : lock.Counts state event next) :
    lock.Balanced next := by
  have positive : 0 < lock.period := Nat.zero_lt_of_lt balanced.bounded
  cases bumps : lock.bumps state event with
  | true =>
      obtain ⟨epoch, inside⟩ := counts.bumped bumps
      refine ⟨epoch ▸ Nat.mod_lt _ positive, ?_⟩
      have parity := balanced.parity
      rw [epoch, inside, Nat.mod_mod_of_dvd _ (Nat.dvd_of_mod_eq_zero even)]
      cases held : lock.inside state with
      | true =>
          have odd : lock.epoch state % 2 = 1 := by simpa [held] using parity
          show (lock.epoch state + 1) % 2 = 0
          omega
      | false =>
          have even : lock.epoch state % 2 = 0 := by simpa [held] using parity
          show (lock.epoch state + 1) % 2 = 1
          omega
  | false =>
      obtain ⟨epoch, inside⟩ := counts.still bumps
      exact ⟨epoch ▸ balanced.bounded, by rw [epoch, inside]; exact balanced.parity⟩

/-- The counter after a run is its start plus the bumps, modulo the period. -/
theorem epoch_run
    (kept : ∀ state event next, inv state → system.step state event = some next → inv next)
    (counts : ∀ state event next, inv state → system.step state event = some next →
      lock.Counts state event next)
    (events : List Event) :
    ∀ state final, inv state → lock.epoch state < lock.period →
      system.exec state events = some final →
        lock.epoch final =
          (lock.epoch state + lock.bumpCount (system.history state events)) % lock.period := by
  induction events with
  | nil =>
      intro state final _ bounded run
      cases Option.some.inj run
      exact (Nat.mod_eq_of_lt bounded).symm
  | cons event rest ih =>
      intro state final start bounded run
      obtain ⟨next, step, tail⟩ := EventSystem.exec_cons run
      have counted := counts state event next start step
      have positive : 0 < lock.period := Nat.zero_lt_of_lt bounded
      have later := ih next final (kept state event next start step)
      simp only [EventSystem.history, step, bumpCount, List.countP_append, List.countP_singleton]
      cases bumps : lock.bumps state event with
      | true =>
          obtain ⟨epoch, _⟩ := counted.bumped bumps
          rw [later (epoch ▸ Nat.mod_lt _ positive) tail, epoch, Nat.mod_add_mod]
          simp only [if_true, bumpCount]
          congr 1
          omega
      | false =>
          obtain ⟨epoch, _⟩ := counted.still bumps
          rw [later (epoch ▸ bounded) tail, epoch]
          simp [bumpCount]

theorem inside_of_still
    (kept : ∀ state event next, inv state → system.step state event = some next → inv next)
    (counts : ∀ state event next, inv state → system.step state event = some next →
      lock.Counts state event next)
    (events : List Event) :
    ∀ state final, inv state → system.exec state events = some final →
      (∀ step ∈ system.history state events, lock.bumps step.1 step.2 = false) →
        lock.inside final = lock.inside state ∧
          ∀ step ∈ system.history state events, lock.inside step.1 = lock.inside state := by
  induction events with
  | nil =>
      intro state final _ run _
      cases Option.some.inj run
      exact ⟨rfl, nofun⟩
  | cons event rest ih =>
      intro state final start run none
      obtain ⟨next, step, tail⟩ := EventSystem.exec_cons run
      simp only [EventSystem.history, step, List.mem_append, List.mem_singleton] at none ⊢
      obtain ⟨_, inside⟩ := (counts state event next start step).still (none _ (Or.inr rfl))
      obtain ⟨last, all⟩ := ih next final (kept state event next start step) tail
        (fun earlier member => none earlier (Or.inl member))
      refine ⟨last.trans inside, ?_⟩
      rintro earlier (member | rfl)
      · exact (all earlier member).trans inside
      · rfl

/-- The reader's rule: a counter found as it was loaded, after fewer bumps than its period, was
not bumped at all, and nobody was inside at any time if nobody was at the load. -/
theorem unmoved
    (kept : ∀ state event next, inv state → system.step state event = some next → inv next)
    (counts : ∀ state event next, inv state → system.step state event = some next →
      lock.Counts state event next)
    {events : List Event} {state final : State} (start : inv state)
    (balanced : lock.Balanced state) (run : system.exec state events = some final)
    (few : lock.bumpCount (system.history state events) < lock.period)
    (same : lock.epoch final = lock.epoch state) (even : lock.epoch state % 2 = 0) :
    lock.inside final = false ∧
      ∀ step ∈ system.history state events,
        lock.inside step.1 = false ∧ lock.bumps step.1 step.2 = false := by
  have moved := epoch_run kept counts events state final start balanced.bounded run
  have bounded := balanced.bounded
  have zero : lock.bumpCount (system.history state events) = 0 := by
    rw [same] at moved
    by_cases fits : lock.epoch state + lock.bumpCount (system.history state events) < lock.period
    · rw [Nat.mod_eq_of_lt fits] at moved
      omega
    · rw [Nat.mod_eq_sub_mod (by omega), Nat.mod_eq_of_lt (by omega)] at moved
      omega
  have none : ∀ step ∈ system.history state events, lock.bumps step.1 step.2 = false := by
    simpa [bumpCount, List.countP_eq_zero] using zero
  have outside : lock.inside state = false := by
    have parity := balanced.parity
    rw [even] at parity
    cases inside : lock.inside state with
    | false => rfl
    | true => rw [inside] at parity; cases parity
  obtain ⟨last, all⟩ := inside_of_still kept counts events state final start run none
  exact ⟨last.trans outside,
    fun step member => ⟨(all step member).trans outside, none step member⟩⟩

end SeqLock
end SeqLock
end Ioniq5Ecan.Library
