import Mathlib.Data.List.Basic
import Mathlib.Data.List.ReduceOption

/-! # Runs of called machines and of event systems

A `CallMachine` answers every call, so its runs are total; `held_of_quiet` is
the latch rule: what a call establishes stays until a releasing call;
`answers_trace` is the stuttering rule against a model of the visible calls.  An
`EventSystem` refuses events that are not enabled; `exec_keeps` is the
invariant rule for runs whose steps all meet a side condition, `exec_filter`
the rule for events that can be left out. -/
set_option autoImplicit false
namespace Ioniq5Ecan.Library

section Called
variable {State Call Answer : Type}

structure CallMachine (State Call Answer : Type) where
  call : State → Call → State × Answer

namespace CallMachine

def run (machine : CallMachine State Call Answer) : State → List Call → State
  | state, [] => state
  | state, call :: rest => run machine (machine.call state call).1 rest

def answers (machine : CallMachine State Call Answer) : State → List Call → List Answer
  | _, [] => []
  | state, call :: rest =>
      (machine.call state call).2 :: answers machine (machine.call state call).1 rest

def Quiet (machine : CallMachine State Call Answer) (releases : State → Call → Prop) :
    State → List Call → Prop
  | _, [] => True
  | state, call :: rest =>
      ¬ releases state call ∧ Quiet machine releases (machine.call state call).1 rest

instance decidableQuiet (machine : CallMachine State Call Answer) (releases : State → Call → Prop)
    [∀ state call, Decidable (releases state call)] :
    ∀ (calls : List Call) (state : State), Decidable (machine.Quiet releases state calls)
  | [], _ => isTrue trivial
  | call :: rest, state =>
      let _ := decidableQuiet machine releases rest (machine.call state call).1
      inferInstanceAs (Decidable (¬ releases state call ∧
        machine.Quiet releases (machine.call state call).1 rest))

theorem run_append (machine : CallMachine State Call Answer) (first second : List Call) :
    ∀ state, machine.run state (first ++ second) =
      machine.run (machine.run state first) second := by
  induction first with
  | nil => intro state; rfl
  | cons call rest ih => intro state; exact ih _

theorem run_keeps (machine : CallMachine State Call Answer) (inv : State → Prop)
    (kept : ∀ state call, inv state → inv (machine.call state call).1) (calls : List Call) :
    ∀ state, inv state → inv (machine.run state calls) := by
  induction calls with
  | nil => intro state start; exact start
  | cons call rest ih => intro state start; exact ih _ (kept state call start)

theorem quiet_append (machine : CallMachine State Call Answer) (releases : State → Call → Prop)
    (first second : List Call) :
    ∀ state, machine.Quiet releases state (first ++ second) ↔
      machine.Quiet releases state first ∧
        machine.Quiet releases (machine.run state first) second := by
  induction first with
  | nil => intro state; simp [Quiet, run]
  | cons call rest ih => intro state; simp [Quiet, run, ih, and_assoc]

theorem quiet_of_forall (machine : CallMachine State Call Answer)
    (releases : State → Call → Prop) (calls : List Call)
    (never : ∀ call ∈ calls, ∀ state, ¬ releases state call) :
    ∀ state, machine.Quiet releases state calls := by
  induction calls with
  | nil => intro state; trivial
  | cons call rest ih =>
      intro state
      exact ⟨never call (List.mem_cons_self ..) state,
        ih (fun other member => never other (List.mem_cons_of_mem _ member)) _⟩

theorem quiet_of_invariant (machine : CallMachine State Call Answer) (inv : State → Prop)
    (releases : State → Call → Prop)
    (kept : ∀ state call, inv state → inv (machine.call state call).1)
    (never : ∀ state call, inv state → ¬ releases state call) (calls : List Call) :
    ∀ state, inv state → machine.Quiet releases state calls := by
  induction calls with
  | nil => intro state _; trivial
  | cons call rest ih =>
      intro state start
      exact ⟨never state call start, ih _ (kept state call start)⟩

/-- The two-run rule: a relation that paired calls keep, with equal views of the answers, makes
the views of the whole runs equal. -/
theorem answers_agree {View : Type} (machine : CallMachine State Call Answer)
    (agree : State → State → Prop) (paired : Call → Call → Prop)
    (breaks : State → Call → Prop) (view : Answer → View)
    (step : ∀ state other call call', agree state other → paired call call' →
      ¬ breaks state call →
        agree (machine.call state call).1 (machine.call other call').1 ∧
          view (machine.call state call).2 = view (machine.call other call').2)
    {calls others : List Call} (pairs : List.Forall₂ paired calls others) :
    ∀ state other, agree state other → machine.Quiet breaks state calls →
      (machine.answers state calls).map view = (machine.answers other others).map view := by
  induction pairs with
  | nil => intro state other _ _; rfl
  | cons pair _ ih =>
      intro state other related quiet
      obtain ⟨next, same⟩ := step _ _ _ _ related pair quiet.1
      simp only [answers, List.map_cons, same, ih _ _ next quiet.2]

/-- The latch rule: `held` survives every run without a releasing call. -/
theorem held_of_quiet (machine : CallMachine State Call Answer) (held : State → Prop)
    (releases : State → Call → Prop)
    (kept : ∀ state call, held state → ¬ releases state call → held (machine.call state call).1)
    (calls : List Call) :
    ∀ state, held state → machine.Quiet releases state calls → held (machine.run state calls) := by
  induction calls with
  | nil => intro state start _; exact start
  | cons call rest ih =>
      intro state start quiet
      exact ih _ (kept state call start quiet.1) quiet.2

/-- The exact latch rule: where no call releases, every answer is good if and only if no call
breaks the latch. -/
theorem answers_iff_quiet (machine : CallMachine State Call Answer) (held : State → Prop)
    (releases breaks : State → Call → Prop) (good : Answer → Prop)
    (kept : ∀ state call, held state → ¬ releases state call → ¬ breaks state call →
      held (machine.call state call).1 ∧ good (machine.call state call).2)
    (broken : ∀ state call, held state → ¬ releases state call → breaks state call →
      ¬ good (machine.call state call).2)
    (calls : List Call) :
    ∀ state, held state → machine.Quiet releases state calls →
      ((∀ answer ∈ machine.answers state calls, good answer) ↔
        machine.Quiet breaks state calls) := by
  induction calls with
  | nil =>
      intro state _ _
      exact ⟨fun _ => trivial, fun _ answer member => absurd member List.not_mem_nil⟩
  | cons call rest ih =>
      intro state start quiet
      by_cases breaking : breaks state call
      · constructor
        · intro all
          exact absurd (all _ (List.mem_cons_self ..)) (broken state call start quiet.1 breaking)
        · intro unbroken
          exact absurd breaking unbroken.1
      · obtain ⟨next, fine⟩ := kept state call start quiet.1 breaking
        have tail := ih _ next quiet.2
        constructor
        · intro all
          exact ⟨breaking, tail.mp fun answer member => all answer (List.mem_cons_of_mem _ member)⟩
        · intro unbroken answer member
          rcases List.mem_cons.mp member with rfl | later
          · exact fine
          · exact tail.mpr unbroken.2 answer later

def trace {Model : Type} (step : Model → Call → Model) : Model → List Call → List Model
  | _, [] => []
  | model, call :: rest => step model call :: trace step (step model call) rest

/-- The stuttering rule: a machine that shows its projection on some calls, and hides the calls
that leave the projection alone, shows what the model goes through on the calls it shows. -/
theorem answers_trace {Model : Type} (machine : CallMachine State Call (Option Model))
    (step : Model → Call → Model) (project : State → Model) (inv : State → Prop)
    (breaks : State → Call → Prop) (hidden : Call → Bool)
    (hides : ∀ state call, inv state → ¬ breaks state call → hidden call = true →
      inv (machine.call state call).1 ∧ project (machine.call state call).1 = project state ∧
        (machine.call state call).2 = none)
    (shows : ∀ state call, inv state → ¬ breaks state call → hidden call = false →
      inv (machine.call state call).1 ∧
        project (machine.call state call).1 = step (project state) call ∧
        (machine.call state call).2 = some (project (machine.call state call).1))
    (calls : List Call) :
    ∀ state, inv state → machine.Quiet breaks state calls →
      (machine.answers state calls).reduceOption =
        trace step (project state) (calls.filter fun call => !hidden call) := by
  induction calls with
  | nil => intro state _ _; rfl
  | cons call rest ih =>
      intro state start quiet
      cases visible : hidden call with
      | true =>
          obtain ⟨next, same, answer⟩ := hides state call start quiet.1 visible
          rw [answers, answer, List.reduceOption_cons_of_none, ih _ next quiet.2, same,
            List.filter_cons_of_neg (by simp [visible])]
      | false =>
          obtain ⟨next, stepped, answer⟩ := shows state call start quiet.1 visible
          rw [answers, answer, List.reduceOption_cons_of_some, ih _ next quiet.2, stepped,
            List.filter_cons_of_pos (by simp [visible]), trace]

end CallMachine
end Called

section Events
variable {State Event : Type}

structure EventSystem (State Event : Type) where
  step : State → Event → Option State

namespace EventSystem

def exec (system : EventSystem State Event) : State → List Event → Option State
  | state, [] => some state
  | state, event :: rest => (system.step state event).bind fun next => exec system next rest

/-- Every step of the run meets the side condition in the state it is taken from. -/
def Meets (system : EventSystem State Event) (side : State → Event → Prop) :
    State → List Event → Prop
  | _, [] => True
  | state, event :: rest =>
      side state event ∧ ∀ next, system.step state event = some next → Meets system side next rest

instance decidableMeets (system : EventSystem State Event) (side : State → Event → Prop)
    [∀ state event, Decidable (side state event)] :
    ∀ (events : List Event) (state : State), Decidable (system.Meets side state events)
  | [], _ => isTrue trivial
  | event :: rest, state =>
      match taken : system.step state event with
      | none => decidable_of_iff (side state event)
          ⟨fun met => ⟨met, fun next step => by rw [taken] at step; cases step⟩, And.left⟩
      | some next =>
          let _ := decidableMeets system side rest next
          decidable_of_iff (side state event ∧ system.Meets side next rest)
            ⟨fun met => ⟨met.1, fun other step => by
              rw [taken] at step
              cases step
              exact met.2⟩,
            fun met => ⟨met.1, met.2 next taken⟩⟩

theorem exec_cons {system : EventSystem State Event} {state final : State} {event : Event}
    {rest : List Event} (run : system.exec state (event :: rest) = some final) :
    ∃ next, system.step state event = some next ∧ system.exec next rest = some final :=
  Option.bind_eq_some_iff.mp run

theorem exec_append (system : EventSystem State Event) (first second : List Event) :
    ∀ state, system.exec state (first ++ second) =
      (system.exec state first).bind fun middle => system.exec middle second := by
  induction first with
  | nil => intro state; rfl
  | cons event rest ih =>
      intro state
      simp only [List.cons_append, exec, Option.bind_assoc]
      congr 1
      funext next
      exact ih next

theorem meets_append (system : EventSystem State Event) {side : State → Event → Prop}
    (first second : List Event) :
    ∀ state middle, system.Meets side state (first ++ second) →
      system.exec state first = some middle →
        system.Meets side state first ∧ system.Meets side middle second := by
  induction first with
  | nil =>
      intro state middle met run
      cases Option.some.inj run
      exact ⟨trivial, met⟩
  | cons event rest ih =>
      intro state middle met run
      obtain ⟨next, step, tail⟩ := exec_cons run
      have later := ih next middle (met.2 next step) tail
      refine ⟨⟨met.1, fun other otherStep => ?_⟩, later.2⟩
      rw [step] at otherStep
      cases otherStep
      exact later.1

theorem split_run (system : EventSystem State Event) {side : State → Event → Prop}
    {first second : List Event} {state final : State}
    (met : system.Meets side state (first ++ second))
    (run : system.exec state (first ++ second) = some final) :
    ∃ middle, system.exec state first = some middle ∧ system.Meets side state first ∧
      system.Meets side middle second ∧ system.exec middle second = some final := by
  rw [exec_append] at run
  obtain ⟨middle, reached, rest⟩ := Option.bind_eq_some_iff.mp run
  obtain ⟨metFirst, metSecond⟩ := system.meets_append first second state middle met reached
  exact ⟨middle, reached, metFirst, metSecond, rest⟩

/-- The invariant rule for runs whose steps all meet the side condition. -/
theorem exec_keeps (system : EventSystem State Event) (inv : State → Prop)
    (side : State → Event → Prop)
    (kept : ∀ state event next, inv state → side state event →
      system.step state event = some next → inv next)
    (events : List Event) :
    ∀ state final, inv state → system.Meets side state events →
      system.exec state events = some final → inv final := by
  induction events with
  | nil =>
      intro state final start _ run
      cases Option.some.inj run
      exact start
  | cons event rest ih =>
      intro state final start met run
      obtain ⟨next, step, tail⟩ := exec_cons run
      exact ih next final (kept state event next start met.1 step) (met.2 next step) tail

/-- An invariant of every step holds in every state reached. -/
theorem exec_invariant (system : EventSystem State Event) (inv : State → Prop)
    (kept : ∀ state event next, inv state → system.step state event = some next → inv next)
    (events : List Event) :
    ∀ state final, inv state → system.exec state events = some final → inv final := by
  induction events with
  | nil =>
      intro state final start run
      cases Option.some.inj run
      exact start
  | cons event rest ih =>
      intro state final start run
      obtain ⟨next, step, tail⟩ := exec_cons run
      exact ih next final (kept state event next start step) tail

/-- A run that breaks its side condition has a first part that leads to the step that does. -/
theorem exists_violation (system : EventSystem State Event) {side : State → Event → Prop}
    (events : List Event) :
    ∀ state final, system.exec state events = some final → ¬ system.Meets side state events →
      ∃ before event after middle next, events = before ++ event :: after ∧
        system.exec state before = some middle ∧ ¬ side middle event ∧
        system.step middle event = some next ∧ system.exec next after = some final := by
  induction events with
  | nil => intro state final _ broken; exact absurd trivial broken
  | cons event rest ih =>
      intro state final run broken
      obtain ⟨next, step, tail⟩ := exec_cons run
      by_cases here : side state event
      · have later : ¬ system.Meets side next rest := by
          intro met
          refine broken ⟨here, fun other otherStep => ?_⟩
          rw [step] at otherStep
          cases otherStep
          exact met
        obtain ⟨before, violating, after, middle, reached, split, first, broke, taken, last⟩ :=
          ih next final tail later
        refine ⟨event :: before, violating, after, middle, reached, ?_, ?_, broke, taken, last⟩
        · rw [split]; rfl
        · exact Option.bind_eq_some_iff.mpr ⟨next, step, first⟩
      · exact ⟨[], event, rest, state, next, rfl, rfl, here, step, tail⟩

theorem meets_of_forall (system : EventSystem State Event) {side : State → Event → Prop}
    (events : List Event) (always : ∀ event ∈ events, ∀ state, side state event) :
    ∀ state, system.Meets side state events := by
  induction events with
  | nil => intro state; trivial
  | cons event rest ih =>
      intro state
      exact ⟨always event (List.mem_cons_self ..) state,
        fun next _ => ih (fun other member => always other (List.mem_cons_of_mem _ member)) next⟩

theorem meets_and (system : EventSystem State Event) {left right : State → Event → Prop}
    (events : List Event) :
    ∀ state, system.Meets left state events → system.Meets right state events →
      system.Meets (fun state event => left state event ∧ right state event) state events := by
  induction events with
  | nil => intro state _ _; trivial
  | cons event rest ih =>
      intro state metLeft metRight
      exact ⟨⟨metLeft.1, metRight.1⟩,
        fun next step => ih next (metLeft.2 next step) (metRight.2 next step)⟩

theorem meets_mono (system : EventSystem State Event) {side weaker : State → Event → Prop}
    (weakens : ∀ state event, side state event → weaker state event) (events : List Event) :
    ∀ state, system.Meets side state events → system.Meets weaker state events := by
  induction events with
  | nil => intro state _; trivial
  | cons event rest ih =>
      intro state met
      exact ⟨weakens state event met.1, fun next step => ih next (met.2 next step)⟩

end EventSystem
end Events
end Ioniq5Ecan.Library
