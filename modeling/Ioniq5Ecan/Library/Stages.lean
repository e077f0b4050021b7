/-! # Stages that may throw

A stage leaves a state and either returns or throws.  `attempt` is a `try` block
whose handler only records the exception; an invariant of every stage survives
any pattern of failures. -/
set_option autoImplicit false
namespace Ioniq5Ecan.Library

abbrev Stage (State Error : Type) := State → State × Except Error Unit

namespace Stage
section Rules
variable {State Error : Type}

/-- A call with a known outcome: `effect` is what it leaves either way. -/
def call (effect : State → State) (outcome : Except Error Unit) : Stage State Error :=
  fun state => (effect state, outcome)

/-- An exception of the first stage skips the second. -/
def andThen (first second : Stage State Error) : Stage State Error := fun state =>
  match first state with
  | (next, .ok _) => second next
  | (next, .error what) => (next, .error what)

/-- `try { stage } catch (what) { handler }`. -/
def attempt (stage : Stage State Error) (handler : Error → State → State) : State → State :=
  fun state =>
    match stage state with
    | (next, .ok _) => next
    | (next, .error what) => handler what next

def Keeps (inv : State → Prop) (stage : Stage State Error) : Prop :=
  ∀ state, inv state → inv (stage state).1

variable {inv : State → Prop} {first second stage : Stage State Error}

theorem keeps_call {effect : State → State} (outcome : Except Error Unit)
    (kept : ∀ state, inv state → inv (effect state)) : Keeps inv (call effect outcome) :=
  fun state holds => kept state holds

theorem Keeps.andThen (firstKeeps : Keeps inv first) (secondKeeps : Keeps inv second) :
    Keeps inv (first.andThen second) := by
  intro state holds
  have middle := firstKeeps state holds
  unfold Stage.andThen
  split
  · rename_i next _ left
    rw [left] at middle
    exact secondKeeps next middle
  · rename_i left
    rw [left] at middle
    exact middle

/-- What a stage left at its end or at its exception survives the handler. -/
theorem attempt_left {handler : Error → State → State} {state : State}
    (left : inv (stage state).1) (handles : ∀ what state, inv state → inv (handler what state)) :
    inv (stage.attempt handler state) := by
  unfold Stage.attempt
  split
  · rename_i ended
    rw [ended] at left
    exact left
  · rename_i ended
    rw [ended] at left
    exact handles _ _ left

theorem Keeps.attempt {handler : Error → State → State} (keeps : Keeps inv stage)
    (handles : ∀ what state, inv state → inv (handler what state)) (state : State)
    (holds : inv state) : inv (stage.attempt handler state) :=
  attempt_left (keeps state holds) handles

theorem andThen_call (effect : State → State) (outcome : Except Error Unit) (state : State) :
    (call effect outcome).andThen second state =
      match outcome with
      | .ok _ => second (effect state)
      | .error what => (effect state, .error what) := by
  cases outcome <;> rfl

end Rules
end Stage
end Ioniq5Ecan.Library
