/-! # A lock among threads

A view of a state names the holder of a lock and tells for each thread whether
it is inside its critical section.  Each step of a thread keeps the lock, takes
it where it is free, or releases it from inside; then only the holder is ever
inside. -/
set_option autoImplicit false
namespace Ioniq5Ecan.Library

section Lock
variable {State Thread : Type}

structure LockView (State Thread : Type) where
  holder : State → Option Thread
  inside : State → Thread → Bool

/-- Who is inside holds the lock. -/
def LockView.Guarded (view : LockView State Thread) (state : State) : Prop :=
  ∀ thread, view.inside state thread = true → view.holder state = some thread

def LockView.OthersStay (view : LockView State Thread) (thread : Thread) (state next : State) :
    Prop :=
  ∀ other, other ≠ thread → view.inside next other = view.inside state other

inductive LockStep (view : LockView State Thread) (thread : Thread) (state next : State) : Prop
  | kept (holder : view.holder next = view.holder state)
      (inside : view.inside next thread = true → view.inside state thread = true)
      (others : view.OthersStay thread state next) : LockStep view thread state next
  | taken (free : view.holder state = none) (holder : view.holder next = some thread)
      (others : view.OthersStay thread state next) : LockStep view thread state next
  | released (inside : view.inside state thread = true) (free : view.holder next = none)
      (outside : view.inside next thread = false) (others : view.OthersStay thread state next) :
      LockStep view thread state next

variable {view : LockView State Thread} {state next : State} {thread : Thread}

/-- Two threads are never inside together. -/
theorem LockView.Guarded.exclusive (guarded : view.Guarded state) {first second : Thread}
    (left : view.inside state first = true) (right : view.inside state second = true) :
    first = second := by
  have holder := guarded first left
  rw [guarded second right] at holder
  exact (Option.some.inj holder).symm

theorem LockView.Guarded.step (guarded : view.Guarded state)
    (step : LockStep view thread state next) : view.Guarded next := by
  intro other inside
  by_cases own : other = thread
  · subst own
    cases step with
    | kept holder kept => exact holder.trans (guarded other (kept inside))
    | taken _ holder => exact holder
    | released _ _ outside => rw [outside] at inside; cases inside
  · cases step with
    | kept holder _ others =>
        rw [others other own] at inside
        exact holder.trans (guarded other inside)
    | taken free _ others =>
        rw [others other own] at inside
        have held := guarded other inside
        rw [free] at held
        cases held
    | released insideOwn _ _ others =>
        rw [others other own] at inside
        exact absurd (guarded.exclusive inside insideOwn) own

end Lock
end Ioniq5Ecan.Library
