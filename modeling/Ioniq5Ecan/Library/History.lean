import Ioniq5Ecan.Library.Runs

/-! # Histories of runs

The steps a run has taken, the newest first, each with the state it was taken
in.  `Since` is the past-time operator of that name: some step started, and
every later one kept. -/
set_option autoImplicit false
namespace Ioniq5Ecan.Library

section Since
variable {Step : Type} {keeps starts : Step → Prop}

def Since (keeps starts : Step → Prop) : List Step → Prop
  | [] => False
  | step :: earlier => starts step ∨ keeps step ∧ Since keeps starts earlier

instance decidableSince [DecidablePred keeps] [DecidablePred starts] :
    ∀ history : List Step, Decidable (Since keeps starts history)
  | [] => isFalse id
  | _ :: earlier =>
      let _ := decidableSince earlier
      inferInstanceAs (Decidable (_ ∨ _ ∧ _))

theorem since_iff (history : List Step) :
    Since keeps starts history ↔ ∃ later start earlier, history = later ++ start :: earlier ∧
      starts start ∧ ∀ step ∈ later, keeps step := by
  induction history with
  | nil =>
      refine ⟨False.elim, ?_⟩
      rintro ⟨later, start, earlier, split, _⟩
      cases later <;> cases split
  | cons step rest ih =>
      constructor
      · rintro (started | ⟨kept, since⟩)
        · exact ⟨[], step, rest, rfl, started, nofun⟩
        · obtain ⟨later, start, earlier, split, started, kepts⟩ := ih.mp since
          refine ⟨step :: later, start, earlier, congrArg (step :: ·) split, started, ?_⟩
          exact List.forall_mem_cons.mpr ⟨kept, kepts⟩
      · rintro ⟨later, start, earlier, split, started, kepts⟩
        cases later with
        | nil =>
            cases split
            exact Or.inl started
        | cons head tail =>
            cases split
            obtain ⟨kept, kepts⟩ := List.forall_mem_cons.mp kepts
            exact Or.inr ⟨kept, ih.mpr ⟨tail, start, earlier, rfl, started, kepts⟩⟩

end Since

namespace EventSystem
section History
variable {State Event : Type}

def history (system : EventSystem State Event) (state : State) :
    List Event → List (State × Event)
  | [] => []
  | event :: rest =>
      match system.step state event with
      | none => []
      | some next => system.history next rest ++ [(state, event)]

/-- The invariant rule for what the history and the state reached have in common. -/
theorem history_invariant (system : EventSystem State Event)
    (inv : List (State × Event) → State → Prop) (side : State → Event → Prop)
    (kept : ∀ earlier state event next, inv earlier state → side state event →
      system.step state event = some next → inv ((state, event) :: earlier) next)
    (events : List Event) :
    ∀ earlier state final, inv earlier state → system.Meets side state events →
      system.exec state events = some final → inv (system.history state events ++ earlier) final := by
  induction events with
  | nil =>
      intro earlier state final start _ run
      cases Option.some.inj run
      exact start
  | cons event rest ih =>
      intro earlier state final start met run
      obtain ⟨next, step, tail⟩ := exec_cons run
      have later := ih ((state, event) :: earlier) next final
        (kept earlier state event next start met.1 step) (met.2 next step) tail
      simpa [history, step] using later

theorem history_append (system : EventSystem State Event) (first second : List Event) :
    ∀ state middle, system.exec state first = some middle →
      system.history state (first ++ second) =
        system.history middle second ++ system.history state first := by
  induction first with
  | nil =>
      intro state middle run
      cases Option.some.inj run
      exact (List.append_nil _).symm
  | cons event rest ih =>
      intro state middle run
      obtain ⟨next, step, tail⟩ := exec_cons run
      simp only [List.cons_append, history, step, ih next middle tail, List.append_assoc]

/-- A step of the history parts the run into the one that led to it and the one from it on. -/
theorem history_split (system : EventSystem State Event) (events : List Event) :
    ∀ state final later step earlier, system.exec state events = some final →
      system.history state events = later ++ step :: earlier →
      ∃ before after, events = before ++ step.2 :: after ∧
        system.exec state before = some step.1 ∧ system.history state before = earlier ∧
        system.exec step.1 (step.2 :: after) = some final ∧
        system.history step.1 (step.2 :: after) = later ++ [step] := by
  induction events with
  | nil =>
      intro state final later step earlier _ split
      cases later <;> cases split
  | cons event rest ih =>
      intro state final later step earlier run split
      obtain ⟨next, taken, tail⟩ := exec_cons run
      simp only [history, taken] at split
      rcases List.eq_nil_or_concat earlier with rfl | ⟨front, last, rfl⟩
      · obtain ⟨whole, first⟩ := List.append_inj' split rfl
        obtain rfl := List.singleton_inj.mp first
        refine ⟨[], rest, rfl, rfl, rfl, run, ?_⟩
        simp only [history, taken, whole]
      · have regrouped : system.history next rest ++ [(state, event)] =
            (later ++ step :: front) ++ [last] := by simpa using split
        obtain ⟨whole, first⟩ := List.append_inj' regrouped rfl
        obtain rfl := List.singleton_inj.mp first
        obtain ⟨before, after, events, reached, past, left, remaining⟩ :=
          ih next final later step front tail whole
        refine ⟨event :: before, after, congrArg (event :: ·) events, ?_, ?_, left, remaining⟩
        · exact Option.bind_eq_some_iff.mpr ⟨next, taken, reached⟩
        · simp only [history, taken, past, List.concat_eq_append]

theorem mem_events_of_history (system : EventSystem State Event) {step : State × Event}
    (events : List Event) :
    ∀ state, step ∈ system.history state events → step.2 ∈ events := by
  induction events with
  | nil => intro state member; cases member
  | cons event rest ih =>
      intro state member
      simp only [history] at member
      split at member
      · cases member
      · rename_i next _
        rcases List.mem_append.mp member with member | member
        · exact List.mem_cons_of_mem _ (ih next member)
        · rw [List.mem_singleton.mp member]
          exact List.mem_cons_self ..

theorem meets_of_history (system : EventSystem State Event) {side : State → Event → Prop}
    (events : List Event) :
    ∀ state, (∀ step ∈ system.history state events, side step.1 step.2) →
      ∀ final, system.exec state events = some final → system.Meets side state events := by
  induction events with
  | nil => intro state _ final _; trivial
  | cons event rest ih =>
      intro state all final run
      obtain ⟨next, step, tail⟩ := exec_cons run
      simp only [history, step, List.mem_append, List.mem_singleton] at all
      refine ⟨all _ (Or.inr rfl), fun other otherStep => ?_⟩
      rw [step] at otherStep
      cases otherStep
      exact ih next (fun earlier member => all earlier (Or.inl member)) final tail

def Falls (system : EventSystem State Event) (flag : State → Bool) (step : State × Event) : Prop :=
  flag step.1 = true ∧ (system.step step.1 step.2).any (fun next => !flag next) = true

/-- A flag that is down at the end of a run fell in some step of it, if it was up at its start. -/
theorem history_falls (system : EventSystem State Event) (flag : State → Bool)
    (events : List Event) : ∀ state final, system.exec state events = some final →
      flag state = true → flag final = false →
      ∃ fall ∈ system.history state events, system.Falls flag fall := by
  induction events with
  | nil =>
      intro state final run up down
      cases Option.some.inj run
      exact absurd (up.symm.trans down) nofun
  | cons event rest ih =>
      intro state final run up down
      obtain ⟨next, step, tail⟩ := exec_cons run
      simp only [history, step]
      cases stays : flag next with
      | true =>
          obtain ⟨fall, member, falls⟩ := ih next final tail stays down
          exact ⟨fall, List.mem_append_left _ member, falls⟩
      | false =>
          refine ⟨(state, event), List.mem_append_right _ (List.mem_singleton_self _), up, ?_⟩
          simp [step, stays]

/-- It fell in a step of the history it was up in, or in a later one. -/
theorem history_falls_since (system : EventSystem State Event) (flag : State → Bool)
    (events : List Event) : ∀ state final later start earlier, system.exec state events = some final →
      system.history state events = later ++ start :: earlier →
      flag start.1 = true → flag final = false →
      ∃ fall, (fall = start ∨ fall ∈ later) ∧ system.Falls flag fall := by
  induction events with
  | nil =>
      intro state final later start earlier _ split
      cases later <;> cases split
  | cons event rest ih =>
      intro state final later start earlier run split up down
      obtain ⟨next, step, tail⟩ := exec_cons run
      simp only [history, step] at split
      rcases List.eq_nil_or_concat earlier with rfl | ⟨front, last, rfl⟩
      · obtain ⟨whole, first⟩ := List.append_inj' split rfl
        obtain rfl := List.singleton_inj.mp first
        cases stays : flag next with
        | true =>
            obtain ⟨fall, member, falls⟩ := system.history_falls flag rest next final tail stays down
            exact ⟨fall, Or.inr (whole ▸ member), falls⟩
        | false =>
            refine ⟨(state, event), Or.inl rfl, up, ?_⟩
            simp [step, stays]
      · have regrouped : system.history next rest ++ [(state, event)] =
            (later ++ start :: front) ++ [last] := by simpa using split
        exact ih next final later start front tail (List.append_inj' regrouped rfl).1 up down

end History
end EventSystem
end Ioniq5Ecan.Library
