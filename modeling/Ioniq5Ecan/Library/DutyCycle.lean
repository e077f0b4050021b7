import Mathlib.Data.List.Induction

/-! # A duty cycle over counted inputs

A counter runs through `on` inputs that are shown and `off` that are cut, and
starts again at an input that does not count.  `cut_block` and `shown_block` say
what can be seen of it from outside: a block of cut inputs is at most `off` long
and directly behind `on` shown ones. -/
set_option autoImplicit false
namespace Ioniq5Ecan.Library

structure DutyCycle where
  on : Nat
  off : Nat

namespace DutyCycle

section Cycle
variable {Input : Type} (cycle : DutyCycle) (counted : Input → Bool)

def next (count : Nat) (input : Input) : Nat :=
  if counted input then (count + 1) % (cycle.on + cycle.off) else 0

def after : Nat → List Input → Nat
  | count, [] => count
  | count, input :: rest => after (cycle.next counted count input) rest

def run : Nat → List Input → List (Input × Bool)
  | _, [] => []
  | count, input :: rest =>
      (input, !counted input || decide (count < cycle.on)) ::
        run (cycle.next counted count input) rest

/-- A counted input that is shown, and one that is cut. -/
def Shown (entry : Input × Bool) : Prop := counted entry.1 = true ∧ entry.2 = true

def Cut (entry : Input × Bool) : Prop := counted entry.1 = true ∧ entry.2 = false

variable {cycle counted}

theorem run_append (first second : List Input) :
    ∀ count, cycle.run counted count (first ++ second) =
      cycle.run counted count first ++ cycle.run counted (cycle.after counted count first) second := by
  induction first with
  | nil => intro count; rfl
  | cons input rest ih =>
      intro count
      rw [List.cons_append, run, run, after, ih, List.cons_append]

theorem after_append (first second : List Input) :
    ∀ count, cycle.after counted count (first ++ second) =
      cycle.after counted (cycle.after counted count first) second := by
  induction first with
  | nil => intro count; rfl
  | cons input rest ih => intro count; exact ih _

theorem run_inputs (inputs : List Input) :
    ∀ count, (cycle.run counted count inputs).map Prod.fst = inputs := by
  induction inputs with
  | nil => intro count; rfl
  | cons input rest ih => intro count; rw [run, List.map_cons, ih]

/-- Only a counted input is cut. -/
theorem counted_of_cut (inputs : List Input) :
    ∀ count, ∀ entry ∈ cycle.run counted count inputs, entry.2 = false →
      counted entry.1 = true := by
  induction inputs with
  | nil => intro count entry member; cases member
  | cons input rest ih =>
      intro count entry member hidden
      rcases List.mem_cons.mp member with rfl | later
      · cases counts : counted input with
        | true => rfl
        | false => simp [counts] at hidden
      · exact ih _ entry later hidden

/-- Where the counter stands, the run ends with as many shown and cut inputs. -/
structure Behind (cycle : DutyCycle) (counted : Input → Bool) (entries : List (Input × Bool))
    (count : Nat) : Prop where
  within : count < cycle.on + cycle.off
  ends : ∃ earlier shown cut, entries = earlier ++ shown ++ cut ∧
    (∀ entry ∈ shown, Shown counted entry) ∧ (∀ entry ∈ cut, Cut counted entry) ∧
    shown.length = min count cycle.on ∧ cut.length = count - cycle.on

theorem behind_zero (positive : 0 < cycle.off) (entries : List (Input × Bool)) :
    Behind cycle counted entries 0 := by
  refine ⟨by omega, entries, [], [], ?_, ?_, ?_, ?_, ?_⟩
  · simp
  · simp
  · simp
  · simp
  · simp

theorem behind_next (positive : 0 < cycle.off) {entries : List (Input × Bool)} {count : Nat}
    (behind : Behind cycle counted entries count) (input : Input) :
    Behind cycle counted
      (entries ++ [(input, !counted input || decide (count < cycle.on))])
      (cycle.next counted count input) := by
  obtain ⟨within, earlier, shown, cut, rfl, allShown, allCut, shownLength, cutLength⟩ := behind
  unfold next
  cases counts : counted input with
  | false =>
      apply behind_zero positive
  | true =>
      rw [if_pos rfl, Bool.not_true, Bool.false_or]
      by_cases wraps : count + 1 = cycle.on + cycle.off
      · rw [wraps, Nat.mod_self]
        apply behind_zero positive
      have stays : (count + 1) % (cycle.on + cycle.off) = count + 1 := Nat.mod_eq_of_lt (by omega)
      rw [stays]
      by_cases early : count < cycle.on
      · have none : cut = [] := List.length_eq_zero_iff.mp (by omega)
        refine ⟨by omega, earlier, shown ++ [(input, true)], [], ?_, ?_, ?_, ?_, ?_⟩
        · rw [none, decide_eq_true early]
          simp
        · intro entry member
          rcases List.mem_append.mp member with old | new
          · exact allShown entry old
          · rw [List.mem_singleton.mp new]
            exact ⟨counts, rfl⟩
        · simp
        · rw [List.length_append, List.length_singleton]
          omega
        · rw [List.length_nil]
          omega
      · refine ⟨by omega, earlier, shown, cut ++ [(input, false)], ?_, allShown, ?_, ?_, ?_⟩
        · rw [decide_eq_false early, List.append_assoc, List.append_assoc]
        · intro entry member
          rcases List.mem_append.mp member with old | new
          · exact allCut entry old
          · rw [List.mem_singleton.mp new]
            exact ⟨counts, rfl⟩
        · omega
        · rw [List.length_append, List.length_singleton]
          omega

theorem run_behind (positive : 0 < cycle.off) (inputs : List Input) :
    Behind cycle counted (cycle.run counted 0 inputs) (cycle.after counted 0 inputs) := by
  induction inputs using List.reverseRecOn with
  | nil => exact behind_zero positive []
  | append_singleton inputs input ih =>
      rw [run_append, after_append]
      exact behind_next positive ih input

/-! ## Blocks -/

theorem next_of_counted {count : Nat} {input : Input} (counts : counted input = true)
    (within : count + 1 < cycle.on + cycle.off) : cycle.next counted count input = count + 1 := by
  unfold next
  rw [if_pos counts]
  exact Nat.mod_eq_of_lt within

theorem shown_length (positive : 0 < cycle.off) (inputs : List Input) :
    ∀ count, (∀ entry ∈ cycle.run counted count inputs, Shown counted entry) →
      inputs.length ≤ cycle.on - count := by
  induction inputs with
  | nil => intro count _; exact Nat.zero_le _
  | cons input rest ih =>
      intro count allShown
      obtain ⟨counts, shown⟩ := allShown _ (List.mem_cons_self ..)
      have early : count < cycle.on := by simpa [counts] using shown
      have moved := @next_of_counted _ cycle counted count input counts (by omega)
      have later := ih (cycle.next counted count input)
        fun entry member => allShown entry (List.mem_cons_of_mem _ member)
      rw [moved] at later
      rw [List.length_cons]
      omega

theorem cut_length (positive : 0 < cycle.on) (inputs : List Input) :
    ∀ count, count < cycle.on + cycle.off →
      (∀ entry ∈ cycle.run counted count inputs, Cut counted entry) →
        inputs.length ≤ if count < cycle.on then 0 else cycle.on + cycle.off - count := by
  induction inputs with
  | nil => intro count _ _; exact Nat.zero_le _
  | cons input rest ih =>
      intro count within allCut
      obtain ⟨counts, cut⟩ := allCut _ (List.mem_cons_self ..)
      have late : ¬ count < cycle.on := by simpa [counts] using cut
      have others := fun entry member =>
        allCut entry (List.mem_cons_of_mem (input, !counted input || decide (count < cycle.on)) member)
      rw [if_neg late, List.length_cons]
      by_cases wraps : count + 1 = cycle.on + cycle.off
      · have start : cycle.next counted count input = 0 := by
          unfold next
          rw [if_pos counts, wraps, Nat.mod_self]
        have later := ih _ (by rw [start]; omega) others
        rw [start, if_pos positive] at later
        omega
      · have moved := @next_of_counted _ cycle counted count input counts (by omega)
        have later := ih _ (by rw [moved]; omega) others
        rw [moved, if_neg (by omega)] at later
        omega

theorem run_split {inputs : List Input} {before block behind : List (Input × Bool)} {count : Nat}
    (split : cycle.run counted count inputs = before ++ block ++ behind) :
    ∃ first middle last, inputs = first ++ middle ++ last ∧
      before = cycle.run counted count first ∧
      block = cycle.run counted (cycle.after counted count first) middle := by
  have same := congrArg (List.map Prod.fst) split
  rw [run_inputs, List.map_append, List.map_append] at same
  refine ⟨_, _, _, same, ?_⟩
  rw [same, run_append, run_append, List.append_assoc, List.append_assoc] at split
  have firstLength : (cycle.run counted count (before.map Prod.fst)).length = before.length := by
    rw [← List.length_map Prod.fst, run_inputs, List.length_map]
  obtain ⟨first, rest⟩ := List.append_inj split firstLength
  have middleLength : (cycle.run counted (cycle.after counted count (before.map Prod.fst))
      (block.map Prod.fst)).length = block.length := by
    rw [← List.length_map Prod.fst, run_inputs, List.length_map]
  exact ⟨first.symm, (List.append_inj rest middleLength).1.symm⟩

/-- However long a run, no block of shown inputs is longer than the first part of the cycle. -/
theorem shown_block (positive : 0 < cycle.off) {inputs : List Input}
    {before block behind : List (Input × Bool)}
    (split : cycle.run counted 0 inputs = before ++ block ++ behind)
    (allShown : ∀ entry ∈ block, Shown counted entry) : block.length ≤ cycle.on := by
  obtain ⟨first, middle, last, rfl, rfl, rfl⟩ := run_split split
  have bound := shown_length positive middle _ allShown
  rw [← List.length_map Prod.fst, run_inputs]
  omega

/-- A block of cut inputs, with no cut input before it, fits into the second part of the cycle and
lies directly behind the first. -/
theorem cut_block (positiveOn : 0 < cycle.on) (positiveOff : 0 < cycle.off) {inputs : List Input}
    {before block behind : List (Input × Bool)}
    (split : cycle.run counted 0 inputs = before ++ block ++ behind) (nonempty : block ≠ [])
    (allCut : ∀ entry ∈ block, Cut counted entry)
    (leftmost : ∀ entry ∈ before.getLast?, ¬ Cut counted entry) :
    block.length ≤ cycle.off ∧ ∃ earlier shown, before = earlier ++ shown ∧
      shown.length = cycle.on ∧ ∀ entry ∈ shown, Shown counted entry := by
  obtain ⟨first, middle, last, rfl, rfl, rfl⟩ := run_split split
  obtain ⟨within, earlier, shown, cut, whole, allShown, cutBefore, shownLength, cutLength⟩ :=
    @run_behind _ cycle counted positiveOff first
  have bound := cut_length positiveOn middle _ within allCut
  have length : (cycle.run counted (cycle.after counted 0 first) middle).length = middle.length := by
    rw [← List.length_map Prod.fst, run_inputs]
  have some : 0 < middle.length := by
    rw [← length]
    exact List.length_pos_iff.mpr nonempty
  have late : ¬ cycle.after counted 0 first < cycle.on := by
    intro early
    rw [if_pos early] at bound
    omega
  rw [if_neg late] at bound
  -- What is cut before the block would end the part before it.
  have none : cut = [] := by
    by_contra more
    have last : cut.getLast more ∈ (cycle.run counted 0 first).getLast? := by
      rw [whole, List.getLast?_append, List.getLast?_eq_some_getLast more]
      rfl
    exact leftmost _ last (cutBefore _ (List.getLast_mem more))
  rw [none, List.length_nil] at cutLength
  refine ⟨by omega, earlier, shown, by rw [whole, none, List.append_nil], by omega, allShown⟩

end Cycle
end DutyCycle
end Ioniq5Ecan.Library
