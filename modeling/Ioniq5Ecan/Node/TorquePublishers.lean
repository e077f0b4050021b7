import Mathlib.Tactic.Linarith
import Mathlib.Tactic.NormNum
import Ioniq5Ecan.Node.CommandOrder

/-! # The torque scripts and the node

`torque_slider.py` and `torque_test.py` publish numbered commands.  The topic
loses some of them, and a script that is started again begins at 1.  The node
hears a script once its first message is newer than what it has, or comes
later than the command timeout, and hears every message that arrives from then
on. -/
set_option autoImplicit false
namespace Ioniq5Ecan

open Library

/-! ## publish -/

/-- The `acceleration` and the `sequence` of either script. -/
structure TorquePublisher where
  acceleration : Double
  sequence : Nat := 0

namespace TorquePublisher

def publish (publisher : TorquePublisher) (lateral : Double) : TorquePublisher × ActuationCommand :=
  let sequence := publisher.sequence % 0xFFFFFFFF + 1
  ({ publisher with sequence := sequence },
    { sequence := UInt32.ofNat sequence
      enable := true
      lateral := lateral
      acceleration := publisher.acceleration })

def publishAll : TorquePublisher → List Double → List ActuationCommand
  | _, [] => []
  | publisher, lateral :: rest =>
      let published := publisher.publish lateral
      published.2 :: published.1.publishAll rest

end TorquePublisher

/-! ## torque_slider.py -/

/-- `set_target` clips to the range of the slider. -/
def setTarget (range value : Rat) : Rat := max (-range) (min range value)

/-- The value of each tick, after the calls of `set_target` since the last one. -/
def sliderValues (range : Rat) : Rat → List (List Rat) → List Rat
  | _, [] => []
  | target, calls :: rest =>
      let target := calls.foldl (fun _ value => setTarget range value) target
      target :: sliderValues range target rest

/-- `TorqueSender.run`: the slider until it is stopped, then zeros. -/
def sliderLaterals (range : Rat) (ticks : List (List Rat)) (tail : Nat) : List Double :=
  (sliderValues range 0 ticks).map Double.finite ++ List.replicate tail .zero

/-! ## torque_test.py -/

structure TestRound where
  shutdown : Bool
  now : Rat
  lateralControlActive : Bool

/-- The loop until its end or the key interrupt, which cuts it. -/
def testValues (profile : Rat → Double) (durationS : Rat) :
    Bool → Option Rat → List TestRound → List Double
  | _, _, [] => []
  | running, start, round :: rest =>
      if round.shutdown then []
      else
        let running := running || round.lateralControlActive
        let start := if running && start.isNone then some round.now else start
        let profileT := start.elim 0 (round.now - ·)
        if running && decide (0 < durationS) && decide (durationS ≤ profileT) then []
        else
          (if running then profile profileT else .zero) ::
            testValues profile durationS running start rest

def testLaterals (noWaitActive : Bool) (profile : Rat → Double) (durationS : Rat)
    (rounds : List TestRound) (tail : Nat) : List Double :=
  testValues profile durationS noWaitActive none rounds ++ List.replicate tail .zero

/-! ## The sequence -/

def sequenceOf (index : Nat) : Nat := index % 0xFFFFFFFF + 1

theorem sequenceOf_lt (index : Nat) : sequenceOf index < 2 ^ 32 := by
  unfold sequenceOf
  omega

theorem sequenceOf_pos (index : Nat) : 0 < sequenceOf index := Nat.succ_pos _

theorem publishAll_getElem (acceleration : Double) (laterals : List Double) :
    ∀ before index : Nat, (TorquePublisher.publishAll
        { acceleration := acceleration, sequence := before } laterals)[index]? =
      laterals[index]?.map fun lateral =>
        { sequence := UInt32.ofNat (sequenceOf (before + index))
          enable := true
          lateral := lateral
          acceleration := acceleration } := by
  induction laterals with
  | nil => intro before index; simp [TorquePublisher.publishAll]
  | cons lateral rest ih =>
      intro before index
      cases index with
      | zero => rfl
      | succ index =>
          have later := ih (before % 0xFFFFFFFF + 1) index
          have shifted : sequenceOf (before % 0xFFFFFFFF + 1 + index) =
              sequenceOf (before + (index + 1)) := by
            unfold sequenceOf
            omega
          rw [shifted] at later
          exact later

/-- A message is newer than one less than `2 ^ 31 - 1` places before it. -/
theorem sequenceOf_newer {earlier later : Nat} (after : earlier < later)
    (near : later < earlier + 0x7FFFFFFF) :
    sequenceIsNewer (UInt32.ofNat (sequenceOf later)) (UInt32.ofNat (sequenceOf earlier)) = true := by
  have first : (UInt32.ofNat (sequenceOf later)).toNat = sequenceOf later :=
    UInt32.toNat_ofNat_of_lt' (sequenceOf_lt later)
  have second : (UInt32.ofNat (sequenceOf earlier)).toNat = sequenceOf earlier :=
    UInt32.toNat_ofNat_of_lt' (sequenceOf_lt earlier)
  have difference := UInt32.toNat_sub (UInt32.ofNat (sequenceOf later))
    (UInt32.ofNat (sequenceOf earlier))
  rw [first, second] at difference
  unfold sequenceIsNewer
  split
  · rfl
  · have zero : (0 : UInt32).toNat = 0 := rfl
    have half : (0x80000000 : UInt32).toNat = 2 ^ 31 := by decide
    have spread : sequenceOf later = sequenceOf earlier + (later - earlier) ∨
        sequenceOf later + 0xFFFFFFFF = sequenceOf earlier + (later - earlier) := by
      unfold sequenceOf
      omega
    have lower := sequenceOf_pos later
    have upper := sequenceOf_lt earlier
    simp only [Bool.and_eq_true, bne_iff_ne, ne_eq, decide_eq_true_eq, ← UInt32.toNat_inj,
      UInt32.lt_iff_toNat_lt, zero, half, difference]
    omega

/-! ## Delivery -/

structure Delivery where
  index : Nat
  receivedAt : TimePoint

/-- The messages arrive in order, and not too many in a row are lost. -/
def Spaced (deliveries : List Delivery) : Prop :=
  deliveries.IsChain fun earlier later =>
    earlier.index < later.index ∧ later.index < earlier.index + 0x7FFFFFFF

section Hearing
variable (config : NodeConfig) (messages : List ActuationCommand)

def hear (input : CommandInput) (delivery : Delivery) : CommandInput :=
  match messages[delivery.index]? with
  | some message => input.commandCallback config message delivery.receivedAt
  | none => input

def hearAll (input : CommandInput) (deliveries : List Delivery) : CommandInput :=
  deliveries.foldl (hear config messages) input

/-- The first deliveries are discarded, soon after the command the node has; every later one is the
command of the node when it has arrived. -/
structure HeardFrom (input : CommandInput) (stale heard : List Delivery) : Prop where
  discarded : ∀ delivery ∈ stale, ∃ message, messages[delivery.index]? = some message ∧
    input.discards config message delivery.receivedAt = true
  soon : ∀ delivery ∈ stale, recent input.latestCommand.receivedAt delivery.receivedAt
    config.safety.commandTimeout = true
  stored : ∀ before delivery after, heard = before ++ delivery :: after →
    ∃ message, messages[delivery.index]? = some message ∧
      hearAll config messages input (stale ++ before ++ [delivery]) =
        CommandInput.accepted config {} message delivery.receivedAt

end Hearing

section Scripts
variable {config : NodeConfig} {acceleration : Double} {laterals : List Double}
  {input : CommandInput}

def messageAt (acceleration lateral : Double) (index : Nat) : ActuationCommand where
  sequence := UInt32.ofNat (sequenceOf index)
  enable := true
  lateral := lateral
  acceleration := acceleration

theorem publishAll_messageAt (index : Nat) :
    (TorquePublisher.publishAll { acceleration := acceleration } laterals)[index]? =
      laterals[index]?.map (messageAt acceleration · index) := by
  rw [publishAll_getElem, Nat.zero_add]
  rfl

theorem message_of_lateral {index : Nat} {lateral : Double}
    (isLateral : laterals[index]? = some lateral) :
    (TorquePublisher.publishAll { acceleration := acceleration } laterals)[index]? =
      some (messageAt acceleration lateral index) := by
  rw [publishAll_messageAt, isLateral]
  rfl

theorem messageAt_numbered (lateral : Double) (index : Nat) :
    (messageAt acceleration lateral index).sequence ≠ 0 := by
  intro zero
  have value : (UInt32.ofNat (sequenceOf index)).toNat = 0 := congrArg UInt32.toNat zero
  rw [UInt32.toNat_ofNat_of_lt' (sequenceOf_lt index)] at value
  exact absurd value (Nat.ne_of_gt (sequenceOf_pos index))

theorem accepted_numbered {message : ActuationCommand} (numbered : message.sequence ≠ 0)
    (receivedAt : TimePoint) :
    input.accepted config message receivedAt =
      CommandInput.accepted config {} message receivedAt := by
  simp [CommandInput.accepted, numbered]

theorem accepted_sequence {message : ActuationCommand} (numbered : message.sequence ≠ 0)
    (receivedAt : TimePoint) :
    (CommandInput.accepted config {} message receivedAt).lastSequence = message.sequence := by
  simp [CommandInput.accepted, numbered]

theorem hear_accepted {delivery : Delivery} {lateral : Double} (finite : acceleration.isFinite = true)
    (isLateral : laterals[delivery.index]? = some lateral) (isFinite : lateral.isFinite = true)
    (passes : input.discards config (messageAt acceleration lateral delivery.index)
      delivery.receivedAt = false) :
    hear config (TorquePublisher.publishAll { acceleration := acceleration } laterals) input
        delivery =
      CommandInput.accepted config {} (messageAt acceleration lateral delivery.index)
        delivery.receivedAt := by
  have whole : (messageAt acceleration lateral delivery.index).isFinite = true := by
    rw [ActuationCommand.isFinite, Bool.and_eq_true]
    exact ⟨isFinite, finite⟩
  rw [hear, publishAll_messageAt, isLateral, Option.map_some]
  rcases commandCallback_cases config input (messageAt acceleration lateral delivery.index)
    delivery.receivedAt with ⟨discarded, _⟩ | ⟨_, notFinite, _⟩ | ⟨_, _, accepted⟩
  · exact absurd (passes.symm.trans discarded) Bool.false_ne_true
  · exact absurd (notFinite.symm.trans whole) Bool.false_ne_true
  · exact accepted.trans (accepted_numbered (messageAt_numbered lateral delivery.index) _)

theorem HeardFrom.cons {messages : List ActuationCommand} {delivery : Delivery}
    {rest : List Delivery} {message : ActuationCommand}
    (isMessage : messages[delivery.index]? = some message)
    (heard : hear config messages input delivery =
      CommandInput.accepted config {} message delivery.receivedAt)
    (later : HeardFrom config messages
      (CommandInput.accepted config {} message delivery.receivedAt) [] rest) :
    HeardFrom config messages input [] (delivery :: rest) := by
  refine ⟨by simp, by simp, fun before next following parts => ?_⟩
  cases before with
  | nil =>
      obtain ⟨isNext, _⟩ := List.cons.inj parts
      subst isNext
      exact ⟨message, isMessage, heard⟩
  | cons first before =>
      obtain ⟨isFirst, others⟩ := List.cons.inj parts
      subst isFirst
      obtain ⟨message, known, stored⟩ := later.stored before next following others
      refine ⟨message, known, ?_⟩
      rw [← stored]
      simp only [hearAll, List.nil_append, List.cons_append, List.foldl_cons, heard]

theorem head_spaced {delivery : Delivery} {rest : List Delivery}
    (spaced : Spaced (delivery :: rest)) : ∀ first ∈ rest.head?,
      delivery.index < first.index ∧ first.index < delivery.index + 0x7FFFFFFF := by
  intro first isFirst
  cases rest with
  | nil => cases isFirst
  | cons next rest =>
      cases isFirst
      exact (List.isChain_cons_cons.mp spaced).1

theorem heard_after (finite : acceleration.isFinite = true)
    (allFinite : ∀ lateral ∈ laterals, Double.isFinite lateral = true)
    (deliveries : List Delivery) :
    ∀ (input : CommandInput) (index : Nat),
      input.lastSequence = UInt32.ofNat (sequenceOf index) →
      (∀ delivery ∈ deliveries, delivery.index < laterals.length) →
      (∀ first ∈ deliveries.head?,
        index < first.index ∧ first.index < index + 0x7FFFFFFF) → Spaced deliveries →
      HeardFrom config (TorquePublisher.publishAll { acceleration := acceleration } laterals) input
        [] deliveries := by
  induction deliveries with
  | nil =>
      intro input index _ _ _ _
      exact ⟨by simp, by simp, by simp⟩
  | cons delivery rest ih =>
      intro input index last inside near spaced
      obtain ⟨after, close⟩ := near delivery rfl
      obtain ⟨within, others⟩ := List.forall_mem_cons.mp inside
      have isLateral := List.getElem?_eq_getElem within
      have passes : input.discards config (messageAt acceleration laterals[delivery.index]
          delivery.index) delivery.receivedAt = false := by
        have newer := sequenceOf_newer after close
        simp [CommandInput.discards, last, messageAt, newer]
      apply HeardFrom.cons (message_of_lateral isLateral)
      · exact hear_accepted finite isLateral (allFinite _ (List.getElem_mem within)) passes
      · exact ih _ delivery.index (accepted_sequence (messageAt_numbered _ _) _) others
          (head_spaced spaced) spaced.of_cons

/-- Whatever the node has heard before: a script is deaf for at most the command timeout after the
last command, and heard from then on. -/
theorem heard_script (finite : acceleration.isFinite = true)
    (allFinite : ∀ lateral ∈ laterals, Double.isFinite lateral = true)
    (deliveries : List Delivery) :
    ∀ input : CommandInput,
      (∀ delivery ∈ deliveries, delivery.index < laterals.length) → Spaced deliveries →
      ∃ stale heard, deliveries = stale ++ heard ∧
        HeardFrom config (TorquePublisher.publishAll { acceleration := acceleration } laterals) input
          stale heard := by
  induction deliveries with
  | nil =>
      intro input _ _
      exact ⟨[], [], rfl, by simp, by simp, by simp⟩
  | cons delivery rest ih =>
      intro input inside spaced
      obtain ⟨within, others⟩ := List.forall_mem_cons.mp inside
      have isLateral := List.getElem?_eq_getElem within
      have isMessage := @message_of_lateral acceleration laterals _ _ isLateral
      cases discards : input.discards config
          (messageAt acceleration laterals[delivery.index] delivery.index) delivery.receivedAt with
      | true =>
          have unheard : hear config (TorquePublisher.publishAll { acceleration := acceleration }
              laterals) input delivery = input := by
            rw [hear, isMessage]
            exact if_pos discards
          have isRecent : recent input.latestCommand.receivedAt delivery.receivedAt
              config.safety.commandTimeout = true := by
            simp only [CommandInput.discards, Bool.and_eq_true] at discards
            exact discards.1.2
          obtain ⟨stale, heard, parts, from'⟩ := ih input others spaced.of_cons
          refine ⟨delivery :: stale, heard, by rw [parts]; rfl, ?_, ?_, ?_⟩
          · rw [List.forall_mem_cons]
            exact ⟨⟨_, isMessage, discards⟩, from'.discarded⟩
          · rw [List.forall_mem_cons]
            exact ⟨isRecent, from'.soon⟩
          · intro before next after parts
            obtain ⟨message, known, stored⟩ := from'.stored before next after parts
            refine ⟨message, known, ?_⟩
            rw [← stored]
            simp only [hearAll, List.cons_append, List.foldl_cons, unheard]
      | false =>
          refine ⟨[], delivery :: rest, rfl, HeardFrom.cons isMessage ?_ ?_⟩
          · exact hear_accepted finite isLateral (allFinite _ (List.getElem_mem within)) discards
          · exact heard_after finite allFinite rest _ delivery.index
              (accepted_sequence (messageAt_numbered _ _) _) others (head_spaced spaced)
              spaced.of_cons

end Scripts

/-! ## What the scripts say -/

inductive TorqueScript
  | slider (range : Rat) (ticks : List (List Rat)) (tail : Nat)
  | test (noWaitActive : Bool) (profile : Rat → Double) (durationS : Rat)
      (rounds : List TestRound) (tail : Nat)

namespace TorqueScript

def laterals : TorqueScript → List Double
  | slider range ticks tail => sliderLaterals range ticks tail
  | test noWaitActive profile durationS rounds tail =>
      testLaterals noWaitActive profile durationS rounds tail

/-- The range of the slider that `parse_args` accepts, and a profile of finite torques. -/
def Accepted : TorqueScript → Prop
  | slider range _ _ => 0 < range
  | test _ profile _ _ _ => ∀ time, (profile time).isFinite = true

def published : TorqueScript → Nat
  | slider _ ticks _ => ticks.length
  | test noWaitActive profile durationS rounds _ =>
      (testValues profile durationS noWaitActive none rounds).length

/-- The slider keeps to its range, the test is at zero until the state that it waits for has been
active, and either ends with zeros. -/
structure Says (script : TorqueScript) (index : Nat) (lateral : Double) : Prop where
  value : match script with
    | slider range _ _ => ∃ value : Rat, lateral = .finite value ∧ -range ≤ value ∧ value ≤ range
    | test noWaitActive profile _ rounds _ => lateral = .zero ∨
        ((noWaitActive = true ∨ ∃ round ∈ rounds.take (index + 1),
          round.lateralControlActive = true) ∧ ∃ time, lateral = profile time)
  tail : script.published ≤ index → lateral = .zero

end TorqueScript

theorem setTarget_within {range : Rat} (positive : 0 < range) (value : Rat) :
    -range ≤ setTarget range value ∧ setTarget range value ≤ range :=
  ⟨le_max_left _ _, max_le (neg_le_self positive.le |>.trans le_rfl) (min_le_left _ _)⟩

theorem sliderValues_length (range : Rat) (ticks : List (List Rat)) :
    ∀ target, (sliderValues range target ticks).length = ticks.length := by
  induction ticks with
  | nil => intro target; rfl
  | cons calls rest ih => intro target; simp [sliderValues, ih]

theorem sliderValues_within {range : Rat} (positive : 0 < range) (ticks : List (List Rat)) :
    ∀ target, -range ≤ target → target ≤ range → ∀ value ∈ sliderValues range target ticks,
      -range ≤ value ∧ value ≤ range := by
  induction ticks with
  | nil => intro target _ _ value member; cases member
  | cons calls rest ih =>
      intro target above below
      have within : ∀ calls : List Rat,
          -range ≤ calls.foldl (fun _ value => setTarget range value) target ∧
            calls.foldl (fun _ value => setTarget range value) target ≤ range := by
        intro calls
        cases last : calls.getLast? with
        | none =>
            rw [List.getLast?_eq_none_iff.mp last]
            exact ⟨above, below⟩
        | some value =>
            obtain ⟨earlier, rfl⟩ := List.getLast?_eq_some_iff.mp last
            rw [List.foldl_append]
            exact setTarget_within positive value
      simp only [sliderValues, List.forall_mem_cons]
      exact ⟨within calls, ih _ (within calls).1 (within calls).2⟩

/-- Until it runs the test is at zero, and it runs once the state is active. -/
theorem testValues_waits (profile : Rat → Double) (durationS : Rat) (rounds : List TestRound) :
    ∀ running start index lateral,
      (testValues profile durationS running start rounds)[index]? = some lateral →
      lateral = .zero ∨ ((running = true ∨ ∃ round ∈ rounds.take (index + 1),
        round.lateralControlActive = true) ∧ ∃ time, lateral = profile time) := by
  induction rounds with
  | nil => intro running start index lateral isLateral; simp [testValues] at isLateral
  | cons round rest ih =>
      intro running start index lateral isLateral
      rw [testValues] at isLateral
      split at isLateral
      · simp at isLateral
      dsimp only at isLateral
      -- when the profile began does not matter here
      generalize (if (running || round.lateralControlActive) && start.isNone then some round.now
        else start) = begun at isLateral
      generalize begun.elim 0 (round.now - ·) = profileT at isLateral
      have later : ∀ index, (testValues profile durationS (running || round.lateralControlActive)
          begun rest)[index]? = some lateral → lateral = .zero ∨
            ((running = true ∨ ∃ round' ∈ (round :: rest).take (index + 2),
              round'.lateralControlActive = true) ∧ ∃ time, lateral = profile time) := by
        intro index isLater
        rcases ih _ _ index lateral isLater with zero | ⟨runs, isProfile⟩
        · exact .inl zero
        · refine .inr ⟨?_, isProfile⟩
          rcases runs with runs | ⟨next, member, active⟩
          · rcases Bool.or_eq_true_iff.mp runs with before | active
            · exact .inl before
            · exact .inr ⟨round, List.mem_cons_self, active⟩
          · exact .inr ⟨next, List.mem_cons_of_mem _ member, active⟩
      split at isLateral
      · simp at isLateral
      cases index with
      | succ index => exact later index isLateral
      | zero =>
          have value := (Option.some.inj isLateral).symm
          cases runs : running || round.lateralControlActive with
          | false => exact .inl (value.trans (by simp [runs]))
          | true =>
              refine .inr ⟨?_, profileT, value.trans (by simp [runs])⟩
              simpa using runs

theorem TorqueScript.lateral_kept {script : TorqueScript} (accepted : script.Accepted) {index : Nat}
    {lateral : Double} (isLateral : script.laterals[index]? = some lateral) :
    script.Says index lateral ∧ lateral.isFinite = true := by
  cases script with
  | slider range ticks tail =>
      have positive : 0 < range := accepted
      have length := sliderValues_length range ticks 0
      rcases Nat.lt_or_ge index ticks.length with early | late
      · rw [laterals, sliderLaterals, List.getElem?_append_left (by simpa [length] using early),
          List.getElem?_map] at isLateral
        obtain ⟨value, isValue, same⟩ := Option.map_eq_some_iff.mp isLateral
        subst same
        have within := sliderValues_within positive ticks 0 (by linarith) positive.le value
          (List.mem_of_getElem? isValue)
        exact ⟨⟨⟨value, rfl, within⟩, fun late => absurd late (Nat.not_le.mpr early)⟩, rfl⟩
      · rw [laterals, sliderLaterals, List.getElem?_append_right (by simpa [length] using late)]
          at isLateral
        have zero := List.eq_of_mem_replicate (List.mem_of_getElem? isLateral)
        subst zero
        exact ⟨⟨⟨0, rfl, by linarith, positive.le⟩, fun _ => rfl⟩, rfl⟩
  | test noWaitActive profile durationS rounds tail =>
      have finite : lateral = .zero ∨ (∃ time, lateral = profile time) → lateral.isFinite = true := by
        rintro (zero | ⟨time, isProfile⟩)
        · rw [zero]
          rfl
        · rw [isProfile]
          exact accepted time
      rw [laterals, testLaterals, List.getElem?_append] at isLateral
      split at isLateral
      · rename_i early
        have kept := testValues_waits profile durationS rounds noWaitActive none index lateral isLateral
        exact ⟨⟨kept, fun late => absurd late (Nat.not_le.mpr early)⟩,
          finite (kept.imp_right And.right)⟩
      · have zero := List.eq_of_mem_replicate (List.mem_of_getElem? isLateral)
        exact ⟨⟨.inl zero, fun _ => zero⟩, finite (.inl zero)⟩

/-- Whatever the node has received before, and whichever messages of a script get lost, at most
`2 ^ 31 - 3` in a row: the node discards what arrives of the script at most for the command timeout
after the command it had, and from then on every message that arrives is its command.  Such a
command is within the slider's range, that of a test that waits is zero until the state was active,
and in the tail it is zero. -/
theorem script_heard (config : NodeConfig) (input : CommandInput) (script : TorqueScript)
    (acceleration : Double) (deliveries : List Delivery) (accepted : script.Accepted)
    (finite : acceleration.isFinite = true)
    (inside : ∀ delivery ∈ deliveries, delivery.index < script.laterals.length)
    (spaced : Spaced deliveries) :
    ∃ stale heard, deliveries = stale ++ heard ∧
      HeardFrom config (TorquePublisher.publishAll { acceleration := acceleration }
        script.laterals) input stale heard ∧
      ∀ before delivery after, heard = before ++ delivery :: after →
        script.Says delivery.index (hearAll config (TorquePublisher.publishAll
          { acceleration := acceleration } script.laterals) input
            (stale ++ before ++ [delivery])).latestCommand.lateral := by
  have allFinite : ∀ lateral ∈ script.laterals, Double.isFinite lateral = true := by
    intro lateral member
    obtain ⟨index, isLateral⟩ := List.getElem?_of_mem member
    exact (TorqueScript.lateral_kept accepted isLateral).2
  obtain ⟨stale, heard, parts, from'⟩ := heard_script finite allFinite deliveries input inside spaced
  refine ⟨stale, heard, parts, from', fun before delivery after isHeard => ?_⟩
  obtain ⟨message, isMessage, stored⟩ := from'.stored before delivery after isHeard
  rw [publishAll_messageAt] at isMessage
  obtain ⟨lateral, isLateral, same⟩ := Option.map_eq_some_iff.mp isMessage
  subst same
  rw [stored]
  exact (TorqueScript.lateral_kept accepted isLateral).1

/-- A slider that is started again while the node still has command 40 of the last run: its first
message is discarded, and one after the timeout is heard. -/
theorem restarted_slider_heard :
    ∃ stale heard, [(⟨0, 1000000⟩ : Delivery), ⟨20, 201000000⟩] = stale ++ heard ∧
      HeardFrom {} (TorquePublisher.publishAll { acceleration := .zero }
        (TorqueScript.slider 1021 (List.replicate 21 [50]) 1).laterals)
        { latestCommand := { receivedAt := 900000 }, lastSequence := 40 } stale heard ∧
      ∀ before delivery after, heard = before ++ delivery :: after →
        (TorqueScript.slider 1021 (List.replicate 21 [50]) 1).Says delivery.index
          (hearAll {} (TorquePublisher.publishAll { acceleration := .zero }
            (TorqueScript.slider 1021 (List.replicate 21 [50]) 1).laterals)
              { latestCommand := { receivedAt := 900000 }, lastSequence := 40 }
              (stale ++ before ++ [delivery])).latestCommand.lateral :=
  script_heard {} _ (.slider 1021 (List.replicate 21 [50]) 1) .zero _ (by norm_num [TorqueScript.Accepted])
    rfl (by decide) (by simp [Spaced])

end Ioniq5Ecan
