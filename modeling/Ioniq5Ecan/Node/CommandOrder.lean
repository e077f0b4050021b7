import Ioniq5Ecan.Library.SerialOrder
import Ioniq5Ecan.Node.Sampling

/-! # The order of commands

`command_callback` discards a command that is not newer than the last accepted
one.  A rejected command takes the output away but leaves `last_sequence_`, so
commands between the last accepted and the rejected one still pass.
`newest_command_iff`: apart from those, `latest_command_` is what the newest
received command says. -/
set_option autoImplicit false
namespace Ioniq5Ecan

open Library

/-! ## What the newest command says -/

namespace ActuationCommand

def isFinite (message : ActuationCommand) : Bool :=
  message.lateral.isFinite && message.acceleration.isFinite

def offset (base : UInt32) (message : ActuationCommand) : Nat := serialOffset base message.sequence

end ActuationCommand

/-- What a command makes of the output: its values and whether they may be used. -/
structure CommandView where
  lateral : Double := .zero
  accelerationMps2 : Double := .zero
  enable : Bool := false
  valid : Bool := false
  deriving DecidableEq

def CommandSample.view (sample : CommandSample) : CommandView where
  lateral := sample.lateral
  accelerationMps2 := sample.accelerationMps2
  enable := sample.enable
  valid := sample.valid

section Received
variable (config : NodeConfig) (base : UInt32) (received : List ActuationCommand)

def newestFinite : Option ActuationCommand :=
  (received.filter ActuationCommand.isFinite).argmax (ActuationCommand.offset base)

def storedValues : CommandView :=
  match newestFinite base received with
  | none => {}
  | some message => { lateral := message.lateral, accelerationMps2 := message.acceleration }

/-- The output by the newest command received; a command that is not finite withdraws it. -/
def newestView : CommandView :=
  match received.argmax (ActuationCommand.offset base) with
  | none => {}
  | some message =>
      if message.isFinite then
        { lateral := message.lateral
          accelerationMps2 := message.acceleration
          enable := !config.useEnableField || message.enable
          valid := true }
      else storedValues base received

/-- Not newer than all commands received, but newer than all finite ones. -/
def SlipsIn (message : ActuationCommand) : Prop :=
  (∃ earlier ∈ received, message.offset base ≤ earlier.offset base) ∧
    ∀ earlier ∈ received, earlier.isFinite = true → earlier.offset base < message.offset base

instance (message : ActuationCommand) : Decidable (SlipsIn base received message) :=
  inferInstanceAs (Decidable (_ ∧ _))

end Received

/-! ## Runs of the callback -/

structure Arrival where
  message : ActuationCommand
  receivedAt : TimePoint
  deriving DecidableEq

structure Callback where
  received : List ActuationCommand
  before : CommandInput
  arrival : Arrival
  after : CommandInput

abbrev CommandHistory : Type := List ActuationCommand × CommandInput

def commandMachine (config : NodeConfig) : CallMachine CommandHistory Arrival Callback where
  call history arrival :=
    let after := history.2.commandCallback config arrival.message arrival.receivedAt
    ((history.1 ++ [arrival.message], after),
      { received := history.1, before := history.2, arrival, after })

/-- The newest command decides, and a command that is not newer changes nothing. -/
structure Callback.NewestWins (config : NodeConfig) (base : UInt32) (callback : Callback) :
    Prop where
  ignored : (∃ earlier ∈ callback.received,
      callback.arrival.message.offset base ≤ earlier.offset base) →
    callback.after = callback.before
  shows : callback.after.latestCommand.view =
    newestView config base (callback.received ++ [callback.arrival.message])

instance (config : NodeConfig) (base : UInt32) (callback : Callback) :
    Decidable (callback.NewestWins config base) :=
  decidable_of_iff (((∃ earlier ∈ callback.received,
        callback.arrival.message.offset base ≤ earlier.offset base) →
      callback.after = callback.before) ∧
    callback.after.latestCommand.view =
      newestView config base (callback.received ++ [callback.arrival.message]))
    ⟨fun ⟨ignored, shows⟩ => ⟨ignored, shows⟩, fun ⟨ignored, shows⟩ => ⟨ignored, shows⟩⟩

/-- Outside the run that is looked at: without a number, out of the window, or after a pause. -/
def Unordered (config : NodeConfig) (base : UInt32) (history : CommandHistory) (arrival : Arrival) :
    Prop :=
  ¬ (arrival.message.sequence ≠ 0 ∧ arrival.message.offset base < 2 ^ 31 ∧
    (history.1 = [] ∨ recent history.2.latestCommand.receivedAt arrival.receivedAt
      config.safety.commandTimeout = true))

instance (config : NodeConfig) (base : UInt32) (history : CommandHistory) (arrival : Arrival) :
    Decidable (Unordered config base history arrival) :=
  inferInstanceAs (Decidable (¬ _))

/-- A command that slips in, other than one that rejects again at the same clock reading. -/
def Undercuts (base : UInt32) (history : CommandHistory) (arrival : Arrival) : Prop :=
  SlipsIn base history.1 arrival.message ∧
    ¬ (arrival.message.isFinite = false ∧
      arrival.receivedAt = history.2.latestCommand.receivedAt)

instance (base : UInt32) (history : CommandHistory) (arrival : Arrival) :
    Decidable (Undercuts base history arrival) :=
  inferInstanceAs (Decidable (_ ∧ _))

/-! ## One more command -/

section OneMore
variable {config : NodeConfig} {base : UInt32} {received : List ActuationCommand}
  {message : ActuationCommand}

theorem storedValues_withdrawn :
    (storedValues base received).enable = false ∧ (storedValues base received).valid = false := by
  unfold storedValues
  split
  · exact ⟨rfl, rfl⟩
  · exact ⟨rfl, rfl⟩

theorem newestFinite_known
    (known : message.isFinite = true →
      ∃ earlier ∈ received, earlier.isFinite = true ∧ message.offset base ≤ earlier.offset base) :
    newestFinite base (received ++ [message]) = newestFinite base received := by
  unfold newestFinite
  rw [List.filter_append]
  cases finite : message.isFinite with
  | false => rw [List.filter_cons_of_neg (by simp [finite]), List.filter_nil, List.append_nil]
  | true =>
      obtain ⟨earlier, member, earlierFinite, above⟩ := known finite
      rw [List.filter_cons_of_pos finite, List.filter_nil,
        newest_append_of_le ⟨earlier, List.mem_filter.mpr ⟨member, earlierFinite⟩, above⟩]

theorem newestFinite_new (finite : message.isFinite = true)
    (newer : ∀ earlier ∈ received, earlier.isFinite = true →
      earlier.offset base < message.offset base) :
    newestFinite base (received ++ [message]) = some message := by
  unfold newestFinite
  rw [List.filter_append, List.filter_cons_of_pos finite, List.filter_nil,
    newest_append_of_lt fun earlier member =>
      newer earlier (List.mem_filter.mp member).1 (List.mem_filter.mp member).2]

theorem storedValues_known
    (known : message.isFinite = true →
      ∃ earlier ∈ received, earlier.isFinite = true ∧ message.offset base ≤ earlier.offset base) :
    storedValues base (received ++ [message]) = storedValues base received := by
  unfold storedValues
  rw [newestFinite_known known]

theorem newestView_known
    (known : ∃ earlier ∈ received, message.offset base ≤ earlier.offset base)
    (knownValues : message.isFinite = true →
      ∃ earlier ∈ received, earlier.isFinite = true ∧ message.offset base ≤ earlier.offset base) :
    newestView config base (received ++ [message]) = newestView config base received := by
  unfold newestView
  rw [newest_append_of_le known, storedValues_known knownValues]

theorem newestView_new
    (newer : ∀ earlier ∈ received, earlier.offset base < message.offset base) :
    newestView config base (received ++ [message]) =
      if message.isFinite then
        { lateral := message.lateral
          accelerationMps2 := message.acceleration
          enable := !config.useEnableField || message.enable
          valid := true }
      else storedValues base received := by
  unfold newestView
  rw [newest_append_of_lt newer]
  by_cases finite : message.isFinite = true
  · rw [if_pos finite]
    exact if_pos finite
  · rw [if_neg finite]
    exact (if_neg finite).trans (storedValues_known fun other => absurd other finite)

theorem newestView_slipped (slips : SlipsIn base received message) :
    newestView config base received = storedValues base received := by
  obtain ⟨⟨earlier, member, above⟩, newer⟩ := slips
  unfold newestView
  cases newest : received.argmax (ActuationCommand.offset base) with
  | none =>
      rw [List.argmax_eq_none.mp newest] at member
      cases member
  | some best =>
      have most := List.le_of_mem_argmax member newest
      have rejected : ¬ best.isFinite = true := by
        intro finite
        have := newer best (List.argmax_mem newest) finite
        omega
      exact if_neg rejected

end OneMore

/-! ## The callback -/

section Step
variable {config : NodeConfig} {base : UInt32} {received : List ActuationCommand}
  {input : CommandInput} {message : ActuationCommand} {receivedAt : TimePoint}

/-- What the callback knows of the commands before: the number of the newest finite one. -/
structure OrderInvariant (config : NodeConfig) (base : UInt32) (history : CommandHistory) :
    Prop where
  window : ∀ message ∈ history.1, message.sequence ≠ 0 ∧ message.offset base < 2 ^ 31
  last : history.2.lastSequence =
    ((newestFinite base history.1).map ActuationCommand.sequence).getD 0
  values : { history.2.latestCommand.view with enable := false, valid := false } =
    storedValues base history.1
  shows : history.2.latestCommand.view = newestView config base history.1

theorem orderInvariant_initial : OrderInvariant config base ([], {}) where
  window _ member := by cases member
  last := rfl
  values := rfl
  shows := rfl

def CommandInput.rejected (input : CommandInput) (receivedAt : TimePoint) : CommandInput :=
  { input with
    latestCommand := { input.latestCommand with
      valid := false, enable := false, receivedAt := receivedAt } }

def CommandInput.accepted (config : NodeConfig) (input : CommandInput) (message : ActuationCommand)
    (receivedAt : TimePoint) : CommandInput where
  lastSequence := if message.sequence != 0 then message.sequence else input.lastSequence
  latestCommand :=
    { lateral := message.lateral
      accelerationMps2 := message.acceleration
      enable := !config.useEnableField || message.enable
      valid := true
      sequence := message.sequence
      receivedAt := receivedAt }

theorem commandCallback_cases (config : NodeConfig) (input : CommandInput)
    (message : ActuationCommand) (receivedAt : TimePoint) :
    (input.discards config message receivedAt = true ∧
        input.commandCallback config message receivedAt = input) ∨
      (input.discards config message receivedAt = false ∧ message.isFinite = false ∧
        input.commandCallback config message receivedAt = input.rejected receivedAt) ∨
      (input.discards config message receivedAt = false ∧ message.isFinite = true ∧
        input.commandCallback config message receivedAt =
          input.accepted config message receivedAt) := by
  have rejected : (!message.lateral.isFinite || !message.acceleration.isFinite) =
      !message.isFinite := by
    unfold ActuationCommand.isFinite
    rw [Bool.not_and]
  unfold CommandInput.commandCallback
  rw [rejected]
  cases discards : input.discards config message receivedAt with
  | true => exact .inl ⟨rfl, rfl⟩
  | false =>
      cases finite : message.isFinite with
      | false => exact .inr (.inl ⟨rfl, rfl, rfl⟩)
      | true => exact .inr (.inr ⟨rfl, rfl, rfl⟩)

theorem sequenceIsNewer_iff {candidate previous : UInt32} (numbered : candidate ≠ 0)
    (previousNumbered : previous ≠ 0) (within : serialOffset base candidate < 2 ^ 31)
    (previousWithin : serialOffset base previous < 2 ^ 31) :
    sequenceIsNewer candidate previous = true ↔
      serialOffset base previous < serialOffset base candidate := by
  rw [← serial_newer_iff within previousWithin]
  unfold sequenceIsNewer
  rw [if_neg (by simp [numbered, previousNumbered])]
  simp

/-- Discarded is what is not newer than some finite command. -/
theorem discards_iff (inv : OrderInvariant config base (received, input))
    (ordered : ¬ Unordered config base (received, input) ⟨message, receivedAt⟩) :
    input.discards config message receivedAt = true ↔
      ∃ earlier ∈ received, earlier.isFinite = true ∧
        message.offset base ≤ earlier.offset base := by
  obtain ⟨numbered, within, fresh⟩ := Decidable.not_not.mp ordered
  have last := inv.last
  unfold CommandInput.discards
  cases newest : newestFinite base received with
  | none =>
      have empty := List.filter_eq_nil_iff.mp (List.argmax_eq_none.mp newest)
      simp only [newest, Option.map_none, Option.getD_none] at last
      rw [last]
      simp only [bne_self_eq_false, Bool.and_false, Bool.false_and, Bool.false_eq_true, false_iff]
      rintro ⟨earlier, member, finite, _⟩
      exact empty earlier member finite
  | some best =>
      obtain ⟨member, finite⟩ := List.mem_filter.mp (List.argmax_mem newest)
      obtain ⟨bestNumbered, bestWithin⟩ := inv.window best member
      simp only [newest, Option.map_some, Option.getD_some] at last
      have isRecent := fresh.resolve_left (List.ne_nil_of_mem member)
      have newer := sequenceIsNewer_iff numbered bestNumbered within bestWithin
      rw [last, isRecent]
      simp only [bne_iff_ne.mpr numbered, bne_iff_ne.mpr bestNumbered, Bool.and_true, Bool.true_and,
        Bool.not_eq_true', ← Bool.not_eq_true, newer, Nat.not_lt]
      constructor
      · intro above
        exact ⟨best, member, finite, above⟩
      · rintro ⟨earlier, inReceived, earlierFinite, above⟩
        have most := List.le_of_mem_argmax
          (List.mem_filter.mpr ⟨inReceived, earlierFinite⟩) newest
        exact Nat.le_trans above most

theorem window_append (inv : OrderInvariant config base (received, input))
    (ordered : ¬ Unordered config base (received, input) ⟨message, receivedAt⟩) :
    ∀ other ∈ received ++ [message], other.sequence ≠ 0 ∧ other.offset base < 2 ^ 31 := by
  obtain ⟨numbered, within, _⟩ := Decidable.not_not.mp ordered
  intro other member
  rcases List.mem_append.mp member with before | here
  · exact inv.window other before
  · rw [List.mem_singleton.mp here]
    exact ⟨numbered, within⟩

theorem known_kept (inv : OrderInvariant config base (received, input))
    (ordered : ¬ Unordered config base (received, input) ⟨message, receivedAt⟩)
    (known : ∃ earlier ∈ received, message.offset base ≤ earlier.offset base)
    (knownFinite : message.isFinite = true →
      ∃ earlier ∈ received, earlier.isFinite = true ∧ message.offset base ≤ earlier.offset base) :
    OrderInvariant config base (received ++ [message], input) where
  window := window_append inv ordered
  last := by
    rw [newestFinite_known knownFinite]
    exact inv.last
  values := by
    rw [storedValues_known knownFinite]
    exact inv.values
  shows := by
    rw [newestView_known known knownFinite]
    exact inv.shows

theorem accepted_kept (inv : OrderInvariant config base (received, input))
    (ordered : ¬ Unordered config base (received, input) ⟨message, receivedAt⟩)
    (newer : ∀ earlier ∈ received, earlier.offset base < message.offset base)
    (finite : message.isFinite = true) :
    OrderInvariant config base
      (received ++ [message], input.accepted config message receivedAt) := by
  have numbered := (Decidable.not_not.mp ordered).1
  have newest := newestFinite_new finite fun earlier member _ => newer earlier member
  refine ⟨window_append inv ordered, ?_, ?_, ?_⟩
  · rw [newest]
    exact if_pos (bne_iff_ne.mpr numbered)
  · unfold storedValues
    rw [newest]
    rfl
  · rw [newestView_new newer, if_pos finite]
    rfl

theorem known_of_rejected (rejected : message.isFinite = false) : message.isFinite = true →
    ∃ earlier ∈ received, earlier.isFinite = true ∧ message.offset base ≤ earlier.offset base :=
  fun finite => absurd (rejected.symm.trans finite) Bool.false_ne_true

theorem rejected_kept (inv : OrderInvariant config base (received, input))
    (ordered : ¬ Unordered config base (received, input) ⟨message, receivedAt⟩)
    (newer : ∀ earlier ∈ received, earlier.offset base < message.offset base)
    (rejected : message.isFinite = false) :
    OrderInvariant config base (received ++ [message], input.rejected receivedAt) := by
  refine ⟨window_append inv ordered, ?_, ?_, ?_⟩
  · rw [newestFinite_known (known_of_rejected rejected)]
    exact inv.last
  · rw [storedValues_known (known_of_rejected rejected)]
    exact inv.values
  · rw [newestView_new newer, if_neg (by rw [rejected]; exact Bool.false_ne_true)]
    exact inv.values

theorem withdrawn_of_slips (inv : OrderInvariant config base (received, input))
    (slips : SlipsIn base received message) :
    input.latestCommand.enable = false ∧ input.latestCommand.valid = false := by
  have shows := inv.shows
  rw [newestView_slipped slips] at shows
  have withdrawn := @storedValues_withdrawn base received
  rw [← shows] at withdrawn
  exact withdrawn

theorem rejected_again (inv : OrderInvariant config base (received, input))
    (slips : SlipsIn base received message) :
    input.rejected input.latestCommand.receivedAt = input := by
  obtain ⟨enable, valid⟩ := withdrawn_of_slips inv slips
  cases input with
  | mk latest last =>
      cases latest
      simp only at enable valid
      subst enable valid
      rfl

end Step

/-! ## Runs -/

section Runs
variable {config : NodeConfig} {base : UInt32} {history : CommandHistory} {arrival : Arrival}

/-- What passes is newer than every finite command, and newer than every command unless it
slips in. -/
theorem newer_of_passes {received : List ActuationCommand} {input : CommandInput}
    {message : ActuationCommand} {receivedAt : TimePoint}
    (inv : OrderInvariant config base (received, input))
    (ordered : ¬ Unordered config base (received, input) ⟨message, receivedAt⟩)
    (passes : input.discards config message receivedAt = false) :
    SlipsIn base received message ∨
      ∀ earlier ∈ received, earlier.offset base < message.offset base := by
  have newerFinite (earlier : ActuationCommand) (member : earlier ∈ received)
      (finite : earlier.isFinite = true) : earlier.offset base < message.offset base := by
    by_contra older
    have discarded := (discards_iff inv ordered).mpr ⟨earlier, member, finite, by omega⟩
    exact Bool.false_ne_true (passes.symm.trans discarded)
  by_cases known : ∃ earlier ∈ received, message.offset base ≤ earlier.offset base
  · exact .inl ⟨known, newerFinite⟩
  · refine .inr fun earlier member => ?_
    by_contra older
    exact known ⟨earlier, member, by omega⟩

theorem call_kept (inv : OrderInvariant config base history)
    (ordered : ¬ Unordered config base history arrival)
    (onTop : ¬ Undercuts base history arrival) :
    OrderInvariant config base ((commandMachine config).call history arrival).1 ∧
      ((commandMachine config).call history arrival).2.NewestWins config base := by
  obtain ⟨received, input⟩ := history
  obtain ⟨message, receivedAt⟩ := arrival
  suffices kept : OrderInvariant config base
        (received ++ [message], input.commandCallback config message receivedAt) ∧
      ((∃ earlier ∈ received, message.offset base ≤ earlier.offset base) →
        input.commandCallback config message receivedAt = input) from
    ⟨kept.1, kept.2, kept.1.shows⟩
  have unknown (newer : ∀ earlier ∈ received, earlier.offset base < message.offset base) :
      ¬ ∃ earlier ∈ received, message.offset base ≤ earlier.offset base := by
    rintro ⟨earlier, member, above⟩
    have := newer earlier member
    omega
  rcases commandCallback_cases config input message receivedAt with
    ⟨discarded, after⟩ | ⟨passes, rejected, after⟩ | ⟨passes, finite, after⟩
  · have knownFinite := (discards_iff inv ordered).mp discarded
    have known : ∃ earlier ∈ received, message.offset base ≤ earlier.offset base := by
      obtain ⟨earlier, member, _, above⟩ := knownFinite
      exact ⟨earlier, member, above⟩
    rw [after]
    exact ⟨known_kept inv ordered known fun _ => knownFinite, fun _ => rfl⟩
  · rw [after]
    rcases newer_of_passes inv ordered passes with slips | newer
    · -- Only a second rejection at the same instant is left, and it changes nothing.
      have sameInstant : receivedAt = input.latestCommand.receivedAt :=
        (Decidable.not_not.mp fun other => onTop ⟨slips, other⟩).2
      rw [sameInstant, rejected_again inv slips]
      exact ⟨known_kept inv ordered slips.1 (known_of_rejected rejected), fun _ => rfl⟩
    · exact ⟨rejected_kept inv ordered newer rejected, fun known => absurd known (unknown newer)⟩
  · rw [after]
    rcases newer_of_passes inv ordered passes with slips | newer
    · refine absurd ⟨slips, ?_⟩ onTop
      rintro ⟨rejected, _⟩
      exact Bool.false_ne_true (rejected.symm.trans finite)
    · exact ⟨accepted_kept inv ordered newer finite, fun known => absurd known (unknown newer)⟩

theorem call_undercut (inv : OrderInvariant config base history)
    (ordered : ¬ Unordered config base history arrival)
    (undercuts : Undercuts base history arrival) :
    ¬ ((commandMachine config).call history arrival).2.NewestWins config base := by
  obtain ⟨received, input⟩ := history
  obtain ⟨message, receivedAt⟩ := arrival
  obtain ⟨slips, moves⟩ := undercuts
  intro wins
  have same : input.commandCallback config message receivedAt = input := wins.ignored slips.1
  rcases commandCallback_cases config input message receivedAt with
    ⟨discarded, after⟩ | ⟨passes, rejected, after⟩ | ⟨passes, finite, after⟩
  · obtain ⟨earlier, member, finite, above⟩ := (discards_iff inv ordered).mp discarded
    exact Nat.not_lt.mpr above (slips.2 earlier member finite)
  · rw [same] at after
    exact moves ⟨rejected, (congrArg (fun input => input.latestCommand.receivedAt) after).symm⟩
  · rw [same] at after
    have valid := congrArg (fun input => input.latestCommand.valid) after
    exact Bool.false_ne_true ((withdrawn_of_slips inv slips).2.symm.trans valid)

end Runs

/-- In a run of numbered commands without pauses the newest command decides after every callback,
and no other changes anything, if and only if none slips in under a rejected one. -/
theorem newest_command_iff (config : NodeConfig) (base : UInt32) (arrivals : List Arrival) :
    let machine := commandMachine config
    machine.Quiet (Unordered config base) ([], {}) arrivals →
      ((∀ callback ∈ machine.answers ([], {}) arrivals, callback.NewestWins config base) ↔
        machine.Quiet (Undercuts base) ([], {}) arrivals) := by
  intro machine ordered
  exact machine.answers_iff_quiet (OrderInvariant config base) _ _ _
    (fun _ _ inv ordered onTop => call_kept inv ordered onTop)
    (fun _ _ inv ordered undercuts => call_undercut inv ordered undercuts) arrivals _
    orderInvariant_initial ordered

def numbered (sequence : UInt32) (acceleration : Double) (milliseconds : Int) : Arrival where
  message := { sequence, enable := true, acceleration }
  receivedAt := 1000000000 + milliseconds * 1000000

/-- The command before a rejected one arrives after it and takes the output back. -/
theorem older_command_replaces_rejection :
    ¬ ∀ (config : NodeConfig) (base : UInt32) (arrivals : List Arrival),
      (commandMachine config).Quiet (Unordered config base) ([], {}) arrivals →
        ∀ callback ∈ (commandMachine config).answers ([], {}) arrivals,
          callback.NewestWins config base := by
  intro wins
  have run := wins {} 1 [numbered 1 .zero 0, numbered 3 .nan 10, numbered 2 .zero 20]
    (by decide +kernel)
  exact absurd run (by decide +kernel)

/-- Over the wrap, with a duplicate, a late command and a rejection. -/
theorem newest_command_wraps :
    (∀ callback ∈ (commandMachine {}).answers ([], {})
        [numbered 0xFFFFFFFF .zero 0, numbered 2 .zero 10, numbered 1 .zero 20,
          numbered 2 .zero 30, numbered 3 .nan 40, numbered 4 .zero 50],
        callback.NewestWins {} 0xFFFFFFFF) ↔
      (commandMachine {}).Quiet (Undercuts 0xFFFFFFFF) ([], {})
        [numbered 0xFFFFFFFF .zero 0, numbered 2 .zero 10, numbered 1 .zero 20,
          numbered 2 .zero 30, numbered 3 .nan 40, numbered 4 .zero 50] :=
  newest_command_iff {} 0xFFFFFFFF _ (by decide +kernel)

end Ioniq5Ecan
