import Ioniq5Ecan.Library.Backoff
import Ioniq5Ecan.Node.Recovery
import Mathlib.Algebra.Order.Group.Int

/-! # The schedule of restoration attempts

An outage starts at the first request and lasts until a restoration; in between
only failures move the schedule.  `run_tracks`: `RecoveryRetry` follows the
outage, whatever the calls. -/
set_option autoImplicit false
namespace Ioniq5Ecan

open Library

inductive RetryCall
  | request (now : TimePoint)
  | failed (now : TimePoint)
  | restored
  deriving DecidableEq

namespace RecoveryRetry

def call (self : RecoveryRetry) : RetryCall → RecoveryRetry
  | .request now => self.request now
  | .failed now => self.failed now
  | .restored => self.restored

def run (self : RecoveryRetry) (calls : List RetryCall) : RecoveryRetry := calls.foldl call self

end RecoveryRetry

/-! ## Outages -/

/-- An outage: when it was noticed, and the attempts that failed since. -/
structure Outage where
  noticed : TimePoint
  failures : List TimePoint

def Outage.due (outage : Outage) : TimePoint :=
  match outage.failures.getLast? with
  | none => outage.noticed
  | some last => last + seconds (min (2 ^ (outage.failures.length - 1)) 30)

/-- The outage after one more call; `none` is a vehicle with its ECUs restored. -/
def outageAfter : Option Outage → RetryCall → Option Outage
  | none, .request now => some { noticed := now, failures := [] }
  | none, _ => none
  | some outage, .request _ => some outage
  | some outage, .failed now => some { outage with failures := outage.failures ++ [now] }
  | some _, .restored => none

/-- The attempts that fail in a list of calls. -/
def failureTimes (calls : List RetryCall) : List TimePoint :=
  calls.filterMap fun
    | .failed now => some now
    | _ => none

/-- The delay that follows the next failure. -/
def delayAfter (failures : Nat) : Int := seconds (min (2 ^ failures) 30)

theorem delayAfter_succ (failures : Nat) :
    (if seconds 30 - delayAfter failures ≤ delayAfter failures then seconds 30
      else delayAfter failures + delayAfter failures) = delayAfter (failures + 1) := by
  have closed (count : Nat) : delayAfter count = min (2 ^ count • seconds 1) (seconds 30) := by
    unfold delayAfter seconds
    rw [nsmul_eq_mul]
    push_cast
    omega
  have limit : 0 ≤ seconds 30 := by decide
  have unit : 0 ≤ seconds 1 := by decide
  have step := doubled_pow limit unit failures
  rw [← closed, ← closed] at step
  exact step

/-! ## The schedule follows the outage -/

section Tracking
variable {self : RecoveryRetry} {outage : Option Outage}

structure RecoveryRetry.Tracks (retry : RecoveryRetry) (outage : Option Outage) : Prop where
  pending : retry.pending = outage.isSome
  scheduled : ∀ current ∈ outage, retry.failures = .ofNat current.failures.length ∧
    retry.nextAttempt = current.due ∧ retry.delay = delayAfter current.failures.length

theorem request_tracks (tracks : self.Tracks outage) (now : TimePoint) :
    (self.request now).Tracks (outageAfter outage (.request now)) := by
  cases outage with
  | none =>
      unfold RecoveryRetry.request
      rw [tracks.pending]
      refine ⟨rfl, ?_⟩
      rintro current ⟨⟩
      exact ⟨rfl, rfl, rfl⟩
  | some current =>
      unfold RecoveryRetry.request
      rw [tracks.pending]
      exact tracks

theorem failed_tracks (tracks : self.Tracks outage) (now : TimePoint) :
    (self.failed now).Tracks (outageAfter outage (.failed now)) := by
  cases outage with
  | none =>
      unfold RecoveryRetry.failed
      rw [tracks.pending]
      exact tracks
  | some current =>
      obtain ⟨failures, _, delay⟩ := tracks.scheduled current rfl
      have length : (current.failures ++ [now]).length = current.failures.length + 1 := by simp
      unfold RecoveryRetry.failed
      rw [tracks.pending]
      refine ⟨rfl, ?_⟩
      rintro next ⟨⟩
      refine ⟨?_, ?_, ?_⟩
      · rw [length, UInt64.ofNat_add, ← failures]
        rfl
      · simp only [Option.isSome_some, Bool.not_true, Bool.false_eq_true, if_false, Outage.due,
          List.getLast?_concat, length, Nat.add_sub_cancel, delay]
        rfl
      · rw [length, ← delayAfter_succ, ← delay]
        rfl

theorem restored_tracks : self.restored.Tracks (outageAfter outage .restored) := by
  cases outage with
  | none => exact ⟨rfl, fun _ member => by cases member⟩
  | some current => exact ⟨rfl, fun _ member => by cases member⟩

theorem call_tracks (tracks : self.Tracks outage) (call : RetryCall) :
    (self.call call).Tracks (outageAfter outage call) := by
  cases call with
  | request now => exact request_tracks tracks now
  | failed now => exact failed_tracks tracks now
  | restored => exact restored_tracks

theorem run_tracks (calls : List RetryCall) :
    ∀ (self : RecoveryRetry) (outage : Option Outage), self.Tracks outage →
      (self.run calls).Tracks (calls.foldl outageAfter outage) := by
  induction calls with
  | nil => intro self outage tracks; exact tracks
  | cons call rest ih => intro self outage tracks; exact ih _ _ (call_tracks tracks call)

theorem outage_lasts (calls : List RetryCall) (lasts : RetryCall.restored ∉ calls) :
    ∀ outage : Outage, calls.foldl outageAfter (some outage) =
      some { outage with failures := outage.failures ++ failureTimes calls } := by
  induction calls with
  | nil =>
      intro outage
      simp [failureTimes]
  | cons call rest ih =>
      intro outage
      obtain ⟨notHere, notLater⟩ := not_or.mp (mt List.mem_cons.mpr lasts)
      cases call with
      | request now => exact ih notLater outage
      | failed now =>
          rw [List.foldl_cons]
          exact (ih notLater _).trans (by simp [failureTimes])
      | restored => exact absurd rfl notHere

theorem outage_over (calls : List RetryCall)
    (noRequest : ∀ call ∈ calls, ∀ now, call ≠ .request now) :
    calls.foldl outageAfter none = none := by
  induction calls with
  | nil => rfl
  | cons call rest ih =>
      have later := ih fun other member => noRequest other (List.mem_cons_of_mem _ member)
      cases call with
      | request now => exact absurd rfl (noRequest _ (List.mem_cons_self ..) now)
      | failed now => exact later
      | restored => exact later

theorem due_iff {current : Outage} (tracks : self.Tracks (some current)) (now : TimePoint) :
    self.due now = true ↔ current.due ≤ now := by
  unfold RecoveryRetry.due
  rw [tracks.pending, (tracks.scheduled current rfl).2.1]
  simp

end Tracking

theorem started_tracks {self : RecoveryRetry} (idle : self.pending = false)
    (requested : TimePoint) : (self.request requested).Tracks (some ⟨requested, []⟩) := by
  have nothing : self.Tracks none := ⟨idle, fun _ member => by cases member⟩
  exact request_tracks nothing requested

theorem failing_tracks (count : Nat) :
    ((RecoveryRetry.request {} 0).run (List.replicate count (.failed 0))).Tracks
      (some ⟨0, failureTimes (List.replicate count (.failed 0))⟩) := by
  have tracks := run_tracks (List.replicate count (.failed 0)) _ _
    (@started_tracks {} rfl 0)
  have lasts : RetryCall.restored ∉ List.replicate count (.failed 0) := by simp
  rwa [outage_lasts _ lasts] at tracks

theorem failureTimes_replicate (count : Nat) :
    (failureTimes (List.replicate count (.failed 0))).length = count := by
  simp [failureTimes]

/-- The failures are counted modulo 2^64; nothing else of the schedule comes round. -/
theorem retry_schedule (before : List RetryCall) :
    let retry := RecoveryRetry.run {} before
    (∀ (requested : TimePoint) (calls : List RetryCall),
        retry.pending = false → RetryCall.restored ∉ calls →
        let later := (retry.request requested).run calls
        later.pending = true ∧ later.failures = .ofNat (failureTimes calls).length ∧
          ∀ now, later.due now = true ↔
            match (failureTimes calls).getLast? with
            | none => requested ≤ now
            | some last =>
                last + seconds (min (2 ^ ((failureTimes calls).length - 1)) 30) ≤ now) ∧
      (retry.pending = false → ∀ now, retry.failed now = retry) ∧
      ∀ (idle : List RetryCall) (requested : TimePoint),
        (∀ call ∈ idle, ∀ now, call ≠ .request now) →
        let again := (retry.restored.run idle).request requested
        again.pending = true ∧ again.failures = 0 ∧
          ∀ now, again.due now = true ↔ requested ≤ now := by
  intro retry
  refine ⟨?_, ?_, ?_⟩
  · intro requested calls idle lasts later
    have tracks := run_tracks calls _ _ (started_tracks idle requested)
    rw [outage_lasts calls lasts, List.nil_append] at tracks
    refine ⟨tracks.pending, (tracks.scheduled _ rfl).1, fun now => ?_⟩
    rw [due_iff tracks]
    unfold Outage.due
    cases (failureTimes calls).getLast? with
    | none => rfl
    | some last => rfl
  · intro idle now
    unfold RecoveryRetry.failed
    rw [idle]
    rfl
  · intro idle requested noRequest again
    have nothing : retry.restored.Tracks none := ⟨rfl, fun _ member => by cases member⟩
    have waits := run_tracks idle _ _ nothing
    rw [outage_over idle noRequest] at waits
    have tracks := request_tracks waits requested
    exact ⟨tracks.pending, (tracks.scheduled _ rfl).1, fun now => due_iff tracks now⟩

/-- After 2^64 failures of one outage the count is zero again. -/
theorem failures_come_round :
    ¬ ∀ (before : List RetryCall) (requested : TimePoint) (calls : List RetryCall),
      (RecoveryRetry.run {} before).pending = false → RetryCall.restored ∉ calls →
      (((RecoveryRetry.run {} before).request requested).run calls).failures.toNat =
        (failureTimes calls).length := by
  intro counts
  have lasts : RetryCall.restored ∉ List.replicate (2 ^ 64) (.failed 0) := by
    rw [List.mem_replicate]
    rintro ⟨_, ⟨⟩⟩
  have counted := counts [] 0 (List.replicate (2 ^ 64) (.failed 0)) rfl lasts
  have round : ((RecoveryRetry.request {} 0).run
      (List.replicate (2 ^ 64) (.failed 0))).failures = .ofNat (2 ^ 64) := by
    rw [((failing_tracks (2 ^ 64)).scheduled _ rfl).1, failureTimes_replicate]
  rw [failureTimes_replicate] at counted
  have zero : (UInt64.ofNat (2 ^ 64)).toNat = 2 ^ 64 := by
    rw [← round]
    exact counted
  exact absurd zero (by decide)

end Ioniq5Ecan
