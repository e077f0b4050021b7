import Ioniq5Ecan.Firmware.Hooks

/-! # A blocked session

`Aborts` lists the places that call `ioniq5_session_abort`.  The receive hook
goes on toggling its flags and a mode change reloads the session's, so what
keeps a blocked session silent is the end of each call; `silenced_call` says so
for every call that keeps the profile, `blocked_session_stays` for every run. -/
set_option autoImplicit false
namespace Ioniq5Ecan

open Library (CallMachine)

namespace SafetyLayer

/-- A call during which `ioniq5_session_abort` runs. -/
inductive Aborts (hooks : OpendbcHooks) (layer : SafetyLayer) (now : UInt32) : SafetyCall → Prop
  | cancel (msg : CanPacket)
      (passed : ((hooks.rxMsgSafetyCheck layer.toFirmware now msg).valid &&
        hooks.whitelisted layer.toFirmware msg) = true)
      (cancels : (layer.toFirmware.checked hooks.toOpendbc now msg).cancels hooks.toOpendbc msg =
        true) : Aborts hooks layer now (.rx msg)
  | message (msg : CanPacket)
      (faulty : (layer.toFirmware.received hooks.toOpendbc now msg).faulty
        (hooks.rxMsgSafetyCheck layer.toFirmware now msg).valid = true) :
      Aborts hooks layer now (.rx msg)
  | tick (faulty : (layer.ticked hooks now).faulty (!layer.rxChecksInvalid hooks now) = true) :
      Aborts hooks layer now .tick
  | request (faulty : layer.toFirmware.faulty true = true) :
      Aborts hooks layer now (.dropPermission 1)
  | modeChange (mode param : UInt16) (same : requestedProfile mode param = layer.sessionProfile)
      (fault : (layer.relayMalfunction || layer.safetyRxChecksInvalid) = true) :
      Aborts hooks layer now (.setSafetyHooks mode param)
  | heartbeat : Aborts hooks layer now .heartbeatAbort

end SafetyLayer

def SafetyCall.KeepsProfile (profile : UInt16) : SafetyCall → Prop
  | .setSafetyHooks mode param => requestedProfile mode param = profile
  | _ => True

/-- Blocked, no channel selected, no permission. -/
structure Firmware.Silenced (profile : UInt16) (firmware : Firmware) : Prop where
  profile : firmware.sessionProfile = profile
  blocked : firmware.sessionBlocked = true
  lateral : firmware.sessionLateral = false
  longitudinal : firmware.sessionLongitudinal = false
  controls : firmware.controlsAllowed = false

def OpendbcHooks.calls (hooks : OpendbcHooks) :
    CallMachine SafetyLayer (UInt32 × SafetyCall) Unit where
  call layer entry := (layer.call hooks entry.1 entry.2, ())

section Blocked
variable {hooks : OpendbcHooks} {layer : SafetyLayer} {now : UInt32} {profile : UInt16}
  {before after : Firmware} {valid : Bool} {mode param : UInt16}

namespace Firmware

/-- A hook that ends blocked ends silenced, whatever it toggled. -/
theorem Enforced.silenced {opendbc : Opendbc} (enforced : Enforced opendbc before after now valid)
    (session : before.sessionProfile = profile) (blocked : after.sessionBlocked = true) :
    Silenced profile after where
  profile := enforced.profile.trans session
  blocked := blocked
  lateral := by rw [enforced.lateral, blocked, Bool.not_true, Bool.and_false]
  longitudinal := by rw [enforced.longitudinal, blocked, Bool.not_true, Bool.and_false]
  controls := enforced.controls.trans (permitted_of_blocked blocked)

theorem Enforced.blocked_of_faulty {opendbc : Opendbc}
    (enforced : Enforced opendbc before after now valid) (faulty : before.faulty valid = true) :
    after.sessionBlocked = true := by
  rw [enforced.blocked, faulty, Bool.or_true]

theorem abort_silenced (session : before.sessionProfile = profile) (active : profile ≠ 0) :
    Silenced profile before.abort := by
  rw [before.abort_eq (session ▸ active)]
  exact ⟨session, rfl, rfl, rfl, rfl⟩

theorem sessionRx_blocked {opendbc : Opendbc} {msg : CanPacket}
    (active : before.sessionProfile ≠ 0) (cancels : before.cancels opendbc msg = true) :
    (before.sessionRx opendbc msg).sessionBlocked = true := by
  have hook : SameSetting before (before.hooked opendbc msg) :=
    (before.primed_setting msg).trans (canfdRxHook_setting ..)
  rw [sessionRx_eq, if_pos cancels]
  exact (abort_silenced hook.profile active).blocked

theorem prepare_silenced (active : profile ≠ 0) (same : requestedProfile mode param = profile)
    (silenced : Silenced profile before ∨ before.sessionProfile = profile ∧
      (before.relayMalfunction || before.safetyRxChecksInvalid) = true) :
    Silenced profile (before.prepare mode param) := by
  have session : before.sessionProfile = profile := silenced.elim Silenced.profile And.left
  have kept : (requestedProfile mode param != before.sessionProfile ||
      requestedProfile mode param == 0) = false := by
    rw [same, session]
    simp [active]
  unfold prepare
  simp only [kept, Bool.false_eq_true, if_false]
  split
  · have aborted := abort_silenced session active
    exact { aborted with profile := same }
  · next quiet =>
    have still := silenced.resolve_right fun fault => quiet fault.2
    exact { still with profile := same }

theorem prepare_clears (other : requestedProfile mode param ≠ before.sessionProfile) :
    (before.prepare mode param).sessionBlocked = false := by
  unfold prepare
  dsimp only
  rw [if_pos (by simp [other])]

end Firmware

namespace SafetyLayer
open Firmware

theorem setSafetyHooks_silenced (active : profile ≠ 0)
    (same : requestedProfile mode param = profile)
    (prepared : Silenced profile (layer.toFirmware.prepare mode param)) :
    Silenced profile (layer.setSafetyHooks hooks now mode param).toFirmware := by
  have changed := @modeChanged hooks now mode param layer (same ▸ active)
  exact
    { profile := changed.profile.trans prepared.profile
      blocked := changed.blocked.trans prepared.blocked
      lateral := changed.lateralKept.trans prepared.lateral
      longitudinal := changed.longitudinalKept.trans prepared.longitudinal
      controls := changed.controls }

/-- Wherever the abort runs, the call ends silenced. -/
theorem aborts_silenced {call : SafetyCall} (active : layer.sessionProfile ≠ 0)
    (aborts : Aborts hooks layer now call) :
    Silenced layer.sessionProfile (layer.call hooks now call).toFirmware := by
  cases aborts with
  | cancel msg passed cancels =>
      have setting := received_setting hooks.toOpendbc layer.toFirmware now msg active
      have ends := @rx_enforced hooks layer now active msg
      have handled : (layer.toFirmware.handled hooks.toOpendbc now msg).sessionBlocked = true := by
        unfold handled
        rw [if_pos passed, if_pos (bne_iff_ne.mpr active)]
        exact sessionRx_blocked active cancels
      exact ends.silenced setting.profile (ends.staysBlocked handled)
  | message msg faulty =>
      have setting := received_setting hooks.toOpendbc layer.toFirmware now msg active
      have ends := @rx_enforced hooks layer now active msg
      exact ends.silenced setting.profile (ends.blocked_of_faulty faulty)
  | tick faulty =>
      have ends := @tick_enforced hooks layer now active
      exact ends.silenced rfl (ends.blocked_of_faulty faulty)
  | request faulty =>
      have ends := @request_enforced hooks layer now active
      exact ends.silenced rfl (ends.blocked_of_faulty faulty)
  | modeChange mode param same fault =>
      exact setSafetyHooks_silenced active same (prepare_silenced active same (.inr ⟨rfl, fault⟩))
  | heartbeat =>
      have aborted : Silenced layer.sessionProfile layer.toFirmware.abort :=
        abort_silenced rfl active
      exact { aborted with controls := rfl }

/-- Every call that keeps the profile leaves a silenced session silenced. -/
theorem silenced_call {call : SafetyCall} (active : profile ≠ 0)
    (silenced : Silenced profile layer.toFirmware) (keeps : call.KeepsProfile profile) :
    Silenced profile (layer.call hooks now call).toFirmware := by
  have session : layer.sessionProfile ≠ 0 := by
    rw [silenced.profile]
    exact active
  cases call with
  | rx msg =>
      have setting := received_setting hooks.toOpendbc layer.toFirmware now msg session
      have ends := @rx_enforced hooks layer now session msg
      refine ends.silenced (setting.profile.trans silenced.profile) (ends.staysBlocked ?_)
      exact setting.staysBlocked silenced.blocked
  | tick =>
      have ends := @tick_enforced hooks layer now session
      exact ends.silenced silenced.profile (ends.staysBlocked silenced.blocked)
  | setSafetyHooks mode param =>
      exact setSafetyHooks_silenced active keeps (prepare_silenced active keeps (.inl silenced))
  | dropPermission param1 =>
      by_cases drops : param1 = 1
      · subst drops
        have ends := @request_enforced hooks layer now session
        exact ends.silenced silenced.profile (ends.staysBlocked silenced.blocked)
      · rw [request_ignored drops]
        exact silenced
  | heartbeatAbort =>
      exact { abort_silenced silenced.profile active with controls := rfl }

end SafetyLayer

open Firmware SafetyLayer in
/-- After an abort every completed call finds the session blocked, no channel selected and no
permission, as long as mode changes keep the profile; of all calls, exactly a mode change to no
profile or another one unblocks it. -/
theorem blocked_session_stays (hooks : OpendbcHooks) (layer : SafetyLayer)
    (session : layer.sessionProfile ≠ 0) (now : UInt32) (call : SafetyCall)
    (aborts : Aborts hooks layer now call) (later : List (UInt32 × SafetyCall))
    (keeps : ∀ entry ∈ later, entry.2.KeepsProfile layer.sessionProfile) :
    Silenced layer.sessionProfile
        (hooks.calls.run (layer.call hooks now call) later).toFirmware ∧
      ∀ time next,
        ((hooks.calls.run (layer.call hooks now call) later).call hooks time next).sessionBlocked =
            false ↔
          ∃ mode param, next = .setSafetyHooks mode param ∧
            requestedProfile mode param ≠ layer.sessionProfile := by
  have silenced : Silenced layer.sessionProfile
      (hooks.calls.run (layer.call hooks now call) later).toFirmware := by
    have quiet := hooks.calls.quiet_of_forall
      (fun _ entry => ¬ entry.2.KeepsProfile layer.sessionProfile) later
      (fun entry member _ other => other (keeps entry member)) (layer.call hooks now call)
    refine hooks.calls.held_of_quiet
      (fun reached => Silenced layer.sessionProfile reached.toFirmware) _ ?_ later _
      (aborts_silenced session aborts) quiet
    intro reached entry held keep
    exact silenced_call session held (not_not.mp keep)
  refine ⟨silenced, fun time next => ⟨fun unblocked => ?_, ?_⟩⟩
  · by_contra none
    have keep : next.KeepsProfile layer.sessionProfile := by
      cases next with
      | setSafetyHooks mode param =>
          by_contra other
          exact none ⟨mode, param, rfl, other⟩
      | rx => trivial
      | tick => trivial
      | dropPermission => trivial
      | heartbeatAbort => trivial
    have blocked := (@silenced_call hooks _ time _ next session silenced keep).blocked
    rw [unblocked] at blocked
    cases blocked
  · rintro ⟨mode, param, rfl, other⟩
    refine setSafetyHooks_blocked.trans (prepare_clears ?_)
    rw [silenced.profile]
    exact other

end Blocked

/-! ## A CANCEL press, then SET and a mode change -/

def startedSession : SafetyLayer :=
  ({} : SafetyLayer).setSafetyHooks validHooks 0 safetyHyundaiCanfd sessionParam

def callsAfterCancel : List (UInt32 × SafetyCall) :=
  [(20000, .rx (buttonsMsg 2)), (40000, .rx (buttonsMsg 0)),
    (50000, .setSafetyHooks safetyModeNoOutput sessionParam), (60000, .tick)]

theorem cancelled_session_stays :
    Firmware.Silenced 7173
        (validHooks.calls.run (startedSession.call validHooks 10000 (.rx (buttonsMsg 4)))
          callsAfterCancel).toFirmware ∧
      ∀ time next,
        ((validHooks.calls.run (startedSession.call validHooks 10000 (.rx (buttonsMsg 4)))
            callsAfterCancel).call validHooks time next).sessionBlocked = false ↔
          ∃ mode param, next = .setSafetyHooks mode param ∧ requestedProfile mode param ≠ 7173 :=
  blocked_session_stays validHooks startedSession (by decide +kernel) 10000 (.rx (buttonsMsg 4))
    (.cancel _ (by decide +kernel) (by decide +kernel)) callsAfterCancel (by
      intro entry member
      simp only [callsAfterCancel, List.mem_cons, List.not_mem_nil, or_false] at member
      rcases member with rfl | rfl | rfl | rfl
      · trivial
      · trivial
      · exact (by decide +kernel :
          requestedProfile safetyModeNoOutput sessionParam = startedSession.sessionProfile)
      · trivial)

end Ioniq5Ecan
