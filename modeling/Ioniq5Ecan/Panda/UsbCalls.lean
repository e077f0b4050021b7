import Ioniq5Ecan.Panda.UsbSession

/-! # Any calls in any order

An owner makes calls on the driver and goes on after exceptions.  Whatever
libusb answers, every handle, interface and context is given back, bulk writes
reach a checked Panda only, and a ready driver agrees with the Panda about the
safety mode and the heartbeat. -/
set_option autoImplicit false
namespace Ioniq5Ecan.Usb

open Library (Dialogue Exchange Monitor Program)
open Library.Program (ask fetch change raise raiseIf Within)

/-! ## Owners -/

inductive UsbCall
  | connect
  | disconnect
  | configureCan
  | setSafetyMode (mode param : UInt16)
  | sendHeartbeat (engaged : Bool)
  | dropLongitudinalPermission
  | health
  | receive
  | send (frames : List BusFrame)

/-- A call, whether the driver was ready for it, and how it ended. -/
structure ServedCall where
  call : UsbCall
  wasReady : Bool
  outcome : Except String Unit

section Owner
variable (libusbErrorName : Int → String) (config : PandaUsbConfig)

def perform : UsbCall → Driver Unit
  | .connect => connect libusbErrorName config
  | .disconnect => disconnect
  | .configureCan => configureCan libusbErrorName config
  | .setSafetyMode mode param => setSafetyMode libusbErrorName mode param
  | .sendHeartbeat engaged => sendHeartbeat libusbErrorName engaged
  | .dropLongitudinalPermission => dropLongitudinalPermission libusbErrorName
  | .health => do
      let _ ← health libusbErrorName config
  | .receive => do
      let _ ← receive libusbErrorName config
  | .send frames => send libusbErrorName config frames

def serve : List UsbCall → Driver (List ServedCall)
  | [] => pure []
  | call :: rest => do
      let self ← fetch
      let outcome ← (perform libusbErrorName config call).outcome
      let later ← serve rest
      pure (⟨call, self.ready, outcome⟩ :: later)

end Owner

namespace ServedCall

/-- The safety mode that the owner may rely on after the call. -/
def mode (config : PandaUsbConfig) : ServedCall → Option (UInt16 × UInt16)
  | ⟨.connect, false, .ok _⟩ => some (kSafetyNoOutput, config.commandSessionParam)
  | ⟨.setSafetyMode mode param, _, .ok _⟩ => some (mode, param)
  | _ => none

def heartbeat : ServedCall → Option Bool
  | ⟨.connect, false, .ok _⟩ => some false
  | ⟨.sendHeartbeat engaged, _, .ok _⟩ => some engaged
  | _ => none

end ServedCall

/-! ## Between the calls -/

/-- The Panda has what was asked of it, unless a transfer failed and the driver is not ready. -/
def Kept {Setting : Type} (ready : Bool) (seen asked : Option Setting) : Prop :=
  seen = asked ∨ (seen = none ∧ ready = false)

/-- A session with the settings its owner last asked for. -/
structure Live (mode : Option (UInt16 × UInt16)) (heartbeat : Option Bool) (usb : PandaUsb)
    (link : PandaLink) : Prop where
  holding : ∃ pointer, Holding pointer usb link
  checked : link.Checked
  mode : Kept usb.ready link.mode mode
  heartbeat : Kept usb.ready link.heartbeat heartbeat

def Settled (mode : Option (UInt16 × UInt16)) (heartbeat : Option Bool) (usb : PandaUsb)
    (link : PandaLink) : Prop :=
  Closed usb link ∨ Live mode heartbeat usb link

section Calls
variable {libusbErrorName : Int → String} {config : PandaUsbConfig} {usb : PandaUsb}
  {link : PandaLink} {mode : Option (UInt16 × UInt16)} {heartbeat : Option Bool}

theorem Kept.unready {Setting : Type} {ready : Bool} {seen asked : Option Setting}
    (kept : Kept ready seen asked) : Kept false seen asked :=
  kept.imp_right fun lost => ⟨lost.1, rfl⟩

theorem Live.unready (live : Live mode heartbeat usb link) :
    Live mode heartbeat { usb with ready := false } link := by
  obtain ⟨pointer, holding⟩ := live.holding
  exact ⟨⟨pointer, holding.unready⟩, live.checked, live.mode.unready, live.heartbeat.unready⟩

theorem Live.received (live : Live mode heartbeat usb link) (capacity : Nat)
    (answer : BulkAnswer) : Live mode heartbeat usb (link.received capacity answer) := by
  obtain ⟨pointer, holding⟩ := live.holding
  refine ⟨⟨pointer, holding.context, holding.handle, holding.handleOpen, holding.stage⟩, ?_,
    live.mode, live.heartbeat⟩
  exact ⟨live.checked.1, live.checked.2.1, by simp [PandaLink.received, live.checked.2.2]⟩

theorem answered_other {request : UInt8} {answer : DataAnswer} (noVersions : request ≠ 0xDD)
    (noHardware : request ≠ 0xC1) : link.answered request answer = link := by
  simp [PandaLink.answered, noVersions, noHardware]

theorem Live.failed (live : Live mode heartbeat usb link) {request : UInt8} {value index : UInt16}
    {status : Int} (noReset : request ≠ 0xC0) (failed : status < 0) :
    Live mode heartbeat { usb with ready := false } (link.wrote request value index status) := by
  obtain ⟨pointer, holding⟩ := live.holding
  refine ⟨⟨pointer, (holding.wrote request value index status).unready⟩, ?_, ?_, ?_⟩
  · refine ⟨live.checked.1, live.checked.2.1, ?_⟩
    simp [PandaLink.wrote, live.checked.2.2, noReset]
  · by_cases isMode : request = 0xDC
    · exact .inr ⟨by simp [PandaLink.wrote, isMode, failed], rfl⟩
    · simpa [PandaLink.wrote, isMode] using live.mode.unready
  · by_cases isHeartbeat : request = 0xF3
    · exact .inr ⟨by simp [PandaLink.wrote, isHeartbeat, failed], rfl⟩
    · simpa [PandaLink.wrote, isHeartbeat] using live.heartbeat.unready

theorem Live.setMode (live : Live mode heartbeat usb link) {next param : UInt16} {status : Int}
    (sent : 0 ≤ status) :
    Live (some (next, param)) heartbeat usb (link.wrote 0xDC next param status) := by
  obtain ⟨pointer, holding⟩ := live.holding
  refine ⟨⟨pointer, holding.wrote 0xDC next param status⟩, ?_, .inl ?_, ?_⟩
  · exact ⟨live.checked.1, live.checked.2.1, by simp [PandaLink.wrote, live.checked.2.2]⟩
  · simp [PandaLink.wrote, Int.not_lt.mpr sent]
  · simpa [PandaLink.wrote] using live.heartbeat

theorem Live.setHeartbeat (live : Live mode heartbeat usb link) {engaged : Bool} {status : Int}
    (sent : 0 ≤ status) :
    Live mode (some engaged) usb (link.wrote 0xF3 (if engaged then 1 else 0) 0 status) := by
  obtain ⟨pointer, holding⟩ := live.holding
  refine ⟨⟨pointer, holding.wrote 0xF3 _ 0 status⟩, ?_, ?_, .inl ?_⟩
  · exact ⟨live.checked.1, live.checked.2.1, by simp [PandaLink.wrote, live.checked.2.2]⟩
  · simpa [PandaLink.wrote] using live.mode
  · cases engaged <;> simp [PandaLink.wrote, Int.not_lt.mpr sent]

theorem within_unconnected {Value : Type} {next : Unit → Driver Value}
    {post : Value → PandaUsb → PandaLink → Prop} {thrown : String → PandaUsb → PandaLink → Prop}
    (closed : Closed usb link) (throws : ∀ what, thrown what usb link) :
    Within usbMonitor (ensureConnected >>= next) post thrown usb link := by
  simp only [ensureConnected, Program.within_bind, Program.within_fetch, Program.within_raiseIf,
    closed.handleOpen]
  exact ⟨fun _ => throws _, by simp⟩

theorem settled_controlWrite {request : UInt8} {value index : UInt16}
    {nextMode : Option (UInt16 × UInt16)} {nextHeartbeat : Option Bool}
    (settled : Settled mode heartbeat usb link) (noReset : request ≠ 0xC0)
    (permitted : request = 0xDC → value ≠ 17)
    (sent : ∀ status, 0 ≤ status → Live mode heartbeat usb link →
      Live nextMode nextHeartbeat usb (link.wrote request value index status)) :
    Within usbMonitor (controlWrite libusbErrorName request value index)
      (fun _ usb link => Settled nextMode nextHeartbeat usb link)
      (fun _ usb link => Settled mode heartbeat usb link) usb link := by
  rcases settled with closed | live
  · exact within_unconnected closed fun _ => .inl closed
  · obtain ⟨pointer, holding⟩ := live.holding
    apply within_controlWrite holding permitted
    · intro _ status failed
      exact .inr (live.failed noReset failed)
    · intro status success
      exact .inr (sent status success live)

abbrev Leaves {Value : Type} (mode : Option (UInt16 × UInt16)) (heartbeat : Option Bool)
    (program : Driver Value) : Prop :=
  Program.Keeping usbMonitor (Settled mode heartbeat) (fun _ _ => True) program
    (fun _ _ _ => True)

theorem leaves_controlWrite {request : UInt8} {value index : UInt16} (noReset : request ≠ 0xC0)
    (noMode : request ≠ 0xDC) (noHeartbeat : request ≠ 0xF3) :
    Leaves mode heartbeat (controlWrite libusbErrorName request value index) := by
  intro usb link settled _
  refine Program.within_mono (settled_controlWrite settled noReset
    (fun isMode => absurd isMode noMode) ?_) (fun _ _ _ kept => ⟨kept, trivial⟩)
    (fun _ _ _ kept => kept)
  intro status _ live
  rw [wrote_other noReset noMode noHeartbeat]
  exact live

theorem leaves_controlRead {request : UInt8} {value index size : UInt16}
    (noVersions : request ≠ 0xDD) (noHardware : request ≠ 0xC1) :
    Leaves mode heartbeat (controlRead libusbErrorName request value index size) := by
  intro usb link settled _
  rcases settled with closed | live
  · exact within_unconnected closed fun _ => .inl closed
  · obtain ⟨pointer, holding⟩ := live.holding
    apply within_controlRead holding <;> intros <;> rw [answered_other noVersions noHardware]
    · exact .inr live.unready
    · exact ⟨.inr live, trivial⟩

theorem leaves_bind {Value Other : Type} {program : Driver Other} {next : Other → Driver Value}
    (first : Leaves mode heartbeat program) (second : ∀ value, Leaves mode heartbeat (next value)) :
    Leaves mode heartbeat (program >>= next) :=
  Program.keeping_bind (fun _ _ _ => True) first second

theorem leaves_pure {Value : Type} (value : Value) :
    Leaves mode heartbeat (pure value : Driver Value) :=
  Program.keeping_pure fun _ _ _ _ => trivial

theorem leaves_configureBuses (buses : List UInt16) :
    Leaves mode heartbeat (configureBuses libusbErrorName config buses) := by
  induction buses with
  | nil => exact leaves_pure ()
  | cons bus rest ih =>
      apply leaves_bind (leaves_controlWrite (by decide) (by decide) (by decide))
      intro _
      apply leaves_bind (leaves_controlWrite (by decide) (by decide) (by decide))
      intro _
      apply leaves_bind (leaves_controlWrite (by decide) (by decide) (by decide))
      intro _
      exact ih

theorem leaves_canHealth (buses : List UInt16) :
    ∀ result, Leaves mode heartbeat (canHealth libusbErrorName config buses result) := by
  induction buses with
  | nil => intro result; exact leaves_pure result
  | cons bus rest ih =>
      intro result
      exact leaves_bind (leaves_controlRead (by decide) (by decide)) fun can => ih _

theorem leaves_steadyClock : Leaves mode heartbeat steadyClock :=
  fun _ _ settled _ => within_steadyClock.mpr fun _ => ⟨settled, trivial⟩

theorem leaves_raiseIf (condition : Bool) (what : String) :
    Leaves mode heartbeat (raiseIf condition what) :=
  Program.keeping_raiseIf fun _ _ _ _ _ => trivial

theorem leaves_sessionHealth (result : PandaHealth) :
    Leaves mode heartbeat (sessionHealth libusbErrorName config result) := by
  apply Program.keeping_ite
  · intro _
    exact leaves_pure result
  intro _
  apply leaves_bind (leaves_controlRead (by decide) (by decide))
  intro session
  exact leaves_bind (leaves_raiseIf _ _) fun _ => leaves_pure _

theorem leaves_health : Leaves mode heartbeat (health libusbErrorName config) := by
  apply leaves_bind (leaves_controlRead (by decide) (by decide))
  intro packet
  apply leaves_bind (leaves_raiseIf _ _)
  intro _
  apply leaves_bind (leaves_sessionHealth _)
  intro result
  apply leaves_bind (leaves_canHealth _ _)
  intro result
  exact leaves_bind leaves_steadyClock fun _ => leaves_pure _

/-- Reads and writes of the bulk endpoints, once the interface is known to be claimed. -/
abbrev LeavesLive {Value : Type} (mode : Option (UInt16 × UInt16)) (heartbeat : Option Bool)
    (program : Driver Value) : Prop :=
  ∀ usb link, Live mode heartbeat usb link →
    Within usbMonitor program (fun _ usb link => Settled mode heartbeat usb link)
      (fun _ usb link => Settled mode heartbeat usb link) usb link

theorem leaves_ensureConnected {Value : Type} {next : Unit → Driver Value}
    (live : LeavesLive mode heartbeat (next ())) :
    Leaves mode heartbeat (ensureConnected >>= next) := by
  intro usb link settled _
  rcases settled with closed | held
  · exact within_unconnected closed fun _ => .inl closed
  · obtain ⟨pointer, holding⟩ := held.holding
    rw [Program.within_bind, within_ensureConnected holding]
    exact Program.within_mono (live usb link held) (fun _ _ _ kept => ⟨kept, trivial⟩)
      (fun _ _ _ kept => kept)

theorem Live.carrying (live : Live mode heartbeat usb link) (carry : List UInt8) :
    Live mode heartbeat { usb with receiveCarry := carry } link := by
  obtain ⟨pointer, holding⟩ := live.holding
  exact ⟨⟨pointer, holding.context, holding.handle, holding.handleOpen, holding.stage⟩,
    live.checked, live.mode, live.heartbeat⟩

theorem leaves_receive : Leaves mode heartbeat (receive libusbErrorName config) := by
  apply leaves_ensureConnected
  intro usb link live
  obtain ⟨pointer, holding⟩ := live.holding
  simp only [Program.within_bind, Program.within_fetch, within_bulkIn, Program.within_runIf,
    Program.within_change, within_steadyClock]
  refine ⟨holding_claimed holding, fun answer => ?_⟩
  have stored {usb : PandaUsb} {link : PandaLink} (carry : List UInt8)
      (live : Live mode heartbeat usb link) :
      Settled mode heartbeat { usb with receiveCarry := carry } link :=
    .inr (live.carrying carry)
  constructor
  · intro _ now
    have kept := fun carry => stored carry (live.received receiveCapacity answer).unready
    split <;> exact kept _
  · intro _ now
    have kept := fun carry => stored carry (live.received receiveCapacity answer)
    split <;> exact kept _

theorem live_writeBytes (fuel : Nat) :
    ∀ bytes, LeavesLive mode heartbeat (writeBytes libusbErrorName config fuel bytes) := by
  induction fuel with
  | zero => intro bytes usb link live; exact .inr live
  | succ fuel ih =>
      intro bytes usb link live
      obtain ⟨pointer, holding⟩ := live.holding
      simp only [writeBytes, Program.within_ite, Program.within_pure, Program.within_bind,
        Program.within_fetch, within_bulkOut, Program.within_runIf, Program.within_change,
        Program.within_raise]
      refine ⟨fun _ => .inr live, fun _ => ⟨⟨holding_claimed holding, live.checked⟩,
        fun answer => ⟨fun _ => ⟨fun _ => .inr live.unready, fun _ => .inr live⟩, fun _ => ?_⟩⟩⟩
      exact ih _ usb link live

theorem leaves_send (frames : List BusFrame) :
    Leaves mode heartbeat (send libusbErrorName config frames) := by
  apply leaves_ensureConnected
  intro usb link live
  obtain ⟨pointer, holding⟩ := live.holding
  rw [Program.within_ite]
  refine ⟨fun _ => .inr live, fun _ => ?_⟩
  rw [Program.within_bind, within_ensureConnected holding]
  cases packFrames frames with
  | error what => exact .inr live
  | ok buffer => exact live_writeBytes buffer.length buffer usb link live

theorem settled_possession (settled : Settled mode heartbeat usb link) : Possession usb link := by
  rcases settled with closed | live
  · exact .nothing closed.context closed.handle closed.handleOpen closed.link
  · obtain ⟨pointer, holding⟩ := live.holding
    exact .claimed pointer holding

theorem FreshSession.live (fresh : FreshSession config usb link) :
    Live (some (kSafetyNoOutput, config.commandSessionParam)) (some false) usb link :=
  ⟨fresh.holding, fresh.standingBy.checked, .inl fresh.standingBy.mode,
    .inl fresh.standingBy.heartbeat⟩

theorem live_of_ready (settled : Settled mode heartbeat usb link) (ready : usb.ready = true) :
    Live mode heartbeat usb link := by
  rcases settled with closed | live
  · rw [closed.ready] at ready
    cases ready
  · exact live

/-- The last call closed the session, or failed to open one. -/
def ServedCall.ends : ServedCall → Bool
  | ⟨.disconnect, _, _⟩ => true
  | ⟨.connect, _, .error _⟩ => true
  | _ => false

/-- What one call leaves of the session: the settings it asked for if it returns, and nothing at
all if it ends the session. -/
structure CallLeft (config : PandaUsbConfig) (mode : Option (UInt16 × UInt16))
    (heartbeat : Option Bool) (served : ServedCall) (usb : PandaUsb) (link : PandaLink) : Prop where
  settled : Settled ((served.mode config).or mode) (served.heartbeat.or heartbeat) usb link
  ended : served.ends = true → Closed usb link

theorem CallLeft.of_leaves {call : UsbCall} {program : Driver Unit} {wasReady : Bool}
    (leaves : Leaves mode heartbeat program) (settled : Settled mode heartbeat usb link)
    (noMode : ∀ outcome, ServedCall.mode config ⟨call, wasReady, outcome⟩ = none)
    (noHeartbeat : ∀ outcome, ServedCall.heartbeat ⟨call, wasReady, outcome⟩ = none)
    (goesOn : ∀ outcome, ServedCall.ends ⟨call, wasReady, outcome⟩ = false) :
    Within usbMonitor program
      (fun value usb link => CallLeft config mode heartbeat ⟨call, wasReady, .ok value⟩ usb link)
      (fun what usb link => CallLeft config mode heartbeat ⟨call, wasReady, .error what⟩ usb link)
      usb link := by
  refine Program.within_mono (leaves usb link settled trivial) ?_ ?_
  · intro value usb link kept
    refine ⟨?_, by simp [goesOn]⟩
    rw [noMode, noHeartbeat]
    exact kept.1
  · intro what usb link kept
    refine ⟨?_, by simp [goesOn]⟩
    rw [noMode, noHeartbeat]
    exact kept

theorem within_perform (call : UsbCall) (settled : Settled mode heartbeat usb link) :
    Within usbMonitor (perform libusbErrorName config call)
      (fun value usb' link => CallLeft config mode heartbeat ⟨call, usb.ready, .ok value⟩ usb' link)
      (fun what usb' link =>
        CallLeft config mode heartbeat ⟨call, usb.ready, .error what⟩ usb' link)
      usb link := by
  cases call with
  | connect =>
      cases ready : usb.ready with
      | true =>
          simp only [perform, connect, Program.within_bind, Program.within_fetch,
            Program.within_ite, ready]
          exact ⟨fun _ => ⟨settled, fun never => absurd never Bool.false_ne_true⟩, by simp⟩
      | false =>
          refine Program.within_mono (within_connect (settled_possession settled) ready) ?_ ?_
          · intro _ usb link fresh
            exact ⟨.inr fresh.live, fun never => absurd never Bool.false_ne_true⟩
          · intro what usb link closed
            exact ⟨.inl closed, fun _ => closed⟩
  | disconnect =>
      refine Program.within_mono
        (within_disconnect (settled_possession settled) :
          Within usbMonitor disconnect _ (fun _ _ _ => False) usb link) ?_ ?_
      · intro _ usb link closed
        exact ⟨.inl closed, fun _ => closed⟩
      · intro _ _ _ impossible
        exact impossible.elim
  | configureCan =>
      exact CallLeft.of_leaves (leaves_configureBuses _) settled (fun _ => rfl) (fun _ => rfl) fun _ => rfl
  | setSafetyMode nextMode param =>
      simp only [perform, setSafetyMode, Program.within_ite, Program.within_raise]
      refine ⟨fun _ => ⟨settled, fun never => absurd never Bool.false_ne_true⟩, fun allowed => ?_⟩
      refine Program.within_mono (settled_controlWrite settled (by decide)
        (fun _ => by simpa using allowed) fun status sent live => live.setMode sent) ?_ ?_
      · intro _ usb link kept
        exact ⟨kept, fun never => absurd never Bool.false_ne_true⟩
      · intro what usb link kept
        exact ⟨kept, fun never => absurd never Bool.false_ne_true⟩
  | sendHeartbeat engaged =>
      refine Program.within_mono (settled_controlWrite settled (by decide)
        (fun isMode => absurd isMode (by decide)) fun status sent live =>
          live.setHeartbeat sent) ?_ ?_
      · intro _ usb link kept
        exact ⟨kept, fun never => absurd never Bool.false_ne_true⟩
      · intro what usb link kept
        exact ⟨kept, fun never => absurd never Bool.false_ne_true⟩
  | dropLongitudinalPermission =>
      exact CallLeft.of_leaves (leaves_controlWrite (by decide) (by decide) (by decide)) settled
        (fun _ => rfl) (fun _ => rfl) fun _ => rfl
  | health =>
      exact CallLeft.of_leaves (leaves_bind leaves_health fun _ => leaves_pure ()) settled
        (fun _ => rfl) (fun _ => rfl) fun _ => rfl
  | receive =>
      exact CallLeft.of_leaves (leaves_bind leaves_receive fun _ => leaves_pure ()) settled
        (fun _ => rfl) (fun _ => rfl) fun _ => rfl
  | send frames =>
      exact CallLeft.of_leaves (leaves_send frames) settled (fun _ => rfl) (fun _ => rfl) fun _ => rfl

def askedMode (config : PandaUsbConfig) (mode : Option (UInt16 × UInt16)) :
    List ServedCall → Option (UInt16 × UInt16)
  | [] => mode
  | served :: rest => askedMode config ((served.mode config).or mode) rest

def askedHeartbeat (heartbeat : Option Bool) : List ServedCall → Option Bool
  | [] => heartbeat
  | served :: rest => askedHeartbeat (served.heartbeat.or heartbeat) rest

theorem within_serve (calls : List UsbCall) :
    ∀ {usb : PandaUsb} {link : PandaLink} {mode : Option (UInt16 × UInt16)}
      {heartbeat : Option Bool} (earlier : Option ServedCall), Settled mode heartbeat usb link →
      (∀ last, earlier = some last → last.ends = true → Closed usb link) →
        Within usbMonitor (serve libusbErrorName config calls)
          (fun served usb link =>
            Settled (askedMode config mode served) (askedHeartbeat heartbeat served) usb link ∧
              ∀ last, served.getLast?.or earlier = some last → last.ends = true →
                Closed usb link)
          (fun _ _ _ => False) usb link := by
  induction calls with
  | nil => intro usb link mode heartbeat earlier settled ended; exact ⟨settled, ended⟩
  | cons call rest ih =>
      intro usb link mode heartbeat earlier settled ended
      simp only [serve, Program.within_bind, Program.within_fetch, Program.within_outcome]
      have later : ∀ (outcome : Except String Unit) (left : PandaUsb) (seen : PandaLink),
          CallLeft config mode heartbeat ⟨call, usb.ready, outcome⟩ left seen →
            Within usbMonitor (serve libusbErrorName config rest)
              (fun served left seen => Within usbMonitor
                (pure (⟨call, usb.ready, outcome⟩ :: served) : Driver (List ServedCall))
                (fun served left seen =>
                  Settled (askedMode config mode served) (askedHeartbeat heartbeat served) left
                    seen ∧ ∀ last, served.getLast?.or earlier = some last → last.ends = true →
                      Closed left seen)
                (fun _ _ _ => False) left seen)
              (fun _ _ _ => False) left seen := by
        intro outcome left seen kept
        refine Program.within_mono (ih (some ⟨call, usb.ready, outcome⟩) kept.settled ?_) ?_
          (fun _ _ _ impossible => impossible)
        · intro last isLast ends
          cases Option.some.inj isLast
          exact kept.ended ends
        · intro served left seen reached
          refine ⟨reached.1, fun last isLast => reached.2 last ?_⟩
          rw [List.getLast?_cons] at isLast
          cases tail : served.getLast? with
          | none => simpa [tail] using isLast
          | some other => simpa [tail] using isLast
      refine Program.within_mono (within_perform call settled) ?_ ?_
      · intro value left seen kept
        exact later (.ok value) left seen kept
      · intro what left seen kept
        exact later (.error what) left seen kept

end Calls

/-! ## What was taken and given back -/

abbrev UsbExchange := Exchange UsbAsk UsbAnswer

namespace UsbExchange

@[simp] def creates : UsbExchange → Bool
  | ⟨.init, (status : Int)⟩ => status == 0
  | _ => false

@[simp] def exits : UsbExchange → Bool
  | ⟨.exit, _⟩ => true
  | _ => false

@[simp] def opens : UsbExchange → Bool
  | ⟨.openDevice _, (answer : OpenAnswer)⟩ => answer.status == 0 && answer.candidate.isSome
  | _ => false

@[simp] def closes : UsbExchange → Bool
  | ⟨.close _, _⟩ => true
  | _ => false

@[simp] def claims : UsbExchange → Bool
  | ⟨.claimInterface _, (status : Int)⟩ => status == 0
  | _ => false

@[simp] def releases : UsbExchange → Bool
  | ⟨.releaseInterface _, _⟩ => true
  | _ => false

end UsbExchange

namespace UsbStage

@[simp] def contexts : UsbStage → Nat
  | .idle => 0
  | _ => 1

@[simp] def handles : UsbStage → Nat
  | .idle => 0
  | .context => 0
  | _ => 1

@[simp] def interfaces : UsbStage → Nat
  | .claimed _ => 1
  | _ => 0

end UsbStage

/-- An exchange and the links around it agree on the three accounts. -/
structure Booked (link after : PandaLink) (exchange : UsbExchange) : Prop where
  contexts : after.stage.contexts + (UsbExchange.exits exchange).toNat =
    link.stage.contexts + (UsbExchange.creates exchange).toNat
  handles : after.stage.handles + (UsbExchange.closes exchange).toNat =
    link.stage.handles + (UsbExchange.opens exchange).toNat
  interfaces : after.stage.interfaces + (UsbExchange.releases exchange).toNat =
    link.stage.interfaces + (UsbExchange.claims exchange).toNat

section Booking
variable {link : PandaLink}

theorem booked_init (stage : link.stage = .idle) (status : Int) :
    Booked link (link.notes .init status) ⟨.init, status⟩ := by
  by_cases success : status = 0
  · rw [show link.notes .init status = { stage := .context } from if_pos success]
    constructor <;> simp [stage, success]
  · rw [show link.notes .init status = link from if_neg success]
    constructor <;> simp [success]

theorem booked_openDevice (stage : link.stage = .context) (device : Nat) (answer : OpenAnswer) :
    Booked link (link.notes (.openDevice device) answer) ⟨.openDevice device, answer⟩ := by
  rcases notes_openDevice link device answer with ⟨refused, same⟩ | ⟨granted, pointer, isSome, now⟩
  · rw [same]
    constructor
    · rfl
    · have noHandle : (answer.status == 0 && answer.candidate.isSome) = false := by
        cases candidate : answer.candidate <;> simp_all
      simp [noHandle]
    · rfl
  · rw [now]
    have success : answer.status = 0 := by simpa using (Bool.or_eq_false_iff.mp granted).1
    constructor <;> simp [stage, success, isSome]

theorem booked_claimInterface {pointer : Option Nat} (opened : link.Opened pointer)
    (status : Int) :
    Booked link (link.notes (.claimInterface pointer) status) ⟨.claimInterface pointer, status⟩ := by
  obtain ⟨handle, rfl, isStage⟩ := Option.map_eq_some_iff.mp opened
  rw [notes_claimInterface]
  by_cases success : status = 0
  · constructor <;> simp [← isStage, success]
  · constructor <;> simp [success]

theorem booked_notes (exchange : UsbExchange) (allowed : link.allows exchange.question) :
    Booked link (link.notes exchange.question exchange.answer) exchange := by
  obtain ⟨question, answer⟩ := exchange
  cases question with
  | init => exact booked_init allowed answer
  | openDevice device => exact booked_openDevice allowed device answer
  | claimInterface pointer => exact booked_claimInterface allowed answer
  | close pointer =>
      obtain ⟨handle, rfl, isStage⟩ := Option.map_eq_some_iff.mp allowed
      constructor <;> simp [PandaLink.notes, ← isStage]
  | releaseInterface pointer =>
      obtain ⟨handle, rfl, isStage⟩ := Option.map_eq_some_iff.mp allowed
      constructor <;> simp [PandaLink.notes, ← isStage]
  | exit =>
      have stage : link.stage = .context := allowed
      constructor <;> simp [PandaLink.notes, stage]
  | _ => exact ⟨rfl, rfl, rfl⟩

end Booking

/-- What the exchanges took and did not give back is what the driver still has. -/
structure Accounted (exchanges : List UsbExchange) (usb : PandaUsb) : Prop where
  contexts : usb.context.toNat + exchanges.countP UsbExchange.exits =
    exchanges.countP UsbExchange.creates
  handles : usb.handle.isSome.toNat + exchanges.countP UsbExchange.closes =
    exchanges.countP UsbExchange.opens
  interfaces : usb.handleOpen.toNat + exchanges.countP UsbExchange.releases =
    exchanges.countP UsbExchange.claims

theorem accounted_of_settled {exchanges : List UsbExchange} {usb : PandaUsb}
    {mode : Option (UInt16 × UInt16)} {heartbeat : Option Bool}
    (obeyed : usbMonitor.Obeyed {} exchanges)
    (settled : Settled mode heartbeat usb (usbMonitor.follow {} exchanges)) :
    Accounted exchanges usb := by
  have contexts := usbMonitor.follow_balance (fun link => link.stage.contexts)
    UsbExchange.creates UsbExchange.exits
    (fun _ exchange allowed => (booked_notes exchange allowed).contexts) exchanges {} obeyed
  have handles := usbMonitor.follow_balance (fun link => link.stage.handles)
    UsbExchange.opens UsbExchange.closes
    (fun _ exchange allowed => (booked_notes exchange allowed).handles) exchanges {} obeyed
  have interfaces := usbMonitor.follow_balance (fun link => link.stage.interfaces)
    UsbExchange.claims UsbExchange.releases
    (fun _ exchange allowed => (booked_notes exchange allowed).interfaces) exchanges {} obeyed
  rcases settled with closed | live
  · rw [closed.link] at contexts handles interfaces
    constructor
    · simpa [closed.context] using contexts
    · simpa [closed.handle] using handles
    · simpa [closed.handleOpen] using interfaces
  · obtain ⟨pointer, holding⟩ := live.holding
    rw [holding.stage] at contexts handles interfaces
    constructor
    · simpa [holding.context] using contexts
    · simpa [holding.handle] using handles
    · simpa [holding.handleOpen] using interfaces

/-! ## Whole lives of a driver -/

section Lives
variable (libusbErrorName : Int → String) (config : PandaUsbConfig)
  (party : List UsbExchange → (question : UsbAsk) → UsbAnswer question)

/-- The exchanges, the driver and the outcomes of an owner's calls on a new driver. -/
structure Life (calls : List UsbCall) (exchanges : List UsbExchange) (usb : PandaUsb)
    (served : List ServedCall) : Prop where
  held : (serve libusbErrorName config calls {}).hold party [] = (exchanges, usb, .ok served)
  obeyed : usbMonitor.Obeyed {} exchanges
  settled : Settled (askedMode config none served) (askedHeartbeat none served) usb
    (usbMonitor.follow {} exchanges)
  ended : ∀ last, served.getLast? = some last → last.ends = true →
    Closed usb (usbMonitor.follow {} exchanges)

theorem exists_life (calls : List UsbCall) :
    ∃ exchanges usb served, Life libusbErrorName config party calls exchanges usb served := by
  have start : Settled none none ({} : PandaUsb) {} := .inl ⟨rfl, rfl, rfl, rfl, rfl, rfl⟩
  obtain ⟨exchanges, usb, served, run, obeyed, settled, ended⟩ :=
    Program.exists_run party (within_serve calls none start fun last isLast => by cases isLast)
  refine ⟨exchanges, usb, served, run, obeyed, settled, fun last isLast => ended last ?_⟩
  rw [isLast]
  rfl

/-- Whatever libusb answers and whatever the owner calls, the questions are in order: interfaces are
claimed, released and used on the one open handle only, handles are opened and closed within a
context, the Panda is never put into ALLOUTPUT and a bulk write only reaches a checked Panda.  What
was taken and not given back is exactly what the driver holds, which is nothing after `disconnect`
and after a `connect` that throws. -/
theorem driver_gives_back (calls : List UsbCall) :
    ∃ exchanges usb served,
      (serve libusbErrorName config calls {}).hold party [] = (exchanges, usb, .ok served) ∧
        usbMonitor.Obeyed {} exchanges ∧ Accounted exchanges usb ∧
        ∀ last, served.getLast? = some last → last.ends = true →
          exchanges.countP UsbExchange.exits = exchanges.countP UsbExchange.creates ∧
            exchanges.countP UsbExchange.closes = exchanges.countP UsbExchange.opens ∧
            exchanges.countP UsbExchange.releases = exchanges.countP UsbExchange.claims := by
  obtain ⟨exchanges, usb, served, life⟩ := exists_life libusbErrorName config party calls
  have accounted := accounted_of_settled life.obeyed life.settled
  refine ⟨exchanges, usb, served, life.held, life.obeyed, accounted, ?_⟩
  intro last isLast ends
  have closed := life.ended last isLast ends
  refine ⟨?_, ?_, ?_⟩
  · simpa [closed.context] using accounted.contexts
  · simpa [closed.handle] using accounted.handles
  · simpa [closed.handleOpen] using accounted.interfaces

/-- A driver that is ready holds the claimed interface of a Panda whose versions, hardware type and
packet boundary it has seen since it opened it, and the Panda has the safety mode and the heartbeat
that the owner's returning calls asked for last. -/
theorem ready_driver_agrees (calls : List UsbCall) :
    ∃ exchanges usb served,
      (serve libusbErrorName config calls {}).hold party [] = (exchanges, usb, .ok served) ∧
        (usb.ready = true →
          (usbMonitor.follow {} exchanges).Claimed usb.handle ∧
            (usbMonitor.follow {} exchanges).Checked ∧
            (usbMonitor.follow {} exchanges).mode = askedMode config none served ∧
            (usbMonitor.follow {} exchanges).heartbeat = askedHeartbeat none served) := by
  obtain ⟨exchanges, usb, served, life⟩ := exists_life libusbErrorName config party calls
  refine ⟨exchanges, usb, served, life.held, fun ready => ?_⟩
  have live := live_of_ready life.settled ready
  obtain ⟨pointer, holding⟩ := live.holding
  refine ⟨holding_claimed holding, live.checked, ?_, ?_⟩
  · refine live.mode.resolve_right fun lost => ?_
    rw [ready] at lost
    exact absurd lost.2 Bool.true_eq_false.mp
  · refine live.heartbeat.resolve_right fun lost => ?_
    rw [ready] at lost
    exact absurd lost.2 Bool.true_eq_false.mp

end Lives

/-- A libusb with one Red Panda of the pinned firmware, whose transfers succeed. -/
def pinnedPanda : (question : UsbAsk) → UsbAnswer question
  | .init => (0 : Int)
  | .getDeviceList => (1 : Int)
  | .getDeviceDescriptor _ => (⟨0, ⟨0x3801, 0xDDCC, 0⟩⟩ : DescriptorAnswer)
  | .openDevice _ => (⟨0, some 7⟩ : OpenAnswer)
  | .getStringDescriptor _ _ => (⟨0, []⟩ : DataAnswer)
  | .close _ => ()
  | .freeDeviceList => ()
  | .setAutoDetachKernelDriver _ => (0 : Int)
  | .claimInterface _ => (0 : Int)
  | .releaseInterface _ => (0 : Int)
  | .exit => ()
  | .controlOut _ _ _ _ => (0 : Int)
  | .controlIn _ request _ _ _ =>
      if request = 0xDD then
        (⟨8, [0x03, 0xAE, 0x0D, 0x29, 0x76, 0xF2, 0xAB, 0x75]⟩ : DataAnswer)
      else (⟨1, [7]⟩ : DataAnswer)
  | .bulkIn _ _ _ => (⟨0, 64, []⟩ : BulkAnswer)
  | .bulkOut _ _ _ => (⟨0, 64, []⟩ : BulkAnswer)
  | .steadyClock => (0 : Int)
  | .drainClock => (⟨0, 0, [⟨0, 0, 0⟩]⟩ : DrainClock)

example : ((serve (fun _ => "") {} [.connect] {}).hold (fun _ => pinnedPanda) []).2.1.ready = true := by
  decide +kernel

end Ioniq5Ecan.Usb
