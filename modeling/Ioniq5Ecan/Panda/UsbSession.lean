import Ioniq5Ecan.Panda.UsbDriver

/-! # USB sessions

What libusb and the Panda see of the driver, as a monitor of its questions:
which ones are in order, and what the exchanges tell about the Panda.
`connect` leaves a checked Panda standing by or gives everything back, and
`disconnect` gives back whatever it finds. -/
set_option autoImplicit false
namespace Ioniq5Ecan.Usb

open Library (Dialogue Exchange Monitor Program)
open Library.Program (Within)

/-! ## The other side -/

inductive UsbStage
  | idle
  | context
  | opened (handle : Nat)
  | claimed (handle : Nat)
  deriving DecidableEq

/-- What the exchanges since the context was created tell about the Panda.  A control write that
failed may have been carried out or not. -/
structure PandaLink where
  stage : UsbStage := .idle
  protocol : Bool := false
  hardware : Bool := false
  drained : Bool := false
  mode : Option (UInt16 × UInt16) := none
  heartbeat : Option Bool := none

namespace PandaLink

def Opened (link : PandaLink) (handle : Option Nat) : Prop :=
  handle.map UsbStage.opened = some link.stage

def Claimed (link : PandaLink) (handle : Option Nat) : Prop :=
  handle.map UsbStage.claimed = some link.stage

/-- The versions, the hardware type and the packet boundary have been seen. -/
def Checked (link : PandaLink) : Prop :=
  link.protocol = true ∧ link.hardware = true ∧ link.drained = true

def allows (link : PandaLink) : UsbAsk → Prop
  | .init => link.stage = .idle
  | .getDeviceList => link.stage = .context
  | .getDeviceDescriptor _ => link.stage = .context
  | .openDevice _ => link.stage = .context
  | .getStringDescriptor handle _ => link.Opened handle
  | .close handle => link.Opened handle
  | .freeDeviceList => link.stage = .context ∨ ∃ handle, link.stage = .opened handle
  | .setAutoDetachKernelDriver handle => link.Opened handle
  | .claimInterface handle => link.Opened handle
  | .releaseInterface handle => link.Claimed handle
  | .exit => link.stage = .context
  | .controlOut handle request value _ => link.Claimed handle ∧ (request = 0xDC → value ≠ 17)
  | .controlIn handle _ _ _ _ => link.Claimed handle
  | .bulkIn handle _ _ => link.Claimed handle
  | .bulkOut handle _ _ => link.Claimed handle ∧ link.Checked
  | .steadyClock => True
  | .drainClock => True

def wrote (link : PandaLink) (request : UInt8) (value index : UInt16) (status : Int) : PandaLink :=
  { link with
    drained := link.drained && decide (request ≠ 0xC0)
    mode := if request = 0xDC then if status < 0 then none else some (value, index) else link.mode
    heartbeat :=
      if request = 0xF3 then if status < 0 then none else some (value != 0) else link.heartbeat }

def answered (link : PandaLink) (request : UInt8) (answer : DataAnswer) : PandaLink :=
  { link with
    protocol :=
      if request = 0xDD then
        answer.status == 8 && u32At answer.data 0 == kPinnedHealthPacketVersion &&
          u32At answer.data 4 == kPinnedCanPacketVersion
      else link.protocol
    hardware :=
      if request = 0xC1 then
        answer.status == 1 && byteAt answer.data 0 == kRedPandaHardwareType
      else link.hardware }

/-- A successful transfer short of the buffer ends the queued stream. -/
def received (link : PandaLink) (capacity : Nat) (answer : BulkAnswer) : PandaLink :=
  { link with
    drained := link.drained ||
      (decide (answer.status = 0) && decide (answer.transferred < capacity)) }

def notes (link : PandaLink) : (question : UsbAsk) → UsbAnswer question → PandaLink
  | .init, (status : Int) => if status = 0 then { stage := .context } else link
  | .openDevice _, (opened : OpenAnswer) =>
      match opened.candidate with
      | some handle => if opened.status = 0 then { link with stage := .opened handle } else link
      | none => link
  | .close _, _ => { link with stage := .context }
  | .claimInterface handle, (status : Int) =>
      match handle with
      | some handle => if status = 0 then { link with stage := .claimed handle } else link
      | none => link
  | .releaseInterface handle, _ =>
      match handle with
      | some handle => { link with stage := .opened handle }
      | none => link
  | .exit, _ => {}
  | .controlOut _ request value index, (status : Int) => link.wrote request value index status
  | .controlIn _ request _ _ _, (answer : DataAnswer) => link.answered request answer
  | .bulkIn _ capacity _, (answer : BulkAnswer) => link.received capacity answer
  | _, _ => link

end PandaLink

def usbMonitor : Monitor UsbAsk UsbAnswer PandaLink where
  allows := PandaLink.allows
  notes := PandaLink.notes

/-! ## Questions -/

section Questions
variable {usb : PandaUsb} {link : PandaLink} {pointer : Option Nat}
  {thrown : String → PandaUsb → PandaLink → Prop}

theorem within_controlOut {request : UInt8} {value index : UInt16}
    {post : Int → PandaUsb → PandaLink → Prop} :
    Within usbMonitor (controlOut pointer request value index) post thrown usb link ↔
      (link.Claimed pointer ∧ (request = 0xDC → value ≠ 17)) ∧
        ∀ status, post status usb (link.wrote request value index status) :=
  Iff.rfl

theorem within_controlIn {request : UInt8} {value index size : UInt16}
    {post : DataAnswer → PandaUsb → PandaLink → Prop} :
    Within usbMonitor (controlIn pointer request value index size) post thrown usb link ↔
      link.Claimed pointer ∧ ∀ answer, post answer usb (link.answered request answer) :=
  Iff.rfl

theorem within_bulkIn {capacity : Nat} {timeoutMs : Int}
    {post : BulkAnswer → PandaUsb → PandaLink → Prop} :
    Within usbMonitor (bulkIn pointer capacity timeoutMs) post thrown usb link ↔
      link.Claimed pointer ∧ ∀ answer, post answer usb (link.received capacity answer) :=
  Iff.rfl

theorem within_bulkOut {bytes : List UInt8} {timeoutMs : Int}
    {post : BulkAnswer → PandaUsb → PandaLink → Prop} :
    Within usbMonitor (bulkOut pointer bytes timeoutMs) post thrown usb link ↔
      (link.Claimed pointer ∧ link.Checked) ∧ ∀ answer, post answer usb link :=
  Iff.rfl

theorem within_steadyClock {post : TimePoint → PandaUsb → PandaLink → Prop} :
    Within usbMonitor steadyClock post thrown usb link ↔ ∀ now, post now usb link :=
  ⟨And.right, fun holds => ⟨trivial, holds⟩⟩

theorem within_drainClock {post : DrainClock → PandaUsb → PandaLink → Prop} :
    Within usbMonitor drainClock post thrown usb link ↔ ∀ clock, post clock usb link :=
  ⟨And.right, fun holds => ⟨trivial, holds⟩⟩

theorem within_libusbInit {post : Int → PandaUsb → PandaLink → Prop} :
    Within usbMonitor libusbInit post thrown usb link ↔
      link.stage = .idle ∧
        ∀ status : Int, post status usb (if status = 0 then { stage := .context } else link) :=
  Iff.rfl

theorem within_libusbGetDeviceList {post : Int → PandaUsb → PandaLink → Prop} :
    Within usbMonitor libusbGetDeviceList post thrown usb link ↔
      link.stage = .context ∧ ∀ count, post count usb link :=
  Iff.rfl

theorem within_libusbGetDeviceDescriptor {device : Nat}
    {post : DescriptorAnswer → PandaUsb → PandaLink → Prop} :
    Within usbMonitor (libusbGetDeviceDescriptor device) post thrown usb link ↔
      link.stage = .context ∧ ∀ answer, post answer usb link :=
  Iff.rfl

theorem within_libusbOpen {device : Nat} {post : OpenAnswer → PandaUsb → PandaLink → Prop} :
    Within usbMonitor (libusbOpen device) post thrown usb link ↔
      link.stage = .context ∧
        ∀ answer : OpenAnswer, post answer usb (link.notes (.openDevice device) answer) :=
  Iff.rfl

theorem within_libusbGetStringDescriptor {index : UInt8}
    {post : DataAnswer → PandaUsb → PandaLink → Prop} :
    Within usbMonitor (libusbGetStringDescriptor pointer index) post thrown usb link ↔
      link.Opened pointer ∧ ∀ answer, post answer usb link :=
  Iff.rfl

theorem within_libusbClose {post : Unit → PandaUsb → PandaLink → Prop} :
    Within usbMonitor (libusbClose pointer) post thrown usb link ↔
      link.Opened pointer ∧ ∀ answer, post answer usb { link with stage := .context } :=
  Iff.rfl

theorem within_libusbFreeDeviceList {post : Unit → PandaUsb → PandaLink → Prop} :
    Within usbMonitor libusbFreeDeviceList post thrown usb link ↔
      (link.stage = .context ∨ ∃ handle, link.stage = .opened handle) ∧
        ∀ answer, post answer usb link :=
  Iff.rfl

theorem within_libusbSetAutoDetachKernelDriver {post : Int → PandaUsb → PandaLink → Prop} :
    Within usbMonitor (libusbSetAutoDetachKernelDriver pointer) post thrown usb link ↔
      link.Opened pointer ∧ ∀ status, post status usb link :=
  Iff.rfl

theorem within_libusbClaimInterface {post : Int → PandaUsb → PandaLink → Prop} :
    Within usbMonitor (libusbClaimInterface pointer) post thrown usb link ↔
      link.Opened pointer ∧
        ∀ status : Int, post status usb (link.notes (.claimInterface pointer) status) :=
  Iff.rfl

theorem within_libusbReleaseInterface {post : Int → PandaUsb → PandaLink → Prop} :
    Within usbMonitor (libusbReleaseInterface pointer) post thrown usb link ↔
      link.Claimed pointer ∧
        ∀ status : Int, post status usb (link.notes (.releaseInterface pointer) status) :=
  Iff.rfl

theorem within_libusbExit {post : Unit → PandaUsb → PandaLink → Prop} :
    Within usbMonitor libusbExit post thrown usb link ↔
      link.stage = .context ∧ ∀ answer, post answer usb {} :=
  Iff.rfl

end Questions

/-! ## Transfers on a claimed interface -/

structure Holding (pointer : Nat) (usb : PandaUsb) (link : PandaLink) : Prop where
  context : usb.context = true
  handle : usb.handle = some pointer
  handleOpen : usb.handleOpen = true
  stage : link.stage = .claimed pointer

abbrev Transfers {Value : Type} (pointer : Nat) (pre : PandaUsb → PandaLink → Prop)
    (program : Driver Value) (post : Value → PandaUsb → PandaLink → Prop) : Prop :=
  Program.Keeping usbMonitor (Holding pointer) pre program post

section Transfer
variable {libusbErrorName : Int → String} {config : PandaUsbConfig} {pointer : Nat}
  {pre : PandaUsb → PandaLink → Prop}

theorem Holding.wrote {usb : PandaUsb} {link : PandaLink} (holding : Holding pointer usb link)
    (request : UInt8) (value index : UInt16) (status : Int) :
    Holding pointer usb (link.wrote request value index status) :=
  ⟨holding.context, holding.handle, holding.handleOpen, holding.stage⟩

theorem Holding.answered {usb : PandaUsb} {link : PandaLink} (holding : Holding pointer usb link)
    (request : UInt8) (answer : DataAnswer) :
    Holding pointer usb (link.answered request answer) :=
  ⟨holding.context, holding.handle, holding.handleOpen, holding.stage⟩

theorem Holding.unready {usb : PandaUsb} {link : PandaLink} (holding : Holding pointer usb link) :
    Holding pointer { usb with ready := false } link :=
  ⟨holding.context, holding.handle, holding.handleOpen, holding.stage⟩

theorem holding_claimed {usb : PandaUsb} {link : PandaLink} (holding : Holding pointer usb link) :
    link.Claimed usb.handle := by
  rw [PandaLink.Claimed, holding.handle, holding.stage]
  rfl

theorem within_ensureConnected {usb : PandaUsb} {link : PandaLink}
    {post : Unit → PandaUsb → PandaLink → Prop} {thrown : String → PandaUsb → PandaLink → Prop}
    (holding : Holding pointer usb link) :
    Within usbMonitor ensureConnected post thrown usb link ↔ post () usb link := by
  simp [ensureConnected, holding.handleOpen, holding.handle]

theorem within_controlWrite {usb : PandaUsb} {link : PandaLink} {request : UInt8}
    {value index : UInt16} {post : Unit → PandaUsb → PandaLink → Prop}
    {thrown : String → PandaUsb → PandaLink → Prop} (holding : Holding pointer usb link)
    (permitted : request = 0xDC → value ≠ 17)
    (fails : ∀ what status, status < 0 →
      thrown what { usb with ready := false } (link.wrote request value index status))
    (writes : ∀ status, 0 ≤ status → post () usb (link.wrote request value index status)) :
    Within usbMonitor (controlWrite libusbErrorName request value index) post thrown usb link := by
  simp only [controlWrite, Program.within_bind, within_ensureConnected holding,
    Program.within_fetch, within_controlOut, Program.within_ite, Program.within_change,
    Program.within_raise, Program.within_pure]
  refine ⟨⟨holding_claimed holding, permitted⟩, fun status => ⟨fun failed => ?_, fun sent => ?_⟩⟩
  · exact fails _ status failed
  · exact writes status (Int.not_lt.mp sent)

theorem transfers_controlWrite {request : UInt8} {value index : UInt16}
    {post : Unit → PandaUsb → PandaLink → Prop} (permitted : request = 0xDC → value ≠ 17)
    (writes : ∀ usb link status, Holding pointer usb link → pre usb link → 0 ≤ status →
      post () usb (link.wrote request value index status)) :
    Transfers pointer pre (controlWrite libusbErrorName request value index) post := by
  intro usb link holding start
  apply within_controlWrite holding permitted
  · intro _ status _
    exact (holding.wrote request value index status).unready
  · intro status sent
    exact ⟨holding.wrote request value index status, writes usb link status holding start sent⟩

theorem within_controlRead {usb : PandaUsb} {link : PandaLink} {request : UInt8}
    {value index size : UInt16} {post : DataAnswer → PandaUsb → PandaLink → Prop}
    {thrown : String → PandaUsb → PandaLink → Prop} (holding : Holding pointer usb link)
    (fails : ∀ what answer, thrown what { usb with ready := false } (link.answered request answer))
    (reads : ∀ answer, post answer usb (link.answered request answer)) :
    Within usbMonitor (controlRead libusbErrorName request value index size) post thrown
      usb link := by
  simp only [controlRead, Program.within_bind, within_ensureConnected holding,
    Program.within_fetch, within_controlIn, Program.within_ite, Program.within_change,
    Program.within_raise, Program.within_pure]
  exact ⟨holding_claimed holding, fun answer => ⟨fun _ => fails _ answer, fun _ => reads answer⟩⟩

theorem transfers_controlRead {request : UInt8} {value index size : UInt16}
    {post : DataAnswer → PandaUsb → PandaLink → Prop}
    (reads : ∀ usb link answer, Holding pointer usb link → pre usb link →
      post answer usb (link.answered request answer)) :
    Transfers pointer pre (controlRead libusbErrorName request value index size) post := by
  intro usb link holding start
  apply within_controlRead holding
  · intro _ answer
    exact (holding.answered request answer).unready
  · intro answer
    exact ⟨holding.answered request answer, reads usb link answer holding start⟩

theorem wrote_other {link : PandaLink} {request : UInt8} {value index : UInt16} {status : Int}
    (noReset : request ≠ 0xC0) (noMode : request ≠ 0xDC) (noHeartbeat : request ≠ 0xF3) :
    link.wrote request value index status = link := by
  simp [PandaLink.wrote, noReset, noMode, noHeartbeat]

theorem transfers_other {request : UInt8} {value index : UInt16} (noReset : request ≠ 0xC0)
    (noMode : request ≠ 0xDC) (noHeartbeat : request ≠ 0xF3) :
    Transfers pointer pre (controlWrite libusbErrorName request value index) (fun _ => pre) := by
  apply transfers_controlWrite (fun isMode => absurd isMode noMode)
  intro usb link status _ start _
  rw [wrote_other noReset noMode noHeartbeat]
  exact start

theorem transfers_configureBuses (buses : List UInt16) :
    Transfers pointer pre (configureBuses libusbErrorName config buses) (fun _ => pre) := by
  induction buses with
  | nil => exact Program.keeping_pure fun _ _ _ start => start
  | cons bus rest ih =>
      apply Program.keeping_bind (fun _ => pre) (transfers_other (by decide) (by decide) (by decide))
      intro _
      apply Program.keeping_bind (fun _ => pre) (transfers_other (by decide) (by decide) (by decide))
      intro _
      apply Program.keeping_bind (fun _ => pre) (transfers_other (by decide) (by decide) (by decide))
      intro _
      exact ih

theorem transfers_setSafetyMode {mode param : UInt16}
    {post : Unit → PandaUsb → PandaLink → Prop}
    (sets : ∀ usb link, Holding pointer usb link → pre usb link →
      post () usb { link with mode := some (mode, param) }) :
    Transfers pointer pre (setSafetyMode libusbErrorName mode param) post := by
  unfold setSafetyMode
  apply Program.keeping_ite
  · intro _
    exact Program.keeping_raise
  · intro allowed
    apply transfers_controlWrite (fun _ => by simpa using allowed)
    intro usb link status holding start sent
    have written := sets usb link holding start
    simpa [PandaLink.wrote, Int.not_lt.mpr sent] using written

theorem transfers_sendHeartbeat {engaged : Bool} {post : Unit → PandaUsb → PandaLink → Prop}
    (sets : ∀ usb link, Holding pointer usb link → pre usb link →
      post () usb { link with heartbeat := some engaged }) :
    Transfers pointer pre (sendHeartbeat libusbErrorName engaged) post := by
  apply transfers_controlWrite (fun isMode => absurd isMode (by decide))
  intro usb link status holding start sent
  have written := sets usb link holding start
  cases engaged <;> simpa [PandaLink.wrote, Int.not_lt.mpr sent] using written

/-! ## Connecting -/

/-- The versions and the hardware type fit, and the Panda is in plain NO_OUTPUT. -/
def Quieted (link : PandaLink) : Prop :=
  link.protocol = true ∧ link.hardware = true ∧ link.mode = some (kSafetyNoOutput, 0)

theorem initialReceiveBoundary_reached {capacity : Nat} {status transferred : Int}
    (reached : initialReceiveBoundary libusbErrorName capacity status transferred = .ok true) :
    status = 0 ∧ transferred < capacity := by
  unfold initialReceiveBoundary at reached
  split at reached
  · cases reached
  · split at reached
    · cases reached
    · have both := Except.ok.inj reached
      rw [Bool.and_eq_true, decide_eq_true_eq, decide_eq_true_eq] at both
      exact both

theorem transfers_drainReceive (deadline : TimePoint) (rounds : List DrainRound) :
    ∀ due, Transfers pointer (fun _ link => Quieted link)
      (drainReceive libusbErrorName deadline due rounds)
      (fun _ usb link => Quieted link ∧ link.drained = true ∧ usb.receiveCarry = []) := by
  induction rounds with
  | nil => intro due; exact Program.keeping_raise
  | cons round rest ih =>
      intro due
      unfold drainReceive
      apply Program.keeping_ite
      · intro _
        exact Program.keeping_raise
      intro _
      apply Program.keeping_bind (fun _ _ link => Quieted link)
      · apply Program.keeping_runIf
        · intro _
          exact transfers_sendHeartbeat fun _ _ _ quieted => quieted
        · intro _ _ _ _ quieted
          exact quieted
      intro _ usb link holding quieted
      simp only [Program.within_bind, Program.within_fetch, within_bulkIn]
      refine ⟨holding_claimed holding, fun answer => ?_⟩
      have kept : Holding pointer usb (link.received receiveCapacity answer) :=
        ⟨holding.context, holding.handle, holding.handleOpen, holding.stage⟩
      cases boundary : initialReceiveBoundary libusbErrorName receiveCapacity answer.status
          answer.transferred with
      | error what => exact kept
      | ok reached =>
          cases reached with
          | false => exact ih _ usb _ kept quieted
          | true =>
              obtain ⟨success, short⟩ := initialReceiveBoundary_reached boundary
              refine ⟨⟨kept.context, kept.handle, kept.handleOpen, kept.stage⟩, quieted, ?_, rfl⟩
              simp [PandaLink.received, success, short]

/-- What `connect` establishes: the checks passed, the mode is the wanted standby and the heartbeat
is disengaged. -/
structure StandingBy (config : PandaUsbConfig) (link : PandaLink) : Prop where
  checked : link.Checked
  mode : link.mode = some (kSafetyNoOutput, config.commandSessionParam)
  heartbeat : link.heartbeat = some false

theorem transfers_enterCommandSession :
    Transfers pointer (fun usb link => link.Checked ∧ usb.receiveCarry = [])
      (enterCommandSession libusbErrorName config)
      (fun _ usb link => (link.Checked ∧ usb.receiveCarry = []) ∧
        link.mode = some (kSafetyNoOutput, config.commandSessionParam)) := by
  apply Program.keeping_bind (fun _ usb link => link.Checked ∧ usb.receiveCarry = [])
  · exact transfers_controlRead fun _ _ _ _ start => start
  intro session
  apply Program.keeping_bind (fun _ usb link => link.Checked ∧ usb.receiveCarry = [])
  · exact Program.keeping_raiseIf fun _ _ _ _ start => start
  intro _
  exact transfers_setSafetyMode fun _ _ _ start => ⟨start, rfl⟩

theorem transfers_setUp :
    Transfers pointer (fun _ _ => True) (setUp libusbErrorName config)
      (fun _ usb link => StandingBy config link ∧ usb.ready = true ∧ usb.receiveCarry = []) := by
  unfold setUp
  apply Program.keeping_bind (fun _ _ _ => True)
  · exact transfers_controlWrite (by decide) fun _ _ _ _ _ _ => trivial
  intro _
  apply Program.keeping_bind fun versions _ link => link.protocol =
    (versions.status == 8 && u32At versions.data 0 == kPinnedHealthPacketVersion &&
      u32At versions.data 4 == kPinnedCanPacketVersion)
  · exact transfers_controlRead fun _ _ _ _ _ => rfl
  intro versions
  apply Program.keeping_bind (fun _ _ link => link.protocol = true)
  · apply Program.keeping_raiseIf
    intro _ link passed _ told
    rw [told]
    simpa [bne] using passed
  intro _
  apply Program.keeping_bind fun hardware _ link => link.protocol = true ∧
    link.hardware = (hardware.status == 1 && byteAt hardware.data 0 == kRedPandaHardwareType)
  · exact transfers_controlRead fun _ _ _ _ told => ⟨told, rfl⟩
  intro hardware
  apply Program.keeping_bind (fun _ _ link => link.protocol = true ∧ link.hardware = true)
  · apply Program.keeping_raiseIf
    intro _ link passed _ told
    refine ⟨told.1, ?_⟩
    rw [told.2]
    simpa [bne] using passed
  intro _
  apply Program.keeping_bind (fun _ _ link => link.protocol = true ∧ link.hardware = true)
  · exact transfers_other (by decide) (by decide) (by decide)
  intro _
  apply Program.keeping_bind (fun _ _ link => link.protocol = true ∧ link.hardware = true)
  · exact transfers_configureBuses _
  intro _
  apply Program.keeping_bind (fun _ _ link => Quieted link)
  · exact transfers_setSafetyMode fun _ _ _ told => ⟨told.1, told.2, rfl⟩
  intro _
  apply Program.keeping_bind
    (fun _ usb link => Quieted link ∧ link.drained = true ∧ usb.receiveCarry = [])
  · intro usb link holding quieted
    simp only [synchronizeCanReceive, Program.within_bind, within_drainClock]
    intro clock
    exact transfers_drainReceive _ _ _ usb link holding quieted
  intro _
  apply Program.keeping_bind (fun _ usb link => (link.Checked ∧ usb.receiveCarry = []) ∧
    link.mode = some (kSafetyNoOutput, config.commandSessionParam))
  · apply Program.keeping_runIf
    · intro _
      apply Program.keeping_weaken transfers_enterCommandSession
      · rintro _ _ _ ⟨quieted, drained, carry⟩
        exact ⟨⟨quieted.1, quieted.2.1, drained⟩, carry⟩
      · intro _ _ _ _ told
        exact told
    · rintro _ _ noParam _ ⟨quieted, drained, carry⟩
      refine ⟨⟨⟨quieted.1, quieted.2.1, drained⟩, carry⟩, ?_⟩
      have zero : config.commandSessionParam = 0 := by simpa using noParam
      rw [zero]
      exact quieted.2.2
  intro _
  apply Program.keeping_bind (fun _ usb link => StandingBy config link ∧ usb.receiveCarry = [])
  · exact transfers_sendHeartbeat fun _ _ _ told => ⟨⟨told.1.1, told.2, rfl⟩, told.1.2⟩
  intro _
  exact Program.keeping_change fun _ _ holding told =>
    ⟨⟨holding.context, holding.handle, holding.handleOpen, holding.stage⟩, told.1, rfl, told.2⟩

end Transfer

/-! ## Giving back -/

structure Closed (usb : PandaUsb) (link : PandaLink) : Prop where
  context : usb.context = false
  handle : usb.handle = none
  handleOpen : usb.handleOpen = false
  ready : usb.ready = false
  receiveCarry : usb.receiveCarry = []
  link : link = {}

/-- Between two calls of libusb the driver knows what it has. -/
inductive Possession (usb : PandaUsb) (link : PandaLink) : Prop
  | nothing (context : usb.context = false) (handle : usb.handle = none)
      (handleOpen : usb.handleOpen = false) (idle : link = {})
  | context (context : usb.context = true) (handle : usb.handle = none)
      (handleOpen : usb.handleOpen = false) (stage : link.stage = .context)
  | opened (pointer : Nat) (context : usb.context = true) (handle : usb.handle = some pointer)
      (handleOpen : usb.handleOpen = false) (stage : link.stage = .opened pointer)
  | claimed (pointer : Nat) (holding : Holding pointer usb link)

section Sessions
variable {libusbErrorName : Int → String} {config : PandaUsbConfig} {usb : PandaUsb}
  {link : PandaLink} {thrown : String → PandaUsb → PandaLink → Prop}

theorem within_giveBackHandle {pointer : Nat} {claimed : Bool}
    {post : Unit → PandaUsb → PandaLink → Prop}
    (stage : link.stage = if claimed then .claimed pointer else .opened pointer)
    (left : post () { usb with handle := none } { link with stage := .context }) :
    Within usbMonitor (giveBackHandle (some pointer) claimed) post thrown usb link := by
  simp only [giveBackHandle, Program.within_bind, Program.within_runIf, Program.within_pure,
    within_libusbReleaseInterface, within_libusbClose, Program.within_change]
  cases claimed with
  | true =>
      refine ⟨fun _ => ⟨by rw [PandaLink.Claimed, stage]; rfl, fun status => ⟨rfl, fun _ => left⟩⟩, ?_⟩
      intro unclaimed
      cases unclaimed
  | false =>
      refine ⟨?_, fun _ => ⟨by rw [PandaLink.Opened, stage]; rfl, fun _ => left⟩⟩
      intro wrong
      cases wrong

theorem within_giveBackContext {post : Unit → PandaUsb → PandaLink → Prop}
    (stage : link.stage = .context) (left : post () { usb with context := false } {}) :
    Within usbMonitor giveBackContext post thrown usb link := by
  simp only [giveBackContext, Program.within_bind, within_libusbExit, Program.within_change]
  exact ⟨stage, fun _ => left⟩

theorem within_disconnect (possession : Possession usb link) :
    Within usbMonitor disconnect (fun _ usb link => Closed usb link) thrown usb link := by
  simp only [disconnect, Program.within_bind, Program.within_change, Program.within_fetch,
    Program.within_runIf]
  cases possession with
  | nothing context handle handleOpen idle =>
      refine ⟨by simp [handle], fun _ => ⟨by simp [context], fun _ => ?_⟩⟩
      exact ⟨context, handle, rfl, rfl, rfl, idle⟩
  | context context handle handleOpen stage =>
      refine ⟨by simp [handle], fun _ => ⟨fun _ => ?_, by simp [context]⟩⟩
      exact within_giveBackContext stage ⟨rfl, handle, rfl, rfl, rfl, rfl⟩
  | opened pointer context handle handleOpen stage =>
      rw [handle, handleOpen]
      refine ⟨fun _ => within_giveBackHandle stage ⟨fun _ => ?_, by simp [context]⟩, by simp⟩
      exact within_giveBackContext rfl ⟨rfl, rfl, rfl, rfl, rfl, rfl⟩
  | claimed pointer holding =>
      rw [holding.handle, holding.handleOpen]
      refine ⟨fun _ => within_giveBackHandle holding.stage ⟨fun _ => ?_, by simp [holding.context]⟩,
        by simp⟩
      exact within_giveBackContext rfl ⟨rfl, rfl, rfl, rfl, rfl, rfl⟩

theorem within_abandon {what : String} {post : Unit → PandaUsb → PandaLink → Prop}
    (possession : Possession usb link) :
    Within usbMonitor (abandon what) post (fun _ usb link => Closed usb link) usb link := by
  simp only [abandon, Program.within_bind, Program.within_raise]
  exact within_disconnect possession

/-! ## Connecting -/

/-- After the loop over the devices a handle is open, or none is. -/
def Searched (usb : PandaUsb) (link : PandaLink) : Prop :=
  usb.context = true ∧ usb.handleOpen = false ∧
    ((usb.handle = none ∧ link.stage = .context) ∨
      ∃ pointer, usb.handle = some pointer ∧ link.stage = .opened pointer)

theorem within_usbSerial {pointer : Option Nat} {index : UInt8}
    {post : List UInt8 → PandaUsb → PandaLink → Prop} (opened : link.Opened pointer)
    (holds : ∀ serial, post serial usb link) :
    Within usbMonitor (usbSerial pointer index) post thrown usb link := by
  simp only [usbSerial, Program.within_ite, Program.within_bind, Program.within_pure,
    within_libusbGetStringDescriptor]
  exact ⟨fun _ => holds _, fun _ => ⟨opened, fun _ => holds _⟩⟩

theorem notes_openDevice (link : PandaLink) (device : Nat) (answer : OpenAnswer) :
    ((answer.status != 0 || answer.candidate.isNone) = true ∧
        link.notes (.openDevice device) answer = link) ∨
      ((answer.status != 0 || answer.candidate.isNone) = false ∧
        ∃ pointer, answer.candidate = some pointer ∧
          link.notes (.openDevice device) answer = { link with stage := .opened pointer }) := by
  obtain ⟨status, candidate⟩ := answer
  cases candidate with
  | none => exact .inl ⟨by simp, rfl⟩
  | some pointer =>
      by_cases success : status = 0
      · exact .inr ⟨by simp [success], pointer, rfl, by simp [PandaLink.notes, success]⟩
      · exact .inl ⟨by simp [success], by simp [PandaLink.notes, success]⟩

theorem within_openPanda (devices : List Nat) :
    ∀ {usb : PandaUsb} {link : PandaLink}, usb.context = true → usb.handleOpen = false →
      usb.handle = none → link.stage = .context →
        Within usbMonitor (openPanda config devices) (fun _ usb link => Searched usb link) thrown
          usb link := by
  induction devices with
  | nil =>
      intro usb link context handleOpen handle stage
      exact ⟨context, handleOpen, .inl ⟨handle, stage⟩⟩
  | cons device rest ih =>
      intro usb link context handleOpen handle stage
      simp only [openPanda, Program.within_bind, within_libusbGetDeviceDescriptor,
        Program.within_ite, within_libusbOpen]
      refine ⟨stage, fun descriptor => ⟨fun _ => ih context handleOpen handle stage, fun _ =>
        ⟨stage, fun opened => ?_⟩⟩⟩
      rcases notes_openDevice link device opened with ⟨refused, same⟩ | ⟨granted, pointer, some, now⟩
      · rw [refused, same]
        exact ⟨fun _ => ih context handleOpen handle stage, by simp⟩
      · rw [granted, now, some]
        refine ⟨by simp, fun _ => within_usbSerial rfl fun serial => ?_⟩
        simp only [within_libusbClose, Program.within_change]
        refine ⟨fun _ => ⟨rfl, fun _ => ih context handleOpen handle rfl⟩, fun _ => ?_⟩
        exact ⟨context, handleOpen, .inr ⟨pointer, rfl, rfl⟩⟩

structure FreshSession (config : PandaUsbConfig) (usb : PandaUsb) (link : PandaLink) : Prop where
  holding : ∃ pointer, Holding pointer usb link
  standingBy : StandingBy config link
  ready : usb.ready = true
  receiveCarry : usb.receiveCarry = []

theorem notes_claimInterface (link : PandaLink) (pointer : Nat) (status : Int) :
    link.notes (.claimInterface (some pointer)) status =
      if status = 0 then { link with stage := .claimed pointer } else link :=
  rfl

theorem within_claimPanda (searched : Searched usb link) :
    Within usbMonitor (claimPanda libusbErrorName config) (fun _ usb link => FreshSession config usb link)
      (fun _ usb link => Closed usb link) usb link := by
  simp only [claimPanda, Program.within_bind, Program.within_fetch, Program.within_ite,
    within_libusbSetAutoDetachKernelDriver, within_libusbClaimInterface, Program.within_change,
    Program.within_catching]
  obtain ⟨context, handleOpen, ⟨handle, stage⟩ | ⟨pointer, handle, stage⟩⟩ := searched
  · rw [handle]
    exact ⟨fun _ => within_abandon (.context context handle handleOpen stage), by simp⟩
  · have opened : link.Opened (some pointer) := by
      rw [PandaLink.Opened, stage]
      rfl
    rw [handle]
    refine ⟨by simp, fun _ => ⟨opened, fun _ => ⟨opened, fun status => ?_⟩⟩⟩
    rw [notes_claimInterface]
    refine ⟨fun failed => ?_, fun claimed => ?_⟩
    · rw [if_neg failed]
      exact within_abandon (.opened pointer context handle handleOpen stage)
    · rw [if_pos (Decidable.not_not.mp claimed)]
      refine Program.within_mono (transfers_setUp _ _ ⟨context, rfl, rfl, rfl⟩ trivial) ?_ ?_
      · intro _ usb link reached
        exact ⟨⟨pointer, reached.1⟩, reached.2.1, reached.2.2.1, reached.2.2.2⟩
      · intro what usb link held
        exact within_abandon (.claimed pointer held)

/-- A driver that was not ready stands by afterwards, or has given everything back. -/
theorem within_connect (possession : Possession usb link) (unready : usb.ready = false) :
    Within usbMonitor (connect libusbErrorName config) (fun _ usb link => FreshSession config usb link)
      (fun _ usb link => Closed usb link) usb link := by
  simp only [connect, Program.within_bind, Program.within_fetch, Program.within_ite, unready]
  refine ⟨by simp, fun _ => ?_⟩
  refine Program.within_mono (within_disconnect possession) ?_ (fun what usb link closed => closed)
  intro _ usb link closed
  simp only [within_libusbInit, Program.within_raise, Program.within_change,
    within_libusbGetDeviceList, within_libusbFreeDeviceList]
  refine ⟨by rw [closed.link], fun status => ⟨fun failed => ?_, fun success => ?_⟩⟩
  · rw [if_neg failed]
    exact closed
  · rw [if_pos (Decidable.not_not.mp success)]
    refine ⟨rfl, fun count => ⟨fun _ => ?_, fun _ => ?_⟩⟩
    · exact within_abandon (.context rfl closed.handle closed.handleOpen rfl)
    · refine Program.within_mono (within_openPanda _ rfl closed.handleOpen closed.handle rfl) ?_
        (fun _ _ _ reached => reached)
      intro _ usb link searched
      refine ⟨?_, fun _ => within_claimPanda searched⟩
      obtain ⟨_, _, ⟨_, stage⟩ | ⟨pointer, _, stage⟩⟩ := searched
      · exact .inl stage
      · exact .inr ⟨pointer, stage⟩

end Sessions

end Ioniq5Ecan.Usb
