import Ioniq5Ecan.Node.EcuSessions

/-! # The ECU calls as single steps

The thread model takes `disable_ecu`, `restore_ecu` and `confirm_ecu_restored`
as single steps over a record of how their USB calls end.  Whatever frames the
receive thread observes in between, their runs are runs of those steps, and the
numbers of stock frames that the records hold are those received from the first
reading of the counter to the last. -/
set_option autoImplicit false
namespace Ioniq5Ecan.Ecus

open Library (Dialogue Exchange Monitor Program)
open Library.Program (ask fetch change raise raiseIf Within Keeping)

/-! ## What a part of the exchanges shows -/

section Evidence
variable (ecanBus : UInt8)

def received : EcuExchange → List BusFrame
  | ⟨.meanwhile, (frames : List BusFrame)⟩ => frames
  | _ => []

def stockCount (ecu : EcuId) (segment : List EcuExchange) : Nat :=
  (segment.flatMap received).countP (stockFrame ecanBus ecu)

/-- How a communication-control request for the ECU was written. -/
def silenceWrite (ecu : EcuId) : EcuExchange → Option WriteOutcome
  | ⟨.send frame, (outcome : WriteOutcome)⟩ =>
      if frame == silenceFrame ecanBus ecu then some outcome else none
  | _ => none

def silenceWrites (ecu : EcuId) (segment : List EcuExchange) : List WriteOutcome :=
  segment.filterMap (silenceWrite ecanBus ecu)

def Unsilenced (segment : List EcuExchange) : Prop :=
  ∀ ecu, silenceWrites ecanBus ecu segment = []

end Evidence

def Listened (exchange : EcuExchange) : Prop :=
  ∃ frames : List BusFrame, exchange = ⟨.meanwhile, frames⟩

/-- A count of stock frames: the frames before the first reading of the counter, the wait from its
start on, and the frames before the last reading. -/
structure FrameCount where
  first : List BusFrame
  start : TimePoint
  rounds : List WaitRound
  waited : List EcuExchange
  last : List BusFrame

namespace FrameCount

def asked (count : FrameCount) : List EcuExchange :=
  [⟨.meanwhile, count.first⟩, ⟨.clock, count.start⟩, ⟨.rounds, count.rounds⟩] ++
    (count.waited ++ [⟨.meanwhile, count.last⟩])

/-- Between the two readings the counter wraps modulo 2^64. -/
def frames (ecanBus : UInt8) (ecu : EcuId) (count : FrameCount) : Nat :=
  stockCount ecanBus ecu (count.waited ++ [⟨.meanwhile, count.last⟩]) % 2 ^ 64

/-- The wait of a restoration does nothing but listen. -/
def Listens (count : FrameCount) : Prop :=
  ∀ exchange ∈ count.waited, Listened exchange

end FrameCount

/-! ## The abstract steps -/

section Steps
variable (ecanBus : UInt8)

/-- A call is over without a request to the ECU, or it gets as far as its record has it; it ends with
its count. -/
structure DisableShown (ecu : EcuId) (before : Ecu) (outcome : DisableOutcome)
    (segment : List EcuExchange) : Prop where
  others : ∀ other, other ≠ ecu → silenceWrites ecanBus other segment = []
  writes : silenceWrites ecanBus ecu segment =
    if before.disabled || !outcome.session.isOk then [] else [outcome.disableRequest]
  counts : before.disabled = false → outcome.session = .ok () →
    outcome.disableRequest = .delivered → outcome.testerPresent = .ok () →
      outcome.maintain = .ok () → ∃ asked count, segment = asked ++ FrameCount.asked count ∧
        Unsilenced ecanBus count.asked ∧ outcome.observed = count.frames ecanBus ecu

/-- The exchanges begin with the count, and these come after it. -/
def CountShown (ecu : EcuId) (frames : Nat) (segment later : List EcuExchange) : Prop :=
  ∃ count : FrameCount, segment = count.asked ++ later ∧ count.Listens ∧
    frames = count.frames ecanBus ecu

/-- The exchanges of a restoration that asks for the session again. -/
def SessionAsked (ecu : EcuId) (segment : List EcuExchange) : Prop :=
  ∃ exchange : UdsExchange, ∃ rest, exchange.call = ⟨ecu, [0x10, 0x03], [0x50, 0x03]⟩ ∧
    segment = exchange.asked ecanBus ++ rest

/-- A retry counts first, and asks the ECU only if no stock frame came. -/
def RetryShown (ecu : EcuId) (frames : Nat) (segment : List EcuExchange) : Prop :=
  ∃ later, CountShown ecanBus ecu frames segment later ∧
    if frames = 0 then SessionAsked ecanBus ecu later else later = []

/-- One call, as the record of its USB calls decides it. -/
inductive EcuStep (ecus : EcuPair) : EcuCall → List EcuExchange → UsbOutcome → EcuPair → Prop
  | disable {ecu : EcuId} {segment : List EcuExchange} {value : Ecu} {ended : UsbOutcome}
      (outcome : DisableOutcome) (shown : DisableShown ecanBus ecu (ecus.ecu ecu) outcome segment)
      (result : Ioniq5Ecan.disableEcu ecu.port (ecus.ecu ecu) outcome = (value, ended)) :
      EcuStep ecus (.disable ecu) segment ended (ecus.setEcu ecu value)
  | restore {failures : UInt64} {ecu : EcuId} {segment : List EcuExchange} {value : Ecu}
      {ended : UsbOutcome} (outcome : RestoreOutcome) (unsilenced : Unsilenced ecanBus segment)
      (shown : (ecus.ecu ecu).disabled = true → failures ≠ 0 →
        RetryShown ecanBus ecu outcome.resumedEarly segment)
      (result : Ioniq5Ecan.restoreEcu failures (ecus.ecu ecu) outcome = (value, ended)) :
      EcuStep ecus (.restore failures ecu) segment ended (ecus.setEcu ecu value)
  | confirm {ecu : EcuId} {segment : List EcuExchange} {value : Ecu} {ended : UsbOutcome}
      (outcome : RestoreOutcome) (unsilenced : Unsilenced ecanBus segment)
      (shown : (ecus.ecu ecu).disabled = true → CountShown ecanBus ecu outcome.resumed segment [])
      (result :
        Ioniq5Ecan.confirmEcuRestored ecu.port (ecus.ecu ecu) outcome = (value, ended)) :
      EcuStep ecus (.confirm ecu) segment ended (ecus.setEcu ecu value)
  | maintain {now : TimePoint} {segment : List EcuExchange} (ended : UsbOutcome)
      (unsilenced : Unsilenced ecanBus segment) : EcuStep ecus (.maintain now) segment ended ecus

/-- The calls one after the other, each with its own part of the exchanges. -/
inductive EcuRun : EcuPair → List EcuCall → List EcuExchange → List UsbOutcome → EcuPair → Prop
  | done (ecus : EcuPair) : EcuRun ecus [] [] [] ecus
  | call {ecus next last : EcuPair} {call : EcuCall} {calls : List EcuCall}
      {segment exchanges : List EcuExchange} {outcome : UsbOutcome} {outcomes : List UsbOutcome}
      (step : EcuStep ecanBus ecus call segment outcome next)
      (rest : EcuRun next calls exchanges outcomes last) :
      EcuRun ecus (call :: calls) (segment ++ exchanges) (outcome :: outcomes) last

end Steps

/-! ## Parts that silence nothing -/

section Evidence
variable {ecanBus : UInt8} {ecu : EcuId} {first second : List EcuExchange}

theorem stockCount_append : stockCount ecanBus ecu (first ++ second) =
    stockCount ecanBus ecu first + stockCount ecanBus ecu second := by
  simp [stockCount]

theorem silenceWrites_append : silenceWrites ecanBus ecu (first ++ second) =
    silenceWrites ecanBus ecu first ++ silenceWrites ecanBus ecu second :=
  List.filterMap_append

theorem Unsilenced.append (left : Unsilenced ecanBus first) (right : Unsilenced ecanBus second) :
    Unsilenced ecanBus (first ++ second) := by
  intro ecu
  rw [silenceWrites_append, left ecu, right ecu]
  rfl

theorem udsFrame_byte (address : UInt32) (payload : List UInt8) (index : Nat) (inside : index < 64) :
    (udsFrame ecanBus address payload).data[index] =
      (UInt8.ofNat payload.length :: payload).getD index 0 :=
  Vector.getElem_ofFn inside

theorem udsFrame_ne_silence {address : UInt32} {payload : List UInt8}
    (other : payload.getD 1 0 ≠ 0x83) : udsFrame ecanBus address payload ≠ silenceFrame ecanBus ecu := by
  intro same
  apply other
  calc payload.getD 1 0 = (udsFrame ecanBus address payload).data[2] :=
        (udsFrame_byte address payload 2 (by omega)).symm
    _ = (silenceFrame ecanBus ecu).data[2] := by rw [same]
    _ = 0x83 := udsFrame_byte _ _ 2 (by omega)

theorem silenceFrame_injective {other : EcuId}
    (same : silenceFrame ecanBus ecu = silenceFrame ecanBus other) : ecu = other := by
  have address : requestAddress ecu = requestAddress other :=
    congrArg (fun frame : BusFrame => frame.address) same
  cases ecu <;> cases other <;> first | rfl | exact absurd address (by decide)

end Evidence

/-! ## Quiet parts of a call -/

/-- The node moves on with the frames received, and no ECU is silenced. -/
structure Quietly (ecanBus : UInt8) (node left : EcuNode) (segment : List EcuExchange) : Prop where
  idle : left.frames.uds.waiting = false
  disabled : ∀ ecu, (left.flags ecu).disabled = (node.flags ecu).disabled
  counted : ∀ ecu, left.frames.count ecu =
    node.frames.count ecu + UInt64.ofNat (stockCount ecanBus ecu segment)
  unsilenced : Unsilenced ecanBus segment

/-- What came since this node and these exchanges was quiet. -/
def Since (ecanBus : UInt8) (node : EcuNode) (past : List EcuExchange) (left : EcuNode)
    (now : List EcuExchange) : Prop :=
  ∃ segment, now = past ++ segment ∧ Quietly ecanBus node left segment

abbrev Quiet {Value : Type} (ecanBus : UInt8) (program : EcuProgram Value) : Prop :=
  ∀ node past, Keeping ecuTranscript (Since ecanBus node past) (fun _ _ => True) program
    (fun _ _ _ => True)

section Quietness
variable {ecanBus : UInt8} {ecu : EcuId} {node left later : EcuNode}
  {past now first second : List EcuExchange}

theorem Quietly.refl (idle : node.frames.uds.waiting = false) : Quietly ecanBus node node [] := by
  refine ⟨idle, fun _ => rfl, fun ecu => ?_, fun _ => rfl⟩
  simp [stockCount]

theorem Quietly.append (before : Quietly ecanBus node left first)
    (after : Quietly ecanBus left later second) : Quietly ecanBus node later (first ++ second) where
  idle := after.idle
  disabled ecu := (after.disabled ecu).trans (before.disabled ecu)
  counted ecu := by
    rw [after.counted, before.counted, stockCount_append, UInt64.ofNat_add, UInt64.add_assoc]
  unsilenced := before.unsilenced.append after.unsilenced

theorem Since.refl (idle : node.frames.uds.waiting = false) : Since ecanBus node past node past :=
  ⟨[], (List.append_nil past).symm, .refl idle⟩

theorem Since.idle (since : Since ecanBus node past left now) : left.frames.uds.waiting = false := by
  obtain ⟨segment, _, quiet⟩ := since
  exact quiet.idle

theorem Since.append (since : Since ecanBus node past left now)
    (quiet : Quietly ecanBus left later second) : Since ecanBus node past later (now ++ second) := by
  obtain ⟨segment, rfl, earlier⟩ := since
  exact ⟨segment ++ second, List.append_assoc past segment second, earlier.append quiet⟩

theorem Quiet.within {Value : Type} {program : EcuProgram Value} (quiet : Quiet ecanBus program)
    (idle : node.frames.uds.waiting = false) :
    Within ecuTranscript program (fun _ left now => Since ecanBus node past left now)
      (fun _ left now => Since ecanBus node past left now) node past :=
  Program.within_mono (quiet node past node past (.refl idle) trivial)
    (fun _ _ _ kept => kept.1) (fun _ _ _ kept => kept)

theorem quietly_observed (idle : node.frames.uds.waiting = false) (frames : List BusFrame) :
    Quietly ecanBus node (node.observed ecanBus frames) [⟨.meanwhile, frames⟩] := by
  refine ⟨?_, fun ecu => ?_, fun ecu => ?_, fun _ => rfl⟩
  · rw [observed_idle idle]
    exact idle
  · cases ecu <;> rfl
  · simp [stockCount, received]

theorem quiet_interfere : Quiet ecanBus (interfere ecanBus) :=
  fun _ _ _ _ since _ =>
    ⟨trivial, fun frames => ⟨since.append (quietly_observed since.idle frames), trivial⟩⟩

theorem silenceWrite_other {address : UInt32} {payload : List UInt8}
    (other : payload.getD 1 0 ≠ 0x83) (outcome : WriteOutcome) :
    silenceWrite ecanBus ecu ⟨.send (udsFrame ecanBus address payload), outcome⟩ = none := by
  simp [silenceWrite, udsFrame_ne_silence other]

theorem quietly_sent (idle : node.frames.uds.waiting = false) {address : UInt32}
    {payload : List UInt8} (other : payload.getD 1 0 ≠ 0x83) (outcome : WriteOutcome) :
    Quietly ecanBus node node [⟨.send (udsFrame ecanBus address payload), outcome⟩] := by
  refine ⟨idle, fun _ => rfl, fun ecu => ?_, fun ecu => ?_⟩
  · simp [stockCount, received]
  · simp [silenceWrites, silenceWrite_other other]

theorem quiet_sendUds {address : UInt32} {payload : List UInt8}
    (other : payload.getD 1 0 ≠ 0x83) : Quiet ecanBus (sendUds ecanBus address payload) := by
  intro node past left now since _
  simp only [sendUds, Program.within_bind, Program.within_raiseIf]
  refine ⟨fun _ => since, fun _ => ?_⟩
  apply within_sendFrame trivial
  · exact ⟨since.append (quietly_sent since.idle other _), trivial⟩
  · intro arrived what
    exact since.append (quietly_sent since.idle other _)

theorem stockCount_asked (exchange : UdsExchange) :
    stockCount ecanBus ecu (exchange.asked ecanBus) =
      (exchange.earlier ++ exchange.window).countP (stockFrame ecanBus ecu) := by
  cases unfit : notSingleFrame exchange.call.payload <;>
    simp [stockCount, UdsExchange.asked, UdsExchange.window, received, unfit]

theorem unsilenced_asked (exchange : UdsExchange) (other : exchange.call.payload.getD 1 0 ≠ 0x83) :
    Unsilenced ecanBus (exchange.asked ecanBus) := by
  intro ecu
  have kept := @udsFrame_ne_silence ecanBus ecu (requestAddress exchange.call.ecu) _ other
  cases unfit : notSingleFrame exchange.call.payload <;>
    simp [silenceWrites, UdsExchange.asked, silenceWrite, unfit, kept]

theorem quietly_exchange {exchange : UdsExchange}
    (leaves : LeavesFlags ecanBus (exchange.earlier ++ exchange.window) node left)
    (other : exchange.call.payload.getD 1 0 ≠ 0x83) :
    Quietly ecanBus node left (exchange.asked ecanBus) := by
  refine ⟨leaves.idle, fun ecu => ?_, fun ecu => ?_, unsilenced_asked exchange other⟩
  · cases ecu with
    | camera => exact congrArg EcuFlags.disabled leaves.camera
    | radar => exact congrArg EcuFlags.disabled leaves.radar
  · rw [leaves.counted, stockCount_asked]

def Requested (ecanBus : UInt8) (call : UdsCall) (node : EcuNode) (past : List EcuExchange)
    (left : EcuNode) (now : List EcuExchange) : Prop :=
  ∃ exchange : UdsExchange, exchange.call = call ∧ now = past ++ exchange.asked ecanBus ∧
    Quietly ecanBus node left (exchange.asked ecanBus)

theorem within_requested (call : UdsCall) (other : call.payload.getD 1 0 ≠ 0x83)
    (idle : node.frames.uds.waiting = false) :
    Within ecuTranscript (udsRequest ecanBus call.ecu call.payload call.wanted)
      (fun _ left now => Requested ecanBus call node past left now)
      (fun _ left now => Requested ecanBus call node past left now) node past := by
  have requested : ∀ (outcome : Except String (List UInt8)) (left : EcuNode)
      (now : List EcuExchange), Answered ecanBus call node past outcome left now →
        Requested ecanBus call node past left now := by
    rintro outcome left now ⟨exchange, rfl, isNow, _, leaves⟩
    exact ⟨exchange, rfl, isNow, quietly_exchange leaves other⟩
  exact Program.within_mono (request_answered call idle)
    (fun response left now answered => requested (.ok response) left now answered)
    (fun what left now answered => requested (.error what) left now answered)

theorem quiet_udsRequest {payload wanted : List UInt8} (other : payload.getD 1 0 ≠ 0x83) :
    Quiet ecanBus (udsRequest ecanBus ecu payload wanted) := by
  intro node past left now since _
  have quiet : ∀ (later : EcuNode) (reached : List EcuExchange),
      Requested ecanBus ⟨ecu, payload, wanted⟩ left now later reached →
        Since ecanBus node past later reached := by
    rintro later reached ⟨exchange, _, rfl, quiet⟩
    exact since.append quiet
  exact Program.within_mono (within_requested ⟨ecu, payload, wanted⟩ other since.idle)
    (fun _ later reached requested => ⟨quiet later reached requested, trivial⟩)
    (fun _ later reached requested => quiet later reached requested)

theorem quiet_bind {Value Other : Type} {program : EcuProgram Other}
    {next : Other → EcuProgram Value} (before : Quiet ecanBus program)
    (after : ∀ value, Quiet ecanBus (next value)) : Quiet ecanBus (program >>= next) :=
  fun node past => Program.keeping_bind (fun _ _ _ => True) (before node past)
    (fun value => after value node past)

theorem Since.setFlags (since : Since ecanBus node past left now) {value : EcuFlags}
    (same : value.disabled = (left.flags ecu).disabled) :
    Since ecanBus node past (left.setFlags ecu value) now := by
  obtain ⟨segment, isNow, quiet⟩ := since
  refine ⟨segment, isNow, ?_, fun other => ?_, fun other => ?_, quiet.unsilenced⟩
  · rw [frames_setFlags]
    exact quiet.idle
  · by_cases isEcu : other = ecu
    · rw [isEcu, flags_setFlags_same, same]
      exact quiet.disabled ecu
    · rw [flags_setFlags_other left isEcu]
      exact quiet.disabled other
  · rw [frames_setFlags]
    exact quiet.counted other

theorem quietly_asked (idle : node.frames.uds.waiting = false) (exchange : EcuExchange)
    (noFrames : received exchange = []) (noWrite : ∀ ecu, silenceWrite ecanBus ecu exchange = none) :
    Quietly ecanBus node node [exchange] := by
  refine ⟨idle, fun _ => rfl, fun ecu => ?_, fun ecu => ?_⟩
  · simp [stockCount, noFrames]
  · simp [silenceWrites, noWrite]

theorem quiet_sendTesterPresent : Quiet ecanBus (sendTesterPresent ecanBus ecu) := by
  apply quiet_bind (quiet_sendUds (by decide))
  intro _ node past left now since _
  simp only [Program.within_bind, Program.within_change]
  refine ⟨trivial, fun time => ⟨?_, trivial⟩⟩
  exact (since.append (quietly_asked since.idle ⟨.clock, time⟩ rfl fun _ => rfl)).setFlags rfl

theorem quiet_maintainEcu (time : TimePoint) : Quiet ecanBus (maintainEcu ecanBus time ecu) := by
  intro node past left now since _
  simp only [maintainEcu, Program.within_bind, Program.within_fetch, Program.within_runIf]
  exact ⟨fun _ => quiet_sendTesterPresent node past left now since trivial,
    fun _ => ⟨since, trivial⟩⟩

theorem quiet_maintainDisabledEcus (time : TimePoint) :
    Quiet ecanBus (maintainDisabledEcus ecanBus time) :=
  quiet_bind (quiet_maintainEcu time) fun _ => quiet_maintainEcu time

theorem quiet_observeQuiet (deadline : TimePoint) (rounds : List WaitRound) :
    Quiet ecanBus (observeQuiet ecanBus deadline rounds) := by
  induction rounds with
  | nil => exact fun node past => Program.keeping_pure fun _ _ _ _ => trivial
  | cons round rest ih =>
      intro node past
      apply Program.keeping_ite
      · intro _
        apply quiet_bind (quiet_maintainDisabledEcus _)
        intro _
        exact quiet_bind quiet_interfere fun _ => ih
      · intro _
        exact Program.keeping_pure fun _ _ _ _ => trivial

/-- A wait so far: what came since, each exchange of this kind. -/
def Waiting (ecanBus : UInt8) (kind : EcuExchange → Prop) (node : EcuNode) (past : List EcuExchange)
    (left : EcuNode) (now : List EcuExchange) : Prop :=
  ∃ waited, now = past ++ waited ∧ Quietly ecanBus node left waited ∧
    ∀ exchange ∈ waited, kind exchange

/-- A wait with the questions it begins with. -/
def Waited (ecanBus : UInt8) (kind : EcuExchange → Prop) (node : EcuNode) (past : List EcuExchange)
    (left : EcuNode) (now : List EcuExchange) : Prop :=
  ∃ start rounds, Waiting ecanBus kind node (past ++ [⟨.clock, start⟩] ++ [⟨.rounds, rounds⟩]) left now

theorem Since.waitBegun (since : Since ecanBus node past left now) (start : TimePoint)
    (rounds : List WaitRound) :
    Since ecanBus node past left (now ++ [⟨.clock, start⟩] ++ [⟨.rounds, rounds⟩]) :=
  (since.append (quietly_asked since.idle ⟨.clock, start⟩ rfl fun _ => rfl)).append
    (quietly_asked since.idle ⟨.rounds, rounds⟩ rfl fun _ => rfl)

theorem within_waitQuiet (before : UInt64) (since : Since ecanBus node past left now) :
    Within ecuTranscript (waitQuiet ecanBus before)
      (fun _ later reached => Waited ecanBus (fun _ => True) left now later reached)
      (fun _ later reached => Since ecanBus node past later reached) left now := by
  simp only [waitQuiet, Program.within_bind]
  refine ⟨trivial, fun start => ⟨trivial, fun rounds => ?_⟩⟩
  have begun := since.waitBegun start rounds
  refine Program.within_mono ((quiet_observeQuiet _ rounds).within since.idle) ?_ ?_
  · rintro _ later reached ⟨waited, isReached, quiet⟩
    exact ⟨start, rounds, waited, isReached, quiet, fun _ _ => trivial⟩
  · rintro _ later reached ⟨waited, rfl, quiet⟩
    exact begun.append quiet

theorem within_awaitStock (before : UInt64) (deadline : TimePoint) (rounds : List WaitRound) :
    ∀ {left now}, Waiting ecanBus Listened node past left now →
      Within ecuTranscript (awaitStock ecanBus ecu before deadline rounds)
        (fun _ left now => Waiting ecanBus Listened node past left now) (fun _ _ _ => False)
        left now := by
  induction rounds with
  | nil => intro left now waiting; exact waiting
  | cons round rest ih =>
      intro left now waiting
      simp only [awaitStock, Program.within_bind, Program.within_fetch, Program.within_ite,
        Program.within_pure, within_interfere]
      refine ⟨fun _ => ⟨trivial, fun frames => ?_⟩, fun _ => waiting⟩
      obtain ⟨waited, rfl, quiet, listened⟩ := waiting
      refine ih ⟨waited ++ [⟨.meanwhile, frames⟩], List.append_assoc past waited _,
        quiet.append (quietly_observed quiet.idle frames), fun exchange member => ?_⟩
      rcases List.mem_append.mp member with earlier | last
      · exact listened exchange earlier
      · exact ⟨frames, List.mem_singleton.mp last⟩

theorem within_waitResumed (before : UInt64) (idle : left.frames.uds.waiting = false) :
    Within ecuTranscript (waitResumed ecanBus ecu before)
      (fun _ later reached => Waited ecanBus Listened left now later reached)
      (fun _ _ _ => False) left now := by
  simp only [waitResumed, Program.within_bind]
  refine ⟨trivial, fun start => ⟨trivial, fun rounds => ?_⟩⟩
  have begun : Waiting ecanBus Listened left (now ++ [⟨.clock, start⟩] ++ [⟨.rounds, rounds⟩]) left
      (now ++ [⟨.clock, start⟩] ++ [⟨.rounds, rounds⟩]) :=
    ⟨[], (List.append_nil _).symm, .refl idle, fun _ member => absurd member List.not_mem_nil⟩
  exact Program.within_mono (within_awaitStock before _ rounds begun)
    (fun _ _ _ waiting => ⟨start, rounds, waiting⟩) (fun _ _ _ never => never)

/-- A count of stock frames with its exchanges. -/
def Counted (ecanBus : UInt8) (kind : EcuExchange → Prop) (ecu : EcuId) (node : EcuNode)
    (past : List EcuExchange) (frames : UInt64) (left : EcuNode) (now : List EcuExchange) : Prop :=
  ∃ count : FrameCount, now = past ++ count.asked ∧ Quietly ecanBus node left count.asked ∧
    (∀ exchange ∈ count.waited, kind exchange) ∧ frames.toNat = count.frames ecanBus ecu

theorem within_countOwned {wait : UInt64 → EcuProgram Unit} {kind : EcuExchange → Prop}
    {thrown : String → EcuNode → List EcuExchange → Prop}
    (idle : node.frames.uds.waiting = false)
    (waits : ∀ before start begun, Since ecanBus node past start begun →
      Within ecuTranscript (wait before) (fun _ left now => Waited ecanBus kind start begun left now)
        thrown start begun) :
    Within ecuTranscript (countOwned ecanBus ecu wait)
      (fun frames left now => Counted ecanBus kind ecu node past frames left now) thrown node
      past := by
  simp only [countOwned, Program.within_bind, within_interfere, Program.within_fetch,
    Program.within_pure]
  refine ⟨trivial, fun first => ?_⟩
  have begun := @quietly_observed ecanBus node idle first
  refine Program.within_mono (waits _ _ _ ⟨_, rfl, begun⟩) ?_ (fun _ _ _ kept => kept)
  rintro _ left now ⟨start, rounds, waited, rfl, quiet, kinds⟩
  refine ⟨trivial, fun last => ?_⟩
  have counted := quiet.append (quietly_observed quiet.idle last)
  have asked : Quietly ecanBus (node.observed ecanBus first) (node.observed ecanBus first)
      ([⟨.clock, start⟩] ++ [⟨.rounds, rounds⟩]) :=
    (quietly_asked begun.idle ⟨.clock, start⟩ rfl fun _ => rfl).append
      (quietly_asked begun.idle ⟨.rounds, rounds⟩ rfl fun _ => rfl)
  refine ⟨⟨first, start, rounds, waited, last⟩, ?_, ?_, kinds, ?_⟩
  · simp [FrameCount.asked, Monitor.transcript]
  · exact begun.append (asked.append counted)
  · rw [counted.counted, UInt64.add_comm, UInt64.add_sub_cancel, UInt64.toNat_ofNat']
    rfl

end Quietness

/-! ## Each call is a step -/

/-- Between two calls the flags of the node are those of the abstract ECUs. -/
structure Agrees (node : EcuNode) (ecus : EcuPair) : Prop where
  idle : node.frames.uds.waiting = false
  disabled : ∀ ecu, (node.flags ecu).disabled = (ecus.ecu ecu).disabled

/-- The call that ended here was a step. -/
def Stepped (ecanBus : UInt8) (ecus : EcuPair) (call : EcuCall) (past : List EcuExchange)
    (ended : UsbOutcome) (left : EcuNode) (now : List EcuExchange) : Prop :=
  ∃ segment next, now = past ++ segment ∧ EcuStep ecanBus ecus call segment ended next ∧
    Agrees left next

abbrev Steps (ecanBus : UInt8) (ecus : EcuPair) (call : EcuCall) (node : EcuNode)
    (past : List EcuExchange) : Prop :=
  Within ecuTranscript (runEcuCall ecanBus call)
    (fun _ left now => Stepped ecanBus ecus call past (.ok ()) left now)
    (fun what left now => Stepped ecanBus ecus call past (.error what) left now) node past

section Calls
variable {ecanBus : UInt8} {ecu : EcuId} {ecus : EcuPair} {node left : EcuNode}
  {past now : List EcuExchange}

@[simp] theorem ecu_setEcu_same (ecus : EcuPair) (ecu : EcuId) (value : Ecu) :
    (ecus.setEcu ecu value).ecu ecu = value := by
  cases ecu <;> rfl

theorem ecu_setEcu_other (ecus : EcuPair) {ecu other : EcuId} (different : other ≠ ecu)
    (value : Ecu) : (ecus.setEcu ecu value).ecu other = ecus.ecu other := by
  cases ecu <;> cases other <;> first | rfl | exact absurd rfl different

theorem Agrees.setEcu (agrees : Agrees node ecus) {value : Ecu}
    (idle : left.frames.uds.waiting = false) (same : (left.flags ecu).disabled = value.disabled)
    (others : ∀ other, other ≠ ecu → (left.flags other).disabled = (node.flags other).disabled) :
    Agrees left (ecus.setEcu ecu value) := by
  refine ⟨idle, fun other => ?_⟩
  by_cases isEcu : other = ecu
  · rw [isEcu, ecu_setEcu_same]
    exact same
  · rw [ecu_setEcu_other ecus isEcu, others other isEcu]
    exact agrees.disabled other

theorem Agrees.quiet (agrees : Agrees node ecus) {value : Ecu} {segment : List EcuExchange}
    (quiet : Quietly ecanBus node left segment) (same : value.disabled = (ecus.ecu ecu).disabled) :
    Agrees left (ecus.setEcu ecu value) := by
  apply agrees.setEcu quiet.idle
  · rw [quiet.disabled, agrees.disabled, same]
  · intro other _
    exact quiet.disabled other

theorem disableShown_unasked {before : Ecu} {outcome : DisableOutcome}
    {segment : List EcuExchange} (unsilenced : Unsilenced ecanBus segment)
    (unasked : before.disabled = true ∨ outcome.session.isOk = false) :
    DisableShown ecanBus ecu before outcome segment := by
  refine ⟨fun other _ => unsilenced other, ?_, fun enabled session => ?_⟩
  · rw [unsilenced, if_pos]
    rcases unasked with disabled | failed
    · rw [disabled]
      rfl
    · rw [failed, Bool.not_false, Bool.or_true]
  · rw [enabled, session] at unasked
    rcases unasked with never | never <;> cases never

theorem silenceWrite_same (outcome : WriteOutcome) :
    silenceWrite ecanBus ecu ⟨.send (silenceFrame ecanBus ecu), outcome⟩ = some outcome := by
  simp [silenceWrite]

theorem silenceWrite_of_ne {other : EcuId} (different : other ≠ ecu) (outcome : WriteOutcome) :
    silenceWrite ecanBus other ⟨.send (silenceFrame ecanBus ecu), outcome⟩ = none := by
  have frames : silenceFrame ecanBus ecu ≠ silenceFrame ecanBus other := fun same =>
    different (silenceFrame_injective same).symm
  simp [silenceWrite, frames]

theorem disableShown_asked {before : Ecu} {outcome : DisableOutcome}
    {first rest : List EcuExchange} (earlier : Unsilenced ecanBus first)
    (later : Unsilenced ecanBus rest) (enabled : before.disabled = false)
    (session : outcome.session = .ok ())
    (counts : outcome.disableRequest = .delivered → outcome.testerPresent = .ok () →
      outcome.maintain = .ok () → ∃ asked count, rest = asked ++ FrameCount.asked count ∧
        Unsilenced ecanBus count.asked ∧ outcome.observed = count.frames ecanBus ecu) :
    DisableShown ecanBus ecu before outcome
      (first ++ [⟨.send (silenceFrame ecanBus ecu), outcome.disableRequest⟩] ++ rest) := by
  refine ⟨fun other different => ?_, ?_, fun _ _ delivered testerPresent maintain => ?_⟩
  · rw [silenceWrites_append, silenceWrites_append, earlier, later, silenceWrites,
      List.filterMap_cons_none (silenceWrite_of_ne different _)]
    rfl
  · rw [silenceWrites_append, silenceWrites_append, earlier, later, silenceWrites,
      List.filterMap_cons_some (silenceWrite_same _), enabled, session]
    rfl
  · obtain ⟨asked, count, isRest, unsilenced, observed⟩ := counts delivered testerPresent maintain
    refine ⟨first ++ [⟨.send (silenceFrame ecanBus ecu), outcome.disableRequest⟩] ++ asked, count,
      ?_, unsilenced, observed⟩
    rw [isRest]
    simp only [List.append_assoc]

theorem stepped_disabled {mid : EcuNode} {first rest : List EcuExchange} {outcome : DisableOutcome}
    {ended : UsbOutcome} (agrees : Agrees node ecus) (enabled : (ecus.ecu ecu).disabled = false)
    (quiet : Quietly ecanBus node mid first)
    (silent : Quietly ecanBus (mid.setDisabled ecu true) left rest)
    (session : outcome.session = .ok ()) (delivered : outcome.disableRequest = .delivered)
    (counts : outcome.testerPresent = .ok () → outcome.maintain = .ok () →
      ∃ asked count, rest = asked ++ FrameCount.asked count ∧ Unsilenced ecanBus count.asked ∧
        outcome.observed = count.frames ecanBus ecu)
    (result : Ioniq5Ecan.disableEcu ecu.port (ecus.ecu ecu) outcome =
      ({ disabled := true, silenced := true }, ended)) :
    Stepped ecanBus ecus (.disable ecu) past ended left
      (past ++ first ++ [⟨.send (silenceFrame ecanBus ecu), WriteOutcome.delivered⟩] ++ rest) := by
  have shown := disableShown_asked quiet.unsilenced silent.unsilenced enabled session
    (fun _ => counts)
  rw [delivered] at shown
  refine ⟨first ++ [⟨.send (silenceFrame ecanBus ecu), WriteOutcome.delivered⟩] ++ rest, _, ?_,
    .disable outcome shown result, agrees.setEcu silent.idle ?_ fun other different => ?_⟩
  · simp only [List.append_assoc]
  · rw [silent.disabled, EcuNode.setDisabled, flags_setFlags_same]
  · rw [silent.disabled, EcuNode.setDisabled, flags_setFlags_other mid different, quiet.disabled]

theorem within_observed (idle : node.frames.uds.waiting = false) :
    Within ecuTranscript (countOwned ecanBus ecu (waitQuiet ecanBus))
      (fun frames left now => Counted ecanBus (fun _ => True) ecu node past frames left now)
      (fun _ left now => Since ecanBus node past left now) node past :=
  within_countOwned idle fun before _ _ since => within_waitQuiet before since

theorem steps_disabled {mid : EcuNode} {first : List EcuExchange} (agrees : Agrees node ecus)
    (enabled : (ecus.ecu ecu).disabled = false) (quiet : Quietly ecanBus node mid first) :
    Within ecuTranscript
      (do
        sendTesterPresent ecanBus ecu
        let observed ← countOwned ecanBus ecu (waitQuiet ecanBus)
        raiseIf (observed != 0) (ecu.port.label ++ " disable failed: observed " ++
          toString observed.toNat ++ " stock 0x" ++ ecu.port.ownedAddress ++ " frames"))
      (fun _ left now => Stepped ecanBus ecus (.disable ecu) past (.ok ()) left now)
      (fun what left now => Stepped ecanBus ecus (.disable ecu) past (.error what) left now)
      (mid.setDisabled ecu true)
      (past ++ first ++ [⟨.send (silenceFrame ecanBus ecu), WriteOutcome.delivered⟩]) := by
  have notDisabled := Bool.eq_false_iff.mp enabled
  have idle : (mid.setDisabled ecu true).frames.uds.waiting = false := by
    rw [EcuNode.setDisabled, frames_setFlags]
    exact quiet.idle
  simp only [Program.within_bind]
  refine Program.within_mono (quiet_sendTesterPresent.within idle) ?_ ?_
  · rintro _ left now ⟨present, rfl, silent⟩
    refine Program.within_mono (within_observed silent.idle) ?_ ?_
    · rintro frames later now ⟨count, rfl, after, _, observed⟩
      have counts : ∃ asked window, present ++ count.asked = asked ++ FrameCount.asked window ∧
          Unsilenced ecanBus window.asked ∧ frames.toNat = window.frames ecanBus ecu :=
        ⟨present, count, rfl, after.unsilenced, observed⟩
      have step := fun ended result => @stepped_disabled ecanBus ecu ecus node later past mid first
        _ { observed := frames.toNat } ended agrees enabled quiet (silent.append after) rfl rfl
        (fun _ _ => counts) result
      rw [Ioniq5Ecan.disableEcu, if_neg notDisabled, ← List.append_assoc] at step
      rw [Program.within_raiseIf]
      refine ⟨fun some => step _ ?_, fun none => step _ ?_⟩
      · have counted : frames.toNat ≠ 0 := fun zero =>
          bne_iff_ne.mp some (UInt64.toNat_inj.mp zero)
        simp [counted]
        rfl
      · have uncounted : frames.toNat = 0 := congrArg UInt64.toNat (by simpa using none)
        simp [uncounted]
        rfl
    · rintro what later now ⟨rest, rfl, after⟩
      have step := @stepped_disabled ecanBus ecu ecus node later past mid first _
        { maintain := .error what } (.error what) agrees enabled quiet (silent.append after) rfl rfl
        (fun _ never => by cases never) (by rw [Ioniq5Ecan.disableEcu, if_neg notDisabled]; rfl)
      rwa [← List.append_assoc] at step
  · rintro what left now ⟨rest, rfl, silent⟩
    exact @stepped_disabled ecanBus ecu ecus node left past mid first rest
      { testerPresent := .error what } (.error what) agrees enabled quiet silent rfl rfl
      (fun never => by cases never) (by rw [Ioniq5Ecan.disableEcu, if_neg notDisabled]; rfl)

theorem steps_disable (agrees : Agrees node ecus) :
    Steps ecanBus ecus (.disable ecu) node past := by
  simp only [Steps, runEcuCall, disableEcu, Program.within_bind, Program.within_fetch,
    Program.within_ite, Program.within_pure]
  refine ⟨fun disabled => ?_, fun notDisabled => ?_⟩
  · have flagged : (ecus.ecu ecu).disabled = true := (agrees.disabled ecu).symm.trans disabled
    have still : Quietly ecanBus node node [] := .refl agrees.idle
    refine ⟨[], _, (List.append_nil past).symm,
      .disable {} (disableShown_unasked still.unsilenced (.inl flagged)) ?_,
      agrees.quiet still rfl⟩
    rw [Ioniq5Ecan.disableEcu, if_pos flagged]
  rw [agrees.disabled] at notDisabled
  have enabled : (ecus.ecu ecu).disabled = false := Bool.eq_false_iff.mpr notDisabled
  refine Program.within_mono ((quiet_udsRequest (by decide)).within agrees.idle) ?_ ?_
  · rintro _ mid asked ⟨first, rfl, quiet⟩
    simp only [sendUds, Program.within_bind, Program.within_raiseIf]
    refine ⟨fun unfit => absurd unfit Bool.false_ne_true, fun _ => ?_⟩
    apply within_sendFrame trivial
    · have tail := @steps_disabled ecanBus ecu ecus node past mid first agrees enabled quiet
      simp only [Program.within_bind, Program.within_change, Program.within_raiseIf] at tail ⊢
      exact tail
    · intro arrived what
      have shown := @disableShown_asked ecanBus ecu (ecus.ecu ecu)
        { disableRequest := .failed arrived what } first [] quiet.unsilenced (fun _ => rfl) enabled
        rfl (fun never => by cases never)
      have failed : Ioniq5Ecan.disableEcu ecu.port (ecus.ecu ecu)
          { disableRequest := .failed arrived what } =
            ({ ecus.ecu ecu with silenced := (ecus.ecu ecu).silenced || arrived }, .error what) := by
        rw [Ioniq5Ecan.disableEcu, if_neg notDisabled]
      rw [List.append_nil] at shown
      exact ⟨_, _, List.append_assoc past first _, .disable _ shown failed,
        agrees.quiet quiet rfl⟩
  · rintro what left now ⟨segment, isNow, quiet⟩
    refine ⟨segment, _, isNow, .disable { session := .error what }
      (disableShown_unasked quiet.unsilenced (.inr rfl)) ?_, agrees.quiet quiet rfl⟩
    rw [Ioniq5Ecan.disableEcu, if_neg notDisabled]

/-- The three requests of `restore_ecu`, after the count of a retry if there was one. -/
theorem steps_requests {mid : EcuNode} {first : List EcuExchange} {failures : UInt64} {early : Nat}
    (agrees : Agrees node ecus) (disabled : (ecus.ecu ecu).disabled = true)
    (quiet : Quietly ecanBus node mid first)
    (shown : failures ≠ 0 → ∀ rest, SessionAsked ecanBus ecu rest →
      RetryShown ecanBus ecu early (first ++ rest))
    (silent : (failures != 0 && early != 0) = false) :
    Within ecuTranscript (restoreRequests ecanBus ecu)
      (fun _ left now => Stepped ecanBus ecus (.restore failures ecu) past (.ok ()) left now)
      (fun what left now => Stepped ecanBus ecus (.restore failures ecu) past (.error what) left now)
      mid (past ++ first) := by
  have stepped : ∀ (outcome : RestoreOutcome) (ended : UsbOutcome) (left : EcuNode)
      (rest : List EcuExchange), outcome.resumedEarly = early →
        (do outcome.session; outcome.enable; outcome.defaultSession : UsbOutcome) = ended →
          SessionAsked ecanBus ecu rest → Quietly ecanBus mid left rest →
            Stepped ecanBus ecus (.restore failures ecu) past ended left (past ++ first ++ rest) := by
    intro outcome ended left rest isEarly isEnded asked after
    have whole := quiet.append after
    refine ⟨first ++ rest, ecus.setEcu ecu (ecus.ecu ecu), List.append_assoc past first rest,
      .restore outcome whole.unsilenced ?_ ?_, agrees.quiet whole rfl⟩
    · intro _ retried
      rw [isEarly]
      exact shown retried rest asked
    · rw [Ioniq5Ecan.restoreEcu, if_neg (by simp [disabled]), isEarly, silent, isEnded]
      rfl
  simp only [restoreRequests, Program.within_bind, Program.within_pure]
  have other : ([0x10, 0x03] : List UInt8).getD 1 0 ≠ 0x83 := by decide
  refine Program.within_mono (within_requested ⟨ecu, [0x10, 0x03], [0x50, 0x03]⟩ other quiet.idle)
    ?_ ?_
  · rintro _ second now ⟨exchange, isSession, rfl, afterSession⟩
    refine Program.within_mono ((quiet_udsRequest (by decide)).within afterSession.idle) ?_ ?_
    · rintro _ third now ⟨enable, rfl, afterEnable⟩
      have enabled := afterSession.append afterEnable
      refine Program.within_mono ((quiet_udsRequest (by decide)).within afterEnable.idle) ?_ ?_
      · rintro _ left now ⟨defaultSession, rfl, afterDefault⟩
        have step := stepped { resumedEarly := early } _ left _ rfl rfl
          ⟨exchange, enable ++ defaultSession, isSession, List.append_assoc _ _ _⟩
          (enabled.append afterDefault)
        rwa [← List.append_assoc, ← List.append_assoc] at step
      · rintro what left now ⟨defaultSession, rfl, afterDefault⟩
        have step := stepped { resumedEarly := early, defaultSession := .error what } _ left _ rfl rfl
          ⟨exchange, enable ++ defaultSession, isSession, List.append_assoc _ _ _⟩
          (enabled.append afterDefault)
        rwa [← List.append_assoc, ← List.append_assoc] at step
    · rintro what left now ⟨enable, rfl, afterEnable⟩
      have step := stepped { resumedEarly := early, enable := .error what } _ left _ rfl rfl
        ⟨exchange, enable, isSession, rfl⟩ (afterSession.append afterEnable)
      rwa [← List.append_assoc] at step
  · rintro what left now ⟨exchange, isSession, rfl, afterSession⟩
    exact stepped { resumedEarly := early, session := .error what } _ left _ rfl rfl
      ⟨exchange, [], isSession, (List.append_nil _).symm⟩ afterSession

theorem within_resumed (idle : node.frames.uds.waiting = false) :
    Within ecuTranscript (countOwned ecanBus ecu (waitResumed ecanBus ecu))
      (fun frames left now => Counted ecanBus Listened ecu node past frames left now)
      (fun _ _ _ => False) node past :=
  within_countOwned idle fun before _ _ since => within_waitResumed before since.idle

theorem Agrees.enable (agrees : Agrees node ecus) {segment : List EcuExchange}
    (quiet : Quietly ecanBus node left segment) :
    Agrees (left.setDisabled ecu false) (ecus.setEcu ecu {}) := by
  apply agrees.setEcu
  · rw [EcuNode.setDisabled, frames_setFlags]
    exact quiet.idle
  · rw [EcuNode.setDisabled, flags_setFlags_same]
  · intro other different
    rw [EcuNode.setDisabled, flags_setFlags_other left different, quiet.disabled]

theorem steps_restore {failures : UInt64} (agrees : Agrees node ecus) :
    Steps ecanBus ecus (.restore failures ecu) node past := by
  have still : Quietly ecanBus node node [] := .refl agrees.idle
  simp only [Steps, runEcuCall, restoreEcu, Program.within_bind, Program.within_fetch]
  rw [Program.within_ite, Program.within_ite, agrees.disabled]
  refine ⟨fun enabled => ?_, fun notEnabled => ⟨fun retried => ?_, fun first => ?_⟩⟩
  · have flagged : (ecus.ecu ecu).disabled ≠ true := by simpa using enabled
    refine ⟨[], _, (List.append_nil past).symm,
      .restore {} still.unsilenced (fun disabled => absurd disabled flagged) ?_,
      agrees.quiet still rfl⟩
    rw [Ioniq5Ecan.restoreEcu, if_pos enabled]
  · have disabled : (ecus.ecu ecu).disabled = true := by simpa using notEnabled
    rw [Program.within_bind]
    refine Program.within_mono (within_resumed agrees.idle) ?_ (fun _ _ _ never => never.elim)
    rintro frames mid now ⟨count, rfl, quiet, listens, resumed⟩
    have shown : ∀ rest, CountShown ecanBus ecu frames.toNat (count.asked ++ rest) rest :=
      fun rest => ⟨count, rfl, listens, resumed⟩
    rw [Program.within_ite]
    refine ⟨fun some => ?_, fun none => ?_⟩
    · have positive : frames.toNat ≠ 0 := fun zero =>
        bne_iff_ne.mp some (UInt64.toNat_inj.mp zero)
      refine ⟨count.asked, _, rfl, .restore { resumedEarly := frames.toNat } quiet.unsilenced
        (fun _ _ => ⟨[], ?_, ?_⟩) ?_, agrees.enable quiet⟩
      · have all := shown []
        rwa [List.append_nil] at all
      · rw [if_neg positive]
      · rw [Ioniq5Ecan.restoreEcu, if_neg notEnabled, if_pos (by simp_all)]
    · have zero : frames.toNat = 0 := congrArg UInt64.toNat (by simpa using none)
      refine steps_requests agrees disabled quiet (fun _ rest asked => ⟨rest, shown rest, ?_⟩)
        (by simp [zero])
      rw [if_pos zero]
      exact asked
  · have disabled : (ecus.ecu ecu).disabled = true := by simpa using notEnabled
    have zero : failures = 0 := by simpa using first
    have requests := @steps_requests ecanBus ecu ecus node past node [] failures 0 agrees disabled
      still (fun retried => absurd zero retried) (by simp [zero])
    rwa [List.append_nil] at requests

theorem steps_confirm (agrees : Agrees node ecus) :
    Steps ecanBus ecus (.confirm ecu) node past := by
  have still : Quietly ecanBus node node [] := .refl agrees.idle
  simp only [Steps, runEcuCall, confirmEcuRestored, Program.within_bind, Program.within_fetch]
  rw [Program.within_ite, agrees.disabled]
  refine ⟨fun enabled => ?_, fun notEnabled => ?_⟩
  · have flagged : (ecus.ecu ecu).disabled ≠ true := by simpa using enabled
    refine ⟨[], _, (List.append_nil past).symm,
      .confirm {} still.unsilenced (fun disabled => absurd disabled flagged) ?_,
      agrees.quiet still rfl⟩
    rw [Ioniq5Ecan.confirmEcuRestored, if_pos enabled]
  · rw [Program.within_bind]
    refine Program.within_mono (within_resumed agrees.idle) ?_ (fun _ _ _ never => never.elim)
    rintro frames left now ⟨count, rfl, quiet, listens, resumed⟩
    have shown : CountShown ecanBus ecu frames.toNat count.asked [] :=
      ⟨count, (List.append_nil _).symm, listens, resumed⟩
    simp only [Program.within_bind, Program.within_raiseIf, Program.within_change]
    refine ⟨fun none => ?_, fun some => ?_⟩
    · have zero : frames.toNat = 0 := congrArg UInt64.toNat (beq_iff_eq.mp none)
      refine ⟨count.asked, _, rfl, .confirm { resumed := frames.toNat } quiet.unsilenced
        (fun _ => shown) ?_, agrees.quiet quiet rfl⟩
      rw [Ioniq5Ecan.confirmEcuRestored, if_neg notEnabled, if_pos (by simp [zero])]
    · have positive : frames.toNat ≠ 0 := fun zero =>
        beq_eq_false_iff_ne.mp some (UInt64.toNat_inj.mp zero)
      refine ⟨count.asked, _, rfl, .confirm { resumed := frames.toNat } quiet.unsilenced
        (fun _ => shown) ?_, agrees.enable quiet⟩
      rw [Ioniq5Ecan.confirmEcuRestored, if_neg notEnabled, if_neg (by simp [positive])]

theorem steps_maintain {time : TimePoint} (agrees : Agrees node ecus) :
    Steps ecanBus ecus (.maintain time) node past := by
  have kept : ∀ (ended : UsbOutcome) (left : EcuNode) (now : List EcuExchange),
      Since ecanBus node past left now → Stepped ecanBus ecus (.maintain time) past ended left now := by
    rintro ended left now ⟨segment, isNow, quiet⟩
    refine ⟨segment, ecus, isNow, .maintain ended quiet.unsilenced, quiet.idle, fun ecu => ?_⟩
    rw [quiet.disabled, agrees.disabled]
  exact Program.within_mono ((quiet_maintainDisabledEcus time).within agrees.idle)
    (fun _ left now since => kept _ left now since) (fun _ left now since => kept _ left now since)

theorem steps_call (call : EcuCall) (agrees : Agrees node ecus) :
    Steps ecanBus ecus call node past := by
  cases call with
  | disable ecu => exact steps_disable agrees
  | restore failures ecu => exact steps_restore agrees
  | confirm ecu => exact steps_confirm agrees
  | maintain time => exact steps_maintain agrees

theorem runs_calls (calls : List EcuCall) :
    ∀ {node : EcuNode} {ecus : EcuPair} {past : List EcuExchange}, Agrees node ecus →
      Within ecuTranscript (serveEcuCalls ecanBus calls)
        (fun outcomes left now => ∃ exchanges last, now = past ++ exchanges ∧
          EcuRun ecanBus ecus calls exchanges outcomes last ∧ Agrees left last)
        (fun _ _ _ => False) node past := by
  induction calls with
  | nil =>
      intro node ecus past agrees
      exact ⟨[], ecus, (List.append_nil past).symm, .done ecus, agrees⟩
  | cons call rest ih =>
      intro node ecus past agrees
      simp only [serveEcuCalls, Program.within_bind, Program.within_outcome, Program.within_pure]
      have later : ∀ (ended : UsbOutcome) (mid : EcuNode) (reached : List EcuExchange),
          Stepped ecanBus ecus call past ended mid reached →
            Within ecuTranscript (serveEcuCalls ecanBus rest)
              (fun outcomes left now => ∃ exchanges last, now = past ++ exchanges ∧
                EcuRun ecanBus ecus (call :: rest) exchanges (ended :: outcomes) last ∧
                  Agrees left last)
              (fun _ _ _ => False) mid reached := by
        rintro ended mid reached ⟨segment, next, rfl, step, agrees⟩
        refine Program.within_mono (ih agrees) ?_ (fun _ _ _ never => never)
        rintro outcomes left now ⟨exchanges, last, rfl, run, agrees⟩
        exact ⟨segment ++ exchanges, last, List.append_assoc past segment exchanges,
          .call step run, agrees⟩
      exact Program.within_mono (steps_call call agrees)
        (fun _ mid reached step => later (.ok ()) mid reached step)
        (fun what mid reached step => later (.error what) mid reached step)

end Calls

/-! ## Known ECUs -/

/-- The communication-control requests of these exchanges do not fail with their bytes delivered. -/
def Reported (ecanBus : UInt8) (exchanges : List EcuExchange) : Prop :=
  ∀ ecu, ∀ outcome ∈ silenceWrites ecanBus ecu exchanges, outcome.reported = true

section Known
variable {ecanBus : UInt8} {ecus next : EcuPair} {call : EcuCall} {segment : List EcuExchange}
  {ended : UsbOutcome}

theorem known_setEcu {ecu : EcuId} {value : Ecu} (known : ∀ other, (ecus.ecu other).Known)
    (isKnown : value.Known) : ∀ other, ((ecus.setEcu ecu value).ecu other).Known := by
  intro other
  by_cases isEcu : other = ecu
  · rw [isEcu, ecu_setEcu_same]
    exact isKnown
  · rw [ecu_setEcu_other ecus isEcu]
    exact known other

theorem step_known (step : EcuStep ecanBus ecus call segment ended next)
    (reported : Reported ecanBus segment) (known : ∀ ecu, (ecus.ecu ecu).Known) :
    ∀ ecu, (next.ecu ecu).Known := by
  cases step with
  | disable outcome shown result =>
      rename_i ecu value
      refine known_setEcu known ?_
      have isValue := congrArg Prod.fst result
      by_cases unasked : (ecus.ecu ecu).disabled = true ∨ outcome.session.isOk = false
      · have same : (Ioniq5Ecan.disableEcu ecu.port (ecus.ecu ecu) outcome).1 = ecus.ecu ecu := by
          rw [Ioniq5Ecan.disableEcu]
          rcases unasked with disabled | failed
          · rw [if_pos disabled]
          · cases session : outcome.session with
            | ok _ => rw [session] at failed; cases failed
            | error what => split <;> rfl
        rw [← show _ = value from isValue, same]
        exact known ecu
      · obtain ⟨enabled, session⟩ := not_or.mp unasked
        have written : outcome.disableRequest ∈ silenceWrites ecanBus ecu segment := by
          rw [shown.writes, if_neg (by simp_all)]
          exact List.mem_singleton_self _
        rw [← show _ = value from isValue]
        exact disableEcu_known (known ecu) (reported ecu _ written)
  | restore outcome unsilenced shown result =>
      rename_i failures ecu value
      refine known_setEcu known ?_
      rw [← show _ = value from congrArg Prod.fst result, Ioniq5Ecan.restoreEcu]
      split
      · exact known ecu
      · split
        · exact enabled_known
        · exact known ecu
  | confirm outcome unsilenced shown result =>
      rename_i ecu value
      refine known_setEcu known ?_
      rw [← show _ = value from congrArg Prod.fst result, Ioniq5Ecan.confirmEcuRestored]
      split
      · exact known ecu
      · split
        · exact known ecu
        · exact enabled_known
  | maintain ended unsilenced => exact known

theorem run_known {last : EcuPair} {calls : List EcuCall} {exchanges : List EcuExchange}
    {outcomes : List UsbOutcome} (run : EcuRun ecanBus ecus calls exchanges outcomes last)
    (reported : Reported ecanBus exchanges) (known : ∀ ecu, (ecus.ecu ecu).Known) :
    ∀ ecu, (last.ecu ecu).Known := by
  induction run with
  | done ecus => exact known
  | call step rest ih =>
      refine ih (fun ecu outcome member => reported ecu outcome ?_)
        (step_known step (fun ecu outcome member => reported ecu outcome ?_) known)
      · rw [silenceWrites_append]
        exact List.mem_append_right _ member
      · rw [silenceWrites_append]
        exact List.mem_append_left _ member

end Known

/-- Whatever is received in between, the calls are a run of the single steps with the same outcomes
and the same flags, and each count is of the frames between its two readings.  Where no
communication-control request fails with its bytes delivered, an ECU that was silenced and not
counted since is flagged. -/
theorem interleaved_calls_refine (ecanBus : UInt8) (calls : List EcuCall)
    (party : List EcuExchange → (question : EcuAsk) → EcuAnswer question) :
    ∃ exchanges node outcomes ecus,
      (serveEcuCalls ecanBus calls {}).hold party [] = (exchanges, node, .ok outcomes) ∧
        EcuRun ecanBus {} calls exchanges outcomes ecus ∧
        (∀ ecu, (node.flags ecu).disabled = (ecus.ecu ecu).disabled) ∧
        (Reported ecanBus exchanges → ∀ ecu, (ecus.ecu ecu).silenced = true →
          (node.flags ecu).disabled = true) := by
  have start : Agrees {} {} := ⟨rfl, fun ecu => by cases ecu <;> rfl⟩
  obtain ⟨exchanges, node, outcomes, held, _, followed, ecus, isFollowed, run, agrees⟩ :=
    Program.exists_run party (@runs_calls ecanBus calls {} {} [] start)
  rw [Monitor.follow_transcript, List.nil_append, List.nil_append] at isFollowed
  subst isFollowed
  refine ⟨exchanges, node, outcomes, ecus, held, run, agrees.disabled, ?_⟩
  intro reported ecu silenced
  rw [agrees.disabled]
  refine run_known run reported (fun other => ?_) ecu silenced
  cases other <;> exact enabled_known

end Ioniq5Ecan.Ecus
