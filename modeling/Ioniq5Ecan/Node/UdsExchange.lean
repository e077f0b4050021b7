import Ioniq5Ecan.Node.EcuPrograms

/-! # One answer for each UDS request

Requests made one after the other, as the actuation mutex has it, while the
receive thread observes any frames in between.  Each outcome is decided by the
first answer that arrives from the ECU while that request is registered, and by
nothing that arrives earlier or later. -/
set_option autoImplicit false
namespace Ioniq5Ecan.Ecus

open Library (Dialogue Exchange Monitor Program)
open Library.Program (ask fetch change raise raiseIf Within)

abbrev EcuExchange := Exchange EcuAsk EcuAnswer

abbrev ecuTranscript : Monitor EcuAsk EcuAnswer (List EcuExchange) := Monitor.transcript

/-! ## Requests -/

structure UdsCall where
  ecu : EcuId
  payload : List UInt8
  wanted : List UInt8

section Requests
variable (ecanBus : UInt8)

def serveRequests : List UdsCall → EcuProgram (List (Except String (List UInt8)))
  | [] => pure []
  | call :: rest => do
      let outcome ← (udsRequest ecanBus call.ecu call.payload call.wanted).outcome
      let later ← serveRequests rest
      pure (outcome :: later)

/-- A request with the frames that arrive before it is registered, those that arrive from then up
to its send and those that arrive from its send on, and how the send ended. -/
structure UdsExchange where
  call : UdsCall
  earlier : List BusFrame
  before : List BusFrame
  sent : WriteOutcome
  after : List BusFrame

namespace UdsExchange

/-- The exchanges of the request; a payload that is no single frame is not sent. -/
def asked (exchange : UdsExchange) : List EcuExchange :=
  [⟨.meanwhile, exchange.earlier⟩, ⟨.meanwhile, exchange.before⟩] ++
    (if notSingleFrame exchange.call.payload then []
    else [⟨.send (udsFrame ecanBus (requestAddress exchange.call.ecu) exchange.call.payload),
      exchange.sent⟩]) ++
    [⟨.meanwhile, exchange.after⟩]

/-- The frames that arrive while the request is registered. -/
def window (exchange : UdsExchange) : List BusFrame := exchange.before ++ exchange.after

/-- How the request ends, by its own window alone. -/
def outcome (exchange : UdsExchange) : Except String (List UInt8) :=
  if notSingleFrame exchange.call.payload then
    .error "only single-frame UDS payloads are supported"
  else
    match exchange.sent with
    | .failed _ what => .error what
    | .delivered =>
        match firstAnswer ecanBus (ecuResponseAddress exchange.call.ecu) exchange.window with
        | none => .error ("UDS response timeout for " ++ bytesAsHex exchange.call.payload)
        | some response => judgeResponse exchange.call.wanted response

end UdsExchange
end Requests

theorem judged_same {wanted response accepted : List UInt8}
    (judged : judgeResponse wanted response = .ok accepted) : response = accepted := by
  unfold judgeResponse at judged
  split at judged
  · cases judged
  · split at judged
    · cases judged
    · exact Except.ok.inj judged

theorem judged_starts {wanted response accepted : List UInt8}
    (judged : judgeResponse wanted response = .ok accepted) : startsWith response wanted = true := by
  unfold judgeResponse at judged
  split at judged
  · cases judged
  · split at judged
    · cases judged
    · rename_i starts
      simpa using starts

/-! ## One request, under any monitor -/

def EcuNode.observed (node : EcuNode) (ecanBus : UInt8) (received : List BusFrame) : EcuNode :=
  { node with frames := observeAll ecanBus node.frames received }

/-- A call that leaves the flags of the ECUs and the mode, no pending request, and the counts and the
template as the received frames have them. -/
structure LeavesFlags (ecanBus : UInt8) (received : List BusFrame) (node left : EcuNode) : Prop where
  camera : left.camera = node.camera
  radar : left.radar = node.radar
  idle : left.frames.uds.waiting = false
  counted : ∀ ecu, left.frames.count ecu =
    node.frames.count ecu + UInt64.ofNat (received.countP (stockFrame ecanBus ecu))
  mode : left.mode = node.mode
  template : left.frames.latestStockScc =
    ((received.filter (stockFrame ecanBus .radar)).getLast?).or node.frames.latestStockScc

section Rules
variable {ecanBus : UInt8} {node : EcuNode}

theorem observed_observed (node : EcuNode) (first second : List BusFrame) :
    (node.observed ecanBus first).observed ecanBus second =
      node.observed ecanBus (first ++ second) := by
  simp [EcuNode.observed, observeAll]

@[simp] theorem count_observed (node : EcuNode) (received : List BusFrame) (ecu : EcuId) :
    (node.observed ecanBus received).frames.count ecu =
      node.frames.count ecu + UInt64.ofNat (received.countP (stockFrame ecanBus ecu)) :=
  observeAll_count ecu received node.frames

@[simp] theorem count_setUds (node : EcuNode) (uds : UdsSlot) (ecu : EcuId) :
    (node.setUds uds).frames.count ecu = node.frames.count ecu := by
  cases ecu <;> rfl

theorem observed_idle (idle : node.frames.uds.waiting = false) (received : List BusFrame) :
    (node.observed ecanBus received).frames.uds = node.frames.uds := by
  have addressed : node.frames.uds.Addressed := by
    intro waiting
    rw [idle] at waiting
    cases waiting
  exact (observeAll_uds received node.frames addressed).trans (after_full received _ idle)

theorem observed_registered (node : EcuNode) (ecu : EcuId) (received : List BusFrame) :
    (((node.setUds
      { waiting := true, responseAddress := ecuResponseAddress ecu, response := [] }).observed
        ecanBus received).frames.uds) =
      match firstAnswer ecanBus (ecuResponseAddress ecu) received with
      | some payload =>
          { waiting := false, responseAddress := ecuResponseAddress ecu, response := payload }
      | none => { waiting := true, responseAddress := ecuResponseAddress ecu, response := [] } :=
  (observeAll_uds received _ fun _ => ⟨ecu, rfl⟩).trans (after_waiting received _ rfl)

theorem leaves_cleared (node : EcuNode) (earlier registered : List BusFrame) {slot cleared : UdsSlot}
    (free : cleared.waiting = false) :
    LeavesFlags ecanBus (earlier ++ registered) node
      ((((node.observed ecanBus earlier).setUds slot).observed ecanBus registered).setUds
        cleared) where
  camera := rfl
  radar := rfl
  idle := free
  counted ecu := by
    simp only [count_setUds, count_observed, List.countP_append, UInt64.ofNat_add, UInt64.add_assoc]
  mode := rfl
  template := by
    show (observeAll ecanBus _ registered).latestStockScc = _
    rw [observeAll_template]
    show ((registered.filter _).getLast?).or (observeAll ecanBus _ earlier).latestStockScc = _
    rw [observeAll_template, List.filter_append, List.getLast?_append, Option.or_assoc]

section AnyMonitor
variable {View : Type} {monitor : Monitor EcuAsk EcuAnswer View} {view : View}

theorem within_interfere {post : Unit → EcuNode → View → Prop}
    {thrown : String → EcuNode → View → Prop} :
    Within monitor (interfere ecanBus) post thrown node view ↔
      monitor.allows view .meanwhile ∧ ∀ received : List BusFrame,
        post () (node.observed ecanBus received) (monitor.notes view .meanwhile received) :=
  Iff.rfl

theorem within_writeFrame {frame : BusFrame} {post : WriteOutcome → EcuNode → View → Prop}
    {thrown : String → EcuNode → View → Prop} :
    Within monitor (writeFrame frame) post thrown node view ↔
      monitor.allows view (.send frame) ∧ ∀ outcome : WriteOutcome,
        post outcome node (monitor.notes view (.send frame) outcome) :=
  Iff.rfl

theorem within_sendFrame {frame : BusFrame} {post : Unit → EcuNode → View → Prop}
    {thrown : String → EcuNode → View → Prop} (allowed : monitor.allows view (.send frame))
    (sends : post () node (monitor.notes view (.send frame) WriteOutcome.delivered))
    (fails : ∀ arrived what,
      thrown what node (monitor.notes view (.send frame) (WriteOutcome.failed arrived what))) :
    Within monitor (sendFrame frame) post thrown node view := by
  simp only [sendFrame, Program.within_bind, within_writeFrame]
  refine ⟨allowed, fun outcome => ?_⟩
  cases outcome with
  | delivered => exact sends
  | failed arrived what => exact fails arrived what

/-- The views of a request: after the frames before it is registered, after those before it is
written, after the write, and after the frames of the wait. -/
def requestView (monitor : Monitor EcuAsk EcuAnswer View) (view : View) (frame : BusFrame)
    (earlier before : List BusFrame) (outcome : WriteOutcome) (after : List BusFrame) : View :=
  monitor.notes (monitor.notes (monitor.notes (monitor.notes view .meanwhile earlier) .meanwhile
    before) (.send frame) outcome) .meanwhile after

/-- Every course of a request: it is not written, its write fails, or it is decided by the first
answer since it was registered. -/
theorem within_udsRequest {ecu : EcuId} {payload wanted : List UInt8}
    {post : List UInt8 → EcuNode → View → Prop} {thrown : String → EcuNode → View → Prop}
    (idle : node.frames.uds.waiting = false) (asks : ∀ view, monitor.allows view .meanwhile)
    (unfit : notSingleFrame payload = true → ∀ (earlier before after : List BusFrame) left,
      LeavesFlags ecanBus (earlier ++ (before ++ after)) node left →
        thrown "only single-frame UDS payloads are supported" left
        (monitor.notes (monitor.notes (monitor.notes view .meanwhile earlier) .meanwhile before)
          .meanwhile after))
    (permitted : notSingleFrame payload = false → ∀ earlier before : List BusFrame,
      monitor.allows (monitor.notes (monitor.notes view .meanwhile earlier) .meanwhile before)
        (.send (udsFrame ecanBus (requestAddress ecu) payload)))
    (failed : notSingleFrame payload = false → ∀ earlier before arrived what after left,
      LeavesFlags ecanBus (earlier ++ (before ++ after)) node left → thrown what left
        (requestView monitor view (udsFrame ecanBus (requestAddress ecu) payload) earlier before
          (.failed arrived what) after))
    (timedOut : notSingleFrame payload = false → ∀ earlier before after left,
      LeavesFlags ecanBus (earlier ++ (before ++ after)) node left →
      firstAnswer ecanBus (ecuResponseAddress ecu) (before ++ after) = none →
        thrown ("UDS response timeout for " ++ bytesAsHex payload) left
          (requestView monitor view (udsFrame ecanBus (requestAddress ecu) payload) earlier before
            .delivered after))
    (refused : notSingleFrame payload = false → ∀ earlier before after left response what,
      LeavesFlags ecanBus (earlier ++ (before ++ after)) node left →
      firstAnswer ecanBus (ecuResponseAddress ecu) (before ++ after) = some response →
      judgeResponse wanted response = .error what → thrown what left
        (requestView monitor view (udsFrame ecanBus (requestAddress ecu) payload) earlier before
          .delivered after))
    (granted : notSingleFrame payload = false → ∀ earlier before after left response,
      LeavesFlags ecanBus (earlier ++ (before ++ after)) node left →
      firstAnswer ecanBus (ecuResponseAddress ecu) (before ++ after) = some response →
      judgeResponse wanted response = .ok response → post response left
        (requestView monitor view (udsFrame ecanBus (requestAddress ecu) payload) earlier before
          .delivered after)) :
    Within monitor (udsRequest ecanBus ecu payload wanted) post thrown node view := by
  simp only [udsRequest, registerAndSend, sendUds, Program.within_bind, within_interfere,
    Program.within_fetch, Program.within_raiseIf, Program.within_change, Program.within_catching,
    Program.within_raise]
  refine ⟨asks _, fun earlier => ?_⟩
  have unregistered : (node.observed ecanBus earlier).frames.uds.waiting = false := by
    rw [observed_idle idle]
    exact idle
  refine ⟨fun waiting => absurd (unregistered.symm.trans waiting) Bool.false_ne_true,
    fun _ => ⟨asks _, fun before => ⟨fun tooLong => ⟨asks _, fun after => ?_⟩, fun fit => ?_⟩⟩⟩
  · rw [observed_observed]
    exact unfit tooLong earlier before after _ (leaves_cleared node _ _ rfl)
  apply within_sendFrame (permitted fit earlier before)
  · refine ⟨asks _, fun after => ?_⟩
    rw [observed_observed]
    have slot : (((node.observed ecanBus earlier).setUds
        { waiting := true, responseAddress := ecuResponseAddress ecu, response := [] }).observed
          ecanBus (before ++ after)).frames.uds = _ := observed_registered _ ecu _
    cases answer : firstAnswer ecanBus (ecuResponseAddress ecu) (before ++ after) with
    | none =>
        simp only [slot, answer, Bool.true_or, if_true, Program.within_bind,
          Program.within_change, Program.within_raise]
        exact timedOut fit earlier before after _ (leaves_cleared node _ _ rfl) answer
    | some response =>
        have full : response.isEmpty = false := by
          simpa using firstAnswer_nonempty answer
        simp only [slot, answer, full, Bool.false_or, Bool.false_eq_true, if_false,
          Program.within_bind, Program.within_change, judge]
        cases judged : judgeResponse wanted response with
        | ok accepted =>
            have same := judged_same judged
            subst same
            exact granted fit earlier before after _ _ (leaves_cleared node _ _ rfl) answer judged
        | error what =>
            exact refused fit earlier before after _ _ _ (leaves_cleared node _ _ rfl) answer
              judged
  · intro arrived what
    refine ⟨asks _, fun after => ?_⟩
    rw [observed_observed]
    exact failed fit earlier before arrived what after _ (leaves_cleared node _ _ rfl)

end AnyMonitor

/-! ## One request, by its window -/

/-- The exchanges of one request, how it ended and what it left. -/
def Answered (ecanBus : UInt8) (call : UdsCall) (node : EcuNode) (past : List EcuExchange)
    (outcome : Except String (List UInt8)) (left : EcuNode) (now : List EcuExchange) : Prop :=
  ∃ exchange : UdsExchange, exchange.call = call ∧ now = past ++ exchange.asked ecanBus ∧
    outcome = exchange.outcome ecanBus ∧
      LeavesFlags ecanBus (exchange.earlier ++ exchange.window) node left

theorem request_answered (call : UdsCall) {past : List EcuExchange}
    (idle : node.frames.uds.waiting = false) :
    Within ecuTranscript (udsRequest ecanBus call.ecu call.payload call.wanted)
      (fun response left now => Answered ecanBus call node past (.ok response) left now)
      (fun what left now => Answered ecanBus call node past (.error what) left now) node past := by
  apply within_udsRequest idle (fun _ => trivial)
  · intro unfit earlier before after left leaves
    refine ⟨⟨call, earlier, before, .delivered, after⟩, rfl, ?_, ?_, leaves⟩
    · simp [UdsExchange.asked, Monitor.transcript, unfit]
    · rw [UdsExchange.outcome, if_pos unfit]
  · intros
    trivial
  · intro fit earlier before arrived what after left leaves
    refine ⟨⟨call, earlier, before, .failed arrived what, after⟩, rfl, ?_, ?_, leaves⟩
    · simp [UdsExchange.asked, requestView, Monitor.transcript, fit]
    · rw [UdsExchange.outcome, if_neg (Bool.eq_false_iff.mp fit)]
  all_goals
    intro fit earlier before after left
  · intro leaves answer
    refine ⟨⟨call, earlier, before, .delivered, after⟩, rfl, ?_, ?_, leaves⟩
    · simp [UdsExchange.asked, requestView, Monitor.transcript, fit]
    · simp only [UdsExchange.outcome, UdsExchange.window, fit, answer]
      rfl
  · intro response what leaves answer judged
    refine ⟨⟨call, earlier, before, .delivered, after⟩, rfl, ?_, ?_, leaves⟩
    · simp [UdsExchange.asked, requestView, Monitor.transcript, fit]
    · simp only [UdsExchange.outcome, UdsExchange.window, fit, answer, judged]
      rfl
  · intro response leaves answer judged
    refine ⟨⟨call, earlier, before, .delivered, after⟩, rfl, ?_, ?_, leaves⟩
    · simp [UdsExchange.asked, requestView, Monitor.transcript, fit]
    · simp only [UdsExchange.outcome, UdsExchange.window, fit, answer, judged]
      rfl

/-! ## Any requests -/

/-- The requests one after the other: their exchanges are all there are, and each ends as its own
window has it. -/
structure Explained (ecanBus : UInt8) (calls : List UdsCall) (exchanges : List UdsExchange)
    (outcomes : List (Except String (List UInt8))) (transcript : List EcuExchange) : Prop where
  calls : exchanges.map (·.call) = calls
  asked : transcript = exchanges.flatMap (UdsExchange.asked ecanBus)
  outcomes : outcomes = exchanges.map (UdsExchange.outcome ecanBus)

theorem within_serveRequests (calls : List UdsCall) :
    ∀ {node : EcuNode} {past : List EcuExchange}, node.frames.uds.waiting = false →
      Within ecuTranscript (serveRequests ecanBus calls)
        (fun outcomes _ now => ∃ exchanges transcript, now = past ++ transcript ∧
          Explained ecanBus calls exchanges outcomes transcript)
        (fun _ _ _ => False) node past := by
  induction calls with
  | nil =>
      intro node past _
      exact ⟨[], [], (List.append_nil past).symm, rfl, rfl, rfl⟩
  | cons call rest ih =>
      intro node past idle
      simp only [serveRequests, Program.within_bind, Program.within_outcome]
      have later : ∀ (outcome : Except String (List UInt8)) (left : EcuNode)
          (seen : List EcuExchange), Answered ecanBus call node past outcome left seen →
            Within ecuTranscript (serveRequests ecanBus rest)
              (fun outcomes left seen => Within ecuTranscript
                (pure (outcome :: outcomes) : EcuProgram (List (Except String (List UInt8))))
                (fun outcomes _ now => ∃ exchanges transcript, now = past ++ transcript ∧
                  Explained ecanBus (call :: rest) exchanges outcomes transcript)
                (fun _ _ _ => False) left seen)
              (fun _ _ _ => False) left seen := by
        rintro outcome left seen ⟨exchange, isCall, rfl, isOutcome, leaves⟩
        refine Program.within_mono (ih leaves.idle) ?_ (fun _ _ _ impossible => impossible)
        rintro outcomes last final ⟨exchanges, transcript, rfl, explained⟩
        refine ⟨exchange :: exchanges, exchange.asked ecanBus ++ transcript,
          List.append_assoc _ _ _, ?_, ?_, ?_⟩
        · rw [List.map_cons, explained.calls, isCall]
        · rw [List.flatMap_cons, explained.asked]
        · rw [explained.outcomes, isOutcome, List.map_cons]
      refine Program.within_mono (request_answered call idle) ?_ ?_
      · intro response left seen answered
        exact later (.ok response) left seen answered
      · intro what left seen answered
        exact later (.error what) left seen answered

end Rules

/-- Whatever frames arrive at whatever points, and however the sends end: the exchanges are those of
the requests one after the other, and each request ends as the first answer in its own window has it,
from its registration on.  No frame answers two requests, and no request finds another one
pending. -/
theorem uds_requests_explained (ecanBus : UInt8) (calls : List UdsCall)
    (party : List EcuExchange → (question : EcuAsk) → EcuAnswer question) :
    ∃ transcript node outcomes exchanges,
      (serveRequests ecanBus calls {}).hold party [] = (transcript, node, .ok outcomes) ∧
        Explained ecanBus calls exchanges outcomes transcript := by
  obtain ⟨transcript, node, outcomes, run, _, exchanges, seen, isSeen, explained⟩ :=
    Program.exists_run party (@within_serveRequests ecanBus calls {} [] rfl)
  rw [Monitor.follow_transcript, List.nil_append, List.nil_append] at isSeen
  subst isSeen
  exact ⟨transcript, node, outcomes, exchanges, run, explained⟩

end Ioniq5Ecan.Ecus
