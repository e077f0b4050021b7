import Ioniq5Ecan.Library.Runs
import Ioniq5Ecan.Panda.PacketStream

/-! # Writing packets

`PandaUsb::send` with the calls that set `ready_`, and the bytes that reached
the write endpoint since `connect`.  A transfer delivers exactly the first
`transferred` bytes it is given, whatever its status. -/
set_option autoImplicit false
namespace Ioniq5Ecan

open Library (CallMachine whole_of_cut)

structure WriteTransfer where
  status : Int
  transferred : Int

/-- A transfer that ends the loop of `send`. -/
def WriteTransfer.stops (transfer : WriteTransfer) : Bool :=
  decide (transfer.status ≠ 0) || decide (transfer.transferred ≤ 0)

/-- The loop of `send`: how many of the remaining bytes are written, and the status it throws with.
Each transfer that goes on writes a byte, so the fuel only has to reach the number of bytes. -/
def writeLoop : Nat → (Nat → WriteTransfer) → Nat → Nat × Option Int
  | 0, _, _ => (0, none)
  | fuel + 1, transfers, remaining =>
      if remaining = 0 then (0, none)
      else
        let count := min (transfers 0).transferred.toNat remaining
        if (transfers 0).stops then (count, some (transfers 0).status)
        else
          let rest := writeLoop fuel (fun index => transfers (index + 1)) (remaining - count)
          (count + rest.1, rest.2)

structure WriteState where
  ready : Bool := false
  handleOpen : Bool := false
  delivered : List UInt8 := []

/-- `connect` with its outcome, a control transfer or read that clears `ready_`, and `send` with
the outcomes of its successive bulk transfers. -/
inductive WriteCall
  | connect (outcome : Except String Unit)
  | disconnect
  | transferFails
  | send (frames : List BusFrame) (transfers : Nat → WriteTransfer)

section Calls
variable (libusbErrorName : Int → String)

def sendFrames (state : WriteState) (frames : List BusFrame) (transfers : Nat → WriteTransfer) :
    WriteState × Except String Unit :=
  if !state.handleOpen then (state, .error "Red Panda is not connected")
  else if frames.isEmpty then (state, .ok ())
  else
    match packFrames frames with
    | .error what => (state, .error what)
    | .ok buffer =>
        let result := writeLoop buffer.length transfers buffer.length
        let state := { state with delivered := state.delivered ++ buffer.take result.1 }
        match result.2 with
        | none => (state, .ok ())
        | some status =>
            ({ state with ready := state.ready && decide (status = libusbErrorTimeout) },
              .error ("Red Panda CAN write failed: " ++ libusbErrorName status))

def writeMachine : CallMachine WriteState WriteCall (Except String Unit) where
  call
    | state, .connect outcome =>
        if state.ready then (state, .ok ())
        else
          (match outcome with
            | .ok () => { ready := true, handleOpen := true }
            | .error _ => {}, outcome)
    | _, .disconnect => ({}, .ok ())
    | state, .transferFails => ({ state with ready := false }, .ok ())
    | state, .send frames transfers => sendFrames libusbErrorName state frames transfers

end Calls

/-! ## Boundaries -/

/-- The bytes are complete packed frames. -/
def WholePackets (bytes : List UInt8) : Prop := ∃ frames, packFrames frames = .ok bytes

def packetsLength (frames : List BusFrame) : Nat :=
  (frames.map fun frame => canHeaderSize + frame.size.toNat).sum

/-- So many bytes end with a packet of these frames. -/
def AtBoundary (frames : List BusFrame) (count : Nat) : Prop :=
  ∃ whole, whole ≤ frames.length ∧ count = packetsLength (frames.take whole)

def written (transfers : Nat → WriteTransfer) : Nat → Nat
  | 0 => 0
  | count + 1 => (transfers 0).transferred.toNat + written (fun index => transfers (index + 1)) count

/-- The transfer of that index is made, and is the one that ends the loop over so many bytes. -/
structure LastTransfer (transfers : Nat → WriteTransfer) (total index : Nat) : Prop where
  earlier : ∀ other < index, (transfers other).stops = false
  reached : written transfers index < total
  stops : (transfers index).stops = true

/-- A transfer of a `send` on a connected device times out within a packet. -/
def TimesOutInPacket (state : WriteState) : WriteCall → Prop
  | .send frames transfers =>
      state.ready = true ∧ state.handleOpen = true ∧ (∃ buffer, packFrames frames = .ok buffer) ∧
        ∃ index, LastTransfer transfers (packetsLength frames) index ∧
          (transfers index).status = libusbErrorTimeout ∧
          ¬ AtBoundary frames (min (written transfers (index + 1)) (packetsLength frames))
  | _ => False

/-- A connected device has received complete packets only. -/
def BoundariesSurvive (state : WriteState) : Prop :=
  state.ready = true → WholePackets state.delivered

/-! ## The loop -/

theorem writeLoop_last {fuel : Nat} : ∀ {transfers : Nat → WriteTransfer} {total count : Nat}
    {status : Int}, writeLoop fuel transfers total = (count, some status) →
      ∃ index, LastTransfer transfers total index ∧ (transfers index).status = status ∧
        count = min (written transfers (index + 1)) total := by
  induction fuel with
  | zero => intro transfers total count status ended; cases ended
  | succ fuel ih =>
      intro transfers total count status ended
      unfold writeLoop at ended
      split at ended
      · cases ended
      · rename_i remaining
        dsimp only at ended
        split at ended
        · rename_i stops
          cases ended
          exact ⟨0, ⟨nofun, Nat.pos_of_ne_zero remaining, stops⟩, rfl, rfl⟩
        · rename_i goes
          rcases later : writeLoop fuel (fun index => transfers (index + 1))
            (total - min (transfers 0).transferred.toNat total) with ⟨more, ending⟩
          rw [later] at ended
          cases ended
          obtain ⟨index, last, isStatus, isCount⟩ := ih later
          refine ⟨index + 1, ⟨?_, ?_, last.stops⟩, isStatus, ?_⟩
          · intro other before
            cases other with
            | zero => simpa using goes
            | succ other => exact last.earlier other (by omega)
          · have reached := last.reached
            simp only [written]
            omega
          · rw [isCount]
            simp only [written]
            omega

theorem writeLoop_of_last {index : Nat} : ∀ {transfers : Nat → WriteTransfer} {total fuel : Nat},
    LastTransfer transfers total index → total ≤ fuel →
      writeLoop fuel transfers total =
        (min (written transfers (index + 1)) total, some (transfers index).status) := by
  induction index with
  | zero =>
      intro transfers total fuel last enough
      have positive : 0 < total := last.reached
      cases fuel with
      | zero => omega
      | succ fuel =>
          unfold writeLoop
          rw [if_neg (by omega)]
          simp only [last.stops, if_true, written, Nat.add_zero]
  | succ index ih =>
      intro transfers total fuel last enough
      have goes := last.earlier 0 (Nat.zero_lt_succ index)
      have positive : 0 < (transfers 0).transferred := by
        simp only [WriteTransfer.stops, Bool.or_eq_false_iff, decide_eq_false_iff_not] at goes
        omega
      have reached : (transfers 0).transferred.toNat +
          written (fun index => transfers (index + 1)) index < total := last.reached
      cases fuel with
      | zero => omega
      | succ fuel =>
          have later : LastTransfer (fun index => transfers (index + 1))
              (total - min (transfers 0).transferred.toNat total) index := by
            refine ⟨fun other before => last.earlier (other + 1) (by omega), ?_, last.stops⟩
            omega
          have fits : total - min (transfers 0).transferred.toNat total ≤ fuel := by omega
          unfold writeLoop
          rw [if_neg (by omega)]
          simp only [goes, Bool.false_eq_true, if_false, ih later fits, Prod.mk.injEq, and_true]
          show _ = min ((transfers 0).transferred.toNat +
            written (fun index => transfers (index + 1)) (index + 1)) total
          omega

theorem writeLoop_returned {fuel : Nat} : ∀ {transfers : Nat → WriteTransfer} {total count : Nat},
    total ≤ fuel → writeLoop fuel transfers total = (count, none) → count = total := by
  induction fuel with
  | zero =>
      intro transfers total count enough ended
      cases ended
      omega
  | succ fuel ih =>
      intro transfers total count enough ended
      unfold writeLoop at ended
      split at ended
      · cases ended
        omega
      · dsimp only at ended
        split at ended
        · cases ended
        · rename_i goes
          have positive : 0 < (transfers 0).transferred := by
            simp only [WriteTransfer.stops, Bool.or_eq_true, decide_eq_true_eq] at goes
            omega
          rcases later : writeLoop fuel (fun index => transfers (index + 1))
            (total - min (transfers 0).transferred.toNat total) with ⟨more, ending⟩
          rw [later] at ended
          cases ended
          have rest := ih (by omega) later
          omega

/-! ## Whole packets -/

section Packets
variable {frames : List BusFrame} {packets : List (List UInt8)} {buffer : List UInt8}

theorem packets_length (all : List.Forall₂ (fun frame packet => packFrame frame = .ok packet)
    frames packets) : packets.flatten.length = packetsLength frames := by
  induction all with
  | nil => rfl
  | cons first _ ih =>
      rw [List.flatten_cons, List.length_append, packet_length first, ih]
      rfl

theorem packetsLength_take_lt (frames : List BusFrame) : ∀ whole < frames.length,
    packetsLength (frames.take whole) < packetsLength frames := by
  induction frames with
  | nil => intro whole before; cases before
  | cons frame frames ih =>
      intro whole before
      cases whole with
      | zero =>
          simp only [packetsLength, canHeaderSize, List.take_zero, List.map_cons, List.sum_cons]
          exact Nat.lt_of_lt_of_le (by decide : 0 < 6) (by omega)
      | succ whole =>
          have later := ih whole (Nat.lt_of_succ_lt_succ before)
          simpa [packetsLength] using later

theorem packFrames_length (packed : packFrames frames = .ok buffer) :
    buffer.length = packetsLength frames := by
  obtain ⟨packets, all, rfl⟩ := packFrames_packets packed
  exact packets_length all

theorem WholePackets.append {first second : List UInt8} (left : WholePackets first)
    (right : WholePackets second) : WholePackets (first ++ second) := by
  obtain ⟨frames, packed⟩ := left
  obtain ⟨others, otherPacked⟩ := right
  obtain ⟨packets, all, rfl⟩ := packFrames_packets packed
  obtain ⟨otherPackets, otherAll, rfl⟩ := packFrames_packets otherPacked
  refine ⟨frames ++ others, ?_⟩
  rw [← List.flatten_append]
  exact packFrames_of_packets (List.rel_append all otherAll)

theorem take_boundary (packed : packFrames frames = .ok buffer) {count : Nat}
    (boundary : AtBoundary frames count) : WholePackets (buffer.take count) := by
  obtain ⟨packets, all, rfl⟩ := packFrames_packets packed
  obtain ⟨whole, _, rfl⟩ := boundary
  have first := List.forall₂_take whole all
  refine ⟨frames.take whole, ?_⟩
  have split : packets.flatten = (packets.take whole).flatten ++ (packets.drop whole).flatten := by
    rw [← List.flatten_append, List.take_append_drop]
  rw [packFrames_of_packets first, split, ← packets_length first, List.take_left]

theorem not_whole {delivered : List UInt8} (whole : WholePackets delivered)
    (packed : packFrames frames = .ok buffer) {count : Nat} (most : count ≤ buffer.length)
    (within : ¬ AtBoundary frames count) : ¬ WholePackets (delivered ++ buffer.take count) := by
  rintro ⟨others, otherPacked⟩
  obtain ⟨sent, sentPacked⟩ := whole
  obtain ⟨before, beforeAll, rfl⟩ := packFrames_packets sentPacked
  obtain ⟨packets, all, rfl⟩ := packFrames_packets packed
  obtain ⟨otherPackets, otherAll, joined⟩ := packFrames_packets otherPacked
  have starts : otherPackets.flatten <+: (before ++ packets).flatten := by
    rw [← joined, List.flatten_append]
    exact (List.prefix_append_right_inj before.flatten).mpr (List.take_prefix count packets.flatten)
  obtain ⟨parts, most, same⟩ := whole_of_cut scanPacket_waits 0
    (packets_encode (List.rel_append beforeAll all)) (packets_encode otherAll) starts
  rw [← joined, List.take_append, List.flatten_append] at same
  by_cases early : parts < before.length
  · have none : parts - before.length = 0 := by omega
    rw [none, List.take_zero, List.flatten_nil, List.append_nil] at same
    have shorter := packetsLength_take_lt sent parts
      (by rw [beforeAll.length_eq]; exact early)
    have counted := congrArg List.length same
    rw [List.length_append, packets_length beforeAll,
      packets_length (List.forall₂_take parts beforeAll)] at counted
    omega
  · have all' : before.take parts = before := List.take_of_length_le (by omega)
    rw [all'] at same
    have inside := List.append_cancel_left same
    have first := List.forall₂_take (parts - before.length) all
    have counted := congrArg List.length inside
    rw [packets_length first, List.length_take] at counted
    refine within ⟨parts - before.length, ?_, by omega⟩
    rw [List.length_append] at most
    rw [all.length_eq]
    omega

end Packets

section Machine
variable {libusbErrorName : Int → String} {state : WriteState}

/-- The transfers of a loop decide where a `send` times out. -/
theorem timesOut_iff {frames : List BusFrame} {transfers : Nat → WriteTransfer}
    {buffer : List UInt8} (isOpen : state.handleOpen = true)
    (packed : packFrames frames = .ok buffer) :
    TimesOutInPacket state (.send frames transfers) ↔ state.ready = true ∧
      (writeLoop buffer.length transfers buffer.length).2 = some libusbErrorTimeout ∧
      ¬ AtBoundary frames (writeLoop buffer.length transfers buffer.length).1 := by
  rw [packFrames_length packed]
  constructor
  · rintro ⟨ready, _, _, index, last, status, within⟩
    rw [writeLoop_of_last last (Nat.le_refl _)]
    exact ⟨ready, congrArg some status, within⟩
  · rcases ended : writeLoop (packetsLength frames) transfers (packetsLength frames) with ⟨count, ending⟩
    rintro ⟨ready, rfl, within⟩
    obtain ⟨index, last, isStatus, rfl⟩ := writeLoop_last ended
    exact ⟨ready, isOpen, ⟨buffer, packed⟩, index, last, isStatus, within⟩

theorem writeLoop_le (fuel : Nat) : ∀ (transfers : Nat → WriteTransfer) (total : Nat),
    (writeLoop fuel transfers total).1 ≤ total := by
  induction fuel with
  | zero => intro transfers total; exact Nat.zero_le _
  | succ fuel ih =>
      intro transfers total
      have later := ih (fun index => transfers (index + 1))
        (total - min (transfers 0).transferred.toNat total)
      unfold writeLoop
      split
      · exact Nat.zero_le _
      · dsimp only
        split
        · exact Nat.min_le_right _ _
        · dsimp only
          omega

theorem survives_send (survives : BoundariesSurvive state) (frames : List BusFrame)
    (transfers : Nat → WriteTransfer) :
    BoundariesSurvive (sendFrames libusbErrorName state frames transfers).1 ↔
      ¬ TimesOutInPacket state (.send frames transfers) := by
  unfold sendFrames
  split
  · rename_i closed
    refine ⟨fun _ late => ?_, fun _ => survives⟩
    rw [late.2.1] at closed
    cases closed
  rename_i isOpen
  have isOpen : state.handleOpen = true := by simpa using isOpen
  split
  · rename_i empty
    obtain rfl := List.isEmpty_iff.mp empty
    refine ⟨?_, fun _ => survives⟩
    rintro _ ⟨_, _, _, index, last, _⟩
    exact absurd last.reached (Nat.not_lt_zero _)
  split
  · rename_i what refused
    refine ⟨?_, fun _ => survives⟩
    rintro _ ⟨_, _, ⟨buffer, packed⟩, _⟩
    rw [refused] at packed
    cases packed
  rename_i buffer packed
  rw [timesOut_iff isOpen packed]
  have most := writeLoop_le buffer.length transfers buffer.length
  rcases ended : writeLoop buffer.length transfers buffer.length with ⟨count, ending⟩
  rw [ended] at most
  cases ending with
  | none =>
      refine ⟨fun _ late => absurd late.2.1 nofun, fun _ ready => ?_⟩
      obtain rfl := writeLoop_returned (Nat.le_refl _) ended
      show WholePackets (state.delivered ++ buffer.take buffer.length)
      rw [List.take_length]
      exact (survives ready).append ⟨frames, packed⟩
  | some status =>
      dsimp only
      constructor
      · rintro after ⟨ready, timeout, within⟩
        cases timeout
        refine not_whole (survives ready) packed most within (after ?_)
        rw [ready]
        rfl
      · intro inTime after
        obtain ⟨ready, timeout⟩ := Bool.and_eq_true_iff.mp after
        have isTimeout : status = libusbErrorTimeout := by simpa using timeout
        have boundary : AtBoundary frames count := by
          by_contra within
          exact inTime ⟨ready, congrArg some isTimeout, within⟩
        exact (survives ready).append (take_boundary packed boundary)

theorem survives_call (survives : BoundariesSurvive state) (call : WriteCall) :
    BoundariesSurvive ((writeMachine libusbErrorName).call state call).1 ↔
      ¬ TimesOutInPacket state call := by
  cases call with
  | connect outcome =>
      refine ⟨fun _ => id, fun _ => ?_⟩
      simp only [writeMachine]
      split
      · exact survives
      · cases outcome with
        | ok => exact fun _ => ⟨[], rfl⟩
        | error => exact nofun
  | disconnect => exact ⟨fun _ => id, fun _ => nofun⟩
  | transferFails => exact ⟨fun _ => id, fun _ => nofun⟩
  | send frames transfers => exact survives_send survives frames transfers

theorem survive_run_iff (calls : List WriteCall) : ∀ state : WriteState, BoundariesSurvive state →
    ((∀ first last, calls = first ++ last →
      BoundariesSurvive ((writeMachine libusbErrorName).run state first)) ↔
      (writeMachine libusbErrorName).Quiet TimesOutInPacket state calls) := by
  induction calls with
  | nil =>
      intro state survives
      refine ⟨fun _ => trivial, fun _ first last split => ?_⟩
      obtain ⟨rfl, rfl⟩ := List.append_eq_nil_iff.mp split.symm
      exact survives
  | cons call rest ih =>
      intro state survives
      have here := @survives_call libusbErrorName state survives call
      constructor
      · intro always
        have next := always [call] rest rfl
        refine ⟨here.mp next, (ih _ next).mp fun first last split => ?_⟩
        exact always (call :: first) last (congrArg (call :: ·) split)
      · rintro ⟨inTime, quiet⟩ first last split
        cases first with
        | nil => exact survives
        | cons head first =>
            obtain ⟨rfl, remaining⟩ := List.cons.inj split
            exact (ih _ (here.mpr inTime)).mpr quiet first last remaining

/-- In exactly the runs whose sends do not time out within a packet, whenever the device is
connected between two calls, whole packets have been delivered since `connect`. -/
theorem send_boundaries_iff (calls : List WriteCall) :
    (∀ first last, calls = first ++ last →
      BoundariesSurvive ((writeMachine libusbErrorName).run {} first)) ↔
      (writeMachine libusbErrorName).Quiet TimesOutInPacket {} calls :=
  survive_run_iff calls {} nofun

end Machine

/-- Three packets of 22 bytes, of which one USB packet is written before the timeout. -/
def timedOutSend : List WriteCall :=
  [.connect (.ok ()), .send [lfaFrame, lfaFrame, lfaFrame] fun _ =>
    { status := libusbErrorTimeout, transferred := 64 }]

theorem timeout_leaves_partial_packet :
    ¬ ∀ calls, BoundariesSurvive ((writeMachine fun _ => "").run {} calls) := by
  intro always
  have survives : BoundariesSurvive { ready := true, handleOpen := true } := fun _ => ⟨[], rfl⟩
  refine (@survives_send (fun _ => "") _ survives [lfaFrame, lfaFrame, lfaFrame] _).mp
    (always timedOutSend) ?_
  have packed : packFrames [lfaFrame, lfaFrame, lfaFrame] =
      .ok (lfaPacket ++ (lfaPacket ++ lfaPacket)) := by decide +kernel
  refine ⟨rfl, rfl, ⟨_, packed⟩, 0, ⟨nofun, by decide, rfl⟩, rfl, ?_⟩
  rintro ⟨whole, most, count⟩
  have counts : ∀ whole ≤ 3,
      packetsLength ([lfaFrame, lfaFrame, lfaFrame].take whole) ≠ 64 := by decide
  exact counts whole most count.symm

end Ioniq5Ecan
