import Mathlib.Data.List.Forall2

/-! # Self-delimiting packets in a byte stream

A scanner looks at the front of a buffer and finds a packet, or that it has to
wait for more bytes.  `drain` takes every complete packet off the buffer; fed
any cutting of a stream of packets it returns their contents in order, and
keeps exactly the bytes that belong to no complete packet. -/
set_option autoImplicit false
namespace Ioniq5Ecan.Library

section Framing
variable {Byte Value View Error Stamp : Type}

inductive Scan (Value Error : Type)
  | incomplete
  | packet (value : Value) (size : Nat)
  | failed (error : Error)

/-- Takes packets off the buffer; the fuel only has to reach its length. -/
def drain (scan : Nat → List Byte → Scan Value Error) :
    Nat → Nat → List Byte → Except Error (List Value × List Byte)
  | 0, _, bytes => .ok ([], bytes)
  | fuel + 1, position, bytes =>
      match scan position bytes with
      | .incomplete => .ok ([], bytes)
      | .failed error => .error error
      | .packet value size =>
          match drain scan fuel (position + size) (bytes.drop size) with
          | .error error => .error error
          | .ok (values, rest) => .ok (value :: values, rest)

/-- At every time and place the scanner finds the content where the packet is complete, and
waits where it is cut. -/
structure Encodes (scan : Stamp → Nat → List Byte → Scan Value Error) (view : Value → View)
    (packet : List Byte) (content : View) : Prop where
  nonempty : 0 < packet.length
  complete : ∀ stamp position rest, ∃ value,
    scan stamp position (packet ++ rest) = .packet value packet.length ∧ view value = content
  cut : ∀ stamp position bytes, bytes <+: packet → bytes.length < packet.length →
    scan stamp position bytes = .incomplete

structure Undecoded (packets : List (List Byte)) (count : Nat) (rest : List Byte) : Prop where
  starts : rest <+: (packets.drop count).flatten
  short : ∀ next ∈ (packets.drop count).head?, rest.length < next.length

variable {scan : Stamp → Nat → List Byte → Scan Value Error} {view : Value → View}

theorem cut_or_complete {bytes packet : List Byte} {packets : List (List Byte)}
    (starts : bytes <+: packet ++ packets.flatten) :
    bytes <+: packet ∧ bytes.length < packet.length ∨
      ∃ rest, bytes = packet ++ rest ∧ rest <+: packets.flatten := by
  by_cases short : bytes.length < packet.length
  · exact Or.inl ⟨List.prefix_of_prefix_length_le starts (List.prefix_append ..)
      (Nat.le_of_lt short), short⟩
  · right
    obtain ⟨rest, rfl⟩ := List.prefix_of_prefix_length_le (List.prefix_append packet packets.flatten)
      starts (Nat.le_of_not_lt short)
    exact ⟨rest, rfl, (List.prefix_append_right_inj packet).mp starts⟩

theorem drain_starts (waits : ∀ stamp position, scan stamp position [] = .incomplete)
    (stamp : Stamp) (packets : List (List Byte)) :
    ∀ (contents : List View) (fuel position : Nat) (bytes : List Byte),
      List.Forall₂ (Encodes scan view) packets contents → bytes <+: packets.flatten →
      bytes.length ≤ fuel →
      ∃ values rest count, drain (scan stamp) fuel position bytes = .ok (values, rest) ∧
        values.map view = contents.take count ∧ bytes = (packets.take count).flatten ++ rest ∧
        count ≤ packets.length ∧ Undecoded packets count rest := by
  induction packets with
  | nil =>
      intro contents fuel position bytes _ starts _
      obtain rfl := List.prefix_nil.mp starts
      refine ⟨[], [], 0, ?_, rfl, rfl, Nat.le_refl _, ⟨List.nil_prefix, nofun⟩⟩
      cases fuel with
      | zero => rfl
      | succ fuel => simp only [drain, waits]
  | cons packet packets ih =>
      intro contents fuel position bytes encodes starts enough
      obtain ⟨content, contents, encoded, others, rfl⟩ := List.forall₂_cons_left_iff.mp encodes
      rcases cut_or_complete starts with ⟨within, short⟩ | ⟨rest, rfl, left⟩
      · refine ⟨[], bytes, 0, ?_, rfl, rfl, Nat.zero_le _, ⟨starts, ?_⟩⟩
        · cases fuel with
          | zero => rfl
          | succ fuel => simp only [drain, encoded.cut stamp position bytes within short]
        · intro next isNext
          cases isNext
          exact short
      · have positive := encoded.nonempty
        rw [List.length_append] at enough
        cases fuel with
        | zero => omega
        | succ fuel =>
            obtain ⟨value, scanned, content⟩ := encoded.complete stamp position rest
            obtain ⟨values, undecoded, count, drained, viewed, split, most, remaining⟩ :=
              ih contents fuel (position + packet.length) rest others left (by omega)
            refine ⟨value :: values, undecoded, count + 1, ?_, ?_, ?_, ?_, ?_⟩
            · simp only [drain, scanned, List.drop_left, drained]
            · simp only [List.map_cons, List.take_succ_cons, content, viewed]
            · simp only [List.take_succ_cons, List.flatten_cons, List.append_assoc, ← split]
            · exact Nat.succ_le_succ most
            · exact ⟨remaining.starts, remaining.short⟩

theorem Undecoded.whole {packets : List (List Byte)} {count : Nat} {rest : List Byte}
    (undecoded : Undecoded packets count rest) (most : count ≤ packets.length)
    (all : packets.flatten = (packets.take count).flatten ++ rest) :
    count = packets.length ∧ rest = [] := by
  have left : rest = (packets.drop count).flatten := by
    refine @List.append_cancel_left _ (packets.take count).flatten _ _ ?_
    rw [← all, ← List.flatten_append, List.take_append_drop]
  cases remaining : packets.drop count with
  | nil =>
      rw [remaining] at left
      have none := List.drop_eq_nil_iff.mp remaining
      exact ⟨by omega, left⟩
  | cons next others =>
      have short := undecoded.short next (by rw [remaining]; rfl)
      rw [left, remaining, List.flatten_cons, List.length_append] at short
      omega

theorem whole_of_cut (waits : ∀ stamp position, scan stamp position [] = .incomplete) (stamp : Stamp)
    {packets others : List (List Byte)} {contents otherContents : List View}
    (encodes : List.Forall₂ (Encodes scan view) packets contents)
    (otherEncodes : List.Forall₂ (Encodes scan view) others otherContents)
    (starts : others.flatten <+: packets.flatten) :
    ∃ count, count ≤ packets.length ∧ others.flatten = (packets.take count).flatten := by
  obtain ⟨_, rest, count, drained, _, split, most, _⟩ :=
    drain_starts waits stamp packets contents _ 0 others.flatten encodes starts (Nat.le_refl _)
  obtain ⟨_, left, otherCount, otherDrained, _, otherSplit, otherMost, undecoded⟩ :=
    drain_starts waits stamp others otherContents _ 0 others.flatten otherEncodes
      List.prefix_rfl (Nat.le_refl _)
  obtain ⟨_, rfl⟩ := undecoded.whole otherMost otherSplit
  rw [drained] at otherDrained
  obtain ⟨_, rfl⟩ := Prod.mk.inj (Except.ok.inj otherDrained)
  exact ⟨count, most, by simpa using split⟩

/-- The buffers a decoder is fed: each is drained together with what the last one left. -/
def feed (scan : Stamp → Nat → List Byte → Scan Value Error) :
    List Byte → List (Stamp × List Byte) → Except Error (List Value × List Byte)
  | carry, [] => .ok ([], carry)
  | carry, (stamp, chunk) :: chunks =>
      match drain (scan stamp) (carry ++ chunk).length 0 (carry ++ chunk) with
      | .error error => .error error
      | .ok (values, rest) =>
          match feed scan rest chunks with
          | .error error => .error error
          | .ok (more, last) => .ok (values ++ more, last)

/-- The stream rule: however a stream of packets is cut, feeding the pieces gives the contents of
the complete packets in order and keeps the bytes of the cut one. -/
theorem feed_starts (waits : ∀ stamp position, scan stamp position [] = .incomplete)
    (chunks : List (Stamp × List Byte)) :
    ∀ (packets : List (List Byte)) (contents : List View) (carry : List Byte),
      List.Forall₂ (Encodes scan view) packets contents → Undecoded packets 0 carry →
      carry ++ (chunks.map Prod.snd).flatten <+: packets.flatten →
      ∃ values rest count, feed scan carry chunks = .ok (values, rest) ∧
        values.map view = contents.take count ∧
        carry ++ (chunks.map Prod.snd).flatten = (packets.take count).flatten ++ rest ∧
        count ≤ packets.length ∧ Undecoded packets count rest := by
  induction chunks with
  | nil =>
      intro packets contents carry _ undecoded _
      exact ⟨[], carry, 0, rfl, rfl, by simp, Nat.zero_le _, undecoded⟩
  | cons chunk chunks ih =>
      intro packets contents carry encodes undecoded starts
      obtain ⟨stamp, bytes⟩ := chunk
      have first : carry ++ bytes <+: packets.flatten := by
        refine List.IsPrefix.trans ?_ starts
        simp only [List.map_cons, List.flatten_cons, ← List.append_assoc]
        exact List.prefix_append ..
      obtain ⟨values, rest, count, drained, viewed, split, most, remaining⟩ :=
        drain_starts waits stamp packets contents (carry ++ bytes).length 0 (carry ++ bytes) encodes
          first (Nat.le_refl _)
      have whole : packets.flatten = (packets.take count).flatten ++ (packets.drop count).flatten := by
        rw [← List.flatten_append, List.take_append_drop]
      have later : rest ++ (chunks.map Prod.snd).flatten <+: (packets.drop count).flatten := by
        refine (List.prefix_append_right_inj (packets.take count).flatten).mp ?_
        rw [← whole, ← List.append_assoc, ← split]
        simpa only [List.map_cons, List.flatten_cons, List.append_assoc] using starts
      obtain ⟨more, last, further, fed, moreViewed, moreSplit, moreMost, left⟩ :=
        ih (packets.drop count) (contents.drop count) rest (List.forall₂_drop count encodes)
          ⟨by simpa using remaining.starts, by simpa using remaining.short⟩ later
      rw [List.length_drop] at moreMost
      refine ⟨values ++ more, last, count + further, ?_, ?_, ?_, by omega, ?_⟩
      · simp only [feed, drained, fed]
      · rw [List.map_append, viewed, moreViewed, List.take_add]
      · rw [List.take_add, List.flatten_append, List.append_assoc, ← moreSplit]
        simp only [List.map_cons, List.flatten_cons, ← List.append_assoc, split]
      · refine ⟨?_, ?_⟩
        · simpa only [List.drop_drop] using left.starts
        · simpa only [List.drop_drop] using left.short

end Framing
end Ioniq5Ecan.Library
