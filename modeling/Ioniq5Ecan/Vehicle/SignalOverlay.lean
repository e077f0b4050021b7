import Ioniq5Ecan.Vehicle.SignalDecoder
import Mathlib.Data.List.Pairwise
import Mathlib.Data.List.Sort

/-! # The validation overlay

`apply_overlay` of `generate_ecan_signals.py` removes, corrects and adds signals
of `ecan_signals.json`.  A signal is a dictionary; the checks read its name, its
address and its layout.  `overlay_sound_iff`: what it returns is sound, but for
an added field that starts before the payload. -/
set_option autoImplicit false
namespace Ioniq5Ecan

/-- A signal of the list, or the description of one to add; the entries of the
list are distinct dictionaries. -/
structure EcanSignal (Value : Type) where
  name : String
  address : Int
  startBit : Int
  bits : Int
  endian : String
  /-- The keys that no check reads. -/
  other : String → Option Value

def bitPositions (startBit bits : Int) (endian : String) : List Int :=
  if endian == "little" then
    (List.range bits.toNat).map fun (index : Nat) => startBit + bits - 1 - index
  else
    ((List.range bits.toNat).foldl
      (fun (positions, position) _ =>
        (positions ++ [position], if position % 8 = 0 then position + 15 else position - 1))
      (([], startBit) : List Int × Int)).1

namespace EcanSignal
variable {Value : Type}

def positions (signal : EcanSignal Value) : List Int :=
  bitPositions signal.startBit signal.bits signal.endian

/-- `SIGNAL_KEYS` beside the name, the address and the layout. -/
def otherKeys : List String :=
  ["signed", "factor", "offset", "unit", "label_ko", "confidence_ko", "role", "enums"]

end EcanSignal

/-- One key of an entry of `modify`. -/
inductive Change (Value : Type)
  | name (value : String)
  | address (value : Int)
  | startBit (value : Int)
  | bits (value : Int)
  | endian (value : String)
  | other (key : String) (value : Value)

structure Overlay (Value : Type) where
  remove : List String
  modify : List (String × List (Change Value))
  add : List (EcanSignal Value)

/-! ## Names -/

/-- `text.split(mark)[0]`. -/
def splitFirst (mark : Char) (text : String) : String :=
  String.ofList (text.toList.takeWhile fun char => char != mark)

/-- `%03X`. -/
def percent03X (number : Int) : String :=
  let digits := (Nat.toDigits 16 number.natAbs).map Char.toUpper
  let sign := if number < 0 then ['-'] else []
  String.ofList (sign ++ List.replicate (3 - sign.length - digits.length) '0' ++ digits)

section Apply
variable {Value : Type}

/-- The index `by_name` holds for a name: the last signal of that name. -/
def byName (name : String) : List (EcanSignal Value) → Option Nat
  | [] => none
  | signal :: rest =>
      match byName name rest with
      | some index => some (index + 1)
      | none => if signal.name == name then some 0 else none

/-! ## Removals and modifications -/

def removeFields (signals : List (EcanSignal Value)) (remove : List String) :
    Option (List (EcanSignal Value)) :=
  if remove.all fun name => (byName name signals).isSome then
    some (signals.filter fun signal => !remove.contains signal.name)
  else none

/-- The signals as they are changed in place, and the new names put off. -/
abbrev Edited (Value : Type) : Type := List (EcanSignal Value) × List (Nat × String)

def applyChange (index : Nat) (edited : Edited Value) : Change Value → Edited Value
  | .name value => (edited.1, edited.2 ++ [(index, value)])
  | .address value =>
      (edited.1.modify index fun signal => { signal with address := value }, edited.2)
  | .startBit value =>
      (edited.1.modify index fun signal => { signal with startBit := value }, edited.2)
  | .bits value => (edited.1.modify index fun signal => { signal with bits := value }, edited.2)
  | .endian value => (edited.1.modify index fun signal => { signal with endian := value }, edited.2)
  | .other key value =>
      (edited.1.modify index fun signal =>
        { signal with other := fun k => if k == key then some value else signal.other k }, edited.2)

/-- `by_name` is made before the first modification. -/
def modifyFields (kept : List (EcanSignal Value)) :
    List (String × List (Change Value)) → Edited Value → Option (Edited Value)
  | [], edited => some edited
  | (name, changes) :: rest, edited =>
      match byName name kept with
      | none => none
      | some index => modifyFields kept rest (changes.foldl (applyChange index) edited)

/-- The `#index` suffix goes where one layout is left for the name. -/
def dropSuffixes (signals : List (EcanSignal Value)) : List (EcanSignal Value) :=
  let bases := signals.map fun signal => (signal.address, splitFirst '#' signal.name)
  signals.map fun signal =>
    let base := splitFirst '#' signal.name
    if signal.name.toList.contains '#' && bases.count (signal.address, base) == 1 then
      { signal with name := base }
    else signal

def renameFields (signals : List (EcanSignal Value)) (renamed : List (Nat × String)) :
    List (EcanSignal Value) :=
  renamed.foldl (fun signals (index, newFieldName) =>
    signals.modify index fun signal =>
      { signal with name := splitFirst '.' signal.name ++ "." ++ newFieldName }) signals

/-! ## Additions -/

def occupy (occupied : Int → List Int) (signal : EcanSignal Value) : Int → List Int :=
  fun address =>
    if address = signal.address then occupied address ++ signal.positions else occupied address

/-- The signal that a description of the overlay adds. -/
def EcanSignal.added (spec : EcanSignal Value) : EcanSignal Value :=
  { spec with
    name := "0x" ++ percent03X spec.address ++ "." ++ spec.name
    other := fun key => if EcanSignal.otherKeys.contains key then spec.other key else none }

/-- `payload_bytes.get(address, 8)`, in bits. -/
def payloadBits (payloadBytes : Int → Option Int) (address : Int) : Int :=
  (payloadBytes address).getD 8 * 8

/-- `none` is an exception: of `max` on no position, of the check, or of a missing key. -/
def addField (payloadBytes : Int → Option Int)
    (state : (Int → List Int) × List (EcanSignal Value)) (spec : EcanSignal Value) :
    Option ((Int → List Int) × List (EcanSignal Value)) :=
  match spec.positions.max? with
  | none => none
  | some last =>
      if payloadBits payloadBytes spec.address ≤ last ||
          spec.positions.any fun position => (state.1 spec.address).contains position then none
      else if EcanSignal.otherKeys.all fun key => (spec.other key).isSome then
        some (occupy state.1 spec, state.2 ++ [spec.added])
      else none

/-- `apply_overlay`; `none` is an exception. -/
def applyOverlay (signals : List (EcanSignal Value)) (overlay : Overlay Value)
    (payloadBytes : Int → Option Int) : Option (List (EcanSignal Value)) := do
  let kept ← removeFields signals overlay.remove
  let edited ← modifyFields kept overlay.modify (kept, [])
  let corrected := renameFields (dropSuffixes edited.1) edited.2
  let occupied := corrected.foldl occupy fun _ => []
  let (_, all) ← overlay.add.foldlM (addField payloadBytes) (occupied, corrected)
  if (all.map EcanSignal.name).Nodup then
    some (all.insertionSort fun first second =>
      first.address < second.address ∨
        first.address = second.address ∧ first.startBit ≤ second.startBit)
  else none

end Apply

/-! ## Positions -/

section Positions
variable {startBit bits : Int} {endian : String}

theorem bitPositions_eq (start count : Nat) (endian : String) :
    bitPositions start count endian =
      (Field.positionsOf (endian == "little") start count).map Int.ofNat := by
  -- The states of the two walks are written as pairs without a pattern.
  have walk (steps : List Nat) : ∀ (position : Nat) (before : List Nat),
      (steps.foldl (fun (state : List Int × Int) _ => (state.1 ++ [state.2],
        if state.2 % 8 = 0 then state.2 + 15 else state.2 - 1))
        (before.map Int.ofNat, (position : Int))).1 =
      ((steps.foldl (fun (state : List Nat × Nat) _ =>
        (state.1 ++ [state.2], nextDbcBit state.2)) (before, position)).1).map Int.ofNat := by
    induction steps with
    | nil => intro position before; rfl
    | cons step rest ih =>
        intro position before
        have next : (if (position : Int) % 8 = 0 then (position : Int) + 15 else position - 1) =
            (nextDbcBit position : Int) := by
          unfold nextDbcBit
          split <;> split <;> omega
        rw [List.foldl_cons, List.foldl_cons, ← ih, List.map_append]
        dsimp only
        rw [next]
        rfl
  unfold bitPositions Field.positionsOf
  rw [Int.toNat_natCast]
  cases endian == "little" with
  | false => exact walk _ start []
  | true =>
      simp only [if_true]
      apply List.ext_getElem
      · simp
      · intro index inside _
        simp at inside ⊢
        omega

theorem bitPositions_nonneg (inside : 0 ≤ startBit) :
    ∀ position ∈ bitPositions startBit bits endian, 0 ≤ position := by
  intro position member
  obtain ⟨start, rfl⟩ := Int.eq_ofNat_of_zero_le inside
  have whole : bitPositions start bits endian = bitPositions start (bits.toNat : Int) endian := by
    by_cases empty : bits ≤ 0
    · have none : bits.toNat = 0 := Int.toNat_of_nonpos empty
      unfold bitPositions
      rw [none]
      rfl
    · rw [Int.toNat_of_nonneg (by omega)]
  rw [whole, bitPositions_eq, List.mem_map] at member
  obtain ⟨bit, _, rfl⟩ := member
  exact Int.natCast_nonneg bit

theorem startBit_mem (some : bitPositions startBit bits endian ≠ []) :
    startBit ∈ bitPositions startBit bits endian := by
  have kept (steps : List Nat) : ∀ (position : Int) (before : List Int),
      before ⊆ (steps.foldl (fun (positions, position) _ =>
        (positions ++ [position], if position % 8 = 0 then position + 15 else position - 1))
        ((before, position) : List Int × Int)).1 := by
    induction steps with
    | nil => intro position before; exact List.Subset.refl _
    | cons step rest ih =>
        intro position before
        exact fun _ member => ih _ (before ++ [position]) (List.mem_append_left _ member)
  unfold bitPositions at some ⊢
  cases little : endian == "little" with
  | true =>
      simp only [little, if_true, ne_eq, List.map_eq_nil_iff, List.range_eq_nil] at some ⊢
      exact List.mem_map.mpr ⟨bits.toNat - 1, List.mem_range.mpr (by omega), by omega⟩
  | false =>
      simp only [little, Bool.false_eq_true, if_false] at some ⊢
      cases steps : List.range bits.toNat with
      | nil =>
          rw [steps] at some
          exact absurd rfl some
      | cons step rest => exact kept rest _ [startBit] (List.mem_singleton_self startBit)

end Positions

/-! ## Untouched fields -/

/-- The same dictionary, but that its name may have lost the `#index` suffix. -/
def EcanSignal.KeptFrom {Value : Type} (now before : EcanSignal Value) : Prop :=
  now = before ∨ now = { before with name := splitFirst '#' before.name }

section Untouched
variable {Value : Type} {kept edited : List (EcanSignal Value)} {touched : Nat → Prop}
  {same : EcanSignal Value → EcanSignal Value → Prop}

/-- Entry by entry the same, but for those that are touched. -/
def Follows (same : EcanSignal Value → EcanSignal Value → Prop) (touched : Nat → Prop)
    (kept edited : List (EcanSignal Value)) : Prop :=
  ∀ index signal, kept[index]? = some signal → ¬ touched index →
    ∃ now, edited[index]? = some now ∧ same now signal

theorem follows_modify (follows : Follows same touched kept edited) {index : Nat}
    (isTouched : touched index) (edit : EcanSignal Value → EcanSignal Value) :
    Follows same touched kept (edited.modify index edit) := by
  intro other signal here untouched
  obtain ⟨now, found, isSame⟩ := follows other signal here untouched
  have apart : index ≠ other := fun equal => untouched (equal ▸ isTouched)
  exact ⟨now, by rw [List.getElem?_modify_ne edit edited apart, found], isSame⟩

/-- While the modifications run: the other entries are as they were, and the names put off are not
theirs. -/
structure Modifying (touched : Nat → Prop) (kept : List (EcanSignal Value))
    (state : Edited Value) : Prop where
  follows : Follows Eq touched kept state.1
  named : ∀ entry ∈ state.2, touched entry.1

theorem modifying_applyChange {state : Edited Value} (modifying : Modifying touched kept state)
    {index : Nat} (isTouched : touched index) (change : Change Value) :
    Modifying touched kept (applyChange index state change) := by
  have edits (edit : EcanSignal Value → EcanSignal Value) :
      Modifying touched kept (state.1.modify index edit, state.2) :=
    ⟨follows_modify modifying.follows isTouched edit, modifying.named⟩
  cases change with
  | name value =>
      refine ⟨modifying.follows, fun entry member => ?_⟩
      rcases List.mem_append.mp member with before | here
      · exact modifying.named entry before
      · rw [List.mem_singleton.mp here]
        exact isTouched
  | address value => exact edits _
  | startBit value => exact edits _
  | bits value => exact edits _
  | endian value => exact edits _
  | other key value => exact edits _

theorem modifying_applyChanges {index : Nat} (isTouched : touched index)
    (changes : List (Change Value)) :
    ∀ state : Edited Value, Modifying touched kept state →
      Modifying touched kept (changes.foldl (applyChange index) state) := by
  induction changes with
  | nil => intro state modifying; exact modifying
  | cons change rest ih =>
      intro state modifying
      exact ih _ (modifying_applyChange modifying isTouched change)

/-- The modifications touch the entries that `by_name` holds for their names. -/
theorem modifying_modifyFields {names : List (EcanSignal Value)}
    (entries : List (String × List (Change Value))) :
    ∀ state final : Edited Value,
      (∀ entry ∈ entries, ∀ index, byName entry.1 names = some index → touched index) →
      Modifying touched kept state → modifyFields names entries state = some final →
        Modifying touched kept final := by
  induction entries with
  | nil =>
      intro state final _ modifying edits
      rw [modifyFields] at edits
      rw [← Option.some.inj edits]
      exact modifying
  | cons entry rest ih =>
      intro state final touches modifying edits
      rw [modifyFields] at edits
      cases named : byName entry.1 names with
      | none =>
          simp only [named] at edits
          cases edits
      | some index =>
          simp only [named] at edits
          have isTouched := touches entry (List.mem_cons_self ..) index named
          exact ih _ final (fun other member => touches other (List.mem_cons_of_mem _ member))
            (modifying_applyChanges isTouched entry.2 state modifying) edits

theorem follows_dropSuffixes (follows : Follows Eq touched kept edited) :
    Follows EcanSignal.KeptFrom touched kept (dropSuffixes edited) := by
  intro index signal here untouched
  obtain ⟨now, found, rfl⟩ := follows index signal here untouched
  unfold dropSuffixes
  dsimp only
  rw [List.getElem?_map, found, Option.map_some]
  refine ⟨_, rfl, ?_⟩
  split
  · exact .inr rfl
  · exact .inl rfl

theorem follows_renameFields (renamed : List (Nat × String)) :
    ∀ edited : List (EcanSignal Value), (∀ entry ∈ renamed, touched entry.1) →
      Follows same touched kept edited → Follows same touched kept (renameFields edited renamed) := by
  induction renamed with
  | nil => intro edited _ follows; exact follows
  | cons entry rest ih =>
      intro edited named follows
      obtain ⟨isTouched, others⟩ := List.forall_mem_cons.mp named
      exact ih _ others (follows_modify follows isTouched _)

theorem byName_some {name : String} (signals : List (EcanSignal Value)) :
    ∀ index, byName name signals = some index →
      ∃ signal, signals[index]? = some signal ∧ signal.name = name := by
  induction signals with
  | nil => intro index found; cases found
  | cons first rest ih =>
      intro index found
      rw [byName] at found
      cases later : byName name rest with
      | some place =>
          simp only [later] at found
          obtain rfl := Option.some.inj found
          exact ih place later
      | none =>
          simp only [later] at found
          by_cases here : (first.name == name) = true
          · rw [if_pos here] at found
            obtain rfl := Option.some.inj found
            exact ⟨first, rfl, beq_iff_eq.mp here⟩
          · rw [if_neg here] at found
            cases found

end Untouched

/-! ## Added fields -/

section Added
variable {Value : Type} {payloadBytes : Int → Option Int}

/-- Two signals of one address share no bit. -/
def Apart (first second : EcanSignal Value) : Prop :=
  first.address = second.address → ∀ position ∈ first.positions, position ∉ second.positions

theorem apart_symm : Std.Symm (@Apart Value) where
  symm _ _ apart same position inSecond inFirst := apart same.symm position inFirst inSecond

/-- The occupied bits hold those of every signal so far. -/
def Covers (occupied : Int → List Int) (signals : List (EcanSignal Value)) : Prop :=
  ∀ signal ∈ signals, ∀ position ∈ signal.positions, position ∈ occupied signal.address

theorem covers_occupy {occupied : Int → List Int} {signals : List (EcanSignal Value)}
    (covers : Covers occupied signals) (spec : EcanSignal Value) {added : EcanSignal Value}
    (address : added.address = spec.address) (positions : added.positions = spec.positions) :
    Covers (occupy occupied spec) (signals ++ [added]) := by
  intro signal member position inside
  unfold occupy
  rcases List.mem_append.mp member with before | here
  · have known := covers signal before position inside
    by_cases same : signal.address = spec.address
    · rw [if_pos same]
      exact List.mem_append_left _ known
    · rw [if_neg same]
      exact known
  · obtain rfl := List.mem_singleton.mp here
    rw [if_pos address]
    exact List.mem_append_right _ (positions ▸ inside)

theorem covers_all (signals : List (EcanSignal Value)) :
    ∀ (occupied : Int → List Int) (before : List (EcanSignal Value)), Covers occupied before →
      Covers (signals.foldl occupy occupied) (before ++ signals) := by
  induction signals with
  | nil => intro occupied before covers; rwa [List.append_nil]
  | cons signal rest ih =>
      intro occupied before covers
      rw [List.append_cons]
      exact ih _ _ (covers_occupy covers signal rfl rfl)

theorem addField_some {state after : (Int → List Int) × List (EcanSignal Value)}
    {spec : EcanSignal Value} (adds : addField payloadBytes state spec = some after) :
    after = (occupy state.1 spec, state.2 ++ [spec.added]) ∧ spec.positions ≠ [] ∧
      (∀ position ∈ spec.positions, position < payloadBits payloadBytes spec.address) ∧
      ∀ position ∈ spec.positions, position ∉ state.1 spec.address := by
  unfold addField at adds
  cases largest : spec.positions.max? with
  | none =>
      simp only [largest] at adds
      cases adds
  | some last =>
      simp only [largest] at adds
      by_cases refused : (decide (payloadBits payloadBytes spec.address ≤ last) ||
          spec.positions.any fun position => (state.1 spec.address).contains position) = true
      · rw [if_pos refused] at adds
        cases adds
      · rw [if_neg refused] at adds
        by_cases keys : (EcanSignal.otherKeys.all fun key => (spec.other key).isSome) = true
        · rw [if_pos keys] at adds
          simp only [Bool.or_eq_true, decide_eq_true_eq, List.any_eq_true, List.contains_iff_mem,
            not_or, not_exists, not_and] at refused
          obtain ⟨member, above⟩ := List.max?_eq_some_iff.mp largest
          refine ⟨(Option.some.inj adds).symm, List.ne_nil_of_mem member, ?_, refused.2⟩
          intro position inside
          have := above position inside
          omega
        · rw [if_neg keys] at adds
          cases adds

theorem addFields_some (specs : List (EcanSignal Value)) :
    ∀ (occupied : Int → List Int) (signals : List (EcanSignal Value))
      (final : (Int → List Int) × List (EcanSignal Value)), Covers occupied signals →
      specs.foldlM (addField payloadBytes) (occupied, signals) = some final →
        final.2 = signals ++ specs.map EcanSignal.added ∧
          (∀ spec ∈ specs, spec.positions ≠ [] ∧
            (∀ position ∈ spec.positions, position < payloadBits payloadBytes spec.address) ∧
            ∀ signal ∈ signals, Apart signal spec.added) ∧
          (specs.map EcanSignal.added).Pairwise Apart := by
  induction specs with
  | nil =>
      intro occupied signals final _ adds
      rw [List.foldlM_nil] at adds
      rw [← Option.some.inj adds]
      exact ⟨(List.append_nil _).symm, fun _ member => (by cases member), List.Pairwise.nil⟩
  | cons spec rest ih =>
      intro occupied signals final covers adds
      rw [List.foldlM_cons] at adds
      obtain ⟨after, first, adds⟩ := Option.bind_eq_some_iff.mp adds
      obtain ⟨rfl, some, below, free⟩ := addField_some first
      have covered := @covers_occupy Value occupied signals covers spec spec.added rfl rfl
      obtain ⟨all, checks, pairs⟩ := ih _ _ final covered adds
      have apart : ∀ signal ∈ signals, Apart signal spec.added := by
        intro signal member same position inSignal inSpec
        have known := covers signal member position inSignal
        rw [same] at known
        exact free position inSpec known
      refine ⟨by rw [all, List.append_assoc]; rfl, ?_, ?_⟩
      · intro other member
        rcases List.mem_cons.mp member with rfl | later
        · exact ⟨some, below, apart⟩
        · obtain ⟨otherSome, otherBelow, otherApart⟩ := checks other later
          exact ⟨otherSome, otherBelow, fun signal before =>
            otherApart signal (List.mem_append_left _ before)⟩
      · rw [List.map_cons, List.pairwise_cons]
        refine ⟨?_, pairs⟩
        intro later member
        obtain ⟨other, inRest, rfl⟩ := List.mem_map.mp member
        exact (checks other inRest).2.2 _
          (List.mem_append_right _ (List.mem_singleton_self spec.added))

end Added

/-! ## Soundness -/

section Sound
variable {Value : Type} {signals result : List (EcanSignal Value)} {overlay : Overlay Value}
  {payloadBytes : Int → Option Int}

structure OverlaySound (signals : List (EcanSignal Value)) (overlay : Overlay Value)
    (payloadBytes : Int → Option Int) (result : List (EcanSignal Value)) : Prop where
  names : (result.map EcanSignal.name).Nodup
  inside : ∀ spec ∈ overlay.add, ∀ position ∈ spec.positions,
    0 ≤ position ∧ position < payloadBits payloadBytes spec.address
  apart : ∀ spec ∈ overlay.add, spec.added ∈ result ∧
    ∀ other ∈ result, other.name ≠ spec.added.name → Apart other spec.added
  kept : ∀ signal ∈ signals, signal.name ∉ overlay.remove →
    (∀ entry ∈ overlay.modify, entry.1 ≠ signal.name) →
      ∃ returned ∈ result, returned.KeptFrom signal

theorem applyOverlay_stages (returns : applyOverlay signals overlay payloadBytes = some result) :
    ∃ (edited : Edited Value) (all : (Int → List Int) × List (EcanSignal Value)),
      modifyFields (signals.filter fun signal => !overlay.remove.contains signal.name)
        overlay.modify
        ((signals.filter fun signal => !overlay.remove.contains signal.name), []) = some edited ∧
      overlay.add.foldlM (addField payloadBytes)
        ((renameFields (dropSuffixes edited.1) edited.2).foldl occupy fun _ => [],
          renameFields (dropSuffixes edited.1) edited.2) = some all ∧
      (all.2.map EcanSignal.name).Nodup ∧ result.Perm all.2 := by
  unfold applyOverlay removeFields at returns
  by_cases known : (overlay.remove.all fun name => (byName name signals).isSome) = true
  · simp only [if_pos known, Option.bind_eq_bind, Option.bind_some] at returns
    obtain ⟨edited, edits, returns⟩ := Option.bind_eq_some_iff.mp returns
    obtain ⟨all, adds, returns⟩ := Option.bind_eq_some_iff.mp returns
    by_cases unique : (all.2.map EcanSignal.name).Nodup
    · simp only [if_pos unique] at returns
      refine ⟨edited, all, edits, adds, unique, ?_⟩
      rw [← Option.some.inj returns]
      exact List.perm_insertionSort ..
    · simp only [if_neg unique] at returns
      cases returns
  · simp only [if_neg known] at returns
    cases returns

theorem kept_followed {kept edited : List (EcanSignal Value)} {state : Edited Value}
    (edits : modifyFields kept overlay.modify (kept, []) = some state)
    (final : edited = renameFields (dropSuffixes state.1) state.2) {signal : EcanSignal Value}
    (member : signal ∈ kept) (untouched : ∀ entry ∈ overlay.modify, entry.1 ≠ signal.name) :
    ∃ returned ∈ edited, returned.KeptFrom signal := by
  obtain ⟨index, found⟩ := List.mem_iff_getElem?.mp member
  have start : Modifying (fun index => ∃ entry ∈ overlay.modify, byName entry.1 kept = some index)
      kept (kept, []) :=
    ⟨fun _ signal here _ => ⟨signal, here, rfl⟩, fun _ never => absurd never List.not_mem_nil⟩
  have modified := modifying_modifyFields overlay.modify (kept, []) state
    (fun entry inModify index named => ⟨entry, inModify, named⟩) start edits
  have follows := follows_renameFields state.2 _ modified.named (follows_dropSuffixes modified.follows)
  obtain ⟨now, here, same⟩ := follows index signal found fun ⟨entry, inModify, named⟩ => by
    obtain ⟨other, atIndex, name⟩ := byName_some kept index named
    rw [found] at atIndex
    obtain rfl := Option.some.inj atIndex
    exact untouched entry inModify name.symm
  rw [final]
  exact ⟨now, List.mem_of_getElem? here, same⟩

end Sound

/-- A field of at most one word inside the payload is one the host codec reads. -/
theorem added_signalFits {Value : Type} {spec : EcanSignal Value} {start count size : Nat}
    (startBit : spec.startBit = start) (bits : spec.bits = count) (positive : 0 < count)
    (word : count ≤ 64) (inside : ∀ position ∈ spec.positions, position < (size : Int) * 8) :
    SignalFits (if spec.endian == "little" then .littleEndian else .bigEndian) start count
      size := by
  refine ⟨positive, word, nodup_signalBits .., fun bit member => ?_⟩
  have position : (bit : Int) ∈ spec.positions := by
    unfold EcanSignal.positions
    rw [startBit, bits, bitPositions_eq, positionsOf_eq]
    exact List.mem_map_of_mem (List.mem_reverse.mpr member)
  have := inside bit position
  omega

/-- Where `apply_overlay` returns, the list is sound if and only if no added field starts before
its payload. -/
theorem overlay_sound_iff {Value : Type} (signals : List (EcanSignal Value))
    (overlay : Overlay Value) (payloadBytes : Int → Option Int)
    (result : List (EcanSignal Value))
    (returns : applyOverlay signals overlay payloadBytes = some result) :
    OverlaySound signals overlay payloadBytes result ↔ ∀ spec ∈ overlay.add, 0 ≤ spec.startBit := by
  obtain ⟨edited, all, edits, adds, unique, perm⟩ := applyOverlay_stages returns
  have covers := covers_all (renameFields (dropSuffixes edited.1) edited.2) (fun _ => []) []
    fun _ member => by cases member
  rw [List.nil_append] at covers
  obtain ⟨total, checks, pairs⟩ := addFields_some overlay.add _ _ all covers adds
  have members (signal : EcanSignal Value) : signal ∈ result ↔
      signal ∈ renameFields (dropSuffixes edited.1) edited.2 ∨
        signal ∈ overlay.add.map EcanSignal.added := by
    rw [perm.mem_iff, total, List.mem_append]
  constructor
  · intro sound spec member
    exact (sound.inside spec member _ (startBit_mem (checks spec member).1)).1
  · intro starts
    refine ⟨(perm.map EcanSignal.name).nodup_iff.mpr unique, ?_, ?_, ?_⟩
    · intro spec member position inside
      exact ⟨bitPositions_nonneg (starts spec member) position inside,
        (checks spec member).2.1 position inside⟩
    · intro spec member
      have added : spec.added ∈ overlay.add.map EcanSignal.added := List.mem_map_of_mem member
      refine ⟨(members _).mpr (.inr added), ?_⟩
      intro other inResult differs
      rcases (members other).mp inResult with before | addedToo
      · exact (checks spec member).2.2 other before
      · have symm := @apart_symm Value
        exact pairs.forall addedToo added fun same => differs (congrArg EcanSignal.name same)
    · intro signal member notRemoved notModified
      have kept : signal ∈ signals.filter fun signal => !overlay.remove.contains signal.name :=
        List.mem_filter.mpr ⟨member, by simpa using notRemoved⟩
      obtain ⟨returned, inEdited, same⟩ := kept_followed edits rfl kept notModified
      exact ⟨returned, (members returned).mpr (.inl inEdited), same⟩

/-- One field of eight bits to add, four of them before the payload. -/
def earlyField : EcanSignal Unit where
  name := "EARLY"
  address := 0x123
  startBit := -4
  bits := 8
  endian := "little"
  other _ := some ()

def earlyOverlay : Overlay Unit := { remove := [], modify := [], add := [earlyField] }

/-- A field before the payload is added as if it were inside. -/
theorem early_field_added :
    ¬ ∀ {Value : Type} (signals : List (EcanSignal Value)) (overlay : Overlay Value)
        (payloadBytes : Int → Option Int) (result : List (EcanSignal Value)),
        applyOverlay signals overlay payloadBytes = some result →
          OverlaySound signals overlay payloadBytes result := by
  intro sound
  have added := sound [] earlyOverlay (fun _ => none) [earlyField.added] rfl
  have inside := added.inside earlyField (List.mem_singleton_self earlyField) (-4) (by decide)
  exact absurd inside.1 (by decide)

def steeringField (name : String) (startBit bits : Int) : EcanSignal Unit where
  name := name
  address := 0x125
  startBit := startBit
  bits := bits
  endian := "little"
  other _ := some ()

/-- One of two alternatives removed, a field made narrower and renamed, and one added beside it. -/
def steeringOverlay : Overlay Unit where
  remove := ["0x125.STEERING_ANGLE#002"]
  modify := [("0x125.RATE", [.bits 4, .name "SPEED"])]
  add := [steeringField "FLAG" 44 2]

theorem steering_overlay_sound :
    OverlaySound [steeringField "0x125.STEERING_ANGLE#002" 24 16,
        steeringField "0x125.STEERING_ANGLE#004" 24 16, steeringField "0x125.RATE" 40 8]
      steeringOverlay (fun _ => some 16)
      [steeringField "0x125.STEERING_ANGLE" 24 16, steeringField "0x125.SPEED" 40 4,
        (steeringField "FLAG" 44 2).added] := by
  refine (overlay_sound_iff _ steeringOverlay _ _ rfl).mpr fun spec member => ?_
  rw [List.mem_singleton.mp member]
  decide

end Ioniq5Ecan
