/-
**Access units in RTP packets** (`mrd-transport-webrtc`).

An access unit in Annex-B form is its NAL units, each behind a start code. The assemblers of the codecs
have the same state and treat sequence numbers alike; what a payload does to the buffer is the codec's.

* `findAnnexBStartCode`, `annexBNalUnits` — the parser of the payloaders, and
  `annexBNalUnits_annexB`: **it reads back the NAL units** behind start codes of either length.
* `AccessUnitAssembler` — the state that the assemblers share, with `pushRtpPacket`, which drops what
  it holds when a sequence number is missing.
-/

import MiniRemoteDesktop.Lib.Word

namespace MiniRemoteDesktop.Rtp

abbrev Octets := List UInt8

/-! ### Start codes -/

def startCode : Octets := [0, 0, 0, 1]

def shortStartCode : Octets := [0, 0, 1]

/-- `find_annex_b_start_code` in what is left from the index on: where the start code is, and its
length. -/
def findAnnexBStartCode : Octets → Option (Nat × Nat)
  | [] => none
  | byte :: rest =>
    if startCode <+: byte :: rest then some (0, 4)
    else if shortStartCode <+: byte :: rest then some (0, 3)
    else (findAnnexBStartCode rest).map fun found => (found.1 + 1, found.2)

theorem findAnnexBStartCode_length {bytes : Octets} {found : Nat × Nat}
    (finds : findAnnexBStartCode bytes = some found) : 0 < found.2 ∧ found.1 + found.2 ≤ bytes.length := by
  induction bytes generalizing found with
  | nil => cases finds
  | cons byte rest ih =>
    unfold findAnnexBStartCode at finds
    split at finds
    next starts =>
      cases finds
      exact ⟨by decide, starts.length_le⟩
    · split at finds
      next starts =>
        cases finds
        exact ⟨by decide, starts.length_le⟩
      · obtain ⟨other, there, rfl⟩ := Option.map_eq_some_iff.mp finds
        obtain ⟨positive, bound⟩ := ih there
        refine ⟨positive, ?_⟩
        show other.1 + 1 + other.2 ≤ rest.length + 1
        omega

/-- `annex_b_nal_units`, of what is left from the offset on. -/
def annexBNalUnits (bytes : Octets) : List Octets :=
  match _finds : findAnnexBStartCode bytes with
  | none => []
  | some found =>
    let body := bytes.drop (found.1 + found.2)
    let next := ((findAnnexBStartCode body).map Prod.fst).getD body.length
    if 0 < next then body.take next :: annexBNalUnits (body.drop next)
    else annexBNalUnits (body.drop next)
termination_by bytes.length
decreasing_by
  all_goals
    have bounds := findAnnexBStartCode_length _finds
    rw [List.length_drop, List.length_drop]
    omega

/-- A NAL unit that a start code ends: it contains none, and no zero byte stands before the next. -/
structure Plain (nal : Octets) : Prop where
  nonempty : nal ≠ []
  noStartCode : ¬ shortStartCode <:+: nal
  noZero : nal.getLast nonempty ≠ 0

/-- The start code that is chosen for a NAL unit. -/
def chosenStartCode (short : Bool) : Octets := if short then shortStartCode else startCode

/-- **Annex-B form** with a start code of either length before each NAL unit. -/
def annexB (units : List (Bool × Octets)) : Octets :=
  units.flatMap fun unit => chosenStartCode unit.1 ++ unit.2

/-- What may follow a NAL unit: nothing, or the next start code. -/
inductive Boundary : Octets → Option (Nat × Nat) → Prop
  | atEnd : Boundary [] none
  | next (short : Bool) (back : Octets) :
      Boundary (chosenStartCode short ++ back) (some (0, (chosenStartCode short).length))

theorem Boundary.found {tail : Octets} {found : Option (Nat × Nat)} (boundary : Boundary tail found) :
    findAnnexBStartCode tail = found := by
  cases boundary with
  | atEnd => rfl
  | next short back => cases short <;> simp [findAnnexBStartCode, chosenStartCode, startCode, shortStartCode]

/-- No start code begins inside a NAL unit, whatever follows it. -/
theorem notStarted {byte : UInt8} {rest : Octets} (tail : Octets)
    (clean : ¬ shortStartCode <:+: byte :: rest)
    (noZero : (byte :: rest).getLast (List.cons_ne_nil byte rest) ≠ 0) :
    ¬ startCode <+: byte :: (rest ++ tail) ∧ ¬ shortStartCode <+: byte :: (rest ++ tail) := by
  unfold startCode shortStartCode at *
  constructor
  · intro starts
    -- how many bytes of the unit the start code takes
    rcases rest with _ | ⟨one, _ | ⟨two, _ | ⟨three, others⟩⟩⟩ <;>
      simp only [List.cons_append, List.cons_prefix_cons] at starts
    · exact noZero starts.1.symm
    · exact noZero starts.2.1.symm
    · exact noZero starts.2.2.1.symm
    · obtain ⟨_, rfl, rfl, rfl, _⟩ := starts
      exact clean ⟨[byte], others, rfl⟩
  · intro starts
    rcases rest with _ | ⟨one, _ | ⟨two, others⟩⟩ <;>
      simp only [List.cons_append, List.cons_prefix_cons] at starts
    · exact noZero starts.1.symm
    · exact noZero starts.2.1.symm
    · obtain ⟨rfl, rfl, rfl, _⟩ := starts
      exact clean ⟨[], others, rfl⟩

theorem findAnnexBStartCode_append {nal tail : Octets} {found : Option (Nat × Nat)}
    (clean : ¬ shortStartCode <:+: nal) (noZero : ∀ some : nal ≠ [], nal.getLast some ≠ 0)
    (boundary : Boundary tail found) :
    findAnnexBStartCode (nal ++ tail) = found.map fun place => (nal.length + place.1, place.2) := by
  induction nal with
  | nil =>
    rw [List.nil_append, boundary.found]
    cases found <;> simp
  | cons byte rest ih =>
    obtain ⟨long, short⟩ := notStarted tail clean (noZero (List.cons_ne_nil _ _))
    have later := ih (fun inside => clean (inside.trans (List.suffix_cons _ _).isInfix)) fun some => by
      rw [← List.getLast_cons some]
      exact noZero _
    rw [List.cons_append, findAnnexBStartCode, if_neg long, if_neg short, later]
    cases found with
    | none => rfl
    | some place =>
      simp only [Option.map_some, List.length_cons]
      congr 2
      omega

theorem boundary_annexB (units : List (Bool × Octets)) : ∃ found, Boundary (annexB units) found := by
  cases units with
  | nil => exact ⟨_, .atEnd⟩
  | cons unit rest =>
    have next := Boundary.next unit.1 (unit.2 ++ annexB rest)
    rw [← List.append_assoc] at next
    exact ⟨_, next⟩

/-- **The parser reads back the NAL units.** -/
theorem annexBNalUnits_annexB {units : List (Bool × Octets)} (plain : ∀ unit ∈ units, Plain unit.2) :
    annexBNalUnits (annexB units) = units.map Prod.snd := by
  induction units with
  | nil =>
    rw [annexB, List.flatMap_nil, annexBNalUnits]
    rfl
  | cons unit rest ih =>
    obtain ⟨short, nal⟩ := unit
    have sound := plain _ (.head _)
    have others := ih (List.forall_mem_cons.mp plain).2
    obtain ⟨found, boundary⟩ := boundary_annexB rest
    have written : annexB ((short, nal) :: rest) = chosenStartCode short ++ (nal ++ annexB rest) := by
      simp [annexB]
    have first := (Boundary.next short (nal ++ annexB rest)).found
    have second := findAnnexBStartCode_append sound.noStartCode (fun _ => sound.noZero) boundary
    have ends : ((findAnnexBStartCode (nal ++ annexB rest)).map Prod.fst).getD
        (nal ++ annexB rest).length = nal.length := by
      rw [second]
      generalize annexB rest = tail at boundary
      cases boundary with
      | atEnd => rw [Option.map_none, Option.map_none, Option.getD_none, List.append_nil]
      | next => rfl
    have positive : 0 < nal.length := List.length_pos_iff.mpr sound.nonempty
    rw [written, annexBNalUnits]
    split
    next missing =>
      simp [first] at missing
    next place finds =>
      rw [first] at finds
      cases finds
      dsimp only
      rw [Nat.zero_add, List.drop_left, ends, if_pos positive, List.take_left, List.drop_left, others]
      rfl

/-- The Annex-B form that the assemblers write. -/
def joined (nals : List Octets) : Octets := nals.flatMap fun nal => startCode ++ nal

theorem forall_byte {property : UInt8 → Prop} (all : ∀ value : Fin 256, property (UInt8.ofNat value.val))
    (byte : UInt8) : property byte := by
  have one := all ⟨byte.toNat, byte.toNat_lt⟩
  simpa using one

/-! ### Assemblers -/

/-- **What an assembler holds**: `fragmentationUnitActive` is `fua_active` of the H.264 one. -/
structure AccessUnitAssembler where
  annexBBuffer : Octets
  fragmentationUnitActive : Bool
  lastSequenceNumber : Option UInt16
  dropUntilMarker : Bool

namespace AccessUnitAssembler

/-- `Default`. -/
def fresh : AccessUnitAssembler where
  annexBBuffer := []
  fragmentationUnitActive := false
  lastSequenceNumber := none
  dropUntilMarker := false

def reset (assembler : AccessUnitAssembler) : AccessUnitAssembler :=
  { assembler with annexBBuffer := [], fragmentationUnitActive := false }

/-- The buffer with more bytes at its end. -/
def extend (assembler : AccessUnitAssembler) (bytes : Octets) : AccessUnitAssembler :=
  { assembler with annexBBuffer := assembler.annexBBuffer ++ bytes }

def hasIncompleteAccessUnit (assembler : AccessUnitAssembler) : Bool :=
  assembler.fragmentationUnitActive || !assembler.annexBBuffer.isEmpty

def takeAccessUnit (assembler : AccessUnitAssembler) : AccessUnitAssembler × Option Octets :=
  if assembler.annexBBuffer = [] then (assembler, none)
  else ({ assembler with annexBBuffer := [] }, some assembler.annexBBuffer)

def withLast (assembler : AccessUnitAssembler) (sequenceNumber : UInt16) : AccessUnitAssembler :=
  { assembler with lastSequenceNumber := some sequenceNumber }

/-- The sequence number is looked at first. -/
def received (assembler : AccessUnitAssembler) (sequenceNumber : UInt16) : AccessUnitAssembler :=
  match assembler.lastSequenceNumber with
  | none => assembler.withLast sequenceNumber
  | some previous =>
    if sequenceNumber ≠ previous + 1 ∧ assembler.hasIncompleteAccessUnit then
      { assembler.reset with dropUntilMarker := true }.withLast sequenceNumber
    else assembler.withLast sequenceNumber

/-- `push_rtp_packet`, which is the same for all codecs but for what it does with the payload. -/
def pushRtpPacket
    (pushRtpPayload : AccessUnitAssembler → Octets → Bool → AccessUnitAssembler × Option Octets)
    (assembler : AccessUnitAssembler) (payload : Octets) (marker : Bool) (sequenceNumber : UInt16) :
    AccessUnitAssembler × Option Octets :=
  let assembler := assembler.received sequenceNumber
  if assembler.dropUntilMarker then
    if marker then ({ assembler with dropUntilMarker := false }, none) else (assembler, none)
  else pushRtpPayload assembler payload marker

end AccessUnitAssembler

end MiniRemoteDesktop.Rtp
