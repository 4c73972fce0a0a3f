/-
**H.264 access units over a lossy link** (`mrd-transport-webrtc`).

The sender packs NAL units as RFC 6184 has it for packetization mode 1: alone, several in a STAP-A, or
one cut into FU-A fragments; the last packet of an access unit has the marker. Packets may be lost. The
assembler takes a missing sequence number for damage only while it holds something, and so it does not
see that the head of an access unit is missing.

* `H264.pushRtpPayload` — the assembler, as the source has it.
* `BeheadedTail.head_lost` — what is taken for an access unit is the tail of one whose first packet was lost.
* `intact_iff` — **the run is intact just when each beheaded tail happens to be an access unit that
  was sent**.
-/

import MiniRemoteDesktop.Rtp.Assembler

namespace MiniRemoteDesktop.Rtp

open List (append_assoc append_nil cons_append cons_ne_nil flatMap_cons length_append length_cons
  map_append map_cons mem_append mem_append_right mem_cons mem_singleton nil_append reverseRecOn)
open Nat (zero_le)
open AccessUnitAssembler

namespace H264

/-! ### The assembler -/

section
variable (maxAccessUnitBytes : Nat)

/-- Lengths of buffers that are held at once do not reach the end of `usize`. -/
def wouldExceedLimit (assembler : AccessUnitAssembler) (additional : Nat) : Bool :=
  maxAccessUnitBytes < assembler.annexBBuffer.length + additional

def rejectOversizedAccessUnit (assembler : AccessUnitAssembler) (marker : Bool) : AccessUnitAssembler :=
  { assembler.reset with dropUntilMarker := !marker }

/-- `none` where the limit is exceeded. -/
def appendNal (assembler : AccessUnitAssembler) (nal : Octets) : Option AccessUnitAssembler :=
  if wouldExceedLimit maxAccessUnitBytes assembler (4 + nal.length) then none
  else some (assembler.extend (startCode ++ nal))

/-- Why a STAP-A packet is not taken. -/
inductive Rejection
  | malformed
  | oversized

/-- The loop of `push_stap_a`. -/
def aggregated (assembler : AccessUnitAssembler) (rest : Octets) : Except Rejection AccessUnitAssembler :=
  match rest with
  | high :: low :: body =>
    let nalLen := high.toNat * 256 + low.toNat
    if body.length < nalLen then .error .malformed
    else
      match appendNal maxAccessUnitBytes assembler (body.take nalLen) with
      | none => .error .oversized
      | some assembler => aggregated assembler (body.drop nalLen)
  | _ => .ok assembler
termination_by rest.length
decreasing_by
  rw [List.length_drop]
  simp only [length_cons]
  omega

def pushStapA (assembler : AccessUnitAssembler) (payload : Octets) (marker : Bool) :
    AccessUnitAssembler × Option Octets :=
  if payload.length < 3 then (assembler.reset, none)
  else
    match aggregated maxAccessUnitBytes assembler (payload.drop 1) with
    | .error .malformed => (assembler.reset, none)
    | .error .oversized => (rejectOversizedAccessUnit assembler marker, none)
    | .ok assembler => if marker then assembler.takeAccessUnit else (assembler, none)

/-- The end of `push_fua`: a marker cannot repair a truncated NAL unit. -/
def closeFua (assembler : AccessUnitAssembler) (ends marker : Bool) :
    AccessUnitAssembler × Option Octets :=
  if marker && !ends then (assembler.reset, none)
  else
    let assembler := if ends then { assembler with fragmentationUnitActive := false } else assembler
    if marker then assembler.takeAccessUnit else (assembler, none)

def pushFua (assembler : AccessUnitAssembler) (payload : Octets) (marker : Bool) :
    AccessUnitAssembler × Option Octets :=
  match payload with
  | fuIndicator :: fuHeader :: piece =>
    let starts := fuHeader &&& 0x80 != 0
    let ends := fuHeader &&& 0x40 != 0
    let reconstructedNal := (fuIndicator &&& 0xe0) ||| (fuHeader &&& 0x1f)
    if starts then
      let assembler := if assembler.fragmentationUnitActive then assembler.reset else assembler
      if wouldExceedLimit maxAccessUnitBytes assembler (5 + piece.length) then
        (rejectOversizedAccessUnit assembler marker, none)
      else
        closeFua { assembler.extend (startCode ++ reconstructedNal :: piece) with
          fragmentationUnitActive := true } ends marker
    else if assembler.fragmentationUnitActive then
      if wouldExceedLimit maxAccessUnitBytes assembler piece.length then
        (rejectOversizedAccessUnit assembler marker, none)
      else closeFua (assembler.extend piece) ends marker
    else (assembler.reset, none)
  | _ => (assembler.reset, none)

def pushRtpPayload (assembler : AccessUnitAssembler) (payload : Octets) (marker : Bool) :
    AccessUnitAssembler × Option Octets :=
  if assembler.dropUntilMarker then
    if marker then ({ assembler with dropUntilMarker := false }, none) else (assembler, none)
  else
    match payload with
    | [] => (assembler, none)
    | first :: _ =>
      let nalType := first &&& 0x1f
      if 1 ≤ nalType ∧ nalType ≤ 23 then
        match appendNal maxAccessUnitBytes assembler payload with
        | none => (rejectOversizedAccessUnit assembler marker, none)
        | some assembler => if marker then assembler.takeAccessUnit else (assembler, none)
      else if nalType = 24 then pushStapA maxAccessUnitBytes assembler payload marker
      else if nalType = 28 then pushFua maxAccessUnitBytes assembler payload marker
      else if marker then (assembler.reset, none)
      else (assembler, none)

def pushRtpPacket : AccessUnitAssembler → Octets → Bool → UInt16 → AccessUnitAssembler × Option Octets :=
  AccessUnitAssembler.pushRtpPacket (pushRtpPayload maxAccessUnitBytes)

end

/-! ### What is sent -/

/-- The payload of a packet; `header` is the first byte of the NAL unit that is cut. -/
inductive Payload
  | single (nal : Octets)
  | stapA (indicator : UInt8) (nals : List Octets)
  | fuA (header : UInt8) (start last : Bool) (piece : Octets)

def lengthPrefixed (nal : Octets) : Octets := Bytes.bigEndian (UInt16.ofNat nal.length) ++ nal

def fuHeader (header : UInt8) (start last : Bool) : UInt8 :=
  (if start then 0x80 else 0) ||| (if last then 0x40 else 0) ||| (header &&& 0x1f)

/-- The bytes of a payload. -/
def Payload.bytes : Payload → Octets
  | single nal => nal
  | stapA indicator nals => indicator :: nals.flatMap lengthPrefixed
  | fuA header start last piece => ((header &&& 0xe0) ||| 28) :: fuHeader header start last :: piece

/-- A NAL unit of a type that RFC 6184 leaves to H.264. -/
def ProperNal : Octets → Prop
  | [] => False
  | header :: _ => 1 ≤ header &&& 0x1f ∧ header &&& 0x1f ≤ 23

/-- **A group of packets**: one or more whole NAL units in a packet, or one NAL unit in several. -/
inductive Part
  | single (nal : Octets)
  | stapA (indicator : UInt8) (nals : List Octets)
  | fragmented (header : UInt8) (first : Octets) (middle : List Octets) (last : Octets)

def Part.nals : Part → List Octets
  | single nal => [nal]
  | stapA _ nals => nals
  | fragmented header first middle last => [header :: (first ++ (middle.flatten ++ last))]

def Part.payloads : Part → List Payload
  | single nal => [.single nal]
  | stapA indicator nals => [.stapA indicator nals]
  | fragmented header first middle last =>
    .fuA header true false first ::
      (middle.map (Payload.fuA header false false) ++ [.fuA header false true last])

/-- As RFC 6184 allows. -/
def Part.Proper : Part → Prop
  | single nal => ProperNal nal
  | stapA indicator nals => indicator &&& 0x1f = 24 ∧ nals ≠ [] ∧
      ∀ nal ∈ nals, ProperNal nal ∧ nal.length < 65536
  | fragmented header _ _ _ => 1 ≤ header &&& 0x1f ∧ header &&& 0x1f ≤ 23

/-- **An access unit** and how it is packed. -/
structure AccessUnit where
  parts : List Part
  nonempty : parts ≠ []
  proper : ∀ part ∈ parts, part.Proper

def AccessUnit.nals (unit : AccessUnit) : List Octets := unit.parts.flatMap Part.nals

def AccessUnit.payloads (unit : AccessUnit) : List Payload := unit.parts.flatMap Part.payloads

/-- The Annex-B form of an access unit. -/
def AccessUnit.annexB (unit : AccessUnit) : Octets := joined unit.nals

/-! ### The run -/

/-- A packet on its way: the marker is on the last one of its access unit. -/
structure Packet where
  payload : Payload
  (marker delivered : Bool)

def packets : List Payload → List Bool → List Packet
  | payload :: rest, delivered :: flags => ⟨payload, rest.isEmpty, delivered⟩ :: packets rest flags
  | _, _ => []

/-- An access unit that is sent, with what becomes of each packet. -/
structure Transmission where
  unit : AccessUnit
  delivered : List Bool
  each : delivered.length = unit.payloads.length

def Transmission.packets (transmission : Transmission) : List Packet :=
  H264.packets transmission.unit.payloads transmission.delivered

/-- The receiver, the sequence number of the next packet, and how many packets were lost since the
last one that was delivered. -/
structure Link where
  assembler : AccessUnitAssembler
  next : UInt16
  lost : Nat

def Link.start (base : UInt16) : Link := ⟨fresh, base, 0⟩

section
variable (maxAccessUnitBytes : Nat)

/-- One packet, with what the receiver answers. -/
def transmit (link : Link) (packet : Packet) : Link × Option Octets :=
  if packet.delivered then
    let pushed := pushRtpPacket maxAccessUnitBytes link.assembler packet.payload.bytes packet.marker
      link.next
    (⟨pushed.1, link.next + 1, 0⟩, pushed.2)
  else (⟨link.assembler, link.next + 1, link.lost + 1⟩, none)

/-- The link after some packets. -/
def after (link : Link) (sent : List Packet) : Link :=
  sent.foldl (fun link packet => (transmit maxAccessUnitBytes link packet).1) link

/-- What the receiver answers to some packets. -/
def answers : Link → List Packet → List (Option Octets)
  | _, [] => []
  | link, packet :: rest =>
    (transmit maxAccessUnitBytes link packet).2 ::
      answers (transmit maxAccessUnitBytes link packet).1 rest

end

def stream (transmissions : List Transmission) : List Packet := transmissions.flatMap Transmission.packets

/-- Fewer than 65535 packets are lost one after the other. -/
def FewLost (sent : List Packet) : Prop :=
  ¬ List.replicate 65535 false <:+: sent.map Packet.delivered

/-- **No torn picture**: every access unit that is returned was sent. -/
def Intact (maxAccessUnitBytes : Nat) (base : UInt16) (transmissions : List Transmission) : Prop :=
  ∀ bytes, some bytes ∈ answers maxAccessUnitBytes (Link.start base) (stream transmissions) →
    ∃ transmission ∈ transmissions, bytes = transmission.unit.annexB

/-! ### The order of payloads -/

/-- Whether a NAL unit is open after a payload, where the payload is in its place. -/
def Payload.follows (opened : Bool) : Payload → Option Bool
  | single _ | stapA _ _ => if opened then none else some false
  | fuA _ start last _ => if start = opened then none else some !last

/-- A payload that begins a NAL unit. -/
def Payload.Begins : Payload → Prop
  | single _ | stapA _ _ => True
  | fuA _ start _ _ => start = true

def walk (opened : Bool) : List Payload → Option Bool
  | [] => some opened
  | payload :: rest => (payload.follows opened).bind fun next => walk next rest

theorem walk_append (opened : Bool) (front back : List Payload) :
    walk opened (front ++ back) = (walk opened front).bind fun next => walk next back := by
  induction front generalizing opened with
  | nil => rfl
  | cons payload rest ih =>
    simpa [walk, Option.bind_assoc] using congrArg _ (funext fun next => ih next)

variable (part : Part) (unit : AccessUnit)

theorem Part.walk : walk false part.payloads = some false := by
  cases part with
  | single | stapA => rfl
  | fragmented header first middle last =>
    show H264.walk true (_ ++ _) = _
    rw [walk_append]
    have stays : H264.walk true (middle.map (Payload.fuA header false false)) = some true := by
      induction middle with
      | nil => rfl
      | cons piece rest ih => exact ih
    rw [stays]
    rfl

theorem AccessUnit.walk : walk false unit.payloads = some false := by
  unfold AccessUnit.payloads
  induction unit.parts with
  | nil => rfl
  | cons part rest ih =>
    simp [walk_append, part.walk, ih]

/-! ### What a payload writes -/

/-- The bytes that a payload adds to the buffer. -/
def Payload.written : Payload → Octets
  | single nal => startCode ++ nal
  | stapA _ nals => joined nals
  | fuA header start _ piece => (if start then startCode ++ [header] else []) ++ piece

def written (payloads : List Payload) : Octets := payloads.flatMap Payload.written

theorem written_append (front back : List Payload) :
    written (front ++ back) = written front ++ written back := List.flatMap_append

theorem joined_append (front back : List Octets) :
    joined (front ++ back) = joined front ++ joined back := List.flatMap_append

theorem Part.written : written part.payloads = joined part.nals := by
  cases part with
  | single nal => rfl
  | stapA indicator nals => exact append_nil _
  | fragmented header first middle last =>
    have pieces : H264.written (middle.map (Payload.fuA header false false)) = middle.flatten := by
      induction middle with
      | nil => rfl
      | cons piece rest ih =>
        rw [map_cons, H264.written, flatMap_cons, List.flatten_cons]
        exact congrArg _ ih
    show startCode ++ [header] ++ first ++ H264.written (_ ++ _) = _
    rw [written_append, pieces]
    simp [H264.written, Payload.written, joined, Part.nals]

/-- **The payloads write the Annex-B form.** -/
theorem AccessUnit.written : written unit.payloads = unit.annexB := by
  unfold AccessUnit.payloads AccessUnit.annexB AccessUnit.nals
  induction unit.parts with
  | nil => rfl
  | cons part rest ih =>
    simp [written_append, joined_append, part.written, ih]

/-! ### One payload -/

def Payload.Proper : Payload → Prop
  | single nal => ProperNal nal
  | stapA indicator nals => indicator &&& 0x1f = 24 ∧ nals ≠ [] ∧
      ∀ nal ∈ nals, ProperNal nal ∧ nal.length < 65536
  | fuA _ _ _ _ => True

theorem AccessUnit.properPayloads : ∀ payload ∈ unit.payloads, payload.Proper := by
  intro payload member
  obtain ⟨part, listed, member⟩ := List.mem_flatMap.mp member
  have proper := unit.proper part listed
  cases part with
  | single | stapA =>
    cases mem_singleton.mp member
    exact proper
  | fragmented header first middle last =>
    simp only [Part.payloads, mem_cons, mem_append, List.mem_map, List.not_mem_nil, or_false] at member
    rcases member with rfl | ⟨piece, _, rfl⟩ | rfl <;> trivial

theorem fua_header (header : UInt8) (start last : Bool) :
    (fuHeader header start last &&& 0x80 != 0) = start ∧
      (fuHeader header start last &&& 0x40 != 0) = last ∧
      ((header &&& 0xe0) ||| 28) &&& 0x1f = 28 ∧
      ((((header &&& 0xe0) ||| 28) &&& 0xe0) ||| (fuHeader header start last &&& 0x1f)) = header := by
  revert header
  cases start <;> cases last <;> exact forall_byte (by decide +kernel)

theorem lengthPrefixed_eq (nal : Octets) : lengthPrefixed nal =
    UInt8.ofNat ((UInt16.ofNat nal.length).toNat / 256) ::
      UInt8.ofNat (UInt16.ofNat nal.length).toNat :: nal := rfl

variable {payload : Payload} {next opened : Bool}

section
variable {limit : Nat} {assembler : AccessUnitAssembler}

/-- **The loop over an aggregation packet** takes all NAL units, or none of them counts. -/
theorem aggregated_nals {nals : List Octets} (short : ∀ nal ∈ nals, nal.length < 65536)
    (within : assembler.annexBBuffer.length ≤ limit) :
    aggregated limit assembler (nals.flatMap lengthPrefixed) =
      if limit < assembler.annexBBuffer.length + (joined nals).length then
        .error .oversized
      else .ok (assembler.extend (joined nals)) := by
  induction nals generalizing assembler with
  | nil =>
    rw [List.flatMap_nil, aggregated, if_neg]
    · simp [joined, extend]
    · simpa [joined] using within
    · rintro high low body ⟨⟩
  | cons nal rest ih =>
    have fits := short nal (.head _)
    have counted : (UInt8.ofNat ((UInt16.ofNat nal.length).toNat / 256)).toNat * 256 +
        (UInt8.ofNat (UInt16.ofNat nal.length).toNat).toNat = nal.length := by
      rw [UInt16.toNat_ofNat', UInt8.toNat_ofNat', UInt8.toNat_ofNat']
      omega
    have total : (joined (nal :: rest)).length = 4 + nal.length + (joined rest).length := by
      simp [joined, startCode]
      omega
    rw [flatMap_cons, lengthPrefixed_eq, cons_append, cons_append, aggregated, counted,
      if_neg (by simp), List.take_left, List.drop_left]
    simp only [appendNal, wouldExceedLimit, decide_eq_true_eq]
    by_cases exceeds : limit < assembler.annexBBuffer.length + (4 + nal.length)
    · rw [if_pos exceeds, if_pos (by omega)]
    · have longer : (assembler.extend (startCode ++ nal)).annexBBuffer.length =
          assembler.annexBBuffer.length + (4 + nal.length) := by
        simp [extend, startCode]
        omega
      rw [if_neg exceeds]
      dsimp only
      rw [ih (List.forall_mem_cons.mp short).2 (by omega), longer, total]
      simp only [Nat.add_assoc]
      congr 2
      simp [extend, joined]

/-- The assembler with more bytes: the marker gives them away with what is held. -/
def took (assembler : AccessUnitAssembler) (bytes : Octets) (marker next : Bool) :
    AccessUnitAssembler × Option Octets :=
  if marker then
    ({ assembler with annexBBuffer := [], fragmentationUnitActive := false },
      some (assembler.annexBBuffer ++ bytes))
  else
    ({ assembler with
      annexBBuffer := assembler.annexBBuffer ++ bytes
      fragmentationUnitActive := next }, none)

theorem take_extended {bytes : Octets} (closed : assembler.fragmentationUnitActive = false)
    (filled : assembler.annexBBuffer ++ bytes ≠ []) (marker : Bool) :
    (if marker then (assembler.extend bytes).takeAccessUnit else (assembler.extend bytes, none)) =
      took assembler bytes marker false := by
  cases marker with
  | true =>
    rw [took, if_pos rfl, if_pos rfl, takeAccessUnit, if_neg (show (assembler.extend bytes).annexBBuffer ≠ []
      from filled)]
    simp only [extend, closed]
  | false => simp only [took, extend, closed, Bool.false_eq_true, if_false]

section
variable (taking : assembler.dropUntilMarker = false) (marker : Bool)
include taking

theorem push_single {nal : Octets} (proper : ProperNal nal)
    (closed : assembler.fragmentationUnitActive = false) :
    pushRtpPayload limit assembler nal marker =
      if limit < (assembler.annexBBuffer ++ (startCode ++ nal)).length then
        (rejectOversizedAccessUnit assembler marker, none)
      else took assembler (startCode ++ nal) marker false := by
  rcases nal with _ | ⟨header, body⟩
  · exact proper.elim
  have kind : 1 ≤ header &&& 0x1f ∧ header &&& 0x1f ≤ 23 := proper
  have length : assembler.annexBBuffer.length + (4 + (header :: body).length) =
      (assembler.annexBBuffer ++ (startCode ++ header :: body)).length := by
    simp [startCode]
    omega
  unfold pushRtpPayload
  rw [if_neg (by simp [taking])]
  dsimp only
  rw [if_pos kind]
  simp only [appendNal, wouldExceedLimit, decide_eq_true_eq, length]
  by_cases exceeds : limit < (assembler.annexBBuffer ++ (startCode ++ header :: body)).length
  · rw [if_pos exceeds, if_pos exceeds]
  · rw [if_neg exceeds, if_neg exceeds]
    exact take_extended closed (by simp [startCode]) marker

theorem push_stapA {indicator : UInt8} {nals : List Octets} (proper : (Payload.stapA indicator nals).Proper)
    (closed : assembler.fragmentationUnitActive = false)
    (within : assembler.annexBBuffer.length ≤ limit) :
    pushRtpPayload limit assembler (indicator :: nals.flatMap lengthPrefixed) marker =
      if limit < (assembler.annexBBuffer ++ joined nals).length then
        (rejectOversizedAccessUnit assembler marker, none)
      else took assembler (joined nals) marker false := by
  obtain ⟨kind, some, short⟩ := proper
  have filled : joined nals ≠ [] := by
    rcases nals with _ | ⟨nal, rest⟩
    · exact absurd rfl some
    · exact cons_ne_nil _ _
  have long : ¬ (indicator :: nals.flatMap lengthPrefixed).length < 3 := by
    rcases nals with _ | ⟨nal, rest⟩ <;> simp_all [lengthPrefixed_eq]
  unfold pushRtpPayload
  rw [if_neg (by simp [taking])]
  dsimp only
  rw [kind, if_neg (by decide), if_pos rfl, pushStapA, if_neg long]
  show (match aggregated limit assembler (nals.flatMap lengthPrefixed) with
    | .error .malformed => _ | .error .oversized => _ | .ok _ => _) = _
  rw [aggregated_nals (fun nal member => (short nal member).2) within, ← length_append]
  by_cases exceeds : limit < (assembler.annexBBuffer ++ joined nals).length
  · rw [if_pos exceeds, if_pos exceeds]
  · rw [if_neg exceeds, if_neg exceeds]
    exact take_extended closed (by simp [filled]) marker

omit taking in
theorem closeFua_extended {bytes : Octets} {last : Bool} (filled : assembler.annexBBuffer ++ bytes ≠ [])
    (ends : marker = true → last = true) :
    closeFua { assembler.extend bytes with fragmentationUnitActive := true } last marker =
      took assembler bytes marker !last := by
  unfold closeFua
  cases last with
  | true =>
    rw [Bool.not_true, Bool.and_false, if_neg Bool.false_ne_true, if_pos rfl]
    exact @take_extended { assembler with fragmentationUnitActive := false } bytes rfl filled marker
  | false =>
    cases marker with
    | true => cases ends rfl
    | false => rfl

theorem push_fuA {header : UInt8} {start last : Bool} {piece : Octets}
    (active : assembler.fragmentationUnitActive = !start) (holds : start = false → assembler.annexBBuffer ≠ [])
    (ends : marker = true → last = true) :
    pushRtpPayload limit assembler (Payload.fuA header start last piece).bytes marker =
      if limit <
          (assembler.annexBBuffer ++ (Payload.fuA header start last piece).written).length then
        (rejectOversizedAccessUnit assembler marker, none)
      else took assembler (Payload.fuA header start last piece).written marker !last := by
  obtain ⟨starts, closes, kind, rebuilt⟩ := fua_header header start last
  unfold pushRtpPayload
  rw [if_neg (by simp [taking])]
  dsimp only [Payload.bytes]
  rw [kind, if_neg (by decide), if_neg (by decide), if_pos rfl, pushFua, starts, closes, rebuilt]
  cases start with
  | true =>
    have length : assembler.annexBBuffer.length + (5 + piece.length) =
        (assembler.annexBBuffer ++ (Payload.fuA header true last piece).written).length := by
      simp [Payload.written, startCode]
      omega
    rw [if_pos rfl, active, Bool.not_true, if_neg Bool.false_ne_true]
    simp only [wouldExceedLimit, decide_eq_true_eq, length]
    exact ite_congr rfl (fun _ => rfl) fun _ => @closeFua_extended _ _ (startCode ++ [header] ++ piece) _
      (by simp [startCode]) ends
  | false =>
    have length : assembler.annexBBuffer.length + piece.length =
        (assembler.annexBBuffer ++ (Payload.fuA header false last piece).written).length := by
      simp [Payload.written]
    have same : assembler.extend piece = { assembler.extend piece with fragmentationUnitActive := true } := by
      rw [extend, active]
      rfl
    rw [if_neg Bool.false_ne_true, active, Bool.not_false, if_pos rfl, same]
    simp only [wouldExceedLimit, decide_eq_true_eq, length]
    exact ite_congr rfl (fun _ => rfl) fun _ => closeFua_extended marker (by simp [holds rfl]) ends

/-- **One payload that is in its place**: it is added to the buffer, and the marker empties it. -/
theorem push_payload (proper : payload.Proper) (follows : payload.follows opened = some next)
    (active : assembler.fragmentationUnitActive = opened)
    (holds : opened = true → assembler.annexBBuffer ≠ [])
    (within : assembler.annexBBuffer.length ≤ limit) (ends : marker = true → next = false) :
    pushRtpPayload limit assembler payload.bytes marker =
      if limit < (assembler.annexBBuffer ++ payload.written).length then
        (rejectOversizedAccessUnit assembler marker, none)
      else took assembler payload.written marker next := by
  cases payload with
  | single nal =>
    cases opened with
    | true => cases follows
    | false =>
      cases follows
      exact push_single taking marker proper active
  | stapA indicator nals =>
    cases opened with
    | true => cases follows
    | false =>
      cases follows
      exact push_stapA taking marker proper active within
  | fuA header start last piece =>
    cases start <;> cases opened <;> cases follows
    · exact push_fuA taking marker active (fun _ => holds rfl) (by simpa using ends)
    · exact push_fuA taking marker active nofun (by simpa using ends)

end

/-- **A fragment whose first one is missing** is not taken. -/
theorem push_continuation {header : UInt8} {last : Bool} {piece : Octets}
    (taking : assembler.dropUntilMarker = false) (closed : assembler.fragmentationUnitActive = false)
    (empty : assembler.annexBBuffer = []) (marker : Bool) :
    pushRtpPayload limit assembler (Payload.fuA header false last piece).bytes marker =
      (assembler, none) := by
  obtain ⟨starts, closes, kind, _⟩ := fua_header header false last
  have open_ : ¬ assembler.dropUntilMarker = true := by
    simp [taking]
  unfold pushRtpPayload
  dsimp only [Payload.bytes]
  rw [if_neg open_, kind, if_neg (by decide), if_neg (by decide), if_pos rfl, pushFua]
  rw [starts, if_neg Bool.false_ne_true, if_neg (by rw [closed]; decide)]
  simp [reset, ← empty, ← closed]

end

/-! ### Runs -/

variable {answer : Option Octets} {transmissions : List Transmission}

section
variable {limit : Nat} {link : Link}

theorem after_append (front back : List Packet) :
    after limit link (front ++ back) =
      after limit (after limit link front) back := List.foldl_append

theorem answers_append (front back : List Packet) :
    answers limit link (front ++ back) = answers limit link front ++
        answers limit (after limit link front) back := by
  induction front generalizing link with
  | nil => rfl
  | cons packet rest ih =>
    rw [cons_append, answers, ih]
    rfl

theorem mem_answers {sent : List Packet} (member : answer ∈ answers limit link sent) :
    ∃ front packet back, sent = front ++ packet :: back ∧
      answer = (transmit limit (after limit link front) packet).2 := by
  induction sent generalizing link with
  | nil => cases member
  | cons packet rest ih =>
    rcases mem_cons.mp member with rfl | later
    · exact ⟨[], packet, rest, rfl, rfl⟩
    · obtain ⟨front, other, back, rfl, same⟩ := ih later
      exact ⟨packet :: front, other, back, rfl, same⟩

theorem lost_suffix (sent : List Packet) :
    List.replicate (after limit link sent).lost false <:+
      List.replicate link.lost false ++ sent.map Packet.delivered := by
  induction sent generalizing link with
  | nil => simp [after]
  | cons packet rest ih =>
    refine (@ih (transmit limit link packet).1).trans ?_
    unfold transmit
    cases delivered : packet.delivered with
    | true =>
      exact (List.suffix_cons _ _).trans (List.suffix_append _ _)
    | false =>
      simp [delivered, List.replicate_succ']

/-- The sender's counter and the last sequence number that was received. -/
def Counted (link : Link) : Prop := ∀ previous, link.assembler.lastSequenceNumber = some previous →
  link.next = previous + 1 + UInt16.ofNat link.lost

/-- Nothing is held. -/
structure Empty (assembler : AccessUnitAssembler) : Prop where
  empty : assembler.annexBBuffer = []
  closed : assembler.fragmentationUnitActive = false

/-- **The assembler is between two access units**, as far as it can tell. -/
structure Idle (assembler : AccessUnitAssembler) : Prop extends Empty assembler where
  taking : assembler.dropUntilMarker = false

/-- The assembler holds something that a lost packet has spoilt. -/
structure Stale (link : Link) : Prop where
  lost : 0 < link.lost
  taking : link.assembler.dropUntilMarker = false
  incomplete : link.assembler.hasIncompleteAccessUnit = true
  began : ∃ previous, link.assembler.lastSequenceNumber = some previous

variable {assembler : AccessUnitAssembler}

theorem Empty.complete (empty : Empty assembler) :
    assembler.hasIncompleteAccessUnit = false := by
  rw [hasIncompleteAccessUnit, empty.empty, empty.closed]
  rfl

theorem Empty.received (empty : Empty assembler) (sequenceNumber : UInt16) :
    assembler.received sequenceNumber = assembler.withLast sequenceNumber := by
  unfold AccessUnitAssembler.received
  split
  · rfl
  · rw [if_neg]
    rw [empty.complete]
    rintro ⟨_, ⟨⟩⟩

theorem Counted.received (counted : Counted link) (none : link.lost = 0) :
    link.assembler.received link.next = link.assembler.withLast link.next := by
  unfold AccessUnitAssembler.received
  split
  · rfl
  next previous last =>
    have follows := counted previous last
    rw [none] at follows
    rw [if_neg]
    rintro ⟨differs, _⟩
    exact differs (follows.trans (UInt16.add_zero _))

theorem ofNat_ne_zero {count : Nat} (positive : 0 < count) (few : count < 65536) :
    UInt16.ofNat count ≠ 0 := by
  intro zero
  have same := congrArg UInt16.toNat zero
  rw [UInt16.toNat_ofNat'] at same
  have : (0 : UInt16).toNat = 0 := rfl
  omega

/-- **A missing packet is noticed** where something is held. -/
theorem Stale.received (stale : Stale link) (counted : Counted link) (few : link.lost < 65535) :
    link.assembler.received link.next =
      { link.assembler.reset with dropUntilMarker := true }.withLast link.next := by
  obtain ⟨previous, last⟩ := stale.began
  unfold AccessUnitAssembler.received
  rw [last]
  dsimp only
  rw [if_pos]
  refine ⟨fun same => ?_, stale.incomplete⟩
  rw [counted previous last] at same
  exact ofNat_ne_zero stale.lost (by omega) (UInt16.add_eq_left.mp same)

variable {packet : Packet}

theorem transmit_lost (lost : packet.delivered = false) :
    transmit limit link packet =
      (⟨link.assembler, link.next + 1, link.lost + 1⟩, none) := by
  rw [transmit, if_neg (by rw [lost]; decide)]

theorem transmit_delivered (delivered : packet.delivered = true) :
    transmit limit link packet =
      (let pushed := pushRtpPacket limit link.assembler packet.payload.bytes packet.marker
        link.next
      (⟨pushed.1, link.next + 1, 0⟩, pushed.2)) := if_pos delivered

theorem Counted.lost (counted : Counted link) :
    Counted ⟨link.assembler, link.next + 1, link.lost + 1⟩ := by
  intro previous last
  simp [counted previous last, UInt16.add_assoc]

variable {sequenceNumber : UInt16}

theorem Counted.delivered (last : assembler.lastSequenceNumber = some sequenceNumber) :
    Counted ⟨assembler, sequenceNumber + 1, 0⟩ := by
  intro previous same
  cases last.symm.trans same
  exact (UInt16.add_zero _).symm

/-- The assembler takes what comes and, so far, misses nothing; `opened`: a NAL unit is open. -/
structure Following (limit : Nat) (link : Link) (opened : Bool) : Prop where
  ready : link.assembler.received link.next = link.assembler.withLast link.next
  taking : link.assembler.dropUntilMarker = false
  active : link.assembler.fragmentationUnitActive = opened
  holds : opened = true → link.assembler.annexBBuffer ≠ []
  within : link.assembler.annexBBuffer.length ≤ limit

theorem Idle.following (idle : Idle link.assembler) : Following limit link false :=
  ⟨idle.received _, idle.taking, idle.closed, nofun, by simp [idle.empty]⟩

/-- What is left of a link that gives nothing away and holds nothing. -/
def Quiet (outcome : Link × Option Octets) : Prop :=
  outcome.2 = none ∧ Empty outcome.1.assembler ∧ Counted outcome.1

section

variable {packet : Packet} (delivered : packet.delivered = true)
include delivered

theorem transmit_dropping {dropping : AccessUnitAssembler}
    (noticed : link.assembler.received link.next = dropping) (drops : dropping.dropUntilMarker = true)
    (empty : Empty dropping) (last : dropping.lastSequenceNumber = some link.next) :
    Quiet (transmit limit link packet) := by
  rw [transmit_delivered delivered]
  unfold pushRtpPacket AccessUnitAssembler.pushRtpPacket
  rw [noticed]
  rw [if_pos drops]
  split
  · exact ⟨rfl, ⟨empty.empty, empty.closed⟩, Counted.delivered last⟩
  · exact ⟨rfl, empty, Counted.delivered last⟩

theorem transmit_stale (stale : Stale link) (counted : Counted link) (few : link.lost < 65535) :
    Quiet (transmit limit link packet) :=
  transmit_dropping delivered (stale.received counted few) rfl ⟨rfl, rfl⟩ rfl

/-- What the payload does, where no packet is missing and nothing is dropped. -/
theorem transmit_taken (ready : link.assembler.received link.next = link.assembler.withLast link.next)
    (taking : link.assembler.dropUntilMarker = false) :
    transmit limit link packet =
      (let pushed := pushRtpPayload limit (link.assembler.withLast link.next)
        packet.payload.bytes packet.marker
      (⟨pushed.1, link.next + 1, 0⟩, pushed.2)) := by
  rw [transmit_delivered delivered]
  unfold pushRtpPacket AccessUnitAssembler.pushRtpPacket
  rw [ready]
  have open_ : ¬ (link.assembler.withLast link.next).dropUntilMarker = true := by
    show ¬ link.assembler.dropUntilMarker = true
    simp [taking]
  rw [if_neg open_]

variable (following : Following limit link opened) (proper : packet.payload.Proper)
  (follows : packet.payload.follows opened = some next)
include following proper follows

/-- **One packet in its place**, on an assembler that follows. -/
theorem transmit_payload (ends : packet.marker = true → next = false) :
    (limit < (link.assembler.annexBBuffer ++ packet.payload.written).length ∧
        Quiet (transmit limit link packet) ∧
        (transmit limit link packet).1.assembler.dropUntilMarker = !packet.marker) ∨
      ((link.assembler.annexBBuffer ++ packet.payload.written).length ≤ limit ∧
        packet.marker = true ∧ ∃ later, transmit limit link packet =
          (later, some (link.assembler.annexBBuffer ++ packet.payload.written)) ∧
            Idle later.assembler ∧ Counted later) ∨
      ((link.assembler.annexBBuffer ++ packet.payload.written).length ≤ limit ∧
        packet.marker = false ∧ transmit limit link packet = (⟨{ link.assembler with
            annexBBuffer := link.assembler.annexBBuffer ++ packet.payload.written
            fragmentationUnitActive := next
            lastSequenceNumber := some link.next }, link.next + 1, 0⟩, none)) := by
  have pushed := @push_payload _ _ _ limit (link.assembler.withLast link.next)
    following.taking packet.marker proper follows following.active following.holds following.within ends
  rw [transmit_taken delivered following.ready following.taking]
  split at pushed <;> rw [pushed]
  next exceeds =>
    exact .inl ⟨exceeds, ⟨rfl, ⟨rfl, rfl⟩, Counted.delivered rfl⟩, rfl⟩
  next fits =>
    have fits := Nat.le_of_not_lt fits
    cases packet.marker with
    | true => exact .inr (.inl ⟨fits, rfl, _, rfl, ⟨⟨rfl, rfl⟩, following.taking⟩, Counted.delivered rfl⟩)
    | false => exact .inr (.inr ⟨fits, rfl, rfl⟩)

theorem not_idle_of_taken (middle : packet.marker = false)
    (filled : link.assembler.annexBBuffer ++ packet.payload.written ≠ []) :
    ¬ Idle (transmit limit link packet).1.assembler := by
  intro idle
  rcases transmit_payload delivered following proper follows (by simp [middle]) with
    ⟨_, _, drops⟩ | ⟨_, marker, _⟩ | ⟨_, _, given⟩
  · simp [idle.taking, middle] at drops
  · simp [middle] at marker
  · rw [given] at idle
    exact filled idle.empty

omit following proper follows in
theorem not_idle_of_dropping (middle : packet.marker = false) {dropping : AccessUnitAssembler}
    (noticed : link.assembler.received link.next = dropping) (drops : dropping.dropUntilMarker = true) :
    ¬ Idle (transmit limit link packet).1.assembler := by
  rw [transmit_delivered delivered]
  unfold pushRtpPacket AccessUnitAssembler.pushRtpPacket
  intro idle
  have taking := idle.taking
  simp [noticed, drops, middle] at taking

end

/-! ### Inside an access unit -/

/-- **The tail of what was sent that the assembler took up** when it was between two access units. -/
structure Taken (limit : Nat) (link : Link) (sent older recent : List Packet) : Prop where
  split : sent = older ++ recent
  nonempty : recent ≠ []
  delivered : ∀ packet ∈ recent, packet.delivered = true
  idle : Idle (after limit link older).assembler
  begins : walk false (older.map Packet.payload) = some false
  within : (written (recent.map Packet.payload)).length ≤ limit

/-- The assembler holds such a tail, and no packet is missing since. -/
structure Inside (limit : Nat) (link : Link) (sent older recent : List Packet) : Prop
    extends Taken limit link sent older recent where
  holds : (after limit link sent).assembler.annexBBuffer =
    written (recent.map Packet.payload)
  filled : (after limit link sent).assembler.annexBBuffer ≠ []
  taking : (after limit link sent).assembler.dropUntilMarker = false
  lost : (after limit link sent).lost = 0
  last : ∃ previous, (after limit link sent).assembler.lastSequenceNumber = some previous
  opened : walk false (recent.map Packet.payload) =
    some (after limit link sent).assembler.fragmentationUnitActive

/-- Between two access units the assembler holds nothing, or something spoilt. -/
def Outside (link : Link) : Prop := Empty link.assembler ∨ Stale link

theorem written_ne_nil (proper : payload.Proper) (follows : payload.follows false = some next) :
    payload.written ≠ [] := by
  cases payload with
  | single => exact cons_ne_nil _ _
  | stapA _ nals =>
    rcases nals with _ | ⟨nal, rest⟩
    · exact absurd rfl proper.2.1
    · exact cons_ne_nil _ _
  | fuA _ start =>
    cases start with
    | true => exact cons_ne_nil _ _
    | false => cases follows

theorem after_concat (sent : List Packet) (packet : Packet) :
    after limit link (sent ++ [packet]) =
      (transmit limit (after limit link sent) packet).1 := by
  rw [after_append]
  rfl

theorem Outside.lost {link : Link} (outside : Outside link) :
    Outside ⟨link.assembler, link.next + 1, link.lost + 1⟩ := by
  rcases outside with empty | stale
  · exact .inl empty
  · exact .inr ⟨Nat.succ_pos _, stale.taking, stale.incomplete, stale.began⟩

variable {recent : List Packet}

theorem Taken.inside {sent older : List Packet}
    (taken : Taken limit link sent older recent) {following : UInt16}
    (given : after limit link sent = ⟨{ assembler with
        annexBBuffer := written (recent.map Packet.payload)
        fragmentationUnitActive := next
        lastSequenceNumber := some sequenceNumber }, following, 0⟩)
    (filled : written (recent.map Packet.payload) ≠ []) (taking : assembler.dropUntilMarker = false)
    (opened : walk false (recent.map Packet.payload) = some next) :
    Inside limit link sent older recent := by
  refine ⟨taken, ?_, ?_, ?_, ?_, ?_, ?_⟩ <;> rw [given]
  · exact filled
  · exact taking
  · exact ⟨_, rfl⟩
  · exact opened

/-- What one packet after `front` leads to: what is held is a tail that was taken up, and what is given
away too. -/
def Followed (limit : Nat) (link : Link) (front : List Packet) (packet : Packet) : Prop :=
  Counted (after limit link (front ++ [packet])) ∧
    (Outside (after limit link (front ++ [packet])) ∨ packet.marker = false ∧
      ∃ older recent, Inside limit link (front ++ [packet]) older recent) ∧
    ∀ bytes, (transmit limit (after limit link front) packet).2 =
      some bytes → packet.marker = true ∧ ∃ older recent,
        Taken limit link (front ++ [packet]) older recent ∧
          bytes = written (recent.map Packet.payload)

section
variable {front older recent : List Packet} {packet : Packet} {opened next : Bool}

theorem Quiet.followed
    (quiet : Quiet (transmit limit (after limit link front) packet)) :
    Followed limit link front packet := by
  obtain ⟨none, empty, counted⟩ := quiet
  rw [Followed, after_concat]
  refine ⟨counted, .inl (.inl empty), fun bytes same => ?_⟩
  simp [none] at same

theorem Taken.followed (delivered : packet.delivered = true) (proper : packet.payload.Proper)
    (tail : (written (recent.map Packet.payload)).length ≤ limit →
      Taken limit link (front ++ [packet]) older recent)
    (following : Following limit (after limit link front) opened)
    (taken : (after limit link front).assembler.annexBBuffer ++ packet.payload.written =
      written (recent.map Packet.payload)) (filled : written (recent.map Packet.payload) ≠ [])
    (follows : packet.payload.follows opened = some next)
    (walked : walk false (recent.map Packet.payload) = some next)
    (ends : packet.marker = true → next = false) : Followed limit link front packet := by
  rcases transmit_payload delivered following proper follows ends with
    ⟨_, quiet, _⟩ | ⟨within, marker, later, given, clear, counts⟩ | ⟨within, marker, given⟩
  · exact quiet.followed
  · rw [Followed, after_concat, given]
    refine ⟨counts, .inl (.inl clear.toEmpty), ?_⟩
    rintro _ ⟨⟩
    exact ⟨marker, older, recent, tail (taken ▸ within), taken⟩
  · rw [Followed, after_concat, given]
    exact ⟨Counted.delivered rfl, .inr ⟨marker, older, recent, (tail (taken ▸ within)).inside
      (by rw [after_concat, given, taken]) filled following.taking walked⟩, nofun⟩

/-- A fragment that no fragment precedes goes on with a NAL unit whose beginning is missing. -/
theorem Payload.continuation (follows : payload.follows true = some next) :
    ∃ header last piece, payload = .fuA header false last piece := by
  cases payload with
  | single | stapA => cases follows
  | fuA header start last piece =>
    cases start with
    | true => cases follows
    | false => exact ⟨header, last, piece, rfl⟩

theorem Inside.following (inside : Inside limit link front older recent)
    (counted : Counted (after limit link front))
    (walked : walk false (front.map Packet.payload) = some opened) :
    Following limit (after limit link front) opened := by
  rw [inside.split, map_append, walk_append, inside.begins, Option.bind_some, inside.opened] at walked
  exact ⟨counted.received inside.lost, inside.taking, Option.some.inj walked, fun _ => inside.filled,
    by simp [inside.holds, inside.within]⟩

/-- **One packet of an access unit.** -/
theorem step_inside (before : Outside (after limit link front) ∨
      ∃ older recent, Inside limit link front older recent)
    (counted : Counted (after limit link front))
    (few : (after limit link front).lost < 65535) (proper : packet.payload.Proper)
    (walked : walk false (front.map Packet.payload) = some opened)
    (follows : packet.payload.follows opened = some next)
    (ends : packet.marker = true → next = false) : Followed limit link front packet := by
  cases delivered : packet.delivered with
  | false =>
    rw [Followed, after_concat, transmit_lost delivered]
    refine ⟨counted.lost, .inl ?_, by rintro bytes ⟨⟩⟩
    rcases before with outside | ⟨older, recent, inside⟩
    · exact outside.lost
    · refine .inr ⟨Nat.succ_pos _, inside.taking, ?_, inside.last⟩
      simp [hasIncompleteAccessUnit, List.isEmpty_eq_false_iff.mpr inside.filled]
  | true =>
    rcases before with (empty | stale) | ⟨older, recent, inside⟩
    · cases taking : (after limit link front).assembler.dropUntilMarker with
      | true =>
        exact (transmit_dropping delivered (empty.received _) taking ⟨empty.empty, empty.closed⟩
          rfl).followed
      | false =>
        cases opened with
        | true =>
          obtain ⟨header, last, piece, shape⟩ := Payload.continuation follows
          refine Quiet.followed ?_
          rw [transmit_taken delivered (empty.received _) taking, shape,
            @push_continuation limit (withLast _ _) _ _ _ taking empty.closed empty.empty]
          exact ⟨rfl, ⟨empty.empty, empty.closed⟩, Counted.delivered rfl⟩
        | false =>
          have alone : written [packet.payload] = packet.payload.written := append_nil _
          have tail : (written ([packet].map Packet.payload)).length ≤ limit →
              Taken limit link (front ++ [packet]) front [packet] := fun within =>
            ⟨rfl, cons_ne_nil _ _, by simpa using delivered, ⟨empty, taking⟩, walked, within⟩
          have idle : Idle _ := ⟨empty, taking⟩
          refine Taken.followed delivered proper tail idle.following ?_ ?_ follows ?_ ends
          · simp [empty.empty, alone.symm]
          · exact alone ▸ written_ne_nil proper follows
          · simp [walk, follows]
    · exact (transmit_stale delivered stale counted few).followed
    · have following := inside.following counted walked
      have taken : (after limit link front).assembler.annexBBuffer ++
          packet.payload.written = written ((recent ++ [packet]).map Packet.payload) := by
        rw [inside.holds, map_append, written_append]
        exact congrArg _ (append_nil _).symm
      refine Taken.followed delivered proper (fun within => ⟨by rw [inside.split, append_assoc],
          by simp, fun other member => ?_, inside.idle, inside.begins, within⟩) following taken ?_
        follows ?_ ends
      · rcases mem_append.mp member with earlier | one
        · exact inside.delivered other earlier
        · simp [mem_singleton.mp one, delivered]
      · rw [← taken]
        exact List.append_ne_nil_of_left_ne_nil inside.filled _
      · simp [walk_append, inside.opened, following.active, walk, follows]

/-- **A packet in the middle of an access unit leaves the assembler at work**, unless it finds it between
two access units and does not begin a NAL unit. -/
theorem not_idle_of_delivered (before : Outside (after limit link front) ∨
      ∃ older recent, Inside limit link front older recent)
    (counted : Counted (after limit link front))
    (few : (after limit link front).lost < 65535) (proper : packet.payload.Proper)
    (walked : walk false (front.map Packet.payload) = some opened)
    (follows : packet.payload.follows opened = some next) (middle : packet.marker = false)
    (delivered : packet.delivered = true)
    (works : opened = false ∨ ¬ Idle (after limit link front).assembler) :
    ¬ Idle (after limit link (front ++ [packet])).assembler := by
  rw [after_concat]
  rcases before with (empty | stale) | ⟨older, recent, inside⟩
  · cases taking : (after limit link front).assembler.dropUntilMarker with
    | true => exact not_idle_of_dropping delivered middle (empty.received _) taking
    | false =>
      obtain rfl : opened = false := works.resolve_right fun not => not ⟨empty, taking⟩
      have idle : Idle _ := ⟨empty, taking⟩
      refine not_idle_of_taken delivered idle.following proper follows middle ?_
      rw [empty.empty]
      exact written_ne_nil proper follows
  · exact not_idle_of_dropping delivered middle (stale.received counted few) rfl
  · exact not_idle_of_taken delivered (inside.following counted walked) proper follows middle
      (List.append_ne_nil_of_left_ne_nil inside.filled _)

end

/-! ### Whole access units -/

theorem packets_payloads {payloads : List Payload} {flags : List Bool}
    (each : flags.length = payloads.length) :
    (packets payloads flags).map Packet.payload = payloads := by
  induction payloads generalizing flags with
  | nil => cases flags <;> rfl
  | cons payload rest ih =>
    rcases flags with _ | ⟨flag, flags⟩ <;> simp_all [packets]

variable {front back : List Packet}

theorem packets_marker {payloads : List Payload} {flags : List Bool}
    (each : flags.length = payloads.length) (split : packets payloads flags = front ++ packet :: back) :
    packet.marker = back.isEmpty := by
  induction payloads generalizing flags front with
  | nil => cases flags <;> cases front <;> cases split
  | cons payload rest ih =>
    rcases flags with _ | ⟨flag, flags⟩
    · cases each
    · have each := Nat.succ.inj each
      rw [packets] at split
      cases front with
      | nil =>
        obtain ⟨rfl, rfl⟩ := List.cons.inj split
        rcases rest with _ | ⟨next, rest⟩
        · cases flags <;> rfl
        · rcases flags with _ | ⟨other, flags⟩
          · cases each
          · rfl
      | cons first front => exact ih each (List.cons.inj split).2

section
variable {transmission : Transmission}

theorem Transmission.payloads (transmission : Transmission) :
    transmission.packets.map Packet.payload = transmission.unit.payloads :=
  packets_payloads transmission.each

theorem Transmission.marker (split : transmission.packets = front ++ packet :: back) :
    packet.marker = back.isEmpty :=
  packets_marker transmission.each split

theorem Transmission.proper (member : packet ∈ transmission.packets) :
    packet.payload.Proper := by
  refine transmission.unit.properPayloads _ ?_
  rw [← transmission.payloads]
  exact List.mem_map_of_mem member

theorem Transmission.places (split : transmission.packets = front ++ packet :: back) : ∃ opened next,
      walk false (front.map Packet.payload) = some opened ∧
        packet.payload.follows opened = some next ∧ (packet.marker = true → next = false) := by
  have whole := transmission.unit.walk
  rw [← transmission.payloads, split, map_append, walk_append, map_cons] at whole
  obtain ⟨opened, walked, rest⟩ := Option.bind_eq_some_iff.mp whole
  obtain ⟨next, follows, ends⟩ := Option.bind_eq_some_iff.mp rest
  refine ⟨opened, next, walked, follows, fun marker => ?_⟩
  rw [Transmission.marker split, List.isEmpty_iff] at marker
  subst marker
  exact Option.some.inj ends

/-- In the middle of an access unit the assembler is outside of one, or holds a tail that it took up. -/
theorem unit_along (outside : Outside link) (counted : Counted link)
    (few : ∀ front packet back, transmission.packets = front ++ packet :: back →
      (after limit link front).lost < 65535)
    (front : List Packet) : ∀ back, transmission.packets = front ++ back →
      Counted (after limit link front) ∧ (Outside (after limit link front) ∨
        (back ≠ [] ∧ ∃ older recent, Inside limit link front older recent)) := by
  induction front using reverseRecOn with
  | nil => exact fun back _ => ⟨counted, .inl outside⟩
  | append_singleton front packet ih =>
    intro back split
    rw [append_assoc, List.singleton_append] at split
    obtain ⟨counts, before⟩ := ih _ split
    obtain ⟨opened, next, walked, follows, ends⟩ := Transmission.places split
    have proper : packet.payload.Proper :=
      Transmission.proper (split ▸ mem_append_right _ (.head _))
    obtain ⟨counted, later, _⟩ := step_inside (before.imp_right And.right) counts
      (few _ _ _ split) proper walked follows ends
    refine ⟨counted, later.imp_right fun ⟨marker, inside⟩ => ⟨?_, inside⟩⟩
    rintro rfl
    simp [Transmission.marker split] at marker

/-- **An access unit from outside of one to outside of one**, and what is given away of it. -/
theorem unit_run (outside : Outside link) (counted : Counted link)
    (few : ∀ front packet back, transmission.packets = front ++ packet :: back →
      (after limit link front).lost < 65535) :
    Outside (after limit link transmission.packets) ∧
      Counted (after limit link transmission.packets) ∧
      ∀ bytes, some bytes ∈ answers limit link transmission.packets →
        ∃ older recent, Taken limit link transmission.packets older recent ∧
          bytes = written (recent.map Packet.payload) := by
  obtain ⟨counts, final⟩ := unit_along outside counted few transmission.packets [] (append_nil _).symm
  refine ⟨final.resolve_right fun both => both.1 rfl, counts, fun bytes member => ?_⟩
  obtain ⟨front, packet, back, split, answered⟩ := mem_answers member
  obtain ⟨counts, before⟩ := unit_along outside counted few front (packet :: back) split
  obtain ⟨opened, next, walked, follows, ends⟩ := Transmission.places split
  have proper : packet.payload.Proper :=
    Transmission.proper (split ▸ mem_append_right _ (.head _))
  obtain ⟨_, _, given⟩ := step_inside (before.imp_right And.right) counts (few _ _ _ split) proper
    walked follows ends
  obtain ⟨marker, older, recent, taken, same⟩ := given bytes answered.symm
  rw [Transmission.marker split, List.isEmpty_iff] at marker
  subst marker
  exact ⟨older, recent, split ▸ taken, same⟩

/-- **An assembler that is between two access units inside of one has missed its first packet.** -/
theorem first_lost {first : Packet} {rest recent : List Packet} (outside : Outside link) (counted : Counted link)
    (few : ∀ front packet back, transmission.packets = front ++ packet :: back →
      (after limit link front).lost < 65535)
    (split : transmission.packets = first :: rest ++ recent) (some' : recent ≠ [])
    (idle : Idle (after limit link (first :: rest)).assembler) : first.delivered = false := by
  by_contra delivered
  have one (front : List Packet) {packet : Packet} {back : List Packet}
      (split : transmission.packets = front ++ packet :: back) (some' : back ≠ [])
      (arrives : packet.delivered = true)
      (works : front = [] ∨ ¬ Idle (after limit link front).assembler) :
      ¬ Idle (after limit link (front ++ [packet])).assembler := by
    obtain ⟨opened, next, walked, follows, _⟩ := Transmission.places split
    obtain ⟨counts, before⟩ := unit_along outside counted few front _ split
    refine not_idle_of_delivered (before.imp_right And.right) counts (few _ _ _ split)
      (Transmission.proper (split ▸ mem_append_right _ (.head _))) walked follows ?_ arrives
      (works.imp_left ?_)
    · rw [Transmission.marker split]
      simpa using some'
    · rintro rfl
      exact (Option.some.inj walked).symm
  revert split idle
  induction rest using reverseRecOn generalizing recent with
  | nil => exact fun split => one [] split some' (by simpa using delivered) (.inl rfl)
  | append_singleton middle packet ih =>
    intro split
    have split : transmission.packets = (first :: middle) ++ packet :: recent := by
      simpa using split
    have working := ih (cons_ne_nil packet recent) split
    cases arrives : packet.delivered with
    | false =>
      show ¬ Idle (after limit link ((first :: middle) ++ [packet])).assembler
      rw [after_concat, transmit_lost arrives]
      exact working
    | true => exact one (first :: middle) split some' arrives (.inr working)

end

/-! ### Whole streams -/

theorem stream_append (front back : List Transmission) :
    stream (front ++ back) = stream front ++ stream back := List.flatMap_append

theorem replicate_prefix {small large : Nat} (le : small ≤ large) :
    List.replicate small false <+: List.replicate large false := by
  refine ⟨List.replicate (large - small) false, ?_⟩
  rw [List.replicate_append_replicate, Nat.add_sub_cancel' le]

theorem lost_lt {base : UInt16} {sent : List Packet} (few : FewLost sent)
    (split : sent = front ++ back) :
    (after limit (Link.start base) front).lost < 65535 := by
  by_contra many
  have suffix := @lost_suffix limit (Link.start base) front
  have long : List.replicate 65535 false <+:
      List.replicate (after limit (Link.start base) front).lost false :=
    replicate_prefix (Nat.le_of_not_lt many)
  refine few ?_
  rw [split, map_append]
  exact (long.isInfix.trans suffix.isInfix).trans (List.prefix_append _ _).isInfix

theorem few_within {base : UInt16} (few : FewLost (stream transmissions))
    {before later : List Transmission} {transmission : Transmission}
    (split : transmissions = before ++ transmission :: later) (front : List Packet) (packet : Packet)
    (back : List Packet) (parts : transmission.packets = front ++ packet :: back) :
    (after limit (after limit (Link.start base) (stream before)) front).lost <
      65535 := by
  rw [← after_append]
  refine @lost_lt limit _ (packet :: back ++ stream later) base _ few ?_
  rw [split, stream_append, append_assoc]
  show _ ++ (transmission.packets ++ stream later) = _
  simp [parts]

/-- **Between two access units of a stream.** -/
theorem stream_run {base : UInt16} (few : FewLost (stream transmissions))
    {front back : List Transmission} (split : transmissions = front ++ back) :
    Outside (after limit (Link.start base) (stream front)) ∧
      Counted (after limit (Link.start base) (stream front)) := by
  induction front using reverseRecOn generalizing back with
  | nil => exact ⟨.inl ⟨rfl, rfl⟩, nofun⟩
  | append_singleton front transmission ih =>
    rw [append_assoc, List.singleton_append] at split
    obtain ⟨outside, counted⟩ := ih split
    have one : stream (front ++ [transmission]) = stream front ++ transmission.packets := by
      rw [stream_append]
      exact congrArg _ (append_nil _)
    obtain ⟨outside, counted, _⟩ := unit_run outside counted (few_within few split)
    rw [one, after_append]
    exact ⟨outside, counted⟩

/-- After an access unit that was too large its other packets are dropped, up to the marker. -/
theorem dropped_answers {link : Link} (some' : recent ≠ []) (empty : Empty link.assembler)
    (drops : link.assembler.dropUntilMarker = true)
    (delivered : ∀ packet ∈ recent, packet.delivered = true)
    (marked : ∀ front packet back, recent = front ++ packet :: back → packet.marker = back.isEmpty) :
    answers limit link recent = List.replicate recent.length none ∧
      Idle (after limit link recent).assembler := by
  induction recent generalizing link with
  | nil => exact absurd rfl some'
  | cons packet rest ih =>
    have marker : packet.marker = rest.isEmpty := marked [] packet rest rfl
    have one : transmit limit link packet = (⟨{ link.assembler with
        dropUntilMarker := !packet.marker
        lastSequenceNumber := some link.next }, link.next + 1, 0⟩, none) := by
      rw [transmit_delivered (delivered packet (.head _))]
      simp only [pushRtpPacket, AccessUnitAssembler.pushRtpPacket, empty.received, withLast, drops, if_true]
      cases packet.marker <;> rfl
    show (transmit limit link packet).2 :: answers _ (transmit _ link packet).1 rest = _ ∧
      Idle (after _ (transmit _ link packet).1 rest).assembler
    rw [one, marker]
    by_cases last : rest = []
    · subst last
      exact ⟨rfl, ⟨empty.empty, empty.closed⟩, rfl⟩
    · obtain ⟨nothing, idle⟩ := @ih ⟨{ link.assembler with
          dropUntilMarker := !rest.isEmpty, lastSequenceNumber := some link.next }, link.next + 1, 0⟩
        last ⟨empty.empty, empty.closed⟩ (by simpa using last)
        (List.forall_mem_cons.mp delivered).2
        (fun front other back split => marked (packet :: front) other back (by rw [split]; rfl))
      exact ⟨by rw [nothing]; rfl, idle⟩

/-- **A tail that was taken up is given away** whole at its marker, where it is small enough. -/
theorem tail_answers {link : Link} (some' : recent ≠ [])
    (following : Following limit link opened)
    (walked : walk opened (recent.map Packet.payload) = some false)
    (delivered : ∀ packet ∈ recent, packet.delivered = true)
    (proper : ∀ packet ∈ recent, packet.payload.Proper)
    (marked : ∀ front packet back, recent = front ++ packet :: back → packet.marker = back.isEmpty)
    {total : Octets} (sum : total = link.assembler.annexBBuffer ++ written (recent.map Packet.payload)) :
    answers limit link recent = List.replicate (recent.length - 1) none ++
        [if total.length ≤ limit then some total else none] ∧
      Idle (after limit link recent).assembler := by
  induction recent generalizing link opened with
  | nil => exact absurd rfl some'
  | cons packet rest ih =>
    obtain ⟨next, follows, later⟩ := Option.bind_eq_some_iff.mp walked
    have marker : packet.marker = rest.isEmpty := marked [] packet rest rfl
    have ends : packet.marker = true → next = false := by
      intro last
      rw [marker, List.isEmpty_iff] at last
      subst last
      exact Option.some.inj later
    have split : total =
        (link.assembler.annexBBuffer ++ packet.payload.written) ++ written (rest.map Packet.payload) := by
      rw [sum, append_assoc]
      rfl
    have others : ∀ other ∈ rest, other.delivered = true := fun other member =>
      delivered other (.tail _ member)
    have marks : ∀ front other back, rest = front ++ other :: back → other.marker = back.isEmpty :=
      fun front other back split => marked (packet :: front) other back (by rw [split]; rfl)
    show (transmit limit link packet).2 :: answers _ (transmit _ link packet).1 rest = _ ∧
      Idle (after _ (transmit _ link packet).1 rest).assembler
    rcases transmit_payload (delivered packet (.head _)) following (proper packet (.head _)) follows ends
      with ⟨exceeds, ⟨none', empty, _⟩, drops⟩ | ⟨fits, last, after', given, idle, _⟩ | ⟨fits, last, given⟩
    · have large : ¬ total.length ≤ limit := by
        rw [split, length_append]
        omega
      rw [if_neg large, none']
      by_cases only : rest = []
      · subst only
        exact ⟨rfl, empty, drops.trans (by rw [marker]; rfl)⟩
      · obtain ⟨nothing, idle⟩ := dropped_answers only empty
          (by rw [drops, marker]; simpa using only) others marks
        rw [nothing]
        refine ⟨?_, idle⟩
        simp [← List.replicate_succ', List.replicate_succ]
    · rw [marker, List.isEmpty_iff] at last
      subst last
      have whole : total = link.assembler.annexBBuffer ++ packet.payload.written :=
        split.trans (append_nil _)
      rw [given, if_pos (whole ▸ fits), whole]
      exact ⟨rfl, idle⟩
    · rw [marker, List.isEmpty_eq_false_iff] at last
      rw [given]
      have filled : link.assembler.annexBBuffer ++ packet.payload.written ≠ [] := by
        cases opened with
        | true => exact List.append_ne_nil_of_left_ne_nil (following.holds rfl) _
        | false =>
          exact List.append_ne_nil_of_right_ne_nil _ (written_ne_nil (proper packet (.head _)) follows)
      obtain ⟨same, idle⟩ := @ih next ⟨{ link.assembler with
          annexBBuffer := link.assembler.annexBBuffer ++ packet.payload.written
          fragmentationUnitActive := next
          lastSequenceNumber := some link.next }, link.next + 1, 0⟩ last
        ⟨Counted.received (Counted.delivered rfl) rfl, following.taking, rfl, fun _ => filled, fits⟩
        later others (List.forall_mem_cons.mp proper).2 marks split
      refine ⟨?_, idle⟩
      rw [same, length_cons, Nat.add_sub_cancel, ← cons_append, ← List.replicate_succ,
        Nat.sub_add_cancel (List.length_pos_iff.mpr last)]

end

/-! ### The result -/

/-- **A tail that is taken for an access unit**: it is what is left of one, delivered from the beginning
of a NAL unit on, and just before it the assembler is between two access units as far as it can tell. -/
def BeheadedTail (maxAccessUnitBytes : Nat) (base : UInt16) (transmissions : List Transmission)
    (tail : List Payload) : Prop :=
  ∃ before transmission later older recent, transmissions = before ++ transmission :: later ∧
    transmission.packets = older ++ recent ∧ older ≠ [] ∧ recent ≠ [] ∧
      (∀ packet ∈ recent, packet.delivered = true) ∧
      (∀ packet ∈ recent.head?, packet.payload.Begins) ∧
      Idle (after maxAccessUnitBytes (Link.start base) (stream before ++ older)).assembler ∧
      recent.map Packet.payload = tail ∧ (written tail).length ≤ maxAccessUnitBytes

/-- **The access unit of such a tail has lost its first packet**, and the tail is what ends it. -/
theorem BeheadedTail.head_lost {base : UInt16} {tail : List Payload}
    (few : FewLost (stream transmissions))
    (beheaded : BeheadedTail maxAccessUnitBytes base transmissions tail) :
    ∃ transmission ∈ transmissions, tail <:+ transmission.unit.payloads ∧
      ∃ first rest, transmission.packets = first :: rest ∧ first.delivered = false := by
  obtain ⟨before, transmission, later, older, recent, split, parts, nonempty, some', _, _, idle, rfl, _⟩ :=
    beheaded
  obtain ⟨outside, counted⟩ := stream_run few split
  cases older with
  | nil => exact absurd rfl nonempty
  | cons first rest =>
    refine ⟨transmission, split ▸ List.mem_append_right _ (.head _), ?_, first, rest ++ recent, parts, ?_⟩
    · rw [← transmission.payloads, parts, map_append]
      exact List.suffix_append _ _
    · rw [after_append] at idle
      exact first_lost outside counted (few_within few split) parts some' idle

/-- A payload that is in its place begins a NAL unit just when none is open. -/
theorem Payload.begins_iff (follows : payload.follows opened = some next) :
    payload.Begins ↔ opened = false := by
  cases payload with
  | single | stapA =>
    cases opened with
    | true => cases follows
    | false => exact ⟨fun _ => rfl, fun _ => trivial⟩
  | fuA _ start =>
    cases start with
    | true =>
      cases opened with
      | true => cases follows
      | false => exact ⟨fun _ => rfl, fun _ => rfl⟩
    | false =>
      cases opened with
      | true => exact ⟨nofun, nofun⟩
      | false => cases follows

theorem mem_stream_answers {maxAccessUnitBytes : Nat} {link : Link}
    (member : answer ∈ answers maxAccessUnitBytes link (stream transmissions)) :
    ∃ before transmission later, transmissions = before ++ transmission :: later ∧
      answer ∈ answers maxAccessUnitBytes (after maxAccessUnitBytes link (stream before))
        transmission.packets := by
  induction transmissions generalizing link with
  | nil => cases member
  | cons transmission rest ih =>
    have split : stream (transmission :: rest) = transmission.packets ++ stream rest := rfl
    rw [split, answers_append] at member
    rcases mem_append.mp member with here | there
    · exact ⟨[], transmission, rest, rfl, here⟩
    · obtain ⟨before, other, later, rfl, inside⟩ := ih there
      refine ⟨transmission :: before, other, later, rfl, ?_⟩
      have front : stream (transmission :: before) = transmission.packets ++ stream before := rfl
      simp [front, after_append, inside]

/-- **The run is intact just when each beheaded tail happens to be an access unit that was sent.** -/
theorem intact_iff (maxAccessUnitBytes : Nat) (base : UInt16) (transmissions : List Transmission)
    (few : FewLost (stream transmissions)) :
    Intact maxAccessUnitBytes base transmissions ↔
      ∀ tail, BeheadedTail maxAccessUnitBytes base transmissions tail →
        ∃ transmission ∈ transmissions, written tail = transmission.unit.annexB := by
  constructor
  · rintro intact tail ⟨before, transmission, later, older, recent, rfl, split, _, some', delivered,
      begins, idle, rfl, within⟩
    refine intact _ ?_
    rcases recent with _ | ⟨first, rest⟩
    · exact absurd rfl some'
    obtain ⟨opened, next, walked, follows, _⟩ := Transmission.places split
    cases (Payload.begins_iff follows).mp (begins first rfl)
    have whole := transmission.unit.walk
    rw [← transmission.payloads, split, map_append, walk_append, walked] at whole
    have members : ∀ packet ∈ first :: rest, packet ∈ transmission.packets :=
      fun packet member => split ▸ mem_append_right older member
    obtain ⟨given, _⟩ := @tail_answers _ maxAccessUnitBytes _ _ some' idle.following whole delivered
      (fun packet member => Transmission.proper (members packet member))
      (fun front packet back again => @Transmission.marker packet (older ++ front) back transmission
        (by rw [split, again, append_assoc])) _ rfl
    rw [idle.empty, nil_append, if_pos within] at given
    have written : stream (before ++ transmission :: later) =
        (stream before ++ older) ++ ((first :: rest) ++ stream later) := by
      rw [stream_append]
      show _ ++ (transmission.packets ++ stream later) = _
      simp [split]
    rw [written, answers_append, answers_append (first :: rest), given]
    simp
  · intro sent bytes member
    obtain ⟨before, transmission, later, rfl, inside⟩ := mem_stream_answers member
    obtain ⟨outside, counted⟩ := @stream_run _ maxAccessUnitBytes base few _ _ rfl
    have within : ∀ front packet rest, transmission.packets = front ++ packet :: rest →
        (after maxAccessUnitBytes (after maxAccessUnitBytes (Link.start base) (stream before))
          front).lost < 65535 := by
      intro front packet rest split
      rw [← after_append]
      refine @lost_lt maxAccessUnitBytes _ (packet :: rest ++ stream later) base _ few ?_
      rw [stream_append, append_assoc]
      show _ ++ (transmission.packets ++ stream later) = _
      simp [split]
    obtain ⟨_, _, given⟩ := unit_run outside counted within
    obtain ⟨older, recent, taken, rfl⟩ := given bytes inside
    rcases older with _ | ⟨head, older⟩
    · refine ⟨transmission, mem_append_right _ (.head _), ?_⟩
      simp [← AccessUnit.written, ← transmission.payloads, taken.split]
    · refine sent _ ⟨before, transmission, later, head :: older, recent, rfl, taken.split,
        cons_ne_nil _ _, taken.nonempty, taken.delivered, ?_, ?_, rfl, taken.within⟩
      · intro packet first
        obtain ⟨rest, rfl⟩ := List.head?_eq_some_iff.mp first
        obtain ⟨opened, next, walked, follows, _⟩ := Transmission.places taken.split
        cases walked.symm.trans taken.begins
        exact (Payload.begins_iff follows).mpr rfl
      · simp [after_append, taken.idle]

/-! ### A link that loses nothing -/

/-- An access unit all packets of which are delivered. -/
def AccessUnit.whole : Transmission where
  unit := unit
  delivered := List.replicate unit.payloads.length true
  each := List.length_replicate

theorem packets_whole {payloads : List Payload} {packet : Packet}
    (member : packet ∈ packets payloads (List.replicate payloads.length true)) :
    packet.delivered = true := by
  induction payloads with
  | nil => cases member
  | cons payload rest ih => rcases mem_cons.mp member with rfl | later <;> [rfl; exact ih later]

theorem AccessUnit.payloads_ne_nil : unit.payloads ≠ [] := by
  obtain ⟨part, rest, same⟩ := List.exists_cons_of_ne_nil unit.nonempty
  rw [AccessUnit.payloads, same, flatMap_cons]
  cases part <;> exact cons_ne_nil _ _

section
variable {limit : Nat}

theorem whole_answers {link : Link} (idle : Idle link.assembler) (units : List AccessUnit) :
    answers limit link (stream (units.map AccessUnit.whole)) =
      units.flatMap fun unit => List.replicate (unit.payloads.length - 1) none ++
        [if unit.annexB.length ≤ limit then some unit.annexB else none] := by
  induction units generalizing link with
  | nil => rfl
  | cons unit rest ih =>
    have payloads : unit.whole.packets.map Packet.payload = unit.payloads := unit.whole.payloads
    obtain ⟨given, later⟩ := @tail_answers _ limit unit.whole.packets link
      (fun none => unit.payloads_ne_nil (by rw [← payloads, none]; rfl)) idle.following
      (by rw [payloads]; exact unit.walk) (fun packet => packets_whole)
      (fun packet => Transmission.proper) (fun front packet back => Transmission.marker) unit.annexB
      (by rw [idle.empty, payloads, unit.written]; rfl)
    simp [stream, answers_append, given, ← ih later, ← payloads]

/-! ### The bound of the buffer -/

/-- The buffer is within its limit. -/
def Bounded (limit : Nat) (assembler : AccessUnitAssembler) : Prop :=
  assembler.annexBBuffer.length ≤ limit

variable {assembler extended : AccessUnitAssembler}

theorem extend_bounded {bytes : Octets} (fits : ¬ wouldExceedLimit limit assembler bytes.length) :
    Bounded limit (assembler.extend bytes) := by
  simpa [wouldExceedLimit, Bounded, extend] using fits

theorem appendNal_bounded {nal : Octets}
    (taken : appendNal limit assembler nal = some extended) :
    Bounded limit extended := by
  unfold appendNal at taken
  split at taken <;> cases taken
  exact extend_bounded (by rwa [length_append])

variable (within : Bounded limit assembler)
include within

theorem aggregated_bounded {rest : Octets}
    (taken : aggregated limit assembler rest = .ok extended) :
    Bounded limit extended := by
  fun_induction aggregated limit assembler rest with
  | case1 | case2 => cases taken
  | case3 assembler high low body nalLen fits extended appended ih => exact ih (appendNal_bounded appended) taken
  | case4 => cases taken; exact within

theorem takeAccessUnit_bounded : Bounded limit assembler.takeAccessUnit.1 := by
  unfold takeAccessUnit
  split <;> [exact within; exact zero_le _]

theorem closeFua_bounded (ends marker : Bool) :
    Bounded limit (closeFua assembler ends marker).1 := by
  cases ends <;> cases marker <;>
    first | exact within | exact zero_le _ | exact takeAccessUnit_bounded within

omit within in
theorem pushFua_bounded (payload : Octets) (marker : Bool) :
    Bounded limit (pushFua limit assembler payload marker).1 := by
  unfold pushFua
  split
  · dsimp only
    split
    · generalize (if assembler.fragmentationUnitActive then assembler.reset else assembler) = ready
      split
      · exact zero_le _
      next fuHeader piece _ fits =>
        have bounded (header : UInt8) : Bounded limit
            (ready.extend (startCode ++ header :: piece)) :=
          extend_bounded (by
            rwa [length_append, length_cons, Nat.add_comm _ 1, ← Nat.add_assoc])
        apply closeFua_bounded
        exact bounded _
    · split
      · split <;> [exact zero_le _; exact closeFua_bounded (extend_bounded ‹_›) _ _]
      · exact zero_le _
  · exact zero_le _

theorem pushRtpPayload_bounded (payload : Octets) (marker : Bool) :
    Bounded limit (pushRtpPayload limit assembler payload marker).1 := by
  unfold pushRtpPayload pushStapA
  dsimp only
  repeat' split
  all_goals first
    | exact within
    | exact zero_le _
    | exact takeAccessUnit_bounded (appendNal_bounded ‹_›)
    | exact appendNal_bounded ‹_›
    | exact takeAccessUnit_bounded (aggregated_bounded within ‹_›)
    | exact aggregated_bounded within ‹_›
    | exact pushFua_bounded _ _

theorem pushRtpPacket_bounded (payload : Octets) (marker : Bool) (sequenceNumber : UInt16) :
    Bounded limit
      (pushRtpPacket limit assembler payload marker sequenceNumber).1 := by
  have ready : Bounded limit (assembler.received sequenceNumber) := by
    unfold AccessUnitAssembler.received
    repeat' split
    all_goals first | exact within | exact zero_le _
  unfold pushRtpPacket AccessUnitAssembler.pushRtpPacket
  dsimp only
  repeat' split
  all_goals first | exact ready | exact pushRtpPayload_bounded ready payload marker

end

/-- **A link that loses nothing gives every access unit that is small enough**, at its marker and
whole, and nothing else; whatever the packets are, the buffer stays within its limit. -/
theorem lossless_exact (maxAccessUnitBytes : Nat) (base : UInt16) (units : List AccessUnit) :
    (answers maxAccessUnitBytes (Link.start base) (stream (units.map AccessUnit.whole)) =
      units.flatMap fun unit => List.replicate (unit.payloads.length - 1) none ++
        [if unit.annexB.length ≤ maxAccessUnitBytes then some unit.annexB else none]) ∧
    ∀ calls : List (Octets × Bool × UInt16), (calls.foldl (fun assembler call =>
      (pushRtpPacket maxAccessUnitBytes assembler call.1 call.2.1 call.2.2).1)
        fresh).annexBBuffer.length ≤ maxAccessUnitBytes := by
  refine ⟨whole_answers ⟨⟨rfl, rfl⟩, rfl⟩ units, fun calls => ?_⟩
  induction calls using reverseRecOn with
  | nil => exact zero_le _
  | append_singleton calls call ih =>
    rw [List.foldl_append]
    exact pushRtpPacket_bounded ih _ _ _

/-! ### A head that is lost -/

def defaultMaxH264AccessUnitBytes : Nat := 4 * 1024 * 1024

/-- One slice, which arrives. -/
def wholeUnit : Transmission where
  unit := ⟨[.single [0x65, 9]], by decide, by
    intro part member
    cases mem_singleton.mp member
    exact ⟨by decide, by decide⟩⟩
  delivered := [true]
  each := rfl

/-- Two slices, the first of which is lost. -/
def beheadedUnit : Transmission where
  unit := ⟨[.single [0x65, 1], .single [0x65, 2]], by decide, by
    intro part member
    rcases mem_cons.mp member with rfl | later
    · exact ⟨by decide, by decide⟩
    · cases mem_singleton.mp later
      exact ⟨by decide, by decide⟩⟩
  delivered := [false, true]
  each := rfl

theorem fewLost_of_short {sent : List Packet} (short : sent.length < 65535) : FewLost sent := by
  intro long
  have lengths := long.length_le
  rw [List.length_replicate, List.length_map] at lengths
  exact absurd short (Nat.not_lt.mpr lengths)

theorem torn_picture : FewLost (stream [wholeUnit, beheadedUnit]) ∧
    ¬ Intact defaultMaxH264AccessUnitBytes 0 [wholeUnit, beheadedUnit] := by
  refine ⟨fewLost_of_short (by decide), fun intact => ?_⟩
  obtain ⟨transmission, member, same⟩ := intact [0, 0, 0, 1, 0x65, 2] (by decide)
  revert transmission
  decide

theorem intact_iff_sample : Intact defaultMaxH264AccessUnitBytes 0 [wholeUnit, beheadedUnit] ↔
    ∀ tail, BeheadedTail defaultMaxH264AccessUnitBytes 0 [wholeUnit, beheadedUnit] tail →
      ∃ transmission ∈ [wholeUnit, beheadedUnit], written tail = transmission.unit.annexB :=
  intact_iff defaultMaxH264AccessUnitBytes 0 [wholeUnit, beheadedUnit] (fewLost_of_short (by decide))

end H264

end MiniRemoteDesktop.Rtp
