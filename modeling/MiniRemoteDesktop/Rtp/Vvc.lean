/-
**VVC access units over RTP** (`mrd-transport-webrtc`).

The payloader cuts a NAL unit that is longer than the MTU into fragmentation units; the assembler puts
them together. An assembler gives an access unit away at the end of a fragmented NAL unit, and does not
wait for the marker there, as the H.264 one does.

* `VvcPayloader.payload`, `Vvc.pushRtpPayload` — the two directions, as the source has them.
* `vvc_roundTrip_iff` — **an access unit comes back whole, on the marker packet, just when no NAL unit
  but its last one is longer than the MTU**.
-/

import MiniRemoteDesktop.Rtp.Assembler

namespace MiniRemoteDesktop.Rtp

open AccessUnitAssembler

/-! ### The payloader -/

def vvcNalType (nal : Octets) : UInt8 :=
  match nal with
  | _ :: second :: _ => (second >>> 3) &&& 0x1f
  | _ => 32

/-- The loop of `emit_vvc_nal` over what is left of a NAL unit; the size is positive. -/
def vvcFragments (payloadHeader : Octets) (nalType : UInt8) (maxFragmentSize : Nat) (first : Bool)
    (rest : Octets) : List Octets :=
  if _stop : rest.length = 0 ∨ maxFragmentSize = 0 then []
  else
    let fuHeader := if first then nalType ||| 0x80 else nalType
    let fuHeader := if rest.length ≤ maxFragmentSize then fuHeader ||| 0x40 else fuHeader
    (payloadHeader ++ fuHeader :: rest.take maxFragmentSize) ::
      vvcFragments payloadHeader nalType maxFragmentSize false (rest.drop maxFragmentSize)
termination_by rest.length
decreasing_by
  rw [List.length_drop]
  omega

def emitVvcNal (nal : Octets) (mtu : Nat) : List Octets :=
  match nal with
  | first :: second :: body =>
    if nal.length ≤ mtu then [nal]
    else if mtu - 3 = 0 then []
    else vvcFragments [first, (29 : UInt8) <<< 3 ||| (second &&& 0x07)] (vvcNalType nal) (mtu - 3) true body
  | _ => []

def VvcPayloader.payload (mtu : Nat) (payload : Octets) : List Octets :=
  if payload = [] ∨ mtu = 0 then []
  else
    let nals := annexBNalUnits payload
    if nals = [] then emitVvcNal payload mtu else nals.flatMap fun nal => emitVvcNal nal mtu

/-! ### The assembler -/

variable {nal : Octets} {mtu : Nat}

namespace Vvc

def appendNal (assembler : AccessUnitAssembler) (nal : Octets) : AccessUnitAssembler :=
  assembler.extend (startCode ++ nal)

/-- The loop over the NAL units of an aggregation packet; `none` where a length is wrong. -/
def aggregated (assembler : AccessUnitAssembler) (rest : Octets) : Option AccessUnitAssembler :=
  match rest with
  | [] => some assembler
  | [_] => none
  | high :: low :: body =>
    let nalLen := high.toNat * 256 + low.toNat
    if nalLen = 0 ∨ body.length < nalLen then none
    else aggregated (appendNal assembler (body.take nalLen)) (body.drop nalLen)
termination_by rest.length
decreasing_by
  rw [List.length_drop]
  simp only [List.length_cons]
  omega

def pushAggregationPacket (assembler : AccessUnitAssembler) (payload : Octets) (marker : Bool) :
    AccessUnitAssembler × Option Octets :=
  if payload.length < 4 then (assembler.reset, none)
  else
    match aggregated assembler (payload.drop 2) with
    | none => (assembler.reset, none)
    | some assembler => if marker then assembler.takeAccessUnit else (assembler, none)

def pushFragmentationUnit (assembler : AccessUnitAssembler) (payload : Octets) (marker : Bool) :
    AccessUnitAssembler × Option Octets :=
  match payload with
  | first :: second :: fuHeader :: piece =>
    if piece = [] then (assembler.reset, none)
    else
      let starts := fuHeader &&& 0x80 != 0
      let ends := fuHeader &&& 0x40 != 0
      let fuType := fuHeader &&& 0x1f
      let reconstructedNalHeader := [first, (fuType <<< 3) ||| (second &&& 0x07)]
      if starts = false ∧ assembler.fragmentationUnitActive = false then (assembler.reset, none)
      else
        let assembler :=
          if starts then
            let assembler := if assembler.fragmentationUnitActive then assembler.reset else assembler
            { assembler.extend (startCode ++ reconstructedNalHeader ++ piece) with
              fragmentationUnitActive := true }
          else assembler.extend piece
        if ends || marker then
          { assembler with fragmentationUnitActive := false }.takeAccessUnit
        else (assembler, none)
  | _ => (assembler.reset, none)

def pushRtpPayload (assembler : AccessUnitAssembler) (payload : Octets) (marker : Bool) :
    AccessUnitAssembler × Option Octets :=
  if payload.length < 2 then (assembler, none)
  else
    let nalType := vvcNalType payload
    if nalType ≤ 27 then
      let assembler := appendNal assembler payload
      if marker then assembler.takeAccessUnit else (assembler, none)
    else if nalType = 28 then pushAggregationPacket assembler payload marker
    else if nalType = 29 then pushFragmentationUnit assembler payload marker
    else if marker then (assembler.reset, none)
    else (assembler, none)

def pushRtpPacket : AccessUnitAssembler → Octets → Bool → UInt16 → AccessUnitAssembler × Option Octets :=
  AccessUnitAssembler.pushRtpPacket pushRtpPayload

/-- **The packets of an access unit in order**, with consecutive sequence numbers: what each call
answers. With `whole` the marker is on the last packet, and else on none. -/
def feed (whole : Bool) (assembler : AccessUnitAssembler) (sequenceNumber : UInt16) :
    List Octets → AccessUnitAssembler × List (Option Octets)
  | [] => (assembler, [])
  | payload :: rest =>
    let pushed := pushRtpPacket assembler payload (whole && rest.isEmpty) sequenceNumber
    let others := feed whole pushed.1 (sequenceNumber + 1) rest
    (others.1, pushed.2 :: others.2)

/-! ### Headers -/

/-- The second byte of a fragmentation unit says that it is one, and keeps the layer bits. -/
theorem fragment_header : ∀ second : UInt8,
    (((29 : UInt8) <<< 3 ||| (second &&& 0x07)) >>> 3) &&& 0x1f = 29 ∧
      ((29 : UInt8) <<< 3 ||| (second &&& 0x07)) &&& 0x07 = second &&& 0x07 :=
  forall_byte (by decide +kernel)

/-- The flags of a fragmentation unit do not touch its type. -/
theorem fragment_flags (second : UInt8) (first last : Bool) :
    let nalType := (second >>> 3) &&& 0x1f
    let marked := if first then nalType ||| 0x80 else nalType
    let fuHeader := if last then marked ||| 0x40 else marked
    (fuHeader &&& 0x80 != 0) = first ∧ (fuHeader &&& 0x40 != 0) = last ∧ fuHeader &&& 0x1f = nalType ∧
      nalType <<< 3 ||| (second &&& 0x07) = second := by
  revert second
  cases first <;> cases last <;> exact forall_byte (by decide +kernel)

/-! ### One NAL unit -/

/-- A NAL unit that the payloader may be given. -/
structure VvcNal (nal : Octets) : Prop extends Plain nal where
  long : 2 ≤ nal.length
  kind : vvcNalType nal ≤ 27

/-- The assembler is inside an access unit, no packet is missing, and no NAL unit is open. -/
structure Ready (assembler : AccessUnitAssembler) (sequenceNumber : UInt16) : Prop where
  taking : assembler.dropUntilMarker = false
  follows : ∀ previous, assembler.lastSequenceNumber = some previous → sequenceNumber = previous + 1

variable {assembler : AccessUnitAssembler} {sequenceNumber : UInt16}

theorem Ready.received (ready : Ready assembler sequenceNumber) :
    assembler.received sequenceNumber = assembler.withLast sequenceNumber := by
  unfold AccessUnitAssembler.received
  split
  · rfl
  next previous last =>
    rw [if_neg fun both => both.1 (ready.follows previous last)]

theorem Ready.pushRtpPacket (ready : Ready assembler sequenceNumber) (payload : Octets)
    (marker : Bool) :
    pushRtpPacket assembler payload marker sequenceNumber =
      pushRtpPayload (assembler.withLast sequenceNumber) payload marker := by
  unfold Vvc.pushRtpPacket AccessUnitAssembler.pushRtpPacket
  rw [ready.received]
  have taking : (assembler.withLast sequenceNumber).dropUntilMarker = false := ready.taking
  simp [taking]

/-- What a fragment adds to the buffer. -/
def opening (start : Bool) (first second : UInt8) : Octets :=
  if start then startCode ++ [first, second] else []

/-- **One fragment**, on an assembler that has the NAL unit open unless the fragment opens it. -/
theorem push_fragment (assembler : AccessUnitAssembler) {start : Bool}
    (active : assembler.fragmentationUnitActive = !start) (first second : UInt8) (last : Bool)
    {piece : Octets} (some : piece ≠ []) (marker : Bool) :
    pushRtpPayload assembler ([first, (29 : UInt8) <<< 3 ||| (second &&& 0x07)] ++
        (let marked := if start then ((second >>> 3) &&& 0x1f) ||| 0x80 else (second >>> 3) &&& 0x1f
          if last then marked ||| 0x40 else marked) :: piece) marker =
      (let buffer := assembler.annexBBuffer ++ (opening start first second ++ piece)
        if last || marker then
          ({ assembler with annexBBuffer := [], fragmentationUnitActive := false }, .some buffer)
        else ({ assembler with annexBBuffer := buffer, fragmentationUnitActive := true }, none)) := by
  obtain ⟨starts, ends, kind, rebuilt⟩ := fragment_flags second start last
  obtain ⟨unit, layer⟩ := fragment_header second
  dsimp only at starts ends kind rebuilt ⊢
  generalize (if last then (if start then ((second >>> 3) &&& 0x1f) ||| 0x80 else (second >>> 3) &&& 0x1f)
    ||| 0x40 else if start then ((second >>> 3) &&& 0x1f) ||| 0x80 else (second >>> 3) &&& 0x1f) =
      fuHeader at starts ends kind
  have kind29 : vvcNalType ([first, (29 : UInt8) <<< 3 ||| (second &&& 0x07)] ++ fuHeader :: piece) = 29 :=
    unit
  have long : ¬ ([first, (29 : UInt8) <<< 3 ||| (second &&& 0x07)] ++ fuHeader :: piece).length < 2 := by
    simp
  unfold pushRtpPayload
  dsimp only
  rw [if_neg long, kind29, if_neg (by decide), if_neg (by decide), if_pos rfl]
  show pushFragmentationUnit assembler (first :: _ :: fuHeader :: piece) marker = _
  unfold pushFragmentationUnit
  dsimp only
  rw [if_neg some, starts, ends, kind, layer, rebuilt, active]
  have filled : assembler.annexBBuffer ++ piece ≠ [] := by simp [some]
  cases start with
  | true => cases last || marker <;> simp [takeAccessUnit, extend, opening, startCode]
  | false => cases last || marker <;> simp [takeAccessUnit, extend, opening, filled, active]

/-- An assembler between two NAL units. -/
structure Between (assembler : AccessUnitAssembler) (sequenceNumber : UInt16) : Prop extends
    Ready assembler sequenceNumber where
  closed : assembler.fragmentationUnitActive = false

/-- The next packet is ready for what has just taken a packet. -/
theorem Ready.next (taking : assembler.dropUntilMarker = false)
    (last : assembler.lastSequenceNumber = some sequenceNumber) :
    Ready assembler (sequenceNumber + 1) :=
  ⟨taking, fun previous same => by rw [Option.some.inj (last.symm.trans same)]⟩

theorem ofNat_succ (sequenceNumber : UInt16) (count : Nat) :
    sequenceNumber + 1 + UInt16.ofNat count = sequenceNumber + UInt16.ofNat (count + 1) := by
  simp [UInt16.add_assoc, UInt16.add_comm 1]

/-- **A fragmented NAL unit gives the access unit away**, with or without a marker. -/
theorem feed_fragments {size : Nat} (positive : 0 < size) (whole : Bool) (first second : UInt8)
    {rest : Octets} (some : rest ≠ []) {start : Bool} (ready : Ready assembler sequenceNumber)
    (active : assembler.fragmentationUnitActive = !start) :
    ∃ count last, (vvcFragments [first, (29 : UInt8) <<< 3 ||| (second &&& 0x07)]
        ((second >>> 3) &&& 0x1f) size start rest).length = count + 1 ∧
      feed whole assembler sequenceNumber
          (vvcFragments [first, (29 : UInt8) <<< 3 ||| (second &&& 0x07)] ((second >>> 3) &&& 0x1f) size
            start rest) =
        (last, List.replicate count none ++
          [.some (assembler.annexBBuffer ++ (opening start first second ++ rest))]) ∧
      last.annexBBuffer = [] ∧ Between last (sequenceNumber + UInt16.ofNat (count + 1)) := by
  induction length : rest.length using Nat.strong_induction_on generalizing rest start assembler
    sequenceNumber with
  | _ length ih =>
    subst length
    have piece : rest.take size ≠ [] := by
      intro none
      rcases List.take_eq_nil_iff.mp none with zero | empty
      · omega
      · exact some empty
    have positive' : rest.length ≠ 0 := fun none => some (List.length_eq_zero_iff.mp none)
    have pushed := push_fragment (assembler.withLast sequenceNumber) active first second
      (decide (rest.length ≤ size)) piece
    rw [vvcFragments, dif_neg (by omega)]
    dsimp only at pushed ⊢
    simp only [decide_eq_true_iff] at pushed
    generalize later : vvcFragments [first, (29 : UInt8) <<< 3 ||| (second &&& 0x07)]
      ((second >>> 3) &&& 0x1f) size false (rest.drop size) = others
    rw [feed, ready.pushRtpPacket, pushed]
    by_cases short : rest.length ≤ size
    · have none : others = [] := by
        rw [← later, List.drop_of_length_le short, vvcFragments, dif_pos (.inl rfl)]
      rw [none, List.take_of_length_le short, decide_eq_true short, Bool.true_or, if_pos rfl]
      refine ⟨0, _, rfl, rfl, rfl, Ready.next ready.taking rfl, rfl⟩
    · have left : rest.drop size ≠ [] := by
        intro none
        have dropped := congrArg List.length none
        rw [List.length_drop, List.length_nil] at dropped
        omega
      have shorter : (rest.drop size).length < rest.length := by
        rw [List.length_drop]
        omega
      have more : others ≠ [] := by
        rw [← later, vvcFragments, dif_neg (by rw [List.length_eq_zero_iff]; simp [left]; omega)]
        exact List.cons_ne_nil _ _
      rw [decide_eq_false short, List.isEmpty_eq_false_iff.mpr more, Bool.and_false, Bool.or_self,
        if_neg Bool.false_ne_true]
      have open_ : Ready { assembler.withLast sequenceNumber with
          annexBBuffer := assembler.annexBBuffer ++ (opening start first second ++ rest.take size)
          fragmentationUnitActive := true } (sequenceNumber + 1) := Ready.next ready.taking rfl
      obtain ⟨count, last, counted, fed, empty, between⟩ :=
        ih _ shorter left open_ (show _ = !false from rfl) rfl
      rw [later] at counted fed
      refine ⟨count + 1, last, congrArg Nat.succ counted, ?_, empty, ?_⟩
      · dsimp only at fed ⊢
        rw [show (assembler.withLast sequenceNumber).annexBBuffer = assembler.annexBBuffer from rfl, fed]
        simp [opening, List.replicate_succ]
      · rw [← ofNat_succ]
        exact between

/-! ### Access units -/

theorem feed_append (whole : Bool) (assembler : AccessUnitAssembler) (sequenceNumber : UInt16)
    (front : List Octets) {back : List Octets} (some : back ≠ []) :
    feed whole assembler sequenceNumber (front ++ back) =
      (let first := feed false assembler sequenceNumber front
        let second := feed whole first.1 (sequenceNumber + UInt16.ofNat front.length) back
        (second.1, first.2 ++ second.2)) := by
  induction front generalizing assembler sequenceNumber with
  | nil => simp [feed]
  | cons payload rest ih =>
    have more : (rest ++ back).isEmpty = false :=
      List.isEmpty_eq_false_iff.mpr fun none => some (List.append_eq_nil_iff.mp none).2
    rw [List.cons_append, feed, ih, feed, more, Bool.and_false, Bool.false_and, List.length_cons,
      ofNat_succ]
    rfl

/-- **A NAL unit that fits a packet** waits for the marker. -/
theorem feed_short (sound : VvcNal nal) (whole : Bool) (between : Between assembler sequenceNumber) :
    ∃ last, feed whole assembler sequenceNumber [nal] =
        (last, [if whole then some (assembler.annexBBuffer ++ (startCode ++ nal)) else none]) ∧
      (whole = false → last.annexBBuffer = assembler.annexBBuffer ++ (startCode ++ nal)) ∧
      Between last (sequenceNumber + 1) := by
  have long : ¬ nal.length < 2 := by have := sound.long; omega
  have filled : assembler.annexBBuffer ++ (startCode ++ nal) ≠ [] := by simp [startCode]
  rw [feed, between.toReady.pushRtpPacket, pushRtpPayload, if_neg long]
  dsimp only
  rw [if_pos sound.kind]
  cases whole with
  | true =>
    have taken : (appendNal (assembler.withLast sequenceNumber) nal).takeAccessUnit =
        ({ assembler.withLast sequenceNumber with annexBBuffer := [] },
          some (assembler.annexBBuffer ++ (startCode ++ nal))) := if_neg filled
    rw [List.isEmpty_nil, Bool.and_self, if_pos rfl, taken]
    exact ⟨_, rfl, by rintro ⟨⟩, Ready.next between.taking rfl, between.closed⟩
  | false => exact ⟨_, rfl, fun _ => rfl, Ready.next between.taking rfl, between.closed⟩

/-- **A NAL unit that does not fit a packet** ends the access unit. -/
theorem feed_long (sound : VvcNal nal) (least : 4 ≤ mtu) (exceeds : mtu < nal.length) (whole : Bool)
    (between : Between assembler sequenceNumber) :
    ∃ count last, (emitVvcNal nal mtu).length = count + 1 ∧
      feed whole assembler sequenceNumber (emitVvcNal nal mtu) =
        (last, List.replicate count none ++ [some (assembler.annexBBuffer ++ (startCode ++ nal))]) := by
  rcases nal with _ | ⟨first, _ | ⟨second, body⟩⟩
  · exact absurd sound.long (by decide)
  · exact absurd sound.long (by simp)
  have some : body ≠ [] := by
    rintro rfl
    simp only [List.length_cons, List.length_nil] at exceeds
    omega
  obtain ⟨count, last, counted, fed, _⟩ := feed_fragments (by omega : 0 < mtu - 3) whole first
    second some between.toReady (show _ = !true from between.closed)
  rw [emitVvcNal, if_neg (by omega), if_neg (by omega)]
  refine ⟨count, last, counted, ?_⟩
  show feed whole assembler sequenceNumber
    (vvcFragments [first, (29 : UInt8) <<< 3 ||| (second &&& 0x07)] ((second >>> 3) &&& 0x1f) (mtu - 3)
      true body) = _
  rw [fed]
  rfl

theorem emitVvcNal_ne (sound : VvcNal nal) (least : 4 ≤ mtu) :
    emitVvcNal nal mtu ≠ [] := by
  rcases nal with _ | ⟨first, _ | ⟨second, body⟩⟩
  · exact absurd sound.long (by decide)
  · exact absurd sound.long (by simp)
  · intro none
    rw [emitVvcNal] at none
    split at none
    · cases none
    next exceeds =>
      rw [if_neg (by omega), vvcFragments, dif_neg] at none
      · cases none
      · simp only [List.length_cons] at exceeds
        omega

variable {nals : List Octets}

theorem flatMap_emitVvcNal (sound : ∀ nal ∈ nals, VvcNal nal) (fit : ∀ nal ∈ nals, nal.length ≤ mtu) :
    nals.flatMap (fun nal => emitVvcNal nal mtu) = nals := by
  induction nals with
  | nil => rfl
  | cons nal rest ih =>
    have one : emitVvcNal nal mtu = [nal] := by
      have long := (sound nal (.head _)).long
      rcases nal with _ | ⟨first, _ | ⟨second, body⟩⟩
      · exact absurd long (by decide)
      · exact absurd long (by simp)
      · rw [emitVvcNal, if_pos (fit _ (.head _))]
    rw [List.flatMap_cons, one, ih (List.forall_mem_cons.mp sound).2
      fun other member => fit other (.tail _ member)]
    rfl

theorem feed_front (sound : ∀ nal ∈ nals, VvcNal nal) (between : Between assembler sequenceNumber) :
    ∃ last, feed false assembler sequenceNumber nals = (last, List.replicate nals.length none) ∧
      last.annexBBuffer = assembler.annexBBuffer ++ joined nals ∧
      Between last (sequenceNumber + UInt16.ofNat nals.length) := by
  induction nals generalizing assembler sequenceNumber with
  | nil =>
    refine ⟨assembler, rfl, (List.append_nil _).symm, ?_⟩
    simpa using between
  | cons nal rest ih =>
    obtain ⟨middle, fed, buffer, ready⟩ := feed_short (sound nal (.head _)) false between
    obtain ⟨last, others, joins, after⟩ :=
      ih (List.forall_mem_cons.mp sound).2 ready
    refine ⟨last, ?_, ?_, ?_⟩
    · have pushed := congrArg Prod.fst fed
      have answered := congrArg Prod.snd fed
      simp only [feed, Bool.false_and] at pushed answered ⊢
      rw [pushed, others, (List.cons.inj answered).1]
      rfl
    · simp [joins, buffer rfl, joined]
    · rw [List.length_cons, ← ofNat_succ]
      exact after

/-- The last NAL unit brings the access unit, whether it fits or not. -/
theorem feed_last (sound : ∀ other ∈ nals ++ [nal], VvcNal other) (least : 4 ≤ mtu)
    (fit : ∀ other ∈ nals, other.length ≤ mtu) (between : Between assembler sequenceNumber) :
    ∃ count, ((nals ++ [nal]).flatMap fun other => emitVvcNal other mtu).length = count + 1 ∧
      (feed true assembler sequenceNumber ((nals ++ [nal]).flatMap fun other => emitVvcNal other mtu)).2 =
        List.replicate count none ++ [some (assembler.annexBBuffer ++ joined (nals ++ [nal]))] := by
  have before : ∀ other ∈ nals, VvcNal other :=
    fun other member => sound other (List.mem_append_left _ member)
  have final : VvcNal nal := sound nal (List.mem_append_right _ (.head _))
  obtain ⟨middle, first, buffer, ready⟩ := feed_front before between
  have tail : ∃ count, (emitVvcNal nal mtu).length = count + 1 ∧
      (feed true middle (sequenceNumber + UInt16.ofNat nals.length) (emitVvcNal nal mtu)).2 =
        List.replicate count none ++ [some (middle.annexBBuffer ++ (startCode ++ nal))] := by
    by_cases short : nal.length ≤ mtu
    · have one := @flatMap_emitVvcNal mtu [nal] (by simpa using final) (by simpa using short)
      rw [List.flatMap_singleton] at one
      obtain ⟨last, fed, _⟩ := feed_short final true ready
      rw [one, fed]
      exact ⟨0, rfl, rfl⟩
    · obtain ⟨count, last, counted, fed⟩ := feed_long final least (Nat.lt_of_not_le short) true ready
      rw [fed]
      exact ⟨count, counted, rfl⟩
  obtain ⟨count, counted, answered⟩ := tail
  have some : emitVvcNal nal mtu ≠ [] := by
    intro none
    simp [none] at counted
  rw [List.flatMap_append, List.flatMap_singleton, flatMap_emitVvcNal before fit,
    feed_append true _ _ _ some, first]
  refine ⟨nals.length + count, by rw [List.length_append, counted, Nat.add_assoc], ?_⟩
  dsimp only
  rw [answered, buffer, ← List.append_assoc, List.replicate_append_replicate, joined, joined,
    List.flatMap_append, List.flatMap_singleton, List.append_assoc]

/-- **A longer NAL unit in front of another** breaks the access unit in two. -/
theorem feed_broken {front back : List Octets} (sound : ∀ other ∈ front ++ nal :: back, VvcNal other)
    (least : 4 ≤ mtu) (fit : ∀ other ∈ front, other.length ≤ mtu) (exceeds : mtu < nal.length)
    (more : back ≠ []) (between : Between assembler sequenceNumber) :
    ∃ index answer, index + 1 <
        ((front ++ nal :: back).flatMap fun other => emitVvcNal other mtu).length ∧
      (feed true assembler sequenceNumber
        ((front ++ nal :: back).flatMap fun other => emitVvcNal other mtu)).2[index]? =
          some (some answer) := by
  obtain ⟨middle, first, _, ready⟩ :=
    feed_front (fun other member => sound other (List.mem_append_left _ member)) between
  have back' : ∀ other ∈ nal :: back, VvcNal other :=
    fun other member => sound other (List.mem_append_right _ member)
  obtain ⟨count, last, counted, fed⟩ :=
    feed_long (back' nal (.head _)) least exceeds false ready
  have others : back.flatMap (fun other => emitVvcNal other mtu) ≠ [] := by
    rcases back with _ | ⟨other, rest⟩
    · exact absurd rfl more
    · intro none
      rw [List.flatMap_cons, List.append_eq_nil_iff] at none
      have emitted := emitVvcNal_ne (back' other (.tail _ (.head _))) least
      exact emitted none.1
  have emitted : emitVvcNal nal mtu ≠ [] := emitVvcNal_ne (back' nal (.head _)) least
  rw [List.flatMap_append, List.flatMap_cons,
    flatMap_emitVvcNal (fun other member => sound other (List.mem_append_left _ member)) fit,
    feed_append true _ _ _ (List.append_ne_nil_of_left_ne_nil emitted _), first]
  dsimp only
  rw [feed_append true _ _ _ others, fed]
  refine ⟨front.length + count, middle.annexBBuffer ++ (startCode ++ nal), ?_, ?_⟩
  · have positive := List.length_pos_iff.mpr others
    rw [List.length_append, List.length_append, counted]
    omega
  · dsimp only
    rw [List.getElem?_append_right (by rw [List.length_replicate]; omega),
      List.getElem?_append_left (by simp), List.getElem?_append_right (by simp)]
    simp

end Vvc

/-- **The round trip**: one access unit, on the marker packet, with all NAL units in order. -/
def VvcRoundTrips (mtu : Nat) (base : UInt16) (units : List (Bool × Octets)) : Prop :=
  (Vvc.feed true fresh base (VvcPayloader.payload mtu (annexB units))).2 =
    List.replicate ((VvcPayloader.payload mtu (annexB units)).length - 1) none ++
      [some (joined (units.map Prod.snd))]

namespace Vvc

theorem payload_annexB {units : List (Bool × Octets)} (some : units ≠ [])
    (sound : ∀ unit ∈ units, VvcNal unit.2) (positive : mtu ≠ 0) :
    VvcPayloader.payload mtu (annexB units) =
      (units.map Prod.snd).flatMap fun nal => emitVvcNal nal mtu := by
  have written : annexB units ≠ [] := by
    rcases units with _ | ⟨⟨short, nal⟩, rest⟩
    · exact absurd rfl some
    · cases short <;> exact List.cons_ne_nil _ _
  have parsed : annexBNalUnits (annexB units) = units.map Prod.snd :=
    annexBNalUnits_annexB fun unit member => (sound unit member).toPlain
  have listed : units.map Prod.snd ≠ [] := by simpa using some
  rw [VvcPayloader.payload, if_neg (by simp [written, positive]), parsed]
  exact if_neg listed

theorem exists_first {list : List Octets} (member : nal ∈ list) (exceeds : ¬ nal.length ≤ mtu) :
    ∃ front long back, list = front ++ long :: back ∧
      (∀ other ∈ front, other.length ≤ mtu) ∧ mtu < long.length := by
  induction list with
  | nil => cases member
  | cons head rest ih =>
    by_cases fits : head.length ≤ mtu
    · rcases List.mem_cons.mp member with rfl | later
      · exact absurd fits exceeds
      · obtain ⟨front, long, back, rfl, fit, longer⟩ := ih later
        refine ⟨head :: front, long, back, rfl, fun other listed => ?_, longer⟩
        rcases List.mem_cons.mp listed with rfl | inside
        · exact fits
        · exact fit other inside
    · exact ⟨[], head, rest, rfl, List.forall_mem_nil _, Nat.lt_of_not_le fits⟩

end Vvc

open Vvc

/-- **The round trip succeeds just when no NAL unit but the last one is fragmented.** -/
theorem vvc_roundTrip_iff (units : List (Bool × Octets)) (some : units ≠ [])
    (sound : ∀ unit ∈ units, VvcNal unit.2) (mtu : Nat) (least : 4 ≤ mtu) (base : UInt16) :
    VvcRoundTrips mtu base units ↔ ∀ nal ∈ (units.map Prod.snd).dropLast, nal.length ≤ mtu := by
  have nals : ∀ nal ∈ units.map Prod.snd, VvcNal nal := by
    intro nal member
    obtain ⟨unit, listed, rfl⟩ := List.mem_map.mp member
    exact sound unit listed
  have between : Between fresh base := ⟨⟨rfl, nofun⟩, rfl⟩
  unfold VvcRoundTrips
  rw [payload_annexB some sound (by omega)]
  rcases List.eq_nil_or_concat (units.map Prod.snd) with none | ⟨before, last, listed⟩
  · exact absurd (List.map_eq_nil_iff.mp none) some
  rw [List.concat_eq_append] at listed
  rw [listed] at nals ⊢
  rw [List.dropLast_concat]
  constructor
  · intro trips nal member
    by_contra exceeds
    -- the first one that does not fit stands in front of another
    obtain ⟨front, long, back, rfl, fit, longer⟩ := exists_first member exceeds
    have split : (front ++ long :: back) ++ [last] = front ++ long :: (back ++ [last]) := by
      simp
    rw [split] at trips nals
    obtain ⟨index, answer, inside, answered⟩ :=
      feed_broken nals least fit longer (List.append_ne_nil_of_right_ne_nil _ (List.cons_ne_nil _ _))
        between
    rw [trips, List.getElem?_append_left (by rw [List.length_replicate]; omega),
      List.getElem?_replicate, if_pos (by omega)] at answered
    cases answered
  · intro fit
    obtain ⟨count, counted, answered⟩ := feed_last nals least fit between
    rw [answered, counted]
    rfl

/-- A fragmented NAL unit in front of another one: both are given away alone. -/
def brokenUnits : List (Bool × Octets) := [(false, [1, 8, 1, 2, 3]), (false, [1, 8, 9])]

theorem brokenUnits_sound : ∀ unit ∈ brokenUnits, VvcNal unit.2 := by
  intro unit member
  rcases List.mem_cons.mp member with rfl | later
  · exact ⟨⟨by decide, by decide, by decide⟩, by decide, by decide⟩
  · cases List.mem_singleton.mp later
    exact ⟨⟨by decide, by decide, by decide⟩, by decide, by decide⟩

theorem vvc_does_not_roundTrip : brokenUnits ≠ [] ∧ (∀ unit ∈ brokenUnits, VvcNal unit.2) ∧
    ¬ VvcRoundTrips 4 0 brokenUnits := by
  refine ⟨by decide, brokenUnits_sound, fun trips => ?_⟩
  unfold VvcRoundTrips at trips
  rw [Vvc.payload_annexB (by decide) brokenUnits_sound (by decide)] at trips
  revert trips
  decide +kernel

theorem vvc_roundTrip_iff_sample : VvcRoundTrips 5 65535 brokenUnits :=
  (vvc_roundTrip_iff brokenUnits (by decide) brokenUnits_sound 5 (by decide) 65535).mpr (by decide)

end MiniRemoteDesktop.Rtp
