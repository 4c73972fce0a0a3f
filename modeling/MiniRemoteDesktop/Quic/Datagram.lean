/-
**Media datagrams of the QUIC transport** (`mrd-transport-quic-quinn`).

A frame is sent as fragments, each in a datagram of its own. There are two header formats: version 3
of the media format, and the older one of access units. A fragment is the number of its frame, its
place in it, its piece of the payload, and the metadata that all fragments of a frame share; only the
last differs between the formats.

* `QuicMediaFragment.encodeWithPayload`, `QuicMediaFragment.decode` and their `QuicAuFragment`
  counterparts — the two header formats.
* `fragmentMediaPayloadV3`, `fragmentAccessUnit` — the fragmenters, and `pieces`, what they cut the
  payload into.
* `media_decode_encode`, `au_decode_encode` — **what the decoder reads of a datagram**: the fragment
  that was written, except that a media piece of `2^32` bytes or more is refused, because its length
  does not fit the header.
-/

import MiniRemoteDesktop.Lib.Checked
import MiniRemoteDesktop.Lib.Chunks
import MiniRemoteDesktop.Lib.Word

namespace MiniRemoteDesktop.Quic

open Bytes Checked Chunks

/-! ### Fragments -/

/-- `QuinnTransportError::Message`. -/
inductive QuinnTransportError
  | message (text : String)

/-- A fragment of a frame; `info` is what all fragments of the frame agree on. -/
structure Fragment (μ : Type) where
  frameId : UInt32
  info : μ
  (fragmentIndex fragmentCount : UInt16)
  payload : List UInt8

inductive QuicMediaPayloadType
  | accessUnit
  | probe
  | control
  deriving DecidableEq

inductive QuicMediaCodec
  | none
  | h264
  | hevc
  | av1
  deriving DecidableEq

/-- The metadata of a media frame. -/
structure MediaInfo where
  payloadType : QuicMediaPayloadType
  codec : QuicMediaCodec
  profileId : UInt32
  timestampUs : UInt64
  flags : UInt8
  deriving DecidableEq

/-- The metadata of an access unit. -/
structure AuInfo where
  timestampUs : UInt64
  isKeyframe : Bool
  deriving DecidableEq

abbrev QuicMediaFragment := Fragment MediaInfo

abbrev QuicAuFragment := Fragment AuInfo

/-! ### The access unit format -/

def quicAuFragmentHeaderLen : Nat := 17

namespace QuicAuFragment

def encodeWithPayload (fragment : QuicAuFragment) (payload : List UInt8) : List UInt8 :=
  littleEndian fragment.frameId ++ (littleEndian fragment.info.timestampUs ++
    ([if fragment.info.isKeyframe then 1 else 0] ++ (littleEndian fragment.fragmentIndex ++
      (littleEndian fragment.fragmentCount ++ payload))))

def decodeHeader (datagram : List UInt8) : Except QuinnTransportError QuicAuFragment :=
  if datagram.length < quicAuFragmentHeaderLen then .error (.message "datagram too small")
  else
    let frameId := littleEndianAt UInt32 datagram 0
    let timestampUs := littleEndianAt UInt64 datagram 4
    let isKeyframe := byteAt datagram 12 != 0
    let fragmentIndex := littleEndianAt UInt16 datagram 13
    let fragmentCount := littleEndianAt UInt16 datagram 15
    if fragmentCount = 0 then .error (.message "fragment_count must be non-zero")
    else if fragmentCount ≤ fragmentIndex then .error (.message "fragment_index out of range")
    else .ok ⟨frameId, ⟨timestampUs, isKeyframe⟩, fragmentIndex, fragmentCount, []⟩

def decode (datagram : List UInt8) : Except QuinnTransportError QuicAuFragment := do
  let fragment ← decodeHeader datagram
  return { fragment with payload := datagram.drop quicAuFragmentHeaderLen }

/-- `decode_owned`: the payload is a window of the datagram's own storage. -/
def decodeOwned (datagram : List UInt8) : Except QuinnTransportError QuicAuFragment := do
  let fragment ← decodeHeader datagram
  return { fragment with
    payload := slice datagram quicAuFragmentHeaderLen (datagram.length - quicAuFragmentHeaderLen) }

end QuicAuFragment

/-! ### The media format, version 3 -/

def quicMediaV3Magic : UInt32 := 0x3344524d

def quicMediaV3Version : UInt8 := 3

def quicMediaV3FragmentHeaderLen : Nat := 32

def quicMediaV3FlagKeyframe : UInt8 := 1

/-- The discriminants of `#[repr(u8)] enum QuicMediaPayloadType`. -/
def QuicMediaPayloadType.code : QuicMediaPayloadType → UInt8
  | .accessUnit => 1
  | .probe => 2
  | .control => 3

def QuicMediaPayloadType.decode (value : UInt8) :
    Except QuinnTransportError QuicMediaPayloadType :=
  if value = 1 then .ok .accessUnit
  else if value = 2 then .ok .probe
  else if value = 3 then .ok .control
  else .error (.message ("unknown media v3 payload type " ++ toString value))

/-- The discriminants of `#[repr(u8)] enum QuicMediaCodec`. -/
def QuicMediaCodec.code : QuicMediaCodec → UInt8
  | .none => 0
  | .h264 => 1
  | .hevc => 2
  | .av1 => 3

def QuicMediaCodec.decode (value : UInt8) : Except QuinnTransportError QuicMediaCodec :=
  if value = 0 then .ok .none
  else if value = 1 then .ok .h264
  else if value = 2 then .ok .hevc
  else if value = 3 then .ok .av1
  else .error (.message ("unknown media v3 codec " ++ toString value))

namespace QuicMediaFragment

def encodeWithPayload (fragment : QuicMediaFragment) (payload : List UInt8) : List UInt8 :=
  littleEndian quicMediaV3Magic ++
    ([quicMediaV3Version, fragment.info.payloadType.code, fragment.info.codec.code,
      fragment.info.flags] ++
    (littleEndian fragment.info.profileId ++ (littleEndian fragment.frameId ++
    (littleEndian fragment.info.timestampUs ++ (littleEndian fragment.fragmentIndex ++
    (littleEndian fragment.fragmentCount ++ (littleEndian (UInt32.ofNat payload.length) ++
      payload)))))))

def decodeHeader (datagram : List UInt8) : Except QuinnTransportError QuicMediaFragment :=
  if datagram.length < quicMediaV3FragmentHeaderLen then
    .error (.message "media v3 datagram too small")
  else if littleEndianAt UInt32 datagram 0 ≠ quicMediaV3Magic then
    .error (.message "invalid media v3 magic")
  else if byteAt datagram 4 ≠ quicMediaV3Version then
    .error (.message ("unsupported media v3 version " ++ toString (byteAt datagram 4)))
  else do
    let payloadType ← QuicMediaPayloadType.decode (byteAt datagram 5)
    let codec ← QuicMediaCodec.decode (byteAt datagram 6)
    let flags := byteAt datagram 7
    let profileId := littleEndianAt UInt32 datagram 8
    let frameId := littleEndianAt UInt32 datagram 12
    let timestampUs := littleEndianAt UInt64 datagram 16
    let fragmentIndex := littleEndianAt UInt16 datagram 24
    let fragmentCount := littleEndianAt UInt16 datagram 26
    let payloadLen := (littleEndianAt UInt32 datagram 28).toNat
    if fragmentCount = 0 then
      .error (.message "media v3 fragment_count must be non-zero")
    else if fragmentCount ≤ fragmentIndex then
      .error (.message "media v3 fragment_index out of range")
    else if payloadLen ≠ (datagram.drop quicMediaV3FragmentHeaderLen).length then
      .error (.message "media v3 payload length mismatch")
    else
      return ⟨frameId, ⟨payloadType, codec, profileId, timestampUs, flags⟩, fragmentIndex,
        fragmentCount, []⟩

def decode (datagram : List UInt8) : Except QuinnTransportError QuicMediaFragment := do
  let fragment ← decodeHeader datagram
  return { fragment with payload := datagram.drop quicMediaV3FragmentHeaderLen }

/-- `decode_owned`: the payload is a window of the datagram's own storage. -/
def decodeOwned (datagram : List UInt8) : Except QuinnTransportError QuicMediaFragment := do
  let fragment ← decodeHeader datagram
  return { fragment with
    payload := slice datagram quicMediaV3FragmentHeaderLen
      (datagram.length - quicMediaV3FragmentHeaderLen) }

end QuicMediaFragment

/-! ### Fragmenting a payload -/

/-- The body the two fragmenters share: cut the payload into chunks and write each as a fragment; an
empty payload is one fragment of its own. -/
def fragmentPayload {μ : Type} (headerLen : Nat) (tooSmall tooMany : String)
    (encodeWithPayload : Fragment μ → List UInt8 → List UInt8) (frameId : UInt32) (info : μ)
    (payload : List UInt8) (maxDatagramSize : Nat) : Except QuinnTransportError (List (List UInt8)) :=
  if maxDatagramSize ≤ headerLen then .error (.message tooSmall)
  else
    let maxFragmentPayload := maxDatagramSize - headerLen
    let fragmentCount := max (divCeil payload.length maxFragmentPayload) 1
    if 65535 < fragmentCount then .error (.message tooMany)
    else
      let fragments := (chunks maxFragmentPayload payload).mapIdx fun fragmentIndex chunk =>
        encodeWithPayload
          ⟨frameId, info, UInt16.ofNat fragmentIndex, UInt16.ofNat fragmentCount, []⟩ chunk
      if fragments = [] then .ok [encodeWithPayload ⟨frameId, info, 0, 1, []⟩ []]
      else .ok fragments

def fragmentAccessUnit (frameId : UInt32) (timestampUs : UInt64) (isKeyframe : Bool)
    (payload : List UInt8) (maxDatagramSize : Nat) :
    Except QuinnTransportError (List (List UInt8)) :=
  fragmentPayload quicAuFragmentHeaderLen "max_datagram_size too small for fragment header"
    "fragment_count exceeds u16 range" QuicAuFragment.encodeWithPayload frameId
    ⟨timestampUs, isKeyframe⟩ payload maxDatagramSize

def fragmentMediaPayloadV3 (payloadType : QuicMediaPayloadType) (codec : QuicMediaCodec)
    (profileId frameId : UInt32) (timestampUs : UInt64) (isKeyframe : Bool)
    (payload : List UInt8) (maxDatagramSize : Nat) :
    Except QuinnTransportError (List (List UInt8)) :=
  fragmentPayload quicMediaV3FragmentHeaderLen
    "max_datagram_size too small for media v3 fragment header"
    "media v3 fragment_count exceeds u16 range" QuicMediaFragment.encodeWithPayload frameId
    ⟨payloadType, codec, profileId, timestampUs,
      if isKeyframe then quicMediaV3FlagKeyframe else 0⟩ payload maxDatagramSize

/-! ### What the fragmenters write -/

/-- What the payload is cut into: its chunks, or one empty piece. -/
def pieces (size : Nat) (payload : List UInt8) : List (List UInt8) :=
  if payload = [] then [[]] else chunks size payload

variable {size : Nat}

theorem flatten_pieces (positive : 0 < size) (payload : List UInt8) :
    (pieces size payload).flatten = payload := by
  unfold pieces
  by_cases empty : payload = []
  · simp [empty]
  · simp [empty, flatten_chunks positive]

theorem length_pieces (positive : 0 < size) (payload : List UInt8) :
    (pieces size payload).length = max (divCeil payload.length size) 1 := by
  unfold pieces
  by_cases empty : payload = []
  · simp [empty, List.length_nil, divCeil_zero]
  · have some := divCeil_pos (List.length_pos_iff.mpr empty) positive
    rw [if_neg empty, length_chunks]
    omega

variable {payload : List UInt8}

theorem length_le_of_mem_pieces {piece : List UInt8} (member : piece ∈ pieces size payload) :
    piece.length ≤ size := by
  unfold pieces at member
  by_cases empty : payload = []
  · rw [if_pos empty, List.mem_singleton] at member
    simp [member]
  · rw [if_neg empty] at member
    exact length_le_of_mem_chunks member

/-- The first piece is a full one, or the whole payload. -/
theorem length_first_piece (inside : 0 < (pieces size payload).length) :
    ((pieces size payload).get ⟨0, inside⟩).length = min size payload.length := by
  by_cases empty : payload = []
  · simp [pieces, empty]
  · simp [pieces, empty, List.get_eq_getElem, length_first_chunk _]

variable {maxDatagramSize : Nat}

/-- **What a fragmenter returns**: one datagram for each piece, in order. -/
theorem fragmentPayload_ok {μ : Type} {headerLen : Nat} {tooSmall tooMany : String}
    {encodeWithPayload : Fragment μ → List UInt8 → List UInt8} {frameId : UInt32} {info : μ}
    {datagrams : List (List UInt8)}
    (fragmented : fragmentPayload headerLen tooSmall tooMany encodeWithPayload frameId info payload
      maxDatagramSize = .ok datagrams) :
    headerLen < maxDatagramSize ∧ (pieces (maxDatagramSize - headerLen) payload).length ≤ 65535 ∧
      datagrams = (pieces (maxDatagramSize - headerLen) payload).mapIdx fun fragmentIndex piece =>
        encodeWithPayload ⟨frameId, info, UInt16.ofNat fragmentIndex,
          UInt16.ofNat (pieces (maxDatagramSize - headerLen) payload).length, []⟩ piece := by
  unfold fragmentPayload at fragmented
  by_cases small : maxDatagramSize ≤ headerLen
  · simp [small] at fragmented
  have positive : 0 < maxDatagramSize - headerLen := by omega
  simp only [if_neg small, ← length_pieces positive] at fragmented
  by_cases many : 65535 < (pieces (maxDatagramSize - headerLen) payload).length
  · simp [many] at fragmented
  rw [if_neg many] at fragmented
  refine ⟨by omega, by omega, ?_⟩
  by_cases empty : payload = []
  · have none : chunks (maxDatagramSize - headerLen) payload = [] := by
      rw [← List.length_eq_zero_iff, length_chunks, empty, List.length_nil, divCeil_zero]
    have single : pieces (maxDatagramSize - headerLen) payload = [[]] := if_pos empty
    rw [none, List.mapIdx_nil, if_pos rfl] at fragmented
    cases fragmented
    simp [single]
  · have whole : pieces (maxDatagramSize - headerLen) payload =
        chunks (maxDatagramSize - headerLen) payload := if_neg empty
    rw [← whole, if_neg] at fragmented
    · exact (Except.ok.inj fragmented).symm
    · rw [List.mapIdx_eq_nil_iff, ← List.length_eq_zero_iff, length_pieces positive]
      omega

/-- And it returns them whenever there is room for the header and not too many pieces. -/
theorem fragmentPayload_returns {μ : Type} {headerLen : Nat} {tooSmall tooMany : String}
    {encodeWithPayload : Fragment μ → List UInt8 → List UInt8} {frameId : UInt32} {info : μ}
    (header : headerLen < maxDatagramSize)
    (few : max (divCeil payload.length (maxDatagramSize - headerLen)) 1 ≤ 65535) :
    ∃ datagrams, fragmentPayload headerLen tooSmall tooMany encodeWithPayload frameId info payload
      maxDatagramSize = .ok datagrams := by
  unfold fragmentPayload
  rw [if_neg (not_le.mpr header)]
  simp only
  rw [if_neg (not_lt.mpr few)]
  split
  · exact ⟨_, rfl⟩
  · exact ⟨_, rfl⟩

/-! ### What the decoders read -/

theorem slice_rest (bytes : List UInt8) (start : Nat) :
    slice bytes start (bytes.length - start) = bytes.drop start := by
  simp [slice]

theorem media_decodeOwned (datagram : List UInt8) :
    QuicMediaFragment.decodeOwned datagram = QuicMediaFragment.decode datagram := by
  unfold QuicMediaFragment.decodeOwned QuicMediaFragment.decode
  rw [slice_rest]

theorem au_decodeOwned (datagram : List UInt8) :
    QuicAuFragment.decodeOwned datagram = QuicAuFragment.decode datagram := by
  unfold QuicAuFragment.decodeOwned QuicAuFragment.decode
  rw [slice_rest]

@[simp] theorem QuicMediaPayloadType.decode_code (payloadType : QuicMediaPayloadType) :
    QuicMediaPayloadType.decode payloadType.code = .ok payloadType := by
  cases payloadType <;> rfl

@[simp] theorem QuicMediaCodec.decode_code (codec : QuicMediaCodec) :
    QuicMediaCodec.decode codec.code = .ok codec := by
  cases codec <;> rfl

theorem length_media_datagram (fragment : QuicMediaFragment) (payload : List UInt8) :
    (QuicMediaFragment.encodeWithPayload fragment payload).length =
      quicMediaV3FragmentHeaderLen + payload.length := by
  simp [QuicMediaFragment.encodeWithPayload, quicMediaV3FragmentHeaderLen]
  omega

theorem length_au_datagram (fragment : QuicAuFragment) (payload : List UInt8) :
    (QuicAuFragment.encodeWithPayload fragment payload).length =
      quicAuFragmentHeaderLen + payload.length := by
  simp [QuicAuFragment.encodeWithPayload, quicAuFragmentHeaderLen]
  omega

theorem fragmentCount_ne_zero {index count : UInt16} (inside : index < count) : count ≠ 0 := by
  rintro rfl
  exact UInt16.not_lt_zero inside

variable {fragment : QuicMediaFragment}

/-- **A media datagram is read back**, unless its piece is too long for the header. -/
theorem media_decode_encode (inside : fragment.fragmentIndex < fragment.fragmentCount)
    (payload : List UInt8) :
    QuicMediaFragment.decode (QuicMediaFragment.encodeWithPayload fragment payload) =
      if payload.length % 2 ^ 32 ≠ payload.length then
        .error (.message "media v3 payload length mismatch")
      else .ok { fragment with payload := payload } := by
  have length := length_media_datagram fragment payload
  have rest : (QuicMediaFragment.encodeWithPayload fragment payload).drop
      quicMediaV3FragmentHeaderLen = payload := by
    simp [QuicMediaFragment.encodeWithPayload, quicMediaV3FragmentHeaderLen, drop_append_past]
  have enough : ¬ (QuicMediaFragment.encodeWithPayload fragment payload).length <
      quicMediaV3FragmentHeaderLen := by omega
  have magic : littleEndianAt UInt32 (QuicMediaFragment.encodeWithPayload fragment payload) 0 =
      quicMediaV3Magic := littleEndianAt_front _
  have header : QuicMediaFragment.decodeHeader (QuicMediaFragment.encodeWithPayload fragment payload) =
      if payload.length % 2 ^ 32 ≠ payload.length then
        .error (.message "media v3 payload length mismatch")
      else .ok { fragment with payload := [] } := by
    unfold QuicMediaFragment.decodeHeader
    rw [if_neg enough, if_neg (not_not_intro magic), rest]
    simp [QuicMediaFragment.encodeWithPayload, fragmentCount_ne_zero inside, UInt16.not_le.mpr inside]
    rfl
  unfold QuicMediaFragment.decode
  rw [header, rest]
  by_cases cut : payload.length % 2 ^ 32 ≠ payload.length
  · rw [if_pos cut, if_pos cut]
    rfl
  · rw [if_neg cut, if_neg cut]
    rfl

/-- **A datagram of an access unit is read back.** -/
theorem au_decode_encode {fragment : QuicAuFragment}
    (inside : fragment.fragmentIndex < fragment.fragmentCount) (payload : List UInt8) :
    QuicAuFragment.decode (QuicAuFragment.encodeWithPayload fragment payload) =
      .ok { fragment with payload := payload } := by
  have length := length_au_datagram fragment payload
  have rest : (QuicAuFragment.encodeWithPayload fragment payload).drop quicAuFragmentHeaderLen =
      payload := by
    simp [QuicAuFragment.encodeWithPayload, quicAuFragmentHeaderLen, drop_append_past]
  have enough : ¬ (QuicAuFragment.encodeWithPayload fragment payload).length <
      quicAuFragmentHeaderLen := by omega
  have header : QuicAuFragment.decodeHeader (QuicAuFragment.encodeWithPayload fragment payload) =
      .ok { fragment with payload := [] } := by
    have flag : ((if fragment.info.isKeyframe then 1 else 0 : UInt8) != 0) =
        fragment.info.isKeyframe := by
      cases fragment.info.isKeyframe <;> rfl
    unfold QuicAuFragment.decodeHeader
    rw [if_neg enough]
    simp [QuicAuFragment.encodeWithPayload, fragmentCount_ne_zero inside, UInt16.not_le.mpr inside,
      flag]
  simp [QuicAuFragment.decode, header, rest]

variable {datagram : List UInt8}

/-- **An accepted fragment has its place in its frame.** -/
theorem media_decode_inside (decoded : QuicMediaFragment.decode datagram = .ok fragment) :
    fragment.fragmentIndex < fragment.fragmentCount := by
  obtain ⟨header, parsed, ⟨⟩⟩ := bind_ok decoded
  have parsed := refused_ok (refused_ok (refused_ok parsed).2).2
  obtain ⟨payloadType, -, parsed⟩ := bind_ok parsed.2
  obtain ⟨codec, -, parsed⟩ := bind_ok parsed
  obtain ⟨-, parsed⟩ := refused_ok parsed
  obtain ⟨inside, parsed⟩ := refused_ok parsed
  obtain ⟨-, ⟨⟩⟩ := refused_ok parsed
  exact UInt16.not_le.mp inside

theorem au_decode_inside {fragment : QuicAuFragment}
    (decoded : QuicAuFragment.decode datagram = .ok fragment) :
    fragment.fragmentIndex < fragment.fragmentCount := by
  obtain ⟨header, parsed, ⟨⟩⟩ := bind_ok decoded
  obtain ⟨-, parsed⟩ := refused_ok parsed
  obtain ⟨-, parsed⟩ := refused_ok parsed
  obtain ⟨inside, ⟨⟩⟩ := refused_ok parsed
  exact UInt16.not_le.mp inside

end MiniRemoteDesktop.Quic
