/-
**The two wire formats of control events** (`common-control-proto`).

* `Frame.encode`, `Frame.decode` — the legacy frame: a header of 17 bytes and the payload. The header
  holds the payload length in 16 bits, cut off without a check.
* `frame_roundtrip` — **a frame is read back exactly when its payload has at most 65535 bytes**, and
  is refused otherwise, because the bytes that follow are then more than the header declares.
* `encodeAuthenticatedInputEvent`, `decodeAuthenticatedInputEvent` — the input format, of at most 64
  bytes, for pointer and keyboard events only.
* `authenticatedInput_canonical` — **the input format is a bijection** between the events it takes
  and the byte strings it accepts.
-/

import MiniRemoteDesktop.Control.Payload

namespace MiniRemoteDesktop.Control

open Bytes Checked
open EventType

/-! ### Event types on the wire -/

@[simp] theorem EventType.tryFrom_code (eventType : EventType) :
    tryFrom eventType.code = .ok eventType := by
  cases eventType <;> rfl

variable {eventType : EventType}

theorem EventType.code_of_tryFrom {value : UInt8} (known : tryFrom value = .ok eventType) :
    eventType.code = value := by
  iterate 15
    rcases arm_ok known with ⟨rfl, rfl⟩ | known
    · rfl
  cases known

/-! ### The legacy frame -/

def protocolVersion : UInt8 := 2

def headerLen : Nat := 17

structure Frame where
  flags : UInt8
  seq : UInt32
  tsUs : UInt64
  event : ControlEvent

def Frame.header (frame : Frame) (payloadLen : UInt16) : List UInt8 :=
  [protocolVersion, frame.event.eventType.code, frame.flags] ++
    (bigEndian payloadLen ++ (bigEndian frame.seq ++ bigEndian frame.tsUs))

def Frame.encode (frame : Frame) : List UInt8 :=
  let payload := encodeEventPayload frame.event
  frame.header (UInt16.ofNat payload.length) ++ payload

def Frame.decode (buf : List UInt8) : Except ProtoError Frame :=
  if buf.length < headerLen then .error (.frameTooShort buf.length headerLen)
  else if byteAt buf 0 ≠ protocolVersion then .error (.unsupportedVersion (byteAt buf 0))
  else do
    let typ ← tryFrom (byteAt buf 1)
    let flags := byteAt buf 2
    let payloadLen := (bigEndianAt UInt16 buf 3).toNat
    let seq := bigEndianAt UInt32 buf 5
    let tsUs := bigEndianAt UInt64 buf 9
    if buf.length ≠ headerLen + payloadLen then
      .error (.payloadLengthMismatch payloadLen (buf.length - headerLen))
    else
      let event ← decodeEventPayload typ (buf.drop headerLen)
      return ⟨flags, seq, tsUs, event⟩

variable (frame : Frame)

@[simp] theorem Frame.length_header (payloadLen : UInt16) :
    (frame.header payloadLen).length = headerLen := by
  simp [header, headerLen]

theorem Frame.length_encode :
    frame.encode.length = headerLen + (encodeEventPayload frame.event).length := by
  simp [encode, length_header]

/-- What the decoder finds in the header of an encoded frame. -/
theorem Frame.decode_encode :
    decode frame.encode =
      if frame.encode.length ≠ headerLen + (encodeEventPayload frame.event).length % 65536 then
        .error (.payloadLengthMismatch ((encodeEventPayload frame.event).length % 65536)
          (frame.encode.length - headerLen))
      else do
        let event ← decodeEventPayload frame.event.eventType (encodeEventPayload frame.event)
        return ⟨frame.flags, frame.seq, frame.tsUs, event⟩ := by
  have enough : ¬ frame.encode.length < headerLen := by
    rw [frame.length_encode]
    omega
  have version : ¬ byteAt frame.encode 0 ≠ protocolVersion := not_not_intro rfl
  have typ : byteAt frame.encode 1 = frame.event.eventType.code := rfl
  have flags : byteAt frame.encode 2 = frame.flags := rfl
  have declared : (bigEndianAt UInt16 frame.encode 3).toNat =
      (encodeEventPayload frame.event).length % 65536 := by
    simp [encode, header]
  have seq : bigEndianAt UInt32 frame.encode 5 = frame.seq := by
    simp [encode, header]
  have tsUs : bigEndianAt UInt64 frame.encode 9 = frame.tsUs := by
    simp [encode, header]
  have payload : frame.encode.drop headerLen = encodeEventPayload frame.event := by
    simp [encode]
  rw [decode, if_neg enough, if_neg version, typ, tryFrom_code, flags, seq, tsUs, payload, declared]
  rfl

theorem Frame.decode_encode_short (short : (encodeEventPayload frame.event).length ≤ 65535) :
    decode frame.encode = .ok frame := by
  have declared : ¬ frame.encode.length ≠
      headerLen + (encodeEventPayload frame.event).length % 65536 := by
    rw [frame.length_encode]
    omega
  simp [frame.decode_encode, declared, decode_encode_payload frame.event short]

theorem Frame.decode_encode_long (long : 65535 < (encodeEventPayload frame.event).length) :
    ∃ error, decode frame.encode = .error error := by
  have declared : frame.encode.length ≠
      headerLen + (encodeEventPayload frame.event).length % 65536 := by
    rw [frame.length_encode]
    omega
  exact ⟨_, by rw [frame.decode_encode, if_pos declared]⟩

/-- **The legacy frame codec.** A frame whose payload has at most 65535 bytes is read back, a longer
one is refused, and no frame is ever read as another one. -/
theorem frame_roundtrip (frame : Frame) :
    ((encodeEventPayload frame.event).length ≤ 65535 → Frame.decode frame.encode = .ok frame) ∧
    (65535 < (encodeEventPayload frame.event).length → ∃ error, Frame.decode frame.encode = .error error) ∧
    ∀ read, Frame.decode frame.encode = .ok read → read = frame := by
  refine ⟨frame.decode_encode_short, frame.decode_encode_long, fun read decoded => ?_⟩
  rcases Nat.lt_or_ge 65535 (encodeEventPayload frame.event).length with long | short
  · obtain ⟨error, refused⟩ := frame.decode_encode_long long
    simp [refused] at decoded
  · rw [frame.decode_encode_short short] at decoded
    cases decoded
    rfl

/-! ### Authenticated input -/

def authenticatedInputProtocolVersion : UInt8 := 2

def authenticatedInputMaxBytes : Nat := 64

def authenticatedInputHeaderLen : Nat := 4

def authenticatedInputScope : ControlEvent → Except ProtoError AuthenticatedInputScope
  | .mouseMove .. | .mouseButton .. | .mouseWheel .. | .mouseHorizontalWheel .. => .ok .pointer
  | .key .. => .ok .keyboard
  | .releaseAll scope => .ok scope
  | unsupported => .error (.unsupportedAuthenticatedInput unsupported.eventType)

def encodeAuthenticatedInputEvent (event : ControlEvent) : Except ProtoError (List UInt8) := do
  let _ ← authenticatedInputScope event
  let payload := encodeEventPayload event
  if 65535 < payload.length then
    .error (.authenticatedInputTooLarge payload.length authenticatedInputMaxBytes)
  else if authenticatedInputMaxBytes < authenticatedInputHeaderLen + payload.length then
    .error (.authenticatedInputTooLarge (authenticatedInputHeaderLen + payload.length)
      authenticatedInputMaxBytes)
  else
    return [authenticatedInputProtocolVersion, event.eventType.code] ++
      (bigEndian (UInt16.ofNat payload.length) ++ payload)

/-- The extra check of the input decoder on the flag byte of a button or key event. -/
def checkBoolean (eventType : EventType) (payload : List UInt8) : Except ProtoError Unit :=
  if eventType = .mouseButton ∧ payload.length = 2 ∧ 1 < byteAt payload 1 then
    .error (.invalidBoolean (byteAt payload 1))
  else if eventType = .key ∧ payload.length = 5 ∧ 1 < byteAt payload 4 then
    .error (.invalidBoolean (byteAt payload 4))
  else .ok ()

def decodeAuthenticatedInputEvent (bytes : List UInt8) : Except ProtoError ControlEvent :=
  if authenticatedInputMaxBytes < bytes.length then
    .error (.authenticatedInputTooLarge bytes.length authenticatedInputMaxBytes)
  else if bytes.length < authenticatedInputHeaderLen then
    .error (.frameTooShort bytes.length authenticatedInputHeaderLen)
  else if byteAt bytes 0 ≠ authenticatedInputProtocolVersion then
    .error (.unsupportedVersion (byteAt bytes 0))
  else do
    let eventType ← tryFrom (byteAt bytes 1)
    let payloadLen := (bigEndianAt UInt16 bytes 2).toNat
    if bytes.length ≠ authenticatedInputHeaderLen + payloadLen then
      .error (.payloadLengthMismatch payloadLen (bytes.length - authenticatedInputHeaderLen))
    else
      let payload := bytes.drop authenticatedInputHeaderLen
      checkBoolean eventType payload
      let event ← decodeEventPayload eventType payload
      let _ ← authenticatedInputScope event
      return event

/-- The bytes an input event is written as. -/
def inputBytes (event : ControlEvent) : List UInt8 :=
  [authenticatedInputProtocolVersion, event.eventType.code] ++
    (bigEndian (UInt16.ofNat (encodeEventPayload event).length) ++ encodeEventPayload event)

theorem authenticatedInputScope_ok (event : ControlEvent) :
    (∃ scope, authenticatedInputScope event = .ok scope) ↔ event.eventType.isInput = true := by
  cases event with
  | mouseMove | mouseButton | mouseWheel | mouseHorizontalWheel | key | releaseAll =>
    exact iff_of_true ⟨_, rfl⟩ rfl
  | _ =>
    exact iff_of_false (fun accepted => nomatch accepted) Bool.false_ne_true

variable {event : ControlEvent}

theorem length_input_payload (input : event.eventType.isInput = true) :
    (encodeEventPayload event).length ≤ 8 := by
  cases event with
  | mouseMove | mouseButton | mouseWheel | mouseHorizontalWheel | key | releaseAll =>
    simp [encodeEventPayload]
  | _ => cases input

theorem length_inputBytes (event : ControlEvent) :
    (inputBytes event).length = authenticatedInputHeaderLen + (encodeEventPayload event).length := by
  simp [inputBytes, authenticatedInputHeaderLen]
  omega

theorem encodeAuthenticatedInputEvent_input (input : event.eventType.isInput = true) :
    encodeAuthenticatedInputEvent event = .ok (inputBytes event) := by
  have length := length_input_payload input
  obtain ⟨scope, accepted⟩ := (authenticatedInputScope_ok event).mpr input
  have fits : ¬ 65535 < (encodeEventPayload event).length := by omega
  have small : ¬ authenticatedInputMaxBytes <
      authenticatedInputHeaderLen + (encodeEventPayload event).length := by
    unfold authenticatedInputMaxBytes authenticatedInputHeaderLen
    omega
  unfold encodeAuthenticatedInputEvent
  rw [accepted]
  show (if _ then _ else _) = _
  rw [if_neg fits, if_neg small]
  rfl

variable {bytes : List UInt8}

theorem encodeAuthenticatedInputEvent_ok (encoded : encodeAuthenticatedInputEvent event = .ok bytes) :
    event.eventType.isInput = true ∧ bytes = inputBytes event := by
  obtain ⟨scope, accepted, -⟩ := bind_ok encoded
  have input := (authenticatedInputScope_ok event).mp ⟨scope, accepted⟩
  rw [encodeAuthenticatedInputEvent_input input] at encoded
  exact ⟨input, (Except.ok.inj encoded).symm⟩

/-- The flags the encoder writes pass the check of the decoder. -/
theorem checkBoolean_encoded (event : ControlEvent) :
    checkBoolean event.eventType (encodeEventPayload event) = .ok () := by
  have flag : ∀ pressed : Bool, ¬ 1 < flagByte pressed := by decide
  cases event with
  | mouseButton button pressed | key key pressed =>
    simp [checkBoolean, ControlEvent.eventType, encodeEventPayload, flag pressed]
  | _ => rfl

theorem decode_inputBytes (input : event.eventType.isInput = true) :
    decodeAuthenticatedInputEvent (inputBytes event) = .ok event := by
  have length := length_inputBytes event
  have small := length_input_payload input
  obtain ⟨scope, accepted⟩ := (authenticatedInputScope_ok event).mpr input
  have version : ¬ byteAt (inputBytes event) 0 ≠ authenticatedInputProtocolVersion :=
    not_not_intro rfl
  have typ : byteAt (inputBytes event) 1 = event.eventType.code := rfl
  have declared : (bigEndianAt UInt16 (inputBytes event) 2).toNat = (encodeEventPayload event).length := by
    simp [inputBytes]
    omega
  have payload : (inputBytes event).drop authenticatedInputHeaderLen = encodeEventPayload event := by
    simp [inputBytes, authenticatedInputHeaderLen]
  unfold authenticatedInputHeaderLen at length
  rw [decodeAuthenticatedInputEvent, if_neg (by unfold authenticatedInputMaxBytes; omega),
    if_neg (by unfold authenticatedInputHeaderLen; omega), if_neg version, typ,
    tryFrom_code, declared, payload]
  show (if _ then _ else _) = _
  rw [if_neg (by unfold authenticatedInputHeaderLen; omega), checkBoolean_encoded,
    decode_encode_payload event (by omega)]
  show (authenticatedInputScope event >>= _) = _
  rw [accepted]
  rfl

theorem checkBoolean_ok {payload : List UInt8} (checked : checkBoolean eventType payload = .ok ())
    (decoded : decodeEventPayload eventType payload = .ok event) : CanonicalFlag eventType payload := by
  unfold checkBoolean at checked
  constructor
  · rintro rfl
    by_contra wide
    obtain ⟨_, passed, _⟩ := bind_ok decoded
    rw [if_pos ⟨rfl, expectPayloadLen_ok.mp passed, UInt8.not_le.mp wide⟩] at checked
    cases checked
  · rintro rfl
    by_contra wide
    obtain ⟨_, passed, _⟩ := bind_ok decoded
    rw [if_neg (fun button => nomatch button.1),
      if_pos ⟨rfl, expectPayloadLen_ok.mp passed, UInt8.not_le.mp wide⟩] at checked
    cases checked

theorem input_header_split (enough : 4 ≤ bytes.length) :
    [byteAt bytes 0, byteAt bytes 1] ++
      (slice bytes 2 (Word.width UInt16) ++ bytes.drop authenticatedInputHeaderLen) = bytes := by
  match bytes, enough with
  | _ :: _ :: _ :: _ :: _, _ => rfl

/-- **An accepted byte string is the one its event is written as.** -/
theorem inputBytes_of_decode (decoded : decodeAuthenticatedInputEvent bytes = .ok event) :
    event.eventType.isInput = true ∧ inputBytes event = bytes := by
  obtain ⟨-, decoded⟩ := refused_ok decoded
  obtain ⟨-, decoded⟩ := refused_ok decoded
  obtain ⟨version, decoded⟩ := refused_ok decoded
  obtain ⟨eventType, known, decoded⟩ := bind_ok decoded
  obtain ⟨mismatch, decoded⟩ := refused_ok decoded
  obtain ⟨_, checked, decoded⟩ := bind_ok decoded
  obtain ⟨read, payload, decoded⟩ := bind_ok decoded
  obtain ⟨scope, accepted, ⟨⟩⟩ := bind_ok decoded
  have input := (authenticatedInputScope_ok event).mp ⟨scope, accepted⟩
  have typ := decodeEventPayload_eventType payload
  have written := encode_decode_payload (typ ▸ input) (checkBoolean_ok checked payload) payload
  refine ⟨input, ?_⟩
  have length : bytes.length = 4 + (bigEndianAt UInt16 bytes 2).toNat := not_not.mp mismatch
  have declared : UInt16.ofNat (bytes.drop authenticatedInputHeaderLen).length =
      bigEndianAt UInt16 bytes 2 := by
    rw [List.length_drop, length, authenticatedInputHeaderLen, Nat.add_sub_cancel_left,
      UInt16.ofNat_toNat]
  rw [inputBytes, written, typ, code_of_tryFrom known, declared,
    bigEndian_bigEndianAt (by rw [width_uInt16]; omega), ← not_not.mp version]
  exact input_header_split (by omega)

/-- **The input codec is a canonical bijection.** It writes exactly the events that have an input
scope, in at most 64 bytes that are read back as the same event; and a byte string that is accepted
is the one its event is written as, so that the event has a scope and no other byte string carries
it. -/
theorem authenticatedInput_canonical :
    (∀ event, ((∃ bytes, encodeAuthenticatedInputEvent event = .ok bytes) ↔
        ∃ scope, authenticatedInputScope event = .ok scope) ∧
      ∀ bytes, encodeAuthenticatedInputEvent event = .ok bytes →
        bytes.length ≤ 64 ∧ decodeAuthenticatedInputEvent bytes = .ok event) ∧
    (∀ bytes event, decodeAuthenticatedInputEvent bytes = .ok event →
      encodeAuthenticatedInputEvent event = .ok bytes ∧
        ∃ scope, authenticatedInputScope event = .ok scope) ∧
    ∀ first second event, decodeAuthenticatedInputEvent first = .ok event →
      decodeAuthenticatedInputEvent second = .ok event → first = second := by
  refine ⟨fun event => ⟨?_, fun bytes encoded => ?_⟩, fun bytes event decoded => ?_,
    fun first second event decoded again => ?_⟩
  · rw [authenticatedInputScope_ok]
    exact ⟨fun ⟨_, encoded⟩ => (encodeAuthenticatedInputEvent_ok encoded).1,
      fun input => ⟨_, encodeAuthenticatedInputEvent_input input⟩⟩
  · obtain ⟨input, rfl⟩ := encodeAuthenticatedInputEvent_ok encoded
    have length := length_inputBytes event
    have small := length_input_payload input
    unfold authenticatedInputHeaderLen at length
    exact ⟨by omega, decode_inputBytes input⟩
  · obtain ⟨input, rfl⟩ := inputBytes_of_decode decoded
    exact ⟨encodeAuthenticatedInputEvent_input input, (authenticatedInputScope_ok event).mpr input⟩
  · rw [← (inputBytes_of_decode decoded).2, ← (inputBytes_of_decode again).2]

end MiniRemoteDesktop.Control
