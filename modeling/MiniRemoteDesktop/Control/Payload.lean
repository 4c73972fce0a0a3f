/-
**Control events and their payloads** (`common-control-proto`).

* `ControlEvent`, `EventType`, `ProtoError` — the data of the protocol.
* `encodeEventPayload`, `decodeEventPayload` — one byte layout per event type, integers in network
  order.
* `decode_encode_payload` — **every payload of at most 65535 bytes is read back**: within that bound
  no nested length field is cut off. `encode_decode_payload` — conversely, an accepted payload of a
  pointer or keyboard event whose flag byte is `0` or `1` is the one the event is written as.
-/

import MiniRemoteDesktop.Lib.Checked
import MiniRemoteDesktop.Lib.Text
import MiniRemoteDesktop.Lib.Word

namespace MiniRemoteDesktop.Control

open Bytes Checked

/-! ### The protocol's data -/

inductive EventType
  | mouseMove
  | mouseButton
  | mouseWheel
  | key
  | gamepadAxis
  | gamepadButton
  | clipboardSet
  | clipboardGet
  | fileControl
  | fileChunk
  | audioControl
  | fileMount
  | audioRouteControl
  | mouseHorizontalWheel
  | releaseAll
  deriving DecidableEq

inductive AuthenticatedInputScope
  | pointer
  | keyboard

inductive ControlEvent
  | mouseMove (x y : Int32)
  | mouseButton (button : UInt8) (pressed : Bool)
  | mouseWheel (delta : Int32)
  | mouseHorizontalWheel (delta : Int32)
  | key (key : UInt32) (pressed : Bool)
  | gamepadAxis (gamepad axis : UInt8) (value : Int16)
  | gamepadButton (gamepad button : UInt8) (pressed : Bool)
  | clipboardSet (mime : UInt8) (bytes : List UInt8)
  | clipboardGet
  | fileControl (op : UInt8) (transferId arg0 arg1 : UInt64)
  | fileChunk (transferId : UInt64) (chunkIdx totalChunks : UInt32) (sha256 : Vector UInt8 16)
      (payload : List UInt8)
  | audioControl (op codec : UInt8) (sampleRate : UInt32) (channels : UInt8) (frameMs : UInt16)
  | audioRouteControl (mode scope : UInt8) (targetPid : UInt32) (followChildren : Bool)
  | fileMount (op : UInt8) (mountId : UInt64) (flags : UInt32) (path : String)
  | releaseAll (scope : AuthenticatedInputScope)

inductive ProtoError
  | frameTooShort (actual min : Nat)
  | unsupportedVersion (version : UInt8)
  | unknownEventType (value : UInt8)
  | payloadLengthMismatch (declared actual : Nat)
  | invalidEventPayloadLength (eventType : EventType) (expected actual : Nat)
  | unsupportedAuthenticatedInput (eventType : EventType)
  | invalidBoolean (value : UInt8)
  | invalidAuthenticatedInputScope (value : UInt8)
  | authenticatedInputTooLarge (actual max : Nat)

/-- The discriminants of `#[repr(u8)] enum EventType`. -/
def EventType.code : EventType → UInt8
  | .mouseMove => 1
  | .mouseButton => 2
  | .mouseWheel => 3
  | .key => 4
  | .gamepadAxis => 5
  | .gamepadButton => 6
  | .clipboardSet => 7
  | .clipboardGet => 8
  | .fileControl => 9
  | .fileChunk => 10
  | .audioControl => 11
  | .fileMount => 12
  | .audioRouteControl => 13
  | .mouseHorizontalWheel => 14
  | .releaseAll => 15

def EventType.tryFrom (value : UInt8) : Except ProtoError EventType :=
  if value = 1 then .ok .mouseMove
  else if value = 2 then .ok .mouseButton
  else if value = 3 then .ok .mouseWheel
  else if value = 4 then .ok .key
  else if value = 5 then .ok .gamepadAxis
  else if value = 6 then .ok .gamepadButton
  else if value = 7 then .ok .clipboardSet
  else if value = 8 then .ok .clipboardGet
  else if value = 9 then .ok .fileControl
  else if value = 10 then .ok .fileChunk
  else if value = 11 then .ok .audioControl
  else if value = 12 then .ok .fileMount
  else if value = 13 then .ok .audioRouteControl
  else if value = 14 then .ok .mouseHorizontalWheel
  else if value = 15 then .ok .releaseAll
  else .error (.unknownEventType value)

def AuthenticatedInputScope.code : AuthenticatedInputScope → UInt8
  | .pointer => 1
  | .keyboard => 2

def ControlEvent.eventType : ControlEvent → EventType
  | .mouseMove .. => .mouseMove
  | .mouseButton .. => .mouseButton
  | .mouseWheel .. => .mouseWheel
  | .mouseHorizontalWheel .. => .mouseHorizontalWheel
  | .key .. => .key
  | .gamepadAxis .. => .gamepadAxis
  | .gamepadButton .. => .gamepadButton
  | .clipboardSet .. => .clipboardSet
  | .clipboardGet => .clipboardGet
  | .fileControl .. => .fileControl
  | .fileChunk .. => .fileChunk
  | .audioControl .. => .audioControl
  | .fileMount .. => .fileMount
  | .audioRouteControl .. => .audioRouteControl
  | .releaseAll .. => .releaseAll

/-! ### Payloads -/

/-- `u8::from(bool)`. -/
def flagByte (flag : Bool) : UInt8 := if flag then 1 else 0

def encodeEventPayload : ControlEvent → List UInt8
  | .mouseMove x y => bigEndian x ++ bigEndian y
  | .mouseButton button pressed => [button, flagByte pressed]
  | .mouseWheel delta => bigEndian delta
  | .mouseHorizontalWheel delta => bigEndian delta
  | .key key pressed => bigEndian key ++ [flagByte pressed]
  | .gamepadAxis gamepad axis value => [gamepad, axis] ++ bigEndian value
  | .gamepadButton gamepad button pressed => [gamepad, button, flagByte pressed]
  | .clipboardSet mime bytes => [mime] ++ (bigEndian (UInt32.ofNat bytes.length) ++ bytes)
  | .clipboardGet => []
  | .fileControl op transferId arg0 arg1 =>
    [op] ++ (bigEndian transferId ++ (bigEndian arg0 ++ bigEndian arg1))
  | .fileChunk transferId chunkIdx totalChunks sha256 payload =>
    bigEndian transferId ++ (bigEndian chunkIdx ++ (bigEndian totalChunks ++
      (sha256.toList ++ (bigEndian (UInt32.ofNat payload.length) ++ payload))))
  | .audioControl op codec sampleRate channels frameMs =>
    [op, codec] ++ (bigEndian sampleRate ++ ([channels] ++ bigEndian frameMs))
  | .fileMount op mountId flags path =>
    [op] ++ (bigEndian mountId ++ (bigEndian flags ++
      (bigEndian (UInt16.ofNat (Text.bytes path).length) ++ Text.bytes path)))
  | .audioRouteControl mode scope targetPid followChildren =>
    [mode, scope] ++ (bigEndian targetPid ++ [flagByte followChildren])
  | .releaseAll scope => [scope.code]

def expectPayloadLen (eventType : EventType) (payload : List UInt8) (expected : Nat) :
    Except ProtoError Unit :=
  if payload.length ≠ expected then
    .error (.invalidEventPayloadLength eventType expected payload.length)
  else .ok ()

/-- The check of the layouts that end in a length field and that many bytes. -/
def expectDeclaredLen (payload : List UInt8) (declared : Nat) : Except ProtoError Unit :=
  if payload.length ≠ declared then .error (.payloadLengthMismatch declared payload.length)
  else .ok ()

/-- The check that the fixed part of such a layout is there. -/
def expectAtLeast (eventType : EventType) (payload : List UInt8) (expected : Nat) :
    Except ProtoError Unit :=
  if payload.length < expected then
    .error (.invalidEventPayloadLength eventType expected payload.length)
  else .ok ()

def decodeScope (value : UInt8) : Except ProtoError AuthenticatedInputScope :=
  if value = AuthenticatedInputScope.code .pointer then .ok .pointer
  else if value = AuthenticatedInputScope.code .keyboard then .ok .keyboard
  else .error (.invalidAuthenticatedInputScope value)

def decodeEventPayload (typ : EventType) (payload : List UInt8) : Except ProtoError ControlEvent :=
  match typ with
  | .mouseMove => do
    expectPayloadLen typ payload 8
    return .mouseMove (bigEndianAt Int32 payload 0) (bigEndianAt Int32 payload 4)
  | .mouseButton => do
    expectPayloadLen typ payload 2
    return .mouseButton (byteAt payload 0) (byteAt payload 1 != 0)
  | .mouseWheel => do
    expectPayloadLen typ payload 4
    return .mouseWheel (bigEndianAt Int32 payload 0)
  | .mouseHorizontalWheel => do
    expectPayloadLen typ payload 4
    return .mouseHorizontalWheel (bigEndianAt Int32 payload 0)
  | .key => do
    expectPayloadLen typ payload 5
    return .key (bigEndianAt UInt32 payload 0) (byteAt payload 4 != 0)
  | .gamepadAxis => do
    expectPayloadLen typ payload 4
    return .gamepadAxis (byteAt payload 0) (byteAt payload 1) (bigEndianAt Int16 payload 2)
  | .gamepadButton => do
    expectPayloadLen typ payload 3
    return .gamepadButton (byteAt payload 0) (byteAt payload 1) (byteAt payload 2 != 0)
  | .clipboardSet => do
    expectAtLeast typ payload 5
    expectDeclaredLen payload (5 + (bigEndianAt UInt32 payload 1).toNat)
    return .clipboardSet (byteAt payload 0) (payload.drop 5)
  | .clipboardGet => do
    expectPayloadLen typ payload 0
    return .clipboardGet
  | .fileControl => do
    expectPayloadLen typ payload 25
    return .fileControl (byteAt payload 0) (bigEndianAt UInt64 payload 1) (bigEndianAt UInt64 payload 9)
      (bigEndianAt UInt64 payload 17)
  | .fileChunk => do
    expectAtLeast typ payload 36
    expectDeclaredLen payload (36 + (bigEndianAt UInt32 payload 32).toNat)
    return .fileChunk (bigEndianAt UInt64 payload 0) (bigEndianAt UInt32 payload 8)
      (bigEndianAt UInt32 payload 12)
      (Vector.ofFn fun index => byteAt payload (16 + index)) (payload.drop 36)
  | .audioControl => do
    expectPayloadLen typ payload 9
    return .audioControl (byteAt payload 0) (byteAt payload 1) (bigEndianAt UInt32 payload 2)
      (byteAt payload 6) (bigEndianAt UInt16 payload 7)
  | .fileMount => do
    expectAtLeast typ payload 15
    expectDeclaredLen payload (15 + (bigEndianAt UInt16 payload 13).toNat)
    return .fileMount (byteAt payload 0) (bigEndianAt UInt64 payload 1) (bigEndianAt UInt32 payload 9)
      (Text.fromUtf8Lossy (payload.drop 15))
  | .audioRouteControl => do
    expectPayloadLen typ payload 7
    return .audioRouteControl (byteAt payload 0) (byteAt payload 1) (bigEndianAt UInt32 payload 2)
      (byteAt payload 6 != 0)
  | .releaseAll => do
    expectPayloadLen typ payload 1
    let scope ← decodeScope (byteAt payload 0)
    return .releaseAll scope

/-! ### Reading what was written -/

@[simp] theorem flagByte_ne_zero (flag : Bool) : (flagByte flag != 0) = flag := by
  cases flag <;> rfl

@[simp] theorem decodeScope_code (scope : AuthenticatedInputScope) :
    decodeScope scope.code = .ok scope := by
  cases scope <;> rfl

variable {payload : List UInt8}

@[simp] theorem expectPayloadLen_ok {eventType : EventType} {expected : Nat} :
    expectPayloadLen eventType payload expected = .ok () ↔ payload.length = expected := by
  simp [expectPayloadLen]

@[simp] theorem expectDeclaredLen_ok {declared : Nat} :
    expectDeclaredLen payload declared = .ok () ↔ payload.length = declared := by
  simp [expectDeclaredLen]

@[simp] theorem expectAtLeast_ok {eventType : EventType} {expected : Nat} :
    expectAtLeast eventType payload expected = .ok () ↔ expected ≤ payload.length := by
  simp [expectAtLeast]

theorem length_clipboardSet (mime : UInt8) (bytes : List UInt8) :
    (encodeEventPayload (.clipboardSet mime bytes)).length = 5 + bytes.length := by
  simp [encodeEventPayload]
  omega

variable (transferId : UInt64) (chunkIdx totalChunks : UInt32) (sha256 : Vector UInt8 16)

theorem length_fileChunk (payload : List UInt8) :
    (encodeEventPayload (.fileChunk transferId chunkIdx totalChunks sha256 payload)).length =
      36 + payload.length := by
  simp [encodeEventPayload]
  omega

theorem length_fileMount (op : UInt8) (mountId : UInt64) (flags : UInt32) (path : String) :
    (encodeEventPayload (.fileMount op mountId flags path)).length = 15 + (Text.bytes path).length := by
  simp [encodeEventPayload]
  omega

/-- `sha256_16.copy_from_slice(&payload[16..32])`. -/
theorem byteAt_digest (payload : List UInt8) :
    (Vector.ofFn fun index : Fin 16 => byteAt
      (encodeEventPayload (.fileChunk transferId chunkIdx totalChunks sha256 payload))
      (16 + index)) = sha256 := by
  refine Vector.ext fun index inside => ?_
  rw [Vector.getElem_ofFn, encodeEventPayload, byteAt_append (by simp; omega),
    byteAt_append (by simp; omega), byteAt_append (by simp; omega)]
  simp only [length_bigEndian, width_uInt64, width_uInt32, byteAt, List.getD_eq_getElem?_getD]
  rw [show 16 + index - 8 - 4 - 4 = index by omega,
    List.getElem?_append_left (by rw [Vector.length_toList]; exact inside)]
  simp [inside]

/-- **Every payload of at most 65535 bytes is read back.** -/
theorem decode_encode_payload (event : ControlEvent)
    (short : (encodeEventPayload event).length ≤ 65535) :
    decodeEventPayload event.eventType (encodeEventPayload event) = .ok event := by
  cases event with
  | releaseAll scope =>
    rw [ControlEvent.eventType, decodeEventPayload,
      expectPayloadLen_ok.mpr (by simp [encodeEventPayload])]
    simp [encodeEventPayload]
    rfl
  | clipboardSet mime bytes =>
    have length := length_clipboardSet mime bytes
    have declared : (bigEndianAt UInt32 (encodeEventPayload (.clipboardSet mime bytes)) 1).toNat =
        bytes.length := by
      simp [encodeEventPayload]
      omega
    rw [ControlEvent.eventType, decodeEventPayload, declared,
      expectAtLeast_ok.mpr (by omega), expectDeclaredLen_ok.mpr length]
    simp [encodeEventPayload]
    rfl
  | fileChunk transferId chunkIdx totalChunks sha256 payload =>
    have length := length_fileChunk transferId chunkIdx totalChunks sha256 payload
    have declared : (bigEndianAt UInt32
        (encodeEventPayload (.fileChunk transferId chunkIdx totalChunks sha256 payload)) 32).toNat =
        payload.length := by
      simp [encodeEventPayload]
      omega
    rw [ControlEvent.eventType, decodeEventPayload, declared,
      expectAtLeast_ok.mpr (by omega), expectDeclaredLen_ok.mpr length, byteAt_digest]
    simp [encodeEventPayload, drop_append_past]
    rfl
  | fileMount op mountId flags path =>
    have length := length_fileMount op mountId flags path
    have declared : (bigEndianAt UInt16 (encodeEventPayload (.fileMount op mountId flags path)) 13).toNat =
        (Text.bytes path).length := by
      simp [encodeEventPayload]
      omega
    rw [ControlEvent.eventType, decodeEventPayload, declared,
      expectAtLeast_ok.mpr (by omega), expectDeclaredLen_ok.mpr length]
    simp [encodeEventPayload, drop_append_past, Text.fromUtf8Lossy_bytes]
    rfl
  | _ =>
    rw [ControlEvent.eventType, decodeEventPayload,
      expectPayloadLen_ok.mpr (by simp [encodeEventPayload])]
    simp [encodeEventPayload]

/-! ### Writing what was read -/

theorem flagByte_canonical {byte : UInt8} (canonical : byte ≤ 1) : flagByte (byte != 0) = byte := by
  have small : byte.toNat ≤ 1 := UInt8.le_iff_toNat_le.mp canonical
  have bit : byte = 0 ∨ byte = 1 := by
    rcases Nat.le_one_iff_eq_zero_or_eq_one.mp small with zero | one
    · exact .inl (UInt8.toNat_inj.mp zero)
    · exact .inr (UInt8.toNat_inj.mp one)
  rcases bit with rfl | rfl <;> rfl

theorem decodeScope_ok {value : UInt8} {scope : AuthenticatedInputScope}
    (decoded : decodeScope value = .ok scope) : scope.code = value := by
  unfold decodeScope at decoded
  split at decoded
  · cases decoded
    exact ‹value = _›.symm
  · split at decoded
    · cases decoded
      exact ‹value = AuthenticatedInputScope.code .keyboard›.symm
    · cases decoded

variable {event : ControlEvent}

/-- **An accepted payload is of the type it was read as.** -/
theorem decodeEventPayload_eventType {typ : EventType}
    (decoded : decodeEventPayload typ payload = .ok event) : event.eventType = typ := by
  cases typ with
  | clipboardSet | fileChunk | fileMount | releaseAll =>
    obtain ⟨_, _, decoded⟩ := bind_ok decoded
    obtain ⟨_, _, ⟨⟩⟩ := bind_ok decoded
    rfl
  | _ =>
    obtain ⟨_, _, ⟨⟩⟩ := bind_ok decoded
    rfl

/-- A flag byte that the decoder would not have to normalise, for the types that carry one. -/
def CanonicalFlag (typ : EventType) (payload : List UInt8) : Prop :=
  (typ = .mouseButton → byteAt payload 1 ≤ 1) ∧ (typ = .key → byteAt payload 4 ≤ 1)

/-- The types of pointer and keyboard input. -/
def EventType.isInput : EventType → Bool
  | .mouseMove | .mouseButton | .mouseWheel | .mouseHorizontalWheel | .key | .releaseAll => true
  | _ => false

/-- **An accepted input payload with a canonical flag is the one the event is written as.** -/
theorem encode_decode_payload {typ : EventType} (input : typ.isInput = true)
    (canonical : CanonicalFlag typ payload) (decoded : decodeEventPayload typ payload = .ok event) :
    encodeEventPayload event = payload := by
  cases typ with
  | mouseMove =>
    obtain ⟨_, passed, decoded⟩ := bind_ok decoded
    have whole : payload.length = 4 + 4 := expectPayloadLen_ok.mp passed
    cases decoded
    rw [encodeEventPayload, bigEndian_bigEndianAt (by simp; omega), bigEndian_bigEndianAt (by simp; omega)]
    exact slice_append_slice whole
  | mouseWheel | mouseHorizontalWheel =>
    obtain ⟨_, passed, decoded⟩ := bind_ok decoded
    have whole : payload.length = 4 := expectPayloadLen_ok.mp passed
    cases decoded
    rw [encodeEventPayload, bigEndian_bigEndianAt (by simp; omega)]
    exact slice_self whole
  | mouseButton =>
    obtain ⟨_, passed, decoded⟩ := bind_ok decoded
    obtain ⟨button, pressed, rfl⟩ := List.length_eq_two.mp (expectPayloadLen_ok.mp passed)
    cases decoded
    rw [encodeEventPayload, byteAt_cons_zero, flagByte_canonical (canonical.1 rfl)]
    rfl
  | key =>
    obtain ⟨_, passed, decoded⟩ := bind_ok decoded
    have whole : payload.length = 4 + 1 := expectPayloadLen_ok.mp passed
    have last : slice payload 4 1 = [byteAt payload 4] := by
      have inside : 4 < payload.length := by omega
      rw [slice, byteAt, List.drop_eq_getElem_cons inside, List.take_succ_cons, List.take_zero,
        List.getD_eq_getElem?_getD, List.getElem?_eq_getElem inside, Option.getD_some]
    cases decoded
    rw [encodeEventPayload, bigEndian_bigEndianAt (by simp; omega), flagByte_canonical (canonical.2 rfl),
      ← last]
    exact slice_append_slice whole
  | releaseAll =>
    obtain ⟨_, passed, decoded⟩ := bind_ok decoded
    obtain ⟨value, rfl⟩ := List.length_eq_one_iff.mp (expectPayloadLen_ok.mp passed)
    obtain ⟨scope, read, ⟨⟩⟩ := bind_ok decoded
    simp [encodeEventPayload, decodeScope_ok read]
  | _ => cases input

end MiniRemoteDesktop.Control
