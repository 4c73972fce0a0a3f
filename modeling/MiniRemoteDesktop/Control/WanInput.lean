/-
**Control input over the WAN route** (`mrd-service`, `wan_session/control_input.rs`).

A controller sends one event at a time on each of two transport lanes and waits for its signed
acknowledgement; a target observes each envelope in its `AuthenticatedControlReplayState` before it
injects the event. Both run here under one authorization that does not change, with the channel between
them: whatever was handed to the channel may be delivered at any time, any number of times, or never.

* `begin`, `transmit`, `receive`, `lose` — the steps of `send_control_event` and `wait_for_ack`.
* `step` — one step of the two parties and the channel.

The signatures and the identifiers of the one session are left out: the channel does not forge. JSON and
the commitment digest are parameters (`ControlWire`).
-/

import MiniRemoteDesktop.Control.Replay
import MiniRemoteDesktop.Input.Registry

namespace MiniRemoteDesktop.Control

open Input (ControlInputLane)
open Session (Commitment ControlSequenceDecision ControlSequenceError)

/-! ### Envelopes and acknowledgements -/

def controlEnvelopeMaxLifetimeMs : Nat := 2000
def controlEnvelopeMaxClockSkewMs : Nat := 2000
def wanControlAckLifetimeMs : Nat := 2000
def wanControlMaxAckFrames : Nat := 16

inductive TransportLane
  | controlReliable
  | controlRealtime
  deriving DecidableEq

def transportLane : ControlInputLane → TransportLane
  | .reliable | .cleanup => .controlReliable
  | .realtime => .controlRealtime

def AuthenticatedControlReplayLane.fromInputLane : ControlInputLane → AuthenticatedControlReplayLane
  | .reliable => .reliable
  | .cleanup => .cleanup
  | .realtime => .realtime

inductive RemoteReasonCode
  | grantExpired
  | policyChanged
  | replayDetected
  | protocolDowngradeBlocked
  | routeLost
  deriving DecidableEq

/-- The part of `ControlEnvelopeV2` that differs between the events of one grant. -/
structure ControlEnvelope (E : Type) where
  (sequence eventId : UInt64)
  (issuedAtMs expiresAtMs : Nat)
  event : E
  deriving DecidableEq

/-- The part of `WanControlAckPayload` that differs between the acknowledgements of one grant. -/
structure WanControlAck where
  (sequence eventId : UInt64)
  requestCommitment : Commitment
  accepted : Bool
  reason : Option RemoteReasonCode
  lane : Option ControlInputLane
  (eventCount issuedAtMs expiresAtMs : Nat)

/-- **What the parties write on the wire**: the lane of an event, the digest of a signed envelope, and
JSON, which is read back as it was written. -/
structure ControlWire (E : Type) where
  eventLane : E → ControlInputLane
  commitment : ControlEnvelope E → Commitment
  /-- The size of the envelope and of the event in it. -/
  fits : ControlEnvelope E → Bool
  encodeAck : WanControlAck → List UInt8
  /-- The bound on the size of an acknowledgement, and its JSON. -/
  decodeAck : List UInt8 → Option WanControlAck
  decode_encode : ∀ ack, decodeAck (encodeAck ack) = some ack

/-- The grant both parties act under. -/
structure ControlAuthorization where
  (issuedAtMs expiresAtMs : Nat)

/-- The times at which the grant is in force. -/
def ControlAuthorization.covers (authorization : ControlAuthorization) (nowMs : Nat) : Bool :=
  decide (authorization.issuedAtMs ≤ nowMs ∧ nowMs ≤ authorization.expiresAtMs)

/-- A frame of the acknowledgement direction. -/
structure AckFrame where
  lane : TransportLane
  sequence : UInt64
  payload : List UInt8

/-! ### The two parties -/

structure WanControlSenderState where
  (reliableSequence realtimeSequence nextEventId : UInt64)

namespace WanControlSenderState

def new : WanControlSenderState := ⟨1, 1, 1⟩

def sequenceFor (sender : WanControlSenderState) : TransportLane → UInt64
  | .controlReliable => sender.reliableSequence
  | .controlRealtime => sender.realtimeSequence

/-- `fetch_add(1).max(1)`. -/
def eventId (sender : WanControlSenderState) : UInt64 := max sender.nextEventId 1

/-- An event was acknowledged on a lane. -/
def advance (sender : WanControlSenderState) : TransportLane → WanControlSenderState
  | .controlReliable => { sender with reliableSequence := saturatingSucc sender.reliableSequence }
  | .controlRealtime => { sender with realtimeSequence := saturatingSucc sender.realtimeSequence }

end WanControlSenderState

/-- An event that is being sent: its envelope, the attempts that are left after this one, and, once it
was handed to the channel, the frames that may still be waited for. -/
structure ControlSend (E : Type) where
  envelope : ControlEnvelope E
  attemptsLeft : Nat
  framesLeft : Option Nat

inductive TransportSendOutcome
  | enqueued
  | replacedStale
  | backpressured
  | closed
  deriving DecidableEq

abbrev ControlResult := Except RemoteReasonCode Nat

/-- **The controller, the target and the channel between them.** `granted` is the target's
authorization; the last five fields are history: the envelopes signed so far, what was handed to the
injector and the events it reported, what the sends came to, what the target saw first, and how many event
identifiers were drawn. -/
structure WanControl (E : Type) where
  sender : WanControlSenderState
  sending : TransportLane → Option (ControlSend E)
  replay : AuthenticatedControlReplayState
  granted : Bool
  requests : List (ControlEnvelope E)
  acks : List AckFrame
  signed : List (ControlEnvelope E)
  injections : List (ControlEnvelope E × Option Nat)
  results : List (ControlEnvelope E × ControlResult)
  seen : List AuthenticatedControlReplayState.ReplayCall
  drawn : Nat

/-! ### Sending -/

variable {E : Type}

def ControlWire.laneOf (wire : ControlWire E) (envelope : ControlEnvelope E) : TransportLane :=
  transportLane (wire.eventLane envelope.event)

/-- The retries after the first attempt. -/
def retries : ControlInputLane → Nat
  | .realtime => 0
  | .reliable | .cleanup => 2

namespace WanControl

def new (replayExpiresAtMs : UInt64) : WanControl E where
  sender := .new
  sending _ := none
  replay := .new replayExpiresAtMs
  granted := true
  requests := []
  acks := []
  signed := []
  injections := []
  results := []
  seen := []
  drawn := 0

/-- The envelope that the next event is signed into. -/
def nextEnvelope (wire : ControlWire E) (authorization : ControlAuthorization) (state : WanControl E)
    (event : E) (nowMs : Nat) : ControlEnvelope E where
  sequence := state.sender.sequenceFor (transportLane (wire.eventLane event))
  eventId := state.sender.eventId
  issuedAtMs := nowMs
  expiresAtMs := min (saturatingAdd nowMs controlEnvelopeMaxLifetimeMs) authorization.expiresAtMs
  event := event

/-- An event identifier was drawn. -/
def draw (state : WanControl E) : WanControl E :=
  { state with
    sender := { state.sender with nextEventId := state.sender.nextEventId + 1 }
    drawn := state.drawn + 1 }

/-- A send ends with a result. -/
def finish (state : WanControl E) (lane : TransportLane) (send : ControlSend E) (result : ControlResult) :
    WanControl E :=
  { state with
    sender := if result.toBool then state.sender.advance lane else state.sender
    sending := Function.update state.sending lane none
    results := (send.envelope, result) :: state.results }

/-- `send_control_event` up to its first attempt; the lane is free. -/
def begin (wire : ControlWire E) (authorization : ControlAuthorization) (state : WanControl E) (event : E)
    (nowMs : Nat) : WanControl E :=
  let envelope := state.nextEnvelope wire authorization event nowMs
  let drawn := state.draw
  if ¬ authorization.covers nowMs ∨ envelope.expiresAtMs ≤ envelope.issuedAtMs ∨ ¬ wire.fits envelope then
    drawn
  else
    { drawn with
      sending := Function.update state.sending (wire.laneOf envelope)
        (some ⟨envelope, retries (wire.eventLane event), none⟩)
      signed := envelope :: state.signed }

/-- The next attempt. -/
def retry (state : WanControl E) (lane : TransportLane) (send : ControlSend E) : WanControl E :=
  { state with
    sending := Function.update state.sending lane
      (some { send with attemptsLeft := send.attemptsLeft - 1, framesLeft := none }) }

/-- An attempt comes to nothing because of the route. -/
def loseRoute (state : WanControl E) (lane : TransportLane) (send : ControlSend E) : WanControl E :=
  if 0 < send.attemptsLeft then state.retry lane send else state.finish lane send (.error .routeLost)

/-- `mux.send` of the envelope, and what comes of it. -/
def transmit (state : WanControl E) (lane : TransportLane) (send : ControlSend E) :
    TransportSendOutcome → WanControl E
  | .enqueued | .replacedStale =>
    { state with
      requests := send.envelope :: state.requests
      sending := Function.update state.sending lane
        (some { send with framesLeft := some wanControlMaxAckFrames }) }
  | .backpressured => state.loseRoute lane send
  | .closed => state.finish lane send (.error .routeLost)

def validateAck (wire : ControlWire E) (authorization : ControlAuthorization) (request : ControlEnvelope E)
    (bytes : List UInt8) (nowMs : Nat) : ControlResult :=
  match wire.decodeAck bytes with
  | none => .error .protocolDowngradeBlocked
  | some ack =>
    if ¬ authorization.covers nowMs then .error .policyChanged
    else if ack.sequence ≠ request.sequence ∨ ack.eventId ≠ request.eventId ∨
        ack.requestCommitment ≠ wire.commitment request ∨
        saturatingAdd nowMs 2000 < ack.issuedAtMs ∨ ack.expiresAtMs < ack.issuedAtMs ∨
        ack.expiresAtMs < nowMs ∨ wanControlAckLifetimeMs < ack.expiresAtMs - ack.issuedAtMs then
      .error .protocolDowngradeBlocked
    else if ack.accepted then
      if ack.reason.isSome then .error .protocolDowngradeBlocked
      else if ack.lane = some (wire.eventLane request.event) then .ok ack.eventCount
      else .error .protocolDowngradeBlocked
    else if ack.lane.isSome ∨ ack.eventCount ≠ 0 then .error .protocolDowngradeBlocked
    else .error (ack.reason.getD .protocolDowngradeBlocked)

/-- The result of an attempt: a lost route is tried again. -/
def conclude (state : WanControl E) (lane : TransportLane) (send : ControlSend E) (result : ControlResult) :
    WanControl E :=
  match result with
  | .error .routeLost => state.loseRoute lane send
  | result => state.finish lane send result

/-- One round of `wait_for_ack`; the last frame that does not match is the end. -/
def receive (wire : ControlWire E) (authorization : ControlAuthorization) (state : WanControl E)
    (lane : TransportLane) (send : ControlSend E) (framesLeft : Nat) (frame : AckFrame) (nowMs : Nat) :
    WanControl E :=
  if frame.sequence ≠ send.envelope.sequence then
    if framesLeft ≤ 1 then state.finish lane send (.error .protocolDowngradeBlocked)
    else { state with
      sending := Function.update state.sending lane (some { send with framesLeft := some (framesLeft - 1) }) }
  else state.conclude lane send (validateAck wire authorization send.envelope frame.payload nowMs)

/-! ### The target -/

/-- `validate_shape`, as far as envelopes of one grant can fail it. -/
def wellShaped (envelope : ControlEnvelope E) (nowMs : Nat) : Bool :=
  decide (envelope.sequence ≠ 0 ∧ envelope.sequence ≠ UInt64.ofNat (2 ^ 64 - 1) ∧ envelope.eventId ≠ 0 ∧
    envelope.issuedAtMs ≠ 0 ∧ envelope.issuedAtMs < envelope.expiresAtMs ∧
    envelope.expiresAtMs - envelope.issuedAtMs ≤ controlEnvelopeMaxLifetimeMs ∧
    envelope.issuedAtMs ≤ saturatingAdd nowMs controlEnvelopeMaxClockSkewMs ∧
    nowMs ≤ envelope.expiresAtMs)

/-- What an acknowledgement says. -/
def ackPayload (wire : ControlWire E) (request : ControlEnvelope E)
    (result : Except RemoteReasonCode (ControlInputLane × Nat)) (issuedAtMs : Nat) : WanControlAck where
  sequence := request.sequence
  eventId := request.eventId
  requestCommitment := wire.commitment request
  accepted := result.toBool
  reason := match result with
    | .ok _ => none
    | .error code => some code
  lane := result.toOption.map Prod.fst
  eventCount := (result.toOption.map Prod.snd).getD 0
  issuedAtMs := issuedAtMs
  expiresAtMs := saturatingAdd issuedAtMs wanControlAckLifetimeMs

def signedAck (wire : ControlWire E) (request : ControlEnvelope E)
    (result : Except RemoteReasonCode (ControlInputLane × Nat)) (issuedAtMs : Nat) : List UInt8 :=
  wire.encodeAck (ackPayload wire request result issuedAtMs)

/-- What the target reads from its surroundings while it takes an envelope. -/
structure TargetMoment where
  (receivedAtMs injectionAtMs : Nat)
  securityIsHealthy : Bool
  /-- What the injector answers: the events it injected, or that it failed. -/
  injector : Option Nat

/-- An acknowledgement is handed to the channel. -/
def answer (wire : ControlWire E) (state : WanControl E) (envelope : ControlEnvelope E)
    (payload : List UInt8) : WanControl E :=
  { state with acks := ⟨wire.laneOf envelope, envelope.sequence, payload⟩ :: state.acks }

/-- What becomes of an event that was seen first: the result to acknowledge, what is handed to the
injector, and whether the authorization is withdrawn. -/
def inject (wire : ControlWire E) (authorization : ControlAuthorization) (envelope : ControlEnvelope E)
    (moment : TargetMoment) : Except RemoteReasonCode (ControlInputLane × Nat) × Bool × Bool :=
  if authorization.expiresAtMs < moment.injectionAtMs ∨ envelope.expiresAtMs < moment.injectionAtMs then
    (.error .grantExpired, false, false)
  else if ¬ moment.securityIsHealthy ∧ wire.eventLane envelope.event ≠ .cleanup then
    (.error .policyChanged, false, true)
  else match moment.injector with
    | some eventCount => (.ok (wire.eventLane envelope.event, eventCount), true, false)
    | none => (.error .policyChanged, true, true)

/-- An event that was seen first is taken. -/
def take (wire : ControlWire E) (authorization : ControlAuthorization) (state : WanControl E)
    (envelope : ControlEnvelope E) (moment : TargetMoment) : WanControl E :=
  let lane := AuthenticatedControlReplayLane.fromInputLane (wire.eventLane envelope.event)
  let injected := inject wire authorization envelope moment
  let ack := signedAck wire envelope injected.1 moment.injectionAtMs
  { state with
    replay := state.replay.cacheAck lane envelope.sequence ack
    granted := state.granted && !injected.2.2
    injections := if injected.2.1 then (envelope, moment.injector) :: state.injections
      else state.injections
    seen := ⟨lane, envelope.sequence, envelope.eventId, wire.commitment envelope, ack⟩ :: state.seen }
    |>.answer wire envelope ack

/-- `process_target_envelope`. -/
def deliver (wire : ControlWire E) (authorization : ControlAuthorization) (state : WanControl E)
    (envelope : ControlEnvelope E) (moment : TargetMoment) : WanControl E :=
  if ¬ wellShaped envelope moment.receivedAtMs then state
  else if ¬ (state.granted ∧ authorization.covers moment.receivedAtMs) then
    state.answer wire envelope (signedAck wire envelope (.error .policyChanged) moment.injectionAtMs)
  else
    let lane := AuthenticatedControlReplayLane.fromInputLane (wire.eventLane envelope.event)
    let observed := state.replay.observe lane envelope.sequence envelope.eventId (wire.commitment envelope)
    let state := { state with replay := observed.1 }
    match observed.2 with
    | .ok .firstSeen => state.take wire authorization envelope moment
    | .ok .exactRetry =>
      match state.replay.cachedAck lane envelope.sequence with
      | some ack => state.answer wire envelope ack
      | none => state
    | .error _ =>
      state.answer wire envelope (signedAck wire envelope (.error .replayDetected) moment.injectionAtMs)

/-! ### Steps -/

inductive Step (E : Type)
  | begin (event : E) (nowMs : Nat)
  | transmit (lane : TransportLane) (outcome : TransportSendOutcome)
  /-- The channel delivers a request, given by its place. -/
  | deliver (index : Nat) (moment : TargetMoment)
  /-- The channel delivers an acknowledgement, given by its place. -/
  | receive (index : Nat) (nowMs : Nat)
  /-- The wait for an acknowledgement ends without one. -/
  | lose (lane : TransportLane)

/-- **One step** of the controller, the target or the channel; `none` where the step is not possible. -/
def step (wire : ControlWire E) (authorization : ControlAuthorization) (state : WanControl E) :
    Step E → Option (WanControl E)
  | .begin event nowMs =>
    if (state.sending (transportLane (wire.eventLane event))).isSome then none
    else some (state.begin wire authorization event nowMs)
  | .transmit lane outcome =>
    match state.sending lane with
    | some ⟨envelope, attemptsLeft, none⟩ =>
      some (state.transmit lane ⟨envelope, attemptsLeft, none⟩ outcome)
    | _ => none
  | .deliver index moment =>
    (state.requests[index]?).map fun envelope => state.deliver wire authorization envelope moment
  | .receive index nowMs =>
    match state.acks[index]? with
    | none => none
    | some frame =>
      match state.sending frame.lane with
      | some ⟨envelope, attemptsLeft, some framesLeft⟩ =>
        some (state.receive wire authorization frame.lane ⟨envelope, attemptsLeft, some framesLeft⟩
          framesLeft frame nowMs)
      | _ => none
  | .lose lane =>
    match state.sending lane with
    | some ⟨envelope, attemptsLeft, some framesLeft⟩ =>
      some (state.loseRoute lane ⟨envelope, attemptsLeft, some framesLeft⟩)
    | _ => none

end WanControl

end MiniRemoteDesktop.Control
