/-
**Messages between the machine service and the session agent** (`mrd-agent-ipc`, `protocol.rs`).

The agent runs on the desktop of one interactive session. The service asks it for the consent of the
local user, sends it commands that carry a signed grant, and forwards input events to the resources
that such commands started; the agent answers with the messages of `AgentToService`.

Registration comes before the event loop and is left out, with the fields of the identity and of the
messages that only registration and the receiver read.
-/

import MiniRemoteDesktop.Lib.Text
import MiniRemoteDesktop.Proto
import Mathlib.Algebra.Group.Int.Defs
import Mathlib.Data.Finset.Basic

namespace MiniRemoteDesktop.Agent

/-! ### Identifiers -/

/-- `[u8; 16]`: the id of a request, a registration, a command or a resource. -/
abbrev Id := Vector UInt8 16

/-- `[u8; 32]`: the id of a key or a grant, and a digest. -/
abbrev Digest := Vector UInt8 32

/-- `bytes.iter().all(|byte| *byte == 0)`, the sentinel of an id. -/
def isZero {n : Nat} (bytes : Vector UInt8 n) : Bool := bytes.all fun byte => byte == 0

def agentIpcMaxIdentifierBytes : Nat := 256

def agentConsentMaxLifetimeMs : Nat := 5 * 60 * 1000

/-- `PermissionScope` of `mrd-session`. -/
inductive PermissionScope
  | screenView
  | inputPointer
  | inputKeyboard
  | clipboardRead
  | clipboardWrite
  | fileRead
  | fileWrite
  | audioListen
  | audioTalk
  | displaySwitch
  | displayMultiView
  | powerRestart
  | powerShutdown
  | terminalOpen
  | privacyBlockLocalInput
  | privacyBlankScreen
  | secureDesktopView
  | secureDesktopControl
  deriving DecidableEq

abbrev PermissionScopes := Finset PermissionScope

structure PeerBinding where
  deviceId : DeviceId
  keyId : Digest
  deriving DecidableEq

inductive DesktopKind
  | default
  | secure
  | winlogon
  | unknown
  deriving DecidableEq

/-- `TrustedDesktopState`: what the platform says about the input desktop. -/
structure TrustedDesktopState where
  desktopEpoch : Nat
  desktopKind : DesktopKind
  deriving DecidableEq

/-- `RegisteredAgentIdentity`, as far as the event loop reads it. -/
structure RegisteredAgentIdentity where
  windowsSessionId : Nat
  registrationId : Id
  registrationEpoch : Nat

/-! ### Consent -/

structure ConsentRequest where
  requestToken : Nat
  requestId : Id
  sessionId : SessionId
  peer : PeerBinding
  requestedScopes : PermissionScopes
  (policyRevision windowsSessionId issuedAtMs expiresAtMs authorizationExpiresAtMs : Nat)
  deriving DecidableEq

inductive ConsentCancelReason
  | callerAborted
  | timedOut
  | sessionClosed
  | policyChanged

structure CancelConsent where
  requestToken : Nat
  requestId : Id
  sessionId : SessionId
  reason : ConsentCancelReason

inductive ConsentDecision
  | approved
  | denied
  | expired
  | dismissed
  deriving DecidableEq

structure ConsentResult where
  requestToken : Nat
  requestId : Id
  sessionId : SessionId
  peer : PeerBinding
  (policyRevision windowsSessionId : Nat)
  decision : ConsentDecision
  approvedScopes : PermissionScopes
  decidedAtMs : Nat

/-! ### Commands -/

inductive AgentCapability
  | consent
  | capture
  | input
  | audio
  | clipboard
  | file
  | render
  deriving DecidableEq

inductive AudioDirection
  | listen
  | talk
  | duplex

inductive FileDirection
  | download
  | upload
  | bidirectional

structure RenderSurfaceTarget where
  surfaceId : String
  windowHandle : Nat

structure AgentCaptureProfile where
  (width height fps bitrateBps : Nat)

def AgentCaptureProfile.isValid (profile : AgentCaptureProfile) : Bool :=
  2 ≤ profile.width && profile.width ≤ 7680 && profile.width % 2 == 0 &&
    2 ≤ profile.height && profile.height ≤ 4320 && profile.height % 2 == 0 &&
    1 ≤ profile.fps && profile.fps ≤ 120 &&
    64000 ≤ profile.bitrateBps && profile.bitrateBps ≤ 100000000

inductive AgentCommand
  | startCapture (resourceId : Id) (displayId : Nat) (profile : Option AgentCaptureProfile)
  | stopCapture (resourceId : Id)
  | startInput (resourceId : Id) (inputScopes : PermissionScopes)
  | stopInput (resourceId : Id)
  | startAudio (resourceId : Id) (direction : AudioDirection)
  | stopAudio (resourceId : Id)
  | startClipboard (resourceId : Id)
  | stopClipboard (resourceId : Id)
  | startFile (resourceId : Id) (direction : FileDirection)
  | stopFile (resourceId : Id)
  | startRender (resourceId : Id) (displayId : Nat) (surface : RenderSurfaceTarget)
  | stopRender (resourceId : Id)

namespace AgentCommand

def requiredCapability : AgentCommand → AgentCapability
  | startCapture .. | stopCapture _ => .capture
  | startInput .. | stopInput _ => .input
  | startAudio .. | stopAudio _ => .audio
  | startClipboard _ | stopClipboard _ => .clipboard
  | startFile .. | stopFile _ => .file
  | startRender .. | stopRender _ => .render

def requiredScopes : AgentCommand → PermissionScopes
  | startCapture .. | startRender .. => {.screenView}
  | startInput _ inputScopes => inputScopes
  | startAudio _ .listen => {.audioListen}
  | startAudio _ .talk => {.audioTalk}
  | startAudio _ .duplex => {.audioListen, .audioTalk}
  | startClipboard _ => {.clipboardRead, .clipboardWrite}
  | startFile _ .download => {.fileRead}
  | startFile _ .upload => {.fileWrite}
  | startFile _ .bidirectional => {.fileRead, .fileWrite}
  | stopCapture _ | stopInput _ | stopAudio _ | stopClipboard _ | stopFile _ | stopRender _ => ∅

/-- Whether the command only tears a resource down. -/
def isCleanup : AgentCommand → Bool
  | stopCapture _ | stopInput _ | stopAudio _ | stopClipboard _ | stopFile _ | stopRender _ => true
  | startCapture .. | startInput .. | startAudio .. | startClipboard _ | startFile ..
  | startRender .. => false

def resourceId : AgentCommand → Id
  | startCapture id _ _ | stopCapture id | startInput id _ | stopInput id | startAudio id _
  | stopAudio id | startClipboard id | stopClipboard id | startFile id _ | stopFile id
  | startRender id _ _ | stopRender id => id

/-- `matches!(command, AgentCommand::StartInput { .. })`. -/
def isStartInput : AgentCommand → Bool
  | startInput .. => true
  | _ => false

end AgentCommand

/-- What became of a command. -/
inductive CommandOutcome
  | completed
  | rejected
  | failed
  | alreadyStopped
  deriving DecidableEq

structure CommandResult where
  requestToken : Nat
  (registrationId commandId : Id)
  outcome : CommandOutcome
  completedAtMs : Nat

/-! ### Input events -/

/-- `InputButton` of the agent protocol. -/
inductive AgentInputButton
  | left
  | right
  | middle
  | x1
  | x2
  deriving DecidableEq

/-- `InputKey` of the agent protocol. -/
inductive AgentInputKey
  | virtualKey (code : UInt16)
  deriving DecidableEq

def AgentInputKey.code : AgentInputKey → UInt16
  | virtualKey code => code

inductive InputEventPayload
  | mouseMove (x y : Int32)
  | mouseButton (button : AgentInputButton) (pressed : Bool)
  | mouseWheel (delta : Int32)
  | mouseHorizontalWheel (delta : Int32)
  | key (key : AgentInputKey) (pressed : Bool)
  | releaseAll
  deriving DecidableEq

namespace InputEventPayload

def requiredScope : InputEventPayload → Option PermissionScope
  | mouseMove .. | mouseButton .. | mouseWheel _ | mouseHorizontalWheel _ => some .inputPointer
  | key .. => some .inputKeyboard
  | releaseAll => none

def hasValidShape : InputEventPayload → Bool
  | key (.virtualKey code) _ => code != 0
  | _ => true

end InputEventPayload

/-- Why an input event is not taken. -/
inductive InputRejection
  | policy
  | grant
  | unsupported
  | staleDesktop
  | replay
  | invalidEvent
  deriving DecidableEq

inductive InputFailure
  | uipi
  | platform
  deriving DecidableEq

inductive InputAckOutcome
  | applied
  | rejected (reason : InputRejection)
  | failed (reason : InputFailure)
  deriving DecidableEq

/-- An input event, with the resource and the grant that it is for. -/
structure InputEventEnvelope where
  requestToken : Nat
  sessionId : SessionId
  resourceId : Id
  startGrantId : Digest
  (sequence expiresAtMs : Nat)
  event : InputEventPayload

def InputEventEnvelope.validateShape (envelope : InputEventEnvelope) :
    Except InputRejection Unit :=
  if envelope.requestToken = 0 ∨ envelope.sessionId.value.toList.all Text.isWhitespace ∨
      agentIpcMaxIdentifierBytes < (Text.bytes envelope.sessionId.value).length ∨
      '\x00' ∈ envelope.sessionId.value.toList ∨ isZero envelope.resourceId ∨
      isZero envelope.startGrantId ∨ envelope.sequence = 0 ∨ envelope.sequence = u64Max ∨
      envelope.expiresAtMs = 0 ∨ !envelope.event.hasValidShape then
    .error .invalidEvent
  else .ok ()

structure InputAck where
  requestToken : Nat
  registrationId : Id
  registrationEpoch : Nat
  sessionId : SessionId
  resourceId : Id
  startGrantId : Digest
  sequence : Nat
  eventCommitment : Digest
  outcome : InputAckOutcome

/-! ### Media -/

def agentIpcMaxMediaAccessUnitBytes : Nat := 768 * 1024

inductive MediaCodec
  | h264
  | hevc
  | av1

structure CaptureSourceBounds where
  (left top : Int)
  (width height : Nat)

/-- The sums are `i32::checked_add`. -/
def CaptureSourceBounds.isValid (bounds : CaptureSourceBounds) : Bool :=
  1 ≤ bounds.width && bounds.width ≤ 32768 && 1 ≤ bounds.height && bounds.height ≤ 32768 &&
    bounds.left + bounds.width < 2 ^ 31 && bounds.top + bounds.height < 2 ^ 31

structure RenderAccessUnit where
  resourceId : Id
  sessionId : String
  (sequence timestampUs : Nat)
  codec : MediaCodec
  isKeyframe : Bool
  payload : List UInt8

/-- What the executor hands over from a capture resource. -/
structure EncodedMediaAccessUnit where
  resourceId : Id
  sessionId : SessionId
  (sequence timestampUs : Nat)
  keyframe : Bool
  sourceBounds : Option CaptureSourceBounds
  payload : List UInt8

/-- What the executor says about a live render resource. -/
structure RenderAdapterMetrics where
  resourceId : Id
  sessionId : SessionId
  decoderBackend : String
  (enqueuedUnits queueReplacements decodedFrames presentedFrames : Nat)

/-! ### Events of the agent -/

inductive StopReason
  | serviceShutdown
  | sessionEnding
  | replaced
  | upgrade
  | policyChange

structure StopAgent where
  requestId : Id
  deadlineMs : Nat
  reason : StopReason

/-- The agent's own events name the registration and are numbered. -/
structure AgentEventContext where
  registrationId : Id
  (registrationEpoch windowsSessionId desktopEpoch sequence observedAtMs : Nat)

structure MediaAccessUnit where
  context : AgentEventContext
  codec : MediaCodec
  unit : EncodedMediaAccessUnit

def MediaAccessUnit.isValid (message : MediaAccessUnit) : Bool :=
  !isZero message.unit.resourceId && !message.unit.sessionId.value.isEmpty &&
    (Text.bytes message.unit.sessionId.value).length ≤ agentIpcMaxIdentifierBytes &&
    0 < message.unit.sequence && 0 < message.context.sequence &&
    message.unit.sourceBounds.all CaptureSourceBounds.isValid && !message.unit.payload.isEmpty &&
    message.unit.payload.length ≤ agentIpcMaxMediaAccessUnitBytes

structure RenderBoundaryMetrics where
  context : AgentEventContext
  metrics : RenderAdapterMetrics

def RenderBoundaryMetrics.isValid (message : RenderBoundaryMetrics) : Bool :=
  !isZero message.context.registrationId && 0 < message.context.registrationEpoch &&
    0 < message.context.windowsSessionId && 0 < message.context.desktopEpoch &&
    0 < message.context.sequence && !isZero message.metrics.resourceId &&
    !message.metrics.sessionId.value.isEmpty &&
    (Text.bytes message.metrics.sessionId.value).length ≤ agentIpcMaxIdentifierBytes &&
    !message.metrics.decoderBackend.isEmpty &&
    (Text.bytes message.metrics.decoderBackend).length ≤ agentIpcMaxIdentifierBytes &&
    message.metrics.decodedFrames ≤ message.metrics.enqueuedUnits &&
    message.metrics.presentedFrames ≤ message.metrics.decodedFrames &&
    message.metrics.queueReplacements ≤ message.metrics.enqueuedUnits

/-- What the agent can do on its desktop. -/
structure AgentCapabilitySnapshot where
  registrationId : Id
  (windowsSessionId revision desktopEpoch observedAtMs : Nat)
  capabilities : Finset AgentCapability

/-- **What the registered agent sends.** -/
inductive AgentToService
  | agentCapabilitySnapshot (snapshot : AgentCapabilitySnapshot)
  | consentResult (result : ConsentResult)
  | agentStopping (context : AgentEventContext)
  | agentHeartbeat (context : AgentEventContext)
  | renderBoundaryMetrics (metrics : RenderBoundaryMetrics)
  | commandResult (result : CommandResult)
  | inputAck (ack : InputAck)
  | mediaAccessUnit (unit : MediaAccessUnit)

end MiniRemoteDesktop.Agent
