/-
**Input resources of the session agent** (`mrd-session-agent`, `input.rs`, over the tracked injector
of `mrd-input`) and the grants that open them (`mrd-agent-ipc`, `grant.rs`).

A command reaches the agent with a grant that the service signed for it. `validateExecuteCommand`
checks the grant against what the agent knows about the session; a `StartInput` command that passes
becomes an `AuthorizedInputResource`, against which `validateInputEvent` checks the input events. The
signature check and the SHA-256 digests are the parameter `Digests`.

A `StartInput` command opens a resource, and the events of the resource press and release buttons and
keys of the one physical device. Each resource remembers what it holds, the manager counts the
holders, and the device hears of the first press and the last release; `TrackedInputInjector` keeps
what is physically down. A release that the device refuses leaves everything as it was.

The device is a parameter, with any state and any answers. `sent` lists every event it was handed,
newest first, whatever it answered; nothing reads it.
-/

import MiniRemoteDesktop.Agent.Protocol
import MiniRemoteDesktop.Input.Registry

namespace MiniRemoteDesktop.Agent

def agentExecuteGrantMaxLifetimeMs : Nat := 5 * 60 * 1000

inductive GrantAudience
  | sessionAgent
  deriving DecidableEq

structure ExecuteGrantClaims where
  grantId : Digest
  registrationId : Id
  registrationEpoch : Nat
  sessionId : SessionId
  peer : PeerBinding
  scopes : PermissionScopes
  (policyRevision windowsSessionId desktopEpoch : Nat)
  desktopKind : DesktopKind
  (issuedAtMs notBeforeMs expiresAtMs : Nat)
  commandDigest : Digest
  audience : GrantAudience
  deriving DecidableEq

structure ExecuteGrant where
  claims : ExecuteGrantClaims
  issuerKeyId : Digest
  signature : Vector UInt8 64

structure ExecuteCommand where
  requestToken : Nat
  commandId : Id
  grant : ExecuteGrant
  command : AgentCommand

/-- **The cryptography of the protocol**: whether an issuer signed a grant, the digest of a command
with its id, and the commitment to an input event without its transport token. -/
structure Digests where
  verify : ExecuteGrant → Bool
  commandDigest : Id → AgentCommand → Digest
  eventCommitment : SessionId → Id → Digest → Nat → Nat → InputEventPayload → Digest

def InputEventEnvelope.commitment (digests : Digests) (envelope : InputEventEnvelope) :
    Except InputRejection Digest := do
  envelope.validateShape
  return digests.eventCommitment envelope.sessionId envelope.resourceId envelope.startGrantId
    envelope.sequence envelope.expiresAtMs envelope.event

inductive ExecutionPurpose
  | start
  | cleanup
  deriving DecidableEq

structure ExecutionContext where
  registrationId : Id
  registrationEpoch : Nat
  sessionId : SessionId
  peer : PeerBinding
  (policyRevision windowsSessionId desktopEpoch : Nat)
  desktopKind : DesktopKind
  nowMs : Nat
  expectedIssuerKeyId : Digest
  authorizationScopes : PermissionScopes
  authorizationExpiresAtMs : Nat

inductive GrantValidationError
  | invalidIssuerKeyId
  | issuerMismatch
  | invalidSignature
  | audienceMismatch
  | invalidGrantId
  | invalidRegistrationId
  | invalidRegistrationEpoch
  | invalidSessionId
  | invalidPeerDeviceId
  | invalidPeerKeyId
  | invalidPolicyRevision
  | invalidWindowsSessionId
  | invalidDesktopEpoch
  | invalidCommandDigest
  | invalidCommandId
  | invalidRequestToken
  | invalidResourceId
  | invalidInputScopes
  | invalidRenderSurface
  | invalidCaptureProfile
  | registrationMismatch
  | registrationEpochMismatch
  | sessionMismatch
  | peerDeviceMismatch
  | peerKeyMismatch
  | policyRevisionMismatch
  | windowsSessionMismatch
  | desktopEpochMismatch
  | desktopKindMismatch
  | unsupportedDesktop
  | commandMismatch
  | insufficientScopes
  | authorizationScopeMismatch
  | authorizationExpiryMismatch
  | authorizationExpired
  | emptyRequiredScopes
  | invalidTimeWindow
  | lifetimeExceeded
  | notYetValid
  | expired

/-! ### Validated commands -/

structure AuthorizedGrant where
  claims : ExecuteGrantClaims
  issuerKeyId : Digest
  deriving DecidableEq

structure AuthorizedCommand where
  commandId : Id
  command : AgentCommand
  grant : AuthorizedGrant

structure AuthorizedInputResource where
  resourceId : Id
  startGrantId : Digest
  inputScopes : PermissionScopes
  grant : AuthorizedGrant
  deriving DecidableEq

def AuthorizedInputResource.sessionId (resource : AuthorizedInputResource) : SessionId :=
  resource.grant.claims.sessionId

def authorizeInputResource (authorized : AuthorizedCommand) : Option AuthorizedInputResource :=
  match authorized.command with
  | .startInput resourceId inputScopes =>
    some { resourceId, startGrantId := authorized.grant.claims.grantId, inputScopes,
           grant := authorized.grant }
  | _ => none

/-- An empty or an overlong identifier. -/
def malformedIdentifier (value : String) : Bool :=
  value.isEmpty || agentIpcMaxIdentifierBytes < (Text.bytes value).length

def validateExecuteGrant (digests : Digests) (grant : ExecuteGrant) (context : ExecutionContext)
    (commandDigest : Digest) (requiredScopes : PermissionScopes) (purpose : ExecutionPurpose) :
    Except GrantValidationError AuthorizedGrant :=
  let claims := grant.claims
  if isZero grant.issuerKeyId ∨ isZero context.expectedIssuerKeyId then .error .invalidIssuerKeyId
  else if grant.issuerKeyId ≠ context.expectedIssuerKeyId then .error .issuerMismatch
  else if isZero grant.signature then .error .invalidSignature
  else if !digests.verify grant then .error .invalidSignature
  else if claims.audience ≠ .sessionAgent then .error .audienceMismatch
  else if isZero claims.grantId then .error .invalidGrantId
  else if isZero claims.registrationId then .error .invalidRegistrationId
  else if claims.registrationEpoch = 0 then .error .invalidRegistrationEpoch
  else if malformedIdentifier claims.sessionId.value then .error .invalidSessionId
  else if malformedIdentifier claims.peer.deviceId.value then .error .invalidPeerDeviceId
  else if isZero claims.peer.keyId then .error .invalidPeerKeyId
  else if claims.policyRevision = 0 then .error .invalidPolicyRevision
  else if claims.windowsSessionId = 0 then .error .invalidWindowsSessionId
  else if claims.desktopEpoch = 0 then .error .invalidDesktopEpoch
  else if isZero claims.commandDigest then .error .invalidCommandDigest
  else if claims.registrationId ≠ context.registrationId then .error .registrationMismatch
  else if claims.registrationEpoch ≠ context.registrationEpoch then
    .error .registrationEpochMismatch
  else if claims.sessionId ≠ context.sessionId then .error .sessionMismatch
  else if claims.peer.deviceId ≠ context.peer.deviceId then .error .peerDeviceMismatch
  else if claims.peer.keyId ≠ context.peer.keyId then .error .peerKeyMismatch
  else if claims.policyRevision ≠ context.policyRevision then .error .policyRevisionMismatch
  else if claims.windowsSessionId ≠ context.windowsSessionId then .error .windowsSessionMismatch
  else if claims.desktopEpoch ≠ context.desktopEpoch then .error .desktopEpochMismatch
  else if claims.desktopKind ≠ context.desktopKind then .error .desktopKindMismatch
  else if claims.commandDigest ≠ commandDigest then .error .commandMismatch
  else if purpose = .start ∧ requiredScopes = ∅ then .error .emptyRequiredScopes
  else if ¬ requiredScopes ⊆ claims.scopes then .error .insufficientScopes
  else if ¬ claims.scopes ⊆ context.authorizationScopes then .error .authorizationScopeMismatch
  else if claims.expiresAtMs ≤ claims.notBeforeMs ∨ claims.expiresAtMs ≤ claims.issuedAtMs then
    .error .invalidTimeWindow
  else if agentExecuteGrantMaxLifetimeMs < claims.expiresAtMs - claims.issuedAtMs ∨
      agentExecuteGrantMaxLifetimeMs < claims.expiresAtMs - claims.notBeforeMs then
    .error .lifetimeExceeded
  else if context.authorizationExpiresAtMs < claims.expiresAtMs then
    .error .authorizationExpiryMismatch
  else if context.nowMs < claims.notBeforeMs then .error .notYetValid
  else if purpose = .start ∧ context.authorizationExpiresAtMs ≤ context.nowMs then
    .error .authorizationExpired
  else if purpose = .start ∧ claims.expiresAtMs ≤ context.nowMs then .error .expired
  else .ok { claims, issuerKeyId := grant.issuerKeyId }

/-- The checks on what a command itself carries. -/
def malformedCommand : AgentCommand → Option GrantValidationError
  | .startInput _ inputScopes =>
    if inputScopes = ∅ ∨ ¬ inputScopes ⊆ {.inputPointer, .inputKeyboard} then
      some .invalidInputScopes
    else none
  | .startRender _ _ surface =>
    if malformedIdentifier surface.surfaceId ∨ surface.windowHandle = 0 then
      some .invalidRenderSurface
    else none
  | .startCapture _ _ (some profile) =>
    if profile.isValid then none else some .invalidCaptureProfile
  | _ => none

def validateExecuteCommand (digests : Digests) (execute : ExecuteCommand)
    (context : ExecutionContext) : Except GrantValidationError AuthorizedCommand := do
  if execute.requestToken = 0 then throw .invalidRequestToken
  if isZero execute.commandId then throw .invalidCommandId
  if isZero execute.command.resourceId then throw .invalidResourceId
  if let some error := malformedCommand execute.command then throw error
  let purpose := if execute.command.isCleanup then ExecutionPurpose.cleanup else .start
  if purpose = .start ∧ context.desktopKind ≠ .default then throw .unsupportedDesktop
  let grant ← validateExecuteGrant digests execute.grant context
    (digests.commandDigest execute.commandId execute.command) execute.command.requiredScopes purpose
  return { commandId := execute.commandId, command := execute.command, grant }

/-! ### Validated input events -/

/-- `validate_input_event`: a release needs no scope and no fresh policy or desktop. -/
def validateInputEvent (envelope : InputEventEnvelope) (resource : AuthorizedInputResource)
    (context : ExecutionContext) : Except InputRejection InputEventPayload := do
  envelope.validateShape
  let claims := resource.grant.claims
  if envelope.sessionId ≠ claims.sessionId ∨ envelope.resourceId ≠ resource.resourceId ∨
      envelope.startGrantId ≠ resource.startGrantId ∨
      context.registrationId ≠ claims.registrationId ∨
      context.registrationEpoch ≠ claims.registrationEpoch ∨
      context.sessionId ≠ claims.sessionId ∨ context.peer ≠ claims.peer ∨
      context.windowsSessionId ≠ claims.windowsSessionId ∨
      context.expectedIssuerKeyId ≠ resource.grant.issuerKeyId ∨
      ¬ claims.scopes ⊆ context.authorizationScopes ∨
      context.authorizationExpiresAtMs < claims.expiresAtMs then
    throw .grant
  if let some requiredScope := envelope.event.requiredScope then
    if requiredScope ∉ resource.inputScopes ∨ requiredScope ∉ context.authorizationScopes ∨
        claims.expiresAtMs ≤ context.nowMs ∨ envelope.expiresAtMs ≤ context.nowMs ∨
        claims.expiresAtMs < envelope.expiresAtMs ∨
        context.authorizationExpiresAtMs ≤ context.nowMs then
      throw .grant
    if context.policyRevision ≠ claims.policyRevision then throw .policy
    if context.desktopEpoch ≠ claims.desktopEpoch ∨ context.desktopKind ≠ claims.desktopKind ∨
        context.desktopKind ≠ .default then
      throw .staleDesktop
  return envelope.event

open Input (InputEvent InputError InputButton InputKey InputInjector HeldInput)
open Procedure

/-! ### The tracked injector -/

/-- **A device**: how it answers an event, and whether it is there. -/
structure PlatformInjector (σ : Type) extends InputInjector σ where
  isAvailable : σ → Bool

structure TrackedInputInjector (σ : Type) where
  inner : σ
  activeButtons : List InputButton
  activeKeys : List InputKey
  sent : List InputEvent

namespace TrackedInputInjector

variable {σ : Type}

def new (inner : σ) : TrackedInputInjector σ := ⟨inner, [], [], []⟩

def pushUnique {α : Type} [DecidableEq α] (items : List α) (value : α) : List α :=
  if value ∈ items then items else items ++ [value]

def updatePressedState (tracked : TrackedInputInjector σ) : InputEvent → TrackedInputInjector σ
  | .mouseButton button true =>
    { tracked with activeButtons := pushUnique tracked.activeButtons button }
  | .mouseButton button false =>
    { tracked with activeButtons := tracked.activeButtons.filter (· ≠ button) }
  | .key key true => { tracked with activeKeys := pushUnique tracked.activeKeys key }
  | .key key false => { tracked with activeKeys := tracked.activeKeys.filter (· ≠ key) }
  | .mouseMove .. | .mouseWheel _ | .mouseHorizontalWheel _ => tracked

def inject (device : PlatformInjector σ) (event : InputEvent) :
    Procedure (TrackedInputInjector σ) InputError Unit := fun tracked =>
  match device.inject tracked.inner event with
  | (inner, .ok ()) =>
    ({ tracked with inner, sent := event :: tracked.sent }.updatePressedState event, .ok ())
  | (inner, .error error) => ({ tracked with inner, sent := event :: tracked.sent }, .error error)

/-- What is physically down. -/
def active (tracked : TrackedInputInjector σ) : HeldInput → Bool
  | .button button => button ∈ tracked.activeButtons
  | .key key => key ∈ tracked.activeKeys

end TrackedInputInjector

/-! ### What resources hold -/

/-- A button or a key of the protocol: what a resource can hold down. -/
inductive AgentHeldInput
  | button (button : AgentInputButton)
  | key (key : AgentInputKey)
  deriving DecidableEq

def toInputButton : AgentInputButton → InputButton
  | .left => .left
  | .right => .right
  | .middle => .middle
  | .x1 => .other 1
  | .x2 => .other 2

def toInputKey : AgentInputKey → InputKey
  | .virtualKey code => .virtualKey code

/-- The button or key of the device. -/
def AgentHeldInput.physical : AgentHeldInput → HeldInput
  | button held => .button (toInputButton held)
  | key held => .key (toInputKey held)

structure PressedInputs where
  buttons : Finset AgentInputButton
  keys : Finset AgentInputKey

namespace PressedInputs

def empty : PressedInputs := ⟨∅, ∅⟩

def contains (pressed : PressedInputs) : AgentHeldInput → Bool
  | .button button => button ∈ pressed.buttons
  | .key key => key ∈ pressed.keys

def insert (pressed : PressedInputs) : AgentHeldInput → PressedInputs
  | .button button => { pressed with buttons := Insert.insert button pressed.buttons }
  | .key key => { pressed with keys := Insert.insert key pressed.keys }

def remove (pressed : PressedInputs) : AgentHeldInput → PressedInputs
  | .button button => { pressed with buttons := pressed.buttons.erase button }
  | .key key => { pressed with keys := pressed.keys.erase key }

end PressedInputs

/-- `REPLAY_CACHE_CAPACITY`. -/
def inputReplayCacheCapacity : Nat := 4096

structure InputResourceState where
  resource : AuthorizedInputResource
  pressed : PressedInputs
  lastSequence : Nat
  replay : AList fun _ : Nat => Digest × InputAckOutcome

structure InputResourceManager (σ : Type) where
  injector : TrackedInputInjector σ
  resources : AList fun _ : Id => InputResourceState
  buttonHolders : AList fun _ : AgentInputButton => Nat
  keyHolders : AList fun _ : AgentInputKey => Nat

/-- **The order in which the hash tables are iterated**: any enumeration, which may change from one state
of a resource to the next. -/
structure ReleaseOrder where
  buttons : InputResourceState → List AgentInputButton
  keys : InputResourceState → List AgentInputKey
  resources : (AList fun _ : Id => InputResourceState) → List InputResourceState
  mem_buttons : ∀ state button, button ∈ buttons state ↔ button ∈ state.pressed.buttons
  mem_keys : ∀ state key, key ∈ keys state ↔ key ∈ state.pressed.keys
  resources_perm : ∀ map, (resources map).Perm (map.entries.map Sigma.snd)

/-- The inputs that a resource holds, buttons first, in iteration order. -/
def ReleaseOrder.held (order : ReleaseOrder) (state : InputResourceState) : List AgentHeldInput :=
  (order.buttons state).map .button ++ (order.keys state).map .key

def mapInputError : InputError → InputAckOutcome
  | .unavailable _ => .rejected .unsupported
  | .invalidEvent _ => .rejected .invalidEvent
  | .uipiDenied => .failed .uipi
  | .platform _ => .failed .platform

/-- `match result { Ok(()) => Applied, Err(error) => map_input_error(error) }`. -/
def ackOf : Except InputError Unit → InputAckOutcome
  | .ok () => .applied
  | .error error => mapInputError error

namespace InputResourceManager

variable {σ : Type}

/-- A method of the manager. -/
abbrev Method (σ α : Type) := Procedure (InputResourceManager σ) InputError α

def new (inner : σ) : InputResourceManager σ := ⟨.new inner, ∅, ∅, ∅⟩

def holders (manager : InputResourceManager σ) : AgentHeldInput → Nat
  | .button button => (manager.buttonHolders.lookup button).getD 0
  | .key key => (manager.keyHolders.lookup key).getD 0

def setHolders (manager : InputResourceManager σ) (count : Nat) :
    AgentHeldInput → InputResourceManager σ
  | .button button => { manager with buttonHolders := manager.buttonHolders.insert button count }
  | .key key => { manager with keyHolders := manager.keyHolders.insert key count }

def removeHolders (manager : InputResourceManager σ) : AgentHeldInput → InputResourceManager σ
  | .button button => { manager with buttonHolders := manager.buttonHolders.erase button }
  | .key key => { manager with keyHolders := manager.keyHolders.erase key }

/-- Change what a resource holds. -/
def setPressed (manager : InputResourceManager σ) (id : Id) (state : InputResourceState)
    (pressed : PressedInputs) : InputResourceManager σ :=
  { manager with resources := manager.resources.insert id { state with pressed } }

def removeResource (manager : InputResourceManager σ) (id : Id) : InputResourceManager σ :=
  { manager with resources := manager.resources.erase id }

/-- The manager after a resource pressed an input that `holders` others hold. -/
def press (manager : InputResourceManager σ) (id : Id) (state : InputResourceState)
    (input : AgentHeldInput) : InputResourceManager σ :=
  (manager.setPressed id state (state.pressed.insert input)).setHolders (manager.holders input + 1)
    input

/-- The manager after one of `holders` holders released an input. -/
def release (manager : InputResourceManager σ) (id : Id) (state : InputResourceState)
    (input : AgentHeldInput) : InputResourceManager σ :=
  let removed := manager.setPressed id state (state.pressed.remove input)
  if manager.holders input ≤ 1 then removed.removeHolders input
  else removed.setHolders (manager.holders input - 1) input

variable (device : PlatformInjector σ)

/-- Send one event to the device. -/
def inject (event : InputEvent) : Method σ Unit := fun manager =>
  let answered := TrackedInputInjector.inject device event manager.injector
  ({ manager with injector := answered.1 }, answered.2)

/-- Whether the device hears of the transition. -/
def isPhysical (manager : InputResourceManager σ) (input : AgentHeldInput) (pressed : Bool) : Bool :=
  (pressed && manager.holders input == 0) || (!pressed && manager.holders input == 1)

/-- `transition_button` and `transition_key`. Every caller names a resource that is there. -/
def transition (id : Id) (input : AgentHeldInput) (pressed : Bool) : Method σ Unit := do
  let manager ← read
  match manager.resources.lookup id with
  | none => return ()
  | some state =>
    if state.pressed.contains input = pressed then return ()
    if manager.isPhysical input pressed then inject device (input.physical.event pressed)
    if pressed then change fun manager => manager.press id state input
    else change fun manager => manager.release id state input

def transitionButton (id : Id) (button : AgentInputButton) (pressed : Bool) : Method σ Unit :=
  transition device id (.button button) pressed

def transitionKey (id : Id) (key : AgentInputKey) (pressed : Bool) : Method σ Unit :=
  transition device id (.key key) pressed

variable (order : ReleaseOrder)

/-- `release_state`: release what a copy of the resource's state holds. -/
def releaseState (state : InputResourceState) : Method σ Unit :=
  sweep (fun input => transition device state.resource.resourceId input false) (order.held state)

/-- Release a resource, and remove it if that worked. -/
def retire (state : InputResourceState) : Method σ Unit := do
  releaseState device order state
  change fun manager => manager.removeResource state.resource.resourceId

/-! ### The operations of the backend -/

/-- Whether a live resource has this id or this grant. -/
def isTaken (manager : InputResourceManager σ) (resource : AuthorizedInputResource) : Bool :=
  resource.resourceId ∈ manager.resources || manager.resources.entries.any fun entry =>
      entry.2.resource.startGrantId = resource.startGrantId

def start (command : AuthorizedCommand) : Procedure (InputResourceManager σ) InputRejection Unit := do
  if !command.command.isStartInput then fail .grant
  let manager ← read
  if !device.isAvailable manager.injector.inner then fail .unsupported
  match authorizeInputResource command with
  | none => fail .grant
  | some resource =>
    if manager.isTaken resource then fail .replay
    change fun manager =>
      { manager with
        resources := manager.resources.insert resource.resourceId
          { resource, pressed := .empty, lastSequence := 0, replay := ∅ } }

def injectValidated (id : Id) : InputEventPayload → Method σ Unit
  | .mouseMove x y => inject device (.mouseMove x y)
  | .mouseWheel delta => inject device (.mouseWheel delta)
  | .mouseHorizontalWheel delta => inject device (.mouseHorizontalWheel delta)
  | .mouseButton button pressed => transitionButton device id button pressed
  | .key key pressed => transitionKey device id key pressed
  | .releaseAll => do
    let manager ← read
    match manager.resources.lookup id with
    | none => return ()
    | some state => releaseState device order state

/-- The oldest sequence of a replay cache. -/
def oldestSequence (replay : AList fun _ : Nat => Digest × InputAckOutcome) : Option Nat :=
  replay.keys.min?

/-- Remember the answer to an event, and forget the oldest when there are too many. -/
def remember (state : InputResourceState) (sequence : Nat) (commitment : Digest)
    (outcome : InputAckOutcome) : InputResourceState :=
  let replay := state.replay.insert sequence (commitment, outcome)
  let bounded :=
    if inputReplayCacheCapacity < replay.entries.length then
      (oldestSequence replay).elim replay replay.erase
    else replay
  { state with lastSequence := sequence, replay := bounded }

/-- What a manager answers about an event before it touches the device. -/
def screen (digests : Digests) (state : InputResourceState) (envelope : InputEventEnvelope)
    (context : ExecutionContext) : Except InputAckOutcome (Digest × InputEventPayload) := do
  let commitment ← (envelope.commitment digests).mapError .rejected
  if let some (cachedCommitment, cached) := state.replay.lookup envelope.sequence then
    throw (if cachedCommitment = commitment then cached else .rejected .replay)
  let event ← (validateInputEvent envelope state.resource context).mapError .rejected
  if envelope.sequence ≤ state.lastSequence then throw (.rejected .replay)
  return (commitment, event)

def handle (digests : Digests) (envelope : InputEventEnvelope) (context : ExecutionContext)
    (manager : InputResourceManager σ) : InputResourceManager σ × InputAckOutcome :=
  match manager.resources.lookup envelope.resourceId with
  | none => (manager, .rejected .grant)
  | some state =>
    match screen digests state envelope context with
    | .error outcome => (manager, outcome)
    | .ok (commitment, event) =>
      let injected := injectValidated device order envelope.resourceId event manager
      let outcome := ackOf injected.2
      match injected.1.resources.lookup envelope.resourceId with
      -- the resource is still installed: no event removes one
      | none => (injected.1, outcome)
      | some state =>
        ({ injected.1 with
           resources := injected.1.resources.insert envelope.resourceId
             (remember state envelope.sequence commitment outcome) }, outcome)

def stop (id : Id) (manager : InputResourceManager σ) : InputResourceManager σ × InputAckOutcome :=
  match manager.resources.lookup id with
  | none => (manager, .rejected .grant)
  | some state =>
    let released := releaseState device order state manager
    match released.2 with
    | .ok () => (released.1.removeResource id, .applied)
    | .error error => (released.1, mapInputError error)

def releaseSession (sessionId : SessionId) : Method σ Unit := do
  let manager ← read
  sweep (retire device order)
    ((order.resources manager.resources).filter fun state => state.resource.sessionId = sessionId)

def releaseAll : Method σ Unit := do
  let manager ← read
  sweep (retire device order) (order.resources manager.resources)
  change fun manager => { manager with buttonHolders := ∅, keyHolders := ∅ }

end InputResourceManager

end MiniRemoteDesktop.Agent
