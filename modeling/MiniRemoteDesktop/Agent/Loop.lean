/-
**The consent handlers and the loop of the session agent** (`mrd-session-agent`, `runtime.rs`).

* `iterate` — one round of the loop, for any event.
* `LoopState.step` — the runs: registration, rounds until one of them ends the loop, and the clean-up.
-/

import MiniRemoteDesktop.Agent.Runtime

namespace MiniRemoteDesktop.Agent

open ConsentManager (activate admitPrompt complete expireDue onRegistry shutdown)
open Procedure

/-- `coarse_consent_result`: the answer to a request that was not admitted. -/
def coarseConsentResult (request : ConsentRequest) (decision : ConsentDecision) (nowMs : Nat) :
    ConsentResult :=
  terminalResult request decision (clampedDecidedAt request nowMs)

namespace AgentRuntime

variable {ω σ : Type} (platform : Platform ω σ)

/-! ### Consent -/

def handleConsentWithoutManager (request : ConsentRequest) : Method ω σ Unit := do
  let nowMs ← readClock platform
  let decision :=
    if request.issuedAtMs ≤ nowMs ∧ nowMs < request.expiresAtMs then ConsentDecision.dismissed
    else .expired
  sendResult platform (coarseConsentResult request decision nowMs)

/-- The prompt that was just admitted goes on screen, if there is none. -/
def activateAdmitted : Method ω σ Unit := do
  if (← read).authority.any ConsentManager.needsActivation then
    releaseInput platform
    let context ← trustedConsentContext platform
    let instants ← ask platform.instants
    let answers ← onManager (activate instants context)
    sendAnswers platform answers

def handleManagedConsent (request : ConsentRequest) : Method ω σ Unit := do
  if (← read).authority.isNone then handleConsentWithoutManager platform request
  else
    let context ← trustedConsentContext platform
    let now ← readInstant platform
    let due ← onManager (expireDue now context.nowMs)
    sendAnswers platform due
    let admittedAt ← readInstant platform
    match ← onManager (attempt (admitPrompt request context admittedAt)) with
    | .ok (.cached result) => sendResult platform result
    | .ok .promptAdmitted => activateAdmitted platform
    | .error .inactiveRequest =>
      let nowMs ← readClock platform
      sendResult platform (coarseConsentResult request .expired nowMs)
    | .error .invalidLocalContext | .error .pendingCapacityExceeded =>
      let nowMs ← readClock platform
      sendResult platform (coarseConsentResult request .dismissed nowMs)
    | .error error => fail (.consentStateUnavailable (some error))

/-- Whether the input of a session, if it is not released yet, stays down. -/
def releaseFailed (sessionId : SessionId) (alreadyReleased : List SessionId) : Method ω σ Bool := do
  if sessionId ∉ alreadyReleased then
    let released ← onInput none
      (InputResourceManager.releaseSession platform.device platform.order sessionId)
    return released.any fun answer => !answer.isOk
  else return false

/-- The new authority is taken back, and the loop ends. -/
def abandonFreshAuthority (change : FreshAuthorityChange) : Method ω σ Unit := do
  let invalidated ← onManager (onRegistry (ConsentAuthorityState.invalidateFreshAuthority change))
  fail (if invalidated then .inputCleanupFailed else .consentStateUnavailable none)

/-- The input of the old authority is released before the new one is used. -/
def settleFreshAuthority (change : FreshAuthorityChange) (alreadyReleased : List SessionId) :
    Method ω σ Unit := do
  let cleanupFailed ← releaseFailed platform change.sessionId alreadyReleased
  when cleanupFailed (abandonFreshAuthority change)
  retireReceipts fun receipt =>
    receipt.capability == .input && receipt.binding.sessionId == change.sessionId

def handleConsentCompletion (completion : BackendCompletion) (alreadyReleased : List SessionId) :
    Method ω σ Unit := do
  let context ← trustedConsentContext platform
  let instants ← ask platform.instants
  let completed ← onManager (complete instants completion context)
  match completed.freshAuthorityChange with
  | none => sendAnswers platform completed.results
  | some change =>
    note (.approved completion change)
    settleFreshAuthority platform change alreadyReleased
    let resumeContext ← trustedConsentContext platform
    let instants ← ask platform.instants
    let resumed ← onManager (activate instants resumeContext)
    sendAnswers platform (completed.results ++ resumed)

def handleConsentDeadline : Method ω σ Unit := do
  let nowMs ← readClock platform
  let now ← readInstant platform
  let answers ← onManager (expireDue now nowMs)
  sendAnswers platform answers

def handleManagedCancel (cancel : CancelConsent) : Method ω σ Unit := do
  let nowMs ← readClock platform
  if (← read).authority.isSome then
    let now ← readInstant platform
    let answers ← onManager (ConsentManager.cancel cancel now nowMs)
    sendAnswers platform answers

/-! ### The end -/

def shutdownConsent : Method ω σ Unit := do
  let nowMs ← readClock platform
  let runtime ← read
  when runtime.authority.isSome (onManager (shutdown nowMs))

/-- Do all of it, whatever fails, and report the first error. -/
def terminalSteps : Method ω σ Unit := do
  let runtime ← read
  let invalidations ← (if runtime.authority.isSome then
    onManager (onRegistry ConsentAuthorityState.drain) else pure [])
  sweep id [releaseAuthorityInvalidations platform invalidations, releaseInput platform,
      shutdownConsent platform]

/-- `terminal_cleanup`; the reason only tells the surface why it closes. -/
def terminalCleanup : Method ω σ Unit := do
  if (← read).cleanupComplete then return ()
  else
    terminalSteps platform
    change fun runtime => { runtime with cleanupComplete := true }

/-! ### One round -/

/-- `StopAgent`. -/
def handleStop (stop : StopAgent) : Method ω σ AgentExit := do
  let anchor ← readInstant platform
  let nowMs ← readClock platform
  refuse (isZero stop.requestId ∨ stop.deadlineMs ≤ nowMs) .invalidStopRequest
  match checkedAdd anchor (stop.deadlineMs - nowMs) with
  | none => fail .invalidStopRequest
  | some deadline =>
    terminalCleanup platform
    let now ← readInstant platform
    refuse (deadline ≤ now) .outboundUnavailable
    let desktop ← resolveDesktopState platform
    let context ← nextEventContext platform desktop
    change fun runtime =>
      { runtime with sent := ⟨.agentStopping context, none⟩ :: runtime.sent }
    match ← ask platform.flushStopping with
    | .ok exit => return exit
    | .error error => fail error

/-- The counters of one render resource. -/
def sendMetrics (desktop : TrustedDesktopState) (metrics : RenderAdapterMetrics) : Method ω σ Unit :=
    do
  let context ← nextEventContext platform desktop
  let message : RenderBoundaryMetrics := { context, metrics }
  refuse (!message.isValid) .invalidRenderMetrics
  enqueue platform (.renderBoundaryMetrics message) none

def handleHeartbeat : Method ω σ Unit := do
  let desktop ← resolveDesktopState platform
  let context ← nextEventContext platform desktop
  enqueue platform (.agentHeartbeat context) none
  let runtime ← read
  let metrics ← (if runtime.authority.isSome then ask platform.renderMetrics else pure [])
  forEach (fun metrics _ => sendMetrics platform desktop metrics) metrics ()

def intoIpc (unit : EncodedMediaAccessUnit) (context : AgentEventContext) : Option MediaAccessUnit :=
  let message : MediaAccessUnit := { context, codec := .h264, unit }
  if message.isValid then some message else none

/-- One frame of `pump_capture_access_units`. -/
def sendCaptured (desktop : TrustedDesktopState) (unit : EncodedMediaAccessUnit) : Method ω σ Unit :=
    do
  let nowMs ← readClock platform
  let binding ← resolveBinding platform unit.sessionId nowMs
  refuse (!binding.any fun binding =>
    bindingMatchesRuntime platform binding desktop && .screenView ∈ binding.approvedScopes)
    .mediaCaptureFailed
  let context ← nextEventContext platform desktop
  match intoIpc unit context with
  | none => fail .mediaCaptureFailed
  | some message =>
    note (.emitted message { nowMs, desktop })
    enqueue platform (.mediaAccessUnit message) none

def pumpCaptureAccessUnits : Method ω σ Unit := do
  let desktop ← resolveDesktopState platform
  if (← read).authority.isSome then
    match ← ask platform.captureAccessUnits with
    | none => fail .mediaCaptureFailed
    | some units => forEach (fun unit _ => sendCaptured platform desktop unit) units ()
  else return ()

/-- A message of the service; an answer ends the loop. -/
def handleMessage : ServiceToAgent → Method ω σ (Option AgentExit)
  | .stopAgent stop => do return some (← handleStop platform stop)
  | .execute execute => do
    handleExecute platform execute
    return none
  | .consentRequest request => do
    handleManagedConsent platform request
    return none
  | .cancelConsent cancel => do
    handleManagedCancel platform cancel
    return none
  | .inputEvent envelope => do
    handleInput platform envelope
    return none
  | .renderAccessUnit unit => do
    let runtime ← read
    let accepted ←
      (if runtime.authority.isSome then ask (platform.renderAccessUnit unit) else pure false)
    refuse (!accepted) .invalidRenderAccessUnit
    return none
  | .agentChallenge => fail .unsupportedMessage

/-- Clean up, and end the loop because the desktop source is gone. -/
def failStop : Method ω σ (Option AgentExit) := do
  terminalCleanup platform
  fail .desktopStateUnavailable

/-- Take back what belongs to another desktop, and announce the desktop if it changed. -/
def followDesktop : Method ω σ Unit := do
  let desktop ← resolveDesktopState platform
  reconcileDesktopAuthority platform desktop
  noteDesktop platform desktop

def handleEvent (event : RegisteredLoopEvent) (dueSessions : List SessionId) :
    Method ω σ (Option AgentExit) :=
  match event with
  | .inbound (some (.message message)) => handleMessage platform message
  | .inbound (some .failed) => fail .frame
  | .inbound (some .disconnected) | .inbound none => do
    terminalCleanup platform
    return some .serviceDisconnected
  | .consent (some completion) => do
    handleConsentCompletion platform completion dueSessions
    return none
  | .consent none => fail (.consentStateUnavailable none)
  | .consentDeadline => do
    handleConsentDeadline platform
    return none
  | .desktopChanged true => do
    followDesktop platform
    return none
  | .desktopChanged false | .sourceClosed => failStop platform
  | .heartbeat => do
    handleHeartbeat platform
    return none
  | .capture => do
    pumpCaptureAccessUnits platform
    return none
  | .writerTerminal => fail .outboundUnavailable

/-- Whether the desktop is looked at before the event is handled. -/
def looksAtDesktop : RegisteredLoopEvent → Bool
  | .inbound _ | .heartbeat | .consent (some _) | .consentDeadline | .capture => true
  | .consent none | .desktopChanged _ | .writerTerminal | .sourceClosed => false

/-- Whether due authority is taken back before the event is handled. -/
def looksAtDeadlines : RegisteredLoopEvent → Bool
  | .writerTerminal | .sourceClosed => false
  | _ => true

/-- **One round of the loop.** -/
def iterate (event : RegisteredLoopEvent) : Method ω σ (Option AgentExit) := do
  let dueSessions ←
    (if looksAtDeadlines event then reconcileDueAuthority platform else pure [])
  when (looksAtDesktop event) (followDesktop platform)
  handleEvent platform event dueSessions

/-- What comes between registration and the first round. -/
def connect : Method ω σ Unit := do
  let baseline ← resolveDesktopState platform
  change fun runtime => { runtime with lastDesktopState := some baseline }
  sendCapabilities platform baseline

end AgentRuntime

/-! ### Runs -/

/-- Where a run is. -/
inductive LoopPhase
  | connecting
  | running
  | ended (result : Except AgentRuntimeError AgentExit)
  | finished

structure LoopState (ω σ : Type) where
  runtime : AgentRuntime ω σ
  phase : LoopPhase

inductive LoopLabel
  | connect
  | round (event : RegisteredLoopEvent)
  | cleanup

namespace LoopState

variable {ω σ : Type} (platform : Platform ω σ)

/-- The agent after registration. -/
def start (world : ω) (attended : Bool) (device : Option σ) : LoopState ω σ where
  runtime := .new world attended device
  phase := .connecting

/-- The loop goes on after a round without an answer. -/
def next (outcome : AgentRuntime ω σ × Except AgentRuntimeError (Option AgentExit)) :
    LoopState ω σ where
  runtime := outcome.1
  phase :=
    match outcome.2 with
    | .ok none => .running
    | .ok (some exit) => .ended (.ok exit)
    | .error error => .ended (.error error)

/-- **The runs of the agent.** -/
def step (state : LoopState ω σ) (label : LoopLabel) : Option (LoopState ω σ) :=
  match state.phase, label with
  | .connecting, .connect =>
    let connected := AgentRuntime.connect platform state.runtime
    some (next (connected.1, connected.2.map fun _ => none))
  | .running, .round event => some (next (AgentRuntime.iterate platform event state.runtime))
  | .ended _, .cleanup =>
    some { runtime := (AgentRuntime.terminalCleanup platform state.runtime).1, phase := .finished }
  | _, _ => none

end LoopState

/-! ### A sample world -/

/-- Buttons in the order of their declaration, keys by their code. -/
def ReleaseOrder.sample : ReleaseOrder where
  buttons state := [AgentInputButton.left, .right, .middle, .x1, .x2].filter (· ∈ state.pressed.buttons)
  keys state :=
    (state.pressed.keys.map ⟨AgentInputKey.code, fun ⟨_⟩ ⟨_⟩ => congrArg _⟩).sort.map .virtualKey
  resources map := map.entries.map Sigma.snd
  mem_buttons _ button := by cases button <;> simp
  mem_keys _ key := by
    obtain ⟨code⟩ := key
    rw [List.mem_map]
    constructor
    · rintro ⟨_, listed, ⟨⟩⟩
      obtain ⟨⟨_⟩, among, rfl⟩ := Finset.mem_map.mp ((Finset.mem_sort _).mp listed)
      exact among
    · exact fun among => ⟨code, (Finset.mem_sort _).mpr (Finset.mem_map.mpr ⟨_, among, rfl⟩), rfl⟩
  resources_perm _ := .refl _

/-- **A sample world**: the device, the queue and the executor do what they are told, every signature
is good, and the desktop stays. The world counts down the looks at the desktop; the clocks show `early`
until it is at the end, and `late` from then on. -/
def Platform.sample (early late : Nat) : Platform Nat Unit where
  identity :=
    { registrationId := .replicate 16 1, registrationEpoch := 1, windowsSessionId := 1 }
  expectedIssuerKeyId := .replicate 32 1
  configuredDesktopEpoch := 1
  digests :=
    { verify := fun _ => true
      commandDigest := fun _ _ => .replicate 32 1
      eventCommitment := fun _ _ _ _ _ _ => .replicate 32 1 }
  device :=
    { inject := fun _ _ => ((), .ok ())
      resetIdleState := id
      isAvailable := fun _ => true }
  order := .sample
  invalidationOrder := id
  invalidationOrder_perm := .refl
  nowMs left := (if left = 0 then late else early, left)
  instants left := (fun _ => if left = 0 then late else early, left)
  currentState left := (some { desktopEpoch := 1, desktopKind := .default }, left - 1)
  enqueue _ left := (true, left)
  consentAvailable left := (true, left)
  capabilities left := ({.capture, .render}, left)
  execute _ left := (.completed, left)
  revokeSession _ left := (true, left)
  captureAccessUnits left := (some [], left)
  renderAccessUnit _ left := (true, left)
  renderMetrics left := ([], left)
  flushStopping left := (.ok .stoppedByService, left)

/-- A request for every scope there is, made at time 1. -/
def ConsentRequest.sample (number : UInt8) : ConsentRequest where
  requestToken := 1
  requestId := .replicate 16 number
  sessionId := ⟨"s"⟩
  peer := { deviceId := ⟨"d"⟩, keyId := .replicate 32 1 }
  requestedScopes := {.screenView, .inputPointer, .inputKeyboard}
  policyRevision := 1
  windowsSessionId := 1
  issuedAtMs := 1
  expiresAtMs := 100
  authorizationExpiresAtMs := 200

/-- A grant for a command under such a request. -/
def ExecuteCommand.sample (number : UInt8) (command : AgentCommand) : ExecuteCommand where
  requestToken := 1
  commandId := .replicate 16 number
  command := command
  grant :=
    { claims :=
        { grantId := .replicate 32 number
          registrationId := .replicate 16 1
          registrationEpoch := 1
          sessionId := ⟨"s"⟩
          peer := { deviceId := ⟨"d"⟩, keyId := .replicate 32 1 }
          scopes := command.requiredScopes
          policyRevision := 1
          windowsSessionId := 1
          desktopEpoch := 1
          desktopKind := .default
          issuedAtMs := 1
          notBeforeMs := 1
          expiresAtMs := 150
          commandDigest := .replicate 32 1
          audience := .sessionAgent }
      issuerKeyId := .replicate 32 1
      signature := .replicate 64 1 }

/-- A round for a message. -/
def LoopLabel.hears (message : ServiceToAgent) : LoopLabel :=
  .round (.inbound (some (.message message)))

/-- A round for an approval. -/
def LoopLabel.approves (attemptId : Nat) (scopes : PermissionScopes) : LoopLabel :=
  .round (.consent (some { attemptId, outcome := .decision (.approved scopes) }))

end MiniRemoteDesktop.Agent
