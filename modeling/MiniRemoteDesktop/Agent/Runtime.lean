/-
**The event loop of the session agent** (`mrd-session-agent`, `runtime.rs`).

After registration the agent handles one event at a time: a message of the service, a consent surface
that closed, a deadline, a desktop change, a tick. Before most of them it takes back the authority
whose time is over or whose desktop is gone.

* `AgentState` — the fields of the runtime. `AgentRuntime` adds two records, newest first, that
  nothing reads: the messages that were `sent`, each with the attempt that it answers, and the `log`
  of what was done, each entry with the state it was done in.
* `iterate` — one round of the loop; `LoopState.step` — the runs of the agent.
-/

import MiniRemoteDesktop.Agent.Input
import MiniRemoteDesktop.Agent.Prompts
import MiniRemoteDesktop.Lib.Execution

namespace MiniRemoteDesktop.Agent

open Procedure
open InputResourceManager

/-! ### Errors and events -/

/-- `AgentRuntimeError`, for the errors of the loop. The source drops the `cause` of an unavailable
consent state. -/
inductive AgentRuntimeError
  | frame
  | eventSequenceExhausted
  | unsupportedMessage
  | invalidStopRequest
  | replayConflict
  | replayCapacityExceeded
  | desktopStateUnavailable
  | consentStateUnavailable (cause : Option ConsentRegistryError)
  | inputCleanupFailed
  | mediaCleanupFailed
  | mediaCaptureFailed
  | invalidRenderAccessUnit
  | invalidRenderMetrics
  | outboundUnavailable
  deriving DecidableEq

inductive AgentExit
  | stoppedByService
  | serviceDisconnected

inductive ServiceToAgent
  | agentChallenge
  | consentRequest (request : ConsentRequest)
  | cancelConsent (cancel : CancelConsent)
  | execute (execute : ExecuteCommand)
  | inputEvent (envelope : InputEventEnvelope)
  | renderAccessUnit (unit : RenderAccessUnit)
  | stopAgent (stop : StopAgent)

inductive InboundEvent
  | message (message : ServiceToAgent)
  | failed
  | disconnected

/-- `RegisteredLoopEvent`. `desktopChanged` says whether the source is still there; `sourceClosed` is
the look at the desktop source at the top of the loop. -/
inductive RegisteredLoopEvent
  | inbound (event : Option InboundEvent)
  | consent (completion : Option BackendCompletion)
  | consentDeadline
  | desktopChanged (alive : Bool)
  | writerTerminal
  | heartbeat
  | capture
  | sourceClosed

/-! ### The replay ledger -/

def replayLedgerCapacity : Nat := 4096

/-- `SemanticFingerprint`: what a command is authorized for. -/
structure SemanticFingerprint where
  commandDigest : Digest
  sessionId : SessionId
  peer : PeerBinding
  (policyRevision windowsSessionId desktopEpoch : Nat)
  desktopKind : DesktopKind
  deriving DecidableEq

def SemanticFingerprint.fromAuthorized (authorized : AuthorizedCommand) : SemanticFingerprint where
  commandDigest := authorized.grant.claims.commandDigest
  sessionId := authorized.grant.claims.sessionId
  peer := authorized.grant.claims.peer
  policyRevision := authorized.grant.claims.policyRevision
  windowsSessionId := authorized.grant.claims.windowsSessionId
  desktopEpoch := authorized.grant.claims.desktopEpoch
  desktopKind := authorized.grant.claims.desktopKind

structure GrantReplayRecord where
  commandId : Id
  fingerprint : SemanticFingerprint

structure CommandReplayRecord where
  fingerprint : SemanticFingerprint
  outcome : Option CommandOutcome

inductive ReplayReservation
  | first
  | cached (outcome : CommandOutcome)

structure ReplayLedger where
  grants : AList fun _ : Digest => GrantReplayRecord
  commands : AList fun _ : Id => CommandReplayRecord

namespace ReplayLedger

def empty : ReplayLedger := ⟨∅, ∅⟩

def cachedCommand (ledger : ReplayLedger) (commandId : Id) (fingerprint : SemanticFingerprint) :
    Except AgentRuntimeError ReplayReservation :=
  match ledger.commands.lookup commandId with
  | none => .error .replayConflict
  | some command =>
    if command.fingerprint ≠ fingerprint then .error .replayConflict
    else command.outcome.elim (.error .replayConflict) fun outcome => .ok (.cached outcome)

/-- `reserve`: the ledger it leaves, and what the command is. -/
def reserve (ledger : ReplayLedger) (grantId : Digest) (commandId : Id)
    (fingerprint : SemanticFingerprint) :
    ReplayLedger × Except AgentRuntimeError ReplayReservation :=
  match ledger.grants.lookup grantId, ledger.commands.lookup commandId with
  | some grant, _ =>
    if grant.commandId ≠ commandId ∨ grant.fingerprint ≠ fingerprint then
      (ledger, .error .replayConflict)
    else (ledger, ledger.cachedCommand commandId fingerprint)
  | none, some command =>
    if command.fingerprint ≠ fingerprint then (ledger, .error .replayConflict)
    else if replayLedgerCapacity ≤ ledger.grants.entries.length then
      (ledger, .error .replayCapacityExceeded)
    else
      match command.outcome with
      | none => (ledger, .error .replayConflict)
      | some outcome =>
        ({ ledger with grants := ledger.grants.insert grantId { commandId, fingerprint } },
          .ok (.cached outcome))
  | none, none =>
    if replayLedgerCapacity ≤ ledger.grants.entries.length ∨
        replayLedgerCapacity ≤ ledger.commands.entries.length then
      (ledger, .error .replayCapacityExceeded)
    else
      ({ grants := ledger.grants.insert grantId { commandId, fingerprint }
         commands := ledger.commands.insert commandId { fingerprint, outcome := none } }, .ok .first)

def complete (ledger : ReplayLedger) (commandId : Id) (outcome : CommandOutcome) : ReplayLedger :=
  match ledger.commands.lookup commandId with
  | none => ledger
  | some command =>
    { ledger with
      commands := ledger.commands.insert commandId { command with outcome := some outcome } }

end ReplayLedger

/-! ### The agent and what is around it -/

def maxCleanupReceipts : Nat := 256

/-- `CLEANUP_RECEIPT_RETENTION`, in milliseconds. -/
def cleanupReceiptRetention : Nat := 5 * 60 * 1000

structure CleanupReceipt where
  binding : TrustedSessionBinding
  capability : AgentCapability
  grantWindow : Nat × Nat × Nat
  retainedUntil : Nat
  retired : Bool

/-- **The surroundings of the agent.** Every question may change the world, and any answer is
possible; `instants` are the readings of the monotonic clock during one call. -/
structure Platform (ω σ : Type) where
  identity : RegisteredAgentIdentity
  expectedIssuerKeyId : Digest
  configuredDesktopEpoch : Nat
  digests : Digests
  device : PlatformInjector σ
  order : ReleaseOrder
  invalidationOrder : List AuthorityInvalidation → List AuthorityInvalidation
  invalidationOrder_perm : ∀ list, (invalidationOrder list).Perm list
  nowMs : ω → Nat × ω
  instants : ω → (Nat → Nat) × ω
  currentState : ω → Option TrustedDesktopState × ω
  enqueue : AgentToService → ω → Bool × ω
  consentAvailable : ω → Bool × ω
  capabilities : ω → Finset AgentCapability × ω
  execute : AuthorizedCommand → ω → CommandOutcome × ω
  revokeSession : SessionId → ω → Bool × ω
  captureAccessUnits : ω → Option (List EncodedMediaAccessUnit) × ω
  renderAccessUnit : RenderAccessUnit → ω → Bool × ω
  renderMetrics : ω → List RenderAdapterMetrics × ω
  /-- How the last frame went out, and what arrived meanwhile. -/
  flushStopping : ω → Except AgentRuntimeError AgentExit × ω

/-- A message that was sent, and the attempt it answers. -/
structure Sent where
  message : AgentToService
  answers : Option Nat

/-- The fields of the runtime. -/
structure AgentState (ω σ : Type) where
  world : ω
  authority : Option ConsentManager
  input : Option (InputResourceManager σ)
  lastDesktopState : Option TrustedDesktopState
  replay : ReplayLedger
  cleanupReceipts : AList fun _ : Id => CleanupReceipt
  startedResourceIds : Finset Id
  (eventSequence capabilityRevision : Nat)
  cleanupComplete : Bool

/-- What a handler read when it began to check a message. -/
structure Moment where
  nowMs : Nat
  desktop : TrustedDesktopState

/-- A command that passed: the binding it runs under, and whether its resource is already gone. -/
structure Authorization where
  command : AuthorizedCommand
  binding : TrustedSessionBinding
  retired : Bool
  moment : Moment

/-- **What the agent did**: an event was handed to the device, for a message or to clean up; a backend
was called for a command; a captured frame was sent; a completion gave a session a new authority; the
authority of a session was taken back. -/
inductive Act
  | handed (event : Input.InputEvent) (cause : Option (InputEventEnvelope × Moment))
  | called (authorization : Authorization)
  | emitted (message : MediaAccessUnit) (moment : Moment)
  | approved (completion : BackendCompletion) (change : FreshAuthorityChange)
  | revoked (invalidation : AuthorityInvalidation)

/-- What was done, and the runtime in which it was done. -/
structure Deed (ω σ : Type) where
  act : Act
  state : AgentState ω σ

structure AgentRuntime (ω σ : Type) extends AgentState ω σ where
  sent : List Sent
  log : List (Deed ω σ)

namespace AgentState

variable {ω σ : Type}

/-- Whether a prompt is on screen. -/
def promptActive (state : AgentState ω σ) : Bool := state.authority.any ConsentManager.hasActivePrompt

end AgentState

namespace AgentRuntime

variable {ω σ : Type}

/-- A method of the runtime. -/
abbrev Method (ω σ α : Type) := Procedure (AgentRuntime ω σ) AgentRuntimeError α

/-- The runtime at registration: `attended` says whether it has a consent manager, and `device` is the
state of the input device, if there is one. -/
def new (world : ω) (attended : Bool) (device : Option σ) : AgentRuntime ω σ where
  world := world
  authority := if attended then some .new else none
  input := device.map .new
  lastDesktopState := none
  replay := .empty
  cleanupReceipts := ∅
  startedResourceIds := ∅
  eventSequence := 0
  capabilityRevision := 1
  cleanupComplete := false
  sent := []
  log := []

/-- Ask the world. -/
def ask {α : Type} (question : ω → α × ω) : Method ω σ α := fun runtime =>
  let answered := question runtime.world
  ({ runtime with world := answered.2 }, .ok answered.1)

/-- Write down what is done. -/
def note (act : Act) : Method ω σ Unit :=
  change fun runtime => { runtime with log := ⟨act, runtime.toAgentState⟩ :: runtime.log }

/-- Call a method of the consent manager. -/
def onManager {α : Type} (method : ConsentManager.Method α) : Method ω σ α := fun runtime =>
  match runtime.authority with
  | none => (runtime, .error (.consentStateUnavailable none))
  | some manager =>
    let answered := method manager
    ({ runtime with authority := some answered.1 },
      answered.2.mapError fun error => .consentStateUnavailable (some error))

/-- Call the input backend, if there is one, and write down what it hands to the device. -/
def onInput {α : Type} (cause : Option (InputEventEnvelope × Moment))
    (call : InputResourceManager σ → InputResourceManager σ × α) : Method ω σ (Option α) :=
  fun runtime =>
    match runtime.input with
    | none => (runtime, .ok none)
    | some input =>
      let answered := call { input with injector := { input.injector with sent := [] } }
      ({ runtime with
         input := some answered.1
         log := answered.1.injector.sent.map (fun event =>
           ⟨.handed event cause, runtime.toAgentState⟩) ++ runtime.log }, .ok (some answered.2))

variable (platform : Platform ω σ)

/-! ### Readings and messages -/

def readClock : Method ω σ Nat := ask platform.nowMs

/-- One reading of the monotonic clock. -/
def readInstant : Method ω σ Nat := do return (← ask platform.instants) 0

/-- `outbound.enqueue`, with the attempt that the message answers. -/
def enqueue (message : AgentToService) (answers : Option Nat) : Method ω σ Unit := do
  if ← ask (platform.enqueue message) then
    change fun runtime => { runtime with sent := ⟨message, answers⟩ :: runtime.sent }
  else fail .outboundUnavailable

/-- Send results in order. -/
def sendAnswers : List Answer → Method ω σ Unit
  | [] => return ()
  | answer :: rest => do
    enqueue platform (.consentResult answer.result) (some answer.attemptId)
    sendAnswers rest

/-- Send a result that answers no admitted request. -/
def sendResult (result : ConsentResult) : Method ω σ Unit :=
  enqueue platform (.consentResult result) none

/-- `resolve_desktop_state` and `current_desktop_state`. -/
def resolveDesktopState : Method ω σ TrustedDesktopState := do
  if (← read).authority.isSome then
    match ← ask platform.currentState with
    | none => fail .desktopStateUnavailable
    | some desktop =>
      refuse (desktop.desktopEpoch = 0) .desktopStateUnavailable
      return desktop
  else return { desktopEpoch := platform.configuredDesktopEpoch, desktopKind := .default }

def trustedConsentContext : Method ω σ TrustedConsentContext := do
  let runtime ← read
  refuse runtime.authority.isNone (.consentStateUnavailable none)
  let desktop ← resolveDesktopState platform
  let nowMs ← readClock platform
  return {
    registrationId := platform.identity.registrationId
    registrationEpoch := platform.identity.registrationEpoch
    windowsSessionId := platform.identity.windowsSessionId
    desktopEpoch := desktop.desktopEpoch
    desktopKind := desktop.desktopKind
    expectedIssuerKeyId := platform.expectedIssuerKeyId
    nowMs }

def nextEventContext (desktop : TrustedDesktopState) : Method ω σ AgentEventContext := do
  match (checkedAdd (← read).eventSequence 1).filter (· ≠ u64Max) with
  | none => fail .eventSequenceExhausted
  | some sequence =>
    change fun runtime => { runtime with eventSequence := sequence }
    let observedAtMs ← readClock platform
    return {
      registrationId := platform.identity.registrationId
      registrationEpoch := platform.identity.registrationEpoch
      windowsSessionId := platform.identity.windowsSessionId
      desktopEpoch := desktop.desktopEpoch
      sequence
      observedAtMs }

def genericExecutorCapabilities : Method ω σ (Finset AgentCapability) := do
  if (← read).authority.isNone then return ∅
  else
    let capabilities ← ask platform.capabilities
    return (capabilities.erase .input).erase .consent

def sendCapabilities (desktop : TrustedDesktopState) : Method ω σ Unit := do
  let runtime ← read
  let generic ←
    (if desktop.desktopKind = .default then genericExecutorCapabilities platform else pure ∅)
  let input :=
    if runtime.authority.isSome ∧ desktop.desktopKind = .default ∧
        runtime.input.any fun input => platform.device.isAvailable input.injector.inner then
      {AgentCapability.input}
    else ∅
  let available ← (if runtime.authority.isSome then ask platform.consentAvailable else pure false)
  let consent :=
    if available ∧ desktop.desktopKind = .default then {AgentCapability.consent} else ∅
  let observedAtMs ← readClock platform
  enqueue platform (.agentCapabilitySnapshot
    { registrationId := platform.identity.registrationId
      windowsSessionId := platform.identity.windowsSessionId
      revision := runtime.capabilityRevision
      desktopEpoch := desktop.desktopEpoch
      observedAtMs
      capabilities := generic ∪ input ∪ consent }) none

/-- A desktop that was not the last one is announced with the next revision. -/
def noteDesktop (desktop : TrustedDesktopState) : Method ω σ Unit := do
  let runtime ← read
  if runtime.lastDesktopState ≠ some desktop then
    change fun runtime => { runtime with lastDesktopState := some desktop }
    match checkedAdd runtime.capabilityRevision 1 with
    | none => fail .eventSequenceExhausted
    | some revision =>
      change fun runtime => { runtime with capabilityRevision := revision }
      sendCapabilities platform desktop

/-! ### Taking authority back -/

/-- Mark the receipts that meet a condition as retired. -/
def retireReceipts (condition : CleanupReceipt → Bool) : Method ω σ Unit :=
  change fun runtime =>
    { runtime with
      cleanupReceipts := runtime.cleanupReceipts.entries.foldl (fun receipts entry =>
        if condition entry.2 then receipts.insert entry.1 { entry.2 with retired := true }
        else receipts) runtime.cleanupReceipts }

def releaseInput : Method ω σ Unit := do
  match ← onInput none (releaseAll platform.device platform.order) with
  | some (.error _) => fail .inputCleanupFailed
  | _ => retireReceipts fun receipt => receipt.capability == .input

/-- Whether the executor, if there is one, keeps a resource of a revoked session. -/
def revocationFailed (sessionId : SessionId) : Method ω σ Bool := do
  if (← read).authority.isSome then
    let revoked ← ask (platform.revokeSession sessionId)
    return !revoked
  else return false

/-- One round of `release_authority_invalidations`; the flags say whether anything failed so far. -/
def releaseInvalidation (invalidation : AuthorityInvalidation) (failed : Bool × Bool) :
    Method ω σ (Bool × Bool) := do
  note (.revoked invalidation)
  let released ← onInput none (releaseSession platform.device platform.order invalidation.sessionId)
  let inputFailed := released.any fun answer => !answer.isOk
  let mediaFailed ← revocationFailed platform invalidation.sessionId
  when (!inputFailed && !mediaFailed) (retireReceipts fun receipt =>
      receipt.binding.sessionId == invalidation.sessionId &&
        receipt.binding.authorityGeneration == invalidation.authorityGeneration &&
        receipt.binding.consentRequestId == invalidation.consentRequestId)
  return (failed.1 || inputFailed, failed.2 || mediaFailed)

def releaseAuthorityInvalidations (invalidations : List AuthorityInvalidation) : Method ω σ Unit := do
  let failed ← forEach (releaseInvalidation platform)
    (platform.invalidationOrder invalidations) (false, false)
  refuse failed.1 .inputCleanupFailed
  refuse failed.2 .mediaCleanupFailed

/-- The authority whose time is over, by one of the two clocks. -/
def dueInvalidations (nowMs : Nat) : Method ω σ (List AuthorityInvalidation) := do
  if (← read).authority.isSome then
    let now ← readInstant platform
    onManager (ConsentManager.onRegistry (ConsentAuthorityState.takeDue now nowMs))
  else return []

/-- `reconcile_due_authority`: the sessions that lost their authority. -/
def reconcileDueAuthority : Method ω σ (List SessionId) := do
  let nowMs ← readClock platform
  let invalidations ← dueInvalidations platform nowMs
  releaseAuthorityInvalidations platform invalidations
  return invalidations.map (·.sessionId)

/-- The prompts and the authority of another desktop are withdrawn. -/
def withdrawForeign (desktop : TrustedDesktopState) :
    Method ω σ (List Answer × List AuthorityInvalidation) := do
  if (← read).authority.isSome then
    let nowMs ← readClock platform
    let now ← readInstant platform
    let results ← onManager (ConsentManager.invalidateDesktopPrompts now desktop nowMs)
    let invalidations ←
      onManager (ConsentManager.onRegistry (ConsentAuthorityState.takeDesktopMismatch desktop))
    return (results, invalidations)
  else return ([], [])

def reconcileDesktopAuthority (desktop : TrustedDesktopState) : Method ω σ Unit := do
  let runtime ← read
  let desktopChanged := runtime.lastDesktopState.any (· ≠ desktop)
  let hadActivePrompt := runtime.promptActive
  let withdrawn ← withdrawForeign platform desktop
  releaseAuthorityInvalidations platform withdrawn.2
  when ((desktopChanged && hadActivePrompt) || !withdrawn.1.isEmpty) (releaseInput platform)
  sendAnswers platform withdrawn.1

/-! ### Commands -/

def bindingMatchesRegistration (binding : TrustedSessionBinding) : Bool :=
  binding.registrationId == platform.identity.registrationId &&
    binding.registrationEpoch == platform.identity.registrationEpoch &&
    binding.windowsSessionId == platform.identity.windowsSessionId

def bindingMatchesRuntime (binding : TrustedSessionBinding) (desktop : TrustedDesktopState) : Bool :=
  bindingMatchesRegistration platform binding && binding.desktopEpoch == desktop.desktopEpoch &&
    binding.desktopKind == desktop.desktopKind && binding.desktopKind == .default

def executionContext (binding : TrustedSessionBinding) (desktop : TrustedDesktopState)
    (nowMs : Nat) : ExecutionContext where
  registrationId := binding.registrationId
  registrationEpoch := binding.registrationEpoch
  sessionId := binding.sessionId
  peer := binding.peer
  policyRevision := binding.policyRevision
  windowsSessionId := binding.windowsSessionId
  desktopEpoch := desktop.desktopEpoch
  desktopKind := desktop.desktopKind
  nowMs := nowMs
  expectedIssuerKeyId := binding.expectedIssuerKeyId
  authorizationScopes := binding.approvedScopes
  authorizationExpiresAtMs := binding.authorizationExpiresAtMs

def commandOutcome : InputAckOutcome → CommandOutcome
  | .applied => .completed
  | .rejected _ => .rejected
  | .failed _ => .failed

/-- The generic executor, for the commands it has the capability for. -/
def executeGeneric (capabilities : Finset AgentCapability) (authorization : Authorization) :
    Method ω σ CommandOutcome := do
  let runtime ← read
  if authorization.command.command.requiredCapability ∈ capabilities ∧ runtime.authority.isSome then
    note (.called authorization)
    ask (platform.execute authorization.command)
  else return .rejected

/-- Call the input backend for a command. -/
def callInput {α : Type} (authorization : Authorization)
    (call : InputResourceManager σ → InputResourceManager σ × α) : Method ω σ (Option α) := do
  let runtime ← read
  when runtime.input.isSome (note (.called authorization))
  onInput none call

/-- The command itself. -/
def dispatch (capabilities : Finset AgentCapability) (authorization : Authorization) :
    Method ω σ CommandOutcome := do
  match authorization.command.command with
  | .startInput .. =>
    match ← callInput authorization (start platform.device authorization.command) with
    | some (.ok ()) => return .completed
    | _ => return .rejected
  | .stopInput id =>
    match ← callInput authorization (stop platform.device platform.order id) with
    | some outcome => return commandOutcome outcome
    | none => return .rejected
  | _ => executeGeneric platform capabilities authorization

/-- Whether a first command is refused before it reaches a backend. -/
def refuses (runtime : AgentRuntime ω σ) (command : AgentCommand) (startInputBlocked : Bool) : Bool :=
  (!command.isCleanup && (maxCleanupReceipts ≤ runtime.cleanupReceipts.entries.length ||
        replayLedgerCapacity ≤ runtime.startedResourceIds.card ||
        command.resourceId ∈ runtime.startedResourceIds)) ||
    (startInputBlocked && command.isStartInput)

/-- What a command that was not seen before does. -/
def perform (authorization : Authorization) (startInputBlocked : Bool) :
    Method ω σ CommandOutcome := do
  let command := authorization.command.command
  if command.isCleanup ∧ authorization.retired then return .alreadyStopped
  else
    let capabilities ← genericExecutorCapabilities platform
    let runtime ← read
    if runtime.refuses command startInputBlocked then return .rejected
    else dispatch platform capabilities authorization

/-- The receipt of a resource that was started: a stop is bounded by the scopes and the lifetime of
this very start. -/
def receiptFor (authorized : AuthorizedCommand) (binding : TrustedSessionBinding) : CleanupReceipt where
  binding := { binding with
    approvedScopes := authorized.grant.claims.scopes
    authorizationExpiresAtMs := authorized.grant.claims.expiresAtMs }
  capability := authorized.command.requiredCapability
  grantWindow := (authorized.grant.claims.issuedAtMs, authorized.grant.claims.notBeforeMs,
    authorized.grant.claims.expiresAtMs)
  retainedUntil := binding.authorizationDeadline + cleanupReceiptRetention
  retired := false

/-- A start that worked leaves a receipt, and a stop that worked retires it. -/
def recordOutcome (runtime : AgentRuntime ω σ) (authorized : AuthorizedCommand)
    (binding : TrustedSessionBinding) (outcome : CommandOutcome) : AgentRuntime ω σ :=
  let command := authorized.command
  if !command.isCleanup ∧ outcome = .completed then
    { runtime with
      startedResourceIds := insert command.resourceId runtime.startedResourceIds
      cleanupReceipts :=
        runtime.cleanupReceipts.insert command.resourceId (receiptFor authorized binding) }
  else if command.isCleanup ∧ (outcome = .completed ∨ outcome = .alreadyStopped) then
    match runtime.cleanupReceipts.lookup command.resourceId with
    | none => runtime
    | some receipt =>
      { runtime with
        cleanupReceipts :=
          runtime.cleanupReceipts.insert command.resourceId { receipt with retired := true } }
  else runtime

def executeOnce (authorization : Authorization) (startInputBlocked : Bool) :
    Method ω σ CommandOutcome := do
  let runtime ← read
  let command := authorization.command
  let reserved := runtime.replay.reserve command.grant.claims.grantId command.commandId
    (.fromAuthorized command)
  change fun runtime => { runtime with replay := reserved.1 }
  match reserved.2 with
  | .error error => fail error
  | .ok (.cached outcome) => return outcome
  | .ok .first =>
    let outcome ← perform platform authorization startInputBlocked
    change fun runtime => runtime.recordOutcome command authorization.binding outcome
    change fun runtime =>
      { runtime with replay := runtime.replay.complete command.commandId outcome }
    return outcome

def pruneCleanupReceipts (now : Nat) : Method ω σ Unit :=
  change fun runtime =>
    let stale := runtime.cleanupReceipts.entries.filter fun entry =>
      entry.2.retired && entry.2.retainedUntil ≤ now
    { runtime with
      cleanupReceipts := Table.eraseAll runtime.cleanupReceipts (stale.map Sigma.fst) }

def resolveBinding (sessionId : SessionId) (nowMs : Nat) :
    Method ω σ (Option TrustedSessionBinding) := do
  let now ← readInstant platform
  match (← read).authority with
  | none => fail (.consentStateUnavailable none)
  | some manager => return manager.registry.resolve sessionId nowMs now

/-- The binding that a cleanup command may use, and whether its resource is already gone. -/
def receiptBinding (runtime : AgentRuntime ω σ) (execute : ExecuteCommand)
    (desktop : TrustedDesktopState) : Option (TrustedSessionBinding × Bool) :=
  let claims := execute.grant.claims
  ((runtime.cleanupReceipts.lookup execute.command.resourceId).filter fun receipt =>
    receipt.capability == execute.command.requiredCapability &&
      receipt.grantWindow == (claims.issuedAtMs, claims.notBeforeMs, claims.expiresAtMs) &&
      bindingMatchesRegistration platform receipt.binding &&
      (receipt.retired || bindingMatchesRuntime platform receipt.binding desktop)).map
    fun receipt => (receipt.binding, receipt.retired)

/-- The binding that a command may use: a cleanup uses the one its resource was started with. -/
def commandBinding (execute : ExecuteCommand) (nowMs : Nat) (desktop : TrustedDesktopState) :
    Method ω σ (Option (TrustedSessionBinding × Bool)) := do
  if execute.command.isCleanup then
    let runtime ← read
    return receiptBinding platform runtime execute desktop
  else
    let binding ← resolveBinding platform execute.grant.claims.sessionId nowMs
    return binding.map (·, false)

/-- The authorization of a command. -/
def authorize (execute : ExecuteCommand) (moment : Moment) : Method ω σ (Option Authorization) := do
  let found ← commandBinding platform execute moment.nowMs moment.desktop
  match found with
  | none => return none
  | some (binding, retired) =>
    if retired || bindingMatchesRuntime platform binding moment.desktop then
      let bound := TrustedDesktopState.mk binding.desktopEpoch binding.desktopKind
      match validateExecuteCommand platform.digests execute
          (executionContext binding bound moment.nowMs) with
      | .ok command => return some { command, binding, retired, moment }
      | .error _ => return none
    else return none

/-- The outcome of an execute message. -/
def executeOutcome (execute : ExecuteCommand) (nowMs : Nat) : Method ω σ CommandOutcome := do
  if (← read).authority.isSome then
    let desktop ← resolveDesktopState platform
    reconcileDesktopAuthority platform desktop
    let now ← readInstant platform
    pruneCleanupReceipts now
    let runtime ← read
    let startInputBlocked := runtime.promptActive && execute.command.isStartInput
    match ← authorize platform execute { nowMs, desktop } with
    | some authorization => executeOnce platform authorization startInputBlocked
    | none => return .rejected
  else return .rejected

def handleExecute (execute : ExecuteCommand) : Method ω σ Unit := do
  let nowMs ← readClock platform
  let outcome ← executeOutcome platform execute nowMs
  let completedAtMs ← readClock platform
  enqueue platform (.commandResult
    { requestToken := execute.requestToken
      registrationId := platform.identity.registrationId
      commandId := execute.commandId
      outcome
      completedAtMs }) none

/-! ### Input events -/

/-- The event, once its session has authority on this desktop. -/
def injectEvent (envelope : InputEventEnvelope) (binding : TrustedSessionBinding)
    (desktop : TrustedDesktopState) : Method ω σ InputAckOutcome := do
  let nowMs ← readClock platform
  let context := executionContext binding desktop nowMs
  match ← onInput (some (envelope, { nowMs, desktop })) (handle platform.device
      platform.order platform.digests envelope context) with
  | none => fail .inputCleanupFailed
  | some outcome =>
    if outcome = .rejected .staleDesktop then
      match ← onInput none (releaseAll platform.device platform.order) with
      | some (.error _) => fail .inputCleanupFailed
      | _ => return outcome
    else return outcome

/-- The outcome of an input event: nothing reaches the device while a prompt is on screen. -/
def inputOutcome (envelope : InputEventEnvelope) (nowMs : Nat) : Method ω σ InputAckOutcome := do
  let runtime ← read
  if runtime.input.isSome ∧ runtime.authority.isSome then
    let desktop ← resolveDesktopState platform
    reconcileDesktopAuthority platform desktop
    if (← read).promptActive then return .rejected .grant
    else
      match ← resolveBinding platform envelope.sessionId nowMs with
      | none => return .rejected .grant
      | some binding =>
        if bindingMatchesRuntime platform binding desktop then
          injectEvent platform envelope binding desktop
        else return .rejected .grant
  else return .rejected .unsupported

def handleInput (envelope : InputEventEnvelope) : Method ω σ Unit := do
  let nowMs ← readClock platform
  let outcome ← inputOutcome platform envelope nowMs
  let eventCommitment :=
    match envelope.commitment platform.digests with
    | .ok commitment => commitment
    | .error _ => Vector.replicate 32 0
  enqueue platform (.inputAck
    { requestToken := envelope.requestToken
      registrationId := platform.identity.registrationId
      registrationEpoch := platform.identity.registrationEpoch
      sessionId := envelope.sessionId
      resourceId := envelope.resourceId
      startGrantId := envelope.startGrantId
      sequence := envelope.sequence
      eventCommitment
      outcome }) none

end AgentRuntime

end MiniRemoteDesktop.Agent
