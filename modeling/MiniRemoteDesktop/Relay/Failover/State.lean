/-
**The state of a relayed session** (`mrd-service`, `relay/migration.rs`).

A coordinator keeps one `RelaySessionState` per session behind a lock. The definitions of this
module are the locked sections of the source, each a function of that state, and the decisions an
attempt takes between two of them:

* `planRecover`, `planOffer` — choose the route from a refreshed directory;
* `enterInFlight`, `clearPhase`, `commit`, `terminalize` — the later sections.

What the transport and the peer connection do is left to the environment, so an attempt carries the
route evidence and not the TURN configuration built from it.
-/

import MiniRemoteDesktop.Relay.Access

namespace MiniRemoteDesktop.Relay

/-! ### Outcomes and phases -/

inductive RelayConnectionHealth
  | connected
  | disconnected
  | failed
  deriving DecidableEq

inductive RelayTerminalSecurityReason
  | grantExpired
  | policyChanged
  | relayRevoked
  | signatureInvalid
  | identityMismatch
  | routeEvidenceMismatch
  | inputSafetyFailure
  deriving DecidableEq

inductive RelayMigrationFailureCode
  | backendUnavailable
  | signalingUnavailable
  | transportUnavailable
  | noDifferentFailureDomain
  | inputSafetyFailure
  | securityViolation

structure RelayMigrationFailure where
  code : RelayMigrationFailureCode
  terminalSecurity : Bool

inductive RelayMigrationPhase
  | idle
  | planning (generation : Nat)
  | inFlight (generation : Nat)
  | terminal
  deriving DecidableEq

inductive RelayRecoveryOutcome
  | healthy
  | grace (retryAtMs : Nat)
  | inProgress (generation : Nat)
  | suppressedStaleHealth (observedGeneration activeGeneration : Nat)
  | migrated (evidence : RelayRouteEvidence)
  | retryable (code : RelayMigrationFailureCode)
  | suppressedLate (generation : Nat)
  | terminal (reason : RelayTerminalSecurityReason)

inductive RelayFailoverConfigError
  | invalidGrace
  | contextMismatch
  | activeNodeMissing
  | muxMismatch
  | activeRelayEvidenceMismatch
  | accessExpired
  | duplicateSession
  | sessionMissing
  | generationExhausted
  | terminalCleanupFailed

/-- What a call returns. -/
abbrev RecoveryResult := Except RelayFailoverConfigError RelayRecoveryOutcome

def terminalReasonForClientError : RelayClientError → RelayTerminalSecurityReason
  | .unauthorized => .grantExpired
  | .invalidContext => .identityMismatch
  | .invalidResponse | .credentialBinding => .routeEvidenceMismatch
  | .directory .invalidPolicyRevision | .directory (.policyRevisionMismatch _ _) => .policyChanged
  | .directory .peerBindingMismatch | .directory .sessionMismatch => .identityMismatch
  | .directory .expired | .directory .reservationExpired => .grantExpired
  | .directory .untrustedSigningKey | .directory .invalidPublicKey
  | .directory .invalidSignatureEncoding | .directory .invalidSignature => .signatureInvalid
  | .directory _ => .routeEvidenceMismatch
  | .backendUnavailable => .routeEvidenceMismatch

/-- A transport mux; what it is connected to is the environment's affair. -/
abbrev Mux := Nat

/-- `route_snapshot` of a mux. -/
structure MuxRoute where
  sessionId : String
  closed : Bool

/-! ### The session -/

structure RelaySessionState where
  context : RelayAccessContext
  latestAccess : VerifiedRelayAccess
  (activeDirectoryId activeNodeId activeFailureDomain : String)
  (generation highestAttemptedGeneration : Nat)
  health : RelayConnectionHealth
  disconnectedAtMs : Option Nat
  phase : RelayMigrationPhase
  terminalReason : Option RelayTerminalSecurityReason
  activeMux : Mux

/-- The offer of the peer, as far as the coordinator reads it. -/
structure RelayMigrationOffer where
  sessionId : String
  generation : Nat
  (directoryId nodeId : String)
  deriving DecidableEq

/-- **An attempt**: what an admitted call captured under the lock. `offer` is present on the side
that answers one. -/
structure Attempt where
  generation : Nat
  offer : Option RelayMigrationOffer
  context : RelayAccessContext
  cachedAccess : VerifiedRelayAccess
  (activeNodeId activeFailureDomain : String)

/-- The route an attempt has chosen. -/
structure Plan where
  access : VerifiedRelayAccess
  routeEvidence : RelayRouteEvidence

/-- What the executor hands back. -/
structure RelayMigrationCommit where
  generation : Nat
  routeEvidence : RelayRouteEvidence
  mux : Mux
  route : MuxRoute

namespace RelaySessionState

/-- A session as `install_session_inner` puts it in. -/
def installed (context : RelayAccessContext) (access : VerifiedRelayAccess)
    (activeDirectoryId activeNodeId activeFailureDomain : String) (activeMux : Mux) :
    RelaySessionState where
  context := context
  latestAccess := access
  activeDirectoryId := activeDirectoryId
  activeNodeId := activeNodeId
  activeFailureDomain := activeFailureDomain
  generation := 0
  highestAttemptedGeneration := 0
  health := .connected
  disconnectedAtMs := none
  phase := .idle
  terminalReason := none
  activeMux := activeMux

/-- `install_session_inner`, for a session that is not installed yet. -/
def installSessionInner (context : RelayAccessContext) (access : VerifiedRelayAccess)
    (activeNodeId : String) (activeMux : Mux) (route : MuxRoute) (initialDirect : Bool)
    (nowMs : Nat) : Except RelayFailoverConfigError RelaySessionState :=
  let payload := access.directory.payload
  if payload.sessionId ≠ context.sessionId ∨ payload.policyRevision ≠ context.policyRevision ∨
      payload.intendedPeerDigest ≠ context.peerDigest then .error .contextMismatch
  else match payload.candidates.find? fun candidate => candidate.nodeId = activeNodeId with
    | none => .error .activeNodeMissing
    | some active =>
      if (access.credentialsFor activeNodeId).isNone then .error .activeNodeMissing
      else if route.sessionId ≠ context.sessionId ∨ route.closed then .error .muxMismatch
      else if access.isFresh nowMs = false then .error .accessExpired
      else .ok (installed context access payload.directoryId
        (if initialDirect then "" else active.nodeId)
        (if initialDirect then "" else active.failureDomain) activeMux)

/-! ### Admission -/

/-- The result of an admission section: an answer, or an attempt in phase `Planning`. -/
inductive Admission
  | answered (result : RecoveryResult)
  | admitted (attempt : Attempt)

/-- What a call captures before it leaves the lock. -/
def attempt (session : RelaySessionState) (generation : Nat) (offer : Option RelayMigrationOffer) :
    Attempt where
  generation := generation
  offer := offer
  context := session.context
  cachedAccess := session.latestAccess
  activeNodeId := session.activeNodeId
  activeFailureDomain := session.activeFailureDomain

/-- Put the session into `Planning` and admit the attempt. -/
def beginPlanning (session : RelaySessionState) (generation : Nat)
    (offer : Option RelayMigrationOffer) : RelaySessionState × Admission :=
  ({ session with phase := .planning generation }, .admitted (session.attempt generation offer))

/-- `observe_health` up to the end of its locked section. -/
def observeHealth (disconnectedGraceMs : Nat) (session : RelaySessionState)
    (observedGeneration : Nat) (health : RelayConnectionHealth) (nowMs : Nat) :
    RelaySessionState × Admission :=
  match session.terminalReason with
  | some reason => (session, .answered (.ok (.terminal reason)))
  | none =>
    if observedGeneration ≠ session.generation then
      (session, .answered (.ok (.suppressedStaleHealth observedGeneration session.generation)))
    else if health = .connected then
      ({ session with health := health, disconnectedAtMs := none }, .answered (.ok .healthy))
    else match session.phase with
      | .planning generation | .inFlight generation =>
        ({ session with health := health }, .answered (.ok (.inProgress generation)))
      | .idle | .terminal =>
        let disconnectedAtMs :=
          if health = .disconnected then some (session.disconnectedAtMs.getD nowMs) else none
        let observed := { session with health := health, disconnectedAtMs := disconnectedAtMs }
        let retryAtMs := disconnectedAtMs.map fun since => saturatingAdd since disconnectedGraceMs
        match retryAtMs.filter (nowMs < ·) with
        | some retryAtMs => (observed, .answered (.ok (.grace retryAtMs)))
        | none =>
          match checkedAdd session.highestAttemptedGeneration 1 with
          | none => (observed, .answered (.error .generationExhausted))
          | some generation => observed.beginPlanning generation none

/-- `accept_remote_offer` up to the end of its first locked section. -/
def acceptRemoteOffer (session : RelaySessionState) (offer : RelayMigrationOffer) :
    RelaySessionState × Admission :=
  match session.terminalReason with
  | some reason => (session, .answered (.ok (.terminal reason)))
  | none =>
    match session.phase with
    | .planning generation | .inFlight generation =>
      (session, .answered (.ok (.inProgress generation)))
    | .terminal => (session, .answered (.ok (.inProgress session.highestAttemptedGeneration)))
    | .idle =>
      match checkedAdd session.highestAttemptedGeneration 1 with
      | none => (session, .answered (.error .generationExhausted))
      | some expected =>
        if offer.generation ≠ expected then
          (session, .answered (.ok (.suppressedLate offer.generation)))
        else session.beginPlanning offer.generation (some offer)

/-! ### Later sections -/

/-- `Planning` becomes `InFlight`, and the generation is used up. -/
def enterInFlight (session : RelaySessionState) (generation : Nat) : Option RelaySessionState :=
  if session.terminalReason.isSome ∨ session.phase ≠ .planning generation then none
  else some { session with phase := .inFlight generation, highestAttemptedGeneration := generation }

/-- The check of an attempt that it still owns its phase. -/
def isInFlight (session : RelaySessionState) (generation : Nat) : Bool :=
  session.terminalReason.isNone && decide (session.phase = .inFlight generation)

/-- `clear_phase`: back to `Idle` if the phase carries the generation. -/
def clearPhase (session : RelaySessionState) (generation : Nat) : Option RelaySessionState :=
  if (session.phase = .planning generation ∨ session.phase = .inFlight generation) ∧
      session.terminalReason = none then some { session with phase := .idle }
  else none

/-- The commit section of `recover` and `accept_remote_offer`. -/
def commit (session : RelaySessionState) (generation : Nat) (plan : Plan) (mux : Mux) :
    Option RelaySessionState :=
  if session.isInFlight generation then
    some { session with
        latestAccess := plan.access
        activeDirectoryId := plan.routeEvidence.directoryId
        activeNodeId := plan.routeEvidence.nodeId
        activeFailureDomain := plan.routeEvidence.failureDomain
        generation := generation
        health := .connected
        disconnectedAtMs := none
        phase := .idle
        activeMux := mux }
  else none

/-- The locked section of `terminalize`; the first reason stays. -/
def terminalize (session : RelaySessionState) (reason : RelayTerminalSecurityReason) :
    RelaySessionState × RelayTerminalSecurityReason :=
  match session.terminalReason with
  | some existing => (session, existing)
  | none => ({ session with phase := .terminal, terminalReason := some reason }, reason)

end RelaySessionState

/-! ### Choosing the route -/

/-- What an attempt does after its directory refresh. -/
inductive PlanDecision
  | proceed (plan : Plan)
  | retry (code : RelayMigrationFailureCode)
  | terminate (reason : RelayTerminalSecurityReason)
  | reject (error : RelayFailoverConfigError)

namespace Attempt

/-- The directory an attempt works with: the refreshed one, or the cached one while the backend is
unreachable and the cache is fresh. -/
def accessAfterRefresh (attempt : Attempt)
    (refreshed : Except RelayClientError VerifiedRelayAccess) (nowMs : Nat) :
    Except PlanDecision VerifiedRelayAccess :=
  match refreshed with
  | .ok access => .ok access
  | .error error =>
    if error = .backendUnavailable ∧ attempt.cachedAccess.isFresh nowMs then .ok attempt.cachedAccess
    else if error.isTerminalSecurity then .error (.terminate (terminalReasonForClientError error))
    else .error (.retry .backendUnavailable)

/-- A controller takes the first candidate on another node, in another failure domain, for which it
holds a credential. -/
def planRecover (sha256 : Sha256) (attempt : Attempt) (access : VerifiedRelayAccess) :
    PlanDecision :=
  match access.candidates.find? fun candidate =>
    decide (candidate.nodeId ≠ attempt.activeNodeId) &&
      decide (candidate.failureDomain ≠ attempt.activeFailureDomain) &&
      (access.credentialsFor candidate.nodeId).isSome with
  | none => .retry .noDifferentFailureDomain
  | some candidate =>
    match access.credentialsFor candidate.nodeId with
    | none => .reject .activeNodeMissing
    | some _ =>
      match access.routeEvidence sha256 candidate.nodeId attempt.generation with
      | .error _ => .reject .contextMismatch
      | .ok evidence => .proceed ⟨access, evidence⟩

/-- An agent re-authorizes exactly the node the offer names. -/
def planOffer (sha256 : Sha256) (attempt : Attempt) (offer : RelayMigrationOffer)
    (access : VerifiedRelayAccess) : PlanDecision :=
  if access.directory.payload.directoryId ≠ offer.directoryId then
    .terminate .routeEvidenceMismatch
  else match access.candidates.find? fun candidate => candidate.nodeId = offer.nodeId with
    | none => .terminate .routeEvidenceMismatch
    | some candidate =>
      if candidate.failureDomain = attempt.activeFailureDomain then .terminate .routeEvidenceMismatch
      else match access.credentialsFor offer.nodeId with
        | none => .terminate .routeEvidenceMismatch
        | some _ =>
          match access.routeEvidence sha256 offer.nodeId attempt.generation with
          | .error _ => .terminate .routeEvidenceMismatch
          | .ok evidence => .proceed ⟨access, evidence⟩

def plan (sha256 : Sha256) (attempt : Attempt)
    (refreshed : Except RelayClientError VerifiedRelayAccess) (nowMs : Nat) : PlanDecision :=
  match attempt.accessAfterRefresh refreshed nowMs with
  | .error decision => decision
  | .ok access =>
    match attempt.offer with
    | none => attempt.planRecover sha256 access
    | some offer => attempt.planOffer sha256 offer access

/-- `for_refresh` for the generation before the attempt's. -/
def refreshContext (sha256 : Sha256) (attempt : Attempt) :
    Except RelayFailoverConfigError RelayAccessContext :=
  match checkedSub attempt.generation 1 with
  | none => .error .contextMismatch
  | some generation =>
    match RelayAccessContext.forRefresh sha256 attempt.context.sessionId
      attempt.context.policyRevision attempt.context.intendedPeerId generation with
    | .error _ => .error .contextMismatch
    | .ok context => .ok context

/-- The committed route is not the planned one, or its mux is not usable. -/
def commitMismatch (attempt : Attempt) (plan : Plan) (commit : RelayMigrationCommit) : Bool :=
  commit.generation != attempt.generation || commit.routeEvidence != plan.routeEvidence ||
    commit.route.sessionId != attempt.context.sessionId || commit.route.closed

end Attempt

end MiniRemoteDesktop.Relay
