/-
**The consent registry of the session agent** (`mrd-session-agent`, `consent.rs`).

The registry remembers the requests that wait for a decision (`pending`, with `pendingAttempts` back
from the attempt to the request), the decisions that were made (`tombstones`, kept against replay)
and the authority that approvals gave (`bindings`). Every admission gets the next attempt id.

A result goes out without its attempt; the model keeps the two together in `Answer`, so that one can
say which admission a result answers. The lock around the registry is never poisoned: no method
panics while it holds it.
-/

import MiniRemoteDesktop.Agent.Protocol
import MiniRemoteDesktop.Lib.Procedure
import MiniRemoteDesktop.Lib.Table

namespace MiniRemoteDesktop.Agent

open Procedure (fail read refuse when)

def maxActiveBindings : Nat := 64

def maxPendingConsents : Nat := 32

def maxConsentTombstones : Nat := 4096

structure TrustedSessionBinding where
  authorityGeneration : Nat
  (consentRequestId registrationId : Id)
  registrationEpoch : Nat
  sessionId : SessionId
  peer : PeerBinding
  approvedScopes : PermissionScopes
  (policyRevision windowsSessionId desktopEpoch : Nat)
  desktopKind : DesktopKind
  (authorizationExpiresAtMs authorizationDeadline : Nat)
  expectedIssuerKeyId : Digest

structure AuthorityInvalidation where
  sessionId : SessionId
  authorityGeneration : Nat
  consentRequestId : Id

/-- `AuthorityInvalidation::from`. -/
def TrustedSessionBinding.invalidation (binding : TrustedSessionBinding) : AuthorityInvalidation where
  sessionId := binding.sessionId
  authorityGeneration := binding.authorityGeneration
  consentRequestId := binding.consentRequestId

structure TrustedConsentContext where
  registrationId : Id
  (registrationEpoch windowsSessionId desktopEpoch : Nat)
  desktopKind : DesktopKind
  expectedIssuerKeyId : Digest
  nowMs : Nat
  deriving DecidableEq

namespace TrustedConsentContext

def isValidFor (context : TrustedConsentContext) (request : ConsentRequest) : Bool :=
  !isZero context.registrationId && context.registrationEpoch != 0 &&
    context.windowsSessionId == request.windowsSessionId && context.desktopEpoch != 0 &&
    context.desktopKind == .default && !isZero context.expectedIssuerKeyId

def sameAuthority (context other : TrustedConsentContext) : Bool :=
  context.registrationId == other.registrationId &&
    context.registrationEpoch == other.registrationEpoch &&
    context.windowsSessionId == other.windowsSessionId &&
    context.desktopEpoch == other.desktopEpoch && context.desktopKind == other.desktopKind &&
    context.expectedIssuerKeyId == other.expectedIssuerKeyId

end TrustedConsentContext

/-- `ConsentFingerprint`: what a request says, without its token and its id. -/
structure ConsentFingerprint where
  sessionId : SessionId
  peer : PeerBinding
  requestedScopes : PermissionScopes
  (policyRevision windowsSessionId issuedAtMs expiresAtMs authorizationExpiresAtMs : Nat)
  deriving DecidableEq

def ConsentFingerprint.of (request : ConsentRequest) : ConsentFingerprint where
  sessionId := request.sessionId
  peer := request.peer
  requestedScopes := request.requestedScopes
  policyRevision := request.policyRevision
  windowsSessionId := request.windowsSessionId
  issuedAtMs := request.issuedAtMs
  expiresAtMs := request.expiresAtMs
  authorizationExpiresAtMs := request.authorizationExpiresAtMs

structure PendingConsentPrompt where
  attemptId : Nat
  request : ConsentRequest
  deriving DecidableEq

inductive ConsentBeginOutcome
  | prompt (pending : PendingConsentPrompt)
  | cached (result : ConsentResult)

inductive ConsentCompletionRejection
  | invalidLocalContext
  | promptExpired
  | scopeEscalation
  | unexpectedApprovedScopes
  | bindingCapacityExceeded

inductive ConsentCompletionDisposition
  | approved
  | nonApproved
  | rejected (rejection : ConsentCompletionRejection)

/-- **A result with the attempt it answers.** -/
structure Answer where
  attemptId : Nat
  result : ConsentResult

structure ConsentCompletion where
  answer : Answer
  bindingChanged : Bool
  disposition : ConsentCompletionDisposition

structure FreshAuthorityChange where
  sessionId : SessionId
  consentRequestId : Id
  authorityGeneration : Nat

inductive ConsentCompletionOutcome
  | completed (completion : ConsentCompletion)
  | ignored

inductive ConsentCancelOutcome
  | cancelled (answer : Answer)
  | ignored

inductive ConsentRegistryError
  | invalidRequest
  | inactiveRequest
  | invalidLocalContext
  | consentReplayConflict
  | consentAlreadyPending
  | pendingCapacityExceeded
  | tombstoneCapacityExceeded
  | attemptIdExhausted
  | deadlineOverflow
  | unavailable
  deriving DecidableEq

structure PendingConsent where
  attemptId : Nat
  request : ConsentRequest
  fingerprint : ConsentFingerprint
  context : TrustedConsentContext
  authorizationDeadline : Nat

structure ConsentTombstone where
  fingerprint : ConsentFingerprint
  result : ConsentResult
  retainUntilMs : Nat

structure ConsentAuthorityState where
  bindings : AList fun _ : SessionId => TrustedSessionBinding
  pending : AList fun _ : Id => PendingConsent
  pendingAttempts : AList fun _ : Nat => Id
  tombstones : AList fun _ : Id => ConsentTombstone
  nextAttemptId : Nat

/-! ### Results -/

def clampedDecidedAt (request : ConsentRequest) (nowMs : Nat) : Nat :=
  min (max nowMs request.issuedAtMs) (request.expiresAtMs - 1)

def terminalResult (request : ConsentRequest) (decision : ConsentDecision) (decidedAtMs : Nat) :
    ConsentResult where
  requestToken := request.requestToken
  requestId := request.requestId
  sessionId := request.sessionId
  peer := request.peer
  policyRevision := request.policyRevision
  windowsSessionId := request.windowsSessionId
  decision := decision
  approvedScopes := ∅
  decidedAtMs := decidedAtMs

def validRequestShape (request : ConsentRequest) : Bool :=
  request.requestToken != 0 && !isZero request.requestId && !request.sessionId.value.isEmpty &&
    (Text.bytes request.sessionId.value).length ≤ agentIpcMaxIdentifierBytes &&
    !request.peer.deviceId.value.isEmpty &&
    (Text.bytes request.peer.deviceId.value).length ≤ agentIpcMaxIdentifierBytes &&
    !isZero request.peer.keyId && request.requestedScopes != ∅ && request.policyRevision != 0 &&
    request.windowsSessionId != 0 && request.issuedAtMs != 0 &&
    request.issuedAtMs < request.expiresAtMs &&
    request.expiresAtMs ≤ request.authorizationExpiresAtMs &&
    request.authorizationExpiresAtMs - request.issuedAtMs ≤ agentConsentMaxLifetimeMs

/-- `checked_authority_deadline`; instants are milliseconds of a `u64` clock. -/
def checkedAuthorityDeadline (now lifetimeMs : Nat) : Option Nat :=
  if agentConsentMaxLifetimeMs < lifetimeMs then none else checkedAdd now lifetimeMs

def normalizeDecision (pending : PendingConsent) (decision : ConsentDecision)
    (approvedScopes : PermissionScopes) (context : TrustedConsentContext) :
    ConsentDecision × PermissionScopes × ConsentCompletionDisposition :=
  if context.nowMs < pending.context.nowMs then
    (.dismissed, ∅, .rejected .invalidLocalContext)
  else if context.nowMs < pending.request.issuedAtMs ∨ pending.request.expiresAtMs ≤ context.nowMs then
    (.expired, ∅, .rejected .promptExpired)
  else if !context.isValidFor pending.request ∨ !context.sameAuthority pending.context then
    (.dismissed, ∅, .rejected .invalidLocalContext)
  else if decision = .approved then
    if approvedScopes = ∅ ∨ ¬ approvedScopes ⊆ pending.request.requestedScopes then
      (.dismissed, ∅, .rejected .scopeEscalation)
    else (.approved, approvedScopes, .approved)
  else if approvedScopes ≠ ∅ then (.dismissed, ∅, .rejected .unexpectedApprovedScopes)
  else (decision, ∅, .nonApproved)

namespace ConsentAuthorityState

/-- A method of the registry. -/
abbrev Method (α : Type) := Procedure ConsentAuthorityState ConsentRegistryError α

def empty : ConsentAuthorityState := ⟨∅, ∅, ∅, ∅, 0⟩

/-! ### Admission -/

/-- Forget the decisions that need no replay protection any more. -/
def pruneTombstones (state : ConsentAuthorityState) (nowMs : Nat) : ConsentAuthorityState :=
  let stale := state.tombstones.entries.filter fun entry => entry.2.retainUntilMs ≤ nowMs
  { state with tombstones := Table.eraseAll state.tombstones (stale.map Sigma.fst) }

/-- Drop one expired request, without an answer. -/
def pruneExpired (nowMs : Nat) (state : ConsentAuthorityState)
    (entry : Sigma fun _ : Id => PendingConsent) : ConsentAuthorityState :=
  let pending := entry.2
  { state with
    pending := state.pending.erase entry.1
    pendingAttempts := state.pendingAttempts.erase pending.attemptId
    tombstones :=
      if nowMs < pending.request.authorizationExpiresAtMs then
        state.tombstones.insert entry.1
          { fingerprint := pending.fingerprint
            result := terminalResult pending.request .expired (pending.request.expiresAtMs - 1)
            retainUntilMs := pending.request.authorizationExpiresAtMs }
      else state.tombstones }

def pruneForCapacity (state : ConsentAuthorityState) (nowMs : Nat) : ConsentAuthorityState :=
  let pruned := state.pruneTombstones nowMs
  (pruned.pending.entries.filter fun entry => entry.2.request.expiresAtMs ≤ nowMs).foldl
    (pruneExpired nowMs) pruned

/-- The request waits under the next attempt id. -/
def await (state : ConsentAuthorityState) (attemptId : Nat) (request : ConsentRequest)
    (context : TrustedConsentContext) (authorizationDeadline : Nat) : ConsentAuthorityState :=
  { state with
    nextAttemptId := attemptId
    pending := state.pending.insert request.requestId
      { attemptId, request, fingerprint := .of request, context, authorizationDeadline }
    pendingAttempts := state.pendingAttempts.insert attemptId request.requestId }

/-- What an admission is refused for, after the replay checks. -/
def refusal (state : ConsentAuthorityState) (request : ConsentRequest)
    (context : TrustedConsentContext) : Option ConsentRegistryError :=
  if context.nowMs < request.issuedAtMs ∨ request.expiresAtMs ≤ context.nowMs then
    some .inactiveRequest
  else if !context.isValidFor request then some .invalidLocalContext
  else if maxPendingConsents ≤ state.pending.entries.length then some .pendingCapacityExceeded
  else if maxConsentTombstones ≤ state.tombstones.entries.length + state.pending.entries.length then
    some .tombstoneCapacityExceeded
  else none

def beginAt (request : ConsentRequest) (context : TrustedConsentContext) (anchor : Nat) :
    Method ConsentBeginOutcome := do
  refuse (!validRequestShape request) .invalidRequest
  Procedure.change fun state => state.pruneForCapacity context.nowMs
  let state ← read
  match state.tombstones.lookup request.requestId, state.pending.lookup request.requestId with
  | some tombstone, _ =>
    refuse (tombstone.fingerprint ≠ .of request) .consentReplayConflict
    return .cached { tombstone.result with requestToken := request.requestToken }
  | none, some pending =>
    fail (if pending.fingerprint = .of request then .consentAlreadyPending else .consentReplayConflict)
  | none, none =>
    match state.refusal request context,
      checkedAuthorityDeadline anchor (request.authorizationExpiresAtMs - context.nowMs),
      checkedAdd state.nextAttemptId 1 with
    | some error, _, _ => fail error
    | none, none, _ => fail .deadlineOverflow
    | none, some _, none => fail .attemptIdExhausted
    | none, some deadline, some attemptId =>
      Procedure.change fun state => state.await attemptId request context deadline
      return .prompt { attemptId, request }

/-! ### Authority -/

def resolve (state : ConsentAuthorityState) (sessionId : SessionId) (nowMs now : Nat) :
    Option TrustedSessionBinding :=
  (state.bindings.lookup sessionId).filter fun binding =>
    nowMs < binding.authorizationExpiresAtMs && now < binding.authorizationDeadline

/-- Remove the bindings that meet a condition, and say which. -/
def takeBindings (condition : TrustedSessionBinding → Bool) : Method (List AuthorityInvalidation) :=
    do
  let state ← read
  let taken := state.bindings.entries.filter fun entry => condition entry.2
  Procedure.change fun state =>
    { state with bindings := Table.eraseAll state.bindings (taken.map Sigma.fst) }
  return taken.map fun entry => entry.2.invalidation

def takeDue (now nowMs : Nat) : Method (List AuthorityInvalidation) :=
  takeBindings fun binding =>
    binding.authorizationDeadline ≤ now || binding.authorizationExpiresAtMs ≤ nowMs

def takeDesktopMismatch (desktop : TrustedDesktopState) : Method (List AuthorityInvalidation) :=
  takeBindings fun binding =>
    binding.desktopEpoch != desktop.desktopEpoch || binding.desktopKind != desktop.desktopKind

def drain : Method (List AuthorityInvalidation) := takeBindings fun _ => true

/-- Whether this change of authority is the one in force. -/
def isCurrent (state : ConsentAuthorityState) (change : FreshAuthorityChange) : Bool :=
  (state.bindings.lookup change.sessionId).any fun binding =>
    binding.consentRequestId == change.consentRequestId &&
      binding.authorityGeneration == change.authorityGeneration

def invalidateFreshAuthority (change : FreshAuthorityChange) : Method Bool := do
  let state ← read
  when (state.isCurrent change) (Procedure.change fun state =>
      { state with bindings := state.bindings.erase change.sessionId })
  return state.isCurrent change

/-! ### Decisions -/

/-- The authority that an approval gives. -/
def grantedBinding (pending : PendingConsent) (scopes : PermissionScopes) :
    TrustedSessionBinding where
  authorityGeneration := pending.attemptId
  consentRequestId := pending.request.requestId
  registrationId := pending.context.registrationId
  registrationEpoch := pending.context.registrationEpoch
  sessionId := pending.request.sessionId
  peer := pending.request.peer
  approvedScopes := scopes
  policyRevision := pending.request.policyRevision
  windowsSessionId := pending.context.windowsSessionId
  desktopEpoch := pending.context.desktopEpoch
  desktopKind := pending.context.desktopKind
  authorizationExpiresAtMs := pending.request.authorizationExpiresAtMs
  authorizationDeadline := pending.authorizationDeadline
  expectedIssuerKeyId := pending.context.expectedIssuerKeyId

/-- The decision with the bound on the number of bindings. -/
def settle (state : ConsentAuthorityState) (pending : PendingConsent) (decision : ConsentDecision)
    (approvedScopes : PermissionScopes) (context : TrustedConsentContext) :
    ConsentDecision × PermissionScopes × ConsentCompletionDisposition :=
  let normalized := normalizeDecision pending decision approvedScopes context
  if normalized.1 = .approved ∧ pending.request.sessionId ∉ state.bindings ∧
      maxActiveBindings ≤ state.bindings.entries.length then
    (.dismissed, ∅, .rejected .bindingCapacityExceeded)
  else normalized

/-- The registry after a decision on `pending`. -/
def decided (state : ConsentAuthorityState) (requestId : Id) (pending : PendingConsent)
    (result : ConsentResult) : ConsentAuthorityState :=
  { state with
    bindings :=
      if result.decision = .approved then
        state.bindings.insert pending.request.sessionId
          (grantedBinding pending result.approvedScopes)
      else state.bindings
    tombstones := state.tombstones.insert requestId
      { fingerprint := pending.fingerprint
        result
        retainUntilMs := pending.request.authorizationExpiresAtMs } }

def complete (attemptId : Nat) (decision : ConsentDecision) (approvedScopes : PermissionScopes)
    (context : TrustedConsentContext) : Method ConsentCompletionOutcome := do
  let state ← read
  match state.pendingAttempts.lookup attemptId with
  | none => return .ignored
  | some requestId =>
    Procedure.change fun state =>
      { state with pendingAttempts := state.pendingAttempts.erase attemptId }
    match state.pending.lookup requestId with
    | none => return .ignored
    | some pending =>
      Procedure.change fun state => { state with pending := state.pending.erase requestId }
      let (finalDecision, finalScopes, disposition) :=
        state.settle pending decision approvedScopes context
      let result :=
        { terminalResult pending.request finalDecision
            (clampedDecidedAt pending.request context.nowMs) with approvedScopes := finalScopes }
      Procedure.change fun state => state.decided requestId pending result
      return .completed
        { answer := { attemptId := pending.attemptId, result }
          bindingChanged := finalDecision == .approved
          disposition }

/-- The answer to a request that is withdrawn. -/
def cancelledResult (pending : PendingConsent) (nowMs : Nat) : ConsentResult :=
  let decision := if pending.request.expiresAtMs ≤ nowMs then ConsentDecision.expired else .dismissed
  terminalResult pending.request decision (clampedDecidedAt pending.request nowMs)

/-- The registry after `pending` was withdrawn. -/
def withdrawn (state : ConsentAuthorityState) (requestId : Id) (pending : PendingConsent)
    (result : ConsentResult) (nowMs : Nat) : ConsentAuthorityState :=
  { state with
    pending := state.pending.erase requestId
    pendingAttempts := state.pendingAttempts.erase pending.attemptId
    tombstones :=
      if nowMs < pending.request.authorizationExpiresAtMs then
        state.tombstones.insert requestId
          { fingerprint := pending.fingerprint
            result
            retainUntilMs := pending.request.authorizationExpiresAtMs }
      else state.tombstones }

def cancel (cancel : CancelConsent) (nowMs : Nat) : Method ConsentCancelOutcome := do
  let state ← read
  match state.pending.lookup cancel.requestId with
  | none => return .ignored
  | some pending =>
    if pending.request.requestToken ≠ cancel.requestToken ∨
        pending.request.sessionId ≠ cancel.sessionId then
      return .ignored
    else
      let result := cancelledResult pending nowMs
      Procedure.change fun state => state.withdrawn cancel.requestId pending result nowMs
      return .cancelled { attemptId := pending.attemptId, result }

end ConsentAuthorityState

end MiniRemoteDesktop.Agent
