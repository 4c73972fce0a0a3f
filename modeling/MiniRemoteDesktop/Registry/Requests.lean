/-
**The signed requests of a relay node, and what the administrator does with it**
(`app/services/relay_registry.py`, `renew` to `transition`).

A request is signed under a certificate of the node and numbered; it is accepted only if its number is
above the last one that was accepted. The current certificate and the one before it are numbered apart.

* `Entry.requestSecretRotation`, `Entry.uploadSecretRotation`, `Entry.commitSecretRotation`,
  `Entry.secretRotationStatus` — the steps of a rotation.
* `Entry.transition` — drain and resume.

The metrics of a heartbeat that nothing reads are left out.
-/

import MiniRemoteDesktop.Registry.Enrollment

namespace MiniRemoteDesktop.Registry

open Checked
open Relay (pushU32)
open Relay.Server (NodeState RegistrationStatus hexValue validateEndpoints)

/-! ### `renew` -/

/-- **A call of `renew`.** -/
structure RenewCall where
  identity : RelayIdentity
  sequence : Int
  (renewalId csrPem : String)
  certificate : Option IssuedRelayCertificate
  (renewBeforeSeconds previousAuthGraceSeconds renewalRecordRetentionSeconds now : Nat)

def renewalConflict (message : String) : RelayRegistryError := ⟨"relay_renewal_conflict", 409, message⟩

/-- What becomes of a renewal. -/
inductive RenewalPath
  /-- The certificate of the record is given out again. -/
  | retried (certificate : IssuedRelayCertificate)
  | issued

/-- The certificate of a complete record. -/
def recordedCertificate (node : RelayNode) (registration : RelayNodeRegistration) :
    Option (IssuedRelayCertificate × List UInt8 × Nat) := do
  let csrSha256 ← registration.renewalCsrSha256
  let certificatePem ← registration.renewalCertificatePem
  let expiresAt ← registration.renewalCertificateExpiresAt
  let caCertificatePem ← registration.caCertificatePem
  let recordUntil ← registration.renewalRecordExpiresAt
  return (⟨certificatePem, caCertificatePem, node.certificateFingerprint, expiresAt⟩, csrSha256, recordUntil)

/-- The record of the last renewal decides. A renewal under the previous certificate is a retry or none. -/
def renewalPath (node : RelayNode) (registration : RelayNodeRegistration) (kind : IdentityKind)
    (renewalId : String) (csrDigest : List UInt8) (now : Nat) : Except RelayRegistryError RenewalPath :=
  let conflict := renewalConflict "relay renewal conflicts"
  let fresh := if kind = .previous then Except.error conflict else .ok RenewalPath.issued
  match registration.renewalRequestId with
  | none => fresh
  | some existing =>
    match recordedCertificate node registration with
    | none => .error conflict
    | some (certificate, csrSha256, recordUntil) =>
      if recordUntil ≤ now then if existing = renewalId then .error conflict else fresh
      else if existing = renewalId ∧ csrSha256 = csrDigest ∧ now < certificate.expiresAt then
        if kind = .previous then .ok (.retried certificate) else .error conflict
      else if existing = renewalId then .error conflict
      else fresh

/-- A new identity: the rotation state of the one before is cleared. -/
def RelayNode.renewed (node : RelayNode) (fingerprint : String) (sequence : Int) : RelayNode :=
  { node with
    certificateFingerprint := fingerprint
    identityEpoch := node.identityEpoch + 1
    previousIdentitySequence := some sequence
    heartbeatSequence := 0
    desiredSecretVersion := node.activeSecretVersion
    secretNotBefore := none
    oldCredentialDeadline := none
    pendingSecretVersion := none
    pendingEncryptedTurnSecret := none
    pendingSecretDigest := none
    pendingRotationId := none
    pendingSecretUploadedAt := none
    rotationChallenge := none
    committedRotationId := none
    committedIdentityEpoch := none
    committedRotationChallenge := none
    committedProbeEvidence := none
    committedProofMac := none
    state := if node.desiredDraining then .draining else node.state }

/-- The registration after a renewal. -/
def RelayNodeRegistration.renewed (registration : RelayNodeRegistration) (node : RelayNode)
    (call : RenewCall) (canonicalCsr signingPublicKey csrDigest : List UInt8)
    (certificate : IssuedRelayCertificate) (currentExpiry : Nat) : RelayNodeRegistration :=
  { registration with
    previousCertificateFingerprint := some node.certificateFingerprint
    previousSigningPublicKey := some registration.signingPublicKey
    previousCertificateExpiresAt := some currentExpiry
    csrPem := canonicalCsr
    signingPublicKey
    certificatePem := some certificate.certificatePem
    caCertificatePem := some certificate.caCertificatePem
    certificateExpiresAt := some certificate.expiresAt
    renewalRequestId := some call.renewalId
    renewalCsrSha256 := some csrDigest
    renewalCertificatePem := some certificate.certificatePem
    renewalCertificateExpiresAt := some certificate.expiresAt
    renewalRecordExpiresAt :=
      some (max (call.now + timedelta call.renewalRecordRetentionSeconds) currentExpiry) }

/-- The last number under the certificate of a request. -/
def RelayNode.lastSequence (node : RelayNode) : IdentityKind → Int
  | .current => node.heartbeatSequence
  | .previous => node.previousIdentitySequence.getD 0

/-- The issue of a new certificate. -/
def Entry.issueRenewal (entry : Entry) (node : RelayNode) (registration : RelayNodeRegistration)
    (call : RenewCall) (canonicalCsr signingPublicKey csrDigest : List UInt8) :
    Except RelayRegistryError (Entry × IssuedRelayCertificate) := do
  let unavailable := renewalConflict "relay renewal unavailable"
  if node.certificateFingerprint ≠ call.identity.certificateFingerprint then .error certificateInvalid
  let currentExpiry ← registration.certificateExpiresAt.elim (.error unavailable) .ok
  if currentExpiry ≤ call.now ∨ ¬ (300 ≤ call.renewBeforeSeconds ∧ call.renewBeforeSeconds ≤ 86400) ∨
      timedelta call.renewBeforeSeconds < currentExpiry - call.now ∨
      ¬ (30 ≤ call.previousAuthGraceSeconds ∧ call.previousAuthGraceSeconds ≤ 3600) ∨
      ¬ (300 ≤ call.renewalRecordRetentionSeconds ∧
        call.renewalRecordRetentionSeconds ≤ 7 * 86400) then .error unavailable
  let certificate ← call.certificate.elim (.error caUnavailable) .ok
  return ({
    node := some (node.renewed certificate.fingerprint call.sequence)
    registration := some (registration.renewed node call canonicalCsr signingPublicKey csrDigest
      certificate currentExpiry)
    audits := entry.audits ++ ["relay_certificate_renewed"] }, certificate)

/-- **`renew`.** -/
def Entry.renew (registry : RelayRegistry) (entry : Entry) (call : RenewCall) :
    Except RelayRegistryError (Entry × IssuedRelayCertificate) := do
  let (canonicalCsr, signingPublicKey) ← (registry.validateCsr call.csrPem call.identity.nodeId).elim
    (.error (enrollmentInvalid 400)) .ok
  let csrDigest := registry.sha256 canonicalCsr
  let (node, registration, kind) ← entry.identified call.identity true call.now
  if ¬ (1 ≤ call.sequence ∧ call.sequence ≤ 2 ^ 63 - 1) ∨ call.sequence ≤ node.lastSequence kind then
    .error heartbeatReplayed
  if node.rotationInFlight ∧ kind = .current then
    .error (renewalConflict "relay renewal conflicts")
  let path ← renewalPath node registration kind call.renewalId csrDigest call.now
  match path with
  | .retried certificate =>
    return ({ entry with
      node := some { node with previousIdentitySequence := some call.sequence } }, certificate)
  | .issued => entry.issueRenewal node registration call canonicalCsr signingPublicKey csrDigest

/-! ### `record_heartbeat` -/

inductive Health
  | healthy
  | degraded
  | failed
  | nonEvidence
  deriving DecidableEq

/-- **A call of `record_heartbeat`.** -/
structure HeartbeatCall where
  identity : RelayIdentity
  sequence : Int
  identityEpoch : Nat
  (processHealth listenerHealth probeHealth : Health)
  (activeAllocations currentEgressBps maxAllocations maxEgressBps : Int)
  appliedSecretVersion : Nat
  measuredRttMs : Option Int
  recentFailureBps : Int
  endpoints : List String
  now : Nat

namespace HeartbeatCall

variable (call : HeartbeatCall)

def invalidSelectionMetrics : Bool :=
  (call.measuredRttMs.any fun rtt => ¬ (0 ≤ rtt ∧ rtt ≤ 2 ^ 32 - 1)) ||
    ¬ (0 ≤ call.recentFailureBps ∧ call.recentFailureBps ≤ 10000)

def healthValuesValid : Bool :=
  call.processHealth ≠ .nonEvidence && call.listenerHealth ≠ .nonEvidence && call.probeHealth ≠ .degraded

/-- `heartbeat_healthy`. -/
def healthy : Bool :=
  call.processHealth = .healthy && call.listenerHealth = .healthy && call.probeHealth = .healthy

end HeartbeatCall

/-- The lease, the streak and the state after a heartbeat. -/
def RelayNode.afterHeartbeat (node : RelayNode) (healthy : Bool) (now : Nat) : Nat × Nat × NodeState :=
  if healthy then
    let lease := now + timedelta 15
    if node.effectiveDraining ∨ node.state = .draining then
      (lease, node.healthyHeartbeatStreak, .draining)
    else if (node.state = .available ∨ node.state = .degraded) ∧ node.leaseExpiresAt.any (now < ·) then
      (lease, 3, node.state)
    else if node.state = .unavailable then
      (lease, min (node.healthyHeartbeatStreak + 1) 3,
        if 2 ≤ node.healthyHeartbeatStreak then .available else .unavailable)
    else (lease, 1, .unavailable)
  else (now, 0, .unavailable)

/-- The node after a heartbeat. -/
def RelayNode.heartbeat (node : RelayNode) (call : HeartbeatCall) (canonicalEndpoints : List String) :
    RelayNode :=
  let (leaseExpiresAt, healthyHeartbeatStreak, state) := node.afterHeartbeat call.healthy call.now
  { node with
    heartbeatSequence := call.sequence
    activeAllocations := call.activeAllocations
    currentEgressBps := call.currentEgressBps
    measuredRttMs := call.measuredRttMs
    recentFailureBps := call.recentFailureBps
    endpoints := canonicalEndpoints
    leaseExpiresAt := some leaseExpiresAt
    healthyHeartbeatStreak
    state }

def metricsInvalid (message : String) : RelayRegistryError := ⟨"relay_metrics_invalid", 400, message⟩

/-- **`record_heartbeat`.** -/
def Entry.recordHeartbeat (entry : Entry) (call : HeartbeatCall) : Except RelayRegistryError Entry := do
  let canonicalEndpoints ← (validateEndpoints call.endpoints).elim
    (.error (metricsInvalid "relay endpoint metrics invalid")) .ok
  let (node, _, _) ← entry.identified call.identity false call.now
  if call.sequence ≤ node.heartbeatSequence then .error heartbeatReplayed
  if call.identityEpoch ≠ node.identityEpoch ∨ node.maxAllocations < call.activeAllocations ∨
      call.maxAllocations ≠ node.maxAllocations ∨ call.maxEgressBps ≠ node.maxEgressBps ∨
      call.appliedSecretVersion ≠ node.appliedSecretVersion ∨ call.healthValuesValid = false ∨
      call.invalidSelectionMetrics then .error (metricsInvalid "relay metrics invalid")
  return { entry with
    node := some (node.heartbeat call canonicalEndpoints)
    audits := entry.audits ++ ["relay_heartbeat_recorded"] }

/-! ### Rotations -/

def rotationInvalid (statusCode : Nat) : RelayRegistryError :=
  ⟨"relay_secret_rotation_invalid", statusCode, "relay secret rotation invalid"⟩

def rotationConflict : RelayRegistryError :=
  ⟨"relay_secret_rotation_conflict", 409, "relay secret rotation conflict"⟩

def rotationProofInvalid (statusCode : Nat) : RelayRegistryError :=
  ⟨"relay_rotation_proof_invalid", statusCode, "relay rotation proof invalid"⟩

def identityEpochInvalid : RelayRegistryError :=
  ⟨"relay_identity_epoch_invalid", 409, "relay identity epoch invalid"⟩

/-- **A call of `request_secret_rotation`**, with the challenge that it draws. -/
structure RotationCall where
  credentialTtlSeconds : Nat
  challenge : String
  now : Nat

/-- The start of a rotation. -/
def RelayNode.rotating (node : RelayNode) (call : RotationCall) : RelayNode :=
  { node with
    desiredSecretVersion := node.activeSecretVersion + 1
    secretNotBefore := some call.now
    oldCredentialDeadline := some (call.now + timedelta call.credentialTtlSeconds)
    pendingSecretVersion := none
    pendingEncryptedTurnSecret := none
    pendingSecretDigest := none
    pendingRotationId := none
    pendingSecretUploadedAt := none
    rotationChallenge := some call.challenge
    committedRotationId := none
    committedIdentityEpoch := none
    committedRotationChallenge := none
    committedProbeEvidence := none
    committedProofMac := none
    state := .draining
    leaseExpiresAt := some call.now
    healthyHeartbeatStreak := 0 }

def Entry.requestSecretRotation (entry : Entry) (call : RotationCall) :
    Except RelayRegistryError Entry := do
  if ¬ (60 ≤ call.credentialTtlSeconds ∧ call.credentialTtlSeconds ≤ 3600) then
    .error (rotationInvalid 400)
  let node ← entry.node.elim (.error nodeNotFound) .ok
  if node.state = .revoked then .error (nodeRevoked 409)
  if node.rotationInFlight then return entry
  return { entry with
    node := some (node.rotating call)
    audits := entry.audits ++ ["relay_secret_rotation_requested"] }

/-- **A call of `upload_secret_rotation`.** -/
structure UploadCall where
  identity : RelayIdentity
  sequence : Int
  identityEpoch : Nat
  rotationId : String
  secretVersion : Nat
  turnRestSecret : String
  nonce : List UInt8
  now : Nat

/-- The current identity of a request about a rotation, whose number is new. -/
def Entry.rotationIdentity (entry : Entry) (identity : RelayIdentity) (sequence : Int)
    (identityEpoch now : Nat) : Except RelayRegistryError RelayNode := do
  let (node, _, kind) ← entry.identified identity true now
  if kind = .previous then .error identityEpochInvalid
  if identityEpoch ≠ node.identityEpoch then .error identityEpochInvalid
  if sequence ≤ node.heartbeatSequence then .error heartbeatReplayed
  return node

/-- The secret that a node has uploaded, or the first that it uploads. -/
def RelayNode.pending (node : RelayNode) (call : UploadCall) (secretDigest encrypted : List UInt8) :
    Except RelayRegistryError (RelayNode × List String) :=
  match node.pendingSecretVersion with
  | some version =>
    if version ≠ call.secretVersion ∨ node.pendingRotationId ≠ some call.rotationId ∨
        node.pendingSecretDigest ≠ some secretDigest then .error rotationConflict
    else .ok (node, [])
  | none => .ok ({ node with
      pendingSecretVersion := some call.secretVersion
      pendingEncryptedTurnSecret := some encrypted
      pendingSecretDigest := some secretDigest
      pendingRotationId := some call.rotationId
      pendingSecretUploadedAt := some call.now }, ["relay_secret_rotation_uploaded"])

/-- **`upload_secret_rotation`.** -/
def Entry.uploadSecretRotation (registry : RelayRegistry) (entry : Entry) (call : UploadCall) :
    Except RelayRegistryError Entry := do
  let (secretDigest, encrypted) ←
    registry.protectTurnSecret call.turnRestSecret call.identity.nodeId call.nonce
  let node ← entry.rotationIdentity call.identity call.sequence call.identityEpoch call.now
  if node.rotationInFlight = false ∨ call.secretVersion ≠ node.desiredSecretVersion ∨
      call.secretVersion ≤ node.activeSecretVersion ∨ node.rotationChallenge = none then
    .error (rotationInvalid 409)
  let (pending, audits) ← node.pending call secretDigest encrypted
  return { entry with
    node := some { pending with heartbeatSequence := call.sequence }
    audits := entry.audits ++ audits }

/-- **A call of `commit_secret_rotation`, or of `secret_rotation_status`.** -/
structure CommitCall where
  identity : RelayIdentity
  sequence : Int
  identityEpoch : Nat
  rotationId : String
  secretVersion : Nat
  (rotationChallenge probeEvidenceSha256 proofMac : String)
  now : Nat

/-- The bytes that a hexadecimal text stands for. -/
def fromHex : List Char → List UInt8
  | high :: low :: rest =>
    UInt8.ofNat (16 * hexValue high + hexValue low) :: fromHex rest
  | _ => []

def CommitCall.evidence (call : CommitCall) : List UInt8 := fromHex call.probeEvidenceSha256.toList

def CommitCall.proof (call : CommitCall) : List UInt8 := fromHex call.proofMac.toList

/-- The transaction that a call asks for is the one that was committed. -/
def RelayNode.committedExact (node : RelayNode) (call : CommitCall) : Bool :=
  node.activeSecretVersion = call.secretVersion && node.appliedSecretVersion = call.secretVersion &&
    node.committedRotationId = some call.rotationId &&
    node.committedIdentityEpoch = some call.identityEpoch &&
    node.committedRotationChallenge = some call.rotationChallenge &&
    node.committedProbeEvidence = some call.evidence && node.committedProofMac = some call.proof &&
    node.pendingSecretVersion.isNone && node.pendingEncryptedTurnSecret.isNone

/-- The transaction may be committed: the node is idle, and the credentials from before are over. -/
def RelayNode.committable (node : RelayNode) (call : CommitCall) : Bool :=
  node.rotationInFlight && node.activeAllocations = 0 &&
    (node.oldCredentialDeadline.any fun deadline => deadline ≤ call.now) &&
    node.pendingSecretVersion = some call.secretVersion &&
    node.pendingRotationId = some call.rotationId && node.pendingEncryptedTurnSecret.isSome &&
    node.pendingSecretDigest.isSome && call.secretVersion = node.desiredSecretVersion &&
    node.rotationChallenge = some call.rotationChallenge

def rotationProofMessage (nodeId : String) (call : CommitCall) (pendingSecretDigest : List UInt8) :
    Option (List UInt8) :=
  if isTopologyId nodeId = false ∨ ¬ (1 ≤ call.identityEpoch ∧ call.identityEpoch ≤ 2 ^ 63 - 1) ∨
      isTopologyId call.rotationId = false ∨
      ¬ (2 ≤ call.secretVersion ∧ call.secretVersion ≤ 2 ^ 63 - 1) ∨
      call.rotationChallenge.length ≠ 43 ∨ decodeCanonicalBase64url call.rotationChallenge 32 = none ∨
      pendingSecretDigest.length ≠ 32 ∨ call.evidence.length ≠ 32 then none
  else
    let fields := [Text.bytes nodeId, Text.bytes (toString call.identityEpoch), Text.bytes call.rotationId,
      Text.bytes (toString call.secretVersion), Text.bytes call.rotationChallenge, pendingSecretDigest,
      call.evidence]
    some (Text.bytes "MRD_RELAY_ROTATION_PROOF_V1" ++ 0 ::
      fields.flatMap fun field => pushU32 field.length ++ field)

/-- The proof of a call is made with the secret that is pending. -/
def RelayRegistry.checkProof (registry : RelayRegistry) (node : RelayNode) (call : CommitCall) :
    Except RelayRegistryError (List UInt8) := do
  let cipher ← registry.turnSecretCipher.elim
    (.error ⟨"relay_access_unavailable", 503, "relay access unavailable"⟩) .ok
  let encrypted ← node.pendingEncryptedTurnSecret.elim (.error (rotationProofInvalid 409)) .ok
  let canonicalSecret ← (cipher.decrypt encrypted call.identity.nodeId).elim
    (.error (rotationProofInvalid 409)) .ok
  let decoded ← (decodeCanonicalBase64url (Text.fromUtf8Lossy canonicalSecret) 32).elim
    (.error (rotationProofInvalid 409)) .ok
  let pendingDigest := registry.sha256 decoded
  if node.pendingSecretDigest ≠ some pendingDigest then .error (rotationProofInvalid 409)
  let message ← (rotationProofMessage call.identity.nodeId call pendingDigest).elim
    (.error (rotationProofInvalid 409)) .ok
  if registry.hmac canonicalSecret message ≠ call.proof then .error (rotationProofInvalid 409)
  return encrypted

/-- The node after a commit, with the secret that was pending. -/
def RelayNode.committed (node : RelayNode) (call : CommitCall) (secret : List UInt8) : RelayNode :=
  { node with
    encryptedTurnSecret := secret
    activeSecretVersion := call.secretVersion
    appliedSecretVersion := call.secretVersion
    pendingSecretVersion := none
    pendingEncryptedTurnSecret := none
    pendingSecretDigest := none
    pendingRotationId := none
    pendingSecretUploadedAt := none
    committedRotationId := some call.rotationId
    committedIdentityEpoch := some call.identityEpoch
    committedRotationChallenge := some call.rotationChallenge
    committedProbeEvidence := some call.evidence
    committedProofMac := some call.proof
    rotationChallenge := none
    secretNotBefore := none
    oldCredentialDeadline := none
    state := if node.desiredDraining then .draining else .unavailable
    leaseExpiresAt := none
    healthyHeartbeatStreak := 0
    heartbeatSequence := call.sequence }

/-- **`commit_secret_rotation`.** -/
def Entry.commitSecretRotation (registry : RelayRegistry) (entry : Entry) (call : CommitCall) :
    Except RelayRegistryError Entry := do
  if Text.isLowerHex 64 call.probeEvidenceSha256 = false then
    .error ⟨"relay_probe_invalid", 400, "relay allocation probe invalid"⟩
  if Text.isLowerHex 64 call.proofMac = false then .error (rotationProofInvalid 400)
  let node ← entry.rotationIdentity call.identity call.sequence call.identityEpoch call.now
  if node.committedExact call then
    return { entry with node := some { node with heartbeatSequence := call.sequence } }
  if node.committable call = false then
    .error ⟨"relay_secret_rotation_unsafe", 409, "relay secret rotation unsafe"⟩
  let secret ← registry.checkProof node call
  return { entry with
    node := some (node.committed call secret)
    audits := entry.audits ++ ["relay_secret_rotation_committed"] }

/-- `RelayRotationStatus`. -/
inductive RotationStatus
  | committedExact
  | pending
  | unknown

/-- The transaction that a call asks for is under way. -/
def RelayNode.rotationPending (node : RelayNode) (call : CommitCall) : Bool :=
  node.identityEpoch = call.identityEpoch && node.pendingRotationId = some call.rotationId &&
    node.pendingSecretVersion = some call.secretVersion &&
    node.desiredSecretVersion = call.secretVersion &&
    node.rotationChallenge = some call.rotationChallenge && node.pendingEncryptedTurnSecret.isSome &&
    node.pendingSecretDigest.isSome

/-- **`secret_rotation_status`.** -/
def Entry.secretRotationStatus (entry : Entry) (call : CommitCall) :
    Except RelayRegistryError (Entry × RotationStatus) := do
  if Text.isLowerHex 64 call.probeEvidenceSha256 = false ∨ Text.isLowerHex 64 call.proofMac = false then
    .error (rotationProofInvalid 400)
  let (node, _, _) ← entry.identified call.identity false call.now
  if call.sequence ≤ node.heartbeatSequence then .error heartbeatReplayed
  let status := if node.committedExact call then RotationStatus.committedExact
    else if node.rotationPending call then .pending
    else .unknown
  return ({ entry with node := some { node with heartbeatSequence := call.sequence } }, status)

/-! ### `transition` -/

inductive TransitionAction
  | drain
  | resume

/-- **`transition`.** -/
def Entry.transition (entry : Entry) (action : TransitionAction) : Except RelayRegistryError Entry := do
  let node ← entry.node.elim (.error nodeNotFound) .ok
  if node.state = .revoked then .error (nodeRevoked 409)
  match action with
  | .drain =>
    return { entry with
      node := some { node with
        desiredDraining := true
        state := .draining }
      audits := if node.desiredDraining then entry.audits else entry.audits ++ ["relay_node_drained"] }
  | .resume =>
    if node.rotationInFlight then .error rotationConflict
    if node.desiredDraining ∧ 0 < node.activeAllocations then
      .error ⟨"relay_node_drain_in_progress", 409, "relay node drain in progress"⟩
    return { entry with
      node := some { node with
        desiredDraining := false
        state := .unavailable
        healthyHeartbeatStreak := 0
        leaseExpiresAt := none }
      audits := if node.desiredDraining ∨ node.state = .draining then
        entry.audits ++ ["relay_node_resumed"] else entry.audits }

end MiniRemoteDesktop.Registry
