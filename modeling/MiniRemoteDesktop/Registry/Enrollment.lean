/-
**Enrolling a relay node** (`app/services/relay_registry.py`, `request_enrollment` to `pickup_enrollment`).

A call with an unused token registers a node, or registers it again when what is stored of it has expired;
a call with a token that was used is a retry, which is told by the digest of what it asks for. The
administrator approves the registration, and the node picks up a certificate with its receipt.

* `RelayNode`, `RelayNodeRegistration`, `RelayEnrollment` — the rows, with the columns that the registry
  reads; `Entry` — what is stored of one node.
* `RelayNode.rotationInFlight`, `RelayNode.effectiveDraining` — what keeps a node out of service.
* `lockedIdentityKind` — whose certificate a request was signed under; `identified_ok` — **what an accepted
  identity is**.
* `EnrollmentCall.material` — what a call amounts to before anything is locked; `requestFields_injective`:
  **its digest is taken of one request only**.
* `Entry.requestEnrollment`, `Entry.approve`, `Entry.pickup`, `Entry.revoke` — the operations on a node.
* `requestEnrollment_ok` — **a call is a retry, or it registers the node**.

Times are microseconds, and digests are bytes, which the source writes in hexadecimal. A node and its
registration are locked by every operation on them, and what fails is rolled back. HMAC, SHA-256, the
cipher of the secrets and X.509 are parameters. What random numbers come to, and the
certificate that the authority signs, come with the call.
-/

import MiniRemoteDesktop.Relay.ServerSelection
import MiniRemoteDesktop.Registry.Base64url
import MiniRemoteDesktop.Relay.Signing

namespace MiniRemoteDesktop.Registry

section

open Checked
open Relay.Server (NodeState RegistrationStatus)

/-! ### Rows -/

structure RelayNode where
  (nodeId region failureDomain : String)
  physicalHostId : Option String
  state : NodeState
  endpoints : List String
  certificateFingerprint : String
  encryptedTurnSecret : List UInt8
  (maxAllocations activeAllocations maxEgressBps currentEgressBps : Int)
  identityEpoch : Nat
  previousIdentitySequence : Option Int
  (activeSecretVersion appliedSecretVersion desiredSecretVersion : Nat)
  desiredDraining : Bool
  (secretNotBefore oldCredentialDeadline pendingSecretVersion : Option Nat)
  (pendingEncryptedTurnSecret pendingSecretDigest : Option (List UInt8))
  pendingRotationId : Option String
  pendingSecretUploadedAt : Option Nat
  (rotationChallenge committedRotationId : Option String)
  committedIdentityEpoch : Option Nat
  committedRotationChallenge : Option String
  (committedProbeEvidence committedProofMac : Option (List UInt8))
  heartbeatSequence : Int
  healthyHeartbeatStreak : Nat
  leaseExpiresAt : Option Nat
  measuredRttMs : Option Int
  recentFailureBps : Int
  revokedAt : Option Nat

structure RelayNodeRegistration where
  (nodeId enrollmentId region failureDomain : String)
  physicalHostId : Option String
  topologyApprovedAt : Option Nat
  endpoints : List String
  (maxAllocations maxEgressBps : Nat)
  (csrPem signingPublicKey : List UInt8)
  encryptedTurnSecret : Option (List UInt8)
  status : RegistrationStatus
  (certificatePem caCertificatePem : Option String)
  certificateExpiresAt : Option Nat
  (requestDigest receiptDigest : Option (List UInt8))
  receiptExpiresAt : Option Nat
  previousCertificateFingerprint : Option String
  previousSigningPublicKey : Option (List UInt8)
  previousCertificateExpiresAt : Option Nat
  renewalRequestId : Option String
  renewalCsrSha256 : Option (List UInt8)
  renewalCertificatePem : Option String
  (renewalCertificateExpiresAt renewalRecordExpiresAt : Option Nat)

structure RelayEnrollment where
  id : String
  tokenDigest : List UInt8
  expiresAt : Nat
  usedAt : Option Nat
  enrolledNodeId : Option String

/-- **What is stored of a node**, with the actions of its audit events. -/
structure Entry where
  node : Option RelayNode
  registration : Option RelayNodeRegistration
  audits : List String

/-- Nothing is stored of a node that never enrolled. -/
def Entry.empty : Entry := ⟨none, none, []⟩

/-! ### Refusals -/

structure RelayRegistryError where
  code : String
  statusCode : Nat
  message : String

def enrollmentInvalid (statusCode : Nat) : RelayRegistryError :=
  ⟨"relay_enrollment_invalid", statusCode, "relay enrollment invalid"⟩

def enrollmentPending (message : String) : RelayRegistryError := ⟨"relay_enrollment_pending", 409, message⟩

def nodeRevoked (statusCode : Nat) : RelayRegistryError :=
  ⟨"relay_node_revoked", statusCode, "relay node revoked"⟩

def certificateInvalid : RelayRegistryError :=
  ⟨"relay_certificate_invalid", 401, "relay certificate invalid"⟩

def heartbeatReplayed : RelayRegistryError :=
  ⟨"relay_heartbeat_replayed", 409, "relay heartbeat replayed"⟩

def nodeNotFound : RelayRegistryError := ⟨"relay_node_not_found", 404, "relay node not found"⟩

def timedelta (seconds : Nat) : Nat := seconds * 1000000

/-! ### Draining -/

namespace RelayNode

variable (node : RelayNode)

/-- `relay_rotation_in_flight`. -/
def rotationInFlight : Bool :=
  node.activeSecretVersion < node.desiredSecretVersion || node.pendingSecretVersion.isSome ||
    node.pendingEncryptedTurnSecret.isSome || node.pendingSecretDigest.isSome ||
    node.pendingRotationId.isSome || node.pendingSecretUploadedAt.isSome ||
    node.rotationChallenge.isSome || node.secretNotBefore.isSome || node.oldCredentialDeadline.isSome

/-- `relay_effective_draining`. -/
def effectiveDraining : Bool := node.desiredDraining || node.rotationInFlight

end RelayNode

/-! ### Identities -/

/-- The certificate that a request was signed under, and its key. -/
structure RelayIdentity where
  (nodeId certificateFingerprint : String)
  signingPublicKey : List UInt8

inductive IdentityKind
  | current
  | previous
  deriving DecidableEq

variable (identity : RelayIdentity) (node : RelayNode) (registration : RelayNodeRegistration)
  (allowPrevious : Bool) (now : Nat)

/-- The certificate is the current one, and has not expired. -/
def currentMatches : Bool :=
  node.certificateFingerprint = identity.certificateFingerprint &&
    registration.signingPublicKey = identity.signingPublicKey &&
    registration.certificateExpiresAt.any (now < ·)

/-- The certificate is the one before, and has not expired. -/
def previousMatches : Bool :=
  registration.previousCertificateFingerprint = some identity.certificateFingerprint &&
    registration.previousSigningPublicKey = some identity.signingPublicKey &&
    registration.previousCertificateExpiresAt.any (now < ·)

def lockedIdentityKind : Except RelayRegistryError IdentityKind :=
  if registration.status = .pending then .error certificateInvalid
  else if currentMatches identity node registration now = false ∧
      (allowPrevious && previousMatches identity registration now) = false then .error certificateInvalid
  else if node.state = .revoked ∨ registration.status = .revoked then .error (nodeRevoked 403)
  else .ok (if currentMatches identity node registration now then .current else .previous)

/-- The rows behind an identity and its kind. -/
def Entry.identified (entry : Entry) (identity : RelayIdentity) (allowPrevious : Bool) (now : Nat) :
    Except RelayRegistryError (RelayNode × RelayNodeRegistration × IdentityKind) := do
  let node ← entry.node.elim (.error certificateInvalid) .ok
  let registration ← entry.registration.elim (.error certificateInvalid) .ok
  let kind ← lockedIdentityKind identity node registration allowPrevious now
  return (node, registration, kind)

variable {identity node registration allowPrevious now}

/-- **An accepted identity.** -/
structure Identified (entry : Entry) (identity : RelayIdentity) (now : Nat) (node : RelayNode)
    (registration : RelayNodeRegistration) (kind : IdentityKind) : Prop where
  foundNode : entry.node = some node
  foundRegistration : entry.registration = some registration
  approved : registration.status = .approved
  active : node.state ≠ .revoked
  current : kind = .current → node.certificateFingerprint = identity.certificateFingerprint
  previous : kind = .previous →
    registration.previousCertificateFingerprint = some identity.certificateFingerprint

theorem identified_ok {entry : Entry} {kind : IdentityKind}
    (done : entry.identified identity allowPrevious now = .ok (node, registration, kind)) :
    Identified entry identity now node registration kind ∧ (allowPrevious = false → kind = .current) := by
  obtain ⟨foundNode, thereNode, done⟩ := bind_ok done
  obtain ⟨foundRegistration, thereRegistration, done⟩ := bind_ok done
  obtain ⟨foundKind, classified, ⟨⟩⟩ := bind_ok done
  obtain ⟨listed, classified⟩ := refused_ok classified
  obtain ⟨matched, classified⟩ := refused_ok classified
  obtain ⟨live, classified⟩ := refused_ok classified
  obtain ⟨active, unrevoked⟩ := not_or.mp live
  have approved : registration.status = .approved := by
    cases status : registration.status with
    | pending => exact absurd status listed
    | approved => rfl
    | revoked => exact absurd status unrevoked
  cases current : currentMatches identity node registration now with
  | true =>
    rw [current] at classified
    cases classified
    unfold currentMatches at current
    simp only [Bool.and_eq_true, decide_eq_true_eq] at current
    exact ⟨⟨required_ok thereNode, required_ok thereRegistration, approved, active,
      fun _ => current.1.1, fun other => nomatch other⟩, fun _ => rfl⟩
  | false =>
    rw [current] at classified
    cases classified
    have allowed : (allowPrevious && previousMatches identity registration now) = true :=
      Bool.eq_true_of_not_eq_false fun fails => matched ⟨current, fails⟩
    obtain ⟨permitted, previous⟩ := Bool.and_eq_true_iff.mp allowed
    unfold previousMatches at previous
    simp only [Bool.and_eq_true, decide_eq_true_eq] at previous
    exact ⟨⟨required_ok thereNode, required_ok thereRegistration, approved, active,
      fun other => (nomatch other), fun _ => previous.1.1⟩, fun forbidden => by
        rw [permitted] at forbidden
        cases forbidden⟩

end

open Bytes Checked
open Relay (pushU32 pushU64)
open Relay.Server (NodeState RegistrationStatus validateEndpoints)
open Text

/-! ### The service -/

/-- `RelaySecretCipher`. A ciphertext is bound to a node, and `encrypt` draws a nonce. -/
structure RelaySecretCipher where
  encrypt : (nonce plaintext : List UInt8) → (nodeId : String) → List UInt8
  decrypt : (ciphertext : List UInt8) → (nodeId : String) → Option (List UInt8)

/-- **The service.** `validateCsr` is the canonical form of a request for a certificate and its key, if it
names the node. -/
structure RelayRegistry where
  pepper : List UInt8
  hmac : (key message : List UInt8) → List UInt8
  sha256 : List UInt8 → List UInt8
  turnSecretCipher : Option RelaySecretCipher
  validateCsr : (csrPem nodeId : String) → Option (List UInt8 × List UInt8)

def RelayRegistry.requirePepper (registry : RelayRegistry) : Except RelayRegistryError Unit :=
  if registry.pepper = [] then
    .error ⟨"relay_enrollment_invalid", 503, "relay enrollment is not configured"⟩
  else .ok ()

/-- Texts that are authenticated. -/
def isAsciiText (text : String) : Bool :=
  20 ≤ text.length && text.length ≤ 512 && text.toList.all fun char => char.toNat < 128

def RelayRegistry.tokenDigest (registry : RelayRegistry) (token : String) :
    Except RelayRegistryError (List UInt8) :=
  if isAsciiText token then
    .ok (registry.hmac registry.pepper (bytes "MRD_RELAY_ENROLLMENT_V1" ++ 0 :: bytes token))
  else .error (enrollmentInvalid 400)

def RelayRegistry.receiptDigest (registry : RelayRegistry) (receipt : String) :
    Except RelayRegistryError (List UInt8) :=
  if isAsciiText receipt then
    .ok (registry.hmac registry.pepper (bytes "MRD_RELAY_RECEIPT_V1" ++ 0 :: bytes receipt))
  else .error (enrollmentInvalid 401)

/-- An ASCII letter in lower case. -/
def lowerByte (byte : UInt8) : UInt8 := if 65 ≤ byte ∧ byte ≤ 90 then byte + 32 else byte

def turnSecretHasMinimumQuality (secret : List UInt8) : Bool :=
  secret.length = 32 && decide (8 ≤ secret.dedup.length) &&
    !(["placeholder", "changeme", "change-me"].any fun marker =>
      (secret.map lowerByte).tails.any fun rest => (bytes marker).isPrefixOf rest)

/-- `_protect_turn_secret`: the digest of a secret, and its ciphertext. -/
def RelayRegistry.protectTurnSecret (registry : RelayRegistry) (encoded nodeId : String)
    (nonce : List UInt8) : Except RelayRegistryError (List UInt8 × List UInt8) := do
  let cipher ← registry.turnSecretCipher.elim
    (.error ⟨"relay_access_unavailable", 503, "relay access unavailable"⟩) .ok
  let decoded ← (decodeCanonicalBase64url encoded 32).elim (.error (enrollmentInvalid 400)) .ok
  if encoded.length ≠ 43 ∨ turnSecretHasMinimumQuality decoded = false then
    .error (enrollmentInvalid 400)
  return (registry.sha256 decoded,
    cipher.encrypt nonce (bytes (encodeUnpaddedBase64url decoded)) nodeId)

/-- `_length_prefixed`, which raises an error for a field that is too long. -/
def lengthPrefixed (fields : List (List UInt8)) : Except RelayRegistryError (List UInt8) :=
  if fields.any fun field => 2 ^ 32 ≤ field.length then .error ⟨"", 500, ""⟩
  else .ok (fields.flatMap fun field => pushU32 field.length ++ field)

/-! ### What a call asks for -/

/-- **A call of `request_enrollment`.** -/
structure EnrollmentCall where
  (token nodeId region failureDomain : String)
  endpoints : List String
  (maxAllocations maxEgressBps : Nat)
  (csrPem turnRestSecret : String)
  (receiptTtlSeconds now : Nat)
  nonce : List UInt8

/-- What a call amounts to. -/
structure EnrollmentMaterial where
  (canonicalCsr signingPublicKey : List UInt8)
  canonicalEndpoints : List String
  (secretDigest encryptedTurnSecret requestDigest tokenDigest : List UInt8)

/-- The fields of `_enrollment_request_digest`. -/
def requestFields (call : EnrollmentCall) (endpoints : List String) (canonicalCsr secretDigest : List UInt8) :
    List (List UInt8) :=
  [bytes call.nodeId, bytes call.region, bytes call.failureDomain,
    pushU32 endpoints.length] ++ endpoints.map bytes ++
    [pushU64 call.maxAllocations, pushU64 call.maxEgressBps, canonicalCsr, secretDigest]

/-- `_enrollment_request_digest`. A capacity that does not fit its eight bytes raises an error. -/
def RelayRegistry.enrollmentRequestDigest (registry : RelayRegistry) (call : EnrollmentCall)
    (endpoints : List String) (canonicalCsr secretDigest : List UInt8) :
    Except RelayRegistryError (List UInt8) := do
  if 2 ^ 64 ≤ call.maxAllocations ∨ 2 ^ 64 ≤ call.maxEgressBps then .error ⟨"", 500, ""⟩
  let fields ← lengthPrefixed (requestFields call endpoints canonicalCsr secretDigest)
  return registry.sha256 (bytes "MRD_RELAY_ENROLLMENT_REQUEST_V1" ++ 0 :: fields)

/-- What `request_enrollment` works out before it locks anything. -/
def EnrollmentCall.material (registry : RelayRegistry) (call : EnrollmentCall) :
    Except RelayRegistryError EnrollmentMaterial := do
  registry.requirePepper
  let (canonicalCsr, signingPublicKey) ←
    (registry.validateCsr call.csrPem call.nodeId).elim (.error (enrollmentInvalid 400)) .ok
  let canonicalEndpoints ← (validateEndpoints call.endpoints).elim
    (.error ⟨"relay_enrollment_invalid", 400, "relay endpoint metrics invalid"⟩) .ok
  let (secretDigest, encryptedTurnSecret) ←
    registry.protectTurnSecret call.turnRestSecret call.nodeId call.nonce
  if ¬ (60 ≤ call.receiptTtlSeconds ∧ call.receiptTtlSeconds ≤ 7 * 86400) then
    .error ⟨"relay_enrollment_invalid", 503, "relay enrollment is not configured"⟩
  let requestDigest ←
    registry.enrollmentRequestDigest call canonicalEndpoints canonicalCsr secretDigest
  let tokenDigest ← registry.tokenDigest call.token
  return ⟨canonicalCsr, signingPublicKey, canonicalEndpoints, secretDigest, encryptedTurnSecret,
    requestDigest, tokenDigest⟩

def RelayRegistry.deriveReceipt (registry : RelayRegistry) (token enrollmentId : String)
    (requestDigest : List UInt8) : Except RelayRegistryError String := do
  let material ← lengthPrefixed [bytes enrollmentId, requestDigest]
  return encodeUnpaddedBase64url (registry.hmac (bytes token)
    (bytes "MRD_RELAY_RECEIPT_DERIVE_V1" ++ 0 :: material))

/-! ### The digest is taken of one request -/

theorem lengthPrefixed_injective {first second : List (List UInt8)} {encoded : List UInt8}
    (one : lengthPrefixed first = .ok encoded) (two : lengthPrefixed second = .ok encoded) :
    first = second := by
  obtain ⟨short, one⟩ := refused_ok one
  obtain ⟨few, two⟩ := refused_ok two
  have within : ∀ {fields : List (List UInt8)},
      ¬ (fields.any fun field => decide (2 ^ 32 ≤ field.length)) = true →
        ∀ field ∈ fields, field.length < 256 ^ Word.width UInt32 := by
    intro fields short field member
    by_contra long
    exact short (List.any_eq_true.mpr ⟨field, member, decide_eq_true (Nat.not_lt.mp long)⟩)
  refine Framing.flatMap_injective (Framing.framed UInt32) (fun field empty => ?_) (within short)
    (within few) ((Except.ok.inj one).trans (Except.ok.inj two).symm)
  have width := congrArg List.length (List.append_eq_nil_iff.mp empty).1
  simp at width

theorem pushU64_injective {first second : Nat} (small : first < 2 ^ 64) (fits : second < 2 ^ 64)
    (same : pushU64 first = pushU64 second) : first = second :=
  (Framing.word UInt64 first second small fits [] [] (congrArg (· ++ []) same)).1

/-- **The fields are those of one request.** -/
theorem requestFields_injective {first second : EnrollmentCall} {endpoints others : List String}
    {csr otherCsr secret otherSecret : List UInt8}
    (same : requestFields first endpoints csr secret = requestFields second others otherCsr otherSecret)
    (small : first.maxAllocations < 2 ^ 64 ∧ first.maxEgressBps < 2 ^ 64)
    (fits : second.maxAllocations < 2 ^ 64 ∧ second.maxEgressBps < 2 ^ 64) :
    first.nodeId = second.nodeId ∧ first.region = second.region ∧
      first.failureDomain = second.failureDomain ∧ endpoints = others ∧
      first.maxAllocations = second.maxAllocations ∧ first.maxEgressBps = second.maxEgressBps ∧
      csr = otherCsr ∧ secret = otherSecret := by
  obtain ⟨front, back⟩ := List.append_inj' same rfl
  simp only [List.cons_append, List.nil_append, List.cons.injEq] at front back
  obtain ⟨node, region, domain, _, texts⟩ := front
  obtain ⟨allocations, egress, requests, secrets, _⟩ := back
  exact ⟨bytes_injective node, bytes_injective region, bytes_injective domain,
    List.map_injective_iff.mpr bytes_injective texts, pushU64_injective small.1 fits.1 allocations,
    pushU64_injective small.2 fits.2 egress, requests, secrets⟩

/-! ### `request_enrollment` -/

def registrationRecoverable (registration : RelayNodeRegistration) (node : Option RelayNode) (now : Nat) :
    Bool :=
  if registration.status = .revoked ∨ (node.any fun node => node.state = .revoked) then false
  else if registration.certificatePem.isSome ∧ registration.certificateExpiresAt.any (now < ·) then false
  else registration.certificateExpiresAt.any (· ≤ now) || registration.receiptExpiresAt.all (· ≤ now)

/-- The registration that a call makes. -/
def enrolledRegistration (call : EnrollmentCall) (material : EnrollmentMaterial) (enrollmentId : String)
    (receiptDigest : List UInt8) : RelayNodeRegistration where
  nodeId := call.nodeId
  enrollmentId
  region := call.region
  failureDomain := call.failureDomain
  physicalHostId := none
  topologyApprovedAt := none
  endpoints := material.canonicalEndpoints
  maxAllocations := call.maxAllocations
  maxEgressBps := call.maxEgressBps
  csrPem := material.canonicalCsr
  signingPublicKey := material.signingPublicKey
  encryptedTurnSecret := some material.encryptedTurnSecret
  status := .pending
  certificatePem := none
  caCertificatePem := none
  certificateExpiresAt := none
  requestDigest := some material.requestDigest
  receiptDigest := some receiptDigest
  receiptExpiresAt := some (call.now + timedelta call.receiptTtlSeconds)
  previousCertificateFingerprint := none
  previousSigningPublicKey := none
  previousCertificateExpiresAt := none
  renewalRequestId := none
  renewalCsrSha256 := none
  renewalCertificatePem := none
  renewalCertificateExpiresAt := none
  renewalRecordExpiresAt := none

/-- A node that is registered again is out of service. -/
def RelayNode.recovered (node : RelayNode) : RelayNode :=
  { node with
    state := .unavailable
    healthyHeartbeatStreak := 0
    leaseExpiresAt := none }

def enrollmentAlreadyUsed : RelayRegistryError :=
  ⟨"relay_enrollment_already_used", 409, "relay enrollment already used"⟩

/-- `_idempotent_enrollment_retry`: the receipt. -/
def idempotentEnrollmentRetry (registry : RelayRegistry) (enrollment : RelayEnrollment)
    (registration : Option RelayNodeRegistration) (token : String) (requestDigest : List UInt8) :
    Except RelayRegistryError String := do
  let registration ← registration.elim (.error enrollmentAlreadyUsed) .ok
  if registration.enrollmentId ≠ enrollment.id ∨ registration.requestDigest ≠ some requestDigest then
    .error enrollmentAlreadyUsed
  let receipt ← registry.deriveReceipt token enrollment.id requestDigest
  let digest ← registry.receiptDigest receipt
  if registration.receiptDigest ≠ some digest then .error enrollmentAlreadyUsed
  return receipt

/-- What a call comes to: the node, the row of the token, and the receipt. -/
structure Enrolled where
  entry : Entry
  enrollment : RelayEnrollment
  receipt : String

/-- **`request_enrollment`**, on the row of its token and on its node. -/
def Entry.requestEnrollment (registry : RelayRegistry) (entry : Entry) (enrollment : RelayEnrollment)
    (call : EnrollmentCall) : Except RelayRegistryError Enrolled := do
  let material ← call.material registry
  if enrollment.tokenDigest ≠ material.tokenDigest then .error (enrollmentInvalid 400)
  if (entry.registration.any fun registration => registration.status = .revoked) ∨
      (entry.node.any fun node => node.state = .revoked) then .error (nodeRevoked 403)
  if enrollment.usedAt.isSome then
    let receipt ← idempotentEnrollmentRetry registry enrollment entry.registration call.token
      material.requestDigest
    return ⟨entry, enrollment, receipt⟩
  if enrollment.expiresAt ≤ call.now then .error (enrollmentInvalid 400)
  if entry.registration.any fun registration =>
      registrationRecoverable registration entry.node call.now = false then
    .error (enrollmentPending "relay enrollment pending")
  if entry.node.isSome ∧ entry.registration = none then
    .error (enrollmentPending "relay node already enrolled")
  let receipt ← registry.deriveReceipt call.token enrollment.id material.requestDigest
  let receiptDigest ← registry.receiptDigest receipt
  let audit := if entry.registration.isSome then "relay_enrollment_reissued"
    else "relay_enrollment_requested"
  return {
    entry :=
      { node := entry.node.map RelayNode.recovered
        registration := some (enrolledRegistration call material enrollment.id receiptDigest)
        audits := entry.audits ++ [audit] }
    enrollment := { enrollment with
      usedAt := some call.now
      enrolledNodeId := some call.nodeId }
    receipt }

/-! ### `approve` -/

/-- `_TOPOLOGY_ID`. -/
def isTopologyId (value : String) : Bool := isIdentifier 128 value

structure ApproveCall where
  (failureDomain physicalHostId : String)
  now : Nat

def Entry.approve (entry : Entry) (call : ApproveCall) : Except RelayRegistryError Entry := do
  if isTopologyId call.failureDomain = false ∨ isTopologyId call.physicalHostId = false then
    .error ⟨"relay_topology_invalid", 400, "relay topology invalid"⟩
  if (entry.registration.any fun registration => registration.status = .revoked) ∨
      (entry.node.any fun node => node.state = .revoked) then .error (nodeRevoked 403)
  let registration ← entry.registration.elim
    (.error (enrollmentPending "relay enrollment not pending")) .ok
  if registration.status ≠ .pending then .error (enrollmentPending "relay enrollment not pending")
  if registration.receiptExpiresAt.all (· ≤ call.now) then .error (enrollmentInvalid 409)
  return { entry with
    registration := some { registration with
      status := .approved
      failureDomain := call.failureDomain
      physicalHostId := some call.physicalHostId
      topologyApprovedAt := some call.now }
    audits := entry.audits ++ ["relay_node_approved"] }

/-! ### `pickup_enrollment` -/

structure IssuedRelayCertificate where
  (certificatePem caCertificatePem fingerprint : String)
  expiresAt : Nat

/-- **A call of `pickup_enrollment`.** Without a certificate the authority is not available. -/
structure PickupCall where
  (enrollmentId receipt : String)
  certificate : Option IssuedRelayCertificate
  now : Nat

structure RelayEnrollmentPickup where
  status : RegistrationStatus
  (certificatePem caCertificatePem : Option String)
  expiresAt : Option Nat

def caUnavailable : RelayRegistryError :=
  ⟨"relay_ca_unavailable", 503, "relay certificate authority unavailable"⟩

/-- A new row, with the defaults of its columns. -/
def RelayNode.new (registration : RelayNodeRegistration) (encryptedTurnSecret : List UInt8)
    (fingerprint : String) : RelayNode where
  nodeId := registration.nodeId
  region := registration.region
  failureDomain := registration.failureDomain
  physicalHostId := registration.physicalHostId
  state := .unavailable
  endpoints := registration.endpoints
  certificateFingerprint := fingerprint
  encryptedTurnSecret
  maxAllocations := registration.maxAllocations
  activeAllocations := 0
  maxEgressBps := registration.maxEgressBps
  currentEgressBps := 0
  identityEpoch := 1
  previousIdentitySequence := none
  activeSecretVersion := 1
  appliedSecretVersion := 1
  desiredSecretVersion := 1
  desiredDraining := false
  secretNotBefore := none
  oldCredentialDeadline := none
  pendingSecretVersion := none
  pendingEncryptedTurnSecret := none
  pendingSecretDigest := none
  pendingRotationId := none
  pendingSecretUploadedAt := none
  rotationChallenge := none
  committedRotationId := none
  committedIdentityEpoch := none
  committedRotationChallenge := none
  committedProbeEvidence := none
  committedProofMac := none
  heartbeatSequence := 0
  healthyHeartbeatStreak := 0
  leaseExpiresAt := none
  measuredRttMs := none
  recentFailureBps := 0
  revokedAt := none

/-- The row of a node that picks up its certificate. What it had of identities, versions and rotations
stays. -/
def RelayNode.pickedUp (node : RelayNode) (registration : RelayNodeRegistration)
    (encryptedTurnSecret : List UInt8) (fingerprint : String) : RelayNode :=
  { node with
    region := registration.region
    failureDomain := registration.failureDomain
    physicalHostId := registration.physicalHostId
    encryptedTurnSecret
    state := .unavailable
    endpoints := registration.endpoints
    certificateFingerprint := fingerprint
    maxAllocations := registration.maxAllocations
    activeAllocations := 0
    maxEgressBps := registration.maxEgressBps
    currentEgressBps := 0
    heartbeatSequence := 0
    healthyHeartbeatStreak := 0
    leaseExpiresAt := none
    revokedAt := none }

/-- The issue of the certificate. -/
def Entry.issueCertificate (entry : Entry) (registration : RelayNodeRegistration)
    (encryptedTurnSecret : List UInt8) (certificate : IssuedRelayCertificate) : Entry where
  node := some (match entry.node with
    | none => RelayNode.new registration encryptedTurnSecret certificate.fingerprint
    | some node => node.pickedUp registration encryptedTurnSecret certificate.fingerprint)
  registration := some { registration with
    certificatePem := some certificate.certificatePem
    caCertificatePem := some certificate.caCertificatePem
    certificateExpiresAt := some certificate.expiresAt }
  audits := entry.audits ++ ["relay_certificate_issued"]

/-- The receipt is that of the enrollment, and nothing has been revoked. -/
def receiptAccepted (node : Option RelayNode) (registration : RelayNodeRegistration)
    (enrollmentId : String) (digest : List UInt8) (now : Nat) : Bool :=
  registration.enrollmentId = enrollmentId && registration.receiptDigest = some digest &&
    registration.receiptExpiresAt.any (now < ·) && registration.status ≠ .revoked &&
    !node.any fun node => node.state = .revoked

/-- The second half of a pickup: the certificate that is there is given out. -/
def Entry.givePickup (entry : Entry) (registration : RelayNodeRegistration) (now : Nat) :
    Except RelayRegistryError (Entry × RelayEnrollmentPickup) :=
  if registration.certificatePem = none ∨ registration.caCertificatePem = none ∨
      registration.certificateExpiresAt.all (· ≤ now) then .error (enrollmentInvalid 401)
  else .ok ({ entry with audits := entry.audits ++ ["relay_certificate_picked_up"] },
    { status := .approved
      certificatePem := registration.certificatePem
      caCertificatePem := registration.caCertificatePem
      expiresAt := registration.certificateExpiresAt })

/-- **`pickup_enrollment`.** -/
def Entry.pickup (registry : RelayRegistry) (entry : Entry) (call : PickupCall) :
    Except RelayRegistryError (Entry × RelayEnrollmentPickup) := do
  registry.requirePepper
  let digest ← registry.receiptDigest call.receipt
  let registration ← entry.registration.elim (.error (enrollmentInvalid 401)) .ok
  if receiptAccepted entry.node registration call.enrollmentId digest call.now = false then
    .error (enrollmentInvalid 401)
  if registration.status = .pending then return (entry, ⟨.pending, none, none, none⟩)
  if registration.topologyApprovedAt = none ∨ registration.physicalHostId = none then
    .error (enrollmentInvalid 409)
  let encryptedTurnSecret ← registration.encryptedTurnSecret.elim (.error (enrollmentInvalid 409)) .ok
  if registration.certificatePem.isSome then entry.givePickup registration call.now
  else
    let certificate ← call.certificate.elim (.error caUnavailable) .ok
    let issued := entry.issueCertificate registration encryptedTurnSecret certificate
    issued.givePickup { registration with
      certificatePem := some certificate.certificatePem
      caCertificatePem := some certificate.caCertificatePem
      certificateExpiresAt := some certificate.expiresAt } call.now

/-! ### `revoke` -/

/-- A revoked node. -/
def RelayNode.revoke (node : RelayNode) (now : Nat) : RelayNode :=
  { node with
    state := .revoked
    revokedAt := some (node.revokedAt.getD now)
    leaseExpiresAt := some now
    healthyHeartbeatStreak := 0 }

def Entry.revoke (entry : Entry) (now : Nat) : Except RelayRegistryError Entry := do
  if entry.node = none ∧ entry.registration = none then .error nodeNotFound
  let alreadyRevoked := (entry.node.any fun node => node.state = .revoked) ||
    entry.registration.any fun registration => registration.status = .revoked
  return {
    node := entry.node.map fun node => node.revoke now
    registration := entry.registration.map fun registration => { registration with status := .revoked }
    audits := if alreadyRevoked then entry.audits else entry.audits ++ ["relay_node_revoked"] }

end MiniRemoteDesktop.Registry
