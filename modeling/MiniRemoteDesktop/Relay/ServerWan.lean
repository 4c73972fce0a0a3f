/-
**WAN relay generations** (`app/services/relay_directory.py`).

Access to a session over the WAN comes in generations. Creating a generation selects nodes, takes as
many new reservations as the grant asks for, signs the directory of their nodes and stores it; either
participant then fetches it, which checks what was stored against the tables and makes credentials.

* `createWanGeneration` — `create_wan_generation_locked`: the reservations after it, the generation that
  it stores, and the grant.
* `validateWanGeneration`, `fetchWanAccess` — what an approval repeated and a fetch check, and what a
  fetch returns.

Both run in a transaction that a failure rolls back, so the reservations that a failed creation releases
by itself are not part of this model. The signed directory is stored as JSON and read back as it was.
-/

import MiniRemoteDesktop.Relay.ServerDirectory

namespace MiniRemoteDesktop.Relay.Server

open Checked Ranking

/-! ### Generations -/

/-- A row of `relay_access_generations`. -/
structure RelayAccessGeneration where
  sessionId : String
  generation : Nat
  directoryId : String
  signedDirectory : SignedRelayDirectory
  (signingKeyId signatureB64 relayUrlDigest primaryNodeId : String)
  reservationIds : List String
  (expiresAt createdAt : Nat)

/-- The target of a session: its row and its public name. -/
structure TargetDevice where
  (id deviceId : String)

def wanReservationSubject (grant : SessionRequest) : Option String :=
  if grant.temporaryPassword then some ("guest-session-" ++ grant.id) else grant.requesterUserId

/-- What the video of a session may take, with the overhead of the relay. -/
def requiredWanEgressBps (grant : SessionRequest) : Except RelayAccessError Nat := do
  let scopes ← grant.approvedScopes.elim (.error .accessDenied) .ok
  if "screen.view" ∉ scopes then return 0
  let bitrateMbps ← (grant.approvedProfile.getD (some 8)).elim (.error .accessDenied) .ok
  if ¬ (1 ≤ bitrateMbps ∧ bitrateMbps ≤ 1000) then .error .accessDenied
  return (bitrateMbps.toNat * 1000000 * 5 + 4 - 1) / 4

/-! ### URLs -/

/-- `_signed_endpoint_host`, which takes the brackets off an address. -/
def signedEndpointHost (host : String) : String :=
  if host.toList.head? = some '[' ∧ host.toList.getLast? = some ']' then
    String.ofList host.toList.tail.dropLast
  else host

def transportText : RelayDirectoryTransport → String
  | .udp => "udp"
  | .tcp => "tcp"
  | .tls => "tls"

def canonicalEndpointUrl (endpoint : RelayDirectoryEndpoint) : String :=
  let host := signedEndpointHost endpoint.host
  let authority := if ':' ∈ host.toList then "[" ++ host ++ "]" else host
  if endpoint.transport = .tls then
    "turns:" ++ authority ++ ":" ++ toString endpoint.port ++ "?transport=tcp"
  else
    "turn:" ++ authority ++ ":" ++ toString endpoint.port ++ "?transport=" ++
      transportText endpoint.transport

/-- `relay_url_digest`; strings sort as their bytes do. -/
def relayUrlDigest (sha256 : Sha256) (urls : List String) : String := sha256Hex (urlsDigest sha256 urls)

/-- `sorted` of strings. -/
def sortedStrings (strings : List String) : List String := sortBy compare strings

/-! ### Creating a generation -/

/-- **The creation of a generation**: what it draws and what it comes to read. -/
structure CreationCall where
  now : Nat
  directoryId : String
  newIds : String → String
  (snapshot locked : Tables)

/-- The candidates: the selected nodes, then the other eligible ones. -/
def orderedCandidates (decision : RelaySelectionDecision) : List RelaySelectedNode :=
  (decision.selected ++ decision.eligible.filter fun item =>
    item.nodeId ∉ decision.selected.map (·.nodeId)).take 8

def requiredCount (policy : SelectionPolicy) : Nat := (1 + policy.maxBackups).toNat

def selectWan (call : CreationCall) (policy : SelectionPolicy) (requiredEgressBps : Nat) :
    Except RelayAccessError (List RelaySelectedNode) := do
  let decision ← required (selectRelayNodes policy
    (loadedViews call.snapshot call.snapshot.reservations call.now) call.now requiredEgressBps)
  if decision.selected.length < requiredCount policy then .error .capacityUnavailable
  return orderedCandidates decision

def wanRequest (call : CreationCall) (grant : SessionRequest) (policy : SelectionPolicy)
    (candidates : List RelaySelectedNode) (subject : String) (expiresAt requiredEgressBps : Nat) :
    ReservationRequest where
  sessionId := grant.id
  userId := subject
  orderedNodeIds := candidates.map (·.nodeId)
  now := call.now
  expiresAt
  directoryGeneration := some call.directoryId
  requiredEgressBps
  preserveGenerationOverlap := true
  requireRegistration := true
  requireDistinctTopology := true
  resultLimit := requiredCount policy

/-- The expiry that a row is given. -/
def coheredRow (kept : List RelayReservation) (row : RelayReservation) : RelayReservation :=
  match kept.find? fun reservation => reservation.id = row.id with
  | some reservation => { row with expiresAt := reservation.expiresAt }
  | none => row

/-- The reservations after `_cohere_reservations`: of those that were taken only `kept` are left. -/
def cohered (taken kept table : List RelayReservation) : List RelayReservation :=
  (table.filter fun row => row.id ∉ taken.map (·.id) ∨ row.id ∈ kept.map (·.id)).map (coheredRow kept)

/-- The admission of a generation: its reservations, their expiry and the table after it. -/
structure WanAdmitted where
  policy : SelectionPolicy
  reservations : List RelayReservation
  expiry : Nat
  table : List RelayReservation

def admitWan (service : RelayAccessService) (grant : SessionRequest) (call : CreationCall) :
    Except RelayAccessError WanAdmitted := do
  let policy ← policyFromGrant grant
  let requiredEgressBps ← requiredWanEgressBps grant
  let candidates ← selectWan call policy requiredEgressBps
  let deadline ← serverDeadline service grant call.now
  if unixSeconds (deadline - call.now) = 0 then .error .accessDenied
  let subject ← (wanReservationSubject grant).elim (.error .accessDenied) .ok
  let (writes, taken) ← fromRepository (reserveCapacity service.maxReservations
    (wanRequest call grant policy candidates subject deadline requiredEgressBps) call.locked.nodes
    call.locked.registrations call.locked.reservations call.newIds)
  if taken.length ≠ requiredCount policy then .error .capacityUnavailable
  let before := preexisting call.locked grant.id call.now
  let (kept, expiry) ← cohereReservations call.locked deadline taken
    (taken.filter fun reservation => reservation.id ∈ before.map (·.id))
  if kept.length ≠ requiredCount policy ∨ expiry ≤ call.now then .error .capacityUnavailable
  return ⟨policy, kept, expiry, cohered taken kept (replay call.locked.reservations writes)⟩

/-- One candidate of the directory, all of it from the locked rows. -/
def wanCandidate (call : CreationCall) (admitted : WanAdmitted) (reservation : RelayReservation) :
    Except RelayAccessError RelayDirectoryCandidate := do
  let (node, registration) ← call.locked.record reservation.nodeId
  let lockedEndpoints := compatibleEndpoints admitted.policy node.endpoints
  if lockedEndpoints = [] then .error .capacityUnavailable
  let endpoints ← sortedParts lockedEndpoints
  return candidateOut node
    (endpoints.map fun endpoint => { endpoint with host := signedEndpointHost endpoint.host })
    lockedEndpoints (node.view registration) (isFirst admitted.reservations reservation) reservation

def wanPayload (service : RelayAccessService) (grant : SessionRequest) (target : TargetDevice)
    (call : CreationCall) (admitted : WanAdmitted) : Except RelayAccessError RelayDirectoryPayload := do
  let candidates ← (byNode admitted.reservations).mapM (wanCandidate call admitted)
  let policyRevision ← required grant.policyRevision
  return {
    formatVersion := 1
    policyRevision
    directoryId := call.directoryId
    issuedAtMs := unixMs call.now
    expiresAtMs := unixMs admitted.expiry
    sessionId := grant.id
    intendedPeerDigest := intendedPeerDigest service.sha256 target.deviceId
    candidates }

/-- The candidate of the first selected node. -/
def preferredCandidate (candidates : List RelayDirectoryCandidate) :
    Except RelayAccessError RelayDirectoryCandidate :=
  required (candidates.find? fun candidate => candidate.selectionReason = "preferred-region")

/-- `_build_and_persist_wan_generation`: the generation, and the reservations after it. -/
def buildWanGeneration (service : RelayAccessService) (grant : SessionRequest) (target : TargetDevice)
    (generation : Nat) (call : CreationCall) :
    Except RelayAccessError (RelayAccessGeneration × List RelayReservation) := do
  let admitted ← admitWan service grant call
  let payload ← wanPayload service grant target call admitted
  let directory ← (service.signer.signPayload payload).mapError fun _ => .signingUnavailable
  let primary ← preferredCandidate payload.candidates
  return (
    { sessionId := grant.id
      generation
      directoryId := payload.directoryId
      signedDirectory := directory
      signingKeyId := directory.signingKeyId
      signatureB64 := directory.signatureB64
      relayUrlDigest := relayUrlDigest service.sha256 (primary.endpoints.map canonicalEndpointUrl)
      primaryNodeId := primary.nodeId
      reservationIds := payload.candidates.map (·.reservation.reservationId)
      expiresAt := admitted.expiry
      createdAt := call.now },
    admitted.table)

/-- The generation that comes next. -/
def nextGeneration (grant : SessionRequest) : Nat :=
  match grant.activeRelayGeneration with
  | none => 0
  | some generation => generation + 1

/-- `create_wan_generation_locked`: the grant, the generation and the reservations after it. -/
def createWanGeneration (service : RelayAccessService) (grant : SessionRequest) (target : TargetDevice)
    (generation : Nat) (call : CreationCall) :
    Except RelayAccessError (SessionRequest × RelayAccessGeneration × List RelayReservation) := do
  if grant.requesterDeviceId = none ∨ grant.targetDeviceId ≠ target.id ∨
      grant.intendedPeerId ≠ some target.id ∨
      grant.status ≠ (if generation = 0 then .requested else .approved) ∨
      generation ≠ nextGeneration grant then .error .accessDenied
  let (persisted, reservations) ← buildWanGeneration service grant target generation call
  return ({ grant with activeRelayGeneration := some generation, status := .approved },
    persisted, reservations)

/-! ### Checking a stored generation -/

def validatePersistedWanGeneration (service : RelayAccessService) (grant : SessionRequest)
    (target : TargetDevice) (persisted : RelayAccessGeneration) (now : Nat) :
    Except RelayAccessError SignedRelayDirectory :=
  let directory := persisted.signedDirectory
  let payload := directory.payload
  let reservationIds := payload.candidates.map (·.reservation.reservationId)
  let primaryIds := (payload.candidates.filter fun candidate =>
    candidate.selectionReason = "preferred-region").map (·.nodeId)
  match payload.candidates.find? (fun candidate => candidate.nodeId = persisted.primaryNodeId),
      service.signer.signPayload payload with
  | some primary, .ok expectedSignature =>
    let urls := primary.endpoints.map canonicalEndpointUrl
    if persisted.sessionId = grant.id ∧ grant.activeRelayGeneration = some persisted.generation ∧
        now < persisted.expiresAt ∧ payload.expiresAtMs = unixMs persisted.expiresAt ∧
        payload.sessionId = grant.id ∧ grant.policyRevision = some payload.policyRevision ∧
        payload.directoryId = persisted.directoryId ∧
        payload.intendedPeerDigest = intendedPeerDigest service.sha256 target.deviceId ∧
        directory.signingKeyId = persisted.signingKeyId ∧
        directory.signatureB64 = persisted.signatureB64 ∧
        expectedSignature.signingKeyId = directory.signingKeyId ∧
        expectedSignature.signatureB64 = directory.signatureB64 ∧
        reservationIds = persisted.reservationIds ∧ primaryIds = [persisted.primaryNodeId] ∧
        urls.all (fun url => (endpointTransport url).isSome) ∧
        relayUrlDigest service.sha256 urls = persisted.relayUrlDigest then .ok directory
    else .error .accessDenied
  | _, _ => .error .accessDenied

/-- What is checked of a stored generation: its directory, and its preferred candidate. -/
theorem validatePersisted_ok {service : RelayAccessService} {grant : SessionRequest}
    {target : TargetDevice} {persisted : RelayAccessGeneration} {directory : SignedRelayDirectory} {now : Nat}
    (valid : validatePersistedWanGeneration service grant target persisted now = .ok directory) :
    directory = persisted.signedDirectory ∧ (directory.payload.candidates.filter fun candidate =>
        candidate.selectionReason = "preferred-region").map (·.nodeId) = [persisted.primaryNodeId] := by
  unfold validatePersistedWanGeneration at valid
  dsimp only at valid
  split at valid
  · split at valid
    next checked =>
      cases valid
      exact ⟨rfl, checked.2.2.2.2.2.2.2.2.2.2.2.2.2.1⟩
    · cases valid
  · cases valid

/-- The check of one candidate against its reservation. -/
def reservationMatches (grant : SessionRequest) (persisted : RelayAccessGeneration)
    (requiredEgressBps : Nat) (reservations : List RelayReservation)
    (candidate : RelayDirectoryCandidate) : Bool :=
  match reservations.find? fun row => row.id = candidate.reservation.reservationId with
  | none => false
  | some row =>
    row.sessionId = grant.id ∧ some row.userId = wanReservationSubject grant ∧
      row.nodeId = candidate.nodeId ∧ row.directoryGeneration = persisted.directoryId ∧
      row.reservedEgressBps = requiredEgressBps ∧ row.supersededAt = none ∧
      row.expiresAt = persisted.expiresAt ∧
      candidate.reservation.expiresAtMs = unixMs row.expiresAt

/-- `_validate_wan_reservations_locked`. -/
def validateWanReservations (grant : SessionRequest) (persisted : RelayAccessGeneration)
    (directory : SignedRelayDirectory) (reservations : List RelayReservation) :
    Except RelayAccessError Unit := do
  let rows := reservations.filter fun row => row.id ∈ persisted.reservationIds
  if rows.length ≠ persisted.reservationIds.length then .error .accessDenied
  let requiredEgressBps ← requiredWanEgressBps grant
  if directory.payload.candidates.all (reservationMatches grant persisted requiredEgressBps rows) = false then
    .error .accessDenied
  else .ok ()

/-- `validate_wan_generation_locked`, with the generation that the table holds. -/
def validateWanGeneration (service : RelayAccessService) (grant : SessionRequest) (target : TargetDevice)
    (stored : Option RelayAccessGeneration) (reservations : List RelayReservation) (now : Nat) :
    Except RelayAccessError RelayAccessGeneration := do
  let persisted ← stored.elim (.error .accessDenied) .ok
  let directory ← validatePersistedWanGeneration service grant target persisted now
  validateWanReservations grant persisted directory reservations
  return persisted

/-! ### Fetching a generation -/

/-- **A call of `_fetch_wan_access`**: the caller, whose name the credentials carry, and what it reads.
`issuedAt` is the clock of the credential service when it issues the credential of a node. -/
structure FetchCall where
  authorized : Bool
  callerDeviceId : String
  (policyRevision generation now : Nat)
  issuedAt : String → Nat
  tables : Tables

/-- The part of `_authorize_wan_access` that is about the grant. -/
def authorizeWanAccess (grant : SessionRequest) (policyRevision generation now : Nat) (authorized : Bool) :
    Except RelayAccessError Unit :=
  if authorized = true ∧ grant.status = .approved ∧ (grant.grantExpiresAt.any fun expiry => now < expiry) ∧
      (grant.policyExpiresAt.any fun expiry => now < expiry) ∧
      grant.policyRevision = some policyRevision ∧ grant.activeRelayGeneration = some generation then .ok ()
  else .error .accessDenied

/-- The row of a candidate is as the directory has it, and may still be used. -/
def servesCandidate (policy : SelectionPolicy) (node : RelayNode) (registration : RelayNodeRegistration)
    (candidate : RelayDirectoryCandidate) : Except RelayAccessError Unit := do
  let registered ← (compatibleEndpoints policy node.endpoints).mapM fun url => required (endpointParts url)
  let registeredUrls := registered.map fun parts => canonicalEndpointUrl (endpointOut parts)
  if sortedStrings (candidate.endpoints.map canonicalEndpointUrl) ≠ sortedStrings registeredUrls ∨
      ¬ (node.state = .available ∨ node.state = .degraded) ∨ node.revokedAt.isSome ∨
      registration.status ≠ .approved ∨ registration.topologyApprovedAt = none ∨
      node.physicalHostId = none ∨ registration.physicalHostId = none ∨
      registration.failureDomain ≠ candidate.failureDomain ∨
      registration.physicalHostId ≠ node.physicalHostId ∨
      node.failureDomain ≠ candidate.failureDomain then .error .accessDenied
  else .ok ()

/-- The credential of one candidate. Its URLs are those of the signed endpoints. -/
def wanCredential (service : RelayAccessService) (grant : SessionRequest) (call : FetchCall)
    (persisted : RelayAccessGeneration) (policy : SelectionPolicy) (candidate : RelayDirectoryCandidate) :
    Except RelayAccessError NodeTurnCredential := do
  let (node, registration) ← (call.tables.records.find? fun record =>
    record.1.nodeId = candidate.nodeId).elim (.error .accessDenied) .ok
  servesCandidate policy node registration candidate
  let certificateExpiresAt ← registration.certificateExpiresAt.elim (.error .accessDenied) .ok
  let leaseExpiresAt ← node.leaseExpiresAt.elim (.error .accessDenied) .ok
  if min certificateExpiresAt leaseExpiresAt < persisted.expiresAt then .error .accessDenied
  let grantExpiresAt ← required grant.grantExpiresAt
  let policyExpiresAt ← required grant.policyExpiresAt
  (service.credentialIssuer.issue (call.issuedAt candidate.nodeId) call.callerDeviceId grant.id node.nodeId
    (candidate.endpoints.map canonicalEndpointUrl) node.encryptedTurnSecret
    ⟨unixSeconds grantExpiresAt, unixSeconds persisted.expiresAt, unixSeconds policyExpiresAt,
      unixSeconds (min certificateExpiresAt leaseExpiresAt)⟩).elim (.error .credentialUnavailable) .ok

/-- `_issue_wan_credentials_locked`. -/
def issueWanCredentials (service : RelayAccessService) (grant : SessionRequest) (call : FetchCall)
    (persisted : RelayAccessGeneration) (directory : SignedRelayDirectory) :
    Except RelayAccessError (List NodeTurnCredential) := do
  validateWanReservations grant persisted directory call.tables.reservations
  let policy ← policyFromGrant grant
  let credentials ← directory.payload.candidates.mapM (wanCredential service grant call persisted policy)
  match directory.payload.candidates.find? fun candidate => candidate.nodeId = persisted.primaryNodeId with
  | none => .error .accessDenied
  | some primary =>
    if relayUrlDigest service.sha256 (primary.endpoints.map canonicalEndpointUrl) ≠
        persisted.relayUrlDigest then .error .accessDenied
    else .ok credentials

/-- `_fetch_wan_access`, with the generation that the table holds under the requested number. -/
def fetchWanAccess (service : RelayAccessService) (grant : SessionRequest) (target : TargetDevice)
    (stored : Option RelayAccessGeneration) (call : FetchCall) :
    Except RelayAccessError RelayAccessResult := do
  authorizeWanAccess grant call.policyRevision call.generation call.now call.authorized
  let persisted ← stored.elim (.error .accessDenied) .ok
  let directory ← validatePersistedWanGeneration service grant target persisted call.now
  let credentials ← issueWanCredentials service grant call persisted directory
  return ⟨directory, credentials, some persisted.generation, some persisted.relayUrlDigest⟩

end MiniRemoteDesktop.Relay.Server
