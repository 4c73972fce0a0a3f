/-
**Issuing relay access** (`app/services/relay_directory.py`, `turn_credentials.py`).

An access is a signed directory of relay candidates and a TURN credential for each of them. The nodes
are first read without locks to select among them; admission then locks the rows of the selected nodes
and takes reservations on them; the directory and the credentials are made from what is at hand by then.

* `Server.canonicalDirectoryBytes` — the encoder, as the source has it; `Server.InModel` — what the
  models of its fields let through.
* `Server.canonicalDirectoryBytes_eq_ok` — it accepts just what is `Canonical`, as the client does,
  and then writes `signingBytes`.
* `same_bytes` — **server and client sign the same bytes**, or neither of them signs.
* `SessionRequest`, `policyFromGrant` — the grant of a session and the policy in it.
* `NodeTurnCredentialService.issue`, `DirectorySigner.signPayload` — one credential, and the signature.
* `issueAccess` — `issue_access` after its authorization.

A `datetime` is a number of microseconds since the epoch, and reading it in milliseconds is exact on
whole seconds only, as in the source. Who may ask for an access is decided by code that is not part of
this model; neither are audits and the re-encryption of secrets.
-/

import MiniRemoteDesktop.Relay.Client
import MiniRemoteDesktop.Relay.Reservations
import Mathlib.Data.List.ReduceOption

namespace MiniRemoteDesktop.Relay

open Bytes Checked Ranking
open RelayDirectoryPayload

namespace Server

/-! ### The encoder of the directory -/

abbrev ValueError := String

def pushString (value : String) : Except ValueError (List UInt8) :=
  let raw := Text.bytes value
  if ¬ (1 ≤ raw.length ∧ raw.length ≤ maxStringBytes) then .error "directory string field is invalid"
  else .ok (pushU32 raw.length ++ raw)

/-- The length of a `set`. -/
def countDistinct {α : Type} [DecidableEq α] (list : List α) : Nat := list.dedup.length

abbrev EndpointKey := Nat × List UInt8 × Nat

def endpointKey (endpoint : RelayDirectoryEndpoint) : EndpointKey :=
  (endpoint.transport.wireCode, Text.bytes endpoint.host, endpoint.port)

/-- The order of tuples. -/
def compareKeys (left right : EndpointKey) : Ordering :=
  (compare left.1 right.1).then ((compare left.2.1 right.2.1).then (compare left.2.2 right.2.2))

def canonicalEndpoint (endpoint : RelayDirectoryEndpoint) : Except ValueError (List UInt8) := do
  let host ← pushString endpoint.host
  return UInt8.ofNat endpoint.transport.wireCode :: (host ++ pushU16 endpoint.port)

def canonicalCandidate (payload : RelayDirectoryPayload) (candidate : RelayDirectoryCandidate) :
    Except ValueError (List UInt8) := do
  let nodeId ← pushString candidate.nodeId
  let region ← pushString candidate.region
  let failureDomain ← pushString candidate.failureDomain
  if ¬ (1 ≤ candidate.endpoints.length ∧ candidate.endpoints.length ≤ maxEndpointsPerCandidate) then
    .error "invalid directory endpoint count"
  let endpointKeys := candidate.endpoints.map endpointKey
  if endpointKeys ≠ sortBy compareKeys endpointKeys ∨
      endpointKeys.length ≠ countDistinct endpointKeys then
    .error "directory endpoints are not canonical"
  let endpoints ← candidate.endpoints.mapM canonicalEndpoint
  let selectionReason ← pushString candidate.selectionReason
  let reservationId ← pushString candidate.reservation.reservationId
  if ¬ (payload.issuedAtMs < candidate.reservation.expiresAtMs ∧
      candidate.reservation.expiresAtMs ≤ payload.expiresAtMs) then
    .error "invalid directory reservation expiry"
  return nodeId ++ (region ++ (failureDomain ++ (pushU32 candidate.endpoints.length ++
    (endpoints.flatten ++ (pushU32 candidate.capabilities ++ (UInt8.ofNat candidate.loadClass ::
      (selectionReason ++ (reservationId ++ pushU64 candidate.reservation.expiresAtMs))))))))

def canonicalDirectoryBytes (payload : RelayDirectoryPayload) : Except ValueError (List UInt8) := do
  if payload.formatVersion ≠ 1 then .error "unsupported directory format version"
  if payload.policyRevision = 0 then .error "invalid directory policy revision"
  if payload.expiresAtMs ≤ payload.issuedAtMs then .error "invalid directory validity window"
  if ¬ (1 ≤ payload.candidates.length ∧ payload.candidates.length ≤ maxCandidates) then
    .error "invalid directory candidate count"
  let nodeIds := payload.candidates.map fun candidate => Text.bytes candidate.nodeId
  if nodeIds ≠ sortBy compare nodeIds ∨ nodeIds.length ≠ countDistinct nodeIds then
    .error "directory candidates are not canonical"
  let reservationIds := payload.candidates.map fun candidate => candidate.reservation.reservationId
  if reservationIds.length ≠ countDistinct reservationIds then
    .error "directory reservations are not unique"
  let directoryId ← pushString payload.directoryId
  let sessionId ← pushString payload.sessionId
  let intendedPeerDigest ← pushString payload.intendedPeerDigest
  let candidates ← payload.candidates.mapM (canonicalCandidate payload)
  let encoded := relayDirectoryContext ++ (pushU16 payload.formatVersion ++
    (pushU64 payload.policyRevision ++ (directoryId ++ (pushU64 payload.issuedAtMs ++
      (pushU64 payload.expiresAtMs ++ (sessionId ++ (intendedPeerDigest ++
        (pushU32 payload.candidates.length ++ candidates.flatten))))))))
  if maxCanonicalBytes < encoded.length then
    .error "directory canonical representation is too large"
  return encoded

/-- **The models of the fields**: `RelayDirectoryPayloadOut` and what it is made of. -/
structure InModel (payload : RelayDirectoryPayload) : Prop where
  formatVersion : payload.formatVersion ≤ 2 ^ 16 - 1
  policyRevision : payload.policyRevision ≤ 2 ^ 64 - 1
  issuedAtMs : payload.issuedAtMs ≤ 2 ^ 64 - 1
  expiresAtMs : payload.expiresAtMs ≤ 2 ^ 64 - 1
  candidates : 1 ≤ payload.candidates.length ∧ payload.candidates.length ≤ 8
  endpoints : ∀ candidate ∈ payload.candidates,
    1 ≤ candidate.endpoints.length ∧ candidate.endpoints.length ≤ 4
  capabilities : ∀ candidate ∈ payload.candidates, candidate.capabilities ≤ 2 ^ 32 - 1
  loadClass : ∀ candidate ∈ payload.candidates, candidate.loadClass ≤ 3
  reservation : ∀ candidate ∈ payload.candidates, candidate.reservation.expiresAtMs ≤ 2 ^ 64 - 1
  port : ∀ candidate ∈ payload.candidates, ∀ endpoint ∈ candidate.endpoints,
    1 ≤ endpoint.port ∧ endpoint.port ≤ 65535

end Server

/-! ### The server -/

namespace Server

theorem countDistinct_eq [DecidableEq α] {list : List α} :
    list.length = countDistinct list ↔ list.Nodup := by
  unfold countDistinct
  constructor
  · intro same
    rw [← List.dedup_eq_self]
    exact (List.dedup_sublist list).eq_of_length same.symm
  · intro nodup
    rw [List.dedup_eq_self.mpr nodup]

theorem pushString_eq_ok :
    pushString value = .ok bytes ↔ Fits value ∧ bytes = stringBytes value := by
  unfold pushString
  constructor
  · intro pushed
    obtain ⟨fits, done⟩ := refused_ok pushed
    exact ⟨not_not.mp fits, (Except.ok.inj done).symm⟩
  · rintro ⟨fits, rfl⟩
    exact if_neg (not_not.mpr fits)

instance : Std.TransCmp compareKeys :=
  inferInstanceAs (Std.TransCmp (compareLex (compareOn fun key : EndpointKey => key.1)
    (compareLex (compareOn fun key => key.2.1) (compareOn fun key => key.2.2))))

instance : Std.LawfulEqCmp compareKeys where
  eq_of_compare := by
    intro a b same
    unfold compareKeys at same
    rw [Ordering.then_eq_eq, Ordering.then_eq_eq] at same
    exact Prod.ext (Std.LawfulEqCmp.eq_of_compare same.1)
      (Prod.ext (Std.LawfulEqCmp.eq_of_compare same.2.1) (Std.LawfulEqCmp.eq_of_compare same.2.2))

theorem sorted_and_distinct [DecidableEq α] {cmp : α → α → Ordering} [Std.TransCmp cmp]
    [Std.LawfulEqCmp cmp] {list : List α} :
    ¬ (list ≠ sortBy cmp list ∨ list.length ≠ countDistinct list) ↔ list.Pairwise (Before cmp) := by
  simp [countDistinct_eq, sortBy_eq_and_nodup]

theorem canonicalEndpoint_eq_ok :
    canonicalEndpoint endpoint = .ok bytes ↔ Fits endpoint.host ∧ bytes = endpoint.signingBytes := by
  unfold canonicalEndpoint
  simp only [bind_eq_ok, pushString_eq_ok]
  constructor
  · rintro ⟨_, ⟨fits, rfl⟩, done⟩
    exact ⟨fits, (Except.ok.inj done).symm⟩
  · rintro ⟨fits, rfl⟩
    exact ⟨_, ⟨fits, rfl⟩, rfl⟩

theorem canonicalCandidate_eq_ok {candidate : RelayDirectoryCandidate}
    (loadClass : candidate.loadClass ≤ 3)
    (ports : ∀ endpoint ∈ candidate.endpoints, 1 ≤ endpoint.port) :
    canonicalCandidate payload candidate = .ok bytes ↔
      candidate.Canonical payload ∧ bytes = candidate.signingBytes := by
  have keys : (candidate.endpoints.map endpointKey).Pairwise (Before compareKeys) ↔
      candidate.endpoints.Pairwise (Before compareEndpoints) := List.pairwise_map
  have each := fun results => @mapM_eq_ok_iff _ _ _ candidate.endpoints canonicalEndpoint results
    (fun endpoint => Fits endpoint.host) (·.signingBytes) fun endpoint _ result =>
      canonicalEndpoint_eq_ok
  simp only [canonicalCandidate, bind_eq_ok, guarded_eq_ok, pushString_eq_ok, sorted_and_distinct, keys,
    each, not_not]
  constructor
  · rintro ⟨_, ⟨nodeId, rfl⟩, _, ⟨region, rfl⟩, _, ⟨failureDomain, rfl⟩, count, ordered, _,
      ⟨hosts, rfl⟩, _, ⟨selectionReason, rfl⟩, _, ⟨reservationId, rfl⟩, window, done⟩
    exact ⟨⟨nodeId, region, failureDomain, selectionReason, reservationId, loadClass, window, count,
      ordered, fun endpoint member => ⟨hosts endpoint member, Nat.pos_iff_ne_zero.mp
        (ports endpoint member)⟩⟩, (Except.ok.inj done).symm⟩
  · rintro ⟨canonical, rfl⟩
    exact ⟨_, ⟨canonical.nodeId, rfl⟩, _, ⟨canonical.region, rfl⟩, _, ⟨canonical.failureDomain, rfl⟩,
      canonical.count, canonical.ordered, _,
      ⟨fun endpoint member => (canonical.endpoints endpoint member).host, rfl⟩, _,
      ⟨canonical.selectionReason, rfl⟩, _, ⟨canonical.reservationId, rfl⟩, canonical.window, rfl⟩

/-- **The server accepts what is canonical**, and encodes it as it stands. -/
theorem canonicalDirectoryBytes_eq_ok (model : InModel payload) :
    canonicalDirectoryBytes payload = .ok bytes ↔ Canonical payload ∧ bytes = payload.signingBytes := by
  have nodes : (payload.candidates.map fun candidate => Text.bytes candidate.nodeId).Pairwise
      (Before compare) ↔ payload.candidates.Pairwise (Before compareNodes) := List.pairwise_map
  have each := fun results => @mapM_eq_ok_iff _ _ _ payload.candidates (canonicalCandidate payload)
    results (fun candidate => candidate.Canonical payload) (·.signingBytes)
    fun candidate member result => canonicalCandidate_eq_ok (model.loadClass candidate member)
      fun endpoint there => (model.port candidate member endpoint there).1
  simp only [canonicalDirectoryBytes, bind_eq_ok, guarded_eq_ok, pushString_eq_ok, sorted_and_distinct,
    nodes, each, not_not, countDistinct_eq, not_le, not_lt]
  constructor
  · rintro ⟨version, revision, window, count, ordered, nodup, _, ⟨directoryId, rfl⟩, _, ⟨sessionId, rfl⟩,
      _, ⟨digest, rfl⟩, _, ⟨all, rfl⟩, short, done⟩
    exact ⟨⟨version, revision, directoryId, sessionId, digest, window, count, ordered, nodup, all, short⟩,
      (Except.ok.inj done).symm⟩
  · rintro ⟨canonical, rfl⟩
    exact ⟨canonical.formatVersion, canonical.policyRevision, canonical.window, canonical.count,
      canonical.ordered, canonical.reservations, _, ⟨canonical.directoryId, rfl⟩, _,
      ⟨canonical.sessionId, rfl⟩, _, ⟨canonical.intendedPeerDigest, rfl⟩, _,
      ⟨canonical.candidates, rfl⟩, canonical.short, rfl⟩

end Server

/-- **Server and client sign the same bytes**, or neither of them signs. -/
theorem same_bytes (payload : RelayDirectoryPayload) (model : Server.InModel payload)
    (bytes : List UInt8) : Server.canonicalDirectoryBytes payload = .ok bytes ↔
      payload.canonicalSigningBytes = .ok bytes := by
  rw [Server.canonicalDirectoryBytes_eq_ok model, canonicalSigningBytes_eq_ok]

theorem same_bytes_sample :
    Server.canonicalDirectoryBytes samplePayload.1 = .ok samplePayload.1.signingBytes := by
  have model : Server.InModel samplePayload.1 := by
    constructor <;> simp [samplePayload, sampleCandidate]
  exact (same_bytes samplePayload.1 model _).mpr samplePayload_signed

end MiniRemoteDesktop.Relay

namespace MiniRemoteDesktop.Relay.Server

open Checked Ranking

/-! ### Errors and instants -/

inductive RelayAccessError
  | accessDenied
  | capacityUnavailable
  | signingUnavailable
  | credentialUnavailable
  /-- An exception of another kind. -/
  | failed

/-- The value behind an attribute that may be `None`. -/
def required {α : Type} (value : Option α) : Except RelayAccessError α := value.elim (.error .failed) .ok

def fromTimestamp (seconds : Nat) : Nat := seconds * 1000000

def unixSeconds (value : Nat) : Nat := value / 1000000

def unixMs (value : Nat) : Nat := value / 1000

/-! ### Grants and policies -/

inductive SessionStatus
  | requested
  | approved
  | rejected
  | expired
  | closed
  | revoked
  deriving DecidableEq

/-- A row of `session_requests`. A profile is read for its bitrate, which may not be a number. -/
structure SessionRequest where
  id : String
  (requesterUserId requesterDeviceId : Option String)
  targetDeviceId : String
  intendedPeerId : Option String
  temporaryPassword : Bool
  status : SessionStatus
  (grantExpiresAt policyRevision policyExpiresAt : Option Nat)
  (relayAllowedRegions relayPreferredRegions : Option (List String))
  relayAcceptedTransports : Option (List RelayTransport)
  relayMaxBackups : Int
  approvedScopes : Option (List String)
  approvedProfile : Option (Option Int)
  activeRelayGeneration : Option Nat

/-- `_bounded_string_tuple`, of regions. -/
def boundedRegions (value : Option (List String)) : List String :=
  let items := value.getD []
  if ¬ (1 ≤ items.length ∧ items.length ≤ 8) ∨ items.any (fun item => item = "" ∨ 64 < item.length) then []
  else fromKeys items

/-- `_bounded_string_tuple`, of transports. -/
def boundedTransports (value : Option (List RelayTransport)) : List RelayTransport :=
  let items := value.getD []
  if ¬ (1 ≤ items.length ∧ items.length ≤ 8) then [] else firstOfEach id [] items

def policyFromGrant (grant : SessionRequest) : Except RelayAccessError SelectionPolicy :=
  let allowed := boundedRegions grant.relayAllowedRegions
  let preferred := boundedRegions grant.relayPreferredRegions
  let accepted := boundedTransports grant.relayAcceptedTransports
  if allowed = [] ∨ preferred = [] ∨ accepted = [] ∨ preferred.any (· ∉ allowed) ∨
      grant.policyRevision.getD 0 = 0 ∨ ¬ (0 ≤ grant.relayMaxBackups ∧ grant.relayMaxBackups ≤ 7) then
    .error .accessDenied
  else .ok
    { allowedRegions := allowed
      preferredRegions := preferred
      acceptedTransports := accepted
      maxBackups := grant.relayMaxBackups
      softAllocationLimitBps := 8500
      weights := .standard }

/-! ### Tables -/

/-- The tables that an access is issued from. -/
structure Tables where
  nodes : List RelayNode
  registrations : List RelayNodeRegistration
  reservations : List RelayReservation

/-- The nodes with their registrations. -/
def Tables.records (tables : Tables) : List (RelayNode × RelayNodeRegistration) :=
  tables.nodes.flatMap fun node =>
    (tables.registrations.filter fun registration => registration.nodeId = node.nodeId).map (node, ·)

/-- `by_id[node_id]`. -/
def Tables.record (tables : Tables) (nodeId : String) :
    Except RelayAccessError (RelayNode × RelayNodeRegistration) :=
  required (tables.records.find? fun record => record.1.nodeId = nodeId)

/-- A node, loaded with the reservations on it. -/
def loaded (reservations : List RelayReservation) (now : Nat) (view : RelayNodeView) : RelayNodeView :=
  { view with
    activeAllocations := view.activeAllocations + (usage reservations view.nodeId now).1
    currentEgressBps := view.currentEgressBps + (usage reservations view.nodeId now).2 }

/-- The nodes as they are selected from. -/
def loadedViews (tables : Tables) (reservations : List RelayReservation) (now : Nat) : List RelayNodeView :=
  tables.records.map fun record => loaded reservations now (record.1.view record.2)

def nodeDeadline (tables : Tables) (nodeId : String) : Except RelayAccessError Nat := do
  let (node, registration) ← tables.record nodeId
  let certificateExpiresAt ← required registration.certificateExpiresAt
  let leaseExpiresAt ← required node.leaseExpiresAt
  return min certificateExpiresAt leaseExpiresAt

/-! ### The expiry of the reservations -/

/-- What becomes of one reservation beside reservations of credentials that are out already. -/
def cohereWith (tables : Tables) (existingReservations : List RelayReservation) (deadline : Nat)
    (reservation : RelayReservation) : Except RelayAccessError (Option RelayReservation) :=
  if reservation.id ∈ existingReservations.map (·.id) then .ok (some reservation)
  else if reservation.expiresAt < deadline then .ok none
  else do
    let nodeDeadline ← nodeDeadline tables reservation.nodeId
    if nodeDeadline < deadline then return none
    return some { reservation with expiresAt := deadline }

/-- The reservations that are kept, and the expiry that they share. -/
def cohereReservations (tables : Tables) (serverDeadline : Nat)
    (reservations existingReservations : List RelayReservation) :
    Except RelayAccessError (List RelayReservation × Nat) :=
  match existingReservations with
  | [] => do
    let deadlines ← reservations.mapM fun reservation => nodeDeadline tables reservation.nodeId
    let rawDeadline := (reservations.map (·.expiresAt) ++ deadlines).foldl min serverDeadline
    let deadline := fromTimestamp (unixSeconds rawDeadline)
    return (reservations.map fun reservation =>
      { reservation with expiresAt := min reservation.expiresAt deadline }, deadline)
  | first :: rest => do
    let deadline := first.expiresAt
    if rest.any (·.expiresAt ≠ deadline) then .error .capacityUnavailable
    let deadlines ← (first :: rest).mapM fun reservation => nodeDeadline tables reservation.nodeId
    if serverDeadline < deadline ∨ deadlines.any (· < deadline) then .error .capacityUnavailable
    let kept ← reservations.mapM (cohereWith tables (first :: rest) deadline)
    return (kept.reduceOption, deadline)

/-! ### Candidates -/

def signedTransport : RelayTransport → RelayDirectoryTransport
  | .udp => .udp
  | .tcp => .tcp
  | .tls => .tls

/-- `RelayDirectoryEndpointOut`. -/
def endpointOut (endpoint : RelayEndpoint) : RelayDirectoryEndpoint :=
  ⟨signedTransport endpoint.transport, endpoint.host, endpoint.port⟩

def compareEndpointKeys (left right : RelayDirectoryEndpoint) : Ordering :=
  compareKeys (endpointKey left) (endpointKey right)

/-- The parts of some endpoints, in order. -/
def sortedParts (urls : List String) : Except RelayAccessError (List RelayDirectoryEndpoint) := do
  let parts ← urls.mapM fun url => required (endpointParts url)
  return sortBy compareEndpointKeys (parts.map endpointOut)

/-- Endpoints in the order of their parts. -/
def sortedUrls (urls : List String) : List String :=
  sortBy (fun left right =>
    match endpointParts left, endpointParts right with
    | some left, some right => compareEndpointKeys (endpointOut left) (endpointOut right)
    | _, _ => .eq) urls

def capabilityBit : RelayTransport → Nat
  | .udp => 1
  | .tcp => 2
  | .tls => 4

/-- `_capabilities`. -/
def capabilitiesOf (endpoints : List String) : Nat :=
  endpoints.foldl (fun result endpoint =>
    match endpointTransport endpoint with
    | some transport => result ||| capabilityBit transport
    | none => result) 0

def loadClass (node : RelayNodeView) : Nat :=
  let utilization := max (ratioBps node.activeAllocations node.maxAllocations)
    (ratioBps node.currentEgressBps node.maxEgressBps)
  if utilization < 5000 then 0
  else if utilization < 7500 then 1
  else if utilization < 9000 then 2
  else 3

/-- `RelayDirectoryCandidateOut`, with what all ways of issuing fill in alike. -/
def candidateOut (node : RelayNode) (endpoints : List RelayDirectoryEndpoint) (urls : List String)
    (view : RelayNodeView) (first : Bool) (reservation : RelayReservation) : RelayDirectoryCandidate where
  nodeId := reservation.nodeId
  region := node.region
  failureDomain := node.failureDomain
  endpoints
  capabilities := capabilitiesOf urls
  loadClass := loadClass view
  selectionReason := if first then "preferred-region" else "failure-domain-backup"
  reservation := ⟨reservation.id, unixMs reservation.expiresAt⟩

/-- The reservations in the order of their nodes; a node has one among them. -/
def byNode (reservations : List RelayReservation) : List RelayReservation :=
  sortBy (compareOn fun reservation => Text.bytes reservation.nodeId) reservations

/-- `selection_order[node_id] == 0`. -/
def isFirst (reservations : List RelayReservation) (reservation : RelayReservation) : Bool :=
  (reservations.head?).any fun first => first.nodeId = reservation.nodeId

def intendedPeerDigest (sha256 : Sha256) (peerId : String) : String :=
  "peer-sha256-" ++ sha256Hex (sha256 (Text.bytes "MRD_RELAY_PEER_V1" ++ [0] ++ Text.bytes peerId))

/-! ### Signatures and credentials -/

/-- `Ed25519RelayDirectorySigner`: its key, and the base64 text of the signature on some bytes. -/
structure DirectorySigner where
  keyId : String
  sign : List UInt8 → String

def DirectorySigner.signPayload (signer : DirectorySigner) (payload : RelayDirectoryPayload) :
    Except ValueError SignedRelayDirectory := do
  let bytes ← canonicalDirectoryBytes payload
  return ⟨payload, signer.keyId, signer.sign bytes⟩

/-- The base64 text of a MAC. -/
structure TurnPassword where
  text : String
  nonempty : Text.bytes text ≠ []
  short : (Text.bytes text).length ≤ 512
  printable : text.toList.any isControl = false

structure NodeTurnCredential where
  nodeId : String
  urls : List String
  (username credential : String)
  expiresAtUnixSeconds : Nat

/-- `password` decrypts the secret of a node and authenticates a username with it. -/
structure NodeTurnCredentialService where
  ttlSeconds : Nat
  password : (encryptedSecret : List UInt8) → (nodeId username : String) → Option TurnPassword

/-- The deadlines of a credential, in seconds. -/
structure CredentialDeadlines where
  (grant directory policy node : Nat)

def isTurnUrl (url : String) : Bool :=
  "turn:".toList.isPrefixOf url.toList || "turns:".toList.isPrefixOf url.toList

def NodeTurnCredentialService.expiresAt (service : NodeTurnCredentialService) (now : Nat)
    (deadlines : CredentialDeadlines) : Nat :=
  min (now + service.ttlSeconds)
    (min deadlines.grant (min deadlines.directory (min deadlines.policy deadlines.node)))

def turnUsername (expiresAt : Nat) (userId sessionId nodeId : String) : String :=
  toString expiresAt ++ ":" ++ userId ++ ":" ++ sessionId ++ ":" ++ nodeId

/-- `None` stands for the exceptions, and `now` is what the clock of the service reads, in seconds. -/
def NodeTurnCredentialService.issue (service : NodeTurnCredentialService) (now : Nat)
    (userId sessionId nodeId : String) (urls : List String) (encryptedSecret : List UInt8)
    (deadlines : CredentialDeadlines) : Option NodeTurnCredential :=
  if credentialScope userId = false ∨ credentialScope sessionId = false ∨
      credentialScope nodeId = false then none
  else if urls = [] ∨ 4 < urls.length ∨ urls.any (fun url => isTurnUrl url = false) then none
  else if service.expiresAt now deadlines ≤ now then none
  else
    let username := turnUsername (service.expiresAt now deadlines) userId sessionId nodeId
    (service.password encryptedSecret nodeId username).map fun password =>
      ⟨nodeId, urls, username, password.text, service.expiresAt now deadlines⟩

/-! ### `issue_access` -/

structure RelayAccessService where
  maxReservations : Nat
  signer : DirectorySigner
  credentialIssuer : NodeTurnCredentialService
  directoryTtlSeconds : Nat
  sha256 : Sha256

structure RelayAccessResult where
  directory : SignedRelayDirectory
  credentials : List NodeTurnCredential
  generation : Option Nat
  relayUrlDigest : Option String

/-- **A call of `issue_access`**: its caller, what it draws, and what it comes to read. `snapshot` is
read without locks, `locked` under those of the admission. `issuedAt` is the clock of the credential
service when it issues the credential of a node. -/
structure AccessCall where
  authorized : Bool
  grant : SessionRequest
  currentUserId : String
  now : Nat
  directoryId : String
  newIds : String → String
  (snapshot locked : Tables)
  issuedAt : String → Nat

/-- The deadline of the server itself, a whole second. -/
def serverDeadline (service : RelayAccessService) (grant : SessionRequest) (now : Nat) :
    Except RelayAccessError Nat := do
  let grantExpiresAt ← required grant.grantExpiresAt
  let policyExpiresAt ← required grant.policyExpiresAt
  let deadline := fromTimestamp (min (unixSeconds (now + fromTimestamp service.directoryTtlSeconds))
    (min (unixSeconds grantExpiresAt) (unixSeconds policyExpiresAt)))
  if deadline ≤ now then .error .accessDenied
  return deadline

/-- How the errors of the repository are reported. -/
def fromRepository {α : Type} : Except RepositoryError α → Except RelayAccessError α
  | .ok value => .ok value
  | .error .invalidSessionId | .error .invalidUserId | .error .sessionOwnerMismatch => .error .accessDenied
  | .error .integrity | .error .stale => .error .failed
  | .error _ => .error .capacityUnavailable

theorem fromRepository_ok {α : Type} {result : Except RepositoryError α} {value : α}
    (done : fromRepository result = .ok value) : result = .ok value := by
  unfold fromRepository at done
  split at done
  · exact congrArg Except.ok (Except.ok.inj done)
  all_goals cases done

/-- The reservations that the session has before the admission. -/
def preexisting (tables : Tables) (sessionId : String) (now : Nat) : List RelayReservation :=
  tables.reservations.filter fun row => row.sessionId = sessionId ∧ now < row.expiresAt

/-- What selection and admission come to. -/
structure Admitted where
  policy : SelectionPolicy
  candidates : List RelaySelectedNode
  reservations : List RelayReservation
  expiry : Nat

/-- The candidates of the selection, best first. -/
def selectAccess (call : AccessCall) (policy : SelectionPolicy) :
    Except RelayAccessError (List RelaySelectedNode) := do
  let others := call.snapshot.reservations.filter (·.sessionId ≠ call.grant.id)
  let decision ← required (selectRelayNodes policy (loadedViews call.snapshot others call.now) call.now 0)
  return decision.eligible.take 8

/-- The request for reservations on the candidates. -/
def accessRequest (call : AccessCall) (policy : SelectionPolicy) (candidates : List RelaySelectedNode)
    (requesterUserId : String) (expiresAt : Nat) : ReservationRequest where
  sessionId := call.grant.id
  userId := requesterUserId
  orderedNodeIds := candidates.map (·.nodeId)
  now := call.now
  expiresAt
  directoryGeneration := some call.directoryId
  requiredEgressBps := 0
  preserveGenerationOverlap := false
  requireRegistration := true
  requireDistinctTopology := true
  resultLimit := (1 + policy.maxBackups).toNat

/-- Selection and admission. -/
def admitAccess (service : RelayAccessService) (call : AccessCall) : Except RelayAccessError Admitted := do
  if call.authorized = false then .error .accessDenied
  let policy ← policyFromGrant call.grant
  let candidates ← selectAccess call policy
  if candidates = [] then .error .capacityUnavailable
  let deadline ← serverDeadline service call.grant call.now
  let requesterUserId ← call.grant.requesterUserId.elim (.error .accessDenied) .ok
  let (_, reservations) ← fromRepository (reserveCapacity service.maxReservations
    (accessRequest call policy candidates requesterUserId deadline) call.locked.nodes
    call.locked.registrations call.locked.reservations call.newIds)
  if reservations = [] then .error .capacityUnavailable
  let before := preexisting call.locked call.grant.id call.now
  let (reservations, expiry) ← cohereReservations call.locked deadline reservations
    (reservations.filter fun reservation => reservation.id ∈ before.map (·.id))
  if reservations = [] ∨ expiry ≤ call.now then .error .capacityUnavailable
  return ⟨policy, candidates, reservations, expiry⟩

/-- One candidate of the directory. Its endpoints are those of the selection, from before the locks. -/
def accessCandidate (call : AccessCall) (admitted : Admitted) (reservation : RelayReservation) :
    Except RelayAccessError RelayDirectoryCandidate := do
  let (node, _) ← call.locked.record reservation.nodeId
  let (before, registration) ← call.snapshot.record reservation.nodeId
  let selected ← required (admitted.candidates.find? fun item => item.nodeId = reservation.nodeId)
  let endpoints ← sortedParts selected.endpoints
  let others := call.snapshot.reservations.filter (·.sessionId ≠ call.grant.id)
  return candidateOut node endpoints selected.endpoints (loaded others call.now (before.view registration))
    (isFirst admitted.reservations reservation) reservation

def accessPayload (service : RelayAccessService) (call : AccessCall) (admitted : Admitted) :
    Except RelayAccessError RelayDirectoryPayload := do
  let policyRevision ← required call.grant.policyRevision
  let intendedPeerId ← required call.grant.intendedPeerId
  let candidates ← (byNode admitted.reservations).mapM (accessCandidate call admitted)
  return {
    formatVersion := 1
    policyRevision
    directoryId := call.directoryId
    issuedAtMs := unixMs call.now
    expiresAtMs := unixMs admitted.expiry
    sessionId := call.grant.id
    intendedPeerDigest := intendedPeerDigest service.sha256 intendedPeerId
    candidates }

/-- The deadlines of the credential for a node. -/
def credentialDeadlines (grant : SessionRequest) (tables : Tables) (expiry : Nat) (nodeId : String) :
    Except RelayAccessError CredentialDeadlines := do
  let grantExpiresAt ← required grant.grantExpiresAt
  let policyExpiresAt ← required grant.policyExpiresAt
  let deadline ← nodeDeadline tables nodeId
  return ⟨unixSeconds grantExpiresAt, unixSeconds expiry, unixSeconds policyExpiresAt, unixSeconds deadline⟩

/-- The credential of one candidate. Its URLs are the endpoints of the locked row. -/
def accessCredential (service : RelayAccessService) (call : AccessCall) (admitted : Admitted)
    (candidate : RelayDirectoryCandidate) : Except RelayAccessError NodeTurnCredential := do
  let (node, _) ← call.locked.record candidate.nodeId
  let deadlines ← credentialDeadlines call.grant call.locked admitted.expiry candidate.nodeId
  (service.credentialIssuer.issue (call.issuedAt candidate.nodeId) call.currentUserId call.grant.id
    node.nodeId (sortedUrls (compatibleEndpoints admitted.policy node.endpoints))
    node.encryptedTurnSecret deadlines).elim (.error .credentialUnavailable) .ok

def issueAccess (service : RelayAccessService) (call : AccessCall) :
    Except RelayAccessError RelayAccessResult := do
  let admitted ← admitAccess service call
  let payload ← accessPayload service call admitted
  let directory ← (service.signer.signPayload payload).mapError fun _ => .signingUnavailable
  let credentials ← payload.candidates.mapM (accessCredential service call admitted)
  return ⟨directory, credentials, none, none⟩

end MiniRemoteDesktop.Relay.Server
