/-
**Relay access** (`mrd-service`, `relay/client.rs`).

What one refresh of the relay directory gives a session: the verified directory, a TURN credential
for some of its nodes, and the evidence of the route a migration to one of the nodes must produce.

SHA-256 is a parameter: any function from bytes to 32 bytes.
-/

import MiniRemoteDesktop.Lib.Table
import MiniRemoteDesktop.Proto
import MiniRemoteDesktop.Relay.Directory
import Mathlib.Data.String.Basic

namespace MiniRemoteDesktop.Relay

/-! ### Errors and contexts -/

inductive RelayClientError
  | invalidContext
  | backendUnavailable
  | unauthorized
  | invalidResponse
  | credentialBinding
  | directory (error : RelayDirectoryError)
  deriving DecidableEq

/-- Everything but an unreachable backend ends the session. -/
def RelayClientError.isTerminalSecurity : RelayClientError → Bool
  | backendUnavailable => false
  | _ => true

abbrev Digest := Vector UInt8 32

/-- SHA-256. -/
abbrev Sha256 := List UInt8 → Digest

def maxIdentifierBytes : Nat := 128

/-- Two lower-case hexadecimal digits of a byte. -/
def hexByte (byte : UInt8) : List Char :=
  [Nat.digitChar (byte.toNat / 16), Nat.digitChar (byte.toNat % 16)]

def relayPeerDigest (sha256 : Sha256) (peerId : String) : Except RelayClientError String :=
  if Text.isIdentifier maxIdentifierBytes peerId then
    let digest := sha256 (Text.bytes "MRD_RELAY_PEER_V1" ++ [0] ++ Text.bytes peerId)
    .ok ("peer-sha256-" ++ String.ofList (digest.toList.flatMap hexByte))
  else .error .invalidContext

/-- **What an access is requested for.** -/
structure RelayAccessContext where
  sessionId : String
  policyRevision : Nat
  intendedPeerId : String
  generation : Option Nat
  refresh : Option Bool
  peerDigest : String
  deriving DecidableEq

namespace RelayAccessContext

def new (sha256 : Sha256) (sessionId : String) (policyRevision : Nat) (intendedPeerId : String) :
    Except RelayClientError RelayAccessContext := do
  if Text.isIdentifier maxIdentifierBytes sessionId = false then .error .invalidContext
  if Text.isIdentifier maxIdentifierBytes intendedPeerId = false then .error .invalidContext
  if policyRevision = 0 ∨ i64Max < policyRevision then .error .invalidContext
  let peerDigest ← relayPeerDigest sha256 intendedPeerId
  return ⟨sessionId, policyRevision, intendedPeerId, none, none, peerDigest⟩

def withGeneration (sha256 : Sha256) (sessionId : String) (policyRevision : Nat)
    (intendedPeerId : String) (generation : Nat) (refresh : Option Bool) :
    Except RelayClientError RelayAccessContext := do
  if i64Max < generation then .error .invalidContext
  let context ← new sha256 sessionId policyRevision intendedPeerId
  return { context with generation := some generation, refresh := refresh }

def forGeneration (sha256 : Sha256) (sessionId : String) (policyRevision : Nat)
    (intendedPeerId : String) (generation : Nat) : Except RelayClientError RelayAccessContext :=
  withGeneration sha256 sessionId policyRevision intendedPeerId generation none

def forRefresh (sha256 : Sha256) (sessionId : String) (policyRevision : Nat)
    (intendedPeerId : String) (generation : Nat) : Except RelayClientError RelayAccessContext :=
  withGeneration sha256 sessionId policyRevision intendedPeerId generation (some true)

def isRefresh (context : RelayAccessContext) : Bool := context.refresh.getD false

end RelayAccessContext

/-! ### Verified access -/

structure ServiceTurnRelayCredentials where
  urls : List String
  (username credential : String)
  expiresAtUnixSeconds : Nat

/-- The four bytes of a length, most significant first. -/
def bigEndian32 (value : Nat) : List UInt8 :=
  [UInt8.ofNat (value / 2 ^ 24), UInt8.ofNat (value / 2 ^ 16), UInt8.ofNat (value / 2 ^ 8),
    UInt8.ofNat value]

def urlsDigest (sha256 : Sha256) (urls : List String) : Digest :=
  sha256 (Text.bytes "MRD_RELAY_URLS_V1" ++ [0] ++
    (urls.mergeSort fun left right => decide (left ≤ right)).flatMap fun url =>
      bigEndian32 (Text.bytes url).length ++ Text.bytes url)

/-- **The route a migration must produce.** -/
structure RelayRouteEvidence where
  (sessionId directoryId nodeId region failureDomain : String)
  generation : Nat
  urlsDigest : Digest
  deriving DecidableEq

structure VerifiedRelayAccess where
  directory : ContextVerifiedRelayDirectory
  credentials : Finmap fun _ : String => ServiceTurnRelayCredentials
  generation : Option Nat
  relayUrlDigest : Option Digest

namespace VerifiedRelayAccess

def credentialsFor (access : VerifiedRelayAccess) (nodeId : String) :
    Option ServiceTurnRelayCredentials :=
  access.credentials.lookup nodeId

/-- The listed candidates. -/
def candidates (access : VerifiedRelayAccess) : List RelayDirectoryCandidate :=
  access.directory.payload.candidates

def routeEvidence (sha256 : Sha256) (access : VerifiedRelayAccess) (nodeId : String)
    (generation : Nat) : Except RelayClientError RelayRouteEvidence :=
  match access.candidates.find? fun candidate => candidate.nodeId = nodeId with
  | none => .error .credentialBinding
  | some candidate =>
    match access.credentialsFor nodeId with
    | none => .error .credentialBinding
    | some credential =>
      .ok
        { sessionId := access.directory.payload.sessionId
          directoryId := access.directory.payload.directoryId
          nodeId := nodeId
          region := candidate.region
          failureDomain := candidate.failureDomain
          generation := generation
          urlsDigest := urlsDigest sha256 credential.urls }

def isFresh (access : VerifiedRelayAccess) (nowMs : Nat) : Bool :=
  decide (nowMs < access.directory.payload.expiresAtMs) &&
    (access.candidates.all fun candidate => decide (nowMs < candidate.reservation.expiresAtMs)) &&
    decide (∀ nodeId ∈ access.credentials.keys, ∀ credential ∈ access.credentialsFor nodeId,
      nowMs / 1000 < credential.expiresAtUnixSeconds)

/-- The evidence of a listed candidate with a credential names that candidate. -/
theorem routeEvidence_of_mem (sha256 : Sha256) {access : VerifiedRelayAccess}
    {candidate : RelayDirectoryCandidate} (member : candidate ∈ access.candidates)
    {credential : ServiceTurnRelayCredentials}
    (known : access.credentialsFor candidate.nodeId = some credential) (generation : Nat) :
    ∃ evidence, access.routeEvidence sha256 candidate.nodeId generation = .ok evidence ∧
      evidence.directoryId = access.directory.payload.directoryId ∧
      evidence.nodeId = candidate.nodeId ∧ evidence.failureDomain = candidate.failureDomain ∧
      evidence.generation = generation := by
  have found := access.directory.find_nodeId member
  unfold routeEvidence candidates
  simp [found, known]

end VerifiedRelayAccess

end MiniRemoteDesktop.Relay
