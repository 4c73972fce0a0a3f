/-
**The relay directory** (`mrd-relay-control`, `directory.rs`).

A directory lists the relay candidates of one session. `validateContract` is the structural check
every directory passes before its signature is looked at; its strict order of the node identifiers
is what lets a candidate be found by its identifier.

* `ContextVerifiedRelayDirectory` — a directory that passed the check.
* `nodeId_injective` — in such a directory a node identifier names one candidate.
-/

import MiniRemoteDesktop.Lib.Checked
import MiniRemoteDesktop.Lib.Text
import Mathlib.Data.List.Nodup

namespace MiniRemoteDesktop.Relay

open Text (bytes)
open Checked

/-! ### Payloads -/

inductive RelayDirectoryTransport
  | udp
  | tcp
  | tls
  deriving DecidableEq

def RelayDirectoryTransport.wireCode : RelayDirectoryTransport → Nat
  | udp => 1
  | tcp => 2
  | tls => 3

structure RelayDirectoryEndpoint where
  transport : RelayDirectoryTransport
  host : String
  port : Nat
  deriving DecidableEq

structure RelayReservation where
  reservationId : String
  expiresAtMs : Nat
  deriving DecidableEq

structure RelayDirectoryCandidate where
  (nodeId region failureDomain : String)
  endpoints : List RelayDirectoryEndpoint
  (capabilities loadClass : Nat)
  selectionReason : String
  reservation : RelayReservation
  deriving DecidableEq

structure RelayDirectoryPayload where
  (formatVersion policyRevision : Nat)
  directoryId : String
  (issuedAtMs expiresAtMs : Nat)
  (sessionId intendedPeerDigest : String)
  candidates : List RelayDirectoryCandidate
  deriving DecidableEq

inductive RelayDirectoryError
  | unsupportedFormatVersion (version : Nat)
  | invalidPolicyRevision
  | policyRevisionMismatch (expected actual : Nat)
  | peerBindingMismatch
  | jsonTooLarge (max : Nat)
  | invalidJson
  | tooManyCandidates (max : Nat)
  | tooManyEndpoints (max : Nat)
  | emptyCandidates
  | emptyEndpoints
  | duplicateNode
  | duplicateEndpoint
  | duplicateReservation
  | nonCanonicalCandidateOrder
  | nonCanonicalEndpointOrder
  | emptyField (field : String)
  | stringTooLong (field : String) (max : Nat)
  | invalidValidityWindow
  | invalidReservation
  | invalidLoadClass
  | notYetValid
  | expired
  | reservationExpired
  | sessionMismatch
  | untrustedSigningKey
  | invalidPublicKey
  | invalidSignatureEncoding
  | invalidSignature
  | canonicalEncodingTooLarge
  deriving DecidableEq

/-! ### The structural check -/

def relayDirectoryFormatVersion : Nat := 1
def maxCandidates : Nat := 8
def maxEndpointsPerCandidate : Nat := 4
def maxStringBytes : Nat := 256

def validateString (field value : String) : Except RelayDirectoryError Unit :=
  if (bytes value).isEmpty then .error (.emptyField field)
  else if maxStringBytes < (bytes value).length then .error (.stringTooLong field maxStringBytes)
  else .ok ()

/-- Walk the adjacent pairs of a list, which must strictly increase. -/
def validateAdjacent {α : Type} (cmp : α → α → Ordering) (equal greater : RelayDirectoryError) :
    List α → Except RelayDirectoryError Unit
  | first :: second :: rest =>
    match cmp first second with
    | .lt => validateAdjacent cmp equal greater (second :: rest)
    | .eq => .error equal
    | .gt => .error greater
  | _ => .ok ()

def validateCandidateOrder (candidates : List RelayDirectoryCandidate) :
    Except RelayDirectoryError Unit :=
  if ¬ (candidates.map fun candidate => bytes candidate.nodeId).Nodup then .error .duplicateNode
  else validateAdjacent (fun left right => compare (bytes left.nodeId) (bytes right.nodeId))
    .duplicateNode .nonCanonicalCandidateOrder candidates

def compareEndpoints (left right : RelayDirectoryEndpoint) : Ordering :=
  (compare left.transport.wireCode right.transport.wireCode).then <|
    (compare (bytes left.host) (bytes right.host)).then (compare left.port right.port)

def validateEndpointOrder (endpoints : List RelayDirectoryEndpoint) :
    Except RelayDirectoryError Unit :=
  if ¬ (endpoints.map fun endpoint => (endpoint.transport, bytes endpoint.host, endpoint.port)).Nodup
  then .error .duplicateEndpoint
  else validateAdjacent compareEndpoints .duplicateEndpoint .nonCanonicalEndpointOrder endpoints

def validateEndpoint (endpoint : RelayDirectoryEndpoint) : Except RelayDirectoryError Unit := do
  validateString "endpoint_host" endpoint.host
  if endpoint.port = 0 then .error (.emptyField "endpoint_port")

namespace RelayDirectoryPayload

/-- The checks on one candidate; `seen` are the reservations of the candidates before it. -/
def validateCandidate (payload : RelayDirectoryPayload) (seen : List (List UInt8))
    (candidate : RelayDirectoryCandidate) : Except RelayDirectoryError Unit := do
  validateString "node_id" candidate.nodeId
  validateString "region" candidate.region
  validateString "failure_domain" candidate.failureDomain
  validateString "selection_reason" candidate.selectionReason
  validateString "reservation_id" candidate.reservation.reservationId
  if bytes candidate.reservation.reservationId ∈ seen then .error .duplicateReservation
  if 3 < candidate.loadClass then .error .invalidLoadClass
  if candidate.reservation.expiresAtMs ≤ payload.issuedAtMs ∨
      payload.expiresAtMs < candidate.reservation.expiresAtMs then .error .invalidReservation
  if candidate.endpoints = [] then .error .emptyEndpoints
  if maxEndpointsPerCandidate < candidate.endpoints.length then
    .error (.tooManyEndpoints maxEndpointsPerCandidate)
  validateEndpointOrder candidate.endpoints
  candidate.endpoints.forM validateEndpoint

def validateCandidates (payload : RelayDirectoryPayload) (seen : List (List UInt8)) :
    List RelayDirectoryCandidate → Except RelayDirectoryError Unit
  | [] => .ok ()
  | candidate :: rest => do
    payload.validateCandidate seen candidate
    payload.validateCandidates (bytes candidate.reservation.reservationId :: seen) rest

def validateContract (payload : RelayDirectoryPayload) : Except RelayDirectoryError Unit := do
  if payload.formatVersion ≠ relayDirectoryFormatVersion then
    .error (.unsupportedFormatVersion payload.formatVersion)
  if payload.policyRevision = 0 then .error .invalidPolicyRevision
  validateString "directory_id" payload.directoryId
  validateString "session_id" payload.sessionId
  validateString "intended_peer_digest" payload.intendedPeerDigest
  if payload.expiresAtMs ≤ payload.issuedAtMs then .error .invalidValidityWindow
  if payload.candidates = [] then .error .emptyCandidates
  if maxCandidates < payload.candidates.length then .error (.tooManyCandidates maxCandidates)
  validateCandidateOrder payload.candidates
  payload.validateCandidates [] payload.candidates

end RelayDirectoryPayload

/-- **A verified directory.** Verification also checks the signature, the session, the policy, the
peer and the time; what every later reader relies on is the structural check. -/
structure ContextVerifiedRelayDirectory where
  payload : RelayDirectoryPayload
  contract : payload.validateContract = .ok ()

/-! ### Node identifiers -/

theorem RelayDirectoryPayload.candidateOrder_ok {payload : RelayDirectoryPayload}
    (contract : payload.validateContract = .ok ()) :
    validateCandidateOrder payload.candidates = .ok () := by
  unfold validateContract at contract
  have contract := guard_ok (guard_ok contract)
  obtain ⟨_, _, contract⟩ := bind_ok contract
  obtain ⟨_, _, contract⟩ := bind_ok contract
  obtain ⟨_, _, contract⟩ := bind_ok contract
  have contract := guard_ok (guard_ok (guard_ok contract))
  obtain ⟨_, ordered, _⟩ := bind_ok contract
  exact ordered

/-- **A node identifier names one candidate.** -/
theorem ContextVerifiedRelayDirectory.nodeId_injective (directory : ContextVerifiedRelayDirectory)
    {first second : RelayDirectoryCandidate} (member : first ∈ directory.payload.candidates)
    (other : second ∈ directory.payload.candidates) (same : first.nodeId = second.nodeId) :
    first = second := by
  have ordered := RelayDirectoryPayload.candidateOrder_ok directory.contract
  unfold validateCandidateOrder at ordered
  split at ordered
  · cases ordered
  rename_i distinct
  exact List.inj_on_of_nodup_map (not_not.mp distinct) member other (by rw [same])

/-- Looking a listed candidate up by its identifier finds that candidate. -/
theorem ContextVerifiedRelayDirectory.find_nodeId (directory : ContextVerifiedRelayDirectory)
    {candidate : RelayDirectoryCandidate} (member : candidate ∈ directory.payload.candidates) :
    (directory.payload.candidates.find? fun other => other.nodeId = candidate.nodeId) =
      some candidate := by
  cases found : directory.payload.candidates.find? fun other => other.nodeId = candidate.nodeId with
  | none =>
    have missing := List.find?_eq_none.mp found candidate member
    simp at missing
  | some other =>
    have same : other.nodeId = candidate.nodeId := by simpa using List.find?_some found
    rw [directory.nodeId_injective (List.mem_of_find?_eq_some found) member same]

end MiniRemoteDesktop.Relay
