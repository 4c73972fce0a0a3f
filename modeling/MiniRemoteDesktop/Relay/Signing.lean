/-
**The signed bytes of a relay directory** (`mrd-relay-control`, `directory.rs`).

A signature covers one byte string for each directory: its fields in a fixed order, integers
big-endian, strings behind their length, lists behind their count, and both lists sorted. The check
of the contract only lets sorted lists through, so the sort never changes anything.

* `canonicalSigningBytes` — the bytes that are signed.
* `canonicalSigningBytes_unambiguous` — **equal bytes come from equal directories**, so what a
  signature was made for is the only directory it verifies.
-/

import MiniRemoteDesktop.Lib.Framing
import MiniRemoteDesktop.Lib.Ranking
import MiniRemoteDesktop.Relay.Directory

namespace MiniRemoteDesktop.Relay

open Bytes Checked Framing Ranking
open Word

/-! ### The encoding -/

/-- `b"MRD_RELAY_DIRECTORY_V1"`. -/
def relayDirectoryContext : List UInt8 := Text.bytes "MRD_RELAY_DIRECTORY_V1"

def maxCanonicalBytes : Nat := 16 * 1024

def pushU16 (value : Nat) : List UInt8 := bigEndian (UInt16.ofNat value)
def pushU32 (value : Nat) : List UInt8 := bigEndian (UInt32.ofNat value)
def pushU64 (value : Nat) : List UInt8 := bigEndian (UInt64.ofNat value)

def pushString (field value : String) : Except RelayDirectoryError (List UInt8) := do
  validateString field value
  return pushU32 (Text.bytes value).length ++ Text.bytes value

def canonicalEndpoint (endpoint : RelayDirectoryEndpoint) : Except RelayDirectoryError (List UInt8) := do
  let host ← pushString "endpoint_host" endpoint.host
  return UInt8.ofNat endpoint.transport.wireCode :: (host ++ pushU16 endpoint.port)

def canonicalCandidate (candidate : RelayDirectoryCandidate) :
    Except RelayDirectoryError (List UInt8) := do
  let nodeId ← pushString "node_id" candidate.nodeId
  let region ← pushString "region" candidate.region
  let failureDomain ← pushString "failure_domain" candidate.failureDomain
  let endpoints ← (sortBy compareEndpoints candidate.endpoints).mapM canonicalEndpoint
  let selectionReason ← pushString "selection_reason" candidate.selectionReason
  let reservationId ← pushString "reservation_id" candidate.reservation.reservationId
  return nodeId ++ (region ++ (failureDomain ++ (pushU32 endpoints.length ++ (endpoints.flatten ++
    (pushU32 candidate.capabilities ++ (UInt8.ofNat candidate.loadClass :: (selectionReason ++
      (reservationId ++ pushU64 candidate.reservation.expiresAtMs))))))))

/-- Candidates sort by the bytes of their node identifier. -/
def compareNodes : RelayDirectoryCandidate → RelayDirectoryCandidate → Ordering :=
  compareOn fun candidate => Text.bytes candidate.nodeId

namespace RelayDirectoryPayload

def canonicalSigningBytes (payload : RelayDirectoryPayload) :
    Except RelayDirectoryError (List UInt8) := do
  payload.validateContract
  let directoryId ← pushString "directory_id" payload.directoryId
  let sessionId ← pushString "session_id" payload.sessionId
  let intendedPeerDigest ← pushString "intended_peer_digest" payload.intendedPeerDigest
  let candidates ← (sortBy compareNodes payload.candidates).mapM canonicalCandidate
  let encoded := relayDirectoryContext ++ (pushU16 payload.formatVersion ++
    (pushU64 payload.policyRevision ++ (directoryId ++ (pushU64 payload.issuedAtMs ++
      (pushU64 payload.expiresAtMs ++ (sessionId ++ (intendedPeerDigest ++
        (pushU32 candidates.length ++ candidates.flatten))))))))
  if maxCanonicalBytes < encoded.length then .error .canonicalEncodingTooLarge else .ok encoded

end RelayDirectoryPayload

/-! ### Verification -/

/-- The signature scheme and the text encoding of signatures, which the directory code calls. -/
structure SignatureScheme where
  /-- `VerifyingKey::from_bytes` accepts the key. -/
  validKey : List UInt8 → Bool
  /-- `verify_strict` of a message and a signature under a key. -/
  verifyStrict : List UInt8 → List UInt8 → List UInt8 → Bool
  /-- Standard base64. -/
  decode : List UInt8 → Option (List UInt8)
  encode : List UInt8 → List UInt8

/-- **A signature binds its message**: under one key it verifies for one message only. -/
def SignatureScheme.Binding (scheme : SignatureScheme) : Prop :=
  ∀ key signature message other, scheme.verifyStrict key message signature →
    scheme.verifyStrict key other signature → message = other

structure SignedRelayDirectory where
  payload : RelayDirectoryPayload
  (signingKeyId signatureB64 : String)

open SignedRelayDirectory

structure VerifiedRelayDirectory where
  payload : RelayDirectoryPayload
  canonicalSigningBytes : List UInt8
  deriving DecidableEq

def decodeSignature (scheme : SignatureScheme) (signatureB64 : String) :
    Except RelayDirectoryError (List UInt8) :=
  let text := Text.bytes signatureB64
  if text.isEmpty ∨ 128 < text.length then .error .invalidSignatureEncoding
  else match scheme.decode text with
    | none => .error .invalidSignatureEncoding
    | some signature =>
      if scheme.encode signature ≠ text then .error .invalidSignatureEncoding
      else if signature.length ≠ 64 then .error .invalidSignatureEncoding
      else .ok signature

/-- The key that the signature has to be made with. -/
def trustedKey (scheme : SignatureScheme) (trustedKeys : String → Option (List UInt8))
    (signingKeyId : String) : Except RelayDirectoryError (List UInt8) :=
  match trustedKeys signingKeyId with
  | none => .error .untrustedSigningKey
  | some key =>
    if key.length ≠ 32 then .error .invalidPublicKey
    else if scheme.validKey key then .ok key else .error .invalidPublicKey

def SignedRelayDirectory.verify (scheme : SignatureScheme) (signed : SignedRelayDirectory)
    (trustedKeys : String → Option (List UInt8)) (expectedSessionId : String) (nowMs : Nat) :
    Except RelayDirectoryError VerifiedRelayDirectory := do
  let canonicalSigningBytes ← signed.payload.canonicalSigningBytes
  validateString "signing_key_id" signed.signingKeyId
  if signed.payload.sessionId ≠ expectedSessionId then .error .sessionMismatch
  if nowMs < signed.payload.issuedAtMs then .error .notYetValid
  if signed.payload.expiresAtMs ≤ nowMs then .error .expired
  if signed.payload.candidates.any fun candidate => candidate.reservation.expiresAtMs ≤ nowMs then
    .error .reservationExpired
  let key ← trustedKey scheme trustedKeys signed.signingKeyId
  let signature ← decodeSignature scheme signed.signatureB64
  if scheme.verifyStrict key canonicalSigningBytes signature then
    .ok ⟨signed.payload, canonicalSigningBytes⟩
  else .error .invalidSignature

def maxRelayDirectoryJsonBytes : Nat := 128 * 1024

/-- The checks on a directory that was just parsed; `parse` is the JSON library. -/
def SignedRelayDirectory.fromJson (scheme : SignatureScheme)
    (parse : List UInt8 → Option SignedRelayDirectory) (input : List UInt8) :
    Except RelayDirectoryError SignedRelayDirectory := do
  if maxRelayDirectoryJsonBytes < input.length then .error (.jsonTooLarge maxRelayDirectoryJsonBytes)
  let signed ← (parse input).elim (.error .invalidJson) .ok
  let _ ← signed.payload.canonicalSigningBytes
  validateString "signing_key_id" signed.signingKeyId
  let _ ← decodeSignature scheme signed.signatureB64
  return signed

variable {trustedKeys : String → Option (List UInt8)} {signed : SignedRelayDirectory}

variable {expectedSessionId : String} {scheme : SignatureScheme} {verified : VerifiedRelayDirectory}
  {nowMs : Nat}

/-- A directory that verifies passed the structural check, and nothing in it has expired. -/
theorem verify_current
    (passed : signed.verify scheme trustedKeys expectedSessionId nowMs = .ok verified) :
    verified.payload = signed.payload ∧ signed.payload.validateContract = .ok () ∧
      nowMs < signed.payload.expiresAtMs ∧
      ∀ candidate ∈ signed.payload.candidates, nowMs < candidate.reservation.expiresAtMs := by
  obtain ⟨bytes, encoded, passed⟩ := bind_ok passed
  obtain ⟨_, contract, _⟩ := bind_ok encoded
  obtain ⟨_, _, passed⟩ := bind_ok passed
  obtain ⟨unexpired, passed⟩ := guarded_ok (guard_ok (guard_ok passed))
  obtain ⟨reserved, passed⟩ := guarded_ok passed
  obtain ⟨_, _, passed⟩ := bind_ok passed
  obtain ⟨_, _, passed⟩ := bind_ok passed
  split at passed
  · refine ⟨by rw [← Except.ok.inj passed], contract, Nat.not_le.mp unexpired, ?_⟩
    intro candidate member
    have none := List.any_eq_false.mp (Bool.not_eq_true _ ▸ reserved) candidate member
    exact Nat.not_le.mp fun late => none (decide_eq_true late)
  · cases passed

def SignedRelayDirectory.verifyForContext (scheme : SignatureScheme) (signed : SignedRelayDirectory)
    (trustedKeys : String → Option (List UInt8)) (expectedSessionId : String)
    (expectedPolicyRevision : Nat) (expectedPeerDigest : String) (nowMs : Nat) :
    Except RelayDirectoryError ContextVerifiedRelayDirectory :=
  match passed : signed.verify scheme trustedKeys expectedSessionId nowMs with
  | .error error => .error error
  | .ok verified =>
    if verified.payload.policyRevision ≠ expectedPolicyRevision then
      .error (.policyRevisionMismatch expectedPolicyRevision verified.payload.policyRevision)
    else if verified.payload.intendedPeerDigest ≠ expectedPeerDigest then .error .peerBindingMismatch
    else .ok ⟨verified.payload, (verify_current passed).1 ▸ (verify_current passed).2.1⟩

/-- A directory that passes for a context has not expired, nor has any of its reservations. -/
theorem verifyForContext_ok {expectedPeerDigest : String} {expectedPolicyRevision : Nat}
    {directory : ContextVerifiedRelayDirectory}
    (passed : signed.verifyForContext scheme trustedKeys expectedSessionId expectedPolicyRevision
      expectedPeerDigest nowMs = .ok directory) :
    nowMs < directory.payload.expiresAtMs ∧
      ∀ candidate ∈ directory.payload.candidates, nowMs < candidate.reservation.expiresAtMs := by
  unfold verifyForContext at passed
  split at passed
  · cases passed
  next verified basic =>
    obtain ⟨same, _, unexpired, reserved⟩ := verify_current basic
    obtain ⟨_, passed⟩ := refused_ok passed
    obtain ⟨_, passed⟩ := refused_ok passed
    rw [← Except.ok.inj passed]
    simpa [same] using ⟨unexpired, reserved⟩

/-! ### The plain encoding -/

/-- A string behind its length. -/
def stringBytes (value : String) : List UInt8 := pushU32 (Text.bytes value).length ++ Text.bytes value

def RelayDirectoryEndpoint.signingBytes (endpoint : RelayDirectoryEndpoint) : List UInt8 :=
  UInt8.ofNat endpoint.transport.wireCode :: (stringBytes endpoint.host ++ pushU16 endpoint.port)

def RelayDirectoryCandidate.signingBytes (candidate : RelayDirectoryCandidate) : List UInt8 :=
  stringBytes candidate.nodeId ++ (stringBytes candidate.region ++
    (stringBytes candidate.failureDomain ++ (pushU32 candidate.endpoints.length ++
      (candidate.endpoints.flatMap (·.signingBytes) ++ (pushU32 candidate.capabilities ++
        (UInt8.ofNat candidate.loadClass :: (stringBytes candidate.selectionReason ++
          (stringBytes candidate.reservation.reservationId ++
            pushU64 candidate.reservation.expiresAtMs))))))))

def RelayDirectoryPayload.signingBytes (payload : RelayDirectoryPayload) : List UInt8 :=
  relayDirectoryContext ++ (pushU16 payload.formatVersion ++ (pushU64 payload.policyRevision ++
    (stringBytes payload.directoryId ++ (pushU64 payload.issuedAtMs ++
      (pushU64 payload.expiresAtMs ++ (stringBytes payload.sessionId ++
        (stringBytes payload.intendedPeerDigest ++ (pushU32 payload.candidates.length ++
          payload.candidates.flatMap (·.signingBytes)))))))))

open RelayDirectoryPayload

/-- The string is short enough for its length to be encoded. -/
def Short (value : String) : Prop := (Text.bytes value).length < 256 ^ width UInt32

/-- The endpoint was accepted. -/
def RelayDirectoryEndpoint.Accepted (endpoint : RelayDirectoryEndpoint) : Prop := Short endpoint.host

structure RelayDirectoryCandidate.Accepted (candidate : RelayDirectoryCandidate) : Prop where
  nodeId : Short candidate.nodeId
  region : Short candidate.region
  failureDomain : Short candidate.failureDomain
  count : candidate.endpoints.length < 256 ^ width UInt32
  endpoints : ∀ endpoint ∈ candidate.endpoints, endpoint.Accepted
  selectionReason : Short candidate.selectionReason
  reservationId : Short candidate.reservation.reservationId

structure RelayDirectoryPayload.Accepted (payload : RelayDirectoryPayload) : Prop where
  directoryId : Short payload.directoryId
  sessionId : Short payload.sessionId
  intendedPeerDigest : Short payload.intendedPeerDigest
  count : payload.candidates.length < 256 ^ width UInt32
  candidates : ∀ candidate ∈ payload.candidates, candidate.Accepted

/-! ### What is canonical -/

/-- A string of a directory. -/
def Fits (value : String) : Prop :=
  1 ≤ (Text.bytes value).length ∧ (Text.bytes value).length ≤ maxStringBytes

structure RelayDirectoryEndpoint.Canonical (endpoint : RelayDirectoryEndpoint) : Prop where
  host : Fits endpoint.host
  port : endpoint.port ≠ 0

structure RelayDirectoryCandidate.Canonical (payload : RelayDirectoryPayload)
    (candidate : RelayDirectoryCandidate) : Prop where
  nodeId : Fits candidate.nodeId
  region : Fits candidate.region
  failureDomain : Fits candidate.failureDomain
  selectionReason : Fits candidate.selectionReason
  reservationId : Fits candidate.reservation.reservationId
  loadClass : candidate.loadClass ≤ 3
  window : payload.issuedAtMs < candidate.reservation.expiresAtMs ∧
    candidate.reservation.expiresAtMs ≤ payload.expiresAtMs
  count : 1 ≤ candidate.endpoints.length ∧ candidate.endpoints.length ≤ maxEndpointsPerCandidate
  ordered : candidate.endpoints.Pairwise (Before compareEndpoints)
  endpoints : ∀ endpoint ∈ candidate.endpoints, endpoint.Canonical

/-- **A canonical directory.** -/
structure Canonical (payload : RelayDirectoryPayload) : Prop where
  formatVersion : payload.formatVersion = 1
  policyRevision : payload.policyRevision ≠ 0
  directoryId : Fits payload.directoryId
  sessionId : Fits payload.sessionId
  intendedPeerDigest : Fits payload.intendedPeerDigest
  window : payload.issuedAtMs < payload.expiresAtMs
  count : 1 ≤ payload.candidates.length ∧ payload.candidates.length ≤ maxCandidates
  ordered : payload.candidates.Pairwise (Before compareNodes)
  reservations : (payload.candidates.map fun candidate => candidate.reservation.reservationId).Nodup
  candidates : ∀ candidate ∈ payload.candidates, candidate.Canonical payload
  short : payload.signingBytes.length ≤ maxCanonicalBytes

/-! ### The check -/

variable {value : String}

theorem validateString_eq_ok {field : String} : validateString field value = .ok () ↔ Fits value := by
  unfold validateString Fits
  by_cases empty : Text.bytes value = []
  · simp [empty]
  · have positive := List.length_pos_iff.mpr empty
    rw [if_neg (by simpa using empty), check_ok]
    omega

variable {bytes : List UInt8}

theorem pushString_eq_ok {field : String} :
    pushString field value = .ok bytes ↔ Fits value ∧ bytes = stringBytes value := by
  unfold pushString
  rw [bind_eq_ok]
  constructor
  · rintro ⟨_, valid, done⟩
    exact ⟨validateString_eq_ok.mp valid, (Except.ok.inj done).symm⟩
  · rintro ⟨fits, rfl⟩
    exact ⟨(), validateString_eq_ok.mpr fits, rfl⟩

variable {α : Type}

theorem validateAdjacent_eq_ok {cmp : α → α → Ordering} [Std.TransCmp cmp]
    {equal greater : RelayDirectoryError} {list : List α} :
    validateAdjacent cmp equal greater list = .ok () ↔ list.Pairwise (Before cmp) := by
  induction list with
  | nil => exact ⟨fun _ => .nil, fun _ => rfl⟩
  | cons first rest ih =>
    rcases rest with _ | ⟨second, rest⟩
    · exact ⟨fun _ => List.pairwise_singleton _ _, fun _ => rfl⟩
    rw [validateAdjacent, List.pairwise_cons, List.forall_mem_cons]
    unfold Before
    cases compared : cmp first second with
    | lt =>
      rw [ih]
      refine ⟨fun later => ⟨⟨rfl, fun other member => ?_⟩, later⟩, And.right⟩
      exact Before.trans compared ((List.pairwise_cons.mp later).1 other member)
    | eq | gt => exact ⟨nofun, fun ordered => nomatch ordered.1.1⟩

instance : Std.TransCmp compareNodes :=
  inferInstanceAs (Std.TransCmp (compareOn _))

instance : Std.TransCmp compareEndpoints :=
  inferInstanceAs (Std.TransCmp (compareLex
    (compareOn fun endpoint : RelayDirectoryEndpoint => endpoint.transport.wireCode)
    (compareLex (compareOn fun endpoint => Text.bytes endpoint.host) (compareOn (·.port)))))

variable {candidates : List RelayDirectoryCandidate}

theorem validateCandidateOrder_eq_ok :
    validateCandidateOrder candidates = .ok () ↔ candidates.Pairwise (Before compareNodes) := by
  constructor
  · intro ordered
    exact validateAdjacent_eq_ok.mp (refused_ok ordered).2
  · intro ordered
    have distinct : (candidates.map fun candidate => Text.bytes candidate.nodeId).Nodup := by
      refine List.pairwise_map.mpr (ordered.imp fun {a b} before same => ?_)
      have equal : compareNodes a b = .eq := by
        show compare (Text.bytes a.nodeId) (Text.bytes b.nodeId) = .eq
        simp [same]
      cases equal.symm.trans before
    unfold validateCandidateOrder
    rw [if_neg (not_not.mpr distinct)]
    exact (@validateAdjacent_eq_ok _ compareNodes _ _ _ _).mpr ordered

theorem validateEndpointOrder_eq_ok {endpoints : List RelayDirectoryEndpoint} :
    validateEndpointOrder endpoints = .ok () ↔ endpoints.Pairwise (Before compareEndpoints) := by
  constructor
  · intro ordered
    exact validateAdjacent_eq_ok.mp (refused_ok ordered).2
  · intro ordered
    have distinct : (endpoints.map fun endpoint =>
        (endpoint.transport, Text.bytes endpoint.host, endpoint.port)).Nodup := by
      refine List.pairwise_map.mpr (ordered.imp fun {a b} before same => ?_)
      have equal : a = b := by
        obtain ⟨transport, same⟩ := Prod.mk.inj same
        obtain ⟨host, port⟩ := Prod.mk.inj same
        obtain ⟨_, _, _⟩ := a
        obtain ⟨_, _, _⟩ := b
        cases transport
        cases Text.bytes_injective host
        cases port
        rfl
      subst equal
      exact Before.irrefl a before
    unfold validateEndpointOrder
    rw [if_neg (not_not.mpr distinct), validateAdjacent_eq_ok]
    exact ordered

variable {endpoint : RelayDirectoryEndpoint}

theorem validateEndpoint_eq_ok :
    validateEndpoint endpoint = .ok () ↔ endpoint.Canonical := by
  unfold validateEndpoint
  rw [bind_eq_ok]
  constructor
  · rintro ⟨_, valid, positive⟩
    exact ⟨validateString_eq_ok.mp valid, check_ok.mp positive⟩
  · rintro ⟨fits, positive⟩
    exact ⟨(), validateString_eq_ok.mpr fits, check_ok.mpr positive⟩

theorem forM_eq_ok {ε : Type} {check : α → Except ε Unit} {list : List α} :
    list.forM check = .ok () ↔ ∀ a ∈ list, check a = .ok () := by
  induction list with
  | nil => exact ⟨fun _ => List.forall_mem_nil _, fun _ => rfl⟩
  | cons a rest ih =>
    show (check a >>= fun _ => rest.forM check) = .ok () ↔ _
    rw [bind_eq_ok, exists_unit, List.forall_mem_cons, ih]

variable {candidate : RelayDirectoryCandidate}

variable {payload : RelayDirectoryPayload}

variable {seen : List (List UInt8)}

theorem validateCandidate_eq_ok :
    payload.validateCandidate seen candidate = .ok () ↔ candidate.Canonical payload ∧
      Text.bytes candidate.reservation.reservationId ∉ seen := by
  simp only [validateCandidate, bind_eq_ok, guarded_eq_ok, exists_unit,
    validateString_eq_ok, validateEndpointOrder_eq_ok, forM_eq_ok, validateEndpoint_eq_ok, not_lt,
    not_or, not_le]
  constructor
  · rintro ⟨nodeId, region, failureDomain, selectionReason, reservationId, fresh, loadClass, window,
      some, few, ordered, endpoints⟩
    exact ⟨⟨nodeId, region, failureDomain, selectionReason, reservationId, loadClass, window,
      ⟨List.length_pos_iff.mpr some, few⟩, ordered, endpoints⟩, fresh⟩
  · rintro ⟨canonical, fresh⟩
    exact ⟨canonical.nodeId, canonical.region, canonical.failureDomain, canonical.selectionReason,
      canonical.reservationId, fresh, canonical.loadClass, canonical.window,
      List.length_pos_iff.mp canonical.count.1, canonical.count.2, canonical.ordered,
      canonical.endpoints⟩

theorem validateCandidates_eq_ok :
    payload.validateCandidates seen candidates = .ok () ↔
      (∀ candidate ∈ candidates, candidate.Canonical payload) ∧
        (candidates.map fun candidate => candidate.reservation.reservationId).Nodup ∧
          ∀ candidate ∈ candidates, Text.bytes candidate.reservation.reservationId ∉ seen := by
  induction candidates generalizing seen with
  | nil => exact ⟨fun _ => ⟨List.forall_mem_nil _, List.nodup_nil, List.forall_mem_nil _⟩, fun _ => rfl⟩
  | cons candidate rest ih =>
    rw [validateCandidates, bind_eq_ok, exists_unit]
    simp only [validateCandidate_eq_ok, ih, List.forall_mem_cons, List.map_cons, List.nodup_cons,
      List.mem_map, not_exists, not_and]
    simp only [List.mem_cons, not_or]
    constructor
    · rintro ⟨⟨canonical, fresh⟩, all, nodup, unseen⟩
      exact ⟨⟨canonical, all⟩, ⟨fun other member same =>
        (unseen other member).1 (congrArg Text.bytes same), nodup⟩, fresh,
        fun other member => (unseen other member).2⟩
    · rintro ⟨⟨canonical, all⟩, ⟨distinct, nodup⟩, fresh, unseen⟩
      exact ⟨⟨canonical, fresh⟩, all, nodup, fun other member =>
        ⟨fun same => distinct other member (Text.bytes_injective same), unseen other member⟩⟩

theorem canonicalEndpoint_eq_ok :
    canonicalEndpoint endpoint = .ok bytes ↔ Fits endpoint.host ∧ bytes = endpoint.signingBytes := by
  unfold canonicalEndpoint
  simp only [bind_eq_ok, pushString_eq_ok]
  constructor
  · rintro ⟨_, ⟨fits, rfl⟩, done⟩
    exact ⟨fits, (Except.ok.inj done).symm⟩
  · rintro ⟨fits, rfl⟩
    exact ⟨_, ⟨fits, rfl⟩, rfl⟩

/-- A candidate that the check lets through is encoded. -/
theorem canonicalCandidate_eq_ok (canonical : candidate.Canonical payload) :
    canonicalCandidate candidate = .ok candidate.signingBytes := by
  have endpoints : (sortBy compareEndpoints candidate.endpoints).mapM canonicalEndpoint =
      .ok (candidate.endpoints.map (·.signingBytes)) := by
    rw [sortBy_of_pairwise canonical.ordered]
    exact mapM_ok fun endpoint member =>
      canonicalEndpoint_eq_ok.mpr ⟨(canonical.endpoints endpoint member).host, rfl⟩
  unfold canonicalCandidate
  simp only [bind_eq_ok, pushString_eq_ok]
  refine ⟨_, ⟨canonical.nodeId, rfl⟩, _, ⟨canonical.region, rfl⟩, _, ⟨canonical.failureDomain, rfl⟩, _,
    endpoints, _, ⟨canonical.selectionReason, rfl⟩, _, ⟨canonical.reservationId, rfl⟩, ?_⟩
  rw [List.length_map]
  rfl

theorem validateContract_eq_ok : payload.validateContract = .ok () ↔ payload.formatVersion = 1 ∧
    payload.policyRevision ≠ 0 ∧ Fits payload.directoryId ∧ Fits payload.sessionId ∧
    Fits payload.intendedPeerDigest ∧ payload.issuedAtMs < payload.expiresAtMs ∧
    payload.candidates ≠ [] ∧ payload.candidates.length ≤ maxCandidates ∧
    payload.candidates.Pairwise (Before compareNodes) ∧
    (∀ candidate ∈ payload.candidates, candidate.Canonical payload) ∧
    (payload.candidates.map fun candidate => candidate.reservation.reservationId).Nodup := by
  simp only [validateContract, bind_eq_ok, guarded_eq_ok, exists_unit, not_not, validateString_eq_ok,
    validateCandidateOrder_eq_ok, validateCandidates_eq_ok, not_le, not_lt, relayDirectoryFormatVersion,
    List.not_mem_nil, not_false_eq_true, implies_true, and_true]

/-- What passes the check is encoded as it stands, if that is short enough. -/
theorem canonicalSigningBytes_of_contract (contract : payload.validateContract = .ok ()) :
    payload.canonicalSigningBytes = if maxCanonicalBytes < payload.signingBytes.length then
      .error .canonicalEncodingTooLarge else .ok payload.signingBytes := by
  obtain ⟨_, _, directoryId, sessionId, digest, _, _, _, ordered, all, _⟩ := validateContract_eq_ok.mp contract
  have candidates : (sortBy compareNodes payload.candidates).mapM canonicalCandidate =
      .ok (payload.candidates.map (·.signingBytes)) := by
    rw [sortBy_of_pairwise ordered]
    exact mapM_ok fun candidate member => canonicalCandidate_eq_ok (all candidate member)
  have pushed {field value : String} (fits : Fits value) : pushString field value = .ok (stringBytes value) :=
    pushString_eq_ok.mpr ⟨fits, rfl⟩
  unfold canonicalSigningBytes
  rw [contract, pushed directoryId, pushed sessionId, pushed digest, candidates]
  simp only [signingBytes, List.flatMap, ← @List.length_map _ _ payload.candidates (·.signingBytes)]
  rfl

/-- **The client accepts what is canonical**, and encodes it as it stands. -/
theorem canonicalSigningBytes_eq_ok :
    payload.canonicalSigningBytes = .ok bytes ↔ Canonical payload ∧ bytes = payload.signingBytes := by
  constructor
  · intro encoded
    obtain ⟨_, contract, _⟩ := bind_ok encoded
    rw [canonicalSigningBytes_of_contract contract] at encoded
    obtain ⟨short, done⟩ := refused_ok encoded
    obtain ⟨version, revision, directoryId, sessionId, digest, window, some, few, ordered, all, nodup⟩ :=
      validateContract_eq_ok.mp contract
    exact ⟨⟨version, revision, directoryId, sessionId, digest, window, ⟨List.length_pos_iff.mpr some, few⟩,
      ordered, nodup, all, Nat.not_lt.mp short⟩, (Except.ok.inj done).symm⟩
  · rintro ⟨canonical, rfl⟩
    rw [canonicalSigningBytes_of_contract, if_neg (Nat.not_lt.mpr canonical.short)]
    exact validateContract_eq_ok.mpr ⟨canonical.formatVersion, canonical.policyRevision,
      canonical.directoryId, canonical.sessionId, canonical.intendedPeerDigest, canonical.window,
      List.length_pos_iff.mp canonical.count.1, canonical.count.2, canonical.ordered,
      canonical.candidates, canonical.reservations⟩

theorem Fits.short (fits : Fits value) : Short value := lt_of_le_of_lt fits.2 (by decide)

theorem Canonical.accepted (canonical : Canonical payload) : payload.Accepted :=
  ⟨canonical.directoryId.short, canonical.sessionId.short, canonical.intendedPeerDigest.short,
    lt_of_le_of_lt canonical.count.2 (by decide), fun candidate member =>
      have inner := canonical.candidates candidate member
      ⟨inner.nodeId.short, inner.region.short, inner.failureDomain.short,
        lt_of_le_of_lt inner.count.2 (by decide),
        fun endpoint listed => (inner.endpoints endpoint listed).host.short,
        inner.selectionReason.short, inner.reservationId.short⟩⟩

/-! ### Reading the fields back -/

/-- **The numbers of a payload are in the range of their machine types**: `u16`, `u32`, `u64` and
`u8`. -/
structure RelayDirectoryPayload.InRange (payload : RelayDirectoryPayload) : Prop where
  formatVersion : payload.formatVersion < 256 ^ width UInt16
  policyRevision : payload.policyRevision < 256 ^ width UInt64
  issuedAtMs : payload.issuedAtMs < 256 ^ width UInt64
  expiresAtMs : payload.expiresAtMs < 256 ^ width UInt64
  capabilities : ∀ candidate ∈ payload.candidates, candidate.capabilities < 256 ^ width UInt32
  loadClass : ∀ candidate ∈ payload.candidates, candidate.loadClass < 256 ^ width UInt8
  reservation : ∀ candidate ∈ payload.candidates, candidate.reservation.expiresAtMs < 256 ^ width UInt64
  port : ∀ candidate ∈ payload.candidates, ∀ endpoint ∈ candidate.endpoints,
    endpoint.port < 256 ^ width UInt16

/-- A payload as the source has it, every number of its machine type. -/
def MachinePayload : Type := { payload : RelayDirectoryPayload // payload.InRange }

theorem string_delimits : SelfDelimiting Short stringBytes :=
  (framed UInt32).comp Text.bytes_injective

theorem wireCode_injective : Function.Injective fun transport : RelayDirectoryTransport =>
    UInt8.ofNat transport.wireCode := by
  intro first second same
  cases first <;> cases second <;> first | rfl | cases same

theorem endpoint_delimits : SelfDelimiting
    (fun endpoint : RelayDirectoryEndpoint => endpoint.Accepted ∧ endpoint.port < 256 ^ width UInt16)
    (·.signingBytes) := by
  rintro first second ⟨short, fits⟩ ⟨small, within⟩ left right same
  simp only [RelayDirectoryEndpoint.signingBytes, List.cons_append, List.append_assoc] at same
  obtain ⟨code, same⟩ := List.cons.inj same
  obtain ⟨host, same⟩ := string_delimits _ _ short small _ _ same
  obtain ⟨port, rest⟩ := word UInt16 _ _ fits within _ _ same
  obtain ⟨transport, _, _⟩ := first
  obtain ⟨other, _, _⟩ := second
  cases wireCode_injective code
  cases host
  cases port
  exact ⟨rfl, rest⟩

/-- The numbers of a candidate are in range. -/
structure RelayDirectoryCandidate.InRange (candidate : RelayDirectoryCandidate) : Prop where
  accepted : candidate.Accepted
  capabilities : candidate.capabilities < 256 ^ width UInt32
  loadClass : candidate.loadClass < 256 ^ width UInt8
  reservation : candidate.reservation.expiresAtMs < 256 ^ width UInt64
  port : ∀ endpoint ∈ candidate.endpoints, endpoint.port < 256 ^ width UInt16

theorem endpoints_within (inRange : candidate.InRange) :
    ∀ endpoint ∈ candidate.endpoints, endpoint.Accepted ∧ endpoint.port < 256 ^ width UInt16 :=
  fun endpoint member => ⟨inRange.accepted.endpoints endpoint member, inRange.port endpoint member⟩

theorem candidate_delimits :
    SelfDelimiting RelayDirectoryCandidate.InRange RelayDirectoryCandidate.signingBytes := by
  intro first second inside other left right same
  simp only [RelayDirectoryCandidate.signingBytes, List.cons_append, List.append_assoc] at same
  obtain ⟨nodeId, same⟩ := string_delimits _ _ inside.accepted.nodeId other.accepted.nodeId _ _ same
  obtain ⟨region, same⟩ := string_delimits _ _ inside.accepted.region other.accepted.region _ _ same
  obtain ⟨failureDomain, same⟩ :=
    string_delimits _ _ inside.accepted.failureDomain other.accepted.failureDomain _ _ same
  obtain ⟨count, same⟩ := word UInt32 _ _ inside.accepted.count other.accepted.count _ _ same
  obtain ⟨endpoints, same⟩ :=
    flatMap_inj endpoint_delimits (endpoints_within inside) (endpoints_within other) count same
  obtain ⟨capabilities, same⟩ := word UInt32 _ _ inside.capabilities other.capabilities _ _ same
  obtain ⟨byte, same⟩ := List.cons.inj same
  have loadClass : first.loadClass = second.loadClass := by
    have read := congrArg UInt8.toNat byte
    rwa [UInt8.toNat_ofNat_of_lt' inside.loadClass, UInt8.toNat_ofNat_of_lt' other.loadClass] at read
  obtain ⟨selectionReason, same⟩ :=
    string_delimits _ _ inside.accepted.selectionReason other.accepted.selectionReason _ _ same
  obtain ⟨reservationId, same⟩ :=
    string_delimits _ _ inside.accepted.reservationId other.accepted.reservationId _ _ same
  obtain ⟨expiresAtMs, rest⟩ := word UInt64 _ _ inside.reservation other.reservation _ _ same
  obtain ⟨_, _, _, _, _, _, _, _, _⟩ := first
  obtain ⟨_, _, _, _, _, _, _, _, _⟩ := second
  cases nodeId
  cases region
  cases failureDomain
  cases endpoints
  cases capabilities
  cases loadClass
  cases selectionReason
  cases reservationId
  cases expiresAtMs
  exact ⟨rfl, rest⟩

theorem candidates_within (inRange : payload.InRange) (accepted : payload.Accepted) :
    ∀ candidate ∈ payload.candidates, candidate.InRange :=
  fun candidate member => ⟨accepted.candidates candidate member, inRange.capabilities candidate member,
    inRange.loadClass candidate member, inRange.reservation candidate member,
    inRange.port candidate member⟩

/-- **Equal bytes come from equal payloads.** -/
theorem signingBytes_injective {first second : RelayDirectoryPayload} (inside : first.InRange)
    (other : second.InRange) (accepted : first.Accepted) (valid : second.Accepted)
    (same : first.signingBytes = second.signingBytes) : first = second := by
  have same := List.append_cancel_left same
  obtain ⟨formatVersion, same⟩ := word UInt16 _ _ inside.formatVersion other.formatVersion _ _ same
  obtain ⟨policyRevision, same⟩ := word UInt64 _ _ inside.policyRevision other.policyRevision _ _ same
  obtain ⟨directoryId, same⟩ := string_delimits _ _ accepted.directoryId valid.directoryId _ _ same
  obtain ⟨issuedAtMs, same⟩ := word UInt64 _ _ inside.issuedAtMs other.issuedAtMs _ _ same
  obtain ⟨expiresAtMs, same⟩ := word UInt64 _ _ inside.expiresAtMs other.expiresAtMs _ _ same
  obtain ⟨sessionId, same⟩ := string_delimits _ _ accepted.sessionId valid.sessionId _ _ same
  obtain ⟨digest, same⟩ :=
    string_delimits _ _ accepted.intendedPeerDigest valid.intendedPeerDigest _ _ same
  rw [← List.append_nil (_ ++ _), ← List.append_nil (pushU32 second.candidates.length ++ _)] at same
  obtain ⟨candidates, -⟩ := counted UInt32 candidate_delimits _ _
    ⟨accepted.count, candidates_within inside accepted⟩ ⟨valid.count, candidates_within other valid⟩
    _ _ same
  obtain ⟨_, _, _, _, _, _, _, _⟩ := first
  obtain ⟨_, _, _, _, _, _, _, _⟩ := second
  cases formatVersion
  cases policyRevision
  cases directoryId
  cases issuedAtMs
  cases expiresAtMs
  cases sessionId
  cases digest
  cases candidates
  rfl

theorem canonicalSigningBytes_injective {first second : MachinePayload}
    (encoded : first.1.canonicalSigningBytes = .ok bytes)
    (again : second.1.canonicalSigningBytes = .ok bytes) : first = second := by
  obtain ⟨canonical, plain⟩ := canonicalSigningBytes_eq_ok.mp encoded
  obtain ⟨valid, same⟩ := canonicalSigningBytes_eq_ok.mp again
  exact Subtype.ext (signingBytes_injective first.2 second.2 canonical.accepted valid.accepted
    (plain.symm.trans same))

theorem verify_ok (passed : signed.verify scheme trustedKeys expectedSessionId nowMs = .ok verified) :
    ∃ bytes key signature, signed.payload.canonicalSigningBytes = .ok bytes ∧
      trustedKey scheme trustedKeys signed.signingKeyId = .ok key ∧
      decodeSignature scheme signed.signatureB64 = .ok signature ∧
      scheme.verifyStrict key bytes signature := by
  obtain ⟨bytes, encoded, passed⟩ := bind_ok passed
  obtain ⟨_, _, passed⟩ := bind_ok passed
  have passed := guard_ok (guard_ok (guard_ok (guard_ok passed)))
  obtain ⟨key, trusted, passed⟩ := bind_ok passed
  obtain ⟨signature, decoded, passed⟩ := bind_ok passed
  refine ⟨bytes, key, signature, encoded, trusted, decoded, ?_⟩
  by_contra fails
  simp [fails] at passed

/-- **The signing bytes are unambiguous**, for every two payloads: equal bytes come from equal
payloads. So under a scheme whose signatures bind their message, the directories that verify with one
key and one signature have one payload, wherever and whenever they are verified. -/
theorem canonicalSigningBytes_unambiguous (first second : MachinePayload) :
    (∀ bytes, first.1.canonicalSigningBytes = .ok bytes →
      second.1.canonicalSigningBytes = .ok bytes → first = second) ∧
    ∀ (scheme : SignatureScheme) (trustedKeys : String → Option (List UInt8))
      (signingKeyId signatureB64 expected other : String) (nowMs later : Nat)
      (verified again : VerifiedRelayDirectory), scheme.Binding →
      verify scheme ⟨first.1, signingKeyId, signatureB64⟩ trustedKeys expected nowMs = .ok verified →
      verify scheme ⟨second.1, signingKeyId, signatureB64⟩ trustedKeys other later = .ok again →
      first = second := by
  refine ⟨fun bytes => canonicalSigningBytes_injective, ?_⟩
  intro scheme trustedKeys signingKeyId signatureB64 expected other nowMs later verified again binding
    passed repeated
  obtain ⟨bytes, key, signature, encoded, trusted, decoded, valid⟩ := verify_ok passed
  obtain ⟨others, key', signature', encoded', trusted', decoded', valid'⟩ := verify_ok repeated
  cases Except.ok.inj (trusted.symm.trans trusted')
  cases Except.ok.inj (decoded.symm.trans decoded')
  cases binding key signature bytes others valid valid'
  exact canonicalSigningBytes_injective encoded encoded'

/-! ### An example -/

/-- The base64 text of 64 zero bytes. -/
def zeroSignatureB64 : String := .ofList (.replicate 86 'A' ++ ['=', '='])

/-- Only these bytes verify, under any key, and their signature is 64 zero bytes. -/
def schemeOf (signed : List UInt8) : SignatureScheme where
  validKey _ := true
  verifyStrict _ message signature := message == signed && signature == .replicate 64 0
  decode text := if text = Text.bytes zeroSignatureB64 then some (.replicate 64 0) else none
  encode bytes := if bytes = .replicate 64 0 then Text.bytes zeroSignatureB64 else []

def sampleCandidate (nodeId selectionReason : String) (endpoints : List RelayDirectoryEndpoint) :
    RelayDirectoryCandidate where
  nodeId
  region := "region"
  failureDomain := nodeId ++ "-domain"
  endpoints
  capabilities := 3
  loadClass := 1
  selectionReason
  reservation := ⟨nodeId ++ "-reservation", 100000⟩

def samplePayload : MachinePayload where
  val :=
    { formatVersion := 1
      policyRevision := 7
      directoryId := "directory"
      issuedAtMs := 10
      expiresAtMs := 100000
      sessionId := "session"
      intendedPeerDigest := "peer"
      candidates := [
        sampleCandidate "near" "failure-domain-backup" [⟨.udp, "near.test", 3478⟩,
          ⟨.tls, "near.test", 5349⟩],
        sampleCandidate "relay" "preferred-region" [⟨.udp, "relay.test", 3478⟩,
          ⟨.tcp, "relay.test", 3478⟩]] }
  property := by
    constructor <;> simp [sampleCandidate]

def sampleScheme : SignatureScheme := schemeOf samplePayload.1.signingBytes

theorem samplePayload_signed :
    samplePayload.1.canonicalSigningBytes = .ok samplePayload.1.signingBytes := by
  decide +kernel

theorem samplePayload_verified : ∃ verified, verify sampleScheme
    ⟨samplePayload.1, "key", zeroSignatureB64⟩ (fun _ => some (List.replicate 32 2)) "session" 20 =
      .ok verified :=
  ⟨⟨samplePayload.1, samplePayload.1.signingBytes⟩, by decide +kernel⟩

theorem canonicalSigningBytes_unambiguous_of_sample :
    (samplePayload.1.canonicalSigningBytes = .ok samplePayload.1.signingBytes →
      samplePayload = samplePayload) ∧
    sampleScheme.Binding ∧ ∀ other : MachinePayload, ∀ again,
      verify sampleScheme ⟨other.1, "key", zeroSignatureB64⟩ (fun _ => some (List.replicate 32 2))
        "session" 30 = .ok again → samplePayload = other := by
  have binding : sampleScheme.Binding := by
    intro key signature message other first second
    rw [sampleScheme, schemeOf, Bool.and_eq_true, beq_iff_eq] at first second
    exact first.1.trans second.1.symm
  obtain ⟨verified, passed⟩ := samplePayload_verified
  refine ⟨fun encoded => ?_, binding, fun other again repeated => ?_⟩
  · exact (canonicalSigningBytes_unambiguous samplePayload samplePayload).1 _ encoded
      samplePayload_signed
  · exact (canonicalSigningBytes_unambiguous samplePayload other).2 sampleScheme _ "key" zeroSignatureB64
      _ _ _ _ verified again binding passed repeated

end MiniRemoteDesktop.Relay
