/-
**The JSON text of a relay directory** (`mrd-relay-control`, `directory.rs`).

A signed directory travels as JSON and is only parsed below a limit on its bytes, which the source takes
as eight times the limit on the signing bytes. In both encodings a directory is its strings and some bytes
around them. A byte of a string takes at most six bytes of JSON; and the JSON around the strings of an
endpoint, a candidate or a payload takes at most six times the bytes that the signing bytes spend there.

* `SignedRelayDirectory.toJson` — the text, with the field names as they are declared.
* `length_endpoint`, `length_candidate`, `length_payload` — the text is at most six times as long as the
  signing bytes.
* `json_fits` — **every directory that is accepted fits the limit and is read back**.

How a byte of a string is escaped is a parameter, and so is the parser.
-/

import MiniRemoteDesktop.Lib.Json
import MiniRemoteDesktop.Relay.Signing

namespace MiniRemoteDesktop.Relay

open SignedRelayDirectory (fromJson)
open List (length_append length_cons map_cons map_nil sum_cons sum_nil)
open Bytes Checked Json
open Text

/-! ### The text -/

def RelayDirectoryTransport.jsonName : RelayDirectoryTransport → String
  | udp => "udp"
  | tcp => "tcp"
  | tls => "tls"

section Writing

variable (escape : UInt8 → List UInt8)

def RelayDirectoryEndpoint.toJson (endpoint : RelayDirectoryEndpoint) : List UInt8 :=
  object [ ("transport", name endpoint.transport.jsonName), ("host", string escape endpoint.host),
    ("port", number endpoint.port)]

def RelayReservation.toJson (reservation : RelayReservation) : List UInt8 :=
  object [ ("reservation_id", string escape reservation.reservationId),
    ("expires_at_ms", number reservation.expiresAtMs)]

def RelayDirectoryCandidate.toJson (candidate : RelayDirectoryCandidate) : List UInt8 :=
  object [ ("node_id", string escape candidate.nodeId), ("region", string escape candidate.region),
    ("failure_domain", string escape candidate.failureDomain),
    ("endpoints", array (candidate.endpoints.map fun endpoint => endpoint.toJson escape)),
    ("capabilities", number candidate.capabilities),
    ("load_class", number candidate.loadClass),
    ("selection_reason", string escape candidate.selectionReason),
    ("reservation", candidate.reservation.toJson escape)]

def RelayDirectoryPayload.toJson (payload : RelayDirectoryPayload) : List UInt8 :=
  object [ ("format_version", number payload.formatVersion),
    ("policy_revision", number payload.policyRevision),
    ("directory_id", string escape payload.directoryId),
    ("issued_at_ms", number payload.issuedAtMs),
    ("expires_at_ms", number payload.expiresAtMs),
    ("session_id", string escape payload.sessionId),
    ("intended_peer_digest", string escape payload.intendedPeerDigest),
    ("candidates", array (payload.candidates.map fun candidate => candidate.toJson escape))]

def SignedRelayDirectory.toJson (signed : SignedRelayDirectory) : List UInt8 :=
  object [ ("payload", signed.payload.toJson escape),
    ("signing_key_id", string escape signed.signingKeyId),
    ("signature_b64", string escape signed.signatureB64)]

end Writing

/-! ### Six times the signing bytes -/

theorem length_stringBytes (value : String) :
    (stringBytes value).length = 4 + (bytes value).length := by
  simp [stringBytes, pushU32, length_bigEndian]

theorem length_pushU16 (value : Nat) : (pushU16 value).length = 2 := length_bigEndian _

theorem length_pushU32 (value : Nat) : (pushU32 value).length = 4 := length_bigEndian _

theorem length_pushU64 (value : Nat) : (pushU64 value).length = 8 := length_bigEndian _

variable {value : Nat}

theorem length_number16 (fits : value < 256 ^ Word.width UInt16) : (number value).length ≤ 5 :=
  length_number_le (by decide) (lt_trans fits (by decide))

theorem length_number32 (fits : value < 256 ^ Word.width UInt32) : (number value).length ≤ 10 :=
  length_number_le (by decide) (lt_trans fits (by decide))

theorem length_number64 (fits : value < 256 ^ Word.width UInt64) : (number value).length ≤ 20 :=
  length_number_le (by decide) (lt_trans fits (by decide))

theorem length_number8 (fits : value < 256 ^ Word.width UInt8) : (number value).length ≤ 3 :=
  length_number_le (by decide) (lt_trans fits (by decide))

/-- The elements of a list, each at most six times as long and a little. -/
theorem sum_le_six {α : Type} {list : List α} {text bytes : α → List UInt8} {slack : Nat}
    (each : ∀ a ∈ list, (text a).length + 1 ≤ 6 * (bytes a).length + slack) :
    (((list.map text).map fun part => part.length + 1).sum) ≤
      6 * (list.flatMap bytes).length + slack * list.length := by
  induction list with
  | nil => exact Nat.le_refl 0
  | cons first rest ih =>
    have here := each first (.head _)
    have later := ih (List.forall_mem_cons.mp each).2
    rw [map_cons, map_cons, sum_cons, List.flatMap_cons, length_append, length_cons, Nat.mul_add slack]
    omega

variable {payload : RelayDirectoryPayload}

section Lengths

variable {escape : UInt8 → List UInt8} (bounded : ∀ byte, (escape byte).length ≤ 6)

include bounded

theorem length_endpoint {endpoint : RelayDirectoryEndpoint} (port : endpoint.port < 256 ^ Word.width UInt16) :
    (endpoint.toJson escape).length + 1 ≤ 6 * endpoint.signingBytes.length + 2 := by
  have text : (endpoint.toJson escape).length ≤ _ := length_object_le _
  simp only [map_cons, map_nil, sum_cons, sum_nil] at text
  have names : (bytes "transport").length = 9 ∧ (bytes "host").length = 4 ∧
      (bytes "port").length = 4 := by decide
  have transport : (name endpoint.transport.jsonName).length = 5 := by
    rw [length_name]
    cases endpoint.transport <;> dsimp only [RelayDirectoryTransport.jsonName] <;> decide
  have host := length_string_le bounded endpoint.host
  have port := length_number16 port
  have bytes : endpoint.signingBytes.length = 7 + (bytes endpoint.host).length := by
    rw [RelayDirectoryEndpoint.signingBytes, length_cons, length_append, length_stringBytes,
      length_pushU16]
    omega
  omega

theorem length_reservation {reservation : RelayReservation}
    (expires : reservation.expiresAtMs < 256 ^ Word.width UInt64) :
    (reservation.toJson escape).length ≤ 6 * (bytes reservation.reservationId).length + 59 := by
  have text : (reservation.toJson escape).length ≤ _ := length_object_le _
  simp only [map_cons, map_nil, sum_cons, sum_nil] at text
  have names : (bytes "reservation_id").length = 14 ∧ (bytes "expires_at_ms").length = 13 := by
    decide
  have id := length_string_le bounded reservation.reservationId
  have expires := length_number64 expires
  omega

theorem length_candidate {candidate : RelayDirectoryCandidate}
    (few : candidate.endpoints.length ≤ maxEndpointsPerCandidate)
    (capabilities : candidate.capabilities < 256 ^ Word.width UInt32)
    (loadClass : candidate.loadClass < 256 ^ Word.width UInt8)
    (expires : candidate.reservation.expiresAtMs < 256 ^ Word.width UInt64)
    (ports : ∀ endpoint ∈ candidate.endpoints, endpoint.port < 256 ^ Word.width UInt16) :
    (candidate.toJson escape).length + 1 ≤ 6 * candidate.signingBytes.length + 0 := by
  have text : (candidate.toJson escape).length ≤ _ := length_object_le _
  simp only [map_cons, map_nil, sum_cons, sum_nil] at text
  have names : (bytes "node_id").length = 7 ∧ (bytes "region").length = 6 ∧
      (bytes "failure_domain").length = 14 ∧ (bytes "endpoints").length = 9 ∧
      (bytes "capabilities").length = 12 ∧ (bytes "load_class").length = 10 ∧
      (bytes "selection_reason").length = 16 ∧ (bytes "reservation").length = 11 := by
    decide
  have node := length_string_le bounded candidate.nodeId
  have region := length_string_le bounded candidate.region
  have domain := length_string_le bounded candidate.failureDomain
  have reason := length_string_le bounded candidate.selectionReason
  have capabilities := length_number32 capabilities
  have load := length_number8 loadClass
  have reservation := length_reservation bounded expires
  have array := length_array_le (candidate.endpoints.map fun endpoint => endpoint.toJson escape)
  have endpoints := sum_le_six fun endpoint member => length_endpoint bounded (ports endpoint member)
  have four : maxEndpointsPerCandidate = 4 := rfl
  have bytes : candidate.signingBytes.length = 37 + (bytes candidate.nodeId).length +
      (bytes candidate.region).length + (bytes candidate.failureDomain).length +
      (candidate.endpoints.flatMap (·.signingBytes)).length +
      (bytes candidate.selectionReason).length +
      (bytes candidate.reservation.reservationId).length := by
    simp only [RelayDirectoryCandidate.signingBytes, length_append, length_cons,
      length_stringBytes, length_pushU32, length_pushU64]
    omega
  omega

theorem length_payload (inRange : payload.InRange)
    (few : ∀ candidate ∈ payload.candidates, candidate.endpoints.length ≤ maxEndpointsPerCandidate) :
    (payload.toJson escape).length ≤ 6 * payload.signingBytes.length := by
  have text : (payload.toJson escape).length ≤ _ := length_object_le _
  simp only [map_cons, map_nil, sum_cons, sum_nil] at text
  have names : (bytes "format_version").length = 14 ∧ (bytes "policy_revision").length = 15 ∧
      (bytes "directory_id").length = 12 ∧ (bytes "issued_at_ms").length = 12 ∧
      (bytes "expires_at_ms").length = 13 ∧ (bytes "session_id").length = 10 ∧
      (bytes "intended_peer_digest").length = 20 ∧ (bytes "candidates").length = 10 := by
    decide
  have context : relayDirectoryContext.length = 22 := by decide
  have version := length_number16 inRange.formatVersion
  have revision := length_number64 inRange.policyRevision
  have issued := length_number64 inRange.issuedAtMs
  have expires := length_number64 inRange.expiresAtMs
  have directory := length_string_le bounded payload.directoryId
  have session := length_string_le bounded payload.sessionId
  have peer := length_string_le bounded payload.intendedPeerDigest
  have array := length_array_le (payload.candidates.map fun candidate => candidate.toJson escape)
  have candidates := sum_le_six fun candidate member => length_candidate bounded (few candidate member)
    (inRange.capabilities candidate member) (inRange.loadClass candidate member)
    (inRange.reservation candidate member) (inRange.port candidate member)
  have bytes : payload.signingBytes.length = 64 + (bytes payload.directoryId).length +
      (bytes payload.sessionId).length + (bytes payload.intendedPeerDigest).length +
      (payload.candidates.flatMap (·.signingBytes)).length := by
    simp only [RelayDirectoryPayload.signingBytes, length_append, length_stringBytes, length_pushU16,
      length_pushU32, length_pushU64]
    omega
  omega

end Lengths

/-! ### The limit -/

theorem decodeSignature_length {scheme : SignatureScheme} {signatureB64 : String} {signature : List UInt8}
    (decoded : decodeSignature scheme signatureB64 = .ok signature) :
    (bytes signatureB64).length ≤ 128 := by
  have limits := (refused_ok decoded).1
  exact Nat.not_lt.mp fun long => limits (.inr long)

/-- **Every accepted directory fits its transport.** For every payload that `canonicalSigningBytes` accepts,
every key identifier within its bounds and every canonical signature: the JSON text is within the limit, and
a parser that reads back this text gives the directory. -/
theorem json_fits {escape : UInt8 → List UInt8} (bounded : ∀ byte, (escape byte).length ≤ 6)
    {scheme : SignatureScheme} {payload : MachinePayload} {signingKeyId signatureB64 : String}
    {encoded signature : List UInt8} (accepted : payload.1.canonicalSigningBytes = .ok encoded)
    (key : validateString "signing_key_id" signingKeyId = .ok ())
    (decoded : decodeSignature scheme signatureB64 = .ok signature) :
    let signed : SignedRelayDirectory := ⟨payload.1, signingKeyId, signatureB64⟩
    (signed.toJson escape).length ≤ maxRelayDirectoryJsonBytes ∧
      ∀ parse : List UInt8 → Option SignedRelayDirectory, parse (signed.toJson escape) = some signed →
        fromJson scheme parse (signed.toJson escape) = .ok signed := by
  intro signed
  have fits : (signed.toJson escape).length ≤ maxRelayDirectoryJsonBytes := by
    have text : (signed.toJson escape).length ≤ _ := length_object_le _
    simp only [map_cons, map_nil, sum_cons, sum_nil] at text
    have names : (bytes "payload").length = 7 ∧ (bytes "signing_key_id").length = 14 ∧
        (bytes "signature_b64").length = 13 := by decide
    obtain ⟨canonical, -⟩ := canonicalSigningBytes_eq_ok.mp accepted
    have within := canonical.short
    have body : (signed.payload.toJson escape).length ≤ 6 * payload.1.signingBytes.length :=
      length_payload bounded payload.2 fun candidate member => (canonical.candidates candidate member).count.2
    have identifier : (string escape signed.signingKeyId).length ≤ _ := length_string_le bounded signingKeyId
    have signature : (string escape signed.signatureB64).length ≤ _ := length_string_le bounded signatureB64
    have short := (validateString_eq_ok.mp key).2
    have small := decodeSignature_length decoded
    have limits : maxStringBytes = 256 ∧ maxCanonicalBytes = 16384 ∧
        maxRelayDirectoryJsonBytes = 131072 := ⟨rfl, rfl, rfl⟩
    omega
  refine ⟨fits, fun parse reads => ?_⟩
  unfold fromJson
  rw [if_neg (Nat.not_lt.mpr fits), reads]
  show (do
    let _ ← payload.1.canonicalSigningBytes
    validateString "signing_key_id" signingKeyId
    let _ ← decodeSignature scheme signatureB64
    return signed) = .ok signed
  rw [accepted, key, decoded]
  rfl

/-- The sample directory with the usual escapes, read by a parser that knows its text. -/
theorem json_fits_sample :
    let signed : SignedRelayDirectory := ⟨samplePayload.1, "key", zeroSignatureB64⟩
    (signed.toJson escapeByte).length ≤ maxRelayDirectoryJsonBytes ∧ fromJson sampleScheme
        (fun text => if text = signed.toJson escapeByte then some signed else none)
        (signed.toJson escapeByte) = .ok signed := by
  intro signed
  obtain ⟨fits, reads⟩ := @json_fits escapeByte length_escapeByte_le sampleScheme samplePayload "key"
    zeroSignatureB64 samplePayload.1.signingBytes (List.replicate 64 0) samplePayload_signed (by decide)
    (by decide)
  exact ⟨fits, reads _ (if_pos rfl)⟩

end MiniRemoteDesktop.Relay
