/-
**The fingerprint of a relay candidate** (`mrd-signal-proto`, `relay_candidate_fingerprint`).

A candidate of a relay migration carries a digest of its fields, each behind its length. A field that is
absent is digested as a default: an empty text, or the highest index.

* `RelayMigrationCandidatePayload.validatePayload` — the checks of a payload, the fingerprint among them.
* `fingerprint_binds_iff` — **a fingerprint binds the candidate, but for an index that is absent in one payload
  and the default in the other**.

SHA-256 is a parameter.
-/

import MiniRemoteDesktop.Lib.Checked
import MiniRemoteDesktop.Lib.Framing
import MiniRemoteDesktop.Lib.Text

namespace MiniRemoteDesktop.Relay

open Bytes Checked
open Text

/-! ### The payload -/

/-- The fields that the checks read; the claims and the signature are not among them. -/
structure RelayMigrationCandidatePayload where
  sessionId : String
  migrationGeneration : UInt64
  (directoryId nodeId candidate : String)
  sdpMid : Option String
  sdpMlineIndex : Option UInt16
  usernameFragment : Option String
  (restartRouteToken candidateFingerprint : String)

open RelayMigrationCandidatePayload

inductive SignalProtocolError
  | malformed
  deriving DecidableEq

def validateText (value : String) (minimum maximum : Nat) : Except SignalProtocolError Unit :=
  if (bytes value).length < minimum ∨ maximum < (bytes value).length ∨ value.toList.contains '\x00' then
    .error .malformed
  else .ok ()

def validateSignalIdentifier (value : String) : Except SignalProtocolError Unit := do
  validateText value 1 256
  if value.toList.any isControl then .error .malformed else .ok ()

def validateMigrationBinding (sessionId : String) (migrationGeneration : UInt64)
    (directoryId nodeId : String) : Except SignalProtocolError Unit := do
  validateSignalIdentifier sessionId
  validateSignalIdentifier directoryId
  validateSignalIdentifier nodeId
  if migrationGeneration = 0 then .error .malformed else .ok ()

def validateRestartRouteToken (value : String) : Except SignalProtocolError Unit :=
  if isLowerHex 64 value then .ok () else .error .malformed

def validateFingerprint (value : String) : Except SignalProtocolError Unit :=
  if isLowerHex 64 value then .ok () else .error .malformed

/-! ### The fingerprint -/

/-- A field behind its length. -/
def digestField (field : List UInt8) : List UInt8 := bigEndian (UInt64.ofNat field.length) ++ field

/-- The fields, with a default for an option that is absent. -/
def candidateFields (sessionId : String) (generation : UInt64) (candidate : String) (sdpMid : Option String)
    (sdpMlineIndex : Option UInt16) (usernameFragment : Option String) (restartRouteToken : String) :
    List (List UInt8) :=
  [bytes "MRD_RELAY_CANDIDATE_V1\x00", bytes sessionId, bigEndian generation,
    bytes candidate, bytes (sdpMid.getD ""), bigEndian (sdpMlineIndex.getD 65535),
    bytes (usernameFragment.getD ""), bytes restartRouteToken]

def relayCandidateFingerprint (sha256 : List UInt8 → List UInt8) (sessionId : String) (generation : UInt64)
    (candidate : String) (sdpMid : Option String) (sdpMlineIndex : Option UInt16)
    (usernameFragment : Option String) (restartRouteToken : String) : String :=
  lowerHex (sha256 ((candidateFields sessionId generation candidate sdpMid sdpMlineIndex
    usernameFragment restartRouteToken).flatMap digestField))

namespace RelayMigrationCandidatePayload

variable (payload : RelayMigrationCandidatePayload)

def fields : List (List UInt8) :=
  candidateFields payload.sessionId payload.migrationGeneration payload.candidate payload.sdpMid
    payload.sdpMlineIndex payload.usernameFragment payload.restartRouteToken

/-- The bytes that are digested. -/
def preimage : List UInt8 := payload.fields.flatMap digestField

def fingerprint (sha256 : List UInt8 → List UInt8) : String :=
  relayCandidateFingerprint sha256 payload.sessionId payload.migrationGeneration payload.candidate
    payload.sdpMid payload.sdpMlineIndex payload.usernameFragment payload.restartRouteToken

def validatePayload (sha256 : List UInt8 → List UInt8) : Except SignalProtocolError Unit := do
  validateMigrationBinding payload.sessionId payload.migrationGeneration payload.directoryId payload.nodeId
  validateText payload.candidate 1 8192
  payload.sdpMid.elim (.ok ()) fun mid => validateText mid 1 128
  payload.usernameFragment.elim (.ok ()) fun fragment => validateText fragment 1 256
  validateRestartRouteToken payload.restartRouteToken
  validateFingerprint payload.candidateFingerprint
  if payload.fingerprint sha256 ≠ payload.candidateFingerprint then .error .malformed else .ok ()

end RelayMigrationCandidatePayload

/-! ### What a fingerprint binds -/

/-- **The fields of two candidates are the same.** -/
structure SameCandidate (first second : RelayMigrationCandidatePayload) : Prop where
  sessionId : first.sessionId = second.sessionId
  migrationGeneration : first.migrationGeneration = second.migrationGeneration
  candidate : first.candidate = second.candidate
  sdpMid : first.sdpMid = second.sdpMid
  sdpMlineIndex : first.sdpMlineIndex = second.sdpMlineIndex
  usernameFragment : first.usernameFragment = second.usernameFragment
  restartRouteToken : first.restartRouteToken = second.restartRouteToken

/-- The index is absent in the one candidate and the default in the other, which are the same otherwise. -/
structure IndexConfused (first second : RelayMigrationCandidatePayload) : Prop where
  same : SameCandidate { first with sdpMlineIndex := none } { second with sdpMlineIndex := none }
  index : (first.sdpMlineIndex = none ∧ second.sdpMlineIndex = some 65535) ∨
    (first.sdpMlineIndex = some 65535 ∧ second.sdpMlineIndex = none)

/-- What the checks say of the lengths. -/
structure Bounded (payload : RelayMigrationCandidatePayload) : Prop where
  short : ∀ field ∈ payload.fields, field.length < 256 ^ Word.width UInt64
  sdpMid : ∀ mid ∈ payload.sdpMid, mid ≠ ""
  usernameFragment : ∀ fragment ∈ payload.usernameFragment, fragment ≠ ""

variable {value : String}

theorem validateText_ok {minimum maximum : Nat} (valid : validateText value minimum maximum = .ok ()) :
    minimum ≤ (bytes value).length ∧ (bytes value).length ≤ maximum := by
  obtain ⟨short, long⟩ := not_or.mp (refused_ok valid).1
  exact ⟨Nat.not_lt.mp short, Nat.not_lt.mp (not_or.mp long).1⟩

theorem ne_empty_of_validateText {maximum : Nat} (valid : validateText value 1 maximum = .ok ()) :
    value ≠ "" := by
  rintro rfl
  exact absurd (validateText_ok valid).1 (by decide)

theorem validateSignalIdentifier_ok (valid : validateSignalIdentifier value = .ok ()) :
    (bytes value).length ≤ 256 := by
  obtain ⟨_, text, _⟩ := bind_ok valid
  exact (validateText_ok text).2

theorem isLowerHex_length {count : Nat} (valid : isLowerHex count value = true) :
    (bytes value).length = count := by
  exact beq_iff_eq.mp (Bool.and_eq_true_iff.mp valid).1

/-- **The lengths of a valid payload.** -/
theorem bounded_of_valid {sha256 : List UInt8 → List UInt8} {payload : RelayMigrationCandidatePayload}
    (valid : payload.validatePayload sha256 = .ok ()) : Bounded payload := by
  obtain ⟨_, binding, valid⟩ := bind_ok valid
  obtain ⟨_, text, valid⟩ := bind_ok valid
  obtain ⟨_, mid, valid⟩ := bind_ok valid
  obtain ⟨_, fragment, valid⟩ := bind_ok valid
  obtain ⟨_, token, _⟩ := bind_ok valid
  obtain ⟨_, session, _⟩ := bind_ok binding
  have tokenLength : (bytes payload.restartRouteToken).length = 64 := by
    unfold validateRestartRouteToken at token
    split at token
    next hex =>
      exact isLowerHex_length hex
    · cases token
  -- An absent text is digested as the empty one.
  have optional : ∀ {value : Option String} {maximum : Nat},
      value.elim (.ok ()) (fun given => validateText given 1 maximum) = .ok () →
      (bytes (value.getD "")).length ≤ maximum ∧ ∀ given ∈ value, given ≠ "" := by
    intro value maximum checked
    cases value with
    | none => exact ⟨Nat.zero_le _, fun _ absent => nomatch absent⟩
    | some given =>
      refine ⟨(validateText_ok checked).2, fun other same => ?_⟩
      cases Option.some.inj (Option.mem_def.mp same)
      exact ne_empty_of_validateText checked
  have context : (bytes "MRD_RELAY_CANDIDATE_V1\x00").length = 23 := by decide
  refine ⟨fun field member => ?_, (optional mid).2, (optional fragment).2⟩
  have limit : (256 : Nat) ^ Word.width UInt64 = 18446744073709551616 := rfl
  have small := validateSignalIdentifier_ok session
  have candidate := (validateText_ok text).2
  have mids := (optional mid).1
  have fragments := (optional fragment).1
  rw [limit]
  unfold fields candidateFields at member
  simp only [List.mem_cons, List.not_mem_nil, or_false] at member
  rcases member with rfl | rfl | rfl | rfl | rfl | rfl | rfl | rfl
  · omega
  · omega
  · simp
  · omega
  · omega
  · simp
  · omega
  · omega

theorem digestFields_injective {first second : List (List UInt8)}
    (short : ∀ field ∈ first, field.length < 256 ^ Word.width UInt64)
    (small : ∀ field ∈ second, field.length < 256 ^ Word.width UInt64)
    (same : first.flatMap digestField = second.flatMap digestField) : first = second := by
  refine Framing.flatMap_injective (Framing.framed UInt64) (fun field empty => ?_) short small same
  have width := congrArg List.length (List.append_eq_nil_iff.mp empty).1
  simp at width

theorem bigEndian_injective {α : Type} [Word α] {first second : α} (same : bigEndian first = bigEndian second) :
    first = second := by
  have read := congrArg (readBigEndian α) same
  simpa using read

theorem getD_injective {first second : Option String} (given : ∀ text ∈ first, text ≠ "")
    (other : ∀ text ∈ second, text ≠ "") (same : first.getD "" = second.getD "") : first = second := by
  cases first with
  | none =>
    cases second with
    | none => rfl
    | some text => exact absurd same.symm (other text rfl)
  | some text =>
    cases second with
    | none => exact absurd same (given text rfl)
    | some _ => exact congrArg some same

variable {second first : RelayMigrationCandidatePayload}

/-- **The same fields are digested only for the same candidate**, up to the index. -/
theorem same_of_fields (bounded : Bounded first) (limited : Bounded second)
    (same : first.fields = second.fields) :
    SameCandidate { first with sdpMlineIndex := none } { second with sdpMlineIndex := none } ∧
      first.sdpMlineIndex.getD 65535 = second.sdpMlineIndex.getD 65535 := by
  unfold fields candidateFields at same
  simp only [List.cons.injEq, and_true, true_and] at same
  obtain ⟨session, generation, candidate, mid, index, fragment, token⟩ := same
  exact ⟨⟨bytes_injective session, bigEndian_injective generation, bytes_injective candidate,
    getD_injective bounded.sdpMid limited.sdpMid (bytes_injective mid), rfl,
    getD_injective bounded.usernameFragment limited.usernameFragment (bytes_injective fragment),
    bytes_injective token⟩, bigEndian_injective index⟩

theorem fields_of_confused (confused : IndexConfused first second) : first.fields = second.fields := by
  obtain ⟨⟨session, generation, candidate, mid, _, fragment, token⟩, index⟩ := confused
  have same : first.sdpMlineIndex.getD 65535 = second.sdpMlineIndex.getD 65535 := by
    rcases index with ⟨absent, given⟩ | ⟨given, absent⟩ <;> rw [absent, given] <;> rfl
  unfold fields candidateFields
  rw [session, generation, candidate, mid, fragment, token, same]

/-- **A fingerprint binds every field exactly when the index is not confused.** For every two valid payloads
on which SHA-256 does not collide: that their fingerprints are equal only if they are the same candidate
fails exactly when they differ in the index alone, absent in one and `65535` in the other. -/
theorem fingerprint_binds_iff {sha256 : List UInt8 → List UInt8} {first second : RelayMigrationCandidatePayload}
    (valid : first.validatePayload sha256 = .ok ()) (other : second.validatePayload sha256 = .ok ())
    (noCollision : sha256 first.preimage = sha256 second.preimage → first.preimage = second.preimage) :
    (first.fingerprint sha256 = second.fingerprint sha256 → SameCandidate first second) ↔
      ¬ IndexConfused first second := by
  have bounded := bounded_of_valid valid
  have limited := bounded_of_valid other
  constructor
  · intro binds confused
    have digests : first.fingerprint sha256 = second.fingerprint sha256 := by
      show lowerHex (sha256 (first.fields.flatMap digestField)) =
        lowerHex (sha256 (second.fields.flatMap digestField))
      rw [fields_of_confused confused]
    have index := (binds digests).sdpMlineIndex
    rcases confused.index with ⟨absent, given⟩ | ⟨given, absent⟩
    · cases absent.symm.trans (index.trans given)
    · cases absent.symm.trans (index.symm.trans given)
  · intro clear digests
    have preimages := noCollision (lowerHex_injective digests)
    obtain ⟨same, index⟩ := same_of_fields bounded limited
      (digestFields_injective bounded.short limited.short preimages)
    have indices : first.sdpMlineIndex = second.sdpMlineIndex := by
      cases one : first.sdpMlineIndex with
      | none =>
        cases two : second.sdpMlineIndex with
        | none => rfl
        | some given =>
          rw [one, two] at index
          exact absurd ⟨same, .inl ⟨one, two.trans (congrArg some index.symm)⟩⟩ clear
      | some given =>
        cases two : second.sdpMlineIndex with
        | none =>
          rw [one, two] at index
          exact absurd ⟨same, .inr ⟨one.trans (congrArg some index), two⟩⟩ clear
        | some _ =>
          rw [one, two] at index
          exact congrArg some index
    exact ⟨same.sessionId, same.migrationGeneration, same.candidate, same.sdpMid, indices,
      same.usernameFragment, same.restartRouteToken⟩

/-! ### An example -/

/-- A sum in place of SHA-256, of as many bytes. -/
def sampleSha256 (bytes : List UInt8) : List UInt8 := List.replicate 32 (bytes.foldl (· + ·) 0)

/-- A valid payload with an index. -/
def sampleCandidatePayload (sdpMlineIndex : Option UInt16) : RelayMigrationCandidatePayload :=
  let token := "0123456789abcdef0123456789abcdef0123456789abcdef0123456789abcdef"
  { sessionId := "session"
    migrationGeneration := 1
    directoryId := "directory"
    nodeId := "node"
    candidate := "candidate:1"
    sdpMid := some "0"
    sdpMlineIndex
    usernameFragment := none
    restartRouteToken := token
    candidateFingerprint := relayCandidateFingerprint sampleSha256 "session" 1 "candidate:1" (some "0")
      sdpMlineIndex none token }

/-- No index, and the first one. -/
theorem fingerprint_binds_iff_sample :
    (sampleCandidatePayload none).validatePayload sampleSha256 = .ok () ∧
      ((sampleCandidatePayload none).fingerprint sampleSha256 =
        (sampleCandidatePayload (some 0)).fingerprint sampleSha256 →
          SameCandidate (sampleCandidatePayload none) (sampleCandidatePayload (some 0))) := by
  refine ⟨by decide +kernel, ?_⟩
  refine (fingerprint_binds_iff (by decide +kernel) (by decide +kernel) ?_).mpr ?_
  · intro collision
    exact absurd collision (by decide +kernel)
  · rintro ⟨_, ⟨_, given⟩ | ⟨given, _⟩⟩
    · cases given
    · cases given

/-- **Two valid candidates with one fingerprint**: without an index, and with the highest one. -/
theorem not_fingerprint_binds : ¬ ∀ (sha256 : List UInt8 → List UInt8)
    (first second : RelayMigrationCandidatePayload),
    first.validatePayload sha256 = .ok () → second.validatePayload sha256 = .ok () →
    (sha256 first.preimage = sha256 second.preimage → first.preimage = second.preimage) →
    first.fingerprint sha256 = second.fingerprint sha256 → SameCandidate first second := by
  intro binds
  have same := binds sampleSha256 (sampleCandidatePayload none) (sampleCandidatePayload (some 65535))
    (by decide +kernel)
    (by decide +kernel) (fun _ => by decide +kernel) (by decide +kernel)
  cases same.sdpMlineIndex

end MiniRemoteDesktop.Relay
