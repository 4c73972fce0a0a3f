/-
**Candidates for a first pairing** (`mrd-service`, `lan_discovery/first_pairing.rs`).

A device that announces itself and is not trusted yet is shown to the user, who may approve it by what was
shown. An announcement that renews what is shown keeps the identifier of the candidate; one that changes it
gets a new identifier. A candidate lives until the earlier of two deadlines, on two clocks.

* `SignedLanAnnouncement.verify` — the check that every announcement passes before it is used.
* `perform` — one call; `PairingWorld` remembers the identifiers that were ever drawn.
* `resolved_as_shown` — **what an approval resolves to is what was shown under the identifier**, and it was
  there all the time in between.

What is drawn comes with the call, and so does the time on either clock. The hash of an announcement, the
signed bytes, the digest of a key and the signature scheme are parameters.
-/

import MiniRemoteDesktop.Lib.Checked
import MiniRemoteDesktop.Lib.Text
import MiniRemoteDesktop.Proto
import MiniRemoteDesktop.Lib.Execution
import MiniRemoteDesktop.Lib.Table

namespace MiniRemoteDesktop.Lan

/-! ### Addresses -/

inductive IpAddr
  | v4 (octets : Vector UInt8 4)
  | v6 (octets : Vector UInt8 16)
  deriving DecidableEq

def IpAddr.isUnspecified : IpAddr → Bool
  | v4 octets => octets.all (· == 0)
  | v6 octets => octets.all (· == 0)

def IpAddr.isMulticast : IpAddr → Bool
  | v4 octets => octets[0] ≥ (224 : UInt8) && octets[0] ≤ (239 : UInt8)
  | v6 octets => octets[0] == 0xFF

/-- `SocketAddr`; the last two fields are zero for an address of version 4. -/
structure SocketAddr where
  ip : IpAddr
  (port flowinfo scopeId : Nat)
  deriving DecidableEq

/-! ### Announcements -/

/-- What a device says of itself. -/
structure LanAnnouncement where
  (magic appId instanceId deviceId deviceName deviceType : String)
  (protocolVersion discoveryPort : Nat)
  transports : List String
  serviceBuildId : Option String
  mediaProtocolVersion : Option Nat
  mediaCapabilities : List String
  macAddress : Option String
  timestampMs : Nat

/-- What is signed: the announcement, its endpoint and its key. -/
structure SignedLanAnnouncementPayload where
  announcement : LanAnnouncement
  discoveryEndpoint : SocketAddr
  signerKeyId : String
  (signerKeyEpoch expiresAtMs : Nat)
  nonce : Vector UInt8 16
  capabilityHash : Vector UInt8 32

structure SignedLanAnnouncement where
  payload : SignedLanAnnouncementPayload
  (publicKey signature : List UInt8)

/-- `LanProtocolError`, as far as an announcement is refused with it. -/
inductive LanProtocolError
  | payloadEncoding
  | invalidNamespace
  | unsupportedProtocol
  | invalidPayload
  | invalidKeyBinding
  | invalidKeyEpoch
  | invalidLifetime
  | notYetValid
  | expired
  | invalidNonce
  | capabilityMismatch
  | invalidSignature
  deriving DecidableEq

/-- **What the check calls**: the hash of an announcement with its endpoint, the bytes that are signed, the
identifier of a key, and the verification of a signature in the context of announcements. -/
structure AnnouncementScheme where
  commitmentHash : LanAnnouncement → SocketAddr → Except LanProtocolError (Vector UInt8 32)
  signatureBytes : SignedLanAnnouncementPayload → Except LanProtocolError (List UInt8)
  publicKeyId : List UInt8 → String
  verifyContextBytes : List UInt8 → List UInt8 → List UInt8 → Bool

/-! ### The check -/

def discoveryMagic : String := "mrd-lan-discovery-v1"
def discoveryAppId : String := "rdesk"
def signedLanProtocolVersion : Nat := 3
def announcementMaxLifetimeMs : Nat := 15000
def allowedClockSkewMs : Nat := 2000

def validateNamespace (magic appId : String) (protocolVersion : Nat) : Except LanProtocolError Unit :=
  if magic ≠ discoveryMagic ∨ appId ≠ discoveryAppId then .error .invalidNamespace
  else if protocolVersion ≠ signedLanProtocolVersion then .error .unsupportedProtocol
  else .ok ()

def validateRequired (value : String) : Except LanProtocolError Unit :=
  if Text.trim value = "" then .error .invalidPayload else .ok ()

def validateNonce (nonce : Vector UInt8 16) : Except LanProtocolError Unit :=
  if nonce.all (· == 0) then .error .invalidNonce else .ok ()

def validateLifetime (issuedAtMs expiresAtMs maximumLifetimeMs : Nat) : Except LanProtocolError Unit :=
  match checkedSub expiresAtMs issuedAtMs with
  | none => .error .invalidLifetime
  | some lifetime =>
    if lifetime = 0 ∨ maximumLifetimeMs < lifetime then .error .invalidLifetime else .ok ()

def validateCurrentTime (issuedAtMs expiresAtMs nowMs : Nat) : Except LanProtocolError Unit :=
  if saturatingAdd nowMs allowedClockSkewMs < issuedAtMs then .error .notYetValid
  else if saturatingAdd expiresAtMs allowedClockSkewMs < nowMs then .error .expired
  else .ok ()

def validateAnnouncementStructure (payload : SignedLanAnnouncementPayload) :
    Except LanProtocolError Unit := do
  let announcement := payload.announcement
  validateNamespace announcement.magic announcement.appId announcement.protocolVersion
  validateRequired announcement.instanceId
  validateRequired announcement.deviceId
  validateRequired announcement.deviceName
  validateRequired announcement.deviceType
  validateRequired payload.signerKeyId
  if announcement.discoveryPort = 0 then .error .invalidPayload
  if payload.discoveryEndpoint.port ≠ announcement.discoveryPort ∨
      payload.discoveryEndpoint.ip.isUnspecified ∨ payload.discoveryEndpoint.ip.isMulticast then
    .error .invalidPayload
  if payload.signerKeyEpoch = 0 then .error .invalidKeyEpoch
  validateNonce payload.nonce

def validateAnnouncementPayload (payload : SignedLanAnnouncementPayload) :
    Except LanProtocolError Unit := do
  validateAnnouncementStructure payload
  validateLifetime payload.announcement.timestampMs payload.expiresAtMs announcementMaxLifetimeMs

def validatePublicKeyBinding (scheme : AnnouncementScheme) (publicKey : List UInt8)
    (claimedKeyId : String) : Except LanProtocolError Unit :=
  if publicKey.length ≠ 32 ∨ scheme.publicKeyId publicKey ≠ claimedKeyId then .error .invalidKeyBinding
  else .ok ()

def SignedLanAnnouncement.verify (scheme : AnnouncementScheme) (signed : SignedLanAnnouncement)
    (nowMs : Nat) : Except LanProtocolError Unit := do
  validateAnnouncementPayload signed.payload
  validateCurrentTime signed.payload.announcement.timestampMs signed.payload.expiresAtMs nowMs
  validatePublicKeyBinding scheme signed.publicKey signed.payload.signerKeyId
  let expectedHash ← scheme.commitmentHash signed.payload.announcement signed.payload.discoveryEndpoint
  if signed.payload.capabilityHash ≠ expectedHash then .error .capabilityMismatch
  let canonical ← scheme.signatureBytes signed.payload
  if scheme.verifyContextBytes signed.publicKey canonical signed.signature then .ok ()
  else .error .invalidSignature

open Checked
open Table
open Text

/-! ### Candidates -/

inductive AuthenticatedPeerTrust
  | untrusted
  | trusted
  | suspended
  | revoked
  | epochMismatch
  deriving DecidableEq

/-- `RemotePermissionScope`, as far as a pairing tells them apart. -/
inductive RemotePermissionScope
  | screenView
  | other (name : String)
  deriving DecidableEq

/-- A peer as it is kept, with its identifier and both deadlines. -/
structure VerifiedLanPairingPeer where
  candidateId : String
  deviceId : DeviceId
  (deviceName peerKeyId : String)
  publicKey : List UInt8
  keyEpoch : Nat
  discoveryEndpoint : SocketAddr
  (expiresAtMs validUntil : Nat)
  deriving DecidableEq

structure StoredCandidate where
  peer : VerifiedLanPairingPeer
  signed : SignedLanAnnouncement

/-- The candidates by the identifiers of their keys. -/
structure LanPairingCandidates where
  peers : AList fun _ : String => StoredCandidate

/-- What the user is shown. -/
structure LanPairingCandidate where
  candidateId : String
  deviceId : DeviceId
  (deviceName peerKeyId : String)
  keyEpoch : Nat
  discoveryEndpoint : String
  expiresAtMs : Nat
  permissionCeiling : List RemotePermissionScope
  deriving DecidableEq

/-- What the user approves. -/
structure LanPairingApproval where
  candidateId : String
  deviceId : DeviceId
  peerKeyId : String
  keyEpoch : Nat
  discoveryEndpoint : String
  permissionCeiling : List RemotePermissionScope

inductive PairingError
  | protocol (error : LanProtocolError)
  | message (text : String)
  deriving DecidableEq

def maxPairingCandidates : Nat := 128

/-- Nanoseconds of a millisecond; a `Duration` and an `Instant` count nanoseconds. -/
def nanosPerMilli : Nat := 1000000

/-- An announcement says of the peer what is kept of it. -/
def sameBinding (peer : VerifiedLanPairingPeer) (signed : SignedLanAnnouncement) : Bool :=
  peer.deviceId.value = signed.payload.announcement.deviceId &&
    peer.deviceName = signed.payload.announcement.deviceName &&
    peer.peerKeyId = signed.payload.signerKeyId && peer.publicKey = signed.publicKey &&
    peer.keyEpoch = signed.payload.signerKeyEpoch &&
    peer.discoveryEndpoint = signed.payload.discoveryEndpoint

/-- Whether an entry is within both of its deadlines. -/
def StoredCandidate.alive (entry : StoredCandidate) (nowMs now : Nat) : Bool :=
  nowMs < entry.peer.expiresAtMs && now < entry.peer.validUntil

namespace LanPairingCandidates

def removePeer (cache : LanPairingCandidates) (keyId : String) : LanPairingCandidates :=
  ⟨cache.peers.erase keyId⟩

/-- Remove the entries that are past a deadline. -/
def pruneExpired (cache : LanPairingCandidates) (nowMs now : Nat) : LanPairingCandidates :=
  ⟨eraseAll cache.peers
    ((cache.peers.entries.filter fun entry => !entry.2.alive nowMs now).map fun entry => entry.1)⟩

/-- Another key has the device identifier or the endpoint of the peer. -/
def isAmbiguous (cache : LanPairingCandidates) (peer : VerifiedLanPairingPeer) : Bool :=
  cache.peers.entries.any fun entry =>
    entry.2.peer.peerKeyId ≠ peer.peerKeyId &&
      (entry.2.peer.deviceId = peer.deviceId || entry.2.peer.discoveryEndpoint = peer.discoveryEndpoint)

/-- The attempts at a new identifier; the generator fails where nothing is drawn. -/
def newCandidateId (cache : LanPairingCandidates) : Nat → List (List UInt8) → Except PairingError String
  | 0, _ => .error (.message "first pairing candidate identifier collision")
  | _ + 1, [] => .error (.message "first pairing candidate identifier generation failed")
  | attempts + 1, bytes :: rest =>
    if cache.peers.entries.all fun entry => entry.2.peer.candidateId ≠ lowerHex bytes then
      .ok (lowerHex bytes)
    else newCandidateId cache attempts rest

/-- The identifier of the entry: that of the previous one, if it is bound to the same values. -/
def candidateIdFor (cache : LanPairingCandidates) (signed : SignedLanAnnouncement)
    (draws : List (List UInt8)) : Except PairingError String :=
  match cache.peers.lookup signed.payload.signerKeyId with
  | some previous =>
    if previous.signed.payload.nonce = signed.payload.nonce then
      .error (.message "first pairing announcement nonce was already observed")
    else if sameBinding previous.peer signed then .ok previous.peer.candidateId
    else cache.newCandidateId 4 draws
  | none =>
    if maxPairingCandidates ≤ cache.peers.entries.length then
      .error (.message "first pairing candidate cache is full")
    else cache.newCandidateId 4 draws

variable (scheme : AnnouncementScheme) (instantMax : Nat)

/-- The checks of `observe_verified` after the expired candidates are gone: the entry to keep, or none for a
peer that is known already. -/
def entryFor (cache : LanPairingCandidates) (signed : SignedLanAnnouncement)
    (trust : AuthenticatedPeerTrust) (observedAtMs receivedAt peerTtl : Nat) (draws : List (List UInt8)) :
    Except PairingError (Option StoredCandidate) := do
  (signed.verify scheme observedAtMs).mapError .protocol
  if trust ≠ .untrusted then return none
  let remainingMs := signed.payload.expiresAtMs - observedAtMs
  if remainingMs = 0 then .error (.message "first pairing signed announcement expired")
  let freshness := min peerTtl (remainingMs * nanosPerMilli)
  let freshnessMs := freshness / nanosPerMilli
  if freshnessMs = 0 then .error (.message "first pairing candidate freshness is empty")
  if u64Max < observedAtMs + freshnessMs then .error (.message "first pairing expiry is invalid")
  if instantMax < receivedAt + freshness then
    .error (.message "first pairing monotonic deadline is invalid")
  let announcement := signed.payload.announcement
  if 128 < (bytes announcement.deviceId).length ∨ 256 < (bytes announcement.deviceName).length ∨
      announcement.deviceId.toList.any isControl ∨ announcement.deviceName.toList.any isControl then
    .error (.message "first pairing public identity is outside its bounded contract")
  let candidateId ← cache.candidateIdFor signed draws
  return some {
    peer := {
      candidateId
      deviceId := ⟨announcement.deviceId⟩
      deviceName := announcement.deviceName
      peerKeyId := signed.payload.signerKeyId
      publicKey := signed.publicKey
      keyEpoch := signed.payload.signerKeyEpoch
      discoveryEndpoint := signed.payload.discoveryEndpoint
      expiresAtMs := observedAtMs + freshnessMs
      validUntil := receivedAt + freshness }
    signed }

/-- Keep what an announcement of a peer that is not trusted says. -/
def observeVerified (cache : LanPairingCandidates) (signed : SignedLanAnnouncement)
    (trust : AuthenticatedPeerTrust) (observedAtMs receivedAt peerTtl : Nat) (draws : List (List UInt8)) :
    LanPairingCandidates × Except PairingError Unit :=
  let cache := cache.pruneExpired observedAtMs receivedAt
  match entryFor scheme instantMax cache signed trust observedAtMs receivedAt peerTtl draws with
  | .error error => (cache, .error error)
  | .ok none => (cache.removePeer signed.payload.signerKeyId, .ok ())
  | .ok (some entry) => (⟨cache.peers.insert signed.payload.signerKeyId entry⟩, .ok ())

/-- `display` is how an address is shown. -/
def snapshot (display : SocketAddr → String) (cache : LanPairingCandidates) (nowMs now : Nat) :
    LanPairingCandidates × List LanPairingCandidate :=
  let cache := cache.pruneExpired nowMs now
  (cache, (cache.peers.entries.filter fun entry => !cache.isAmbiguous entry.2.peer).map fun entry =>
    { candidateId := entry.2.peer.candidateId
      deviceId := entry.2.peer.deviceId
      deviceName := entry.2.peer.deviceName
      peerKeyId := entry.2.peer.peerKeyId
      keyEpoch := entry.2.peer.keyEpoch
      discoveryEndpoint := display entry.2.peer.discoveryEndpoint
      expiresAtMs := entry.2.peer.expiresAtMs
      permissionCeiling := [.screenView] })

/-- The peer that an approval stands for, if everything it names is still so. -/
def resolvePeer (display : SocketAddr → String) (cache : LanPairingCandidates)
    (approval : LanPairingApproval) (nowMs : Nat) : Except PairingError VerifiedLanPairingPeer := do
  if approval.permissionCeiling ≠ [.screenView] then
    .error (.message "first pairing requires exactly screen.view")
  let entry ← (cache.peers.lookup approval.peerKeyId).elim
    (.error (.message "first pairing candidate is absent or expired")) .ok
  let peer := entry.peer
  if peer.candidateId ≠ approval.candidateId ∨ peer.deviceId ≠ approval.deviceId ∨
      peer.peerKeyId ≠ approval.peerKeyId ∨ peer.keyEpoch ≠ approval.keyEpoch ∨
      display peer.discoveryEndpoint ≠ approval.discoveryEndpoint ∨ cache.isAmbiguous peer then
    .error (.message "first pairing candidate binding changed or is ambiguous")
  (entry.signed.verify scheme nowMs).mapError .protocol
  return peer

def resolve (display : SocketAddr → String) (cache : LanPairingCandidates) (approval : LanPairingApproval)
    (nowMs now : Nat) : LanPairingCandidates × Except PairingError VerifiedLanPairingPeer :=
  let cache := cache.pruneExpired nowMs now
  (cache, resolvePeer scheme display cache approval nowMs)

end LanPairingCandidates

/-! ### Calls -/

/-- The calls, with the clocks that they read and what is drawn in them. -/
inductive PairingCall
  | observeVerified (signed : SignedLanAnnouncement) (trust : AuthenticatedPeerTrust)
      (observedAtMs receivedAt peerTtl : Nat) (draws : List (List UInt8))
  | snapshot (nowMs now : Nat)
  | resolve (approval : LanPairingApproval) (nowMs now : Nat)
  | removePeer (keyId : String)

/-- The candidates, and what was ever drawn. -/
structure PairingWorld where
  cache : LanPairingCandidates
  drawn : List (List UInt8)

def PairingWorld.start : PairingWorld := ⟨⟨∅⟩, []⟩

section Calls

variable (scheme : AnnouncementScheme) (instantMax : Nat) (display : SocketAddr → String)

def perform (world : PairingWorld) : PairingCall → PairingWorld
  | .observeVerified signed trust observedAtMs receivedAt peerTtl draws =>
    { cache := (world.cache.observeVerified scheme instantMax signed trust observedAtMs receivedAt peerTtl
        draws).1
      drawn := draws ++ world.drawn }
  | .snapshot nowMs now => { world with cache := (world.cache.snapshot display nowMs now).1 }
  | .resolve approval nowMs now =>
    { world with cache := (world.cache.resolve scheme display approval nowMs now).1 }
  | .removePeer keyId => { world with cache := world.cache.removePeer keyId }

def performs (world : PairingWorld) (calls : List PairingCall) : PairingWorld :=
  calls.foldl (perform scheme instantMax display) world

def pairingStep (world : PairingWorld) (call : PairingCall) : Option PairingWorld :=
  some (perform scheme instantMax display world call)

end Calls

/-- **Nothing is drawn twice.** -/
def FreshDraws (world : PairingWorld) : PairingCall → Prop
  | .observeVerified _ _ _ _ _ draws => draws.Nodup ∧ ∀ bytes ∈ draws, bytes ∉ world.drawn
  | _ => True

/-! ### What one operation does -/

variable {entry : StoredCandidate} {nowMs now : Nat}

namespace LanPairingCandidates

variable {scheme : AnnouncementScheme} {instantMax : Nat} {display : SocketAddr → String}
  {cache : LanPairingCandidates}

/-- **Pruning keeps what is alive.** -/
theorem lookup_pruneExpired {key : String} :
    (cache.pruneExpired nowMs now).peers.lookup key = some entry ↔
      cache.peers.lookup key = some entry ∧ entry.alive nowMs now = true := by
  unfold pruneExpired
  rw [lookup_eraseAll]
  have expired : ∀ key, key ∈ (cache.peers.entries.filter fun entry => !entry.2.alive nowMs now).map
      (fun entry => entry.1) ↔
      ∃ entry, cache.peers.lookup key = some entry ∧ entry.alive nowMs now = false := by
    intro key
    rw [List.mem_map]
    constructor
    · rintro ⟨⟨key, entry⟩, member, rfl⟩
      obtain ⟨listed, dead⟩ := List.mem_filter.mp member
      exact ⟨entry, (mem_entries_alist _ _ _).mp listed, by simpa using dead⟩
    · rintro ⟨entry, found, dead⟩
      exact ⟨⟨key, entry⟩, List.mem_filter.mpr ⟨(mem_entries_alist _ _ _).mpr found, by simpa using dead⟩,
        rfl⟩
  split
  next gone =>
    obtain ⟨other, found, dead⟩ := (expired key).mp gone
    constructor
    · rintro ⟨⟩
    · rintro ⟨there, alive⟩
      rw [found] at there
      cases there
      simp [dead] at alive
  next kept =>
    constructor
    · intro found
      refine ⟨found, ?_⟩
      cases alive : entry.alive nowMs now with
      | true => rfl
      | false => exact absurd ((expired key).mpr ⟨entry, found, alive⟩) kept
    · exact fun both => both.1

theorem length_pruneExpired_le (nowMs now : Nat) :
    (cache.pruneExpired nowMs now).peers.entries.length ≤ cache.peers.entries.length := by
  rw [length_entries, length_entries]
  exact weigh_eraseAll_le _ _ _

theorem newCandidateId_ok {attempts : Nat} {draws : List (List UInt8)} {candidateId : String}
    (made : cache.newCandidateId attempts draws = .ok candidateId) :
    ∃ bytes ∈ draws, candidateId = lowerHex bytes := by
  induction attempts generalizing draws with
  | zero => cases made
  | succ attempts ih =>
    cases draws with
    | nil => cases made
    | cons bytes rest =>
      rw [newCandidateId] at made
      split at made
      · exact ⟨bytes, (.head _), (Except.ok.inj made).symm⟩
      · obtain ⟨later, member, is⟩ := ih made
        exact ⟨later, .tail _ member, is⟩

end LanPairingCandidates

/-- **What is kept of an announcement** is what it says, for no longer than it says. -/
structure Backed (entry : StoredCandidate) : Prop where
  deviceId : entry.peer.deviceId.value = entry.signed.payload.announcement.deviceId
  deviceName : entry.peer.deviceName = entry.signed.payload.announcement.deviceName
  peerKeyId : entry.peer.peerKeyId = entry.signed.payload.signerKeyId
  publicKey : entry.peer.publicKey = entry.signed.publicKey
  keyEpoch : entry.peer.keyEpoch = entry.signed.payload.signerKeyEpoch
  discoveryEndpoint : entry.peer.discoveryEndpoint = entry.signed.payload.discoveryEndpoint
  expiresAtMs : entry.peer.expiresAtMs ≤ entry.signed.payload.expiresAtMs

/-- The values that a candidate is bound to, with its identifier. -/
def VerifiedLanPairingPeer.binding (peer : VerifiedLanPairingPeer) :
    String × DeviceId × String × String × List UInt8 × Nat × SocketAddr :=
  (peer.candidateId, peer.deviceId, peer.deviceName, peer.peerKeyId, peer.publicKey, peer.keyEpoch,
    peer.discoveryEndpoint)

/-- How an entry comes to be kept. -/
structure Entered (scheme : AnnouncementScheme) (cache : LanPairingCandidates)
    (signed : SignedLanAnnouncement) (trust : AuthenticatedPeerTrust) (observedAtMs : Nat)
    (draws : List (List UInt8)) (entry : StoredCandidate) : Prop where
  untrusted : trust = .untrusted
  announcement : entry.signed = signed
  backed : Backed entry
  origin : (∃ previous, cache.peers.lookup signed.payload.signerKeyId = some previous ∧
      entry.peer.binding = previous.peer.binding) ∨
    ∃ bytes ∈ draws, entry.peer.candidateId = lowerHex bytes
  room : cache.peers.lookup signed.payload.signerKeyId = none →
    cache.peers.entries.length < maxPairingCandidates

variable {peer : VerifiedLanPairingPeer}

theorem sameBinding_iff {signed : SignedLanAnnouncement} :
    sameBinding peer signed = true ↔ peer.deviceId.value = signed.payload.announcement.deviceId ∧
      peer.deviceName = signed.payload.announcement.deviceName ∧
      peer.peerKeyId = signed.payload.signerKeyId ∧ peer.publicKey = signed.publicKey ∧
      peer.keyEpoch = signed.payload.signerKeyEpoch ∧
      peer.discoveryEndpoint = signed.payload.discoveryEndpoint := by
  simp [sameBinding, and_assoc]

namespace LanPairingCandidates

variable {scheme : AnnouncementScheme} {instantMax : Nat} {display : SocketAddr → String}
  {cache : LanPairingCandidates} {signed : SignedLanAnnouncement} {trust : AuthenticatedPeerTrust}
  {observedAtMs receivedAt peerTtl : Nat} {draws : List (List UInt8)}

/-- A peer that is known already, and whose announcement is genuine, is not kept. -/
theorem entryFor_known (verified : signed.verify scheme observedAtMs = .ok ()) (known : trust ≠ .untrusted) :
    entryFor scheme instantMax cache signed trust observedAtMs receivedAt peerTtl draws = .ok none := by
  unfold entryFor
  rw [verified]
  exact if_pos known

/-- **How an entry comes to be kept.** -/
theorem entryFor_entered
    (kept : entryFor scheme instantMax cache signed trust observedAtMs receivedAt peerTtl draws =
      .ok (some entry)) :
    Entered scheme cache signed trust observedAtMs draws entry := by
  obtain ⟨_, verified, kept⟩ := bind_ok kept
  split at kept
  · cases kept
  next untrusted =>
    obtain ⟨remaining, kept⟩ := guarded_ok kept
    have kept := guard_ok (guard_ok (guard_ok (guard_ok kept)))
    obtain ⟨candidateId, chosen, ⟨⟩⟩ := bind_ok kept
    unfold candidateIdFor at chosen
    have within : observedAtMs + min peerTtl ((signed.payload.expiresAtMs - observedAtMs) * nanosPerMilli) /
        nanosPerMilli ≤ signed.payload.expiresAtMs := by
      have least := Nat.div_le_div_right (c := nanosPerMilli)
        (min_le_right peerTtl ((signed.payload.expiresAtMs - observedAtMs) * nanosPerMilli))
      rw [Nat.mul_div_cancel _ (by decide)] at least
      omega
    refine ⟨not_not.mp untrusted, rfl, ⟨rfl, rfl, rfl, rfl, rfl, rfl, within⟩, ?_, fun missing => ?_⟩
    · cases found : cache.peers.lookup signed.payload.signerKeyId with
      | none =>
        rw [found] at chosen
        exact .inr (newCandidateId_ok (refused_ok chosen).2)
      | some previous =>
        rw [found] at chosen
        obtain ⟨-, chosen⟩ := refused_ok chosen
        by_cases same : sameBinding previous.peer signed = true
        · rw [if_pos same] at chosen
          obtain ⟨device, name, key, publicKey, epoch, endpoint⟩ := sameBinding_iff.mp same
          refine .inl ⟨previous, rfl, ?_⟩
          unfold VerifiedLanPairingPeer.binding
          rw [← Except.ok.inj chosen, ← device, name, key, publicKey, epoch, endpoint]
        · rw [if_neg same] at chosen
          exact .inr (newCandidateId_ok chosen)
    · rw [missing] at chosen
      exact Nat.not_le.mp (refused_ok chosen).1

end LanPairingCandidates

/-! ### What one call does -/

/-- **A call that leaves a candidate alone**: it reads clocks at which the candidate is alive, it does not
remove it, and it brings no genuine announcement of a peer that is known already. -/
def Spares (scheme : AnnouncementScheme) : PairingCall → String → StoredCandidate → Prop
  | .observeVerified signed trust observedAtMs receivedAt _ _, key, entry =>
    entry.alive observedAtMs receivedAt = true ∧
      (signed.payload.signerKeyId = key → signed.verify scheme observedAtMs = .ok () → trust = .untrusted)
  | .snapshot nowMs now, _, entry => entry.alive nowMs now = true
  | .resolve _ nowMs now, _, entry => entry.alive nowMs now = true
  | .removePeer keyId, key, _ => keyId ≠ key

/-- A call that puts an entry under a key. -/
structure Entering (scheme : AnnouncementScheme) (world : PairingWorld) (call : PairingCall) (key : String)
    (entry : StoredCandidate) : Prop where
  observed : ∃ signed trust observedAtMs receivedAt peerTtl draws,
    call = .observeVerified signed trust observedAtMs receivedAt peerTtl draws ∧
      key = signed.payload.signerKeyId ∧
      Entered scheme (world.cache.pruneExpired observedAtMs receivedAt) signed trust observedAtMs draws entry

section Steps

variable {scheme : AnnouncementScheme} {instantMax : Nat} {display : SocketAddr → String}
  {world : PairingWorld} {call : PairingCall} {key : String} {entry : StoredCandidate}

open LanPairingCandidates

/-- **What is there after a call** was left alone by it, or was put there by it. -/
theorem perform_lookup
    (there : (perform scheme instantMax display world call).cache.peers.lookup key = some entry) :
    (world.cache.peers.lookup key = some entry ∧ Spares scheme call key entry) ∨
      Entering scheme world call key entry := by
  cases call with
  | snapshot nowMs now | resolve approval nowMs now => exact .inl (lookup_pruneExpired.mp there)
  | removePeer keyId =>
    change (world.cache.peers.erase keyId).lookup key = some entry at there
    rw [lookup_erase_alist] at there
    split at there
    · cases there
    next other =>
      exact .inl ⟨there, fun same => other same.symm⟩
  | observeVerified signed trust observedAtMs receivedAt peerTtl draws =>
    change (observeVerified scheme instantMax world.cache signed trust observedAtMs receivedAt peerTtl
      draws).1.peers.lookup key = some entry at there
    unfold observeVerified at there
    dsimp only at there
    cases made : entryFor scheme instantMax (world.cache.pruneExpired observedAtMs receivedAt) signed trust
        observedAtMs receivedAt peerTtl draws with
    | error error =>
      rw [made] at there
      obtain ⟨found, alive⟩ := lookup_pruneExpired.mp there
      refine .inl ⟨found, alive, fun _ verified => ?_⟩
      by_contra known
      simp [entryFor_known verified known] at made
    | ok kept =>
      rw [made] at there
      cases kept with
      | none =>
        change ((world.cache.pruneExpired observedAtMs receivedAt).peers.erase
          signed.payload.signerKeyId).lookup key = some entry at there
        rw [lookup_erase_alist] at there
        split at there
        · cases there
        next other =>
          obtain ⟨found, alive⟩ := lookup_pruneExpired.mp there
          exact .inl ⟨found, alive, fun same => absurd same.symm other⟩
      | some stored =>
        change ((world.cache.pruneExpired observedAtMs receivedAt).peers.insert
          signed.payload.signerKeyId stored).lookup key = some entry at there
        rw [lookup_insert_alist] at there
        split at there
        next same =>
          cases there
          exact .inr ⟨signed, trust, observedAtMs, receivedAt, peerTtl, draws, rfl, same,
            entryFor_entered made⟩
        next other =>
          obtain ⟨found, alive⟩ := lookup_pruneExpired.mp there
          exact .inl ⟨found, alive, fun same => absurd same.symm other⟩

theorem perform_length (few : world.cache.peers.entries.length ≤ maxPairingCandidates) :
    (perform scheme instantMax display world call).cache.peers.entries.length ≤ maxPairingCandidates := by
  cases call with
  | snapshot nowMs now | resolve approval nowMs now => exact le_trans (length_pruneExpired_le nowMs now) few
  | removePeer keyId =>
    refine le_trans ?_ few
    show (world.cache.peers.erase keyId).entries.length ≤ _
    simpa [length_entries] using weigh_erase_le _ _ _
  | observeVerified signed trust observedAtMs receivedAt peerTtl draws =>
    have pruned := le_trans (length_pruneExpired_le observedAtMs receivedAt) few
    show (observeVerified scheme instantMax world.cache signed trust observedAtMs receivedAt peerTtl
      draws).1.peers.entries.length ≤ _
    unfold observeVerified
    dsimp only
    cases made : entryFor scheme instantMax (world.cache.pruneExpired observedAtMs receivedAt) signed trust
        observedAtMs receivedAt peerTtl draws with
    | error error => exact pruned
    | ok kept =>
      cases kept with
      | none =>
        refine le_trans ?_ pruned
        show ((world.cache.pruneExpired observedAtMs receivedAt).peers.erase _).entries.length ≤ _
        simpa [length_entries] using weigh_erase_le _ _ _
      | some stored =>
        show ((world.cache.pruneExpired observedAtMs receivedAt).peers.insert
          signed.payload.signerKeyId stored).entries.length ≤ _
        cases found : (world.cache.pruneExpired observedAtMs receivedAt).peers.lookup
            signed.payload.signerKeyId with
        | none =>
          have room := (entryFor_entered made).room found
          rw [length_entries] at room ⊢
          rw [weigh_insert_new _ _ found]
          omega
        | some previous =>
          rw [length_entries] at pruned ⊢
          refine le_trans (le_of_eq (weigh_replace _ found ?_)) pruned
          rfl

/-- **The invariant of the candidates.** -/
structure Sound (world : PairingWorld) : Prop where
  backed : ∀ key entry, world.cache.peers.lookup key = some entry → Backed entry
  keyed : ∀ key entry, world.cache.peers.lookup key = some entry → entry.peer.peerKeyId = key
  drawn : ∀ key entry, world.cache.peers.lookup key = some entry →
    ∃ bytes ∈ world.drawn, entry.peer.candidateId = lowerHex bytes
  distinct : ∀ first second entry other, world.cache.peers.lookup first = some entry →
    world.cache.peers.lookup second = some other → entry.peer.candidateId = other.peer.candidateId →
    first = second
  few : world.cache.peers.entries.length ≤ maxPairingCandidates

theorem sound_start : Sound .start := by
  have empty : ∀ key, PairingWorld.start.cache.peers.lookup key = none := fun key => AList.lookup_empty key
  refine ⟨?_, ?_, ?_, ?_, by decide⟩
  · intro key entry there
    simp [empty] at there
  · intro key entry there
    simp [empty] at there
  · intro key entry there
    simp [empty] at there
  · intro first second entry other there
    simp [empty] at there

theorem drawn_perform {bytes : List UInt8} (member : bytes ∈ world.drawn) :
    bytes ∈ (perform scheme instantMax display world call).drawn := by
  cases call with
  | observeVerified => exact List.mem_append_right _ member
  | snapshot | resolve | removePeer => exact member

/-- **An identifier that was drawn before the call belongs to an entry that was there before it**, bound to
the same values and left alone. -/
theorem perform_back (fresh : FreshDraws world call)
    (used : ∃ bytes ∈ world.drawn, entry.peer.candidateId = lowerHex bytes)
    (there : (perform scheme instantMax display world call).cache.peers.lookup key = some entry) :
    ∃ previous, world.cache.peers.lookup key = some previous ∧
      previous.peer.binding = entry.peer.binding ∧ Spares scheme call key previous := by
  rcases perform_lookup there with ⟨found, spares⟩ | ⟨signed, trust, observedAtMs, receivedAt, peerTtl, draws,
    rfl, rfl, entered⟩
  · exact ⟨entry, found, rfl, spares⟩
  · rcases entered.origin with ⟨previous, found, same⟩ | ⟨bytes, member, is⟩
    · obtain ⟨there, alive⟩ := lookup_pruneExpired.mp found
      exact ⟨previous, there, same.symm, alive, fun _ _ => entered.untrusted⟩
    · obtain ⟨other, old, was⟩ := used
      have equal := lowerHex_injective (is.symm.trans was)
      exact absurd (equal ▸ old) (fresh.2 bytes member)

theorem sound_perform (sound : Sound world) (fresh : FreshDraws world call) :
    Sound (perform scheme instantMax display world call) := by
  have bound : ∀ {first second : StoredCandidate}, first.peer.binding = second.peer.binding →
      first.peer.candidateId = second.peer.candidateId := fun same => congrArg Prod.fst same
  -- An entry that is put there, and one that was there: their identifiers only agree under one key.
  have apart : ∀ {first second entry other}, Entering scheme world call first entry →
      world.cache.peers.lookup second = some other →
      entry.peer.candidateId = other.peer.candidateId → first = second := by
    rintro first second entry other ⟨signed, trust, observedAtMs, receivedAt, peerTtl, draws, rfl, rfl,
      entered⟩ found same
    rcases entered.origin with ⟨previous, was, binding⟩ | ⟨bytes, member, is⟩
    · exact sound.distinct _ second previous other (lookup_pruneExpired.mp was).1 found
        ((bound binding).symm.trans same)
    · obtain ⟨old, listed, shown⟩ := sound.drawn second other found
      have equal := lowerHex_injective (is.symm.trans (same.trans shown))
      exact absurd (equal ▸ listed) (fresh.2 bytes member)
  refine ⟨?_, ?_, ?_, ?_, perform_length sound.few⟩
  · intro key entry there
    rcases perform_lookup there with ⟨found, -⟩ | ⟨_, _, _, _, _, _, -, -, entered⟩
    · exact sound.backed key entry found
    · exact entered.backed
  · intro key entry there
    rcases perform_lookup there with ⟨found, -⟩ | ⟨_, _, _, _, _, _, -, rfl, entered⟩
    · exact sound.keyed key entry found
    · rw [entered.backed.peerKeyId, entered.announcement]
  · intro key entry there
    rcases perform_lookup there with ⟨found, -⟩ | ⟨signed, trust, observedAtMs, receivedAt, peerTtl, draws,
      rfl, rfl, entered⟩
    · obtain ⟨bytes, member, is⟩ := sound.drawn key entry found
      exact ⟨bytes, drawn_perform member, is⟩
    · rcases entered.origin with ⟨previous, found, same⟩ | ⟨bytes, member, is⟩
      · obtain ⟨bytes, member, is⟩ := sound.drawn _ previous (lookup_pruneExpired.mp found).1
        exact ⟨bytes, drawn_perform member, (bound same).trans is⟩
      · exact ⟨bytes, List.mem_append_left _ member, is⟩
  · intro first second entry other there also same
    rcases perform_lookup there with ⟨found, -⟩ | entering
    · rcases perform_lookup also with ⟨beside, -⟩ | entering
      · exact sound.distinct first second entry other found beside same
      · exact (apart entering found same.symm).symm
    · rcases perform_lookup also with ⟨beside, -⟩ | again
      · exact apart entering beside same
      · obtain ⟨signed, _, _, _, _, _, rfl, rfl, _⟩ := entering
        obtain ⟨_, _, _, _, _, _, ⟨⟩, key, _⟩ := again
        exact key.symm

end Steps

/-! ### What is resolved was shown -/

section Runs

variable (scheme : AnnouncementScheme) (instantMax : Nat) (display : SocketAddr → String)

/-- Nothing is drawn twice along the calls. -/
def FreshAlong (world : PairingWorld) : List PairingCall → Prop
  | [] => True
  | call :: rest => FreshDraws world call ∧ FreshAlong (perform scheme instantMax display world call) rest

variable {scheme instantMax display}

variable {world : PairingWorld}

theorem sound_of_reach
    (reach : Execution.Reach (pairingStep scheme instantMax display) FreshDraws .start world) :
    Sound world := by
  refine reach.invariant sound_start fun world call next sound fresh taken => ?_
  cases taken
  exact sound_perform sound fresh

variable {calls : List PairingCall}

theorem sound_performs (sound : Sound world)
    (fresh : FreshAlong scheme instantMax display world calls) :
    ∀ front back, calls = front ++ back → Sound (performs scheme instantMax display world front) := by
  induction calls generalizing world with
  | nil =>
    intro front back whole
    rw [(List.append_eq_nil_iff.mp whole.symm).1]
    exact sound
  | cons call rest ih =>
    intro front back whole
    cases front with
    | nil => exact sound
    | cons first others =>
      obtain ⟨rfl, tails⟩ := List.cons.inj whole
      exact ih (sound_perform sound fresh.1) fresh.2 others back tails

/-- **An identifier that is still there** at the end of the calls was there before each of them. -/
theorem performs_back {key : String} (fresh : FreshAlong scheme instantMax display world calls)
    (used : ∃ bytes ∈ world.drawn, entry.peer.candidateId = lowerHex bytes)
    (there : (performs scheme instantMax display world calls).cache.peers.lookup key = some entry) :
    ∀ front back, calls = front ++ back → ∃ previous,
      (performs scheme instantMax display world front).cache.peers.lookup key = some previous ∧
        previous.peer.binding = entry.peer.binding ∧
        ∀ call rest, back = call :: rest → Spares scheme call key previous := by
  induction calls generalizing world with
  | nil =>
    intro front back whole
    obtain ⟨rfl, rfl⟩ := List.append_eq_nil_iff.mp whole.symm
    exact ⟨entry, there, rfl, fun _ _ empty => absurd empty (List.cons_ne_nil _ _).symm⟩
  | cons call rest ih =>
    obtain ⟨bytes, member, is⟩ := used
    have later := ih fresh.2 ⟨bytes, drawn_perform member, is⟩ there
    intro front back whole
    cases front with
    | nil =>
      obtain ⟨next, found, same, -⟩ := later [] rest rfl
      have carried : next.peer.candidateId = entry.peer.candidateId := congrArg Prod.fst same
      obtain ⟨previous, was, before, spares⟩ := perform_back fresh.1 ⟨bytes, member, carried.trans is⟩ found
      refine ⟨previous, was, before.trans same, fun other others split => ?_⟩
      have shown := whole.trans split
      cases shown
      exact spares
    | cons first others =>
      obtain ⟨rfl, tails⟩ := List.cons.inj whole
      exact later others back tails

end Runs

namespace LanPairingCandidates

variable {scheme : AnnouncementScheme} {display : SocketAddr → String} {cache : LanPairingCandidates}

theorem mem_snapshot {candidate : LanPairingCandidate}
    (listed : candidate ∈ (cache.snapshot display nowMs now).2) :
    ∃ key entry, (cache.pruneExpired nowMs now).peers.lookup key = some entry ∧
      candidate.candidateId = entry.peer.candidateId ∧ candidate.deviceId = entry.peer.deviceId ∧
      candidate.deviceName = entry.peer.deviceName ∧ candidate.peerKeyId = entry.peer.peerKeyId ∧
      candidate.keyEpoch = entry.peer.keyEpoch ∧
      candidate.discoveryEndpoint = display entry.peer.discoveryEndpoint := by
  obtain ⟨⟨key, entry⟩, member, rfl⟩ := List.mem_map.mp listed
  have kept := (List.mem_filter.mp member).1
  exact ⟨key, entry, (mem_entries_alist _ _ _).mp kept, rfl, rfl, rfl, rfl, rfl, rfl⟩

/-- **What an approval resolves to.** -/
theorem resolve_ok {approval : LanPairingApproval}
    (resolved : (cache.resolve scheme display approval nowMs now).2 = .ok peer) :
    ∃ entry, (cache.pruneExpired nowMs now).peers.lookup approval.peerKeyId = some entry ∧ entry.peer = peer ∧
      peer.candidateId = approval.candidateId ∧ peer.peerKeyId = approval.peerKeyId ∧
      (cache.pruneExpired nowMs now).isAmbiguous peer = false ∧
      entry.signed.verify scheme nowMs = .ok () := by
  change resolvePeer scheme display (cache.pruneExpired nowMs now) approval nowMs = .ok peer at resolved
  unfold resolvePeer at resolved
  obtain ⟨entry, found, resolved⟩ := bind_ok (guard_ok resolved)
  obtain ⟨same, resolved⟩ := guarded_ok resolved
  obtain ⟨_, verified, ⟨⟩⟩ := bind_ok resolved
  simp only [not_or, not_not, Bool.not_eq_true] at same
  exact ⟨entry, required_ok found, rfl, same.1, same.2.2.1, same.2.2.2.2.2, ok_of_mapError verified⟩

end LanPairingCandidates

/-- **The peer and its announcement at the time of the approval**: both deadlines lie ahead, the announcement
verifies and says what is stored, and nobody else who is alive has the device identifier or the endpoint. -/
structure Approvable (scheme : AnnouncementScheme) (cache : LanPairingCandidates)
    (peer : VerifiedLanPairingPeer) (nowMs now : Nat) : Prop where
  stored : ∃ entry, cache.peers.lookup peer.peerKeyId = some entry ∧ entry.peer = peer ∧ Backed entry ∧
    entry.signed.verify scheme nowMs = .ok () ∧ nowMs < entry.signed.payload.expiresAtMs
  expires : nowMs < peer.expiresAtMs
  fresh : now < peer.validUntil
  alone : ∀ key other, cache.peers.lookup key = some other → other.alive nowMs now = true →
    key ≠ peer.peerKeyId →
    other.peer.deviceId ≠ peer.deviceId ∧ other.peer.discoveryEndpoint ≠ peer.discoveryEndpoint

/-- **What is resolved is what was shown.** In every run in which nothing is drawn twice: if a snapshot lists
a candidate, any calls follow, and then an approval with its identifier resolves to a peer, then the peer has
the values that were shown; before each of the calls in between it was there, bound to the same values, and
the call left it alone; it can be approved now; and there were never more than 128 candidates. -/
theorem resolved_as_shown {scheme : AnnouncementScheme} {instantMax : Nat} {display : SocketAddr → String}
    {first : PairingWorld}
    (reach : Execution.Reach (pairingStep scheme instantMax display) FreshDraws .start first)
    {shownMs shown : Nat} {candidate : LanPairingCandidate}
    (listed : candidate ∈ (first.cache.snapshot display shownMs shown).2) {calls : List PairingCall}
    (fresh : FreshAlong scheme instantMax display
      (perform scheme instantMax display first (.snapshot shownMs shown)) calls)
    {approval : LanPairingApproval} {nowMs now : Nat} {peer : VerifiedLanPairingPeer}
    (same : candidate.candidateId = approval.candidateId) :
    let begin := perform scheme instantMax display first (.snapshot shownMs shown)
    let last := performs scheme instantMax display begin calls
    (last.cache.resolve scheme display approval nowMs now).2 = .ok peer →
      (candidate.candidateId = peer.candidateId ∧ candidate.deviceId = peer.deviceId ∧
        candidate.deviceName = peer.deviceName ∧ candidate.peerKeyId = peer.peerKeyId ∧
        candidate.keyEpoch = peer.keyEpoch ∧
        candidate.discoveryEndpoint = display peer.discoveryEndpoint) ∧
      (∀ front call back, calls = front ++ call :: back → ∃ entry,
        (performs scheme instantMax display begin front).cache.peers.lookup peer.peerKeyId = some entry ∧
          entry.peer.binding = peer.binding ∧ Spares scheme call peer.peerKeyId entry) ∧
      Approvable scheme last.cache peer nowMs now ∧
      ∀ front back, calls = front ++ back →
        (performs scheme instantMax display begin front).cache.peers.entries.length ≤ maxPairingCandidates := by
  intro begin last resolved
  have start : Sound begin := sound_perform (sound_of_reach reach) trivial
  have sounds := sound_performs start fresh
  have sound : Sound last := sounds calls [] (List.append_nil _).symm
  obtain ⟨entry, found, rfl, id, key, alone, verified⟩ := LanPairingCandidates.resolve_ok resolved
  obtain ⟨there, alive⟩ := LanPairingCandidates.lookup_pruneExpired.mp found
  obtain ⟨place, shownEntry, showing, shownId, device, name, keyId, epoch, endpoint⟩ :=
    LanPairingCandidates.mem_snapshot listed
  have showing : begin.cache.peers.lookup place = some shownEntry := showing
  obtain ⟨bytes, member, is⟩ := start.drawn place shownEntry showing
  have used : ∃ bytes ∈ begin.drawn, entry.peer.candidateId = lowerHex bytes :=
    ⟨bytes, member, by rw [id, ← same, shownId, is]⟩
  have back := performs_back fresh used there
  -- The entry that was shown is the one that is traced back to the snapshot.
  obtain ⟨origin, was, binding, -⟩ := back [] calls rfl
  have originId : shownEntry.peer.candidateId = origin.peer.candidateId := by
    have carried : origin.peer.candidateId = entry.peer.candidateId := congrArg Prod.fst binding
    rw [← shownId, carried, id, same]
  have places : place = approval.peerKeyId :=
    start.distinct place approval.peerKeyId shownEntry origin showing was originId
  rw [places] at showing
  cases showing.symm.trans was
  unfold VerifiedLanPairingPeer.binding at binding
  simp only [Prod.mk.injEq] at binding
  obtain ⟨-, devices, names, keys, -, epochs, endpoints⟩ := binding
  refine ⟨⟨same.trans id.symm, device.trans devices, name.trans names, keyId.trans keys, epoch.trans epochs,
    by rw [endpoint, endpoints]⟩, ?_, ?_, fun front rest whole => (sounds front rest whole).few⟩
  · intro front call rest whole
    obtain ⟨previous, held, bound, spares⟩ := back front (call :: rest) whole
    rw [key]
    exact ⟨previous, held, bound, spares call rest rfl⟩
  · have backed := sound.backed _ entry there
    have deadlines := alive
    unfold StoredCandidate.alive at deadlines
    rw [Bool.and_eq_true, decide_eq_true_eq, decide_eq_true_eq] at deadlines
    refine ⟨⟨entry, by rw [key]; exact there, rfl, backed, verified, ?_⟩, deadlines.1, deadlines.2, ?_⟩
    · exact lt_of_lt_of_le deadlines.1 backed.expiresAtMs
    · intro place other held living elsewhere
      have kept := LanPairingCandidates.lookup_pruneExpired.mpr ⟨held, living⟩
      have clear := List.any_eq_false.mp alone ⟨place, other⟩ ((mem_entries_alist _ _ _).mpr kept)
      rw [sound.keyed place other held] at clear
      simp only [ne_eq, decide_not, Bool.and_eq_true, Bool.not_eq_true', decide_eq_false_iff_not,
        Bool.or_eq_true, decide_eq_true_eq, not_and, not_or] at clear
      exact clear elsewhere

/-! ### An example -/

/-- A scheme with one key and one signature. -/
def sampleScheme : AnnouncementScheme where
  commitmentHash _ _ := .ok (.replicate 32 0)
  signatureBytes _ := .ok []
  publicKeyId _ := "key"
  verifyContextBytes _ _ signature := signature = [7]

/-- The IPv4 addresses of the sample, as they are shown. -/
def sampleDisplay (address : SocketAddr) : String :=
  match address.ip with
  | .v4 octets => ".".intercalate (octets.toList.map fun octet => toString octet.toNat) ++ ":" ++
      toString address.port
  | .v6 _ => ""

def sampleAnnouncement (timestampMs : Nat) (nonce : UInt8) : SignedLanAnnouncement where
  payload :=
    { announcement :=
        { magic := discoveryMagic
          appId := discoveryAppId
          instanceId := "instance"
          deviceId := "device"
          deviceName := "Device"
          deviceType := "desktop"
          protocolVersion := 3
          discoveryPort := 21116
          transports := ["quic"]
          serviceBuildId := none
          mediaProtocolVersion := none
          mediaCapabilities := []
          macAddress := none
          timestampMs }
      discoveryEndpoint := ⟨.v4 #v[192, 168, 1, 2], 21116, 0, 0⟩
      signerKeyId := "key"
      signerKeyEpoch := 1
      expiresAtMs := timestampMs + 5000
      nonce := .replicate 16 nonce
      capabilityHash := .replicate 32 0 }
  publicKey := .replicate 32 1
  signature := [7]

/-- The announcement as it is observed, with what is drawn. -/
def sampleObserved (timestampMs : Nat) (nonce : UInt8) : PairingCall :=
  .observeVerified (sampleAnnouncement timestampMs nonce) .untrusted timestampMs (timestampMs * nanosPerMilli)
    (5000 * nanosPerMilli) [.replicate 16 nonce]

def sampleCandidate : LanPairingCandidate where
  candidateId := lowerHex (.replicate 16 1)
  deviceId := ⟨"device"⟩
  deviceName := "Device"
  peerKeyId := "key"
  keyEpoch := 1
  discoveryEndpoint := "192.168.1.2:21116"
  expiresAtMs := 6000
  permissionCeiling := [.screenView]

def sampleApproval : LanPairingApproval where
  candidateId := sampleCandidate.candidateId
  deviceId := ⟨"device"⟩
  peerKeyId := "key"
  keyEpoch := 1
  discoveryEndpoint := "192.168.1.2:21116"
  permissionCeiling := [.screenView]

/-- The peer after the renewal. -/
def samplePeer : VerifiedLanPairingPeer where
  candidateId := sampleCandidate.candidateId
  deviceId := ⟨"device"⟩
  deviceName := "Device"
  peerKeyId := "key"
  publicKey := .replicate 32 1
  keyEpoch := 1
  discoveryEndpoint := ⟨.v4 #v[192, 168, 1, 2], 21116, 0, 0⟩
  expiresAtMs := 7000
  validUntil := 7000 * nanosPerMilli

/-- A candidate that is shown, renewed and approved. -/
theorem resolved_as_shown_sample :
    sampleCandidate.deviceName = samplePeer.deviceName ∧ 6500 < samplePeer.expiresAtMs := by
  have draws : FreshDraws .start (sampleObserved 1000 1) :=
    ⟨List.nodup_singleton _, nofun⟩
  have reach : Execution.Reach (pairingStep sampleScheme (2 ^ 64) sampleDisplay) FreshDraws .start
      (perform sampleScheme (2 ^ 64) sampleDisplay .start (sampleObserved 1000 1)) := .single draws rfl
  have fresh : FreshAlong sampleScheme (2 ^ 64) sampleDisplay
      (perform sampleScheme (2 ^ 64) sampleDisplay (perform sampleScheme (2 ^ 64) sampleDisplay .start
        (sampleObserved 1000 1)) (.snapshot 1500 (1500 * nanosPerMilli))) [sampleObserved 2000 2] := by
    refine ⟨⟨List.nodup_singleton _, ?_⟩, trivial⟩
    intro bytes member
    rw [List.mem_singleton.mp member]
    show List.replicate 16 2 ∉ [List.replicate 16 1]
    decide
  have resolved := @resolved_as_shown sampleScheme (2 ^ 64) sampleDisplay _ reach 1500 (1500 * nanosPerMilli)
    sampleCandidate (by decide +kernel) [sampleObserved 2000 2] fresh sampleApproval 6500
    (6500 * nanosPerMilli) samplePeer rfl (by decide +kernel)
  exact ⟨resolved.1.2.2.1, resolved.2.2.1.expires⟩

end MiniRemoteDesktop.Lan
