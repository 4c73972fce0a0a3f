/-
**Self-enrollment** (`app/services/device_self_enrollment.py`).

A device without an account proves that it holds a key: it asks for a challenge and signs it together with
its registration. The key is then pinned to a device, found again by its key or new.

* `issue`, `register` — the two calls. They look for a browser with the key in `view` and read the rest
  from the tables, where their locks hold it.
* `Registered`, `register_ok` — **what a registration does**: it consumes its challenge, and describes the
  device that the key is pinned to or pins the key to a new one.

SHA-256, the digest of serial numbers, Ed25519 and the reading of JSON are parameters.
-/

import MiniRemoteDesktop.Browser.Publication

namespace MiniRemoteDesktop.Browser

open Checked Rows
open Relay.Server (unixMs)

/-! ### The service -/

structure DeviceRegisterRequest where
  (motherboardSerial hostname osVersion : String)

structure DeviceSelfEnrollmentService where
  apiUrl : String
  (ttlSeconds globalPerMinute ipPerMinute keyPerMinute : Nat)
  sha256 : List UInt8 → List UInt8
  (serialDigest codeOfDigest : String → String)
  verifies : List UInt8 → List UInt8 → List UInt8 → Bool
  readRegistration : String → Option DeviceRegisterRequest

/-- `DeviceEnrollmentError`, and `failed` for a transaction that the database does not commit. -/
inductive EnrollmentError
  | invalid
  | conflict
  | rateLimited
  | codeUnavailable
  | failed

/-- `_validate_key`. -/
def validKey (service : DeviceSelfEnrollmentService) (keyId publicKey : String) : Bool :=
  Text.isLowerHex 64 keyId && Text.isLowerHex 64 publicKey &&
    decide (fromHex publicKey ≠ List.replicate 32 0) &&
    decide (Text.lowerHex (service.sha256 (fromHex publicKey)) = keyId)

def DeviceSelfEnrollmentService.nonceDigest (service : DeviceSelfEnrollmentService) (nonce : String) : String :=
  Text.lowerHex (service.sha256 (Text.bytes "MRD_SELF_ENROLLMENT_NONCE_V1" ++ 0 :: fromHex nonce))

/-- The digest of a peer. -/
def DeviceSelfEnrollmentService.peerDigest (service : DeviceSelfEnrollmentService) (peer : String) : String :=
  Text.lowerHex (service.sha256 (Text.bytes "MRD_SELF_ENROLLMENT_PEER_V1" ++ 0 :: Text.bytes peer))

/-! ### Challenges -/

/-- **A call of `issue`**, with the address of the peer where it is one, and what is drawn. -/
structure IssueCall where
  (keyId publicKey : String)
  peer : Option String
  now : Nat
  (challengeId nonce : String)

/-- Microseconds in a minute. -/
def minute : Nat := 60 * 1000000

/-- The challenges that are counted against a limit. -/
def recentChallenges (challenges : List DeviceSelfEnrollmentChallenge) (now : Nat)
    (counted : DeviceSelfEnrollmentChallenge → Bool) : Nat :=
  (challenges.filter fun challenge => now < challenge.issuedAt + minute && counted challenge).length

def issue (service : DeviceSelfEnrollmentService) (view tables : Tables) (call : IssueCall) :
    Except EnrollmentError Tables := do
  if validKey service call.keyId call.publicKey = false then .error .invalid
  let peer ← call.peer.elim (.error .invalid) .ok
  if view.keyIsBrowserController call.keyId then .error .invalid
  let challenges := tables.challenges.filter fun challenge => call.now ≤ challenge.expiresAt + minute
  if 10000 ≤ challenges.length ∨
      service.globalPerMinute ≤ recentChallenges challenges call.now (fun _ => true) ∨
      service.ipPerMinute ≤ recentChallenges challenges call.now
        (fun challenge => challenge.peerDigest = service.peerDigest peer) ∨
      service.keyPerMinute ≤ recentChallenges challenges call.now
        (fun challenge => challenge.keyId = call.keyId) then .error .rateLimited
  if (tables.challenge call.challengeId).isSome then .error .failed
  return { tables with
    challenges := challenges ++ [{
      challengeId := call.challengeId
      nonceDigest := service.nonceDigest call.nonce
      keyId := call.keyId
      publicKey := call.publicKey
      apiUrl := service.apiUrl
      peerDigest := service.peerDigest peer
      issuedAt := call.now
      expiresAt := call.now + service.ttlSeconds * 1000000
      consumedAt := none }] }

/-! ### Registrations -/

structure DeviceSelfRegisterRequest where
  (keyId publicKey challengeId nonce registrationJson signature : String)
  deriving DecidableEq

/-- **A call of `register`**, with its readings of the clock before and after it locks the device, the id
of a new row and the codes that are drawn for it. -/
structure RegisterCall where
  request : DeviceSelfRegisterRequest
  (now later : Nat)
  newRowId : String
  codes : List String

def canonicalSelfRegistration (service : DeviceSelfEnrollmentService) (request : DeviceSelfRegisterRequest) :
    List UInt8 :=
  Text.bytes ("POST\n" ++ service.apiUrl ++ "/devices/self-register\n" ++ request.challengeId ++ "\n" ++
    request.nonce ++ "\n" ++ request.keyId ++ "\n" ++
    Text.lowerHex (service.sha256 (Text.bytes request.registrationJson)))

def contextualSelfRegistration (canonical : List UInt8) : List UInt8 :=
  let domain := Text.bytes "MRD_DEVICE_SELF_ENROLLMENT_V1"
  Text.bytes "MRD_CONTEXT_SIGNATURE_V1" ++ Relay.pushU16 domain.length ++ domain ++
    Relay.pushU64 canonical.length ++ canonical

/-- `str.isspace`, of one character. -/
def isSpace (char : Char) : Bool := Text.isWhitespace char || (0x1C ≤ char.toNat && char.toNat ≤ 0x1F)

/-- `value.split()[0]`; of a text without words the registration is refused. -/
def firstWord (value : String) : String :=
  String.ofList ((value.toList.dropWhile isSpace).takeWhile fun char => !isSpace char)

/-- The challenge may be consumed now. -/
def challengeOpen (challenge : DeviceSelfEnrollmentChallenge) (now : Nat) : Bool :=
  now < challenge.expiresAt && challenge.issuedAt ≤ now

/-- The challenge is the one of the request, and was not consumed. -/
def challengeMatches (service : DeviceSelfEnrollmentService) (challenge : DeviceSelfEnrollmentChallenge)
    (request : DeviceSelfRegisterRequest) : Bool :=
  challenge.consumedAt = none ∧ challenge.apiUrl = service.apiUrl ∧ challenge.keyId = request.keyId ∧
    challenge.publicKey = request.publicKey ∧ challenge.nonceDigest = service.nonceDigest request.nonce

/-- The key of the request signed it. -/
def signedRegistration (service : DeviceSelfEnrollmentService) (request : DeviceSelfRegisterRequest) : Bool :=
  service.verifies (fromHex request.publicKey)
    (contextualSelfRegistration (canonicalSelfRegistration service request)) (fromHex request.signature)

/-- The registration that the request carries. -/
def registrationOf (service : DeviceSelfEnrollmentService) (request : DeviceSelfRegisterRequest) :
    Option DeviceRegisterRequest :=
  (service.readRegistration request.registrationJson).filter fun registration =>
    registration.hostname.toList.any (!isSpace ·) && registration.osVersion.toList.any (!isSpace ·)

/-- What a registration says about its machine. -/
def Device.described (device : Device) (registration : DeviceRegisterRequest) : Device :=
  { device with
    hostname := some registration.hostname
    osVersion := some registration.osVersion
    os := firstWord registration.osVersion }

/-- `_allocate_device`: the first code that no device has, of 32. -/
def allocateDevice (service : DeviceSelfEnrollmentService) (tables : Tables) (call : RegisterCall)
    (registration : DeviceRegisterRequest) (serialDigest : String) : Except EnrollmentError Device := do
  let codes := (service.codeOfDigest serialDigest :: call.codes).take 32
  let code ← (codes.find? fun code => tables.devices.all fun device => device.deviceId ≠ code).elim
    (.error .codeUnavailable) .ok
  if (tables.device call.newRowId).isSome then .error .failed
  return {
    id := call.newRowId
    deviceId := code
    principalKind := .physical
    tenantId := "default"
    isBound := false
    boundUserId := none
    authVersion := 1
    authRevokedAt := none
    motherboardSerialDigest := some serialDigest
    hostname := some registration.hostname
    osVersion := some registration.osVersion
    os := firstWord registration.osVersion }

/-- A key that is pinned: its device is described again. -/
def describeDevice (tables : Tables) (mapping : DeviceMachineIdentity) (call : RegisterCall)
    (registration : DeviceRegisterRequest) (serialDigest : String) : Except EnrollmentError Tables := do
  if mapping.publicKey ≠ call.request.publicKey then .error .invalid
  let device ← (tables.device mapping.deviceRowId).elim (.error .invalid) .ok
  if device.authRevokedAt.isSome ∨ device.principalKind ≠ .physical ∨
      device.deviceId.startsWith "browser_" then .error .invalid
  if device.motherboardSerialDigest.getD "" ≠ serialDigest then .error .conflict
  return { tables with devices := put Device.id tables.devices (device.described registration) }

/-- A key that is not: it is pinned to a new device. -/
def enrollDevice (service : DeviceSelfEnrollmentService) (tables : Tables) (call : RegisterCall)
    (registration : DeviceRegisterRequest) (serialDigest : String) : Except EnrollmentError Tables := do
  if tables.devices.any (fun device => device.motherboardSerialDigest = some serialDigest) then
    .error .conflict
  let device ← allocateDevice service tables call registration serialDigest
  if (tables.identityOf device.id).isSome then .error .failed
  return { tables with
    devices := tables.devices ++ [device]
    identities := tables.identities ++ [⟨call.request.keyId, call.request.publicKey, device.id, call.now⟩] }

/-- The device of the registration, found by its key or new. -/
def enrolledTables (service : DeviceSelfEnrollmentService) (tables : Tables) (call : RegisterCall)
    (registration : DeviceRegisterRequest) : Except EnrollmentError Tables :=
  let serialDigest := service.serialDigest registration.motherboardSerial
  match tables.identityOfKey call.request.keyId with
  | some mapping => describeDevice tables mapping call registration serialDigest
  | none => enrollDevice service tables call registration serialDigest

/-- The challenge is consumed. -/
def consumeChallenge (tables : Tables) (challenge : DeviceSelfEnrollmentChallenge) (now : Nat) : Tables :=
  { tables with
    challenges := put DeviceSelfEnrollmentChallenge.challengeId tables.challenges
      { challenge with consumedAt := some now } }

/-- **`register`.** -/
def register (service : DeviceSelfEnrollmentService) (view tables : Tables) (call : RegisterCall) :
    Except EnrollmentError Tables := do
  if validKey service call.request.keyId call.request.publicKey = false then .error .invalid
  if view.keyIsBrowserController call.request.keyId then .error .invalid
  let challenge ← (tables.challenge call.request.challengeId).elim (.error .invalid) .ok
  if challengeOpen challenge call.now = false ∨ challengeMatches service challenge call.request = false then
    .error .invalid
  if signedRegistration service call.request = false then .error .invalid
  let registration ← (registrationOf service call.request).elim (.error .invalid) .ok
  let enrolled ← enrolledTables service tables call registration
  if challengeOpen challenge call.later = false then .error .invalid
  return consumeChallenge enrolled challenge call.later

/-! ### What a registration does -/

variable {service : DeviceSelfEnrollmentService} {view tables after : Tables} {call : RegisterCall}

/-- **What a registration makes of devices and keys.** -/
inductive Enrolled (tables : Tables) (call : RegisterCall) : Tables → Prop
  | described (mapping : DeviceMachineIdentity) (device : Device) (registration : DeviceRegisterRequest)
      (pinned : tables.identityOfKey call.request.keyId = some mapping)
      (found : tables.device mapping.deviceRowId = some device) :
      Enrolled tables call
        { tables with devices := put Device.id tables.devices (device.described registration) }
  | pinned (device : Device) (kind : device.principalKind = .physical)
      (free : tables.identityOfKey call.request.keyId = none) (new : tables.device device.id = none)
      (unpinned : tables.identityOf device.id = none) :
      Enrolled tables call { tables with
        devices := tables.devices ++ [device]
        identities := tables.identities ++
          [⟨call.request.keyId, call.request.publicKey, device.id, call.now⟩] }

/-- What was checked of a registration that is accepted. -/
structure Proven (service : DeviceSelfEnrollmentService) (view tables : Tables) (call : RegisterCall)
    (challenge : DeviceSelfEnrollmentChallenge) : Prop where
  key : validKey service call.request.keyId call.request.publicKey = true
  separate : view.keyIsBrowserController call.request.keyId = false
  found : tables.challenge call.request.challengeId = some challenge
  unconsumed : challenge.consumedAt = none
  own : challenge.keyId = call.request.keyId
  signed : signedRegistration service call.request = true
  unexpired : challengeOpen challenge call.later = true

theorem allocateDevice_ok {registration : DeviceRegisterRequest} {serialDigest : String} {device : Device}
    (done : allocateDevice service tables call registration serialDigest = .ok device) :
    device.principalKind = .physical ∧ tables.device device.id = none := by
  obtain ⟨code, _, done⟩ := bind_ok done
  obtain ⟨new, ⟨⟩⟩ := guarded_ok done
  exact ⟨rfl, Option.not_isSome_iff_eq_none.mp new⟩

/-- **What a registration does.** -/
theorem register_ok (done : register service view tables call = .ok after) :
    ∃ challenge enrolled, Proven service view tables call challenge ∧ Enrolled tables call enrolled ∧
      after = consumeChallenge enrolled challenge call.later := by
  unfold register at done
  obtain ⟨key, done⟩ := guarded_ok done
  obtain ⟨separate, done⟩ := guarded_ok done
  obtain ⟨challenge, there, done⟩ := bind_ok done
  obtain ⟨fits, done⟩ := guarded_ok done
  obtain ⟨signed, done⟩ := guarded_ok done
  obtain ⟨registration, _, done⟩ := bind_ok done
  obtain ⟨enrolled, outcome, done⟩ := bind_ok done
  obtain ⟨unexpired, done⟩ := guarded_ok done
  have matched := Bool.eq_true_of_not_eq_false (not_or.mp fits).2
  obtain ⟨unconsumed, _, own, _⟩ := of_decide_eq_true matched
  refine ⟨challenge, enrolled,
    { key := Bool.eq_true_of_not_eq_false key
      separate := Bool.eq_false_of_not_eq_true separate
      found := required_ok there
      unconsumed
      own
      signed := Bool.eq_true_of_not_eq_false signed
      unexpired := Bool.eq_true_of_not_eq_false unexpired }, ?_, (Except.ok.inj done).symm⟩
  unfold enrolledTables at outcome
  split at outcome
  next mapping pinned =>
    unfold describeDevice at outcome
    obtain ⟨_, outcome⟩ := guarded_ok outcome
    obtain ⟨device, found, outcome⟩ := bind_ok outcome
    obtain ⟨_, outcome⟩ := guarded_ok outcome
    obtain ⟨_, ⟨⟩⟩ := guarded_ok outcome
    exact .described mapping device registration pinned (required_ok found)
  next free =>
    unfold enrollDevice at outcome
    obtain ⟨_, outcome⟩ := guarded_ok outcome
    obtain ⟨device, allocated, outcome⟩ := bind_ok outcome
    obtain ⟨unpinned, ⟨⟩⟩ := guarded_ok outcome
    obtain ⟨kind, new⟩ := allocateDevice_ok allocated
    exact .pinned device kind free new (Option.not_isSome_iff_eq_none.mp unpinned)

end MiniRemoteDesktop.Browser
