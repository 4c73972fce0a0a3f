/-
**Published temporary access** (`app/services/temporary_access.py`).

The resident program of a device publishes, signed by its machine key, whether a temporary password is
accepted, until when, for which scopes, and how to verify it. A publication is new, a retry, or a renewal
of the lease; anything else is refused.

* `publish`, `publishLocked` — the service; `publish_ok` — **what an accepted publication does**, one case
  for each of the three.
* `verifyPassword` — `verify_password`.

HMAC, SHA-256, PBKDF2, Ed25519 and the reading of JSON are parameters. A device is pinned to its key by
its first publication. The mappings are read without a lock, so that the view in which they were read
may be older than the tables; the columns of the mapping are unique.
-/

import MiniRemoteDesktop.Browser.Tables

namespace MiniRemoteDesktop.Browser

open Checked Rows
open Relay.Server (SessionStatus RelayReservation unixMs sortedStrings hexValue)
open DeviceTemporaryAccess

/-! ### Documents -/

structure TemporaryAccessDocument where
  deviceId : String
  (authVersion generation : Nat)
  enabled : Bool
  expiresAtMs : Option Nat
  (salt verifier : Option String)
  allowedScopes : List String

/-- The constraints on the fields. -/
def TemporaryAccessDocument.validFields (document : TemporaryAccessDocument) : Bool :=
  1 ≤ document.deviceId.length ∧ document.deviceId.length ≤ 64 ∧
    1 ≤ document.authVersion ∧ document.authVersion ≤ 2 ^ 63 - 1 ∧
    1 ≤ document.generation ∧ document.generation ≤ 2 ^ 63 - 1 ∧
    document.expiresAtMs.all (1 ≤ ·) ∧ document.salt.all (Text.isLowerHex 32 ·) ∧
    document.verifier.all (Text.isLowerHex 64 ·) ∧ document.allowedScopes.length ≤ 3 ∧
    document.allowedScopes.all (· ∈ ["input.keyboard", "input.pointer", "screen.view"])

def TemporaryAccessDocument.validBundle (document : TemporaryAccessDocument) : Bool :=
  if document.enabled then
    document.expiresAtMs.isSome && document.salt.isSome && document.verifier.isSome &&
      decide ("screen.view" ∈ document.allowedScopes) &&
      decide (document.allowedScopes = sortedStrings document.allowedScopes.dedup)
  else
    document.expiresAtMs.isNone && document.salt.isNone && document.verifier.isNone &&
      document.allowedScopes.isEmpty

def TemporaryAccessDocument.valid (document : TemporaryAccessDocument) : Bool :=
  document.validFields && document.validBundle

/-! ### The service -/

structure TemporaryAccessPublishIn where
  (keyId publicKey accessJson signature : String)

/-- `DeviceAuthSnapshot`: the device as it was when the call was authenticated. -/
structure DeviceAuthSnapshot where
  (rowId deviceId tenantId : String)
  authVersion : Nat
  authRevokedAt : Option Nat
  isBound : Bool
  boundUserId : Option String

/-- **The service**, with the primitives that it uses: `hmac` is keyed by the pepper, and `readDocument`
reads the JSON of a document. -/
structure TemporaryAccessService where
  apiUrl : String
  (sha256 hmac : List UInt8 → List UInt8)
  pbkdf2 : List UInt8 → List UInt8 → List UInt8
  verifies : List UInt8 → List UInt8 → List UInt8 → Bool
  readDocument : String → Option TemporaryAccessDocument

/-- `bytes.fromhex`, of digits. -/
def fromHexDigits : List Char → List UInt8
  | high :: low :: rest => UInt8.ofNat (16 * hexValue high + hexValue low) :: fromHexDigits rest
  | _ => []

def fromHex (value : String) : List UInt8 := fromHexDigits value.toList

/-- `hashlib.sha256(raw).hexdigest()`. -/
def TemporaryAccessService.keyIdOf (service : TemporaryAccessService) (publicKey : List UInt8) : String :=
  Text.lowerHex (service.sha256 publicKey)

def canonicalTemporaryPublication (service : TemporaryAccessService) (payload : TemporaryAccessPublishIn) :
    List UInt8 :=
  Text.bytes ("POST\n" ++ service.apiUrl ++ "/devices/temporary-access\n" ++ payload.keyId ++ "\n" ++
    Text.lowerHex (service.sha256 (Text.bytes payload.accessJson)))

def contextualTemporaryPublication (canonical : List UInt8) : List UInt8 :=
  let domain := Text.bytes "MRD_DEVICE_TEMPORARY_ACCESS_V1"
  Text.bytes "MRD_CONTEXT_SIGNATURE_V1" ++ Relay.pushU16 domain.length ++ domain ++
    Relay.pushU64 canonical.length ++ canonical

def TemporaryAccessService.verifierHmac (service : TemporaryAccessService) (verifier : List UInt8) :
    List UInt8 :=
  service.hmac (Text.bytes "MRD_GUEST_PASSWORD_VERIFIER_V1" ++ 0 :: verifier)

/-- The digest under which a publication is stored. -/
def TemporaryAccessService.publicationDigest (service : TemporaryAccessService) (accessJson : String) :
    String :=
  Text.lowerHex (service.hmac (Text.bytes "MRD_TEMPORARY_PUBLICATION_V1" ++ 0 :: Text.bytes accessJson))

def TemporaryAccessService.verifyPassword (service : TemporaryAccessService) (password : String)
    (access : Option DeviceTemporaryAccess) : Bool :=
  let salt := (access.bind (·.salt)).getD (List.replicate 16 0)
  let expected := (access.bind (·.verifierHmac)).getD (List.replicate 32 0)
  service.verifierHmac (service.pbkdf2 (Text.bytes password) salt) = expected

/-- The document of a call: its key is the key that signed it, and its JSON is a document. -/
def TemporaryAccessService.document (service : TemporaryAccessService) (payload : TemporaryAccessPublishIn) :
    Option TemporaryAccessDocument :=
  let raw := fromHex payload.publicKey
  if raw = List.replicate 32 0 ∨ service.keyIdOf raw ≠ payload.keyId ∨
      service.verifies raw (contextualTemporaryPublication (canonicalTemporaryPublication service payload))
        (fromHex payload.signature) = false then none
  else (service.readDocument payload.accessJson).filter (·.valid)

/-! ### Checks -/

def snapshotMatches (device : Device) (snapshot : DeviceAuthSnapshot) : Bool :=
  device.principalKind = .physical ∧ snapshot.authRevokedAt = none ∧ device.id = snapshot.rowId ∧
    device.deviceId = snapshot.deviceId ∧ device.authVersion = snapshot.authVersion ∧
    device.authRevokedAt = none ∧ device.tenantId = snapshot.tenantId ∧
    device.isBound = snapshot.isBound ∧ device.boundUserId = snapshot.boundUserId

/-- The device is pinned to the key of the call, or nothing was published and both are free. -/
def pinAllows (payload : TemporaryAccessPublishIn) (document : TemporaryAccessDocument) (deviceId : String)
    (row : Option DeviceTemporaryAccess) (mapping keyMapping : Option DeviceMachineIdentity) : Bool :=
  match mapping with
  | none => row.isNone && document.enabled && keyMapping.isNone
  | some mapping => mapping.keyId = payload.keyId ∧ mapping.publicKey = payload.publicKey ∧
      keyMapping.any fun other => other.deviceRowId = deviceId

/-- An enabled document expires within ten minutes. -/
def expiresSoon (document : TemporaryAccessDocument) (now : Nat) : Bool :=
  !document.enabled || document.expiresAtMs.any fun expiresAtMs =>
    unixMs now < expiresAtMs && expiresAtMs ≤ unixMs now + 600000

/-- When the access of a document expires. -/
def TemporaryAccessDocument.expiresAt (document : TemporaryAccessDocument) : Option Nat :=
  if document.enabled then document.expiresAtMs.map (· * 1000) else none

/-- A publication of the same generation that only extends the lease. -/
def renews (service : TemporaryAccessService) (row : DeviceTemporaryAccess) (device : Device)
    (payload : TemporaryAccessPublishIn) (document : TemporaryAccessDocument) : Bool :=
  document.generation = row.generation ∧ document.enabled = true ∧ row.enabled = true ∧
    row.targetAuthVersion = device.authVersion ∧ row.keyId = payload.keyId ∧
    (∃ before ∈ row.expiresAt, ∃ after ∈ document.expiresAt, before < after) ∧
    row.salt.isSome = true ∧ row.salt = document.salt.map fromHex ∧
    row.verifierHmac.isSome = true ∧
    row.verifierHmac = document.verifier.map (fun verifier => service.verifierHmac (fromHex verifier)) ∧
    row.allowedScopes = document.allowedScopes

/-! ### What is written -/

/-- The row of a new generation. -/
def publishedRow (service : TemporaryAccessService) (device : Device) (payload : TemporaryAccessPublishIn)
    (document : TemporaryAccessDocument) (now : Nat) : DeviceTemporaryAccess where
  deviceRowId := device.id
  generation := document.generation
  targetAuthVersion := device.authVersion
  keyId := payload.keyId
  enabled := document.enabled
  expiresAt := document.expiresAt
  salt := if document.enabled then document.salt.map fromHex else none
  verifierHmac := if document.enabled then
    document.verifier.map fun verifier => service.verifierHmac (fromHex verifier) else none
  publicationDigest := service.publicationDigest payload.accessJson
  allowedScopes := document.allowedScopes
  updatedAt := now

/-- The row of a renewal. -/
def renewedRow (service : TemporaryAccessService) (row : DeviceTemporaryAccess)
    (payload : TemporaryAccessPublishIn) (document : TemporaryAccessDocument) (now : Nat) :
    DeviceTemporaryAccess :=
  { row with
    expiresAt := document.expiresAt
    publicationDigest := service.publicationDigest payload.accessJson
    updatedAt := now }

/-- The sessions that a new generation revokes. -/
def revokedByPublication (deviceId : String) (enabled : Bool) (session : SessionRequest) : Bool :=
  session.targetDeviceId = deviceId && session.authorityKind = .temporaryPassword &&
    (session.status = .requested || (!enabled && session.status = .approved))

/-- A session that a publication revokes. -/
def SessionRequest.revokedAt (session : SessionRequest) (now : Nat) : SessionRequest :=
  { session with
    status := .revoked
    grantExpiresAt := session.grantExpiresAt.map fun _ => now
    policyExpiresAt := session.policyExpiresAt.map fun _ => now }

/-- The controllers of the sessions are revoked. -/
def revokeControllers (sessionIds : List String) (now : Nat) (controllers : List BrowserController) :
    List BrowserController :=
  controllers.map fun controller =>
    if controller.sessionId ∈ sessionIds then { controller with revokedAt := some now } else controller

/-- The unexpired reservations of the sessions end. -/
def endReservations (sessionIds : List String) (now : Nat) (reservations : List RelayReservation) :
    List RelayReservation :=
  reservations.map fun reservation =>
    if reservation.sessionId ∈ sessionIds ∧ now < reservation.expiresAt then
      { reservation with
        expiresAt := now
        supersededAt := some now }
    else reservation

/-- The revocations of a new generation. -/
def revokeGuests (tables : Tables) (deviceId : String) (enabled : Bool) (now : Nat) : Tables :=
  let affected := (tables.sessions.filter (revokedByPublication deviceId enabled)).map (·.id)
  { tables with
    sessions := tables.sessions.map fun session =>
      if revokedByPublication deviceId enabled session then session.revokedAt now else session
    controllers := revokeControllers affected now tables.controllers
    reservations := endReservations affected now tables.reservations }

/-- The first publication pins the device. -/
def withPin (identities : List DeviceMachineIdentity) (mapping : Option DeviceMachineIdentity)
    (payload : TemporaryAccessPublishIn) (deviceId : String) (now : Nat) : List DeviceMachineIdentity :=
  match mapping with
  | none => identities ++ [⟨payload.keyId, payload.publicKey, deviceId, now⟩]
  | some _ => identities

/-! ### Publishing -/

/-- **A call of `publish`**, with its readings of the clock: before and after it locks the sessions. -/
structure PublishCall where
  snapshot : DeviceAuthSnapshot
  payload : TemporaryAccessPublishIn
  (now later : Nat)

/-- The writes of a new generation. -/
def replacePublication (service : TemporaryAccessService) (tables : Tables)
    (mapping : Option DeviceMachineIdentity) (device : Device) (call : PublishCall)
    (document : TemporaryAccessDocument) : Except SessionError Tables :=
  if expiresSoon document call.later = false then .error .guestAccessInvalid
  else if mapping = none ∧ (tables.keyIsPhysicalMachine call.payload.keyId = true ∨
      (tables.identityOf device.id).isSome) then .error .guestAccessInvalid
  else .ok (revokeGuests { tables with
    identities := withPin tables.identities mapping call.payload device.id call.later
    access := put deviceRowId tables.access
      (publishedRow service device call.payload document call.later) } device.id document.enabled call.later)

/-- `_publish_locked`. The mappings were read in `view`. -/
def publishLocked (service : TemporaryAccessService) (view tables : Tables) (call : PublishCall)
    (document : TemporaryAccessDocument) : Except SessionError Tables := do
  let device ← (tables.device call.snapshot.rowId).elim (.error .guestAccessInvalid) .ok
  if snapshotMatches device call.snapshot = false ∨ document.deviceId ≠ device.deviceId ∨
      document.authVersion ≠ device.authVersion then .error .guestAccessInvalid
  let stored := tables.accessOf device.id
  let mapping := view.identityOf device.id
  if pinAllows call.payload document device.id stored mapping
      (view.identityOfKey call.payload.keyId) = false then .error .guestAccessInvalid
  if expiresSoon document call.now = false then .error .guestAccessInvalid
  match stored with
  | none => replacePublication service tables mapping device call document
  | some row =>
    if row.generation < document.generation then
      replacePublication service tables mapping device call document
    else if document.generation = row.generation ∧
        service.publicationDigest call.payload.accessJson = row.publicationDigest then .ok tables
    else if renews service row device call.payload document = false then .error .guestAccessInvalid
    else .ok { tables with
      access := put deviceRowId tables.access (renewedRow service row call.payload document call.now) }

/-- **`publish`.** A key that signs for a browser signs for no device. -/
def publish (service : TemporaryAccessService) (view tables : Tables) (call : PublishCall) :
    Except SessionError Tables := do
  let document ← (service.document call.payload).elim (.error .guestAccessInvalid) .ok
  if view.keyIsBrowserController call.payload.keyId then .error .guestAccessInvalid
  publishLocked service view tables call document

/-! ### What an accepted publication does -/

variable {service : TemporaryAccessService} {view tables after : Tables} {call : PublishCall}
  {document : TemporaryAccessDocument} {device : Device}

variable (service : TemporaryAccessService) (view tables : Tables) (call : PublishCall) (document :
  TemporaryAccessDocument) (device : Device) in
/-- **An accepted publication** of a device: a retry, a renewal of the lease, or a new generation. -/
inductive Published : Tables → Prop
  | repeated (row : DeviceTemporaryAccess) (stored : tables.accessOf device.id = some row)
      (generation : document.generation = row.generation)
      (digest : service.publicationDigest call.payload.accessJson = row.publicationDigest) :
      Published tables
  | renewed (row : DeviceTemporaryAccess) (stored : tables.accessOf device.id = some row)
      (renews : renews service row device call.payload document = true)
      (soon : expiresSoon document call.now = true) :
      Published { tables with
        access := put deviceRowId tables.access
          (renewedRow service row call.payload document call.now) }
  | replaced (newer : ∀ row, tables.accessOf device.id = some row → row.generation < document.generation)
      (pinned : pinAllows call.payload document device.id (tables.accessOf device.id)
        (view.identityOf device.id) (view.identityOfKey call.payload.keyId) = true)
      (free : view.identityOf device.id = none →
        tables.identityOfKey call.payload.keyId = none ∧ tables.identityOf device.id = none)
      (soon : expiresSoon document call.later = true) :
      Published (revokeGuests { tables with
        identities := withPin tables.identities (view.identityOf device.id) call.payload device.id call.later
        access := put deviceRowId tables.access
          (publishedRow service device call.payload document call.later) } device.id document.enabled
        call.later)

/-- What was checked of a publication that is accepted. -/
structure Admitted (service : TemporaryAccessService) (view tables : Tables) (call : PublishCall)
    (document : TemporaryAccessDocument) (device : Device) : Prop where
  signed : service.document call.payload = some document
  separate : view.keyIsBrowserController call.payload.keyId = false
  found : tables.device call.snapshot.rowId = some device
  physical : device.principalKind = .physical
  authVersion : document.authVersion = device.authVersion

theorem replacePublication_ok {mapping : Option DeviceMachineIdentity}
    (done : replacePublication service tables mapping device call document = .ok after) :
    expiresSoon document call.later = true ∧
      (mapping = none → tables.identityOfKey call.payload.keyId = none ∧ tables.identityOf device.id = none) ∧
      after = revokeGuests { tables with
        identities := withPin tables.identities mapping call.payload device.id call.later
        access := put deviceRowId tables.access
          (publishedRow service device call.payload document call.later) } device.id document.enabled
        call.later := by
  obtain ⟨soon, done⟩ := refused_ok done
  obtain ⟨free, done⟩ := refused_ok done
  refine ⟨Bool.eq_true_of_not_eq_false soon, fun unpinned => ?_, (Except.ok.inj done).symm⟩
  have both := not_or.mp fun taken => free ⟨unpinned, taken⟩
  exact ⟨Option.not_isSome_iff_eq_none.mp both.1, Option.not_isSome_iff_eq_none.mp both.2⟩

/-- **What an accepted publication does.** -/
theorem publish_ok (done : publish service view tables call = .ok after) :
    ∃ document device, Admitted service view tables call document device ∧
      Published service view tables call document device after := by
  obtain ⟨document, signed, done⟩ := bind_ok done
  obtain ⟨separate, done⟩ := guarded_ok done
  obtain ⟨device, there, done⟩ := bind_ok done
  obtain ⟨fits, done⟩ := guarded_ok done
  obtain ⟨pinned, done⟩ := guarded_ok done
  obtain ⟨soon, done⟩ := guarded_ok done
  have fits := not_or.mp fits
  have matched := Bool.eq_true_of_not_eq_false fits.1
  have version := not_not.mp (not_or.mp fits.2).2
  have pinned := Bool.eq_true_of_not_eq_false pinned
  have soon := Bool.eq_true_of_not_eq_false soon
  refine ⟨document, device, ⟨required_ok signed, Bool.eq_false_of_not_eq_true separate, required_ok there,
    (of_decide_eq_true matched).1, version⟩, ?_⟩
  split at done
  next missing =>
    obtain ⟨later, free, rfl⟩ := replacePublication_ok done
    exact .replaced (fun row stored => nomatch missing.symm.trans stored) pinned free later
  next row stored =>
    split at done
    next newer =>
      obtain ⟨later, free, rfl⟩ := replacePublication_ok done
      refine .replaced (fun other found => ?_) pinned free later
      cases Option.some.inj (stored.symm.trans found)
      exact newer
    · split at done
      next same =>
        cases done
        exact .repeated row stored same.1 same.2
      · obtain ⟨renewing, ⟨⟩⟩ := refused_ok done
        exact .renewed row stored (Bool.eq_true_of_not_eq_false renewing) soon

end MiniRemoteDesktop.Browser
