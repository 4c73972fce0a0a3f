/-
**The tables of devices, keys and browser sessions** (`app/models`).

* `Device`, `User`, `DeviceMachineIdentity`, `DeviceTemporaryAccess`, `BrowserController`,
  `SessionRequest`, `DeviceSelfEnrollmentChallenge` — the rows, with the columns that the services read
  or write.
* `Tables` — the database; its lookups, each by the column that a service asks for.

Times are microseconds. The profile of a request is kept whole, since a retry is compared with it.
-/

import MiniRemoteDesktop.Lib.Rows
import MiniRemoteDesktop.Relay.Generations

namespace MiniRemoteDesktop.Browser

open Relay.Server (SessionStatus RelayReservation)
open Rows

/-! ### Rows -/

inductive PrincipalKind
  | physical
  | browserController
  deriving DecidableEq

structure Device where
  (id deviceId : String)
  principalKind : PrincipalKind
  tenantId : String
  isBound : Bool
  boundUserId : Option String
  authVersion : Nat
  authRevokedAt : Option Nat
  (motherboardSerialDigest hostname osVersion : Option String)
  os : String

structure User where
  (id tenantId : String)
  sessionVersion : Nat
  role : String
  deriving DecidableEq

/-- The key that a device is pinned to. -/
structure DeviceMachineIdentity where
  (keyId publicKey deviceRowId : String)
  createdAt : Nat
  deriving DecidableEq

structure DeviceTemporaryAccess where
  deviceRowId : String
  (generation targetAuthVersion : Nat)
  keyId : String
  enabled : Bool
  expiresAt : Option Nat
  (salt verifierHmac : Option (List UInt8))
  publicationDigest : String
  allowedScopes : List String
  updatedAt : Nat
  deriving DecidableEq

inductive AuthorityKind
  | account
  | temporaryPassword
  deriving DecidableEq

structure BrowserController where
  (deviceRowId sessionId : String)
  userId : Option String
  tenantId : String
  userSessionVersion : Option Nat
  authorityKind : AuthorityKind
  (temporaryAccessGeneration targetAuthVersion : Option Nat)
  targetDeviceRowId : String
  publicKey : List UInt8
  keyId : String
  allowedScopes : List String
  (createdAt expiresAt : Nat)
  revokedAt : Option Nat
  deriving DecidableEq

/-- `WanMediaProfileV3`. -/
structure WanMediaProfile where
  (width height fps bitrateMbps : Nat)
  codec : String
  codecProfile : Option String
  bitDepth : Option Nat
  (chromaSubsampling pixelFormat : Option String)
  hdrEnabled : Option Bool
  (colorMode colorPipeline : Option String)
  deriving DecidableEq

/-- `DeviceSessionCanonicalRequest`. -/
structure CanonicalRequest where
  sessionId : String
  idempotencyKey : List Nat
  (controllerDeviceId targetDeviceId accessMode : String)
  requestedScopes : List String
  requestedProfile : Option WanMediaProfile
  routePolicy : String
  deriving DecidableEq

structure SessionRequest where
  id : String
  requesterUserId : Option String
  authorityKind : AuthorityKind
  (temporaryAccessGeneration targetAuthVersion authorityExpiresAt : Option Nat)
  requesterDeviceId : Option String
  (targetDeviceId tenantId : String)
  status : SessionStatus
  (grantExpiresAt policyExpiresAt : Option Nat)
  requestPayload : Option CanonicalRequest
  requestedScopes : Option (List String)
  requestedProfile : Option WanMediaProfile
  approvedScopes : Option (List String)
  approvedProfile : Option WanMediaProfile
  deriving DecidableEq

structure DeviceSelfEnrollmentChallenge where
  (challengeId nonceDigest keyId publicKey apiUrl peerDigest : String)
  (issuedAt expiresAt : Nat)
  consumedAt : Option Nat
  deriving DecidableEq

/-! ### The database -/

structure Tables where
  devices : List Device
  users : List User
  identities : List DeviceMachineIdentity
  access : List DeviceTemporaryAccess
  controllers : List BrowserController
  sessions : List SessionRequest
  reservations : List RelayReservation
  challenges : List DeviceSelfEnrollmentChallenge

namespace Tables

variable (tables : Tables)

def device (id : String) : Option Device := row Device.id tables.devices id

def user (id : String) : Option User := row User.id tables.users id

/-- The pin of a device. -/
def identityOf (deviceRowId : String) : Option DeviceMachineIdentity :=
  row DeviceMachineIdentity.deviceRowId tables.identities deviceRowId

/-- The pin of a key. -/
def identityOfKey (keyId : String) : Option DeviceMachineIdentity :=
  row DeviceMachineIdentity.keyId tables.identities keyId

def accessOf (deviceRowId : String) : Option DeviceTemporaryAccess :=
  row DeviceTemporaryAccess.deviceRowId tables.access deviceRowId

def controllerOf (deviceRowId : String) : Option BrowserController :=
  row BrowserController.deviceRowId tables.controllers deviceRowId

def challenge (id : String) : Option DeviceSelfEnrollmentChallenge :=
  row DeviceSelfEnrollmentChallenge.challengeId tables.challenges id

/-- The controller of a session. -/
def controllerOfSession (sessionId : String) : Option BrowserController :=
  row BrowserController.sessionId tables.controllers sessionId

def session (id : String) : Option SessionRequest := row SessionRequest.id tables.sessions id

def keyIsBrowserController (keyId : String) : Bool := tables.controllers.any fun row => row.keyId = keyId

def keyIsPhysicalMachine (keyId : String) : Bool := (tables.identityOfKey keyId).isSome

end Tables

/-! ### Refusals -/

/-- `DeviceSessionError`, and `failed` for a transaction that the database does not commit. -/
inductive SessionError
  | guestAccessInvalid
  | guestSessionConflict
  | browserSessionUnavailable
  | browserSessionConflict
  | wanSessionDenied
  | wanSessionConflict
  | wanSessionUnavailable
  | failed

def validTenant (value : String) : Bool :=
  let chars := value.toList
  1 ≤ chars.length && chars.length ≤ 64 && chars.all (fun char => char.toNat < 128) &&
    (chars.head?.any Char.isAlphanum) && chars.all fun char => char.isAlphanum || char ∈ ['.', '_', '-']

/-- `_is_active_device`. -/
def Device.isActive (device : Device) : Bool :=
  device.isBound && device.boundUserId.isSome && device.authRevokedAt.isNone && validTenant device.tenantId

/-- `_bounded_profile_value` and the equal fields of `_profile_within`. -/
def profileWithin (approved requested : Option WanMediaProfile) : Bool :=
  match approved, requested with
  | none, _ => true
  | some _, none => false
  | some approved, some requested =>
    approved.codec = requested.codec ∧ approved.codecProfile = requested.codecProfile ∧
      approved.width ≤ requested.width ∧ approved.height ≤ requested.height ∧
      approved.fps ≤ requested.fps ∧ approved.bitrateMbps ≤ requested.bitrateMbps ∧
      approved.bitDepth = requested.bitDepth ∧
      approved.chromaSubsampling = requested.chromaSubsampling ∧
      approved.pixelFormat = requested.pixelFormat ∧ approved.hdrEnabled = requested.hdrEnabled ∧
      approved.colorMode = requested.colorMode ∧ approved.colorPipeline = requested.colorPipeline

/-- A session that has ended. -/
def ended (status : SessionStatus) : Bool :=
  status = .closed || status = .rejected || status = .revoked || status = .expired

end MiniRemoteDesktop.Browser
