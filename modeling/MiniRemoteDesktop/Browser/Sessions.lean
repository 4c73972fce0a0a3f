/-
**Sessions of browsers** (`app/services/device_sessions.py`, `guest_browser_sessions.py` and
`browser_sessions.py`).

* `browserAuthorityValid` — `browser_authority_valid`. A guest holds by the published password, any other
  browser by the account of its user.
* `GuestAuthority` — what a valid guest session comes to; `Unauthorized` — what makes a session invalid for
  good, and `not_valid_of_unauthorized`.
* `approve`, `transition` — a device approves, rejects, closes or revokes a session.
* `transition_ok`, `approve_ok`, `createGuest_ok`, `createAccount_ok` — **what each of them does**.

The comparison of a call with what it was authenticated with, the policy of an approval and its relay
generation are answers in the call. The access mode and the route of a request are kept by a constraint
of the table.
-/

import MiniRemoteDesktop.Browser.Enrollment

namespace MiniRemoteDesktop.Browser

section

open Rows
open Relay.Server (SessionStatus)

/-! ### The authority of a browser -/

/-- The session is approved, to look at the screen and not only until now. -/
def approvalHolds (row : SessionRequest) (time : Nat) : Bool :=
  row.status ≠ .approved ||
    (decide ("screen.view" ∈ row.approvedScopes.getD []) && row.grantExpiresAt.any (time < ·) &&
      row.policyExpiresAt.any (time < ·))

/-- The part of the check for a guest. -/
def guestAuthority (service : TemporaryAccessService) (tables : Tables) (row : SessionRequest)
    (controller : Device) (time : Nat) : Bool :=
  match tables.controllerOf controller.id, tables.device row.targetDeviceId,
      tables.accessOf row.targetDeviceId, tables.identityOf row.targetDeviceId with
  | some principal, some target, some access, some mapping =>
    principal.authorityKind = .temporaryPassword ∧ row.requesterUserId = none ∧
      principal.userId = none ∧ principal.userSessionVersion = none ∧
      controller.isBound = false ∧ controller.boundUserId = none ∧
      target.principalKind = .physical ∧ target.authRevokedAt = none ∧
      some target.authVersion = row.targetAuthVersion ∧ row.targetAuthVersion = principal.targetAuthVersion ∧
      principal.targetAuthVersion = some access.targetAuthVersion ∧
      access.enabled = true ∧ mapping.keyId = access.keyId ∧
      (row.status = .approved ∨ row.temporaryAccessGeneration = some access.generation ∧
        access.expiresAt.any (time < ·) = true) ∧
      principal.temporaryAccessGeneration = row.temporaryAccessGeneration ∧
      row.authorityExpiresAt.any (time < ·) = true ∧
      principal.revokedAt = none ∧ time < principal.expiresAt ∧
      row.authorityExpiresAt = some principal.expiresAt ∧
      principal.sessionId = row.id ∧ principal.targetDeviceRowId = target.id ∧
      principal.tenantId = row.tenantId ∧ row.tenantId = target.tenantId ∧
      target.tenantId = controller.tenantId ∧
      row.requestedScopes = some principal.allowedScopes ∧
      service.keyIdOf principal.publicKey = principal.keyId ∧
      controller.authRevokedAt = none
  | _, _, _, _ => false

/-- The part of the check for an account. -/
def accountAuthority (service : TemporaryAccessService) (tables : Tables) (row : SessionRequest)
    (controller : Device) (time : Nat) : Bool :=
  match tables.controllerOf controller.id, row.requesterUserId.bind tables.user,
      tables.device row.targetDeviceId with
  | some principal, some user, some target =>
    principal.authorityKind = .account ∧ target.principalKind = .physical ∧
      target.deviceId.startsWith "browser_" = false ∧ target.isBound = true ∧
      target.authRevokedAt = none ∧ target.tenantId = user.tenantId ∧ target.boundUserId.isSome = true ∧
      (user.role = "admin" ∨ target.boundUserId = some user.id) ∧
      principal.revokedAt = none ∧ time < principal.expiresAt ∧
      (user.role = "user" ∨ user.role = "admin") ∧
      principal.sessionId = row.id ∧ principal.userId = row.requesterUserId ∧
      principal.targetDeviceRowId = row.targetDeviceId ∧
      principal.tenantId = row.tenantId ∧ row.tenantId = user.tenantId ∧
      user.tenantId = controller.tenantId ∧
      principal.userSessionVersion = some user.sessionVersion ∧
      row.requestedScopes = some principal.allowedScopes ∧
      service.keyIdOf principal.publicKey = principal.keyId ∧
      controller.authRevokedAt = none
  | _, _, _ => false

/-- **`browser_authority_valid`.** A session of a device has the authority of the device. -/
def browserAuthorityValid (service : TemporaryAccessService) (tables : Tables) (row : SessionRequest)
    (time : Nat) (allowTerminal : Bool) : Bool :=
  match row.requesterDeviceId.bind tables.device with
  | none => false
  | some controller =>
    if controller.principalKind ≠ .browserController then true
    else if allowTerminal && ended row.status then true
    else if approvalHolds row time = false then false
    else match row.authorityKind with
      | .temporaryPassword => guestAuthority service tables row controller time
      | .account => accountAuthority service tables row controller time

/-! ### What it comes to -/

variable {service : TemporaryAccessService} {tables : Tables} {row : SessionRequest} {controller : Device}
  {time : Nat}

/-- **A guest session that has authority.** -/
structure GuestAuthority (tables : Tables) (row : SessionRequest) (controller : Device) (time : Nat)
    (principal : BrowserController) (target : Device) (access : DeviceTemporaryAccess)
    (mapping : DeviceMachineIdentity) : Prop where
  foundPrincipal : tables.controllerOf controller.id = some principal
  foundTarget : tables.device row.targetDeviceId = some target
  foundAccess : tables.accessOf row.targetDeviceId = some access
  foundMapping : tables.identityOf row.targetDeviceId = some mapping
  version : row.targetAuthVersion = some target.authVersion
  published : access.targetAuthVersion = target.authVersion
  enabled : access.enabled = true
  pinned : mapping.keyId = access.keyId
  current : row.status = .approved ∨ row.temporaryAccessGeneration = some access.generation
  unexpired : ∃ expiry, row.authorityExpiresAt = some expiry ∧ time < expiry
  live : principal.revokedAt = none
  own : principal.sessionId = row.id

theorem guestAuthority_holds (valid : guestAuthority service tables row controller time = true) :
    ∃ principal target access mapping,
      GuestAuthority tables row controller time principal target access mapping := by
  unfold guestAuthority at valid
  cases foundPrincipal : tables.controllerOf controller.id with
  | none =>
    simp [foundPrincipal] at valid
  | some principal =>
  cases foundTarget : tables.device row.targetDeviceId with
  | none =>
    simp [foundPrincipal, foundTarget] at valid
  | some target =>
  cases foundAccess : tables.accessOf row.targetDeviceId with
  | none =>
    simp [foundPrincipal, foundTarget, foundAccess] at valid
  | some access =>
  cases foundMapping : tables.identityOf row.targetDeviceId with
  | none =>
    simp [foundPrincipal, foundTarget, foundAccess, foundMapping] at valid
  | some mapping =>
    rw [foundPrincipal, foundTarget, foundAccess, foundMapping] at valid
    obtain ⟨_, _, _, _, _, _, _, _, version, same, published, enabled, pinned, current, _, unexpired, live, _,
      _, own, _⟩ := of_decide_eq_true valid
    obtain ⟨expiry, there, later⟩ := (Option.any_eq_true _ _).mp unexpired
    have shared : some target.authVersion = some access.targetAuthVersion :=
      version.trans (same.trans published)
    exact ⟨principal, target, access, mapping,
      { foundPrincipal
        foundTarget
        foundAccess
        foundMapping
        version := version.symm
        published := (Option.some.inj shared).symm
        enabled
        pinned
        current := current.imp_right And.left
        unexpired := ⟨expiry, there, of_decide_eq_true later⟩
        live
        own }⟩

theorem accountAuthority_holds (valid : accountAuthority service tables row controller time = true) :
    ∃ principal, tables.controllerOf controller.id = some principal ∧ principal.revokedAt = none ∧
      principal.sessionId = row.id := by
  unfold accountAuthority at valid
  cases foundPrincipal : tables.controllerOf controller.id with
  | none =>
    simp [foundPrincipal] at valid
  | some principal =>
  rw [foundPrincipal] at valid
  split at valid
  next same _ _ =>
    cases same
    obtain ⟨_, _, _, _, _, _, _, _, live, _, _, own, _⟩ := of_decide_eq_true valid
    exact ⟨principal, rfl, live, own⟩
  · cases valid

theorem browserAuthority_cases (browser : row.requesterDeviceId.bind tables.device = some controller)
    (kind : controller.principalKind = .browserController)
    (valid : browserAuthorityValid service tables row time false = true) :
    approvalHolds row time = true ∧
      (row.authorityKind = .temporaryPassword ∧ guestAuthority service tables row controller time = true ∨
        row.authorityKind = .account ∧ accountAuthority service tables row controller time = true) := by
  unfold browserAuthorityValid at valid
  rw [browser] at valid
  dsimp only at valid
  rw [if_neg (not_not.mpr kind), Bool.false_and, if_neg Bool.false_ne_true] at valid
  split at valid
  · cases valid
  next holds =>
    refine ⟨Bool.eq_true_of_not_eq_false holds, ?_⟩
    split at valid
    next guest =>
      exact .inl ⟨guest, valid⟩
    next account =>
      exact .inr ⟨account, valid⟩

/-! ### Sessions without authority -/

/-- **What takes the authority of an ended session for good**: every controller of it is revoked, or it is
a guest's, of a generation before the current one. -/
inductive Unauthorized (tables : Tables) (row : SessionRequest) : Prop
  | revoked (all : ∀ controller ∈ tables.controllers, controller.sessionId = row.id →
      controller.revokedAt.isSome)
  | superseded (guest : row.authorityKind = .temporaryPassword) (past : ended row.status = true)
      (generation : Nat) (own : row.temporaryAccessGeneration = some generation)
      (access : DeviceTemporaryAccess) (current : tables.accessOf row.targetDeviceId = some access)
      (older : generation < access.generation)

theorem not_valid_of_unauthorized (lost : Unauthorized tables row)
    (browser : row.requesterDeviceId.bind tables.device = some controller)
    (kind : controller.principalKind = .browserController) (time : Nat) :
    browserAuthorityValid service tables row time false = false := by
  refine Bool.eq_false_iff.mpr fun valid => ?_
  obtain ⟨_, cases⟩ := browserAuthority_cases browser kind valid
  have live : ∃ principal ∈ tables.controllers, principal.sessionId = row.id ∧ principal.revokedAt = none := by
    rcases cases with ⟨_, guest⟩ | ⟨_, account⟩
    · obtain ⟨principal, target, access, mapping, holds⟩ := guestAuthority_holds guest
      exact ⟨principal, row_mem holds.foundPrincipal, holds.own, holds.live⟩
    · obtain ⟨principal, found, live, own⟩ := accountAuthority_holds account
      exact ⟨principal, row_mem found, own, live⟩
  rcases lost with ⟨all⟩ | ⟨guest, past, generation, own, access, current, older⟩
  · obtain ⟨principal, member, same, live⟩ := live
    have revoked := all principal member same
    simp [live] at revoked
  · rcases cases with ⟨_, valid⟩ | ⟨account, _⟩
    · obtain ⟨principal, target, other, mapping, holds⟩ := guestAuthority_holds valid
      cases Option.some.inj (current.symm.trans holds.foundAccess)
      have same := holds.current.resolve_left fun approved => by
        rw [approved] at past
        cases past
      cases Option.some.inj (own.symm.trans same)
      exact absurd older (lt_irrefl _)
    · cases guest.symm.trans account

end

open Checked Rows
open Relay.Server (SessionStatus TransitionAction RelayReservation released)

/-! ### Transitions -/

def isAuthorizedParticipant (row : SessionRequest) (device : Device) : Bool :=
  (device.isActive || (decide (row.authorityKind = .temporaryPassword) && device.authRevokedAt.isNone &&
      validTenant device.tenantId &&
      ((decide (device.id = row.targetDeviceId) && decide (device.principalKind = .physical) &&
          decide (row.targetAuthVersion = some device.authVersion)) ||
        (decide (row.requesterDeviceId = some device.id) &&
          decide (device.principalKind = .browserController) && !device.isBound &&
          device.boundUserId.isNone)))) &&
    decide (row.tenantId = device.tenantId) && row.requesterDeviceId.isSome &&
    (decide (row.requesterDeviceId = some device.id) || decide (row.targetDeviceId = device.id)) &&
    (decide (row.requesterDeviceId ≠ some device.id) || decide (device.boundUserId = row.requesterUserId))

/-- The row of a session that ends. -/
def SessionRequest.endedBy (row : SessionRequest) (action : TransitionAction) (now : Nat) : SessionRequest :=
  { row with
    status := action.terminal
    grantExpiresAt := row.grantExpiresAt.map fun _ => now
    policyExpiresAt := row.policyExpiresAt.map fun _ => now }

/-- The session is available to the device, for its authority holds or the session has ended. -/
def isAvailable (service : TemporaryAccessService) (tables : Tables) (row : SessionRequest)
    (current : Device) (now : Nat) : Bool :=
  isAuthorizedParticipant row current && browserAuthorityValid service tables row now
    (decide (current.id = row.targetDeviceId) || decide (row.status = .closed))

/-- `transition`, by the device `current`. -/
def transition (service : TemporaryAccessService) (tables : Tables) (sessionId : String) (current : Device)
    (action : TransitionAction) (now : Nat) : Except SessionError Tables := do
  let row ← (tables.session sessionId).elim (.error .wanSessionUnavailable) .ok
  if isAvailable service tables row current now = false then .error .wanSessionUnavailable
  if action ≠ .close ∧ row.targetDeviceId ≠ current.id then .error .wanSessionDenied
  let reservations := tables.reservations.map (released sessionId now)
  if row.status = action.terminal then return { tables with reservations }
  if row.status ∉ action.expected then .error .wanSessionConflict
  return { tables with
    sessions := put SessionRequest.id tables.sessions (row.endedBy action now)
    reservations }

/-! ### Approval -/

/-- **A call of `approve`** by the device `callerId`. `authorized` stands for the devices, the users and the
policy; `repeats` for what a repeated approval is compared with; `created` for the generation, if the
relays have one. -/
structure ApproveCall where
  (sessionId callerId : String)
  (authorized repeats : Bool)
  approvedScopes : List String
  approvedProfile : Option WanMediaProfile
  (grantExpiresAt policyExpiresAt : Nat)
  created : Option (List RelayReservation)
  (now later : Nat)

/-- The row of a session that is approved. -/
def SessionRequest.granted (row : SessionRequest) (call : ApproveCall) : SessionRequest :=
  let bounded := fun deadline : Nat => match row.authorityKind, row.authorityExpiresAt with
    | .temporaryPassword, some expiry => min deadline expiry
    | _, _ => deadline
  { row with
    status := .approved
    grantExpiresAt := some (bounded call.grantExpiresAt)
    policyExpiresAt := some (bounded call.policyExpiresAt)
    approvedScopes := some call.approvedScopes
    approvedProfile := call.approvedProfile }

/-- `_require_guest_approval_authority`. -/
def guestApprovalHolds (service : TemporaryAccessService) (tables : Tables) (row : SessionRequest)
    (time : Nat) : Bool :=
  browserAuthorityValid service tables row time false &&
    row.authorityExpiresAt.any (time < ·) && row.grantExpiresAt.any (time < ·) &&
    row.policyExpiresAt.any (time < ·)

def approve (service : TemporaryAccessService) (tables : Tables) (call : ApproveCall) :
    Except SessionError Tables := do
  let row ← (tables.session call.sessionId).elim (.error .wanSessionUnavailable) .ok
  let controller ← (row.requesterDeviceId.bind tables.device).elim (.error .wanSessionUnavailable) .ok
  let caller ← (tables.device call.callerId).elim (.error .wanSessionUnavailable) .ok
  if call.authorized = false ∨ isAuthorizedParticipant row caller = false then .error .wanSessionUnavailable
  if browserAuthorityValid service tables row call.now false = false then .error .wanSessionUnavailable
  if row.targetDeviceId ≠ caller.id then .error .wanSessionDenied
  if call.approvedScopes = [] ∨
      (controller.principalKind = .browserController ∧ "screen.view" ∉ call.approvedScopes) ∨
      row.requestedScopes = none ∨
      call.approvedScopes.any (fun scope => scope ∉ row.requestedScopes.getD []) ∨
      profileWithin call.approvedProfile row.requestedProfile = false then .error .wanSessionDenied
  if row.status = .approved then
    if call.repeats = false ∨ (row.authorityKind = .temporaryPassword ∧
        guestApprovalHolds service tables row call.later = false) then .error .wanSessionConflict
    return tables
  if row.status ≠ .requested then .error .wanSessionConflict
  let reservations ← call.created.elim (.error .wanSessionUnavailable) .ok
  let approved := { tables with
    sessions := put SessionRequest.id tables.sessions (row.granted call)
    reservations }
  if row.authorityKind = .temporaryPassword ∧
      guestApprovalHolds service approved (row.granted call) call.later = false then
    .error .wanSessionUnavailable
  return approved

/-! ### Requests -/

/-- What a browser asks for. -/
structure BrowserSessionCreateIn where
  controllerPublicKey : List UInt8
  sessionId : String
  idempotencyKey : List Nat
  (targetDeviceId accessMode : String)
  requestedScopes : List String
  requestedProfile : Option WanMediaProfile
  routePolicy : String

def canonicalWanRequest (payload : BrowserSessionCreateIn) (current : Device) : CanonicalRequest where
  sessionId := payload.sessionId
  idempotencyKey := payload.idempotencyKey
  controllerDeviceId := current.deviceId
  targetDeviceId := payload.targetDeviceId
  accessMode := payload.accessMode
  requestedScopes := payload.requestedScopes
  requestedProfile := payload.requestedProfile
  routePolicy := payload.routePolicy

/-- The device row of a browser. -/
def shadowDevice (rowId code tenantId : String) (owner : Option String) : Device where
  id := rowId
  deviceId := "browser_" ++ code
  principalKind := .browserController
  tenantId
  isBound := owner.isSome
  boundUserId := owner
  authVersion := 1
  authRevokedAt := none
  motherboardSerialDigest := none
  hostname := none
  osVersion := none
  os := "Web browser"

/-- The rows of a browser are inserted, if their keys are new. -/
def insertBrowser (tables : Tables) (shadow : Device) (session : SessionRequest)
    (principal : BrowserController) : Except SessionError Tables :=
  if (tables.device shadow.id).isSome ∨ tables.devices.any (fun device => device.deviceId = shadow.deviceId) ∨
      (tables.session session.id).isSome ∨ (tables.controllerOf shadow.id).isSome ∨
      (tables.controllerOfSession session.id).isSome then .error .failed
  else .ok { tables with
    devices := tables.devices ++ [shadow]
    sessions := tables.sessions ++ [session]
    controllers := tables.controllers ++ [principal] }

/-! ### Guests -/

/-- **A call of a guest's `create`.** The target and its access were looked at before anything was locked;
the browser's row id and code are drawn. -/
structure GuestCreateCall where
  payload : BrowserSessionCreateIn
  temporaryPassword : String
  previewTarget : Option String
  previewAccess : Option DeviceTemporaryAccess
  (now later : Nat)
  (shadowRowId shadowCode : String)

/-- What must not have changed since the password was checked. -/
def publicationKey (access : DeviceTemporaryAccess) : Nat × String × Nat × String :=
  (access.generation, access.publicationDigest, access.targetAuthVersion, access.keyId)

/-- The session of a guest. -/
def guestSession (call : GuestCreateCall) (target shadow : Device) (access : DeviceTemporaryAccess) :
    SessionRequest where
  id := call.payload.sessionId
  requesterUserId := none
  authorityKind := .temporaryPassword
  temporaryAccessGeneration := some access.generation
  targetAuthVersion := some target.authVersion
  authorityExpiresAt := access.expiresAt
  requesterDeviceId := some shadow.id
  targetDeviceId := target.id
  tenantId := target.tenantId
  status := .requested
  grantExpiresAt := none
  policyExpiresAt := none
  requestPayload := some (canonicalWanRequest call.payload shadow)
  requestedScopes := some call.payload.requestedScopes
  requestedProfile := call.payload.requestedProfile
  approvedScopes := none
  approvedProfile := none

/-- The controller of a guest, until the access expires. -/
def guestController (service : TemporaryAccessService) (call : GuestCreateCall) (target : Device)
    (access : DeviceTemporaryAccess) (expiresAt : Nat) : BrowserController where
  deviceRowId := call.shadowRowId
  sessionId := call.payload.sessionId
  userId := none
  tenantId := target.tenantId
  userSessionVersion := none
  authorityKind := .temporaryPassword
  temporaryAccessGeneration := some access.generation
  targetAuthVersion := some target.authVersion
  targetDeviceRowId := target.id
  publicKey := call.payload.controllerPublicKey
  keyId := service.keyIdOf call.payload.controllerPublicKey
  allowedScopes := call.payload.requestedScopes
  createdAt := call.now
  expiresAt
  revokedAt := none

/-- The session of a guest that is requested again. -/
def guestRetry (service : TemporaryAccessService) (tables : Tables) (call : GuestCreateCall)
    (row : SessionRequest) : Bool :=
  match tables.controllerOfSession row.id, row.requesterDeviceId.bind tables.device with
  | some principal, some shadow =>
    principal.authorityKind = .temporaryPassword ∧
      principal.publicKey = call.payload.controllerPublicKey ∧
      browserAuthorityValid service tables row call.later false = true ∧
      (row.status = .requested ∨ row.status = .approved) ∧
      row.requestPayload = some (canonicalWanRequest call.payload shadow)
  | _, _ => false

/-- **`GuestBrowserSessionService.create`.** -/
def createGuest (service : TemporaryAccessService) (view tables : Tables) (call : GuestCreateCall) :
    Except SessionError Tables := do
  if service.verifyPassword call.temporaryPassword call.previewAccess = false then .error .guestAccessInvalid
  let previewTarget ← call.previewTarget.elim (.error .guestAccessInvalid) .ok
  let previewAccess ← call.previewAccess.elim (.error .guestAccessInvalid) .ok
  if view.keyIsPhysicalMachine (service.keyIdOf call.payload.controllerPublicKey) then
    .error .guestAccessInvalid
  let target ← (tables.device previewTarget).elim (.error .guestAccessInvalid) .ok
  let access ← (tables.accessOf target.id).elim (.error .guestAccessInvalid) .ok
  let expiresAt ← access.expiresAt.elim (.error .guestAccessInvalid) .ok
  let mapping ← (tables.identityOf target.id).elim (.error .guestAccessInvalid) .ok
  if publicationKey previewAccess ≠ publicationKey access ∨ access.enabled = false ∨
      expiresAt ≤ call.now ∨ target.authRevokedAt.isSome ∨
      target.authVersion ≠ access.targetAuthVersion ∨ mapping.keyId ≠ access.keyId ∨
      call.payload.requestedScopes.any (fun scope => scope ∉ access.allowedScopes) then
    .error .guestAccessInvalid
  match tables.session call.payload.sessionId with
  | some row =>
    if guestRetry service tables call row = false then .error .guestSessionConflict else .ok tables
  | none =>
    let shadow := shadowDevice call.shadowRowId call.shadowCode target.tenantId none
    insertBrowser tables shadow (guestSession call target shadow access)
      (guestController service call target access expiresAt)

/-! ### Accounts -/

/-- **A call of an account's `create`**, by a user as it was when the call was authenticated. -/
structure AccountCreateCall where
  payload : BrowserSessionCreateIn
  user : User
  now : Nat
  (shadowRowId shadowCode : String)

/-- The session of an account. -/
def accountSession (call : AccountCreateCall) (owner : User) (target shadow : Device) : SessionRequest where
  id := call.payload.sessionId
  requesterUserId := some owner.id
  authorityKind := .account
  temporaryAccessGeneration := none
  targetAuthVersion := none
  authorityExpiresAt := none
  requesterDeviceId := some shadow.id
  targetDeviceId := target.id
  tenantId := shadow.tenantId
  status := .requested
  grantExpiresAt := none
  policyExpiresAt := none
  requestPayload := some (canonicalWanRequest call.payload shadow)
  requestedScopes := some call.payload.requestedScopes
  requestedProfile := call.payload.requestedProfile
  approvedScopes := none
  approvedProfile := none

/-- The controller of an account, for ten minutes. -/
def accountController (service : TemporaryAccessService) (call : AccountCreateCall) (owner : User)
    (target : Device) : BrowserController where
  deviceRowId := call.shadowRowId
  sessionId := call.payload.sessionId
  userId := some owner.id
  tenantId := owner.tenantId
  userSessionVersion := some call.user.sessionVersion
  authorityKind := .account
  temporaryAccessGeneration := none
  targetAuthVersion := none
  targetDeviceRowId := target.id
  publicKey := call.payload.controllerPublicKey
  keyId := service.keyIdOf call.payload.controllerPublicKey
  allowedScopes := call.payload.requestedScopes
  createdAt := call.now
  expiresAt := call.now + 600 * 1000000
  revokedAt := none

/-- The session of an account that is requested again, and is as it was requested. -/
def accountRetry (service : TemporaryAccessService) (tables : Tables) (call : AccountCreateCall)
    (owner : User) (row : SessionRequest) : Bool :=
  match tables.controllerOfSession row.id with
  | none => false
  | some principal =>
    match tables.device principal.deviceRowId with
    | none => false
    | some shadow =>
      principal.userId = some owner.id ∧ principal.publicKey = call.payload.controllerPublicKey ∧
        browserAuthorityValid service tables row call.now false = true ∧
        (row.status = .requested ∨ row.status = .approved) ∧
        row.requesterDeviceId = some shadow.id ∧ row.requesterUserId = shadow.boundUserId ∧
        row.tenantId = shadow.tenantId ∧
        row.requestPayload = some (canonicalWanRequest call.payload shadow) ∧
        row.requestedScopes = some call.payload.requestedScopes ∧
        row.requestedProfile = call.payload.requestedProfile

/-- The target that an account may ask for. -/
def accountTarget (tables : Tables) (call : AccountCreateCall) (owner : User) : Option Device :=
  (tables.devices.find? fun device =>
    device.deviceId = call.payload.targetDeviceId ∧ device.principalKind = .physical ∧
      device.tenantId = owner.tenantId ∧ device.isBound = true ∧ device.authRevokedAt = none).filter
    fun device => device.boundUserId.any fun bound =>
      decide (owner.role = "admin" ∨ bound = owner.id) &&
        (tables.user bound).any fun user => user.tenantId = device.tenantId

/-- **`BrowserSessionService.create`**, with `DeviceSessionService.create` in it. -/
def createAccount (service : TemporaryAccessService) (view tables : Tables) (call : AccountCreateCall) :
    Except SessionError Tables := do
  if view.keyIsPhysicalMachine (service.keyIdOf call.payload.controllerPublicKey) then
    .error .browserSessionConflict
  let owner ← (tables.user call.user.id).elim (.error .browserSessionUnavailable) .ok
  if owner ≠ call.user then .error .browserSessionUnavailable
  match tables.session call.payload.sessionId with
  | some row =>
    if accountRetry service tables call owner row = false then .error .browserSessionConflict
    else .ok tables
  | none => do
    let target ← (accountTarget tables call owner).elim (.error .browserSessionUnavailable) .ok
    let shadow := shadowDevice call.shadowRowId call.shadowCode owner.tenantId (some owner.id)
    if validTenant owner.tenantId = false then .error .wanSessionDenied
    insertBrowser tables shadow (accountSession call owner target shadow)
      (accountController service call owner target)

/-! ### The browser closes its session -/

/-- **A call of `close` by a browser.** `authorized` stands for the comparison with its credentials. -/
structure CloseCall where
  sessionId : String
  authorized : Bool
  (now later : Nat)

/-- `close`, of either kind of browser. -/
def closeBrowser (service : TemporaryAccessService) (tables : Tables) (call : CloseCall) :
    Except SessionError Tables := do
  let row ← (tables.session call.sessionId).elim (.error .browserSessionUnavailable) .ok
  let principal ← (tables.controllerOfSession call.sessionId).elim (.error .browserSessionUnavailable) .ok
  if call.authorized = false ∨ browserAuthorityValid service tables row call.now true = false then
    .error .browserSessionUnavailable
  let shadow ← (tables.device principal.deviceRowId).elim (.error .browserSessionUnavailable) .ok
  let closed ← transition service tables call.sessionId shadow .close call.now
  return { closed with controllers := revokeControllers [call.sessionId] call.later closed.controllers }

/-! ### What each of them does -/

variable {service : TemporaryAccessService} {view tables after : Tables}

/-- **A transition** ends a session in one of the states that it starts from, or finds it ended. -/
theorem transition_ok {sessionId : String} {current : Device} {action : TransitionAction} {now : Nat}
    (done : transition service tables sessionId current action now = .ok after) :
    ∃ row, tables.session sessionId = some row ∧ isAvailable service tables row current now = true ∧
      (action = .close ∨ row.targetDeviceId = current.id) ∧
      (row.status = action.terminal ∧
          after = { tables with reservations := tables.reservations.map (released sessionId now) } ∨
        row.status ∈ action.expected ∧ after = { tables with
            sessions := put SessionRequest.id tables.sessions (row.endedBy action now)
            reservations := tables.reservations.map (released sessionId now) }) := by
  obtain ⟨row, found, done⟩ := bind_ok done
  obtain ⟨available, done⟩ := guarded_ok done
  obtain ⟨entitled, done⟩ := guarded_ok done
  refine ⟨row, required_ok found, Bool.eq_true_of_not_eq_false available,
    (Decidable.not_and_iff_not_or_not.mp entitled).imp Decidable.not_not.mp Decidable.not_not.mp, ?_⟩
  split at done
  next past =>
    exact .inl ⟨past, (Except.ok.inj done).symm⟩
  · obtain ⟨expected, done⟩ := guarded_ok done
    exact .inr ⟨not_not.mp expected, (Except.ok.inj done).symm⟩

/-- **An approval** is of a requested session, or repeats one. -/
theorem approve_ok {call : ApproveCall} (done : approve service tables call = .ok after) :
    after = tables ∨ ∃ row reservations, tables.session call.sessionId = some row ∧
      row.status = .requested ∧
      after = { tables with
        sessions := put SessionRequest.id tables.sessions (row.granted call)
        reservations } := by
  obtain ⟨row, found, done⟩ := bind_ok done
  obtain ⟨controller, _, done⟩ := bind_ok done
  obtain ⟨caller, _, done⟩ := bind_ok done
  obtain ⟨_, done⟩ := guarded_ok done
  obtain ⟨_, done⟩ := guarded_ok done
  obtain ⟨_, done⟩ := guarded_ok done
  obtain ⟨_, done⟩ := guarded_ok done
  split at done
  · obtain ⟨_, done⟩ := guarded_ok done
    exact .inl (Except.ok.inj done).symm
  · obtain ⟨requested, done⟩ := guarded_ok done
    obtain ⟨reservations, _, done⟩ := bind_ok done
    obtain ⟨_, done⟩ := guarded_ok done
    exact .inr ⟨row, reservations, required_ok found, not_not.mp requested, (Except.ok.inj done).symm⟩

/-- Three rows of a browser were inserted. -/
structure Inserted (tables : Tables) (shadow : Device) (session : SessionRequest)
    (principal : BrowserController) (after : Tables) : Prop where
  newDevice : tables.device shadow.id = none
  newSession : tables.session session.id = none
  newController : tables.controllerOf shadow.id = none
  uncontrolled : tables.controllerOfSession session.id = none
  same : after = { tables with
    devices := tables.devices ++ [shadow]
    sessions := tables.sessions ++ [session]
    controllers := tables.controllers ++ [principal] }

theorem insertBrowser_ok {shadow : Device} {session : SessionRequest} {principal : BrowserController}
    (done : insertBrowser tables shadow session principal = .ok after) :
    Inserted tables shadow session principal after := by
  obtain ⟨new, done⟩ := refused_ok done
  obtain ⟨device, new⟩ := not_or.mp new
  obtain ⟨_, new⟩ := not_or.mp new
  obtain ⟨session, new⟩ := not_or.mp new
  obtain ⟨controller, uncontrolled⟩ := not_or.mp new
  exact {
    newDevice := Option.not_isSome_iff_eq_none.mp device
    newSession := Option.not_isSome_iff_eq_none.mp session
    newController := Option.not_isSome_iff_eq_none.mp controller
    uncontrolled := Option.not_isSome_iff_eq_none.mp uncontrolled
    same := (Except.ok.inj done).symm }

/-- **What was checked of a guest.** The access is the one whose password was checked, as it is now. -/
structure GuestAdmitted (service : TemporaryAccessService) (view tables : Tables) (call : GuestCreateCall)
    (preview access : DeviceTemporaryAccess) (target : Device) (mapping : DeviceMachineIdentity)
    (expiresAt : Nat) : Prop where
  previewedTarget : call.previewTarget = some target.id
  previewed : call.previewAccess = some preview
  password : service.verifyPassword call.temporaryPassword (some preview) = true
  separate : view.keyIsPhysicalMachine (service.keyIdOf call.payload.controllerPublicKey) = false
  foundTarget : tables.device target.id = some target
  foundAccess : tables.accessOf target.id = some access
  foundMapping : tables.identityOf target.id = some mapping
  unchanged : publicationKey preview = publicationKey access
  expiry : access.expiresAt = some expiresAt
  enabled : access.enabled = true
  unexpired : call.now < expiresAt
  version : target.authVersion = access.targetAuthVersion
  pinned : mapping.keyId = access.keyId
  scopes : ∀ scope ∈ call.payload.requestedScopes, scope ∈ access.allowedScopes

/-- **A guest's session** is a retry, or new. -/
theorem createGuest_ok {call : GuestCreateCall} (done : createGuest service view tables call = .ok after) :
    ∃ preview access target mapping expiresAt,
      GuestAdmitted service view tables call preview access target mapping expiresAt ∧
      (after = tables ∧ (tables.session call.payload.sessionId).isSome ∨
        Inserted tables (shadowDevice call.shadowRowId call.shadowCode target.tenantId none)
          (guestSession call target (shadowDevice call.shadowRowId call.shadowCode target.tenantId none) access)
          (guestController service call target access expiresAt) after) := by
  unfold createGuest at done
  obtain ⟨password, done⟩ := guarded_ok done
  obtain ⟨previewTarget, wanted, done⟩ := bind_ok done
  obtain ⟨preview, previewed, done⟩ := bind_ok done
  obtain ⟨separate, done⟩ := guarded_ok done
  obtain ⟨target, foundTarget, done⟩ := bind_ok done
  obtain ⟨access, foundAccess, done⟩ := bind_ok done
  obtain ⟨expiresAt, expiry, done⟩ := bind_ok done
  obtain ⟨mapping, foundMapping, done⟩ := bind_ok done
  obtain ⟨checked, done⟩ := guarded_ok done
  obtain ⟨unchanged, checked⟩ := not_or.mp checked
  obtain ⟨enabled, checked⟩ := not_or.mp checked
  obtain ⟨unexpired, checked⟩ := not_or.mp checked
  obtain ⟨_, checked⟩ := not_or.mp checked
  obtain ⟨version, checked⟩ := not_or.mp checked
  obtain ⟨pinned, scopes⟩ := not_or.mp checked
  have foundTarget := required_ok foundTarget
  have previewed := required_ok previewed
  have same : target.id = previewTarget := row_key foundTarget
  refine ⟨preview, access, target, mapping, expiresAt,
    { previewedTarget := same ▸ required_ok wanted
      previewed
      password := previewed ▸ Bool.eq_true_of_not_eq_false password
      separate := Bool.eq_false_of_not_eq_true separate
      foundTarget := same ▸ foundTarget
      foundAccess := required_ok foundAccess
      foundMapping := required_ok foundMapping
      unchanged := not_not.mp unchanged
      expiry := required_ok expiry
      enabled := Bool.eq_true_of_not_eq_false enabled
      unexpired := Nat.lt_of_not_le unexpired
      version := not_not.mp version
      pinned := not_not.mp pinned
      scopes := fun scope member => by
        by_contra missing
        exact scopes (List.any_eq_true.mpr ⟨scope, member, decide_eq_true missing⟩) }, ?_⟩
  split at done
  next row found =>
    obtain ⟨_, done⟩ := refused_ok done
    exact .inl ⟨(Except.ok.inj done).symm, Option.isSome_iff_exists.mpr ⟨row, found⟩⟩
  · exact .inr (insertBrowser_ok done)

/-- **An account's session** is a retry, or new. -/
theorem createAccount_ok {call : AccountCreateCall}
    (done : createAccount service view tables call = .ok after) :
    view.keyIsPhysicalMachine (service.keyIdOf call.payload.controllerPublicKey) = false ∧
      (after = tables ∨ ∃ owner target,
        Inserted tables (shadowDevice call.shadowRowId call.shadowCode owner.tenantId (some owner.id))
          (accountSession call owner target
            (shadowDevice call.shadowRowId call.shadowCode owner.tenantId (some owner.id)))
          (accountController service call owner target) after) := by
  unfold createAccount at done
  obtain ⟨separate, done⟩ := guarded_ok done
  obtain ⟨owner, _, done⟩ := bind_ok done
  obtain ⟨_, done⟩ := guarded_ok done
  refine ⟨Bool.eq_false_of_not_eq_true separate, ?_⟩
  split at done
  · obtain ⟨_, done⟩ := refused_ok done
    exact .inl (Except.ok.inj done).symm
  · obtain ⟨target, _, done⟩ := bind_ok done
    obtain ⟨_, done⟩ := guarded_ok done
    exact .inr ⟨owner, target, insertBrowser_ok done⟩

/-- **A browser that closes its session**: the session ends as by a device, and its controllers are
revoked. -/
theorem closeBrowser_ok {call : CloseCall} (done : closeBrowser service tables call = .ok after) :
    ∃ shadow closed, transition service tables call.sessionId shadow .close call.now = .ok closed ∧
      after = { closed with
        controllers := revokeControllers [call.sessionId] call.later closed.controllers } := by
  obtain ⟨row, _, done⟩ := bind_ok done
  obtain ⟨principal, _, done⟩ := bind_ok done
  obtain ⟨_, done⟩ := guarded_ok done
  obtain ⟨shadow, _, done⟩ := bind_ok done
  obtain ⟨closed, ended, done⟩ := bind_ok done
  exact ⟨shadow, closed, ended, (Except.ok.inj done).symm⟩

end MiniRemoteDesktop.Browser
