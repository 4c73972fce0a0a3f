/-
**The life of a session on the server** (`app/services/device_sessions.py`, `session_grants.py`,
`relay_directory.py`, `temporary_access.py`).

Four services write the row of a session and its reservations. A session that a device requested is
approved and ended by `DeviceSessionService`, one that an account requested by `SessionGrantService`;
relay access is issued for either, each in its way; and a publication of temporary access revokes the
sessions of guests. Each operation is a transaction on the locked row, and what fails is rolled back.

* `create`, `approve`, `transition`, `grantApprove`, `grantTransition`, `issueAccess`, `refresh`, `fetch`,
  `publication` — the operations; `SessionRecord.step` — a run takes one after another.
* `session_lifecycle` — **a session moves forward only, is approved for what was requested, and is
  issued nothing once it has ended**.

The devices and the accounts of a call are one Boolean of the call.
-/

import MiniRemoteDesktop.Browser.Publication

namespace MiniRemoteDesktop.Browser

open Checked Execution
open Relay.Server (AccessCall ApproveCall CreationCall FetchCall RefreshCall RelayAccessError
  RelayAccessGeneration RelayAccessResult RelayAccessService RelayReservation SessionGrantPolicy
  SessionStatus Tables TargetDevice TransitionAction WanSession accessRequest bindSessionGrantPolicy
  cohereReservations cohered createWanGeneration creationAt fetch_ok fromRepository fromTimestamp
  leavesAlone policyFromGrant preexisting released replay reserveCapacity sampleService selectAccess
  serverDeadline)

/-! ### What is stored -/

/-- **A session.** `accesses` is for history only, as are two lists of `wan`. -/
structure SessionRecord where
  wan : WanSession
  requestedScopes : Option (List String)
  (requestedProfile approvedProfile : Option WanMediaProfile)
  accesses : List RelayAccessResult

open SessionRecord

namespace SessionRecord

abbrev grant (record : SessionRecord) : Relay.Server.SessionRequest := record.wan.grant

abbrev status (record : SessionRecord) : SessionStatus := record.wan.grant.status

/-- The reservations of the session. -/
def own (record : SessionRecord) (row : RelayReservation) : Prop := row.sessionId = record.grant.id

end SessionRecord

/-! ### `DeviceSessionService` -/

/-- **A call of `create`** for a session that exists. `exact` stands for the columns of the request that
nothing else reads. -/
structure CreateCall where
  requesterDeviceId : String
  requestedScopes : List String
  requestedProfile : Option WanMediaProfile
  exact : Bool
  now : Nat

/-- `create`, which for a session that exists is a retry or a conflict. -/
def SessionRecord.create (record : SessionRecord) (call : CreateCall) :
    Except RelayAccessError SessionRecord :=
  if record.grant.requesterDeviceId ≠ some call.requesterDeviceId ∨
      record.requestedScopes ≠ some call.requestedScopes ∨
      record.requestedProfile ≠ call.requestedProfile ∨ call.exact = false then .error .accessDenied
  else .ok record

/-- **A call of `DeviceSessionService.approve`.** `browserController` is about the device that requested
the session. -/
structure DeviceApproveCall where
  (authorized browserController : Bool)
  target : TargetDevice
  policy : SessionGrantPolicy
  approvedScopes : List String
  approvedProfile : Option WanMediaProfile
  authorityExpiresAt : Nat
  authorityHolds : Bool
  now : Nat
  creation : CreationCall
  commits : Bool

/-- What the creation of a generation reads of the call: of a profile, its bitrate. -/
def DeviceApproveCall.approval (call : DeviceApproveCall) : ApproveCall where
  authorized := call.authorized
  target := call.target
  policy := call.policy
  approvedScopes := call.approvedScopes
  approvedProfile := call.approvedProfile.map fun profile => some (profile.bitrateMbps : Int)
  authorityExpiresAt := call.authorityExpiresAt
  authorityHolds := call.authorityHolds
  now := call.now
  creation := call.creation
  commits := call.commits

/-- What may be approved of a request. -/
def approvable (requestedScopes : Option (List String)) (requestedProfile : Option WanMediaProfile)
    (call : DeviceApproveCall) : Bool :=
  !call.approvedScopes.isEmpty &&
    (!call.browserController || call.approvedScopes.contains "screen.view") &&
    (requestedScopes.any fun requested => call.approvedScopes.all (requested.contains ·)) &&
    profileWithin call.approvedProfile requestedProfile

def SessionRecord.approve (service : RelayAccessService) (record : SessionRecord)
    (call : DeviceApproveCall) : Except RelayAccessError SessionRecord := do
  if record.grant.requesterDeviceId = none then .error .accessDenied
  if approvable record.requestedScopes record.requestedProfile call = false then .error .accessDenied
  if record.status = .approved ∧ record.approvedProfile ≠ call.approvedProfile then .error .accessDenied
  let wan ← record.wan.approve service call.approval
  return { record with
    wan
    approvedProfile := call.approvedProfile }

def SessionRecord.transition (record : SessionRecord) (action : TransitionAction) (authorized : Bool)
    (now : Nat) : Except RelayAccessError SessionRecord := do
  if record.grant.requesterDeviceId = none then .error .accessDenied
  let wan ← record.wan.transition action authorized now
  return { record with wan }

/-! ### `SessionGrantService` -/

/-- `bind_session_grant_policy`. -/
def bindPolicy (grant : Relay.Server.SessionRequest) (targetId : String) (policy : SessionGrantPolicy)
    (now : Nat) : Relay.Server.SessionRequest :=
  { grant with
    status := .approved
    grantExpiresAt := some (now + fromTimestamp policy.grantTtlSeconds)
    policyRevision := some policy.revision
    policyExpiresAt := some (now + fromTimestamp policy.policyTtlSeconds)
    intendedPeerId := some targetId
    relayAllowedRegions := some policy.allowedRegions
    relayPreferredRegions := some policy.preferredRegions
    relayAcceptedTransports := some policy.acceptedTransports
    relayMaxBackups := policy.maxBackups }

structure GrantApproveCall where
  authorized : Bool
  targetId : String
  policy : SessionGrantPolicy
  now : Nat

/-- `SessionGrantService.approve`. -/
def SessionRecord.grantApprove (record : SessionRecord) (call : GrantApproveCall) :
    Except RelayAccessError SessionRecord := do
  if call.policy.valid = false ∨ record.grant.requesterDeviceId ≠ none then .error .accessDenied
  if record.grant.targetDeviceId ≠ call.targetId then .error .accessDenied
  if record.status ≠ .requested ∨ call.authorized = false then .error .accessDenied
  return { record with
    wan := { record.wan with grant := bindPolicy record.grant call.targetId call.policy call.now } }

/-- The state that an action of `SessionGrantService` starts from. -/
def grantExpected : TransitionAction → SessionStatus
  | .reject => .requested
  | .close => .approved
  | .revoke => .approved

/-- A reservation of the session is given up, and keeps its expiry. -/
def givenUp (sessionId : String) (now : Nat) (row : RelayReservation) : RelayReservation :=
  if row.sessionId = sessionId ∧ now < row.expiresAt ∧ row.supersededAt = none then
    { row with supersededAt := some now }
  else row

/-- A session that ends, in the given status. -/
def endedGrant (grant : Relay.Server.SessionRequest) (status : SessionStatus) (now : Nat) :
    Relay.Server.SessionRequest :=
  { grant with
    status
    grantExpiresAt := grant.grantExpiresAt.map fun _ => now
    policyExpiresAt := grant.policyExpiresAt.map fun _ => now }

/-- `SessionGrantService.transition`. -/
def SessionRecord.grantTransition (record : SessionRecord) (action : TransitionAction)
    (authorized : Bool) (now : Nat) : Except RelayAccessError SessionRecord := do
  if record.grant.requesterDeviceId ≠ none ∨ authorized = false then .error .accessDenied
  if record.status ≠ grantExpected action then .error .accessDenied
  return { record with
    wan := { record.wan with
      grant := endedGrant record.grant action.terminal now
      reservations := record.wan.reservations.map (givenUp record.grant.id now) } }

/-! ### Relay access -/

/-- **A call of `issue_access`**, which brings its own view of the tables. -/
structure GrantAccessCall where
  access : AccessCall
  policyRevision : Nat
  intendedPeerId : String
  commits : Bool

/-- The part of `authorize_relay_grant` that is about the grant. -/
def authorizeRelayGrant (grant : Relay.Server.SessionRequest) (call : GrantAccessCall) : Bool :=
  grant.requesterDeviceId.isNone && grant.status = .approved &&
    (grant.grantExpiresAt.any fun expiry => call.access.now < expiry) &&
    (grant.policyExpiresAt.any fun expiry => call.access.now < expiry) &&
    decide (0 < call.policyRevision) && grant.policyRevision = some call.policyRevision &&
    grant.intendedPeerId = some call.intendedPeerId

/-- The reservations after the admission of `issue_access`. -/
def accessTable (service : RelayAccessService) (call : AccessCall) :
    Except RelayAccessError (List RelayReservation) := do
  let policy ← policyFromGrant call.grant
  let candidates ← selectAccess call policy
  let deadline ← serverDeadline service call.grant call.now
  let requesterUserId ← call.grant.requesterUserId.elim (.error .accessDenied) .ok
  let (writes, taken) ← fromRepository (reserveCapacity service.maxReservations
    (accessRequest call policy candidates requesterUserId deadline) call.locked.nodes
    call.locked.registrations call.locked.reservations call.newIds)
  let before := preexisting call.locked call.grant.id call.now
  let (kept, _) ← cohereReservations call.locked deadline taken
    (taken.filter fun reservation => reservation.id ∈ before.map (·.id))
  return cohered taken kept (replay call.locked.reservations writes)

def SessionRecord.issueAccess (service : RelayAccessService) (record : SessionRecord) (call : GrantAccessCall) :
    Except RelayAccessError SessionRecord := do
  if authorizeRelayGrant record.grant call = false then .error .accessDenied
  let access := { call.access with
    grant := record.grant
    locked := { call.access.locked with reservations := record.wan.reservations } }
  let result ← Relay.Server.issueAccess service access
  let reservations ← accessTable service access
  if call.commits = false then .error .failed
  return { record with
    wan := { record.wan with reservations }
    accesses := record.accesses ++ [result] }

/-- The first transaction of a refresh. -/
def SessionRecord.refresh (service : RelayAccessService) (record : SessionRecord) (call : RefreshCall) :
    Except RelayAccessError SessionRecord := do
  let wan ← record.wan.refresh service call
  return { record with wan }

/-- A fetch, of a session that a device requested. -/
def SessionRecord.fetch (service : RelayAccessService) (record : SessionRecord) (target : TargetDevice)
    (call : FetchCall) (commits : Bool) : Except RelayAccessError SessionRecord := do
  if record.grant.requesterDeviceId = none then .error .accessDenied
  let wan ← record.wan.fetch service target call commits
  return { record with wan }

/-! ### Publications -/

/-- A new generation of temporary access to a device, enabled or not. -/
def SessionRecord.publication (record : SessionRecord) (deviceId : String) (enabled : Bool) (now : Nat) :
    SessionRecord :=
  if record.grant.targetDeviceId = deviceId ∧ record.grant.temporaryPassword = true ∧
      (record.status = .requested ∨ (enabled = false ∧ record.status = .approved)) then
    { record with
      wan := { record.wan with
        grant := endedGrant record.grant .revoked now
        reservations := endReservations [record.grant.id] now record.wan.reservations } }
  else record

/-- The row of the browser tables that is the row of a grant. -/
structure Mirrors (row : SessionRequest) (grant : Relay.Server.SessionRequest) : Prop where
  id : row.id = grant.id
  targetDeviceId : row.targetDeviceId = grant.targetDeviceId
  authorityKind : row.authorityKind = .temporaryPassword ↔ grant.temporaryPassword = true
  status : row.status = grant.status
  grantExpiresAt : row.grantExpiresAt = grant.grantExpiresAt
  policyExpiresAt : row.policyExpiresAt = grant.policyExpiresAt

/-- **A publication does to the session what `revokeGuests` does to its row.** -/
theorem mirrors_publication {record : SessionRecord} {row : SessionRequest}
    (mirrors : Mirrors row record.grant) (deviceId : String) (enabled : Bool) (now : Nat) :
    Mirrors (if revokedByPublication deviceId enabled row then row.revokedAt now else row)
      (record.publication deviceId enabled now).grant := by
  have same : revokedByPublication deviceId enabled row = true ↔
      record.grant.targetDeviceId = deviceId ∧ record.grant.temporaryPassword = true ∧
        (record.status = .requested ∨ (enabled = false ∧ record.status = .approved)) := by
    unfold revokedByPublication
    simp only [Bool.and_eq_true, decide_eq_true_eq, Bool.or_eq_true, Bool.not_eq_true', and_assoc,
      mirrors.targetDeviceId, mirrors.authorityKind, mirrors.status]
  unfold publication
  by_cases revoked : revokedByPublication deviceId enabled row = true
  · rw [if_pos revoked, if_pos (same.mp revoked)]
    exact ⟨mirrors.id, mirrors.targetDeviceId, mirrors.authorityKind, rfl,
      congrArg (Option.map fun _ => now) mirrors.grantExpiresAt,
      congrArg (Option.map fun _ => now) mirrors.policyExpiresAt⟩
  · rw [if_neg revoked, if_neg (fun holds => revoked (same.mpr holds))]
    exact mirrors

/-! ### Runs -/

inductive LifecycleEvent
  | create (call : CreateCall)
  | approve (call : DeviceApproveCall)
  | transition (action : TransitionAction) (authorized : Bool) (now : Nat)
  | grantApprove (call : GrantApproveCall)
  | grantTransition (action : TransitionAction) (authorized : Bool) (now : Nat)
  | issueAccess (call : GrantAccessCall)
  | refresh (call : RefreshCall)
  | fetch (target : TargetDevice) (call : FetchCall) (commits : Bool)
  | publication (deviceId : String) (enabled : Bool) (now : Nat)
  /-- The rest of the server. Of the reservations of the session it deletes expired ones only. -/
  | elsewhere (reservations : List RelayReservation) (now : Nat)

/-- The two readings of the clock in a transaction. -/
def LifecycleEvent.times : LifecycleEvent → Nat × Nat
  | create call => (call.now, call.now)
  | approve call => (call.now, call.creation.now)
  | transition _ _ now => (now, now)
  | grantApprove call => (call.now, call.now)
  | grantTransition _ _ now => (now, now)
  | issueAccess call => (call.access.now, call.access.now)
  | refresh call => (call.now, call.creation.now)
  | fetch _ call _ => (call.now, call.now)
  | publication _ _ now => (now, now)
  | elsewhere _ now => (now, now)

def LifecycleEvent.perform (service : RelayAccessService) (record : SessionRecord) :
    LifecycleEvent → Except RelayAccessError SessionRecord
  | create call => record.create call
  | approve call => record.approve service call
  | transition action authorized now => record.transition action authorized now
  | grantApprove call => record.grantApprove call
  | grantTransition action authorized now => record.grantTransition action authorized now
  | issueAccess call => record.issueAccess service call
  | refresh call => record.refresh service call
  | fetch target call commits => record.fetch service target call commits
  | publication deviceId enabled now => .ok (record.publication deviceId enabled now)
  | elsewhere reservations now =>
    if leavesAlone record.wan reservations now then
      .ok { record with wan := { record.wan with reservations } }
    else .error .failed

def SessionRecord.at (record : SessionRecord) (clock : Nat) : SessionRecord :=
  { record with wan := { record.wan with clock } }

/-- A transaction, at times that do not go back. What fails is rolled back. -/
def SessionRecord.step (service : RelayAccessService) (record : SessionRecord) (event : LifecycleEvent) :
    Option SessionRecord :=
  if record.wan.clock ≤ event.times.1 ∧ event.times.1 ≤ event.times.2 then
    match event.perform service record with
    | .ok after => some (after.at event.times.2)
    | .error _ => some (record.at event.times.2)
  else none

/-- **A session that was just requested.** -/
structure Opened (record : SessionRecord) : Prop where
  status : record.status = .requested
  generations : record.wan.generations = []
  fetched : record.wan.fetched = []
  accesses : record.accesses = []
  reservations : ∀ row ∈ record.wan.reservations, ¬ record.own row

/-! ### What an operation does -/

/-- The moves of a status. -/
def moves : SessionStatus → SessionStatus → Bool
  | .requested, .approved | .requested, .rejected | .requested, .closed | .requested, .revoked => true
  | .approved, .closed | .approved, .revoked => true
  | _, _ => false

/-- No reservation of the session is both unexpired and current. -/
def Barren (record : SessionRecord) : Prop :=
  ∀ row ∈ record.wan.reservations, record.own row → record.wan.clock < row.expiresAt →
    row.supersededAt ≠ none

/-- **What was approved is part of what was requested.** -/
def Within (record : SessionRecord) : Prop :=
  ∃ approved requested, record.grant.approvedScopes = some approved ∧
    record.requestedScopes = some requested ∧ approved ≠ [] ∧ approved ⊆ requested ∧
    profileWithin record.approvedProfile record.requestedProfile = true

/-- **An approved profile is the requested one with smaller numbers.** -/
theorem Within.profile {record : SessionRecord} (within : Within record) {profile : WanMediaProfile}
    (approved : record.approvedProfile = some profile) : ∃ requested,
      record.requestedProfile = some requested ∧ profile = { requested with
        width := profile.width, height := profile.height, fps := profile.fps
        bitrateMbps := profile.bitrateMbps } ∧ profile.width ≤ requested.width ∧
      profile.height ≤ requested.height ∧ profile.fps ≤ requested.fps ∧
      profile.bitrateMbps ≤ requested.bitrateMbps := by
  obtain ⟨_, _, _, _, _, _, inside⟩ := within
  rw [approved] at inside
  cases asked : record.requestedProfile with
  | none => simp [asked, profileWithin] at inside
  | some requested =>
    simp only [asked, profileWithin, decide_eq_true_eq] at inside
    obtain ⟨_, _, width, height, fps, bitrate, _⟩ := inside
    exact ⟨requested, rfl, by cases profile; simp_all, width, height, fps, bitrate⟩

/-- What no operation changes. -/
structure SameRequest (record after : SessionRecord) : Prop where
  id : after.grant.id = record.grant.id
  requesterDeviceId : after.grant.requesterDeviceId = record.grant.requesterDeviceId
  requestedScopes : after.requestedScopes = record.requestedScopes
  requestedProfile : after.requestedProfile = record.requestedProfile

theorem SameRequest.refl (record : SessionRecord) : SameRequest record record := ⟨rfl, rfl, rfl, rfl⟩

variable {second first third : SessionRecord}

theorem SameRequest.trans (one : SameRequest first second) (two : SameRequest second third) :
    SameRequest first third :=
  ⟨two.id.trans one.id, two.requesterDeviceId.trans one.requesterDeviceId,
    two.requestedScopes.trans one.requestedScopes, two.requestedProfile.trans one.requestedProfile⟩

/-- **Nothing is issued**: no access, no generation, no directory, and no reservation. -/
structure NothingIssued (record after : SessionRecord) : Prop where
  accesses : after.accesses = record.accesses
  generations : after.wan.generations = record.wan.generations
  fetched : after.wan.fetched = record.wan.fetched
  reservations : ∀ row ∈ after.wan.reservations, after.own row →
    ∃ old ∈ record.wan.reservations, record.own old ∧ old.id = row.id

theorem NothingIssued.refl (record : SessionRecord) : NothingIssued record record :=
  ⟨rfl, rfl, rfl, fun row member own => ⟨row, member, own, rfl⟩⟩

theorem NothingIssued.trans (one : NothingIssued first second) (two : NothingIssued second third) :
    NothingIssued first third := by
  refine ⟨two.accesses.trans one.accesses, two.generations.trans one.generations,
    two.fetched.trans one.fetched, fun row member own => ?_⟩
  obtain ⟨middle, between, mine, same⟩ := two.reservations row member own
  obtain ⟨old, there, his, equal⟩ := one.reservations middle between mine
  exact ⟨old, there, his, equal.trans same⟩

/-! Time passes. -/

theorem SameRequest.later {record after : SessionRecord} (same : SameRequest record after) (clock : Nat) :
    SameRequest record (after.at clock) :=
  ⟨same.id, same.requesterDeviceId, same.requestedScopes, same.requestedProfile⟩

theorem NothingIssued.later {record after : SessionRecord} (nothing : NothingIssued record after)
    (clock : Nat) : NothingIssued record (after.at clock) :=
  ⟨nothing.accesses, nothing.generations, nothing.fetched, nothing.reservations⟩

/-- **What an operation does.** -/
inductive Effect (record : SessionRecord) (clock : Nat) (after : SessionRecord) : Prop
  /-- At most, expired reservations are gone. -/
  | quiet (grant : after.grant = record.grant) (profile : after.approvedProfile = record.approvedProfile)
      (nothing : NothingIssued record after)
      (known : ∀ row ∈ after.wan.reservations, after.own row → row ∈ record.wan.reservations)
  | approved (before : record.status = .requested) (later : after.status = .approved)
      (within : record.grant.requesterDeviceId ≠ none → Within after)
  /-- An approved session is issued something. -/
  | issued (before : record.status = .approved) (later : after.status = .approved)
      (scopes : after.grant.approvedScopes = record.grant.approvedScopes)
      (profile : after.approvedProfile = record.approvedProfile)
  | finished (moved : after.status = record.status ∨ moves record.status after.status = true)
      (past : ended after.status = true) (barren : Barren (after.at clock))
      (nothing : NothingIssued record after)

variable {service : RelayAccessService} {record after : SessionRecord} {clock now : Nat}

theorem effect_unchanged : Effect record clock record :=
  .quiet rfl rfl (.refl record) fun _ member _ => member

/-! ### The end of a session -/

theorem terminal_ended (action : TransitionAction) : ended action.terminal = true := by
  cases action <;> rfl

variable {action : TransitionAction}

theorem moves_terminal {status : SessionStatus} (expected : status ∈ action.expected) :
    moves status action.terminal = true := by
  revert expected
  cases action <;> cases status <;> decide

theorem moves_grantExpected (action : TransitionAction) :
    moves (grantExpected action) action.terminal = true := by
  cases action <;> rfl

/-- **An end of reservations**: each of them stays under its identifier, and those of the session are
expired or superseded. -/
structure Ends (sessionId : String) (now : Nat) (finish : RelayReservation → RelayReservation) : Prop where
  sameId : ∀ row, (finish row).id = row.id
  sameSession : ∀ row, (finish row).sessionId = row.sessionId
  past : ∀ row, row.sessionId = sessionId → now < (finish row).expiresAt → (finish row).supersededAt ≠ none

variable (sessionId : String)

theorem ends_released (now : Nat) : Ends sessionId now (released sessionId now) := by
  refine ⟨fun row => ?_, fun row => ?_, fun row own unexpired => ?_⟩ <;> unfold released at *
  · split <;> rfl
  · split <;> rfl
  · by_cases live : now < row.expiresAt
    · rw [if_pos ⟨own, live⟩] at unexpired
      exact absurd unexpired (Nat.lt_irrefl _)
    · rw [if_neg fun both => live both.2] at unexpired
      exact absurd unexpired live

theorem ends_givenUp (now : Nat) : Ends sessionId now (givenUp sessionId now) := by
  refine ⟨fun row => ?_, fun row => ?_, fun row own unexpired => ?_⟩ <;> unfold givenUp at *
  · split <;> rfl
  · split <;> rfl
  · split
    · exact Option.some_ne_none _
    next skipped =>
      rw [if_neg skipped] at unexpired
      exact fun current => skipped ⟨own, unexpired, current⟩

theorem endReservations_eq (now : Nat) (reservations : List RelayReservation) :
    ∃ finish, Ends sessionId now finish ∧
      endReservations [sessionId] now reservations = reservations.map finish := by
  refine ⟨_, ⟨fun row => ?_, fun row => ?_, fun row own unexpired => ?_⟩, rfl⟩
  · split <;> rfl
  · split <;> rfl
  · by_cases live : now < row.expiresAt
    · rw [if_pos ⟨List.mem_singleton.mpr own, live⟩] at unexpired
      exact absurd unexpired (Nat.lt_irrefl _)
    · rw [if_neg fun both => live both.2] at unexpired
      exact absurd unexpired live

/-- **The end of a session.** -/
theorem effect_finished {finish : RelayReservation → RelayReservation}
    (finishes : Ends record.grant.id now finish) (id : after.grant.id = record.grant.id)
    (moved : after.status = record.status ∨ moves record.status after.status = true)
    (past : ended after.status = true) (accesses : after.accesses = record.accesses)
    (generations : after.wan.generations = record.wan.generations)
    (fetched : after.wan.fetched = record.wan.fetched)
    (reservations : after.wan.reservations = record.wan.reservations.map finish) :
    Effect record now after := by
  refine .finished moved past (fun row member own unexpired => ?_)
    ⟨accesses, generations, fetched, fun row member own => ?_⟩
  · change row ∈ after.wan.reservations at member
    rw [reservations] at member
    obtain ⟨old, _, rfl⟩ := List.mem_map.mp member
    exact finishes.past old ((finishes.sameSession old).symm.trans (Eq.trans own id)) unexpired
  · rw [reservations] at member
    obtain ⟨old, there, rfl⟩ := List.mem_map.mp member
    exact ⟨old, there, (finishes.sameSession old).symm.trans (Eq.trans own id), (finishes.sameId old).symm⟩

/-! ### The operations -/

theorem effect_create {call : CreateCall} (done : record.create call = .ok after) :
    SameRequest record after ∧ Effect record clock after := by
  obtain ⟨_, ⟨⟩⟩ := refused_ok done
  exact ⟨.refl _, effect_unchanged⟩

variable {target : TargetDevice} {session : WanSession}

theorem create_grant {created : WanSession} {grant : Relay.Server.SessionRequest} {generation : Nat}
    {creation : CreationCall} {commits : Bool}
    (done : session.create service grant target generation creation commits = .ok created) :
    grant.status = (if generation = 0 then .requested else .approved) ∧ created.grant = { grant with
        activeRelayGeneration := some generation
        status := .approved } := by
  obtain ⟨⟨granted, persisted, reservations⟩, creating, done⟩ := bind_ok done
  cases guard_ok done
  unfold createWanGeneration at creating
  obtain ⟨valid, creating⟩ := guarded_ok creating
  obtain ⟨_, _, ⟨⟩⟩ := bind_ok creating
  simp only [not_or, not_not] at valid
  exact ⟨valid.2.2.2.1, rfl⟩

/-- An approval is a retry, or the grant is bound and a generation created. -/
theorem approve_grant {approved : WanSession} {call : ApproveCall}
    (done : session.approve service call = .ok approved) :
    (session.grant.status = .approved ∧ approved = session) ∨
      session.grant.status = .requested ∧ approved.grant.status = .approved ∧
        approved.grant.id = session.grant.id ∧
        approved.grant.requesterDeviceId = session.grant.requesterDeviceId ∧
        approved.grant.approvedScopes = some call.approvedScopes := by
  unfold WanSession.approve at done
  have done := guard_ok done
  split at done
  next status =>
    obtain ⟨_, _, done⟩ := bind_ok (guard_ok done)
    obtain ⟨_, _, done⟩ := bind_ok done
    cases guard_ok done
    exact .inl ⟨status, rfl⟩
  next status =>
    obtain ⟨created, creating, done⟩ := bind_ok done
    cases guard_ok done
    have granted := (create_grant creating).2
    rw [granted]
    exact .inr ⟨status, rfl, rfl, rfl, rfl⟩
  · cases done

variable {call : DeviceApproveCall}

theorem within_of_approvable
    (fits : approvable record.requestedScopes record.requestedProfile call = true)
    (scopes : after.grant.approvedScopes = some call.approvedScopes)
    (profile : after.approvedProfile = call.approvedProfile) (same : SameRequest record after) :
    Within after := by
  unfold approvable at fits
  simp only [Bool.and_eq_true] at fits
  obtain ⟨⟨⟨some, _⟩, each⟩, inside⟩ := fits
  obtain ⟨requested, known, all⟩ := Option.any_eq_true _ _ |>.mp each
  refine ⟨call.approvedScopes, requested, scopes, same.requestedScopes.trans known, ?_,
    fun scope member => ?_, ?_⟩
  · intro empty
    simp [empty] at some
  · simpa using List.all_eq_true.mp all scope member
  · simp [profile, same.requestedProfile, inside]

theorem effect_approve (done : record.approve service call = .ok after) :
    SameRequest record after ∧ Effect record clock after := by
  unfold approve at done
  obtain ⟨fits, done⟩ := guarded_ok (guard_ok done)
  obtain ⟨repeated, done⟩ := guarded_ok done
  obtain ⟨wan, approving, ⟨⟩⟩ := bind_ok done
  rcases approve_grant approving with ⟨status, rfl⟩ | ⟨status, later, id, requester, scopes⟩
  · have same : call.approvedProfile = record.approvedProfile :=
      (not_not.mp fun other => repeated ⟨status, other⟩).symm
    exact ⟨⟨rfl, rfl, rfl, rfl⟩, .quiet rfl same ⟨rfl, rfl, rfl, (NothingIssued.refl record).reservations⟩
      fun _ member _ => member⟩
  · have same : SameRequest record { record with
        wan
        approvedProfile := call.approvedProfile } := ⟨id, requester, rfl, rfl⟩
    exact ⟨same, .approved status later fun _ =>
      within_of_approvable (Bool.eq_true_of_not_eq_false fits) scopes rfl same⟩

theorem effect_transition {authorized : Bool}
    (done : record.transition action authorized now = .ok after) :
    SameRequest record after ∧ Effect record now after := by
  unfold transition at done
  obtain ⟨wan, ending, ⟨⟩⟩ := bind_ok (guard_ok done)
  unfold WanSession.transition at ending
  have ending := guard_ok ending
  split at ending
  next same =>
    cases ending
    exact ⟨⟨rfl, rfl, rfl, rfl⟩, effect_finished (ends_released _ _) rfl (.inl rfl)
      ((congrArg ended same).trans (terminal_ended action)) rfl rfl rfl rfl⟩
  · obtain ⟨expected, ⟨⟩⟩ := guarded_ok ending
    exact ⟨⟨rfl, rfl, rfl, rfl⟩, effect_finished (ends_released _ _) rfl
      (.inr (moves_terminal (not_not.mp expected))) (terminal_ended action) rfl rfl rfl rfl⟩

theorem effect_grantApprove {call : GrantApproveCall} (done : record.grantApprove call = .ok after) :
    SameRequest record after ∧ Effect record clock after := by
  unfold grantApprove at done
  obtain ⟨valid, done⟩ := guarded_ok done
  obtain ⟨status, ⟨⟩⟩ := guarded_ok (guard_ok done)
  have account := not_not.mp (not_or.mp valid).2
  exact ⟨⟨rfl, rfl, rfl, rfl⟩, .approved (not_not.mp (not_or.mp status).1) rfl fun device =>
    absurd account device⟩

theorem effect_grantTransition {authorized : Bool}
    (done : record.grantTransition action authorized now = .ok after) :
    SameRequest record after ∧ Effect record now after := by
  unfold grantTransition at done
  obtain ⟨status, ⟨⟩⟩ := guarded_ok (guard_ok done)
  have expected := not_not.mp status
  exact ⟨⟨rfl, rfl, rfl, rfl⟩, effect_finished (ends_givenUp _ _) rfl
    (.inr ((congrArg (moves · action.terminal) expected).trans (moves_grantExpected action)))
    (terminal_ended action) rfl rfl rfl rfl⟩

theorem effect_issueAccess {call : GrantAccessCall} (done : record.issueAccess service call = .ok after) :
    SameRequest record after ∧ Effect record clock after := by
  unfold issueAccess at done
  obtain ⟨authorized, done⟩ := guarded_ok done
  obtain ⟨_, _, done⟩ := bind_ok done
  obtain ⟨_, _, done⟩ := bind_ok done
  cases guard_ok done
  have authorized := Bool.eq_true_of_not_eq_false authorized
  unfold authorizeRelayGrant at authorized
  simp only [Bool.and_eq_true, decide_eq_true_eq] at authorized
  have status := authorized.1.1.1.1.1.2
  exact ⟨⟨rfl, rfl, rfl, rfl⟩, .issued status status rfl rfl⟩

theorem effect_refresh {call : RefreshCall} (done : record.refresh service call = .ok after) :
    SameRequest record after ∧ Effect record clock after := by
  obtain ⟨wan, refreshing, ⟨⟩⟩ := bind_ok done
  obtain ⟨_, _, refreshing⟩ := bind_ok refreshing
  obtain ⟨created, creating, ⟨⟩⟩ := bind_ok refreshing
  obtain ⟨status, granted⟩ := create_grant creating
  rw [if_neg (Nat.succ_ne_zero _)] at status
  exact ⟨⟨congrArg (·.id) granted, congrArg (·.requesterDeviceId) granted, rfl, rfl⟩,
    .issued status (congrArg (·.status) granted) (congrArg (·.approvedScopes) granted) rfl⟩

theorem effect_fetch {call : FetchCall} {commits : Bool}
    (done : record.fetch service target call commits = .ok after) :
    SameRequest record after ∧ Effect record clock after := by
  unfold fetch at done
  obtain ⟨wan, fetching, ⟨⟩⟩ := bind_ok (guard_ok done)
  obtain ⟨status, _, _, _, _, rfl⟩ := fetch_ok fetching
  exact ⟨⟨rfl, rfl, rfl, rfl⟩, .issued status status rfl rfl⟩

theorem effect_publication (deviceId : String) (enabled : Bool) :
    SameRequest record (record.publication deviceId enabled now) ∧
      Effect record now (record.publication deviceId enabled now) := by
  unfold publication
  split
  next revoked =>
    obtain ⟨finish, finishes, same⟩ := endReservations_eq record.grant.id now record.wan.reservations
    refine ⟨⟨rfl, rfl, rfl, rfl⟩, effect_finished finishes rfl (.inr ?_) rfl rfl rfl rfl same⟩
    rcases revoked.2.2 with status | ⟨_, status⟩
    · exact congrArg (moves · .revoked) status
    · exact congrArg (moves · .revoked) status
  · exact ⟨.refl _, effect_unchanged⟩

theorem effect_elsewhere {reservations : List RelayReservation}
    (alone : leavesAlone record.wan reservations now = true) :
    Effect record now { record with wan := { record.wan with reservations } } := by
  have known : ∀ row ∈ reservations, row.sessionId = record.grant.id → row ∈ record.wan.reservations := by
    intro row member own
    have each := List.all_eq_true.mp (Bool.and_eq_true_iff.mp alone).1 row member
    rw [own] at each
    simpa using each
  exact .quiet rfl rfl ⟨rfl, rfl, rfl, fun row member own => ⟨row, known row member own, own, rfl⟩⟩ known

variable {event : LifecycleEvent}

/-- **What any operation does.** -/
theorem perform_effect (performed : event.perform service record = .ok after) :
    SameRequest record after ∧ Effect record event.times.2 after := by
  cases event with
  | create call => exact effect_create performed
  | approve call => exact effect_approve performed
  | transition action authorized now => exact effect_transition performed
  | grantApprove call => exact effect_grantApprove performed
  | grantTransition action authorized now => exact effect_grantTransition performed
  | issueAccess call => exact effect_issueAccess performed
  | refresh call => exact effect_refresh performed
  | fetch target call commits => exact effect_fetch performed
  | publication deviceId enabled now =>
    cases performed
    exact effect_publication deviceId enabled
  | elsewhere reservations now =>
    change (if leavesAlone record.wan reservations now then
      Except.ok { record with wan := { record.wan with reservations } }
      else .error RelayAccessError.failed) = .ok after at performed
    split at performed
    next alone =>
      cases performed
      exact ⟨⟨rfl, rfl, rfl, rfl⟩, effect_elsewhere alone⟩
    · cases performed

/-! ### Runs -/

/-- **The invariant.** -/
structure Lawful (record : SessionRecord) : Prop where
  within : record.grant.requesterDeviceId ≠ none → record.status = .approved → Within record
  barren : ended record.status = true → Barren record

theorem Opened.lawful (opened : Opened record) : Lawful record := by
  refine ⟨fun _ status => ?_, fun past => ?_⟩
  · cases opened.status.symm.trans status
  · rw [opened.status] at past
    cases past

theorem step_effect (taken : record.step service event = some after) :
    ∃ base, record.wan.clock ≤ event.times.2 ∧ after = base.at event.times.2 ∧
      SameRequest record base ∧ Effect record event.times.2 base := by
  unfold step at taken
  rw [Option.ite_none_right_eq_some] at taken
  obtain ⟨⟨first, second⟩, taken⟩ := taken
  have later := Nat.le_trans first second
  cases performed : event.perform service record with
  | error _ =>
    rw [performed] at taken
    cases taken
    exact ⟨record, later, rfl, .refl record, effect_unchanged⟩
  | ok base =>
    rw [performed] at taken
    cases taken
    exact ⟨base, later, rfl, perform_effect performed⟩

theorem Within.congr (within : Within record) (same : SameRequest record after)
    (scopes : after.grant.approvedScopes = record.grant.approvedScopes)
    (profile : after.approvedProfile = record.approvedProfile) : Within after := by
  obtain ⟨approved, requested, granted, known, some, inside, fits⟩ := within
  refine ⟨approved, requested, scopes.trans granted, same.requestedScopes.trans known, some, inside, ?_⟩
  rw [profile, same.requestedProfile]
  exact fits

theorem not_moves_of_ended {status next : SessionStatus} (past : ended status = true) :
    ¬ moves status next = true := by
  cases status with
  | requested | approved => cases past
  | rejected | expired | closed | revoked => exact Bool.false_ne_true

/-- **One step keeps the invariant.** -/
theorem step_lawful (lawful : Lawful record) (taken : record.step service event = some after) :
    Lawful after := by
  obtain ⟨base, later, rfl, same, effect⟩ := step_effect taken
  cases effect with
  | quiet grant profile _ known =>
    refine ⟨fun device status => ?_, fun past row member own unexpired => ?_⟩
    · have before : record.status = .approved := (congrArg (·.status) grant).symm.trans status
      have device : record.grant.requesterDeviceId ≠ none :=
        fun account => device (same.requesterDeviceId.trans account)
      exact (lawful.within device before).congr (same.later _) (congrArg (·.approvedScopes) grant) profile
    · have before : ended record.status = true :=
        (congrArg (fun grant => ended grant.status) grant).symm.trans past
      refine lawful.barren before row (known row member own) ?_ (Nat.lt_of_le_of_lt later unexpired)
      exact Eq.trans own same.id
  | approved _ status within =>
    refine ⟨fun device _ => ?_, fun past => ?_⟩
    · exact within fun account => device (same.requesterDeviceId.trans account)
    · exact absurd ((congrArg ended status).symm.trans past) Bool.false_ne_true
  | issued before status scopes profile =>
    refine ⟨fun device _ => ?_, fun past => ?_⟩
    · have device : record.grant.requesterDeviceId ≠ none :=
        fun account => device (same.requesterDeviceId.trans account)
      exact (lawful.within device before).congr (same.later _) scopes profile
    · exact absurd ((congrArg ended status).symm.trans past) Bool.false_ne_true
  | finished _ past barren _ =>
    refine ⟨fun _ status => ?_, fun _ => barren⟩
    exact absurd ((congrArg ended status).symm.trans past) Bool.false_ne_true

theorem step_moves (taken : record.step service event = some after) :
    after.status = record.status ∨ moves record.status after.status = true := by
  obtain ⟨base, _, rfl, _, effect⟩ := step_effect taken
  cases effect with
  | quiet grant _ _ _ => exact .inl (congrArg (·.status) grant)
  | approved before status _ =>
    right
    show moves record.status base.status = true
    rw [before, status]
    rfl
  | issued before status _ _ => exact .inl (status.trans before.symm)
  | finished moved _ _ _ => exact moved

/-- **A session that has ended is issued nothing.** -/
theorem step_ended (past : ended record.status = true)
    (taken : record.step service event = some after) :
    after.status = record.status ∧ NothingIssued record after := by
  have stays := (step_moves taken).resolve_right (not_moves_of_ended past)
  obtain ⟨base, _, rfl, _, effect⟩ := step_effect taken
  cases effect with
  | quiet _ _ nothing _ => exact ⟨stays, nothing.later _⟩
  | approved before _ _ =>
    rw [before] at past
    cases past
  | issued before _ _ _ =>
    rw [before] at past
    cases past
  | finished _ _ _ nothing => exact ⟨stays, nothing.later _⟩

theorem reach_lawful (lawful : Lawful record)
    (reach : Reach (step service) always record after) : Lawful after :=
  reach.invariant lawful fun _ _ _ lawful _ taken => step_lawful lawful taken

theorem reach_sameRequest (reach : Reach (step service) always record after) :
    SameRequest record after := by
  induction reach with
  | refl => exact .refl record
  | tail _ _ taken ih =>
    obtain ⟨base, _, rfl, same, _⟩ := step_effect taken
    exact ih.trans (same.later _)

theorem reach_ended (past : ended record.status = true)
    (reach : Reach (step service) always record after) :
    after.status = record.status ∧ NothingIssued record after := by
  induction reach with
  | refl => exact ⟨rfl, .refl record⟩
  | tail _ _ taken ih =>
    obtain ⟨stays, nothing⟩ := ih
    obtain ⟨still, more⟩ := step_ended ((congrArg ended stays).trans past) taken
    exact ⟨still.trans stays, nothing.trans more⟩

/-- **The life of a session.** In every state that a requested session reaches: its next step leaves its
status as it is, or moves it from requested to approved, rejected, closed or revoked, or from approved to
closed or revoked; while it is approved for a device, the approved scopes are some of the requested scopes
and the approved profile is within the requested one; and once it has ended its status stays, no access,
generation or reservation is issued for it, and its unexpired reservations are all superseded. -/
theorem session_lifecycle {service : RelayAccessService} {first record : SessionRecord}
    (opened : Opened first) (reach : Reach (step service) always first record) :
    (∀ event after, record.step service event = some after →
      after.status = record.status ∨ moves record.status after.status = true) ∧
    SameRequest first record ∧
    (record.grant.requesterDeviceId ≠ none → record.status = .approved → Within record) ∧
    (ended record.status = true → ∀ later, Reach (step service) always record later →
        later.status = record.status ∧ NothingIssued record later ∧ Barren later) := by
  have lawful := reach_lawful opened.lawful reach
  refine ⟨fun event after taken => step_moves taken, reach_sameRequest reach, lawful.within,
    fun past later more => ?_⟩
  obtain ⟨stays, nothing⟩ := reach_ended past more
  exact ⟨stays, nothing, (reach_lawful lawful more).barren ((congrArg ended stays).trans past)⟩

/-! ### A sample -/

def sampleProfile : WanMediaProfile where
  width := 1280
  height := 720
  fps := 30
  bitrateMbps := 8
  codec := "h264"
  codecProfile := none
  bitDepth := none
  chromaSubsampling := none
  pixelFormat := none
  hdrEnabled := none
  colorMode := none
  colorPipeline := none

def sampleRecord : SessionRecord where
  wan := Relay.Server.sampleWanSession
  requestedScopes := some ["input.pointer", "screen.view"]
  requestedProfile := some sampleProfile
  approvedProfile := none
  accesses := []

/-- The approval of a part of what was requested. -/
def sampleApproval : DeviceApproveCall where
  authorized := true
  browserController := false
  target := Relay.Server.sampleTarget
  policy := ⟨600, 600, 1, ["eu"], ["eu"], [.udp], 0⟩
  approvedScopes := ["input.pointer"]
  approvedProfile := some { sampleProfile with fps := 15 }
  authorityExpiresAt := 0
  authorityHolds := true
  now := fromTimestamp 100
  creation := creationAt 100 "directory-1" "reservation-1"
  commits := true

theorem sampleRecord_opened : Opened sampleRecord :=
  ⟨rfl, rfl, rfl, rfl, List.forall_mem_nil _⟩

/-- The session is approved, and closed by one of its devices. -/
theorem session_lifecycle_sample : ∃ record later : SessionRecord,
    record.status = .approved ∧ Within record ∧ record.wan.reservations.length = 1 ∧
      later.status = .closed ∧ Barren later ∧ later.wan.reservations.length = 1 := by
  have ran : (run (step sampleService) sampleRecord
      [.approve sampleApproval]).map (fun record : SessionRecord =>
        (record.status, record.grant.requesterDeviceId, record.wan.reservations.length)) =
      some (.approved, some "device-1", 1) := by decide +kernel
  have closed : (run (step sampleService) sampleRecord
      [.approve sampleApproval, .transition .close true (fromTimestamp 101)]).map
        (fun record : SessionRecord => (record.status, record.wan.reservations.length)) =
      some (.closed, 1) := by decide +kernel
  obtain ⟨record, reached, seen⟩ := Option.map_eq_some_iff.mp ran
  obtain ⟨later, ended, known⟩ := Option.map_eq_some_iff.mp closed
  obtain ⟨approved, device, one⟩ : _ ∧ _ ∧ _ := by simpa only [Prod.mk.injEq] using seen
  obtain ⟨past, still⟩ : _ ∧ _ := by simpa only [Prod.mk.injEq] using known
  obtain ⟨_, _, within, _⟩ := session_lifecycle sampleRecord_opened (run_reach reached)
  obtain ⟨_, _, _, final⟩ := session_lifecycle sampleRecord_opened (run_reach ended)
  have requested : record.grant.requesterDeviceId ≠ none := device ▸ Option.some_ne_none _
  exact ⟨record, later, approved, within requested approved, one, past,
    (final (past ▸ rfl) later .refl).2.2, still⟩

end MiniRemoteDesktop.Browser
