/-
**The history of a WAN session's generations** (`app/services/relay_directory.py` and
`device_sessions.py`).

The target approves a session, which creates generation 0; a refresh creates the generation after the one
that it names; both participants fetch; the session is closed, rejected or revoked. Each of these is a
transaction under the lock of the session, and what fails is rolled back. A refresh is a transaction that
creates and then a fetch, with others in between.

* `approve`, `refresh`, `fetch`, `transition` — the transactions; `WanSession.step` — a run takes one after
  another, between which the rest of the server works.
* `linear_history` — **the generations form one line**.

The devices of a call, its user accounts and the canonical request are one Boolean of the call.
-/

import MiniRemoteDesktop.Relay.Issuance

namespace MiniRemoteDesktop.Relay.Server

open List (cons_ne_nil map_map mem_append mem_map mem_singleton prefix_rfl)
open Checked Execution Ranking

/-! ### What is stored -/

structure WanSession where
  grant : SessionRequest
  generations : List RelayAccessGeneration
  reservations : List RelayReservation
  clock : Nat
  refreshed : List Nat
  fetched : List (Nat × SignedRelayDirectory)

open WanSession

/-- The generation under a number. -/
def WanSession.stored (session : WanSession) (generation : Nat) : Option RelayAccessGeneration :=
  session.generations.find? fun persisted => persisted.generation = generation

/-! ### Policies -/

structure SessionGrantPolicy where
  (grantTtlSeconds policyTtlSeconds revision : Nat)
  (allowedRegions preferredRegions : List String)
  acceptedTransports : List RelayTransport
  maxBackups : Int

/-- `validate_session_grant_policy`. -/
def SessionGrantPolicy.valid (policy : SessionGrantPolicy) : Bool :=
  1 ≤ policy.grantTtlSeconds ∧ policy.grantTtlSeconds ≤ 3600 ∧
    1 ≤ policy.policyTtlSeconds ∧ policy.policyTtlSeconds ≤ policy.grantTtlSeconds ∧
    1 ≤ policy.revision ∧ policy.revision ≤ 2 ^ 63 - 1 ∧
    1 ≤ policy.allowedRegions.length ∧ policy.allowedRegions.length ≤ 8 ∧
    1 ≤ policy.preferredRegions.length ∧ policy.preferredRegions.length ≤ 8 ∧
    policy.preferredRegions.all (· ∈ policy.allowedRegions) ∧
    1 ≤ policy.acceptedTransports.length ∧ policy.acceptedTransports.length ≤ 3 ∧
    0 ≤ policy.maxBackups ∧ policy.maxBackups ≤ 7

/-- `bind_session_grant_policy`, with the deadlines of a guest. -/
def bindSessionGrantPolicy (grant : SessionRequest) (targetId : String) (policy : SessionGrantPolicy)
    (authorityExpiresAt now : Nat) : SessionRequest :=
  let grantExpiresAt := now + fromTimestamp policy.grantTtlSeconds
  let policyExpiresAt := now + fromTimestamp policy.policyTtlSeconds
  { grant with
    grantExpiresAt := some (if grant.temporaryPassword then min grantExpiresAt authorityExpiresAt
      else grantExpiresAt)
    policyRevision := some policy.revision
    policyExpiresAt := some (if grant.temporaryPassword then min policyExpiresAt authorityExpiresAt
      else policyExpiresAt)
    intendedPeerId := some targetId
    relayAllowedRegions := some policy.allowedRegions
    relayPreferredRegions := some policy.preferredRegions
    relayAcceptedTransports := some policy.acceptedTransports
    relayMaxBackups := policy.maxBackups }

/-! ### Transactions -/

/-- The creation of a generation, on the reservations of the session. It fails with the constraints of
the table, or because it does not commit. -/
def WanSession.create (service : RelayAccessService) (session : WanSession) (grant : SessionRequest)
    (target : TargetDevice) (generation : Nat) (creation : CreationCall) (commits : Bool) :
    Except RelayAccessError WanSession := do
  let locked := { creation.locked with reservations := session.reservations }
  let (granted, persisted, reservations) ←
    createWanGeneration service grant target generation { creation with locked }
  if session.generations.any (fun other => other.generation = persisted.generation ||
      other.directoryId = persisted.directoryId) ∨ persisted.expiresAt ≤ persisted.createdAt ∨
      commits = false then .error .failed
  return { session with
    grant := granted
    generations := session.generations ++ [persisted]
    reservations }

/-- **A call of `approve`.** `authorized` stands for the devices of the call and what was requested,
`authorityHolds` for the second look at the authority of a guest. -/
structure ApproveCall where
  authorized : Bool
  target : TargetDevice
  policy : SessionGrantPolicy
  approvedScopes : List String
  approvedProfile : Option (Option Int)
  authorityExpiresAt : Nat
  authorityHolds : Bool
  now : Nat
  creation : CreationCall
  commits : Bool

/-- An approval that is repeated asks for what was granted. -/
def repeatsGrant (grant : SessionRequest) (call : ApproveCall) : Bool :=
  grant.approvedScopes = some call.approvedScopes && grant.approvedProfile = call.approvedProfile &&
    grant.policyRevision = some call.policy.revision &&
    grant.relayAllowedRegions = some call.policy.allowedRegions &&
    grant.relayPreferredRegions = some call.policy.preferredRegions &&
    grant.relayAcceptedTransports = some call.policy.acceptedTransports &&
    grant.relayMaxBackups = call.policy.maxBackups && grant.intendedPeerId = some call.target.id &&
    (grant.grantExpiresAt.any fun expiry => call.now < expiry) &&
    (grant.policyExpiresAt.any fun expiry => call.now < expiry)

def WanSession.approve (service : RelayAccessService) (session : WanSession) (call : ApproveCall) :
    Except RelayAccessError WanSession := do
  if call.policy.valid = false ∨ call.authorized = false then .error .accessDenied
  match session.grant.status with
  | .approved =>
    if repeatsGrant session.grant call = false then .error .accessDenied
    let generation ← session.grant.activeRelayGeneration.elim (.error .accessDenied) .ok
    let _ ← validateWanGeneration service session.grant call.target (session.stored generation)
      session.reservations call.creation.now
    if session.grant.temporaryPassword ∧ call.authorityHolds = false then .error .accessDenied
    return session
  | .requested =>
    let bound := bindSessionGrantPolicy session.grant call.target.id call.policy call.authorityExpiresAt
      call.now
    let grant := { bound with
      approvedScopes := some call.approvedScopes
      approvedProfile := call.approvedProfile }
    let created ← session.create service grant call.target 0 call.creation call.commits
    if session.grant.temporaryPassword ∧ call.authorityHolds = false then .error .accessDenied
    return created
  | _ => .error .accessDenied

/-- **The first transaction of a refresh**, which names the generation that it has. -/
structure RefreshCall where
  authorized : Bool
  target : TargetDevice
  (policyRevision generation now : Nat)
  creation : CreationCall
  commits : Bool

def WanSession.refresh (service : RelayAccessService) (session : WanSession) (call : RefreshCall) :
    Except RelayAccessError WanSession := do
  authorizeWanAccess session.grant call.policyRevision call.generation call.now call.authorized
  let created ← session.create service session.grant call.target (call.generation + 1) call.creation
    call.commits
  return { created with refreshed := created.refreshed ++ [call.generation] }

/-- A fetch, which may still fail to commit. -/
def WanSession.fetch (service : RelayAccessService) (session : WanSession) (target : TargetDevice)
    (call : FetchCall) (commits : Bool) : Except RelayAccessError WanSession := do
  let tables := { call.tables with reservations := session.reservations }
  let result ← fetchWanAccess service session.grant target (session.stored call.generation)
    { call with tables }
  if commits = false then .error .failed
  return { session with fetched := session.fetched ++ [(call.generation, result.directory)] }

inductive TransitionAction
  | reject
  | close
  | revoke
  deriving DecidableEq

/-- The states that an action starts from. -/
def TransitionAction.expected : TransitionAction → List SessionStatus
  | reject => [.requested]
  | close => [.requested, .approved]
  | revoke => [.approved]

def TransitionAction.terminal : TransitionAction → SessionStatus
  | reject => .rejected
  | close => .closed
  | revoke => .revoked

/-- The end of a reservation of the session. -/
def released (sessionId : String) (now : Nat) (row : RelayReservation) : RelayReservation :=
  if row.sessionId = sessionId ∧ now < row.expiresAt then
    { row with
      expiresAt := now
      supersededAt := some (row.supersededAt.getD now) }
  else row

def WanSession.transition (session : WanSession) (action : TransitionAction) (authorized : Bool)
    (now : Nat) : Except RelayAccessError WanSession := do
  if authorized = false then .error .accessDenied
  let reservations := session.reservations.map (released session.grant.id now)
  if session.grant.status = action.terminal then return { session with reservations }
  if session.grant.status ∉ action.expected then .error .accessDenied
  let grant := { session.grant with
    status := action.terminal
    grantExpiresAt := session.grant.grantExpiresAt.map fun _ => now
    policyExpiresAt := session.grant.policyExpiresAt.map fun _ => now }
  return { session with grant, reservations }

/-! ### Runs -/

inductive WanEvent
  | approve (call : ApproveCall)
  | refresh (call : RefreshCall)
  | fetch (target : TargetDevice) (call : FetchCall) (commits : Bool)
  | transition (action : TransitionAction) (authorized : Bool) (now : Nat)
  /-- The rest of the server. Of the reservations of the session it deletes expired ones only. -/
  | elsewhere (reservations : List RelayReservation) (now : Nat)

/-- The two readings of the clock in a transaction. -/
def WanEvent.times : WanEvent → Nat × Nat
  | approve call => (call.now, call.creation.now)
  | refresh call => (call.now, call.creation.now)
  | fetch _ call _ => (call.now, call.now)
  | transition _ _ now => (now, now)
  | elsewhere _ now => (now, now)

/-- What other transactions leave of the session. -/
def leavesAlone (session : WanSession) (reservations : List RelayReservation) (now : Nat) : Bool :=
  (reservations.all fun row => row.sessionId ≠ session.grant.id || row ∈ session.reservations) &&
    session.reservations.all fun row =>
      row.sessionId ≠ session.grant.id || row.expiresAt ≤ now || row ∈ reservations

def WanEvent.perform (service : RelayAccessService) (session : WanSession) :
    WanEvent → Except RelayAccessError WanSession
  | approve call => session.approve service call
  | refresh call => session.refresh service call
  | fetch target call commits => session.fetch service target call commits
  | transition action authorized now => session.transition action authorized now
  | elsewhere reservations now =>
    if leavesAlone session reservations now then .ok { session with reservations } else .error .failed

/-- A transaction, at times that do not go back. What fails is rolled back. -/
def WanSession.step (service : RelayAccessService) (session : WanSession) (event : WanEvent) :
    Option WanSession :=
  if session.clock ≤ event.times.1 ∧ event.times.1 ≤ event.times.2 then
    match event.perform service session with
    | .ok after => some { after with clock := event.times.2 }
    | .error _ => some { session with clock := event.times.2 }
  else none

/-- **A session that was just requested.** -/
structure Requested (session : WanSession) : Prop where
  status : session.grant.status = .requested
  inactive : session.grant.activeRelayGeneration = none
  generations : session.generations = []
  reservations : ∀ row ∈ session.reservations, row.sessionId ≠ session.grant.id
  refreshed : session.refreshed = []
  fetched : session.fetched = []

/-! ### What a creation makes of the reservations -/

variable {service : RelayAccessService} {grant granted : SessionRequest} {target : TargetDevice}
  {generation : Nat} {creation : CreationCall} {persisted : RelayAccessGeneration}
  {table : List RelayReservation}

theorem superseded_fields (sessionId generation : String) (now : Nat) (row : RelayReservation) :
    (superseded sessionId generation now row).id = row.id ∧
      (superseded sessionId generation now row).sessionId = row.sessionId ∧
      (superseded sessionId generation now row).expiresAt = row.expiresAt ∧
      (superseded sessionId generation now row).directoryGeneration = row.directoryGeneration := by
  unfold superseded
  split <;> exact ⟨rfl, rfl, rfl, rfl⟩

theorem coheredRow_fields (kept : List RelayReservation) (row : RelayReservation) :
    (coheredRow kept row).id = row.id ∧ (coheredRow kept row).sessionId = row.sessionId ∧
      (coheredRow kept row).supersededAt = row.supersededAt ∧
      (coheredRow kept row).directoryGeneration = row.directoryGeneration := by
  unfold coheredRow
  split <;> exact ⟨rfl, rfl, rfl, rfl⟩

variable {kept : List RelayReservation} {row : RelayReservation}

theorem coheredRow_of_other (other : row.id ∉ kept.map (·.id)) : coheredRow kept row = row := by
  unfold coheredRow
  split
  next reservation found =>
    refine absurd (mem_map.mpr ⟨reservation, List.mem_of_find?_eq_some found, ?_⟩) other
    simpa using List.find?_some found
  · rfl

variable {reservations : List RelayReservation}

/-- Without reservations of credentials that are out, all that were taken are kept. -/
theorem cohereReservations_new {tables : Tables} {deadline expiry : Nat}
    (done : cohereReservations tables deadline reservations [] = .ok (kept, expiry)) :
    kept.map (·.id) = reservations.map (·.id) := by
  obtain ⟨deadlines, _, ⟨⟩⟩ := bind_ok done
  simp

/-- **A row of the session after a creation**: it was taken under the new generation, or it was there
before, and is expired or superseded. -/
inductive CreatedRow (creation : CreationCall) (sessionId : String) (listed : List String)
    (row : RelayReservation) : Prop
  | taken (generation : row.directoryGeneration = creation.directoryId) (current : row.supersededAt = none)
      (member : row.id ∈ listed) : CreatedRow creation sessionId listed row
  | before (old : RelayReservation) (member : old ∈ creation.locked.reservations)
      (own : old.sessionId = sessionId) (generation : row.directoryGeneration = old.directoryGeneration)
      (other : row.id ∉ listed) (past : row.expiresAt ≤ creation.now ∨ row.supersededAt ≠ none) :
      CreatedRow creation sessionId listed row

theorem policyFromGrant_backups {policy : SelectionPolicy} (known : policyFromGrant grant = .ok policy) :
    1 ≤ requiredCount policy := by
  unfold policyFromGrant at known
  obtain ⟨valid, ⟨⟩⟩ := refused_ok known
  have backups := (not_not.mp (not_or.mp (not_or.mp (not_or.mp (not_or.mp (not_or.mp valid).2).2).2).2).2).1
  unfold requiredCount
  dsimp only
  omega

variable {admitted : WanAdmitted}

/-- **What a creation makes of the rows of its session.** -/
theorem admitWan_rows (done : admitWan service grant creation = .ok admitted)
    (fresh : ∀ row ∈ creation.locked.reservations, row.sessionId = grant.id →
      row.directoryGeneration ≠ creation.directoryId) :
    ∀ row ∈ admitted.table, row.sessionId = grant.id →
      CreatedRow creation grant.id (admitted.reservations.map (·.id)) row := by
  obtain ⟨policy, known, done⟩ := bind_ok done
  obtain ⟨egress, _, done⟩ := bind_ok done
  obtain ⟨items, _, done⟩ := bind_ok done
  obtain ⟨deadline, _, done⟩ := bind_ok done
  obtain ⟨subject, _, done⟩ := bind_ok (guard_ok done)
  obtain ⟨⟨writes, taken⟩, reserved, done⟩ := bind_ok done
  obtain ⟨count, done⟩ := guarded_ok done
  obtain ⟨⟨kept, expiry⟩, cohesion, done⟩ := bind_ok done
  cases guard_ok done
  have reserved := fromRepository_ok reserved
  have positive := policyFromGrant_backups known
  have nonempty : taken ≠ [] := by
    rintro rfl
    exact count (by rw [List.length_nil]; omega)
  obtain ⟨chosen, grown, total⟩ := reserveCapacity_fresh rfl rfl fresh nonempty reserved
  have inserted : Inserted (wanRequest creation grant policy items subject deadline egress) creation.newIds
      (creation.locked.reservations.map (superseded grant.id creation.directoryId creation.now))
      (replay creation.locked.reservations writes) chosen := grown
  have ids : taken.map (·.id) = chosen.map creation.newIds := by
    rw [show taken = _ from total, map_map]
    rfl
  -- None of the reservations was there before, so the new ones are not cohered with others.
  have alone : (taken.filter fun reservation =>
      reservation.id ∈ (preexisting creation.locked grant.id creation.now).map (·.id)) = [] := by
    refine List.filter_eq_nil_iff.mpr fun reservation member => ?_
    rw [decide_eq_true_eq]
    intro listed
    obtain ⟨row, there, same⟩ := mem_map.mp listed
    obtain ⟨inside, current⟩ := List.mem_filter.mp there
    have unexpired := (of_decide_eq_true current).2
    obtain ⟨idSame, _, expirySame, _⟩ :=
      superseded_fields grant.id creation.directoryId creation.now row
    refine inserted.apart _ (List.mem_map_of_mem inside) (expirySame ▸ unexpired) ?_
    rw [idSame, same]
    exact ids ▸ List.mem_map_of_mem member
  rw [alone] at cohesion
  have keptIds := cohereReservations_new cohesion
  intro row member own
  obtain ⟨raw, filtered, rfl⟩ := mem_map.mp member
  obtain ⟨idSame, sessionSame, supersededSame, generationSame⟩ := coheredRow_fields kept raw
  rw [sessionSame] at own
  rcases inserted.rows raw (List.mem_filter.mp filtered).1 with ⟨before, other⟩ | ⟨nodeId, listed, rfl⟩
  · obtain ⟨old, there, rfl⟩ := mem_map.mp before
    have foreign : (superseded grant.id creation.directoryId creation.now old).id ∉ kept.map (·.id) := by
      simp [keptIds, ids, other]
    rw [coheredRow_of_other foreign]
    obtain ⟨_, sessionOld, expiryOld, generationOld⟩ :=
      superseded_fields grant.id creation.directoryId creation.now old
    have mine : old.sessionId = grant.id := sessionOld ▸ own
    refine .before old there mine generationOld foreign ?_
    by_cases current : creation.now < old.expiresAt ∧ old.supersededAt = none
    · right
      unfold superseded
      rw [if_pos ⟨mine, current.1, current.2, fresh old there mine⟩]
      exact Option.some_ne_none _
    · rw [not_and_or] at current
      rcases current with expired | past
      · left
        simp [expiryOld, Nat.not_lt.mp expired]
      · right
        simp [superseded, past]
  · refine .taken (generationSame.trans rfl) (supersededSame.trans rfl) ?_
    rw [idSame, keptIds, ids]
    exact List.mem_map_of_mem listed

theorem CreatedRow.congr {sessionId : String} {listed other : List String}
    (created : CreatedRow creation sessionId listed row) (same : ∀ id, id ∈ listed ↔ id ∈ other) :
    CreatedRow creation sessionId other row := by
  cases created with
  | taken generation current member => exact .taken generation current ((same _).mp member)
  | before old member own generation foreign past =>
    exact .before old member own generation (fun listed => foreign ((same _).mpr listed)) past

/-- **What a creation stores.** -/
structure Created (grant : SessionRequest) (generation : Nat) (creation : CreationCall)
    (granted : SessionRequest) (persisted : RelayAccessGeneration) (table : List RelayReservation) : Prop
    where
  next : generation = nextGeneration grant
  id : granted.id = grant.id
  active : granted.activeRelayGeneration = some generation
  status : granted.status = .approved
  number : persisted.generation = generation
  directoryId : persisted.directoryId = creation.directoryId
  rows : (∀ row ∈ creation.locked.reservations, row.sessionId = grant.id →
      row.directoryGeneration ≠ creation.directoryId) →
    ∀ row ∈ table, row.sessionId = grant.id → CreatedRow creation grant.id persisted.reservationIds row

/-- The reservations that a directory lists are those of its admission. -/
theorem wanPayload_ok {payload : RelayDirectoryPayload}
    (paid : wanPayload service grant target creation admitted = .ok payload) :
    payload.directoryId = creation.directoryId ∧ ∀ id, id ∈ admitted.reservations.map (·.id) ↔
        id ∈ payload.candidates.map (·.reservation.reservationId) := by
  obtain ⟨candidates, each, paid⟩ := bind_ok paid
  obtain ⟨_, _, ⟨⟩⟩ := bind_ok paid
  have named : ∀ reservation candidate, wanCandidate creation admitted reservation = .ok candidate →
      candidate.reservation.reservationId = reservation.id := by
    intro reservation candidate made
    obtain ⟨⟨node, registration⟩, _, made⟩ := bind_ok made
    obtain ⟨endpoints, _, ⟨⟩⟩ := bind_ok (guard_ok made)
    rfl
  refine ⟨rfl, fun id => ⟨fun member => ?_, fun member => ?_⟩⟩
  · obtain ⟨reservation, listed, rfl⟩ := mem_map.mp member
    obtain ⟨candidate, inside, made⟩ := mem_results_of_mem each (mem_sortBy.mpr listed)
    exact mem_map.mpr ⟨candidate, inside, named reservation candidate made⟩
  · obtain ⟨candidate, inside, rfl⟩ := mem_map.mp member
    obtain ⟨reservation, listed, made⟩ := mem_of_mapM each inside
    exact mem_map.mpr ⟨reservation, mem_sortBy.mp listed, (named reservation candidate made).symm⟩

theorem createWanGeneration_created (done : createWanGeneration service grant target generation creation =
    .ok (granted, persisted, table)) : Created grant generation creation granted persisted table := by
  unfold createWanGeneration at done
  obtain ⟨valid, done⟩ := guarded_ok done
  obtain ⟨⟨built, reservations⟩, building, ⟨⟩⟩ := bind_ok done
  obtain ⟨admitted, admission, building⟩ := bind_ok building
  obtain ⟨payload, paid, building⟩ := bind_ok building
  obtain ⟨directory, signed, building⟩ := bind_ok building
  obtain ⟨primary, _, ⟨⟩⟩ := bind_ok building
  obtain ⟨directoryId, same⟩ := wanPayload_ok paid
  simp only [not_or, not_not] at valid
  exact ⟨valid.2.2.2.2, rfl, rfl, rfl, rfl, directoryId,
    fun fresh row member own => (admitWan_rows admission fresh row member own).congr same⟩

/-! ### The line of generations -/

/-- **The invariant.** -/
structure Linear (session : WanSession) : Prop where
  numbers : session.generations.map (·.generation) = List.range session.generations.length
  active : nextGeneration session.grant = session.generations.length
  approved : session.grant.status = .approved → session.generations ≠ []
  refreshed : session.refreshed.Nodup ∧ ∀ named ∈ session.refreshed, named + 1 < session.generations.length
  owned : ∀ row ∈ session.reservations, row.sessionId = session.grant.id →
    row.directoryGeneration ∈ session.generations.map (·.directoryId)
  listed : session.grant.status = .approved → ∀ row ∈ session.reservations,
    row.sessionId = session.grant.id → session.clock < row.expiresAt → row.supersededAt = none →
      ∀ last ∈ session.generations.getLast?, row.id ∈ last.reservationIds
  current : session.grant.status = .approved → ∀ last ∈ session.generations.getLast?,
    ∀ row ∈ session.reservations, row.sessionId = session.grant.id → row.id ∈ last.reservationIds →
      row.supersededAt = none
  fetched : ∀ pair ∈ session.fetched, ∃ persisted ∈ session.generations,
    persisted.generation = pair.1 ∧ persisted.signedDirectory = pair.2

theorem linear_of_requested {session : WanSession} (requested : Requested session) : Linear session := by
  obtain ⟨status, inactive, generations, reservations, refreshed, fetched⟩ := requested
  refine ⟨?_, ?_, fun approved => ?_, ⟨?_, ?_⟩, fun row member own => ?_, fun approved => ?_,
    fun approved => ?_, ?_⟩
  · simp [generations]
  · simp [generations, nextGeneration, inactive]
  · cases status.symm.trans approved
  · simp [refreshed]
  · simp [refreshed]
  · exact absurd own (reservations row member)
  · cases status.symm.trans approved
  · cases status.symm.trans approved
  · simp [fetched]

theorem Linear.later {session : WanSession} (linear : Linear session) {clock : Nat}
    (later : session.clock ≤ clock) : Linear { session with clock } :=
  { linear with
    listed := fun approved row member own unexpired =>
      linear.listed approved row member own (Nat.lt_of_le_of_lt later unexpired) }

variable {session after : WanSession}

variable {commits : Bool}

/-- The constraints of the table keep a new directory apart from the old ones. -/
theorem create_ok (linear : Linear session) (same : grant.id = session.grant.id)
    (done : session.create service grant target generation creation commits = .ok after) :
    ∃ granted persisted table, Created grant generation { creation with locked :=
        { creation.locked with reservations := session.reservations } } granted persisted table ∧
      (∀ row ∈ session.reservations, row.sessionId = grant.id →
        row.directoryGeneration ≠ creation.directoryId) ∧
      after = { session with
        grant := granted, generations := session.generations ++ [persisted], reservations := table } := by
  obtain ⟨⟨granted, persisted, table⟩, creating, done⟩ := bind_ok done
  obtain ⟨unique, ⟨⟩⟩ := guarded_ok done
  have created := createWanGeneration_created creating
  refine ⟨granted, persisted, table, created, fun row member own equal => ?_, rfl⟩
  rw [not_or] at unique
  obtain ⟨other, listed, named⟩ := mem_map.mp (linear.owned row member (own.trans same))
  refine unique.1 (List.any_eq_true.mpr ⟨other, listed, Bool.or_eq_true_iff.mpr (.inr (decide_eq_true ?_))⟩)
  rw [created.directoryId, named]
  exact equal

/-- **A creation continues the line.** -/
theorem create_linear (linear : Linear session) (same : grant.id = session.grant.id)
    (sameActive : grant.activeRelayGeneration = session.grant.activeRelayGeneration)
    (done : session.create service grant target generation creation commits = .ok after) :
    Linear { after with clock := creation.now } ∧ session.generations <+: after.generations ∧
      generation = session.generations.length ∧ after.refreshed = session.refreshed ∧
      after.generations.length = session.generations.length + 1 := by
  obtain ⟨granted, persisted, table, created, fresh, rfl⟩ := create_ok linear same done
  have next : generation = session.generations.length := by
    simp [created.next, ← linear.active, nextGeneration, sameActive]
  have rows := created.rows fresh
  have own : ∀ row : RelayReservation, row.sessionId = granted.id → row.sessionId = grant.id :=
    fun _ mine => mine.trans created.id
  have length : (session.generations ++ [persisted]).length = session.generations.length + 1 := by
    simp
  refine ⟨⟨?_, ?_, fun _ => ?_, ⟨linear.refreshed.1, fun named member => ?_⟩, fun row member mine => ?_,
    fun _ row member mine unexpired current last final => ?_,
    fun _ last final row member mine listed => ?_, fun pair member => ?_⟩,
    List.prefix_append _ _, next, rfl, length⟩
  · rw [length, List.map_append, linear.numbers, List.range_succ, List.map_singleton, created.number, next]
  · simp [nextGeneration, created.active, length, next]
  · exact List.append_ne_nil_of_right_ne_nil _ (cons_ne_nil _ _)
  · have := linear.refreshed.2 named member
    rw [length]
    omega
  · show row.directoryGeneration ∈ (session.generations ++ [persisted]).map (·.directoryId)
    rw [List.map_append, mem_append]
    cases rows row member (own row mine) with
    | taken directory _ _ =>
      exact .inr (mem_singleton.mpr (directory.trans created.directoryId.symm))
    | before old there mineOld directory _ _ =>
      rw [directory]
      exact .inl (linear.owned old there (mineOld.trans same))
  · rw [List.getLast?_append_of_ne_nil _ (cons_ne_nil _ _)] at final
    cases final
    cases rows row member (own row mine) with
    | taken _ _ listed => exact listed
    | before _ _ _ _ _ past =>
      rcases past with expired | superseded
      · exact absurd unexpired (Nat.not_lt.mpr expired)
      · exact absurd current superseded
  · rw [List.getLast?_append_of_ne_nil _ (cons_ne_nil _ _)] at final
    cases final
    cases rows row member (own row mine) with
    | taken _ current _ => exact current
    | before _ _ _ _ other _ => exact absurd listed other
  · obtain ⟨stored, known, both⟩ := linear.fetched pair member
    exact ⟨stored, List.mem_append_left _ known, both⟩

/-! ### The transactions -/

/-- **What a transaction does to the line**: it keeps the invariant, and adds at the end at most. -/
structure Continues (session after : WanSession) (clock : Nat) : Prop where
  linear : Linear { after with clock }
  generations : session.generations <+: after.generations

theorem Continues.of_created (linear : Linear session) (same : grant.id = session.grant.id)
    (sameActive : grant.activeRelayGeneration = session.grant.activeRelayGeneration)
    (done : session.create service grant target generation creation commits = .ok after) :
    Continues session after creation.now :=
  have created := create_linear linear same sameActive done
  ⟨created.1, created.2.1⟩

theorem continues_approve {call : ApproveCall} (linear : Linear session)
    (later : session.clock ≤ call.creation.now) (done : session.approve service call = .ok after) :
    Continues session after call.creation.now := by
  unfold approve at done
  have done := guard_ok done
  split at done
  · obtain ⟨_, _, done⟩ := bind_ok (guard_ok done)
    obtain ⟨_, _, done⟩ := bind_ok done
    cases guard_ok done
    exact ⟨linear.later later, prefix_rfl⟩
  · obtain ⟨created, creating, done⟩ := bind_ok done
    cases guard_ok done
    exact .of_created linear (by rfl) (by rfl) creating
  · cases done

theorem continues_refresh {call : RefreshCall} (linear : Linear session)
    (done : session.refresh service call = .ok after) : Continues session after call.creation.now := by
  obtain ⟨_, _, done⟩ := bind_ok done
  obtain ⟨created, creating, ⟨⟩⟩ := bind_ok done
  obtain ⟨line, more, next, same, length⟩ := create_linear linear rfl rfl creating
  refine ⟨{ line with refreshed := ⟨?_, fun named member => ?_⟩ }, more⟩
  · show (created.refreshed ++ [call.generation]).Nodup
    rw [same]
    refine List.nodup_append.mpr ⟨linear.refreshed.1, List.nodup_singleton _, fun named member other last => ?_⟩
    have before := linear.refreshed.2 named member
    cases mem_singleton.mp last
    omega
  · show named + 1 < created.generations.length
    rcases mem_append.mp member with before | last
    · have earlier := line.refreshed.2 named before
      exact earlier
    · cases mem_singleton.mp last
      omega

theorem stored_ok {persisted : RelayAccessGeneration} (found : session.stored generation = some persisted) :
    persisted ∈ session.generations ∧ persisted.generation = generation :=
  ⟨List.mem_of_find?_eq_some found, by simpa using List.find?_some found⟩

/-- **What a fetch returns**: the directory that is stored under the active generation. -/
theorem fetch_ok {call : FetchCall} (done : session.fetch service target call commits = .ok after) :
    session.grant.status = .approved ∧ session.grant.activeRelayGeneration = some call.generation ∧
      ∃ persisted ∈ session.generations, persisted.generation = call.generation ∧ after = { session with
          fetched := session.fetched ++ [(call.generation, persisted.signedDirectory)] } := by
  obtain ⟨result, fetched, done⟩ := bind_ok done
  cases guard_ok done
  obtain ⟨_, authorized, fetched⟩ := bind_ok fetched
  obtain ⟨persisted, found, fetched⟩ := bind_ok fetched
  obtain ⟨directory, valid, fetched⟩ := bind_ok fetched
  obtain ⟨credentials, _, ⟨⟩⟩ := bind_ok fetched
  obtain ⟨listed, number⟩ := stored_ok (required_ok found)
  have same := (validatePersisted_ok valid).1
  unfold authorizeWanAccess at authorized
  split at authorized
  next checked =>
    exact ⟨checked.2.1, checked.2.2.2.2.2, persisted, listed, number, by rw [same]⟩
  · cases authorized

theorem continues_fetch {call : FetchCall} (linear : Linear session)
    (later : session.clock ≤ call.now) (done : session.fetch service target call commits = .ok after) :
    Continues session after call.now := by
  obtain ⟨_, _, persisted, listed, number, rfl⟩ := fetch_ok done
  refine ⟨{ linear.later later with fetched := fun pair member => ?_ }, prefix_rfl⟩
  rcases mem_append.mp member with before | last
  · exact linear.fetched pair before
  · cases mem_singleton.mp last
    exact ⟨persisted, listed, number, rfl⟩

theorem released_fields (sessionId : String) (now : Nat) (row : RelayReservation) :
    (released sessionId now row).sessionId = row.sessionId ∧
      (released sessionId now row).directoryGeneration = row.directoryGeneration := by
  unfold released
  split <;> exact ⟨rfl, rfl⟩

theorem terminal_not_approved (action : TransitionAction) : action.terminal ≠ .approved := by
  cases action <;> decide

theorem continues_transition {action : TransitionAction} {authorized : Bool} {now : Nat}
    (linear : Linear session) (done : session.transition action authorized now = .ok after) :
    Continues session after now := by
  have owned : ∀ row ∈ session.reservations.map (released session.grant.id now),
      row.sessionId = session.grant.id →
        row.directoryGeneration ∈ session.generations.map (·.directoryId) := by
    intro row member own
    obtain ⟨old, there, rfl⟩ := mem_map.mp member
    obtain ⟨sessionSame, generationSame⟩ := released_fields session.grant.id now old
    rw [generationSame]
    exact linear.owned old there (sessionSame ▸ own)
  have ended : ∀ status, status = action.terminal → status ≠ .approved :=
    fun status same => same ▸ terminal_not_approved action
  unfold transition at done
  have done := guard_ok done
  split at done
  next same =>
    cases done
    have gone := ended _ same
    exact ⟨⟨linear.numbers, linear.active, fun approved => absurd approved gone, linear.refreshed, owned,
      fun approved => absurd approved gone, fun approved => absurd approved gone, linear.fetched⟩,
      prefix_rfl⟩
  · cases guard_ok done
    have gone := ended _ rfl
    exact ⟨⟨linear.numbers, linear.active, fun approved => absurd approved gone, linear.refreshed, owned,
      fun approved => absurd approved gone, fun approved => absurd approved gone, linear.fetched⟩,
      prefix_rfl⟩

theorem continues_elsewhere {now : Nat} (linear : Linear session) (later : session.clock ≤ now)
    (alone : leavesAlone session reservations now = true) :
    Continues session { session with reservations } now := by
  have known : ∀ row ∈ reservations, row.sessionId = session.grant.id → row ∈ session.reservations := by
    intro row member own
    have each := List.all_eq_true.mp (Bool.and_eq_true_iff.mp alone).1 row member
    rw [own] at each
    simpa using each
  have line := linear.later later
  exact ⟨{ line with
      owned := fun row member own => linear.owned row (known row member own) own
      listed := fun approved row member own => line.listed approved row (known row member own) own
      current := fun approved last final row member own =>
        linear.current approved last final row (known row member own) own }, prefix_rfl⟩

/-- **One step** keeps the invariant and adds at the end of the line at most. -/
theorem step_continues {event : WanEvent} (linear : Linear session)
    (taken : session.step service event = some after) :
    Linear after ∧ session.generations <+: after.generations := by
  unfold WanSession.step at taken
  rw [Option.ite_none_right_eq_some] at taken
  obtain ⟨⟨first, second⟩, taken⟩ := taken
  have later := Nat.le_trans first second
  cases performed : event.perform service session with
  | error _ =>
    rw [performed] at taken
    cases taken
    exact ⟨linear.later later, prefix_rfl⟩
  | ok result =>
    rw [performed] at taken
    cases taken
    have continues : Continues session result event.times.2 := by
      cases event with
      | approve call => exact continues_approve linear later performed
      | refresh call => exact continues_refresh linear performed
      | fetch target call commits => exact continues_fetch linear later performed
      | transition action authorized now => exact continues_transition linear performed
      | elsewhere reservations now =>
        change (if leavesAlone session reservations now then Except.ok { session with reservations }
          else .error RelayAccessError.failed) = .ok result at performed
        split at performed
        next alone =>
          cases performed
          exact continues_elsewhere linear later alone
        · cases performed
    exact ⟨continues.linear, continues.generations⟩

/-! ### Runs -/

theorem reach_continues (linear : Linear session)
    (reach : Reach (WanSession.step service) always session after) :
    Linear after ∧ session.generations <+: after.generations := by
  induction reach with
  | refl => exact ⟨linear, prefix_rfl⟩
  | tail _ _ taken ih =>
    obtain ⟨line, more⟩ := step_continues ih.1 taken
    exact ⟨line, ih.2.trans more⟩

/-- **The active generation of an approved session.** -/
structure Active (session : WanSession) (active : RelayAccessGeneration) : Prop where
  stored : active ∈ session.generations
  number : session.grant.activeRelayGeneration = some active.generation
  listed : ∀ row ∈ session.reservations, row.sessionId = session.grant.id → session.clock < row.expiresAt →
    row.supersededAt = none → row.id ∈ active.reservationIds
  current : ∀ row ∈ session.reservations, row.sessionId = session.grant.id →
    row.id ∈ active.reservationIds → row.supersededAt = none

theorem Linear.activeOf (linear : Linear session) (approved : session.grant.status = .approved) :
    ∃ active, Active session active := by
  have there := linear.approved approved
  have final : session.generations.getLast? = some (session.generations.getLast there) :=
    List.getLast?_eq_getLast_of_ne_nil there
  have last : (session.generations.getLast there).generation = session.generations.length - 1 := by
    have numbered := congrArg List.getLast? linear.numbers
    rw [List.getLast?_map, final, List.getLast?_range] at numbered
    simpa [there] using numbered
  have number : session.grant.activeRelayGeneration = some (session.generations.length - 1) := by
    have active := linear.active
    have positive := List.length_pos_iff.mpr there
    unfold nextGeneration at active
    split at active
    · omega
    next generation known =>
      simp [known, ← active]
  exact ⟨_, List.getLast_mem there, number.trans (congrArg Option.some last.symm),
    fun row member own unexpired current =>
      linear.listed approved row member own unexpired current _ final,
    fun row member own listed => linear.current approved _ final row member own listed⟩

theorem Linear.eq_of_number (linear : Linear session) {first second : RelayAccessGeneration}
    (one : first ∈ session.generations) (two : second ∈ session.generations)
    (same : first.generation = second.generation) : first = second := by
  refine List.inj_on_of_nodup_map ?_ one two same
  rw [linear.numbers]
  exact List.nodup_range

/-- **The generations of a session form one line.** In every state that a requested session can reach:
the stored generations are numbered from 0 to the active one, and from here on none of them is changed or
lost; no two refreshes that named the same generation have succeeded; while the session is approved, its
reservations that are neither expired nor superseded are listed by the active generation, which lists none
that has been superseded; a fetch only succeeds for the active generation, and returns what is stored
under it; and what was fetched of a generation was always the same. -/
theorem linear_history {service : RelayAccessService} {first session : WanSession}
    (requested : Requested first) (reach : Reach (WanSession.step service) always first session) :
    session.generations.map (·.generation) = List.range (nextGeneration session.grant) ∧
      (∀ later, Reach (WanSession.step service) always session later →
        session.generations <+: later.generations) ∧
      session.refreshed.Nodup ∧
      (session.grant.status = .approved → ∃ active, Active session active) ∧
      (∀ target call commits after, session.fetch service target call commits = .ok after →
        session.grant.status = .approved ∧ session.grant.activeRelayGeneration = some call.generation ∧
          ∃ persisted ∈ session.generations, persisted.generation = call.generation ∧
            after = { session with
              fetched := session.fetched ++ [(call.generation, persisted.signedDirectory)] }) ∧
      ∀ generation one two, (generation, one) ∈ session.fetched → (generation, two) ∈ session.fetched →
        one = two := by
  have linear := (reach_continues (linear_of_requested requested) reach).1
  refine ⟨linear.active ▸ linear.numbers, fun later more => (reach_continues linear more).2,
    linear.refreshed.1, linear.activeOf, fun target call commits after done => fetch_ok done, ?_⟩
  intro generation one two left right
  obtain ⟨firstRow, firstListed, firstNumber, rfl⟩ := linear.fetched _ left
  obtain ⟨secondRow, secondListed, secondNumber, rfl⟩ := linear.fetched _ right
  rw [linear.eq_of_number firstListed secondListed (firstNumber.trans secondNumber.symm)]

/-! ### A sample -/

def sampleWanSession : WanSession where
  grant := { sampleWanGrant with intendedPeerId := none, policyRevision := none }
  generations := []
  reservations := []
  clock := 0
  refreshed := []
  fetched := []

/-- A creation at some second, which draws the identifiers of that second. -/
def creationAt (second : Nat) (directoryId reservationId : String) : CreationCall :=
  { sampleCreation with
    now := fromTimestamp second
    directoryId
    newIds := fun _ => reservationId }

def fetchAt (second generation : Nat) : FetchCall :=
  { sampleFetch [] with
    generation
    now := fromTimestamp second
    issuedAt := fun _ => second }

/-- The session is approved and fetched, refreshed and fetched again. -/
def sampleWanEvents : List WanEvent := [
  .approve
    { authorized := true
      target := sampleTarget
      policy := ⟨600, 600, 1, ["eu"], ["eu"], [.udp], 0⟩
      approvedScopes := []
      approvedProfile := none
      authorityExpiresAt := 0
      authorityHolds := true
      now := fromTimestamp 100
      creation := creationAt 100 "directory-1" "reservation-1"
      commits := true },
  .fetch sampleTarget (fetchAt 101 0) true,
  .refresh
    { authorized := true
      target := sampleTarget
      policyRevision := 1
      generation := 0
      now := fromTimestamp 102
      creation := creationAt 102 "directory-2" "reservation-2"
      commits := true },
  .fetch sampleTarget (fetchAt 103 1) true]

theorem linear_history_sample : ∃ session,
    session.generations.map (·.generation) = [0, 1] ∧ session.refreshed = [0] ∧
      session.fetched.map Prod.fst = [0, 1] ∧ session.grant.status = .approved ∧
      session.generations.map (·.generation) = List.range (nextGeneration session.grant) ∧
      ∃ active, Active session active := by
  have ran : (run (WanSession.step sampleService) sampleWanSession sampleWanEvents).map (fun session =>
      (session.generations.map (·.generation), session.refreshed, session.fetched.map Prod.fst,
        session.grant.status)) = some ([0, 1], [0], [0, 1], .approved) := by decide +kernel
  obtain ⟨session, reached, same⟩ := Option.map_eq_some_iff.mp ran
  obtain ⟨generations, refreshed, fetched, approved⟩ : _ ∧ _ ∧ _ ∧ _ := by
    simpa only [Prod.mk.injEq] using same
  have requested : Requested sampleWanSession := ⟨rfl, rfl, rfl, List.forall_mem_nil _, rfl, rfl⟩
  obtain ⟨numbers, _, _, active, _⟩ := linear_history requested (run_reach reached)
  exact ⟨session, generations, refreshed, fetched, approved, numbers, active approved⟩

end MiniRemoteDesktop.Relay.Server
