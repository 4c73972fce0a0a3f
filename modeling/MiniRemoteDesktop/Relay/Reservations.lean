/-
**Reserving relay capacity** (`app/services/relay_repository.py`, `reserve_capacity`).

A call locks its session and the rows of its candidate nodes, supersedes the reservations of the
session's other generations, and then takes the candidates in the order it was given. A node on which
the session has a reservation gives that one again; on another node one is inserted, if the node has
room for it.

* `ReservationRequest.check` — what a call checks before it touches the database.
* `Round` — **what a round does**, case by case; `admitCandidate_round`: it is one of them.
-/

import MiniRemoteDesktop.Relay.ServerTables

namespace MiniRemoteDesktop.Relay.Server

open Checked

/-! ### Requests -/

inductive RepositoryError
  | invalidSessionId
  | invalidUserId
  | invalidReservationTtl
  | invalidNodeId
  | invalidResultLimit
  | tooManyCandidates
  | invalidDirectoryGeneration
  | invalidReservedEgress
  | invalidGenerationOverlap
  | sessionOwnerMismatch
  | reservationProfileMismatch
  /-- An `IntegrityError` of the database. -/
  | integrity
  /-- The update of a row that is gone. -/
  | stale

/-- `_MAX_RESERVATION_TTL_SECONDS`, in microseconds. -/
def maxReservationTtl : Nat := 300 * 1000000

def postgresBigintMax : Nat := 2 ^ 63 - 1

def validGeneralId (value : String) : Bool := Text.isIdentifier 128 value

/-- A call, with the expiry that it was given or that its TTL amounts to. -/
structure ReservationRequest where
  (sessionId userId : String)
  orderedNodeIds : List String
  (now expiresAt : Nat)
  directoryGeneration : Option String
  requiredEgressBps : Nat
  (preserveGenerationOverlap requireRegistration requireDistinctTopology : Bool)
  resultLimit : Nat

def ReservationRequest.check (request : ReservationRequest) : Except RepositoryError Unit := do
  if validGeneralId request.sessionId = false then .error .invalidSessionId
  if validGeneralId request.userId = false then .error .invalidUserId
  if ¬ (request.now < request.expiresAt ∧ request.expiresAt - request.now ≤ maxReservationTtl) then
    .error .invalidReservationTtl
  if ¬ (1 ≤ request.resultLimit ∧ request.resultLimit ≤ 8) then .error .invalidResultLimit
  if 8 < request.orderedNodeIds.length then .error .tooManyCandidates
  if request.orderedNodeIds.any (fun nodeId => validGeneralId nodeId = false) then .error .invalidNodeId
  if request.directoryGeneration.any (fun generation => validGeneralId generation = false) then
    .error .invalidDirectoryGeneration
  if postgresBigintMax < request.requiredEgressBps then .error .invalidReservedEgress
  if request.preserveGenerationOverlap ∧ request.directoryGeneration = none then
    .error .invalidGenerationOverlap
  else .ok ()

/-- `list(dict.fromkeys(...))`: the first of each. -/
def fromKeys : List String → List String
  | [] => []
  | key :: rest => key :: (fromKeys rest).filter (· ≠ key)

theorem nodup_fromKeys (keys : List String) : (fromKeys keys).Nodup := by
  induction keys with
  | nil => exact List.nodup_nil
  | cons first rest ih =>
    refine List.nodup_cons.mpr ⟨fun member => ?_, ih.filter _⟩
    exact absurd rfl (of_decide_eq_true (List.mem_filter.mp member).2)

/-! ### Before the loop -/

/-- The rows that a call locks. -/
structure Locked where
  nodes : List RelayNode
  registrations : List RelayNodeRegistration

def lockRows (nodes : List RelayNode) (registrations : List RelayNodeRegistration)
    (nodeIds : List String) : Locked where
  nodes := nodes.filter fun node => node.nodeId ∈ nodeIds
  registrations := registrations.filter fun registration => registration.nodeId ∈ nodeIds

/-- The variables of the loop. The rows in `activeRows` and `existing` are the objects of the call, not
the rows of the table. -/
structure Admission where
  activeRows : List RelayReservation
  existing : String → Option RelayReservation
  result : List RelayReservation
  selectedTopology : Option (String × Option String)

/-- The update that retires the previous generation. -/
def supersedes (request : ReservationRequest) : List Write :=
  match request.directoryGeneration with
  | some generation => [.supersede request.sessionId generation request.now]
  | none => []

/-- The reservations of the session by node; the last one of a node wins. -/
def existingOf (request : ReservationRequest) (activeRows : List RelayReservation) (nodeId : String) :
    Option RelayReservation :=
  (activeRows.filter fun row => request.preserveGenerationOverlap = false ∨
    some row.directoryGeneration = request.directoryGeneration).reverse.find? fun row =>
      row.nodeId = nodeId

/-- `table` is what the call reads after its update. -/
def begin (request : ReservationRequest) (table : List RelayReservation) :
    Except RepositoryError Admission := do
  let activeRows := table.filter fun row =>
    row.sessionId = request.sessionId ∧ request.now < row.expiresAt
  if activeRows.any (fun row => row.userId ≠ request.userId) then .error .sessionOwnerMismatch
  return ⟨activeRows, existingOf request activeRows, [], none⟩

/-! ### One round -/

/-- `_node_accepts_pending_reservation`. -/
def acceptsPending (node : RelayNode) (now : Nat) : Bool :=
  (node.state = .available || node.state = .degraded) && !hasPassed node.leaseExpiresAt now

/-- `_node_and_registration_accept_pending_reservation`. -/
def registeredAcceptsPending (node : RelayNode) (registration : RelayNodeRegistration) (now : Nat) :
    Bool :=
  acceptsPending node now && node.revokedAt.isNone && registration.status = .approved &&
    !hasPassed registration.certificateExpiresAt now && registration.topologyApprovedAt.isSome &&
    registration.physicalHostId.isSome && registration.physicalHostId = node.physicalHostId &&
    registration.failureDomain = node.failureDomain && registration.encryptedTurnSecret.isSome

/-- Whether the node is eligible; `none` when its registration is missing. -/
def eligible (request : ReservationRequest) (locked : Locked) (node : RelayNode) : Option Bool :=
  if request.requireRegistration then
    (locked.registrations.find? fun registration => registration.nodeId = node.nodeId).map
      fun registration => registeredAcceptsPending node registration request.now
  else some (acceptsPending node request.now)

def clashes (topology : Option (String × Option String)) (node : RelayNode) : Bool :=
  topology.any fun selected =>
    node.failureDomain = selected.1 || node.physicalHostId = selected.2

/-- The topology that the first selected node sets. -/
def Admission.topologyWith (admission : Admission) (node : RelayNode) : Option (String × Option String) :=
  admission.selectedTopology.orElse fun _ => some (node.failureDomain, node.physicalHostId)

/-- The table has a row of the same session, node and generation beside `id`. -/
def takenKey (table : List RelayReservation) (id sessionId nodeId generation : String) : Bool :=
  table.any fun row => row.id ≠ id && row.sessionId = sessionId && row.nodeId = nodeId &&
    row.directoryGeneration = generation

/-- The node has room for one more reservation. The differences are taken first, as in the source. -/
def hasRoom (request : ReservationRequest) (node : RelayNode) (table : List RelayReservation) : Bool :=
  let (pendingReservations, pendingEgressBps) := usage table node.nodeId request.now
  if node.maxAllocations ≤ 0 ∨ node.activeAllocations < 0 ∨
      node.maxAllocations ≤ node.activeAllocations ∨ node.maxEgressBps ≤ 0 ∨
      node.currentEgressBps < 0 ∨ node.maxEgressBps ≤ node.currentEgressBps then false
  else
    let remainingAfterActive := node.maxAllocations - node.activeAllocations
    let remainingEgressAfterActive := node.maxEgressBps - node.currentEgressBps
    if remainingAfterActive ≤ pendingReservations then false
    else if remainingEgressAfterActive < pendingEgressBps ∨
        remainingEgressAfterActive - pendingEgressBps < request.requiredEgressBps then false
    else true

/-- The reservation that a round inserts. -/
def newReservation (request : ReservationRequest) (id nodeId : String) : RelayReservation where
  id
  sessionId := request.sessionId
  userId := request.userId
  nodeId
  expiresAt := request.expiresAt
  supersededAt := none
  directoryGeneration := request.directoryGeneration.getD "legacy"
  reservedEgressBps := request.requiredEgressBps
  createdAt := request.now

/-- The round of a node on which the session has a reservation. -/
def readmit (request : ReservationRequest) (node : RelayNode) (table : List RelayReservation)
    (admission : Admission) (sameSession : RelayReservation) :
    Except RepositoryError (List Write × Admission) :=
  if sameSession.reservedEgressBps ≠ request.requiredEgressBps then .error .reservationProfileMismatch
  else
    match request.directoryGeneration with
    | none => .ok ([], { admission with
        result := admission.result ++ [sameSession], selectedTopology := admission.topologyWith node })
    | some generation =>
      if table.any (fun row => row.id = sameSession.id) = false then .error .stale
      else if takenKey table sameSession.id sameSession.sessionId sameSession.nodeId generation then
        .error .integrity
      else .ok ([.revive sameSession.id generation], { admission with
        activeRows := admission.activeRows.map (revived sameSession.id generation)
        result := admission.result ++ [revived sameSession.id generation sameSession]
        selectedTopology := admission.topologyWith node })

/-- The round of a node on which the session has none. -/
def admitNew (maxReservations : Nat) (request : ReservationRequest) (node : RelayNode)
    (table : List RelayReservation) (newId : String) (admission : Admission) :
    Except RepositoryError (List Write × Admission) :=
  if maxReservations ≤ (admission.activeRows.filter fun row => row.supersededAt = none).length then
    .ok ([], admission)
  else if hasRoom request node table = false then .ok ([], admission)
  else
    let reservation := newReservation request newId node.nodeId
    if table.any (fun row => row.id = newId) ∨ takenKey table newId reservation.sessionId
        reservation.nodeId reservation.directoryGeneration then .error .integrity
    else .ok ([.insert reservation],
      ⟨admission.activeRows ++ [reservation], Function.update admission.existing node.nodeId reservation,
        admission.result ++ [reservation], admission.topologyWith node⟩)

/-- The end of a round. `table` is what is left after the expired reservations of the node. -/
def admitNode (maxReservations : Nat) (request : ReservationRequest) (node : RelayNode)
    (eligible : Bool) (table : List RelayReservation) (newId : String) (admission : Admission) :
    Except RepositoryError (List Write × Admission) :=
  match eligible, admission.existing node.nodeId with
  | false, none => .ok ([], admission)
  | false, some sameSession =>
    if request.directoryGeneration = none then
      .ok ([.remove sameSession.id], { admission with
        activeRows := admission.activeRows.filter (·.id ≠ sameSession.id)
        existing := Function.update admission.existing node.nodeId none })
    else .ok ([], admission)
  | true, some sameSession => readmit request node table admission sameSession
  | true, none => admitNew maxReservations request node table newId admission

/-- One round of the loop: its statements and the variables after it. `table` is what the call reads,
and `newId` the identifier that an insertion would draw. -/
def admitCandidate (maxReservations : Nat) (request : ReservationRequest) (locked : Locked)
    (table : List RelayReservation) (newId : String) (admission : Admission) (nodeId : String) :
    Except RepositoryError (List Write × Admission) :=
  if request.resultLimit ≤ admission.result.length then .ok ([], admission)
  else
    match locked.nodes.find? fun node => node.nodeId = nodeId with
    | none => .ok ([], admission)
    | some node =>
      match eligible request locked node with
      | none => .ok ([], admission)
      | some eligible =>
        if request.requireDistinctTopology ∧ clashes admission.selectedTopology node then
          .ok ([], admission)
        else
          let purge := Write.purge node.nodeId request.now
          (admitNode maxReservations request node eligible (purge.apply table) newId admission).map
            fun (writes, admission) => (purge :: writes, admission)

/-! ### The call as a whole -/

/-- The rounds of the loop. `newIds` draws an identifier for each node. -/
def admitAll (maxReservations : Nat) (request : ReservationRequest) (locked : Locked)
    (table : List RelayReservation) (newIds : String → String) :
    List Write → Admission → List String → Except RepositoryError (List Write × Admission)
  | writes, admission, [] => .ok (writes, admission)
  | writes, admission, nodeId :: rest => do
    let (more, admission) ← admitCandidate maxReservations request locked (replay table writes) (newIds nodeId)
      admission nodeId
    admitAll maxReservations request locked table newIds (writes ++ more) admission rest

/-- `_reserve_capacity_locked`: the statements of the call and the reservations it returns. -/
def reserveCapacity (maxReservations : Nat) (request : ReservationRequest) (nodes : List RelayNode)
    (registrations : List RelayNodeRegistration) (table : List RelayReservation)
    (newIds : String → String) : Except RepositoryError (List Write × List RelayReservation) := do
  request.check
  let nodeIds := fromKeys request.orderedNodeIds
  if nodeIds = [] then return ([], [])
  let writes := supersedes request
  let admission ← begin request (replay table writes)
  let (writes, admission) ← admitAll maxReservations request (lockRows nodes registrations nodeIds)
    table newIds writes admission nodeIds
  return (writes, admission.result)

/-! ### What a round does -/

variable (request : ReservationRequest) (locked : Locked) (table : List RelayReservation) (newId
  nodeId : String) (admission : Admission) in
/-- **What a round does.** `table` is what the call reads before the round. -/
inductive Round : List Write × Admission → Prop
  /-- The node is passed over; its expired reservations may be deleted. -/
  | passed {writes : List Write} (purges : ∀ write ∈ writes, write = .purge nodeId request.now) :
      Round (writes, admission)
  /-- Without a generation, the reservation on a node that is not eligible is given up. -/
  | givenUp {node : RelayNode} {sameSession : RelayReservation} {next : Admission}
      (legacy : request.directoryGeneration = none)
      (found : locked.nodes.find? (fun node => node.nodeId = nodeId) = some node)
      (ineligible : eligible request locked node = some false)
      (held : admission.existing nodeId = some sameSession) (result : next.result = admission.result)
      (elsewhere : ∀ other, other ≠ nodeId → next.existing other = admission.existing other) :
      Round
        ([.purge nodeId request.now, .remove sameSession.id], next)
  /-- The reservation that the session has is returned. -/
  | returned {sameSession : RelayReservation} {writes : List Write} {next : Admission}
      (held : admission.existing nodeId = some sameSession)
      (revives : ∀ write ∈ writes, ∃ generation, write = .revive sameSession.id generation)
      (result : ∃ row, row.slot = sameSession.slot ∧ next.result = admission.result ++ [row])
      (elsewhere : ∀ other, other ≠ nodeId → next.existing other = admission.existing other) :
      Round (.purge nodeId request.now :: writes, next)
  /-- A reservation is inserted. -/
  | inserted {node : RelayNode} {next : Admission}
      (found : locked.nodes.find? (fun node => node.nodeId = nodeId) = some node)
      (eligible : eligible request locked node = some true)
      (room : hasRoom request node ((Write.purge nodeId request.now).apply table) = true)
      (result : next.result = admission.result ++ [newReservation request newId nodeId])
      (fresh : ∀ row ∈ (Write.purge nodeId request.now).apply table, row.id ≠ newId)
      (elsewhere : ∀ other, other ≠ nodeId → next.existing other = admission.existing other) :
      Round
        ([.purge nodeId request.now, .insert (newReservation request newId nodeId)], next)

variable {maxReservations : Nat} {request : ReservationRequest} {locked : Locked}
  {table : List RelayReservation} {newId nodeId : String} {admission : Admission}
  {outcome : List Write × Admission}

/-- **What taking a reservation again comes to**: nothing is written, or the generation takes it over. -/
theorem readmit_ok {node : RelayNode} {sameSession : RelayReservation}
    (done : readmit request node table admission sameSession = .ok outcome) :
    (request.directoryGeneration = none ∧ outcome = ([], { admission with
      result := admission.result ++ [sameSession], selectedTopology := admission.topologyWith node })) ∨
    ∃ generation, request.directoryGeneration = some generation ∧
      outcome = ([.revive sameSession.id generation], { admission with
        activeRows := admission.activeRows.map (revived sameSession.id generation)
        result := admission.result ++ [revived sameSession.id generation sameSession]
        selectedTopology := admission.topologyWith node }) := by
  unfold readmit at done
  split at done
  · cases done
  cases named : request.directoryGeneration with
  | none =>
    rw [named] at done
    cases done
    exact .inl ⟨rfl, rfl⟩
  | some generation =>
    rw [named] at done
    dsimp only at done
    split at done
    · cases done
    split at done
    · cases done
    · cases done
      exact .inr ⟨generation, rfl, rfl⟩

/-- The slots that rows of a session take up: those that are not superseded. -/
def used (rows : List RelayReservation) : Nat :=
  (rows.filter fun row => row.supersededAt = none).length

/-- **What asking for a new reservation comes to**: it is inserted where the session has a slot left and
the node has room. -/
theorem admitNew_ok {node : RelayNode}
    (done : admitNew maxReservations request node table newId admission = .ok outcome) :
    if used admission.activeRows < maxReservations ∧ hasRoom request node table then
      (∀ row ∈ table, row.id ≠ newId) ∧ outcome = ([.insert (newReservation request newId node.nodeId)],
          ⟨admission.activeRows ++ [newReservation request newId node.nodeId],
            Function.update admission.existing node.nodeId (newReservation request newId node.nodeId),
            admission.result ++ [newReservation request newId node.nodeId], admission.topologyWith node⟩)
    else outcome = ([], admission) := by
  unfold admitNew at done
  split at done
  next full =>
    cases done
    rw [if_neg fun takes => Nat.not_le_of_lt takes.1 full]
  rename_i unused
  split at done
  next full =>
    cases done
    simp [full]
  rename_i room
  dsimp only at done
  split at done
  · cases done
  rename_i free
  cases done
  rw [if_pos ⟨Nat.lt_of_not_le unused, Bool.not_eq_false _ ▸ room⟩]
  refine ⟨fun row member same => free (.inl ?_), rfl⟩
  exact List.any_eq_true.mpr ⟨row, member, decide_eq_true same⟩

theorem admitCandidate_round (done : admitCandidate maxReservations request locked table newId admission nodeId =
    .ok outcome) : Round request locked table newId nodeId admission outcome := by
  unfold admitCandidate at done
  split at done
  · cases done
    exact .passed (List.forall_mem_nil _)
  split at done
  · cases done
    exact .passed (List.forall_mem_nil _)
  rename_i node found
  split at done
  · cases done
    exact .passed (List.forall_mem_nil _)
  rename_i accepted accepts
  split at done
  · cases done
    exact .passed (List.forall_mem_nil _)
  have named : node.nodeId = nodeId := by simpa using List.find?_some found
  subst named
  obtain ⟨⟨writes, next⟩, settled, rfl⟩ := map_ok done
  unfold admitNode at settled
  split at settled
  · cases settled
    exact .passed fun write member => List.mem_singleton.mp member
  next sameSession held =>
    split at settled
    next legacy =>
      cases settled
      exact .givenUp legacy found accepts held rfl fun other differs => Function.update_of_ne differs _ _
    · cases settled
      exact .passed fun write member => List.mem_singleton.mp member
  next sameSession held =>
    rcases readmit_ok settled with ⟨_, same⟩ | ⟨generation, _, same⟩
    · cases same
      exact .returned held (List.forall_mem_nil _) ⟨sameSession, rfl, rfl⟩ fun _ _ => rfl
    · cases same
      refine .returned held ?_ ⟨_, slot_revived _ _ _, rfl⟩ fun _ _ => rfl
      exact fun write member => ⟨generation, List.mem_singleton.mp member⟩
  · have admitted := admitNew_ok settled
    split at admitted
    next takes =>
      obtain ⟨fresh, ⟨⟩⟩ := admitted
      refine .inserted found accepts takes.2 rfl fresh fun other differs => ?_
      exact Function.update_of_ne differs _ _
    · cases admitted
      exact .passed fun write member => List.mem_singleton.mp member

end MiniRemoteDesktop.Relay.Server
