/-
**The relay tables of the server** (`app/models`).

* `RelayNode`, `RelayNodeRegistration`, `RelayReservation` — the rows, with the columns that the
  directory and the reservations read.
* `usage` — what the unexpired reservations of a node take. `slotsOn_replay_sublist`: of two tables the
  one with fewer slots on a node has fewer of them after the same statements; `slotsOn_quiet`: no
  statement but an insertion adds to them.

A table is a list of rows in the order in which the database would list them.
-/

import Mathlib.Algebra.Order.BigOperators.Group.List
import Mathlib.Algebra.Order.Ring.Nat
import MiniRemoteDesktop.Relay.ServerSelection

namespace MiniRemoteDesktop.Relay.Server

/-! ### Rows -/

structure RelayNode where
  (nodeId region failureDomain : String)
  physicalHostId : Option String
  state : NodeState
  endpoints : List String
  encryptedTurnSecret : List UInt8
  (maxAllocations activeAllocations maxEgressBps currentEgressBps : Int)
  measuredRttMs : Option Int
  recentFailureBps : Int
  (leaseExpiresAt revokedAt : Option Nat)

structure RelayNodeRegistration where
  (nodeId failureDomain : String)
  physicalHostId : Option String
  topologyApprovedAt : Option Nat
  status : RegistrationStatus
  certificateExpiresAt : Option Nat
  encryptedTurnSecret : Option (List UInt8)

structure RelayReservation where
  (id sessionId userId nodeId : String)
  expiresAt : Nat
  supersededAt : Option Nat
  directoryGeneration : String
  (reservedEgressBps createdAt : Nat)
  deriving DecidableEq

def RelayNode.view (node : RelayNode) (registration : RelayNodeRegistration) : RelayNodeView where
  nodeId := node.nodeId
  region := node.region
  failureDomain := node.failureDomain
  physicalHostId := node.physicalHostId
  topologyApproved := registration.topologyApprovedAt.isSome && registration.physicalHostId.isSome &&
    decide (registration.physicalHostId = node.physicalHostId) &&
    decide (registration.failureDomain = node.failureDomain)
  state := node.state
  leaseExpiresAt := node.leaseExpiresAt
  revokedAt := node.revokedAt
  registrationStatus := registration.status
  certificateExpiresAt := registration.certificateExpiresAt
  endpoints := node.endpoints
  activeAllocations := node.activeAllocations
  maxAllocations := node.maxAllocations
  currentEgressBps := node.currentEgressBps
  maxEgressBps := node.maxEgressBps
  measuredRttMs := node.measuredRttMs
  recentFailureBps := node.recentFailureBps

theorem find?_of_nodup {α κ : Type} [DecidableEq κ] {key : α → κ} {rows : List α}
    (distinct : (rows.map key).Nodup) {row : α} (member : row ∈ rows) :
    rows.find? (fun other => key other = key row) = some row := by
  cases found : rows.find? fun other => key other = key row with
  | none => exact absurd (decide_eq_true rfl) (List.find?_eq_none.mp found row member)
  | some other =>
    have fits := List.find?_some found
    have same : key other = key row := of_decide_eq_true fits
    rw [List.inj_on_of_nodup_map distinct (List.mem_of_find?_eq_some found) member same]

/-! ### Statements -/

/-- A statement on the reservations. -/
inductive Write
  /-- Every current reservation of the session, of another generation, is superseded. -/
  | supersede (sessionId directoryGeneration : String) (now : Nat)
  /-- The expired reservations of a node are deleted. -/
  | purge (nodeId : String) (now : Nat)
  | remove (id : String)
  /-- A reservation is taken over by another generation. -/
  | revive (id directoryGeneration : String)
  | insert (reservation : RelayReservation)

/-- The update of one row by `supersede`. -/
def superseded (sessionId directoryGeneration : String) (now : Nat) (row : RelayReservation) :
    RelayReservation :=
  if row.sessionId = sessionId ∧ now < row.expiresAt ∧ row.supersededAt = none ∧
      row.directoryGeneration ≠ directoryGeneration then { row with supersededAt := some now }
  else row

/-- The update of one row by `revive`. -/
def revived (id directoryGeneration : String) (row : RelayReservation) : RelayReservation :=
  if row.id = id then
    { row with supersededAt := none, directoryGeneration }
  else row

def Write.apply (table : List RelayReservation) : Write → List RelayReservation
  | supersede sessionId directoryGeneration now =>
    table.map (superseded sessionId directoryGeneration now)
  | purge nodeId now => table.filter fun row => ¬ (row.nodeId = nodeId ∧ row.expiresAt ≤ now)
  | remove id => table.filter fun row => row.id ≠ id
  | revive id directoryGeneration => table.map (revived id directoryGeneration)
  | insert reservation => table ++ [reservation]

/-- The table after a list of statements. -/
def replay (table : List RelayReservation) (writes : List Write) : List RelayReservation :=
  writes.foldl Write.apply table

theorem replay_append (table : List RelayReservation) (first second : List Write) :
    replay table (first ++ second) = replay (replay table first) second :=
  List.foldl_append

/-! ### What reservations take -/

/-- What a reservation takes and for how long; no statement changes it. -/
structure Slot where
  (id nodeId : String)
  (expiresAt egressBps : Nat)

def RelayReservation.slot (row : RelayReservation) : Slot :=
  ⟨row.id, row.nodeId, row.expiresAt, row.reservedEgressBps⟩

/-- What a statement does to the slots. -/
def Write.onSlots (slots : List Slot) : Write → List Slot
  | supersede _ _ _ | revive _ _ => slots
  | purge nodeId now => slots.filter fun slot => ¬ (slot.nodeId = nodeId ∧ slot.expiresAt ≤ now)
  | remove id => slots.filter fun slot => slot.id ≠ id
  | insert reservation => slots ++ [reservation.slot]

theorem slot_superseded (sessionId directoryGeneration : String) (now : Nat) (row : RelayReservation) :
    (superseded sessionId directoryGeneration now row).slot = row.slot := by
  unfold superseded
  split <;> rfl

theorem slot_revived (id directoryGeneration : String) (row : RelayReservation) :
    (revived id directoryGeneration row).slot = row.slot := by
  unfold revived
  split <;> rfl

theorem slots_apply (table : List RelayReservation) (write : Write) :
    (write.apply table).map (·.slot) = write.onSlots (table.map (·.slot)) := by
  cases write with
  | supersede sessionId directoryGeneration now =>
    show (table.map _).map _ = table.map _
    rw [List.map_map]
    exact List.map_congr_left fun row _ => slot_superseded sessionId directoryGeneration now row
  | revive id directoryGeneration =>
    show (table.map _).map _ = table.map _
    simpa using List.map_congr_left fun row _ => slot_revived id directoryGeneration row
  | purge nodeId now | remove id =>
    show (table.filter _).map _ = (table.map _).filter _
    rw [List.filter_map]
    rfl
  | insert reservation => exact List.map_append

theorem slots_replay (table : List RelayReservation) (writes : List Write) :
    (replay table writes).map (·.slot) = writes.foldl Write.onSlots (table.map (·.slot)) := by
  induction writes generalizing table with
  | nil => rfl
  | cons write rest ih =>
    show (replay (write.apply table) rest).map _ = _
    simp [ih, slots_apply]

/-- The unexpired reservations of a node. -/
def pending (table : List RelayReservation) (nodeId : String) (now : Nat) : List RelayReservation :=
  table.filter fun row => row.nodeId = nodeId ∧ now < row.expiresAt

/-- How many reservations a node has, and the egress reserved on it. -/
def usage (table : List RelayReservation) (nodeId : String) (now : Nat) : Nat × Nat :=
  ((pending table nodeId now).length, ((pending table nodeId now).map (·.reservedEgressBps)).sum)

/-- The slots of a node. -/
def slotsOn (nodeId : String) (table : List RelayReservation) : List Slot :=
  (table.map (·.slot)).filter fun slot => slot.nodeId = nodeId

theorem usage_eq (table : List RelayReservation) (nodeId : String) (now : Nat) :
    usage table nodeId now = (((slotsOn nodeId table).filter fun slot => now < slot.expiresAt).length,
        (((slotsOn nodeId table).filter fun slot => now < slot.expiresAt).map (·.egressBps)).sum) := by
  have same : ((slotsOn nodeId table).filter fun slot => now < slot.expiresAt) =
      (pending table nodeId now).map (·.slot) := by
    unfold slotsOn pending
    rw [List.filter_map, List.filter_map, List.filter_filter]
    refine congrArg (List.map _) (List.filter_congr fun row _ => ?_)
    show (decide (now < row.expiresAt) && decide (row.nodeId = nodeId)) = _
    simp [Bool.and_comm]
  rw [same, List.length_map, List.map_map]
  rfl

variable {table other : List RelayReservation} {nodeId : String}

/-- **Fewer slots take less.** -/
theorem usage_le (now : Nat) (fewer : (slotsOn nodeId table).Sublist (slotsOn nodeId other)) :
    usage table nodeId now ≤ usage other nodeId now := by
  rw [usage_eq, usage_eq]
  have part := fewer.filter fun slot => decide (now < slot.expiresAt)
  exact ⟨part.length_le, (part.map _).sum_le_sum fun _ _ => Nat.zero_le _⟩

/-- A statement that inserts nothing on the node. -/
def Write.Quiet (nodeId : String) : Write → Prop
  | insert reservation => reservation.nodeId ≠ nodeId
  | _ => True

theorem slotsOn_apply (nodeId : String) (table : List RelayReservation) (write : Write) :
    slotsOn nodeId (write.apply table) =
      (write.onSlots (table.map (·.slot))).filter fun slot => slot.nodeId = nodeId := by
  rw [slotsOn, slots_apply]

theorem slotsOn_quiet {write : Write} (quiet : write.Quiet nodeId) (table : List RelayReservation) :
    (slotsOn nodeId (write.apply table)).Sublist (slotsOn nodeId table) := by
  rw [slotsOn_apply]
  cases write with
  | supersede | revive => exact List.Sublist.refl _
  | purge | remove => exact List.filter_sublist.filter _
  | insert reservation =>
    have off : ([reservation.slot].filter fun slot => decide (slot.nodeId = nodeId)) = [] :=
      List.filter_eq_nil_iff.mpr fun slot member => by
        cases List.mem_singleton.mp member
        exact fun on => quiet (of_decide_eq_true on)
    rw [Write.onSlots, List.filter_append, off, List.append_nil]
    exact List.Sublist.refl _

theorem slotsOn_quiet_replay {writes : List Write} (quiet : ∀ write ∈ writes, write.Quiet nodeId)
    (table : List RelayReservation) :
    (slotsOn nodeId (replay table writes)).Sublist (slotsOn nodeId table) := by
  induction writes generalizing table with
  | nil => exact List.Sublist.refl _
  | cons write rest ih =>
    exact (ih (List.forall_mem_cons.mp quiet).2 _).trans (slotsOn_quiet (quiet write (.head _)) table)

theorem slotsOn_apply_sublist (fewer : (slotsOn nodeId table).Sublist (slotsOn nodeId other))
    (write : Write) :
    (slotsOn nodeId (write.apply table)).Sublist (slotsOn nodeId (write.apply other)) := by
  rw [slotsOn_apply, slotsOn_apply]
  cases write with
  | supersede | revive => exact fewer
  | purge _ _ | remove _ =>
    rw [Write.onSlots, Write.onSlots, List.filter_filter, List.filter_filter]
    simp only [Bool.and_comm (decide (_ = nodeId))]
    rw [← List.filter_filter, ← List.filter_filter]
    exact fewer.filter _
  | insert reservation =>
    rw [Write.onSlots, Write.onSlots, List.filter_append, List.filter_append]
    exact fewer.append_right _

theorem slotsOn_replay_sublist (fewer : (slotsOn nodeId table).Sublist (slotsOn nodeId other))
    (writes : List Write) :
    (slotsOn nodeId (replay table writes)).Sublist (slotsOn nodeId (replay other writes)) := by
  induction writes generalizing table other with
  | nil => exact fewer
  | cons write rest ih => exact ih (slotsOn_apply_sublist fewer write)

end MiniRemoteDesktop.Relay.Server
